import RinaSense.Common.Ids

/-!
# The EFCP instance map

The fixed table of `efcp.c` from CEP ids to EFCP instances. The functions are
generic in the type of instance references; a null `xEfcpValue` is `none`.
-/

namespace RinaSense

universe u

variable {α : Type u}

/-- `efcpImapRow_t`. -/
structure EfcpImapRow (α : Type u) where
  xCepIdKey : CepId
  xEfcpValue : Option α
  ucValid : UInt8
  deriving Repr, DecidableEq

abbrev EfcpImapTable (α : Type u) := List (EfcpImapRow α)

/-- `EFCP_IMAP_ENTRIES`. -/
def efcpImapEntries : Nat := 3

def xNullImapRow : EfcpImapRow α where
  xCepIdKey := 0
  xEfcpValue := none
  ucValid := 0

def xEfcpImapCreate : EfcpImapTable α := List.replicate efcpImapEntries xNullImapRow

/-- The table after the lookup and the instance found. The loop compares keys
only: it stops at the first row with the key, valid or not, and marks it valid. -/
def pxEfcpImapFind (xCepIdKey : CepId) : EfcpImapTable α → EfcpImapTable α × Option α
  | [] => ([], none)
  | row :: rows =>
      if row.xCepIdKey = xCepIdKey then
        ({ row with ucValid := 1 } :: rows, row.xEfcpValue)
      else
        let (rest, xEfcpFounded) := pxEfcpImapFind xCepIdKey rows
        (row :: rest, xEfcpFounded)

/-- The loop writes its first row and returns, whatever the row held. -/
def xEfcpImapAdd (xCepId : CepId) (pxEfcp : α) : EfcpImapTable α → EfcpImapTable α × Bool
  | [] => ([], false)
  | _ :: rows =>
      ({ xCepIdKey := xCepId, xEfcpValue := some pxEfcp, ucValid := 1 } :: rows, true)

/-- The loop clears the first row with the key; the result does not tell whether
there was one. -/
def xEfcpImapRemove (xCepId : CepId) : EfcpImapTable α → EfcpImapTable α × Bool
  | [] => ([], true)
  | row :: rows =>
      if row.xCepIdKey = xCepId then (xNullImapRow :: rows, true)
      else
        let (rest, result) := xEfcpImapRemove xCepId rows
        (row :: rest, result)

@[simp] theorem pxEfcpImapFind_nil (key : CepId) :
    pxEfcpImapFind key ([] : EfcpImapTable α) = ([], none) := rfl

theorem pxEfcpImapFind_cons (key : CepId) (row : EfcpImapRow α) (rows : EfcpImapTable α) :
    pxEfcpImapFind key (row :: rows) =
      if row.xCepIdKey = key then ({ row with ucValid := 1 } :: rows, row.xEfcpValue)
      else (row :: (pxEfcpImapFind key rows).1, (pxEfcpImapFind key rows).2) := rfl

@[simp] theorem xEfcpImapAdd_cons (key : CepId) (efcp : α) (row : EfcpImapRow α)
    (rows : EfcpImapTable α) :
    xEfcpImapAdd key efcp (row :: rows) = (⟨key, some efcp, 1⟩ :: rows, true) := rfl

theorem xEfcpImapRemove_cons (key : CepId) (row : EfcpImapRow α) (rows : EfcpImapTable α) :
    xEfcpImapRemove key (row :: rows) =
      if row.xCepIdKey = key then (xNullImapRow :: rows, true)
      else (row :: (xEfcpImapRemove key rows).1, (xEfcpImapRemove key rows).2) := rfl

/-- Removal succeeds on every table. -/
@[simp] theorem xEfcpImapRemove_result (key : CepId) (table : EfcpImapTable α) :
    (xEfcpImapRemove key table).2 = true := by
  induction table with
  | nil => rfl
  | cons row rows ih =>
      rw [xEfcpImapRemove_cons]
      split
      · rfl
      · exact ih

end RinaSense
