import RinaSense.Library.Ring
import RinaSense.Library.Trace
import Mathlib.Data.UInt

/-!
# Hash tables

`common/hashtab.h` and its implementation: chained buckets of entries that come from a
free list. The links of an entry and the link of the free list are the same memory.
What a table is for is a finite map; the module determines the runs of operations that
keep to this.
-/

namespace RinaSense

/-- The places that links lead to: the heads of the buckets and the entries. -/
inductive HtPlace where
  | bucket (number : Nat)
  | entry (number : Nat)
  deriving Repr, DecidableEq

/-! ## Keys -/

/-- A string key: the characters up to the end of the string. -/
abbrev HtName := { name : List UInt8 // 0 ∉ name }

def prvHashedName (name : HtName) : UInt32 :=
  name.val.foldl (fun hash char => (hash >>> 16) + ((hash <<< 5) ^^^ char.toUInt32)) 0

def prvHashedInt (key : UInt32) : UInt32 := 277 * key + key + 12345

/-- The kinds of keys, with what the bucket of a key is computed from. -/
class HtKey (κ : Type) where
  hashed : κ → UInt32

instance : HtKey UInt32 := ⟨prvHashedInt⟩

instance : HtKey HtName := ⟨prvHashedName⟩

/-! ## Tables -/

/-- `hashtab_t` and what its pointers lead to. The links of a place are those of its
`xLinks`; `pxFreelist` of an entry is the first of them, `prev`. Entries are numbered as
they are allocated, so there are `entries` of them, which fit into memory. -/
structure HashTab (κ ν : Type) where
  xLinks : Links HtPlace
  pxFreelist : Option HtPlace
  key : HtPlace → Option κ
  pxValue : HtPlace → Option ν
  ulBucketCount : UInt32
  ulMaxEntries : Nat
  ulCurEntries : Nat
  ulAllocSize : Nat
  entries : Nat

inductive HashTabFault where
  | nullPointer
  /-- A walk does not come back to the head of its bucket. -/
  | lost
  | outOfBounds
  deriving Repr, DecidableEq

/-- `htMAX_ALLOCSIZE`. -/
def htMaxAllocsize : UInt32 := 0xffff

/-- The bytes of an entry, with its alignment, and of a bucket. -/
def sizeofHashent : Nat := 20

def sizeofLink : Nat := 8

namespace HashTab

variable {κ ν : Type}

/-- Put a new entry on the free list, once for each entry of a new block. -/
def addFree : Nat → HashTab κ ν → HashTab κ ν
  | 0, table => table
  | count + 1, table =>
      let e := HtPlace.entry table.entries
      addFree count { table with
        xLinks := { table.xLinks with
          prev := Function.update table.xLinks.prev e table.pxFreelist }
        pxFreelist := some e
        entries := table.entries + 1 }

/-- New entries change none of the counts of the table. -/
theorem addFree_counts (count : Nat) (table : HashTab κ ν) :
    (table.addFree count).ulMaxEntries = table.ulMaxEntries ∧
      (table.addFree count).ulCurEntries = table.ulCurEntries ∧
        (table.addFree count).ulAllocSize = table.ulAllocSize := by
  induction count generalizing table with
  | zero => exact ⟨rfl, rfl, rfl⟩
  | succ count ih => exact ih _

/-- The size of the block is computed in 32 bits, so that of a huge one is too small for
its entries. -/
def prvMorefree (memory : Bool) (table : HashTab κ ν) (num2add : Nat) :
    Except HashTabFault (HashTab κ ν × Nat) :=
  if (table.ulMaxEntries != 0 && table.ulCurEntries + num2add > table.ulMaxEntries) || !memory then
    .ok (table, 0)
  else if sizeofHashent * num2add < 2 ^ 32 then .ok (table.addFree num2add, table.ulAllocSize)
  else .error .outOfBounds

/-- Blocks of the size of the table are never too large. -/
theorem prvMorefree_eq {table : HashTab κ ν} (small : table.ulAllocSize ≤ htMaxAllocsize.toNat) (memory : Bool) :
    table.prvMorefree memory table.ulAllocSize =
      if memory = true ∧ (table.ulMaxEntries = 0 ∨
          table.ulCurEntries + table.ulAllocSize ≤ table.ulMaxEntries) then
        .ok (table.addFree table.ulAllocSize, table.ulAllocSize)
      else .ok (table, 0) := by
  have fits : sizeofHashent * table.ulAllocSize < 2 ^ 32 := by
    have max : htMaxAllocsize.toNat = 65535 := rfl
    rw [sizeofHashent]
    omega
  have refused : ((table.ulMaxEntries != 0 &&
        decide (table.ulCurEntries + table.ulAllocSize > table.ulMaxEntries)) || !memory) =
      !decide (memory = true ∧ (table.ulMaxEntries = 0 ∨
        table.ulCurEntries + table.ulAllocSize ≤ table.ulMaxEntries)) := by
    rw [Bool.eq_iff_iff]
    simp only [Bool.or_eq_true, Bool.and_eq_true, bne_iff_ne, decide_eq_true_eq,
      Bool.not_eq_true', decide_eq_false_iff_not]
    cases memory with
    | false => simp
    | true => simp [not_or]
  rw [prvMorefree, refused]
  split
  · next refused =>
      simp only [Bool.not_eq_true', decide_eq_false_iff_not] at refused
      rw [if_neg refused]
  · next allowed =>
      simp only [Bool.not_eq_true', Bool.not_eq_false, decide_eq_true_eq] at allowed
      rw [if_pos allowed]

/-- Take the first entry of the free list. -/
def takeFree (table : HashTab κ ν) (e : HtPlace) : HashTab κ ν :=
  { table with
    pxFreelist := table.xLinks.prev e
    ulCurEntries := table.ulCurEntries + 1
    xLinks := table.xLinks.close e }

/-- Where there are no more entries, the pointer that is not set is used. -/
def prvNewhashent (memory : Bool) (table : HashTab κ ν) :
    Except HashTabFault (HashTab κ ν × HtPlace) := do
  match table.pxFreelist with
  | some e => return (table.takeFree e, e)
  | none =>
      let (table, added) ← table.prvMorefree memory table.ulAllocSize
      match if added ≠ 0 then table.pxFreelist else none with
      | some e => return (table.takeFree e, e)
      | none => throw .nullPointer

/-- New entries are put before all others on the free list. -/
theorem addFree_pxFreelist {count : Nat} (nonzero : count ≠ 0) (table : HashTab κ ν) :
    ∃ e, (table.addFree count).pxFreelist = some e := by
  induction count generalizing table with
  | zero => exact absurd rfl nonzero
  | succ count ih =>
      cases count with
      | zero => exact ⟨_, rfl⟩
      | succ count => exact ih (Nat.succ_ne_zero count) _

/-- The first free entry is taken, after new ones are put on an empty free list. -/
theorem prvNewhashent_eq {table : HashTab κ ν} (small : table.ulAllocSize ≤ htMaxAllocsize.toNat)
    {memory : Bool}
    (available : table.pxFreelist ≠ none ∨ memory = true ∧ table.ulAllocSize ≠ 0 ∧
      (table.ulMaxEntries = 0 ∨ table.ulCurEntries + table.ulAllocSize ≤ table.ulMaxEntries)) :
    ∃ count e, (table.addFree count).pxFreelist = some e ∧
      table.prvNewhashent memory = .ok ((table.addFree count).takeFree e, e) ∧
      (count = 0 ∨ table.pxFreelist = none ∧
        (table.ulMaxEntries = 0 ∨ table.ulCurEntries + count ≤ table.ulMaxEntries)) := by
  cases first : table.pxFreelist with
  | some e =>
      exact ⟨0, e, first, by rw [prvNewhashent, first]; rfl, .inl rfl⟩
  | none =>
      obtain ⟨isMemory, nonzero, allowed⟩ := available.resolve_left (absurd first)
      obtain ⟨e, next⟩ := addFree_pxFreelist nonzero table
      refine ⟨table.ulAllocSize, e, next, ?_, .inr ⟨rfl, allowed⟩⟩
      rw [prvNewhashent, first]
      simp only [prvMorefree_eq small, isMemory, allowed, and_self, if_true]
      simp only [bind, Except.bind, nonzero, ne_eq, not_false_eq_true, if_true, next]
      rfl

def prvFreehashent (table : HashTab κ ν) (entry : HtPlace) : HashTab κ ν :=
  { table with
    xLinks := { table.xLinks with
      prev := Function.update table.xLinks.prev entry table.pxFreelist }
    pxFreelist := some entry
    ulCurEntries := table.ulCurEntries - 1 }

/-- A new entry with its key and value, when it is linked. -/
def fill (table : HashTab κ ν) (xLinks : Links HtPlace) (e : HtPlace) (key : κ) (value : ν) :
    HashTab κ ν :=
  { table with
    xLinks
    key := Function.update table.key e (some key)
    pxValue := Function.update table.pxValue e (some value) }

variable [HtKey κ]

/-- `bucketno`. -/
def bucketno (table : HashTab κ ν) (key : κ) : Nat :=
  (HtKey.hashed key % table.ulBucketCount).toNat

def listhead (table : HashTab κ ν) (key : κ) : HtPlace := .bucket (table.bucketno key)

variable [DecidableEq κ]

/-- The walk along a bucket. One that has passed more places than there are entries
does not end. -/
def prvHashLookupCom (table : HashTab κ ν) (key : κ) : Except HashTabFault (Option HtPlace) :=
  match table.xLinks.findFrom (table.listhead key) (fun e => table.key e = some key)
      (table.entries + 1) (table.xLinks.next (table.listhead key)) with
  | some found => .ok found
  | none => .error .lost

/-- `pxHtIFindEntry` and `pxHtSFindEntry`. -/
def pxHtFindEntry (table : HashTab κ ν) (key : κ) : Except HashTabFault (Option HtPlace) :=
  table.prvHashLookupCom key

/-- `pvHtIGetVal` and `pvHtSGetVal`. -/
def pvHtGetVal (table : HashTab κ ν) (key : κ) : Except HashTabFault (Option ν) := do
  return (← table.prvHashLookupCom key).bind table.pxValue

def prvHtISAddVal (memory overwrite : Bool) (table : HashTab κ ν) (key : κ) (value : ν) :
    Except HashTabFault (HashTab κ ν × Nat) := do
  match ← table.prvHashLookupCom key with
  | some e =>
      if overwrite then
        return ({ table with pxValue := Function.update table.pxValue e (some value) }, 1)
      else return (table, 0)
  | none =>
      let (table, e) ← table.prvNewhashent memory
      match table.xLinks.insertAfter (table.listhead key) e with
      | some xLinks => return (table.fill xLinks e key value, 1)
      | none => throw .nullPointer

/-- `iHtIAddVal` and `iHtSAddVal`. -/
def iHtAddVal (memory : Bool) (table : HashTab κ ν) (key : κ) (value : ν) :
    Except HashTabFault (HashTab κ ν × Nat) :=
  table.prvHtISAddVal memory false key value

/-- `iHtISetVal` and `iHtSSetVal`. -/
def iHtSetVal (memory : Bool) (table : HashTab κ ν) (key : κ) (value : ν) :
    Except HashTabFault (HashTab κ ν × Nat) :=
  table.prvHtISAddVal memory true key value

/-- `iHtIDelete` and `iHtSDelete`. -/
def iHtISDelete (table : HashTab κ ν) (key : κ) : Except HashTabFault (HashTab κ ν × Nat) := do
  match ← table.prvHashLookupCom key with
  | some e => return ({ table with xLinks := table.xLinks.unlink e }.prvFreehashent e, 1)
  | none => return (table, 0)

/-- The entry is unlinked, and neither counted nor put on the free list. -/
def vHtEDelete (table : HashTab κ ν) (entry : HtPlace) : HashTab κ ν :=
  { table with xLinks := table.xLinks.unlink entry }

end HashTab

/-- The table as it is before its first entries. The first two parameters tell whether
the table comes from its pool and its buckets are allocated. -/
def pxHtNewHashTable {κ ν : Type} (pool buckets memory : Bool)
    (initentries maxentries entryincrement numbuckets : UInt32) :
    Except HashTabFault (Option (HashTab κ ν)) := do
  let numbuckets := numbuckets ||| 1
  if !pool || !buckets then return none
  -- the heads written are those of all buckets, the size allocated has 32 bits
  if 2 ^ 32 ≤ sizeofLink * numbuckets.toNat then throw .outOfBounds
  let table : HashTab κ ν :=
    { xLinks := { next := some, prev := some }
      pxFreelist := none
      key := fun _ => none
      pxValue := fun _ => none
      ulBucketCount := numbuckets
      ulMaxEntries := maxentries.toNat
      ulCurEntries := 0
      ulAllocSize := (min entryincrement htMaxAllocsize).toNat
      entries := 0 }
  let (table, _) ← table.prvMorefree memory initentries.toNat
  return some table

end RinaSense
