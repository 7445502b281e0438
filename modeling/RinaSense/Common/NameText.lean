import RinaSense.Common.RinaName
import RinaSense.Shim.Gpha
import Mathlib.Data.List.TakeWhile

/-!
# Names as text

The textual forms of names in `rina_name.c`: what `pcNameToString` writes and the two readers,
which split at different separators. Texts are the characters of a string without its end, and
there is memory for those that are made, so their sizes are sizes of blocks.
-/

namespace RinaSense

/-- The characters of a string. -/
abbrev CText := List UInt8

/-- `name_t` with its strings, which may be absent. -/
abbrev Name := NameInfo (Option CText)

/-- The separator of `xRinaNameFromString`, `|`. -/
def bar : UInt8 := 0x7C

/-- `DELIMITER`, `/`. -/
def delimiter : UInt8 := 0x2F

/-- The components, absent ones as empty. -/
def Name.texts (name : Name) : NameInfo CText := name.map (·.getD [])

/-! ## Reading -/

section Pieces

variable {α : Type} [DecidableEq α]

/-- `strsep` at one separator. -/
def strsepAt (separator : α) : Option (List α) → Option (List α) × Option (List α)
  | none => (none, none)
  | some text =>
      (some (text.takeWhile (· ≠ separator)),
        match text.dropWhile (· ≠ separator) with
        | [] => none
        | _ :: rest => some rest)

/-- The first four pieces of a string. -/
def namePieces (separator : α) (text : Option (List α)) : NameInfo (Option (List α)) :=
  let (apn, text) := strsepAt separator text
  let (api, text) := strsepAt separator text
  let (aen, text) := strsepAt separator text
  let (aei, _) := strsepAt separator text
  { pcProcessName := apn, pcProcessInstance := api, pcEntityName := aen, pcEntityInstance := aei }

end Pieces

theorem strsep_eq (text : Option (List Char)) : strsep text = strsepAt '|' text := by
  cases text with
  | none => rfl
  | some text =>
      rw [strsep, strsepAt]
      cases text.dropWhile (· ≠ '|') <;> rfl

/-- The reader of the names in requests has the same pieces. -/
theorem NameInfo.xRinaNameFromString_eq (text : String) :
    NameInfo.xRinaNameFromString (some text) =
      some ((namePieces '|' (some text.toList)).map pieceText) := by
  rw [NameInfo.xRinaNameFromString, namePieces]
  simp only [strsep_eq]
  rfl

namespace Name

/-- Every component is present, be it empty. -/
def xRinaNameFromString (pcString : Option CText) : Option Name :=
  match pcString with
  | none => none
  | some text =>
      let pieces := namePieces bar (some text)
      if pieces.pcProcessName.isNone then none
      else some (pieces.map fun piece => some (piece.getD []))

/-- `xRINANameInitFrom` of a new name, given memory for the copies. -/
def xRinaNameInitFrom (pieces : NameInfo (Option CText)) : Option Name := some pieces

/-- Without a string the name has no components. -/
def xRinaStringToName (pxInput : Option CText) : Option Name :=
  xRinaNameInitFrom (namePieces delimiter pxInput)

/-! ## Writing -/

/-- What the format of `pcNameToString` makes of the components. -/
def formatted (texts : NameInfo CText) : CText :=
  texts.pcProcessName ++ delimiter :: (texts.pcProcessInstance ++ delimiter ::
    (texts.pcEntityName ++ delimiter :: texts.pcEntityInstance))

/-- `snprintf` cuts the text off at the size and returns the length it would have had. -/
def pcNameToString (n : Option Name) : Option CText :=
  match n with
  | none => none
  | some n =>
      let size := (n.texts.pcProcessName.length + 1) + (n.texts.pcProcessInstance.length + 1) +
        (n.texts.pcEntityName.length + 1) + (n.texts.pcEntityInstance.length + 1)
      let text := formatted n.texts
      if text.length ≠ size - 1 then none else some (text.take (size - 1))

def pxNameToGpa (pcName : Option Name) : Option Gpa :=
  match pcNameToString pcName with
  | none => none
  | some pcTmp => pxCreateGpa pcTmp

/-- No component contains the delimiter. -/
structure Undelimited (name : Name) : Prop where
  pcProcessName : delimiter ∉ name.texts.pcProcessName
  pcProcessInstance : delimiter ∉ name.texts.pcProcessInstance
  pcEntityName : delimiter ∉ name.texts.pcEntityName
  pcEntityInstance : delimiter ∉ name.texts.pcEntityInstance

end Name

/-! ## Pieces -/

section Pieces

variable {α : Type} [DecidableEq α] {separator other : α} {piece rest : List α}

theorem all_apart (absent : separator ∉ piece) : ∀ char ∈ piece, decide (char ≠ separator) = true :=
  fun _ member => decide_eq_true fun same => absent (same ▸ member)

/-- A piece in front of a separator. -/
theorem strsepAt_piece (absent : separator ∉ piece) (rest : List α) :
    strsepAt separator (some (piece ++ separator :: rest)) = (some piece, some rest) := by
  rw [strsepAt, List.takeWhile_append_of_pos (all_apart absent),
    List.dropWhile_append_of_pos (all_apart absent)]
  simp

/-- The last piece. -/
theorem strsepAt_last (absent : separator ∉ piece) :
    strsepAt separator (some piece) = (some piece, none) := by
  rw [strsepAt, List.takeWhile_eq_self_iff.mpr (all_apart absent),
    List.dropWhile_eq_nil_iff.mpr (all_apart absent)]

/-- Two separators cut off the same first piece exactly where there is neither. -/
theorem takeWhile_eq_iff (different : separator ≠ other) (text : List α) :
    text.takeWhile (· ≠ separator) = text.takeWhile (· ≠ other) ↔
      separator ∉ text ∧ other ∉ text := by
  induction text with
  | nil => simp
  | cons char text ih =>
      by_cases first : char = separator
      · subst first
        simp [different]
      · by_cases second : char = other
        · subst second
          simp [first]
        · have ih := ih
          simp only [ne_eq, List.takeWhile_cons, first, second, not_false_eq_true, decide_true,
            if_true, List.cons.injEq, true_and, List.mem_cons, not_or, Ne.symm first,
            Ne.symm second, ih]

end Pieces

namespace Name

/-! ## Round trips -/

section RoundTrip

variable {name other : Name}

/-- The size computed is that of the text. -/
theorem pcNameToString_eq (name : Name) :
    pcNameToString (some name) = some (formatted name.texts) := by
  have length : (formatted name.texts).length =
      (name.texts.pcProcessName.length + 1) + (name.texts.pcProcessInstance.length + 1) +
        (name.texts.pcEntityName.length + 1) + (name.texts.pcEntityInstance.length + 1) - 1 := by
    simp only [formatted, List.length_append, List.length_cons]
    omega
  rw [pcNameToString, ← length, if_neg (not_not.mpr rfl), List.take_length]

/-- The pieces of a text are the components it was made from. -/
theorem namePieces_formatted (undelimited : name.Undelimited) :
    namePieces delimiter (some (formatted name.texts)) = name.texts.map some := by
  rw [namePieces, formatted]
  simp only [strsepAt_piece undelimited.pcProcessName, strsepAt_piece undelimited.pcProcessInstance,
    strsepAt_piece undelimited.pcEntityName, strsepAt_last undelimited.pcEntityInstance]
  rfl

/-- Names with the same text have the same components. -/
theorem texts_eq_of_formatted (undelimited : name.Undelimited) (undelimited' : other.Undelimited)
    (same : formatted name.texts = formatted other.texts) : name.texts = other.texts := by
  have pieces := namePieces_formatted undelimited
  rw [same, namePieces_formatted undelimited'] at pieces
  have texts := congrArg texts pieces
  exact texts.symm

/-- There are always the delimiters. -/
theorem formatted_ne_nil (texts : NameInfo CText) : formatted texts ≠ [] := by simp [formatted]

theorem pxNameToGpa_eq (name : Name) :
    pxNameToGpa (some name) = some { pucAddress := some (formatted name.texts) } := by
  rw [pxNameToGpa, pcNameToString_eq]
  exact if_neg (formatted_ne_nil name.texts)

theorem gpaOk_formatted (name : Name) :
    xIsGpaOk (some { pucAddress := some (formatted name.texts) }) = true := by
  rw [xIsGpaOk, Bool.and_eq_true, bne_iff_ne]
  exact ⟨rfl, fun empty => formatted_ne_nil name.texts (List.length_eq_zero_iff.mp empty)⟩

end RoundTrip

/-- Names whose components contain no delimiter are read back from their text, their protocol
addresses hold that text, and neither the texts nor the addresses are those of other names. -/
theorem text_roundTrip {name other : Name} (undelimited : name.Undelimited)
    (undelimited' : other.Undelimited) :
    (∃ text read, pcNameToString (some name) = some text ∧
        xRinaStringToName (some text) = some read ∧ read.texts = name.texts) ∧
      (pcNameToString (some name) = pcNameToString (some other) → name.texts = other.texts) ∧
      (∃ text gpa, pcNameToString (some name) = some text ∧ pxNameToGpa (some name) = some gpa ∧
        xIsGpaOk (some gpa) = true ∧ gpa.pucAddress = some text) ∧
      (pxNameToGpa (some name) = pxNameToGpa (some other) → name.texts = other.texts) ∧
      ∃ gpa gpa', pxNameToGpa (some name) = some gpa ∧ pxNameToGpa (some other) = some gpa' ∧
        (xGpaCmp (some gpa) (some gpa') = true → name.texts = other.texts) := by
  have same_texts := @texts_eq_of_formatted name other undelimited undelimited'
  refine ⟨⟨formatted name.texts, name.texts.map some, pcNameToString_eq name, ?_, rfl⟩, ?_,
    ⟨formatted name.texts, _, pcNameToString_eq name, pxNameToGpa_eq name, gpaOk_formatted name,
      rfl⟩, ?_, ?_⟩
  · rw [xRinaStringToName, namePieces_formatted undelimited]
    rfl
  · intro same
    rw [pcNameToString_eq, pcNameToString_eq] at same
    exact same_texts (Option.some.inj same)
  · intro same
    rw [pxNameToGpa_eq, pxNameToGpa_eq] at same
    have addresses := congrArg (Option.bind · Gpa.pucAddress) same
    exact same_texts (Option.some.inj addresses)
  · refine ⟨_, _, pxNameToGpa_eq name, pxNameToGpa_eq other, fun same => ?_⟩
    simp only [xGpaCmp, Bool.and_eq_true, Option.bind_some, beq_iff_eq, Option.some.injEq] at same
    exact same_texts same.2

/-- `a/b//` and `a//b/` are the texts of different names. -/
theorem text_roundTrip_absent :
    let name : Name := ⟨some [97], some [98], none, some []⟩
    let other : Name := ⟨some [97], none, some [98], none⟩
    (∃ text read, pcNameToString (some name) = some text ∧
        xRinaStringToName (some text) = some read ∧ read.texts = name.texts) ∧
      (pcNameToString (some name) = pcNameToString (some other) → name.texts = other.texts) ∧
      (∃ text gpa, pcNameToString (some name) = some text ∧ pxNameToGpa (some name) = some gpa ∧
        xIsGpaOk (some gpa) = true ∧ gpa.pucAddress = some text) ∧
      (pxNameToGpa (some name) = pxNameToGpa (some other) → name.texts = other.texts) ∧
      ∃ gpa gpa', pxNameToGpa (some name) = some gpa ∧ pxNameToGpa (some other) = some gpa' ∧
        (xGpaCmp (some gpa) (some gpa') = true → name.texts = other.texts) :=
  text_roundTrip ⟨by decide, by decide, by decide, by decide⟩
    ⟨by decide, by decide, by decide, by decide⟩

/-! ## The two readers -/

/-- The readers make the same of a string, or both nothing. -/
def ReadersAgree (pcString : Option CText) : Prop :=
  (xRinaNameFromString pcString).map texts = (xRinaStringToName pcString).map texts

theorem ReadersAgree.unseparated {text : CText} (agree : ReadersAgree (some text)) :
    bar ∉ text ∧ delimiter ∉ text := by
  have first := congrArg (Option.map NameInfo.pcProcessName) agree
  have pieces : text.takeWhile (· ≠ bar) = text.takeWhile (· ≠ delimiter) := Option.some.inj first
  exact (takeWhile_eq_iff (by decide) text).mp pieces

/-- The readers of names agree on the strings with neither of their separators. -/
theorem readersAgree_iff (pcString : Option CText) :
    ReadersAgree pcString ↔ ∃ text, pcString = some text ∧ bar ∉ text ∧ delimiter ∉ text := by
  cases pcString with
  | none =>
      constructor
      · intro agree
        cases agree
      · rintro ⟨_, ⟨⟩, _⟩
  | some text =>
      constructor
      · exact fun agree => ⟨text, rfl, agree.unseparated⟩
      · rintro ⟨_, ⟨⟩, noBar, noDelimiter⟩
        simp only [ReadersAgree, xRinaNameFromString, xRinaStringToName, namePieces,
          strsepAt_last noBar, strsepAt_last noDelimiter]
        rfl

/-- `a|b` has one component or two. -/
theorem readers_disagree : ¬ ReadersAgree (some [97, 124, 98]) := by
  intro agree
  exact absurd agree.unseparated.1 (by decide)

end Name

end RinaSense
