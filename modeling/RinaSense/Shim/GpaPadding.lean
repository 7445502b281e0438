import Mathlib.Data.List.TakeWhile
import RinaSense.Shim.ArpReplies

/-!
# Padded addresses

Growing a protocol address with filler bytes to the length of another one, and shrinking it
again, in `Arp826.c`. An address that begins with the filler shrinks to nothing, which only a
failed allocation of no bytes stops.
-/

namespace RinaSense

/-- `FreeRTOS_memscan`: how far the first such byte is from the start, or the end if there is
none. -/
def freeRtosMemscan (c : UInt8) : List UInt8 → Nat
  | [] => 0
  | p :: rest => if p == c then 0 else freeRtosMemscan c rest + 1

namespace Gpa

/-- The result and the address after it, given whether there is memory. -/
def xArpAddressGpaGrow (memory : Bool) (pxGpa : Gpa) (uxLength : Nat) (ucFiller : UInt8) :
    Bool × Gpa :=
  if !xIsGpaOk (some pxGpa) then (false, pxGpa)
  else if uxLength = 0 ∨ uxLength < pxGpa.uxLength then (false, pxGpa)
  else if pxGpa.uxLength = uxLength then (true, pxGpa)
  else if !memory then (false, pxGpa)
  else
    let filler := List.replicate (uxLength - pxGpa.uxLength) ucFiller
    (true, { pucAddress := some (pxGpa.contents ++ filler) })

/-- The result and the address after it, given whether there is memory and whether an
allocation of no bytes yields a block. -/
def xArpAddressGpaShrink (memory emptyBlock : Bool) (pxGpa : Gpa) (ucFiller : UInt8) :
    Bool × Gpa :=
  if !xIsGpaOk (some pxGpa) then (false, pxGpa)
  else
    let uxLength := freeRtosMemscan ucFiller pxGpa.contents
    if uxLength ≥ pxGpa.uxLength then (true, pxGpa)
    else if !(memory && (uxLength != 0 || emptyBlock)) then (false, pxGpa)
    else (true, { pucAddress := some (pxGpa.contents.take uxLength) })

/-- What padding is relied on for, with one filler and in one environment. -/
structure PaddingLaws (emptyBlock : Bool) (ucFiller : UInt8) (gpa : Gpa) : Prop where
  /-- Growing is undone by shrinking. -/
  inverse : ucFiller ∉ gpa.contents → ∀ uxLength, gpa.uxLength ≤ uxLength → ∃ grown,
    gpa.xArpAddressGpaGrow true uxLength ucFiller = (true, grown) ∧
      grown.xArpAddressGpaShrink true emptyBlock ucFiller = (true, gpa)
  /-- An address that was shrunk is not shrunk further. -/
  idempotent : ∀ memory shrunk,
    gpa.xArpAddressGpaShrink memory emptyBlock ucFiller = (true, shrunk) → ∀ memory,
      shrunk.xArpAddressGpaShrink memory emptyBlock ucFiller = (true, shrunk)
  /-- What was grown is well formed, or a failure is reported and nothing changed. -/
  grown : ∀ memory uxLength done after,
    gpa.xArpAddressGpaGrow memory uxLength ucFiller = (done, after) →
      xIsGpaOk (some after) = true ∧ (done = false → after = gpa)
  /-- What was shrunk is well formed, or a failure is reported and nothing changed. -/
  shrunk : ∀ memory done after,
    gpa.xArpAddressGpaShrink memory emptyBlock ucFiller = (done, after) →
      xIsGpaOk (some after) = true ∧ (done = false → after = gpa)

end Gpa

/-! ## Scanning -/

theorem take_memscan (ucFiller : UInt8) (bytes : List UInt8) :
    bytes.take (freeRtosMemscan ucFiller bytes) = bytes.takeWhile (· != ucFiller) := by
  induction bytes with
  | nil => rfl
  | cons byte bytes ih =>
      rw [freeRtosMemscan, List.takeWhile_cons]
      cases same : byte == ucFiller with
      | true => simp [bne, same]
      | false => simp [bne, same, ih]

/-- The scan goes to the end where there is no filler. -/
theorem memscan_le_iff (ucFiller : UInt8) (bytes : List UInt8) :
    bytes.length ≤ freeRtosMemscan ucFiller bytes ↔ ucFiller ∉ bytes := by
  induction bytes with
  | nil => simp [freeRtosMemscan]
  | cons byte bytes ih =>
      rw [freeRtosMemscan]
      by_cases same : byte = ucFiller
      · simp [same]
      · rw [if_neg (by simpa using same), List.length_cons, Nat.add_le_add_iff_right, ih,
          List.mem_cons, not_or]
        exact ⟨fun absent => ⟨Ne.symm same, absent⟩, And.right⟩

theorem memscan_eq_zero_iff (ucFiller : UInt8) {bytes : List UInt8} (present : bytes ≠ []) :
    freeRtosMemscan ucFiller bytes = 0 ↔ bytes.head? = some ucFiller := by
  cases bytes with
  | nil => exact absurd rfl present
  | cons byte bytes =>
      rw [freeRtosMemscan, List.head?_cons, Option.some.injEq]
      by_cases same : byte = ucFiller
      · simp [same]
      · simp [same]

namespace Gpa

section Valid

variable {gpa : Gpa} {ucFiller : UInt8} {emptyBlock : Bool}

/-- A well-formed address is its contents. -/
theorem ok_iff : xIsGpaOk (some gpa) = true ↔
    gpa = { pucAddress := some gpa.contents } ∧ gpa.contents ≠ [] := by
  obtain ⟨address⟩ := gpa
  cases address with
  | none => simp [xIsGpaOk, contents]
  | some bytes => simp [xIsGpaOk, contents, uxLength]

/-- Well-formed addresses are equal if their contents are. -/
theorem eq_of_contents {other : Gpa} (ok : xIsGpaOk (some gpa) = true)
    (okOther : xIsGpaOk (some other) = true) (same : gpa.contents = other.contents) :
    gpa = other := by
  rw [(ok_iff.mp ok).1, (ok_iff.mp okOther).1, same]

theorem uxLength_eq (gpa : Gpa) : gpa.uxLength = gpa.contents.length := rfl

/-- Growing by how long the address is to be. -/
theorem grow_eq (ok : xIsGpaOk (some gpa) = true) (memory : Bool) (uxLength : Nat) :
    gpa.xArpAddressGpaGrow memory uxLength ucFiller =
      if uxLength < gpa.contents.length then (false, gpa)
      else if uxLength = gpa.contents.length then (true, gpa)
      else if memory then
        (true, ⟨some (gpa.contents ++ List.replicate (uxLength - gpa.contents.length) ucFiller)⟩)
      else (false, gpa) := by
  have positive : 0 < gpa.contents.length := List.length_pos_iff.mpr (ok_iff.mp ok).2
  rw [xArpAddressGpaGrow, if_neg (by simp [ok]), uxLength_eq]
  by_cases short : uxLength < gpa.contents.length
  · rw [if_pos (.inr short), if_pos short]
  · rw [if_neg (by omega), if_neg short]
    by_cases same : uxLength = gpa.contents.length
    · rw [if_pos same.symm, if_pos same]
    · rw [if_neg (Ne.symm same), if_neg same]
      cases memory <;> rfl

/-- Shrinking by where the filler is. -/
theorem shrink_eq (ok : xIsGpaOk (some gpa) = true) (memory : Bool) :
    gpa.xArpAddressGpaShrink memory emptyBlock ucFiller =
      if ucFiller ∉ gpa.contents then (true, gpa)
      else if memory && (gpa.contents.head? != some ucFiller || emptyBlock) then
        (true, ⟨some (gpa.contents.takeWhile (· != ucFiller))⟩)
      else (false, gpa) := by
  have present := (ok_iff.mp ok).2
  have begins : (freeRtosMemscan ucFiller gpa.contents != 0) =
      (gpa.contents.head? != some ucFiller) := by
    rw [Bool.eq_iff_iff, bne_iff_ne, bne_iff_ne, Ne, memscan_eq_zero_iff ucFiller present]
  simp only [xArpAddressGpaShrink, ok, Bool.not_true, Bool.false_eq_true, if_false, uxLength_eq,
    ge_iff_le, memscan_le_iff, begins, take_memscan]
  split
  · rfl
  · cases memory && (gpa.contents.head? != some ucFiller || emptyBlock) <;> rfl

/-- An address without the filler is as shrunk as it gets. -/
theorem shrink_of_absent (ok : xIsGpaOk (some gpa) = true) (absent : ucFiller ∉ gpa.contents)
    (memory : Bool) : gpa.xArpAddressGpaShrink memory emptyBlock ucFiller = (true, gpa) := by
  rw [shrink_eq ok, if_pos absent]

theorem filler_not_mem_takeWhile (bytes : List UInt8) :
    ucFiller ∉ bytes.takeWhile (· != ucFiller) := by
  intro member
  have other := List.mem_takeWhile_imp member
  rw [bne_self_eq_false] at other
  cases other

/-- An address that does not begin with the filler is not shrunk to nothing. -/
theorem takeWhile_ne_nil_iff {bytes : List UInt8} (present : bytes ≠ []) :
    bytes.takeWhile (· != ucFiller) ≠ [] ↔ bytes.head? ≠ some ucFiller := by
  cases bytes with
  | nil => exact absurd rfl present
  | cons byte bytes =>
      rw [List.takeWhile_cons, List.head?_cons]
      by_cases same : byte = ucFiller
      · simp [same]
      · simp [same]

theorem grow_valid (ok : xIsGpaOk (some gpa) = true) {memory done : Bool} {uxLength : Nat}
    {after : Gpa} (run : gpa.xArpAddressGpaGrow memory uxLength ucFiller = (done, after)) :
    xIsGpaOk (some after) = true ∧ (done = false → after = gpa) := by
  rw [grow_eq ok] at run
  split at run
  · cases run
    exact ⟨ok, fun _ => rfl⟩
  · split at run
    · cases run
      exact ⟨ok, fun _ => rfl⟩
    · split at run
      · cases run
        refine ⟨ok_iff.mpr ⟨rfl, ?_⟩, nofun⟩
        exact List.append_ne_nil_of_left_ne_nil (ok_iff.mp ok).2 _
      · cases run
        exact ⟨ok, fun _ => rfl⟩

/-- An address with filler up to a length. -/
def padded (gpa : Gpa) (uxLength : Nat) (ucFiller : UInt8) : Gpa :=
  ⟨some (gpa.contents ++ List.replicate (uxLength - gpa.contents.length) ucFiller)⟩

theorem contents_padded (gpa : Gpa) (uxLength : Nat) (ucFiller : UInt8) :
    (gpa.padded uxLength ucFiller).contents =
      gpa.contents ++ List.replicate (uxLength - gpa.contents.length) ucFiller := rfl

theorem padded_self (ok : xIsGpaOk (some gpa) = true) (ucFiller : UInt8) :
    gpa.padded gpa.uxLength ucFiller = gpa := by
  rw [padded, uxLength_eq, Nat.sub_self, List.replicate_zero, List.append_nil]
  exact (ok_iff.mp ok).1.symm

theorem padded_ok (ok : xIsGpaOk (some gpa) = true) (uxLength : Nat) (ucFiller : UInt8) :
    xIsGpaOk (some (gpa.padded uxLength ucFiller)) = true :=
  ok_iff.mpr ⟨rfl, List.append_ne_nil_of_left_ne_nil (ok_iff.mp ok).2 _⟩

/-- With memory an address is padded to the length. -/
theorem grow_of_le (ok : xIsGpaOk (some gpa) = true) {uxLength : Nat}
    (long : gpa.uxLength ≤ uxLength) {memory : Bool}
    (granted : gpa.uxLength = uxLength ∨ memory = true) :
    gpa.xArpAddressGpaGrow memory uxLength ucFiller = (true, gpa.padded uxLength ucFiller) := by
  rw [uxLength_eq] at long granted
  rw [grow_eq ok, if_neg (Nat.not_lt.mpr long)]
  by_cases same : uxLength = gpa.contents.length
  · rw [if_pos same, same, ← uxLength_eq, padded_self ok]
  · rw [if_neg same, if_pos (granted.resolve_left (Ne.symm same))]
    rfl

/-- Padding is taken off again. -/
theorem shrink_padded (ok : xIsGpaOk (some gpa) = true) (absent : ucFiller ∉ gpa.contents)
    (uxLength : Nat) :
    (gpa.padded uxLength ucFiller).xArpAddressGpaShrink true emptyBlock ucFiller = (true, gpa) := by
  have kept : (gpa.padded uxLength ucFiller).contents.takeWhile (· != ucFiller) = gpa.contents := by
    rw [contents_padded, List.takeWhile_append_of_pos]
    · simp
    · intro byte member
      simpa using fun same : byte = ucFiller => absent (same ▸ member)
  have okPadded := padded_ok ok uxLength ucFiller
  have begins : (gpa.padded uxLength ucFiller).contents.head? ≠ some ucFiller := by
    rw [← takeWhile_ne_nil_iff (ok_iff.mp okPadded).2, kept]
    exact (ok_iff.mp ok).2
  rw [shrink_eq okPadded]
  by_cases filled : ucFiller ∈ (gpa.padded uxLength ucFiller).contents
  · rw [if_neg (not_not_intro filled),
      if_pos (by rw [Bool.true_and, bne_iff_ne.mpr begins, Bool.true_or]), kept]
    exact congrArg _ (ok_iff.mp ok).1.symm
  · have same : (gpa.padded uxLength ucFiller).contents = gpa.contents := by
      rw [← kept, eq_comm, List.takeWhile_eq_self_iff]
      intro byte member
      simpa using fun same : byte = ucFiller => filled (same ▸ member)
    rw [if_pos filled, eq_of_contents okPadded ok same]

/-- Growing is undone by shrinking. -/
theorem shrink_grow (ok : xIsGpaOk (some gpa) = true) (absent : ucFiller ∉ gpa.contents)
    {uxLength : Nat} (long : gpa.uxLength ≤ uxLength) :
    ∃ grown, gpa.xArpAddressGpaGrow true uxLength ucFiller = (true, grown) ∧
      grown.xArpAddressGpaShrink true emptyBlock ucFiller = (true, gpa) :=
  ⟨gpa.padded uxLength ucFiller, grow_of_le ok long (.inr rfl), shrink_padded ok absent uxLength⟩

/-- An address in which the filler is not first. -/
theorem shrink_valid (ok : xIsGpaOk (some gpa) = true)
    (first : emptyBlock = true → gpa.contents.head? ≠ some ucFiller) {memory done : Bool}
    {after : Gpa} (run : gpa.xArpAddressGpaShrink memory emptyBlock ucFiller = (done, after)) :
    xIsGpaOk (some after) = true ∧ (done = false → after = gpa) ∧
      (done = true → ucFiller ∉ after.contents) := by
  rw [shrink_eq ok] at run
  split at run
  · next absent =>
      cases run
      exact ⟨ok, fun _ => rfl, fun _ => absent⟩
  · split at run
    · next granted =>
        cases run
        rw [Bool.and_eq_true, Bool.or_eq_true, bne_iff_ne] at granted
        have begins := granted.2.elim id first
        refine ⟨ok_iff.mpr ⟨rfl, ?_⟩, nofun, fun _ => filler_not_mem_takeWhile gpa.contents⟩
        exact (takeWhile_ne_nil_iff (ok_iff.mp ok).2).mpr begins
    · cases run
      exact ⟨ok, fun _ => rfl, nofun⟩

/-- An address that begins with the filler is shrunk to nothing. -/
theorem shrink_to_nothing (ok : xIsGpaOk (some gpa) = true)
    (first : gpa.contents.head? = some ucFiller) :
    gpa.xArpAddressGpaShrink true true ucFiller = (true, { pucAddress := some [] }) := by
  have present : ucFiller ∈ gpa.contents := List.mem_of_head? first
  have nothing : gpa.contents.takeWhile (· != ucFiller) = [] := by
    by_contra something
    exact (takeWhile_ne_nil_iff (ok_iff.mp ok).2).mp something first
  rw [shrink_eq ok, if_neg (not_not_intro present), if_pos (by simp), nothing]

/-- The laws hold of the addresses that do not begin with the filler, and of the others where an
allocation of no bytes fails. -/
theorem paddingLaws_iff (ok : xIsGpaOk (some gpa) = true) :
    PaddingLaws emptyBlock ucFiller gpa ↔
      (emptyBlock = true → gpa.contents.head? ≠ some ucFiller) := by
  constructor
  · rintro laws rfl first
    have valid := (laws.shrunk true true _ (shrink_to_nothing ok first)).1
    cases valid
  · intro first
    exact
      { inverse := fun absent uxLength long => shrink_grow ok absent long
        idempotent := by
          intro memory shrunk run again
          obtain ⟨okShrunk, -, absent⟩ := shrink_valid ok first run
          exact shrink_of_absent okShrunk (absent rfl) again
        grown := fun memory uxLength done after run => grow_valid ok run
        shrunk := by
          intro memory done after run
          obtain ⟨okShrunk, unchanged, -⟩ := shrink_valid ok first run
          exact ⟨okShrunk, unchanged⟩ }

end Valid

theorem paddingLaws_iff_short :
    PaddingLaws true 0 { pucAddress := some [0x41] } ↔
      (true = true → (({ pucAddress := some [0x41] } : Gpa)).contents.head? ≠ some 0) :=
  paddingLaws_iff rfl

/-- The address of one filler is shrunk to an address without bytes. -/
theorem filler_alone_shrunk :
    xIsGpaOk (some { pucAddress := some [0] }) = true ∧
      ¬ PaddingLaws true 0 { pucAddress := some [0] } := by
  refine ⟨rfl, ?_⟩
  intro laws
  have shrunk := laws.shrunk true true _ rfl
  exact absurd shrunk.1 (by decide)

/-- The shrinking of addresses received is that with memory and the filler zero. -/
theorem xArpAddressGpaShrink_eq (emptyBlock : Bool) (gpa : Gpa) :
    RinaSense.xArpAddressGpaShrink emptyBlock (some gpa) =
      if (gpa.xArpAddressGpaShrink true emptyBlock 0).1 then
        some (gpa.xArpAddressGpaShrink true emptyBlock 0).2
      else none := by
  cases ok : xIsGpaOk (some gpa) with
  | false =>
      simp only [RinaSense.xArpAddressGpaShrink, xArpAddressGpaShrink, ok, Bool.not_false, if_true,
        Bool.false_eq_true, if_false]
  | true =>
      have whole : (gpa.contents.takeWhile (· != 0)).length = gpa.contents.length ↔
          0 ∉ gpa.contents := by
        rw [← memscan_le_iff, ← take_memscan, List.length_take]
        omega
      have empty : gpa.contents.takeWhile (· != 0) = [] ↔ gpa.contents.head? = some 0 :=
        not_iff_not.mp (takeWhile_ne_nil_iff (ok_iff.mp ok).2)
      have bytes : gpa.pucAddress.getD [] = gpa.contents := rfl
      rw [RinaSense.xArpAddressGpaShrink, if_neg (by simp [ok]), shrink_eq ok]
      simp only [bytes, whole, Bool.true_and]
      split
      · rfl
      · by_cases first : gpa.contents.head? = some 0
        · cases emptyBlock <;> simp [empty.mpr first, first]
        · simp [mt empty.mp first, first]

end Gpa

end RinaSense
