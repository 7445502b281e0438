import RinaSense.Ipcp.DuRoundTrip

/-!
# Sending on the tap interface

`xNetworkInterfaceOutput` of the tap interface writes a frame with as many calls of `write` as it
takes. Each call reads the frame where the length of the one before says.
-/

namespace RinaSense

open Command

/-- What a call of `write` comes to. It takes no more bytes than it is offered. -/
inductive WriteResult where
  | failed
  | wrote (nWriteSz : Nat)
  deriving Repr, DecidableEq

/-- The loop of `xNetworkInterfaceOutput` over the results of its calls: its result and the
bytes written, unless it still goes on. -/
def writeLoop (pucEthernetBuffer : Option (List UInt8)) :
    List WriteResult → Nat → Nat → Rina (Option (Bool × List UInt8))
  | [], _, _ => return none
  | .failed :: _, _, _ => return some (false, [])
  | .wrote n :: results, unWriteSzLeft, unLastWriteSz => do
      let nWriteSz := min n unWriteSzLeft
      let bytes ← copyFrom pucEthernetBuffer unLastWriteSz nWriteSz
      if 0 < unWriteSzLeft - nWriteSz then
        let rest ← writeLoop pucEthernetBuffer results (unWriteSzLeft - nWriteSz) nWriteSz
        return rest.map fun (sent, written) => (sent, bytes ++ written)
      else return some (true, bytes)

/-- `interfaceUp` is what `prvLinuxTapCheckFlags` finds. Whether the buffer is to be released is
not looked at. -/
def xNetworkInterfaceOutput (interfaceUp : Bool) (results : List WriteResult)
    (pxNetworkBuffer : BufferId) (_xReleaseAfterSend : Bool) :
    Rina (Option (Bool × List UInt8)) := do
  let descriptor ← readBuffer pxNetworkBuffer
  if !interfaceUp then return some (false, [])
  writeLoop descriptor.pucEthernetBuffer results descriptor.xDataLength.toNat 0

/-! ## Purpose -/

/-- A buffer with a frame to be sent, and other bytes behind it in its block. -/
structure HoldsFrame (node : Node) (pxNetworkBuffer : BufferId) (frame spare : List UInt8)
    (descriptor : NetworkBufferDescriptor) : Prop where
  stored : node.buffers.get? pxNetworkBuffer = some descriptor
  block : descriptor.pucEthernetBuffer = some (frame ++ spare)
  length : descriptor.xDataLength.toNat = frame.length

/-- Where a frame was sent, what was written is the frame, and the buffer was released if it
was to be. -/
def SendsFrame (interfaceUp : Bool) (results : List WriteResult) (xReleaseAfterSend : Bool)
    (frame : List UInt8) : Prop :=
  ∀ node pxNetworkBuffer spare descriptor, HoldsFrame node pxNetworkBuffer frame spare descriptor →
    Wp (xNetworkInterfaceOutput interfaceUp results pxNetworkBuffer xReleaseAfterSend)
      (fun result after => ∀ written, result = some (true, written) →
        written = frame ∧ (xReleaseAfterSend = true → after.buffers.get? pxNetworkBuffer = none))
      node

/-! ## Condition -/

/-- No call fails before all the bytes left are written, and they are at last. -/
def completes : List WriteResult → Nat → Bool
  | [], _ => false
  | .failed :: _, _ => false
  | .wrote n :: results, left => decide (left ≤ n) || completes results (left - n)

/-- In every call the bytes behind the length of the call before are those behind all bytes
written so far. -/
def InPlace (frame : List UInt8) : List WriteResult → Nat → Nat → Prop
  | .wrote n :: results, done, last =>
      (frame.drop last).take (min n (frame.length - done)) =
          (frame.drop done).take (min n (frame.length - done)) ∧
        InPlace frame results (done + n) n
  | _, _, _ => True

/-- In every call that takes bytes, the length of the call before is that of all bytes written
so far. -/
def Placed (length : Nat) : List WriteResult → Nat → Nat → Prop
  | .wrote n :: results, done, last =>
      (0 < n → done < length → last = done) ∧ Placed length results (done + n) n
  | _, _, _ => True

/-! ## The loop -/

section Loop

variable {frame : List UInt8} {results : List WriteResult} {done last : Nat}

/-- Once all is written the calls that would follow are in place. -/
theorem inPlace_of_done (all : frame.length ≤ done) : InPlace frame results done last := by
  induction results generalizing done last with
  | nil => trivial
  | cons result results ih =>
      cases result with
      | failed => trivial
      | wrote n =>
          have nothing : min n (frame.length - done) = 0 := by omega
          refine ⟨?_, ih (Nat.le_trans all (Nat.le_add_right _ _))⟩
          rw [nothing, List.take_zero, List.take_zero]

/-- A call reads inside the frame. -/
theorem run_copyPiece {node : Node} {spare : List UInt8} {offset count : Nat}
    (inside : offset + count ≤ frame.length) :
    (copyFrom (some (frame ++ spare)) offset count).run node =
      .ok ((frame.drop offset).take count) node := by
  rw [run_copyFrom (by rw [List.length_append]; omega), List.drop_append_of_le_length (by omega),
    List.take_append_of_le_length (by rw [List.length_drop]; omega)]

/-- Bytes are those left of a frame if the first of them are and the others are those behind. -/
theorem append_eq_drop_iff {piece others : List UInt8} {n : Nat}
    (length : piece.length = ((frame.drop done).take n).length) :
    piece ++ others = frame.drop done ↔
      piece = (frame.drop done).take n ∧ others = frame.drop (done + n) := by
  have whole := List.take_append_drop n (frame.drop done)
  rw [List.drop_drop] at whole
  constructor
  · intro same
    rw [← whole] at same
    exact List.append_inj same length
  · rintro ⟨first, rest⟩
    rw [first, rest, whole]

/-- The loop over the rest of a frame reads inside it. If it comes to an end, as many bytes are
written as were left, and they are those left if every call was in place. -/
theorem run_writeLoop (node : Node) (spare : List UInt8) (within : done ≤ frame.length)
    (behind : last ≤ done) :
    ∃ result, (writeLoop (some (frame ++ spare)) results (frame.length - done) last).run node =
        .ok result node ∧
      (completes results (frame.length - done) = false → ∀ written, result ≠ some (true, written)) ∧
      (completes results (frame.length - done) = true → ∃ written, result = some (true, written) ∧
        (written = frame.drop done ↔ InPlace frame results done last)) := by
  induction results generalizing done last with
  | nil => exact ⟨none, rfl, fun _ _ => nofun, nofun⟩
  | cons result results ih =>
      cases result with
      | failed => exact ⟨some (false, []), rfl, fun _ _ => nofun, nofun⟩
      | wrote n =>
          have copied := @run_copyPiece frame node spare last (min n (frame.length - done)) (by omega)
          by_cases goesOn : 0 < frame.length - done - min n (frame.length - done)
          · have count : min n (frame.length - done) = n := by omega
            have left : frame.length - done - n = frame.length - (done + n) := by omega
            obtain ⟨rest, run, unfinished, finished⟩ :=
              @ih (done + n) n (by omega) (Nat.le_add_left n done)
            have incomplete : decide (frame.length - done ≤ n) = false := by
              rw [decide_eq_false_iff_not]
              omega
            refine ⟨rest.map fun (sent, written) => (sent, (frame.drop last).take n ++ written),
              ?_, ?_, ?_⟩
            · rw [writeLoop, EStateM.run_bind, copied]
              simp only [goesOn, if_true]
              rw [count, left, EStateM.run_bind, run]
              rfl
            · intro fails written same
              rw [completes, incomplete, Bool.false_or, left] at fails
              obtain ⟨⟨sent, others⟩, isRest, isPair⟩ := Option.map_eq_some_iff.mp same
              obtain ⟨rfl, -⟩ := Prod.mk.inj isPair
              exact unfinished fails others isRest
            · intro completed
              rw [completes, incomplete, Bool.false_or, left] at completed
              obtain ⟨others, isRest, others_iff⟩ := finished completed
              refine ⟨(frame.drop last).take n ++ others, ?_, ?_⟩
              · rw [isRest]
                rfl
              · rw [InPlace, count, ← others_iff]
                apply append_eq_drop_iff
                rw [List.length_take, List.length_take, List.length_drop, List.length_drop]
                omega
          · have count : min n (frame.length - done) = frame.length - done := by omega
            have complete : decide (frame.length - done ≤ n) = true := by
              rw [decide_eq_true_eq]
              omega
            refine ⟨some (true, (frame.drop last).take (frame.length - done)), ?_, ?_, ?_⟩
            · rw [writeLoop, EStateM.run_bind, copied]
              simp only [goesOn, if_false]
              rw [count]
              rfl
            · intro fails
              rw [completes, complete, Bool.true_or] at fails
              cases fails
            · intro _
              have rest : (frame.drop done).take (frame.length - done) = frame.drop done :=
                List.take_of_length_le (by rw [List.length_drop])
              refine ⟨_, rfl, ?_⟩
              rw [InPlace, count, rest, and_iff_left (inPlace_of_done (by omega))]

end Loop

/-! ## Frames -/

section Frames

variable {interfaceUp : Bool} {results : List WriteResult} {xReleaseAfterSend : Bool}

theorem exists_holdsFrame (frame : Block) :
    ∃ node pxNetworkBuffer descriptor, HoldsFrame node pxNetworkBuffer frame.val [] descriptor := by
  let descriptor : NetworkBufferDescriptor :=
    { freshDescriptor 0 with
      pucEthernetBuffer := some (frame.val ++ [])
      xDataLength := UInt32.ofNat frame.val.length }
  exact ⟨{ Node.blank with buffers := (Node.blank.buffers.allocate descriptor).1 },
    Node.blank.buffers.next, descriptor, Node.blank.buffers.get?_allocate_new descriptor, rfl,
    UInt32.toNat_ofNat_of_lt' frame.property⟩

/-- On an interface that is up the buffer stays, and the loop decides. -/
theorem wp_output_iff {node : Node} {pxNetworkBuffer : BufferId} {frame spare : List UInt8}
    {descriptor : NetworkBufferDescriptor}
    (holds : HoldsFrame node pxNetworkBuffer frame spare descriptor) :
    Wp (xNetworkInterfaceOutput interfaceUp results pxNetworkBuffer xReleaseAfterSend)
      (fun result after => ∀ written, result = some (true, written) →
        written = frame ∧ (xReleaseAfterSend = true → after.buffers.get? pxNetworkBuffer = none))
      node ↔
    (interfaceUp = true → completes results frame.length = true →
      xReleaseAfterSend = false ∧ InPlace frame results 0 0) := by
  cases interfaceUp with
  | false =>
      rw [Wp, xNetworkInterfaceOutput, run_bind_ok (run_readBuffer holds.stored)]
      exact iff_of_true (by rintro _ ⟨⟩) (by rintro ⟨⟩)
  | true =>
      obtain ⟨result, run, unfinished, finished⟩ :=
        @run_writeLoop frame results 0 0 node spare (Nat.zero_le _) (Nat.le_refl _)
      rw [Nat.sub_zero] at run unfinished finished
      rw [Wp, xNetworkInterfaceOutput, run_bind_ok (run_readBuffer holds.stored), holds.block,
        holds.length]
      simp only [Bool.not_true, Bool.false_eq_true, if_false, run, forall_const]
      cases completed : completes results frame.length with
      | false =>
          exact iff_of_true (fun written same => absurd same (unfinished completed written))
            (by rintro ⟨⟩)
      | true =>
          obtain ⟨written, isResult, whole_iff⟩ := finished completed
          rw [List.drop_zero] at whole_iff
          rw [isResult, ← whole_iff, holds.stored]
          constructor
          · intro sends _
            obtain ⟨whole, released⟩ := sends written rfl
            refine ⟨?_, whole⟩
            cases xReleaseAfterSend with
            | false => rfl
            | true => exact absurd (released rfl) (Option.some_ne_none descriptor)
          · intro condition other same
            obtain ⟨kept, whole⟩ := condition rfl
            obtain ⟨-, rfl⟩ := Prod.mk.inj (Option.some.inj same)
            exact ⟨whole, fun released => absurd (kept.symm.trans released) Bool.false_ne_true⟩

theorem sendsFrame_iff (interfaceUp : Bool) (results : List WriteResult)
    (xReleaseAfterSend : Bool) (frame : Block) :
    SendsFrame interfaceUp results xReleaseAfterSend frame.val ↔
      (interfaceUp = true → completes results frame.val.length = true →
        xReleaseAfterSend = false ∧ InPlace frame.val results 0 0) := by
  constructor
  · intro sends
    obtain ⟨node, pxNetworkBuffer, descriptor, holds⟩ := exists_holdsFrame frame
    exact (wp_output_iff holds).mp (sends _ _ _ _ holds)
  · intro condition node pxNetworkBuffer spare descriptor holds
    exact (wp_output_iff holds).mpr condition

end Frames

/-! ## All frames of a length -/

section Placement

variable {results : List WriteResult} {length done last : Nat}

theorem inPlace_of_placed {frame : List UInt8} (placed : Placed frame.length results done last) :
    InPlace frame results done last := by
  induction results generalizing done last with
  | nil => trivial
  | cons result results ih =>
      cases result with
      | failed => trivial
      | wrote n =>
          refine ⟨?_, ih placed.2⟩
          by_cases takes : 0 < n ∧ done < frame.length
          · rw [placed.1 takes.1 takes.2]
          · have nothing : min n (frame.length - done) = 0 := by omega
            rw [nothing, List.take_zero, List.take_zero]

/-- The frame of zeros but for one byte. -/
def markedFrame (length position : Nat) : List UInt8 := (List.replicate length 0).set position 1

theorem length_markedFrame : (markedFrame length done).length = length := by
  rw [markedFrame, List.length_set, List.length_replicate]

theorem getElem?_markedFrame {position : Nat} (inside : position < length) :
    (markedFrame length done)[position]? = some (if done = position then 1 else 0) := by
  rw [markedFrame, List.getElem?_set]
  by_cases here : done = position
  · simp [here, inside]
  · simp [here, inside]

/-- A call that begins in another place than it should is seen in the frame whose byte there
differs from all others. -/
theorem placed_of_inPlace (behind : last ≤ done)
    (inPlace : ∀ frame : List UInt8, frame.length = length → InPlace frame results done last) :
    Placed length results done last := by
  induction results generalizing done last with
  | nil => trivial
  | cons result results ih =>
      cases result with
      | failed => trivial
      | wrote n =>
          refine ⟨fun takes inside => ?_, ih (Nat.le_add_left n done) fun frame isLength =>
            (inPlace frame isLength).2⟩
          by_contra elsewhere
          have same := (inPlace (markedFrame length done) length_markedFrame).1
          have some_byte : 0 < min n (length - done) := by omega
          have first := congrArg (fun piece => piece[0]?) same
          rw [length_markedFrame, List.getElem?_take_of_lt some_byte,
            List.getElem?_take_of_lt some_byte, List.getElem?_drop, List.getElem?_drop,
            Nat.add_zero, Nat.add_zero, getElem?_markedFrame (by omega),
            getElem?_markedFrame inside, if_pos rfl, if_neg (Ne.symm elsewhere)] at first
          exact absurd (Option.some.inj first) (by decide)

theorem inPlace_all_iff (length : Nat) :
    (∀ frame : List UInt8, frame.length = length → InPlace frame results 0 0) ↔
      Placed length results 0 0 :=
  ⟨placed_of_inPlace (Nat.le_refl 0), fun placed _ isLength =>
    inPlace_of_placed (isLength.symm ▸ placed)⟩

end Placement

/-- A frame is sent as it should be if and only if it need not be released and each call takes
the bytes that are next, unless the loop fails or goes on. For all frames of a length that is so
where each call that takes bytes begins behind those written. -/
theorem tap_output_iff (interfaceUp : Bool) (results : List WriteResult)
    (xReleaseAfterSend : Bool) (frame : Block) :
    (SendsFrame interfaceUp results xReleaseAfterSend frame.val ↔
      (interfaceUp = true → completes results frame.val.length = true →
        xReleaseAfterSend = false ∧ InPlace frame.val results 0 0)) ∧
    ((∀ other : Block, other.val.length = frame.val.length →
        SendsFrame interfaceUp results xReleaseAfterSend other.val) ↔
      (interfaceUp = true → completes results frame.val.length = true →
        xReleaseAfterSend = false ∧ Placed frame.val.length results 0 0)) := by
  refine ⟨sendsFrame_iff interfaceUp results xReleaseAfterSend frame, ?_⟩
  simp only [sendsFrame_iff]
  constructor
  · intro all up completed
    have here := all frame rfl up completed
    refine ⟨here.1, (inPlace_all_iff _).mp fun other isLength => ?_⟩
    exact (all ⟨other, isLength ▸ frame.property⟩ isLength up (isLength.symm ▸ completed)).2
  · intro condition other isLength up completed
    obtain ⟨kept, placed⟩ := condition up (isLength ▸ completed)
    exact ⟨kept, (inPlace_all_iff _).mpr placed other.val isLength⟩

/-- Three calls of one byte each write the second byte twice, and no call releases a buffer. -/
theorem third_byte_lost :
    ¬ SendsFrame true [.wrote 1, .wrote 1, .wrote 1] false [1, 2, 3] ∧
      ¬ SendsFrame true [.wrote 3] true [1, 2, 3] := by
  constructor
  · intro sends
    have condition := (sendsFrame_iff _ _ _ ⟨[1, 2, 3], by decide⟩).mp sends rfl rfl
    exact absurd condition.2.2.2.1 (by decide)
  · intro sends
    have condition := (sendsFrame_iff _ _ _ ⟨[1, 2, 3], by decide⟩).mp sends rfl rfl
    cases condition.1

end RinaSense
