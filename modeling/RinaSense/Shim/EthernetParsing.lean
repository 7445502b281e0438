import RinaSense.Shim.ArpProcessing
import RinaSense.Shim.Ieee802154Parsing

/-!
# Parsing Ethernet frames

What the filter of `NetworkInterface.c` and `prvProcessEthernetPacket` read of a frame. The filter
reads the frame type of every frame, and the addresses of an ARP packet are read as its header
announces them, whether the frame goes on so far or not.
-/

namespace RinaSense

open Command

/-- The address resolution on the bytes of a buffer. The response to a reply concerns the flows of
the shim only. -/
def arpOn (emptyBlock : Bool) (cache : ArpCache) : ArpProcessing where
  eArpProcessPacket := fun pxNetworkBuffer => do
    let descriptor ← readBuffer pxNetworkBuffer
    let block ← follow descriptor.pucEthernetBuffer
    match (eArpProcessFrame emptyBlock block).run cache with
    | .error fault _ => throw fault
    | .ok (eReturn, block) _ =>
        writeBuffer pxNetworkBuffer { descriptor with pucEthernetBuffer := some block }
        return eReturn
  prxHandleAllocateResponse := return true

/-! ## Lengths -/

/-- The length a frame announces: that of the Ethernet header, and for an ARP packet that of its
header and the four addresses. -/
def announcedLength (frame : List UInt8) : Nat :=
  if usFrameTypeOf frame = some ethPRinaArp then
    match ArpHeader.ofFrame frame with
    | none => 22
    | some header => 22 + 2 * (header.ucHaLength.toNat + header.ucPaLength.toNat)
  else 14

/-- The filter and the processing stay inside the frame, which nothing has to follow in memory,
and what is shorter than it announces is rejected: the filter turns it down, or the buffer is
released. -/
structure ParsesInside (outcomes : EthernetRxOutcomes) (emptyBlock : Bool) (cache : ArpCache)
    (frame : List UInt8) : Prop where
  considered : ∀ node, Wp (eConsiderFrameForProcessing frame)
    (fun result _ => frame.length < 14 → result = .releaseBuffer) node
  processed : ∀ node pxNetworkBuffer descriptor spare,
    TakenIn node pxNetworkBuffer descriptor frame spare →
      Wp (prvProcessEthernetPacket outcomes (arpOn emptyBlock cache) pxNetworkBuffer)
        (fun _ after => frame.length < announcedLength frame →
          after.buffers.get? pxNetworkBuffer = none) node

/-- The frame has an Ethernet header, and four addresses behind an ARP header that is not
refused. -/
structure Complete (frame : List UInt8) : Prop where
  ethernet : 14 ≤ frame.length
  arp : ∀ header, usFrameTypeOf frame = some ethPRinaArp → ArpHeader.ofFrame frame = some header →
    header.accepted = true → 34 + 2 * header.ucPaLength.toNat ≤ frame.length

section Lengths

variable {frame : List UInt8}

/-- A frame without a whole Ethernet header has no type. -/
theorem usFrameTypeOf_of_short (short : frame.length < 14) : usFrameTypeOf frame = none := by
  rw [usFrameTypeOf]
  split
  · next high low rest bytes =>
      have length := congrArg List.length bytes
      simp only [List.length_drop, List.length_cons] at length
      omega
  · rfl

theorem ofFrame_of_short (short : frame.length < 22) : ArpHeader.ofFrame frame = none := by
  rw [ArpHeader.ofFrame]
  split
  · next rest bytes =>
      have length := congrArg List.length bytes
      simp only [List.length_drop, List.length_cons] at length
      omega
  · rfl

/-- The bytes from one position to another, and what follows. -/
theorem drop_append_eq {position count : Nat} (long : position + count ≤ frame.length)
    (spare : List UInt8) :
    (frame ++ spare).drop position =
      (frame.drop position).take count ++ (frame.drop (position + count) ++ spare) := by
  have whole := List.take_append_drop count (frame.drop position)
  rw [List.drop_drop] at whole
  rw [List.drop_append_of_le_length (by omega), ← List.append_assoc, whole]

/-- Two bytes behind the addresses are the frame type, whatever follows. -/
theorem exists_usFrameTypeOf_append (long : 14 ≤ frame.length) :
    ∃ usFrameType, ∀ spare, usFrameTypeOf (frame ++ spare) = some usFrameType := by
  have two : ((frame.drop 12).take 2).length = 2 := by
    rw [List.length_take, List.length_drop]
    omega
  simp only [usFrameTypeOf, @drop_append_eq frame 12 2 long]
  obtain ⟨high, low, both⟩ := List.length_eq_two.mp two
  rw [both]
  exact ⟨_, fun _ => rfl⟩

/-- Eight bytes behind the Ethernet header are an ARP header, whatever follows. -/
theorem exists_ofFrame_append (long : 22 ≤ frame.length) :
    ∃ header, ∀ spare, ArpHeader.ofFrame (frame ++ spare) = some header := by
  have eight : ((frame.drop 14).take 8).length = 8 := by
    rw [List.length_take, List.length_drop]
    omega
  simp only [ArpHeader.ofFrame, @drop_append_eq frame 14 8 long]
  generalize (frame.drop 14).take 8 = octets at eight ⊢
  rcases octets with _ | ⟨_, _ | ⟨_, _ | ⟨_, _ | ⟨_, _ | ⟨_, later⟩⟩⟩⟩⟩
  iterate 5 · cases eight
  have three : later.length = 3 := Nat.add_right_cancel (m := 5) eight
  obtain ⟨_, _, _, rfl⟩ := List.length_eq_three.mp three
  exact ⟨_, fun _ => rfl⟩

end Lengths

/-! ## Processing -/

section Processing

variable {outcomes : EthernetRxOutcomes} {emptyBlock : Bool} {cache : ArpCache} {node : Node}
  {pxNetworkBuffer : BufferId} {descriptor : NetworkBufferDescriptor} {frame spare : List UInt8}

/-- Whatever is left to do with a buffer in use is done. -/
theorem returns_finishFrame (stored : node.buffers.get? pxNetworkBuffer = some descriptor)
    (eReturned : FrameProcessingResult) :
    ∃ after, (finishFrame (arpOn emptyBlock cache) pxNetworkBuffer eReturned).run node =
      .ok () after := by
  cases eReturned with
  | releaseBuffer => exact ⟨_, run_release stored⟩
  | processBuffer => exact ⟨_, run_release stored⟩
  | returnEthernetFrame => exact ⟨node, rfl⟩
  | frameConsumed => exact ⟨node, rfl⟩

/-- The frame has an Ethernet header as far as its descriptor says. -/
theorem not_short_of_taken (taken : TakenIn node pxNetworkBuffer descriptor frame spare)
    (long : 14 ≤ frame.length) : ¬ descriptor.xEthernetDataLength < ethernetHeaderLength := by
  rw [UInt32.lt_iff_toNat_lt, taken.length]
  exact Nat.not_lt.mpr long

theorem short_of_taken_iff (taken : TakenIn node pxNetworkBuffer descriptor frame spare) :
    descriptor.xEthernetDataLength < arpPacketLength ↔ frame.length < 22 := by
  rw [UInt32.lt_iff_toNat_lt, taken.length]
  exact Iff.rfl

section Taken

variable (taken : TakenIn node pxNetworkBuffer descriptor frame spare)
include taken

/-- What the address resolution makes of the block. -/
theorem run_arpOn {eReturn : FrameProcessingResult} {block : List UInt8} {after : ArpCache}
    (processed : (eArpProcessFrame emptyBlock (frame ++ spare)).run cache =
      .ok (eReturn, block) after) :
    ((arpOn emptyBlock cache).eArpProcessPacket pxNetworkBuffer).run node =
      .ok eReturn { node with
        buffers := node.buffers.set pxNetworkBuffer
          { descriptor with pucEthernetBuffer := some block } } := by
  simp only [arpOn]
  rw [run_bind_ok (run_readBuffer taken.stored)]
  simp only [taken.block, follow, pure_bind, processed]
  rfl

theorem run_arpOn_outside {fault : Fault} {after : ArpCache}
    (faulted : (eArpProcessFrame emptyBlock (frame ++ spare)).run cache = .error fault after) :
    ((arpOn emptyBlock cache).eArpProcessPacket pxNetworkBuffer).run node = .error fault node := by
  simp only [arpOn]
  rw [run_bind_ok (run_readBuffer taken.stored)]
  simp only [taken.block, follow, pure_bind, faulted]
  rfl

variable (long : 14 ≤ frame.length)
include long

/-- A frame of another type, and an ARP packet without its header. -/
theorem wp_released {usFrameType : UInt16}
    (typed : usFrameTypeOf (frame ++ spare) = some usFrameType)
    (refused : if usFrameType = ethPRinaArp then frame.length < 22 else usFrameType ≠ ethPRina) :
    Wp (prvProcessEthernetPacket outcomes (arpOn emptyBlock cache) pxNetworkBuffer)
      (fun _ after => after.buffers.get? pxNetworkBuffer = none) node := by
  have released : (finishFrame (arpOn emptyBlock cache) pxNetworkBuffer .releaseBuffer).run node =
      .ok () { node with buffers := node.buffers.free pxNetworkBuffer } := run_release taken.stored
  rw [wp_iff]
  refine ⟨none, { node with buffers := node.buffers.free pxNetworkBuffer }, ?_,
    Store.get?_free_self _ _⟩
  rw [prvProcessEthernetPacket, run_bind_ok (run_readBuffer taken.stored),
    if_neg (not_short_of_taken taken long)]
  simp only [taken.block, follow, pure_bind, typed, short_of_taken_iff taken]
  by_cases arp : usFrameType = ethPRinaArp
  · rw [if_pos arp] at refused ⊢
    rw [if_pos refused, run_bind_ok released]
    rfl
  · rw [if_neg arp] at refused ⊢
    rw [if_neg refused, run_bind_ok released]
    rfl

/-- A frame with a data unit is kept for it. -/
theorem returns_rina (typed : usFrameTypeOf (frame ++ spare) = some ethPRina) :
    Returns (prvProcessEthernetPacket outcomes (arpOn emptyBlock cache) pxNetworkBuffer) node := by
  have other : ethPRina ≠ ethPRinaArp := by decide
  rw [Returns, Wp, prvProcessEthernetPacket, run_bind_ok (run_readBuffer taken.stored),
    if_neg (not_short_of_taken taken long)]
  simp only [taken.block, follow, pure_bind, typed, if_neg other, if_true]
  cases outcomes.duMemory with
  | false => trivial
  | true => trivial

/-- An ARP packet with a whole header is processed by its bytes. -/
theorem run_arp (typed : usFrameTypeOf (frame ++ spare) = some ethPRinaArp)
    (headed : 22 ≤ frame.length) :
    (prvProcessEthernetPacket outcomes (arpOn emptyBlock cache) pxNetworkBuffer).run node =
      (do
        let eReturned ← (arpOn emptyBlock cache).eArpProcessPacket pxNetworkBuffer
        finishFrame (arpOn emptyBlock cache) pxNetworkBuffer eReturned
        return none : Rina (Option DuId)).run node := by
  rw [prvProcessEthernetPacket, run_bind_ok (run_readBuffer taken.stored),
    if_neg (not_short_of_taken taken long)]
  simp only [taken.block, follow, pure_bind, typed, short_of_taken_iff taken, if_true,
    if_neg (Nat.not_lt.mpr headed)]

/-- An ARP packet is processed if its addresses are in the block, or its header is refused. -/
theorem wp_arp (ready : cache.Ready) (typed : usFrameTypeOf (frame ++ spare) = some ethPRinaArp)
    (headed : 22 ≤ frame.length) {header : ArpHeader}
    (found : ArpHeader.ofFrame (frame ++ spare) = some header)
    (complete : header.accepted = true →
      34 + 2 * header.ucPaLength.toNat ≤ (frame ++ spare).length) :
    Wp (prvProcessEthernetPacket outcomes (arpOn emptyBlock cache) pxNetworkBuffer)
      (fun _ after => header.accepted = false → after.buffers.get? pxNetworkBuffer = none)
      node := by
  rw [Wp, run_arp taken long typed headed]
  cases accepted : header.accepted with
  | false =>
      have stored := Store.get?_set_self taken.stored
        { descriptor with pucEthernetBuffer := some (frame ++ spare) }
      rw [run_bind_ok (run_arpOn taken
        (run_eArpProcessFrame_refused (readArpPacket_refused found accepted)))]
      have released := @run_release { node with
        buffers := node.buffers.set pxNetworkBuffer
          { descriptor with pucEthernetBuffer := some (frame ++ spare) } } _ _ stored
      rw [finishFrame, run_bind_ok released]
      exact fun _ => Store.get?_free_self _ _
  | true =>
      obtain ⟨eReturn, after, run, -, -⟩ := run_eArpProcessFrame
        (readArpPacket_ok found accepted (complete accepted))
        (@processed_ready cache emptyBlock ready _)
      generalize (if eReturn = .returnEthernetFrame then withOperation (frame ++ spare) arpReply
        else frame ++ spare) = block at run
      rw [run_bind_ok (run_arpOn taken run)]
      obtain ⟨last, finished⟩ := @returns_finishFrame emptyBlock cache { node with
        buffers := node.buffers.set pxNetworkBuffer
          { descriptor with pucEthernetBuffer := some block } } _ _
            (Store.get?_set_self taken.stored _) eReturn
      rw [run_bind_ok finished]
      rintro ⟨⟩

end Taken

end Processing

/-! ## Every frame -/

section Frames

variable {outcomes : EthernetRxOutcomes} {emptyBlock : Bool} {cache : ArpCache}

/-- The addresses of a header that is not refused take what it announces. -/
theorem hardwareLength_of_accepted {header : ArpHeader} (accepted : header.accepted = true) :
    header.ucHaLength = 6 := by
  simp only [ArpHeader.accepted, Bool.and_eq_true, beq_iff_eq] at accepted
  exact accepted.1.2

theorem parsesInside_of_complete (ready : cache.Ready) {frame : List UInt8}
    (complete : Complete frame) : ParsesInside outcomes emptyBlock cache frame := by
  obtain ⟨usFrameType, typed⟩ := exists_usFrameTypeOf_append complete.ethernet
  have typedFrame : usFrameTypeOf frame = some usFrameType := List.append_nil frame ▸ typed []
  constructor
  · intro node
    simp only [eConsiderFrameForProcessing, typedFrame]
    split
    · exact fun short => absurd short (Nat.not_lt.mpr complete.ethernet)
    · exact fun _ => rfl
  · intro node pxNetworkBuffer descriptor spare taken
    by_cases arp : usFrameType = ethPRinaArp
    · subst arp
      by_cases headed : 22 ≤ frame.length
      · obtain ⟨header, found⟩ := exists_ofFrame_append headed
        have foundFrame : ArpHeader.ofFrame frame = some header := List.append_nil frame ▸ found []
        have processed := @wp_arp outcomes emptyBlock cache _ _ _ _ _ taken complete.ethernet ready
          (typed spare) headed _ (found spare) fun accepted => by
            have inside := complete.arp header typedFrame foundFrame accepted
            rw [List.length_append]
            omega
        obtain ⟨value, after, run, released⟩ := wp_iff.mp processed
        refine wp_iff.mpr ⟨value, after, run, fun short => released ?_⟩
        cases accepted : header.accepted with
        | false => rfl
        | true =>
            have inside := complete.arp header typedFrame foundFrame accepted
            rw [announcedLength, if_pos typedFrame, foundFrame] at short
            simp only [hardwareLength_of_accepted accepted, UInt8.reduceToNat] at short
            omega
      · have released := @wp_released outcomes emptyBlock cache _ _ _ _ _ taken complete.ethernet _
          (typed spare) (by rw [if_pos rfl]; omega)
        obtain ⟨value, after, run, freed⟩ := wp_iff.mp released
        exact wp_iff.mpr ⟨value, after, run, fun _ => freed⟩
    · by_cases rina : usFrameType = ethPRina
      · subst rina
        have returns := @returns_rina outcomes emptyBlock cache _ _ _ _ _ taken complete.ethernet
          (typed spare)
        obtain ⟨value, after, run, -⟩ := wp_iff.mp returns
        refine wp_iff.mpr ⟨value, after, run, fun short => ?_⟩
        rw [announcedLength, typedFrame, if_neg (by decide)] at short
        exact absurd short (Nat.not_lt.mpr complete.ethernet)
      · have released := @wp_released outcomes emptyBlock cache _ _ _ _ _ taken complete.ethernet _
          (typed spare) (by rw [if_neg arp]; exact rina)
        obtain ⟨value, after, run, freed⟩ := wp_iff.mp released
        exact wp_iff.mpr ⟨value, after, run, fun _ => freed⟩

/-- The filter reads the frame type of what is too short for one, and an ARP packet that ends with
its block is read beyond it. -/
theorem complete_of_parsesInside {frame : Block}
    (parses : ParsesInside outcomes emptyBlock cache frame.val) : Complete frame.val := by
  have long : 14 ≤ frame.val.length := by
    by_contra short
    have considered := parses.considered Node.blank
    rw [eConsiderFrameForProcessing, usFrameTypeOf_of_short (Nat.lt_of_not_le short)] at considered
    exact considered
  refine ⟨long, fun header typed found accepted => ?_⟩
  by_contra outside
  obtain ⟨_, _, _, taken⟩ := exists_takenIn frame
  have headed : 22 ≤ frame.val.length := by
    by_contra short
    rw [ofFrame_of_short (Nat.lt_of_not_le short)] at found
    cases found
  have faulted : (eArpProcessFrame emptyBlock (frame.val ++ [])).run cache =
      .error .outOfBounds cache := by
    rw [List.append_nil]
    exact run_eArpProcessFrame_outside (readArpPacket_outside found accepted outside)
  have processed := parses.processed _ _ _ _ taken
  rw [Wp, run_arp taken long (by rw [List.append_nil, typed]) headed,
    run_bind_error (run_arpOn_outside taken faulted)] at processed
  exact processed

/-- For every received frame, and whatever the receiver has. -/
theorem ethernet_parse_iff (ready : cache.Ready) (frame : Block) :
    ParsesInside outcomes emptyBlock cache frame.val ↔ Complete frame.val :=
  ⟨complete_of_parsesInside, parsesInside_of_complete ready⟩

/-- A request that ends with its header, which announces addresses of one byte. -/
def truncatedRequest : Block :=
  ⟨(arpPacketBytes ghaUnknown ⟨some [0x41]⟩ ⟨some [0x42]⟩ arpRequest).take 22, by decide⟩

theorem ethernet_parse_iff_truncated :
    ParsesInside ⟨true, true, true, true⟩ false
        (final ((vArpInitCache (Vector.replicate 3 0)).run BoundArp.oneStation)) truncatedRequest.val ↔
      Complete truncatedRequest.val :=
  ethernet_parse_iff (ready_vArpInitCache BoundArp.oneStation _) truncatedRequest

/-- Its addresses are read all the same. -/
theorem truncated_request_read :
    (final ((vArpInitCache (Vector.replicate 3 0)).run BoundArp.oneStation)).Ready ∧
      ¬ ParsesInside ⟨true, true, true, true⟩ false
        (final ((vArpInitCache (Vector.replicate 3 0)).run BoundArp.oneStation))
        truncatedRequest.val := by
  refine ⟨ready_vArpInitCache BoundArp.oneStation _, ?_⟩
  intro parses
  have complete := complete_of_parsesInside parses
  have inside := complete.arp (requestHeader 1) (by decide) (by decide) (by decide)
  exact absurd inside (by decide)

end Frames

end RinaSense
