import RinaSense.Shim.Ieee802154RoundTrip

/-!
# Parsing IEEE 802.15.4 frames

A frame taken in is rejected, or its SDU is what follows the complete MAC header. The module
determines the frames for which this holds, whatever lies behind them in memory.
-/

namespace RinaSense

open Command

/-! ## The MAC header -/

namespace AddressMode

/-- The bytes of an address. -/
def length : AddressMode → Option Nat
  | .none => some 0
  | .reserved => Option.none
  | .short => some 2
  | .long => some 8

/-- The bytes read before the addressee of a packet is known. -/
def addresseeEnd : AddressMode → Nat
  | .none => 0
  | .reserved => 0
  | .short => 7
  | .long => 13

/-- Where the SDU is taken to begin. -/
def sduPosition : AddressMode → Nat
  | .none => 3
  | .reserved => 0
  | .short => 9
  | .long => 13

/-- The source address `sduPosition` allows for. -/
def sourceAllowed (source : AddressMode) (panIdCompressed : Bool) : AddressMode → Prop
  | .short => source = .short ∧ panIdCompressed = true
  | _ => source = .none

end AddressMode

/-- `srcAddrType` of `mac_fcs_t`, in the second byte. -/
def srcAddrType (high : UInt8) : AddressMode :=
  if high &&& 0xC0 = 0 then .none
  else if high &&& 0xC0 = 0x40 then .reserved
  else if high &&& 0xC0 = 0x80 then .short
  else .long

/-- `panIdCompressed` of `mac_fcs_t`, in the first byte. -/
def panIdCompressed (low : UInt8) : Bool := low &&& 0x40 ≠ 0

/-- The length of a header with a sequence number, a destination PAN with its address, and a
source address with a PAN unless that is compressed. -/
def headerLength (destination source : AddressMode) (panIdCompressed : Bool) : Option Nat := do
  let destinationLength ← destination.length
  let sourceLength ← source.length
  let destinationPan := if destinationLength = 0 then 0 else 2
  let sourcePan := if sourceLength = 0 || panIdCompressed then 0 else 2
  return 3 + destinationPan + destinationLength + sourcePan + sourceLength

/-- The length of the complete MAC header the frame control of a frame announces. -/
def macHeaderLength : List UInt8 → Option Nat
  | low :: high :: _ =>
      headerLength (MacFcs.ofBytes low high).destAddrType (srcAddrType high) (panIdCompressed low)
  | _ => none

/-- The SDU begins behind the header for one kind of source only. -/
theorem headerLength_eq_iff {destination : AddressMode} (known : destination ≠ .reserved)
    (source : AddressMode) (compressed : Bool) :
    headerLength destination source compressed = some destination.sduPosition ↔
      source.sourceAllowed compressed destination := by
  cases destination with
  | reserved => exact absurd rfl known
  | none => cases source <;> cases compressed <;> simp [headerLength, AddressMode.length,
      AddressMode.sduPosition, AddressMode.sourceAllowed]
  | short => cases source <;> cases compressed <;> simp [headerLength, AddressMode.length,
      AddressMode.sduPosition, AddressMode.sourceAllowed]
  | long => cases source <;> cases compressed <;> simp [headerLength, AddressMode.length,
      AddressMode.sduPosition, AddressMode.sourceAllowed]

/-! ## Frames -/

/-- A packet was taken into a buffer: its frame, with other bytes behind it in the block. -/
structure TakenIn (node : Node) (pxNetworkBuffer : BufferId) (descriptor : NetworkBufferDescriptor)
    (frame spare : List UInt8) : Prop where
  stored : node.buffers.get? pxNetworkBuffer = some descriptor
  block : descriptor.pucEthernetBuffer = some (frame ++ spare)
  length : descriptor.xEthernetDataLength.toNat = frame.length

/-- Every frame can be taken in with nothing behind it. -/
theorem exists_takenIn (frame : Block) :
    ∃ node pxNetworkBuffer descriptor, TakenIn node pxNetworkBuffer descriptor frame.val [] := by
  let descriptor : NetworkBufferDescriptor :=
    { freshDescriptor 0 with
      pucEthernetBuffer := some (frame.val ++ [])
      xEthernetDataLength := UInt32.ofNat frame.val.length }
  exact ⟨{ Node.blank with buffers := (Node.blank.buffers.allocate descriptor).1 },
    Node.blank.buffers.next, descriptor, Node.blank.buffers.get?_allocate_new descriptor, rfl,
    UInt32.toNat_ofNat_of_lt' frame.property⟩

/-- The bytes from a position to the end of the frame are the SDU of a data unit. -/
structure TakesSdu (frame : List UInt8) (pxNetworkBuffer : BufferId) (after : Node) (pxDu : DuId)
    (position : Nat) (descriptor : NetworkBufferDescriptor) : Prop where
  held : after.dus.get? pxDu = some { pxNetworkBuffer := some pxNetworkBuffer, pxPci := none }
  stored : after.buffers.get? pxNetworkBuffer = some descriptor
  start : descriptor.pucRinaBuffer = some position
  length : position + descriptor.xRinaDataLength.toNat = frame.length

/-- The frame was rejected and its buffer released, or its SDU is what is behind the header. -/
def RejectedOrTaken (frame : List UInt8) (pxNetworkBuffer : BufferId) (after : Node) :
    Except Bool DuId → Prop
  | .error _ => after.buffers.get? pxNetworkBuffer = none
  | .ok pxDu => ∃ position descriptor, macHeaderLength frame = some position ∧
      TakesSdu frame pxNetworkBuffer after pxDu position descriptor

/-- Wherever a frame is taken in, and whatever follows it there, it is rejected or its SDU is
taken. As nothing has to follow it, no byte behind it is read. -/
def ParsesProperly (outcomes : Ieee802154RxOutcomes) (addresses : RadioAddresses)
    (frame : List UInt8) : Prop :=
  ∀ node pxNetworkBuffer descriptor spare, TakenIn node pxNetworkBuffer descriptor frame spare →
    Wp (openIeee802154Packet outcomes addresses pxNetworkBuffer)
      (fun result after => RejectedOrTaken frame pxNetworkBuffer after result) node

/-- Whether the destination address of a packet is the one of the radio. -/
def addressedToMe (addresses : RadioAddresses) (packet : List UInt8) : AddressMode → Bool
  | .none => true
  | .reserved => false
  | .short =>
      match packet[5]?, packet[6]? with
      | some low, some high =>
          let shortDstAddr := high.toUInt16 <<< 8 ||| low.toUInt16
          decide (shortDstAddr = addresses.shortAddress)
      | _, _ => false
  | .long => decide (((packet.drop 5).take 8).reverse = addresses.extendedAddress.toList)

/-- The frame is turned down for its frame control, or it is a data frame that is long enough
for its destination, and if that is this node, it reaches the position of the SDU and, where
that can be handed up, has the source address allowed for. -/
def Parsable (outcomes : Ieee802154RxOutcomes) (addresses : RadioAddresses) :
    List UInt8 → Prop
  | low :: high :: rest =>
      let fcs := MacFcs.ofBytes low high
      let frame := low :: high :: rest
      fcs.rfu1 = true ∨ fcs.frameType = .other ∨
        fcs.frameType = .data ∧ fcs.destAddrType.addresseeEnd ≤ frame.length ∧
          (addressedToMe addresses frame fcs.destAddrType = true →
            fcs.destAddrType.sduPosition ≤ frame.length ∧
              (outcomes.duMemory = true → outcomes.normalInstance = true →
                (srcAddrType high).sourceAllowed (panIdCompressed low) fcs.destAddrType ∧
                  frame.length < fcs.destAddrType.sduPosition + 2 ^ 16))
  | _ => False

/-! ## The length of the SDU -/

section Length

variable {descriptor : NetworkBufferDescriptor} {position length : Nat}

/-- `sdu_length`, computed in the words of the source. -/
theorem sduLength_toNat (few : position ≤ 13)
    (isLength : descriptor.xEthernetDataLength.toNat = length) :
    (descriptor.xEthernetDataLength - UInt32.ofNat position).toUInt16.toNat =
      (2 ^ 32 - position + length) % 2 ^ 16 := by
  have small : (UInt32.ofNat position).toNat = position :=
    UInt32.toNat_ofNat_of_lt' (by simp only [UInt32.size]; omega)
  rw [UInt32.toNat_toUInt16, UInt32.toNat_sub, small, isLength]
  omega

/-- The SDU ends inside the block exactly if it begins inside the frame. -/
theorem sduLength_inside_iff (few : position ≤ 13)
    (isLength : descriptor.xEthernetDataLength.toNat = length) :
    position + (descriptor.xEthernetDataLength - UInt32.ofNat position).toUInt16.toNat ≤ length ↔
      position ≤ length := by
  rw [sduLength_toNat few isLength]
  omega

/-- It ends with the frame if its length is not cut off. -/
theorem sduLength_exact_iff (few : position ≤ 13) (inside : position ≤ length)
    (isLength : descriptor.xEthernetDataLength.toNat = length) :
    position + (descriptor.xEthernetDataLength - UInt32.ofNat position).toUInt16.toNat = length ↔
      length < position + 2 ^ 16 := by
  rw [sduLength_toNat few isLength]
  omega

end Length

/-! ## The addressee -/

section Addressee

variable {addresses : RadioAddresses} {packet : List UInt8} {node : Node}

/-- The addressee is found where the packet is long enough. -/
theorem run_readAddressee_found {mode : AddressMode} (enough : mode.addresseeEnd ≤ packet.length) :
    ∃ found, (readAddressee addresses packet mode).run node = .ok found node ∧
      (addressedToMe addresses packet mode = true → found = some (.me, mode.sduPosition)) ∧
      (addressedToMe addresses packet mode = false → ∀ position, found ≠ some (.me, position)) := by
  cases mode with
  | none => exact ⟨_, rfl, fun _ => rfl, fun other => absurd other.symm Bool.false_ne_true⟩
  | reserved =>
      exact ⟨none, rfl, fun mine => absurd mine Bool.false_ne_true, fun _ _ => (Option.some_ne_none _).symm⟩
  | short =>
      change 7 ≤ packet.length at enough
      have low : packet[5]? = some packet[5] := List.getElem?_eq_getElem _
      have high : packet[6]? = some packet[6] := List.getElem?_eq_getElem _
      simp only [readAddressee, readByte, low, high, EStateM.run_bind, EStateM.run_pure,
        addressedToMe, decide_eq_true_eq, decide_eq_false_iff_not]
      by_cases mine : packet[6].toUInt16 <<< 8 ||| packet[5].toUInt16 = addresses.shortAddress
      · exact ⟨_, by rw [if_pos mine]; rfl, fun _ => rfl, fun other => absurd mine other⟩
      · rw [if_neg mine]
        split
        · exact ⟨_, rfl, fun other => absurd other mine, fun _ _ same => by cases same⟩
        · exact ⟨_, rfl, fun other => absurd other mine, fun _ _ same => by cases same⟩
  | long =>
      have read := @run_copyFrom node packet 5 8 enough
      simp only [readAddressee, EStateM.run_bind, read, addressedToMe,
        decide_eq_true_eq, decide_eq_false_iff_not]
      split
      · next mine => exact ⟨_, rfl, fun _ => rfl, fun other => absurd mine other⟩
      · next other => exact ⟨_, rfl, fun mine => absurd mine other, fun _ _ same => by cases same⟩

/-- A packet that is too short is read behind its end. -/
theorem run_readAddressee_short {mode : AddressMode} (short : ¬ mode.addresseeEnd ≤ packet.length) :
    ∃ fault, (readAddressee addresses packet mode).run node = .error fault node := by
  cases mode with
  | none => exact absurd (Nat.zero_le _) short
  | reserved => exact absurd (Nat.zero_le _) short
  | short =>
      change ¬ 7 ≤ packet.length at short
      have high : packet[6]? = none := List.getElem?_eq_none (by omega)
      cases low : packet[5]? with
      | none => exact ⟨.outOfBounds, by simp [readAddressee, readByte, low]⟩
      | some byte => exact ⟨.outOfBounds, by simp [readAddressee, readByte, low, high]⟩
  | long =>
      change ¬ 13 ≤ packet.length at short
      have read := @run_copyFrom_outside node packet 5 8 (by decide) short
      exact ⟨.outOfBounds, by simp only [readAddressee, EStateM.run_bind, read]⟩

/-- What follows a packet that is long enough has no part in it. -/
theorem addressedToMe_append {mode : AddressMode} (enough : mode.addresseeEnd ≤ packet.length)
    (spare : List UInt8) :
    addressedToMe addresses (packet ++ spare) mode = addressedToMe addresses packet mode := by
  cases mode with
  | none => rfl
  | reserved => rfl
  | short =>
      change 7 ≤ packet.length at enough
      rw [addressedToMe, addressedToMe, List.getElem?_append_left (by omega),
        List.getElem?_append_left (by omega)]
  | long =>
      change 13 ≤ packet.length at enough
      rw [addressedToMe, addressedToMe, List.drop_append_of_le_length (by omega),
        List.take_append_of_le_length (by rw [List.length_drop]; omega)]

end Addressee

/-! ## Opening a packet -/

section Opening

variable {outcomes : Ieee802154RxOutcomes} {addresses : RadioAddresses} {node : Node}
  {pxNetworkBuffer : BufferId} {descriptor : NetworkBufferDescriptor} {low high : UInt8}
  {rest spare : List UInt8}

/-- The descriptor with the SDU from a position on. -/
def withSdu (descriptor : NetworkBufferDescriptor) (position : Nat) : NetworkBufferDescriptor :=
  { descriptor with
    pucRinaBuffer := some position
    xRinaDataLength :=
      (descriptor.xEthernetDataLength - UInt32.ofNat position).toUInt16.toUInt32 }

/-- Whether a packet is properly parsed, in a state it was taken in. -/
def Opens (outcomes : Ieee802154RxOutcomes) (addresses : RadioAddresses) (frame : List UInt8)
    (pxNetworkBuffer : BufferId) (node : Node) : Prop :=
  Wp (openIeee802154Packet outcomes addresses pxNetworkBuffer)
    (fun result after => RejectedOrTaken frame pxNetworkBuffer after result) node

theorem opens_of_released {frame : List UInt8} {descriptor : NetworkBufferDescriptor}
    (stored : node.buffers.get? pxNetworkBuffer = some descriptor) (status : Bool)
    (run : (openIeee802154Packet outcomes addresses pxNetworkBuffer).run node =
      (do
        vReleaseNetworkBufferAndDescriptor pxNetworkBuffer
        return .error status : Rina (Except Bool DuId)).run node) :
    Opens outcomes addresses frame pxNetworkBuffer node := by
  rw [run_bind_ok (run_release stored)] at run
  exact wp_iff.mpr ⟨_, _, run, node.buffers.get?_free_self pxNetworkBuffer⟩

theorem not_opens_of_error {frame : List UInt8} {fault : Fault} {after : Node}
    (run : (openIeee802154Packet outcomes addresses pxNetworkBuffer).run node =
      .error fault after) : ¬ Opens outcomes addresses frame pxNetworkBuffer node := by
  intro opens
  obtain ⟨result, other, returned, -⟩ := wp_iff.mp opens
  rw [run] at returned
  cases returned

section Block

variable {packet : List UInt8} (stored : node.buffers.get? pxNetworkBuffer = some descriptor)
  (block : descriptor.pucEthernetBuffer = some packet) (first : packet[0]? = some low)
  (second : packet[1]? = some high)
include stored block first second

/-- The frame control is read. -/
theorem run_frameControl {α : Type}
    (rest' : NetworkBufferDescriptor → List UInt8 → UInt8 → UInt8 → Rina α) :
    (do
      let descriptor ← readBuffer pxNetworkBuffer
      let packet ← follow descriptor.pucEthernetBuffer
      let low ← readByte packet 0
      let high ← readByte packet 1
      rest' descriptor packet low high : Rina α).run node =
      (rest' descriptor packet low high).run node := by
  simp only [EStateM.run_bind, run_readBuffer stored, block, run_follow_some, readByte, first,
    second, EStateM.run_pure]

/-- A packet with the reserved bit set is released. -/
theorem run_open_reserved (reserved : (MacFcs.ofBytes low high).rfu1 = true) :
    (openIeee802154Packet outcomes addresses pxNetworkBuffer).run node =
      (do
        vReleaseNetworkBufferAndDescriptor pxNetworkBuffer
        return .error false : Rina (Except Bool DuId)).run node := by
  rw [openIeee802154Packet, run_frameControl stored block first second]
  simp only [reserved, if_true]

/-- The answer to an acknowledgement writes behind its array. -/
theorem run_open_ack (unreserved : (MacFcs.ofBytes low high).rfu1 = false)
    (ack : (MacFcs.ofBytes low high).frameType = .ack) :
    (openIeee802154Packet outcomes addresses pxNetworkBuffer).run node =
      .error .outOfBounds node := by
  rw [openIeee802154Packet, run_frameControl stored block first second]
  simp only [unreserved, Bool.false_eq_true, if_false, ack, run_throw]

theorem run_open_other (unreserved : (MacFcs.ofBytes low high).rfu1 = false)
    (other : (MacFcs.ofBytes low high).frameType = .other) :
    (openIeee802154Packet outcomes addresses pxNetworkBuffer).run node =
      (do
        vReleaseNetworkBufferAndDescriptor pxNetworkBuffer
        return .error false : Rina (Except Bool DuId)).run node := by
  rw [openIeee802154Packet, run_frameControl stored block first second]
  simp only [unreserved, Bool.false_eq_true, if_false, other]

/-- A data packet for somebody else is released. -/
theorem run_open_elsewhere (unreserved : (MacFcs.ofBytes low high).rfu1 = false)
    (data : (MacFcs.ofBytes low high).frameType = .data) {found : Option (Addressee × Nat)}
    (run : (readAddressee addresses packet (MacFcs.ofBytes low high).destAddrType).run node =
      .ok found node)
    (elsewhere : ∀ position, found ≠ some (.me, position)) :
    ∃ status, (openIeee802154Packet outcomes addresses pxNetworkBuffer).run node =
      (do
        vReleaseNetworkBufferAndDescriptor pxNetworkBuffer
        return .error status : Rina (Except Bool DuId)).run node := by
  rw [openIeee802154Packet, run_frameControl stored block first second]
  simp only [unreserved, Bool.false_eq_true, if_false, data, run_bind_ok run]
  cases found with
  | none => exact ⟨false, rfl⟩
  | some addressee =>
      obtain ⟨whose, position⟩ := addressee
      cases whose with
      | me => exact absurd rfl (elsewhere position)
      | everyone => exact ⟨true, rfl⟩
      | other => exact ⟨false, rfl⟩

/-- A data packet for this node, its descriptor written. -/
theorem run_open_mine (unreserved : (MacFcs.ofBytes low high).rfu1 = false)
    (data : (MacFcs.ofBytes low high).frameType = .data) {position : Nat}
    (run : (readAddressee addresses packet
      (MacFcs.ofBytes low high).destAddrType).run node = .ok (some (.me, position)) node) :
    (openIeee802154Packet outcomes addresses pxNetworkBuffer).run node =
      (do
        let _ ← copyFrom (some packet) position
          (descriptor.xEthernetDataLength - UInt32.ofNat position).toUInt16.toNat
        if !outcomes.duMemory then
          vReleaseNetworkBufferAndDescriptor pxNetworkBuffer
          return .error false
        let node ← get
        let (dus, pxMessagePdu) :=
          node.dus.allocate { pxNetworkBuffer := some pxNetworkBuffer, pxPci := none }
        set { node with dus }
        if !outcomes.normalInstance then
          vReleaseNetworkBufferAndDescriptor pxNetworkBuffer
          modify fun node => { node with dus := node.dus.free pxMessagePdu }
          return .error false
        return .ok pxMessagePdu : Rina (Except Bool DuId)).run
          { node with buffers := node.buffers.set pxNetworkBuffer (withSdu descriptor position) } := by
  rw [openIeee802154Packet, run_frameControl stored block first second]
  simp only [unreserved, Bool.false_eq_true, if_false, data]
  rw [run_bind_ok run]
  exact run_bind_ok (run_writeBuffer _ _) _

end Block

section Control

variable (taken : TakenIn node pxNetworkBuffer descriptor (low :: high :: rest) spare)
include taken

/-- A packet with the reserved bit set is rejected. -/
theorem opens_reserved (reserved : (MacFcs.ofBytes low high).rfu1 = true) :
    Opens outcomes addresses (low :: high :: rest) pxNetworkBuffer node :=
  opens_of_released taken.stored false (run_open_reserved taken.stored taken.block rfl rfl reserved)

variable (unreserved : (MacFcs.ofBytes low high).rfu1 = false)
include unreserved

/-- The answer to an acknowledgement ends the run. -/
theorem not_opens_ack (ack : (MacFcs.ofBytes low high).frameType = .ack) :
    ¬ Opens outcomes addresses (low :: high :: rest) pxNetworkBuffer node :=
  not_opens_of_error (run_open_ack taken.stored taken.block rfl rfl unreserved ack)

theorem opens_other (other : (MacFcs.ofBytes low high).frameType = .other) :
    Opens outcomes addresses (low :: high :: rest) pxNetworkBuffer node :=
  opens_of_released taken.stored false
    (run_open_other taken.stored taken.block rfl rfl unreserved other)

variable (data : (MacFcs.ofBytes low high).frameType = .data)
include data

/-- A data packet whose addressee cannot be read. -/
theorem not_opens_addressee {fault : Fault}
    (run : (readAddressee addresses (low :: high :: rest ++ spare)
      (MacFcs.ofBytes low high).destAddrType).run node = .error fault node) :
    ¬ Opens outcomes addresses (low :: high :: rest) pxNetworkBuffer node := by
  apply not_opens_of_error
  rw [openIeee802154Packet, run_frameControl taken.stored taken.block rfl rfl]
  simp only [unreserved, Bool.false_eq_true, if_false, data]
  exact run_bind_error run _

/-- A data packet for somebody else is rejected. -/
theorem opens_elsewhere {found : Option (Addressee × Nat)}
    (run : (readAddressee addresses (low :: high :: rest ++ spare)
      (MacFcs.ofBytes low high).destAddrType).run node = .ok found node)
    (elsewhere : ∀ position, found ≠ some (.me, position)) :
    Opens outcomes addresses (low :: high :: rest) pxNetworkBuffer node := by
  obtain ⟨status, opened⟩ := @run_open_elsewhere outcomes addresses node _ _ _ _ _ taken.stored
    taken.block rfl rfl unreserved data _ run elsewhere
  exact opens_of_released taken.stored status opened

section Mine

variable {position : Nat}
  (run : (readAddressee addresses (low :: high :: rest ++ spare)
    (MacFcs.ofBytes low high).destAddrType).run node = .ok (some (.me, position)) node)
include run

/-- The SDU of a data packet for this node reaches behind the block. -/
theorem not_opens_outside
    (positive : (descriptor.xEthernetDataLength - UInt32.ofNat position).toUInt16.toNat ≠ 0)
    (outside : ¬ position + (descriptor.xEthernetDataLength -
      UInt32.ofNat position).toUInt16.toNat ≤ (low :: high :: rest ++ spare).length) :
    ¬ Opens outcomes addresses (low :: high :: rest) pxNetworkBuffer node := by
  have reads := @run_open_mine outcomes addresses node _ _ _ _ _ taken.stored taken.block rfl rfl
    unreserved data _ run
  rw [run_bind_error (run_copyFrom_outside positive outside)] at reads
  exact not_opens_of_error reads

/-- A data packet for this node, with its SDU inside the block. -/
theorem opens_mine_iff
    (inside : position + (descriptor.xEthernetDataLength -
      UInt32.ofNat position).toUInt16.toNat ≤ (low :: high :: rest ++ spare).length) :
    Opens outcomes addresses (low :: high :: rest) pxNetworkBuffer node ↔
      (outcomes.duMemory = true → outcomes.normalInstance = true →
        macHeaderLength (low :: high :: rest) = some position ∧
          position + (descriptor.xEthernetDataLength - UInt32.ofNat position).toUInt16.toNat =
            (low :: high :: rest).length) := by
  have stored : (node.buffers.set pxNetworkBuffer (withSdu descriptor position)).get?
      pxNetworkBuffer = some (withSdu descriptor position) := Store.get?_set_self taken.stored _
  have reads := @run_open_mine outcomes addresses node _ _ _ _ _ taken.stored taken.block rfl rfl
    unreserved data _ run
  rw [run_bind_ok (run_copyFrom inside)] at reads
  cases memory : outcomes.duMemory with
  | false =>
      refine iff_of_true ?_ fun granted => nomatch granted
      simp only [memory, Bool.not_false, if_true] at reads
      rw [run_bind_ok (run_release stored)] at reads
      exact wp_iff.mpr ⟨_, _, reads, Store.get?_free_self _ _⟩
  | true =>
      cases normal : outcomes.normalInstance with
      | false =>
          refine iff_of_true ?_ fun _ granted => nomatch granted
          simp only [memory, normal, Bool.not_true, Bool.not_false, Bool.false_eq_true, if_false,
            if_true, EStateM.run_bind, EStateM.run_get, EStateM.run_set] at reads
          rw [@run_release { node with
            buffers := node.buffers.set pxNetworkBuffer (withSdu descriptor position)
            dus := (node.dus.allocate
              { pxNetworkBuffer := some pxNetworkBuffer, pxPci := none }).1 } _ _ stored] at reads
          exact wp_iff.mpr ⟨_, _, reads, Store.get?_free_self _ _⟩
      | true =>
          simp only [memory, normal, Bool.not_true, Bool.false_eq_true, if_false,
            EStateM.run_bind, EStateM.run_get, EStateM.run_set] at reads
          rw [forall_prop_of_true rfl, forall_prop_of_true rfl]
          constructor
          · intro opens
            obtain ⟨result, after, returned, parsed⟩ := wp_iff.mp opens
            rw [reads] at returned
            cases returned
            obtain ⟨start, opened, header, taking⟩ := parsed
            have same := Option.some.inj (stored.symm.trans taking.stored)
            have starts := taking.start
            rw [← same] at starts
            have ends := taking.length
            rw [← same, ← Option.some.inj starts] at ends
            rw [← Option.some.inj starts] at header
            exact ⟨header, ends⟩
          · rintro ⟨header, exact'⟩
            exact wp_iff.mpr ⟨_, _, reads, position, withSdu descriptor position, header,
              node.dus.get?_allocate_new _, stored, rfl, exact'⟩

end Mine

end Control

end Opening

/-! ## Every frame -/

section Frames

variable {outcomes : Ieee802154RxOutcomes} {addresses : RadioAddresses} {node : Node}
  {pxNetworkBuffer : BufferId} {descriptor : NetworkBufferDescriptor} {frame spare : List UInt8}

theorem sduPosition_le (mode : AddressMode) : mode.sduPosition ≤ 13 := by
  cases mode <;> decide

theorem known_of_addressedToMe {packet : List UInt8} {mode : AddressMode}
    (mine : addressedToMe addresses packet mode = true) : mode ≠ .reserved := by
  rintro rfl
  cases mine

/-- A packet that can be parsed is, whatever follows it. -/
theorem opens_of_parsable (taken : TakenIn node pxNetworkBuffer descriptor frame spare)
    (parsable : Parsable outcomes addresses frame) :
    Opens outcomes addresses frame pxNetworkBuffer node := by
  match frame, taken, parsable with
  | low :: high :: rest, taken, parsable =>
      cases reserved : (MacFcs.ofBytes low high).rfu1 with
      | true => exact opens_reserved taken reserved
      | false =>
          rcases parsable with set | other | ⟨data, enough, mine⟩
          · rw [reserved] at set
            cases set
          · exact opens_other taken reserved other
          · have long : (MacFcs.ofBytes low high).destAddrType.addresseeEnd ≤
                (low :: high :: rest ++ spare).length := by
              rw [List.length_append]
              exact Nat.le_add_right_of_le enough
            obtain ⟨found, run, here, elsewhere⟩ := @run_readAddressee_found addresses _ node _ long
            rw [addressedToMe_append enough] at here elsewhere
            cases whose : addressedToMe addresses (low :: high :: rest)
                (MacFcs.ofBytes low high).destAddrType with
            | false => exact opens_elsewhere taken reserved data run (elsewhere whose)
            | true =>
                rw [here whose] at run
                obtain ⟨reaches, granted⟩ := mine whose
                have inside := (sduLength_inside_iff (sduPosition_le _) taken.length).mpr reaches
                have known := known_of_addressedToMe whose
                rw [opens_mine_iff taken reserved data run
                  (by rw [List.length_append]; exact Nat.le_add_right_of_le inside)]
                intro memory normal
                obtain ⟨allowed, narrow⟩ := granted memory normal
                exact ⟨(headerLength_eq_iff known _ _).mpr allowed,
                  (sduLength_exact_iff (sduPosition_le _) reaches taken.length).mpr narrow⟩

/-- A packet without the two bytes of the frame control. -/
theorem not_opens_short (taken : TakenIn node pxNetworkBuffer descriptor frame [])
    (short : frame.length < 2) : ¬ Opens outcomes addresses frame pxNetworkBuffer node := by
  have block := taken.block
  rw [List.append_nil] at block
  have faults : ∃ fault, (openIeee802154Packet outcomes addresses pxNetworkBuffer).run node =
      .error fault node := by
    match frame, short with
    | [], _ => exact ⟨.outOfBounds, by
        simp [openIeee802154Packet, run_readBuffer taken.stored, block, readByte]⟩
    | [byte], _ => exact ⟨.outOfBounds, by
        simp [openIeee802154Packet, run_readBuffer taken.stored, block, readByte]⟩
  obtain ⟨fault, run⟩ := faults
  exact not_opens_of_error run

/-- A packet that ends with its block is parsed only if it can be. -/
theorem parsable_of_opens (taken : TakenIn node pxNetworkBuffer descriptor frame [])
    (opens : Opens outcomes addresses frame pxNetworkBuffer node) :
    Parsable outcomes addresses frame := by
  match frame, taken, opens with
  | [], taken, opens => exact absurd opens (not_opens_short taken Nat.zero_lt_two)
  | [byte], taken, opens => exact absurd opens (not_opens_short taken Nat.one_lt_two)
  | low :: high :: rest, taken, opens =>
      cases reserved : (MacFcs.ofBytes low high).rfu1 with
      | true => exact .inl reserved
      | false =>
          refine .inr ?_
          cases control : (MacFcs.ofBytes low high).frameType with
          | ack => exact absurd opens (not_opens_ack taken reserved control)
          | other => exact .inl rfl
          | data =>
              refine .inr ⟨rfl, ?_⟩
              have whole : (low :: high :: rest ++ []) = low :: high :: rest := List.append_nil _
              by_cases enough : (MacFcs.ofBytes low high).destAddrType.addresseeEnd ≤
                  (low :: high :: rest).length
              · refine ⟨enough, fun mine => ?_⟩
                obtain ⟨found, run, here, -⟩ := @run_readAddressee_found addresses _ node _ enough
                rw [here mine, ← whole] at run
                have known := known_of_addressedToMe mine
                have few := sduPosition_le (MacFcs.ofBytes low high).destAddrType
                by_cases reaches : (MacFcs.ofBytes low high).destAddrType.sduPosition ≤
                    (low :: high :: rest).length
                · have inside := (sduLength_inside_iff few taken.length).mpr reaches
                  refine ⟨reaches, fun memory normal => ?_⟩
                  obtain ⟨header, ends⟩ := (opens_mine_iff taken reserved control run
                    (whole.symm ▸ inside)).mp opens memory normal
                  exact ⟨(headerLength_eq_iff known _ _).mp header,
                    (sduLength_exact_iff few reaches taken.length).mp ends⟩
                · have beyond := mt (sduLength_inside_iff few taken.length).mp reaches
                  refine absurd opens (not_opens_outside taken reserved control run ?_
                    (whole.symm ▸ beyond))
                  rw [sduLength_toNat few taken.length]
                  omega
              · obtain ⟨fault, run⟩ := @run_readAddressee_short addresses _ node _ enough
                rw [← whole] at run
                exact absurd opens (not_opens_addressee taken reserved control run)

/-- A frame that is properly parsed wherever it is taken in can be parsed. -/
theorem parsable_of_parses {frame : Block}
    (parses : ParsesProperly outcomes addresses frame.val) :
    Parsable outcomes addresses frame.val := by
  obtain ⟨_, _, _, taken⟩ := exists_takenIn frame
  exact parsable_of_opens taken (parses _ _ _ _ taken)

/-- For every received frame, and whatever the receiver has and its addresses are. -/
theorem ieee802154_parse_iff (outcomes : Ieee802154RxOutcomes) (addresses : RadioAddresses)
    (frame : Block) :
    ParsesProperly outcomes addresses frame.val ↔ Parsable outcomes addresses frame.val :=
  ⟨parsable_of_parses, fun parsable _ _ _ _ taken => opens_of_parsable taken parsable⟩

/-- A frame of the shim's own kind, cut off before the source address. -/
def truncatedFrame : Block := ⟨ieee802154Header.take 7, by decide⟩

/-- The length of its SDU wraps around, and that many bytes are read. -/
theorem truncated_frame_read :
    ¬ ParsesProperly ⟨true, true, true, true⟩ ⟨2, Vector.replicate 8 0⟩ truncatedFrame.val := by
  intro parses
  have control : MacFcs.ofBytes 0x41 0x88 = ⟨.data, false, .short⟩ := by decide
  have parsable : Parsable _ _ (0x41 :: 0x88 :: _) := parsable_of_parses parses
  simp only [Parsable, control] at parsable
  rcases parsable with reserved | other | ⟨-, -, mine⟩
  · cases reserved
  · cases other
  · exact absurd (mine (by decide)).1 (by decide)

end Frames

end RinaSense
