import RinaSense.Shim.EthernetRoundTrip
import RinaSense.Shim.GpaPadding

/-!
# ARP frames

The bytes of ARP packets behind the Ethernet header: what `eARPProcessPacket` reads of them, and
what `prvARPGeneratePacket` makes of padded addresses. Both protocol addresses of a packet have
the length one byte of its header announces.
-/

namespace RinaSense

open Command

/-! ## Headers -/

/-- `ARPHeader_t`. The operation is kept as it is in memory. -/
structure ArpHeader where
  usHType : UInt16
  usPType : UInt16
  ucHaLength : UInt8
  ucPaLength : UInt8
  usOperation : UInt16
  deriving Repr, DecidableEq

/-- A field of two bytes, the more significant one first. -/
def fieldOf (high low : UInt8) : UInt16 := high.toUInt16 <<< 8 ||| low.toUInt16

def bytesOf (field : UInt16) : List UInt8 := [(field >>> 8).toUInt8, field.toUInt8]

namespace ArpHeader

def toBytes (header : ArpHeader) : List UInt8 :=
  bytesOf header.usHType ++ bytesOf header.usPType ++ [header.ucHaLength, header.ucPaLength] ++
    (bytesOf header.usOperation).reverse

/-- The header behind the Ethernet header of a frame, if it is there. -/
def ofFrame (frame : List UInt8) : Option ArpHeader :=
  match frame.drop 14 with
  | hTypeHigh :: hTypeLow :: pTypeHigh :: pTypeLow :: ucHaLength :: ucPaLength ::
      operationLow :: operationHigh :: _ =>
      some
        { usHType := fieldOf hTypeHigh hTypeLow
          usPType := fieldOf pTypeHigh pTypeLow
          ucHaLength
          ucPaLength
          usOperation := fieldOf operationHigh operationLow }
  | _ => none

/-- The header is not refused before the addresses are looked at. -/
def accepted (header : ArpHeader) : Bool :=
  header.usHType == arpHardwareTypeEthernet && header.ucHaLength == 6 &&
    (header.usOperation == arpReply || header.usOperation == arpRequest)

end ArpHeader

/-! ## Reading -/

/-- `MACAddress_t` at the start of some bytes. -/
def MacAddress.ofBytes (bytes : List UInt8) : MacAddress where
  ucBytes := Vector.ofFn fun position : Fin 6 => bytes.getD position 0

/-- The bytes of a frame from a position on. -/
def readField (frame : List UInt8) (position length : Nat) : Except Fault (List UInt8) :=
  if position + length ≤ frame.length then .ok ((frame.drop position).take length)
  else .error .outOfBounds

/-- What `eARPProcessPacket` reads of a frame: nothing behind a header it refuses, else all four
addresses, wherever the frame ends. -/
def readArpPacket (frame : List UInt8) : Except Fault (Option ArpPacket) :=
  match ArpHeader.ofFrame frame with
  | none => .error .outOfBounds
  | some header =>
      if !header.accepted then .ok none
      else do
        let ucPlen := header.ucPaLength.toNat
        let ucSha ← readField frame 22 6
        let ucSpa ← readField frame 28 ucPlen
        let ucTha ← readField frame (28 + ucPlen) 6
        let ucTpa ← readField frame (34 + ucPlen) ucPlen
        return some
          { usHType := header.usHType
            ucHaLength := header.ucHaLength
            usOperation := header.usOperation
            sha := .ofBytes ucSha
            spa := ucSpa
            tha := .ofBytes ucTha
            tpa := ucTpa }

/-- The frame with another operation. -/
def withOperation (frame : List UInt8) (usOperation : UInt16) : List UInt8 :=
  frame.take 20 ++ (bytesOf usOperation).reverse ++ frame.drop 22

/-- `eARPProcessPacket` on the bytes of a frame, which a request that is answered changes. -/
def eArpProcessFrame (emptyBlock : Bool) (frame : List UInt8) :
    Arp (FrameProcessingResult × List UInt8) := do
  match ← readArpPacket frame with
  | none => return (.releaseBuffer, frame)
  | some packet =>
      let eReturn ← eArpProcessPacket emptyBlock packet
      if eReturn = .returnEthernetFrame then return (eReturn, withOperation frame arpReply)
      else return (eReturn, frame)

/-! ## Fields -/

theorem fieldOf_bytesOf (field : UInt16) : fieldOf (field >>> 8).toUInt8 field.toUInt8 = field := by
  apply UInt16.toBitVec_inj.mp
  apply BitVec.eq_of_getLsbD_eq
  intro position inside
  simp only [fieldOf, UInt16.toBitVec_or, UInt16.toBitVec_shiftLeft, UInt8.toBitVec_toUInt16,
    UInt16.toBitVec_toUInt8, UInt16.toBitVec_shiftRight]
  by_cases low : position < 8
  · simp [low]
    omega
  · have upper : 8 + (position - 8) = position := by omega
    have few : position - 8 < 8 := by omega
    simp [low, inside, few, upper]

theorem high_fieldOf (high low : UInt8) : (fieldOf high low >>> 8).toUInt8 = high := by
  apply UInt8.toBitVec_inj.mp
  apply BitVec.eq_of_getLsbD_eq
  intro position inside
  simp only [fieldOf, UInt16.toBitVec_or, UInt16.toBitVec_shiftLeft, UInt8.toBitVec_toUInt16,
    UInt16.toBitVec_toUInt8, UInt16.toBitVec_shiftRight]
  have upper : ¬ 8 + position < 8 := by omega
  have few : 8 + position < 16 := by omega
  have fewer : position < 16 := by omega
  simp [inside, upper, few, fewer]

theorem low_fieldOf (high low : UInt8) : (fieldOf high low).toUInt8 = low := by
  apply UInt8.toBitVec_inj.mp
  apply BitVec.eq_of_getLsbD_eq
  intro position inside
  simp only [fieldOf, UInt16.toBitVec_or, UInt16.toBitVec_shiftLeft, UInt8.toBitVec_toUInt16,
    UInt16.toBitVec_toUInt8]
  simp [inside]

@[simp] theorem ArpHeader.toBytes_length (header : ArpHeader) : header.toBytes.length = 8 := rfl

/-- A header is read as it was written. -/
theorem ArpHeader.ofFrame_append {ethernet : List UInt8} (whole : ethernet.length = 14)
    (header : ArpHeader) (rest : List UInt8) :
    ofFrame (ethernet ++ (header.toBytes ++ rest)) = some header := by
  rw [ofFrame, List.drop_left' whole]
  simp only [toBytes, bytesOf, List.cons_append, List.nil_append, List.reverse_cons,
    List.reverse_nil, fieldOf_bytesOf]

/-- A header that is there lies behind the Ethernet header. -/
theorem ArpHeader.exists_of_ofFrame {frame : List UInt8} {header : ArpHeader}
    (found : ofFrame frame = some header) :
    ∃ ethernet rest, ethernet.length = 14 ∧ frame = ethernet ++ (header.toBytes ++ rest) := by
  rw [ofFrame] at found
  split at found
  · next rest bytes =>
      cases found
      have long : 14 ≤ frame.length := by
        by_contra short
        rw [List.drop_eq_nil_of_le (by omega)] at bytes
        cases bytes
      refine ⟨frame.take 14, rest, List.length_take_of_le long, ?_⟩
      rw [toBytes]
      simp only [bytesOf, high_fieldOf, low_fieldOf]
      exact ((List.take_append_drop 14 frame).symm.trans (congrArg _ bytes))
  · cases found

/-- Only the operation of the header is another one. -/
theorem withOperation_append {ethernet : List UInt8} (whole : ethernet.length = 14)
    (header : ArpHeader) (rest : List UInt8) (usOperation : UInt16) :
    withOperation (ethernet ++ (header.toBytes ++ rest)) usOperation =
      ethernet ++ ({ header with usOperation }.toBytes ++ rest) := by
  rw [withOperation, List.take_append, List.drop_append, List.take_of_length_le (by omega),
    List.drop_eq_nil_of_le (by omega), whole]
  simp only [ArpHeader.toBytes, bytesOf, List.cons_append, List.nil_append, List.reverse_cons,
    List.reverse_nil, List.append_assoc]
  rfl

@[simp] theorem MacAddress.ofBytes_toBytes (address : MacAddress) :
    MacAddress.ofBytes address.toBytes = address := by
  obtain ⟨bytes⟩ := address
  rw [ofBytes, toBytes]
  congr 1
  apply Vector.ext
  intro position inside
  simp

theorem readField_ok {frame : List UInt8} {position length : Nat}
    (inside : position + length ≤ frame.length) :
    readField frame position length = .ok ((frame.drop position).take length) := if_pos inside

theorem readField_outside {frame : List UInt8} {position length : Nat}
    (outside : ¬ position + length ≤ frame.length) :
    readField frame position length = .error .outOfBounds := if_neg outside

theorem readField_cases (frame : List UInt8) (position length : Nat) :
    readField frame position length = .error .outOfBounds ∨
      ∃ bytes, readField frame position length = .ok bytes := by
  by_cases inside : position + length ≤ frame.length
  · exact .inr ⟨_, readField_ok inside⟩
  · exact .inl (readField_outside inside)

/-- The packet behind a header that is not refused. -/
def ArpHeader.packet (header : ArpHeader) (addresses : List UInt8) : ArpPacket :=
  let ucPlen := header.ucPaLength.toNat
  { usHType := header.usHType
    ucHaLength := header.ucHaLength
    usOperation := header.usOperation
    sha := .ofBytes (addresses.take 6)
    spa := (addresses.drop 6).take ucPlen
    tha := .ofBytes ((addresses.drop (6 + ucPlen)).take 6)
    tpa := (addresses.drop (12 + ucPlen)).take ucPlen }

/-- Four addresses one after another, the protocol addresses as long as the header says. -/
theorem ArpHeader.packet_append (header : ArpHeader) (sha tha : MacAddress) {spa tpa : List UInt8}
    (spaLength : spa.length = header.ucPaLength.toNat)
    (tpaLength : tpa.length = header.ucPaLength.toNat) :
    header.packet (sha.toBytes ++ (spa ++ (tha.toBytes ++ tpa))) =
      { usHType := header.usHType
        ucHaLength := header.ucHaLength
        usOperation := header.usOperation
        sha, spa, tha, tpa } := by
  have first : (sha.toBytes ++ (spa ++ (tha.toBytes ++ tpa))).drop 6 =
      spa ++ (tha.toBytes ++ tpa) := List.drop_left' sha.toBytes_length
  have second : (spa ++ (tha.toBytes ++ tpa)).drop header.ucPaLength.toNat = tha.toBytes ++ tpa :=
    List.drop_left' spaLength
  have third : (tha.toBytes ++ tpa).drop 6 = tpa := List.drop_left' tha.toBytes_length
  have rest : (sha.toBytes ++ (spa ++ (tha.toBytes ++ tpa))).drop (12 + header.ucPaLength.toNat) =
      tpa := by
    rw [show 12 + header.ucPaLength.toNat = 6 + header.ucPaLength.toNat + 6 by omega,
      ← List.drop_drop, ← List.drop_drop, first, second, third]
  simp only [packet, rest]
  rw [← List.drop_drop, first, second, List.take_left' sha.toBytes_length,
    List.take_left' spaLength, List.take_left' tha.toBytes_length, ← tpaLength, List.take_length,
    MacAddress.ofBytes_toBytes, MacAddress.ofBytes_toBytes]

section Reading

variable {frame : List UInt8} {header : ArpHeader} (found : ArpHeader.ofFrame frame = some header)
include found

theorem readArpPacket_refused (refused : header.accepted = false) :
    readArpPacket frame = .ok none := by
  simp only [readArpPacket, found, refused, Bool.not_false, if_true]

variable (accepted : header.accepted = true)
include accepted

theorem readArpPacket_ok (inside : 34 + 2 * header.ucPaLength.toNat ≤ frame.length) :
    readArpPacket frame = .ok (some (header.packet (frame.drop 22))) := by
  simp only [readArpPacket, found, accepted, Bool.not_true, Bool.false_eq_true, if_false]
  rw [readField_ok (by omega), readField_ok (by omega), readField_ok (by omega),
    readField_ok (by omega)]
  simp only [ok_bind, ArpHeader.packet, List.drop_drop, Nat.reduceAdd, ← Nat.add_assoc]
  rfl

theorem readArpPacket_outside (outside : ¬ 34 + 2 * header.ucPaLength.toNat ≤ frame.length) :
    readArpPacket frame = .error .outOfBounds := by
  simp only [readArpPacket, found, accepted, Bool.not_true, Bool.false_eq_true, if_false]
  rw [readField_outside (show ¬ 34 + header.ucPaLength.toNat + _ ≤ _ by omega)]
  rcases readField_cases frame 22 6 with first | ⟨ucSha, first⟩
  · rw [first]
    rfl
  · rcases readField_cases frame 28 header.ucPaLength.toNat with second | ⟨ucSpa, second⟩
    · rw [first, second]
      rfl
    · rcases readField_cases frame (28 + header.ucPaLength.toNat) 6 with third | ⟨ucTha, third⟩
      · rw [first, second, third]
        rfl
      · rw [first, second, third]
        rfl

end Reading

/-- A packet that is read stands behind a header that was not refused. -/
theorem exists_of_readArpPacket {frame : List UInt8} {packet : ArpPacket}
    (read : readArpPacket frame = .ok (some packet)) :
    ∃ header, ArpHeader.ofFrame frame = some header ∧ header.accepted = true ∧
      34 + 2 * header.ucPaLength.toNat ≤ frame.length ∧ packet = header.packet (frame.drop 22) := by
  cases found : ArpHeader.ofFrame frame with
  | none =>
      rw [readArpPacket, found] at read
      cases read
  | some header =>
      cases accepted : header.accepted with
      | false =>
          rw [readArpPacket_refused found accepted] at read
          cases read
      | true =>
          by_cases inside : 34 + 2 * header.ucPaLength.toNat ≤ frame.length
          · rw [readArpPacket_ok found accepted inside] at read
            exact ⟨header, rfl, accepted, inside, (Option.some.inj (Except.ok.inj read)).symm⟩
          · rw [readArpPacket_outside found accepted inside] at read
            cases read

/-- Only packets between Ethernet addresses are read. -/
theorem hardware_of_read {frame : List UInt8} {packet : ArpPacket}
    (read : readArpPacket frame = .ok (some packet)) :
    packet.usHType = arpHardwareTypeEthernet ∧ packet.ucHaLength = 6 := by
  obtain ⟨header, -, accepted, -, rfl⟩ := exists_of_readArpPacket read
  simp only [ArpHeader.accepted, Bool.and_eq_true, beq_iff_eq] at accepted
  exact accepted.1

/-- A request turned into a reply is read as the same packet with the other operation. -/
theorem readArpPacket_withOperation {frame : List UInt8} {packet : ArpPacket}
    (read : readArpPacket frame = .ok (some packet)) :
    readArpPacket (withOperation frame arpReply) =
      .ok (some { packet with usOperation := arpReply }) := by
  obtain ⟨header, found, accepted, inside, rfl⟩ := exists_of_readArpPacket read
  obtain ⟨ethernet, rest, whole, rfl⟩ := ArpHeader.exists_of_ofFrame found
  have replied := ArpHeader.ofFrame_append whole { header with usOperation := arpReply } rest
  have acceptedReply : ArpHeader.accepted { header with usOperation := arpReply } = true := by
    simp only [ArpHeader.accepted, Bool.and_eq_true] at accepted ⊢
    exact ⟨accepted.1, rfl⟩
  rw [withOperation_append whole, readArpPacket_ok replied acceptedReply]
  · have same : ∀ header : ArpHeader, (ethernet ++ (header.toBytes ++ rest)).drop 22 = rest := by
      intro header
      rw [← List.append_assoc]
      exact List.drop_left' (by rw [List.length_append, whole, header.toBytes_length])
    rw [same, same]
    rfl
  · simpa only [List.length_append, ArpHeader.toBytes_length] using inside

/-! ## Addresses -/

/-- An address without what fills its field up. -/
def unpadded (bytes : List UInt8) : List UInt8 := bytes.takeWhile (· != 0)

section Addresses

variable {emptyBlock : Bool} {bytes : List UInt8}

/-- What is made of the bytes of a field. -/
theorem eq_of_parsed {gpa : Gpa}
    (parsed : xArpAddressGpaShrink emptyBlock (pxCreateGpa bytes) = some gpa) :
    gpa = ⟨some (unpadded bytes)⟩ := by
  rw [pxCreateGpa] at parsed
  split at parsed
  · cases parsed
  · simp only [xArpAddressGpaShrink, Option.getD_some] at parsed
    split at parsed
    · cases parsed
    · split at parsed
      · next whole =>
          cases parsed
          rw [unpadded, (List.takeWhile_sublist _).eq_of_length whole]
      · split at parsed
        · cases parsed
        · cases parsed
          rfl

theorem unpadded_of_parsed {contents : List UInt8}
    (parsed : xArpAddressGpaShrink emptyBlock (pxCreateGpa bytes) = some ⟨some contents⟩) :
    unpadded bytes = contents :=
  Option.some.inj (congrArg Gpa.pucAddress (eq_of_parsed parsed)).symm

/-- An address that does not begin with zero is there. -/
theorem parsed_of_unpadded (present : unpadded bytes ≠ []) :
    xArpAddressGpaShrink emptyBlock (pxCreateGpa bytes) = some ⟨some (unpadded bytes)⟩ := by
  have filled : bytes ≠ [] := by
    rintro rfl
    exact present rfl
  have ok : xIsGpaOk (some ⟨some bytes⟩) = true := Gpa.ok_iff.mpr ⟨rfl, filled⟩
  cases parsed : xArpAddressGpaShrink emptyBlock (pxCreateGpa bytes) with
  | some gpa => rw [eq_of_parsed parsed]
  | none =>
      simp only [pxCreateGpa, if_neg filled, xArpAddressGpaShrink, ok, Bool.not_true,
        Bool.false_eq_true, if_false, Option.getD_some] at parsed
      split at parsed
      · cases parsed
      · split at parsed
        · next nothing =>
            rw [Bool.and_eq_true, decide_eq_true_eq] at nothing
            exact absurd nothing.1 present
        · cases parsed

end Addresses

/-! ## Generating -/

/-- The bytes of a packet. Only the low byte of the length of the sender's address gets into the
header. -/
def arpPacketBytes (pxSha : Gha) (pxSpa pxTpa : Gpa) (usPtype : UInt16) : List UInt8 :=
  let xEthernetHeader : EthernetHeader :=
    { xDestinationAddress := ghaUnknown.xAddress
      xSourceAddress := pxSha.xAddress
      usFrameType := ethPRinaArp }
  let xArpHeader : ArpHeader :=
    { usHType := arpHardwareTypeEthernet
      usPType := ethPRina
      ucHaLength := 6
      ucPaLength := UInt8.ofNat pxSpa.uxLength
      usOperation := usPtype }
  xEthernetHeader.toBytes ++ xArpHeader.toBytes ++ pxSha.xAddress.toBytes ++ pxSpa.contents ++
    ghaUnknown.xAddress.toBytes ++ pxTpa.contents

/-- The packet in a buffer of its size, to the unknown hardware address, which is used whether
there is memory for it or not. -/
def prvArpGeneratePacket (ghaMemory : Bool) (pxSha : Gha) (pxSpa pxTpa : Gpa) (usPtype : UInt16) :
    Except Fault (List UInt8) :=
  match pxArpCreateGhaUnknown ghaMemory with
  | none => .error .nullPointer
  | some _ => .ok (arpPacketBytes pxSha pxSpa pxTpa usPtype)

/-! ## Reading what was generated -/

/-- What is read back of a request. -/
def Recovers (emptyBlock : Bool) (frame : List UInt8) (sha : Gha) (spa tpa : Gpa) : Prop :=
  ∃ packet, readArpPacket frame = .ok (some packet) ∧ packet.usOperation = arpRequest ∧
    packet.sha = sha.xAddress ∧ packet.tha = ghaUnknown.xAddress ∧
    xArpAddressGpaShrink emptyBlock (pxCreateGpa packet.spa) = some spa ∧
    xArpAddressGpaShrink emptyBlock (pxCreateGpa packet.tpa) = some tpa

section Generated

variable {emptyBlock : Bool} {sha : Gha} {spa tpa : Gpa} {length : Nat}

/-- The header of a request with addresses of a length. -/
def requestHeader (length : Nat) : ArpHeader where
  usHType := arpHardwareTypeEthernet
  usPType := ethPRina
  ucHaLength := 6
  ucPaLength := UInt8.ofNat length
  usOperation := arpRequest

theorem ofFrame_generated (sha : Gha) (spa tpa : Gpa) :
    ArpHeader.ofFrame (arpPacketBytes sha spa tpa arpRequest) =
      some (requestHeader spa.uxLength) := by
  simp only [arpPacketBytes, List.append_assoc]
  exact ArpHeader.ofFrame_append (EthernetHeader.toBytes_length _) _ _

/-- The addresses behind the header. -/
theorem drop_generated (sha : Gha) (spa tpa : Gpa) :
    (arpPacketBytes sha spa tpa arpRequest).drop 22 =
      sha.xAddress.toBytes ++
        (spa.contents ++ (ghaUnknown.xAddress.toBytes ++ tpa.contents)) := by
  simp only [arpPacketBytes, List.append_assoc]
  rw [← List.append_assoc]
  apply List.drop_left'
  rw [List.length_append, EthernetHeader.toBytes_length, ArpHeader.toBytes_length]

theorem generated_length (sha : Gha) (spa tpa : Gpa) :
    (arpPacketBytes sha spa tpa arpRequest).length =
      34 + spa.contents.length + tpa.contents.length := by
  simp only [arpPacketBytes, List.length_append, EthernetHeader.toBytes_length,
    ArpHeader.toBytes_length, MacAddress.toBytes_length]
  omega

theorem padded_length (le : spa.contents.length ≤ length) :
    (spa.padded length 0).contents.length = length := by
  rw [Gpa.contents_padded, List.length_append, List.length_replicate]
  omega

/-- What is read of a request with padded addresses. -/
theorem readArpPacket_generated (leSpa : spa.contents.length ≤ length)
    (leTpa : tpa.contents.length ≤ length) :
    readArpPacket
        (arpPacketBytes sha (spa.padded length 0) (tpa.padded length 0) arpRequest) =
      .ok (some ((requestHeader length).packet (sha.xAddress.toBytes ++
        ((spa.padded length 0).contents ++
          (ghaUnknown.xAddress.toBytes ++ (tpa.padded length 0).contents))))) := by
  have found := ofFrame_generated sha (spa.padded length 0) (tpa.padded length 0)
  rw [Gpa.uxLength_eq, padded_length leSpa] at found
  have few : (requestHeader length).ucPaLength.toNat ≤ length := by
    rw [requestHeader, UInt8.toNat_ofNat']
    exact Nat.mod_le length _
  rw [readArpPacket_ok found rfl, drop_generated]
  rw [generated_length, padded_length leSpa, padded_length leTpa]
  omega

/-- A padded address is parsed as what it was. -/
theorem parsed_padded (ok : xIsGpaOk (some spa) = true) (absent : 0 ∉ spa.contents) :
    xArpAddressGpaShrink emptyBlock (pxCreateGpa (spa.padded length 0).contents) = some spa := by
  have okPadded := Gpa.padded_ok ok length 0
  have created : pxCreateGpa (spa.padded length 0).contents = some (spa.padded length 0) :=
    if_neg (Gpa.ok_iff.mp okPadded).2
  rw [created, Gpa.xArpAddressGpaShrink_eq, Gpa.shrink_padded ok absent]
  rfl

theorem recovers_of_short (okSpa : xIsGpaOk (some spa) = true) (okTpa : xIsGpaOk (some tpa) = true)
    (absentSpa : 0 ∉ spa.contents) (absentTpa : 0 ∉ tpa.contents)
    (leSpa : spa.contents.length ≤ length) (leTpa : tpa.contents.length ≤ length)
    (short : length ≤ 255) :
    Recovers emptyBlock
      (arpPacketBytes sha (spa.padded length 0) (tpa.padded length 0) arpRequest)
      sha spa tpa := by
  have whole : (requestHeader length).ucPaLength.toNat = length :=
    UInt8.toNat_ofNat_of_lt' (by change length < 256; omega)
  have read := @readArpPacket_generated sha spa tpa length leSpa leTpa
  rw [ArpHeader.packet_append _ _ _ ((padded_length leSpa).trans whole.symm)
    ((padded_length leTpa).trans whole.symm)] at read
  exact ⟨_, read, rfl, rfl, rfl, parsed_padded okSpa absentSpa, parsed_padded okTpa absentTpa⟩

theorem not_recovers_of_long (leSpa : spa.contents.length ≤ length)
    (leTpa : tpa.contents.length ≤ length) (long : 255 < length) :
    ¬ Recovers emptyBlock
      (arpPacketBytes sha (spa.padded length 0) (tpa.padded length 0) arpRequest)
      sha spa tpa := by
  rintro ⟨packet, read, -, -, tha, parsed, -⟩
  rw [readArpPacket_generated leSpa leTpa] at read
  cases read
  have wraps : (requestHeader length).ucPaLength.toNat = length % 256 := UInt8.toNat_ofNat'
  -- The sender's address ends before the field does, and zeros stand where the next one is read.
  have fits : spa.contents.length ≤ (requestHeader length).ucPaLength.toNat := by
    rw [eq_of_parsed parsed]
    exact (List.takeWhile_sublist _).length_le.trans (List.length_take_le _ _)
  obtain ⟨more, zeros⟩ : ∃ more,
      length - (requestHeader length).ucPaLength.toNat = 6 + more :=
    Nat.exists_eq_add_of_le (by omega)
  have read : (sha.xAddress.toBytes ++ ((spa.padded length 0).contents ++
      (ghaUnknown.xAddress.toBytes ++ (tpa.padded length 0).contents))).drop
        (6 + (requestHeader length).ucPaLength.toNat) =
      List.replicate 6 0 ++ (List.replicate more 0 ++
        (ghaUnknown.xAddress.toBytes ++ (tpa.padded length 0).contents)) := by
    rw [← List.drop_drop, List.drop_left' sha.xAddress.toBytes_length,
      List.drop_append_of_le_length (by rw [padded_length leSpa]; omega), Gpa.contents_padded,
      List.drop_append, List.drop_eq_nil_of_le fits, List.nil_append, List.drop_replicate,
      show length - spa.contents.length - ((requestHeader length).ucPaLength.toNat -
        spa.contents.length) = 6 + more by omega, List.replicate_add, List.append_assoc]
  simp only [ArpHeader.packet, read] at tha
  rw [List.take_left' (List.length_replicate)] at tha
  exact absurd tha (by decide)

/-- A packet with padded addresses is read back exactly up to the length one byte can hold. -/
theorem recovers_iff (okSpa : xIsGpaOk (some spa) = true) (okTpa : xIsGpaOk (some tpa) = true)
    (absentSpa : 0 ∉ spa.contents) (absentTpa : 0 ∉ tpa.contents) :
    Recovers emptyBlock
        (arpPacketBytes sha (spa.padded (max spa.uxLength tpa.uxLength) 0)
          (tpa.padded (max spa.uxLength tpa.uxLength) 0) arpRequest) sha spa tpa ↔
      max spa.uxLength tpa.uxLength ≤ 255 := by
  constructor
  · intro recovers
    by_contra long
    exact not_recovers_of_long (Nat.le_max_left _ _) (Nat.le_max_right _ _)
      (Nat.lt_of_not_le long) recovers
  · exact recovers_of_short okSpa okTpa absentSpa absentTpa (Nat.le_max_left _ _)
      (Nat.le_max_right _ _)

end Generated

end RinaSense
