import RinaSense.Ipcp.State

/-!
# Network buffers

Obtaining and releasing descriptors as in `BufferManagement.c`. Whether the pools
and the semaphore yield a descriptor in time is an outcome the caller passes in.
-/

namespace RinaSense

/-- `baMINIMAL_BUFFER_SIZE`, the size of an ARP packet. -/
def baMinimalBufferSize : SizeT := 22

/-- The size of the block obtained for a request: at least the minimum, two more
bytes, rounded up to a multiple of `sizeof(size_t)`. -/
def storageSize (xRequestedSizeBytes : SizeT) : SizeT :=
  let size :=
    if xRequestedSizeBytes < baMinimalBufferSize then baMinimalBufferSize
    else xRequestedSizeBytes
  let size := size + 2
  if size &&& 3 ≠ 0 then (size ||| 3) + 1 else size

/-- A descriptor as the pool hands it out: all pointers and lengths cleared. A
request for no bytes yields a descriptor without a block. -/
def freshDescriptor (xRequestedSizeBytes : SizeT) : NetworkBufferDescriptor where
  pucEthernetBuffer :=
    if 0 < xRequestedSizeBytes then
      some (List.replicate (storageSize xRequestedSizeBytes).toNat 0)
    else none
  pucRinaBuffer := none
  pucDataBuffer := none
  xEthernetDataLength := 0
  xRinaDataLength := 0
  xDataLength := if 0 < xRequestedSizeBytes then storageSize xRequestedSizeBytes else 0
  ulBoundPort := 0

/-- No request whose block would wrap around with the header of the pool returns a descriptor
(`BufferMemory.get_obtained`), so for these `obtained` is `false`. -/
def pxGetNetworkBufferWithDescriptor (obtained : Bool) (xRequestedSizeBytes : SizeT) :
    Rina (Option BufferId) := do
  if obtained then
    let node ← get
    let (buffers, buffer) := node.buffers.allocate (freshDescriptor xRequestedSizeBytes)
    set { node with buffers }
    return some buffer
  else return none

/-- Releasing a descriptor twice makes the pool abort. -/
def vReleaseNetworkBufferAndDescriptor (pxNetworkBuffer : BufferId) : Rina Unit := do
  let node ← get
  match node.buffers.get? pxNetworkBuffer with
  | some _ => set { node with buffers := node.buffers.free pxNetworkBuffer }
  | none => throw .released

/-! ## Copies -/

/-- The bytes a `memcpy` reads. -/
def copyFrom (block : Option (List UInt8)) (offset length : Nat) : Rina (List UInt8) := do
  if length = 0 then return []
  let block ← follow block
  if offset + length ≤ block.length then return (block.drop offset).take length
  else throw .outOfBounds

/-- The block after a `memcpy` into it. -/
def copyInto (block : List UInt8) (offset : Nat) (bytes : List UInt8) : Rina (List UInt8) :=
  if offset + bytes.length ≤ block.length then
    return block.take offset ++ bytes ++ block.drop (offset + bytes.length)
  else throw .outOfBounds

/-- The block after copying bytes to its start. Copying no bytes does not follow
the pointer. -/
def copyBytes (block : Option (List UInt8)) (bytes : List UInt8) :
    Rina (Option (List UInt8)) := do
  if bytes.isEmpty then return block
  return some (← copyInto (← follow block) 0 bytes)

/-! ## Runs -/

section Runs

variable {node : Node}

@[simp] theorem run_getNetworkBuffer_true (size : SizeT) :
    (pxGetNetworkBufferWithDescriptor true size).run node =
      .ok (some node.buffers.next)
        { node with buffers := (node.buffers.allocate (freshDescriptor size)).1 } := rfl

@[simp] theorem run_getNetworkBuffer_false (size : SizeT) :
    (pxGetNetworkBufferWithDescriptor false size).run node = .ok none node := rfl

theorem run_release {buffer : BufferId} {descriptor : NetworkBufferDescriptor}
    (found : node.buffers.get? buffer = some descriptor) :
    (vReleaseNetworkBufferAndDescriptor buffer).run node =
      .ok () { node with buffers := node.buffers.free buffer } := by
  simp [vReleaseNetworkBufferAndDescriptor, found]

theorem run_release_absent {buffer : BufferId} (absent : node.buffers.get? buffer = none) :
    (vReleaseNetworkBufferAndDescriptor buffer).run node = .error .released node := by
  simp [vReleaseNetworkBufferAndDescriptor, absent]

/-- A copy inside its source block returns the bytes there. -/
theorem run_copyFrom {block : List UInt8} {offset length : Nat}
    (inside : offset + length ≤ block.length) :
    (copyFrom (some block) offset length).run node =
      .ok ((block.drop offset).take length) node := by
  by_cases none : length = 0
  · simp [copyFrom, none]
  · simp [copyFrom, none, inside]

/-- A copy that reads behind its source block. -/
theorem run_copyFrom_outside {block : List UInt8} {offset length : Nat}
    (positive : length ≠ 0) (outside : ¬ offset + length ≤ block.length) :
    (copyFrom (some block) offset length).run node = .error .outOfBounds node := by
  rw [copyFrom, if_neg positive, EStateM.run_bind, run_follow_some]
  exact congrArg (EStateM.run · node) (if_neg outside)

theorem run_copyInto {block bytes : List UInt8} {offset : Nat}
    (inside : offset + bytes.length ≤ block.length) :
    (copyInto block offset bytes).run node =
      .ok (block.take offset ++ bytes ++ block.drop (offset + bytes.length)) node := by
  simp [copyInto, inside]

/-- A copy to the start of a block. -/
theorem run_copyInto_start {block bytes : List UInt8} (inside : bytes.length ≤ block.length) :
    (copyInto block 0 bytes).run node = .ok (bytes ++ block.drop bytes.length) node := by
  rw [run_copyInto (by rwa [Nat.zero_add]), List.take_zero, List.nil_append, Nat.zero_add]

/-- A copy right behind what the block begins with. -/
theorem run_copyInto_behind {front rest bytes : List UInt8} {offset : Nat}
    (behind : front.length = offset) (inside : bytes.length ≤ rest.length) :
    (copyInto (front ++ rest) offset bytes).run node =
      .ok (front ++ bytes ++ rest.drop bytes.length) node := by
  subst behind
  rw [run_copyInto (by rw [List.length_append]; omega), List.take_left, List.drop_append,
    List.drop_of_length_le (Nat.le_add_right _ _), List.nil_append, Nat.add_sub_cancel_left]

theorem run_copyInto_outside {block bytes : List UInt8} {offset : Nat}
    (outside : ¬ offset + bytes.length ≤ block.length) :
    (copyInto block offset bytes).run node = .error .outOfBounds node := by
  simp [copyInto, outside]

end Runs

/-! ## Block sizes -/

/-- The largest request whose block size does not wrap around. -/
def maxRequest : Nat := 2 ^ 32 - 6

private theorem or_three (value : Nat) : value ||| 3 = 4 * (value / 4) + 3 := by
  have low : value % 4 ||| 3 = 3 := by
    have small : value % 4 < 4 := Nat.mod_lt _ (by decide)
    generalize value % 4 = digit at small ⊢
    match digit, small with
    | 0, _ => rfl
    | 1, _ => rfl
    | 2, _ => rfl
    | 3, _ => rfl
  calc value ||| 3
      = (2 ^ 2 * (value / 4) + value % 4) ||| 3 := by
        rw [show 2 ^ 2 * (value / 4) + value % 4 = value from Nat.div_add_mod value 4]
    _ = 2 ^ 2 * (value / 4) ||| (value % 4 ||| 3) := by
        rw [Nat.two_pow_add_eq_or_of_lt (Nat.mod_lt value (by decide)), Nat.or_assoc]
    _ = 4 * (value / 4) + 3 := by
        rw [low, ← Nat.two_pow_add_eq_or_of_lt (by decide)]

/-- Rounding a size up to a multiple of four, in 32 bits. -/
theorem roundUp_toNat (size : SizeT) :
    (if size &&& 3 ≠ 0 then (size ||| 3) + 1 else size).toNat =
      ((size.toNat + 3) / 4 * 4) % 2 ^ 32 := by
  have limit := size.toNat_lt
  have digit : (size &&& 3).toNat = size.toNat % 4 := by
    rw [UInt32.toNat_and]
    exact Nat.and_two_pow_sub_one_eq_mod size.toNat 2
  have zero : size &&& 3 = 0 ↔ size.toNat % 4 = 0 := by
    rw [← UInt32.toNat_inj, digit]
    rfl
  by_cases aligned : size.toNat % 4 = 0
  · rw [if_neg (not_not.mpr (zero.mpr aligned))]
    omega
  · rw [if_pos (fun equal => aligned (zero.mp equal)), UInt32.toNat_add, UInt32.toNat_or]
    have rounded := or_three size.toNat
    change ((size.toNat ||| 3) + 1) % 2 ^ 32 = _
    omega

/-- A request for less than the minimum is one for the minimum. -/
theorem minimum_toNat (size : SizeT) :
    (if size < baMinimalBufferSize then baMinimalBufferSize else size).toNat =
      max size.toNat 22 := by
  have least : baMinimalBufferSize.toNat = 22 := rfl
  split
  · next small =>
      rw [UInt32.lt_iff_toNat_lt, least] at small
      omega
  · next large =>
      rw [UInt32.lt_iff_toNat_lt, least] at large
      omega

theorem storageSize_toNat (size : SizeT) :
    (storageSize size).toNat =
      (((max size.toNat 22 + 2) % 2 ^ 32 + 3) / 4 * 4) % 2 ^ 32 := by
  rw [storageSize, roundUp_toNat, UInt32.toNat_add, minimum_toNat]
  rfl

/-- The block for a request of up to `maxRequest` bytes has room for all of them. -/
theorem le_storageSize {size : SizeT} (fits : size.toNat ≤ maxRequest) :
    size.toNat ≤ (storageSize size).toNat := by
  simp only [maxRequest] at fits
  rw [storageSize_toNat]
  omega

/-- A descriptor asked for some bytes has a block with room for them. -/
theorem freshDescriptor_block {size : SizeT} (positive : 0 < size.toNat)
    (fits : size.toNat ≤ maxRequest) :
    ∃ block, (freshDescriptor size).pucEthernetBuffer = some block ∧
      size.toNat ≤ block.length := by
  have requested : 0 < size := by
    rw [UInt32.lt_iff_toNat_lt]
    exact positive
  refine ⟨_, if_pos requested, ?_⟩
  rw [List.length_replicate]
  exact le_storageSize fits

/-- A copy to the start of a block returns or leaves the block. -/
theorem run_copyBytes (block : Option (List UInt8)) (bytes : List UInt8) :
    ∃ outcome : Except Fault (Option (List UInt8)), outcome ≠ .error .released ∧
      ∀ node, (copyBytes block bytes).run node =
        match outcome with
        | .ok storage => .ok storage node
        | .error fault => .error fault node := by
  by_cases empty : bytes.isEmpty = true
  · exact ⟨.ok block, by simp, fun node => by simp [copyBytes, empty]⟩
  · cases block with
    | none => exact ⟨.error .nullPointer, by simp, fun node => by simp [copyBytes, empty]⟩
    | some storage =>
        by_cases inside : 0 + bytes.length ≤ storage.length
        · exact ⟨.ok (some _), by simp, fun node => by
            simp only [copyBytes, empty, Bool.false_eq_true, if_false, EStateM.run_bind, run_follow_some, run_copyInto inside]
            rfl⟩
        · exact ⟨.error .outOfBounds, by simp, fun node => by
            simp only [copyBytes, empty, Bool.false_eq_true, if_false, EStateM.run_bind, run_follow_some,
              run_copyInto_outside inside]⟩

/-- Bytes fit into a block that was asked for as many. -/
theorem run_copyBytes_fresh {bytes : List UInt8} (fits : bytes.length ≤ maxRequest) :
    ∃ storage, ∀ node,
      (copyBytes (freshDescriptor (UInt32.ofNat bytes.length)).pucEthernetBuffer bytes).run node =
        .ok storage node := by
  by_cases empty : bytes.isEmpty = true
  · exact ⟨_, fun node => by simp only [copyBytes, empty]; rfl⟩
  · have length : (UInt32.ofNat bytes.length).toNat = bytes.length :=
      UInt32.toNat_ofNat_of_lt (Nat.lt_of_le_of_lt fits (by decide))
    have positive : 0 < bytes.length :=
      List.length_pos_iff.mpr (fun none => empty (none ▸ rfl))
    have requested : 0 < UInt32.ofNat bytes.length := by
      rw [UInt32.lt_iff_toNat_lt, length]
      exact positive
    have block : (freshDescriptor (UInt32.ofNat bytes.length)).pucEthernetBuffer =
        some (List.replicate (storageSize (UInt32.ofNat bytes.length)).toNat 0) :=
      if_pos requested
    have inside : 0 + bytes.length ≤
        (List.replicate (storageSize (UInt32.ofNat bytes.length)).toNat (0 : UInt8)).length := by
      have room := le_storageSize (show (UInt32.ofNat bytes.length).toNat ≤ maxRequest by
        rw [length]
        exact fits)
      rw [length] at room
      rw [List.length_replicate, Nat.zero_add]
      exact room
    exact ⟨_, fun node => by
      simp only [copyBytes, empty, Bool.false_eq_true, if_false, block, EStateM.run_bind,
        run_follow_some, run_copyInto inside]
      rfl⟩

/-! ## Frames taken in -/

/-- The buffer a frame is copied into. -/
def frameDescriptor (frame : List UInt8) : NetworkBufferDescriptor :=
  let fresh := freshDescriptor (UInt32.ofNat frame.length)
  { fresh with
    pucEthernetBuffer := some (frame ++ (fresh.pucEthernetBuffer.getD []).drop frame.length)
    xEthernetDataLength := UInt32.ofNat frame.length }

/-- The length of a frame is the same in 16 and in 32 bits. -/
theorem frame_width {length : Nat} (short : length < 2 ^ 16) :
    (UInt16.ofNat length).toNat = length ∧
      (UInt16.ofNat length).toUInt32 = UInt32.ofNat length := by
  have narrow : (UInt16.ofNat length).toNat = length := UInt16.toNat_ofNat_of_lt' short
  refine ⟨narrow, UInt32.toNat_inj.mp ?_⟩
  rw [UInt16.toNat_toUInt32, narrow, UInt32.toNat_ofNat_of_lt' (short.trans (by decide))]

/-- A frame fits into the buffer asked for it. -/
theorem run_copyFrame {frame : List UInt8} (positive : 0 < frame.length)
    (short : frame.length < 2 ^ 16) (node : Node) :
    (copyBytes (freshDescriptor (UInt32.ofNat frame.length)).pucEthernetBuffer frame).run node =
      .ok (frameDescriptor frame).pucEthernetBuffer node := by
  have size : (UInt32.ofNat frame.length).toNat = frame.length :=
    UInt32.toNat_ofNat_of_lt' (short.trans (by decide))
  obtain ⟨block, storage, fits⟩ := @freshDescriptor_block (UInt32.ofNat frame.length)
    (by rwa [size]) (by rw [size, maxRequest]; omega)
  rw [size] at fits
  have bytes : frame.isEmpty = false := by
    cases frame with
    | nil => cases positive
    | cons byte bytes => rfl
  simp only [copyBytes, bytes, Bool.false_eq_true, if_false, storage, EStateM.run_bind,
    run_follow_some, run_copyInto_start fits, frameDescriptor, Option.getD_some]
  rfl

end RinaSense
