import RinaSense.Buffer.BufferContents

/-!
# Resizes of network buffers

Every descriptor in use that has a payload has one with room for its data. From that
follows what a resize does with the bytes, and which resizes do what they should.
-/

namespace RinaSense

namespace BufferMemory

/-! ## Sizes -/

theorem bufferSize_toNat (size : SizeT) :
    (NetworkBuffers.bufferSize size).toNat = (max size.toNat 22 + 3) / 4 * 4 % 2 ^ 32 := by
  rw [NetworkBuffers.bufferSize, roundUp_toNat, minimum_toNat]

theorem capacity_eq (length : SizeT) :
    NetworkBuffers.capacity length = ((16 + length.toNat) % 2 ^ 32 + 3) / 4 * 4 % 2 ^ 32 - 16 := by
  have header : rsrcHeaderSize.toNat = 16 := rfl
  rw [NetworkBuffers.capacity, SizedPool.alignUp_toNat, UInt32.toNat_add, header]
  rfl

theorem le_capacity_iff (length : SizeT) :
    length.toNat ≤ NetworkBuffers.capacity length ↔ length ≤ SizedPool.largestPayload :=
  SizedPool.room_iff

section Sizes

variable {padding size : SizeT}

theorem resizeLength_toNat : (resizeLength padding size).toNat =
    ((max ((size.toNat + padding.toNat) % 2 ^ 32) 22 + 3) / 4 * 4 % 2 ^ 32 + padding.toNat) %
      2 ^ 32 := by
  rw [resizeLength, UInt32.toNat_add, bufferSize_toNat, UInt32.toNat_add]

theorem le_fullSize : padding.toNat + size.toNat ≤ fullSize padding size := by
  rw [fullSize]
  omega

theorem bufferSize_of_small (small : fullSize padding size ≤ SizedPool.largestPayload.toNat) :
    (NetworkBuffers.bufferSize (size + padding)).toNat + padding.toNat = fullSize padding size := by
  have largest : SizedPool.largestPayload.toNat = 4294967276 := rfl
  have rounded : (max (size.toNat + padding.toNat) 22 + 3) / 4 * 4 ≤ 4294967276 := by
    rw [fullSize, largest] at small
    exact Nat.le_trans (Nat.le_add_right _ _) small
  have whole : size.toNat + padding.toNat < 2 ^ 32 := by omega
  rw [bufferSize_toNat, UInt32.toNat_add, Nat.mod_eq_of_lt whole, fullSize,
    Nat.mod_eq_of_lt (Nat.lt_of_le_of_lt rounded (by decide))]

theorem resizeLength_of_small (small : fullSize padding size ≤ SizedPool.largestPayload.toNat) :
    (resizeLength padding size).toNat = fullSize padding size := by
  rw [resizeLength, UInt32.toNat_add, bufferSize_of_small small]
  exact Nat.mod_eq_of_lt (Nat.lt_of_le_of_lt small (by decide))

theorem resizeLength_le_of_small (small : fullSize padding size ≤ SizedPool.largestPayload.toNat) :
    resizeLength padding size ≤ SizedPool.largestPayload := by
  rw [UInt32.le_iff_toNat_le, resizeLength_of_small small]
  exact small

theorem fullSize_le_capacity (small : fullSize padding size ≤ SizedPool.largestPayload.toNat) :
    fullSize padding size ≤ NetworkBuffers.capacity (resizeLength padding size) := by
  rw [← resizeLength_of_small small, le_capacity_iff]
  exact resizeLength_le_of_small small

/-- Where the size is not cut, there is room for it and for the padding. -/
theorem bufferSize_of_fullSize (small : fullSize padding size ≤ SizedPool.largestPayload.toNat) :
    size.toNat + padding.toNat ≤ (NetworkBuffers.bufferSize (size + padding)).toNat ∧
      0 < (NetworkBuffers.bufferSize (size + padding)).toNat ∧
      (NetworkBuffers.bufferSize (size + padding)).toNat ≤
        NetworkBuffers.capacity (resizeLength padding size) := by
  have inside := fullSize_le_capacity small
  have whole := bufferSize_of_small small
  rw [fullSize] at whole inside
  omega

/-- The payloads with room for what was asked for are those whose size is not cut. -/
theorem room_iff_fullSize :
    (resizeLength padding size ≤ SizedPool.largestPayload ∧
        padding.toNat + size.toNat ≤ NetworkBuffers.capacity (resizeLength padding size)) ↔
      fullSize padding size ≤ SizedPool.largestPayload.toNat := by
  constructor
  · rintro ⟨short, room⟩
    have largest : SizedPool.largestPayload.toNat = 4294967276 := rfl
    have sizeBound := size.toNat_lt
    have paddingBound := padding.toNat_lt
    rw [UInt32.le_iff_toNat_le, largest, resizeLength_toNat] at short
    rw [capacity_eq, resizeLength_toNat] at room
    rw [fullSize, largest]
    omega
  · intro small
    have room := Nat.le_trans le_fullSize (fullSize_le_capacity small)
    exact ⟨resizeLength_le_of_small small, room⟩

end Sizes

/-! ## Payloads -/

/-- The module with a new payload. -/
def withPayload (memory : BufferMemory) (b : Nat) (after : RsrcPool) (later : Nat)
    (payload : Rsrc) (bytes : List UInt8) : BufferMemory :=
  { memory with
    buffers := { memory.buffers with
      rsrc := NetworkBuffers.setPool memory.buffers.rsrc b after later }
    block := Function.update memory.block payload (some bytes) }

/-- What a request for a payload meets, with the bytes. -/
inductive AllocCase (memory : BufferMemory) (b : Nat) (B : RsrcPool) (heap : RsrcHeap)
    (name : String) (length : SizeT) : Prop where
  | absent (refused : NetworkBuffers.Absent B heap length.toNat)
      (run : memory.pxRsrcVarAlloc heap name length = .ok (none, memory))
  | nothing (zero : length.toNat = 0)
      (run : memory.pxRsrcVarAlloc heap name length = .ok (none, memory))
  | aborts (notRefused : ¬ NetworkBuffers.Absent B heap length.toNat)
      (notGranted : heap.memory = false)
      (run : memory.pxRsrcVarAlloc heap name length = .error (.buffers (.rsrc .abort)))
  | outside (asked : length.toNat ≠ 0) (granted : heap.memory = true)
      (left : ¬ NetworkBuffers.Full B) (large : ¬ length ≤ SizedPool.largestPayload)
      (run : memory.pxRsrcVarAlloc heap name length = .error .outOfBounds)
  | granted (first : Nat) (after : RsrcPool) (later : Nat) (asked : length.toNat ≠ 0)
      (granted : heap.memory = true) (left : ¬ NetworkBuffers.Full B)
      (small : length ≤ SizedPool.largestPayload)
      (run : memory.pxRsrcVarAlloc heap name length = .ok (some ⟨b, first⟩,
        memory.withPayload b after later ⟨b, first⟩
          (List.replicate (NetworkBuffers.capacity length) 0)))
      (payloads : NetworkBuffers.PayloadPool later after)
      (grown : memory.buffers.rsrc.nextRsrc ≤ later)
      (active : NetworkBuffers.used b after = ⟨b, first⟩ :: NetworkBuffers.used b B)
      (fresh : (⟨b, first⟩ : Rsrc) ∉ NetworkBuffers.used b B)

section Alloc

variable {memory : BufferMemory} {d b : Nat} {D B : RsrcPool}

theorem alloc_none {heap : RsrcHeap} {name : String} {length : SizeT}
    (run : memory.buffers.rsrc.pxRsrcVarAlloc heap memory.buffers.xNetworkBufferPool (some name)
      length.toNat = .ok (none, memory.buffers.rsrc)) :
    memory.pxRsrcVarAlloc heap name length = .ok (none, memory) := by
  rw [pxRsrcVarAlloc, run]
  rfl

theorem allocCase (layout : NetworkBuffers.Layout memory.buffers d b D B) (heap : RsrcHeap)
    (name : String) (length : SizeT) : AllocCase memory b B heap name length := by
  by_cases zero : length.toNat = 0
  · exact .nothing zero (alloc_none (layout.payload_refused heap name (.inl zero)))
  · by_cases full : NetworkBuffers.Full B
    · exact .absent ⟨zero, .inl full⟩ (alloc_none (layout.payload_refused heap name (.inr full)))
    · cases isGranted : heap.memory with
      | false =>
          have run := layout.payload_withoutMemory name zero full isGranted
          cases handled : heap.vRsrcOOMfn with
          | true =>
              rw [handled, if_pos rfl] at run
              exact .absent ⟨zero, .inr ⟨isGranted, handled⟩⟩ (alloc_none run)
          | false =>
              rw [handled, if_neg Bool.false_ne_true] at run
              refine .aborts ?_ isGranted ?_
              · rintro ⟨-, isFull | ⟨-, isHandled⟩⟩
                · exact full isFull
                · rw [handled] at isHandled
                  cases isHandled
              · rw [pxRsrcVarAlloc, run]
                rfl
      | true =>
          obtain ⟨first, after, later, run, payloads, grown, active, fresh⟩ :=
            layout.payload_granted name zero full isGranted
          by_cases small : length ≤ SizedPool.largestPayload
          · refine .granted first after later zero isGranted full small ?_ payloads grown active fresh
            rw [pxRsrcVarAlloc, run]
            exact if_pos ((le_capacity_iff length).mpr small)
          · refine .outside zero isGranted full small ?_
            rw [pxRsrcVarAlloc, run]
            exact if_neg fun fits => small ((le_capacity_iff length).mp fits)

end Alloc

/-! ## The bytes of the descriptors -/

/-- The length of the data with the padding is one inside the payload, and so are the data,
or all of the payload is padding. -/
structure Fits (build : BufferBuild) (xDataLength : SizeT) (bytes : List UInt8) : Prop where
  bounded : bytes.length < 2 ^ 32
  inside : (xDataLength + build.padding).toNat ≤ bytes.length
  data : build.padding.toNat + xDataLength.toNat ≤ bytes.length ∨
    bytes.length ≤ build.padding.toNat

/-- The payloads of these descriptors are there, and their data fit in. -/
def Stocked (build : BufferBuild) (memory : BufferMemory) (holders : List Rsrc) : Prop :=
  ∀ pxNetworkBuffer ∈ holders,
    ∀ payload ∈ (memory.buffers.descriptors pxNetworkBuffer).pucEthernetBuffer,
      ∃ bytes, memory.block payload = some bytes ∧
        Fits build (memory.buffers.descriptors pxNetworkBuffer).xDataLength bytes

section Bytes

variable {build : BufferBuild} {memory : BufferMemory} {d b : Nat} {D B : RsrcPool}

/-- A new payload has room for its length. -/
theorem fits_new {size : SizeT} {bytes : List UInt8} (aligned : size.toNat % 4 = 0)
    (small : size + build.padding ≤ SizedPool.largestPayload)
    (length : bytes.length = NetworkBuffers.capacity (size + build.padding)) :
    Fits build size bytes := by
  have sizeBound := size.toNat_lt
  have paddingBound := build.padding.toNat_lt
  have inside := (le_capacity_iff _).mpr small
  refine ⟨?_, length ▸ inside, ?_⟩
  · rw [length, capacity_eq]
    omega
  rw [length, capacity_eq]
  rw [UInt32.le_iff_toNat_le] at small
  have largest : SizedPool.largestPayload.toNat = 4294967276 := rfl
  rw [largest] at small
  rw [UInt32.toNat_add] at small ⊢
  omega

theorem bufferSize_aligned (size : SizeT) : (NetworkBuffers.bufferSize size).toNat % 4 = 0 := by
  rw [bufferSize_toNat]
  omega

theorem storageSize_aligned (size : SizeT) : (storageSize size).toNat % 4 = 0 := by
  rw [storageSize_toNat]
  omega

/-- Another block, which no descriptor has, makes no difference to them. -/
theorem Stocked.update_block {holders : List Rsrc} {after : BufferMemory} {payload : Rsrc}
    {bytes : Option (List UInt8)} (stocked : Stocked build memory holders)
    (notHeld : ∀ pxNetworkBuffer ∈ holders,
      payload ∉ (memory.buffers.descriptors pxNetworkBuffer).pucEthernetBuffer)
    (descriptors : after.buffers.descriptors = memory.buffers.descriptors)
    (block : after.block = Function.update memory.block payload bytes) :
    Stocked build after holders := by
  intro pxNetworkBuffer member other holds
  rw [descriptors] at holds ⊢
  have different : other ≠ payload := fun same => notHeld pxNetworkBuffer member (same ▸ holds)
  rw [block, Function.update_of_ne different]
  exact stocked pxNetworkBuffer member other holds

/-- A descriptor with a payload that its data fit into, where those of the others are as
they were. -/
theorem Stocked.update {holders : List Rsrc} {after : BufferMemory}
    {pxNetworkBuffer payload : Rsrc} {size : SizeT} {bytes : List UInt8}
    (stocked : Stocked build memory holders)
    (descriptors : after.buffers.descriptors = Function.update memory.buffers.descriptors
      pxNetworkBuffer { pucEthernetBuffer := some payload, xDataLength := size })
    (isBlock : after.block payload = some bytes) (fits : Fits build size bytes)
    (others : ∀ other ∈ holders, other ≠ pxNetworkBuffer →
      ∀ held ∈ (memory.buffers.descriptors other).pucEthernetBuffer,
        after.block held = memory.block held) :
    Stocked build after holders := by
  intro other member held holds
  rw [descriptors] at holds ⊢
  by_cases same : other = pxNetworkBuffer
  · subst same
    simp only [Function.update_self, Option.mem_some] at holds ⊢
    subst holds
    exact ⟨bytes, isBlock, fits⟩
  · rw [Function.update_of_ne same] at holds ⊢
    rw [others other member same held holds]
    exact stocked other member held holds

theorem memcpy_zero (target : Rsrc) (source : Option Rsrc) :
    memory.memcpy target source 0 = .ok memory := rfl

theorem memcpy_none (target : Rsrc) {length : Nat} (asked : length ≠ 0) :
    memory.memcpy target none length = .error (.buffers .nullPointer) := by
  rw [memcpy, if_neg asked]
  rfl

/-- A copy out of a block. -/
theorem memcpy_some {target source : Rsrc} {old bytes : List UInt8} {length : Nat}
    (isTarget : memory.block target = some old) (isSource : memory.block source = some bytes)
    (inside : length ≤ bytes.length) :
    memory.memcpy target (some source) length =
      if length ≤ old.length then
        .ok { memory with
          block := Function.update memory.block target
            (some (bytes.take length ++ old.drop length)) }
      else .error .outOfBounds := by
  by_cases zero : length = 0
  · subst zero
    rw [memcpy_zero, if_pos (Nat.zero_le _), List.take_zero, List.nil_append, List.drop_zero,
      ← isTarget, Function.update_eq_self]
  · simp only [memcpy, if_neg zero, isTarget, isSource, inside, and_true]
    rfl

end Bytes

/-! ## A resize -/

section Resize

variable {build : BufferBuild} {memory : BufferMemory} {d b : Nat} {D B : RsrcPool}

theorem forget_released (payload : Option Rsrc) :
    (memory.forget payload).released = payload.toList ++ memory.released := by
  cases payload with
  | none => rfl
  | some payload => rfl

theorem forget_block {payload : Option Rsrc} {other : Rsrc} (different : other ∉ payload) :
    (memory.forget payload).block other = memory.block other := by
  cases payload with
  | none => rfl
  | some payload =>
      have notSame : other ≠ payload := fun same => different (congrArg some same.symm)
      exact Function.update_of_ne notSame _ _

/-- The module between two operations, initialised with both pools. -/
structure Furnished (build : BufferBuild) (memory : BufferMemory) (d b : Nat)
    (descriptorPool payloadPool : RsrcPool) : Prop where
  initialized : memory.buffers.semInitialized = true
  layout : NetworkBuffers.Layout memory.buffers d b descriptorPool payloadPool
  semaphore : memory.buffers.xNetworkBufferSemaphore = some descriptorPool.pxFreelist.length
  stocked : Stocked build memory (NetworkBuffers.used d descriptorPool)

/-- A descriptor with another length. -/
def withLength (memory : BufferMemory) (pxNetworkBuffer : Rsrc) (size : SizeT) : BufferMemory :=
  memory.setDescriptor pxNetworkBuffer
    { memory.buffers.descriptors pxNetworkBuffer with xDataLength := size }

/-- A descriptor gets another payload in place of its own. -/
theorem Furnished.exchange {pxNetworkBuffer : Rsrc} {first later : Nat} {after : RsrcPool}
    {size : SizeT} {bytes : List UInt8} (furnished : Furnished build memory d b D B)
    (member : pxNetworkBuffer ∈ NetworkBuffers.used d D)
    (payloads : NetworkBuffers.PayloadPool later after)
    (grown : memory.buffers.rsrc.nextRsrc ≤ later)
    (active : NetworkBuffers.used b after = ⟨b, first⟩ :: NetworkBuffers.used b B)
    (fresh : (⟨b, first⟩ : Rsrc) ∉ NetworkBuffers.used b B) (fits : Fits build size bytes) :
    ∃ mid B', ((memory.withPayload b after later ⟨b, first⟩ bytes).withLength pxNetworkBuffer
          size).vReleaseNetworkBuffer
        (memory.buffers.descriptors pxNetworkBuffer).pucEthernetBuffer = .ok mid ∧
      Furnished build (mid.setDescriptor pxNetworkBuffer
        { pucEthernetBuffer := some ⟨b, first⟩, xDataLength := size }) d b D B' ∧
      mid.block ⟨b, first⟩ = some bytes ∧
      mid.released = (memory.buffers.descriptors pxNetworkBuffer).pucEthernetBuffer.toList ++
        memory.released ∧
      ∀ payload ∈ (memory.buffers.descriptors pxNetworkBuffer).pucEthernetBuffer,
        payload ∉ NetworkBuffers.used b B' := by
  obtain ⟨rsrc, B', released, final⟩ :=
    furnished.layout.exchange member payloads grown active fresh size
  have isOld {payload : Rsrc}
      (holds : payload ∈ (memory.buffers.descriptors pxNetworkBuffer).pucEthernetBuffer) :
      payload ∈ NetworkBuffers.used b B := furnished.layout.owned.mem_of_content member holds
  have notFirst : (⟨b, first⟩ : Rsrc) ∉
      (memory.buffers.descriptors pxNetworkBuffer).pucEthernetBuffer :=
    fun holds => fresh (isOld holds)
  refine ⟨BufferMemory.forget { memory with
      buffers := { memory.buffers with rsrc }.setDescriptor pxNetworkBuffer
        { memory.buffers.descriptors pxNetworkBuffer with xDataLength := size }
      block := Function.update memory.block ⟨b, first⟩ (some bytes) }
    (memory.buffers.descriptors pxNetworkBuffer).pucEthernetBuffer, B', ?_, ?_, ?_,
    forget_released _, ?_⟩
  · simp only [vReleaseNetworkBuffer, withLength, setDescriptor, withPayload, released]
    rfl
  · constructor
    · rw [setDescriptor, forget_buffers]
      exact furnished.initialized
    · rw [setDescriptor, forget_buffers]
      simp only [NetworkBuffers.setDescriptor, Function.update_idem] at final ⊢
      exact final
    · rw [setDescriptor, forget_buffers]
      exact furnished.semaphore
    · refine @Stocked.update build memory _ _ pxNetworkBuffer ⟨b, first⟩ _ _ furnished.stocked
        ?_ ?_ fits ?_
      · simp only [setDescriptor, forget_buffers, NetworkBuffers.setDescriptor,
          Function.update_idem]
      · exact (forget_block notFirst).trans (Function.update_self _ _ _)
      · intro other isOther different payload holds
        have isUsed := furnished.layout.owned.mem_of_content isOther holds
        have notOld : payload ∉ (memory.buffers.descriptors pxNetworkBuffer).pucEthernetBuffer :=
          fun isOld => different
            ((furnished.layout.owned.has_one_owner member isOld).1 other isOther holds)
        have notNew : payload ≠ ⟨b, first⟩ := fun isNew => fresh (isNew ▸ isUsed)
        exact (forget_block notOld).trans (Function.update_of_ne notNew _ _)
  · rw [forget_block notFirst]
    exact Function.update_self _ _ _
  · intro payload holds isUsed
    obtain ⟨unique, notLoose⟩ := furnished.layout.owned.has_one_owner member holds
    rcases final.owned.has_owner isUsed with ⟨other, isOther, owns⟩ | isLoose
    · by_cases same : other = pxNetworkBuffer
      · subst same
        rw [NetworkBuffers.payload_setDescriptor] at owns
        exact notFirst (Option.some.inj owns ▸ holds)
      · simp only [NetworkBuffers.payload, NetworkBuffers.setDescriptor,
          Function.update_of_ne same] at owns
        exact same (unique other isOther owns)
    · exact notLoose isLoose

/-- What a resize of a descriptor in use comes to. -/
inductive ResizeOutcome (build : BufferBuild) (before : BufferMemory) (d b : Nat) (D : RsrcPool)
    (pxNetworkBuffer : Rsrc) (size : SizeT) (supported : Prop) :
    Except BufferFault (Option Rsrc × BufferMemory) → Prop where
  | same (isSupported : supported) :
      ResizeOutcome build before d b D pxNetworkBuffer size supported (.ok (none, before))
  | aborts (isSupported : supported) :
      ResizeOutcome build before d b D pxNetworkBuffer size supported
        (.error (.buffers (.rsrc .abort)))
  | fails {fault : BufferFault} (notAbort : fault ≠ .buffers (.rsrc .abort))
      (notSupported : ¬ supported) :
      ResizeOutcome build before d b D pxNetworkBuffer size supported (.error fault)
  | resized {after : BufferMemory} {B' : RsrcPool} (furnished : Furnished build after d b D B')
      (resized_iff : Resized build before after pxNetworkBuffer size ↔ supported) :
      ResizeOutcome build before d b D pxNetworkBuffer size supported
        (.ok (some pxNetworkBuffer, after))

/-- What is supported, in terms of the two pools. -/
def SupportedIn (build : BufferBuild) (memory : BufferMemory) (B : RsrcPool) (heap : RsrcHeap)
    (pxNetworkBuffer : Rsrc) (size : SizeT) : Prop :=
  (NetworkBuffers.Absent B heap (resizeLength build.padding size).toNat →
      build.ndebug = true) ∧
    ((resizeLength build.padding size).toNat ≠ 0 ∧ heap.memory = true ∧ ¬ NetworkBuffers.Full B →
      fullSize build.padding size ≤ SizedPool.largestPayload.toNat ∧
        (build.padding ≠ 0 →
          (memory.buffers.descriptors pxNetworkBuffer).pucEthernetBuffer.isSome))

theorem Furnished.supported_iff (furnished : Furnished build memory d b D B) (heap : RsrcHeap)
    (name : String) (pxNetworkBuffer : Rsrc) (size : SizeT)
    (holds : memory.buffers.Holds pxNetworkBuffer) :
    Supported build memory (.buffers (.resize heap name pxNetworkBuffer size)) ↔
      SupportedIn build memory B heap pxNetworkBuffer size := by
  have refused_iff {length : Nat} : Refused memory.buffers heap length ↔
      NetworkBuffers.Absent B heap length := by
    rw [Refused, furnished.layout.payloadAbsent_iff, furnished.layout.payloadHandle]
    constructor
    · rintro ⟨-, isNone | absent⟩
      · cases isNone
      · exact absent
    · exact fun absent => ⟨absent.1, .inr absent⟩
  have granted_iff {length : Nat} : Granted memory.buffers heap length ↔
      length ≠ 0 ∧ heap.memory = true ∧ ¬ NetworkBuffers.Full B := by
    rw [Granted, furnished.layout.payloadHandle]
    simp only [Option.mem_some, exists_eq_left', furnished.layout.payloadAt]
  rw [SupportedIn, ← refused_iff, ← granted_iff]
  constructor
  · exact fun supported => supported heap name pxNetworkBuffer size rfl holds
  · rintro supported _ _ _ _ ⟨⟩ -
    exact supported

/-- What is copied of the old bytes is enough for the data that are kept. -/
theorem kept_prefix {old content : List UInt8} {padding oldLength size newLength copied : Nat}
    (copies : old.take copied <+: content)
    (enough : old.length ≤ padding ∨ padding + min size oldLength ≤ copied)
    (fits : size ≤ newLength) :
    ((old.drop padding).take oldLength).take size <+: (content.drop padding).take newLength := by
  rw [List.take_take]
  rcases enough with allPadding | enough
  · rw [List.drop_eq_nil_of_le allPadding, List.take_nil]
    exact List.nil_prefix
  · have cut : old.take (padding + min size oldLength) <+: content :=
      (List.take_prefix_take_left enough).trans copies
    have behind := cut.drop padding
    rw [List.drop_take, Nat.add_sub_cancel_left] at behind
    rw [List.prefix_take_iff]
    refine ⟨behind, ?_⟩
    rw [List.length_take]
    omega

theorem copyLength_toNat (size original : SizeT) :
    (if size > original then original else size).toNat = min size.toNat original.toNat := by
  split
  · next above =>
      have isAbove := UInt32.lt_iff_toNat_lt.mp above
      omega
  · next notAbove =>
      have atMost := UInt32.le_iff_toNat_le.mp (UInt32.not_lt.mp notAbove)
      omega

/-- What the new payload holds after the copy. -/
structure Copied (memory : BufferMemory) (pxNetworkBuffer : Rsrc) (length copied : Nat)
    (content : List UInt8) : Prop where
  length : content.length = length
  bare : (memory.buffers.descriptors pxNetworkBuffer).pucEthernetBuffer = none → copied = 0
  bytes : ∀ payload ∈ (memory.buffers.descriptors pxNetworkBuffer).pucEthernetBuffer,
    ∀ bytes, memory.block payload = some bytes → bytes.take copied <+: content

/-- The copy of the old bytes into a new payload that is cleared. -/
theorem Furnished.copies {pxNetworkBuffer : Rsrc} {first later length copied : Nat}
    {after : RsrcPool} {size : SizeT} (furnished : Furnished build memory d b D B)
    (member : pxNetworkBuffer ∈ NetworkBuffers.used d D)
    (fresh : (⟨b, first⟩ : Rsrc) ∉ NetworkBuffers.used b B)
    (inside : copied ≤
      ((memory.buffers.descriptors pxNetworkBuffer).xDataLength + build.padding).toNat) :
    (∃ fault, fault ≠ BufferFault.buffers (.rsrc .abort) ∧
      ((memory.withPayload b after later ⟨b, first⟩ (List.replicate length 0)).withLength
          pxNetworkBuffer size).memcpy ⟨b, first⟩
        (memory.buffers.descriptors pxNetworkBuffer).pucEthernetBuffer copied = .error fault ∧
      ((memory.buffers.descriptors pxNetworkBuffer).pucEthernetBuffer.isSome →
        length < copied) ∧ copied ≠ 0) ∨
    ∃ content, Copied memory pxNetworkBuffer length copied content ∧
      ((memory.withPayload b after later ⟨b, first⟩ (List.replicate length 0)).withLength
          pxNetworkBuffer size).memcpy ⟨b, first⟩
        (memory.buffers.descriptors pxNetworkBuffer).pucEthernetBuffer copied =
      .ok ((memory.withPayload b after later ⟨b, first⟩ content).withLength pxNetworkBuffer
        size) := by
  cases holds : (memory.buffers.descriptors pxNetworkBuffer).pucEthernetBuffer with
  | none =>
      by_cases zero : copied = 0
      · subst zero
        refine .inr ⟨List.replicate length 0, ?_, memcpy_zero _ _⟩
        constructor
        · exact List.length_replicate
        · exact fun _ => rfl
        · rw [holds]
          exact fun _ isPayload => by cases isPayload
      · exact .inl ⟨.buffers .nullPointer, fun same => (by cases same), memcpy_none _ zero,
          fun isSome => (by cases isSome), zero⟩
  | some payload =>
      obtain ⟨bytes, isBlock, fits⟩ := furnished.stocked pxNetworkBuffer member payload holds
      have isUsed := furnished.layout.owned.mem_of_content member holds
      have notFirst : payload ≠ ⟨b, first⟩ := fun same => fresh (same ▸ isUsed)
      have isTarget : (Function.update memory.block ⟨b, first⟩
          (some (List.replicate length 0))) ⟨b, first⟩ = some (List.replicate length 0) :=
        Function.update_self _ _ _
      have isSource : (Function.update memory.block ⟨b, first⟩
          (some (List.replicate length 0))) payload = some bytes :=
        (Function.update_of_ne notFirst _ _).trans isBlock
      have run := @memcpy_some ((memory.withPayload b after later ⟨b, first⟩
        (List.replicate length 0)).withLength pxNetworkBuffer size) _ _ _ _ copied
        isTarget isSource (Nat.le_trans inside fits.inside)
      rw [List.length_replicate] at run
      by_cases room : copied ≤ length
      · rw [if_pos room] at run
        refine .inr ⟨bytes.take copied ++ (List.replicate length 0).drop copied, ?_, ?_⟩
        · constructor
          · have inBytes := Nat.le_trans inside fits.inside
            rw [List.length_append, List.length_take, List.length_drop, List.length_replicate]
            omega
          · rw [holds]
            exact fun isNone => by cases isNone
          · rw [holds]
            rintro _ ⟨⟩ other isOther
            rw [isBlock] at isOther
            obtain rfl := Option.some.inj isOther
            exact List.prefix_append _ _
        · rw [run]
          simp only [withPayload, withLength, setDescriptor, Function.update_idem]
      · rw [if_neg room] at run
        have notEmpty : copied ≠ 0 := fun zero => room (zero ▸ Nat.zero_le _)
        exact .inl ⟨.outOfBounds, fun same => (by cases same), run,
          fun _ => Nat.lt_of_not_le room, notEmpty⟩

/-- The copy fails only where what was asked for is not supported. -/
theorem Furnished.copy_fails {pxNetworkBuffer : Rsrc} {size : SizeT} {copied : Nat}
    (furnished : Furnished build memory d b D B)
    (member : pxNetworkBuffer ∈ NetworkBuffers.used d D)
    (atMost : copied ≤ (NetworkBuffers.bufferSize (size + build.padding)).toNat)
    (inside : copied ≤
      ((memory.buffers.descriptors pxNetworkBuffer).xDataLength + build.padding).toNat)
    (above : (memory.buffers.descriptors pxNetworkBuffer).pucEthernetBuffer.isSome →
      NetworkBuffers.capacity (resizeLength build.padding size) < copied) (notEmpty : copied ≠ 0) :
    ¬ (fullSize build.padding size ≤ SizedPool.largestPayload.toNat ∧
      (build.padding ≠ 0 →
        (memory.buffers.descriptors pxNetworkBuffer).pucEthernetBuffer.isSome)) := by
  rintro ⟨small, hasPayload⟩
  cases holds : (memory.buffers.descriptors pxNetworkBuffer).pucEthernetBuffer with
  | some payload =>
      have room := (bufferSize_of_fullSize small).2.2
      rw [holds] at above
      exact absurd (above rfl) (Nat.not_lt.mpr (Nat.le_trans atMost room))
  | none =>
      have noPadding : build.padding = 0 := by
        by_contra padded
        have isSome := hasPayload padded
        rw [holds] at isSome
        cases isSome
      rw [furnished.layout.bare pxNetworkBuffer member holds, noPadding] at inside
      exact notEmpty (Nat.le_zero.mp inside)

/-- What the exchange makes of the descriptor, and when that is what was asked for. -/
theorem Furnished.resized_iff {pxNetworkBuffer payload : Rsrc} {size : SizeT} {copied : Nat}
    {content : List UInt8} {after : BufferMemory} {B' : RsrcPool}
    (furnished : Furnished build memory d b D B)
    (member : pxNetworkBuffer ∈ NetworkBuffers.used d D)
    (length : copied = min (NetworkBuffers.bufferSize (size + build.padding)).toNat
      ((memory.buffers.descriptors pxNetworkBuffer).xDataLength + build.padding).toNat)
    (isCopied : Copied memory pxNetworkBuffer
      (NetworkBuffers.capacity (resizeLength build.padding size)) copied content)
    (small : resizeLength build.padding size ≤ SizedPool.largestPayload)
    (final : Furnished build after d b D B')
    (descriptor : after.buffers.descriptors pxNetworkBuffer =
      { pucEthernetBuffer := some payload
        xDataLength := NetworkBuffers.bufferSize (size + build.padding) })
    (isBlock : after.block payload = some content)
    (released : after.released =
      (memory.buffers.descriptors pxNetworkBuffer).pucEthernetBuffer.toList ++ memory.released)
    (gone : ∀ old ∈ (memory.buffers.descriptors pxNetworkBuffer).pucEthernetBuffer,
      old ∉ NetworkBuffers.used b B') :
    Resized build memory after pxNetworkBuffer size ↔
      fullSize build.padding size ≤ SizedPool.largestPayload.toNat ∧
        (build.padding ≠ 0 →
          (memory.buffers.descriptors pxNetworkBuffer).pucEthernetBuffer.isSome) := by
  constructor
  · rintro ⟨⟨other, bytes, isOther, -, isBytes, room⟩, -, -, -⟩
    rw [descriptor] at isOther
    obtain rfl := Option.some.inj isOther
    rw [isBlock] at isBytes
    obtain rfl := Option.some.inj isBytes
    rw [isCopied.length] at room
    have full := room_iff_fullSize.mp ⟨small, room⟩
    refine ⟨full, fun padded => ?_⟩
    cases holds : (memory.buffers.descriptors pxNetworkBuffer).pucEthernetBuffer with
    | some old => rfl
    | none =>
        have zero := isCopied.bare holds
        rw [length, furnished.layout.bare pxNetworkBuffer member holds, UInt32.zero_add] at zero
        have positive := (bufferSize_of_fullSize full).2.1
        have isPadded : build.padding.toNat ≠ 0 := fun same => padded (UInt32.toNat_inj.mp same)
        omega
  · rintro ⟨full, hasPayload⟩
    obtain ⟨room, -, -⟩ := bufferSize_of_fullSize full
    constructor
    · refine ⟨payload, content, by rw [descriptor], ?_, isBlock, ?_⟩
      · rw [final.layout.payloadInUse_iff]
        apply final.layout.owned.mem_of_content member
        rw [NetworkBuffers.payload, descriptor]
      · rw [isCopied.length]
        exact (room_iff_fullSize.mpr full).2
    · have newData : after.data build pxNetworkBuffer = (content.drop build.padding.toNat).take
          (NetworkBuffers.bufferSize (size + build.padding)).toNat := by
        simp only [data, descriptor, Option.bind_some, isBlock]
      rw [newData]
      cases holds : (memory.buffers.descriptors pxNetworkBuffer).pucEthernetBuffer with
      | none =>
          simp only [data, holds, Option.bind_none, List.take_nil]
          exact List.nil_prefix
      | some old =>
          obtain ⟨bytes, isOld, fits⟩ := furnished.stocked pxNetworkBuffer member old holds
          simp only [data, holds, Option.bind_some, isOld]
          apply kept_prefix (isCopied.bytes old holds bytes isOld) _
            (Nat.le_trans (Nat.le_add_right _ _) room)
          rcases fits.data with inside | allPadding
          · refine .inr ?_
            have bounded := fits.bounded
            rw [length, UInt32.toNat_add]
            omega
          · exact .inl allPadding
    · exact released
    · exact fun old isOld inUse => gone old isOld (final.layout.payloadInUse_iff.mp inUse)

/-- A resize whose payload is not there writes to it in a build without `NDEBUG`. -/
theorem resize_refused {heap : RsrcHeap} {name : String} {size : SizeT}
    (pxNetworkBuffer : Rsrc)
    (run : memory.pxRsrcVarAlloc heap name (resizeLength build.padding size) =
      .ok (none, memory)) :
    pxResizeNetworkBufferWithDescriptorFor build memory heap name pxNetworkBuffer size = do
      lift (NetworkBuffers.zero build.ndebug none (resizeLength build.padding size).toNat)
      return (none, memory) := by
  have whole : NetworkBuffers.bufferSize (size + build.padding) + build.padding =
      resizeLength build.padding size := rfl
  rw [pxResizeNetworkBufferWithDescriptorFor, pucGetNetworkBufferFor, whole, run]
  simp only [Command.ok_bind]
  cases NetworkBuffers.zero build.ndebug none (resizeLength build.padding size).toNat with
  | error fault => rfl
  | ok value => rfl

theorem resize_failed {heap : RsrcHeap} {name : String} {size : SizeT} {fault : BufferFault}
    (pxNetworkBuffer : Rsrc)
    (run : memory.pxRsrcVarAlloc heap name (resizeLength build.padding size) = .error fault) :
    pxResizeNetworkBufferWithDescriptorFor build memory heap name pxNetworkBuffer size =
      .error fault := by
  have whole : NetworkBuffers.bufferSize (size + build.padding) + build.padding =
      resizeLength build.padding size := rfl
  rw [pxResizeNetworkBufferWithDescriptorFor, pucGetNetworkBufferFor, whole, run]
  rfl

/-- A resize whose payload is granted copies, and gives the old payload back. -/
theorem resize_granted {heap : RsrcHeap} {name : String} {pxNetworkBuffer payload : Rsrc}
    {size : SizeT} {loaded : BufferMemory}
    (run : memory.pxRsrcVarAlloc heap name (resizeLength build.padding size) =
      .ok (some payload, loaded))
    (same : loaded.buffers.descriptors = memory.buffers.descriptors) :
    pxResizeNetworkBufferWithDescriptorFor build memory heap name pxNetworkBuffer size = do
      let copied ← (loaded.withLength pxNetworkBuffer
          (NetworkBuffers.bufferSize (size + build.padding))).memcpy payload
        (memory.buffers.descriptors pxNetworkBuffer).pucEthernetBuffer
        (min (NetworkBuffers.bufferSize (size + build.padding)).toNat
          ((memory.buffers.descriptors pxNetworkBuffer).xDataLength + build.padding).toNat)
      let mid ← copied.vReleaseNetworkBuffer
        (memory.buffers.descriptors pxNetworkBuffer).pucEthernetBuffer
      return (some pxNetworkBuffer, mid.setDescriptor pxNetworkBuffer
        { pucEthernetBuffer := some payload
          xDataLength := NetworkBuffers.bufferSize (size + build.padding) }) := by
  have whole : NetworkBuffers.bufferSize (size + build.padding) + build.padding =
      resizeLength build.padding size := rfl
  rw [pxResizeNetworkBufferWithDescriptorFor, pucGetNetworkBufferFor, whole, run]
  simp only [Command.ok_bind, NetworkBuffers.zero_some, withLength, same, ← copyLength_toNat]
  rfl

/-- A resize of a descriptor in use. -/
theorem Furnished.resize (furnished : Furnished build memory d b D B) (heap : RsrcHeap)
    (name : String) {pxNetworkBuffer : Rsrc} (size : SizeT)
    (member : pxNetworkBuffer ∈ NetworkBuffers.used d D) :
    ResizeOutcome build memory d b D pxNetworkBuffer size
      (SupportedIn build memory B heap pxNetworkBuffer size)
      (pxResizeNetworkBufferWithDescriptorFor build memory heap name pxNetworkBuffer size) := by
  cases allocCase furnished.layout heap name (resizeLength build.padding size) with
  | absent refused run =>
      rw [resize_refused pxNetworkBuffer run, NetworkBuffers.zero_absent refused.1]
      cases ndebug : build.ndebug with
      | false =>
          refine .fails (fun same => nomatch same) fun supported => ?_
          have isNdebug := supported.1 refused
          rw [ndebug] at isNdebug
          cases isNdebug
      | true =>
          refine .same ⟨fun _ => ndebug, fun granted => ?_⟩
          rcases refused.2 with full | ⟨noMemory, -⟩
          · exact absurd full granted.2.2
          · rw [granted.2.1] at noMemory
            cases noMemory
  | nothing zero run =>
      rw [resize_refused pxNetworkBuffer run, zero, NetworkBuffers.zero_nothing]
      exact .same ⟨fun refused => absurd zero refused.1, fun granted => absurd zero granted.1⟩
  | aborts notRefused noMemory run =>
      rw [resize_failed pxNetworkBuffer run]
      refine .aborts ⟨fun refused => absurd refused notRefused, fun granted => ?_⟩
      rw [granted.2.1] at noMemory
      cases noMemory
  | outside asked granted left large run =>
      rw [resize_failed pxNetworkBuffer run]
      refine .fails (fun same => nomatch same) fun supported => ?_
      exact large (room_iff_fullSize.mpr (supported.2 ⟨asked, granted, left⟩).1).1
  | granted first after later asked granted left small run payloads grown active fresh =>
      have supported_iff : SupportedIn build memory B heap pxNetworkBuffer size ↔
          fullSize build.padding size ≤ SizedPool.largestPayload.toNat ∧
            (build.padding ≠ 0 →
              (memory.buffers.descriptors pxNetworkBuffer).pucEthernetBuffer.isSome) := by
        constructor
        · exact fun supported => supported.2 ⟨asked, granted, left⟩
        · refine fun supported => ⟨fun refused => ?_, fun _ => supported⟩
          rcases refused.2 with full | ⟨noMemory, -⟩
          · exact absurd full left
          · rw [granted] at noMemory
            cases noMemory
      rw [supported_iff]
      rw [resize_granted run rfl]
      generalize isMin : min (NetworkBuffers.bufferSize (size + build.padding)).toNat
        ((memory.buffers.descriptors pxNetworkBuffer).xDataLength + build.padding).toNat = copied
      have inside : copied ≤
          ((memory.buffers.descriptors pxNetworkBuffer).xDataLength + build.padding).toNat :=
        isMin ▸ Nat.min_le_right _ _
      rcases @Furnished.copies build memory d b D B pxNetworkBuffer first later
          (NetworkBuffers.capacity (resizeLength build.padding size)) copied after
          (NetworkBuffers.bufferSize (size + build.padding)) furnished member fresh inside with
        ⟨fault, notAbort, failed, above, notEmpty⟩ | ⟨content, isCopied, copies⟩
      · have atMost : copied ≤ (NetworkBuffers.bufferSize (size + build.padding)).toNat :=
          isMin ▸ Nat.min_le_left _ _
        have notSupported :=
          furnished.copy_fails member atMost inside above notEmpty
        rw [failed]
        exact .fails notAbort notSupported
      · have fits : Fits build (NetworkBuffers.bufferSize (size + build.padding)) content :=
          fits_new (bufferSize_aligned _) small isCopied.length
        obtain ⟨mid, B', releases, final, isBlock, released, gone⟩ :=
          furnished.exchange member payloads grown active fresh fits
        rw [copies, Command.ok_bind, releases]
        refine .resized final ?_
        apply furnished.resized_iff member isMin.symm isCopied small final _ isBlock released gone
        exact NetworkBuffers.setDescriptor_self _ _ _

end Resize

/-! ## The other operations -/

section Operations

variable {build : BufferBuild} {memory after : BufferMemory} {d b : Nat} {D B : RsrcPool}

/-- A descriptor is released. -/
theorem Furnished.release {pxNetworkBuffer : Rsrc} (furnished : Furnished build memory d b D B)
    (member : pxNetworkBuffer ∈ NetworkBuffers.used d D)
    (returned : memory.vReleaseNetworkBufferAndDescriptor pxNetworkBuffer = .ok after) :
    ∃ D' B', Furnished build after d b D' B' := by
  obtain ⟨rsrc, D', B', run, layout, free, gone⟩ :=
    furnished.layout.release member furnished.semaphore
  simp only [vReleaseNetworkBufferAndDescriptor, run, lift, Command.ok_bind] at returned
  obtain rfl := Except.ok.inj returned
  refine ⟨D', B', ?_⟩
  constructor
  · rw [forget_buffers]
    exact furnished.initialized
  · rw [forget_buffers]
    exact layout
  · rw [forget_buffers, free]
    rfl
  · intro other isOther payload holds
    rw [gone] at isOther
    have different : other ≠ pxNetworkBuffer := by
      rintro rfl
      exact furnished.layout.owned.holdersNodup.not_mem_erase isOther
    have isUsed := List.mem_of_mem_erase isOther
    simp only [forget_buffers, NetworkBuffers.setDescriptor,
      Function.update_of_ne different] at holds ⊢
    have notOld : payload ∉ (memory.buffers.descriptors pxNetworkBuffer).pucEthernetBuffer :=
      fun isOld => different
        ((furnished.layout.owned.has_one_owner member isOld).1 other isUsed holds)
    obtain ⟨bytes, isBlock, fits⟩ := furnished.stocked other isUsed payload holds
    exact ⟨bytes, (forget_block notOld).trans isBlock, fits⟩

/-- A descriptor that has none gets a payload. -/
theorem Furnished.attach {pxNetworkBuffer : Rsrc} {first later : Nat} {pool : RsrcPool}
    {size : SizeT} {bytes : List UInt8} (furnished : Furnished build memory d b D B)
    (member : pxNetworkBuffer ∈ NetworkBuffers.used d D)
    (isBare : (memory.buffers.descriptors pxNetworkBuffer).pucEthernetBuffer = none)
    (payloads : NetworkBuffers.PayloadPool later pool)
    (grown : memory.buffers.rsrc.nextRsrc ≤ later)
    (active : NetworkBuffers.used b pool = ⟨b, first⟩ :: NetworkBuffers.used b B)
    (fresh : (⟨b, first⟩ : Rsrc) ∉ NetworkBuffers.used b B) (fits : Fits build size bytes) :
    Furnished build ((memory.withPayload b pool later ⟨b, first⟩ bytes).setDescriptor
      pxNetworkBuffer { pucEthernetBuffer := some ⟨b, first⟩, xDataLength := size }) d b D pool where
  initialized := furnished.initialized
  layout := furnished.layout.attach member isBare payloads grown active fresh size
  semaphore := furnished.semaphore
  stocked := by
    apply furnished.stocked.update rfl (Function.update_self _ _ _) fits
    intro other isOther different payload holds
    have isUsed := furnished.layout.owned.mem_of_content isOther holds
    have notNew : payload ≠ ⟨b, first⟩ := fun isNew => fresh (isNew ▸ isUsed)
    exact Function.update_of_ne notNew _ _

/-- An address that is stored leaves the payload as long as it is. -/
theorem storeAddress_case {pxNetworkBuffer payload : Rsrc} {old : List UInt8}
    (isBlock : memory.block payload = some old)
    (returned : storeAddress build memory pxNetworkBuffer payload = .ok after) :
    ∃ bytes, bytes.length = old.length ∧
      after = { memory with block := Function.update memory.block payload (some bytes) } := by
  rw [storeAddress, isBlock] at returned
  by_cases room : 4 ≤ old.length
  · simp only [room, if_true] at returned
    refine ⟨_, ?_, (Except.ok.inj returned).symm⟩
    rw [List.length_append, LittleEndian.toBytes_length, List.length_drop]
    omega
  · simp only [room, if_false] at returned
    cases returned

/-- The payload of a descriptor that was obtained. -/
theorem Furnished.attachPayload {pxReturn : Rsrc} {heap : RsrcHeap} {name : String} {size : SizeT}
    {result : Option Rsrc} (furnished : Furnished build memory d b D B)
    (member : pxReturn ∈ NetworkBuffers.used d D)
    (isCleared : memory.buffers.descriptors pxReturn = .cleared)
    (returned : attachPayload build memory heap name size pxReturn = .ok (result, after)) :
    ∃ D' B', Furnished build after d b D' B' := by
  have cleared : memory.setDescriptor pxReturn
      { memory.buffers.descriptors pxReturn with pucEthernetBuffer := none } = memory := by
    have unattached : ({ memory.buffers.descriptors pxReturn with pucEthernetBuffer := none } :
        PooledDescriptor) = memory.buffers.descriptors pxReturn := by
      rw [isCleared]
      rfl
    rw [unattached, setDescriptor, NetworkBuffers.setDescriptor, Function.update_eq_self]
  by_cases asked : 0 < size
  · simp only [BufferMemory.attachPayload, if_pos asked] at returned
    have givenBack (run : memory.pxRsrcVarAlloc heap name (storageSize size + build.padding) =
        .ok (none, memory)) : ∃ D' B', Furnished build after d b D' B' := by
      rw [run] at returned
      simp only [Command.ok_bind, cleared] at returned
      obtain ⟨_, -, returned⟩ := Command.bind_eq_ok.mp returned
      obtain ⟨last, release, returned⟩ := Command.bind_eq_ok.mp returned
      cases returned
      exact furnished.release member release
    cases allocCase furnished.layout heap name (storageSize size + build.padding) with
    | absent refused run => exact givenBack run
    | nothing zero run => exact givenBack run
    | aborts notRefused noMemory run =>
        rw [run] at returned
        cases returned
    | outside asked granted left large run =>
        rw [run] at returned
        cases returned
    | granted first pool later asked granted left small run payloads grown active fresh =>
        rw [run] at returned
        simp only [Command.ok_bind, NetworkBuffers.zero_some, lift] at returned
        obtain ⟨last, store, returned⟩ := Command.bind_eq_ok.mp returned
        cases returned
        obtain ⟨bytes, length, rfl⟩ := storeAddress_case (Function.update_self _ _ _) store
        rw [List.length_replicate] at length
        have isBare : (memory.buffers.descriptors pxReturn).pucEthernetBuffer = none := by
          rw [isCleared]
          rfl
        have attached := furnished.attach member isBare payloads grown active fresh
          (fits_new (storageSize_aligned size) small length)
        refine ⟨D, pool, ?_⟩
        simp only [setDescriptor, withPayload, NetworkBuffers.setDescriptor,
          Function.update_idem] at attached ⊢
        exact attached
  · rw [BufferMemory.attachPayload, if_neg asked, cleared] at returned
    cases returned
    exact ⟨D, B, furnished⟩

/-- The module with a descriptor that was obtained. -/
def withDescriptor (memory : BufferMemory) (value : Nat) (rsrc : RsrcPools)
    (pxReturn : Rsrc) : BufferMemory :=
  { memory with
    buffers := { memory.buffers with
      xNetworkBufferSemaphore := some value
      rsrc }.setDescriptor pxReturn .cleared }

/-- A request for a descriptor that returns obtains one, or has changed nothing. -/
theorem get_case {environment : NetworkBuffers.GetEnvironment} {name : String} {size : SizeT}
    {xTimeOutUS : UInt32} {result : Option Rsrc}
    (initialized : memory.buffers.semInitialized = true)
    (returned : pxGetNetworkBufferWithDescriptorFor build memory environment name size xTimeOutUS =
      .ok (result, after)) :
    (result = none ∧ after = memory) ∨ ∃ value pxReturn rsrc,
      memory.buffers.xNetworkBufferSemaphore = some (value + 1) ∧
      memory.buffers.rsrc.pxRsrcAlloc environment.payload
        memory.buffers.xNetworkBufferDescriptorPool (some name) = .ok (some pxReturn, rsrc) ∧
      attachPayload build (memory.withDescriptor value rsrc pxReturn) environment.payload name size
        pxReturn = .ok (result, after) := by
  rw [pxGetNetworkBufferWithDescriptorFor, initialized] at returned
  by_cases unscheduled : (decide (0 < xTimeOutUS) && !environment.scheduled) = true
  · rw [unscheduled] at returned
    cases returned
    exact .inl ⟨rfl, rfl⟩
  · rw [Bool.not_eq_true] at unscheduled
    rw [unscheduled] at returned
    cases semaphore : memory.buffers.xNetworkBufferSemaphore with
    | none =>
        rw [NetworkBuffers.semWait, semaphore] at returned
        cases returned
    | some count =>
        cases count with
        | zero =>
            rw [NetworkBuffers.semWait_empty _ semaphore] at returned
            cases returned
            exact .inl ⟨rfl, rfl⟩
        | succ value =>
            rw [NetworkBuffers.semWait_left _ semaphore] at returned
            cases interrupted : environment.interrupted with
            | true =>
                rw [interrupted] at returned
                cases returned
                exact .inl ⟨rfl, rfl⟩
            | false =>
                rw [interrupted] at returned
                simp only [Bool.not_true, Bool.false_eq_true, if_false, lift,
                  Command.ok_bind] at returned
                obtain ⟨⟨pxReturn, rsrc⟩, run, returned⟩ := Command.bind_eq_ok.mp returned
                have allocated := lift_eq_ok.mp run
                cases pxReturn with
                | none => cases returned
                | some pxReturn =>
                    exact .inr ⟨value, pxReturn, rsrc, rfl, rsrc_lift_eq_ok.mp allocated, returned⟩

theorem setDescriptor_self (memory : BufferMemory) (pxNetworkBuffer : Rsrc)
    (descriptor : PooledDescriptor) :
    (memory.setDescriptor pxNetworkBuffer descriptor).buffers.descriptors pxNetworkBuffer =
      descriptor := Function.update_self _ _ _

/-- A payload that was granted has the length that was asked for, which does not wrap around
with the header. -/
theorem alloc_some {heap : RsrcHeap} {name : String} {length : SizeT} {payload : Rsrc}
    (returned : memory.pxRsrcVarAlloc heap name length = .ok (some payload, after)) :
    length ≤ SizedPool.largestPayload ∧
      ∃ bytes, after.block payload = some bytes ∧ length.toNat ≤ bytes.length := by
  rw [pxRsrcVarAlloc] at returned
  obtain ⟨⟨granted, rsrc⟩, -, returned⟩ := Command.bind_eq_ok.mp returned
  cases granted with
  | none => cases returned
  | some granted =>
      by_cases room : length.toNat ≤ NetworkBuffers.capacity length
      · simp only [room, if_true] at returned
        cases returned
        refine ⟨(le_capacity_iff length).mp room, _, Function.update_self _ _ _, ?_⟩
        rw [List.length_replicate]
        exact room
      · simp only [room, if_false] at returned
        cases returned

/-- A descriptor with the length of a fresh one. If some bytes were asked for, its payload has
room for as many as that, and the size of the payload does not wrap around. -/
structure Obtained (build : BufferBuild) (memory : BufferMemory) (pxReturn : Rsrc)
    (size : SizeT) : Prop where
  length : (memory.buffers.descriptors pxReturn).xDataLength = (freshDescriptor size).xDataLength
  small : 0 < size → storageSize size + build.padding ≤ SizedPool.largestPayload
  room : 0 < size → ∃ payload bytes,
    (memory.buffers.descriptors pxReturn).pucEthernetBuffer = some payload ∧
      memory.block payload = some bytes ∧
      (storageSize size + build.padding).toNat ≤ bytes.length

theorem attachPayload_obtained {pxReturn result : Rsrc} {heap : RsrcHeap} {name : String}
    {size : SizeT} (isCleared : memory.buffers.descriptors pxReturn = .cleared)
    (returned : attachPayload build memory heap name size pxReturn = .ok (some result, after)) :
    Obtained build after result size := by
  by_cases asked : 0 < size
  · have length : (freshDescriptor size).xDataLength = storageSize size := if_pos asked
    simp only [attachPayload, if_pos asked] at returned
    obtain ⟨⟨payload, loaded⟩, allocated, returned⟩ := Command.bind_eq_ok.mp returned
    obtain ⟨_, -, returned⟩ := Command.bind_eq_ok.mp returned
    cases payload with
    | none =>
        obtain ⟨last, -, returned⟩ := Command.bind_eq_ok.mp returned
        cases returned
    | some payload =>
        obtain ⟨small, old, isBlock, room⟩ := alloc_some allocated
        obtain ⟨last, store, returned⟩ := Command.bind_eq_ok.mp returned
        cases returned
        have same : (loaded.setDescriptor pxReturn { loaded.buffers.descriptors pxReturn with
            pucEthernetBuffer := some payload }).block payload = some old := isBlock
        obtain ⟨bytes, sameLength, rfl⟩ := storeAddress_case same store
        refine ⟨?_, fun _ => small, fun _ => ⟨payload, bytes, ?_, ?_, sameLength ▸ room⟩⟩
        · rw [length, setDescriptor_self]
        · rw [setDescriptor_self]
        · exact Function.update_self _ _ _
  · rw [attachPayload, if_neg asked] at returned
    cases returned
    refine ⟨?_, fun positive => absurd positive asked, fun positive => absurd positive asked⟩
    rw [setDescriptor_self, isCleared]
    exact (if_neg asked).symm

/-- Every descriptor a request returns is one with room for it. A size whose payload wraps
around with the header yields none. -/
theorem get_obtained {environment : NetworkBuffers.GetEnvironment} {name : String}
    {size : SizeT} {xTimeOutUS : UInt32} {pxReturn : Rsrc}
    (initialized : memory.buffers.semInitialized = true)
    (returned : pxGetNetworkBufferWithDescriptorFor build memory environment name size xTimeOutUS =
      .ok (some pxReturn, after)) : Obtained build after pxReturn size := by
  rcases get_case initialized returned with ⟨⟨⟩, -⟩ | ⟨value, first, rsrc, -, -, attached⟩
  apply attachPayload_obtained _ attached
  rw [withDescriptor]
  exact Function.update_self _ _ _

/-- A descriptor is obtained. -/
theorem Furnished.get {environment : NetworkBuffers.GetEnvironment} {name : String}
    {size : SizeT} {xTimeOutUS : UInt32} {result : Option Rsrc}
    (furnished : Furnished build memory d b D B)
    (returned : pxGetNetworkBufferWithDescriptorFor build memory environment name size xTimeOutUS =
      .ok (result, after)) : ∃ D' B', Furnished build after d b D' B' := by
  rcases get_case furnished.initialized returned with
    ⟨-, rfl⟩ | ⟨value, pxReturn, rsrc, semaphore, isAlloc, attached⟩
  · exact ⟨D, B, furnished⟩
  · have count : D.pxFreelist.length = value + 1 :=
      Option.some.inj (furnished.semaphore.symm.trans semaphore)
    have left : D.pxFreelist ≠ [] := by
      intro empty
      rw [empty] at count
      cases count
    obtain ⟨first, last, pool, run, obtained, entered, free⟩ :=
      (furnished.layout.withSemaphore (some value)).obtain environment.payload name left
    obtain ⟨isFirst, rfl⟩ := Prod.mk.inj (Except.ok.inj (isAlloc.symm.trans run))
    obtain rfl := Option.some.inj isFirst
    have valueLeft : pool.pxFreelist.length = value := by
      rw [count] at free
      exact Nat.succ.inj free
    have entering : Furnished build (memory.withDescriptor value rsrc ⟨d, first⟩) d b pool B := by
      refine ⟨furnished.initialized, obtained, congrArg some valueLeft.symm, ?_⟩
      intro other isOther payload holds
      simp only [withDescriptor, NetworkBuffers.setDescriptor] at holds ⊢
      by_cases same : other = ⟨d, first⟩
      · subst same
        rw [Function.update_self] at holds
        cases holds
      · rw [Function.update_of_ne same] at holds ⊢
        rw [entered] at isOther
        exact furnished.stocked other (List.mem_of_ne_of_mem same isOther) payload holds
    have member : (⟨d, first⟩ : Rsrc) ∈ NetworkBuffers.used d pool :=
      entered ▸ List.mem_cons_self
    exact entering.attachPayload member (Function.update_self _ _ _) attached

/-- A payload is obtained without a descriptor. -/
theorem Furnished.rawGet {heap : RsrcHeap} {name : String} {size : SizeT}
    {result : NetworkBufferResult} (furnished : Furnished build memory d b D B)
    (returned : memory.operateBuffers build (.rawGet heap name size) = .ok (result, after)) :
    ∃ D' B', Furnished build after d b D' B' := by
  simp only [operateBuffers, pucGetNetworkBufferFor] at returned
  have unchanged (run : memory.pxRsrcVarAlloc heap name
      (NetworkBuffers.bufferSize size + build.padding) = .ok (none, memory)) :
      ∃ D' B', Furnished build after d b D' B' := by
    rw [run] at returned
    obtain ⟨_, got, returned⟩ := Command.bind_eq_ok.mp returned
    simp only [Command.ok_bind] at got
    obtain ⟨_, -, got⟩ := Command.bind_eq_ok.mp got
    cases got
    cases returned
    exact ⟨D, B, furnished⟩
  cases allocCase furnished.layout heap name (NetworkBuffers.bufferSize size + build.padding) with
  | absent refused run => exact unchanged run
  | nothing zero run => exact unchanged run
  | aborts notRefused noMemory run =>
      rw [run] at returned
      cases returned
  | outside asked granted left large run =>
      rw [run] at returned
      cases returned
  | granted first pool later asked granted left small run payloads grown active fresh =>
      rw [run] at returned
      simp only [Command.ok_bind, NetworkBuffers.zero_some, lift] at returned
      cases returned
      refine ⟨D, pool, furnished.initialized, ?_, furnished.semaphore, ?_⟩
      · apply furnished.layout.setPayloads payloads grown _ furnished.layout.bare
        rw [active]
        exact furnished.layout.owned.lend fresh
      · refine @Stocked.update_block build memory _ _ ⟨b, first⟩ _ furnished.stocked ?_ rfl rfl
        exact fun other isOther holds =>
          fresh (furnished.layout.owned.mem_of_content isOther holds)

/-- A payload without a descriptor is given back. -/
theorem Furnished.rawRelease {payload : Option Rsrc} {result : NetworkBufferResult}
    (furnished : Furnished build memory d b D B)
    (returned : memory.operateBuffers build (.rawRelease payload) = .ok (result, after)) :
    ∃ D' B', Furnished build after d b D' B' := by
  cases payload with
  | none =>
      cases returned
      exact ⟨D, B, furnished⟩
  | some payload =>
      rw [operateBuffers] at returned
      by_cases member : payload ∈ memory.buffers.raw
      · have isUsed := furnished.layout.owned.mem_of_loose member
        obtain ⟨rfl, isActive⟩ := NetworkBuffers.mem_used.mp isUsed
        rw [if_pos member, vReleaseNetworkBuffer, furnished.layout.releaseBuffer isUsed] at returned
        cases returned
        refine ⟨D, B.vRsrcFree payload.number, furnished.initialized, ?_, furnished.semaphore, ?_⟩
        · apply furnished.layout.setPayloads (furnished.layout.payloads.free isActive)
            (Nat.le_refl _) _ furnished.layout.bare
          rw [NetworkBuffers.used_free]
          exact furnished.layout.owned.takeBack member
        · refine @Stocked.update_block build memory _ _ payload _ furnished.stocked ?_ rfl rfl
          exact fun other isOther holds =>
            (furnished.layout.owned.has_one_owner isOther holds).2 member
      · rw [if_neg member] at returned
        cases returned

/-- A caller uses the payload of a descriptor it holds. -/
theorem Furnished.useData {pxNetworkBuffer : Rsrc} {bytes : List UInt8} {xDataLength : SizeT}
    (furnished : Furnished build memory d b D B)
    (returned : memory.useData build pxNetworkBuffer bytes xDataLength = .ok after) :
    Furnished build after d b D B := by
  rw [BufferMemory.useData] at returned
  cases isPayload : (memory.buffers.descriptors pxNetworkBuffer).pucEthernetBuffer with
  | none =>
      rw [isPayload] at returned
      cases returned
  | some payload =>
      simp only [isPayload] at returned
      by_cases allowed : memory.buffers.Holds pxNetworkBuffer ∧
          (memory.block payload).map List.length = some bytes.length ∧
          build.padding.toNat + xDataLength.toNat ≤ bytes.length
      · rw [if_pos allowed] at returned
        cases returned
        obtain ⟨holds, sameLength, inside⟩ := allowed
        have member := furnished.layout.holds_iff.mp holds
        obtain ⟨old, isBlock, oldFits⟩ := furnished.stocked pxNetworkBuffer member payload isPayload
        have length : old.length = bytes.length := by
          rw [isBlock] at sameLength
          exact Option.some.inj sameLength
        have same : NetworkBuffers.payload (Function.update memory.buffers.descriptors
            pxNetworkBuffer ⟨some payload, xDataLength⟩) =
            NetworkBuffers.payload memory.buffers.descriptors := by
          rw [NetworkBuffers.payload_update]
          exact Function.update_eq_self_iff.mpr isPayload.symm
        have bare := @NetworkBuffers.Layout.bare_update _ d b D B furnished.layout
          pxNetworkBuffer ⟨some payload, xDataLength⟩ fun isNone => nomatch isNone
        refine ⟨furnished.initialized, ?_, furnished.semaphore, ?_⟩
        · exact { furnished.layout with
            owned := same ▸ furnished.layout.owned
            bare := bare }
        · have fits : Fits build xDataLength bytes := by
            refine ⟨length ▸ oldFits.bounded, ?_, .inl inside⟩
            rw [UInt32.toNat_add]
            exact Nat.le_trans (Nat.mod_le _ _) (Nat.add_comm _ _ ▸ inside)
          apply furnished.stocked.update rfl (Function.update_self _ _ _) fits
          intro other isOther different held holds
          have notSame : held ≠ payload := fun isHeld => different
            ((furnished.layout.owned.has_one_owner member isPayload).1 other isOther
              (isHeld ▸ holds))
          exact Function.update_of_ne notSame _ _
      · rw [if_neg allowed] at returned
        cases returned

end Operations

/-! ## Every state -/

/-- The module with descriptors at most, none of which has a payload. -/
structure Unfurnished (memory : BufferMemory) : Prop where
  initialized : memory.buffers.semInitialized = true
  noPool : memory.buffers.xNetworkBufferPool = none
  cleared : ∀ pxNetworkBuffer, memory.buffers.descriptors pxNetworkBuffer = .cleared
  noRaw : memory.buffers.raw = []

/-- What holds between operations: the module is off, or it lacks a pool, or it has both. -/
inductive Steady (build : BufferBuild) (memory : BufferMemory) : Prop where
  | off (off : memory.buffers.Off)
      (cleared : ∀ pxNetworkBuffer, memory.buffers.descriptors pxNetworkBuffer = .cleared)
  | noDescriptors (initialized : memory.buffers.semInitialized = true)
      (noPool : memory.buffers.xNetworkBufferDescriptorPool = none)
  | noPayloads (unfurnished : Unfurnished memory)
  | furnished {d b : Nat} {D B : RsrcPool} (furnished : Furnished build memory d b D B)

section States

variable {build : BufferBuild} {memory after : BufferMemory}

theorem not_holds {pxNetworkBuffer : Rsrc}
    (noPool : memory.buffers.xNetworkBufferDescriptorPool = none) :
    ¬ memory.buffers.Holds pxNetworkBuffer := by
  rintro ⟨handle, -⟩
  rw [noPool] at handle
  cases handle

theorem alloc_noPool {heap : RsrcHeap} {name : String} {length : SizeT}
    (noPool : memory.buffers.xNetworkBufferPool = none) :
    memory.pxRsrcVarAlloc heap name length = .ok (none, memory) := by
  apply alloc_none
  rw [noPool]
  rfl

theorem rawGet_noPool {heap : RsrcHeap} {name : String} {size : SizeT}
    {result : NetworkBufferResult} (noPool : memory.buffers.xNetworkBufferPool = none)
    (returned : memory.operateBuffers build (.rawGet heap name size) = .ok (result, after)) :
    after = memory := by
  simp only [operateBuffers, pucGetNetworkBufferFor, alloc_noPool noPool, Command.ok_bind]
    at returned
  obtain ⟨_, got, returned⟩ := Command.bind_eq_ok.mp returned
  obtain ⟨_, -, got⟩ := Command.bind_eq_ok.mp got
  cases got
  cases returned
  rfl

theorem rawRelease_noRaw {payload : Option Rsrc} {result : NetworkBufferResult}
    (noRaw : memory.buffers.raw = [])
    (returned : memory.operateBuffers build (.rawRelease payload) = .ok (result, after)) :
    after = memory := by
  cases payload with
  | none =>
      cases returned
      rfl
  | some payload =>
      rw [operateBuffers, noRaw, if_neg List.not_mem_nil] at returned
      cases returned

theorem useData_cleared {pxNetworkBuffer : Rsrc} {bytes : List UInt8} {xDataLength : SizeT}
    (cleared : memory.buffers.descriptors pxNetworkBuffer = .cleared) :
    memory.useData build pxNetworkBuffer bytes xDataLength = .error (.buffers .notHeld) := by
  rw [useData, cleared]
  rfl

/-- An operation of a module that is off changes nothing. -/
theorem operate_off {operation : BufferOp} {result : NetworkBufferResult}
    (off : memory.buffers.Off)
    (cleared : ∀ pxNetworkBuffer, memory.buffers.descriptors pxNetworkBuffer = .cleared)
    (other : ∀ environment, operation ≠ .buffers (.initialise environment))
    (returned : memory.operate build operation = .ok (result, after)) : after = memory := by
  cases operation with
  | useData pxNetworkBuffer bytes xDataLength =>
      rw [operate, useData_cleared (cleared pxNetworkBuffer)] at returned
      cases returned
  | buffers operation =>
      rw [operate] at returned
      cases operation with
      | initialise environment => exact absurd rfl (other environment)
      | get environment name size xTimeOutUS =>
          rw [operateBuffers, pxGetNetworkBufferWithDescriptorFor, off.notInitialized] at returned
          cases returned
      | release pxNetworkBuffer =>
          rw [operateBuffers, if_neg (not_holds off.noDescriptors)] at returned
          cases returned
      | resize heap name pxNetworkBuffer size =>
          rw [operateBuffers, if_neg (not_holds off.noDescriptors)] at returned
          cases returned
      | rawGet heap name size => exact rawGet_noPool off.noPayloads returned
      | rawRelease payload => exact rawRelease_noRaw off.noRaw returned

/-- Without a pool of descriptors, none is ever obtained. -/
theorem operate_noDescriptors {operation : BufferOp} {result : NetworkBufferResult}
    (initialized : memory.buffers.semInitialized = true)
    (noPool : memory.buffers.xNetworkBufferDescriptorPool = none)
    (returned : memory.operate build operation = .ok (result, after)) :
    after.buffers.semInitialized = true ∧ after.buffers.xNetworkBufferDescriptorPool = none := by
  have notHeld {pxNetworkBuffer : Rsrc} : ¬ memory.buffers.Holds pxNetworkBuffer :=
    not_holds noPool
  cases operation with
  | useData pxNetworkBuffer bytes xDataLength =>
      rw [operate, useData] at returned
      cases isPayload : (memory.buffers.descriptors pxNetworkBuffer).pucEthernetBuffer with
      | none =>
          simp only [isPayload] at returned
          cases returned
      | some payload =>
          simp only [isPayload] at returned
          rw [if_neg fun allowed => notHeld allowed.1] at returned
          cases returned
  | buffers operation =>
      rw [operate] at returned
      cases operation with
      | initialise environment =>
          rw [operateBuffers, NetworkBuffers.initialise_again initialized] at returned
          cases returned
          exact ⟨initialized, noPool⟩
      | get environment name size xTimeOutUS =>
          obtain ⟨⟨result, last⟩, got, returned⟩ := Command.bind_eq_ok.mp returned
          cases returned
          rcases get_case initialized got with
            ⟨-, rfl⟩ | ⟨value, pxReturn, rsrc, -, isAlloc, -⟩
          · exact ⟨initialized, noPool⟩
          · rw [noPool] at isAlloc
            cases isAlloc
      | release pxNetworkBuffer =>
          rw [operateBuffers, if_neg notHeld] at returned
          cases returned
      | resize heap name pxNetworkBuffer size =>
          rw [operateBuffers, if_neg notHeld] at returned
          cases returned
      | rawGet heap name size =>
          obtain ⟨_, got, returned⟩ := Command.bind_eq_ok.mp returned
          obtain ⟨⟨payload, last⟩, isAlloc, got⟩ := Command.bind_eq_ok.mp got
          obtain ⟨_, -, got⟩ := Command.bind_eq_ok.mp got
          obtain ⟨rsrc, buffers⟩ := NetworkBuffers.varAlloc_rsrc (alloc_buffers isAlloc)
          cases got
          cases returned
          simp only [buffers]
          exact ⟨initialized, noPool⟩
      | rawRelease payload =>
          cases payload with
          | none =>
              cases returned
              exact ⟨initialized, noPool⟩
          | some payload =>
              rw [operateBuffers] at returned
              by_cases member : payload ∈ memory.buffers.raw
              · rw [if_pos member] at returned
                obtain ⟨last, release, returned⟩ := Command.bind_eq_ok.mp returned
                obtain ⟨rsrc, -, freed⟩ := Command.bind_eq_ok.mp (release_buffers release)
                have buffers := Except.ok.inj freed
                cases returned
                simp only [← buffers]
                exact ⟨initialized, noPool⟩
              · rw [if_neg member] at returned
                cases returned

theorem Unfurnished.setCleared (unfurnished : Unfurnished memory) (pxNetworkBuffer : Rsrc) :
    Unfurnished (memory.setDescriptor pxNetworkBuffer .cleared) where
  initialized := unfurnished.initialized
  noPool := unfurnished.noPool
  cleared := by
    intro other
    simp only [setDescriptor, NetworkBuffers.setDescriptor, Function.update_apply]
    split
    · rfl
    · exact unfurnished.cleared other
  noRaw := unfurnished.noRaw

theorem Unfurnished.release {pxNetworkBuffer : Rsrc} (unfurnished : Unfurnished memory)
    (returned : memory.vReleaseNetworkBufferAndDescriptor pxNetworkBuffer = .ok after) :
    Unfurnished after := by
  have isBare : (memory.buffers.descriptors pxNetworkBuffer).pucEthernetBuffer = none := by
    rw [unfurnished.cleared]
    rfl
  rw [vReleaseNetworkBufferAndDescriptor, NetworkBuffers.vReleaseNetworkBufferAndDescriptor,
    isBare] at returned
  have nothing : memory.buffers.vReleaseNetworkBuffer none = .ok memory.buffers := rfl
  rw [nothing, Command.ok_bind] at returned
  obtain ⟨buffers, released, returned⟩ := Command.bind_eq_ok.mp returned
  obtain ⟨rsrc, -, released⟩ := Command.bind_eq_ok.mp (lift_eq_ok.mp released)
  cases returned
  rw [NetworkBuffers.semPost] at released
  split at released
  · cases released
  · cases released
    have after := unfurnished.setCleared pxNetworkBuffer
    exact ⟨after.initialized, after.noPool, after.cleared, after.noRaw⟩

theorem Unfurnished.attachPayload {pxReturn : Rsrc} {heap : RsrcHeap} {name : String}
    {size : SizeT} {result : Option Rsrc} (unfurnished : Unfurnished memory)
    (returned : attachPayload build memory heap name size pxReturn = .ok (result, after)) :
    Unfurnished after := by
  have bare : Unfurnished (memory.setDescriptor pxReturn
      { memory.buffers.descriptors pxReturn with pucEthernetBuffer := none }) := by
    rw [unfurnished.cleared]
    exact unfurnished.setCleared pxReturn
  by_cases asked : 0 < size
  · simp only [BufferMemory.attachPayload, if_pos asked, alloc_noPool unfurnished.noPool,
      Command.ok_bind] at returned
    obtain ⟨_, -, returned⟩ := Command.bind_eq_ok.mp returned
    obtain ⟨last, release, returned⟩ := Command.bind_eq_ok.mp returned
    cases returned
    exact bare.release release
  · rw [BufferMemory.attachPayload, if_neg asked] at returned
    cases returned
    exact bare

theorem releases_of_ok {pxNetworkBuffer : Rsrc} {result : NetworkBufferResult}
    (returned : operateBuffers build memory (.release pxNetworkBuffer) = .ok (result, after)) :
    memory.buffers.Holds pxNetworkBuffer ∧
      memory.vReleaseNetworkBufferAndDescriptor pxNetworkBuffer = .ok after := by
  rw [operateBuffers] at returned
  by_cases holds : memory.buffers.Holds pxNetworkBuffer
  · rw [if_pos holds] at returned
    obtain ⟨last, release, returned⟩ := Command.bind_eq_ok.mp returned
    cases returned
    exact ⟨holds, release⟩
  · rw [if_neg holds] at returned
    cases returned

theorem Unfurnished.operate {operation : BufferOp} {result : NetworkBufferResult}
    (unfurnished : Unfurnished memory)
    (returned : memory.operate build operation = .ok (result, after)) : Unfurnished after := by
  cases operation with
  | useData pxNetworkBuffer bytes xDataLength =>
      rw [BufferMemory.operate, useData_cleared (unfurnished.cleared pxNetworkBuffer)] at returned
      cases returned
  | buffers operation =>
      rw [BufferMemory.operate] at returned
      cases operation with
      | initialise environment =>
          rw [operateBuffers, NetworkBuffers.initialise_again unfurnished.initialized] at returned
          cases returned
          exact unfurnished
      | get environment name size xTimeOutUS =>
          obtain ⟨⟨result, last⟩, got, returned⟩ := Command.bind_eq_ok.mp returned
          cases returned
          rcases get_case unfurnished.initialized got with
            ⟨-, rfl⟩ | ⟨value, pxReturn, rsrc, -, -, attached⟩
          · exact unfurnished
          · have cleared := unfurnished.setCleared pxReturn
            apply Unfurnished.attachPayload _ attached
            exact ⟨cleared.initialized, cleared.noPool, cleared.cleared, cleared.noRaw⟩
      | release pxNetworkBuffer =>
          exact unfurnished.release (releases_of_ok returned).2
      | resize heap name pxNetworkBuffer size =>
          rw [operateBuffers] at returned
          by_cases holds : memory.buffers.Holds pxNetworkBuffer
          · rw [if_pos holds, resize_refused _ (alloc_noPool unfurnished.noPool)] at returned
            obtain ⟨_, resized, returned⟩ := Command.bind_eq_ok.mp returned
            obtain ⟨_, -, resized⟩ := Command.bind_eq_ok.mp resized
            cases resized
            cases returned
            exact unfurnished
          · rw [if_neg holds] at returned
            cases returned
      | rawGet heap name size =>
          rw [rawGet_noPool unfurnished.noPool returned]
          exact unfurnished
      | rawRelease payload =>
          rw [rawRelease_noRaw unfurnished.noRaw returned]
          exact unfurnished

/-- What an initialisation makes of a module that is off. -/
theorem steady_initialise {environment : NetworkBuffers.InitEnvironment} {xReturn : Bool}
    {buffers : NetworkBuffers} (off : memory.buffers.Off)
    (cleared : ∀ pxNetworkBuffer, memory.buffers.descriptors pxNetworkBuffer = .cleared)
    (returned : memory.buffers.xNetworkBuffersInitialise environment = .ok (xReturn, buffers)) :
    Steady build { memory with buffers } := by
  by_cases made : environment.semInitReturn = 0
  · rw [NetworkBuffers.initialise_pools off made] at returned
    obtain ⟨⟨descriptorHandle, rsrc⟩, first, returned⟩ := Command.bind_eq_ok.mp returned
    obtain ⟨⟨payloadHandle, last⟩, second, returned⟩ := Command.bind_eq_ok.mp returned
    cases returned
    have firstCase := @RsrcPools.newPool_case memory.buffers.rsrc environment.descriptorStruct
      environment.descriptors environment.vRsrcOOMfn NetworkBuffers.descriptorPool off.shaped rfl rfl
    rw [rsrc_lift_eq_ok.mp first] at firstCase
    cases firstCase with
    | refused refuses handled shaped => exact .noDescriptors rfl rfl
    | @created creates rsrc D isCreated =>
        have secondCase := @RsrcPools.newPool_case rsrc environment.bufferStruct true
          environment.vRsrcOOMfn NetworkBuffers.payloadPool isCreated.shaped rfl rfl
        rw [rsrc_lift_eq_ok.mp second] at secondCase
        cases secondCase with
        | refused refuses handled shaped => exact .noPayloads ⟨rfl, rfl, cleared, off.noRaw⟩
        | created creates' isCreated' =>
            obtain ⟨initialized, d, b, D, B, layout, semaphore⟩ :=
              off.running isCreated isCreated'
            refine .furnished ⟨initialized, layout, semaphore, ?_⟩
            intro pxNetworkBuffer member payload holds
            have isCleared := cleared pxNetworkBuffer
            simp only [NetworkBuffers.initialised] at holds
            rw [isCleared] at holds
            cases holds
  · rw [NetworkBuffers.initialise_failed off made] at returned
    cases returned
    by_cases positive : 0 < environment.semInitReturn
    · rw [decide_eq_true positive]
      exact .off ⟨rfl, off.noDescriptors, off.noPayloads, off.noSemaphore, off.noRaw, off.shaped⟩
        cleared
    · rw [decide_eq_false positive]
      exact .noDescriptors rfl off.noDescriptors

theorem Furnished.operate {d b : Nat} {D B : RsrcPool} {operation : BufferOp}
    {result : NetworkBufferResult} (furnished : Furnished build memory d b D B)
    (returned : memory.operate build operation = .ok (result, after)) :
    ∃ D' B', Furnished build after d b D' B' := by
  cases operation with
  | useData pxNetworkBuffer bytes xDataLength =>
      obtain ⟨last, used, returned⟩ := Command.bind_eq_ok.mp returned
      cases returned
      exact ⟨D, B, furnished.useData used⟩
  | buffers operation =>
      rw [BufferMemory.operate] at returned
      cases operation with
      | initialise environment =>
          rw [operateBuffers, NetworkBuffers.initialise_again furnished.initialized] at returned
          cases returned
          exact ⟨D, B, furnished⟩
      | get environment name size xTimeOutUS =>
          obtain ⟨⟨result, last⟩, got, returned⟩ := Command.bind_eq_ok.mp returned
          cases returned
          exact furnished.get got
      | release pxNetworkBuffer =>
          obtain ⟨holds, release⟩ := releases_of_ok returned
          exact furnished.release (furnished.layout.holds_iff.mp holds) release
      | resize heap name pxNetworkBuffer size =>
          rw [operateBuffers] at returned
          by_cases holds : memory.buffers.Holds pxNetworkBuffer
          · rw [if_pos holds] at returned
            obtain ⟨⟨result, last⟩, resized, returned⟩ := Command.bind_eq_ok.mp returned
            cases returned
            have outcome := furnished.resize heap name size (furnished.layout.holds_iff.mp holds)
            rw [resized] at outcome
            cases outcome with
            | same isSupported => exact ⟨D, B, furnished⟩
            | resized final resized_iff => exact ⟨D, _, final⟩
          · rw [if_neg holds] at returned
            cases returned
      | rawGet heap name size => exact furnished.rawGet returned
      | rawRelease payload => exact furnished.rawRelease returned

/-- Every operation that returns leaves the module steady. -/
theorem Steady.operate {operation : BufferOp} {result : NetworkBufferResult}
    (steady : Steady build memory)
    (returned : memory.operate build operation = .ok (result, after)) : Steady build after := by
  cases steady with
  | off off cleared =>
      by_cases first : ∃ environment, operation = .buffers (.initialise environment)
      · obtain ⟨environment, rfl⟩ := first
        obtain ⟨⟨xReturn, buffers⟩, run, returned⟩ := Command.bind_eq_ok.mp returned
        cases returned
        exact steady_initialise off cleared (lift_eq_ok.mp run)
      · have other : ∀ environment, operation ≠ .buffers (.initialise environment) :=
          fun environment same => first ⟨environment, same⟩
        rw [operate_off off cleared other returned]
        exact .off off cleared
  | noDescriptors initialized noPool =>
      obtain ⟨later, stillNone⟩ := operate_noDescriptors initialized noPool returned
      exact .noDescriptors later stillNone
  | noPayloads unfurnished => exact .noPayloads (unfurnished.operate returned)
  | furnished furnished =>
      obtain ⟨D', B', later⟩ := furnished.operate returned
      exact .furnished later

theorem Steady.kept (steady : Steady build memory) (operation : BufferOp) :
    Steady build (Command.final ((perform build operation).run memory)) := by
  rw [EStateM.run, perform]
  cases returned : memory.operate build operation with
  | error fault => exact steady
  | ok value =>
      obtain ⟨result, next⟩ := value
      exact steady.operate returned

theorem run_resize {heap : RsrcHeap} {name : String} {pxNetworkBuffer : Rsrc} {size : SizeT}
    (holds : memory.buffers.Holds pxNetworkBuffer) :
    (perform build (.buffers (.resize heap name pxNetworkBuffer size))).run memory =
      match pxResizeNetworkBufferWithDescriptorFor build memory heap name pxNetworkBuffer size with
      | .ok (result, next) => .ok (.descriptor result) next
      | .error fault => .error fault memory := by
  rw [EStateM.run, perform, operate, operateBuffers, if_pos holds]
  cases pxResizeNetworkBufferWithDescriptorFor build memory heap name pxNetworkBuffer size with
  | error fault => rfl
  | ok value => rfl

theorem Unfurnished.supported_iff (unfurnished : Unfurnished memory) (heap : RsrcHeap)
    (name : String) (pxNetworkBuffer : Rsrc) (size : SizeT)
    (holds : memory.buffers.Holds pxNetworkBuffer) :
    Supported build memory (.buffers (.resize heap name pxNetworkBuffer size)) ↔
      ((resizeLength build.padding size).toNat ≠ 0 → build.ndebug = true) := by
  constructor
  · intro supported asked
    exact (supported heap name pxNetworkBuffer size rfl holds).1
      ⟨asked, .inl unfurnished.noPool⟩
  · rintro supported _ _ _ _ ⟨⟩ -
    refine ⟨fun refused => supported refused.1, fun granted => ?_⟩
    obtain ⟨-, -, handle, isHandle, -⟩ := granted
    rw [unfurnished.noPool] at isHandle
    cases isHandle

/-- The resizes that do what they should are those that are supported. -/
theorem Steady.properly_iff (steady : Steady build memory) (operation : BufferOp) :
    Properly build memory operation ((perform build operation).run memory) ↔
      Supported build memory operation := by
  by_cases resizes : ∃ heap name pxNetworkBuffer size,
      operation = .buffers (.resize heap name pxNetworkBuffer size) ∧
        memory.buffers.Holds pxNetworkBuffer
  · obtain ⟨heap, name, pxNetworkBuffer, size, rfl, holds⟩ := resizes
    have properly_iff : Properly build memory (.buffers (.resize heap name pxNetworkBuffer size))
        ((perform build (.buffers (.resize heap name pxNetworkBuffer size))).run memory) ↔
          ResizesProperly build memory pxNetworkBuffer size
            ((perform build (.buffers (.resize heap name pxNetworkBuffer size))).run memory) := by
      constructor
      · exact fun properly => properly heap name pxNetworkBuffer size rfl holds
      · rintro properly _ _ _ _ ⟨⟩ -
        exact properly
    rw [properly_iff, run_resize holds]
    cases steady with
    | off off cleared => exact absurd holds (not_holds off.noDescriptors)
    | noDescriptors initialized noPool => exact absurd holds (not_holds noPool)
    | noPayloads unfurnished =>
        rw [resize_refused _ (alloc_noPool unfurnished.noPool),
          unfurnished.supported_iff heap name pxNetworkBuffer size holds]
        by_cases zero : (resizeLength build.padding size).toNat = 0
        · rw [zero, NetworkBuffers.zero_nothing]
          exact iff_of_true rfl fun asked => absurd rfl asked
        · rw [NetworkBuffers.zero_absent zero]
          cases build.ndebug with
          | false => exact iff_of_false (fun same => nomatch same) fun always => nomatch always zero
          | true => exact iff_of_true rfl fun _ => rfl
    | furnished furnished =>
        rw [furnished.supported_iff heap name pxNetworkBuffer size holds]
        have outcome := furnished.resize heap name size (furnished.layout.holds_iff.mp holds)
        generalize pxResizeNetworkBufferWithDescriptorFor build memory heap name pxNetworkBuffer
          size = run at outcome
        cases outcome with
        | same isSupported => exact iff_of_true rfl isSupported
        | aborts isSupported => exact iff_of_true rfl isSupported
        | fails notAbort notSupported => exact iff_of_false notAbort notSupported
        | resized final resized_iff => exact (and_iff_right rfl).trans resized_iff
  · have never (heap : RsrcHeap) (name : String) (pxNetworkBuffer : Rsrc) (size : SizeT)
        (same : operation = .buffers (.resize heap name pxNetworkBuffer size)) :
        ¬ memory.buffers.Holds pxNetworkBuffer :=
      fun holds => resizes ⟨heap, name, pxNetworkBuffer, size, same, holds⟩
    exact iff_of_true
      (fun heap name pxNetworkBuffer size same holds => absurd holds (never _ _ _ _ same))
      (fun heap name pxNetworkBuffer size same holds => absurd holds (never _ _ _ _ same))

/-- Without padding a descriptor in use has as many bytes of data as its length says. -/
theorem Steady.data_length {pxNetworkBuffer : Rsrc} (steady : Steady build memory)
    (unpadded : build.padding = 0) (holds : memory.buffers.Holds pxNetworkBuffer) :
    (memory.data build pxNetworkBuffer).length =
      (memory.buffers.descriptors pxNetworkBuffer).xDataLength.toNat := by
  have cleared (isCleared : memory.buffers.descriptors pxNetworkBuffer = .cleared) :
      (memory.data build pxNetworkBuffer).length =
        (memory.buffers.descriptors pxNetworkBuffer).xDataLength.toNat := by
    simp only [data, isCleared]
    rfl
  cases steady with
  | off off isCleared => exact cleared (isCleared pxNetworkBuffer)
  | noDescriptors initialized noPool => exact absurd holds (not_holds noPool)
  | noPayloads unfurnished => exact cleared (unfurnished.cleared pxNetworkBuffer)
  | furnished furnished =>
      have member := furnished.layout.holds_iff.mp holds
      cases isPayload : (memory.buffers.descriptors pxNetworkBuffer).pucEthernetBuffer with
      | none =>
          rw [furnished.layout.bare pxNetworkBuffer member isPayload]
          simp only [data, isPayload]
          rfl
      | some payload =>
          obtain ⟨bytes, isBlock, fits⟩ := furnished.stocked pxNetworkBuffer member payload isPayload
          have inside := fits.inside
          rw [unpadded, UInt32.add_zero] at inside
          simp only [data, isPayload, Option.bind_some, isBlock, unpadded]
          rw [List.length_take, List.length_drop]
          exact Nat.min_eq_left inside

end States

/-! ## Runs -/

/-- In every state that is reached without padding, the data of a descriptor in use are as
long as it says. -/
theorem data_length_reached {rsrc : RsrcPools} (shaped : rsrc.Shaped) {build : BufferBuild}
    (unpadded : build.padding = 0) {memory : BufferMemory}
    (reached : Trace.Reached (perform build) (startup rsrc) memory) {pxNetworkBuffer : Rsrc}
    (holds : memory.buffers.Holds pxNetworkBuffer) :
    (memory.data build pxNetworkBuffer).length =
      (memory.buffers.descriptors pxNetworkBuffer).xDataLength.toNat := by
  have steady : Steady build memory := by
    apply reached.invariant (Steady build) (.off (NetworkBuffers.off_startup shaped) fun _ => rfl)
    intro before operation value next isSteady run
    have kept := isSteady.kept operation
    rw [run] at kept
    exact kept
  exact steady.data_length unpadded holds

/-- In every run of the buffers and their users, each resize of a descriptor in use does
what it should exactly if each of them is supported. -/
theorem resize_run_iff {rsrc : RsrcPools} (shaped : rsrc.Shaped) (build : BufferBuild)
    (operations : List BufferOp) :
    (∀ occurrence ∈ Trace.trace (perform build) operations (startup rsrc),
      Properly build occurrence.before occurrence.event occurrence.result) ↔
      ∀ occurrence ∈ Trace.trace (perform build) operations (startup rsrc),
        Supported build occurrence.before occurrence.event :=
  Trace.proper_iff_supported (Steady build) (Supported build) (Properly build)
    (fun _ operation steady => steady.properly_iff operation)
    (fun _ operation steady _ => steady.kept operation)
    (.off (NetworkBuffers.off_startup shaped) fun _ => rfl)

/-- A descriptor of ten bytes, which are set, is resized to fifty bytes. -/
def resizeTen (heap : RsrcHeap) : List BufferOp :=
  [.buffers (.initialise NetworkBuffers.allGranted),
    .buffers (NetworkBuffers.obtainTen ⟨true, false⟩),
    .useData ⟨0, 24⟩ (List.replicate 24 7) 10,
    .buffers (.resize heap "buffer" ⟨0, 24⟩ 50)]

theorem resize_run_iff_resizeTen :
    RsrcPools.startup.Shaped ∧
      ((∀ occurrence ∈ Trace.trace (perform debugBuild) (resizeTen ⟨true, false⟩)
          (startup .startup),
        Properly debugBuild occurrence.before occurrence.event occurrence.result) ↔
        ∀ occurrence ∈ Trace.trace (perform debugBuild) (resizeTen ⟨true, false⟩)
          (startup .startup),
          Supported debugBuild occurrence.before occurrence.event) :=
  ⟨RsrcPools.shaped_startup, resize_run_iff RsrcPools.shaped_startup debugBuild _⟩

/-- A resize whose memory is refused writes to the payload that is not there. -/
theorem absent_payload_cleared :
    ¬ ∀ occurrence ∈ Trace.trace (perform debugBuild) (resizeTen ⟨false, true⟩)
        (startup .startup),
      Properly debugBuild occurrence.before occurrence.event occurrence.result := by
  intro all
  have last := all _ (.tail _ (.tail _ (.tail _ (.head _))))
  have properly := last ⟨false, true⟩ "buffer" ⟨0, 24⟩ 50 rfl (by decide)
  cases properly

end BufferMemory

end RinaSense
