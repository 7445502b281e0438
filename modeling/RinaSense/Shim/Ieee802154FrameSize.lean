import RinaSense.Shim.Ieee802154RoundTrip

/-!
# The size of IEEE 802.15.4 frames

What is queued of a data unit that was accepted: one byte less than its length byte announces,
and more than the radio of a receiver takes if the data unit is longer than 118 bytes.
-/

namespace RinaSense

open Command

/-- A frame for the driver: a length byte, the MAC header and an SDU. It fits its block, the
length byte announces what is behind it, and a receiver takes that much. -/
structure SoundFrame (sent : NetworkBufferDescriptor) (sdu storage : List UInt8)
    (announced : UInt8) : Prop where
  block : sent.pucEthernetBuffer = some storage
  fits : sent.xDataLength.toNat ≤ storage.length
  whole : sent.xDataLength.toNat = 1 + hdrLen.toNat + sdu.length
  announces : storage.head? = some announced
  exact : sent.xDataLength.toNat = 1 + announced.toNat
  accepted : announced.toNat ≤ ieee802154MaxFrameSize

/-- The event of a call queues a sound frame. -/
def QueuesSoundFrame (node after : Node) (sdu : List UInt8) : Prop :=
  ∃ frame sent storage announced, FrameQueued node after frame sent ∧
    SoundFrame sent sdu storage announced

/-- What the radio sends for the event of a call is kept by every receiver. -/
def QueuesReceivedFrame (node after : Node) : Prop :=
  ∃ frame sent bytes, FrameQueued node after frame sent ∧ radioFrame sent = some bytes ∧
    ∀ receiver, ∃ kept, (espIeee802154ReceiveDone bytes).run receiver = .ok (some kept) receiver

/-- Which frame was queued is determined. -/
theorem FrameQueued.unique {node after : Node} {frame other : BufferId}
    {sent descriptor : NetworkBufferDescriptor} (queued : FrameQueued node after frame sent)
    (another : FrameQueued node after other descriptor) : descriptor = sent := by
  have last := List.append_cancel_left (another.events.symm.trans queued.events)
  injection last with event
  injection event with frames
  subst frames
  exact Option.some.inj (another.stored.symm.trans queued.stored)

/-- The first byte of what the radio sends is the one in front of the block. -/
theorem head?_of_radioFrame {sent : NetworkBufferDescriptor} {storage bytes : List UInt8}
    (block : sent.pucEthernetBuffer = some storage) (radio : radioFrame sent = some bytes) :
    storage.head? = bytes.head? := by
  cases storage with
  | nil => simp [radioFrame, block] at radio
  | cons announced storage =>
      simp only [radioFrame, block, Option.bind_eq_bind, Option.bind_some, List.head?_cons] at radio
      split at radio
      · cases radio
        rfl
      · cases radio

section Accepted

variable {node after : Node} {frame : BufferId} {sent : NetworkBufferDescriptor} {sdu : List UInt8}

/-- A frame with the length of header and SDU in front is longer than what is queued. -/
theorem not_queuesSoundFrame (queued : FrameQueued node after frame sent) (short : sdu.length ≤ 127)
    (length : sent.xDataLength.toNat = 9 + sdu.length)
    (radio : radioFrame sent = some (ieee802154Frame (lastCleared sdu))) :
    ¬ QueuesSoundFrame node after sdu := by
  rintro ⟨other, descriptor, storage, announced, another, sound⟩
  rw [queued.unique another] at sound
  have head := (head?_of_radioFrame sound.block radio).symm.trans sound.announces
  have said : announced.toNat = 9 + sdu.length := by
    rw [← Option.some.inj head, lastCleared_length]
    exact UInt8.toNat_ofNat_of_lt' (by simp only [UInt8.size]; omega)
  have exact' := sound.exact
  rw [length, said] at exact'
  omega

/-- A receiver takes the frame of an SDU of up to 118 bytes. -/
theorem queuesReceivedFrame_iff (queued : FrameQueued node after frame sent)
    (short : sdu.length ≤ 127)
    (radio : radioFrame sent = some (ieee802154Frame (lastCleared sdu))) :
    QueuesReceivedFrame node after ↔ sdu.length ≤ 118 := by
  have cleared : (lastCleared sdu).length ≤ 127 := by rwa [lastCleared_length]
  constructor
  · rintro ⟨other, descriptor, bytes, another, transmitted, keeps⟩
    rw [queued.unique another, radio] at transmitted
    cases transmitted
    obtain ⟨kept, run⟩ := keeps Node.blank
    rw [run_receiveDone cleared, lastCleared_length] at run
    by_contra long
    rw [if_neg long] at run
    cases run
  · intro fits
    refine ⟨frame, sent, _, queued, radio, fun receiver =>
      ⟨ieee802154Header ++ lastCleared sdu, ?_⟩⟩
    rw [run_receiveDone cleared, lastCleared_length, if_pos fits]

end Accepted

/-- No data unit that is accepted gives a sound frame, and what is sent of it is received up to
118 bytes only. -/
theorem ieee802154_frame_unsound {node after : Node} {pxDu : DuId} {sdu : List UInt8}
    {outcomes : Outcomes} {pxData : Bool} {xId : PortId}
    (holds : (readPayload pxDu).run node = .ok sdu node)
    (accepted : (xShimIEEE802154SDUWrite outcomes pxData xId pxDu).run node = .ok true after) :
    ¬ QueuesSoundFrame node after sdu ∧
      (QueuesReceivedFrame node after ↔ sdu.length ≤ 118) := by
  obtain ⟨du, buffer, descriptor, owns, held⟩ := owns_of_readPayload holds
  obtain ⟨-, queues, flow, frames⟩ := ieee802154Frames_of_sent owns accepted
  obtain ⟨final, sent, run, isSent⟩ := run_shimIeee802154SduWrite owns held frames
  rw [run] at accepted
  injection accepted with _ same
  subst same
  obtain ⟨queued, length, radio⟩ := isSent queues
  obtain ⟨size, -⟩ := ieee802154_block frames.short
  have short : sdu.length ≤ 127 := by
    have small := frames.short
    rw [UInt32.lt_iff_toNat_lt, ← payloadOf_length held] at small
    exact Nat.le_of_not_lt small
  rw [← length, ← payloadOf_length held] at size
  exact ⟨not_queuesSoundFrame queued short size radio, queuesReceivedFrame_iff queued short radio⟩

theorem ieee802154_frame_unsound_byte :
    ∃ after,
      (xShimIEEE802154SDUWrite ⟨true, true, true, true, true⟩ true 1 0).run
        (sendingNode ⟨[7], by decide⟩) = .ok true after ∧
      ¬ QueuesSoundFrame (sendingNode ⟨[7], by decide⟩) after [7] ∧
      (QueuesReceivedFrame (sendingNode ⟨[7], by decide⟩) after ↔
        ([7] : List UInt8).length ≤ 118) := by
  obtain ⟨holds, after, -, run, -⟩ := sendingNode_accepted ⟨[7], by decide⟩ (by decide)
  exact ⟨after, run, ieee802154_frame_unsound holds run⟩

/-- A data unit of 119 bytes is accepted, and every receiver drops its frame. -/
theorem long_frame_dropped :
    ∃ after,
      (xShimIEEE802154SDUWrite ⟨true, true, true, true, true⟩ true 1 0).run
        (sendingNode ⟨List.replicate 119 7, by decide⟩) = .ok true after ∧
      ¬ QueuesSoundFrame (sendingNode ⟨List.replicate 119 7, by decide⟩) after
        (List.replicate 119 7) ∧
      ¬ QueuesReceivedFrame (sendingNode ⟨List.replicate 119 7, by decide⟩) after := by
  obtain ⟨-, after, sent, run, queued, length, radio⟩ :=
    sendingNode_accepted ⟨List.replicate 119 7, by decide⟩ (by decide)
  refine ⟨after, run, not_queuesSoundFrame queued (by decide) length radio, ?_⟩
  rw [queuesReceivedFrame_iff queued (by decide) radio]
  decide

end RinaSense
