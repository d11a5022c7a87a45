import Guardian.Lib.Run
import Guardian.NodeLink.NodeLinkCodec

namespace Guardian.App

open Word Guardian.NodeLink

def f401NodelinkDefaultHeartbeatMs : U32 := 1000

def nodeStateBoot : U8 := 0x00

inductive NodeLinkAdapterResult
  | ok
  | errorNodeIdZero
  | errorEpochZero
  | errorNotInitialized
  | errorInvalidState
  | errorTransportNotConfigured
  | errorEncode
  | errorTransport
  | errorSequenceExhausted
  deriving DecidableEq, Repr

/-- `transport` says whether a send function is set. -/
structure NodeLinkAdapter where
  transport : Bool
  localState : U8
  senderNodeId : U32
  senderEpoch : U32
  nextSequence : U32
  heartbeatIntervalMs : U32
  elapsedMs : U32
  initialized : U8
  sequenceExhausted : U8
  deriving DecidableEq, Repr

def f401NodelinkStateValid (state : U8) : Prop := state ≤ nodeStateFault

instance (state : U8) : Decidable (f401NodelinkStateValid state) := inferInstanceAs (Decidable (_ ≤ _))

def NodeLinkAdapter.nextFrame (adapter : NodeLinkAdapter) (messageType : U8) : NodeLinkFrame where
  messageType
  flags := nodeLinkSupportedFlags
  nodeState := adapter.localState
  payloadLength := 0
  sequence := adapter.nextSequence
  senderEpoch := adapter.senderEpoch
  senderNodeId := adapter.senderNodeId
  payload := padded 64 []

/-- The result, the frame that the transport accepted and the adapter. `accepts` is the transport's answer. -/
def f401NodelinkSend (adapter : NodeLinkAdapter) (messageType : U8) (accepts : Bool) :
    NodeLinkAdapterResult × Option (List U8) × NodeLinkAdapter :=
  if adapter.initialized = 0 then (.errorNotInitialized, none, adapter)
  else if !adapter.transport then (.errorTransportNotConfigured, none, adapter)
  else if adapter.sequenceExhausted ≠ 0 then (.errorSequenceExhausted, none, adapter)
  else match nodeLinkEncode (adapter.nextFrame messageType) nodeLinkMaxFrame with
    | .error _ => (.errorEncode, none, adapter)
    | .ok encoded =>
      if !accepts then (.errorTransport, none, adapter)
      else if adapter.nextSequence = 0xFFFFFFFF then (.ok, some encoded, { adapter with sequenceExhausted := 1 })
      else (.ok, some encoded, { adapter with nextSequence := adapter.nextSequence + 1 })

def f401NodelinkAdapterInit (adapter : NodeLinkAdapter) (senderNodeId senderEpoch : U32) :
    NodeLinkAdapterResult × NodeLinkAdapter :=
  if senderNodeId = 0 then (.errorNodeIdZero, adapter)
  else if senderEpoch = 0 then (.errorEpochZero, adapter)
  else
    (.ok,
      { transport := false
        localState := nodeStateBoot
        senderNodeId
        senderEpoch
        nextSequence := 1
        heartbeatIntervalMs := f401NodelinkDefaultHeartbeatMs
        elapsedMs := 0
        initialized := 1
        sequenceExhausted := 0 })

/-- `configured` says whether the given transport has a send function. -/
def f401NodelinkAdapterSetTransport (adapter : NodeLinkAdapter) (configured : Bool) :
    NodeLinkAdapterResult × NodeLinkAdapter :=
  if adapter.initialized = 0 then (.errorNotInitialized, adapter)
  else if !configured then (.errorTransportNotConfigured, adapter)
  else (.ok, { adapter with transport := configured })

def f401NodelinkAdapterSetState (adapter : NodeLinkAdapter) (state : U8) : NodeLinkAdapterResult × NodeLinkAdapter :=
  if adapter.initialized = 0 then (.errorNotInitialized, adapter)
  else if ¬ f401NodelinkStateValid state then (.errorInvalidState, adapter)
  else (.ok, { adapter with localState := state })

def f401NodelinkAdapterTick1ms (adapter : NodeLinkAdapter) : NodeLinkAdapterResult × NodeLinkAdapter :=
  if adapter.initialized = 0 then (.errorNotInitialized, adapter)
  else if adapter.elapsedMs < adapter.heartbeatIntervalMs then
    (.ok, { adapter with elapsedMs := adapter.elapsedMs + 1 })
  else (.ok, adapter)

def f401NodelinkAdapterSendHello (adapter : NodeLinkAdapter) (accepts : Bool) :
    NodeLinkAdapterResult × Option (List U8) × NodeLinkAdapter :=
  f401NodelinkSend adapter nodeLinkMessageHello accepts

def f401NodelinkAdapterPoll (adapter : NodeLinkAdapter) (accepts : Bool) :
    NodeLinkAdapterResult × Option (List U8) × NodeLinkAdapter :=
  if adapter.initialized = 0 then (.errorNotInitialized, none, adapter)
  else if adapter.elapsedMs < adapter.heartbeatIntervalMs then (.ok, none, adapter)
  else
    let sent := f401NodelinkSend adapter nodeLinkMessageHeartbeat accepts
    if sent.1 = .ok then (sent.1, sent.2.1, { sent.2.2 with elapsedMs := 0 }) else sent

inductive NodeLinkAdapterCall
  | setTransport (configured : Bool)
  | setState (state : U8)
  | tick1ms
  | sendHello (accepts : Bool)
  | poll (accepts : Bool)

/-- The adapter and the frames that its transport has accepted, in order. -/
structure NodeLinkSender where
  adapter : NodeLinkAdapter
  sent : List (List U8)

def NodeLinkSender.step (sender : NodeLinkSender) : NodeLinkAdapterCall → NodeLinkSender
  | .setTransport configured => ⟨(f401NodelinkAdapterSetTransport sender.adapter configured).2, sender.sent⟩
  | .setState state => ⟨(f401NodelinkAdapterSetState sender.adapter state).2, sender.sent⟩
  | .tick1ms => ⟨(f401NodelinkAdapterTick1ms sender.adapter).2, sender.sent⟩
  | .sendHello accepts =>
    let called := f401NodelinkAdapterSendHello sender.adapter accepts
    ⟨called.2.2, sender.sent ++ called.2.1.toList⟩
  | .poll accepts =>
    let called := f401NodelinkAdapterPoll sender.adapter accepts
    ⟨called.2.2, sender.sent ++ called.2.1.toList⟩

def NodeLinkSender.after (sender : NodeLinkSender) (calls : List NodeLinkAdapterCall) : NodeLinkSender :=
  Run.after NodeLinkSender.step calls sender

def NodeLinkAdapter.advanced (adapter : NodeLinkAdapter) : NodeLinkAdapter :=
  if adapter.nextSequence = 0xFFFFFFFF then { adapter with sequenceExhausted := 1 }
  else { adapter with nextSequence := adapter.nextSequence + 1 }

theorem f401NodelinkSend_cases (adapter : NodeLinkAdapter) (messageType : U8) (accepts : Bool) :
    ((f401NodelinkSend adapter messageType accepts).1 ≠ .ok ∧
      (f401NodelinkSend adapter messageType accepts).2 = (none, adapter)) ∨
    (adapter.sequenceExhausted = 0 ∧ (adapter.nextFrame messageType).Encodable ∧
      f401NodelinkSend adapter messageType accepts =
        (.ok, some (adapter.nextFrame messageType).wire, adapter.advanced)) := by
  have kept {result : NodeLinkAdapterResult} (failure : result ≠ .ok) (rest : Prop) :
      ((result, (none : Option (List U8)), adapter).1 ≠ .ok ∧ (result, (none : Option (List U8)), adapter).2 =
        (none, adapter)) ∨ rest := Or.inl ⟨failure, rfl⟩
  unfold f401NodelinkSend
  by_cases missing : adapter.initialized = 0
  · rw [if_pos missing]
    exact kept (by decide) _
  rw [if_neg missing]
  by_cases unset : (!adapter.transport) = true
  · rw [if_pos unset]
    exact kept (by decide) _
  rw [if_neg unset]
  by_cases exhausted : adapter.sequenceExhausted ≠ 0
  · rw [if_pos exhausted]
    exact kept (by decide) _
  rw [if_neg exhausted]
  cases encoded : nodeLinkEncode (adapter.nextFrame messageType) nodeLinkMaxFrame with
  | error => exact kept (by decide) _
  | ok bytes =>
    obtain ⟨encodable, -, rfl⟩ := nodeLinkEncode_ok.mp encoded
    cases accepts with
    | false => exact kept (by decide) _
    | true =>
      refine Or.inr ⟨not_not.mp exhausted, encodable, ?_⟩
      unfold NodeLinkAdapter.advanced
      by_cases last : adapter.nextSequence = 0xFFFFFFFF
      · simp [last]
      · dsimp only
        rw [if_neg (by decide), if_neg last, if_neg last]

/-- The frames are sent by one node in one epoch, and numbered from 1 on. -/
structure NumberedFrames (nodeId epoch : U32) (frames : List NodeLinkFrame) : Prop where
  encodable : ∀ frame ∈ frames, frame.Encodable ∧ frame.payload = padded 64 [] ∧ frame.payloadLength = 0
  sender : ∀ frame ∈ frames, frame.senderNodeId = nodeId ∧ frame.senderEpoch = epoch
  numbered : frames.map (fun frame => frame.sequence.toNat) = List.range' 1 frames.length

theorem NumberedFrames.append {nodeId epoch : U32} {frames : List NodeLinkFrame}
    (numbered : NumberedFrames nodeId epoch frames) {frame : NodeLinkFrame} (encodable : frame.Encodable)
    (payload : frame.payload = padded 64 [] ∧ frame.payloadLength = 0)
    (sender : frame.senderNodeId = nodeId ∧ frame.senderEpoch = epoch)
    (next : frame.sequence.toNat = frames.length + 1) : NumberedFrames nodeId epoch (frames ++ [frame]) := by
  constructor
  · intro other member
    rcases List.mem_append.mp member with member | member
    · exact numbered.encodable other member
    · rw [List.mem_singleton.mp member]
      exact ⟨encodable, payload⟩
  · intro other member
    rcases List.mem_append.mp member with member | member
    · exact numbered.sender other member
    · rw [List.mem_singleton.mp member]
      exact sender
  · rw [List.map_append, numbered.numbered, List.length_append, List.length_singleton, List.range'_concat]
    simp [next, Nat.add_comm]

/-- What holds of the adapter and of what it has sent since its initialisation. -/
structure NodeLinkSender.Sound (nodeId epoch : U32) (sender : NodeLinkSender) : Prop where
  identity : sender.adapter.senderNodeId = nodeId ∧ sender.adapter.senderEpoch = epoch
  frames : ∃ frames, NumberedFrames nodeId epoch frames ∧ sender.sent = frames.map NodeLinkFrame.wire
  next : sender.adapter.sequenceExhausted = 0 → sender.adapter.nextSequence.toNat = sender.sent.length + 1
  last : sender.sent.length < 2 ^ 32

structure NodeLinkAdapter.SameCounter (other adapter : NodeLinkAdapter) : Prop where
  senderNodeId : other.senderNodeId = adapter.senderNodeId
  senderEpoch : other.senderEpoch = adapter.senderEpoch
  nextSequence : other.nextSequence = adapter.nextSequence
  sequenceExhausted : other.sequenceExhausted = adapter.sequenceExhausted

theorem f401NodelinkAdapterSetTransport_counter (adapter : NodeLinkAdapter) (configured : Bool) :
    (f401NodelinkAdapterSetTransport adapter configured).2.SameCounter adapter := by
  unfold f401NodelinkAdapterSetTransport
  split_ifs <;> exact ⟨rfl, rfl, rfl, rfl⟩

theorem f401NodelinkAdapterSetState_counter (adapter : NodeLinkAdapter) (state : U8) :
    (f401NodelinkAdapterSetState adapter state).2.SameCounter adapter := by
  unfold f401NodelinkAdapterSetState
  split_ifs <;> exact ⟨rfl, rfl, rfl, rfl⟩

theorem f401NodelinkAdapterTick1ms_counter (adapter : NodeLinkAdapter) :
    (f401NodelinkAdapterTick1ms adapter).2.SameCounter adapter := by
  unfold f401NodelinkAdapterTick1ms
  split_ifs <;> exact ⟨rfl, rfl, rfl, rfl⟩

section Steps

variable {nodeId epoch : U32} {sender : NodeLinkSender}

theorem NodeLinkSender.Sound.changed {adapter other : NodeLinkAdapter} {sent : List (List U8)}
    (sound : NodeLinkSender.Sound nodeId epoch ⟨adapter, sent⟩) (same : other.SameCounter adapter) :
    NodeLinkSender.Sound nodeId epoch ⟨other, sent⟩ := by
  obtain ⟨node, started, next, exhausted⟩ := same
  refine ⟨?_, sound.frames, ?_, sound.last⟩
  · dsimp only
    rw [node, started]
    exact sound.identity
  · dsimp only
    rw [next, exhausted]
    exact sound.next

theorem NodeLinkSender.Sound.advanced (sound : sender.Sound nodeId epoch) {messageType : U8}
    (open_ : sender.adapter.sequenceExhausted = 0) (encodable : (sender.adapter.nextFrame messageType).Encodable) :
    NodeLinkSender.Sound nodeId epoch
      ⟨sender.adapter.advanced, sender.sent ++ [(sender.adapter.nextFrame messageType).wire]⟩ := by
  obtain ⟨frames, numbered, sent⟩ := sound.frames
  have next := sound.next open_
  have counted : frames.length = sender.sent.length := by rw [sent, List.length_map]
  have bound := sender.adapter.nextSequence.isLt
  refine ⟨?_, ⟨frames ++ [sender.adapter.nextFrame messageType], ?_, ?_⟩, ?_, ?_⟩
  · unfold NodeLinkAdapter.advanced
    split <;> exact sound.identity
  · exact numbered.append encodable ⟨rfl, rfl⟩ sound.identity (by rw [counted]; exact next)
  · rw [List.map_append, sent, List.map_singleton]
  · unfold NodeLinkAdapter.advanced
    by_cases last : sender.adapter.nextSequence = 0xFFFFFFFF
    · simp [last]
    · intro _
      have below : sender.adapter.nextSequence.toNat ≠ 2 ^ 32 - 1 := fun same => last (BitVec.eq_of_toNat_eq same)
      have raised : (sender.adapter.nextSequence + 1).toNat = sender.adapter.nextSequence.toNat + 1 := by
        have one : (1 : U32).toNat = 1 := rfl
        rw [BitVec.toNat_add, one]
        omega
      simp only [last, if_false, raised, next, List.length_append, List.length_singleton]
  · rw [List.length_append, List.length_singleton]
    omega

theorem NodeLinkSender.Sound.send (sound : sender.Sound nodeId epoch) (messageType : U8) (accepts : Bool) :
    let called := f401NodelinkSend sender.adapter messageType accepts
    NodeLinkSender.Sound nodeId epoch ⟨called.2.2, sender.sent ++ called.2.1.toList⟩ := by
  intro called
  rcases f401NodelinkSend_cases sender.adapter messageType accepts with ⟨-, kept⟩ | ⟨open_, encodable, same⟩
  · simpa [called, kept] using sound
  · simpa [called, same] using sound.advanced open_ encodable

theorem NodeLinkSender.Sound.poll (sound : sender.Sound nodeId epoch) (accepts : Bool) :
    let called := f401NodelinkAdapterPoll sender.adapter accepts
    NodeLinkSender.Sound nodeId epoch ⟨called.2.2, sender.sent ++ called.2.1.toList⟩ := by
  dsimp only [f401NodelinkAdapterPoll]
  have sent := sound.send nodeLinkMessageHeartbeat accepts
  split_ifs
  · simpa using sound
  · simpa using sound
  · exact sent.changed ⟨rfl, rfl, rfl, rfl⟩
  · exact sent

theorem NodeLinkSender.Sound.step (sound : sender.Sound nodeId epoch) (call : NodeLinkAdapterCall) :
    (sender.step call).Sound nodeId epoch := by
  cases call with
  | setTransport configured => exact sound.changed (f401NodelinkAdapterSetTransport_counter _ _)
  | setState state => exact sound.changed (f401NodelinkAdapterSetState_counter _ _)
  | tick1ms => exact sound.changed (f401NodelinkAdapterTick1ms_counter _)
  | sendHello accepts => exact sound.send nodeLinkMessageHello accepts
  | poll accepts => exact sound.poll accepts

theorem NodeLinkSender.Sound.after (sound : sender.Sound nodeId epoch) (calls : List NodeLinkAdapterCall) :
    (sender.after calls).Sound nodeId epoch := by
  have preserved : ∀ (sender : NodeLinkSender) call, sender.Sound nodeId epoch → (sender.step call).Sound nodeId epoch :=
    fun _ call sound => sound.step call
  exact Run.after_invariant preserved sound calls

theorem f401NodelinkAdapterInit_sound {before adapter : NodeLinkAdapter}
    (configured : f401NodelinkAdapterInit before nodeId epoch = (.ok, adapter)) :
    NodeLinkSender.Sound nodeId epoch ⟨adapter, []⟩ := by
  unfold f401NodelinkAdapterInit at configured
  split_ifs at configured
  · cases (Prod.mk.inj configured).1
  · cases (Prod.mk.inj configured).1
  · obtain ⟨-, rfl⟩ := Prod.mk.inj configured
    exact ⟨⟨rfl, rfl⟩, ⟨[], ⟨by simp, by simp, rfl⟩, rfl⟩, fun _ => rfl, by simp⟩

end Steps

end Guardian.App
