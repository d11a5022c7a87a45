import Guardian.Lib.Layout
import Guardian.NodeLink.NodeLinkCodec
import Guardian.NodeLink.SignedEnvelope

namespace Guardian.NodeLink

open Word ByteString

def nodeLinkSignatureEd25519 : U8 := 0x01
def nodeLinkEd25519SignatureSize : Nat := 64
def nodeLinkAuthMaxPeers : Nat := 8

def nodeLinkAuthDomain : List U8 :=
  [0x47, 0x55, 0x41, 0x52, 0x44, 0x49, 0x41, 0x4E, 0x2D, 0x46, 0x34, 0x30, 0x31, 0x3A, 0x4E, 0x4F, 0x44, 0x45,
   0x4C, 0x49, 0x4E, 0x4B, 0x3A, 0x41, 0x55, 0x54, 0x48, 0x3A, 0x56, 0x31]

def nodeLinkAuthTranscriptFixedSize : Nat := 56
def nodeLinkAuthTranscriptMaxSize : Nat := nodeLinkAuthTranscriptFixedSize + nodeLinkMaxPayload

inductive NodeLinkVerifyResult
  | verified
  | signatureInvalid
  | keyUnknown
  | keyRevoked
  | algorithmUnsupported
  | providerUnavailable
  | providerFailure
  deriving DecidableEq, Repr

inductive NodeLinkAuthResult
  | ok
  | errorUnconfigured
  | errorPeerUnknown
  | errorKeyUnknown
  | errorKeyRevoked
  | errorAlgorithmUnsupported
  | errorTranscript
  | errorSignatureInvalid
  | errorProviderUnavailable
  | errorProviderFailure
  deriving DecidableEq, Repr

structure NodeLinkPeerIdentity where
  senderNodeId : U32
  producerId : U32
  keyId : U32
  signatureAlgorithm : U8
  deriving DecidableEq

structure NodeLinkAuthenticatedMessage where
  frame : NodeLinkFrame
  producerId : U32
  keyId : U32
  signatureAlgorithm : U8
  deriving DecidableEq

/-- The algorithm, the producer, its key, the transcript and the signature, as the provider is given them. -/
abbrev NodeLinkVerifySignature := U8 → U32 → U32 → List U8 → List U8 → NodeLinkVerifyResult

structure NodeLinkAuthConfig where
  verifySignature : Option NodeLinkVerifySignature
  peers : List NodeLinkPeerIdentity
  requiredSignatureAlgorithm : U8

/-- `peers` are the first `peer_count` entries. -/
structure NodeLinkAuthenticator where
  verifySignature : Option NodeLinkVerifySignature
  peers : List NodeLinkPeerIdentity
  requiredSignatureAlgorithm : U8
  configured : U8

def nodeLinkAuthenticatorInit : NodeLinkAuthenticator := ⟨none, [], 0, 0⟩

def nodeLinkAuthMessageTypeValid (messageType : U8) : Bool :=
  messageType == nodeLinkMessageHello || messageType == nodeLinkMessageChallenge ||
    messageType == nodeLinkMessageResponse || messageType == nodeLinkMessageHeartbeat ||
    messageType == nodeLinkMessageHealth || messageType == nodeLinkMessageSupervisionState ||
    messageType == nodeLinkMessageError

def nodeLinkAuthStateValid (nodeState : U8) : Bool := nodeState ≤ nodeStateFault

def nodeLinkAuthResolvePeer (authenticator : NodeLinkAuthenticator) (senderNodeId : U32) :
    Option NodeLinkPeerIdentity := authenticator.peers.find? (·.senderNodeId == senderNodeId)

def nodeLinkAuthMapVerifyResult : NodeLinkVerifyResult → NodeLinkAuthResult
  | .verified => .ok
  | .signatureInvalid => .errorSignatureInvalid
  | .keyUnknown => .errorKeyUnknown
  | .keyRevoked => .errorKeyRevoked
  | .algorithmUnsupported => .errorAlgorithmUnsupported
  | .providerUnavailable => .errorProviderUnavailable
  | .providerFailure => .errorProviderFailure

/-- The checks of each peer, in order; a peer is compared with those after it. -/
def nodeLinkAuthCheckPeers (requiredSignatureAlgorithm : U8) : List NodeLinkPeerIdentity → NodeLinkAuthResult
  | [] => .ok
  | peer :: peers =>
    if peer.senderNodeId = 0 ∨ peer.producerId = 0 ∨ peer.keyId = 0 then .errorUnconfigured
    else if peer.signatureAlgorithm ≠ requiredSignatureAlgorithm then .errorAlgorithmUnsupported
    else if peers.any (·.senderNodeId == peer.senderNodeId) then .errorUnconfigured
    else nodeLinkAuthCheckPeers requiredSignatureAlgorithm peers

def nodeLinkAuthenticatorConfigure (config : NodeLinkAuthConfig) : NodeLinkAuthResult × NodeLinkAuthenticator :=
  if config.verifySignature.isNone then (.errorUnconfigured, nodeLinkAuthenticatorInit)
  else if config.peers.length > nodeLinkAuthMaxPeers then (.errorUnconfigured, nodeLinkAuthenticatorInit)
  else if config.requiredSignatureAlgorithm ≠ nodeLinkSignatureEd25519 then
    (.errorAlgorithmUnsupported, nodeLinkAuthenticatorInit)
  else match nodeLinkAuthCheckPeers config.requiredSignatureAlgorithm config.peers with
    | .ok => (.ok, ⟨config.verifySignature, config.peers, config.requiredSignatureAlgorithm, 1⟩)
    | failure => (failure, nodeLinkAuthenticatorInit)

def nodeLinkBuildAuthTranscript (frame : NodeLinkFrame) (producerId keyId : U32) (capacity : Nat) :
    Except NodeLinkAuthResult (List U8) :=
  if frame.flags ≠ nodeLinkSupportedFlags ∨ !nodeLinkAuthMessageTypeValid frame.messageType ∨
      !nodeLinkAuthStateValid frame.nodeState ∨ frame.sequence = 0 ∨ frame.senderEpoch = 0 ∨
      frame.senderNodeId = 0 ∨ producerId = 0 ∨ keyId = 0 ∨ frame.payloadLength.toNat > nodeLinkMaxPayload then
    .error .errorTranscript
  else
    let required := nodeLinkAuthTranscriptFixedSize + frame.payloadLength.toNat
    let output := nodeLinkAuthDomain ++ [nodeLinkVersion, frame.messageType, frame.flags, frame.nodeState] ++
      putU32Be frame.sequence ++ putU32Be frame.senderEpoch ++ putU32Be frame.senderNodeId ++ putU32Be producerId ++
      putU32Be keyId ++ putU16Be frame.payloadLength ++ frame.body
    if capacity < required then .error .errorTranscript
    else if output.length ≠ required then .error .errorTranscript
    else .ok output

def nodeLinkAuthenticate (authenticator : NodeLinkAuthenticator) (frame : NodeLinkFrame) (signature : List U8) :
    Except NodeLinkAuthResult NodeLinkAuthenticatedMessage :=
  if authenticator.configured = 0 then .error .errorUnconfigured
  else match authenticator.verifySignature with
    | none => .error .errorUnconfigured
    | some verifySignature =>
      if signature.length ≠ nodeLinkEd25519SignatureSize then .error .errorSignatureInvalid
      else match nodeLinkAuthResolvePeer authenticator frame.senderNodeId with
        | none => .error .errorPeerUnknown
        | some peer =>
          if peer.signatureAlgorithm ≠ authenticator.requiredSignatureAlgorithm then .error .errorAlgorithmUnsupported
          else match nodeLinkBuildAuthTranscript frame peer.producerId peer.keyId nodeLinkAuthTranscriptMaxSize with
            | .error result => .error result
            | .ok transcript =>
              match nodeLinkAuthMapVerifyResult
                  (verifySignature peer.signatureAlgorithm peer.producerId peer.keyId transcript signature) with
              | .ok => .ok ⟨frame, peer.producerId, peer.keyId, peer.signatureAlgorithm⟩
              | failure => .error failure

/-- What a transcript binds: the whole frame, and the producer and key of the peer. -/
structure NodeLinkBinding where
  messageType : U8
  flags : U8
  nodeState : U8
  sequence : U32
  senderEpoch : U32
  senderNodeId : U32
  producerId : U32
  keyId : U32
  payloadLength : U16
  body : List U8
  deriving DecidableEq

def NodeLinkFrame.binding (frame : NodeLinkFrame) (producerId keyId : U32) : NodeLinkBinding :=
  ⟨frame.messageType, frame.flags, frame.nodeState, frame.sequence, frame.senderEpoch, frame.senderNodeId, producerId,
    keyId, frame.payloadLength, frame.body⟩

def NodeLinkBinding.fields (binding : NodeLinkBinding) : List (List U8) :=
  [nodeLinkAuthDomain, [nodeLinkVersion], [binding.messageType], [binding.flags], [binding.nodeState],
    putU32Be binding.sequence, putU32Be binding.senderEpoch, putU32Be binding.senderNodeId, putU32Be binding.producerId,
    putU32Be binding.keyId, putU16Be binding.payloadLength]

def NodeLinkBinding.transcript (binding : NodeLinkBinding) : List U8 := binding.fields.flatten ++ binding.body

theorem NodeLinkBinding.transcript_injective : Function.Injective NodeLinkBinding.transcript := by
  intro left right same
  obtain ⟨fields, body⟩ := fields_last_eq (by rfl) same
  simp only [NodeLinkBinding.fields, List.cons.injEq, and_true, true_and] at fields
  obtain ⟨type, flags, state, sequence, epoch, sender, producer, key, length⟩ := fields
  have words := And.intro (putU32Be_injective sequence) (putU32Be_injective epoch)
  have identities := And.intro (putU32Be_injective producer) (putU32Be_injective key)
  cases left
  cases right
  simp only [NodeLinkBinding.mk.injEq]
  exact ⟨type, flags, state, words.1, words.2, putU32Be_injective sender, identities.1, identities.2,
    putU16Be_injective length, body⟩

theorem nodeLinkTranscript_ne_gse (binding : NodeLinkBinding) (rest : List U8) :
    binding.transcript ≠ gseDomain ++ rest := by
  intro same
  have domains := congrArg (List.take 24) same
  revert domains
  show ¬ nodeLinkAuthDomain.take 24 = gseDomain.take 24
  decide

theorem nodeLinkBuildAuthTranscript_ok {frame : NodeLinkFrame} {producerId keyId : U32} {capacity : Nat}
    {transcript : List U8} (built : nodeLinkBuildAuthTranscript frame producerId keyId capacity = .ok transcript) :
    transcript = (frame.binding producerId keyId).transcript := by
  unfold nodeLinkBuildAuthTranscript at built
  obtain ⟨-, built⟩ := Check.accepted built
  dsimp only at built
  obtain ⟨-, built⟩ := Check.accepted built
  obtain ⟨-, built⟩ := Check.accepted built
  cases built
  simp [NodeLinkBinding.transcript, NodeLinkBinding.fields, NodeLinkFrame.binding]

theorem nodeLinkAuthCheckPeers_distinct {required : U8} {peers : List NodeLinkPeerIdentity}
    (checked : nodeLinkAuthCheckPeers required peers = .ok) :
    peers.Pairwise fun left right => left.senderNodeId ≠ right.senderNodeId := by
  induction peers with
  | nil => exact List.Pairwise.nil
  | cons peer peers ih =>
    rw [nodeLinkAuthCheckPeers] at checked
    obtain ⟨-, checked⟩ := Check.passed checked (by decide)
    obtain ⟨-, checked⟩ := Check.passed checked (by decide)
    obtain ⟨fresh, checked⟩ := Check.passed checked (by decide)
    apply List.Pairwise.cons
    · intro other among same
      apply fresh
      rw [List.any_eq_true]
      exact ⟨other, among, beq_iff_eq.mpr same.symm⟩
    · exact ih checked

theorem found_alone {α : Type} {matching : α → Bool} {elements : List α} {element : α}
    (distinct : elements.Pairwise fun left right => matching left → ¬ matching right)
    (found : elements.find? matching = some element) : elements.filter matching = [element] := by
  induction elements with
  | nil => cases found
  | cons first elements ih =>
    obtain ⟨apart, distinct⟩ := List.pairwise_cons.mp distinct
    by_cases first_matches : matching first
    · rw [List.find?_cons_of_pos first_matches] at found
      cases found
      have others : elements.filter matching = [] := by
        apply List.filter_eq_nil_iff.mpr
        intro other among
        exact apart other among first_matches
      rw [List.filter_cons_of_pos first_matches, others]
    · rw [List.find?_cons_of_neg first_matches] at found
      rw [List.filter_cons_of_neg first_matches]
      exact ih distinct found

theorem nodeLinkAuthResolvePeer_alone {authenticator : NodeLinkAuthenticator} {required : U8} {senderNodeId : U32}
    {peer : NodeLinkPeerIdentity} (checked : nodeLinkAuthCheckPeers required authenticator.peers = .ok)
    (resolved : nodeLinkAuthResolvePeer authenticator senderNodeId = some peer) :
    authenticator.peers.filter (·.senderNodeId == senderNodeId) = [peer] := by
  apply found_alone _ resolved
  apply (nodeLinkAuthCheckPeers_distinct checked).imp
  intro left right apart matching matching'
  exact apart ((beq_iff_eq.mp matching).trans (beq_iff_eq.mp matching').symm)

theorem nodeLinkAuthenticatorConfigure_ok {config : NodeLinkAuthConfig} {authenticator : NodeLinkAuthenticator}
    (configured : nodeLinkAuthenticatorConfigure config = (.ok, authenticator)) :
    authenticator = ⟨config.verifySignature, config.peers, config.requiredSignatureAlgorithm, 1⟩ ∧
      nodeLinkAuthCheckPeers config.requiredSignatureAlgorithm config.peers = .ok := by
  unfold nodeLinkAuthenticatorConfigure at configured
  obtain ⟨-, configured⟩ := Check.passed configured (by simp)
  obtain ⟨-, configured⟩ := Check.passed configured (by simp)
  obtain ⟨-, configured⟩ := Check.passed configured (by simp)
  cases checked : nodeLinkAuthCheckPeers config.requiredSignatureAlgorithm config.peers with
  | ok =>
    rw [checked] at configured
    cases configured
    exact ⟨rfl, rfl⟩
  | _ =>
    rw [checked] at configured
    cases configured

theorem nodeLinkAuthMapVerifyResult_ok {result : NodeLinkVerifyResult}
    (mapped : nodeLinkAuthMapVerifyResult result = .ok) : result = .verified := by
  cases result <;> first | rfl | cases mapped

theorem nodeLinkAuthenticate_ok {authenticator : NodeLinkAuthenticator} {frame : NodeLinkFrame} {signature : List U8}
    {message : NodeLinkAuthenticatedMessage} (authenticated : nodeLinkAuthenticate authenticator frame signature = .ok message) :
    ∃ (verifySignature : NodeLinkVerifySignature) (peer : NodeLinkPeerIdentity),
      authenticator.verifySignature = some verifySignature ∧ signature.length = nodeLinkEd25519SignatureSize ∧
        nodeLinkAuthResolvePeer authenticator frame.senderNodeId = some peer ∧
        message = ⟨frame, peer.producerId, peer.keyId, peer.signatureAlgorithm⟩ ∧
        verifySignature peer.signatureAlgorithm peer.producerId peer.keyId
          (frame.binding peer.producerId peer.keyId).transcript signature = .verified ∧
        nodeLinkBuildAuthTranscript frame peer.producerId peer.keyId nodeLinkAuthTranscriptMaxSize =
          .ok (frame.binding peer.producerId peer.keyId).transcript := by
  unfold nodeLinkAuthenticate at authenticated
  obtain ⟨-, authenticated⟩ := Check.accepted authenticated
  cases provider : authenticator.verifySignature with
  | none =>
    rw [provider] at authenticated
    cases authenticated
  | some verifySignature =>
    rw [provider] at authenticated
    dsimp only at authenticated
    obtain ⟨length, authenticated⟩ := Check.accepted authenticated
    cases resolved : nodeLinkAuthResolvePeer authenticator frame.senderNodeId with
    | none =>
      rw [resolved] at authenticated
      cases authenticated
    | some peer =>
      rw [resolved] at authenticated
      dsimp only at authenticated
      obtain ⟨-, authenticated⟩ := Check.accepted authenticated
      cases built : nodeLinkBuildAuthTranscript frame peer.producerId peer.keyId nodeLinkAuthTranscriptMaxSize with
      | error result =>
        rw [built] at authenticated
        cases authenticated
      | ok transcript =>
        rw [built] at authenticated
        dsimp only at authenticated
        cases mapped : nodeLinkAuthMapVerifyResult
            (verifySignature peer.signatureAlgorithm peer.producerId peer.keyId transcript signature) with
        | ok =>
          rw [mapped] at authenticated
          cases authenticated
          have verified := nodeLinkAuthMapVerifyResult_ok mapped
          have same := nodeLinkBuildAuthTranscript_ok built
          rw [same] at verified built
          exact ⟨verifySignature, peer, rfl, not_not.mp length, rfl, rfl, verified, built⟩
        | _ =>
          rw [mapped] at authenticated
          cases authenticated

/-- A transcript binds the whole frame, the producer and the key, and is never that of an envelope. A message is
authentic only when one configured peer has its sender, and the provider verified its transcript under that peer's
producer and key. -/
theorem node_link_authentication_binds :
    (∀ (left right : NodeLinkFrame) (producerId keyId producerId' keyId' : U32) (capacity capacity' : Nat)
        (transcript : List U8),
      nodeLinkBuildAuthTranscript left producerId keyId capacity = .ok transcript →
      nodeLinkBuildAuthTranscript right producerId' keyId' capacity' = .ok transcript →
      left.binding producerId keyId = right.binding producerId' keyId') ∧
    (∀ (frame : NodeLinkFrame) (producerId keyId : U32) (envelope : GseUnverified) (capacity capacity' : Nat)
        (transcript : List U8),
      nodeLinkBuildAuthTranscript frame producerId keyId capacity = .ok transcript →
      gseTranscript envelope capacity' ≠ (.ok, transcript)) ∧
    ∀ (config : NodeLinkAuthConfig) (authenticator : NodeLinkAuthenticator) (frame : NodeLinkFrame)
        (signature : List U8) (message : NodeLinkAuthenticatedMessage),
      nodeLinkAuthenticatorConfigure config = (.ok, authenticator) →
      nodeLinkAuthenticate authenticator frame signature = .ok message →
      ∃ (verifySignature : NodeLinkVerifySignature) (peer : NodeLinkPeerIdentity),
        config.verifySignature = some verifySignature ∧
          config.peers.filter (·.senderNodeId == frame.senderNodeId) = [peer] ∧
          message = ⟨frame, peer.producerId, peer.keyId, peer.signatureAlgorithm⟩ ∧
          verifySignature peer.signatureAlgorithm peer.producerId peer.keyId
            (frame.binding peer.producerId peer.keyId).transcript signature = .verified ∧
          nodeLinkBuildAuthTranscript frame peer.producerId peer.keyId nodeLinkAuthTranscriptMaxSize =
            .ok (frame.binding peer.producerId peer.keyId).transcript := by
  refine ⟨?_, ?_, ?_⟩
  · intro left right producerId keyId producerId' keyId' capacity capacity' transcript built built'
    apply NodeLinkBinding.transcript_injective
    rw [← nodeLinkBuildAuthTranscript_ok built, ← nodeLinkBuildAuthTranscript_ok built']
  · intro frame producerId keyId envelope capacity capacity' transcript built signed
    obtain ⟨-, same⟩ := gseTranscript_ok signed
    rw [nodeLinkBuildAuthTranscript_ok built, List.append_assoc] at same
    exact nodeLinkTranscript_ne_gse _ _ same
  · intro config authenticator frame signature message configured authenticated
    obtain ⟨rfl, checked⟩ := nodeLinkAuthenticatorConfigure_ok configured
    obtain ⟨verifySignature, peer, provider, -, resolved, sent, verified, built⟩ :=
      nodeLinkAuthenticate_ok authenticated
    exact ⟨verifySignature, peer, provider, nodeLinkAuthResolvePeer_alone checked resolved, sent, verified,
      built⟩

def sharedSignature : List U8 := List.replicate 64 0x5A

def sharedConfig : NodeLinkAuthConfig where
  verifySignature := some fun _ _ _ _ signature => if signature = sharedSignature then .verified else .signatureInvalid
  peers := [⟨1, 7, 9, nodeLinkSignatureEd25519⟩, ⟨2, 7, 9, nodeLinkSignatureEd25519⟩]
  requiredSignatureAlgorithm := nodeLinkSignatureEd25519

def sharedFrame : NodeLinkFrame :=
  ⟨nodeLinkMessageHeartbeat, 0, 2, 0, 1, 1, 1, padded 64 []⟩

/-- A message is authenticated although two configured peers have its producer and key. -/
theorem shared_key_authenticated :
    ∃ (authenticator : NodeLinkAuthenticator) (message : NodeLinkAuthenticatedMessage),
      nodeLinkAuthenticatorConfigure sharedConfig = (.ok, authenticator) ∧
        nodeLinkAuthenticate authenticator sharedFrame sharedSignature = .ok message ∧
        (sharedConfig.peers.filter fun peer =>
          peer.producerId == message.producerId && peer.keyId == message.keyId).length = 2 :=
  ⟨⟨sharedConfig.verifySignature, sharedConfig.peers, nodeLinkSignatureEd25519, 1⟩,
    ⟨sharedFrame, 7, 9, nodeLinkSignatureEd25519⟩, rfl, rfl, rfl⟩

end Guardian.NodeLink
