import Guardian.Lib.ByteString
import Guardian.Lib.Check

namespace Guardian.NodeLink

open Word ByteString

def gseHeaderSize : Nat := 32
def gseSignatureSize : Nat := 64
def gseMaxPayload : Nat := 64
def gseMaxWire : Nat := 160

/-- `GUARDIAN-F401:NODELINK:SIGNED-ENVELOPE:V2`. -/
def gseDomain : List U8 :=
  [0x47, 0x55, 0x41, 0x52, 0x44, 0x49, 0x41, 0x4E, 0x2D, 0x46, 0x34, 0x30, 0x31, 0x3A, 0x4E, 0x4F, 0x44, 0x45,
   0x4C, 0x49, 0x4E, 0x4B, 0x3A, 0x53, 0x49, 0x47, 0x4E, 0x45, 0x44, 0x2D, 0x45, 0x4E, 0x56, 0x45, 0x4C, 0x4F,
   0x50, 0x45, 0x3A, 0x56, 0x32]

def gseMaxTranscript : Nat := gseDomain.length + gseHeaderSize + gseMaxPayload

structure GseUnverified where
  type : U8
  state : U8
  payloadLength : U16
  sender : U32
  producer : U32
  key : U32
  epoch : U32
  sequence : U32
  payload : Bytes 64
  signature : Bytes 64
  deriving DecidableEq

inductive GseResult
  | ok
  | invalid
  | capacity
  deriving DecidableEq, Repr

def gseValid (p : GseUnverified) : Bool :=
  p.state ≤ 5 && p.sender != 0 && p.producer != 0 && p.key != 0 && p.epoch != 0 && p.sequence != 0 &&
    ((p.type == 7 && p.payloadLength == 52) || (p.type == 8 && p.payloadLength == 60))

def gseHeader (p : GseUnverified) : List U8 :=
  [0x47, 0x53, 2, p.type, 0, p.state, 1, 0, p.payloadLength.setWidth 8, 0, 64, 0] ++ putU32Le p.sender ++
    putU32Le p.producer ++ putU32Le p.key ++ putU32Le p.epoch ++ putU32Le p.sequence

def GseUnverified.body (p : GseUnverified) : List U8 := p.payload.1.take p.payloadLength.toNat

def gseWire (p : GseUnverified) : List U8 := gseHeader p ++ p.body ++ p.signature.1

def gseEncode (input : GseUnverified) (capacity : Nat) : GseResult × List U8 :=
  if !gseValid input then (.invalid, [])
  else if capacity < gseHeaderSize + input.payloadLength.toNat + gseSignatureSize then (.capacity, [])
  else (.ok, gseWire input)

/-- `none` is `GSE_INVALID`. -/
def gseDecode (wire : List U8) : Option GseUnverified :=
  let byte (index : Nat) : U8 := wire.getD index 0
  if wire.length < gseHeaderSize + gseSignatureSize ∨ gseMaxWire < wire.length then none
  else if byte 0 ≠ 0x47 ∨ byte 1 ≠ 0x53 ∨ byte 2 ≠ 2 ∨ byte 4 ≠ 0 ∨ byte 6 ≠ 1 ∨ byte 7 ≠ 0 ∨ byte 9 ≠ 0 ∨
      byte 10 ≠ 64 ∨ byte 11 ≠ 0 then none
  else
    let payload : U16 := (byte 8).setWidth 16
    if wire.length ≠ gseHeaderSize + payload.toNat + gseSignatureSize ∨ gseMaxPayload < payload.toNat then none
    else
      let temp : GseUnverified :=
        { type := byte 3
          state := byte 5
          payloadLength := payload
          sender := getU32Le (wire.drop 12)
          producer := getU32Le (wire.drop 16)
          key := getU32Le (wire.drop 20)
          epoch := getU32Le (wire.drop 24)
          sequence := getU32Le (wire.drop 28)
          payload := padded 64 (slice gseHeaderSize payload.toNat wire)
          signature := padded 64 (wire.drop (gseHeaderSize + payload.toNat)) }
      if !gseValid temp then none else some temp

def gseTranscript (input : GseUnverified) (capacity : Nat) : GseResult × List U8 :=
  if !gseValid input then (.invalid, [])
  else if capacity < gseDomain.length + gseHeaderSize + input.payloadLength.toNat then (.capacity, [])
  else (.ok, gseDomain ++ gseHeader input ++ input.body)

theorem gseHeader_length (p : GseUnverified) : (gseHeader p).length = gseHeaderSize := rfl

theorem gseValid_iff (p : GseUnverified) : gseValid p = true ↔
    p.state ≤ 5 ∧ p.sender ≠ 0 ∧ p.producer ≠ 0 ∧ p.key ≠ 0 ∧ p.epoch ≠ 0 ∧ p.sequence ≠ 0 ∧
      (p.type = 7 ∧ p.payloadLength = 52 ∨ p.type = 8 ∧ p.payloadLength = 60) := by
  simp only [gseValid, Bool.and_eq_true, Bool.or_eq_true, bne_iff_ne, beq_iff_eq, decide_eq_true_eq, and_assoc]

theorem gseValid_payloadLength {p : GseUnverified} (valid : gseValid p = true) : p.payloadLength.toNat ≤ gseMaxPayload := by
  obtain ⟨-, -, -, -, -, -, ⟨-, size⟩ | ⟨-, size⟩⟩ := (gseValid_iff p).mp valid
  · rw [size]
    decide
  · rw [size]
    decide

theorem gseTranscript_valid {p : GseUnverified} (valid : gseValid p = true) :
    gseTranscript p gseMaxTranscript = (.ok, gseDomain ++ gseHeader p ++ p.body) := by
  have bound := gseValid_payloadLength valid
  rw [gseTranscript, if_neg (by simp [valid]), if_neg]
  rw [gseMaxTranscript]
  omega

theorem gseTranscript_ok {p : GseUnverified} {capacity : Nat} {transcript : List U8}
    (built : gseTranscript p capacity = (.ok, transcript)) :
    gseValid p = true ∧ transcript = gseDomain ++ gseHeader p ++ p.body := by
  unfold gseTranscript at built
  obtain ⟨valid, built⟩ := Check.passed built (by simp)
  obtain ⟨-, built⟩ := Check.passed built (by simp)
  cases built
  exact ⟨by simpa using valid, rfl⟩

/-- An envelope as decoding leaves it: valid, and zero after its payload. -/
structure GseUnverified.Canonical (p : GseUnverified) : Prop where
  valid : gseValid p = true
  zeros : padded 64 p.body = p.payload

theorem body_length {p : GseUnverified} (valid : gseValid p = true) : p.body.length = p.payloadLength.toNat := by
  have bound : p.payloadLength.toNat ≤ 64 := gseValid_payloadLength valid
  rw [GseUnverified.body, List.length_take_of_le]
  rw [p.payload.2]
  exact bound

theorem gseWire_length {p : GseUnverified} (valid : gseValid p = true) :
    (gseWire p).length = gseHeaderSize + p.payloadLength.toNat + gseSignatureSize := by
  rw [gseWire, List.length_append, List.length_append, gseHeader_length, body_length valid, p.signature.2]
  rfl

theorem gseHeader_words (p : GseUnverified) (rest : List U8) :
    getU32Le ((gseHeader p ++ rest).drop 12) = p.sender ∧ getU32Le ((gseHeader p ++ rest).drop 16) = p.producer ∧
      getU32Le ((gseHeader p ++ rest).drop 20) = p.key ∧ getU32Le ((gseHeader p ++ rest).drop 24) = p.epoch ∧
      getU32Le ((gseHeader p ++ rest).drop 28) = p.sequence :=
  ⟨getU32Le_put p.sender _, getU32Le_put p.producer _, getU32Le_put p.key _, getU32Le_put p.epoch _,
    getU32Le_put p.sequence _⟩

theorem gseDecode_wire {p : GseUnverified} (canonical : p.Canonical) : gseDecode (gseWire p) = some p := by
  have bound : p.payloadLength.toNat ≤ 64 := gseValid_payloadLength canonical.valid
  have body := body_length canonical.valid
  have size := gseWire_length canonical.valid
  have payload : (p.payloadLength.setWidth 8).setWidth 16 = p.payloadLength := by
    apply BitVec.eq_of_toNat_eq
    simp only [BitVec.toNat_setWidth]
    omega
  have fields := gseHeader_words p (p.body ++ p.signature.1)
  rw [← List.append_assoc, ← gseWire] at fields
  have content : slice gseHeaderSize p.payloadLength.toNat (gseWire p) = p.body := by
    rw [gseWire, List.append_assoc, slice_append_right _ _ (Nat.le_of_eq (gseHeader_length p)), gseHeader_length,
      Nat.sub_self, slice_append_self _ body]
  have signature : (gseWire p).drop (gseHeaderSize + p.payloadLength.toNat) = p.signature.1 := by
    have start : gseHeaderSize + p.payloadLength.toNat = (gseHeader p ++ p.body).length := by
      rw [List.length_append, gseHeader_length, body]
    rw [gseWire, start, List.drop_left]
  have bytes : (gseWire p).getD 0 0 = 0x47 ∧ (gseWire p).getD 1 0 = 0x53 ∧ (gseWire p).getD 2 0 = 2 ∧
      (gseWire p).getD 3 0 = p.type ∧ (gseWire p).getD 4 0 = 0 ∧ (gseWire p).getD 5 0 = p.state ∧
      (gseWire p).getD 6 0 = 1 ∧ (gseWire p).getD 7 0 = 0 ∧
      (gseWire p).getD 8 0 = p.payloadLength.setWidth 8 ∧ (gseWire p).getD 9 0 = 0 ∧
      (gseWire p).getD 10 0 = 64 ∧ (gseWire p).getD 11 0 = 0 := ⟨rfl, rfl, rfl, rfl, rfl, rfl, rfl, rfl, rfl, rfl, rfl, rfl⟩
  obtain ⟨b0, b1, b2, b3, b4, b5, b6, b7, b8, b9, b10, b11⟩ := bytes
  have signed : padded 64 p.signature.1 = p.signature := by
    have same := padded_self p.signature []
    rwa [List.append_nil] at same
  simp only [gseDecode, b0, b1, b2, b3, b4, b5, b6, b7, b8, b9, b10, b11, payload, fields, content, signature,
    canonical.zeros, signed]
  rw [if_neg, if_neg, if_neg, if_neg]
  · simp [canonical.valid]
  · rw [size]
    simp
    exact bound
  · simp
  · rw [size, gseHeaderSize, gseSignatureSize, gseMaxWire]
    omega

def gseaMaxPeers : Nat := 8
def gseaObservation : U8 := 1
def gseaAck : U8 := 2
def gseaBoth : U8 := 3

structure GseaPeer where
  sender : U32
  producer : U32
  key : U32
  publicKey : Bytes 32
  revoked : U8
  allowedTypes : U8
  deriving DecidableEq

/-- `peers` are the first `count` entries of the registry. -/
structure GseaContext where
  peers : List GseaPeer
  registryRevision : U32
  configured : U8
  deriving DecidableEq

structure GseaSignatureEvidence where
  envelope : GseUnverified
  registryRevision : U32
  deriving DecidableEq

inductive GseaResult
  | ok
  | invalid
  | unconfigured
  | peerUnknown
  | keyRevoked
  | typeDenied
  | signatureInvalid
  deriving DecidableEq, Repr

def gseaInit : GseaContext := ⟨[], 0, 0⟩

def GseaPeer.valid (peer : GseaPeer) : Bool :=
  let aggregate := peer.publicKey.1.foldl (fun aggregate byte => aggregate ||| byte) 0
  peer.sender != 0 && peer.producer != 0 && peer.key != 0 && peer.revoked ≤ 1 && peer.allowedTypes ≥ gseaObservation &&
    peer.allowedTypes ≤ gseaBoth && aggregate != 0

def GseaPeer.same (left right : GseaPeer) : Bool :=
  left.sender == right.sender && left.producer == right.producer && left.key == right.key

def gseaPeersValid : List GseaPeer → List GseaPeer → Bool
  | _, [] => true
  | before, peer :: peers => peer.valid && !before.any peer.same && gseaPeersValid (before ++ [peer]) peers

def gseaConfigure (peers : List GseaPeer) (registryRevision : U32) : GseaResult × GseaContext :=
  if peers.length = 0 ∨ peers.length > gseaMaxPeers ∨ registryRevision = 0 then (.invalid, gseaInit)
  else if !gseaPeersValid [] peers then (.invalid, gseaInit)
  else (.ok, ⟨peers, registryRevision, 1⟩)

def GseaPeer.sent (peer : GseaPeer) (decoded : GseUnverified) : Bool :=
  peer.sender == decoded.sender && peer.producer == decoded.producer && peer.key == decoded.key

def gseSigned (envelope : GseUnverified) : List U8 := gseDomain ++ gseHeader envelope ++ envelope.body

/-- `check` is the verification of a signature under a public key. -/
def gseaVerify (check : Bytes 64 → Bytes 32 → List U8 → Bool) (context : GseaContext) (wire : List U8) :
    Except GseaResult GseaSignatureEvidence :=
  if context.configured ≠ 1 ∨ context.peers.length = 0 ∨ context.peers.length > gseaMaxPeers ∨
      context.registryRevision = 0 then .error .unconfigured
  else match gseDecode wire with
    | none => .error .invalid
    | some decoded =>
      match context.peers.filter (·.sent decoded) with
      | [] => .error .peerUnknown
      | [peer] =>
        let requiredType := if decoded.type = 7 then gseaObservation else gseaAck
        let transcript := gseTranscript decoded gseMaxTranscript
        if peer.revoked ≠ 0 then .error .keyRevoked
        else if peer.allowedTypes &&& requiredType = 0 then .error .typeDenied
        else if transcript.1 ≠ .ok then .error .invalid
        else if !check decoded.signature peer.publicKey transcript.2 then .error .signatureInvalid
        else .ok ⟨decoded, context.registryRevision⟩
      | _ => .error .invalid

theorem gseDecode_valid {wire : List U8} {envelope : GseUnverified} (decoded : gseDecode wire = some envelope) :
    gseValid envelope = true := by
  unfold gseDecode at decoded
  dsimp only at decoded
  split_ifs at decoded with size fixed length invalid
  cases decoded
  simpa using invalid

theorem gseDecode_type {wire : List U8} {envelope : GseUnverified} (decoded : gseDecode wire = some envelope) :
    envelope.type = 7 ∨ envelope.type = 8 := by
  obtain ⟨-, -, -, -, -, -, ⟨type, -⟩ | ⟨type, -⟩⟩ := (gseValid_iff envelope).mp (gseDecode_valid decoded)
  · exact Or.inl type
  · exact Or.inr type

theorem gseaVerify_decoded {check : Bytes 64 → Bytes 32 → List U8 → Bool} {context : GseaContext} {wire : List U8}
    {evidence : GseaSignatureEvidence} (verified : gseaVerify check context wire = .ok evidence) :
    gseDecode wire = some evidence.envelope := by
  unfold gseaVerify at verified
  split_ifs at verified
  cases decoded : gseDecode wire with
  | none =>
    rw [decoded] at verified
    cases verified
  | some envelope =>
    rw [decoded] at verified
    dsimp only at verified
    split at verified
    · cases verified
    · split_ifs at verified
      all_goals
        cases verified
        rfl
    · cases verified

theorem gseaVerify_signed {check : Bytes 64 → Bytes 32 → List U8 → Bool} {context : GseaContext} {peer : GseaPeer}
    {envelope : GseUnverified} (configured : context.configured = 1) (few : context.peers.length ≤ gseaMaxPeers)
    (revision : context.registryRevision ≠ 0) (canonical : envelope.Canonical)
    (one : context.peers.filter (·.sent envelope) = [peer]) (kept : peer.revoked = 0)
    (allowed : peer.allowedTypes = gseaBoth)
    (signed : check envelope.signature peer.publicKey (gseSigned envelope) = true) :
    gseaVerify check context (gseWire envelope) = .ok ⟨envelope, context.registryRevision⟩ := by
  have some : context.peers.length ≠ 0 := by
    intro none
    rw [List.length_eq_zero_iff.mp none] at one
    cases one
  have transcript := gseTranscript_valid canonical.valid
  have type : ¬ peer.allowedTypes &&& (if envelope.type = 7 then gseaObservation else gseaAck) = 0 := by
    rw [allowed]
    split_ifs <;> decide
  unfold gseaVerify
  rw [if_neg (by simp only [not_or, not_not]; exact ⟨configured, some, by omega, revision⟩), gseDecode_wire canonical]
  dsimp only
  rw [one]
  dsimp only
  rw [if_neg (not_not.mpr kept), if_neg type, transcript, if_neg (not_not.mpr rfl)]
  unfold gseSigned at signed
  rw [signed]
  rfl

end Guardian.NodeLink
