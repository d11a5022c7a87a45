import Guardian.Lib.Layout
import Guardian.NodeLink.SignedEnvelope

namespace Guardian.NodeLink

open Word ByteString

def GseUnverified.canonical (p : GseUnverified) : GseUnverified := { p with payload := padded 64 p.body }

theorem canonical_body {p : GseUnverified} (valid : gseValid p = true) : p.canonical.body = p.body := by
  have bound : p.payloadLength.toNat ≤ 64 := gseValid_payloadLength valid
  have length := body_length valid
  have short : p.body.length ≤ 64 := by omega
  show (padded 64 p.body).1.take p.payloadLength.toNat = p.body
  rw [padded_short short, List.take_left' length]

theorem canonical_canonical {p : GseUnverified} (valid : gseValid p = true) : p.canonical.Canonical where
  valid := valid
  zeros := congrArg (padded 64) (canonical_body valid)

theorem gseWire_canonical {p : GseUnverified} (valid : gseValid p = true) : gseWire p.canonical = gseWire p := by
  unfold gseWire
  rw [canonical_body valid]
  rfl

theorem gseEncode_ok {p : GseUnverified} {capacity : Nat} {wire : List U8}
    (encoded : gseEncode p capacity = (.ok, wire)) : gseValid p = true ∧ wire = gseWire p := by
  unfold gseEncode at encoded
  obtain ⟨valid, encoded⟩ := Check.passed encoded (by simp)
  obtain ⟨-, encoded⟩ := Check.passed encoded (by simp)
  cases encoded
  exact ⟨by simpa using valid, rfl⟩

theorem gseDecode_encode {p : GseUnverified} {capacity : Nat} {wire : List U8}
    (encoded : gseEncode p capacity = (.ok, wire)) : gseDecode wire = some p.canonical := by
  obtain ⟨valid, rfl⟩ := gseEncode_ok encoded
  rw [← gseWire_canonical valid]
  exact gseDecode_wire (canonical_canonical valid)

theorem header_split (wire : List U8) : wire.take gseHeaderSize =
    [wire.take 12, (wire.drop 12).take 4, (wire.drop 16).take 4, (wire.drop 20).take 4, (wire.drop 24).take 4,
      (wire.drop 28).take 4].flatten := by
  have cut := splitLengths_take [12, 4, 4, 4, 4, 4] wire
  have sum : [12, 4, 4, 4, 4, 4].sum = gseHeaderSize := rfl
  rw [sum] at cut
  rw [← cut, gseHeaderSize]
  simp only [List.splitLengths_cons, List.splitLengths_nil, List.drop_take, List.take_take, List.drop_drop]
  rfl

theorem gseDecode_image {wire : List U8} {p : GseUnverified} (decoded : gseDecode wire = some p) :
    gseValid p = true ∧ gseWire p = wire := by
  have valid := gseDecode_valid decoded
  unfold gseDecode at decoded
  dsimp only at decoded
  obtain ⟨size, decoded⟩ := Check.passed decoded (by simp)
  obtain ⟨fixed, decoded⟩ := Check.passed decoded (by simp)
  obtain ⟨whole, decoded⟩ := Check.passed decoded (by simp)
  obtain ⟨-, decoded⟩ := Check.passed decoded (by simp)
  simp only [not_or, not_not] at fixed whole
  obtain ⟨m0, m1, version, flags, schema, reserved, high, signed, zero⟩ := fixed
  obtain ⟨length, fits⟩ := whole
  cases decoded
  have word (start : Nat) (within : start + 4 ≤ gseHeaderSize) :
      putU32Le (getU32Le (wire.drop start)) = (wire.drop start).take 4 := by
    apply putU32Le_getU32Le
    rw [List.length_drop]
    omega
  have low : ((wire.getD 8 0).setWidth 16).setWidth 8 = wire.getD 8 0 := by
    rw [BitVec.setWidth_setWidth_of_le _ (by omega), BitVec.setWidth_eq]
  have first : wire.take 12 = [0x47, 0x53, 2, wire.getD 3 0, 0, wire.getD 5 0, 1, 0, wire.getD 8 0, 0, 64, 0] := by
    have long : 12 ≤ wire.length := by
      unfold gseHeaderSize gseSignatureSize at size
      omega
    rw [take_getD 0 long]
    show [wire.getD 0 0, wire.getD 1 0, wire.getD 2 0, wire.getD 3 0, wire.getD 4 0, wire.getD 5 0, wire.getD 6 0,
      wire.getD 7 0, wire.getD 8 0, wire.getD 9 0, wire.getD 10 0, wire.getD 11 0] = _
    rw [m0, m1, version, flags, schema, reserved, high, signed, zero]
  have body : (padded 64 (slice gseHeaderSize ((wire.getD 8 0).setWidth 16).toNat wire)).1.take
      ((wire.getD 8 0).setWidth 16).toNat = slice gseHeaderSize ((wire.getD 8 0).setWidth 16).toNat wire := by
    have payload : (slice gseHeaderSize ((wire.getD 8 0).setWidth 16).toNat wire).length =
        ((wire.getD 8 0).setWidth 16).toNat := slice_length _ _ _ (by omega)
    have short := Nat.not_lt.mp fits
    rw [padded_short (by rw [payload]; exact short), List.take_left' payload]
  have signature : (padded 64 (wire.drop (gseHeaderSize + ((wire.getD 8 0).setWidth 16).toNat))).1 =
      wire.drop (gseHeaderSize + ((wire.getD 8 0).setWidth 16).toNat) := by
    have long : (wire.drop (gseHeaderSize + ((wire.getD 8 0).setWidth 16).toNat)).length = 64 := by
      rw [List.length_drop, length, Nat.add_sub_cancel_left, gseSignatureSize]
    rw [padded_short (Nat.le_of_eq long), long, Nat.sub_self, List.replicate_zero, List.append_nil]
  have header (p : GseUnverified) : gseHeader p =
      [[0x47, 0x53, 2, p.type, 0, p.state, 1, 0, p.payloadLength.setWidth 8, 0, 64, 0], putU32Le p.sender,
        putU32Le p.producer, putU32Le p.key, putU32Le p.epoch, putU32Le p.sequence].flatten := by
    simp [gseHeader]
  refine ⟨valid, ?_⟩
  rw [gseWire, header, GseUnverified.body]
  dsimp only
  rw [low, ← first, word 12 (by decide), word 16 (by decide), word 20 (by decide), word 24 (by decide),
    word 28 (by decide), ← header_split, body, signature, slice, List.append_assoc, ← List.drop_drop,
    List.take_append_drop, List.take_append_drop]

theorem gseEncode_decode {wire : List U8} {p : GseUnverified} (decoded : gseDecode wire = some p) {capacity : Nat}
    (room : wire.length ≤ capacity) : gseEncode p capacity = (.ok, wire) := by
  obtain ⟨valid, image⟩ := gseDecode_image decoded
  have length := gseWire_length valid
  rw [image] at length
  unfold gseEncode
  rw [if_neg (by simp [valid]), if_neg (by omega), image]

def GseUnverified.unsigned (p : GseUnverified) : GseUnverified := { p.canonical with signature := padded 64 [] }

theorem gseHeader_fields {left right : GseUnverified} (same : gseHeader left = gseHeader right) :
    left.type = right.type ∧ left.state = right.state ∧ left.sender = right.sender ∧ left.producer = right.producer ∧
      left.key = right.key ∧ left.epoch = right.epoch ∧ left.sequence = right.sequence := by
  have type := congrArg (fun header => header.getD 3 0) same
  have state := congrArg (fun header => header.getD 5 0) same
  obtain ⟨sender, producer, key, epoch, sequence⟩ := gseHeader_words left []
  obtain ⟨sender', producer', key', epoch', sequence'⟩ := gseHeader_words right []
  rw [same] at sender producer key epoch sequence
  exact ⟨type, state, sender.symm.trans sender', producer.symm.trans producer', key.symm.trans key',
    epoch.symm.trans epoch', sequence.symm.trans sequence'⟩

theorem gseTranscript_injective {left right : GseUnverified} {capacity capacity' : Nat} {transcript : List U8}
    (leftBuilt : gseTranscript left capacity = (.ok, transcript))
    (rightBuilt : gseTranscript right capacity' = (.ok, transcript)) : left.unsigned = right.unsigned := by
  obtain ⟨leftValid, leftSame⟩ := gseTranscript_ok leftBuilt
  obtain ⟨rightValid, rightSame⟩ := gseTranscript_ok rightBuilt
  have same : gseDomain ++ (gseHeader left ++ left.body) = gseDomain ++ (gseHeader right ++ right.body) := by
    rw [← List.append_assoc, ← List.append_assoc, ← leftSame, ← rightSame]
  obtain ⟨header, body⟩ := List.append_inj (List.append_cancel_left same) rfl
  obtain ⟨type, state, sender, producer, key, epoch, sequence⟩ := gseHeader_fields header
  have length : left.payloadLength = right.payloadLength := by
    apply BitVec.eq_of_toNat_eq
    rw [← body_length leftValid, ← body_length rightValid, body]
  simp only [GseUnverified.unsigned, GseUnverified.canonical, GseUnverified.mk.injEq]
  exact ⟨type, state, length, sender, producer, key, epoch, sequence, congrArg (padded 64) body, trivial⟩

/-- Verified evidence is that of the one registered peer of the envelope, which is not revoked and is allowed the
envelope's type. -/
theorem gseaVerify_peer {check : Bytes 64 → Bytes 32 → List U8 → Bool} {context : GseaContext} {wire : List U8}
    {evidence : GseaSignatureEvidence} (verified : gseaVerify check context wire = .ok evidence) :
    ∃ peer, context.peers.filter (·.sent evidence.envelope) = [peer] ∧ peer.revoked = 0 ∧
      peer.allowedTypes &&& (if evidence.envelope.type = 7 then gseaObservation else gseaAck) ≠ 0 ∧
      check evidence.envelope.signature peer.publicKey (gseSigned evidence.envelope) = true := by
  have decoded := gseaVerify_decoded verified
  have transcript := gseTranscript_valid (gseDecode_valid decoded)
  unfold gseaVerify at verified
  obtain ⟨-, verified⟩ := Check.accepted verified
  rw [decoded] at verified
  dsimp only at verified
  cases matching : context.peers.filter (·.sent evidence.envelope) with
  | nil =>
    rw [matching] at verified
    cases verified
  | cons peer others =>
    rw [matching] at verified
    cases others with
    | cons => cases verified
    | nil =>
      dsimp only at verified
      obtain ⟨kept, verified⟩ := Check.accepted verified
      obtain ⟨allowed, verified⟩ := Check.accepted verified
      rw [transcript] at verified
      obtain ⟨-, verified⟩ := Check.accepted verified
      obtain ⟨checked, -⟩ := Check.accepted verified
      exact ⟨peer, rfl, not_not.mp kept, allowed, by simpa [gseSigned] using checked⟩

theorem gseaConfigure_peers {peers : List GseaPeer} {registryRevision : U32} {context : GseaContext}
    (configured : gseaConfigure peers registryRevision = (.ok, context)) : context.peers = peers := by
  unfold gseaConfigure at configured
  obtain ⟨-, configured⟩ := Check.passed configured (by simp)
  obtain ⟨-, configured⟩ := Check.passed configured (by simp)
  cases configured
  rfl

/-- Decoding and encoding undo each other, the signature covers every other field of the envelope, and an envelope is
verified only for the one registered peer that sent it. -/
theorem signed_envelope_exact :
    (∀ (p : GseUnverified) (capacity : Nat) (wire : List U8), gseEncode p capacity = (.ok, wire) →
      gseDecode wire = some { p with payload := padded 64 (p.payload.1.take p.payloadLength.toNat) }) ∧
    (∀ (wire : List U8) (p : GseUnverified), gseDecode wire = some p →
      ∀ capacity, wire.length ≤ capacity → gseEncode p capacity = (.ok, wire)) ∧
    (∀ (left right : GseUnverified) (capacity capacity' : Nat) (transcript : List U8),
      gseTranscript left capacity = (.ok, transcript) → gseTranscript right capacity' = (.ok, transcript) →
      left.unsigned = right.unsigned) ∧
    ∀ (check : Bytes 64 → Bytes 32 → List U8 → Bool) (peers : List GseaPeer) (registryRevision : U32)
        (context : GseaContext) (wire : List U8) (evidence : GseaSignatureEvidence),
      gseaConfigure peers registryRevision = (.ok, context) → gseaVerify check context wire = .ok evidence →
      ∃ peer, peers.filter (·.sent evidence.envelope) = [peer] ∧ peer.revoked = 0 ∧
        peer.allowedTypes &&& (if evidence.envelope.type = 7 then gseaObservation else gseaAck) ≠ 0 ∧
        gseDecode wire = some evidence.envelope ∧
        check evidence.envelope.signature peer.publicKey (gseSigned evidence.envelope) = true := by
  refine ⟨?_, ?_, ?_, ?_⟩
  · intro p capacity wire encoded
    exact gseDecode_encode encoded
  · intro wire p decoded capacity room
    exact gseEncode_decode decoded room
  · intro left right capacity capacity' transcript leftBuilt rightBuilt
    exact gseTranscript_injective leftBuilt rightBuilt
  · intro check peers registryRevision context wire evidence configured verified
    obtain ⟨peer, alone, kept, allowed, signed⟩ := gseaVerify_peer verified
    rw [gseaConfigure_peers configured] at alone
    exact ⟨peer, alone, kept, allowed, gseaVerify_decoded verified, signed⟩

end Guardian.NodeLink
