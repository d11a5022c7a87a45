import Guardian.MultiNode.CorroborationPayload
import Guardian.NodeLink.IngressRun

namespace Guardian.NodeLink

open Word ByteString Guardian.Crypto Guardian.MultiNode

theorem gcWireRead_take {count : Nat} (whole : 52 ≤ count) (payload : List U8) :
    gcWireRead (payload.take count) = gcWireRead payload := by
  have word {start : Nat} (within : start + 4 ≤ 52) :
      getU32Le ((payload.take count).drop start) = getU32Le (payload.drop start) :=
    getU32Le_drop_take (by omega) payload
  rw [gcWireRead, word (by omega), word (by omega), word (by omega), word (by omega), getD_take 0 (by omega),
    slice_take (by omega)]
  rfl

theorem gcAckRead_take {count : Nat} (whole : 60 ≤ count) (payload : List U8) :
    gcAckRead (payload.take count) = gcAckRead payload := by
  have word {start : Nat} (within : start + 4 ≤ 60) :
      getU32Le ((payload.take count).drop start) = getU32Le (payload.drop start) :=
    getU32Le_drop_take (by omega) payload
  rw [gcAckRead, word (by omega), word (by omega), word (by omega), word (by omega), word (by omega),
    word (by omega), slice_take (by omega)]
  rfl

/-- The envelope is the configured peer's, in the configured epoch and state. -/
structure GiContext.Addressed (x : GiContext) (e : GseUnverified) : Prop where
  sender : e.sender = x.config.sender
  producer : e.producer = x.config.producer
  key : e.key = x.config.key
  sequence : e.sequence ≠ 0xFFFFFFFF
  epoch : e.epoch = x.config.epoch
  state : e.state = x.config.expectedState

/-- The observation of the configured round, without an actuation claim. -/
def GiContext.observation (x : GiContext) : GcWireObservation :=
  ⟨x.config.generation, x.config.policy, x.config.profile, x.config.round, 0, x.commitment⟩

def GiContext.reference (x : GiContext) : GcAck :=
  ⟨x.config.generation, x.config.policy, x.config.profile, x.config.round, x.live.localEpoch, x.live.localSequence,
    x.commitment⟩

/-- The comparison of an acknowledgement with the pending reference, which `gi_prepare` makes after `semantics`. -/
def GiContext.Refers (x : GiContext) (e : GseUnverified) : Prop :=
  getU32Le (e.payload.1.drop 20) = x.live.localEpoch ∧ getU32Le (e.payload.1.drop 24) = x.live.localSequence

theorem giConfigOk_round {c : GiConfig} (configured : giConfigOk c = true) :
    c.generation ≠ 0 ∧ c.policy ≠ 0 ∧ c.profile ≠ 0 ∧ c.round ≠ 0 := by
  simp only [giConfigOk, Bool.and_eq_true, bne_iff_ne, and_assoc] at configured
  obtain ⟨-, -, -, -, -, -, generation, -, policy, profile, round, -⟩ := configured
  exact ⟨generation, policy, profile, round⟩

theorem giSemantics_iff (x : GiContext) (e : GseUnverified) : giSemantics x e = true ↔
    x.Addressed e ∧ e.payload.1.getD 0 0 = 1 ∧ e.payload.1.getD 1 0 = (if e.type = 7 then 0 else 0xA1) ∧
      e.payload.1.getD 2 0 = 0 ∧ e.payload.1.getD 3 0 = 0 ∧ getU32Le (e.payload.1.drop 4) = x.config.generation ∧
      getU32Le (e.payload.1.drop 8) = x.config.policy ∧ getU32Le (e.payload.1.drop 12) = x.config.profile ∧
      getU32Le (e.payload.1.drop 16) = x.config.round ∧
      slice (if e.type = 7 then 20 else 28) 32 e.payload.1 = x.commitment.1 := by
  simp only [giSemantics, Bool.and_eq_true, beq_iff_eq, bne_iff_ne, and_assoc]
  constructor
  · rintro ⟨sender, producer, key, sequence, epoch, state, rest⟩
    exact ⟨⟨sender, producer, key, sequence, epoch, state⟩, rest⟩
  · rintro ⟨⟨sender, producer, key, sequence, epoch, state⟩, rest⟩
    exact ⟨sender, producer, key, sequence, epoch, state, rest⟩

theorem padded_eq_iff {bytes : List U8} {commitment : Bytes 32} (length : bytes.length = 32) :
    padded 32 bytes = commitment ↔ bytes = commitment.1 := by
  have same : (padded 32 bytes).1 = bytes := by
    rw [padded_short (Nat.le_of_eq length), length, Nat.sub_self, List.replicate_zero, List.append_nil]
  rw [← Subtype.coe_inj, same]

theorem observation_iff {x : GiContext} {e : GseUnverified} (configured : giConfigOk x.config = true)
    (valid : gseValid e = true) (type : e.type = 7) :
    giSemantics x e = true ↔ x.Addressed e ∧ gcWireDecode e.body = some x.observation := by
  have size : e.payloadLength = 52 := by
    obtain ⟨-, -, -, -, -, -, ⟨-, size⟩ | ⟨other, -⟩⟩ := (gseValid_iff e).mp valid
    · exact size
    · rw [type] at other
      exact absurd other (by decide)
  have count : e.payloadLength.toNat = 52 := by
    rw [size]
    rfl
  have length : e.body.length = gcWireSize := (body_length valid).trans count
  have read : gcWireRead e.body = gcWireRead e.payload.1 := gcWireRead_take (Nat.le_of_eq count.symm) _
  have byte {index : Nat} (within : index < 52) : e.body.getD index 0 = e.payload.1.getD index 0 :=
    getD_take 0 (by omega) _
  have commitment : (slice 20 32 e.payload.1).length = 32 := slice_length _ _ _ (by rw [e.payload.2]; decide)
  obtain ⟨generation, policy, profile, round⟩ := giConfigOk_round configured
  rw [giSemantics_iff, gcWireDecode_iff, read, byte (by omega), byte (by omega), byte (by omega), byte (by omega)]
  simp only [type, if_true, length, true_and]
  apply and_congr_right
  intro addressed
  simp only [GiContext.observation, gcWireRead, gcWireValid_iff, GcWireObservation.mk.injEq, gcWireVersion]
  rw [eq_comm (a := x.commitment), padded_eq_iff commitment]
  constructor
  · rintro ⟨version, claims, first, second, g, p, f, r, same⟩
    rw [g, p, f, r, claims]
    exact ⟨version, by decide, first, second, ⟨generation, policy, profile, round, by decide⟩, rfl, rfl, rfl, rfl, rfl, same⟩
  · rintro ⟨version, -, first, second, -, g, p, f, r, claims, same⟩
    exact ⟨version, claims.symm, first, second, g.symm, p.symm, f.symm, r.symm, same⟩

theorem giStateOk_pending {s : GiState} (state : giStateOk s = true) (pending : s.pending = 1) :
    s.localEpoch ≠ 0 ∧ s.localSequence ≠ 0 := by
  have some : s.pending ≠ 0 := by
    rw [pending]
    decide
  simp only [giStateOk, Bool.and_eq_true, Bool.or_eq_true, beq_iff_eq, bne_iff_ne, and_assoc] at state
  obtain ⟨-, -, -, -, -, reference, -⟩ := state
  obtain ⟨-, epoch, sequence, -⟩ := reference.resolve_left some
  exact ⟨epoch, sequence⟩

theorem acknowledgement_iff {x : GiContext} {e : GseUnverified} (configured : giConfigOk x.config = true)
    (state : giStateOk x.live = true) (pending : x.live.pending = 1) (valid : gseValid e = true) (type : e.type = 8) :
    giSemantics x e = true ∧ x.Refers e ↔
      x.Addressed e ∧ ∃ a, gcAckDecode e.body = some a ∧ gcAckMatch a x.reference = .ok := by
  have size : e.payloadLength = 60 := by
    obtain ⟨-, -, -, -, -, -, ⟨other, -⟩ | ⟨-, size⟩⟩ := (gseValid_iff e).mp valid
    · rw [type] at other
      exact absurd other (by decide)
    · exact size
  have count : e.payloadLength.toNat = 60 := by
    rw [size]
    rfl
  have length : e.body.length = gcAckSize := (body_length valid).trans count
  have read : gcAckRead e.body = gcAckRead e.payload.1 := gcAckRead_take (Nat.le_of_eq count.symm) _
  have byte {index : Nat} (within : index < 60) : e.body.getD index 0 = e.payload.1.getD index 0 :=
    getD_take 0 (by omega) _
  have commitment : (slice 28 32 e.payload.1).length = 32 := slice_length _ _ _ (by rw [e.payload.2]; decide)
  have other : ¬ e.type = 7 := by
    rw [type]
    decide
  obtain ⟨generation, policy, profile, round⟩ := giConfigOk_round configured
  obtain ⟨epoch, sequence⟩ := giStateOk_pending state pending
  -- The reference is valid, so that an acknowledgement matches it exactly when it is it.
  have matched : (∃ a, gcAckDecode e.body = some a ∧ gcAckMatch a x.reference = .ok) ↔
      gcAckDecode e.body = some x.reference := by
    have referable : gcAckValid x.reference = true :=
      (gcAckValid_iff _).mpr ⟨generation, policy, profile, round, epoch, sequence⟩
    constructor
    · rintro ⟨a, decoded, same⟩
      rw [decoded, ((gcAckMatch_ok_iff a x.reference).mp same).2]
    · intro decoded
      exact ⟨x.reference, decoded, (gcAckMatch_ok_iff _ _).mpr ⟨referable, rfl⟩⟩
  rw [matched, giSemantics_iff, gcAckDecode_iff, read, byte (by omega), byte (by omega), byte (by omega),
    byte (by omega), and_assoc]
  simp only [if_neg other, length, true_and]
  apply and_congr_right
  intro addressed
  simp only [GiContext.reference, GiContext.Refers, gcAckRead, gcAckValid_iff, GcAck.mk.injEq, gcAckVersion, gcAckKind]
  rw [eq_comm (a := x.commitment), padded_eq_iff commitment]
  constructor
  · rintro ⟨⟨version, kind, first, second, g, p, f, r, same⟩, refersEpoch, refersSequence⟩
    rw [g, p, f, r, refersEpoch, refersSequence]
    exact ⟨version, kind, first, second, ⟨generation, policy, profile, round, epoch, sequence⟩, rfl, rfl, rfl, rfl, rfl,
      rfl, same⟩
  · rintro ⟨version, kind, first, second, -, g, p, f, r, refersEpoch, refersSequence, same⟩
    exact ⟨⟨version, kind, first, second, g.symm, p.symm, f.symm, r.symm, same⟩, refersEpoch.symm, refersSequence.symm⟩

/-- The round, the local reference and the commitment in a stored record. -/
def giRecordReference (b : List U8) : GcAck where
  generation := getU32Le (b.drop 32)
  policy := getU32Le (b.drop 36)
  profile := getU32Le (b.drop 40)
  round := getU32Le (b.drop 44)
  observationEpoch := getU32Le (b.drop 56)
  observationSequence := getU32Le (b.drop 60)
  commitment := padded 32 (slice 80 32 b)

theorem giRecordReference_record (c : GiConfig) (s : GiState) : giRecordReference (giRecord c s).1 =
    ⟨c.generation, c.policy, c.profile, c.round, s.localEpoch, s.localSequence, giCommitment c⟩ := by
  have commitment : slice 80 32 (giRecord c s).1 = (giCommitment c).1 := by
    have body : (giRecord c s).1 = ([0x47, 0x49, 1, 0, s.hasReport, s.pending, s.eligible, c.expectedState] ++
        (giRecordWords c s).flatMap putU32Le) ++ ((giCommitment c).1 ++ (c.measurementDigest.1 ++ (c.publicKey.1 ++
          (List.replicate 48 0 ++ blake2b giDigestSize (giRecordBody c s))))) := by
      simp only [giRecord, giRecordBody, giRecordWords, List.append_assoc]
    rw [body, slice_append_right _ _ (by simp [giRecordWords])]
    exact slice_append_self _ (giCommitment c).2
  have word {index : Nat} (within : index < 18) :=
    giRecordBody_word c s (blake2b giDigestSize (giRecordBody c s)) within
  have generation : getU32Le ((giRecord c s).1.drop 32) = c.generation := word (by decide : 6 < 18)
  have policy : getU32Le ((giRecord c s).1.drop 36) = c.policy := word (by decide : 7 < 18)
  have profile : getU32Le ((giRecord c s).1.drop 40) = c.profile := word (by decide : 8 < 18)
  have round : getU32Le ((giRecord c s).1.drop 44) = c.round := word (by decide : 9 < 18)
  have epoch : getU32Le ((giRecord c s).1.drop 56) = s.localEpoch := word (by decide : 12 < 18)
  have sequence : getU32Le ((giRecord c s).1.drop 60) = s.localSequence := word (by decide : 13 < 18)
  rw [giRecordReference, commitment, generation, policy, profile, round, epoch, sequence,
    ← List.append_nil (giCommitment c).1, padded_self]

/-- The payload is the one that its decoder reads as the configured round's, an acknowledgement as the pending one. -/
def GiContext.Reads (x : GiContext) (e : GseUnverified) : Prop :=
  e.type = 7 ∧ gcWireDecode e.body = some x.observation ∨
    e.type = 8 ∧ x.live.pending = 1 ∧ ∃ a, gcAckDecode e.body = some a ∧ gcAckMatch a x.reference = .ok

/-- The envelope is newer than those of its type, and an acknowledgement follows a report before its deadline. -/
def GiContext.Admits (x : GiContext) (e : GseUnverified) (now : U32) : Prop :=
  if e.type = 7 then x.live.obsSequence < e.sequence
  else x.live.ackSequence < e.sequence ∧ x.live.hasReport = 1 ∧ now < x.live.deadline

section prepare

variable {check : Bytes 64 → Bytes 32 → List U8 → Bool} {x : GiContext} {a : GseaContext} {wire : List U8} {now : U32}
  {evidence : GseaSignatureEvidence}

theorem giPrepare_begun (begun : (giBegin x a now).1 = .ok) (verified : gseaVerify check a wire = .ok evidence) :
    giPrepare check x a wire now =
      if !giSemantics x evidence.envelope then (.semantic, { x with clockFloor := now })
      else match giNext x.live evidence.envelope now with
        | .error result => (result, { x with clockFloor := now })
        | .ok next =>
          (.ok, { x with
            clockFloor := now
            proposed := { next with lastTime := now, revision := next.revision + 1 }
            preparedKind := evidence.envelope.type
            preparedWire := wire
            mode := .prepared }) := by
  rcases giBegin_cases x a now with ⟨refused, -⟩ | ⟨-, -, started⟩
  · exact absurd begun refused
  · unfold giPrepare
    rw [started]
    dsimp only
    rw [if_neg (not_not.mpr rfl), verified]
    rfl

theorem giNext_ne_ok (live : GiState) (e : GseUnverified) : giNext live e now ≠ .error .ok := by
  unfold giNext
  split_ifs <;> simp

theorem giPrepare_ok_iff (begun : (giBegin x a now).1 = .ok) (verified : gseaVerify check a wire = .ok evidence) :
    (giPrepare check x a wire now).1 = .ok ↔
      giSemantics x evidence.envelope = true ∧ ∃ next, giNext x.live evidence.envelope now = .ok next := by
  rw [giPrepare_begun begun verified]
  by_cases semantics : giSemantics x evidence.envelope = true
  · rw [if_neg (by simp [semantics])]
    cases passes : giNext x.live evidence.envelope now with
    | error result =>
      have failed : result ≠ .ok := by
        rintro rfl
        exact giNext_ne_ok _ _ passes
      simp [failed]
    | ok next => simp [semantics]
  · rw [if_pos (by simpa using semantics)]
    simp [semantics]

theorem giNext_ok_iff (e : GseUnverified) : (∃ next, giNext x.live e now = .ok next) ↔
    x.Admits e now ∧ (e.type = 7 ∨ x.live.pending = 1 ∧ x.Refers e) := by
  unfold giNext GiContext.Admits GiContext.Refers
  by_cases observation : e.type = 7
  · rw [if_pos observation, if_pos observation]
    by_cases old : e.sequence ≤ x.live.obsSequence
    · simp [old, BitVec.not_lt.mpr old]
    · simp [old, BitVec.not_le.mp old, observation]
  · rw [if_neg observation, if_neg observation]
    by_cases old : e.sequence ≤ x.live.ackSequence
    · simp [old, BitVec.not_lt.mpr old]
    rw [if_neg old]
    by_cases apart : x.live.pending ≠ 1 ∨ x.live.hasReport ≠ 1 ∨ getU32Le (e.payload.1.drop 20) ≠ x.live.localEpoch ∨
        getU32Le (e.payload.1.drop 24) ≠ x.live.localSequence
    · rw [if_pos apart]
      simp only [exists_false, false_iff, reduceCtorEq]
      rintro ⟨⟨-, report, -⟩, type | ⟨pending, epoch, sequence⟩⟩
      · exact observation type
      · exact apart.elim (· pending) (·.elim (· report) (·.elim (· epoch) (· sequence)))
    rw [if_neg apart]
    simp only [not_or, not_not] at apart
    obtain ⟨pending, report, epoch, sequence⟩ := apart
    by_cases late : now ≥ x.live.deadline
    · simp [late, BitVec.not_lt.mpr late]
    · simp [late, BitVec.not_le.mp late, BitVec.not_le.mp old, pending, report, epoch, sequence]

theorem giPrepare_reads (configured : giConfigOk x.config = true) (state : giStateOk x.live = true)
    (begun : (giBegin x a now).1 = .ok) (verified : gseaVerify check a wire = .ok evidence) :
    (giPrepare check x a wire now).1 = .ok ↔
      x.Addressed evidence.envelope ∧ x.Reads evidence.envelope ∧ x.Admits evidence.envelope now := by
  have valid := gseDecode_valid (gseaVerify_decoded verified)
  rw [giPrepare_ok_iff begun verified, giNext_ok_iff, GiContext.Reads]
  rcases gseDecode_type (gseaVerify_decoded verified) with type | type
  · rw [observation_iff configured valid type]
    have other : evidence.envelope.type ≠ 8 := by
      rw [type]
      decide
    constructor
    · rintro ⟨⟨addressed, decoded⟩, admits, -⟩
      exact ⟨addressed, Or.inl ⟨type, decoded⟩, admits⟩
    · rintro ⟨addressed, ⟨-, decoded⟩ | ⟨acknowledges, -⟩, admits⟩
      · exact ⟨⟨addressed, decoded⟩, admits, Or.inl type⟩
      · exact absurd acknowledges other
  · have other : evidence.envelope.type ≠ 7 := by
      rw [type]
      decide
    constructor
    · rintro ⟨semantics, admits, observes | ⟨pending, refers⟩⟩
      · exact absurd observes other
      · obtain ⟨addressed, decoded⟩ :=
          (acknowledgement_iff configured state pending valid type).mp ⟨semantics, refers⟩
        exact ⟨addressed, Or.inr ⟨type, pending, decoded⟩, admits⟩
    · rintro ⟨addressed, ⟨observes, -⟩ | ⟨-, pending, decoded⟩, admits⟩
      · exact absurd observes other
      · obtain ⟨semantics, refers⟩ :=
          (acknowledgement_iff configured state pending valid type).mpr ⟨addressed, decoded⟩
        exact ⟨semantics, admits, Or.inr ⟨pending, refers⟩⟩

theorem giPrepare_stores (configured : giConfigOk x.config = true) (state : giStateOk x.live = true)
    (sealed : x.commitment = giCommitment x.config) (begun : (giBegin x a now).1 = .ok)
    (verified : gseaVerify check a wire = .ok evidence) (prepared : (giPrepare check x a wire now).1 = .ok) :
    let proposed := (giPrepare check x a wire now).2
    let stored := giRecordReference (giRecord proposed.config proposed.proposed).1
    (evidence.envelope.type = 7 → gcWireDecode evidence.envelope.body =
        some ⟨stored.generation, stored.policy, stored.profile, stored.round, 0, stored.commitment⟩) ∧
      (evidence.envelope.type = 8 → gcAckDecode evidence.envelope.body = some stored) := by
  obtain ⟨addressed, reads, -⟩ := (giPrepare_reads configured state begun verified).mp prepared
  obtain ⟨semantics, next, passes⟩ := (giPrepare_ok_iff begun verified).mp prepared
  rw [giPrepare_begun begun verified, if_neg (by simp [semantics]), passes]
  dsimp only
  rw [giRecordReference_record, ← sealed]
  have reference : next.localEpoch = x.live.localEpoch ∧ next.localSequence = x.live.localSequence := by
    unfold giNext at passes
    split_ifs at passes <;> cases passes <;> exact ⟨rfl, rfl⟩
  rw [reference.1, reference.2]
  rcases reads with ⟨type, decoded⟩ | ⟨type, -, a, decoded, matched⟩
  · refine ⟨fun _ => decoded, fun acknowledges => absurd (type.symm.trans acknowledges) (by decide)⟩
  · refine ⟨fun observes => absurd (type.symm.trans observes) (by decide), fun _ => ?_⟩
    rw [decoded, ((gcAckMatch_ok_iff a x.reference).mp matched).2]
    rfl

end prepare

/-- The ingress transaction and the decoders read every payload alike. The check of an acknowledgement is `semantics`
and the comparison with the pending reference. -/
structure PayloadReadersAgree (x : GiContext) : Prop where
  observation : ∀ e, gseValid e = true → e.type = 7 →
    (giSemantics x e = true ↔ x.Addressed e ∧ ∃ o, gcWireDecode e.body = some o ∧ o.generation = x.config.generation ∧
      o.policy = x.config.policy ∧ o.profile = x.config.profile ∧ o.round = x.config.round ∧
      o.commitment = x.commitment ∧ o.claimsActuation = 0)
  acknowledgement : ∀ e, gseValid e = true → e.type = 8 → x.live.pending = 1 →
    (giSemantics x e = true ∧ x.Refers e ↔
      x.Addressed e ∧ ∃ a, gcAckDecode e.body = some a ∧ gcAckMatch a x.reference = .ok)
  prepared : ∀ check registry wire now evidence, (giBegin x registry now).1 = .ok →
    gseaVerify check registry wire = .ok evidence →
    ((giPrepare check x registry wire now).1 = .ok ↔
      x.Addressed evidence.envelope ∧ x.Reads evidence.envelope ∧ x.Admits evidence.envelope now)
  stored : ∀ check registry wire now evidence, (giBegin x registry now).1 = .ok →
    gseaVerify check registry wire = .ok evidence → (giPrepare check x registry wire now).1 = .ok →
    let proposed := (giPrepare check x registry wire now).2
    let stored := giRecordReference (giRecord proposed.config proposed.proposed).1
    (evidence.envelope.type = 7 → gcWireDecode evidence.envelope.body =
        some ⟨stored.generation, stored.policy, stored.profile, stored.round, 0, stored.commitment⟩) ∧
      (evidence.envelope.type = 8 → gcAckDecode evidence.envelope.body = some stored)

theorem payload_readers_agree {x : GiContext} (configured : giConfigOk x.config = true)
    (sealed : x.commitment = giCommitment x.config) (state : giStateOk x.live = true) : PayloadReadersAgree x where
  observation e valid type := by
    rw [observation_iff configured valid type]
    apply and_congr_right
    intro addressed
    constructor
    · intro decoded
      exact ⟨x.observation, decoded, rfl, rfl, rfl, rfl, rfl, rfl⟩
    · rintro ⟨⟨_, _, _, _, _, _⟩, decoded, rfl, rfl, rfl, rfl, rfl, rfl⟩
      exact decoded
  acknowledgement e valid type pending := acknowledgement_iff configured state pending valid type
  prepared check registry wire now evidence begun verified := giPrepare_reads configured state begun verified
  stored check registry wire now evidence begun verified prepared :=
    giPrepare_stores configured state sealed begun verified prepared

/-- A ready context that has a report and waits for its own observation to be acknowledged. -/
def awaitingConfig : GiConfig := ⟨2, 7, 9, 3, 1, 4, 5, 6, 8, 2, padded 32 [0x11], padded 32 [0x22]⟩

def awaiting : GiContext :=
  { zeroGiContext with
    config := awaitingConfig
    provided := true
    commitment := giCommitment awaitingConfig
    live := ⟨2, 1, 0, 3, 1, 100, 10, 1, 1, 0⟩
    mode := .ready }

theorem payload_readers_agree_awaiting : PayloadReadersAgree awaiting :=
  payload_readers_agree (by decide) rfl (by decide)

end Guardian.NodeLink
