import Guardian.MultiNode.EvidenceChain
import Mathlib.Data.List.Induction
import Mathlib.Data.List.Perm.Subperm

namespace Guardian.MultiNode

open Word Guardian.Crypto

/-- One call of the creator, with the signing function as it is during it. -/
structure CreationCall where
  sign : SignFunction
  request : EvidenceRequest

structure CreationRun where
  witness : WitnessNode
  produced : List EvidenceEnvelope

def creationStep (run : CreationRun) (call : CreationCall) : CreationRun :=
  match evidenceCreate call.sign evidenceStart run.witness call.request with
  | (.ok envelope, witness) => ⟨witness, run.produced ++ [envelope]⟩
  | (.error _, witness) => ⟨witness, run.produced⟩

def creationRun (witness : WitnessNode) (calls : List CreationCall) : CreationRun :=
  Run.after creationStep calls ⟨witness, []⟩

/-- A record that the witness made about the input, newer than what it knew of the subject. -/
structure Witnessed (sign : SignFunction) (node : WitnessNode) (input : WitnessInput) (record : WitnessRecord)
    (after : WitnessNode) : Prop where
  record : ∃ signature, sign node.signatureAlgorithm node.self.keyId (witnessTranscript (witnessUnsigned node input)) =
    (.ok, signature) ∧ record = { witnessUnsigned node input with signature }
  valid : witnessRecordStructurallyValid (witnessUnsigned node input) = true
  self : after.self = node.self
  newer : ∀ state, SlotTable.find SubjectState.key input.key node.subjects.1 = some state →
    state.acceptedEpoch < input.epoch ∨ state.acceptedEpoch = input.epoch ∧ state.acceptedSequence < input.sequence
  stored : ∃ state : SubjectState, state.acceptedEpoch = input.epoch ∧ state.acceptedSequence = input.sequence ∧
    SlotTable.Puts SubjectState.key input.key state node.subjects.1 after.subjects.1

theorem witnessAdmit_ok {node : WitnessNode} {input : WitnessInput} {index : Nat} {existing : Bool}
    (admitted : witnessAdmit node input = .ok (index, existing)) :
    (∀ state, SlotTable.find SubjectState.key input.key node.subjects.1 = some state →
      state.acceptedEpoch < input.epoch ∨ state.acceptedEpoch = input.epoch ∧ state.acceptedSequence < input.sequence) ∧
    ∃ state : SubjectState, state.acceptedEpoch = input.epoch ∧ state.acceptedSequence = input.sequence ∧
      SlotTable.Puts SubjectState.key input.key state node.subjects.1
        (witnessStore node input index existing).subjects.1 := by
  unfold witnessAdmit at admitted
  rcases searched : SlotTable.search SubjectState.key input.key node.subjects.1 0 none with ⟨_ | found, free⟩
  · rw [searched] at admitted
    cases free with
    | none => cases admitted
    | some place =>
      cases admitted
      refine ⟨?_, _, rfl, rfl, SlotTable.puts_free searched rfl⟩
      intro state held
      rw [SlotTable.find_miss searched] at held
      cases held
  · rw [searched] at admitted
    dsimp only at admitted
    obtain ⟨slot, place, held⟩ := SlotTable.find_hit searched
    rw [List.getD_eq_getElem?_getD, place, Option.getD_some] at admitted
    by_cases regressed : input.epoch < slot.acceptedEpoch
    · rw [if_pos regressed] at admitted
      cases admitted
    rw [if_neg regressed] at admitted
    by_cases replayed : input.epoch = slot.acceptedEpoch ∧ input.sequence ≤ slot.acceptedSequence
    · rw [if_pos replayed] at admitted
      cases admitted
    rw [if_neg replayed] at admitted
    cases admitted
    constructor
    · intro state same
      rw [held] at same
      cases same
      simp only [BitVec.lt_def, BitVec.le_def, ← BitVec.toNat_inj] at regressed replayed ⊢
      omega
    · have same : slot.key = some input.key := SlotTable.find_key held
      have holds : (witnessNextState slot input true).key = some input.key := same
      refine ⟨witnessNextState slot input true, rfl, rfl, ?_⟩
      unfold witnessStore
      dsimp only
      rw [List.getD_eq_getElem?_getD, place, Option.getD_some]
      exact SlotTable.puts_hit searched holds

theorem witnessCreate_cases (sign : SignFunction) (node : WitnessNode) (input : WitnessInput) :
    (∃ result, witnessCreate sign node input = (.error result, node)) ∨
      ∃ record after, witnessCreate sign node input = (.ok record, after) ∧ Witnessed sign node input record after := by
  unfold witnessCreate
  by_cases missing : (!node.initialized) = true
  · rw [if_pos missing]
    exact Or.inl ⟨_, rfl⟩
  rw [if_neg missing]
  by_cases malformed : input.subjectNodeId = 0 ∨ input.subjectProducerId = 0 ∨ input.subjectKeyId = 0 ∨
      input.epoch = 0 ∨ input.sequence = 0 ∨ input.payload.length = 0 ∨ input.payload.length > witnessMaxPayload ∨
      witnessEvidenceTypeValid input.evidenceType = false
  · rw [if_pos malformed]
    exact Or.inl ⟨_, rfl⟩
  rw [if_neg malformed]
  cases admitted : witnessAdmit node input with
  | error result => exact Or.inl ⟨_, rfl⟩
  | ok slot =>
    obtain ⟨index, existing⟩ := slot
    dsimp only
    unfold witnessBuildTranscript
    by_cases invalid : (!witnessRecordStructurallyValid (witnessUnsigned node input)) = true
    · rw [if_pos invalid]
      exact Or.inl ⟨_, rfl⟩
    rw [if_neg invalid, if_neg (Nat.lt_irrefl _)]
    rw [Bool.not_eq_true, Bool.not_eq_false'] at invalid
    dsimp only
    rcases signed : sign node.signatureAlgorithm node.self.keyId (witnessTranscript (witnessUnsigned node input)) with
      ⟨result, signature⟩
    cases result with
    | ok =>
      obtain ⟨newer, stored⟩ := witnessAdmit_ok admitted
      exact Or.inr ⟨_, _, rfl, ⟨signature, signed, rfl⟩, invalid, rfl, newer, stored⟩
    | signatureInvalid | keyUnknown | keyRevoked | unavailable | failure => exact Or.inl ⟨_, rfl⟩

/-- An envelope that was created for a request, with its two transcripts and its digest. -/
structure Created (sign : SignFunction) (witness : WitnessNode) (request : EvidenceRequest)
    (envelope : EvidenceEnvelope) (after : WitnessNode) : Prop where
  core : envelope.core = request.core
  producer : multinodeValidateNode request.producer = .ok
  transcript : evidenceBuildTranscript request.core evidenceTranscriptMaxSize = .ok (evidenceTranscript request.core)
  witnessed : Witnessed sign witness (request.witnessInput (evidenceTranscript request.core)) envelope.witnessRecord after
  digest : evidenceComputeDigest envelope.core envelope.witnessRecord = .ok envelope.evidenceDigest

theorem evidenceBuildTranscript_ok {core : EvidenceCore} {capacity : Nat} {transcript : List U8}
    (built : evidenceBuildTranscript core capacity = .ok transcript) : transcript = evidenceTranscript core := by
  unfold evidenceBuildTranscript at built
  split_ifs at built
  cases built
  rfl

theorem evidenceTranscript_length (core : EvidenceCore) : (evidenceTranscript core).length = 156 := by
  simp only [evidenceTranscript, List.length_append, putU32Be_length, core.payloadDigest.2, core.analysisDigest.2,
    core.previousEvidenceDigest.2]
  rfl

theorem evidenceComputeDigest_some {core : EvidenceCore}
    (built : evidenceBuildTranscript core evidenceTranscriptMaxSize = .ok (evidenceTranscript core))
    (record : WitnessRecord) : ∃ digest, evidenceComputeDigest core record = .ok digest := by
  have fits : ¬ evidenceDigestDomain.length + (evidenceTranscript core).length + 64 > evidenceDigestInputMaxSize := by
    rw [evidenceTranscript_length]
    decide
  unfold evidenceComputeDigest
  rw [built]
  dsimp only
  rw [if_neg fits]
  exact ⟨_, rfl⟩

theorem evidenceCreate_cases (sign : SignFunction) (witness : WitnessNode) (request : EvidenceRequest) :
    (∃ result, evidenceCreate sign evidenceStart witness request = (.error result, witness)) ∨
      ∃ envelope after, evidenceCreate sign evidenceStart witness request = (.ok envelope, after) ∧
        Created sign witness request envelope after := by
  unfold evidenceCreate
  rw [if_neg (by decide)]
  by_cases invalid : multinodeValidateNode request.producer ≠ .ok ∨ evidenceClassValid request.evidenceClass = false ∨
      request.epoch = 0 ∨ request.sequence = 0
  · rw [if_pos invalid]
    exact Or.inl ⟨_, rfl⟩
  rw [if_neg invalid]
  rw [not_or, not_not] at invalid
  cases built : evidenceBuildTranscript request.core evidenceTranscriptMaxSize with
  | error result => exact Or.inl ⟨_, rfl⟩
  | ok transcript =>
    have same := evidenceBuildTranscript_ok built
    subst same
    dsimp only
    rcases witnessCreate_cases sign witness (request.witnessInput (evidenceTranscript request.core)) with
      ⟨result, failed⟩ | ⟨record, after, created, witnessed⟩
    · rw [failed]
      exact Or.inl ⟨_, rfl⟩
    · obtain ⟨digest, computed⟩ := evidenceComputeDigest_some built record
      rw [created]
      dsimp only
      rw [computed]
      exact Or.inr ⟨_, _, rfl, rfl, invalid.1, built, witnessed, computed⟩

/-- The conditions under which created evidence is sent: the functions of the receiver answer for the creator's. -/
structure Trusting (verify : VerifyFunction) (lookup : LookupFunction) (call : CreationCall) : Prop where
  authorised : evidenceRoleAuthorized call.request.evidenceClass call.request.producer = true
  resolves : lookup call.request.producer.nodeId call.request.producer.producerId call.request.producer.keyId =
    some (call.request.producer, .trusted)
  accepts : ∀ algorithm key message signature, call.sign algorithm key message = (.ok, signature) →
    verify algorithm key message signature = .ok

/-- A witness with the same name, which may know other subjects. -/
structure SameWitness (left right : WitnessNode) : Prop where
  nodeId : left.self.nodeId = right.self.nodeId
  producerId : left.self.producerId = right.self.producerId
  keyId : left.self.keyId = right.self.keyId

theorem Created.verified {call : CreationCall} {witness after receiver : WitnessNode} {envelope : EvidenceEnvelope}
    (created : Created call.sign witness call.request envelope after) {verify : VerifyFunction} {lookup : LookupFunction}
    (trusting : Trusting verify lookup call) (ready : receiver.initialized = true) (same : SameWitness receiver witness)
    (verdict : EvidenceVerdict) :
    evidenceVerify verify receiver envelope verdict = (.ok, { verdict with signatureValid := true }) := by
  obtain ⟨signature, signed, record⟩ := created.witnessed.record
  have accepted := trusting.accepts _ _ _ _ signed
  have valid := created.witnessed.valid
  have digest := created.digest
  unfold evidenceVerify
  rw [created.core, created.transcript]
  dsimp only
  have named : ¬ (envelope.witnessRecord.subjectNodeId ≠ call.request.core.producerNodeId ∨
      envelope.witnessRecord.subjectProducerId ≠ call.request.core.producerId ∨
      envelope.witnessRecord.subjectKeyId ≠ call.request.core.producerKeyId ∨
      envelope.witnessRecord.epoch ≠ call.request.core.epoch ∨
      envelope.witnessRecord.sequence ≠ call.request.core.sequence ∨
      envelope.witnessRecord.evidenceType ≠ evidenceWitnessType call.request.core.evidenceClass) := by
    rw [record]
    simp [witnessUnsigned, EvidenceRequest.witnessInput, EvidenceRequest.core]
  have hashed : ¬ sha256Bytes (evidenceTranscript call.request.core) ≠ envelope.witnessRecord.payloadDigest := by
    rw [record]
    exact not_not.mpr rfl
  have witnessed : witnessVerify verify receiver envelope.witnessRecord = .ok := by
    have other : ¬ (envelope.witnessRecord.witnessNodeId ≠ receiver.self.nodeId ∨
        envelope.witnessRecord.witnessProducerId ≠ receiver.self.producerId ∨
        envelope.witnessRecord.witnessKeyId ≠ receiver.self.keyId) := by
      rw [record, same.nodeId, same.producerId, same.keyId]
      simp [witnessUnsigned]
    have structural : witnessRecordStructurallyValid envelope.witnessRecord = true := by
      rw [record]
      exact valid
    rw [witnessVerify, ready, structural, if_neg (by decide), if_neg (by decide), if_neg other, witnessBuildTranscript,
      structural, if_neg (by decide), if_neg (Nat.lt_irrefl _), record]
    exact congrArg witnessMapProvider accepted
  rw [if_neg named, if_neg hashed, witnessed]
  dsimp only
  rw [← created.core, digest]
  dsimp only
  rw [if_neg (not_not.mpr rfl)]

theorem Created.authorised {call : CreationCall} {witness after : WitnessNode} {envelope : EvidenceEnvelope}
    (created : Created call.sign witness call.request envelope after) {verify : VerifyFunction} {lookup : LookupFunction}
    (trusting : Trusting verify lookup call) (verdict : EvidenceVerdict) :
    evidenceAuthorize lookup envelope.core verdict = (.ok, { verdict with trusted := true, authorized := true }) := by
  have agrees : ¬ (call.request.producer.nodeId ≠ call.request.core.producerNodeId ∨
      call.request.producer.producerId ≠ call.request.core.producerId ∨
      call.request.producer.keyId ≠ call.request.core.producerKeyId ∨
      call.request.producer.role ≠ call.request.core.producerRole ∨
      multinodeValidateNode call.request.producer ≠ .ok ∨
      evidenceRoleAuthorized call.request.core.evidenceClass call.request.producer = false) := by
    have permitted : evidenceRoleAuthorized call.request.core.evidenceClass call.request.producer = true :=
      trusting.authorised
    simp [EvidenceRequest.core, created.producer, trusting.authorised]
  have resolved : lookup call.request.core.producerNodeId call.request.core.producerId call.request.core.producerKeyId =
      some (call.request.producer, .trusted) := trusting.resolves
  rw [created.core, evidenceAuthorize, resolved]
  dsimp only
  rw [if_neg (by decide), if_neg (by decide), if_neg agrees]

theorem EvidenceChain.before {envelopes : List EvidenceEnvelope} {envelope : EvidenceEnvelope}
    (chain : EvidenceChain (envelopes ++ [envelope])) : EvidenceChain envelopes := by
  refine ⟨?_, (List.isChain_append.mp chain.linked).1⟩
  intro first member
  cases envelopes with
  | nil => cases member
  | cons head tail => exact chain.starts first member

theorem evidenceChain_accepts {context : SignedEvidence} {core : EvidenceCore}
    (continues : match SlotTable.find ProducerState.key core.key context.producers.1 with
      | none => core.previousEvidenceDigest = zeroDigest ∧
          (SlotTable.keys ProducerState.key context.producers.1).length < evidenceMaxTrackedProducers
      | some state => core.previousEvidenceDigest = state.lastEvidenceDigest ∧
          (state.acceptedEpoch < core.epoch ∨ state.acceptedEpoch = core.epoch ∧ state.acceptedSequence < core.sequence))
    (verdict : EvidenceVerdict) : ∃ index after, evidenceChain context core verdict = (.ok index, after) := by
  unfold evidenceChain
  rcases searched : SlotTable.search ProducerState.key core.key context.producers.1 0 none with ⟨_ | found, free⟩
  · rw [SlotTable.find_miss searched] at continues
    cases free with
    | none =>
      have full := SlotTable.keys_length_full (SlotTable.search_full searched)
      rw [context.producers.2] at full
      omega
    | some place =>
      dsimp only
      rw [if_neg (not_not.mpr continues.1)]
      exact ⟨_, _, rfl⟩
  · obtain ⟨slot, place, held⟩ := SlotTable.find_hit searched
    rw [held] at continues
    dsimp only
    rw [List.getD_eq_getElem?_getD, place, Option.getD_some, if_neg (not_not.mpr continues.1)]
    have fresh : ¬ (core.epoch < slot.acceptedEpoch ∨
        core.epoch = slot.acceptedEpoch ∧ core.sequence ≤ slot.acceptedSequence) := by
      have newer := continues.2
      simp only [BitVec.lt_def, BitVec.le_def, ← BitVec.toNat_inj] at newer ⊢
      omega
    rw [if_neg fresh]
    exact ⟨_, _, rfl⟩

theorem evidenceRun_initialized (calls : List EvidenceCall) : (evidenceRun calls).context.initialized = true := by
  have preserved (run : EvidenceRun) (call : EvidenceCall) (ready : run.context.initialized = true) :
      (evidenceStep run call).context.initialized = true := by
    unfold evidenceStep
    dsimp only
    rcases call.outcome_cases run.context with ⟨_, same⟩ | ⟨_, index, _, stored⟩
    · rw [same]
      exact ready
    · rw [stored]
      exact ready
  exact @Run.after_invariant EvidenceRun EvidenceCall evidenceStep (fun run => run.context.initialized = true)
    preserved _ rfl calls

/-- The creator's subjects are up to date with what it produced. -/
structure Agreement (witness : WitnessNode) (produced : List EvidenceEnvelope) : Prop where
  known : ∀ envelope ∈ produced, envelope.core.key ∈ SlotTable.keys SubjectState.key witness.subjects.1
  last : ∀ key, ∀ envelope ∈ (producedBy key produced).getLast?,
    ∃ state, SlotTable.find SubjectState.key key witness.subjects.1 = some state ∧
      state.acceptedEpoch = envelope.core.epoch ∧ state.acceptedSequence = envelope.core.sequence

theorem Created.key {sign : SignFunction} {witness after : WitnessNode} {request : EvidenceRequest}
    {envelope : EvidenceEnvelope} (created : Created sign witness request envelope after) :
    envelope.core.key = (request.witnessInput (evidenceTranscript request.core)).key := by
  rw [created.core]
  rfl

theorem Agreement.create {sign : SignFunction} {witness after : WitnessNode} {request : EvidenceRequest}
    {envelope : EvidenceEnvelope} {produced : List EvidenceEnvelope} (agreement : Agreement witness produced)
    (created : Created sign witness request envelope after) : Agreement after (produced ++ [envelope]) := by
  obtain ⟨state, epoch, sequence, puts⟩ := created.witnessed.stored
  rw [← created.key] at puts
  constructor
  · intro other member
    rw [puts.mem_keys]
    rcases List.mem_append.mp member with before | single
    · exact Or.inr (agreement.known other before)
    · rw [List.mem_singleton] at single
      exact Or.inl (by rw [single])
  · intro key last held
    rw [producedBy_snoc] at held
    by_cases same : envelope.core.key = key
    · subst same
      rw [if_pos rfl, List.getLast?_concat] at held
      cases held
      refine ⟨state, puts.found, ?_, ?_⟩
      · rw [epoch, created.core]
        rfl
      · rw [sequence, created.core]
        rfl
    · rw [if_neg same] at held
      rw [puts.others key (Ne.symm same)]
      exact agreement.last key last held

/-- A table that follows the creator has room for each producer that the creator could still record. -/
theorem Agreement.room {sign : SignFunction} {witness after : WitnessNode} {request : EvidenceRequest}
    {envelope : EvidenceEnvelope} {produced : List EvidenceEnvelope} (agreement : Agreement witness produced)
    (created : Created sign witness request envelope after) {context : SignedEvidence} (tracks : Tracks context produced)
    (new : SlotTable.find ProducerState.key envelope.core.key context.producers.1 = none) :
    (SlotTable.keys ProducerState.key context.producers.1).length < evidenceMaxTrackedProducers := by
  obtain ⟨state, epoch, sequence, puts⟩ := created.witnessed.stored
  rw [← created.key] at puts
  have absent := SlotTable.find_none.mp new
  have inside : envelope.core.key :: SlotTable.keys ProducerState.key context.producers.1 ⊆
      SlotTable.keys SubjectState.key after.subjects.1 := by
    intro key member
    rw [puts.mem_keys]
    rcases List.mem_cons.mp member with rfl | held
    · exact Or.inl rfl
    · right
      have last := tracks.last key
      cases ended : (producedBy key produced).getLast? with
      | none =>
        rw [ended, Option.map_none, Option.map_eq_none_iff] at last
        exact absurd held (SlotTable.find_none.mp last)
      | some envelope =>
        have own := List.mem_filter.mp (List.mem_of_getLast? ended)
        rw [← of_decide_eq_true own.2]
        exact agreement.known envelope own.1
  have unique := List.nodup_cons.mpr ⟨absent, tracks.unique⟩
  have fewer := (List.subperm_of_subset unique inside).length_le
  have bound : (SlotTable.keys SubjectState.key _).length ≤ _ := SlotTable.keys_length_le after.subjects.1
  rw [after.subjects.2] at bound
  rw [List.length_cons] at fewer
  unfold witnessMaxSubjects at bound
  unfold evidenceMaxTrackedProducers
  omega

theorem Agreement.accepts {call : CreationCall} {witness after receiver : WitnessNode} {envelope : EvidenceEnvelope}
    {produced : List EvidenceEnvelope} (agreement : Agreement witness produced)
    (created : Created call.sign witness call.request envelope after) {verify : VerifyFunction} {lookup : LookupFunction}
    (trusting : Trusting verify lookup call) (ready : receiver.initialized = true) (same : SameWitness receiver witness)
    {context : SignedEvidence} (open_ : context.initialized = true) (tracks : Tracks context produced)
    (chain : EvidenceChain (producedBy envelope.core.key produced ++ [envelope])) :
    ((EvidenceCall.mk verify lookup receiver envelope).outcome context).1 = .ok := by
  have last := tracks.last envelope.core.key
  have continues : match SlotTable.find ProducerState.key envelope.core.key context.producers.1 with
      | none => envelope.core.previousEvidenceDigest = zeroDigest ∧
          (SlotTable.keys ProducerState.key context.producers.1).length < evidenceMaxTrackedProducers
      | some state => envelope.core.previousEvidenceDigest = state.lastEvidenceDigest ∧
          (state.acceptedEpoch < envelope.core.epoch ∨
            state.acceptedEpoch = envelope.core.epoch ∧ state.acceptedSequence < envelope.core.sequence) := by
    cases found : SlotTable.find ProducerState.key envelope.core.key context.producers.1 with
    | none =>
      rw [found, Option.map_none, eq_comm, Option.map_eq_none_iff, List.getLast?_eq_none_iff] at last
      rw [last] at chain
      exact ⟨chain.starts envelope rfl, agreement.room created tracks found⟩
    | some state =>
      rw [found, Option.map_some, eq_comm, Option.map_eq_some_iff] at last
      obtain ⟨previous, ended, head⟩ := last
      have linked := (List.isChain_append.mp chain.linked).2.2 previous ended envelope rfl
      obtain ⟨subject, held, epoch, sequence⟩ := agreement.last _ previous ended
      rw [created.key] at held
      have newer := created.witnessed.newer subject held
      have heads := Prod.mk.inj head
      refine ⟨linked.trans (congrArg (fun head => head.2.2) head), ?_⟩
      rw [← heads.1, ← (Prod.mk.inj heads.2).1, ← epoch, ← sequence, created.core]
      exact newer
  unfold EvidenceCall.outcome evidenceVerifyAndAccept
  dsimp only
  rw [open_, if_neg (by decide), created.verified trusting ready same]
  dsimp only
  rw [created.authorised trusting]
  obtain ⟨index, verdict, chained⟩ := evidenceChain_accepts continues _
  dsimp only
  rw [chained]

/-- What is created with an authorised producer and chained is accepted, in the order of its creation. -/
theorem evidence_creation_accepted (witness receiver : WitnessNode) (verify : VerifyFunction) (lookup : LookupFunction)
    (ready : receiver.initialized = true) (same : SameWitness receiver witness) (calls : List CreationCall)
    (trusting : ∀ call ∈ calls, Trusting verify lookup call)
    (chained : ∀ key, EvidenceChain (producedBy key (creationRun witness calls).produced)) :
    (evidenceRun ((creationRun witness calls).produced.map (EvidenceCall.mk verify lookup receiver))).accepted =
      (creationRun witness calls).produced := by
  have all : Agreement (creationRun witness calls).witness (creationRun witness calls).produced ∧
      SameWitness receiver (creationRun witness calls).witness ∧
      (evidenceRun ((creationRun witness calls).produced.map (EvidenceCall.mk verify lookup receiver))).accepted =
        (creationRun witness calls).produced := by
    induction calls using List.reverseRecOn with
    | nil =>
      refine ⟨⟨?_, ?_⟩, same, rfl⟩
      · intro envelope member
        cases member
      · intro key envelope member
        cases member
    | append_singleton calls call ih =>
      have step : creationRun witness (calls ++ [call]) = creationStep (creationRun witness calls) call :=
        Run.after_snoc _ _ _ _
      rw [step] at chained ⊢
      have own := trusting call (List.mem_append_right _ (List.mem_singleton.mpr rfl))
      have others := fun other member => trusting other (List.mem_append_left _ member)
      unfold creationStep at chained ⊢
      rcases evidenceCreate_cases call.sign (creationRun witness calls).witness call.request with
        ⟨result, failed⟩ | ⟨envelope, after, succeeded, created⟩
      · rw [failed] at chained ⊢
        exact ih others chained
      · rw [succeeded] at chained ⊢
        dsimp only at chained ⊢
        have before (key : ProducerKey) : EvidenceChain (producedBy key (creationRun witness calls).produced) := by
          have whole := chained key
          rw [producedBy_snoc] at whole
          by_cases equal : envelope.core.key = key
          · rw [if_pos equal] at whole
            exact whole.before
          · rw [if_neg equal] at whole
            exact whole
        have extended := chained envelope.core.key
        rw [producedBy_snoc, if_pos rfl] at extended
        obtain ⟨agreement, same, accepted⟩ := ih others before
        have tracks := evidenceRun_tracks
          ((creationRun witness calls).produced.map (EvidenceCall.mk verify lookup receiver))
        have ready' := evidenceRun_initialized
          ((creationRun witness calls).produced.map (EvidenceCall.mk verify lookup receiver))
        rw [accepted] at tracks
        have taken := agreement.accepts created own ready same ready' tracks extended
        refine ⟨agreement.create created, ?_, ?_⟩
        · have self := created.witnessed.self
          exact ⟨by rw [self, same.nodeId], by rw [self, same.producerId], by rw [self, same.keyId]⟩
        · rw [List.map_append, List.map_singleton, evidenceRun_snoc, evidenceStep_accepted taken, accepted]
  exact all.2.2

theorem creationStep_cases (run : CreationRun) (call : CreationCall) :
    (creationStep run call).produced = run.produced ∨
      ∃ envelope, (creationStep run call).produced = run.produced ++ [envelope] ∧ envelope.core = call.request.core := by
  unfold creationStep
  rcases evidenceCreate_cases call.sign run.witness call.request with
    ⟨result, failed⟩ | ⟨envelope, after, succeeded, created⟩
  · rw [failed]
    exact Or.inl rfl
  · rw [succeeded]
    exact Or.inr ⟨envelope, rfl, created.core⟩

theorem creationRun_pair {witness : WitnessNode} {first second : CreationCall}
    (length : (creationRun witness [first, second]).produced.length = 2) :
    ∃ start next, (creationRun witness [first]).produced = [start] ∧
      (creationRun witness [first, second]).produced = [start, next] ∧ start.core = first.request.core ∧
      next.core = second.request.core := by
  have split : creationRun witness [first, second] = creationStep (creationRun witness [first]) second := rfl
  have alone : creationRun witness [first] = creationStep ⟨witness, []⟩ first := rfl
  rw [split] at length ⊢
  rcases creationStep_cases ⟨witness, []⟩ first with none | ⟨start, one, core⟩
  · rcases creationStep_cases (creationRun witness [first]) second with same | ⟨next, two, _⟩
    · rw [same, alone, none] at length
      cases length
    · rw [two, alone, none] at length
      cases length
  · rw [← alone] at one
    rcases creationStep_cases (creationRun witness [first]) second with same | ⟨next, two, other⟩
    · rw [same, one] at length
      cases length
    · rw [one] at two
      exact ⟨start, next, one, two, core, other⟩

def copySign : SignFunction := fun _ _ message => (.ok, padded 64 message)

def copyVerify : VerifyFunction := fun _ _ message signature =>
  if signature = padded 64 message then .ok else .signatureInvalid

def referenceProducer : MultinodeNode :=
  ⟨3, 30, 300, roleStMeasurementReference, authorityObserve, capObservation ||| capSensorAcquisition⟩

def referenceWitness : WitnessNode :=
  ⟨⟨4, 40, 400, roleSecurityWitness, authorityWitness, capObservation ||| capEvidenceWitness ||| capSignatureVerify⟩,
    witnessSignatureEd25519, ⟨List.replicate witnessMaxSubjects .empty, List.length_replicate⟩, 0, true⟩

def referenceCall (sequence : U32) (previous : Bytes 32) : CreationCall :=
  ⟨copySign, ⟨referenceProducer, classMeasurement, 1, sequence, zeroDigest, zeroDigest, previous⟩⟩

theorem referenceCall_previous (sequence : U32) (previous : Bytes 32) :
    (referenceCall sequence previous).request.core.previousEvidenceDigest = previous := rfl

theorem referenceCall_key (sequence : U32) (previous : Bytes 32) :
    (referenceCall sequence previous).request.core.key = referenceProducer.key := rfl

def firstDigest : Bytes 32 :=
  ((creationRun referenceWitness [referenceCall 1 zeroDigest]).produced.head?.map EvidenceEnvelope.evidenceDigest).getD
    zeroDigest

theorem evidence_creation_accepted_pair :
    (creationRun referenceWitness [referenceCall 1 zeroDigest, referenceCall 2 firstDigest]).produced.length = 2 ∧
      (evidenceRun ((creationRun referenceWitness
        [referenceCall 1 zeroDigest, referenceCall 2 firstDigest]).produced.map
          (EvidenceCall.mk copyVerify (fun _ _ _ => some (referenceProducer, .trusted)) referenceWitness))).accepted =
        (creationRun referenceWitness [referenceCall 1 zeroDigest, referenceCall 2 firstDigest]).produced := by
  have length : (creationRun referenceWitness [referenceCall 1 zeroDigest, referenceCall 2 firstDigest]).produced.length = 2 := by
    decide +kernel
  refine ⟨length, evidence_creation_accepted referenceWitness referenceWitness copyVerify _ rfl ⟨rfl, rfl, rfl⟩ _ ?_ ?_⟩
  · intro call member
    have signs : call.sign = copySign ∧ evidenceRoleAuthorized call.request.evidenceClass call.request.producer = true ∧
        call.request.producer = referenceProducer := by
      simp only [List.mem_cons, List.not_mem_nil, or_false] at member
      rcases member with rfl | rfl <;> exact ⟨rfl, by decide, rfl⟩
    obtain ⟨sign, authorised, producer⟩ := signs
    refine ⟨authorised, by rw [producer], ?_⟩
    intro algorithm key message signature signed
    rw [sign] at signed
    cases signed
    exact if_pos rfl
  · intro key
    obtain ⟨first, next, alone, both, started, continued⟩ := creationRun_pair length
    have zero : first.core.previousEvidenceDigest = zeroDigest := by rw [started, referenceCall_previous]
    have digest : next.core.previousEvidenceDigest = first.evidenceDigest := by
      rw [continued, referenceCall_previous, firstDigest, alone]
      rfl
    have same : next.core.key = first.core.key := by rw [started, continued, referenceCall_key, referenceCall_key]
    have chain : EvidenceChain [first, next] := by
      constructor
      · intro head member
        cases member
        exact zero
      · exact List.isChain_pair.mpr digest
    rw [both]
    by_cases own : first.core.key = key
    · have both : producedBy key [first, next] = [first, next] := by
        apply List.filter_eq_self.mpr
        intro envelope member
        simp only [List.mem_cons, List.not_mem_nil, or_false] at member
        rcases member with rfl | rfl
        · exact decide_eq_true own
        · exact decide_eq_true (same.trans own)
      rw [both]
      exact chain
    · have neither : producedBy key [first, next] = [] := by
        apply List.filter_eq_nil_iff.mpr
        intro envelope member
        simp only [List.mem_cons, List.not_mem_nil, or_false] at member
        rw [decide_eq_true_eq]
        rcases member with rfl | rfl
        · exact own
        · rw [same]
          exact own
      rw [neither]
      constructor
      · intro head member
        cases member
      · exact List.isChain_nil

end Guardian.MultiNode
