import Mathlib.Data.List.Induction
import Guardian.Assurance.Authentication
import Guardian.Assurance.SignedMember

namespace Guardian.Assurance

open JsonText Raising Word

variable {ε : Type}

def u16 (value : ℕ) : List U8 := [BitVec.ofNat 8 (value / 0x100), BitVec.ofNat 8 value]

def u32 (value : ℕ) : List U8 :=
  [BitVec.ofNat 8 (value / 0x1000000), BitVec.ofNat 8 (value / 0x10000), BitVec.ofNat 8 (value / 0x100),
    BitVec.ofNat 8 value]

theorem u16_injective {first second : ℕ} (small : first ≤ 0xFFFF) (other : second ≤ 0xFFFF)
    (same : u16 first = u16 second) : first = second := by
  simp only [u16, List.cons.injEq, ← BitVec.toNat_inj, BitVec.toNat_ofNat] at same
  omega

def transcriptOf (purpose keyId subject canonical : List U8) : List U8 :=
  purpose ++ (u16 keyId.length ++ (keyId ++ (u16 subject.length ++ (subject ++ (u32 canonical.length ++ canonical)))))

theorem joinTranscript_ok {short long : ε} {purpose keyId subject canonical transcript : List U8}
    (joined : joinTranscript short long purpose keyId subject canonical = .ok transcript) :
    (keyId.length ≤ 0xFFFF ∧ subject.length ≤ 0xFFFF ∧ canonical.length ≤ 0xFFFFFFFF) ∧
      transcript = transcriptOf purpose keyId subject canonical := by
  simp only [joinTranscript, encodeU16, encodeU32, Check.bound, require_ok] at joined
  obtain ⟨_, ⟨-, fitsKey, ⟨⟩⟩, _, ⟨-, fitsSubject, ⟨⟩⟩, _, ⟨-, fitsCanonical, ⟨⟩⟩, ⟨⟩⟩ := joined
  exact ⟨⟨fitsKey, fitsSubject, fitsCanonical⟩, by simp [transcriptOf, u16, u32]⟩

def purposes : List (List U8) :=
  [ascii "GUARDIAN-F401:M15:SIGNED-ASSURANCE:V1:OBSERVATION", ascii "GUARDIAN-F401:M15:SIGNED-ASSURANCE:V1:DECISION",
    ascii "GUARDIAN-F401:M15:SIGNED-ASSURANCE:V1:WITNESS", ascii "GUARDIAN-F401:M15:AUTHORIZATION:V1:BOOTSTRAP",
    ascii "GUARDIAN-F401:M15:AUTHORIZATION:V1:EPOCH-TRANSITION"]

theorem purposes_apart : ∀ first ∈ purposes, ∀ second ∈ purposes, first <+: second → first = second := by
  decide

theorem transcriptOf_injective {purpose purpose' keyId keyId' subject subject' canonical canonical' : List U8}
    (known : purpose ∈ purposes) (known' : purpose' ∈ purposes)
    (fits : keyId.length ≤ 0xFFFF ∧ subject.length ≤ 0xFFFF ∧ canonical.length ≤ 0xFFFFFFFF)
    (fits' : keyId'.length ≤ 0xFFFF ∧ subject'.length ≤ 0xFFFF ∧ canonical'.length ≤ 0xFFFFFFFF)
    (same : transcriptOf purpose keyId subject canonical = transcriptOf purpose' keyId' subject' canonical') :
    purpose = purpose' ∧ keyId = keyId' ∧ subject = subject' ∧ canonical = canonical' := by
  have samePurpose : purpose = purpose' := by
    have begins : purpose <+: transcriptOf purpose keyId subject canonical := List.prefix_append _ _
    have begins' : purpose' <+: transcriptOf purpose keyId subject canonical := same ▸ List.prefix_append _ _
    rcases List.prefix_or_prefix_of_prefix begins begins' with first | second
    · exact purposes_apart _ known _ known' first
    · exact (purposes_apart _ known' _ known second).symm
  subst samePurpose
  have afterPurpose := List.append_cancel_left same
  obtain ⟨keyLength, afterLength⟩ := List.append_inj afterPurpose rfl
  obtain ⟨rfl, afterKey⟩ := List.append_inj afterLength (u16_injective fits.1 fits'.1 keyLength)
  obtain ⟨subjectLength, afterLength⟩ := List.append_inj afterKey rfl
  obtain ⟨rfl, afterSubject⟩ := List.append_inj afterLength (u16_injective fits.2.1 fits'.2.1 subjectLength)
  exact ⟨rfl, rfl, rfl, (List.append_inj afterSubject rfl).2⟩

def nameBytes (codes : PyString) : List U8 := codes.map (BitVec.ofNat 8)

def IsAscii (codes : PyString) : Prop := ∀ code ∈ codes, code < 128

theorem nameBytes_injective {first second : PyString} (isAscii : IsAscii first) (other : IsAscii second)
    (same : nameBytes first = nameBytes second) : first = second := by
  induction first generalizing second with
  | nil => exact (List.map_eq_nil_iff.mp same.symm).symm
  | cons code codes ih =>
    obtain ⟨code', codes', rfl⟩ : ∃ code' codes', second = code' :: codes' := by
      cases second with
      | nil => cases same
      | cons code' codes' => exact ⟨code', codes', rfl⟩
    simp only [IsAscii, List.forall_mem_cons] at isAscii other
    simp only [nameBytes, List.map_cons, List.cons.injEq, ← BitVec.toNat_inj, BitVec.toNat_ofNat] at same
    rw [ih isAscii.2 other.2 same.2, List.cons.injEq]
    exact ⟨by omega, rfl⟩

theorem isAscii_of_isIdentifier {maximum : ℕ} {codes : PyString} (is : isIdentifier maximum codes = true) :
    IsAscii codes := by
  simp only [isIdentifier, decide_eq_true_eq, List.all_eq_true] at is
  intro code member
  have within := is.2.2 code member
  simp only [isIdentifierCode, decide_eq_true_eq] at within
  omega

theorem encodeAscii_eq_some {codes : PyString} {bytes : List U8} :
    encodeAscii codes = some bytes ↔ IsAscii codes ∧ bytes = nameBytes codes := by
  have all : codes.all (· < 128) = true ↔ IsAscii codes := by simp [IsAscii]
  unfold encodeAscii
  split
  · rw [Option.some.injEq]
    exact ⟨fun same => ⟨all.mp ‹_›, same.symm⟩, fun ⟨_, same⟩ => same.symm⟩
  · exact ⟨nofun, fun ⟨isAscii, _⟩ => absurd (all.mpr isAscii) ‹_›⟩

theorem validateKeyId_ok {codes : PyString} {bytes : List U8} (is : validateKeyId (.str codes) = .ok bytes) :
    IsAscii codes ∧ bytes = nameBytes codes := by
  simp only [validateKeyId] at is
  split at is
  · cases is
  · split at is
    · cases is
    · rename_i encoded ascii
      split at is
      · cases is
      · cases is
        exact encodeAscii_eq_some.mp ascii

theorem encodeUtf8_ascii {codes : PyString} (isAscii : IsAscii codes) :
    (encodeUtf8 codes : Raises ε (List U8)) = .ok (nameBytes codes) := by
  refine encodeUtf8_ok.mpr ⟨?_, ?_⟩
  · rw [List.any_eq_false]
    intro code member
    have small := isAscii code member
    simp only [isSurrogate, decide_eq_true_eq]
    omega
  · rw [nameBytes, ← List.flatMap_singleton' (codes.map _), List.flatMap_map]
    apply List.flatMap_congr
    intro code member
    rw [utf8Octets, if_pos (isAscii code member)]

/-- The fields of a validated assurance object that its authentication reads. -/
structure EnvelopeFields (members : Members) (objectType producerId : PyString) : Prop where
  typed : members.lookup (py "object_type") = some (.str objectType)
  known : objectType ∈ objectTypes
  produced : members.lookup (py "producer_id") = some (.str producerId)
  named : isIdentifier 128 producerId = true

theorem parseAndValidateEnvelope_ok {raw : ByteArray} {limits : AssuranceLimits} {members : Members}
    (is : parseAndValidateEnvelope raw limits = .ok members) :
    decodeStrictJson raw = .ok (.dict members) ∧
      ∃ objectType producerId, EnvelopeFields members objectType producerId := by
  simp only [parseAndValidateEnvelope, Check.bound, require_ok, rewrap_ok] at is
  obtain ⟨-, -, value, decoded, -, -, is⟩ := is
  unfold validateEnvelope at is
  split at is
  · rename_i others
    simp only [Check.bound, require_ok, requireText_ok, item_ok, validateProducerId] at is
    obtain ⟨-, -, _, typeAt, objectType, ⟨rfl, -⟩, -, known, _, producerAt, producerId, ⟨rfl, named⟩, is⟩ := is
    obtain ⟨_, -, _, -, _, -, _, -, _, -, _, -, _, -, _, -, _, -, _, -, ⟨⟩⟩ := is
    exact ⟨decoded, objectType, producerId, ⟨typeAt, known, producerAt, named⟩⟩
  · cases is

theorem lookup_of_memberText {members : Members} {key : PyString} {error : ε} {codes : PyString} :
    memberText members key error = .ok codes ↔ members.lookup key = some (.str codes) := by
  unfold memberText
  split
  · rename_i found
    simp [found]
  · rename_i other
    simp only [raise, reduceCtorEq, false_iff]
    exact fun found => other codes found

structure TranscriptParts where
  purpose : List U8
  keyId : PyString
  subject : PyString
  object : Members

/-- A transcript that one of the two functions builds, with its parts: the purpose, the key, the producer or the
authority, and the object. -/
inductive BuildsTranscript (dumps : Value → Option (List U8)) (transcript : List U8) : TranscriptParts → Prop
  | assurance {raw keyId object objectType producerId purpose} (valid : parseAndValidateEnvelope raw = .ok object)
      (fields : EnvelopeFields object objectType producerId) (domain : purposeDomain? objectType = some purpose)
      (built : buildSignedAssuranceTranscript dumps raw keyId = .ok transcript) :
      BuildsTranscript dumps transcript ⟨purpose, keyId, producerId, object⟩
  | authorization {raw keyId authorityId authorization}
      (valid : parseAndValidateAuthorizationObject raw = .ok authorization)
      (built : buildAuthorizationTranscript dumps raw keyId authorityId = .ok transcript) :
      BuildsTranscript dumps transcript ⟨authorizationPurposeDomain authorization.authorizationType, keyId, authorityId,
        authorizationMapping authorization⟩

structure Transcribes (dumps : Value → Option (List U8)) (transcript canonical : List U8) (parts : TranscriptParts) :
    Prop where
  known : parts.purpose ∈ purposes
  keyId : IsAscii parts.keyId
  subject : IsAscii parts.subject
  dumped : dumps (.dict parts.object) = some canonical
  fits : (nameBytes parts.keyId).length ≤ 0xFFFF ∧ (nameBytes parts.subject).length ≤ 0xFFFF ∧
    canonical.length ≤ 0xFFFFFFFF
  whole : transcript = transcriptOf parts.purpose (nameBytes parts.keyId) (nameBytes parts.subject) canonical

theorem purposeDomain?_known {objectType : PyString} {purpose : List U8}
    (is : purposeDomain? objectType = some purpose) :
    purpose ∈ purposes := by
  unfold purposeDomain? at is
  split_ifs at is <;> cases is <;> simp [purposes]

theorem BuildsTranscript.transcribes {dumps : Value → Option (List U8)} {transcript : List U8} {parts : TranscriptParts}
    (builds : BuildsTranscript dumps transcript parts) : ∃ canonical, Transcribes dumps transcript canonical parts := by
  cases builds with
  | @assurance raw keyId object objectType producerId purpose valid fields domain built =>
    simp only [buildSignedAssuranceTranscript, canonicalizeEnvelope, Check.bound, rewrap_ok, valid, Except.ok.injEq,
      lookup_of_memberText, exists_eq_left', fields.typed, fields.produced, Option.some.injEq, Value.str.injEq, domain,
      require_ok] at built
    obtain ⟨keyBytes, isKey, subjectBytes, isSubject, -, -, canonical, dumped, -, -, joined⟩ := built
    obtain ⟨asciiKey, rfl⟩ := validateKeyId_ok isKey
    have asciiSubject := isAscii_of_isIdentifier fields.named
    rw [encodeUtf8_ascii asciiSubject, Except.ok.injEq] at isSubject
    subst isSubject
    obtain ⟨fits, rfl⟩ := joinTranscript_ok joined
    split at dumped
    · rename_i found
      cases dumped
      exact ⟨canonical, purposeDomain?_known domain, asciiKey, asciiSubject, found, fits, rfl⟩
    · cases dumped
  | @authorization raw keyId authorityId authorization valid built =>
    simp only [buildAuthorizationTranscript, canonicalizeAuthorizationObject, Check.bound, rewrap_ok, valid] at built
    obtain ⟨keyBytes, isKey, built⟩ := built
    split at built
    · cases built
    · rename_i subjectBytes isSubject
      simp only [Check.bound, require_ok, rewrap_ok, Except.ok.injEq, exists_eq_left'] at built
      obtain ⟨-, -, -, -, canonical, dumped, joined⟩ := built
      obtain ⟨asciiKey, rfl⟩ := validateKeyId_ok isKey
      obtain ⟨asciiSubject, rfl⟩ := encodeAscii_eq_some.mp isSubject
      obtain ⟨fits, rfl⟩ := joinTranscript_ok joined
      have known : authorizationPurposeDomain authorization.authorizationType ∈ purposes := by
        cases authorization <;> simp [AuthorizationObject.authorizationType, authorizationPurposeDomain, purposes]
      split at dumped
      · cases dumped
      · rename_i found
        simp only [Check.bound, require_ok] at dumped
        obtain ⟨-, -, ⟨⟩⟩ := dumped
        exact ⟨canonical, known, asciiKey, asciiSubject, found, fits, rfl⟩

theorem Transcribes.unique {dumps : Value → Option (List U8)} {transcript canonical canonical' : List U8}
    {parts parts' : TranscriptParts} (first : Transcribes dumps transcript canonical parts)
    (second : Transcribes dumps transcript canonical' parts') : parts.purpose = parts'.purpose ∧
      parts.keyId = parts'.keyId ∧ parts.subject = parts'.subject ∧ canonical = canonical' := by
  obtain ⟨purpose, keyId, subject, same⟩ := transcriptOf_injective first.known second.known first.fits second.fits
    (first.whole.symm.trans second.whole)
  exact ⟨purpose, nameBytes_injective first.keyId second.keyId keyId,
    nameBytes_injective first.subject second.subject subject, same⟩

/-- Two JSON values are equal as the language compares them: the order of the members does not matter. -/
inductive SameJson : Value → Value → Prop
  | refl (value) : SameJson value value
  | list {items others : List Value} (length : items.length = others.length)
      (each : ∀ (index : ℕ) value other, items[index]? = some value → others[index]? = some other →
        SameJson value other) :
      SameJson (.list items) (.list others)
  | dict {members others : Members} (names : ∀ key, (members.lookup key).isSome = (others.lookup key).isSome)
      (each : ∀ key value other, members.lookup key = some value → others.lookup key = some other →
        SameJson value other) : SameJson (.dict members) (.dict others)

def ofDigits (codes : PyString) : ℕ := codes.foldl (fun value code => value * 10 + (code - 48)) 0

theorem ofDigits_snoc (codes : PyString) (code : ℕ) :
    ofDigits (codes ++ [code]) = ofDigits codes * 10 + (code - 48) := by
  simp [ofDigits]

theorem decimalText_ofDigits {codes : PyString} (some : codes ≠ []) (digits : ∀ code ∈ codes, isDecimalCode code)
    (first : codes.head? ≠ Option.some 48) : 0 < ofDigits codes ∧ decimalText (ofDigits codes) = codes := by
  have one : ∀ digit < 10, Nat.toDigits 10 digit = [Nat.digitChar digit] ∧
      (Nat.digitChar digit).toNat = digit + 48 := by
    decide
  have text (value : ℕ) : decimalText value = (Nat.toDigits 10 value).map Char.toNat := by
    rw [decimalText, py, Nat.toString_eq_ofList_toDigits, String.toList_ofList]
  induction codes using List.reverseRecOn with
  | nil => exact absurd rfl some
  | append_singleton codes code ih =>
    rw [List.forall_mem_append, List.forall_mem_singleton] at digits
    obtain ⟨others, digit⟩ := digits
    simp only [isDecimalCode, decide_eq_true_eq] at digit
    have last := one (code - 48) (by omega)
    rw [ofDigits_snoc]
    cases codes with
    | nil =>
      rw [List.nil_append, List.head?_cons, ne_eq, Option.some.injEq] at first
      have whole : ofDigits [] * 10 + (code - 48) = code - 48 := by simp [ofDigits]
      rw [whole, text, last.1]
      refine ⟨by omega, ?_⟩
      simp only [List.map_cons, List.map_nil, List.nil_append, last.2, List.cons.injEq, and_true]
      omega
    | cons head tail =>
      obtain ⟨positive, before⟩ := ih (by simp) others (by simpa using first)
      have whole := Nat.toDigits_append_toDigits (b := 10) (by decide) positive (show code - 48 < 10 by omega)
      rw [Nat.mul_comm, text, ← whole, List.map_append, ← text, before, last.1]
      refine ⟨by omega, ?_⟩
      simp only [List.map_cons, List.map_nil, last.2, List.append_cancel_left_eq, List.cons.injEq, and_true]
      omega

theorem parseUint64DecimalWire_ok {value : Value} {fieldName : String} {parsed : Uint64}
    (is : parseUint64DecimalWire value fieldName = .ok parsed) : value = .str (decimalText parsed.1) := by
  unfold parseUint64DecimalWire at is
  split at is
  · rename_i codes
    split_ifs at is with zero none leading digits
    · cases is
      rw [zero]
      rfl
    · cases is
    · cases is
    · cases is
    · rw [Check.bound] at is
      obtain ⟨number, read, is⟩ := is
      rw [intOfDigits] at read
      split_ifs at read
      cases read
      split_ifs at is
      · cases is
        rw [not_or, not_not, not_not, List.all_eq_true, List.all_eq_true] at digits
        exact congrArg Value.str (decimalText_ofDigits none digits.2 leading).2.symm
      · cases is
  · cases is

theorem exactObjectText_ok {members : Members} {field : String} {expected codes : PyString}
    (is : exactObjectText members field expected = .ok codes) : members.lookup (py field) = some (.str expected) := by
  simp only [exactObjectText, Check.bound, item_ok, requireText_ok, decide_eq_true_eq] at is
  obtain ⟨_, found, rfl, rfl⟩ := is
  exact found

theorem fieldCall_ok {α : Type} {function : Value → Raises ε α} {members : Members} {field : String} {result : α}
    (is : fieldCall function members field = .ok result) :
    ∃ value, members.lookup (py field) = some value ∧ function value = .ok result := by
  simpa only [fieldCall, Check.bound, item_ok, rewrap_ok] using is

theorem lookup_eq_none {members : Members} {key : PyString} (absent : key ∉ members.map Prod.fst) :
    members.lookup key = none := by
  rw [List.lookup_eq_none_iff]
  intro pair member
  rw [bne_iff_ne]
  rintro rfl
  exact absent (List.mem_map_of_mem member)

theorem lookup_of_hasExactly {members pairs : Members} (exactly : HasExactly (pairs.map Prod.fst) members)
    (nodup : (pairs.map Prod.fst).Nodup) (each : ∀ pair ∈ pairs, members.lookup pair.1 = some pair.2)
    (key : PyString) : pairs.lookup key = members.lookup key := by
  by_cases known : key ∈ pairs.map Prod.fst
  · obtain ⟨⟨name, value⟩, member, rfl⟩ := List.mem_map.mp known
    rw [lookup_of_mem nodup member, each _ member]
  · have unknown : key ∉ members.map Prod.fst := fun member => known (exactly.1 key member)
    rw [lookup_eq_none known, lookup_eq_none unknown]

theorem validateLogicalTime_ok {value : Value} {time : LogicalTime} (is : validateLogicalTime value = .ok time) :
    value = .int time.val := by
  unfold validateLogicalTime at is
  split at is
  · split_ifs at is with inside
    · cases is
      rw [Int.toNat_of_nonneg inside.1]
    · cases is
  · cases is

theorem initialHighWater_ok {highWater logicalTime : Value} {initial : Option LogicalTime}
    (is : initialHighWater highWater logicalTime = .ok initial) :
    highWaterMembers initial =
      [(py "initial_high_water_state", highWater), (py "initial_logical_time", logicalTime)] := by
  unfold initialHighWater at is
  split_ifs at is with unset established
  · split at is
    · cases is
      rw [isText_eq unset]
      rfl
    · cases is
  · simp only [Check.bound, rewrap_ok] at is
    obtain ⟨time, valid, ⟨⟩⟩ := is
    rw [isText_eq established, validateLogicalTime_ok valid]
    rfl
  · cases is

theorem fieldCall_text {function : Value → Raises ε PyString} {members : Members} {field : String} {codes : PyString}
    (gives : ∀ value result, function value = .ok result → value = .str result)
    (is : fieldCall function members field = .ok codes) : members.lookup (py field) = some (.str codes) := by
  obtain ⟨value, found, checked⟩ := fieldCall_ok is
  rw [found, gives value codes checked]

theorem fieldCall_uint64 {members : Members} {field name : String} {parsed : Uint64}
    (is : fieldCall (parseUint64DecimalWire · name) members field = .ok parsed) :
    members.lookup (py field) = some (.str (decimalText parsed.1)) := by
  obtain ⟨value, found, checked⟩ := fieldCall_ok is
  rw [found, parseUint64DecimalWire_ok checked]

theorem validateFieldText_text {field : String} {grammar : PyString → Bool} (value : Value) (result : PyString)
    (is : validateFieldText field grammar value = .ok result) : value = .str result :=
  (validateFieldText_ok.mp is).1

theorem requireText_text {grammar : PyString → Bool} {error : ε} (value : Value) (result : PyString)
    (is : requireText grammar error value = .ok result) : value = .str result :=
  (requireText_ok.mp is).1

theorem authorizationMapping_bootstrap {members : Members} {authorization : BootstrapAuthorization PyString}
    (valid : validateBootstrap members = .ok authorization) (key : PyString) :
    (authorizationMapping (.bootstrap authorization)).lookup key = members.lookup key := by
  simp only [validateBootstrap, requireExactMembers, Check.bound, require_ok, item_ok] at valid
  obtain ⟨-, exactly, _, version, _, type, identity, identified, authority, authorized, producer, produced, sequence,
    sequenced, epoch, epochAt, highWater, highWaterAt, logicalTime, logicalTimeAt, initial, initialized, ⟨⟩⟩ := valid
  have names : (authorizationMapping (.bootstrap ⟨identity, authority, producer, sequence.1, epoch, initial,
      sequence.2⟩)).map Prod.fst = bootstrapKeys := by cases initial <;> rfl
  refine lookup_of_hasExactly (names ▸ exactly) (names ▸ by decide) ?_ key
  rw [authorizationMapping, initialHighWater_ok initialized]
  simp only [List.forall_mem_append, List.forall_mem_cons, List.not_mem_nil, false_implies, implies_true, and_true]
  exact ⟨⟨exactObjectText_ok version, exactObjectText_ok type, fieldCall_text validateFieldText_text identified,
    fieldCall_text validateFieldText_text authorized, fieldCall_text requireText_text produced,
    fieldCall_uint64 sequenced, fieldCall_text requireText_text epochAt⟩, highWaterAt, logicalTimeAt⟩

theorem authorizationMapping_epochTransition {members : Members}
    {authorization : EpochTransitionAuthorization PyString}
    (valid : validateEpochTransition members = .ok authorization) (key : PyString) :
    (authorizationMapping (.epochTransition authorization)).lookup key = members.lookup key := by
  simp only [validateEpochTransition, requireExactMembers, Check.bound, require_ok] at valid
  obtain ⟨-, exactly, _, version, _, type, identity, identified, authority, authorized, producer, produced, sequence,
    sequenced, fromEpoch, fromAt, toEpoch, toAt, valid⟩ := valid
  split_ifs at valid with same
  · cases valid
  rw [Check.bound] at valid
  obtain ⟨transition, transitionAt, ⟨⟩⟩ := valid
  have names : (authorizationMapping (.epochTransition ⟨identity, authority, producer, sequence.1, fromEpoch, toEpoch,
      transition.1, sequence.2, same, transition.2⟩)).map Prod.fst = epochTransitionKeys := rfl
  refine lookup_of_hasExactly (names ▸ exactly) (names ▸ by decide) ?_ key
  rw [authorizationMapping]
  simp only [List.forall_mem_cons, List.not_mem_nil, false_implies, implies_true, and_true]
  exact ⟨exactObjectText_ok version, exactObjectText_ok type, fieldCall_text validateFieldText_text identified,
    fieldCall_text validateFieldText_text authorized, fieldCall_text requireText_text produced,
    fieldCall_uint64 sequenced, fieldCall_text requireText_text fromAt, fieldCall_text requireText_text toAt,
    fieldCall_uint64 transitionAt⟩

theorem map_ok {α β : Type} {call : Raises ε α} {change : α → β} {result : β} :
    change <$> call = .ok result ↔ ∃ value, call = .ok value ∧ change value = result := by
  cases call with
  | error raised => simp
  | ok value => simp

theorem parseAndValidateAuthorizationObject_ok {raw : ByteArray} {authorization : AuthorizationObject PyString}
    (is : parseAndValidateAuthorizationObject raw = .ok authorization) :
    ∃ object, decodeAuthorizationObject raw = .ok (.dict object) ∧
      ∀ key, (authorizationMapping authorization).lookup key = object.lookup key := by
  simp only [parseAndValidateAuthorizationObject, Check.bound, require_ok] at is
  obtain ⟨-, -, value, decoded, -, -, valid⟩ := is
  cases value with
  | dict object =>
    refine ⟨object, decoded, ?_⟩
    unfold validateAuthorizationObject at valid
    dsimp only at valid
    split_ifs at valid
    · obtain ⟨bootstrap, given, rfl⟩ := map_ok.mp valid
      exact authorizationMapping_bootstrap given
    · obtain ⟨transition, given, rfl⟩ := map_ok.mp valid
      exact authorizationMapping_epochTransition given
    · cases valid
  | _ => cases valid

theorem filter_filter_filter {α : Type} (first second third : α → Prop) [DecidablePred first] [DecidablePred second]
    [DecidablePred third] (records : List α) :
    ((records.filter (first ·)).filter (second ·)).filter (third ·) =
      records.filter fun record => first record ∧ second record ∧ third record := by
  rw [List.filter_filter, List.filter_filter]
  apply List.filter_congr
  intro record _
  simp only [Bool.decide_and]
  ac_rfl

/-- The one record of a producer, a key and an algorithm, which is active. -/
structure OneActive (store : TrustStore) (producerId keyId algorithm : PyString) (record : TrustRecord) : Prop where
  only : store.records.filter (fun other => other.producerId = producerId ∧ other.keyId = keyId ∧
    other.algorithm = algorithm) = [record]
  active : record.lifecycleState = .active

/-- The same of an authority, with the capability that is required. -/
structure OneCapable (store : AuthorizationTrustStore) (authorityId keyId algorithm : PyString)
    (required : Capability) (record : AuthorizationTrustRecord) : Prop where
  only : store.records.filter (fun other => other.authorityId = authorityId ∧ other.keyId = keyId ∧
    other.algorithm = algorithm) = [record]
  active : record.lifecycleState = .active
  capable : required ∈ record.capabilities

theorem resolveTrustedCredential_resolved {store : TrustStore} {producerId keyId algorithm : PyString}
    {record : TrustRecord}
    (resolved : (resolveTrustedCredential store producerId keyId algorithm).code = .resolved)
    (given : (resolveTrustedCredential store producerId keyId algorithm).record = some record) :
    OneActive store producerId keyId algorithm record := by
  unfold resolveTrustedCredential at resolved given
  dsimp only at resolved given
  split_ifs at resolved given
  split at resolved
  · rename_i other only
    rw [only] at given
    split at resolved
    · cases resolved
    · cases resolved
    · rename_i state
      simp only [state, Option.some.injEq] at given
      subst given
      exact ⟨(filter_filter_filter _ _ _ _).symm.trans only, state⟩
  · cases resolved

theorem resolveAuthorizationCredential_resolved {store : AuthorizationTrustStore}
    {authorityId keyId algorithm : PyString} {required : Capability} {record : AuthorizationTrustRecord}
    (resolved : (resolveAuthorizationCredential store authorityId keyId algorithm required).code = .resolved)
    (given : (resolveAuthorizationCredential store authorityId keyId algorithm required).record = some record) :
    OneCapable store authorityId keyId algorithm required record := by
  unfold resolveAuthorizationCredential at resolved given
  dsimp only at resolved given
  split_ifs at resolved given
  split at resolved
  · rename_i other only
    rw [only] at given
    split at resolved
    · cases resolved
    · cases resolved
    · rename_i state
      split_ifs at resolved with capable
      simp only [state, if_neg (not_not.mpr capable), Option.some.injEq] at given
      subst given
      exact ⟨(filter_filter_filter _ _ _ _).symm.trans only, state, capable⟩
  · cases resolved

/-- The member of a document that is signed, and the provider's answer on its transcript. -/
structure SignedOver (decode : PyString → Except String (List U8)) (provider : Provider) (raw : ByteArray)
    (target : PyString) (members object : Members) (keyId : PyString) (publicKey transcript : List U8) : Prop where
  document : DocumentMembers raw members
  member : members.lookup target = some (.dict object)
  keyId : members.lookup (py "key_id") = some (.str keyId)
  verified : ∃ signature bytes, members.lookup (py "signature") = some (.str signature) ∧ decode signature = .ok bytes ∧
    (provider signatureAlgorithmName publicKey transcript bytes).code = .verified

theorem signedWrapper_members {raw : ByteArray} {wrapper : ValidatedSignedWrapper}
    (is : parseAndValidateSignedWrapper raw = .ok wrapper) :
    parseAndValidateEnvelope wrapper.assuranceObjectRaw = .ok wrapper.assuranceObject ∧
    ∃ members signature, DocumentMembers raw members ∧
      members.lookup (py "assurance_object") = some (.dict wrapper.assuranceObject) ∧
      members.lookup (py "key_id") = some (.str wrapper.keyId) ∧
      members.lookup (py "signature") = some (.str signature) ∧
      decodeSignatureBase64url signature = .ok wrapper.signatureBytes := by
  simp only [parseAndValidateSignedWrapper, Check.bound, rewrap_ok] at is
  obtain ⟨opened, opens, object, valid, ⟨⟩⟩ := is
  obtain ⟨members, value, read⟩ := openSignedWrapper_read opens
  have decoded := (parseAndValidateEnvelope_ok valid).1
  simp only [decodeStrictJson, decodeUtf8_ofList, Check.bound, onValueError_ok, Except.ok.injEq,
    exists_eq_left'] at decoded
  have same := read.cut.strict (loads_strict (loadJson_ok decoded))
  exact ⟨valid, members, opened.signature, read.document, same ▸ read.member, read.keyId, read.signature, read.decoded⟩

theorem signedAuthorization_members {raw : ByteArray} {envelope : ValidatedSignedAuthorization}
    (is : parseAndValidateSignedAuthorization raw = .ok envelope) :
    parseAndValidateAuthorizationObject envelope.authorizationObjectRaw = .ok envelope.authorizationObject ∧
    envelope.authorizationObject.authorityId = envelope.authorityId ∧
    ∃ members object signature, DocumentMembers raw members ∧
      members.lookup (py "authorization_object") = some (.dict object) ∧
      (∀ key, (authorizationMapping envelope.authorizationObject).lookup key = object.lookup key) ∧
      members.lookup (py "authority_id") = some (.str envelope.authorityId) ∧
      members.lookup (py "key_id") = some (.str envelope.keyId) ∧
      members.lookup (py "signature") = some (.str signature) ∧
      decodeAuthorizationSignatureBase64url signature = .ok envelope.signatureBytes := by
  simp only [parseAndValidateSignedAuthorization, Check.bound, rewrap_ok, require_ok] at is
  obtain ⟨opened, opens, authorization, valid, -, sameAuthority, ⟨⟩⟩ := is
  obtain ⟨members, value, read, authorityAt⟩ := openSignedAuthorization_read opens
  obtain ⟨object, decoded, mapped⟩ := parseAndValidateAuthorizationObject_ok valid
  simp only [decodeAuthorizationObject, decodeUtf8_ofList, Check.bound, onValueError_ok, Except.ok.injEq,
    exists_eq_left'] at decoded
  have same := read.cut.strict (loads_strict (loadJson_ok decoded))
  exact ⟨valid, sameAuthority, members, object, opened.signature, read.document, same ▸ read.member, mapped,
    authorityAt, read.keyId, read.signature, read.decoded⟩

theorem authenticateWrapper_authenticated {dumps : Value → Option (List U8)} {store : TrustStore} {provider : Provider}
    {wrapper : ValidatedSignedWrapper} {result : AuthenticationResult}
    (is : authenticateWrapper dumps store provider wrapper = .ok result)
    (authenticated : result.code = .authenticated) :
    ∃ producerId producerEpoch logicalTime record transcript,
      wrapper.assuranceObject.lookup (py "producer_id") = some producerId ∧
      wrapper.assuranceObject.lookup (py "producer_epoch") = some producerEpoch ∧
      wrapper.assuranceObject.lookup (py "logical_time") = some logicalTime ∧
      OneActive store (textOf producerId) wrapper.keyId signatureAlgorithmName record ∧
      buildSignedAssuranceTranscript dumps wrapper.assuranceObjectRaw wrapper.keyId = .ok transcript ∧
      (provider signatureAlgorithmName record.publicKeyBytes transcript wrapper.signatureBytes).code = .verified ∧
      result = {
        code := .authenticated, producerId := some producerId, producerEpoch := some producerEpoch,
        logicalTime := some logicalTime, keyId := some wrapper.keyId, algorithm := some signatureAlgorithmName,
        trustCode := some .resolved, cryptoCode := some .verified } := by
  simp only [authenticateWrapper, Check.bound, item_ok] at is
  obtain ⟨producerId, producerAt, producerEpoch, epochAt, logicalTime, timeAt, is⟩ := is
  have mapped (code : TrustStoreErrorCode) : trustResultMap code ≠ some .authenticated := by
    cases code <;> simp [trustResultMap]
  have answered (code : CryptoResultCode) : (cryptoResultMap code).getD .internalError ≠ .authenticated := by
    cases code <;> simp [cryptoResultMap]
  generalize resolves : resolveTrustedCredential store (textOf producerId) wrapper.keyId signatureAlgorithmName =
    trust at is
  split_ifs at is with refused
  · split at is
    · cases is
      cases authenticated
    · rename_i code known
      cases is
      exact absurd (known.trans (congrArg some authenticated)) (mapped _)
  · rw [not_or, not_not] at refused
    split at is
    · exact absurd ‹_› refused.2
    · rename_i record given
      obtain ⟨built, attempted, is⟩ := Check.bound.mp is
      split at is
      · cases is
        cases authenticated
      · cases is
      · rename_i transcript
        rw [attempt_ok] at attempted
        split_ifs at is with failed
        · cases is
          exact absurd authenticated (answered _)
        · cases is
          rw [not_not] at failed
          rw [refused.1, failed]
          subst resolves
          exact ⟨producerId, producerEpoch, logicalTime, record, transcript, producerAt, epochAt, timeAt,
            resolveTrustedCredential_resolved refused.1 given, attempted, failed, rfl⟩

theorem authenticateEnvelope_authenticated {dumps : Value → Option (List U8)} {store : AuthorizationTrustStore}
    {provider : Provider} {envelope : ValidatedSignedAuthorization} {result : AuthorizationAuthentication}
    (is : authenticateEnvelope dumps store provider envelope = .ok result)
    (authenticated : result.code = .authorizationAuthenticated) :
    ∃ record transcript,
      OneCapable store envelope.authorityId envelope.keyId signatureAlgorithmName
        (requiredCapability envelope.authorizationObject.authorizationType) record ∧
      buildAuthorizationTranscript dumps envelope.authorizationObjectRaw envelope.keyId envelope.authorityId =
        .ok transcript ∧
      (provider signatureAlgorithmName record.publicKey transcript envelope.signatureBytes).code = .verified ∧
      result = { envelope.authorizationObject.authenticated with
        code := .authorizationAuthenticated
        authorityId := some envelope.authorityId
        authorizationObject := some envelope.authorizationObject
        keyId := some envelope.keyId
        algorithm := some signatureAlgorithmName
        authorizationObjectRaw := some envelope.authorizationObjectRaw
        trustCode := some .resolved
        cryptoCode := some .verified } := by
  unfold authenticateEnvelope at is
  dsimp only at is
  have mapped (code : AuthorizationTrustErrorCode) :
      (authorizationTrustResultMap code).getD .internalError ≠ .authorizationAuthenticated := by
    cases code <;> simp [authorizationTrustResultMap]
  have answered (code : CryptoResultCode) :
      (authorizationCryptoResultMap code).getD .internalError ≠ .authorizationAuthenticated := by
    cases code <;> simp [authorizationCryptoResultMap]
  generalize resolves : resolveAuthorizationCredential store envelope.authorityId envelope.keyId signatureAlgorithmName
    (requiredCapability envelope.authorizationObject.authorizationType) = trust at is
  split_ifs at is with refused
  · cases is
    exact absurd authenticated (mapped _)
  · rw [not_not] at refused
    split at is
    · cases is
      cases authenticated
    · rename_i record given
      obtain ⟨built, attempted, is⟩ := Check.bound.mp is
      split at is
      · cases is
        cases authenticated
      · rename_i transcript
        rw [attempt_ok] at attempted
        split_ifs at is with failed
        · cases is
          exact absurd authenticated (answered _)
        · cases is
          rw [not_not] at failed
          rw [refused, failed]
          subst resolves
          exact ⟨record, transcript, resolveAuthorizationCredential_resolved refused given, attempted, failed, rfl⟩

/-- An authenticated assurance object: what was signed, under which record, over which transcript, and the fields
that are returned. -/
structure BindsAssurance (dumps : Value → Option (List U8)) (store : TrustStore) (provider : Provider) (raw : ByteArray)
    (result : AuthenticationResult) (members object : Members) (objectType producerId keyId : PyString)
    (purpose transcript : List U8) (record : TrustRecord) : Prop where
  signed : SignedOver decodeSignatureBase64url provider raw (py "assurance_object") members object keyId
    record.publicKeyBytes transcript
  fields : EnvelopeFields object objectType producerId
  domain : purposeDomain? objectType = some purpose
  credential : OneActive store producerId keyId signatureAlgorithmName record
  built : BuildsTranscript dumps transcript ⟨purpose, keyId, producerId, object⟩
  bytes : ∃ canonical, Transcribes dumps transcript canonical ⟨purpose, keyId, producerId, object⟩
  returned : result.producerId = object.lookup (py "producer_id") ∧
    result.producerEpoch = object.lookup (py "producer_epoch") ∧
    result.logicalTime = object.lookup (py "logical_time") ∧ result.keyId = some keyId ∧
    result.algorithm = some signatureAlgorithmName

/-- The same of an authorization, whose members are those of the object. -/
structure BindsAuthorization (dumps : Value → Option (List U8)) (store : AuthorizationTrustStore) (provider : Provider)
    (raw : ByteArray) (result : AuthorizationAuthentication) (members object : Members)
    (authorization : AuthorizationObject PyString) (keyId : PyString) (transcript : List U8)
    (record : AuthorizationTrustRecord) : Prop where
  signed : SignedOver decodeAuthorizationSignatureBase64url provider raw (py "authorization_object") members object
    keyId record.publicKey transcript
  authority : members.lookup (py "authority_id") = some (.str authorization.authorityId)
  same : ∀ key, (authorizationMapping authorization).lookup key = object.lookup key
  credential : OneCapable store authorization.authorityId keyId signatureAlgorithmName
    (requiredCapability authorization.authorizationType) record
  built : BuildsTranscript dumps transcript ⟨authorizationPurposeDomain authorization.authorizationType, keyId,
    authorization.authorityId, authorizationMapping authorization⟩
  bytes : ∃ canonical, Transcribes dumps transcript canonical
    ⟨authorizationPurposeDomain authorization.authorizationType, keyId, authorization.authorityId,
      authorizationMapping authorization⟩
  returned : result.toAuthorizationAuthenticationResult = authorization.authenticated ∧ result.keyId = some keyId ∧
    result.algorithm = some signatureAlgorithmName

theorem purposeDomain?_of_known {objectType : PyString} (known : objectType ∈ objectTypes) :
    ∃ purpose, purposeDomain? objectType = some purpose := by
  simp only [objectTypes, List.mem_cons, List.not_mem_nil, or_false] at known
  rcases known with rfl | rfl | rfl
  all_goals exact ⟨_, rfl⟩

theorem authenticateSignedAssurance_binds {dumps : Value → Option (List U8)} {raw : ByteArray} {store : TrustStore}
    {provider : Provider} {result : AuthenticationResult}
    (is : authenticateSignedAssurance dumps raw store provider = .ok result)
    (authenticated : result.code = .authenticated) :
    ∃ members object objectType producerId keyId purpose transcript record,
      BindsAssurance dumps store provider raw result members object objectType producerId keyId purpose transcript
        record := by
  obtain ⟨parsed, attempted, is⟩ := Check.bound.mp is
  cases parsed with
  | error error =>
    dsimp only at is
    split at is
    · rename_i mapped known
      cases is
      unfold wrapperSecurityResult at known
      split at known
      all_goals cases known
      all_goals cases authenticated
    · cases is
  | ok wrapper =>
    obtain ⟨valid, members, signature, document, member, keyId, signed, decoded⟩ :=
      signedWrapper_members (attempt_ok.mp attempted)
    obtain ⟨producer, epoch, time, record, transcript, producerAt, epochAt, timeAt, credential, built, verified, rfl⟩ :=
      authenticateWrapper_authenticated is authenticated
    obtain ⟨-, objectType, producerId, fields⟩ := parseAndValidateEnvelope_ok valid
    obtain ⟨purpose, domain⟩ := purposeDomain?_of_known fields.known
    cases Option.some.inj (fields.produced.symm.trans producerAt)
    have builds := BuildsTranscript.assurance valid fields domain built
    exact ⟨members, wrapper.assuranceObject, objectType, producerId, wrapper.keyId, purpose, transcript, record,
      { signed := ⟨document, member, keyId, signature, wrapper.signatureBytes, signed, decoded, verified⟩
        fields := fields
        domain := domain
        credential := credential
        built := builds
        bytes := builds.transcribes
        returned := ⟨producerAt.symm, epochAt.symm, timeAt.symm, rfl, rfl⟩ }⟩

theorem authenticateAuthorization_binds {dumps : Value → Option (List U8)} {raw : ByteArray}
    {store : AuthorizationTrustStore} {provider : Provider} {result : AuthorizationAuthentication}
    (is : authenticateAuthorization dumps raw store provider = .ok result)
    (authenticated : result.code = .authorizationAuthenticated) :
    ∃ members object authorization keyId transcript record,
      BindsAuthorization dumps store provider raw result members object authorization keyId transcript record := by
  obtain ⟨parsed, attempted, is⟩ := Check.bound.mp is
  cases parsed with
  | error error =>
    cases is
    cases authenticated
  | ok envelope =>
    obtain ⟨valid, sameAuthority, members, object, signature, document, member, mapped, authorityAt, keyId, signed,
      decoded⟩ := signedAuthorization_members (attempt_ok.mp attempted)
    obtain ⟨record, transcript, credential, built, verified, rfl⟩ := authenticateEnvelope_authenticated is authenticated
    rw [← sameAuthority] at credential built authorityAt
    have builds := BuildsTranscript.authorization valid built
    refine ⟨members, object, envelope.authorizationObject, envelope.keyId, transcript, record,
      { signed := ⟨document, member, keyId, signature, envelope.signatureBytes, signed, decoded, verified⟩
        authority := authorityAt
        same := mapped
        credential := credential
        built := builds
        bytes := builds.transcribes
        returned := ⟨?_, rfl, rfl⟩ }⟩
    rw [← sameAuthority]
    cases envelope.authorizationObject <;> rfl

inductive ValidatedObject : Members → Prop
  | assurance {raw object} (valid : parseAndValidateEnvelope raw = .ok object) : ValidatedObject object
  | authorization {raw authorization} (valid : parseAndValidateAuthorizationObject raw = .ok authorization) :
    ValidatedObject (authorizationMapping authorization)

def InjectiveOnValidated (dumps : Value → Option (List U8)) : Prop :=
  ∀ object object' canonical, ValidatedObject object → ValidatedObject object' →
    dumps (.dict object) = some canonical → dumps (.dict object') = some canonical →
    SameJson (.dict object) (.dict object')

theorem BuildsTranscript.validated {dumps : Value → Option (List U8)} {transcript : List U8} {parts : TranscriptParts}
    (builds : BuildsTranscript dumps transcript parts) : ValidatedObject parts.object := by
  cases builds with
  | assurance valid => exact .assurance valid
  | authorization valid => exact .authorization valid

/-- Authentication binds the object that is returned. -/
theorem authentication_binds (dumps : Value → Option (List U8)) :
    (∀ raw store provider result, authenticateSignedAssurance dumps raw store provider = .ok result →
      result.code = .authenticated → ∃ members object objectType producerId keyId purpose transcript record,
        BindsAssurance dumps store provider raw result members object objectType producerId keyId purpose transcript
          record) ∧
    (∀ raw store provider result, authenticateAuthorization dumps raw store provider = .ok result →
      result.code = .authorizationAuthenticated → ∃ members object authorization keyId transcript record,
        BindsAuthorization dumps store provider raw result members object authorization keyId transcript record) ∧
    (InjectiveOnValidated dumps → ∀ transcript parts parts', BuildsTranscript dumps transcript parts →
      BuildsTranscript dumps transcript parts' →
        parts.purpose = parts'.purpose ∧ parts.keyId = parts'.keyId ∧ parts.subject = parts'.subject ∧
        dumps (.dict parts.object) = dumps (.dict parts'.object) ∧
        SameJson (.dict parts.object) (.dict parts'.object)) := by
  refine ⟨fun _ _ _ _ => authenticateSignedAssurance_binds, fun _ _ _ _ => authenticateAuthorization_binds, ?_⟩
  intro injective transcript parts parts' builds builds'
  obtain ⟨canonical, first⟩ := builds.transcribes
  obtain ⟨canonical', second⟩ := builds'.transcribes
  obtain ⟨purpose, keyId, subject, rfl⟩ := first.unique second
  exact ⟨purpose, keyId, subject, first.dumped.trans second.dumped.symm,
    injective _ _ canonical builds.validated builds'.validated first.dumped second.dumped⟩

theorem size_ofList (text : List Char) : (String.ofList text).toUTF8.size ≤ 4 * text.length := by
  induction text with
  | nil => simp
  | cons c text ih =>
    have small := c.utf8Size_le_four
    have whole : (String.ofList (c :: text)).toUTF8.size = c.utf8Size + (String.ofList text).toUTF8.size := by
      simp only [String.toUTF8_eq_toByteArray, String.toByteArray_ofList, @List.utf8Encode_cons c text,
        ByteArray.size_append]
      simp [List.utf8Encode_singleton]
    rw [whole, List.length_cons]
    omega

theorem joinTranscript_of_fits (short long : ε) (purpose : List U8) {keyId subject canonical : List U8}
    (fits : keyId.length ≤ 0xFFFF ∧ subject.length ≤ 0xFFFF ∧ canonical.length ≤ 0xFFFFFFFF) :
    joinTranscript short long purpose keyId subject canonical =
      .ok (transcriptOf purpose keyId subject canonical) := by
  simp only [joinTranscript, encodeU16, encodeU32, require, if_pos fits.1, if_pos fits.2.1, if_pos fits.2.2]
  simp only [transcriptOf, u16, u32, ← List.append_assoc]
  rfl

theorem buildSignedAssuranceTranscript_succeeds {dumps : Value → Option (List U8)} {raw : ByteArray} {keyId : PyString}
    {object : Members} {objectType producerId : PyString} {purpose keyBytes canonical : List U8}
    (valid : parseAndValidateEnvelope raw = .ok object) (fields : EnvelopeFields object objectType producerId)
    (domain : purposeDomain? objectType = some purpose) (key : validateKeyId (.str keyId) = .ok keyBytes)
    (keyFits : keyBytes.length ≤ 0xFFFF) (dumped : dumps (.dict object) = some canonical)
    (fits : canonical.length ≤ 0xFFFFFFFF) : buildSignedAssuranceTranscript dumps raw keyId =
      .ok (transcriptOf purpose keyBytes (nameBytes producerId) canonical) := by
  have named := fields.named
  have isAscii := isAscii_of_isIdentifier named
  simp only [isIdentifier, decide_eq_true_eq] at named
  have short : (nameBytes producerId).length ≤ 0xFFFF := by
    rw [nameBytes, List.length_map]
    omega
  have joined := joinTranscript_of_fits (transcriptError "value does not fit uint16")
    (transcriptError "value does not fit uint32") purpose ⟨keyFits, short, fits⟩
  have canonicalized : canonicalizeEnvelope dumps raw = .ok canonical := by
    rw [canonicalizeEnvelope, Check.bound]
    refine ⟨object, valid, ?_⟩
    rw [dumped]
    rfl
  simp only [buildSignedAssuranceTranscript, Check.bound, rewrap_ok, lookup_of_memberText]
  refine ⟨keyBytes, key, object, valid, objectType, fields.typed, ?_⟩
  rw [domain]
  simp only [Check.bound, rewrap_ok, lookup_of_memberText, require_ok]
  exact ⟨producerId, fields.produced, nameBytes producerId, encodeUtf8_ascii isAscii, (), short, canonical,
    canonicalized, (), fits, joined⟩

theorem buildAuthorizationTranscript_succeeds {dumps : Value → Option (List U8)} {raw : ByteArray}
    {keyId : PyString} {authorization : AuthorizationObject PyString} {keyBytes authorityBytes canonical : List U8}
    (valid : parseAndValidateAuthorizationObject raw = .ok authorization)
    (key : validateKeyId (.str keyId) = .ok keyBytes) (keyFits : keyBytes.length ≤ 0xFFFF)
    (authority : encodeAscii authorization.authorityId = some authorityBytes)
    (authorityFits : 1 ≤ authorityBytes.length ∧ authorityBytes.length ≤ 128)
    (dumped : dumps (.dict (authorizationMapping authorization)) = some canonical)
    (fits : canonical.length ≤ authorizationCanonicalObjectMaxBytes) :
    buildAuthorizationTranscript dumps raw keyId authorization.authorityId =
      .ok (transcriptOf (authorizationPurposeDomain authorization.authorizationType) keyBytes authorityBytes
        canonical) := by
  have long : canonical.length ≤ 0xFFFFFFFF := fits.trans (by decide)
  have joined := joinTranscript_of_fits
    (⟨"value does not fit uint16"⟩ : AuthorizationTranscriptError) ⟨"value does not fit uint32"⟩
    (authorizationPurposeDomain authorization.authorizationType) ⟨keyFits, authorityFits.2.trans (by decide), long⟩
  have canonicalized : canonicalizeAuthorizationObject dumps raw = .ok canonical := by
    simp only [canonicalizeAuthorizationObject, Check.bound, rewrap_ok]
    refine ⟨authorization, valid, ?_⟩
    rw [dumped]
    simp only [Check.bound, require_ok]
    exact ⟨(), fits, rfl⟩
  simp only [buildAuthorizationTranscript, Check.bound, rewrap_ok]
  refine ⟨keyBytes, key, ?_⟩
  rw [authority]
  simp only [Check.bound, rewrap_ok, require_ok]
  exact ⟨(), authorityFits, authorization, valid, (), rfl, canonical, canonicalized, joined⟩

section Example

/-- The text of a string of plain characters, and of an object. -/
def stringText (text : List Char) : List Char := '"' :: text ++ ['"']

def objectText (members : List (String × List Char)) : List Char :=
  '{' :: List.intercalate [','] (members.map fun member => stringText member.1.toList ++ ':' :: member.2) ++ ['}']

def exampleId : List Char := stringText (List.replicate 32 '0')

def observationText : List Char := objectText
  [("domain", stringText "guardian-f401:m14:assurance:v1:observation".toList),
    ("object_type", stringText "observation".toList), ("producer_id", stringText ['p']), ("producer_epoch", exampleId),
    ("object_id", exampleId), ("logical_time", ['5']),
    ("payload", objectText
      [("schema_version", stringText "m14.observation.v1".toList), ("subject_id", stringText ['s']),
        ("claim", stringText ['c']), ("result", stringText "PRESENT".toList),
        ("evidence_digest", stringText (List.replicate 64 '0'))])]

def wrapperText : List Char := objectText
  [("signature_version", stringText "guardian-f401:m15:signed-assurance:v1".toList),
    ("signature_algorithm", stringText "ed25519".toList), ("key_id", stringText ['k']),
    ("assurance_object", observationText),
    ("signature", stringText
      "_L_erXULXyRT93omUiBGePktdtUaB4ST1S_7SYagSf4WL31OhjsAIFx2ue6mxEb152RKjXBLUy6HqxLEO40rCA".toList)]

def transitionText : List Char := objectText
  [("schema_version", stringText "guardian-f401:m15:epoch-transition-authorization:v1".toList),
    ("authorization_type", stringText "epoch-transition".toList), ("authorization_id", exampleId),
    ("authority_id", stringText ['a']), ("producer_id", stringText ['p']), ("authorization_sequence", stringText ['1']),
    ("from_epoch", exampleId), ("to_epoch", stringText (List.replicate 32 '1')),
    ("transition_sequence", stringText ['1'])]

def envelopeText : List Char := objectText
  [("signature_version", stringText "guardian-f401:m15:authorization-transcript:v1".toList),
    ("signature_algorithm", stringText "ed25519".toList), ("authority_id", stringText ['a']),
    ("key_id", stringText ['k']), ("authorization_object", transitionText),
    ("signature", stringText
      "LNC5TB59RWcz7rgZzFVQP3P2w_UbgF81TtYgvRKGW4zEHayCOJra8A3VYvZ1G8VRfgO0yePLildB5dwYNv2hAQ".toList)]

/-- The RFC 8785 texts of the two objects: without blanks, and the members by name. -/
def observationCanonical : List Char := objectText
  [("domain", stringText "guardian-f401:m14:assurance:v1:observation".toList), ("logical_time", ['5']),
    ("object_id", exampleId), ("object_type", stringText "observation".toList),
    ("payload", objectText
      [("claim", stringText ['c']), ("evidence_digest", stringText (List.replicate 64 '0')),
        ("result", stringText "PRESENT".toList), ("schema_version", stringText "m14.observation.v1".toList),
        ("subject_id", stringText ['s'])]),
    ("producer_epoch", exampleId), ("producer_id", stringText ['p'])]

def transitionCanonical : List Char := objectText
  [("authority_id", stringText ['a']), ("authorization_id", exampleId), ("authorization_sequence", stringText ['1']),
    ("authorization_type", stringText "epoch-transition".toList), ("from_epoch", exampleId),
    ("producer_id", stringText ['p']),
    ("schema_version", stringText "guardian-f401:m15:epoch-transition-authorization:v1".toList),
    ("to_epoch", stringText (List.replicate 32 '1')), ("transition_sequence", stringText ['1'])]

def textBytes (text : List Char) : List U8 := text.map fun c => BitVec.ofNat 8 c.toNat

open Classical in
noncomputable def dumpsTwo (observation transition : Members) (value : Value) : Option (List U8) :=
  if value = .dict observation then some (textBytes observationCanonical)
  else if value = .dict transition then some (textBytes transitionCanonical) else none

theorem canonicals_apart : textBytes observationCanonical ≠ textBytes transitionCanonical := by
  decide +kernel

theorem dumpsTwo_injective (observation transition : Members) :
    InjectiveOnValidated (dumpsTwo observation transition) := by
  intro object object' canonical _ _ dumped dumped'
  have same : Value.dict object = .dict object' := by
    unfold dumpsTwo at dumped dumped'
    split_ifs at dumped dumped' with isFirst isFirst' isSecond' isSecond isFirst' isSecond'
    · rw [isFirst, isFirst']
    · exact absurd (Option.some.inj (dumped.trans dumped'.symm)) canonicals_apart
    · exact absurd (Option.some.inj (dumped'.trans dumped.symm)) canonicals_apart
    · rw [isSecond, isSecond']
  rw [same]
  exact .refl _

theorem dumpsTwo_observation (observation transition : Members) :
    dumpsTwo observation transition (.dict observation) = some (textBytes observationCanonical) := if_pos rfl

theorem dumpsTwo_transition {observation transition : Members} (apart : Value.dict transition ≠ .dict observation) :
    dumpsTwo observation transition (.dict transition) = some (textBytes transitionCanonical) :=
  (if_neg apart).trans (if_pos rfl)

def producerKey : List U8 :=
  [3, 161, 7, 191, 243, 206, 16, 190, 29, 112, 221, 24, 231, 75, 192, 153, 103, 228, 214, 48, 155, 165, 13, 95, 29, 220,
    134, 100, 18, 85, 49, 184]

def authorityKey : List U8 :=
  [41, 172, 186, 225, 65, 188, 202, 240, 178, 46, 26, 148, 211, 77, 11, 199, 54, 30, 82, 109, 11, 254, 18, 200, 151, 148,
    188, 147, 34, 150, 109, 215]

def observationSignature : List U8 :=
  [252, 191, 222, 173, 117, 11, 95, 36, 83, 247, 122, 38, 82, 32, 70, 120, 249, 45, 118, 213, 26, 7, 132, 147, 213, 47,
    251, 73, 134, 160, 73, 254, 22, 47, 125, 78, 134, 59, 0, 32, 92, 118, 185, 238, 166, 196, 70, 245, 231, 100, 74, 141,
    112, 75, 83, 46, 135, 171, 18, 196, 59, 141, 43, 8]

def transitionSignature : List U8 :=
  [44, 208, 185, 76, 30, 125, 69, 103, 51, 238, 184, 25, 204, 85, 80, 63, 115, 246, 195, 245, 27, 128, 95, 53, 78, 214,
    32, 189, 18, 134, 91, 140, 196, 29, 172, 130, 56, 154, 218, 240, 13, 213, 98, 246, 117, 27, 197, 81, 126, 3, 180, 201,
    227, 203, 138, 87, 65, 229, 220, 24, 54, 253, 161, 1]

def observationTranscript : List U8 := transcriptOf (ascii "GUARDIAN-F401:M15:SIGNED-ASSURANCE:V1:OBSERVATION")
  (ascii "k") (ascii "p") (textBytes observationCanonical)

def transitionTranscript : List U8 := transcriptOf (ascii "GUARDIAN-F401:M15:AUTHORIZATION:V1:EPOCH-TRANSITION")
  (ascii "k") (ascii "a") (textBytes transitionCanonical)

/-- Ed25519 on the two keys and their signatures; it refuses every other signature. -/
def examplePackage : Ed25519Package (List U8) where
  fromPublicBytes := .returned
  verify key signature transcript :=
    if (key = producerKey ∧ signature = observationSignature ∧ transcript = observationTranscript) ∨
        (key = authorityKey ∧ signature = transitionSignature ∧ transcript = transitionTranscript) then .returned ()
    else .refused "InvalidSignature"

def exampleProvider : Provider := hostEd25519Provider examplePackage

theorem exampleProvider_verifies {key signature transcript : List U8} (publicKey : key.length = 32)
    (whole : signature.length = 64) (verifies : examplePackage.verify key signature transcript = .returned ()) :
    exampleProvider signatureAlgorithmName key transcript signature = { code := .verified } := by
  rw [exampleProvider, hostEd25519Provider, if_neg (not_not.mpr rfl), if_neg (not_not.mpr publicKey),
    if_neg (not_not.mpr whole)]
  have built : examplePackage.fromPublicBytes key = .returned key := rfl
  rw [built]
  dsimp only
  rw [verifies]

theorem examplePackage_observation :
    examplePackage.verify producerKey observationSignature observationTranscript = .returned () := by
  simp [examplePackage]

theorem examplePackage_transition :
    examplePackage.verify authorityKey transitionSignature transitionTranscript = .returned () := by
  simp [examplePackage]

def Gives {α : Type} (call : Raises ε α) (test : α → Bool) : Bool :=
  match call with
  | .ok value => test value
  | .error _ => false

theorem gives_iff {α : Type} {call : Raises ε α} {test : α → Bool} :
    Gives call test = true ↔ ∃ value, call = .ok value ∧ test value = true := by
  cases call <;> simp [Gives]

/-- What the readers make of the four texts. -/
theorem exampleTexts_read :
    (Gives (openSignedWrapper (String.ofList wrapperText).toUTF8)
        (fun opened => opened.keyId = py "k" ∧ opened.source = observationText ∧
          opened.signatureBytes = observationSignature) = true ∧
      Gives (parseAndValidateEnvelope (String.ofList observationText).toUTF8)
        (fun members => (members.lookup (py "object_type")).any (isText · (py "observation")) ∧
          (members.lookup (py "producer_id")).any (isText · (py "p")) ∧
          (members.lookup (py "producer_epoch")).isSome ∧ (members.lookup (py "logical_time")).isSome) = true ∧
      (textBytes observationCanonical).length ≤ 0xFFFFFFFF) ∧
    Gives (openSignedAuthorization (String.ofList envelopeText).toUTF8)
        (fun opened => opened.keyId = py "k" ∧ opened.source = transitionText ∧ opened.authorityId = py "a" ∧
          opened.signatureBytes = transitionSignature) = true ∧
      Gives (parseAndValidateAuthorizationObject (String.ofList transitionText).toUTF8)
        (fun authorization => authorization.authorityId = py "a" ∧
          authorization.authorizationType = .epochTransition) = true ∧
      (textBytes transitionCanonical).length ≤ authorizationCanonicalObjectMaxBytes := by
  refine ⟨⟨?wrapper, ?observation, by decide +kernel⟩, ?envelope, ?transition, by decide +kernel⟩
  case wrapper =>
    have small : (String.ofList wrapperText).toUTF8.size ≤ signedWrapperMaxRawBytes :=
      (size_ofList wrapperText).trans (by decide +kernel)
    rw [openSignedWrapper, require, if_pos small, decodeUtf8_ofList]
    decide +kernel
  case observation =>
    have small : (String.ofList observationText).toUTF8.size ≤ ({} : AssuranceLimits).maxRawBytes :=
      (size_ofList observationText).trans (by decide +kernel)
    rw [parseAndValidateEnvelope, require, if_pos small, decodeStrictJson, decodeUtf8_ofList]
    decide +kernel
  case envelope =>
    have small : (String.ofList envelopeText).toUTF8.size ≤ signedAuthorizationMaxRawBytes :=
      (size_ofList envelopeText).trans (by decide +kernel)
    rw [openSignedAuthorization, decodeSignedAuthorization, require, if_pos small, decodeUtf8_ofList]
    decide +kernel
  case transition =>
    have small : (String.ofList transitionText).toUTF8.size ≤ authorizationObjectMaxRawBytes :=
      (size_ofList transitionText).trans (by decide +kernel)
    rw [parseAndValidateAuthorizationObject, require, if_pos small, decodeAuthorizationObject, decodeUtf8_ofList]
    decide +kernel

def exampleRecord : TrustRecord :=
  ⟨py "p", py "k", signatureAlgorithmName, py "A6EHv_POEL4dcN0Y50vAmWfk1jCbpQ1fHdyGZBJVMbg", producerKey, .active⟩

def exampleStore : TrustStore := ⟨[], [exampleRecord], [], []⟩

def exampleAuthority : AuthorizationTrustRecord :=
  ⟨py "a", py "k", signatureAlgorithmName, authorityKey, .active, [.epochTransitionAuthority]⟩

def exampleAuthorities : AuthorizationTrustStore := ⟨[], [exampleAuthority], []⟩

theorem wrapperText_authenticated {dumps : Value → Option (List U8)}
    (dumped : ∀ object, parseAndValidateEnvelope (String.ofList observationText).toUTF8 = .ok object →
      dumps (.dict object) = some (textBytes observationCanonical)) :
    ∃ result, authenticateSignedAssurance dumps (String.ofList wrapperText).toUTF8 exampleStore exampleProvider =
      .ok result ∧ result.code = .authenticated := by
  obtain ⟨opened, opens, test⟩ := gives_iff.mp exampleTexts_read.1.1
  obtain ⟨object, valid, fields⟩ := gives_iff.mp exampleTexts_read.1.2.1
  simp only [decide_eq_true_eq, Option.any_eq_true, Option.isSome_iff_exists] at test fields
  obtain ⟨keyId, source, signature⟩ := test
  obtain ⟨⟨type, typeAt, isType⟩, ⟨producer, producerAt, isProducer⟩, ⟨epoch, epochAt⟩, time, timeAt⟩ := fields
  rw [isText_eq isType] at typeAt
  rw [isText_eq isProducer] at producerAt
  have key : validateKeyId (.str opened.keyId) = .ok (ascii "k") := by
    rw [keyId]
    rfl
  obtain ⟨-, objectType, producerId, envelope⟩ := parseAndValidateEnvelope_ok valid
  cases Option.some.inj (envelope.typed.symm.trans typeAt)
  cases Option.some.inj (envelope.produced.symm.trans producerAt)
  have built : buildSignedAssuranceTranscript dumps (String.ofList observationText).toUTF8 opened.keyId =
      .ok observationTranscript :=
    buildSignedAssuranceTranscript_succeeds valid envelope rfl key (by decide) (dumped object valid)
      exampleTexts_read.1.2.2
  have parsed : parseAndValidateSignedWrapper (String.ofList wrapperText).toUTF8 = .ok ⟨opened.keyId, object,
      (String.ofList opened.source).toUTF8, opened.signature, opened.signatureBytes⟩ := by
    simp only [parseAndValidateSignedWrapper, Check.bound, rewrap_ok]
    exact ⟨opened, opens, object, source ▸ valid, rfl⟩
  have resolved : resolveTrustedCredential exampleStore (textOf (.str (py "p"))) opened.keyId signatureAlgorithmName =
      { code := .resolved, record := some exampleRecord } := by
    rw [keyId]
    rfl
  have verified : exampleProvider signatureAlgorithmName exampleRecord.publicKeyBytes observationTranscript
      opened.signatureBytes = { code := .verified } := by
    rw [signature]
    exact exampleProvider_verifies rfl rfl examplePackage_observation
  have authenticated : authenticateSignedAssurance dumps (String.ofList wrapperText).toUTF8 exampleStore
      exampleProvider = .ok {
        code := .authenticated, producerId := some (.str (py "p")), producerEpoch := some epoch,
        logicalTime := some time, keyId := some opened.keyId, algorithm := some signatureAlgorithmName,
        trustCode := some .resolved, cryptoCode := some .verified } := by
    refine Check.bound.mpr ⟨.ok _, attempt_ok.mpr parsed, ?_⟩
    simp only [authenticateWrapper, Check.bound, item_ok]
    refine ⟨_, producerAt, epoch, epochAt, time, timeAt, ?_⟩
    rw [resolved]
    simp only [reduceCtorEq, ne_eq, not_true_eq_false, or_self, if_false, Check.bound]
    refine ⟨.ok observationTranscript, attempt_ok.mpr (source ▸ built), ?_⟩
    dsimp only
    rw [verified]
    rfl
  exact ⟨_, authenticated, rfl⟩

theorem envelopeText_authenticated {dumps : Value → Option (List U8)}
    (dumped : ∀ authorization,
      parseAndValidateAuthorizationObject (String.ofList transitionText).toUTF8 = .ok authorization →
      dumps (.dict (authorizationMapping authorization)) = some (textBytes transitionCanonical)) :
    ∃ result, authenticateAuthorization dumps (String.ofList envelopeText).toUTF8 exampleAuthorities
      exampleProvider = .ok result ∧ result.code = .authorizationAuthenticated := by
  obtain ⟨opened, opens, test⟩ := gives_iff.mp exampleTexts_read.2.1
  obtain ⟨authorization, valid, fields⟩ := gives_iff.mp exampleTexts_read.2.2.1
  simp only [decide_eq_true_eq] at test fields
  obtain ⟨keyId, source, authorityId, signature⟩ := test
  obtain ⟨authority, type⟩ := fields
  have key : validateKeyId (.str opened.keyId) = .ok (ascii "k") := by
    rw [keyId]
    rfl
  have encoded : encodeAscii authorization.authorityId = some (ascii "a") := by
    rw [authority]
    rfl
  have built : buildAuthorizationTranscript dumps (String.ofList transitionText).toUTF8 opened.keyId
      authorization.authorityId = .ok transitionTranscript := by
    rw [buildAuthorizationTranscript_succeeds valid key (by decide) encoded (by decide) (dumped authorization valid)
      exampleTexts_read.2.2.2, type]
    rfl
  have same : authorization.authorityId = opened.authorityId := authority.trans authorityId.symm
  have parsed : parseAndValidateSignedAuthorization (String.ofList envelopeText).toUTF8 = .ok ⟨opened.authorityId,
      opened.keyId, authorization, (String.ofList opened.source).toUTF8, opened.signature, opened.signatureBytes⟩ := by
    simp only [parseAndValidateSignedAuthorization, Check.bound, rewrap_ok, require_ok]
    exact ⟨opened, opens, authorization, source ▸ valid, (), same, rfl⟩
  have resolved : resolveAuthorizationCredential exampleAuthorities opened.authorityId opened.keyId
      signatureAlgorithmName (requiredCapability authorization.authorizationType) =
      { code := .resolved, record := some exampleAuthority } := by
    rw [keyId, authorityId, type]
    rfl
  have verified : exampleProvider signatureAlgorithmName exampleAuthority.publicKey transitionTranscript
      opened.signatureBytes = { code := .verified } := by
    rw [signature]
    exact exampleProvider_verifies rfl rfl examplePackage_transition
  have authenticated : authenticateAuthorization dumps (String.ofList envelopeText).toUTF8 exampleAuthorities
      exampleProvider = .ok { authorization.authenticated with
        code := .authorizationAuthenticated, authorityId := some opened.authorityId,
        authorizationObject := some authorization, keyId := some opened.keyId, algorithm := some signatureAlgorithmName,
        authorizationObjectRaw := some (String.ofList opened.source).toUTF8, trustCode := some .resolved,
        cryptoCode := some .verified } := by
    refine Check.bound.mpr ⟨.ok _, attempt_ok.mpr parsed, ?_⟩
    unfold authenticateEnvelope
    dsimp only
    rw [resolved]
    simp only [ne_eq, not_true_eq_false, if_false, Check.bound]
    refine ⟨.ok transitionTranscript, attempt_ok.mpr (same ▸ source ▸ built), ?_⟩
    dsimp only
    rw [verified]
    rfl
  exact ⟨_, authenticated, rfl⟩

theorem authentication_binds_example : ∃ dumps, InjectiveOnValidated dumps ∧
    (∃ result, authenticateSignedAssurance dumps (String.ofList wrapperText).toUTF8 exampleStore exampleProvider =
      .ok result ∧ ∃ members object objectType producerId keyId purpose transcript record,
        BindsAssurance dumps exampleStore exampleProvider (String.ofList wrapperText).toUTF8 result members object
          objectType producerId keyId purpose transcript record) ∧
    (∃ result, authenticateAuthorization dumps (String.ofList envelopeText).toUTF8 exampleAuthorities
      exampleProvider = .ok result ∧ ∃ members object authorization keyId transcript record,
        BindsAuthorization dumps exampleAuthorities exampleProvider (String.ofList envelopeText).toUTF8 result members
          object authorization keyId transcript record) ∧
    ∀ transcript parts parts', BuildsTranscript dumps transcript parts → BuildsTranscript dumps transcript parts' →
      SameJson (.dict parts.object) (.dict parts'.object) := by
  obtain ⟨object, valid, fields⟩ := gives_iff.mp exampleTexts_read.1.2.1
  obtain ⟨authorization, validAuthorization, -⟩ := gives_iff.mp exampleTexts_read.2.2.1
  have apart : Value.dict (authorizationMapping authorization) ≠ .dict object := by
    intro same
    have untimed : (authorizationMapping authorization).lookup (py "logical_time") = none := by
      cases authorization with
      | bootstrap authorization =>
        cases time : authorization.initialHighWater <;> simp only [authorizationMapping, time] <;> rfl
      | epochTransition authorization => rfl
    simp only [decide_eq_true_eq, ← Value.dict.inj same, untimed, Option.isSome_none, Bool.false_eq_true,
      and_false] at fields
  let dumps := dumpsTwo object (authorizationMapping authorization)
  obtain ⟨assurance, authorized, unique⟩ := authentication_binds dumps
  have injective : InjectiveOnValidated dumps := dumpsTwo_injective object (authorizationMapping authorization)
  obtain ⟨result, returned, authenticated⟩ := @wrapperText_authenticated dumps fun other validOther => by
    rw [valid, Except.ok.injEq] at validOther
    subst validOther
    exact dumpsTwo_observation object (authorizationMapping authorization)
  obtain ⟨other, returnedOther, authenticatedOther⟩ := @envelopeText_authenticated dumps fun other validOther => by
    rw [validAuthorization, Except.ok.injEq] at validOther
    subst validOther
    exact dumpsTwo_transition apart
  refine ⟨dumps, injective, ⟨result, returned, assurance _ _ _ _ returned authenticated⟩,
    ⟨other, returnedOther, authorized _ _ _ _ returnedOther authenticatedOther⟩, ?_⟩
  intro transcript parts parts' builds builds'
  exact (unique injective transcript parts parts' builds builds').2.2.2.2

end Example

end Guardian.Assurance
