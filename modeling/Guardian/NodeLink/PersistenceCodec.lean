import Guardian.Crypto.Sha256
import Guardian.Lib.Check
import Guardian.Lib.Layout
import Guardian.NodeLink.Freshness

namespace Guardian.NodeLink

open Word ByteString Crypto

inductive CodecResult
  | invalid
  | ok
  | badArgument
  | bufferTooSmall
  | badMagic
  | unsupportedVersion
  | badLength
  | reservedNonzero
  | invalidField
  | integrityFailure
  | trailingData
  deriving DecidableEq, Repr

def serializationVersion : U16 := 1
def headerLength : U16 := 28
def integrityMaterialLength : U32 := 332
def serializedSize : Nat := 364
def integrityOffset : Nat := 332
def codecMagic : List U8 := [0x47, 0x46, 0x52, 0x31]

def encodeRef (reference : SemanticRef) : Option (List U8) :=
  let length := (cString reference.1).length
  if length = 0 ∨ length ≥ 96 then none else some (SemanticRef.ofText (cString reference.1)).1

/-- The text of a serialized reference, when it is terminated and nothing follows it. -/
def decodeRef (input : List U8) : Option SemanticRef :=
  let field := input.take 96
  let terminator := (cString field).length
  if terminator = 0 ∨ terminator ≥ 96 then none
  else if (field.drop (terminator + 1)).any (· != 0) then none
  else some (SemanticRef.ofText (cString field))

def recordIsLogicallyValid (record : PersistedRecord) : Bool :=
  let classified := persistenceClassify .validPersistedState record record.identity
  if classified.1 ≠ .ok then false else classified.2 == .validatedRecordCandidate

/-- The fields of the integrity material, each at its offset in the serialization. -/
def materialFields (record : PersistedRecord) (producer consumer contract : List U8) : List (List U8) :=
  [codecMagic, putU16Be serializationVersion, putU16Be headerLength, putU32Be record.schemaVersion,
    putU32Be record.identity.senderNodeId, putU32Be record.identity.producerId, putU32Be record.identity.keyId,
    [record.identity.signatureAlgorithm], [0, 0, 0], producer, consumer, contract,
    putU32Be record.acceptedEpoch, putU32Be record.acceptedSequence, putU32Be record.recordGeneration,
    putU32Be integrityMaterialLength]

def persistenceEncode (record : PersistedRecord) (outputCapacity : Nat) : CodecResult × List U8 :=
  if outputCapacity < serializedSize then (.bufferTooSmall, [])
  else if !recordIsLogicallyValid record then (.invalidField, [])
  else match encodeRef record.identity.producerSemanticProfileId, encodeRef record.identity.consumerSemanticProfileId,
      encodeRef record.identity.compatibilityContractId with
    | some producer, some consumer, some contract =>
      let material := (materialFields record producer consumer contract).flatten
      (.ok, material ++ sha256 material)
    | _, _, _ => (.invalidField, [])

/-- The result, and the record, which is zero unless the result is OK. -/
def persistenceDecode (input : List U8) : CodecResult × PersistedRecord :=
  if input.length < serializedSize then (.badLength, zeroRecord)
  else if input.length > serializedSize then (.trailingData, zeroRecord)
  else if input.take 4 ≠ codecMagic then (.badMagic, zeroRecord)
  else if getU16Be (input.drop 4) ≠ serializationVersion then (.unsupportedVersion, zeroRecord)
  else if getU16Be (input.drop 6) ≠ headerLength then (.badLength, zeroRecord)
  else if (input.drop 25).take 3 ≠ [0, 0, 0] then (.reservedNonzero, zeroRecord)
  else if getU32Be (input.drop 328) ≠ integrityMaterialLength then (.badLength, zeroRecord)
  else if sha256 (input.take integrityOffset) ≠ input.drop integrityOffset then (.integrityFailure, zeroRecord)
  else match decodeRef (input.drop 28), decodeRef (input.drop 124), decodeRef (input.drop 220) with
    | some producer, some consumer, some contract =>
      let candidate : PersistedRecord :=
        { schemaVersion := getU32Be (input.drop 8)
          identity :=
            { senderNodeId := getU32Be (input.drop 12)
              producerId := getU32Be (input.drop 16)
              keyId := getU32Be (input.drop 20)
              signatureAlgorithm := (input.drop 24).headD 0
              producerSemanticProfileId := producer
              consumerSemanticProfileId := consumer
              compatibilityContractId := contract }
          acceptedEpoch := getU32Be (input.drop 316)
          acceptedSequence := getU32Be (input.drop 320)
          recordGeneration := getU32Be (input.drop 324) }
      if !recordIsLogicallyValid candidate then (.invalidField, zeroRecord) else (.ok, candidate)
    | _, _, _ => (.invalidField, zeroRecord)

def PersistedRecord.Valid (record : PersistedRecord) : Prop := record.ValidFor record.identity

theorem recordIsLogicallyValid_iff (record : PersistedRecord) :
    recordIsLogicallyValid record = true ↔ record.Valid := by
  rw [PersistedRecord.Valid, ← persistenceClassify_valid]
  unfold recordIsLogicallyValid
  rcases persistenceClassify .validPersistedState record record.identity with ⟨result, classification⟩
  cases result <;> cases classification <;> decide

instance (record : PersistedRecord) : Decidable record.Valid :=
  decidable_of_iff _ (recordIsLogicallyValid_iff record)

theorem PersistedRecord.ValidFor.valid {record : PersistedRecord} {expectedIdentity : FreshnessIdentity}
    (valid : record.ValidFor expectedIdentity) : record.Valid := valid.self

theorem PersistedRecord.Valid.canonical {record : PersistedRecord} (valid : record.Valid) : record.canonical.Valid :=
  valid.self.canonical.self

/-- The integrity material of a record, `INTEGRITY_MATERIAL_LENGTH` bytes. -/
def recordFields (record : PersistedRecord) : List (List U8) :=
  materialFields record record.identity.producerSemanticProfileId.canonical.1
    record.identity.consumerSemanticProfileId.canonical.1 record.identity.compatibilityContractId.canonical.1

def integrityMaterial (record : PersistedRecord) : List U8 := (recordFields record).flatten

def serialized (record : PersistedRecord) : List U8 := integrityMaterial record ++ sha256 (integrityMaterial record)

def fieldSizes : List Nat := [4, 2, 2, 4, 4, 4, 4, 1, 3, 96, 96, 96, 4, 4, 4, 4]

theorem recordFields_sizes (record : PersistedRecord) : (recordFields record).map List.length = fieldSizes := by
  have text (reference : SemanticRef) : reference.1.length = 96 := reference.2
  simp only [recordFields, materialFields, List.map_cons, List.map_nil, putU16Be_length, putU32Be_length, text]
  rfl

theorem integrityMaterial_length (record : PersistedRecord) : (integrityMaterial record).length = integrityOffset := by
  rw [integrityMaterial, List.length_flatten, recordFields_sizes]
  rfl

theorem serialized_length (record : PersistedRecord) : (serialized record).length = serializedSize := by
  rw [serialized, List.length_append, integrityMaterial_length, sha256_length]
  rfl

@[simp] theorem integrityMaterial_canonical (record : PersistedRecord) :
    integrityMaterial record.canonical = integrityMaterial record := by
  simp [integrityMaterial, recordFields, materialFields, PersistedRecord.canonical, FreshnessIdentity.canonical]

@[simp] theorem serialized_canonical (record : PersistedRecord) : serialized record.canonical = serialized record := by
  simp [serialized]

theorem encodeRef_valid {reference : SemanticRef} (valid : freshnessRefValid reference = true) :
    encodeRef reference = some reference.canonical.1 := by
  simp only [freshnessRefValid, Bool.and_eq_true, bne_iff_ne, decide_eq_true_eq] at valid
  rw [encodeRef, if_neg (by omega), SemanticRef.canonical]

theorem decodeRef_canonical {reference : SemanticRef} (valid : freshnessRefValid reference = true) (rest : List U8) :
    decodeRef (reference.canonical.1 ++ rest) = some reference.canonical := by
  simp only [freshnessRefValid, Bool.and_eq_true, bne_iff_ne, decide_eq_true_eq] at valid
  have field : (reference.canonical.1 ++ rest).take 96 = reference.canonical.1 := by
    exact List.take_left' reference.canonical.2
  have padding : (reference.canonical.1.drop ((cString reference.1).length + 1)).any (· != 0) = false := by
    rw [canonical_bytes, List.drop_append, List.drop_of_length_le (by omega), List.drop_replicate]
    simp
  simp only [decodeRef, field, canonical_text, padding]
  rw [if_neg (by omega)]
  rfl

theorem persistenceEncode_valid {record : PersistedRecord} (valid : record.Valid) {outputCapacity : Nat}
    (room : serializedSize ≤ outputCapacity) : persistenceEncode record outputCapacity = (.ok, serialized record) := by
  have logical := (recordIsLogicallyValid_iff record).mpr valid
  obtain ⟨-, -, -, -, producer, consumer, contract⟩ := (freshnessIdentityStructurallyValid_iff _).mp valid.identity
  rw [persistenceEncode, if_neg (by omega), if_neg (by simp [logical]), encodeRef_valid producer,
    encodeRef_valid consumer, encodeRef_valid contract]
  rfl

theorem persistenceEncode_invalid {record : PersistedRecord} (invalid : ¬ record.Valid) (outputCapacity : Nat) :
    (persistenceEncode record outputCapacity).1 ≠ .ok := by
  rw [← recordIsLogicallyValid_iff] at invalid
  unfold persistenceEncode
  split_ifs <;> simp_all

theorem serialized_drop (record : PersistedRecord) (index offset : Nat) (start : (fieldSizes.take index).sum = offset)
    (within : offset ≤ integrityOffset) : (serialized record).drop offset =
      ((recordFields record).drop index).flatten ++ sha256 (integrityMaterial record) := by
  rw [serialized, List.drop_append_of_le_length (by rw [integrityMaterial_length]; exact within), integrityMaterial,
    drop_flatten index (by rw [List.map_take, recordFields_sizes, start])]

theorem persistenceDecode_serialized {record : PersistedRecord} (valid : record.Valid) :
    persistenceDecode (serialized record) = (.ok, record.canonical) := by
  obtain ⟨-, -, -, -, producer, consumer, contract⟩ := (freshnessIdentityStructurallyValid_iff _).mp valid.identity
  have size := serialized_length record
  have magic : (serialized record).take 4 = codecMagic := rfl
  have digest : sha256 ((serialized record).take integrityOffset) = (serialized record).drop integrityOffset := by
    rw [serialized, List.take_left' (integrityMaterial_length record), List.drop_left' (integrityMaterial_length record)]
  have field (index offset : Nat) (start : (fieldSizes.take index).sum = offset) (within : offset ≤ integrityOffset) :=
    serialized_drop record index offset start within
  have logical := (recordIsLogicallyValid_iff _).mpr valid.canonical
  rw [persistenceDecode, if_neg (by omega), if_neg (by omega), if_neg (by simp [magic]), digest, field 1 4 rfl (by decide),
    field 2 6 rfl (by decide), field 3 8 rfl (by decide), field 4 12 rfl (by decide), field 5 16 rfl (by decide),
    field 6 20 rfl (by decide), field 7 24 rfl (by decide), field 8 25 rfl (by decide), field 9 28 rfl (by decide),
    field 10 124 rfl (by decide), field 11 220 rfl (by decide), field 12 316 rfl (by decide),
    field 13 320 rfl (by decide), field 14 324 rfl (by decide), field 15 328 rfl (by decide)]
  simp only [recordFields, materialFields, List.drop_succ_cons, List.drop_zero, List.flatten_cons, List.append_assoc,
    getU16Be_put, getU32Be_put, decodeRef_canonical producer, decodeRef_canonical consumer, decodeRef_canonical contract,
    ne_eq, not_true_eq_false, if_false, List.cons_append, List.take_succ_cons, List.take_zero, List.headD_cons]
  exact if_neg (by simp only [PersistedRecord.canonical, FreshnessIdentity.canonical] at logical; simp only [logical]; decide)

theorem serialized_injective {left right : PersistedRecord} (leftValid : left.Valid) (rightValid : right.Valid)
    (same : serialized left = serialized right) : left.canonical = right.canonical := by
  have decoded := persistenceDecode_serialized leftValid
  rw [same, persistenceDecode_serialized rightValid] at decoded
  exact (Prod.mk.inj decoded).2.symm

theorem decodeRef_canonical_result {input : List U8} {reference : SemanticRef}
    (decoded : decodeRef input = some reference) : reference.canonical = reference := by
  simp only [decodeRef] at decoded
  split_ifs at decoded with bounds
  cases decoded
  exact SemanticRef.ofText_canonical (by omega) (cString_no_nul _)

theorem decodeRef_bytes {input : List U8} {reference : SemanticRef} (long : 96 ≤ input.length)
    (decoded : decodeRef input = some reference) : reference.1 = input.take 96 := by
  unfold decodeRef at decoded
  dsimp only at decoded
  have size : (input.take 96).length = 96 := by
    rw [List.length_take, Nat.min_eq_left long]
  obtain ⟨bounds, decoded⟩ := Check.passed decoded (fun same => nomatch same)
  obtain ⟨padding, decoded⟩ := Check.passed decoded (fun same => nomatch same)
  have zeros : ∀ byte ∈ (input.take 96).drop ((cString (input.take 96)).length + 1), byte = 0 := by
    intro byte member
    simp only [List.any_eq_true, not_exists, not_and] at padding
    simpa using padding byte member
  have within : (cString (input.take 96)).length < (input.take 96).length := by omega
  have whole := cString_zeros within zeros
  cases decoded
  rw [size] at whole
  have bytes : (SemanticRef.ofText (cString (input.take 96))).1 = (cString (input.take 96)).take 96 ++
      List.replicate (96 - (cString (input.take 96)).length) 0 := rfl
  rw [bytes, List.take_of_length_le (by omega)]
  exact whole.symm

theorem material_split (input : List U8) : input.take integrityOffset =
      [input.take 4, (input.drop 4).take 2, (input.drop 6).take 2, (input.drop 8).take 4, (input.drop 12).take 4,
        (input.drop 16).take 4, (input.drop 20).take 4, (input.drop 24).take 1, (input.drop 25).take 3,
        (input.drop 28).take 96, (input.drop 124).take 96, (input.drop 220).take 96, (input.drop 316).take 4,
        (input.drop 320).take 4, (input.drop 324).take 4, (input.drop 328).take 4].flatten := by
  have cut := splitLengths_take fieldSizes input
  have sum : fieldSizes.sum = integrityOffset := rfl
  rw [sum] at cut
  rw [← cut, fieldSizes, integrityOffset]
  simp only [List.splitLengths_cons, List.splitLengths_nil, List.drop_take, List.take_take, List.drop_drop]
  rfl

theorem persistenceDecode_image {input : List U8} {record : PersistedRecord}
    (decoded : persistenceDecode input = (.ok, record)) : record.Valid ∧ serialized record = input := by
  unfold persistenceDecode at decoded
  obtain ⟨short, decoded⟩ := Check.passed decoded (fun same => nomatch same)
  obtain ⟨trailing, decoded⟩ := Check.passed decoded (fun same => nomatch same)
  obtain ⟨magic, decoded⟩ := Check.passed decoded (fun same => nomatch same)
  obtain ⟨version, decoded⟩ := Check.passed decoded (fun same => nomatch same)
  obtain ⟨header, decoded⟩ := Check.passed decoded (fun same => nomatch same)
  obtain ⟨reserved, decoded⟩ := Check.passed decoded (fun same => nomatch same)
  obtain ⟨declared, decoded⟩ := Check.passed decoded (fun same => nomatch same)
  obtain ⟨digest, decoded⟩ := Check.passed decoded (fun same => nomatch same)
  rw [not_not] at magic version header reserved declared digest
  have size : input.length = serializedSize := by omega
  have room (offset : Nat) (within : offset + 96 ≤ serializedSize) : 96 ≤ (input.drop offset).length := by
    rw [List.length_drop]
    omega
  have word (offset : Nat) (within : offset + 4 ≤ serializedSize) :
      putU32Be (getU32Be (input.drop offset)) = (input.drop offset).take 4 := by
    apply putU32Be_getU32Be
    rw [List.length_drop]
    omega
  have half (offset : Nat) (within : offset + 2 ≤ serializedSize) :
      putU16Be (getU16Be (input.drop offset)) = (input.drop offset).take 2 := by
    apply putU16Be_getU16Be
    rw [List.length_drop]
    omega
  have byte : [(input.drop 24).headD 0] = (input.drop 24).take 1 := by
    have some : 0 < (input.drop 24).length := by
      rw [List.length_drop, size]
      decide
    match input.drop 24, some with
    | first :: rest, _ => rfl
  cases producer : decodeRef (input.drop 28) with
  | none =>
    rw [producer] at decoded
    cases decoded
  | some producerRef =>
    cases consumer : decodeRef (input.drop 124) with
    | none =>
      rw [producer, consumer] at decoded
      cases decoded
    | some consumerRef =>
      cases contract : decodeRef (input.drop 220) with
      | none =>
        rw [producer, consumer, contract] at decoded
        cases decoded
      | some contractRef =>
        rw [producer, consumer, contract] at decoded
        obtain ⟨logical, decoded⟩ := Check.passed decoded (fun same => nomatch same)
        cases decoded
        have material : integrityMaterial ⟨getU32Be (input.drop 8),
            ⟨getU32Be (input.drop 12), getU32Be (input.drop 16), getU32Be (input.drop 20), (input.drop 24).headD 0,
              producerRef, consumerRef, contractRef⟩,
            getU32Be (input.drop 316), getU32Be (input.drop 320), getU32Be (input.drop 324)⟩ =
              input.take integrityOffset := by
          rw [material_split input, integrityMaterial, recordFields, materialFields]
          dsimp only
          rw [decodeRef_canonical_result producer, decodeRef_canonical_result consumer,
            decodeRef_canonical_result contract, decodeRef_bytes (room 28 (by decide)) producer,
            decodeRef_bytes (room 124 (by decide)) consumer, decodeRef_bytes (room 220 (by decide)) contract,
            word 8 (by decide), word 12 (by decide), word 16 (by decide), word 20 (by decide), word 316 (by decide),
            word 320 (by decide), word 324 (by decide), byte, ← magic, ← version, ← header, ← reserved, ← declared,
            half 4 (by decide), half 6 (by decide), word 328 (by decide)]
        refine ⟨(recordIsLogicallyValid_iff _).mp (by simpa using logical), ?_⟩
        rw [serialized, material, digest, List.take_append_drop]

theorem persistenceDecode_ok {input : List U8} {record : PersistedRecord}
    (decoded : persistenceDecode input = (.ok, record)) : record.Valid ∧ record.canonical = record := by
  obtain ⟨valid, image⟩ := persistenceDecode_image decoded
  have again := persistenceDecode_serialized valid
  rw [image, decoded] at again
  exact ⟨valid, (Prod.mk.inj again).2.symm⟩

/-- `none` is a NULL input. -/
def persistenceDecodeInput (input : Option (List U8)) : CodecResult × PersistedRecord :=
  match input with
  | none => (.badArgument, zeroRecord)
  | some bytes => persistenceDecode bytes

theorem persistenceDecode_rejected (input : List U8) :
    (persistenceDecode input).1 = .ok ∨ (persistenceDecode input).2 = zeroRecord := by
  have check {condition : Prop} [Decidable condition] (failure : CodecResult) {rest : CodecResult × PersistedRecord}
      (remaining : rest.1 = .ok ∨ rest.2 = zeroRecord) :
      (if condition then (failure, zeroRecord) else rest).1 = .ok ∨
        (if condition then (failure, zeroRecord) else rest).2 = zeroRecord := by
    by_cases holds : condition
    · rw [if_pos holds]
      exact Or.inr rfl
    · rw [if_neg holds]
      exact remaining
  unfold persistenceDecode
  apply check
  apply check
  apply check
  apply check
  apply check
  apply check
  apply check
  apply check
  cases decodeRef (input.drop 28) with
  | none => exact Or.inr rfl
  | some producer =>
    cases decodeRef (input.drop 124) with
    | none => exact Or.inr rfl
    | some consumer =>
      cases decodeRef (input.drop 220) with
      | none => exact Or.inr rfl
      | some contract =>
        apply check
        exact Or.inl rfl

/-- A valid record survives its encoding up to what follows the texts of its references, an accepted image is the
encoding of its record, and a rejected one leaves a zero record. -/
theorem persistence_codec_exact :
    (∀ record, recordIsLogicallyValid record = true → ∀ capacity, serializedSize ≤ capacity →
      ∃ image, persistenceEncode record capacity = (.ok, image) ∧ persistenceDecode image = (.ok, record.canonical)) ∧
    (∀ image record, persistenceDecode image = (.ok, record) → ∀ capacity, serializedSize ≤ capacity →
      persistenceEncode record capacity = (.ok, image)) ∧
    ∀ input, (persistenceDecodeInput input).1 ≠ .ok → (persistenceDecodeInput input).2 = zeroRecord := by
  refine ⟨?_, ?_, ?_⟩
  · intro record logical capacity room
    have valid := (recordIsLogicallyValid_iff record).mp logical
    exact ⟨serialized record, persistenceEncode_valid valid room, persistenceDecode_serialized valid⟩
  · intro image record decoded capacity room
    obtain ⟨valid, same⟩ := persistenceDecode_image decoded
    rw [persistenceEncode_valid valid room, same]
  · intro input rejected
    cases input with
    | none => rfl
    | some bytes => exact (persistenceDecode_rejected bytes).resolve_left rejected

end Guardian.NodeLink
