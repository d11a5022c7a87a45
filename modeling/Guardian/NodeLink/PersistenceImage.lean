import Guardian.NodeLink.PersistenceBackend

namespace Guardian.NodeLink

open Word ByteString Crypto

def imageBody (record : PersistedRecord) : List U8 :=
  headerHashMaterial record (serialized record) ++ sha256 (headerHashMaterial record (serialized record)) ++
    serialized record

def committedImage (record : PersistedRecord) : List U8 := imageBody record ++ commitMarker

theorem headerHashMaterial_length (record : PersistedRecord) (payload : List U8) :
    (headerHashMaterial record payload).length = headerHashMaterialSize := by
  simp only [headerHashMaterial, List.length_append, putU16Be_length, putU32Be_length, sha256_length]
  rfl

theorem imageBody_length (record : PersistedRecord) : (imageBody record).length = physicalCommitOffset := by
  rw [imageBody, List.length_append, List.length_append, headerHashMaterial_length, sha256_length, serialized_length]
  rfl

theorem committedImage_length (record : PersistedRecord) : (committedImage record).length = physicalImageSize := by
  rw [committedImage, List.length_append, imageBody_length]
  rfl

/-- A slot erased and then programmed with the first `count` bytes of an image. -/
def programmedImage (record : PersistedRecord) (count : Nat) : Image :=
  ⟨(committedImage record).take count ++ List.replicate (physicalImageSize - count) 0xFF, by
    simp only [List.length_append, List.length_take, List.length_replicate, committedImage_length]
    omega⟩

theorem programmedImage_zero (record : PersistedRecord) : programmedImage record 0 = erasedImage :=
  Subtype.ext (by simp [programmedImage, erasedImage])

theorem programmedImage_full (record : PersistedRecord) :
    (programmedImage record physicalImageSize).1 = committedImage record := by
  simp [programmedImage, ← committedImage_length record]

theorem buildStagedImage_valid {record : PersistedRecord} (valid : record.Valid) :
    buildStagedImage record = some (imageBody record ++ List.replicate 4 0xFF) := by
  simp only [buildStagedImage, persistenceEncode_valid valid (Nat.le_refl _), serialized_length]
  rfl

theorem buildStagedImage_invalid {record : PersistedRecord} (invalid : ¬ record.Valid) :
    buildStagedImage record = none := by
  rw [buildStagedImage, if_pos (persistenceEncode_invalid invalid _)]

theorem program_body (record : PersistedRecord) {count : Nat} (within : count ≤ physicalCommitOffset) :
    erasedImage.program 0 (((imageBody record ++ List.replicate 4 0xFF).take physicalCommitOffset).take count) =
      programmedImage record count := by
  have body := imageBody_length record
  have size : ((imageBody record).take count).length + (physicalImageSize - count) = physicalImageSize := by
    rw [List.length_take, body, physicalImageSize]
    simp only [physicalCommitOffset] at within ⊢
    omega
  have cells := overlay_erased ((imageBody record).take count) (physicalImageSize - count)
  rw [size] at cells
  apply Subtype.ext
  simp only [programmedImage, committedImage, List.take_left' body]
  rw [List.take_append_of_le_length (by omega)]
  exact cells

theorem program_marker (record : PersistedRecord) {count : Nat} (within : count ≤ 4) :
    (programmedImage record physicalCommitOffset).program physicalCommitOffset (commitMarker.take count) =
      programmedImage record (physicalCommitOffset + count) := by
  have body := imageBody_length record
  have size : (commitMarker.take count).length + (4 - count) = 4 := by
    rw [List.length_take, show commitMarker.length = 4 from rfl]
    omega
  have marker := overlay_erased (commitMarker.take count) (4 - count)
  have cells := overlay_append (commitMarker.take count) (imageBody record) (List.replicate 4 0xFF)
  rw [size] at marker
  rw [body, marker] at cells
  have whole : (imageBody record).take (physicalCommitOffset + count) = imageBody record :=
    List.take_of_length_le (by omega)
  have spare : physicalImageSize - (physicalCommitOffset + count) = 4 - count := by
    simp only [physicalImageSize, physicalCommitOffset]
    omega
  apply Subtype.ext
  simp only [Image.program, programmedImage, committedImage, List.take_left' body, spare]
  rw [List.take_append, whole, body, Nat.add_sub_cancel_left, List.append_assoc]
  exact cells

theorem validateBody_body {record : PersistedRecord} (valid : record.Valid) (tail : List U8) :
    validateBody (imageBody record ++ tail) = some record.canonical := by
  have material := headerHashMaterial_length record (serialized record)
  have whole : imageBody record ++ tail = headerHashMaterial record (serialized record) ++
      (sha256 (headerHashMaterial record (serialized record)) ++ (serialized record ++ tail)) := by
    simp only [imageBody, List.append_assoc]
  have magic : (imageBody record ++ tail).take 4 = physicalMagic := rfl
  have version : getU16Be ((imageBody record ++ tail).drop 4) = physicalFormatVersion := rfl
  have header : getU16Be ((imageBody record ++ tail).drop 6) = physicalHeaderSize := rfl
  have length : getU32Be ((imageBody record ++ tail).drop 8) = BitVec.ofNat 32 serializedSize := rfl
  have hashed : (imageBody record ++ tail).take headerHashMaterialSize =
      headerHashMaterial record (serialized record) := by
    rw [whole, List.take_left' material]
  have headerHash : slice 48 32 (imageBody record ++ tail) =
      sha256 (headerHashMaterial record (serialized record)) := by
    rw [whole, slice_append_right 32 _ (by rw [material]; decide), material]
    exact slice_append_self _ (sha256_length _)
  have payload : slice physicalPayloadOffset serializedSize (imageBody record ++ tail) = serialized record := by
    rw [whole, slice_append_right _ _ (by rw [material]; decide), material,
      slice_append_right _ _ (by rw [sha256_length]; decide), sha256_length]
    exact slice_append_self _ (serialized_length record)
  have payloadHash : slice 16 32 (imageBody record ++ tail) = sha256 (serialized record) := by
    rw [whole, slice_append_left _ (by rw [material]; decide), headerHashMaterial,
      slice_append_right 32 _ (by simp [physicalMagic])]
    exact slice_all (sha256_length _)
  have generation : getU32Be ((imageBody record ++ tail).drop 12) = record.recordGeneration :=
    getU32Be_put record.recordGeneration _
  rw [validateBody, if_neg (by simp [magic]), if_neg (by simp [version]), if_neg (by simp [header]),
    if_neg (by rw [length]; simp), if_neg (by rw [hashed, headerHash]; simp),
    if_neg (by rw [payload, payloadHash]; simp), payload, persistenceDecode_serialized valid, generation]
  simp [PersistedRecord.canonical]

theorem programmedImage_body (record : PersistedRecord) :
    (programmedImage record physicalCommitOffset).1 = imageBody record ++ List.replicate 4 0xFF := by
  simp only [programmedImage, committedImage, List.take_left' (imageBody_length record)]
  rfl

theorem programmedImage_marker (record : PersistedRecord) {count : Nat} (within : count ≤ physicalImageSize) :
    (programmedImage record count).1.drop physicalCommitOffset =
      commitMarker.take (count - physicalCommitOffset) ++
        List.replicate (4 - (count - physicalCommitOffset)) 0xFF := by
  have body := imageBody_length record
  have size : ((committedImage record).take count).length = count := by
    rw [List.length_take, committedImage_length]
    omega
  have rest : physicalImageSize - count - (physicalCommitOffset - count) = 4 - (count - physicalCommitOffset) := by
    simp only [physicalImageSize, physicalCommitOffset] at within ⊢
    omega
  simp only [programmedImage, List.drop_append, size, List.drop_replicate, rest]
  rw [List.drop_take, committedImage, List.drop_left' body]

theorem observe_erased : observeImage erasedImage.1 = ⟨.erased, zeroRecord⟩ :=
  if_pos (by simp [bytesAllFf, erasedImage])

theorem programmedImage_started (record : PersistedRecord) {count : Nat} (started : 0 < count) :
    bytesAllFf (programmedImage record count).1 = false := by
  obtain ⟨count, rfl⟩ := Nat.exists_eq_succ_of_ne_zero (Nat.ne_of_gt started)
  rfl

theorem observe_torn (record : PersistedRecord) {count : Nat} (started : 0 < count)
    (within : count ≤ physicalCommitOffset) : observeImage (programmedImage record count).1 = ⟨.torn, zeroRecord⟩ := by
  have marker := programmedImage_marker record (Nat.le_trans within (by decide : physicalCommitOffset ≤ physicalImageSize))
  rw [Nat.sub_eq_zero_of_le within] at marker
  rw [observeImage, if_neg (by simp [programmedImage_started record started]), marker]
  rfl

theorem observe_corrupted (record : PersistedRecord) {count : Nat} (started : physicalCommitOffset < count)
    (within : count < physicalImageSize) : observeImage (programmedImage record count).1 = ⟨.corrupted, zeroRecord⟩ := by
  have marker := programmedImage_marker record (Nat.le_of_lt within)
  rw [observeImage, if_neg (by simp [programmedImage_started record (Nat.zero_lt_of_lt started)]), marker]
  have bytes : count - physicalCommitOffset = 1 ∨ count - physicalCommitOffset = 2 ∨
      count - physicalCommitOffset = 3 := by
    simp only [physicalImageSize, physicalCommitOffset] at *
    omega
  rcases bytes with bytes | bytes | bytes <;> rw [bytes] <;> rfl

theorem observe_committed {record : PersistedRecord} (valid : record.Valid) :
    observeImage (programmedImage record physicalImageSize).1 = ⟨.valid, record.canonical⟩ := by
  have started := programmedImage_started record (show 0 < physicalImageSize by decide)
  have marker := programmedImage_marker record (Nat.le_refl physicalImageSize)
  rw [observeImage, if_neg (by simp [started]), marker, programmedImage_full, committedImage, validateBody_body valid]
  rfl

theorem recordsEqual_iff {left right : PersistedRecord} (leftValid : left.Valid) (rightValid : right.Valid) :
    recordsEqual left right = true ↔ left.canonical = right.canonical := by
  rw [recordsEqual, persistenceEncode_valid leftValid (Nat.le_refl _),
    persistenceEncode_valid rightValid (Nat.le_refl _), if_neg (by simp), if_neg (by simp), beq_iff_eq]
  constructor
  · exact serialized_injective leftValid rightValid
  · intro same
    rw [← serialized_canonical left, same, serialized_canonical]

theorem stagedCandidateMatches_body {record : PersistedRecord} (valid : record.Valid) :
    stagedCandidateMatches (programmedImage record physicalCommitOffset).1 record = true := by
  have equal := (recordsEqual_iff valid.canonical valid).mpr record.canonical_canonical
  rw [stagedCandidateMatches, programmedImage_marker record (by decide), if_neg (by decide), programmedImage_body,
    validateBody_body valid]
  exact equal

end Guardian.NodeLink
