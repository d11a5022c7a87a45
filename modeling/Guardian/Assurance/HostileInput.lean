import Guardian.Assurance.Authentication

namespace Guardian.Assurance

open JsonText Raising Word

variable {ε : Type}

section scanner

variable {scanner : MemberScanner ε}

theorem not_escapes_stringEnd {escaped : Bool} {text : List Char} : ¬ Escapes (stringEnd scanner escaped text) := by
  induction text generalizing escaped with
  | nil => cases escaped <;> simp [stringEnd]
  | cons c rest ih =>
    cases escaped with
    | true => exact ih
    | false =>
      rw [stringEnd]
      split_ifs
      · exact ih
      · simp
      · exact ih

theorem not_escapes_scanStringEnd {text : List Char} : ¬ Escapes (scanStringEnd scanner text) := by
  unfold scanStringEnd
  split
  · exact not_escapes_stringEnd
  · simp

theorem not_escapes_containerEnd {stack : List Char} {inString escaped : Bool} {text : List Char} :
    ¬ Escapes (containerEnd scanner stack inString escaped text) := by
  induction text generalizing stack inString escaped with
  | nil => simp [containerEnd]
  | cons c rest ih =>
    cases inString with
    | true =>
      cases escaped with
      | true => exact ih
      | false =>
        rw [containerEnd]
        split_ifs <;> exact ih
    | false =>
      rw [containerEnd.eq_def]
      dsimp only
      split_ifs
      · exact ih
      · exact ih
      · split
        · simp
        · split_ifs
          · simp
          · simp
          · exact ih
      · exact ih

theorem not_escapes_scanValueEnd {text : List Char} : ¬ Escapes (scanValueEnd scanner text) := by
  unfold scanValueEnd
  split
  · simp
  · split_ifs
    · exact not_escapes_scanStringEnd
    · exact not_escapes_containerEnd
    · simp

theorem not_escapes_loadName {text : List Char} : ¬ Escapes (loadName scanner text) := by
  unfold loadName
  split <;> simp

theorem not_escapes_extractMember {target : PyString} {fuel : ℕ} {text : List Char} :
    ¬ Escapes (extractMember scanner target fuel text) := by
  induction fuel generalizing text with
  | zero => simp [extractMember]
  | succ fuel ih =>
    rw [extractMember]
    split
    · simp
    · simp
    · apply not_escapes_bind not_escapes_scanStringEnd
      intro keyEnd _
      apply not_escapes_bind not_escapes_loadName
      intro key _
      split
      · apply not_escapes_bind not_escapes_scanValueEnd
        intro valueEnd _
        split
        · simp
        · split
          · exact ih
          · simp
          · simp
      · simp

@[simp]
theorem not_escapes_extractTopLevelMemberRaw {text : List Char} {target : PyString} :
    ¬ Escapes (extractTopLevelMemberRaw scanner text target) := by
  unfold extractTopLevelMemberRaw
  split
  · exact not_escapes_extractMember
  · simp

end scanner

@[simp]
theorem not_escapes_validateKeyId {value : Value} : ¬ Escapes (validateKeyId value) := by
  unfold validateKeyId
  split
  · split
    · simp
    · split
      · simp
      · split <;> simp
  · simp

@[simp]
theorem not_escapes_decodeSignature {decode : PyString → Except String (List U8)} {error : String → ε} {value : Value} :
    ¬ Escapes (decodeSignature decode error value) := by
  unfold decodeSignature
  split
  · split <;> simp
  · simp

@[simp]
theorem not_escapes_decodeKey {decode : PyString → Except String (List U8)} {error : String → ε} {value : Value} :
    ¬ Escapes (decodeKey decode error value) := by
  unfold decodeKey
  split
  · split <;> simp
  · simp

theorem not_escapes_rewrap_bind {ε' α β : Type} {label : ε → ε'} {call : Raises ε α} {follows : α → Raises ε' β}
    (first : ¬ Escapes call) (rest : ∀ value, ¬ Escapes (follows value)) :
    ¬ Escapes (rewrap label call >>= follows) :=
  not_escapes_bind (fun escapes => first (escapes_rewrap.mp escapes)) fun value _ => rest value

theorem not_escapes_loadPairs {constant : List Char → Option (Raised ε)} {text : List Char} {error : ε}
    (constants : ∀ spelling raised, constant spelling = some raised → raised.Foreign → raised = .valueError) :
    ¬ Escapes (onValueError error (loadJson (pairHooks constant) text)) :=
  not_escapes_onValueError (loadJson_foreign nofun constants)

@[simp]
theorem not_escapes_wrapperPairs {text : List Char} : ¬ Escapes (wrapperPairs text) := by
  apply not_escapes_bind
  · apply not_escapes_loadPairs
    rintro spelling _ ⟨⟩ -
    rfl
  · intro value _
    split
    · split <;> simp
    · simp

theorem wrapperTopLevel_ok {pairs members : Members} (made : wrapperTopLevel pairs = .ok members) :
    HasExactly wrapperKeys members := by
  simp only [wrapperTopLevel, Check.bound, require_ok, pure, Except.pure, Except.ok.injEq] at made
  obtain ⟨other, -, -, exactly, rfl⟩ := made
  exact exactly

theorem not_escapes_openSignedWrapper {raw : ByteArray} : ¬ Escapes (openSignedWrapper raw) := by
  apply not_escapes_require_bind; intro _
  apply not_escapes_bind not_escapes_decodeUtf8; intro text _
  apply not_escapes_bind not_escapes_wrapperPairs; intro pairs _
  apply not_escapes_bind (not_escapes_bind not_escapes_uniqueMembers fun _ _ => by simp); intro wrapper made
  have exactly := wrapperTopLevel_ok made
  apply not_escapes_item_bind exactly (by simp [wrapperKeys]); intro _
  apply not_escapes_require_bind; intro _
  apply not_escapes_item_bind exactly (by simp [wrapperKeys]); intro _
  apply not_escapes_require_bind; intro _
  apply not_escapes_item_bind exactly (by simp [wrapperKeys]); intro _
  apply not_escapes_rewrap_bind not_escapes_validateKeyId; intro _
  apply not_escapes_item_bind exactly (by simp [wrapperKeys]); intro _
  apply not_escapes_bind not_escapes_decodeSignature; intro _ _
  apply not_escapes_bind not_escapes_extractTopLevelMemberRaw; intro _ _
  simp

/-- The bytes of the signed object of an envelope whose fields have been checked. -/
def OpenedWrapper.objectRaw (opened : OpenedWrapper) : ByteArray := (String.ofList opened.source).toUTF8

/-- All checks of the envelope pass, and the walk over the assurance object meets a string that UTF-8 cannot encode
before anything else that it does not allow. -/
def WrapperTrouble (raw : ByteArray) : Prop :=
  ∃ opened, openSignedWrapper raw = .ok opened ∧ EnvelopeMeetsSurrogate opened.objectRaw {}

theorem escapes_parseAndValidateSignedWrapper {raw : ByteArray} :
    Escapes (parseAndValidateSignedWrapper raw) ↔ WrapperTrouble raw := by
  rw [parseAndValidateSignedWrapper, escapes_bind_of_not not_escapes_openSignedWrapper]
  apply exists_congr
  intro opened
  apply and_congr_right
  intro _
  simp only [escapes_bind, escapes_rewrap, escapes_parseAndValidateEnvelope, not_escapes_pure, and_false,
    exists_false, or_false]
  rfl

def Unpackable (value : Value) : Prop := ∃ pair, (unpackTwo value : Raises SignedAuthorizationError _) = .ok pair

theorem escapes_unpackTwo {value : Value} :
    Escapes (unpackTwo value : Raises SignedAuthorizationError _) ↔ ¬ Unpackable value := by
  unfold Unpackable unpackTwo
  split <;> simp [Escapes, Raised.Foreign]

theorem escapes_unpackItem {result : Members} {entry : Value} :
    Escapes (unpackItem result entry) ↔ ¬ Unpackable entry := by
  rw [unpackItem, escapes_bind, escapes_unpackTwo]
  apply or_iff_left
  rintro ⟨⟨key, value⟩, -, escapes⟩
  revert escapes
  dsimp only
  split
  · apply not_escapes_require_bind
    simp
  · simp

/-- The items are those of the envelope up to one that cannot be unpacked into a name and a value. -/
def MeetsUnpackable (items : List Value) : Prop :=
  ∃ before item after, items = before ++ item :: after ∧ ¬ Unpackable item ∧
    ∃ members, before.foldlM unpackItem [] = .ok members

theorem escapes_authorizationTopLevel {items : List Value} :
    Escapes (authorizationTopLevel items) ↔ MeetsUnpackable items := by
  rw [authorizationTopLevel, escapes_bind, escapes_foldlM]
  constructor
  · rintro (⟨before, item, after, reached, same, done, escapes⟩ | ⟨members, -, escapes⟩)
    · exact ⟨before, item, after, same, escapes_unpackItem.mp escapes, reached, done⟩
    · simp at escapes
  · rintro ⟨before, item, after, same, escapes, reached, done⟩
    exact .inl ⟨before, item, after, reached, same, done, escapes_unpackItem.mpr escapes⟩

theorem authorizationTopLevel_ok {items : List Value} {members : Members}
    (made : authorizationTopLevel items = .ok members) : HasExactly authorizationEnvelopeKeys members := by
  simp only [authorizationTopLevel, Check.bound, require_ok, pure, Except.pure, Except.ok.injEq] at made
  obtain ⟨other, -, -, exactly, rfl⟩ := made
  exact exactly

theorem escapes_openAuthorizationItems {text : List Char} {items : List Value} :
    Escapes (openAuthorizationItems text items) ↔ MeetsUnpackable items := by
  rw [openAuthorizationItems, escapes_bind, escapes_authorizationTopLevel]
  apply or_iff_left
  rintro ⟨members, made, escapes⟩
  revert escapes
  have exactly := authorizationTopLevel_ok made
  apply not_escapes_item_bind exactly (by simp [authorizationEnvelopeKeys]); intro _
  apply not_escapes_require_bind; intro _
  apply not_escapes_item_bind exactly (by simp [authorizationEnvelopeKeys]); intro _
  apply not_escapes_require_bind; intro _
  apply not_escapes_item_bind exactly (by simp [authorizationEnvelopeKeys]); intro _
  apply not_escapes_rewrap_bind not_escapes_validateFieldText; intro _
  apply not_escapes_item_bind exactly (by simp [authorizationEnvelopeKeys]); intro _
  apply not_escapes_rewrap_bind not_escapes_validateKeyId; intro _
  apply not_escapes_item_bind exactly (by simp [authorizationEnvelopeKeys]); intro _
  apply not_escapes_bind not_escapes_decodeSignature; intro _ _
  apply not_escapes_bind not_escapes_extractTopLevelMemberRaw; intro _ _
  simp

theorem not_escapes_decodeSignedAuthorization {raw : ByteArray} : ¬ Escapes (decodeSignedAuthorization raw) := by
  apply not_escapes_require_bind; intro _
  apply not_escapes_bind not_escapes_decodeUtf8; intro text _
  apply not_escapes_bind
  · apply not_escapes_bind
    · apply not_escapes_loadPairs
      rintro spelling _ ⟨⟩ foreign
      exact foreign.elim
    · intro value _
      split <;> simp
  · intro items _
    simp

/-- The document is an array, up to an item of which all is as in an envelope, and which cannot be unpacked into two; or
all checks of the envelope pass, and the walk over the authorization object meets a string that UTF-8 cannot encode
before anything else that it does not allow. -/
def AuthorizationTrouble (raw : ByteArray) : Prop :=
  (∃ text items, decodeSignedAuthorization raw = .ok (text, items) ∧ MeetsUnpackable items) ∨
    ∃ opened, openSignedAuthorization raw = .ok opened ∧ AuthorizationMeetsSurrogate opened.objectRaw

theorem escapes_parseAndValidateSignedAuthorization {raw : ByteArray} :
    Escapes (parseAndValidateSignedAuthorization raw) ↔ AuthorizationTrouble raw := by
  rw [parseAndValidateSignedAuthorization, escapes_bind]
  apply or_congr
  · rw [openSignedAuthorization, escapes_bind_of_not not_escapes_decodeSignedAuthorization, Prod.exists]
    apply exists_congr; intro text
    apply exists_congr; intro items
    apply and_congr_right; intro _
    exact escapes_openAuthorizationItems
  · apply exists_congr; intro opened
    apply and_congr_right; intro _
    rw [escapes_bind, escapes_rewrap, escapes_parseAndValidateAuthorizationObject]
    apply or_iff_left
    rintro ⟨_, -, escapes⟩
    simp at escapes

theorem escapes_credentialState {value : Value} :
    Escapes (credentialState value : Raises ε _) ↔ hashable value = false := by
  unfold credentialState
  cases hashable value
  · simp [Escapes, Raised.Foreign]
  · simp only [not_true_eq_false, if_false, Bool.true_eq_false, iff_false]
    split_ifs <;> simp

@[simp]
theorem not_escapes_openRecord {value : Value} : ¬ Escapes (openRecord value) := by
  unfold openRecord
  split
  · apply not_escapes_require_bind; intro exactly
    apply not_escapes_item_bind exactly (by simp [recordKeys]); intro _
    apply not_escapes_rewrap_bind not_escapes_requireText; intro _
    apply not_escapes_item_bind exactly (by simp [recordKeys]); intro _
    apply not_escapes_rewrap_bind not_escapes_validateKeyId; intro _
    apply not_escapes_item_bind exactly (by simp [recordKeys]); intro _
    apply not_escapes_require_bind; intro _
    apply not_escapes_item_bind exactly (by simp [recordKeys]); intro _
    apply not_escapes_bind not_escapes_decodeKey; intro _ _
    apply not_escapes_item_bind exactly (by simp [recordKeys]); intro _
    simp
  · simp

/-- All checks of a record pass up to its lifecycle state, which is a list or a dictionary. -/
def RecordTrouble (record : Value) : Prop :=
  ∃ opened, openRecord record = .ok opened ∧ hashable opened.lifecycleState = false

theorem escapes_validateRecord {record : Value} : Escapes (validateRecord record) ↔ RecordTrouble record := by
  rw [validateRecord, escapes_bind_of_not not_escapes_openRecord]
  apply exists_congr; intro opened
  apply and_congr_right; intro _
  rw [escapes_bind, escapes_credentialState]
  apply or_iff_left
  rintro ⟨state, -, escapes⟩
  revert escapes
  split <;> simp

@[simp]
theorem not_escapes_openAuthorizationRecord {value : Value} : ¬ Escapes (openAuthorizationRecord value) := by
  unfold openAuthorizationRecord
  split
  · apply not_escapes_require_bind; intro exactly
    apply not_escapes_item_bind exactly (by simp [authorizationRecordKeys]); intro _
    apply not_escapes_rewrap_bind not_escapes_validateFieldText; intro _
    apply not_escapes_item_bind exactly (by simp [authorizationRecordKeys]); intro _
    apply not_escapes_rewrap_bind not_escapes_validateKeyId; intro _
    apply not_escapes_item_bind exactly (by simp [authorizationRecordKeys]); intro _
    apply not_escapes_require_bind; intro _
    apply not_escapes_item_bind exactly (by simp [authorizationRecordKeys]); intro _
    apply not_escapes_bind not_escapes_decodeKey; intro _ _
    apply not_escapes_item_bind exactly (by simp [authorizationRecordKeys]); intro _
    apply not_escapes_item_bind exactly (by simp [authorizationRecordKeys]); intro _
    simp
  · simp

@[simp]
theorem not_escapes_capabilitiesOf {value : Value} : ¬ Escapes (capabilitiesOf value) := by
  unfold capabilitiesOf
  split
  · apply not_escapes_require_bind; intro _
    split
    · simp
    · apply not_escapes_require_bind; intro _
      split <;> simp
  · simp

/-- The same as `RecordTrouble`, in the authorization trust store. -/
def AuthorizationRecordTrouble (record : Value) : Prop :=
  ∃ opened, openAuthorizationRecord record = .ok opened ∧ hashable opened.lifecycleState = false

theorem escapes_validateAuthorizationRecord {record : Value} :
    Escapes (validateAuthorizationRecord record) ↔ AuthorizationRecordTrouble record := by
  rw [validateAuthorizationRecord, escapes_bind_of_not not_escapes_openAuthorizationRecord]
  apply exists_congr; intro opened
  apply and_congr_right; intro _
  rw [escapes_bind, escapes_credentialState]
  apply or_iff_left
  rintro ⟨state, -, escapes⟩
  revert escapes
  split <;> simp

def MeetsTrouble {α : Type} (trouble : Value → Prop) (validate : Value → Raises ε α) (items : List Value) : Prop :=
  ∃ before record after, items = before ++ record :: after ∧ trouble record ∧
    ∀ other ∈ before, ∃ valid, validate other = .ok valid

@[simp]
theorem not_escapes_checkDistinct {seen records : List TrustRecord} : ¬ Escapes (checkDistinct seen records) := by
  induction records generalizing seen with
  | nil => simp [checkDistinct]
  | cons record records ih =>
    apply not_escapes_require_bind; intro _
    apply not_escapes_require_bind; intro _
    exact ih

@[simp]
theorem not_escapes_checkDistinctAuthorities {seen records : List AuthorizationTrustRecord} :
    ¬ Escapes (checkDistinctAuthorities seen records) := by
  induction records generalizing seen with
  | nil => simp [checkDistinctAuthorities]
  | cons record records ih =>
    apply not_escapes_require_bind; intro _
    apply not_escapes_require_bind; intro _
    exact ih

theorem not_escapes_openTrustStore {raw : ByteArray} {expectedEnvironment : PyString} :
    ¬ Escapes (openTrustStore raw expectedEnvironment) := by
  apply not_escapes_require_bind; intro _
  apply not_escapes_require_bind; intro _
  apply not_escapes_bind not_escapes_decodeUtf8; intro text _
  apply not_escapes_bind
  · apply not_escapes_loadDict
    rintro spelling _ ⟨⟩ -
    rfl
  · intro value _
    split
    · apply not_escapes_require_bind; intro exactly
      apply not_escapes_item_bind exactly (by simp [topLevelKeys]); intro _
      apply not_escapes_require_bind; intro _
      simp
    · simp

theorem openTrustStore_ok {raw : ByteArray} {expectedEnvironment : PyString} {members : Members}
    (opened : openTrustStore raw expectedEnvironment = .ok members) : HasExactly topLevelKeys members := by
  simp only [openTrustStore, Check.bound] at opened
  obtain ⟨-, -, -, -, text, -, value, -, rest⟩ := opened
  split at rest
  · simp only [Check.bound, require_ok, pure, Except.pure, Except.ok.injEq] at rest
    obtain ⟨-, exactly, -, -, -, -, rfl⟩ := rest
    exact exactly
  · cases rest

theorem escapes_recordItems {environment records : Value} {expectedEnvironment : PyString} :
    Escapes (recordItems environment records expectedEnvironment) ↔ hashable environment = false := by
  unfold recordItems
  rw [escapes_bind]
  have member : Escapes (memberOf environments environment : Raises TrustStoreError Bool) ↔
      hashable environment = false := by
    unfold memberOf
    cases hashable environment <;> simp [Escapes, Raised.Foreign]
  rw [member]
  apply or_iff_left
  rintro ⟨known, -, escapes⟩
  revert escapes
  apply not_escapes_require_bind; intro _
  apply not_escapes_require_bind; intro _
  split
  · apply not_escapes_require_bind; intro _
    simp
  · simp

/-- The document is a trust store up to its environment, which is a list or a dictionary; or it is one up to its
records, which are valid up to one whose lifecycle state is a list or a dictionary. -/
def StoreTrouble (raw : ByteArray) (expectedEnvironment : PyString) : Prop :=
  ∃ members, openTrustStore raw expectedEnvironment = .ok members ∧
    ∃ environment, members.lookup (py "environment") = some environment ∧
      ∃ records, members.lookup (py "records") = some records ∧
      (hashable environment = false ∨
        ∃ items, recordItems environment records expectedEnvironment = .ok items ∧
          MeetsTrouble RecordTrouble validateRecord items)

theorem escapes_parseAndValidateTrustStore {dumps : Value → Option (List U8)} {raw : ByteArray}
    {expectedEnvironment : PyString} :
    Escapes (parseAndValidateTrustStore dumps raw expectedEnvironment) ↔ StoreTrouble raw expectedEnvironment := by
  rw [parseAndValidateTrustStore, escapes_bind_of_not not_escapes_openTrustStore]
  apply exists_congr; intro members
  apply and_congr_right; intro opened
  have exactly := openTrustStore_ok opened
  rw [escapes_bind_of_not (not_escapes_item exactly (by simp [topLevelKeys]))]
  simp only [item_ok]
  apply exists_congr; intro environment
  apply and_congr_right; intro _
  rw [escapes_bind_of_not (not_escapes_item exactly (by simp [topLevelKeys]))]
  simp only [item_ok]
  apply exists_congr; intro records
  apply and_congr_right; intro _
  rw [escapes_bind, escapes_recordItems]
  apply or_congr_right
  apply exists_congr; intro items
  apply and_congr_right; intro _
  rw [escapes_bind, escapes_mapM]
  constructor
  · rintro (⟨before, record, after, same, valid, escapes⟩ | ⟨records, -, escapes⟩)
    · exact ⟨before, record, after, same, escapes_validateRecord.mp escapes, valid⟩
    · rw [escapes_bind_of_not not_escapes_checkDistinct] at escapes
      obtain ⟨-, -, escapes⟩ := escapes
      revert escapes
      split <;> simp
  · rintro ⟨before, record, after, same, trouble, valid⟩
    exact .inl ⟨before, record, after, same, valid, escapes_validateRecord.mpr trouble⟩

/-- The document is an authorization trust store up to its records, which are valid up to one whose lifecycle state is a
list or a dictionary. -/
def AuthorizationStoreTrouble (raw : ByteArray) (expectedEnvironment : PyString) : Prop :=
  ∃ items, openAuthorizationTrustStore raw expectedEnvironment = .ok items ∧
    MeetsTrouble AuthorizationRecordTrouble validateAuthorizationRecord items

theorem not_escapes_openAuthorizationTrustStore {raw : ByteArray} {expectedEnvironment : PyString} :
    ¬ Escapes (openAuthorizationTrustStore raw expectedEnvironment) := by
  apply not_escapes_require_bind; intro _
  apply not_escapes_bind not_escapes_decodeUtf8; intro text _
  apply not_escapes_bind
  · apply not_escapes_loadDict
    rintro spelling _ ⟨⟩ foreign
    exact foreign.elim
  · intro value _
    split
    · apply not_escapes_require_bind; intro exactly
      apply not_escapes_item_bind exactly (by simp [topLevelKeys]); intro _
      apply not_escapes_require_bind; intro _
      apply not_escapes_item_bind exactly (by simp [topLevelKeys]); intro _
      apply not_escapes_require_bind; intro _
      apply not_escapes_item_bind exactly (by simp [topLevelKeys]); intro _
      split
      · apply not_escapes_require_bind; intro _
        simp
      · simp
    · simp

theorem escapes_parseAndValidateAuthorizationTrustStore {raw : ByteArray} {expectedEnvironment : PyString} :
    Escapes (parseAndValidateAuthorizationTrustStore raw expectedEnvironment) ↔
      AuthorizationStoreTrouble raw expectedEnvironment := by
  rw [parseAndValidateAuthorizationTrustStore, escapes_bind_of_not not_escapes_openAuthorizationTrustStore]
  apply exists_congr; intro items
  apply and_congr_right; intro _
  rw [escapes_bind, escapes_mapM]
  constructor
  · rintro (⟨before, record, after, same, valid, escapes⟩ | ⟨records, -, escapes⟩)
    · exact ⟨before, record, after, same, escapes_validateAuthorizationRecord.mp escapes, valid⟩
    · simp at escapes
  · rintro ⟨before, record, after, same, trouble, valid⟩
    exact .inl ⟨before, record, after, same, valid, escapes_validateAuthorizationRecord.mpr trouble⟩

section authorization

variable {dumps : Value → Option (List U8)} {store : AuthorizationTrustStore} {provider : Provider}

theorem not_escapes_joinTranscript {short long : ε} {purpose keyId subject canonical : List U8} :
    ¬ Escapes (joinTranscript short long purpose keyId subject canonical) := by
  apply not_escapes_bind (by simp [encodeU16]); intro _ _
  apply not_escapes_bind (by simp [encodeU16]); intro _ _
  apply not_escapes_bind (by simp [encodeU32]); intro _ _
  simp

theorem not_escapes_buildAuthorizationTranscript {raw : ByteArray} {keyId authorityId : PyString}
    (validated : ¬ Escapes (parseAndValidateAuthorizationObject raw)) :
    ¬ Escapes (buildAuthorizationTranscript dumps raw keyId authorityId) := by
  apply not_escapes_rewrap_bind not_escapes_validateKeyId; intro _
  split
  · simp
  · apply not_escapes_require_bind; intro _
    apply not_escapes_rewrap_bind validated; intro _
    apply not_escapes_require_bind; intro _
    apply not_escapes_bind
    · apply not_escapes_rewrap_bind validated; intro _
      split
      · simp
      · apply not_escapes_require_bind; intro _
        simp
    · exact fun _ _ => not_escapes_joinTranscript

theorem not_escapes_authenticateEnvelope {envelope : ValidatedSignedAuthorization}
    (validated : ¬ Escapes (parseAndValidateAuthorizationObject envelope.authorizationObjectRaw)) :
    ¬ Escapes (authenticateEnvelope dumps store provider envelope) := by
  unfold authenticateEnvelope
  dsimp only
  split
  · simp
  · split
    · simp
    · apply not_escapes_bind (fun escapes =>
        not_escapes_buildAuthorizationTranscript validated (escapes_attempt.mp escapes))
      intro built _
      split
      · simp
      · split <;> simp

theorem parseAndValidateSignedAuthorization_ok {raw : ByteArray} {envelope : ValidatedSignedAuthorization}
    (parsed : parseAndValidateSignedAuthorization raw = .ok envelope) :
    parseAndValidateAuthorizationObject envelope.authorizationObjectRaw = .ok envelope.authorizationObject := by
  simp only [parseAndValidateSignedAuthorization, Check.bound, rewrap_ok, require_ok, pure, Except.pure,
    Except.ok.injEq] at parsed
  obtain ⟨opened, -, object, validated, -, -, rfl⟩ := parsed
  exact validated

theorem escapes_authenticateAuthorization {raw : ByteArray} :
    Escapes (authenticateAuthorization dumps raw store provider) ↔ AuthorizationTrouble raw := by
  rw [authenticateAuthorization, escapes_bind, escapes_attempt, escapes_parseAndValidateSignedAuthorization]
  apply or_iff_left
  rintro ⟨outcome, attempted, escapes⟩
  revert escapes
  split
  · simp
  · rename_i envelope
    apply not_escapes_authenticateEnvelope
    rw [parseAndValidateSignedAuthorization_ok (attempt_ok.mp attempted)]
    exact not_escapes_ok _

end authorization

/-- On one input every parser returns or raises an error of its own class, and the authentication of an authorization
returns a result. -/
structure HostileInputContained (dumps : Value → Option (List U8)) (raw : ByteArray) : Prop where
  wrapper : Contained (parseAndValidateSignedWrapper raw)
  authorization : Contained (parseAndValidateSignedAuthorization raw)
  trustStore : ∀ environment, Contained (parseAndValidateTrustStore dumps raw environment)
  authorizationTrustStore : ∀ environment, Contained (parseAndValidateAuthorizationTrustStore raw environment)
  authentication : ∀ store provider, ∃ result, authenticateAuthorization dumps raw store provider = .ok result

/-- Each parser contains what it refuses except in its own kind of trouble, and so does the authentication. -/
theorem hostile_input_contained_iff (dumps : Value → Option (List U8)) (raw : ByteArray) :
    HostileInputContained dumps raw ↔
      ¬ WrapperTrouble raw ∧ ¬ AuthorizationTrouble raw ∧ (∀ environment, ¬ StoreTrouble raw environment) ∧
        ∀ environment, ¬ AuthorizationStoreTrouble raw environment := by
  constructor
  · rintro ⟨wrapper, authorization, trustStore, authorizationTrustStore, -⟩
    rw [contained_iff, escapes_parseAndValidateSignedWrapper] at wrapper
    rw [contained_iff, escapes_parseAndValidateSignedAuthorization] at authorization
    simp only [contained_iff, escapes_parseAndValidateTrustStore] at trustStore
    simp only [contained_iff, escapes_parseAndValidateAuthorizationTrustStore] at authorizationTrustStore
    exact ⟨wrapper, authorization, trustStore, authorizationTrustStore⟩
  · rintro ⟨wrapper, authorization, trustStore, authorizationTrustStore⟩
    refine ⟨?_, ?_, fun environment => ?_, fun environment => ?_, fun store provider => ?_⟩
    · rwa [contained_iff, escapes_parseAndValidateSignedWrapper]
    · rwa [contained_iff, escapes_parseAndValidateSignedAuthorization]
    · rw [contained_iff, escapes_parseAndValidateTrustStore]
      exact trustStore environment
    · rw [contained_iff, escapes_parseAndValidateAuthorizationTrustStore]
      exact authorizationTrustStore environment
    · rw [← @escapes_authenticateAuthorization dumps store provider raw, ← contained_iff] at authorization
      rcases authorization with returned | ⟨error, -⟩
      · exact returned
      · exact error.elim

def hostileArray : List Char := ['[', '1', ']']

/-- A number is unpacked into a name and a value. -/
theorem hostile_array_escapes :
    parseAndValidateSignedAuthorization (String.ofList hostileArray).toUTF8 = .error .typeError ∧
    ∀ dumps, ¬ HostileInputContained dumps (String.ofList hostileArray).toUTF8 := by
  have size : (String.ofList hostileArray).toUTF8.size ≤ signedAuthorizationMaxRawBytes := by decide
  have items : authorizationItems hostileArray = .ok [.int 1] := by rfl
  have decoded : decodeSignedAuthorization (String.ofList hostileArray).toUTF8 = .ok (hostileArray, [.int 1]) := by
    rw [decodeSignedAuthorization, require, if_pos size, decodeUtf8_ofList]
    exact congrArg (· >>= fun items => pure (hostileArray, items)) items
  have raised : parseAndValidateSignedAuthorization (String.ofList hostileArray).toUTF8 = .error .typeError := by
    rw [parseAndValidateSignedAuthorization, openSignedAuthorization, decoded]
    rfl
  refine ⟨raised, fun dumps contained => contained_iff.mp contained.authorization ⟨_, raised, trivial⟩⟩

end Guardian.Assurance
