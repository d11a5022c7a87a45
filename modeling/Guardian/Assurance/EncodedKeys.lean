import Mathlib.Data.List.TakeWhile
import Guardian.Lib.Base64

namespace Guardian.Assurance

open Word Base64

abbrev PyString := List ℕ

def equalsSign : ℕ := 61

/-- `_BASE64URL_ALPHABET`. -/
def isBase64url (code : ℕ) : Bool :=
  65 ≤ code ∧ code ≤ 90 ∨ 97 ≤ code ∧ code ≤ 122 ∨ 48 ≤ code ∧ code ≤ 57 ∨ code = 45 ∨ code = 95

/-- The alternative characters of the URL-safe alphabet put for those of the standard one. -/
def toStandard (code : ℕ) : ℕ := if code = 45 then 43 else if code = 95 then 47 else code

def toUrlsafe (code : ℕ) : ℕ := if code = 43 then 45 else if code = 47 then 95 else code

def missingPadding (length : ℕ) : ℕ := (4 - length % 4) % 4

/-- `base64.b64decode` with `altchars=b"-_"` and `validate=True`: characters of either alphabet, then exactly the padding
that is missing. -/
def b64decode (value : PyString) : Option (List U8) :=
  let data := value.takeWhile (· ≠ equalsSign)
  let padding := value.drop data.length
  match (data.map toStandard).mapM group? with
  | none => none
  | some groups =>
    if padding = List.replicate (missingPadding groups.length) equalsSign then octets groups else none

/-- `base64.urlsafe_b64encode`. -/
def urlsafeB64encode (bytes : List U8) : PyString :=
  ((sextets bytes).map fun group => toUrlsafe (character group)) ++
    List.replicate (missingPadding (sextets bytes).length) equalsSign

/-- `rstrip(b"=")`. -/
def stripPadding (value : PyString) : PyString := (value.reverse.dropWhile (· = equalsSign)).reverse

def unpaddedBase64url (bytes : List U8) : PyString := stripPadding (urlsafeB64encode bytes)

/-- The two signature decoders, which differ in the text of one error. -/
def decodeEd25519Signature (paddingText : String) (value : PyString) : Except String (List U8) :=
  if value.length ≠ 86 then .error "Ed25519 signature encoding must be exactly 86 characters"
  else if equalsSign ∈ value then .error paddingText
  else if value.any (!isBase64url ·) then .error "signature contains non-base64url characters"
  else match b64decode (value ++ [equalsSign, equalsSign]) with
  | none => .error "signature is malformed base64url"
  | some decoded =>
    if decoded.length ≠ 64 then .error "decoded Ed25519 signature must be exactly 64 bytes"
    else if unpaddedBase64url decoded ≠ value then .error "signature representation is not canonical base64url"
    else .ok decoded

/-- `decode_signature_base64url`; an error has the code `SIGNATURE_ENCODING_INVALID`. -/
def decodeSignatureBase64url : PyString → Except String (List U8) :=
  decodeEd25519Signature "base64url padding is prohibited"

def decodeAuthorizationSignatureBase64url : PyString → Except String (List U8) :=
  decodeEd25519Signature "signature must use unpadded base64url"

/-- `_decode_public_key` of the assurance trust store; an error has the code `SCHEMA`. -/
def decodePublicKey (value : PyString) : Except String (List U8) :=
  if equalsSign ∈ value then .error "public_key padding is prohibited"
  else if value = [] ∨ value.any (!isBase64url ·) then .error "public_key is not canonical base64url"
  else match b64decode (value ++ List.replicate (missingPadding value.length) equalsSign) with
  | none => .error "public_key base64url decoding failed"
  | some decoded =>
    if decoded.length ≠ 32 then .error "Ed25519 public key must decode to exactly 32 bytes"
    else if unpaddedBase64url decoded ≠ value then .error "public_key encoding is not canonical"
    else .ok decoded

/-- `_decode_public_key` of the authorization trust store, which checks neither the alphabet nor the spelling. -/
def decodeAuthorizationPublicKey (value : PyString) : Except String (List U8) :=
  if equalsSign ∈ value then .error "public_key must use unpadded base64url"
  else if value.any (128 ≤ ·) then .error "public_key must be ASCII"
  else match b64decode (value ++ List.replicate (missingPadding value.length) equalsSign) with
  | none => .error "invalid public_key encoding"
  | some decoded => if decoded.length ≠ 32 then .error "public_key must decode to 32 bytes" else .ok decoded

def groupsOf (value : PyString) : Option (List Sextet) := (value.map toStandard).mapM group?

def spelled (groups : List Sextet) : PyString := groups.map fun group => toUrlsafe (character group)

theorem group_spelled (group : Sextet) : isBase64url (toUrlsafe (character group)) = true ∧
    toUrlsafe (character group) ≠ equalsSign ∧ toUrlsafe (character group) ≠ 43 ∧ toUrlsafe (character group) ≠ 47 ∧
    group? (toStandard (toUrlsafe (character group))) = some group := by
  have all : ∀ group : Sextet, isBase64url (toUrlsafe (character group)) = true ∧
      toUrlsafe (character group) ≠ equalsSign ∧ toUrlsafe (character group) ≠ 43 ∧
      toUrlsafe (character group) ≠ 47 ∧ group? (toStandard (toUrlsafe (character group))) = some group := by decide
  exact all group

theorem group?_ascii {code : ℕ} {group : Sextet} (found : group? (toStandard code) = some group) :
    code < 128 ∧ code ≠ equalsSign := by
  unfold group? toStandard at found
  refine ⟨?_, ?_⟩
  · split_ifs at found <;> omega
  · rintro rfl
    cases found

theorem spelled_of_group? {code : ℕ} {group : Sextet} (found : group? (toStandard code) = some group)
    (plus : code ≠ 43) (slash : code ≠ 47) : toUrlsafe (character group) = code := by
  rw [character_of_group? found]
  unfold toStandard toUrlsafe
  split_ifs <;> omega

theorem mapM_group?_spelled (groups : List Sextet) : groupsOf (spelled groups) = some groups := by
  unfold groupsOf spelled
  induction groups with
  | nil => rfl
  | cons group groups ih =>
    simp only [List.map_cons, List.mapM_cons, ih, (group_spelled group).2.2.2.2]
    rfl

theorem groupsOf_cons {code : ℕ} {rest : PyString} {groups : List Sextet}
    (found : groupsOf (code :: rest) = some groups) :
    ∃ group others, group? (toStandard code) = some group ∧ groupsOf rest = some others ∧ groups = group :: others := by
  unfold groupsOf at found ⊢
  rw [List.map_cons, List.mapM_cons] at found
  cases first : group? (toStandard code) with
  | none => simp [first] at found
  | some group =>
    cases tail : (rest.map toStandard).mapM group? with
    | none => simp [first, tail] at found
    | some others =>
      simp only [first, tail] at found
      exact ⟨group, others, rfl, rfl, (Option.some.inj found).symm⟩

theorem groupsOf_ascii {value : PyString} {groups : List Sextet} (found : groupsOf value = some groups) :
    groups.length = value.length ∧ ∀ code ∈ value, code < 128 ∧ code ≠ equalsSign := by
  induction value generalizing groups with
  | nil =>
    obtain rfl := Option.some.inj found
    exact ⟨rfl, nofun⟩
  | cons code rest ih =>
    obtain ⟨group, others, first, tail, rfl⟩ := groupsOf_cons found
    obtain ⟨length, codes⟩ := ih tail
    refine ⟨by rw [List.length_cons, List.length_cons, length], fun other member => ?_⟩
    rcases List.mem_cons.mp member with rfl | inside
    · exact group?_ascii first
    · exact codes other inside

theorem spelled_of_groupsOf {value : PyString} {groups : List Sextet} (found : groupsOf value = some groups)
    (plus : 43 ∉ value) (slash : 47 ∉ value) : spelled groups = value := by
  induction value generalizing groups with
  | nil =>
    obtain rfl := Option.some.inj found
    rfl
  | cons code rest ih =>
    obtain ⟨group, others, first, tail, rfl⟩ := groupsOf_cons found
    rw [List.mem_cons, not_or] at plus slash
    have here := spelled_of_group? first (Ne.symm plus.1) (Ne.symm slash.1)
    rw [spelled, List.map_cons, here, ← spelled, ih tail plus.2 slash.2]

theorem mem_spelled {groups : List Sextet} {code : ℕ} (member : code ∈ spelled groups) :
    isBase64url code = true ∧ code ≠ equalsSign ∧ code ≠ 43 ∧ code ≠ 47 := by
  obtain ⟨group, -, rfl⟩ := List.mem_map.mp member
  obtain ⟨alphabet, padding, plus, slash, -⟩ := group_spelled group
  exact ⟨alphabet, padding, plus, slash⟩

theorem unpaddedBase64url_eq (bytes : List U8) : unpaddedBase64url bytes = spelled (sextets bytes) := by
  have strips (value : PyString) (count : ℕ) (clean : ∀ code ∈ value, code ≠ equalsSign) :
      stripPadding (value ++ List.replicate count equalsSign) = value := by
    unfold stripPadding
    rw [List.reverse_append, List.reverse_replicate, List.dropWhile_append_of_pos (by simp)]
    rw [List.dropWhile_eq_self_iff.mpr, List.reverse_reverse]
    intro nonempty
    have last := clean _ (List.mem_reverse.mp (List.getElem_mem nonempty))
    simpa using last
  exact strips _ _ fun code member => (mem_spelled member).2.1

theorem b64decode_padded {value : PyString} (clean : equalsSign ∉ value) :
    b64decode (value ++ List.replicate (missingPadding value.length) equalsSign) = (groupsOf value).bind octets := by
  have data : (value ++ List.replicate (missingPadding value.length) equalsSign).takeWhile (· ≠ equalsSign) =
      value := by
    rw [List.takeWhile_append_of_pos]
    · simp
    · intro code member
      simp only [ne_eq, decide_eq_true_eq]
      rintro rfl
      exact clean member
  unfold b64decode
  simp only [data, List.drop_left]
  change (match groupsOf value with | none => none | some groups => _) = _
  cases found : groupsOf value with
  | none => rfl
  | some groups =>
    rw [Option.bind_some]
    dsimp only
    rw [(groupsOf_ascii found).1, if_pos rfl]

theorem spelled_length (bytes : List U8) : (spelled (sextets bytes)).length = (bytes.length * 4 + 2) / 3 := by
  rw [spelled, List.length_map, sextets_length]

theorem b64decode_spelled {bytes : List U8} {value : PyString} (is : value = spelled (sextets bytes)) :
    b64decode (value ++ List.replicate (missingPadding value.length) equalsSign) = some bytes := by
  have clean : equalsSign ∉ value := fun member => by
    rw [is] at member
    exact (mem_spelled member).2.1 rfl
  rw [b64decode_padded clean, is, mapM_group?_spelled, Option.bind_some, octets_sextets]

/-- A decoder accepts a string exactly when it is the unpadded encoding of so many bytes, and returns them. -/
def DecodesExactly (decode : PyString → Except String (List U8)) (size : ℕ) (value : PyString) : Prop :=
  ∀ bytes, decode value = .ok bytes ↔ bytes.length = size ∧ value = unpaddedBase64url bytes

theorem any_spelled {groups : List Sextet} : ¬ (spelled groups).any (!isBase64url ·) = true := by
  rw [List.any_eq_true]
  rintro ⟨code, member, other⟩
  rw [(mem_spelled member).1] at other
  cases other

theorem decodeEd25519Signature_exact (paddingText : String) (value : PyString) :
    DecodesExactly (decodeEd25519Signature paddingText) 64 value := by
  intro bytes
  unfold decodeEd25519Signature
  constructor
  · intro decoded
    split_ifs at decoded
    split at decoded
    · cases decoded
    · split_ifs at decoded with size canonical
      rw [← Except.ok.inj decoded]
      exact ⟨not_not.mp size, (not_not.mp canonical).symm⟩
  · rintro ⟨size, is⟩
    rw [unpaddedBase64url_eq] at is
    have length : value.length = 86 := by rw [is, spelled_length, size]
    have clean : equalsSign ∉ value := fun member => by
      rw [is] at member
      exact (mem_spelled member).2.1 rfl
    have decodes : b64decode (value ++ [equalsSign, equalsSign]) = some bytes := by
      have padded := b64decode_spelled is
      rwa [length] at padded
    rw [if_neg (not_not.mpr length), if_neg clean, if_neg (is ▸ any_spelled), decodes]
    dsimp only
    rw [if_neg (not_not.mpr size), if_neg (not_not.mpr ((unpaddedBase64url_eq bytes).trans is.symm))]

theorem decodePublicKey_exact (value : PyString) : DecodesExactly decodePublicKey 32 value := by
  intro bytes
  unfold decodePublicKey
  constructor
  · intro decoded
    split_ifs at decoded
    split at decoded
    · cases decoded
    · split_ifs at decoded with size canonical
      rw [← Except.ok.inj decoded]
      exact ⟨not_not.mp size, (not_not.mp canonical).symm⟩
  · rintro ⟨size, is⟩
    rw [unpaddedBase64url_eq] at is
    have length : value.length = 43 := by rw [is, spelled_length, size]
    have clean : equalsSign ∉ value := fun member => by
      rw [is] at member
      exact (mem_spelled member).2.1 rfl
    have alphabet : ¬ (value = [] ∨ value.any (!isBase64url ·) = true) := by
      rintro (rfl | other)
      · cases length
      · rw [is] at other
        exact any_spelled other
    rw [if_neg clean, if_neg alphabet, b64decode_spelled is]
    dsimp only
    rw [if_neg (not_not.mpr size), if_neg (not_not.mpr ((unpaddedBase64url_eq bytes).trans is.symm))]

theorem decodeAuthorizationPublicKey_ok {value : PyString} {bytes : List U8} :
    decodeAuthorizationPublicKey value = .ok bytes ↔
      bytes.length = 32 ∧ ∃ groups, groupsOf value = some groups ∧ octets groups = some bytes := by
  unfold decodeAuthorizationPublicKey
  constructor
  · intro decoded
    split_ifs at decoded with padding ascii
    rw [b64decode_padded padding] at decoded
    cases found : (groupsOf value).bind octets with
    | none => simp [found] at decoded
    | some result =>
      simp only [found] at decoded
      split_ifs at decoded with size
      rw [← Except.ok.inj decoded]
      obtain ⟨groups, known, octets⟩ := Option.bind_eq_some_iff.mp found
      exact ⟨not_not.mp size, groups, known, octets⟩
  · rintro ⟨size, groups, known, decoded⟩
    have codes := (groupsOf_ascii known).2
    have clean : equalsSign ∉ value := fun member => (codes _ member).2 rfl
    have ascii : ¬ value.any (128 ≤ ·) = true := by
      rw [List.any_eq_true]
      rintro ⟨code, member, high⟩
      have low := (codes code member).1
      simp only [decide_eq_true_eq] at high
      omega
    rw [if_neg clean, if_neg ascii, b64decode_padded clean, known, Option.bind_some, decoded]
    dsimp only
    rw [if_neg (not_not.mpr size)]

/-- A string of 43 characters of either alphabet that is no base64url encoding: it has a plus or a slash, or bits left
over that are not zero. -/
def OtherSpelling (value : PyString) : Prop :=
  value.length = 43 ∧ ∃ groups, groupsOf value = some groups ∧ (43 ∈ value ∨ 47 ∈ value ∨ ¬ ZeroTail groups)

theorem decodeAuthorizationPublicKey_exact (value : PyString) :
    DecodesExactly decodeAuthorizationPublicKey 32 value ↔ ¬ OtherSpelling value := by
  constructor
  · rintro exact ⟨length, groups, known, spelling⟩
    have many : groups.length = 43 := (groupsOf_ascii known).1.trans length
    obtain ⟨bytes, decoded⟩ := Option.isSome_iff_exists.mp (octets_isSome (by rw [many]; decide : groups.length % 4 ≠ 1))
    have size : bytes.length = 32 := by
      rw [(octets_length decoded).1, many]
    have is := ((exact bytes).mp (decodeAuthorizationPublicKey_ok.mpr ⟨size, groups, known, decoded⟩)).2
    rw [unpaddedBase64url_eq] at is
    rcases spelling with plus | slash | tail
    · rw [is] at plus
      exact (mem_spelled plus).2.2.1 rfl
    · rw [is] at slash
      exact (mem_spelled slash).2.2.2 rfl
    · rw [is, mapM_group?_spelled] at known
      rw [← Option.some.inj known] at tail
      exact tail (sextets_zeroTail bytes)
  · intro plain bytes
    rw [decodeAuthorizationPublicKey_ok, unpaddedBase64url_eq]
    refine and_congr_right fun size => ⟨?_, ?_⟩
    · rintro ⟨groups, known, decoded⟩
      have lengths := octets_length decoded
      have many : value.length = 43 := by
        rw [← (groupsOf_ascii known).1]
        omega
      have spelling : ¬ (43 ∈ value ∨ 47 ∈ value ∨ ¬ ZeroTail groups) := fun other =>
        plain ⟨many, groups, known, other⟩
      rw [not_or, not_or, not_not] at spelling
      rw [(sextets_octets decoded).mpr spelling.2.2, spelled_of_groupsOf known spelling.1 spelling.2.1]
    · intro is
      exact ⟨sextets bytes, by rw [is, mapM_group?_spelled], octets_sextets bytes⟩

/-- The four decoders on one string, and the two public-key decoders side by side. -/
structure DecodersExact (value : PyString) : Prop where
  signature : DecodesExactly decodeSignatureBase64url 64 value
  authorizationSignature : DecodesExactly decodeAuthorizationSignatureBase64url 64 value
  publicKey : DecodesExactly decodePublicKey 32 value
  authorizationPublicKey : DecodesExactly decodeAuthorizationPublicKey 32 value
  same : ∀ bytes, decodePublicKey value = .ok bytes ↔ decodeAuthorizationPublicKey value = .ok bytes

/-- The decoders are exact on every string but the other spellings that the authorization trust store admits; among the
rest, a key has one spelling. -/
theorem base64url_decoders_exact (value : PyString) :
    (DecodersExact value ↔ ¬ OtherSpelling value) ∧
    (¬ OtherSpelling value → ∀ other, ¬ OtherSpelling other → ∀ bytes, decodeAuthorizationPublicKey value = .ok bytes →
      decodeAuthorizationPublicKey other = .ok bytes → value = other) := by
  have exact {value : PyString} (plain : ¬ OtherSpelling value) := (decodeAuthorizationPublicKey_exact value).mpr plain
  refine ⟨⟨fun exact => (decodeAuthorizationPublicKey_exact value).mp exact.authorizationPublicKey, fun plain => ?_⟩,
    fun plain other plainOther bytes decoded decodedOther => ?_⟩
  · exact ⟨decodeEd25519Signature_exact _ value, decodeEd25519Signature_exact _ value, decodePublicKey_exact value,
      exact plain, fun bytes => (decodePublicKey_exact value bytes).trans (exact plain bytes).symm⟩
  · rw [((exact plain bytes).mp decoded).2, ((exact plainOther bytes).mp decodedOther).2]

/-- Two spellings of the key of 32 zero bytes. -/
theorem base64url_other_spelling :
    let zeros : PyString := List.replicate 43 65
    let other : PyString := List.replicate 42 65 ++ [66]
    decodeAuthorizationPublicKey zeros = .ok (List.replicate 32 0) ∧
    decodeAuthorizationPublicKey other = .ok (List.replicate 32 0) ∧
    decodePublicKey other = .error "public_key encoding is not canonical" ∧ ¬ DecodersExact other := by
  have accepted : decodeAuthorizationPublicKey (List.replicate 42 65 ++ [66]) = .ok (List.replicate 32 0) := by
    decide +kernel
  have refused : decodePublicKey (List.replicate 42 65 ++ [66]) = .error "public_key encoding is not canonical" := by
    decide +kernel
  refine ⟨by decide +kernel, accepted, refused, fun exact => ?_⟩
  have same := (exact.same _).mpr accepted
  rw [refused] at same
  cases same

end Guardian.Assurance
