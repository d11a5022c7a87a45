import Mathlib.Data.List.Induction
import Guardian.Firmware.FirmwareIntegrity

namespace Guardian.Firmware

open Word Crypto

inductive TrustedKeyAlgorithm
  | unknown
  | ed25519
  deriving DecidableEq, Repr

inductive TrustedKeyState
  | unknown
  | active
  | retired
  | revoked
  deriving DecidableEq, Repr

inductive TrustedKeyProvenance
  | unknown
  | legacyUnverified
  | productionApproved
  | revoked
  deriving DecidableEq, Repr

structure TrustedKeyRecord where
  keyId : U32
  algorithm : TrustedKeyAlgorithm
  state : TrustedKeyState
  publicKey : Bytes 32
  provenanceState : TrustedKeyProvenance
  provenanceDigest : Bytes 32

inductive TrustedKeyResolution
  | unknownKey
  | ambiguousKey
  | nonActiveKey
  | algorithmMismatch
  | unverifiedProvenance
  deriving DecidableEq, Repr

/-- `g_guardian_firmware_trusted_keys`. -/
def trustedKeys : List TrustedKeyRecord :=
  [{ keyId := 2
     algorithm := .ed25519
     state := .active
     publicKey := ⟨[0x33, 0x0E, 0x6D, 0xB6, 0xBB, 0x72, 0x3F, 0xFE, 0x2B, 0x98, 0x7A, 0xD6, 0x0E, 0x07, 0x73, 0x97,
       0xCC, 0x33, 0x3F, 0x04, 0x7B, 0x4B, 0x77, 0x06, 0x68, 0x9F, 0xA2, 0x49, 0x69, 0x26, 0xCB, 0xC4], rfl⟩
     provenanceState := .legacyUnverified
     provenanceDigest := padded 32 [] }]

def trustedKeyDigestIsZero (digest : Bytes 32) : Bool := digest.1.foldl (fun combined byte => combined ||| byte) 0 == 0

/-- The last record with the key, and how many have it. -/
def trustedKeyMatches (keys : List TrustedKeyRecord) (keyId : U32) : Option TrustedKeyRecord × ℕ :=
  keys.foldl (fun found record => if record.keyId = keyId then (some record, found.2 + 1) else found) (none, 0)

def trustedKeyProviderResolve (keys : List TrustedKeyRecord) (keyId : U32) (required : TrustedKeyAlgorithm) :
    Except TrustedKeyResolution TrustedKeyRecord :=
  match trustedKeyMatches keys keyId with
  | (none, _) => .error .unknownKey
  | (some record, count) =>
    if count = 0 then .error .unknownKey
    else if count ≠ 1 then .error .ambiguousKey
    else if record.state ≠ .active then .error .nonActiveKey
    else if record.algorithm ≠ required then .error .algorithmMismatch
    else .ok record

def trustedKeyProviderResolveProduction (keys : List TrustedKeyRecord) (keyId : U32) (required : TrustedKeyAlgorithm) :
    Except TrustedKeyResolution TrustedKeyRecord := do
  let record ← trustedKeyProviderResolve keys keyId required
  if record.provenanceState ≠ .productionApproved ∨ trustedKeyDigestIsZero record.provenanceDigest = true then
    .error .unverifiedProvenance
  else .ok record

/-- `check` is the vendored `crypto_ed25519_check`: 0 for a signature that verifies. -/
def ed25519BackendVerify (check : Bytes 64 → Bytes 32 → List U8 → ℤ) (signature : Bytes 64) (publicKey : Bytes 32)
    (message : List U8) : Bool :=
  check signature publicKey message == 0

def trustedSignatureVerify (check : Bytes 64 → Bytes 32 → List U8 → ℤ) (keys : List TrustedKeyRecord)
    (signatureAlgorithm : U8) (keyId : U32) (signedMessage signature : List U8) : Bool :=
  if signedMessage.length = 0 then false
  else if signatureAlgorithm ≠ firmwareSignatureEd25519 then false
  else if size : signature.length = 64 then
    match trustedKeyProviderResolveProduction keys keyId .ed25519 with
    | .error _ => false
    | .ok record =>
      if record.keyId ≠ keyId ∨ record.state ≠ .active ∨ record.algorithm ≠ .ed25519 ∨
          record.provenanceState ≠ .productionApproved ∨ trustedKeyDigestIsZero record.provenanceDigest = true then false
      else ed25519BackendVerify check ⟨signature, size⟩ record.publicKey signedMessage
  else false

theorem trustedKeyDigestIsZero_iff (digest : Bytes 32) :
    trustedKeyDigestIsZero digest = true ↔ ∀ byte ∈ digest.1, byte = 0 := by
  have joined (bytes : List U8) (combined : U8) :
      bytes.foldl (fun combined byte => combined ||| byte) combined = 0 ↔ combined = 0 ∧ ∀ byte ∈ bytes, byte = 0 := by
    induction bytes generalizing combined with
    | nil => simp
    | cons byte bytes ih =>
      rw [List.foldl_cons, ih, List.forall_mem_cons, ← and_assoc]
      have either : combined ||| byte = 0 ↔ combined = 0 ∧ byte = 0 := BitVec.or_eq_zero_iff
      rw [either]
  rw [trustedKeyDigestIsZero, beq_iff_eq, joined]
  exact and_iff_right rfl

/-- The loop counts the records with the key, and keeps the last one. -/
theorem trustedKeyMatches_eq (keys : List TrustedKeyRecord) (keyId : U32) :
    trustedKeyMatches keys keyId =
      ((keys.filter fun record => record.keyId = keyId).getLast?,
        (keys.filter fun record => record.keyId = keyId).length) := by
  induction keys using List.reverseRecOn with
  | nil => rfl
  | append_singleton keys record ih =>
    rw [trustedKeyMatches] at ih ⊢
    rw [List.foldl_append, ih, List.filter_append]
    by_cases same : record.keyId = keyId <;> simp [same]

/-- A record that may sign for production. -/
structure TrustedKeyRecord.Approved (record : TrustedKeyRecord) : Prop where
  state : record.state = .active
  algorithm : record.algorithm = .ed25519
  provenance : record.provenanceState = .productionApproved
  digest : ∃ byte ∈ record.provenanceDigest.1, byte ≠ 0

theorem TrustedKeyRecord.Approved.digest_kept {record : TrustedKeyRecord} (approved : record.Approved) :
    trustedKeyDigestIsZero record.provenanceDigest = false := by
  rcases approved.digest with ⟨byte, inside, nonzero⟩
  exact Bool.eq_false_iff.mpr fun all => nonzero ((trustedKeyDigestIsZero_iff _).mp all byte inside)

theorem trustedKeyProviderResolveProduction_ok {keys : List TrustedKeyRecord} {keyId : U32} {record : TrustedKeyRecord} :
    trustedKeyProviderResolveProduction keys keyId .ed25519 = .ok record ↔
      (keys.filter fun record => record.keyId = keyId) = [record] ∧ record.Approved := by
  rw [trustedKeyProviderResolveProduction, trustedKeyProviderResolve, trustedKeyMatches_eq]
  generalize keys.filter (fun record => decide (record.keyId = keyId)) = named
  rcases named with _ | ⟨first, _ | ⟨second, rest⟩⟩
  · simp [bind, Except.bind]
  · have zero := trustedKeyDigestIsZero_iff first.provenanceDigest
    simp only [List.getLast?_singleton, List.length_singleton, bind, Except.bind, one_ne_zero, if_false, ne_eq,
      not_true_eq_false, List.cons.injEq, and_true]
    constructor
    · intro accepted
      split_ifs at accepted with state algorithm
      · dsimp only at accepted
        split_ifs at accepted with production
        cases accepted
        rcases not_or.mp production with ⟨provenance, digest⟩
        rw [zero] at digest
        exact ⟨rfl, state, algorithm, not_not.mp provenance, by simpa using digest⟩
    · rintro ⟨rfl, approved⟩
      simp [approved.state, approved.algorithm, approved.provenance, approved.digest_kept]
  · rw [List.getLast?_cons_cons]
    rcases (second :: rest).getLast? with _ | last <;> simp [bind, Except.bind]

variable (check : Bytes 64 → Bytes 32 → List U8 → ℤ)

/-- A signature is accepted exactly from the one record with its key, if that may sign for production, and if it verifies
over the message. -/
theorem trusted_signature_exact (keys : List TrustedKeyRecord) (signatureAlgorithm : U8) (keyId : U32)
    (signedMessage signature : List U8) :
    trustedSignatureVerify check keys signatureAlgorithm keyId signedMessage signature = true ↔
      signedMessage ≠ [] ∧ signatureAlgorithm = firmwareSignatureEd25519 ∧ ∃ (size : signature.length = 64) (record : _),
        (keys.filter fun record => record.keyId = keyId) = [record] ∧ record.Approved ∧
          check ⟨signature, size⟩ record.publicKey signedMessage = 0 := by
  rw [trustedSignatureVerify]
  split_ifs with empty other size
  · simp [List.length_eq_zero_iff.mp empty]
  · simp [other]
  · cases found : trustedKeyProviderResolveProduction keys keyId .ed25519 with
    | error _ =>
      refine iff_of_false nofun ?_
      rintro ⟨-, -, -, record, single, approved, -⟩
      rw [trustedKeyProviderResolveProduction_ok.mpr ⟨single, approved⟩] at found
      cases found
    | ok record =>
      rcases trustedKeyProviderResolveProduction_ok.mp found with ⟨single, approved⟩
      have inside : record ∈ keys.filter fun record => record.keyId = keyId := by
        rw [single]
        exact List.mem_singleton_self record
      have named : record.keyId = keyId := by simpa using (List.mem_filter.mp inside).2
      simp only [named, approved.state, approved.algorithm, approved.provenance, approved.digest_kept, ne_eq,
        not_true_eq_false, Bool.false_eq_true, or_self, if_false, ed25519BackendVerify, beq_iff_eq]
      constructor
      · intro verifies
        exact ⟨by simpa using empty, not_not.mp other, size, record, single, approved, verifies⟩
      · rintro ⟨-, -, _, other, single', -, verifies⟩
        rw [single, List.singleton_inj] at single'
        rw [single']
        exact verifies
  · simp [size]

/-- With the table as shipped, nothing is accepted. -/
theorem trustedKeys_refuse (signatureAlgorithm : U8) (keyId : U32) (signedMessage signature : List U8) :
    trustedSignatureVerify check trustedKeys signatureAlgorithm keyId signedMessage signature = false := by
  have none (record : TrustedKeyRecord) :
      trustedKeyProviderResolveProduction trustedKeys keyId .ed25519 ≠ .ok record := by
    intro found
    rcases trustedKeyProviderResolveProduction_ok.mp found with ⟨single, approved⟩
    have inside : record ∈ trustedKeys := (List.mem_filter.mp (single ▸ List.mem_singleton_self record)).1
    rw [trustedKeys, List.mem_singleton] at inside
    rw [inside] at approved
    cases approved.provenance
  rw [trustedSignatureVerify]
  split_ifs with _ _ size
  · rfl
  · rfl
  · cases found : trustedKeyProviderResolveProduction trustedKeys keyId .ed25519 with
    | error _ => rfl
    | ok record => exact absurd found (none record)
  · rfl

/-- With the table as shipped, no run of the lifecycle ever has a verified candidate, and none is finalized or
activated. -/
theorem shipped_keys_verify_nothing (platform : FirmwarePlatform) (operations : List FirmwareOperation) :
    let trusted := trustedSignatureVerify check trustedKeys
    let system := (Run.after (FirmwareHistory.perform trusted) operations (firmwareStart platform)).system
    system.lifecycle.state ≠ .verified ∧ system.lifecycle.state ≠ .pendingActivation ∧
      (∀ hash verify, (firmwareFinalize trusted system hash verify).1 ≠ .ok) ∧
      ∀ mark, firmwareActivate system mark = (.invalidState, system) := by
  intro trusted system
  have unsigned (manifest : FirmwareManifest) : ¬manifest.Signed trusted := by
    rintro ⟨message, -, accepted⟩
    rw [show trusted = trustedSignatureVerify check trustedKeys from rfl, trustedKeys_refuse] at accepted
    cases accepted
  have sound : (Run.after (FirmwareHistory.perform trusted) operations (firmwareStart platform)).Sound trusted :=
    sound_run platform operations
  have idle : ¬(system.lifecycle.state = .verified ∨ system.lifecycle.state = .pendingActivation) := by
    intro reached
    rcases (sound.finalized reached).2 with ⟨-, -, -, -, -, -, -, -, ⟨-, -, signed⟩, -⟩
    exact unsigned _ signed
  rcases not_or.mp idle with ⟨unverified, waiting⟩
  refine ⟨unverified, waiting, ?_, fun mark => ?_⟩
  · intro hash verify accepted
    have refused (message : List U8) : verifySignature trusted system.lifecycle.manifest message verify = false := by
      rw [verifySignature, show trusted = trustedSignatureVerify check trustedKeys from rfl, trustedKeys_refuse,
        Bool.and_false]
    rw [firmwareFinalize] at accepted
    simp only [refused, Bool.not_false, if_true, FirmwareSystem.fail] at accepted
    repeat' split at accepted
    all_goals simp at accepted
  · rw [firmwareActivate, if_pos unverified]

end Guardian.Firmware
