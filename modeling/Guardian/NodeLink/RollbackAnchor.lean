import Mathlib.Data.Set.Function
import Guardian.Lib.Device
import Guardian.NodeLink.PersistenceCodec

namespace Guardian.NodeLink

open Word ByteString Crypto Device

abbrev AnchorCommitment := Bytes 32

inductive AnchorStatus
  | invalid
  | unprovisioned
  | indeterminate
  | valid
  | unavailable
  | corrupt
  | exhausted
  | identityMismatch
  | stateMismatch
  | rollbackSuspected
  deriving DecidableEq, Repr

inductive AnchorProviderResult
  | invalid
  | ok
  | invalidArgument
  | unavailable
  | ioError
  | integrityError
  | conflict
  | exhausted
  | unsupported
  deriving DecidableEq, Repr

structure AnchorRecord where
  identity : FreshnessIdentity
  generation : U32
  commitment : AnchorCommitment
  deriving DecidableEq

inductive AnchorCompare
  | invalid
  | matched
  | behind
  | ahead
  | stateMismatch
  | identityMismatch
  deriving DecidableEq, Repr

theorem zeroBytes_length : (List.replicate 32 (0 : U8)).length = 32 := rfl

def zeroCommitment : AnchorCommitment := ⟨List.replicate 32 0, zeroBytes_length⟩

def zeroAnchorRecord : AnchorRecord := ⟨zeroIdentity, 0, zeroCommitment⟩

/-- `GUARDIAN-R3D-ANCHOR-COMMITMENT-V1`. -/
def anchorDomain : List U8 :=
  [0x47, 0x55, 0x41, 0x52, 0x44, 0x49, 0x41, 0x4E, 0x2D, 0x52, 0x33, 0x44, 0x2D, 0x41, 0x4E, 0x43, 0x48,
   0x4F, 0x52, 0x2D, 0x43, 0x4F, 0x4D, 0x4D, 0x49, 0x54, 0x4D, 0x45, 0x4E, 0x54, 0x2D, 0x56, 0x31]

def anchorMaterialLength : Nat := 332

def anchorIdentityEqual (left right : FreshnessIdentity) : Bool := identityFieldsEqual refTextEqual left right

def rollbackAnchorCommitmentFromRecord (record : PersistedRecord) : AnchorProviderResult × AnchorCommitment :=
  let encoded := persistenceEncode record serializedSize
  if encoded.1 ≠ .ok ∨ encoded.2.length ≠ serializedSize then (.invalidArgument, zeroCommitment)
  else
    let preimage := anchorDomain ++ [0x00, 0x00, 0x01, 0x4C] ++ encoded.2.take anchorMaterialLength
    (.ok, ⟨sha256 preimage, sha256_length preimage⟩)

def rollbackAnchorCompare (anchor : AnchorRecord) (candidate : PersistedRecord) :
    AnchorProviderResult × AnchorCompare :=
  let candidateCommitment := rollbackAnchorCommitmentFromRecord candidate
  if candidateCommitment.1 ≠ .ok then (candidateCommitment.1, .invalid)
  else if !anchorIdentityEqual anchor.identity candidate.identity then (.ok, .identityMismatch)
  else if candidate.recordGeneration < anchor.generation then (.ok, .behind)
  else if anchor.generation < candidate.recordGeneration then (.ok, .ahead)
  else if candidateCommitment.2 ≠ anchor.commitment then (.ok, .stateMismatch)
  else (.ok, .matched)

def rollbackAnchorNextGeneration (currentGeneration : U32) : AnchorProviderResult × U32 :=
  if BitVec.allOnes 32 - 1 ≤ currentGeneration then (.exhausted, 0) else (.ok, currentGeneration + 1)

structure AnchorProvider (σ : Type) where
  status : FreshnessIdentity → Dev σ (AnchorProviderResult × AnchorStatus)
  read : FreshnessIdentity → Dev σ (AnchorProviderResult × AnchorRecord × AnchorStatus)
  advance : FreshnessIdentity → U32 → U32 → AnchorCommitment → Dev σ AnchorProviderResult

section Wrappers

variable {σ : Type} (provider : AnchorProvider σ)

def rollbackAnchorStatus (identity : FreshnessIdentity) : Dev σ (AnchorProviderResult × AnchorStatus) :=
  provider.status identity

def rollbackAnchorRead (identity : FreshnessIdentity) : Dev σ (AnchorProviderResult × AnchorRecord × AnchorStatus) :=
  provider.read identity

def rollbackAnchorAdvance (identity : FreshnessIdentity) (expectedGeneration nextGeneration : U32)
    (nextCommitment : AnchorCommitment) : Dev σ AnchorProviderResult :=
  let governed := rollbackAnchorNextGeneration expectedGeneration
  if governed.1 ≠ .ok then pure governed.1
  else if nextGeneration ≠ governed.2 then pure .invalidArgument
  else provider.advance identity expectedGeneration nextGeneration nextCommitment

end Wrappers

/-- What happens to one call of the provider. A failure or a power loss comes before an advance is applied or after
    it; an unsettled anchor is reported, and not advanced. -/
inductive AnchorFault
  | none
  | fail (result : { result : AnchorProviderResult // result ≠ .ok }) (applied : Bool)
  | unsettled (status : { status : AnchorStatus // status ≠ .valid })
  | powerLoss (applied : Bool)

/-- One anchor for each identity, up to what follows the texts of its references. `advances` counts the advances
    applied since power-up. -/
structure AnchorStore where
  anchors : FreshnessIdentity → Option AnchorRecord
  schedule : Nat → AnchorFault
  operations : Nat
  advances : Nat

namespace AnchorStore

def powerUp (anchors : FreshnessIdentity → Option AnchorRecord) (schedule : Nat → AnchorFault) : AnchorStore :=
  ⟨anchors, schedule, 0, 0⟩

def fault (store : AnchorStore) : AnchorFault := store.schedule store.operations

def next (store : AnchorStore) : AnchorStore := { store with operations := store.operations + 1 }

def anchor (store : AnchorStore) (identity : FreshnessIdentity) : Option AnchorRecord :=
  store.anchors identity.canonical

def compareAndAdvance (store : AnchorStore) (identity : FreshnessIdentity) (expectedGeneration nextGeneration : U32)
    (nextCommitment : AnchorCommitment) : AnchorProviderResult × AnchorStore :=
  match store.anchor identity with
  | none => (.unsupported, store)
  | some anchor =>
    if anchor.generation ≠ expectedGeneration then (.conflict, store)
    else (.ok, { store with
      anchors := Function.update store.anchors identity.canonical (some ⟨identity, nextGeneration, nextCommitment⟩)
      advances := store.advances + 1 })

end AnchorStore

def anchorStoreProvider : AnchorProvider AnchorStore where
  status identity store :=
    match store.fault with
    | .none => (some (.ok, if (store.anchor identity).isSome then .valid else .unprovisioned), store.next)
    | .fail result _ => (some (result.1, .invalid), store.next)
    | .unsettled status => (some (.ok, status.1), store.next)
    | .powerLoss _ => (none, store.next)
  read identity store :=
    match store.fault with
    | .none =>
      match store.anchor identity with
      | none => (some (.ok, zeroAnchorRecord, .unprovisioned), store.next)
      | some anchor => (some (.ok, anchor, .valid), store.next)
    | .fail result _ => (some (result.1, zeroAnchorRecord, .invalid), store.next)
    | .unsettled status => (some (.ok, zeroAnchorRecord, status.1), store.next)
    | .powerLoss _ => (none, store.next)
  advance identity expectedGeneration nextGeneration nextCommitment store :=
    let advanced := store.next.compareAndAdvance identity expectedGeneration nextGeneration nextCommitment
    match store.fault with
    | .none => (some advanced.1, advanced.2)
    | .fail result applied => (some result.1, if applied then advanced.2 else store.next)
    | .unsettled _ => (some .conflict, store.next)
    | .powerLoss applied => (none, if applied then advanced.2 else store.next)

/-- The message whose digest is the commitment to `record`. -/
def anchorPreimage (record : PersistedRecord) : List U8 :=
  anchorDomain ++ [0x00, 0x00, 0x01, 0x4C] ++ integrityMaterial record

def anchorCommitment (record : PersistedRecord) : AnchorCommitment :=
  ⟨sha256 (anchorPreimage record), sha256_length _⟩

theorem anchorPreimage_canonical (record : PersistedRecord) : anchorPreimage record.canonical = anchorPreimage record := by
  rw [anchorPreimage, integrityMaterial_canonical, anchorPreimage]

theorem anchorPreimage_injective {left right : PersistedRecord} (leftValid : left.Valid) (rightValid : right.Valid)
    (same : anchorPreimage left = anchorPreimage right) : left.canonical = right.canonical := by
  apply serialized_injective leftValid rightValid
  have material : integrityMaterial left = integrityMaterial right := List.append_cancel_left same
  rw [serialized, serialized, material]

theorem rollbackAnchorCommitmentFromRecord_valid {record : PersistedRecord} (valid : record.Valid) :
    rollbackAnchorCommitmentFromRecord record = (.ok, anchorCommitment record) := by
  have material : (serialized record).take anchorMaterialLength = integrityMaterial record :=
    List.take_left' (integrityMaterial_length record)
  have accepted : ¬ (CodecResult.ok ≠ CodecResult.ok ∨ (serialized record).length ≠ serializedSize) := by
    simp [serialized_length]
  simp only [rollbackAnchorCommitmentFromRecord, persistenceEncode_valid valid (Nat.le_refl _)]
  rw [if_neg accepted]
  simp only [material]
  rfl

theorem rollbackAnchorCommitmentFromRecord_ok {record : PersistedRecord} :
    (rollbackAnchorCommitmentFromRecord record).1 = .ok ↔ record.Valid := by
  constructor
  · intro accepted
    by_contra invalid
    have rejected := persistenceEncode_invalid invalid serializedSize
    rw [rollbackAnchorCommitmentFromRecord, if_pos (Or.inl rejected)] at accepted
    cases accepted
  · intro valid
    rw [rollbackAnchorCommitmentFromRecord_valid valid]

/-- What a comparison that matches tells of `anchor` and `record`. -/
structure AnchorRecord.CommitsTo (anchor : AnchorRecord) (record : PersistedRecord) : Prop where
  valid : record.Valid
  identity : anchor.identity.canonical = record.identity.canonical
  generation : anchor.generation = record.recordGeneration
  commitment : anchor.commitment = anchorCommitment record

theorem rollbackAnchorCompare_matched {anchor : AnchorRecord} {candidate : PersistedRecord} :
    rollbackAnchorCompare anchor candidate = (.ok, .matched) ↔ anchor.CommitsTo candidate := by
  have identities : anchorIdentityEqual anchor.identity candidate.identity = true ↔ _ :=
    freshnessIdentityEqual_iff anchor.identity candidate.identity
  by_cases valid : candidate.Valid
  · simp only [rollbackAnchorCompare, rollbackAnchorCommitmentFromRecord_valid valid]
    constructor
    · intro compared
      split_ifs at compared with _ identity behind ahead state
      · exact absurd compared (by decide)
      · exact absurd compared (by decide)
      · exact absurd compared (by decide)
      · exact absurd compared (by decide)
      · exact absurd compared (by decide)
      · simp only [Bool.not_eq_true', Bool.not_eq_false] at identity
        exact ⟨valid, identities.mp identity, BitVec.le_antisymm (BitVec.not_lt.mp behind) (BitVec.not_lt.mp ahead),
          (not_not.mp state).symm⟩
    · rintro ⟨-, identity, generation, commitment⟩
      rw [if_neg (by simp), identities.mpr identity, generation, commitment, if_neg (by simp), if_neg (BitVec.lt_irrefl _),
        if_neg (BitVec.lt_irrefl _), if_neg (by simp)]
  · have rejected := mt rollbackAnchorCommitmentFromRecord_ok.mp valid
    rw [rollbackAnchorCompare, if_pos rejected]
    constructor
    · intro compared
      cases (Prod.mk.inj compared).2
    · intro commits
      exact absurd commits.valid valid

/-- No two of the records have one digest of two commitment messages. -/
def CommitmentsDistinct (records : List PersistedRecord) : Prop :=
  Set.InjOn sha256 { message | ∃ record ∈ records, anchorPreimage record = message }

/-- One of `records` is `record`, up to what follows the texts of its references. -/
def Among (record : PersistedRecord) (records : List PersistedRecord) : Prop :=
  ∃ written ∈ records, written.canonical = record.canonical

theorem Among.of_mem {record : PersistedRecord} {records : List PersistedRecord} (member : record ∈ records) :
    Among record records := ⟨record, member, rfl⟩

theorem Among.mono {record : PersistedRecord} {records more : List PersistedRecord} (among : Among record records)
    (included : records ⊆ more) : Among record more := by
  obtain ⟨written, member, same⟩ := among
  exact ⟨written, included member, same⟩

theorem Among.message {record : PersistedRecord} {records : List PersistedRecord} (among : Among record records) :
    anchorPreimage record ∈ { message | ∃ record ∈ records, anchorPreimage record = message } := by
  obtain ⟨written, member, same⟩ := among
  exact ⟨written, member, by rw [← anchorPreimage_canonical, same, anchorPreimage_canonical]⟩

theorem AnchorRecord.CommitsTo.unique {anchor : AnchorRecord} {records : List PersistedRecord}
    {first second : PersistedRecord} (distinct : CommitmentsDistinct records) (commits : anchor.CommitsTo first)
    (other : anchor.CommitsTo second) (written : Among first records) (present : Among second records) :
    first.canonical = second.canonical := by
  apply anchorPreimage_injective commits.valid other.valid
  apply distinct written.message present.message
  exact congrArg Subtype.val (commits.commitment.symm.trans other.commitment)

namespace AnchorStore

/-- The store after `count` calls that advanced no anchor. -/
def after (store : AnchorStore) (count : Nat) : AnchorStore := { store with operations := store.operations + count }

theorem status_reached {identity : FreshnessIdentity} {store reached : AnchorStore}
    {result : Option (AnchorProviderResult × AnchorStatus)}
    (run : rollbackAnchorStatus anchorStoreProvider identity store = (result, reached)) : reached = store.next := by
  simp only [rollbackAnchorStatus, anchorStoreProvider] at run
  cases fault : store.fault <;> rw [fault] at run <;> exact (congrArg Prod.snd run).symm

theorem read_reached {identity : FreshnessIdentity} {store reached : AnchorStore}
    {result : Option (AnchorProviderResult × AnchorRecord × AnchorStatus)}
    (run : rollbackAnchorRead anchorStoreProvider identity store = (result, reached)) : reached = store.next := by
  simp only [rollbackAnchorRead, anchorStoreProvider] at run
  cases fault : store.fault with
  | none => cases stored : store.anchor identity <;> rw [fault, stored] at run <;> exact (congrArg Prod.snd run).symm
  | _ =>
    rw [fault] at run
    exact (congrArg Prod.snd run).symm

theorem read_valid {identity : FreshnessIdentity} {store : AnchorStore} {anchor : AnchorRecord}
    (read : (rollbackAnchorRead anchorStoreProvider identity store).1 = some (.ok, anchor, .valid)) :
    store.anchor identity = some anchor := by
  simp only [rollbackAnchorRead, anchorStoreProvider] at read
  cases fault : store.fault with
  | none =>
    cases stored : store.anchor identity <;> simp only [fault, stored] at read <;> cases read
    rfl
  | fail result applied =>
    simp only [fault] at read
    exact absurd (congrArg Prod.fst (Option.some.inj read)) result.2
  | unsettled status =>
    simp only [fault] at read
    exact absurd (congrArg (fun value => value.2.2) (Option.some.inj read)) status.2
  | powerLoss applied =>
    simp only [fault] at read
    cases read

/-- `reached` is `store` with the anchor of `identity` advanced. -/
structure Advanced (store reached : AnchorStore) (identity : FreshnessIdentity)
    (expectedGeneration nextGeneration : U32) (commitment : AnchorCommitment) : Prop where
  expected : ∃ anchor, store.anchor identity = some anchor ∧ anchor.generation = expectedGeneration
  anchors : reached.anchors =
    Function.update store.anchors identity.canonical (some ⟨identity, nextGeneration, commitment⟩)
  advances : reached.advances = store.advances + 1

theorem compareAndAdvance_cases (store : AnchorStore) (identity : FreshnessIdentity)
    (expectedGeneration nextGeneration : U32) (commitment : AnchorCommitment) :
    let advanced := store.compareAndAdvance identity expectedGeneration nextGeneration commitment
    (advanced.1 ≠ .ok ∧ advanced.2 = store) ∨
      store.Advanced advanced.2 identity expectedGeneration nextGeneration commitment := by
  simp only [compareAndAdvance]
  cases stored : store.anchor identity with
  | none => exact Or.inl ⟨AnchorProviderResult.noConfusion, rfl⟩
  | some anchor =>
    by_cases expected : anchor.generation ≠ expectedGeneration
    · simp only [if_pos expected]
      exact Or.inl ⟨by decide, trivial⟩
    · simp only [if_neg expected]
      exact Or.inr ⟨⟨anchor, stored, not_not.mp expected⟩, rfl, rfl⟩

/-- A call to advance an anchor leaves the store as it was, without success, or the anchor advanced. -/
def AdvanceOutcome (store : AnchorStore) (identity : FreshnessIdentity) (expectedGeneration nextGeneration : U32)
    (commitment : AnchorCommitment) (run : Option AnchorProviderResult × AnchorStore) : Prop :=
  (run.1 ≠ some .ok ∧ ∃ count, run.2 = store.after count) ∨
    store.Advanced run.2 identity expectedGeneration nextGeneration commitment

theorem provider_advance (identity : FreshnessIdentity) (expectedGeneration nextGeneration : U32)
    (commitment : AnchorCommitment) (store : AnchorStore) :
    store.AdvanceOutcome identity expectedGeneration nextGeneration commitment
      (anchorStoreProvider.advance identity expectedGeneration nextGeneration commitment store) := by
  have swap := store.next.compareAndAdvance_cases identity expectedGeneration nextGeneration commitment
  simp only [anchorStoreProvider] at swap ⊢
  generalize store.next.compareAndAdvance identity expectedGeneration nextGeneration commitment = advanced at swap ⊢
  obtain ⟨result, reached⟩ := advanced
  have applied : (result ≠ .ok ∧ reached = store.after 1) ∨
      store.Advanced reached identity expectedGeneration nextGeneration commitment :=
    swap.imp id fun advanced => ⟨advanced.expected, advanced.anchors, advanced.advances⟩
  have unapplied {report : Option AnchorProviderResult} (failed : report ≠ some .ok) :
      store.AdvanceOutcome identity expectedGeneration nextGeneration commitment (report, store.next) :=
    Or.inl ⟨failed, 1, rfl⟩
  have stored {report : Option AnchorProviderResult} (failed : result ≠ .ok → report ≠ some .ok) :
      store.AdvanceOutcome identity expectedGeneration nextGeneration commitment (report, reached) :=
    applied.imp_left fun ⟨refused, same⟩ => ⟨failed refused, 1, same⟩
  cases store.fault with
  | none => exact stored fun refused success => refused (Option.some.inj success)
  | fail failure after =>
    have failed : some failure.1 ≠ some .ok := fun success => failure.2 (Option.some.inj success)
    cases after with
    | false => exact unapplied failed
    | true => exact stored fun _ => failed
  | unsettled status => exact unapplied (by decide)
  | powerLoss after =>
    cases after with
    | false => exact unapplied (by decide)
    | true => exact stored fun _ => by decide

theorem advance_outcome (identity : FreshnessIdentity) (expectedGeneration nextGeneration : U32)
    (commitment : AnchorCommitment) (store : AnchorStore) :
    store.AdvanceOutcome identity expectedGeneration nextGeneration commitment
      (rollbackAnchorAdvance anchorStoreProvider identity expectedGeneration nextGeneration commitment store) := by
  simp only [rollbackAnchorAdvance]
  by_cases exhausted : (rollbackAnchorNextGeneration expectedGeneration).1 ≠ .ok
  · rw [if_pos exhausted]
    exact Or.inl ⟨fun success => exhausted (Option.some.inj success), 0, rfl⟩
  rw [if_neg exhausted]
  by_cases governed : nextGeneration ≠ (rollbackAnchorNextGeneration expectedGeneration).2
  · rw [if_pos governed]
    exact Or.inl ⟨fun success => AnchorProviderResult.noConfusion (Option.some.inj success), 0, rfl⟩
  rw [if_neg governed]
  apply provider_advance

end AnchorStore

end Guardian.NodeLink
