import Mathlib.Data.Set.Function
import Guardian.Crypto.Blake2b
import Guardian.Lib.Device
import Guardian.NodeLink.SignedEnvelope
import Guardian.Lib.Run

namespace Guardian.NodeLink

open Word ByteString Device Guardian.Crypto

def giDigestSize : Nat := 32

structure GiConfig where
  sender : U32
  producer : U32
  key : U32
  epoch : U32
  registryRevision : U32
  generation : U32
  policy : U32
  profile : U32
  round : U32
  expectedState : U8
  measurementDigest : Bytes 32
  publicKey : Bytes 32
  deriving DecidableEq

structure GiState where
  revision : U32
  obsSequence : U32
  ackSequence : U32
  localEpoch : U32
  localSequence : U32
  deadline : U32
  lastTime : U32
  hasReport : U8
  pending : U8
  eligible : U8
  deriving DecidableEq, Repr

inductive GiMode
  | ready
  | prepared
  | hold
  deriving DecidableEq, Repr

/-- `provided` tells whether a provider is installed; `preparedWire` are the first `prepared_length` bytes. -/
structure GiContext where
  config : GiConfig
  live : GiState
  proposed : GiState
  provided : Bool
  digest : Bytes 32
  commitment : Bytes 32
  preparedWire : List U8
  clockFloor : U32
  mode : GiMode
  preparedKind : U8
  deriving DecidableEq

inductive GiResult
  | ok
  | invalid
  | hold
  | auth
  | semantic
  | replay
  | ack
  | expired
  | storage
  | conflict
  deriving DecidableEq, Repr

/-- The provider callbacks; `none` and `false` are a failure. -/
structure GiProvider (σ : Type) where
  readAnchor : Dev σ (Option (U32 × Bytes 32))
  readRecord : U32 → Dev σ (Option (Bytes 256))
  stage : U32 → Bytes 256 → Dev σ Bool
  advance : U32 → Bytes 32 → U32 → Bytes 32 → Dev σ Bool

def giConfigOk (c : GiConfig) : Bool :=
  c.sender != 0 && c.producer != 0 && c.key != 0 && c.epoch != 0 && c.epoch != 0xFFFFFFFF && c.registryRevision != 0 &&
    c.generation != 0 && c.generation != 0xFFFFFFFF && c.policy != 0 && c.profile != 0 && c.round != 0 &&
    c.expectedState ≤ 5

/-- `GUARDIAN:CORROBORATION:COMMITMENT:V1`. -/
def giCommitmentDomain : List U8 :=
  [0x47, 0x55, 0x41, 0x52, 0x44, 0x49, 0x41, 0x4E, 0x3A, 0x43, 0x4F, 0x52, 0x52, 0x4F, 0x42, 0x4F, 0x52, 0x41,
   0x54, 0x49, 0x4F, 0x4E, 0x3A, 0x43, 0x4F, 0x4D, 0x4D, 0x49, 0x54, 0x4D, 0x45, 0x4E, 0x54, 0x3A, 0x56, 0x31]

def giCommitment (c : GiConfig) : Bytes 32 :=
  ⟨blake2b giDigestSize (giCommitmentDomain ++ putU32Le c.generation ++ putU32Le c.policy ++ putU32Le c.profile ++
    putU32Le c.round ++ [c.expectedState] ++ c.measurementDigest.1), blake2b_length (by decide) _⟩

def giStateOk (s : GiState) : Bool :=
  s.hasReport ≤ 1 && s.pending ≤ 1 && s.eligible ≤ 1 &&
    (s.hasReport != 0 || (s.obsSequence == 0 && s.eligible == 0)) &&
    (s.hasReport == 0 || s.obsSequence != 0) &&
    (s.pending == 0 ||
      (s.eligible == 0 && s.localEpoch != 0 && s.localSequence != 0 && s.deadline > s.lastTime)) &&
    (s.eligible == 0 ||
      (s.hasReport == 1 && s.pending == 0 && s.ackSequence != 0 && s.localEpoch != 0 && s.localSequence != 0 &&
        s.deadline > s.lastTime))

def giRecordBody (c : GiConfig) (s : GiState) : List U8 :=
  [0x47, 0x49, 1, 0, s.hasReport, s.pending, s.eligible, c.expectedState] ++
    ([s.revision, c.sender, c.producer, c.key, c.epoch, c.registryRevision, c.generation, c.policy, c.profile, c.round,
      s.obsSequence, s.ackSequence, s.localEpoch, s.localSequence, s.deadline, s.lastTime, 0, 0].flatMap putU32Le) ++
    (giCommitment c).1 ++ c.measurementDigest.1 ++ c.publicKey.1 ++ List.replicate 48 0

theorem giRecordBody_length (c : GiConfig) (s : GiState) : (giRecordBody c s).length = 224 := by
  simp [giRecordBody, (giCommitment c).2, c.measurementDigest.2, c.publicKey.2]

def giRecord (c : GiConfig) (s : GiState) : Bytes 256 :=
  ⟨giRecordBody c s ++ blake2b giDigestSize (giRecordBody c s), by
    rw [List.length_append, giRecordBody_length, blake2b_length (by decide)]
    rfl⟩

/-- `none` is `GI_INVALID`. -/
def giEncodeRecord (c : GiConfig) (s : GiState) : Option (Bytes 256) :=
  if !giConfigOk c ∨ !giStateOk s then none else some (giRecord c s)

def giRecordDigest (b : Bytes 256) : Bytes 32 := ⟨b.1.drop 224, by rw [List.length_drop, b.2]⟩

def giRecordState (b : List U8) : GiState where
  revision := getU32Le (b.drop 8)
  obsSequence := getU32Le (b.drop 48)
  ackSequence := getU32Le (b.drop 52)
  localEpoch := getU32Le (b.drop 56)
  localSequence := getU32Le (b.drop 60)
  deadline := getU32Le (b.drop 64)
  lastTime := getU32Le (b.drop 68)
  hasReport := b.getD 4 0
  pending := b.getD 5 0
  eligible := b.getD 6 0

def giDecode (x : GiContext) (b : Bytes 256) : Option GiState :=
  if giEncodeRecord x.config (giRecordState b.1) = some b then some (giRecordState b.1) else none

def GiConfig.names (c : GiConfig) (p : GseaPeer) : Bool :=
  p.sender == c.sender && p.producer == c.producer && p.key == c.key

def GiConfig.trusts (c : GiConfig) (p : GseaPeer) : Bool :=
  p.revoked == 0 && p.allowedTypes == gseaBoth && p.publicKey == c.publicKey

def giRegistryOk (x : GiContext) (a : GseaContext) : Bool :=
  if a.configured ≠ 1 ∨ a.peers.length = 0 ∨ a.peers.length > gseaMaxPeers ∨
      a.registryRevision ≠ x.config.registryRevision then false
  else
    let found := a.peers.filter x.config.names
    found.all x.config.trusts && found.length == 1

def zeroGiState : GiState := ⟨0, 0, 0, 0, 0, 0, 0, 0, 0, 0⟩

def zeroGiConfig : GiConfig := ⟨0, 0, 0, 0, 0, 0, 0, 0, 0, 0, padded 32 [], padded 32 []⟩

def zeroGiContext : GiContext where
  config := zeroGiConfig
  live := zeroGiState
  proposed := zeroGiState
  provided := false
  digest := padded 32 []
  commitment := padded 32 []
  preparedWire := []
  clockFloor := 0
  mode := .hold
  preparedKind := 0

def giInit (c : GiConfig) : GiResult × GiContext :=
  if !giConfigOk c then (.invalid, zeroGiContext)
  else (.ok, { zeroGiContext with config := c, provided := true, commitment := giCommitment c })

/-- A record that was read is accepted if it is the anchored one and the clock is not before it. -/
def giAccept (x : GiContext) (revision : U32) (hash : Bytes 32) (b : Bytes 256) (now : U32) : GiResult × GiContext :=
  match giDecode x b with
  | none => (.hold, x)
  | some s =>
    if s.revision ≠ revision ∨ hash ≠ giRecordDigest b ∨ now < s.lastTime then (.hold, x)
    else (.ok, { x with live := s, clockFloor := now, digest := hash, mode := .ready })

def giRecover {σ : Type} (provider : GiProvider σ) (x : GiContext) (a : GseaContext) (now : U32) :
    Dev σ (GiResult × GiContext) :=
  let x := { x with mode := GiMode.hold, preparedWire := [] }
  if !giRegistryOk x a ∨ !x.provided then pure (.hold, x)
  else do
    match ← provider.readAnchor with
    | none => pure (.hold, x)
    | some (revision, hash) =>
      match ← provider.readRecord revision with
      | none => pure (.hold, x)
      | some b => pure (giAccept x revision hash b now)

def giBegin (x : GiContext) (a : GseaContext) (now : U32) : GiResult × GiContext :=
  if x.mode ≠ .ready then (.hold, x)
  else if !giRegistryOk x a ∨ now < x.live.lastTime ∨ now < x.clockFloor then (.hold, { x with mode := .hold })
  else if x.live.revision = 0xFFFFFFFF then (.hold, { x with clockFloor := now, mode := .hold })
  else (.ok, { x with clockFloor := now })

def giSemantics (x : GiContext) (e : GseUnverified) : Bool :=
  let p := e.payload.1
  let offset := if e.type = 7 then 20 else 28
  e.sender == x.config.sender && e.producer == x.config.producer && e.key == x.config.key &&
    e.sequence != 0xFFFFFFFF && e.epoch == x.config.epoch && e.state == x.config.expectedState &&
    p.getD 0 0 == 1 && p.getD 1 0 == (if e.type = 7 then 0 else 0xA1) && p.getD 2 0 == 0 && p.getD 3 0 == 0 &&
    getU32Le (p.drop 4) == x.config.generation && getU32Le (p.drop 8) == x.config.policy &&
    getU32Le (p.drop 12) == x.config.profile && getU32Le (p.drop 16) == x.config.round &&
    slice offset 32 p == x.commitment.1

section transaction

variable (check : Bytes 64 → Bytes 32 → List U8 → Bool)

/-- The state that a verified envelope leads to, before its time and revision. -/
def giNext (live : GiState) (e : GseUnverified) (now : U32) : Except GiResult GiState :=
  if e.type = 7 then
    if e.sequence ≤ live.obsSequence then .error .replay
    else .ok { live with obsSequence := e.sequence, hasReport := 1, eligible := 0 }
  else
    if e.sequence ≤ live.ackSequence then .error .replay
    else if live.pending ≠ 1 ∨ live.hasReport ≠ 1 ∨ getU32Le (e.payload.1.drop 20) ≠ live.localEpoch ∨
        getU32Le (e.payload.1.drop 24) ≠ live.localSequence then .error .ack
    else if now ≥ live.deadline then .error .expired
    else .ok { live with ackSequence := e.sequence, pending := 0, eligible := 1 }

def giPrepare (x : GiContext) (a : GseaContext) (wire : List U8) (now : U32) : GiResult × GiContext :=
  let begun := giBegin x a now
  let x := begun.2
  if begun.1 ≠ .ok then (begun.1, x)
  else match gseaVerify check a wire with
    | .error _ => (.auth, x)
    | .ok evidence =>
      let e := evidence.envelope
      if !giSemantics x e then (.semantic, x)
      else match giNext x.live e now with
        | .error result => (result, x)
        | .ok next =>
          (.ok, { x with
            proposed := { next with lastTime := now, revision := next.revision + 1 }
            preparedKind := e.type
            preparedWire := wire
            mode := .prepared })

def giPreparePending (x : GiContext) (a : GseaContext) (epoch sequence deadline now : U32) : GiResult × GiContext :=
  let begun := giBegin x a now
  let x := begun.2
  if begun.1 ≠ .ok then (begun.1, x)
  else if epoch = 0 ∨ sequence = 0 ∨ epoch = 0xFFFFFFFF ∨ sequence = 0xFFFFFFFF ∨ deadline ≤ now ∨
      x.live.pending ≠ 0 ∨ x.live.eligible ≠ 0 ∨ epoch < x.live.localEpoch ∨
      (epoch = x.live.localEpoch ∧ sequence ≤ x.live.localSequence) then (.invalid, x)
  else
    (.ok, { x with
      proposed := { x.live with
        localEpoch := epoch, localSequence := sequence, pending := 1, deadline, lastTime := now
        revision := x.live.revision + 1 }
      preparedWire := []
      preparedKind := 0
      mode := .prepared })

/-- The stored record `b` of `proposed`: stage it, advance the anchor to it, read both back, publish it. -/
def giPublish {σ : Type} (provider : GiProvider σ) (x : GiContext) (proposed : GiState) (b : Bytes 256) :
    Dev σ (GiResult × GiContext) := do
  if !(← provider.stage proposed.revision b) then pure (.storage, x)
  else if !(← provider.advance x.live.revision x.digest proposed.revision (giRecordDigest b)) then pure (.storage, x)
  else match ← provider.readAnchor with
    | none => pure (.storage, x)
    | some (revision, hash) =>
      if revision ≠ proposed.revision ∨ hash ≠ giRecordDigest b then pure (.storage, x)
      else match ← provider.readRecord revision with
        | none => pure (.storage, x)
        | some readback =>
          if readback ≠ b then pure (.storage, x)
          else pure (.ok, { x with live := proposed, digest := hash, mode := .ready, preparedWire := [] })

def giStillAuthentic (x : GiContext) (a : GseaContext) : Bool :=
  match gseaVerify check a x.preparedWire with
  | .error _ => false
  | .ok evidence => giSemantics x evidence.envelope

def giCommit {σ : Type} (provider : GiProvider σ) (x : GiContext) (a : GseaContext) (now : U32) :
    Dev σ (GiResult × GiContext) :=
  if x.mode ≠ .prepared then pure (.hold, x)
  else
    let x := { x with mode := GiMode.hold }
    let proposed := x.proposed
    if !giRegistryOk x a ∨ now < proposed.lastTime ∨ now < x.clockFloor then pure (.conflict, x)
    else if (proposed.pending ≠ 0 ∨ proposed.eligible ≠ 0) ∧ now ≥ proposed.deadline then pure (.expired, x)
    else if x.preparedKind ≠ 0 ∧ !giStillAuthentic check x a then pure (.auth, x)
    else
      let x := { x with clockFloor := now }
      let proposed := { proposed with lastTime := now }
      match giEncodeRecord x.config proposed with
      | none => pure (.invalid, x)
      | some b => giPublish provider x proposed b

def giSnapshot (x : GiContext) (a : GseaContext) (now : U32) : Except GiResult GiState :=
  if !giRegistryOk x a ∨ x.mode ≠ .ready ∨ now < x.live.lastTime ∨ now < x.clockFloor ∨
      (x.live.eligible ≠ 0 ∧ now ≥ x.live.deadline) then .error .hold
  else .ok x.live

end transaction

/-- What happens to one provider call: a call that fails or loses power may have had its effect, a record may be staged
only in part, and a record may be read as something else. -/
inductive GiFault
  | none
  | fail (applied : Bool)
  | torn (bytes : Bytes 256)
  | powerLoss (applied : Bool)
  | corrupt (bytes : Bytes 256)

/-- The staged records, newest first, and the anchor. `seen` are the records that were staged or read. -/
structure GiStore where
  staged : List (U32 × Bytes 256)
  anchor : U32 × Bytes 32
  schedule : Nat → GiFault
  operations : Nat
  seen : List (Bytes 256)

namespace GiStore

def fault (store : GiStore) : GiFault := store.schedule store.operations

def next (store : GiStore) : GiStore := { store with operations := store.operations + 1 }

def append (store : GiStore) (revision : U32) (record : Bytes 256) : GiStore :=
  { store with staged := (revision, record) :: store.staged }

def record (store : GiStore) (revision : U32) : Option (Bytes 256) :=
  (store.staged.find? (·.1 = revision)).map Prod.snd

def compareAndAdvance (store : GiStore) (old : U32) (before : Bytes 32) (new : U32) (after : Bytes 32) : Bool × GiStore :=
  if store.anchor = (old, before) ∧ new = old + 1 then (true, { store with anchor := (new, after) }) else (false, store)

def working (store : GiStore) : GiStore := { store with schedule := fun _ => .none }

end GiStore

def giStoreProvider : GiProvider GiStore where
  readAnchor store :=
    match store.fault with
    | .fail _ => (some none, store.next)
    | .powerLoss _ => (none, store.next)
    | _ => (some (some store.anchor), store.next)
  readRecord revision store :=
    let read (bytes : Option (Bytes 256)) : Option (Option (Bytes 256)) × GiStore :=
      (some bytes, { store.next with seen := bytes.toList ++ store.seen })
    match store.fault with
    | .none => read (store.record revision)
    | .corrupt bytes => read (some bytes)
    | .torn bytes => read (some bytes)
    | .fail _ => read none
    | .powerLoss _ => (none, store.next)
  stage revision record store :=
    let next : GiStore := { store.next with seen := record :: store.seen }
    match store.fault with
    | .none => (some true, next.append revision record)
    | .corrupt bytes => (some true, next.append revision bytes)
    | .torn bytes => (some false, next.append revision bytes)
    | .fail applied => (some false, if applied then next.append revision record else next)
    | .powerLoss applied => (none, if applied then next.append revision record else next)
  advance old before new after store :=
    let advanced := store.next.compareAndAdvance old before new after
    match store.fault with
    | .fail applied => (some false, if applied then advanced.2 else store.next)
    | .torn _ => (some false, store.next)
    | .powerLoss applied => (none, if applied then advanced.2 else store.next)
    | _ => (some advanced.1, advanced.2)

/-- A transaction that reached the anchor: its kind, its wire and the state that it stored. -/
structure GiCommitted where
  kind : U8
  wire : List U8
  state : GiState
  deriving DecidableEq, Repr

/-- The device, with the transactions that reached the anchor, newest first. -/
structure GiSystem where
  context : GiContext
  store : GiStore
  commits : List GiCommitted

inductive GiEvent
  | restart
  | recover (registry : GseaContext) (now : U32)
  | prepare (registry : GseaContext) (wire : List U8) (now : U32)
  | preparePending (registry : GseaContext) (epoch sequence deadline now : U32)
  | commit (registry : GseaContext) (now : U32)

/-- The context after a call: the device starts again when power was lost. -/
def giResume (config : GiConfig) (returned : Option (GiResult × GiContext)) : GiContext :=
  match returned with
  | some (_, context) => context
  | none => (giInit config).2

section system

variable (check : Bytes 64 → Bytes 32 → List U8 → Bool) (config : GiConfig)

def giStep (system : GiSystem) : GiEvent → GiSystem
  | .restart => { system with context := (giInit config).2 }
  | .recover registry now =>
    let run := giRecover giStoreProvider system.context registry now system.store
    { system with context := giResume config run.1, store := run.2 }
  | .prepare registry wire now => { system with context := (giPrepare check system.context registry wire now).2 }
  | .preparePending registry epoch sequence deadline now =>
    { system with context := (giPreparePending system.context registry epoch sequence deadline now).2 }
  | .commit registry now =>
    let run := giCommit check giStoreProvider system.context registry now system.store
    let committed : GiCommitted :=
      ⟨system.context.preparedKind, system.context.preparedWire, { system.context.proposed with lastTime := now }⟩
    { context := giResume config run.1
      store := run.2
      commits := if run.2.anchor = system.store.anchor then system.commits else committed :: system.commits }

/-- A device with a provisioned record of `genesis`. -/
def giStart (genesis : GiState) (schedule : Nat → GiFault) : GiSystem where
  context := (giInit config).2
  store :=
    { staged := [(genesis.revision, giRecord config genesis)]
      anchor := (genesis.revision, giRecordDigest (giRecord config genesis))
      schedule
      operations := 0
      seen := [giRecord config genesis] }
  commits := []

def giRun (genesis : GiState) (schedule : Nat → GiFault) (events : List GiEvent) : GiSystem :=
  Run.after (giStep check config) events (giStart config genesis schedule)

end system

def GiCollisionFree (records : List (Bytes 256)) : Prop :=
  Set.InjOn (blake2b giDigestSize) { body | ∃ record ∈ records, record.1.take 224 = body }

theorem giCollisionFree_iff (records : List (Bytes 256)) : GiCollisionFree records ↔
    ∀ left ∈ records, ∀ right ∈ records,
      blake2b giDigestSize (left.1.take 224) = blake2b giDigestSize (right.1.take 224) →
        left.1.take 224 = right.1.take 224 := by
  constructor
  · intro free left member right member' same
    exact free ⟨left, member, rfl⟩ ⟨right, member', rfl⟩ same
  · rintro apart _ ⟨left, member, rfl⟩ _ ⟨right, member', rfl⟩ same
    exact apart left member right member' same

instance (records : List (Bytes 256)) : Decidable (GiCollisionFree records) :=
  decidable_of_iff _ (giCollisionFree_iff records).symm

end Guardian.NodeLink
