import Guardian.Lib.Layout
import Guardian.NodeLink.IngressHistory

namespace Guardian.NodeLink

open Word ByteString Device Guardian.Crypto

section record

variable (c : GiConfig) (s : GiState)

def giRecordWords : List U32 :=
  [s.revision, c.sender, c.producer, c.key, c.epoch, c.registryRevision, c.generation, c.policy, c.profile, c.round,
    s.obsSequence, s.ackSequence, s.localEpoch, s.localSequence, s.deadline, s.lastTime, 0, 0]

theorem giRecordBody_word (rest : List U8) {index : Nat} (within : index < 18) :
    getU32Le ((giRecordBody c s ++ rest).drop (8 + 4 * index)) = (giRecordWords c s)[index] := by
  have body : giRecordBody c s ++ rest =
      [0x47, 0x49, 1, 0, s.hasReport, s.pending, s.eligible, c.expectedState] ++
        (giRecordWords c s).flatMap putU32Le ++
          ((giCommitment c).1 ++ c.measurementDigest.1 ++ c.publicKey.1 ++ List.replicate 48 0 ++ rest) := by
    simp only [giRecordBody, giRecordWords, List.append_assoc]
  rw [body]
  exact getU32Le_words (by rfl) (giRecordWords c s) _ within

theorem giRecordState_body (rest : List U8) : giRecordState (giRecordBody c s ++ rest) = s := by
  have word {index : Nat} (within : index < 18) := giRecordBody_word c s rest within
  have revision : getU32Le ((giRecordBody c s ++ rest).drop 8) = s.revision := word (by decide : 0 < 18)
  have observed : getU32Le ((giRecordBody c s ++ rest).drop 48) = s.obsSequence := word (by decide : 10 < 18)
  have acknowledged : getU32Le ((giRecordBody c s ++ rest).drop 52) = s.ackSequence := word (by decide : 11 < 18)
  have epoch : getU32Le ((giRecordBody c s ++ rest).drop 56) = s.localEpoch := word (by decide : 12 < 18)
  have sequence : getU32Le ((giRecordBody c s ++ rest).drop 60) = s.localSequence := word (by decide : 13 < 18)
  have deadline : getU32Le ((giRecordBody c s ++ rest).drop 64) = s.deadline := word (by decide : 14 < 18)
  have time : getU32Le ((giRecordBody c s ++ rest).drop 68) = s.lastTime := word (by decide : 15 < 18)
  rw [giRecordState, revision, observed, acknowledged, epoch, sequence, deadline, time]
  rfl

theorem giRecord_take : (giRecord c s).1.take 224 = giRecordBody c s := by
  unfold giRecord
  exact List.take_left' (giRecordBody_length c s)

theorem giRecordDigest_record : (giRecordDigest (giRecord c s)).1 = blake2b giDigestSize (giRecordBody c s) := by
  unfold giRecordDigest giRecord
  dsimp only
  rw [List.drop_left' (giRecordBody_length c s)]

variable {c s}

theorem giRecordBody_injective {t : GiState} (same : giRecordBody c s = giRecordBody c t) : s = t := by
  have left := giRecordState_body c s []
  rw [same, giRecordState_body] at left
  exact left.symm

theorem giEncodeRecord_eq {b : Bytes 256} (encoded : giEncodeRecord c s = some b) :
    b = giRecord c s ∧ giConfigOk c = true ∧ giStateOk s = true := by
  unfold giEncodeRecord at encoded
  split_ifs at encoded with refused
  obtain ⟨config, state⟩ := not_or.mp refused
  exact ⟨(Option.some.inj encoded).symm, by simpa using config, by simpa using state⟩

theorem giDecode_eq {x : GiContext} {b : Bytes 256} (decoded : giDecode x b = some s) :
    b = giRecord x.config s ∧ giStateOk s = true := by
  unfold giDecode at decoded
  split_ifs at decoded with encoded
  obtain ⟨record, -, valid⟩ := giEncodeRecord_eq encoded
  cases decoded
  exact ⟨record, valid⟩

theorem GiCollisionFree.same {records : List (Bytes 256)} (free : GiCollisionFree records) {t : GiState}
    (left : giRecord c s ∈ records) (right : giRecord c t ∈ records)
    (digest : giRecordDigest (giRecord c s) = giRecordDigest (giRecord c t)) : s = t := by
  have bytes := congrArg Subtype.val digest
  rw [giRecordDigest_record, giRecordDigest_record] at bytes
  exact giRecordBody_injective (free ⟨_, left, giRecord_take c s⟩ ⟨_, right, giRecord_take c t⟩ bytes)

theorem GiCollisionFree.subset {few many : List (Bytes 256)} (free : GiCollisionFree many) (within : few ⊆ many) :
    GiCollisionFree few := by
  apply Set.InjOn.mono _ free
  rintro body ⟨record, member, taken⟩
  exact ⟨record, within member, taken⟩

end record

section provider

structure GiStore.Kept (store reached : GiStore) : Prop where
  anchor : reached.anchor = store.anchor
  seen : store.seen ⊆ reached.seen

theorem GiStore.Kept.trans {first second third : GiStore} (left : first.Kept second) (right : second.Kept third) :
    first.Kept third :=
  ⟨right.anchor.trans left.anchor, List.Subset.trans left.seen right.seen⟩

theorem GiStore.kept_next (store : GiStore) : store.Kept store.next := ⟨rfl, List.Subset.refl _⟩

theorem readAnchor_kept (store : GiStore) : store.Kept (giStoreProvider.readAnchor store).2 ∧
    ∀ anchor, (giStoreProvider.readAnchor store).1 = some (some anchor) → anchor = store.anchor := by
  unfold giStoreProvider
  dsimp only
  cases store.fault with
  | fail applied => exact ⟨store.kept_next, fun _ read => nomatch read⟩
  | powerLoss applied => exact ⟨store.kept_next, fun _ read => nomatch read⟩
  | _ => exact ⟨store.kept_next, fun _ read => (Option.some.inj (Option.some.inj read)).symm⟩

theorem readRecord_kept (revision : U32) (store : GiStore) :
    store.Kept (giStoreProvider.readRecord revision store).2 ∧
      ∀ b, (giStoreProvider.readRecord revision store).1 = some (some b) →
        b ∈ (giStoreProvider.readRecord revision store).2.seen := by
  have read (bytes : Option (Bytes 256)) : store.Kept { store.next with seen := bytes.toList ++ store.seen } ∧
      ∀ b, some bytes = some (some b) → b ∈ bytes.toList ++ store.seen := by
    refine ⟨⟨rfl, List.subset_append_right _ _⟩, ?_⟩
    intro b same
    cases same
    exact List.mem_append_left _ (Option.mem_toList.mpr rfl)
  unfold giStoreProvider
  dsimp only
  cases store.fault with
  | powerLoss applied => exact ⟨store.kept_next, fun _ lost => nomatch lost⟩
  | _ => exact read _

theorem stage_kept (revision : U32) (record : Bytes 256) (store : GiStore) :
    store.Kept (giStoreProvider.stage revision record store).2 ∧
      record ∈ (giStoreProvider.stage revision record store).2.seen := by
  have left (reached : GiStore) (anchor : reached.anchor = store.anchor) (seen : reached.seen = record :: store.seen) :
      store.Kept reached ∧ record ∈ reached.seen := by
    rw [seen]
    exact ⟨⟨anchor, seen ▸ List.subset_cons_self _ _⟩, List.mem_cons_self⟩
  unfold giStoreProvider
  dsimp only
  cases store.fault with
  | none => exact left _ rfl rfl
  | torn bytes => exact left _ rfl rfl
  | corrupt bytes => exact left _ rfl rfl
  | fail applied => cases applied <;> exact left _ rfl rfl
  | powerLoss applied => cases applied <;> exact left _ rfl rfl

/-- The anchor is left, and success is not reported, or it moves from what was expected to what was asked for. -/
theorem advance_moves (old : U32) (before : Bytes 32) (new : U32) (after : Bytes 32) (store : GiStore) :
    (store.Kept (giStoreProvider.advance old before new after store).2 ∧
        (giStoreProvider.advance old before new after store).1 ≠ some true) ∨
      (store.anchor = (old, before) ∧ new = old + 1 ∧
        (giStoreProvider.advance old before new after store).2.anchor = (new, after) ∧
        store.seen ⊆ (giStoreProvider.advance old before new after store).2.seen) := by
  unfold giStoreProvider GiStore.compareAndAdvance
  dsimp only
  by_cases expected : store.next.anchor = (old, before) ∧ new = old + 1
  · rw [if_pos expected]
    have moved : store.anchor = (old, before) := expected.1
    cases store.fault with
    | torn bytes => exact Or.inl ⟨store.kept_next, by simp⟩
    | fail applied =>
      cases applied with
      | false => exact Or.inl ⟨store.kept_next, by simp⟩
      | true => exact Or.inr ⟨moved, expected.2, rfl, List.Subset.refl _⟩
    | powerLoss applied =>
      cases applied with
      | false => exact Or.inl ⟨store.kept_next, by simp⟩
      | true => exact Or.inr ⟨moved, expected.2, rfl, List.Subset.refl _⟩
    | _ => exact Or.inr ⟨moved, expected.2, rfl, List.Subset.refl _⟩
  · rw [if_neg expected]
    cases store.fault with
    | fail applied => exact Or.inl ⟨by cases applied <;> exact store.kept_next, by simp⟩
    | powerLoss applied => exact Or.inl ⟨by cases applied <;> exact store.kept_next, by simp⟩
    | _ => exact Or.inl ⟨store.kept_next, by simp⟩

end provider

section calls

variable {x : GiContext} {a : GseaContext} {now : U32}

inductive GiPrepares (x : GiContext) (wire : List U8) : GiContext → Prop
  | kept (floor : U32) : GiPrepares x wire { x with clockFloor := floor }
  | latched (floor : U32) : GiPrepares x wire { x with clockFloor := floor, mode := .hold }
  | proposed (proposed : GiState) (kind : U8) (floor : U32) (ready : x.mode = .ready)
      (advances : GiAdvances x.live ⟨kind, wire, proposed⟩) :
      GiPrepares x wire
        { x with clockFloor := floor, proposed, preparedKind := kind, preparedWire := wire, mode := .prepared }

theorem giBegin_cases (x : GiContext) (a : GseaContext) (now : U32) :
    ((giBegin x a now).1 ≠ .ok ∧ ((giBegin x a now).2 = x ∨
        ∃ floor, (giBegin x a now).2 = { x with clockFloor := floor, mode := .hold })) ∨
      (x.mode = .ready ∧ x.live.revision ≠ 0xFFFFFFFF ∧ giBegin x a now = (.ok, { x with clockFloor := now })) := by
  unfold giBegin
  split_ifs with unready refused exhausted
  · exact Or.inl ⟨by simp, Or.inl rfl⟩
  · exact Or.inl ⟨by simp, Or.inr ⟨x.clockFloor, rfl⟩⟩
  · exact Or.inl ⟨by simp, Or.inr ⟨now, rfl⟩⟩
  · exact Or.inr ⟨not_not.mp unready, exhausted, rfl⟩

theorem giNext_advances {live next : GiState} {e : GseUnverified} {wire : List U8} (decoded : gseDecode wire = some e)
    (more : live.revision ≠ 0xFFFFFFFF) (passes : giNext live e now = .ok next) :
    GiAdvances live ⟨e.type, wire, { next with lastTime := now, revision := next.revision + 1 }⟩ := by
  unfold giNext at passes
  split_ifs at passes with observation old replayed mismatched late
  · cases passes
    rw [observation]
    exact .observation e wire now decoded observation (BitVec.not_le.mp old) more
  · cases passes
    have type : e.type = 8 := (gseDecode_type decoded).resolve_left observation
    obtain ⟨pending, report, epoch, sequence⟩ : live.pending = 1 ∧ live.hasReport = 1 ∧
        getU32Le (e.payload.1.drop 20) = live.localEpoch ∧ getU32Le (e.payload.1.drop 24) = live.localSequence := by
      simpa only [not_or, not_not] using mismatched
    rw [type]
    exact .ack e wire now decoded type (BitVec.not_le.mp replayed) pending report epoch sequence more

theorem giPrepare_prepares (check : Bytes 64 → Bytes 32 → List U8 → Bool) (x : GiContext) (a : GseaContext)
    (wire : List U8) (now : U32) : GiPrepares x wire (giPrepare check x a wire now).2 := by
  unfold giPrepare
  dsimp only
  rcases giBegin_cases x a now with ⟨refused, same | ⟨floor, latched⟩⟩ | ⟨ready, more, begun⟩
  · rw [if_pos refused, same]
    exact .kept x.clockFloor
  · rw [if_pos refused, latched]
    exact .latched floor
  · rw [begun, if_neg (not_not.mpr rfl)]
    cases verified : gseaVerify check a wire with
    | error refusal => exact .kept now
    | ok evidence =>
      have decoded := gseaVerify_decoded verified
      dsimp only
      split_ifs with semantics
      · exact .kept now
      · cases passes : giNext x.live evidence.envelope now with
        | error refusal => exact .kept now
        | ok next => exact .proposed _ _ now ready (giNext_advances decoded more passes)

theorem giPreparePending_prepares (x : GiContext) (a : GseaContext) (epoch sequence deadline now : U32) :
    GiPrepares x [] (giPreparePending x a epoch sequence deadline now).2 := by
  unfold giPreparePending
  dsimp only
  rcases giBegin_cases x a now with ⟨refused, same | ⟨floor, latched⟩⟩ | ⟨ready, more, begun⟩
  · rw [if_pos refused, same]
    exact .kept x.clockFloor
  · rw [if_pos refused, latched]
    exact .latched floor
  · rw [begun, if_neg (not_not.mpr rfl)]
    split_ifs with invalid
    · exact .kept now
    · simp only [not_or, not_not] at invalid
      exact .proposed _ _ now ready
        (.reference epoch sequence deadline now invalid.2.2.2.2.2.1 invalid.2.2.2.2.2.2.1 more)

/-- What a recovery can do: the context holds, or it is ready with a record that the anchor commits to. -/
theorem giRecover_moves (x : GiContext) (a : GseaContext) (now : U32) (store : GiStore) :
    store.Kept (giRecover giStoreProvider x a now store).2 ∧
      ∀ result context, (giRecover giStoreProvider x a now store).1 = some (result, context) →
        context = { x with mode := .hold, preparedWire := [] } ∨
          ∃ s, giRecord x.config s ∈ (giRecover giStoreProvider x a now store).2.seen ∧ s.revision = store.anchor.1 ∧
            store.anchor.2 = giRecordDigest (giRecord x.config s) ∧
            context =
              { x with
                live := s, clockFloor := now, digest := store.anchor.2, mode := .ready, preparedWire := [] } := by
  unfold giRecover
  dsimp only
  split_ifs with refused
  · refine ⟨⟨rfl, List.Subset.refl _⟩, ?_⟩
    intro result context returned
    cases returned
    exact Or.inl rfl
  · obtain ⟨keptAnchor, readAnchor⟩ := readAnchor_kept store
    rcases anchored : giStoreProvider.readAnchor store with ⟨_ | _ | ⟨revision, hash⟩, between⟩
    · rw [anchored] at keptAnchor
      rw [Dev.bind_lost anchored]
      exact ⟨keptAnchor, fun _ _ lost => nomatch lost⟩
    · rw [anchored] at keptAnchor
      rw [Dev.bind_value anchored]
      refine ⟨keptAnchor, ?_⟩
      intro result context returned
      cases returned
      exact Or.inl rfl
    · rw [anchored] at keptAnchor readAnchor
      have anchor := readAnchor _ rfl
      rw [Dev.bind_value anchored]
      dsimp only
      obtain ⟨keptRecord, readRecord⟩ := readRecord_kept revision between
      rcases recorded : giStoreProvider.readRecord revision between with ⟨_ | _ | b, reached⟩
      · rw [recorded] at keptRecord
        rw [Dev.bind_lost recorded]
        exact ⟨keptAnchor.trans keptRecord, fun _ _ lost => nomatch lost⟩
      · rw [recorded] at keptRecord
        rw [Dev.bind_value recorded]
        refine ⟨keptAnchor.trans keptRecord, ?_⟩
        intro result context returned
        cases returned
        exact Or.inl rfl
      · rw [recorded] at keptRecord readRecord
        rw [Dev.bind_value recorded]
        refine ⟨keptAnchor.trans keptRecord, ?_⟩
        intro result context returned
        have seen := readRecord b rfl
        have accepted := Dev.pure_value returned
        unfold giAccept at accepted
        cases decoded : giDecode { x with mode := GiMode.hold, preparedWire := [] } b with
        | none =>
          rw [decoded] at accepted
          cases accepted
          exact Or.inl rfl
        | some s =>
          rw [decoded] at accepted
          dsimp only at accepted
          split_ifs at accepted with mismatched
          · cases accepted
            exact Or.inl rfl
          · cases accepted
            obtain ⟨record, -⟩ := giDecode_eq decoded
            simp only [not_or, not_not] at mismatched
            rw [← anchor]
            refine Or.inr ⟨s, ?_, mismatched.1, ?_, rfl⟩
            · rw [← record]
              exact seen
            · rw [← record]
              exact mismatched.2.1

/-- The context of a call whose result is `returned`, if power was not lost. -/
def GiReturns (returned : Option (GiResult × GiContext)) (holds : GiContext → Prop) : Prop :=
  ∀ result context, returned = some (result, context) → holds context

/-- What publishing a record can do: the anchor stays, or it moves to the record. -/
structure GiPublishes (x : GiContext) (proposed : GiState) (b : Bytes 256) (store : GiStore)
    (returned : Option (GiResult × GiContext)) (reached : GiStore) : Prop where
  staged : b ∈ reached.seen
  seen : store.seen ⊆ reached.seen
  moves : (reached.anchor = store.anchor ∧ GiReturns returned (· = x)) ∨
    (store.anchor = (x.live.revision, x.digest) ∧ proposed.revision = x.live.revision + 1 ∧
      reached.anchor = (proposed.revision, giRecordDigest b) ∧
      GiReturns returned fun context => context = x ∨
        context = { x with live := proposed, digest := giRecordDigest b, mode := .ready, preparedWire := [] })

theorem GiReturns.lost {holds : GiContext → Prop} : GiReturns none holds := fun _ _ lost => nomatch lost

theorem GiReturns.returned {result : GiResult} {context : GiContext} {holds : GiContext → Prop} (held : holds context) :
    GiReturns (some (result, context)) holds := by
  intro _ _ same
  cases same
  exact held

theorem giReadBack_moves (x : GiContext) (proposed : GiState) (b : Bytes 256) (store : GiStore) :
    let readBack : Dev GiStore (GiResult × GiContext) := do
      match ← giStoreProvider.readAnchor with
      | none => pure (.storage, x)
      | some (revision, hash) =>
        if revision ≠ proposed.revision ∨ hash ≠ giRecordDigest b then pure (.storage, x)
        else match ← giStoreProvider.readRecord revision with
          | none => pure (.storage, x)
          | some readback =>
            if readback ≠ b then pure (.storage, x)
            else pure (.ok, { x with live := proposed, digest := hash, mode := .ready, preparedWire := [] })
    store.Kept (readBack store).2 ∧ GiReturns (readBack store).1 fun context => context = x ∨
      context = { x with live := proposed, digest := giRecordDigest b, mode := .ready, preparedWire := [] } := by
  dsimp only
  obtain ⟨keptAnchor, -⟩ := readAnchor_kept store
  rcases anchored : giStoreProvider.readAnchor store with ⟨_ | _ | ⟨revision, hash⟩, between⟩
  · rw [anchored] at keptAnchor
    rw [Dev.bind_lost anchored]
    exact ⟨keptAnchor, .lost⟩
  · rw [anchored] at keptAnchor
    rw [Dev.bind_value anchored]
    exact ⟨keptAnchor, .returned (Or.inl rfl)⟩
  · rw [anchored] at keptAnchor
    rw [Dev.bind_value anchored]
    dsimp only
    split_ifs with other
    · exact ⟨keptAnchor, .returned (Or.inl rfl)⟩
    · simp only [not_or, not_not] at other
      obtain ⟨keptRecord, -⟩ := readRecord_kept revision between
      rcases recorded : giStoreProvider.readRecord revision between with ⟨_ | _ | readback, reached⟩
      · rw [recorded] at keptRecord
        rw [Dev.bind_lost recorded]
        exact ⟨keptAnchor.trans keptRecord, .lost⟩
      · rw [recorded] at keptRecord
        rw [Dev.bind_value recorded]
        exact ⟨keptAnchor.trans keptRecord, .returned (Or.inl rfl)⟩
      · rw [recorded] at keptRecord
        rw [Dev.bind_value recorded]
        dsimp only
        split_ifs
        · exact ⟨keptAnchor.trans keptRecord, .returned (Or.inl rfl)⟩
        · exact ⟨keptAnchor.trans keptRecord, .returned (Or.inr (by rw [other.2]))⟩

theorem giPublish_moves (x : GiContext) (proposed : GiState) (b : Bytes 256) (store : GiStore) :
    GiPublishes x proposed b store (giPublish giStoreProvider x proposed b store).1
      (giPublish giStoreProvider x proposed b store).2 := by
  unfold giPublish
  obtain ⟨keptStage, stagedSeen⟩ := stage_kept proposed.revision b store
  rcases staged : giStoreProvider.stage proposed.revision b store with ⟨_ | succeeded, between⟩
  · rw [staged] at keptStage stagedSeen
    rw [Dev.bind_lost staged]
    exact ⟨stagedSeen, keptStage.seen, Or.inl ⟨keptStage.anchor, .lost⟩⟩
  rw [staged] at keptStage stagedSeen
  rw [Dev.bind_value staged]
  dsimp only at keptStage stagedSeen ⊢
  cases succeeded with
  | false => exact ⟨stagedSeen, keptStage.seen, Or.inl ⟨keptStage.anchor, .returned rfl⟩⟩
  | true =>
    rw [if_neg (by decide)]
    have moves := advance_moves x.live.revision x.digest proposed.revision (giRecordDigest b) between
    rcases advanced : giStoreProvider.advance x.live.revision x.digest proposed.revision (giRecordDigest b) between with
      ⟨_ | succeeded, moved⟩
    · rw [advanced] at moves
      rw [Dev.bind_lost advanced]
      rcases moves with ⟨kept, -⟩ | ⟨before, next, anchor, seen⟩
      · exact ⟨kept.seen stagedSeen, List.Subset.trans keptStage.seen kept.seen,
          Or.inl ⟨kept.anchor.trans keptStage.anchor, .lost⟩⟩
      · exact ⟨seen stagedSeen, List.Subset.trans keptStage.seen seen,
          Or.inr ⟨keptStage.anchor.symm.trans before, next, anchor, .lost⟩⟩
    · rw [advanced] at moves
      rw [Dev.bind_value advanced]
      dsimp only at moves ⊢
      cases succeeded with
      | false =>
        rcases moves with ⟨kept, -⟩ | ⟨before, next, anchor, seen⟩
        · exact ⟨kept.seen stagedSeen, List.Subset.trans keptStage.seen kept.seen,
            Or.inl ⟨kept.anchor.trans keptStage.anchor, .returned rfl⟩⟩
        · exact ⟨seen stagedSeen, List.Subset.trans keptStage.seen seen,
            Or.inr ⟨keptStage.anchor.symm.trans before, next, anchor, .returned (Or.inl rfl)⟩⟩
      | true =>
        obtain ⟨before, next, anchor, seen⟩ := moves.resolve_left fun kept => kept.2 rfl
        rw [if_neg (by decide)]
        obtain ⟨kept, returns⟩ := giReadBack_moves x proposed b moved
        exact ⟨kept.seen (seen stagedSeen), List.Subset.trans keptStage.seen (List.Subset.trans seen kept.seen),
          Or.inr ⟨keptStage.anchor.symm.trans before, next, kept.anchor.trans anchor, returns⟩⟩

/-- What a commit can do: the anchor stays and the context holds, or the proposed state reaches the anchor. -/
inductive GiCommits (x : GiContext) (now : U32) (store : GiStore) (returned : Option (GiResult × GiContext))
    (reached : GiStore) : Prop
  | kept (anchor : reached.anchor = store.anchor) (seen : store.seen ⊆ reached.seen)
      (returns : GiReturns returned fun context => context = x ∨
        ∃ floor, context = { x with mode := .hold, clockFloor := floor }) : GiCommits x now store returned reached
  | moved (prepared : x.mode = .prepared) (before : store.anchor = (x.live.revision, x.digest))
      (next : x.proposed.revision = x.live.revision + 1) (valid : giStateOk { x.proposed with lastTime := now } = true)
      (anchor : reached.anchor = (x.proposed.revision,
        giRecordDigest (giRecord x.config { x.proposed with lastTime := now })))
      (seen : store.seen ⊆ reached.seen) (staged : giRecord x.config { x.proposed with lastTime := now } ∈ reached.seen)
      (returns : GiReturns returned fun context => context = { x with mode := .hold, clockFloor := now } ∨
        context =
          { x with
            live := { x.proposed with lastTime := now }
            digest := giRecordDigest (giRecord x.config { x.proposed with lastTime := now })
            clockFloor := now, mode := .ready, preparedWire := [] }) : GiCommits x now store returned reached

theorem giCommit_commits (check : Bytes 64 → Bytes 32 → List U8 → Bool) (x : GiContext) (a : GseaContext) (now : U32)
    (store : GiStore) :
    GiCommits x now store (giCommit check giStoreProvider x a now store).1
      (giCommit check giStoreProvider x a now store).2 := by
  have same : store.seen ⊆ store.seen := List.Subset.refl _
  unfold giCommit
  dsimp only
  split_ifs with unprepared conflict late unauthentic
  · exact .kept rfl same (.returned (Or.inl rfl))
  · exact .kept rfl same (.returned (Or.inr ⟨x.clockFloor, rfl⟩))
  · exact .kept rfl same (.returned (Or.inr ⟨x.clockFloor, rfl⟩))
  · exact .kept rfl same (.returned (Or.inr ⟨x.clockFloor, rfl⟩))
  · cases encoded : giEncodeRecord x.config { x.proposed with lastTime := now } with
    | none => exact .kept rfl same (.returned (Or.inr ⟨now, rfl⟩))
    | some b =>
      obtain ⟨record, -, valid⟩ := giEncodeRecord_eq encoded
      obtain ⟨staged, seen, moves⟩ := giPublish_moves { x with mode := .hold, clockFloor := now }
        { x.proposed with lastTime := now } b store
      rcases moves with ⟨anchor, returns⟩ | ⟨before, next, anchor, returns⟩
      · exact .kept anchor seen fun result context returned => Or.inr ⟨now, returns result context returned⟩
      · subst record
        exact .moved (not_not.mp unprepared) before next valid anchor seen staged returns

end calls

end Guardian.NodeLink
