import Guardian.Crypto.Sha256
import Guardian.Lib.Check
import Guardian.Lib.Layout

namespace Guardian.MultiNode

open Word ByteString Guardian.Crypto

def gcWireSize : Nat := 52
def gcWireVersion : U8 := 1

structure GcWireObservation where
  generation : U32
  policy : U32
  profile : U32
  round : U32
  claimsActuation : U8
  commitment : Bytes 32
  deriving DecidableEq

inductive GcWireResult
  | ok
  | invalid
  | capacity
  deriving DecidableEq, Repr

def gcWireValid (value : GcWireObservation) : Bool :=
  value.generation != 0 && value.policy != 0 && value.profile != 0 && value.round != 0 && value.claimsActuation ≤ 1

def gcWireBytes (observation : GcWireObservation) : List U8 :=
  [gcWireVersion, observation.claimsActuation, 0, 0] ++ putU32Le observation.generation ++
    putU32Le observation.policy ++ putU32Le observation.profile ++ putU32Le observation.round ++
    observation.commitment.1

def gcWireEncode (observation : GcWireObservation) (capacity : Nat) : GcWireResult × List U8 :=
  if !gcWireValid observation then (.invalid, [])
  else if capacity < gcWireSize then (.capacity, [])
  else (.ok, gcWireBytes observation)

def gcWireRead (input : List U8) : GcWireObservation where
  generation := getU32Le (input.drop 4)
  policy := getU32Le (input.drop 8)
  profile := getU32Le (input.drop 12)
  round := getU32Le (input.drop 16)
  claimsActuation := input.getD 1 0
  commitment := padded 32 (slice 20 32 input)

/-- `none` is `GC_WIRE_INVALID`. -/
def gcWireDecode (input : List U8) : Option GcWireObservation :=
  if input.length ≠ gcWireSize then none
  else if input.getD 0 0 ≠ gcWireVersion ∨ input.getD 1 0 > 1 ∨ input.getD 2 0 ≠ 0 ∨ input.getD 3 0 ≠ 0 then none
  else if !gcWireValid (gcWireRead input) then none
  else some (gcWireRead input)

def gcAckSize : Nat := 60
def gcAckVersion : U8 := 1
def gcAckKind : U8 := 0xA1

structure GcAck where
  generation : U32
  policy : U32
  profile : U32
  round : U32
  observationEpoch : U32
  observationSequence : U32
  commitment : Bytes 32
  deriving DecidableEq

inductive GcAckResult
  | ok
  | invalid
  | capacity
  | mismatch
  deriving DecidableEq, Repr

def gcAckValid (a : GcAck) : Bool :=
  a.generation != 0 && a.policy != 0 && a.profile != 0 && a.round != 0 && a.observationEpoch != 0 &&
    a.observationSequence != 0

def gcAckBytes (a : GcAck) : List U8 :=
  [gcAckVersion, gcAckKind, 0, 0] ++ putU32Le a.generation ++ putU32Le a.policy ++ putU32Le a.profile ++
    putU32Le a.round ++ putU32Le a.observationEpoch ++ putU32Le a.observationSequence ++ a.commitment.1

def gcAckEncode (a : GcAck) (capacity : Nat) : GcAckResult × List U8 :=
  if !gcAckValid a then (.invalid, [])
  else if capacity < gcAckSize then (.capacity, [])
  else (.ok, gcAckBytes a)

def gcAckRead (input : List U8) : GcAck where
  generation := getU32Le (input.drop 4)
  policy := getU32Le (input.drop 8)
  profile := getU32Le (input.drop 12)
  round := getU32Le (input.drop 16)
  observationEpoch := getU32Le (input.drop 20)
  observationSequence := getU32Le (input.drop 24)
  commitment := padded 32 (slice 28 32 input)

/-- `none` is `GC_ACK_INVALID`. -/
def gcAckDecode (input : List U8) : Option GcAck :=
  if input.length ≠ gcAckSize then none
  else if input.getD 0 0 ≠ gcAckVersion ∨ input.getD 1 0 ≠ gcAckKind ∨ input.getD 2 0 ≠ 0 ∨ input.getD 3 0 ≠ 0 then none
  else if !gcAckValid (gcAckRead input) then none
  else some (gcAckRead input)

/-- Every field is compared; the bits in which the commitments differ are collected over all their bytes. -/
def gcAckMatch (a pending : GcAck) : GcAckResult :=
  if !gcAckValid a ∨ !gcAckValid pending then .invalid
  else if a.generation ≠ pending.generation ∨ a.policy ≠ pending.policy ∨ a.profile ≠ pending.profile ∨
      a.round ≠ pending.round ∨ a.observationEpoch ≠ pending.observationEpoch ∨
      a.observationSequence ≠ pending.observationSequence then .mismatch
  else if cryptoDifference a.commitment.1 pending.commitment.1 = 0 then .ok
  else .mismatch

theorem gcWireValid_iff (value : GcWireObservation) : gcWireValid value = true ↔
    value.generation ≠ 0 ∧ value.policy ≠ 0 ∧ value.profile ≠ 0 ∧ value.round ≠ 0 ∧ value.claimsActuation ≤ 1 := by
  simp only [gcWireValid, Bool.and_eq_true, bne_iff_ne, decide_eq_true_eq, and_assoc]

theorem gcAckValid_iff (a : GcAck) : gcAckValid a = true ↔
    a.generation ≠ 0 ∧ a.policy ≠ 0 ∧ a.profile ≠ 0 ∧ a.round ≠ 0 ∧ a.observationEpoch ≠ 0 ∧
      a.observationSequence ≠ 0 := by
  simp only [gcAckValid, Bool.and_eq_true, bne_iff_ne, and_assoc]

theorem gcWireDecode_iff {input : List U8} {observation : GcWireObservation} :
    gcWireDecode input = some observation ↔
      input.length = gcWireSize ∧ input.getD 0 0 = gcWireVersion ∧ input.getD 1 0 ≤ 1 ∧ input.getD 2 0 = 0 ∧
        input.getD 3 0 = 0 ∧ gcWireValid (gcWireRead input) = true ∧ observation = gcWireRead input := by
  rw [gcWireDecode, Option.ite_none_left_eq_some, Option.ite_none_left_eq_some, Option.ite_none_left_eq_some,
    Option.some.injEq, @eq_comm _ (gcWireRead input)]
  simp only [ne_eq, not_or, not_not, gt_iff_lt, BitVec.not_lt, Bool.not_eq_true', Bool.not_eq_false, and_assoc]

theorem gcAckDecode_iff {input : List U8} {a : GcAck} :
    gcAckDecode input = some a ↔
      input.length = gcAckSize ∧ input.getD 0 0 = gcAckVersion ∧ input.getD 1 0 = gcAckKind ∧ input.getD 2 0 = 0 ∧
        input.getD 3 0 = 0 ∧ gcAckValid (gcAckRead input) = true ∧ a = gcAckRead input := by
  rw [gcAckDecode, Option.ite_none_left_eq_some, Option.ite_none_left_eq_some, Option.ite_none_left_eq_some,
    Option.some.injEq, @eq_comm _ (gcAckRead input)]
  simp only [ne_eq, not_or, not_not, Bool.not_eq_true', Bool.not_eq_false, and_assoc]

theorem gcWireRead_bytes (observation : GcWireObservation) : gcWireRead (gcWireBytes observation) = observation := by
  have generation : getU32Le ((gcWireBytes observation).drop 4) = observation.generation := getU32Le_put _ _
  have policy : getU32Le ((gcWireBytes observation).drop 8) = observation.policy := getU32Le_put _ _
  have profile : getU32Le ((gcWireBytes observation).drop 12) = observation.profile := getU32Le_put _ _
  have round : getU32Le ((gcWireBytes observation).drop 16) = observation.round := getU32Le_put _ _
  have claims : (gcWireBytes observation).getD 1 0 = observation.claimsActuation := rfl
  have last : slice 20 32 (gcWireBytes observation) = observation.commitment.1 := slice_all observation.commitment.2
  rw [gcWireRead, generation, policy, profile, round, claims, last, ← List.append_nil observation.commitment.1,
    padded_self]

theorem gcAckRead_bytes (a : GcAck) : gcAckRead (gcAckBytes a) = a := by
  have generation : getU32Le ((gcAckBytes a).drop 4) = a.generation := getU32Le_put _ _
  have policy : getU32Le ((gcAckBytes a).drop 8) = a.policy := getU32Le_put _ _
  have profile : getU32Le ((gcAckBytes a).drop 12) = a.profile := getU32Le_put _ _
  have round : getU32Le ((gcAckBytes a).drop 16) = a.round := getU32Le_put _ _
  have epoch : getU32Le ((gcAckBytes a).drop 20) = a.observationEpoch := getU32Le_put _ _
  have sequence : getU32Le ((gcAckBytes a).drop 24) = a.observationSequence := getU32Le_put _ _
  have last : slice 28 32 (gcAckBytes a) = a.commitment.1 := slice_all a.commitment.2
  rw [gcAckRead, generation, policy, profile, round, epoch, sequence, last, ← List.append_nil a.commitment.1,
    padded_self]

theorem gcWireDecode_encode {observation : GcWireObservation} {capacity : Nat} {output : List U8}
    (encoded : gcWireEncode observation capacity = (.ok, output)) : gcWireDecode output = some observation := by
  unfold gcWireEncode at encoded
  obtain ⟨invalid, encoded⟩ := Check.passed encoded (by simp)
  obtain ⟨-, encoded⟩ := Check.passed encoded (by simp)
  cases encoded
  have valid : gcWireValid observation = true := by simpa using invalid
  apply gcWireDecode_iff.mpr
  rw [gcWireRead_bytes]
  refine ⟨?_, rfl, ((gcWireValid_iff observation).mp valid).2.2.2.2, rfl, rfl, valid, rfl⟩
  simp only [gcWireBytes, List.length_append, List.length_cons, List.length_nil, putU32Le_length,
    observation.commitment.2, gcWireSize]

theorem gcAckDecode_encode {a : GcAck} {capacity : Nat} {output : List U8}
    (encoded : gcAckEncode a capacity = (.ok, output)) : gcAckDecode output = some a := by
  unfold gcAckEncode at encoded
  obtain ⟨invalid, encoded⟩ := Check.passed encoded (by simp)
  obtain ⟨-, encoded⟩ := Check.passed encoded (by simp)
  cases encoded
  have valid : gcAckValid a = true := by simpa using invalid
  apply gcAckDecode_iff.mpr
  rw [gcAckRead_bytes]
  refine ⟨?_, rfl, rfl, rfl, rfl, valid, rfl⟩
  simp only [gcAckBytes, List.length_append, List.length_cons, List.length_nil, putU32Le_length,
    a.commitment.2, gcAckSize]

theorem gcAckMatch_ok_iff (a pending : GcAck) : gcAckMatch a pending = .ok ↔ gcAckValid a = true ∧ a = pending := by
  have collected := cryptoDifference_zero (a.commitment.2.trans pending.commitment.2.symm)
  constructor
  · intro matched
    unfold gcAckMatch at matched
    obtain ⟨invalid, matched⟩ := Check.passed matched (by decide)
    obtain ⟨apart, matched⟩ := Check.passed matched (by decide)
    split_ifs at matched with same
    simp only [not_or, not_not, Bool.not_eq_true'] at invalid apart
    obtain ⟨generation, policy, profile, round, epoch, sequence⟩ := apart
    refine ⟨by simpa using invalid.1, ?_⟩
    cases a
    cases pending
    simp only [GcAck.mk.injEq]
    exact ⟨generation, policy, profile, round, epoch, sequence, Subtype.ext (collected.mp same)⟩
  · rintro ⟨valid, rfl⟩
    have zero := collected.mpr rfl
    rw [gcAckMatch, if_neg (by simp [valid]), if_neg (by simp), if_pos zero]

end Guardian.MultiNode
