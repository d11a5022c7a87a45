import Guardian.Acquisition.Acquisition
import Guardian.MultiNode.Multinode

namespace Guardian.MultiNode

open Word Watched Guardian.Acquisition

def highComputeMaxSamples : ℕ := 16
def highComputeMaxQuality : U8 := 100
def highComputeNormalizedLimitMilli : ℤ := 100000
def highComputeCorrelationScale : ℤ := 1000
def highComputeAuthorityNone : U8 := 0

inductive HighComputeResult
  | ok
  | invalidNode
  | invalidPolicy
  | invalidWindow
  | sequenceRegression
  | timestampRegression
  | outOfRange
  | saturated
  | quality
  | correlationUndefined
  | actuationProhibited
  deriving DecidableEq, Repr

structure HighComputePolicy where
  minimumQuality : U8
  driftThresholdMilli : U32
  minimumCorrelationMilli : U32
  deriving DecidableEq, Repr

/-- The signed fields are read with `toInt`, here and below. -/
structure HighComputeSample where
  sequence : U32
  timestampUs : U64
  normalizedMilli : U32
  quality : U8
  saturated : U8
  deriving DecidableEq, Repr

structure HighComputeWindow where
  subjectNodeId : U32
  subjectProducerId : U32
  signalId : U32
  epoch : U32
  baselineMilli : U32
  samples : List HighComputeSample
  deriving DecidableEq, Repr

structure HighComputeAnalysis where
  subjectNodeId : U32
  subjectProducerId : U32
  signalId : U32
  epoch : U32
  firstSequence : U32
  lastSequence : U32
  firstTimestampUs : U64
  lastTimestampUs : U64
  sampleCount : ℕ
  meanMilli : U32
  minimumMilli : U32
  maximumMilli : U32
  peakToPeakMilli : U32
  meanSquareMilli2 : ℕ
  driftMilli : U32
  minimumQuality : U8
  driftDetected : U8
  actuationAuthorized : U8
  deriving DecidableEq, Repr

structure HighComputeFusion where
  correlationMilli : ℤ
  fusedMeanMilli : ℤ
  contradictionDetected : U8
  actuationAuthorized : U8
  deriving DecidableEq, Repr

structure HighComputeNode where
  self : MultinodeNode
  policy : HighComputePolicy
  acceptedWindows : U32
  rejectedWindows : U32
  initialized : U8
  deriving DecidableEq, Repr

def highComputeInit : HighComputeNode := ⟨⟨0, 0, 0, 0, 0, 0⟩, ⟨0, 0, 0⟩, 0, 0, 0⟩

def highComputeIsqrt (value : ℕ) : Watched ℕ := acquisitionIsqrtDigits (acquisitionIsqrtAlign (2 ^ 62) value) value 0

def highComputeAbs (value : ℤ) : U32 := if value.natAbs > 2 ^ 32 - 1 then 0xFFFFFFFF else BitVec.ofNat 32 value.natAbs

def highComputeWindowBasicValid (window : HighComputeWindow) : Bool :=
  if window.subjectNodeId = 0 ∨ window.subjectProducerId = 0 ∨ window.signalId = 0 ∨ window.epoch = 0 ∨
      window.samples.length < 2 ∨ window.samples.length > highComputeMaxSamples then false
  else if window.baselineMilli.toInt < -highComputeNormalizedLimitMilli ∨
      window.baselineMilli.toInt > highComputeNormalizedLimitMilli then false
  else true

def highComputeConfigure (node : HighComputeNode) (self : MultinodeNode) (policy : HighComputePolicy) :
    HighComputeResult × HighComputeNode :=
  if multinodeValidateNode self ≠ .ok then (.invalidNode, node)
  else if self.role ≠ roleHighComputeProcessing ∨ self.authorityClass ≠ authorityObserve ∨
      self.capabilities &&& capSignalProcessing = 0 ∨ self.capabilities &&& capActuationGate ≠ 0 then
    (.invalidNode, node)
  else if policy.minimumQuality = 0 ∨ policy.minimumQuality > highComputeMaxQuality ∨
      policy.driftThresholdMilli = 0 ∨ (policy.driftThresholdMilli.toNat : ℤ) > highComputeNormalizedLimitMilli ∨
      policy.minimumCorrelationMilli.toInt < -highComputeCorrelationScale ∨
      policy.minimumCorrelationMilli.toInt > highComputeCorrelationScale then (.invalidPolicy, node)
  else (.ok, { highComputeInit with self, policy, initialized := 1 })

/-- The checks of one sample, the one before it given from the second on. -/
def highComputeSampleResult (policy : HighComputePolicy) (previous : Option HighComputeSample)
    (sample : HighComputeSample) : HighComputeResult :=
  if sample.sequence = 0 ∨ sample.timestampUs = 0 then .invalidWindow
  else if sample.normalizedMilli.toInt < -highComputeNormalizedLimitMilli ∨
      sample.normalizedMilli.toInt > highComputeNormalizedLimitMilli then .outOfRange
  else if sample.saturated ≠ 0 then .saturated
  else if sample.quality = 0 ∨ sample.quality > highComputeMaxQuality ∨ sample.quality < policy.minimumQuality then
    .quality
  else
    match previous with
    | none => .ok
    | some previous =>
      if sample.sequence ≤ previous.sequence then .sequenceRegression
      else if sample.timestampUs ≤ previous.timestampUs then .timestampRegression
      else .ok

def highComputeSamplesResult (policy : HighComputePolicy) (previous : Option HighComputeSample) :
    List HighComputeSample → HighComputeResult
  | [] => .ok
  | sample :: samples =>
    match highComputeSampleResult policy previous sample with
    | .ok => highComputeSamplesResult policy (some sample) samples
    | result => result

structure HighComputeTotals where
  sum : ℤ
  sumSquare : ℕ
  minimum : U32
  maximum : U32
  minimumQuality : U8
  deriving DecidableEq, Repr

def highComputeAccumulate (totals : HighComputeTotals) (sample : HighComputeSample) : Watched HighComputeTotals := do
  let value := sample.normalizedMilli.toInt
  let sum ← signed 64 (totals.sum + value)
  let square ← signed 64 (value * value)
  let square ← unsigned 64 square
  let sumSquare ← unsigned 64 (totals.sumSquare + square : ℕ)
  pure
    { sum
      sumSquare
      minimum := if value < totals.minimum.toInt then sample.normalizedMilli else totals.minimum
      maximum := if value > totals.maximum.toInt then sample.normalizedMilli else totals.maximum
      minimumQuality := if sample.quality < totals.minimumQuality then sample.quality else totals.minimumQuality }

def zeroHighComputeAnalysis : HighComputeAnalysis := ⟨0, 0, 0, 0, 0, 0, 0, 0, 0, 0, 0, 0, 0, 0, 0, 0, 0, 0⟩

def HighComputeNode.rejectWindow (node : HighComputeNode) : HighComputeNode :=
  { node with rejectedWindows := node.rejectedWindows + 1 }

def highComputeAnalyze (node : HighComputeNode) (window : HighComputeWindow) :
    Watched (HighComputeResult × HighComputeNode × HighComputeAnalysis) :=
  if node.initialized ≠ 1 then pure (.invalidNode, node, zeroHighComputeAnalysis)
  else if !highComputeWindowBasicValid window then pure (.invalidWindow, node.rejectWindow, zeroHighComputeAnalysis)
  else
    match highComputeSamplesResult node.policy none window.samples with
    | .ok => do
      let first := window.samples.headD ⟨0, 0, 0, 0, 0⟩
      let last := window.samples.getLastD ⟨0, 0, 0, 0, 0⟩
      let totals ← window.samples.foldlM highComputeAccumulate
        ⟨0, 0, first.normalizedMilli, first.normalizedMilli, first.quality⟩
      let mean ← signed 32 (totals.sum.tdiv window.samples.length)
      let peakToPeak ← unsigned 32 (totals.maximum.toInt - totals.minimum.toInt)
      let drift := highComputeAbs (mean - window.baselineMilli.toInt)
      pure (.ok, { node with acceptedWindows := node.acceptedWindows + 1 },
        { subjectNodeId := window.subjectNodeId
          subjectProducerId := window.subjectProducerId
          signalId := window.signalId
          epoch := window.epoch
          firstSequence := first.sequence
          lastSequence := last.sequence
          firstTimestampUs := first.timestampUs
          lastTimestampUs := last.timestampUs
          sampleCount := window.samples.length
          meanMilli := BitVec.ofInt 32 mean
          minimumMilli := totals.minimum
          maximumMilli := totals.maximum
          peakToPeakMilli := BitVec.ofNat 32 peakToPeak
          meanSquareMilli2 := totals.sumSquare / window.samples.length
          driftMilli := drift
          minimumQuality := totals.minimumQuality
          driftDetected := if drift ≥ node.policy.driftThresholdMilli then 1 else 0
          actuationAuthorized := highComputeAuthorityNone })
    | result => pure (result, node.rejectWindow, zeroHighComputeAnalysis)

def highComputeCentered (sample count sum : ℤ) : Watched ℤ := do
  let scaled ← signed 64 (sample * count)
  signed 64 (scaled - sum)

structure HighComputeMoments where
  dot : ℤ
  leftSquare : ℕ
  rightSquare : ℕ
  deriving DecidableEq, Repr

def highComputeMoments (count leftSum rightSum : ℤ) (moments : HighComputeMoments) (samples : ℤ × ℤ) :
    Watched HighComputeMoments := do
  let left ← highComputeCentered samples.1 count leftSum
  let right ← highComputeCentered samples.2 count rightSum
  let product ← signed 64 (left * right)
  let dot ← signed 64 (moments.dot + product)
  let leftProduct ← signed 64 (left * left)
  let leftProduct ← unsigned 64 leftProduct
  let leftSquare ← unsigned 64 (moments.leftSquare + leftProduct : ℕ)
  let rightProduct ← signed 64 (right * right)
  let rightProduct ← unsigned 64 rightProduct
  let rightSquare ← unsigned 64 (moments.rightSquare + rightProduct : ℕ)
  pure ⟨dot, leftSquare, rightSquare⟩

/-- A division, which is exact where its divisor is not zero and its quotient is representable. -/
def highComputeDivide (dividend divisor : ℤ) : Watched ℤ := do
  let quotient ← signed 64 (dividend.tdiv divisor)
  ⟨quotient, decide (divisor ≠ 0)⟩

def highComputeClamp (correlation : ℤ) : ℤ :=
  if correlation > highComputeCorrelationScale then highComputeCorrelationScale
  else if correlation < -highComputeCorrelationScale then -highComputeCorrelationScale
  else correlation

def HighComputeWindow.values (window : HighComputeWindow) : List ℤ :=
  window.samples.map fun sample => sample.normalizedMilli.toInt

def highComputeSum (values : List ℤ) : Watched ℤ := values.foldlM (fun sum value => signed 64 (sum + value)) 0

def highComputeLoops (left right : HighComputeWindow) : Watched HighComputeMoments := do
  let leftSum ← highComputeSum left.values
  let rightSum ← highComputeSum right.values
  (left.values.zip right.values).foldlM (highComputeMoments left.samples.length leftSum rightSum) ⟨0, 0, 0⟩

def zeroHighComputeFusion : HighComputeFusion := ⟨0, 0, 0, 0⟩

def highComputeAdmits (node : HighComputeNode) (left right : HighComputeWindow)
    (leftAnalysis rightAnalysis : HighComputeAnalysis) : HighComputeResult :=
  if node.initialized ≠ 1 then .invalidNode
  else if !highComputeWindowBasicValid left ∨ !highComputeWindowBasicValid right ∨
      left.samples.length ≠ right.samples.length ∨ leftAnalysis.sampleCount ≠ left.samples.length ∨
      rightAnalysis.sampleCount ≠ right.samples.length ∨
      leftAnalysis.actuationAuthorized ≠ highComputeAuthorityNone ∨
      rightAnalysis.actuationAuthorized ≠ highComputeAuthorityNone then .invalidWindow
  else .ok

def highComputeFuse (node : HighComputeNode) (leftAnalysis rightAnalysis : HighComputeAnalysis)
    (moments : HighComputeMoments) : Watched (HighComputeResult × HighComputeFusion) := do
  let leftRoot ← highComputeIsqrt moments.leftSquare
  let rightRoot ← highComputeIsqrt moments.rightSquare
  let denominator ← unsigned 64 (leftRoot * rightRoot : ℕ)
  if denominator = 0 then pure (.correlationUndefined, zeroHighComputeFusion)
  else do
    let scaledDot ← signed 64 (moments.dot * highComputeCorrelationScale)
    let divisor ← signed 64 denominator
    let quotient ← highComputeDivide scaledDot divisor
    let correlation ← signed 32 (highComputeClamp quotient)
    let fusedSum ← signed 64 (leftAnalysis.meanMilli.toInt + rightAnalysis.meanMilli.toInt)
    let fusedMean ← signed 32 (fusedSum.tdiv 2)
    pure (.ok,
      { correlationMilli := correlation
        fusedMeanMilli := fusedMean
        contradictionDetected := if correlation < node.policy.minimumCorrelationMilli.toInt then 1 else 0
        actuationAuthorized := highComputeAuthorityNone })

def highComputeCorrelateAndFuse (node : HighComputeNode) (left right : HighComputeWindow)
    (leftAnalysis rightAnalysis : HighComputeAnalysis) : Watched (HighComputeResult × HighComputeFusion) :=
  match highComputeAdmits node left right leftAnalysis rightAnalysis with
  | .ok => do
    let moments ← highComputeLoops left right
    if moments.leftSquare = 0 ∨ moments.rightSquare = 0 then pure (.correlationUndefined, zeroHighComputeFusion)
    else highComputeFuse node leftAnalysis rightAnalysis moments
  | result => pure (result, zeroHighComputeFusion)

end Guardian.MultiNode
