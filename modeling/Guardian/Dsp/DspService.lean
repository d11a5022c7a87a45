import Guardian.Protocol.Frame

namespace Guardian.Dsp

open Word Guardian.Protocol

def dspSchemaVersion : U8 := 0x01
def dspPayloadSize : Nat := 32

structure DspFeatures where
  blockSequence : U32
  sampleRateHz : U16
  rmsMg : U16
  peakMg : U16
  crestFactorMilli : U16
  dominantFrequencyCentiHz : U32
  dominantPeakMg : U16
  spectralCentroidCentiHz : U32
  lowBandPermille : U16
  midBandPermille : U16
  highBandPermille : U16
  acquisitionStatusFlags : U16
  dspStatusFlags : U16
  deriving DecidableEq, Repr

def zeroDspFeatures : DspFeatures := ⟨0, 0, 0, 0, 0, 0, 0, 0, 0, 0, 0, 0, 0⟩

def dspMakeError (request : Frame) (error : ErrorCode) : Frame := makeError request error

def dspEncodePayload (features : DspFeatures) (capacity : Nat) : Except ProtocolResult (List U8) :=
  if capacity < dspPayloadSize then .error .errorOutputTooSmall
  else
    .ok ([dspSchemaVersion, 0] ++ putU32Be features.blockSequence ++ putU16Be features.sampleRateHz ++
      putU16Be features.rmsMg ++ putU16Be features.peakMg ++ putU16Be features.crestFactorMilli ++
      putU32Be features.dominantFrequencyCentiHz ++ putU16Be features.dominantPeakMg ++
      putU32Be features.spectralCentroidCentiHz ++ putU16Be features.lowBandPermille ++
      putU16Be features.midBandPermille ++ putU16Be features.highBandPermille ++
      putU16Be features.acquisitionStatusFlags)

def dspHandleRequest (features : DspFeatures) (featuresValid : U8) (request : Frame) : Except ProtocolResult Frame :=
  if request.command ≠ commandGetDspFeatures then .ok (dspMakeError request .unknownCommand)
  else if request.messageType ≠ .request then .ok (dspMakeError request .malformedFrame)
  else if request.payload.length ≠ 0 then .ok (dspMakeError request .invalidPayload)
  else if featuresValid = 0 then .ok (dspMakeError request .busy)
  else (dspEncodePayload features maxPayloadSize).map (request.answer .response)

theorem dspHandleRequest_answers (features : DspFeatures) (featuresValid : U8) (request : Frame) :
    ∃ answer, dspHandleRequest features featuresValid request = .ok answer ∧ answer.Answers request := by
  unfold dspHandleRequest
  split_ifs
  · exact ⟨_, rfl, makeError_answers _ _⟩
  · exact ⟨_, rfl, makeError_answers _ _⟩
  · exact ⟨_, rfl, makeError_answers _ _⟩
  · exact ⟨_, rfl, makeError_answers _ _⟩
  · exact ⟨_, rfl, Frame.answer_answers _ (by simp [maxPayloadSize])⟩

end Guardian.Dsp
