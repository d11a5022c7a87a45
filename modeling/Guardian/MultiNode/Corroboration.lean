import Guardian.Lib.Word

namespace Guardian.MultiNode

open Word

def corroborationCapacity : Nat := 5

inductive GcState
  | unconfigured
  | insufficient
  | corroborated
  | conflictLatched
  | rejoinRequired
  deriving DecidableEq, Repr

inductive GcResult
  | ok
  | rejected
  | clockFailure
  | epochChange
  | conflict
  | latched
  deriving DecidableEq, Repr

structure GcPeer where
  id : U32
  role : U8
  deriving DecidableEq, Repr

/-- `peers` are the first `count` entries of the peer table. -/
structure GcConfig where
  generation : U32
  policy : U32
  profile : U32
  round : U32
  maxAge : U64
  threshold : U8
  requiredRoles : U8
  peers : List GcPeer
  deriving DecidableEq, Repr

structure GcReport where
  id : U32
  generation : U32
  policy : U32
  profile : U32
  round : U32
  epoch : U64
  sequence : U64
  authenticated : U8
  persistentFreshness : U8
  sameRoundAck : U8
  claimsActuation : U8
  commitment : Bytes 32
  deriving DecidableEq

structure GcSlot where
  report : GcReport
  receivedAt : U64
  seen : U8
  available : U8
  deriving DecidableEq

structure GcContext where
  state : GcState
  config : GcConfig
  slots : List GcSlot
  lastClock : U64
  clockSeen : U8
  conflictPresent : U8
  conflictingReport : GcReport
  deriving DecidableEq

structure GcAssessment where
  state : GcState
  eligibleForLocalReview : U8
  freshCount : U8
  roleCoverage : U8
  config : GcConfig
  sources : List GcSlot
  conflictPresent : U8
  conflictingReport : GcReport
  deriving DecidableEq

def zeroConfig : GcConfig := ⟨0, 0, 0, 0, 0, 0, 0, []⟩

def zeroReport : GcReport := ⟨0, 0, 0, 0, 0, 0, 0, 0, 0, 0, 0, ⟨List.replicate 32 0, rfl⟩⟩

def zeroSlots : List GcSlot := List.replicate corroborationCapacity ⟨zeroReport, 0, 0, 0⟩

def zeroAssessment : GcAssessment := ⟨.unconfigured, 0, 0, 0, zeroConfig, zeroSlots, 0, zeroReport⟩

def GcContext.peerIndex (context : GcContext) (id : U32) : Option Nat := context.config.peers.findIdx? (·.id = id)

def gcInit : GcContext := ⟨.unconfigured, zeroConfig, zeroSlots, 0, 0, 0, zeroReport⟩

def GcPeer.roleBit (peer : GcPeer) : U8 := 1 <<< peer.role.toNat

def gcConfigure (context : GcContext) (config : GcConfig) : GcResult × GcContext :=
  if context.state ≠ .unconfigured then (.rejected, context)
  else if config.generation = 0 ∨ config.policy = 0 ∨ config.profile = 0 ∨ config.round = 0 ∨ config.maxAge = 0 ∨
      config.peers.length = 0 ∨ config.peers.length > corroborationCapacity ∨ config.threshold = 0 ∨
      config.threshold.toNat > config.peers.length ∨ config.requiredRoles = 0 ∨
      config.requiredRoles &&& 0xE0 ≠ 0 then (.rejected, context)
  else if config.peers.any fun peer => peer.id = 0 ∨ peer.role ≥ 5 then (.rejected, context)
  else if ¬ (config.peers.map GcPeer.id).Nodup then (.rejected, context)
  else
    let roles := config.peers.foldl (fun roles peer => roles ||| peer.roleBit) 0
    if roles &&& config.requiredRoles ≠ config.requiredRoles then (.rejected, context)
    else (.ok, { context with config, state := .insufficient })

def gcRequireRejoin (context : GcContext) : GcContext :=
  if context.state ≠ .unconfigured ∧ context.state ≠ .conflictLatched then { context with state := .rejoinRequired }
  else context

def gcClockCheck (context : GcContext) (now : U64) (valid : U8) : GcResult × GcContext :=
  if valid ≠ 1 ∨ (context.clockSeen ≠ 0 ∧ now < context.lastClock) then (.clockFailure, gcRequireRejoin context)
  else (.ok, { context with lastClock := now, clockSeen := 1 })

/-- The slot counts at `now`. -/
def GcSlot.live (slot : GcSlot) (maxAge now : U64) : Bool :=
  slot.seen ≠ 0 ∧ slot.available ≠ 0 ∧ slot.report.sameRoundAck = 1 ∧ slot.receivedAt ≤ now ∧
    now - slot.receivedAt ≤ maxAge

/-- The fresh count and the role coverage at `now`. -/
def GcContext.coverage (context : GcContext) (now : U64) : U8 × U8 :=
  (context.config.peers.zip context.slots).foldl (fun counted entry =>
    if entry.2.live context.config.maxAge now then (counted.1 + 1, counted.2 ||| entry.1.roleBit) else counted) (0, 0)

/-- The evidence at `now` meets the threshold and covers the required roles. -/
def GcContext.meets (context : GcContext) (now : U64) : Bool :=
  context.config.threshold ≤ (context.coverage now).1 ∧
    (context.coverage now).2 &&& context.config.requiredRoles = context.config.requiredRoles

def gcEvaluate (context : GcContext) (now : U64) : GcContext :=
  if context.state = .insufficient ∨ context.state = .corroborated then
    { context with state := if context.meets now then .corroborated else .insufficient }
  else context

def GcConfig.admits (config : GcConfig) (report : GcReport) : Bool :=
  report.generation = config.generation ∧ report.policy = config.policy ∧ report.profile = config.profile ∧
    report.round = config.round ∧ report.epoch ≠ 0 ∧ report.sequence ≠ 0 ∧ report.authenticated = 1 ∧
    report.persistentFreshness = 1 ∧ ¬ report.sameRoundAck > 1 ∧ ¬ report.claimsActuation > 1

def GcContext.disagrees (context : GcContext) (report : GcReport) : Bool :=
  (context.slots.take context.config.peers.length).any fun slot =>
    slot.seen ≠ 0 ∧ report.commitment ≠ slot.report.commitment

def zeroSlot : GcSlot := ⟨zeroReport, 0, 0, 0⟩

def zeroPeer : GcPeer := ⟨0, 0⟩

def GcContext.latchConflict (context : GcContext) (report : GcReport) : GcContext :=
  { context with state := .conflictLatched, conflictingReport := report, conflictPresent := 1 }

def gcSubmit (context : GcContext) (report : GcReport) (now : U64) (valid : U8) : GcResult × GcContext :=
  if context.state = .unconfigured then (.rejected, context)
  else match context.peerIndex report.id with
    | none => (.rejected, context)
    | some index =>
      let slot := context.slots.getD index zeroSlot
      if !context.config.admits report then (.rejected, context)
      else if slot.seen ≠ 0 ∧ report.epoch = slot.report.epoch ∧ report.sequence ≤ slot.report.sequence then
        (.rejected, context)
      else
        let checked := gcClockCheck context now valid
        if checked.1 ≠ .ok then (.clockFailure, checked.2)
        else if checked.2.state = .conflictLatched ∨ checked.2.state = .rejoinRequired then (.latched, checked.2)
        else if slot.seen ≠ 0 ∧ report.epoch ≠ slot.report.epoch then (.epochChange, gcRequireRejoin checked.2)
        else if report.claimsActuation = 1 ∧ (context.config.peers.getD index zeroPeer).role ≠ 0 then
          (.conflict, checked.2.latchConflict report)
        else if checked.2.disagrees report then (.conflict, checked.2.latchConflict report)
        else (.ok, gcEvaluate { checked.2 with slots := checked.2.slots.set index ⟨report, now, 1, 1⟩ } now)

def gcQuery (context : GcContext) (now : U64) (valid : U8) : GcResult × GcAssessment × GcContext :=
  if context.state = .unconfigured then (.rejected, zeroAssessment, context)
  else
    let checked := gcClockCheck context now valid
    let evaluated := gcEvaluate checked.2 now
    (checked.1,
      { state := evaluated.state
        eligibleForLocalReview := if checked.1 = .ok ∧ evaluated.state = .corroborated then 1 else 0
        freshCount := (checked.2.coverage now).1
        roleCoverage := (checked.2.coverage now).2
        config := evaluated.config
        sources := evaluated.slots
        conflictPresent := evaluated.conflictPresent
        conflictingReport := evaluated.conflictingReport },
      evaluated)

def gcLinkLoss (context : GcContext) (id : U32) (now : U64) (valid : U8) : GcResult × GcContext :=
  if context.state = .unconfigured then (.rejected, context)
  else match context.peerIndex id with
    | none => (.rejected, context)
    | some index =>
      let checked := gcClockCheck context now valid
      if checked.1 ≠ .ok then (.clockFailure, checked.2)
      else
        let lost := { checked.2.slots.getD index zeroSlot with available := 0 }
        (.ok, gcEvaluate { checked.2 with slots := checked.2.slots.set index lost } now)

end Guardian.MultiNode
