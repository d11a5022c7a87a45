import Guardian.Lib.Word

namespace Guardian.MultiNode

open Word

def capObservation : U32 := 1 <<< 0
def capSupervision : U32 := 1 <<< 1
def capEvidenceWitness : U32 := 1 <<< 2
def capRecoveryAssist : U32 := 1 <<< 3
def capSignalProcessing : U32 := 1 <<< 4
def capPolicyReference : U32 := 1 <<< 5
def capActuationGate : U32 := 1 <<< 6
def capSignatureVerify : U32 := 1 <<< 7
def capSensorAcquisition : U32 := 1 <<< 8
def capAll : U32 := 0x000001FF

def roleInvalid : U8 := 0
def roleF401ReferenceControl : U8 := 1
def roleMcxn947SupervisoryPeer : U8 := 2
def roleStMeasurementReference : U8 := 3
def roleSecurityWitness : U8 := 4
def roleHighComputeProcessing : U8 := 5

def authorityNone : U8 := 0
def authorityObserve : U8 := 1
def authorityWitness : U8 := 2
def authorityReferenceControl : U8 := 3

inductive MultinodeResult
  | ok
  | invalidIdentity
  | invalidRole
  | invalidAuthorityClass
  | invalidCapabilities
  | authorityEscalation
  deriving DecidableEq, Repr

/-- `role` and `authorityClass` are the stored enumeration values, which need not be published ones. -/
structure MultinodeNode where
  nodeId : U32
  producerId : U32
  keyId : U32
  role : U8
  authorityClass : U8
  capabilities : U32
  deriving DecidableEq, Repr

def multinodeRequiredCapabilities (role : U8) : U32 :=
  if role = roleF401ReferenceControl then capObservation ||| capPolicyReference ||| capActuationGate
  else if role = roleMcxn947SupervisoryPeer then
    capObservation ||| capSupervision ||| capEvidenceWitness ||| capRecoveryAssist ||| capSignatureVerify
  else if role = roleStMeasurementReference then capObservation ||| capSensorAcquisition
  else if role = roleSecurityWitness then capObservation ||| capEvidenceWitness ||| capSignatureVerify
  else if role = roleHighComputeProcessing then capObservation ||| capSignalProcessing
  else 0

def multinodeExpectedAuthority (role : U8) : U8 :=
  if role = roleF401ReferenceControl then authorityReferenceControl
  else if role = roleMcxn947SupervisoryPeer ∨ role = roleStMeasurementReference ∨ role = roleHighComputeProcessing then
    authorityObserve
  else if role = roleSecurityWitness then authorityWitness
  else authorityNone

def multinodeValidateNode (node : MultinodeNode) : MultinodeResult :=
  if node.nodeId = 0 ∨ node.producerId = 0 ∨ node.keyId = 0 then .invalidIdentity
  else if node.role ≤ roleInvalid ∨ node.role > roleHighComputeProcessing then .invalidRole
  else if node.capabilities = 0 ∨ node.capabilities &&& ~~~capAll ≠ 0 then .invalidCapabilities
  else if multinodeRequiredCapabilities node.role = 0 then .invalidRole
  else if node.authorityClass ≠ multinodeExpectedAuthority node.role then .invalidAuthorityClass
  else if node.capabilities &&& multinodeRequiredCapabilities node.role ≠ multinodeRequiredCapabilities node.role then
    .invalidCapabilities
  else if node.capabilities &&& capActuationGate ≠ 0 ∧
      (node.role ≠ roleF401ReferenceControl ∨ node.authorityClass ≠ authorityReferenceControl) then
    .authorityEscalation
  else if node.role ≠ roleF401ReferenceControl ∧ node.authorityClass = authorityReferenceControl then
    .authorityEscalation
  else .ok

/-- The identity under which a node's evidence is tracked: node, producer and key. -/
abbrev ProducerKey := U32 × U32 × U32

def MultinodeNode.key (node : MultinodeNode) : ProducerKey := (node.nodeId, node.producerId, node.keyId)

end Guardian.MultiNode
