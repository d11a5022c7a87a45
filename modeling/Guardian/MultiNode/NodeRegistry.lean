import Mathlib.Data.List.Nodup
import Mathlib.Data.List.Pairwise
import Mathlib.Data.List.Perm.Subperm
import Guardian.Lib.Run
import Guardian.MultiNode.Multinode

namespace Guardian.MultiNode

open Word

def multinodeMaxNodes : Nat := 5

/-- The results of the registry. `validation` carries what `multinodeValidateNode` answered. -/
inductive RegistryResult
  | ok
  | nullArgument
  | validation (result : MultinodeResult)
  | registryFull
  | duplicateNodeId
  | duplicateProducerId
  | duplicateRole
  | topologyIncomplete
  | notReferenceControl
  deriving DecidableEq, Repr

structure MultinodeRegistry where
  nodes : List MultinodeNode
  fits : nodes.length ≤ multinodeMaxNodes

def multinodeRegistryInit : MultinodeRegistry := ⟨[], Nat.zero_le _⟩

def duplicateOf (node : MultinodeNode) : List MultinodeNode → RegistryResult
  | [] => .ok
  | registered :: rest =>
    if registered.nodeId = node.nodeId then .duplicateNodeId
    else if registered.producerId = node.producerId then .duplicateProducerId
    else if registered.role = node.role then .duplicateRole
    else duplicateOf node rest

/-- `guardian_multinode_register_node`; `none` is a null pointer. -/
def multinodeRegisterNode (registry : MultinodeRegistry) (node : Option MultinodeNode) :
    MultinodeRegistry × RegistryResult :=
  match node with
  | none => (registry, .nullArgument)
  | some node =>
    if multinodeValidateNode node ≠ .ok then (registry, .validation (multinodeValidateNode node))
    else if room : registry.nodes.length < multinodeMaxNodes then
      if duplicateOf node registry.nodes ≠ .ok then (registry, duplicateOf node registry.nodes)
      else (⟨registry.nodes ++ [node], by rw [List.length_append]; exact room⟩, .ok)
    else (registry, .registryFull)

/-- The roles of the nodes as bits, each node being validated again. -/
def rolesSeen : List MultinodeNode → U32 → Except MultinodeResult U32
  | [], seen => .ok seen
  | node :: rest, seen =>
    if multinodeValidateNode node ≠ .ok then .error (multinodeValidateNode node)
    else rolesSeen rest (seen ||| 1 <<< node.role.toNat)

def requiredRoles : List U8 :=
  [roleF401ReferenceControl, roleMcxn947SupervisoryPeer, roleStMeasurementReference, roleSecurityWitness,
    roleHighComputeProcessing]

def expectedRoles : U32 :=
  1 <<< roleF401ReferenceControl.toNat ||| 1 <<< roleMcxn947SupervisoryPeer.toNat |||
    1 <<< roleStMeasurementReference.toNat ||| 1 <<< roleSecurityWitness.toNat |||
    1 <<< roleHighComputeProcessing.toNat

/-- `guardian_multinode_validate_complete_topology`. -/
def multinodeValidateCompleteTopology (registry : MultinodeRegistry) : RegistryResult :=
  if registry.nodes.length ≠ multinodeMaxNodes then .topologyIncomplete
  else match rolesSeen registry.nodes 0 with
  | .error result => .validation result
  | .ok seen => if seen ≠ expectedRoles then .topologyIncomplete else .ok

/-- `guardian_multinode_can_request_actuation`: the result and what is written to `allowed`. -/
def multinodeCanRequestActuation (registry : MultinodeRegistry) (requestingNodeId : U32) : RegistryResult × Bool :=
  if requestingNodeId = 0 then (.validation .invalidIdentity, false)
  else match registry.nodes.find? (·.nodeId = requestingNodeId) with
  | none => (.validation .invalidIdentity, false)
  | some node =>
    if multinodeValidateNode node ≠ .ok then (.validation (multinodeValidateNode node), false)
    else if node.role ≠ roleF401ReferenceControl ∨ node.authorityClass ≠ authorityReferenceControl ∨
        node.capabilities &&& capActuationGate = 0 then (.notReferenceControl, false)
    else (.ok, true)

/-- A node that passed validation has a required role, and its identities are set. -/
structure MultinodeNode.Valid (node : MultinodeNode) : Prop where
  accepted : multinodeValidateNode node = .ok

theorem MultinodeNode.Valid.nodeId {node : MultinodeNode} (valid : node.Valid) : node.nodeId ≠ 0 := by
  have accepted := valid.accepted
  intro zero
  rw [multinodeValidateNode, if_pos (.inl zero)] at accepted
  cases accepted

theorem MultinodeNode.Valid.role {node : MultinodeNode} (valid : node.Valid) : node.role ∈ requiredRoles := by
  have accepted := valid.accepted
  unfold multinodeValidateNode at accepted
  split_ifs at accepted with identity range
  have low : 0 < node.role.toNat := by
    by_contra zero
    exact range (.inl (by rw [BitVec.le_def]; omega))
  have high : node.role.toNat ≤ 5 := by
    by_contra beyond
    exact range (.inr (by rw [gt_iff_lt, BitVec.lt_def]; exact Nat.lt_of_not_le beyond))
  have one : ∀ role : U8, 0 < role.toNat → role.toNat ≤ 5 → role ∈ requiredRoles := by decide
  exact one node.role low high

theorem MultinodeNode.Valid.reference {node : MultinodeNode} (valid : node.Valid)
    (reference : node.role = roleF401ReferenceControl) :
    node.authorityClass = authorityReferenceControl ∧ node.capabilities &&& capActuationGate ≠ 0 := by
  have accepted := valid.accepted
  unfold multinodeValidateNode at accepted
  split_ifs at accepted with identity range some none authority required escalation reverse
  rw [reference] at authority required
  refine ⟨not_not.mp authority, fun missing => ?_⟩
  have gate : multinodeRequiredCapabilities roleF401ReferenceControl &&& capActuationGate = capActuationGate := by
    decide
  rw [← not_not.mp required, BitVec.and_assoc, BitVec.and_comm (multinodeRequiredCapabilities _), ← BitVec.and_assoc,
    missing] at gate
  exact absurd gate (by decide)

structure RegistryInvariant (registry : MultinodeRegistry) : Prop where
  valid : ∀ node ∈ registry.nodes, node.Valid
  nodeIds : registry.nodes.Pairwise fun one other => one.nodeId ≠ other.nodeId
  producerIds : registry.nodes.Pairwise fun one other => one.producerId ≠ other.producerId
  roles : registry.nodes.Pairwise fun one other => one.role ≠ other.role

theorem duplicateOf_ok {node : MultinodeNode} {nodes : List MultinodeNode} (distinct : duplicateOf node nodes = .ok) :
    ∀ registered ∈ nodes, registered.nodeId ≠ node.nodeId ∧ registered.producerId ≠ node.producerId ∧
      registered.role ≠ node.role := by
  induction nodes with
  | nil => simp
  | cons registered rest ih =>
    unfold duplicateOf at distinct
    split_ifs at distinct with sameId sameProducer sameRole
    intro other member
    rcases List.mem_cons.mp member with rfl | inside
    · exact ⟨sameId, sameProducer, sameRole⟩
    · exact ih distinct other inside

theorem RegistryInvariant.init : RegistryInvariant multinodeRegistryInit :=
  ⟨nofun, .nil, .nil, .nil⟩

theorem pairwise_snoc {α : Type} {related : α → α → Prop} {list : List α} {last : α} (pairwise : list.Pairwise related)
    (all : ∀ item ∈ list, related item last) : (list ++ [last]).Pairwise related := by
  rw [List.pairwise_append]
  refine ⟨pairwise, List.pairwise_singleton _ _, fun item member other single => ?_⟩
  rw [List.mem_singleton.mp single]
  exact all item member

theorem RegistryInvariant.register {registry : MultinodeRegistry} (invariant : RegistryInvariant registry)
    (node : Option MultinodeNode) : RegistryInvariant (multinodeRegisterNode registry node).1 := by
  cases node with
  | none => exact invariant
  | some node =>
    unfold multinodeRegisterNode
    dsimp only
    split_ifs with refused room duplicate
    · exact invariant
    · exact invariant
    · have distinct := duplicateOf_ok (not_not.mp duplicate)
      refine ⟨fun other member => ?_, pairwise_snoc invariant.nodeIds fun other inside => (distinct other inside).1,
        pairwise_snoc invariant.producerIds fun other inside => (distinct other inside).2.1,
        pairwise_snoc invariant.roles fun other inside => (distinct other inside).2.2⟩
      rcases List.mem_append.mp member with old | new
      · exact invariant.valid other old
      · rw [List.mem_singleton.mp new]
        exact ⟨not_not.mp refused⟩
    · exact invariant

theorem rolesSeen_valid {nodes : List MultinodeNode} (valid : ∀ node ∈ nodes, node.Valid) (seen : U32) :
    rolesSeen nodes seen = .ok ((nodes.map (·.role)).foldl (fun seen role => seen ||| 1 <<< role.toNat) seen) := by
  induction nodes generalizing seen with
  | nil => rfl
  | cons node rest ih =>
    rw [rolesSeen, if_neg (not_not.mpr (valid node (List.mem_cons_self ..)).accepted), List.map_cons, List.foldl_cons]
    exact ih (fun other member => valid other (List.mem_cons_of_mem _ member)) _

theorem RegistryInvariant.full {registry : MultinodeRegistry} (invariant : RegistryInvariant registry)
    (full : registry.nodes.length = multinodeMaxNodes) : (registry.nodes.map (·.role)).Perm requiredRoles := by
  have nodup : (registry.nodes.map (·.role)).Nodup := List.pairwise_map.mpr invariant.roles
  have inside : registry.nodes.map (·.role) ⊆ requiredRoles := by
    intro role member
    obtain ⟨node, present, rfl⟩ := List.mem_map.mp member
    exact (invariant.valid node present).role
  refine (nodup.subperm inside).perm_of_length_le ?_
  rw [List.length_map, full]
  exact Nat.le_refl _

theorem RegistryInvariant.topology {registry : MultinodeRegistry} (invariant : RegistryInvariant registry) :
    multinodeValidateCompleteTopology registry = .ok ↔
      ∀ role ∈ requiredRoles, ∃ node ∈ registry.nodes, node.role = role := by
  unfold multinodeValidateCompleteTopology
  constructor
  · intro complete role required
    split_ifs at complete with short
    have member := (invariant.full (not_not.mp short)).mem_iff.mpr required
    obtain ⟨node, present, rfl⟩ := List.mem_map.mp member
    exact ⟨node, present, rfl⟩
  · intro registered
    have covers : requiredRoles ⊆ registry.nodes.map (·.role) := by
      intro role required
      obtain ⟨node, present, rfl⟩ := registered role required
      exact List.mem_map_of_mem present
    have long := ((by decide : requiredRoles.Nodup).subperm covers).length_le
    rw [List.length_map] at long
    have full : registry.nodes.length = multinodeMaxNodes := Nat.le_antisymm registry.fits long
    have seen : (registry.nodes.map (·.role)).foldl (fun (seen : U32) role => seen ||| 1 <<< role.toNat) 0 =
        expectedRoles := by
      refine ((invariant.full full).foldl_eq' (fun one _ other _ seen => ?_) 0).trans rfl
      rw [BitVec.or_assoc, BitVec.or_assoc, BitVec.or_comm (1 <<< one.toNat)]
    rw [if_neg (not_not.mpr full), rolesSeen_valid invariant.valid, seen]
    rfl

theorem RegistryInvariant.actuation {registry : MultinodeRegistry} (invariant : RegistryInvariant registry)
    (requestingNodeId : U32) : (multinodeCanRequestActuation registry requestingNodeId).2 = true ↔
      ∃ node ∈ registry.nodes, node.nodeId = requestingNodeId ∧ node.role = roleF401ReferenceControl := by
  unfold multinodeCanRequestActuation
  constructor
  · intro allowed
    split_ifs at allowed with zero
    cases found : registry.nodes.find? (·.nodeId = requestingNodeId) with
    | none => simp [found] at allowed
    | some node =>
      have same : node.nodeId = requestingNodeId := by simpa using List.find?_some found
      refine ⟨node, List.mem_of_find?_eq_some found, same, ?_⟩
      simp only [found] at allowed
      split_ifs at allowed with refused other
      by_contra apart
      exact other (.inl apart)
  · rintro ⟨node, present, rfl, reference⟩
    have valid := invariant.valid node present
    obtain ⟨other, found⟩ : ∃ other, registry.nodes.find? (·.nodeId = node.nodeId) = some other := by
      rw [← Option.isSome_iff_exists, List.find?_isSome]
      exact ⟨node, present, by simp⟩
    have same : other.nodeId = node.nodeId := by simpa using List.find?_some found
    have equal : other = node := by
      by_contra apart
      have : Std.Symm fun one other : MultinodeNode => one.nodeId ≠ other.nodeId := ⟨fun _ _ differ => differ.symm⟩
      exact invariant.nodeIds.forall (List.mem_of_find?_eq_some found) present apart same
    subst equal
    obtain ⟨authority, gate⟩ := valid.reference reference
    rw [if_neg valid.nodeId, found]
    dsimp only
    rw [if_neg (not_not.mpr valid.accepted), if_neg]
    rintro (role | owner | missing)
    · exact role reference
    · exact owner authority
    · exact gate missing

def afterRegistrations (registrations : List (Option MultinodeNode)) : MultinodeRegistry :=
  Run.after (fun registry node => (multinodeRegisterNode registry node).1) registrations multinodeRegistryInit

theorem afterRegistrations_invariant (registrations : List (Option MultinodeNode)) :
    RegistryInvariant (afterRegistrations registrations) :=
  Run.after_invariant (fun _ node invariant => invariant.register node) RegistryInvariant.init registrations

/-- Every registry is of valid nodes with distinct keys, is complete when it has the five roles, and lets only the
safety node ask for actuation. -/
theorem registry_sound (registrations : List (Option MultinodeNode)) :
    RegistryInvariant (afterRegistrations registrations) ∧
    (multinodeValidateCompleteTopology (afterRegistrations registrations) = .ok ↔
      ∀ role ∈ requiredRoles, ∃ node ∈ (afterRegistrations registrations).nodes, node.role = role) ∧
    (∀ nodeId, (multinodeCanRequestActuation (afterRegistrations registrations) nodeId).2 = true ↔
      ∃ node ∈ (afterRegistrations registrations).nodes,
        node.nodeId = nodeId ∧ node.role = roleF401ReferenceControl) ∧
    ∀ nodeId other, (multinodeCanRequestActuation (afterRegistrations registrations) nodeId).2 = true →
      (multinodeCanRequestActuation (afterRegistrations registrations) other).2 = true → nodeId = other := by
  have invariant := afterRegistrations_invariant registrations
  refine ⟨invariant, invariant.topology, invariant.actuation, fun nodeId other allowed allowedOther => ?_⟩
  obtain ⟨one, present, rfl, role⟩ := (invariant.actuation nodeId).mp allowed
  obtain ⟨two, presentOther, rfl, roleOther⟩ := (invariant.actuation other).mp allowedOther
  by_contra apart
  have differ : one ≠ two := fun same => apart (congrArg MultinodeNode.nodeId same)
  have : Std.Symm fun one other : MultinodeNode => one.role ≠ other.role := ⟨fun _ _ unlike => unlike.symm⟩
  exact invariant.roles.forall present presentOther differ (role.trans roleOther.symm)

end Guardian.MultiNode
