import Mathlib.Algebra.BigOperators.Group.List.Basic
import Guardian.Assurance.JsonValues

namespace Guardian.Assurance

open JsonText Raising

variable {ε : Type}

structure StructureRules (ε : Type) where
  maxNodes : ℕ
  maxDepth : ℕ
  maxMembers : ℕ
  maxItems : ℕ
  maxStringBytes : ℕ
  nodeError : ε
  depthError : ε
  memberError : ε
  itemError : ε
  stringError : ε
  /-- What is wrong with a value that is neither a string nor a container. -/
  leafError : Value → Option ε

def StructureRules.enter (rules : StructureRules ε) (depth nodes : ℕ) : Raises ε ℕ := do
  require (nodes + 1 ≤ rules.maxNodes) rules.nodeError
  require (depth ≤ rules.maxDepth) rules.depthError
  return nodes + 1

def StructureRules.boundedString (rules : StructureRules ε) (codes : PyString) : Raises ε Unit := do
  let encoded ← encodeUtf8 codes
  require (encoded.length ≤ rules.maxStringBytes) rules.stringError

mutual

def visitValue (rules : StructureRules ε) : Value → ℕ → ℕ → Raises ε ℕ
  | .str codes, depth, nodes => do
    let nodes ← rules.enter depth nodes
    rules.boundedString codes
    return nodes
  | .dict members, depth, nodes => do
    let nodes ← rules.enter depth nodes
    require (members.length ≤ rules.maxMembers) rules.memberError
    visitMembers rules members (depth + 1) nodes
  | .list items, depth, nodes => do
    let nodes ← rules.enter depth nodes
    require (items.length ≤ rules.maxItems) rules.itemError
    visitItems rules items (depth + 1) nodes
  | leaf, depth, nodes => do
    let nodes ← rules.enter depth nodes
    match rules.leafError leaf with
    | some error => raise error
    | none => return nodes

def visitMembers (rules : StructureRules ε) : List (PyString × Value) → ℕ → ℕ → Raises ε ℕ
  | [], _, nodes => return nodes
  | (key, child) :: members, depth, nodes => do
    rules.boundedString key
    let nodes ← visitValue rules child depth nodes
    visitMembers rules members depth nodes

def visitItems (rules : StructureRules ε) : List Value → ℕ → ℕ → Raises ε ℕ
  | [], _, nodes => return nodes
  | child :: items, depth, nodes => do
    let nodes ← visitValue rules child depth nodes
    visitItems rules items depth nodes

end

inductive Visit
  | node (depth : ℕ)
  | leaf (value : Value)
  | string (codes : PyString)
  | members (count : ℕ)
  | items (count : ℕ)

mutual

def visits : Value → ℕ → List Visit
  | .str codes, depth => [.node depth, .string codes]
  | .dict members, depth => .node depth :: .members members.length :: memberVisits members (depth + 1)
  | .list items, depth => .node depth :: .items items.length :: itemVisits items (depth + 1)
  | leaf, depth => [.node depth, .leaf leaf]

def memberVisits : List (PyString × Value) → ℕ → List Visit
  | [], _ => []
  | (key, child) :: members, depth => .string key :: (visits child depth ++ memberVisits members depth)

def itemVisits : List Value → ℕ → List Visit
  | [], _ => []
  | child :: items, depth => visits child depth ++ itemVisits items depth

end

def StructureRules.perform (rules : StructureRules ε) (nodes : ℕ) : Visit → Raises ε ℕ
  | .node depth => rules.enter depth nodes
  | .leaf value => match rules.leafError value with
    | some error => raise error
    | none => return nodes
  | .string codes => do
    rules.boundedString codes
    return nodes
  | .members count => do
    require (count ≤ rules.maxMembers) rules.memberError
    return nodes
  | .items count => do
    require (count ≤ rules.maxItems) rules.itemError
    return nodes

mutual

theorem visitValue_eq (rules : StructureRules ε) : ∀ (value : Value) (depth nodes : ℕ),
    visitValue rules value depth nodes = (visits value depth).foldlM rules.perform nodes
  | .str codes, depth, nodes => by
    simp [visitValue, visits, StructureRules.perform]
  | .dict members, depth, nodes => by
    simp [visitValue, visits, StructureRules.perform, visitMembers_eq rules members]
  | .list items, depth, nodes => by
    simp [visitValue, visits, StructureRules.perform, visitItems_eq rules items]
  | .null, depth, nodes | .bool _, depth, nodes | .int _, depth, nodes | .float, depth, nodes
  | .pair _ _, depth, nodes => by
    simp [visitValue, visits, StructureRules.perform]

theorem visitMembers_eq (rules : StructureRules ε) : ∀ (members : List (PyString × Value)) (depth nodes : ℕ),
    visitMembers rules members depth nodes = (memberVisits members depth).foldlM rules.perform nodes
  | [], depth, nodes => rfl
  | (key, child) :: members, depth, nodes => by
    simp [visitMembers, memberVisits, StructureRules.perform, visitValue_eq rules child, visitMembers_eq rules members]

theorem visitItems_eq (rules : StructureRules ε) : ∀ (items : List Value) (depth nodes : ℕ),
    visitItems rules items depth nodes = (itemVisits items depth).foldlM rules.perform nodes
  | [], depth, nodes => rfl
  | child :: items, depth, nodes => by
    simp [visitItems, itemVisits, visitValue_eq rules child, visitItems_eq rules items]

end

def Visit.nodes : Visit → ℕ
  | .node _ => 1
  | _ => 0

/-- The rules have nothing against a visit, but for the number of nodes. -/
def StructureRules.Allows (rules : StructureRules ε) : Visit → Prop
  | .node depth => depth ≤ rules.maxDepth
  | .leaf value => rules.leafError value = none
  | .string codes => codes.any isSurrogate = false ∧ (codes.flatMap utf8Octets).length ≤ rules.maxStringBytes
  | .members count => count ≤ rules.maxMembers
  | .items count => count ≤ rules.maxItems

theorem encodeUtf8_ok {codes : PyString} {encoded : List Word.U8} : (encodeUtf8 codes : Raises ε _) = .ok encoded ↔
    codes.any isSurrogate = false ∧ encoded = codes.flatMap utf8Octets := by
  unfold encodeUtf8
  cases codes.any isSurrogate <;> simp [eq_comm]

theorem escapes_encodeUtf8 {codes : PyString} :
    Escapes (encodeUtf8 codes : Raises ε _) ↔ codes.any isSurrogate = true := by
  unfold encodeUtf8
  cases codes.any isSurrogate
  · simp
  · simp [Escapes, Raised.Foreign]

theorem boundedString_ok {rules : StructureRules ε} {codes : PyString} {value : Unit} :
    rules.boundedString codes = .ok value ↔ rules.Allows (.string codes) := by
  unfold StructureRules.boundedString
  rw [Check.bound]
  constructor
  · rintro ⟨encoded, is, short⟩
    obtain ⟨clean, rfl⟩ := encodeUtf8_ok.mp is
    exact ⟨clean, require_ok.mp short⟩
  · rintro ⟨clean, short⟩
    exact ⟨_, encodeUtf8_ok.mpr ⟨clean, rfl⟩, require_ok.mpr short⟩

theorem perform_ok {rules : StructureRules ε} {nodes after : ℕ} {visit : Visit} (within : nodes ≤ rules.maxNodes) :
    rules.perform nodes visit = .ok after ↔
      rules.Allows visit ∧ after = nodes + visit.nodes ∧ after ≤ rules.maxNodes := by
  cases visit with
  | node depth =>
    simp only [StructureRules.perform, StructureRules.enter, Check.bound, require_ok, StructureRules.Allows,
      Visit.nodes]
    constructor
    · rintro ⟨-, room, -, shallow, same⟩
      cases same
      exact ⟨shallow, rfl, room⟩
    · rintro ⟨shallow, rfl, room⟩
      exact ⟨(), room, (), shallow, rfl⟩
  | leaf value =>
    simp only [StructureRules.perform, StructureRules.Allows, Visit.nodes]
    cases rules.leafError value with
    | some error => simp [raise]
    | none => simp [pure, Except.pure]; omega
  | string codes =>
    simp only [StructureRules.perform, Check.bound, boundedString_ok, Visit.nodes, pure, Except.pure]
    constructor
    · rintro ⟨-, allowed, same⟩
      cases same
      exact ⟨allowed, rfl, within⟩
    · rintro ⟨allowed, rfl, -⟩
      exact ⟨(), allowed, rfl⟩
  | members count =>
    simp only [StructureRules.perform, Check.bound, require_ok, Visit.nodes, pure, Except.pure, StructureRules.Allows]
    constructor
    · rintro ⟨-, allowed, same⟩
      cases same
      exact ⟨allowed, rfl, within⟩
    · rintro ⟨allowed, rfl, -⟩
      exact ⟨(), allowed, rfl⟩
  | items count =>
    simp only [StructureRules.perform, Check.bound, require_ok, Visit.nodes, pure, Except.pure, StructureRules.Allows]
    constructor
    · rintro ⟨-, allowed, same⟩
      cases same
      exact ⟨allowed, rfl, within⟩
    · rintro ⟨allowed, rfl, -⟩
      exact ⟨(), allowed, rfl⟩

theorem escapes_perform {rules : StructureRules ε} {nodes : ℕ} {visit : Visit} :
    Escapes (rules.perform nodes visit) ↔ ∃ codes, visit = .string codes ∧ codes.any isSurrogate = true := by
  cases visit with
  | node depth => simp [StructureRules.perform, StructureRules.enter]
  | leaf value =>
    simp only [StructureRules.perform]
    cases rules.leafError value <;> simp
  | string codes => simp [StructureRules.perform, StructureRules.boundedString, escapes_bind, escapes_encodeUtf8]
  | members count => simp [StructureRules.perform]
  | items count => simp [StructureRules.perform]

def nodeCount (visits : List Visit) : ℕ := (visits.map Visit.nodes).sum

structure StructureRules.Admits (rules : StructureRules ε) (visits : List Visit) : Prop where
  allowed : ∀ visit ∈ visits, rules.Allows visit
  nodes : nodeCount visits ≤ rules.maxNodes

/-- The first thing that a walk does not allow is a string that UTF-8 cannot encode. -/
def StructureRules.MeetsSurrogate (rules : StructureRules ε) (visits : List Visit) : Prop :=
  ∃ before codes after, visits = before ++ .string codes :: after ∧ rules.Admits before ∧ codes.any isSurrogate = true

theorem foldlM_perform_ok {rules : StructureRules ε} {visits : List Visit} {nodes after : ℕ}
    (within : nodes ≤ rules.maxNodes) : visits.foldlM rules.perform nodes = .ok after ↔
      (∀ visit ∈ visits, rules.Allows visit) ∧ after = nodes + nodeCount visits ∧ after ≤ rules.maxNodes := by
  induction visits generalizing nodes with
  | nil =>
    simp only [List.foldlM_nil, pure, Except.pure, Except.ok.injEq, nodeCount, List.map_nil, List.sum_nil]
    constructor
    · rintro rfl
      exact ⟨nofun, rfl, within⟩
    · rintro ⟨-, rfl, -⟩
      rfl
  | cons visit visits ih =>
    rw [List.foldlM_cons, Check.bound]
    simp only [nodeCount, List.map_cons, List.sum_cons, List.forall_mem_cons]
    constructor
    · rintro ⟨next, here, rest⟩
      obtain ⟨allowed, rfl, room⟩ := (perform_ok within).mp here
      obtain ⟨others, rfl, enough⟩ := (ih room).mp rest
      exact ⟨⟨allowed, others⟩, by rw [nodeCount, Nat.add_assoc], enough⟩
    · rintro ⟨⟨allowed, others⟩, rfl, enough⟩
      have room : nodes + visit.nodes ≤ rules.maxNodes := by omega
      exact ⟨_, (perform_ok within).mpr ⟨allowed, rfl, room⟩,
        (ih room).mpr ⟨others, by rw [nodeCount, Nat.add_assoc], enough⟩⟩

theorem escapes_visitValue {rules : StructureRules ε} {value : Value} {depth : ℕ} :
    Escapes (visitValue rules value depth 0) ↔ rules.MeetsSurrogate (visits value depth) := by
  rw [visitValue_eq, escapes_foldlM]
  constructor
  · rintro ⟨before, visit, after, reached, same, performed, escapes⟩
    obtain ⟨codes, rfl, surrogate⟩ := escapes_perform.mp escapes
    obtain ⟨allowed, rfl, room⟩ := (foldlM_perform_ok (Nat.zero_le _)).mp performed
    exact ⟨before, codes, after, same, ⟨allowed, by omega⟩, surrogate⟩
  · rintro ⟨before, codes, after, same, ⟨allowed, room⟩, surrogate⟩
    exact ⟨before, _, after, _, same, (foldlM_perform_ok (Nat.zero_le _)).mpr ⟨allowed, rfl, by omega⟩,
      escapes_perform.mpr ⟨codes, rfl, surrogate⟩⟩

end Guardian.Assurance
