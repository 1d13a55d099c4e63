import DemandFlow.Proofs.Association
import DemandFlow.Proofs.Catalog.Registry
import DemandFlow.Proofs.Graph.Growth
import Mathlib.Data.List.Nodup

/-!
Contract: what a registry holds after any calls, and what it builds.

Owns: the calls of a program to a registry, the list that registrations amount to, and the answers
to requests for nodes.

Main statement: a registry lists the ids in the order of their first registrations, each once and
with the type that was registered last, whatever nodes were requested in between; and it answers each
request as the recipe that it lists says (`Registry.run_lawful`).

Does not own: what the nodes compute (`Proofs.Catalog.Function`).
-/

namespace DemandFlow

/-! ### Calls -/

/-- What a program can ask of a registry that builds nodes in a graph. -/
inductive RegistryCall where
  | register (added : NodeType)
  | create (kindName displayName : String)
  | createWithValue (kindName displayName : String) (value : Scalar)

namespace RegistryCall

/-- The node type that a call registers. -/
def registered? : RegistryCall → Option NodeType
  | .register added => some added
  | .create .. | .createWithValue .. => none

/-- The graph after a request for a node. One that fails leaves it as it was. -/
def graphAfter (graph : Graph) : Except RegistryError (Graph × NodeId) → Graph
  | .ok (after, _) => after
  | .error _ => graph

def perform (registry : Registry) (graph : Graph) : RegistryCall → Registry × Graph
  | .register added => (registry.register added, graph)
  | .create kindName displayName =>
      (registry, graphAfter graph (registry.create graph kindName displayName))
  | .createWithValue kindName displayName value =>
      (registry, graphAfter graph (registry.createWithValue graph kindName displayName value))

/-- The registry and the graph after calls in order. -/
def run (registry : Registry) (graph : Graph) (calls : List RegistryCall) : Registry × Graph :=
  calls.foldl (fun state call => call.perform state.1 state.2) (registry, graph)

end RegistryCall

/-! ### Lists -/

/-- Of the types registered in order, this one was registered last under its id. -/
def NodeType.IsLatest (added : List NodeType) (nodeType : NodeType) : Prop :=
  ∃ earlier later, added = earlier ++ nodeType :: later ∧ ∀ other ∈ later, other.id ≠ nodeType.id

namespace Registry

/-- Registers node types, in order. -/
def registerEach (registry : Registry) (added : List NodeType) : Registry :=
  added.foldl register registry

/-- A registry lists what has been registered: the ids in the order in which they came first, each
once, with the type that was registered last under it. -/
structure Lists (registry : Registry) (added : List NodeType) : Prop where
  ids : registry.types.map (·.id) = (added.map (·.id)).eraseDups
  once : (registry.types.map (·.id)).Nodup
  latest : ∀ nodeType, nodeType ∈ registry.types ↔ nodeType.IsLatest added

/-- What is looked up in a registry agrees with its list. -/
structure Reflects (registry : Registry) : Prop where
  get : ∀ id nodeType,
    registry.get? id = some nodeType ↔ nodeType ∈ registry.types ∧ nodeType.id = id
  size : registry.size = registry.types.length
  inOrder : ∀ category, (registry.ofCategory category).Sublist registry.types
  ofCategory : ∀ category nodeType, nodeType ∈ registry.ofCategory category ↔
    nodeType ∈ registry.types ∧ nodeType.category = category

end Registry

/-! ### Answers -/

/-- One living node more is in the graph, with these names, and nothing else has changed. -/
structure Graph.Gains (graph : Graph) (kindName displayName : String) (made : Graph × NodeId) :
    Prop where
  grown : graph.Extends made.1
  new : made.2 = graph.nodes.size
  nodes_size : made.1.nodes.size = graph.nodes.size + 1
  alive : made.1.nodeAlive made.2 = true
  kindName : (made.1.node made.2).kindName = kindName
  displayName : (made.1.node made.2).displayName = displayName

/-- An operation is defined for its kind. -/
def Recipe.IsDefined (recipe : Recipe) : Prop :=
  ∀ op kind, recipe = .operator op kind → op.supports kind = true

namespace Registry

/-- How requests for a node of a kind name are answered. -/
structure Creates (registry : Registry) : Prop where
  unknown : ∀ graph id displayName kindName,
    registry.create graph id displayName = .error (.unknownKind kindName) ↔
      registry.get? id = none ∧ kindName = id
  unsupported : ∀ graph id displayName op kind,
    registry.create graph id displayName = .error (.unsupported op kind) ↔
      ∃ nodeType, registry.get? id = some nodeType ∧ nodeType.recipe = .operator op kind ∧
        op.supports kind = false
  builds : ∀ graph id displayName nodeType, registry.get? id = some nodeType →
    nodeType.recipe.IsDefined →
      ∃ made, registry.create graph id displayName = .ok made ∧
        graph.Gains nodeType.recipe.kindName displayName made

/-- How requests for a constant of a kind name with a value are answered. -/
structure CreatesWithValue (registry : Registry) : Prop where
  unknown : ∀ graph id displayName value kindName,
    registry.createWithValue graph id displayName value = .error (.unknownKind kindName) ↔
      registry.get? id = none ∧ kindName = id
  notAConstant : ∀ graph id displayName value kindName,
    registry.createWithValue graph id displayName value = .error (.notAConstant kindName) ↔
      ∃ nodeType, registry.get? id = some nodeType ∧ (∀ kind, nodeType.recipe ≠ .constant kind) ∧
        kindName = id
  conversion : ∀ graph id displayName value cause,
    registry.createWithValue graph id displayName value = .error (.conversion cause) ↔
      ∃ nodeType kind, registry.get? id = some nodeType ∧ nodeType.recipe = .constant kind ∧
        Value.ofScalar kind value = .error cause
  succeeds : ∀ graph id displayName value,
    (∃ made, registry.createWithValue graph id displayName value = .ok made) ↔
      ∃ nodeType kind content, registry.get? id = some nodeType ∧ nodeType.recipe = .constant kind ∧
        Value.ofScalar kind value = .ok content
  builds : ∀ graph id displayName value made,
    registry.createWithValue graph id displayName value = .ok made →
      ∃ nodeType kind content, registry.get? id = some nodeType ∧ nodeType.recipe = .constant kind ∧
        Value.ofScalar kind value = .ok content ∧
        graph.Gains nodeType.recipe.kindName displayName made ∧
        made.1.constantValue? made.2 = some content

/-- A registry lists what has been registered, reflects its list, and builds by it. -/
structure Lawful (registry : Registry) (added : List NodeType) : Prop where
  lists : registry.Lists added
  reflects : registry.Reflects
  creates : registry.Creates
  createsWithValue : registry.CreatesWithValue

end Registry

/-! ### Registering -/

theorem NodeType.isLatest_append_singleton {added : List NodeType} {last nodeType : NodeType} :
    nodeType.IsLatest (added ++ [last]) ↔
      nodeType = last ∨ nodeType.IsLatest added ∧ last.id ≠ nodeType.id := by
  constructor
  · rintro ⟨earlier, later, split, spared⟩
    rcases List.eq_nil_or_concat later with rfl | ⟨others, final, rfl⟩
    · obtain ⟨-, same⟩ := List.append_inj' split rfl
      exact Or.inl (List.singleton_inj.mp same).symm
    · rw [List.concat_eq_append] at split spared
      have regrouped : added ++ [last] = (earlier ++ nodeType :: others) ++ [final] := by
        simpa using split
      obtain ⟨same, ends⟩ := List.append_inj' regrouped rfl
      obtain rfl := List.singleton_inj.mp ends
      obtain ⟨sparedOthers, sparedLast⟩ := List.forall_mem_append.mp spared
      exact Or.inr ⟨⟨earlier, others, same, sparedOthers⟩, sparedLast last List.mem_cons_self⟩
  · rintro (rfl | ⟨⟨earlier, later, rfl, spared⟩, differs⟩)
    · exact ⟨added, [], rfl, by simp⟩
    · refine ⟨earlier, later ++ [last], by simp, List.forall_mem_append.mpr ⟨spared, ?_⟩⟩
      exact List.forall_mem_singleton.mpr differs

namespace Registry

theorem ids_insertType (added : NodeType) (types : List NodeType) :
    (insertType added types).map (·.id) =
      if added.id ∈ types.map (·.id) then types.map (·.id) else types.map (·.id) ++ [added.id] := by
  induction types with
  | nil => simp [insertType]
  | cons first rest inductionHypothesis =>
      unfold insertType
      by_cases same : first.id = added.id
      · simp [same]
      · have differs : ¬ added.id = first.id := fun equal => same equal.symm
        rw [if_neg same, List.map_cons, inductionHypothesis]
        by_cases listed : added.id ∈ rest.map (·.id)
        · simp [listed]
        · simp [listed, differs]

theorem mem_insertType_iff {added nodeType : NodeType} {types : List NodeType}
    (once : (types.map (·.id)).Nodup) :
    nodeType ∈ insertType added types ↔
      nodeType = added ∨ nodeType ∈ types ∧ added.id ≠ nodeType.id := by
  induction types with
  | nil => simp [insertType]
  | cons first rest inductionHypothesis =>
      obtain ⟨new, onceRest⟩ := List.nodup_cons.mp once
      unfold insertType
      by_cases same : first.id = added.id
      · -- The rest has no other type of this id, so that all of it is kept.
        have kept (member : nodeType ∈ rest) : added.id ≠ nodeType.id := by
          intro equal
          exact new (List.mem_map.mpr ⟨nodeType, member, equal.symm.trans same.symm⟩)
        rw [if_pos same, List.mem_cons, List.mem_cons]
        constructor
        · rintro (isAdded | member)
          · exact Or.inl isAdded
          · exact Or.inr ⟨Or.inr member, kept member⟩
        · rintro (isAdded | ⟨rfl | member, differs⟩)
          · exact Or.inl isAdded
          · exact absurd same.symm differs
          · exact Or.inr member
      · rw [if_neg same, List.mem_cons, inductionHypothesis onceRest, List.mem_cons]
        constructor
        · rintro (rfl | isAdded | ⟨member, differs⟩)
          · exact Or.inr ⟨Or.inl rfl, fun equal => same equal.symm⟩
          · exact Or.inl isAdded
          · exact Or.inr ⟨Or.inr member, differs⟩
        · rintro (isAdded | ⟨rfl | member, differs⟩)
          · exact Or.inr (Or.inl isAdded)
          · exact Or.inl rfl
          · exact Or.inr (Or.inr ⟨member, differs⟩)

theorem lists_empty : empty.Lists [] where
  ids := by simp [empty]
  once := List.nodup_nil
  latest := by simp [empty, NodeType.IsLatest]

/-- A registration puts its type in the place of its id, or at the end. -/
theorem Lists.register {registry : Registry} {added : List NodeType} (lists : registry.Lists added)
    (last : NodeType) : (registry.register last).Lists (added ++ [last]) where
  ids := by
    have known : last.id ∈ registry.types.map (·.id) ↔ last.id ∈ added.map (·.id) := by
      rw [lists.ids, List.mem_eraseDups]
    show (insertType last registry.types).map (·.id) = _
    rw [ids_insertType, List.map_append, List.eraseDups_append, ← lists.ids]
    by_cases listed : last.id ∈ registry.types.map (·.id)
    · have removed : ([last].map (·.id)).removeAll (added.map (·.id)) = [] := by
        simpa [List.removeAll] using known.mp listed
      rw [if_pos listed, removed]
      simp
    · have stays : ([last].map (·.id)).removeAll (added.map (·.id)) = [last.id] := by
        simpa [List.removeAll] using listed ∘ known.mpr
      rw [if_neg listed, stays]
      simp [List.eraseDups_cons]
  once := by
    show ((insertType last registry.types).map (·.id)).Nodup
    rw [ids_insertType]
    split
    · exact lists.once
    · rename_i unlisted
      refine List.nodup_append.mpr ⟨lists.once, List.nodup_singleton _, ?_⟩
      rintro id listed other isLast rfl
      rw [List.mem_singleton.mp isLast] at listed
      exact unlisted listed
  latest nodeType := by
    rw [NodeType.isLatest_append_singleton, ← lists.latest]
    exact mem_insertType_iff lists.once

theorem Lists.registerEach {registry : Registry} {added : List NodeType}
    (lists : registry.Lists added) (more : List NodeType) :
    (registry.registerEach more).Lists (added ++ more) := by
  induction more generalizing registry added with
  | nil => rwa [List.append_nil]
  | cons first rest inductionHypothesis =>
      rw [List.append_cons]
      exact inductionHypothesis (lists.register first)

/-- The registry of every built-in type lists the types of the built-in recipes. -/
theorem lists_withOperators : withOperators.Lists (builtInRecipes.map .ofRecipe) := by
  have registered : withOperators = empty.registerEach (builtInRecipes.map .ofRecipe) := by
    rw [registerEach, List.foldl_map]
    rfl
  rw [registered]
  exact lists_empty.registerEach _

theorem run_eq_registerEach (registry : Registry) (graph : Graph) (calls : List RegistryCall) :
    (RegistryCall.run registry graph calls).1 =
      registry.registerEach (calls.filterMap RegistryCall.registered?) := by
  induction calls generalizing registry graph with
  | nil => rfl
  | cons call rest inductionHypothesis =>
      have next := inductionHypothesis (call.perform registry graph).1
        (call.perform registry graph).2
      cases call with
      | register added => exact next
      | create kindName displayName => exact next
      | createWithValue kindName displayName value => exact next

/-! ### Looking up -/

section Answers

variable {registry : Registry} {added : List NodeType}

theorem get?_eq_some_iff (once : (registry.types.map (·.id)).Nodup) {id : String}
    {nodeType : NodeType} :
    registry.get? id = some nodeType ↔ nodeType ∈ registry.types ∧ nodeType.id = id :=
  find?_eq_some_iff_mem once

theorem get?_eq_none_iff {id : String} :
    registry.get? id = none ↔ id ∉ registry.types.map (·.id) := by
  simp [get?]

theorem reflects_of_once (once : (registry.types.map (·.id)).Nodup) : registry.Reflects where
  get _ _ := get?_eq_some_iff once
  size := rfl
  inOrder _ := List.filter_sublist
  ofCategory _ _ := by simp [Registry.ofCategory]

/-- Every built-in type describes something that the catalogue offers. -/
theorem exists_recipe_of_mem_withOperators {nodeType : NodeType}
    (member : nodeType ∈ withOperators.types) :
    ∃ recipe, Offers recipe ∧ nodeType = .ofRecipe recipe := by
  obtain ⟨earlier, later, split, -⟩ := (lists_withOperators.latest nodeType).mp member
  have described : nodeType ∈ builtInRecipes.map .ofRecipe := by
    rw [split]
    exact List.mem_append_right _ List.mem_cons_self
  obtain ⟨recipe, builtIn, rfl⟩ := List.mem_map.mp described
  exact ⟨recipe, mem_builtInRecipes.mp builtIn, rfl⟩

/-- What the catalogue offers is found by its kind name, which no other recipe has. -/
theorem get?_withOperators {recipe : Recipe} (offered : Offers recipe) :
    withOperators.get? recipe.kindName = some (.ofRecipe recipe) := by
  have builtIn : NodeType.ofRecipe recipe ∈ builtInRecipes.map .ofRecipe :=
    List.mem_map_of_mem (mem_builtInRecipes.mpr offered)
  have listed : recipe.kindName ∈ withOperators.types.map (·.id) := by
    rw [lists_withOperators.ids, List.mem_eraseDups]
    exact List.mem_map_of_mem builtIn
  obtain ⟨nodeType, registered, named⟩ := List.mem_map.mp listed
  obtain ⟨other, -, rfl⟩ := exists_recipe_of_mem_withOperators registered
  obtain rfl : other = recipe := Recipe.kindName_injective named
  exact (get?_eq_some_iff lists_withOperators.once).mpr ⟨registered, rfl⟩

/-! ### Building -/

theorem gains_add (graph : Graph) (plan : Blueprint) (displayName : String) :
    graph.Gains plan.kindName displayName (graph.add plan displayName) where
  grown := Graph.extends_add graph plan displayName
  new := rfl
  nodes_size := Graph.nodes_size_add graph plan displayName
  alive := by simp [Graph.nodeAlive, Graph.node, Graph.add, Array.getD]
  kindName := by simp [Graph.node, Graph.add, Array.getD]
  displayName := by simp [Graph.node, Graph.add, Array.getD]

/-- A recipe builds a node of its kind name, unless it is an operation that is not defined. -/
theorem blueprint_cases (recipe : Recipe) :
    (∃ plan, recipe.blueprint = .ok plan ∧ plan.kindName = recipe.kindName ∧ recipe.IsDefined) ∨
    ∃ op kind, recipe = .operator op kind ∧ op.supports kind = false ∧
      recipe.blueprint = .error (.unsupported op kind) := by
  cases recipe with
  | constant kind => exact Or.inl ⟨_, rfl, rfl, by simp [Recipe.IsDefined]⟩
  | selector kind => exact Or.inl ⟨_, rfl, rfl, by simp [Recipe.IsDefined]⟩
  | cast source target => exact Or.inl ⟨_, rfl, rfl, by simp [Recipe.IsDefined]⟩
  | operator op kind =>
      have supported := op.isSome_formula? kind
      cases built : op.formula? kind with
      | none =>
          rw [built] at supported
          exact Or.inr ⟨op, kind, rfl, supported.symm, by simp [Recipe.blueprint, built]⟩
      | some formula =>
          rw [built] at supported
          refine Or.inl ⟨_, by rw [Recipe.blueprint, built], rfl, ?_⟩
          rintro _ _ ⟨⟩
          exact supported.symm

theorem create_of_absent {id : String} (absent : registry.get? id = none) (graph : Graph)
    (displayName : String) : registry.create graph id displayName = .error (.unknownKind id) := by
  simp [create, blueprint, absent, Except.map]

theorem create_of_get? {id : String} {nodeType : NodeType}
    (found : registry.get? id = some nodeType) (graph : Graph) (displayName : String) :
    registry.create graph id displayName =
      nodeType.recipe.blueprint.map fun plan => graph.add plan displayName := by
  simp [create, blueprint, found]

theorem creates (registry : Registry) : registry.Creates where
  unknown graph id displayName kindName := by
    cases found : registry.get? id with
    | none =>
        rw [create_of_absent found]
        simp [eq_comm]
    | some nodeType =>
        rw [create_of_get? found]
        rcases blueprint_cases nodeType.recipe with
          ⟨plan, built, -⟩ | ⟨op, kind, -, -, refused⟩
        · simp [built, Except.map]
        · simp [refused, Except.map]
  unsupported graph id displayName op kind := by
    cases found : registry.get? id with
    | none =>
        rw [create_of_absent found]
        simp
    | some nodeType =>
        rw [create_of_get? found]
        rcases blueprint_cases nodeType.recipe with
          ⟨plan, built, -, isDefined⟩ | ⟨other, otherKind, isOperator, unsupported, refused⟩
        · rw [built]
          refine iff_of_false nofun ?_
          rintro ⟨_, ⟨⟩, isOperator, unsupported⟩
          rw [isDefined op kind isOperator] at unsupported
          cases unsupported
        · rw [refused]
          constructor
          · rintro ⟨⟩
            exact ⟨nodeType, rfl, isOperator, unsupported⟩
          · rintro ⟨_, ⟨⟩, isOperatorToo, -⟩
            cases isOperator.symm.trans isOperatorToo
            rfl
  builds graph id displayName nodeType found isDefined := by
    rw [create_of_get? found]
    rcases blueprint_cases nodeType.recipe with
      ⟨plan, built, kindName, -⟩ | ⟨op, kind, isOperator, unsupported, -⟩
    · rw [built, ← kindName]
      exact ⟨_, rfl, gains_add graph plan displayName⟩
    · rw [isDefined op kind isOperator] at unsupported
      cases unsupported

/-! ### Building with a value -/

theorem createWithValue_of_absent {id : String} (absent : registry.get? id = none) (graph : Graph)
    (displayName : String) (value : Scalar) :
    registry.createWithValue graph id displayName value = .error (.unknownKind id) := by
  simp [createWithValue, constantBlueprint, absent, Except.map]

theorem createWithValue_of_other {id : String} {nodeType : NodeType}
    (found : registry.get? id = some nodeType)
    (notConstant : ∀ kind, nodeType.recipe ≠ .constant kind) (graph : Graph) (displayName : String)
    (value : Scalar) :
    registry.createWithValue graph id displayName value = .error (.notAConstant id) := by
  unfold createWithValue constantBlueprint
  rw [found]
  dsimp only
  split
  · rename_i kind isConstant
    exact absurd isConstant (notConstant kind)
  · rfl

theorem createWithValue_of_constant {id : String} {nodeType : NodeType} {kind : Kind}
    (found : registry.get? id = some nodeType) (isConstant : nodeType.recipe = .constant kind)
    (graph : Graph) (displayName : String) (value : Scalar) :
    registry.createWithValue graph id displayName value =
      ((Value.ofScalar kind value).mapError .conversion).map fun content =>
        graph.add (.constant content) displayName := by
  simp only [createWithValue, constantBlueprint, found, isConstant]
  cases Value.ofScalar kind value <;> rfl

/-- The cases of a request for a constant with a value. -/
inductive ConstantAnswer (registry : Registry) (graph : Graph) (id displayName : String)
    (value : Scalar) : Except RegistryError (Graph × NodeId) → Prop where
  | absent (absent : registry.get? id = none) :
      ConstantAnswer registry graph id displayName value (.error (.unknownKind id))
  | other {nodeType : NodeType} (found : registry.get? id = some nodeType)
      (notConstant : ∀ kind, nodeType.recipe ≠ .constant kind) :
      ConstantAnswer registry graph id displayName value (.error (.notAConstant id))
  | unfit {nodeType : NodeType} {kind : Kind} {cause : ConversionError}
      (found : registry.get? id = some nodeType) (isConstant : nodeType.recipe = .constant kind)
      (unfit : Value.ofScalar kind value = .error cause) :
      ConstantAnswer registry graph id displayName value (.error (.conversion cause))
  | built {nodeType : NodeType} {kind : Kind} {content : Value}
      (found : registry.get? id = some nodeType) (isConstant : nodeType.recipe = .constant kind)
      (fits : Value.ofScalar kind value = .ok content) :
      ConstantAnswer registry graph id displayName value
        (.ok (graph.add (.constant content) displayName))

theorem constantAnswer (registry : Registry) (graph : Graph) (id displayName : String)
    (value : Scalar) :
    registry.ConstantAnswer graph id displayName value
      (registry.createWithValue graph id displayName value) := by
  cases found : registry.get? id with
  | none =>
      rw [createWithValue_of_absent found]
      exact .absent found
  | some nodeType =>
      by_cases isConstant : ∃ kind, nodeType.recipe = .constant kind
      · obtain ⟨kind, isConstant⟩ := isConstant
        rw [createWithValue_of_constant found isConstant]
        cases content : Value.ofScalar kind value with
        | error cause => exact .unfit found isConstant content
        | ok content => exact .built found isConstant content
      · have notConstant : ∀ kind, nodeType.recipe ≠ .constant kind := not_exists.mp isConstant
        rw [createWithValue_of_other found notConstant]
        exact .other found notConstant

theorem createsWithValue (registry : Registry) : registry.CreatesWithValue where
  unknown graph id displayName value kindName := by
    have answer := registry.constantAnswer graph id displayName value
    constructor
    · intro fails
      rw [fails] at answer
      cases answer with
      | absent absent => exact ⟨absent, rfl⟩
    · rintro ⟨absent, rfl⟩
      exact createWithValue_of_absent absent graph displayName value
  notAConstant graph id displayName value kindName := by
    have answer := registry.constantAnswer graph id displayName value
    constructor
    · intro fails
      rw [fails] at answer
      cases answer with
      | other found notConstant => exact ⟨_, found, notConstant, rfl⟩
    · rintro ⟨nodeType, found, notConstant, rfl⟩
      exact createWithValue_of_other found notConstant graph displayName value
  conversion graph id displayName value cause := by
    have answer := registry.constantAnswer graph id displayName value
    constructor
    · intro fails
      rw [fails] at answer
      cases answer with
      | unfit found isConstant unfit => exact ⟨_, _, found, isConstant, unfit⟩
    · rintro ⟨nodeType, kind, found, isConstant, unfit⟩
      rw [createWithValue_of_constant found isConstant, unfit]
      rfl
  succeeds graph id displayName value := by
    have answer := registry.constantAnswer graph id displayName value
    constructor
    · rintro ⟨made, succeeds⟩
      rw [succeeds] at answer
      cases answer with
      | built found isConstant fits => exact ⟨_, _, _, found, isConstant, fits⟩
    · rintro ⟨nodeType, kind, content, found, isConstant, fits⟩
      rw [createWithValue_of_constant found isConstant, fits]
      exact ⟨_, rfl⟩
  builds graph id displayName value made succeeds := by
    have answer := registry.constantAnswer graph id displayName value
    rw [succeeds] at answer
    cases answer with
    | @built nodeType kind content found isConstant fits =>
        have gains := gains_add graph (.constant content) displayName
        have kindName : (Blueprint.constant content).kindName = nodeType.recipe.kindName := by
          rw [isConstant, Blueprint.constant, Value.kind_of_ofScalar fits]
          rfl
        rw [kindName] at gains
        refine ⟨nodeType, kind, content, found, isConstant, fits, gains, ?_⟩
        simp [Graph.constantValue?, Graph.node, Graph.add, Array.getD, Blueprint.constant]

/-! ### Runs -/

theorem Lists.lawful (lists : registry.Lists added) : registry.Lawful added where
  lists := lists
  reflects := reflects_of_once lists.once
  creates := registry.creates
  createsWithValue := registry.createsWithValue

/-- Whatever calls are made of a registry, of the empty one or of the one of every built-in type,
only registrations change it, and it lists them in order, after the types that it had from the
start; and what it lists decides what it builds. -/
theorem run_lawful (graph : Graph) (calls : List RegistryCall) :
    (RegistryCall.run empty graph calls).1.Lawful (calls.filterMap RegistryCall.registered?) ∧
      (RegistryCall.run withOperators graph calls).1.Lawful
        (builtInRecipes.map .ofRecipe ++ calls.filterMap RegistryCall.registered?) ∧
      ∀ registry : Registry, (RegistryCall.run registry graph calls).1 =
        registry.registerEach (calls.filterMap RegistryCall.registered?) := by
  refine ⟨?_, ?_, fun registry => run_eq_registerEach registry graph calls⟩
  · rw [run_eq_registerEach]
    exact (lists_empty.registerEach _).lawful
  · rw [run_eq_registerEach]
    exact (lists_withOperators.registerEach _).lawful

end Answers

end Registry

end DemandFlow
