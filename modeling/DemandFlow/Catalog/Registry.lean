import DemandFlow.Catalog.Recipe

/-!
Contract: the registry of node kinds.

Owns: node types, the registry with its order, the types it holds from the start, and building
nodes by kind name.

Does not own: what a recipe builds (`Catalog.Recipe`).
-/

namespace DemandFlow

structure NodeType where
  id : String
  category : Category
  description : String
  recipe : Recipe
deriving DecidableEq, Repr

/-- The node type that a recipe describes by itself. -/
def NodeType.ofRecipe (recipe : Recipe) : NodeType :=
  ⟨recipe.kindName, recipe.category, recipe.description, recipe⟩

/-- Node types in the order in which their ids were first registered; each id occurs once. -/
structure Registry where
  types : List NodeType
deriving DecidableEq, Repr, Inhabited

namespace Registry

def empty : Registry := ⟨[]⟩

/-- Puts a node type in the place of the one with its id, or at the end. -/
def insertType (added : NodeType) : List NodeType → List NodeType
  | [] => [added]
  | first :: rest =>
      if first.id = added.id then added :: rest else first :: insertType added rest

/-- Registers a node type. A type with the same id is replaced in its place. -/
def register (registry : Registry) (added : NodeType) : Registry :=
  ⟨insertType added registry.types⟩

def get? (registry : Registry) (id : String) : Option NodeType :=
  registry.types.find? (·.id == id)

def ofCategory (registry : Registry) (category : Category) : List NodeType :=
  registry.types.filter (·.category == category)

theorem find?_insertType_same (added : NodeType) (types : List NodeType) :
    (insertType added types).find? (·.id == added.id) = some added := by
  induction types with
  | nil => simp [insertType]
  | cons first rest inductionHypothesis =>
      unfold insertType
      by_cases same : first.id = added.id
      · simp [same]
      · simp [same, inductionHypothesis]

theorem find?_insertType_other (added : NodeType) (types : List NodeType) {id : String}
    (different : id ≠ added.id) :
    (insertType added types).find? (·.id == id) = types.find? (·.id == id) := by
  induction types with
  | nil => simp [insertType, different.symm]
  | cons first rest inductionHypothesis =>
      unfold insertType
      by_cases same : first.id = added.id
      · simp [same, different.symm]
      · simp [same, List.find?_cons, inductionHypothesis]

@[simp]
theorem get?_register_same (registry : Registry) (added : NodeType) :
    (registry.register added).get? added.id = some added :=
  find?_insertType_same added registry.types

theorem get?_register_other (registry : Registry) {added : NodeType} {id : String}
    (different : id ≠ added.id) : (registry.register added).get? id = registry.get? id :=
  find?_insertType_other added registry.types different

def size (registry : Registry) : Nat := registry.types.length

/-- Constants and selectors of every kind, conversions between two kinds, and each operation on
each kind it is defined for. -/
def builtInRecipes : List Recipe :=
  Kind.all.flatMap (fun kind => [.constant kind, .selector kind]) ++
    Kind.all.flatMap (fun source =>
      (Kind.all.filter (· != source)).map fun target => .cast source target) ++
    Operator.all.flatMap fun op =>
      (Kind.all.filter fun kind => op.supports kind).map fun kind => .operator op kind

/-- The registry of every built-in node type. -/
def withOperators : Registry :=
  builtInRecipes.foldl (fun registry recipe => registry.register (.ofRecipe recipe)) empty

def blueprint (registry : Registry) (kindName : String) : Except RegistryError Blueprint :=
  match registry.get? kindName with
  | some nodeType => nodeType.recipe.blueprint
  | none => .error (.unknownKind kindName)

/-- The constant of a kind name with a value, which is narrowed to the constant's kind. -/
def constantBlueprint (registry : Registry) (kindName : String) (value : Scalar) :
    Except RegistryError Blueprint :=
  match registry.get? kindName with
  | none => .error (.unknownKind kindName)
  | some nodeType =>
      match nodeType.recipe with
      | .constant kind => ((Value.ofScalar kind value).mapError .conversion).map .constant
      | _ => .error (.notAConstant kindName)

def create (registry : Registry) (graph : Graph) (kindName displayName : String) :
    Except RegistryError (Graph × NodeId) :=
  (registry.blueprint kindName).map fun plan => graph.add plan displayName

def createWithValue (registry : Registry) (graph : Graph) (kindName displayName : String)
    (value : Scalar) : Except RegistryError (Graph × NodeId) :=
  (registry.constantBlueprint kindName value).map fun plan => graph.add plan displayName

end Registry

end DemandFlow
