import DemandFlow.Proofs.Catalog.Registry
import DemandFlow.Proofs.Evaluation.Reference

/-!
Contract: the plain functions behind the catalogue.

Owns: which function of its operands each recipe stands for, told without nodes or formulas, and
that the node built from the recipe computes it.

Main statement: everything that the catalogue offers has a blueprint of the library, whose inputs
have the kinds of the operands and which yields what the function yields
(`Recipe.Realises.exists_of_offers`).

Does not own: how such a node comes by its operands (`Proofs.Catalog.Trial`).
-/

namespace DemandFlow

/-! ### Functions -/

/-- The number of operands. -/
def Operator.arity : Operator → Nat
  | .complement | .math _ => 1
  | .arithmetic _ | .bitwise _ | .comparison _ => 2
  | .epsilonEqualTo | .epsilonNotEqualTo => 3

namespace Recipe

/-- The kinds of the operands, in the order of the inputs. -/
def operandKinds : Recipe → List Kind
  | .constant _ => []
  | .selector kind => [.bool, kind, kind]
  | .cast source _ => [source]
  | .operator op kind => List.replicate op.arity kind

/-- What a recipe makes of its operands. -/
inductive Computes : Recipe → List Value → Except OperationError Value → Prop where
  | constant (kind : Kind) : Computes (.constant kind) [] (.ok ⟨kind, kind.default⟩)
  | first (kind : Kind) (x y : kind.Carrier) :
      Computes (.selector kind) [⟨.bool, true⟩, ⟨kind, x⟩, ⟨kind, y⟩] (.ok ⟨kind, x⟩)
  | second (kind : Kind) (x y : kind.Carrier) :
      Computes (.selector kind) [⟨.bool, false⟩, ⟨kind, x⟩, ⟨kind, y⟩] (.ok ⟨kind, y⟩)
  | cast (source target : Kind) (x : source.Carrier) :
      Computes (.cast source target) [⟨source, x⟩]
        (((convert source target x).mapError .conversion).map (Value.mk target))
  | integers (op : ArithmeticOp) (kind : IntegerKind) (x y : FixedInt kind) :
      Computes (.operator (.arithmetic op) (.integer kind)) [⟨.integer kind, x⟩, ⟨.integer kind, y⟩]
        ((op.onIntegers x y).map (Value.mk (.integer kind)))
  | floats (op : ArithmeticOp) (kind : FloatKind) (x y : Binary kind.format) :
      Computes (.operator (.arithmetic op) (.float kind)) [⟨.float kind, x⟩, ⟨.float kind, y⟩]
        (.ok ⟨.float kind, op.onFloats kind x y⟩)
  | truths (op : BitwiseOp) (x y : Bool) :
      Computes (.operator (.bitwise op) .bool) [⟨.bool, x⟩, ⟨.bool, y⟩]
        (.ok ⟨.bool, op.onBools x y⟩)
  | words (op : BitwiseOp) (kind : IntegerKind) (x y : FixedInt kind) :
      Computes (.operator (.bitwise op) (.integer kind)) [⟨.integer kind, x⟩, ⟨.integer kind, y⟩]
        (.ok ⟨.integer kind, FixedInt.ofWord (op.onWords x.toWord y.toWord)⟩)
  | opposite (x : Bool) : Computes (.operator .complement .bool) [⟨.bool, x⟩] (.ok ⟨.bool, !x⟩)
  | inverted (kind : IntegerKind) (x : FixedInt kind) :
      Computes (.operator .complement (.integer kind)) [⟨.integer kind, x⟩]
        (.ok ⟨.integer kind, FixedInt.ofWord (~~~x.toWord)⟩)
  | comparison (op : ComparisonOp) (kind : Kind) (x y : kind.Carrier) :
      Computes (.operator (.comparison op) kind) [⟨kind, x⟩, ⟨kind, y⟩]
        (.ok ⟨.bool, op.on kind x y⟩)
  | closer (kind : FloatKind) (x y bound : Binary kind.format) :
      Computes (.operator .epsilonEqualTo (.float kind))
        [⟨.float kind, x⟩, ⟨.float kind, y⟩, ⟨.float kind, bound⟩]
        (.ok ⟨.bool, (kind.distance x y).less bound⟩)
  | farther (kind : FloatKind) (x y bound : Binary kind.format) :
      Computes (.operator .epsilonNotEqualTo (.float kind))
        [⟨.float kind, x⟩, ⟨.float kind, y⟩, ⟨.float kind, bound⟩]
        (.ok ⟨.bool, bound.less (kind.distance x y)⟩)
  | math (op : MathOp) (kind : Kind) (x : kind.Carrier) :
      Computes (.operator (.math op) kind) [⟨kind, x⟩]
        (((convert kind (.float .double) x).mapError .conversion).map fun x =>
          ⟨.float .double, op.on x⟩)

end Recipe

/-! ### Operands of given kinds -/

theorem Value.kinds_nil {values : List Value} (kinds : values.map (·.kind) = []) : values = [] :=
  List.map_eq_nil_iff.mp kinds

theorem Value.kinds_cons {values : List Value} {kind : Kind} {others : List Kind}
    (kinds : values.map (·.kind) = kind :: others) :
    ∃ (x : kind.Carrier) (rest : List Value), values = ⟨kind, x⟩ :: rest ∧
      rest.map (·.kind) = others := by
  obtain ⟨⟨_, x⟩, rest, rfl, rfl, same⟩ := List.map_eq_cons_iff.mp kinds
  exact ⟨x, rest, rfl, same⟩

namespace Formula

variable {x y z result : Kind}

theorem run_unary (function : x.Carrier → Except OperationError result.Carrier) (a : x.Carrier) :
    (unary x result function).run [⟨x, a⟩] = (function a).map (Value.mk result) := by
  simp [run, unary, operand]

theorem run_binary (function : x.Carrier → y.Carrier → Except OperationError result.Carrier)
    (a : x.Carrier) (b : y.Carrier) :
    (binary x y result function).run [⟨x, a⟩, ⟨y, b⟩] =
      (function a b).map (Value.mk result) := by
  simp [run, binary, operand]

theorem run_trinary
    (function : x.Carrier → y.Carrier → z.Carrier → Except OperationError result.Carrier)
    (a : x.Carrier) (b : y.Carrier) (c : z.Carrier) :
    (trinary x y z result function).run [⟨x, a⟩, ⟨y, b⟩, ⟨z, c⟩] =
      (function a b c).map (Value.mk result) := by
  simp [run, trinary, operand]

end Formula

namespace Recipe

/-! ### Blueprints -/

/-- A blueprint is what a recipe builds, and stands for the function of the recipe. -/
structure Realises (recipe : Recipe) (plan : Blueprint) : Prop where
  built : recipe.blueprint = .ok plan
  library : plan.IsLibrary
  named : plan.kindName = recipe.kindName
  kinds : (plan.ports.filter (·.direction = .input)).map (·.value.kind) = recipe.operandKinds
  function : ∀ operands : List Value, operands.map (·.kind) = recipe.operandKinds →
    recipe.Computes operands (plan.behaviour.yield operands)

namespace Realises

variable {recipe : Recipe} {x y z result : Kind}

theorem unary {function : x.Carrier → Except OperationError result.Carrier}
    (built : recipe.blueprint = .ok (.operator recipe.kindName (.unary x result function)))
    (kinds : recipe.operandKinds = [x])
    (computes : ∀ a, recipe.Computes [⟨x, a⟩] ((function a).map (Value.mk result))) :
    recipe.Realises (.operator recipe.kindName (.unary x result function)) where
  built := built
  library := .unary ..
  named := rfl
  kinds := by
    rw [kinds]
    rfl
  function operands kindsOf := by
    rw [kinds] at kindsOf
    obtain ⟨a, rest, rfl, none⟩ := Value.kinds_cons kindsOf
    obtain rfl := Value.kinds_nil none
    have yields := computes a
    rw [← Formula.run_unary] at yields
    exact yields

theorem binary {function : x.Carrier → y.Carrier → Except OperationError result.Carrier}
    (built : recipe.blueprint = .ok (.operator recipe.kindName (.binary x y result function)))
    (kinds : recipe.operandKinds = [x, y])
    (computes : ∀ a b,
      recipe.Computes [⟨x, a⟩, ⟨y, b⟩] ((function a b).map (Value.mk result))) :
    recipe.Realises (.operator recipe.kindName (.binary x y result function)) where
  built := built
  library := .binary ..
  named := rfl
  kinds := by
    rw [kinds]
    rfl
  function operands kindsOf := by
    rw [kinds] at kindsOf
    obtain ⟨a, rest, rfl, kindsRest⟩ := Value.kinds_cons kindsOf
    obtain ⟨b, rest, rfl, none⟩ := Value.kinds_cons kindsRest
    obtain rfl := Value.kinds_nil none
    have yields := computes a b
    rw [← Formula.run_binary] at yields
    exact yields

/-- The two nodes of three inputs differ in the names of their ports only. -/
theorem trinary {plan : Blueprint}
    {function : x.Carrier → y.Carrier → z.Carrier → Except OperationError result.Carrier}
    (built : recipe.blueprint = .ok plan) (library : plan.IsLibrary)
    (named : plan.kindName = recipe.kindName)
    (behaviour : plan.behaviour = .formula (.trinary x y z result function))
    (inputs : (plan.ports.filter (·.direction = .input)).map (·.value.kind) = [x, y, z])
    (kinds : recipe.operandKinds = [x, y, z])
    (computes : ∀ a b c,
      recipe.Computes [⟨x, a⟩, ⟨y, b⟩, ⟨z, c⟩] ((function a b c).map (Value.mk result))) :
    recipe.Realises plan where
  built := built
  library := library
  named := named
  kinds := inputs.trans kinds.symm
  function operands kindsOf := by
    rw [kinds] at kindsOf
    obtain ⟨a, rest, rfl, kindsRest⟩ := Value.kinds_cons kindsOf
    obtain ⟨b, rest, rfl, kindsLast⟩ := Value.kinds_cons kindsRest
    obtain ⟨c, rest, rfl, none⟩ := Value.kinds_cons kindsLast
    obtain rfl := Value.kinds_nil none
    have yields := computes a b c
    rw [← Formula.run_trinary] at yields
    rw [behaviour]
    exact yields

theorem constant (kind : Kind) : Realises (.constant kind) (.constant (Value.ofDefault kind)) where
  built := rfl
  library := .constant _
  named := rfl
  kinds := rfl
  function operands kinds := by
    obtain rfl := Value.kinds_nil kinds
    exact .constant kind

theorem selector (kind : Kind) : Realises (.selector kind) (.selector kind) := by
  apply trinary rfl (.selector kind) rfl rfl rfl rfl
  intro control x y
  cases control with
  | true => exact .first kind x y
  | false => exact .second kind x y

theorem math {op : MathOp} {kind : Kind}
    (built : (Recipe.operator (.math op) kind).blueprint =
      .ok (.operator (Recipe.operator (.math op) kind).kindName (Operator.mathFormula op kind))) :
    Realises (.operator (.math op) kind)
      (.operator (Recipe.operator (.math op) kind).kindName (Operator.mathFormula op kind)) := by
  refine unary built rfl fun x => ?_
  have function := Computes.math op kind x
  cases converted : convert kind (.float .double) x with
  | error cause =>
      rw [converted] at function
      exact function
  | ok double =>
      rw [converted] at function
      exact function

/-- An operation that is defined for a kind is built there as its function. -/
theorem exists_of_supports {op : Operator} {kind : Kind} (supported : op.supports kind = true) :
    ∃ plan, Realises (.operator op kind) plan := by
  cases op with
  | arithmetic op =>
      cases kind with
      | bool => cases supported
      | integer kind => exact ⟨_, binary rfl rfl (.integers op kind)⟩
      | float kind => exact ⟨_, binary rfl rfl (.floats op kind)⟩
  | bitwise op =>
      cases kind with
      | bool => exact ⟨_, binary rfl rfl (.truths op)⟩
      | integer kind => exact ⟨_, binary rfl rfl (.words op kind)⟩
      | float kind => cases supported
  | complement =>
      cases kind with
      | bool => exact ⟨_, unary rfl rfl .opposite⟩
      | integer kind => exact ⟨_, unary rfl rfl (.inverted kind)⟩
      | float kind => cases supported
  | comparison op =>
      cases kind with
      | bool => cases supported
      | integer kind => exact ⟨_, binary rfl rfl (.comparison op _)⟩
      | float kind => exact ⟨_, binary rfl rfl (.comparison op _)⟩
  | epsilonEqualTo =>
      cases kind with
      | bool => cases supported
      | integer kind => cases supported
      | float kind => exact ⟨_, trinary rfl (.trinary ..) rfl rfl rfl rfl (.closer kind)⟩
  | epsilonNotEqualTo =>
      cases kind with
      | bool => cases supported
      | integer kind => cases supported
      | float kind => exact ⟨_, trinary rfl (.trinary ..) rfl rfl rfl rfl (.farther kind)⟩
  | math op =>
      cases kind with
      | bool => cases supported
      | integer kind => exact ⟨_, math rfl⟩
      | float kind => exact ⟨_, math rfl⟩

/-- Everything that the catalogue offers has a blueprint that stands for its function. -/
theorem exists_of_offers {recipe : Recipe} (offered : Registry.Offers recipe) :
    ∃ plan, recipe.Realises plan := by
  cases recipe with
  | constant kind => exact ⟨_, constant kind⟩
  | selector kind => exact ⟨_, selector kind⟩
  | cast source target => exact ⟨_, unary rfl rfl (.cast source target)⟩
  | operator op kind => exact exists_of_supports offered

end Realises

end Recipe

end DemandFlow
