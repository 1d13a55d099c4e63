import DemandFlow.Catalog.Registry

/-!
Contract: the names of the catalogue.

Owns: that kind names tell recipes apart, and what the catalogue offers.

Main statement: no two recipes have one kind name (`Recipe.kindName_injective`).

Does not own: what the recipes build (`Proofs.Catalog.Function`) and what is found by name
(`Proofs.Catalog.Roster`).
-/

namespace DemandFlow

/-! ### Names -/

/-- No kind name begins another, so a name that begins with one can be split in one way only. -/
theorem Kind.name_append_inj {kind other : Kind} {left right : String}
    (same : kind.name ++ left = other.name ++ right) : kind = other ∧ left = right := by
  have lists : kind.name.toList ++ left.toList = other.name.toList ++ right.toList := by
    rw [← String.toList_append, same, String.toList_append]
  have prefixFree : ∀ kind ∈ Kind.all, ∀ other ∈ Kind.all,
      kind.name.toList <+: other.name.toList → kind = other := by decide
  have kinds : kind = other := by
    rcases List.prefix_or_prefix_of_prefix (List.prefix_append kind.name.toList left.toList)
      (lists ▸ List.prefix_append other.name.toList right.toList) with shorter | longer
    · exact prefixFree kind kind.mem_all other other.mem_all shorter
    · exact (prefixFree other other.mem_all kind kind.mem_all longer).symm
  subst kinds
  exact ⟨rfl, String.toList_inj.mp (List.append_cancel_left lists)⟩

theorem Operator.mem_all (op : Operator) : op ∈ all := by
  cases op with
  | arithmetic op => cases op <;> decide
  | bitwise op => cases op <;> decide
  | complement => decide
  | comparison op => cases op <;> decide
  | epsilonEqualTo => decide
  | epsilonNotEqualTo => decide
  | math op => cases op <;> decide

namespace Recipe

/-- The kind that the kind name begins with. -/
def subject : Recipe → Kind
  | .constant kind => kind
  | .selector kind => kind
  | .cast source _ => source
  | .operator _ kind => kind

/-- What follows the kind in the kind name. -/
def task : Recipe → String
  | .constant _ => "Constant"
  | .selector _ => "SelectiveValue"
  | .cast _ target => "To" ++ target.name
  | .operator op _ => op.name

/-- The recipe of the same task for another kind. -/
def onKind (kind : Kind) : Recipe → Recipe
  | .constant _ => .constant kind
  | .selector _ => .selector kind
  | .cast _ target => .cast kind target
  | .operator op _ => .operator op kind

theorem kindName_eq (recipe : Recipe) : recipe.kindName = recipe.subject.name ++ recipe.task := by
  cases recipe with
  | constant kind => rfl
  | selector kind => rfl
  | cast source target => exact String.append_assoc
  | operator op kind => rfl

theorem task_onKind (kind : Kind) (recipe : Recipe) : (recipe.onKind kind).task = recipe.task := by
  cases recipe <;> rfl

theorem onKind_onKind_subject (kind : Kind) (recipe : Recipe) :
    (recipe.onKind kind).onKind recipe.subject = recipe := by
  cases recipe <;> rfl

/-- Every recipe for truth values, the operations included that are not defined for them. -/
def onBool : List Recipe :=
  [.constant .bool, .selector .bool] ++ Kind.all.map (.cast .bool) ++
    Operator.all.map (.operator · .bool)

theorem mem_onBool (recipe : Recipe) : recipe.onKind .bool ∈ onBool := by
  cases recipe with
  | constant kind => simp [onKind, onBool]
  | selector kind => simp [onKind, onBool]
  | cast source target => simp [onKind, onBool, target.mem_all]
  | operator op kind => simp [onKind, onBool, op.mem_all]

/-- The kind names of two recipes differ. -/
theorem kindName_injective : Function.Injective kindName := by
  intro recipe other same
  rw [kindName_eq, kindName_eq] at same
  obtain ⟨subjects, tasks⟩ := Kind.name_append_inj same
  have distinct : ∀ recipe ∈ onBool, ∀ other ∈ onBool,
      recipe.task = other.task → recipe = other := by decide
  have onBools : recipe.onKind .bool = other.onKind .bool := by
    apply distinct _ recipe.mem_onBool _ other.mem_onBool
    rw [task_onKind, task_onKind, tasks]
  rw [← onKind_onKind_subject .bool recipe, onBools, subjects, onKind_onKind_subject]

end Recipe

/-! ### What is built in -/

namespace Registry

/-- What the catalogue offers: a conversion leads to another kind, and an operation is defined for
its kind. -/
def Offers : Recipe → Prop
  | .constant _ => True
  | .selector _ => True
  | .cast source target => target ≠ source
  | .operator op kind => op.supports kind = true

theorem mem_builtInRecipes {recipe : Recipe} : recipe ∈ builtInRecipes ↔ Offers recipe := by
  cases recipe with
  | constant kind => simp [builtInRecipes, Offers, kind.mem_all]
  | selector kind => simp [builtInRecipes, Offers, kind.mem_all]
  | cast source target => simp [builtInRecipes, Offers, source.mem_all, target.mem_all]
  | operator op kind => simp [builtInRecipes, Offers, op.mem_all, kind.mem_all]

end Registry

end DemandFlow
