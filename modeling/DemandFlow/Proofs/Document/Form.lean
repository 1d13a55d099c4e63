import DemandFlow.Document.Codec
import DemandFlow.Proofs.Association

/-!
Contract: the forms in which kinds, operations and recipes are read from documents.

Owns: the forms of variants without content and of records, and those of the data that node types
are made of.

Main statement: just the forms of a recipe are read as it (`Recipe.ofJson?_eq_some_iff`), and what is
written for it is one of them (`Recipe.form_toJson`).

Does not own: the documents of node types and links (`Proofs.Document.Canonical`).
-/

namespace DemandFlow

/-! ### Variants and records -/

namespace Json

/-- The forms of a variant without content: its name, or a record with nothing under its name. -/
inductive Plain (name : String) : Json → Prop where
  | text : Plain name (.text name)
  | record : Plain name (.record [(name, .null)])

/-- The forms of a record of some fields: a record that has the contents under the names, whatever
else it has and in any order, or the list of just the contents. -/
inductive Fields (names : List String) (contents : List Json) : Json → Prop where
  | record {fields : List (String × Json)}
      (found : List.Forall₂ (fun name content => fields.lookup name = some content) names contents) :
      Fields names contents (.record fields)
  | list (all : contents.length = names.length) : Fields names contents (.list contents)

theorem variant?_eq_bare_iff {json : Json} {name : String} :
    json.variant? = some (name, none) ↔ json = .text name := by
  constructor
  · intro named
    unfold variant? at named
    split at named
    · cases named
      rfl
    · cases named
    · cases named
  · rintro rfl
    rfl

theorem variant?_eq_tagged_iff {json content : Json} {name : String} :
    json.variant? = some (name, some content) ↔ json = .tagged name content := by
  constructor
  · intro named
    unfold variant? at named
    split at named
    · cases named
    · cases named
      rfl
    · cases named
  · rintro rfl
    rfl

theorem plainVariant?_eq_some_iff {json : Json} {name : String} :
    json.plainVariant? = some name ↔ Plain name json := by
  constructor
  · intro named
    unfold plainVariant? at named
    split at named
    · rename_i bare
      cases named
      rw [variant?_eq_bare_iff.mp bare]
      exact .text
    · rename_i tagged
      cases named
      rw [variant?_eq_tagged_iff.mp tagged]
      exact .record
    · cases named
  · intro plain
    cases plain with
    | text => rfl
    | record => rfl

theorem text?_eq_some_iff {json : Json} {value : String} :
    json.text? = some value ↔ json = .text value := by
  cases json <;> simp [text?]

section Members

variable {Member : Type} {all : List Member} {name : Member → String}
  (distinct : (all.map name).Nodup)

include distinct

theorem member?_eq_some_iff {json : Json} {member : Member} :
    member? all name json = some member ↔ member ∈ all ∧ Plain (name member) json := by
  simp only [member?, Option.bind_eq_some_iff, find?_eq_some_iff_mem distinct,
    plainVariant?_eq_some_iff]
  constructor
  · rintro ⟨_, plain, listed, rfl⟩
    exact ⟨listed, plain⟩
  · rintro ⟨listed, plain⟩
    exact ⟨_, plain, listed, rfl⟩

theorem member?_eq_some_iff_of_complete (complete : ∀ member, member ∈ all) {json : Json}
    {member : Member} : member? all name json = some member ↔ Plain (name member) json := by
  rw [member?_eq_some_iff distinct, and_iff_right (complete member)]

end Members

theorem fields?_eq_some_iff {names : List String} {json : Json} {contents : List Json} :
    json.fields? names = some contents ↔ Fields names contents json := by
  constructor
  · intro read
    unfold fields? at read
    split at read
    · exact .record (mapM_eq_some_iff.mp read)
    · split at read
      · rename_i all
        cases read
        exact .list all
      · cases read
    · cases read
  · intro form
    cases form with
    | record found => exact mapM_eq_some_iff.mpr found
    | list all => simp [fields?, all]

/-- A record whose fields have distinct names may have more fields, and in another order. -/
theorem Fields.rearrange {names : List String} {contents : List Json}
    {own given : List (String × Json)} (form : Fields names contents (.record own))
    (distinct : (given.map Prod.fst).Nodup) (kept : own ⊆ given) :
    Fields names contents (.record given) := by
  cases form with
  | record found =>
      exact .record (found.imp fun _ _ each =>
        (lookup_eq_some_iff_mem distinct).mpr (kept (mem_of_lookup_eq_some each)))

end Json

/-! ### Choices -/

namespace Kind

theorem ofJson?_eq_some_iff {json : Json} {kind : Kind} :
    ofJson? json = some kind ↔ Json.Plain kind.tag json :=
  Json.member?_eq_some_iff_of_complete (by decide) mem_all

theorem form_toJson (kind : Kind) : Json.Plain kind.tag kind.toJson := .text

end Kind

theorem Category.ofJson?_eq_some_iff {json : Json} {category : Category} :
    ofJson? json = some category ↔ Json.Plain category.name json :=
  Json.member?_eq_some_iff_of_complete (by decide) fun category => by cases category <;> decide

theorem ArithmeticOp.ofJson?_eq_some_iff {json : Json} {op : ArithmeticOp} :
    ofJson? json = some op ↔ Json.Plain op.name json :=
  Json.member?_eq_some_iff_of_complete (by decide) fun op => by cases op <;> decide

theorem BitwiseOp.ofJson?_eq_some_iff {json : Json} {op : BitwiseOp} :
    ofJson? json = some op ↔ Json.Plain op.name json :=
  Json.member?_eq_some_iff_of_complete (by decide) fun op => by cases op <;> decide

theorem ComparisonOp.ofJson?_eq_some_iff {json : Json} {op : ComparisonOp} :
    ofJson? json = some op ↔ Json.Plain op.name json :=
  Json.member?_eq_some_iff_of_complete (by decide) fun op => by cases op <;> decide

theorem MathOp.ofJson?_eq_some_iff {json : Json} {op : MathOp} :
    ofJson? json = some op ↔ Json.Plain op.name json :=
  Json.member?_eq_some_iff_of_complete (by decide) fun op => by cases op <;> decide

/-! ### Operations -/

namespace Operator

/-- The name of the family that an operation is one of. -/
def family? : Operator → Option String
  | .arithmetic _ => some "Arithmetic"
  | .bitwise _ => some "Bitwise"
  | .comparison _ => some "Comparison"
  | .math _ => some "Math"
  | .complement | .epsilonEqualTo | .epsilonNotEqualTo => none

/-- The forms of an operation: the operations of a family stand under its name. -/
inductive Form (op : Operator) : Json → Prop where
  | single {json : Json} (single : op.family? = none) (plain : Json.Plain op.name json) :
      Form op json
  | ofFamily {family : String} {content : Json} (ofFamily : op.family? = some family)
      (plain : Json.Plain op.name content) : Form op (.tagged family content)

theorem ofPlainJson?_eq_some_iff {json : Json} {op : Operator} :
    ofPlainJson? json = some op ↔ op.family? = none ∧ Json.Plain op.name json := by
  have single : op ∈ [complement, epsilonEqualTo, epsilonNotEqualTo] ↔ op.family? = none := by
    cases op <;> simp [family?]
  rw [ofPlainJson?, Json.member?_eq_some_iff (by decide), single]

theorem ofFamilyJson?_eq_some_iff {json : Json} {op : Operator} :
    ofFamilyJson? json = some op ↔ ∃ family content, op.family? = some family ∧
      json = .tagged family content ∧ Json.Plain op.name content := by
  constructor
  · intro read
    unfold ofFamilyJson? at read
    split at read
    · rename_i content tagged
      obtain ⟨member, isMember, rfl⟩ := Option.map_eq_some_iff.mp read
      exact ⟨_, content, rfl, Json.variant?_eq_tagged_iff.mp tagged,
        ArithmeticOp.ofJson?_eq_some_iff.mp isMember⟩
    · rename_i content tagged
      obtain ⟨member, isMember, rfl⟩ := Option.map_eq_some_iff.mp read
      exact ⟨_, content, rfl, Json.variant?_eq_tagged_iff.mp tagged,
        BitwiseOp.ofJson?_eq_some_iff.mp isMember⟩
    · rename_i content tagged
      obtain ⟨member, isMember, rfl⟩ := Option.map_eq_some_iff.mp read
      exact ⟨_, content, rfl, Json.variant?_eq_tagged_iff.mp tagged,
        ComparisonOp.ofJson?_eq_some_iff.mp isMember⟩
    · rename_i content tagged
      obtain ⟨member, isMember, rfl⟩ := Option.map_eq_some_iff.mp read
      exact ⟨_, content, rfl, Json.variant?_eq_tagged_iff.mp tagged,
        MathOp.ofJson?_eq_some_iff.mp isMember⟩
    · cases read
  · rintro ⟨family, content, ofFamily, rfl, plain⟩
    cases op with
    | arithmetic member =>
        cases ofFamily
        exact Option.map_eq_some_iff.mpr ⟨member, ArithmeticOp.ofJson?_eq_some_iff.mpr plain, rfl⟩
    | bitwise member =>
        cases ofFamily
        exact Option.map_eq_some_iff.mpr ⟨member, BitwiseOp.ofJson?_eq_some_iff.mpr plain, rfl⟩
    | comparison member =>
        cases ofFamily
        exact Option.map_eq_some_iff.mpr ⟨member, ComparisonOp.ofJson?_eq_some_iff.mpr plain, rfl⟩
    | math member =>
        cases ofFamily
        exact Option.map_eq_some_iff.mpr ⟨member, MathOp.ofJson?_eq_some_iff.mpr plain, rfl⟩
    | complement => cases ofFamily
    | epsilonEqualTo => cases ofFamily
    | epsilonNotEqualTo => cases ofFamily

theorem ofJson?_eq_some_iff {json : Json} {op : Operator} :
    ofJson? json = some op ↔ Form op json := by
  rw [ofJson?, Option.or_eq_some_iff]
  constructor
  · rintro (read | ⟨-, read⟩)
    · obtain ⟨single, plain⟩ := ofPlainJson?_eq_some_iff.mp read
      exact .single single plain
    · obtain ⟨family, content, ofFamily, rfl, plain⟩ := ofFamilyJson?_eq_some_iff.mp read
      exact .ofFamily ofFamily plain
  · intro form
    cases form with
    | single single plain => exact Or.inl (ofPlainJson?_eq_some_iff.mpr ⟨single, plain⟩)
    | ofFamily ofFamily plain =>
        refine Or.inr ⟨Option.eq_none_iff_forall_ne_some.mpr fun other read => ?_,
          ofFamilyJson?_eq_some_iff.mpr ⟨_, _, ofFamily, rfl, plain⟩⟩
        -- A record that is a variant without content has nothing under its name.
        cases (ofPlainJson?_eq_some_iff.mp read).2
        cases plain

theorem form_toJson (op : Operator) : Form op op.toJson := by
  cases op with
  | arithmetic op => exact .ofFamily rfl .text
  | bitwise op => exact .ofFamily rfl .text
  | complement => exact .single rfl .text
  | comparison op => exact .ofFamily rfl .text
  | epsilonEqualTo => exact .single rfl .text
  | epsilonNotEqualTo => exact .single rfl .text
  | math op => exact .ofFamily rfl .text

end Operator

/-! ### Recipes -/

namespace Recipe

/-- The forms of a recipe. What describes a cast or the use of an operation stands in a record,
whatever else this has. -/
inductive Form : Recipe → Json → Prop where
  | constant {kind : Kind} {content : Json} (plain : Json.Plain kind.tag content) :
      Form (.constant kind) (.tagged "Constant" content)
  | selector {kind : Kind} {content : Json} (plain : Json.Plain kind.tag content) :
      Form (.selector kind) (.tagged "Selector" content)
  | cast {source target : Kind} {fields : List (String × Json)} {first second : Json}
      (found : fields.lookup "from" = some first ∧ fields.lookup "to" = some second)
      (isSource : Json.Plain source.tag first) (isTarget : Json.Plain target.tag second) :
      Form (.cast source target) (.tagged "Cast" (.record fields))
  | operator {op : Operator} {kind : Kind} {fields : List (String × Json)} {first second : Json}
      (found : fields.lookup "op" = some first ∧ fields.lookup "kind" = some second)
      (isOperator : op.Form first) (isKind : Json.Plain kind.tag second) :
      Form (.operator op kind) (.tagged "Operator" (.record fields))

theorem ofJson?_eq_some_iff {json : Json} {recipe : Recipe} :
    ofJson? json = some recipe ↔ Form recipe json := by
  constructor
  · intro read
    unfold ofJson? at read
    split at read
    · rename_i content tagged
      obtain ⟨kind, isKind, rfl⟩ := Option.map_eq_some_iff.mp read
      rw [Json.variant?_eq_tagged_iff.mp tagged]
      exact .constant (Kind.ofJson?_eq_some_iff.mp isKind)
    · rename_i content tagged
      obtain ⟨kind, isKind, rfl⟩ := Option.map_eq_some_iff.mp read
      rw [Json.variant?_eq_tagged_iff.mp tagged]
      exact .selector (Kind.ofJson?_eq_some_iff.mp isKind)
    · rename_i fields tagged
      simp only [Option.bind_eq_bind, Option.bind_eq_some_iff] at read
      obtain ⟨source, ⟨first, foundFirst, isSource⟩, target, ⟨second, foundSecond, isTarget⟩, ⟨⟩⟩ :=
        read
      rw [Json.variant?_eq_tagged_iff.mp tagged]
      exact .cast ⟨foundFirst, foundSecond⟩ (Kind.ofJson?_eq_some_iff.mp isSource)
        (Kind.ofJson?_eq_some_iff.mp isTarget)
    · rename_i fields tagged
      simp only [Option.bind_eq_bind, Option.bind_eq_some_iff] at read
      obtain ⟨op, ⟨first, foundFirst, isOperator⟩, kind, ⟨second, foundSecond, isKind⟩, ⟨⟩⟩ := read
      rw [Json.variant?_eq_tagged_iff.mp tagged]
      exact .operator ⟨foundFirst, foundSecond⟩ (Operator.ofJson?_eq_some_iff.mp isOperator)
        (Kind.ofJson?_eq_some_iff.mp isKind)
    · cases read
  · intro form
    cases form with
    | constant plain =>
        exact Option.map_eq_some_iff.mpr ⟨_, Kind.ofJson?_eq_some_iff.mpr plain, rfl⟩
    | selector plain =>
        exact Option.map_eq_some_iff.mpr ⟨_, Kind.ofJson?_eq_some_iff.mpr plain, rfl⟩
    | cast found isSource isTarget =>
        simp [ofJson?, Json.tagged, Json.variant?, found, Kind.ofJson?_eq_some_iff.mpr isSource,
          Kind.ofJson?_eq_some_iff.mpr isTarget]
    | operator found isOperator isKind =>
        simp [ofJson?, Json.tagged, Json.variant?, found,
          Operator.ofJson?_eq_some_iff.mpr isOperator, Kind.ofJson?_eq_some_iff.mpr isKind]

theorem form_toJson (recipe : Recipe) : Form recipe recipe.toJson := by
  cases recipe with
  | constant kind => exact .constant kind.form_toJson
  | selector kind => exact .selector kind.form_toJson
  | cast source target => exact .cast ⟨rfl, rfl⟩ source.form_toJson target.form_toJson
  | operator op kind => exact .operator ⟨rfl, rfl⟩ op.form_toJson kind.form_toJson

end Recipe

end DemandFlow
