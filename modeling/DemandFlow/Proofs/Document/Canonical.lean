import DemandFlow.Proofs.Document.Form
import DemandFlow.Proofs.Document.Identifier

/-!
Contract: documents of node types and of links.

Owns: the forms of both, and what it means that a reader and a writer agree on canonical forms.

Main statement: what is written of a node type or of a link, whatever its texts, is read back as it;
just the forms of it are read as it, with fields in any order and others among them and identifiers
in every spelling; and what is read is written in a form that stays as it is when it is read and
written again (`Document.canonical_forms`).

Does not own: the text of documents.
-/

namespace DemandFlow

/-! ### Canonical forms -/

namespace Json

/-- A writer picks, of all the forms that a reader takes for a content, one that is read as the
content and so is written again as it is. -/
structure Canonical {Content : Type} (write : Content → Json) (read? : Json → Option Content)
    (Form : Content → Json → Prop) : Prop where
  read_write : ∀ content, read? (write content) = some content
  accepts : ∀ json content, read? json = some content ↔ Form content json
  /-- Fields of distinct names may be given in any order, and others with them. -/
  rearranged : ∀ own given content, read? (.record own) = some content →
    (given.map Prod.fst).Nodup → own ⊆ given → read? (.record given) = some content
  settled : ∀ json content, read? json = some content →
    read? (write content) = read? json ∧ (read? (write content)).map write = some (write content)

theorem canonical_of_forms {Content : Type} {write : Content → Json}
    {read? : Json → Option Content} {Form : Content → Json → Prop}
    (accepts : ∀ json content, read? json = some content ↔ Form content json)
    (written : ∀ content, Form content (write content))
    (rearranged : ∀ own given content, Form content (.record own) → (given.map Prod.fst).Nodup →
      own ⊆ given → Form content (.record given)) : Canonical write read? Form where
  read_write content := (accepts _ _).mpr (written content)
  accepts := accepts
  rearranged own given content read distinct kept :=
    (accepts _ _).mpr (rearranged own given content ((accepts _ _).mp read) distinct kept)
  settled json content read := by
    have again : read? (write content) = some content := (accepts _ _).mpr (written content)
    rw [again, read]
    exact ⟨rfl, rfl⟩

end Json

/-! ### Node types -/

namespace NodeType

/-- The forms of a node type. -/
inductive Form (nodeType : NodeType) (json : Json) : Prop where
  | fields {category recipe : Json}
      (fields : Json.Fields ["id", "category", "description", "recipe"]
        [.text nodeType.id, category, .text nodeType.description, recipe] json)
      (isCategory : Json.Plain nodeType.category.name category)
      (isRecipe : nodeType.recipe.Form recipe)

theorem ofJson?_eq_some_iff {json : Json} {nodeType : NodeType} :
    ofJson? json = some nodeType ↔ nodeType.Form json := by
  constructor
  · intro read
    unfold ofJson? at read
    split at read
    · rename_i id category description recipe found
      simp only [Option.bind_eq_bind, Option.bind_eq_some_iff, Json.text?_eq_some_iff] at read
      obtain ⟨_, rfl, _, isCategory, _, rfl, _, isRecipe, ⟨⟩⟩ := read
      exact .fields (Json.fields?_eq_some_iff.mp found)
        (Category.ofJson?_eq_some_iff.mp isCategory) (Recipe.ofJson?_eq_some_iff.mp isRecipe)
    · cases read
  · rintro ⟨fields, isCategory, isRecipe⟩
    simp [ofJson?, Json.fields?_eq_some_iff.mpr fields, Json.text?,
      Category.ofJson?_eq_some_iff.mpr isCategory, Recipe.ofJson?_eq_some_iff.mpr isRecipe]

theorem form_toJson (nodeType : NodeType) : nodeType.Form nodeType.toJson :=
  .fields (.record (.cons rfl (.cons rfl (.cons rfl (.cons rfl .nil))))) .text
    nodeType.recipe.form_toJson

theorem Form.rearrange {nodeType : NodeType} {own given : List (String × Json)}
    (form : nodeType.Form (.record own)) (distinct : (given.map Prod.fst).Nodup)
    (kept : own ⊆ given) : nodeType.Form (.record given) := by
  obtain ⟨fields, isCategory, isRecipe⟩ := form
  exact .fields (fields.rearrange distinct kept) isCategory isRecipe

end NodeType

/-! ### Links -/

theorem Uuid.ofJson?_eq_some_iff {json : Json} {uuid : Uuid} :
    ofJson? json = some uuid ↔ ∃ text, json = .text text ∧ uuid.Spelling text.toList := by
  simp only [ofJson?, Option.bind_eq_some_iff, Json.text?_eq_some_iff, read?_eq_some_iff]

namespace Connection

/-- The forms of a link. -/
inductive Form (connection : Connection Uuid) (json : Json) : Prop where
  | fields {fromNode toNode : String}
      (fields : Json.Fields ["from_node", "from_port", "to_node", "to_port"]
        [.text fromNode, .text connection.fromPort, .text toNode, .text connection.toPort] json)
      (isSource : connection.fromNode.Spelling fromNode.toList)
      (isTarget : connection.toNode.Spelling toNode.toList)

theorem ofJson?_eq_some_iff {json : Json} {connection : Connection Uuid} :
    ofJson? json = some connection ↔ connection.Form json := by
  constructor
  · intro read
    unfold ofJson? at read
    split at read
    · rename_i fromNode fromPort toNode toPort found
      simp only [Option.bind_eq_bind, Option.bind_eq_some_iff, Json.text?_eq_some_iff,
        Uuid.ofJson?_eq_some_iff] at read
      obtain ⟨_, ⟨_, rfl, isSource⟩, _, rfl, _, ⟨_, rfl, isTarget⟩, _, rfl, ⟨⟩⟩ := read
      exact .fields (Json.fields?_eq_some_iff.mp found) isSource isTarget
    · cases read
  · rintro ⟨fields, isSource, isTarget⟩
    simp [ofJson?, Json.fields?_eq_some_iff.mpr fields, Json.text?,
      Uuid.ofJson?_eq_some_iff.mpr ⟨_, rfl, isSource⟩,
      Uuid.ofJson?_eq_some_iff.mpr ⟨_, rfl, isTarget⟩]

theorem form_toJson (connection : Connection Uuid) : connection.Form connection.toJson :=
  .fields (.record (.cons rfl (.cons rfl (.cons rfl (.cons rfl .nil)))))
    connection.fromNode.spelling_text connection.toNode.spelling_text

theorem Form.rearrange {connection : Connection Uuid} {own given : List (String × Json)}
    (form : connection.Form (.record own)) (distinct : (given.map Prod.fst).Nodup)
    (kept : own ⊆ given) : connection.Form (.record given) := by
  obtain ⟨fields, isSource, isTarget⟩ := form
  exact .fields (fields.rearrange distinct kept) isSource isTarget

end Connection

/-- Node types and links are read back from what is written of them; just their forms are read as
them; and what is read and written again is a form that is read as the same and written as it is. -/
theorem Document.canonical_forms :
    Json.Canonical NodeType.toJson NodeType.ofJson? NodeType.Form ∧
      Json.Canonical Connection.toJson Connection.ofJson? Connection.Form :=
  ⟨Json.canonical_of_forms (fun _ _ => NodeType.ofJson?_eq_some_iff) NodeType.form_toJson
      fun _ _ _ form => form.rearrange,
    Json.canonical_of_forms (fun _ _ => Connection.ofJson?_eq_some_iff) Connection.form_toJson
      fun _ _ _ form => form.rearrange⟩

end DemandFlow
