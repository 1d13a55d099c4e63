/-!
Contract: the values of JSON documents, and the forms in which variants and records are stored.

Owns: JSON values, tagged variants, and fields of records.

Does not own: JSON text, and what is stored in the documents (`Document.Codec`).

A variant without content is stored as its name, a variant with content as a record whose one
field bears its name. A record is read from its fields in any order, others ignored, or from the
list of its fields' values in the order of declaration. What is read are values, and not their text:
the fields of a record have different names.
-/

namespace DemandFlow

/-- A JSON value. Numbers are in decimal: `mantissa / 10 ^ places`. -/
inductive Json where
  | null
  | bool (value : Bool)
  | number (mantissa : Int) (places : Nat)
  | text (value : String)
  | list (items : List Json)
  | record (fields : List (String × Json))
deriving Repr, Inhabited

namespace Json

/-- The name of a variant and its content, if it has one. -/
def variant? : Json → Option (String × Option Json)
  | .text name => some (name, none)
  | .record [(name, content)] => some (name, some content)
  | _ => none

/-- The name of a variant without content. An explicit `null` counts as no content. -/
def plainVariant? (json : Json) : Option String :=
  match json.variant? with
  | some (name, none) => some name
  | some (name, some .null) => some name
  | _ => none

/-- The member of a list that has the name of a variant without content. -/
def member? {Member : Type} (all : List Member) (name : Member → String) (json : Json) :
    Option Member :=
  json.plainVariant?.bind fun wanted => all.find? fun candidate => name candidate == wanted

/-- The values of the named fields of a record, whose fields have different names. -/
def fieldsOfRecord? (names : List String) (fields : List (String × Json)) : Option (List Json) :=
  names.mapM fun name => fields.lookup name

/-- The values of the named fields of a record or of a list of as many values. -/
def fields? (names : List String) : Json → Option (List Json)
  | .record fields => fieldsOfRecord? names fields
  | .list items => if items.length = names.length then some items else none
  | _ => none

def text? : Json → Option String
  | .text value => some value
  | _ => none

/-- A variant with content. -/
def tagged (name : String) (content : Json) : Json := .record [(name, content)]

end Json

end DemandFlow
