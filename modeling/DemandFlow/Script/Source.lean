import DemandFlow.Script.Grammar

/-!
Contract: whole scripts.

Owns: the headings of a script and the names of the extensions there.

Does not own: terms (`Script.Grammar`).

A script is any number of headings and one term. All headings together say which extensions are
enabled, and what one enables holds for the whole term.
-/

namespace DemandFlow.Script

structure Source where
  /-- The extensions that the headings enable. -/
  enabled : List Extension
  body : Term
deriving Repr

namespace Source

def extensionNames : List (String × Extension) :=
  [("unwrap_newtypes", .unwrappedRecords), ("implicit_some", .unwrappedOptions),
    ("unwrap_variant_newtypes", .unwrappedParts), ("explicit_struct_names", .namedRecords)]

def extension : Reader Extension
  | token :: rest => (token.name?.bind fun name => extensionNames.lookup name).map (·, rest)
  | [] => none

/-- Reads at most `limit` headings, each with one extension at least. -/
def headingsWithin : (limit : Nat) → Reader (List Extension)
  | limit + 1, .mark '#' :: .mark '!' :: .mark '[' :: .word "enable" :: .opening _ :: rest => do
      let (enabled, rest) ← Reader.separated extension ')' rest
      match enabled, rest with
      | _ :: _, .mark ']' :: rest => do
          let (others, rest) ← headingsWithin limit rest
          return (enabled ++ others, rest)
      | _, _ => none
  | _, .mark '#' :: _ => none
  | _, tokens => some ([], tokens)

def read? (text : String) : Option Source := do
  let tokens ← scan? text.toList
  let (enabled, tokens) ← headingsWithin tokens.length tokens
  match Reader.term enabled tokens with
  | some (body, []) => some ⟨enabled, body⟩
  | _ => none

/-- Whether every record of settings has to bear its name. -/
def namesRequired (source : Source) : Bool := source.enabled.contains .namedRecords

end Source

end DemandFlow.Script
