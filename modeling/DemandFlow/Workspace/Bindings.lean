/-!
Contract: names bound to things.

Owns: lists of bindings in ascending order of their names, with look-up, binding and removal.

Does not own: what is bound, and what becomes of a thing whose name is bound again.
-/

namespace DemandFlow

/-- Bindings in ascending order of their names. -/
structure Bindings (Target : Type) where
  entries : List (String × Target)
deriving Inhabited

namespace Bindings

variable {Target : Type}

def empty : Bindings Target := ⟨[]⟩

def get? (bindings : Bindings Target) (name : String) : Option Target :=
  bindings.entries.lookup name

/-- Puts a binding where the order wants it, in place of one of the same name. -/
def insertEntry (name : String) (target : Target) :
    List (String × Target) → List (String × Target)
  | [] => [(name, target)]
  | first :: rest =>
      if first.1 = name then (name, target) :: rest
      else if first.1 < name then first :: insertEntry name target rest
      else (name, target) :: first :: rest

def set (bindings : Bindings Target) (name : String) (target : Target) : Bindings Target :=
  ⟨insertEntry name target bindings.entries⟩

def erase (bindings : Bindings Target) (name : String) : Bindings Target :=
  ⟨bindings.entries.filter (·.1 != name)⟩

def targets (bindings : Bindings Target) : List Target := bindings.entries.map Prod.snd

theorem lookup_insertEntry_same (name : String) (target : Target)
    (entries : List (String × Target)) :
    (insertEntry name target entries).lookup name = some target := by
  induction entries with
  | nil => simp [insertEntry]
  | cons first rest inductionHypothesis =>
      obtain ⟨key, value⟩ := first
      unfold insertEntry
      by_cases same : key = name
      · simp [same]
      · have unequal : (name == key) = false := by
          simpa using fun equal => same equal.symm
        by_cases before : key < name
        · simp [same, before, List.lookup_cons, unequal, inductionHypothesis]
        · simp [same, before]

theorem lookup_insertEntry_other (name : String) (target : Target)
    (entries : List (String × Target)) {other : String} (different : other ≠ name) :
    (insertEntry name target entries).lookup other = entries.lookup other := by
  have unequal : (other == name) = false := by simpa using different
  induction entries with
  | nil => simp [insertEntry, List.lookup_cons, unequal]
  | cons first rest inductionHypothesis =>
      obtain ⟨key, value⟩ := first
      unfold insertEntry
      by_cases same : key = name
      · simp [same, List.lookup_cons, unequal]
      · by_cases before : key < name
        · simp [same, before, List.lookup_cons, inductionHypothesis]
        · simp [same, before, List.lookup_cons, unequal]

@[simp]
theorem get?_set_same (bindings : Bindings Target) (name : String) (target : Target) :
    (bindings.set name target).get? name = some target :=
  lookup_insertEntry_same name target bindings.entries

theorem get?_set_other (bindings : Bindings Target) {name other : String} (target : Target)
    (different : other ≠ name) : (bindings.set name target).get? other = bindings.get? other :=
  lookup_insertEntry_other name target bindings.entries different

end Bindings

end DemandFlow
