import DemandFlow.Script.Grammar
import DemandFlow.Proofs.Script.Number
import DemandFlow.Proofs.Script.Token

/-!
Contract: the tokens that a term is read from.

Owns: when tokens spell a term for a reader with some levels left, for words, quoted text and
records.

Main statement: `Spells.record`. The tokens of a record's fields, with a comma behind each, between
parentheses are read as the record, with two levels more than the fields take.

Does not own: the text of the tokens (`Proofs.Script.Source`), and terms that nothing writes.
-/

namespace DemandFlow.Script

/-- The tokens are read as the term where there are that many levels, whatever follows, as long as
it opens no parenthesis. -/
def Spells (levels : Nat) (tokens : List Token) (term : Term) : Prop :=
  ∀ rest, Reader.opened? rest = none →
    Reader.shape [] (Reader.below [] levels) (tokens ++ rest) = some (term, rest)

/-- The tokens are those of fields with a comma behind each. -/
inductive SpellsFields (levels : Nat) : List Token → List (String × Term) → Prop
  | nil : SpellsFields levels [] []
  | cons {name : String} {value : Term} {content others : List Token}
      {fields : List (String × Term)} (isName : Identifier.isName name.toList = true)
      (spells : Spells levels content value) (rest : SpellsFields levels others fields) :
      SpellsFields levels (.word name :: .mark ':' :: (content ++ .mark ',' :: others))
        ((name, value) :: fields)

namespace Reader

theorem shape_word {enabled : List Extension} {fewer : List (Reader Term)} {spelling : String}
    (noOption : spelling ≠ "Some") (rest : List Token) :
    shape enabled fewer (.word spelling :: rest) =
      if isComplete spelling then some (.word spelling, rest)
      else if Identifier.isName spelling.toList then
        (opened? rest).elim (some (.word spelling, rest))
          (enclosure (fun part => group part (some spelling)) fewer)
      else none := by
  simp only [shape]
  cases opened? rest <;> rfl

theorem not_isComplete_some : isComplete "Some" = false := by decide +kernel

end Reader

namespace Spells

variable {levels : Nat}

theorem text (value : String) : Spells levels [.text value] (.text value) := fun _ _ => rfl

/-- A value that is complete by itself, and a name that no parenthesis follows. -/
theorem word {spelling : String} (noOption : spelling ≠ "Some")
    (value : Reader.isComplete spelling = true ∨ Identifier.isName spelling.toList = true) :
    Spells levels [.word spelling] (.word spelling) := by
  intro rest unopened
  rw [List.singleton_append, Reader.shape_word noOption, unopened, Option.elim_none]
  split
  · rfl
  · rename_i incomplete
    rw [if_pos (value.resolve_left incomplete)]

end Spells

/-! ### Records -/

theorem Token.name?_word {spelling : String} (isName : Identifier.isName spelling.toList = true) :
    (Token.word spelling).name? = some spelling := if_pos isName

namespace SpellsFields

variable {levels : Nat} {tokens : List Token} {fields : List (String × Term)}

theorem separatedWithin_eq (spells : SpellsFields levels tokens fields) (rest : List Token)
    {limit : Nat} (enough : fields.length < limit) :
    Reader.separatedWithin (Reader.field (Reader.shape [] (Reader.below [] levels))) ')' limit
      (tokens ++ .mark ')' :: rest) = some (fields, rest) := by
  induction spells generalizing limit with
  | nil =>
    obtain ⟨limit, rfl⟩ := Nat.exists_eq_succ_of_ne_zero enough.ne'
    rfl
  | cons isName spells _ inductionHypothesis =>
    rename_i name value content others fields _
    obtain ⟨limit, rfl⟩ := Nat.exists_eq_succ_of_ne_zero (Nat.ne_of_gt (Nat.zero_lt_of_lt enough))
    have read := spells (.mark ',' :: (others ++ .mark ')' :: rest)) rfl
    have left : fields.length < limit := by simpa using enough
    have further := inductionHypothesis left
    simp [Reader.separatedWithin, Reader.field, Token.name?_word isName, read, further]

theorem length_le (spells : SpellsFields levels tokens fields) : fields.length ≤ tokens.length := by
  induction spells with
  | nil => exact le_rfl
  | cons _ _ _ inductionHypothesis =>
    simp only [List.length_cons, List.length_append]
    omega

/-- Fields between parentheses, the opening one read already, are a record. -/
theorem group_eq (spells : SpellsFields levels tokens fields) (name : Option String)
    (rest : List Token) :
    Reader.group (Reader.shape [] (Reader.below [] levels)) name (tokens ++ .mark ')' :: rest) =
      some (.record name fields, rest) := by
  have enough : fields.length < (tokens ++ .mark ')' :: rest).length := by
    have shorter := spells.length_le
    rw [List.length_append, List.length_cons]
    omega
  have separated := spells.separatedWithin_eq rest enough
  cases spells with
  | nil =>
    have noField : Reader.startsField (.mark ')' :: rest) = false := by
      unfold Reader.startsField
      split
      · rename_i same
        obtain ⟨rfl, -⟩ := List.cons.inj same
        rfl
      · rfl
    unfold Reader.group
    rw [List.nil_append, noField]
    rfl
  | cons isName spells further =>
    rename_i first value content others fields
    have startsField : Reader.startsField (.word first :: .mark ':' ::
        (content ++ .mark ',' :: others) ++ .mark ')' :: rest) = true := by
      show (Token.word first).name?.isSome = true
      rw [Token.name?_word isName]
      rfl
    unfold Reader.group
    rw [if_pos startsField]
    unfold Reader.separated
    rw [separated]
    rfl

end SpellsFields

namespace Spells

variable {levels : Nat} {tokens : List Token} {fields : List (String × Term)}

/-- A record without a name. -/
theorem record (spells : SpellsFields levels tokens fields) (behind : List Char) :
    Spells (levels + 2) (.opening behind :: (tokens ++ [.mark ')'])) (.record none fields) := by
  intro rest _
  rw [List.cons_append, List.append_assoc]
  exact spells.group_eq none rest

/-- A record with a name. -/
theorem namedRecord (spells : SpellsFields levels tokens fields) {name : String}
    (noOption : name ≠ "Some") (isName : Identifier.isName name.toList = true)
    (incomplete : Reader.isComplete name = false) (behind : List Char) :
    Spells (levels + 2) (.word name :: .opening behind :: (tokens ++ [.mark ')']))
      (.record (some name) fields) := by
  intro rest _
  rw [List.cons_append, List.cons_append, List.append_assoc, Reader.shape_word noOption, incomplete,
    if_neg Bool.false_ne_true, if_pos isName]
  exact spells.group_eq (some name) rest

end Spells

end DemandFlow.Script
