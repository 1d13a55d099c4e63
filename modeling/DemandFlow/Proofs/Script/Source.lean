import DemandFlow.Script.Source
import DemandFlow.Proofs.Script.Grammar

/-!
Contract: whole scripts that are written and read back.

Owns: which terms a script can hold, the tokens of their written form, and reading them.

Main statement: `Source.read?_pretty`. A term with words that are values, with names where names
belong, and with records that do not lie too deep in each other is read back as it was.

Does not own: the terms of the settings (`Proofs.Sample.Stored`).
-/

namespace DemandFlow.Script

/-- What can stand before the parentheses of a record. -/
structure IsHeading (name : String) : Prop where
  isName : Identifier.isName name.toList = true
  noOption : name ≠ "Some"
  incomplete : Reader.isComplete name = false

/-- A term that is read back where there are that many levels: its words are values and its fields
have names. A record takes two levels more than its fields. -/
inductive Written : Nat → Term → Prop
  | word {levels : Nat} {spelling : String} (isWord : IsWord spelling.toList)
      (noOption : spelling ≠ "Some")
      (value : Reader.isComplete spelling = true ∨ Identifier.isName spelling.toList = true) :
      Written levels (.word spelling)
  | text {levels : Nat} (value : String) : Written levels (.text value)
  | record {levels : Nat} {name : Option String} {fields : List (String × Term)}
      (heading : ∀ spelling ∈ name, IsHeading spelling)
      (names : ∀ field ∈ fields, Identifier.isName field.1.toList = true)
      (values : ∀ field ∈ fields, Written levels field.2) :
      Written (levels + 2) (.record name fields)

theorem endsWord_cons {char : Char} (ends : isWordChar char = false)
    (plain : char ∉ ['"', '\'', '#']) (rest : List Char) : EndsWord (char :: rest) := by
  rintro _ ⟨⟩
  exact ⟨ends, plain⟩

/-- The fields of a record, given what is known of their values. -/
theorem exists_fieldTokens {levels : Nat} (margin : Nat) {fields : List (String × Term)}
    (names : ∀ field ∈ fields, Identifier.isName field.1.toList = true)
    (values : ∀ field ∈ fields, ∀ rest, EndsWord rest →
      ∃ tokens,
        Cuts (Term.pretty margin field.2 ++ rest) tokens rest ∧ Spells levels tokens field.2)
    (rest : List Char) :
    ∃ tokens, Cuts (Term.prettyFields margin fields ++ rest) tokens rest ∧
      SpellsFields levels tokens fields := by
  induction fields with
  | nil => exact ⟨[], .done rest, .nil⟩
  | cons field fields inductionHypothesis =>
    obtain ⟨name, value⟩ := field
    obtain ⟨others, othersCut, othersSpell⟩ := inductionHypothesis
      (fun field mem => names field (List.mem_cons_of_mem _ mem))
      (fun field mem => values field (List.mem_cons_of_mem _ mem))
    obtain ⟨content, contentCut, contentSpells⟩ := values _ List.mem_cons_self
      (',' :: '\n' :: (Term.prettyFields margin fields ++ rest))
      (endsWord_cons (by decide +kernel) (by decide) _)
    have isName := names _ List.mem_cons_self
    have textEq : Term.prettyFields margin ((name, value) :: fields) ++ rest =
        List.replicate margin ' ' ++ (name.toList ++ ':' :: ' ' :: (Term.pretty margin value ++
          ',' :: '\n' :: (Term.prettyFields margin fields ++ rest))) := by
      simp [Term.prettyFields]
    have nameEnds : EndsWord (':' :: ' ' :: (Term.pretty margin value ++
        ',' :: '\n' :: (Term.prettyFields margin fields ++ rest))) :=
      endsWord_cons (by decide +kernel) (by decide) _
    have nameCut := Cuts.word (isWord_of_isName isName) nameEnds
    rw [String.ofList_toList] at nameCut
    refine ⟨_, ?_, .cons isName contentSpells othersSpell⟩
    rw [textEq]
    exact (Cuts.blanks margin _).append <| nameCut.append <|
      (Cuts.mark (by decide) (by decide) (by decide) _).append <|
      (Cuts.blank (by decide) (by decide) _).append <| contentCut.append <|
      (Cuts.mark (by decide) (by decide) (by decide) _).append <|
      (Cuts.blank (by decide) (by decide) _).append othersCut

/-- A written term is cut into tokens that spell it, whatever ends the words behind it. -/
theorem Written.exists_tokens {levels : Nat} {term : Term} (written : Written levels term)
    (margin : Nat) {rest : List Char} (ends : EndsWord rest) :
    ∃ tokens, Cuts (Term.pretty margin term ++ rest) tokens rest ∧ Spells levels tokens term := by
  induction written generalizing margin rest with
  | word isWord noOption value =>
    have cut := Cuts.word isWord ends
    rw [String.ofList_toList] at cut
    exact ⟨_, cut, .word noOption value⟩
  | text value => exact ⟨_, .quoted value rest, .text value⟩
  | record heading names _ inductionHypothesis =>
    rename_i levels name fields _
    obtain ⟨tokens, fieldsCut, fieldsSpell⟩ := exists_fieldTokens (margin + 4) names
      (fun field mem rest ends => inductionHypothesis field mem (margin + 4) ends)
      (List.replicate margin ' ' ++ ')' :: rest)
    have lineEnds : '\n' ≠ ')' := by decide
    have bodyCut := (Cuts.opening lineEnds _).append <|
      (Cuts.blank (by decide) (by decide) _).append <| fieldsCut.append <|
      (Cuts.blanks margin _).append <|
      (Cuts.mark (by decide) (by decide) (by decide) rest)
    cases name with
    | none =>
      have textEq : Term.pretty margin (.record none fields) ++ rest =
          '(' :: '\n' :: (Term.prettyFields (margin + 4) fields ++
            (List.replicate margin ' ' ++ ')' :: rest)) := by
        simp [Term.pretty]
      rw [textEq]
      exact ⟨_, bodyCut, .record fieldsSpell _⟩
    | some name =>
      have isHeading := heading name rfl
      have textEq : Term.pretty margin (.record (some name) fields) ++ rest =
          name.toList ++ '(' :: '\n' :: (Term.prettyFields (margin + 4) fields ++
            (List.replicate margin ' ' ++ ')' :: rest)) := by
        simp [Term.pretty]
      have nameEnds : EndsWord ('(' :: '\n' :: (Term.prettyFields (margin + 4) fields ++
          (List.replicate margin ' ' ++ ')' :: rest))) :=
        endsWord_cons (by decide +kernel) (by decide) _
      have nameCut := Cuts.word (isWord_of_isName isHeading.isName) nameEnds
      rw [String.ofList_toList] at nameCut
      rw [textEq]
      exact ⟨_, nameCut.append bodyCut, .namedRecord fieldsSpell isHeading.noOption isHeading.isName
        isHeading.incomplete _⟩

/-- A term that does not begin with the mark of a heading has none before it. -/
theorem Source.headingsWithin_eq {limit : Nat} {first : Token} (rest : List Token)
    (noHeading : first ≠ .mark '#') :
    Source.headingsWithin limit (first :: rest) = some ([], first :: rest) := by
  cases limit with
  | zero => simp [headingsWithin, noHeading]
  | succ limit => simp [headingsWithin, noHeading]

theorem Source.read?_pretty {term : Term} (written : Written Reader.levelLimit term) :
    Source.read? (String.ofList (term.pretty 0)) = some ⟨[], term⟩ := by
  have ends : EndsWord [] := nofun
  obtain ⟨tokens, cut, spells⟩ := written.exists_tokens 0 ends
  rw [List.append_nil] at cut
  have read := spells [] rfl
  rw [List.append_nil] at read
  have headings : headingsWithin tokens.length tokens = some ([], tokens) := by
    cases tokens with
    | nil => cases read
    | cons first others =>
      refine headingsWithin_eq others ?_
      rintro rfl
      cases read
  have body : Reader.term [] tokens = some (term, []) := read
  unfold Source.read?
  rw [String.toList_ofList, cut.scan?]
  simp only [Option.bind_eq_bind, Option.bind_some, headings, body]

end DemandFlow.Script
