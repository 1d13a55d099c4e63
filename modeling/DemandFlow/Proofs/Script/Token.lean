import DemandFlow.Script.Token
import DemandFlow.Proofs.Script.Quoted

/-!
Contract: how a text is cut into tokens, token by token.

Owns: the front of a text that is cut into given tokens, and the tokens of a word, of quoted text
and of the marks between them.

Main statement: `Cuts.scan?`. A text that is cut up to its end has those tokens.

Does not own: what the tokens stand for (`Proofs.Script.Grammar`).

Cutting has a limit of as many steps as there are characters. It is never met, because every step
takes a character; each step of `Cuts` keeps that fact, so nobody else has to count.
-/

namespace DemandFlow.Script

/-- The front of a text is cut into tokens, and the last text is what is left. -/
inductive Cuts : List Char → List Token → List Char → Prop
  | done (text : List Char) : Cuts text [] text
  | skip {text rest last : List Char} {tokens : List Token} (step : step? text = some (none, rest))
      (shorter : rest.length < text.length) (others : Cuts rest tokens last) : Cuts text tokens last
  | token {text rest last : List Char} {token : Token} {tokens : List Token}
      (step : step? text = some (some token, rest)) (shorter : rest.length < text.length)
      (others : Cuts rest tokens last) : Cuts text (token :: tokens) last

namespace Cuts

variable {text rest last : List Char} {tokens others : List Token}

theorem append (front : Cuts text tokens rest) (back : Cuts rest others last) :
    Cuts text (tokens ++ others) last := by
  induction front with
  | done text => exact back
  | skip step shorter _ inductionHypothesis => exact .skip step shorter (inductionHypothesis back)
  | token step shorter _ inductionHypothesis => exact .token step shorter (inductionHypothesis back)

theorem scanWithin_eq (cuts : Cuts text tokens last) (ends : last = []) {limit : Nat}
    (enough : text.length ≤ limit) : scanWithin limit text = some tokens := by
  induction cuts generalizing limit with
  | done text =>
    subst ends
    cases limit <;> rfl
  | skip step shorter _ inductionHypothesis =>
    rename_i text rest last tokens _
    obtain ⟨limit, rfl⟩ : ∃ before, limit = before + 1 :=
      Nat.exists_eq_succ_of_ne_zero (by omega)
    obtain ⟨first, behind, rfl⟩ := List.exists_cons_of_length_pos (Nat.zero_lt_of_lt shorter)
    simp only [scanWithin, step]
    exact inductionHypothesis ends (by omega)
  | token step shorter _ inductionHypothesis =>
    rename_i text rest last token tokens _
    obtain ⟨limit, rfl⟩ : ∃ before, limit = before + 1 :=
      Nat.exists_eq_succ_of_ne_zero (by omega)
    obtain ⟨first, behind, rfl⟩ := List.exists_cons_of_length_pos (Nat.zero_lt_of_lt shorter)
    simp only [scanWithin, step]
    rw [inductionHypothesis ends (by omega)]
    rfl

/-- A text that is cut up to its end has the tokens it is cut into. -/
theorem scan? (cuts : Cuts text tokens []) : Script.scan? text = some tokens :=
  cuts.scanWithin_eq rfl le_rfl

end Cuts

/-! ### Single characters -/

theorem step?_char {first : Char} {rest : List Char}
    (plain : first ∉ ['/', '"', '\'', '(']) :
    step? (first :: rest) =
      if isBlank first then some (none, rest)
      else if isMark first then some (some (.mark first), rest)
      else if isWordChar first then
        (ofWord? (first :: rest.takeWhile (goesOn first)) (rest.dropWhile (goesOn first))).map
          fun (token, rest) => (some token, rest)
      else none := by
  simp only [List.mem_cons, List.not_mem_nil, or_false, not_or] at plain
  obtain ⟨slash, quote, apostrophe, parenthesis⟩ := plain
  unfold step?
  split <;> rename_i same
  · cases same
  all_goals obtain ⟨rfl, rfl⟩ := List.cons.inj same
  · exact absurd rfl slash
  · exact absurd rfl slash
  · exact absurd rfl quote
  · exact absurd rfl apostrophe
  · exact absurd rfl parenthesis
  · exact absurd rfl parenthesis
  · rfl

namespace Cuts

theorem blank {first : Char} (blank : isBlank first = true) (plain : first ∉ ['/', '"', '\'', '('])
    (rest : List Char) : Cuts (first :: rest) [] rest := by
  refine .skip ?_ (by simp) (.done rest)
  rw [step?_char plain, if_pos blank]

theorem blanks (count : Nat) (rest : List Char) :
    Cuts (List.replicate count ' ' ++ rest) [] rest := by
  induction count with
  | zero => exact .done rest
  | succ count inductionHypothesis =>
    rw [List.replicate_succ, List.cons_append]
    exact (blank (by decide) (by decide) _).append inductionHypothesis

theorem mark {first : Char} (mark : isMark first = true) (notBlank : isBlank first = false)
    (plain : first ∉ ['/', '"', '\'', '(']) (rest : List Char) :
    Cuts (first :: rest) [.mark first] rest := by
  refine .token ?_ (by simp) (.done rest)
  rw [step?_char plain, if_neg (by simp [notBlank]), if_pos mark]

theorem opening {first : Char} (notClosed : first ≠ ')') (rest : List Char) :
    Cuts ('(' :: first :: rest) [.opening (first :: rest)] (first :: rest) := by
  refine .token ?_ (by simp) (.done (first :: rest))
  simp [step?, notClosed]

theorem quoted (text : String) (rest : List Char) :
    Cuts (Escape.quote ['"', '\''] text ++ rest) [.text text] rest := by
  have read := Quotation.close?_escaped text.toList rest
  unfold Escape.quote
  rw [List.cons_append, List.append_assoc, List.singleton_append]
  refine .token ?_ ?_ (.done rest)
  · show (Quotation.prose.close? _).map _ = _
    rw [read]
    simp
  · simp only [List.length_cons, List.length_append]
    omega

end Cuts

/-! ### Words -/

/-- A word that is cut from a text as a whole. -/
def IsWord (word : List Char) : Prop :=
  ∃ first rest, word = first :: rest ∧ isWordChar first = true ∧
    ∀ char ∈ rest, goesOn first char = true

/-- What ends any word and begins no quoted text or raw name with it. -/
def EndsWord (rest : List Char) : Prop :=
  ∀ char ∈ rest.head?, isWordChar char = false ∧ char ∉ ['"', '\'', '#']

theorem isWordChar_of_goesOn {first char : Char} (further : goesOn first char = true) :
    isWordChar char = true := by
  unfold goesOn at further
  split at further
  · exact Bool.or_eq_true_iff.mpr (.inl further)
  · exact further

/-- Characters of words are none of those that are told apart before words are. -/
theorem plain_of_isWordChar {char : Char} (part : isWordChar char = true) :
    char ∉ ['/', '"', '\'', '('] := by
  have none : ['/', '"', '\'', '('].any isWordChar = false := by decide +kernel
  exact fun mem => List.any_eq_false.mp none char mem part

theorem not_isBlank_of_isWordChar {char : Char} (part : isWordChar char = true) :
    isBlank char = false := by
  have none : [0x09, 0x0a, 0x0b, 0x0c, 0x0d, 0x20, 0x85, 0x200e, 0x200f, 0x2028, 0x2029].any
      (fun code => isWordChar (Char.ofNat code)) = false := by decide +kernel
  refine Bool.eq_false_iff.mpr fun blank => ?_
  have apart := List.any_eq_false.mp none char.toNat (List.contains_iff_mem.mp blank)
  rw [Char.ofNat_toNat] at apart
  exact apart part

theorem not_isMark_of_isWordChar {char : Char} (part : isWordChar char = true) :
    isMark char = false := by
  have none : ")[]\x7b\x7d,:#!".toList.any isWordChar = false := by decide +kernel
  exact Bool.eq_false_iff.mpr fun mark =>
    List.any_eq_false.mp none char (List.contains_iff_mem.mp mark) part

/-- A name is a word. -/
theorem isWord_of_isName {name : List Char} (isName : Identifier.isName name = true) :
    IsWord name := by
  cases name with
  | nil => cases isName
  | cons first rest =>
    obtain ⟨begins, further⟩ := Bool.and_eq_true_iff.mp isName
    refine ⟨first, rest, rfl, ?_, fun char mem => ?_⟩
    · simp [isWordChar, Identifier.isNext, begins]
    · rw [goesOn, if_pos begins]
      exact List.all_eq_true.mp further char mem

theorem ofWord?_eq {word rest : List Char} (ends : EndsWord rest) :
    ofWord? word rest = some (.word (String.ofList word), rest) := by
  have next {char : Char} {behind : List Char} (same : rest = char :: behind) :
      char ∉ ['"', '\'', '#'] := (ends char (by rw [same]; rfl)).2
  unfold ofWord?
  split
  · exact absurd (by simp) (next rfl)
  · exact absurd (by simp) (next rfl)
  · exact absurd (by simp) (next rfl)
  · exact absurd (by simp) (next rfl)
  · exact absurd (by simp) (next rfl)
  · exact absurd (by simp) (next rfl)
  · rfl

/-- A word is cut as a whole, up to a character that ends any word. -/
theorem Cuts.word {word : List Char} (isWord : IsWord word) {rest : List Char}
    (ends : EndsWord rest) : Cuts (word ++ rest) [.word (String.ofList word)] rest := by
  obtain ⟨first, others, rfl, part, further⟩ := isWord
  have stops : rest.takeWhile (goesOn first) = [] ∧ rest.dropWhile (goesOn first) = rest := by
    cases rest with
    | nil => exact ⟨rfl, rfl⟩
    | cons char behind =>
      have stop : ¬ goesOn first char = true := fun goes =>
        Bool.false_ne_true ((ends char rfl).1.symm.trans (isWordChar_of_goesOn goes))
      exact ⟨List.takeWhile_cons_of_neg stop, List.dropWhile_cons_of_neg stop⟩
  have taken : (others ++ rest).takeWhile (goesOn first) = others := by
    rw [List.takeWhile_append_of_pos further, stops.1, List.append_nil]
  have left : (others ++ rest).dropWhile (goesOn first) = rest := by
    rw [List.dropWhile_append_of_pos further, stops.2]
  rw [List.cons_append]
  refine .token ?_ ?_ (.done rest)
  · rw [step?_char (plain_of_isWordChar part), if_neg (by simp [not_isBlank_of_isWordChar part]),
      if_neg (by simp [not_isMark_of_isWordChar part]), if_pos part, taken, left, ofWord?_eq ends]
    rfl
  · rw [List.length_cons, List.length_append]
    omega

end DemandFlow.Script
