import DemandFlow.Document.Uuid
import DemandFlow.Proofs.Text.Hex
import Mathlib.Algebra.GroupWithZero.Nat

/-!
Contract: the texts that are read as an identifier.

Owns: the spellings of an identifier, groups of characters between hyphens, and what may stand
around them.

Main statement: just the spellings of an identifier are read as that identifier
(`Uuid.read?_eq_some_iff`), and the text written for it is one of them (`Uuid.spelling_text`).

Does not own: the documents that hold identifiers (`Proofs.Document.Canonical`).
-/

namespace DemandFlow.Uuid

/-- Characters that are the digits of an identifier when written in lower case. -/
def Spells (chars : List Char) (uuid : Uuid) : Prop :=
  chars.map Char.toLower = uuid.digits.map Hex.digit

/-- The spellings of an identifier: its digits, each in either case, bare or in groups between
hyphens; and groups may stand between braces, or behind a beginning that has either case, too. -/
inductive Spelling (uuid : Uuid) : List Char → Prop where
  | bare {chars : List Char} (spells : Spells chars uuid) : Spelling uuid chars
  | grouped {chars : List Char} (spells : Spells chars uuid) :
      Spelling uuid (joinGroups groupSizes chars)
  | braced {chars : List Char} (spells : Spells chars uuid) :
      Spelling uuid ('\x7b' :: (joinGroups groupSizes chars ++ ['\x7d']))
  | named {chars beginning : List Char} (spells : Spells chars uuid)
      (isNamed : beginning.map Char.toLower = "urn:uuid:".toList) :
      Spelling uuid (beginning ++ joinGroups groupSizes chars)

/-! ### Digits -/

theorem Spells.length {chars : List Char} {uuid : Uuid} (spells : Spells chars uuid) :
    chars.length = 32 := by
  have lengths := congrArg List.length spells
  rwa [List.length_map, List.length_map, uuid.length_digits] at lengths

theorem mapM_value?_eq_some_iff {chars : List Char} {digits : List (Fin 16)} :
    chars.mapM Hex.value? = some digits ↔ chars.map Char.toLower = digits.map Hex.digit := by
  simp only [mapM_eq_some_iff, Hex.value?_eq_some_iff]
  rw [← List.forall₂_eq_eq_eq, List.forall₂_map_left_iff, List.forall₂_map_right_iff]

theorem ofDigits?_eq_some_iff {chars : List Char} {uuid : Uuid} :
    ofDigits? chars = some uuid ↔ Spells chars uuid := by
  rw [Spells, ← mapM_value?_eq_some_iff]
  unfold ofDigits?
  cases chars.mapM Hex.value? with
  | none => simp
  | some digits =>
      obtain ⟨others, length⟩ := uuid
      dsimp only
      split
      · simp
      · rename_i differs
        refine iff_of_false nofun ?_
        rintro ⟨⟩
        exact differs length

theorem spells_digits (uuid : Uuid) : Spells (uuid.digits.map Hex.digit) uuid := by
  rw [Spells, List.map_map]
  refine List.map_congr_left fun value _ => ?_
  exact Hex.value?_eq_some_iff.mp (Hex.value?_digit value)

/-! ### Groups -/

section Cons

variable {size : Nat} {sizes : List Nat} (more : sizes ≠ [])

include more

theorem joinGroups_cons (chars : List Char) :
    joinGroups (size :: sizes) chars =
      chars.take size ++ '-' :: joinGroups sizes (chars.drop size) := by
  obtain ⟨next, others, rfl⟩ := List.exists_cons_of_ne_nil more
  rfl

theorem splitGroups?_cons_eq_some_iff {joined chars : List Char} :
    splitGroups? (size :: sizes) joined = some chars ↔ ∃ rest tail,
      joined.drop size = '-' :: rest ∧ splitGroups? sizes rest = some tail ∧
        joined.take size ++ tail = chars := by
  obtain ⟨next, others, rfl⟩ := List.exists_cons_of_ne_nil more
  rw [splitGroups?.eq_def]
  dsimp only
  split
  · rename_i rest dropped
    simp [dropped]
  · rename_i noHyphen
    refine iff_of_false nofun ?_
    rintro ⟨rest, tail, dropped, -⟩
    exact noHyphen rest dropped

end Cons

theorem splitGroups?_singleton_eq_some_iff {size : Nat} {joined chars : List Char} :
    splitGroups? [size] joined = some chars ↔ chars.length = size ∧ joined = chars.take size := by
  show (if joined.length = size then some joined else none) = some chars ↔ _
  constructor
  · intro found
    split at found
    · rename_i length
      cases found
      exact ⟨length, (List.take_of_length_le length.le).symm⟩
    · cases found
  · rintro ⟨rfl, rfl⟩
    simp

/-- Just the groups of these sizes are split, and they give the characters between the hyphens. -/
theorem splitGroups?_eq_some_iff {sizes : List Nat} {joined chars : List Char} :
    splitGroups? sizes joined = some chars ↔
      chars.length = sizes.sum ∧ joined = joinGroups sizes chars := by
  induction sizes generalizing joined chars with
  | nil =>
      cases joined with
      | nil => simp [splitGroups?, joinGroups, eq_comm]
      | cons first rest => simp [splitGroups?, joinGroups]
  | cons size sizes inductionHypothesis =>
      by_cases last : sizes = []
      · subst last
        exact splitGroups?_singleton_eq_some_iff
      rw [splitGroups?_cons_eq_some_iff last, joinGroups_cons last, List.sum_cons]
      constructor
      · rintro ⟨rest, tail, dropped, split, rfl⟩
        obtain ⟨length, rfl⟩ := inductionHypothesis.mp split
        have short : size < joined.length := by
          apply Nat.lt_of_not_le
          intro long
          rw [List.drop_eq_nil_of_le long] at dropped
          cases dropped
        have taken : (joined.take size).length = size := List.length_take_of_le short.le
        refine ⟨by rw [List.length_append, taken, length], ?_⟩
        rw [List.take_left' taken, List.drop_left' taken, ← dropped, List.take_append_drop]
      · rintro ⟨length, rfl⟩
        have taken : (chars.take size).length = size := List.length_take_of_le (by omega)
        refine ⟨joinGroups sizes (chars.drop size), chars.drop size, List.drop_left' taken,
          inductionHypothesis.mpr ⟨by rw [List.length_drop]; omega, rfl⟩, ?_⟩
        rw [List.take_left' taken, List.take_append_drop]

/-- Groups have a hyphen between any two of them. -/
theorem length_joinGroups {sizes : List Nat} (some : sizes ≠ []) {chars : List Char}
    (length : chars.length = sizes.sum) :
    (joinGroups sizes chars).length + 1 = chars.length + sizes.length := by
  induction sizes generalizing chars with
  | nil => exact absurd rfl some
  | cons size sizes inductionHypothesis =>
      rw [List.sum_cons] at length
      by_cases last : sizes = []
      · subst last
        simp [joinGroups, length]
      have rest : (chars.drop size).length = sizes.sum := by
        rw [List.length_drop, length]
        omega
      have others := inductionHypothesis last rest
      have taken : (chars.take size).length = size := List.length_take_of_le (by omega)
      rw [joinGroups_cons last, List.length_append, List.length_cons, List.length_cons, taken]
      omega

theorem mem_joinGroups {sizes : List Nat} {chars : List Char} {char : Char}
    (member : char ∈ joinGroups sizes chars) : char = '-' ∨ char ∈ chars := by
  induction sizes generalizing chars with
  | nil => cases member
  | cons size sizes inductionHypothesis =>
      by_cases last : sizes = []
      · subst last
        exact Or.inr (List.mem_of_mem_take member)
      rw [joinGroups_cons last, List.mem_append, List.mem_cons] at member
      rcases member with taken | rfl | later
      · exact Or.inr (List.mem_of_mem_take taken)
      · exact Or.inl rfl
      · exact (inductionHypothesis later).imp_right List.mem_of_mem_drop

section Grouped

variable {chars : List Char} {uuid : Uuid} (spells : Spells chars uuid)

include spells

theorem Spells.splitGroups? : splitGroups? groupSizes (joinGroups groupSizes chars) = some chars :=
  splitGroups?_eq_some_iff.mpr ⟨spells.length, rfl⟩

theorem Spells.length_joinGroups : (joinGroups groupSizes chars).length = 36 := by
  have length := @Uuid.length_joinGroups groupSizes (by decide) chars spells.length
  rw [spells.length] at length
  exact Nat.succ.inj length

/-- Groups of digits hold neither a brace nor the first letter of a beginning. -/
theorem Spells.toLower_ne {char : Char} (member : char ∈ joinGroups groupSizes chars) :
    char.toLower ≠ '{' ∧ char.toLower ≠ 'u' := by
  rcases mem_joinGroups member with rfl | digit
  · decide
  have lower : char.toLower ∈ uuid.digits.map Hex.digit := spells ▸ List.mem_map_of_mem digit
  obtain ⟨value, -, isDigit⟩ := List.mem_map.mp lower
  have apart : ∀ value : Fin 16, Hex.digit value ≠ '{' ∧ Hex.digit value ≠ 'u' := by decide
  exact isDigit ▸ apart value

end Grouped

/-! ### What stands around groups -/

theorem unbrace?_eq_some_iff {chars inner : List Char} :
    unbrace? chars = some inner ↔ chars = '{' :: (inner ++ ['}']) := by
  unfold unbrace?
  split
  · rename_i rest
    constructor
    · intro found
      split at found
      · rename_i closed
        cases found
        rw [List.dropLast_append_getLast? _ closed]
      · cases found
    · intro same
      obtain rfl := List.tail_eq_of_cons_eq same
      simp
  · rename_i unopened
    refine iff_of_false nofun ?_
    rintro rfl
    exact unopened _ rfl

theorem dropBeginning?_eq_some_iff {beginning chars rest : List Char} :
    dropBeginning? beginning chars = some rest ↔
      ∃ given, given.map Char.toLower = beginning ∧ chars = given ++ rest := by
  induction beginning generalizing chars with
  | nil => simp [dropBeginning?, eq_comm]
  | cons first beginning inductionHypothesis =>
      cases chars with
      | nil =>
          refine iff_of_false nofun ?_
          rintro ⟨given, lower, split⟩
          rw [(List.append_eq_nil_iff.mp split.symm).1] at lower
          cases lower
      | cons char chars =>
          have chosen (given : List Char) (lower : given.map Char.toLower = first :: beginning)
              (split : char :: chars = given ++ rest) : ∃ others, first = char.toLower ∧
                others.map Char.toLower = beginning ∧ chars = others ++ rest := by
            obtain ⟨head, others, rfl, isFirst, followers⟩ := List.map_eq_cons_iff.mp lower
            cases split
            exact ⟨others, isFirst.symm, followers, rfl⟩
          unfold dropBeginning?
          by_cases same : first = char.toLower
          · rw [if_pos same, inductionHypothesis]
            constructor
            · rintro ⟨given, lower, rfl⟩
              exact ⟨char :: given, by rw [List.map_cons, lower, same], rfl⟩
            · rintro ⟨given, lower, split⟩
              obtain ⟨others, -, lower, split⟩ := chosen given lower split
              exact ⟨others, lower, split⟩
          · rw [if_neg same]
            refine iff_of_false nofun ?_
            rintro ⟨given, lower, split⟩
            obtain ⟨-, isFirst, -⟩ := chosen given lower split
            exact same isFirst

/-! ### Texts -/

theorem Spells.read_groups {chars : List Char} {uuid : Uuid} (spells : Spells chars uuid) :
    (Uuid.splitGroups? groupSizes (joinGroups groupSizes chars)).bind ofDigits? = some uuid := by
  rw [spells.splitGroups?, Option.bind_some]
  exact ofDigits?_eq_some_iff.mpr spells

/-- A beginning has a first letter. -/
theorem exists_letter {beginning : List Char}
    (isNamed : beginning.map Char.toLower = "urn:uuid:".toList) :
    ∃ first rest, beginning = first :: rest ∧ first.toLower = 'u' := by
  obtain ⟨first, rest, split, letter, -⟩ := List.map_eq_cons_iff.mp isNamed
  exact ⟨first, rest, split, letter⟩

theorem spelling_of_read? {text : String} {uuid : Uuid} (found : read? text = some uuid) :
    Spelling uuid text.toList := by
  unfold read? at found
  dsimp only at found
  split at found
  · exact .bare (ofDigits?_eq_some_iff.mp found)
  obtain ⟨chars, split, digits⟩ := Option.bind_eq_some_iff.mp found
  have spells := ofDigits?_eq_some_iff.mp digits
  obtain ⟨-, joined⟩ := splitGroups?_eq_some_iff.mp split
  cases braced : unbrace? text.toList with
  | some inner =>
      rw [braced, Option.getD_some] at joined
      rw [unbrace?_eq_some_iff.mp braced, joined]
      exact .braced spells
  | none =>
      rw [braced, Option.getD_none] at joined
      cases named : dropBeginning? "urn:uuid:".toList text.toList with
      | some rest =>
          rw [named, Option.getD_some] at joined
          obtain ⟨beginning, lower, split⟩ := dropBeginning?_eq_some_iff.mp named
          rw [split, joined]
          exact .named spells lower
      | none =>
          rw [named, Option.getD_none] at joined
          rw [joined]
          exact .grouped spells

/-- Just the spellings of an identifier are read as it. -/
theorem read?_eq_some_iff {text : String} {uuid : Uuid} :
    read? text = some uuid ↔ Spelling uuid text.toList := by
  refine ⟨spelling_of_read?, fun spelling => ?_⟩
  unfold read?
  dsimp only
  generalize text.toList = chars at spelling
  cases spelling with
  | bare spells =>
      rw [if_pos spells.length]
      exact ofDigits?_eq_some_iff.mpr spells
  | @grouped digits spells =>
      have long : (joinGroups groupSizes digits).length ≠ 32 := by
        rw [spells.length_joinGroups]
        decide
      have noBrace : unbrace? (joinGroups groupSizes digits) = none := by
        refine Option.eq_none_iff_forall_ne_some.mpr fun inner found => ?_
        have member : '\x7b' ∈ joinGroups groupSizes digits := by
          rw [unbrace?_eq_some_iff.mp found]
          exact List.mem_cons_self
        exact (spells.toLower_ne member).1 rfl
      have noBeginning :
          dropBeginning? "urn:uuid:".toList (joinGroups groupSizes digits) = none := by
        refine Option.eq_none_iff_forall_ne_some.mpr fun rest found => ?_
        obtain ⟨given, isNamed, split⟩ := dropBeginning?_eq_some_iff.mp found
        obtain ⟨first, others, rfl, letter⟩ := exists_letter isNamed
        have member : first ∈ joinGroups groupSizes digits := by
          rw [split]
          exact List.mem_cons_self
        exact (spells.toLower_ne member).2 letter
      rw [if_neg long, noBrace, noBeginning]
      exact spells.read_groups
  | @braced digits spells =>
      have long : ('\x7b' :: (joinGroups groupSizes digits ++ ['\x7d'])).length ≠ 32 := by
        simp [spells.length_joinGroups]
      rw [if_neg long, unbrace?_eq_some_iff.mpr rfl]
      exact spells.read_groups
  | @named digits beginning spells isNamed =>
      have long : (beginning ++ joinGroups groupSizes digits).length ≠ 32 := by
        rw [List.length_append, spells.length_joinGroups]
        omega
      have noBrace : unbrace? (beginning ++ joinGroups groupSizes digits) = none := by
        refine Option.eq_none_iff_forall_ne_some.mpr fun inner found => ?_
        obtain ⟨first, others, rfl, letter⟩ := exists_letter isNamed
        obtain ⟨rfl, -⟩ := List.cons.inj (unbrace?_eq_some_iff.mp found)
        cases letter
      have begins : dropBeginning? "urn:uuid:".toList (beginning ++ joinGroups groupSizes digits) =
          some (joinGroups groupSizes digits) :=
        dropBeginning?_eq_some_iff.mpr ⟨beginning, isNamed, rfl⟩
      rw [if_neg long, noBrace, begins]
      exact spells.read_groups

example : (read? "67E55044-10b1-426F-9247-BB680E5FE0C8").map text =
    some "67e55044-10b1-426f-9247-bb680e5fe0c8" := by
  decide +kernel

theorem spelling_text (uuid : Uuid) : Spelling uuid uuid.text.toList := by
  rw [text, String.toList_ofList]
  exact .grouped uuid.spells_digits

theorem read?_text (uuid : Uuid) : read? uuid.text = some uuid :=
  read?_eq_some_iff.mpr uuid.spelling_text

end DemandFlow.Uuid
