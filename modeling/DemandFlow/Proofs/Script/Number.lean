import DemandFlow.Script.Number
import DemandFlow.Proofs.Decimal.Text
import DemandFlow.Proofs.Script.Token

/-!
Contract: numbers that are written into scripts and read back.

Owns: the characters of written numbers, that a written number is one word, and what is read from
the written form of an integer and of a floating-point number.

Main statements:
- `integerOf?_word`: an integer of a kind is read back as it was;
- `floatOf?_word`: so is a floating-point word, its sign included, provided that the words that are
  not numbers are told apart by their sign alone (`Binary.Canonical`).

Does not own: how a word is cut out of a text (`Proofs.Script.Token`), and separators and suffixes,
which no written number has.
-/

namespace DemandFlow

/-- A word that is a number, or the one that is written for results that are none. -/
def Binary.Canonical {format : Format} (x : Binary format) : Prop :=
  x.isNaN = true → x.magnitude = format.notANumber

theorem Binary.canonical_of_number {format : Format} {x : Binary format}
    (number : x.isNaN = false) : x.Canonical := fun none =>
  absurd (number.symm.trans none) Bool.false_ne_true

namespace Script

/-! ### Signs and characters -/

def signed (negative : Bool) (unsigned : List Char) : List Char :=
  if negative then '-' :: unsigned else unsigned

/-- A number as it is written, without its sign: digits and points, a digit first. -/
structure IsNumeral (text : List Char) : Prop where
  exists_first : ∃ first rest, text = first :: rest ∧ first.isDigit = true
  isDigit_or_point : ∀ char ∈ text, char.isDigit = true ∨ char = '.'

theorem splitSign_signed (negative : Bool) {first : Char} {rest : List Char} (minus : first ≠ '-')
    (plus : first ≠ '+') :
    Decimal.splitSign (signed negative (first :: rest)) = (negative, first :: rest) := by
  cases negative with
  | true => rfl
  | false =>
    show Decimal.splitSign (first :: rest) = _
    unfold Decimal.splitSign
    split
    · rename_i same
      exact absurd (List.cons.inj same).1 minus
    · rename_i same
      exact absurd (List.cons.inj same).1 plus
    · rfl

namespace IsNumeral

variable {text : List Char}

theorem of_digits {digits : List Char} (some : digits ≠ [])
    (isDigit : ∀ char ∈ digits, char.isDigit = true) : IsNumeral digits := by
  obtain ⟨first, rest, rfl⟩ := List.exists_cons_of_ne_nil some
  exact ⟨⟨first, rest, rfl, isDigit first List.mem_cons_self⟩,
    fun char mem => .inl (isDigit char mem)⟩

theorem of_parts (parts : Decimal.Parts) : IsNumeral parts.text := by
  obtain ⟨first, rest, whole⟩ := List.exists_cons_of_ne_nil parts.whole_ne_nil
  constructor
  · refine ⟨first, rest ++ '.' :: parts.fraction, ?_, ?_⟩
    · rw [Decimal.Parts.text, whole, List.cons_append]
    · exact parts.isDigit_whole first (by rw [whole]; exact List.mem_cons_self)
  · intro char mem
    rw [Decimal.Parts.text] at mem
    rcases List.mem_append.mp mem with before | behind
    · exact .inl (parts.isDigit_whole char before)
    · exact (List.mem_cons.mp behind).symm.imp_left (parts.isDigit_fraction char)

theorem not_mem (numeral : IsNumeral text) {char : Char} (noDigit : char.isDigit = false)
    (noPoint : char ≠ '.') : char ∉ text := fun mem =>
  (numeral.isDigit_or_point char mem).elim (fun digit => by simp [noDigit] at digit) noPoint

theorem not_mem_signed (numeral : IsNumeral text) (negative : Bool) {char : Char}
    (noDigit : char.isDigit = false) (noPoint : char ≠ '.') (noMinus : char ≠ '-') :
    char ∉ signed negative text := by
  unfold signed
  cases negative <;> simp [numeral.not_mem noDigit noPoint, noMinus]

theorem splitSign_signed (numeral : IsNumeral text) (negative : Bool) :
    Decimal.splitSign (signed negative text) = (negative, text) := by
  obtain ⟨first, rest, rfl, digit⟩ := numeral.exists_first
  refine Script.splitSign_signed negative ?_ ?_
  · rintro rfl
    exact absurd digit (by decide)
  · rintro rfl
    exact absurd digit (by decide)

theorem isWord (numeral : IsNumeral text) : IsWord text := by
  obtain ⟨first, rest, rfl, begins⟩ := numeral.exists_first
  have part {char : Char} (mem : char ∈ first :: rest) : isWordChar char = true := by
    rcases numeral.isDigit_or_point char mem with digit | rfl
    · simp [isWordChar, Identifier.isNext, digit]
    · decide +kernel
  have noName : Identifier.isFirst first = false := by
    obtain ⟨digit, rfl⟩ := Hex.exists_digitChar begins
    have none : ∀ digit : Fin 10, Identifier.isFirst (Nat.digitChar digit) = false := by
      decide +kernel
    exact none digit
  refine ⟨first, rest, rfl, part List.mem_cons_self, fun char mem => ?_⟩
  rw [goesOn, noName, if_neg Bool.false_ne_true]
  exact part (List.mem_cons_of_mem _ mem)

end IsNumeral

theorem isWord_signed (negative : Bool) {word : List Char} (isWord : IsWord word) :
    IsWord (signed negative word) := by
  cases negative with
  | false => exact isWord
  | true =>
    obtain ⟨first, rest, rfl, part, further⟩ := isWord
    refine ⟨'-', first :: rest, rfl, by decide +kernel, fun char mem => ?_⟩
    have noName : Identifier.isFirst '-' = false := by decide +kernel
    rw [goesOn, noName, if_neg Bool.false_ne_true]
    rcases List.mem_cons.mp mem with rfl | behind
    · exact part
    · exact isWordChar_of_goesOn (further char behind)

/-! ### Integers -/

theorem toList_toString (value : Int) :
    (toString value).toList = signed (decide (value < 0)) (Nat.toDigits 10 value.natAbs) := by
  rw [Int.toString_eq_repr, Int.repr_eq_if]
  unfold signed
  split
  · rename_i nonnegative
    rw [if_neg (by simpa using nonnegative), Nat.toList_repr]
    congr 1
    omega
  · rename_i negative
    rw [if_pos (by simpa using negative), String.toList_append, Nat.toList_repr]
    show '-' :: Nat.toDigits 10 (-value).toNat = _
    congr 2
    omega

theorem splitBase_digits {digits : List Char} (isDigit : ∀ char ∈ digits, char.isDigit = true) :
    splitBase digits = (10, digits) := by
  unfold splitBase
  split
  · exact absurd (isDigit 'x' (by simp)) (by decide)
  · exact absurd (isDigit 'o' (by simp)) (by decide)
  · exact absurd (isDigit 'b' (by simp)) (by decide)
  · rfl

theorem valueInBase?_toDigits (number : Nat) :
    valueInBase? 10 (Nat.toDigits 10 number) = some number := by
  have noSeparator : '_' ∉ Nat.toDigits 10 number := Nat.underscore_not_in_toDigits
  have kept : (Nat.toDigits 10 number).filter (· != '_') = Nat.toDigits 10 number := by
    refine List.filter_eq_self.mpr fun char mem => ?_
    rw [bne_iff_ne]
    rintro rfl
    exact noSeparator mem
  unfold valueInBase?
  rw [if_neg, kept]
  · refine Hex.foldlM_toDigits (by decide) (fun value digit small => ?_) number
    have read := Hex.value?_digitChar ⟨digit, by omega⟩
    simp [read, small]
  · simp only [Bool.or_eq_true, List.isEmpty_iff, beq_iff_eq, not_or]
    exact ⟨Nat.toDigits_ne_nil, fun head => noSeparator (List.mem_of_head? head)⟩

/-- The written form of an integer has no suffix. -/
theorem integer?_toString (value : Int) :
    integer? (toString value).toList = some (value, none) := by
  have isDigit : ∀ char ∈ Nat.toDigits 10 value.natAbs, char.isDigit = true :=
    fun char mem => Nat.isDigit_of_mem_toDigits (by decide) (by decide) mem
  have isPart : ∀ char ∈ Nat.toDigits 10 value.natAbs, isIntegerChar char = true := by
    intro char mem
    obtain ⟨digit, small, rfl⟩ := Hex.exists_of_mem_toDigits (by decide) mem
    simp [isIntegerChar, Hex.value?_digitChar ⟨digit, by omega⟩]
  have numeral := IsNumeral.of_digits Nat.toDigits_ne_nil isDigit
  unfold integer?
  rw [toList_toString, numeral.splitSign_signed]
  have sign :
      (if decide (value < 0) = true then -(value.natAbs : Int) else value.natAbs) = value := by
    split
    · rename_i negative
      have := of_decide_eq_true negative
      omega
    · rename_i nonnegative
      have : ¬ value < 0 := fun negative => nonnegative (decide_eq_true negative)
      omega
  simp only [splitBase_digits isDigit, List.takeWhile_eq_self_iff.mpr isPart,
    List.dropWhile_eq_nil_iff.mpr isPart, valueInBase?_toDigits, Option.bind_eq_bind,
    Option.bind_some, sign]

theorem isWord_integer (value : Int) : IsWord (toString value).toList := by
  rw [toList_toString]
  refine isWord_signed _ (IsNumeral.of_digits Nat.toDigits_ne_nil fun char mem => ?_).isWord
  exact Nat.isDigit_of_mem_toDigits (by decide) (by decide) mem

theorem integerOf?_word {kind : IntegerKind} (value : FixedInt kind) :
    integerOf? kind (toString value.value).toList = some value := by
  unfold integerOf?
  rw [integer?_toString]
  exact FixedInt.ofInt?_eq_some_iff.mpr rfl

/-- Every integer of a kind is a number to any reader, whatever the kind. -/
theorem isNumber_integer {kind : IntegerKind} (value : FixedInt kind) :
    isNumber (toString value.value).toList = true := by
  have fits : (FixedInt.ofInt? .i64 value.value).isSome = true ∨
      (FixedInt.ofInt? .u64 value.value).isSome = true := by
    have least : IntegerKind.i64.least ≤ kind.least := by cases kind <;> decide
    have greatest : kind.greatest ≤ IntegerKind.u64.greatest := by cases kind <;> decide
    have overlap : IntegerKind.u64.least ≤ IntegerKind.i64.greatest := by decide
    have low := value.least_le
    have high := value.le_greatest
    by_contra neither
    rw [not_or, Bool.not_eq_true, Bool.not_eq_true, Option.isSome_eq_false_iff,
      Option.isNone_iff_eq_none, Option.isSome_eq_false_iff, Option.isNone_iff_eq_none,
      FixedInt.ofInt?_eq_none_iff, FixedInt.ofInt?_eq_none_iff] at neither
    omega
  have integer : isInteger (toString value.value).toList = true := by
    unfold isInteger
    rw [integer?_toString]
    exact Bool.or_eq_true_iff.mpr fits
  unfold isNumber
  rw [integer]
  rfl

/-! ### Floating-point numbers -/

/-- The written form of a magnitude word. -/
def magnitudeText (format : Format) (magnitude : Nat) : List Char :=
  if format.infinity < magnitude then "NaN".toList
  else if magnitude = format.infinity then "inf".toList
  else Decimal.Layout.pointed.text (format.shortest magnitude)

theorem toList_floatWord {format : Format} (x : Binary format) :
    (floatWord x).toList = signed x.negative (magnitudeText format x.magnitude) := by
  have sign (text : String) : ((if x.negative = true then "-" else "") ++ text).toList =
      signed x.negative text.toList := by
    rw [String.toList_append]
    cases x.negative <;> rfl
  unfold floatWord Binary.text magnitudeText
  by_cases none : format.infinity < x.magnitude
  · have isNaN : x.isNaN = true := decide_eq_true none
    rw [if_pos none, isNaN]
    cases x.negative with
    | true =>
      show "-NaN".toList = '-' :: "NaN".toList
      decide
    | false => rfl
  have isNaN : x.isNaN = false := decide_eq_false none
  rw [if_neg none, isNaN]
  simp only [Bool.false_and, Bool.false_eq_true, if_false]
  by_cases infinite : x.magnitude = format.infinity
  · have isInfinite : x.isInfinite = true := decide_eq_true infinite
    rw [if_pos infinite, isInfinite, if_pos rfl, sign]
  · have isInfinite : x.isInfinite = false := decide_eq_false infinite
    rw [if_neg infinite, isInfinite, if_neg Bool.false_ne_true, sign, String.toList_ofList]

theorem isWord_float {format : Format} (x : Binary format) : IsWord (floatWord x).toList := by
  rw [toList_floatWord]
  refine isWord_signed _ ?_
  unfold magnitudeText
  split
  · exact isWord_of_isName (by decide +kernel)
  split
  · exact isWord_of_isName (by decide +kernel)
  · obtain ⟨parts, textEq, -⟩ := (format.shortest x.magnitude).exists_parts
    rw [textEq]
    exact (IsNumeral.of_parts parts).isWord

theorem splitFloatSuffix_eq {word : List Char} (plain : 'f' ∉ word) :
    splitFloatSuffix word = (word, none) := by
  unfold splitFloatSuffix
  split
  · rename_i suffixed
    exact absurd (List.mem_reverse.mp (by rw [suffixed]; simp)) plain
  · rename_i suffixed
    exact absurd (List.mem_reverse.mp (by rw [suffixed]; simp)) plain
  · rfl

theorem withoutSeparators?_eq {word : List Char} (plain : '_' ∉ word) (allowed : Bool) :
    withoutSeparators? allowed word = some word := by
  induction word generalizing allowed with
  | nil => rfl
  | cons char rest inductionHypothesis =>
    obtain ⟨other, restPlain⟩ := not_or.mp (mt List.mem_cons.mpr plain)
    have noSeparator : (char == '_') = false := beq_eq_false_iff_ne.mpr (Ne.symm other)
    unfold withoutSeparators?
    rw [noSeparator]
    simp [inductionHypothesis restPlain]

theorem plainFloat?_numeral (format : Format) (negative : Bool) {text : List Char}
    (numeral : IsNumeral text) {decimal : Decimal}
    (read : Decimal.readUnsigned? text = some decimal) :
    plainFloat? format (signed negative text) = some (.ofDecimal format negative decimal) := by
  have noInfinity : text ≠ "inf".toList := by
    rintro rfl
    have absent : 'i' ∉ "inf".toList := numeral.not_mem (by decide) (by decide)
    exact absent (by decide)
  have noName : text ≠ "NaN".toList := by
    rintro rfl
    have absent : 'N' ∉ "NaN".toList := numeral.not_mem (by decide) (by decide)
    exact absent (by decide)
  have plain : '_' ∉ signed negative text :=
    numeral.not_mem_signed negative (by decide) (by decide) (by decide)
  unfold plainFloat?
  rw [numeral.splitSign_signed]
  simp only [noInfinity, noName, if_false, withoutSeparators?_eq plain, Decimal.read?,
    numeral.splitSign_signed, read, Option.bind_eq_bind, Option.bind_some, Option.map_some]
  rfl

/-- A finite word is read back from the digits that are written for it. -/
theorem plainFloat?_finite (format : Format) (negative : Bool) {magnitude : Nat}
    (finite : magnitude < format.infinity) :
    plainFloat? format (signed negative (Decimal.Layout.pointed.text (format.shortest magnitude))) =
      some ⟨negative, magnitude, finite.trans format.infinity_lt⟩ := by
  obtain ⟨parts, textEq, -⟩ := (format.shortest magnitude).exists_parts
  have numeral := textEq ▸ IsNumeral.of_parts parts
  rw [plainFloat?_numeral format negative numeral (Decimal.readUnsigned?_text _)]
  congr 1
  by_cases zero : magnitude = 0
  · subst zero
    exact Binary.ofDecimal_zero format negative (-1)
  · have nonzero := Nat.pos_of_ne_zero zero
    exact Binary.ofDecimal_eq (Format.shortest_within nonzero).pointed negative nonzero finite

theorem plainFloat?_word {format : Format} {x : Binary format} (canonical : x.Canonical) :
    plainFloat? format (floatWord x).toList = some x := by
  obtain ⟨negative, magnitude, bound⟩ := x
  rw [toList_floatWord]
  unfold magnitudeText
  dsimp only
  split
  · rename_i none
    have same : magnitude = format.notANumber := canonical (decide_eq_true none)
    subst same
    cases negative <;> rfl
  split
  · rename_i infinite
    subst infinite
    cases negative <;> rfl
  · rename_i notNone notInfinite
    exact plainFloat?_finite format negative (by omega)

theorem floatOf?_word {kind : FloatKind} {x : Binary kind.format} (canonical : x.Canonical) :
    floatOf? kind (floatWord x).toList = some x := by
  have noSuffix : splitFloatSuffix (floatWord x).toList = ((floatWord x).toList, none) := by
    rw [toList_floatWord]
    unfold magnitudeText
    split
    · cases x.negative <;> rfl
    split
    · cases x.negative <;> rfl
    · obtain ⟨parts, textEq, -⟩ := (kind.format.shortest x.magnitude).exists_parts
      rw [textEq]
      exact splitFloatSuffix_eq
        ((IsNumeral.of_parts parts).not_mem_signed _ (by decide) (by decide) (by decide))
  unfold floatOf?
  rw [noSuffix]
  exact plainFloat?_word canonical

theorem isNumber_float {kind : FloatKind} {x : Binary kind.format} (canonical : x.Canonical) :
    isNumber (floatWord x).toList = true := by
  have read := floatOf?_word canonical
  unfold isNumber
  cases kind with
  | single => simp [read]
  | double => simp [read]

end Script

end DemandFlow
