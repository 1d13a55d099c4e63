import DemandFlow.Sample.Stored
import DemandFlow.Proofs.Script.Source

/-!
Contract: settings that are stored are read back as they were.

Owns: the terms of the settings, that a script can hold them, and what is read from them.

Main statements:
- `Settings.read_write_canonical`: settings whose floating-point numbers are canonical are read
  back, unless their version is too new;
- `Settings.read_write`: so are all settings without a value that is not a number.

Does not own: scripts that nobody has written with this library.
-/

namespace DemandFlow.Sample

open Script

/-! ### Words -/

theorem written_value {levels : Nat} {spelling : String} (isWord : IsWord spelling.toList)
    (complete : Reader.isComplete spelling = true) : Written levels (.word spelling) := by
  refine .word isWord ?_ (.inl complete)
  rintro rfl
  exact Bool.false_ne_true (Reader.not_isComplete_some.symm.trans complete)

theorem written_number {levels : Nat} {spelling : String} (isWord : IsWord spelling.toList)
    (isNumber : isNumber spelling.toList = true) : Written levels (.word spelling) :=
  written_value isWord (Bool.or_eq_true_iff.mpr (.inr isNumber))

theorem written_bool {levels : Nat} (value : Bool) : Written levels (boolTerm value) := by
  cases value with
  | true => exact written_value (isWord_of_isName (by decide +kernel)) (by decide +kernel)
  | false => exact written_value (isWord_of_isName (by decide +kernel)) (by decide +kernel)

theorem written_integer {levels : Nat} {kind : IntegerKind} (value : FixedInt kind) :
    Written levels (integerTerm value) :=
  written_number (isWord_integer value.value) (isNumber_integer value)

theorem written_float {levels : Nat} (kind : FloatKind) {value : Binary kind.format}
    (canonical : value.Canonical) : Written levels (floatTerm value) :=
  written_number (isWord_float value) (isNumber_float canonical)

theorem readBool_boolTerm (value : Bool) : readBool (boolTerm value) = some value := by
  cases value <;> rfl

theorem readInteger_integerTerm {kind : IntegerKind} (value : FixedInt kind) :
    readInteger kind (integerTerm value) = some value := integerOf?_word value

theorem readFloat_floatTerm {kind : FloatKind} {value : Binary kind.format}
    (canonical : value.Canonical) : readFloat kind (floatTerm value) = some value :=
  floatOf?_word canonical

/-- The heading and the names of the fields can all stand in a script. -/
theorem written_record {levels : Nat} {name : String} {fields : List (String × Term)}
    (heading : IsHeading name)
    (names : ∀ field ∈ fields, Identifier.isName field.1.toList = true)
    (values : ∀ field ∈ fields, Written levels field.2) :
    Written (levels + 2) (.record (some name) fields) := by
  refine .record ?_ names values
  rintro _ ⟨⟩
  exact heading

namespace AddSettings

theorem written_toTerm (levels : Nat) (settings : AddSettings) :
    Written (levels + 2) settings.toTerm := by
  refine written_record ⟨by decide +kernel, by decide, by decide +kernel⟩ ?_ ?_
  · simp only [List.forall_mem_cons]
    decide +kernel
  · simp only [List.forall_mem_cons]
    exact ⟨written_integer _, written_integer _, nofun⟩

theorem ofTerm?_toTerm (namesRequired : Bool) (settings : AddSettings) :
    ofTerm? namesRequired settings.toTerm = some settings := by
  simp [ofTerm?, toTerm, fieldsOf, setting, readInteger_integerTerm]

end AddSettings

namespace SelectorSettings

/-- Both numbers are numbers, or the word that is written for what is none. -/
structure Canonical (settings : SelectorSettings) : Prop where
  x : settings.x.Canonical
  y : settings.y.Canonical

variable {settings : SelectorSettings}

theorem written_toTerm (levels : Nat) (canonical : settings.Canonical) :
    Written (levels + 2) settings.toTerm := by
  refine written_record ⟨by decide +kernel, by decide, by decide +kernel⟩ ?_ ?_
  · simp only [List.forall_mem_cons]
    decide +kernel
  · simp only [List.forall_mem_cons]
    exact ⟨written_bool _, written_float .double canonical.x, written_float .double canonical.y,
      nofun⟩

theorem ofTerm?_toTerm (namesRequired : Bool) (canonical : settings.Canonical) :
    ofTerm? namesRequired settings.toTerm = some settings := by
  have x : readFloat .double (floatTerm settings.x) = some settings.x :=
    readFloat_floatTerm canonical.x
  have y : readFloat .double (floatTerm settings.y) = some settings.y :=
    readFloat_floatTerm canonical.y
  simp [ofTerm?, toTerm, fieldsOf, setting, readBool_boolTerm, x, y]

end SelectorSettings

namespace CastChainSettings

/-- Both floating-point numbers are numbers, or the word that is written for what is none. -/
structure Canonical (settings : CastChainSettings) : Prop where
  input : settings.input.Canonical
  divisor : settings.divisor.Canonical

variable {settings : CastChainSettings}

theorem written_toTerm (levels : Nat) (canonical : settings.Canonical) :
    Written (levels + 2) settings.toTerm := by
  refine written_record ⟨by decide +kernel, by decide, by decide +kernel⟩ ?_ ?_
  · simp only [List.forall_mem_cons]
    decide +kernel
  · simp only [List.forall_mem_cons]
    exact ⟨written_float .single canonical.input, written_integer _,
      written_float .single canonical.divisor, nofun⟩

theorem ofTerm?_toTerm (namesRequired : Bool) (canonical : settings.Canonical) :
    ofTerm? namesRequired settings.toTerm = some settings := by
  have input : readFloat .single (floatTerm settings.input) = some settings.input :=
    readFloat_floatTerm canonical.input
  have divisor : readFloat .single (floatTerm settings.divisor) = some settings.divisor :=
    readFloat_floatTerm canonical.divisor
  simp [ofTerm?, toTerm, fieldsOf, setting, readInteger_integerTerm, input, divisor]

end CastChainSettings

namespace DiamondSettings

theorem written_toTerm (levels : Nat) (settings : DiamondSettings) :
    Written (levels + 2) settings.toTerm := by
  refine written_record ⟨by decide +kernel, by decide, by decide +kernel⟩ ?_ ?_
  · simp only [List.forall_mem_cons]
    decide +kernel
  · simp only [List.forall_mem_cons]
    exact ⟨written_integer _, nofun⟩

theorem ofTerm?_toTerm (namesRequired : Bool) (settings : DiamondSettings) :
    ofTerm? namesRequired settings.toTerm = some settings := by
  simp [ofTerm?, toTerm, fieldsOf, setting, readInteger_integerTerm]

end DiamondSettings

namespace Settings

/-- Every floating-point setting is a number, or the word that is written for what is none. -/
structure Canonical (settings : Settings) : Prop where
  selector : settings.selector.Canonical
  castChain : settings.castChain.Canonical

variable {settings : Settings}

theorem written_toTerm (levels : Nat) (canonical : settings.Canonical) :
    Written (levels + 4) settings.toTerm := by
  refine written_record ⟨by decide +kernel, by decide, by decide +kernel⟩ ?_ ?_
  · simp only [List.forall_mem_cons]
    decide +kernel
  · simp only [List.forall_mem_cons]
    exact ⟨written_integer _, .text _, written_bool _, settings.add.written_toTerm levels,
      SelectorSettings.written_toTerm levels canonical.selector,
      CastChainSettings.written_toTerm levels canonical.castChain,
      settings.diamond.written_toTerm levels, nofun⟩

theorem ofTerm?_toTerm (namesRequired : Bool) (canonical : settings.Canonical) :
    ofTerm? namesRequired settings.toTerm = some settings := by
  have selector := SelectorSettings.ofTerm?_toTerm namesRequired canonical.selector
  have castChain := CastChainSettings.ofTerm?_toTerm namesRequired canonical.castChain
  simp [ofTerm?, toTerm, fieldsOf, setting, readInteger_integerTerm, readText, readBool_boolTerm,
    settings.add.ofTerm?_toTerm, selector, castChain, settings.diamond.ofTerm?_toTerm]

/-- Settings are read back from the script they are written as, and only their version can be in the
way. -/
theorem read_write_canonical (canonical : settings.Canonical) :
    read settings.write =
      if settings.version.value ≤ currentVersion then .ok settings
      else .error (.unsupportedVersion settings.version) := by
  have script : Source.read? settings.write = some ⟨[], settings.toTerm⟩ :=
    Source.read?_pretty (written_toTerm 124 canonical)
  unfold read
  rw [script, Option.bind_some, ofTerm?_toTerm _ canonical]

/-- No floating-point setting is something else than a number. -/
structure Numeric (settings : Settings) : Prop where
  selectorX : settings.selector.x.isNaN = false
  selectorY : settings.selector.y.isNaN = false
  input : settings.castChain.input.isNaN = false
  divisor : settings.castChain.divisor.isNaN = false

theorem Numeric.canonical (numeric : settings.Numeric) : settings.Canonical where
  selector := ⟨Binary.canonical_of_number numeric.selectorX,
    Binary.canonical_of_number numeric.selectorY⟩
  castChain := ⟨Binary.canonical_of_number numeric.input,
    Binary.canonical_of_number numeric.divisor⟩

/-- Settings without a value that is not a number are read back in every field, bit for bit, from
the script they are written as. If their version is newer than the newest one known they are
refused, and the refusal names it. -/
theorem read_write (numeric : settings.Numeric) :
    read settings.write =
      if settings.version.value ≤ currentVersion then .ok settings
      else .error (.unsupportedVersion settings.version) :=
  read_write_canonical numeric.canonical

/-- Settings at the edges: text that needs every sort of escape, infinities, the negative zero, the
least subnormal and the greatest finite numbers, and the least integers. -/
def extreme : Settings where
  version := ⟨0, by decide, by decide⟩
  logFilter := "\"trace\"\\,\x00\t\r\n\x1b'é\u200b😀"
  memoize := true
  add := ⟨⟨-2147483648, by decide, by decide⟩, ⟨2147483647, by decide, by decide⟩⟩
  selector := ⟨false, .infinity .double true, ⟨true, 1, by decide⟩⟩
  castChain := ⟨⟨true, 0, by decide⟩, ⟨-1, by decide, by decide⟩,
    ⟨false, Format.single.infinity - 1, by decide⟩⟩
  diamond := ⟨⟨-9223372036854775808, by decide, by decide⟩⟩

theorem read_write_extreme :
    extreme.Numeric ∧ read extreme.write = .ok extreme ∧
      read { extreme with version := ⟨2, by decide, by decide⟩ }.write =
        .error (.unsupportedVersion ⟨2, by decide, by decide⟩) := by
  have numeric : extreme.Numeric :=
    ⟨by decide +kernel, by decide +kernel, by decide +kernel, by decide +kernel⟩
  have newer : ({ extreme with version := ⟨2, by decide, by decide⟩ } : Settings).Numeric :=
    ⟨numeric.selectorX, numeric.selectorY, numeric.input, numeric.divisor⟩
  exact ⟨numeric, (read_write numeric).trans (if_pos (by decide)),
    (read_write newer).trans (if_neg (by decide))⟩

end Settings

end DemandFlow.Sample
