/-!
Contract: binary floating-point words and the numbers they stand for.

Owns:
- the formats and their words, as a sign and a magnitude word;
- the exact value of a word, counted in units of the least positive value;
- classification, order and sign operations.

Does not own: rounding (`Binary.Round`), arithmetic (`Binary.Arithmetic`) or decimal text.

Every finite value is a whole number of units. Magnitude words are numbered so that the word of
a larger value is a larger number; most of what follows rests on that order alone.
-/

namespace DemandFlow

/-- A binary interchange format. `precision` counts the digits of a significand, the leading one
included. -/
structure Format where
  precision : Nat
  exponentBits : Nat
  two_le_precision : 2 ≤ precision := by decide
  two_le_exponentBits : 2 ≤ exponentBits := by decide
deriving DecidableEq, Repr

namespace Format

def single : Format where
  precision := 24
  exponentBits := 8

def double : Format where
  precision := 53
  exponentBits := 11

/-- How many words share one exponent field. -/
def binade (format : Format) : Nat := Nat.pow 2 (format.precision - 1)

def magnitudes (format : Format) : Nat := Nat.pow 2 format.exponentBits * format.binade

/-- The magnitude word of infinity: the greatest exponent field and no fraction. The words above
it are not numbers. -/
def infinity (format : Format) : Nat := (Nat.pow 2 format.exponentBits - 1) * format.binade

/-- The magnitude word written for a result that is not a number. -/
def notANumber (format : Format) : Nat := format.infinity + Nat.pow 2 (format.precision - 2)

/-- One is `2 ^ unitShift` units. -/
def unitShift (format : Format) : Nat :=
  Nat.pow 2 (format.exponentBits - 1) + format.precision - 3

/-- The value of a magnitude word in units. Words with exponent field zero are spaced by one
unit, and so are those with field one; each further field doubles the spacing. -/
def units (format : Format) (magnitude : Nat) : Nat :=
  match magnitude / format.binade with
  | 0 => magnitude
  | field + 1 => (format.binade + magnitude % format.binade) * Nat.pow 2 field

theorem binade_pos (format : Format) : 0 < format.binade := Nat.two_pow_pos _

theorem infinity_lt (format : Format) : format.infinity < format.magnitudes := by
  have fields : 0 < Nat.pow 2 format.exponentBits := Nat.two_pow_pos _
  exact Nat.mul_lt_mul_of_pos_right (by omega) format.binade_pos

theorem notANumber_lt (format : Format) : format.notANumber < format.magnitudes := by
  have fields : 0 < Nat.pow 2 format.exponentBits := Nat.two_pow_pos _
  have split : format.infinity + format.binade = format.magnitudes := by
    unfold infinity magnitudes
    rw [← Nat.succ_mul]
    congr 1
    omega
  have half : Nat.pow 2 (format.precision - 2) < format.binade :=
    Nat.pow_lt_pow_right (by decide) (by have := format.two_le_precision; omega)
  unfold notANumber
  omega

theorem infinity_lt_notANumber (format : Format) : format.infinity < format.notANumber := by
  have half : 0 < Nat.pow 2 (format.precision - 2) := Nat.two_pow_pos _
  unfold notANumber
  omega

end Format

/-- A word of a format: a sign and a magnitude word. -/
structure Binary (format : Format) where
  negative : Bool
  magnitude : Nat
  magnitude_lt : magnitude < format.magnitudes
deriving DecidableEq, Repr

abbrev Binary32 := Binary .single

abbrev Binary64 := Binary .double

namespace Binary

variable {format : Format}

def zero (format : Format) : Binary format :=
  ⟨false, 0, Nat.mul_pos (Nat.two_pow_pos _) format.binade_pos⟩

def infinity (format : Format) (negative : Bool) : Binary format :=
  ⟨negative, format.infinity, format.infinity_lt⟩

/-- The word written for a result that is not a number. -/
def notANumber (format : Format) : Binary format :=
  ⟨false, format.notANumber, format.notANumber_lt⟩

instance : Inhabited (Binary format) := ⟨zero format⟩

def isNaN (x : Binary format) : Bool := format.infinity < x.magnitude

def isInfinite (x : Binary format) : Bool := x.magnitude = format.infinity

def isFinite (x : Binary format) : Bool := x.magnitude < format.infinity

/-- The magnitude of a finite word in units. -/
def units (x : Binary format) : Nat := format.units x.magnitude

/-- The absolute value: the sign is cleared, also that of a word that is not a number. -/
def abs (x : Binary format) : Binary format := { x with negative := false }

/-- A number with the order of the values: magnitude words are ordered as their values are, and
both zeros have rank zero. -/
def rank (x : Binary format) : Int := if x.negative then -(x.magnitude : Int) else x.magnitude

/-- Equality of values: both zeros are equal, and a word that is not a number equals nothing. -/
def same (x y : Binary format) : Bool := !x.isNaN && !y.isNaN && x.rank == y.rank

/-- The strict order of values; false if a side is not a number. -/
def less (x y : Binary format) : Bool := !x.isNaN && !y.isNaN && decide (x.rank < y.rank)

/-- The order of values; false if a side is not a number. -/
def atMost (x y : Binary format) : Bool := !x.isNaN && !y.isNaN && decide (x.rank ≤ y.rank)

/-- The whole part of a finite word, toward zero. -/
def wholePart (x : Binary format) : Int :=
  let whole := x.units / Nat.pow 2 format.unitShift
  if x.negative then -(whole : Int) else whole

/-- The whole part as a signed integer of `bits` binary digits. What lies outside their range
becomes the nearest end of it, and what is not a number becomes zero. -/
def toIntSaturating (x : Binary format) (bits : Nat) : Int :=
  let least : Int := -(Nat.pow 2 (bits - 1) : Nat)
  let greatest : Int := (Nat.pow 2 (bits - 1) : Nat) - 1
  if x.isNaN then 0
  else if x.isInfinite then if x.negative then least else greatest
  else max least (min x.wholePart greatest)

/-- The bit pattern: the sign bit above the magnitude word. -/
def toBits (x : Binary format) : Nat :=
  if x.negative then format.magnitudes + x.magnitude else x.magnitude

/-- The word of a bit pattern; bits above the sign bit are ignored. -/
def ofBits (format : Format) (bits : Nat) : Binary format where
  negative := bits / format.magnitudes % 2 == 1
  magnitude := bits % format.magnitudes
  magnitude_lt := Nat.mod_lt _ (Nat.mul_pos (Nat.two_pow_pos _) format.binade_pos)

theorem ofBits_toBits (x : Binary format) : ofBits format x.toBits = x := by
  obtain ⟨negative, magnitude, bound⟩ := x
  have positive : 0 < format.magnitudes := by omega
  cases negative
  · simp [ofBits, toBits, Nat.mod_eq_of_lt bound, Nat.div_eq_of_lt bound]
  · simp [ofBits, toBits, Nat.mod_eq_of_lt bound, Nat.div_eq_of_lt bound,
      Nat.add_div_left _ positive]

end Binary

end DemandFlow
