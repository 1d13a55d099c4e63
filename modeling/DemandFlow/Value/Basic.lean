import DemandFlow.Value.FixedInt
import DemandFlow.Decimal.Layout

/-!
Contract: the values of each kind.

Owns: the type of a kind's values, their default, text and order, and values that carry their
kind along.

Does not own: conversion between kinds (`Value.Conversion`) and operations (`Operation`).
-/

namespace DemandFlow

namespace Kind

/-- The values of a kind. -/
def Carrier : Kind → Type
  | .bool => Bool
  | .integer kind => FixedInt kind
  | .float kind => Binary kind.format

/-- False, or zero. -/
def default : (kind : Kind) → kind.Carrier
  | .bool => false
  | .integer kind => FixedInt.ofBool kind false
  | .float kind => Binary.zero kind.format

instance : (kind : Kind) → Inhabited kind.Carrier
  | kind => ⟨kind.default⟩

instance : (kind : Kind) → DecidableEq kind.Carrier
  | .bool => inferInstanceAs (DecidableEq Bool)
  | .integer kind => inferInstanceAs (DecidableEq (FixedInt kind))
  | .float kind => inferInstanceAs (DecidableEq (Binary kind.format))

/-- The text of a value; floats are laid out as asked. -/
def text : (kind : Kind) → Decimal.Layout → kind.Carrier → String
  | .bool, _, value => toString (show Bool from value)
  | .integer _, _, value => toString (FixedInt.value value)
  | .float _, layout, value => Binary.text value layout

/-- Equality of values as the comparison operators see it. -/
def same : (kind : Kind) → kind.Carrier → kind.Carrier → Bool
  | .bool, left, right => (show Bool from left) == (show Bool from right)
  | .integer _, left, right => FixedInt.value left == FixedInt.value right
  | .float _, left, right => Binary.same left right

/-- The strict order of values; false comes before true. -/
def less : (kind : Kind) → kind.Carrier → kind.Carrier → Bool
  | .bool, left, right => !(show Bool from left) && (show Bool from right)
  | .integer _, left, right => decide (FixedInt.value left < FixedInt.value right)
  | .float _, left, right => Binary.less left right

def atMost : (kind : Kind) → kind.Carrier → kind.Carrier → Bool
  | .bool, left, right => !(show Bool from left) || (show Bool from right)
  | .integer _, left, right => decide (FixedInt.value left ≤ FixedInt.value right)
  | .float _, left, right => Binary.atMost left right

end Kind

structure Value where
  kind : Kind
  content : kind.Carrier
deriving DecidableEq

namespace Value

def ofDefault (kind : Kind) : Value := ⟨kind, kind.default⟩

instance : Inhabited Value := ⟨ofDefault .bool⟩

/-- The content as one of the given kind, if the value has that kind. -/
def as? (value : Value) (kind : Kind) : Option kind.Carrier :=
  if same : value.kind = kind then some (same ▸ value.content) else none

/-- The text of a value in a layout for floats. -/
def textIn (value : Value) (layout : Decimal.Layout) : String :=
  value.kind.text layout value.content

def text (value : Value) : String := value.textIn .plain

@[simp]
theorem as?_mk (kind : Kind) (content : kind.Carrier) : as? ⟨kind, content⟩ kind = some content := by
  simp [as?]

end Value

end DemandFlow
