import DemandFlow.Proofs.Value.Number

/-!
Contract: casts between truth values and integers.

Owns: when a whole scalar narrows to a kind and what to, and chains of casts.

Main statement: a cast between whole kinds succeeds exactly on the values whose number the target
represents and keeps the number, so a chain of casts that succeeds is one cast, and can be undone
(`Value.casts_keep_numbers`).

Does not own: casts from and to floats (`Proofs.Value.Truncation`, `Proofs.Value.RoundTrip`).
-/

namespace DemandFlow

/-! ### Narrowing -/

/-- Why a whole scalar has no value of a kind. -/
def Kind.refusal (target : Kind) (scalar : Scalar) : ConversionError :=
  match target with
  | .bool => .notBoolean scalar
  | _ => .outOfRange scalar target

/-- Truth values and integers. -/
def Scalar.isWhole : Scalar → Bool
  | .float _ => false
  | _ => true

theorem isWhole_widen {kind : Kind} (whole : kind.isBitwise = true) (value : kind.Carrier) :
    (kind.widen value).isWhole = true := by
  cases kind with
  | bool => rfl
  | integer => rfl
  | float => cases whole

/-- Different values of a whole kind stand for different numbers. -/
theorem Kind.eq_of_number? {kind : Kind} (whole : kind.isBitwise = true) {x y : kind.Carrier}
    (same : kind.number? x = kind.number? y) : x = y := by
  cases kind with
  | bool =>
      have same : Bool.toInt x = Bool.toInt y := by exact_mod_cast Option.some.inj same
      cases x <;> cases y <;> first | rfl | cases same
  | integer kind =>
      apply FixedInt.ext
      exact_mod_cast Option.some.inj same
  | float => cases whole

namespace Scalar

/-- A whole scalar is narrowed to the value that stands for its number. -/
theorem narrow_of_number? {scalar : Scalar} (whole : scalar.isWhole = true) {target : Kind}
    (wholeTarget : target.isBitwise = true) {value : target.Carrier}
    (same : target.number? value = scalar.number?) : scalar.narrow target = .ok value := by
  cases target with
  | bool =>
      cases scalar with
      | bool held =>
          have equal : held = value := Kind.eq_of_number? wholeTarget same.symm
          exact congrArg Except.ok equal
      | int number =>
          obtain rfl : Bool.toInt value = number := by exact_mod_cast Option.some.inj same
          cases value <;> rfl
      | float => cases whole
  | integer kind =>
      cases scalar with
      | bool held =>
          have number : Bool.toInt held = FixedInt.value value := by
            exact_mod_cast Option.some.inj same.symm
          refine congrArg Except.ok (FixedInt.ext ?_)
          rw [← number]
          cases held <;> rfl
      | int number =>
          have equal : FixedInt.value value = number := by exact_mod_cast Option.some.inj same
          exact fit_eq_ok_iff.mpr equal
      | float => cases whole
  | float => cases wholeTarget

/-- A whole scalar whose number a kind has no value for is refused. -/
theorem narrow_of_not_represented {scalar : Scalar} (whole : scalar.isWhole = true) {target : Kind}
    (wholeTarget : target.isBitwise = true)
    (none : ∀ value : target.Carrier, target.number? value ≠ scalar.number?) :
    scalar.narrow target = .error (target.refusal scalar) := by
  cases target with
  | bool =>
      cases scalar with
      | bool held => exact absurd rfl (none held)
      | int number =>
          have notZero : number ≠ 0 := by
            rintro rfl
            exact none false rfl
          have notOne : number ≠ 1 := by
            rintro rfl
            exact none true rfl
          show (int number).toBool = _
          rw [toBool, if_neg notZero, if_neg notOne]
          rfl
      | float => cases whole
  | integer kind =>
      cases scalar with
      | bool held =>
          refine absurd ?_ (none (FixedInt.ofBool kind held))
          cases held <;> rfl
      | int number =>
          apply fit_eq_error
          rw [← Kind.not_represents_integer_iff]
          rintro ⟨value, same⟩
          exact none value same
      | float => cases whole
  | float => cases wholeTarget

end Scalar

/-! ### Casts -/

/-- A cast between whole kinds succeeds exactly on a value whose number the target represents, and
with the value of the target that stands for the same number. -/
theorem convert_eq_ok_iff {source target : Kind} (whole : source.isBitwise = true)
    (wholeTarget : target.isBitwise = true) {value : source.Carrier} {result : target.Carrier} :
    convert source target value = .ok result ↔ target.number? result = source.number? value := by
  have wholeScalar := isWhole_widen whole value
  rw [← number?_widen source value]
  constructor
  · intro converted
    by_cases represented : ∃ other : target.Carrier,
        target.number? other = (source.widen value).number?
    · obtain ⟨other, same⟩ := represented
      have narrowed := Scalar.narrow_of_number? wholeScalar wholeTarget same
      rw [convert, narrowed] at converted
      cases converted
      exact same
    · have refused := Scalar.narrow_of_not_represented wholeScalar wholeTarget
        (not_exists.mp represented)
      rw [convert, refused] at converted
      cases converted
  · exact Scalar.narrow_of_number? wholeScalar wholeTarget

namespace Value

def number? (value : Value) : Option ℚ := value.kind.number? value.content

/-- Casts a value to a kind. -/
def castTo (value : Value) (target : Kind) : Except ConversionError Value :=
  (convert value.kind target value.content).map (Value.mk target)

/-- Casts a value to each of some kinds in turn. -/
def castAlong (value : Value) (kinds : List Kind) : Except ConversionError Value :=
  kinds.foldlM castTo value

/-- A cast to a whole kind is the one value of the kind that stands for the number. -/
theorem castTo_eq_ok_iff {value result : Value} {target : Kind}
    (whole : value.kind.isBitwise = true) (wholeTarget : target.isBitwise = true) :
    value.castTo target = .ok result ↔
      result.kind = target ∧ result.number? = value.number? := by
  obtain ⟨kind, content⟩ := result
  constructor
  · intro cast
    unfold castTo at cast
    cases converted : convert value.kind target value.content with
    | error cause =>
        rw [converted] at cast
        cases cast
    | ok found =>
        rw [converted] at cast
        cases cast
        exact ⟨rfl, (convert_eq_ok_iff whole wholeTarget).mp converted⟩
  · rintro ⟨rfl, same⟩
    rw [castTo, (convert_eq_ok_iff whole wholeTarget).mpr same]
    rfl

/-- Along a chain of casts between whole kinds the number stays, and the last kind is reached. -/
theorem castAlong_keeps {kinds : List Kind} (wholeKinds : ∀ kind ∈ kinds, kind.isBitwise = true)
    {value last : Value} (whole : value.kind.isBitwise = true)
    (cast : value.castAlong kinds = .ok last) :
    last.kind = kinds.getLastD value.kind ∧ last.kind.isBitwise = true ∧
      last.number? = value.number? := by
  induction kinds generalizing value with
  | nil =>
      cases cast
      exact ⟨rfl, whole, rfl⟩
  | cons kind kinds inductionHypothesis =>
      have wholeKind := wholeKinds kind List.mem_cons_self
      rw [castAlong, List.foldlM_cons] at cast
      cases step : value.castTo kind with
      | error cause =>
          rw [step] at cast
          cases cast
      | ok next =>
          rw [step] at cast
          obtain ⟨reached, number⟩ := (castTo_eq_ok_iff whole wholeKind).mp step
          obtain ⟨lastKind, wholeLast, kept⟩ := inductionHypothesis
            (fun other member => wholeKinds other (List.mem_cons_of_mem _ member))
            (reached ▸ wholeKind) cast
          refine ⟨?_, wholeLast, kept.trans number⟩
          rw [lastKind, reached, List.getLastD_cons]

/-- For all kinds among truth values and integers: a value stands for an integer, and a cast succeeds
with a result exactly if the result stands for the same one. So it succeeds exactly if the target
represents that integer, and else it fails with the refusal of the target. A chain of casts that
succeeds comes to the one cast from the first kind to the last, and casting back gives the value
that it began with. -/
theorem casts_keep_numbers {value : Value} (whole : value.kind.isBitwise = true) :
    ∃ number : ℤ, value.number? = some (number : ℚ) ∧
      (∀ target : Kind, target.isBitwise = true →
        (∀ result, convert value.kind target value.content = .ok result ↔
          target.number? result = some (number : ℚ)) ∧
        ((∃ result, convert value.kind target value.content = .ok result) ↔
          target.Represents number) ∧
        (¬ target.Represents number →
          convert value.kind target value.content = .error (target.refusal value.scalar))) ∧
      ∀ kinds : List Kind, (∀ kind ∈ kinds, kind.isBitwise = true) → ∀ last,
        value.castAlong kinds = .ok last →
          value.castTo (kinds.getLastD value.kind) = .ok last ∧
            last.castTo value.kind = .ok value := by
  obtain ⟨number, stands⟩ := Kind.exists_number?_eq whole value.content
  refine ⟨number, stands, ?_, ?_⟩
  · intro target wholeTarget
    have succeeds (result : target.Carrier) :
        convert value.kind target value.content = .ok result ↔
          target.number? result = some (number : ℚ) := by
      rw [convert_eq_ok_iff whole wholeTarget, stands]
    refine ⟨succeeds, exists_congr succeeds, fun unrepresented => ?_⟩
    apply Scalar.narrow_of_not_represented (isWhole_widen whole value.content) wholeTarget
    intro result same
    rw [number?_widen, stands] at same
    exact unrepresented ⟨result, same⟩
  · intro kinds wholeKinds last cast
    obtain ⟨reached, wholeLast, kept⟩ := castAlong_keeps wholeKinds whole cast
    constructor
    · exact (castTo_eq_ok_iff whole (reached ▸ wholeLast)).mpr ⟨reached, kept⟩
    · exact (castTo_eq_ok_iff wholeLast whole).mpr ⟨rfl, kept.symm⟩

/-- 200 of eight digits passes through sixteen digits with a sign and sixty-four without, and has no
value of eight digits with a sign. -/
theorem casts_keep_numbers_byte :
    let byte : Value := ⟨.integer .u8, ⟨200, by decide, by decide⟩⟩
    let wide : Value := ⟨.integer .u64, ⟨200, by decide, by decide⟩⟩
    byte.castTo (.integer .u64) = .ok wide ∧ wide.castTo (.integer .u8) = .ok byte ∧
      convert (.integer .u8) (.integer .i8) byte.content =
        .error (.outOfRange (.int 200) (.integer .i8)) := by
  intro byte wide
  obtain ⟨number, stands, casts, chains⟩ :=
    casts_keep_numbers (show byte.kind.isBitwise = true from rfl)
  obtain ⟨direct, back⟩ := chains [.integer .i16, .integer .u64] (by decide) wide rfl
  refine ⟨direct, back, (casts (.integer .i8) rfl).2.2 ?_⟩
  obtain rfl : 200 = number := by exact_mod_cast Option.some.inj stands
  rw [Kind.represents_integer_iff]
  decide

end Value

end DemandFlow
