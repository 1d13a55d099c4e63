import DemandFlow.Proofs.Sample.Scheme
import DemandFlow.Proofs.Value.Truncation

/-!
Contract: the formulas that the sample graphs compute.

Owns: for which settings each sample graph has a result, what that result is, which node fails
where there is none, and what the runs of all graphs come to.

Main statement: for all settings and both kinds of passes, each sample graph computes its formula
and fails in an operation only (`runs_by_formula`).

Does not own: how the graphs are assembled and evaluated (`Proofs.Sample.Scheme`).

Whether an integer fits is said by `Kind.Represents` throughout, so the checks that the operations
make on the way do not show.
-/

namespace DemandFlow

/-! ### Checked operations -/

section Operation

variable (op : ArithmeticOp) (notDivide : op ≠ .divide) {kind : IntegerKind} {x y : FixedInt kind}

include notDivide

/-- An operation has the exact result if the kind represents it. -/
theorem exists_onIntegers_eq
    (represents : (Kind.integer kind).Represents ↑(op.exact x.value y.value)) :
    ∃ result : FixedInt kind, result.value = op.exact x.value y.value ∧
      op.onIntegers x y = .ok result := by
  obtain ⟨low, high⟩ := Kind.represents_integer_iff.mp represents
  exact ⟨⟨_, low, high⟩, rfl, (ArithmeticOp.onIntegers_eq_ok_iff notDivide).mpr rfl⟩

theorem onIntegers_eq_overflow_of_not_represents
    (exceeds : ¬ (Kind.integer kind).Represents ↑(op.exact x.value y.value)) :
    op.onIntegers x y = .error .overflow :=
  ArithmeticOp.onIntegers_eq_overflow notDivide (Kind.not_represents_integer_iff.mp exceeds)

theorem exists_onIntegers_or_overflow (x y : FixedInt kind) :
    (∃ result : FixedInt kind, result.value = op.exact x.value y.value ∧
      op.onIntegers x y = .ok result) ∨ op.onIntegers x y = .error .overflow := by
  by_cases represents : (Kind.integer kind).Represents ↑(op.exact x.value y.value)
  · exact .inl (exists_onIntegers_eq op notDivide represents)
  · exact .inr (onIntegers_eq_overflow_of_not_represents op notDivide represents)

end Operation

/-! ### Runs over a list -/

section MapM

variable {α β Failure : Type} {run : α → Except Failure β} {item : α} {items : List α}

theorem mapM_cons_of_ok {result : β} (first : run item = .ok result) :
    (item :: items).mapM run = (items.mapM run).map (result :: ·) := by
  rw [List.mapM_cons, first]
  cases items.mapM run <;> rfl

theorem mapM_cons_of_error {failure : Failure} (first : run item = .error failure) :
    (item :: items).mapM run = .error failure := by
  rw [List.mapM_cons, first]
  rfl

/-- Runs over a list have results exactly if each of them has one. -/
theorem mapM_eq_ok_iff {results : List β} :
    items.mapM run = .ok results ↔
      List.Forall₂ (fun item result => run item = .ok result) items results := by
  induction items generalizing results with
  | nil => simp [pure, Except.pure, eq_comm]
  | cons item items inductionHypothesis =>
      rw [List.forall₂_cons_left_iff]
      cases first : run item with
      | error failure => simp [mapM_cons_of_error first]
      | ok result =>
          rw [mapM_cons_of_ok first, Graph.map_eq_ok_iff]
          simp [inductionHypothesis, eq_comm]

/-- Runs over a list fail exactly with the failure of the first one that fails. -/
theorem mapM_eq_error_iff {failure : Failure} :
    items.mapM run = .error failure ↔
      ∃ earlier item later, items = earlier ++ item :: later ∧
        (∀ previous ∈ earlier, ∃ result, run previous = .ok result) ∧
        run item = .error failure := by
  induction items with
  | nil => simp [pure, Except.pure]
  | cons item items inductionHypothesis =>
      constructor
      · intro failed
        cases first : run item with
        | error found =>
            rw [mapM_cons_of_error first] at failed
            cases failed
            exact ⟨[], item, items, rfl, nofun, first⟩
        | ok result =>
            rw [mapM_cons_of_ok first] at failed
            have rest := Graph.map_eq_error_iff.mp failed
            obtain ⟨earlier, failing, later, rfl, succeeded, fails⟩ :=
              inductionHypothesis.mp rest
            refine ⟨item :: earlier, failing, later, rfl, ?_, fails⟩
            rintro previous (_ | ⟨_, member⟩)
            · exact ⟨result, first⟩
            · exact succeeded previous member
      · rintro ⟨earlier, failing, later, split, succeeded, fails⟩
        cases earlier with
        | nil =>
            obtain ⟨rfl, rfl⟩ := List.cons.inj split
            exact mapM_cons_of_error fails
        | cons previous earlier =>
            obtain ⟨rfl, rfl⟩ := List.cons.inj split
            obtain ⟨result, first⟩ := succeeded item List.mem_cons_self
            have rest := inductionHypothesis.mpr ⟨earlier, failing, later, rfl,
              fun other member => succeeded other (List.mem_cons_of_mem _ member), fails⟩
            rw [mapM_cons_of_ok first, rest]
            rfl

end MapM

namespace Sample.Scenario

variable {settings : Settings} {memoized : Bool}

/-! ### The sum -/

theorem run_add_of_represents
    (represents : (Kind.integer .i32).Represents ↑(settings.add.x.value + settings.add.y.value)) :
    run .add settings memoized =
      .ok ⟨"add", toString (settings.add.x.value + settings.add.y.value), 3, none⟩ := by
  obtain ⟨sum, value, computed⟩ := exists_onIntegers_eq .add (by decide) represents
  rw [ArithmeticOp.exact] at value
  rw [← value]
  show (runAdd settings.add memoized).run' .empty = _
  rw [run_add, computed]
  rfl

theorem run_add_of_not_represents
    (exceeds : ¬ (Kind.integer .i32).Represents ↑(settings.add.x.value + settings.add.y.value)) :
    run .add settings memoized = .error (.evaluation (.failed 2 "IntAdd" .overflow)) := by
  have overflows : ArithmeticOp.add.onIntegers settings.add.x settings.add.y = .error .overflow :=
    onIntegers_eq_overflow_of_not_represents .add (by decide) exceeds
  show (runAdd settings.add memoized).run' .empty = _
  rw [run_add, overflows]
  rfl

/-! ### The chain of conversions -/

section CastChain

/-- A chain of conversions fails as the conversion of its input does. -/
theorem run_castChain_of_error {cause : ConversionError}
    (refused : convert (.float .single) (.integer .i32) settings.castChain.input = .error cause) :
    run .castChain settings memoized =
      .error (.evaluation (.failed 3 "FloatToInt" (.conversion cause))) := by
  show (runCastChain settings.castChain memoized).run' .empty = _
  rw [run_castChain, castChainRoot, castChainSum, refused]
  rfl

theorem run_castChain_of_none
    (notFinite : (Kind.float .single).number? settings.castChain.input = none) :
    run .castChain settings memoized =
      .error (.evaluation (.failed 3 "FloatToInt" (.conversion
        (.notFinite ((Kind.float .single).widen settings.castChain.input) (.integer .i32))))) :=
  run_castChain_of_error ((truncates_convert .i32 .single _).notFinite notFinite)

variable {number : ℚ} (stands : (Kind.float .single).number? settings.castChain.input = some number)

include stands

theorem run_castChain_of_not_represents
    (exceeds : ¬ (Kind.integer .i32).Represents ↑(cut number)) :
    run .castChain settings memoized =
      .error (.evaluation (.failed 3 "FloatToInt" (.conversion
        (.outOfRange ((Kind.float .single).widen settings.castChain.input) (.integer .i32))))) :=
  run_castChain_of_error ((truncates_convert .i32 .single _).outside number stands
    (Kind.not_represents_integer_iff.mp exceeds))

variable (represents : (Kind.integer .i32).Represents ↑(cut number))

include represents

/-- The sum of a chain of conversions takes the input cut toward zero. -/
theorem exists_castChainSum_eq : ∃ whole : FixedInt .i32, whole.value = cut number ∧
    castChainSum settings.castChain =
      (ArithmeticOp.add.onIntegers whole settings.castChain.offset).mapError
        (.failed 4 "IntAdd") := by
  obtain ⟨low, high⟩ := Kind.represents_integer_iff.mp represents
  have converted : convert (.float .single) (.integer .i32) settings.castChain.input =
      .ok (⟨cut number, low, high⟩ : FixedInt .i32) :=
    ((truncates_convert .i32 .single _).fits number stands _).mpr rfl
  refine ⟨⟨cut number, low, high⟩, rfl, ?_⟩
  rw [castChainSum, converted]
  rfl

theorem run_castChain_of_sum_not_represents
    (exceeds : ¬ (Kind.integer .i32).Represents
      ↑(cut number + settings.castChain.offset.value)) :
    run .castChain settings memoized =
      .error (.evaluation (.failed 4 "IntAdd" .overflow)) := by
  obtain ⟨whole, value, sum⟩ := exists_castChainSum_eq stands represents
  rw [← value] at exceeds
  have overflows :
      ArithmeticOp.add.onIntegers whole settings.castChain.offset = .error .overflow :=
    onIntegers_eq_overflow_of_not_represents .add (by decide) exceeds
  show (runCastChain settings.castChain memoized).run' .empty = _
  rw [run_castChain, castChainRoot, sum, overflows]
  rfl

theorem run_castChain_of_represents
    (sumRepresents : (Kind.integer .i32).Represents
      ↑(cut number + settings.castChain.offset.value)) :
    run .castChain settings memoized =
      .ok ⟨"cast chain", (rootOfQuotient (cut number + settings.castChain.offset.value)
        settings.castChain.divisor).text .plain, 8, none⟩ := by
  obtain ⟨whole, wholeValue, sum⟩ := exists_castChainSum_eq stands represents
  rw [← wholeValue] at sumRepresents ⊢
  obtain ⟨total, value, computed⟩ :=
    exists_onIntegers_eq .add (by decide) sumRepresents
  rw [ArithmeticOp.exact] at value
  rw [← value]
  show (runCastChain settings.castChain memoized).run' .empty = _
  rw [run_castChain, castChainRoot, sum, computed]
  rfl

end CastChain

/-! ### The diamond -/

section Diamond

/-- Where the whole sum is represented, so are the two that go into it. -/
theorem represents_of_represents_diamond {shared : ℤ}
    (represents : (Kind.integer .i64).Represents ↑(3 * shared + 1)) :
    (Kind.integer .i64).Represents ↑(shared + 1) ∧
      (Kind.integer .i64).Represents ↑(shared * 2) := by
  have least : IntegerKind.i64.least = -2 ^ 63 := rfl
  have greatest : IntegerKind.i64.greatest = 2 ^ 63 - 1 := rfl
  simp only [Kind.represents_integer_iff, least, greatest] at *
  omega

/-- The two sums that go into the whole one add up to it. -/
theorem exact_diamond {shared left right : FixedInt .i64}
    (leftValue : left.value = shared.value + 1) (rightValue : right.value = shared.value * 2) :
    ArithmeticOp.add.exact left.value right.value = 3 * shared.value + 1 := by
  rw [ArithmeticOp.exact, leftValue, rightValue]
  ring

theorem exists_diamondSum_eq {settings : DiamondSettings}
    (represents : (Kind.integer .i64).Represents ↑(3 * settings.shared.value + 1)) :
    ∃ sum : FixedInt .i64, sum.value = 3 * settings.shared.value + 1 ∧
      diamondSum settings = .ok sum := by
  obtain ⟨leftRepresents, rightRepresents⟩ := represents_of_represents_diamond represents
  obtain ⟨left, leftValue, leftComputed⟩ :=
    exists_onIntegers_eq .add (by decide) (y := one) leftRepresents
  obtain ⟨right, rightValue, rightComputed⟩ :=
    exists_onIntegers_eq .multiply (by decide) (y := two) rightRepresents
  rw [← exact_diamond leftValue rightValue] at represents ⊢
  obtain ⟨sum, value, computed⟩ := exists_onIntegers_eq .add (by decide) represents
  refine ⟨sum, value, ?_⟩
  rw [diamondSum, leftComputed, rightComputed]
  show (ArithmeticOp.add.onIntegers left right).mapError _ = _
  rw [computed]
  rfl

/-- Where the whole sum is not represented, one of the three operations overflows. -/
theorem exists_diamondSum_eq_overflow {settings : DiamondSettings}
    (exceeds : ¬ (Kind.integer .i64).Represents ↑(3 * settings.shared.value + 1)) :
    ∃ node kindName, (node, kindName) ∈ [(3, "LongAdd"), (4, "LongMultiply"), (5, "LongAdd")] ∧
      diamondSum settings = .error (.failed node kindName .overflow) := by
  rw [diamondSum]
  rcases exists_onIntegers_or_overflow .add (by decide) settings.shared one
    with ⟨left, leftValue, leftComputed⟩ | overflows
  · rcases exists_onIntegers_or_overflow .multiply (by decide) settings.shared two
      with ⟨right, rightValue, rightComputed⟩ | overflows
    · rw [← exact_diamond leftValue rightValue] at exceeds
      have overflows := onIntegers_eq_overflow_of_not_represents .add (by decide) exceeds
      rw [leftComputed, rightComputed]
      refine ⟨5, "LongAdd", by decide, ?_⟩
      show (ArithmeticOp.add.onIntegers left right).mapError _ = _
      rw [overflows]
      rfl
    · rw [leftComputed, overflows]
      exact ⟨4, "LongMultiply", by decide, rfl⟩
  · rw [overflows]
    exact ⟨3, "LongAdd", by decide, rfl⟩

theorem run_diamond_of_represents
    (represents : (Kind.integer .i64).Represents ↑(3 * settings.diamond.shared.value + 1)) :
    run .diamond settings memoized =
      .ok ⟨"diamond", toString (3 * settings.diamond.shared.value + 1),
        if memoized then 6 else 7, some (if memoized then 1 else 2)⟩ := by
  obtain ⟨sum, value, computed⟩ := exists_diamondSum_eq represents
  show (runDiamond settings.diamond memoized).run' .empty = _
  rw [run_diamond, computed, ← value]
  rfl

theorem run_diamond_of_not_represents
    (exceeds : ¬ (Kind.integer .i64).Represents ↑(3 * settings.diamond.shared.value + 1)) :
    ∃ node kindName, (node, kindName) ∈ [(3, "LongAdd"), (4, "LongMultiply"), (5, "LongAdd")] ∧
      run .diamond settings memoized = .error (.evaluation (.failed node kindName .overflow)) := by
  obtain ⟨node, kindName, place, overflows⟩ := exists_diamondSum_eq_overflow exceeds
  refine ⟨node, kindName, place, ?_⟩
  show (runDiamond settings.diamond memoized).run' .empty = _
  rw [run_diamond, overflows]
  rfl

end Diamond

/-! ### All sample graphs -/

/-- Without a result an operation has failed: no kind name is unknown, no link is refused, no output
is missing, no input is open and no node depends on itself. -/
def FailsInOperation (outcome : Except AssemblyError Report) : Prop :=
  ∀ failure, outcome = .error failure →
    ∃ node kindName cause, failure = .evaluation (.failed node kindName cause)

theorem failsInOperation_ok {report : Report} : FailsInOperation (.ok report) :=
  fun _ impossible => nomatch impossible

theorem failsInOperation_failed {node : NodeId} {kindName : String} {cause : OperationError} :
    FailsInOperation (.error (.evaluation (.failed node kindName cause))) := by
  rintro _ ⟨⟩
  exact ⟨node, kindName, cause, rfl⟩

theorem failsInOperation_castChain : FailsInOperation (run .castChain settings memoized) := by
  cases stands : (Kind.float .single).number? settings.castChain.input with
  | none =>
      rw [run_castChain_of_none stands]
      exact failsInOperation_failed
  | some number =>
      by_cases represents : (Kind.integer .i32).Represents ↑(cut number)
      · by_cases sum : (Kind.integer .i32).Represents
            ↑(cut number + settings.castChain.offset.value)
        · rw [run_castChain_of_represents stands represents sum]
          exact failsInOperation_ok
        · rw [run_castChain_of_sum_not_represents stands represents sum]
          exact failsInOperation_failed
      · rw [run_castChain_of_not_represents stands represents]
        exact failsInOperation_failed

theorem failsInOperation_run (scenario : Scenario) :
    FailsInOperation (scenario.run settings memoized) := by
  cases scenario with
  | add =>
      by_cases represents :
          (Kind.integer .i32).Represents ↑(settings.add.x.value + settings.add.y.value)
      · rw [run_add_of_represents represents]
        exact failsInOperation_ok
      · rw [run_add_of_not_represents represents]
        exact failsInOperation_failed
  | selector =>
      show FailsInOperation ((runSelector settings.selector memoized).run' .empty)
      rw [run_selector]
      exact failsInOperation_ok
  | castChain => exact failsInOperation_castChain
  | diamond =>
      by_cases represents :
          (Kind.integer .i64).Represents ↑(3 * settings.diamond.shared.value + 1)
      · rw [run_diamond_of_represents represents]
        exact failsInOperation_ok
      · obtain ⟨node, kindName, -, overflows⟩ := run_diamond_of_not_represents represents
        rw [overflows]
        exact failsInOperation_failed

/-- What the runs of the sample graphs come to. -/
structure ByFormula (settings : Settings) (memoized : Bool) : Prop where
  add : (Kind.integer .i32).Represents ↑(settings.add.x.value + settings.add.y.value) →
    run .add settings memoized =
      .ok ⟨"add", toString (settings.add.x.value + settings.add.y.value), 3, none⟩
  addOverflow : ¬ (Kind.integer .i32).Represents ↑(settings.add.x.value + settings.add.y.value) →
    run .add settings memoized = .error (.evaluation (.failed 2 "IntAdd" .overflow))
  selector : run .selector settings memoized =
    .ok ⟨"selector", (bif settings.selector.control then settings.selector.x
      else settings.selector.y).text .plain, 4, none⟩
  /-- The input is cut, the offset added, the sum rounded and divided, and the root taken. -/
  castChain : ∀ number, (Kind.float .single).number? settings.castChain.input = some number →
    (Kind.integer .i32).Represents ↑(cut number) →
    (Kind.integer .i32).Represents ↑(cut number + settings.castChain.offset.value) →
      run .castChain settings memoized =
        .ok ⟨"cast chain", (rootOfQuotient (cut number + settings.castChain.offset.value)
          settings.castChain.divisor).text .plain, 8, none⟩
  castChainOverflow :
    ∀ number, (Kind.float .single).number? settings.castChain.input = some number →
    (Kind.integer .i32).Represents ↑(cut number) →
    ¬ (Kind.integer .i32).Represents ↑(cut number + settings.castChain.offset.value) →
      run .castChain settings memoized = .error (.evaluation (.failed 4 "IntAdd" .overflow))
  castChainOutOfRange :
    ∀ number, (Kind.float .single).number? settings.castChain.input = some number →
    ¬ (Kind.integer .i32).Represents ↑(cut number) →
      run .castChain settings memoized =
        .error (.evaluation (.failed 3 "FloatToInt" (.conversion
          (.outOfRange ((Kind.float .single).widen settings.castChain.input) (.integer .i32)))))
  castChainNotFinite : (Kind.float .single).number? settings.castChain.input = none →
    run .castChain settings memoized =
      .error (.evaluation (.failed 3 "FloatToInt" (.conversion
        (.notFinite ((Kind.float .single).widen settings.castChain.input) (.integer .i32)))))
  diamond : (Kind.integer .i64).Represents ↑(3 * settings.diamond.shared.value + 1) →
    run .diamond settings memoized =
      .ok ⟨"diamond", toString (3 * settings.diamond.shared.value + 1),
        if memoized then 6 else 7, some (if memoized then 1 else 2)⟩
  /-- One of the three operations of the diamond overflows. -/
  diamondOverflow : ¬ (Kind.integer .i64).Represents ↑(3 * settings.diamond.shared.value + 1) →
    ∃ node kindName, (node, kindName) ∈ [(3, "LongAdd"), (4, "LongMultiply"), (5, "LongAdd")] ∧
      run .diamond settings memoized = .error (.evaluation (.failed node kindName .overflow))
  failure : ∀ scenario : Scenario, FailsInOperation (scenario.run settings memoized)
  reports : ∀ reports, runAll settings memoized = .ok reports ↔
    List.Forall₂ (fun scenario report => run scenario settings memoized = .ok report)
      [.add, .selector, .castChain, .diamond] reports
  firstFailure : ∀ failure, runAll settings memoized = .error failure ↔
    ∃ earlier scenario later,
      [.add, .selector, .castChain, .diamond] = earlier ++ scenario :: later ∧
      (∀ previous ∈ earlier, ∃ report, run previous settings memoized = .ok report) ∧
      run scenario settings memoized = .error failure

/-- For all settings and both kinds of passes: the sum and the diamond have a result exactly if the
integer of their formula fits, and overflow else; the selector always has one; the chain of
conversions has one exactly if the whole part of its input and the sum fit, and fails at the first
of the two that does not. The evaluations are counted too, and those of the node that the diamond
shares. All graphs together give their reports in order, or the first failure. -/
theorem runs_by_formula (settings : Settings) (memoized : Bool) : ByFormula settings memoized where
  add := run_add_of_represents
  addOverflow := run_add_of_not_represents
  selector := run_selector settings.selector memoized
  castChain _ := run_castChain_of_represents
  castChainOverflow _ := run_castChain_of_sum_not_represents
  castChainOutOfRange _ := run_castChain_of_not_represents
  castChainNotFinite := run_castChain_of_none
  diamond := run_diamond_of_represents
  diamondOverflow := run_diamond_of_not_represents
  failure := failsInOperation_run
  reports _ := mapM_eq_ok_iff
  firstFailure _ := mapM_eq_error_iff

end Sample.Scenario

end DemandFlow
