import DemandFlow.Proofs.Catalog.Construction
import DemandFlow.Sample.Scenario

/-!
Contract: the schemes of the sample graphs.

Owns: for each sample graph its scheme, what its last node computes as a composition of plain
functions, and the report that a run comes to.

Main statements: `run_add`, `run_selector`, `run_castChain`, `run_diamond`.

Does not own: for which settings the compositions have a result (`Proofs.Sample.Scenario`).

Nodes are numbered in the order in which they are made. Every sample graph links nodes to older
ones only and ends with the node that it reports on, so a scheme tells the values and the visits.
-/

namespace DemandFlow.Sample.Scenario

open Assembly

/-! ### Reports -/

/-- A report reads the output of the node that has been evaluated. -/
theorem run_report_of_found (scenario : Scenario) {memoized : Bool} {sink : NodeId}
    {output : String} {kind : Kind} (shared : Option NodeId) {graph after : Graph} {pass : Pass}
    {port : PortId} (evaluated : (evaluate memoized sink).run graph = .ok (pass, after))
    (found : after.findTyped? sink output .output kind = some port) :
    (report scenario memoized sink output kind shared).run graph =
      .ok (⟨scenario.name, (after.port port).value.text, pass.visits,
        shared.map pass.visitsOf⟩, after) := by
  rw [report, StateT.run_bind, evaluated]
  show ((findOutput sink output kind).run after >>= _) = _
  simp only [findOutput, StateT.run_bind, StateT.run_get, pure_bind, found]
  rfl

/-- A report fails as the evaluation of the node does. -/
theorem run_report_of_failed (scenario : Scenario) {memoized : Bool} {sink : NodeId}
    (output : String) (kind : Kind) (shared : Option NodeId) {graph : Graph}
    {failure : AssemblyError} (evaluated : (evaluate memoized sink).run graph = .error failure) :
    (report scenario memoized sink output kind shared).run graph = .error failure := by
  rw [report, StateT.run_bind, evaluated]
  rfl

/-- An assembly that leads to a report on a finished scheme reports the value of the last node. -/
theorem run_of_leads {assembly : Assembly Report} {scenario : Scenario} {memoized : Bool}
    {sink : NodeId} {output : String} {kind : Kind} {shared : Option NodeId} {scheme : List Part}
    {part : Part}
    (leads : assembly.Leads [] (report scenario memoized sink output kind shared) scheme)
    (finished : Graph.Finished scheme sink) (isPart : scheme[sink]? = some part)
    (gives : part.plan.output? = some (output, kind))
    {outcome : Except EvaluationError kind.Carrier}
    (computed : ∀ graph : Graph, graph.Embodies scheme →
      graph.reference [] sink = outcome.map (Value.mk kind))
    {weight : NodeId → ℕ} (adds : (wiringOf scheme).Adds (fun _ => 1) weight)
    (passages : NodeId → ℕ)
    (counted : ∀ target ∈ shared, target ≤ sink ∧
      (wiringOf scheme).Adds (fun id => if target = id then 1 else 0) passages) :
    assembly.run' .empty =
      (outcome.mapError .evaluation).map fun content =>
        ⟨scenario.name, kind.text .plain content, if memoized then sink + 1 else weight sink,
          shared.map fun _ => if memoized then 1 else passages sink⟩ := by
  obtain ⟨graph, embodies, leadsTo⟩ := leads .empty Graph.embodies_empty
  obtain ⟨after, result, held⟩ := embodies.exists_output isPart gives memoized
  have evaluated := run_evaluate memoized sink graph
  rw [StateT.run'_eq, leadsTo]
  cases outcome with
  | error failure =>
      rw [result, computed graph embodies] at evaluated
      rw [run_report_of_failed scenario output kind shared evaluated]
      rfl
  | ok content =>
      obtain ⟨port, found, value⟩ := held ⟨kind, content⟩ (computed graph embodies)
      have succeeds : (Run.compute ⟨graph, .fresh memoized⟩ sink).1 = .ok () := by
        rw [result, computed graph embodies]
        rfl
      have visits := embodies.visits_eq finished succeeds adds
      have passed : shared.map (Run.compute ⟨graph, .fresh memoized⟩ sink).2.pass.visitsOf =
          shared.map fun _ => if memoized then 1 else passages sink := by
        apply Option.map_congr
        intro target member
        obtain ⟨older, addsTarget⟩ := counted target member
        exact embodies.visitsOf_eq finished succeeds older addsTarget
      rw [result] at visits passed
      rw [result, computed graph embodies] at evaluated
      rw [run_report_of_found scenario shared evaluated found, value, visits, passed]
      rfl

/-! ### Parts -/

/-- An operation on integers of a kind. -/
def integerPlan (kindName : String) (op : ArithmeticOp) (kind : IntegerKind) : Blueprint :=
  .operator kindName (.binary (.integer kind) (.integer kind) (.integer kind) op.onIntegers)

theorem create_integerPlan {kindName : String} {op : ArithmeticOp} {kind : IntegerKind}
    (named : (Recipe.operator (.arithmetic op) (.integer kind)).kindName = kindName) :
    create kindName = Assembly.add (integerPlan kindName op kind) := by
  subst named
  exact create_eq rfl rfl rfl

def integerPart {kind : IntegerKind} (value : FixedInt kind) : Part :=
  ⟨.constant ⟨.integer kind, value⟩, []⟩

def floatPart (kind : FloatKind) (value : Binary kind.format) : Part :=
  ⟨.constant ⟨.float kind, value⟩, []⟩

/-! ### The sum -/

/-- Two integers and their sum. -/
def addScheme (settings : AddSettings) : List Part :=
  [integerPart settings.x, integerPart settings.y,
    ⟨integerPlan "IntAdd" .add .i32, [some 0, some 1]⟩]

theorem leads_add (settings : AddSettings) (memoized : Bool) :
    (runAdd settings memoized).Leads [] (report .add memoized 2 "Result" (.integer .i32) none)
      (addScheme settings) := by
  have intAdd := create_integerPlan
    (show (Recipe.operator (.arithmetic .add) (.integer .i32)).kindName = "IntAdd" by decide)
  rw [runAdd, intAdd]
  refine .trans (.add 0 rfl (.constant _) _ _) ?_
  refine .trans (.add 1 rfl (.constant _) _ _) ?_
  refine .trans (.add 2 rfl (.binary ..) _ _) ?_
  refine .trans (.connect rfl rfl rfl 0 rfl _) ?_
  refine .trans (.connect rfl rfl rfl 1 rfl _) ?_
  exact .refl _ _

theorem finished_add (settings : AddSettings) : Graph.Finished (addScheme settings) 2 where
  closed := (by decide : Wiring.Closed [[], [], [some 0, some 1]])
  used := (by decide : Wiring.Used [[], [], [some 0, some 1]])
  last := rfl

theorem reference_add {settings : AddSettings} {graph : Graph}
    (embodies : graph.Embodies (addScheme settings)) :
    graph.reference [] 2 =
      ((ArithmeticOp.add.onIntegers settings.x settings.y).mapError (.failed 2 "IntAdd")).map
        (Value.mk (.integer .i32)) := by
  have closed := (finished_add settings).closed
  have x := embodies.reference_constant closed 0 rfl
  have y := embodies.reference_constant closed 1 rfl
  exact embodies.reference_binary closed 2 rfl x y

theorem run_add (settings : AddSettings) (memoized : Bool) :
    (runAdd settings memoized).run' .empty =
      (((ArithmeticOp.add.onIntegers settings.x settings.y).mapError
        (.failed 2 "IntAdd")).mapError .evaluation).map fun sum =>
          ⟨"add", toString sum.value, 3, none⟩ := by
  have adds : Wiring.Adds [[], [], [some 0, some 1]] (fun _ => 1)
      fun id => [1, 1, 3].getD id 0 := by decide
  have reports := run_of_leads (leads_add settings memoized) (finished_add settings) rfl rfl
    (fun _ embodies => reference_add embodies) adds (fun _ => 0) nofun
  cases memoized <;> exact reports

/-! ### The selector -/

/-- A truth value, two numbers, and the one that is chosen. -/
def selectorScheme (settings : SelectorSettings) : List Part :=
  [⟨.constant ⟨.bool, settings.control⟩, []⟩, floatPart .double settings.x,
    floatPart .double settings.y, ⟨.selector (.float .double), [some 0, some 1, some 2]⟩]

theorem leads_selector (settings : SelectorSettings) (memoized : Bool) :
    (runSelector settings memoized).Leads []
      (report .selector memoized 3 "Value" (.float .double) none) (selectorScheme settings) := by
  have select : create "DoubleSelectiveValue" = _ :=
    create_eq (show (Recipe.selector (.float .double)).kindName = _ by decide) trivial rfl
  rw [runSelector, select]
  refine .trans (.add 0 rfl (.constant _) _ _) ?_
  refine .trans (.add 1 rfl (.constant _) _ _) ?_
  refine .trans (.add 2 rfl (.constant _) _ _) ?_
  refine .trans (.add 3 rfl (.selector _) _ _) ?_
  refine .trans (.connect rfl rfl rfl 0 rfl _) ?_
  refine .trans (.connect rfl rfl rfl 1 rfl _) ?_
  refine .trans (.connect rfl rfl rfl 2 rfl _) ?_
  exact .refl _ _

theorem finished_selector (settings : SelectorSettings) :
    Graph.Finished (selectorScheme settings) 3 where
  closed := (by decide : Wiring.Closed [[], [], [], [some 0, some 1, some 2]])
  used := (by decide : Wiring.Used [[], [], [], [some 0, some 1, some 2]])
  last := rfl

theorem reference_selector {settings : SelectorSettings} {graph : Graph}
    (embodies : graph.Embodies (selectorScheme settings)) :
    graph.reference [] 3 =
      (Except.ok (bif settings.control then settings.x else settings.y)).map
        (Value.mk (.float .double)) := by
  have closed := (finished_selector settings).closed
  have control := embodies.reference_constant closed 0 rfl
  have x := embodies.reference_constant closed 1 rfl
  have y := embodies.reference_constant closed 2 rfl
  exact embodies.reference_selector closed 3 rfl control x y

theorem run_selector (settings : SelectorSettings) (memoized : Bool) :
    (runSelector settings memoized).run' .empty =
      .ok ⟨"selector", (bif settings.control then settings.x else settings.y).text .plain, 4,
        none⟩ := by
  have adds : Wiring.Adds [[], [], [], [some 0, some 1, some 2]] (fun _ => 1)
      fun id => [1, 1, 1, 4].getD id 0 := by decide
  have reports := run_of_leads (leads_selector settings memoized) (finished_selector settings) rfl
    rfl (fun _ embodies => reference_selector embodies) adds (fun _ => 0) nofun
  cases memoized <;> exact reports

/-! ### The chain of conversions -/

/-- A number, an integer and a divisor, and the conversions and operations between them. -/
def castChainScheme (settings : CastChainSettings) : List Part :=
  [floatPart .single settings.input, integerPart settings.offset,
    floatPart .single settings.divisor,
    ⟨.operator "FloatToInt" (.conversion (.float .single) (.integer .i32)), [some 0]⟩,
    ⟨integerPlan "IntAdd" .add .i32, [some 3, some 1]⟩,
    ⟨.operator "IntToFloat" (.conversion (.integer .i32) (.float .single)), [some 4]⟩,
    ⟨.operator "FloatDivide" (.binary (.float .single) (.float .single) (.float .single)
      fun x y => .ok (ArithmeticOp.divide.onFloats .single x y)), [some 5, some 2]⟩,
    ⟨.operator "FloatSqrt" (Operator.mathFormula .sqrt (.float .single)), [some 6]⟩]

theorem leads_castChain (settings : CastChainSettings) (memoized : Bool) :
    (runCastChain settings memoized).Leads []
      (report .castChain memoized 7 "Result" (.float .double) none) (castChainScheme settings) := by
  have toInt : create "FloatToInt" = _ := create_eq
    (show (Recipe.cast (.float .single) (.integer .i32)).kindName = _ by decide) nofun rfl
  have intAdd := create_integerPlan
    (show (Recipe.operator (.arithmetic .add) (.integer .i32)).kindName = "IntAdd" by decide)
  have toFloat : create "IntToFloat" = _ := create_eq
    (show (Recipe.cast (.integer .i32) (.float .single)).kindName = _ by decide) nofun rfl
  have divide : create "FloatDivide" = _ := create_eq
    (show (Recipe.operator (.arithmetic .divide) (.float .single)).kindName = _ by decide) rfl rfl
  have sqrt : create "FloatSqrt" = _ := create_eq
    (show (Recipe.operator (.math .sqrt) (.float .single)).kindName = _ by decide) rfl rfl
  rw [runCastChain, toInt, intAdd, toFloat, divide, sqrt]
  refine .trans (.add 0 rfl (.constant _) _ _) ?_
  refine .trans (.add 1 rfl (.constant _) _ _) ?_
  refine .trans (.add 2 rfl (.constant _) _ _) ?_
  refine .trans (.add 3 rfl (.unary ..) _ _) ?_
  refine .trans (.add 4 rfl (.binary ..) _ _) ?_
  refine .trans (.add 5 rfl (.unary ..) _ _) ?_
  refine .trans (.add 6 rfl (.binary ..) _ _) ?_
  refine .trans (.add 7 rfl (.unary ..) _ _) ?_
  refine .trans (.connect rfl rfl rfl 0 rfl _) ?_
  refine .trans (.connect rfl rfl rfl 0 rfl _) ?_
  refine .trans (.connect rfl rfl rfl 1 rfl _) ?_
  refine .trans (.connect rfl rfl rfl 0 rfl _) ?_
  refine .trans (.connect rfl rfl rfl 0 rfl _) ?_
  refine .trans (.connect rfl rfl rfl 1 rfl _) ?_
  refine .trans (.connect rfl rfl rfl 0 rfl _) ?_
  exact .refl _ _

def castChainWiring : Wiring :=
  [[], [], [], [some 0], [some 3, some 1], [some 4], [some 5, some 2], [some 6]]

theorem finished_castChain (settings : CastChainSettings) :
    Graph.Finished (castChainScheme settings) 7 where
  closed := (by decide : castChainWiring.Closed)
  used := (by decide : castChainWiring.Used)
  last := rfl

/-- The whole part of the input and the offset, added, or which node has no result and why. -/
def castChainSum (settings : CastChainSettings) : Except EvaluationError (FixedInt .i32) := do
  let whole : FixedInt .i32 ←
    ((convert (.float .single) (.integer .i32) settings.input).mapError .conversion).mapError
      (.failed 3 "FloatToInt")
  (ArithmeticOp.add.onIntegers whole settings.offset).mapError (.failed 4 "IntAdd")

/-- The root of an integer that is rounded to a 32-bit float and divided. -/
def rootOfQuotient (number : ℤ) (divisor : Binary32) : Binary64 :=
  Binary64.sqrt ((Binary32.arithmetic.div (.ofInt .single number) divisor).toFormat .double)

/-- What the chain of conversions computes. Once there is a sum, nothing can fail. -/
def castChainRoot (settings : CastChainSettings) : Except EvaluationError Binary64 :=
  (castChainSum settings).map fun sum => rootOfQuotient sum.value settings.divisor

theorem reference_castChain {settings : CastChainSettings} {graph : Graph}
    (embodies : graph.Embodies (castChainScheme settings)) :
    graph.reference [] 7 = (castChainRoot settings).map (Value.mk (.float .double)) := by
  have closed := (finished_castChain settings).closed
  have input := embodies.reference_constant closed 0 rfl
  have offset := embodies.reference_constant closed 1 rfl
  have divisor := embodies.reference_constant closed 2 rfl
  have whole := embodies.reference_unary closed 3 rfl input
  have sum : graph.reference [] 4 = (castChainSum settings).map (Value.mk (.integer .i32)) :=
    embodies.reference_binary closed 4 rfl whole offset
  have rounded := embodies.reference_unary closed 5 rfl sum
  have quotient := embodies.reference_binary closed 6 rfl rounded divisor
  have root := embodies.reference_unary closed 7 rfl quotient
  rw [root, castChainRoot]
  cases castChainSum settings <;> rfl

theorem run_castChain (settings : CastChainSettings) (memoized : Bool) :
    (runCastChain settings memoized).run' .empty =
      ((castChainRoot settings).mapError .evaluation).map fun root =>
        ⟨"cast chain", root.text .plain, 8, none⟩ := by
  have adds : castChainWiring.Adds (fun _ => 1) fun id => [1, 1, 1, 2, 4, 5, 7, 8].getD id 0 := by
    decide
  have reports := run_of_leads (leads_castChain settings memoized) (finished_castChain settings) rfl
    rfl (fun _ embodies => reference_castChain embodies) adds (fun _ => 0) nofun
  cases memoized <;> exact reports

/-! ### The diamond -/

/-- The integers that the diamond adds and multiplies by. -/
def one : FixedInt .i64 := .ofWord 1

def two : FixedInt .i64 := .ofWord 2

/-- An integer that feeds two operations, and the sum of their results. -/
def diamondScheme (settings : DiamondSettings) : List Part :=
  [integerPart settings.shared, integerPart one, integerPart two,
    ⟨integerPlan "LongAdd" .add .i64, [some 0, some 1]⟩,
    ⟨integerPlan "LongMultiply" .multiply .i64, [some 0, some 2]⟩,
    ⟨integerPlan "LongAdd" .add .i64, [some 3, some 4]⟩]

theorem leads_diamond (settings : DiamondSettings) (memoized : Bool) :
    (runDiamond settings memoized).Leads []
      (report .diamond memoized 5 "Result" (.integer .i64) (some 0)) (diamondScheme settings) := by
  have longAdd := create_integerPlan
    (show (Recipe.operator (.arithmetic .add) (.integer .i64)).kindName = "LongAdd" by decide)
  have longMultiply := create_integerPlan
    (show (Recipe.operator (.arithmetic .multiply) (.integer .i64)).kindName = "LongMultiply"
      by decide)
  rw [runDiamond, longAdd, longMultiply]
  refine .trans (.add 0 rfl (.constant _) _ _) ?_
  refine .trans (.add 1 rfl (.constant _) _ _) ?_
  refine .trans (.add 2 rfl (.constant _) _ _) ?_
  refine .trans (.add 3 rfl (.binary ..) _ _) ?_
  refine .trans (.add 4 rfl (.binary ..) _ _) ?_
  refine .trans (.add 5 rfl (.binary ..) _ _) ?_
  refine .trans (.connect rfl rfl rfl 0 rfl _) ?_
  refine .trans (.connect rfl rfl rfl 1 rfl _) ?_
  refine .trans (.connect rfl rfl rfl 0 rfl _) ?_
  refine .trans (.connect rfl rfl rfl 1 rfl _) ?_
  refine .trans (.connect rfl rfl rfl 0 rfl _) ?_
  refine .trans (.connect rfl rfl rfl 1 rfl _) ?_
  exact .refl _ _

def diamondWiring : Wiring := [[], [], [], [some 0, some 1], [some 0, some 2], [some 3, some 4]]

theorem finished_diamond (settings : DiamondSettings) :
    Graph.Finished (diamondScheme settings) 5 where
  closed := (by decide : diamondWiring.Closed)
  used := (by decide : diamondWiring.Used)
  last := rfl

/-- What the diamond computes, or which node has no result and why. -/
def diamondSum (settings : DiamondSettings) : Except EvaluationError (FixedInt .i64) := do
  let left ← (ArithmeticOp.add.onIntegers settings.shared one).mapError (.failed 3 "LongAdd")
  let right ← (ArithmeticOp.multiply.onIntegers settings.shared two).mapError
    (.failed 4 "LongMultiply")
  (ArithmeticOp.add.onIntegers left right).mapError (.failed 5 "LongAdd")

theorem reference_diamond {settings : DiamondSettings} {graph : Graph}
    (embodies : graph.Embodies (diamondScheme settings)) :
    graph.reference [] 5 = (diamondSum settings).map (Value.mk (.integer .i64)) := by
  have closed := (finished_diamond settings).closed
  have shared := embodies.reference_constant closed 0 rfl
  have one := embodies.reference_constant closed 1 rfl
  have two := embodies.reference_constant closed 2 rfl
  have left := embodies.reference_binary closed 3 rfl shared one
  have right := embodies.reference_binary closed 4 rfl shared two
  exact embodies.reference_binary closed 5 rfl left right

theorem run_diamond (settings : DiamondSettings) (memoized : Bool) :
    (runDiamond settings memoized).run' .empty =
      ((diamondSum settings).mapError .evaluation).map fun sum =>
        ⟨"diamond", toString sum.value, if memoized then 6 else 7,
          some (if memoized then 1 else 2)⟩ := by
  have adds : diamondWiring.Adds (fun _ => 1) fun id => [1, 1, 1, 3, 3, 7].getD id 0 := by decide
  have passes : diamondWiring.Adds (fun id => if 0 = id then 1 else 0)
      fun id => [1, 0, 0, 1, 1, 2].getD id 0 := by decide
  have counted : ∀ target ∈ some 0, target ≤ 5 ∧
      (wiringOf (diamondScheme settings)).Adds (fun id => if target = id then 1 else 0)
        fun id => [1, 0, 0, 1, 1, 2].getD id 0 := by
    rintro _ ⟨⟩
    exact ⟨Nat.zero_le 5, passes⟩
  exact run_of_leads (leads_diamond settings memoized) (finished_diamond settings) rfl rfl
    (fun _ embodies => reference_diamond embodies) adds _ counted

end DemandFlow.Sample.Scenario
