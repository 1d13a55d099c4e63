import DemandFlow.Catalog.Assembly
import DemandFlow.Sample.Settings

/-!
Contract: the sample graphs and the reports on them.

Owns: four graphs, how each is built and computed, and the text of a report.

Does not own: their settings (`Sample.Settings`).

The nodes are made by kind name and linked by port name. A graph is computed once, from its last
node, in a fresh pass.
-/

namespace DemandFlow.Sample

/-- The result of a sample graph. -/
structure Report where
  name : String
  /-- The text of the value computed. -/
  result : String
  /-- How many evaluations the computation took. -/
  visits : Nat
  /-- How many of them were of the node that feeds two others, where there is one. -/
  sharedVisits : Option Nat
deriving DecidableEq, Repr

namespace Report

/-- A text followed by blanks up to a width. -/
def column (width : Nat) (text : String) : String :=
  text ++ String.ofList (List.replicate (width - text.length) ' ')

def text (report : Report) : String :=
  let shared :=
    match report.sharedVisits with
    | some visits => ", shared node " ++ toString visits
    | none => ""
  column 10 report.name ++ " = " ++ column 20 report.result ++ " (" ++ toString report.visits ++
    " evaluations" ++ shared ++ ")"

end Report

inductive Scenario where
  | add
  | selector
  /-- The root of a quotient, through several conversions. -/
  | castChain
  /-- The sum of two results that depend on one node. -/
  | diamond
deriving DecidableEq, Repr

namespace Scenario

/-- The sample graphs in the order in which they are run. -/
def all : List Scenario := [.add, .selector, .castChain, .diamond]

def name : Scenario → String
  | .add => "add"
  | .selector => "selector"
  | .castChain => "cast chain"
  | .diamond => "diamond"

def integer {kind : IntegerKind} (displayName : String) (value : FixedInt kind) :
    Assembly NodeId :=
  Assembly.constant displayName ⟨.integer kind, value⟩

def float (kind : FloatKind) (displayName : String) (value : Binary kind.format) :
    Assembly NodeId :=
  Assembly.constant displayName ⟨.float kind, value⟩

/-- Computes a node, reads its output of a name and a kind, and reports how often `shared` was
evaluated. -/
def report (scenario : Scenario) (memoized : Bool) (sink : NodeId) (output : String) (kind : Kind)
    (shared : Option NodeId) : Assembly Report := do
  let pass ← Assembly.evaluate memoized sink
  let port ← Assembly.findOutput sink output kind
  return {
    name := scenario.name
    result := ((← get).port port).value.text
    visits := pass.visits
    sharedVisits := shared.map pass.visitsOf }

/-- `x + y`. -/
def runAdd (settings : AddSettings) (memoized : Bool) : Assembly Report := do
  let x ← integer "x" settings.x
  let y ← integer "y" settings.y
  let sum ← Assembly.create "IntAdd" "sum"
  Assembly.connect x "Value" sum "X"
  Assembly.connect y "Value" sum "Y"
  report .add memoized sum "Result" (.integer .i32) none

/-- `x` or `y`. -/
def runSelector (settings : SelectorSettings) (memoized : Bool) : Assembly Report := do
  let control ← Assembly.constant "control" ⟨.bool, settings.control⟩
  let x ← float .double "x" settings.x
  let y ← float .double "y" settings.y
  let select ← Assembly.create "DoubleSelectiveValue" "select"
  Assembly.connect control "Value" select "Control"
  Assembly.connect x "Value" select "X"
  Assembly.connect y "Value" select "Y"
  report .selector memoized select "Value" (.float .double) none

/-- The root of `(whole part of input + offset) / divisor`. -/
def runCastChain (settings : CastChainSettings) (memoized : Bool) : Assembly Report := do
  let input ← float .single "input" settings.input
  let offset ← integer "offset" settings.offset
  let divisor ← float .single "divisor" settings.divisor
  let whole ← Assembly.create "FloatToInt" "to int"
  let sum ← Assembly.create "IntAdd" "sum"
  let widened ← Assembly.create "IntToFloat" "to float"
  let quotient ← Assembly.create "FloatDivide" "quotient"
  let root ← Assembly.create "FloatSqrt" "root"
  Assembly.connect input "Value" whole "In"
  Assembly.connect whole "Result" sum "X"
  Assembly.connect offset "Value" sum "Y"
  Assembly.connect sum "Result" widened "In"
  Assembly.connect widened "Result" quotient "X"
  Assembly.connect divisor "Value" quotient "Y"
  Assembly.connect quotient "Result" root "In"
  report .castChain memoized root "Result" (.float .double) none

/-- `(shared + 1) + (shared * 2)`. -/
def runDiamond (settings : DiamondSettings) (memoized : Bool) : Assembly Report := do
  let shared ← integer "shared" settings.shared
  let one ← integer "one" (⟨1, by decide, by decide⟩ : FixedInt .i64)
  let two ← integer "two" (⟨2, by decide, by decide⟩ : FixedInt .i64)
  let left ← Assembly.create "LongAdd" "left"
  let right ← Assembly.create "LongMultiply" "right"
  let sink ← Assembly.create "LongAdd" "sink"
  Assembly.connect shared "Value" left "X"
  Assembly.connect one "Value" left "Y"
  Assembly.connect shared "Value" right "X"
  Assembly.connect two "Value" right "Y"
  Assembly.connect left "Result" sink "X"
  Assembly.connect right "Result" sink "Y"
  report .diamond memoized sink "Result" (.integer .i64) (some shared)

def assemble (scenario : Scenario) (settings : Settings) (memoized : Bool) : Assembly Report :=
  match scenario with
  | .add => runAdd settings.add memoized
  | .selector => runSelector settings.selector memoized
  | .castChain => runCastChain settings.castChain memoized
  | .diamond => runDiamond settings.diamond memoized

def run (scenario : Scenario) (settings : Settings) (memoized : Bool) :
    Except AssemblyError Report :=
  (scenario.assemble settings memoized).run' .empty

/-- The reports on all sample graphs, or the first failure. -/
def runAll (settings : Settings) (memoized : Bool) : Except AssemblyError (List Report) :=
  all.mapM fun scenario => scenario.run settings memoized

end Scenario

end DemandFlow.Sample
