import DemandFlow.Catalog.Registry
import DemandFlow.Evaluation.Demand
import DemandFlow.Graph.Connect

/-!
Contract: graphs assembled step by step, each step of which may fail.

Owns: the causes of failure, the steps, and trying a kind of node on given values.

Does not own: what a step does (`Graph`, `Catalog.Registry`, `Evaluation.Demand`).

The first failure ends an assembly. Nodes come from the registry of every built-in kind.
-/

namespace DemandFlow

/-- Why an assembly has no result. -/
inductive AssemblyError where
  | registry (cause : RegistryError)
  | connection (cause : ConnectionError)
  | evaluation (cause : EvaluationError)
  /-- The node, by its display name, has no output of a name and the kind that is read. -/
  | missingOutput (node output : String)
deriving DecidableEq, Repr

/-- A graph in the making. -/
abbrev Assembly := StateT Graph (Except AssemblyError)

namespace Assembly

/-- Takes over the result of a step that may fail. -/
def require {Cause Result : Type} (wrap : Cause → AssemblyError) (result : Except Cause Result) :
    Assembly Result :=
  match result with
  | .ok value => pure value
  | .error cause => throw (wrap cause)

def add (plan : Blueprint) (displayName : String) : Assembly NodeId := do
  let (graph, id) := (← get).add plan displayName
  set graph
  return id

def constant (displayName : String) (value : Value) : Assembly NodeId :=
  add (.constant value) displayName

def create (kindName displayName : String) : Assembly NodeId := do
  let (graph, id) ← require .registry
    (Registry.withOperators.create (← get) kindName displayName)
  set graph
  return id

def createWithValue (kindName displayName : String) (value : Scalar) : Assembly NodeId := do
  let (graph, id) ← require .registry
    (Registry.withOperators.createWithValue (← get) kindName displayName value)
  set graph
  return id

/-- Makes a link, and ends where it is refused. -/
def join (linking : Linking Unit) : Assembly Unit := do
  match linking.run (← get) with
  | .ok () linked => set linked
  | .error cause _ => throw (.connection cause)

def connect (source : NodeId) (output : String) (target : NodeId) (input : String) :
    Assembly Unit :=
  join (Linking.connect source output target input)

def link (input output : PortId) : Assembly Unit := join (Linking.link input output)

/-- The output of a name and a kind that a node has. -/
def findOutput (node : NodeId) (name : String) (kind : Kind) : Assembly PortId := do
  let graph ← get
  match graph.findTyped? node name .output kind with
  | some output => return output
  | none => throw (.missingOutput (graph.node node).displayName name)

def evaluate (memoized : Bool) (sink : NodeId) : Assembly Pass := do
  let (result, after) := Run.compute ⟨← get, .fresh memoized⟩ sink
  set after.graph
  require .evaluation result
  return after.pass

/-- Links each input of a node to a constant with the value given for it. -/
def feed (sink : NodeId) : List (PortId × Scalar) → Assembly Unit
  | [] => pure ()
  | (input, value) :: rest => do
      let port := (← get).port input
      let source ← createWithValue (port.kind.name ++ "Constant") port.name value
      connect source "Value" sink port.name
      feed sink rest

/-- Computes a node of a kind name on the given values, which go to its inputs in order. -/
def trial (kindName : String) (values : List Scalar) : Assembly (NodeId × Pass) := do
  let sink ← create kindName "sink"
  let graph ← get
  feed sink ((graph.inputsOf (graph.node sink).ports).zip values)
  return (sink, ← evaluate false sink)

end Assembly

end DemandFlow
