import DemandFlow.Graph.Lifetime

/-!
Contract: links between outputs and inputs, and the values that pass over them.

Owns: removing links from either side, forwarding a value, and setting the source of an input.

Does not own: which ports may be linked (`Graph.Connect`).

Main statements: linking and unlinking change no value, so an input keeps what it last received
(`value_setSource`, `value_disconnect`).
-/

namespace DemandFlow.Graph

/-- The living inputs that an output feeds. -/
def liveSinks (graph : Graph) (output : PortId) : List PortId :=
  (graph.port output).sinks.filter graph.portAlive

/-- Takes an input off its source. The source's list is tidied on the way. -/
def clearSource (graph : Graph) (input : PortId) : Graph :=
  match (graph.port input).source with
  | none => graph
  | some output =>
      let remaining := (graph.liveSinks output).filter (· != input)
      (graph.modifyPort output fun port => { port with sinks := remaining }).modifyPort input
        fun port => { port with source := none }

/-- Takes every living sink off an output. -/
def clearSinks (graph : Graph) (output : PortId) : Graph :=
  let inputs := graph.liveSinks output
  inputs.foldl
    (fun graph input =>
      if (graph.port input).source = some output then graph.clearSource input else graph)
    (graph.modifyPort output fun port => { port with sinks := [] })

def disconnect (graph : Graph) (id : PortId) : Graph :=
  match (graph.port id).direction with
  | .input => (graph.clearSource id).collect
  | .output => (graph.clearSinks id).collect

/-- Whether an output's node can still be reached and held. -/
def canFeed (graph : Graph) (output : PortId) : Bool :=
  (graph.port output).attached && graph.nodeAlive (graph.port output).owner

/-- Puts an input to the end of an output's list and makes the output its source. -/
def attach (graph : Graph) (input output : PortId) : Graph :=
  (graph.modifyPort output fun port =>
    { port with sinks := port.sinks ++ [input] }).modifyPort input fun port =>
      { port with source := some output }

/-- Makes an output the source of an input, in place of the one it had. What only the old link kept
is freed once the new one stands. -/
def setSource (graph : Graph) (input output : PortId) : Graph :=
  ((graph.clearSource input).attach input output).collect

/-- Puts a value into an output and into every living input that it feeds. The list of sinks is
tidied on the way. -/
def publish (graph : Graph) (output : PortId) (value : Value) : Graph :=
  let sinks := graph.liveSinks output
  sinks.foldl (fun graph input => graph.modifyPort input (·.store value))
    (graph.modifyPort output fun port => { port.store value with sinks })

def assign (graph : Graph) (id : PortId) (value : Value) : Graph :=
  graph.modifyPort id (·.store value)

/-- Whether a port has a link that leads somewhere. -/
def isLinked (graph : Graph) (id : PortId) : Bool :=
  match (graph.port id).direction with
  | .input => (graph.port id).source.isSome
  | .output => (graph.port id).sinks.any graph.portAlive

/-- The living node whose output feeds an input. -/
def sourceNode? (graph : Graph) (input : PortId) : Option NodeId :=
  (graph.port input).source.bind fun output =>
    let owner := (graph.port output).owner
    if graph.nodeAlive owner then some owner else none

/-- The owners of the ports on the other side of a port's links. -/
def linkedOwners (graph : Graph) (id : PortId) : List NodeId :=
  match (graph.port id).direction with
  | .input => (graph.port id).source.toList.map fun output => (graph.port output).owner
  | .output => (graph.liveSinks id).map fun input => (graph.port input).owner

@[simp]
theorem value_clearSource (graph : Graph) (input other : PortId) :
    ((graph.clearSource input).port other).value = (graph.port other).value := by
  unfold clearSource
  split
  · rfl
  · rw [value_modifyPort, value_modifyPort]
    · intro port
      rfl
    · intro port
      rfl

@[simp]
theorem value_setSource (graph : Graph) (input output other : PortId) :
    ((graph.setSource input output).port other).value = (graph.port other).value := by
  unfold setSource attach
  rw [port_collect, value_modifyPort, value_modifyPort, value_clearSource]
  · intro port
    rfl
  · intro port
    rfl

@[simp]
theorem value_clearSinks (graph : Graph) (output other : PortId) :
    ((graph.clearSinks output).port other).value = (graph.port other).value := by
  have eachKeeps (inputs : List PortId) (start : Graph) :
      ((inputs.foldl (fun graph input =>
        if (graph.port input).source = some output then graph.clearSource input else graph)
        start).port other).value = (start.port other).value := by
    induction inputs generalizing start with
    | nil => rfl
    | cons input rest inductionHypothesis =>
        rw [List.foldl_cons, inductionHypothesis]
        split
        · exact value_clearSource start input other
        · rfl
  unfold clearSinks
  rw [eachKeeps, value_modifyPort]
  intro port
  rfl

@[simp]
theorem value_disconnect (graph : Graph) (id other : PortId) :
    ((graph.disconnect id).port other).value = (graph.port other).value := by
  unfold disconnect
  split
  · rw [port_collect, value_clearSource]
  · rw [port_collect, value_clearSinks]

end DemandFlow.Graph
