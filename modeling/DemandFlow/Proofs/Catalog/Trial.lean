import DemandFlow.Catalog.Assembly
import DemandFlow.Proofs.Catalog.Function
import DemandFlow.Proofs.Catalog.Roster
import DemandFlow.Proofs.History.Supply

/-!
Contract: trying the kinds of the catalogue on given operands.

Owns: the operands as values of the kinds of the inputs, and what an assembly of a node of a kind
name with constants as its operands comes to.

Main statement: for every kind name of the catalogue, on every operand, the assembly fails as the
first operand does that its input cannot hold, and else computes what the plain function behind the
kind name computes (`Reachable.assembled_computes`).

Does not own: the plain functions (`Proofs.Catalog.Function`).
-/

namespace DemandFlow

/-- The operands as values of the given kinds, or why there is none for the first that has none. -/
def Value.ofScalars : List Kind → List Scalar → Except ConversionError (List Value)
  | kind :: kinds, scalar :: scalars =>
      match Value.ofScalar kind scalar with
      | .error cause => .error cause
      | .ok value => (ofScalars kinds scalars).map (value :: ·)
  | _, _ => .ok []

theorem Value.kinds_of_ofScalars {kinds : List Kind} {scalars : List Scalar} {values : List Value}
    (narrowed : Value.ofScalars kinds scalars = .ok values)
    (enough : scalars.length = kinds.length) : values.map (·.kind) = kinds := by
  induction kinds generalizing scalars values with
  | nil =>
      cases narrowed
      rfl
  | cons kind kinds inductionHypothesis =>
      cases scalars with
      | nil => cases enough
      | cons scalar scalars =>
          rw [Value.ofScalars] at narrowed
          cases first : Value.ofScalar kind scalar with
          | error cause =>
              rw [first] at narrowed
              cases narrowed
          | ok value =>
              rw [first] at narrowed
              obtain ⟨others, rest, rfl⟩ := Graph.map_eq_ok_iff.mp narrowed
              rw [List.map_cons, Value.kind_of_ofScalar first,
                inductionHypothesis rest (Nat.succ.inj enough)]

namespace Assembly

/-- Makes a node of a kind name and links its inputs, in order, to constants of the values. -/
def assemble (kindName : String) (values : List Scalar) : Assembly NodeId := do
  let sink ← create kindName "sink"
  let graph ← get
  feed sink ((graph.inputsOf (graph.node sink).ports).zip values)
  return sink

/-! ### Steps -/

theorem run_require {Cause Result : Type} (wrap : Cause → AssemblyError)
    (result : Except Cause Result) (graph : Graph) :
    (require wrap result).run graph = (result.mapError wrap).map (·, graph) := by
  cases result <;> rfl

theorem run_create (kindName label : String) (graph : Graph) :
    (create kindName label).run graph =
      ((Registry.withOperators.create graph kindName label).mapError .registry).map Prod.swap := by
  simp only [create, StateT.run_bind, StateT.run_get, pure_bind, run_require]
  generalize Registry.withOperators.create graph kindName label = result
  cases result with
  | error cause => rfl
  | ok made => rfl

theorem run_createWithValue (kindName label : String) (scalar : Scalar) (graph : Graph) :
    (createWithValue kindName label scalar).run graph =
      ((Registry.withOperators.createWithValue graph kindName label scalar).mapError
        .registry).map Prod.swap := by
  simp only [createWithValue, StateT.run_bind, StateT.run_get, pure_bind, run_require]
  generalize Registry.withOperators.createWithValue graph kindName label scalar = result
  cases result with
  | error cause => rfl
  | ok made => rfl

/-- A link that is granted is taken over. -/
theorem run_connect_of_granted {source target : NodeId} {output input : String}
    {graph linked : Graph}
    (granted : (Linking.connect source output target input).run graph = .ok () linked) :
    (connect source output target input).run graph = .ok ((), linked) := by
  simp only [connect, join, StateT.run_bind, StateT.run_get, pure_bind, granted]
  rfl

/-- An evaluation takes over the pass and the graph that a computation leaves if it succeeds. -/
theorem run_evaluate (memoized : Bool) (sink : NodeId) (graph : Graph) :
    (evaluate memoized sink).run graph =
      let (result, after) := Run.compute ⟨graph, .fresh memoized⟩ sink
      (result.mapError .evaluation).map fun _ => (after.pass, after.graph) := by
  simp only [evaluate, StateT.run_bind, StateT.run_get, pure_bind]
  obtain ⟨result, after⟩ := Run.compute ⟨graph, .fresh memoized⟩ sink
  cases result with
  | error failure => rfl
  | ok => rfl

/-- The constants of a kind are found by the name of the kind. -/
theorem createWithValue_eq (kind : Kind) (label : String) (scalar : Scalar) (graph : Graph) :
    Registry.withOperators.createWithValue graph (kind.name ++ "Constant") label scalar =
      ((Value.ofScalar kind scalar).mapError .conversion).map fun value =>
        graph.add (.constant value) label := by
  have offered : Registry.Offers (.constant kind) := trivial
  have named : (Recipe.constant kind).kindName = kind.name ++ "Constant" := rfl
  have found := Registry.get?_withOperators offered
  rw [named] at found
  rw [Registry.createWithValue, Registry.constantBlueprint, found]
  show (((Value.ofScalar kind scalar).mapError RegistryError.conversion).map
    Blueprint.constant).map (fun plan => graph.add plan label) = _
  cases Value.ofScalar kind scalar with
  | error cause => rfl
  | ok value => rfl

theorem blueprint_eq {recipe : Recipe} (offered : Registry.Offers recipe) :
    Registry.withOperators.blueprint recipe.kindName = recipe.blueprint := by
  rw [Registry.blueprint, Registry.get?_withOperators offered]
  rfl

/-- A node of a kind of the catalogue is made from the blueprint of that kind. -/
theorem create_eq {kindName : String} {recipe : Recipe} {plan : Blueprint}
    (named : recipe.kindName = kindName) (offered : Registry.Offers recipe)
    (built : recipe.blueprint = .ok plan) : create kindName = add plan := by
  funext label graph
  subst named
  show (create recipe.kindName label).run graph = _
  rw [run_create, Registry.create, blueprint_eq offered, built]
  rfl

/-! ### Feeding inputs -/

section Feeding

variable {graph : Graph} {sink : NodeId} {plan : Blueprint} {first : PortId}

/-- An input whose constant cannot hold the operand ends the assembly. -/
theorem run_feed_of_error {input : PortId} {scalar : Scalar} {rest : List (PortId × Scalar)}
    {cause : ConversionError}
    (narrowed : Value.ofScalar (graph.port input).kind scalar = .error cause) :
    (feed sink ((input, scalar) :: rest)).run graph =
      .error (.registry (.conversion cause)) := by
  simp only [feed, StateT.run_bind, StateT.run_get, pure_bind, run_createWithValue,
    createWithValue_eq, narrowed]
  rfl

/-- An input whose constant can be linked is fed, and then the rest is. -/
theorem run_feed_of_ok {input : PortId} {scalar : Scalar} {rest : List (PortId × Scalar)}
    {value : Value} {linked : Graph}
    (narrowed : Value.ofScalar (graph.port input).kind scalar = .ok value)
    (granted : (Linking.connect graph.nodes.size "Value" sink (graph.port input).name).run
      (graph.add (.constant value) (graph.port input).name).1 = .ok () linked) :
    (feed sink ((input, scalar) :: rest)).run graph = (feed sink rest).run linked := by
  simp only [feed, StateT.run_bind, StateT.run_get, pure_bind, run_createWithValue,
    createWithValue_eq, narrowed]
  show ((connect graph.nodes.size "Value" sink (graph.port input).name).run
    (graph.add (.constant value) (graph.port input).name).1 >>= fun linked =>
      (feed sink rest).run linked.2) = _
  rw [run_connect_of_granted granted]
  rfl

/-- Feeding inputs of a node fails as the first operand does that its input cannot hold, and else
links every input to a constant with its operand. -/
theorem run_feed (library : plan.IsLibrary) {entries : List (PortPlan × PortId)}
    (numbered : entries ⊆ plan.numbered first)
    (incoming : ∀ entry ∈ entries, entry.1.direction = .input)
    (once : (entries.map Prod.snd).Nodup) {scalars : List Scalar}
    (enough : scalars.length = entries.length) (hosts : graph.Hosts sink plan first) :
    (∀ cause, Value.ofScalars (entries.map (·.1.value.kind)) scalars = .error cause →
      (feed sink ((entries.map Prod.snd).zip scalars)).run graph =
        .error (.registry (.conversion cause))) ∧
    ∀ values, Value.ofScalars (entries.map (·.1.value.kind)) scalars = .ok values →
      ∃ fed, (feed sink ((entries.map Prod.snd).zip scalars)).run graph = .ok ((), fed) ∧
        fed.Hosts sink plan first ∧
        List.Forall₂ fed.Supplies (entries.map Prod.snd) values ∧
        ∀ other held, other ∉ entries.map Prod.snd → graph.Supplies other held →
          fed.Supplies other held := by
  induction entries generalizing graph scalars with
  | nil =>
      constructor
      · intro cause failed
        cases failed
      intro values none
      cases none
      exact ⟨graph, rfl, hosts, .nil, fun _ _ _ supplies => supplies⟩
  | cons entry entries inductionHypothesis =>
      obtain ⟨port, input⟩ := entry
      cases scalars with
      | nil => cases enough
      | cons scalar scalars =>
          have isNumbered := numbered List.mem_cons_self
          have shape := hosts.made.port port input isNumbered
          have kind : (graph.port input).kind = port.value.kind := shape.kind
          obtain ⟨new, others⟩ := List.nodup_cons.mp once
          simp only [List.map_cons, List.zip_cons_cons, Value.ofScalars]
          cases narrowed : Value.ofScalar port.value.kind scalar with
          | error cause =>
              constructor
              · intro _ same
                cases same
                exact run_feed_of_error (by rw [kind, narrowed])
              · intro values impossible
                cases impossible
          | ok value =>
              obtain ⟨linked, granted, hostsLinked, supplies, kept⟩ :=
                hosts.supply library isNumbered (incoming _ List.mem_cons_self)
                  (Value.kind_of_ofScalar narrowed) (graph.port input).name
              have name : (graph.port input).name = port.name := shape.name
              rw [← name] at granted
              obtain ⟨failing, succeeding⟩ := inductionHypothesis
                (fun _ member => numbered (List.mem_cons_of_mem _ member))
                (fun _ member => incoming _ (List.mem_cons_of_mem _ member)) others
                (Nat.succ.inj enough) hostsLinked
              rw [run_feed_of_ok (by rw [kind, narrowed]) granted]
              constructor
              · intro cause failed
                exact failing cause (Graph.map_eq_error_iff.mp failed)
              · intro values collected
                obtain ⟨rest, collectedRest, rfl⟩ := Graph.map_eq_ok_iff.mp collected
                obtain ⟨fed, run, hostsFed, suppliesRest, keptRest⟩ := succeeding rest collectedRest
                refine ⟨fed, run, hostsFed, .cons (keptRest _ _ new supplies) suppliesRest, ?_⟩
                intro other held outside before
                rw [List.mem_cons, not_or] at outside
                exact keptRest other held outside.2 (kept other held outside.1 before)

end Feeding

end Assembly

/-! ### Assemblies -/

/-- The inputs of a blueprint with their numbers. -/
def Blueprint.numberedInputs (plan : Blueprint) (first : PortId) : List (PortPlan × PortId) :=
  (plan.numbered first).filter fun entry => entry.1.direction = .input

theorem Blueprint.mem_numberedInputs {plan : Blueprint} {first : PortId}
    {entry : PortPlan × PortId} :
    entry ∈ plan.numberedInputs first ↔
      entry ∈ plan.numbered first ∧ entry.1.direction = .input := by
  simp [numberedInputs]

theorem Blueprint.kinds_numberedInputs (plan : Blueprint) (first : PortId) :
    (plan.numberedInputs first).map (·.1.value.kind) =
      (plan.ports.filter (·.direction = .input)).map (·.value.kind) := by
  rw [numberedInputs, ← List.zipIdx_map_fst first plan.ports, List.filter_map, List.map_map]
  rfl

/-- An assembly makes the node and feeds its inputs. -/
theorem Assembly.run_assemble {recipe : Recipe} (offered : Registry.Offers recipe)
    {plan : Blueprint} (realises : recipe.Realises plan) {graph : Graph}
    (reachable : Reachable Blueprint.IsLibrary graph) (scalars : List Scalar) :
    (assemble recipe.kindName scalars).run graph =
      ((feed graph.nodes.size (((plan.numberedInputs graph.ports.size).map Prod.snd).zip
        scalars)).run (graph.add plan "sink").1).map fun fed => (graph.nodes.size, fed.2) := by
  have hosts := Graph.Hosts.add reachable realises.library "sink"
  have library := hosts.made.libraryNode realises.library
  have inputs : (graph.add plan "sink").1.inputsOf
      ((graph.add plan "sink").1.node graph.nodes.size).ports =
        (plan.numberedInputs graph.ports.size).map Prod.snd :=
    library.registered.trans (hosts.made.terminals .input)
  have created : (create recipe.kindName "sink").run graph =
      .ok (graph.nodes.size, (graph.add plan "sink").1) := by
    rw [run_create, Registry.create, blueprint_eq offered, realises.built]
    rfl
  simp only [assemble, StateT.run_bind, created]
  show ((feed graph.nodes.size (((graph.add plan "sink").1.inputsOf
    ((graph.add plan "sink").1.node graph.nodes.size).ports).zip scalars)).run
      (graph.add plan "sink").1 >>= fun fed => Except.ok (graph.nodes.size, fed.2)) = _
  rw [inputs]
  cases (feed graph.nodes.size (((plan.numberedInputs graph.ports.size).map Prod.snd).zip
    scalars)).run (graph.add plan "sink").1 with
  | error cause => rfl
  | ok fed => rfl

/-- A trial computes what it has assembled with a plain pass. -/
theorem Assembly.run_trial (kindName : String) (scalars : List Scalar) (graph : Graph) :
    (trial kindName scalars).run graph =
      (assemble kindName scalars).run graph >>= fun assembled =>
        let (result, after) := Run.compute ⟨assembled.2, .plain⟩ assembled.1
        (result.mapError .evaluation).map fun _ => ((assembled.1, after.pass), after.graph) := by
  have trial_eq : trial kindName scalars = (do
      let sink ← assemble kindName scalars
      return (sink, ← evaluate false sink)) := by
    simp [trial, assemble]
  rw [trial_eq, StateT.run_bind]
  congr 1
  funext assembled
  have plain : Pass.fresh false = .plain := rfl
  rw [StateT.run_bind, run_evaluate, plain]
  obtain ⟨result, after⟩ := Run.compute ⟨assembled.2, .plain⟩ assembled.1
  cases result with
  | error failure => rfl
  | ok => rfl

/-- For every kind name of the catalogue and every list of operands, one for each input: in any
reachable graph of library nodes, the trial of the kind name on the operands fails as the first
operand does that its input cannot hold. Else a node of the kind name is assembled, and computes to
what the plain function makes of the operands. -/
theorem Reachable.assembled_computes {graph : Graph}
    (reachable : Reachable Blueprint.IsLibrary graph) {nodeType : NodeType}
    (registered : nodeType ∈ Registry.withOperators.types) {scalars : List Scalar}
    (enough : scalars.length = nodeType.recipe.operandKinds.length) :
    (∀ cause, Value.ofScalars nodeType.recipe.operandKinds scalars = .error cause →
      (Assembly.trial nodeType.id scalars).run graph = .error (.registry (.conversion cause))) ∧
    ∀ values, Value.ofScalars nodeType.recipe.operandKinds scalars = .ok values →
      ∃ sink built outcome, (Assembly.assemble nodeType.id scalars).run graph = .ok (sink, built) ∧
        (built.node sink).kindName = nodeType.id ∧
        ((built.node sink).inputs.map fun input => (built.port input).kind) =
          nodeType.recipe.operandKinds ∧
        nodeType.recipe.Computes values outcome ∧ built.ComputesTo sink outcome := by
  obtain ⟨recipe, offered, rfl⟩ := Registry.exists_recipe_of_mem_withOperators registered
  obtain ⟨plan, realises⟩ := Recipe.Realises.exists_of_offers offered
  have run := Assembly.run_assemble offered realises reachable scalars
  have kinds : (plan.numberedInputs graph.ports.size).map (·.1.value.kind) =
      recipe.operandKinds := (plan.kinds_numberedInputs _).trans realises.kinds
  have long : scalars.length = (plan.numberedInputs graph.ports.size).length := by
    rw [enough]
    exact (congrArg List.length kinds.symm).trans (List.length_map _)
  have numbered : plan.numberedInputs graph.ports.size ⊆ plan.numbered graph.ports.size :=
    fun _ member => (Blueprint.mem_numberedInputs.mp member).1
  have incoming : ∀ entry ∈ plan.numberedInputs graph.ports.size, entry.1.direction = .input :=
    fun _ member => (Blueprint.mem_numberedInputs.mp member).2
  obtain ⟨failing, succeeding⟩ := Assembly.run_feed realises.library numbered incoming
    (plan.nodup_numbersOf graph.ports.size .input) long
    (Graph.Hosts.add reachable realises.library "sink")
  rw [kinds] at failing succeeding
  constructor
  · intro cause failed
    rw [failing cause failed] at run
    refine (Assembly.run_trial recipe.kindName scalars graph).trans ?_
    rw [run]
    rfl
  · intro values collected
    obtain ⟨built, fed, hosts, supplies, -⟩ := succeeding values collected
    have inputs : (built.node graph.nodes.size).inputs =
        (plan.numberedInputs graph.ports.size).map Prod.snd := hosts.made.terminals .input
    have supplied : built.Supplied graph.nodes.size values := by
      rw [Graph.Supplied, inputs]
      exact supplies
    have computes := hosts.reachable.sound.computesTo_of_supplied hosts.alive supplied
    rw [hosts.behaviour] at computes
    rw [fed] at run
    refine ⟨graph.nodes.size, built, _, run,
      hosts.made.kindName.trans realises.named, ?_,
      realises.function values (Value.kinds_of_ofScalars collected enough), computes⟩
    show _ = recipe.operandKinds
    rw [inputs, ← kinds, List.map_map]
    apply List.map_congr_left
    intro entry member
    exact (hosts.made.port entry.1 entry.2 (numbered member)).kind

theorem Reachable.assembled_computes_quotient :
    ∃ sink built, (Assembly.assemble "IntDivide" [.int 7, .int 0]).run .empty = .ok (sink, built) ∧
      (Run.compute ⟨built, .plain⟩ sink).1 = .error (.failed sink "IntDivide" .divisionByZero) ∧
      (Run.compute ⟨built, .plain⟩ sink).2.pass.visits = 3 := by
  have registered : NodeType.ofRecipe (.operator (.arithmetic .divide) (.integer .i32)) ∈
      Registry.withOperators.types := by
    have found := Registry.get?_withOperators
      (show Registry.Offers (.operator (.arithmetic .divide) (.integer .i32)) from rfl)
    rw [Registry.get?] at found
    exact List.mem_of_find?_eq_some found
  obtain ⟨sink, built, outcome, run, named, kinds, computes, computed⟩ :=
    (Reachable.assembled_computes .empty registered
      (show [Scalar.int 7, .int 0].length = 2 from rfl)).2 _ rfl
  have inputs : (built.node sink).inputs.length = 2 := by
    have lengths := congrArg List.length kinds
    rwa [List.length_map] at lengths
  have refused : outcome = .error .divisionByZero := by
    cases computes
    rfl
  have result := computed.result
  rw [refused, named] at result
  have visits := computed.visits
  rw [inputs] at visits
  exact ⟨sink, built, run, result, visits⟩

end DemandFlow
