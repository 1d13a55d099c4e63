import DemandFlow.Proofs.Graph.Library
import DemandFlow.Proofs.History.LinkMap
import Mathlib.Data.Finset.Card
import Mathlib.Data.Finset.Range
import Mathlib.Logic.Relation

/-!
Contract: which nodes handles and links keep alive.

Owns: the nodes that handles hold, directly or through links, and what their being alive means for
the inputs that are linked to them.

Main statement: in every reachable graph all these nodes are alive, and if the links form no ring
of several nodes, no others are.

Does not own: how a collection finds what to free (`Graph.Lifetime`).
-/

namespace DemandFlow

namespace Graph

/-- The nodes that handles on nodes and on inputs hold, directly or through any number of links to
other nodes. A link from a node to itself holds nothing. -/
inductive Retained (graph : Graph) : NodeId → Prop where
  | handle {id : NodeId} (held : 0 < (graph.node id).held) : graph.Retained id
  | savedInput {input output : PortId} (saved : 0 < (graph.port input).saved)
      (linked : (graph.port input).source = some output)
      (elsewhere : (graph.port output).owner ≠ (graph.port input).owner) :
      graph.Retained (graph.port output).owner
  | input {id : NodeId} {input output : PortId} (retained : graph.Retained id)
      (isInput : input ∈ (graph.node id).inputs)
      (linked : (graph.port input).source = some output)
      (elsewhere : (graph.port output).owner ≠ id) : graph.Retained (graph.port output).owner

/-- A living node has an input linked to an output of a node. -/
def Draws (graph : Graph) (reader source : NodeId) : Prop :=
  graph.nodeAlive reader = true ∧ ∃ input ∈ (graph.node reader).inputs, ∃ output,
    (graph.port input).source = some output ∧ (graph.port output).owner = source

/-- No two different nodes draw from each other, even through others. -/
def Ringless (graph : Graph) : Prop :=
  ∀ first second, Relation.TransGen graph.Draws first second →
    Relation.TransGen graph.Draws second first → first = second

/-- What handles and links mean for lifetimes. -/
structure Retention (graph : Graph) : Prop where
  /-- Nothing that is held has been freed. -/
  alive : ∀ id, graph.Retained id → graph.nodeAlive id = true
  /-- A living input finds no node only if it has no link, or if its link leads back to the node it
  belonged to, which has been freed. -/
  sourceless : ∀ input, graph.portAlive input = true →
    (graph.sourceNode? input = none ↔
      (graph.port input).source = none ∨
        ∃ output, (graph.port input).source = some output ∧
          (graph.port output).owner = (graph.port input).owner ∧
          graph.nodeAlive (graph.port input).owner = false)
  /-- While values change, a library node that has all it requires finds a node at each input when
  the turn of the input comes to be pulled. -/
  ready : ∀ run : Run, graph.SameLinks run.graph →
    ∀ id plan first, run.graph.MadeFrom id plan first → plan.IsLibrary →
    run.graph.nodeAlive id = true → run.graph.firstMissing? (run.graph.node id).ports = none →
    ∀ earlier input later, (run.graph.node id).inputs = earlier ++ input :: later →
    ∀ depth values reached,
      Demand.pullAll (demandWithin depth) earlier run = some (.ok values, reached) →
      (reached.graph.sourceNode? input).isSome = true
  /-- Without rings, nothing lives that is not held. -/
  exact : graph.Ringless → ∀ id, graph.nodeAlive id = true ↔ graph.Retained id

variable {admitted : Blueprint → Prop} {graph : Graph}

theorem Sound.nodeAlive_of_retained (sound : graph.Sound admitted) {id : NodeId}
    (retained : graph.Retained id) : graph.nodeAlive id = true := by
  induction retained with
  | handle held => exact sound.coherent.held _ held
  | savedInput saved linked elsewhere =>
      exact sound.coherent.fed _ _ (portAlive_iff.mpr (Or.inl saved)) linked elsewhere
  | input _ isInput linked _ inductionHypothesis =>
      exact sound.nodeAlive_of_linked inductionHypothesis isInput linked

theorem Sound.sourceNode?_eq_none_iff (sound : graph.Sound admitted) {input : PortId}
    (alive : graph.portAlive input = true) :
    graph.sourceNode? input = none ↔
      (graph.port input).source = none ∨
        ∃ output, (graph.port input).source = some output ∧
          (graph.port output).owner = (graph.port input).owner ∧
          graph.nodeAlive (graph.port input).owner = false := by
  cases linked : (graph.port input).source with
  | none => simp [sourceNode?, linked]
  | some output =>
      have found : graph.sourceNode? input = none ↔
          graph.nodeAlive (graph.port output).owner = false := by
        simp [sourceNode?, linked]
      rw [found]
      constructor
      · intro freed
        have sameNode : (graph.port output).owner = (graph.port input).owner := by
          by_contra elsewhere
          rw [sound.coherent.fed input output alive linked elsewhere] at freed
          cases freed
        exact Or.inr ⟨output, rfl, sameNode, sameNode ▸ freed⟩
      · rintro (unlinked | ⟨other, same, sameNode, freed⟩)
        · cases unlinked
        · cases same
          rwa [sameNode]

/-- Every input of a living library node that misses no link finds a node. -/
theorem Sound.exists_sourceNode (sound : graph.Sound admitted) {id : NodeId}
    (library : graph.LibraryNode id) (alive : graph.nodeAlive id = true)
    (complete : graph.firstMissing? (graph.node id).ports = none) {input : PortId}
    (isInput : input ∈ (graph.node id).inputs) : (graph.sourceNode? input).isSome = true := by
  have inputAlive := sound.portAlive_of_isInput alive isInput
  obtain ⟨direction, owner, -⟩ := sound.shaped.input isInput
  have linked : (graph.port input).source ≠ none := by
    rw [firstMissing?, library.registered, List.find?_eq_none] at complete
    have present := complete input isInput
    intro unlinked
    simp [isMissing, isLinked, library.required input isInput, direction, unlinked] at present
  rw [Option.isSome_iff_ne_none]
  intro none
  rcases (sound.sourceNode?_eq_none_iff inputAlive).mp none with unlinked | ⟨_, -, -, freed⟩
  · exact linked unlinked
  · rw [owner, alive] at freed
    cases freed

/-! ### Graphs without rings -/

/-- The links between different nodes. -/
def DrawsElsewhere (graph : Graph) (reader source : NodeId) : Prop :=
  graph.Draws reader source ∧ reader ≠ source

theorem Ringless.irreflexive (ringless : graph.Ringless) (id : NodeId) :
    ¬ Relation.TransGen graph.DrawsElsewhere id id := by
  intro ring
  have weaken : Relation.TransGen graph.DrawsElsewhere ≤ Relation.TransGen graph.Draws :=
    Relation.TransGen.mono fun _ _ draws => draws.1
  obtain ⟨next, step, rest⟩ := Relation.TransGen.head'_iff.mp ring
  rcases Relation.reflTransGen_iff_eq_or_transGen.mp rest with same | back
  · exact step.2 same
  · exact step.2 (ringless id next (.single step.1) (weaken _ _ back))

open Classical in
/-- The living nodes that draw from a node, directly or through others. -/
noncomputable def readersOf (graph : Graph) (id : NodeId) : Finset NodeId :=
  (Finset.range graph.nodes.size).filter fun reader =>
    Relation.TransGen graph.DrawsElsewhere reader id

theorem mem_readersOf {id reader : NodeId} :
    reader ∈ graph.readersOf id ↔ Relation.TransGen graph.DrawsElsewhere reader id := by
  simp only [readersOf, Finset.mem_filter, Finset.mem_range, and_iff_right_iff_imp]
  intro path
  obtain ⟨next, step, -⟩ := Relation.TransGen.head'_iff.mp path
  exact (nodeAlive_iff.mp step.1.1).1

/-- Without rings, a reader has fewer readers, so links lead back to readers only finitely often. -/
theorem Ringless.wellFounded (ringless : graph.Ringless) : WellFounded graph.DrawsElsewhere := by
  have fewer {reader source : NodeId} (draws : graph.DrawsElsewhere reader source) :
      (graph.readersOf reader).card < (graph.readersOf source).card := by
    apply Finset.card_lt_card
    refine (Finset.ssubset_iff_of_subset ?_).mpr ⟨reader, ?_, ?_⟩
    · intro other path
      exact mem_readersOf.mpr ((mem_readersOf.mp path).tail draws)
    · exact mem_readersOf.mpr (.single draws)
    · exact fun ring => ringless.irreflexive reader (mem_readersOf.mp ring)
  exact Subrelation.wf fewer (measure fun id => (graph.readersOf id).card).wf

/-- A living node that nothing holds has a reader that lives and that nothing holds. -/
theorem Sound.exists_unretained_reader (sound : graph.Sound admitted) {id : NodeId}
    (alive : graph.nodeAlive id = true) (unheld : ¬ graph.Retained id) :
    ∃ reader, graph.DrawsElsewhere reader id ∧ ¬ graph.Retained reader := by
  rcases kept_iff.mp (sound.tidy id alive) with
    held | ⟨output, isOutput, sink, listed, kept, differs⟩
  · exact absurd (.handle held) unheld
  · have outputOwner := (sound.shaped.output isOutput).2.1
    have linked := sound.coherent.answered output sink listed
    have direction := (sound.coherent.joins sink output linked).1
    subst outputOwner
    have elsewhere : (graph.port output).owner ≠ (graph.port sink).owner := fun same =>
      differs same.symm
    rcases portAlive_iff.mp kept with saved | ⟨attached, readerAlive⟩
    · exact absurd (.savedInput saved linked elsewhere) unheld
    · have isInput := (sound.shaped.listed sink attached).2
      rw [direction] at isInput
      have draws : graph.Draws (graph.port sink).owner (graph.port output).owner :=
        ⟨readerAlive, sink, isInput, output, linked, rfl⟩
      refine ⟨(graph.port sink).owner, ⟨draws, differs⟩, ?_⟩
      intro retained
      exact unheld (.input retained isInput linked elsewhere)

theorem Sound.retained_of_nodeAlive (sound : graph.Sound admitted) (ringless : graph.Ringless)
    {id : NodeId} (alive : graph.nodeAlive id = true) : graph.Retained id := by
  induction id using ringless.wellFounded.induction with
  | _ id inductionHypothesis =>
      by_contra unheld
      obtain ⟨reader, draws, readerUnheld⟩ := sound.exists_unretained_reader alive unheld
      exact readerUnheld (inductionHypothesis reader draws draws.1.1)

end Graph

/-- In every reachable graph, what is held lives, and without rings nothing else does. -/
theorem Reachable.retention {admitted : Blueprint → Prop} {graph : Graph}
    (reachable : Reachable admitted graph) : graph.Retention := by
  have sound := reachable.sound
  constructor
  · exact fun _ => sound.nodeAlive_of_retained
  · exact fun _ => sound.sourceNode?_eq_none_iff
  · intro run same id plan first made library alive complete earlier input later inputs depth values
      reached pulled
    have isInput : input ∈ (run.graph.node id).inputs := by
      rw [inputs]
      exact List.mem_append_right earlier List.mem_cons_self
    rw [(keepsLinks_pullAll (keepsLinks_demandWithin depth) earlier run _ _ pulled).sourceNode?]
    exact (sound.of_sameLinks same).exists_sourceNode (made.libraryNode library) alive complete
      isInput
  · intro ringless id
    exact ⟨sound.retained_of_nodeAlive ringless, sound.nodeAlive_of_retained⟩

/-- A negation that alone keeps the constant which feeds it, beside the input of another one, which
fed itself and has been freed. -/
def Graph.bequeathed : Graph :=
  [.create (.operator "Not" (.unary .bool .bool fun x => .ok !x)) "C", .link (.direct 4 3),
    .save 3, .release 2, .release 0].foldl Action.apply Graph.negation

theorem Reachable.bequeathed : Reachable Blueprint.IsLibrary Graph.bequeathed := by
  have created := Reachable.step History.negation.reachable
    (show (Action.create (.operator "Not" (.unary .bool .bool fun x => .ok !x)) "C").Allowed
      Blueprint.IsLibrary _ from .unary ..)
  have linked := Reachable.step created
    (show (Action.link (.direct 4 3)).Allowed Blueprint.IsLibrary _ from
      ⟨.bool, ⟨Or.inl (by decide), rfl, rfl⟩, Or.inl (by decide), rfl, rfl⟩)
  have saved := Reachable.step linked
    (show (Action.save 3).Allowed Blueprint.IsLibrary _ from Or.inl (by decide +kernel))
  have released := Reachable.step saved
    (show (Action.release 2).Allowed Blueprint.IsLibrary _ from
      Nat.lt_of_lt_of_eq Nat.zero_lt_one (by decide +kernel))
  exact Reachable.step released
    (show (Action.release 0).Allowed Blueprint.IsLibrary _ from
      Nat.lt_of_lt_of_eq Nat.zero_lt_one (by decide +kernel))

theorem Graph.ringless_bequeathed : Graph.bequeathed.Ringless := by
  have silent : ∀ reader < 3, reader ≠ 1 →
      Graph.bequeathed.nodeAlive reader = false ∨ (Graph.bequeathed.node reader).inputs = [] := by
    decide +kernel
  have onlyReader {reader source : NodeId} (draws : Graph.bequeathed.Draws reader source) :
      reader = 1 := by
    obtain ⟨alive, input, isInput, -⟩ := draws
    by_contra other
    rcases silent reader (nodeAlive_iff.mp alive).1 other with freed | none
    · rw [freed] at alive
      cases alive
    · rw [none] at isInput
      cases isInput
  have start {first second : NodeId}
      (path : Relation.TransGen Graph.bequeathed.Draws first second) : first = 1 := by
    obtain ⟨next, draws, -⟩ := Relation.TransGen.head'_iff.mp path
    exact onlyReader draws
  intro first second there back
  rw [start there, start back]

/-- Both nodes have lost their handles. The one that feeds the negation stays, the one that fed
itself goes. -/
theorem Reachable.retention_bequeathed :
    (Graph.bequeathed.node 0).held = 0 ∧ Graph.bequeathed.nodeAlive 0 = true ∧
      (Graph.bequeathed.sourceNode? 1).isSome = true ∧
      Graph.bequeathed.nodeAlive 2 = false ∧ ¬ Graph.bequeathed.Retained 2 ∧
      (Graph.bequeathed.port 3).source = some 4 ∧ Graph.bequeathed.sourceNode? 3 = none := by
  have retention := Reachable.retention Reachable.bequeathed
  have feeds : Graph.bequeathed.Retained 0 :=
    .input (.handle (Nat.lt_of_lt_of_eq Nat.zero_lt_one (by decide +kernel)))
      (show 1 ∈ (Graph.bequeathed.node 1).inputs by decide +kernel)
      (show (Graph.bequeathed.port 1).source = some 0 by decide +kernel) (by decide +kernel)
  have freed : Graph.bequeathed.nodeAlive 2 = false := by decide +kernel
  have linked : (Graph.bequeathed.port 3).source = some 4 := by decide +kernel
  have alive : Graph.bequeathed.nodeAlive 1 = true := by decide +kernel
  obtain ⟨plan, first, library, made⟩ :=
    Reachable.bequeathed.sound.shaped.made 1 (Graph.nodeAlive_iff.mp alive).1
  refine ⟨by decide +kernel, retention.alive 0 feeds, ?_, freed, ?_, linked, ?_⟩
  · exact retention.ready ⟨Graph.bequeathed, .plain⟩ (.refl _) 1 plan first made library alive
      (by decide +kernel) [] 1 [] (by decide +kernel) 0 [] _ rfl
  · intro retained
    rw [(retention.exact Graph.ringless_bequeathed 2).mpr retained] at freed
    cases freed
  · refine (retention.sourceless 3 (by decide +kernel)).mpr (Or.inr ⟨4, linked, ?_, ?_⟩)
    · decide +kernel
    · decide +kernel

end DemandFlow
