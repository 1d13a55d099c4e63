import DemandFlow.Proofs.Catalog.Trial
import DemandFlow.Proofs.History.Scheme

/-!
Contract: programs that build a graph after a scheme.

Owns: the steps of such a program, told by the scheme that each leads to.

Main statements: making a node and linking two nodes by name never fail and lead on to the rest of
the program (`Leads.add`, `Leads.connect`).

Does not own: the graphs that embody a scheme (`Proofs.History.Scheme`).
-/

namespace DemandFlow.Assembly

variable {Result : Type} {assembly between rest : Assembly Result} {scheme middle grown : List Part}

/-- On a graph that embodies a scheme, an assembly does what another one does on a graph that
embodies a later scheme. -/
def Leads (assembly : Assembly Result) (scheme : List Part) (rest : Assembly Result)
    (grown : List Part) : Prop :=
  ∀ graph : Graph, graph.Embodies scheme →
    ∃ after : Graph, after.Embodies grown ∧ assembly.run graph = rest.run after

namespace Leads

theorem refl (assembly : Assembly Result) (scheme : List Part) :
    assembly.Leads scheme assembly scheme :=
  fun graph embodies => ⟨graph, embodies, rfl⟩

theorem trans (earlier : assembly.Leads scheme between middle)
    (later : between.Leads middle rest grown) : assembly.Leads scheme rest grown := by
  intro graph embodies
  obtain ⟨halfway, embodiesHalfway, first⟩ := earlier graph embodies
  obtain ⟨after, embodiesAfter, second⟩ := later halfway embodiesHalfway
  exact ⟨after, embodiesAfter, first.trans second⟩

theorem add (id : NodeId) (length : scheme.length = id) {plan : Blueprint}
    (library : plan.IsLibrary) (label : String) (next : NodeId → Assembly Result) :
    (Assembly.add plan label >>= next).Leads scheme (next id) (scheme ++ [.loose plan]) := by
  intro graph embodies
  refine ⟨_, embodies.add library label, ?_⟩
  rw [← length, ← embodies.nodes_size]
  rfl

theorem connect {source target : NodeId} {origin part : Part}
    (isSource : scheme[source]? = some origin) (isTarget : scheme[target]? = some part)
    {output input : String} {kind : Kind} (gives : origin.plan.output? = some (output, kind))
    (position : Nat) (takes : part.plan.input? position = some (input, kind))
    (next : Unit → Assembly Result) :
    (Assembly.connect source output target input >>= next).Leads scheme (next ())
      (scheme.modify target fun part => part.feed position source) := by
  intro graph embodies
  obtain ⟨after, granted, embodiesAfter⟩ := embodies.connect isSource isTarget gives takes
  refine ⟨after, embodiesAfter, ?_⟩
  rw [StateT.run_bind, run_connect_of_granted granted]
  rfl

end Leads

end DemandFlow.Assembly
