import DemandFlow.Catalog.Template
import DemandFlow.Graph.Rule
import DemandFlow.Main
import DemandFlow.Proofs.Catalog.Roster
import DemandFlow.Proofs.Catalog.Trial
import DemandFlow.Proofs.Document.Canonical
import DemandFlow.Proofs.Evaluation.Visits
import DemandFlow.Proofs.Graph.Gathering
import DemandFlow.Proofs.History.Answer
import DemandFlow.Proofs.History.Freshness
import DemandFlow.Proofs.History.Ledger
import DemandFlow.Proofs.History.Readiness
import DemandFlow.Proofs.History.Remains
import DemandFlow.Proofs.History.Retention
import DemandFlow.Proofs.Operation.Arithmetic
import DemandFlow.Proofs.Sample.CommandLine
import DemandFlow.Proofs.Sample.Partial
import DemandFlow.Proofs.Sample.Scenario
import DemandFlow.Proofs.Value.Casting
import DemandFlow.Proofs.Value.RoundTrip
import DemandFlow.Workspace.Basic
