import Rollback.Main
import Rollback.Proofs.Engine.Visits
import Rollback.Proofs.Engine.Deduplication
import Rollback.Proofs.Api.Schema
import Rollback.Proofs.Engine.Calls
import Rollback.Proofs.History.Revisions
import Rollback.Proofs.Json.Equality
import Rollback.Proofs.Json.MergePatch
import Rollback.Proofs.Server.Answers
import Rollback.Proofs.Strategy.Addresses
import Rollback.Proofs.Strategy.DryRun
import Rollback.Proofs.Strategy.Journal
import Rollback.Proofs.Strategy.Once
import Rollback.Proofs.Engine.Accounting
import Rollback.Proofs.Engine.Phases
import Rollback.Proofs.Engine.Scheduling
import Rollback.Proofs.Engine.Isolation
import Rollback.Proofs.Engine.Gate
import Rollback.Proofs.Engine.Lines
import Rollback.Proofs.Strategy.Run
import Rollback.Proofs.Strategy.Confinement
import Rollback.Proofs.Strategy.Provenance
import Rollback.Proofs.Server.Reservations
import Rollback.Proofs.Strategy.Convergence
import Rollback.Proofs.Strategy.Reinstatement
import Rollback.Proofs.Strategy.TemplateChange
import Rollback.Proofs.Server.Plans
import Rollback.Proofs.Catalog.Order
import Rollback.Proofs.Catalog.Names
import Rollback.Proofs.Catalog.QualifiedNames
import Rollback.Proofs.History.Selection
import Rollback.Proofs.History.LabelSelector
import Rollback.Proofs.Engine.Pointers
import Rollback.Proofs.Workload.Arguments
import Rollback.Proofs.Workload.ArgumentForms
import Rollback.Proofs.Workload.Identities
import Rollback.Proofs.Workload.ApiVersions
import Rollback.Proofs.Manifest.Lists
import Rollback.Proofs.Manifest.Loading
