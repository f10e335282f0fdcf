import CovenantRadar.Covenants.CureState
import CovenantRadar.Signals.LateArrivals
import CovenantRadar.Interventions.MoreEvidence
import CovenantRadar.Interventions.Boundary
import CovenantRadar.Interventions.StoredEntries
import CovenantRadar.Triage.Withheld
import CovenantRadar.Triage.Duality
import CovenantRadar.Statements.Assignment
import CovenantRadar.Registry.LiveAt
import CovenantRadar.Registry.Amendable
import CovenantRadar.Registry.Retirement
import CovenantRadar.Scheduler.Reconcile
import CovenantRadar.Nightly.EvidenceRows
import CovenantRadar.Nightly.TestHistory
import CovenantRadar.Cases.Deadlines
import CovenantRadar.Cases.Escalation
import CovenantRadar.Cases.References
import CovenantRadar.Nightly.SmaBand
import CovenantRadar.Nightly.Occurrences
import CovenantRadar.Ingestion.Replays
import CovenantRadar.Reporting.OrderFreedom
import CovenantRadar.Queue.Paging
import CovenantRadar.Views.NarrowedViews
import CovenantRadar.Sessions.Revocation
import CovenantRadar.Ai.BudgetRuns
import CovenantRadar.Security.RateLimitRuns
import CovenantRadar.Scoping.Checks
import CovenantRadar.Integrity.DocumentScan
import CovenantRadar.Covenants.Verdicts
import CovenantRadar.Forecast.Schedules
import CovenantRadar.Signals.LongestRun
import CovenantRadar.Covenants.Rollup
import CovenantRadar.Forecast.Attribution
import CovenantRadar.Forecast.Lines
import CovenantRadar.Auth.Enrollment
import CovenantRadar.Admin.LastAdministrator
import CovenantRadar.Core.Ids
import CovenantRadar.Certificates.Grouping
import CovenantRadar.Interventions.Composition
import CovenantRadar.Ratios.Custom
import CovenantRadar.Signals.Decay
import CovenantRadar.Covenants.DueDates
import CovenantRadar.Documents.RoundTrip
import CovenantRadar.Notifications.EventIds
