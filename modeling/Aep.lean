import Aep.RuntimeStore.Operations
import Aep.RuntimeStore.Reindexing
import Aep.RuntimeStore.Leases
import Aep.ExecutionBudgets.Runs
import Aep.ProviderSchema.Soundness
import Aep.OpenaiModelProvider.AttemptCount
import Aep.WorkflowExecution.Creation
import Aep.RuntimeStore.Instances
import Aep.WorkflowScheduler.Attempts
import Aep.ApprovalGate.Decisions
import Aep.Checkout.DurableFencing
import Aep.Checkout.RetainedWork
import Aep.GithubTool.Evidence
import Aep.PublicationPolicy.Publishable
import Aep.EvaluationSuites.Runs
import Aep.EvaluationSuites.Metrics
import Aep.AgentInvocation.Settlement
import Aep.WebhookDispatch.Runs
import Aep.ExecutionBudgets.Grants
import Aep.GeneratedArtifacts.Once
import Aep.ModelRateLimits.Restart
import Aep.ToolRuntime.Once
import Aep.ToolRuntime.Containment
import Aep.LocalizedPatch.LinePreservation
import Aep.LocalizedPatch.WholeCall
import Aep.PlanningEvidence.DistinctMatches
import Aep.PlanningEvidence.Reconciled
import Aep.BuildImplementationPlan.Dispositions
import Aep.WorkflowScheduler.DagPlans
import Aep.CapabilityPolicy.Decisions
import Aep.BuildImplementationPlan.Soundness
import Aep.ContextBuilder.Packages
import Aep.RepositoryKnowledge.Retrieval
import Aep.ExecutionReplay.Pinned
import Aep.PinnedWorkspace.StatusScan
import Aep.Library.Leaves
import Aep.PinnedWorkspace.Splits
import Aep.PlanningEvidence.Structure
import Aep.AnalyzeIssue.Partition
import Aep.EvaluationSuites.Overrides
import Aep.Observability.Redaction
import Aep.ExecutionBudgets.Agreement
import Aep.GitTool.Quoting
import Aep.PatchEvaluation.Guarantees
import Aep.GithubTool.TokenRuns
