import LocalMoe.Lease.Atomicity
import LocalMoe.BoundCell.Fenced
import LocalMoe.Bridge.Result
import LocalMoe.Bridge.Budget
import LocalMoe.Bridge.Confirmation
import LocalMoe.Bridge.DirectoryLock
import LocalMoe.Paired.Crash
import LocalMoe.Paired.Durable
import LocalMoe.Outcomes.Store
import LocalMoe.Promotion.Consumer
import LocalMoe.Artifact.Exact
import LocalMoe.Cascade.Truth
import LocalMoe.Secrets.Assurance
import LocalMoe.Supervisor.Truth
import LocalMoe.Supervisor.Exclusive
import LocalMoe.Process.Discipline
import LocalMoe.Canary.Rewrite
import LocalMoe.Workflow.Recovery
import LocalMoe.Workflow.History
import LocalMoe.Experts.Answer
import LocalMoe.Data.Shared
import LocalMoe.Mcp.Own
import LocalMoe.Scheduler.Kept
import LocalMoe.Agent.Converses
import LocalMoe.Cas.RoundTrip
import LocalMoe.Cas.Published
import LocalMoe.Workspace.Lossless
import LocalMoe.Promotion.ExactCost
import LocalMoe.Llama.Runs
import LocalMoe.Browser.Runs
import LocalMoe.Gateway.Exact
import LocalMoe.Attestation.Exact
import LocalMoe.Secrets.Scanned
import LocalMoe.Secrets.Agree
import LocalMoe.Advisor.Sound
import LocalMoe.Scorecard.Conserved
import LocalMoe.Data.Validity
import LocalMoe.Context.Window
import LocalMoe.Resources.Bounded
import LocalMoe.Extensions.Edit
import LocalMoe.Memory.Chunks
import LocalMoe.CodingCanary.Verdict
