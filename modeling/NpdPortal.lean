import NpdPortal.Identity.Accounts
import NpdPortal.Identity.Csrf
import NpdPortal.Identity.Moves
import NpdPortal.Identity.OneAccount
import NpdPortal.Identity.Reservations
import NpdPortal.Identity.Services
import NpdPortal.Identity.Soundness
import NpdPortal.Identity.System
import NpdPortal.Library.Countdown
import NpdPortal.Library.Digest
import NpdPortal.Library.Escaping
import NpdPortal.Library.Exclusive
import NpdPortal.Library.Json
import NpdPortal.Library.KeyedRows
import NpdPortal.Library.LabelledSystem
import NpdPortal.Library.Printing
import NpdPortal.Library.Program
import NpdPortal.Library.Text
import NpdPortal.Library.Urls
import NpdPortal.Portal.Compute
import NpdPortal.Portal.Contracts
import NpdPortal.Portal.Database
import NpdPortal.Portal.Operations
import NpdPortal.Portal.Requests
import NpdPortal.Portal.VirtualMachines
import NpdPortal.Proxmox.Client
import NpdPortal.Proxmox.Commands
import NpdPortal.Proxmox.Fake
import NpdPortal.Proxmox.Grace
import NpdPortal.Proxmox.Hosting
import NpdPortal.Proxmox.HttpAdapter
import NpdPortal.Proxmox.Locks
import NpdPortal.Proxmox.Nodes
import NpdPortal.Proxmox.Ownership
import NpdPortal.Proxmox.Paths
import NpdPortal.Proxmox.UnknownOutcomes
import NpdPortal.Proxmox.Unlocked
import NpdPortal.Proxmox.Upids
import NpdPortal.Runs.Agreement
import NpdPortal.Runs.Batches
import NpdPortal.Runs.Carrying
import NpdPortal.Runs.Columns
import NpdPortal.Runs.Completion
import NpdPortal.Runs.Confirmation
import NpdPortal.Runs.Coupled
import NpdPortal.Runs.DeadEnds
import NpdPortal.Runs.Deletions
import NpdPortal.Runs.Direct
import NpdPortal.Runs.Endings
import NpdPortal.Runs.Fairness
import NpdPortal.Runs.Iteration
import NpdPortal.Runs.Itinerary
import NpdPortal.Runs.LateOutcomes
import NpdPortal.Runs.LockedDeletes
import NpdPortal.Runs.Machines
import NpdPortal.Runs.Placements
import NpdPortal.Runs.Polls
import NpdPortal.Runs.Queue
import NpdPortal.Runs.Quota
import NpdPortal.Runs.Rows
import NpdPortal.Runs.Submission
import NpdPortal.Runs.Targets
import NpdPortal.Runs.Undisturbed
import NpdPortal.SshKeys.Conflicts
import NpdPortal.SshKeys.Normal
import NpdPortal.SshKeys.Services
import NpdPortal.SshKeys.System
import NpdPortal.Stages.Advancing
import NpdPortal.Stages.Coupling
import NpdPortal.Stages.Eligibility
import NpdPortal.Stages.Machine
import NpdPortal.Stages.Position
import NpdPortal.Stages.Progress
import NpdPortal.Stages.Selecting
import NpdPortal.Stages.Storing
import NpdPortal.Web.Acceptance
import NpdPortal.Web.Authorization
import NpdPortal.Web.Endpoints
import NpdPortal.Web.Front
import NpdPortal.Web.Holding
import NpdPortal.Web.Idempotency
import NpdPortal.Web.Invariants
import NpdPortal.Web.Refinement
import NpdPortal.Web.Serial
import NpdPortal.Web.Sessions
import NpdPortal.Web.ShownQuota
import NpdPortal.Web.Statements
import NpdPortal.Web.Tenants
import NpdPortal.Web.Wire
import NpdPortal.Worker.Deployment
import NpdPortal.Worker.FakeIterations
import NpdPortal.Worker.Iterations
import NpdPortal.Worker.OperationWorker
import NpdPortal.Worker.System
