import NpdPortal.Library.LabelledSystem
import NpdPortal.Portal.VirtualMachines
import NpdPortal.Worker.OperationWorker

/-!
# The portal as a transition system

The database together with the workers that have committed a dispatch marker
and not yet stored the outcome.  Every transaction is one step.  A worker may
be delayed between its steps for any time, may crash between them, and its
storing transaction may fail; any number of workers may be under way at once.
An `Action` fixes every choice that the code leaves to its environment.
-/

namespace NpdPortal

/-- A worker between its selecting and its storing transaction. -/
inductive Flight where
  /-- The marker is committed, the provider call is still to be made. -/
  | submitting (dispatch : Dispatch)
  /-- The provider call ended, its outcome is still to be stored. -/
  | storing (dispatch : Dispatch) (outcome : Except Error ProviderResult)

/-- The dispatch a worker is under way with. -/
def Flight.dispatch : Flight → Dispatch
  | .submitting dispatch => dispatch
  | .storing dispatch _ => dispatch

/-- The state of the portal. -/
structure World where
  db : Database
  inFlight : List Flight

/-- What is observable of a step. -/
inductive Event where
  /-- A web transaction committed or changed nothing. -/
  | requested
  /-- Keys, quotas or plans were administered. -/
  | administered
  /-- A selecting transaction: the selected row, its adapter calls, and the row as
  committed, which is absent when the transaction was rolled back. -/
  | selected (operation : Operation) (exchanges : List Exchange) (committed : Option Operation)
  /-- A provider call outside any transaction. -/
  | submitted (dispatch : Dispatch) (exchanges : List Exchange)
      (outcome : Except Error ProviderResult)
  /-- A storing transaction and whether it committed. -/
  | stored (dispatch : Dispatch) (outcome : Except Error ProviderResult) (committed : Bool)
  /-- A worker crashed or its storing transaction failed. -/
  | lost (flight : Flight)

/-- The operation a step is made on behalf of. -/
def Event.operationId : Event → Option Uuid
  | .requested | .administered => none
  | .selected operation .. => some operation.id
  | .submitted dispatch .. => some dispatch.operationId
  | .stored dispatch .. => some dispatch.operationId
  | .lost flight => some flight.dispatch.operationId

/-- The administered tables of a database. -/
structure Administration where
  sshPublicKeys : List SshPublicKey
  userQuotas : List UserQuota
  computePlans : List ComputePlan
  deriving DecidableEq, Repr

/-- The plan whose limits bind a user. -/
def Database.planOf (db : Database) (userId : Uuid) : Option ComputePlan :=
  (db.userQuota? userId).bind fun quota => db.computePlan? quota.computePlanId

/-- No limit of the first plan is lower in the second. -/
structure ComputePlan.Raised (plan other : ComputePlan) : Prop where
  vms : plan.maxVms ≤ other.maxVms
  vcpus : plan.maxTotalVcpus ≤ other.maxTotalVcpus
  memoryMb : plan.maxTotalMemoryMb ≤ other.maxTotalMemoryMb
  storageGb : plan.maxTotalStorageGb ≤ other.maxTotalStorageGb

theorem ComputePlan.raised_iff (plan other : ComputePlan) : plan.Raised other ↔
    plan.maxVms ≤ other.maxVms ∧ plan.maxTotalVcpus ≤ other.maxTotalVcpus ∧
      plan.maxTotalMemoryMb ≤ other.maxTotalMemoryMb ∧
      plan.maxTotalStorageGb ≤ other.maxTotalStorageGb :=
  ⟨fun ⟨a, b, c, d⟩ => ⟨a, b, c, d⟩, fun ⟨a, b, c, d⟩ => ⟨a, b, c, d⟩⟩

instance (plan other : ComputePlan) : Decidable (plan.Raised other) :=
  decidable_of_iff _ (plan.raised_iff other).symm

/-- Administration keeps every SSH key row, every quota assignment and every limit. -/
structure Database.Administers (db next : Database) : Prop where
  vms : next.virtualMachines = db.virtualMachines
  operations : next.operations = db.operations
  sshKeys : ∀ key ∈ db.sshPublicKeys, key ∈ next.sshPublicKeys
  plans : ∀ quota ∈ db.userQuotas, ∀ plan ∈ db.planOf quota.userId,
    ∃ other ∈ next.planOf quota.userId, plan.Raised other

theorem Database.administers_iff (db next : Database) : db.Administers next ↔
    next.virtualMachines = db.virtualMachines ∧ next.operations = db.operations ∧
      (∀ key ∈ db.sshPublicKeys, key ∈ next.sshPublicKeys) ∧
      ∀ quota ∈ db.userQuotas, ∀ plan ∈ db.planOf quota.userId,
        ∃ other ∈ next.planOf quota.userId, plan.Raised other :=
  ⟨fun ⟨a, b, c, d⟩ => ⟨a, b, c, d⟩, fun ⟨a, b, c, d⟩ => ⟨a, b, c, d⟩⟩

instance (db next : Database) : Decidable (db.Administers next) :=
  decidable_of_iff _ (db.administers_iff next).symm

/-- The choices of the environment for one step. -/
inductive Action where
  | createVm (context : RequestContext) (userId : Uuid) (request : VirtualMachineCreate)
      (idempotencyKey : String)
  | enqueue (context : RequestContext) (userId vmId : Uuid) (operationType : OperationType)
      (idempotencyKey : String)
  | administer (administration : Administration)
  | select (now : Time) (locked : List Uuid) (operationId : Uuid) (provider : Provider)
      (stamp dbNow : Time)
  | submit (index : ℕ) (provider : Provider)
  | store (index : ℕ) (stamp dbNow : Time)
  | lose (index : ℕ)

namespace World

/-- The state before any VM was requested. -/
def initial : World where
  db := .empty
  inFlight := []

/-- The state after a web transaction; one that raises is rolled back. -/
def afterRequest {α : Type} (world : World) (result : Except Error (Database × α)) : World :=
  match result with
  | .ok (db, _) => { world with db }
  | .error _ => world

/-- One selecting transaction of `run_once` on the selected row. -/
def selectStep (world : World) (operation : Operation) (provider : Provider)
    (stamp dbNow : Time) : Event × World :=
  let ran := Program.run provider 0 (runSelected stamp world.db operation)
  match ran.2 with
  | .error _ => (.selected operation ran.1 none, world)
  | .ok (changes, dispatch) =>
      match world.db.flush dbNow operation changes with
      | none => (.selected operation ran.1 none, world)
      | some db => (.selected operation ran.1 (db.operation? operation.id),
          { db, inFlight := world.inFlight ++ dispatch.toList.map .submitting })

/-- A selecting transaction is labelled with the selected row. -/
theorem selectStep_label (world : World) (operation : Operation) (provider : Provider)
    (stamp dbNow : Time) : ∃ exchanges committed,
      (world.selectStep operation provider stamp dbNow).1 =
        .selected operation exchanges committed := by
  unfold selectStep
  simp only
  split
  · exact ⟨_, _, rfl⟩
  · split <;> exact ⟨_, _, rfl⟩

/-- The storing transaction of a worker with this outcome. -/
def storeDatabase (db : Database) (dispatch : Dispatch) (outcome : Except Error ProviderResult)
    (stamp dbNow : Time) : Option Database :=
  match db.operation? dispatch.operationId, storeOutcome stamp db dispatch outcome with
  | some operation, .ok changes => db.flush dbNow operation changes
  | _, _ => none

/-- One step; `none` when the action is not possible in this state. -/
def step? (action : Action) (world : World) : Option (Event × World) :=
  match action with
  | .createVm context userId request idempotencyKey =>
      some (.requested,
        world.afterRequest (NpdPortal.createVm world.db context userId request idempotencyKey))
  | .enqueue context userId vmId operationType idempotencyKey =>
      some (.requested, world.afterRequest
        (enqueueVmOperation world.db context userId vmId operationType idempotencyKey))
  | .administer administration =>
      match Database.commit { world.db.toTables with
          sshPublicKeys := administration.sshPublicKeys
          userQuotas := administration.userQuotas
          computePlans := administration.computePlans } with
      | none => none
      | some db => if world.db.Administers db then some (.administered, { world with db }) else none
  | .select now locked operationId provider stamp dbNow =>
      match world.db.operation? operationId with
      | none => none
      | some operation =>
          if Selects now locked world.db operation then
            some (world.selectStep operation provider stamp dbNow)
          else none
  | .submit index provider =>
      match world.inFlight[index]? with
      | some (.submitting dispatch) =>
          let ran := Program.run provider 0 dispatch.submit
          some (.submitted dispatch ran.1 ran.2,
            { world with inFlight := world.inFlight.set index (.storing dispatch ran.2) })
      | _ => none
  | .store index stamp dbNow =>
      match world.inFlight[index]? with
      | some (.storing dispatch outcome) =>
          let remaining := world.inFlight.eraseIdx index
          match storeDatabase world.db dispatch outcome stamp dbNow with
          | some db => some (.stored dispatch outcome true, { db, inFlight := remaining })
          | none => some (.stored dispatch outcome false, { world with inFlight := remaining })
      | _ => none
  | .lose index =>
      match world.inFlight[index]? with
      | some flight =>
          some (.lost flight, { world with inFlight := world.inFlight.eraseIdx index })
      | none => none

end World

/-- The portal, started on a database without VMs and operations. -/
def portal : LabelledSystem World Event :=
  LabelledSystem.ofFunction (fun world => world = .initial) World.step?

namespace World

/-- Perform actions one after another; the world is left as it is when one of them is not
possible. -/
def perform (world : World) (actions : List Action) : List Event × World :=
  (LabelledSystem.perform step? actions world).getD ([], world)

theorem perform_run (world : World) (actions : List Action) :
    portal.Run world (world.perform actions).1 (world.perform actions).2 := by
  unfold perform
  cases performed : LabelledSystem.perform step? actions world with
  | none => exact .nil
  | some outcome => exact LabelledSystem.run_of_perform performed

theorem perform_reachable (actions : List Action) :
    portal.Reachable (initial.perform actions).2 :=
  ⟨initial, _, rfl, initial.perform_run actions⟩

end World

end NpdPortal
