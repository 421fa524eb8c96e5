import NpdPortal.Worker.System

/-!
# Web requests statement by statement

`createVm` and `enqueueVmOperation` run alone.  Here their statements are
separate steps, between which the transactions of other requests, of the
workers and of the administration may commit, as with READ COMMITTED in
PostgreSQL.  A statement reads the committed rows.  `SELECT ... FOR UPDATE` holds a row
lock and an `INSERT` holds its entries in the unique indexes until the
transaction ends; a statement which needs what another transaction holds waits.
-/

namespace NpdPortal

/-- A call of `create_vm`. -/
structure CreateCall where
  userId : Uuid
  request : VirtualMachineCreate
  idempotencyKey : String
  deriving DecidableEq

/-- A call of `enqueue_vm_operation`. -/
structure EnqueueCall where
  userId : Uuid
  vmId : Uuid
  operationType : OperationType
  idempotencyKey : String
  deriving DecidableEq

/-- A web request. -/
inductive WebRequest where
  | create (call : CreateCall)
  | enqueue (call : EnqueueCall)
  deriving DecidableEq

def WebRequest.idempotencyKey : WebRequest → String
  | create call => call.idempotencyKey
  | enqueue call => call.idempotencyKey

/-- What a request returns. -/
inductive WebReply where
  | vm (vm : VirtualMachine)
  | operation (operation : Operation)
  deriving DecidableEq

/-- The next statement of `create_vm` with the local variables in scope. -/
inductive CreatePoint where
  | checkingSshKey
  | lockingQuota
  | lookingUp (quota : UserQuota)
  | readingExisting (quota : UserQuota) (operation : Operation)
  | readingPlan (quota : UserQuota)
  | readingUsage (quota : UserQuota) (plan : ComputePlan)
  | insertingVm (quota : UserQuota) (plan : ComputePlan)
  | insertingOperation (quota : UserQuota) (plan : ComputePlan) (vm : VirtualMachine)
  | committing (quota : UserQuota) (plan : ComputePlan) (vm : VirtualMachine)
      (operation : Operation)
  /-- After the rollback of a lost insert. -/
  | rechecking
  | recheckingExisting (operation : Operation)
  deriving DecidableEq

/-- The next statement of `enqueue_vm_operation` with the local variables in scope. -/
inductive EnqueuePoint where
  | lockingVm
  | lookingUp (statuses : List VmStatus) (vm : VirtualMachine)
  | checkingActive (statuses : List VmStatus) (vm : VirtualMachine)
  | inserting (statuses : List VmStatus) (vm : VirtualMachine)
  | committing (statuses : List VmStatus) (vm : VirtualMachine) (operation : Operation)
  /-- After the rollback of a lost insert. -/
  | rechecking (vm : VirtualMachine)
  deriving DecidableEq

/-- A request under way. -/
inductive Work where
  | create (call : CreateCall) (point : CreatePoint)
  | enqueue (call : EnqueueCall) (point : EnqueuePoint)
  deriving DecidableEq

/-- What a transaction holds until it ends. -/
inductive Resource where
  /-- The lock of a row of `user_quota`. -/
  | userQuota (userId : Uuid)
  /-- The lock of a row of `virtual_machines`, also of an inserted one. -/
  | virtualMachine (id : Uuid)
  /-- The entry of an inserted operation in its primary key. -/
  | operation (id : Uuid)
  /-- The entry of an inserted operation in `uq_operations_idempotency_key`. -/
  | idempotencyKey (key : String)
  deriving DecidableEq

namespace Work

/-- The request a work is for. -/
def request : Work → WebRequest
  | create call _ => .create call
  | enqueue call _ => .enqueue call

def resources : Work → List Resource
  | create call point =>
      match point with
      | .checkingSshKey | .lockingQuota | .rechecking | .recheckingExisting _ => []
      | .lookingUp _ | .readingExisting .. | .readingPlan _ | .readingUsage ..
      | .insertingVm .. => [.userQuota call.userId]
      | .insertingOperation _ _ vm => [.userQuota call.userId, .virtualMachine vm.id]
      | .committing _ _ vm operation => [.userQuota call.userId, .virtualMachine vm.id,
          .operation operation.id, .idempotencyKey operation.idempotencyKey]
  | enqueue _ point =>
      match point with
      | .lockingVm | .rechecking _ => []
      | .lookingUp _ vm | .checkingActive _ vm | .inserting _ vm => [.virtualMachine vm.id]
      | .committing _ vm operation => [.virtualMachine vm.id, .operation operation.id,
          .idempotencyKey operation.idempotencyKey]

end Work

/-- What a statement leads to. -/
inductive Outcome where
  /-- The next statement. -/
  | proceed (work : Work)
  /-- The end of a transaction that has written nothing, or its rollback. -/
  | reply (result : Except Error WebReply)
  /-- The commit of the inserted rows. -/
  | commit (vms : List VirtualMachine) (operations : List Operation) (reply : WebReply)

/-- Go on with the value, or roll back and raise. -/
def Outcome.orRaise {α : Type} (result : Except Error α) (next : α → Outcome) : Outcome :=
  match result with
  | .ok value => next value
  | .error error => .reply (.error error)

/-- One statement of `create_vm`; `context` has the values the database generates for it. -/
def CreateCall.next (call : CreateCall) (db : Database) (context : RequestContext)
    (point : CreatePoint) : Outcome :=
  let goTo point := Outcome.proceed (.create call point)
  match point with
  | .checkingSshKey =>
      .orRaise (checkSshKey db call.userId call.request) fun _ => goTo .lockingQuota
  | .lockingQuota =>
      .orRaise (found (db.userQuota? call.userId) (.runtimeError "user quota is missing"))
        fun quota => goTo (.lookingUp quota)
  | .lookingUp quota =>
      match db.operationByKey? call.idempotencyKey with
      | some operation => goTo (.readingExisting quota operation)
      | none => .orRaise (checkQuotaAndImage quota call.request)
          fun _ => goTo (.readingPlan quota)
  | .readingExisting _ operation =>
      .reply (.vm <$> readExistingVm db operation call.userId call.request)
  | .readingPlan quota =>
      .orRaise (found (db.computePlan? quota.computePlanId)
          (.runtimeError "compute plan is missing"))
        fun plan => goTo (.readingUsage quota plan)
  | .readingUsage quota plan =>
      .orRaise (validateVmQuota plan (getUserComputeUsage db call.userId) call.request)
        fun _ => goTo (.insertingVm quota plan)
  | .insertingVm quota plan =>
      if context.vmId ∈ db.virtualMachines.map (·.id) then goTo .rechecking
      else goTo (.insertingOperation quota plan (newVm context.vmId call.userId call.request))
  | .insertingOperation quota plan vm =>
      if context.operationId ∈ db.operations.map (·.id) ∨
          call.idempotencyKey ∈ db.operations.map (·.idempotencyKey) then goTo .rechecking
      else goTo (.committing quota plan vm
        (newCreateOperation context.operationId vm.id call.idempotencyKey context.now))
  | .committing _ _ vm operation => .commit [vm] [operation] (.vm vm)
  | .rechecking =>
      .orRaise (found (db.operationByKey? call.idempotencyKey)
          (.valueError "idempotency key already used"))
        fun operation => goTo (.recheckingExisting operation)
  | .recheckingExisting operation =>
      .reply (.vm <$> readExistingVm db operation call.userId call.request)

/-- One statement of `enqueue_vm_operation`. -/
def EnqueueCall.next (call : EnqueueCall) (db : Database) (context : RequestContext)
    (point : EnqueuePoint) : Outcome :=
  let goTo point := Outcome.proceed (.enqueue call point)
  match point with
  | .lockingVm =>
      .orRaise (found (allowedStatuses call.operationType)
          (.valueError "unsupported VM operation"))
        fun statuses => .orRaise (found (ownVm? db call.userId call.vmId)
            (.lookupError "virtual machine not found"))
          fun vm => goTo (.lookingUp statuses vm)
  | .lookingUp statuses vm =>
      match db.operationByKey? call.idempotencyKey with
      | some existing =>
          .reply (.operation <$> checkExistingOperation existing vm.id call.operationType)
      | none => goTo (.checkingActive statuses vm)
  | .checkingActive statuses vm =>
      .orRaise (checkNoActiveOperation db call.vmId) fun _ =>
        .orRaise (checkVmStatus vm call.operationType statuses) fun _ =>
          goTo (.inserting statuses vm)
  | .inserting statuses vm =>
      if context.operationId ∈ db.operations.map (·.id) ∨
          call.idempotencyKey ∈ db.operations.map (·.idempotencyKey) then goTo (.rechecking vm)
      else goTo (.committing statuses vm (newLifecycleOperation context.operationId vm.id
        call.operationType call.idempotencyKey context.now))
  | .committing _ _ operation => .commit [] [operation] (.operation operation)
  | .rechecking _ => .reply
      (.operation <$> recheckEnqueue db call.idempotencyKey call.vmId call.operationType)

/-- The next statement of a request. -/
def Work.next (db : Database) (context : RequestContext) : Work → Outcome
  | create call point => call.next db context point
  | enqueue call point => call.next db context point

/-- A database session with its request. -/
structure Session where
  id : ℕ
  work : Work
  deriving DecidableEq

/-- The first statement of a request. -/
def WebRequest.start : WebRequest → Work
  | create call => .create call .checkingSshKey
  | enqueue call => .enqueue call .lockingVm

/-- The portal with its open web requests. -/
structure Site where
  world : World
  sessions : List Session

/-- What is observable of a step of the site. -/
inductive SiteEvent where
  /-- A step of a worker or of the administration. -/
  | background (event : Event)
  | begun (request : WebRequest)
  /-- A statement that leaves the request open. -/
  | proceeded (request : WebRequest)
  /-- A request has ended; with an error it was rolled back. -/
  | answered (request : WebRequest) (result : Except Error WebReply)
  /-- The request was cancelled and rolled back. -/
  | aborted (request : WebRequest)

/-- The choices of the environment for one step of the site. -/
inductive SiteAction where
  | background (action : Action)
  | begin (id : ℕ) (request : WebRequest)
  | proceed (id : ℕ) (context : RequestContext)
  | abort (id : ℕ)

/-- Web requests run as sessions. -/
def Action.isWeb : Action → Bool
  | createVm .. | enqueue .. => true
  | _ => false

/-- Nothing that a session has locked differs. -/
def Resource.Kept (db next : Database) : Resource → Prop
  | userQuota userId => next.userQuota? userId = db.userQuota? userId
  | virtualMachine id => next.virtualMachine? id = db.virtualMachine? id
  | operation _ | idempotencyKey _ => True

instance (db next : Database) : DecidablePred (Resource.Kept db next) := fun resource => by
  cases resource <;> unfold Resource.Kept <;> infer_instance

namespace Site

def initial : Site where
  world := .initial
  sessions := []

/-- The site after a session has ended. -/
def close (site : Site) (id : ℕ) (world : World) : Site where
  world := world
  sessions := site.sessions.filter (·.id ≠ id)

/-- The work needs nothing which another session holds. -/
def Available (site : Site) (id : ℕ) (work : Work) : Prop :=
  ∀ other ∈ site.sessions, other.id ≠ id →
    ∀ resource ∈ work.resources, resource ∉ other.work.resources

instance (site : Site) (id : ℕ) (work : Work) : Decidable (site.Available id work) :=
  inferInstanceAs (Decidable (∀ other ∈ site.sessions, other.id ≠ id →
    ∀ resource ∈ work.resources, resource ∉ other.work.resources))

/-- The transaction changes no row which a session has locked. -/
def Permits (site : Site) (world : World) : Prop :=
  ∀ session ∈ site.sessions, ∀ resource ∈ session.work.resources,
    resource.Kept site.world.db world.db

instance (site : Site) (world : World) : Decidable (site.Permits world) :=
  inferInstanceAs (Decidable (∀ session ∈ site.sessions, ∀ resource ∈ session.work.resources,
    resource.Kept site.world.db world.db))

/-- One step; `none` when the action is not possible in this state. -/
def step? (action : SiteAction) (site : Site) : Option (SiteEvent × Site) :=
  match action with
  | .background action =>
      if action.isWeb then none
      else match World.step? action site.world with
        | some (event, world) =>
            if site.Permits world then some (.background event, { site with world }) else none
        | none => none
  | .begin id request =>
      if id ∈ site.sessions.map (·.id) then none
      else some (.begun request,
        { site with sessions := site.sessions ++ [⟨id, request.start⟩] })
  | .proceed id context =>
      match KeyedRows.lookup Session.id id site.sessions with
      | none => none
      | some session =>
          match session.work.next site.world.db context with
          | .proceed work =>
              if site.Available id work then
                some (.proceeded session.work.request, { site with
                  sessions := KeyedRows.replace Session.id ⟨id, work⟩ site.sessions })
              else none
          | .reply result =>
              some (.answered session.work.request result, site.close id site.world)
          | .commit vms operations reply =>
              match site.world.db.insert vms operations with
              | some db => some (.answered session.work.request (.ok reply),
                  site.close id { site.world with db })
              | none => some (.answered session.work.request (.error .integrityError),
                  site.close id site.world)
  | .abort id =>
      match KeyedRows.lookup Session.id id site.sessions with
      | none => none
      | some session => some (.aborted session.work.request, site.close id site.world)

end Site

/-- The site, started on a database without VMs and operations. -/
def site : LabelledSystem Site SiteEvent :=
  LabelledSystem.ofFunction (fun state => state = .initial) Site.step?

end NpdPortal
