import NpdPortal.Library.Program
import NpdPortal.Portal.Database

/-!
# The provider contract

The value types of `proxmox/contracts.py`, the calls of the `ProxmoxAdapter`
protocol with their answers, and the errors the services raise.
-/

namespace NpdPortal

/-- The exceptions of the services, with their texts. -/
inductive Error where
  | runtimeError (message : String)
  | valueError (message : String)
  | permissionError (message : String)
  | lookupError (message : String)
  | integrityError
  /-- Any exception an adapter call ends with. -/
  | provider (message : String)
  deriving DecidableEq, Repr

/-- Go on only if the condition holds. -/
def require (condition : Prop) [Decidable condition] (error : Error) : Except Error Unit :=
  if condition then .ok () else .error error

/-- The row a query found, or an error. -/
def found {α : Type} (row : Option α) (error : Error) : Except Error α :=
  match row with
  | some value => .ok value
  | none => .error error

structure CreateVmRequest where
  vmId : Uuid
  imageId : String
  vcpus : ℕ
  memoryMb : ℕ
  storageGb : ℕ
  sshPublicKey : String
  deriving DecidableEq, Repr

structure ProviderTask where
  taskId : String
  vmid : ℤ
  node : String
  deriving DecidableEq, Repr

/-- The `state` of a clone or delete result. -/
inductive SubmissionState where
  | submitted
  | inProgress
  | succeeded
  deriving DecidableEq, Repr

structure ProviderCloneResult where
  state : SubmissionState
  task : Option ProviderTask := none
  deriving DecidableEq, Repr

structure ProviderDeleteResult where
  state : SubmissionState
  task : Option ProviderTask := none
  deriving DecidableEq, Repr

inductive TaskState where
  | running
  | succeeded
  | failed
  deriving DecidableEq, Repr

structure ProviderTaskStatus where
  status : TaskState
  errorCode : Option String := none
  deriving DecidableEq, Repr

inductive PowerState where
  | running
  | stopped
  | missing
  deriving DecidableEq, Repr

structure ProviderVmState where
  status : PowerState
  locked : Bool := false
  deriving DecidableEq, Repr

structure ProviderPlacement where
  node : String
  vmid : ℤ
  deriving DecidableEq, Repr

/-- The methods of `ProxmoxAdapter`. -/
inductive AdapterCall where
  | getVmPowerState (portalVmId : Uuid) (node : String) (vmid : ℤ)
  | chooseCloneTarget (request : CreateVmRequest)
  | getTaskStatus (task : ProviderTask)
  | cloneVm (request : CreateVmRequest) (node : String) (vmid : ℤ)
  | configureVm (request : CreateVmRequest) (node : String) (vmid : ℤ)
  | resizeVmDisk (request : CreateVmRequest) (node : String) (vmid : ℤ)
  | startVm (portalVmId : Uuid) (node : String) (vmid : ℤ)
  | shutdownVm (portalVmId : Uuid) (node : String) (vmid : ℤ)
  | stopVm (portalVmId : Uuid) (node : String) (vmid : ℤ)
  | deleteVm (portalVmId : Uuid) (node : String) (vmid : ℤ)
  deriving DecidableEq, Repr

namespace AdapterCall

/-- What each method returns. -/
@[reducible]
def Answer : AdapterCall → Type
  | getVmPowerState .. => ProviderVmState
  | chooseCloneTarget .. => ProviderPlacement
  | getTaskStatus .. => ProviderTaskStatus
  | cloneVm .. => ProviderCloneResult
  | configureVm .. => Option ProviderTask
  | resizeVmDisk .. => Option ProviderTask
  | startVm .. => Option ProviderTask
  | shutdownVm .. => Option ProviderTask
  | stopVm .. => Option ProviderTask
  | deleteVm .. => ProviderDeleteResult

/-- The methods that send a command to the provider. -/
def Mutates : AdapterCall → Prop
  | getVmPowerState .. | chooseCloneTarget .. | getTaskStatus .. => False
  | _ => True

instance : DecidablePred Mutates := fun call => by
  cases call <;> unfold Mutates <;> infer_instance

end AdapterCall

/-- A result which the worker carries to its storing transaction. -/
inductive ProviderResult where
  | clone (result : ProviderCloneResult)
  | task (task : Option ProviderTask)
  | delete (result : ProviderDeleteResult)
  deriving DecidableEq, Repr

/-- The task that a result carries. -/
def ProviderResult.task? : ProviderResult → Option ProviderTask
  | .clone result => result.task
  | .task value => value
  | .delete result => result.task

/-- Code that may call the adapter. -/
abbrev Txn := Program AdapterCall AdapterCall.Answer Error

/-- A call of the adapter and what it answered. -/
abbrev Exchange := Program.Exchange AdapterCall AdapterCall.Answer Error

/-- The answers of the provider to the calls of one program. -/
abbrev Provider := Program.Environment AdapterCall AdapterCall.Answer Error

namespace Adapter

/-! The methods of the adapter as programs of one call. -/

abbrev getVmPowerState (portalVmId : Uuid) (target : ProviderPlacement) : Txn ProviderVmState :=
  Program.perform (AdapterCall.getVmPowerState portalVmId target.node target.vmid)

abbrev chooseCloneTarget (request : CreateVmRequest) : Txn ProviderPlacement :=
  Program.perform (AdapterCall.chooseCloneTarget request)

abbrev getTaskStatus (task : ProviderTask) : Txn ProviderTaskStatus :=
  Program.perform (AdapterCall.getTaskStatus task)

abbrev cloneVm (request : CreateVmRequest) (target : ProviderPlacement) :
    Txn ProviderCloneResult :=
  Program.perform (AdapterCall.cloneVm request target.node target.vmid)

abbrev configureVm (request : CreateVmRequest) (target : ProviderPlacement) :
    Txn (Option ProviderTask) :=
  Program.perform (AdapterCall.configureVm request target.node target.vmid)

abbrev resizeVmDisk (request : CreateVmRequest) (target : ProviderPlacement) :
    Txn (Option ProviderTask) :=
  Program.perform (AdapterCall.resizeVmDisk request target.node target.vmid)

abbrev startVm (portalVmId : Uuid) (target : ProviderPlacement) : Txn (Option ProviderTask) :=
  Program.perform (AdapterCall.startVm portalVmId target.node target.vmid)

abbrev shutdownVm (portalVmId : Uuid) (target : ProviderPlacement) : Txn (Option ProviderTask) :=
  Program.perform (AdapterCall.shutdownVm portalVmId target.node target.vmid)

abbrev stopVm (portalVmId : Uuid) (target : ProviderPlacement) : Txn (Option ProviderTask) :=
  Program.perform (AdapterCall.stopVm portalVmId target.node target.vmid)

abbrev deleteVm (portalVmId : Uuid) (target : ProviderPlacement) : Txn ProviderDeleteResult :=
  Program.perform (AdapterCall.deleteVm portalVmId target.node target.vmid)

end Adapter

section ExceptLemmas

variable {ε α β : Type}

@[simp]
theorem ok_bind (value : α) (next : α → Except ε β) :
    (Except.ok value >>= next) = next value := rfl

@[simp]
theorem error_bind (error : ε) (next : α → Except ε β) :
    (Except.error error >>= next) = .error error := rfl

@[simp]
theorem pure_eq_ok (value : α) : (pure value : Except ε α) = .ok value := rfl

@[simp]
theorem throw_eq_error (error : ε) : (throw error : Except ε α) = .error error := rfl

@[simp]
theorem map_ok (function : α → β) (value : α) :
    function <$> (Except.ok value : Except ε α) = .ok (function value) := rfl

theorem bind_eq_ok {first : Except ε α} {next : α → Except ε β} {value : β} :
    (first >>= next) = .ok value ↔ ∃ middle, first = .ok middle ∧ next middle = .ok value := by
  cases first with
  | error error => simp [bind, Except.bind]
  | ok middle => simp [bind, Except.bind]

theorem bind_eq_error {first : Except ε α} {next : α → Except ε β} {error : ε} :
    (first >>= next) = .error error ↔
      first = .error error ∨ ∃ middle, first = .ok middle ∧ next middle = .error error := by
  cases first with
  | error raised => simp [bind, Except.bind]
  | ok middle => simp [bind, Except.bind]

theorem map_eq_error {result : Except ε α} {function : α → β} {error : ε} :
    function <$> result = .error error ↔ result = .error error := by
  cases result <;> simp [Functor.map, Except.map]

theorem map_eq_ok {result : Except ε α} {function : α → β} {value : β} :
    function <$> result = .ok value ↔ ∃ first, result = .ok first ∧ function first = value := by
  cases result <;> simp [Functor.map, Except.map]

theorem require_eq_ok {condition : Prop} [Decidable condition] {error : Error} {result : Unit} :
    require condition error = .ok result ↔ condition := by
  unfold require
  split <;> simp_all

theorem require_eq_error {condition : Prop} [Decidable condition] {raised error : Error} :
    require condition raised = .error error ↔ ¬condition ∧ raised = error := by
  unfold require
  split <;> simp_all

@[simp]
theorem require_of {condition : Prop} [Decidable condition] {error : Error} (holds : condition) :
    require condition error = .ok () := by
  simp [require, holds]

@[simp]
theorem require_of_not {condition : Prop} [Decidable condition] {error : Error}
    (fails : ¬condition) : require condition error = .error error := by
  simp [require, fails]

theorem found_eq_ok {row : Option α} {error : Error} {value : α} :
    found row error = .ok value ↔ row = some value := by
  cases row <;> simp [found]

theorem found_eq_error {row : Option α} {raised error : Error} :
    found row raised = .error error ↔ row = none ∧ raised = error := by
  cases row <;> simp [found]

@[simp]
theorem found_some {value : α} {error : Error} : found (some value) error = .ok value := rfl

@[simp]
theorem found_none {error : Error} : found (none : Option α) error = .error error := rfl

end ExceptLemmas

end NpdPortal
