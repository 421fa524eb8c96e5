import NpdPortal.Stages.Storing

/-!
# Every transaction is a move of the stage machine

The row functions of the stage machine move an operation along `Advance`.
Together with the computed transactions this gives one statement for the
selecting transaction and one for the storing transaction; all invariants of
the portal are derived from these two.
-/

namespace NpdPortal

section Rows

variable {operation : Operation} {vm : VirtualMachine} {stage : Stage} {stamp : Time}

theorem Operation.SameIdentity.refl (operation : Operation) : operation.SameIdentity operation :=
  ⟨rfl, rfl, rfl, rfl⟩

theorem Operation.SameIdentity.trans {first second third : Operation}
    (before : first.SameIdentity second) (after : second.SameIdentity third) :
    first.SameIdentity third :=
  ⟨after.id.trans before.id, after.virtualMachineId.trans before.virtualMachineId,
    after.operationType.trans before.operationType,
    after.idempotencyKey.trans before.idempotencyKey⟩

/-- Where no task is stored there is none to keep. -/
theorem Evidence.keepsTask_of_noTask {evidence : Evidence} {updated : Operation}
    {target : Position} (noTask : target.hasTask = false) :
    evidence.KeepsTask operation updated target := by
  rintro other (⟨backoff, rfl⟩ | rfl) <;> cases noTask

/-- A code of the worker's own, where the evidence brings none. -/
theorem Evidence.keepsCode_of_mem {evidence : Evidence} {updated : Operation}
    (noFailure : evidence.failure? = none) (code : Option String) (own : code ∈ workerCodes)
    (written : updated.lastErrorCode = code) : evidence.KeepsCode operation updated := by
  unfold Evidence.KeepsCode
  rw [noFailure]
  exact .inr (written ▸ own)

@[simp]
theorem Stage.completed_lastErrorCode (stage : Stage) (operation : Operation) :
    (stage.completed operation).lastErrorCode = none := by
  unfold Stage.completed
  split <;> rfl

theorem Stage.completed_keepsCode {evidence : Evidence} (noFailure : evidence.failure? = none)
    (stage : Stage) : evidence.KeepsCode operation (stage.completed operation) :=
  Evidence.keepsCode_of_mem noFailure none (by decide) (stage.completed_lastErrorCode operation)

theorem Stage.after_hasTask (stage : Stage) : stage.after.hasTask = false := by
  cases stage <;> rfl

theorem Stage.completed_sameIdentity (stage : Stage) (operation : Operation) :
    operation.SameIdentity (stage.completed operation) := by
  unfold Stage.completed
  split <;> exact ⟨rfl, rfl, rfl, rfl⟩

theorem Stage.completed_matches (kind : operation.operationType = stage.operationType) :
    stage.after.Matches (stage.completed operation) := by
  cases stage <;>
    exact ⟨kind, rfl, by simp [Stage.completed, Stage.after, Stage.next, Position.phases], rfl⟩

/-- The columns take the row of a confirmed stage. -/
theorem Stage.completed_fits (kind : operation.operationType = stage.operationType) :
    (stage.completed operation).Fits := by
  refine ⟨stage.after.phases_fit _ (stage.completed_matches kind).phase, ?_, ?_⟩
  · rw [stage.completed_lastErrorCode]
    rintro code ⟨⟩
  · have noTask := (stage.completed_matches kind).task
    rw [stage.after_hasTask, Option.isSome_eq_false_iff, Option.isNone_iff_eq_none] at noTask
    rw [noTask]
    rintro taskId ⟨⟩

theorem Stage.prepared_refines (atStage : (Position.pending stage).Matches operation) :
    (stage.prepared stamp operation vm).Refines .marked (.pending stage) operation vm
      (.dispatching stage) := by
  refine ⟨stage.markChange, .mark stage, ⟨atStage.operationType, rfl, ?_, ?_⟩,
    ⟨rfl, rfl, rfl, rfl⟩, rfl, Evidence.keepsTask_of_noTask rfl, .inl rfl⟩
  · simp [Stage.prepared, Position.phases]
  · simp [Stage.prepared, Position.hasTask, atStage.providerTaskId_eq_none rfl]

theorem placed_refines (target : ProviderPlacement)
    (atClone : (Position.pending .clone).Matches operation) :
    Changes.Refines ⟨operation, some ((VmChange.place target).apply vm)⟩ (.placed target)
      (.pending .clone) operation vm (.pending .clone) :=
  ⟨.place target, .place target, atClone, .refl operation, rfl, Evidence.keepsTask_of_noTask rfl,
    .inl rfl⟩

theorem Stage.polled_refines (answer : Except Error ProviderTaskStatus) {backoff : Bool}
    (atStage : (Position.polling stage backoff).Matches operation) :
    ∃ target, (stage.polled stamp operation vm answer).Refines (.polled answer)
      (.polling stage backoff) operation vm target := by
  have phase := atStage.phase_of_polling
  have kind := atStage.operationType
  have task := atStage.task
  cases answer with
  | error error =>
      refine ⟨_, .keep, .pollRaised stage backoff error, ⟨kind, atStage.status, ?_, task⟩,
        ⟨rfl, rfl, rfl, rfl⟩, rfl, fun _ _ => rfl,
        Evidence.keepsCode_of_mem rfl (some "provider_status_unavailable") (by decide) rfl⟩
      simp [Stage.polled, Operation.failedWith, Position.phases]
  | ok status =>
      rcases state : status.status with _ | _ | _
      · refine ⟨_, .keep, .pollRunning stage backoff status state, ?_, ?_, ?_⟩ <;>
          simp only [Stage.polled, state]
        · refine ⟨kind, atStage.status, ?_, task⟩
          cases backoff <;> cases stage <;>
            simp_all [Position.phases, Stage.endsBackoff, Stage.taskPhase, Stage.backoffPhase]
        · exact ⟨rfl, rfl, rfl, rfl⟩
        · refine ⟨rfl, fun _ _ => rfl, ?_⟩
          simp only [Evidence.KeepsCode, Evidence.failure?, state, reduceCtorEq, if_false]
          cases stage.clearsError
          · exact .inl rfl
          · exact .inr (by simp [workerCodes])
      · refine ⟨_, stage.pollChange, .pollSucceeded stage backoff status state, ?_, ?_, ?_⟩ <;>
          simp only [Stage.polled, state]
        · exact stage.completed_matches kind
        · exact stage.completed_sameIdentity operation
        · exact ⟨trivial, Evidence.keepsTask_of_noTask stage.after_hasTask,
            stage.completed_keepsCode (by simp [Evidence.failure?, state])⟩
      · refine ⟨_, stage.failChange, .pollFailed stage backoff status state, ?_, ?_, ?_⟩ <;>
          simp only [Stage.polled, state]
        · refine ⟨kind, rfl, ?_, task⟩
          cases backoff <;> cases stage <;>
            simp_all +decide [Position.phases, Stage.taskPhase, Stage.backoffPhase]
        · exact ⟨rfl, rfl, rfl, rfl⟩
        · exact ⟨trivial, fun _ _ => rfl, by simp [Evidence.KeepsCode, Evidence.failure?, state]⟩

theorem Stage.reconciled_refines (answer : Except Error ProviderVmState) {position : Position}
    (atPosition : position.Matches operation) (awaits : position.Awaits stage)
    (readable : ¬stage.NeedsReview) :
    ∃ target, (stage.reconciled stamp operation vm answer).Refines (.read answer) position
      operation vm target := by
  rcases atPosition.of_awaits awaits with ⟨kind, processing, noTask⟩
  have unreviewed : stage.reviewPhase = none := by
    cases stage <;> first | rfl | exact absurd trivial readable
  cases answer with
  | error error =>
      refine ⟨_, .keep, .readRaised stage position error awaits readable,
        ⟨kind, processing, ?_, ?_⟩, ⟨rfl, rfl, rfl, rfl⟩, rfl, Evidence.keepsTask_of_noTask rfl,
        Evidence.keepsCode_of_mem rfl (some "provider_status_unavailable") (by decide) rfl⟩
      · simp [Stage.reconciled, Operation.failedWith, Position.phases]
      · simp [Stage.reconciled, Operation.failedWith, Position.hasTask, noTask]
  | ok state =>
      by_cases confirms : stage.Confirms state
      · refine ⟨_, stage.doneChange, .confirmed stage position state awaits confirms, ?_, ?_, ?_⟩
          <;> simp only [Stage.reconciled, confirms, if_true]
        · exact stage.completed_matches kind
        · exact stage.completed_sameIdentity operation
        · exact ⟨trivial, Evidence.keepsTask_of_noTask stage.after_hasTask,
            stage.completed_keepsCode rfl⟩
      · refine ⟨_, .keep, .unconfirmed stage position state awaits confirms readable, ?_, ?_, ?_⟩
          <;> simp only [Stage.reconciled, confirms, if_false]
        · refine ⟨kind, processing, ?_, ?_⟩
          · simp [Stage.unknownOutcome, unreviewed, Position.phases]
          · simp [Stage.unknownOutcome, noTask, Position.hasTask]
        · exact ⟨rfl, rfl, rfl, rfl⟩
        · exact ⟨rfl, Evidence.keepsTask_of_noTask rfl,
            Evidence.keepsCode_of_mem rfl (some "provider_outcome_unknown") (by decide) rfl⟩

theorem Stage.reviewed_refines {position : Position} (atPosition : position.Matches operation)
    (awaits : position.Awaits stage) (needsReview : stage.NeedsReview) :
    Changes.Refines { operation := stage.unknownOutcome stamp operation } .reviewed position
      operation vm (.review stage) := by
  rcases atPosition.of_awaits awaits with ⟨kind, processing, noTask⟩
  refine ⟨.keep, .review stage position awaits needsReview, ⟨kind, processing, ?_, ?_⟩,
    ⟨rfl, rfl, rfl, rfl⟩, rfl, Evidence.keepsTask_of_noTask rfl,
    Evidence.keepsCode_of_mem rfl (some "provider_outcome_unknown") (by decide) rfl⟩
  · cases stage <;> first
      | exact False.elim needsReview
      | simp [Stage.unknownOutcome, Stage.reviewPhase, Position.phases]
  · simp [Stage.unknownOutcome, noTask, Position.hasTask]

/-- The rows of a task that is stored. -/
theorem Stage.withTask_refines {position : Position} {result : ProviderResult}
    {task : ProviderTask} (atPosition : position.Matches operation)
    (carries : stage.reply result = some (.task task))
    (waiting : position = .dispatching stage ∨
      position = .reconciling stage ∧ stage.AcceptsLateTask) :
    Changes.Refines
      { operation := stage.withTask operation task, vm := stage.taskChange.write vm }
      (.outcome (.ok result)) position operation vm (.polling stage false) := by
  refine ⟨stage.taskChange, .storeTask stage position result task carries waiting, ?_,
    ⟨rfl, rfl, rfl, rfl⟩, rfl, ?_, Evidence.keepsCode_of_mem rfl none (by decide) rfl⟩
  swap
  · rintro other (⟨backoff, same⟩ | same) <;> cases same
    simp [Evidence.task, carries, Stage.withTask]
  have kind : operation.operationType = stage.operationType := by
    rcases waiting with rfl | ⟨rfl, _⟩ <;> exact atPosition.operationType
  have processing : operation.status = .processing := by
    rcases waiting with rfl | ⟨rfl, _⟩ <;> exact atPosition.status
  exact ⟨kind, processing, by simp [Stage.withTask, Position.phases], rfl⟩

theorem Stage.reviewPhase_of_inProgress {result : ProviderResult}
    (inProgress : stage.reply result = some .inProgress) : stage.reviewPhase = none := by
  cases stage <;> first
    | rfl
    | (rcases result with _ | (_ | _) | _ <;> simp [Stage.reply] at inProgress)

theorem Position.replied_refines {position : Position} {dispatched : Stage}
    {target : ProviderPlacement} {result : ProviderResult} {changes : Changes}
    (atPosition : position.Matches operation)
    (accepted : position.replied dispatched stamp operation vm target result = some changes) :
    ∃ reached, changes.Refines (.outcome (.ok result)) position operation vm reached := by
  cases position with
  | dispatching current =>
      simp only [Position.replied] at accepted
      split at accepted
      · rcases Option.bind_eq_some_iff.mp accepted with ⟨reply, replies, accepted⟩
        cases reply with
        | task task =>
            simp only [Stage.replied] at accepted
            split at accepted <;> cases accepted
            exact ⟨_, Stage.withTask_refines atPosition replies (.inl rfl)⟩
        | done =>
            simp only [Stage.replied, Option.some.injEq] at accepted
            subst accepted
            exact ⟨_, current.doneChange, .storeDone current result replies,
              current.completed_matches atPosition.operationType,
              current.completed_sameIdentity operation, rfl,
              Evidence.keepsTask_of_noTask current.after_hasTask, current.completed_keepsCode rfl⟩
        | inProgress =>
            simp only [Stage.replied, Option.some.injEq] at accepted
            subst accepted
            have unreviewed := Stage.reviewPhase_of_inProgress replies
            refine ⟨_, current.taskChange, .storeInProgress current result replies,
              ⟨atPosition.operationType, atPosition.status, ?_, ?_⟩, ⟨rfl, rfl, rfl, rfl⟩, rfl,
              Evidence.keepsTask_of_noTask rfl,
              Evidence.keepsCode_of_mem rfl (some "provider_outcome_unknown") (by decide) rfl⟩
            · simp [Stage.unknownOutcome, unreviewed, Position.phases]
            · simp [Stage.unknownOutcome, Position.hasTask, atPosition.providerTaskId_eq_none rfl]
      · cases accepted
  | reconciling current =>
      simp only [Position.replied] at accepted
      split at accepted
      · rename_i late
        split at accepted
        · rename_i task replies
          simp only [Stage.replied] at accepted
          split at accepted <;> cases accepted
          exact ⟨_, Stage.withTask_refines atPosition replies (.inr ⟨rfl, late.2⟩)⟩
        · cases accepted
      · cases accepted
  | _ => cases accepted

theorem Position.raised_refines {position : Position} {dispatched : Stage} {error : Error}
    {changes : Changes} (atPosition : position.Matches operation)
    (accepted : position.raised dispatched stamp operation = some changes) :
    ∃ reached, changes.Refines (.outcome (.error error)) position operation vm reached := by
  cases position with
  | dispatching current =>
      simp only [Position.raised] at accepted
      split at accepted <;> cases accepted
      refine ⟨_, .keep, .storeUnknown current error,
        ⟨atPosition.operationType, atPosition.status, ?_, ?_⟩, ⟨rfl, rfl, rfl, rfl⟩, rfl,
        Evidence.keepsTask_of_noTask rfl,
        Evidence.keepsCode_of_mem rfl (some "provider_submit_unknown") (by decide) rfl⟩
      · simp [Operation.failedWith, Position.phases]
      · simp [Operation.failedWith, Position.hasTask, atPosition.providerTaskId_eq_none rfl]
  | _ => cases accepted

end Rows

/-! ## The two transactions -/

/-- Only before the clone the placement of a VM may still be missing. -/
def VirtualMachine.PlacedFor (vm : VirtualMachine) (position : Position) : Prop :=
  (∃ target : ProviderPlacement,
    vm.providerNode = some target.node ∧ vm.providerVmid = some target.vmid) ∨
  (position = .pending .clone ∧ vm.providerNode = none ∧ vm.providerVmid = none)

/-- The VM of an operation has what the transactions at this position need. -/
structure Ready (db : Database) (operation : Operation) (vm : VirtualMachine)
    (position : Position) : Prop where
  vmStored : db.virtualMachine? operation.virtualMachineId = some vm
  hasKey : HasSshKey db vm
  placement : vm.PlacedFor position

/-- The exchanges of a selecting transaction that gave this evidence. -/
def Evidence.Shows (evidence : Evidence) (operation : Operation) (vm : VirtualMachine)
    (exchanges : List Exchange) : Prop :=
  match evidence with
  | .placed target => vm.providerVmid = none ∧
      ∃ request, exchanges = [⟨.chooseCloneTarget request, .ok target⟩]
  | .marked | .reviewed => exchanges = []
  | .polled answer => ∃ task : ProviderTask, operation.providerTaskId = some task.taskId ∧
      vm.providerNode = some task.node ∧ vm.providerVmid = some task.vmid ∧
      exchanges = [⟨.getTaskStatus task, answer⟩]
  | .read answer => ∃ target : ProviderPlacement, vm.providerNode = some target.node ∧
      vm.providerVmid = some target.vmid ∧
      exchanges = [⟨.getVmPowerState vm.id target.node target.vmid, answer⟩]
  | .outcome _ => False

/-- What the body of a selecting transaction ends with. -/
inductive Selected (db : Database) (operation : Operation) (vm : VirtualMachine)
    (position : Position) (stamp : Time) :
    List Exchange × Except Error (Changes × Option Dispatch) → Prop where
  /-- Choosing the placement raised. -/
  | aborted (request : CreateVmRequest) (error : Error)
      (atClone : position = .pending .clone) (noVmid : vm.providerVmid = none) :
      Selected db operation vm position stamp
        ([⟨.chooseCloneTarget request, .error error⟩], .error error)
  /-- The chosen placement is written. -/
  | placed (request : CreateVmRequest) (target : ProviderPlacement)
      (atClone : position = .pending .clone) (noVmid : vm.providerVmid = none) :
      Selected db operation vm position stamp
        ([⟨.chooseCloneTarget request, .ok target⟩],
          .ok (⟨operation, some ((VmChange.place target).apply vm)⟩, none))
  /-- The marker is written and the command is to be sent. -/
  | marked (stage : Stage) (request : Option CreateVmRequest) (target : ProviderPlacement)
      (atStage : position = .pending stage) (isPlaced : Placed db operation vm target) :
      Selected db operation vm position stamp
        ([], .ok (stage.prepared stamp operation vm,
          some (stage.dispatch operation request target)))
  /-- A poll, a read of the power state or the hand-over to an operator. -/
  | followed (evidence : Evidence) (exchanges : List Exchange) (changes : Changes)
      (reached : Position) (shows : evidence.Shows operation vm exchanges)
      (refines : changes.Refines evidence position operation vm reached)
      (processing : operation.status = .processing) :
      Selected db operation vm position stamp (exchanges, .ok (changes, none))

section Transactions

variable {db : Database} {operation : Operation} {vm : VirtualMachine} {position : Position}

theorem Ready.placed_of_ne (ready : Ready db operation vm position)
    (started : position ≠ .pending .clone) :
    ∃ target, Placed db operation vm target := by
  rcases ready.placement with ⟨target, node, vmid⟩ | ⟨atClone, _⟩
  · exact ⟨target, ready.vmStored, node, vmid⟩
  · exact absurd atClone started

/-- Every selecting transaction of a processed position is one of these. -/
theorem runSelected_selected (stamp : Time) (provider : Provider)
    (ready : Ready db operation vm position) (atPosition : position.Matches operation)
    (processed : position.Processed) :
    Selected db operation vm position stamp
      (Program.run provider 0 (runSelected stamp db operation)) := by
  have marks : ∀ stage target, position = .pending stage → Placed db operation vm target →
      Selected db operation vm position stamp
        (Program.run provider 0 (runSelected stamp db operation)) := by
    intro stage target atStage isPlaced
    rcases runSelected_pending stamp isPlaced (fun _ => ready.hasKey) (atStage ▸ atPosition) with
      ⟨request, _, computed⟩
    rw [computed]
    exact .marked stage request target atStage isPlaced
  have reconciles : ∀ stage, position.Awaits stage →
      Selected db operation vm position stamp
        (Program.run provider 0 (runSelected stamp db operation)) := by
    intro stage awaits
    have started : position ≠ .pending .clone := by
      rcases awaits with rfl | rfl <;> simp
    rcases ready.placed_of_ne started with ⟨target, isPlaced⟩
    rcases atPosition.of_awaits awaits with ⟨_, processing, _⟩
    by_cases needsReview : stage.NeedsReview
    · rw [runSelected_needsReview stamp isPlaced atPosition awaits needsReview]
      exact .followed .reviewed [] _ _ rfl
        (Stage.reviewed_refines atPosition awaits needsReview) processing
    · rw [runSelected_awaiting stamp isPlaced atPosition awaits needsReview]
      have moves : ∀ answer, ∃ reached,
          (stage.reconciled stamp operation vm answer).Refines (.read answer) position operation
            vm reached :=
        fun answer => Stage.reconciled_refines answer atPosition awaits needsReview
      rcases moves (provider 0 (.getVmPowerState vm.id target.node target.vmid)) with
        ⟨reached, refines⟩
      exact .followed (.read _) _ _ reached ⟨target, isPlaced.node, isPlaced.vmid, rfl⟩ refines
        processing
  cases position with
  | pending stage =>
      rcases ready.placement with ⟨target, node, vmid⟩ | ⟨atClone, noNode, noVmid⟩
      · exact marks stage target rfl ⟨ready.vmStored, node, vmid⟩
      · cases atClone
        rcases runSelected_unplaced stamp ready.vmStored noNode noVmid
          ready.hasKey atPosition with ⟨request, _, computed⟩
        rw [computed, Program.run_call, Program.run_done]
        cases provider 0 (.chooseCloneTarget request) with
        | error error => exact .aborted request error rfl noVmid
        | ok target => exact .placed request target rfl noVmid
  | dispatching stage => exact reconciles stage (.inl rfl)
  | reconciling stage => exact reconciles stage (.inr rfl)
  | polling stage backoff =>
      rcases ready.placed_of_ne (by simp) with ⟨target, isPlaced⟩
      rcases runSelected_polling stamp isPlaced atPosition with ⟨taskId, task, computed⟩
      rw [computed]
      have moves : ∀ answer, ∃ reached, (stage.polled stamp operation vm answer).Refines
          (.polled answer) (.polling stage backoff) operation vm reached :=
        fun answer => Stage.polled_refines answer atPosition
      rcases moves (provider 0 (.getTaskStatus ⟨taskId, target.vmid, target.node⟩)) with
        ⟨reached, refines⟩
      exact .followed (.polled _) _ _ reached
        ⟨⟨taskId, target.vmid, target.node⟩, task, isPlaced.node, isPlaced.vmid, rfl⟩ refines
        atPosition.status
  | review stage => exact False.elim processed
  | succeeded operationType => exact False.elim processed
  | failed stage => exact False.elim processed

/-- Every storing transaction that commits is a move made on its outcome. -/
theorem storeOutcome_refines {before : Operation} {dispatched : Stage}
    {request : Option CreateVmRequest} {sentTo : ProviderPlacement} {stamp : Time}
    {outcome : Except Error ProviderResult} {changes : Changes}
    (stored : db.operation? before.id = some operation) (atPosition : position.Matches operation)
    (ready : ¬position.Terminal → Ready db operation vm position)
    (kind : operation.operationType = dispatched.operationType)
    (accepted : storeOutcome stamp db (dispatched.dispatch before request sentTo) outcome =
      .ok changes) :
    ∃ reached, changes.Refines (.outcome outcome) position operation vm reached := by
  have computed : (storeOutcome stamp db (dispatched.dispatch before request sentTo)
      outcome).toOption = some changes := by
    rw [accepted]
    rfl
  cases outcome with
  | error error =>
      exact Position.raised_refines atPosition
        ((storeUnknown_eq stamp stored atPosition kind).symm.trans computed)
  | ok result =>
      by_cases waits : ∃ current, position.Awaits current
      · rcases waits with ⟨current, awaits⟩
        have isReady : Ready db operation vm position :=
          ready (by rcases awaits with rfl | rfl <;> exact id)
        rcases isReady.placed_of_ne
          (by rcases awaits with rfl | rfl <;> simp) with ⟨target, isPlaced⟩
        exact Position.replied_refines atPosition
          ((storeOutcome_eq stamp (.ok result) stored isPlaced atPosition kind).symm.trans
            computed)
      · have refused : (storeOutcome stamp db (dispatched.dispatch before request sentTo)
            (.ok result)).toOption = none :=
          storeResult_of_not_awaiting stamp result stored atPosition kind (not_exists.mp waits)
        exact absurd (refused.symm.trans computed) (by simp)

end Transactions

end NpdPortal
