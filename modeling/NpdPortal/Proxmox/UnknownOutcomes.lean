import NpdPortal.Proxmox.Ownership
import NpdPortal.Runs.Iteration

/-!
# Which outcomes are unknown

The worker does not look into an exception of the adapter: whether it was raised
before the command was sent or after it, the operation is left to the
reconciliation.  Of the answers only `in_progress` leads there.
-/

namespace NpdPortal

open PyString ProxmoxClient

/-- The text of an exception. -/
def ClientError.message : ClientError → String
  | http message | runtimeError message _ | valueError message _ | typeError message
  | resourceConflict message _ => message

/-- The adapter in front of a server, as it answers the calls of a worker. -/
def HttpProxmoxAdapter.provider (adapter : HttpProxmoxAdapter) (server : HttpServer) : Provider :=
  fun _ call =>
    match (Program.run server 0 (adapter.perform call)).2 with
    | .ok value => .ok value
    | .error error => .error (.provider error.message)

theorem HttpProxmoxAdapter.provider_of_ok {adapter : HttpProxmoxAdapter} {server : HttpServer}
    {call : AdapterCall} {value : call.Answer} (index : ℕ)
    (returned : (Program.run server 0 (adapter.perform call)).2 = .ok value) :
    adapter.provider server index call = .ok value := by
  unfold provider
  rw [returned]

theorem HttpProxmoxAdapter.provider_of_error {adapter : HttpProxmoxAdapter} {server : HttpServer}
    {call : AdapterCall} {error : ClientError} (index : ℕ)
    (raised : (Program.run server 0 (adapter.perform call)).2 = .error error) :
    adapter.provider server index call = .error (.provider error.message) := by
  unfold provider
  rw [raised]

theorem HttpProxmoxAdapter.returned_of_provider {adapter : HttpProxmoxAdapter}
    {server : HttpServer} {call : AdapterCall} {value : call.Answer} {index : ℕ}
    (answered : adapter.provider server index call = .ok value) :
    (Program.run server 0 (adapter.perform call)).2 = .ok value := by
  unfold provider at answered
  split at answered
  · rename_i own returned
    rw [returned, Except.ok.inj answered]
  · cases answered

/-- The command was not sent because an earlier one is still under way. -/
def AdapterCall.InProgress : (call : AdapterCall) → call.Answer → Prop
  | .cloneVm .., result => result = { state := .inProgress }
  | .deleteVm .., result => result = { state := .inProgress }
  | _, _ => False

/-- The outcome of the command of this stage is taken to be unknown. -/
structure Operation.OutcomeUnknown (operation : Operation) (stage : Stage) : Prop where
  status : operation.status = .processing
  phase : operation.phase = some stage.reconcilePhase
  task : operation.providerTaskId = none
  code : operation.lastErrorCode = some "provider_submit_unknown"

/-- What an iteration does whose dispatch is sent through the adapter: when the call raises, the
outcome is unknown, and of the answers only `in_progress` leads to the reconciliation. -/
def HttpProxmoxAdapter.LeavesUnknown (adapter : HttpProxmoxAdapter) (server : HttpServer)
    (world : World) (operation : Operation) (turn : Turn) (dispatch : Dispatch) : Prop :=
  ∃ stage call updated, (Position.pending stage).Matches operation ∧
    (Program.run turn.submitting 0 dispatch.submit).1 = [⟨call, turn.submitting 0 call⟩] ∧
    (world.runOnce operation turn).db.operation? operation.id = some updated ∧
    let made := Program.run server 0 (adapter.perform call)
    (∀ error, made.2 = .error error → updated.OutcomeUnknown stage) ∧
    (∀ value, made.2 = .ok value →
      (updated.phaseStartswith "reconcile" ↔ call.InProgress value) ∧
      (call.InProgress value → ∀ exchange ∈ made.1, ¬exchange.call.Mutates)) ∧
    ¬updated.phaseStartswith "needs_review"

section Commands

variable {adapter : HttpProxmoxAdapter} {α : Type} {command : GuardedCommand α}
  {server : HttpServer}

/-- A command that sends its request ends with what it makes of the answer. -/
theorem GuardedCommand.run_of_sends (sends : command.Sends adapter server) :
    ∃ index, (Program.run server 0 (command.program adapter)).2 =
      (do
        let body ← server index command.request
        let data ← dataOf body
        command.onAnswer data) := by
  rcases sends with ⟨passes, positive, body, resource, listing, owned, decided⟩
  unfold GuardedCommand.program
  rcases decided with decided | ⟨decided, answer, status, current, known, decides⟩
  · refine ⟨1, ?_⟩
    simp only [passes, if_pos positive, Program.run_call, listing, ok_bind, owned, decided,
      GuardedCommand.send, Program.run_done]
  · refine ⟨2, ?_⟩
    simp only [passes, if_pos positive, Program.run_call, listing, ok_bind, owned, decided, current,
      known, decides, GuardedCommand.send, Program.run_done]

/-- A command that ends with a value its request cannot give has not sent it. -/
theorem GuardedCommand.not_mutates_of_result {value : α}
    (returned : (Program.run server 0 (command.program adapter)).2 = .ok value)
    (unsent : ∀ data, command.onAnswer data ≠ .ok value) {exchange : HttpExchange}
    (made : exchange ∈ (Program.run server 0 (command.program adapter)).1) :
    ¬exchange.call.Mutates := by
  have silent : ¬command.Sends adapter server := by
    intro sends
    rcases GuardedCommand.run_of_sends sends with ⟨index, result⟩
    rw [returned] at result
    rcases bind_eq_ok.mp result.symm with ⟨body, _, rest⟩
    rcases bind_eq_ok.mp rest with ⟨data, _, answered⟩
    exact unsent data answered
  have traced := command.trace adapter server
  generalize (Program.run server 0 (command.program adapter)).1 = exchanges at *
  cases traced with
  | quiet _ reads => exact reads exchange made
  | sent body resource passes positive listing owned decides =>
      exact absurd ⟨passes, positive, body, resource, listing, owned, .inl decides⟩ silent
  | sentAfterStatus body answer resource status passes positive listing owned reads current known
      decides =>
      exact absurd ⟨passes, positive, body, resource, listing, owned,
        .inr ⟨reads, answer, status, current, known, decides⟩⟩ silent

/-- Nothing is sent when the adapter answers that the command is in progress. -/
theorem HttpProxmoxAdapter.not_mutates_of_inProgress {call : AdapterCall} {value : call.Answer}
    (returned : (Program.run server 0 (adapter.perform call)).2 = .ok value)
    (inProgress : call.InProgress value) {exchange : HttpExchange}
    (made : exchange ∈ (Program.run server 0 (adapter.perform call)).1) :
    ¬exchange.call.Mutates := by
  cases call <;> simp only [AdapterCall.InProgress] at inProgress
  case cloneVm request node vmid =>
    have shape : adapter.perform (.cloneVm request node vmid) =
        (cloneCommand adapter request node vmid).program adapter := adapter.perform_eq_program rfl
    rw [shape] at returned made
    refine GuardedCommand.not_mutates_of_result returned (fun data answered => ?_) made
    rcases bind_eq_ok.mp answered with ⟨task, _, result⟩
    simp [inProgress] at result
  case deleteVm portalVmId node vmid =>
    have shape : adapter.perform (.deleteVm portalVmId node vmid) =
        (deleteCommand adapter portalVmId node vmid).program adapter :=
      adapter.perform_eq_program rfl
    rw [shape] at returned made
    refine GuardedCommand.not_mutates_of_result returned (fun data answered => ?_) made
    rcases bind_eq_ok.mp answered with ⟨task, _, result⟩
    simp [inProgress] at result

end Commands

/-! ## The iteration -/

/-- The outcome of the command is unknown here. -/
def Position.reconciles : Position → Bool
  | .reconciling _ => true
  | _ => false

/-- The stage waits for an operator here. -/
def Position.reviews : Position → Bool
  | .review _ => true
  | _ => false

/-- The rows whose outcome is unknown, by their phase. -/
theorem Position.startswith_reconcile : ∀ position : Position, ∀ phase ∈ position.phases,
    startswith (phase.getD "") "reconcile" = position.reconciles := by
  decide +kernel

/-- The rows which wait for an operator, by their phase. -/
theorem Position.startswith_needsReview : ∀ position : Position, ∀ phase ∈ position.phases,
    startswith (phase.getD "") "needs_review" = position.reviews := by
  decide +kernel

/-- The storing transaction reads `in_progress` off the answers that say so. -/
theorem Stage.reply_eq_inProgress_iff (stage : Stage) (vmId : Uuid) (built : CreateVmRequest)
    (target : ProviderPlacement) (value : (stage.command vmId built target).Answer) :
    stage.reply ((stage.command vmId built target).result value) = some .inProgress ↔
      (stage.command vmId built target).InProgress value := by
  cases stage with
  | clone =>
      rcases value with ⟨_ | _ | _, _ | _⟩ <;>
        simp [command, AdapterCall.result, AdapterCall.InProgress, reply]
  | delete =>
      rcases value with ⟨_ | _ | _, _ | _⟩ <;>
        simp [command, AdapterCall.result, AdapterCall.InProgress, reply]
  | _ =>
      rcases value with _ | task <;>
        simp [command, AdapterCall.result, AdapterCall.InProgress, reply]

section Iterations

variable {world : World} {operation : Operation} {now : Time} {locked : List Uuid} {turn : Turn}

/-- An iteration that leaves a worker with a dispatch has marked a pending operation. -/
theorem exists_pending_of_dispatch (sound : world.Sound) (selects : Selects now locked world.db
      operation) {provider : Provider} {stamp dbNow : Time} {dispatch : Dispatch}
    (dispatches : (world.selectStep operation provider stamp dbNow).2.inFlight =
      world.inFlight ++ [.submitting dispatch]) :
    ∃ stage vm target, (Position.pending stage).Matches operation ∧
      Placed world.db operation vm target ∧ HasSshKey world.db vm := by
  rcases sound.db.ready selects.stored with ⟨position, vm, atPosition, _, _, prepared⟩
  have processed := atPosition.processed_of_eligible selects.eligible
  have running : ¬position.Terminal := by
    cases position <;> first | exact id | exact absurd processed id
  have ready := (prepared running).1
  have selected := runSelected_selected stamp provider ready atPosition processed
  have stays : world.inFlight ≠ world.inFlight ++ [.submitting dispatch] := by
    simp
  unfold World.selectStep at dispatches
  generalize Program.run provider 0 (runSelected stamp world.db operation) = ran
    at selected dispatches
  cases selected with
  | aborted request error atClone noVmid => exact absurd dispatches stays
  | placed request target atClone noVmid =>
      simp only at dispatches
      split at dispatches
      · exact absurd dispatches stays
      · simp at dispatches
  | marked stage request target atStage isPlaced =>
      exact ⟨stage, vm, target, atStage ▸ atPosition, isPlaced, ready.hasKey⟩
  | followed evidence exchanges changes reached shows refines processing =>
      simp only at dispatches
      split at dispatches
      · exact absurd dispatches stays
      · simp at dispatches

/-- A command whose call raised, before or after its request was sent, leaves its stage to the
reconciliation; of the answers only `in_progress` does, and then no request was sent. -/
theorem HttpProxmoxAdapter.unknown_of_dispatch (adapter : HttpProxmoxAdapter) (server : HttpServer)
    {dispatch : Dispatch} (reachable : portal.Reachable world)
    (selects : Selects now locked world.db operation)
    (asks : turn.submitting = adapter.provider server)
    (dispatches : (world.selectStep operation turn.selecting turn.stamp turn.dbNow).2.inFlight =
      world.inFlight ++ [.submitting dispatch]) :
    adapter.LeavesUnknown server world operation turn dispatch := by
  rcases exists_pending_of_dispatch (sound_of_reachable reachable) selects dispatches with
    ⟨stage, vm, target, atStage, placed, hasKey⟩
  rcases World.runOnce_pending selects.stored placed (fun _ => hasKey) atStage turn with
    ⟨built, marked, row, sent, _, _, _, rowMem, atRow, identity, placedAfter, sends, asked, ran⟩
  have same : sent = dispatch := by
    simpa using sends.symm.trans dispatches
  subst same
  let call := stage.command operation.virtualMachineId built target
  rcases exists_stored rowMem placedAfter atRow turn.storeStamp turn.storeDbNow
    ((turn.submitting 0 call).map call.result) with ⟨updated, found, sameRow, reaches⟩
  rw [identity.id] at found
  refine ⟨stage, call, updated, atStage, asked, ran ▸ found, ?_⟩
  intro made
  rw [asks] at reaches
  cases result : made.2 with
  | error error =>
      rw [adapter.provider_of_error 0 result] at reaches
      rcases reaches with ⟨atUpdated, code⟩
      refine ⟨fun _ _ => ⟨atUpdated.status, atUpdated.phase_of_reconciling,
        atUpdated.providerTaskId_eq_none rfl, code⟩, fun _ impossible => (nomatch impossible),
        fun reviewed => ?_⟩
      exact Bool.false_ne_true
        ((Position.startswith_needsReview _ _ atUpdated.phase).symm.trans reviewed)
  | ok value =>
      rw [adapter.provider_of_ok 0 result] at reaches
      have reads := stage.reply_eq_inProgress_iff operation.virtualMachineId built target value
      have decides : ∃ position : Position, position.Matches updated ∧ position.reviews = false ∧
          (position.reconciles = true ↔ call.InProgress value) := by
        by_cases inProgress : stage.reply (call.result value) = some .inProgress
        · have atUpdated : (Position.reconciling stage).Matches updated := by
            simpa [inProgress, Except.map] using reaches
          exact ⟨_, atUpdated, rfl, iff_of_true rfl (reads.mp inProgress)⟩
        · have notInProgress : ¬call.InProgress value := fun isSo => inProgress (reads.mpr isSo)
          have atUpdated : (Position.dispatching stage).Matches updated ∨
              (Position.polling stage false).Matches updated ∨ stage.after.Matches updated := by
            simpa [inProgress, Except.map] using reaches
          have unreconciled : ∀ position : Position, position.reconciles = false →
              (position.reconciles = true ↔ call.InProgress value) := by
            intro position other
            exact iff_of_false (by simp [other]) notInProgress
          rcases atUpdated with atMarker | atPolling | atNext
          · exact ⟨_, atMarker, rfl, unreconciled _ rfl⟩
          · exact ⟨_, atPolling, rfl, unreconciled _ rfl⟩
          · exact ⟨_, atNext, by cases stage <;> rfl, unreconciled _ (by cases stage <;> rfl)⟩
      rcases decides with ⟨position, atUpdated, unreviewed, reconciles⟩
      refine ⟨fun _ impossible => (nomatch impossible), fun other same => ?_, fun reviewed => ?_⟩
      · cases same
        refine ⟨?_, fun inProgress _ isMade =>
          adapter.not_mutates_of_inProgress result inProgress isMade⟩
        rw [← reconciles, ← Position.startswith_reconcile _ _ atUpdated.phase]
        rfl
      · have isReview := (Position.startswith_needsReview _ _ atUpdated.phase).symm.trans reviewed
        simp [unreviewed] at isReview

end Iterations

/-! ## A stop whose first request fails -/

/-- A running VM is to be stopped. -/
def samplePendingStop : List Action :=
  sampleRunningVm ++ [.enqueue ⟨0, 42, 6⟩ 1 31 .vmStop "stop"]

def samplePendingOperation : Operation := newLifecycleOperation 42 31 .vmStop "stop" 6

/-- A server that answers no request in time. -/
def unreachableServer : HttpServer := fun _ _ => .error (.http "timeout")

def sampleTurn : Turn where
  selecting := unavailableProvider
  submitting := sampleAdapter.provider unreachableServer
  stamp := 7
  dbNow := 7
  storeStamp := 8
  storeDbNow := 8

def samplePendingWorld : World := (World.initial.perform samplePendingStop).2

theorem samplePendingWorld_reachable : portal.Reachable samplePendingWorld :=
  World.perform_reachable samplePendingStop

set_option maxRecDepth 10000 in
theorem samplePendingOperation_selects :
    Selects 7 [] samplePendingWorld.db samplePendingOperation := by
  decide +kernel

def sampleDispatch : Dispatch := .lifecycle 42 31 "stop" ⟨"node", 100⟩

set_option maxRecDepth 10000 in
theorem samplePendingOperation_dispatched :
    (samplePendingWorld.selectStep samplePendingOperation sampleTurn.selecting sampleTurn.stamp
      sampleTurn.dbNow).2.inFlight = samplePendingWorld.inFlight ++ [.submitting sampleDispatch] :=
  rfl

theorem HttpProxmoxAdapter.unknown_of_dispatch_stop :
    sampleAdapter.LeavesUnknown unreachableServer samplePendingWorld samplePendingOperation
      sampleTurn sampleDispatch :=
  sampleAdapter.unknown_of_dispatch unreachableServer samplePendingWorld_reachable
    samplePendingOperation_selects rfl samplePendingOperation_dispatched

set_option maxRecDepth 10000 in
theorem samplePendingOperation_phase :
    ((samplePendingWorld.runOnce samplePendingOperation sampleTurn).db.operation? 42).map
      (·.phase) = some (some "reconcile_stop") := rfl

/-- The stop was not sent, and it will not be. -/
theorem HttpProxmoxAdapter.unsent_stop_unknown :
    ¬∀ (adapter : HttpProxmoxAdapter) (server : HttpServer) (world : World) (operation : Operation)
      (now : Time) (locked : List Uuid) (turn : Turn) (dispatch : Dispatch) (call : AdapterCall)
      (error : ClientError) (updated : Operation), portal.Reachable world →
      Selects now locked world.db operation → turn.submitting = adapter.provider server →
      (world.selectStep operation turn.selecting turn.stamp turn.dbNow).2.inFlight =
        world.inFlight ++ [.submitting dispatch] →
      (Program.run turn.submitting 0 dispatch.submit).1 = [⟨call, turn.submitting 0 call⟩] →
      (Program.run server 0 (adapter.perform call)).2 = .error error →
      (∀ exchange ∈ (Program.run server 0 (adapter.perform call)).1, ¬exchange.call.Mutates) →
      (world.runOnce operation turn).db.operation? operation.id = some updated →
      ¬updated.phaseStartswith "reconcile" ∧ ¬updated.phaseStartswith "needs_review" := by
  intro always
  rcases Option.map_eq_some_iff.mp samplePendingOperation_phase with ⟨updated, found, phase⟩
  have made : (Program.run unreachableServer 0
      (sampleAdapter.perform (.stopVm 31 "node" 100))) =
        ([⟨resourcesRequest, .error (.http "timeout")⟩], .error (.http "timeout")) := rfl
  have unreconciled := (always sampleAdapter unreachableServer samplePendingWorld
    samplePendingOperation 7 [] sampleTurn sampleDispatch (.stopVm 31 "node" 100)
    (.http "timeout") updated samplePendingWorld_reachable samplePendingOperation_selects rfl
    samplePendingOperation_dispatched rfl (by rw [made]) (by rw [made]; decide) found).1
  apply unreconciled
  unfold Operation.phaseStartswith
  rw [phase]
  decide

end NpdPortal
