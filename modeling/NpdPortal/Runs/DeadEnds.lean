import Mathlib.Data.Finset.Max
import NpdPortal.Library.Escaping
import NpdPortal.Proxmox.Unlocked
import NpdPortal.Runs.Undisturbed

/-!
# No dead ends

While no deletion has met a lock, the worker and the provider can always bring
every active operation to success.  What is left to do is counted, and a worker
in front of a provider without locks makes it less with every step.
-/

namespace NpdPortal

open PyJson ProxmoxClient

/-- A step of the worker or of the provider. -/
def DeploymentEvent.OfWorker : DeploymentEvent → Prop
  | .portal .requested _ | .portal .administered _ => False
  | _ => True

/-! ## What is left to do -/

/-- How many stages come after this one. -/
def Stage.later : Stage → ℕ
  | clone => 3
  | configure => 2
  | resize | rebootShutdown => 1
  | _ => 0

/-- More than the number of steps from here to the end of the operation. -/
def Position.left : Position → ℕ
  | pending stage => 5 * stage.later + 5
  | dispatching stage => 5 * stage.later + 2
  | polling stage _ => 5 * stage.later + 1
  | _ => 0

theorem Stage.after_left (stage : Stage) : stage.after.left ≤ 5 * stage.later := by
  cases stage <;> decide

open Classical in
/-- What is left of an operation, by its position. -/
noncomputable def Operation.left (operation : Operation) : ℕ :=
  if known : ∃ position : Position, position.Matches operation then known.choose.left else 0

theorem Position.Matches.left_eq {position : Position} {operation : Operation}
    (atPosition : position.Matches operation) : operation.left = position.left := by
  have known : ∃ position : Position, position.Matches operation := ⟨position, atPosition⟩
  rw [Operation.left, dif_pos known, known.choose_spec.unique atPosition]

/-- A VM without a placement is to be placed. -/
def VirtualMachine.left (vm : VirtualMachine) : ℕ :=
  if vm.providerVmid = none then 1 else 0

/-- A command may add a requested clone, which is to be created. -/
def Flight.left : Flight → ℕ
  | submitting _ => 2
  | storing _ _ => 0

/-- What is left of the work in the database. -/
noncomputable def Database.left (db : Database) : ℕ :=
  (db.operations.map Operation.left).sum + (db.virtualMachines.map VirtualMachine.left).sum

/-- What is left to do for the worker and the provider. -/
noncomputable def Deployment.left (state : Deployment) : ℕ :=
  state.world.db.left + (state.world.inFlight.map Flight.left).sum + state.hosting.cloning.card

section Moves

variable {db next : Database} {evidence : Evidence} {operation updated : Operation}
  {vm : VirtualMachine} {position reached : Position} {change : VmChange}

/-- What a move takes from the work. -/
theorem Moved.left_eq
    (moved : Moved db next evidence operation updated vm position reached change) :
    next.left + position.left + vm.left = db.left + reached.left + (change.apply vm).left := by
  have operations := KeyedRows.sum_replace Operation.left db.valid.operationIds moved.stored
    moved.identity.id.symm
  have vms := KeyedRows.sum_replace VirtualMachine.left db.valid.vmIds moved.vmMem
    (change.apply_id vm).symm
  rw [← moved.operations, moved.atPosition.left_eq, moved.atReached.left_eq] at operations
  rw [← moved.virtualMachines] at vms
  unfold Database.left
  omega

/-- A move that chooses no placement takes from the operation only. -/
theorem Moved.left_eq_of_kept
    (moved : Moved db next evidence operation updated vm position reached change)
    (notPlaced : ∀ target, evidence ≠ .placed target) :
    next.left + position.left = db.left + reached.left := by
  have kept : (change.apply vm).left = vm.left := by
    cases change with
    | place target => exact absurd rfl (moved.advance.ne_place notPlaced target)
    | _ => rfl
  have taken := moved.left_eq
  omega

theorem Moved.length_virtualMachines
    (moved : Moved db next evidence operation updated vm position reached change) :
    next.virtualMachines.length = db.virtualMachines.length := by
  rw [moved.virtualMachines, KeyedRows.replace, List.length_map]

/-- A move that fails no operation. -/
theorem Moved.not_failed
    (moved : Moved db next evidence operation updated vm position reached change)
    (notFailed : reached.status ≠ .failed) :
    ∀ other ∈ db.operations, other.status ≠ .failed →
      ∃ row ∈ next.operations, row.id = other.id ∧ row.status ≠ .failed := by
  intro other otherMem otherStatus
  by_cases same : other.id = operation.id
  · refine ⟨updated, (Database.operation?_eq_some_iff.mp moved.stored_updated).1, ?_, ?_⟩
    · rw [moved.identity.id, same]
    · rw [moved.atReached.status]
      exact notFailed
  · refine ⟨other, ?_, rfl, otherStatus⟩
    rw [moved.operations, KeyedRows.mem_replace, moved.identity.id]
    exact .inr ⟨otherMem, same⟩

end Moves

/-! ## Steps that bring the end nearer -/

/-- A step of the worker or of the provider, without a lock, which leaves less to do. -/
structure Deployment.Nears (adapter : HttpProxmoxAdapter) (state : Deployment)
    (label : DeploymentEvent) (next : Deployment) : Prop where
  step : (deployment adapter).step state label next
  ofWorker : label.OfWorker
  unlocked : ¬label.LockedDelete
  less : next.left < state.left
  vms : next.world.db.virtualMachines.length = state.world.db.virtualMachines.length
  notFailed : ∀ operation ∈ state.world.db.operations, operation.status ≠ .failed →
    ∃ row ∈ next.world.db.operations, row.id = operation.id ∧ row.status ≠ .failed

section Steps

variable {adapter : HttpProxmoxAdapter} {state : Deployment} {server : HttpServer}

/-- A possible step of the portal which goes right at the present time. -/
theorem Deployment.act_of_step (made : Event → List HttpExchange) {action : Action}
    {event : Event} {world : World} (stepped : World.step? action state.world = some (event, world))
    (faultFree : event.FaultFree) (now : ∀ time ∈ action.times, time = state.clock)
    (shows : ∀ exchange ∈ made event,
      state.hosting.Shows state.world.db.providerVmids exchange) :
    state.act made state.clock action = some (.portal event (made event),
      { world, hosting := state.hosting.after (made event), clock := state.clock }) := by
  have times : ∀ time ∈ state.clock :: action.times, state.clock ≤ time ∧ time ≤ state.clock := by
    intro time timeMem
    rcases List.mem_cons.mp timeMem with rfl | inAction
    · exact ⟨le_rfl, le_rfl⟩
    · rw [now time inAction]
      exact ⟨le_rfl, le_rfl⟩
  unfold act
  simp only [stepped, if_pos (And.intro faultFree (And.intro times shows))]

/-- An iteration that selects an operation; its transaction commits. -/
theorem Deployment.step_of_selects {operation row : Operation} {exchanges : List Exchange}
    {world : World} (alone : state.world.inFlight = [])
    (selects : Selects state.clock [] state.world.db operation)
    (ran : state.world.selectStep operation (adapter.provider server) state.clock state.clock =
      (.selected operation exchanges (some row), world))
    (returned : ∀ exchange ∈ exchanges, exchange.answer.isOk = true)
    (harmless : ∀ exchange ∈ exchanges, ¬exchange.call.Mutates)
    (shows : ∀ exchange ∈ adapter.made server (.selected operation exchanges (some row)),
      state.hosting.Shows state.world.db.providerVmids exchange) :
    (deployment adapter).step state
      (.portal (.selected operation exchanges (some row))
        (adapter.made server (.selected operation exchanges (some row))))
      { state with world } := by
  refine ⟨.select state.clock operation.id server state.clock state.clock state.clock, ?_⟩
  have stored : state.world.db.operation? operation.id = some operation :=
    Database.operation?_eq_some_iff.mpr ⟨selects.stored, rfl⟩
  have stepped : World.step? (.select state.clock [] operation.id (adapter.provider server)
      state.clock state.clock) state.world =
        some (.selected operation exchanges (some row), world) := by
    simp only [World.step?, stored, if_pos selects, ran]
  have acted := Deployment.act_of_step (adapter.made server) stepped returned
    (by simp [Action.times]) shows
  have unchanged : state.hosting.after
      (adapter.made server (.selected operation exchanges (some row))) = state.hosting :=
    Hosting.after_of_reads (HttpProxmoxAdapter.made_reads harmless)
  rw [unchanged] at acted
  simp only [Deployment.step?, alone, List.isEmpty_nil, if_true, acted]

end Steps

section Selecting

variable {adapter : HttpProxmoxAdapter} {state : Deployment} {operation : Operation}
  {vm : VirtualMachine} {stage : Stage}

/-- Between the iterations every active operation may be selected. -/
theorem Deployment.Undisturbed.eligible (undisturbed : state.Undisturbed adapter)
    (alone : state.world.inFlight = []) (stored : operation ∈ state.world.db.operations)
    (active : operation.Active) (now : Time) :
    (∃ stage, (Position.pending stage).Matches operation ∨
      (Position.polling stage false).Matches operation) ∧ operation.Eligible now := by
  rcases undisturbed.rows operation stored with ⟨position, atPosition, waits⟩
  have running := atPosition.active_iff.mp active
  have rests : position.Undisturbed := by
    rcases waits with rests | ⟨_, _, flight, inFlight, _⟩
    · exact rests
    · simp [alone] at inFlight
  cases rests with
  | pending stage => exact ⟨⟨stage, .inl atPosition⟩, atPosition.eligible_iff_due.mpr trivial⟩
  | polling stage => exact ⟨⟨stage, .inr atPosition⟩, atPosition.eligible_iff_due.mpr trivial⟩
  | succeeded operationType => exact absurd trivial running
  | failed stage => exact absurd trivial running

/-- The query selects one of them. -/
theorem Deployment.Undisturbed.exists_selects (undisturbed : state.Undisturbed adapter)
    (alone : state.world.inFlight = [])
    (active : ∃ operation ∈ state.world.db.operations, operation.Active) (now : Time) :
    ∃ operation, Selects now [] state.world.db operation ∧ operation.Active := by
  let chosen := (state.world.db.operations.filter fun operation => operation.Active).toFinset
  have nonempty : chosen.Nonempty := by
    rcases active with ⟨operation, stored, isActive⟩
    exact ⟨operation, by simp [chosen, stored, isActive]⟩
  rcases Finset.exists_min_image chosen (·.updatedAt) nonempty with ⟨operation, isChosen, oldest⟩
  have ⟨stored, isActive⟩ : operation ∈ state.world.db.operations ∧ operation.Active := by
    simpa [chosen] using isChosen
  refine ⟨operation, ⟨stored, List.not_mem_nil, ?_, ?_⟩, isActive⟩
  · exact (undisturbed.eligible alone stored isActive now).2
  · intro other otherMem _ eligible
    apply oldest
    simp [chosen, otherMem, (eligible_iff.mp eligible).1]

/-- A placed operation is marked. -/
theorem Deployment.exists_nears_of_pending {target : ProviderPlacement}
    (alone : state.world.inFlight = []) (selects : Selects state.clock [] state.world.db operation)
    (ready : Ready state.world.db operation vm (.pending stage))
    (status : vm.status ∈ (Position.pending stage).vmStatuses)
    (atStage : (Position.pending stage).Matches operation)
    (placed : Placed state.world.db operation vm target) :
    ∃ label next, state.Nears adapter label next := by
  let server := adapter.unlockedServer state.world.db.virtualMachines state.hosting.existing "" ""
  rcases World.selectStep_pending selects.stored ready status atStage placed
    (adapter.provider server) state.clock state.clock with
    ⟨marked, row, request, computed, moved, _⟩
  refine ⟨_, _, Deployment.step_of_selects alone selects computed (by simp) (by simp) ?_,
    trivial, not_false, ?_, moved.length_virtualMachines,
    moved.not_failed (by simp [Position.status])⟩
  · simp [HttpProxmoxAdapter.made, Event.exchanges]
  · have taken := moved.left_eq_of_kept (by simp)
    simp only [Deployment.left, alone, List.nil_append, List.map_cons, List.map_nil, List.sum_cons,
      List.sum_nil, Flight.left, Position.left] at taken ⊢
    omega

/-- A create gets a VMID that was never used. -/
theorem Deployment.exists_nears_of_unplaced (storable : Sql.FitsText adapter.targetNode)
    (few : state.world.db.virtualMachines.length < 2 ^ 31) (alone : state.world.inFlight = [])
    (selects : Selects state.clock [] state.world.db operation)
    (ready : Ready state.world.db operation vm (.pending .clone))
    (status : vm.status ∈ (Position.pending .clone).vmStatuses)
    (atClone : (Position.pending .clone).Matches operation) (unplaced : vm.providerVmid = none) :
    ∃ label next, state.Nears adapter label next := by
  have vmMem := (Database.virtualMachine?_eq_some_iff.mp ready.vmStored).1
  have fewer : state.world.db.providerVmids.length + 1 < 2 ^ 31 := by
    have oneUnplaced : state.world.db.providerVmids.length <
        state.world.db.virtualMachines.length :=
      List.length_filterMap_lt_length_iff_exists.mpr ⟨vm, vmMem, unplaced⟩
    omega
  rcases PyString.exists_int?_notMem fewer with ⟨offered, vmid, offers, positive, below, isNew⟩
  let server := adapter.unlockedServer state.world.db.virtualMachines state.hosting.existing
    offered ""
  let target : ProviderPlacement := { node := adapter.targetNode, vmid }
  rcases World.selectStep_unplaced selects.stored ready atClone unplaced (adapter.provider server)
    state.clock state.clock with ⟨request, computed⟩
  have answered : adapter.provider server 0 (.chooseCloneTarget request) = .ok target :=
    HttpProxmoxAdapter.provider_of_ok 0
      (adapter.chooseCloneTarget_unlocked state.world.db.virtualMachines request offers positive)
  have inRange : Sql.FitsInteger vmid := ⟨by omega, by exact_mod_cast below⟩
  have commits : ∃ next, state.world.db.flush state.clock operation
      ⟨operation, some ((VmChange.place target).apply vm)⟩ = some next :=
    (Database.placement_flush_iff state.clock selects.stored vmMem unplaced).mpr
      ⟨isNew, inRange, storable⟩
  rcases commits with ⟨next, flushed⟩
  rw [answered] at computed
  simp only [flushed] at computed
  rcases moved_of_flush selects.stored ready status atClone (placed_refines target atClone)
    (fun marked => by cases marked) flushed with ⟨change, moved⟩
  have isPlaced : change = .place target := by
    cases moved.advance
    rfl
  refine ⟨_, _, Deployment.step_of_selects alone selects computed ?_ ?_ ?_, trivial, not_false, ?_,
    moved.length_virtualMachines, moved.not_failed (by simp [Position.status])⟩
  · simp [Except.isOk, Except.toBool]
  · simp [AdapterCall.Mutates]
  · intro exchange made
    rcases List.mem_flatMap.mp made with ⟨called, _, madeBy⟩
    rcases Program.exists_answer_of_mem_run madeBy with ⟨n, isAnswer⟩
    exact HttpProxmoxAdapter.shows_unlocked isAnswer
  · have taken := moved.left_eq
    rw [isPlaced] at taken
    simp only [Deployment.left, VirtualMachine.left, VmChange.apply, unplaced, if_true,
      reduceCtorEq, if_false] at taken ⊢
    omega

/-- A task has succeeded when it is polled. -/
theorem Deployment.exists_nears_of_polling (alone : state.world.inFlight = [])
    (selects : Selects state.clock [] state.world.db operation)
    (ready : Ready state.world.db operation vm (.polling stage false))
    (status : vm.status ∈ (Position.polling stage false).vmStatuses)
    (atStage : (Position.polling stage false).Matches operation) :
    ∃ label next, state.Nears adapter label next := by
  let server := adapter.unlockedServer state.world.db.virtualMachines state.hosting.existing "" ""
  rcases World.selectStep_polling selects.stored ready status atStage (adapter.provider server)
    state.clock state.clock with ⟨task, committed, next, computed, commits, moves⟩
  have answered : adapter.provider server 0 (.getTaskStatus task) = .ok { status := .succeeded } :=
    HttpProxmoxAdapter.provider_of_ok 0
      (adapter.getTaskStatus_unlocked state.world.db.virtualMachines task)
  rw [answered] at computed commits moves
  rcases Option.isSome_iff_exists.mp (commits fun failed => by cases failed) with ⟨row, rfl⟩
  rcases moves row rfl with ⟨reached, change, moved⟩
  have isAfter : reached = stage.after := by
    cases moved.advance with
    | pollRunning _ _ _ running => cases running
    | pollSucceeded => rfl
    | pollFailed _ _ _ failed => cases failed
  refine ⟨_, _, Deployment.step_of_selects alone selects computed ?_ ?_ ?_, trivial, not_false, ?_,
    moved.length_virtualMachines, moved.not_failed ?_⟩
  · simp [Except.isOk, Except.toBool]
  · simp [AdapterCall.Mutates]
  · intro exchange made
    rcases List.mem_flatMap.mp made with ⟨called, _, madeBy⟩
    rcases Program.exists_answer_of_mem_run madeBy with ⟨n, isAnswer⟩
    exact HttpProxmoxAdapter.shows_unlocked isAnswer
  · have taken := moved.left_eq_of_kept (by simp)
    have atMost := stage.after_left
    have before : (Position.polling stage false).left = 5 * stage.later + 1 := rfl
    rw [isAfter] at taken
    simp only [Deployment.left]
    omega
  · rw [isAfter]
    cases stage <;> decide

/-- Between the iterations the next one brings the end nearer. -/
theorem Deployment.Undisturbed.exists_nears_of_alone (undisturbed : state.Undisturbed adapter)
    (storable : Sql.FitsText adapter.targetNode)
    (few : state.world.db.virtualMachines.length < 2 ^ 31) (alone : state.world.inFlight = [])
    (active : ∃ operation ∈ state.world.db.operations, operation.Active) :
    ∃ label next, state.Nears adapter label next := by
  rcases undisturbed.exists_selects alone active state.clock with
    ⟨operation, selects, isActive⟩
  rcases undisturbed.sound.db.ready selects.stored with ⟨position, vm, atPosition, _, _, prepared⟩
  rcases (undisturbed.eligible alone selects.stored isActive state.clock).1 with
    ⟨stage, atStage | atStage⟩
  · rcases atPosition.unique atStage with rfl
    rcases prepared id with ⟨ready, status⟩
    rcases ready.placement with ⟨target, node, vmid⟩ | ⟨atClone, _, unplaced⟩
    · exact exists_nears_of_pending alone selects ready status atStage
        ⟨ready.vmStored, node, vmid⟩
    · cases atClone
      exact exists_nears_of_unplaced storable few alone selects ready status atStage unplaced
  · rcases atPosition.unique atStage with rfl
    rcases prepared id with ⟨ready, status⟩
    exact exists_nears_of_polling alone selects ready status atStage

end Selecting

section Dispatches

variable {adapter : HttpProxmoxAdapter} {state : Deployment} {dispatch : Dispatch}
  {row : Operation} {vm : VirtualMachine} {stage : Stage} {target : ProviderPlacement}
  {request : Option CreateVmRequest} {result : ProviderResult}

/-- An accepted outcome is stored. -/
theorem Deployment.Undisturbed.exists_nears_of_storing (undisturbed : state.Undisturbed adapter)
    (flights : state.world.inFlight = [.storing dispatch (.ok result)])
    (carries : Carries state.world.db dispatch row vm stage target request)
    (accepts : stage.Accepts target result) (fits : (Evidence.outcome (.ok result)).Fits) :
    ∃ label next, state.Nears adapter label next := by
  rcases carries.exists_store accepts fits state.clock state.clock with ⟨db, committed⟩
  rcases carries.exists_moved undisturbed.sound.db committed with
    ⟨updated, reached, change, moved⟩
  have storing : state.world.inFlight[0]? = some (.storing dispatch (.ok result)) := by
    simp [flights]
  have stepped : World.step? (.store 0 state.clock state.clock) state.world =
      some (.stored dispatch (.ok result) true, ⟨db, state.world.inFlight.eraseIdx 0⟩) := by
    simp only [World.step?, storing, committed]
  have acted := Deployment.act_of_step (fun _ => []) stepped rfl (by simp [Action.times])
    (by simp)
  refine ⟨_, _, ⟨.store state.clock state.clock state.clock, acted⟩, trivial, not_false, ?_,
    moved.length_virtualMachines, moved.not_failed ?_⟩
  · have taken := moved.left_eq_of_kept (by simp)
    have before : (Position.dispatching stage).left = 5 * stage.later + 2 := rfl
    have atMost : reached.left ≤ 5 * stage.later + 1 := by
      rcases moved.advance.of_accepts accepts with ⟨rfl, _⟩ | ⟨rfl, _⟩
      · exact le_rfl
      · exact stage.after_left.trans (Nat.le_succ _)
    simp only [Deployment.left, flights, Hosting.after_nil, List.eraseIdx_cons_zero, List.map_nil,
      List.map_cons, List.sum_cons, List.sum_nil, Flight.left]
    omega
  · rcases moved.advance.of_accepts accepts with ⟨rfl, _⟩ | ⟨rfl, _⟩
    · simp [Position.status]
    · cases stage <;> decide

/-- A command whose VM shows is called. -/
theorem Deployment.Undisturbed.exists_nears_of_shown (undisturbed : state.Undisturbed adapter)
    (image : (imageMinStorageGb adapter.templateImageId).isSome = true)
    (flights : state.world.inFlight = [.submitting dispatch])
    (carries : Carries state.world.db dispatch row vm stage target request)
    (shown : stage ≠ .delete → (stage = .clone ↔ target.vmid ∉ state.hosting.existing)) :
    ∃ label next, state.Nears adapter label next := by
  rcases Database.virtualMachine?_eq_some_iff.mp carries.placed.vmStored with ⟨vmMem, vmId⟩
  have hosted := undisturbed.vms vm vmMem
  rcases hosted.placement target.vmid carries.placed.vmid with ⟨onTarget, positive⟩
  have isTarget : target.node = adapter.targetNode :=
    Option.some.inj (carries.placed.node.symm.trans onTarget)
  have sameImage : vm.imageId = adapter.templateImageId := by
    have allowed := hosted.image
    simp only [imageMinStorageGb] at allowed image
    split at allowed <;> split at image <;> simp_all
  rcases carries.submit_eq with ⟨built, fits, submits⟩
  let server := adapter.unlockedServer state.world.db.virtualMachines state.hosting.existing ""
    stage.expectedPower
  have returns : ∃ value, (Program.run server 0
      (adapter.perform (stage.command vm.id built target))).2 = .ok value ∧
      (Evidence.outcome (.ok ((stage.command vm.id built target).result value))).Fits :=
    stage.exists_returned vmMem carries.placed.vmid isTarget positive fits hosted.storage sameImage
      shown
  rw [vmId] at returns
  rcases returns with ⟨value, returned, taken⟩
  have answered : adapter.provider server 0 (stage.command row.virtualMachineId built target) =
      .ok value := HttpProxmoxAdapter.provider_of_ok 0 returned
  have submitting : state.world.inFlight[0]? = some (.submitting dispatch) := by simp [flights]
  let event : Event := .submitted dispatch
    [⟨stage.command row.virtualMachineId built target, .ok value⟩]
    (.ok ((stage.command row.virtualMachineId built target).result value))
  have stepped : World.step? (.submit 0 (adapter.provider server)) state.world =
      some (event, { state.world with inFlight := state.world.inFlight.set 0 (.storing dispatch
        (.ok ((stage.command row.virtualMachineId built target).result value))) }) := by
    simp only [World.step?, submitting, submits, Program.run_call, Program.run_done, answered]
    rfl
  have isMade : adapter.made server event = (Program.run server 0
      (adapter.perform (stage.command row.virtualMachineId built target))).1 := by
    simp [event, HttpProxmoxAdapter.made, Event.exchanges]
  have answers : ∀ exchange ∈ adapter.made server event,
      ∃ n, exchange.answer = server n exchange.call := by
    intro exchange made
    rw [isMade] at made
    exact Program.exists_answer_of_mem_run made
  have acted := Deployment.act_of_step (adapter.made server) stepped ⟨rfl, taken⟩
    (by simp [Action.times]) fun exchange made => by
      rcases answers exchange made with ⟨n, isAnswer⟩
      exact HttpProxmoxAdapter.shows_unlocked isAnswer
  refine ⟨_, _, ⟨.submit server state.clock, acted⟩, trivial, ?_, ?_, rfl,
    fun operation stored status => ⟨operation, stored, rfl, status⟩⟩
  · rintro ⟨_, node, vmid, _, exchange, made, isListing, locked⟩
    rcases answers exchange made with ⟨n, isAnswer⟩
    exact HttpProxmoxAdapter.not_reportsLock_unlocked isAnswer isListing locked
  · -- At most the clone of this VM is added to the requested ones.
    have cloning : (state.hosting.after (adapter.made server event)).cloning ⊆
        insert target.vmid state.hosting.cloning := by
      intro vmid vmidMem
      rcases Hosting.mem_after_cloning.mp vmidMem with before | ⟨exchange, made, cloned⟩
      · exact Finset.mem_insert_of_mem before
      · rw [isMade] at made
        exact Finset.mem_insert.mpr (.inl ((Stage.made_own made).1 cloned).2)
    have atMost := (Finset.card_le_card cloning).trans (Finset.card_insert_le _ _)
    simp only [Deployment.left, flights, List.set_cons_zero, List.map_nil, List.map_cons,
      List.sum_cons, List.sum_nil, Flight.left]
    omega

/-- The worker calls its command, once the VM has come into being. -/
theorem Deployment.Undisturbed.exists_nears_of_submitting (undisturbed : state.Undisturbed adapter)
    (image : (imageMinStorageGb adapter.templateImageId).isSome = true)
    (flights : state.world.inFlight = [.submitting dispatch])
    (carries : Carries state.world.db dispatch row vm stage target request) :
    ∃ label next, state.Nears adapter label next := by
  have vmMem := (Database.virtualMachine?_eq_some_iff.mp carries.placed.vmStored).1
  have status := carries.status undisturbed.sound.db
  have hosted := undisturbed.vms vm vmMem
  have notBusy : state.world.busyVmids = [] := by simp [World.busyVmids, flights]
  by_cases isClone : stage = .clone
  · subst isClone
    have free := hosted.absent (List.mem_singleton.mp status) target.vmid carries.placed.vmid
      (by simp [notBusy])
    exact undisturbed.exists_nears_of_shown image flights carries fun _ => by simp [free.2.1]
  by_cases isDelete : stage = .delete
  · exact undisturbed.exists_nears_of_shown image flights carries (absurd isDelete)
  by_cases present : target.vmid ∈ state.hosting.existing
  · exact undisturbed.exists_nears_of_shown image flights carries fun _ => by
      simp [isClone, present]
  · have live : vm.status.Live := by
      cases stage <;> simp_all [Position.vmStatuses, Stage.waitStatus, VmStatus.Live]
    have cloning : target.vmid ∈ state.hosting.cloning :=
      (hosted.present live target.vmid carries.placed.vmid).1.resolve_right present
    refine ⟨.created target.vmid, { state with hosting := state.hosting.create target.vmid },
      ⟨.create target.vmid, if_pos cloning⟩, trivial, not_false, ?_, rfl,
      fun operation stored failed => ⟨operation, stored, rfl, failed⟩⟩
    have fewer := Finset.card_erase_lt_of_mem cloning
    simp only [Deployment.left, Hosting.create]
    omega

end Dispatches

/-! ## Whole runs -/

section Runs

variable {adapter : HttpProxmoxAdapter} {state : Deployment}

/-- While there is an active operation, some step brings the end nearer. -/
theorem Deployment.Undisturbed.exists_nears (undisturbed : state.Undisturbed adapter)
    (image : (imageMinStorageGb adapter.templateImageId).isSome = true)
    (storable : Sql.FitsText adapter.targetNode)
    (few : state.world.db.virtualMachines.length < 2 ^ 31)
    (active : ∃ operation ∈ state.world.db.operations, operation.Active) :
    ∃ label next, state.Nears adapter label next := by
  rcases List.eq_nil_or_concat state.world.inFlight with alone | ⟨_, flight, _⟩
  · exact undisturbed.exists_nears_of_alone storable few alone active
  · cases flights : state.world.inFlight[0]? with
    | none => simp_all
    | some first =>
        have isOnly := World.eq_singleton undisturbed.alone flights
        cases undisturbed.flights first (List.mem_of_getElem? flights) with
        | submitting carries => exact undisturbed.exists_nears_of_submitting image isOnly carries
        | storing carries accepts fits =>
            exact undisturbed.exists_nears_of_storing isOnly carries accepts fits

/-- An undisturbed worker and the provider can go on until every active operation has succeeded. -/
theorem Deployment.Undisturbed.exists_run (undisturbed : state.Undisturbed adapter)
    (image : (imageMinStorageGb adapter.templateImageId).isSome = true)
    (storable : Sql.FitsText adapter.targetNode)
    (few : state.world.db.virtualMachines.length < 2 ^ 31) :
    ∃ later final, (deployment adapter).Run state later final ∧
      (∀ event ∈ later, event.OfWorker ∧ ¬event.LockedDelete) ∧
      ∀ operation ∈ state.world.db.operations, operation.Active →
        ∃ row ∈ final.world.db.operations, row.id = operation.id ∧ row.status = .succeeded := by
  let Good := fun next : Deployment => next.Undisturbed adapter ∧
    next.world.db.virtualMachines.length = state.world.db.virtualMachines.length ∧
    ∀ operation ∈ state.world.db.operations, operation.status ≠ .failed →
      ∃ row ∈ next.world.db.operations, row.id = operation.id ∧ row.status ≠ .failed
  let Ended := fun next : Deployment => ¬∃ operation ∈ next.world.db.operations, operation.Active
  have advance : ∀ next, Good next → ¬Ended next → ∃ history after,
      (deployment adapter).Run next history after ∧
        (∀ event ∈ history, event.OfWorker ∧ ¬event.LockedDelete) ∧ Good after ∧
        after.left < next.left := by
    intro next good notEnded
    rcases good.1.exists_nears image storable (good.2.1 ▸ few) (not_not.mp notEnded) with
      ⟨label, after, nears⟩
    refine ⟨[label], after, .snoc .nil nears.step, by simp [nears.ofWorker, nears.unlocked],
      ⟨good.1.step (step_progress nears.step) nears.unlocked, nears.vms.trans good.2.1, ?_⟩,
      nears.less⟩
    intro operation stored status
    rcases good.2.2 operation stored status with ⟨row, rowMem, same, rowStatus⟩
    rcases nears.notFailed row rowMem rowStatus with ⟨later, laterMem, sameLater, laterStatus⟩
    exact ⟨later, laterMem, sameLater.trans same, laterStatus⟩
  have atStart : Good state :=
    ⟨undisturbed, rfl, fun operation stored status => ⟨operation, stored, rfl, status⟩⟩
  rcases LabelledSystem.exists_run_of_rank advance atStart with
    ⟨later, final, run, allowed, good, ended⟩
  refine ⟨later, final, run, allowed, fun operation stored active => ?_⟩
  have notFailed : operation.status ≠ .failed := by
    rcases active with status | status <;> simp [status]
  rcases good.2.2 operation stored notFailed with ⟨row, rowMem, same, rowStatus⟩
  have notActive : ¬row.Active := fun active => ended ⟨row, rowMem, active⟩
  refine ⟨row, rowMem, same, ?_⟩
  cases status : row.status <;> simp_all [Operation.Active]

/-- Unless a deletion met a lock, the one worker, whose calls all return and whose outcomes are all
stored, and the provider can always go on until every active operation has succeeded. -/
theorem Deployment.exists_completion {history : List DeploymentEvent}
    (image : (imageMinStorageGb adapter.templateImageId).isSome = true)
    (storable : Sql.FitsText adapter.targetNode)
    (few : state.world.db.virtualMachines.length < 2 ^ 31)
    (execution : (deployment adapter).Execution history state)
    (unlocked : ∀ event ∈ history, ¬event.LockedDelete) :
    ∃ later final, (deployment adapter).Run state later final ∧
      (∀ event ∈ later, event.OfWorker ∧ ¬event.LockedDelete) ∧
      ∀ operation ∈ state.world.db.operations, operation.Active →
        ∃ row ∈ final.world.db.operations, row.id = operation.id ∧ row.status = .succeeded :=
  (undisturbed_of_execution execution unlocked).exists_run image storable few

end Runs

/-- A VM is requested and its placement is chosen. -/
def samplePlacing : List DeploymentAction :=
  [.request (.administer sampleAdministration) 0,
    .request (.createVm ⟨31, 41, 0⟩ 1 sampleRequest "create") 0,
    .select 1 41 (sampleImageAdapter.unlockedServer [] ∅ "100" "") 1 1 1]

set_option maxRecDepth 10000 in
/-- The requested VM can be created. -/
theorem samplePlacing_completion :
    let state := (Deployment.initial.perform sampleImageAdapter samplePlacing).2
    (state.world.db.virtualMachine? 31).map (·.providerVmid) = some (some 100) ∧ ∃ later final,
      (deployment sampleImageAdapter).Run state later final ∧
      ∃ row ∈ final.world.db.operations, row.id = 41 ∧ row.status = .succeeded := by
  intro state
  have notDeleted : ∀ event ∈ (Deployment.initial.perform sampleImageAdapter samplePlacing).1,
      event.deletes = false := by decide +kernel
  rcases Deployment.exists_completion (by decide) (by decide) (by decide +kernel)
    (Deployment.perform_execution sampleImageAdapter samplePlacing)
    (fun event eventMem => event.not_lockedDelete (notDeleted event eventMem)) with
    ⟨later, final, run, _, succeeds⟩
  refine ⟨by decide +kernel, later, final, run, ?_⟩
  exact succeeds (newCreateOperation 41 31 "create" 0) (by decide +kernel) (.inl rfl)

end NpdPortal
