import NpdPortal.Runs.Targets
import NpdPortal.Worker.Deployment

/-!
# One stage carried out

The three parts of an iteration while nothing goes wrong: the selecting
transaction commits, the adapter calls the command of the stage for the VM of
the operation, and the storing transaction accepts what it returned.
-/

namespace NpdPortal

open PyJson ProxmoxClient

/-- The request was built for this VM. -/
structure CreateVmRequest.FitsVm (request : CreateVmRequest) (vm : VirtualMachine) : Prop where
  vmId : request.vmId = vm.id
  imageId : request.imageId = vm.imageId
  storageGb : request.storageGb = vm.requestedStorageGb

/-- The worker is under way with the marked stage of this row. -/
structure Carries (db : Database) (dispatch : Dispatch) (row : Operation) (vm : VirtualMachine)
    (stage : Stage) (target : ProviderPlacement) (request : Option CreateVmRequest) : Prop where
  stored : row ∈ db.operations
  placed : Placed db row vm target
  atRow : (Position.dispatching stage).Matches row
  made : dispatch = stage.dispatch row request target
  asks : stage.operationType = .vmCreate → stage ≠ .initialStart →
    ∃ built, request = some built ∧ built.FitsVm vm

/-- The result ends the stage or starts a task of its VM. -/
def Stage.Accepts (stage : Stage) (target : ProviderPlacement) (result : ProviderResult) : Prop :=
  stage ≠ .clone ∧ stage.reply result = some .done ∨
    ∃ task, stage.reply result = some (.task task) ∧ task.node = target.node ∧
      task.vmid = target.vmid

/-! ## Selecting transactions -/

section Selecting

variable {world : World} {operation : Operation} {vm : VirtualMachine} {stage : Stage}
  {target : ProviderPlacement}

theorem fitsVm_of_buildCreateVmRequest {db : Database} {request : CreateVmRequest}
    (built : buildCreateVmRequest db vm = .ok request) : request.FitsVm vm := by
  simp only [buildCreateVmRequest, bind_eq_ok] at built
  rcases built with ⟨_, _, _, _, _, _, result⟩
  cases result
  exact ⟨rfl, rfl, rfl⟩

/-- The columns of a dispatch. -/
theorem Stage.dispatch_congr {row : Operation} (id : row.id = operation.id)
    (virtualMachineId : row.virtualMachineId = operation.virtualMachineId)
    (request : Option CreateVmRequest) :
    stage.dispatch operation request target = stage.dispatch row request target := by
  cases stage <;> simp only [Stage.dispatch, id, virtualMachineId]

/-- A pending operation of a placed VM is marked. -/
theorem World.selectStep_pending (stored : operation ∈ world.db.operations)
    (ready : Ready world.db operation vm (.pending stage))
    (status : vm.status ∈ (Position.pending stage).vmStatuses)
    (atStage : (Position.pending stage).Matches operation)
    (placed : Placed world.db operation vm target) (provider : Provider) (stamp dbNow : Time) :
    ∃ marked row request,
      world.selectStep operation provider stamp dbNow =
        (.selected operation [] (some row), ⟨marked, world.inFlight ++
          [.submitting (stage.dispatch operation request target)]⟩) ∧
      Moved world.db marked .marked operation row vm (.pending stage) (.dispatching stage)
        stage.markChange ∧
      Carries marked (stage.dispatch operation request target) row (stage.markChange.apply vm) stage
        target request := by
  rcases runSelected_pending stamp placed (fun _ => ready.hasKey) atStage with
    ⟨request, given, computed⟩
  rcases exists_marked stored placed atStage stamp dbNow with
    ⟨marked, row, flushed, rfl, rowMem, atRow, identity, placedAfter, _⟩
  rcases moved_of_flush stored ready status atStage (Stage.prepared_refines atStage)
    (fun _ => ⟨target, placed.node, placed.vmid⟩) flushed with ⟨change, moved⟩
  obtain rfl : change = stage.markChange := by
    cases moved.advance
    rfl
  refine ⟨marked, _, request, ?_, moved, rowMem, placedAfter, atRow,
    Stage.dispatch_congr identity.id identity.virtualMachineId request, ?_⟩
  · simp only [World.selectStep, computed, Program.run_done, flushed, moved.stored_updated,
      Option.toList_some, List.map_cons, List.map_nil]
  · intro creates notStart
    rcases given creates notStart with ⟨built, isBuilt, isRequest⟩
    rcases fitsVm_of_buildCreateVmRequest isBuilt with ⟨vmId, imageId, storageGb⟩
    refine ⟨built, isRequest, ?_, ?_, ?_⟩ <;> cases stage <;> assumption

/-- A create without a placement asks for one. -/
theorem World.selectStep_unplaced (stored : operation ∈ world.db.operations)
    (ready : Ready world.db operation vm (.pending .clone))
    (atClone : (Position.pending .clone).Matches operation) (unplaced : vm.providerVmid = none)
    (provider : Provider) (stamp dbNow : Time) :
    ∃ request, world.selectStep operation provider stamp dbNow =
      match provider 0 (.chooseCloneTarget request) with
      | .error error =>
          (.selected operation [⟨.chooseCloneTarget request, .error error⟩] none, world)
      | .ok target =>
          match world.db.flush dbNow operation
              ⟨operation, some ((VmChange.place target).apply vm)⟩ with
          | none => (.selected operation [⟨.chooseCloneTarget request, .ok target⟩] none, world)
          | some next => (.selected operation [⟨.chooseCloneTarget request, .ok target⟩]
              (some operation), ⟨next, world.inFlight⟩) := by
  have noNode : vm.providerNode = none := by
    rcases ready.placement with ⟨target, _, vmid⟩ | ⟨_, noNode, _⟩
    · simp [unplaced] at vmid
    · exact noNode
  rcases runSelected_unplaced stamp ready.vmStored noNode unplaced ready.hasKey atClone with
    ⟨request, _, computed⟩
  refine ⟨request, ?_⟩
  unfold World.selectStep
  rw [computed, Program.run_call, Program.run_done]
  cases provider 0 (.chooseCloneTarget request) with
  | error error => rfl
  | ok target =>
      simp only [Except.map]
      cases flushed : world.db.flush dbNow operation
          ⟨operation, some ((VmChange.place target).apply vm)⟩ with
      | none => rfl
      | some next =>
          have kept := Database.flush_operation? stored (.refl operation) flushed
          rw [show operation.onUpdate operation dbNow = operation from if_pos rfl] at kept
          simp [kept]

/-- A task is polled; the transaction commits if the columns take the answer. -/
theorem World.selectStep_polling {backoff : Bool} (stored : operation ∈ world.db.operations)
    (ready : Ready world.db operation vm (.polling stage backoff))
    (status : vm.status ∈ (Position.polling stage backoff).vmStatuses)
    (atStage : (Position.polling stage backoff).Matches operation)
    (provider : Provider) (stamp dbNow : Time) :
    ∃ task committed next,
      world.selectStep operation provider stamp dbNow =
        (.selected operation [⟨.getTaskStatus task, provider 0 (.getTaskStatus task)⟩] committed,
          ⟨next, world.inFlight⟩) ∧
      ((Evidence.polled (provider 0 (.getTaskStatus task))).Fits → committed.isSome) ∧
      ∀ row ∈ committed, ∃ reached change,
        Moved world.db next (.polled (provider 0 (.getTaskStatus task))) operation row vm
          (.polling stage backoff) reached change := by
  rcases ready.placed_of_ne (by simp) with ⟨target, placed⟩
  rcases runSelected_polling stamp placed atStage with ⟨taskId, isTask, computed⟩
  let task : ProviderTask := ⟨taskId, target.vmid, target.node⟩
  have moves : ∃ reached, (stage.polled stamp operation vm
      (provider 0 (.getTaskStatus task))).Refines (.polled (provider 0 (.getTaskStatus task)))
      (.polling stage backoff) operation vm reached := Stage.polled_refines _ atStage
  rcases moves with ⟨reached, refines⟩
  have vmMem := (Database.virtualMachine?_eq_some_iff.mp ready.vmStored).1
  simp only [World.selectStep, computed, Program.run_call, Program.run_done]
  cases flushed : world.db.flush dbNow operation
      (stage.polled stamp operation vm (provider 0 (.getTaskStatus task))) with
  | none =>
      refine ⟨task, none, world.db, rfl, fun fits => ?_, by simp⟩
      rcases refines.exists_flush dbNow stored vmMem (by simp) fits with ⟨next, written⟩
      simp [flushed] at written
  | some next =>
      rcases moved_of_flush stored ready status atStage refines (fun marked => by cases marked)
        flushed with ⟨change, moved⟩
      refine ⟨task, next.operation? operation.id, next, ?_, ?_, ?_⟩
      · simp only [Option.toList_none, List.map_nil, List.append_nil]
        rfl
      · exact fun _ => by rw [moved.stored_updated]; rfl
      · intro row found
        rcases Option.some.inj (moved.stored_updated.symm.trans found) with rfl
        exact ⟨reached, change, moved⟩

end Selecting

/-! ## What the adapter returns -/

section Returned

variable {adapter : HttpProxmoxAdapter} {server : HttpServer} {hosting : Hosting} {vmId : Uuid}
  {built : CreateVmRequest} {target : ProviderPlacement} {stage : Stage}

/-- A command that answers with a task answers with one of its VM. -/
theorem Stage.accepts_of_tasksAt {command : GuardedCommand (Option ProviderTask)}
    (tasksAt : command.TasksAt id target.node target.vmid) {value : Option ProviderTask}
    (returned : (Program.run server 0 (command.program adapter)).2 = .ok value)
    (replies : stage ≠ .clone ∧ stage ≠ .delete) : stage.Accepts target (.task value) := by
  have atTarget := tasksAt.returned returned
  cases value with
  | none => exact .inl ⟨replies.1, by cases stage <;> simp_all [Stage.reply]⟩
  | some task =>
      rcases atTarget task rfl with ⟨node, vmid, _⟩
      exact .inr ⟨task, by cases stage <;> simp_all [Stage.reply], node, vmid⟩

/-- The command of a stage after the clone is done or has a task of its VM, unless it is a
deletion that met a lock. -/
theorem Stage.accepts_of_returned (notClone : stage ≠ .clone)
    {value : (stage.command vmId built target).Answer}
    (returned : (Program.run server 0
      (adapter.perform (stage.command vmId built target))).2 = .ok value) :
    stage.Accepts target ((stage.command vmId built target).result value) ∨
      stage = .delete ∧ ∃ exchange ∈ (Program.run server 0
        (adapter.perform (stage.command vmId built target))).1,
          exchange.call = resourcesRequest ∧ ReportsLock target.node target.vmid exchange := by
  cases stage with
  | clone => exact absurd rfl notClone
  | configure =>
      have shape : adapter.perform (.configureVm built target.node target.vmid) =
          (configureCommand adapter built target.node target.vmid).program adapter :=
        adapter.perform_eq_program rfl
      left
      exact accepts_of_tasksAt (configureCommand_tasksAt built) (shape ▸ returned) (by simp)
  | resize =>
      have shape : adapter.perform (.resizeVmDisk built target.node target.vmid) =
          (resizeCommand adapter built target.node target.vmid).program adapter :=
        adapter.perform_eq_program rfl
      left
      exact accepts_of_tasksAt (resizeCommand_tasksAt built) (shape ▸ returned) (by simp)
  | initialStart | start | rebootStart =>
      have shape : adapter.perform (.startVm vmId target.node target.vmid) =
          (startCommand adapter vmId target.node target.vmid).program adapter :=
        adapter.perform_eq_program rfl
      left
      exact accepts_of_tasksAt startCommand_tasksAt (shape ▸ returned) (by simp)
  | shutdown | rebootShutdown =>
      have shape : adapter.perform (.shutdownVm vmId target.node target.vmid) =
          (shutdownCommand vmId target.node target.vmid).program adapter :=
        adapter.perform_eq_program rfl
      left
      exact accepts_of_tasksAt (powerOffCommand_tasksAt _ _) (shape ▸ returned) (by simp)
  | stop =>
      have shape : adapter.perform (.stopVm vmId target.node target.vmid) =
          (stopCommand vmId target.node target.vmid).program adapter :=
        adapter.perform_eq_program rfl
      left
      exact accepts_of_tasksAt (powerOffCommand_tasksAt _ _) (shape ▸ returned) (by simp)
  | delete =>
      rcases HttpProxmoxAdapter.delete_returned returned with rfl | ⟨taskId, rfl⟩ | ⟨_, locked⟩
      · exact .inl (.inl ⟨by simp, rfl⟩)
      · exact .inl (.inr ⟨_, rfl, rfl, rfl⟩)
      · exact .inr ⟨rfl, locked⟩

/-- A clone of a free VMID was requested and has a task. -/
theorem Stage.clone_accepts (free : hosting.Free target.vmid) {vmids : List ℤ}
    (listed : target.vmid ∈ vmids)
    (shows : ∀ exchange ∈ (Program.run server 0
      (adapter.perform (.cloneVm built target.node target.vmid))).1, hosting.Shows vmids exchange)
    {value : ProviderCloneResult}
    (returned : (Program.run server 0
      (adapter.perform (.cloneVm built target.node target.vmid))).2 = .ok value) :
    Stage.clone.Accepts target (.clone value) ∧ ∃ exchange ∈ (Program.run server 0
      (adapter.perform (.cloneVm built target.node target.vmid))).1,
        exchange.call.cloned? = some target.vmid := by
  rcases HttpProxmoxAdapter.clone_returned returned with
    ⟨body, resource, listing, owned⟩ | ⟨⟨taskId, rfl⟩, sent⟩
  · exfalso
    rcases listed_of_ownedIn owned with ⟨resources, isListed, only, _⟩
    have shown := shows _ listing
    simp only [Hosting.Shows, ok_bind, isListed] at shown
    have isShown : resources.any (hasVmid target.vmid) = true := by
      have resourceMem : resource ∈ resources.filter (hasVmid target.vmid) := by
        rw [only]
        exact List.mem_singleton_self resource
      rcases List.mem_filter.mp resourceMem with ⟨inList, isVmid⟩
      exact List.any_eq_true.mpr ⟨resource, inList, isVmid⟩
    rw [shown trivial target.vmid listed, decide_eq_true_eq] at isShown
    exact free.2.1 isShown
  · exact ⟨.inr ⟨_, rfl, rfl, rfl⟩, sent⟩

/-- The command of a stage requests no other clone and no other deletion than its own. -/
theorem Stage.made_own {exchange : HttpExchange} {vmid : ℤ}
    (made : exchange ∈ (Program.run server 0
      (adapter.perform (stage.command vmId built target))).1) :
    (exchange.call.cloned? = some vmid → stage = .clone ∧ vmid = target.vmid) ∧
      (exchange.call.deleted? = some vmid → stage = .delete ∧ vmid = target.vmid) := by
  constructor
  · intro cloned
    rcases HttpProxmoxAdapter.eq_cloneVm_of_made made cloned with ⟨request, node, isClone⟩
    cases stage <;> simp_all [Stage.command]
  · intro deleted
    rcases HttpProxmoxAdapter.eq_deleteVm_of_made made deleted with ⟨id, node, isDelete⟩
    cases stage <;> simp_all [Stage.command]

end Returned

/-! ## The stored outcome -/

section Storing

variable {db next : Database} {dispatch : Dispatch} {row : Operation} {vm : VirtualMachine}
  {stage : Stage} {target : ProviderPlacement} {request : Option CreateVmRequest}
  {result : ProviderResult} {stamp dbNow : Time}

theorem Carries.operationId (carries : Carries db dispatch row vm stage target request) :
    dispatch.operationId = row.id := by
  rw [carries.made, Stage.dispatch_operationId]

theorem Carries.dispatch_target (carries : Carries db dispatch row vm stage target request) :
    dispatch.target = target := by
  rw [carries.made, Stage.dispatch_target]

theorem Carries.refines (carries : Carries db dispatch row vm stage target request)
    {changes : Changes}
    (decided : stage.storing stamp row vm target (.ok result) = some changes) :
    ∃ reached, changes.Refines (.outcome (.ok result)) (.dispatching stage) row vm reached := by
  have shares : stage.Shares stage := .inl rfl
  have accepted : (Position.dispatching stage).replied stage stamp row vm target result =
      some changes := by
    simpa [Position.replied, shares, Stage.storing] using decided
  exact Position.replied_refines carries.atRow accepted

/-- A committed outcome is a move of the row. -/
theorem Carries.exists_moved (carries : Carries db dispatch row vm stage target request)
    (sound : db.Sound)
    (committed : World.storeDatabase db dispatch (.ok result) stamp dbNow = some next) :
    ∃ updated reached change, Moved db next (.outcome (.ok result)) row updated vm
      (.dispatching stage) reached change := by
  rw [carries.made, World.storeDatabase_eq carries.stored carries.placed carries.atRow rfl]
    at committed
  rcases Option.bind_eq_some_iff.mp committed with ⟨changes, decided, flushed⟩
  rcases carries.refines decided with ⟨reached, refines⟩
  rcases sound.ready carries.stored with ⟨position, own, atPosition, _, _, prepared⟩
  rcases atPosition.unique carries.atRow with rfl
  rcases prepared id with ⟨ready, status⟩
  rcases Option.some.inj (carries.placed.vmStored.symm.trans ready.vmStored) with rfl
  rcases moved_of_flush carries.stored ready status atPosition refines
    (fun marked => by cases marked) flushed with ⟨change, moved⟩
  exact ⟨_, reached, change, moved⟩

/-- An accepted outcome which the columns take commits. -/
theorem Carries.exists_store (carries : Carries db dispatch row vm stage target request)
    (accepts : stage.Accepts target result) (fits : (Evidence.outcome (.ok result)).Fits)
    (stamp dbNow : Time) :
    ∃ next, World.storeDatabase db dispatch (.ok result) stamp dbNow = some next := by
  rw [carries.made, World.storeDatabase_eq carries.stored carries.placed carries.atRow rfl]
  have decided : ∃ changes, stage.storing stamp row vm target (.ok result) = some changes := by
    rw [← Option.isSome_iff_exists]
    rcases accepts with ⟨_, done⟩ | ⟨task, isTask, node, vmid⟩
    · simp [Stage.storing, done, Stage.replied]
    · simp [Stage.storing, isTask, Stage.replied, node, vmid]
  rcases decided with ⟨changes, decided⟩
  rcases carries.refines decided with ⟨reached, refines⟩
  rw [decided, Option.bind_some]
  exact refines.exists_flush dbNow carries.stored
    (Database.virtualMachine?_eq_some_iff.mp carries.placed.vmStored).1 (by simp) fits

/-- Where an accepted outcome leads to. -/
theorem Advance.of_accepts {reached : Position} {change : VmChange}
    (advance : Advance (.outcome (.ok result)) (.dispatching stage) reached change)
    (accepts : stage.Accepts target result) :
    (reached = .polling stage false ∧ change = stage.taskChange) ∨
      (reached = stage.after ∧ change = stage.doneChange ∧ stage ≠ .clone) := by
  cases advance with
  | storeTask _ _ _ task isTask waiting =>
      rcases waiting with same | ⟨same, _⟩ <;> cases same
      exact .inl ⟨rfl, rfl⟩
  | storeDone _ _ done =>
      rcases accepts with ⟨notClone, _⟩ | ⟨task, isTask, _⟩
      · exact .inr ⟨rfl, rfl, notClone⟩
      · simp [done] at isTask
  | storeInProgress _ _ inProgress =>
      rcases accepts with ⟨_, done⟩ | ⟨task, isTask, _⟩
      · simp [inProgress] at done
      · simp [inProgress] at isTask

/-- The worker calls the command of the stage, for this VM. -/
theorem Carries.submit_eq (carries : Carries db dispatch row vm stage target request) :
    ∃ built : CreateVmRequest, built.FitsVm vm ∧
      dispatch.submit = .call (stage.command row.virtualMachineId built target) fun answer =>
        .done (answer.map (stage.command row.virtualMachineId built target).result) := by
  rw [carries.made]
  by_cases creates : stage.operationType = .vmCreate ∧ stage ≠ .initialStart
  · rcases carries.asks creates.1 creates.2 with ⟨built, isBuilt, fits⟩
    exact ⟨built, fits, stage.submit_eq row built target fun _ _ => isBuilt⟩
  · refine ⟨⟨vm.id, vm.imageId, 0, 0, vm.requestedStorageGb, ""⟩, ⟨rfl, rfl, rfl⟩, ?_⟩
    exact stage.submit_eq row _ target fun isCreate notStart => absurd ⟨isCreate, notStart⟩ creates

theorem Carries.vmid_mem (carries : Carries db dispatch row vm stage target request) :
    target.vmid ∈ db.providerVmids :=
  List.mem_filterMap.mpr ⟨vm,
    (Database.virtualMachine?_eq_some_iff.mp carries.placed.vmStored).1, carries.placed.vmid⟩

/-- The status of the VM fits the stage. -/
theorem Carries.status (carries : Carries db dispatch row vm stage target request)
    (sound : db.Sound) : vm.status ∈ (Position.dispatching stage).vmStatuses := by
  rcases sound.ready carries.stored with ⟨position, own, atPosition, _, _, prepared⟩
  rcases atPosition.unique carries.atRow with rfl
  rcases prepared id with ⟨ready, status⟩
  rcases Option.some.inj (carries.placed.vmStored.symm.trans ready.vmStored) with rfl
  exact status

end Storing

end NpdPortal
