import NpdPortal.Runs.Machines

/-!
# Where calls and polls go

A dispatch names the placement of its VM, and so does the poll of a task.  A
placement is never changed, so every command and every poll of an operation
goes to one node and one VMID.
-/

namespace NpdPortal

/-- The placement a dispatch was made for. -/
def Dispatch.target : Dispatch → ProviderPlacement
  | .create _ _ _ _ target => target
  | .start _ _ target => target
  | .lifecycle _ _ _ target => target

/-- The node and the VMID which a command is called with. -/
def AdapterCall.target? : AdapterCall → Option ProviderPlacement
  | .cloneVm _ node vmid | .configureVm _ node vmid | .resizeVmDisk _ node vmid
  | .startVm _ node vmid | .shutdownVm _ node vmid | .stopVm _ node vmid
  | .deleteVm _ node vmid => some ⟨node, vmid⟩
  | _ => none

/-- The VM of the operation has this placement. -/
def Database.PlacedAt (db : Database) (operationId : Uuid) (target : ProviderPlacement) : Prop :=
  ∃ operation ∈ db.operations, operation.id = operationId ∧
    ∃ vm ∈ db.virtualMachines, vm.id = operation.virtualMachineId ∧
      vm.providerNode = some target.node ∧ vm.providerVmid = some target.vmid

section Targets

variable {world next : World} {history : List Event} {event : Event} {operation : Operation}

theorem Stage.dispatch_target (stage : Stage) (operation : Operation)
    (request : Option CreateVmRequest) (target : ProviderPlacement) :
    (stage.dispatch operation request target).target = target := by
  cases stage <;> rfl

theorem ProviderPlacement.eq_of_stored {vm : VirtualMachine} {first second : ProviderPlacement}
    (firstNode : vm.providerNode = some first.node) (firstVmid : vm.providerVmid = some first.vmid)
    (secondNode : vm.providerNode = some second.node)
    (secondVmid : vm.providerVmid = some second.vmid) : first = second := by
  cases first
  cases second
  simp_all

/-- An operation has one VM, which has one placement. -/
theorem Database.PlacedAt.unique {db : Database} {operationId : Uuid}
    {first second : ProviderPlacement} (isFirst : db.PlacedAt operationId first)
    (isSecond : db.PlacedAt operationId second) : first = second := by
  rcases isFirst with ⟨operation, stored, same, vm, vmMem, vmId, node, vmid⟩
  rcases isSecond with ⟨other, otherStored, otherSame, row, rowMem, rowId, otherNode, otherVmid⟩
  rcases KeyedRows.eq_of_key_eq db.valid.operationIds stored otherStored
    (same.trans otherSame.symm) with rfl
  rcases KeyedRows.eq_of_key_eq db.valid.vmIds vmMem rowMem (vmId.trans rowId.symm) with rfl
  exact ProviderPlacement.eq_of_stored node vmid otherNode otherVmid

/-- A step keeps every placement. -/
theorem Progress.placedAt (progress : Progress world event next) {operationId : Uuid}
    {target : ProviderPlacement} (placed : world.db.PlacedAt operationId target) :
    next.db.PlacedAt operationId target := by
  rcases placed with ⟨operation, stored, same, vm, vmMem, vmId, node, vmid⟩
  rcases progress.forward stored with ⟨updated, updatedMem, forward⟩
  rcases progress.onward vmMem with ⟨row, rowMem, onward⟩
  rcases onward.placement (by simp [vmid]) with ⟨sameNode, sameVmid⟩
  exact ⟨updated, updatedMem, forward.identity.id.trans same, row, rowMem,
    onward.id.trans (vmId.trans forward.identity.virtualMachineId.symm), sameNode.trans node,
    sameVmid.trans vmid⟩

/-- A selecting transaction polls the node and the VMID of the VM, and marks a dispatch for
them. -/
theorem selected_targets (reachable : portal.Reachable world) {exchanges : List Exchange}
    {committed : Option Operation}
    (step : portal.step world (.selected operation exchanges committed) next) :
    (∀ task answer, ⟨.getTaskStatus task, answer⟩ ∈ exchanges →
      operation.providerTaskId = some task.taskId ∧
        world.db.PlacedAt operation.id ⟨task.node, task.vmid⟩) ∧
    ∀ flight ∈ next.inFlight, flight ∈ world.inFlight ∨
      world.db.PlacedAt flight.dispatch.operationId flight.dispatch.target := by
  rcases step with ⟨action, step⟩
  cases action with
  | select now locked operationId provider stamp dbNow =>
      simp only [World.step?] at step
      split at step
      · cases step
      · rename_i chosen found
        split at step
        · rename_i selects
          rcases world.selectStep_label chosen provider stamp dbNow with
            ⟨made, stored, label⟩
          have labels := congrArg Prod.fst (Option.some.inj step)
          rw [label] at labels
          cases labels
          have result := Option.some.inj step
          clear step label
          have isStored := selects.stored
          rcases (sound_of_reachable reachable).db.ready isStored with
            ⟨position, vm, atPosition, vmMem, vmId, prepared⟩
          have processed := atPosition.processed_of_eligible selects.eligible
          have running : ¬position.Terminal := by
            cases position <;> first | exact id | exact absurd processed id
          have selected := runSelected_selected stamp provider (prepared running).1 atPosition
            processed
          unfold World.selectStep at result
          generalize Program.run provider 0 (runSelected stamp world.db operation) = ran
            at selected result
          cases selected with
          | aborted request error =>
              cases result
              exact ⟨by simp, fun flight inFlight => .inl inFlight⟩
          | placed request target =>
              simp only at result
              refine ⟨by split at result <;> cases result <;> simp, fun flight inFlight => .inl ?_⟩
              split at result <;> cases result <;> simpa using inFlight
          | marked stage request target atStage isPlaced =>
              simp only at result
              split at result <;> cases result
              · exact ⟨by simp, fun flight inFlight => .inl inFlight⟩
              · refine ⟨by simp, fun flight inFlight => ?_⟩
                rcases List.mem_append.mp inFlight with old | new
                · exact .inl old
                · obtain rfl : flight = .submitting (stage.dispatch operation request target) := by
                    simpa using new
                  simp only [Flight.dispatch, Stage.dispatch_operationId, Stage.dispatch_target]
                  exact .inr ⟨operation, isStored, rfl, vm, vmMem, vmId, isPlaced.node,
                    isPlaced.vmid⟩
          | followed evidence polls changes reached shows =>
              have same : exchanges = polls := by
                simp only at result
                split at result <;> cases result <;> rfl
              subst same
              refine ⟨fun task answer polled => ?_, fun flight inFlight => .inl ?_⟩
              · cases evidence with
                | polled status =>
                    rcases shows with ⟨own, stored, node, vmid, rfl⟩
                    rw [List.mem_singleton] at polled
                    cases polled
                    exact ⟨stored, operation, isStored, rfl, vm, vmMem, vmId, node, vmid⟩
                | placed target =>
                    rcases shows with ⟨_, request, rfl⟩
                    simp at polled
                | read state =>
                    rcases shows with ⟨target, _, _, rfl⟩
                    simp at polled
                | outcome outcome => exact shows.elim
                | _ =>
                    cases shows
                    simp at polled
              · simp only at result
                split at result <;> cases result <;> simpa using inFlight
        · cases step
  | createVm => simp [World.step?] at step
  | enqueue => simp [World.step?] at step
  | administer administration =>
      simp only [World.step?] at step
      split at step
      · cases step
      · split at step <;> cases step
  | submit index provider =>
      simp only [World.step?] at step
      split at step <;> cases step
  | store index stamp dbNow =>
      simp only [World.step?] at step
      split at step
      · split at step <;> cases step
      · cases step
  | lose index =>
      simp only [World.step?] at step
      split at step <;> cases step

/-- A command is called with the placement of its dispatch. -/
theorem Dispatch.submit_target (dispatch : Dispatch) (provider : Provider) {exchange : Exchange}
    (made : exchange ∈ (Program.run provider 0 dispatch.submit).1) :
    exchange.call.target? = some dispatch.target := by
  have uses : dispatch.submit.Uses fun call => call.target? = some dispatch.target := by
    cases dispatch with
    | create operationId vmId phase request target =>
        simp only [Dispatch.submit]
        cases request <;> simp only [found_some, found_none] <;> repeat' split
        all_goals first | exact trivial | exact ⟨rfl, fun answer => by cases answer <;> trivial⟩
    | start operationId vmId target =>
        exact ⟨rfl, fun answer => by cases answer <;> trivial⟩
    | lifecycle operationId vmId command target =>
        simp only [Dispatch.submit]
        repeat' split
        all_goals first | exact trivial | exact ⟨rfl, fun answer => by cases answer <;> trivial⟩
  exact uses.of_mem_run made

/-- Every dispatch was made for the placement which the VM of its operation has. -/
theorem placedAt_of_execution (execution : portal.Execution history world) :
    (∀ dispatch exchanges outcome, Event.submitted dispatch exchanges outcome ∈ history →
      world.db.PlacedAt dispatch.operationId dispatch.target ∧
        ∀ exchange ∈ exchanges, exchange.call.target? = some dispatch.target) ∧
    ∀ flight ∈ world.inFlight,
      world.db.PlacedAt flight.dispatch.operationId flight.dispatch.target := by
  refine execution.invariant (motive := fun history world =>
    (∀ dispatch exchanges outcome, Event.submitted dispatch exchanges outcome ∈ history →
      world.db.PlacedAt dispatch.operationId dispatch.target ∧
        ∀ exchange ∈ exchanges, exchange.call.target? = some dispatch.target) ∧
    ∀ flight ∈ world.inFlight,
      world.db.PlacedAt flight.dispatch.operationId flight.dispatch.target) ?_ ?_
  · rintro state rfl
    exact ⟨fun _ _ _ impossible => absurd impossible List.not_mem_nil,
      fun flight inFlight => absurd inFlight List.not_mem_nil⟩
  · rintro earlier state event later before ⟨submitted, flights⟩ step
    have progress := step_progress (sound_of_reachable before.reachable) step
    have flightsLater : ∀ flight ∈ later.inFlight,
        later.db.PlacedAt flight.dispatch.operationId flight.dispatch.target := by
      intro flight inFlight
      apply progress.placedAt
      cases progress with
      | submitted index dispatch provider submitting =>
          rcases List.mem_or_eq_of_mem_set inFlight with old | rfl
          · exact flights flight old
          · exact flights (.submitting dispatch) (List.mem_of_getElem? submitting)
      | stored => exact flights flight (List.mem_of_mem_eraseIdx inFlight)
      | refused => exact flights flight (List.mem_of_mem_eraseIdx inFlight)
      | lost => exact flights flight (List.mem_of_mem_eraseIdx inFlight)
      | marked =>
          rcases (selected_targets before.reachable step).2 flight inFlight with old | placed
          · exact flights flight old
          · exact placed
      | _ => exact flights flight inFlight
    refine ⟨fun dispatch exchanges outcome isMember => ?_, flightsLater⟩
    rcases List.mem_append.mp isMember with old | isLast
    · rcases submitted dispatch exchanges outcome old with ⟨placed, calls⟩
      exact ⟨progress.placedAt placed, calls⟩
    · rcases List.mem_singleton.mp isLast with rfl
      cases progress with
      | submitted index dispatch provider submitting =>
          refine ⟨?_, fun exchange made => dispatch.submit_target provider made⟩
          exact flights (.submitting dispatch) (List.mem_of_getElem? submitting)

end Targets

end NpdPortal
