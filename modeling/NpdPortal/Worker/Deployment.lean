import NpdPortal.Proxmox.Hosting

/-!
# The portal with its worker and the provider

One worker, whose adapter is `HttpProxmoxAdapter`, and the web application in
front of a provider.  No call raises and the worker does not crash: every call
of its adapter returns what the columns take, and every outcome is stored.
-/

namespace NpdPortal

/-- The portal and the provider at a time. -/
structure Deployment where
  world : World
  hosting : Hosting
  clock : Time

/-- What is observable of a step. -/
inductive DeploymentEvent where
  /-- A step of the portal and the HTTP requests made in it. -/
  | portal (event : Event) (made : List HttpExchange)
  /-- A requested clone came into being. -/
  | created (vmid : ℤ)
  /-- A resource was deleted as requested. -/
  | removed (vmid : ℤ)

/-- The choices of the environment for one step. -/
inductive DeploymentAction where
  | request (action : Action) (clock : Time)
  | select (now : Time) (operationId : Uuid) (server : HttpServer) (stamp dbNow clock : Time)
  | submit (server : HttpServer) (clock : Time)
  | store (stamp dbNow clock : Time)
  | create (vmid : ℤ)
  | remove (vmid : ℤ)

/-- The calls of the adapter in a step. -/
def Event.exchanges : Event → List Exchange
  | .selected _ exchanges _ | .submitted _ exchanges _ => exchanges
  | _ => []

/-- Nothing went wrong in the step. -/
def Event.FaultFree : Event → Prop
  | .requested | .administered => True
  | .selected _ exchanges _ => ∀ exchange ∈ exchanges, exchange.answer.isOk = true
  | .submitted _ _ outcome => outcome.isOk = true ∧ (Evidence.outcome outcome).Fits
  | .stored _ _ committed => committed = true
  | .lost _ => False

instance : DecidablePred Event.FaultFree := fun event => by
  cases event <;> unfold Event.FaultFree <;> infer_instance

/-- A step of the web application. -/
def Action.IsRequest : Action → Prop
  | .createVm .. | .enqueue .. | .administer _ => True
  | _ => False

instance : DecidablePred Action.IsRequest
  | .createVm .. | .enqueue .. | .administer _ => instDecidableTrue
  | .select .. | .submit .. | .store .. | .lose _ => instDecidableFalse

/-- The times which the environment chooses in a step. -/
def Action.times : Action → List Time
  | .createVm context .. | .enqueue context .. => [context.now]
  | .select now _ _ _ stamp dbNow => [now, stamp, dbNow]
  | .store _ stamp dbNow => [stamp, dbNow]
  | .administer _ | .submit .. | .lose _ => []

/-- The HTTP requests of the adapter in a step. -/
def HttpProxmoxAdapter.made (adapter : HttpProxmoxAdapter) (server : HttpServer) (event : Event) :
    List HttpExchange :=
  event.exchanges.flatMap fun exchange => (Program.run server 0 (adapter.perform exchange.call)).1

theorem HttpProxmoxAdapter.made_reads {adapter : HttpProxmoxAdapter} {server : HttpServer}
    {event : Event} (reads : ∀ exchange ∈ event.exchanges, ¬exchange.call.Mutates) :
    ∀ exchange ∈ adapter.made server event, ¬exchange.call.Mutates := by
  intro exchange exchangeMem
  rcases List.mem_flatMap.mp exchangeMem with ⟨called, calledMem, madeBy⟩
  exact (adapter.perform_reads (reads called calledMem)).of_mem_run madeBy

namespace Deployment

/-- A step of the portal in which nothing goes wrong and whose resource lists are right. -/
def act (state : Deployment) (made : Event → List HttpExchange) (clock : Time) (action : Action) :
    Option (DeploymentEvent × Deployment) :=
  match World.step? action state.world with
  | none => none
  | some (event, world) =>
      if event.FaultFree ∧ (∀ time ∈ clock :: action.times, state.clock ≤ time ∧ time ≤ clock) ∧
          ∀ exchange ∈ made event, state.hosting.Shows state.world.db.providerVmids exchange then
        some (.portal event (made event),
          { world, hosting := state.hosting.after (made event), clock })
      else none

/-- One step; `none` when the action is not possible in this state. -/
def step? (adapter : HttpProxmoxAdapter) (action : DeploymentAction) (state : Deployment) :
    Option (DeploymentEvent × Deployment) :=
  match action with
  | .request action clock =>
      if action.IsRequest then state.act (fun _ => []) clock action else none
  | .select now operationId server stamp dbNow clock =>
      -- The worker has stored the outcome of its last dispatch.
      if state.world.inFlight.isEmpty then
        state.act (adapter.made server) clock
          (.select now [] operationId (adapter.provider server) stamp dbNow)
      else none
  | .submit server clock =>
      state.act (adapter.made server) clock (.submit 0 (adapter.provider server))
  | .store stamp dbNow clock => state.act (fun _ => []) clock (.store 0 stamp dbNow)
  | .create vmid =>
      if vmid ∈ state.hosting.cloning then
        some (.created vmid, { state with hosting := state.hosting.create vmid })
      else none
  | .remove vmid =>
      if vmid ∈ state.hosting.existing ∧ vmid ∈ state.hosting.deleting then
        some (.removed vmid, { state with hosting := state.hosting.remove vmid })
      else none

end Deployment

/-- The portal with one worker that is never disturbed. -/
def deployment (adapter : HttpProxmoxAdapter) : LabelledSystem Deployment DeploymentEvent :=
  LabelledSystem.ofFunction (fun state => state.world = .initial ∧ state.hosting = .empty)
    (Deployment.step? adapter)

/-! ## The steps -/

/-- Everything a step can do. -/
inductive Deployment.Progress (adapter : HttpProxmoxAdapter) (state : Deployment) :
    DeploymentEvent → Deployment → Prop where
  | requested (action : Action) (event : Event) (world : World) (clock : Time)
      (isRequest : action.IsRequest)
      (step : World.step? action state.world = some (event, world)) :
      Progress adapter state (.portal event []) { state with world, clock }
  /-- The worker selected an operation. -/
  | selected (now stamp dbNow clock : Time) (server : HttpServer) (operation : Operation)
      (committed : Option Operation) (exchanges : List Exchange) (world : World)
      (alone : state.world.inFlight = [])
      (selects : Selects now [] state.world.db operation)
      (ran : state.world.selectStep operation (adapter.provider server) stamp dbNow =
        (.selected operation exchanges committed, world))
      (returned : ∀ exchange ∈ exchanges, exchange.answer.isOk = true)
      (shows : ∀ exchange ∈ adapter.made server (.selected operation exchanges committed),
        state.hosting.Shows state.world.db.providerVmids exchange) :
      Progress adapter state
        (.portal (.selected operation exchanges committed)
          (adapter.made server (.selected operation exchanges committed)))
        { world, clock
          hosting := state.hosting.after
            (adapter.made server (.selected operation exchanges committed)) }
  /-- The worker called its adapter, which returned. -/
  | submitted (clock : Time) (server : HttpServer) (dispatch : Dispatch)
      (exchanges : List Exchange) (result : ProviderResult)
      (submitting : state.world.inFlight[0]? = some (.submitting dispatch))
      (ran : Program.run (adapter.provider server) 0 dispatch.submit = (exchanges, .ok result))
      (fits : (Evidence.outcome (.ok result)).Fits)
      (shows : ∀ exchange ∈ adapter.made server (.submitted dispatch exchanges (.ok result)),
        state.hosting.Shows state.world.db.providerVmids exchange) :
      Progress adapter state
        (.portal (.submitted dispatch exchanges (.ok result))
          (adapter.made server (.submitted dispatch exchanges (.ok result))))
        { clock
          world := { state.world with
            inFlight := state.world.inFlight.set 0 (.storing dispatch (.ok result)) }
          hosting := state.hosting.after
            (adapter.made server (.submitted dispatch exchanges (.ok result))) }
  /-- The worker stored an outcome. -/
  | stored (stamp dbNow clock : Time) (dispatch : Dispatch)
      (outcome : Except Error ProviderResult) (db : Database)
      (storing : state.world.inFlight[0]? = some (.storing dispatch outcome))
      (committed : World.storeDatabase state.world.db dispatch outcome stamp dbNow = some db) :
      Progress adapter state (.portal (.stored dispatch outcome true) [])
        { state with clock, world := ⟨db, state.world.inFlight.eraseIdx 0⟩ }
  | created (vmid : ℤ) (cloning : vmid ∈ state.hosting.cloning) :
      Progress adapter state (.created vmid)
        { state with hosting := state.hosting.create vmid }
  | removed (vmid : ℤ) (existing : vmid ∈ state.hosting.existing)
      (deleting : vmid ∈ state.hosting.deleting) :
      Progress adapter state (.removed vmid)
        { state with hosting := state.hosting.remove vmid }

section Steps

variable {adapter : HttpProxmoxAdapter} {state next : Deployment} {label : DeploymentEvent}

theorem Deployment.act_eq_some {made : Event → List HttpExchange} {clock : Time} {action : Action}
    (acted : state.act made clock action = some (label, next)) :
    ∃ event world, World.step? action state.world = some (event, world) ∧ event.FaultFree ∧
      (∀ exchange ∈ made event,
        state.hosting.Shows state.world.db.providerVmids exchange) ∧
      label = .portal event (made event) ∧
      next = { world, hosting := state.hosting.after (made event), clock } := by
  unfold act at acted
  split at acted
  · cases acted
  · rename_i event world stepped
    split at acted <;> cases acted
    rename_i allowed
    exact ⟨event, world, stepped, allowed.1, allowed.2.2, rfl, rfl⟩

theorem Deployment.step_progress (step : (deployment adapter).step state label next) :
    state.Progress adapter label next := by
  rcases step with ⟨action, step⟩
  cases action with
  | request action clock =>
      simp only [step?] at step
      split at step
      · rename_i isRequest
        rcases act_eq_some step with ⟨event, world, stepped, _, _, rfl, rfl⟩
        rw [Hosting.after_nil]
        exact .requested action event world clock isRequest stepped
      · cases step
  | select now operationId server stamp dbNow clock =>
      simp only [step?] at step
      split at step
      · rename_i alone
        rcases act_eq_some step with ⟨event, world, stepped, faultFree, shows, rfl, rfl⟩
        simp only [World.step?] at stepped
        split at stepped
        · cases stepped
        · rename_i operation _
          split at stepped
          · rename_i selects
            rcases state.world.selectStep_label operation (adapter.provider server) stamp dbNow with
              ⟨exchanges, committed, isLabel⟩
            have ran := Option.some.inj stepped
            rw [ran] at isLabel
            cases isLabel
            exact .selected now stamp dbNow clock server operation committed exchanges world
              (List.isEmpty_iff.mp alone) selects ran faultFree shows
          · cases stepped
      · cases step
  | submit server clock =>
      rcases act_eq_some step with ⟨event, world, stepped, faultFree, shows, rfl, rfl⟩
      simp only [World.step?] at stepped
      split at stepped
      · rename_i dispatch submitting
        generalize isRun : Program.run (adapter.provider server) 0 dispatch.submit = ran at stepped
        rcases ran with ⟨exchanges, outcome⟩
        cases stepped
        cases outcome with
        | error error => cases faultFree.1
        | ok result =>
            exact .submitted clock server dispatch exchanges result submitting isRun faultFree.2
              shows
      · cases stepped
  | store stamp dbNow clock =>
      rcases act_eq_some step with ⟨event, world, stepped, faultFree, _, rfl, rfl⟩
      simp only [World.step?] at stepped
      split at stepped
      · rename_i dispatch outcome storing
        split at stepped <;> cases stepped
        · rename_i db committed
          rw [Hosting.after_nil]
          exact .stored stamp dbNow clock dispatch outcome db storing committed
        · cases faultFree
      · cases stepped
  | create vmid =>
      simp only [step?] at step
      split at step <;> cases step
      exact .created vmid ‹_›
  | remove vmid =>
      simp only [step?] at step
      split at step <;> cases step
      rename_i present
      exact .removed vmid present.1 present.2

/-- A step of the portal within a deployment is a step of the portal. -/
theorem Deployment.Progress.portal_step {event : Event} {made : List HttpExchange}
    (progress : state.Progress adapter (.portal event made) next) :
    portal.step state.world event next.world := by
  cases progress with
  | requested action event world clock isRequest step => exact ⟨action, step⟩
  | selected now stamp dbNow clock server operation committed exchanges world alone selects ran =>
      refine ⟨.select now [] operation.id (adapter.provider server) stamp dbNow, ?_⟩
      have stored : state.world.db.operation? operation.id = some operation :=
        Database.operation?_eq_some_iff.mpr ⟨selects.stored, rfl⟩
      simp only [World.step?, stored, if_pos selects, ran]
  | submitted clock server dispatch exchanges result submitting ran =>
      exact ⟨.submit 0 (adapter.provider server), by simp only [World.step?, submitting, ran]⟩
  | stored stamp dbNow clock dispatch outcome db storing committed =>
      exact ⟨.store 0 stamp dbNow, by simp only [World.step?, storing, committed]⟩

/-- The label of a request. -/
theorem World.event_of_request {world next : World} {action : Action} {event : Event}
    (isRequest : action.IsRequest) (step : World.step? action world = some (event, next)) :
    event = .requested ∨ event = .administered := by
  cases action with
  | createVm | enqueue =>
      cases step
      exact .inl rfl
  | administer administration =>
      simp only [World.step?] at step
      split at step
      · cases step
      · split at step <;> cases step
        exact .inr rfl
  | _ => cases isRequest

/-- A transaction that was rolled back has changed nothing. -/
theorem Deployment.Progress.eq_of_aborted {operation : Operation} {exchanges : List Exchange}
    {made : List HttpExchange} (sound : state.world.Sound)
    (progress : state.Progress adapter (.portal (.selected operation exchanges none) made) next) :
    next = { state with clock := next.clock } := by
  have kept : next.world = state.world ∧ ∀ exchange ∈ exchanges, ¬exchange.call.Mutates := by
    have portalProgress := NpdPortal.step_progress sound progress.portal_step
    generalize next.world = later at portalProgress
    cases portalProgress with
    | aborted _ _ _ harmless => exact ⟨rfl, harmless⟩
  cases progress with
  | requested action _ _ _ isRequest served =>
      rcases World.event_of_request isRequest served with same | same <;> cases same
  | selected now stamp dbNow clock server operation committed exchanges world =>
      have reads : ∀ exchange ∈ adapter.made server (.selected operation exchanges none),
          ¬exchange.call.Mutates := HttpProxmoxAdapter.made_reads kept.2
      obtain rfl : world = state.world := kept.1
      rw [Hosting.after_of_reads reads]

/-- The portal of a deployment is the portal. -/
theorem deployment_refines (adapter : HttpProxmoxAdapter) :
    (deployment adapter).Refines portal Deployment.world where
  initial state isInitial := isInitial.1
  step {state label next} _ step := by
    have progress := Deployment.step_progress step
    cases label with
    | portal event made => exact .inr ⟨event, progress.portal_step⟩
    | created vmid =>
        cases progress
        exact .inl rfl
    | removed vmid =>
        cases progress
        exact .inl rfl

theorem Deployment.sound_of_reachable (reachable : (deployment adapter).Reachable state) :
    state.world.Sound :=
  NpdPortal.sound_of_reachable ((deployment_refines adapter).reachable reachable)

end Steps

/-! ## Concrete runs -/

namespace Deployment

/-- Before the first request. -/
def initial : Deployment := ⟨.initial, .empty, 0⟩

variable (adapter : HttpProxmoxAdapter)

/-- Perform actions one after another; the state is left as it is when one of them is not
possible. -/
def perform (state : Deployment) (actions : List DeploymentAction) :
    List DeploymentEvent × Deployment :=
  (LabelledSystem.perform (step? adapter) actions state).getD ([], state)

theorem perform_run (state : Deployment) (actions : List DeploymentAction) :
    (deployment adapter).Run state (state.perform adapter actions).1
      (state.perform adapter actions).2 := by
  unfold perform
  cases performed : LabelledSystem.perform (step? adapter) actions state with
  | none => exact .nil
  | some outcome => exact LabelledSystem.run_of_perform performed

theorem perform_execution (actions : List DeploymentAction) :
    (deployment adapter).Execution (initial.perform adapter actions).1
      (initial.perform adapter actions).2 :=
  ⟨initial, ⟨rfl, rfl⟩, initial.perform_run adapter actions⟩

end Deployment

/-- An adapter whose template has the image which the portal allows. -/
def sampleImageAdapter : HttpProxmoxAdapter :=
  { sampleAdapter with templateImageId := "almalinux-9" }

end NpdPortal
