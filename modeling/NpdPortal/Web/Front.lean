import NpdPortal.Identity.Soundness
import NpdPortal.Identity.Csrf
import NpdPortal.Web.Serial

/-!
# From the cookie to the row

The VM endpoints that change something run `verify_csrf` and `get_current_user`
before their service.  Here the three are put together: a request enters the
site only after both have let it pass, and with the user that the second one
returned.
-/

namespace NpdPortal

structure FrontConfig where
  identity : IdentityConfig
  csrfSecret : String

/-- What an endpoint asks for; the user comes from the session. -/
inductive Ask where
  | create (request : VirtualMachineCreate) (idempotencyKey : String)
  | enqueue (vmId : Uuid) (operationType : OperationType) (idempotencyKey : String)
  deriving DecidableEq

def Ask.request (ask : Ask) (userId : Uuid) : WebRequest :=
  match ask with
  | create request idempotencyKey => .create { userId, request, idempotencyKey }
  | enqueue vmId operationType idempotencyKey =>
      .enqueue { userId, vmId, operationType, idempotencyKey }

/-- A POST request to a VM endpoint. -/
structure Post where
  /-- The cookie `npd_session`. -/
  cookie : Option String
  /-- The header `X-CSRF-Token`. -/
  csrfHeader : Option String
  form : FormRequest
  ask : Ask

/-- A request whose `get_current_user` is under way or has returned. -/
structure Guarded where
  checkId : ℕ
  post : Post
  user : Option User

structure Front where
  identity : IdentityWorld
  site : Site
  guarded : List Guarded

inductive FrontEvent where
  /-- A step of the identity services. -/
  | identity (event : IdentityEvent)
  | refused (post : Post) (error : CsrfError)
  /-- The CSRF token was accepted, and `get_current_user` has read the session. -/
  | posted (event : IdentityEvent) (post : Post)
  /-- The service is called. -/
  | entered (post : Post) (user : User)
  /-- A step of the open requests, the workers or the administration. -/
  | site (event : SiteEvent)

inductive FrontAction where
  | identity (action : IdentityAction)
  | post (post : Post)
  | enter (checkId sessionId : ℕ)
  | site (action : SiteAction)

/-- The part of an event which the identity services see. -/
def FrontEvent.identity? : FrontEvent → Option IdentityEvent
  | identity event | posted event _ => some event
  | _ => none

/-- The part of an event which the site sees. -/
def FrontEvent.site? : FrontEvent → Option SiteEvent
  | site event => some event
  | entered post user => some (.begun (post.ask.request user.id))
  | _ => none

/-- `get_current_user` returns the user or raises. -/
def settle (event : IdentityEvent) (guarded : List Guarded) : List Guarded :=
  match event with
  | .decided id _ (.ok user) =>
      guarded.map fun entry =>
        if entry.checkId = id then { entry with user := some user } else entry
  | .decided id _ (.error _) => guarded.filter (·.checkId ≠ id)
  | _ => guarded

/-- Requests enter the site by `enter` only. -/
def SiteAction.isBegin : SiteAction → Bool
  | begin .. => true
  | _ => false

namespace Front

def initial (clock : Time) : Front where
  identity := .initial clock
  site := .initial
  guarded := []

/-- One step; `none` when the action is not possible in this state. -/
def step? (config : FrontConfig) (action : FrontAction) (front : Front) :
    Option (FrontEvent × Front) :=
  match action with
  | .identity action =>
      match IdentityWorld.step? config.identity action front.identity with
      | none => none
      | some (event, identity) =>
          some (.identity event, { front with identity, guarded := settle event front.guarded })
  | .post post =>
      match verifyCsrf config.csrfSecret post.form post.cookie post.csrfHeader with
      | .error error => some (.refused post error, front)
      | .ok () =>
          match IdentityWorld.step? config.identity (.authenticate post.cookie) front.identity with
          | none => none
          | some (event, identity) => some (.posted event post, { front with
              identity
              guarded := front.guarded ++ [⟨front.identity.nextId, post, none⟩] })
  | .enter checkId sessionId =>
      match front.guarded.find? (·.checkId = checkId) with
      | some ⟨_, post, some user⟩ =>
          match Site.step? (.begin sessionId (post.ask.request user.id)) front.site with
          | none => none
          | some (_, site) => some (.entered post user, { front with
              site, guarded := front.guarded.filter (·.checkId ≠ checkId) })
      | _ => none
  | .site action =>
      if action.isBegin then none
      else match Site.step? action front.site with
        | none => none
        | some (event, site) => some (.site event, { front with site })

end Front

/-- The portal behind its session cookies. -/
def front (config : FrontConfig) : LabelledSystem Front FrontEvent :=
  LabelledSystem.ofFunction (fun state => ∃ clock, state = .initial clock) (Front.step? config)

section Parts

variable {config : FrontConfig} {state next : Front} {event : FrontEvent}
  {history : List FrontEvent}

/-- What one step does to the two services and to the guarded requests. -/
inductive FrontStep (config : FrontConfig) (state : Front) : FrontEvent → Front → Prop where
  | identity (event : IdentityEvent) (world : IdentityWorld)
      (step : (identity config.identity).step state.identity event world) :
      FrontStep config state (.identity event)
        { state with identity := world, guarded := settle event state.guarded }
  | refused (post : Post) (error : CsrfError) : FrontStep config state (.refused post error) state
  | posted (post : Post) (world : IdentityWorld)
      (verified : verifyCsrf config.csrfSecret post.form post.cookie post.csrfHeader = .ok ())
      (step : (identity config.identity).step state.identity
        (.sessionRead state.identity.nextId post.cookie
          (state.identity.db.sessionOfCookie? config.identity post.cookie)) world) :
      FrontStep config state
        (.posted (.sessionRead state.identity.nextId post.cookie
          (state.identity.db.sessionOfCookie? config.identity post.cookie)) post)
        { state with
          identity := world
          guarded := state.guarded ++ [⟨state.identity.nextId, post, none⟩] }
  | entered (checkId : ℕ) (post : Post) (user : User) (world : Site)
      (isGuarded : ⟨checkId, post, some user⟩ ∈ state.guarded)
      (step : site.step state.site (.begun (post.ask.request user.id)) world) :
      FrontStep config state (.entered post user)
        { state with site := world, guarded := state.guarded.filter (·.checkId ≠ checkId) }
  | site (event : SiteEvent) (world : Site) (step : site.step state.site event world)
      (notBegun : ∀ request, event ≠ .begun request) :
      FrontStep config state (.site event) { state with site := world }

theorem Site.begun_of_begin {id : ℕ} {request : WebRequest} {before after : Site}
    {event : SiteEvent} (step : Site.step? (.begin id request) before = some (event, after)) :
    event = .begun request := by
  simp only [Site.step?] at step
  split at step <;> cases step
  rfl

theorem Site.not_begun {action : SiteAction} (notBegin : action.isBegin = false)
    {before after : Site} {event : SiteEvent}
    (step : Site.step? action before = some (event, after)) (request : WebRequest) :
    event ≠ .begun request := by
  rintro rfl
  cases action with
  | begin id other => cases notBegin
  | background action =>
      simp only [Site.step?] at step
      split at step
      · cases step
      · split at step
        · split at step <;> cases step
        · cases step
  | proceed id context =>
      simp only [Site.step?] at step
      split at step
      · cases step
      · split at step
        · split at step <;> cases step
        · cases step
        · split at step <;> cases step
  | abort id =>
      simp only [Site.step?] at step
      split at step <;> cases step

theorem frontStep_of_step (step : (front config).step state event next) :
    FrontStep config state event next := by
  rcases step with ⟨action, step⟩
  cases action with
  | identity action =>
      simp only [Front.step?] at step
      split at step
      · cases step
      · rename_i event world ran
        cases step
        exact .identity event world ⟨action, ran⟩
  | post post =>
      simp only [Front.step?] at step
      split at step
      · cases step
        exact .refused post _
      · rename_i verified
        simp only [IdentityWorld.step?, Option.some.injEq, Prod.mk.injEq] at step
        rcases step with ⟨rfl, rfl⟩
        exact .posted post _ verified ⟨.authenticate post.cookie, rfl⟩
  | enter checkId sessionId =>
      simp only [Front.step?] at step
      split at step
      · rename_i found
        split at step
        · cases step
        · rename_i event world ran
          cases step
          have same := List.find?_some found
          have isGuarded := List.mem_of_find?_eq_some found
          simp only [decide_eq_true_eq] at same
          subst same
          rcases Site.begun_of_begin ran with rfl
          exact .entered _ _ _ world isGuarded ⟨.begin sessionId _, ran⟩
      · cases step
  | site action =>
      simp only [Front.step?] at step
      split at step
      · cases step
      · rename_i notBegin
        split at step
        · cases step
        · rename_i event world ran
          cases step
          exact .site event world ⟨action, ran⟩ (Site.not_begun (by simpa using notBegin) ran)

/-- What the identity services see of a history is one of their histories. -/
theorem identity_of_front (execution : (front config).Execution history state) :
    (identity config.identity).Execution (history.filterMap FrontEvent.identity?)
      state.identity := by
  refine execution.projected FrontEvent.identity? ?_ ?_
  · rintro _ ⟨clock, rfl⟩
    exact ⟨clock, rfl⟩
  · intro before label after _ step
    cases frontStep_of_step step with
    | identity event world moves =>
        refine ⟨fun seen same => ?_, fun none => (by cases none)⟩
        cases same
        exact moves
    | posted post world verified moves =>
        refine ⟨fun seen same => ?_, fun none => (by cases none)⟩
        cases same
        exact moves
    | _ => exact ⟨fun seen same => (by cases same), fun _ => rfl⟩

/-- What the site sees of a history is one of its histories. -/
theorem site_of_front (execution : (front config).Execution history state) :
    site.Execution (history.filterMap FrontEvent.site?) state.site := by
  refine execution.projected FrontEvent.site? ?_ ?_
  · rintro _ ⟨clock, rfl⟩
    rfl
  · intro before label after _ step
    cases frontStep_of_step step with
    | entered checkId post user world isGuarded moves =>
        refine ⟨fun seen same => ?_, fun none => (by cases none)⟩
        cases same
        exact moves
    | site event world moves notBegun =>
        refine ⟨fun seen same => ?_, fun none => (by cases none)⟩
        cases same
        exact moves
    | _ => exact ⟨fun seen same => (by cases same), fun _ => rfl⟩

end Parts

end NpdPortal
