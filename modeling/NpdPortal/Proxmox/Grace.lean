import Mathlib.Tactic.Linarith
import Mathlib.Tactic.Ring
import Mathlib.Algebra.Order.Field.Rat
import NpdPortal.Proxmox.Locks
import NpdPortal.Stages.Eligibility

/-!
# The grace period of a dispatch

A command makes up to three requests one after another, each of which may take
as long as the time limit of the client.  The age condition of the selection
covers a command exactly if it covers the sum.
-/

namespace NpdPortal

open PyJson ProxmoxClient

/-- The seconds that requests take one after another, the first of which was made after `index`
others. -/
def elapsed (duration : ℕ → Request → ℚ) : ℕ → List HttpExchange → ℚ
  | _, [] => 0
  | index, exchange :: later => duration index exchange.call + elapsed duration (index + 1) later

/-- While the call is executed its time stays below the grace period, and no worker selects the
operation that is at the marker of the call, as of the time the marker was stored. -/
def HttpProxmoxAdapter.CoveredByGrace (adapter : HttpProxmoxAdapter) (call : AdapterCall)
    (timeoutSeconds : ℚ) : Prop :=
  ∀ (server : HttpServer) (duration : ℕ → Request → ℚ),
    (∀ index request, 0 ≤ duration index request ∧ duration index request ≤ timeoutSeconds) →
    let total := 1000000 * elapsed duration 0 (Program.run server 0 (adapter.perform call)).1
    total < dispatchGrace ∧
      ∀ (db : Database) (locked : List Uuid) (operation : Operation) (stage : Stage) (now : Time),
        (Position.dispatching stage).Matches operation → now ≤ operation.updatedAt + total →
        ¬Selects now locked db operation

/-- The most requests that a command makes. -/
def HttpProxmoxAdapter.requests (adapter : HttpProxmoxAdapter) : AdapterCall → ℕ
  | .cloneVm request node vmid =>
      if node = adapter.targetNode ∧ request.imageId = adapter.templateImageId ∧ 0 < vmid then 2
      else 0
  | .configureVm _ node vmid => if node = adapter.targetNode ∧ 0 < vmid then 2 else 0
  | .resizeVmDisk request node vmid =>
      if node = adapter.targetNode ∧ 0 < vmid then if 0 < request.storageGb then 3 else 2 else 0
  | .startVm _ node vmid | .deleteVm _ node vmid =>
      if node = adapter.targetNode ∧ 0 < vmid then 3 else 0
  | .shutdownVm _ _ vmid | .stopVm _ _ vmid => if 0 < vmid then 3 else 0
  | _ => 0

section Durations

variable {duration : ℕ → Request → ℚ} {limit : ℚ}

theorem elapsed_le (bounded : ∀ index request, duration index request ≤ limit) (index : ℕ)
    (made : List HttpExchange) : elapsed duration index made ≤ made.length * limit := by
  induction made generalizing index with
  | nil => simp [elapsed]
  | cons exchange later ih =>
      have first := bounded index exchange.call
      have rest := ih (index + 1)
      simp only [elapsed, List.length_cons, Nat.cast_add, Nat.cast_one]
      linarith

theorem elapsed_const (index : ℕ) (made : List HttpExchange) :
    elapsed (fun _ _ => limit) index made = made.length * limit := by
  induction made generalizing index with
  | nil => simp [elapsed]
  | cons exchange later ih =>
      simp only [elapsed, ih, List.length_cons, Nat.cast_add, Nat.cast_one]
      ring

/-- A row at a dispatch marker is not selected before its grace period is over. -/
theorem Selects.grace_le {now : Time} {locked : List Uuid} {db : Database} {operation : Operation}
    {stage : Stage} (selects : Selects now locked db operation)
    (marked : (Position.dispatching stage).Matches operation) :
    operation.updatedAt + dispatchGrace ≤ now := by
  have due := marked.eligible_iff_due.mp selects.eligible
  simp only [Position.Due] at due
  linarith

end Durations

section Requests

variable {adapter : HttpProxmoxAdapter} {α : Type} {command : GuardedCommand α}

/-- A command that fails its first checks makes no request. -/
theorem GuardedCommand.run_eq_nil (server : HttpServer)
    (fails : ¬(command.precondition = .ok () ∧ 0 < command.vmid)) :
    (Program.run server 0 (command.program adapter)).1 = [] := by
  unfold GuardedCommand.program
  cases checked : command.precondition with
  | error error => rfl
  | ok passed =>
      have negative : ¬0 < command.vmid := fun positive => fails ⟨checked, positive⟩
      simp only [if_neg negative]
      rfl

theorem GuardedCommand.length_run_le (server : HttpServer) :
    (Program.run server 0 (command.program adapter)).1.length ≤ 3 := by
  have traced := command.trace adapter server
  generalize (Program.run server 0 (command.program adapter)).1 = made at *
  cases traced with
  | quiet _ _ short => omega
  | sent => simp
  | sentAfterStatus => simp

/-- A command that never decides to send after it read the status makes at most two requests. -/
theorem GuardedCommand.length_run_le_two (server : HttpServer)
    (never : ∀ found status, command.onResource found = .ok .read →
      command.onStatus found status ≠ .ok none) :
    (Program.run server 0 (command.program adapter)).1.length ≤ 2 := by
  have traced := command.trace adapter server
  generalize (Program.run server 0 (command.program adapter)).1 = made at *
  cases traced with
  | quiet _ _ short => exact short
  | sent => simp
  | sentAfterStatus _ _ found status _ _ _ _ reads _ _ decides =>
      exact absurd decides (never found status reads)

/-- The answer which shows one resource of a portal VM. -/
def HttpProxmoxAdapter.owned (adapter : HttpProxmoxAdapter) (portalVmId : Uuid) (node : String)
    (vmid : ℤ) : Fields :=
  [("vmid", .int vmid), ("type", .str "qemu"), ("name", .str (vmName portalVmId)),
    ("pool", .str adapter.pool), ("node", .str node)]

/-- A server which first answers with these resources, then with this status of the VM, and
then not any more. -/
def answering (resources : List Fields) (vmid : ℤ) (status : String) : HttpServer :=
  fun index _ =>
    if index = 0 then .ok (.dict [("data", .list (resources.map .dict))])
    else if index = 1 then .ok (.dict [("data", .dict [("vmid", .int vmid), ("status", .str status),
      ("maxdisk", .int 1)])])
    else .error (.http "timed out")

theorem ownedIn_nil (portalVmId : Uuid) (node : String) (vmid : ℤ) :
    ownedIn adapter portalVmId node vmid (.dict [("data", .list [])]) = .ok none := rfl

theorem ownedIn_owned (portalVmId : Uuid) (node : String) (vmid : ℤ) :
    ownedIn adapter portalVmId node vmid
      (.dict [("data", .list [.dict (adapter.owned portalVmId node vmid)])]) =
      .ok (some (adapter.owned portalVmId node vmid)) := by
  simp [ownedIn, resourceIn, listedIn, dataOf, PyJson.list?, allFields, PyJson.dict?, withVmid,
    ownershipError, HttpProxmoxAdapter.owned, Fields.get, List.lookup_cons, PyJson.int?,
    PyJson.equalsText]

theorem statusIn_answering (vmid : ℤ) (status : String) :
    statusIn vmid (.dict [("data", .dict [("vmid", .int vmid), ("status", .str status),
      ("maxdisk", .int 1)])]) =
      .ok [("vmid", .int vmid), ("status", .str status), ("maxdisk", .int 1)] := by
  simp [statusIn, dataOf, PyJson.dict?, Fields.get, PyJson.equalsInt]

/-- A command that sends at once makes two requests. -/
theorem GuardedCommand.length_run_send {server : HttpServer} {body : PyJson}
    {found : Option Fields} (passes : command.precondition = .ok ()) (positive : 0 < command.vmid)
    (listing : server 0 resourcesRequest = .ok body)
    (owned : ownedIn adapter command.portalVmId command.node command.vmid body = .ok found)
    (sends : command.onResource found = .ok .send) :
    (Program.run server 0 (command.program adapter)).1.length = 2 := by
  simp [GuardedCommand.program, passes, positive, listing, owned, sends, GuardedCommand.send]

/-- A command that reads the status makes a third request if it then sends. -/
theorem GuardedCommand.length_run_read {server : HttpServer} {body answer : PyJson}
    {found : Option Fields} {status : Fields} (passes : command.precondition = .ok ())
    (positive : 0 < command.vmid) (listing : server 0 resourcesRequest = .ok body)
    (owned : ownedIn adapter command.portalVmId command.node command.vmid body = .ok found)
    (reads : command.onResource found = .ok .read)
    (current : server 1 (statusRequest command.node command.vmid) = .ok answer)
    (known : statusIn command.vmid answer = .ok status) :
    2 ≤ (Program.run server 0 (command.program adapter)).1.length ∧
      (command.onStatus found status = .ok none →
        (Program.run server 0 (command.program adapter)).1.length = 3) := by
  simp only [GuardedCommand.program, passes, positive, if_true, Program.run_call, listing, ok_bind,
    owned, reads, current, known, List.length_cons]
  exact ⟨by omega, fun decides => by simp [decides, GuardedCommand.send]⟩

theorem onTargetNode_eq_ok {node : String} :
    onTargetNode adapter node = .ok () ↔ node = adapter.targetNode := by
  unfold onTargetNode
  split <;> simp_all

/-- The first checks of a command are those of `requests`. -/
theorem GuardedCommand.length_run_le_ite {server : HttpServer} {checks : Prop} [Decidable checks]
    {most : ℕ} (needs : command.precondition = .ok () ∧ 0 < command.vmid → checks)
    (bound : (Program.run server 0 (command.program adapter)).1.length ≤ most) :
    (Program.run server 0 (command.program adapter)).1.length ≤ if checks then most else 0 := by
  by_cases passes : checks
  · rwa [if_pos passes]
  · rw [if_neg passes, command.run_eq_nil server fun checked => passes (needs checked)]
    exact le_rfl

end Requests

section Counts

variable (adapter : HttpProxmoxAdapter)

theorem HttpProxmoxAdapter.length_le_requests {call : AdapterCall} (mutates : call.Mutates)
    (server : HttpServer) :
    (Program.run server 0 (adapter.perform call)).1.length ≤ adapter.requests call := by
  rcases Option.isSome_iff_exists.mp ((adapter.command?_isSome call).mpr mutates) with
    ⟨command, isCommand⟩
  rw [adapter.perform_eq_program isCommand]
  cases call <;> simp only [command?, Option.some.injEq, reduceCtorEq] at isCommand <;>
    subst isCommand
  case cloneVm request node vmid =>
    apply GuardedCommand.length_run_le_ite
    · rintro ⟨passes, positive⟩
      rcases bind_eq_ok.mp passes with ⟨_, onTarget, image⟩
      split at image
      · rename_i isTemplate
        exact ⟨onTargetNode_eq_ok.mp onTarget, isTemplate, positive⟩
      · cases image
    · apply GuardedCommand.length_run_le_two
      intro found status reads
      cases found with
      | none => simp [cloneCommand] at reads
      | some resource =>
          simp only [cloneCommand] at reads
          split at reads
          · simp at reads
          · split at reads <;> simp at reads
  case configureVm request node vmid =>
    apply GuardedCommand.length_run_le_ite
    · exact fun passes => ⟨onTargetNode_eq_ok.mp passes.1, passes.2⟩
    · apply GuardedCommand.length_run_le_two
      intro found status reads
      rcases ifUnlocked_eq_ok reads with ⟨_, _, _, differs⟩
      cases differs
  case resizeVmDisk request node vmid =>
    apply GuardedCommand.length_run_le_ite
    · exact fun passes => ⟨onTargetNode_eq_ok.mp passes.1, passes.2⟩
    · split
      · exact GuardedCommand.length_run_le server
      · rename_i empty
        apply GuardedCommand.length_run_le_two
        intro found status _ decides
        rcases bind_eq_ok.mp decides with ⟨size, isSize, decides⟩
        split at decides
        · split at decides
          · cases decides
          · cases decides
        · cases decides
  case startVm portalVmId node vmid =>
    apply GuardedCommand.length_run_le_ite
    · exact fun passes => ⟨onTargetNode_eq_ok.mp passes.1, passes.2⟩
    · exact GuardedCommand.length_run_le server
  case deleteVm portalVmId node vmid =>
    apply GuardedCommand.length_run_le_ite
    · exact fun passes => ⟨onTargetNode_eq_ok.mp passes.1, passes.2⟩
    · exact GuardedCommand.length_run_le server
  all_goals
    apply GuardedCommand.length_run_le_ite
    · exact fun passes => passes.2
    · exact GuardedCommand.length_run_le server

theorem ite_zero_le {checks : Prop} [Decidable checks] {most length : ℕ}
    (bound : checks → most ≤ length) : (if checks then most else 0) ≤ length := by
  split
  · rename_i passes
    exact bound passes
  · exact Nat.zero_le _

/-- Some server makes a command send as many requests as it can. -/
theorem HttpProxmoxAdapter.exists_requests_le_length {call : AdapterCall}
    (mutates : call.Mutates) :
    ∃ server : HttpServer,
      adapter.requests call ≤ (Program.run server 0 (adapter.perform call)).1.length := by
  rcases Option.isSome_iff_exists.mp ((adapter.command?_isSome call).mpr mutates) with
    ⟨command, isCommand⟩
  rw [adapter.perform_eq_program isCommand]
  cases call <;> simp only [command?, Option.some.injEq, reduceCtorEq] at isCommand <;>
    subst isCommand
  case cloneVm request node vmid =>
    refine ⟨answering [] vmid "stopped", ite_zero_le ?_⟩
    rintro ⟨onTarget, isTemplate, positive⟩
    have passes : (cloneCommand adapter request node vmid).precondition = .ok () := by
      simp [cloneCommand, onTargetNode_eq_ok.mpr onTarget, isTemplate]
    exact (GuardedCommand.length_run_send passes positive rfl (ownedIn_nil _ _ _) rfl).ge
  case configureVm request node vmid =>
    refine ⟨answering [adapter.owned request.vmId node vmid] vmid "stopped", ite_zero_le ?_⟩
    rintro ⟨onTarget, positive⟩
    have passes : (configureCommand adapter request node vmid).precondition = .ok () :=
      onTargetNode_eq_ok.mpr onTarget
    exact (GuardedCommand.length_run_send passes positive rfl (ownedIn_owned _ _ _) rfl).ge
  case resizeVmDisk request node vmid =>
    refine ⟨answering [adapter.owned request.vmId node vmid] vmid "stopped", ite_zero_le ?_⟩
    rintro ⟨onTarget, positive⟩
    have passes : (resizeCommand adapter request node vmid).precondition = .ok () :=
      onTargetNode_eq_ok.mpr onTarget
    split
    · rename_i grows
      refine ((GuardedCommand.length_run_read passes positive rfl (ownedIn_owned _ _ _) rfl rfl
        (statusIn_answering vmid "stopped")).2 ?_).ge
      have atLeast : (1 : ℤ) ≤ request.storageGb := by exact_mod_cast grows
      exact resizeCommand_sends_iff.mpr ⟨1, rfl, one_pos, by linarith⟩
    · exact (GuardedCommand.length_run_read passes positive rfl (ownedIn_owned _ _ _) rfl rfl
        (statusIn_answering vmid "stopped")).1
  case startVm portalVmId node vmid =>
    refine ⟨answering [adapter.owned portalVmId node vmid] vmid "stopped", ite_zero_le ?_⟩
    rintro ⟨onTarget, positive⟩
    have passes : (startCommand adapter portalVmId node vmid).precondition = .ok () :=
      onTargetNode_eq_ok.mpr onTarget
    exact ((GuardedCommand.length_run_read passes positive rfl (ownedIn_owned _ _ _) rfl rfl
      (statusIn_answering vmid "stopped")).2 rfl).ge
  case deleteVm portalVmId node vmid =>
    refine ⟨answering [adapter.owned portalVmId node vmid] vmid "stopped", ite_zero_le ?_⟩
    rintro ⟨onTarget, positive⟩
    have passes : (deleteCommand adapter portalVmId node vmid).precondition = .ok () :=
      onTargetNode_eq_ok.mpr onTarget
    exact ((GuardedCommand.length_run_read passes positive rfl (ownedIn_owned _ _ _) rfl rfl
      (statusIn_answering vmid "stopped")).2 rfl).ge
  all_goals
    rename_i portalVmId node vmid
    refine ⟨answering [adapter.owned portalVmId node vmid] vmid "running", ite_zero_le ?_⟩
    intro positive
    exact ((GuardedCommand.length_run_read rfl positive rfl (ownedIn_owned _ _ _) rfl rfl
      (statusIn_answering vmid "running")).2 rfl).ge

/-- The grace period covers a command exactly if it covers the time limit as often as the command
makes a request. -/
theorem HttpProxmoxAdapter.coveredByGrace_iff (call : AdapterCall) (timeoutSeconds : ℚ)
    (mutates : call.Mutates) (positive : 0 < timeoutSeconds) :
    adapter.CoveredByGrace call timeoutSeconds ↔
      adapter.requests call * timeoutSeconds < 300 := by
  have grace : (dispatchGrace : ℚ) = 300000000 := by norm_num [dispatchGrace]
  constructor
  · intro covered
    rcases adapter.exists_requests_le_length mutates with ⟨server, long⟩
    rcases covered server (fun _ _ => timeoutSeconds) fun _ _ => ⟨positive.le, le_rfl⟩ with
      ⟨total, _⟩
    rw [elapsed_const, grace] at total
    have enough : (adapter.requests call : ℚ) * timeoutSeconds ≤
        (Program.run server 0 (adapter.perform call)).1.length * timeoutSeconds :=
      mul_le_mul_of_nonneg_right (by exact_mod_cast long) positive.le
    linarith
  · intro covers server duration bounded total
    have atMost := elapsed_le (fun index request => (bounded index request).2) 0
      (Program.run server 0 (adapter.perform call)).1
    have short : ((Program.run server 0 (adapter.perform call)).1.length : ℚ) * timeoutSeconds ≤
        adapter.requests call * timeoutSeconds :=
      mul_le_mul_of_nonneg_right (by exact_mod_cast adapter.length_le_requests mutates server)
        positive.le
    have below : total < dispatchGrace := by
      rw [grace]
      simp only [total]
      linarith
    refine ⟨below, fun db locked operation stage now marked early selects => ?_⟩
    have late : ((operation.updatedAt + dispatchGrace : Time) : ℚ) ≤ now := by
      exact_mod_cast selects.grace_le marked
    push_cast at late
    linarith

theorem HttpProxmoxAdapter.coveredByGrace_iff_stop :
    sampleAdapter.CoveredByGrace (.stopVm 7 "pve" 100) 10 ↔
      sampleAdapter.requests (.stopVm 7 "pve" 100) * (10 : ℚ) < 300 :=
  coveredByGrace_iff sampleAdapter (.stopVm 7 "pve" 100) 10 trivial (by norm_num)

end Counts

set_option maxRecDepth 10000 in
/-- With a time limit of 100 seconds a stop may take the whole grace period. -/
theorem HttpProxmoxAdapter.stop_exceeds_grace :
    ¬∀ (adapter : HttpProxmoxAdapter) (call : AdapterCall) (timeoutSeconds : ℚ),
      call.Mutates → 0 < timeoutSeconds → timeoutSeconds < 300 →
      adapter.CoveredByGrace call timeoutSeconds := by
  intro covered
  rcases covered sampleAdapter (.stopVm 7 "pve" 100) 100 trivial (by norm_num) (by norm_num)
    (sampleServer [sampleResource .null] "running" .null) (fun _ _ => 100)
    (fun _ _ => ⟨by norm_num, le_rfl⟩) with ⟨total, _⟩
  have requests : (Program.run (sampleServer [sampleResource .null] "running" .null) 0
      (sampleAdapter.perform (.stopVm 7 "pve" 100))).1.length = 3 := rfl
  rw [elapsed_const, requests] at total
  norm_num [dispatchGrace] at total

end NpdPortal
