import NpdPortal.Proxmox.Ownership

/-!
# Locks that a command reads

`get_vm_power_state` takes a VM for locked if either of the two answers shows a
lock.  Only `start_vm` follows it; the other commands that read the status look
at the lock of the resource alone.
-/

namespace NpdPortal

open PyJson ProxmoxClient

/-- The answer shows a lock of the VM with this VMID. -/
def ReportsLock (node : String) (vmid : ℤ) (exchange : HttpExchange) : Prop :=
  ∃ body, exchange.answer = .ok body ∧
    ((exchange.call = resourcesRequest ∧ ∃ resources resource, Lists body resources ∧
        resource ∈ resources ∧ hasVmid vmid resource = true ∧
        (resource.get "lock").isNone = false) ∨
      (exchange.call = statusRequest node vmid ∧ ∃ fields status : Fields, body = .dict fields ∧
        fields.lookup "data" = some (.dict status) ∧ (status.get "lock").isNone = false))

/-- A call that has read a lock sends nothing. -/
def HttpProxmoxAdapter.RespectsLock (adapter : HttpProxmoxAdapter) (call : AdapterCall)
    (node : String) (vmid : ℤ) (server : HttpServer) : Prop :=
  (∃ exchange ∈ (Program.run server 0 (adapter.perform call)).1, ReportsLock node vmid exchange) →
    ∀ exchange ∈ (Program.run server 0 (adapter.perform call)).1, ¬exchange.call.Mutates

/-- A command that looks at the lock of the resource only would go on with this status. -/
def HttpProxmoxAdapter.GoesOn (adapter : HttpProxmoxAdapter) (status : Fields) :
    AdapterCall → Prop
  | .resizeVmDisk request node _ => node = adapter.targetNode ∧
      ∃ size, status.get "maxdisk" = .int size ∧ 0 < size ∧ size < request.storageGb * 1024 ^ 3
  | .shutdownVm .. | .stopVm .. => status.get "status" = .str "running"
  | .deleteVm _ node _ => node = adapter.targetNode ∧ status.get "status" = .str "stopped"
  | _ => False

/-- The list shows the VM without a lock, and its status, which does not stop the call otherwise,
shows one. -/
def HttpProxmoxAdapter.HidesLock (adapter : HttpProxmoxAdapter) (call : AdapterCall)
    (portalVmId : Uuid) (node : String) (vmid : ℤ) (server : HttpServer) : Prop :=
  0 < vmid ∧ ∃ body resource answer status,
    server 0 resourcesRequest = .ok body ∧
    ownedIn adapter portalVmId node vmid body = .ok (some resource) ∧
    (resource.get "lock").isNone = true ∧
    server 1 (statusRequest node vmid) = .ok answer ∧ statusIn vmid answer = .ok status ∧
    (status.get "lock").isNone = false ∧ adapter.GoesOn status call

section Answers

theorem Lists.unique {body : PyJson} {resources others : List Fields}
    (lists : Lists body resources) (otherLists : Lists body others) : resources = others := by
  rcases lists with ⟨fields, rfl, isData⟩
  rcases otherLists with ⟨otherFields, same, otherData⟩
  cases same
  rw [isData] at otherData
  have mapped : resources.map PyJson.dict = others.map PyJson.dict := by simpa using otherData
  have injective : Function.Injective PyJson.dict := by
    intro first second equal
    exact PyJson.dict.inj equal
  exact injective.list_map mapped

/-- The status in an accepted answer. -/
theorem exists_of_statusIn {vmid : ℤ} {answer : PyJson} {status : Fields}
    (known : statusIn vmid answer = .ok status) :
    ∃ fields, answer = .dict fields ∧ fields.lookup "data" = some (.dict status) := by
  unfold statusIn at known
  rcases bind_eq_ok.mp known with ⟨data, isData, known⟩
  cases answer with
  | dict fields =>
      refine ⟨fields, rfl, ?_⟩
      unfold dataOf at isData
      simp only at isData
      split at isData
      · rename_i stored found
        cases isData
        cases data with
        | dict own =>
            simp only [PyJson.dict?] at known
            split at known
            · cases known
              exact found
            · cases known
        | _ => simp [PyJson.dict?] at known
      · cases isData
  | _ => simp [dataOf] at isData

/-- A command whose list has one resource of the VMID, without a lock, has read no lock there. -/
theorem not_reportsLock_listing {adapter : HttpProxmoxAdapter} {portalVmId : Uuid}
    {node : String} {vmid : ℤ} {body : PyJson} {resource : Fields}
    (owned : ownedIn adapter portalVmId node vmid body = .ok (some resource))
    (unlocked : (resource.get "lock").isNone = true) :
    ¬ReportsLock node vmid ⟨resourcesRequest, .ok body⟩ := by
  rintro ⟨other, answered, ⟨_, resources, shown, lists, isMember, isVmid, locked⟩ | ⟨isStatus, _⟩⟩
  · cases answered
    rcases exists_of_ownedIn owned with ⟨known, knownLists, filtered, _⟩
    rcases lists.unique knownLists with rfl
    have isOnly : shown ∈ resources.filter (hasVmid vmid) := List.mem_filter.mpr ⟨isMember, isVmid⟩
    rw [filtered, List.mem_singleton] at isOnly
    rw [isOnly, unlocked] at locked
    cases locked
  · simp [resourcesRequest, statusRequest] at isStatus

/-- A request that changes something is not answered with a lock. -/
theorem not_reportsLock_of_mutates {node : String} {vmid : ℤ} {exchange : HttpExchange}
    (mutates : exchange.call.Mutates) : ¬ReportsLock node vmid exchange := by
  rintro ⟨body, _, ⟨isListing, _⟩ | ⟨isStatus, _⟩⟩
  · rw [isListing] at mutates
    exact mutates rfl
  · rw [isStatus] at mutates
    exact mutates rfl

end Answers

section Commands

variable {adapter : HttpProxmoxAdapter} {call : AdapterCall}
  {command : GuardedCommand call.Answer} {portalVmId : Uuid} {node : String} {vmid : ℤ}

theorem HttpProxmoxAdapter.command?_vm (isCommand : adapter.command? call = some command)
    (isVm : call.vm? = some (portalVmId, node, vmid)) :
    command.portalVmId = portalVmId ∧ command.node = node ∧ command.vmid = vmid := by
  cases call <;> simp only [command?, Option.some.injEq, reduceCtorEq] at isCommand <;>
    subst isCommand <;> simp only [AdapterCall.vm?, Option.some.injEq, Prod.mk.injEq,
      reduceCtorEq] at isVm <;> exact isVm

/-- A command that sends at once has found its resource without a lock. -/
theorem HttpProxmoxAdapter.command?_unlocked_of_send
    (isCommand : adapter.command? call = some command)
    (isVm : call.vm? = some (portalVmId, node, vmid)) {found : Option Fields}
    (sends : command.onResource found = .ok .send) :
    ∃ resource, found = some resource ∧ (resource.get "lock").isNone = true := by
  cases call <;> simp only [command?, Option.some.injEq, reduceCtorEq] at isCommand <;>
    subst isCommand
  case cloneVm => simp [AdapterCall.vm?] at isVm
  case startVm => cases found <;> simp [startCommand] at sends
  case deleteVm =>
    cases found with
    | none => simp [deleteCommand] at sends
    | some resource =>
        simp only [deleteCommand] at sends
        split at sends <;> simp at sends
  all_goals exact (ifUnlocked_eq_ok sends).imp fun _ known => ⟨known.1, known.2.1⟩

/-- A command that sends after it read the status has found its resource without a lock. -/
theorem HttpProxmoxAdapter.command?_unlocked_of_read
    (isCommand : adapter.command? call = some command) {found : Option Fields} {status : Fields}
    (reads : command.onResource found = .ok .read)
    (decides : command.onStatus found status = .ok none) :
    ∃ resource, found = some resource ∧ (resource.get "lock").isNone = true := by
  cases call <;> simp only [command?, Option.some.injEq, reduceCtorEq] at isCommand <;>
    subst isCommand
  case cloneVm =>
    cases found with
    | none => simp [cloneCommand] at reads
    | some resource =>
        simp only [cloneCommand] at reads
        split at reads
        · simp at reads
        · split at reads <;> simp at reads
  case startVm =>
    cases found with
    | none => simp [startCommand] at reads
    | some resource =>
        refine ⟨resource, rfl, ?_⟩
        simp only [startCommand] at decides
        rcases bind_eq_ok.mp decides with ⟨power, _, decides⟩
        simp only [Option.getD_some] at decides
        split at decides
        · rename_i unlocked
          exact unlocked.1
        · cases decides
  case deleteVm =>
    cases found with
    | none => simp [deleteCommand] at reads
    | some resource =>
        simp only [deleteCommand] at reads
        split at reads
        · rename_i unlocked
          exact ⟨resource, rfl, unlocked⟩
        · simp at reads
  all_goals exact (ifUnlocked_eq_ok reads).imp fun _ known => ⟨known.1, known.2.1⟩

theorem powerStatus_eq_running {message : String} {status : PyJson} :
    powerStatus message status = .ok .running ↔ status = .str "running" := by
  unfold powerStatus
  split <;> simp_all

theorem diskSize_eq_ok {size : PyJson} {value : ℤ} :
    HttpProxmoxAdapter.diskSize vmid size = .ok value ↔ size = .int value ∧ 0 < value := by
  unfold HttpProxmoxAdapter.diskSize
  split
  · rename_i own
    split <;> simp_all
    · rintro rfl
      assumption
    · rintro rfl
      assumption
  · rename_i other
    simp
    intro isInt
    exact absurd isInt (other value)

/-- A resize is sent if the disk is smaller than requested. -/
theorem resizeCommand_sends_iff {request : CreateVmRequest} {found : Option Fields}
    {status : Fields} : (resizeCommand adapter request node vmid).onStatus found status = .ok none ↔
      ∃ size, status.get "maxdisk" = .int size ∧ 0 < size ∧
        size < request.storageGb * 1024 ^ 3 := by
  simp only [resizeCommand]
  constructor
  · intro decides
    rcases bind_eq_ok.mp decides with ⟨size, isSize, decides⟩
    rcases diskSize_eq_ok.mp isSize with ⟨isInt, positive⟩
    refine ⟨size, isInt, positive, ?_⟩
    split at decides
    · rename_i fits
      split at decides
      · cases decides
      · rename_i differs
        exact lt_of_le_of_ne fits differs
    · cases decides
  · rintro ⟨size, isSize, positive, smaller⟩
    rw [diskSize_eq_ok.mpr ⟨isSize, positive⟩, ok_bind, if_pos smaller.le, if_neg smaller.ne,
      if_pos]
    by_contra empty
    have isZero : request.storageGb = 0 := by omega
    rw [isZero] at smaller
    simp at smaller
    omega

/-- Which commands go on although the status shows a lock. -/
theorem HttpProxmoxAdapter.goesOn_iff (isCommand : adapter.command? call = some command)
    {resource status : Fields} (unlocked : (resource.get "lock").isNone = true)
    (locked : (status.get "lock").isNone = false) :
    adapter.GoesOn status call ↔ command.precondition = .ok () ∧
      command.onResource (some resource) = .ok .read ∧
      command.onStatus (some resource) status = .ok none := by
  cases call <;> simp only [command?, Option.some.injEq, reduceCtorEq] at isCommand <;>
    subst isCommand
  case cloneVm =>
    simp only [GoesOn, cloneCommand, unlocked, if_true, false_iff, not_and]
    intro _ reads
    split at reads <;> simp at reads
  case configureVm => simp [GoesOn, configureCommand, ifUnlocked, unlocked]
  case resizeVmDisk request node vmid =>
    rw [resizeCommand_sends_iff]
    simp only [GoesOn, resizeCommand, ifUnlocked, unlocked, if_true, onTargetNode, true_and]
    apply and_congr_left
    intro _
    split <;> simp_all
  case startVm =>
    simp only [GoesOn, startCommand, false_iff, not_and]
    intro _ _ decides
    rcases bind_eq_ok.mp decides with ⟨power, _, decides⟩
    simp [locked] at decides
  case deleteVm portalVmId node vmid =>
    simp only [GoesOn, deleteCommand, unlocked, if_true, onTargetNode, true_and]
    rw [← equalsText_iff]
    constructor
    · rintro ⟨onTarget, stopped⟩
      simp [onTarget, stopped]
    · rintro ⟨onTarget, decides⟩
      refine ⟨by_contra fun elsewhere => by simp [elsewhere] at onTarget, ?_⟩
      by_contra running
      simp [running] at decides
  all_goals
    simp only [GoesOn, shutdownCommand, stopCommand, powerOffCommand, ifUnlocked, unlocked,
      if_true, true_and]
    constructor
    · intro running
      rw [powerStatus_eq_running.mpr running]
      rfl
    · intro decides
      rcases bind_eq_ok.mp decides with ⟨power, known, decides⟩
      rcases powerStatus_cases known with rfl | rfl
      · exact powerStatus_eq_running.mp known
      · cases decides

/-- A call that has read a lock sends nothing, unless the lock is hidden from it. -/
theorem HttpProxmoxAdapter.respectsLock_iff (adapter : HttpProxmoxAdapter) (call : AdapterCall)
    (portalVmId : Uuid) (node : String) (vmid : ℤ) (server : HttpServer)
    (isVm : call.vm? = some (portalVmId, node, vmid)) :
    adapter.RespectsLock call node vmid server ↔
      ¬adapter.HidesLock call portalVmId node vmid server := by
  have commands : call.Mutates := by cases call <;> simp_all [AdapterCall.vm?, AdapterCall.Mutates]
  rcases Option.isSome_iff_exists.mp ((adapter.command?_isSome call).mpr commands) with
    ⟨command, isCommand⟩
  rcases command?_vm isCommand isVm with ⟨samePortal, sameNode, sameVmid⟩
  have traced := command.trace adapter server
  unfold RespectsLock
  rw [adapter.perform_eq_program isCommand]
  generalize (Program.run server 0 (command.program adapter)).1 = made at *
  constructor
  · rintro respects ⟨positive, body, resource, answer, status, listing, owned, unlocked, current,
      known, locked, goesOn⟩
    rcases (goesOn_iff isCommand unlocked locked).mp goesOn with ⟨passes, reads, decides⟩
    rw [← samePortal, ← sameNode, ← sameVmid] at owned
    rw [← sameNode, ← sameVmid] at current
    rw [← sameVmid] at known positive
    have mutates := (adapter.command?_guards isCommand owned (.inr reads)
      (List.mem_singleton.mpr rfl)).1
    rcases exists_of_statusIn known with ⟨fields, isDict, isData⟩
    have sends : command.Sends adapter server :=
      ⟨passes, positive, body, some resource, listing, owned,
        .inr ⟨reads, answer, status, current, known, decides⟩⟩
    cases traced with
    | quiet _ _ _ silent => exact silent sends
    | sent other found _ _ otherListing otherOwned otherDecides =>
        rcases Except.ok.inj (listing.symm.trans otherListing) with rfl
        rcases Except.ok.inj (owned.symm.trans otherOwned) with rfl
        rw [reads] at otherDecides
        cases otherDecides
    | sentAfterStatus other otherAnswer found otherStatus _ _ _ _ _ otherCurrent =>
        rcases Except.ok.inj (current.symm.trans otherCurrent) with rfl
        refine respects
          ⟨⟨statusRequest command.node command.vmid, .ok answer⟩, by simp, answer, rfl,
            .inr ⟨by rw [sameNode, sameVmid], fields, status, isDict, isData, locked⟩⟩
          ⟨command.request, server 2 command.request⟩ (by simp) mutates
  · rintro noHidden ⟨reporting, isReporting, reports⟩
    cases traced with
    | quiet _ reads => exact reads
    | sent body found passes positive listing owned decides =>
        exfalso
        rcases command?_unlocked_of_send isCommand isVm decides with ⟨resource, rfl, unlocked⟩
        have mutates := (adapter.command?_guards isCommand owned (.inl decides)
          (List.mem_singleton.mpr rfl)).1
        rw [samePortal, sameNode, sameVmid] at owned
        simp only [List.mem_cons, List.not_mem_nil, or_false] at isReporting
        rcases isReporting with rfl | rfl
        · exact not_reportsLock_listing owned unlocked reports
        · exact not_reportsLock_of_mutates mutates reports
    | sentAfterStatus body answer found status passes positive listing owned readsStatus current
        known decides =>
        exfalso
        rcases command?_unlocked_of_read isCommand readsStatus decides with
          ⟨resource, rfl, unlocked⟩
        have mutates := (adapter.command?_guards isCommand owned (.inr readsStatus)
          (List.mem_singleton.mpr rfl)).1
        rw [samePortal, sameNode, sameVmid] at owned
        rw [sameNode, sameVmid] at current
        simp only [List.mem_cons, List.not_mem_nil, or_false] at isReporting
        rcases isReporting with rfl | rfl | rfl
        · exact not_reportsLock_listing owned unlocked reports
        · rcases reports with ⟨other, answered, ⟨isListing, _⟩ | ⟨_, fields, shown, isDict, isData,
            locked⟩⟩
          · simp [resourcesRequest, statusRequest] at isListing
          · cases answered
            rcases exists_of_statusIn known with ⟨others, isOther, otherData⟩
            rw [isDict] at isOther
            cases isOther
            rw [isData] at otherData
            cases otherData
            exact noHidden ⟨sameVmid ▸ positive, body, resource, answer, status, listing, owned,
              unlocked, current, sameVmid ▸ known, locked,
              (goesOn_iff isCommand unlocked locked).mpr ⟨passes, readsStatus, decides⟩⟩
        · exact not_reportsLock_of_mutates mutates reports

theorem HttpProxmoxAdapter.respectsLock_iff_stop :
    sampleAdapter.RespectsLock (.stopVm 7 "pve" 100) "pve" 100
        (sampleServer [sampleResource .null] "running" (.str "backup")) ↔
      ¬sampleAdapter.HidesLock (.stopVm 7 "pve" 100) 7 "pve" 100
        (sampleServer [sampleResource .null] "running" (.str "backup")) :=
  respectsLock_iff sampleAdapter (.stopVm 7 "pve" 100) 7 "pve" 100
    (sampleServer [sampleResource .null] "running" (.str "backup")) rfl

end Commands

set_option maxRecDepth 10000 in
/-- A running VM is stopped while its status shows a backup. -/
theorem HttpProxmoxAdapter.stop_sent_while_locked :
    ¬∀ (adapter : HttpProxmoxAdapter) (call : AdapterCall) (portalVmId : Uuid) (node : String)
      (vmid : ℤ) (server : HttpServer), call.vm? = some (portalVmId, node, vmid) →
      adapter.RespectsLock call node vmid server := by
  intro respected
  have sent : (Program.run (sampleServer [sampleResource .null] "running" (.str "backup")) 0
      (sampleAdapter.perform (.stopVm 7 "pve" 100))).1 =
      [⟨resourcesRequest, .ok (.dict [("data", .list [sampleResource .null])])⟩,
        ⟨statusRequest "pve" 100, .ok (.dict [("data", .dict [("vmid", .int 100),
          ("status", .str "running"), ("maxdisk", .int 1), ("lock", .str "backup")])])⟩,
        ⟨stopRequest "pve" 100, .ok (.dict [("data", .str "UPID:pve:0001")])⟩] := rfl
  have quiet := respected sampleAdapter (.stopVm 7 "pve" 100) 7 "pve" 100
    (sampleServer [sampleResource .null] "running" (.str "backup")) rfl
  unfold RespectsLock at quiet
  rw [sent] at quiet
  refine quiet ⟨_, .tail _ (.head _), _, rfl, .inr ⟨rfl, _, _, rfl, rfl, rfl⟩⟩
    ⟨stopRequest "pve" 100, _⟩ (.tail _ (.tail _ (.head _))) (by decide)

end NpdPortal
