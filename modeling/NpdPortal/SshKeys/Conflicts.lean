import NpdPortal.Library.Exclusive
import NpdPortal.SshKeys.System

/-!
# Conflicts between SSH key requests

An import whose insert is lost reads once more and reports a conflict.  A
generation whose insert is lost ends with the error of the database: exactly
when another request has committed its name since it was checked.  So does
every request whose name is no text of the column.
-/

namespace NpdPortal

/-! ## The entries of the unique indexes -/

/-- An entry of a unique index. -/
inductive KeyEntry where
  | id (id : Uuid)
  | ownerName (ownerName : Uuid × String)
  | fingerprint (fingerprint : String)

/-- The entries of a row. -/
def SshKeyRow.entries (row : SshKeyRow) : List KeyEntry :=
  [.id row.id, .ownerName row.ownerName, .fingerprint row.fingerprint]

/-- The entries a request holds. -/
def KeyCall.entries (call : KeyCall) : List KeyEntry :=
  match call.pending? with
  | some row => row.entries
  | none => []

theorem SshKeyRow.collides_iff (row other : SshKeyRow) :
    row.Collides other ↔ ∃ entry ∈ row.entries, entry ∈ other.entries := by
  simp [Collides, entries]

theorem KeyCall.mem_entries {call : KeyCall} {entry : KeyEntry} :
    entry ∈ call.entries ↔ ∃ row, call.pending? = some row ∧ entry ∈ row.entries := by
  unfold entries
  cases call.pending? <;> simp

theorem KeyCall.pending?_eq_some {call : KeyCall} {row : SshKeyRow} :
    call.pending? = some row ↔ call.point = .committing row := by
  unfold pending?
  cases call.point <;> simp

/-! ## The statements -/

/-- The statement of the request is a SELECT which the database executes. -/
structure KeyCall.Reads (call : KeyCall) : Prop where
  select : call.inserting? = none
  name : call.point.SelectsName → Sql.FitsText call.name

/-- How a request goes on. -/
inductive KeyCall.Proceeds (call : KeyCall) (table : SshKeyTable) : KeyPoint → Prop
  | selected (reads : call.Reads) : call.Proceeds table .selectingFingerprint
  | checked (id : Uuid) (parsed : ParsedSshPublicKey) (reads : call.Reads) :
      call.Proceeds table (.inserting (call.row id parsed))
  | inserted (row : SshKeyRow) (atInsert : call.point = .inserting row) (fits : table.Fits row) :
      call.Proceeds table (.committing row)
  | rolledBack (row : SshKeyRow) (atInsert : call.point = .inserting row)
      (imports : call.service ≠ .generating) : call.Proceeds table .rechecking

/-- How a request ends. -/
inductive KeyCall.Finishes (call : KeyCall) (table : SshKeyTable) : KeyOutcome → Prop
  | conflict (message : String) (reads : call.Reads) : call.Finishes table (.conflict message)
  | created (row : SshKeyRow) (atCommit : call.point = .committing row) (fits : table.Fits row) :
      call.Finishes table (.created row)
  | refusedCommit (row : SshKeyRow) (atCommit : call.point = .committing row)
      (collides : ¬table.Fits row) : call.Finishes table .integrityError
  | refusedInsert (row : SshKeyRow) (atInsert : call.point = .inserting row)
      (generates : call.service = .generating) (collides : ¬table.Fits row) :
      call.Finishes table .integrityError
  | refusedSelect (selects : call.point.SelectsName) (refused : ¬Sql.FitsText call.name) :
      call.Finishes table .dataError

section Statements

variable {call : KeyCall} {table : SshKeyTable} {id : Uuid}
  {generated : Option ParsedSshPublicKey}

theorem KeyCall.proceeds_of_next {point : KeyPoint}
    (goes : call.next table id generated = some (.proceed point)) : call.Proceeds table point := by
  unfold next at goes
  split at goes
  · cases goes
  rename_i named
  have name : call.point.SelectsName → Sql.FitsText call.name := by
    intro selects
    by_contra refused
    exact named ⟨selects, refused⟩
  split at goes
  · rename_i atName
    have reads : call.Reads := ⟨by simp [inserting?, atName], name⟩
    split at goes
    · cases goes
    · split at goes
      · cases goes
        exact .selected reads
      · cases generated <;> cases goes
        exact .checked id _ reads
  · rename_i atFingerprint _
    have reads : call.Reads := ⟨by simp [inserting?, atFingerprint], name⟩
    split at goes <;> cases goes
    exact .checked id _ reads
  · rename_i row atInsert
    split at goes
    · cases goes
      exact .inserted row atInsert ‹_›
    · split at goes <;> cases goes
      rename_i imports
      exact .rolledBack row atInsert (by simp [imports])
  · split at goes <;> cases goes
  · split at goes <;> cases goes
  · cases goes
  · cases goes

theorem KeyCall.finishes_of_next {outcome : KeyOutcome}
    (ends : call.next table id generated = some (.finish outcome)) :
    call.Finishes table outcome := by
  unfold next at ends
  split at ends
  · rename_i named
    cases ends
    exact .refusedSelect named.1 named.2
  rename_i named
  have name : call.point.SelectsName → Sql.FitsText call.name := by
    intro selects
    by_contra refused
    exact named ⟨selects, refused⟩
  split at ends
  · rename_i atName
    split at ends
    · cases ends
      exact .conflict _ ⟨by simp [inserting?, atName], name⟩
    · split at ends
      · cases ends
      · cases generated <;> cases ends
  · rename_i atFingerprint _
    split at ends <;> cases ends
    exact .conflict _ ⟨by simp [inserting?, atFingerprint], name⟩
  · rename_i row atInsert
    split at ends
    · cases ends
    · split at ends <;> cases ends
      exact .refusedInsert row atInsert ‹_› ‹_›
  · rename_i row atCommit
    split at ends <;> cases ends
    · exact .created row atCommit ‹_›
    · exact .refusedCommit row atCommit ‹_›
  · rename_i atRecheck _
    have reads : call.Reads := ⟨by simp [inserting?, atRecheck], name⟩
    split at ends <;> cases ends <;> exact .conflict _ reads
  · cases ends
  · cases ends

end Statements

/-- Everything a step can do. -/
inductive KeyMove (load : LoadSshPublicKey) (world : KeyWorld) : KeyEvent → KeyWorld → Prop
  | refused (request : SshPublicKeyCreate) (message : String)
      (fails : parseSshPublicKey load request.publicKey = .error message) :
      KeyMove load world (.refused world.nextId request message)
        { world with nextId := world.nextId + 1 }
  | begun (userId : Uuid) (name : String) (service : KeyService) :
      KeyMove load world (world.begin userId name service).1 (world.begin userId name service).2
  | proceeded (call : KeyCall) (point : KeyPoint) (callMem : call ∈ world.calls)
      (free : ¬world.Waits call) (proceeds : call.Proceeds world.table point) :
      KeyMove load world (.proceeded call) (world.goTo call point)
  | ended (call : KeyCall) (outcome : KeyOutcome) (callMem : call ∈ world.calls)
      (finishes : call.Finishes world.table outcome) :
      KeyMove load world (.ended call outcome)
        { world.close call.id with table := world.tableAfter outcome }
  | abandoned (id : ℕ) : KeyMove load world (.abandoned id) (world.close id)

section Moves

variable {load : LoadSshPublicKey} {start : SshKeyTable} {world next : KeyWorld}
  {event : KeyEvent} {history : List KeyEvent}

theorem key_move (step : (sshKeys load start).step world event next) :
    KeyMove load world event next := by
  rcases step with ⟨action, performed⟩
  cases action with
  | importKey userId request =>
      simp only [KeyWorld.step?] at performed
      split at performed <;> cases performed
      · exact .begun userId request.name _
      · exact .refused request _ ‹_›
  | generate userId request =>
      cases performed
      exact .begun userId request.name .generating
  | proceed id rowId generated =>
      simp only [KeyWorld.step?] at performed
      split at performed
      · cases performed
      · rename_i call found
        have callMem := KeyedRows.mem_of_lookup found
        rcases KeyedRows.key_of_lookup found with rfl
        split at performed
        · cases performed
        · split at performed <;> cases performed
          · exact .proceeded call _ callMem ‹_› (KeyCall.proceeds_of_next ‹_›)
          · exact .ended call _ callMem (KeyCall.finishes_of_next ‹_›)
  | abandon id =>
      simp only [KeyWorld.step?] at performed
      split at performed <;> cases performed
      exact .abandoned id

/-! ## The invariant -/

/-- The rows which the requests are about to write. -/
structure KeyWorld.Sound (world : KeyWorld) : Prop where
  ids : (world.calls.map (·.id)).Nodup
  old : ∀ call ∈ world.calls, call.id < world.nextId
  own : ∀ call ∈ world.calls, ∀ row, call.point = .inserting row ∨ call.point = .committing row →
    row.ownerName = (call.userId, call.name)
  fits : ∀ call ∈ world.calls, ∀ row, call.point = .committing row → world.table.Fits row
  apart : Exclusive KeyCall.entries world.calls

theorem SshKeyTable.mem_insert {table : SshKeyTable} {row stored : SshKeyRow}
    {fits : table.Fits row} :
    stored ∈ (table.insert row fits).rows ↔ stored ∈ table.rows ∨ stored = row := by
  simp [SshKeyTable.insert]

/-- The row of a request that goes on belongs to the requester. -/
theorem KeyCall.Proceeds.own {call : KeyCall} {table : SshKeyTable} {point : KeyPoint}
    {row : SshKeyRow} (proceeds : call.Proceeds table point)
    (before : ∀ row, call.point = .inserting row → row.ownerName = (call.userId, call.name))
    (writes : point = .inserting row ∨ point = .committing row) :
    row.ownerName = (call.userId, call.name) := by
  cases proceeds with
  | selected reads => simp at writes
  | checked id parsed reads =>
      simp only [KeyPoint.inserting.injEq, reduceCtorEq, or_false] at writes
      rw [← writes]
      rfl
  | inserted inserted atInsert fits =>
      simp only [reduceCtorEq, KeyPoint.committing.injEq, false_or] at writes
      exact writes ▸ before inserted atInsert
  | rolledBack inserted atInsert imports => simp at writes

/-- A request which may go on takes no entry that another one holds. -/
theorem KeyWorld.available {call : KeyCall} {point : KeyPoint} (free : ¬world.Waits call)
    (proceeds : call.Proceeds world.table point) :
    ∀ other ∈ world.calls, other.id ≠ call.id →
      ∀ entry ∈ ({ call with point } : KeyCall).entries, entry ∉ other.entries := by
  intro other otherMem differs entry taken held
  rcases KeyCall.mem_entries.mp taken with ⟨row, pending, inRow⟩
  rcases KeyCall.mem_entries.mp held with ⟨otherRow, otherPending, inOther⟩
  have atCommit := KeyCall.pending?_eq_some.mp pending
  cases proceeds with
  | inserted inserted atInsert fits =>
      cases atCommit
      refine free ⟨row, ?_, other, otherMem, differs, otherRow, otherPending, ?_⟩
      · simp [KeyCall.inserting?, atInsert]
      · exact (row.collides_iff otherRow).mpr ⟨entry, inRow, inOther⟩
  | _ => cases atCommit

/-- Requests may end, and a row may be committed which none of the others holds an entry of. -/
theorem KeyWorld.Sound.close {world : KeyWorld} (sound : world.Sound) (id : ℕ)
    {table : SshKeyTable}
    (fits : ∀ call ∈ world.calls, call.id ≠ id → ∀ row, call.point = .committing row →
      table.Fits row) : KeyWorld.Sound { world.close id with table } where
  ids := sound.ids.sublist (List.filter_sublist.map _)
  old call callMem := sound.old call (List.mem_of_mem_filter callMem)
  own call callMem := sound.own call (List.mem_of_mem_filter callMem)
  fits call callMem row atCommit := by
    rcases List.mem_filter.mp callMem with ⟨stored, differs⟩
    exact fits call stored (by simpa using differs) row atCommit
  apart := sound.apart.subset fun _ callMem => List.mem_of_mem_filter callMem

theorem KeyMove.sound (move : KeyMove load world event next) (sound : world.Sound) :
    next.Sound := by
  cases move with
  | refused request message fails =>
      refine ⟨sound.ids, fun call callMem => ?_, sound.own, sound.fits, sound.apart⟩
      exact Nat.lt_succ_of_lt (sound.old call callMem)
  | begun userId name service =>
      have cases : ∀ call ∈ (world.begin userId name service).2.calls,
          call ∈ world.calls ∨ call.id = world.nextId ∧ call.point = .selectingName := by
        intro call callMem
        rcases List.mem_append.mp callMem with stored | isNew
        · exact .inl stored
        · rw [List.mem_singleton.mp isNew]
          exact .inr ⟨rfl, rfl⟩
      refine ⟨?_, ?_, ?_, ?_, sound.apart.append_idle rfl⟩
      · have fresh : world.nextId ∉ world.calls.map (·.id) := by
          intro taken
          rcases List.mem_map.mp taken with ⟨call, callMem, same⟩
          have := sound.old call callMem
          omega
        simp only [KeyWorld.begin, List.map_append, List.map_singleton]
        exact List.nodup_append.mpr ⟨sound.ids, List.nodup_singleton _, by
          rintro id idMem _ isNew rfl
          rw [List.mem_singleton.mp isNew] at idMem
          exact fresh idMem⟩
      · intro call callMem
        rcases cases call callMem with stored | ⟨same, _⟩
        · exact Nat.lt_succ_of_lt (sound.old call stored)
        · rw [same]
          exact Nat.lt_succ_self _
      · intro call callMem row writes
        rcases cases call callMem with stored | ⟨_, atStart⟩
        · exact sound.own call stored row writes
        · simp [atStart] at writes
      · intro call callMem row atCommit
        rcases cases call callMem with stored | ⟨_, atStart⟩
        · exact sound.fits call stored row atCommit
        · simp [atStart] at atCommit
  | proceeded call point callMem free proceeds =>
      have available := KeyWorld.available free proceeds
      refine ⟨?_, ?_, ?_, ?_, sound.apart.replace available⟩
      · rw [KeyWorld.goTo, KeyedRows.map_key_replace]
        exact sound.ids
      · intro other otherMem
        rcases KeyedRows.mem_replace.mp otherMem with ⟨rfl, _⟩ | ⟨stored, _⟩
        · exact sound.old call callMem
        · exact sound.old other stored
      · intro other otherMem row writes
        rcases KeyedRows.mem_replace.mp otherMem with ⟨rfl, _⟩ | ⟨stored, _⟩
        · exact proceeds.own (fun row atInsert => sound.own call callMem row (.inl atInsert)) writes
        · exact sound.own other stored row writes
      · intro other otherMem row atCommit
        rcases KeyedRows.mem_replace.mp otherMem with ⟨rfl, _⟩ | ⟨stored, _⟩
        · cases proceeds with
          | inserted inserted atInsert fits =>
              cases atCommit
              exact fits
          | _ => cases atCommit
        · exact sound.fits other stored row atCommit
  | ended call outcome callMem finishes =>
      apply sound.close
      intro other otherMem differs row atCommit
      have before := sound.fits other otherMem row atCommit
      cases finishes with
      | created created createdPoint fits =>
          simp only [KeyWorld.tableAfter, dif_pos fits]
          intro stored storedMem collides
          rcases SshKeyTable.mem_insert.mp storedMem with old | rfl
          · exact before stored old collides
          · rcases (row.collides_iff stored).mp collides with ⟨entry, inRow, inStored⟩
            have same := sound.apart other otherMem call callMem entry
              (KeyCall.mem_entries.mpr ⟨row, KeyCall.pending?_eq_some.mpr atCommit, inRow⟩)
              (KeyCall.mem_entries.mpr
                ⟨stored, KeyCall.pending?_eq_some.mpr createdPoint, inStored⟩)
            exact differs (congrArg KeyCall.id same)
      | _ => exact before
  | abandoned id =>
      exact sound.close id fun call callMem _ => sound.fits call callMem

end Moves

theorem key_sound_of_reachable {load : LoadSshPublicKey} {start : SshKeyTable} {world : KeyWorld}
    (reachable : (sshKeys load start).Reachable world) : world.Sound := by
  refine reachable.invariant ?_ fun sound step => (key_move step).sound sound
  rintro _ rfl
  exact ⟨List.nodup_nil, by simp, by simp, by simp, Exclusive.nil⟩

/-! ## The requests of a run -/

/-- The request which executed a statement. -/
def KeyEvent.call? : KeyEvent → Option KeyCall
  | .proceeded call | .ended call _ => some call
  | _ => none

/-- The request which ended with a reply. -/
def KeyEvent.endedId? : KeyEvent → Option ℕ
  | .refused id .. => some id
  | .ended call _ => some call.id
  | _ => none

/-- The row which was committed. -/
def KeyEvent.created? : KeyEvent → Option SshKeyRow
  | .ended _ (.created row) => some row
  | _ => none

/-- Every request creates one row of the requester or ends with a conflict or, if its key cannot
be parsed, as invalid, and only the rows it creates change the table. -/
structure KeysRespected (load : LoadSshPublicKey) (start : SshKeyTable) (history : List KeyEvent)
    (world : KeyWorld) : Prop where
  ended : ∀ call outcome, .ended call outcome ∈ history →
    (∃ row, outcome = .created row ∧ row.ownerUserId = call.userId ∧ row.name = call.name) ∨
      ∃ message, outcome = .conflict message
  refused : ∀ id request message, .refused id request message ∈ history →
    parseSshPublicKey load request.publicKey = .error message
  /-- A request ends once. -/
  once : (history.filterMap KeyEvent.endedId?).Nodup
  rows : world.table.rows = start.rows ++ history.filterMap KeyEvent.created?
  names : (world.table.rows.map (·.ownerName)).Nodup
  fingerprints : (world.table.rows.map (·.fingerprint)).Nodup

/-- The database takes the name by which a request selects, and a generation which executes its
insert finds its name, its fingerprint and its id free. -/
structure KeyWorld.Admits (world : KeyWorld) (event : KeyEvent) : Prop where
  name : ∀ call ∈ event.call?, call.point.SelectsName → Sql.FitsText call.name
  generation : ∀ call ∈ event.call?, call.service = .generating → ∀ row,
    call.point = .inserting row → world.table.Fits row

section Runs

variable {load : LoadSshPublicKey} {start : SshKeyTable} {world next : KeyWorld}
  {event : KeyEvent} {history : List KeyEvent}

theorem KeyMove.rows (move : KeyMove load world event next) :
    next.table.rows = world.table.rows ++ event.created?.toList := by
  cases move with
  | ended call outcome callMem finishes =>
      cases finishes with
      | created row atCommit fits => simp [KeyWorld.tableAfter, fits, SshKeyTable.insert,
          KeyEvent.created?]
      | _ => simp [KeyWorld.tableAfter, KeyEvent.created?]
  | _ => simp [KeyEvent.created?, KeyWorld.begin, KeyWorld.goTo, KeyWorld.close]

theorem KeyMove.refused_eq {id : ℕ} {request : SshPublicKeyCreate} {message : String}
    (move : KeyMove load world (.refused id request message) next) :
    parseSshPublicKey load request.publicKey = .error message := by
  cases move with
  | refused _ _ fails => exact fails

/-- A generation that executes its insert against a colliding row ends with the error. -/
theorem KeyMove.raises {call : KeyCall} {row : SshKeyRow} (move : KeyMove load world event next)
    (executes : event.call? = some call) (generates : call.service = .generating)
    (atInsert : call.point = .inserting row) (collides : ¬world.table.Fits row) :
    event = .ended call .integrityError := by
  have writes : call.inserting? = some row := by simp [KeyCall.inserting?, atInsert]
  cases move with
  | proceeded other point callMem free proceeds =>
      cases executes
      cases proceeds with
      | selected reads => simp [reads.select] at writes
      | checked id parsed reads => simp [reads.select] at writes
      | inserted inserted same fits =>
          cases atInsert.symm.trans same
          exact absurd fits collides
      | rolledBack _ _ imports => exact absurd generates imports
  | ended other outcome callMem finishes =>
      cases executes
      cases finishes with
      | conflict message reads => simp [reads.select] at writes
      | created created atCommit fits => cases atInsert.symm.trans atCommit
      | refusedCommit created atCommit collides => rfl
      | refusedInsert created same generates collides => rfl
      | refusedSelect selects refused => simp [KeyPoint.SelectsName, atInsert] at selects
  | _ => cases executes

/-- A request that selects by a name which is no text of the column ends with the error. -/
theorem KeyMove.raises_dataError {call : KeyCall} (move : KeyMove load world event next)
    (executes : event.call? = some call) (selects : call.point.SelectsName)
    (refused : ¬Sql.FitsText call.name) : event = .ended call .dataError := by
  have notWriting : ∀ row, call.point ≠ .inserting row ∧ call.point ≠ .committing row := by
    intro row
    rcases selects with atName | atRecheck
    · simp [atName]
    · simp [atRecheck]
  cases move with
  | proceeded other point callMem free proceeds =>
      cases executes
      cases proceeds with
      | selected reads => exact absurd (reads.name selects) refused
      | checked id parsed reads => exact absurd (reads.name selects) refused
      | inserted row atInsert fits => exact absurd atInsert (notWriting row).1
      | rolledBack row atInsert imports => exact absurd atInsert (notWriting row).1
  | ended other outcome callMem finishes =>
      cases executes
      cases finishes with
      | conflict message reads => exact absurd (reads.name selects) refused
      | created row atCommit fits => exact absurd atCommit (notWriting row).2
      | refusedCommit row atCommit collides => exact absurd atCommit (notWriting row).2
      | refusedInsert row atInsert generates collides => exact absurd atInsert (notWriting row).1
      | refusedSelect selects refused => rfl
  | _ => cases executes

/-- How a statement ends a request of a sound world. -/
theorem KeyMove.ended_eq {call : KeyCall} {outcome : KeyOutcome}
    (move : KeyMove load world (.ended call outcome) next) (sound : world.Sound) :
    (∃ row, outcome = .created row ∧ row.ownerUserId = call.userId ∧ row.name = call.name) ∨
      (∃ message, outcome = .conflict message) ∨
      ¬world.Admits (.ended call outcome) := by
  cases move with
  | ended _ _ callMem finishes =>
      cases finishes with
      | conflict message reads => exact .inr (.inl ⟨message, rfl⟩)
      | created row atCommit fits =>
          have own := Prod.mk.inj (sound.own call callMem row (.inr atCommit))
          exact .inl ⟨row, rfl, own.1, own.2⟩
      | refusedCommit row atCommit collides =>
          exact absurd (sound.fits call callMem row atCommit) collides
      | refusedInsert row atInsert generates collides =>
          refine .inr (.inr fun admits => collides ?_)
          exact admits.generation call rfl generates row atInsert
      | refusedSelect selects refused =>
          exact .inr (.inr fun admits => refused (admits.name call rfl selects))

/-- The ids of the requests under way only become fewer, but for a new one. -/
theorem KeyMove.ids (move : KeyMove load world event next) :
    world.nextId ≤ next.nextId ∧ ∀ id ∈ next.calls.map (·.id),
      id ∈ world.calls.map (·.id) ∨ id = world.nextId ∧ id < next.nextId := by
  have closed : ∀ gone, ∀ id ∈ (world.close gone).calls.map (·.id),
      id ∈ world.calls.map (·.id) := by
    intro gone id idMem
    rcases List.mem_map.mp idMem with ⟨call, callMem, rfl⟩
    exact List.mem_map_of_mem (List.mem_of_mem_filter callMem)
  cases move with
  | refused request message fails => exact ⟨Nat.le_succ _, fun id idMem => .inl idMem⟩
  | begun userId name service =>
      refine ⟨Nat.le_succ _, fun id idMem => ?_⟩
      simp only [KeyWorld.begin, List.map_append, List.map_singleton, List.mem_append,
        List.mem_singleton] at idMem ⊢
      rcases idMem with old | rfl
      · exact .inl old
      · exact .inr ⟨rfl, Nat.lt_succ_self _⟩
  | proceeded call point callMem free proceeds =>
      refine ⟨le_rfl, fun id idMem => .inl ?_⟩
      rwa [KeyWorld.goTo, KeyedRows.map_key_replace] at idMem
  | ended call outcome callMem finishes => exact ⟨le_rfl, fun id idMem => .inl (closed _ id idMem)⟩
  | abandoned gone => exact ⟨le_rfl, fun id idMem => .inl (closed _ id idMem)⟩

/-- A request that ends was under way or has just begun, and is no more. -/
theorem KeyMove.ends {id : ℕ} (move : KeyMove load world event next) (sound : world.Sound)
    (ends : event.endedId? = some id) :
    (id ∈ world.calls.map (·.id) ∨ id = world.nextId) ∧ id < next.nextId ∧
      id ∉ next.calls.map (·.id) := by
  cases move with
  | refused request message fails =>
      cases ends
      refine ⟨.inr rfl, Nat.lt_succ_self _, fun taken => ?_⟩
      rcases List.mem_map.mp taken with ⟨call, callMem, same⟩
      have := sound.old call callMem
      omega
  | ended call outcome callMem finishes =>
      cases ends
      refine ⟨.inl (List.mem_map_of_mem callMem), sound.old call callMem, fun remains => ?_⟩
      rcases List.mem_map.mp remains with ⟨other, otherMem, same⟩
      simpa [same] using (List.mem_filter.mp otherMem).2
  | _ => cases ends

/-- What a run knows of the requests which have ended. -/
structure EndedOnce (history : List KeyEvent) (world : KeyWorld) : Prop where
  once : (history.filterMap KeyEvent.endedId?).Nodup
  old : ∀ id ∈ history.filterMap KeyEvent.endedId?, id < world.nextId
  gone : ∀ id ∈ history.filterMap KeyEvent.endedId?, id ∉ world.calls.map (·.id)

theorem KeyMove.endedOnce (move : KeyMove load world event next) (sound : world.Sound)
    (before : EndedOnce history world) : EndedOnce (history ++ [event]) next := by
  rcases move.ids with ⟨later, ids⟩
  have old : ∀ id ∈ history.filterMap KeyEvent.endedId?,
      id < next.nextId ∧ id ∉ next.calls.map (·.id) := by
    intro id idMem
    have isOld := before.old id idMem
    refine ⟨isOld.trans_le later, fun remains => ?_⟩
    rcases ids id remains with stored | ⟨rfl, _⟩
    · exact before.gone id idMem stored
    · exact lt_irrefl _ isOld
  cases ended : event.endedId? with
  | none =>
      have same : (history ++ [event]).filterMap KeyEvent.endedId? =
          history.filterMap KeyEvent.endedId? := by
        simp [ended]
      refine ⟨?_, ?_, ?_⟩ <;> rw [same]
      · exact before.once
      · exact fun id idMem => (old id idMem).1
      · exact fun id idMem => (old id idMem).2
  | some id =>
      rcases move.ends sound ended with ⟨wasThere, isOld, isGone⟩
      have same : (history ++ [event]).filterMap KeyEvent.endedId? =
          history.filterMap KeyEvent.endedId? ++ [id] := by
        simp [ended]
      have cases : ∀ other ∈ history.filterMap KeyEvent.endedId? ++ [id],
          other < next.nextId ∧ other ∉ next.calls.map (·.id) := by
        intro other otherMem
        rcases List.mem_append.mp otherMem with earlier | isLast
        · exact old other earlier
        · exact List.mem_singleton.mp isLast ▸ ⟨isOld, isGone⟩
      refine ⟨?_, ?_, ?_⟩ <;> rw [same]
      · refine List.nodup_append.mpr ⟨before.once, List.nodup_singleton _, ?_⟩
        rintro other otherMem _ isLast rfl
        rw [List.mem_singleton.mp isLast] at otherMem
        rcases wasThere with stored | rfl
        · exact before.gone id otherMem stored
        · exact lt_irrefl _ (before.old _ otherMem)
      · exact fun other otherMem => (cases other otherMem).1
      · exact fun other otherMem => (cases other otherMem).2

/-- Of every run: the requests end once and the rows they create are the new rows. -/
theorem keys_of_execution (execution : (sshKeys load start).Execution history world) :
    EndedOnce history world ∧
      world.table.rows = start.rows ++ history.filterMap KeyEvent.created? ∧
      ∀ id request message, .refused id request message ∈ history →
        parseSshPublicKey load request.publicKey = .error message := by
  refine execution.invariant (motive := fun history world => EndedOnce history world ∧
    world.table.rows = start.rows ++ history.filterMap KeyEvent.created? ∧
    ∀ id request message, .refused id request message ∈ history →
      parseSshPublicKey load request.publicKey = .error message) ?_ ?_
  · rintro _ rfl
    exact ⟨⟨List.nodup_nil, by simp, by simp⟩, by simp, by simp⟩
  · intro history state event next earlier ih step
    rcases ih with ⟨ended, rows, refused⟩
    have move := key_move step
    have sound := key_sound_of_reachable earlier.reachable
    refine ⟨move.endedOnce sound ended, ?_, ?_⟩
    · rw [move.rows, rows, List.filterMap_append, List.append_assoc]
      cases created : event.created? <;> simp [created]
    · intro id request message isThere
      rcases List.mem_append.mp isThere with before | isLast
      · exact refused id request message before
      · cases List.mem_singleton.mp isLast
        exact move.refused_eq

/-- The requests of a run are respected exactly when no request selects by a name that is no text
of the column, and no generation executes its insert against a committed row with its name, its
fingerprint or its id. -/
theorem keysRespected_iff (execution : (sshKeys load start).Execution history world) :
    KeysRespected load start history world ↔
      (sshKeys load start).Along history world fun _ before event _ =>
        before.Admits event := by
  constructor
  · intro respected first event rest before after whole earlier step later
    have eventMem : event ∈ history := by simp [whole]
    refine ⟨?_, ?_⟩
    · intro call executes selects
      by_contra refused
      have found := (key_move step).raises_dataError executes selects refused
      rcases respected.ended call _ (found ▸ eventMem) with ⟨_, impossible, _⟩ | ⟨_, impossible⟩
      · cases impossible
      · cases impossible
    · intro call executes generates row atInsert
      by_contra collides
      have found := (key_move step).raises executes generates atInsert collides
      rcases respected.ended call _ (found ▸ eventMem) with ⟨_, impossible, _⟩ | ⟨_, impossible⟩
      · cases impossible
      · cases impossible
  · intro along
    rcases keys_of_execution execution with ⟨ended, rows, refused⟩
    refine ⟨?_, refused, ended.once, rows, world.table.unique.names,
      world.table.unique.fingerprints⟩
    intro call outcome isThere
    rcases List.append_of_mem isThere with ⟨first, rest, whole⟩
    have split := execution
    rw [whole] at split
    rcases split.split with ⟨before, after, earlier, step, later⟩
    have admits := along first _ rest before after whole earlier step later
    rcases (key_move step).ended_eq (key_sound_of_reachable earlier.reachable) with
      created | conflict | refused
    · exact .inl created
    · exact .inr conflict
    · exact absurd admits refused

end Runs

/-! ## Two generations of one name -/

/-- Two keys as the library loads them. -/
def sampleKeys : List LoadedSshKey :=
  [ { keyClass := .ed25519
      openSsh := "ssh-ed25519 AAAAC3NzaC1lZDI1NTE5AAAAILXD5hvkNQhVB+lAbP50cAdixrOMIAMwW8O55MxYqqMn"
      fingerprint := [83, 115, 43, 6, 139, 199, 105, 20, 6, 121, 236, 177, 149, 192, 0, 93,
      202, 144, 90, 116, 162, 107, 197, 213, 123, 75, 199, 59, 223, 81, 189, 183] },
    { keyClass := .ed25519
      openSsh := "ssh-ed25519 AAAAC3NzaC1lZDI1NTE5AAAAILXD5hvkNQhVB+lAbP50cAdixrOMIAMwW8O55MxYqqMm"
      fingerprint := [254, 40, 157, 134, 236, 47, 214, 112, 164, 13, 212, 75, 146, 138, 36, 66,
      94, 234, 177, 218, 228, 10, 180, 236, 245, 12, 214, 225, 130, 248, 189, 215] } ]

/-- The library on the texts of these keys. -/
def sampleLoad : LoadSshPublicKey := fun bytes =>
  sampleKeys.find? fun key => (PyString.strip key.openSsh).toUTF8.data = bytes.data

def sampleGenerated (index : Fin 2) : GeneratedKey sampleLoad where
  key := sampleKeys.get index
  ed25519 := by
    revert index
    decide
  loads := by
    revert index
    decide +kernel

/-- Both generations read before either inserts. -/
def sampleGenerations : List (KeyAction sampleLoad) :=
  [ .generate 7 { name := "laptop", nameLength := by decide },
    .generate 7 { name := "laptop", nameLength := by decide },
    .proceed 0 1 (some (sampleGenerated 0)), .proceed 1 2 (some (sampleGenerated 1)),
    .proceed 0 1 none, .proceed 0 1 none, .proceed 1 2 none ]

def noKeys : SshKeyTable where
  rows := []
  unique := ⟨List.nodup_nil, List.nodup_nil, List.nodup_nil⟩

set_option maxRecDepth 10000 in
/-- The second generation ends with the error of the database. -/
theorem sampleGenerations_raise :
    ∃ call, .ended call .integrityError ∈ (KeyWorld.perform noKeys sampleGenerations).1 := by
  have last : (KeyWorld.perform noKeys sampleGenerations).1.getLast? = some (.ended
      ⟨1, 7, "laptop", .generating, .inserting ⟨2, 7, "laptop", (sampleKeys[1]).parsed.keyType,
        (sampleKeys[1]).parsed.publicKey, (sampleKeys[1]).parsed.fingerprint⟩⟩
      .integrityError) := rfl
  exact ⟨_, List.mem_of_getLast? last⟩

theorem keysRespected_iff_sample :
    (∃ call, .ended call .integrityError ∈ (KeyWorld.perform noKeys sampleGenerations).1) ∧
      (KeysRespected sampleLoad noKeys (KeyWorld.perform noKeys sampleGenerations).1
          (KeyWorld.perform noKeys sampleGenerations).2 ↔
        (sshKeys sampleLoad noKeys).Along (KeyWorld.perform noKeys sampleGenerations).1
          (KeyWorld.perform noKeys sampleGenerations).2
          fun _ before event _ => before.Admits event) :=
  ⟨sampleGenerations_raise, keysRespected_iff (KeyWorld.perform_execution _ _)⟩

/-- The name was free when the second generation read it. -/
theorem sampleGenerations_not_respected :
    ¬∀ load start history world, (sshKeys load start).Execution history world →
      KeysRespected load start history world := by
  intro always
  have respected := always sampleLoad noKeys _ _ (KeyWorld.perform_execution _ sampleGenerations)
  rcases sampleGenerations_raise with ⟨call, raised⟩
  rcases respected.ended call _ raised with ⟨_, impossible, _⟩ | ⟨_, impossible⟩ <;>
    cases impossible

end NpdPortal
