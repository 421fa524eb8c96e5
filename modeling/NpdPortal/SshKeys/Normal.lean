import NpdPortal.SshKeys.Conflicts

/-!
# Stored keys are in normal form

However a key is written in a request, its row has the text which the library
writes for it.  So a stored key is found again however it is written, and a
second import of it ends with a conflict.
-/

namespace NpdPortal

/-- What the endpoints of `ssh_keys/router.py` send back, without the private key. -/
inductive KeyResponse where
  /-- Status 201. -/
  | created (row : SshKeyRow)
  | httpException (status : ℕ) (detail : String)
  deriving DecidableEq

/-- The response at the end of a request of `import_ssh_key` or `generate_ssh_key_pair_endpoint`;
every other exception is raised again. -/
def KeyEvent.response? : KeyEvent → Option KeyResponse
  | .refused _ _ message => some (.httpException 400 message)
  | .ended _ (.created row) => some (.created row)
  | .ended _ (.conflict message) => some (.httpException 409 message)
  | _ => none

/-- The library loads the text it writes for a key as this key. -/
def RoundTrips (load : LoadSshPublicKey) : Prop :=
  ∀ bytes key, load bytes = some key → load (PyString.strip key.openSsh).toUTF8 = some key

/-- The columns of a row which come from the key. -/
def SshKeyRow.parsed (row : SshKeyRow) : ParsedSshPublicKey where
  keyType := row.keyType
  publicKey := row.publicKey
  fingerprint := row.fingerprint

/-- Parsing the text of the row gives the columns of the row. -/
def SshKeyRow.Normal (load : LoadSshPublicKey) (row : SshKeyRow) : Prop :=
  parseSshPublicKey load row.publicKey = .ok row.parsed

/-- A request under way with a key in normal form. -/
structure KeyCall.Normal (load : LoadSshPublicKey) (call : KeyCall) : Prop where
  imports : ∀ parsed, call.service = .importing parsed →
    parseSshPublicKey load parsed.publicKey = .ok parsed
  row : ∀ row, call.point = .inserting row ∨ call.point = .committing row →
    row.Normal load ∧ ∀ parsed, call.service = .importing parsed → row.parsed = parsed

structure KeyWorld.Normal (load : LoadSshPublicKey) (world : KeyWorld) : Prop where
  rows : ∀ row ∈ world.table.rows, row.Normal load
  calls : ∀ call ∈ world.calls, call.Normal load

section Parsing

variable {load : LoadSshPublicKey} {value other : String} {parsed : ParsedSshPublicKey}

/-- Only the loaded key counts. -/
theorem parseSshPublicKey_congr
    (same : load (PyString.strip value).toUTF8 = load (PyString.strip other).toUTF8) :
    parseSshPublicKey load value = parseSshPublicKey load other := by
  unfold parseSshPublicKey
  rw [same]

/-- The parsed text is a fixed point of parsing. -/
theorem parseSshPublicKey_normal (roundTrips : RoundTrips load)
    (parses : parseSshPublicKey load value = .ok parsed) :
    parseSshPublicKey load parsed.publicKey = .ok parsed := by
  unfold parseSshPublicKey at parses
  split at parses
  · cases parses
  · rename_i key loaded
    have isParsed : parsed = key.parsed := by
      split at parses
      · cases parses
        rfl
      · split at parses <;> cases parses
        rfl
      · cases parses
    subst isParsed
    unfold parseSshPublicKey
    simp only [LoadedSshKey.parsed, roundTrips _ _ loaded]
    exact parses

end Parsing

section Requests

variable {load : LoadSshPublicKey} {start : SshKeyTable} {world next : KeyWorld}
  {event : KeyEvent} {history : List KeyEvent} {call : KeyCall}

/-- The next statement of a request keeps its key. -/
theorem KeyCall.Normal.proceed (normal : call.Normal load) {table : SshKeyTable} {id : Uuid}
    {generated : Option (GeneratedKey load)} {point : KeyPoint}
    (goes : call.next table id (generated.map (·.key.parsed)) = some (.proceed point)) :
    KeyCall.Normal load { call with point } := by
  refine ⟨normal.imports, ?_⟩
  intro row writes
  unfold KeyCall.next at goes
  split at goes
  · cases goes
  split at goes
  · split at goes
    · cases goes
    · split at goes
      · cases goes
        simp at writes
      · rename_i generates
        cases generated with
        | none => cases goes
        | some generated =>
            cases goes
            simp only [KeyPoint.inserting.injEq, reduceCtorEq, or_false] at writes
            subst writes
            refine ⟨generated.parse_eq, fun parsed imports => ?_⟩
            simp [generates] at imports
  · rename_i parsed _ imports
    split at goes <;> cases goes
    simp only [KeyPoint.inserting.injEq, reduceCtorEq, or_false] at writes
    subst writes
    refine ⟨normal.imports parsed imports, fun other isOther => ?_⟩
    cases imports.symm.trans isOther
    rfl
  · rename_i inserted atInsert
    split at goes
    · cases goes
      simp only [reduceCtorEq, KeyPoint.committing.injEq, false_or] at writes
      exact normal.row row (.inl (writes ▸ atInsert))
    · split at goes <;> cases goes
      simp at writes
  · split at goes <;> cases goes
  · split at goes <;> cases goes
  · cases goes
  · cases goes

/-- Only rows in normal form are committed. -/
theorem KeyCall.Normal.tableAfter (normal : call.Normal load)
    (rows : ∀ row ∈ world.table.rows, row.Normal load) {outcome : KeyOutcome}
    (finishes : call.Finishes world.table outcome) :
    ∀ row ∈ (world.tableAfter outcome).rows, row.Normal load := by
  intro row rowMem
  cases finishes with
  | created created atCommit fits =>
      simp only [KeyWorld.tableAfter, dif_pos fits] at rowMem
      rcases SshKeyTable.mem_insert.mp rowMem with old | rfl
      · exact rows row old
      · exact (normal.row row (.inr atCommit)).1
  | _ => exact rows row rowMem

/-- Every step keeps the normal form. -/
theorem KeyWorld.Normal.step (normal : world.Normal load) (roundTrips : RoundTrips load)
    (step : (sshKeys load start).step world event next) : next.Normal load := by
  have begins : ∀ userId name service,
      (∀ parsed, service = .importing parsed →
        parseSshPublicKey load parsed.publicKey = .ok parsed) →
      (world.begin userId name service).2.Normal load := by
    intro userId name service imports
    refine ⟨normal.rows, fun call callMem => ?_⟩
    rcases List.mem_append.mp callMem with stored | isNew
    · exact normal.calls call stored
    · rw [List.mem_singleton.mp isNew]
      exact ⟨imports, fun row writes => by simp at writes⟩
  rcases step with ⟨action, performed⟩
  cases action with
  | importKey userId request =>
      simp only [KeyWorld.step?] at performed
      split at performed <;> cases performed
      · rename_i parsed parses
        apply begins
        intro other same
        cases same
        exact parseSshPublicKey_normal roundTrips parses
      · exact ⟨normal.rows, normal.calls⟩
  | generate userId request =>
      cases performed
      exact begins _ _ _ fun parsed same => by cases same
  | proceed id rowId generated =>
      simp only [KeyWorld.step?] at performed
      split at performed
      · cases performed
      · rename_i call found
        have callMem := KeyedRows.mem_of_lookup found
        split at performed
        · cases performed
        · split at performed <;> cases performed
          · rename_i goes
            refine ⟨normal.rows, fun other otherMem => ?_⟩
            rcases KeyedRows.mem_replace.mp otherMem with ⟨rfl, _⟩ | ⟨stored, _⟩
            · exact (normal.calls call callMem).proceed goes
            · exact normal.calls other stored
          · rename_i ends
            refine ⟨(normal.calls call callMem).tableAfter normal.rows
              (KeyCall.finishes_of_next ends), fun other otherMem => ?_⟩
            exact normal.calls other (List.mem_of_mem_filter otherMem)
  | abandon id =>
      simp only [KeyWorld.step?] at performed
      split at performed <;> cases performed
      exact ⟨normal.rows, fun other otherMem =>
        normal.calls other (List.mem_of_mem_filter otherMem)⟩

theorem normal_of_reachable (roundTrips : RoundTrips load)
    (starts : ∀ row ∈ start.rows, row.Normal load)
    (reachable : (sshKeys load start).Reachable world) : world.Normal load := by
  refine reachable.invariant ?_ fun normal step => normal.step roundTrips step
  rintro _ rfl
  exact ⟨starts, by simp⟩

/-! ## A second import -/

/-- The request with this id imports the key under a name which the database takes, and a key with
the fingerprint is stored. -/
structure KeyWorld.Reimports (world : KeyWorld) (id : ℕ) (parsed : ParsedSshPublicKey) : Prop where
  begun : id < world.nextId
  imports : ∀ call ∈ world.calls, call.id = id →
    call.service = .importing parsed ∧ Sql.FitsText call.name
  stored : ∃ row ∈ world.table.rows, row.fingerprint = parsed.fingerprint

theorem KeyMove.reimports (move : KeyMove load world event next) {id : ℕ}
    {parsed : ParsedSshPublicKey} (reimports : world.Reimports id parsed) :
    next.Reimports id parsed := by
  have stored : ∃ row ∈ next.table.rows, row.fingerprint = parsed.fingerprint := by
    rcases reimports.stored with ⟨row, rowMem, same⟩
    rw [move.rows]
    exact ⟨row, List.mem_append_left _ rowMem, same⟩
  refine ⟨reimports.begun.trans_le move.ids.1, ?_, stored⟩
  intro other otherMem same
  cases move with
  | refused request message fails => exact reimports.imports other otherMem same
  | begun userId name service =>
      rcases List.mem_append.mp otherMem with old | isNew
      · exact reimports.imports other old same
      · rw [List.mem_singleton.mp isNew] at same
        exact absurd same reimports.begun.ne'
  | proceeded call point callMem free proceeds =>
      rcases KeyedRows.mem_replace.mp otherMem with ⟨rfl, _⟩ | ⟨old, _⟩
      · exact reimports.imports call callMem same
      · exact reimports.imports other old same
  | ended call outcome callMem finishes =>
      exact reimports.imports other (List.mem_of_mem_filter otherMem) same
  | abandoned gone => exact reimports.imports other (List.mem_of_mem_filter otherMem) same

/-- An import of a stored key can only end with a conflict. -/
theorem KeyMove.conflicts {outcome : KeyOutcome}
    (move : KeyMove load world (.ended call outcome) next) (sound : world.Sound)
    (normal : world.Normal load) {parsed : ParsedSshPublicKey}
    (reimports : world.Reimports call.id parsed) : ∃ message, outcome = .conflict message := by
  cases move with
  | ended _ _ callMem finishes =>
      rcases reimports.imports call callMem rfl with ⟨imports, named⟩
      rcases reimports.stored with ⟨stored, storedMem, same⟩
      cases finishes with
      | conflict message reads => exact ⟨message, rfl⟩
      | created row atCommit fits =>
          have isKey := ((normal.calls call callMem).row row (.inr atCommit)).2 parsed imports
          have collides : row.fingerprint = stored.fingerprint := by
            rw [same, ← isKey]
            rfl
          exact absurd (.inr (.inr collides)) (fits stored storedMem)
      | refusedCommit row atCommit collides =>
          exact absurd (sound.fits call callMem row atCommit) collides
      | refusedInsert row atInsert generates collides => cases imports.symm.trans generates
      | refusedSelect selects refused => exact absurd named refused

/-- In every run every stored row is what parsing its own text gives, and an import of a stored
key, however the key is written and whoever asks for it, is answered with a conflict unless its
name has a NUL. -/
theorem stored_keys_normal (roundTrips : RoundTrips load)
    (starts : ∀ row ∈ start.rows, row.Normal load)
    (execution : (sshKeys load start).Execution history world) :
    (∀ row ∈ world.table.rows, row.Normal load) ∧
    ∀ row ∈ world.table.rows, ∀ userId request, Sql.FitsText request.name →
      load (PyString.strip request.publicKey).toUTF8 =
        load (PyString.strip row.publicKey).toUTF8 →
      ∀ begun opened, KeyWorld.step? load (.importKey userId request) world =
        some (begun, opened) →
      ∀ later last, (sshKeys load start).Run opened later last →
      ∀ call outcome, .ended call outcome ∈ later → call.id = world.nextId →
        ∃ message, (KeyEvent.ended call outcome).response? =
          some (.httpException 409 message) := by
  have normal := normal_of_reachable roundTrips starts execution.reachable
  refine ⟨normal.rows, ?_⟩
  intro row rowMem userId request named sameKey begun opened begins later last run call outcome
    ends isCall
  have first : (sshKeys load start).step world begun opened := ⟨.importKey userId request, begins⟩
  have parses := (parseSshPublicKey_congr sameKey).trans (normal.rows row rowMem)
  have opens : opened.Reimports world.nextId row.parsed := by
    simp only [KeyWorld.step?, parses, Option.some.injEq, KeyWorld.begin, Prod.mk.injEq] at begins
    rcases begins with ⟨rfl, rfl⟩
    refine ⟨Nat.lt_succ_self _, ?_, row, rowMem, rfl⟩
    intro other otherMem same
    rcases List.mem_append.mp otherMem with old | isNew
    · exact absurd same ((key_sound_of_reachable execution.reachable).old other old).ne
    · rw [List.mem_singleton.mp isNew]
      exact ⟨rfl, named⟩
  rcases List.append_of_mem ends with ⟨earlier, rest, rfl⟩
  rcases run.split with ⟨before, after, runBefore, step, _⟩
  have reachable := (execution.snoc first).append runBefore |>.reachable
  have reimports : before.Reimports world.nextId row.parsed :=
    runBefore.invariant (fun holds step => (key_move step).reimports holds) opens
  rcases (key_move step).conflicts (key_sound_of_reachable reachable)
    (normal_of_reachable roundTrips starts reachable) (isCall ▸ reimports) with ⟨message, rfl⟩
  exact ⟨message, rfl⟩

end Requests

/-! ## One key, imported by two users -/

theorem sampleLoad_roundTrips : RoundTrips sampleLoad := by
  have loads : ∀ key ∈ sampleKeys, sampleLoad (PyString.strip key.openSsh).toUTF8 = some key := by
    decide +kernel
  intro bytes key loaded
  exact loads key (List.mem_of_find?_eq_some loaded)

def sampleImport : SshPublicKeyCreate where
  name := "work"
  publicKey := sampleKeys[0].openSsh
  nameLength := by decide
  publicKeyLength := by decide

/-- The same key with blanks around it. -/
def sampleReimport : SshPublicKeyCreate where
  name := "mine"
  publicKey := "  " ++ sampleKeys[0].openSsh ++ " "
  nameLength := by decide
  publicKeyLength := by decide

/-- User 7 has imported the key. -/
def sampleImported : List KeyEvent × KeyWorld :=
  @KeyWorld.perform sampleLoad noKeys
    (.importKey 7 sampleImport :: List.replicate 4 (.proceed 0 1 none))

/-- User 8 imports it again. -/
def sampleReopened : Option (KeyEvent × KeyWorld) :=
  KeyWorld.step? sampleLoad (.importKey 8 sampleReimport) sampleImported.2

/-- A service has ended this request. -/
def KeyEvent.ends (id : ℕ) : KeyEvent → Bool
  | .ended call _ => call.id = id
  | _ => false

def sampleAnswers (opened : KeyWorld) : Option (List KeyEvent × KeyWorld) :=
  LabelledSystem.perform (KeyWorld.step? sampleLoad) (List.replicate 2 (.proceed 1 2 none)) opened

set_option maxRecDepth 10000 in
/-- The second user gets a conflict. -/
theorem sampleReimport_conflicts : ∃ call outcome message,
    (∃ opened ∈ sampleReopened, ∃ answered ∈ sampleAnswers opened.2,
      .ended call outcome ∈ answered.1) ∧
    (KeyEvent.ended call outcome).response? = some (.httpException 409 message) := by
  have answers : (sampleReopened.any fun opened => (sampleAnswers opened.2).any fun answered =>
      answered.1.any (·.ends sampleImported.2.nextId)) = true := by
    decide +kernel
  have stored : ∃ row ∈ sampleImported.2.table.rows, row.publicKey = sampleKeys[0].openSsh := by
    decide +kernel
  have sameText :
      PyString.strip sampleReimport.publicKey = PyString.strip sampleKeys[0].openSsh := by
    decide +kernel
  rcases (Option.any_eq_true ..).mp answers with ⟨opened, isOpened, answers⟩
  rcases (Option.any_eq_true ..).mp answers with ⟨answered, isAnswered, answers⟩
  rcases List.any_eq_true.mp answers with ⟨event, inAnswered, ends⟩
  rcases stored with ⟨row, rowMem, isKey⟩
  cases event with
  | ended call outcome =>
      have execution : (sshKeys sampleLoad noKeys).Execution sampleImported.1 sampleImported.2 :=
        KeyWorld.perform_execution noKeys _
      have normal := stored_keys_normal sampleLoad_roundTrips (by simp [noKeys]) execution
      rcases normal.2 row rowMem 8 sampleReimport (by decide) (by rw [sameText, isKey]) opened.1
        opened.2 isOpened answered.1 answered.2 (LabelledSystem.run_of_perform isAnswered) call
        outcome inAnswered (of_decide_eq_true ends) with ⟨message, response⟩
      exact ⟨call, outcome, message, ⟨opened, isOpened, answered, isAnswered, inAnswered⟩, response⟩
  | _ => cases ends

end NpdPortal
