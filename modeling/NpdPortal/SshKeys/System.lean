import NpdPortal.Library.LabelledSystem
import NpdPortal.SshKeys.Services

/-!
# The SSH key services as a transition system

Any number of imports and generations are under way at once.  Every statement
is a step and sees what was committed before.  An inserted row holds its
entries in the unique indexes until its transaction ends, and an insert that
collides with such an entry waits.
-/

namespace NpdPortal

/-- The state of the key services. -/
structure KeyWorld where
  table : SshKeyTable
  calls : List KeyCall
  /-- The id of the next request. -/
  nextId : ℕ

/-- What is observable of a step. -/
inductive KeyEvent where
  /-- An import ended with `InvalidSshPublicKeyError`. -/
  | refused (id : ℕ) (request : SshPublicKeyCreate) (message : String)
  | begun (call : KeyCall)
  /-- A statement after which the request goes on. -/
  | proceeded (call : KeyCall)
  | ended (call : KeyCall) (outcome : KeyOutcome)
  /-- The request was cancelled and rolled back. -/
  | abandoned (id : ℕ)

/-- The choices of the environment for one step. -/
inductive KeyAction (load : LoadSshPublicKey) where
  | importKey (userId : Uuid) (request : SshPublicKeyCreate)
  | generate (userId : Uuid) (request : SshKeyPairGenerate)
  | proceed (id : ℕ) (rowId : Uuid) (generated : Option (GeneratedKey load))
  | abandon (id : ℕ)

/-- The row a request has inserted and not committed. -/
def KeyCall.pending? (call : KeyCall) : Option SshKeyRow :=
  match call.point with
  | .committing row => some row
  | _ => none

/-- The row a request is about to insert. -/
def KeyCall.inserting? (call : KeyCall) : Option SshKeyRow :=
  match call.point with
  | .inserting row => some row
  | _ => none

namespace KeyWorld

/-- Another request holds an entry which this one is about to insert. -/
def Waits (world : KeyWorld) (call : KeyCall) : Prop :=
  ∃ row ∈ call.inserting?, ∃ other ∈ world.calls, other.id ≠ call.id ∧
    ∃ pending ∈ other.pending?, row.Collides pending

instance (world : KeyWorld) (call : KeyCall) : Decidable (world.Waits call) := by
  unfold Waits
  infer_instance

/-- The world after a request has gone on to a statement. -/
def goTo (world : KeyWorld) (call : KeyCall) (point : KeyPoint) : KeyWorld :=
  { world with calls := KeyedRows.replace KeyCall.id { call with point } world.calls }

/-- The world after a request has ended. -/
def close (world : KeyWorld) (id : ℕ) : KeyWorld :=
  { world with calls := world.calls.filter (·.id ≠ id) }

/-- The table after a request has ended: only a commit changes it. -/
def tableAfter (world : KeyWorld) : KeyOutcome → SshKeyTable
  | .created row => if fits : world.table.Fits row then world.table.insert row fits else world.table
  | _ => world.table

/-- A request begins with the SELECT by name. -/
def begin (world : KeyWorld) (userId : Uuid) (name : String) (service : KeyService) :
    KeyEvent × KeyWorld :=
  let call : KeyCall := { id := world.nextId, userId, name, service, point := .selectingName }
  (.begun call, { world with calls := world.calls ++ [call], nextId := world.nextId + 1 })

/-- One step; `none` when the action is not possible in this state. -/
def step? (load : LoadSshPublicKey) (action : KeyAction load) (world : KeyWorld) :
    Option (KeyEvent × KeyWorld) :=
  match action with
  | .importKey userId request =>
      match parseSshPublicKey load request.publicKey with
      | .ok parsed => some (world.begin userId request.name (.importing parsed))
      | .error message => some (.refused world.nextId request message,
          { world with nextId := world.nextId + 1 })
  | .generate userId request => some (world.begin userId request.name .generating)
  | .proceed id rowId generated =>
      match KeyedRows.lookup KeyCall.id id world.calls with
      | none => none
      | some call =>
          if world.Waits call then none
          else
            match call.next world.table rowId (generated.map (·.key.parsed)) with
            | none => none
            | some (.proceed point) => some (.proceeded call, world.goTo call point)
            | some (.finish outcome) => some (.ended call outcome,
                { world.close id with table := world.tableAfter outcome })
  | .abandon id =>
      if id ∈ world.calls.map (·.id) then some (.abandoned id, world.close id) else none

end KeyWorld

/-- The key services, started with this table. -/
def sshKeys (load : LoadSshPublicKey) (start : SshKeyTable) : LabelledSystem KeyWorld KeyEvent :=
  LabelledSystem.ofFunction (fun world => world = ⟨start, [], 0⟩) (KeyWorld.step? load)

namespace KeyWorld

/-- Perform actions one after another; nothing happens when one of them is not possible. -/
def perform {load : LoadSshPublicKey} (start : SshKeyTable) (actions : List (KeyAction load)) :
    List KeyEvent × KeyWorld :=
  (LabelledSystem.perform (step? load) actions ⟨start, [], 0⟩).getD ([], ⟨start, [], 0⟩)

theorem perform_execution {load : LoadSshPublicKey} (start : SshKeyTable)
    (actions : List (KeyAction load)) :
    (sshKeys load start).Execution (perform start actions).1 (perform start actions).2 := by
  refine ⟨_, rfl, ?_⟩
  unfold perform
  cases performed : LabelledSystem.perform (step? load) actions ⟨start, [], 0⟩ with
  | none => exact .nil
  | some outcome => exact LabelledSystem.run_of_perform performed

end KeyWorld

end NpdPortal
