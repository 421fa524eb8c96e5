import Mathlib.Data.List.Nodup
import NpdPortal.Library.Digest
import NpdPortal.Library.Text
import NpdPortal.Portal.Database

/-!
# SSH key services

`parse_ssh_public_key` of `ssh_keys/parsing.py` and the statements of
`import_ssh_public_key` and `generate_ssh_key_pair` of `ssh_keys/services.py`.
-/

namespace NpdPortal

/-! ## Parsing -/

/-- The class of a loaded key. -/
inductive SshKeyClass where
  | ed25519
  | rsa (keySize : ℕ)
  | other
  deriving DecidableEq, Repr

/-- What the code reads of a key object of `cryptography`. -/
structure LoadedSshKey where
  keyClass : SshKeyClass
  /-- `key.public_bytes(OpenSSH, OpenSSH).decode("ascii")`. -/
  openSsh : String
  /-- `ssh_key_fingerprint(key, SHA256())`. -/
  fingerprint : List UInt8
  deriving DecidableEq, Repr

/-- `serialization.load_ssh_public_key`; `none` when it raises `ValueError` or
`UnsupportedAlgorithm`. -/
abbrev LoadSshPublicKey := ByteArray → Option LoadedSshKey

structure ParsedSshPublicKey where
  keyType : String
  publicKey : String
  fingerprint : String
  deriving DecidableEq, Repr

/-- The normalised key. -/
def LoadedSshKey.parsed (key : LoadedSshKey) : ParsedSshPublicKey where
  keyType := String.ofList (key.openSsh.toList.takeWhile (· ≠ ' '))
  publicKey := key.openSsh
  fingerprint := "SHA256:" ++ String.ofList (Digest.base64 key.fingerprint)

/-- `parse_ssh_public_key`; the error is the text of the `ValueError`. -/
def parseSshPublicKey (load : LoadSshPublicKey) (value : String) :
    Except String ParsedSshPublicKey :=
  match load (PyString.strip value).toUTF8 with
  | none => .error "invalid SSH public key"
  | some key =>
      match key.keyClass with
      | .ed25519 => .ok key.parsed
      | .rsa keySize =>
          if keySize < 2048 then .error "RSA key must be at least 2048 bits" else .ok key.parsed
      | .other => .error "unsupported SSH public key type"

/-- The public key of `Ed25519PrivateKey.generate()`: the library loads the text it writes. -/
structure GeneratedKey (load : LoadSshPublicKey) where
  key : LoadedSshKey
  ed25519 : key.keyClass = .ed25519
  loads : load (PyString.strip key.openSsh).toUTF8 = some key

/-- `generate_ssh_key_pair` can parse the key it generated. -/
theorem GeneratedKey.parse_eq {load : LoadSshPublicKey} (generated : GeneratedKey load) :
    parseSshPublicKey load generated.key.openSsh = .ok generated.key.parsed := by
  unfold parseSshPublicKey
  simp only [generated.loads, generated.ed25519]

/-! ## The table -/

/-- A row of `ssh_public_keys` as the key services write it. -/
structure SshKeyRow where
  id : Uuid
  ownerUserId : Uuid
  name : String
  keyType : String
  publicKey : String
  fingerprint : String
  deriving DecidableEq, Repr

/-- The columns of `uq_ssh_public_keys_owner_name`. -/
def SshKeyRow.ownerName (row : SshKeyRow) : Uuid × String := (row.ownerUserId, row.name)

/-- The declared constraints. -/
structure SshKeyRow.Unique (rows : List SshKeyRow) : Prop where
  /-- The primary key. -/
  ids : (rows.map (·.id)).Nodup
  /-- `uq_ssh_public_keys_owner_name`. -/
  names : (rows.map (·.ownerName)).Nodup
  /-- `uq_ssh_public_keys_fingerprint`. -/
  fingerprints : (rows.map (·.fingerprint)).Nodup

/-- The committed rows, in insertion order. -/
structure SshKeyTable where
  rows : List SshKeyRow
  unique : SshKeyRow.Unique rows

/-- The two rows have the same entry in some unique index. -/
def SshKeyRow.Collides (row other : SshKeyRow) : Prop :=
  row.id = other.id ∨ row.ownerName = other.ownerName ∨ row.fingerprint = other.fingerprint

instance (row other : SshKeyRow) : Decidable (row.Collides other) :=
  inferInstanceAs (Decidable (_ ∨ _ ∨ _))

namespace SshKeyTable

variable (table : SshKeyTable)

/-- No committed row has an entry of the new row. -/
def Fits (row : SshKeyRow) : Prop := ∀ stored ∈ table.rows, ¬row.Collides stored

instance (row : SshKeyRow) : Decidable (table.Fits row) :=
  inferInstanceAs (Decidable (∀ stored ∈ table.rows, _))

/-- The first SELECT of both services. -/
def HasName (userId : Uuid) (name : String) : Prop :=
  ∃ stored ∈ table.rows, stored.ownerName = (userId, name)

instance (userId : Uuid) (name : String) : Decidable (table.HasName userId name) :=
  inferInstanceAs (Decidable (∃ stored ∈ table.rows, _))

/-- The second SELECT of `import_ssh_public_key`. -/
def HasFingerprint (fingerprint : String) : Prop :=
  ∃ stored ∈ table.rows, stored.fingerprint = fingerprint

instance (fingerprint : String) : Decidable (table.HasFingerprint fingerprint) :=
  inferInstanceAs (Decidable (∃ stored ∈ table.rows, _))

/-- The table with one more row. -/
def insert (row : SshKeyRow) (fits : table.Fits row) : SshKeyTable where
  rows := table.rows ++ [row]
  unique := by
    have apart : ∀ {Column : Type} (column : SshKeyRow → Column), (table.rows.map column).Nodup →
        (∀ stored ∈ table.rows, column row ≠ column stored) →
        ((table.rows ++ [row]).map column).Nodup := by
      intro Column column distinct differ
      rw [List.map_append, List.map_singleton, List.nodup_append]
      refine ⟨distinct, List.nodup_singleton _, ?_⟩
      intro value valueMem other otherMem same
      rcases List.mem_map.mp valueMem with ⟨stored, storedMem, rfl⟩
      rw [List.mem_singleton.mp otherMem] at same
      exact differ stored storedMem same.symm
    exact ⟨apart _ table.unique.ids fun stored storedMem same => fits stored storedMem (.inl same),
      apart _ table.unique.names fun stored storedMem same =>
        fits stored storedMem (.inr (.inl same)),
      apart _ table.unique.fingerprints fun stored storedMem same =>
        fits stored storedMem (.inr (.inr same))⟩

end SshKeyTable

/-! ## The services -/

/-- `SshPublicKeyCreate`, with what its field checks guarantee. -/
structure SshPublicKeyCreate where
  name : String
  publicKey : String
  nameLength : 1 ≤ name.length ∧ name.length ≤ 100
  publicKeyLength : 1 ≤ publicKey.length ∧ publicKey.length ≤ 8192

/-- `SshKeyPairGenerate`, with what its field check guarantees. -/
structure SshKeyPairGenerate where
  name : String
  nameLength : 1 ≤ name.length ∧ name.length ≤ 100

/-- How the service which runs came by its key. -/
inductive KeyService where
  /-- `import_ssh_public_key` with the parsed key. -/
  | importing (parsed : ParsedSshPublicKey)
  /-- `generate_ssh_key_pair`. -/
  | generating
  deriving DecidableEq, Repr

/-- The statement a request executes next. -/
inductive KeyPoint where
  | selectingName
  | selectingFingerprint
  /-- `db.flush()`. -/
  | inserting (row : SshKeyRow)
  /-- `db.commit()` of the router. -/
  | committing (row : SshKeyRow)
  /-- The SELECT after the rollback of a lost insert. -/
  | rechecking
  deriving DecidableEq, Repr

/-- The statement is a SELECT by name. -/
def KeyPoint.SelectsName (point : KeyPoint) : Prop := point = .selectingName ∨ point = .rechecking

instance (point : KeyPoint) : Decidable point.SelectsName :=
  inferInstanceAs (Decidable (_ ∨ _))

/-- A request under way. -/
structure KeyCall where
  id : ℕ
  userId : Uuid
  name : String
  service : KeyService
  point : KeyPoint
  deriving DecidableEq, Repr

/-- How a request with a key ends. -/
inductive KeyOutcome where
  | created (row : SshKeyRow)
  /-- `SshPublicKeyConflictError`. -/
  | conflict (message : String)
  | integrityError
  /-- The error of the database for a parameter which is no text of a column. -/
  | dataError
  deriving DecidableEq, Repr

/-- What a statement leads to. -/
inductive KeyStep where
  | proceed (point : KeyPoint)
  | finish (outcome : KeyOutcome)
  deriving DecidableEq, Repr

/-- The row of a request. -/
def KeyCall.row (call : KeyCall) (id : Uuid) (parsed : ParsedSshPublicKey) : SshKeyRow where
  id := id
  ownerUserId := call.userId
  name := call.name
  keyType := parsed.keyType
  publicKey := parsed.publicKey
  fingerprint := parsed.fingerprint

/-- One statement of a request against the committed rows; `none` when the environment gives it no
key to go on with.  `id` is the id of a new row and `generated` the parsed key which
`generate_ssh_key_pair` has generated. -/
def KeyCall.next (call : KeyCall) (table : SshKeyTable) (id : Uuid)
    (generated : Option ParsedSshPublicKey) : Option KeyStep :=
  -- The schemas let a NUL through, and neither service catches the error of the database.
  if call.point.SelectsName ∧ ¬Sql.FitsText call.name then some (.finish .dataError)
  else
    match call.point, call.service with
    | .selectingName, service =>
        if table.HasName call.userId call.name then
          some (.finish (.conflict "SSH key name already exists"))
        else
          match service with
          | .importing _ => some (.proceed .selectingFingerprint)
          | .generating => generated.map fun parsed => .proceed (.inserting (call.row id parsed))
    | .selectingFingerprint, .importing parsed =>
        if table.HasFingerprint parsed.fingerprint then
          some (.finish (.conflict "SSH public key already exists"))
        else some (.proceed (.inserting (call.row id parsed)))
    | .inserting row, service =>
        if table.Fits row then some (.proceed (.committing row))
        else
          match service with
          -- Only the import catches the error; it rolls back and reads once more.
          | .importing _ => some (.proceed .rechecking)
          | .generating => some (.finish .integrityError)
    | .committing row, _ =>
        if table.Fits row then some (.finish (.created row)) else some (.finish .integrityError)
    | .rechecking, .importing _ =>
        if table.HasName call.userId call.name then
          some (.finish (.conflict "SSH key name already exists"))
        else some (.finish (.conflict "SSH public key already exists"))
    -- A generation has no other statements.
    | .selectingFingerprint, .generating | .rechecking, .generating => none

end NpdPortal
