import Sencho.Recovery.Operations
import Sencho.Verified.Savepoints

/-!
# Storage identities

This module embeds the storage identity store: which bytes a recovery point
belongs to.  An observation of a storage either is of the current generation of
its key, or supersedes it and opens the next one, and it replaces the stacks
that depend on the storage as a whole.

`observe` is code on a connection, statement by statement, in one transaction.
The hash that makes a storage key and the host's authority id are arguments.
-/

namespace Sencho.Recovery

open Verified Savepoints

inductive StorageKind where
  | namedVolume
  | bindRoot

inductive IdentityState where
  | current
  | superseded
  deriving DecidableEq

structure IdentityRow where
  id : String
  authorityId : String
  ownerNodeKey : String
  kind : StorageKind
  locator : String
  storageKey : String
  generation : Nat
  generationToken : String
  lineageParentId : Option String
  state : IdentityState
  firstSeenAt : Int
  lastSeenAt : Int

structure DependentRow where
  storageKey : String
  stackName : String
  serviceName : String
  observedAt : Int

/-- The primary key of a dependent. -/
def DependentRow.key (r : DependentRow) : String × String × String :=
  (r.storageKey, r.stackName, r.serviceName)

structure StorageDb where
  identities : Table IdentityRow String IdentityRow.id
  dependents : Table DependentRow (String × String × String) DependentRow.key

def StorageDb.empty : StorageDb := ⟨.empty, .empty⟩

structure StorageDependent where
  stackName : String
  serviceName : Option String

structure StorageObservation where
  ownerNodeKey : String
  kind : StorageKind
  locator : String
  generationToken : String
  dependents : List StorageDependent

/-- `VOLUME_NAME`. -/
def isDockerVolumeName (name : String) : Bool :=
  match name.toList with
  | first :: second :: rest =>
    first.isAlphanum && (second :: rest).all fun c =>
      c.isAlphanum || c == '_' || c == '.' || c == '-'
  | _ => false

/-- `path.posix.normalize` of an absolute path. -/
def posixNormalize (raw : List Char) : List Char :=
  let kept := (raw.splitOn '/').foldl (fun kept segment =>
    if segment = [] ∨ segment = ['.'] then kept
    else if segment = ['.', '.'] then kept.dropLast
    else kept ++ [segment]) []
  let body := '/' :: List.intercalate ['/'] kept
  if kept ≠ [] ∧ raw.getLast? = some '/' then body ++ ['/'] else body

/-- Drop every slash at the end. -/
def stripTrailingSlashes (p : List Char) : List Char :=
  (p.reverse.dropWhile (· = '/')).reverse

def canonicalizeLocator (kind : StorageKind) (raw : String) : Except StoreError String :=
  if raw = "" ∨ raw.toList.contains (Char.ofNat 0) then refuse .invalidRequest
  else
    match kind with
    | .namedVolume => if isDockerVolumeName raw then .ok raw else refuse .invalidRequest
    | .bindRoot =>
      if raw.toList.head? ≠ some '/' ∨ (raw.toList.splitOn '/').contains ['.', '.'] then
        refuse .invalidRequest
      else
        let normalized := String.ofList (stripTrailingSlashes (posixNormalize raw.toList))
        if normalized = "" then refuse .invalidRequest else .ok normalized

namespace StorageDb

variable (db : StorageDb)

/-- The generations of a key, newest first. -/
def history (storageKey : String) : List IdentityRow :=
  db.identities.rows.filter fun r => r.storageKey = storageKey

def currentOf (storageKey : String) : Option IdentityRow :=
  db.identities.rows.find? fun r => r.storageKey = storageKey && r.state = .current

def seenBefore (storageKey token : String) : Bool :=
  db.identities.any fun r => r.storageKey = storageKey && r.generationToken = token

/-- `MAX(generation)` of a key, zero when it has none. -/
def latestGeneration (storageKey : String) : Nat :=
  (db.history storageKey).foldr (fun r g => max r.generation g) 0

def touch (id : String) (now : Int) : StorageDb :=
  { db with
    identities := db.identities.update (fun r => r.id = id)
      (fun r => { r with lastSeenAt := now }) fun _ => rfl }

def supersede (id : String) : StorageDb :=
  { db with
    identities := db.identities.update (fun r => r.id = id)
      (fun r => { r with state := .superseded }) fun _ => rfl }

/-- The insert of an identity.  Its id, its generation within the key, and a
current identity of a key are unique. -/
def insertIdentity (row : IdentityRow) : Except StoreError (Unit × StorageDb) :=
  if db.identities.any fun r => r.storageKey = row.storageKey &&
      (r.generation = row.generation || r.state = .current && row.state = .current) then
    .error .duplicateKey
  else
    match db.identities.insert? row with
    | none => .error .duplicateKey
    | some identities => .ok ((), { db with identities })

def deleteDependents (storageKey : String) : StorageDb :=
  { db with dependents := db.dependents.delete fun r => r.storageKey = storageKey }

/-- Insert a dependent; one that is there already stays. -/
def insertDependent (row : DependentRow) : StorageDb :=
  match db.dependents.insert? row with
  | none => db
  | some dependents => { db with dependents }

def identity (id : String) : Except StoreError (IdentityRow × StorageDb) :=
  match db.identities.find? id with
  | some row => .ok (row, db)
  | none => refuse .internal

end StorageDb

/-- One call of `observe`, with what the host supplies. -/
structure Observing where
  observation : StorageObservation
  authorityId : Option String
  newId : String
  now : Int

namespace Observing

abbrev StorageSql (α : Type) := Code StorageDb StoreError α

variable (o : Observing)

def token : String := JsString.trim o.observation.generationToken

/-- The row of a new generation. -/
def nextRow (authorityId storageKey locator : String) (current : Option IdentityRow)
    (latest : Nat) : IdentityRow where
  id := o.newId
  authorityId := authorityId
  ownerNodeKey := o.observation.ownerNodeKey
  kind := o.observation.kind
  locator := locator
  storageKey := storageKey
  generation := latest + 1
  generationToken := o.token
  lineageParentId := current.map IdentityRow.id
  state := .current
  firstSeenAt := o.now
  lastSeenAt := o.now

def touchSql (id : String) : StorageSql Unit :=
  .statement fun db => .ok ((), db.touch id o.now)

def supersedeSql : Option IdentityRow → StorageSql Unit
  | none => return ()
  | some current => .statement fun db => .ok ((), db.supersede current.id)

/-- Open the next generation of a key. -/
def openGeneration (authorityId storageKey locator : String)
    (current : Option IdentityRow) : StorageSql String := do
  let seen ← Code.select fun db => db.seenBefore storageKey o.token
  if seen then .throw (.recovery .identityUnknown)
  else do
    supersedeSql current
    let latest ← Code.select fun db => db.latestGeneration storageKey
    Code.statement fun db =>
      db.insertIdentity (o.nextRow authorityId storageKey locator current latest)
    return o.newId

/-- The identity an observation is of: the current one, or a new one. -/
def settleIdentity (authorityId storageKey locator : String) :
    Option IdentityRow → StorageSql String
  | some current =>
    if current.generationToken = o.token then do
      o.touchSql current.id
      return current.id
    else o.openGeneration authorityId storageKey locator (some current)
  | none => o.openGeneration authorityId storageKey locator none

/-- Insert the dependents in order.  One without a stack name is refused. -/
def insertDependents (storageKey : String) : List StorageDependent → StorageSql Unit
  | [] => return ()
  | d :: ds =>
    if d.stackName = "" then .throw (.recovery .invalidRequest)
    else do
      Code.statement fun db => .ok ((), db.insertDependent
        ⟨storageKey, d.stackName, d.serviceName.getD "", o.now⟩)
      insertDependents storageKey ds

def replaceDependents (storageKey : String) : StorageSql Unit := do
  Code.statement fun db => .ok ((), db.deleteDependents storageKey)
  o.insertDependents storageKey o.observation.dependents

/-- The statements of an observation, inside its transaction. -/
def body (authorityId storageKey locator : String) : StorageSql IdentityRow := do
  let current ← Code.select fun db => db.currentOf storageKey
  let id ← o.settleIdentity authorityId storageKey locator current
  o.replaceDependents storageKey
  Code.statement fun db => db.identity id

/-- `deriveStorageKey` is the hash of the four parts. -/
def observe (deriveStorageKey : String → String → StorageKind → String → String) :
    StorageSql IdentityRow :=
  if o.token = "" ∨ JsString.trim o.observation.ownerNodeKey = "" then
    .throw (.recovery .identityUnknown)
  else
    match canonicalizeLocator o.observation.kind o.observation.locator with
    | .error e => .throw e
    | .ok locator =>
      match o.authorityId with
      | none => .throw (.recovery .identityUnknown)
      | some authorityId =>
        .transaction (o.body authorityId
          (deriveStorageKey authorityId o.observation.ownerNodeKey o.observation.kind
            locator) locator)

end Observing

end Sencho.Recovery
