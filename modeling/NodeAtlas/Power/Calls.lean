import NodeAtlas.Backup.Service
import NodeAtlas.Inventory
import NodeAtlas.Jobs.Table
import NodeAtlas.Operations.Table

/-! The calls that the services and the worker make, each one step, and what
they do to the state that outlives them. -/

set_option autoImplicit false

namespace NodeAtlas.Power

open Interleaving Operations Providers AuditLog

/-- The logical tables that a backup holds, as far as power operations use them. -/
structure Archive where
  operations : List Operations.Row
  jobs : List Jobs.Row
  audit : List Entry
  servers : List Inventory.Row

/-- `cancelled` are the threads whose context is cancelled, `effects` the writes
that the providers carried out with the thread that asked for them. -/
structure State extends Archive where
  backups : List (Backup.File Archive)
  mutex : Option Nat
  cancelled : List Nat
  effects : List (Nat × Action)

/-- A row of the connections table with its stored credentials. -/
structure Connection where
  id : GoString
  providerType : GoString
  endpoint : GoString
  settings : GoString
  ciphertext : GoString
  nonce : GoString
  keyVersion : Int

inductive Call where
  | now
  | newID
  | findOperation (id : GoString)
  | findByIdempotencyKey (key : GoString)
  | createQueued (operation : Operation)
  | transition (id : GoString) (next : Status) (change : Change)
  | enqueueConnectionSync (queue : Jobs.Queue) (connectionID : GoString)
  | enqueuePowerOperation (queue : Jobs.Queue) (operationID : GoString)
  | leaseNext (owner : GoString) (at_ : Instant) (duration : Duration)
  | retry (id owner : GoString) (availableAt : Instant) (message : GoString)
  | complete (id owner : GoString) (at_ : Instant)
  | fail (id owner : GoString) (at_ : Instant) (message : GoString)
  | append (entry : Entry)
  | findServer (id : GoString)
  | updateRemote (id : GoString) (remote : RemoteServer) (at_ : Instant)
  | findConnection (id : GoString)
  | decrypt (connection : Connection)
  | createProvider (config : ConnectionConfig)
  | validateConnection (provider : ConnectionConfig)
  | getServer (provider : ConnectionConfig) (ref : ServerRef)
  | powerAction (provider : ConnectionConfig) (ref : ServerRef) (action : Action)
  | deadline
  | wait
  | syncConnection (id : GoString)
  | hasActiveWork
  | lock
  | unlock
  | readVerified (id : GoString)
  | exportArchive
  | saveBackup (file : Backup.File Archive)
  | restore (archive : Archive)

/-- `deadline` replies with the number of polls that begin before the
verification deadline, which the clock decides. -/
@[reducible] def Call.Reply : Call → Type
  | .now => Instant
  | .newID => GoString
  | .findOperation _ => Except GoError Operation
  | .findByIdempotencyKey _ => Except GoError Operation
  | .createQueued _ => Except GoError (Operation × Bool)
  | .transition _ _ _ => Except GoError Operation
  | .enqueueConnectionSync _ _ => Except GoError Unit
  | .enqueuePowerOperation _ _ => Except GoError Unit
  | .leaseNext _ _ _ => Except GoError Jobs.Lease
  | .retry _ _ _ _ => Except GoError Unit
  | .complete _ _ _ => Except GoError Unit
  | .fail _ _ _ _ => Except GoError Unit
  | .append _ => Except GoError Unit
  | .findServer _ => Except GoError Inventory.Server
  | .updateRemote _ _ _ => Except GoError Unit
  | .findConnection _ => Except GoError Connection
  | .decrypt _ => Except GoError GoString
  | .createProvider _ => Except GoError Unit
  | .validateConnection _ => Except GoError Unit
  | .getServer _ _ => Except GoError RemoteServer
  | .powerAction _ _ _ => Except GoError ActionReceipt
  | .deadline => Nat
  | .wait => Except GoError Unit
  | .syncConnection _ => Except GoError Unit
  | .hasActiveWork => Except GoError Bool
  | .lock => Unit
  | .unlock => Unit
  | .readVerified _ => Except GoError (Backup.Sealed Archive)
  | .exportArchive => Except GoError Archive
  | .saveBackup _ => Except GoError Unit
  | .restore _ => Except GoError Unit

/-- What the surroundings decide about a step: which statements of a database
call fail, and the answers of everything that is not the database. -/
inductive Choice where
  | database (clock : Instant) (faults : List Bool)
  | instant (value : Instant)
  | identifier (value : GoString)
  | polls (count : Nat)
  | done (result : Except GoError Unit)
  | connection (result : Except GoError Connection)
  | plaintext (result : Except GoError GoString)
  | remote (result : Except GoError RemoteServer)
  | receipt (effective : Bool) (result : Except GoError ActionReceipt)
  | cancel (thread : Nat)
  | inventory (servers : List Inventory.Row)

abbrev Process (Outcome : Type) := Program Call Call.Reply Outcome

section Semantics

variable (db : Database)

/-- The operations table leaves its foreign keys and column lengths to `faults`. -/
abbrev operationsEngine : Transactions.Engine Operations.Row GoString :=
  Operations.engine db fun _ => true

abbrev jobsEngine : Transactions.Engine Jobs.Row GoString :=
  Jobs.engine db fun _ => true

/-- A cancelled context fails the first statement. -/
def State.faults (state : State) (t : Nat) (faults : List Bool) : List Bool :=
  if t ∈ state.cancelled then [true] else faults

def onOperations {α : Type} (t : Nat) (client : Operations.Repository α) (faults : List Bool)
    (state : State) : Option (α × State) :=
  ((operationsEngine db).transact client (state.faults t faults) state.operations).map
    fun (reply, rows) => (reply, { state with operations := rows })

def onJobs {α : Type} (t : Nat) (client : Jobs.Repository α) (faults : List Bool)
    (state : State) : Option (α × State) :=
  ((jobsEngine db).transact client (state.faults t faults) state.jobs).map
    fun (reply, rows) => (reply, { state with jobs := rows })

def unavailable (context : GoString) : GoError :=
  .wrapped context (db.failed .unavailable)

/-- A single statement that the database fails or carries out. -/
def onTable {α : Type} (t : Nat) (failure : GoError) (faults : List Bool) (state : State)
    (effect : Except GoError α × State) : Option (Except GoError α × State) :=
  some (if (state.faults t faults).any id then (.error failure, state) else effect)

/-- `SQLActivityChecker.HasActiveWork` -/
def Archive.activeWork (tables : Archive) : Bool :=
  tables.operations.any (fun row => row.status.active) || tables.jobs.any fun row => row.status.active

/-- The rows of an archive that the unique keys of both tables admit. -/
def Archive.keyed (archive : Archive) : Bool :=
  decide (archive.operations.Pairwise fun left right =>
    (operationsEngine db).clash left right = false) &&
  decide (archive.jobs.Pairwise fun left right => (jobsEngine db).clash left right = false)

/-- A statement or a COMMIT that is answered with an error is taken not to have
been carried out. -/
def perform (t : Nat) (call : Call) (choice : Choice) (state : State) :
    Option (call.Reply × State) :=
  match call, choice with
  | .now, .instant value => some (value, state)
  | .newID, .identifier value => some (value, state)
  | .findOperation id, .database _ faults => onOperations db t (findByID db id) faults state
  | .findByIdempotencyKey key, .database _ faults =>
      onOperations db t (Operations.findByIdempotencyKey db key) faults state
  | .createQueued operation, .database _ faults =>
      onOperations db t (Operations.createQueued db operation) faults state
  | .transition id next change, .database clock faults =>
      onOperations db t (Operations.transition db clock id next change) faults state
  | .enqueueConnectionSync queue connectionID, .database _ faults =>
      onJobs db t (Jobs.enqueueConnectionSync db queue connectionID) faults state
  | .enqueuePowerOperation queue operationID, .database _ faults =>
      onJobs db t (Jobs.enqueuePowerOperation db queue operationID) faults state
  | .leaseNext owner at_ duration, .database _ faults =>
      onJobs db t (Jobs.leaseNext db owner at_ duration) faults state
  | .retry id owner availableAt message, .database _ faults =>
      onJobs db t (Jobs.retry db id owner availableAt message) faults state
  | .complete id owner at_, .database _ faults =>
      onJobs db t (Jobs.complete db id owner at_) faults state
  | .fail id owner at_ message, .database _ faults =>
      onJobs db t (Jobs.fail db id owner at_ message) faults state
  | .append entry, .database _ faults =>
      let (result, rows) := AuditLog.append db entry state.audit
      onTable t (unavailable db (text "append audit entry")) faults state (result, { state with audit := rows })
  | .findServer id, .database _ faults =>
      onTable t (unavailable db (text "find server")) faults state (Inventory.findByID db id state.servers, state)
  | .updateRemote id remote at_, .database _ faults =>
      let (result, rows) := Inventory.updateRemote db id remote at_ state.servers
      onTable t (unavailable db (text "update remote server")) faults state (result, { state with servers := rows })
  | .findConnection _, .connection result =>
      if t ∈ state.cancelled ∧ result.isOk then none else some (result, state)
  | .decrypt _, .plaintext result => some (result, state)
  | .createProvider _, .done result => some (result, state)
  | .validateConnection _, .done result => some (result, state)
  | .getServer _ _, .remote result => some (result, state)
  | .powerAction _ _ action, .receipt effective result =>
      some (result, if effective then { state with effects := (t, action) :: state.effects } else state)
  | .deadline, .polls count => some (count, state)
  | .wait, .done (.ok ()) => some (.ok (), state)
  | .wait, .done (.error failure) =>
      if t ∈ state.cancelled then some (.error failure, state) else none
  | .syncConnection _, .done result => some (result, state)
  | .hasActiveWork, .database _ faults =>
      onTable t (db.failed .unavailable) faults state (.ok state.activeWork, state)
  | .lock, .database _ _ =>
      if state.mutex.isNone then some ((), { state with mutex := some t }) else none
  | .unlock, .database _ _ => some ((), { state with mutex := none })
  | .readVerified id, .database _ faults =>
      onTable t (db.failed .unavailable) faults state
        (match state.backups.find? fun file => db.same file.id id with
        | some file => .ok file.data
        | none => .error (.plain (text "backup not found")), state)
  | .exportArchive, .database _ faults =>
      onTable t (db.failed .unavailable) faults state (.ok state.toArchive, state)
  | .saveBackup file, .database _ faults =>
      onTable t (unavailable db (text "create backup metadata")) faults state
        (.ok (), { state with backups := state.backups ++ [file] })
  | .restore archive, .database _ faults =>
      onTable t (db.failed .unavailable) faults state
        (if archive.keyed db then (.ok (), { state with toArchive := archive })
        else (.error (db.failed .duplicate), state))
  | _, _ => none

/-- What happens to a process without its doing: a context is cancelled, or a
synchronisation rewrites the servers. -/
def external (choice : Choice) (state : State) : Option State :=
  match choice with
  | .cancel t => some { state with cancelled := t :: state.cancelled }
  | .inventory servers => some { state with servers := servers }
  | _ => none

/-- The tables survive a crash. -/
def restart (state : State) : State :=
  { state with mutex := none }

end Semantics

end NodeAtlas.Power
