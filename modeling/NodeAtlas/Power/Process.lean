import NodeAtlas.Power.Service

/-! One process of the panel: requests, the worker, backups and restores, all
interleaved call by call. -/

set_option autoImplicit false

namespace NodeAtlas.Power

open Interleaving Operations Providers

/-- The backup service with what it is built from. -/
def backups : Backup.Service Process Archive where
  now := Process.now
  newID := Process.newID
  lock := Process.call .lock
  unlock := Process.call .unlock
  hasActiveWork := Process.call .hasActiveWork
  readVerified id := Process.call (.readVerified id)
  exportArchive := Process.call .exportArchive
  save file := Process.call (.saveBackup file)
  restore archive := Process.call (.restore archive)
  append := Process.append

inductive Activity where
  | request (request : Request)
  | runOnce (worker : Jobs.Worker)
  | enqueueConnectionSync (connectionID : GoString)
  | enqueuePowerOperation (operationID : GoString)
  | createBackup (passphrase requestID sourceIP : GoString)
  | restoreBackup (id passphrase requestID sourceIP : GoString)

inductive Outcome where
  | requested (result : Except GoError (Operation × Bool))
  | finished (result : Except GoError Unit)
  | saved (result : Except GoError GoString)

def Activity.program (maxAttempts : Int) : Activity → Process Outcome
  | .request asked => return .requested (← Service.request maxAttempts asked)
  | .runOnce worker => return .finished (← worker.runOnce host)
  | .enqueueConnectionSync connectionID =>
      return .finished (← Power.enqueueConnectionSync maxAttempts connectionID)
  | .enqueuePowerOperation operationID =>
      return .finished (← Power.enqueuePowerOperation maxAttempts operationID)
  | .createBackup passphrase requestID sourceIP =>
      return .saved (← backups.create passphrase .manual requestID sourceIP)
  | .restoreBackup id passphrase requestID sourceIP =>
      return .finished (← backups.restoreBackup id passphrase requestID sourceIP)

def panel (db : Database) (maxAttempts : Int) :
    System Call Call.Reply State Activity Outcome Choice where
  program := Activity.program maxAttempts
  perform := perform db
  external := external
  restart := restart

abbrev PanelConfig : Type := Config Call Call.Reply State Activity Outcome

abbrev PanelEvent : Type := Event Call Call.Reply

abbrev PanelThread : Type := Thread Call Call.Reply Activity Outcome

/-- No operations, no jobs, nothing audited; the servers and backups are as they are. -/
def emptyState (servers : List Inventory.Row) (backups : List (Backup.File Archive)) : State where
  operations := []
  jobs := []
  audit := []
  servers := servers
  backups := backups
  mutex := none
  cancelled := []
  effects := []

/-! ## Schedules to try the panel on

One server of one connection, and what the surroundings answer step by step. -/

def allowed : Capability := ⟨true, []⟩

def capable : Capabilities := ⟨allowed, allowed, allowed, allowed, allowed, allowed⟩

def machine (state : ServerState) : Inventory.Row where
  id := text "server"
  connectionID := text "connection"
  externalID := text "external"
  scope := []
  name := []
  state := state
  remoteState := []
  spec := []
  addresses := []
  capabilities := .ok capable
  lastSeenAt := 0
  lastStateCheckedAt := 0
  updatedAt := 0
  hiddenAt := none
  connectionDeletedAt := none

def seen (state : ServerState) : RemoteServer :=
  ⟨text "external", [], [], state, [], [], [], capable⟩

def account : Connection := ⟨text "connection", text "mock", [], [], [], [], 1⟩

def asking (action : Action) : Request := ⟨text "server", action, text "key", [], []⟩

abbrev Schedule : Type := List (System.Move Activity Choice)

/-- Thread `t` makes one call for each answer. -/
def answers (t : Nat) (choices : List Choice) : Schedule :=
  choices.map fun choice => .advance t choice

/-- The database carries the statements of a call out. -/
def stored : Choice := .database 0 []

/-- The database fails the first statement of a call. -/
def refused : Choice := .database 0 [true]

/-- A request up to the operation that it creates. -/
def creating : List Choice := [stored, stored, .instant 1, .identifier (text "operation"), stored]

/-- A request from the new operation to its job. -/
def enqueueing : List Choice := [.instant 1, .identifier (text "job"), stored]

def announcing : List Choice := [.identifier (text "entry"), stored]

/-- A worker cycle up to the operation that its job names. -/
def leasing (now : Instant) : List Choice := [.instant now, stored, stored]

/-- An execution up to its first look at the server. -/
def approaching (state : ServerState) : List Choice :=
  [stored, .connection (.ok account), .plaintext (.ok []), .done (.ok ()), .done (.ok ()),
    .remote (.ok (seen state))]

/-- An execution from the last look to the end of its cycle. -/
def succeeding : List Choice :=
  [.instant 3, stored, .instant 3, stored, .identifier (text "last"), .instant 3, stored,
    .instant 3, stored]

end NodeAtlas.Power
