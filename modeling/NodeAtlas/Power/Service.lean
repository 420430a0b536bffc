import NodeAtlas.Jobs.Worker
import NodeAtlas.Power.Calls

/-! The code that requests power operations and the code that carries them out. -/

set_option autoImplicit false

namespace NodeAtlas.Power

open Interleaving Operations Providers AuditLog

namespace Process

def call (request : Call) : Process request.Reply := .perform request

def now : Process Instant := call .now
def newID : Process GoString := call .newID
def append (entry : Entry) : Process (Except GoError Unit) := call (.append entry)
def transition (id : GoString) (next : Status) (change : Change) :
    Process (Except GoError Operation) :=
  call (.transition id next change)

end Process

/-- `jobs.Queue` with `NewQueue`'s defaults; the clock and the id generator are
read for each job. -/
def queue (maxAttempts : Int) : Process Jobs.Queue := do
  let now ← Process.now
  let id ← Process.newID
  return Jobs.newQueue maxAttempts now id

def enqueueConnectionSync (maxAttempts : Int) (connectionID : GoString) :
    Process (Except GoError Unit) := do
  Process.call (.enqueueConnectionSync (← queue maxAttempts) connectionID)

def enqueuePowerOperation (maxAttempts : Int) (operationID : GoString) :
    Process (Except GoError Unit) := do
  Process.call (.enqueuePowerOperation (← queue maxAttempts) operationID)

/-- The metadata of every audit entry about an operation. -/
def auditMetadata (action : Action) (status : Status) : JSONMap :=
  [(text "action", action.value), (text "status", status.value)]

/-! ## `Service.Request` -/

structure Request where
  serverID : GoString
  action : Action
  idempotencyKey : GoString
  requestID : GoString
  sourceIP : GoString

namespace Service

def stateAllows (state : ServerState) : Action → Bool
  | .start => state = .stopped || state = .suspended
  | .stop => state = .running
  | .reboot => state = .running
  | .other _ => false

def capabilityFor (capabilities : Capabilities) : Action → Capability
  | .start => capabilities.canStart
  | .stop => capabilities.canStop
  | .reboot => capabilities.canReboot
  | .other _ => ⟨false, []⟩

/-- The compensation when an operation cannot be queued or audited: its own
outcome is ignored. -/
def compensate (operation : Operation) (now : Instant) (code message : GoString)
    (failure : GoError) : Process (Except GoError (Operation × Bool)) := do
  let _ ← Process.transition operation.id .failed ⟨now, [], code, message⟩
  return .error failure

def queuedEntry (request : Request) (operation : Operation) (now : Instant) (id : GoString) :
    Entry where
  id := id
  eventType := text "power_operation_queued"
  targetType := text "operation"
  targetID := operation.id
  requestID := request.requestID
  sourceIP := request.sourceIP
  metadata := auditMetadata operation.action operation.status
  createdAt := now

def recordQueued (request : Request) (operation : Operation) (now : Instant) :
    Process (Except GoError (Operation × Bool)) := do
  let auditID ← Process.newID
  match ← Process.append (queuedEntry request operation now auditID) with
  | .error failure =>
      compensate operation now (text "audit_failed") (text "Unable to record operation audit event")
        (.wrapped (text "append operation audit") failure)
  | .ok () => return .ok (operation, true)

def queueOperation (maxAttempts : Int) (request : Request) (operation : Operation) (now : Instant) :
    Process (Except GoError (Operation × Bool)) := do
  match ← enqueuePowerOperation maxAttempts operation.id with
  | .error failure =>
      compensate operation now (text "queue_failed") (text "Unable to queue power operation")
        (.wrapped (text "queue power operation") failure)
  | .ok () => recordQueued request operation now

/-- The operation that `Request` asks the repository to create. -/
def newOperation (request : Request) (key : GoString) (server : Inventory.Server) (id : GoString)
    (now : Instant) : Operation where
  id := id
  serverID := server.id
  connectionID := server.connectionID
  action := request.action
  status := .queued
  idempotencyKey := key
  providerRequestID := []
  errorCode := []
  errorMessage := []
  queuedAt := now
  startedAt := none
  finishedAt := none
  updatedAt := now

def createOperation (maxAttempts : Int) (request : Request) (key : GoString)
    (server : Inventory.Server) : Process (Except GoError (Operation × Bool)) := do
  let now ← Process.now
  let id ← Process.newID
  match ← Process.call (.createQueued (newOperation request key server id now)) with
  | .error failure => return .error failure
  | .ok (operation, false) => return .ok (operation, false)
  | .ok (operation, true) => queueOperation maxAttempts request operation now

/-- The checks against the server, then the operation. -/
def checkServer (maxAttempts : Int) (request : Request) (key : GoString)
    (server : Inventory.Server) : Process (Except GoError (Operation × Bool)) :=
  match server.capabilities with
  | .error message =>
      return .error (.wrapped (text "decode server capabilities") (.plain message))
  | .ok capabilities =>
      if stateAllows server.state request.action then
        if (capabilityFor capabilities request.action).available then
          createOperation maxAttempts request key server
        else return .error (.sentinel .capabilityUnavailable)
      else return .error (.sentinel .stateConflict)

/-- The idempotency key, generated where the client gave none. -/
def idempotencyKey (given : GoString) : Process GoString :=
  if given = [] then Process.newID else return given

def request (maxAttempts : Int) (request : Request) :
    Process (Except GoError (Operation × Bool)) := do
  if validAction request.action then
    let key ← idempotencyKey (trimSpace request.idempotencyKey)
    match ← Process.call (.findByIdempotencyKey key) with
    | .ok existing => return .ok (existing, false)
    | .error failure =>
        if failure.is .operationNotFound then
          match ← Process.call (.findServer (trimSpace request.serverID)) with
          | .error failure => return .error failure
          | .ok server => checkServer maxAttempts request key server
        else return .error failure
  else return .error (.sentinel .invalidAction)

end Service

/-! ## `Executor.Execute` -/

namespace Executor

def operationError (failure : GoError) : GoString × GoString × Bool :=
  match failure.asProvider with
  | some error => (error.code.value, error.message, error.retryable)
  | none => (ErrorCode.provider.value, text "Power operation failed", false)

def appendAudit (operation : Operation) (eventType : GoString) (status : Status) :
    Process (Except GoError Unit) := do
  let id ← Process.newID
  let now ← Process.now
  Process.append ⟨id, eventType, text "operation", operation.id, [], [],
    auditMetadata operation.action status, now⟩

/-- The end of `finishError`: the operation fails with the error's code. -/
def failOperation (operation : Operation) (code message : GoString) (executionErr : GoError) :
    Process (Except GoError Unit) := do
  let now ← Process.now
  match ← Process.transition operation.id .failed ⟨now, [], code, message⟩ with
  | .error failure => return .error (.joined executionErr failure)
  | .ok _ =>
      match ← appendAudit operation (text "power_operation_failed") .failed with
      | .error failure => return .error (.joined executionErr failure)
      | .ok () => return .error executionErr

def finishError (operation : Operation) (job : Jobs.Job) (executionErr : GoError) :
    Process (Except GoError Unit) := do
  let (code, message, retryable) := operationError executionErr
  if retryable && job.attempts < job.maxAttempts then return .error executionErr
  else
    match ← Process.call (.findOperation operation.id) with
    | .error failure => return .error (.joined executionErr failure)
    | .ok current =>
        if current.status.terminal then return .error executionErr
        else failOperation operation code message executionErr

/-- `executor.provider`: the connection, its credentials and the client made of them. -/
def provider (connectionID : GoString) : Process (Except GoError ConnectionConfig) := do
  match ← Process.call (.findConnection connectionID) with
  | .error failure => return .error failure
  | .ok connection =>
      match ← Process.call (.decrypt connection) with
      | .error failure => return .error (.wrapped (text "decrypt provider credentials") failure)
      | .ok plaintext =>
          let config : ConnectionConfig := ⟨connection.id, connection.providerType,
            connection.endpoint, connection.settings, plaintext⟩
          match ← Process.call (.createProvider config) with
          | .error failure => return .error failure
          | .ok () => return .ok config

def executeProviderAction (provider : ConnectionConfig) (ref : ServerRef) :
    Action → Process (Except GoError ActionReceipt)
  | .start => Process.call (.powerAction provider ref .start)
  | .stop => Process.call (.powerAction provider ref .stop)
  | .reboot => Process.call (.powerAction provider ref .reboot)
  | .other _ => return .error (.sentinel .invalidAction)

def actionAlreadySatisfied (action : Action) (state : ServerState) : Bool :=
  match action with
  | .start => state = .running
  | .stop => state = .stopped
  | _ => false

def verificationTargetReached (action : Action) (state : ServerState) : Bool :=
  if action = .reboot then state = .running else actionAlreadySatisfied action state

def succeed (operation : Operation) (remote : RemoteServer) : Process (Except GoError Unit) := do
  let now ← Process.now
  match ← Process.call (.updateRemote operation.serverID remote now) with
  | .error failure => return .error failure
  | .ok () =>
      let now ← Process.now
      match ← Process.transition operation.id .succeeded ⟨now, [], [], []⟩ with
      | .error failure => return .error failure
      | .ok _ => appendAudit operation (text "power_operation_succeeded") .succeeded

def timeOut (operation : Operation) : Process (Except GoError Unit) := do
  let now ← Process.now
  match ← Process.transition operation.id .timedOut
      ⟨now, [], text "operation_timeout", text "Provider state verification timed out"⟩ with
  | .error failure => return .error failure
  | .ok _ => appendAudit operation (text "power_operation_timed_out") .timedOut

/-- One look at the remote server; `otherwise` is what follows while it is not
in the target state. -/
def poll (job : Jobs.Job) (operation : Operation) (provider : ConnectionConfig) (ref : ServerRef)
    (otherwise : Process (Except GoError Unit)) : Process (Except GoError Unit) := do
  match ← Process.call (.getServer provider ref) with
  | .error failure => finishError operation job failure
  | .ok remote =>
      if verificationTargetReached operation.action remote.state then succeed operation remote
      else otherwise

/-- The polling loop; the deadline passes with the last of the given polls. -/
def verify (job : Jobs.Job) (operation : Operation) (provider : ConnectionConfig)
    (ref : ServerRef) : Nat → Process (Except GoError Unit)
  | 0 => poll job operation provider ref (timeOut operation)
  | remaining + 1 => poll job operation provider ref do
      match ← Process.call .wait with
      | .error failure => return .error failure
      | .ok () => verify job operation provider ref remaining

def startVerifying (job : Jobs.Job) (operation : Operation) (provider : ConnectionConfig)
    (ref : ServerRef) : Process (Except GoError Unit) := do
  verify job operation provider ref (← Process.call .deadline)

/-- The write, recorded as `verifying` once the provider has accepted it. -/
def act (job : Jobs.Job) (operation : Operation) (provider : ConnectionConfig) (ref : ServerRef) :
    Process (Except GoError Unit) := do
  match ← executeProviderAction provider ref operation.action with
  | .error failure => finishError operation job failure
  | .ok receipt =>
      let now ← Process.now
      match ← Process.transition operation.id .verifying ⟨now, receipt.requestID, [], []⟩ with
      | .error failure => return .error failure
      | .ok operation => startVerifying job operation provider ref

/-- The first look at the remote server decides whether to write at all. -/
def inspect (job : Jobs.Job) (operation : Operation) (provider : ConnectionConfig)
    (ref : ServerRef) : Process (Except GoError Unit) := do
  match ← Process.call (.validateConnection provider) with
  | .error failure => finishError operation job failure
  | .ok () =>
      match ← Process.call (.getServer provider ref) with
      | .error failure => finishError operation job failure
      | .ok remote =>
          if actionAlreadySatisfied operation.action remote.state then succeed operation remote
          else if operation.status = .verifying then startVerifying job operation provider ref
          else act job operation provider ref

def attempt (job : Jobs.Job) (operation : Operation) : Process (Except GoError Unit) := do
  match ← Process.call (.findServer operation.serverID) with
  | .error failure => finishError operation job failure
  | .ok server =>
      match ← provider operation.connectionID with
      | .error failure => finishError operation job failure
      | .ok provider => inspect job operation provider ⟨server.externalID, server.scope⟩

def start (job : Jobs.Job) (operation : Operation) : Process (Except GoError Unit) := do
  let now ← Process.now
  match ← Process.transition operation.id .running ⟨now, [], [], []⟩ with
  | .error failure => return .error failure
  | .ok operation => attempt job operation

def execute (job : Jobs.Job) : Process (Except GoError Unit) := do
  if job.kind = .powerOperation then
    if job.payload.field (text "operation_id") = [] then
      return .error (.plain (text "invalid power operation job payload"))
    else
      match ← Process.call (.findOperation (job.payload.field (text "operation_id"))) with
      | .error failure => return .error failure
      | .ok operation =>
          if operation.status.terminal then return .ok ()
          else if operation.status = .queued then start job operation
          else attempt job operation
  else return .error (.plain (text "unsupported power operation job"))

end Executor

/-! ## The worker of the application -/

/-- The handler that the application gives to the worker. -/
def handle (job : Jobs.Job) : Process (Except GoError Unit) :=
  match job.kind with
  | .syncConnection =>
      if job.payload.field (text "connection_id") = [] then
        return .error (.plain (text "invalid sync job payload"))
      else Process.call (.syncConnection (job.payload.field (text "connection_id")))
  | .powerOperation => Executor.execute job
  | .other _ => return .error (.plain (text "unsupported job kind"))

def host : Jobs.Host Process where
  now := Process.now
  leaseNext owner at_ duration := Process.call (.leaseNext owner at_ duration)
  retry id owner availableAt message := Process.call (.retry id owner availableAt message)
  complete id owner at_ := Process.call (.complete id owner at_)
  fail id owner at_ message := Process.call (.fail id owner at_ message)
  handle := handle

end NodeAtlas.Power
