import NodeAtlas.Connections.Calls

/-! The connection service. -/

set_option autoImplicit false

namespace NodeAtlas.Connections

open Interleaving Providers Secrets

/-- `strings.ToLower` and `json.Valid`. -/
structure Texts where
  toLower : GoString → GoString
  validJSON : GoString → Bool

structure CreateInput where
  name : GoString
  providerType : GoString
  endpoint : GoString
  settings : GoString
  credentials : GoString
  enabled : Bool

structure UpdateInput where
  name : GoString
  endpoint : GoString
  settings : GoString
  credentials : GoString
  enabled : Bool

def invalidConnection : GoString := text "invalid provider connection"

section Code

variable (gcm : GCM) (texts : Texts)

/-- `registry.Create`, whose error is shown and not wrapped. -/
def createProvider (config : ConnectionConfig) : Process (Except GoError Unit) := do
  match ← call (.createProvider config) with
  | .error failure => return .error (.plain (invalidConnection ++ text ": " ++ failure.message))
  | .ok () => return .ok ()

/-- `service.cipher.Encrypt` -/
def encryptFor (connectionID providerType plaintext : GoString) : Process (Except GoError Envelope) := do
  match ← encrypt gcm (← call .cipher) (call .nonce) connectionID providerType plaintext with
  | .error failure => return .error (.wrapped (text "encrypt provider credentials") failure)
  | .ok envelope => return .ok envelope

def queueSync (context : GoString) (connection : Connection) : Process (Except GoError Connection) :=
  if connection.enabled = false then return .ok connection
  else do
    match ← call (.enqueueConnectionSync connection.id) with
    | .error failure => return .error (.wrapped context failure)
    | .ok () => return .ok connection

/-- The part of `Create` behind the checks of the input. -/
def createConnection (name providerType endpoint settings credentials : GoString) (enabled : Bool) :
    Process (Except GoError Connection) := do
  let id ← call .newID
  match ← createProvider ⟨id, providerType, endpoint, settings, credentials⟩ with
  | .error failure => return .error failure
  | .ok () =>
      match ← encryptFor gcm id providerType credentials with
      | .error failure => return .error failure
      | .ok envelope =>
          let now ← call .now
          let health : Inventory.Health := ⟨text "unknown", none, none, [], [], now⟩
          let connection : Connection :=
            ⟨id, name, providerType, endpoint, settings, enabled, health, now⟩
          match ← call (.create connection envelope) with
          | .error failure => return .error failure
          | .ok () => queueSync (text "queue initial provider sync") connection

def create (input : CreateInput) : Process (Except GoError Connection) :=
  let name := trimSpace input.name
  let providerType := texts.toLower (trimSpace input.providerType)
  let endpoint := trimSpace input.endpoint
  let settings := if input.settings = [] then text "{}" else input.settings
  if name = [] ∨ 255 < name.length ∨ providerType = [] then return .error (.plain invalidConnection)
  else if texts.validJSON settings = false ∨ texts.validJSON input.credentials = false then
    return .error (.plain invalidConnection)
  else createConnection gcm name providerType endpoint settings input.credentials input.enabled

/-- The credentials that an update is validated with, and those it stores. -/
def replaceCredentials (connection : Connection) (stored credentials : GoString) :
    Process (Except GoError (GoString × Option Envelope)) :=
  if credentials = [] then return .ok (stored, none)
  else if texts.validJSON credentials = false then return .error (.plain invalidConnection)
  else do
    match ← encryptFor gcm connection.id connection.providerType credentials with
    | .error failure => return .error failure
    | .ok envelope => return .ok (credentials, some envelope)

/-- The part of `Update` behind the checks of the input. -/
def updateConnection (connection : Connection) (found : Envelope) (input : UpdateInput)
    (name endpoint : GoString) : Process (Except GoError Connection) := do
  match decrypt gcm (← call .cipher) connection.id connection.providerType found with
  | .error failure => return .error (.wrapped (text "decrypt provider credentials") failure)
  | .ok stored =>
      match ← replaceCredentials gcm texts connection stored input.credentials with
      | .error failure => return .error failure
      | .ok (credentials, replacement) =>
          match ← createProvider ⟨connection.id, connection.providerType, endpoint, input.settings,
              credentials⟩ with
          | .error failure => return .error failure
          | .ok () =>
              let now ← call .now
              let next := { connection with
                name := name
                endpoint := endpoint
                settings := input.settings
                enabled := input.enabled
                health := { connection.health with updatedAt := now } }
              match ← call (.update next replacement) with
              | .error failure => return .error failure
              | .ok () => queueSync (text "queue provider sync") next

def update (id : GoString) (input : UpdateInput) : Process (Except GoError Connection) := do
  match ← call (.findByID id) with
  | .error failure => return .error failure
  | .ok (connection, found) =>
      let name := trimSpace input.name
      if name = [] ∨ 255 < name.length ∨ texts.validJSON input.settings = false then
        return .error (.plain invalidConnection)
      else updateConnection gcm texts connection found input name (trimSpace input.endpoint)

def delete (id : GoString) : Process (Except GoError Unit) := do
  call (.softDelete id (← call .now))

end Code

/-! ## The process -/

inductive Activity where
  | create (input : CreateInput)
  | update (id : GoString) (input : UpdateInput)
  | delete (id : GoString)

/-- The credentials that a request brings along. -/
def Activity.credentials : Activity → GoString
  | .create input => input.credentials
  | .update _ input => input.credentials
  | .delete _ => []

def Activity.program (gcm : GCM) (texts : Texts) : Activity → Process (Except GoError Unit)
  | .create input => return (← Connections.create gcm texts input).map fun _ => ()
  | .update id input => return (← Connections.update gcm texts id input).map fun _ => ()
  | .delete id => Connections.delete id

/-- The requests of any number of administrators, with restarts of the process. -/
def connections (db : Database) (columns : Row → Bool) (gcm : GCM) (texts : Texts)
    (accepts : (type endpoint settings credentials : GoString) → Bool) :
    System Call Call.Reply State Activity (Except GoError Unit) Choice where
  program := Activity.program gcm texts
  perform := perform db columns accepts
  external := external
  restart := restart

abbrev ConnectionsConfig : Type := Config Call Call.Reply State Activity (Except GoError Unit)

abbrev ConnectionsLabel : Type := Label Call Call.Reply Activity Choice

/-- A process that has just been installed. -/
def installed (cipher : CredentialCipher) : ConnectionsConfig :=
  Config.initial ⟨[], cipher, cipher, []⟩

end NodeAtlas.Connections
