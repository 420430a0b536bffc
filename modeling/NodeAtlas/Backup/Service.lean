import NodeAtlas.AuditLog

/-! The backup service over whatever a logical archive holds. -/

set_option autoImplicit false

namespace NodeAtlas.Backup

inductive Kind where
  | manual
  | safety
  deriving DecidableEq, Repr

def Kind.value : Kind → GoString
  | .manual => text "manual"
  | .safety => text "safety"

/-- A sealed archive opens with its passphrase alone and cannot be altered. -/
structure Sealed (Archive : Type) where
  passphrase : GoString
  archive : Archive

def sealArchive {Archive : Type} (archive : Archive) (passphrase : GoString) :
    Except GoError (Sealed Archive) :=
  if passphrase.length < 12 || passphrase.length > 1024 then .error (.sentinel .invalidBackup)
  else .ok ⟨passphrase, archive⟩

def Sealed.opened {Archive : Type} (data : Sealed Archive) (passphrase : GoString) :
    Except GoError Archive :=
  if passphrase = data.passphrase then .ok data.archive else .error (.sentinel .invalidBackup)

/-- A backup file together with its metadata row. -/
structure File (Archive : Type) where
  id : GoString
  kind : Kind
  createdAt : Instant
  data : Sealed Archive

/-- What the service is built from: the backup repository with its directory,
the snapshotter, the audit log, the activity checker, the clock, the id
generator and the mutex. -/
structure Service (m : Type → Type) (Archive : Type) where
  now : m Instant
  newID : m GoString
  lock : m Unit
  unlock : m Unit
  hasActiveWork : m (Except GoError Bool)
  readVerified : GoString → m (Except GoError (Sealed Archive))
  exportArchive : m (Except GoError Archive)
  save : File Archive → m (Except GoError Unit)
  restore : Archive → m (Except GoError Unit)
  append : AuditLog.Entry → m (Except GoError Unit)

namespace Service

variable {m : Type → Type} [Monad m] {Archive : Type} (service : Service m Archive)

def appendAudit (eventType targetID requestID sourceIP : GoString) (metadata : JSONMap) :
    m (Except GoError Unit) := do
  let id ← service.newID
  let at_ ← service.now
  service.append ⟨id, eventType, text "backup", targetID, requestID, sourceIP, metadata, at_⟩

def createLocked (passphrase : GoString) (kind : Kind) (requestID sourceIP : GoString) :
    m (Except GoError GoString) := do
  match ← service.exportArchive with
  | .error failure => return .error failure
  | .ok archive =>
      match sealArchive archive passphrase with
      | .error failure => return .error failure
      | .ok data =>
          let id ← service.newID
          let createdAt ← service.now
          match ← service.save ⟨id, kind, createdAt, data⟩ with
          | .error failure => return .error failure
          | .ok () =>
              match ← service.appendAudit (text "backup_created") id requestID sourceIP
                  [(text "format_version", text "1"), (text "kind", kind.value)] with
              | .error failure => return .error failure
              | .ok () => return .ok id

def create (passphrase : GoString) (kind : Kind) (requestID sourceIP : GoString) :
    m (Except GoError GoString) := do
  service.lock
  let outcome ← service.createLocked passphrase kind requestID sourceIP
  service.unlock
  return outcome

/-- What `Restore` does while it holds the mutex. -/
def restoreLocked (id passphrase requestID sourceIP : GoString) : m (Except GoError Unit) := do
  match ← service.readVerified id with
  | .error failure => return .error failure
  | .ok data =>
      match data.opened passphrase with
      | .error failure => return .error failure
      | .ok archive =>
          match ← service.createLocked passphrase .safety requestID sourceIP with
          | .error failure => return .error (.wrapped (text "create restore safety backup") failure)
          | .ok _ =>
              match ← service.restore archive with
              | .error failure => return .error failure
              | .ok () =>
                  service.appendAudit (text "backup_restored") id requestID sourceIP
                    [(text "format_version", text "1")]

def restoreBackup (id passphrase requestID sourceIP : GoString) : m (Except GoError Unit) := do
  match ← service.hasActiveWork with
  | .error failure => return .error failure
  | .ok true => return .error (.sentinel .activeWork)
  | .ok false =>
      service.lock
      let outcome ← service.restoreLocked id passphrase requestID sourceIP
      service.unlock
      return outcome

end Service

end NodeAtlas.Backup
