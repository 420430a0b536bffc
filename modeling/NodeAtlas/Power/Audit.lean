import NodeAtlas.Power.Discipline

/-! Every activity of the panel passes the audit. -/

set_option autoImplicit false

namespace NodeAtlas.Power

open Interleaving Operations Providers

section Requests

variable {db : Database} {operation : Operation} {earlier : List PanelEvent}

theorem created_cons {event : PanelEvent} (quiet : createdBy event = none) :
    created (event :: earlier) = created earlier := by
  simp [created, quiet]

theorem pending_cons {event : PanelEvent} (quiet : createdBy event = none)
    (kept : handsOver event = false) : pending (event :: earlier) = pending earlier := by
  simp [pending, quiet, kept]

theorem pending_over {event : PanelEvent} (quiet : createdBy event = none)
    (ceased : handsOver event = true) : pending (event :: earlier) = none := by
  simp [pending, quiet, ceased]

private abbrev RequestKept {α : Type} (db : Database) (closing : List PanelEvent → α → Prop)
    (earlier : List PanelEvent) (program : Process α) : Prop :=
  program.Audited (fits db) (fun earlier event => fits db event ∧ requestRule earlier event)
    closing earlier

private def Closes (events : List PanelEvent) (result : Except GoError (Operation × Bool)) : Prop :=
  requestClosing events (.requested result)

private theorem compensate_kept (made : created earlier = some operation) (now : Instant)
    (code message : GoString) (failure : GoError) :
    RequestKept db Closes earlier (Service.compensate operation now code message failure) := by
  intro reply fit
  refine ⟨⟨fit, rfl, operation, made, rfl⟩, .inr ⟨operation, _, reply, ?_, ?_, ?_⟩⟩
  · exact (created_cons rfl).trans made
  · exact pending_over rfl rfl
  · exact List.mem_cons_self

private theorem recordQueued_kept (made : created earlier = some operation)
    (ceased : pending earlier = none)
    (queued : ∃ queue, (⟨.enqueuePowerOperation queue operation.id, .ok ()⟩ : PanelEvent) ∈ earlier)
    (request : Request) (now : Instant) :
    RequestKept db Closes earlier (Service.recordQueued request operation now) := by
  obtain ⟨queue, stored⟩ := queued
  intro auditID _
  refine ⟨⟨trivial, trivial⟩, ?_⟩
  have still : created (⟨.newID, auditID⟩ :: earlier) = some operation :=
    (created_cons rfl).trans made
  intro reply _
  refine ⟨⟨trivial, operation, queue, still, List.mem_cons_of_mem _ stored, rfl, rfl⟩, ?_⟩
  have after : created (⟨.append (Service.queuedEntry request operation now auditID), reply⟩ ::
      ⟨.newID, auditID⟩ :: earlier) = some operation := (created_cons rfl).trans still
  cases reply with
  | error failure => exact compensate_kept after _ _ _ _
  | ok _ =>
      refine ⟨after, ⟨⟨queue, ?_⟩, _, List.mem_cons_self, rfl, rfl⟩, ?_⟩
      · exact List.mem_cons_of_mem _ (List.mem_cons_of_mem _ stored)
      · rw [pending_cons rfl rfl, pending_cons rfl rfl]
        exact ceased

private theorem queueOperation_kept (made : created earlier = some operation)
    (waiting : pending earlier = some operation.id) (maxAttempts : Int) (request : Request)
    (now : Instant) :
    RequestKept db Closes earlier (Service.queueOperation maxAttempts request operation now) := by
  intro clock _
  refine ⟨⟨trivial, trivial⟩, ?_⟩
  intro id _
  refine ⟨⟨trivial, trivial⟩, ?_⟩
  have still : created (⟨.newID, id⟩ :: ⟨.now, clock⟩ :: earlier) = some operation := by
    rw [created_cons rfl, created_cons rfl]
    exact made
  have unqueued : pending (⟨.newID, id⟩ :: ⟨.now, clock⟩ :: earlier) = some operation.id := by
    rw [pending_cons rfl rfl, pending_cons rfl rfl]
    exact waiting
  intro reply _
  refine ⟨⟨trivial, unqueued⟩, ?_⟩
  cases reply with
  | error failure => exact compensate_kept ((created_cons rfl).trans still) _ _ _ _
  | ok _ =>
      refine recordQueued_kept ((created_cons rfl).trans still) (pending_over rfl rfl) ?_ _ _
      exact ⟨_, List.mem_cons_self⟩

private theorem createOperation_kept (unmade : created earlier = none) (maxAttempts : Int)
    (request : Request) (key : GoString) (server : Inventory.Server) :
    RequestKept db Closes earlier (Service.createOperation maxAttempts request key server) := by
  intro now _
  refine ⟨⟨trivial, trivial⟩, ?_⟩
  intro id _
  refine ⟨⟨trivial, trivial⟩, ?_⟩
  have still : created (⟨.newID, id⟩ :: ⟨.now, now⟩ :: earlier) = none := by
    rw [created_cons rfl, created_cons rfl]
    exact unmade
  intro reply _
  refine ⟨⟨trivial, still⟩, ?_⟩
  rcases reply with failure | ⟨operation, fresh⟩
  · exact .inl ((created_cons rfl).trans still)
  · cases fresh with
    | false => exact (created_cons rfl).trans still
    | true => exact queueOperation_kept rfl rfl maxAttempts request now

private theorem checkServer_kept (unmade : created earlier = none) (maxAttempts : Int)
    (request : Request) (key : GoString) (server : Inventory.Server) :
    RequestKept db Closes earlier (Service.checkServer maxAttempts request key server) := by
  unfold Service.checkServer
  repeat' split
  · exact .inl unmade
  · exact createOperation_kept unmade maxAttempts request key server
  · exact .inl unmade
  · exact .inl unmade

theorem request_kept (maxAttempts : Int) (request : Request) :
    RequestKept db Closes [] (Service.request maxAttempts request) := by
  unfold Service.request
  split
  · have keyed : RequestKept db (fun events _ => created events = none) []
        (Service.idempotencyKey (trimSpace request.idempotencyKey)) := by
      unfold Service.idempotencyKey
      split
      · exact fun _ _ => ⟨⟨trivial, trivial⟩, rfl⟩
      · rfl
    refine keyed.bind ?_
    intro events key unmade reply _
    refine ⟨⟨trivial, trivial⟩, ?_⟩
    have still : created (⟨.findByIdempotencyKey key, reply⟩ :: events) = none :=
      (created_cons rfl).trans unmade
    cases reply with
    | ok existing => exact still
    | error failure =>
        change RequestKept db Closes _ (if failure.is .operationNotFound = true then _ else _)
        split
        · intro reply _
          refine ⟨⟨trivial, trivial⟩, ?_⟩
          have after : created (⟨.findServer (trimSpace request.serverID), reply⟩ ::
              ⟨.findByIdempotencyKey key, .error failure⟩ :: events) = none :=
            (created_cons rfl).trans still
          cases reply with
          | error failure => exact .inl after
          | ok server => exact checkServer_kept after maxAttempts request key server
        · exact .inl still
  · exact .inl rfl

end Requests

/-! ## Backups and restores -/

section Backups

variable {db : Database} {restores : Bool} {earlier : List PanelEvent}

private abbrev BackupKept {α : Type} (db : Database) (restores : Bool)
    (closing : List PanelEvent → α → Prop) (earlier : List PanelEvent) (program : Process α) : Prop :=
  program.Audited (fits db) (backupRule restores) closing earlier

/-- What a restore relies on has been read. -/
private def Checked (restores : Bool) (events : List PanelEvent) : Prop :=
  restores = true → (⟨.hasActiveWork, .ok false⟩ : PanelEvent) ∈ events

private theorem Checked.cons (checked : Checked restores earlier) (event : PanelEvent) :
    Checked restores (event :: earlier) :=
  fun restoring => List.mem_cons_of_mem _ (checked restoring)

private theorem backupAudit_kept (checked : Checked restores earlier)
    (eventType targetID requestID sourceIP : GoString) (metadata : JSONMap) :
    BackupKept db restores (fun events _ => Checked restores events) earlier
      (backups.appendAudit eventType targetID requestID sourceIP metadata) := by
  intro id _
  refine ⟨trivial, ?_⟩
  intro at_ _
  refine ⟨trivial, ?_⟩
  intro reply _
  exact ⟨trivial, ((checked.cons _).cons _).cons _⟩

private theorem createLocked_kept (checked : Checked restores earlier) (passphrase : GoString)
    (kind : Backup.Kind) (requestID sourceIP : GoString) :
    BackupKept db restores (fun events _ => Checked restores events) earlier
      (backups.createLocked passphrase kind requestID sourceIP) := by
  intro reply _
  refine ⟨trivial, ?_⟩
  have first := checked.cons ⟨.exportArchive, reply⟩
  cases reply with
  | error failure => exact first
  | ok archive =>
      dsimp only [Program.bind]
      split
      · exact first
      · next data _ =>
          intro id _
          refine ⟨trivial, ?_⟩
          intro createdAt _
          refine ⟨trivial, ?_⟩
          intro reply _
          refine ⟨trivial, ?_⟩
          have saved := ((first.cons ⟨.newID, id⟩).cons ⟨.now, createdAt⟩).cons
            ⟨.saveBackup ⟨id, kind, createdAt, data⟩, reply⟩
          cases reply with
          | error failure => exact saved
          | ok _ =>
              refine (backupAudit_kept saved _ _ _ _ _).bind ?_
              intro events result still
              cases result <;> exact still

private theorem create_kept (passphrase : GoString) (kind : Backup.Kind)
    (requestID sourceIP : GoString) :
    BackupKept db false (fun _ _ => True) []
      (backups.create passphrase kind requestID sourceIP) := by
  intro locked _
  refine ⟨trivial, ?_⟩
  refine (createLocked_kept (by simp [Checked]) passphrase kind requestID sourceIP).bind ?_
  intro events result _ unlocked _
  exact ⟨trivial, trivial⟩

private theorem restoreLocked_kept (checked : Checked true earlier)
    (id passphrase requestID sourceIP : GoString) :
    BackupKept db true (fun _ _ => True) earlier
      (backups.restoreLocked id passphrase requestID sourceIP) := by
  intro reply _
  refine ⟨trivial, ?_⟩
  have read := checked.cons ⟨.readVerified id, reply⟩
  cases reply with
  | error failure => trivial
  | ok data =>
      dsimp only [Program.bind]
      split
      · trivial
      · next archive _ =>
          refine (createLocked_kept read passphrase .safety requestID sourceIP).bind ?_
          intro events result still
          cases result with
          | error failure => trivial
          | ok _ =>
              intro reply _
              refine ⟨⟨rfl, still rfl⟩, ?_⟩
              have after := still.cons ⟨.restore archive, reply⟩
              cases reply with
              | error failure => trivial
              | ok _ => exact (backupAudit_kept after _ _ _ _ _).mono fun _ _ _ => trivial

private theorem restoreBackup_kept (id passphrase requestID sourceIP : GoString) :
    BackupKept db true (fun _ _ => True) []
      (backups.restoreBackup id passphrase requestID sourceIP) := by
  intro reply _
  refine ⟨trivial, ?_⟩
  rcases reply with failure | active
  · trivial
  · cases active with
    | true => trivial
    | false =>
        intro locked _
        refine ⟨trivial, ?_⟩
        have checked : Checked true [⟨.lock, locked⟩, ⟨.hasActiveWork, .ok false⟩] :=
          fun _ => List.mem_cons_of_mem _ List.mem_cons_self
        refine (restoreLocked_kept checked id passphrase requestID sourceIP).bind ?_
        intro events result _ unlocked _
        exact ⟨trivial, trivial⟩

end Backups

/-! ## The whole panel -/

section Panel

variable (db : Database) (maxAttempts : Int)

private theorem findByID_fits {t : Nat} {id : GoString} {faults : List Bool} {state next : State}
    {reply : Except GoError Operation}
    (ran : onOperations db t (findByID db id) faults state = some (reply, next)) :
    fits db ⟨.findOperation id, reply⟩ := by
  obtain ⟨⟨found, rows⟩, transacted, same⟩ := Option.map_eq_some_iff.mp ran
  cases same
  obtain ⟨found, _⟩ := findCommitted_alone transacted
  cases found with
  | found member matched => exact matched
  | missing absent => trivial
  | failed database => trivial

private theorem transition_fits {t : Nat} {clock : Instant} {id : GoString} {status : Status}
    {change : Change} {faults : List Bool} {state next : State} {reply : Except GoError Operation}
    (ran : onOperations db t (Operations.transition db clock id status change) faults state =
      some (reply, next)) : fits db ⟨.transition id status change, reply⟩ := by
  obtain ⟨⟨_, rows⟩, transacted, same⟩ := Option.map_eq_some_iff.mp ran
  cases same
  cases reply with
  | error failure => trivial
  | ok operation => exact transition_returns transacted

theorem perform_fits {t : Nat} {call : Call} {choice : Choice} {state next : State}
    {reply : call.Reply} (ran : perform db t call choice state = some (reply, next)) :
    fits db ⟨call, reply⟩ := by
  cases call with
  | findOperation id =>
      cases choice with
      | database clock faults => exact findByID_fits db ran
      | _ => cases ran
  | transition id status change =>
      cases choice with
      | database clock faults => exact transition_fits db ran
      | _ => cases ran
  | _ => trivial

theorem panel_passes : (audit db).Passed (panel db maxAttempts) (fun _ => True) where
  fitting _ _ _ _ _ _ ran := perform_fits db ran
  audited activity _ := by
    cases activity with
    | request asked => exact (request_kept maxAttempts asked).bind fun _ _ closes => closes
    | runOnce worker => exact (runOnce_kept worker).bind fun _ _ _ => trivial
    | enqueueConnectionSync connectionID =>
        exact fun _ _ => ⟨trivial, fun _ _ => ⟨trivial, fun _ _ => ⟨trivial, trivial⟩⟩⟩
    | enqueuePowerOperation operationID =>
        exact fun _ _ => ⟨trivial, fun _ _ => ⟨trivial, fun _ _ => ⟨trivial, trivial⟩⟩⟩
    | createBackup passphrase requestID sourceIP =>
        exact (create_kept passphrase .manual requestID sourceIP).bind fun _ _ _ => trivial
    | restoreBackup id passphrase requestID sourceIP =>
        exact (restoreBackup_kept id passphrase requestID sourceIP).bind fun _ _ _ => trivial

end Panel

end NodeAtlas.Power
