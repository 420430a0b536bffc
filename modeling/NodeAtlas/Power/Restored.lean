import NodeAtlas.Power.History

/-! What a restored archive sets going: the work that was in progress when it
was exported, and nothing else. -/

set_option autoImplicit false

namespace NodeAtlas.Power

open Interleaving Operations Providers AuditLog

/-! ## Where archives come from -/

namespace Origins

/-- What the backup service stores it has exported, what it restores it has read. -/
def backupRule (earlier : List PanelEvent) (event : PanelEvent) : Prop :=
  match event.call with
  | .saveBackup file => (⟨.exportArchive, .ok file.data.archive⟩ : PanelEvent) ∈ earlier
  | .restore archive => ∃ id data, (⟨.readVerified id, .ok data⟩ : PanelEvent) ∈ earlier ∧
      data.archive = archive
  | _ => True

def audit : Audit Call Call.Reply Activity Outcome where
  fits _ := True
  rule
    | .createBackup _ _ _ => backupRule
    | .restoreBackup _ _ _ _ => backupRule
    | _ => fun _ _ => True
  closing _ _ _ := True

section Backups

private abbrev Kept {α : Type} (closing : List PanelEvent → α → Prop) (earlier : List PanelEvent)
    (program : Process α) : Prop :=
  program.Audited (fun _ => True) backupRule closing earlier

private theorem sealed_archive {archive : Archive} {passphrase : GoString} {data : Backup.Sealed Archive}
    (sealed_ : Backup.sealArchive archive passphrase = .ok data) : data.archive = archive := by
  unfold Backup.sealArchive at sealed_
  split at sealed_
  · cases sealed_
  · cases sealed_
    rfl

private theorem opened_archive {archive : Archive} {passphrase : GoString} {data : Backup.Sealed Archive}
    (opened : data.opened passphrase = .ok archive) : data.archive = archive := by
  unfold Backup.Sealed.opened at opened
  split at opened
  · cases opened
    rfl
  · cases opened

/-- Every event that was seen remains seen. -/
private theorem createLocked_kept (event : PanelEvent) {earlier : List PanelEvent}
    (member : event ∈ earlier) (passphrase : GoString) (kind : Backup.Kind)
    (requestID sourceIP : GoString) :
    Kept (fun events _ => event ∈ events) earlier
      (backups.createLocked passphrase kind requestID sourceIP) := by
  intro reply _
  refine ⟨trivial, ?_⟩
  have first := List.mem_cons_of_mem ⟨.exportArchive, reply⟩ member
  cases reply with
  | error failure => exact first
  | ok archive =>
      dsimp only [Program.bind]
      split
      · exact first
      · next data sealed_ =>
          intro id _
          refine ⟨trivial, ?_⟩
          intro createdAt _
          refine ⟨trivial, ?_⟩
          intro reply _
          refine ⟨?_, ?_⟩
          · change (⟨.exportArchive, .ok data.archive⟩ : PanelEvent) ∈ _
            rw [sealed_archive sealed_]
            exact List.mem_cons_of_mem _ (List.mem_cons_of_mem _ List.mem_cons_self)
          · have saved := List.mem_cons_of_mem ⟨.saveBackup ⟨id, kind, createdAt, data⟩, reply⟩
              (List.mem_cons_of_mem ⟨.now, createdAt⟩ (List.mem_cons_of_mem ⟨.newID, id⟩ first))
            cases reply with
            | error failure => exact saved
            | ok _ =>
                intro entryID _
                refine ⟨trivial, ?_⟩
                intro now _
                refine ⟨trivial, ?_⟩
                intro reply _
                refine ⟨trivial, ?_⟩
                have appended_ := List.mem_cons_of_mem
                  (⟨.append ⟨entryID, text "backup_created", text "backup", id, requestID, sourceIP,
                    [(text "format_version", text "1"), (text "kind", kind.value)], now⟩, reply⟩ : PanelEvent)
                  (List.mem_cons_of_mem ⟨.now, now⟩ (List.mem_cons_of_mem ⟨.newID, entryID⟩ saved))
                cases reply <;> exact appended_

private theorem create_kept (passphrase : GoString) (kind : Backup.Kind) (requestID sourceIP : GoString) :
    Kept (fun _ _ => True) [] (backups.create passphrase kind requestID sourceIP) := by
  intro locked _
  refine ⟨trivial, ?_⟩
  apply (createLocked_kept ⟨.lock, locked⟩ List.mem_cons_self passphrase kind requestID sourceIP).bind
  exact fun _ _ _ _ _ => ⟨trivial, trivial⟩

private theorem restoreLocked_kept (earlier : List PanelEvent) (id passphrase requestID sourceIP : GoString) :
    Kept (fun _ _ => True) earlier (backups.restoreLocked id passphrase requestID sourceIP) := by
  intro reply _
  refine ⟨trivial, ?_⟩
  cases reply with
  | error failure => trivial
  | ok data =>
      dsimp only [Program.bind]
      split
      · trivial
      · next archive opened =>
          refine (createLocked_kept ⟨.readVerified id, .ok data⟩ List.mem_cons_self passphrase .safety
            requestID sourceIP).bind ?_
          intro events result member
          cases result with
          | error failure => trivial
          | ok _ =>
              intro reply _
              refine ⟨⟨id, data, member, opened_archive opened⟩, ?_⟩
              cases reply with
              | error failure => trivial
              | ok _ =>
                  intro entryID _
                  refine ⟨trivial, ?_⟩
                  intro now _
                  exact ⟨trivial, fun _ _ => ⟨trivial, trivial⟩⟩

private theorem restoreBackup_kept (id passphrase requestID sourceIP : GoString) :
    Kept (fun _ _ => True) [] (backups.restoreBackup id passphrase requestID sourceIP) := by
  intro reply _
  refine ⟨trivial, ?_⟩
  rcases reply with failure | active
  · trivial
  · cases active with
    | true => trivial
    | false =>
        intro locked _
        refine ⟨trivial, ?_⟩
        apply (restoreLocked_kept _ id passphrase requestID sourceIP).bind
        exact fun _ _ _ _ _ => ⟨trivial, trivial⟩

end Backups

theorem panel_passes (db : Database) (maxAttempts : Int) :
    audit.Passed (panel db maxAttempts) (fun _ => True) where
  fitting _ _ _ _ _ _ _ := trivial
  audited activity _ := by
    cases activity with
    | createBackup passphrase requestID sourceIP =>
        exact (create_kept passphrase .manual requestID sourceIP).bind fun _ _ _ => trivial
    | restoreBackup id passphrase requestID sourceIP =>
        exact (restoreBackup_kept id passphrase requestID sourceIP).bind fun _ _ _ => trivial
    | _ => exact Program.Audited.free _ (fun _ _ => trivial) fun _ _ => trivial

end Origins

/-! ## Every archive holds what the tables held -/

/-- The statuses of a table either keep a server locked or are at their end. -/
def Proper (rows : List Operations.Row) : Prop :=
  ∀ row ∈ rows, row.status.terminal = !row.status.active

/-- The archive that a call answered with. -/
def archiveOf : PanelEvent → Option Archive
  | ⟨.exportArchive, .ok archive⟩ => some archive
  | ⟨.readVerified _, .ok data⟩ => some data.archive
  | _ => none

structure Sound (db : Database) (config : PanelConfig) : Prop where
  apart : Apart db config.state
  rows : Proper config.state.operations
  backups : ∀ file ∈ config.state.backups, Proper file.data.archive.operations
  answers : ∀ entry ∈ config.history, ∀ archive, archiveOf entry.2 = some archive →
    Proper archive.operations

section Sound

variable {db : Database} {maxAttempts : Int} {config next : PanelConfig}

theorem OperationsChange.proper {rows after : List Operations.Row} {event : PanelEvent}
    (changed : OperationsChange db rows event after) (proper : Proper rows)
    (restored : ∀ archive, event = ⟨.restore archive, .ok ()⟩ → Proper archive.operations) :
    Proper after := by
  cases changed with
  | kept quiet => exact proper
  | created operation =>
      intro row member
      rcases List.mem_append.mp member with former | fresh
      · exact proper row former
      · rw [List.mem_singleton.mp fresh]
        rfl
  | moved member matched valid =>
      intro row changed_
      obtain ⟨former, among, rfl⟩ := List.mem_map.mp changed_
      split
      · exact validTransition_terminal valid
      · exact proper former among
  | restored archive => exact restored archive rfl

/-- Files are only added. -/
private theorem perform_backups {t : Nat} {call : Call} {choice : Choice} {reply : call.Reply}
    {state after : State} (ran : perform db t call choice state = some (reply, after)) :
    after.backups = state.backups ∨ ∃ file, call = .saveBackup file ∧
      after.backups = state.backups ++ [file] := by
  cases call with
  | saveBackup file =>
      cases choice with
      | database clock faults =>
          simp only [perform, onTable] at ran
          split at ran <;> cases ran
          · exact .inl rfl
          · exact .inr ⟨file, rfl, rfl⟩
      | _ => cases ran
  | findOperation _ | findByIdempotencyKey _ | createQueued _ | transition _ _ _
  | enqueueConnectionSync _ _ | enqueuePowerOperation _ _ | leaseNext _ _ _ | retry _ _ _ _
  | complete _ _ _ | fail _ _ _ _ =>
      cases choice with
      | database clock faults =>
          obtain ⟨⟨_, rows⟩, _, same⟩ := Option.map_eq_some_iff.mp ran
          cases same
          exact .inl rfl
      | _ => cases ran
  | append _ | findServer _ | updateRemote _ _ _ | hasActiveWork | readVerified _ | exportArchive
  | restore _ =>
      cases choice with
      | database clock faults =>
          simp only [perform, onTable] at ran
          repeat' split at ran
          all_goals
            cases ran
            exact .inl rfl
      | _ => cases ran
  | lock | findConnection _ =>
      cases choice
      all_goals
        simp only [perform] at ran
        repeat' split at ran
        all_goals
          cases ran <;> exact .inl rfl
  | now | newID | decrypt _ | createProvider _ | validateConnection _ | getServer _ _
  | powerAction _ _ _ | deadline | syncConnection _ | unlock =>
      cases choice
      all_goals cases ran <;> exact .inl (by first | rfl | (split <;> rfl))
  | wait =>
      cases choice with
      | done result =>
          cases result with
          | ok _ =>
              cases ran
              exact .inl rfl
          | error failure =>
              simp only [perform] at ran
              split at ran <;> cases ran
              exact .inl rfl
      | _ => cases ran

/-- An archive is the present state or was saved before. -/
private theorem perform_archive {t : Nat} {call : Call} {choice : Choice} {reply : call.Reply}
    {state after : State} (ran : perform db t call choice state = some (reply, after)) {archive : Archive}
    (answer : archiveOf ⟨call, reply⟩ = some archive) :
    archive = state.toArchive ∨ ∃ file ∈ state.backups, file.data.archive = archive := by
  cases call with
  | exportArchive =>
      cases choice with
      | database clock faults =>
          simp only [perform, onTable] at ran
          split at ran <;> cases ran <;> cases answer
          exact .inl rfl
      | _ => cases ran
  | readVerified id =>
      cases choice with
      | database clock faults =>
          simp only [perform, onTable] at ran
          split at ran
          · cases ran
            cases answer
          · split at ran
            · next file located =>
                cases ran
                cases answer
                exact .inr ⟨file, List.mem_of_find?_eq_some located, rfl⟩
            · cases ran
              cases answer
      | _ => cases ran
  | _ => cases answer

private theorem Sound.restored (sound : Sound db config)
    (origins : Disciplined Origins.audit config) (disciplined : Disciplined (audit db) config)
    {t : Nat} {activity : Activity} {archive : Archive}
    {continuation : Except GoError Unit → Process Outcome} (reply : Except GoError Unit)
    (found : config.threads[t]? = some ⟨activity, some (.call (.restore archive) continuation)⟩) :
    Proper archive.operations := by
  have ruled := (origins.ahead t _ _ found rfl reply trivial).1
  have permitted := (disciplined.ahead t _ _ found rfl reply trivial).1
  cases activity with
  | restoreBackup id passphrase requestID sourceIP =>
      obtain ⟨_, data, read, rfl⟩ := ruled
      exact sound.answers (t, _) (mem_own.mp read) data.archive rfl
  | request asked => exact permitted.2.elim
  | runOnce worker => exact permitted.2.elim
  | enqueueConnectionSync id => exact permitted.elim
  | enqueuePowerOperation id => exact permitted.elim
  | createBackup passphrase requestID sourceIP => exact absurd permitted.1 (by simp)

private theorem Sound.saved (sound : Sound db config)
    (origins : Disciplined Origins.audit config) (disciplined : Disciplined (audit db) config)
    {t : Nat} {activity : Activity} {file : Backup.File Archive}
    {continuation : Except GoError Unit → Process Outcome} (reply : Except GoError Unit)
    (found : config.threads[t]? = some ⟨activity, some (.call (.saveBackup file) continuation)⟩) :
    Proper file.data.archive.operations := by
  have ruled := (origins.ahead t _ _ found rfl reply trivial).1
  have permitted := (disciplined.ahead t _ _ found rfl reply trivial).1
  cases activity with
  | createBackup passphrase requestID sourceIP => exact sound.answers (t, _) (mem_own.mp ruled) _ rfl
  | restoreBackup id passphrase requestID sourceIP => exact sound.answers (t, _) (mem_own.mp ruled) _ rfl
  | request asked => exact permitted.2.elim
  | runOnce worker => exact permitted.2.elim
  | enqueueConnectionSync id => exact permitted.elim
  | enqueuePowerOperation id => exact permitted.elim

private theorem Sound.step (sound : Sound db config) (origins : Disciplined Origins.audit config)
    (disciplined : Disciplined (audit db) config) {label : PanelLabel}
    (transition : (panel db maxAttempts).Transition config label next) : Sound db next := by
  cases transition with
  | spawned activity => exact ⟨sound.apart, sound.rows, sound.backups, sound.answers⟩
  | @performed t activity call continuation choice reply state found answered =>
      have effect_ := perform_effect sound.apart answered
      refine ⟨effect_.apart, ?_, ?_, ?_⟩
      · apply effect_.operations.proper sound.rows
        intro archive same
        cases same
        exact sound.restored origins disciplined (.ok ()) found
      · intro file member
        rcases perform_backups answered with same | ⟨saved, rfl, same⟩
        · exact sound.backups file (same ▸ member)
        · have either : file ∈ config.state.backups ++ [saved] := same ▸ member
          rcases List.mem_append.mp either with former | fresh
          · exact sound.backups file former
          · rw [List.mem_singleton.mp fresh]
            exact sound.saved origins disciplined reply found
      · intro entry member archive answer
        rcases List.mem_cons.mp member with rfl | former
        · rcases perform_archive answered answer with rfl | ⟨file, among, rfl⟩
          · exact sound.rows
          · exact sound.backups file among
        · exact sound.answers entry former archive answer
  | @external choice state acted =>
      have kept : state.operations = config.state.operations ∧ state.jobs = config.state.jobs ∧
          state.backups = config.state.backups := by
        cases choice <;> cases acted <;> exact ⟨rfl, rfl, rfl⟩
      obtain ⟨sameOperations, sameJobs, sameBackups⟩ := kept
      refine ⟨⟨?_, ?_⟩, ?_, ?_, sound.answers⟩
      · exact sameOperations ▸ sound.apart.operations
      · exact sameJobs ▸ sound.apart.jobs
      · exact sameOperations ▸ sound.rows
      · exact sameBackups ▸ sound.backups
  | crashed =>
      exact ⟨⟨sound.apart.operations, sound.apart.jobs⟩, sound.rows, sound.backups, sound.answers⟩

theorem sound_run {servers : List Inventory.Row} {meets : PanelConfig → PanelLabel → Prop}
    (run : PanelRun db maxAttempts servers [] meets config) : Sound db config := by
  have started : Sound db (Config.initial (emptyState servers []) : PanelConfig) := by
    refine ⟨⟨.nil, .nil⟩, ?_, ?_, ?_⟩
    all_goals
      intro member impossible
      cases impossible
  refine System.Run.invariant run started ?_
  intro before label after reached transition met sound
  have former : PanelRun db maxAttempts servers [] meets before := reached
  exact sound.step (Disciplined.run (Origins.panel_passes db maxAttempts) reached fun _ _ _ => trivial)
    former.disciplined transition

end Sound

/-! ## After a restore -/

/-- The step commits no restore. -/
def Unrestored : PanelLabel → Prop
  | .performed _ ⟨.restore _, .ok _⟩ => False
  | _ => True

section Rest

variable {db : Database} {rows after : List Operations.Row} {jobs later : List Jobs.Row} {event : PanelEvent}

/-- A row at its end is never changed. -/
theorem OperationsChange.at_end
    (apart : rows.Pairwise fun left right => (operationsEngine db).clash left right = false)
    (changed : OperationsChange db rows event after)
    (unrestored : ∀ archive, event ≠ ⟨.restore archive, .ok ()⟩) {row : Operations.Row}
    (member : row ∈ rows) (terminal : row.status.terminal = true) : row ∈ after := by
  cases changed with
  | kept quiet => exact member
  | created operation => exact List.mem_append_left _ member
  | @moved read id next change at_ among matched valid =>
      refine List.mem_map.mpr ⟨row, member, ?_⟩
      rw [if_neg]
      intro same
      have active := validTransition_active valid
      rw [← same_row apart among member same, Status.terminal_not_active terminal] at active
      cases active
  | restored archive => exact absurd rfl (unrestored archive)

private theorem changeRow_spares {id : GoString} {change : Jobs.Row → Jobs.Row} {row : Jobs.Row}
    (member : row ∈ jobs) (other : db.same row.id id = false) : row ∈ Jobs.changeRow db id change jobs := by
  refine List.mem_map.mpr ⟨row, member, ?_⟩
  rw [other]
  rfl

private theorem idle_apart
    (apart : jobs.Pairwise fun left right => (jobsEngine db).clash left right = false)
    {row busy : Jobs.Row} (member : row ∈ jobs) (among : busy ∈ jobs) (idle : row.status.active = false)
    (active : busy.status.active = true) {id : GoString} (matched : db.same busy.id id = true) :
    db.same row.id id = false := by
  by_contra same
  simp only [Bool.not_eq_false] at same
  have equal : row = busy := by
    apply Jobs.same_row apart among member
    rw [db.same_symm busy.id] at matched
    exact db.same_trans same matched
  rw [equal, active] at idle
  cases idle

private theorem leasedBy_active {owner : GoString} {row : Jobs.Row}
    (held : Jobs.leasedBy db owner row = true) : row.status.active = true := by
  simp only [Jobs.leasedBy, Bool.and_eq_true, decide_eq_true_eq] at held
  rw [held.1]
  rfl

private theorem leasable_active {now : Instant} {row : Jobs.Row}
    (chosen : (Jobs.leasable db now).condition row = true) : row.status.active = true := by
  simp only [Jobs.leasable, Bool.or_eq_true, Bool.and_eq_true, decide_eq_true_eq] at chosen
  rcases chosen with ⟨queued, _⟩ | ⟨running, _⟩
  · rw [queued]
    rfl
  · rw [running]
    rfl

/-- Nor is a job that nobody may lease. -/
theorem JobsChange.at_rest
    (apart : jobs.Pairwise fun left right => (jobsEngine db).clash left right = false)
    (changed : JobsChange db jobs event later)
    (unrestored : ∀ archive, event ≠ ⟨.restore archive, .ok ()⟩) {row : Jobs.Row}
    (member : row ∈ jobs) (idle : row.status.active = false) :
    row ∈ later ∧ ∀ lease, leaseOf event = some lease → db.same row.id lease.job.id = false := by
  cases changed with
  | kept quiet =>
      refine ⟨member, ?_⟩
      intro lease granted
      unfold leaseOf at granted
      split at granted
      · cases quiet
      · cases granted
  | synchronised named => exact ⟨List.mem_append_left _ member, fun _ impossible => by cases impossible⟩
  | enqueued named => exact ⟨List.mem_append_left _ member, fun _ impossible => by cases impossible⟩
  | granted granted =>
      cases granted with
      | granted among chosen sameID =>
          have other := idle_apart apart member among idle (leasable_active chosen) (db.same_refl _)
          refine ⟨changeRow_spares member other, ?_⟩
          intro lease given
          cases given
          rw [sameID]
          exact other
  | retried among matched held =>
      have other := idle_apart apart member among idle (leasedBy_active held) matched
      exact ⟨changeRow_spares member other, fun _ impossible => by cases impossible⟩
  | completed among matched held =>
      have other := idle_apart apart member among idle (leasedBy_active held) matched
      exact ⟨changeRow_spares member other, fun _ impossible => by cases impossible⟩
  | failed among matched held =>
      have other := idle_apart apart member among idle (leasedBy_active held) matched
      exact ⟨changeRow_spares member other, fun _ impossible => by cases impossible⟩
  | restored archive => exact absurd rfl (unrestored archive)

end Rest

/-- The rows of an archive without work in progress are in the tables as they were. -/
structure Resting (db : Database) (archive : Archive) (config : PanelConfig) : Prop where
  apart : Apart db config.state
  operations : ∀ row ∈ archive.operations, row ∈ config.state.operations
  jobs : ∀ row ∈ archive.jobs, row ∈ config.state.jobs

/-- The call leased no job of the archive, and told nobody that an operation of
the archive is unfinished. -/
structure Unrelated (db : Database) (archive : Archive) (event : PanelEvent) : Prop where
  leased : ∀ lease, leaseOf event = some lease → ∀ row ∈ archive.jobs, db.same row.id lease.job.id = false
  told : ∀ operation, returned event = some operation → operation.status.terminal = false →
    ∀ row ∈ archive.operations, db.same row.id operation.id = false

/-- What has happened since the restore. -/
def Since (db : Database) (archive : Archive) (before config : PanelConfig) : Prop :=
  Resting db archive config ∧ ∃ later, config.history = later ++ before.history ∧
    ∀ entry ∈ later, Unrelated db archive entry.2

section Later

variable {db : Database} {maxAttempts : Int} {archive : Archive} {config next before : PanelConfig}

private theorem Resting.unrelated (resting : Resting db archive config)
    (ended_ : ∀ row ∈ archive.operations, row.status.terminal = true)
    (idle : ∀ row ∈ archive.jobs, row.status.active = false)
    {t : Nat} {call : Call} {choice : Choice} {reply : call.Reply} {state : State}
    (answered : perform db t call choice config.state = some (reply, state))
    (unrestored : ∀ archive, (⟨call, reply⟩ : PanelEvent) ≠ ⟨.restore archive, .ok ()⟩) :
    Unrelated db archive ⟨call, reply⟩ := by
  have effect_ := perform_effect resting.apart answered
  constructor
  · intro lease granted row member
    have rests := effect_.jobs.at_rest resting.apart.jobs unrestored (resting.jobs row member)
      (idle row member)
    exact rests.2 lease granted
  · intro operation answer unfinished row member
    by_contra same
    simp only [Bool.not_eq_false] at same
    obtain ⟨other, stored, mirrors⟩ := returned_mirrored resting.apart answered answer
    have stays := effect_.operations.at_end resting.apart.operations unrestored
      (resting.operations row member) (ended_ row member)
    have equal : row = other := by
      apply same_row effect_.apart.operations stored stays
      rw [mirrors.sameID]
      exact same
    have terminal := ended_ row member
    rw [equal, mirrors.sameStatus, unfinished] at terminal
    cases terminal

private theorem Since.step (since : Since db archive before config)
    (ended_ : ∀ row ∈ archive.operations, row.status.terminal = true)
    (idle : ∀ row ∈ archive.jobs, row.status.active = false) {label : PanelLabel}
    (transition : (panel db maxAttempts).Transition config label next) (unrestored : Unrestored label) :
    Since db archive before next := by
  obtain ⟨resting, later, history, unrelated⟩ := since
  cases transition with
  | spawned activity => exact ⟨⟨resting.apart, resting.operations, resting.jobs⟩, later, history, unrelated⟩
  | @performed t activity call continuation choice reply state found answered =>
      have effect_ := perform_effect resting.apart answered
      have uncommitted : ∀ archive, (⟨call, reply⟩ : PanelEvent) ≠ ⟨.restore archive, .ok ()⟩ := by
        intro archive same
        cases same
        exact unrestored
      refine ⟨⟨effect_.apart, ?_, ?_⟩, (t, ⟨call, reply⟩) :: later, ?_, ?_⟩
      · intro row member
        exact effect_.operations.at_end resting.apart.operations uncommitted
          (resting.operations row member) (ended_ row member)
      · intro row member
        exact (effect_.jobs.at_rest resting.apart.jobs uncommitted (resting.jobs row member)
          (idle row member)).1
      · change (t, (⟨call, reply⟩ : PanelEvent)) :: config.history = _
        rw [history]
        rfl
      · intro entry member
        rcases List.mem_cons.mp member with rfl | former
        · exact resting.unrelated ended_ idle answered uncommitted
        · exact unrelated entry former
  | @external choice state acted =>
      have kept : state.operations = config.state.operations ∧ state.jobs = config.state.jobs := by
        cases choice <;> cases acted <;> exact ⟨rfl, rfl⟩
      obtain ⟨sameOperations, sameJobs⟩ := kept
      refine ⟨⟨⟨?_, ?_⟩, ?_, ?_⟩, later, history, unrelated⟩
      · exact sameOperations ▸ resting.apart.operations
      · exact sameJobs ▸ resting.apart.jobs
      · exact sameOperations ▸ resting.operations
      · exact sameJobs ▸ resting.jobs
  | crashed =>
      exact ⟨⟨⟨resting.apart.operations, resting.apart.jobs⟩, resting.operations, resting.jobs⟩,
        later, history, unrelated⟩

/-- An execution is told of its operation only once it has its lease. -/
private theorem told_leased {events : List PanelEvent} (obeys : Obeys (executionRule db) events)
    {event : PanelEvent} (member : event ∈ events) {operation : Operation}
    (answer : returned event = some operation) : ∃ former ∈ events, (leaseOf former).isSome = true := by
  induction events generalizing event operation with
  | nil => cases member
  | cons latest earlier ih =>
      obtain ⟨ruled, before⟩ := obeys
      have further : (∃ former ∈ earlier, (leaseOf former).isSome = true) →
          ∃ former ∈ latest :: earlier, (leaseOf former).isSome = true := by
        rintro ⟨former, among, granted⟩
        exact ⟨former, List.mem_cons_of_mem _ among, granted⟩
      rcases List.mem_cons.mp member with rfl | former
      · obtain ⟨call, reply⟩ := event
        cases call with
        | findOperation id =>
            obtain ⟨lease, granted, _⟩ := ruled
            obtain ⟨former, among, given⟩ := List.exists_of_findSome?_eq_some granted
            exact further ⟨former, among, by rw [given]; rfl⟩
        | transition id status change =>
            obtain ⟨known, at_, _⟩ := ruled
            obtain ⟨former, among, told⟩ := current_returned at_
            exact further (ih before among told)
        | createQueued operation => exact ruled.elim
        | _ => cases answer
      · exact further (ih before former answer)

/-- A thread that got its lease after some point was told nothing before it. -/
private theorem told_later {earlier later : List PanelEvent}
    (obeys : Obeys (executionRule db) (later ++ earlier)) {lease event : PanelEvent}
    (member : lease ∈ later) (granted : (leaseOf lease).isSome = true) (among : event ∈ later ++ earlier)
    {operation : Operation} (answer : returned event = some operation) : event ∈ later := by
  rcases List.mem_append.mp among with late | early
  · exact late
  · obtain ⟨former, before, given⟩ := told_leased obeys.append early answer
    obtain ⟨front, behind, rfl⟩ := List.append_of_mem member
    rw [List.append_assoc] at obeys
    have ruled := obeys.split
    obtain ⟨call, reply⟩ := lease
    cases call with
    | leaseNext owner at_ duration =>
        have ungranted := List.all_eq_true.mp ruled former (List.mem_append_right _ before)
        cases given_ : leaseOf former with
        | none => simp [given_] at given
        | some _ => simp [given_] at ungranted
    | _ => cases granted

end Later

/-- No job of the archive has been leased since the restore, and no execution
that got its lease since has asked a provider to change anything for an
operation of the archive. -/
structure StartsNothing (db : Database) (archive : Archive) (before config : PanelConfig) : Prop where
  leased : ∀ t owner at_ duration lease later, config.history = later ++ before.history →
    (t, (⟨.leaseNext owner at_ duration, .ok lease⟩ : PanelEvent)) ∈ later →
    ∀ row ∈ archive.jobs, db.same row.id lease.job.id = false
  written : ∀ t provider ref action reply later earlier,
    config.history = later ++ (t, ⟨.powerAction provider ref action, reply⟩) :: earlier ++ before.history →
    (∃ event ∈ own t earlier, (leaseOf event).isSome = true) →
    ∃ known, current (own t (earlier ++ before.history)) = some known ∧
      ∀ row ∈ archive.operations, db.same row.id known.id = false

section Law

variable {db : Database} {maxAttempts : Int} {archive : Archive} {config next before : PanelConfig}

private theorem Since.startsNothing (since : Since db archive before config)
    (disciplined : Disciplined (audit db) config) : StartsNothing db archive before config := by
  obtain ⟨_, later, history, unrelated⟩ := since
  constructor
  · intro t owner at_ duration lease behind split member
    rw [history, List.append_cancel_right_eq] at split
    subst split
    exact (unrelated _ member).leased lease rfl
  · rintro t provider ref action reply front behind split ⟨lease, among, granted⟩
    have whole : config.history =
        front ++ (t, ⟨.powerAction provider ref action, reply⟩) :: (behind ++ before.history) := by
      rw [split, List.append_assoc]
      rfl
    rw [history, List.append_cancel_right_eq] at split
    subst split
    obtain ⟨⟨activity, rest⟩, found, ruled⟩ := disciplined.justified whole
    have obeyed := disciplined.obeyed t _ found
    cases activity with
    | runOnce worker =>
        obtain ⟨known, at_, writes⟩ := ruled.2
        refine ⟨known, at_, ?_⟩
        obtain ⟨event, told, answer⟩ := current_returned at_
        rw [whole, own_append, own_cons_self, List.append_cons] at obeyed
        have kept : Obeys (executionRule db) (own t (behind ++ before.history)) :=
          obeyed.append.mono fun _ _ ruled => ruled.2
        rw [own_append] at kept told
        have late := told_later kept among granted told answer
        have member : (t, event) ∈ front ++ (t, ⟨.powerAction provider ref action, reply⟩) :: behind :=
          List.mem_append_right _ (List.mem_cons_of_mem _ (mem_own.mp late))
        exact (unrelated _ member).told known answer writes.open_.2.2
    | request asked => exact ruled.2.elim
    | enqueueConnectionSync id => exact ruled.elim
    | enqueuePowerOperation id => exact ruled.elim
    | createBackup passphrase requestID sourceIP => exact ruled.elim
    | restoreBackup id passphrase requestID sourceIP => exact ruled.elim

private theorem rests {rows : List Operations.Row} (proper : Proper rows)
    (idle : rows.any (fun row => row.status.active) = false) :
    ∀ row ∈ rows, row.status.terminal = true := by
  intro row member
  have inactive := List.any_eq_false.mp idle row member
  rw [proper row member]
  simpa using inactive

/-- What a committed restore leaves in the tables. -/
private theorem Sound.replaced (sound : Sound db config) (origins : Disciplined Origins.audit config)
    (disciplined : Disciplined (audit db) config) {t : Nat}
    (transition : (panel db maxAttempts).Transition config (.performed t ⟨.restore archive, .ok ()⟩) next) :
    next.state.operations = archive.operations ∧ next.state.jobs = archive.jobs ∧
      Apart db next.state ∧ Proper archive.operations := by
  cases transition with
  | @performed _ activity _ continuation choice _ state found answered =>
      have proper := sound.restored origins disciplined (.ok ()) found
      have effect_ := perform_effect sound.apart answered
      refine ⟨?_, ?_, effect_.apart, proper⟩
      · have operations := effect_.operations
        change state.operations = _
        generalize state.operations = rows at operations ⊢
        cases operations with
        | kept quiet => cases quiet
        | restored => rfl
      · have jobs := effect_.jobs
        change state.jobs = _
        generalize state.jobs = rows at jobs ⊢
        cases jobs with
        | kept quiet => cases quiet
        | restored => rfl

private def Since.Kept (db : Database) (archive : Archive) (before config : PanelConfig) : Prop :=
  Since db archive before config ∧ Disciplined (audit db) config

theorem restore_starts_nothing {servers : List Inventory.Row} {meets : PanelConfig → PanelLabel → Prop}
    {t : Nat} (run : PanelRun db maxAttempts servers [] meets config)
    (transition : (panel db maxAttempts).Transition config (.performed t ⟨.restore archive, .ok ()⟩) next) :
    next.state.activeWork = archive.activeWork ∧
      (archive.activeWork = false → ∀ later,
        (panel db maxAttempts).Run (fun _ => Unrestored) next later →
        StartsNothing db archive next later) := by
  have origins : Disciplined Origins.audit config :=
    Disciplined.run (Origins.panel_passes db maxAttempts) run fun _ _ _ => trivial
  obtain ⟨operations, jobs, apart, proper⟩ := (sound_run run).replaced origins run.disciplined transition
  constructor
  · rw [Archive.activeWork, Archive.activeWork, operations, jobs]
  · intro idle later further
    simp only [Archive.activeWork, Bool.or_eq_false_iff] at idle
    have ended_ := rests proper idle.1
    have jobsIdle : ∀ row ∈ archive.jobs, row.status.active = false := by
      intro row member
      simpa using List.any_eq_false.mp idle.2 row member
    have begun : Since.Kept db archive next next := by
      refine ⟨⟨⟨apart, ?_, ?_⟩, [], rfl, ?_⟩, ?_⟩
      · exact fun row member => operations ▸ member
      · exact fun row member => jobs ▸ member
      · intro entry impossible
        cases impossible
      · exact run.disciplined.step (panel_passes db maxAttempts) transition fun _ _ => trivial
    have kept : Since.Kept db archive next later := by
      refine System.Run.invariant further begun ?_
      rintro before label after _ transition unrestored ⟨since, still⟩
      exact ⟨since.step ended_ jobsIdle transition unrestored,
        still.step (panel_passes db maxAttempts) transition fun _ _ => trivial⟩
    exact kept.1.startsNothing kept.2

end Law

/-! ## Backups around one operation -/

def passphrase : GoString := text "correct horse backup"

/-- The calls of a backup, with the id that it gets. -/
def backingUp (id : GoString) : List Choice :=
  [stored, .identifier id, .instant 2, stored, .identifier (id ++ text " entry"), .instant 2, stored]

/-- A restore up to the call that replaces the tables. -/
def restoring : List Choice := [stored, stored, stored] ++ backingUp (text "safety")

/-- A backup is taken before the worker carries out the operation, and restored after it. -/
def workSchedule : Schedule :=
  [.spawn (.request (asking .start))] ++ answers 0 (creating ++ enqueueing ++ announcing) ++
  [.spawn (.createBackup passphrase [] [])] ++ answers 1 (stored :: backingUp (text "backup") ++ [stored]) ++
  [.spawn (.runOnce Jobs.Worker.standard)] ++
  answers 2 (leasing 2 ++ [.instant 2, stored] ++ approaching .running ++ succeeding) ++
  [.spawn (.restoreBackup (text "backup") passphrase [] [])] ++ answers 3 (restoring ++ [stored])

/-- What the restored job leads to: the server has been stopped in the meantime. -/
def againSchedule : Schedule :=
  [.spawn (.runOnce Jobs.Worker.standard)] ++ answers 4 (leasing 2 ++ [.instant 2, stored] ++
    approaching .stopped ++ [.receipt true (.ok ⟨text "receipt"⟩)])

/-- A first execution stops before its write, a second one finds the server
running; then a backup is taken and restored. -/
def stalledSchedule : Schedule :=
  [.spawn (.request (asking .start))] ++ answers 0 (creating ++ enqueueing ++ announcing) ++
  [.spawn (.runOnce Jobs.Worker.standard)] ++
  answers 1 (leasing 2 ++ [.instant 2, stored] ++ approaching .stopped) ++
  [.spawn (.runOnce Jobs.Worker.standard)] ++
  answers 2 (leasing 40000000000 ++ approaching .running ++ succeeding) ++
  [.spawn (.createBackup passphrase [] [])] ++ answers 3 (stored :: backingUp (text "backup") ++ [stored]) ++
  [.spawn (.restoreBackup (text "backup") passphrase [] [])] ++ answers 4 restoring

/-- A restore can bring a queued job back, which a worker leases to start the
server once more. And an execution that began before the restore can write
after it, although no work is recorded. -/
theorem restore_starts_old_work :
    (((panel (Database.plain .sqlite) 3).outcome (fun _ => true) workSchedule
      (Config.initial (emptyState [machine .stopped] []))).map fun config =>
        (config.state.activeWork, config.state.effects)) = some (true, []) ∧
    (((panel (Database.plain .sqlite) 3).outcome (fun _ => true) (workSchedule ++ againSchedule)
      (Config.initial (emptyState [machine .stopped] []))).map fun config =>
        config.state.effects) = some [(4, .start)] ∧
    (((panel (Database.plain .sqlite) 3).outcome (fun _ => true)
      (stalledSchedule ++ answers 4 [stored] ++ answers 1 [.receipt true (.ok ⟨text "receipt"⟩)])
      (Config.initial (emptyState [machine .stopped] []))).map fun config =>
        (config.state.activeWork, config.state.effects)) = some (false, [(1, .start)]) := by
  refine ⟨?_, ?_, ?_⟩ <;> decide

/-- The archive that a step has restored. -/
def restoredBy : PanelLabel → Option (Nat × Archive)
  | .performed t ⟨.restore archive, .ok _⟩ => some (t, archive)
  | _ => none

theorem restoredBy_label {label : PanelLabel} {t : Nat} {archive : Archive}
    (restored : restoredBy label = some (t, archive)) : label = .performed t ⟨.restore archive, .ok ()⟩ := by
  unfold restoredBy at restored
  split at restored
  · cases restored
    rfl
  · cases restored

theorem restore_starts_nothing_stalled : ∃ (config next : PanelConfig) (archive : Archive),
    (panel (Database.plain .sqlite) 3).outcome (fun _ => true) stalledSchedule
      (Config.initial (emptyState [machine .stopped] [])) = some config ∧
    (panel (Database.plain .sqlite) 3).Transition config (.performed 4 ⟨.restore archive, .ok ()⟩) next ∧
    archive.jobs.length = 1 ∧ next.state.activeWork = false ∧
    ∀ later, (panel (Database.plain .sqlite) 3).Run (fun _ => Unrestored) next later →
      StartsNothing (Database.plain .sqlite) archive next later := by
  have carried : (((panel (Database.plain .sqlite) 3).outcome (fun _ => true) stalledSchedule
      (Config.initial (emptyState [machine .stopped] []))).bind fun config =>
        ((panel (Database.plain .sqlite) 3).move config (.advance 4 stored)).bind fun step =>
          (restoredBy step.1).map fun restored =>
            (restored.1, restored.2.jobs.length, restored.2.activeWork)) = some (4, 1, false) := by
    decide
  obtain ⟨config, reached, stepped⟩ := Option.bind_eq_some_iff.mp carried
  obtain ⟨⟨label, next⟩, moved, restored⟩ := Option.bind_eq_some_iff.mp stepped
  obtain ⟨⟨t, archive⟩, restored, same⟩ := Option.map_eq_some_iff.mp restored
  simp only [Prod.mk.injEq] at same
  obtain ⟨rfl, length, idle⟩ := same
  have transition := System.move_sound moved
  have labelled : label = .performed 4 ⟨.restore archive, .ok ()⟩ := restoredBy_label restored
  rw [labelled] at transition
  have run : PanelRun (Database.plain .sqlite) 3 [machine .stopped] [] (fun _ _ => True) config :=
    System.outcome_run reached fun _ _ _ => trivial
  have law := restore_starts_nothing run transition
  exact ⟨config, next, archive, reached, transition, length, law.1.trans idle, law.2 idle⟩

end NodeAtlas.Power
