import NodeAtlas.Power.Restored

/-! What the activity check of a restore is worth once its transaction commits:
nothing holds other requests and workers off between the two, so the work that
the restore deletes is the work that was queued in that time. -/

set_option autoImplicit false

namespace NodeAtlas.Power

open Interleaving Operations Providers

/-- The event put an active operation of this id into the table. -/
def Queues (id : GoString) : PanelEvent → Prop
  | ⟨.createQueued operation, .ok (_, true)⟩ => operation.id = id
  | ⟨.restore archive, .ok _⟩ => ∃ row ∈ archive.operations, row.status.active = true ∧ row.id = id
  | _ => False

/-- The event put an active job of this id into the table. -/
def Enqueues (id : GoString) : PanelEvent → Prop
  | ⟨.enqueueConnectionSync queue _, .ok _⟩ => queue.newID = id
  | ⟨.enqueuePowerOperation queue _, .ok _⟩ => queue.newID = id
  | ⟨.restore archive, .ok _⟩ => ∃ row ∈ archive.jobs, row.status.active = true ∧ row.id = id
  | _ => False

section Origins

variable {db : Database} {t : Nat} {state next : State} {event : PanelEvent}

/-- An active operation was active before, or the event put it there. -/
theorem OperationsChange.active_origin {rows after : List Operations.Row}
    (apart : rows.Pairwise fun left right => (operationsEngine db).clash left right = false)
    (changed : OperationsChange db rows event after) {row : Operations.Row} (member : row ∈ after)
    (active : row.status.active = true) :
    (∃ former ∈ rows, former.status.active = true ∧ former.id = row.id) ∨ Queues row.id event := by
  cases changed with
  | kept quiet => exact .inl ⟨row, member, active, rfl⟩
  | created operation =>
      rcases List.mem_append.mp member with former | fresh
      · exact .inl ⟨row, former, active, rfl⟩
      · rw [List.mem_singleton.mp fresh]
        exact .inr rfl
  | @moved read id status change at_ among matched valid =>
      obtain ⟨former, before, rfl⟩ := List.mem_map.mp member
      by_cases same : db.same former.id read.id = true
      · rw [if_pos same] at active ⊢
        have one := same_row apart among before same
        exact .inl ⟨read, among, validTransition_active valid, one ▸ rfl⟩
      · rw [if_neg same] at active ⊢
        exact .inl ⟨former, before, active, rfl⟩
  | restored archive => exact .inr ⟨row, member, active, rfl⟩

private theorem changeRow_origin {rows : List Jobs.Row}
    (apart : rows.Pairwise fun left right => (jobsEngine db).clash left right = false)
    {change : Jobs.Row → Jobs.Row} {id : GoString} {changed row : Jobs.Row}
    (member : row ∈ Jobs.changeRow db id change rows) (active : row.status.active = true)
    (keeps : ∀ row, (change row).id = row.id) (among : changed ∈ rows)
    (matched : db.same changed.id id = true) (busy : changed.status.active = true) :
    ∃ former ∈ rows, former.status.active = true ∧ former.id = row.id := by
  obtain ⟨former, before, rfl⟩ := List.mem_map.mp member
  by_cases same : db.same former.id id = true
  · rw [if_pos same] at active ⊢
    have one : former = changed := by
      apply Jobs.same_row apart among before
      rw [db.same_symm changed.id] at matched
      exact db.same_trans same matched
    exact ⟨changed, among, busy, by rw [keeps, one]⟩
  · rw [if_neg same] at active ⊢
    exact ⟨former, before, active, rfl⟩

private theorem leasedBy_busy {owner : GoString} {row : Jobs.Row} (held : Jobs.leasedBy db owner row = true) :
    row.status.active = true := by
  simp only [Jobs.leasedBy, Bool.and_eq_true, decide_eq_true_eq] at held
  rw [held.1]
  rfl

private theorem leasable_busy {now : Instant} {row : Jobs.Row}
    (chosen : (Jobs.leasable db now).condition row = true) : row.status.active = true := by
  simp only [Jobs.leasable, Bool.or_eq_true, Bool.and_eq_true, decide_eq_true_eq] at chosen
  rcases chosen with ⟨queued, _⟩ | ⟨running, _⟩
  · rw [queued]
    rfl
  · rw [running]
    rfl

/-- So was an active job. -/
theorem JobsChange.active_origin {rows after : List Jobs.Row}
    (apart : rows.Pairwise fun left right => (jobsEngine db).clash left right = false)
    (changed : JobsChange db rows event after) {row : Jobs.Row} (member : row ∈ after)
    (active : row.status.active = true) :
    (∃ former ∈ rows, former.status.active = true ∧ former.id = row.id) ∨ Enqueues row.id event := by
  cases changed with
  | kept quiet => exact .inl ⟨row, member, active, rfl⟩
  | synchronised named | enqueued named =>
      rcases List.mem_append.mp member with former | fresh
      · exact .inl ⟨row, former, active, rfl⟩
      · rw [List.mem_singleton.mp fresh]
        exact .inr rfl
  | granted granted =>
      cases granted with
      | granted among chosen =>
          exact .inl (changeRow_origin apart member active (fun _ => rfl) among (db.same_refl _)
            (leasable_busy chosen))
  | retried among matched held =>
      exact .inl (changeRow_origin apart member active (fun _ => rfl) among matched (leasedBy_busy held))
  | completed among matched held | failed among matched held =>
      exact .inl (changeRow_origin apart member active (fun _ => rfl) among matched (leasedBy_busy held))
  | restored archive => exact .inr ⟨row, member, active, rfl⟩

/-- The activity check of a restore that goes on. -/
def passedCheck : PanelEvent := ⟨.hasActiveWork, .ok false⟩

theorem perform_checked {choice : Choice}
    (answered : perform db t .hasActiveWork choice state = some (.ok false, next)) :
    (∀ row ∈ next.operations, row.status.active = false) ∧ ∀ row ∈ next.jobs, row.status.active = false := by
  cases choice with
  | database clock faults =>
      change some (if (state.faults t faults).any id then _ else _) = _ at answered
      split at answered
      · cases answered
      · obtain ⟨idle, rfl⟩ := Prod.mk.inj (Option.some.inj answered)
        have quiet : state.activeWork = false := Except.ok.inj idle
        simpa [Archive.activeWork] using quiet
  | _ => cases answered

end Origins

/-! ## Since the check -/

/-- Every active row was put into its table by one of these events. -/
structure Brought (state : State) (events : List (Nat × PanelEvent)) : Prop where
  operations : ∀ row ∈ state.operations, row.status.active = true → ∃ entry ∈ events, Queues row.id entry.2
  jobs : ∀ row ∈ state.jobs, row.status.active = true → ∃ entry ∈ events, Enqueues row.id entry.2

structure Watched (db : Database) (config : PanelConfig) : Prop where
  apart : Apart db config.state
  since : ∀ t later earlier, config.history = later ++ (t, passedCheck) :: earlier → Brought config.state later

section Runs

variable {db : Database} {maxAttempts : Int} {config next : PanelConfig} {label : PanelLabel}

private theorem Brought.effect {t : Nat} {state after : State} {event : PanelEvent}
    {events : List (Nat × PanelEvent)} (apart : Apart db state) (effect_ : Effect db t state event after)
    (brought : Brought state events) : Brought after ((t, event) :: events) := by
  constructor
  · intro row member active
    rcases effect_.operations.active_origin apart.operations member active with ⟨former, before, busy, same⟩ | fresh
    · obtain ⟨entry, among, queued⟩ := brought.operations former before busy
      exact ⟨entry, List.mem_cons_of_mem _ among, same ▸ queued⟩
    · exact ⟨(t, event), List.mem_cons_self, fresh⟩
  · intro row member active
    rcases effect_.jobs.active_origin apart.jobs member active with ⟨former, before, busy, same⟩ | fresh
    · obtain ⟨entry, among, enqueued⟩ := brought.jobs former before busy
      exact ⟨entry, List.mem_cons_of_mem _ among, same ▸ enqueued⟩
    · exact ⟨(t, event), List.mem_cons_self, fresh⟩

private theorem Watched.step (watched : Watched db config)
    (transition : (panel db maxAttempts).Transition config label next) : Watched db next := by
  cases transition with
  | spawned task => exact ⟨watched.apart, watched.since⟩
  | @performed t task call rest choice reply after found answered =>
      have effect_ := perform_effect watched.apart answered
      refine ⟨effect_.apart, ?_⟩
      intro u later earlier split_
      cases later with
      | nil =>
          obtain ⟨checked, _⟩ := List.cons.inj split_
          obtain ⟨_, event⟩ := Prod.mk.inj checked
          cases event
          obtain ⟨operations, jobs⟩ := perform_checked answered
          constructor
          · intro row member active
            exact absurd active (by simp [operations row member])
          · intro row member active
            exact absurd active (by simp [jobs row member])
      | cons entry later =>
          obtain ⟨rfl, before⟩ := List.cons.inj split_
          exact (watched.since u later earlier before).effect watched.apart effect_
  | @external choice state acted =>
      have kept : state.operations = config.state.operations ∧ state.jobs = config.state.jobs := by
        cases choice <;> cases acted <;> exact ⟨rfl, rfl⟩
      obtain ⟨sameOperations, sameJobs⟩ := kept
      refine ⟨⟨?_, ?_⟩, ?_⟩
      · exact sameOperations ▸ watched.apart.operations
      · exact sameJobs ▸ watched.apart.jobs
      · intro t later earlier split_
        have brought := watched.since t later earlier split_
        exact ⟨sameOperations ▸ brought.operations, sameJobs ▸ brought.jobs⟩
  | crashed =>
      refine ⟨⟨watched.apart.operations, watched.apart.jobs⟩, ?_⟩
      intro t later earlier split_
      have brought := watched.since t later earlier split_
      exact ⟨brought.operations, brought.jobs⟩

private theorem watched_run {servers : List Inventory.Row} {backups : List (Backup.File Archive)}
    {meets : PanelConfig → PanelLabel → Prop} (run : PanelRun db maxAttempts servers backups meets config) :
    Watched db config := by
  refine System.Run.invariant run ⟨⟨.nil, .nil⟩, ?_⟩ ?_
  · intro t later earlier split_
    simp [Config.initial] at split_
  · intro before label after _ transition _ watched
    exact watched.step transition

end Runs

/-! ## No restore without a check of its own -/

namespace Checks

/-- Tables are replaced only by a thread that has found no work itself. -/
def checkRule (earlier : List PanelEvent) (event : PanelEvent) : Prop :=
  match event.call with
  | .restore _ => passedCheck ∈ earlier
  | _ => True

def audit : Audit Call Call.Reply Activity Outcome where
  fits _ := True
  rule
    | .restoreBackup _ _ _ _ => checkRule
    | _ => fun _ _ => True
  closing _ _ _ := True

/-- After its check a thread may do what it wants. -/
theorem checked {α : Type} {closing : List PanelEvent → α → Prop} {earlier : List PanelEvent}
    (closes : ∀ events result, closing events result) (member : passedCheck ∈ earlier) (program : Process α) :
    program.Audited (fun _ => True) checkRule closing earlier := by
  induction program generalizing earlier with
  | done result => exact closes earlier result
  | call asked next ih =>
      intro reply _
      refine ⟨?_, ih reply (List.mem_cons_of_mem _ member)⟩
      cases asked with
      | restore archive => exact member
      | _ => trivial

private theorem restoreBackup_checked (id passphrase requestID sourceIP : GoString) :
    Program.Audited (fun _ => True) checkRule (fun _ _ => True) []
      (backups.restoreBackup id passphrase requestID sourceIP) := by
  intro reply _
  refine ⟨trivial, ?_⟩
  rcases reply with failure | active
  · trivial
  · cases active with
    | true => trivial
    | false => exact checked (fun _ _ => trivial) List.mem_cons_self _

theorem panel_passes (db : Database) (maxAttempts : Int) : audit.Passed (panel db maxAttempts) (fun _ => True) where
  fitting _ _ _ _ _ _ _ := trivial
  audited activity _ := by
    cases activity with
    | restoreBackup id passphrase requestID sourceIP =>
        exact (restoreBackup_checked id passphrase requestID sourceIP).bind fun _ _ _ => trivial
    | _ => exact Program.Audited.free _ (fun _ _ => trivial) fun _ _ => trivial

end Checks

section Law

variable {db : Database} {maxAttempts : Int} {config next : PanelConfig} {servers : List Inventory.Row}
  {stored_ : List (Backup.File Archive)} {meets : PanelConfig → PanelLabel → Prop} {archive : Archive} {t : Nat}

/-- When a restore replaces the tables, every active row that it deletes was
put there after the restore's own check: by a request, by an enqueued job, or by
another restore. -/
theorem restore_deletes_only_newer_work (run : PanelRun db maxAttempts servers stored_ meets config)
    (transition : (panel db maxAttempts).Transition config (.performed t ⟨.restore archive, .ok ()⟩) next) :
    ∃ later earlier, config.history = later ++ (t, passedCheck) :: earlier ∧ Brought config.state later := by
  have checks : Disciplined Checks.audit config :=
    Disciplined.run (Checks.panel_passes db maxAttempts) run fun _ _ _ => trivial
  obtain ⟨⟨activity, rest⟩, found, ruled⟩ := checks.performs (Checks.panel_passes db maxAttempts) transition
  obtain ⟨other, located, permitted⟩ := run.disciplined.performs (panel_passes db maxAttempts) transition
  rw [found] at located
  cases located
  cases activity with
  | restoreBackup id passphrase requestID sourceIP =>
      obtain ⟨later, earlier, split_⟩ := List.append_of_mem (mem_own.mp ruled)
      exact ⟨later, earlier, split_, (watched_run run).since t later earlier split_⟩
  | request asked => exact permitted.2.elim
  | runOnce worker => exact permitted.2.elim
  | enqueueConnectionSync id => exact permitted.elim
  | enqueuePowerOperation id => exact permitted.elim
  | createBackup passphrase requestID sourceIP => exact absurd permitted.1 (by simp)

end Law

/-- A backup is taken of empty tables; a request stores its operation and its
job between the check of the restore and its commit. -/
def overtakenSchedule : Schedule :=
  List.flatten [[.spawn (.createBackup passphrase [] [])],
    answers 0 (stored :: backingUp (text "backup") ++ [stored]),
    [.spawn (.restoreBackup (text "backup") passphrase [] []), .spawn (.request (asking .start))],
    answers 1 (restoring.take 1), answers 2 (creating ++ enqueueing), answers 1 (restoring.drop 1)]

theorem restore_deletes_only_newer_work_overtaken : ∃ (config next : PanelConfig) (archive : Archive),
    (panel (Database.plain .sqlite) 3).Transition config (.performed 1 ⟨.restore archive, .ok ()⟩) next ∧
    config.state.activeWork = true ∧ next.state.operations = [] ∧
    ∃ later earlier, config.history = later ++ (1, passedCheck) :: earlier ∧ Brought config.state later := by
  have carried : (((panel (Database.plain .sqlite) 3).outcome (fun _ => true) overtakenSchedule
      (Config.initial (emptyState [machine .stopped] []))).bind fun config =>
        ((panel (Database.plain .sqlite) 3).move config (.advance 1 stored)).bind fun step =>
          (restoredBy step.1).map fun restored =>
            (restored.1, config.state.activeWork, step.2.state.operations)) = some (1, true, []) := by
    decide
  obtain ⟨config, reached, stepped⟩ := Option.bind_eq_some_iff.mp carried
  obtain ⟨⟨label, next⟩, moved, restored⟩ := Option.bind_eq_some_iff.mp stepped
  obtain ⟨⟨t, archive⟩, restored, same⟩ := Option.map_eq_some_iff.mp restored
  simp only [Prod.mk.injEq] at same
  obtain ⟨rfl, active, emptied⟩ := same
  have transition := System.move_sound moved
  have labelled : label = .performed 1 ⟨.restore archive, .ok ()⟩ := restoredBy_label restored
  rw [labelled] at transition
  have run : PanelRun (Database.plain .sqlite) 3 [machine .stopped] [] (fun _ _ => True) config :=
    System.outcome_run reached fun _ _ _ => trivial
  exact ⟨config, next, archive, transition, active, emptied, restore_deletes_only_newer_work run transition⟩

end NodeAtlas.Power
