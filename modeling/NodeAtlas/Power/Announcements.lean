import NodeAtlas.Power.History

/-! What the answer of a request says about the tables, at the time of the answer
and in every state after it. -/

set_option autoImplicit false

namespace NodeAtlas.Power

open Interleaving Operations Providers

/-- The job is for the operation of this id. -/
def Serves (id : GoString) (row : Jobs.Row) : Prop :=
  row.kind = .powerOperation ∧ row.payload = [(text "operation_id", id)]

/-- What was enqueued and audited is there. -/
structure Remembered (config : PanelConfig) : Prop where
  jobs : ∀ t queue id, (t, (⟨.enqueuePowerOperation queue id, .ok ()⟩ : PanelEvent)) ∈ config.history →
    ∃ row ∈ config.state.jobs, Serves id row
  entries : ∀ t entry, (t, (⟨.append entry, .ok ()⟩ : PanelEvent)) ∈ config.history →
    ∃ row ∈ config.state.audit, row.id = entry.id ∧ row.eventType = entry.eventType ∧ row.targetID = entry.targetID

section Tables

variable {db : Database} {event : PanelEvent}

/-- A job keeps its kind and its payload. -/
theorem JobsChange.serves {rows after : List Jobs.Row} (changed : JobsChange db rows event after)
    (unrestored : isRestore event = false) {id : GoString} {row : Jobs.Row} (member : row ∈ rows)
    (serves : Serves id row) : ∃ later ∈ after, Serves id later := by
  have rewritten : ∀ (target : GoString) (change : Jobs.Row → Jobs.Row),
      (∀ row, (change row).kind = row.kind ∧ (change row).payload = row.payload) →
      ∃ later ∈ Jobs.changeRow db target change rows, Serves id later := by
    intro target change keeps
    refine ⟨_, List.mem_map_of_mem member, ?_⟩
    split
    · exact ⟨(keeps row).1.trans serves.1, (keeps row).2.trans serves.2⟩
    · exact serves
  cases changed with
  | kept quiet => exact ⟨row, member, serves⟩
  | synchronised named | enqueued named => exact ⟨row, List.mem_append_left _ member, serves⟩
  | granted granted =>
      cases granted with
      | granted => exact rewritten _ _ fun _ => ⟨rfl, rfl⟩
  | retried | completed | failed => exact rewritten _ _ fun _ => ⟨rfl, rfl⟩
  | restored archive => cases unrestored

theorem AuditChange.keeps {rows after : List AuditLog.Entry} (changed : AuditChange db rows event after)
    (unrestored : isRestore event = false) : rows ⊆ after := by
  cases changed with
  | kept quiet => exact List.Subset.refl _
  | appended entry => exact List.subset_append_left _ _
  | restored archive => cases unrestored

end Tables

section Runs

variable {db : Database} {maxAttempts : Int} {config next : PanelConfig} {label : PanelLabel}

private theorem Remembered.advance (kept : Remembered config) {t : Nat} {task : Activity} {rest : Process Outcome}
    {event : PanelEvent} {state : State} (effect_ : Effect db t config.state event state)
    (unrestored : isRestore event = false) : Remembered (config.advance t task event rest state) := by
  constructor
  · intro u queue id member
    rcases List.mem_cons.mp member with same | former
    · cases same
      have changed := effect_.jobs
      change ∃ row ∈ state.jobs, _
      generalize state.jobs = rows at changed ⊢
      cases changed with
      | kept quiet => cases quiet
      | enqueued named => exact ⟨_, List.mem_append_right _ List.mem_cons_self, rfl, rfl⟩
    · obtain ⟨row, among, serves⟩ := kept.jobs u queue id former
      exact effect_.jobs.serves unrestored among serves
  · intro u entry member
    rcases List.mem_cons.mp member with same | former
    · cases same
      have changed := effect_.audit
      change ∃ row ∈ state.audit, _
      generalize state.audit = rows at changed ⊢
      cases changed with
      | kept quiet => cases quiet
      | appended => exact ⟨_, List.mem_append_right _ List.mem_cons_self, rfl, rfl, rfl⟩
    · obtain ⟨row, among, same⟩ := kept.entries u entry former
      exact ⟨row, effect_.audit.keeps unrestored among, same⟩

private theorem Remembered.step (kept : Remembered config) (ledger : Ledger db config) (disciplined : Disciplined (audit db) config)
    (transition : (panel db maxAttempts).Transition config label next) : Remembered next := by
  cases transition with
  | spawned task => exact ⟨kept.jobs, kept.entries⟩
  | performed found answered =>
      exact kept.advance (perform_effect ledger.apart answered) (ledger.unrestored disciplined found answered)
  | @external choice state acted =>
      have same : state.jobs = config.state.jobs ∧ state.audit = config.state.audit := by
        cases choice <;> cases acted <;> exact ⟨rfl, rfl⟩
      exact ⟨same.1 ▸ kept.jobs, same.2 ▸ kept.entries⟩
  | crashed => exact ⟨kept.jobs, kept.entries⟩

variable {servers : List Inventory.Row} {backups : List (Backup.File Archive)}
  {meets : PanelConfig → PanelLabel → Prop}

theorem PanelRun.kept (run : PanelRun db maxAttempts servers backups meets config)
    (restoreless : ∀ before label, meets before label → Restoreless label) : Remembered config := by
  refine System.Run.invariant run ⟨?_, ?_⟩ ?_
  · intro t queue id impossible
    cases impossible
  · intro t entry impossible
    cases impossible
  · intro before label after reached transition _ held
    have former : PanelRun db maxAttempts servers backups meets before := reached
    exact held.step (former.ledger restoreless) former.disciplined transition

/-- What the answer of a request means for the tables. -/
def Reported (db : Database) (config : PanelConfig) (t : Nat) : Except GoError (Operation × Bool) → Prop
  | .ok (operation, true) => created (own t config.history) = some operation ∧
      (∃ row ∈ config.state.jobs, Serves operation.id row) ∧
      ∃ entry ∈ config.state.audit, entry.eventType = text "power_operation_queued" ∧ entry.targetID = operation.id
  | .ok (_, false) => created (own t config.history) = none
  | .error _ => created (own t config.history) = none ∨ ∃ operation change reply,
      created (own t config.history) = some operation ∧
      (t, (⟨.transition operation.id .failed change, reply⟩ : PanelEvent)) ∈ config.history ∧
      ∀ moved, reply = .ok moved → ∃ row ∈ config.state.operations, row.id = moved.id ∧
        db.same row.id operation.id = true ∧ row.status = .failed

/-- From the answer of a request on, as long as no restore is started: a created
operation has its job and its audit entry, an operation that is not said to be
created was not created by this request, and behind an error stands no operation
or one that the request has tried to fail, and that stays failed where it could. -/
theorem request_reports (run : PanelRun db maxAttempts servers backups meets config)
    (restoreless : ∀ before label, meets before label → Restoreless label) {t : Nat} {asked : Request}
    {thread : PanelThread} (found : config.threads[t]? = some thread) (task : thread.task = .request asked)
    {result : Except GoError (Operation × Bool)} (returned_ : thread.outcome = some (.requested result)) :
    Reported db config t result := by
  have kept := run.kept restoreless
  have closed := run.disciplined.closed found returned_
  rw [task] at closed
  change requestClosing _ _ at closed
  rcases result with failure | ⟨operation, _ | _⟩
  · rcases closed with uncreated | ⟨operation, change, reply, created_, _, member⟩
    · exact .inl uncreated
    · have among := mem_own.mp member
      refine .inr ⟨operation, change, reply, created_, among, ?_⟩
      rintro moved rfl
      obtain ⟨row, stored_, version⟩ := (run.ledger restoreless).witnessed _ among moved rfl
      obtain ⟨later, earlier, split_⟩ := List.append_of_mem among
      obtain ⟨other, located, ruled⟩ := run.disciplined.justified split_
      rw [found] at located
      cases located
      rw [task] at ruled
      obtain ⟨⟨sameID, failed⟩, _⟩ := ruled
      have sameRow : row.id = moved.id := version.sameID
      have status := version.final (by rw [failed]; rfl)
      exact ⟨row, stored_, sameRow, sameRow ▸ sameID, status.trans failed⟩
  · exact closed
  · obtain ⟨created_, ⟨⟨queue, enqueued⟩, entry, appended, type, target⟩, _⟩ := closed
    refine ⟨created_, kept.jobs t queue operation.id (mem_own.mp enqueued), ?_⟩
    obtain ⟨row, among, _, sameType, sameTarget⟩ := kept.entries t entry (mem_own.mp appended)
    exact ⟨row, among, sameType.trans type, sameTarget.trans target⟩

end Runs

/-- A request whose audit entry is refused; its operation is failed again. -/
def unrecordedSchedule : Schedule :=
  List.flatten [[.spawn (.request (asking .start))], answers 0 (creating ++ enqueueing),
    answers 0 [.identifier (text "entry"), refused, stored]]

/-- The error that a request was answered with. -/
def failureOf (thread : PanelThread) : Option GoError :=
  match thread.task, thread.outcome with
  | .request _, some (.requested (.error failure)) => some failure
  | _, _ => none

theorem failureOf_outcome {thread : PanelThread} {failure : GoError} (is : failureOf thread = some failure) :
    (∃ asked, thread.task = .request asked) ∧ thread.outcome = some (.requested (.error failure)) := by
  unfold failureOf at is
  split at is
  · next asked _ task answered =>
      cases is
      exact ⟨⟨asked, task⟩, answered⟩
  · cases is

theorem request_reports_unrecorded : ∃ (config : PanelConfig) (failure : GoError),
    config.state.operations.map (·.status) = [.failed] ∧
      Reported (Database.plain .sqlite) config 0 (.error failure) := by
  have happened : (((panel (Database.plain .sqlite) 3).outcome restorelessTest unrecordedSchedule
      (Config.initial (emptyState [machine .stopped] []))).map fun config =>
        (config.state.operations.map (·.status), config.threads[0]?.map fun thread => (failureOf thread).isSome)) =
      some ([.failed], some true) := by
    decide
  obtain ⟨config, reached, is⟩ := Option.map_eq_some_iff.mp happened
  simp only [Prod.mk.injEq, Option.map_eq_some_iff] at is
  obtain ⟨statuses, thread, found, answered⟩ := is
  obtain ⟨failure, failed⟩ := Option.isSome_iff_exists.mp answered
  obtain ⟨⟨asked, task⟩, outcome⟩ := failureOf_outcome failed
  have run : PanelRun (Database.plain .sqlite) 3 [machine .stopped] [] (fun _ label => Restoreless label) config :=
    System.outcome_run reached fun _ _ passed => restorelessTest_sound passed
  exact ⟨config, failure, statuses, request_reports run (fun _ _ met => met) found task outcome⟩

end NodeAtlas.Power
