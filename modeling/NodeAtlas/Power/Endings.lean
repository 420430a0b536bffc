import NodeAtlas.Power.Recording

/-! The ends of operations in the audit log: an end has one entry in every run
without a restore that neither loses an entry nor lets a request fail its
operation. -/

set_option autoImplicit false

namespace NodeAtlas.Power

open Interleaving Operations Providers AuditLog

/-! ## The audit log and the history -/

def appendedBy : PanelEvent → Option Entry
  | ⟨.append entry, .ok _⟩ => some entry
  | _ => none

def stamped (db : Database) (entry : Entry) : Entry :=
  { entry with createdAt := db.stamp entry.createdAt }

/-- The entries appended so far, oldest first. -/
def appendedEntries (history : List (Nat × PanelEvent)) : List Entry :=
  history.reverse.filterMap fun entry => appendedBy entry.2

theorem appendedBy_append {event : PanelEvent} {entry : Entry} (written : appendedBy event = some entry) :
    event = ⟨.append entry, .ok ()⟩ := by
  unfold appendedBy at written
  split at written
  · cases written
    rfl
  · cases written

theorem appendedEntries_cons (t : Nat) (event : PanelEvent) (history : List (Nat × PanelEvent)) :
    appendedEntries ((t, event) :: history) = appendedEntries history ++ (appendedBy event).toList := by
  rw [appendedEntries, List.reverse_cons, List.filterMap_append]
  cases written : appendedBy event with
  | none => simp [appendedEntries, written]
  | some entry => simp [appendedEntries, written]

theorem AuditChange.entries {db : Database} {rows after : List Entry} {event : PanelEvent}
    (changed : AuditChange db rows event after) (unrestored : isRestore event = false) :
    after = rows ++ (appendedBy event).toList.map (stamped db) := by
  cases changed with
  | kept quiet =>
      have unwritten : appendedBy event = none := by
        unfold appendedBy
        split
        · cases quiet
        · rfl
      rw [unwritten]
      simp
  | appended entry => rfl
  | restored archive => cases unrestored

/-- What a successful transition says about the calls before it. -/
structure Moving (earlier : List (Nat × PanelEvent)) (t : Nat) (id : GoString) (status : Status)
    (operation : Operation) : Prop where
  reached : operation.status = status
  named : ∀ known, current (own t earlier) = some known → id = known.id → operation.id = id
  open_ : ∀ former ∈ earlier, ∀ known, returned former.2 = some known → known.id = operation.id →
    known.status.terminal = false

/-- What the history says about the audit log and about itself. -/
structure Chronicle (db : Database) (config : PanelConfig) : Prop where
  logged : config.state.audit = (appendedEntries config.history).map (stamped db)
  moving : Interleaving.Recorded (fun earlier t event => ∀ id status change operation,
    event = ⟨.transition id status change, .ok operation⟩ → Moving earlier t id status operation)
    config.history

section Steps

variable {db : Database} {maxAttempts : Int} {config next : PanelConfig}

/-- A transition moves the only row of its id, which was not at its end. -/
private theorem Ledger.moving (ledger : Ledger db config) {t : Nat} {id : GoString} {status : Status}
    {change : Change} {choice : Choice} {operation : Operation} {state : State}
    (ran : perform db t (.transition id status change) choice config.state = some (.ok operation, state)) :
    Moving config.history t id status operation := by
  have changed := (perform_effect ledger.apart ran).operations
  generalize state.operations = after at changed
  cases changed with
  | kept quiet => cases quiet
  | @moved row id next change at_ member matched valid =>
      constructor
      · rfl
      · intro known at_ same
        obtain ⟨event, own_, answer⟩ := current_returned at_
        obtain ⟨other, stored, version⟩ := ledger.witnessed (t, event) (mem_own.mp own_) known answer
        have sameID : other.id = id := version.sameID.trans same.symm
        have equal : row = other := by
          apply ledger.unique stored member
          rw [sameID]
          exact matched
        change row.id = id
        rw [equal]
        exact sameID
      · intro former among known answer same
        obtain ⟨other, stored, version⟩ := ledger.witnessed former among known answer
        have equal : other = row := by
          apply ledger.unique member stored
          have sameID : other.id = row.id := version.sameID.trans same
          rw [sameID]
          exact db.same_refl _
        by_contra ceased
        simp only [Bool.not_eq_false] at ceased
        have final : other.status = known.status := version.final ceased
        have active := validTransition_active valid
        rw [← equal, final, Status.terminal_not_active ceased] at active
        cases active

private theorem Chronicle.step (chronicle : Chronicle db config) (ledger : Ledger db config)
    (disciplined : Disciplined (audit db) config) {label : PanelLabel}
    (transition : (panel db maxAttempts).Transition config label next) : Chronicle db next := by
  cases transition with
  | spawned activity => exact ⟨chronicle.logged, chronicle.moving⟩
  | @performed t activity call continuation choice reply state found answered =>
      have changed := (perform_effect ledger.apart answered).audit
      have unrestored := ledger.unrestored disciplined found answered
      constructor
      · change state.audit = (appendedEntries ((t, ⟨call, reply⟩) :: config.history)).map (stamped db)
        rw [changed.entries unrestored, chronicle.logged, appendedEntries_cons, List.map_append]
      · apply chronicle.moving.cons
        intro id status change operation same
        cases same
        exact ledger.moving answered
  | @external choice state acted =>
      have kept : state.audit = config.state.audit := by
        cases choice <;> cases acted <;> rfl
      exact ⟨kept.trans chronicle.logged, chronicle.moving⟩
  | crashed => exact ⟨chronicle.logged, chronicle.moving⟩

end Steps

/-! ## One end, one entry -/

/-- What the proofs below may use of a reached configuration. -/
structure Chronicled (db : Database) (config : PanelConfig) : Prop where
  ledger : Ledger db config
  disciplined : Disciplined (audit db) config
  recording : Disciplined Recording.audit config
  chronicle : Chronicle db config

/-- The entry is about the end of the operation of an id. -/
def endsOf (id : GoString) (entry : Entry) : Bool :=
  endsOperation entry && entry.targetID = id

section Ends

variable {db : Database} {config : PanelConfig} {t u : Nat}

theorem endEvent_terminal {status : Status} {type : GoString} (audited : endEvent status = some type) :
    status.terminal = true := by
  cases status <;> first | rfl | cases audited

/-- The end of an operation stands, the execution moves it no more. -/
private theorem ended_stays {later earlier : List PanelEvent}
    (obeys : Obeys Recording.executionRule (later ++ earlier)) {last : GoString × GoString}
    (ceased : ended earlier = some last) : ended (later ++ earlier) = some last := by
  induction later with
  | nil => exact ceased
  | cons event later ih =>
      obtain ⟨ruled, before⟩ := obeys
      have still := ih before
      have quiet : endedBy event = none := by
        unfold endedBy
        split
        · next id status change operation =>
            have unended : ended (later ++ earlier) = none := ruled
            rw [unended] at still
            cases still
        · rfl
      rw [List.cons_append, ended, List.findSome?_cons, quiet]
      exact still

private theorem ended_mem {events : List PanelEvent} {last : GoString × GoString}
    (ceased : ended events = some last) :
    ∃ status change operation, (⟨.transition last.1 status change, .ok operation⟩ : PanelEvent) ∈ events ∧
      endEvent status = some last.2 := by
  obtain ⟨event, member, ending⟩ := List.exists_of_findSome?_eq_some ceased
  unfold endedBy at ending
  split at ending
  · next id status change operation =>
      obtain ⟨type, audited, rfl⟩ := Option.map_eq_some_iff.mp ending
      exact ⟨status, change, operation, member, audited⟩
  · cases ending

/-- What an execution appends is about the end that it has brought its operation to. -/
private theorem Chronicled.writes (chronicled : Chronicled db config) {worker : Jobs.Worker}
    (execution : config.task t = some (.runOnce worker)) {entry : Entry} {reply : Except GoError Unit}
    {earlier : List (Nat × PanelEvent)}
    (last : (t, ⟨.append entry, reply⟩) :: earlier <:+ config.history) :
    appended (own t earlier) = false ∧ entry.targetType = text "operation" ∧
      ended (own t config.history) = some (entry.targetID, entry.eventType) := by
  obtain ⟨later, split⟩ := last
  obtain ⟨⟨activity, rest⟩, found, records⟩ := chronicled.recording.justified split.symm
  rw [Config.task, found] at execution
  cases execution
  obtain ⟨unrecorded, typed, ceased⟩ := records
  have obeyed := chronicled.recording.obeyed t _ found
  rw [← split, own_append, own_cons_self, List.append_cons] at obeyed ⊢
  exact ⟨unrecorded, typed, ended_stays obeyed ceased⟩

/-- The thread that appends an entry about an end has brought the operation to it. -/
private theorem Chronicled.appender (chronicled : Chronicled db config) {entry : Entry}
    {reply : Except GoError Unit} {earlier : List (Nat × PanelEvent)}
    (last : (t, ⟨.append entry, reply⟩) :: earlier <:+ config.history)
    (ending : endsOperation entry = true) :
    appended (own t earlier) = false ∧
      (∃ worker, config.task t = some (.runOnce worker)) ∧
      ended (own t config.history) = some (entry.targetID, entry.eventType) := by
  obtain ⟨later, split⟩ := last
  obtain ⟨⟨activity, rest⟩, found, ruled⟩ := chronicled.disciplined.justified split.symm
  obtain ⟨_, located, records⟩ := chronicled.recording.justified split.symm
  rw [found] at located
  cases located
  simp only [endsOperation, Bool.and_eq_true, decide_eq_true_eq] at ending
  cases activity with
  | request asked =>
      obtain ⟨_, _, _, _, _, typed, _⟩ := ruled
      rw [typed] at ending
      exact absurd ending.2 (by decide)
  | runOnce worker =>
      have execution : config.task t = some (.runOnce worker) := by
        rw [Config.task, found]
        rfl
      obtain ⟨unrecorded, _, ceased⟩ := chronicled.writes execution ⟨later, split⟩
      exact ⟨unrecorded, ⟨worker, execution⟩, ceased⟩
  | enqueueConnectionSync id => exact ruled.elim
  | enqueuePowerOperation id => exact ruled.elim
  | createBackup passphrase requestID sourceIP =>
      have backup : entry.targetType = text "backup" := records
      rw [backup] at ending
      exact absurd ending.1 (by decide)
  | restoreBackup id passphrase requestID sourceIP =>
      have backup : entry.targetType = text "backup" := records
      rw [backup] at ending
      exact absurd ending.1 (by decide)

/-- An execution is told the operation that it has asked for. -/
private theorem Chronicled.mover (chronicled : Chronicled db config) {worker : Jobs.Worker}
    (execution : config.task t = some (.runOnce worker)) {id : GoString} {status : Status}
    {change : Change} {operation : Operation}
    (member : (⟨.transition id status change, .ok operation⟩ : PanelEvent) ∈ own t config.history) :
    operation.id = id := by
  obtain ⟨later, earlier, split⟩ := List.append_of_mem (mem_own.mp member)
  have moving := chronicled.chronicle.moving t _ earlier ⟨later, split.symm⟩ id status change operation rfl
  obtain ⟨⟨activity, rest⟩, found, ruled⟩ := chronicled.disciplined.justified split
  rw [Config.task, found] at execution
  cases execution
  obtain ⟨_, known, at_, same, _⟩ := ruled
  exact moving.named known at_ same

/-- An operation is brought to an end once. -/
private theorem Chronicled.end_unique (chronicled : Chronicled db config)
    {first second : GoString} {status next : Status} {change later : Change} {operation moved : Operation}
    (left : (t, (⟨.transition first status change, .ok operation⟩ : PanelEvent)) ∈ config.history)
    (right : (u, (⟨.transition second next later, .ok moved⟩ : PanelEvent)) ∈ config.history)
    (terminal : status.terminal = true) (final : next.terminal = true)
    (same : operation.id = moved.id) : t = u := by
  have reached : ∀ v id status change operation,
      (v, (⟨.transition id status change, .ok operation⟩ : PanelEvent)) ∈ config.history →
      operation.status = status := by
    intro v id status change operation member
    obtain ⟨before, earlier, split⟩ := List.append_of_mem member
    have moving := chronicled.chronicle.moving v _ earlier ⟨before, split.symm⟩ id status change operation rfl
    exact moving.reached
  rcases member_order left right with equal | ⟨earlier, last, member⟩ | ⟨earlier, last, member⟩
  · exact congrArg Prod.fst equal
  · have moving := chronicled.chronicle.moving t _ earlier last first status change operation rfl
    have unended := moving.open_ _ member moved rfl same.symm
    rw [reached _ _ _ _ _ right, final] at unended
    cases unended
  · have moving := chronicled.chronicle.moving u _ earlier last second next later moved rfl
    have unended := moving.open_ _ member operation rfl same
    rw [reached _ _ _ _ _ left, terminal] at unended
    cases unended

/-- The call appended an entry about the end of the operation of an id. -/
def recordsEnd (id : GoString) (entry : Nat × PanelEvent) : Bool :=
  (appendedBy entry.2).any (endsOf id)

private theorem recordsEnd_append {id : GoString} {event : PanelEvent}
    (records : recordsEnd id (t, event) = true) :
    ∃ entry, event = ⟨.append entry, .ok ()⟩ ∧ endsOperation entry = true ∧ entry.targetID = id := by
  simp only [recordsEnd, Option.any_eq_true] at records
  obtain ⟨entry, written, ends⟩ := records
  simp only [endsOf, Bool.and_eq_true, decide_eq_true_eq] at ends
  exact ⟨entry, appendedBy_append written, ends⟩

/-- Two entries about the end of one operation were appended by one execution. -/
private theorem Chronicled.same_appender (chronicled : Chronicled db config) {entry former : Entry}
    (left : (t, (⟨.append entry, .ok ()⟩ : PanelEvent)) ∈ config.history)
    (right : (u, (⟨.append former, .ok ()⟩ : PanelEvent)) ∈ config.history)
    (ending : endsOperation entry = true) (ending_ : endsOperation former = true)
    (same : entry.targetID = former.targetID) : t = u ∧ entry.eventType = former.eventType := by
  obtain ⟨later, earlier, split⟩ := List.append_of_mem left
  obtain ⟨later_, earlier_, split_⟩ := List.append_of_mem right
  obtain ⟨_, ⟨worker, execution⟩, ceased⟩ := chronicled.appender ⟨later, split.symm⟩ ending
  obtain ⟨_, ⟨worker_, execution_⟩, ceased_⟩ := chronicled.appender ⟨later_, split_.symm⟩ ending_
  obtain ⟨status, change, operation, moved, audited⟩ := ended_mem ceased
  obtain ⟨status_, change_, operation_, moved_, audited_⟩ := ended_mem ceased_
  have one : t = u := by
    apply chronicled.end_unique (mem_own.mp moved) (mem_own.mp moved_)
    · exact endEvent_terminal audited
    · exact endEvent_terminal audited_
    · rw [chronicled.mover execution moved, chronicled.mover execution_ moved_, same]
  subst one
  rw [ceased] at ceased_
  simp only [Option.some.injEq, Prod.mk.injEq] at ceased_
  exact ⟨rfl, ceased_.2⟩

/-- An end has at most one entry, of whatever type. -/
private theorem Chronicled.once (chronicled : Chronicled db config) (id : GoString) :
    config.history.countP (recordsEnd id) ≤ 1 := by
  apply countP_once
  rintro ⟨t, event⟩ earlier last records ⟨u, other⟩ member
  by_contra again
  simp only [Bool.not_eq_false] at again
  obtain ⟨entry, rfl, ending, target⟩ := recordsEnd_append records
  obtain ⟨former, rfl, ending_, target_⟩ := recordsEnd_append again
  have left := last.mem List.mem_cons_self
  have right := last.mem (List.mem_cons_of_mem _ member)
  obtain ⟨rfl, _⟩ := chronicled.same_appender left right ending ending_ (target.trans target_.symm)
  have silent := (chronicled.appender last ending).1
  have recorded : appended (own t earlier) = true := by
    rw [appended, List.any_eq_true]
    exact ⟨_, mem_own.mpr member, rfl⟩
  rw [recorded] at silent
  cases silent

end Ends

/-! ## Runs that lose no entry -/

/-- A step that leaves no end unrecorded: a request does not fail the operation
that it cannot hand over, an entry about an end is not refused, and a crash
does not come between an end and its entry. -/
def Recordable (config : PanelConfig) : PanelLabel → Prop
  | .spawned activity => activity.restores = false
  | .performed t ⟨.transition _ _ _, .ok _⟩ => ∀ asked, config.task t ≠ some (.request asked)
  | .performed _ ⟨.append entry, .error _⟩ => endsOperation entry = false
  | .crashed => ∀ entry ∈ config.history, Recording.Attempted (own entry.1 config.history)
  | _ => True

/-- What the steps of such a run leave behind. -/
structure Unspoilt (config : PanelConfig) : Prop where
  executed : ∀ t id status change operation,
    (t, (⟨.transition id status change, .ok operation⟩ : PanelEvent)) ∈ config.history →
    ∃ task, config.task t = some task ∧ ∀ asked, task ≠ .request asked
  accepted : ∀ t entry failure,
    (t, (⟨.append entry, .error failure⟩ : PanelEvent)) ∈ config.history → endsOperation entry = false
  killed : ∀ t (thread : PanelThread), config.threads[t]? = some thread → thread.rest = none →
    Recording.Attempted (own t config.history)

section Runs

variable {db : Database} {maxAttempts : Int} {config next : PanelConfig}

private theorem unspoilt_initial (state : State) : Unspoilt (Config.initial state) where
  executed t id status change operation member := by cases member
  accepted t entry failure member := by cases member
  killed t thread found := by simp [Config.initial] at found

private theorem Unspoilt.step (unspoilt : Unspoilt config) {label : PanelLabel}
    (transition : (panel db maxAttempts).Transition config label next)
    (recordable : Recordable config label) : Unspoilt next := by
  have executed : ∀ t id status change operation,
      (t, (⟨.transition id status change, .ok operation⟩ : PanelEvent)) ∈ config.history →
      ∃ task, next.task t = some task ∧ ∀ asked, task ≠ .request asked := by
    intro t id status change operation member
    obtain ⟨task, known, unasked⟩ := unspoilt.executed t id status change operation member
    exact ⟨task, transition.task known, unasked⟩
  have transition_ := transition
  cases transition with
  | spawned activity =>
      refine ⟨executed, unspoilt.accepted, ?_⟩
      intro t thread found killed
      rcases Disciplined.spawn_found found with former | ⟨_, rfl⟩
      · exact unspoilt.killed t thread former killed
      · cases killed
  | @performed u activity call continuation choice reply state found answered =>
      have task : config.task u = some activity := by
        rw [Config.task, found]
        rfl
      refine ⟨?_, ?_, ?_⟩
      · intro t id status change operation member
        rcases List.mem_cons.mp member with same | former
        · cases same
          refine ⟨activity, transition_.task task, ?_⟩
          rintro asked rfl
          exact recordable asked task
        · exact executed t id status change operation former
      · intro t entry failure member
        rcases List.mem_cons.mp member with same | former
        · cases same
          exact recordable
        · exact unspoilt.accepted t entry failure former
      · intro t thread located killed
        simp only [Config.advance] at located ⊢
        by_cases same : u = t
        · subst same
          have bound := (List.getElem?_eq_some_iff.mp found).1
          rw [List.getElem?_set_self bound] at located
          cases located
          cases killed
        · rw [List.getElem?_set_ne same] at located
          rw [own_cons_other same]
          exact unspoilt.killed t thread located killed
  | external acted => exact ⟨executed, unspoilt.accepted, unspoilt.killed⟩
  | crashed =>
      refine ⟨executed, unspoilt.accepted, ?_⟩
      intro t thread _ _
      change Recording.Attempted (own t config.history)
      cases events : own t config.history with
      | nil => exact fun ceased => absurd rfl ceased
      | cons event earlier =>
          have member : (t, event) ∈ config.history := mem_own.mp (events ▸ List.mem_cons_self)
          rw [← events]
          exact recordable _ member

end Runs

/-- Neither a request nor an execution is in progress. -/
def Idle (config : PanelConfig) : Prop :=
  ∀ thread ∈ config.threads, (∃ asked, thread.task = .request asked) ∨
    (∃ worker, thread.task = .runOnce worker) → thread.active = false

/-- The entry is the one about the end of an operation. -/
def recordOf (id type : GoString) (entry : Entry) : Bool :=
  entry.targetType = text "operation" && entry.targetID = id && entry.eventType = type

/-- Each end of an operation has one entry of its type, and no operation has
entries of two types. -/
structure AuditedOnce (config : PanelConfig) : Prop where
  recorded : ∀ row ∈ config.state.operations, ∀ type, endEvent row.status = some type →
    config.state.audit.countP (recordOf row.id type) = 1
  exclusive : ∀ entry ∈ config.state.audit, ∀ other ∈ config.state.audit,
    endsOperation entry = true → endsOperation other = true → entry.targetID = other.targetID →
    entry.eventType = other.eventType

section Law

variable {db : Database} {config : PanelConfig}

private theorem Chronicled.logged_mem (chronicled : Chronicled db config) {entry : Entry}
    (member : entry ∈ config.state.audit) : ∃ t written,
      (t, (⟨.append written, .ok ()⟩ : PanelEvent)) ∈ config.history ∧ entry = stamped db written := by
  rw [chronicled.chronicle.logged] at member
  obtain ⟨written, among, rfl⟩ := List.mem_map.mp member
  obtain ⟨⟨t, event⟩, former, appended_⟩ := List.mem_filterMap.mp among
  have same : event = ⟨.append written, .ok ()⟩ := appendedBy_append appended_
  rw [same] at former
  exact ⟨t, written, List.mem_reverse.mp former, rfl⟩

/-- The entries of the log are counted by the calls that appended them. -/
private theorem Chronicled.logged_count (chronicled : Chronicled db config) (id type : GoString) :
    config.state.audit.countP (recordOf id type) =
      config.history.countP fun entry => (appendedBy entry.2).any (recordOf id type) := by
  rw [chronicled.chronicle.logged, List.countP_map, appendedEntries, List.countP_filterMap,
    List.countP_reverse]
  apply List.countP_congr
  rintro ⟨t, event⟩ _
  cases appendedBy event with
  | none => rfl
  | some entry => rfl

private theorem recordOf_ends {status : Status} {id type : GoString} {entry : Entry}
    (audited : endEvent status = some type) (about : recordOf id type entry = true) :
    endsOperation entry = true := by
  simp only [recordOf, Bool.and_eq_true, decide_eq_true_eq] at about
  obtain ⟨⟨typed, _⟩, rfl⟩ := about
  simp only [endsOperation, typed, decide_true, Bool.true_and, List.any_eq_true, decide_eq_true_eq]
  refine ⟨status, ?_, audited⟩
  cases status <;> first | decide | cases audited

/-- In a run without compensations an execution brings an operation to its end. -/
private theorem Chronicled.finisher (chronicled : Chronicled db config) (unspoilt : Unspoilt config)
    {t : Nat} {asked : GoString} {status : Status} {change : Change} {operation : Operation}
    {type : GoString}
    (among : (t, (⟨.transition asked status change, .ok operation⟩ : PanelEvent)) ∈ config.history)
    (audited : endEvent status = some type) :
    ∃ thread, config.threads[t]? = some thread ∧ (∃ worker, thread.task = .runOnce worker) ∧
      ended (own t config.history) = some (operation.id, type) := by
  obtain ⟨task, known, unasked⟩ := unspoilt.executed t asked status change operation among
  obtain ⟨later, earlier, split⟩ := List.append_of_mem among
  obtain ⟨⟨activity, rest⟩, found, ruled⟩ := chronicled.disciplined.justified split
  have same : task = activity := by
    rw [Config.task, found] at known
    exact (Option.some.inj known).symm
  subst same
  cases task with
  | runOnce worker =>
      refine ⟨_, found, ⟨worker, rfl⟩, ?_⟩
      have named : operation.id = asked := chronicled.mover known (mem_own.mpr among)
      have obeyed := chronicled.recording.obeyed t _ found
      rw [split, own_append, own_cons_self] at obeyed ⊢
      apply ended_stays obeyed
      rw [ended, List.findSome?_cons, endedBy, audited, named]
      rfl
  | request asked => exact absurd rfl (unasked asked)
  | enqueueConnectionSync id => exact ruled.elim
  | enqueuePowerOperation id => exact ruled.elim
  | createBackup passphrase requestID sourceIP => exact ruled.elim
  | restoreBackup id passphrase requestID sourceIP => exact ruled.elim

/-- The execution that brought an operation to its end has recorded it. -/
private theorem Chronicled.recorded (chronicled : Chronicled db config) (unspoilt : Unspoilt config)
    (idle : Idle config) {row : Operations.Row} (member : row ∈ config.state.operations)
    {type : GoString} (audited : endEvent row.status = some type) :
    ∃ t entry, (t, (⟨.append entry, .ok ()⟩ : PanelEvent)) ∈ config.history ∧
      recordOf row.id type entry = true := by
  have unqueued : row.status ≠ .queued := by
    intro queued
    rw [queued] at audited
    cases audited
  obtain ⟨mover, among, t, asked, change, operation, rfl, named⟩ :=
    chronicled.ledger.justified row member unqueued
  obtain ⟨thread, found, execution, ceased⟩ := chronicled.finisher unspoilt among audited
  have attempted : appended (own t config.history) = true := by
    have tried : Recording.Attempted (own t config.history) := by
      obtain ⟨worker, execution⟩ := execution
      have inactive := idle thread (List.mem_of_getElem? found) (.inr ⟨worker, execution⟩)
      obtain ⟨activity, rest⟩ := thread
      cases execution
      rcases rest with _ | ⟨outcome | _⟩
      · exact unspoilt.killed t _ found rfl
      · exact chronicled.recording.closed found rfl
      · cases inactive
    apply tried
    rw [ceased]
    simp
  obtain ⟨⟨call, reply⟩, recorded, appends_⟩ := List.any_eq_true.mp attempted
  cases call with
  | append entry =>
      obtain ⟨later, earlier, split⟩ := List.append_of_mem (mem_own.mp recorded)
      obtain ⟨worker, execution⟩ := execution
      have task : config.task t = some (.runOnce worker) := by
        rw [Config.task, found, ← execution]
        rfl
      obtain ⟨_, typed, same⟩ := chronicled.writes task ⟨later, split.symm⟩
      rw [ceased, named] at same
      simp only [Option.some.injEq, Prod.mk.injEq] at same
      have about : recordOf row.id type entry = true := by
        simp [recordOf, typed, same.1, same.2]
      refine ⟨t, entry, ?_, about⟩
      cases reply with
      | ok _ => exact mem_own.mp recorded
      | error failure =>
          have refused := unspoilt.accepted t entry failure (mem_own.mp recorded)
          rw [recordOf_ends audited about] at refused
          cases refused
  | _ => cases appends_

private theorem Chronicled.auditedOnce (chronicled : Chronicled db config) (unspoilt : Unspoilt config)
    (idle : Idle config) : AuditedOnce config := by
  constructor
  · intro row member type audited
    rw [chronicled.logged_count]
    have once : config.history.countP (fun entry => (appendedBy entry.2).any (recordOf row.id type)) ≤
        config.history.countP (recordsEnd row.id) := by
      apply List.countP_mono_left
      rintro ⟨t, event⟩ _ about
      obtain ⟨entry, written, about⟩ := (Option.any_eq_true _ _).mp about
      rw [recordsEnd, written, Option.any_some, endsOf, recordOf_ends audited about]
      simp only [recordOf, Bool.and_eq_true] at about
      exact about.1.2
    have some_ : 0 < config.history.countP
        (fun entry => (appendedBy entry.2).any (recordOf row.id type)) := by
      obtain ⟨t, entry, written, about⟩ := chronicled.recorded unspoilt idle member audited
      rw [List.countP_pos_iff]
      exact ⟨_, written, about⟩
    have most := chronicled.once row.id
    omega
  · intro entry member other among ending ending_ same
    obtain ⟨t, first, written, rfl⟩ := chronicled.logged_mem member
    obtain ⟨u, second, written_, rfl⟩ := chronicled.logged_mem among
    exact (chronicled.same_appender written written_ ending ending_ same).2

variable {maxAttempts : Int} {servers : List Inventory.Row} {backups : List (Backup.File Archive)}
  {meets : PanelConfig → PanelLabel → Prop}

theorem PanelRun.chronicled (run : PanelRun db maxAttempts servers backups meets config)
    (restoreless : ∀ before label, meets before label → Restoreless label) : Chronicled db config := by
  refine ⟨run.ledger restoreless, run.disciplined, ?_, ?_⟩
  · exact Disciplined.run (Recording.panel_passes db maxAttempts) run fun _ _ _ => trivial
  · refine System.Run.invariant run ⟨rfl, Interleaving.Recorded.nil⟩ ?_
    intro before label after reached transition met chronicle
    have former : PanelRun db maxAttempts servers backups meets before := reached
    exact chronicle.step (former.ledger restoreless) former.disciplined transition

theorem ends_audited_once (run : PanelRun db maxAttempts servers backups meets config)
    (recordable : ∀ before label, meets before label → Recordable before label)
    (idle : Idle config) : AuditedOnce config := by
  have restoreless : ∀ before label, meets before label → Restoreless label := by
    rintro before label met activity rfl
    exact recordable before _ met
  have unspoilt : Unspoilt config := by
    refine System.Run.invariant run (unspoilt_initial _) ?_
    intro before label after reached transition met unspoilt
    exact unspoilt.step transition (recordable before label met)
  exact (run.chronicled restoreless).auditedOnce unspoilt idle

end Law

/-- A process of one request and one execution that finds the server running. -/
def startSchedule (last : List Choice) : Schedule :=
  [.spawn (.request (asking .start))] ++ answers 0 (creating ++ enqueueing ++ announcing) ++
  [.crash, .spawn (.runOnce Jobs.Worker.standard)] ++
  answers 1 (leasing 2 ++ [.instant 2, stored] ++ approaching .running ++ last)

def recordableTest (config : PanelConfig) : PanelLabel → Bool
  | .spawned activity => !activity.restores
  | .performed t ⟨.transition _ _ _, .ok _⟩ =>
      match config.task t with
      | some (.request _) => false
      | _ => true
  | .performed _ ⟨.append entry, .error _⟩ => !endsOperation entry
  | .crashed => config.history.all fun entry =>
      (ended (own entry.1 config.history)).isNone || appended (own entry.1 config.history)
  | _ => true

theorem recordableTest_sound {config : PanelConfig} {label : PanelLabel}
    (passed : recordableTest config label = true) : Recordable config label := by
  cases label with
  | spawned activity =>
      change activity.restores = false
      simpa [recordableTest] using passed
  | performed t event =>
      obtain ⟨call, reply⟩ := event
      cases call with
      | transition id status change =>
          rcases reply with failure | operation
          · trivial
          · intro asked known
            simp only [recordableTest, known] at passed
            cases passed
      | append entry =>
          rcases reply with failure | _
          · change endsOperation entry = false
            simpa [recordableTest] using passed
          · trivial
      | _ => trivial
  | external choice => trivial
  | crashed =>
      simp only [recordableTest, List.all_eq_true] at passed
      intro entry member ceased
      have either := passed entry member
      rw [Bool.or_eq_true, Option.isNone_iff_eq_none] at either
      exact either.resolve_left ceased

private theorem quiescent_idle {config : PanelConfig} (quiescent : config.quiescent = true) : Idle config := by
  intro thread member _
  simpa using List.all_eq_true.mp quiescent thread member

theorem ends_audited_once_crashed : ∃ config,
    (panel (Database.plain .sqlite) 3).execute recordableTest (startSchedule succeeding)
      (Config.initial (emptyState [machine .stopped] [])) = some config ∧
    config.state.operations.map (·.status) = [.succeeded] ∧ AuditedOnce config := by
  have carried : (((panel (Database.plain .sqlite) 3).execute recordableTest (startSchedule succeeding)
      (Config.initial (emptyState [machine .stopped] []))).map fun config =>
        (config.quiescent, config.state.operations.map (·.status))) = some (true, [.succeeded]) := by
    decide
  obtain ⟨config, reached, same⟩ := Option.map_eq_some_iff.mp carried
  simp only [Prod.mk.injEq] at same
  have run : PanelRun (Database.plain .sqlite) 3 [machine .stopped] []
      (fun config label => Recordable config label) config :=
    System.execute_run reached fun _ _ passed => recordableTest_sound passed
  exact ⟨config, reached, same.2, ends_audited_once run (fun _ _ met => met) (quiescent_idle same.1)⟩

/-- The database refuses the entry about the success. -/
def unrecorded : List Choice :=
  [.instant 3, stored, .instant 3, stored, .identifier (text "last"), .instant 3, refused,
    .instant 3, stored]

/-- An operation has succeeded and nothing says so in the audit log. -/
theorem end_unaudited : ∃ config,
    (panel (Database.plain .sqlite) 3).outcome restorelessTest (startSchedule unrecorded)
      (Config.initial (emptyState [machine .stopped] [])) = some config ∧
    Idle config ∧ ¬ AuditedOnce config := by
  have carried : (((panel (Database.plain .sqlite) 3).outcome restorelessTest (startSchedule unrecorded)
      (Config.initial (emptyState [machine .stopped] []))).map fun config =>
        (config.quiescent, config.state.operations.map fun row => (row.id, row.status),
          config.state.audit.countP (recordOf (text "operation") (text "power_operation_succeeded")))) =
      some (true, [(text "operation", .succeeded)], 0) := by decide
  obtain ⟨config, reached, same⟩ := Option.map_eq_some_iff.mp carried
  simp only [Prod.mk.injEq] at same
  obtain ⟨quiescent, rows, count⟩ := same
  refine ⟨config, reached, quiescent_idle quiescent, ?_⟩
  intro audited
  have member : (text "operation", Status.succeeded) ∈
      config.state.operations.map fun row => (row.id, row.status) := by
    rw [rows]
    exact List.mem_singleton_self _
  obtain ⟨row, among, same⟩ := List.mem_map.mp member
  simp only [Prod.mk.injEq] at same
  have once := audited.recorded row among (text "power_operation_succeeded") (by rw [same.2]; rfl)
  rw [same.1, count] at once
  cases once

end NodeAtlas.Power
