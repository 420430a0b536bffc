import NodeAtlas.Jobs.Fleet

/-! How often a job is granted. `Retry` holds the attempts against the limit;
`LeaseNext` does not when it takes over an expired lease. -/

set_option autoImplicit false

namespace NodeAtlas.Jobs.Fleet

open Interleaving

/-- The enqueue that stored a job. -/
def queuedBy : FleetEvent → Option Queue
  | ⟨.repository (.enqueueConnectionSync queue _), .ok _⟩ => some queue
  | ⟨.repository (.enqueuePowerOperation queue _), .ok _⟩ => some queue
  | _ => none

/-- How often a job was granted. -/
def grants (db : Database) (id : GoString) (history : List (Nat × FleetEvent)) : Nat :=
  history.countP fun entry => (grantOf entry.2).any fun lease => db.same lease.job.id id

/-- `LeaseNext` does not pick a job that was running its last attempt. -/
def Spared (db : Database) (config : FleetConfig) (label : FleetLabel) : Prop :=
  ∀ t owner at_ duration reply,
    label = .performed t ⟨.repository (.leaseNext owner at_ duration), reply⟩ →
    ∀ row, (leasable db at_).pick config.state.rows = some row → row.status = .running →
      row.attempts < row.maxAttempts

/-- No job is granted more often than it was enqueued for. -/
structure Bounded (db : Database) (config : FleetConfig) : Prop where
  grants : ∀ t event queue, (t, event) ∈ config.history → queuedBy event = some queue →
    grants db queue.newID config.history ≤ queue.maxAttempts
  attempts : ∀ row ∈ config.state.rows, row.attempts ≤ row.maxAttempts

/-! ## The attempts of a row are its grants -/

structure Tallied (db : Database) (history : List (Nat × FleetEvent)) (row : Row) : Prop where
  granted : (grants db row.id history : Int) = row.attempts
  within : row.attempts ≤ row.maxAttempts
  waiting : row.status = .queued → row.attempts < row.maxAttempts

/-- What the history says about the rows. -/
structure Counted (db : Database) (columns : Row → Bool) (history : List (Nat × FleetEvent))
    (rows : List Row) : Prop where
  apart : rows.Pairwise fun left right => (engine db columns).clash left right = false
  tallied : ∀ row ∈ rows, Tallied db history row
  known : ∀ id, 0 < grants db id history → ∃ row ∈ rows, db.same row.id id = true
  stored : ∀ t event queue, (t, event) ∈ history → queuedBy event = some queue →
    ∃ row ∈ rows, row.id = queue.newID ∧ row.maxAttempts = queue.maxAttempts

section Counting

variable {db : Database} {columns : Row → Bool} {history : List (Nat × FleetEvent)}
  {rows after : List Row} {t : Nat} {event : FleetEvent}

theorem grants_ungranted (ungranted : grantOf event = none) (id : GoString) :
    grants db id ((t, event) :: history) = grants db id history := by
  simp [grants, ungranted]

theorem grants_granted {lease : Lease} {id : GoString} (grant : grantOf event = some lease)
    (same : db.same lease.job.id id = true) :
    grants db id ((t, event) :: history) = grants db id history + 1 := by
  simp [grants, grant, same]

theorem grants_other {lease : Lease} {id : GoString} (grant : grantOf event = some lease)
    (other : db.same lease.job.id id = false) :
    grants db id ((t, event) :: history) = grants db id history := by
  simp [grants, grant, other]

theorem newQueue_positive (maxAttempts : Int) (now : Instant) (newID : GoString) :
    0 < (newQueue maxAttempts now newID).maxAttempts := by
  unfold newQueue
  dsimp only
  split <;> omega

/-- A row stays, under its id and with its limit. -/
private theorem Changed.stays (changed : Changed db rows event after)
    (apart : rows.Pairwise fun left right => (engine db columns).clash left right = false)
    {row : Row} (member : row ∈ rows) :
    ∃ later ∈ after, later.id = row.id ∧ later.maxAttempts = row.maxAttempts := by
  cases changed with
  | kept => exact ⟨row, member, rfl, rfl⟩
  | enqueued => exact ⟨row, List.mem_append_left _ member, rfl, rfl⟩
  | granted =>
      refine ⟨_, List.mem_map_of_mem member, ?_⟩
      split
      · exact ⟨rfl, rfl⟩
      · exact ⟨rfl, rfl⟩
  | settled settles done among matched held settlement =>
      refine ⟨_, List.mem_map_of_mem member, ?_⟩
      split
      · next meant =>
          rw [db.same_symm] at matched
          rw [same_row apart among member (db.same_trans meant matched)]
          exact ⟨settlement.sameID, settlement.maxAttempts⟩
      · exact ⟨rfl, rfl⟩

private theorem counted_empty (clock : Instant) :
    Counted db columns (empty clock).history (empty clock).state.rows where
  apart := .nil
  tallied row member := by cases member
  known id granted := by cases granted
  stored t event queue member := by cases member

private theorem Tallied.ungranted {row : Row} (tallied : Tallied db history row)
    (ungranted : grantOf event = none) : Tallied db ((t, event) :: history) row := by
  refine ⟨?_, tallied.within, tallied.waiting⟩
  rw [grants_ungranted ungranted]
  exact tallied.granted

private theorem Counted.enqueued (counted : Counted db columns history rows) {queue : Queue}
    {kind : Kind} {field id : GoString} (positive : 0 < queue.maxAttempts)
    (apart : (rows ++ [enqueuedRow db (queue.job kind field id)]).Pairwise fun left right =>
      (engine db columns).clash left right = false) :
    Tallied db history (enqueuedRow db (queue.job kind field id)) := by
  have fresh : grants db queue.newID history = 0 := by
    by_contra nonzero
    obtain ⟨old, member, clashing⟩ := counted.known queue.newID (Nat.pos_of_ne_zero nonzero)
    have clear := (List.pairwise_append.mp apart).2.2 old member _ List.mem_cons_self
    have equal : db.same old.id queue.newID = false := clear
    rw [clashing] at equal
    cases equal
  refine ⟨?_, Int.le_of_lt positive, fun _ => positive⟩
  change (grants db queue.newID history : Int) = 0
  rw [fresh]
  rfl

private theorem Tallied.granted_row {row : Row} {owner : GoString} {at_ : Instant}
    {expires : Instant} {lease : Lease} (tallied : Tallied db history row)
    (grant : grantOf event = some lease) (sameID : lease.job.id = row.id)
    (room : row.attempts < row.maxAttempts) :
    Tallied db ((t, event) :: history) (Row.leased db owner at_ expires row) := by
  have counted : grants db row.id ((t, event) :: history) = grants db row.id history + 1 :=
    grants_granted grant (by rw [sameID]; exact db.same_refl _)
  have before := tallied.granted
  refine ⟨?_, ?_, ?_⟩
  · change (grants db row.id ((t, event) :: history) : Int) = row.attempts + 1
    rw [counted]
    omega
  · change row.attempts + 1 ≤ row.maxAttempts
    omega
  · intro queued
    cases queued

private theorem Tallied.settled_row {row : Row} {change : Row → Row}
    (tallied : Tallied db history row) (ungranted : grantOf event = none)
    (settlement : Settlement row (change row)) : Tallied db ((t, event) :: history) (change row) := by
  refine ⟨?_, ?_, ?_⟩
  · rw [grants_ungranted ungranted, settlement.sameID, settlement.attempts]
    exact tallied.granted
  · rw [settlement.attempts, settlement.maxAttempts]
    exact tallied.within
  · rw [settlement.attempts, settlement.maxAttempts]
    exact settlement.requeued

/-- The one place where the limit is not looked at is where a running job is
picked; there the step itself has to spare it. -/
private theorem Counted.changed (counted : Counted db columns history rows)
    (changed : Changed db rows event after)
    (apart : after.Pairwise fun left right => (engine db columns).clash left right = false)
    (positive : ∀ queue id, (event.call = .repository (.enqueueConnectionSync queue id) ∨
      event.call = .repository (.enqueuePowerOperation queue id)) → 0 < queue.maxAttempts)
    (room : ∀ lease, grantOf event = some lease → ∀ row ∈ rows, lease.job.id = row.id →
      row.attempts < row.maxAttempts) :
    ∀ row ∈ after, Tallied db ((t, event) :: history) row := by
  intro row member
  cases changed with
  | kept ungranted => exact (counted.tallied row member).ungranted ungranted
  | enqueued ungranted unsettled asked =>
      rcases List.mem_append.mp member with former | new
      · exact (counted.tallied row former).ungranted ungranted
      · rw [List.mem_singleton.mp new]
        exact (counted.enqueued (positive _ _ asked) apart).ungranted ungranted
  | @granted owner at_ duration lease picked among chosen sameID =>
      rcases changeRow_cases member with ⟨former, other⟩ | ⟨old, former, matched, rfl⟩
      · have tallied := counted.tallied row former
        refine ⟨?_, tallied.within, tallied.waiting⟩
        rw [grants_other rfl (by rw [sameID, db.same_symm]; exact other)]
        exact tallied.granted
      · have same := same_row counted.apart among former matched
        subst same
        exact (counted.tallied old former).granted_row rfl sameID (room lease rfl old former sameID)
  | settled settles done among matched held settlement =>
      have ungranted := settledBy_ungranted done
      rcases changeRow_cases member with ⟨former, _⟩ | ⟨old, former, meant, rfl⟩
      · exact (counted.tallied row former).ungranted ungranted
      · rw [db.same_symm] at matched
        have same := same_row counted.apart among former (db.same_trans meant matched)
        subst same
        exact (counted.tallied old former).settled_row ungranted settlement

private theorem Counted.knows (counted : Counted db columns history rows)
    (changed : Changed db rows event after) {id : GoString}
    (granted : 0 < grants db id ((t, event) :: history)) :
    ∃ row ∈ after, db.same row.id id = true := by
  have old : ∃ row ∈ rows, db.same row.id id = true := by
    cases grant : grantOf event with
    | none =>
        rw [grants_ungranted grant] at granted
        exact counted.known id granted
    | some lease =>
        cases same : db.same lease.job.id id with
        | false =>
            rw [grants_other grant same] at granted
            exact counted.known id granted
        | true =>
            cases changed with
            | kept ungranted | enqueued ungranted =>
                rw [ungranted] at grant
                cases grant
            | granted member _ sameID =>
                cases grant
                exact ⟨_, member, sameID ▸ same⟩
            | settled _ done =>
                rw [settledBy_ungranted done] at grant
                cases grant
  obtain ⟨row, member, same⟩ := old
  obtain ⟨later, stays, equal, _⟩ := changed.stays counted.apart member
  exact ⟨later, stays, by rw [equal]; exact same⟩

end Counting

/-! ## Runs -/

section Runs

variable {db : Database} {columns : Row → Bool} {clock : Instant} {config : FleetConfig}

private theorem perform_enqueues {call : Call} {choice : Choice} {state next : State}
    {reply : call.Reply} {queue : Queue}
    (ran : perform db columns call choice state = some (reply, next))
    (queued : queuedBy ⟨call, reply⟩ = some queue) :
    ∃ row ∈ next.rows, row.id = queue.newID ∧ row.maxAttempts = queue.maxAttempts := by
  unfold queuedBy at queued
  split at queued <;> cases queued
  all_goals
    next same =>
      cases same
      cases choice with
      | database faults =>
          obtain ⟨rows, transacted, rfl⟩ := repository_alone ran
          rcases enqueueFor_alone transacted with ⟨_, inserted⟩ | ⟨⟨_, failed⟩, _⟩
          · cases inserted
            exact ⟨_, List.mem_append_right _ List.mem_cons_self, rfl, rfl⟩
          · cases failed
      | _ => cases ran

/-- Every enqueue of a run asks for one attempt at least. -/
private theorem asked_positive {activity : Activity} {earlier : List FleetEvent}
    {event : FleetEvent} {queue : Queue} {id : GoString} (ruled : rule activity earlier event)
    (asked : event.call = .repository (.enqueueConnectionSync queue id) ∨
      event.call = .repository (.enqueuePowerOperation queue id)) : 0 < queue.maxAttempts := by
  obtain ⟨call, reply⟩ := event
  dsimp only at asked
  cases activity with
  | work worker cycles =>
      rcases asked with rfl | rfl
      · exact ruled.2.elim
      · exact ruled.2.elim
  | enqueueConnectionSync maxAttempts now newID connection =>
      have same : call = _ := ruled
      subst same
      rcases asked with equal | equal
      · cases equal
        exact newQueue_positive maxAttempts now newID
      · cases equal
  | enqueuePowerOperation maxAttempts now newID operation =>
      have same : call = _ := ruled
      subst same
      rcases asked with equal | equal
      · cases equal
      · cases equal
        exact newQueue_positive maxAttempts now newID

/-- What was granted was picked. -/
private theorem perform_picks {call : Call} {choice : Choice} {state next : State}
    {reply : call.Reply} {lease : Lease}
    (ran : perform db columns call choice state = some (reply, next))
    (grant : grantOf ⟨call, reply⟩ = some lease) :
    ∃ owner at_ duration row, call = .repository (.leaseNext owner at_ duration) ∧
      (leasable db at_).pick state.rows = some row ∧ lease.job.id = row.id := by
  unfold grantOf at grant
  split at grant
  · next owner at_ duration granted same =>
      cases grant
      cases same
      cases choice with
      | database faults =>
          obtain ⟨rows, transacted, rfl⟩ := repository_alone ran
          obtain ⟨row, picked, sameID⟩ := leaseNext_picks transacted
          exact ⟨owner, at_, duration, row, rfl, picked, sameID⟩
      | _ => cases ran
  · cases grant

private theorem granted_room {before : FleetConfig} {t : Nat} {call : Call} {choice : Choice}
    {next : State} {reply : call.Reply} {lease : Lease} {row : Row}
    (counted : Counted db columns before.history before.state.rows)
    (answered : perform db columns call choice before.state = some (reply, next))
    (grant : grantOf ⟨call, reply⟩ = some lease)
    (spared : Spared db before (.performed t ⟨call, reply⟩))
    (member : row ∈ before.state.rows) (sameID : lease.job.id = row.id) :
    row.attempts < row.maxAttempts := by
  obtain ⟨owner, at_, duration, picked, rfl, first, named⟩ := perform_picks answered grant
  obtain ⟨among, chosen⟩ := Transactions.Query.pick_mem first
  have same := same_row counted.apart among member (by rw [← sameID, named]; exact db.same_refl _)
  subst same
  have due : row.status = .queued ∨ row.status = .running := by
    simp only [leasable, Bool.or_eq_true, Bool.and_eq_true, decide_eq_true_eq] at chosen
    exact chosen.imp And.left And.left
  rcases due with queued | running
  · exact (counted.tallied row member).waiting queued
  · exact spared t owner at_ duration reply rfl row first running

private theorem counted_step {before next : FleetConfig} {label : FleetLabel}
    (disciplined : Disciplined audit before)
    (counted : Counted db columns before.history before.state.rows)
    (transition : (fleet db columns).Transition before label next) (spared : Spared db before label) :
    Counted db columns next.history next.state.rows := by
  cases transition with
  | spawned activity => exact counted
  | @performed t activity request continuation choice reply state found answered =>
      have ruled := (disciplined.ahead t _ _ found rfl reply (perform_fits answered)).1
      have changed := perform_changes counted.apart answered
      have apart := perform_apart counted.apart answered
      refine ⟨apart, ?_, ?_, ?_⟩
      · apply counted.changed changed apart
        · intro queue id asked
          exact asked_positive ruled asked
        · intro lease grant row member sameID
          exact granted_room counted answered grant spared member sameID
      · intro id granted
        exact counted.knows changed granted
      · intro u event queue member queued
        rcases List.mem_cons.mp member with same | former
        · cases same
          exact perform_enqueues answered queued
        · obtain ⟨row, among, sameID, limit⟩ := counted.stored u event queue former queued
          obtain ⟨later, stays, equal, kept⟩ := changed.stays counted.apart among
          exact ⟨later, stays, equal.trans sameID, kept.trans limit⟩
  | external acted => cases acted
  | crashed => exact counted

private theorem counted_run (run : (fleet db columns).Run (Spared db) (empty clock) config) :
    Counted db columns config.history config.state.rows := by
  change (fun config : FleetConfig => Counted db columns config.history config.state.rows) config
  apply System.Run.invariant run
  · exact counted_empty clock
  · intro before label next reached transition spared counted
    have disciplined : Disciplined audit before :=
      Disciplined.run (fleet_passes db columns) reached fun _ _ _ => trivial
    exact counted_step disciplined counted transition spared

/-- As long as no lease of a job's last attempt is taken over, no job is
granted more often than it was enqueued for. -/
theorem attempts_bounded (run : (fleet db columns).Run (Spared db) (empty clock) config) :
    Bounded db config := by
  have counted := counted_run run
  constructor
  · intro t event queue member queued
    obtain ⟨row, among, sameID, limit⟩ := counted.stored t event queue member queued
    have tallied := counted.tallied row among
    rw [← sameID, ← limit, tallied.granted]
    exact tallied.within
  · intro row member
    exact (counted.tallied row member).within

end Runs

/-! ## A job that is never settled -/

def sparedTest (db : Database) (config : FleetConfig) : FleetLabel → Bool
  | .performed _ ⟨.repository (.leaseNext _ at_ _), _⟩ =>
      ((leasable db at_).pick config.state.rows).all fun row =>
        row.status != .running || decide (row.attempts < row.maxAttempts)
  | _ => true

theorem sparedTest_sound {db : Database} (config : FleetConfig) (label : FleetLabel)
    (passed : sparedTest db config label = true) : Spared db config label := by
  intro t owner at_ duration reply same row picked running
  subst same
  simpa [sparedTest, picked, running] using passed

/-- A worker that is killed while it handles its job, and one that finds the
job once the lease has expired. -/
def crashedSchedule (maxAttempts : Int) : List (System.Move Activity Choice) :=
  [.spawn (.enqueueConnectionSync maxAttempts 0 (text "job") (text "connection")),
    .advance 0 (.database []), .spawn (.work Worker.standard 1), .advance 1 (.instant 0),
    .advance 1 (.database []), .crash, .spawn (.work Worker.standard 1),
    .advance 2 (.instant (31 * second)), .advance 2 (.database [])]

theorem attempts_bounded_crashed : ∃ config,
    (fleet (Database.plain .sqlite) fun _ => true).Run (Spared (Database.plain .sqlite)) (empty 0)
      config ∧
    config.state.rows.map (fun row => (row.attempts, row.maxAttempts)) = [(2, 2)] ∧
    Bounded (Database.plain .sqlite) config := by
  have carried : ((fleet (Database.plain .sqlite) fun _ => true).execute
      (sparedTest (Database.plain .sqlite)) (crashedSchedule 2) (empty 0)).map (fun config =>
        config.state.rows.map fun row => (row.attempts, row.maxAttempts)) = some [(2, 2)] := by
    decide
  obtain ⟨config, reached, attempts⟩ := Option.map_eq_some_iff.mp carried
  have run := System.execute_run reached fun before label passed =>
    sparedTest_sound before label passed
  exact ⟨config, run, attempts, attempts_bounded run⟩

/-- A job that was enqueued for one attempt is granted twice. -/
theorem attempts_bounded_fails : ∃ config,
    (fleet (Database.plain .sqlite) fun _ => true).Run (fun _ _ => True) (empty 0) config ∧
    config.state.rows.map (fun row => (row.attempts, row.maxAttempts)) = [(2, 1)] ∧
    ¬ Bounded (Database.plain .sqlite) config := by
  have carried : ((fleet (Database.plain .sqlite) fun _ => true).execute (fun _ _ => true)
      (crashedSchedule 1) (empty 0)).map (fun config =>
        config.state.rows.map fun row => (row.attempts, row.maxAttempts)) = some [(2, 1)] := by
    decide
  obtain ⟨config, reached, attempts⟩ := Option.map_eq_some_iff.mp carried
  have run : (fleet (Database.plain .sqlite) fun _ => true).Run (fun _ _ => True) (empty 0)
      config := System.execute_run reached fun _ _ _ => trivial
  refine ⟨config, run, attempts, ?_⟩
  intro bounded
  have member : ((2, 1) : Int × Int) ∈
      config.state.rows.map fun row => (row.attempts, row.maxAttempts) := by
    rw [attempts]
    exact List.mem_cons_self
  obtain ⟨row, among, same⟩ := List.mem_map.mp member
  obtain ⟨often, limit⟩ := Prod.mk.inj same
  have within := bounded.attempts row among
  omega

end NodeAtlas.Jobs.Fleet
