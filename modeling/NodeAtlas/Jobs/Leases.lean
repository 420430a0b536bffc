import Mathlib.Data.List.Nodup
import NodeAtlas.Jobs.Repository
import NodeAtlas.Transactions.Conduct

/-! The life of a job row: the lease columns go with the status, attempts
count the leases granted, and a finished job stays as it is. -/

set_option autoImplicit false

namespace NodeAtlas.Jobs

open Interleaving Transactions

/-- Both lease columns are set exactly while the job runs. -/
structure Row.Shaped (row : Row) : Prop where
  owner : row.leaseOwner.isSome = true ↔ row.status = .running
  expiry : row.leaseExpiresAt.isSome = true ↔ row.status = .running

structure Row.Advances (old new : Row) : Prop where
  sameID : new.id = old.id
  active : old.status.active = true
  attempts : old.attempts ≤ new.attempts
  shaped : new.Shaped

def conduct (db : Database) (columns : Row → Bool) : Conduct (engine db columns) where
  lawful := Row.Shaped
  fresh row := row.Shaped ∧ row.attempts = 0
  advances := Row.Advances
  fresh_lawful _ fresh := fresh.1
  advances_lawful _ _ _ advances := advances.shaped
  advances_key old new advances := by simp [engine, advances.sameID]

theorem leased_advances (db : Database) {owner : GoString} {now expires : Instant} {row : Row}
    (active : row.status.active = true) : row.Advances (row.leased db owner now expires) where
  sameID := rfl
  active := active
  attempts := by
    simp only [Row.leased]
    omega
  shaped := ⟨by simp [Row.leased], by simp [Row.leased]⟩

theorem retried_advances (db : Database) {status : Status} {availableAt : Instant}
    {message : GoString} {row : Row} (running : row.status = .running)
    (ceased : status ≠ .running) : row.Advances (row.retried db status availableAt message) where
  sameID := rfl
  active := by simp [running, Status.active]
  attempts := by simp [Row.retried]
  shaped := ⟨by simp [Row.retried, ceased], by simp [Row.retried, ceased]⟩

theorem finished_advances (db : Database) {status : Status} {at_ : Instant}
    {message : GoString} {row : Row} (running : row.status = .running)
    (ceased : status ≠ .running) : row.Advances (row.finished db status at_ message) where
  sameID := rfl
  active := by simp [running, Status.active]
  attempts := by simp [Row.finished]
  shaped := ⟨by simp [Row.finished, ceased], by simp [Row.finished, ceased]⟩

theorem leasable_active {db : Database} {now : Instant} {row : Row}
    (chosen : (leasable db now).condition row = true) : row.status.active = true := by
  simp only [leasable, Bool.or_eq_true, Bool.and_eq_true, decide_eq_true_eq] at chosen
  rcases chosen with ⟨queued, _⟩ | ⟨running, _⟩
  · simp [queued, Status.active]
  · simp [running, Status.active]

/-! ## Every call keeps to the life of a job -/

abbrev JobEvent := Event (Statement Row GoString) Statement.Reply

section Rules

variable (db : Database) (columns : Row → Bool)

/-- The events of a transaction that has read `row` so that nobody else can
change it. -/
def Secured (row : Row) (events : List JobEvent) : Prop :=
  ∃ query, events = [⟨.selectForUpdate query, .ok (some row)⟩, ⟨.begin, .ok ()⟩] ∨
    db.singleConnection = true ∧
      events = [⟨.select query, .ok (some row)⟩, ⟨.begin, .ok ()⟩]

/-- The events of a transaction that has claimed `row`. -/
def Claimed (row : Row) (events : List JobEvent) : Prop :=
  ∃ guard owner now expires affected earlier, affected ≠ 0 ∧ Secured db row earlier ∧
    events = ⟨.update (db.collate row.id) guard (Row.leased db owner now expires), .ok affected⟩ ::
      earlier

/-- What the calls other than `LeaseNext` update leaves the attempts alone. -/
def CountKept (event : JobEvent) : Prop :=
  ∀ key guard change, event.call = .update key guard change →
    ∀ old : Row, (change old).attempts = old.attempts

def Call.leases : Call → Bool
  | .leaseNext _ _ _ => true
  | _ => false

/-- A lease is returned exactly by a `LeaseNext` that has committed its claim. -/
def Closing (call : Call) (events : List JobEvent) : Result → Prop
  | .leased (.ok lease) => call.leases = true ∧ ∃ row earlier,
      events = ⟨.commit, .ok ()⟩ :: earlier ∧ Claimed db row earlier ∧ lease.job.id = row.id
  | .leased (.error _) => call.leases = true ∧ ∀ event ∈ events, settles event = false
  | .written _ => call.leases = false

def audit : Audit (Statement Row GoString) Statement.Reply Call Result where
  fits := Answers
  rule call earlier event := (conduct db columns).Permits earlier event ∧
    (call.leases = false → CountKept event)
  closing := Closing db

end Rules

section Walk

variable {db : Database} {columns : Row → Bool} {earlier : List JobEvent}

/-- What a call returns once no commit of it has gone through. -/
private def Unsettled (events : List JobEvent) : Prop :=
  ∀ event ∈ events, settles event = false

private theorem Unsettled.cons {event : JobEvent} (unsettled : Unsettled earlier)
    (further : settles event = false) : Unsettled (event :: earlier) := by
  intro former member
  rcases List.mem_cons.mp member with rfl | before
  · exact further
  · exact unsettled former before

/-- What `LeaseNext` has done when it returns. -/
private def Leased (db : Database) (events : List JobEvent) : Except GoError Lease → Prop
  | .ok lease => ∃ row earlier, events = ⟨.commit, .ok ()⟩ :: earlier ∧ Claimed db row earlier ∧
      lease.job.id = row.id
  | .error _ => Unsettled events

private abbrev LeaseKept {Outcome : Type} (db : Database) (columns : Row → Bool)
    (closing : List JobEvent → Outcome → Prop) (earlier : List JobEvent)
    (program : Repository Outcome) : Prop :=
  program.Audited Answers
    (fun earlier event => (conduct db columns).Permits earlier event ∧
      (true = false → CountKept event)) closing earlier

private theorem endWith_lease (unclosed : Unclosed earlier) (unsettled : Unsettled earlier)
    (error : GoError) :
    LeaseKept db columns (Leased db) earlier (Client.endWith (.error error)) := by
  intro reply _
  exact ⟨⟨⟨unclosed, trivial⟩, by simp⟩, unsettled.cons rfl⟩

private theorem secured_begun {row : Row} (secured : Secured db row earlier) :
    Unclosed earlier ∧ Unsettled earlier ∧ (∀ former ∈ earlier, wrote former = false) := by
  obtain ⟨query, rfl | ⟨_, rfl⟩⟩ := secured
  all_goals exact ⟨by simp [Unclosed, closes], by simp [Unsettled, settles], by simp [wrote]⟩

private theorem claim_kept {owner : GoString} {now : Instant} {duration : Duration} {row : Row}
    (secured : Secured db row earlier) (active : row.status.active = true) :
    LeaseKept db columns (Leased db) earlier (claim db owner now duration row) := by
  obtain ⟨unclosed, unsettled, unwritten⟩ := secured_begun secured
  intro reply _
  refine ⟨⟨⟨unclosed, unwritten, ?_⟩, by simp⟩, ?_⟩
  · intro old keyed _ remembers
    have same : row = old := by
      obtain ⟨query, rfl | ⟨single, rfl⟩⟩ := secured
      · exact remembers.firm query row _ rfl keyed.symm
      · exact remembers.alone single query row _ rfl keyed.symm
    rw [← same]
    exact leased_advances db active
  · cases reply with
    | error failure => exact endWith_lease (unclosed.cons rfl) (unsettled.cons rfl) _
    | ok affected =>
        simp only [Program.bind]
        split
        · exact endWith_lease (unclosed.cons rfl) (unsettled.cons rfl) _
        · next one =>
            have changed : affected ≠ 0 := by omega
            intro committed _
            refine ⟨⟨⟨unclosed.cons rfl, trivial⟩, by simp⟩, ?_⟩
            cases committed with
            | error failure => exact (unsettled.cons rfl).cons rfl
            | ok _ =>
                exact ⟨row, _, rfl, ⟨_, _, _, _, _, _, changed, secured, rfl⟩, rfl⟩

private theorem leaseNext_kept (owner : GoString) (now : Instant) (duration : Duration) :
    LeaseKept db columns (Leased db) [] (leaseNext db owner now duration) := by
  intro reply _
  refine ⟨⟨⟨by simp [Unclosed], trivial⟩, by simp⟩, ?_⟩
  cases reply with
  | error failure =>
      intro event member
      rw [List.mem_singleton.mp member]
      rfl
  | ok begun =>
      have unclosed : Unclosed ([⟨.begin, .ok begun⟩] : List JobEvent) := unclosed_begin _
      have unsettled : Unsettled ([⟨.begin, .ok begun⟩] : List JobEvent) := by
        intro event member
        rw [List.mem_singleton.mp member]
        rfl
      cases dialect : db.dialect with
      | mysql =>
          simp only [Program.bind, selectLeasable, dialect]
          intro reply fit
          refine ⟨⟨⟨unclosed, trivial⟩, by simp⟩, ?_⟩
          rcases reply with failure | (_ | row)
          · exact endWith_lease (unclosed.cons rfl) (unsettled.cons rfl) _
          · exact endWith_lease (unclosed.cons rfl) (unsettled.cons rfl) _
          · exact claim_kept ⟨_, .inl rfl⟩ (leasable_active fit)
      | sqlite =>
          simp only [Program.bind, selectLeasable, dialect]
          intro reply fit
          refine ⟨⟨⟨unclosed, trivial⟩, by simp⟩, ?_⟩
          have single : db.singleConnection = true := by
            simp [Database.singleConnection, dialect]
          rcases reply with failure | (_ | row)
          · exact endWith_lease (unclosed.cons rfl) (unsettled.cons rfl) _
          · exact endWith_lease (unclosed.cons rfl) (unsettled.cons rfl) _
          · exact claim_kept ⟨_, .inr ⟨single, rfl⟩⟩ (leasable_active fit)

private abbrev WriteKept {Outcome : Type} (db : Database) (columns : Row → Bool)
    (earlier : List JobEvent) (program : Repository Outcome) : Prop :=
  program.Audited Answers
    (fun earlier event => (conduct db columns).Permits earlier event ∧
      (false = false → CountKept event)) (fun _ _ => True) earlier

private theorem countKept_other {event : JobEvent}
    (other : ∀ key guard change, event.call ≠ .update key guard change) : CountKept event :=
  fun key guard change is => absurd is (other key guard change)

private theorem endWith_write {Outcome : Type} (unclosed : Unclosed earlier) (outcome : Outcome) :
    WriteKept db columns earlier (Client.endWith outcome) := by
  intro reply _
  exact ⟨⟨⟨unclosed, trivial⟩, fun _ => countKept_other (by simp)⟩, trivial⟩

/-- One statement in a transaction of its own. -/
private theorem autocommit_kept {α : Type} {statement : Repository (Except Failure α)}
    (kept : ∀ begun, statement.Audited Answers
      (fun earlier event => (conduct db columns).Permits earlier event ∧
        (false = false → CountKept event)) (fun events _ => Unclosed events)
      [⟨.begin, .ok begun⟩]) :
    WriteKept db columns [] (Client.autocommit statement) := by
  intro reply _
  refine ⟨⟨⟨by simp [Unclosed], trivial⟩, fun _ => countKept_other (by simp)⟩, ?_⟩
  cases reply with
  | error failure => trivial
  | ok begun =>
      refine (kept begun).bind ?_
      intro events result unclosed
      cases result with
      | error failure => exact endWith_write unclosed _
      | ok value =>
          intro committed _
          refine ⟨⟨⟨unclosed, trivial⟩, fun _ => countKept_other (by simp)⟩, ?_⟩
          cases committed <;> trivial

private theorem enqueue_kept {job : Job} (queued : job.status = .queued)
    (unused : job.attempts = 0) : WriteKept db columns [] (enqueue db job) := by
  have statement : WriteKept db columns []
      (Client.autocommit (Client.insert (enqueuedRow db job))) := by
    refine autocommit_kept ?_
    intro begun reply _
    refine ⟨⟨⟨unclosed_begin _, ?_, unused⟩, fun _ => countKept_other (by simp)⟩,
      (unclosed_begin _).cons rfl⟩
    exact ⟨by simp [enqueuedRow, queued], by simp [enqueuedRow, queued]⟩
  refine statement.bind ?_
  intro events result _
  cases result <;> trivial

private theorem enqueueFor_kept (queue : Queue) (kind : Kind) (field message id : GoString) :
    WriteKept db columns [] (enqueueFor db queue kind field message id) := by
  unfold enqueueFor
  split
  · trivial
  · exact enqueue_kept rfl rfl

private theorem finish_kept (id owner : GoString) {status : Status} (ceased : status ≠ .running)
    (at_ : Instant) (message : GoString) :
    WriteKept db columns [] (finish db id owner status at_ message) := by
  have statement : WriteKept db columns [] (Client.autocommit (Client.update (db.collate id)
      (leasedBy db owner) (Row.finished db status at_ message))) := by
    refine autocommit_kept ?_
    intro begun reply _
    refine ⟨⟨⟨unclosed_begin _, ?_, ?_⟩, fun _ => ?_⟩, (unclosed_begin _).cons rfl⟩
    · intro former member
      rw [List.mem_singleton.mp member]
      rfl
    · intro old _ guarded _
      simp only [leasedBy, Bool.and_eq_true, decide_eq_true_eq] at guarded
      exact finished_advances db guarded.1 ceased
    · intro key guard change is old
      cases is
      rfl
  refine statement.bind ?_
  intro events result _
  cases result with
  | error failure => trivial
  | ok affected =>
      dsimp only
      split <;> trivial

private theorem requeue_kept (id owner : GoString) (availableAt : Instant) (message : GoString)
    (read : Row) (unclosed : Unclosed earlier) (unwritten : ∀ former ∈ earlier, wrote former = false) :
    WriteKept db columns earlier (requeue db id owner availableAt message read) := by
  intro reply _
  refine ⟨⟨⟨unclosed, unwritten, ?_⟩, fun _ => ?_⟩, ?_⟩
  · intro old _ guarded _
    simp only [leasedBy, Bool.and_eq_true, decide_eq_true_eq] at guarded
    refine retried_advances db guarded.1 ?_
    split <;> simp
  · intro key guard change is old
    cases is
    rfl
  · cases reply with
    | error failure => exact endWith_write (unclosed.cons rfl) _
    | ok affected =>
        change WriteKept db columns _ (if affected ≠ 1 then _ else _)
        by_cases lost : affected ≠ 1
        · rw [if_pos lost]
          exact endWith_write (unclosed.cons rfl) _
        · rw [if_neg lost]
          intro committed _
          refine ⟨⟨⟨unclosed.cons rfl, trivial⟩, fun _ => countKept_other (by simp)⟩, ?_⟩
          cases committed <;> trivial

private theorem retry_kept (id owner : GoString) (availableAt : Instant) (message : GoString) :
    WriteKept db columns [] (retry db id owner availableAt message) := by
  intro reply _
  refine ⟨⟨⟨by simp [Unclosed], trivial⟩, fun _ => countKept_other (by simp)⟩, ?_⟩
  cases reply with
  | error failure => trivial
  | ok begun =>
      have unclosed : Unclosed ([⟨.begin, .ok begun⟩] : List JobEvent) := unclosed_begin _
      intro reply _
      refine ⟨⟨⟨unclosed, trivial⟩, fun _ => countKept_other (by simp)⟩, ?_⟩
      rcases reply with failure | (_ | row)
      · exact endWith_write (unclosed.cons rfl) _
      · exact endWith_write (unclosed.cons rfl) _
      · exact requeue_kept id owner availableAt message row (unclosed.cons rfl) (by simp [wrote])

theorem repository_passes (db : Database) (columns : Row → Bool) :
    (audit db columns).Passed (repository db columns) (fun _ => True) where
  fitting _ _ _ _ _ _ ran := perform_answers ran
  audited call _ := by
    cases call with
    | enqueueConnectionSync queue connectionID =>
        exact (enqueueFor_kept queue _ _ _ connectionID).bind fun _ _ _ => rfl
    | enqueuePowerOperation queue operationID =>
        exact (enqueueFor_kept queue _ _ _ operationID).bind fun _ _ _ => rfl
    | leaseNext owner now duration =>
        refine (leaseNext_kept owner now duration).bind ?_
        intro events outcome leased
        cases outcome with
        | error error => exact ⟨rfl, leased⟩
        | ok lease => exact ⟨rfl, leased⟩
    | retry id owner availableAt message =>
        exact (retry_kept id owner availableAt message).bind fun _ _ _ => rfl
    | complete id owner at_ =>
        exact (finish_kept id owner (by simp) at_ []).bind fun _ _ _ => rfl
    | fail id owner at_ message =>
        exact (finish_kept id owner (by simp) at_ message).bind fun _ _ _ => rfl

end Walk

/-! ## Attempts count the leases -/

abbrev RepositoryConfig : Type :=
  Config (Statement Row GoString) Statement.Reply (Store Row) Call Result

abbrev JobThread : Type := Thread (Statement Row GoString) Statement.Reply Call Result

/-- The thread is a `LeaseNext` that has returned a lease of the job. -/
def granted (id : GoString) (thread : JobThread) : Bool :=
  match thread.outcome with
  | some (.leased (.ok lease)) => lease.job.id = id
  | _ => false

/-- How often `LeaseNext` has granted the job. -/
def grants (id : GoString) (config : RepositoryConfig) : Nat :=
  config.threads.countP (granted id)

structure Tally (config : RepositoryConfig) : Prop where
  counted : ∀ row ∈ config.state.table, row.attempts = grants row.id config
  known : ∀ thread ∈ config.threads, ∀ id, granted id thread = true →
    ∃ row ∈ config.state.table, row.id = id

section Tally

variable {db : Database} {columns : Row → Bool} {config : RepositoryConfig}

theorem granted_iff {id : GoString} {thread : JobThread} :
    granted id thread = true ↔
      ∃ lease, thread.outcome = some (.leased (.ok lease)) ∧ lease.job.id = id := by
  unfold granted
  split
  · next lease returned => simp [returned]
  · next other =>
      simp only [Bool.false_eq_true, false_iff, not_exists, not_and]
      intro lease returned
      exact absurd returned (other lease)

private theorem granted_active {id : GoString} {thread : JobThread}
    (live : thread.active = true) : granted id thread = false := by
  by_contra holds
  obtain ⟨lease, returned, _⟩ := granted_iff.mp (by simpa using holds)
  unfold Thread.outcome at returned
  unfold Thread.active at live
  split at returned
  · next rest => simp [rest] at live
  · cases returned

private theorem granted_kill {id : GoString} (thread : JobThread) :
    granted id thread.kill = granted id thread := by
  unfold Thread.kill
  split
  · next live =>
      rw [granted_active live]
      rfl
  · rfl

/-- Only the thread that moves can be granted a lease. -/
private theorem grants_advance {t : Nat} {thread : JobThread}
    (found : config.threads[t]? = some thread) (live : thread.active = true) {task : Call}
    {event : JobEvent} {rest : Repository Result} {store : Store Row} (id : GoString) :
    grants id (config.advance t task event rest store) =
      grants id config + if granted id ⟨task, some rest⟩ then 1 else 0 := by
  obtain ⟨bound, located⟩ := List.getElem?_eq_some_iff.mp found
  unfold grants Config.advance
  rw [List.countP_set bound, located, granted_active live]
  simp

/-- A lease is granted by the commit that comes last. -/
private theorem unsettled_ungranted {call : Call} {events : List JobEvent}
    {rest : Repository Result} (unsettled : ∀ last ∈ events.head?, settles last = false)
    (audited : rest.Audited Answers ((audit db columns).rule call) (Closing db call) events)
    (id : GoString) : granted id ⟨call, some rest⟩ = false := by
  by_contra holds
  obtain ⟨lease, returned, _⟩ := granted_iff.mp (by simpa using holds)
  unfold Thread.outcome at returned
  split at returned
  · next result done =>
      cases done
      cases returned
      obtain ⟨_, row, former, committed, _⟩ := audited
      have settled := unsettled ⟨.commit, .ok ()⟩ (by simp [committed])
      cases settled
  · cases returned

/-- A claim that has not been committed yet. -/
private theorem claimed_record (orderly : Orderly (audit db columns) (conduct db columns) config)
    {t : Nat} {thread : JobThread} (found : config.threads[t]? = some thread)
    (live : thread.active = true) {row : Row} (claimed : Claimed db row (own t config.history)) :
    ∃ record ∈ config.state.records, ∃ new, record.committed = some row ∧
      record.lock = some (t, some new) ∧ new.id = row.id ∧ new.attempts = row.attempts + 1 ∧
      ∀ other ∈ config.state.records, ∀ version, other.lock = some (t, some version) →
        other = record := by
  obtain ⟨guard, owner, now, expires, affected, earlier, changed, secured, events⟩ := claimed
  obtain ⟨record, stored, old, committed, keyed, _, locked, remembers⟩ :=
    orderly.conducted.kept t thread _ _ _ _ _ found live events changed
  have same : row = old := by
    obtain ⟨query, rfl | ⟨single, rfl⟩⟩ := secured
    · exact remembers.firm query row _ rfl keyed.symm
    · exact remembers.alone single query row _ rfl keyed.symm
  subst same
  refine ⟨record, stored, _, committed, locked, rfl, rfl, ?_⟩
  intro other among version held
  have origin := (orderly.conducted.proper other among).origin t version held
  rw [events] at origin
  obtain ⟨query, rfl | ⟨_, rfl⟩⟩ := secured
  all_goals
    generalize was : other.committed = former at origin
    cases origin with
    | inserted made => simp at made
    | @updated key _ _ _ old made matched =>
        simp only [List.mem_cons, Event.mk.injEq, Statement.update.injEq, reduceCtorEq, false_and,
          List.not_mem_nil, or_false] at made
        obtain ⟨⟨rfl, _⟩, _⟩ := made
        exact orderly.isolated.unrivalled.unique among stored
          (Stored.mem_versions.mpr (.inl was)) (Stored.mem_versions.mpr (.inl committed)) matched

/-- What a call other than `LeaseNext` commits has the attempts of before. -/
private theorem count_kept (orderly : Orderly (audit db columns) (conduct db columns) config)
    {t : Nat} {thread : JobThread} (found : config.threads[t]? = some thread)
    (other : thread.task.leases = false) {record : Stored Row}
    (member : record ∈ config.state.records) {new : Row} (locked : record.lock = some (t, some new)) :
    (record.committed = none ∧ new.attempts = 0) ∨
      ∃ old, record.committed = some old ∧ new.id = old.id ∧ new.attempts = old.attempts := by
  have origin := (orderly.conducted.proper record member).origin t new locked
  have growing := (orderly.conducted.proper record member).growing new (Stored.lock_pending locked)
  generalize was : record.committed = former at origin growing
  cases origin with
  | inserted made => exact .inl ⟨rfl, growing.2⟩
  | @updated _ _ change _ old made keyed guarded changed =>
      obtain ⟨earlier, ruled⟩ := (orderly.disciplined.obeyed t thread found).of_mem made
      have counted := ruled.2 other _ _ _ rfl old
      exact .inr ⟨old, rfl, growing.sameID, changed ▸ counted⟩

/-- Rows of one id are the same stored row. -/
private theorem record_unique (orderly : Orderly (audit db columns) (conduct db columns) config)
    {left right : Stored Row} (leftMember : left ∈ config.state.records)
    (rightMember : right ∈ config.state.records) {row other : Row} (leftVersion : row ∈ left.versions)
    (rightVersion : other ∈ right.versions) (same : row.id = other.id) : left = right :=
  orderly.isolated.unrivalled.unique leftMember rightMember leftVersion rightVersion
    (by simp [engine, same])

private theorem mem_table {store : Store Row} {row : Row} :
    row ∈ store.table ↔ ∃ record ∈ store.records, record.committed = some row := by
  simp [Store.table]

/-- An id that no committed row has was never leased. -/
private theorem Tally.ungranted (tally : Tally config) {id : GoString}
    (absent : ∀ row ∈ config.state.table, row.id ≠ id) : grants id config = 0 := by
  unfold grants
  rw [List.countP_eq_zero]
  intro thread member holds
  obtain ⟨row, stored, same⟩ := tally.known thread member id holds
  exact absent row stored same

/-- The table after a commit of `t`, whose own rows are counted apart. -/
private theorem Tally.settled (tally : Tally config) {t : Nat} (gain : GoString → Nat)
    (own : ∀ record ∈ config.state.records, ∀ new, record.lock = some (t, some new) →
      new.attempts = (grants new.id config : Int) + gain new.id)
    (others : ∀ record ∈ config.state.records, (∀ new, record.lock ≠ some (t, some new)) →
      ∀ row, record.committed = some row → gain row.id = 0) :
    ∀ row ∈ (config.state.records.map (Stored.settle t)).filterMap (·.committed),
      row.attempts = (grants row.id config : Int) + gain row.id := by
  intro row member
  obtain ⟨_, settled, committed⟩ := List.mem_filterMap.mp member
  obtain ⟨record, stored, rfl⟩ := List.mem_map.mp settled
  by_cases locked : ∃ new, record.lock = some (t, some new)
  · obtain ⟨new, held⟩ := locked
    rw [Stored.settle_locked held] at committed
    obtain rfl := Option.some.inj committed
    exact own record stored new held
  · have unlocked : ∀ new, record.lock ≠ some (t, some new) :=
      fun new held => locked ⟨new, held⟩
    rw [Stored.settle_unlocked unlocked] at committed
    rw [others record stored unlocked row committed, tally.counted row (mem_table.mpr
      ⟨record, stored, committed⟩)]
    simp

/-- The call that commits has returned, and what it may have returned. -/
private theorem committed_result {call : Call} {earlier : List JobEvent} {event : JobEvent}
    {rest : Repository Result} (settled : settles event = true)
    (audited : rest.Audited Answers ((audit db columns).rule call) (Closing db call)
      (event :: earlier)) :
    (call.leases = false ∧ ∀ id, granted id ⟨call, some rest⟩ = false) ∨
      ∃ row, Claimed db row earlier ∧
        ∀ id, granted id ⟨call, some rest⟩ = decide (row.id = id) := by
  have closed : closes event = true := by
    unfold settles at settled
    split at settled
    · rfl
    · cases settled
  obtain ⟨result, rfl, closing⟩ := audited.ceased answers_exists (by
    intro further ruled
    have unclosed := ruled.1.1 event List.mem_cons_self
    rw [closed] at unclosed
    cases unclosed)
  cases result with
  | written outcome => exact .inl ⟨closing, fun _ => rfl⟩
  | leased outcome =>
      cases outcome with
      | error error =>
          have unsettled := closing.2 event List.mem_cons_self
          rw [settled] at unsettled
          cases unsettled
      | ok lease =>
          obtain ⟨_, row, former, events, claimed, same⟩ := closing
          cases events
          refine .inr ⟨row, claimed, ?_⟩
          intro id
          simp [granted, Thread.outcome, same]

/-- A commit counts the lease it grants. -/
private theorem Tally.commit (orderly : Orderly (audit db columns) (conduct db columns) config)
    (tally : Tally config) {t : Nat} {call : Call} {statement : Statement Row GoString}
    {continuation : statement.Reply → Repository Result}
    (found : config.threads[t]? = some ⟨call, some (.call statement continuation)⟩)
    {event : JobEvent} {rest : Repository Result} (settled : settles event = true)
    (audited : rest.Audited Answers ((audit db columns).rule call) (Closing db call)
      (event :: own t config.history)) :
    ∀ row ∈ (config.state.records.map (Stored.settle t)).filterMap (·.committed),
      row.attempts = (grants row.id config : Int) +
        ((if granted row.id ⟨call, some rest⟩ then 1 else 0 : Nat) : Int) := by
  refine tally.settled (fun id => if granted id ⟨call, some rest⟩ then 1 else 0) ?_ ?_
  · intro record stored new locked
    rcases committed_result settled audited with ⟨other, ungranted⟩ | ⟨row, claimed, only⟩
    · rcases count_kept orderly found other stored locked with
        ⟨fresh, zero⟩ | ⟨old, was, same, count⟩
      · have absent : ∀ row ∈ config.state.table, row.id ≠ new.id := by
          intro old member equal
          obtain ⟨former, among, committed⟩ := mem_table.mp member
          have unique := record_unique orderly among stored
            (Stored.mem_versions.mpr (.inl committed))
            (Stored.mem_versions.mpr (.inr (Stored.lock_pending locked))) equal
          rw [unique, fresh] at committed
          cases committed
        simp [zero, tally.ungranted absent, ungranted]
      · have before := tally.counted old (mem_table.mpr ⟨record, stored, was⟩)
        simp [count, before, same, ungranted]
    · obtain ⟨holding, among, claim, was, held, same, count, sole⟩ :=
        claimed_record orderly found rfl claimed
      have equal := sole record stored new locked
      subst equal
      rw [held] at locked
      cases locked
      have before := tally.counted row (mem_table.mpr ⟨record, stored, was⟩)
      simp [count, before, same, only]
  · intro record stored unlocked row committed
    rcases committed_result settled audited with ⟨other, ungranted⟩ | ⟨leased, claimed, only⟩
    · simp [ungranted]
    · obtain ⟨holding, among, new, was, held, _⟩ := claimed_record orderly found rfl claimed
      have different : leased.id ≠ row.id := by
        intro equal
        have unique := record_unique orderly among stored
          (Stored.mem_versions.mpr (.inl was)) (Stored.mem_versions.mpr (.inl committed)) equal
        exact unlocked new (unique ▸ held)
      simp [only, different]

private theorem Tally.initial : Tally (Config.initial (Store.ofTable []) : RepositoryConfig) where
  counted row member := by simp [Config.initial, Store.ofTable, Store.table] at member
  known thread member := by simp [Config.initial] at member

private theorem Tally.spawn (tally : Tally config) (columns : Row → Bool) (task : Call) :
    Tally (config.spawn task (task.program db)) := by
  have audited := (repository_passes db columns).audited task trivial
  have ungranted : ∀ id, granted id ⟨task, some (task.program db)⟩ = false :=
    unsettled_ungranted (by simp) audited
  refine ⟨?_, ?_⟩
  · intro row member
    rw [tally.counted row member]
    simp [grants, Config.spawn, ungranted]
  · intro thread member id holds
    rcases List.mem_append.mp member with former | new
    · exact tally.known thread former id holds
    · rw [List.mem_singleton.mp new, ungranted id] at holds
      cases holds

private theorem Tally.crash (tally : Tally config) :
    Tally ((repository db columns).crash config) := by
  have same : config.state.recover.table = config.state.table := by
    simp [Store.table, Store.recover, List.filterMap_map]
  refine ⟨?_, ?_⟩
  · intro row member
    change row ∈ config.state.recover.table at member
    rw [same] at member
    rw [tally.counted row member]
    simp [grants, System.crash, List.countP_map, Function.comp_def, granted_kill]
  · intro thread member id holds
    obtain ⟨former, among, rfl⟩ := List.mem_map.mp member
    rw [granted_kill] at holds
    change ∃ row ∈ config.state.recover.table, row.id = id
    rw [same]
    exact tally.known former among id holds

/-- A job that a thread was granted stays in the table. -/
private theorem still_known {before after : List Row}
    (evolves : Evolves (conduct db columns) before after) {id : GoString}
    (known : ∃ row ∈ before, row.id = id) : ∃ row ∈ after, row.id = id := by
  obtain ⟨row, member, rfl⟩ := known
  obtain ⟨successor, later, from_⟩ := evolves.kept row member
  rcases from_ with rfl | advances
  · exact ⟨successor, later, rfl⟩
  · exact ⟨successor, later, advances.sameID⟩

private theorem Tally.advance (orderly : Orderly (audit db columns) (conduct db columns) config)
    (tally : Tally config) {t : Nat} {task : Call} {call : Statement Row GoString}
    {continuation : call.Reply → Repository Result} {fault : Bool} {reply : call.Reply}
    {store : Store Row}
    (found : config.threads[t]? = some ⟨task, some (.call call continuation)⟩)
    (answered : (engine db columns).perform t call fault config.state = some (reply, store)) :
    Tally (config.advance t task ⟨call, reply⟩ (continuation reply) store) := by
  have effect := perform_effect answered
  have audited := (orderly.disciplined.ahead t _ _ found rfl reply (perform_answers answered)).2
  have evolves : Evolves (conduct db columns) config.state.table store.table :=
    orderly.conducted.evolves (.performed found answered : (repository db columns).Transition _ _ _)
  have former : ∀ thread ∈ config.threads, ∀ id, granted id thread = true →
      ∃ row ∈ store.table, row.id = id :=
    fun thread member id holds => still_known evolves (tally.known thread member id holds)
  by_cases settled : settles (⟨call, reply⟩ : JobEvent) = true
  · refine ⟨?_, ?_⟩
    · intro row member
      have records := effect.settled_records settled
      change row ∈ store.records.filterMap (·.committed) at member
      rw [records] at member
      rw [grants_advance found rfl, Int.natCast_add]
      exact tally.commit orderly found settled audited row member
    · intro thread member id holds
      rcases List.mem_or_eq_of_mem_set member with old | rfl
      · exact former thread old id holds
      · rcases committed_result settled audited with ⟨_, ungranted⟩ | ⟨row, claimed, only⟩
        · rw [ungranted id] at holds
          cases holds
        · obtain ⟨record, among, _, was, _⟩ := claimed_record orderly found rfl claimed
          rw [only id, decide_eq_true_eq] at holds
          exact still_known evolves ⟨row, mem_table.mpr ⟨record, among, was⟩, holds⟩
  · have unsettled := Bool.eq_false_iff.mpr settled
    have same : store.table = config.state.table := effect.committed unsettled
    have ungranted := unsettled_ungranted (by simpa using unsettled) audited
    refine ⟨?_, ?_⟩
    · intro row member
      change row ∈ store.table at member
      rw [same] at member
      rw [grants_advance found rfl, ungranted, tally.counted row member]
      simp
    · intro thread member id holds
      rcases List.mem_or_eq_of_mem_set member with old | rfl
      · exact former thread old id holds
      · rw [ungranted id] at holds
        cases holds

end Tally

/-! ## The jobs table along a run -/

/-- Nothing stored yet and nobody connected. -/
def emptyTable : RepositoryConfig := Config.initial (Store.ofTable [])

/-- The lease columns agree with the status, ids are distinct, and attempts
count the leases that were granted. -/
structure Sound (config : RepositoryConfig) : Prop where
  shaped : ∀ row ∈ config.state.table, row.Shaped
  distinct : (config.state.table.map (·.id)).Nodup
  counted : ∀ row ∈ config.state.table, row.attempts = grants row.id config

section Run

variable {db : Database} {columns : Row → Bool} {config : RepositoryConfig}

theorem repository_orderly
    (reached : (repository db columns).Run (fun _ _ => True) emptyTable config) :
    Orderly (audit db columns) (conduct db columns) config := by
  refine Orderly.run (by simp) .nil (repository_passes db columns) ?_ reached ?_
  · intro _ earlier event ruled
    exact ruled.1
  · intro _ _ _
    trivial

theorem repository_tally
    (reached : (repository db columns).Run (fun _ _ => True) emptyTable config) :
    Tally config := by
  refine System.Run.invariant reached Tally.initial ?_
  intro before label after former transition _ tally
  cases transition with
  | spawned task => exact tally.spawn columns task
  | performed found answered => exact tally.advance (repository_orderly former) found answered
  | external acted => cases acted
  | crashed => exact tally.crash

theorem repository_sound
    (reached : (repository db columns).Run (fun _ _ => True) emptyTable config) :
    Sound config where
  shaped := (repository_orderly reached).conducted.table_lawful
  distinct := by
    rw [List.Nodup, List.pairwise_map]
    refine (repository_orderly reached).isolated.unrivalled.table.imp ?_
    intro left right apart same
    simp [engine, same, Database.same_refl] at apart
  counted := (repository_tally reached).counted

/-- What any later table keeps of a job row. -/
structure Outlives (before after : RepositoryConfig) : Prop where
  growing : ∀ row ∈ before.state.table, ∃ successor ∈ after.state.table,
    successor.id = row.id ∧ row.attempts ≤ successor.attempts
  ceased : ∀ row ∈ before.state.table, row.status.finished = true →
    row ∈ after.state.table ∧ grants row.id after = grants row.id before

private theorem Outlives.trans {first second third : RepositoryConfig}
    (earlier : Outlives first second) (later : Outlives second third) : Outlives first third where
  growing row member := by
    obtain ⟨middle, among, same, grown⟩ := earlier.growing row member
    obtain ⟨last, within, equal, further⟩ := later.growing middle among
    exact ⟨last, within, equal.trans same, Int.le_trans grown further⟩
  ceased row member finished := by
    obtain ⟨kept, count⟩ := earlier.ceased row member finished
    obtain ⟨still, further⟩ := later.ceased row kept finished
    exact ⟨still, further.trans count⟩

private theorem evolves_outlives {before after : RepositoryConfig}
    (evolves : Evolves (conduct db columns) before.state.table after.state.table)
    (tally : Tally before) (further : Tally after) : Outlives before after where
  growing row member := by
    obtain ⟨successor, later, from_⟩ := evolves.kept row member
    rcases from_ with rfl | advances
    · exact ⟨successor, later, rfl, Int.le_refl _⟩
    · exact ⟨successor, later, advances.sameID, advances.attempts⟩
  ceased row member finished := by
    obtain ⟨successor, later, from_⟩ := evolves.kept row member
    have unchanged : successor = row := by
      rcases from_ with same | advances
      · exact same
      · have active := advances.active
        cases was : row.status <;> simp [was, Status.finished, Status.active] at finished active
    subst unchanged
    have count := (tally.counted successor member).symm.trans (further.counted successor later)
    exact ⟨later, by omega⟩

/-- Along every run of enqueues, leases, retries and completions, with faults
and crashes: a row runs exactly while both lease columns are set, its attempts
are the leases granted and never fall, and a finished row stays as it is and is
not leased again. -/
theorem job_rows_sound {later : List RepositoryConfig}
    (trail : (repository db columns).Trail (fun _ _ => True) emptyTable later) :
    (∀ visited ∈ emptyTable :: later, Sound visited) ∧
      (emptyTable :: later).Pairwise Outlives := by
  refine ⟨?_, ?_⟩
  · intro visited member
    exact repository_sound (trail.reached visited member)
  · refine trail.pairwise (fun _ _ _ => Outlives.trans) ?_
    intro before label after reached transition _
    exact evolves_outlives ((repository_orderly reached).conducted.evolves transition)
      (repository_tally reached) (repository_tally (reached.snoc transition trivial))

end Run

/-- A job is enqueued, leased and completed. -/
def completedSchedule : List (System.Move Call Bool) :=
  [.spawn (.enqueuePowerOperation (newQueue 0 1 (text "job")) (text "operation")),
    .advance 0 false, .advance 0 false, .advance 0 false,
    .spawn (.leaseNext (text "worker") 2 30),
    .advance 1 false, .advance 1 false, .advance 1 false, .advance 1 false,
    .spawn (.complete (text "job") (text "worker") 3),
    .advance 2 false, .advance 2 false, .advance 2 false]

theorem job_rows_sound_completed :
    ∃ later, (repository (Database.plain .sqlite) fun _ => true).replay (fun _ => true)
        completedSchedule emptyTable = some later ∧
      later.getLast?.map (fun config => config.state.table.map (·.status)) =
        some [.succeeded] ∧
      (∀ visited ∈ emptyTable :: later, Sound visited) ∧
      (emptyTable :: later).Pairwise Outlives := by
  have carried : ((repository (Database.plain .sqlite) fun _ => true).replay (fun _ => true)
      completedSchedule emptyTable).isSome = true := by decide
  obtain ⟨later, replayed⟩ := Option.isSome_iff_exists.mp carried
  have reached : (((repository (Database.plain .sqlite) fun _ => true).replay (fun _ => true)
      completedSchedule emptyTable).bind fun later =>
        later.getLast?.map fun config => config.state.table.map (·.status)) =
      some [.succeeded] := by decide
  rw [replayed] at reached
  have trail := System.replay_trail replayed fun _ _ _ => trivial
  exact ⟨later, replayed, reached, job_rows_sound trail⟩

end NodeAtlas.Jobs
