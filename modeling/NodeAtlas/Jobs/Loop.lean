import NodeAtlas.Interleaving.Traces
import NodeAtlas.Jobs.Fleet

/-! How the loop of a worker ends, whatever others do to the jobs table between
its calls and whenever its context is cancelled. -/

set_option autoImplicit false

namespace NodeAtlas.Jobs

open Interleaving Transactions

/-! ## What the repository returns -/

/-- An error of the driver, as the repository passes it on. -/
def Raised (db : Database) (error : GoError) : Prop :=
  ∃ failure, error = db.failed failure ∨ ∃ context, error = .wrapped context (db.failed failure)

theorem Raised.not_noJob {db : Database} {error : GoError} (raised : Raised db error) :
    error.is .noJob = false := by
  obtain ⟨failure, same | ⟨context, same⟩⟩ := raised
  · rw [same]
    rfl
  · rw [same]
    rfl

/-- The job of an id is running under a name. -/
def Holds (db : Database) (rows : List Row) (id owner : GoString) : Prop :=
  ∃ row ∈ rows, db.same row.id id = true ∧ leasedBy db owner row = true

section Errors

variable {db : Database} {columns : Row → Bool} {rows after : List Row} {faults : List Bool}
  {store final : Store Row} {error : GoError}

private theorem claim_errors {owner : GoString} {now : Instant} {duration : Duration} {row : Row}
    (apart : rows.Pairwise fun left right => (engine db columns).clash left right = false)
    (member : row ∈ rows) (clean : (engine db columns).Clean rows store)
    (ran : (claim db owner now duration row).alone (engine db columns) faults store =
      some (.error error, final)) : Raised db error := by
  obtain ⟨reply, middle, answered, rest⟩ := Client.alone_call ran
  rcases clean.update apart answered with ⟨⟨failure, rfl⟩, still⟩ | ⟨rfl, still, absent⟩ |
      ⟨_, _, _, _, rfl, ready⟩
  · obtain ⟨same, _⟩ := still.ready.endWith rest
    cases same
    exact ⟨failure, .inr ⟨_, rfl⟩⟩
  · have guarded : true = false := absent row member rfl
    cases guarded
  · obtain ⟨committed, _, closed, closing⟩ := Client.alone_call rest
    cases committed with
    | error failure =>
        cases closing
        exact ⟨failure, .inl rfl⟩
    | ok _ => cases closing

theorem leaseNext_errors {owner : GoString} {now : Instant} {duration : Duration}
    (apart : rows.Pairwise fun left right => (engine db columns).clash left right = false)
    (ran : (engine db columns).transact (leaseNext db owner now duration) faults rows =
      some (.error error, after)) : error = .sentinel .noJob ∨ Raised db error := by
  obtain ⟨final, alone, rfl⟩ := transact_alone ran
  obtain ⟨reply, begun, answered, rest⟩ := Client.alone_call alone
  rcases begin_alone answered with ⟨rfl, _⟩ | ⟨rfl, clean⟩
  · cases rest
    exact .inr ⟨_, .inl rfl⟩
  · change Client.alone _ (selectLeasable _ _ >>= _) _ _ = _ at rest
    obtain ⟨found, middle, later, looked, closing⟩ := Client.alone_bind rest
    obtain ⟨outcome, still⟩ := selectLeasable_alone clean looked
    rcases outcome with rfl | rfl
    · obtain ⟨same, _⟩ := still.ready.endWith closing
      cases same
      exact .inr ⟨_, .inr ⟨_, rfl⟩⟩
    · cases picked : (leasable db now).pick rows with
      | none =>
          rw [picked] at closing
          obtain ⟨same, _⟩ := still.ready.endWith closing
          cases same
          exact .inl rfl
      | some row =>
          rw [picked] at closing
          exact .inr (claim_errors apart (Query.pick_mem picked).1 still closing)

section Settling

variable {id owner : GoString}
  (apart : rows.Pairwise fun left right => (engine db columns).clash left right = false)

include apart

private theorem update_affects {change : Row → Row} {fault : Bool} {reply : Except Failure Nat}
    (clean : (engine db columns).Clean rows store)
    (ran : (engine db columns).perform 0 (.update (db.collate id) (leasedBy db owner) change) fault store =
      some (reply, final)) :
    (∃ failure, reply = .error failure) ∨ reply = .ok 1 ∨ reply = .ok 0 ∧ ¬ Holds db rows id owner := by
  rcases clean.update apart ran with ⟨failed, _⟩ | ⟨none, _, absent⟩ | ⟨_, _, _, _, one, _⟩
  · exact .inl failed
  · refine .inr (.inr ⟨none, ?_⟩)
    rintro ⟨row, member, matched, leased⟩
    have keyed : (engine db columns).key row = db.collate id := by
      simpa [engine, Database.same] using matched
    rw [absent row member keyed] at leased
    cases leased
  · exact .inr (.inl one)

theorem finish_errors {status : Status} {at_ : Instant} {message : GoString}
    (ran : (engine db columns).transact (finish db id owner status at_ message) faults rows =
      some (.error error, after)) :
    Raised db error ∨ error = .sentinel .leaseLost ∧ ¬ Holds db rows id owner := by
  obtain ⟨final, alone, rfl⟩ := transact_alone ran
  obtain ⟨written, middle, later, updated, rest⟩ := Client.alone_bind alone
  have outcome : (∃ failure, written = .error failure) ∨ written = .ok 1 ∨
      written = .ok 0 ∧ ¬ Holds db rows id owner := by
    obtain ⟨reply, begun, answered, further⟩ := Client.alone_call updated
    rcases begin_alone answered with ⟨rfl, _⟩ | ⟨rfl, clean⟩
    · cases further
      exact .inl ⟨_, rfl⟩
    · obtain ⟨affected, changed, ran, closing⟩ := Client.alone_call further
      cases affected with
      | error failure =>
          obtain ⟨_, _, _, ended⟩ := Client.alone_call closing
          cases ended
          exact .inl ⟨_, rfl⟩
      | ok count =>
          obtain ⟨committed, _, _, ended⟩ := Client.alone_call closing
          cases committed with
          | error failure =>
              cases ended
              exact .inl ⟨_, rfl⟩
          | ok _ =>
              cases ended
              exact update_affects apart clean ran
  obtain ⟨failure, rfl⟩ | rfl | ⟨rfl, lost⟩ := outcome
  · cases rest
    exact .inl ⟨failure, .inl rfl⟩
  · cases rest
  · cases rest
    exact .inr ⟨rfl, lost⟩

theorem retry_errors {availableAt : Instant} {message : GoString}
    (ran : (engine db columns).transact (retry db id owner availableAt message) faults rows =
      some (.error error, after)) :
    Raised db error ∨ error = .sentinel .leaseLost ∧ ¬ Holds db rows id owner := by
  obtain ⟨final, alone, rfl⟩ := transact_alone ran
  obtain ⟨reply, begun, answered, rest⟩ := Client.alone_call alone
  rcases begin_alone answered with ⟨rfl, _⟩ | ⟨rfl, clean⟩
  · cases rest
    exact .inl ⟨_, .inl rfl⟩
  · obtain ⟨found, middle, looked, closing⟩ := Client.alone_call rest
    obtain ⟨outcome, still⟩ := clean.select looked
    rcases outcome with rfl | rfl
    · obtain ⟨same, _⟩ := still.ready.endWith closing
      cases same
      exact .inl ⟨_, .inl rfl⟩
    · rw [Query.pick_filtered] at closing
      cases located : rows.find? fun row => db.same row.id id && leasedBy db owner row with
      | none =>
          rw [located] at closing
          obtain ⟨same, _⟩ := still.ready.endWith closing
          cases same
          refine .inr ⟨rfl, ?_⟩
          rintro ⟨row, member, matched, leased⟩
          have missed := List.find?_eq_none.mp located row member
          rw [matched, leased] at missed
          exact absurd rfl missed
      | some read =>
          rw [located] at closing
          obtain ⟨affected, written, changed, rest⟩ := Client.alone_call closing
          rcases update_affects apart still changed with ⟨failure, rfl⟩ | rfl | ⟨rfl, lost⟩
          · obtain ⟨_, _, _, ended⟩ := Client.alone_call rest
            cases ended
            exact .inl ⟨failure, .inl rfl⟩
          · obtain ⟨committed, _, _, ended⟩ := Client.alone_call rest
            cases committed with
            | error failure =>
                cases ended
                exact .inl ⟨failure, .inl rfl⟩
            | ok _ => cases ended
          · obtain ⟨_, _, _, ended⟩ := Client.alone_call rest
            cases ended
            exact .inr ⟨rfl, lost⟩

end Settling

end Errors

/-! ## The loop -/

/-- `Worker.Run` over so many cycles; nothing when they are used up and it has
not returned. -/
def Worker.loop {m : Type → Type} [Monad m] (host : Host m) (worker : Worker) (pause : m Bool) :
    Nat → m (Option (Except GoError Unit))
  | 0 => return none
  | cycles + 1 => do
      match ← worker.runOnce host with
      | .ok () => loop host worker pause cycles
      | .error failure =>
          if failure.is .noJob then
            if ← pause then return some (.ok ()) else loop host worker pause cycles
          else return some (.error failure)

theorem Worker.run_loop {m : Type → Type} [Monad m] [LawfulMonad m] (host : Host m) (worker : Worker)
    (pause : m Bool) (cycles : Nat) :
    worker.run host pause cycles = (·.getD (.ok ())) <$> worker.loop host pause cycles := by
  induction cycles with
  | zero => simp [run, loop]
  | succ cycles ih =>
      simp only [run, loop, map_bind]
      congr 1
      funext result
      cases result with
      | ok _ => exact ih
      | error failure =>
          dsimp only
          split
          · rw [map_bind]
            congr 1
            funext stopped
            cases stopped with
            | true => simp
            | false => exact ih
          · simp

namespace Fleet.Loop

/-- The jobs table, and whether the context of the worker is cancelled. -/
structure Shared where
  rows : List Row
  cancelled : Bool

/-- The handler and the clock answer what they like. Under a cancelled context
a database call fails at its first statement. The wait ends with the context,
or with its timer. -/
def perform (db : Database) (columns : Row → Bool) (call : Call) (choice : Choice) (state : Shared) :
    Option (call.Reply × Shared) :=
  match call, choice with
  | .now, .instant value => some (value, state)
  | .repository call, .database faults =>
      if state.cancelled && faults.head? ≠ some true then none
      else ((engine db columns).transact (call.client db) faults state.rows).map fun (reply, rows) =>
        (reply, { state with rows := rows })
  | .handle _, .handled result => some (result, state)
  | .pause, .cancelled stopped => if stopped && !state.cancelled then none else some (stopped, state)
  | _, _ => none

/-- What goes on between two calls of a worker: anything at all with the table,
as long as its ids stay unique, and a context that stays cancelled. -/
structure Concurrent (db : Database) (columns : Row → Bool) (before after : Shared) : Prop where
  cancelled : before.cancelled = true → after.cancelled = true
  apart : after.rows.Pairwise fun left right => (engine db columns).clash left right = false

abbrev Instance : Type := Moment Call Call.Reply Shared

/-- The error of a database call. -/
def refusal : FleetEvent → Option GoError
  | ⟨.repository (.leaseNext _ _ _), .error failure⟩ => some failure
  | ⟨.repository (.retry _ _ _ _), .error failure⟩ => some failure
  | ⟨.repository (.complete _ _ _), .error failure⟩ => some failure
  | ⟨.repository (.fail _ _ _ _), .error failure⟩ => some failure
  | _ => none

/-- The database itself failed a call. -/
def Failed (db : Database) (event : FleetEvent) : Prop :=
  ∃ failure, refusal event = some failure ∧ Raised db failure

/-- The context is not cancelled when the database is called, and a job that is
settled is still held unless the database fails the call. -/
structure Calm (db : Database) (moment : Instance) : Prop where
  alive : ∀ call, moment.event.call = .repository call → moment.state.cancelled = false
  held : ∀ id owner, settling moment.event.call = some (id, owner) →
    Holds db moment.state.rows id owner ∨ Failed db moment.event

/-- The last call was one to the database, and it failed in a context that was
not cancelled. -/
structure Broken (db : Database) (moments : List Instance) (failure : GoError) (final : Shared) : Prop where
  raised : Raised db failure
  last : ∃ moment, moments.getLast? = some moment ∧ refusal moment.event = some failure
  alive : final.cancelled = false

section Endings

variable {db : Database} {columns : Row → Bool} {worker : Worker} {state final : Shared}
  {moments : List Instance}

private theorem repository_answered {call : Jobs.Call} {choice : Choice} {reply : call.Reply} {next : Shared}
    (ran : perform db columns (.repository call) choice state = some (reply, next)) :
    ∃ faults, (engine db columns).transact (call.client db) faults state.rows = some (reply, next.rows) ∧
      next.cancelled = state.cancelled := by
  cases choice with
  | database faults =>
      simp only [perform] at ran
      split at ran
      · cases ran
      · obtain ⟨⟨_, rows⟩, transacted, same⟩ := Option.map_eq_some_iff.mp ran
        cases same
        exact ⟨faults, transacted, rfl⟩
  | _ => cases ran

/-- A call that does not find the worker without its job fails because of the
database, or there was no job to lease. -/
private theorem refusal_raised {call : Jobs.Call} {choice : Choice} {reply : call.Reply} {next : Shared}
    (apart : state.rows.Pairwise fun left right => (engine db columns).clash left right = false)
    (calm : Calm db ⟨state, ⟨.repository call, reply⟩⟩)
    (ran : perform db columns (.repository call) choice state = some (reply, next)) {failure : GoError}
    (refused : refusal ⟨.repository call, reply⟩ = some failure) :
    Raised db failure ∨ failure = .sentinel .noJob ∧ settling (.repository call) = none := by
  obtain ⟨faults, transacted, _⟩ := repository_answered ran
  cases call with
  | enqueueConnectionSync | enqueuePowerOperation => cases refused
  | leaseNext =>
      cases reply with
      | ok _ => cases refused
      | error _ =>
          cases refused
          cases leaseNext_errors apart transacted with
          | inl none => exact .inr ⟨none, rfl⟩
          | inr raised => exact .inl raised
  | retry id owner =>
      cases reply with
      | ok _ => cases refused
      | error _ =>
          cases refused
          cases calm.held id owner rfl with
          | inl held =>
              cases retry_errors apart transacted with
              | inl raised => exact .inl raised
              | inr lost => exact absurd held lost.2
          | inr failed =>
              obtain ⟨_, same, raised⟩ := failed
              cases same
              exact .inl raised
  | complete id owner | fail id owner =>
      cases reply with
      | ok _ => cases refused
      | error _ =>
          cases refused
          cases calm.held id owner rfl with
          | inl held =>
              cases finish_errors apart transacted with
              | inl raised => exact .inl raised
              | inr lost => exact absurd held lost.2
          | inr failed =>
              obtain ⟨_, same, raised⟩ := failed
              cases same
              exact .inl raised

private theorem Broken.after {later : List Instance} {failure : GoError} (broken : Broken db later failure final)
    (earlier : List Instance) : Broken db (earlier ++ later) failure final := by
  obtain ⟨last, located, refuses⟩ := broken.last
  refine ⟨broken.raised, ⟨last, ?_, refuses⟩, broken.alive⟩
  rw [List.getLast?_append, located]
  rfl

private theorem broken_after {later : List Instance} {result : Except GoError Unit} (earlier : List Instance)
    (ended : ∃ failure, result = .error failure ∧ Broken db later failure final) :
    ∃ failure, result = .error failure ∧ Broken db (earlier ++ later) failure final := by
  obtain ⟨failure, refused, broken⟩ := ended
  exact ⟨failure, refused, broken.after earlier⟩

/-- The last call of a cycle. -/
private theorem settled {call : Jobs.Call} {next : call.Reply → Process (Except GoError Unit)}
    {result : Except GoError Unit}
    (settles : (settling (.repository call)).isSome = true)
    (returns : ∀ reply, ∃ result, next reply = .done result ∧
      ∀ failure, result = .error failure → refusal ⟨.repository call, reply⟩ = some failure)
    (traces : Program.Traces (perform db columns) (Concurrent db columns)
      (.call (.repository call) next) state moments (.done result) final)
    (calm : ∀ moment ∈ moments, Calm db moment) :
    result = .ok () ∨ ∃ failure, result = .error failure ∧ Broken db moments failure final := by
  obtain ⟨choice, between, reply, after, later, changed, answered, rfl, rest⟩ := traces.call
  obtain ⟨value, known, refuses⟩ := returns reply
  rw [known] at rest
  obtain ⟨rfl, same, rfl⟩ := rest.done
  cases same
  have calmly := calm _ List.mem_cons_self
  cases result with
  | ok _ => exact .inl rfl
  | error failure =>
      have refused := refuses failure rfl
      refine .inr ⟨failure, rfl, ?_, ⟨_, rfl, refused⟩, ?_⟩
      · cases refusal_raised changed.apart calmly answered refused with
        | inl raised => exact raised
        | inr unsettled =>
            rw [unsettled.2] at settles
            cases settles
      · obtain ⟨_, _, unchanged⟩ := repository_answered answered
        rw [unchanged]
        exact calmly.alive call rfl

private theorem settle_ends {lease : Lease} {handled result : Except GoError Unit}
    (traces : Program.Traces (perform db columns) (Concurrent db columns)
      (worker.settle host lease handled) state moments (.done result) final)
    (calm : ∀ moment ∈ moments, Calm db moment) :
    result = .ok () ∨ ∃ failure, result = .error failure ∧ Broken db moments failure final := by
  cases handled with
  | ok _ =>
      obtain ⟨_, _, _, _, later, _, _, rfl, rest⟩ := traces.call
      have calmLater := fun moment member => calm moment (List.mem_cons_of_mem _ member)
      refine Or.imp_right (broken_after [_]) (settled rfl ?_ rest calmLater)
      intro reply
      refine ⟨reply, rfl, ?_⟩
      rintro failure rfl
      rfl
  | error failure =>
      obtain ⟨_, _, _, _, later, _, _, rfl, rest⟩ := traces.call
      have calmLater := fun moment member => calm moment (List.mem_cons_of_mem _ member)
      change Program.Traces _ _ (if failure.retryable = true then _ else _) _ _ _ _ at rest
      split at rest
      · refine Or.imp_right (broken_after [_]) (settled rfl ?_ rest calmLater)
        intro reply
        refine ⟨reply, rfl, ?_⟩
        rintro failure rfl
        rfl
      · refine Or.imp_right (broken_after [_]) (settled rfl ?_ rest calmLater)
        intro reply
        refine ⟨reply, rfl, ?_⟩
        rintro failure rfl
        rfl

/-- A cycle ends well, or without a job, or with a failed call to the database. -/
theorem runOnce_ends {result : Except GoError Unit}
    (traces : Program.Traces (perform db columns) (Concurrent db columns)
      (worker.runOnce host) state moments (.done result) final)
    (calm : ∀ moment ∈ moments, Calm db moment) :
    result = .ok () ∨ result = .error (.sentinel .noJob) ∨
      ∃ failure, result = .error failure ∧ Broken db moments failure final := by
  obtain ⟨_, _, now, _, later, _, _, rfl, rest⟩ := traces.call
  obtain ⟨_, between, reply, after, further, changed, answered, rfl, handling⟩ := rest.call
  have calmly := calm _ (List.mem_cons_of_mem _ List.mem_cons_self)
  cases reply with
  | error failure =>
      obtain ⟨rfl, same, rfl⟩ := handling.done
      cases same
      have refused : refusal ⟨.repository (.leaseNext worker.owner now worker.leaseDuration), .error failure⟩ =
          some failure := rfl
      obtain ⟨_, _, unchanged⟩ := repository_answered answered
      cases refusal_raised changed.apart calmly answered refused with
      | inl raised =>
          have alive : final.cancelled = false := by
            rw [unchanged]
            exact calmly.alive _ rfl
          exact .inr (.inr ⟨failure, rfl, raised, ⟨_, rfl, refused⟩, alive⟩)
      | inr none => exact .inr (.inl (congrArg Except.error none.1))
  | ok lease =>
      obtain ⟨_, _, handled, _, settling, _, _, rfl, closing⟩ := handling.call
      have calmLater : ∀ moment ∈ settling, Calm db moment := by
        intro moment member
        exact calm moment (List.mem_cons_of_mem _ (List.mem_cons_of_mem _ (List.mem_cons_of_mem _ member)))
      cases settle_ends closing calmLater with
      | inl fine => exact .inl fine
      | inr ended => exact .inr (.inr (broken_after [_, _, _] ended))

/-- The loop ends with its context, or with a failed call to the database. -/
theorem loop_ends {cycles : Nat} {result : Except GoError Unit}
    (traces : Program.Traces (perform db columns) (Concurrent db columns)
      (worker.loop host (call .pause) cycles) state moments (.done (some result)) final)
    (calm : ∀ moment ∈ moments, Calm db moment) :
    result = .ok () ∧ final.cancelled = true ∨
      ∃ failure, result = .error failure ∧ Broken db moments failure final := by
  induction cycles generalizing state moments with
  | zero => cases traces.done.2.1
  | succ cycles ih =>
      obtain ⟨value, middle, before, after, rfl, once, rest⟩ := traces.bind
      have calmBefore : ∀ moment ∈ before, Calm db moment :=
        fun moment member => calm moment (List.mem_append_left _ member)
      have calmAfter : ∀ moment ∈ after, Calm db moment :=
        fun moment member => calm moment (List.mem_append_right _ member)
      obtain rfl | rfl | ⟨failure, rfl, broken⟩ := runOnce_ends once calmBefore
      · exact Or.imp_right (broken_after before) (ih rest calmAfter)
      · obtain ⟨choice, between, stopped, later, pausing, changed, answered, rfl, further⟩ := rest.call
        cases stopped with
        | true =>
            obtain ⟨rfl, same, rfl⟩ := further.done
            cases same
            cases choice with
            | cancelled =>
                simp only [perform] at answered
                split at answered
                · cases answered
                · next alive =>
                    cases answered
                    exact .inl ⟨rfl, by simpa using alive⟩
            | _ => cases answered
        | false =>
            have ended := ih further fun moment member => calmAfter moment (List.mem_cons_of_mem _ member)
            rw [List.append_cons]
            exact Or.imp_right (broken_after _) ended
      · change Program.Traces _ _ (if failure.is .noJob = true then _ else _) _ _ _ _ at rest
        rw [broken.raised.not_noJob] at rest
        obtain ⟨rfl, same, rfl⟩ := Program.Traces.done rest
        cases same
        rw [List.append_nil]
        exact .inr ⟨failure, rfl, broken⟩

/-! ### The other way round -/

/-- The calls that a worker makes. -/
private def working : Call → Bool
  | .repository (.enqueueConnectionSync _ _) | .repository (.enqueuePowerOperation _ _) => false
  | _ => true

private theorem runOnce_working {earlier : List FleetEvent} :
    (worker.runOnce host).Audited (fun _ => True) (fun _ event => working event.call = true)
      (fun _ _ => True) earlier := by
  intro now _
  refine ⟨rfl, ?_⟩
  intro reply _
  refine ⟨rfl, ?_⟩
  cases reply with
  | error failure => trivial
  | ok lease =>
      intro handled _
      refine ⟨rfl, ?_⟩
      cases handled with
      | ok _ => exact fun _ _ => ⟨rfl, fun _ _ => ⟨rfl, trivial⟩⟩
      | error failure =>
          intro now _
          refine ⟨rfl, ?_⟩
          change Program.Audited _ _ _ _ (if failure.retryable = true then _ else _)
          split
          · exact fun _ _ => ⟨rfl, trivial⟩
          · exact fun _ _ => ⟨rfl, trivial⟩

private theorem loop_working (cycles : Nat) {earlier : List FleetEvent} :
    (worker.loop host (call .pause) cycles).Audited (fun _ => True)
      (fun _ event => working event.call = true) (fun _ _ => True) earlier := by
  induction cycles generalizing earlier with
  | zero => trivial
  | succ cycles ih =>
      apply runOnce_working.bind
      intro events result _
      cases result with
      | ok _ => exact ih
      | error failure =>
          dsimp only
          split
          · intro stopped _
            refine ⟨rfl, ?_⟩
            cases stopped with
            | true => trivial
            | false => exact ih
          · trivial

/-- Nothing reaches the database in a cancelled context. -/
private theorem cancelled_failed {call : Jobs.Call} {choice : Choice} {reply : call.Reply} {next : Shared}
    (worked : working (.repository call) = true) (cancelled : state.cancelled = true)
    (ran : perform db columns (.repository call) choice state = some (reply, next)) :
    Failed db ⟨.repository call, reply⟩ := by
  cases choice with
  | database faults =>
      simp only [perform, cancelled, Bool.true_and] at ran
      split at ran
      · cases ran
      · next first =>
          have faulty : faults.head? = some true := by simpa using first
          obtain ⟨more, rfl⟩ : ∃ more, faults = true :: more := by
            cases faults with
            | nil => cases faulty
            | cons fault more =>
                cases faulty
                exact ⟨more, rfl⟩
          obtain ⟨⟨_, rows⟩, transacted, same⟩ := Option.map_eq_some_iff.mp ran
          cases same
          obtain ⟨final, alone, rfl⟩ := transact_alone transacted
          cases call with
          | enqueueConnectionSync | enqueuePowerOperation => cases worked
          | leaseNext | retry | complete | fail =>
              cases alone
              exact ⟨_, rfl, _, .inl rfl⟩
  | _ => cases ran

private theorem settle_refused {lease : Lease} {handled result : Except GoError Unit} {moment : Instance}
    {failure : GoError}
    (traces : Program.Traces (perform db columns) (Concurrent db columns)
      (worker.settle host lease handled) state moments (.done result) final)
    (member : moment ∈ moments) (refused : refusal moment.event = some failure) :
    result = .error failure ∧ final.cancelled = moment.state.cancelled := by
  have last : ∀ {call : Jobs.Call} {next : call.Reply → Process (Except GoError Unit)} {between : Shared}
      {later : List Instance}, (∀ reply, ∃ result, next reply = .done result ∧
        ∀ failure, refusal ⟨.repository call, reply⟩ = some failure → result = .error failure) →
      Program.Traces (perform db columns) (Concurrent db columns) (.call (.repository call) next) between
        later (.done result) final →
      moment ∈ later → result = .error failure ∧ final.cancelled = moment.state.cancelled := by
    intro call next between later returns traces among
    obtain ⟨_, _, reply, _, _, _, answered, rfl, rest⟩ := traces.call
    obtain ⟨value, known, refuses⟩ := returns reply
    rw [known] at rest
    obtain ⟨rfl, same, rfl⟩ := rest.done
    cases same
    obtain ⟨_, _, unchanged⟩ := repository_answered answered
    rw [List.mem_singleton.mp among] at refused ⊢
    exact ⟨refuses failure refused, unchanged⟩
  cases handled with
  | ok _ =>
      obtain ⟨_, _, _, _, later, _, _, rfl, rest⟩ := traces.call
      cases List.mem_cons.mp member with
      | inl same =>
          subst same
          cases refused
      | inr member =>
          refine last ?_ rest member
          intro reply
          refine ⟨reply, rfl, ?_⟩
          intro failure refused
          cases reply <;> cases refused
          rfl
  | error reason =>
      obtain ⟨_, _, _, _, later, _, _, rfl, rest⟩ := traces.call
      cases List.mem_cons.mp member with
      | inl same =>
          subst same
          cases refused
      | inr member =>
          change Program.Traces _ _ (if reason.retryable = true then _ else _) _ _ _ _ at rest
          split at rest
          · refine last ?_ rest member
            intro reply
            refine ⟨reply, rfl, ?_⟩
            intro failure refused
            cases reply <;> cases refused
            rfl
          · refine last ?_ rest member
            intro reply
            refine ⟨reply, rfl, ?_⟩
            intro failure refused
            cases reply <;> cases refused
            rfl

/-- A failed call of a cycle is its last. -/
private theorem runOnce_refused {result : Except GoError Unit} {moment : Instance} {failure : GoError}
    (traces : Program.Traces (perform db columns) (Concurrent db columns)
      (worker.runOnce host) state moments (.done result) final)
    (member : moment ∈ moments) (refused : refusal moment.event = some failure) :
    result = .error failure ∧ final.cancelled = moment.state.cancelled := by
  obtain ⟨_, _, now, _, later, _, _, rfl, rest⟩ := traces.call
  cases List.mem_cons.mp member with
  | inl same =>
      subst same
      cases refused
  | inr member =>
      obtain ⟨_, between, reply, after, further, _, answered, rfl, handling⟩ := rest.call
      cases reply with
      | error reason =>
          obtain ⟨rfl, same, rfl⟩ := handling.done
          cases same
          obtain ⟨_, _, unchanged⟩ := repository_answered answered
          rw [List.mem_singleton.mp member] at refused ⊢
          cases refused
          exact ⟨rfl, unchanged⟩
      | ok lease =>
          cases List.mem_cons.mp member with
          | inl same =>
              subst same
              cases refused
          | inr member =>
              obtain ⟨_, _, handled, _, settling, _, _, rfl, closing⟩ := handling.call
              cases List.mem_cons.mp member with
              | inl same =>
                  subst same
                  cases refused
              | inr member => exact settle_refused closing member refused

private theorem loop_refused {cycles : Nat} {result : Except GoError Unit} {moment : Instance}
    {failure : GoError}
    (traces : Program.Traces (perform db columns) (Concurrent db columns)
      (worker.loop host (call .pause) cycles) state moments (.done (some result)) final)
    (member : moment ∈ moments) (refused : refusal moment.event = some failure)
    (other : failure.is .noJob = false) :
    result = .error failure ∧ final.cancelled = moment.state.cancelled := by
  induction cycles generalizing state moments with
  | zero => cases traces.done.2.1
  | succ cycles ih =>
      obtain ⟨value, middle, before, after, rfl, once, rest⟩ := traces.bind
      cases List.mem_append.mp member with
      | inl early =>
          obtain ⟨rfl, kept⟩ := runOnce_refused once early refused
          change Program.Traces _ _ (if failure.is .noJob = true then _ else _) _ _ _ _ at rest
          rw [other] at rest
          obtain ⟨_, same, rfl⟩ := Program.Traces.done rest
          cases same
          exact ⟨rfl, kept⟩
      | inr late =>
          cases value with
          | ok _ => exact ih rest late
          | error reason =>
              change Program.Traces _ _ (if reason.is .noJob = true then _ else _) _ _ _ _ at rest
              split at rest
              · obtain ⟨_, _, stopped, _, later, _, _, rfl, further⟩ := rest.call
                cases List.mem_cons.mp late with
                | inl same =>
                    subst same
                    cases refused
                | inr later =>
                    cases stopped with
                    | true =>
                        obtain ⟨rfl, _⟩ := further.done
                        cases later
                    | false => exact ih further later
              · obtain ⟨rfl, _⟩ := rest.done
                cases late

/-- A job that is settled without being held is not settled. -/
private theorem unheld_refused {call : Jobs.Call} {choice : Choice} {reply : call.Reply} {next : Shared}
    {id owner : GoString} (settles : settling (.repository call) = some (id, owner))
    (apart : state.rows.Pairwise fun left right => (engine db columns).clash left right = false)
    (lost : ¬ Holds db state.rows id owner)
    (ran : perform db columns (.repository call) choice state = some (reply, next)) :
    ∃ failure, refusal ⟨.repository call, reply⟩ = some failure ∧ failure.is .noJob = false := by
  have plain : ∀ {failure : GoError} {done : Prop},
      Raised db failure ∨ failure = .sentinel .leaseLost ∧ done → failure.is .noJob = false := by
    rintro failure done (raised | ⟨rfl, _⟩)
    · exact raised.not_noJob
    · rfl
  obtain ⟨faults, transacted, _⟩ := repository_answered ran
  generalize next.rows = later at transacted
  cases call with
  | enqueueConnectionSync | enqueuePowerOperation | leaseNext => cases settles
  | retry id owner =>
      cases settles
      cases reply with
      | error failure => exact ⟨failure, rfl, plain (retry_errors apart transacted)⟩
      | ok _ =>
          cases retry_alone apart transacted with
          | released member matched held => exact absurd ⟨_, member, matched, held⟩ lost
  | complete id owner | fail id owner =>
      cases settles
      cases reply with
      | error failure => exact ⟨failure, rfl, plain (finish_errors apart transacted)⟩
      | ok _ =>
          cases finish_alone apart transacted with
          | released member matched held => exact absurd ⟨_, member, matched, held⟩ lost

/-- A worker stops cleanly exactly in the runs in which it never calls the
database in a cancelled context and never settles a job that it does not hold
any more. -/
theorem run_stops (db : Database) (columns : Row → Bool) (worker : Worker) (cycles : Nat)
    (state final : Shared) (moments : List Instance) (result : Except GoError Unit)
    (traces : Program.Traces (perform db columns) (Concurrent db columns)
      (worker.loop host (call .pause) cycles) state moments (.done (some result)) final) :
    ((final.cancelled = true → result = .ok ()) ∧
      (final.cancelled = false → ∃ failure, result = .error failure ∧ Raised db failure ∧
        ∃ moment, moments.getLast? = some moment ∧ refusal moment.event = some failure)) ↔
    ∀ moment ∈ moments, Calm db moment := by
  constructor
  · rintro ⟨stopped, broke⟩ moment member
    obtain ⟨choice, after, between, answered, changed⟩ :
        ∃ choice after, ∃ between : Shared, perform db columns moment.event.call choice moment.state =
          some (moment.event.reply, after) ∧ Concurrent db columns between moment.state := by
      obtain ⟨earlier, later, rfl⟩ := List.append_of_mem member
      obtain ⟨_, between, _, changed⟩ := traces.before
      obtain ⟨choice, after, answered⟩ := traces.answered moment member
      exact ⟨choice, after, between, answered, changed⟩
    have worked : working moment.event.call = true := by
      have audited : (worker.loop host (call .pause) cycles).Audited (fun _ => True)
          (fun _ event => working event.call = true) (fun _ _ => True) [] := loop_working cycles
      have obeyed := (audited.traces (fun _ _ _ _ _ _ => trivial) trivial traces).1
      rw [List.append_nil] at obeyed
      have among : moment.event ∈ (moments.map (·.event)).reverse :=
        List.mem_reverse.mpr (List.mem_map_of_mem member)
      obtain ⟨_, rule⟩ := obeyed.of_mem among
      exact rule
    obtain ⟨found, ⟨asked, reply⟩⟩ := moment
    have alive : ∀ call, asked = .repository call → found.cancelled = false := by
      rintro call rfl
      by_contra cancelled
      have gone : found.cancelled = true := by simpa using cancelled
      obtain ⟨failure, refused, raised⟩ := cancelled_failed worked gone answered
      obtain ⟨failed, ended⟩ := loop_refused traces member refused raised.not_noJob
      rw [stopped (ended.trans gone)] at failed
      cases failed
    refine ⟨alive, ?_⟩
    intro id owner settles
    by_cases held : Holds db found.rows id owner
    · exact .inl held
    · cases asked with
      | repository call =>
          obtain ⟨failure, refused, other⟩ := unheld_refused settles changed.apart held answered
          obtain ⟨failed, ended⟩ := loop_refused traces member refused other
          obtain ⟨reason, same, raised, _⟩ := broke (ended.trans (alive call rfl))
          rw [failed] at same
          cases same
          exact .inr ⟨_, refused, raised⟩
      | _ => cases settles
  · intro calm
    constructor
    · intro cancelled
      obtain ⟨fine, _⟩ | ⟨failure, _, broken⟩ := loop_ends traces calm
      · exact fine
      · rw [broken.alive] at cancelled
        cases cancelled
    · intro alive
      obtain ⟨_, cancelled⟩ | ⟨failure, refused, broken⟩ := loop_ends traces calm
      · rw [cancelled] at alive
        cases alive
      · exact ⟨failure, refused, broken.raised, broken.last⟩

end Endings

/-! ## Two runs -/

/-- Others leave one job or none, and may cancel the context. -/
def others (leaves cancels : Bool) (state : Shared) : Shared :=
  ⟨if leaves then state.rows.take 1 else [], state.cancelled || cancels⟩

private theorem others_concurrent {db : Database} {columns : Row → Bool} (leaves cancels : Bool)
    (state : Shared) : Concurrent db columns state (others leaves cancels state) := by
  constructor
  · intro cancelled
    simp [others, cancelled]
  · cases leaves with
    | false => exact .nil
    | true =>
        obtain ⟨rows, _⟩ := state
        cases rows with
        | nil => exact .nil
        | cons row rest => exact List.pairwise_singleton _ row

def waiting : Shared :=
  ⟨[enqueuedRow (.plain .sqlite) ((newQueue 3 0 (text "job")).job .syncConnection (text "connection_id")
    (text "connection"))], false⟩

/-- Choices, each with what the others do before: whether they leave the job,
and whether they cancel the context. -/
def script (choices : List (Bool × Bool × Choice)) : List ((Shared → Shared) × Choice) :=
  choices.map fun entry => (others entry.1 entry.2.1, entry.2.2)

/-- Somebody deletes the job while the handler is at work. -/
def deletion : List ((Shared → Shared) × Choice) :=
  script [(true, false, .instant 1), (true, false, .database []), (true, false, .handled (.ok ())),
    (false, false, .instant 2), (false, false, .database [])]

/-- There is no job, and the context is cancelled during the wait. -/
def shutdown : List ((Shared → Shared) × Choice) :=
  script [(false, false, .instant 1), (false, false, .database []), (false, true, .cancelled true)]

private theorem script_concurrent (choices : List (Bool × Bool × Choice)) :
    ∀ entry ∈ script choices, ∀ state,
      Concurrent (.plain .sqlite) (fun _ => true) state (entry.1 state) := by
  intro entry member state
  obtain ⟨⟨leaves, cancels, _⟩, _, rfl⟩ := List.mem_map.mp member
  exact others_concurrent leaves cancels state

/-- The error that a run ends with, if it ends, and whether the context is cancelled then. -/
def ending (run : List Instance × Option (Except GoError Unit) × Shared) : Option (Option GoError) × Bool :=
  (run.2.1.map fun result => match result with
    | .ok _ => none
    | .error failure => some failure, run.2.2.cancelled)

theorem run_stops_lost : ¬ ∀ (cycles : Nat) (final : Shared) (moments : List Instance)
    (result : Except GoError Unit),
    Program.Traces (perform (.plain .sqlite) fun _ => true) (Concurrent (.plain .sqlite) fun _ => true)
      (Worker.standard.loop host (call .pause) cycles) waiting moments (.done (some result)) final →
    (final.cancelled = true → result = .ok ()) ∧
      (final.cancelled = false → ∃ failure, result = .error failure ∧ Raised (.plain .sqlite) failure ∧
        ∃ moment, moments.getLast? = some moment ∧ refusal moment.event = some failure) := by
  intro always
  have executed : ((Worker.standard.loop host (call .pause) 1).play (perform (.plain .sqlite) fun _ => true)
      deletion waiting).map ending = some (some (some (.sentinel .leaseLost)), false) := by
    decide
  obtain ⟨⟨moments, result, final⟩, played, same⟩ := Option.map_eq_some_iff.mp executed
  obtain ⟨ended, alive⟩ := Prod.mk.inj same
  have traces := Program.play_traces (script_concurrent _) played
  cases result with
  | none => cases ended
  | some result =>
      obtain ⟨failure, rfl, ⟨_, raised⟩, _⟩ := (always 1 final moments result traces).2 alive
      cases ended
      obtain impossible | ⟨_, impossible⟩ := raised
      · cases impossible
      · cases impossible

theorem run_stops_shutdown : ∃ moments final,
    Program.Traces (perform (.plain .sqlite) fun _ => true) (Concurrent (.plain .sqlite) fun _ => true)
      (Worker.standard.loop host (call .pause) 1) waiting moments (.done (some (.ok ()))) final ∧
    final.cancelled = true ∧ ∀ moment ∈ moments, Calm (.plain .sqlite) moment := by
  have executed : ((Worker.standard.loop host (call .pause) 1).play (perform (.plain .sqlite) fun _ => true)
      shutdown waiting).map ending = some (some none, true) := by
    decide
  obtain ⟨⟨moments, result, final⟩, played, same⟩ := Option.map_eq_some_iff.mp executed
  obtain ⟨ended, cancelled⟩ := Prod.mk.inj same
  have traces := Program.play_traces (script_concurrent _) played
  match result, ended with
  | some (.ok ()), _ =>
      refine ⟨moments, final, traces, cancelled, ?_⟩
      refine (run_stops (.plain .sqlite) (fun _ => true) .standard 1 waiting final moments (.ok ()) traces).mp
        ⟨fun _ => rfl, ?_⟩
      intro alive
      rw [show final.cancelled = true from cancelled] at alive
      cases alive

end Fleet.Loop

end NodeAtlas.Jobs
