import NodeAtlas.Operations.RaceStages

/-! What two racing `CreateQueued` transactions return. The lookups after a
failed insert read the snapshot of the transaction's first lookup, so on MySQL
the loser learns what it lost to only if that was committed before. -/

set_option autoImplicit false

namespace NodeAtlas.Operations

open Interleaving Transactions

namespace Race

variable (race : Race)

/-- Neither key is in use and neither server has an active operation. -/
def untouched : Bool :=
  !race.known 0 && !race.known 1 && !race.busy 0 && !race.busy 1

/-- Two keys for one server that differ but compare equal in the database. -/
def lookalike : Prop :=
  (race.operation 0).idempotencyKey ≠ (race.operation 1).idempotencyKey ∧
    race.sameKey 0 = true ∧ (race.operation 0).serverID = (race.operation 1).serverID

/-- What the two callers are promised. -/
structure Correct (outcome : Nat → RaceOutcome) : Prop where
  sameKey : (race.operation 0).idempotencyKey = (race.operation 1).idempotencyKey →
    race.untouched = true → ∃ t < 2,
      outcome t = .ok ({ race.operation t with status := .queued }, true) ∧
      outcome (other t) = .ok ((race.row t).toOperation, false)
  sameServer : (race.operation 0).idempotencyKey ≠ (race.operation 1).idempotencyKey →
    (race.operation 0).serverID = (race.operation 1).serverID → race.untouched = true →
    ∀ t < 2, ∀ operation, outcome t = .ok (operation, true) →
      outcome (other t) = .error (.sentinel .activeOperation)
  noOther : ∀ t < 2, ∀ error, outcome t = .error error → error = .sentinel .activeOperation

/-- Both transactions are over. -/
def Returned (config : RaceConfig) (outcome : Nat → RaceOutcome) : Prop :=
  ∀ t < 2, (config.threads[t]?).bind Thread.outcome = some (outcome t)

variable {race} {stage : Nat → Stage} {config : RaceConfig} {outcome : Nat → RaceOutcome}

private theorem Racing.finished_stage (racing : race.Racing stage config)
    (returned : Returned config outcome) {t : Nat} (bound : t < 2) :
    (∃ saw, stage t = .created saw ∧
        outcome t = .ok ({ race.operation t with status := .queued }, true)) ∨
      ∃ saw, stage t = .returned saw (outcome t) := by
  have ceased := returned t bound
  rw [racing.thread_found bound, Option.bind_some] at ceased
  cases at_ : stage t with
  | created saw =>
      rw [at_] at ceased
      exact .inl ⟨saw, rfl, (Option.some.inj ceased).symm⟩
  | returned saw given =>
      rw [at_] at ceased
      cases ceased
      exact .inr ⟨saw, rfl⟩
  | _ =>
      rw [at_] at ceased
      cases ceased

/-- What can be said of an outcome on an untouched table. -/
private theorem Racing.lost (racing : race.Racing stage config) {t : Nat} (bound : t < 2)
    {saw : Bool} {given : RaceOutcome} (at_ : stage t = .returned saw given)
    (unknown : race.known t = false) (idle : race.busy t = false) :
    (saw = true ∧ race.sameKey t = true ∧ given = .ok ((race.row (other t)).toOperation, false)) ∨
    (saw = true ∧ race.sameKey t = false ∧ given = .error (.sentinel .activeOperation)) ∨
    (saw = false ∧ race.db.singleConnection = false ∧
      ∃ error, given = .error error ∧ error ≠ .sentinel .activeOperation) := by
  have standing := racing.standing t bound
  rw [at_] at standing
  have explained := standing.explained given rfl
  cases given with
  | ok result =>
      obtain ⟨existing, made⟩ := result
      obtain ⟨rfl, ⟨old, member, key, _⟩ | ⟨seen, same, rfl⟩⟩ := explained
      · have absent := List.any_eq_false.mp unknown old member
        exact absurd key absent
      · exact .inl ⟨seen, same, rfl⟩
  | error error =>
      obtain ⟨_, ⟨rfl, busy | ⟨seen, different, _⟩⟩ | ⟨unlike, _, blind, shared, _⟩⟩ := explained
      · rw [busy] at idle
        cases idle
      · exact .inr (.inl ⟨seen, different, rfl⟩)
      · exact .inr (.inr ⟨blind, shared, error, rfl, unlike⟩)

private theorem untouched_at (untouched : race.untouched = true) {t : Nat} (bound : t < 2) :
    race.known t = false ∧ race.busy t = false := by
  simp only [Race.untouched, Bool.and_eq_true, Bool.not_eq_true'] at untouched
  obtain ⟨⟨⟨firstKey, secondKey⟩, firstServer⟩, secondServer⟩ := untouched
  match t, bound with
  | 0, _ => exact ⟨firstKey, firstServer⟩
  | 1, _ => exact ⟨secondKey, secondServer⟩

/-- Two operations that clash cannot both be created. -/
private theorem Racing.loser (racing : race.Racing stage config)
    (returned : Returned config outcome) (conflict : race.conflict 0 = true) :
    ∃ t < 2, ∃ saw, stage t = .returned saw (outcome t) := by
  rcases racing.finished_stage returned (t := 0) (by decide) with ⟨first, at0, _⟩ | lost
  · rcases racing.finished_stage returned (t := 1) (by decide) with ⟨second, at1, _⟩ | lost
    · have standing := racing.standing 0 (by decide)
      rw [at0, show stage (other 0) = _ from at1] at standing
      have apart := standing.apart rfl rfl
      rw [conflict] at apart
      cases apart
    · exact ⟨1, by decide, lost⟩
  · exact ⟨0, by decide, lost⟩

private theorem sameKey_other {t : Nat} (bound : t < 2) :
    race.sameKey (other t) = race.sameKey t := by
  unfold sameKey
  rw [other_other bound, race.db.same_symm]

private theorem Racing.read_after (racing : race.Racing stage config) {t : Nat} (bound : t < 2)
    {saw : Bool} {given : RaceOutcome} (at_ : stage t = .returned saw given) :
    saw = true ↔ ReadAfter (other t) t config.history := by
  have recorded := racing.recorded t bound
  rw [at_] at recorded
  exact recorded.saw

/-- One of the two orders, named by its reader. -/
private theorem either_order {t : Nat} (bound : t < 2)
    (history : List (Nat × Event (Statement Row GoString) Statement.Reply)) :
    (ReadAfter 0 1 history ∨ ReadAfter 1 0 history) ↔
      ReadAfter (other t) t history ∨ ReadAfter t (other t) history := by
  match t, bound with
  | 0, _ => exact or_comm
  | 1, _ => exact Iff.rfl

/-- The other transaction of a loser created its operation. -/
private theorem Racing.winner (racing : race.Racing stage config)
    (returned : Returned config outcome) {t : Nat} (bound : t < 2)
    (created : (stage t).isCreated = true) :
    outcome t = .ok ({ race.operation t with status := .queued }, true) ∧
      race.known t = false ∧ race.busy t = false := by
  rcases racing.finished_stage returned bound with ⟨saw, at_, made⟩ | ⟨saw, at_⟩
  · have standing := racing.standing t bound
    rw [at_] at standing
    exact ⟨made, (standing.missed rfl).1, standing.free rfl⟩
  · rw [at_] at created
    cases created

private theorem conflict_at {t : Nat} (bound : t < 2) :
    race.conflict t = race.conflict 0 := by
  match t, bound with
  | 0, _ => rfl
  | 1, _ => exact conflict_other (t := 0) (by decide)

private theorem sameKey_at {t : Nat} (bound : t < 2) : race.sameKey t = race.sameKey 0 := by
  match t, bound with
  | 0, _ => rfl
  | 1, _ => exact sameKey_other (t := 0) (by decide)

/-- A promise that is kept says that the transactions ran one after the other,
wherever they had something to race for. -/
private theorem Correct.ordered (correct : race.Correct outcome)
    (admissible : race.Admissible) (racing : race.Racing stage config)
    (returned : Returned config outcome) (untouched : race.untouched = true) :
    (race.conflict 0 = false ∨ ReadAfter 0 1 config.history ∨ ReadAfter 1 0 config.history) ∧
      ¬ race.lookalike := by
  constructor
  · cases conflict : race.conflict 0 with
    | false => exact .inl rfl
    | true =>
        obtain ⟨t, bound, saw, at_⟩ := racing.loser returned conflict
        obtain ⟨unknown, idle⟩ := untouched_at untouched bound
        have order := either_order bound config.history
        refine .inr (order.mpr (.inl ((racing.read_after bound at_).mp ?_)))
        rcases racing.lost bound at_ unknown idle with ⟨seen, _⟩ | ⟨seen, _⟩ | ⟨_, _, error, is, unlike⟩
        · exact seen
        · exact seen
        · exact absurd (correct.noOther t bound error is) unlike
  · rintro ⟨different, same, server⟩
    have conflict : race.conflict 0 = true := by
      rw [conflict_eq admissible (by decide), same]
      rfl
    obtain ⟨t, bound, saw, at_⟩ := racing.loser returned conflict
    obtain ⟨unknown, idle⟩ := untouched_at untouched bound
    rcases racing.lost bound at_ unknown idle with ⟨seen, _, is⟩ | ⟨_, unlike, _⟩ | ⟨_, _, error, is, unlike⟩
    · have created := (racing.standing t bound).seen (by rw [at_]; exact seen)
      obtain ⟨made, _⟩ := racing.winner returned (other_lt bound) created
      have promised := correct.sameServer different server untouched (other t) (other_lt bound) _ made
      rw [other_other bound, is] at promised
      cases promised
    · rw [sameKey_at bound, same] at unlike
      cases unlike
    · exact unlike (correct.noOther t bound error is)

/-- Whoever loses against a commit it could see is told so. -/
private theorem correct_of_ordered (admissible : race.Admissible)
    (racing : race.Racing stage config) (returned : Returned config outcome)
    (ordered : race.untouched = true →
      (race.conflict 0 = false ∨ ReadAfter 0 1 config.history ∨ ReadAfter 1 0 config.history) ∧
        ¬ race.lookalike) :
    race.Correct outcome := by
  have noOther : ∀ t < 2, ∀ error, outcome t = .error error →
      error = .sentinel .activeOperation := by
    intro t bound error is
    rcases racing.finished_stage returned bound with ⟨_, _, made⟩ | ⟨saw, at_⟩
    · rw [made] at is
      cases is
    · have standing := racing.standing t bound
      rw [at_, is] at standing
      obtain ⟨unknown, ⟨active, _⟩ | ⟨_, idle, blind, _, conflict, created⟩⟩ :=
        standing.explained _ rfl
      · exact active
      · obtain ⟨_, otherUnknown, otherIdle⟩ := racing.winner returned (other_lt bound) created
        have untouched : race.untouched = true := by
          match t, bound with
          | 0, _ => simp_all [Race.untouched, other]
          | 1, _ => simp_all [Race.untouched, other]
        have order := either_order bound config.history
        rw [conflict_at bound] at conflict
        rcases (ordered untouched).1 with apart | either
        · rw [apart] at conflict
          cases conflict
        · rcases order.mp either with mine | theirs
          · have seen := (racing.read_after bound at_).mpr mine
            exact absurd (seen.symm.trans blind) (by simp)
          · have reading := (racing.recorded (other t) (other_lt bound)).saw
            rw [other_other bound] at reading
            have peer := racing.standing (other t) (other_lt bound)
            have mine := peer.seen (reading.mpr theirs)
            rw [other_other bound, at_] at mine
            cases mine
  refine ⟨?_, ?_, noOther⟩
  · intro same untouched
    have sameKey : race.sameKey 0 = true := by
      simp [Race.sameKey, other, same, race.db.same_refl]
    have conflict : race.conflict 0 = true := by
      rw [conflict_eq admissible (by decide), sameKey]
      rfl
    obtain ⟨t, bound, saw, at_⟩ := racing.loser returned conflict
    obtain ⟨unknown, idle⟩ := untouched_at untouched bound
    rcases racing.lost bound at_ unknown idle with ⟨seen, _, is⟩ | ⟨_, unlike, _⟩ | ⟨_, _, error, is, unlike⟩
    · have created := (racing.standing t bound).seen (by rw [at_]; exact seen)
      obtain ⟨made, _⟩ := racing.winner returned (other_lt bound) created
      refine ⟨other t, other_lt bound, made, ?_⟩
      rw [other_other bound]
      exact is
    · rw [sameKey_at bound, sameKey] at unlike
      cases unlike
    · exact absurd (noOther t bound error is) unlike
  · intro different server untouched w within operation made
    have sameServer : race.sameServer 0 = true := by
      simp [Race.sameServer, other, server, race.db.same_refl]
    have conflict : race.conflict 0 = true := by
      rw [conflict_eq admissible (by decide), sameServer, Bool.or_true]
    have unlike : race.sameKey 0 = false := by
      by_contra same
      exact (ordered untouched).2 ⟨different, by simpa using same, server⟩
    obtain ⟨t, bound, saw, at_⟩ := racing.loser returned conflict
    obtain ⟨unknown, idle⟩ := untouched_at untouched bound
    have rejected : outcome t = .error (.sentinel .activeOperation) := by
      rcases racing.lost bound at_ unknown idle with ⟨_, same, _⟩ | ⟨_, _, is⟩ | ⟨_, _, error, is, other_⟩
      · rw [sameKey_at bound, unlike] at same
        cases same
      · exact is
      · exact absurd (noOther t bound error is) other_
    rcases eq_or_other bound within with rfl | rfl
    · rw [made] at rejected
      cases rejected
    · rw [other_other bound]
      exact rejected

/-! ## Somebody can always go on -/

variable (race) in
/-- Some statement can run and the database answers it. -/
private def Runs (config : RaceConfig) : Prop :=
  ∃ label next, race.system.Transition config label next ∧ Answered config label

private theorem Racing.runs (racing : race.Racing stage config) {t : Nat} (bound : t < 2)
    {call : Statement Row GoString} {continuation : call.Reply → Repository RaceOutcome}
    (program : (stage t).program race.db (race.operation t) = .call call continuation)
    {reply : call.Reply} {store : Store Row}
    (ran : (engine race.db race.references).perform t call false config.state =
      some (reply, store))
    (available : unavailable (⟨call, reply⟩ : Event _ _) = false) : race.Runs config := by
  have found := racing.thread_found bound
  rw [program] at found
  exact ⟨_, _, .performed found ran, t, _, rfl, available⟩

private theorem Racing.admitted (racing : race.Racing stage config) {t : Nat} (bound : t < 2)
    (busy : (stage t).isOpen = true) :
    (engine race.db race.references).admits t config.state = true := by
  cases single : race.db.singleConnection with
  | false => simp [Engine.admits, engine, single]
  | true => simp [Engine.admits, racing.holder single t bound busy]

/-- An open transaction goes on unless it waits for an insert of the other. -/
private theorem Racing.open_runs (racing : race.Racing stage config) {t : Nat} (bound : t < 2)
    (busy : (stage t).isOpen = true) (alone : ∀ saw, stage (other t) ≠ .committing saw) :
    race.Runs config := by
  have admitted := racing.admitted bound busy
  have reads : ∀ query, (engine race.db race.references).perform t (.select query) false
      config.state = some ((engine race.db race.references).select t query config.state) := by
    intro query
    simp only [Engine.perform, admitted, if_true, Bool.false_eq_true, if_false]
  cases at_ : stage t with
  | reading => exact racing.runs bound (by rw [at_]; rfl) (reads _) rfl
  | explaining saw => exact racing.runs bound (by rw [at_]; rfl) (reads _) rfl
  | searching saw => exact racing.runs bound (by rw [at_]; rfl) (reads _) rfl
  | committing saw =>
      have ran : (engine race.db race.references).perform t .commit false config.state =
          some (.ok (), config.state.close t (Stored.settle t)) := by
        simp only [Engine.perform, admitted, if_true, Bool.false_eq_true, if_false]
      exact racing.runs bound (by rw [at_]; rfl) ran rfl
  | ending saw given =>
      exact racing.runs bound (by rw [at_]; rfl) rfl rfl
  | inserting saw =>
      have free : ∀ record ∈ config.state.records, record.available t = true := by
        intro record member
        rcases (racing.sides bound record).mp member with ⟨old, _, rfl⟩ | ⟨holds, rfl⟩ | ⟨holds, _⟩
        · rfl
        · cases peer : stage (other t) with
          | committing seen => exact absurd peer (alone seen)
          | created seen => rfl
          | _ =>
              rw [peer] at holds
              cases holds
        · rw [at_] at holds
          cases holds
      have waits : ((config.state.records.filter
          ((engine race.db race.references).clashes (queuedRow race.db (race.operation t)))).all
          (Stored.available t)) = true := by
        rw [List.all_eq_true]
        intro record member
        exact free record (List.mem_filter.mp member).1
      have ran : ∃ reply store, (engine race.db race.references).perform t
          (.insert (queuedRow race.db (race.operation t))) false config.state =
            some (reply, store) ∧
          unavailable (⟨.insert (queuedRow race.db (race.operation t)), reply⟩ :
            Event (Statement Row GoString) _) = false := by
        simp only [Engine.perform, admitted, if_true, Bool.false_eq_true, if_false, Engine.insert,
          waits]
        split
        · split
          · exact ⟨_, _, rfl, rfl⟩
          · exact ⟨_, _, rfl, rfl⟩
        · exact ⟨_, _, rfl, rfl⟩
      obtain ⟨reply, store, ran, available⟩ := ran
      exact racing.runs bound (by rw [at_]; rfl) ran available
  | _ =>
      rw [at_] at busy
      cases busy

/-- While a transaction is unfinished, some statement can run. -/
theorem Racing.progress (racing : race.Racing stage config)
    (unfinished : config.quiescent = false) : race.Runs config := by
  by_cases pending : ∃ t < 2, ∃ saw, stage t = .committing saw
  · obtain ⟨t, bound, saw, at_⟩ := pending
    have admitted := racing.admitted bound (by rw [at_]; rfl)
    have ran : (engine race.db race.references).perform t .commit false config.state =
        some (.ok (), config.state.close t (Stored.settle t)) := by
      simp only [Engine.perform, admitted, if_true, Bool.false_eq_true, if_false]
    exact racing.runs bound (by rw [at_]; rfl) ran rfl
  · have alone : ∀ t < 2, ∀ saw, stage t ≠ .committing saw :=
      fun t bound saw at_ => pending ⟨t, bound, saw, at_⟩
    by_cases busy : ∃ t < 2, (stage t).isOpen = true
    · obtain ⟨t, bound, open_⟩ := busy
      exact racing.open_runs bound open_ (alone (other t) (other_lt bound))
    · have vacant : config.state.holder = none := by
        cases holding : config.state.holder with
        | none => rfl
        | some h => exact absurd ⟨h, racing.held h holding⟩ busy
      have ready : ∃ t < 2, stage t = .ready := by
        by_contra none_
        have ceased : ∀ t < 2, (⟨race.operation t,
            some ((stage t).program race.db (race.operation t))⟩ :
            Thread (Statement Row GoString) Statement.Reply Operation RaceOutcome).active = false := by
          intro t bound
          have waiting : stage t ≠ .ready := fun at_ => none_ ⟨t, bound, at_⟩
          have closed : (stage t).isOpen = false :=
            Bool.eq_false_iff.mpr fun open_ => busy ⟨t, bound, open_⟩
          cases at_ : stage t with
          | ready => exact absurd at_ waiting
          | created saw => rfl
          | returned saw given => rfl
          | _ =>
              rw [at_] at closed
              cases closed
        have quiet : config.quiescent = true := by
          simp [Config.quiescent, racing.threads, ceased 0 (by decide), ceased 1 (by decide)]
        rw [quiet] at unfinished
        cases unfinished
      obtain ⟨t, bound, at_⟩ := ready
      have ran : ∃ store, (engine race.db race.references).perform t .begin false config.state =
          some (.ok (), store) := by
        simp only [Engine.perform, Bool.false_eq_true, if_false, Engine.beginTransaction, vacant,
          Option.isNone_none, if_true]
        split
        · exact ⟨_, rfl⟩
        · exact ⟨_, rfl⟩
      obtain ⟨store, ran⟩ := ran
      exact racing.runs bound (by rw [at_]; rfl) ran rfl

/-! ## The race -/

/-- On one connection the transactions run one after the other. -/
private theorem ordered_of_single (racing : race.Racing stage config)
    (returned : Returned config outcome)
    (single : race.db.dialect = .sqlite) (untouched : race.untouched = true) :
    (race.conflict 0 = false ∨ ReadAfter 0 1 config.history ∨ ReadAfter 1 0 config.history) ∧
      ¬ race.lookalike := by
  constructor
  · cases conflict : race.conflict 0 with
    | false => exact .inl rfl
    | true =>
        obtain ⟨t, bound, saw, at_⟩ := racing.loser returned conflict
        obtain ⟨unknown, idle⟩ := untouched_at untouched bound
        have order := either_order bound config.history
        refine .inr (order.mpr (.inl ((racing.read_after bound at_).mp ?_)))
        rcases racing.lost bound at_ unknown idle with ⟨seen, _⟩ | ⟨seen, _⟩ | ⟨_, shared, _⟩
        · exact seen
        · exact seen
        · simp [Database.singleConnection, single] at shared
  · rintro ⟨different, same, _⟩
    simp only [sameKey, other, Database.same, race.db.binary single, id_eq,
      decide_eq_true_eq] at same
    exact different same.symm

/-- The two transactions finish, and the promise is kept exactly where there
was nothing to race for or the loser began to read after the winner had
committed; so on SQLite it always is. -/
theorem createQueued_race (admissible : race.Admissible)
    (run : race.system.Run Answered race.start config) :
    (config.quiescent = false →
      ∃ label next, race.system.Transition config label next ∧ Answered config label) ∧
    (Returned config outcome →
      (race.Correct outcome ↔ (race.untouched = true →
        (race.conflict 0 = false ∨ ReadAfter 0 1 config.history ∨
          ReadAfter 1 0 config.history) ∧ ¬ race.lookalike)) ∧
      (race.db.dialect = .sqlite → race.Correct outcome)) := by
  obtain ⟨stage, racing⟩ := racing_run admissible run
  constructor
  · intro unfinished
    exact racing.progress unfinished
  · intro returned
    constructor
    · constructor
      · intro correct untouched
        exact correct.ordered admissible racing returned untouched
      · exact correct_of_ordered admissible racing returned
    · intro single
      refine correct_of_ordered admissible racing returned ?_
      exact ordered_of_single racing returned single

end Race

/-! ## A race on MySQL -/

/-- Two requests with one idempotency key for one server. -/
def twins (dialect : Dialect) : Race where
  db := Database.plain dialect
  references _ := true
  rows := []
  operation t := ⟨text (if t = 0 then "first" else "second"), text "server", text "connection",
    .reboot, .queued, text "key", [], [], [], 1, none, none, 1⟩

theorem twins_admissible (dialect : Dialect) : (twins dialect).Admissible where
  accepted t := by
    by_cases first : t = 0
    · subst first
      rfl
    · simp only [twins, first, if_false, Race.row]
      rfl
  fresh _ row member := by cases member
  distinct := by cases dialect <;> decide

def answeredTest : Label (Statement Row GoString) Statement.Reply Operation Bool → Bool
  | .performed _ event => !unavailable event
  | _ => false

theorem answeredTest_sound (config : RaceConfig)
    (label : Label (Statement Row GoString) Statement.Reply Operation Bool)
    (passed : answeredTest label = true) : Race.Answered config label := by
  cases label with
  | performed t event => exact ⟨t, event, rfl, by simpa [answeredTest] using passed⟩
  | _ => cases passed

/-- Both look the key up before either inserts. -/
def blindSchedule : List (System.Move Operation Bool) :=
  [.advance 0 false, .advance 0 false, .advance 1 false, .advance 1 false,
    .advance 0 false, .advance 0 false,
    .advance 1 false, .advance 1 false, .advance 1 false, .advance 1 false]

def blindOutcome (t : Nat) : RaceOutcome :=
  if t = 0 then .ok ({ (twins .mysql).operation 0 with status := .queued }, true)
  else .error (.wrapped (text "create operation") (.plain (text "database error")))

theorem createQueued_race_blind : ∃ config,
    (twins .mysql).system.Run Race.Answered (twins .mysql).start config ∧
    Race.Returned config blindOutcome ∧ (twins .mysql).untouched = true ∧
    ¬ (twins .mysql).Correct blindOutcome := by
  have reached : ((twins .mysql).system.outcome answeredTest blindSchedule
      (twins .mysql).start).isSome = true := by decide
  obtain ⟨config, last⟩ := Option.isSome_iff_exists.mp reached
  have results : (((twins .mysql).system.outcome answeredTest blindSchedule
      (twins .mysql).start).map fun config =>
        [(config.threads[0]?).bind Thread.outcome, (config.threads[1]?).bind Thread.outcome]) =
      some [some (blindOutcome 0), some (blindOutcome 1)] := by decide
  rw [last] at results
  simp only [Option.map_some, Option.some.injEq, List.cons.injEq, and_true] at results
  refine ⟨config, System.outcome_run last answeredTest_sound, ?_, by decide, ?_⟩
  · intro t bound
    match t, bound with
    | 0, _ => exact results.1
    | 1, _ => exact results.2
  · intro correct
    have only := correct.noOther 1 (by decide) _ rfl
    cases only

/-- The same schedule one after the other on SQLite. -/
def serialSchedule : List (System.Move Operation Bool) :=
  [.advance 0 false, .advance 0 false, .advance 0 false, .advance 0 false,
    .advance 1 false, .advance 1 false, .advance 1 false]

/-- The second call is given what the first one has stored. -/
def serialOutcome (t : Nat) : RaceOutcome :=
  .ok ({ (twins .sqlite).operation 0 with status := .queued }, t = 0)

theorem createQueued_race_serial : ∃ config,
    (twins .sqlite).system.Run Race.Answered (twins .sqlite).start config ∧
    Race.Returned config serialOutcome ∧ (twins .sqlite).Correct serialOutcome := by
  have reached : ((twins .sqlite).system.outcome answeredTest serialSchedule
      (twins .sqlite).start).isSome = true := by decide
  obtain ⟨config, last⟩ := Option.isSome_iff_exists.mp reached
  have results : (((twins .sqlite).system.outcome answeredTest serialSchedule
      (twins .sqlite).start).map fun config =>
        [(config.threads[0]?).bind Thread.outcome, (config.threads[1]?).bind Thread.outcome]) =
      some [some (serialOutcome 0), some (serialOutcome 1)] := by decide
  rw [last] at results
  simp only [Option.map_some, Option.some.injEq, List.cons.injEq, and_true] at results
  have run := System.outcome_run last answeredTest_sound
  have returned : Race.Returned config serialOutcome := by
    intro t bound
    match t, bound with
    | 0, _ => exact results.1
    | 1, _ => exact results.2
  exact ⟨config, run, returned, ((Race.createQueued_race (twins_admissible .sqlite) run).2 returned).2 rfl⟩

end NodeAtlas.Operations
