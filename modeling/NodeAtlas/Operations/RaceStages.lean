import NodeAtlas.Operations.Repository
import NodeAtlas.Transactions.Conduct

/-! Two `CreateQueued` transactions that race each other: how far each has come,
and what the table, the snapshots and the history say at every point. -/

set_option autoImplicit false

namespace NodeAtlas.Operations

open Interleaving Transactions

abbrev RaceOutcome := Except GoError (Operation × Bool)

abbrev RaceConfig :=
  Config (Statement Row GoString) Statement.Reply (Store Row) Operation RaceOutcome

/-- The committed table before the race and the two operations, for the
threads 0 and 1. -/
structure Race where
  db : Database
  references : Row → Bool
  rows : List Row
  operation : Nat → Operation

namespace Race

variable (race : Race)

def row (t : Nat) : Row := queuedRow race.db (race.operation t)

def system : System (Statement Row GoString) Statement.Reply (Store Row) Operation RaceOutcome Bool :=
  Transactions.system (engine race.db race.references) (createQueued race.db)

def start : RaceConfig :=
  ((Config.initial (Store.ofTable race.rows)).spawn (race.operation 0)
    (createQueued race.db (race.operation 0))).spawn (race.operation 1)
    (createQueued race.db (race.operation 1))

def other (t : Nat) : Nat := 1 - t

/-- The two rows cannot both be in the table. -/
def conflict (t : Nat) : Bool :=
  (engine race.db race.references).clash (race.row t) (race.row (other t))

def sameKey (t : Nat) : Bool :=
  race.db.same (race.operation (other t)).idempotencyKey (race.operation t).idempotencyKey

def sameServer (t : Nat) : Bool :=
  race.db.same (race.operation (other t)).serverID (race.operation t).serverID

/-- The key was used before the race. -/
def known (t : Nat) : Bool :=
  race.rows.any (hasIdempotencyKey race.db (race.operation t).idempotencyKey)

/-- The server had an active operation before the race. -/
def busy (t : Nat) : Bool :=
  race.rows.any (activeOn race.db (race.operation t).serverID)

/-- What callers see to: both rows pass the constraints of the schema, and the
ids are new. -/
structure Admissible : Prop where
  accepted : ∀ t, (engine race.db race.references).accepts (race.row t) = true
  fresh : ∀ t, ∀ row ∈ race.rows, race.db.same (race.operation t).id row.id = false
  distinct : race.db.same (race.operation 0).id (race.operation 1).id = false

end Race

def isRead : Event (Statement Row GoString) Statement.Reply → Bool
  | ⟨.select _, _⟩ => true
  | _ => false

/-- The first read of `y` came after the commit of `x`. Latest event first. -/
def ReadAfter (x y : Nat) : List (Nat × Event (Statement Row GoString) Statement.Reply) → Prop
  | [] => False
  | (t, event) :: earlier =>
      ReadAfter x y earlier ∨
        t = y ∧ isRead event = true ∧ (x, ⟨.commit, .ok ()⟩) ∈ earlier ∧
          ∀ former, (y, former) ∈ earlier → isRead former = false

/-- How far a transaction has come; `saw` says that the other one was already
committed at its first read. -/
inductive Stage where
  | ready
  | reading
  | inserting (saw : Bool)
  | committing (saw : Bool)
  | created (saw : Bool)
  | explaining (saw : Bool)
  | searching (saw : Bool)
  | ending (saw : Bool) (outcome : RaceOutcome)
  | returned (saw : Bool) (outcome : RaceOutcome)

namespace Stage

def program (db : Database) (operation : Operation) : Stage → Repository RaceOutcome
  | ready => createQueued db operation
  | reading => lookUpQueued db operation
  | inserting _ => insertQueued db operation
  | committing _ => commitQueued db operation
  | created _ => .done (.ok ({ operation with status := .queued }, true))
  | explaining _ => explainRejection db operation .duplicate
  | searching _ => findRival db operation .duplicate
  | ending _ outcome => Client.endWith outcome
  | returned _ outcome => .done outcome

def saw : Stage → Bool
  | ready | reading => false
  | inserting saw | committing saw | created saw | explaining saw | searching saw => saw
  | ending saw _ | returned saw _ => saw

def hasRead : Stage → Bool
  | ready | reading => false
  | _ => true

def isCreated : Stage → Bool
  | created _ => true
  | _ => false

/-- The row of the transaction is stored, committed or not. -/
def isStored : Stage → Bool
  | committing _ | created _ => true
  | _ => false

/-- The first lookup found nothing. -/
def missed : Stage → Bool
  | inserting _ | committing _ | created _ | explaining _ | searching _ => true
  | _ => false

def rejected : Stage → Bool
  | explaining _ | searching _ => true
  | _ => false

def isOpen : Stage → Bool
  | ready | created _ | returned _ _ => false
  | _ => true

def outcome : Stage → Option RaceOutcome
  | ending _ outcome | returned _ outcome => some outcome
  | _ => none

end Stage

namespace Race

variable (race : Race)

/-- The row of `t` as stored at a stage. -/
def stored (t : Nat) (stage : Stage) : Stored Row :=
  if stage.isCreated then ⟨some (race.row t), none⟩ else ⟨none, some (t, some (race.row t))⟩

/-- Why a transaction that created nothing ended as it did. -/
def Explained (t : Nat) (saw : Bool) (peer : Stage) : RaceOutcome → Prop
  | .ok (existing, made) => made = false ∧
      ((∃ old ∈ race.rows, hasIdempotencyKey race.db (race.operation t).idempotencyKey old = true ∧
          existing = old.toOperation) ∨
        saw = true ∧ race.sameKey t = true ∧ existing = (race.row (other t)).toOperation)
  | .error error =>
      race.known t = false ∧
      (error = .sentinel .activeOperation ∧
          (race.busy t = true ∨ saw = true ∧ race.sameKey t = false ∧ race.sameServer t = true) ∨
        error ≠ .sentinel .activeOperation ∧ race.busy t = false ∧ saw = false ∧
          race.db.singleConnection = false ∧ race.conflict t = true ∧ peer.isCreated = true)

/-- Where `t` stands, with its peer. -/
structure Standing (t : Nat) (own peer : Stage) : Prop where
  seen : own.saw = true → peer.isCreated = true
  apart : own.isStored = true → peer.isStored = true → race.conflict t = false
  missed : own.missed = true →
    race.known t = false ∧ (own.saw = true → race.sameKey t = false)
  rejected : own.rejected = true →
    race.busy t = true ∨ race.conflict t = true ∧ peer.isCreated = true
  free : own.isStored = true → race.busy t = false
  serial : race.db.singleConnection = true → own.isOpen = true → own.hasRead = true →
    peer.isCreated = true → own.saw = true
  explained : ∀ outcome, own.outcome = some outcome → race.Explained t own.saw peer outcome

/-- What the history says about the stage of `t`. -/
structure Recorded (t : Nat) (own : Stage)
    (history : List (Nat × Event (Statement Row GoString) Statement.Reply)) : Prop where
  committed : (t, ⟨.commit, .ok ()⟩) ∈ history ↔ own.isCreated = true
  unread : own.hasRead = false → ∀ event, (t, event) ∈ history → isRead event = false
  read : own.hasRead = true → ∃ event, (t, event) ∈ history ∧ isRead event = true
  saw : own.saw = true ↔ ReadAfter (other t) t history

/-- The snapshot of a transaction between its first read and its end. -/
def Snapshot (t : Nat) (own : Stage) (store : Store Row) : Prop :=
  match own with
  | .ready | .reading => store.snapshots t = none
  | .inserting saw | .explaining saw | .searching saw =>
      ∃ rows, store.snapshots t = some rows ∧
        ∀ row, row ∈ rows ↔ row ∈ race.rows ∨ saw = true ∧ row = race.row (other t)
  | _ => True

structure Racing (stage : Nat → Stage) (config : RaceConfig) : Prop where
  threads : config.threads =
    [⟨race.operation 0, some ((stage 0).program race.db (race.operation 0))⟩,
      ⟨race.operation 1, some ((stage 1).program race.db (race.operation 1))⟩]
  records : ∀ record, record ∈ config.state.records ↔
    (∃ row ∈ race.rows, record = ⟨some row, none⟩) ∨
      ∃ t < 2, (stage t).isStored = true ∧ record = race.stored t (stage t)
  snapshot : ∀ t < 2, race.Snapshot t (stage t) config.state
  holder : race.db.singleConnection = true → ∀ t < 2, (stage t).isOpen = true →
    config.state.holder = some t
  held : ∀ h, config.state.holder = some h → h < 2 ∧ (stage h).isOpen = true
  standing : ∀ t < 2, race.Standing t (stage t) (stage (other t))
  recorded : ∀ t < 2, Recorded t (stage t) config.history

/-! ## What a step of one leaves to the other -/

section Peer

variable {race}

theorem other_ne {t : Nat} (bound : t < 2) : other t ≠ t := by
  unfold other
  omega

theorem other_other {t : Nat} (bound : t < 2) : other (other t) = t := by
  unfold other
  omega

theorem other_lt {t : Nat} (bound : t < 2) : other t < 2 := by
  unfold other
  omega

theorem eq_or_other {t u : Nat} (bound : t < 2) (within : u < 2) : u = t ∨ u = other t := by
  unfold other
  omega

theorem conflict_other {t : Nat} (bound : t < 2) : race.conflict (other t) = race.conflict t := by
  unfold conflict
  rw [other_other bound, Engine.symmetric]

/-- Only what has committed is relied on, so a peer may move on freely. -/
theorem Standing.peer {t : Nat} {own peer next : Stage} (standing : race.Standing t own peer)
    (uncommitted : peer.isCreated = false)
    (apart : own.isStored = true → next.isStored = true → race.conflict t = false)
    (serial : race.db.singleConnection = true → own.isOpen = true → next.isCreated = false) :
    race.Standing t own next where
  seen saw := by
    rw [standing.seen saw] at uncommitted
    cases uncommitted
  apart := apart
  missed := standing.missed
  rejected rejected := by
    rcases standing.rejected rejected with busy | ⟨_, created⟩
    · exact .inl busy
    · rw [created] at uncommitted
      cases uncommitted
  free := standing.free
  serial single busy _ created := by
    rw [serial single busy] at created
    cases created
  explained outcome ends := by
    have explained := standing.explained outcome ends
    cases outcome with
    | ok result => exact explained
    | error error =>
        obtain ⟨unknown, active | ⟨_, _, _, _, _, created⟩⟩ := explained
        · exact ⟨unknown, .inl active⟩
        · rw [created] at uncommitted
          cases uncommitted

theorem Recorded.peer {t u : Nat} {own : Stage}
    {history : List (Nat × Event (Statement Row GoString) Statement.Reply)}
    (recorded : Recorded t own history) (different : u ≠ t)
    (event : Event (Statement Row GoString) Statement.Reply) :
    Recorded t own ((u, event) :: history) where
  committed := by
    rw [← recorded.committed]
    simp [different.symm]
  unread := by
    intro fresh former member
    rcases List.mem_cons.mp member with same | before
    · exact absurd (congrArg Prod.fst same).symm different
    · exact recorded.unread fresh former before
  read := by
    intro done
    obtain ⟨former, member, reading⟩ := recorded.read done
    exact ⟨former, List.mem_cons_of_mem _ member, reading⟩
  saw := by
    rw [recorded.saw]
    simp [ReadAfter, different]

/-- An event that is neither a read nor a successful commit records nothing. -/
theorem Recorded.silent {t : Nat} {own next : Stage}
    {history : List (Nat × Event (Statement Row GoString) Statement.Reply)}
    (recorded : Recorded t own history)
    {event : Event (Statement Row GoString) Statement.Reply} (unread : isRead event = false)
    (unsettled : settles event = false) (created : next.isCreated = own.isCreated)
    (read : next.hasRead = own.hasRead) (saw : next.saw = own.saw) :
    Recorded t next ((t, event) :: history) where
  committed := by
    rw [created, ← recorded.committed]
    constructor
    · intro member
      rcases List.mem_cons.mp member with same | before
      · cases same
        cases unsettled
      · exact before
    · exact List.mem_cons_of_mem _
  unread := by
    intro fresh former member
    rcases List.mem_cons.mp member with same | before
    · cases same
      exact unread
    · exact recorded.unread (read ▸ fresh) former before
  read := by
    intro done
    obtain ⟨former, member, reading⟩ := recorded.read (read ▸ done)
    exact ⟨former, List.mem_cons_of_mem _ member, reading⟩
  saw := by
    rw [saw, recorded.saw]
    simp [ReadAfter, unread]

/-- The first read fixes what the transaction can see. -/
theorem Recorded.first {t : Nat} {own next : Stage}
    {history : List (Nat × Event (Statement Row GoString) Statement.Reply)}
    (recorded : Recorded t own history) {query : Query Row}
    {found : Except Failure (Option Row)} (fresh : own.hasRead = false)
    (unseen : own.saw = false) (done : next.hasRead = true)
    (created : next.isCreated = own.isCreated)
    (saw : next.saw = true ↔ (other t, ⟨.commit, .ok ()⟩) ∈ history) :
    Recorded t next ((t, ⟨.select query, found⟩) :: history) where
  committed := by
    rw [created, ← recorded.committed]
    simp
  unread undone := by
    rw [done] at undone
    cases undone
  read _ := ⟨_, List.mem_cons_self, rfl⟩
  saw := by
    have never : ¬ ReadAfter (other t) t history := by
      rw [← recorded.saw, unseen]
      simp
    simp only [ReadAfter, never, isRead, true_and, false_or, saw]
    constructor
    · intro committed
      exact ⟨committed, fun former member => recorded.unread fresh former member⟩
    · intro both
      exact both.1

theorem Recorded.again {t : Nat} {own next : Stage}
    {history : List (Nat × Event (Statement Row GoString) Statement.Reply)}
    (recorded : Recorded t own history) {query : Query Row}
    {found : Except Failure (Option Row)} (done : own.hasRead = true)
    (read : next.hasRead = own.hasRead) (created : next.isCreated = own.isCreated)
    (saw : next.saw = own.saw) :
    Recorded t next ((t, ⟨.select query, found⟩) :: history) where
  committed := by
    rw [created, ← recorded.committed]
    simp
  unread undone := by
    rw [read, done] at undone
    cases undone
  read _ := ⟨_, List.mem_cons_self, rfl⟩
  saw := by
    obtain ⟨former, member, reading⟩ := recorded.read done
    rw [saw, recorded.saw]
    simp only [ReadAfter, true_and]
    constructor
    · exact .inl
    · rintro (before | ⟨_, _, none⟩)
      · exact before
      · rw [none former member] at reading
        cases reading

theorem Recorded.commit {t : Nat} {own next : Stage}
    {history : List (Nat × Event (Statement Row GoString) Statement.Reply)}
    (recorded : Recorded t own history) (done : own.hasRead = true)
    (read : next.hasRead = own.hasRead) (created : next.isCreated = true)
    (saw : next.saw = own.saw) :
    Recorded t next ((t, ⟨.commit, .ok ()⟩) :: history) where
  committed := by simp [created]
  unread undone := by
    rw [read, done] at undone
    cases undone
  read _ := by
    obtain ⟨former, member, reading⟩ := recorded.read done
    exact ⟨former, List.mem_cons_of_mem _ member, reading⟩
  saw := by
    rw [saw, recorded.saw]
    simp [ReadAfter, isRead]

end Peer

/-! ## Each stage -/

section Steps

variable {race} {stage : Nat → Stage} {config : RaceConfig}

private def moveTo (stage : Nat → Stage) (t : Nat) (next : Stage) : Nat → Stage :=
  Function.update stage t next

theorem Racing.thread_found (racing : race.Racing stage config) {t : Nat} (bound : t < 2) :
    config.threads[t]? = some ⟨race.operation t,
      some ((stage t).program race.db (race.operation t))⟩ := by
  rw [racing.threads]
  match t, bound with
  | 0, _ => rfl
  | 1, _ => rfl

/-- A thread that moves on keeps the race in order, given what its own step
changed. -/
private theorem Racing.moved (racing : race.Racing stage config) {t : Nat} (bound : t < 2)
    {event : Event (Statement Row GoString) Statement.Reply} {fault : Bool} {store : Store Row}
    (ran : (engine race.db race.references).perform t event.call fault config.state =
      some (event.reply, store)) {next : Stage}
    (uncommitted : (stage t).isCreated = false)
    (records : ∀ record, record ∈ store.records ↔
      (∃ row ∈ race.rows, record = ⟨some row, none⟩) ∨
        ((stage (other t)).isStored = true ∧
          record = race.stored (other t) (stage (other t))) ∨
        (next.isStored = true ∧ record = race.stored t next))
    (snapshot : race.Snapshot t next store)
    (holder : race.db.singleConnection = true → next.isOpen = true → store.holder = some t)
    (keeps : store.holder = some t → next.isOpen = true)
    (commits : next.isCreated = true → race.db.singleConnection = true →
      config.state.holder = some t)
    (standing : race.Standing t next (stage (other t)))
    (recorded : Recorded t next ((t, event) :: config.history)) :
    race.Racing (moveTo stage t next) (config.advance t (race.operation t) event
      (next.program race.db (race.operation t)) store) := by
  have same : moveTo stage t next t = next := Function.update_self ..
  have kept : moveTo stage t next (other t) = stage (other t) :=
    Function.update_of_ne (other_ne bound) ..
  have each : ∀ {property : Nat → Prop}, property t → property (other t) →
      ∀ u < 2, property u := by
    intro property own peer u within
    rcases eq_or_other bound within with rfl | rfl
    · exact own
    · exact peer
  refine ⟨?_, ?_, each ?_ ?_, ?_, ?_, each ?_ ?_, each ?_ ?_⟩
  · simp only [Config.advance, racing.threads]
    have either : t = 0 ∨ t = 1 := by omega
    cases either with
    | inl first =>
        subst first
        rfl
    | inr second =>
        subst second
        rfl
  · intro record
    change record ∈ store.records ↔ _
    rw [records record]
    constructor
    · rintro (old | ⟨holds, is⟩ | ⟨holds, is⟩)
      · exact .inl old
      · exact .inr ⟨other t, other_lt bound, by rw [kept]; exact holds, by rw [kept]; exact is⟩
      · exact .inr ⟨t, bound, by rw [same]; exact holds, by rw [same]; exact is⟩
    · rintro (old | ⟨u, within, holds, is⟩)
      · exact .inl old
      · rcases eq_or_other bound within with rfl | rfl
        · rw [same] at holds is
          exact .inr (.inr ⟨holds, is⟩)
        · rw [kept] at holds is
          exact .inr (.inl ⟨holds, is⟩)
  · rw [same]
    exact snapshot
  · rw [kept]
    have before := racing.snapshot (other t) (other_lt bound)
    have unchanged := perform_snapshots_other ran (other_ne bound)
    simpa only [Snapshot, Config.advance, unchanged] using before
  · intro single
    refine each ?_ ?_
    · rw [same]
      exact holder single
    · rw [kept]
      intro busy
      have held := racing.holder single (other t) (other_lt bound) busy
      exact (perform_excluded single held (other_ne bound) ran).1
  · intro h holding
    by_cases own : h = t
    · subst own
      rw [same]
      exact ⟨bound, keeps holding⟩
    · obtain ⟨within, busy⟩ := racing.held h (perform_holder own ran holding)
      refine ⟨within, ?_⟩
      rw [moveTo, Function.update_of_ne own]
      exact busy
  · rw [same, kept]
    exact standing
  · rw [kept, other_other bound, same]
    have peer := racing.standing (other t) (other_lt bound)
    rw [other_other bound] at peer
    refine peer.peer uncommitted ?_ ?_
    · intro peerStored ownStored
      rw [conflict_other bound]
      exact standing.apart ownStored peerStored
    · intro single busy
      by_contra created
      have held := racing.holder single (other t) (other_lt bound) busy
      rw [commits (Bool.not_eq_false _ ▸ created) single] at held
      exact other_ne bound (Option.some.inj held).symm
  · rw [same]
    exact recorded
  · rw [kept]
    exact (racing.recorded (other t) (other_lt bound)).peer (other_ne bound).symm event

theorem Racing.sides (racing : race.Racing stage config) {t : Nat} (bound : t < 2)
    (record : Stored Row) : record ∈ config.state.records ↔
      (∃ row ∈ race.rows, record = ⟨some row, none⟩) ∨
        ((stage (other t)).isStored = true ∧
          record = race.stored (other t) (stage (other t))) ∨
        ((stage t).isStored = true ∧ record = race.stored t (stage t)) := by
  rw [racing.records record]
  constructor
  · rintro (old | ⟨u, within, holds, is⟩)
    · exact .inl old
    · rcases eq_or_other bound within with rfl | rfl
      · exact .inr (.inr ⟨holds, is⟩)
      · exact .inr (.inl ⟨holds, is⟩)
  · rintro (old | ⟨holds, is⟩ | ⟨holds, is⟩)
    · exact .inl old
    · exact .inr ⟨other t, other_lt bound, holds, is⟩
    · exact .inr ⟨t, bound, holds, is⟩

private theorem Racing.unwritten (racing : race.Racing stage config) {t : Nat} (bound : t < 2)
    (absent : (stage t).isStored = false) {record : Stored Row}
    (member : record ∈ config.state.records) (row : Row) :
    record.lock ≠ some (t, some row) := by
  intro locked
  rcases (racing.sides bound record).mp member with ⟨old, _, rfl⟩ | ⟨_, rfl⟩ | ⟨holds, _⟩
  · cases locked
  · unfold stored at locked
    split at locked
    · cases locked
    · simp only [Option.some.injEq, Prod.mk.injEq] at locked
      exact other_ne bound locked.1
  · rw [holds] at absent
    cases absent

/-- What `t` can read is what was there before and what the peer committed. -/
private theorem Racing.table (racing : race.Racing stage config) {t : Nat} (bound : t < 2)
    (absent : (stage t).isStored = false) (row : Row) :
    row ∈ config.state.table ↔
      row ∈ race.rows ∨ (stage (other t)).isCreated = true ∧ row = race.row (other t) := by
  unfold Store.table
  rw [List.mem_filterMap]
  constructor
  · rintro ⟨record, member, committed⟩
    rcases (racing.sides bound record).mp member with ⟨old, former, rfl⟩ | ⟨_, rfl⟩ | ⟨holds, _⟩
    · cases committed
      exact .inl former
    · unfold stored at committed
      split at committed
      · next created =>
          cases committed
          exact .inr ⟨created, rfl⟩
      · cases committed
    · rw [holds] at absent
      cases absent
  · rintro (former | ⟨created, rfl⟩)
    · exact ⟨⟨some row, none⟩, (racing.records _).mpr (.inl ⟨row, former, rfl⟩), rfl⟩
    · have holds : (stage (other t)).isStored = true := by
        cases at_ : stage (other t) <;> simp_all [Stage.isCreated, Stage.isStored]
      refine ⟨race.stored (other t) (stage (other t)),
        (racing.sides bound _).mpr (.inr (.inl ⟨holds, rfl⟩)), ?_⟩
      simp [stored, created]

/-- A step that stores nothing, of a transaction that has stored nothing. -/
private theorem Racing.idle (racing : race.Racing stage config) {t : Nat} (bound : t < 2)
    {store : Store Row} {next : Stage} (absent : (stage t).isStored = false)
    (stays : next.isStored = false) (same : store.records = config.state.records) :
    ∀ record, record ∈ store.records ↔
      (∃ row ∈ race.rows, record = ⟨some row, none⟩) ∨
        ((stage (other t)).isStored = true ∧
          record = race.stored (other t) (stage (other t))) ∨
        (next.isStored = true ∧ record = race.stored t next) := by
  intro record
  rw [same, racing.sides bound record, absent, stays]
  simp only [Bool.false_eq_true, false_and, or_false]

private theorem Racing.begin_step (racing : race.Racing stage config) {t : Nat} (bound : t < 2)
    (at_ : stage t = .ready) {call : Statement Row GoString}
    {continuation : call.Reply → Repository RaceOutcome}
    (program : Stage.ready.program race.db (race.operation t) = .call call continuation)
    {fault : Bool} {reply : call.Reply} {store : Store Row}
    (ran : (engine race.db race.references).perform t call fault config.state =
      some (reply, store))
    (available : unavailable (⟨call, reply⟩ : Event _ _) = false) :
    ∃ next, race.Racing (moveTo stage t next)
      (config.advance t (race.operation t) ⟨call, reply⟩ (continuation reply) store) := by
  simp only [Stage.program, createQueued, Client.begin, Program.perform_bind] at program
  cases program
  have performed := perform_available ran available
  have standing := racing.standing t bound
  have recorded := racing.recorded t bound
  rw [at_] at standing recorded
  simp only [Engine.perform, Bool.false_eq_true, if_false, Engine.beginTransaction] at performed
  have result : reply = .ok () ∧ store.records = config.state.records ∧
      store.snapshots t = none ∧ (race.db.singleConnection = true → store.holder = some t) := by
    split at performed
    · split at performed
      · cases performed
        exact ⟨rfl, rfl, by simp, fun _ => rfl⟩
      · cases performed
    · next shared =>
        cases performed
        exact ⟨rfl, rfl, by simp, fun single => absurd single shared⟩
  obtain ⟨rfl, records, snapshot, holder⟩ := result
  refine ⟨.reading, racing.moved bound ran (by rw [at_]; rfl)
    (racing.idle bound (by rw [at_]; rfl) rfl records) snapshot (fun single _ => holder single)
    (fun _ => rfl) (by simp [Stage.isCreated]) ?_ (recorded.silent rfl rfl rfl rfl rfl)⟩
  exact ⟨by simp [Stage.saw], by simp [Stage.isStored], by simp [Stage.missed],
    by simp [Stage.rejected], by simp [Stage.isStored], by simp [Stage.hasRead],
    by simp [Stage.outcome]⟩

/-- A plain read of a transaction that has stored nothing yet. -/
private theorem Racing.read (racing : race.Racing stage config) {t : Nat} (bound : t < 2)
    (absent : (stage t).isStored = false) {query : Query Row} {fault : Bool}
    {reply : Except Failure (Option Row)} {store : Store Row}
    (ran : (engine race.db race.references).perform t (.select query) fault config.state =
      some (reply, store))
    (available : unavailable (⟨.select query, reply⟩ : Event (Statement Row GoString) _) = false) :
    ∃ rows, rows = (config.state.snapshots t).getD config.state.table ∧
      reply = .ok (query.pick rows) ∧ store.snapshots t = some rows ∧
      store.records = config.state.records ∧ store.holder = config.state.holder := by
  have performed := perform_available ran available
  have clean : ∀ record ∈ config.state.records, ∀ row, record.lock ≠ some (t, some row) :=
    fun record member => racing.unwritten bound absent member
  simp only [Engine.perform, Bool.false_eq_true, if_false, Engine.select_clean clean] at performed
  split at performed
  · cases performed
    exact ⟨_, rfl, rfl, by simp, rfl, rfl⟩
  · cases performed

private theorem known_false {t : Nat} {rows : List Row} {saw : Bool}
    (contents : ∀ row, row ∈ rows ↔ row ∈ race.rows ∨ saw = true ∧ row = race.row (other t))
    (missing : ∀ row ∈ rows,
      hasIdempotencyKey race.db (race.operation t).idempotencyKey row = false) :
    race.known t = false ∧ (saw = true → race.sameKey t = false) := by
  constructor
  · unfold known
    rw [List.any_eq_false]
    intro row member
    have absent := missing row ((contents row).mpr (.inl member))
    simp [absent]
  · intro visible
    exact missing _ ((contents _).mpr (.inr ⟨visible, rfl⟩))

private theorem Racing.reading_step (racing : race.Racing stage config) {t : Nat} (bound : t < 2)
    (at_ : stage t = .reading) {call : Statement Row GoString}
    {continuation : call.Reply → Repository RaceOutcome}
    (program : Stage.reading.program race.db (race.operation t) = .call call continuation)
    {fault : Bool} {reply : call.Reply} {store : Store Row}
    (ran : (engine race.db race.references).perform t call fault config.state =
      some (reply, store))
    (available : unavailable (⟨call, reply⟩ : Event _ _) = false) :
    ∃ next, race.Racing (moveTo stage t next)
      (config.advance t (race.operation t) ⟨call, reply⟩ (continuation reply) store) := by
  simp only [Stage.program, lookUpQueued, findOperation, Client.select,
    Program.perform_bind] at program
  cases program
  have absent : (stage t).isStored = false := by rw [at_]; rfl
  obtain ⟨rows, contents, rfl, snapshot, records, holder⟩ := racing.read bound absent ran available
  have fresh := racing.snapshot t bound
  rw [at_] at fresh
  have nothing : config.state.snapshots t = none := fresh
  rw [nothing, Option.getD_none] at contents
  have visible := racing.table bound absent
  rw [← contents] at visible
  have recorded := racing.recorded t bound
  have peer := (racing.recorded (other t) (other_lt bound)).committed
  have held : race.db.singleConnection = true → store.holder = some t := by
    intro single
    rw [holder]
    exact racing.holder single t bound (by rw [at_]; rfl)
  rw [at_] at recorded
  cases found : (Query.filtered
      (hasIdempotencyKey race.db (race.operation t).idempotencyKey)).pick rows with
  | none =>
      have missing := known_false visible (Query.pick_eq_none.mp found)
      rw [found] at ran
      refine ⟨.inserting (stage (other t)).isCreated, racing.moved bound ran (by rw [at_]; rfl)
        (racing.idle bound absent rfl records) ⟨rows, snapshot, visible⟩
        (fun single _ => held single) (fun _ => rfl) (by simp [Stage.isCreated]) ?_
        (recorded.first rfl rfl rfl rfl peer.symm)⟩
      exact ⟨id, by simp [Stage.isStored], fun _ => missing, by simp [Stage.rejected],
        by simp [Stage.isStored], fun _ _ _ created => created, by simp [Stage.outcome]⟩
  | some row =>
      obtain ⟨member, matched⟩ := Query.pick_mem found
      rw [found] at ran
      refine ⟨.ending (stage (other t)).isCreated (.ok (row.toOperation, false)),
        racing.moved bound ran (by rw [at_]; rfl) (racing.idle bound absent rfl records) trivial
          (fun single _ => held single) (fun _ => rfl) (by simp [Stage.isCreated]) ?_
          (recorded.first rfl rfl rfl rfl peer.symm)⟩
      refine ⟨id, by simp [Stage.isStored], by simp [Stage.missed], by simp [Stage.rejected],
        by simp [Stage.isStored], fun _ _ _ created => created, ?_⟩
      rintro outcome ⟨⟩
      refine ⟨rfl, ?_⟩
      rcases (visible row).mp member with old | ⟨created, rfl⟩
      · exact .inl ⟨row, old, matched, rfl⟩
      · exact .inr ⟨created, matched, rfl⟩

private theorem Racing.explaining_step (racing : race.Racing stage config) {t : Nat}
    (bound : t < 2) {saw : Bool} (at_ : stage t = .explaining saw) {call : Statement Row GoString}
    {continuation : call.Reply → Repository RaceOutcome}
    (program : (Stage.explaining saw).program race.db (race.operation t) =
      .call call continuation)
    {fault : Bool} {reply : call.Reply} {store : Store Row}
    (ran : (engine race.db race.references).perform t call fault config.state =
      some (reply, store))
    (available : unavailable (⟨call, reply⟩ : Event _ _) = false) :
    ∃ next, race.Racing (moveTo stage t next)
      (config.advance t (race.operation t) ⟨call, reply⟩ (continuation reply) store) := by
  simp only [Stage.program, explainRejection, findOperation, Client.select,
    Program.perform_bind] at program
  cases program
  have absent : (stage t).isStored = false := by rw [at_]; rfl
  obtain ⟨rows, contents, rfl, snapshot, records, holder⟩ := racing.read bound absent ran available
  have fixed := racing.snapshot t bound
  have standing := racing.standing t bound
  have recorded := racing.recorded t bound
  rw [at_] at fixed standing recorded
  obtain ⟨former, taken, visible⟩ := fixed
  rw [taken, Option.getD_some] at contents
  subst contents
  obtain ⟨unknown, unlike⟩ := standing.missed rfl
  have nothing : (Query.filtered
      (hasIdempotencyKey race.db (race.operation t).idempotencyKey)).pick rows = none := by
    rw [Query.pick_eq_none]
    intro row member
    rcases (visible row).mp member with old | ⟨created, rfl⟩
    · exact Bool.eq_false_iff.mpr fun same => by
        have absent := List.any_eq_false.mp unknown row old
        exact absent same
    · exact unlike created
  rw [nothing] at ran ⊢
  refine ⟨.searching saw, racing.moved bound ran (by rw [at_]; rfl)
    (racing.idle bound absent rfl records) ⟨rows, snapshot, visible⟩ ?_
    (fun _ => rfl) (by simp [Stage.isCreated]) ?_ (recorded.again rfl rfl rfl rfl)⟩
  · intro single _
    rw [holder]
    exact racing.holder single t bound (by rw [at_]; rfl)
  · exact ⟨standing.seen, by simp [Stage.isStored], fun _ => ⟨unknown, unlike⟩,
      fun _ => standing.rejected rfl, by simp [Stage.isStored],
      fun single _ _ => standing.serial single rfl rfl, by simp [Stage.outcome]⟩

/-- With distinct ids the rows clash on the key or on the server. -/
theorem conflict_eq (admissible : race.Admissible) {t : Nat} (bound : t < 2) :
    race.conflict t = (race.sameKey t || race.sameServer t) := by
  have distinct : race.db.same (race.operation t).id (race.operation (other t)).id = false := by
    have ids := admissible.distinct
    match t, bound with
    | 0, _ => exact ids
    | 1, _ => exact (race.db.same_symm _ _).trans ids
  simp [conflict, engine, clash, row, queuedRow, sameKey, sameServer, distinct,
    race.db.same_symm (race.operation t).idempotencyKey,
    race.db.same_symm (race.operation t).serverID]

private theorem clash_old (admissible : race.Admissible) {t : Nat} {old : Row}
    (member : old ∈ race.rows) (unknown : race.known t = false) :
    (engine race.db race.references).clash (race.row t) old =
      activeOn race.db (race.operation t).serverID old := by
  have fresh := admissible.fresh t old member
  have key := List.any_eq_false.mp unknown old member
  simp only [hasIdempotencyKey, race.db.same_symm old.idempotencyKey,
    Bool.not_eq_true] at key
  simp [engine, clash, row, queuedRow, activeOn, fresh, key, race.db.same_symm old.serverID]

private theorem Racing.searching_step (admissible : race.Admissible)
    (racing : race.Racing stage config) {t : Nat} (bound : t < 2) {saw : Bool}
    (at_ : stage t = .searching saw) {call : Statement Row GoString}
    {continuation : call.Reply → Repository RaceOutcome}
    (program : (Stage.searching saw).program race.db (race.operation t) =
      .call call continuation)
    {fault : Bool} {reply : call.Reply} {store : Store Row}
    (ran : (engine race.db race.references).perform t call fault config.state =
      some (reply, store))
    (available : unavailable (⟨call, reply⟩ : Event _ _) = false) :
    ∃ next, race.Racing (moveTo stage t next)
      (config.advance t (race.operation t) ⟨call, reply⟩ (continuation reply) store) := by
  simp only [Stage.program, findRival, findOperation, Client.select,
    Program.perform_bind] at program
  cases program
  have absent : (stage t).isStored = false := by rw [at_]; rfl
  obtain ⟨rows, contents, rfl, snapshot, records, holder⟩ := racing.read bound absent ran available
  have fixed := racing.snapshot t bound
  have standing := racing.standing t bound
  have recorded := racing.recorded t bound
  rw [at_] at fixed standing recorded
  obtain ⟨former, taken, visible⟩ := fixed
  rw [taken, Option.getD_some] at contents
  subst contents
  obtain ⟨unknown, unlike⟩ := standing.missed rfl
  have held : race.db.singleConnection = true → store.holder = some t := by
    intro single
    rw [holder]
    exact racing.holder single t bound (by rw [at_]; rfl)
  have standing_of : ∀ outcome, race.Explained t saw (stage (other t)) outcome →
      race.Standing t (.ending saw outcome) (stage (other t)) := by
    intro outcome explained
    refine ⟨standing.seen, by simp [Stage.isStored], by simp [Stage.missed],
      by simp [Stage.rejected], by simp [Stage.isStored],
      fun single _ _ => standing.serial single rfl rfl, ?_⟩
    rintro _ ⟨⟩
    exact explained
  cases found : (Query.filtered (activeOn race.db (race.operation t).serverID)).pick rows with
  | some row =>
      rw [found] at ran
      obtain ⟨member, matched⟩ := Query.pick_mem found
      refine ⟨.ending saw (.error (.sentinel .activeOperation)), racing.moved bound ran
        (by rw [at_]; rfl) (racing.idle bound absent rfl records) trivial
        (fun single _ => held single) (fun _ => rfl) (by simp [Stage.isCreated])
        (standing_of _ ⟨unknown, .inl ⟨rfl, ?_⟩⟩)
        (recorded.again rfl rfl rfl rfl)⟩
      rcases (visible row).mp member with old | ⟨created, rfl⟩
      · exact .inl (List.any_eq_true.mpr ⟨row, old, matched⟩)
      · refine .inr ⟨created, unlike created, ?_⟩
        exact (Bool.and_eq_true_iff.mp matched).1
  | none =>
      rw [found] at ran
      have nothing := Query.pick_eq_none.mp found
      have idle : race.busy t = false := by
        refine List.any_eq_false.mpr ?_
        intro old member
        have inactive := nothing old ((visible old).mpr (.inl member))
        simpa [Query.filtered] using inactive
      obtain ⟨conflict, created⟩ : race.conflict t = true ∧ (stage (other t)).isCreated = true := by
        rcases standing.rejected rfl with busy | both
        · rw [busy] at idle
          cases idle
        · exact both
      have blind : saw = false := by
        by_contra seen
        have visible_ : saw = true := by simpa using seen
        have apart := nothing _ ((visible _).mpr (.inr ⟨visible_, rfl⟩))
        have elsewhere : race.sameServer t = false := by
          simpa [Query.filtered, activeOn, row, queuedRow, sameServer] using apart
        rw [conflict_eq admissible bound, unlike visible_, elsewhere] at conflict
        cases conflict
      have shared : race.db.singleConnection = false := by
        by_contra single
        have seen := standing.serial (by simpa using single) rfl rfl created
        exact Bool.false_ne_true (blind.symm.trans seen)
      refine ⟨.ending saw (.error (.wrapped (text "create operation") (race.db.failed .duplicate))),
        racing.moved bound ran (by rw [at_]; rfl) (racing.idle bound absent rfl records) trivial
        (fun single _ => held single) (fun _ => rfl) (by simp [Stage.isCreated])
        (standing_of _ ⟨unknown, .inr ⟨by simp, idle, blind, shared, conflict, created⟩⟩)
        (recorded.again rfl rfl rfl rfl)⟩

private theorem Racing.inserting_step (admissible : race.Admissible)
    (racing : race.Racing stage config) {t : Nat} (bound : t < 2) {saw : Bool}
    (at_ : stage t = .inserting saw) {call : Statement Row GoString}
    {continuation : call.Reply → Repository RaceOutcome}
    (program : (Stage.inserting saw).program race.db (race.operation t) =
      .call call continuation)
    {fault : Bool} {reply : call.Reply} {store : Store Row}
    (ran : (engine race.db race.references).perform t call fault config.state =
      some (reply, store))
    (available : unavailable (⟨call, reply⟩ : Event _ _) = false) :
    ∃ next, race.Racing (moveTo stage t next)
      (config.advance t (race.operation t) ⟨call, reply⟩ (continuation reply) store) := by
  simp only [Stage.program, insertQueued, Client.insert, Program.perform_bind] at program
  cases program
  have absent : (stage t).isStored = false := by rw [at_]; rfl
  have fixed := racing.snapshot t bound
  have standing := racing.standing t bound
  have recorded := racing.recorded t bound
  rw [at_] at fixed standing recorded
  obtain ⟨unknown, unlike⟩ := standing.missed rfl
  have performed := perform_available ran available
  simp only [Engine.perform, Bool.false_eq_true, if_false] at performed
  split at performed
  · have open_ : (stage t).isOpen = true := by rw [at_]; rfl
    cases reply with
    | error failure =>
        obtain ⟨rfl, rfl, record, member, clashing, free⟩ :=
          Engine.insert_rejected (admissible.accepted t) performed
        refine ⟨.explaining saw, racing.moved bound ran (by rw [at_]; rfl)
          (racing.idle bound absent rfl rfl) fixed (fun single _ => racing.holder single t bound open_)
          (fun _ => rfl) (by simp [Stage.isCreated]) ?_ (recorded.silent rfl rfl rfl rfl rfl)⟩
        refine ⟨standing.seen, by simp [Stage.isStored], fun _ => ⟨unknown, unlike⟩, ?_,
          by simp [Stage.isStored], fun single _ _ => standing.serial single rfl rfl,
          by simp [Stage.outcome]⟩
        intro _
        obtain ⟨version, among, clash⟩ := List.any_eq_true.mp clashing
        rcases (racing.sides bound record).mp member with ⟨old, former, rfl⟩ | ⟨_, rfl⟩ | ⟨holds, _⟩
        · simp only [Stored.mem_versions, Stored.pending, Option.bind_none, reduceCtorEq, or_false,
            Option.some.injEq] at among
          subst among
          rw [clash_old admissible former unknown] at clash
          exact .inl (List.any_eq_true.mpr ⟨old, former, clash⟩)
        · unfold stored at among free
          split at among
          · next created =>
              simp only [Stored.mem_versions, Stored.pending, Option.bind_none, reduceCtorEq,
                or_false, Option.some.injEq] at among
              subst among
              exact .inr ⟨clash, created⟩
          · next uncreated =>
              simp only [uncreated, Bool.false_eq_true, if_false, Stored.available,
                decide_eq_true_eq] at free
              exact absurd free (other_ne bound)
        · rw [holds] at absent
          cases absent
    | ok _ =>
        obtain ⟨clear, rfl⟩ := Engine.insert_created performed
        refine ⟨.committing saw, racing.moved bound ran (by rw [at_]; rfl) ?_ trivial
          (fun single _ => racing.holder single t bound open_) (fun _ => rfl) (by simp [Stage.isCreated]) ?_
          (recorded.silent rfl rfl rfl rfl rfl)⟩
        · intro record
          rw [List.mem_append, racing.sides bound record, absent, List.mem_singleton]
          simp only [Bool.false_eq_true, false_and, or_false, Stage.isStored, true_and]
          rw [or_assoc]
          rfl
        · refine ⟨standing.seen, ?_, fun _ => ⟨unknown, unlike⟩, by simp [Stage.rejected], ?_,
            fun single _ _ => standing.serial single rfl rfl, by simp [Stage.outcome]⟩
          · intro _ holds
            have apart := clear _ ((racing.sides bound _).mpr (.inr (.inl ⟨holds, rfl⟩)))
            refine Engine.clashes_eq_false_iff.mp apart _ (Stored.mem_versions.mpr ?_)
            unfold stored
            split
            · exact .inl rfl
            · exact .inr rfl
          · intro _
            refine List.any_eq_false.mpr ?_
            intro old member
            have apart := clear _ ((racing.sides bound _).mpr (.inl ⟨old, member, rfl⟩))
            have unclashing : (engine race.db race.references).clash (race.row t) old = false :=
              Engine.clashes_eq_false_iff.mp apart old (Stored.mem_versions.mpr (.inl rfl))
            rw [clash_old admissible member unknown] at unclashing
            simp [unclashing]
  · cases performed

/-- The end of a transaction maps the stored rows; those of others stay. -/
private theorem Racing.finished (racing : race.Racing stage config) {t : Nat} (bound : t < 2)
    {finish : Stored Row → Stored Row} {next : Stage}
    (old : ∀ row, finish ⟨some row, none⟩ = ⟨some row, none⟩)
    (others : ∀ record version, record.lock = some (other t, version) → finish record = record)
    (own : (stage t).isStored = true →
      next.isStored = true ∧ finish (race.stored t (stage t)) = race.stored t next)
    (absent : (stage t).isStored = false → next.isStored = false) :
    ∀ record, record ∈ config.state.records.map finish ↔
      (∃ row ∈ race.rows, record = ⟨some row, none⟩) ∨
        ((stage (other t)).isStored = true ∧
          record = race.stored (other t) (stage (other t))) ∨
        (next.isStored = true ∧ record = race.stored t next) := by
  have peer : finish (race.stored (other t) (stage (other t))) =
      race.stored (other t) (stage (other t)) := by
    unfold stored
    split
    · exact old _
    · exact others _ _ rfl
  intro record
  rw [List.mem_map]
  constructor
  · rintro ⟨former, member, rfl⟩
    rcases (racing.sides bound former).mp member with ⟨row, was, rfl⟩ | ⟨holds, rfl⟩ | ⟨holds, rfl⟩
    · exact .inl ⟨row, was, old row⟩
    · exact .inr (.inl ⟨holds, peer⟩)
    · exact .inr (.inr (own holds))
  · rintro (⟨row, was, rfl⟩ | ⟨holds, rfl⟩ | ⟨holds, rfl⟩)
    · exact ⟨⟨some row, none⟩, (racing.sides bound _).mpr (.inl ⟨row, was, rfl⟩), old row⟩
    · exact ⟨_, (racing.sides bound _).mpr (.inr (.inl ⟨holds, rfl⟩)), peer⟩
    · have present : (stage t).isStored = true := by
        by_contra missing
        rw [absent (Bool.eq_false_iff.mpr missing)] at holds
        cases holds
      exact ⟨_, (racing.sides bound _).mpr (.inr (.inr ⟨present, rfl⟩)), (own present).2⟩

private theorem Racing.committing_step (racing : race.Racing stage config) {t : Nat}
    (bound : t < 2) {saw : Bool} (at_ : stage t = .committing saw)
    {call : Statement Row GoString} {continuation : call.Reply → Repository RaceOutcome}
    (program : (Stage.committing saw).program race.db (race.operation t) =
      .call call continuation)
    {fault : Bool} {reply : call.Reply} {store : Store Row}
    (ran : (engine race.db race.references).perform t call fault config.state =
      some (reply, store))
    (available : unavailable (⟨call, reply⟩ : Event _ _) = false) :
    ∃ next, race.Racing (moveTo stage t next)
      (config.advance t (race.operation t) ⟨call, reply⟩ (continuation reply) store) := by
  simp only [Stage.program, commitQueued, Client.commit, Program.perform_bind] at program
  cases program
  have standing := racing.standing t bound
  have recorded := racing.recorded t bound
  rw [at_] at standing recorded
  have performed := perform_available ran available
  simp only [Engine.perform, Bool.false_eq_true, if_false] at performed
  split at performed
  · cases performed
    refine ⟨.created saw, racing.moved bound ran (by rw [at_]; rfl) ?_ trivial
      (by simp [Stage.isOpen]) (fun holding => absurd holding (perform_closes ran rfl)) ?_ ?_
      (recorded.commit rfl rfl rfl rfl)⟩
    · refine racing.finished bound ?_ ?_ ?_ ?_
      · intro row
        rfl
      · intro record version locked
        exact Stored.settle_other locked (other_ne bound)
      · intro _
        rw [at_]
        exact ⟨rfl, by simp [stored, Stage.isCreated, Stored.settle]⟩
      · rw [at_]
        simp [Stage.isStored]
    · intro _ single
      exact racing.holder single t bound (by rw [at_]; rfl)
    · exact ⟨standing.seen, fun _ => standing.apart rfl, fun _ => standing.missed rfl,
        by simp [Stage.rejected], fun _ => standing.free rfl, by simp [Stage.isOpen],
        by simp [Stage.outcome]⟩
  · cases performed

private theorem Racing.ending_step (racing : race.Racing stage config) {t : Nat} (bound : t < 2)
    {saw : Bool} {outcome : RaceOutcome} (at_ : stage t = .ending saw outcome)
    {call : Statement Row GoString} {continuation : call.Reply → Repository RaceOutcome}
    (program : (Stage.ending saw outcome).program race.db (race.operation t) =
      .call call continuation)
    {fault : Bool} {reply : call.Reply} {store : Store Row}
    (ran : (engine race.db race.references).perform t call fault config.state =
      some (reply, store)) :
    ∃ next, race.Racing (moveTo stage t next)
      (config.advance t (race.operation t) ⟨call, reply⟩ (continuation reply) store) := by
  simp only [Stage.program, Client.endWith, Client.rollback, Program.perform_bind] at program
  cases program
  have standing := racing.standing t bound
  have recorded := racing.recorded t bound
  rw [at_] at standing recorded
  have performed := ran
  simp only [Engine.perform] at performed
  cases performed
  refine ⟨.returned saw outcome, racing.moved bound ran (by rw [at_]; rfl) ?_ trivial
    (by simp [Stage.isOpen]) (fun holding => absurd holding (perform_closes ran rfl))
    (by simp [Stage.isCreated]) ?_
    (recorded.silent rfl rfl rfl rfl rfl)⟩
  · refine racing.finished bound ?_ ?_ ?_ ?_
    · intro row
      rfl
    · intro record version locked
      exact Stored.release_other locked (other_ne bound)
    · rw [at_]
      simp [Stage.isStored]
    · intro _
      rfl
  · exact ⟨standing.seen, by simp [Stage.isStored], by simp [Stage.missed],
      by simp [Stage.rejected], by simp [Stage.isStored], by simp [Stage.isOpen],
      standing.explained⟩

end Steps

/-- Every statement answered by the database, and nothing but statements. -/
def Answered (_ : RaceConfig)
    (label : Label (Statement Row GoString) Statement.Reply Operation Bool) : Prop :=
  ∃ t event, label = .performed t event ∧ unavailable event = false

variable {race} in
theorem Racing.step (admissible : race.Admissible) {stage : Nat → Stage}
    {config next : RaceConfig} (racing : race.Racing stage config)
    {label : Label (Statement Row GoString) Statement.Reply Operation Bool}
    (transition : race.system.Transition config label next) (answered : Answered config label) :
    ∃ after, race.Racing after next := by
  obtain ⟨t, event, rfl, available⟩ := answered
  cases transition with
  | performed found ran =>
      have bound : t < 2 := by
        have within := (List.getElem?_eq_some_iff.mp found).1
        rw [racing.threads] at within
        exact within
      have same := (racing.thread_found bound).symm.trans found
      simp only [Option.some.injEq, Thread.mk.injEq] at same
      obtain ⟨rfl, program⟩ := same
      suffices moved : ∃ after, race.Racing (moveTo stage t after) _ by
        obtain ⟨after, racing⟩ := moved
        exact ⟨_, racing⟩
      cases at_ : stage t with
      | ready =>
          rw [at_] at program
          exact racing.begin_step bound at_ program ran available
      | reading =>
          rw [at_] at program
          exact racing.reading_step bound at_ program ran available
      | inserting saw =>
          rw [at_] at program
          exact racing.inserting_step admissible bound at_ program ran available
      | committing saw =>
          rw [at_] at program
          exact racing.committing_step bound at_ program ran available
      | explaining saw =>
          rw [at_] at program
          exact racing.explaining_step bound at_ program ran available
      | searching saw =>
          rw [at_] at program
          exact racing.searching_step admissible bound at_ program ran available
      | ending saw outcome =>
          rw [at_] at program
          exact racing.ending_step bound at_ program ran
      | created saw =>
          rw [at_] at program
          cases program
      | returned saw outcome =>
          rw [at_] at program
          cases program

theorem racing_start : race.Racing (fun _ => .ready) race.start where
  threads := rfl
  records := by
    intro record
    simp only [start, Config.spawn, Config.initial, Store.ofTable, List.mem_map, Stage.isStored,
      Bool.false_eq_true, false_and, and_false, exists_false, or_false]
    constructor
    · rintro ⟨row, member, rfl⟩
      exact ⟨row, member, rfl⟩
    · rintro ⟨row, member, rfl⟩
      exact ⟨row, member, rfl⟩
  snapshot _ _ := rfl
  holder _ t _ busy := by cases busy
  held h holding := by cases holding
  standing t _ := ⟨by simp [Stage.saw], by simp [Stage.isStored], by simp [Stage.missed],
    by simp [Stage.rejected], by simp [Stage.isStored], by simp [Stage.isOpen],
    by simp [Stage.outcome]⟩
  recorded t _ := by
    refine ⟨by simp [start, Config.spawn, Config.initial, Stage.isCreated],
      by simp [start, Config.spawn, Config.initial], by simp [Stage.hasRead], ?_⟩
    simp [Stage.saw, start, Config.spawn, Config.initial, ReadAfter]

variable {race} in
theorem racing_run (admissible : race.Admissible) {config : RaceConfig}
    (run : race.system.Run Answered race.start config) :
    ∃ stage, race.Racing stage config := by
  apply System.Run.invariant run
  · exact ⟨_, race.racing_start⟩
  · rintro before label after _ transition answered ⟨stage, racing⟩
    exact racing.step admissible transition answered

end Race

end NodeAtlas.Operations
