import NodeAtlas.Transactions.Properties

/-! What a transaction may rely on between its own statements: the rows it
wrote or locked stay as they are, and on an engine that runs one transaction
at a time so does the whole table. -/

set_option autoImplicit false

namespace NodeAtlas.Transactions

open Interleaving

variable {Row Key Task Outcome : Type}

variable [DecidableEq Key] {engine : Engine Row Key}

namespace Stored

theorem settle_other {t u : Nat} {record : Stored Row} {version : Option Row}
    (locked : record.lock = some (u, version)) (different : u ≠ t) :
    record.settle t = record := by
  simp [settle, locked, different]

theorem release_other {t u : Nat} {record : Stored Row} {version : Option Row}
    (locked : record.lock = some (u, version)) (different : u ≠ t) :
    record.release t = record := by
  simp [release, locked, different]

theorem release_committed (t : Nat) (record : Stored Row) :
    (record.release t).committed = record.committed := by
  unfold release
  split
  · split <;> rfl
  · rfl

/-- Settling puts the pending version in place, if the transaction has one. -/
theorem settle_cases (t : Nat) (record : Stored Row) :
    (record.settle t).committed = record.committed ∨
      ∃ new, record.lock = some (t, some new) ∧ (record.settle t).committed = some new := by
  unfold settle
  split
  · next owner version locked =>
      split
      · next same =>
          subst same
          cases version with
          | none => exact .inl rfl
          | some new => exact .inr ⟨new, locked, rfl⟩
      · exact .inl rfl
  · exact .inl rfl

theorem settle_locked {t : Nat} {record : Stored Row} {new : Row}
    (locked : record.lock = some (t, some new)) : (record.settle t).committed = some new := by
  simp [settle, locked]

theorem settle_unlocked {t : Nat} {record : Stored Row}
    (unlocked : ∀ new, record.lock ≠ some (t, some new)) :
    (record.settle t).committed = record.committed := by
  rcases settle_cases t record with same | ⟨new, locked, _⟩
  · exact same
  · exact absurd locked (unlocked new)

theorem settle_lock {t u : Nat} {record : Stored Row} {version : Option Row}
    (locked : (record.settle t).lock = some (u, version)) :
    record.lock = some (u, version) := by
  unfold settle at locked
  split at locked
  · split at locked
    · cases locked
    · exact locked
  · exact locked

theorem release_lock {t u : Nat} {record : Stored Row} {version : Option Row}
    (locked : (record.release t).lock = some (u, version)) :
    record.lock = some (u, version) := by
  unfold release at locked
  split at locked
  · split at locked
    · cases locked
    · exact locked
  · exact locked

end Stored

theorem Engine.overwrite_other {t u : Nat} {key : Key} {row : Row} {record : Stored Row}
    {version : Option Row} (locked : record.lock = some (u, version)) (different : u ≠ t)
    (available : engine.hasKey key record = true → record.available t = true) :
    engine.overwrite t key row record = record := by
  unfold Engine.overwrite
  split
  · next found =>
      have free := available found
      simp [Stored.available, locked, different] at free
  · rfl

theorem Engine.hold_other {t u : Nat} {key : Key} {record : Stored Row}
    {version : Option Row} (locked : record.lock = some (u, version)) (different : u ≠ t) :
    engine.hold t key record = record := by
  simp [Engine.hold, Stored.available, locked, different]

/-- A row that another transaction holds is not touched. -/
theorem Effect.keeps {t u : Nat} {records next : List (Stored Row)}
    {event : Event (Statement Row Key) Statement.Reply}
    (effect : Effect engine t records event next) {record : Stored Row}
    (member : record ∈ records) {version : Option Row}
    (locked : record.lock = some (u, version)) (different : u ≠ t) : record ∈ next := by
  cases effect with
  | unchanged _ _ => exact member
  | inserted => exact List.mem_append_left _ member
  | updated _ _ _ _ _ available _ =>
      refine List.mem_map.mpr ⟨record, member, ?_⟩
      exact Engine.overwrite_other locked different (available record member)
  | held => exact List.mem_map.mpr ⟨record, member, Engine.hold_other locked different⟩
  | settled => exact List.mem_map.mpr ⟨record, member, Stored.settle_other locked different⟩
  | failed => exact List.mem_map.mpr ⟨record, member, Stored.release_other locked different⟩
  | released => exact List.mem_map.mpr ⟨record, member, Stored.release_other locked different⟩

/-- A pending version was there before, or the statement wrote it. -/
theorem Effect.pending {t u : Nat} {records next : List (Stored Row)}
    {event : Event (Statement Row Key) Statement.Reply}
    (effect : Effect engine t records event next) {record : Stored Row}
    (member : record ∈ next) {row : Row} (locked : record.lock = some (u, some row)) :
    (∃ former ∈ records, former.lock = some (u, some row)) ∨ u = t ∧ wrote event = true := by
  cases effect with
  | unchanged _ _ => exact .inl ⟨record, member, locked⟩
  | inserted =>
      rcases List.mem_append.mp member with former | added
      · exact .inl ⟨record, former, locked⟩
      · rw [List.mem_singleton.mp added] at locked
        cases locked
        exact .inr ⟨rfl, rfl⟩
  | updated =>
      obtain ⟨former, stored, rfl⟩ := List.mem_map.mp member
      unfold Engine.overwrite at locked
      split at locked
      · cases locked
        exact .inr ⟨rfl, rfl⟩
      · exact .inl ⟨former, stored, locked⟩
  | held =>
      obtain ⟨former, stored, rfl⟩ := List.mem_map.mp member
      unfold Engine.hold at locked
      split at locked
      · next free =>
          simp only [Option.some.injEq, Prod.mk.injEq] at locked
          obtain ⟨rfl, version⟩ := locked
          rcases Stored.available_cases (Bool.and_eq_true_iff.mp free).1 with unlocked | ⟨own, mine⟩
          · simp [Stored.pending, unlocked] at version
          · simp only [Stored.pending, mine, Option.bind_some] at version
            exact .inl ⟨former, stored, by rw [mine, version]⟩
      · exact .inl ⟨former, stored, locked⟩
  | settled =>
      obtain ⟨former, stored, rfl⟩ := List.mem_map.mp member
      exact .inl ⟨former, stored, Stored.settle_lock locked⟩
  | failed =>
      obtain ⟨former, stored, rfl⟩ := List.mem_map.mp member
      exact .inl ⟨former, stored, Stored.release_lock locked⟩
  | released =>
      obtain ⟨former, stored, rfl⟩ := List.mem_map.mp member
      exact .inl ⟨former, stored, Stored.release_lock locked⟩

theorem Effect.settled_records {t : Nat} {records next : List (Stored Row)}
    {event : Event (Statement Row Key) Statement.Reply}
    (effect : Effect engine t records event next) (settled : settles event = true) :
    next = records.map (Stored.settle t) := by
  cases effect with
  | unchanged _ unsettled =>
      rw [settled] at unsettled
      cases unsettled
  | settled => rfl
  | _ => cases settled

private theorem committed_map {records : List (Stored Row)} {finish : Stored Row → Stored Row}
    (same : ∀ record, (finish record).committed = record.committed) :
    (records.map finish).filterMap (·.committed) = records.filterMap (·.committed) := by
  rw [List.filterMap_map]
  congr 1
  funext record
  exact same record

/-- Only a commit changes the committed rows. -/
theorem Effect.committed {t : Nat} {records next : List (Stored Row)}
    {event : Event (Statement Row Key) Statement.Reply}
    (effect : Effect engine t records event next) (unsettled : settles event = false) :
    next.filterMap (·.committed) = records.filterMap (·.committed) := by
  cases effect with
  | unchanged _ _ => rfl
  | inserted => simp
  | updated =>
      refine committed_map ?_
      intro record
      unfold Engine.overwrite
      split <;> rfl
  | held =>
      refine committed_map ?_
      intro record
      unfold Engine.hold
      split <;> rfl
  | settled => cases unsettled
  | failed => exact committed_map (Stored.release_committed t)
  | released => exact committed_map (Stored.release_committed t)

/-! ## One transaction at a time -/

theorem Store.close_table_release (t : Nat) (store : Store Row) :
    (store.close t (Stored.release t)).table = store.table :=
  committed_map (Stored.release_committed t)

/-- While `t` holds the engine, nobody else can move the table. -/
theorem perform_excluded {t u : Nat} {statement : Statement Row Key} {fault : Bool}
    {store next : Store Row} {reply : statement.Reply}
    (exclusive : engine.exclusive = true) (held : store.holder = some t) (different : t ≠ u)
    (ran : engine.perform u statement fault store = some (reply, next)) :
    next.holder = some t ∧ next.snapshots t = store.snapshots t ∧ next.table = store.table := by
  have refused : engine.admits u store = false := by
    simp [Engine.admits, exclusive, held, different]
  cases statement with
  | begin =>
      simp only [Engine.perform, Engine.beginTransaction, exclusive, held] at ran
      split at ran
      · cases ran
        exact ⟨held, rfl, rfl⟩
      · simp at ran
  | rollback =>
      simp only [Engine.perform] at ran
      cases ran
      refine ⟨?_, ?_, Store.close_table_release u store⟩
      · simp [Store.close, held, different]
      · simp [Store.close, different]
  | _ => simp [Engine.perform, refused] at ran

theorem perform_holder {t u : Nat} {statement : Statement Row Key} {fault : Bool}
    {store next : Store Row} {reply : statement.Reply} (different : t ≠ u)
    (ran : engine.perform u statement fault store = some (reply, next))
    (held : next.holder = some t) : store.holder = some t := by
  cases statement with
  | begin =>
      simp only [Engine.perform, Engine.beginTransaction] at ran
      repeat' split at ran
      all_goals cases ran
      · exact held
      · exact absurd (Option.some.inj held).symm different
      · exact held
  | select query =>
      simp only [Engine.perform, Engine.select] at ran
      repeat' split at ran
      all_goals cases ran
      all_goals exact held
  | selectForUpdate query =>
      simp only [Engine.perform, Engine.selectForUpdate] at ran
      repeat' split at ran
      all_goals cases ran
      all_goals exact held
  | insert row =>
      simp only [Engine.perform, Engine.insert] at ran
      repeat' split at ran
      all_goals cases ran
      all_goals exact held
  | update key guard change =>
      simp only [Engine.perform, Engine.update] at ran
      repeat' split at ran
      all_goals cases ran
      all_goals exact held
  | commit =>
      simp only [Engine.perform] at ran
      repeat' split at ran
      all_goals cases ran
      all_goals
        simp only [Store.close] at held
        split at held
        · cases held
        · exact held
  | rollback =>
      simp only [Engine.perform] at ran
      cases ran
      simp only [Store.close] at held
      split at held
      · cases held
      · exact held

/-- The last statement of a transaction leaves nothing of it behind. -/
theorem perform_closes {t : Nat} {statement : Statement Row Key} {fault : Bool}
    {store next : Store Row} {reply : statement.Reply}
    (ran : engine.perform t statement fault store = some (reply, next))
    (closing : closes (⟨statement, reply⟩ : Event _ _) = true) : next.holder ≠ some t := by
  have closed : ∀ finish, (store.close t finish).holder ≠ some t := by
    intro finish
    simp only [Store.close]
    split
    · simp
    · next other => exact other
  cases statement with
  | commit =>
      simp only [Engine.perform] at ran
      repeat' split at ran
      all_goals cases ran
      all_goals exact closed _
  | rollback =>
      simp only [Engine.perform] at ran
      cases ran
      exact closed _
  | _ => cases closing

/-- On an exclusive engine a statement inside a transaction runs for the holder. -/
theorem perform_admitted {t : Nat} {statement : Statement Row Key} {fault : Bool}
    {store next : Store Row} {reply : statement.Reply} (exclusive : engine.exclusive = true)
    (ran : engine.perform t statement fault store = some (reply, next)) :
    next = store ∨ next.snapshots t = none ∨ store.holder = some t := by
  have admitted : engine.admits t store = true → store.holder = some t := by
    simp [Engine.admits, exclusive]
  cases statement with
  | begin =>
      simp only [Engine.perform, Engine.beginTransaction] at ran
      repeat' split at ran
      all_goals cases ran
      · exact .inl rfl
      all_goals exact .inr (.inl (by simp))
  | rollback =>
      simp only [Engine.perform] at ran
      cases ran
      exact .inr (.inl (by simp [Store.close]))
  | _ =>
      simp only [Engine.perform] at ran
      split at ran
      · next admission => exact .inr (.inr (admitted admission))
      · cases ran

/-- The snapshot of the holder of an exclusive engine is the table. -/
def Current (t : Nat) (store : Store Row) : Prop :=
  ∀ rows, store.holder = some t → store.snapshots t = some rows → rows = store.table

private theorem perform_current {t : Nat} {statement : Statement Row Key} {fault : Bool}
    {store next : Store Row} {reply : statement.Reply} (exclusive : engine.exclusive = true)
    (ran : engine.perform t statement fault store = some (reply, next))
    (current : Current t store) : Current t next := by
  intro rows held fixed
  rcases perform_admitted exclusive ran with rfl | dropped | holding
  · exact current rows held fixed
  · rw [dropped] at fixed
    cases fixed
  · have unsettled : settles (⟨statement, reply⟩ : Event _ _) = false := by
      by_contra settled
      refine perform_closes ran ?_ held
      unfold settles at settled
      split at settled
      · next committed => rw [committed]; rfl
      · exact absurd rfl settled
    have table : next.table = store.table := (perform_effect ran).committed unsettled
    rw [table]
    rcases perform_snapshots_self ran with dropped | same | taken
    · rw [dropped] at fixed
      cases fixed
    · exact current rows holding (same.symm.trans fixed)
    · exact Option.some.inj (fixed.symm.trans taken)

/-! ## What a statement answers -/

/-- The database failed the statement. -/
def unavailable : Event (Statement Row Key) Statement.Reply → Bool
  | ⟨.begin, .error .unavailable⟩ => true
  | ⟨.select _, .error .unavailable⟩ => true
  | ⟨.selectForUpdate _, .error .unavailable⟩ => true
  | ⟨.insert _, .error .unavailable⟩ => true
  | ⟨.update _ _ _, .error .unavailable⟩ => true
  | ⟨.commit, .error .unavailable⟩ => true
  | _ => false

theorem perform_available {t : Nat} {statement : Statement Row Key} {fault : Bool}
    {store next : Store Row} {reply : statement.Reply}
    (ran : engine.perform t statement fault store = some (reply, next))
    (available : unavailable (⟨statement, reply⟩ : Event _ _) = false) :
    engine.perform t statement false store = some (reply, next) := by
  cases fault with
  | false => exact ran
  | true =>
      cases statement with
      | rollback => exact ran
      | begin =>
          simp only [Engine.perform, if_true, Option.some.injEq, Prod.mk.injEq] at ran
          rw [← ran.1] at available
          cases available
      | _ =>
          simp only [Engine.perform, if_true] at ran
          split at ran
          · simp only [Option.some.injEq, Prod.mk.injEq] at ran
            rw [← ran.1] at available
            cases available
          · cases ran

/-- Without a fault no statement is refused as unavailable. -/
theorem perform_unfaulted {t : Nat} {statement : Statement Row Key} {store next : Store Row}
    {reply : statement.Reply} (ran : engine.perform t statement false store = some (reply, next)) :
    unavailable (⟨statement, reply⟩ : Event _ _) = false := by
  cases statement with
  | begin =>
      simp only [Engine.perform, Engine.beginTransaction, Bool.false_eq_true, if_false] at ran
      repeat' split at ran
      all_goals cases ran <;> rfl
  | select query =>
      simp only [Engine.perform, Engine.select, Bool.false_eq_true, if_false] at ran
      split at ran <;> cases ran
      rfl
  | selectForUpdate query =>
      simp only [Engine.perform, Engine.selectForUpdate, Bool.false_eq_true, if_false] at ran
      repeat' split at ran
      all_goals cases ran <;> rfl
  | insert row =>
      simp only [Engine.perform, Engine.insert, Bool.false_eq_true, if_false] at ran
      repeat' split at ran
      all_goals cases ran <;> rfl
  | update key guard change =>
      simp only [Engine.perform, Engine.update, Bool.false_eq_true, if_false] at ran
      repeat' split at ran
      all_goals cases ran <;> rfl
  | commit =>
      simp only [Engine.perform, Bool.false_eq_true, if_false] at ran
      split at ran <;> cases ran
      rfl
  | rollback => rfl

/-- A plain read of a transaction that has written nothing. -/
theorem Engine.select_clean {t : Nat} {query : Query Row} {store : Store Row}
    (clean : ∀ record ∈ store.records, ∀ row, record.lock ≠ some (t, some row)) :
    engine.select t query store =
      (.ok (query.pick ((store.snapshots t).getD store.table)),
        { store with snapshots :=
            Function.update store.snapshots t (some ((store.snapshots t).getD store.table)) }) := by
  have unwritten : (store.records.filterMap fun record =>
      if record.available t then record.pending else none) = [] := by
    rw [List.filterMap_eq_nil_iff]
    intro record member
    split
    · next free =>
        rcases Stored.available_cases free with unlocked | ⟨version, locked⟩
        · simp [Stored.pending, unlocked]
        · cases version with
          | none => simp [Stored.pending, locked]
          | some row => exact absurd locked (clean record member row)
    · rfl
  simp only [Engine.select, unwritten, List.all_nil, List.filter_true, List.append_nil]

omit [DecidableEq Key] in
theorem Engine.insert_created {t : Nat} {row : Row} {store next : Store Row}
    (ran : engine.insert t row store = some (.ok (), next)) :
    (∀ record ∈ store.records, engine.clashes row record = false) ∧
      next = { store with records := store.records ++ [⟨none, some (t, some row)⟩] } := by
  unfold Engine.insert at ran
  dsimp only at ran
  repeat' split at ran
  all_goals cases ran
  next unrivalled =>
    refine ⟨?_, rfl⟩
    intro record member
    have absent := List.filter_eq_nil_iff.mp (List.isEmpty_iff.mp unrivalled) record member
    simpa using absent

omit [DecidableEq Key] in
theorem Engine.insert_rejected {t : Nat} {row : Row} {failure : Failure} {store next : Store Row}
    (accepted : engine.accepts row = true)
    (ran : engine.insert t row store = some (.error failure, next)) :
    next = store ∧ failure = .duplicate ∧
      ∃ record ∈ store.records, engine.clashes row record = true ∧ record.available t = true := by
  unfold Engine.insert at ran
  rw [if_pos accepted] at ran
  dsimp only at ran
  repeat' split at ran
  all_goals cases ran
  next free rivalled =>
    refine ⟨rfl, rfl, ?_⟩
    rw [List.isEmpty_iff] at rivalled
    obtain ⟨record, among⟩ := List.exists_mem_of_ne_nil _ rivalled
    obtain ⟨member, clashing⟩ := List.mem_filter.mp among
    exact ⟨record, member, clashing, List.all_eq_true.mp free record among⟩

/-! ## Along runs -/

/-- What holds between the stored rows and the events of the threads. A read
of a live transaction is `firm` while it is the latest thing its thread did,
if it locked the row or the engine runs one transaction at a time. -/
structure Isolated (engine : Engine Row Key)
    (config : Config (Statement Row Key) Statement.Reply (Store Row) Task Outcome) : Prop where
  started : ∀ t, config.threads.length ≤ t → own t config.history = []
  unrivalled : Unrivalled engine config.state.records
  written : ∀ record ∈ config.state.records, ∀ t row, record.lock = some (t, some row) →
    ∃ event ∈ own t config.history, wrote event = true
  current : engine.exclusive = true → ∀ t, Current t config.state
  firm : ∀ t (thread : Thread (Statement Row Key) Statement.Reply Task Outcome) query row earlier,
    config.threads[t]? = some thread → thread.active = true →
    own t config.history = ⟨.selectForUpdate query, .ok (some row)⟩ :: earlier →
    (∃ event ∈ earlier, wrote event = true) ∨
      ∃ record ∈ config.state.records, ∃ version,
        record.lock = some (t, version) ∧ record.committed = some row
  alone : engine.exclusive = true →
    ∀ t (thread : Thread (Statement Row Key) Statement.Reply Task Outcome) query row earlier,
    config.threads[t]? = some thread → thread.active = true →
    own t config.history = ⟨.select query, .ok (some row)⟩ :: earlier →
    (∃ event ∈ earlier, wrote event = true) ∨
      config.state.holder = some t ∧ row ∈ config.state.table

/-- A locking read finds a row that nobody else holds, and locks it. -/
theorem perform_selectForUpdate_found {t : Nat} {query : Query Row} {fault : Bool}
    {store next : Store Row} {row : Row}
    (ran : engine.perform t (.selectForUpdate query) fault store = some (.ok (some row), next)) :
    ∃ record ∈ store.records, record.available t = true ∧ record.seenBy t = some row ∧
      next.records = store.records.map (engine.hold t (engine.key row)) := by
  simp only [Engine.perform, Engine.selectForUpdate] at ran
  split at ran
  · split at ran
    · cases ran
    · split at ran
      · cases ran
      · next picked chosen =>
          simp only [Option.some.injEq, Prod.mk.injEq, Except.ok.injEq] at ran
          obtain ⟨rfl, rfl⟩ := ran
          obtain ⟨record, member, seen⟩ := List.mem_filterMap.mp (Query.pick_mem chosen).1
          split at seen
          · next free => exact ⟨record, member, free, seen, rfl⟩
          · cases seen
  · cases ran

/-- Seen by a statement of `t`: a version of its own, or the committed one. -/
theorem Stored.seenBy_cases {t : Nat} {record : Stored Row} {row : Row}
    (free : record.available t = true) (seen : record.seenBy t = some row) :
    record.lock = some (t, some row) ∨ record.committed = some row := by
  simp only [seenBy, free, if_true] at seen
  rcases Option.or_eq_some_iff.mp seen with own | ⟨_, former⟩
  · rcases available_cases free with unlocked | ⟨version, locked⟩
    · simp [pending, unlocked] at own
    · simp only [pending, locked, Option.bind_some] at own
      exact .inl (by rw [locked, own])
  · exact .inr former

namespace Isolated

variable {config next : Config (Statement Row Key) Statement.Reply (Store Row) Task Outcome}
  {program : Task → Client Row Key Outcome}

omit [DecidableEq Key] in
theorem initial (rows : List Row)
    (apart : rows.Pairwise fun left right => engine.clash left right = false) :
    Isolated engine (Config.initial (Store.ofTable rows) :
      Config (Statement Row Key) Statement.Reply (Store Row) Task Outcome) where
  started _ _ := rfl
  unrivalled := by
    simp only [Unrivalled, Config.initial, Store.ofTable, List.pairwise_map]
    refine apart.imp ?_
    intro left right clear row leftVersion other rightVersion
    simp only [Stored.mem_versions, Stored.pending, Option.bind_none, reduceCtorEq, or_false,
      Option.some.injEq] at leftVersion rightVersion
    rw [← leftVersion, ← rightVersion]
    exact clear
  written := by
    intro record member t row locked
    simp only [Config.initial, Store.ofTable, List.mem_map] at member
    obtain ⟨stored, _, rfl⟩ := member
    cases locked
  current := by
    intro _ t rows held
    cases held
  firm := by
    intro t thread query row earlier found
    simp [Config.initial] at found
  alone := by
    intro _ t thread query row earlier found
    simp [Config.initial] at found

omit [DecidableEq Key] in
private theorem spawn (isolated : Isolated engine config) (task : Task)
    (client : Client Row Key Outcome) : Isolated engine (config.spawn task client) where
  started := by
    intro t beyond
    simp only [Config.spawn, List.length_append, List.length_singleton] at beyond
    exact isolated.started t (by omega)
  unrivalled := isolated.unrivalled
  written := isolated.written
  current := isolated.current
  firm := by
    intro t thread query row earlier found live events
    rcases Disciplined.spawn_found found with former | ⟨beyond, _⟩
    · exact isolated.firm t thread query row earlier former live events
    · cases (isolated.started t beyond).symm.trans events
  alone := by
    intro exclusive t thread query row earlier found live events
    rcases Disciplined.spawn_found found with former | ⟨beyond, _⟩
    · exact isolated.alone exclusive t thread query row earlier former live events
    · cases (isolated.started t beyond).symm.trans events

omit [DecidableEq Key] in
theorem killed_inactive (thread : Thread (Statement Row Key) Statement.Reply Task Outcome) :
    thread.kill.active = false := by
  unfold Thread.kill
  split
  · rfl
  · next idle => exact Bool.eq_false_iff.mpr idle

private theorem crash (isolated : Isolated engine config) :
    Isolated engine ((system engine program).crash config) where
  started := by
    intro t beyond
    simp only [System.crash, List.length_map] at beyond
    exact isolated.started t beyond
  unrivalled := unrivalled_recover isolated.unrivalled
  written := by
    intro record member t row locked
    obtain ⟨stored, _, rfl⟩ := List.mem_map.mp member
    cases locked
  current := by
    intro _ t rows held
    cases held
  firm := by
    intro t thread query row earlier found live
    simp only [System.crash, List.getElem?_map, Option.map_eq_some_iff] at found
    obtain ⟨former, _, rfl⟩ := found
    rw [killed_inactive] at live
    cases live
  alone := by
    intro _ t thread query row earlier found live
    simp only [System.crash, List.getElem?_map, Option.map_eq_some_iff] at found
    obtain ⟨former, _, rfl⟩ := found
    rw [killed_inactive] at live
    cases live

private theorem written_step {t : Nat} {event : Event (Statement Row Key) Statement.Reply}
    {records : List (Stored Row)} (isolated : Isolated engine config)
    (effect : Effect engine t config.state.records event records) :
    ∀ record ∈ records, ∀ u row, record.lock = some (u, some row) →
      ∃ made ∈ own u ((t, event) :: config.history), wrote made = true := by
  intro record member u row locked
  rcases effect.pending member locked with ⟨former, stored, before⟩ | ⟨rfl, writing⟩
  · obtain ⟨made, among, writing⟩ := isolated.written former stored u row before
    refine ⟨made, mem_own.mpr (List.mem_cons_of_mem _ (mem_own.mp among)), writing⟩
  · exact ⟨event, mem_own.mpr List.mem_cons_self, writing⟩

private theorem firm_own {t : Nat} {fault : Bool} {query : Query Row} {store : Store Row}
    {row : Row} (isolated : Isolated engine config)
    (ran : engine.perform t (.selectForUpdate query) fault config.state =
      some (.ok (some row), store)) :
    (∃ event ∈ own t config.history, wrote event = true) ∨
      ∃ record ∈ store.records, ∃ version,
        record.lock = some (t, version) ∧ record.committed = some row := by
  obtain ⟨record, member, free, seen, records⟩ := perform_selectForUpdate_found ran
  rcases Stored.seenBy_cases free seen with own | former
  · exact .inl (isolated.written record member t row own)
  · refine .inr ⟨engine.hold t (engine.key row) record, ?_, record.pending, ?_⟩
    · rw [records]
      exact List.mem_map_of_mem member
    · have found : engine.hasKey (engine.key row) record = true :=
        Engine.hasKey_iff.mpr ⟨row, Stored.mem_versions.mpr (.inl former), rfl⟩
      simp [Engine.hold, free, found, former]

private theorem alone_own {t : Nat} {fault : Bool} {query : Query Row} {store : Store Row}
    {row : Row} (isolated : Isolated engine config) (exclusive : engine.exclusive = true)
    (ran : engine.perform t (.select query) fault config.state = some (.ok (some row), store)) :
    (∃ event ∈ own t config.history, wrote event = true) ∨
      store.holder = some t ∧ row ∈ store.table := by
  have table : store.table = config.state.table := (perform_effect ran).committed rfl
  have holding : config.state.holder = some t ∧ store.holder = config.state.holder := by
    have admits : engine.admits t config.state = true := by
      by_contra refused
      simp [Engine.perform, refused] at ran
    have held : config.state.holder = some t := by
      simpa [Engine.admits, exclusive] using admits
    refine ⟨held, ?_⟩
    simp only [Engine.perform, admits, if_true, Engine.select] at ran
    split at ran
    · cases ran
    · rw [← (Prod.mk.inj (Option.some.inj ran)).2]
  rcases perform_select_found ran with read | ⟨record, member, free, mine⟩
  · refine .inr ⟨holding.2.trans holding.1, ?_⟩
    rw [table]
    cases fixed : config.state.snapshots t with
    | none => simpa [fixed] using read
    | some rows =>
        rw [fixed] at read
        have same := isolated.current exclusive t rows holding.1 fixed
        exact same ▸ read
  · rcases Stored.available_cases free with unlocked | ⟨version, locked⟩
    · simp [Stored.pending, unlocked] at mine
    · simp only [Stored.pending, locked, Option.bind_some] at mine
      exact .inl (isolated.written record member t row (by rw [locked, mine]))

private theorem advance (isolated : Isolated engine config) {t : Nat} {task : Task}
    {call : Statement Row Key} {continuation : call.Reply → Client Row Key Outcome}
    {reply : call.Reply} {fault : Bool} {store : Store Row}
    (found : config.threads[t]? = some ⟨task, some (.call call continuation)⟩)
    (ran : engine.perform t call fault config.state = some (reply, store)) :
    Isolated engine (config.advance t task ⟨call, reply⟩ (continuation reply) store) := by
  have bound : t < config.threads.length := (List.getElem?_eq_some_iff.mp found).1
  have effect := perform_effect ran
  refine ⟨?_, effect.unrivalled isolated.unrivalled, written_step isolated effect, ?_, ?_, ?_⟩
  · intro u beyond
    simp only [Config.advance, List.length_set] at beyond ⊢
    rw [own_cons_other (by omega)]
    exact isolated.started u beyond
  · intro exclusive u
    by_cases same : u = t
    · subst same
      exact perform_current exclusive ran (isolated.current exclusive u)
    · intro rows held fixed
      have before := perform_holder same ran held
      obtain ⟨_, snapshot, table⟩ := perform_excluded exclusive before same ran
      simp only [Config.advance] at fixed ⊢
      rw [table]
      exact isolated.current exclusive u rows before (snapshot ▸ fixed)
  · intro u thread query row earlier located live events
    simp only [Config.advance] at located events ⊢
    by_cases same : t = u
    · subst same
      rw [own_cons_self] at events
      cases events
      exact firm_own isolated ran
    · rw [List.getElem?_set_ne same] at located
      rw [own_cons_other same] at events
      rcases isolated.firm u thread query row earlier located live events with
        writing | ⟨record, member, version, locked, former⟩
      · exact .inl writing
      · have different : u ≠ t := fun equal => same equal.symm
        exact .inr ⟨record, effect.keeps member locked different, version, locked, former⟩
  · intro exclusive u thread query row earlier located live events
    simp only [Config.advance] at located events ⊢
    by_cases same : t = u
    · subst same
      rw [own_cons_self] at events
      cases events
      exact alone_own isolated exclusive ran
    · rw [List.getElem?_set_ne same] at located
      rw [own_cons_other same] at events
      rcases isolated.alone exclusive u thread query row earlier located live events with
        writing | ⟨held, member⟩
      · exact .inl writing
      · have different : u ≠ t := fun equal => same equal.symm
        obtain ⟨holder, _, table⟩ := perform_excluded exclusive held different ran
        exact .inr ⟨holder, table ▸ member⟩

theorem step {label : Label (Statement Row Key) Statement.Reply Task Bool}
    (isolated : Isolated engine config)
    (transition : (system engine program).Transition config label next) :
    Isolated engine next := by
  cases transition with
  | spawned task => exact isolated.spawn task _
  | performed found answered => exact isolated.advance found answered
  | external acted => cases acted
  | crashed => exact isolated.crash

theorem run {rows : List Row}
    {meets : Config (Statement Row Key) Statement.Reply (Store Row) Task Outcome →
      Label (Statement Row Key) Statement.Reply Task Bool → Prop}
    (apart : rows.Pairwise fun left right => engine.clash left right = false)
    (reached : (system engine program).Run meets (Config.initial (Store.ofTable rows)) config) :
    Isolated engine config := by
  refine System.Run.invariant reached (initial rows apart) ?_
  intro before label after _ transition _ isolated
  exact isolated.step transition

end Isolated

end NodeAtlas.Transactions
