import NodeAtlas.Transactions.Isolation

/-! Rows that live by a rule. If every client inserts only fresh rows and
replaces a row only by one that advances it, judged by what the client has read
so far, then every row ever committed got there by such steps. -/

set_option autoImplicit false

namespace NodeAtlas.Transactions

open Interleaving

variable {Row Key Task Outcome : Type} [DecidableEq Key]

/-- What every version of a row satisfies, how a row may begin and how one
version may replace another. -/
structure Conduct (engine : Engine Row Key) where
  lawful : Row → Prop
  fresh : Row → Prop
  advances : Row → Row → Prop
  fresh_lawful : ∀ row, fresh row → lawful row
  advances_lawful : ∀ old new, lawful old → advances old new → lawful new
  advances_key : ∀ old new, advances old new → engine.key new = engine.key old

/-- What a client whose events are `earlier` may rely on when it replaces the
committed row `old`. -/
structure Remembers {engine : Engine Row Key} (conduct : Conduct engine)
    (earlier : List (Event (Statement Row Key) Statement.Reply)) (old : Row) : Prop where
  lawful : conduct.lawful old
  read : ∀ query row, ⟨.select query, .ok (some row)⟩ ∈ earlier → conduct.lawful row
  firm : ∀ query row former, earlier = ⟨.selectForUpdate query, .ok (some row)⟩ :: former →
    engine.key row = engine.key old → row = old
  alone : engine.exclusive = true → ∀ query row former,
    earlier = ⟨.select query, .ok (some row)⟩ :: former →
    engine.key row = engine.key old → row = old

/-- The transaction of a client is still open. -/
def Unclosed (earlier : List (Event (Statement Row Key) Statement.Reply)) : Prop :=
  ∀ former ∈ earlier, closes former = false

omit [DecidableEq Key] in
theorem Unclosed.cons {earlier : List (Event (Statement Row Key) Statement.Reply)}
    {event : Event (Statement Row Key) Statement.Reply} (unclosed : Unclosed earlier)
    (further : closes event = false) : Unclosed (event :: earlier) := by
  intro former member
  rcases List.mem_cons.mp member with rfl | before
  · exact further
  · exact unclosed former before

omit [DecidableEq Key] in
theorem unclosed_begin (reply : Except Failure Unit) :
    Unclosed ([⟨.begin, reply⟩] : List (Event (Statement Row Key) Statement.Reply)) := by
  intro former member
  rw [List.mem_singleton.mp member]
  rfl

/-- The next event of a client that runs one transaction. -/
def Conduct.Permits {engine : Engine Row Key} (conduct : Conduct engine)
    (earlier : List (Event (Statement Row Key) Statement.Reply))
    (event : Event (Statement Row Key) Statement.Reply) : Prop :=
  Unclosed earlier ∧
  match event.call with
  | .insert row => conduct.fresh row
  | .update key guard change =>
      (∀ former ∈ earlier, wrote former = false) ∧
      ∀ old, engine.key old = key → guard old = true → Remembers conduct earlier old →
        conduct.advances old (change old)
  | _ => True

/-- A read finds what it asked for. -/
def Answers : Event (Statement Row Key) Statement.Reply → Prop
  | ⟨.select query, .ok (some row)⟩ => query.condition row = true
  | ⟨.selectForUpdate query, .ok (some row)⟩ => query.condition row = true
  | _ => True

theorem perform_answers {engine : Engine Row Key} {t : Nat} {statement : Statement Row Key}
    {fault : Bool} {store next : Store Row} {reply : statement.Reply}
    (ran : engine.perform t statement fault store = some (reply, next)) :
    Answers ⟨statement, reply⟩ := by
  cases statement with
  | select query =>
      rcases reply with failure | (_ | row)
      · trivial
      · trivial
      · simp only [Engine.perform, Engine.select] at ran
        split at ran
        · split at ran
          · cases ran
          · simp only [Option.some.injEq, Prod.mk.injEq, Except.ok.injEq] at ran
            exact (Query.pick_mem ran.1).2
        · cases ran
  | selectForUpdate query =>
      rcases reply with failure | (_ | row)
      · trivial
      · trivial
      · simp only [Engine.perform, Engine.selectForUpdate] at ran
        split at ran
        · split at ran
          · cases ran
          · split at ran
            · cases ran
            · next picked chosen =>
                simp only [Option.some.injEq, Prod.mk.injEq, Except.ok.injEq] at ran
                exact ran.1 ▸ (Query.pick_mem chosen).2
        · cases ran
  | _ => trivial

variable {engine : Engine Row Key} {conduct : Conduct engine}

/-- The client code keeps to the rule from here on. -/
abbrev Conduct.Keeps (conduct : Conduct engine)
    (closing : List (Event (Statement Row Key) Statement.Reply) → Outcome → Prop)
    (earlier : List (Event (Statement Row Key) Statement.Reply))
    (client : Client Row Key Outcome) : Prop :=
  client.Audited Answers conduct.Permits closing earlier

omit [DecidableEq Key] in
theorem Conduct.rollback_kept {earlier : List (Event (Statement Row Key) Statement.Reply)}
    (unclosed : Unclosed earlier) (outcome : Outcome) :
    conduct.Keeps (fun _ _ => True) earlier (Client.endWith outcome) := by
  intro reply _
  exact ⟨⟨unclosed, trivial⟩, trivial⟩

omit [DecidableEq Key] in
/-- Every statement can be answered. -/
theorem answers_exists (statement : Statement Row Key) :
    ∃ reply : statement.Reply, Answers ⟨statement, reply⟩ := by
  cases statement with
  | rollback => exact ⟨(), trivial⟩
  | _ => exact ⟨.error .unavailable, trivial⟩

/-- How one committed table follows another. -/
structure Evolves (conduct : Conduct engine) (before after : List Row) : Prop where
  kept : ∀ row ∈ before, ∃ successor ∈ after,
    successor = row ∨ conduct.advances row successor
  origin : ∀ successor ∈ after, conduct.fresh successor ∨
    ∃ row ∈ before, successor = row ∨ conduct.advances row successor

omit [DecidableEq Key] in
theorem Evolves.refl (rows : List Row) : Evolves conduct rows rows where
  kept row member := ⟨row, member, .inl rfl⟩
  origin row member := .inr ⟨row, member, .inl rfl⟩

/-- Where a pending version of `t` comes from. -/
inductive Origin (engine : Engine Row Key)
    (events : List (Event (Statement Row Key) Statement.Reply)) (new : Row) :
    Option Row → Prop where
  | inserted (made : ⟨.insert new, .ok ()⟩ ∈ events) : Origin engine events new none
  | updated {key : Key} {guard : Row → Bool} {change : Row → Row} {affected : Nat} {old : Row}
      (made : ⟨.update key guard change, .ok affected⟩ ∈ events) (keyed : engine.key old = key)
      (guarded : guard old = true) (changed : new = change old) :
      Origin engine events new (some old)

/-- A stored row that follows the rule of conduct. -/
structure Proper (conduct : Conduct engine)
    (events : Nat → List (Event (Statement Row Key) Statement.Reply))
    (record : Stored Row) : Prop where
  lawful : ∀ row ∈ record.versions, conduct.lawful row
  growing : ∀ new, record.pending = some new →
    match record.committed with
    | none => conduct.fresh new
    | some old => conduct.advances old new
  origin : ∀ t new, record.lock = some (t, some new) →
    Origin engine (events t) new record.committed

structure Conducted (conduct : Conduct engine)
    (config : Config (Statement Row Key) Statement.Reply (Store Row) Task Outcome) : Prop where
  proper : ∀ record ∈ config.state.records,
    Proper conduct (fun t => own t config.history) record
  snapshots : ∀ t rows, config.state.snapshots t = some rows → ∀ row ∈ rows, conduct.lawful row
  read : ∀ t query row, (t, ⟨.select query, .ok (some row)⟩) ∈ config.history →
    conduct.lawful row
  kept : ∀ t (thread : Thread (Statement Row Key) Statement.Reply Task Outcome) key guard change
    affected earlier, config.threads[t]? = some thread → thread.active = true →
    own t config.history = ⟨.update key guard change, .ok affected⟩ :: earlier → affected ≠ 0 →
    ∃ record ∈ config.state.records, ∃ old, record.committed = some old ∧
      engine.key old = key ∧ guard old = true ∧ record.lock = some (t, some (change old)) ∧
      Remembers conduct earlier old

/-! ## One update -/

section Update

variable {config : Config (Statement Row Key) Statement.Reply (Store Row) Task Outcome}

/-- A transaction that has written nothing updates a committed row, and the
only one with the key. -/
theorem Isolated.updated (isolated : Isolated engine config) {t : Nat} {key : Key}
    {guard : Row → Bool} {change : Row → Row} {affected : Nat} {records : List (Stored Row)}
    (clean : ∀ event ∈ own t config.history, wrote event = false) (changed : affected ≠ 0)
    (effect : Effect engine t config.state.records ⟨.update key guard change, .ok affected⟩
      records) :
    ∃ record ∈ config.state.records, ∃ old, record.committed = some old ∧
      record.pending = none ∧ engine.key old = key ∧ guard old = true ∧
      records = config.state.records.map (engine.overwrite t key (change old)) ∧
      ∀ other ∈ config.state.records, engine.hasKey key other = true → other = record := by
  cases effect with
  | unchanged unwritten =>
      simp only [wrote, bne_eq_false_iff_eq] at unwritten
      exact absurd unwritten changed
  | @updated _ _ _ record old member found seen guarded accepted available clear =>
      have free := available record member found
      have unwritten : ∀ row, record.lock ≠ some (t, some row) := by
        intro row locked
        obtain ⟨event, among, writing⟩ := isolated.written record member t row locked
        rw [clean event among] at writing
        cases writing
      have committed : record.committed = some old := by
        rcases Stored.seenBy_cases free seen with own | former
        · exact absurd own (unwritten old)
        · exact former
      have idle : record.pending = none := by
        rcases Stored.available_cases free with unlocked | ⟨version, locked⟩
        · simp [Stored.pending, unlocked]
        · cases version with
          | none => simp [Stored.pending, locked]
          | some row => exact absurd locked (unwritten row)
      have keyed : engine.key old = key := by
        obtain ⟨row, version, same⟩ := Engine.hasKey_iff.mp found
        rcases Stored.mem_versions.mp version with former | pending
        · rw [committed] at former
          cases former
          exact same
        · rw [idle] at pending
          cases pending
      refine ⟨record, member, old, committed, idle, keyed, guarded, rfl, ?_⟩
      intro other among matched
      obtain ⟨row, version, same⟩ := Engine.hasKey_iff.mp matched
      exact isolated.unrivalled.unique among member version
        (Stored.mem_versions.mpr (.inl committed)) (same.trans keyed.symm)

omit [DecidableEq Key] in
/-- What the client may rely on at its update. -/
theorem Isolated.remembers (isolated : Isolated engine config)
    (conducted : Conducted conduct config) {t : Nat}
    {thread : Thread (Statement Row Key) Statement.Reply Task Outcome}
    (found : config.threads[t]? = some thread) (live : thread.active = true)
    (clean : ∀ event ∈ own t config.history, wrote event = false)
    {record : Stored Row} {old : Row} (member : record ∈ config.state.records)
    (committed : record.committed = some old) :
    Remembers conduct (own t config.history) old where
  lawful := (conducted.proper record member).lawful old (Stored.mem_versions.mpr (.inl committed))
  read := by
    intro query row made
    exact conducted.read t query row (mem_own.mp made)
  firm := by
    intro query row former events same
    rcases isolated.firm t thread query row former found live events with
      ⟨event, among, writing⟩ | ⟨other, stored, version, _, read⟩
    · have member : event ∈ own t config.history := events ▸ List.mem_cons_of_mem _ among
      rw [clean event member] at writing
      cases writing
    · have equal := isolated.unrivalled.unique stored member
        (Stored.mem_versions.mpr (.inl read)) (Stored.mem_versions.mpr (.inl committed)) same
      rw [equal, committed] at read
      exact (Option.some.inj read).symm
  alone := by
    intro exclusive query row former events same
    rcases isolated.alone exclusive t thread query row former found live events with
      ⟨event, among, writing⟩ | ⟨_, stored⟩
    · have member : event ∈ own t config.history := events ▸ List.mem_cons_of_mem _ among
      rw [clean event member] at writing
      cases writing
    · obtain ⟨other, among, read⟩ := List.mem_filterMap.mp stored
      have equal := isolated.unrivalled.unique among member
        (Stored.mem_versions.mpr (.inl read)) (Stored.mem_versions.mpr (.inl committed)) same
      rw [equal, committed] at read
      exact (Option.some.inj read).symm

end Update

/-! ## One stored row -/

section Record

variable {events : Nat → List (Event (Statement Row Key) Statement.Reply)}

omit [DecidableEq Key] in
theorem Proper.later {record : Stored Row} (proper : Proper conduct events record)
    {further : Nat → List (Event (Statement Row Key) Statement.Reply)}
    (longer : ∀ t, ∀ event ∈ events t, event ∈ further t) : Proper conduct further record where
  lawful := proper.lawful
  growing := proper.growing
  origin := by
    intro t new locked
    have origin := proper.origin t new locked
    generalize record.committed = committed at origin ⊢
    cases origin with
    | inserted made => exact .inserted (longer t _ made)
    | updated made keyed guarded changed => exact .updated (longer t _ made) keyed guarded changed

omit [DecidableEq Key] in
/-- Giving up locks and pending versions is always proper. -/
theorem Proper.weaken {record weaker : Stored Row} (proper : Proper conduct events record)
    (same : weaker.committed = record.committed)
    (locks : ∀ t new, weaker.lock = some (t, some new) → record.lock = some (t, some new)) :
    Proper conduct events weaker where
  lawful := by
    intro row version
    rcases Stored.mem_versions.mp version with former | pending
    · exact proper.lawful row (Stored.mem_versions.mpr (.inl (same ▸ former)))
    · obtain ⟨t, locked⟩ := Stored.pending_lock pending
      have before := Stored.lock_pending (locks t row locked)
      exact proper.lawful row (Stored.mem_versions.mpr (.inr before))
  growing := by
    intro new pending
    obtain ⟨t, locked⟩ := Stored.pending_lock pending
    rw [same]
    exact proper.growing new (Stored.lock_pending (locks t new locked))
  origin := by
    intro t new locked
    rw [same]
    exact proper.origin t new (locks t new locked)

omit [DecidableEq Key] in
theorem Proper.committedOnly {row : Row} (lawful : conduct.lawful row) :
    Proper conduct events ⟨some row, none⟩ where
  lawful := by
    intro version member
    simp only [Stored.mem_versions, Stored.pending, Option.bind_none, reduceCtorEq, or_false,
      Option.some.injEq] at member
    exact member ▸ lawful
  growing new pending := by cases pending
  origin t new locked := by cases locked

omit [DecidableEq Key] in
theorem Proper.settle {record : Stored Row} (proper : Proper conduct events record) (t : Nat) :
    Proper conduct events (record.settle t) := by
  unfold Stored.settle
  split
  · next owner version locked =>
      split
      · cases version with
        | none =>
            refine proper.weaken rfl ?_
            intro u new pending
            cases pending
        | some row =>
            refine Proper.committedOnly (proper.lawful row ?_)
            exact Stored.mem_versions.mpr (.inr (Stored.lock_pending locked))
      · exact proper
  · exact proper

omit [DecidableEq Key] in
theorem Proper.release {record : Stored Row} (proper : Proper conduct events record) (t : Nat) :
    Proper conduct events (record.release t) :=
  proper.weaken (Stored.release_committed t record) fun _ _ => Stored.release_lock

theorem Proper.hold {record : Stored Row} (proper : Proper conduct events record) (t : Nat)
    (key : Key) : Proper conduct events (engine.hold t key record) := by
  unfold Engine.hold
  split
  · next free =>
      refine proper.weaken rfl ?_
      intro u new locked
      simp only [Option.some.injEq, Prod.mk.injEq] at locked
      obtain ⟨rfl, pending⟩ := locked
      rcases Stored.available_cases (Bool.and_eq_true_iff.mp free).1 with unlocked | ⟨own, mine⟩
      · simp [Stored.pending, unlocked] at pending
      · simp only [Stored.pending, mine, Option.bind_some] at pending
        rw [mine, pending]
  · exact proper

omit [DecidableEq Key] in
theorem Proper.inserted {t : Nat} {row : Row} (fresh : conduct.fresh row)
    (made : ⟨.insert row, .ok ()⟩ ∈ events t) :
    Proper conduct events ⟨none, some (t, some row)⟩ where
  lawful := by
    intro version member
    simp only [Stored.mem_versions, Stored.pending, reduceCtorEq, Option.bind_some, false_or,
      Option.some.injEq] at member
    exact member ▸ conduct.fresh_lawful row fresh
  growing := by
    intro new pending
    cases pending
    exact fresh
  origin := by
    intro u new locked
    cases locked
    exact .inserted made

omit [DecidableEq Key] in
theorem Proper.updated {t : Nat} {key : Key} {guard : Row → Bool} {change : Row → Row}
    {affected : Nat} {record : Stored Row} {old : Row} (proper : Proper conduct events record)
    (committed : record.committed = some old) (keyed : engine.key old = key)
    (guarded : guard old = true) (advances : conduct.advances old (change old))
    (made : ⟨.update key guard change, .ok affected⟩ ∈ events t) :
    Proper conduct events { record with lock := some (t, some (change old)) } where
  lawful := by
    intro version member
    have lawful := proper.lawful old (Stored.mem_versions.mpr (.inl committed))
    rcases Stored.mem_versions.mp member with former | pending
    · exact proper.lawful version (Stored.mem_versions.mpr (.inl former))
    · cases pending
      exact conduct.advances_lawful old _ lawful advances
  growing := by
    intro new pending
    cases pending
    simp only [committed]
    exact advances
  origin := by
    intro u new locked
    cases locked
    simp only [committed]
    exact .updated made keyed guarded rfl

end Record

/-! ## Along runs -/

namespace Conducted

variable {config next : Config (Statement Row Key) Statement.Reply (Store Row) Task Outcome}
  {program : Task → Client Row Key Outcome}

omit [DecidableEq Key] in
theorem initial (rows : List Row) (lawful : ∀ row ∈ rows, conduct.lawful row) :
    Conducted conduct (Config.initial (Store.ofTable rows) :
      Config (Statement Row Key) Statement.Reply (Store Row) Task Outcome) where
  proper := by
    intro record member
    simp only [Config.initial, Store.ofTable, List.mem_map] at member
    obtain ⟨row, among, rfl⟩ := member
    exact .committedOnly (lawful row among)
  snapshots t rows fixed := by cases fixed
  read t query row made := by cases made
  kept t thread key guard change affected earlier found := by simp [Config.initial] at found

omit [DecidableEq Key] in
private theorem spawn (isolated : Isolated engine config) (conducted : Conducted conduct config)
    (task : Task) (client : Client Row Key Outcome) :
    Conducted conduct (config.spawn task client) where
  proper := conducted.proper
  snapshots := conducted.snapshots
  read := conducted.read
  kept := by
    intro t thread key guard change affected earlier found live events
    rcases Disciplined.spawn_found found with former | ⟨beyond, _⟩
    · exact conducted.kept t thread key guard change affected earlier former live events
    · cases (isolated.started t beyond).symm.trans events

private theorem crash (conducted : Conducted conduct config) :
    Conducted conduct ((system engine program).crash config) where
  proper := by
    intro record member
    obtain ⟨stored, among, rfl⟩ := List.mem_map.mp member
    refine (conducted.proper stored among).weaken rfl ?_
    intro t new locked
    cases locked
  snapshots t rows fixed := by cases fixed
  read := conducted.read
  kept := by
    intro t thread key guard change affected earlier found live
    simp only [System.crash, List.getElem?_map, Option.map_eq_some_iff] at found
    obtain ⟨former, _, rfl⟩ := found
    rw [Isolated.killed_inactive] at live
    cases live

private theorem proper_step (isolated : Isolated engine config)
    (conducted : Conducted conduct config) {t : Nat}
    {thread : Thread (Statement Row Key) Statement.Reply Task Outcome}
    (found : config.threads[t]? = some thread) (live : thread.active = true)
    {event : Event (Statement Row Key) Statement.Reply} {records : List (Stored Row)}
    (effect : Effect engine t config.state.records event records)
    (permitted : conduct.Permits (own t config.history) event) :
    ∀ record ∈ records, Proper conduct (fun u => own u ((t, event) :: config.history)) record := by
  have longer : ∀ u, ∀ made ∈ own u config.history,
      made ∈ own u ((t, event) :: config.history) := by
    intro u made among
    exact mem_own.mpr (List.mem_cons_of_mem _ (mem_own.mp among))
  have proper : ∀ record ∈ config.state.records,
      Proper conduct (fun u => own u ((t, event) :: config.history)) record := by
    intro record member
    exact (conducted.proper record member).later longer
  have made : event ∈ own t ((t, event) :: config.history) := mem_own.mpr List.mem_cons_self
  cases effect with
  | unchanged => exact proper
  | inserted accepted clear =>
      intro record member
      rcases List.mem_append.mp member with former | added
      · exact proper record former
      · rw [List.mem_singleton.mp added]
        exact .inserted permitted.2 made
  | @updated key guard change _ _ member found' seen guarded' accepted available clear =>
      obtain ⟨clean, advancing⟩ := permitted.2
      obtain ⟨record, stored, old, committed, _, keyed, guarded, records, sole⟩ :=
        isolated.updated clean (by decide)
          (.updated member found' seen guarded' accepted available clear)
      have advances := advancing old keyed guarded
        (isolated.remembers conducted found live clean stored committed)
      rw [records]
      intro target among
      obtain ⟨former, before, rfl⟩ := List.mem_map.mp among
      unfold Engine.overwrite
      split
      · next matched =>
          rw [sole former before matched]
          exact (proper record stored).updated committed keyed guarded advances made
      · exact proper former before
  | held =>
      intro record member
      obtain ⟨former, before, rfl⟩ := List.mem_map.mp member
      exact (proper former before).hold t _
  | settled =>
      intro record member
      obtain ⟨former, before, rfl⟩ := List.mem_map.mp member
      exact (proper former before).settle t
  | failed =>
      intro record member
      obtain ⟨former, before, rfl⟩ := List.mem_map.mp member
      exact (proper former before).release t
  | released =>
      intro record member
      obtain ⟨former, before, rfl⟩ := List.mem_map.mp member
      exact (proper former before).release t

omit [DecidableEq Key] in
theorem table_lawful (conducted : Conducted conduct config) :
    ∀ row ∈ config.state.table, conduct.lawful row := by
  intro row member
  obtain ⟨record, stored, committed⟩ := List.mem_filterMap.mp member
  exact (conducted.proper record stored).lawful row (Stored.mem_versions.mpr (.inl committed))

private theorem snapshots_step (conducted : Conducted conduct config) {t : Nat}
    {call : Statement Row Key} {reply : call.Reply} {fault : Bool} {store : Store Row}
    (ran : engine.perform t call fault config.state = some (reply, store)) :
    ∀ u rows, store.snapshots u = some rows → ∀ row ∈ rows, conduct.lawful row := by
  intro u rows fixed
  by_cases same : u = t
  · subst same
    rcases perform_snapshots_self ran with dropped | kept | taken
    · rw [dropped] at fixed
      cases fixed
    · exact conducted.snapshots u rows (kept.symm.trans fixed)
    · rw [← Option.some.inj (taken.symm.trans fixed)]
      exact conducted.table_lawful
  · rw [perform_snapshots_other ran same] at fixed
    exact conducted.snapshots u rows fixed

private theorem read_lawful (conducted : Conducted conduct config) {t : Nat} {query : Query Row}
    {fault : Bool} {store : Store Row} {row : Row}
    (ran : engine.perform t (.select query) fault config.state = some (.ok (some row), store)) :
    conduct.lawful row := by
  rcases perform_select_found ran with read | ⟨record, stored, _, pending⟩
  · cases fixed : config.state.snapshots t with
    | none =>
        rw [fixed] at read
        exact conducted.table_lawful row read
    | some rows =>
        rw [fixed] at read
        exact conducted.snapshots t rows fixed row read
  · exact (conducted.proper record stored).lawful row (Stored.mem_versions.mpr (.inr pending))

private theorem advance (isolated : Isolated engine config)
    (conducted : Conducted conduct config) {t : Nat} {task : Task}
    {call : Statement Row Key} {continuation : call.Reply → Client Row Key Outcome}
    {reply : call.Reply} {fault : Bool} {store : Store Row}
    (found : config.threads[t]? = some ⟨task, some (.call call continuation)⟩)
    (ran : engine.perform t call fault config.state = some (reply, store))
    (permitted : conduct.Permits (own t config.history) ⟨call, reply⟩) :
    Conducted conduct (config.advance t task ⟨call, reply⟩ (continuation reply) store) := by
  have effect := perform_effect ran
  refine ⟨proper_step isolated conducted found rfl effect permitted, snapshots_step conducted ran,
    ?_, ?_⟩
  · intro u query row made
    rcases List.mem_cons.mp made with latest | former
    · cases latest
      exact read_lawful conducted ran
    · exact conducted.read u query row former
  · intro u thread key guard change affected earlier located live events changed
    simp only [Config.advance] at located events ⊢
    by_cases same : t = u
    · subst same
      rw [own_cons_self] at events
      cases events
      obtain ⟨record, stored, old, committed, _, keyed, guarded, records, _⟩ :=
        isolated.updated permitted.2.1 changed effect
      have matched : engine.hasKey key record = true :=
        Engine.hasKey_iff.mpr ⟨old, Stored.mem_versions.mpr (.inl committed), keyed⟩
      refine ⟨engine.overwrite t key (change old) record, ?_, old, ?_, keyed, guarded, ?_, ?_⟩
      · rw [records]
        exact List.mem_map_of_mem stored
      · simp [Engine.overwrite, matched, committed]
      · simp [Engine.overwrite, matched]
      · exact isolated.remembers conducted found rfl permitted.2.1 stored committed
    · rw [List.getElem?_set_ne same] at located
      rw [own_cons_other same] at events
      obtain ⟨record, stored, old, committed, keyed, guarded, locked, remembers⟩ :=
        conducted.kept u thread key guard change affected earlier located live events changed
      have different : u ≠ t := fun equal => same equal.symm
      exact ⟨record, effect.keeps stored locked different, old, committed, keyed, guarded, locked,
        remembers⟩

omit [DecidableEq Key] in
private theorem settle_evolves {records : List (Stored Row)}
    {events : Nat → List (Event (Statement Row Key) Statement.Reply)}
    (proper : ∀ record ∈ records, Proper conduct events record) (t : Nat) :
    Evolves conduct (records.filterMap (·.committed))
      ((records.map (Stored.settle t)).filterMap (·.committed)) where
  kept := by
    intro row member
    obtain ⟨record, stored, committed⟩ := List.mem_filterMap.mp member
    have settled : record.settle t ∈ records.map (Stored.settle t) := List.mem_map_of_mem stored
    rcases Stored.settle_cases t record with same | ⟨new, locked, replaced⟩
    · exact ⟨row, List.mem_filterMap.mpr ⟨_, settled, same.trans committed⟩, .inl rfl⟩
    · have growing := (proper record stored).growing new (Stored.lock_pending locked)
      rw [committed] at growing
      exact ⟨new, List.mem_filterMap.mpr ⟨_, settled, replaced⟩, .inr growing⟩
  origin := by
    intro successor member
    obtain ⟨_, settled, committed⟩ := List.mem_filterMap.mp member
    obtain ⟨record, stored, rfl⟩ := List.mem_map.mp settled
    rcases Stored.settle_cases t record with same | ⟨new, locked, replaced⟩
    · rw [same] at committed
      exact .inr ⟨successor, List.mem_filterMap.mpr ⟨record, stored, committed⟩, .inl rfl⟩
    · have growing := (proper record stored).growing new (Stored.lock_pending locked)
      obtain rfl := Option.some.inj (committed.symm.trans replaced)
      cases former : record.committed with
      | none =>
          rw [former] at growing
          exact .inl growing
      | some row =>
          rw [former] at growing
          exact .inr ⟨row, List.mem_filterMap.mpr ⟨record, stored, former⟩, .inr growing⟩

/-- Whatever step is taken, each committed row stays or advances, and new rows
are fresh. -/
theorem evolves {label : Label (Statement Row Key) Statement.Reply Task Bool}
    (conducted : Conducted conduct config)
    (transition : (system engine program).Transition config label next) :
    Evolves conduct config.state.table next.state.table := by
  cases transition with
  | spawned task => exact .refl _
  | external acted => cases acted
  | crashed =>
      have same : config.state.recover.table = config.state.table := by
        simp [Store.table, Store.recover, List.filterMap_map]
      change Evolves conduct config.state.table config.state.recover.table
      rw [same]
      exact .refl _
  | @performed t task call continuation choice reply store found answered =>
      have effect := perform_effect answered
      by_cases settled : settles (⟨call, reply⟩ : Event _ _) = true
      · have records := effect.settled_records settled
        change Evolves conduct _ (store.records.filterMap (·.committed))
        rw [records]
        exact settle_evolves conducted.proper t
      · have same : store.table = config.state.table :=
          effect.committed (Bool.eq_false_iff.mpr settled)
        change Evolves conduct config.state.table store.table
        rw [same]
        exact .refl _

end Conducted

/-! ## Clients whose programs were audited -/

/-- Everything an audit gives about a configuration. -/
structure Orderly (audit : Audit (Statement Row Key) Statement.Reply Task Outcome)
    (conduct : Conduct engine)
    (config : Config (Statement Row Key) Statement.Reply (Store Row) Task Outcome) : Prop where
  disciplined : Disciplined audit config
  isolated : Isolated engine config
  conducted : Conducted conduct config

section Audited

variable {audit : Audit (Statement Row Key) Statement.Reply Task Outcome}
  {config next : Config (Statement Row Key) Statement.Reply (Store Row) Task Outcome}
  {program : Task → Client Row Key Outcome} {admitted : Task → Prop}

omit [DecidableEq Key] in
theorem Orderly.initial {rows : List Row} (lawful : ∀ row ∈ rows, conduct.lawful row)
    (apart : rows.Pairwise fun left right => engine.clash left right = false) :
    Orderly audit conduct (Config.initial (Store.ofTable rows) :
      Config (Statement Row Key) Statement.Reply (Store Row) Task Outcome) where
  disciplined := .initial _
  isolated := .initial rows apart
  conducted := .initial rows lawful

theorem Orderly.step {label : Label (Statement Row Key) Statement.Reply Task Bool}
    (orderly : Orderly audit conduct config)
    (passed : audit.Passed (system engine program) admitted)
    (permits : ∀ task earlier event, audit.rule task earlier event →
      conduct.Permits earlier event)
    (transition : (system engine program).Transition config label next)
    (admission : ∀ task, label = .spawned task → admitted task) :
    Orderly audit conduct next where
  disciplined := orderly.disciplined.step passed transition admission
  isolated := orderly.isolated.step transition
  conducted := by
    cases transition with
    | spawned task => exact orderly.conducted.spawn orderly.isolated task _
    | performed found answered =>
        have ruled := (orderly.disciplined.ahead _ _ _ found rfl _
          (passed.fitting _ _ _ _ _ _ answered)).1
        exact orderly.conducted.advance orderly.isolated found answered
          (permits _ _ _ ruled)
    | external acted => cases acted
    | crashed => exact orderly.conducted.crash

theorem Orderly.run {rows : List Row} (lawful : ∀ row ∈ rows, conduct.lawful row)
    (apart : rows.Pairwise fun left right => engine.clash left right = false)
    (passed : audit.Passed (system engine program) admitted)
    (permits : ∀ task earlier event, audit.rule task earlier event →
      conduct.Permits earlier event)
    {meets : Config (Statement Row Key) Statement.Reply (Store Row) Task Outcome →
      Label (Statement Row Key) Statement.Reply Task Bool → Prop}
    (reached : (system engine program).Run meets (Config.initial (Store.ofTable rows)) config)
    (admission : ∀ before task, meets before (.spawned task) → admitted task) :
    Orderly audit conduct config := by
  refine System.Run.invariant reached (Orderly.initial lawful apart) ?_
  intro before label after _ transition met orderly
  refine orderly.step passed permits transition ?_
  rintro task rfl
  exact admission before task met

end Audited

end NodeAtlas.Transactions
