import NodeAtlas.Transactions.Isolation

/-! A client that has the table to itself. What it does then is one step on the
committed rows, and it is a run of the interleaved system like any other. -/

set_option autoImplicit false

namespace NodeAtlas.Transactions

open Interleaving

variable {Row Key Task Outcome α : Type} [DecidableEq Key] {engine : Engine Row Key}

/-- All statements of the client, one after the other; `faults` says which of
them the database fails. -/
def Client.alone (engine : Engine Row Key) :
    Client Row Key Outcome → List Bool → Store Row → Option (Outcome × Store Row)
  | .done outcome, _, store => some (outcome, store)
  | .call statement next, faults, store =>
      match engine.perform 0 statement (faults.headD false) store with
      | some (reply, after) => Client.alone engine (next reply) faults.tail after
      | none => none

/-- What the client returns and leaves behind when it starts from a table at rest. -/
def Engine.transact (engine : Engine Row Key) (client : Client Row Key Outcome)
    (faults : List Bool) (rows : List Row) : Option (Outcome × List Row) :=
  (client.alone engine faults (Store.ofTable rows)).map fun (outcome, store) =>
    (outcome, store.table)

theorem Client.alone_call {statement : Statement Row Key}
    {next : statement.Reply → Client Row Key Outcome} {faults : List Bool}
    {store final : Store Row} {outcome : Outcome}
    (ran : Client.alone engine (.call statement next) faults store = some (outcome, final)) :
    ∃ reply after, engine.perform 0 statement (faults.headD false) store = some (reply, after) ∧
      (next reply).alone engine faults.tail after = some (outcome, final) := by
  simp only [Client.alone] at ran
  split at ran
  · next reply after answered => exact ⟨reply, after, answered, ran⟩
  · cases ran

theorem Client.alone_bind {first : Client Row Key α} {second : α → Client Row Key Outcome}
    {faults : List Bool} {store final : Store Row} {outcome : Outcome}
    (ran : (first >>= second).alone engine faults store = some (outcome, final)) :
    ∃ result middle later, first.alone engine faults store = some (result, middle) ∧
      (second result).alone engine later middle = some (outcome, final) := by
  induction first generalizing faults store with
  | done result => exact ⟨result, store, faults, rfl, ran⟩
  | call statement next ih =>
      obtain ⟨reply, after, answered, rest⟩ := Client.alone_call ran
      obtain ⟨result, middle, later, before, further⟩ := ih reply rest
      refine ⟨result, middle, later, ?_, further⟩
      simp only [Client.alone, answered]
      exact before

/-! ## A run of the interleaved system -/

section Run

private theorem alone_run {client : Client Row Key Outcome} {faults : List Bool}
    {store final : Store Row} {outcome : Outcome}
    (program : Task → Client Row Key Outcome) (task : Task)
    (ran : client.alone engine faults store = some (outcome, final))
    (history : List (Nat × Event (Statement Row Key) Statement.Reply)) :
    ∃ later, (system engine program).Run (fun _ _ => True)
      ⟨store, [⟨task, some client⟩], history⟩ ⟨final, [⟨task, some (.done outcome)⟩], later⟩ := by
  induction client generalizing faults store history with
  | done result =>
      simp only [Client.alone, Option.some.injEq, Prod.mk.injEq] at ran
      obtain ⟨rfl, rfl⟩ := ran
      exact ⟨history, .refl⟩
  | call statement next ih =>
      obtain ⟨reply, after, answered, rest⟩ := Client.alone_call ran
      obtain ⟨later, further⟩ := ih reply rest ((0, ⟨statement, reply⟩) :: history)
      have step : (system engine program).Transition
          ⟨store, [⟨task, some (.call statement next)⟩], history⟩ (.performed 0 ⟨statement, reply⟩)
          ⟨after, [⟨task, some (next reply)⟩], (0, ⟨statement, reply⟩) :: history⟩ :=
        .performed (t := 0) rfl answered
      exact ⟨later, System.Run.trans (System.Run.refl.snoc step trivial) further⟩

/-- The interleaved system can take the same step, with one thread. -/
theorem transact_run (program : Task → Client Row Key Outcome) (task : Task) {faults : List Bool} {rows after : List Row} {outcome : Outcome}
    (ran : engine.transact (program task) faults rows = some (outcome, after)) :
    ∃ config, (system engine program).Run (fun _ _ => True)
        (Config.initial (Store.ofTable rows)) config ∧
      config.state.table = after ∧ config.threads.map Thread.outcome = [some outcome] := by
  obtain ⟨⟨_, final⟩, alone, same⟩ := Option.map_eq_some_iff.mp ran
  cases same
  have spawned : (system engine program).Transition (Config.initial (Store.ofTable rows)) _ _ :=
    .spawned task
  obtain ⟨later, further⟩ := alone_run program task alone []
  exact ⟨_, (System.Run.refl.snoc spawned trivial).trans further, rfl, rfl⟩

/-- A table without clashes is left without clashes. -/
theorem transact_apart {client : Client Row Key Outcome} {faults : List Bool}
    {rows after : List Row} {outcome : Outcome}
    (apart : rows.Pairwise fun left right => engine.clash left right = false)
    (ran : engine.transact client faults rows = some (outcome, after)) :
    after.Pairwise fun left right => engine.clash left right = false := by
  obtain ⟨config, reached, rfl, _⟩ := transact_run (fun _ : Unit => client) () ran
  exact (Isolated.run apart reached).unrivalled.table

end Run

/-! ## Statement by statement -/

/-- Nothing has been written yet. -/
structure Engine.Clean (engine : Engine Row Key) (rows : List Row) (store : Store Row) : Prop where
  admitted : engine.admits 0 store = true
  committed : store.table = rows
  unwritten : ∀ record ∈ store.records, record.committed.isSome = true ∧
    (record.lock = none ∨ record.lock = some (0, none))
  fixed : store.snapshots 0 = none ∨ store.snapshots 0 = some rows

/-- A commit would leave `pending` behind. -/
structure Engine.Ready (engine : Engine Row Key) (rows pending : List Row) (store : Store Row) :
    Prop where
  admitted : engine.admits 0 store = true
  committed : store.table = rows
  settled : (store.close 0 (Stored.settle 0)).table = pending

omit [DecidableEq Key] in
/-- Rows at rest that share a key are the same row. -/
theorem Engine.keyed_unique {rows : List Row}
    (apart : rows.Pairwise fun left right => engine.clash left right = false) {row other : Row}
    (member : row ∈ rows) (otherMember : other ∈ rows) (same : engine.key row = engine.key other) :
    row = other := by
  by_contra different
  have symmetric : Std.Symm fun left right => engine.clash left right = false := by
    constructor
    intro left right clear
    rw [engine.symmetric]
    exact clear
  have clear := List.Pairwise.forall apart member otherMember different
  rw [engine.keyed row other same] at clear
  cases clear

section Statements

variable {rows pending : List Row} {store next : Store Row} {fault : Bool}

theorem begin_alone {reply : Except Failure Unit}
    (ran : engine.perform 0 .begin fault (Store.ofTable rows) = some (reply, next)) :
    (reply = .error .unavailable ∧ next.table = rows) ∨ reply = .ok () ∧ engine.Clean rows next := by
  have table : (Store.ofTable rows).table = rows := by
    simp [Store.ofTable, Store.table, List.filterMap_map]
  have unwritten : ∀ record ∈ (Store.ofTable rows).records, record.committed.isSome = true ∧
      (record.lock = none ∨ record.lock = some (0, none)) := by
    intro record member
    obtain ⟨row, _, rfl⟩ := List.mem_map.mp member
    exact ⟨rfl, .inl rfl⟩
  simp only [Engine.perform] at ran
  split at ran
  · cases ran
    exact .inl ⟨rfl, table⟩
  · simp only [Engine.beginTransaction] at ran
    split at ran
    · next single =>
        split at ran
        · cases ran
          exact .inr ⟨rfl, by simp [Engine.admits], table, unwritten, .inl (by simp)⟩
        · cases ran
    · next shared =>
        cases ran
        exact .inr ⟨rfl, by simp [Engine.admits, shared], table, unwritten, .inl (by simp)⟩

omit [DecidableEq Key] in
private theorem Engine.Clean.nothing_pending (clean : engine.Clean rows store) {record : Stored Row}
    (member : record ∈ store.records) : record.pending = none := by
  rcases (clean.unwritten record member).2 with free | held
  · simp [Stored.pending, free]
  · simp [Stored.pending, held]

omit [DecidableEq Key] in
private theorem Engine.Clean.available (clean : engine.Clean rows store) {record : Stored Row}
    (member : record ∈ store.records) : record.available 0 = true := by
  rcases (clean.unwritten record member).2 with free | held
  · simp [Stored.available, free]
  · simp [Stored.available, held]

omit [DecidableEq Key] in
private theorem Engine.Clean.seen (clean : engine.Clean rows store) {record : Stored Row}
    (member : record ∈ store.records) : record.seenBy 0 = record.committed := by
  simp [Stored.seenBy, clean.available member, clean.nothing_pending member]

omit [DecidableEq Key] in
private theorem Engine.Clean.settle (clean : engine.Clean rows store) {record : Stored Row}
    (member : record ∈ store.records) : (record.settle 0).committed = record.committed := by
  rcases Stored.settle_cases 0 record with same | ⟨new, locked, _⟩
  · exact same
  · have unwritten := clean.nothing_pending member
    rw [Stored.lock_pending locked] at unwritten
    cases unwritten

omit [DecidableEq Key] in
theorem Engine.Clean.ready (clean : engine.Clean rows store) : engine.Ready rows rows store where
  admitted := clean.admitted
  committed := clean.committed
  settled := by
    rw [← clean.committed]
    simp only [Store.close, Store.table, List.filterMap_map]
    exact List.filterMap_congr fun record member => clean.settle member

theorem Engine.Clean.select {query : Query Row} {reply : Except Failure (Option Row)}
    (clean : engine.Clean rows store)
    (ran : engine.perform 0 (.select query) fault store = some (reply, next)) :
    (reply = .error .unavailable ∨ reply = .ok (query.pick rows)) ∧ engine.Clean rows next := by
  simp only [Engine.perform, clean.admitted, if_true] at ran
  split at ran
  · cases ran
    exact ⟨.inl rfl, clean⟩
  · have unwritten : ∀ record ∈ store.records, ∀ row, record.lock ≠ some (0, some row) := by
      intro record member row locked
      have absent := clean.nothing_pending member
      rw [Stored.lock_pending locked] at absent
      cases absent
    have seen : (store.snapshots 0).getD store.table = rows := by
      rcases clean.fixed with none | fixed
      · simp [none, clean.committed]
      · simp [fixed]
    rw [Engine.select_clean unwritten, seen] at ran
    cases ran
    refine ⟨.inr rfl, clean.admitted, clean.committed, clean.unwritten, .inr (by simp)⟩

theorem Engine.Clean.insert {row : Row} {reply : Except Failure Unit}
    (clean : engine.Clean rows store)
    (ran : engine.perform 0 (.insert row) fault store = some (reply, next)) :
    ((∃ failure, reply = .error failure) ∧ engine.Clean rows next) ∨
      reply = .ok () ∧ engine.Ready rows (rows ++ [row]) next := by
  simp only [Engine.perform, clean.admitted, if_true] at ran
  split at ran
  · cases ran
    exact .inl ⟨⟨_, rfl⟩, clean⟩
  · rcases reply with failure | _
    · have same : next = store := by
        unfold Engine.insert at ran
        dsimp only at ran
        repeat' split at ran
        all_goals cases ran <;> rfl
      exact .inl ⟨⟨_, rfl⟩, same ▸ clean⟩
    · obtain ⟨_, rfl⟩ := Engine.insert_created ran
      have ready := clean.ready
      refine .inr ⟨rfl, clean.admitted, ?_, ?_⟩
      · simpa [Store.table] using clean.committed
      · have settled := ready.settled
        simp only [Store.close, Store.table] at settled ⊢
        simp [settled, Stored.settle]

/-- The read of a transaction that has written nothing yet may lock what it finds. -/
theorem Engine.Clean.selectForUpdate {query : Query Row} {reply : Except Failure (Option Row)}
    (clean : engine.Clean rows store)
    (ran : engine.perform 0 (.selectForUpdate query) fault store = some (reply, next)) :
    (reply = .error .unavailable ∨ reply = .ok (query.pick rows)) ∧ engine.Clean rows next := by
  simp only [Engine.perform, clean.admitted, if_true] at ran
  split at ran
  · cases ran
    exact ⟨.inl rfl, clean⟩
  · have seen : (store.records.filterMap fun record =>
        if record.available 0 then record.seenBy 0 else none) = rows := by
      rw [← clean.committed]
      refine List.filterMap_congr fun record member => ?_
      simp only [clean.available member, clean.seen member, if_true]
    simp only [Engine.selectForUpdate, seen, Option.some.injEq] at ran
    split at ran
    · next nothing =>
        cases ran
        exact ⟨.inr (by rw [nothing]), clean⟩
    · next row found =>
        cases ran
        have committed : ∀ record : Stored Row, (if record.available 0 &&
            engine.hasKey (engine.key row) record then { record with lock := some (0, record.pending) }
            else record).committed = record.committed := by
          intro record
          split <;> rfl
        refine ⟨.inr (by rw [found]), clean.admitted, ?_, ?_, clean.fixed⟩
        · simp only [Store.table, List.filterMap_map] at *
          rw [← clean.committed]
          exact List.filterMap_congr fun record _ => committed record
        · intro record member
          obtain ⟨former, stored, rfl⟩ := List.mem_map.mp member
          refine ⟨(congrArg Option.isSome (committed former)).trans
            (clean.unwritten former stored).1, ?_⟩
          split
          · simp [clean.nothing_pending stored]
          · exact (clean.unwritten former stored).2

/-- The committed row that an update of a key finds. -/
private theorem Engine.Clean.touched (clean : engine.Clean rows store) (key : Key) :
    (store.records.filter (engine.hasKey key)).findSome? (Stored.seenBy 0) =
      rows.find? fun row => engine.key row = key := by
  have keyed : ∀ record ∈ store.records, engine.hasKey key record =
      record.committed.any fun row => decide (engine.key row = key) := by
    intro record member
    simp [Engine.hasKey, Stored.versions, clean.nothing_pending member]
    cases record.committed <;> simp
  have seen : ∀ record ∈ store.records, record.seenBy 0 = record.committed :=
    fun _ member => clean.seen member
  rw [← clean.committed]
  unfold Store.table
  generalize store.records = records at keyed seen
  induction records with
  | nil => rfl
  | cons record records ih =>
      have rest := ih (fun other member => keyed other (List.mem_cons_of_mem _ member))
        fun other member => seen other (List.mem_cons_of_mem _ member)
      rw [List.filter_cons, keyed record List.mem_cons_self]
      cases was : record.committed with
      | none => simpa [was] using rest
      | some row =>
          by_cases same : engine.key row = key
          · simp [was, same, seen record List.mem_cons_self]
          · simpa [was, same] using rest

theorem Engine.Clean.update {key : Key} {guard : Row → Bool} {change : Row → Row}
    {reply : Except Failure Nat} (clean : engine.Clean rows store)
    (apart : rows.Pairwise fun left right => engine.clash left right = false)
    (ran : engine.perform 0 (.update key guard change) fault store = some (reply, next)) :
    ((∃ failure, reply = .error failure) ∧ engine.Clean rows next) ∨
    (reply = .ok 0 ∧ engine.Clean rows next ∧
      ∀ row ∈ rows, engine.key row = key → guard row = false) ∨
    ∃ row ∈ rows, engine.key row = key ∧ guard row = true ∧ reply = .ok 1 ∧
      engine.Ready rows (rows.map fun other => if engine.key other = key then change other else other)
        next := by
  simp only [Engine.perform, clean.admitted, if_true] at ran
  split at ran
  · cases ran
    exact .inl ⟨⟨_, rfl⟩, clean⟩
  · simp only [Engine.update, clean.touched] at ran
    split at ran
    · split at ran
      · next nothing =>
          cases ran
          refine .inr (.inl ⟨rfl, clean, ?_⟩)
          intro row member keyed
          have absent := List.find?_eq_none.mp nothing row member
          simp [keyed] at absent
      · next row found =>
          have among := List.mem_of_find?_eq_some found
          have keyed : engine.key row = key := by simpa using List.find?_some found
          have unique : ∀ other ∈ rows, engine.key other = key → other = row :=
            fun other member same => Engine.keyed_unique apart member among (same.trans keyed.symm)
          split at ran
          · next guarded =>
              repeat' split at ran
              all_goals cases ran
              · refine .inr (.inr ⟨row, among, keyed, guarded, rfl, clean.admitted, ?_, ?_⟩)
                · simp only [Store.table, List.filterMap_map]
                  rw [← clean.committed]
                  refine List.filterMap_congr fun record _ => ?_
                  simp only [Function.comp_apply]
                  split <;> rfl
                · rw [← clean.committed]
                  simp only [Store.close, Store.table, List.map_filterMap, List.filterMap_map]
                  refine List.filterMap_congr fun record member => ?_
                  have whole := (clean.unwritten record member).1
                  obtain ⟨committed, was⟩ := Option.isSome_iff_exists.mp whole
                  have matched : engine.hasKey key record = decide (engine.key committed = key) := by
                    simp [Engine.hasKey, Stored.versions, clean.nothing_pending member, was]
                  have stored : committed ∈ rows := by
                    rw [← clean.committed]
                    exact List.mem_filterMap.mpr ⟨record, member, was⟩
                  simp only [Function.comp_apply, matched, decide_eq_true_eq, was, Option.map_some]
                  split
                  · next same =>
                      rw [unique committed stored same]
                      simp [Stored.settle]
                  · rw [clean.settle member, was]
              · exact .inl ⟨⟨_, rfl⟩, clean⟩
              · exact .inl ⟨⟨_, rfl⟩, clean⟩
          · next refused =>
              cases ran
              refine .inr (.inl ⟨rfl, clean, ?_⟩)
              intro other member same
              rw [unique other member same]
              exact Bool.eq_false_iff.mpr refused
    · cases ran

/-- An update that no row is meant by changes nothing and says so. -/
theorem Engine.Clean.update_absent {key : Key} {guard : Row → Bool} {change : Row → Row}
    {reply : Except Failure Nat} (clean : engine.Clean rows store)
    (absent : ∀ row ∈ rows, engine.key row = key → guard row = false)
    (ran : engine.perform 0 (.update key guard change) false store = some (reply, next)) :
    reply = .ok 0 ∧ engine.Clean rows next := by
  simp only [Engine.perform, clean.admitted, if_true, Bool.false_eq_true, if_false, Engine.update,
    clean.touched] at ran
  split at ran
  · split at ran
    · cases ran
      exact ⟨rfl, clean⟩
    · next row found =>
        have among := List.mem_of_find?_eq_some found
        have keyed : engine.key row = key := by simpa using List.find?_some found
        rw [absent row among keyed] at ran
        cases ran
        exact ⟨rfl, clean⟩
  · cases ran

theorem Engine.Ready.commit {reply : Except Failure Unit} (ready : engine.Ready rows pending store)
    (ran : engine.perform 0 .commit fault store = some (reply, next)) :
    (reply = .error .unavailable ∧ next.table = rows) ∨ reply = .ok () ∧ next.table = pending := by
  simp only [Engine.perform, ready.admitted, if_true] at ran
  split at ran
  · cases ran
    exact .inl ⟨rfl, (Store.close_table_release 0 store).trans ready.committed⟩
  · cases ran
    exact .inr ⟨rfl, ready.settled⟩

theorem Engine.Ready.rollback {reply : Unit} (ready : engine.Ready rows pending store)
    (ran : engine.perform 0 .rollback fault store = some (reply, next)) : next.table = rows := by
  cases ran
  exact (Store.close_table_release 0 store).trans ready.committed

/-! ## The shapes that transactions share -/

variable {faults : List Bool} {final : Store Row}

theorem Engine.Ready.endWith {outcome result : Outcome} (ready : engine.Ready rows pending store)
    (ran : (Client.endWith outcome : Client Row Key Outcome).alone engine faults store =
      some (result, final)) : result = outcome ∧ final.table = rows := by
  obtain ⟨reply, after, answered, rest⟩ := Client.alone_call ran
  cases rest
  exact ⟨rfl, ready.rollback answered⟩

/-- A single statement in a transaction of its own either fails and changes
nothing, or leaves behind what the statement promises. -/
theorem autocommit_alone {statement : Client Row Key (Except Failure α)}
    {result : Except Failure α} (leaves : α → List Row → Prop)
    (ran : (Client.autocommit statement).alone engine faults (Store.ofTable rows) =
      some (result, final))
    (promise : ∀ faults store result middle, engine.Clean rows store →
      statement.alone engine faults store = some (result, middle) → ∃ pending,
        engine.Ready rows pending middle ∧ ∀ value, result = .ok value → leaves value pending) :
    ((∃ failure, result = .error failure) ∧ final.table = rows) ∨
      ∃ value, result = .ok value ∧ leaves value final.table := by
  obtain ⟨reply, after, begun, rest⟩ := Client.alone_call ran
  rcases begin_alone begun with ⟨rfl, same⟩ | ⟨rfl, clean⟩
  · cases rest
    exact .inl ⟨⟨_, rfl⟩, same⟩
  · change Client.alone engine (statement >>= _) _ _ = _ at rest
    obtain ⟨found, middle, later, executed, closing⟩ := Client.alone_bind rest
    obtain ⟨pending, ready, promised⟩ := promise _ _ _ _ clean executed
    cases found with
    | error failure =>
        obtain ⟨_, _, answered, ceased⟩ := Client.alone_call closing
        cases ceased
        exact .inl ⟨⟨_, rfl⟩, ready.rollback answered⟩
    | ok value =>
        obtain ⟨committed, _, answered, ceased⟩ := Client.alone_call closing
        rcases ready.commit answered with ⟨rfl, same⟩ | ⟨rfl, settled⟩
        · cases ceased
          exact .inl ⟨⟨_, rfl⟩, same⟩
        · cases ceased
          exact .inr ⟨value, rfl, settled ▸ promised value rfl⟩

end Statements

theorem transact_alone {client : Client Row Key Outcome} {faults : List Bool}
    {rows after : List Row} {outcome : Outcome}
    (ran : engine.transact client faults rows = some (outcome, after)) :
    ∃ final, client.alone engine faults (Store.ofTable rows) = some (outcome, final) ∧
      final.table = after := by
  obtain ⟨⟨_, final⟩, alone, same⟩ := Option.map_eq_some_iff.mp ran
  cases same
  exact ⟨final, alone, rfl⟩

theorem Query.pick_filtered {condition : Row → Bool} {rows : List Row} :
    (Query.filtered condition).pick rows = rows.find? condition := by
  have head : ∀ list : List Row, (Query.filtered condition).first list = list.head? := by
    intro list
    cases list with
    | nil => rfl
    | cons row rest =>
        simp only [Query.first, Query.filtered, List.head?_cons]
        split <;> rfl
  rw [Query.pick, head]
  exact List.head?_filter

end NodeAtlas.Transactions
