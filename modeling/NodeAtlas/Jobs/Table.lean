import NodeAtlas.Jobs.Repository
import NodeAtlas.Transactions.Alone

/-! What each repository call does to the jobs table when it is one step. -/

set_option autoImplicit false

namespace NodeAtlas.Jobs

open Interleaving Transactions

/-- The table once the row of an id is changed. -/
def changeRow (db : Database) (id : GoString) (change : Row → Row) (rows : List Row) : List Row :=
  rows.map fun row => if db.same row.id id then change row else row

inductive Enqueued (db : Database) (job : Job) (rows : List Row) :
    Except GoError Unit → List Row → Prop where
  | stored : Enqueued db job rows (.ok ()) (rows ++ [enqueuedRow db job])
  | failed {error : GoError} : Enqueued db job rows (.error error) rows

inductive Granted (db : Database) (owner : GoString) (now : Instant) (duration : Duration)
    (rows : List Row) : Except GoError Lease → List Row → Prop where
  | granted {row : Row} {lease : Lease} (member : row ∈ rows)
      (chosen : (leasable db now).condition row = true)
      (sameID : lease.job.id = row.id) (sameKind : lease.job.kind = row.kind)
      (samePayload : lease.job.payload = row.payload)
      (attempt : lease.job.attempts = row.attempts + 1)
      (sameLimit : lease.job.maxAttempts = row.maxAttempts) :
      Granted db owner now duration rows (.ok lease)
        (changeRow db row.id (Row.leased db owner now (now + duration)) rows)
  | failed {error : GoError} : Granted db owner now duration rows (.error error) rows

/-- What `Retry`, `Complete` and `Fail` do; `change` depends on the row for `Retry`. -/
inductive Released (db : Database) (id owner : GoString) (change : Row → Row → Row)
    (rows : List Row) : Except GoError Unit → List Row → Prop where
  | released {row : Row} (member : row ∈ rows) (matched : db.same row.id id = true)
      (held : leasedBy db owner row = true) :
      Released db id owner change rows (.ok ()) (changeRow db id (change row) rows)
  | failed {error : GoError} : Released db id owner change rows (.error error) rows

variable {db : Database} {columns : Row → Bool} {rows after : List Row} {faults : List Bool}
  {store final : Store Row}

/-- A row of a changed table that the change did not mean is as it was. -/
theorem changeRow_cases {id : GoString} {change : Row → Row} {row : Row}
    (member : row ∈ changeRow db id change rows) :
    (row ∈ rows ∧ db.same row.id id = false) ∨
      ∃ old ∈ rows, db.same old.id id = true ∧ row = change old := by
  obtain ⟨old, among, rfl⟩ := List.mem_map.mp member
  split
  · next same => exact .inr ⟨old, among, same, rfl⟩
  · next other => exact .inl ⟨among, Bool.eq_false_iff.mpr other⟩

theorem changeRow_known (db : Database) (id : GoString) (change : Row → Row)
    (kept : ∀ row, (change row).id = row.id) {row : Row} (member : row ∈ rows) :
    ∃ later ∈ changeRow db id change rows, later.id = row.id := by
  refine ⟨_, List.mem_map_of_mem member, ?_⟩
  split
  · exact kept row
  · rfl

theorem same_row
    (apart : rows.Pairwise fun left right => (engine db columns).clash left right = false)
    {row other : Row} (member : row ∈ rows) (among : other ∈ rows)
    (same : db.same other.id row.id = true) : other = row := by
  apply Transactions.Engine.keyed_unique apart among member
  simpa [engine, Database.same] using same

private theorem insert_leaves {row : Row} {statementFaults : List Bool}
    {result : Except Failure Unit} (clean : (engine db columns).Clean rows store)
    (ran : (Client.insert row).alone (engine db columns) statementFaults store =
      some (result, final)) :
    ∃ pending, (engine db columns).Ready rows pending final ∧
      ∀ value, result = .ok value → pending = rows ++ [row] := by
  obtain ⟨reply, after, answered, rest⟩ := Client.alone_call ran
  cases rest
  rcases clean.insert answered with ⟨⟨failure, rfl⟩, still⟩ | ⟨rfl, ready⟩
  · exact ⟨rows, still.ready, fun value impossible => by cases impossible⟩
  · exact ⟨_, ready, fun _ _ => rfl⟩

theorem enqueue_alone {job : Job} {result : Except GoError Unit}
    (ran : (engine db columns).transact (enqueue db job) faults rows = some (result, after)) :
    Enqueued db job rows result after := by
  obtain ⟨final, alone, rfl⟩ := transact_alone ran
  obtain ⟨stored, middle, later, inserted, rest⟩ := Client.alone_bind alone
  rcases autocommit_alone (fun _ pending => pending = rows ++ [enqueuedRow db job]) inserted
      fun _ _ _ _ clean executed => insert_leaves clean executed with
    ⟨⟨failure, rfl⟩, same⟩ | ⟨_, rfl, same⟩
  · cases rest
    rw [same]
    exact .failed
  · cases rest
    rw [same]
    exact .stored

theorem enqueueFor_alone {queue : Queue} {kind : Kind} {field message id : GoString}
    {result : Except GoError Unit}
    (ran : (engine db columns).transact (enqueueFor db queue kind field message id) faults rows =
      some (result, after)) :
    (id ≠ [] ∧ Enqueued db (queue.job kind field id) rows result after) ∨
      (∃ error, result = .error error) ∧ after = rows := by
  unfold enqueueFor at ran
  split at ran
  · obtain ⟨final, alone, rfl⟩ := transact_alone ran
    cases alone
    refine .inr ⟨⟨_, rfl⟩, ?_⟩
    simp [Store.ofTable, Store.table, List.filterMap_map]
  · next named => exact .inl ⟨named, enqueue_alone ran⟩

private theorem changeRow_keyed {id : GoString} {change : Row → Row} :
    (rows.map fun row => if (engine db columns).key row = db.collate id then change row else row) =
      changeRow db id change rows := by
  refine List.map_congr_left fun row _ => ?_
  by_cases same : db.collate row.id = db.collate id
  · simp [engine, Database.same, same]
  · simp [engine, Database.same, same]

private theorem claim_alone {owner : GoString} {now : Instant} {duration : Duration} {row : Row}
    {result : Except GoError Lease}
    (apart : rows.Pairwise fun left right => (engine db columns).clash left right = false)
    (member : row ∈ rows) (chosen : (leasable db now).condition row = true)
    (clean : (engine db columns).Clean rows store)
    (ran : (claim db owner now duration row).alone (engine db columns) faults store =
      some (result, final)) : Granted db owner now duration rows result final.table := by
  obtain ⟨reply, middle, answered, rest⟩ := Client.alone_call ran
  rcases clean.update apart answered with ⟨⟨failure, rfl⟩, still⟩ | ⟨rfl, still, _⟩ |
      ⟨found, _, _, _, rfl, ready⟩
  · obtain ⟨rfl, same⟩ := still.ready.endWith rest
    exact same ▸ .failed
  · obtain ⟨rfl, same⟩ := still.ready.endWith rest
    exact same ▸ .failed
  · obtain ⟨committed, _, closed, ceased⟩ := Client.alone_call rest
    rw [changeRow_keyed] at ready
    rcases ready.commit closed with ⟨rfl, same⟩ | ⟨rfl, settled⟩
    · cases ceased
      exact same ▸ .failed
    · cases ceased
      rw [settled]
      exact .granted member chosen rfl rfl rfl rfl rfl

theorem selectLeasable_alone {now : Instant} {found : Except Failure (Option Row)}
    (clean : (engine db columns).Clean rows store)
    (ran : (selectLeasable db now).alone (engine db columns) faults store = some (found, final)) :
    (found = .error .unavailable ∨ found = .ok ((leasable db now).pick rows)) ∧
      (engine db columns).Clean rows final := by
  unfold selectLeasable at ran
  split at ran
  · obtain ⟨_, _, executed, ceased⟩ := Client.alone_call ran
    cases ceased
    exact clean.selectForUpdate executed
  · obtain ⟨_, _, executed, ceased⟩ := Client.alone_call ran
    cases ceased
    exact clean.select executed

theorem leaseNext_alone {owner : GoString} {now : Instant} {duration : Duration}
    {result : Except GoError Lease}
    (apart : rows.Pairwise fun left right => (engine db columns).clash left right = false)
    (ran : (engine db columns).transact (leaseNext db owner now duration) faults rows =
      some (result, after)) : Granted db owner now duration rows result after := by
  obtain ⟨final, alone, rfl⟩ := transact_alone ran
  obtain ⟨reply, begun, answered, rest⟩ := Client.alone_call alone
  rcases begin_alone answered with ⟨rfl, same⟩ | ⟨rfl, clean⟩
  · cases rest
    exact same ▸ .failed
  · change Client.alone _ (selectLeasable _ _ >>= _) _ _ = _ at rest
    obtain ⟨found, middle, later, looked, closing⟩ := Client.alone_bind rest
    obtain ⟨outcome, still⟩ := selectLeasable_alone clean looked
    rcases outcome with rfl | rfl
    · obtain ⟨rfl, same⟩ := still.ready.endWith closing
      exact same ▸ .failed
    · cases picked : (leasable db now).pick rows with
      | none =>
          rw [picked] at closing
          obtain ⟨rfl, same⟩ := still.ready.endWith closing
          exact same ▸ .failed
      | some row =>
          rw [picked] at closing
          obtain ⟨member, chosen⟩ := Query.pick_mem picked
          exact claim_alone apart member chosen still closing

private theorem claim_returns {owner : GoString} {now : Instant} {duration : Duration} {row : Row}
    {lease : Lease}
    (ran : (claim db owner now duration row).alone (engine db columns) faults store =
      some (.ok lease, final)) :
    lease.job.id = row.id ∧ lease.owner = owner ∧ lease.expiresAt = now + duration := by
  obtain ⟨reply, middle, _, rest⟩ := Client.alone_call ran
  cases reply with
  | error failure =>
      obtain ⟨_, _, _, ceased⟩ := Client.alone_call rest
      cases ceased
  | ok affected =>
      change Client.alone _ (if affected ≠ 1 then _ else _) _ _ = _ at rest
      split at rest
      · obtain ⟨_, _, _, ceased⟩ := Client.alone_call rest
        cases ceased
      · obtain ⟨committed, _, _, ceased⟩ := Client.alone_call rest
        cases committed <;> cases ceased
        exact ⟨rfl, rfl, rfl⟩

/-- What a lease says of itself, whatever else the table holds. -/
theorem leaseNext_returns {owner : GoString} {now : Instant} {duration : Duration} {lease : Lease}
    (ran : (engine db columns).transact (leaseNext db owner now duration) faults rows =
      some (.ok lease, after)) : lease.owner = owner ∧ lease.expiresAt = now + duration := by
  obtain ⟨final, alone, _⟩ := transact_alone ran
  obtain ⟨begun, _, _, rest⟩ := Client.alone_call alone
  cases begun with
  | error failure => cases rest
  | ok _ =>
      change Client.alone _ (selectLeasable _ _ >>= _) _ _ = _ at rest
      obtain ⟨found, middle, later, _, closing⟩ := Client.alone_bind rest
      rcases found with failure | (_ | row)
      · obtain ⟨_, _, _, ceased⟩ := Client.alone_call closing
        cases ceased
      · obtain ⟨_, _, _, ceased⟩ := Client.alone_call closing
        cases ceased
      · exact (claim_returns closing).2

/-- The lease is of the row that the query picks first. -/
theorem leaseNext_picks {owner : GoString} {now : Instant} {duration : Duration} {lease : Lease}
    (ran : (engine db columns).transact (leaseNext db owner now duration) faults rows =
      some (.ok lease, after)) :
    ∃ row, (leasable db now).pick rows = some row ∧ lease.job.id = row.id := by
  obtain ⟨final, alone, rfl⟩ := transact_alone ran
  obtain ⟨reply, begun, answered, rest⟩ := Client.alone_call alone
  rcases begin_alone answered with ⟨rfl, _⟩ | ⟨rfl, clean⟩
  · cases rest
  · change Client.alone _ (selectLeasable _ _ >>= _) _ _ = _ at rest
    obtain ⟨found, middle, later, looked, closing⟩ := Client.alone_bind rest
    rcases (selectLeasable_alone clean looked).1 with rfl | rfl
    · obtain ⟨_, _, _, ceased⟩ := Client.alone_call closing
      cases ceased
    · cases picked : (leasable db now).pick rows with
      | none =>
          rw [picked] at closing
          obtain ⟨_, _, _, ceased⟩ := Client.alone_call closing
          cases ceased
      | some row =>
          rw [picked] at closing
          exact ⟨row, rfl, (claim_returns closing).1⟩

/-- The status that `Retry` gives to a job. -/
def retryStatus (row : Row) : Status :=
  if row.attempts ≥ row.maxAttempts then .failed else .queued

theorem retry_alone {id owner : GoString} {availableAt : Instant} {message : GoString}
    {result : Except GoError Unit}
    (apart : rows.Pairwise fun left right => (engine db columns).clash left right = false)
    (ran : (engine db columns).transact (retry db id owner availableAt message) faults rows =
      some (result, after)) :
    Released db id owner (fun read => Row.retried db (retryStatus read) availableAt message) rows
      result after := by
  obtain ⟨final, alone, rfl⟩ := transact_alone ran
  obtain ⟨reply, begun, answered, rest⟩ := Client.alone_call alone
  rcases begin_alone answered with ⟨rfl, same⟩ | ⟨rfl, clean⟩
  · cases rest
    exact same ▸ .failed
  · obtain ⟨found, middle, looked, closing⟩ := Client.alone_call rest
    obtain ⟨outcome, still⟩ := clean.select looked
    rcases outcome with rfl | rfl
    · obtain ⟨rfl, same⟩ := still.ready.endWith closing
      exact same ▸ .failed
    · rw [Query.pick_filtered] at closing
      cases located : rows.find? fun row => db.same row.id id && leasedBy db owner row with
      | none =>
          rw [located] at closing
          obtain ⟨rfl, same⟩ := still.ready.endWith closing
          exact same ▸ .failed
      | some read =>
          rw [located] at closing
          have member := List.mem_of_find?_eq_some located
          have matched := List.find?_some located
          rw [Bool.and_eq_true] at matched
          obtain ⟨affected, written, changed, rest⟩ := Client.alone_call closing
          rcases still.update apart changed with ⟨⟨failure, rfl⟩, unwritten⟩ | ⟨rfl, unwritten, _⟩ |
              ⟨_, _, _, _, rfl, ready⟩
          · obtain ⟨rfl, same⟩ := unwritten.ready.endWith rest
            exact same ▸ .failed
          · obtain ⟨rfl, same⟩ := unwritten.ready.endWith rest
            exact same ▸ .failed
          · obtain ⟨committed, _, closed, ceased⟩ := Client.alone_call rest
            rw [changeRow_keyed] at ready
            rcases ready.commit closed with ⟨rfl, same⟩ | ⟨rfl, settled⟩
            · cases ceased
              exact same ▸ .failed
            · cases ceased
              rw [settled]
              exact .released member matched.1 matched.2

private theorem update_leaves {id : GoString} {guard : Row → Bool} {change : Row → Row}
    {statementFaults : List Bool} {result : Except Failure Nat}
    (apart : rows.Pairwise fun left right => (engine db columns).clash left right = false)
    (clean : (engine db columns).Clean rows store)
    (ran : (Client.update (db.collate id) guard change).alone (engine db columns) statementFaults
      store = some (result, final)) :
    ∃ pending, (engine db columns).Ready rows pending final ∧
      ∀ affected, result = .ok affected → (affected = 0 ∧ pending = rows) ∨
        affected = 1 ∧ pending = changeRow db id change rows ∧
          ∃ row ∈ rows, db.same row.id id = true ∧ guard row = true := by
  obtain ⟨reply, after, answered, rest⟩ := Client.alone_call ran
  cases rest
  rcases clean.update apart answered with ⟨⟨failure, rfl⟩, still⟩ | ⟨rfl, still, _⟩ |
      ⟨row, member, keyed, guarded, rfl, ready⟩
  · exact ⟨rows, still.ready, fun value impossible => by cases impossible⟩
  · refine ⟨rows, still.ready, ?_⟩
    intro affected same
    cases same
    exact .inl ⟨rfl, rfl⟩
  · rw [changeRow_keyed] at ready
    refine ⟨_, ready, ?_⟩
    intro affected same
    cases same
    exact .inr ⟨rfl, rfl, row, member, by simpa [engine, Database.same] using keyed, guarded⟩

theorem finish_alone {id owner : GoString} {status : Status} {at_ : Instant} {message : GoString}
    {result : Except GoError Unit}
    (apart : rows.Pairwise fun left right => (engine db columns).clash left right = false)
    (ran : (engine db columns).transact (finish db id owner status at_ message) faults rows =
      some (result, after)) :
    Released db id owner (fun _ => Row.finished db status at_ message) rows result after := by
  obtain ⟨final, alone, rfl⟩ := transact_alone ran
  obtain ⟨written, middle, later, updated, rest⟩ := Client.alone_bind alone
  rcases autocommit_alone _ updated
      fun _ _ _ _ clean executed => update_leaves apart clean executed with
    ⟨⟨failure, rfl⟩, same⟩ | ⟨affected, rfl, ⟨rfl, same⟩ | ⟨rfl, same, row, member, matched, held⟩⟩
  · cases rest
    exact same ▸ .failed
  · cases rest
    exact same ▸ .failed
  · cases rest
    rw [same]
    exact .released member matched held

/-! ## When the lease is lost

Without a fault, a caller whose name the job does not carry is told so. -/

private theorem begun_plainly {reply : Except Failure Unit}
    (ran : (engine db columns).perform 0 .begin false (Store.ofTable rows) = some (reply, store)) :
    reply = .ok () ∧ (engine db columns).Clean rows store := by
  rcases begin_alone ran with ⟨rfl, _⟩ | begun
  · cases perform_unfaulted ran
  · exact begun

section Lost

variable {id owner : GoString}
  (absent : ∀ row ∈ rows, db.same row.id id = true → leasedBy db owner row = false)

include absent

theorem finish_lost {status : Status} {at_ : Instant} {message : GoString}
    {result : Except GoError Unit}
    (ran : (engine db columns).transact (finish db id owner status at_ message) [] rows =
      some (result, after)) : result = .error (.sentinel .leaseLost) := by
  obtain ⟨final, alone, rfl⟩ := transact_alone ran
  obtain ⟨reply, begun, answered, rest⟩ := Client.alone_call alone
  obtain ⟨rfl, clean⟩ := begun_plainly answered
  obtain ⟨affected, written, changed, closing⟩ := Client.alone_call rest
  obtain ⟨rfl, still⟩ := clean.update_absent
    (fun row member keyed => absent row member (by simpa [engine, Database.same] using keyed)) changed
  obtain ⟨committed, _, closed, ceased⟩ := Client.alone_call closing
  rcases still.ready.commit closed with ⟨rfl, _⟩ | ⟨rfl, _⟩
  · cases perform_unfaulted closed
  · cases ceased
    rfl

theorem retry_lost {availableAt : Instant} {message : GoString} {result : Except GoError Unit}
    (ran : (engine db columns).transact (retry db id owner availableAt message) [] rows =
      some (result, after)) : result = .error (.sentinel .leaseLost) := by
  obtain ⟨final, alone, rfl⟩ := transact_alone ran
  obtain ⟨reply, begun, answered, rest⟩ := Client.alone_call alone
  obtain ⟨rfl, clean⟩ := begun_plainly answered
  obtain ⟨found, middle, looked, closing⟩ := Client.alone_call rest
  rcases (clean.select looked).1 with rfl | rfl
  · cases perform_unfaulted looked
  · have nothing : rows.find? (fun row => db.same row.id id && leasedBy db owner row) = none := by
      rw [List.find?_eq_none]
      intro row member matched
      rw [Bool.and_eq_true] at matched
      rw [absent row member matched.1] at matched
      exact absurd matched.2 (by simp)
    rw [Query.pick_filtered, nothing] at closing
    obtain ⟨_, _, _, ceased⟩ := Client.alone_call closing
    cases ceased
    rfl

end Lost

end NodeAtlas.Jobs
