import NodeAtlas.Operations.Repository
import NodeAtlas.Transactions.Alone

/-! What each repository call does to the operations table when it is one step. -/

set_option autoImplicit false

namespace NodeAtlas.Operations

open Interleaving Transactions

/-- An error of the database itself: none of the values that callers look for. -/
structure FromDatabase (error : GoError) : Prop where
  unmarked : ∀ target, error.is target = false
  foreign : error.asProvider = none

inductive Found (clause : Row → Bool) (rows : List Row) : Except GoError Operation → Prop where
  | found {row : Row} (member : row ∈ rows) (matched : clause row = true) :
      Found clause rows (.ok row.toOperation)
  | missing (absent : ∀ row ∈ rows, clause row = false) :
      Found clause rows (.error (.sentinel .operationNotFound))
  | failed {error : GoError} (database : FromDatabase error) : Found clause rows (.error error)

inductive Created (db : Database) (operation : Operation) (rows : List Row) :
    Except GoError (Operation × Bool) → List Row → Prop where
  | created : Created db operation rows (.ok ({ operation with status := .queued }, true))
      (rows ++ [queuedRow db operation])
  | existing {row : Row} (member : row ∈ rows) : Created db operation rows
      (.ok (row.toOperation, false)) rows
  | failed {error : GoError} : Created db operation rows (.error error) rows

/-- An operation that exists already has the idempotency key of the one that was to be created. -/
def Rekeyed (db : Database) (operation : Operation) (result : Except GoError (Operation × Bool)) : Prop :=
  ∀ existing, result = .ok (existing, false) →
    db.same existing.idempotencyKey operation.idempotencyKey = true

/-- The table once the row of an id is rewritten to `after`. -/
def rewriteTable (db : Database) (id : GoString) (after : Operation) (rows : List Row) : List Row :=
  rows.map fun row => if db.same row.id id then row.rewritten db after else row

inductive Transitioned (db : Database) (clock : Instant) (id : GoString) (next : Status)
    (change : Change) (rows : List Row) : Except GoError Operation → List Row → Prop where
  | moved {row : Row} (member : row ∈ rows) (matched : hasID db id row = true)
      (valid : validTransition row.status next = true) :
      Transitioned db clock id next change rows
        (.ok (row.toOperation.transitioned next (change.instant clock) change))
        (rewriteTable db row.id
          (row.toOperation.transitioned next (change.instant clock) change) rows)
  | missing (absent : ∀ row ∈ rows, hasID db id row = false) :
      Transitioned db clock id next change rows (.error (.sentinel .operationNotFound)) rows
  | invalid {row : Row} (member : row ∈ rows) (matched : hasID db id row = true)
      (refused : validTransition row.status next = false) :
      Transitioned db clock id next change rows (.error (.sentinel .invalidTransition)) rows
  | failed {error : GoError} (database : FromDatabase error) :
      Transitioned db clock id next change rows (.error error) rows

variable {db : Database} {references : Row → Bool} {rows after : List Row} {faults : List Bool}
  {store final : Store Row}

private theorem failed_fromDatabase (failure : Failure) : FromDatabase (db.failed failure) where
  unmarked _ := rfl
  foreign := rfl

private theorem wrapped_fromDatabase (context : GoString) (failure : Failure) :
    FromDatabase (.wrapped context (db.failed failure)) where
  unmarked _ := rfl
  foreign := rfl

private theorem find_found {clause : Row → Bool} {row : Row}
    (located : rows.find? clause = some row) : row ∈ rows ∧ clause row = true :=
  ⟨List.mem_of_find?_eq_some located, List.find?_some located⟩

/-- A lookup inside a transaction that has written nothing. -/
private theorem findOperation_alone {clause : Row → Bool} {result : Except GoError Operation}
    (clean : (engine db references).Clean rows store)
    (ran : (findOperation db clause).alone (engine db references) faults store =
      some (result, final)) :
    (engine db references).Clean rows final ∧
      ((∃ row, rows.find? clause = some row ∧ result = .ok row.toOperation) ∨
      (rows.find? clause = none ∧ result = .error (.sentinel .operationNotFound)) ∨
      ∃ error, FromDatabase error ∧ result = .error error) := by
  obtain ⟨reply, middle, answered, rest⟩ := Client.alone_call ran
  obtain ⟨replied, still⟩ := clean.select answered
  rw [Query.pick_filtered] at replied
  rcases replied with rfl | rfl
  · cases rest
    exact ⟨still, .inr (.inr ⟨_, wrapped_fromDatabase _ _, rfl⟩)⟩
  · cases located : rows.find? clause with
    | none =>
        rw [located] at rest
        cases rest
        exact ⟨still, .inr (.inl ⟨rfl, rfl⟩)⟩
    | some row =>
        rw [located] at rest
        cases rest
        exact ⟨still, .inl ⟨row, rfl, rfl⟩⟩

theorem findCommitted_alone {clause : Row → Bool} {result : Except GoError Operation}
    (ran : (engine db references).transact (findCommitted db clause) faults rows =
      some (result, after)) : Found clause rows result ∧ after = rows := by
  obtain ⟨final, alone, rfl⟩ := transact_alone ran
  obtain ⟨reply, begun, answered, rest⟩ := Client.alone_call alone
  rcases begin_alone answered with ⟨rfl, same⟩ | ⟨rfl, clean⟩
  · cases rest
    exact ⟨.failed (wrapped_fromDatabase _ _), same⟩
  · change Client.alone _ (findOperation _ _ >>= _) _ _ = _ at rest
    obtain ⟨found, middle, later, looked, closing⟩ := Client.alone_bind rest
    obtain ⟨still, outcome⟩ := findOperation_alone clean looked
    obtain ⟨rfl, same⟩ := still.ready.endWith closing
    refine ⟨?_, same⟩
    rcases outcome with ⟨row, located, rfl⟩ | ⟨none_, rfl⟩ | ⟨error, database, rfl⟩
    · exact .found (find_found located).1 (find_found located).2
    · exact .missing fun row member => by simpa using List.find?_eq_none.mp none_ row member
    · exact .failed database

private theorem Rekeyed.error {operation : Operation} (error : GoError) :
    Rekeyed db operation (.error error) := by
  intro existing impossible
  cases impossible

private theorem Rekeyed.queued {operation : Operation} (queued : Operation) :
    Rekeyed db operation (.ok (queued, true)) := by
  intro existing impossible
  cases impossible

private theorem Rekeyed.found {operation : Operation} {row : Row}
    (located : rows.find? (hasIdempotencyKey db operation.idempotencyKey) = some row) :
    Rekeyed db operation (.ok (row.toOperation, false)) := by
  intro existing same
  cases same
  exact (find_found located).2

private theorem explainRejection_alone {operation : Operation} {failure : Failure}
    {result : Except GoError (Operation × Bool)}
    (clean : (engine db references).Clean rows store)
    (ran : (explainRejection db operation failure).alone (engine db references) faults store =
      some (result, final)) :
    Created db operation rows result final.table ∧ Rekeyed db operation result := by
  obtain ⟨found, middle, later, looked, rest⟩ := Client.alone_bind ran
  obtain ⟨still, outcome⟩ := findOperation_alone clean looked
  have unexplained : (findRival db operation failure).alone (engine db references) later middle =
      some (result, final) → Created db operation rows result final.table ∧ Rekeyed db operation result := by
    intro further
    obtain ⟨rival, _, _, looked, closing⟩ := Client.alone_bind further
    obtain ⟨settled, _⟩ := findOperation_alone still looked
    cases rival with
    | ok _ =>
        obtain ⟨rfl, same⟩ := settled.ready.endWith closing
        exact ⟨same ▸ .failed, .error _⟩
    | error _ =>
        obtain ⟨rfl, same⟩ := settled.ready.endWith closing
        exact ⟨same ▸ .failed, .error _⟩
  rcases outcome with ⟨row, located, rfl⟩ | ⟨_, rfl⟩ | ⟨error, _, rfl⟩
  · obtain ⟨rfl, same⟩ := still.ready.endWith rest
    rw [same]
    exact ⟨.existing (find_found located).1, .found located⟩
  · exact unexplained rest
  · exact unexplained rest

private theorem insertQueued_alone {operation : Operation}
    {result : Except GoError (Operation × Bool)}
    (clean : (engine db references).Clean rows store)
    (ran : (insertQueued db operation).alone (engine db references) faults store =
      some (result, final)) :
    Created db operation rows result final.table ∧ Rekeyed db operation result := by
  obtain ⟨reply, middle, answered, rest⟩ := Client.alone_call ran
  rcases clean.insert answered with ⟨⟨failure, rfl⟩, still⟩ | ⟨rfl, ready⟩
  · exact explainRejection_alone still rest
  · obtain ⟨committed, _, closed, ceased⟩ := Client.alone_call rest
    rcases ready.commit closed with ⟨rfl, same⟩ | ⟨rfl, settled⟩
    · cases ceased
      exact ⟨same ▸ .failed, .error _⟩
    · cases ceased
      exact ⟨settled ▸ .created, .queued _⟩

private theorem createQueued_outcome {operation : Operation} {result : Except GoError (Operation × Bool)}
    (ran : (engine db references).transact (createQueued db operation) faults rows =
      some (result, after)) :
    Created db operation rows result after ∧ Rekeyed db operation result := by
  obtain ⟨final, alone, rfl⟩ := transact_alone ran
  obtain ⟨reply, begun, answered, rest⟩ := Client.alone_call alone
  rcases begin_alone answered with ⟨rfl, same⟩ | ⟨rfl, clean⟩
  · cases rest
    exact ⟨same ▸ .failed, .error _⟩
  · change Client.alone _ (findOperation _ _ >>= _) _ _ = _ at rest
    obtain ⟨found, middle, later, looked, closing⟩ := Client.alone_bind rest
    obtain ⟨still, outcome⟩ := findOperation_alone clean looked
    rcases outcome with ⟨row, located, rfl⟩ | ⟨_, rfl⟩ | ⟨error, database, rfl⟩
    · obtain ⟨rfl, same⟩ := still.ready.endWith closing
      rw [same]
      exact ⟨.existing (find_found located).1, .found located⟩
    · exact insertQueued_alone still closing
    · simp only [database.unmarked] at closing
      obtain ⟨rfl, same⟩ := still.ready.endWith closing
      exact ⟨same ▸ .failed, .error _⟩

theorem createQueued_alone {operation : Operation} {result : Except GoError (Operation × Bool)}
    (ran : (engine db references).transact (createQueued db operation) faults rows =
      some (result, after)) : Created db operation rows result after :=
  (createQueued_outcome ran).1

theorem createQueued_rekeyed {operation : Operation} {result : Except GoError (Operation × Bool)}
    (ran : (engine db references).transact (createQueued db operation) faults rows =
      some (result, after)) : Rekeyed db operation result :=
  (createQueued_outcome ran).2

private theorem updateOperation_alone {row : Row} {operation : Operation}
    {result : Except GoError Operation}
    (apart : rows.Pairwise fun left right => (engine db references).clash left right = false)
    (member : row ∈ rows) (sameID : operation.id = row.id)
    (clean : (engine db references).Clean rows store)
    (ran : (updateOperation db row.status operation).alone (engine db references) faults store =
      some (result, final)) :
    (result = .ok operation ∧ final.table = rewriteTable db row.id operation rows) ∨
      ∃ error, FromDatabase error ∧ result = .error error ∧ final.table = rows := by
  obtain ⟨reply, middle, answered, rest⟩ := Client.alone_call ran
  rcases clean.update apart answered with ⟨⟨failure, rfl⟩, still⟩ | ⟨rfl, still, refused⟩ |
      ⟨found, _, _, _, rfl, ready⟩
  · obtain ⟨rfl, same⟩ := still.ready.endWith rest
    exact .inr ⟨_, wrapped_fromDatabase _ _, rfl, same⟩
  · have guarded := refused row member (congrArg db.collate sameID.symm)
    simp at guarded
  · obtain ⟨committed, _, closed, ceased⟩ := Client.alone_call rest
    rcases ready.commit closed with ⟨rfl, same⟩ | ⟨rfl, settled⟩
    · cases ceased
      exact .inr ⟨_, failed_fromDatabase _, rfl, same⟩
    · cases ceased
      refine .inl ⟨rfl, settled.trans ?_⟩
      simp only [rewriteTable, Database.same, engine, sameID, decide_eq_true_eq]

theorem transition_alone {clock : Instant} {id : GoString} {next : Status} {change : Change}
    {result : Except GoError Operation}
    (apart : rows.Pairwise fun left right => (engine db references).clash left right = false)
    (ran : (engine db references).transact (transition db clock id next change) faults rows =
      some (result, after)) : Transitioned db clock id next change rows result after := by
  obtain ⟨final, alone, rfl⟩ := transact_alone ran
  obtain ⟨reply, begun, answered, rest⟩ := Client.alone_call alone
  rcases begin_alone answered with ⟨rfl, same⟩ | ⟨rfl, clean⟩
  · cases rest
    exact same ▸ .failed (failed_fromDatabase _)
  · change Client.alone _ (findOperation _ _ >>= _) _ _ = _ at rest
    obtain ⟨found, middle, later, looked, closing⟩ := Client.alone_bind rest
    obtain ⟨still, outcome⟩ := findOperation_alone clean looked
    rcases outcome with ⟨row, located, rfl⟩ | ⟨none_, rfl⟩ | ⟨error, database, rfl⟩
    · obtain ⟨member, matched⟩ := find_found located
      change Client.alone _ (if validTransition row.status next = true then _ else _) _ _ = _
        at closing
      split at closing
      · next valid =>
          have sameID : (row.toOperation.transitioned next (change.instant clock) change).id =
              row.id := rfl
          rcases updateOperation_alone apart member sameID still closing with
            ⟨rfl, same⟩ | ⟨error, database, rfl, same⟩
          · rw [same]
            exact .moved member matched valid
          · rw [same]
            exact .failed database
      · next refused =>
          obtain ⟨rfl, same⟩ := still.ready.endWith closing
          rw [same]
          exact .invalid member matched (Bool.eq_false_iff.mpr refused)
    · obtain ⟨rfl, same⟩ := still.ready.endWith closing
      rw [same]
      exact .missing fun row member => by simpa using List.find?_eq_none.mp none_ row member
    · obtain ⟨rfl, same⟩ := still.ready.endWith closing
      exact same ▸ .failed database

private theorem updateOperation_returns {previous : Status} {operation returned : Operation}
    (ran : (updateOperation db previous operation).alone (engine db references) faults store =
      some (.ok returned, final)) : returned = operation := by
  obtain ⟨reply, middle, _, rest⟩ := Client.alone_call ran
  cases reply with
  | error failure =>
      obtain ⟨_, _, _, ceased⟩ := Client.alone_call rest
      cases ceased
  | ok affected =>
      change Client.alone _ (if affected ≠ 1 then _ else _) _ _ = _ at rest
      split at rest
      · obtain ⟨_, _, _, ceased⟩ := Client.alone_call rest
        cases ceased
      · obtain ⟨committed, _, _, ceased⟩ := Client.alone_call rest
        cases committed <;> cases ceased
        rfl

/-- What a transition returns, whatever else the table holds. -/
theorem transition_returns {clock : Instant} {id : GoString} {next : Status} {change : Change}
    {operation : Operation}
    (ran : (engine db references).transact (transition db clock id next change) faults rows =
      some (.ok operation, after)) : db.same operation.id id = true ∧ operation.status = next := by
  obtain ⟨final, alone, rfl⟩ := transact_alone ran
  obtain ⟨reply, begun, answered, rest⟩ := Client.alone_call alone
  rcases begin_alone answered with ⟨rfl, _⟩ | ⟨rfl, clean⟩
  · cases rest
  · change Client.alone _ (findOperation _ _ >>= _) _ _ = _ at rest
    obtain ⟨found, middle, later, looked, closing⟩ := Client.alone_bind rest
    obtain ⟨still, outcome⟩ := findOperation_alone clean looked
    rcases outcome with ⟨row, located, rfl⟩ | ⟨_, rfl⟩ | ⟨error, _, rfl⟩
    · change Client.alone _ (if validTransition row.status next = true then _ else _) _ _ = _
        at closing
      split at closing
      · obtain rfl := updateOperation_returns closing
        exact ⟨(find_found located).2, rfl⟩
      · obtain ⟨impossible, _⟩ := still.ready.endWith closing
        cases impossible
    · obtain ⟨impossible, _⟩ := still.ready.endWith closing
      cases impossible
    · obtain ⟨impossible, _⟩ := still.ready.endWith closing
      cases impossible

end NodeAtlas.Operations
