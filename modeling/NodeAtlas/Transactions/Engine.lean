import Mathlib.Logic.Function.Basic
import NodeAtlas.Interleaving.System

/-! One table under a transactional engine, statement by statement. Writes stay
private to their transaction until it commits and lock their row until then; a
plain read sees the rows that were committed at the first plain read of its
transaction; an engine with a single connection runs one transaction at a time. -/

set_option autoImplicit false

namespace NodeAtlas.Transactions

open Interleaving

/-- The schema of the table: its primary key, when two rows share some unique
key, and the constraints a row must meet by itself. -/
structure Engine (Row Key : Type) where
  key : Row → Key
  clash : Row → Row → Bool
  accepts : Row → Bool
  exclusive : Bool
  symmetric : ∀ left right, clash left right = clash right left
  keyed : ∀ left right, key left = key right → clash left right = true

/-- A row as stored. The lock names the transaction that holds it and, once
that transaction has written the row, the version still to be committed. -/
structure Stored (Row : Type) where
  committed : Option Row
  lock : Option (Nat × Option Row)

namespace Stored

variable {Row : Type}

def pending (record : Stored Row) : Option Row :=
  record.lock.bind (·.2)

def versions (record : Stored Row) : List Row :=
  record.committed.toList ++ record.pending.toList

/-- No other transaction than `t` holds the row. -/
def available (t : Nat) (record : Stored Row) : Bool :=
  match record.lock with
  | some (owner, _) => owner = t
  | none => true

/-- What a writing statement of `t` finds: its own version, else the committed one. -/
def seenBy (t : Nat) (record : Stored Row) : Option Row :=
  if record.available t then record.pending.or record.committed else record.committed

def settle (t : Nat) (record : Stored Row) : Stored Row :=
  match record.lock with
  | some (owner, version) =>
      if owner = t then ⟨version.or record.committed, none⟩ else record
  | none => record

def release (t : Nat) (record : Stored Row) : Stored Row :=
  match record.lock with
  | some (owner, _) => if owner = t then ⟨record.committed, none⟩ else record
  | none => record

end Stored

structure Store (Row : Type) where
  records : List (Stored Row)
  snapshots : Nat → Option (List Row)
  holder : Option Nat

namespace Store

variable {Row : Type}

/-- The committed rows. -/
def table (store : Store Row) : List Row :=
  store.records.filterMap (·.committed)

def ofTable (rows : List Row) : Store Row :=
  ⟨rows.map fun row => ⟨some row, none⟩, fun _ => none, none⟩

/-- The transaction of `t` is over, with `finish` applied to each stored row. -/
def close (t : Nat) (finish : Stored Row → Stored Row) (store : Store Row) : Store Row where
  records := store.records.map finish
  snapshots := Function.update store.snapshots t none
  holder := if store.holder = some t then none else store.holder

/-- A crash: every open transaction is rolled back. -/
def recover (store : Store Row) : Store Row :=
  ⟨store.records.map fun record => ⟨record.committed, none⟩, fun _ => none, none⟩

end Store

inductive Failure where
  | unavailable
  | refused
  | duplicate
  deriving DecidableEq, Repr

/-- `WHERE condition ORDER BY precedes LIMIT 1`; rows that neither precedes
come in the order of the table. -/
structure Query (Row : Type) where
  condition : Row → Bool
  precedes : Row → Row → Bool

namespace Query

variable {Row : Type}

/-- A query without an order. -/
def filtered (condition : Row → Bool) : Query Row := ⟨condition, fun _ _ => false⟩

def first (query : Query Row) : List Row → Option Row
  | [] => none
  | row :: rest =>
      match query.first rest with
      | none => some row
      | some best => if query.precedes best row then some best else some row

def pick (query : Query Row) (rows : List Row) : Option Row :=
  query.first (rows.filter query.condition)

theorem first_mem {query : Query Row} {rows : List Row} {row : Row}
    (found : query.first rows = some row) : row ∈ rows := by
  induction rows generalizing row with
  | nil => cases found
  | cons head rest ih =>
      simp only [first] at found
      split at found
      · cases found
        exact List.mem_cons_self
      · next best chosen =>
          split at found
          · cases found
            exact List.mem_cons_of_mem _ (ih chosen)
          · cases found
            exact List.mem_cons_self

theorem pick_mem {query : Query Row} {rows : List Row} {row : Row}
    (found : query.pick rows = some row) : row ∈ rows ∧ query.condition row = true :=
  List.mem_filter.mp (first_mem found)

theorem pick_eq_none {query : Query Row} {rows : List Row} :
    query.pick rows = none ↔ ∀ row ∈ rows, query.condition row = false := by
  have empty : ∀ list, query.first list = none ↔ list = [] := by
    intro list
    cases list with
    | nil => simp [first]
    | cons head rest =>
        simp only [first, reduceCtorEq, iff_false]
        split
        · simp
        · split <;> simp
  simp [pick, empty, List.filter_eq_nil_iff]

end Query

/-- `select` is a plain read and `selectForUpdate` a locking read that skips
rows locked by others. -/
inductive Statement (Row Key : Type) where
  | begin
  | select (query : Query Row)
  | selectForUpdate (query : Query Row)
  | insert (row : Row)
  | update (key : Key) (guard : Row → Bool) (change : Row → Row)
  | commit
  | rollback

/-- An update replies with the number of affected rows. -/
@[reducible] def Statement.Reply {Row Key : Type} : Statement Row Key → Type
  | .begin => Except Failure Unit
  | .select _ => Except Failure (Option Row)
  | .selectForUpdate _ => Except Failure (Option Row)
  | .insert _ => Except Failure Unit
  | .update _ _ _ => Except Failure Nat
  | .commit => Except Failure Unit
  | .rollback => Unit

namespace Engine

variable {Row Key : Type} [DecidableEq Key] (engine : Engine Row Key)

def hasKey (key : Key) (record : Stored Row) : Bool :=
  record.versions.any fun row => engine.key row = key

def clashes (row : Row) (record : Stored Row) : Bool :=
  record.versions.any (engine.clash row)

def beginTransaction (t : Nat) (store : Store Row) : Option (Except Failure Unit × Store Row) :=
  if engine.exclusive then
    if store.holder.isNone then
      some (.ok (), { store with
        snapshots := Function.update store.snapshots t none
        holder := some t })
    else none
  else
    some (.ok (), { store with snapshots := Function.update store.snapshots t none })

def select (t : Nat) (query : Query Row) (store : Store Row) :
    Except Failure (Option Row) × Store Row :=
  let rows := (store.snapshots t).getD store.table
  let written := store.records.filterMap fun record =>
    if record.available t then record.pending else none
  let view := rows.filter (fun row => written.all fun own => engine.key own ≠ engine.key row)
  (.ok (query.pick (view ++ written)),
    { store with snapshots := Function.update store.snapshots t (some rows) })

def selectForUpdate (t : Nat) (query : Query Row) (store : Store Row) :
    Except Failure (Option Row) × Store Row :=
  let unlocked := store.records.filterMap fun record =>
    if record.available t then record.seenBy t else none
  match query.pick unlocked with
  | none => (.ok none, store)
  | some row =>
      (.ok (some row), { store with
        records := store.records.map fun record =>
          if record.available t && engine.hasKey (engine.key row) record then
            { record with lock := some (t, record.pending) }
          else record })

/-- A row that shares a unique key with a row locked by another transaction has
to wait for it. -/
def insert (t : Nat) (row : Row) (store : Store Row) :
    Option (Except Failure Unit × Store Row) :=
  if engine.accepts row then
    let rivals := store.records.filter (engine.clashes row)
    if rivals.all (Stored.available t) then
      if rivals.isEmpty then
        some (.ok (), { store with
          records := store.records ++ [⟨none, some (t, some row)⟩] })
      else some (.error .duplicate, store)
    else none
  else some (.error .refused, store)

def update (t : Nat) (key : Key) (guard : Row → Bool) (change : Row → Row)
    (store : Store Row) : Option (Except Failure Nat × Store Row) :=
  let touched := store.records.filter (engine.hasKey key)
  if touched.all (Stored.available t) then
    match touched.findSome? (Stored.seenBy t) with
    | none => some (.ok 0, store)
    | some row =>
        if guard row then
          if engine.accepts (change row) then
            let rivals := store.records.filter fun record =>
              !engine.hasKey key record && engine.clashes (change row) record
            if rivals.all (Stored.available t) then
              if rivals.isEmpty then
                some (.ok 1, { store with
                  records := store.records.map fun record =>
                    if engine.hasKey key record then
                      { record with lock := some (t, some (change row)) }
                    else record })
              else some (.error .duplicate, store)
            else none
          else some (.error .refused, store)
        else some (.ok 0, store)
  else none

/-- Whether a statement inside a transaction of `t` may run now. -/
def admits (t : Nat) (store : Store Row) : Bool :=
  !engine.exclusive || store.holder = some t

/-- A statement of thread `t`. With `fault` the database fails it: nothing is
written, and a commit that fails rolls the transaction back. -/
def perform (t : Nat) (statement : Statement Row Key) (fault : Bool) (store : Store Row) :
    Option (statement.Reply × Store Row) :=
  match statement with
  | .begin =>
      if fault then some (.error .unavailable, store) else engine.beginTransaction t store
  | .select query =>
      if engine.admits t store then
        some (if fault then (.error .unavailable, store) else engine.select t query store)
      else none
  | .selectForUpdate query =>
      if engine.admits t store then
        some (if fault then (.error .unavailable, store)
          else engine.selectForUpdate t query store)
      else none
  | .insert row =>
      if engine.admits t store then
        if fault then some (.error .unavailable, store) else engine.insert t row store
      else none
  | .update key guard change =>
      if engine.admits t store then
        if fault then some (.error .unavailable, store)
        else engine.update t key guard change store
      else none
  | .commit =>
      if engine.admits t store then
        if fault then some (.error .unavailable, store.close t (Stored.release t))
        else some (.ok (), store.close t (Stored.settle t))
      else none
  | .rollback => some ((), store.close t (Stored.release t))

end Engine

/-- Client code over one table. -/
abbrev Client (Row Key : Type) := Program (Statement Row Key) Statement.Reply

/-- Threads that run transactions against one table. A crash rolls back what
is open. -/
def system {Row Key Task Outcome : Type} [DecidableEq Key] (engine : Engine Row Key)
    (program : Task → Client Row Key Outcome) :
    System (Statement Row Key) Statement.Reply (Store Row) Task Outcome Bool where
  program := program
  perform := engine.perform
  external := fun _ _ => none
  restart := Store.recover

namespace Client

variable {Row Key : Type}

def begin : Client Row Key (Except Failure Unit) := .perform Statement.begin
def select (query : Query Row) : Client Row Key (Except Failure (Option Row)) :=
  .perform (Statement.select query)
def selectForUpdate (query : Query Row) :
    Client Row Key (Except Failure (Option Row)) :=
  .perform (Statement.selectForUpdate query)
def insert (row : Row) : Client Row Key (Except Failure Unit) := .perform (Statement.insert row)
def update (key : Key) (guard : Row → Bool) (change : Row → Row) :
    Client Row Key (Except Failure Nat) :=
  .perform (Statement.update key guard change)
def commit : Client Row Key (Except Failure Unit) := .perform Statement.commit
def rollback : Client Row Key Unit := .perform Statement.rollback

/-- A return that leaves the transaction to the deferred `Rollback`. -/
def endWith {Outcome : Type} (outcome : Outcome) : Client Row Key Outcome := do
  rollback
  return outcome

/-- A statement outside a transaction is one by itself. -/
def autocommit {α : Type} (statement : Client Row Key (Except Failure α)) :
    Client Row Key (Except Failure α) := do
  match ← begin with
  | .error failure => return .error failure
  | .ok () =>
      match ← statement with
      | .error failure =>
          rollback
          return .error failure
      | .ok value =>
          match ← commit with
          | .error failure => return .error failure
          | .ok () => return .ok value

end Client

end NodeAtlas.Transactions
