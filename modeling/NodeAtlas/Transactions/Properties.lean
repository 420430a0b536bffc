import Mathlib.Data.List.Pairwise
import Mathlib.Tactic.Common
import NodeAtlas.Interleaving.Discipline
import NodeAtlas.Transactions.Engine

/-! What one statement can do to the stored rows, and that the unique keys of
the schema hold among all versions of them, whatever the clients run. -/

set_option autoImplicit false

namespace NodeAtlas.Transactions

open Interleaving

variable {Row Key : Type}

/-- The statement left a pending version behind. -/
def wrote : Event (Statement Row Key) Statement.Reply → Bool
  | ⟨.insert _, .ok _⟩ => true
  | ⟨.update _ _ _, .ok affected⟩ => affected != 0
  | _ => false

def settles : Event (Statement Row Key) Statement.Reply → Bool
  | ⟨.commit, .ok _⟩ => true
  | _ => false

/-- The statement was the last one of its transaction. -/
def closes : Event (Statement Row Key) Statement.Reply → Bool
  | ⟨.commit, _⟩ => true
  | ⟨.rollback, _⟩ => true
  | _ => false

namespace Stored

theorem mem_versions {record : Stored Row} {row : Row} :
    row ∈ record.versions ↔ record.committed = some row ∨ record.pending = some row := by
  simp [versions]

theorem available_cases {t : Nat} {record : Stored Row} (free : record.available t = true) :
    record.lock = none ∨ ∃ version, record.lock = some (t, version) := by
  unfold available at free
  split at free
  · next owner version held =>
      simp only [decide_eq_true_eq] at free
      subst free
      exact .inr ⟨version, held⟩
  · next unlocked => exact .inl unlocked

theorem pending_lock {record : Stored Row} {new : Row}
    (pending : record.pending = some new) : ∃ t, record.lock = some (t, some new) := by
  unfold Stored.pending at pending
  rcases lock : record.lock with _ | ⟨t, version⟩
  · simp [lock] at pending
  · simp only [lock, Option.bind_some] at pending
    exact ⟨t, by rw [pending]⟩

theorem lock_pending {record : Stored Row} {t : Nat} {new : Row}
    (lock : record.lock = some (t, some new)) : record.pending = some new := by
  simp [Stored.pending, lock]

theorem versions_settle {t : Nat} {record : Stored Row} {row : Row}
    (member : row ∈ (record.settle t).versions) : row ∈ record.versions := by
  unfold settle at member
  split at member
  · next owner version held =>
      split at member
      · rw [mem_versions] at member ⊢
        rcases member with kept | absurd
        · rcases Option.or_eq_some_iff.mp kept with own | ⟨_, former⟩
          · exact .inr (by simpa [pending, held] using own)
          · exact .inl former
        · simp [pending] at absurd
      · exact member
  · exact member

theorem versions_release {t : Nat} {record : Stored Row} {row : Row}
    (member : row ∈ (record.release t).versions) : row ∈ record.versions := by
  unfold release at member
  split at member
  · split at member
    · rw [mem_versions] at member ⊢
      rcases member with kept | absurd
      · exact .inl kept
      · simp [pending] at absurd
    · exact member
  · exact member

end Stored

variable [DecidableEq Key] {engine : Engine Row Key}

theorem Engine.hasKey_iff {key : Key} {record : Stored Row} :
    engine.hasKey key record = true ↔ ∃ row ∈ record.versions, engine.key row = key := by
  simp [Engine.hasKey]

omit [DecidableEq Key] in
theorem Engine.clashes_eq_false_iff {row : Row} {record : Stored Row} :
    engine.clashes row record = false ↔
      ∀ version ∈ record.versions, engine.clash row version = false := by
  simp [Engine.clashes]

def Engine.overwrite (engine : Engine Row Key) (t : Nat) (key : Key) (row : Row)
    (record : Stored Row) : Stored Row :=
  if engine.hasKey key record then { record with lock := some (t, some row) } else record

def Engine.hold (engine : Engine Row Key) (t : Nat) (key : Key) (record : Stored Row) :
    Stored Row :=
  if record.available t && engine.hasKey key record then
    { record with lock := some (t, record.pending) }
  else record

/-- Everything a statement of `t` can do to the stored rows, with its reply. -/
inductive Effect (engine : Engine Row Key) (t : Nat) (records : List (Stored Row)) :
    Event (Statement Row Key) Statement.Reply → List (Stored Row) → Prop where
  | unchanged {event} (unwritten : wrote event = false) (unsettled : settles event = false) :
      Effect engine t records event records
  | inserted {row : Row} (accepted : engine.accepts row = true)
      (unrivalled : ∀ record ∈ records, engine.clashes row record = false) :
      Effect engine t records ⟨.insert row, .ok ()⟩ (records ++ [⟨none, some (t, some row)⟩])
  | updated {key : Key} {guard : Row → Bool} {change : Row → Row} {record : Stored Row}
      {row : Row} (member : record ∈ records) (found : engine.hasKey key record = true)
      (seen : record.seenBy t = some row) (guarded : guard row = true)
      (accepted : engine.accepts (change row) = true)
      (available : ∀ other ∈ records, engine.hasKey key other = true →
        other.available t = true)
      (unrivalled : ∀ other ∈ records, engine.hasKey key other = false →
        engine.clashes (change row) other = false) :
      Effect engine t records ⟨.update key guard change, .ok 1⟩
        (records.map (engine.overwrite t key (change row)))
  | held {query : Query Row} {row : Row}
      (picked : query.pick (records.filterMap fun record =>
        if record.available t then record.seenBy t else none) = some row) :
      Effect engine t records ⟨.selectForUpdate query, .ok (some row)⟩
        (records.map (engine.hold t (engine.key row)))
  | settled : Effect engine t records ⟨.commit, .ok ()⟩ (records.map (Stored.settle t))
  | failed : Effect engine t records ⟨.commit, .error .unavailable⟩
      (records.map (Stored.release t))
  | released : Effect engine t records ⟨.rollback, ()⟩ (records.map (Stored.release t))

private theorem insert_effect {t : Nat} {row : Row} {store next : Store Row}
    {reply : Except Failure Unit} (ran : engine.insert t row store = some (reply, next)) :
    Effect engine t store.records ⟨.insert row, reply⟩ next.records := by
  unfold Engine.insert at ran
  split at ran
  · next accepted =>
      dsimp only at ran
      split at ran
      · split at ran
        · next unrivalled =>
            cases ran
            refine .inserted accepted ?_
            intro record member
            have absent := List.filter_eq_nil_iff.mp (List.isEmpty_iff.mp unrivalled) record member
            simpa using absent
        · cases ran; exact .unchanged rfl rfl
      · cases ran
  · cases ran; exact .unchanged rfl rfl

private theorem update_effect {t : Nat} {key : Key} {guard : Row → Bool}
    {change : Row → Row} {store next : Store Row} {reply : Except Failure Nat}
    (ran : engine.update t key guard change store = some (reply, next)) :
    Effect engine t store.records ⟨.update key guard change, reply⟩ next.records := by
  unfold Engine.update at ran
  dsimp only at ran
  split at ran
  · next free =>
      split at ran
      · cases ran; exact .unchanged rfl rfl
      · next row found =>
          split at ran
          · next guarded =>
              split at ran
              · next accepted =>
                  split at ran
                  · split at ran
                    · next unrivalled =>
                        cases ran
                        obtain ⟨record, member, seen⟩ := List.exists_of_findSome?_eq_some found
                        obtain ⟨stored, hit⟩ := List.mem_filter.mp member
                        refine .updated stored hit seen guarded accepted ?_ ?_
                        · intro other among matched
                          exact List.all_eq_true.mp free other
                            (List.mem_filter.mpr ⟨among, matched⟩)
                        · intro other among different
                          have absent := List.filter_eq_nil_iff.mp
                            (List.isEmpty_iff.mp unrivalled) other among
                          simpa [different] using absent
                    · cases ran; exact .unchanged rfl rfl
                  · cases ran
              · cases ran; exact .unchanged rfl rfl
          · cases ran; exact .unchanged rfl rfl
  · cases ran

private theorem selectForUpdate_effect {t : Nat} {query : Query Row}
    {store next : Store Row} {reply : Except Failure (Option Row)}
    (ran : engine.selectForUpdate t query store = (reply, next)) :
    Effect engine t store.records ⟨.selectForUpdate query, reply⟩ next.records := by
  unfold Engine.selectForUpdate at ran
  dsimp only at ran
  split at ran
  · cases ran; exact .unchanged rfl rfl
  · next row picked =>
      cases ran
      exact .held picked

/-- Inversion of a statement, said once for all proofs about stored rows. -/
theorem perform_effect {t : Nat} {statement : Statement Row Key} {fault : Bool}
    {store next : Store Row} {reply : statement.Reply}
    (ran : engine.perform t statement fault store = some (reply, next)) :
    Effect engine t store.records ⟨statement, reply⟩ next.records := by
  cases statement with
  | begin =>
      simp only [Engine.perform, Engine.beginTransaction] at ran
      repeat' split at ran
      all_goals cases ran
      all_goals exact .unchanged rfl rfl
  | select query =>
      simp only [Engine.perform, Engine.select] at ran
      repeat' split at ran
      all_goals cases ran
      all_goals exact .unchanged rfl rfl
  | selectForUpdate query =>
      simp only [Engine.perform] at ran
      split at ran
      · split at ran
        · cases ran; exact .unchanged rfl rfl
        · exact selectForUpdate_effect (Option.some.inj ran)
      · cases ran
  | insert row =>
      simp only [Engine.perform] at ran
      split at ran
      · split at ran
        · cases ran; exact .unchanged rfl rfl
        · exact insert_effect ran
      · cases ran
  | update key guard change =>
      simp only [Engine.perform] at ran
      split at ran
      · split at ran
        · cases ran; exact .unchanged rfl rfl
        · exact update_effect ran
      · cases ran
  | commit =>
      simp only [Engine.perform] at ran
      split at ran
      · split at ran
        · cases ran; exact .failed
        · cases ran; exact .settled
      · cases ran
  | rollback =>
      simp only [Engine.perform] at ran
      cases ran
      exact .released

/-! ## Snapshots -/

/-- Only its own statements touch the snapshot of a transaction. -/
theorem perform_snapshots_other {t u : Nat} {statement : Statement Row Key} {fault : Bool}
    {store next : Store Row} {reply : statement.Reply}
    (ran : engine.perform t statement fault store = some (reply, next))
    (different : u ≠ t) : next.snapshots u = store.snapshots u := by
  cases statement with
  | begin =>
      simp only [Engine.perform, Engine.beginTransaction] at ran
      repeat' split at ran
      all_goals cases ran
      all_goals simp [different]
  | select query =>
      simp only [Engine.perform, Engine.select] at ran
      repeat' split at ran
      all_goals cases ran
      all_goals simp [different]
  | selectForUpdate query =>
      simp only [Engine.perform, Engine.selectForUpdate] at ran
      repeat' split at ran
      all_goals cases ran
      all_goals rfl
  | insert row =>
      simp only [Engine.perform, Engine.insert] at ran
      repeat' split at ran
      all_goals cases ran
      all_goals rfl
  | update key guard change =>
      simp only [Engine.perform, Engine.update] at ran
      repeat' split at ran
      all_goals cases ran
      all_goals rfl
  | commit =>
      simp only [Engine.perform] at ran
      repeat' split at ran
      all_goals cases ran
      all_goals simp [Store.close, different]
  | rollback =>
      simp only [Engine.perform] at ran
      cases ran
      simp [Store.close, different]

/-- After a statement of `t`, its snapshot is gone, is what it was, or holds
the rows that were committed at the statement. -/
theorem perform_snapshots_self {t : Nat} {statement : Statement Row Key} {fault : Bool}
    {store next : Store Row} {reply : statement.Reply}
    (ran : engine.perform t statement fault store = some (reply, next)) :
    next.snapshots t = none ∨ next.snapshots t = store.snapshots t ∨
      next.snapshots t = some store.table := by
  cases statement with
  | begin =>
      simp only [Engine.perform, Engine.beginTransaction] at ran
      repeat' split at ran
      all_goals cases ran
      all_goals simp
  | select query =>
      simp only [Engine.perform, Engine.select] at ran
      repeat' split at ran
      all_goals cases ran
      · exact .inr (.inl rfl)
      · cases fixed : store.snapshots t with
        | none => simp
        | some rows => simp
  | selectForUpdate query =>
      simp only [Engine.perform, Engine.selectForUpdate] at ran
      repeat' split at ran
      all_goals cases ran
      all_goals exact .inr (.inl rfl)
  | insert row =>
      simp only [Engine.perform, Engine.insert] at ran
      repeat' split at ran
      all_goals cases ran
      all_goals exact .inr (.inl rfl)
  | update key guard change =>
      simp only [Engine.perform, Engine.update] at ran
      repeat' split at ran
      all_goals cases ran
      all_goals exact .inr (.inl rfl)
  | commit =>
      simp only [Engine.perform] at ran
      repeat' split at ran
      all_goals cases ran
      all_goals simp [Store.close]
  | rollback =>
      simp only [Engine.perform] at ran
      cases ran
      simp [Store.close]

/-- A plain read finds a row of the snapshot, or one its transaction wrote. -/
theorem perform_select_found {t : Nat} {query : Query Row} {fault : Bool}
    {store next : Store Row} {row : Row}
    (ran : engine.perform t (.select query) fault store = some (.ok (some row), next)) :
    row ∈ (store.snapshots t).getD store.table ∨
      ∃ record ∈ store.records, record.available t = true ∧ record.pending = some row := by
  simp only [Engine.perform, Engine.select] at ran
  split at ran
  · split at ran
    · cases ran
    · simp only [Option.some.injEq, Prod.mk.injEq, Except.ok.injEq] at ran
      have member := (Query.pick_mem ran.1).1
      rcases List.mem_append.mp member with read | written
      · exact .inl (List.mem_filter.mp read).1
      · obtain ⟨record, among, own⟩ := List.mem_filterMap.mp written
        split at own
        · next free => exact .inr ⟨record, among, free, own⟩
        · cases own
  · cases ran

/-! ## Unique keys -/

/-- No version of one stored row clashes with a version of another. -/
def Apart (engine : Engine Row Key) (left right : Stored Row) : Prop :=
  ∀ row ∈ left.versions, ∀ other ∈ right.versions, engine.clash row other = false

def Unrivalled (engine : Engine Row Key) (records : List (Stored Row)) : Prop :=
  records.Pairwise (Apart engine)

omit [DecidableEq Key] in
private theorem apart_symmetric : Std.Symm (Apart engine) := by
  constructor
  intro left right apart row rightVersion other leftVersion
  rw [engine.symmetric]
  exact apart other leftVersion row rightVersion

omit [DecidableEq Key] in
/-- Two stored rows with versions of one key are the same stored row. -/
theorem Unrivalled.unique {records : List (Stored Row)} (unrivalled : Unrivalled engine records)
    {left right : Stored Row} (leftMember : left ∈ records) (rightMember : right ∈ records)
    {row other : Row} (leftVersion : row ∈ left.versions) (rightVersion : other ∈ right.versions)
    (same : engine.key row = engine.key other) : left = right := by
  by_contra different
  have symmetric : Std.Symm (Apart engine) := apart_symmetric
  have apart := List.Pairwise.forall unrivalled leftMember rightMember different
    row leftVersion other rightVersion
  rw [engine.keyed row other same] at apart
  cases apart

omit [DecidableEq Key] in
private theorem unrivalled_map {records : List (Stored Row)}
    (unrivalled : Unrivalled engine records) {finish : Stored Row → Stored Row}
    (shrinks : ∀ record row, row ∈ (finish record).versions → row ∈ record.versions) :
    Unrivalled engine (records.map finish) := by
  refine List.Pairwise.map finish ?_ unrivalled
  intro left right apart row leftVersion other rightVersion
  exact apart row (shrinks left row leftVersion) other (shrinks right other rightVersion)

theorem versions_overwrite {t : Nat} {key : Key} {row version : Row} {record : Stored Row}
    (member : version ∈ (engine.overwrite t key row record).versions) :
    version ∈ record.versions ∨ engine.hasKey key record = true ∧ version = row := by
  unfold Engine.overwrite at member
  split at member
  · next found =>
      rw [Stored.mem_versions] at member
      rcases member with former | written
      · exact .inl (Stored.mem_versions.mpr (.inl former))
      · simp only [Stored.pending, Option.bind_some, Option.some.injEq] at written
        exact .inr ⟨found, written.symm⟩
  · exact .inl member

theorem versions_hold {t : Nat} {key : Key} {version : Row} {record : Stored Row}
    (member : version ∈ (engine.hold t key record).versions) :
    version ∈ record.versions := by
  unfold Engine.hold at member
  split at member
  · rw [Stored.mem_versions] at member ⊢
    simpa [Stored.pending] using member
  · exact member

/-- An overwritten row keeps its unique keys to itself. -/
private theorem unrivalled_overwrite {records : List (Stored Row)}
    (unrivalled : Unrivalled engine records) {t : Nat} {key : Key} {row : Row}
    {target : Stored Row} (found : engine.hasKey key target = true)
    (clear : ∀ other ∈ records, engine.hasKey key other = false →
      engine.clashes row other = false) :
    Unrivalled engine (records.map (engine.overwrite t key row)) := by
  obtain ⟨version, versionMember, versionKey⟩ := Engine.hasKey_iff.mp found
  unfold Unrivalled at unrivalled ⊢
  rw [List.pairwise_map]
  refine unrivalled.imp_of_mem ?_
  intro left right leftMember rightMember apart one oneVersion two twoVersion
  have notBoth : engine.hasKey key left = true → engine.hasKey key right = true → False := by
    intro leftKey rightKey
    obtain ⟨leftRow, leftVersion, leftSame⟩ := Engine.hasKey_iff.mp leftKey
    obtain ⟨rightRow, rightVersion, rightSame⟩ := Engine.hasKey_iff.mp rightKey
    have clash := apart leftRow leftVersion rightRow rightVersion
    rw [engine.keyed _ _ (leftSame.trans rightSame.symm)] at clash
    cases clash
  rcases versions_overwrite oneVersion with oneFormer | ⟨leftKey, rfl⟩
  · rcases versions_overwrite twoVersion with twoFormer | ⟨rightKey, rfl⟩
    · exact apart one oneFormer two twoFormer
    · have leftFree : engine.hasKey key left = false :=
        Bool.eq_false_iff.mpr fun leftKey => notBoth leftKey rightKey
      rw [engine.symmetric]
      exact Engine.clashes_eq_false_iff.mp (clear left leftMember leftFree) one oneFormer
  · have rightFree : engine.hasKey key right = false :=
      Bool.eq_false_iff.mpr fun rightKey => notBoth leftKey rightKey
    rcases versions_overwrite twoVersion with twoFormer | ⟨rightKey, _⟩
    · exact Engine.clashes_eq_false_iff.mp (clear right rightMember rightFree) two twoFormer
    · exact absurd rightKey (by simp [rightFree])

/-- The unique keys hold among all versions after any statement. -/
theorem Effect.unrivalled {t : Nat} {records next : List (Stored Row)}
    {event : Event (Statement Row Key) Statement.Reply}
    (effect : Effect engine t records event next) (unrivalled : Unrivalled engine records) :
    Unrivalled engine next := by
  cases effect with
  | unchanged _ _ => exact unrivalled
  | @inserted row accepted clear =>
      unfold Unrivalled
      rw [List.pairwise_append]
      refine ⟨unrivalled, List.pairwise_singleton _ _, ?_⟩
      intro record member added addedMember version versionMember other otherMember
      rw [List.mem_singleton] at addedMember
      subst addedMember
      have same : other = row := by
        simpa [Stored.versions, Stored.pending] using otherMember
      rw [same, engine.symmetric]
      exact Engine.clashes_eq_false_iff.mp (clear record member) version versionMember
  | updated _ found _ _ _ _ clear => exact unrivalled_overwrite unrivalled found clear
  | held picked => exact unrivalled_map unrivalled fun _ _ => versions_hold
  | settled => exact unrivalled_map unrivalled fun _ _ => Stored.versions_settle
  | failed => exact unrivalled_map unrivalled fun _ _ => Stored.versions_release
  | released => exact unrivalled_map unrivalled fun _ _ => Stored.versions_release

omit [DecidableEq Key] in
theorem unrivalled_recover {store : Store Row} (unrivalled : Unrivalled engine store.records) :
    Unrivalled engine store.recover.records := by
  refine unrivalled_map unrivalled ?_
  intro record row member
  rw [Stored.mem_versions] at member ⊢
  rcases member with former | absurd
  · exact .inl former
  · simp [Stored.pending] at absurd

omit [DecidableEq Key] in
/-- Committed rows never clash. -/
theorem Unrivalled.table {store : Store Row} (unrivalled : Unrivalled engine store.records) :
    store.table.Pairwise fun left right => engine.clash left right = false := by
  unfold Store.table
  rw [List.pairwise_filterMap]
  refine unrivalled.imp ?_
  intro left right apart row leftCommitted other rightCommitted
  exact apart row (Stored.mem_versions.mpr (.inl leftCommitted)) other
    (Stored.mem_versions.mpr (.inl rightCommitted))

end NodeAtlas.Transactions
