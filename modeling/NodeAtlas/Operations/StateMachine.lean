import Mathlib.Data.List.Nodup
import NodeAtlas.Operations.Repository
import NodeAtlas.Transactions.Conduct

/-! The state machine of an operation, as the table goes through it: whatever
calls of the repository run and however their statements interleave. -/

set_option autoImplicit false

namespace NodeAtlas.Operations

open Interleaving Transactions

/-- The columns of a row agree with its status. -/
structure Row.WellShaped (row : Row) : Prop where
  marker : row.activeMarker = row.status.active
  finished : row.finishedAt.isSome = row.status.terminal
  started : row.status = .running ∨ row.status = .verifying ∨ row.status = .succeeded ∨
    row.status = .timedOut → row.startedAt.isSome = true

/-- One move of the state machine. -/
structure Row.Advances (old new : Row) : Prop where
  sameID : new.id = old.id
  valid : validTransition old.status new.status = true
  shaped : new.WellShaped

theorem queuedRow_wellShaped (db : Database) (operation : Operation) :
    (queuedRow db operation).WellShaped where
  marker := rfl
  finished := rfl
  started := by simp [queuedRow]

/-- What `Transition` writes over a row of the status it read has the shape of
the new status. -/
theorem rewritten_advances (db : Database) {read old : Row} {next : Status} {at_ : Instant}
    {change : Change} (shaped : read.WellShaped) (same : old.status = read.status)
    (valid : validTransition read.status next = true) :
    old.Advances (old.rewritten db (read.toOperation.transitioned next at_ change)) where
  sameID := rfl
  valid := by
    rw [same]
    exact valid
  shaped := by
    have ends := validTransition_terminal valid
    have active := validTransition_active valid
    have unfinished : read.finishedAt = none := by
      have open_ : read.status.terminal = false := by
        by_contra terminal
        rw [Status.terminal_not_active (Bool.not_eq_false _ ▸ terminal)] at active
        cases active
      have finished := shaped.finished
      rw [open_] at finished
      exact Option.isNone_iff_eq_none.mp (by simpa using finished)
    refine ⟨?_, ?_, ?_⟩
    · simp [Row.rewritten, Operation.transitioned, ends]
    · simp only [Row.rewritten, Operation.transitioned, Option.isSome_map]
      cases next.terminal <;> simp [unfinished]
    · intro reached
      simp only [Row.rewritten, Operation.transitioned, Option.isSome_map] at reached ⊢
      split
      · rfl
      · next kept =>
          by_cases running : next = .running
          · simp only [running, decide_true, Bool.true_and, Bool.not_eq_true,
              Option.isNone_eq_false_iff] at kept
            exact kept
          · refine shaped.started ?_
            rcases reached with rfl | rfl | rfl | rfl
            all_goals
              cases was : read.status <;> simp_all [validTransition]

def conduct (db : Database) (references : Row → Bool) : Conduct (engine db references) where
  lawful := Row.WellShaped
  fresh row := row.WellShaped ∧ row.status = .queued
  advances := Row.Advances
  fresh_lawful _ fresh := fresh.1
  advances_lawful _ _ _ advances := advances.shaped
  advances_key old new advances := by simp [engine, advances.sameID]

/-! ## Every call keeps to the state machine -/

section Walk

variable {db : Database} {references : Row → Bool}

variable {earlier : List (Event (Statement Row GoString) Statement.Reply)}

private theorem findOperation_permitted (unclosed : Unclosed earlier) (clause : Row → Bool) :
    (conduct db references).Keeps (fun events found => Unclosed events ∧
      ∀ operation, found = .ok operation → ∃ row,
        events = ⟨.select (.filtered clause), .ok (some row)⟩ :: earlier ∧
        row.toOperation = operation) earlier (findOperation db clause) := by
  intro reply _
  refine ⟨⟨unclosed, trivial⟩, ?_⟩
  have further : ∀ given, Unclosed (⟨.select (.filtered clause), given⟩ :: earlier) :=
    fun given => unclosed.cons rfl
  rcases reply with failure | (_ | row)
  · exact ⟨further _, by simp⟩
  · exact ⟨further _, by simp⟩
  · refine ⟨further _, ?_⟩
    intro operation found
    exact ⟨row, rfl, Except.ok.inj found⟩

private theorem explainRejection_permitted (unclosed : Unclosed earlier) (operation : Operation)
    (failure : Failure) :
    (conduct db references).Keeps (fun _ _ => True) earlier
      (explainRejection db operation failure) := by
  refine (findOperation_permitted unclosed _).bind ?_
  rintro events found ⟨still, _⟩
  cases found with
  | ok existing => exact Conduct.rollback_kept still _
  | error _ =>
      refine (findOperation_permitted still _).bind ?_
      rintro further found ⟨after, _⟩
      cases found with
      | ok rival => exact Conduct.rollback_kept after _
      | error _ => exact Conduct.rollback_kept after _

private theorem commitQueued_permitted (unclosed : Unclosed earlier) (operation : Operation) :
    (conduct db references).Keeps (fun _ _ => True) earlier (commitQueued db operation) := by
  intro committed _
  refine ⟨⟨unclosed, trivial⟩, ?_⟩
  cases committed <;> trivial

private theorem insertQueued_permitted (unclosed : Unclosed earlier) (operation : Operation) :
    (conduct db references).Keeps (fun _ _ => True) earlier (insertQueued db operation) := by
  intro reply _
  refine ⟨⟨unclosed, queuedRow_wellShaped db operation, rfl⟩, ?_⟩
  cases reply with
  | error failure => exact explainRejection_permitted (unclosed.cons rfl) operation failure
  | ok _ => exact commitQueued_permitted (unclosed.cons rfl) operation

private theorem lookUpQueued_permitted (unclosed : Unclosed earlier) (operation : Operation) :
    (conduct db references).Keeps (fun _ _ => True) earlier (lookUpQueued db operation) := by
  refine (findOperation_permitted unclosed _).bind ?_
  rintro events found ⟨still, _⟩
  cases found with
  | ok existing => exact Conduct.rollback_kept still _
  | error failure =>
      dsimp only
      split
      · exact insertQueued_permitted still operation
      · exact Conduct.rollback_kept still _

theorem createQueued_permitted (operation : Operation) :
    (conduct db references).Keeps (fun _ _ => True) [] (createQueued db operation) := by
  intro reply _
  refine ⟨⟨by simp [Unclosed], trivial⟩, ?_⟩
  cases reply with
  | error failure => trivial
  | ok _ => exact lookUpQueued_permitted (unclosed_begin _) operation

/-- The update of `Transition` is judged against the row it read first. -/
private theorem updateOperation_permitted {clause : Row → Bool} {read : Row} {next : Status}
    {at_ : Instant} {change : Change} (unclosed : Unclosed earlier)
    (clean : ∀ former ∈ earlier, wrote former = false)
    (valid : validTransition read.status next = true) :
    (conduct db references).Keeps (fun _ _ => True)
      (⟨.select (.filtered clause), .ok (some read)⟩ :: earlier)
      (updateOperation db read.status (read.toOperation.transitioned next at_ change)) := by
  have still : Unclosed (⟨.select (.filtered clause), .ok (some read)⟩ :: earlier) :=
    unclosed.cons rfl
  intro reply _
  refine ⟨⟨still, ?_, ?_⟩, ?_⟩
  · intro former member
    rcases List.mem_cons.mp member with rfl | before
    · rfl
    · exact clean former before
  · intro old _ guarded remembers
    have shaped := remembers.read _ read List.mem_cons_self
    exact rewritten_advances db shaped (of_decide_eq_true guarded) valid
  · cases reply with
    | error failure => exact Conduct.rollback_kept (still.cons rfl) _
    | ok affected =>
        simp only [Program.bind]
        split
        · exact Conduct.rollback_kept (still.cons rfl) _
        · intro committed _
          refine ⟨⟨still.cons rfl, trivial⟩, ?_⟩
          cases committed <;> trivial

theorem transition_permitted (clock : Instant) (id : GoString) (next : Status)
    (change : Change) :
    (conduct db references).Keeps (fun _ _ => True) [] (transition db clock id next change) := by
  intro reply _
  refine ⟨⟨by simp [Unclosed], trivial⟩, ?_⟩
  cases reply with
  | error failure => trivial
  | ok begun =>
      refine (findOperation_permitted (unclosed_begin _) _).bind ?_
      rintro events found ⟨still, read⟩
      cases found with
      | error failure => exact Conduct.rollback_kept still _
      | ok current =>
          obtain ⟨row, rfl, rfl⟩ := read current rfl
          dsimp only
          split
          · next valid =>
              refine updateOperation_permitted (unclosed_begin _) ?_ valid
              intro former member
              rw [List.mem_singleton.mp member]
              rfl
          · exact Conduct.rollback_kept still _

end Walk

def audit (db : Database) (references : Row → Bool) :
    Audit (Statement Row GoString) Statement.Reply Call Result where
  fits := Answers
  rule _ := (conduct db references).Permits
  closing _ _ _ := True

theorem repository_passes (db : Database) (references : Row → Bool) :
    (audit db references).Passed (repository db references) (fun _ => True) where
  fitting _ _ _ _ _ _ ran := perform_answers ran
  audited call _ := by
    cases call with
    | createQueued operation =>
        exact (createQueued_permitted operation).bind fun _ _ _ => trivial
    | transition clock id next change =>
        exact (transition_permitted clock id next change).bind fun _ _ _ => trivial

/-! ## The table along a run -/

/-- The status of an operation, once it is in the table. -/
def statusOf (id : GoString) (rows : List Row) : Option Status :=
  (rows.find? fun row => row.id = id).map (·.status)

/-- The columns agree with the status, ids are distinct, and a server has one
active operation at most. -/
structure Sound (db : Database) (rows : List Row) : Prop where
  shaped : ∀ row ∈ rows, row.WellShaped
  distinct : (rows.map (·.id)).Nodup
  exclusive : rows.Pairwise fun left right =>
    ¬ (db.same left.serverID right.serverID = true ∧
      left.status.active = true ∧ right.status.active = true)

abbrev RepositoryConfig : Type :=
  Config (Statement Row GoString) Statement.Reply (Store Row) Call Result

/-- Nothing stored yet and nobody connected. -/
def emptyTable : RepositoryConfig := Config.initial (Store.ofTable [])

/-- The statuses of an id in a sequence of configurations. -/
def statusesOf (id : GoString) (visited : List RepositoryConfig) : List Status :=
  visited.filterMap fun config => statusOf id config.state.table

section Run

variable {db : Database} {references : Row → Bool} {config next : RepositoryConfig}

theorem repository_orderly
    (reached : (repository db references).Run (fun _ _ => True)
      emptyTable config) :
    Orderly (audit db references) (conduct db references) config := by
  refine Orderly.run (by simp) .nil (repository_passes db references) ?_ reached ?_
  · intro _ earlier event permitted
    exact permitted
  · intro _ _ _
    trivial

theorem orderly_sound (orderly : Orderly (audit db references) (conduct db references) config) :
    Sound db config.state.table := by
  have shaped := orderly.conducted.table_lawful
  have apart := orderly.isolated.unrivalled.table
  refine ⟨shaped, ?_, ?_⟩
  · rw [List.Nodup, List.pairwise_map]
    refine apart.imp ?_
    intro left right clear same
    simp [engine, clash, same, Database.same_refl] at clear
  · refine apart.imp_of_mem ?_
    rintro left right leftMember rightMember clear ⟨same, leftActive, rightActive⟩
    have leftMarker := (shaped left leftMember).marker.trans leftActive
    have rightMarker := (shaped right rightMember).marker.trans rightActive
    simp [engine, clash, same, leftMarker, rightMarker] at clear

/-- What one step may do to the status of an id. -/
inductive Follows : Option Status → Option Status → Prop where
  | absent : Follows none none
  | created : Follows none (some .queued)
  | kept {status : Status} : Follows (some status) (some status)
  | moved {before after : Status} (valid : validTransition before after = true) :
      Follows (some before) (some after)

private theorem statusOf_eq {rows : List Row} (distinct : (rows.map (·.id)).Nodup) {row : Row}
    (member : row ∈ rows) : statusOf row.id rows = some row.status := by
  unfold statusOf
  cases found : rows.find? fun other => other.id = row.id with
  | none =>
      have absent := List.find?_eq_none.mp found row member
      simp at absent
  | some other =>
      have same : other.id = row.id := by simpa using List.find?_some found
      have equal := List.inj_on_of_nodup_map distinct (List.mem_of_find?_eq_some found) member same
      rw [equal]
      rfl

private theorem statusOf_found {id : GoString} {rows : List Row} {status : Status}
    (found : statusOf id rows = some status) :
    ∃ row ∈ rows, row.id = id ∧ row.status = status := by
  obtain ⟨row, located, rfl⟩ := Option.map_eq_some_iff.mp found
  exact ⟨row, List.mem_of_find?_eq_some located, by simpa using List.find?_some located, rfl⟩

theorem evolves_follows {before after : List Row}
    (evolves : Evolves (conduct db references) before after)
    (distinct : (after.map (·.id)).Nodup) (id : GoString) :
    Follows (statusOf id before) (statusOf id after) := by
  cases was : statusOf id before with
  | none =>
      cases now : statusOf id after with
      | none => exact .absent
      | some status =>
          obtain ⟨successor, member, same, rfl⟩ := statusOf_found now
          rcases evolves.origin successor member with fresh | ⟨row, former, from_⟩
          · rw [fresh.2]
            exact .created
          · have located : row.id = id := by
              rcases from_ with rfl | advances
              · exact same
              · exact advances.sameID.symm.trans same
            have absent := Option.map_eq_none_iff.mp was
            have missing := List.find?_eq_none.mp absent row former
            simp [located] at missing
  | some status =>
      obtain ⟨row, member, rfl, rfl⟩ := statusOf_found was
      obtain ⟨successor, after_, from_⟩ := evolves.kept row member
      rcases from_ with rfl | advances
      · rw [statusOf_eq distinct after_]
        exact .kept
      · rw [← advances.sameID, statusOf_eq distinct after_]
        exact .moved advances.valid

theorem evolves_terminal {before after : List Row}
    (evolves : Evolves (conduct db references) before after) {row : Row} (member : row ∈ before)
    (terminal : row.status.terminal = true) : row ∈ after := by
  obtain ⟨successor, later, from_⟩ := evolves.kept row member
  rcases from_ with rfl | advances
  · exact later
  · have active := validTransition_active advances.valid
    rw [Status.terminal_not_active terminal] at active
    cases active

/-- The statuses seen along a sequence of tables never leave the state machine. -/
private theorem path_of_follows {seen : Option Status} {options : List (Option Status)}
    (chain : (seen :: options).IsChain Follows) :
    ((seen :: options).filterMap id).IsChain
        (fun before after => after = before ∨ validTransition before after = true) ∧
      (seen = none → ∀ first ∈ ((seen :: options).filterMap id).head?, first = .queued) ∧
      ∀ status, seen = some status → ((seen :: options).filterMap id).head? = some status := by
  induction options generalizing seen with
  | nil =>
      cases seen with
      | none => simp
      | some status => simp
  | cons next options ih =>
      obtain ⟨step, rest⟩ := List.isChain_cons_cons.mp chain
      obtain ⟨path, opening, leading⟩ := ih rest
      cases step with
      | absent => exact ⟨path, fun _ => opening rfl, by simp⟩
      | created =>
          refine ⟨path, ?_, by simp⟩
          intro _ first member
          rw [List.filterMap_cons_none rfl, leading .queued rfl] at member
          exact (Option.some.inj member).symm
      | @kept status =>
          rw [List.filterMap_cons_some (f := id) rfl]
          refine ⟨List.isChain_cons.mpr ⟨?_, path⟩, by simp, by simp⟩
          intro following member
          rw [leading status rfl] at member
          exact .inl (Option.some.inj member).symm
      | @moved before after valid =>
          rw [List.filterMap_cons_some (f := id) rfl]
          refine ⟨List.isChain_cons.mpr ⟨?_, path⟩, by simp, by simp⟩
          intro following member
          rw [leading after rfl] at member
          exact .inr ((Option.some.inj member) ▸ valid)

/-- Along every run from an empty table, with any calls, faults and crashes:
each table is sound, the statuses an id goes through are a path of the state
machine that starts at queued, ids stay, and terminal rows never change. -/
theorem operations_state_machine {later : List RepositoryConfig}
    (trail : (repository db references).Trail (fun _ _ => True)
      emptyTable later) :
    (∀ visited ∈ emptyTable :: later, Sound db visited.state.table) ∧
    (∀ id, (statusesOf id (emptyTable :: later)).IsChain
          (fun before after => after = before ∨ validTransition before after = true) ∧
        ∀ first ∈ (statusesOf id (emptyTable :: later)).head?, first = .queued) ∧
    (emptyTable :: later).Pairwise fun before after =>
      (∀ row ∈ before.state.table, ∃ successor ∈ after.state.table, successor.id = row.id) ∧
      ∀ row ∈ before.state.table, row.status.terminal = true → row ∈ after.state.table := by
  have orderly : ∀ visited, (repository db references).Run (fun _ _ => True)
      emptyTable visited →
      Orderly (audit db references) (conduct db references) visited :=
    fun visited reached => repository_orderly reached
  refine ⟨?_, ?_, ?_⟩
  · intro visited member
    exact orderly_sound (orderly visited (trail.reached visited member))
  · intro id
    have chain : (emptyTable :: later).IsChain fun before after =>
        Follows (statusOf id before.state.table) (statusOf id after.state.table) := by
      refine trail.related ?_
      intro before label after reached transition _
      have evolves := (orderly before reached).conducted.evolves transition
      have sound := orderly_sound (orderly after (reached.snoc transition trivial))
      exact evolves_follows evolves sound.distinct id
    have options := (List.isChain_map fun visited : RepositoryConfig =>
      statusOf id visited.state.table).mpr chain
    have same : statusesOf id (emptyTable :: later) =
        ((emptyTable :: later).map fun visited => statusOf id visited.state.table).filterMap
          fun status => status := by
      simp only [statusesOf, List.filterMap_map, Function.comp_def]
    obtain ⟨path, opening, _⟩ := path_of_follows options
    rw [same]
    exact ⟨path, opening rfl⟩
  · refine trail.pairwise ?_ ?_
    · rintro first second third ⟨firstKept, firstTerminal⟩ ⟨secondKept, secondTerminal⟩
      refine ⟨?_, fun row member terminal =>
        secondTerminal row (firstTerminal row member terminal) terminal⟩
      intro row member
      obtain ⟨middle, among, same⟩ := firstKept row member
      obtain ⟨last, within, equal⟩ := secondKept middle among
      exact ⟨last, within, equal.trans same⟩
    · intro before label after reached transition _
      have evolves := (orderly before reached).conducted.evolves transition
      refine ⟨?_, fun row member terminal => evolves_terminal evolves member terminal⟩
      intro row member
      obtain ⟨successor, among, from_⟩ := evolves.kept row member
      rcases from_ with rfl | advances
      · exact ⟨successor, among, rfl⟩
      · exact ⟨successor, among, advances.sameID⟩

end Run

/-- One operation is created and started, each by a transaction of its own. -/
def startedSchedule : List (System.Move Call Bool) :=
  [.spawn (.createQueued ⟨text "op", text "server", text "connection", .start, .queued, text "key",
      [], [], [], 1, none, none, 1⟩),
    .advance 0 false, .advance 0 false, .advance 0 false, .advance 0 false,
    .spawn (.transition 2 (text "op") .running ⟨zeroInstant, [], [], []⟩),
    .advance 1 false, .advance 1 false, .advance 1 false, .advance 1 false]

theorem operations_state_machine_started :
    ∃ later, (repository (Database.plain .sqlite) fun _ => true).replay (fun _ => true)
        startedSchedule emptyTable = some later ∧
      (statusesOf (text "op") (emptyTable :: later)).getLast? = some .running ∧
      ∀ visited ∈ emptyTable :: later, Sound (Database.plain .sqlite) visited.state.table := by
  have carried : ((repository (Database.plain .sqlite) fun _ => true).replay (fun _ => true)
      startedSchedule emptyTable).isSome = true := by decide
  obtain ⟨later, replayed⟩ := Option.isSome_iff_exists.mp carried
  have reached : (((repository (Database.plain .sqlite) fun _ => true).replay (fun _ => true)
      startedSchedule emptyTable).bind fun later =>
        (statusesOf (text "op") (emptyTable :: later)).getLast?) =
      some .running := by decide
  rw [replayed] at reached
  have trail := System.replay_trail replayed fun _ _ _ => trivial
  exact ⟨later, replayed, reached, (operations_state_machine trail).1⟩

end NodeAtlas.Operations
