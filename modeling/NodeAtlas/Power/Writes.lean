import NodeAtlas.Power.History
import Mathlib.Data.List.Perm.Subperm

/-! How often a provider is asked to change a server: at most once for each
lease of a job, whatever restarts, retries and restores happen. -/

set_option autoImplicit false

namespace NodeAtlas.Power

open Interleaving Operations Providers

/-- The executions that have asked a provider for a write for the operation of
an id, latest first. -/
def writers (db : Database) (id : GoString) : List (Nat × PanelEvent) → List Nat
  | [] => []
  | (t, event) :: earlier =>
      if isWrite event && (current (own t earlier)).any fun operation => db.same operation.id id then
        t :: writers db id earlier
      else writers db id earlier

/-- The call leased a job for the operation of an id. -/
def leasesFor (db : Database) (id : GoString) (event : PanelEvent) : Bool :=
  (leaseOf event).any fun lease => lease.job.kind = .powerOperation && db.same (namedBy lease.job) id

/-- The executions that have leased a job for the operation. -/
def lessees (db : Database) (id : GoString) (history : List (Nat × PanelEvent)) : List Nat :=
  (history.filter fun entry => leasesFor db id entry.2).map (·.1)

section Executions

variable {db : Database} {events earlier : List PanelEvent} {operation : Operation}

/-- What an execution knows its operation by is what its lease names. -/
theorem current_named (obeys : Obeys (fun earlier event => fits db event ∧ executionRule db earlier event) events)
    (known : current events = some operation) : ∃ lease, leased events = some lease ∧
      lease.job.kind = .powerOperation ∧ db.same operation.id (namedBy lease.job) = true := by
  induction events generalizing operation with
  | nil => cases known
  | cons event earlier ih =>
      obtain ⟨⟨fit, ruled⟩, before⟩ := obeys
      have further : ∀ {lease : Jobs.Lease}, leased earlier = some lease → leaseOf event = none →
          leased (event :: earlier) = some lease := by
        intro lease granted silent
        rw [leased, List.findSome?_cons, silent]
        exact granted
      simp only [current, Option.or_eq_some_iff] at known
      rcases known with moved | ⟨_, former | ⟨unknown, found⟩⟩
      · obtain ⟨call, reply⟩ := event
        cases call with
        | transition id next change =>
            obtain ⟨asked, at_, sameID, _⟩ := ruled
            obtain ⟨lease, granted, kind, named⟩ := ih before at_
            cases reply with
            | error failure => cases moved
            | ok result =>
                simp only [movedTo] at moved
                split at moved
                · cases moved
                · cases moved
                  refine ⟨lease, further granted rfl, kind, ?_⟩
                  have same : db.same operation.id id = true := fit.1
                  rw [sameID] at same
                  exact db.same_trans same named
        | _ => cases moved
      · obtain ⟨lease, granted, kind, named⟩ := ih before former
        refine ⟨lease, ?_, kind, named⟩
        cases silent : leaseOf event with
        | none => exact further granted silent
        | some other =>
            obtain ⟨call, reply⟩ := event
            cases call with
            | leaseNext owner at_ duration =>
                obtain ⟨event, member, given⟩ := List.exists_of_findSome?_eq_some granted
                have none_ := List.all_eq_true.mp ruled event member
                simp [given] at none_
            | _ => cases silent
      · obtain ⟨call, reply⟩ := event
        cases call with
        | findOperation id =>
            obtain ⟨lease, granted, kind, which⟩ := ruled
            cases reply with
            | error failure => cases found
            | ok result =>
                cases found
                refine ⟨lease, further granted rfl, kind, ?_⟩
                have same : db.same operation.id id = true := fit
                rcases which with ⟨_, named⟩ | ⟨other, known_, _⟩
                · rw [named] at same
                  exact same
                · rw [unknown] at known_
                  cases known_
        | _ => cases found

/-- Before its write an execution has written nothing. -/
theorem Writes.first {action : Action} (writes : Writes operation action earlier) :
    ∀ event ∈ earlier, isWrite event = false := by
  obtain ⟨provider, ref, remote, rest, rfl, untouched, _⟩ := writes.looked
  intro event member
  rcases List.mem_cons.mp member with rfl | former
  · rfl
  · exact (untouched event former).2

end Executions

section Runs

variable {db : Database} {config : PanelConfig} {id : GoString} {t : Nat}

/-- Only executions write, and they do for the operation that they know. -/
theorem write_rule {activity : Activity} {earlier : List PanelEvent} {event : PanelEvent}
    (ruled : rule db activity earlier event) (wrote : isWrite event = true) :
    rule db activity = (fun earlier event => fits db event ∧ executionRule db earlier event) ∧
      ∃ operation action, current earlier = some operation ∧ Writes operation action earlier := by
  obtain ⟨call, reply⟩ := event
  cases call with
  | powerAction provider ref action =>
      cases activity with
      | runOnce worker =>
          obtain ⟨operation, known, writes⟩ := ruled.2
          exact ⟨rfl, operation, action, known, writes⟩
      | request asked => exact ruled.2.elim
      | enqueueConnectionSync id => exact ruled.elim
      | enqueuePowerOperation id => exact ruled.elim
      | createBackup passphrase requestID sourceIP => exact ruled.elim
      | restoreBackup id passphrase requestID sourceIP => exact ruled.elim
  | _ => cases wrote

theorem mem_writers {history : List (Nat × PanelEvent)} (member : t ∈ writers db id history) :
    ∃ later event earlier operation, history = later ++ (t, event) :: earlier ∧ isWrite event = true ∧
      current (own t earlier) = some operation ∧ db.same operation.id id = true := by
  induction history with
  | nil => cases member
  | cons entry earlier ih =>
      obtain ⟨u, event⟩ := entry
      have further : t ∈ writers db id earlier → ∃ later event_ earlier_ operation,
          (u, event) :: earlier = later ++ (t, event_) :: earlier_ ∧ isWrite event_ = true ∧
            current (own t earlier_) = some operation ∧ db.same operation.id id = true := by
        intro former
        obtain ⟨later, other, past, operation, rfl, wrote, known, same⟩ := ih former
        exact ⟨(u, event) :: later, other, past, operation, rfl, wrote, known, same⟩
      simp only [writers] at member
      split at member
      · next wrote =>
          rcases List.mem_cons.mp member with rfl | former
          · simp only [Bool.and_eq_true, Option.any_eq_true] at wrote
            obtain ⟨wrote, operation, known, same⟩ := wrote
            exact ⟨[], event, earlier, operation, rfl, wrote, known, same⟩
          · exact further former
      · exact further member

/-- The write of an execution, with what its rule says. -/
private theorem write_ruled (disciplined : Disciplined (audit db) config) {later earlier : List (Nat × PanelEvent)}
    {event : PanelEvent} (split_ : config.history = later ++ (t, event) :: earlier) (wrote : isWrite event = true) :
    Obeys (fun earlier event => fits db event ∧ executionRule db earlier event) (own t earlier) ∧
      ∃ operation action, current (own t earlier) = some operation ∧ Writes operation action (own t earlier) := by
  obtain ⟨⟨activity, rest⟩, found, ruled⟩ := disciplined.justified split_
  have obeyed := disciplined.obeyed t _ found
  rw [split_, own_append, own_cons_self] at obeyed
  obtain ⟨execution, known⟩ := write_rule ruled wrote
  have before : Obeys (rule db activity) (own t earlier) := obeyed.append.2
  rw [execution] at before
  exact ⟨before, known⟩

/-- No execution writes twice. -/
private theorem writes_once (disciplined : Disciplined (audit db) config) :
    (own t config.history).countP isWrite ≤ 1 := by
  apply countP_once
  intro event earlier last wrote
  obtain ⟨later, whole⟩ := last
  have among : event ∈ own t config.history := by
    rw [← whole]
    exact List.mem_append_right _ List.mem_cons_self
  obtain ⟨_, _, split_⟩ := List.append_of_mem (mem_own.mp among)
  obtain ⟨⟨activity, rest⟩, found, _⟩ := disciplined.justified split_
  have obeyed := disciplined.obeyed t _ found
  rw [← whole] at obeyed
  obtain ⟨_, operation, action, _, writes⟩ := write_rule obeyed.append.1 wrote
  exact writes.first

/-- A write is asked for by an execution that counts among the writers of the
operation that it knows. -/
private theorem writer_counted {later earlier : List (Nat × PanelEvent)} {event : PanelEvent} {operation : Operation}
    (wrote : isWrite event = true) (known : current (own t earlier) = some operation) :
    t ∈ writers db operation.id (later ++ (t, event) :: earlier) := by
  induction later with
  | nil => simp [writers, wrote, known, db.same_refl]
  | cons entry rest ih =>
      rw [List.cons_append, writers]
      split
      · exact List.mem_cons_of_mem _ ih
      · exact ih

private theorem writers_apart (disciplined : Disciplined (audit db) config) {visible : List (Nat × PanelEvent)}
    (last : visible <:+ config.history) : (writers db id visible).Nodup := by
  induction visible with
  | nil => exact List.nodup_nil
  | cons entry earlier ih =>
      obtain ⟨t, event⟩ := entry
      have before := ih ((List.suffix_cons _ _).trans last)
      simp only [writers]
      split
      · next wrote =>
          simp only [Bool.and_eq_true] at wrote
          refine List.nodup_cons.mpr ⟨?_, before⟩
          intro again
          obtain ⟨later, whole⟩ := last
          obtain ⟨_, operation, action, _, writes⟩ := write_ruled disciplined whole.symm wrote.1
          obtain ⟨front, other, past, _, rfl, rewrote, _⟩ := mem_writers again
          have silent := writes.first other (mem_own.mpr (List.mem_append_right _ List.mem_cons_self))
          rw [rewrote] at silent
          cases silent
      · exact before

private theorem writers_leased (disciplined : Disciplined (audit db) config) :
    writers db id config.history ⊆ lessees db id config.history := by
  intro t member
  obtain ⟨later, event, earlier, operation, split_, wrote, known, same⟩ := mem_writers member
  obtain ⟨obeys, _⟩ := write_ruled disciplined split_ wrote
  obtain ⟨lease, granted, kind, named⟩ := current_named obeys known
  obtain ⟨grant, among, given⟩ := List.exists_of_findSome?_eq_some granted
  refine List.mem_map.mpr ⟨(t, grant), List.mem_filter.mpr ⟨?_, ?_⟩, rfl⟩
  · rw [split_]
    exact List.mem_append_right _ (List.mem_cons_of_mem _ (mem_own.mp among))
  · have meant : db.same (namedBy lease.job) id = true := by
      rw [db.same_symm] at named
      exact db.same_trans named same
    simp [leasesFor, given, kind, meant]

/-- No execution asks for more than one write, each write is for an operation, and
no more executions write for an operation than leases were granted of jobs that
name it. -/
theorem one_write_a_lease {maxAttempts : Int} {servers : List Inventory.Row} {backups : List (Backup.File Archive)}
    {meets : PanelConfig → PanelLabel → Prop} (run : PanelRun db maxAttempts servers backups meets config)
    (id : GoString) :
    (∀ t, (own t config.history).countP isWrite ≤ 1) ∧
      (∀ t event, (t, event) ∈ config.history → isWrite event = true →
        ∃ other, t ∈ writers db other config.history) ∧
      (writers db id config.history).Nodup ∧
      (writers db id config.history).length ≤ config.history.countP fun entry => leasesFor db id entry.2 := by
  have apart : (writers db id config.history).Nodup := writers_apart run.disciplined (List.suffix_refl _)
  refine ⟨fun t => writes_once run.disciplined, ?_, apart, ?_⟩
  · intro t event member wrote
    obtain ⟨later, earlier, split_⟩ := List.append_of_mem member
    obtain ⟨_, operation, action, known, _⟩ := write_ruled run.disciplined split_ wrote
    rw [split_]
    exact ⟨operation.id, writer_counted wrote known⟩
  · have fewer := (apart.subperm (writers_leased run.disciplined)).length_le
    rw [List.countP_eq_length_filter]
    simpa [lessees] using fewer

end Runs

/-- The process stops right after a write; the server is not seen to run yet when
the job is leased again. -/
def interruptedSchedule : Schedule :=
  List.flatten [[.spawn (.request (asking .start))], answers 0 (creating ++ enqueueing ++ announcing),
    [.spawn (.runOnce Jobs.Worker.standard)],
    answers 1 (leasing 2 ++ [.instant 2, stored] ++ approaching .stopped ++ [.receipt true (.ok ⟨text "receipt"⟩)]),
    [.crash, .spawn (.runOnce Jobs.Worker.standard)],
    answers 2 (leasing 40000000000 ++ approaching .stopped ++ [.receipt true (.ok ⟨text "receipt"⟩)])]

theorem one_write_a_lease_interrupted : ∃ config : PanelConfig,
    writers (Database.plain .sqlite) (text "operation") config.history = [2, 1] ∧
    (own 1 config.history).countP isWrite ≤ 1 ∧
    (writers (Database.plain .sqlite) (text "operation") config.history).length ≤
      config.history.countP fun entry => leasesFor (Database.plain .sqlite) (text "operation") entry.2 := by
  have happened : ((panel (Database.plain .sqlite) 3).outcome (fun _ => true) interruptedSchedule
      (Config.initial (emptyState [machine .stopped] []))).map (fun config =>
        writers (Database.plain .sqlite) (text "operation") config.history) = some [2, 1] := by
    decide
  obtain ⟨config, reached, written⟩ := Option.map_eq_some_iff.mp happened
  have run : PanelRun (Database.plain .sqlite) 3 [machine .stopped] [] (fun _ _ => True) config :=
    System.outcome_run reached fun _ _ _ => trivial
  obtain ⟨single, _, _, leased⟩ := one_write_a_lease run (text "operation")
  exact ⟨config, written, single 1, leased⟩

end NodeAtlas.Power
