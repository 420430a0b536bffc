import NodeAtlas.Power.History

/-! An operation succeeds only after an execution has seen its server in the
target state, however often it is retried. -/

set_option autoImplicit false

namespace NodeAtlas.Power

open Interleaving Operations Providers

/-- The state that an action is to bring about. -/
def Target : Action → ServerState → Prop
  | .start, .running => True
  | .stop, .stopped => True
  | .reboot, .running => True
  | _, _ => False

def lookOf : PanelEvent → Option (Except GoError RemoteServer)
  | ⟨.getServer _ _, reply⟩ => some reply
  | _ => none

/-- What the first `GetServer` of an execution answered. -/
def firstLook (events : List PanelEvent) : Option (Except GoError RemoteServer) :=
  events.reverse.findSome? lookOf

/-- The provider has acknowledged a reboot that some execution asked for. -/
def Rebooted (id : GoString) (history : List (Nat × PanelEvent)) : Prop :=
  ∃ after t provider ref receipt before known,
    history = after ++ (t, ⟨.powerAction provider ref .reboot, .ok receipt⟩) :: before ∧
      current (own t before) = some known ∧ known.id = id

/-- How a history accounts for the status `succeeded` of a row. -/
def Earned (row : Operations.Row) (history : List (Nat × PanelEvent)) : Prop :=
  ∃ later t asked change operation before remote,
    history = later ++ (t, ⟨.transition asked .succeeded change, .ok operation⟩) :: before ∧
      operation.id = row.id ∧ Target row.action remote.state ∧
      Observed row.serverID remote (own t before) ∧
      (row.action = .reboot → Rebooted row.id before)

section Runs

variable {db : Database} {config : PanelConfig}

/-- A transition that is no failure is made by an execution. -/
private theorem execution_moves {activity : Activity} {earlier : List PanelEvent} {id : GoString}
    {status : Status} {change : Change} {reply : Except GoError Operation}
    (ruled : rule db activity earlier ⟨.transition id status change, reply⟩)
    (unfailed : status ≠ .failed) :
    ∃ known, current earlier = some known ∧ id = known.id ∧ Moves known earlier status := by
  cases activity with
  | request asked => exact absurd ruled.2.1 unfailed
  | runOnce worker =>
      obtain ⟨_, known, at_, named, _, moves⟩ := ruled
      exact ⟨known, at_, named, moves⟩
  | enqueueConnectionSync id => exact ruled.elim
  | enqueuePowerOperation id => exact ruled.elim
  | createBackup passphrase requestID sourceIP => exact ruled.elim
  | restoreBackup id passphrase requestID sourceIP => exact ruled.elim

private theorem execution_acts {activity : Activity} {earlier : List PanelEvent}
    {provider : ConnectionConfig} {ref : ServerRef} {action : Action}
    {reply : Except GoError ActionReceipt}
    (ruled : rule db activity earlier ⟨.powerAction provider ref action, reply⟩) :
    ∃ known, current earlier = some known ∧ Writes known action earlier := by
  cases activity with
  | request asked => exact ruled.2.elim
  | runOnce worker => exact ruled.2
  | enqueueConnectionSync id => exact ruled.elim
  | enqueuePowerOperation id => exact ruled.elim
  | createBackup passphrase requestID sourceIP => exact ruled.elim
  | restoreBackup id passphrase requestID sourceIP => exact ruled.elim

private theorem transition_fitting {activity : Activity} {earlier : List PanelEvent}
    {id : GoString} {status : Status} {change : Change} {moved : Operation}
    (ruled : rule db activity earlier ⟨.transition id status change, .ok moved⟩) :
    db.same moved.id id = true := by
  cases activity with
  | request asked => exact ruled.1.1
  | runOnce worker => exact ruled.1.1
  | enqueueConnectionSync id => exact ruled.elim
  | enqueuePowerOperation id => exact ruled.elim
  | createBackup passphrase requestID sourceIP => exact ruled.elim
  | restoreBackup id passphrase requestID sourceIP => exact ruled.elim

/-- Versions that the collation takes for the same operation have one id, one
action and one server. -/
private theorem Ledger.identified (ledger : Ledger db config) {row : Operations.Row}
    (member : row ∈ config.state.operations) (entry : Nat × PanelEvent)
    (among : entry ∈ config.history) {known : Operation}
    (answer : returned entry.2 = some known) (same : db.same known.id row.id = true) :
    Version known row.toOperation := by
  obtain ⟨other, stored, version⟩ := ledger.witnessed entry among known answer
  have equal : other = row := by
    refine ledger.unique member stored ?_
    have sameID : other.id = known.id := version.sameID
    rw [sameID]
    exact same
  exact equal ▸ version

/-- An execution that moved its operation on had got a receipt right before. -/
private theorem Ledger.acted (ledger : Ledger db config)
    (disciplined : Disciplined (audit db) config) {row : Operations.Row}
    (member : row ∈ config.state.operations) (reboot : row.action = .reboot)
    {later earlier : List (Nat × PanelEvent)} (split : config.history = later ++ earlier)
    {mover : Nat × PanelEvent} (among : mover ∈ earlier)
    (moved : MovedBy row.id .verifying mover) : Rebooted row.id earlier := by
  obtain ⟨after, before, rfl⟩ := List.append_of_mem among
  obtain ⟨t, asked, change, operation, rfl, named⟩ := moved
  have whole : config.history = (later ++ after) ++
      (t, (⟨.transition asked .verifying change, .ok operation⟩ : PanelEvent)) :: before := by
    rw [split, List.append_assoc]
  obtain ⟨thread, found, ruled⟩ := disciplined.justified whole
  obtain ⟨known, at_, sameAsked, moves⟩ := execution_moves ruled (by simp)
  obtain ⟨_, _, now, provider, ref, receipt, rest, made⟩ := moves
  obtain ⟨event, own_, answer⟩ := current_returned at_
  have version : Version known row.toOperation := by
    refine ledger.identified member (t, event) ?_ answer ?_
    · rw [whole]
      exact List.mem_append_right _ (List.mem_cons_of_mem _ (mem_own.mp own_))
    · have fitting := transition_fitting ruled
      rw [sameAsked, named, db.same_symm] at fitting
      exact fitting
  have action : known.action = .reboot := version.sameAction.symm.trans reboot
  rw [made] at at_
  rw [action] at made
  have splitOwn : own t before = [⟨.now, now⟩] ++
      ⟨.powerAction provider ref .reboot, .ok receipt⟩ :: rest := made
  obtain ⟨skipped, first, rfl, _, rfl⟩ := own_split splitOwn
  refine ⟨after ++ (t, ⟨.transition asked .verifying change, .ok operation⟩) :: skipped, t,
    provider, ref, receipt, first, known, by simp, ?_, version.sameID.symm⟩
  simpa [current, movedTo, foundBy] using at_

private theorem Target.reached {action : Action} {state : ServerState}
    (reached : Executor.verificationTargetReached action state = true) : Target action state := by
  cases action <;> simp [Executor.verificationTargetReached, Executor.actionAlreadySatisfied]
    at reached
  all_goals
    subst reached
    trivial

private theorem Target.unsatisfied {action : Action} {state : ServerState} (noReboot : action ≠ .reboot)
    (unsatisfied : Executor.actionAlreadySatisfied action state = false) :
    ¬ Target action state := by
  intro target
  cases action <;> cases state <;>
    simp_all [Target, Executor.actionAlreadySatisfied]

private theorem Ledger.earned (ledger : Ledger db config)
    (disciplined : Disciplined (audit db) config) {row : Operations.Row}
    (member : row ∈ config.state.operations) (succeeded : row.status = .succeeded) :
    Earned row config.history := by
  obtain ⟨mover, among, moved⟩ := ledger.justified row member (by rw [succeeded]; simp)
  rw [succeeded] at moved
  obtain ⟨later, before, split⟩ := List.append_of_mem among
  obtain ⟨t, asked, change, operation, rfl, named⟩ := moved
  obtain ⟨thread, found, ruled⟩ := disciplined.justified split
  obtain ⟨known, at_, sameAsked, verified, remote, observed, reached⟩ :=
    execution_moves ruled (by simp)
  obtain ⟨event, own_, answer⟩ := current_returned at_
  have recorded : (t, event) ∈ before := mem_own.mp own_
  have version : Version known row.toOperation := by
    refine ledger.identified member (t, event) ?_ answer ?_
    · rw [split]
      exact List.mem_append_right _ (List.mem_cons_of_mem _ recorded)
    · have fitting := transition_fitting ruled
      rw [sameAsked, named, db.same_symm] at fitting
      exact fitting
  have sameAction : row.action = known.action := version.sameAction
  have sameServer : row.serverID = known.serverID := version.sameServer
  have sameID : row.id = known.id := version.sameID
  refine ⟨later, t, asked, change, operation, before, remote, split, named, ?_, ?_, ?_⟩
  · rw [sameAction]
    exact Target.reached reached
  · rw [sameServer]
    exact observed
  · intro reboot
    have verifying := verified (sameAction.symm.trans reboot)
    obtain ⟨after, earlier, rfl⟩ := List.append_of_mem recorded
    have whole : config.history =
        (later ++ (t, ⟨.transition asked .succeeded change, .ok operation⟩) :: after) ++
          (t, event) :: earlier := by
      rw [split, List.append_assoc]
      rfl
    obtain ⟨mover, before_, moved⟩ :=
      (ledger.recorded _ _ _ whole known answer).grounded (by rw [verifying]; simp)
    rw [verifying, ← sameID] at moved
    obtain ⟨skipped, u, provider, ref, receipt, first, current_, rest, made⟩ :=
      ledger.acted disciplined member reboot whole before_ moved
    exact ⟨after ++ skipped, u, provider, ref, receipt, first, current_,
      by rw [rest, List.append_assoc], made⟩

/-- A write is preceded, in its execution, by a first look that called for it. -/
private theorem write_looked (disciplined : Disciplined (audit db) config) {t : Nat}
    {provider : ConnectionConfig} {ref : ServerRef} {action : Action}
    {reply : Except GoError ActionReceipt} (noReboot : action ≠ .reboot)
    (made : (t, (⟨.powerAction provider ref action, reply⟩ : PanelEvent)) ∈ config.history) :
    ∃ remote, firstLook (own t config.history) = some (.ok remote) ∧
      ¬ Target action remote.state := by
  obtain ⟨later, earlier, split⟩ := List.append_of_mem made
  obtain ⟨thread, found, ruled⟩ := disciplined.justified split
  obtain ⟨known, at_, writes⟩ := execution_acts ruled
  obtain ⟨asked, at_, remote, rest, looked, untouched, unsatisfied⟩ := writes.looked
  refine ⟨remote, ?_, Target.unsatisfied noReboot unsatisfied⟩
  have unseen : rest.reverse.findSome? lookOf = none := by
    rw [List.findSome?_eq_none_iff]
    intro event member
    have unlooked := (untouched event (List.mem_reverse.mp member)).1
    obtain ⟨call, reply⟩ := event
    cases call with
    | getServer => cases unlooked
    | _ => rfl
  have seen : (⟨.getServer asked at_, .ok remote⟩ :: rest : List PanelEvent).reverse.findSome?
      lookOf = some (.ok remote) := by
    rw [List.reverse_cons, List.findSome?_append, unseen]
    rfl
  rw [split, own_append, own_cons_self, looked, firstLook, List.reverse_append,
    List.findSome?_append, List.reverse_cons, List.findSome?_append, seen]
  rfl

end Runs

/-- The servers table once the answer of a provider is taken over. -/
def Refreshed (db : Database) (id : GoString) (remote : RemoteServer) (at_ : Instant)
    (before after : List Inventory.Row) : Prop :=
  before.countP (Inventory.visible db id) = 1 ∧
    after = before.map fun row =>
      if Inventory.visible db id row then row.observed db remote at_ else row

/-- Success is earned: by a look at the server in the execution that records
it, for a reboot by an acknowledged call too, and without a write where the
first look already found the target state. -/
structure Deserved (db : Database) (maxAttempts : Int) (config : PanelConfig) : Prop where
  earned : ∀ row ∈ config.state.operations, row.status = .succeeded → Earned row config.history
  spared : ∀ t provider ref action reply,
    (t, (⟨.powerAction provider ref action, reply⟩ : PanelEvent)) ∈ config.history →
    action ≠ .reboot → ∃ remote, firstLook (own t config.history) = some (.ok remote) ∧
      ¬ Target action remote.state
  refreshed : ∀ t id remote at_ next, (panel db maxAttempts).Transition config
    (.performed t ⟨.updateRemote id remote at_, .ok ()⟩) next →
    Refreshed db id remote at_ config.state.servers next.state.servers

private theorem updateRemote_refreshes {db : Database} {t : Nat} {id : GoString}
    {remote : RemoteServer} {at_ : Instant} {choice : Choice} {state next : State}
    (ran : perform db t (.updateRemote id remote at_) choice state = some (.ok (), next)) :
    Refreshed db id remote at_ state.servers next.servers := by
  cases choice with
  | database clock faults =>
      simp only [perform, onTable, Inventory.updateRemote] at ran
      split at ran
      · cases ran
      · split at ran
        · next one =>
            cases ran
            exact ⟨one, rfl⟩
        · cases ran
  | _ => cases ran

/-- The first attempt reboots without an answer, the second is acknowledged. -/
def rebootSchedule : Schedule :=
  [.spawn (.request (asking .reboot))] ++ answers 0 (creating ++ enqueueing ++ announcing) ++
  [.spawn (.runOnce Jobs.Worker.standard)] ++ answers 1 (leasing 2 ++ [.instant 2, stored] ++
    approaching .running ++ [.receipt true (.error (.provider ⟨.network, [], true⟩)),
      .instant 2, stored]) ++
  [.spawn (.runOnce Jobs.Worker.standard)] ++ answers 2 (leasing 1000000002 ++ approaching .running ++
    [.receipt true (.ok ⟨text "receipt"⟩), .instant 2, stored, .polls 0,
      .remote (.ok (seen .running))] ++ succeeding)

end NodeAtlas.Power
