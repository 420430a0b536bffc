import NodeAtlas.Power.Effects

/-! What the calls made so far say about the operations table, in every run
without a restore. -/

set_option autoImplicit false

namespace NodeAtlas.Power

open Interleaving Operations Providers

/-- The operation that a call returned. -/
def returned : PanelEvent → Option Operation
  | ⟨.findOperation _, .ok operation⟩ => some operation
  | ⟨.createQueued _, .ok (operation, _)⟩ => some operation
  | ⟨.transition _ _ _, .ok operation⟩ => some operation
  | _ => none

theorem current_returned {events : List PanelEvent} {operation : Operation}
    (known : current events = some operation) :
    ∃ event ∈ events, returned event = some operation := by
  induction events with
  | nil => cases known
  | cons event earlier ih =>
      simp only [current, Option.or_eq_some_iff] at known
      rcases known with moved | ⟨_, before | ⟨_, found⟩⟩
      · refine ⟨event, List.mem_cons_self, ?_⟩
        unfold movedTo at moved
        split at moved
        · next next_ operation_ =>
            split at moved
            · cases moved
            · exact moved
        · cases moved
      · obtain ⟨former, member, answer⟩ := ih before
        exact ⟨former, List.mem_cons_of_mem _ member, answer⟩
      · refine ⟨event, List.mem_cons_self, ?_⟩
        unfold foundBy at found
        split at found
        · exact found
        · cases found

/-- A later version of an operation that was once returned. -/
structure Version (operation later : Operation) : Prop where
  sameID : later.id = operation.id
  sameAction : later.action = operation.action
  sameServer : later.serverID = operation.serverID
  reached : operation.status.rank ≤ later.status.rank
  final : operation.status.terminal = true → later.status = operation.status

/-- The columns of an operation that matter here, as they stand in a row. -/
structure Mirrors (operation : Operation) (row : Operations.Row) : Prop where
  sameID : row.id = operation.id
  sameAction : row.action = operation.action
  sameServer : row.serverID = operation.serverID
  sameStatus : row.status = operation.status

theorem Mirrors.version {operation : Operation} {row : Operations.Row}
    (mirrors : Mirrors operation row) : Version operation row.toOperation where
  sameID := mirrors.sameID
  sameAction := mirrors.sameAction
  sameServer := mirrors.sameServer
  reached := by rw [mirrors.sameStatus]
  final _ := mirrors.sameStatus

/-- What a row is a later version of, an operation that mirrors it is too. -/
theorem Version.mirrored {former operation : Operation} {row : Operations.Row}
    (version : Version former row.toOperation) (mirrors : Mirrors operation row) :
    Version former operation where
  sameID := mirrors.sameID.symm.trans version.sameID
  sameAction := mirrors.sameAction.symm.trans version.sameAction
  sameServer := mirrors.sameServer.symm.trans version.sameServer
  reached := by
    rw [← mirrors.sameStatus]
    exact version.reached
  final terminal := mirrors.sameStatus.symm.trans (version.final terminal)

/-- How a row goes on in a later table. -/
structure Continues (row successor : Operations.Row) : Prop where
  sameID : successor.id = row.id
  sameAction : successor.action = row.action
  sameServer : successor.serverID = row.serverID
  status : successor.status = row.status ∨ validTransition row.status successor.status = true

theorem Version.continues {operation : Operation} {row successor : Operations.Row}
    (version : Version operation row.toOperation) (continues : Continues row successor) :
    Version operation successor.toOperation where
  sameID := continues.sameID.trans version.sameID
  sameAction := continues.sameAction.trans version.sameAction
  sameServer := continues.sameServer.trans version.sameServer
  reached := by
    rcases continues.status with same | valid
    · rw [same]
      exact version.reached
    · exact Nat.le_of_lt (Nat.lt_of_le_of_lt version.reached (validTransition_rank valid))
  final terminal := by
    have ceased := version.final terminal
    rcases continues.status with same | valid
    · exact same.trans ceased
    · have active := validTransition_active valid
      rw [ceased, Status.terminal_not_active terminal] at active
      cases active

def isRestore : PanelEvent → Bool
  | ⟨.restore _, _⟩ => true
  | _ => false

section Table

variable {db : Database} {rows after : List Operations.Row} {event : PanelEvent}

/-- The row that a transition reads is the only one of its id. -/
theorem same_row (apart : rows.Pairwise fun left right => (operationsEngine db).clash left right = false)
    {row other : Operations.Row} (member : row ∈ rows) (among : other ∈ rows)
    (same : db.same other.id row.id = true) : other = row := by
  refine Transactions.Engine.keyed_unique apart among member ?_
  simpa [Operations.engine, Database.same] using same

private theorem rewritten_continues {row : Operations.Row} {next : Status} {at_ : Instant}
    {change : Change} (valid : validTransition row.status next = true) :
    Continues row (row.rewritten db (row.toOperation.transitioned next at_ change)) :=
  ⟨rfl, rfl, rfl, .inr valid⟩

theorem OperationsChange.continues (apart : rows.Pairwise fun left right => (operationsEngine db).clash left right = false)
    (changed : OperationsChange db rows event after) (unrestored : isRestore event = false) :
    ∀ row ∈ rows, ∃ successor ∈ after, Continues row successor := by
  intro row member
  cases changed with
  | kept quiet => exact ⟨row, member, rfl, rfl, rfl, .inl rfl⟩
  | created operation => exact ⟨row, List.mem_append_left _ member, rfl, rfl, rfl, .inl rfl⟩
  | @moved read id next change at_ among matched valid =>
      refine ⟨_, List.mem_map_of_mem member, ?_⟩
      split
      · next same =>
          rw [same_row apart among member same]
          exact rewritten_continues valid
      · exact ⟨rfl, rfl, rfl, .inl rfl⟩
  | restored archive => cases unrestored

/-- Where a row of the later table comes from. -/
inductive Arises (db : Database) (rows : List Operations.Row) (event : PanelEvent)
    (successor : Operations.Row) : Prop where
  | kept (member : successor ∈ rows)
  | created {operation : Operation}
      (made : event = ⟨.createQueued operation, .ok ({ operation with status := .queued }, true)⟩)
      (same : successor = queuedRow db operation)
  | moved {row : Operations.Row} {id : GoString} {next : Status} {change : Change}
      {moved : Operation} (member : row ∈ rows)
      (made : event = ⟨.transition id next change, .ok moved⟩) (sameID : moved.id = row.id)
      (valid : validTransition row.status next = true) (status : successor.status = next)
      (same : successor.id = row.id)

theorem OperationsChange.arises (apart : rows.Pairwise fun left right => (operationsEngine db).clash left right = false)
    (changed : OperationsChange db rows event after) (unrestored : isRestore event = false) :
    ∀ successor ∈ after, Arises db rows event successor := by
  intro successor member
  cases changed with
  | kept quiet => exact .kept member
  | created operation =>
      rcases List.mem_append.mp member with former | fresh
      · exact .kept former
      · exact .created rfl (List.mem_singleton.mp fresh)
  | @moved read id next change at_ among matched valid =>
      obtain ⟨row, former, rfl⟩ := List.mem_map.mp member
      split
      · next same =>
          obtain rfl := same_row apart among former same
          exact .moved former rfl rfl valid rfl rfl
      · exact .kept former
  | restored archive => cases unrestored

end Table

/-! ## Along a run -/

def Activity.restores : Activity → Bool
  | .restoreBackup _ _ _ _ => true
  | _ => false

abbrev PanelLabel : Type := Label Call Call.Reply Activity Choice

/-- No restore is started. -/
def Restoreless (label : PanelLabel) : Prop :=
  ∀ activity, label = .spawned activity → activity.restores = false

/-- The call that moved the operation of an id to a status. -/
def MovedBy (id : GoString) (status : Status) (entry : Nat × PanelEvent) : Prop :=
  ∃ t asked change operation,
    entry = (t, ⟨.transition asked status change, .ok operation⟩) ∧ operation.id = id

/-- What an operation that a call returns has to do with the calls before it. -/
structure Recorded (earlier : List (Nat × PanelEvent)) (entry : Nat × PanelEvent)
    (operation : Operation) : Prop where
  latest : ∀ former ∈ earlier, ∀ known, returned former.2 = some known →
    known.id = operation.id → Version known operation
  grounded : operation.status ≠ .queued →
    ∃ mover ∈ entry :: earlier, MovedBy operation.id operation.status mover

def restorelessTest : PanelLabel → Bool
  | .spawned activity => !activity.restores
  | _ => true

theorem restorelessTest_sound {label : PanelLabel} (passed : restorelessTest label = true) :
    Restoreless label := by
  intro activity spawned
  subst spawned
  simpa [restorelessTest] using passed

/-- What the history and the operations table say about each other. -/
structure Ledger (db : Database) (config : PanelConfig) : Prop where
  apart : Apart db config.state
  powered : ∀ thread ∈ config.threads, thread.task.restores = false
  proper : ∀ row ∈ config.state.operations, row.status.terminal = !row.status.active
  witnessed : ∀ entry ∈ config.history, ∀ operation, returned entry.2 = some operation →
    ∃ row ∈ config.state.operations, Version operation row.toOperation
  justified : ∀ row ∈ config.state.operations, row.status ≠ .queued →
    ∃ mover ∈ config.history, MovedBy row.id row.status mover
  recorded : ∀ later entry earlier, config.history = later ++ entry :: earlier →
    ∀ operation, returned entry.2 = some operation → Recorded earlier entry operation

section Steps

variable {db : Database} {t : Nat} {state next : State} {call : Call} {choice : Choice}
  {reply : call.Reply}

/-- An operation that a call returns stands in the table after the call. -/
theorem returned_mirrored (apart : Apart db state)
    (ran : perform db t call choice state = some (reply, next)) {operation : Operation}
    (answer : returned ⟨call, reply⟩ = some operation) :
    ∃ row ∈ next.operations, Mirrors operation row := by
  have changed := (perform_effect apart ran).operations
  cases call with
  | findOperation id =>
      rcases reply with failure | found
      · cases answer
      · cases answer
        obtain ⟨row, member, _, rfl⟩ := perform_found ran
        rw [changed.unchanged rfl]
        exact ⟨row, member, rfl, rfl, rfl, rfl⟩
  | createQueued asked =>
      rcases reply with failure | ⟨made, fresh⟩
      · cases answer
      · cases answer
        cases fresh with
        | false =>
            obtain ⟨row, member, rfl⟩ := perform_existing ran
            rw [changed.unchanged rfl]
            exact ⟨row, member, rfl, rfl, rfl, rfl⟩
        | true =>
            generalize next.operations = after at changed
            cases changed with
            | kept quiet => cases quiet
            | created =>
                exact ⟨_, List.mem_append_right _ List.mem_cons_self, rfl, rfl, rfl, rfl⟩
  | transition id status change =>
      rcases reply with failure | moved
      · cases answer
      · cases answer
        generalize next.operations = after at changed
        cases changed with
        | kept quiet => cases quiet
        | moved member matched valid =>
            refine ⟨_, List.mem_map_of_mem member, ?_⟩
            rw [if_pos (db.same_refl _)]
            exact ⟨rfl, rfl, rfl, rfl⟩
  | _ => cases answer

end Steps

section Ledger

variable {db : Database} {maxAttempts : Int} {config next : PanelConfig}

theorem ledger_empty (db : Database) (servers : List Inventory.Row)
    (backups : List (Backup.File Archive)) :
    Ledger db (Config.initial (emptyState servers backups)) where
  apart := ⟨.nil, .nil⟩
  powered thread member := by cases member
  proper row member := by cases member
  witnessed entry member := by cases member
  justified row member := by cases member
  recorded later entry earlier split := by simp [Config.initial] at split

/-- A restore is made by a restore activity only. -/
theorem Ledger.unrestored (ledger : Ledger db config)
    (disciplined : Disciplined (audit db) config) {t : Nat} {activity : Activity} {call : Call}
    {continuation : call.Reply → Process Outcome} {choice : Choice} {reply : call.Reply}
    {state : State}
    (found : config.threads[t]? = some ⟨activity, some (.call call continuation)⟩)
    (answered : perform db t call choice config.state = some (reply, state)) :
    isRestore ⟨call, reply⟩ = false := by
  have ruled := (disciplined.ahead t _ _ found rfl reply (perform_fits db answered)).1
  have powered := ledger.powered _ (List.mem_of_getElem? found)
  cases call with
  | restore archive =>
      cases activity with
      | request asked => exact ruled.2.elim
      | runOnce worker => exact ruled.2.elim
      | enqueueConnectionSync id => exact ruled.elim
      | enqueuePowerOperation id => exact ruled.elim
      | createBackup passphrase requestID sourceIP => exact absurd ruled.1 (by simp)
      | restoreBackup id passphrase requestID sourceIP => cases powered
  | _ => rfl

/-- Two rows of one id are the same row. -/
theorem Ledger.unique (ledger : Ledger db config) {row other : Operations.Row}
    (member : row ∈ config.state.operations) (among : other ∈ config.state.operations)
    (same : db.same other.id row.id = true) : other = row :=
  same_row ledger.apart.operations member among same

/-- The history and the table go on together. -/
private theorem Ledger.advance (ledger : Ledger db config)
    (disciplined : Disciplined (audit db) config) {t : Nat} {activity : Activity} {call : Call}
    {continuation : call.Reply → Process Outcome} {choice : Choice} {reply : call.Reply}
    {state : State}
    (found : config.threads[t]? = some ⟨activity, some (.call call continuation)⟩)
    (answered : perform db t call choice config.state = some (reply, state)) :
    Ledger db (config.advance t activity ⟨call, reply⟩ (continuation reply) state) := by
  have unrestored := ledger.unrestored disciplined found answered
  have apart := (perform_effect ledger.apart answered).apart
  have changed := (perform_effect ledger.apart answered).operations
  have continued := changed.continues ledger.apart.operations unrestored
  have arising := changed.arises ledger.apart.operations unrestored
  have mirrored : ∀ operation, returned ⟨call, reply⟩ = some operation →
      ∃ row ∈ state.operations, Mirrors operation row :=
    fun operation answer => returned_mirrored ledger.apart answered answer
  have justified : ∀ row ∈ state.operations, row.status ≠ .queued →
      ∃ mover ∈ (t, (⟨call, reply⟩ : PanelEvent)) :: config.history,
        MovedBy row.id row.status mover := by
    intro row member unqueued
    cases arising row member with
    | kept former =>
        obtain ⟨mover, before, moved⟩ := ledger.justified row former unqueued
        exact ⟨mover, List.mem_cons_of_mem _ before, moved⟩
    | created made same =>
        rw [same] at unqueued
        exact absurd rfl unqueued
    | moved former made sameID valid status same =>
        rw [made, status, same]
        exact ⟨_, List.mem_cons_self, t, _, _, _, rfl, sameID⟩
  refine ⟨apart, ?_, ?_, ?_, justified, ?_⟩
  · intro thread member
    rcases List.mem_or_eq_of_mem_set member with former | rfl
    · exact ledger.powered thread former
    · have powered := ledger.powered _ (List.mem_of_getElem? found)
      exact powered
  · intro row member
    cases arising row member with
    | kept former => exact ledger.proper row former
    | created made same =>
        rw [same]
        rfl
    | moved former made sameID valid status same =>
        rw [status]
        exact validTransition_terminal valid
  · intro entry member operation answer
    rcases List.mem_cons.mp member with rfl | former
    · obtain ⟨row, stored, mirrors⟩ := mirrored operation answer
      exact ⟨row, stored, mirrors.version⟩
    · obtain ⟨row, stored, version⟩ := ledger.witnessed entry former operation answer
      obtain ⟨successor, stays, continues⟩ := continued row stored
      exact ⟨successor, stays, version.continues continues⟩
  · intro later entry earlier split operation answer
    rcases List.cons_eq_append_iff.mp split with ⟨rfl, same⟩ | ⟨rest, rfl, former⟩
    · obtain ⟨rfl, rfl⟩ := List.cons.inj same
      obtain ⟨row, stored, mirrors⟩ := mirrored operation answer
      constructor
      · intro former member known stated sameID
        obtain ⟨old, among, version⟩ := ledger.witnessed former member known stated
        obtain ⟨successor, stays, continues⟩ := continued old among
        have newer := version.continues continues
        have same : successor = row := by
          refine same_row apart.operations stored stays ?_
          have equal : successor.id = row.id := by
            rw [newer.sameID, sameID, mirrors.sameID]
          rw [equal]
          exact db.same_refl _
        rw [same] at newer
        exact newer.mirrored mirrors
      · intro unqueued
        rw [← mirrors.sameStatus, ← mirrors.sameID]
        rw [← mirrors.sameStatus] at unqueued
        exact justified row stored unqueued
    · exact ledger.recorded rest entry earlier former operation answer

theorem Ledger.step (ledger : Ledger db config) (disciplined : Disciplined (audit db) config)
    {label : PanelLabel} (transition : (panel db maxAttempts).Transition config label next)
    (restoreless : Restoreless label) : Ledger db next := by
  cases transition with
  | spawned activity =>
      refine ⟨ledger.apart, ?_, ledger.proper, ledger.witnessed, ledger.justified, ledger.recorded⟩
      intro thread member
      rcases List.mem_append.mp member with former | fresh
      · exact ledger.powered thread former
      · rw [List.mem_singleton.mp fresh]
        exact restoreless activity rfl
  | performed found answered => exact ledger.advance disciplined found answered
  | @external choice state acted =>
      have kept : state.operations = config.state.operations ∧ state.jobs = config.state.jobs := by
        cases choice <;> cases acted <;> exact ⟨rfl, rfl⟩
      obtain ⟨sameOperations, sameJobs⟩ := kept
      refine ⟨⟨?_, ?_⟩, ledger.powered, ?_, ?_, ?_, ledger.recorded⟩
      · exact sameOperations ▸ ledger.apart.operations
      · exact sameJobs ▸ ledger.apart.jobs
      · exact sameOperations ▸ ledger.proper
      · exact sameOperations ▸ ledger.witnessed
      · exact sameOperations ▸ ledger.justified
  | crashed =>
      refine ⟨⟨ledger.apart.operations, ledger.apart.jobs⟩, ?_, ledger.proper, ledger.witnessed,
        ledger.justified, ledger.recorded⟩
      intro thread member
      obtain ⟨former, before, rfl⟩ := List.mem_map.mp member
      rw [Disciplined.kill_task]
      exact ledger.powered former before

/-- Runs of the panel from empty tables. -/
abbrev PanelRun (db : Database) (maxAttempts : Int) (servers : List Inventory.Row)
    (backups : List (Backup.File Archive)) (meets : PanelConfig → PanelLabel → Prop)
    (config : PanelConfig) : Prop :=
  (panel db maxAttempts).Run meets (Config.initial (emptyState servers backups)) config

variable {servers : List Inventory.Row} {backups : List (Backup.File Archive)}
  {meets : PanelConfig → PanelLabel → Prop}

theorem PanelRun.disciplined (run : PanelRun db maxAttempts servers backups meets config) :
    Disciplined (audit db) config :=
  Disciplined.run (panel_passes db maxAttempts) run fun _ _ _ => trivial

theorem PanelRun.ledger (run : PanelRun db maxAttempts servers backups meets config)
    (restoreless : ∀ before label, meets before label → Restoreless label) : Ledger db config := by
  refine System.Run.invariant run (ledger_empty db servers backups) ?_
  intro before label after reached transition met ledger
  exact ledger.step (PanelRun.disciplined reached) transition (restoreless before label met)

end Ledger

end NodeAtlas.Power
