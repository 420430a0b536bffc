import NodeAtlas.Power.History

/-! What an idempotency key is bound to: the operation that the first request
with it created, whatever later requests with the key ask for. -/

set_option autoImplicit false

namespace NodeAtlas.Power

open Interleaving Operations Providers

/-! ## The key and the target of a request -/

/-- The key under which a request looks for its operation. Where the client
gave none it is the identifier that the first call generated. -/
def KeyFor (asked : Request) (events : List PanelEvent) (key : GoString) : Prop :=
  if trimSpace asked.idempotencyKey = [] then ∃ later, events = later ++ [⟨.newID, key⟩]
  else key = trimSpace asked.idempotencyKey

private theorem KeyFor.append {asked : Request} {earlier : List PanelEvent} {key : GoString}
    (keyed : KeyFor asked earlier key) (later : List PanelEvent) : KeyFor asked (later ++ earlier) key := by
  unfold KeyFor at keyed ⊢
  split
  · next generated =>
      rw [if_pos generated] at keyed
      obtain ⟨behind, rfl⟩ := keyed
      exact ⟨later ++ behind, by rw [List.append_assoc]⟩
  · next given =>
      rw [if_neg given] at keyed
      exact keyed

/-- The operation that an answer to a request is about. -/
def answered : PanelEvent → Option Operation
  | ⟨.findByIdempotencyKey _, .ok operation⟩ => some operation
  | ⟨.createQueued _, .ok (operation, _)⟩ => some operation
  | _ => none

/-- A job for a power operation was stored. -/
def enqueues : PanelEvent → Bool
  | ⟨.enqueuePowerOperation _ _, .ok _⟩ => true
  | _ => false

namespace Keys

def fits (db : Database) : PanelEvent → Prop
  | ⟨.findByIdempotencyKey key, .ok operation⟩ => db.same operation.idempotencyKey key = true
  | ⟨.findServer id, .ok server⟩ => db.same server.id id = true
  | ⟨.createQueued operation, .ok (existing, false)⟩ =>
      db.same existing.idempotencyKey operation.idempotencyKey = true
  | ⟨.createQueued operation, .ok (made, true)⟩ => made = { operation with status := .queued }
  | _ => True

/-- What a request has created belongs to it. -/
structure Requested (db : Database) (asked : Request) (operation : Operation)
    (events : List PanelEvent) : Prop where
  keyed : KeyFor asked events operation.idempotencyKey
  action : operation.action = asked.action
  server : db.same operation.serverID (trimSpace asked.serverID) = true

def requestRule (db : Database) (asked : Request) (earlier : List PanelEvent) (event : PanelEvent) : Prop :=
  match event.call with
  | .createQueued operation => fits db event ∧ Requested db asked operation earlier
  | _ => True

/-- The operation was found under the key of a request. -/
def Answers (db : Database) (asked : Request) (operation : Operation) (events : List PanelEvent) : Prop :=
  ∃ key, KeyFor asked events key ∧ db.same operation.idempotencyKey key = true ∧
    ∃ event ∈ events, answered event = some operation

def requestClosing (db : Database) (asked : Request) (events : List PanelEvent) : Outcome → Prop
  | .requested (.ok (operation, _)) => Answers db asked operation events
  | _ => True

def audit (db : Database) : Audit Call Call.Reply Activity Outcome where
  fits := fits db
  rule
    | .request asked => requestRule db asked
    | .enqueueConnectionSync _ => fun _ event => enqueues event = false
    | _ => fun _ _ => True
  closing
    | .request asked => requestClosing db asked
    | _ => fun _ _ => True

section Audited

variable {db : Database} {asked : Request} {earlier : List PanelEvent} {key : GoString}
  {operation : Operation}

private theorem keyFor_cons (keyed : KeyFor asked earlier key) (event : PanelEvent) :
    KeyFor asked (event :: earlier) key :=
  keyed.append [event]

private theorem Answers.cons (answers : Answers db asked operation earlier) (event : PanelEvent) :
    Answers db asked operation (event :: earlier) := by
  obtain ⟨key, keyed, same, former, member, answer⟩ := answers
  exact ⟨key, keyFor_cons keyed event, same, former, List.mem_cons_of_mem _ member, answer⟩

private abbrev Kept {α : Type} (db : Database) (asked : Request)
    (closing : List PanelEvent → α → Prop) (earlier : List PanelEvent) (program : Process α) : Prop :=
  program.Audited (fits db) (requestRule db asked) closing earlier

private def Closes (db : Database) (asked : Request) (events : List PanelEvent)
    (result : Except GoError (Operation × Bool)) : Prop :=
  requestClosing db asked events (.requested result)

private theorem queueOperation_answers (answers : Answers db asked operation earlier)
    (maxAttempts : Int) (request : Request) (now : Instant) :
    Kept db asked (Closes db asked) earlier
      (Service.queueOperation maxAttempts request operation now) := by
  intro clock _
  refine ⟨trivial, ?_⟩
  intro id _
  refine ⟨trivial, ?_⟩
  intro queued _
  refine ⟨trivial, ?_⟩
  have later := ((answers.cons ⟨.now, clock⟩).cons ⟨.newID, id⟩).cons
    ⟨.enqueuePowerOperation (Jobs.newQueue maxAttempts clock id) operation.id, queued⟩
  cases queued with
  | error failure => exact fun _ _ => ⟨trivial, trivial⟩
  | ok _ =>
      intro auditID _
      refine ⟨trivial, ?_⟩
      intro recorded _
      refine ⟨trivial, ?_⟩
      cases recorded with
      | error failure => exact fun _ _ => ⟨trivial, trivial⟩
      | ok _ => exact (later.cons _).cons _

private theorem createOperation_answers (keyed : KeyFor asked earlier key) (maxAttempts : Int)
    {server : Inventory.Server} (found : db.same server.id (trimSpace asked.serverID) = true) :
    Kept db asked (Closes db asked) earlier
      (Service.createOperation maxAttempts asked key server) := by
  intro now _
  refine ⟨trivial, ?_⟩
  intro id _
  refine ⟨trivial, ?_⟩
  have still := keyFor_cons (keyFor_cons keyed ⟨.now, now⟩) ⟨.newID, id⟩
  intro reply fit
  refine ⟨⟨fit, still, rfl, found⟩, ?_⟩
  have after := keyFor_cons still
    ⟨.createQueued (Service.newOperation asked key server id now), reply⟩
  rcases reply with failure | ⟨operation, fresh⟩
  · trivial
  · cases fresh with
    | false => exact ⟨key, after, fit, _, List.mem_cons_self, rfl⟩
    | true =>
        have answers : Answers db asked operation
            (⟨.createQueued (Service.newOperation asked key server id now), .ok (operation, true)⟩ ::
              ⟨.newID, id⟩ :: ⟨.now, now⟩ :: earlier) := by
          refine ⟨key, after, ?_, _, List.mem_cons_self, rfl⟩
          have made : operation = { Service.newOperation asked key server id now with status := .queued } := fit
          rw [made]
          exact db.same_refl key
        exact queueOperation_answers answers maxAttempts asked now

private theorem checkServer_answers (keyed : KeyFor asked earlier key) (maxAttempts : Int)
    {server : Inventory.Server} (found : db.same server.id (trimSpace asked.serverID) = true) :
    Kept db asked (Closes db asked) earlier (Service.checkServer maxAttempts asked key server) := by
  unfold Service.checkServer
  repeat' split
  · trivial
  · exact createOperation_answers keyed maxAttempts found
  · trivial
  · trivial

private theorem idempotencyKey_keyed (asked : Request) :
    Kept db asked (KeyFor asked) [] (Service.idempotencyKey (trimSpace asked.idempotencyKey)) := by
  unfold Service.idempotencyKey
  split
  · next generated =>
      intro id _
      refine ⟨trivial, ?_⟩
      change KeyFor asked _ _
      rw [KeyFor, if_pos generated]
      exact ⟨[], rfl⟩
  · next given =>
      change KeyFor asked _ _
      rw [KeyFor, if_neg given]

private theorem request_answers (maxAttempts : Int) (asked : Request) :
    Kept db asked (Closes db asked) [] (Service.request maxAttempts asked) := by
  unfold Service.request
  split
  · refine (idempotencyKey_keyed asked).bind ?_
    intro events key keyed reply fit
    refine ⟨trivial, ?_⟩
    have still := keyFor_cons keyed ⟨.findByIdempotencyKey key, reply⟩
    cases reply with
    | ok existing => exact ⟨key, still, fit, _, List.mem_cons_self, rfl⟩
    | error failure =>
        change Kept db asked _ _ (if failure.is .operationNotFound = true then _ else _)
        split
        · intro reply found
          refine ⟨trivial, ?_⟩
          have after := keyFor_cons still ⟨.findServer (trimSpace asked.serverID), reply⟩
          cases reply with
          | error failure => trivial
          | ok server => exact checkServer_answers after maxAttempts found
        · trivial
  · trivial

end Audited

section Passed

variable {db : Database} {t : Nat} {state next : State} {choice : Choice}

/-- A replay before anything is checked is answered from the table. -/
theorem perform_keyed {key : GoString} {operation : Operation}
    (ran : perform db t (.findByIdempotencyKey key) choice state = some (.ok operation, next)) :
    ∃ row ∈ state.operations, db.same row.idempotencyKey key = true ∧ row.toOperation = operation := by
  cases choice with
  | database clock faults =>
      obtain ⟨⟨_, rows⟩, transacted, same⟩ := Option.map_eq_some_iff.mp ran
      cases same
      obtain ⟨found, _⟩ := findCommitted_alone transacted
      cases found with
      | found member matched => exact ⟨_, member, matched, rfl⟩
  | _ => cases ran

private theorem createQueued_fits {operation : Operation} {reply : Except GoError (Operation × Bool)}
    (ran : perform db t (.createQueued operation) choice state = some (reply, next)) :
    fits db ⟨.createQueued operation, reply⟩ := by
  cases choice with
  | database clock faults =>
      obtain ⟨⟨_, rows⟩, transacted, same⟩ := Option.map_eq_some_iff.mp ran
      cases same
      cases createQueued_alone transacted with
      | created => rfl
      | existing member => exact createQueued_rekeyed transacted _ rfl
      | failed => trivial
  | _ => cases ran

private theorem findServer_fits {id : GoString} {reply : Except GoError Inventory.Server}
    (ran : perform db t (.findServer id) choice state = some (reply, next)) :
    fits db ⟨.findServer id, reply⟩ := by
  cases reply with
  | error failure => trivial
  | ok server =>
      cases choice with
      | database clock faults =>
          simp only [perform, onTable, Inventory.findByID] at ran
          split at ran
          · cases ran
          · split at ran
            · next row located =>
                cases ran
                have matched := List.find?_some located
                simp only [Bool.and_eq_true] at matched
                exact matched.1.1
            · cases ran
      | _ => cases ran

theorem panel_passes (db : Database) (maxAttempts : Int) :
    (audit db).Passed (panel db maxAttempts) (fun _ => True) where
  fitting t call choice state reply next ran := by
    cases call with
    | findByIdempotencyKey key =>
        cases reply with
        | error failure => trivial
        | ok operation =>
            obtain ⟨row, _, matched, rfl⟩ := perform_keyed ran
            exact matched
    | createQueued operation => exact createQueued_fits ran
    | findServer id => exact findServer_fits ran
    | _ => trivial
  audited activity _ := by
    cases activity with
    | request asked => exact (request_answers maxAttempts asked).bind fun _ _ closes => closes
    | enqueueConnectionSync id => exact fun _ _ => ⟨rfl, fun _ _ => ⟨rfl, fun _ _ => ⟨rfl, trivial⟩⟩⟩
    | _ => exact Program.Audited.free _ (fun _ _ => trivial) fun _ _ => trivial

end Passed

end Keys

/-! ## What has been created -/

/-- The columns of an operation that nothing changes once it is created. -/
structure Identity where
  id : GoString
  serverID : GoString
  action : Action
  idempotencyKey : GoString
  deriving DecidableEq

def identity (operation : Operation) : Identity :=
  ⟨operation.id, operation.serverID, operation.action, operation.idempotencyKey⟩

/-- The operations created so far, oldest first. -/
def creations (history : List (Nat × PanelEvent)) : List Operation :=
  history.reverse.filterMap fun entry => createdBy entry.2

theorem creations_cons (t : Nat) (event : PanelEvent) (history : List (Nat × PanelEvent)) :
    creations ((t, event) :: history) = creations history ++ (createdBy event).toList := by
  rw [creations, List.reverse_cons, List.filterMap_append]
  cases made : createdBy event with
  | none => simp [creations, made]
  | some operation => simp [creations, made]

theorem mem_creations {history : List (Nat × PanelEvent)} {operation : Operation} :
    operation ∈ creations history ↔ ∃ entry ∈ history, createdBy entry.2 = some operation := by
  simp only [creations, List.mem_filterMap, List.mem_reverse]

private theorem rewriteTable_identity (db : Database) {row : Operations.Row}
    {rows : List Operations.Row} (after : Operation) :
    (rewriteTable db row.id after rows).map (fun row => identity row.toOperation) =
      rows.map fun row => identity row.toOperation := by
  rw [rewriteTable, List.map_map]
  apply List.map_congr_left
  intro other _
  simp only [Function.comp_apply]
  split <;> rfl

/-- Without a restore the table only gains what is created. -/
theorem OperationsChange.identities {db : Database} {rows after : List Operations.Row}
    {event : PanelEvent} (changed : OperationsChange db rows event after)
    (unrestored : isRestore event = false) :
    after.map (fun row => identity row.toOperation) =
      rows.map (fun row => identity row.toOperation) ++ (createdBy event).toList.map identity := by
  cases changed with
  | kept quiet =>
      have uncreated : createdBy event = none := by
        unfold createdBy
        split
        · cases quiet
        · rfl
      rw [uncreated]
      simp
  | created operation =>
      rw [List.map_append]
      rfl
  | moved member matched valid =>
      rw [rewriteTable_identity]
      simp [createdBy]
  | restored archive => cases unrestored

/-- What the table holds and what requests were told, from what was created. -/
structure Catalogued (config : PanelConfig) : Prop where
  listed : config.state.operations.map (fun row => identity row.toOperation) =
    (creations config.history).map identity
  answers : ∀ entry ∈ config.history, ∀ operation, answered entry.2 = some operation →
    ∃ made ∈ creations config.history, identity made = identity operation

section Runs

variable {db : Database} {maxAttempts : Int} {config next : PanelConfig}

private theorem row_created (catalogued : Catalogued config) {row : Operations.Row}
    (member : row ∈ config.state.operations) :
    ∃ made ∈ creations config.history, identity made = identity row.toOperation := by
  have listed : identity row.toOperation ∈ (creations config.history).map identity := by
    rw [← catalogued.listed]
    exact List.mem_map_of_mem member
  exact List.mem_map.mp listed

/-- Whatever answers a request has been created, by this call or before it. -/
private theorem answered_created (catalogued : Catalogued config) {t : Nat} {call : Call}
    {choice : Choice} {reply : call.Reply} {state : State}
    (ran : perform db t call choice config.state = some (reply, state)) {operation : Operation}
    (answer : answered ⟨call, reply⟩ = some operation) :
    ∃ made ∈ creations ((t, ⟨call, reply⟩) :: config.history), identity made = identity operation := by
  rw [creations_cons]
  cases call with
  | findByIdempotencyKey key =>
      rcases reply with failure | found
      · cases answer
      · cases answer
        obtain ⟨row, member, _, rfl⟩ := Keys.perform_keyed ran
        obtain ⟨made, among, same⟩ := row_created catalogued member
        exact ⟨made, List.mem_append_left _ among, same⟩
  | createQueued asked =>
      rcases reply with failure | ⟨found, fresh⟩
      · cases answer
      · cases answer
        cases fresh with
        | false =>
            obtain ⟨row, member, rfl⟩ := perform_existing ran
            obtain ⟨made, among, same⟩ := row_created catalogued member
            exact ⟨made, List.mem_append_left _ among, same⟩
        | true => exact ⟨operation, List.mem_append_right _ List.mem_cons_self, rfl⟩
  | _ => cases answer

private theorem Catalogued.step (catalogued : Catalogued config) (ledger : Ledger db config)
    (disciplined : Disciplined (audit db) config) {label : PanelLabel}
    (transition : (panel db maxAttempts).Transition config label next) : Catalogued next := by
  cases transition with
  | spawned activity => exact ⟨catalogued.listed, catalogued.answers⟩
  | @performed t activity call continuation choice reply state found answered =>
      have changed := (perform_effect ledger.apart answered).operations
      have unrestored := ledger.unrestored disciplined found answered
      constructor
      · change state.operations.map _ = (creations ((t, ⟨call, reply⟩) :: config.history)).map identity
        rw [changed.identities unrestored, catalogued.listed, creations_cons, List.map_append]
      · intro entry member operation answer
        rcases List.mem_cons.mp member with rfl | former
        · exact answered_created catalogued answered answer
        · obtain ⟨made, among, same⟩ := catalogued.answers entry former operation answer
          refine ⟨made, ?_, same⟩
          change made ∈ creations ((t, ⟨call, reply⟩) :: config.history)
          rw [creations_cons]
          exact List.mem_append_left _ among
  | @external choice state acted =>
      have kept : state.operations = config.state.operations := by
        cases choice <;> cases acted <;> rfl
      exact ⟨(congrArg _ kept).trans catalogued.listed, catalogued.answers⟩
  | crashed => exact ⟨catalogued.listed, catalogued.answers⟩

/-- Two operations of one id or of one key were never both created. -/
private theorem creations_apart (catalogued : Catalogued config) (ledger : Ledger db config) :
    (creations config.history).Pairwise fun left right =>
      db.same left.id right.id = false ∧ db.same left.idempotencyKey right.idempotencyKey = false := by
  have rows : (config.state.operations.map fun row => identity row.toOperation).Pairwise
      fun left right => db.same left.id right.id = false ∧
        db.same left.idempotencyKey right.idempotencyKey = false := by
    rw [List.pairwise_map]
    refine ledger.apart.operations.imp ?_
    intro left right apart
    simp only [operationsEngine, Operations.engine, Operations.clash, Bool.or_eq_false_iff] at apart
    exact apart.1
  rw [catalogued.listed, List.pairwise_map] at rows
  exact rows

private theorem creations_unique (catalogued : Catalogued config) (ledger : Ledger db config)
    {first second : Operation} (left : first ∈ creations config.history)
    (right : second ∈ creations config.history)
    (same : db.same first.idempotencyKey second.idempotencyKey = true) : first = second := by
  by_contra different
  have symmetric : Std.Symm fun left right : Operation => db.same left.id right.id = false ∧
      db.same left.idempotencyKey right.idempotencyKey = false := by
    constructor
    intro left right apart
    rw [db.same_symm right.id, db.same_symm right.idempotencyKey]
    exact apart
  have apart := List.Pairwise.forall (creations_apart catalogued ledger) left right different
  rw [apart.2] at same
  cases same

/-- One thread creates the operation of an id. -/
private theorem creator_unique (catalogued : Catalogued config) (ledger : Ledger db config)
    {t u : Nat} {event other : PanelEvent} (left : (t, event) ∈ config.history)
    (right : (u, other) ∈ config.history) {first second : Operation}
    (made : createdBy event = some first) (remade : createdBy other = some second)
    (same : db.same first.id second.id = true) : t = u := by
  have apart := creations_apart catalogued ledger
  rw [creations, List.pairwise_filterMap, List.pairwise_reverse] at apart
  rcases member_order left right with equal | ⟨earlier, last, member⟩ | ⟨earlier, last, member⟩
  · exact congrArg Prod.fst equal
  · have clear := (List.pairwise_cons.mp (apart.sublist last.sublist)).1 _ member second remade first made
    rw [db.same_symm, clear.1] at same
    cases same
  · have clear := (List.pairwise_cons.mp (apart.sublist last.sublist)).1 _ member first made second remade
    rw [clear.1] at same
    cases same

end Runs

/-! ## What is enqueued -/

theorem pending_created {events : List PanelEvent} {id : GoString} (waiting : pending events = some id) :
    ∃ event ∈ events, ∃ operation, createdBy event = some operation ∧ operation.id = id := by
  induction events with
  | nil => cases waiting
  | cons event earlier ih =>
      simp only [pending] at waiting
      split at waiting
      · next operation made =>
          cases waiting
          exact ⟨event, List.mem_cons_self, operation, made, rfl⟩
      · split at waiting
        · cases waiting
        · obtain ⟨former, member, created⟩ := ih waiting
          exact ⟨former, List.mem_cons_of_mem _ member, created⟩

/-- Once a request has stored its job it has nothing left to enqueue. -/
theorem enqueued_once {db : Database} (asked : Request) {events : List PanelEvent}
    (obeys : Obeys (rule db (.request asked)) events)
    {event : PanelEvent} (member : event ∈ events) (stored : enqueues event = true) :
    pending events = none ∧ created events ≠ none := by
  induction events with
  | nil => cases member
  | cons latest earlier ih =>
      obtain ⟨⟨_, ruled⟩, before⟩ := obeys
      rcases List.mem_cons.mp member with rfl | former
      · unfold enqueues at stored
        split at stored
        · next queue id _ _ =>
            have waiting : pending earlier = some id := ruled
            obtain ⟨creation, among, operation, made, _⟩ := pending_created waiting
            refine ⟨rfl, ?_⟩
            intro uncreated
            rw [created_cons rfl] at uncreated
            rw [created, List.findSome?_eq_none_iff] at uncreated
            rw [uncreated creation among] at made
            cases made
        · cases stored
      · obtain ⟨ceased, done⟩ := ih before former
        have uncreating : createdBy latest = none := by
          unfold createdBy
          split
          · exact absurd ruled done
          · rfl
        rw [created_cons uncreating]
        refine ⟨?_, done⟩
        simp only [pending, uncreating, ceased]
        split <;> rfl

/-- Whether a call stored a job for the operation of an id. -/
def enqueuedFor (db : Database) (id : GoString) : Nat × PanelEvent → Bool
  | (_, ⟨.enqueuePowerOperation _ operationID, .ok _⟩) => db.same operationID id
  | _ => false

def Activity.enqueues : Activity → Bool
  | .enqueuePowerOperation _ => true
  | _ => false

/-- No restore is started, and jobs for power operations are left to the requests. -/
def Requesting (label : PanelLabel) : Prop :=
  ∀ activity, label = .spawned activity → activity.restores = false ∧ activity.enqueues = false

/-- What an invariant about idempotency keys may use of a reached configuration. -/
structure Keyed (db : Database) (config : PanelConfig) : Prop where
  ledger : Ledger db config
  disciplined : Disciplined (audit db) config
  identified : Disciplined (Keys.audit db) config
  catalogued : Catalogued config
  unaided : ∀ thread ∈ config.threads, thread.task.enqueues = false

section Jobs

variable {db : Database} {config : PanelConfig}

/-- A job is enqueued by the request that created its operation, its first. -/
private theorem Keyed.enqueuer (keyed : Keyed db config) {t : Nat} {queue : Jobs.Queue} {id : GoString}
    {earlier : List (Nat × PanelEvent)}
    (last : (t, ⟨.enqueuePowerOperation queue id, .ok ()⟩) :: earlier <:+ config.history) :
    (∀ event ∈ own t earlier, enqueues event = false) ∧
      ∃ event operation, (t, event) ∈ config.history ∧ createdBy event = some operation ∧
        operation.id = id := by
  obtain ⟨later, split⟩ := last
  obtain ⟨thread, found, ruled⟩ := keyed.disciplined.justified split.symm
  obtain ⟨same, located, silent⟩ := keyed.identified.justified split.symm
  rw [found] at located
  cases located
  have obeyed := keyed.disciplined.obeyed t thread found
  rw [← split, own_append, own_cons_self] at obeyed
  have before := obeyed.append.2
  have unaided := keyed.unaided thread (List.mem_of_getElem? found)
  obtain ⟨activity, rest⟩ := thread
  cases activity with
  | request asked =>
      have waiting : pending (own t earlier) = some id := ruled.2
      constructor
      · intro event member
        by_contra stored
        have ceased := enqueued_once asked before member (by simpa using stored)
        rw [ceased.1] at waiting
        cases waiting
      · obtain ⟨event, member, operation, made, same⟩ := pending_created waiting
        refine ⟨event, operation, ?_, made, same⟩
        rw [← split]
        exact List.mem_append_right _ (List.mem_cons_of_mem _ (mem_own.mp member))
  | runOnce worker => exact ruled.2.elim
  | enqueueConnectionSync id => cases silent
  | enqueuePowerOperation id => cases unaided
  | createBackup passphrase requestID sourceIP => exact ruled.elim
  | restoreBackup id passphrase requestID sourceIP => exact ruled.elim

/-- At most one job is ever enqueued for an operation. -/
private theorem Keyed.once (keyed : Keyed db config) (id : GoString) :
    config.history.countP (enqueuedFor db id) ≤ 1 := by
  apply countP_once
  rintro ⟨t, event⟩ earlier last stored ⟨u, other⟩ member
  by_contra again
  simp only [Bool.not_eq_false] at again
  unfold enqueuedFor at stored again
  split at stored
  · next thread queue named _ same =>
      cases same
      split at again
      · next thread_ former renamed _ same =>
          cases same
          obtain ⟨first, creation, operation, made, created_, sameID⟩ := keyed.enqueuer last
          obtain ⟨before, suffix⟩ := List.append_of_mem member
          obtain ⟨past, rfl⟩ := suffix
          have further : (u, (⟨.enqueuePowerOperation former renamed, .ok ()⟩ : PanelEvent)) :: past <:+
              config.history := by
            refine List.IsSuffix.trans ?_ last
            exact (List.suffix_append before _).trans (List.suffix_cons _ _)
          obtain ⟨_, recreation, rival, remade, recreated, sameRival⟩ := keyed.enqueuer further
          have samePower : db.same operation.id rival.id = true := by
            rw [sameID, sameRival]
            refine db.same_trans stored ?_
            rw [db.same_symm]
            exact again
          have one : t = u :=
            creator_unique keyed.catalogued keyed.ledger made remade created_ recreated samePower
          subst one
          have silent := first _ (mem_own.mpr member)
          cases silent
      · cases again
  · cases stored

end Jobs

/-! ## The law of idempotency keys -/

/-- Thread `t` asked for a power operation and was returned one without an error. -/
def Returns (config : PanelConfig) (t : Nat) (asked : Request) (operation : Operation)
    (fresh : Bool) : Prop :=
  ∃ thread, config.threads[t]? = some thread ∧ thread.task = .request asked ∧
    thread.outcome = some (.requested (.ok (operation, fresh)))

/-- Thread `t` created the operation for its own request, the key, the server
and the action are those that it asked for. -/
structure CreatedFor (db : Database) (config : PanelConfig) (t : Nat) (asked : Request)
    (operation : Operation) : Prop where
  request : config.task t = some (.request asked)
  made : ∃ event creation, (t, event) ∈ config.history ∧ createdBy event = some creation ∧
    identity creation = identity operation
  keyed : KeyFor asked (own t config.history) operation.idempotencyKey
  action : operation.action = asked.action
  server : db.same operation.serverID (trimSpace asked.serverID) = true

/-- A key stands for the operation that the first request with it created. -/
structure Bound (db : Database) (config : PanelConfig) : Prop where
  found : ∀ t asked operation fresh, Returns config t asked operation fresh →
    ∃ key, KeyFor asked (own t config.history) key ∧ db.same operation.idempotencyKey key = true ∧
      ∃ creator origin, CreatedFor db config creator origin operation
  agreed : ∀ t u asked other operation rival fresh renewed, Returns config t asked operation fresh →
    Returns config u other rival renewed → trimSpace asked.idempotencyKey ≠ [] →
    trimSpace other.idempotencyKey ≠ [] →
    db.same (trimSpace asked.idempotencyKey) (trimSpace other.idempotencyKey) = true →
    identity operation = identity rival
  once : ∀ id, config.history.countP (enqueuedFor db id) ≤ 1
  queued : ∀ t asked operation, Returns config t asked operation true →
    config.history.countP (enqueuedFor db operation.id) = 1
  unqueued : ∀ t asked operation, CreatedFor db config t asked operation →
    (∀ event ∈ own t config.history, enqueues event = false) →
    config.history.countP (enqueuedFor db operation.id) = 0

section Law

variable {db : Database} {config : PanelConfig} {t : Nat} {asked : Request} {operation : Operation}
  {fresh : Bool}

private theorem Keyed.answers (keyed : Keyed db config) (returns : Returns config t asked operation fresh) :
    Keys.Answers db asked operation (own t config.history) := by
  obtain ⟨⟨task, rest⟩, located, rfl, result⟩ := returns
  exact keyed.identified.closed located result

/-- The request behind a creation. -/
private theorem Keyed.creator (keyed : Keyed db config) {event : PanelEvent} {creation : Operation}
    (member : (t, event) ∈ config.history) (made : createdBy event = some creation)
    (same : identity creation = identity operation) : ∃ origin, CreatedFor db config t origin operation := by
  obtain ⟨later, earlier, split⟩ := List.append_of_mem member
  obtain ⟨thread, found, ruled⟩ := keyed.disciplined.justified split
  obtain ⟨_, located, requested⟩ := keyed.identified.justified split
  rw [found] at located
  cases located
  obtain ⟨activity, rest⟩ := thread
  have known : config.task t = some activity := by
    rw [Config.task, found]
    rfl
  obtain ⟨call, reply⟩ := event
  cases call with
  | createQueued asking =>
      rcases reply with failure | ⟨result, _ | _⟩
      · cases made
      · cases made
      cases made
      cases activity with
      | request origin =>
          obtain ⟨fit, keyed_, action, server⟩ := requested
          have made : creation = { asking with status := .queued } := fit
          have identified : identity asking = identity operation := by
            rw [← same, made]
            rfl
          simp only [identity, Identity.mk.injEq] at identified
          obtain ⟨_, sameServer, sameAction, sameKey⟩ := identified
          refine ⟨origin, known, ⟨_, _, member, rfl, same⟩, ?_, ?_, ?_⟩
          · rw [← sameKey, split, own_append, own_cons_self, List.append_cons]
            exact KeyFor.append keyed_ _
          · rw [← sameAction]
            exact action
          · rw [← sameServer]
            exact server
      | runOnce worker => exact ruled.2.elim
      | enqueueConnectionSync id => exact ruled.elim
      | enqueuePowerOperation id => exact ruled.elim
      | createBackup passphrase requestID sourceIP => exact ruled.elim
      | restoreBackup id passphrase requestID sourceIP => exact ruled.elim
  | _ => cases made

private theorem Keyed.found (keyed : Keyed db config) (returns : Returns config t asked operation fresh) :
    ∃ made ∈ creations config.history, identity made = identity operation := by
  obtain ⟨key, _, _, event, member, answer⟩ := keyed.answers returns
  exact keyed.catalogued.answers (t, event) (mem_own.mp member) operation answer

private theorem Keyed.given (keyed : Keyed db config) (returns : Returns config t asked operation fresh)
    (given : trimSpace asked.idempotencyKey ≠ []) :
    db.same operation.idempotencyKey (trimSpace asked.idempotencyKey) = true := by
  obtain ⟨key, keyFor, same, _⟩ := keyed.answers returns
  rw [KeyFor, if_neg given] at keyFor
  exact keyFor ▸ same

/-- A job for an operation is stored by the thread that created it, or by none. -/
private theorem Keyed.unqueued (keyed : Keyed db config) (made : CreatedFor db config t asked operation)
    (silent : ∀ event ∈ own t config.history, enqueues event = false) :
    config.history.countP (enqueuedFor db operation.id) = 0 := by
  rw [List.countP_eq_zero]
  rintro ⟨u, event⟩ member stored
  unfold enqueuedFor at stored
  split at stored
  · next thread queue id _ same =>
      cases same
      obtain ⟨later, earlier, split⟩ := List.append_of_mem member
      have last : (u, (⟨.enqueuePowerOperation queue id, .ok ()⟩ : PanelEvent)) :: earlier <:+ config.history := by
        rw [split]
        exact List.suffix_append _ _
      obtain ⟨_, creation, rival, among, created_, sameID⟩ := keyed.enqueuer last
      obtain ⟨origin, first, among_, createdFirst, identified⟩ := made.made
      have ids : first.id = operation.id := congrArg Identity.id identified
      have one : t = u := by
        refine creator_unique keyed.catalogued keyed.ledger among_ among createdFirst created_ ?_
        rw [ids, sameID, db.same_symm]
        exact stored
      subst one
      have enqueuing := silent _ (mem_own.mpr member)
      cases enqueuing
  · cases stored

theorem Keyed.bound (keyed : Keyed db config) : Bound db config := by
  constructor
  · intro t asked operation fresh returns
    obtain ⟨key, keyFor, same, _⟩ := keyed.answers returns
    obtain ⟨made, among, identified⟩ := keyed.found returns
    obtain ⟨⟨creator, event⟩, member, created_⟩ := mem_creations.mp among
    exact ⟨key, keyFor, same, creator, keyed.creator member created_ identified⟩
  · intro t u asked other operation rival fresh renewed returns returns_ given given_ same
    obtain ⟨made, among, identified⟩ := keyed.found returns
    obtain ⟨remade, among_, identified_⟩ := keyed.found returns_
    have sameKey : made.idempotencyKey = operation.idempotencyKey := congrArg Identity.idempotencyKey identified
    have sameRival : remade.idempotencyKey = rival.idempotencyKey := congrArg Identity.idempotencyKey identified_
    have one : made = remade := by
      refine creations_unique keyed.catalogued keyed.ledger among among_ ?_
      rw [sameKey, sameRival]
      refine db.same_trans (keyed.given returns given) (db.same_trans same ?_)
      rw [db.same_symm]
      exact keyed.given returns_ given_
    rw [← identified, ← identified_, one]
  · exact keyed.once
  · intro t asked operation returns
    obtain ⟨⟨task, rest⟩, located, rfl, result⟩ := returns
    obtain ⟨_, announced, _⟩ := keyed.disciplined.closed located result
    obtain ⟨queue, stored⟩ := announced.queued
    have some_ : 0 < config.history.countP (enqueuedFor db operation.id) := by
      rw [List.countP_pos_iff]
      exact ⟨_, mem_own.mp stored, db.same_refl _⟩
    have once := keyed.once operation.id
    omega
  · exact fun t asked operation made silent => keyed.unqueued made silent

variable {maxAttempts : Int} {servers : List Inventory.Row} {backups : List (Backup.File Archive)}
  {meets : PanelConfig → PanelLabel → Prop}

theorem PanelRun.catalogued (run : PanelRun db maxAttempts servers backups meets config)
    (restoreless : ∀ before label, meets before label → Restoreless label) : Catalogued config := by
  refine System.Run.invariant run ⟨rfl, fun entry impossible => by cases impossible⟩ ?_
  intro before label after reached transition met catalogued
  have former : PanelRun db maxAttempts servers backups meets before := reached
  exact catalogued.step (former.ledger restoreless) former.disciplined transition

theorem keys_bind (run : PanelRun db maxAttempts servers backups meets config)
    (requesting : ∀ before label, meets before label → Requesting label) : Bound db config := by
  have restoreless : ∀ before label, meets before label → Restoreless label :=
    fun before label met activity spawned => (requesting before label met activity spawned).1
  have keyed : Keyed db config := by
    constructor
    · exact run.ledger restoreless
    · exact run.disciplined
    · exact Disciplined.run (Keys.panel_passes db maxAttempts) run fun _ _ _ => trivial
    · exact run.catalogued restoreless
    · refine System.Run.tasks (fun activity => activity.enqueues = false) run ?_
      intro before activity met
      exact (requesting before _ met activity rfl).2
  exact keyed.bound

end Law

def requestingTest : PanelLabel → Bool
  | .spawned activity => !activity.restores && !activity.enqueues
  | _ => true

theorem requestingTest_sound {label : PanelLabel} (passed : requestingTest label = true) :
    Requesting label := by
  intro activity spawned
  subst spawned
  simpa [requestingTest] using passed

/-- What a thread returned: the operation's id, server and action, and whether it is new. -/
def summary (config : PanelConfig) (t : Nat) : Option (Identity × Bool) :=
  match config.threads[t]?.bind Thread.outcome with
  | some (.requested (.ok (operation, fresh))) => some (identity operation, fresh)
  | _ => none

/-- Two requests whose keys differ by blanks and letter case. -/
def replaySchedule (second : Request) : Schedule :=
  [.spawn (.request ⟨text "server", .start, text " key ", [], []⟩)] ++
  answers 0 (creating ++ enqueueing ++ announcing) ++
  [.spawn (.request second)] ++ answers 1 [stored]

theorem keys_bind_replayed : ∃ config,
    (panel Database.caseless 3).outcome requestingTest
      (replaySchedule ⟨text "server", .start, text "KEY", [], []⟩)
      (Config.initial (emptyState [machine .stopped] [])) = some config ∧
    summary config 1 = some (⟨text "operation", text "server", .start, text "key"⟩, false) ∧
    Bound Database.caseless config := by
  have carried : (((panel Database.caseless 3).outcome requestingTest
      (replaySchedule ⟨text "server", .start, text "KEY", [], []⟩)
      (Config.initial (emptyState [machine .stopped] []))).map fun config => summary config 1) =
      some (some (⟨text "operation", text "server", .start, text "key"⟩, false)) := by decide
  obtain ⟨config, reached, replayed⟩ := Option.map_eq_some_iff.mp carried
  have run : PanelRun Database.caseless 3 [machine .stopped] [] (fun _ label => Requesting label) config :=
    System.outcome_run reached fun _ _ passed => requestingTest_sound passed
  exact ⟨config, reached, replayed, keys_bind run fun _ _ met => met⟩

/-- The job of the first request is not stored, the second request is answered
with the operation that failed. -/
def unqueuedSchedule : Schedule :=
  [.spawn (.request (asking .start))] ++
  answers 0 (creating ++ [.instant 1, .identifier (text "job"), refused, stored]) ++
  [.spawn (.request (asking .start))] ++ answers 1 [stored]

/-- A replay may ask for another action on another server, and no job needs to
have been stored for the operation that it returns. -/
theorem replay_answers_another_request :
    (((panel (Database.plain .sqlite) 3).outcome requestingTest
      (replaySchedule ⟨text "other", .reboot, text "key", [], []⟩)
      (Config.initial (emptyState [machine .stopped] []))).map fun config => summary config 1) =
      some (some (⟨text "operation", text "server", .start, text "key"⟩, false)) ∧
    (((panel (Database.plain .sqlite) 3).outcome requestingTest unqueuedSchedule
      (Config.initial (emptyState [machine .stopped] []))).map fun config =>
        (summary config 1, config.history.countP
          (enqueuedFor (Database.plain .sqlite) (text "operation")))) =
      some (some (⟨text "operation", text "server", .start, text "key"⟩, false), 0) := by
  constructor <;> decide

end NodeAtlas.Power
