import NodeAtlas.Console.Tickets
import NodeAtlas.Interleaving.Sequential

/-! How long the target of a console stays in memory. -/

set_option autoImplicit false

namespace NodeAtlas.Console

open Interleaving Providers

/-- Calls that neither put a target nor delete one. -/
def Call.aside : Call → Bool
  | .put _ _ | .delete _ => false
  | _ => true

abbrev Aside {α : Type} (program : Process α) : Prop := program.Only fun call => call.aside = true

/-- A target is put right behind the INSERT of its session, and deleted right
behind an audit entry that failed. -/
def Removal (earlier : List ConsoleEvent) (event : ConsoleEvent) : Prop :=
  match event.call with
  | .put id _ => ∃ session, earlier.head? = some ⟨.createSession session, .ok ()⟩ ∧ session.id = id
  | .delete id => (∃ target, (⟨.put id target, ()⟩ : ConsoleEvent) ∈ earlier) ∧
      ∃ entry failure, earlier.head? = some ⟨.append entry, .error failure⟩
  | _ => True

section Programs

variable {panel : Panel}

private theorem aside_done {α : Type} (result : α) : Aside (pure result : Process α) := trivial

private theorem aside_call (request : Call) (aside : request.aside = true) : Aside (call request) :=
  ⟨aside, fun _ => trivial⟩

private theorem removal_aside (earlier : List ConsoleEvent) (request : Call) (reply : request.Reply)
    (aside : request.aside = true) : Removal earlier ⟨request, reply⟩ := by
  cases request <;> trivial

private theorem resolveAllowed_aside (library : NetLibrary) (policy : TargetPolicy) (host : GoString) :
    Aside (policy.resolveAllowed library host) := by
  apply Program.Only.bind
  · unfold TargetPolicy.lookUp
    split
    · exact aside_done _
    · exact aside_call _ rfl
  · intro result
    split
    · exact aside_done _
    · split
      · exact aside_done _
      · split <;> exact aside_done _

private theorem validateEmbedded_aside (library : NetLibrary) (policy : TargetPolicy) (target : URL) :
    Aside (policy.validateEmbedded library target) := by
  have network : Aside (policy.validateNetworkTarget library target) := by
    unfold TargetPolicy.validateNetworkTarget
    split
    · exact aside_done _
    · apply (resolveAllowed_aside _ _ _).bind
      intro result
      split <;> exact aside_done _
  unfold TargetPolicy.validateEmbedded
  split
  · split
    · exact aside_done _
    · exact network
  · split
    · exact aside_done _
    · split
      · exact aside_done _
      · exact network

private theorem dialAllowed_aside (library : NetLibrary) (policy : TargetPolicy) (host port : GoString) :
    Aside (policy.dialAllowed library host port) := by
  have each : ∀ addresses, Aside (TargetPolicy.dialEach port addresses) := by
    intro addresses
    induction addresses with
    | nil => exact aside_done _
    | cons address rest ih =>
        apply (aside_call .expired rfl).bind
        intro expired
        split
        · exact aside_done _
        · apply (aside_call (.dial _ _) rfl).bind
          intro result
          split
          · exact aside_done _
          · exact ih
  apply (aside_call (.dialAllowed host port) rfl).bind
  intro _
  apply (resolveAllowed_aside _ _ _).bind
  intro result
  split
  · exact aside_done _
  · exact each _

private theorem dialAll_aside (library : NetLibrary) (policy : TargetPolicy) (client : WebSocketClient)
    (wanted : List (GoString × GoString)) : Aside (policy.dialAll library client wanted) := by
  induction wanted with
  | nil => exact aside_done _
  | cons first rest ih =>
      apply Program.Only.bind _ fun _ => ih
      unfold TargetPolicy.dialContext
      split
      · exact aside_done _
      · split
        · exact aside_done _
        · exact dialAllowed_aside _ _ _ _

private theorem proxy_aside (target : URL) : Aside (panel.proxy target) := by
  apply (aside_call (.proxy target) rfl).bind
  intro _
  split
  · unfold Panel.runRawVNC TargetPolicy.dialTCP
    split
    · exact aside_done _
    · apply (dialAllowed_aside _ _ _ _).bind
      intro result
      split
      · exact aside_done _
      · exact aside_call .relay rfl
  · split
    · exact aside_call .relay rfl
    · unfold Panel.runWebSocket
      apply Program.Only.bind
      · unfold TargetPolicy.webSocketClient
        split
        · exact aside_done _
        · apply (validateEmbedded_aside _ _ _).bind
          intro result
          split
          · exact aside_done _
          · dsimp only
            split
            · split <;> exact aside_done _
            · split <;> exact aside_done _
      · intro result
        split
        · exact aside_done _
        · apply (aside_call (.connections target) rfl).bind
          intro wanted
          apply (dialAll_aside _ _ _ _).bind
          intro _
          apply (aside_call .handshake rfl).bind
          intro result
          split
          · exact aside_done _
          · exact aside_call .relay rfl

private theorem appendAudit_aside (targetID eventType requestID sourceIP : GoString) (metadata : JSONMap) :
    Aside (appendAudit targetID eventType requestID sourceIP metadata) := by
  apply (aside_call .newAuditID rfl).bind
  intro id
  apply (aside_call .now rfl).bind
  intro now
  exact aside_call (.append _) rfl

private theorem open_aside (ticket : GoString) : Aside (panel.open_ ticket) := by
  apply (aside_call .now rfl).bind
  intro openedAt
  apply Program.Only.bind
  · unfold consumeTicket
    apply (aside_call (.findSession _) rfl).bind
    intro found
    split
    · exact aside_done _
    · split
      · exact aside_done _
      · apply (aside_call (.openSession _ _) rfl).bind
        intro affected
        split
        · exact aside_done _
        · split <;> exact aside_done _
  · intro result
    split
    · exact aside_done _
    · next session =>
        apply (aside_call (.take session.id) rfl).bind
        intro target
        split
        · apply (aside_call .now rfl).bind
          intro closedAt
          apply (aside_call (.closeSession _ _ _) rfl).bind
          intro _
          exact aside_done _
        · apply (aside_call .accept rfl).bind
          intro accepted
          split
          · apply (aside_call .now rfl).bind
            intro closedAt
            apply (aside_call (.closeSession _ _ _) rfl).bind
            intro _
            exact aside_done _
          · apply Program.Only.bind _ fun _ => aside_done _
            apply (proxy_aside _).bind
            intro result
            apply (aside_call .now rfl).bind
            intro closedAt
            apply (aside_call (.closeSession _ _ _) rfl).bind
            intro _
            apply (appendAudit_aside _ _ _ _ _).bind
            intro _
            exact aside_done _

private theorem issue_removes {server : Inventory.Server} {target : ConsoleTarget} {url : URL}
    {requestID sourceIP : GoString} (earlier : List ConsoleEvent) :
    (panel.issue server target url requestID sourceIP).Audited (fun _ => True) Removal (fun _ _ => True) earlier := by
  intro now _
  refine ⟨trivial, ?_⟩
  intro ticket _
  refine ⟨trivial, ?_⟩
  intro id _
  refine ⟨trivial, ?_⟩
  intro created _
  refine ⟨trivial, ?_⟩
  cases created with
  | error failure => trivial
  | ok =>
      intro put _
      refine ⟨⟨_, rfl, rfl⟩, ?_⟩
      intro auditID _
      refine ⟨trivial, ?_⟩
      intro at_ _
      refine ⟨trivial, ?_⟩
      intro appended _
      refine ⟨trivial, ?_⟩
      cases appended with
      | ok => trivial
      | error failure =>
          intro deleted _
          refine ⟨⟨⟨url, by simp⟩, _, failure, rfl⟩, ?_⟩
          intro closed _
          exact ⟨trivial, trivial⟩

private theorem createEmbedded_removes (serverID requestID sourceIP : GoString) :
    (panel.createEmbedded serverID requestID sourceIP).Audited (fun _ => True) Removal (fun _ _ => True) [] := by
  have silent : ∀ {α : Type} {program : Process α} {earlier : List ConsoleEvent}, Aside program →
      program.Audited (fun _ => True) Removal (fun _ _ => True) earlier :=
    fun aside => aside.audited removal_aside fun _ _ => trivial
  have looked : Aside (serverCapabilities serverID) := by
    apply (aside_call (.findServer serverID) rfl).bind
    intro found
    split
    · exact aside_done _
    · split <;> exact aside_done _
  have opened : ∀ connectionID, Aside (openProvider connectionID) := by
    intro connectionID
    apply (aside_call (.findConnection connectionID) rfl).bind
    intro found
    split
    · exact aside_done _
    · apply (aside_call (.decrypt _) rfl).bind
      intro plaintext
      split
      · exact aside_done _
      · apply (aside_call (.createProvider _) rfl).bind
        intro created
        split <;> exact aside_done _
  apply Program.Audited.bind (silent looked)
  intro events result _
  split
  · exact silent (aside_done _)
  · split
    · exact silent (aside_done _)
    · apply Program.Audited.bind (silent (opened _))
      intro events result _
      split
      · exact silent (aside_done _)
      · apply Program.Audited.bind (silent (aside_call (.openConsole _ _) rfl))
        intro events result _
        split
        · exact silent (aside_done _)
        · split
          · exact silent (aside_done _)
          · split
            · exact silent (aside_done _)
            · apply Program.Audited.bind (silent (validateEmbedded_aside _ _ _))
              intro events result _
              split
              · exact silent (aside_done _)
              · exact issue_removes events

end Programs

def removals : Audit Call Call.Reply Task Unit where
  fits _ := True
  rule _ := Removal
  closing _ _ _ := True

private theorem panel_removes (panel : Panel) (db : Database) :
    removals.Passed (panel.system db) fun _ => True where
  fitting _ _ _ _ _ _ _ := trivial
  audited task _ := by
    have silent : ∀ {program : Process Unit}, Aside program →
        program.Audited (fun _ => True) Removal (fun _ _ => True) [] :=
      fun aside => aside.audited removal_aside fun _ _ => trivial
    cases task with
    | createEmbedded serverID requestID sourceIP =>
        exact Program.Audited.bind (createEmbedded_removes _ _ _) fun _ _ _ => trivial
    | open_ ticket => exact silent ((open_aside ticket).bind fun _ => aside_done _)
    | close id result =>
        apply silent
        apply (aside_call .now rfl).bind
        intro closedAt
        exact (aside_call (.closeSession id result closedAt) rfl).bind fun _ => aside_done _
    | backup => exact silent ((aside_call .backup rfl).bind fun _ => aside_done _)
    | restore archive => exact silent ((aside_call (.restore archive) rfl).bind fun _ => aside_done _)

/-! ## The store over a run -/

/-- The request presents a ticket, and its UPDATE found the row of the session of
that ticket: neither opened nor closed, and not expired at the handshake. -/
structure Opens (db : Database) (config : ConsoleConfig) (t : Nat) (id : GoString) (openedAt : Instant)
    (creation row : Session) : Prop where
  handshake : (own t config.history).getLast? = some ⟨.now, openedAt⟩
  created : Created db config.history creation row
  sameID : creation.id = id
  ofTicket : ∃ ticket, presents config ticket t = true ∧ creation.ticketHash = sha256 ticket
  early : openedAt < row.expiresAt
  unopened : row.openedAt = none
  unclosed : row.closedAt = none

/-- What takes the target of a session away: a restart, a request that opens the
session, or its own creation, whose audit entry failed. -/
inductive Ends (db : Database) (config : ConsoleConfig) (id : GoString) : ConsoleLabel → Prop where
  | restarted : Ends db config id .crashed
  | opened {t : Nat} {target : URL} {openedAt : Instant} {creation row : Session}
      (opens : Opens db config t id openedAt creation row) :
      Ends db config id (.performed t ⟨.take id, some target⟩)
  | unaudited {t : Nat} {target : URL} {entry : AuditLog.Entry} {failure : GoError}
      (put : (t, ⟨.put id target, ()⟩) ∈ config.history)
      (failed : (own t config.history).head? = some ⟨.append entry, .error failure⟩) :
      Ends db config id (.performed t ⟨.delete id, ()⟩)

/-- A target waits for a session that `CreateEmbedded` has stored, and no request
has taken it. -/
def Waiting (config : ConsoleConfig) (id : GoString) (target : URL) : Prop :=
  (∃ t serverID requestID sourceIP session, config.task t = some (.createEmbedded serverID requestID sourceIP) ∧
    (t, ⟨.createSession session, .ok ()⟩) ∈ config.history ∧ session.id = id ∧
    (t, ⟨.put id target, ()⟩) ∈ config.history) ∧
  ∀ u other, (u, ⟨.take id, some other⟩) ∉ config.history

section Runs

variable {panel : Panel} {db : Database} {start : State} {config next : ConsoleConfig}

private theorem panel_removals {meets : ConsoleConfig → ConsoleLabel → Prop}
    (run : (panel.system db).Run meets (Config.initial start) config) : Disciplined removals config :=
  Disciplined.run (panel_removes panel db) run fun _ _ _ => trivial

/-- A target that waits before a call waits after it, but for three calls. -/
private theorem perform_waits {before after : State} {choice : Choice} {request : Call} {reply : request.Reply}
    (answered : perform db request choice before = some (reply, after)) {id : GoString} {target : URL}
    (waiting : before.targets id = some target) :
    after.targets id = some target ∨ (∃ other, request = .put id other) ∨
      (⟨request, reply⟩ : ConsoleEvent) = ⟨.take id, some target⟩ ∨ (⟨request, reply⟩ : ConsoleEvent) = ⟨.delete id, ()⟩ := by
  by_cases foreign : request.foreign = true
  · rw [perform_foreign foreign answered]
    exact .inl waiting
  · cases request
    case put other url =>
      cases answered
      by_cases same : id = other
      · exact .inr (.inl ⟨url, by rw [same]⟩)
      · exact .inl (by simp [same, waiting])
    case take other =>
      cases answered
      by_cases same : id = other
      · subst same
        rw [waiting]
        exact .inr (.inr (.inl rfl))
      · exact .inl (by simp [same, waiting])
    case delete other =>
      cases answered
      by_cases same : id = other
      · subst same
        exact .inr (.inr (.inr rfl))
      · exact .inl (by simp [same, waiting])
    all_goals first | exact absurd rfl foreign | skip
    all_goals
      cases choice with
      | reply replies => cases answered
      | statement outcome =>
          left
          rw [after_targets ?_ answered]
          · exact waiting
          · first | rfl | split <;> rfl

theorem store_waits (empty : ∀ id, start.targets id = none)
    (run : (panel.system db).Run (fun config label => fresh db start config label = true)
      (Config.initial start) config) {id : GoString} {target : URL}
    (waiting : config.state.targets id = some target) : Waiting config id target := by
  have disciplined := panel_disciplined run
  have lawful := panel_lawful empty run
  have stored := (panel_supplied empty run).waiting id target waiting
  obtain ⟨t, put⟩ := stored
  obtain ⟨thread, earlier, found, last, session, created, same⟩ :=
    (panel_removals run).traced (List.suffix_refl _) put
  obtain ⟨owner, _, alsoFound, _, _, _, backed⟩ := disciplined.traced (List.suffix_refl _) put
  cases found.symm.trans alsoFound
  obtain ⟨serverID, requestID, sourceIP, _, _, task, _⟩ := backed
  constructor
  · refine ⟨t, serverID, requestID, sourceIP, session, by simp [Config.task, found, task], ?_, same, put⟩
    exact ((List.suffix_cons _ _).trans last).subset (mem_own.mp (List.mem_of_mem_head? created))
  · intro u other taken
    rw [lawful.spent u id other taken] at waiting
    cases waiting

/-- One step takes a target away only as `Ends` says, and never replaces it. -/
theorem store_step (empty : ∀ id, start.targets id = none)
    (run : (panel.system db).Run (fun config label => fresh db start config label = true)
      (Config.initial start) config) {label : ConsoleLabel}
    (transition : (panel.system db).Transition config label next) {id : GoString} {target : URL}
    (waiting : config.state.targets id = some target) :
    next.state.targets id = some target ∨ Ends db config id label := by
  have disciplined := panel_disciplined run
  have lawful := panel_lawful empty run
  obtain ⟨u, put⟩ := (panel_supplied empty run).waiting id target waiting
  have generated := put_issued disciplined (List.suffix_refl _) put
  cases transition with
  | spawned task => exact .inl waiting
  | external acted => cases acted
  | crashed => exact .inr .restarted
  | performed found answered =>
      next t task request continuation choice reply state =>
      have ruled := (disciplined.ahead t _ _ found rfl reply trivial).1
      have removed := ((panel_removals run).ahead t _ _ found rfl reply trivial).1
      rcases perform_waits answered waiting with kept | ⟨other, same⟩ | same | same
      · exact .inl kept
      · -- its thread would have generated the id too, and a thread puts but once
        subst same
        obtain ⟨once, again, _⟩ := ruled
        have owner : t = u := id_owner lawful.recorded (mem_own.mp again) generated (db.same_refl id)
        subst owner
        cases once _ (mem_own.mpr put)
      · cases same
        obtain ⟨_, ticket, openedAt, session, row, presented, consumed, same⟩ := ruled
        rw [same] at generated
        obtain ⟨creation, sameID, ofTicket, created, early, unopened, unclosed⟩ :=
          lawful.consumed disciplined (List.suffix_refl _) consumed generated
        have opens : Opens db config t id openedAt creation row :=
          ⟨consumed.handshake, created, by rw [same, sameID],
            ⟨ticket, by simpa [presents, found] using presented, ofTicket⟩, early, unopened, unclosed⟩
        exact .inr (.opened opens)
      · cases same
        obtain ⟨⟨other, putHere⟩, entry, failure, last⟩ := removed
        exact .inr (.unaudited (mem_own.mp putHere) last)

/-- The process goes on, and the time of a ticket is over. -/
def Afterwards (db : Database) (start : State) (expiresAt : Instant) (config : ConsoleConfig)
    (label : ConsoleLabel) : Prop :=
  fresh db start config label = true ∧ label ≠ .crashed ∧
    ∀ t value, label = .performed t ⟨.now, value⟩ → expiresAt ≤ value

/-- What holds after a moment when nothing went on and a ticket had run out. -/
structure Leftover (earlier : ConsoleConfig) (expiresAt : Instant) (id : GoString) (target : URL)
    (config : ConsoleConfig) : Prop where
  waiting : config.state.targets id = some target
  more : earlier.threads.length ≤ config.threads.length
  idle : ∀ t thread, t < earlier.threads.length → config.threads[t]? = some thread → thread.active = false
  visible : ∀ entry ∈ earlier.history, entry ∈ config.history
  late : ∀ t value, earlier.threads.length ≤ t → (t, ⟨.now, value⟩) ∈ config.history → expiresAt ≤ value

theorem leftover_stays (empty : ∀ id, start.targets id = none) {earlier : ConsoleConfig}
    (reached : (panel.system db).Run (fun config label => fresh db start config label = true)
      (Config.initial start) earlier) (quiescent : earlier.quiescent = true) {id : GoString} {target : URL}
    (waiting : earlier.state.targets id = some target) {u : Nat} {session : Session} {answer : Except GoError Unit}
    (created : (u, ⟨.createSession session, answer⟩) ∈ earlier.history) (sameID : session.id = id)
    (run : (panel.system db).Run (Afterwards db start (db.stamp session.expiresAt)) earlier config) :
    Leftover earlier (db.stamp session.expiresAt) id target config := by
  have beforehand := panel_disciplined reached
  have former : ∀ {t : Nat} {event : ConsoleEvent}, (t, event) ∈ earlier.history → t < earlier.threads.length := by
    intro t event member
    by_contra beyond
    have none_ := beforehand.started t (by omega)
    have own_ := mem_own.mpr member
    rw [none_] at own_
    cases own_
  apply System.Run.invariant run
  · refine ⟨waiting, Nat.le_refl _, ?_, fun _ member => member, ?_⟩
    · intro t thread _ found
      have quiet := List.all_eq_true.mp quiescent thread (List.mem_of_getElem? found)
      simpa using quiet
    · intro t value beyond member
      have := former member
      omega
  · intro before label after steps transition met leftover
    have whole : (panel.system db).Run (fun config label => fresh db start config label = true)
        (Config.initial start) before :=
      reached.trans (steps.weaken fun _ _ met => met.1)
    have later : ∀ {t : Nat} {event : ConsoleEvent},
        (panel.system db).Transition before (.performed t event) after → earlier.threads.length ≤ t := by
      intro t event transition
      by_contra small
      cases transition with
      | performed found answered => cases leftover.idle t _ (by omega) found
    rcases store_step empty whole transition leftover.waiting with kept | ended
    · cases transition with
      | crashed => exact absurd rfl met.2.1
      | external acted => cases acted
      | spawned task =>
          refine ⟨kept, ?_, ?_, leftover.visible, leftover.late⟩
          · simp only [Config.spawn, List.length_append]
            have more := leftover.more
            omega
          · intro t thread small found
            rcases Disciplined.spawn_found found with before | ⟨beyond, _⟩
            · exact leftover.idle t thread small before
            · have more := leftover.more
              omega
      | performed found answered =>
          next t task request continuation choice reply state =>
          have own := later (.performed found answered)
          refine ⟨kept, ?_, ?_, fun entry member => List.mem_cons_of_mem _ (leftover.visible entry member), ?_⟩
          · simpa [Config.advance] using leftover.more
          · intro v thread small located
            simp only [Config.advance] at located
            rw [List.getElem?_set_ne (by omega)] at located
            exact leftover.idle v thread small located
          · intro v value beyond member
            rcases List.mem_cons.mp member with same | behind
            · cases same
              exact met.2.2 t value rfl
            · exact leftover.late v value beyond behind
    · have disciplined := panel_disciplined whole
      have lawful := panel_lawful empty whole
      have stored := leftover.visible _ created
      cases ended with
      | restarted => exact absurd rfl met.2.1
      | @opened t target openedAt creation row opens =>
          have own := later transition
          have asked := leftover.late t openedAt own (mem_own.mp (List.mem_of_getLast? opens.handshake))
          obtain ⟨⟨v, reply, creationMade⟩, _, _, expiresAt⟩ := opens.created
          have same : creation = session :=
            lawful.creation_of_id disciplined creationMade stored (by rw [opens.sameID, sameID]; exact db.same_refl id)
          have early := opens.early
          rw [expiresAt, same] at early
          exact absurd early (Int.not_lt.mpr asked)
      | @unaudited t target entry failure put failed =>
          have own := later transition
          have generated := put_issued disciplined (List.suffix_refl _) put
          have issued := (creation_issued disciplined stored).1
          have owner : t = u :=
            id_owner lawful.recorded generated issued (by rw [sameID]; exact db.same_refl id)
          have small := former created
          omega

end Runs

/-- A ticket is made and never taken anywhere. -/
def unopenedSchedule : List (System.Move Task Choice) :=
  .spawn (.createEmbedded (text "server") (text "request") (text "198.51.100.9")) ::
    (vncAdvance 0 8 ++ vncStatement 0 :: vncAdvance 0 4)

/-- The ticket is for one minute, and it is presented a second after that. -/
def lateSchedule : List (System.Move Task Choice) :=
  unopenedSchedule ++ [.spawn (.open_ (text "ticket")),
    .advance 1 (.reply fun request => match request with
      | .now => 61000000000
      | other => vncReplies other),
    vncStatement 1]

/-- The session of that ticket is stored. -/
def storesMinute : Nat × ConsoleEvent → Bool
  | (0, ⟨.createSession session, .ok ()⟩) =>
      session.id = text "session" && session.ticketHash = sha256 (text "ticket") && session.expiresAt = 60000000000
  | _ => false

/-- It is presented late. -/
def asksLate : Nat × ConsoleEvent → Bool
  | (1, ⟨.now, value⟩) => value = (61000000000 : Int)
  | _ => false

end NodeAtlas.Console
