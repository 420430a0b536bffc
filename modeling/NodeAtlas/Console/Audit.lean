import NodeAtlas.Console.Service

/-! What the programs of the console do call by call, whatever is replied. -/

set_option autoImplicit false

namespace NodeAtlas.Console

open Interleaving Providers

/-! ## Rules -/

def Call.issuesID : Call → Bool
  | .newID => true
  | _ => false

def Call.issuesTicket : Call → Bool
  | .newTicket => true
  | _ => false

def Call.creates : Call → Bool
  | .createSession _ => true
  | _ => false

def Call.puts : Call → Bool
  | .put _ _ => true
  | _ => false

def Call.takes : Call → Bool
  | .take _ => true
  | _ => false

def Call.proxies : Call → Bool
  | .proxy _ => true
  | _ => false

/-- Calls about which the rules say nothing. -/
def Call.plain : Call → Bool
  | .newID | .newTicket | .createSession _ | .put _ _ | .take _ | .proxy _ | .dial _ _ => false
  | _ => true

/-- No call of a kind was made before. -/
def First (kind : Call → Bool) (earlier : List ConsoleEvent) : Prop :=
  ∀ event ∈ earlier, kind event.call = false

/-- The host and the port are those of the target, a missing port that of its scheme. -/
def Addressed (library : NetLibrary) (target : URL) (host port : GoString) : Prop :=
  (target.scheme = text "vnc+tcp" ∧ host = target.hostname ∧ port = target.port) ∨
    target.scheme = text "wss" ∧ library.equalFold host target.hostname = true ∧
      port = if target.port = [] then text "443" else target.port

/-- The events that end with an answer set for a host: the host is a literal,
or the resolver was asked for it. -/
def Resolved (library : NetLibrary) (host : GoString) (answers : List (Option IP))
    (before events : List ConsoleEvent) : Prop :=
  (∃ literal, library.parseIP host = some literal ∧ answers = [some literal] ∧ events = before) ∨
    library.parseIP host = none ∧ events = ⟨.lookup host, .ok answers⟩ :: before

/-- One dial of `dialAllowed`: behind the beginning of the call stand only the
answer set and what the loop did with other addresses of it. -/
structure Dialled (panel : Panel) (target : URL) (earlier : List ConsoleEvent) (network address : GoString)
    (host port : GoString) (answers : List (Option IP)) : Prop where
  tcp : network = text "tcp"
  addressed : Addressed panel.library target host port
  resolved : ∃ failed events before, earlier = failed ++ events ∧
    (∀ event ∈ failed, event.call = .expired ∨ ∃ resolved ∈ answers,
      event.call = .dial (text "tcp") (joinHostPort (addressText resolved) port)) ∧
    Resolved panel.library host answers (⟨.dialAllowed host port, ()⟩ :: before) events
  allowed : ∀ resolved ∈ answers, panel.policy.addressAllowed resolved = true
  literal : ∃ literal, some literal ∈ answers ∧ address = joinHostPort literal.string port

/-- What `ConsumeTicket` has seen and done when it grants a session. The
handshake time is the first that the request asked for, and `row` is the row as
the UPDATE found it. -/
structure Consumed (ticket : GoString) (earlier : List ConsoleEvent) (openedAt : Instant)
    (session row : Session) : Prop where
  handshake : earlier.getLast? = some ⟨.now, openedAt⟩
  found : (⟨.findSession (sha256 ticket), .ok session⟩ : ConsoleEvent) ∈ earlier
  updated : (⟨.openSession session.id openedAt, .ok [row]⟩ : ConsoleEvent) ∈ earlier
  unopened : session.openedAt = none
  unclosed : session.closedAt = none
  early : openedAt < session.expiresAt

/-- The server of the task and its connection were read, and that connection
may have the target. -/
def Backed (task : Task) (earlier : List ConsoleEvent) (target : URL) : Prop :=
  ∃ serverID requestID sourceIP server connection, task = .createEmbedded serverID requestID sourceIP ∧
    (⟨.findServer serverID, .ok server⟩ : ConsoleEvent) ∈ earlier ∧
    (⟨.findConnection server.connectionID, .ok connection⟩ : ConsoleEvent) ∈ earlier ∧
    (target.scheme = text "vnc+tcp" → connection.providerType = text "virtualizor")

def Rule (panel : Panel) (task : Task) (earlier : List ConsoleEvent) (event : ConsoleEvent) : Prop :=
  match event.call with
  | .newID => First Call.issuesID earlier
  | .newTicket => First Call.issuesTicket earlier
  | .createSession session =>
      First Call.creates earlier ∧ ∃ ticket, (⟨.newID, session.id⟩ : ConsoleEvent) ∈ earlier ∧
        (⟨.newTicket, ticket⟩ : ConsoleEvent) ∈ earlier ∧ session.ticketHash = sha256 ticket
  | .put id target =>
      First Call.puts earlier ∧ (⟨.newID, id⟩ : ConsoleEvent) ∈ earlier ∧ Backed task earlier target
  | .take id =>
      First Call.takes earlier ∧ ∃ ticket openedAt session row, task = .open_ ticket ∧
        Consumed ticket earlier openedAt session row ∧ id = session.id
  | .proxy target =>
      First Call.proxies earlier ∧ ∃ ticket openedAt session row, task = .open_ ticket ∧
        Consumed ticket earlier openedAt session row ∧
        (⟨.take session.id, some target⟩ : ConsoleEvent) ∈ earlier
  | .dial network address =>
      ∃ target host port answers, (⟨.proxy target, ()⟩ : ConsoleEvent) ∈ earlier ∧
        Dialled panel target earlier network address host port answers
  | _ => True

theorem rule_plain {panel : Panel} {task : Task} {earlier : List ConsoleEvent} {request : Call}
    (plain : request.plain = true) (reply : request.Reply) : Rule panel task earlier ⟨request, reply⟩ := by
  cases request <;> trivial

abbrev Kept {α : Type} (panel : Panel) (task : Task) (closing : List ConsoleEvent → α → Prop)
    (earlier : List ConsoleEvent) (program : Process α) : Prop :=
  program.Audited (fun _ => True) (Rule panel task) closing earlier

/-- Only plain calls so far. -/
def Plain (events : List ConsoleEvent) : Prop := ∀ event ∈ events, event.call.plain = true

section Calls

variable {panel : Panel} {task : Task} {earlier : List ConsoleEvent}

theorem Plain.first {kind : Call → Bool} (plain : Plain earlier)
    (special : ∀ request, kind request = true → request.plain = false) : First kind earlier := by
  intro event member
  by_contra other
  rw [Bool.not_eq_false] at other
  have common := plain event member
  rw [special event.call other] at common
  cases common

/-- More plain calls were made. -/
def Grown (earlier events : List ConsoleEvent) : Prop := ∃ later, events = later ++ earlier ∧ Plain later

theorem Grown.refl (earlier : List ConsoleEvent) : Grown earlier earlier :=
  ⟨[], rfl, fun _ impossible => by cases impossible⟩

theorem Grown.cons {events : List ConsoleEvent} (grown : Grown earlier events) {request : Call}
    (plain : request.plain = true) (reply : request.Reply) : Grown earlier (⟨request, reply⟩ :: events) := by
  obtain ⟨later, rfl, common⟩ := grown
  exact ⟨⟨request, reply⟩ :: later, rfl, List.forall_mem_cons.mpr ⟨plain, common⟩⟩

theorem Grown.trans {middle events : List ConsoleEvent} (first : Grown earlier middle)
    (second : Grown middle events) : Grown earlier events := by
  obtain ⟨later, rfl, plain⟩ := first
  obtain ⟨more, rfl, common⟩ := second
  refine ⟨more ++ later, (List.append_assoc _ _ _).symm, fun event member => ?_⟩
  cases List.mem_append.mp member with
  | inl member => exact common event member
  | inr member => exact plain event member

theorem Grown.mem {events : List ConsoleEvent} (grown : Grown earlier events) {event : ConsoleEvent}
    (member : event ∈ earlier) : event ∈ events := by
  obtain ⟨later, rfl, _⟩ := grown
  exact List.mem_append_right later member

theorem Grown.plain {events : List ConsoleEvent} (grown : Grown earlier events) (plain : Plain earlier) :
    Plain events := by
  obtain ⟨later, rfl, common⟩ := grown
  intro event member
  cases List.mem_append.mp member with
  | inl member => exact common event member
  | inr member => exact plain event member

/-- A program of plain calls. -/
def Quiet {α : Type} (panel : Panel) (task : Task) (program : Process α) : Prop :=
  ∀ earlier, Kept panel task (fun events _ => Grown earlier events) earlier program

theorem quiet_done {α : Type} (result : α) : Quiet panel task (.done result : Process α) :=
  fun earlier => Grown.refl earlier

theorem quiet_call (request : Call) (plain : request.plain = true) : Quiet panel task (call request) :=
  fun earlier reply _ => ⟨rule_plain plain reply, (Grown.refl earlier).cons plain reply⟩

theorem Quiet.bind {α β : Type} {program : Process α} {next : α → Process β}
    (first : Quiet panel task program) (second : ∀ result, Quiet panel task (next result)) :
    Quiet panel task (program >>= next) := by
  intro earlier
  apply Program.Audited.bind (first earlier)
  intro events result grown
  exact Program.Audited.mono (second result events) fun _ _ more => grown.trans more

theorem Quiet.silent {α : Type} {program : Process α} (quiet : Quiet panel task program) :
    Kept panel task (fun _ _ => True) earlier program :=
  Program.Audited.mono (quiet earlier) fun _ _ _ => trivial

end Calls

section Programs

variable {panel : Panel} {task : Task} {earlier : List ConsoleEvent}

/-! ## Resolving -/

private theorem lookUp_kept (library : NetLibrary) (host : GoString) :
    Kept panel task (fun events result => Grown earlier events ∧ ∀ answers, result = .ok answers →
      Resolved library host answers earlier events) earlier (TargetPolicy.lookUp library host) := by
  unfold TargetPolicy.lookUp
  split
  · next literal known =>
      refine ⟨.refl earlier, fun answers same => ?_⟩
      cases same
      exact .inl ⟨literal, known, rfl, rfl⟩
  · next unknown =>
      intro reply _
      refine ⟨trivial, (Grown.refl earlier).cons rfl reply, fun answers same => ?_⟩
      cases same
      exact .inr ⟨unknown, rfl⟩

private theorem resolveAllowed_kept (library : NetLibrary) (policy : TargetPolicy) (host : GoString) :
    Kept panel task (fun events result => Grown earlier events ∧ ∀ answers, result = .ok answers →
      Resolved library host answers earlier events ∧
        ∀ resolved ∈ answers, policy.addressAllowed resolved = true) earlier
      (policy.resolveAllowed library host) := by
  apply Program.Audited.bind (lookUp_kept library host)
  intro events result answered
  cases result with
  | error failure =>
      refine ⟨answered.1, fun answers impossible => ?_⟩
      cases impossible
  | ok addresses =>
      dsimp only
      split
      · refine ⟨answered.1, fun answers impossible => ?_⟩
        cases impossible
      · split
        · next allowed =>
            refine ⟨answered.1, fun answers same => ?_⟩
            cases same
            exact ⟨answered.2 addresses rfl, List.all_eq_true.mp allowed⟩
        · refine ⟨answered.1, fun answers impossible => ?_⟩
          cases impossible

private theorem validateNetworkTarget_quiet (library : NetLibrary) (policy : TargetPolicy) (target : URL) :
    Quiet panel task (policy.validateNetworkTarget library target) := by
  unfold TargetPolicy.validateNetworkTarget
  intro earlier
  split
  · exact Grown.refl earlier
  · apply Program.Audited.bind (resolveAllowed_kept library policy target.hostname)
    intro events result answered
    cases result <;> exact answered.1

private theorem validateEmbedded_quiet (library : NetLibrary) (policy : TargetPolicy) (target : URL) :
    Quiet panel task (policy.validateEmbedded library target) := by
  unfold TargetPolicy.validateEmbedded
  split
  · split
    · exact quiet_done _
    · exact validateNetworkTarget_quiet library policy target
  · split
    · exact quiet_done _
    · split
      · exact quiet_done _
      · exact validateNetworkTarget_quiet library policy target

/-! ## Dialling -/

private theorem dialEach_kept {target : URL} {host port : GoString} {answers : List (Option IP)}
    {events before : List ConsoleEvent} (proxied : (⟨.proxy target, ()⟩ : ConsoleEvent) ∈ events)
    (addressed : Addressed panel.library target host port)
    (resolved : Resolved panel.library host answers (⟨.dialAllowed host port, ()⟩ :: before) events)
    (allowed : ∀ resolved ∈ answers, panel.policy.addressAllowed resolved = true)
    (remaining : List (Option IP)) (inside : ∀ each ∈ remaining, each ∈ answers) (failed : List ConsoleEvent)
    (dials : ∀ event ∈ failed, event.call = .expired ∨ ∃ resolved ∈ answers,
      event.call = .dial (text "tcp") (joinHostPort (addressText resolved) port)) :
    Kept panel task (fun later _ => (⟨.proxy target, ()⟩ : ConsoleEvent) ∈ later) (failed ++ events)
      (TargetPolicy.dialEach port remaining) := by
  induction remaining generalizing failed with
  | nil => exact List.mem_append_right failed proxied
  | cons each rest ih =>
      obtain ⟨listed, others⟩ := List.forall_mem_cons.mp inside
      intro ceased _
      refine ⟨trivial, ?_⟩
      let asked : ConsoleEvent := ⟨.expired, ceased⟩
      have looked : ∀ event ∈ asked :: failed, event.call = .expired ∨ ∃ resolved ∈ answers,
          event.call = .dial (text "tcp") (joinHostPort (addressText resolved) port) :=
        List.forall_mem_cons.mpr ⟨.inl rfl, dials⟩
      cases ceased with
      | true => exact List.mem_cons_of_mem _ (List.mem_append_right failed proxied)
      | false =>
          intro reply _
          constructor
          · cases each with
            | none => exact absurd (allowed none listed) (by simp [TargetPolicy.addressAllowed, IP.allowed])
            | some literal =>
                exact ⟨target, host, port, answers, List.mem_cons_of_mem _ (List.mem_append_right failed proxied),
                  rfl, addressed, ⟨asked :: failed, events, before, rfl, looked, resolved⟩, allowed,
                  literal, listed, rfl⟩
          · let dialled : ConsoleEvent :=
              ⟨.dial (text "tcp") (joinHostPort (addressText each) port), reply⟩
            cases reply with
            | ok => exact List.mem_cons_of_mem _ (List.mem_cons_of_mem _ (List.mem_append_right failed proxied))
            | error failure =>
                exact ih others (dialled :: asked :: failed)
                  (List.forall_mem_cons.mpr ⟨.inr ⟨each, listed, rfl⟩, looked⟩)

private theorem dialAllowed_kept {target : URL} {host port : GoString}
    (proxied : (⟨.proxy target, ()⟩ : ConsoleEvent) ∈ earlier)
    (addressed : Addressed panel.library target host port) :
    Kept panel task (fun later _ => (⟨.proxy target, ()⟩ : ConsoleEvent) ∈ later) earlier
      (panel.policy.dialAllowed panel.library host port) := by
  intro reply _
  refine ⟨trivial, ?_⟩
  apply Program.Audited.bind (resolveAllowed_kept panel.library panel.policy host)
  intro events result answered
  have kept : (⟨.proxy target, ()⟩ : ConsoleEvent) ∈ events :=
    answered.1.mem (List.mem_cons_of_mem _ proxied)
  cases result with
  | error failure => exact kept
  | ok addresses =>
      obtain ⟨resolved, allowed⟩ := answered.2 addresses rfl
      exact dialEach_kept kept addressed resolved allowed addresses (fun _ present => present) []
        (fun _ impossible => by cases impossible)

private theorem runRawVNC_kept {target : URL} (raw : target.scheme = text "vnc+tcp")
    (proxied : (⟨.proxy target, ()⟩ : ConsoleEvent) ∈ earlier) :
    Kept panel task (fun _ _ => True) earlier (panel.runRawVNC target) := by
  have dialled : Kept panel task (fun _ _ => True) earlier (panel.policy.dialTCP panel.library target) := by
    unfold TargetPolicy.dialTCP
    split
    · trivial
    · exact Program.Audited.mono (dialAllowed_kept proxied (.inl ⟨raw, rfl, rfl⟩)) fun _ _ _ => trivial
  apply Program.Audited.bind dialled
  intro events result _
  cases result with
  | error failure => trivial
  | ok => exact (quiet_call .relay rfl).silent

private theorem webSocketClient_kept (target : URL) :
    Kept panel task (fun events result => Grown earlier events ∧ ∀ client, result = .ok client →
      target.scheme = text "wss" ∧ client.target = target ∧
        client.port = if target.port = [] then text "443" else target.port) earlier
      (panel.policy.webSocketClient panel.library target) := by
  unfold TargetPolicy.webSocketClient
  generalize (if target.port = [] then text "443" else target.port) = port
  split
  · refine ⟨.refl earlier, fun client impossible => ?_⟩
    cases impossible
  · next direct =>
      apply Program.Audited.bind (validateEmbedded_quiet panel.library panel.policy target earlier)
      intro events result grown
      cases result with
      | error failure =>
          refine ⟨grown, fun client impossible => ?_⟩
          cases impossible
      | ok =>
          dsimp only
          split
          · refine ⟨grown, fun client impossible => ?_⟩
            cases impossible
          · refine ⟨grown, fun client same => ?_⟩
            cases same
            have wss : target.scheme = text "wss" := by
              by_contra other
              exact direct (.inl other)
            exact ⟨wss, rfl, rfl⟩

private theorem dialAll_kept {target : URL} {client : WebSocketClient} (wss : target.scheme = text "wss")
    (own : client.target = target)
    (port : client.port = if target.port = [] then text "443" else target.port)
    (wanted : List (GoString × GoString)) (proxied : (⟨.proxy target, ()⟩ : ConsoleEvent) ∈ earlier) :
    Kept panel task (fun _ _ => True) earlier (panel.policy.dialAll panel.library client wanted) := by
  induction wanted generalizing earlier with
  | nil => trivial
  | cons first rest ih =>
      have dialled : Kept panel task (fun later _ => (⟨.proxy target, ()⟩ : ConsoleEvent) ∈ later) earlier
          (panel.policy.dialContext panel.library client first.2) := by
        unfold TargetPolicy.dialContext
        split
        · exact proxied
        · split
          · exact proxied
          · next wanted =>
              simp only [not_or, Bool.not_eq_false, ne_eq, Classical.not_not, own, port] at wanted
              exact dialAllowed_kept proxied (.inr ⟨wss, wanted.1, wanted.2⟩)
      apply Program.Audited.bind dialled
      intro events _ kept
      exact ih kept

private theorem runWebSocket_kept {target : URL} (proxied : (⟨.proxy target, ()⟩ : ConsoleEvent) ∈ earlier) :
    Kept panel task (fun _ _ => True) earlier (panel.runWebSocket target) := by
  apply Program.Audited.bind (webSocketClient_kept target)
  intro events result checked
  cases result with
  | error failure => trivial
  | ok client =>
      obtain ⟨wss, own, port⟩ := checked.2 client rfl
      intro wanted _
      refine ⟨trivial, ?_⟩
      apply Program.Audited.bind
        (dialAll_kept wss own port wanted (List.mem_cons_of_mem _ (checked.1.mem proxied)))
      intro later _ _ handshake _
      refine ⟨trivial, ?_⟩
      cases handshake with
      | error failure => trivial
      | ok => exact (quiet_call .relay rfl).silent

/-! ## Creating a session -/

private theorem serverCapabilities_kept (serverID : GoString) :
    Kept panel task (fun events result => Grown earlier events ∧ ∀ found, result = .ok found →
      (⟨.findServer serverID, .ok found.1⟩ : ConsoleEvent) ∈ events) earlier (serverCapabilities serverID) := by
  intro found _
  refine ⟨trivial, ?_⟩
  have grown : Grown earlier (⟨.findServer serverID, found⟩ :: earlier) := (Grown.refl earlier).cons rfl found
  cases found with
  | error failure =>
      refine ⟨grown, fun found impossible => ?_⟩
      cases impossible
  | ok server =>
      dsimp only [Program.bind]
      split
      · refine ⟨grown, fun found impossible => ?_⟩
        cases impossible
      · refine ⟨grown, fun found same => ?_⟩
        cases same
        exact List.mem_cons_self

private theorem appendAudit_quiet (targetID eventType requestID sourceIP : GoString) (metadata : JSONMap) :
    Quiet panel task (appendAudit targetID eventType requestID sourceIP metadata) := by
  apply (quiet_call .newAuditID rfl).bind
  intro id
  apply (quiet_call .now rfl).bind
  intro now
  exact quiet_call _ rfl

private theorem openProvider_kept (connectionID : GoString) :
    Kept panel task (fun events result => Grown earlier events ∧ ∀ provider, result = .ok provider →
      ∃ connection, (⟨.findConnection connectionID, .ok connection⟩ : ConsoleEvent) ∈ events ∧
        provider.2 = connection.providerType) earlier
      (openProvider connectionID) := by
  intro found _
  refine ⟨trivial, ?_⟩
  have first : Grown earlier (⟨.findConnection connectionID, found⟩ :: earlier) := (Grown.refl earlier).cons rfl found
  cases found with
  | error failure =>
      refine ⟨first, fun provider impossible => ?_⟩
      cases impossible
  | ok connection =>
      intro plaintext _
      refine ⟨trivial, ?_⟩
      have second : Grown earlier (⟨.decrypt connection, plaintext⟩ :: _) := first.cons rfl plaintext
      cases plaintext with
      | error failure =>
          refine ⟨second, fun provider impossible => ?_⟩
          cases impossible
      | ok plaintext =>
          intro created _
          refine ⟨trivial, ?_⟩
          have third : Grown earlier (⟨.createProvider ⟨connection.id, connection.providerType,
              connection.endpoint, connection.settings, plaintext⟩, created⟩ :: _) :=
            second.cons rfl created
          cases created with
          | error failure =>
              refine ⟨third, fun provider impossible => ?_⟩
              cases impossible
          | ok =>
              refine ⟨third, fun provider same => ?_⟩
              cases same
              exact ⟨connection, by simp, rfl⟩

theorem Backed.mono {events : List ConsoleEvent} {target : URL} (backed : Backed task earlier target)
    (kept : ∀ event ∈ earlier, event ∈ events) : Backed task events target := by
  obtain ⟨serverID, requestID, sourceIP, server, connection, same, looked, found, raw⟩ := backed
  exact ⟨serverID, requestID, sourceIP, server, connection, same, kept _ looked, kept _ found, raw⟩

theorem Backed.cons {target : URL} (backed : Backed task earlier target) (event : ConsoleEvent) :
    Backed task (event :: earlier) target :=
  backed.mono fun _ => List.mem_cons_of_mem _

private theorem issue_kept {server : Inventory.Server} {target : ConsoleTarget} {url : URL}
    {requestID sourceIP : GoString} (plain : Plain earlier) (backed : Backed task earlier url) :
    Kept panel task (fun _ _ => True) earlier (panel.issue server target url requestID sourceIP) := by
  intro now _
  refine ⟨trivial, ?_⟩
  have started : Plain (⟨.now, now⟩ :: earlier) := List.forall_mem_cons.mpr ⟨rfl, plain⟩
  intro ticket _
  refine ⟨started.first fun request => by cases request <;> simp [Call.issuesTicket, Call.plain], ?_⟩
  have unissued : First Call.issuesID (⟨.now, now⟩ :: earlier) :=
    started.first fun request => by cases request <;> simp [Call.issuesID, Call.plain]
  have uncreated : First Call.creates (⟨.now, now⟩ :: earlier) :=
    started.first fun request => by cases request <;> simp [Call.creates, Call.plain]
  have unput : First Call.puts (⟨.now, now⟩ :: earlier) :=
    started.first fun request => by cases request <;> simp [Call.puts, Call.plain]
  intro id _
  refine ⟨List.forall_mem_cons.mpr ⟨rfl, unissued⟩, ?_⟩
  intro created _
  refine ⟨⟨List.forall_mem_cons.mpr ⟨rfl, List.forall_mem_cons.mpr ⟨rfl, uncreated⟩⟩, ticket, by simp, by simp,
    rfl⟩, ?_⟩
  cases created with
  | error failure => trivial
  | ok =>
      intro put _
      refine ⟨⟨List.forall_mem_cons.mpr ⟨rfl, List.forall_mem_cons.mpr ⟨rfl, List.forall_mem_cons.mpr ⟨rfl,
        unput⟩⟩⟩, by simp, ((((backed.cons _).cons _).cons _).cons _)⟩, ?_⟩
      apply Program.Audited.bind (appendAudit_quiet _ _ _ _ _ _)
      intro events result _
      cases result with
      | error failure =>
          apply Quiet.silent
          apply (quiet_call (.delete id) rfl).bind
          intro _
          apply (quiet_call (.closeSession id .failed now) rfl).bind
          intro _
          exact quiet_done _
      | ok => trivial

private theorem createEmbedded_kept {serverID requestID sourceIP : GoString}
    (own : task = .createEmbedded serverID requestID sourceIP) :
    Kept panel task (fun _ _ => True) [] (panel.createEmbedded serverID requestID sourceIP) := by
  have nothing : Plain [] := fun _ impossible => by cases impossible
  apply Program.Audited.bind (serverCapabilities_kept serverID)
  intro events result looked
  cases result with
  | error failure => trivial
  | ok server =>
      dsimp only [Program.bind]
      split
      · trivial
      · apply Program.Audited.bind (openProvider_kept server.1.connectionID)
        intro events result opened
        cases result with
        | error failure => trivial
        | ok provider =>
            obtain ⟨grown, known⟩ := opened
            obtain ⟨connection, found, type⟩ := known provider rfl
            intro target _
            refine ⟨trivial, ?_⟩
            cases target with
            | error failure => trivial
            | ok target =>
                dsimp only [Program.bind]
                split
                · trivial
                · next url _ =>
                    split
                    · trivial
                    · next raw =>
                        apply Program.Audited.bind (validateEmbedded_quiet panel.library panel.policy url _)
                        intro events result checked
                        cases result with
                        | error failure => trivial
                        | ok =>
                            have backed : Backed task _ url :=
                              ⟨serverID, requestID, sourceIP, server.1, connection, own, grown.mem (looked.2 _ rfl),
                                found, fun vnc => by
                                  rw [← type]
                                  by_contra other
                                  exact raw ⟨vnc, other⟩⟩
                            apply issue_kept
                            · apply checked.plain
                              exact List.forall_mem_cons.mpr ⟨rfl, grown.plain (looked.1.plain nothing)⟩
                            · exact (backed.cons _).mono fun _ => checked.mem

/-! ## Opening a session -/

private theorem consumeTicket_kept (ticket : GoString) (openedAt : Instant) :
    Kept panel task (fun events result => Plain events ∧ ∀ session, result = .ok session →
      ∃ found row, Consumed ticket events openedAt found row ∧ session.id = found.id)
      [⟨.now, openedAt⟩] (consumeTicket (sha256 ticket) openedAt) := by
  have started : Plain [⟨.now, openedAt⟩] := List.forall_mem_singleton.mpr rfl
  intro found _
  refine ⟨trivial, ?_⟩
  cases found with
  | error failure =>
      refine ⟨List.forall_mem_cons.mpr ⟨rfl, started⟩, fun session impossible => ?_⟩
      cases impossible
  | ok found =>
      dsimp only [Program.bind]
      split
      · refine ⟨List.forall_mem_cons.mpr ⟨rfl, started⟩, fun session impossible => ?_⟩
        cases impossible
      · next available =>
          simp only [not_or, ne_eq, Classical.not_not] at available
          intro affected _
          refine ⟨trivial, ?_⟩
          have plain : Plain [⟨.openSession found.id openedAt, affected⟩, ⟨.findSession (sha256 ticket), .ok found⟩,
              ⟨.now, openedAt⟩] :=
            List.forall_mem_cons.mpr ⟨rfl, List.forall_mem_cons.mpr ⟨rfl, started⟩⟩
          cases affected with
          | error failure =>
              refine ⟨plain, fun session impossible => ?_⟩
              cases impossible
          | ok rows =>
              dsimp only [Program.bind]
              split
              · refine ⟨plain, fun session impossible => ?_⟩
                cases impossible
              · next single =>
                  rw [ne_eq, Classical.not_not] at single
                  obtain ⟨row, rfl⟩ := List.length_eq_one_iff.mp single
                  refine ⟨plain, fun session same => ?_⟩
                  cases same
                  exact ⟨found, row, ⟨rfl, by simp, by simp, available.1, available.2.1, available.2.2⟩, rfl⟩

private theorem proxy_kept {ticket : GoString} {openedAt : Instant} {session row : Session} {target : URL}
    (own : task = .open_ ticket) (unproxied : First Call.proxies earlier)
    (consumed : Consumed ticket earlier openedAt session row)
    (taken : (⟨.take session.id, some target⟩ : ConsoleEvent) ∈ earlier) :
    Kept panel task (fun _ _ => True) earlier (panel.proxy target) := by
  intro marked _
  refine ⟨⟨unproxied, ticket, openedAt, session, row, own, consumed, taken⟩, ?_⟩
  split
  · next raw => exact runRawVNC_kept raw List.mem_cons_self
  · split
    · exact (quiet_call .relay rfl).silent
    · exact runWebSocket_kept List.mem_cons_self

private theorem serve_kept {ticket : GoString} {openedAt : Instant} {found row session : Session} {target : URL}
    (own : task = .open_ ticket) (unproxied : First Call.proxies earlier)
    (consumed : Consumed ticket earlier openedAt found row)
    (taken : (⟨.take found.id, some target⟩ : ConsoleEvent) ∈ earlier) :
    Kept panel task (fun _ _ => True) earlier (panel.serve session target openedAt) := by
  apply Program.Audited.bind (proxy_kept own unproxied consumed taken)
  intro events result _
  apply Quiet.silent
  apply (quiet_call .now rfl).bind
  intro closedAt
  apply (quiet_call (.closeSession session.id result closedAt) rfl).bind
  intro _
  apply (appendAudit_quiet _ _ _ _ _).bind
  intro _
  exact quiet_done _

theorem Consumed.cons {ticket : GoString} {openedAt : Instant} {session row : Session}
    (consumed : Consumed ticket earlier openedAt session row) (event : ConsoleEvent) :
    Consumed ticket (event :: earlier) openedAt session row where
  handshake := by
    rw [List.getLast?_cons, consumed.handshake]
    rfl
  found := List.mem_cons_of_mem _ consumed.found
  updated := List.mem_cons_of_mem _ consumed.updated
  unopened := consumed.unopened
  unclosed := consumed.unclosed
  early := consumed.early

private theorem open_kept (ticket : GoString) (own : task = .open_ ticket) :
    Kept panel task (fun _ _ => True) [] (panel.open_ ticket) := by
  intro openedAt _
  refine ⟨trivial, ?_⟩
  apply Program.Audited.bind (consumeTicket_kept ticket openedAt)
  intro events result consumed
  cases result with
  | error failure => trivial
  | ok session =>
      obtain ⟨plain, granted⟩ := consumed
      obtain ⟨found, row, consumed, same⟩ := granted session rfl
      have untaken : First Call.takes events :=
        plain.first fun request => by cases request <;> simp [Call.takes, Call.plain]
      have unproxied : First Call.proxies events :=
        plain.first fun request => by cases request <;> simp [Call.proxies, Call.plain]
      intro target _
      refine ⟨⟨untaken, ticket, openedAt, found, row, own, consumed, same⟩, ?_⟩
      cases target with
      | none =>
          apply Quiet.silent
          apply (quiet_call .now rfl).bind
          intro closedAt
          apply (quiet_call (.closeSession session.id .failed closedAt) rfl).bind
          intro _
          exact quiet_done _
      | some target =>
          intro accepted _
          refine ⟨trivial, ?_⟩
          cases accepted with
          | error failure =>
              apply Quiet.silent
              apply (quiet_call .now rfl).bind
              intro closedAt
              apply (quiet_call (.closeSession session.id .failed closedAt) rfl).bind
              intro _
              exact quiet_done _
          | ok =>
              dsimp only [Program.bind]
              have served : Kept panel task (fun _ _ => True)
                  (⟨.accept, .ok ()⟩ :: ⟨.take session.id, some target⟩ :: events)
                  (panel.serve session target openedAt) := by
                apply serve_kept own _ ((consumed.cons _).cons _)
                · rw [← same]
                  exact List.mem_cons_of_mem _ List.mem_cons_self
                · exact List.forall_mem_cons.mpr ⟨rfl, List.forall_mem_cons.mpr ⟨rfl, unproxied⟩⟩
              exact Program.Audited.bind served fun _ _ _ => trivial

end Programs

/-! ## The audit -/

def Panel.audit (panel : Panel) : Audit Call Call.Reply Task Unit where
  fits _ := True
  rule := Rule panel
  closing _ _ _ := True

theorem panel_passes (panel : Panel) (db : Database) :
    panel.audit.Passed (panel.system db) fun _ => True where
  fitting _ _ _ _ _ _ _ := trivial
  audited task _ := by
    cases task with
    | createEmbedded serverID requestID sourceIP =>
        exact Program.Audited.bind (createEmbedded_kept rfl) fun _ _ _ => trivial
    | open_ ticket => exact Program.Audited.bind (open_kept ticket rfl) fun _ _ _ => trivial
    | close id result =>
        apply Quiet.silent
        apply (quiet_call .now rfl).bind
        intro closedAt
        apply (quiet_call (.closeSession id result closedAt) rfl).bind
        intro _
        exact quiet_done _
    | backup =>
        apply Quiet.silent
        apply (quiet_call .backup rfl).bind
        intro _
        exact quiet_done _
    | restore archive =>
        apply Quiet.silent
        apply (quiet_call (.restore archive) rfl).bind
        intro _
        exact quiet_done _

end NodeAtlas.Console
