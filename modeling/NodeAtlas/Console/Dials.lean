import NodeAtlas.Console.Audit

/-! Where the dials of console sessions go. -/

set_option autoImplicit false

namespace NodeAtlas.Console

open Interleaving Providers

abbrev ConsoleHistory := List (Nat × ConsoleEvent)

/-- A target was put before under this id. -/
def Stored (id : GoString) (target : URL) (history : ConsoleHistory) : Prop :=
  ∃ thread, (thread, ⟨.put id target, ()⟩) ∈ history

/-- Targets come from puts: those in the store and those that were taken. -/
structure Supplied (config : ConsoleConfig) : Prop where
  waiting : ∀ id target, config.state.targets id = some target → Stored id target config.history
  taken : ∀ earlier t id target,
    (t, ⟨.take id, some target⟩) :: earlier <:+ config.history → Stored id target earlier

section Steps

variable {panel : Panel} {db : Database} {choice : Choice} {before after : State}

theorem Stored.cons {id : GoString} {target : URL} {history : ConsoleHistory} (stored : Stored id target history)
    (entry : Nat × ConsoleEvent) : Stored id target (entry :: history) := by
  obtain ⟨thread, member⟩ := stored
  exact ⟨thread, List.mem_cons_of_mem _ member⟩

theorem after_targets {α : Type} {outcome : Outcome} {effect : Except GoError α × State}
    {reply : Except GoError α} (same : effect.2.targets = before.targets)
    (answered : some (before.after db outcome effect) = some (reply, after)) : after.targets = before.targets := by
  have moved : (before.after db outcome effect).2 = after := congrArg Prod.snd (Option.some.inj answered)
  rw [← moved]
  cases before.after_state outcome effect with
  | inl kept => rw [kept]
  | inr moved => rw [moved, same]

/-- A target that waits after a call waited before it, unless the call put it. -/
theorem perform_waiting {request : Call} {reply : request.Reply}
    (answered : perform db request choice before = some (reply, after)) {id : GoString} {target : URL}
    (waiting : after.targets id = some target) :
    before.targets id = some target ∨ request = .put id target := by
  by_cases foreign : request.foreign = true
  · rw [perform_foreign foreign answered] at waiting
    exact .inl waiting
  · cases request
    case put other url =>
      cases answered
      dsimp only at waiting
      split at waiting
      · next same =>
          cases waiting
          exact .inr (by rw [same])
      · exact .inl waiting
    case take other =>
      cases answered
      dsimp only at waiting
      split at waiting
      · cases waiting
      · exact .inl waiting
    case delete other =>
      cases answered
      dsimp only at waiting
      split at waiting
      · cases waiting
      · exact .inl waiting
    all_goals first | exact absurd rfl foreign | skip
    all_goals
      cases choice with
      | reply replies => cases answered
      | statement outcome =>
          left
          rw [← after_targets ?_ answered]
          · exact waiting
          · first | rfl | split <;> rfl

theorem perform_taken (db : Database) (choice : Choice) {id : GoString} {reply : Option URL}
    (answered : perform db (.take id) choice before = some (reply, after)) : before.targets id = reply :=
  congrArg Prod.fst (Option.some.inj answered)

private theorem supplied_step {config next : ConsoleConfig} {label : ConsoleLabel} (supplied : Supplied config)
    (transition : (panel.system db).Transition config label next) : Supplied next := by
  cases transition with
  | spawned task => exact ⟨supplied.waiting, supplied.taken⟩
  | crashed =>
      constructor
      · intro id target impossible
        cases impossible
      · exact supplied.taken
  | external acted => cases acted
  | performed found answered =>
      next t task request continuation choice reply state =>
      constructor
      · intro id target waiting
        cases perform_waiting answered waiting with
        | inl former => exact (supplied.waiting id target former).cons _
        | inr put =>
            subst put
            exact ⟨t, List.mem_cons_self⟩
      · intro earlier u id target last
        cases List.suffix_cons_iff.mp last with
        | inl same =>
            obtain ⟨same, rfl⟩ := List.cons.inj same
            cases same
            exact supplied.waiting id target (perform_taken db choice answered)
        | inr last => exact supplied.taken earlier u id target last

end Steps

section Runs

variable {panel : Panel} {db : Database} {state : State} {config : ConsoleConfig}
  {meets : ConsoleConfig → ConsoleLabel → Prop}

theorem panel_disciplined (run : (panel.system db).Run meets (Config.initial state) config) :
    Disciplined panel.audit config :=
  Disciplined.run (panel_passes panel db) run fun _ _ _ => trivial

theorem panel_supplied (empty : ∀ id, state.targets id = none)
    (run : (panel.system db).Run meets (Config.initial state) config) : Supplied config := by
  apply System.Run.invariant run
  · constructor
    · intro id target waiting
      cases (empty id).symm.trans waiting
    · intro earlier t id target impossible
      cases List.suffix_nil.mp impossible
  · intro before label after _ transition _ supplied
    exact supplied_step supplied transition

/-- Whatever the providers, the resolver and the clients do: every dial is one
of `dialAllowed` for a target that was taken for the session, and the thread
that stored the target had read the connection of the server before. -/
theorem dials_confined (panel : Panel) (db : Database) (state : State) (empty : ∀ id, state.targets id = none)
    (config : ConsoleConfig) (run : (panel.system db).Run (fun _ _ => True) (Config.initial state) config)
    (earlier : ConsoleHistory) (t : Nat) (network address : GoString) (reply : Except GoError Unit)
    (made : (t, ⟨.dial network address, reply⟩) :: earlier <:+ config.history) :
    ∃ id target, (t, ⟨.take id, some target⟩) ∈ earlier ∧
      (∃ host port answers, Dialled panel target (own t earlier) network address host port answers) ∧
      ∃ u task before, (u, ⟨.put id target, ()⟩) :: before <:+ earlier ∧ Backed task (own u before) target := by
  have disciplined := panel_disciplined run
  have supplied := panel_supplied empty run
  obtain ⟨later, split⟩ := made
  obtain ⟨_, _, target, host, port, answers, proxied, dialled⟩ := disciplined.justified split.symm
  have visible : earlier <:+ config.history := (List.suffix_cons _ earlier).trans ⟨later, split⟩
  obtain ⟨_, beforeProxy, _, proxyMade, _, _, _, session, _, _, _, taken⟩ :=
    disciplined.traced visible (mem_own.mp proxied)
  have proxyEarlier : beforeProxy <:+ earlier := (List.suffix_cons _ beforeProxy).trans proxyMade
  obtain ⟨_, beforeTake, _, takeMade, _⟩ :=
    disciplined.traced (proxyEarlier.trans visible) (mem_own.mp taken)
  have takeEarlier : beforeTake <:+ earlier :=
    (List.suffix_cons _ beforeTake).trans (takeMade.trans proxyEarlier)
  obtain ⟨u, put⟩ := supplied.taken beforeTake t session.id target
    (takeMade.trans (proxyEarlier.trans visible))
  obtain ⟨creator, beforePut, _, putMade, _, _, backed⟩ := disciplined.traced (takeEarlier.trans visible) put
  refine ⟨session.id, target, proxyEarlier.subset (mem_own.mp taken), ⟨host, port, answers, dialled⟩, u,
    creator.task, beforePut, putMade.trans takeEarlier, backed⟩

end Runs

/-! ## A session -/

def Call.dials : Call → Bool
  | .dial _ _ => true
  | _ => false

def vncTarget : URL := { scheme := text "vnc+tcp", host := text "203.0.113.7:5900" }

/-- A library that knows one literal. -/
def vncLibrary : NetLibrary :=
  { asciiLibrary with
    parseIP := fun value => if value = text "203.0.113.7" then some documentationIP else none }

def vncPanel : Panel := ⟨vncLibrary, ⟨[], false⟩, 60000000000⟩

def vncConnection : Power.Connection :=
  ⟨text "connection", text "virtualizor", text "https://panel.example.test:4085", text "{}", [], [], 1⟩

def vncServer : Inventory.Server :=
  let available : Capability := ⟨true, []⟩
  ⟨text "server", text "connection", text "7", text "default", text "vps", .running, text "1", text "{}",
    text "[]", .ok ⟨available, available, available, available, available, available⟩, 0, 0, 0⟩

def vncReplies : (call : Call) → call.Reply
  | .now => 0
  | .newID => text "session"
  | .newTicket => text "ticket"
  | .newAuditID => text "audit"
  | .findServer _ => .ok vncServer
  | .findConnection _ => .ok vncConnection
  | .decrypt _ => .ok (text "secret")
  | .createProvider _ | .append _ | .dial _ _ | .accept | .handshake => .ok ()
  | .openConsole _ _ => .ok ⟨text "rfb", some vncTarget, text "password"⟩
  | .lookup _ => .error (.plain (text "no such host"))
  | .dialAllowed _ _ | .proxy _ | .put _ _ | .delete _ => ()
  | .expired => false
  | .connections _ => []
  | .relay => .completed
  | .findSession _ => .error (.sentinel .consoleSessionNotFound)
  | .openSession _ _ => .ok []
  | .createSession _ | .closeSession _ _ _ | .backup | .restore _ => .ok ()
  | .take _ => none

def vncAdvance (thread count : Nat) : List (System.Move Task Choice) :=
  List.replicate count (.advance thread (.reply vncReplies))

def vncStatement (thread : Nat) : System.Move Task Choice :=
  .advance thread (.statement .done)

/-- A ticket is made and taken to a target that is dialled. -/
def vncSchedule : List (System.Move Task Choice) :=
  .spawn (.createEmbedded (text "server") (text "request") (text "198.51.100.9")) ::
    (vncAdvance 0 8 ++ vncStatement 0 :: vncAdvance 0 4) ++
    .spawn (.open_ (text "ticket")) ::
    (vncAdvance 1 1 ++ vncStatement 1 :: vncStatement 1 :: vncAdvance 1 8 ++
      vncStatement 1 :: vncAdvance 1 3)

def nothing : State := ⟨[], fun _ => none, []⟩

theorem dials_confined_vnc : ∃ config t network address reply earlier,
    (vncPanel.system (.plain .sqlite)).outcome (fun _ => true) vncSchedule (Config.initial nothing) = some config ∧
    (t, ⟨.dial network address, reply⟩) :: earlier <:+ config.history ∧
    ∃ id target, (t, ⟨.take id, some target⟩) ∈ earlier ∧
      (∃ host port answers, Dialled vncPanel target (own t earlier) network address host port answers) ∧
      ∃ u task before, (u, ⟨.put id target, ()⟩) :: before <:+ earlier ∧ Backed task (own u before) target := by
  have executed : ((vncPanel.system (.plain .sqlite)).outcome (fun _ => true) vncSchedule
      (Config.initial nothing)).map (fun config => config.history.any fun entry => entry.2.call.dials) =
      some true := by
    decide +kernel
  obtain ⟨config, reached, dialled⟩ := Option.map_eq_some_iff.mp executed
  obtain ⟨⟨t, request, reply⟩, member, dials⟩ := List.any_eq_true.mp dialled
  cases request
  case dial network address =>
    obtain ⟨later, earlier, split⟩ := List.append_of_mem member
    have run : (vncPanel.system (.plain .sqlite)).Run (fun _ _ => True) (Config.initial nothing) config :=
      System.outcome_run reached fun _ _ _ => trivial
    have made : (t, ⟨.dial network address, reply⟩) :: earlier <:+ config.history := ⟨later, split.symm⟩
    exact ⟨config, t, network, address, reply, earlier, reached, made,
      dials_confined vncPanel (.plain .sqlite) nothing (fun _ => rfl) config run earlier t network address reply made⟩
  all_goals cases dials

end NodeAtlas.Console
