import NodeAtlas.Console.Audit

/-! The links that the console hands out: windows of consoles and portals. -/

set_option autoImplicit false

namespace NodeAtlas.Console

open Interleaving Providers

/-! ## The service -/

inductive Link where
  | window
  | portal
  deriving DecidableEq, Repr

def Link.mode : Link → GoString
  | .window => text "window"
  | .portal => text "portal"

def Link.eventType : Link → GoString
  | .window => text "console_window_opened"
  | .portal => text "provider_portal_opened"

def Link.capability (capabilities : Capabilities) : Link → Capability
  | .window => capabilities.canOpenConsoleWindow
  | .portal => capabilities.hasProviderPortal

def trustedMockPage (providerType : GoString) (target : URL) : Option GoString :=
  if providerType ≠ text "mock" ∨ target.scheme ≠ text "mock+page" ∨ target.user ≠ none ∨ target.fragment ≠ [] ∨
      target.rawQuery ≠ [] ∨ (target.path ≠ [] ∧ target.path ≠ text "/") ∨ target.port ≠ [] then none
  else if target.hostname = text "console" then some (text "/api/v1/mock-pages/console")
  else if target.hostname = text "portal" then some (text "/api/v1/mock-pages/portal")
  else none

example : trustedMockPage (text "mock") { scheme := text "mock+page", host := text "portal", path := text "/" } =
    some (text "/api/v1/mock-pages/portal") := by
  decide

section Links

variable (panel : Panel) (opens : Link → ConnectionConfig → ServerRef → Except GoError (Option URL))

/-- The end of `externalTarget` and of `ProviderPortal`: what is handed out is
audited before. -/
def handOut (link : Link) (server : Inventory.Server) (requestID sourceIP url : GoString) :
    Process (Except GoError GoString) := do
  match ← appendAudit server.id link.eventType requestID sourceIP [(text "mode", link.mode)] with
  | .error failure => return .error failure
  | .ok () => return .ok url

/-- `externalTarget`, and `ProviderPortal`, which differs in the capability, the
call of the provider and the texts of its audit entry. `opens` is what the
provider answers. -/
def externalTarget (link : Link) (serverID requestID sourceIP : GoString) : Process (Except GoError GoString) := do
  match ← serverCapabilities serverID with
  | .error failure => return .error failure
  | .ok (server, capabilities) =>
      if (link.capability capabilities).available = false then return .error errConsoleUnavailable
      else
        match ← openProvider server.connectionID with
        | .error failure => return .error failure
        | .ok (provider, providerType) =>
            match opens link provider ⟨server.externalID, server.scope⟩ with
            | .error failure => return .error failure
            | .ok none => return .error errTargetUnavailable
            | .ok (some target) =>
                match trustedMockPage providerType target with
                | some page => handOut link server requestID sourceIP page
                | none =>
                    match ← panel.policy.validateExternal panel.library (some target) with
                    | .error failure => return .error failure
                    | .ok () => handOut link server requestID sourceIP target.string

def openWindow : (serverID requestID sourceIP : GoString) → Process (Except GoError GoString) :=
  externalTarget panel opens .window

def providerPortal : (serverID requestID sourceIP : GoString) → Process (Except GoError GoString) :=
  externalTarget panel opens .portal

end Links

/-! ## What is handed out -/

/-- The host is a literal, or the resolver has answered this for it. -/
def Answered (library : NetLibrary) (host : GoString) (answers : List (Option IP)) (events : List ConsoleEvent) : Prop :=
  (∃ literal, library.parseIP host = some literal ∧ answers = [some literal]) ∨
    (⟨.lookup host, .ok answers⟩ : ConsoleEvent) ∈ events

/-- A page of the panel for its mock provider, or a URL that the policy lets out. -/
inductive Vetted (panel : Panel) (events : List ConsoleEvent) (providerType : GoString) (target : URL) :
    GoString → Prop where
  | page {page} (mock : providerType = text "mock")
      (listed : page ∈ [text "/api/v1/mock-pages/console", text "/api/v1/mock-pages/portal"]) :
      Vetted panel events providerType target page
  | external {answers} (secure : target.scheme = text "https") (shaped : validateURLShape target = true)
      (answered : Answered panel.library target.hostname answers events) (some_ : answers ≠ [])
      (allowed : ∀ address ∈ answers, panel.policy.addressAllowed address = true) :
      Vetted panel events providerType target target.string

/-- The server is there, and says that it has such a link. -/
def Offered (link : Link) (serverID : GoString) (server : Inventory.Server) (events : List ConsoleEvent) : Prop :=
  (⟨.findServer serverID, .ok server⟩ : ConsoleEvent) ∈ events ∧
    ∃ capabilities, server.capabilities = .ok capabilities ∧ (link.capability capabilities).available = true

/-- The link is one that the provider of the server's connection has given, and it was vetted. -/
def Given (panel : Panel) (opens : Link → ConnectionConfig → ServerRef → Except GoError (Option URL)) (link : Link)
    (server : Inventory.Server) (events : List ConsoleEvent) (url : GoString) : Prop :=
  ∃ connection plaintext target,
    (⟨.findConnection server.connectionID, .ok connection⟩ : ConsoleEvent) ∈ events ∧
    (⟨.decrypt connection, .ok plaintext⟩ : ConsoleEvent) ∈ events ∧
    opens link ⟨connection.id, connection.providerType, connection.endpoint, connection.settings, plaintext⟩
      ⟨server.externalID, server.scope⟩ = .ok (some target) ∧
    Vetted panel events connection.providerType target url

/-- A provider is asked for only where the link is offered, an audit entry is
written only for a link that is given, and nothing else is changed. -/
def LinkRule (panel : Panel) (opens : Link → ConnectionConfig → ServerRef → Except GoError (Option URL)) (link : Link)
    (serverID requestID sourceIP : GoString) (earlier : List ConsoleEvent) (event : ConsoleEvent) : Prop :=
  match event.call with
  | .findConnection _ | .decrypt _ | .createProvider _ | .lookup _ => ∃ server, Offered link serverID server earlier
  | .append entry => ∃ server url, Offered link serverID server earlier ∧
      Given panel opens link server earlier url ∧ entry.eventType = link.eventType ∧ entry.targetID = server.id ∧
      entry.requestID = requestID ∧ entry.sourceIP = sourceIP
  | .now | .newAuditID | .findServer _ => True
  | _ => False

/-- A link that was handed out was given by the provider, and the last thing done was its audit entry. -/
def Closing (panel : Panel) (opens : Link → ConnectionConfig → ServerRef → Except GoError (Option URL)) (link : Link)
    (serverID : GoString) (events : List ConsoleEvent) (result : Except GoError GoString) : Prop :=
  ∀ url, result = .ok url → ∃ server entry earlier, events = ⟨.append entry, .ok ()⟩ :: earlier ∧
    entry.eventType = link.eventType ∧ entry.targetID = server.id ∧ Offered link serverID server earlier ∧
    Given panel opens link server earlier url

section Proof

variable {panel : Panel} {opens : Link → ConnectionConfig → ServerRef → Except GoError (Option URL)} {link : Link}
  {serverID requestID sourceIP : GoString} {server : Inventory.Server} {earlier events : List ConsoleEvent}

abbrev LinkKept {α : Type} (panel : Panel) (opens : Link → ConnectionConfig → ServerRef → Except GoError (Option URL))
    (link : Link) (serverID requestID sourceIP : GoString) (closing : List ConsoleEvent → α → Prop)
    (earlier : List ConsoleEvent) (program : Process α) : Prop :=
  program.Audited (fun _ => True) (LinkRule panel opens link serverID requestID sourceIP) closing earlier

theorem Offered.mono (offered : Offered link serverID server earlier) (grown : earlier ⊆ events) :
    Offered link serverID server events :=
  ⟨grown offered.1, offered.2⟩

theorem Vetted.mono {providerType url : GoString} {target : URL} (vetted : Vetted panel earlier providerType target url)
    (grown : earlier ⊆ events) : Vetted panel events providerType target url := by
  cases vetted with
  | page mock listed => exact .page mock listed
  | external secure shaped answered some_ allowed =>
      exact .external secure shaped (answered.imp_right fun member => grown member) some_ allowed

theorem Given.mono {url : GoString} (given : Given panel opens link server earlier url) (grown : earlier ⊆ events) :
    Given panel opens link server events url := by
  obtain ⟨connection, plaintext, target, found, decrypted, opened, vetted⟩ := given
  exact ⟨connection, plaintext, target, grown found, grown decrypted, opened, vetted.mono grown⟩

theorem trustedMockPage_some {providerType page : GoString} {target : URL}
    (trusted : trustedMockPage providerType target = some page) :
    providerType = text "mock" ∧ page ∈ [text "/api/v1/mock-pages/console", text "/api/v1/mock-pages/portal"] := by
  unfold trustedMockPage at trusted
  split at trusted
  · cases trusted
  · next fine =>
    have mock : providerType = text "mock" := by
      by_contra other
      exact fine (.inl other)
    refine ⟨mock, ?_⟩
    split at trusted
    · cases trusted
      exact List.mem_cons_self
    · split at trusted
      · cases trusted
        exact List.mem_cons_of_mem _ List.mem_cons_self
      · cases trusted

theorem handOut_kept {url : GoString} (offered : Offered link serverID server earlier)
    (given : Given panel opens link server earlier url) :
    LinkKept panel opens link serverID requestID sourceIP (Closing panel opens link serverID) earlier
      (handOut link server requestID sourceIP url) := by
  intro id _
  refine ⟨trivial, ?_⟩
  intro now _
  refine ⟨trivial, ?_⟩
  have grown : earlier ⊆ ⟨Call.now, now⟩ :: ⟨Call.newAuditID, id⟩ :: earlier := fun event member =>
    List.mem_cons_of_mem _ (List.mem_cons_of_mem _ member)
  intro reply _
  refine ⟨⟨server, url, offered.mono grown, given.mono grown, rfl, rfl, rfl, rfl⟩, ?_⟩
  cases reply with
  | error failure =>
      intro other impossible
      cases impossible
  | ok _ =>
      intro other same
      cases same
      exact ⟨server, _, _, rfl, rfl, rfl, offered.mono grown, given.mono grown⟩

theorem validateExternal_kept (offered : Offered link serverID server earlier) (target : URL) :
    LinkKept panel opens link serverID requestID sourceIP
      (fun events result => earlier ⊆ events ∧ (result = .ok () → ∀ providerType,
        Vetted panel events providerType target target.string)) earlier
      (panel.policy.validateExternal panel.library (some target)) := by
  unfold TargetPolicy.validateExternal
  dsimp only
  split
  · exact ⟨fun _ member => member, fun impossible => by cases impossible⟩
  · next secure =>
    unfold TargetPolicy.validateNetworkTarget
    split
    · exact ⟨fun _ member => member, fun impossible => by cases impossible⟩
    · next shaped =>
      have looked : LinkKept panel opens link serverID requestID sourceIP
          (fun events result => earlier ⊆ events ∧ ∀ answers, result = .ok answers →
            Answered panel.library target.hostname answers events) earlier
          (TargetPolicy.lookUp panel.library target.hostname) := by
        unfold TargetPolicy.lookUp
        split
        · next literal known =>
          refine ⟨fun _ member => member, fun answers same => ?_⟩
          cases same
          exact .inl ⟨literal, known, rfl⟩
        · intro reply _
          refine ⟨⟨server, offered⟩, fun _ member => List.mem_cons_of_mem _ member, fun answers same => ?_⟩
          cases same
          exact .inr List.mem_cons_self
      have resolved : LinkKept panel opens link serverID requestID sourceIP
          (fun events result => earlier ⊆ events ∧ ∀ answers, result = .ok answers →
            Answered panel.library target.hostname answers events ∧ answers ≠ [] ∧
              ∀ address ∈ answers, panel.policy.addressAllowed address = true) earlier
          (panel.policy.resolveAllowed panel.library target.hostname) := by
        apply Program.Audited.bind looked
        intro events result asked
        cases result with
        | error failure => exact ⟨asked.1, fun _ impossible => by cases impossible⟩
        | ok addresses =>
            dsimp only
            split
            · exact ⟨asked.1, fun _ impossible => by cases impossible⟩
            · next some_ =>
              split
              · next allowed =>
                refine ⟨asked.1, fun answers same => ?_⟩
                cases same
                exact ⟨asked.2 addresses rfl, some_, List.all_eq_true.mp allowed⟩
              · exact ⟨asked.1, fun _ impossible => by cases impossible⟩
      apply Program.Audited.bind resolved
      intro events result answered
      cases result with
      | error failure => exact ⟨answered.1, fun impossible => by cases impossible⟩
      | ok addresses =>
          refine ⟨answered.1, fun _ providerType => ?_⟩
          obtain ⟨answers, some_, allowed⟩ := answered.2 addresses rfl
          exact .external (not_not.mp secure) (by simpa using shaped) answers some_ allowed

theorem openProvider_links (offered : Offered link serverID server earlier) (connectionID : GoString) :
    LinkKept panel opens link serverID requestID sourceIP
      (fun events result => earlier ⊆ events ∧ ∀ config providerType, result = .ok (config, providerType) →
        ∃ connection plaintext, (⟨.findConnection connectionID, .ok connection⟩ : ConsoleEvent) ∈ events ∧
          (⟨.decrypt connection, .ok plaintext⟩ : ConsoleEvent) ∈ events ∧
          config = ⟨connection.id, connection.providerType, connection.endpoint, connection.settings, plaintext⟩ ∧
          providerType = connection.providerType) earlier (openProvider connectionID) := by
  intro found _
  refine ⟨⟨server, offered⟩, ?_⟩
  have first : earlier ⊆ ⟨Call.findConnection connectionID, found⟩ :: earlier := fun _ member =>
    List.mem_cons_of_mem _ member
  cases found with
  | error failure => exact ⟨first, fun _ _ impossible => by cases impossible⟩
  | ok connection =>
      intro decrypted _
      refine ⟨⟨server, offered.mono first⟩, ?_⟩
      have second : earlier ⊆ ⟨Call.decrypt connection, decrypted⟩ :: ⟨Call.findConnection connectionID, .ok connection⟩ ::
          earlier := fun _ member => List.mem_cons_of_mem _ (first member)
      cases decrypted with
      | error failure => exact ⟨second, fun _ _ impossible => by cases impossible⟩
      | ok plaintext =>
          intro created _
          refine ⟨⟨server, offered.mono second⟩, ?_⟩
          cases created with
          | error failure =>
              exact ⟨fun _ member => List.mem_cons_of_mem _ (second member), fun _ _ impossible => by cases impossible⟩
          | ok _ =>
              refine ⟨fun _ member => List.mem_cons_of_mem _ (second member), fun config providerType same => ?_⟩
              cases same
              exact ⟨connection, plaintext, by simp, by simp, rfl, rfl⟩

theorem externalTarget_kept :
    LinkKept panel opens link serverID requestID sourceIP (Closing panel opens link serverID) []
      (externalTarget panel opens link serverID requestID sourceIP) := by
  have refused : ∀ {events : List ConsoleEvent} {failure : GoError},
      Closing panel opens link serverID events (.error failure) := by
    intro events failure url impossible
    cases impossible
  have described : LinkKept panel opens link serverID requestID sourceIP
      (fun events result => ∀ server capabilities, result = .ok (server, capabilities) →
        (⟨.findServer serverID, .ok server⟩ : ConsoleEvent) ∈ events ∧ server.capabilities = .ok capabilities) []
      (serverCapabilities serverID) := by
    intro reply _
    refine ⟨trivial, ?_⟩
    cases reply with
    | error failure => exact fun _ _ impossible => by cases impossible
    | ok server =>
        dsimp only [Program.bind]
        split
        · exact fun _ _ impossible => by cases impossible
        · next capabilities known =>
          intro other capabilities same
          cases same
          exact ⟨List.mem_cons_self, known⟩
  unfold externalTarget
  apply Program.Audited.bind described
  intro events result known
  cases result with
  | error failure => exact refused
  | ok pair =>
      obtain ⟨server, capabilities⟩ := pair
      obtain ⟨found, shown⟩ := known server capabilities rfl
      dsimp only
      split
      · exact refused
      · next available =>
        have offered : Offered link serverID server events := ⟨found, capabilities, shown, by simpa using available⟩
        apply Program.Audited.bind (openProvider_links offered server.connectionID)
        intro events result opened
        cases result with
        | error failure => exact refused
        | ok pair =>
            obtain ⟨config, providerType⟩ := pair
            obtain ⟨grown, opened⟩ := opened
            obtain ⟨connection, plaintext, located, decrypted, rfl, rfl⟩ := opened config providerType rfl
            have offered := offered.mono grown
            dsimp only
            split
            · exact refused
            · exact refused
            · next target answer =>
              split
              · next page trusted =>
                obtain ⟨mock, listed⟩ := trustedMockPage_some trusted
                exact handOut_kept offered ⟨connection, plaintext, target, located, decrypted, answer, .page mock listed⟩
              · apply Program.Audited.bind (validateExternal_kept offered target)
                intro events result checked
                cases result with
                | error failure => exact refused
                | ok _ =>
                    obtain ⟨grown, vetted⟩ := checked
                    exact handOut_kept (offered.mono grown)
                      ⟨connection, plaintext, target, grown located, grown decrypted, answer, vetted rfl _⟩

end Proof

/-- In every run, whatever is replied, a window of a console or a portal is handed
out only for a server that offers it, as a page for the mock provider or as an https
URL that the provider of the server's connection gave, whose host the policy has
looked up and allowed with every address; and its audit entry is appended before.
Nothing else is changed on the way, and no entry is written for anything else. -/
theorem links_vetted (panel : Panel)
    (opens : Link → ConnectionConfig → ServerRef → Except GoError (Option URL)) (serverID requestID sourceIP : GoString) :
    (openWindow panel opens serverID requestID sourceIP).Audited (fun _ => True)
      (LinkRule panel opens .window serverID requestID sourceIP) (Closing panel opens .window serverID) [] ∧
    (providerPortal panel opens serverID requestID sourceIP).Audited (fun _ => True)
      (LinkRule panel opens .portal serverID requestID sourceIP) (Closing panel opens .portal serverID) [] :=
  ⟨externalTarget_kept, externalTarget_kept⟩

end NodeAtlas.Console
