import NodeAtlas.Network.Factories
import NodeAtlas.URL.Roundtrip

/-! The traffic of a provider stays with its endpoint: where requests go, and
which addresses are dialled for them. -/

set_option autoImplicit false

namespace NodeAtlas.Network

open Interleaving Providers

section Rules

variable (library : NetLibrary)

/-- The URL has the scheme, the host and the effective port of the endpoint. -/
structure AtOrigin (endpoint url : URL) : Prop where
  scheme : url.scheme = text "https"
  same : url.scheme = endpoint.scheme
  host : library.equalFold url.hostname endpoint.hostname = true
  port : effectivePort url = effectivePort endpoint

/-- The events that end with an answer set for a host: the host is a literal,
or the resolver was asked for it. -/
def Resolved (host : GoString) (answers : List (Option IP)) (before events : List NetEvent) : Prop :=
  (∃ literal, library.parseIP host = some literal ∧ answers = [some literal] ∧ events = before) ∨
    library.parseIP host = none ∧ events = ⟨.lookup host, .ok answers⟩ :: before

/-- One dial of `DialContext`: before it, and behind the moment when the
transport asked for the connection, all there is are the answer set and dials
of other addresses from it. The policy allows every address of the set. -/
def Dialled (policy : Policy) (earlier : List NetEvent) (network address : GoString) : Prop :=
  ∃ (hostPort host port : GoString) (answers : List (Option IP)) (failed events before : List NetEvent),
    splitHostPort hostPort = some (host, port) ∧
    earlier = failed ++ events ∧
    (∀ event ∈ failed, ∃ resolved ∈ answers,
      event.call = .dial network (joinHostPort (addressText resolved) port)) ∧
    Resolved library (trimSpace host) answers (⟨.connect network hostPort, ()⟩ :: before) events ∧
    (∀ resolved ∈ answers, policy.addressAllowed resolved = true) ∧
    ∃ literal, some literal ∈ answers ∧ address = joinHostPort literal.string port

/-- What each event has to obey, given the events before it, latest first. -/
def Confined (policy : Policy) (endpoint : URL) (earlier : List NetEvent) (event : NetEvent) : Prop :=
  match event.call with
  | .send url => AtOrigin library endpoint url
  | .dial network address => Dialled library policy earlier network address
  | _ => True

end Rules

variable {library : NetLibrary} {policy : Policy} {endpoint : URL} {earlier : List NetEvent}

/-- A program whose events are confined, whatever is replied to it. -/
abbrev Kept {α : Type} (library : NetLibrary) (policy : Policy) (endpoint : URL)
    (closing : List NetEvent → α → Prop) (earlier : List NetEvent) (program : Process α) : Prop :=
  program.Audited (fun _ => True) (Confined library policy endpoint) closing earlier

/-! ## Dialling -/

private theorem lookUp_kept (host : GoString) :
    Kept library policy endpoint (fun events result => ∀ answers, result = .ok answers →
      Resolved library host answers earlier events) earlier (Policy.lookUp library host) := by
  unfold Policy.lookUp
  split
  · next literal known =>
      intro answers same
      cases same
      exact .inl ⟨literal, known, rfl, rfl⟩
  · next unknown =>
      intro reply _
      refine ⟨trivial, ?_⟩
      cases reply with
      | error failure =>
          intro answers impossible
          cases impossible
      | ok addresses =>
          intro answers same
          cases same
          exact .inr ⟨unknown, rfl⟩

private theorem resolveAllowed_kept (host : GoString) :
    Kept library policy endpoint (fun events result => ∀ answers, result = .ok answers →
      Resolved library (trimSpace host) answers earlier events ∧
        ∀ resolved ∈ answers, policy.addressAllowed resolved = true) earlier
      (policy.resolveAllowed library host) := by
  unfold Policy.resolveAllowed
  split
  · intro answers impossible
    cases impossible
  · apply Program.Audited.bind (lookUp_kept (trimSpace host))
    intro events result answered
    cases result with
    | error failure =>
        intro answers impossible
        cases impossible
    | ok addresses =>
        dsimp only
        split
        · intro answers impossible
          cases impossible
        · split
          · next allowed =>
              intro answers same
              cases same
              exact ⟨answered addresses rfl, List.all_eq_true.mp allowed⟩
          · intro answers impossible
            cases impossible

private theorem validate_kept (target : URL) :
    Kept library policy endpoint (fun _ _ => True) earlier (policy.validate library target) := by
  unfold Policy.validate
  split
  · trivial
  · apply Program.Audited.bind (resolveAllowed_kept target.hostname)
    intro events result _
    cases result <;> trivial

private theorem dialEach_kept {hostPort host port network : GoString} {answers : List (Option IP)}
    {events before : List NetEvent} (located : splitHostPort hostPort = some (host, port))
    (resolved : Resolved library (trimSpace host) answers (⟨.connect network hostPort, ()⟩ :: before) events)
    (allowed : ∀ resolved ∈ answers, policy.addressAllowed resolved = true)
    (remaining : List (Option IP)) (inside : ∀ each ∈ remaining, each ∈ answers) (lastErr : Option GoError)
    (failed : List NetEvent) (dials : ∀ event ∈ failed, ∃ resolved ∈ answers,
      event.call = .dial network (joinHostPort (addressText resolved) port)) :
    Kept library policy endpoint (fun _ _ => True) (failed ++ events)
      (dialEach network port remaining lastErr) := by
  induction remaining generalizing failed lastErr with
  | nil => trivial
  | cons each rest ih =>
      intro reply _
      obtain ⟨listed, others⟩ := List.forall_mem_cons.mp inside
      constructor
      · cases each with
        | none => exact absurd (allowed none listed) (by simp [Policy.addressAllowed, IP.allowed])
        | some literal =>
            exact ⟨hostPort, host, port, answers, failed, events, before, located, rfl, dials, resolved,
              allowed, literal, listed, rfl⟩
      · cases reply with
        | ok => trivial
        | error dialErr =>
            let event : NetEvent := ⟨.dial network (joinHostPort (addressText each) port), .error dialErr⟩
            exact ih others (some dialErr) (event :: failed)
              (List.forall_mem_cons.mpr ⟨⟨each, listed, rfl⟩, dials⟩)

private theorem dialContext_kept (network address : GoString) :
    Kept library policy endpoint (fun _ _ => True) earlier (dialContext library policy network address) := by
  intro reply _
  refine ⟨trivial, ?_⟩
  split
  · trivial
  · next host port located =>
      apply Program.Audited.bind (resolveAllowed_kept host)
      intro events result answered
      cases result with
      | error failure => trivial
      | ok addresses =>
          obtain ⟨resolved, allowed⟩ := answered addresses rfl
          exact dialEach_kept located resolved allowed addresses (fun _ present => present) none []
            (fun _ impossible => by cases impossible)

private theorem dialAll_kept (wanted : List (GoString × GoString)) :
    Kept library policy endpoint (fun _ _ => True) earlier (dialAll library policy wanted) := by
  induction wanted generalizing earlier with
  | nil => trivial
  | cons first rest ih =>
      apply Program.Audited.bind (dialContext_kept first.1 first.2)
      intro events _ _
      exact ih

/-! ## Redirects -/

/-- A client that lets no request leave the endpoint. -/
structure Guarded (library : NetLibrary) (endpoint : URL) (client : HTTPClient) : Prop where
  https : client.allowHTTP = false
  redirects : ∀ url via earlier,
    Kept library client.policy endpoint
      (fun _ result => result = .ok () →
        library.equalFold url.hostname endpoint.hostname = true ∧
          effectivePort url = effectivePort endpoint) earlier
      (client.checkRedirect url via)

private theorem roundTrip_kept {client : HTTPClient} {url : URL} (guarded : Guarded library endpoint client)
    (secure : endpoint.scheme = text "https")
    (host : library.equalFold url.hostname endpoint.hostname = true)
    (port : effectivePort url = effectivePort endpoint) :
    Kept library client.policy endpoint (fun _ _ => True) earlier (client.roundTrip library url) := by
  unfold HTTPClient.roundTrip
  split
  · trivial
  · next scheme =>
      have https : url.scheme = text "https" := by
        simpa [guarded.https] using scheme
      intro wanted _
      refine ⟨trivial, ?_⟩
      apply Program.Audited.bind (dialAll_kept wanted)
      intro events _ _ reply _
      exact ⟨⟨https, https.trans secure.symm, host, port⟩, trivial⟩

/-- However often the upstream redirects, its client stays with the endpoint. -/
private theorem follow_kept {client : HTTPClient} (guarded : Guarded library endpoint client)
    (secure : endpoint.scheme = text "https") (bound via : Nat) {url : URL}
    (host : library.equalFold url.hostname endpoint.hostname = true)
    (port : effectivePort url = effectivePort endpoint) :
    Kept library client.policy endpoint (fun _ _ => True) earlier (client.follow library bound via url) := by
  induction bound generalizing via url earlier with
  | zero => trivial
  | succ bound ih =>
      apply Program.Audited.bind (roundTrip_kept guarded secure host port)
      intro events reply _
      cases reply with
      | response status => trivial
      | failed failure => trivial
      | redirect next =>
          apply Program.Audited.bind (guarded.redirects next (via + 1) events)
          intro events result checked
          cases result with
          | error failure => trivial
          | ok =>
              obtain ⟨host, port⟩ := checked rfl
              exact ih (via + 1) host port

private theorem sameOrigin_right {left right : URL} (same : sameOrigin library left right = true) :
    library.equalFold left.hostname right.hostname = true ∧ effectivePort left = effectivePort right := by
  simp only [sameOrigin, Bool.and_eq_true, decide_eq_true_eq] at same
  exact ⟨same.1.2, same.2⟩

private theorem sameOrigin_left {left right : URL} (same : sameOrigin library left right = true) :
    library.equalFold right.hostname left.hostname = true ∧ effectivePort right = effectivePort left := by
  obtain ⟨host, port⟩ := sameOrigin_right same
  exact ⟨library.symmetric left.hostname _ ▸ host, port.symm⟩

/-! ## Factories -/

/-- What the adapters have in common once their factory has built a provider. -/
structure Established (library : NetLibrary) (policy : Policy) (endpoint : URL) (provider : Provider) :
    Prop where
  secure : endpoint.scheme = text "https"
  named : endpoint.host ≠ []
  scheme : provider.apiBase.scheme = endpoint.scheme
  host : provider.apiBase.host = endpoint.host
  user : provider.apiBase.user = none
  opaque_ : provider.apiBase.opaque_ = endpoint.opaque_
  policy : provider.client.policy = policy
  guarded : Guarded library endpoint provider.client

private theorem hostname_same {left right : URL} (same : left.host = right.host) :
    left.hostname = right.hostname := by
  rw [URL.hostname, URL.hostname, same]

private theorem effectivePort_same {left right : URL} (scheme : left.scheme = right.scheme)
    (host : left.host = right.host) : effectivePort left = effectivePort right := by
  rw [effectivePort, effectivePort, scheme, URL.port, URL.port, host]

/-- The redirect check of `NewHTTPClient`. -/
private theorem newHTTPClient_guarded {panel : URL} (host : panel.host = endpoint.host)
    (scheme : panel.scheme = endpoint.scheme) :
    Guarded library endpoint (newHTTPClient library policy panel false) := by
  refine ⟨rfl, fun url via earlier => ?_⟩
  dsimp only [newHTTPClient]
  split
  · intro impossible
    cases impossible
  · split
    · intro impossible
      cases impossible
    · next same =>
        apply Program.Audited.mono (validate_kept url)
        intro _ _ _ _
        rw [Bool.not_eq_false] at same
        rw [← hostname_same host, ← effectivePort_same scheme host]
        exact sameOrigin_right same

/-- A check that puts its own questions before the one about the origin. -/
private theorem checkRedirect_kept {panel url : URL} {refused : Prop} [Decidable refused]
    (refusal : GoError) (asks : sameOrigin library panel url = false → refused)
    (host : panel.host = endpoint.host) (scheme : panel.scheme = endpoint.scheme) :
    Kept library policy endpoint
      (fun _ result => result = .ok () →
        library.equalFold url.hostname endpoint.hostname = true ∧
          effectivePort url = effectivePort endpoint) earlier
      (if refused then return .error refusal else policy.validate library url) := by
  split
  · intro impossible
    cases impossible
  · next passed =>
      apply Program.Audited.mono (validate_kept url)
      intro _ _ _ _
      have same : sameOrigin library panel url = true := by
        rw [← Bool.not_eq_false]
        exact fun other => passed (asks other)
      rw [← hostname_same host, ← effectivePort_same scheme host]
      exact sameOrigin_left same

private theorem hostname_named {url : URL} (named : url.hostname ≠ []) : url.host ≠ [] := by
  intro empty
  apply named
  rw [URL.hostname, empty]
  rfl

variable {decoders : Decoders} {options : FactoryOptions} {config : ConnectionConfig}

private theorem established_kept {panel : URL} {refusal : GoError} {provider : Provider} :
    Kept library options.policy endpoint (fun _ result => ∀ built, result = .ok built → built = provider) earlier
      (established library options panel refusal provider) := by
  unfold established
  apply Program.Audited.bind (validate_kept panel)
  intro events result _
  cases result with
  | error failure =>
      intro built impossible
      cases impossible
  | ok =>
      intro built same
      cases same
      rfl

/-- Under production options, a factory builds providers of the endpoint that it is given. -/
private theorem virtFusion_kept (production : options.allowHTTP = false) :
    Kept library options.policy endpoint (fun _ result => ∀ provider, result = .ok provider →
      ∃ endpoint, URL.parse library.literal (trimSpace config.endpoint) = some endpoint ∧
        Established library options.policy endpoint provider) earlier
      (VirtFusion.create library decoders options config) := by
  unfold VirtFusion.create
  split
  · intro provider impossible
    cases impossible
  · split
    · intro provider impossible
      cases impossible
    · split
      · intro provider impossible
        cases impossible
      · split
        · intro provider impossible
          cases impossible
        · split
          · intro provider impossible
            cases impossible
          · next portal api normalized =>
              apply Program.Audited.mono established_kept
              intro _ _ built provider same
              rw [built provider same]
              unfold VirtFusion.normalizeEndpoint at normalized
              split at normalized
              · cases normalized
              · next parsed read =>
                  split at normalized
                  · cases normalized
                  · next absolute =>
                      simp only [not_or, ne_eq, Classical.not_not] at absolute
                      split at normalized
                      · cases normalized
                      · next scheme =>
                          simp only [production, Bool.false_eq_true, false_and, not_false_eq_true, and_true,
                            ne_eq, Classical.not_not] at scheme
                          split at normalized
                          · cases normalized
                          · split at normalized
                            · cases normalized
                            · cases normalized
                              rw [production]
                              exact ⟨parsed, read, scheme, absolute.1, rfl, rfl, absolute.2.1, rfl, rfl,
                                newHTTPClient_guarded rfl rfl⟩

private theorem virtualizor_kept :
    Kept library options.policy endpoint (fun _ result => ∀ provider, result = .ok provider →
      ∃ endpoint, URL.parse library.literal (trimSpace config.endpoint) = some endpoint ∧
        Established library options.policy endpoint provider) earlier
      (Virtualizor.create library decoders options config) := by
  unfold Virtualizor.create
  split
  · intro provider impossible
    cases impossible
  · split
    · intro provider impossible
      cases impossible
    · split
      · intro provider impossible
        cases impossible
      · next panel normalized =>
          apply Program.Audited.mono established_kept
          intro _ _ built provider same
          rw [built provider same]
          unfold Virtualizor.normalizeEndpoint at normalized
          dsimp only at normalized
          split at normalized
          · cases normalized
          · next parsed read =>
              split at normalized
              · cases normalized
              · next absolute =>
                  simp only [not_or, ne_eq, Classical.not_not] at absolute
                  split at normalized
                  · cases normalized
                  · cases normalized
                    refine ⟨parsed, read, absolute.1, hostname_named absolute.2.1, rfl, rfl,
                      absolute.2.2.1, rfl, rfl, rfl, fun url via earlier => ?_⟩
                    exact checkRedirect_kept _ (fun other => .inr (.inr other)) rfl rfl

private theorem solusVM2_kept :
    Kept library options.policy endpoint (fun _ result => ∀ provider, result = .ok provider →
      ∃ endpoint, URL.parse library.literal (trimSpace config.endpoint) = some endpoint ∧
        Established library options.policy endpoint provider) earlier
      (SolusVM2.create library decoders options config) := by
  unfold SolusVM2.create
  split
  · intro provider impossible
    cases impossible
  · generalize decoders.empty _ = readable
    split
    · intro provider impossible
      cases impossible
    · split
      · intro provider impossible
        cases impossible
      · split
        · intro provider impossible
          cases impossible
        · next panel api normalized =>
            apply Program.Audited.mono established_kept
            intro _ _ built provider same
            rw [built provider same]
            unfold SolusVM2.normalizeEndpoint at normalized
            dsimp only at normalized
            split at normalized
            · cases normalized
            · next parsed read =>
                split at normalized
                · cases normalized
                · next absolute =>
                    simp only [not_or, ne_eq, Classical.not_not] at absolute
                    split at normalized
                    · cases normalized
                    · split at normalized
                      · cases normalized
                      · cases normalized
                        refine ⟨parsed, read, absolute.1, hostname_named absolute.2.1, rfl, rfl,
                          absolute.2.2.2.1, rfl, rfl, rfl, fun url via earlier => ?_⟩
                        exact checkRedirect_kept _ (fun other => .inr (.inr (.inr (.inr other)))) rfl rfl

private theorem create_kept (production : options.allowHTTP = false) (kind : ProviderType) :
    Kept library options.policy endpoint (fun _ result => ∀ provider, result = .ok provider →
      ∃ endpoint, URL.parse library.literal (trimSpace config.endpoint) = some endpoint ∧
        Established library options.policy endpoint provider) earlier
      (create library decoders options config kind) := by
  cases kind with
  | virtFusion => exact virtFusion_kept production
  | virtualizor => exact virtualizor_kept
  | solusVM2 => exact solusVM2_kept

/-! ## Requests -/

/-- `http.NewRequest` leaves the name and the port of a host as they are. -/
private theorem splitPort_removed {host : GoString} (hosted : URL.Hosted host) :
    URL.splitPort (removeEmptyPort host) = URL.splitPort host := by
  obtain ⟨name, tail, rfl, bare, valid⟩ := hosted.split
  unfold removeEmptyPort
  cases tail with
  | nil =>
      rw [List.append_nil]
      split
      · next before located =>
          obtain ⟨split, _⟩ := cutLast_some located
          have closed : name.getLast? = some (byte ':') := by
            rw [split]
            exact List.getLast?_concat
          cases bare with
          | inl unported => exact absurd (List.mem_of_getLast? closed) unported
          | inr bracketed =>
              rw [bracketed] at closed
              exact absurd closed (by decide)
      · rfl
  | cons colon digits =>
      have plain := valid
      simp only [URL.validOptionalPort, Bool.and_eq_true, decide_eq_true_eq] at plain
      obtain ⟨rfl, plain⟩ := plain
      rw [cutLast_append (URL.digits_uncolon plain)]
      split
      · next before located =>
          cases located
          have stripped := URL.splitPort_bare bare (show URL.validOptionalPort [] = true from rfl)
          rw [List.append_nil] at stripped
          rw [stripped, URL.splitPort_bare bare valid]
          rfl
      · rfl

private theorem hostname_removed {url endpoint : URL} (hosted : URL.Hosted endpoint.host)
    (host : url.host = removeEmptyPort endpoint.host) :
    url.hostname = endpoint.hostname ∧ url.port = endpoint.port := by
  have split := splitPort_removed hosted
  simp only [URL.hostname, URL.port, URL.splitHostPort, host, split, and_self]

/-- The text of a URL of the endpoint is parsed as one of the endpoint. -/
private theorem parse_endpoint {asked url : URL} (hosted : URL.Hosted endpoint.host)
    (secure : endpoint.scheme = text "https") (named : endpoint.host ≠ [])
    (scheme : asked.scheme = endpoint.scheme) (host : asked.host = endpoint.host) (user : asked.user = none)
    (direct : asked.opaque_ = []) (read : URL.parse library.literal asked.string = some url) :
    url.scheme = endpoint.scheme ∧ url.host = endpoint.host := by
  have absolute : asked.scheme ≠ [] := by
    rw [scheme, secure]
    decide
  have askedNamed : asked.host ≠ [] := host ▸ named
  have userless : asked.userText = [] := by
    rw [URL.userText, user]
  rw [URL.string_hosted direct absolute askedNamed, userless, List.append_nil, scheme, secure, host,
    List.append_assoc, List.append_assoc, ← List.append_assoc asked.pathText] at read
  obtain ⟨parsedScheme, parsedHost, _⟩ := URL.parse_again hosted.bytes (URL.string_stops askedNamed) read
  exact ⟨parsedScheme.trans secure.symm, parsedHost⟩

private theorem request_kept {provider : Provider} (established : Established library policy endpoint provider)
    (hosted : URL.Hosted endpoint.host) (direct : provider.apiBase.opaque_ = []) (path rawQuery : GoString)
    (bound : Nat) :
    Kept library policy endpoint (fun _ _ => True) earlier (provider.request library path rawQuery bound) := by
  unfold Provider.request
  split
  · trivial
  · next url read =>
      obtain ⟨scheme, host⟩ := parse_endpoint hosted established.secure established.named
        (by exact established.scheme) (by exact established.host) (by exact established.user)
        (by exact direct) read
      have stripped : ({ url with host := removeEmptyPort url.host } : URL).host =
          removeEmptyPort endpoint.host := by
        rw [host]
      obtain ⟨hostname, port⟩ := hostname_removed hosted stripped
      rw [← established.policy]
      apply follow_kept established.guarded established.secure
      · rw [hostname]
        exact library.folds _
      · rw [effectivePort, effectivePort, port, scheme]

private theorem requests_kept {provider : Provider} (established : Established library policy endpoint provider)
    (hosted : URL.Hosted endpoint.host) (direct : provider.apiBase.opaque_ = [])
    (asked : List (GoString × GoString × Nat)) :
    Kept library policy endpoint (fun _ _ => True) earlier (provider.requests library asked) := by
  induction asked generalizing earlier with
  | nil => trivial
  | cons first rest ih =>
      apply Program.Audited.bind (request_kept established hosted direct first.1 first.2.1 first.2.2)
      intro events _ _
      exact ih

/-! ## The law of the providers -/

variable (library decoders config) in
private theorem operate_kept (production : options.allowHTTP = false) (kind : ProviderType)
    (asked : List (GoString × GoString × Nat)) :
    Kept library options.policy ((URL.parse library.literal (trimSpace config.endpoint)).getD {})
      (fun _ _ => True) [] (operate library decoders options config kind asked) := by
  apply Program.Audited.bind (create_kept production kind)
  intro events result built
  cases result with
  | error failure => trivial
  | ok provider =>
      obtain ⟨endpoint, parsed, established⟩ := built provider rfl
      obtain ⟨hosted, direct⟩ := URL.parse_hosted parsed established.named
      rw [parsed]
      exact requests_kept established hosted (established.opaque_.trans direct) asked

/-- Whatever the upstream, the resolver and the network reply: every request of
a provider goes to the endpoint that it was built for, and every dial to an
address of a set that was resolved for it and that the policy allows as a
whole. An endpoint that is no URL has no scheme, so no request goes there. -/
theorem traffic_confined (library : NetLibrary) (decoders : Decoders) (allowedPrivateCIDRs : List IPNet)
    (config : ConnectionConfig) (kind : ProviderType) (asked : List (GoString × GoString × Nat))
    (moments : List (Moment Call Call.Reply Unit)) (rest : Process Unit)
    (run : Program.Traces answer (fun _ _ => True)
      (operate library decoders { allowedPrivateCIDRs } config kind asked) () moments rest ())
    (later earlier : List NetEvent) (event : NetEvent)
    (made : (moments.map (·.event)).reverse = later ++ event :: earlier) :
    Confined library ⟨allowedPrivateCIDRs, false⟩
      ((URL.parse library.literal (trimSpace config.endpoint)).getD {}) earlier event := by
  let options : FactoryOptions := { allowedPrivateCIDRs }
  have production : options.allowHTTP = false := rfl
  have kept := operate_kept library decoders config production kind asked
  obtain ⟨obeys, _⟩ := Program.Audited.traces kept (fun _ _ _ _ _ _ => trivial) trivial run
  rw [List.append_nil, made] at obeys
  exact obeys.split

/-! ## A redirected request -/

def panelConfig : ConnectionConfig where
  id := text "connection"
  type := text "virtualizor"
  endpoint := text "https://panel.example.test:4085"
  settings := text "{}"
  credentials := text "\x7b\"api_key\":\"k\",\"api_password\":\"secret\"\x7d"

/-- Replies of a network with one public address, and an upstream that
redirects to another spelling of the endpoint. -/
def replies (last : Bool) : (call : Call) → call.Reply
  | .lookup _ => .ok [some documentationIP]
  | .connections _ => [(text "tcp", text "panel.example.test:4085")]
  | .connect _ _ => ()
  | .dial _ _ => .ok ()
  | .send _ =>
      if last then .response 200
      else .redirect { scheme := text "https", host := text "PANEL.example.test:4085", path := text "/index.php" }

def Call.sends : Call → Bool
  | .send _ => true
  | _ => false

def redirected : Option (List (Moment Call Call.Reply Unit) × Unit × Unit) :=
  (operate asciiLibrary jsonDecoders { allowedPrivateCIDRs := [] } panelConfig .virtualizor
    [(text "/index.php", text "act=listvs", 2)]).execute answer
      (List.replicate 6 (replies false) ++ List.replicate 6 (replies true)) ()

theorem traffic_confined_redirected : ∃ moments,
    redirected = some (moments, (), ()) ∧ (moments.filter fun moment => moment.event.call.sends).length = 2 ∧
    ∀ later event earlier, (moments.map (·.event)).reverse = later ++ event :: earlier →
      Confined asciiLibrary ⟨[], false⟩
        ((URL.parse (fun _ => false) (text "https://panel.example.test:4085")).getD {}) earlier event := by
  have sent : (redirected.map fun run => (run.1.filter fun moment => moment.event.call.sends).length) = some 2 := by
    decide +kernel
  obtain ⟨⟨moments, _, _⟩, executed, twice⟩ := Option.map_eq_some_iff.mp sent
  refine ⟨moments, executed, twice, fun later event earlier made => ?_⟩
  have trimmed : trimSpace panelConfig.endpoint = text "https://panel.example.test:4085" := by
    decide
  have run : Program.Traces answer (fun _ _ => True) _ () moments (.done ()) () :=
    Program.execute_traces (fun _ => trivial) executed
  rw [← trimmed]
  exact traffic_confined asciiLibrary jsonDecoders [] panelConfig .virtualizor _ moments _ run later earlier
    event made

end NodeAtlas.Network
