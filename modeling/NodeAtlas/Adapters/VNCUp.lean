import NodeAtlas.Adapters.SolusVM2
import NodeAtlas.Console.Calls
import NodeAtlas.Interleaving.Sequential
import NodeAtlas.URL.Roundtrip

/-! The console targets of SolusVM 2: the panel, and the host that it is to
connect to. -/

set_option autoImplicit false

namespace NodeAtlas.Adapters

open Providers

/-! ## Query values -/

/-- `url.QueryUnescape` -/
def queryUnescape (value : GoString) : Option GoString :=
  URL.unescape .userPassword (value.map fun c => if c = byte '+' then 0x20 else c)

/-- `url.ParseQuery`, whose errors leave their parts out. -/
def parseQuery (raw : GoString) : List (GoString × GoString) :=
  (raw.splitOn (byte '&')).filterMap fun part =>
    if part = [] ∨ byte ';' ∈ part then none
    else do
      let key ← queryUnescape (cut (byte '=') part).1
      let value ← queryUnescape ((cut (byte '=') part).2.getD [])
      return (key, value)

def queryByte (c : UInt8) : Bool := isLetter c || isDigit c || (text "-_.~+%").contains c

theorem queryEscape_cons (c : UInt8) (rest : GoString) :
    queryEscape (c :: rest) = queryEscape [c] ++ queryEscape rest := by
  simp [queryEscape]

theorem queryEscape_bytes (value : GoString) : ∀ c ∈ queryEscape value, queryByte c = true := by
  have digits : URL.hexDigits.all queryByte = true := by decide
  intro c member
  obtain ⟨origin, _, found⟩ := List.mem_flatMap.mp member
  split at found
  · next plain =>
    rw [List.mem_singleton.mp found]
    unfold queryByte
    simp only [Bool.or_eq_true] at plain ⊢
    rcases plain with other | mark
    · exact .inl other
    · refine .inr ?_
      rw [List.contains_iff_mem] at mark ⊢
      exact List.mem_append_left (text "+%") mark
  · split at found
    · rw [List.mem_singleton.mp found]
      decide
    · simp only [List.mem_cons, List.not_mem_nil, or_false] at found
      rcases found with rfl | rfl | rfl
      · decide
      · exact List.all_eq_true.mp digits _ (URL.hex_high origin).2
      · exact List.all_eq_true.mp digits _ (URL.hex_low origin).2

theorem queryEscape_clean (value : GoString) {c : UInt8} (other : queryByte c = false) : c ∉ queryEscape value := by
  intro member
  rw [queryEscape_bytes value c member] at other
  cases other

/-- A byte that stands for itself. -/
private theorem unescape_plain {c : UInt8} (plain : c ≠ byte '%') (rest : GoString) :
    URL.unescape .userPassword (c :: rest) = (URL.unescape .userPassword rest).map fun more => c :: more := by
  rw [URL.unescape.eq_def]
  simp [plain]

@[simp] theorem queryUnescape_escape (value : GoString) : queryUnescape (queryEscape value) = some value := by
  unfold queryUnescape
  induction value with
  | nil => rfl
  | cons c rest ih =>
      rw [queryEscape_cons, List.map_append]
      by_cases plain : (isLetter c || isDigit c || (text "-_.~").contains c) = true
      · have plus : c ≠ byte '+' := by
          rintro rfl
          exact absurd plain (by decide)
        have percent : c ≠ byte '%' := by
          rintro rfl
          exact absurd plain (by decide)
        rw [queryEscape, List.flatMap_singleton, if_pos plain, List.map_singleton, if_neg plus, List.singleton_append,
          unescape_plain percent, ih, Option.map_some]
      · by_cases space : c = 0x20
        · rw [queryEscape, List.flatMap_singleton, if_neg plain, if_pos space, List.map_singleton, if_pos rfl,
            List.singleton_append, unescape_plain (by decide), ih, Option.map_some, space]
        · have digits : (URL.hexDigits.all fun c => c ≠ byte '+') = true := by decide
          have high : URL.hexDigits.getD (c.toNat / 16) 0 ≠ byte '+' :=
            of_decide_eq_true (List.all_eq_true.mp digits _ (URL.hex_high c).2)
          have low : URL.hexDigits.getD (c.toNat % 16) 0 ≠ byte '+' :=
            of_decide_eq_true (List.all_eq_true.mp digits _ (URL.hex_low c).2)
          have percent : byte '%' ≠ byte '+' := by decide
          rw [queryEscape, List.flatMap_singleton, if_neg plain, if_neg space]
          simp only [List.map_cons, List.map_nil, if_neg high, if_neg low, if_neg percent, List.cons_append,
            List.nil_append]
          rw [URL.unescape]
          simp only [if_true, (URL.hex_high c).1, (URL.hex_low c).1, ih, Option.map_some, Nat.div_add_mod,
            UInt8.ofNat_toNat]
          exact if_pos rfl

theorem parseQuery_encode (key value : GoString) : parseQuery (encodeValues [(key, value)]) = [(key, value)] := by
  have clean : ∀ {c : UInt8}, queryByte c = false → c ≠ byte '=' →
      c ∉ queryEscape key ++ byte '=' :: queryEscape value := by
    intro c other apart
    simp only [List.mem_append, List.mem_cons, not_or]
    exact ⟨queryEscape_clean key other, apart, queryEscape_clean value other⟩
  have joined : encodeValues [(key, value)] =
      [byte '&'].intercalate [queryEscape key ++ byte '=' :: queryEscape value] := rfl
  have parted : (encodeValues [(key, value)]).splitOn (byte '&') =
      [queryEscape key ++ byte '=' :: queryEscape value] := by
    rw [joined, List.splitOn_intercalate _ _ (List.cons_ne_nil _ _)]
    intro part member
    rw [List.mem_singleton.mp member]
    exact clean (by decide) (by decide)
  have semicolon : byte ';' ∉ queryEscape key ++ byte '=' :: queryEscape value := clean (by decide) (by decide)
  have cuts : cut (byte '=') (queryEscape key ++ byte '=' :: queryEscape value) =
      (queryEscape key, some (queryEscape value)) := cut_append (queryEscape_clean key (by decide))
  unfold parseQuery
  rw [parted, List.filterMap_cons, if_neg (by simp [semicolon]), cuts]
  simp

namespace SolusVM2

/-! ## The console -/

/-- What `vnc_up` is answered with; the ID is the text of a JSON number. -/
structure VNCUp where
  host : GoString
  port : Int
  id : GoString
  uuid : GoString
  password : GoString

/-- The replies of the panel: to the request for a server, and to `vnc_up`. -/
structure Upstream where
  server : GoString → Except GoError ServerData
  vncUp : GoString → Except GoError VNCUp

section Console

variable (library : Library)

/-- `uuid.Nil` -/
def nilUUID : GoString := text "00000000-0000-0000-0000-000000000000"

def validLabel (label : GoString) : Bool :=
  label ≠ [] && label.length ≤ 63 && label.head? ≠ some (byte '-') && label.getLast? ≠ some (byte '-') &&
    label.all fun c => isLetter c || isDigit c || c = byte '-'

def validConsoleHost (host : GoString) : Bool :=
  if library.parseIP host ≠ none then true
  else if host = [] ∨ 253 < host.length then false
  else
    let trimmed := if host.getLast? = some (byte '.') then host.dropLast else host
    (trimmed.splitOn (byte '.')).all validLabel

def validConsolePassword (password : GoString) : Bool :=
  trimSpace password ≠ [] && password.length ≤ 4096 && password.all fun c => 32 ≤ c && c ≠ 127

def getServer (upstream : Upstream) (ref : ServerRef) : Except GoError RemoteServer :=
  if positiveInteger ref.externalID = none then .error (notFound "SolusVM 2 server was not found")
  else
    match upstream.server ref.externalID with
    | .error failure => .error failure
    | .ok data =>
        if data.id ≠ ref.externalID then .error (providerFailure "SolusVM 2 returned mismatched server data")
        else normalizeServer library data

/-- The data that `OpenConsole` accepts for a server. -/
def validVNC (id : GoString) (response : VNCUp) : Bool :=
  library.uuid response.uuid = some response.uuid && response.uuid ≠ nilUUID && response.id = id &&
    1 ≤ response.port && response.port ≤ 65535 && validConsoleHost library response.host &&
    validConsolePassword response.password

/-- The target on the panel, which connects to the first address in the order of
their texts. -/
def vncTarget (panelURL : URL) (response : VNCUp) (addresses : List (Option IP)) : URL :=
  let hosts := (addresses.map Network.addressText).mergeSort fun left right => decide (left ≤ right)
  let value := joinHostPort (hosts.headD []) (integerText response.port) ++ byte '/' :: response.uuid
  { panelURL with scheme := text "wss", path := text "/vnc", rawQuery := encodeValues [(text "url", value)] }

def unsupported (message : String) : GoError := .provider ⟨.unsupported, text message, false⟩

def openConsole (policy : Network.Policy) (panelURL : URL) (upstream : Upstream) (ref : ServerRef) (mode : GoString) :
    Network.Process (Except GoError Console.ConsoleTarget) :=
  if mode ≠ text "embedded" ∧ mode ≠ text "window" then
    return .error (unsupported "SolusVM 2 console mode is unsupported")
  else
    match getServer library upstream ref with
    | .error failure => return .error failure
    | .ok server =>
        if server.capabilities.canEmbedConsole.available = false then
          return .error (unsupported "SolusVM 2 VNC is unavailable for this server")
        else
          match upstream.vncUp server.externalID with
          | .error failure => return .error failure
          | .ok response =>
              if validVNC library server.externalID response = false then
                return .error (providerFailure "SolusVM 2 returned invalid VNC data")
              else do
                match ← policy.resolveAllowed library.toNetLibrary response.host with
                | .error _ => return .error (providerFailure "SolusVM 2 returned an untrusted VNC address")
                | .ok addresses =>
                    return .ok ⟨text "rfb", some (vncTarget panelURL response addresses), response.password⟩

end Console

/-! ## Where a console leads -/

section Pins

variable (library : Library)

/-- The resolver gives these answers, where the host is no address itself. -/
def Resolves (replies : (call : Network.Call) → call.Reply) (host : GoString) (answers : List (Option IP)) : Prop :=
  (∃ literal, library.parseIP host = some literal ∧ answers = [some literal]) ∨
    library.parseIP host = none ∧ replies (.lookup host) = .ok answers

/-- The second hop of a target: an address of one set of answers, all of which
the policy allows, with the port and the UUID of the response. -/
def SecondHop (policy : Network.Policy) (replies : (call : Network.Call) → call.Reply) (response : VNCUp)
    (target : URL) : Prop :=
  ∃ answers address, Resolves library replies (trimSpace response.host) answers ∧
    (∀ answer ∈ answers, policy.addressAllowed answer = true) ∧ some address ∈ answers ∧
    parseQuery target.rawQuery =
      [(text "url", joinHostPort address.string (integerText response.port) ++ byte '/' :: response.uuid)]

structure Pinned (policy : Network.Policy) (replies : (call : Network.Call) → call.Reply) (panel : URL)
    (ref : ServerRef) (response : VNCUp) (target : URL) : Prop where
  scheme : target.scheme = text "wss"
  host : target.host = panel.host
  port : Network.effectivePort target = Network.effectivePort panel
  hop : SecondHop library policy replies response target
  portLeast : 1 ≤ response.port
  portMost : response.port ≤ 65535
  uuid : library.uuid response.uuid = some response.uuid
  uuidSome : response.uuid ≠ nilUUID
  id : response.id = ref.externalID

variable {library} {policy : Network.Policy} {replies : (call : Network.Call) → call.Reply}

/-- The resolver gives the same reply to the same call. -/
def respond (replies : (call : Network.Call) → call.Reply) (call : Network.Call) (state : Unit) : call.Reply × Unit :=
  (replies call, state)

private theorem lookUp_answers {host : GoString} {addresses : List (Option IP)}
    (looked : ((Network.Policy.lookUp library.toNetLibrary host).follow (respond replies) ()).1 = .ok addresses) :
    Resolves library replies host addresses := by
  unfold Network.Policy.lookUp at looked
  split at looked
  · next literal parsed =>
    exact .inl ⟨literal, parsed, (Except.ok.inj looked).symm⟩
  · next unparsed =>
    refine .inr ⟨unparsed, ?_⟩
    cases replied : replies (.lookup host) with
    | error failure =>
        rw [Network.call, Interleaving.Program.follow_call, respond, replied] at looked
        cases looked
    | ok answers =>
        rw [Network.call, Interleaving.Program.follow_call, respond, replied] at looked
        rw [← Except.ok.inj looked]

private theorem resolveAllowed_answers {host : GoString} {addresses : List (Option IP)}
    (resolved : ((policy.resolveAllowed library.toNetLibrary host).follow (respond replies) ()).1 = .ok addresses) :
    Resolves library replies (trimSpace host) addresses ∧ addresses ≠ [] ∧
      ∀ answer ∈ addresses, policy.addressAllowed answer = true := by
  unfold Network.Policy.resolveAllowed at resolved
  split at resolved
  · cases resolved
  · rw [Interleaving.Program.follow_bind] at resolved
    cases looked : ((Network.Policy.lookUp library.toNetLibrary (trimSpace host)).follow (respond replies) ()).1 with
    | error failure =>
        rw [looked] at resolved
        cases resolved
    | ok answers =>
        rw [looked] at resolved
        dsimp only at resolved
        split at resolved
        · cases resolved
        next some_ =>
        split at resolved
        · next allowed =>
          obtain rfl := Except.ok.inj resolved
          exact ⟨lookUp_answers looked, some_, List.all_eq_true.mp allowed⟩
        · cases resolved

private theorem normalizeServer_id {data : ServerData} {server : RemoteServer}
    (normalized : normalizeServer library data = .ok server) : server.externalID = data.id := by
  unfold normalizeServer at normalized
  split at normalized
  · cases normalized
  split at normalized
  · cases normalized
  split at normalized
  · cases normalized
  split at normalized
  · cases normalized
  · obtain rfl := Except.ok.inj normalized
    rfl

private theorem getServer_id {upstream : Upstream} {ref : ServerRef} {server : RemoteServer}
    (got : getServer library upstream ref = .ok server) : server.externalID = ref.externalID := by
  unfold getServer at got
  split at got
  · cases got
  split at got
  · cases got
  split at got
  · cases got
  next data _ same =>
  rw [normalizeServer_id got]
  exact Classical.not_not.mp same

/-- The first of the texts is the text of one of the addresses. -/
private theorem hosts_first {addresses : List (Option IP)} (some_ : addresses ≠ []) :
    ∃ address ∈ addresses,
      ((addresses.map Network.addressText).mergeSort fun left right => decide (left ≤ right)).headD [] =
        Network.addressText address := by
  have sorted := List.mergeSort_perm (addresses.map Network.addressText) fun left right => decide (left ≤ right)
  cases texts : (addresses.map Network.addressText).mergeSort fun left right => decide (left ≤ right) with
  | nil =>
      rw [texts] at sorted
      exact absurd (List.map_eq_nil_iff.mp (List.nil_perm.mp sorted)) some_
  | cons first rest =>
      rw [texts] at sorted
      obtain ⟨address, listed, same⟩ := List.mem_map.mp (sorted.subset List.mem_cons_self)
      exact ⟨address, listed, same.symm⟩

private theorem vncTarget_hop {panel : URL} {response : VNCUp} {addresses : List (Option IP)}
    (resolved : Resolves library replies (trimSpace response.host) addresses) (some_ : addresses ≠ [])
    (allowed : ∀ answer ∈ addresses, policy.addressAllowed answer = true) :
    SecondHop library policy replies response (vncTarget panel response addresses) := by
  obtain ⟨answer, listed, first⟩ := hosts_first some_
  cases answer with
  | none => exact absurd (allowed none listed) (by simp [Network.Policy.addressAllowed, IP.allowed])
  | some address =>
      refine ⟨addresses, address, resolved, allowed, listed, ?_⟩
      unfold vncTarget
      dsimp only
      rw [parseQuery_encode, first]
      rfl

private theorem normalizeEndpoint_https {raw : GoString} {panel api : URL}
    (normalized : Network.SolusVM2.normalizeEndpoint library.toNetLibrary raw = .ok (panel, api)) :
    panel.scheme = text "https" := by
  unfold Network.SolusVM2.normalizeEndpoint at normalized
  dsimp only at normalized
  split at normalized
  · cases normalized
  split at normalized
  · cases normalized
  next shaped =>
  split at normalized
  · cases normalized
  split at normalized
  · cases normalized
  · cases normalized
    simp only [not_or, ne_eq, Classical.not_not] at shaped
    exact shaped.1

theorem openConsole_pinned {raw : GoString} {panel api : URL} {upstream : Upstream} {ref : ServerRef} {mode : GoString}
    {target : Console.ConsoleTarget}
    (normalized : Network.SolusVM2.normalizeEndpoint library.toNetLibrary raw = .ok (panel, api))
    (opened : ((openConsole library policy panel upstream ref mode).follow (respond replies) ()).1 = .ok target) :
    ∃ response url, upstream.vncUp ref.externalID = .ok response ∧ target.url = some url ∧
      Pinned library policy replies panel ref response url := by
  have https := normalizeEndpoint_https normalized
  unfold openConsole at opened
  split at opened
  · cases opened
  split at opened
  · cases opened
  next server got =>
  have id := getServer_id got
  split at opened
  · cases opened
  split at opened
  · cases opened
  next response answered =>
  split at opened
  · cases opened
  next valid =>
  rw [Bool.not_eq_false] at valid
  rw [Interleaving.Program.follow_bind] at opened
  cases resolved : ((policy.resolveAllowed library.toNetLibrary response.host).follow (respond replies) ()).1 with
  | error failure =>
      rw [resolved] at opened
      cases opened
  | ok addresses =>
      rw [resolved] at opened
      obtain rfl := Except.ok.inj opened
      obtain ⟨answers, some_, allowed⟩ := resolveAllowed_answers resolved
      simp only [validVNC, Bool.and_eq_true, decide_eq_true_eq] at valid
      obtain ⟨⟨⟨⟨⟨⟨uuid, uuidSome⟩, vm⟩, least⟩, most⟩, _⟩, _⟩ := valid
      rw [id] at answered vm
      exact ⟨response, _, answered, rfl, rfl, rfl, Network.effectivePort_wss https _ _, vncTarget_hop answers some_ allowed,
        least, most, uuid, uuidSome, vm⟩

end Pins

def panelOfFive : URL := { scheme := text "https", host := text "panel.example:8443", path := text "/" }

def serverFive : ServerData where
  id := text "5"
  name := text "five"
  status := text "started"
  realStatus := text "started"
  suspended := false
  processing := false
  virtualizationType := text "kvm"
  osType := text "linux"
  projectID := []
  vcpu := 1
  ram := 1024
  disk := 10
  vncEnabled := true
  ips := []
  ipAddresses := none

def vncOfFive : VNCUp :=
  ⟨text "node.example", 5901, text "5", text "01234567-89ab-4cde-8f01-23456789abcd", text "secret"⟩

/-- A resolver that knows one host with two addresses. -/
def nodeReplies : (call : Network.Call) → call.Reply
  | .lookup _ => .ok [some ⟨[203, 0, 113, 9], .inl rfl⟩, some documentationIP]
  | .connections _ => []
  | .connect _ _ => ()
  | .dial _ _ => .ok ()
  | .send _ => .failed (.plain [])

theorem openConsole_pinned_five : ∃ response url,
    (⟨fun _ => .ok serverFive, fun _ => .ok vncOfFive⟩ : Upstream).vncUp (text "5") = .ok response ∧
      (some url : Option URL) = some (vncTarget panelOfFive vncOfFive [some ⟨[203, 0, 113, 9], .inl rfl⟩,
        some documentationIP]) ∧
      Pinned plainLibrary ⟨[], false⟩ nodeReplies panelOfFive ⟨text "5", []⟩ response url := by
  have normalized : Network.SolusVM2.normalizeEndpoint plainLibrary.toNetLibrary (text "https://panel.example:8443") =
      .ok (panelOfFive, { panelOfFive with path := text "/api/v1" }) := by
    decide +kernel
  have opened : ((openConsole plainLibrary ⟨[], false⟩ panelOfFive ⟨fun _ => .ok serverFive, fun _ => .ok vncOfFive⟩
      ⟨text "5", []⟩ (text "embedded")).follow (respond nodeReplies) ()).1 =
      .ok ⟨text "rfb", some (vncTarget panelOfFive vncOfFive [some ⟨[203, 0, 113, 9], .inl rfl⟩,
        some documentationIP]), text "secret"⟩ := by
    rfl
  obtain ⟨response, url, answered, same, pinned⟩ := openConsole_pinned normalized opened
  exact ⟨response, url, answered, same.symm, pinned⟩

end SolusVM2

end NodeAtlas.Adapters
