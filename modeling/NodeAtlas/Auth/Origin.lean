import NodeAtlas.Auth.HTTP
import NodeAtlas.Config
import NodeAtlas.Decimal
import NodeAtlas.URL.Hosts

/-! The configured public origin against the `Origin` headers that browsers
send. -/

set_option autoImplicit false

namespace NodeAtlas.Auth

/-! ## Origins -/

/-- The port that a scheme has when none is written. -/
def defaultPort (scheme : GoString) : Option Nat :=
  if scheme = text "http" ∨ scheme = text "ws" then some 80
  else if scheme = text "https" ∨ scheme = text "wss" then some 443
  else if scheme = text "ftp" then some 21
  else none

/-- What browsers compare: scheme, host and effective port. -/
structure Origin where
  scheme : GoString
  host : GoString
  port : Option Nat
  deriving DecidableEq, Repr

namespace Origin

/-- The port as the serialisation has it; a default port is omitted. -/
def portText (origin : Origin) : GoString :=
  match origin.port with
  | none => []
  | some port => if defaultPort origin.scheme = some port then [] else byte ':' :: itoa port

/-- The text of an origin in an `Origin` header. -/
def serialise (origin : Origin) : GoString :=
  origin.scheme ++ byte ':' :: text "//" ++ origin.host ++ origin.portText

/-- An origin that a browser may be at. A host with colons is an IPv6 address
between brackets. -/
structure WellFormed (origin : Origin) : Prop where
  scheme : byte ':' ∉ origin.scheme
  host : URL.Bare origin.host
  port : origin.port = none → defaultPort origin.scheme = none

end Origin

/-- The origin of a URL: its host in lower case, and the default port where it writes none. -/
def originOf (url : URL) : Origin :=
  let (host, port) := URL.splitPort url.host
  ⟨url.scheme, lower host, if port = [] then defaultPort url.scheme else some (atoi port)⟩

private theorem portText_valid (origin : Origin) : URL.validOptionalPort origin.portText = true := by
  unfold Origin.portText
  split
  · rfl
  · split
    · rfl
    · simp [URL.validOptionalPort, itoa_digits]

/-- Two origins are told apart by their texts. -/
theorem Origin.serialise_injective {first second : Origin} (firstFormed : first.WellFormed)
    (secondFormed : second.WellFormed) (same : first.serialise = second.serialise) : first = second := by
  unfold Origin.serialise at same
  simp only [List.append_assoc, List.cons_append] at same
  have cuts := congrArg (cut (byte ':')) same
  rw [cut_append firstFormed.scheme, cut_append secondFormed.scheme] at cuts
  have sameScheme : first.scheme = second.scheme := congrArg Prod.fst cuts
  have sameRest := List.append_cancel_left (Option.some.inj (congrArg Prod.snd cuts))
  obtain ⟨sameHost, samePort⟩ := URL.bare_unique firstFormed.host secondFormed.host
    (portText_valid first) (portText_valid second) sameRest
  obtain ⟨scheme, host, port⟩ := first
  obtain ⟨_, _, other⟩ := second
  simp only at sameScheme sameHost
  subst sameScheme sameHost
  have implied := firstFormed.port
  have otherImplied := secondFormed.port
  suffices equal : port = other by rw [equal]
  simp only [Origin.portText] at samePort
  simp only at implied otherImplied
  cases port with
  | none =>
      cases other with
      | none => rfl
      | some other => simp [implied rfl] at samePort
  | some port =>
      cases other with
      | none => simp [otherImplied rfl] at samePort
      | some other =>
          by_cases left : defaultPort scheme = some port <;>
            by_cases right : defaultPort scheme = some other
          · rw [← left, right]
          · simp [left] at samePort
            rw [samePort]
          · simp [right] at samePort
            rw [samePort]
          · simp only [if_neg left, if_neg right, List.cons.injEq, true_and] at samePort
            rw [itoa_injective samePort]

/-! ## What the application composes -/

/-- The site that `compose` builds from what `Load` read. -/
def composed (service : Service) (literal : GoString → Bool) (appEnv : GoString)
    (publicOrigin : Option URL) : Site :=
  ⟨service, match publicOrigin with
    | none => []
    | some url => url.string,
    Config.envOrDefault appEnv (text "development") = text "production", literal⟩

/-- The header of the URL's own origin passes, and that of no other origin does. -/
def OriginMatched (site : Site) (url : URL) : Prop :=
  (∀ request : Request, request.header (text "Origin") = (originOf url).serialise →
    site.originFailure request = none) ∧
  ∀ (request : Request) (origin : Origin), origin.WellFormed → origin ≠ originOf url →
    request.header (text "Origin") = origin.serialise →
    site.originFailure request = some (.failed 403 "origin_rejected" "Request origin is not allowed")

/-- A URL with nothing but scheme and host, the host in lower case and without
bytes to escape, and a port only where it is no default, in plain decimal. -/
structure Canonical (url : URL) : Prop where
  user : url.user = none
  path : url.path = []
  forceQuery : url.forceQuery = false
  rawQuery : url.rawQuery = []
  fragment : url.fragment = []
  host : url.host = (originOf url).host ++ (originOf url).portText
  plain : ∀ each ∈ url.host, URL.shouldEscape .host each = false

/-! ## Escaped hosts -/

private theorem escape_plain {mode : URL.Encoding} {value : GoString}
    (plain : ∀ each ∈ value, URL.shouldEscape mode each = false) : URL.escape mode value = value := by
  induction value with
  | nil => rfl
  | cons first rest ih =>
      obtain ⟨head, tail⟩ := List.forall_mem_cons.mp plain
      have behind := ih tail
      rw [URL.escape] at behind ⊢
      rw [List.flatMap_cons, behind, head]
      rfl

private theorem plain_of_length {mode : URL.Encoding} {value : GoString}
    (same : (URL.escape mode value).length = value.length) :
    ∀ each ∈ value, URL.shouldEscape mode each = false := by
  induction value with
  | nil => simp
  | cons first rest ih =>
      rw [URL.escape_cons, List.length_append, List.length_cons] at same
      have behind := URL.escape_length mode rest
      cases needed : URL.shouldEscape mode first with
      | true => simp [URL.escape, needed] at same behind; omega
      | false =>
          refine List.forall_mem_cons.mpr ⟨needed, ih ?_⟩
          simp [URL.escape, needed] at same behind ⊢
          omega

private theorem every_byte : ∀ value : UInt8,
    (value ≠ byte ':' → byte ':' ∉ URL.escape .host [value] ∧ lowerByte value ≠ byte ':') ∧
      (URL.hostByte value = true → URL.hostByte (lowerByte value) = true) ∧
      (isDigit value = true → URL.shouldEscape .host value = false) := by
  decide +kernel

private theorem escape_bare {name : GoString} (bare : URL.Bare name) : URL.Bare (URL.escape .host name) := by
  cases bare with
  | inl unported =>
      refine .inl fun present => ?_
      obtain ⟨each, listed, found⟩ := List.mem_flatMap.mp present
      have apart : each ≠ byte ':' := fun same => unported (same ▸ listed)
      exact ((every_byte each).1 apart).1 (List.mem_flatMap.mpr ⟨each, List.mem_singleton_self each, found⟩)
  | inr closed =>
      obtain ⟨front, rfl⟩ := List.getLast?_eq_some_iff.mp closed
      rw [URL.escape_append]
      exact .inr List.getLast?_concat

private theorem lower_bare {name : GoString} (bare : URL.Bare name) : URL.Bare (lower name) := by
  cases bare with
  | inl unported =>
      refine .inl fun present => ?_
      obtain ⟨each, listed, found⟩ := List.mem_map.mp present
      have apart : each ≠ byte ':' := fun same => unported (same ▸ listed)
      exact ((every_byte each).1 apart).2 found
  | inr closed =>
      obtain ⟨front, rfl⟩ := List.getLast?_eq_some_iff.mp closed
      rw [lower, List.map_append]
      exact .inr List.getLast?_concat

private theorem lower_hostByte {name : GoString} (bytes : ∀ each ∈ name, URL.hostByte each = true) :
    ∀ each ∈ lower name, URL.hostByte each = true := by
  intro each present
  obtain ⟨value, listed, rfl⟩ := List.mem_map.mp present
  exact (every_byte value).2.1 (bytes value listed)

private theorem port_plain {port : GoString} (valid : URL.validOptionalPort port = true) :
    ∀ each ∈ port, URL.shouldEscape .host each = false := by
  cases port with
  | nil => simp
  | cons colon digits =>
      simp only [URL.validOptionalPort, Bool.and_eq_true, decide_eq_true_eq] at valid
      obtain ⟨rfl, plain⟩ := valid
      refine List.forall_mem_cons.mpr ⟨by decide, fun each present => ?_⟩
      exact (every_byte each).2.2 (List.all_eq_true.mp plain each present)

/-! ## The configured text and the origin's -/

private theorem originOf_host {url : URL} {name tail : GoString} (split : url.host = name ++ tail)
    (bare : URL.Bare name) (valid : URL.validOptionalPort tail = true) :
    (originOf url).host = lower name := by
  simp only [originOf, split, URL.splitPort_bare bare valid]

private theorem originOf_wellFormed {url : URL} (hosted : URL.Hosted url.host)
    (scheme : url.scheme = text "http" ∨ url.scheme = text "https") : (originOf url).WellFormed := by
  obtain ⟨name, tail, split, bare, valid⟩ := hosted.split
  constructor
  · change byte ':' ∉ url.scheme
    rcases scheme with named | named <;> rw [named] <;> decide
  · rw [originOf_host split bare valid]
    exact lower_bare bare
  · intro missing
    simp only [originOf] at missing ⊢
    split at missing
    · exact missing
    · cases missing

/-- The text of a canonical URL is that of its origin. -/
private theorem Canonical.string {url : URL} (canonical : Canonical url) (direct : url.opaque_ = [])
    (named : url.host ≠ []) (absolute : url.scheme ≠ []) : url.string = (originOf url).serialise := by
  have host : URL.escape .host url.host = url.host := escape_plain canonical.plain
  have user : url.userText = [] := by
    rw [URL.userText, canonical.user]
  have path : url.pathText = [] := by
    simp [URL.pathText, URL.escapedPath_empty.mpr canonical.path, cut]
  have query : url.queryText = [] := by
    simp [URL.queryText, canonical.forceQuery, canonical.rawQuery]
  have fragment : url.fragmentText = [] := by
    rw [URL.fragmentText, if_pos canonical.fragment]
  rw [URL.string_hosted direct absolute named, user, host, path, query, fragment]
  simp only [List.append_nil, List.append_assoc]
  rw [canonical.host]
  simp only [Origin.serialise, List.append_assoc]
  rfl

/-- A URL whose text is that of its origin is canonical: what else it could
have stands behind a byte that no host has. -/
private theorem string_canonical {url : URL} (hosted : URL.Hosted url.host) (direct : url.opaque_ = [])
    (named : url.host ≠ []) (absolute : url.scheme ≠ []) (same : url.string = (originOf url).serialise) :
    Canonical url := by
  obtain ⟨name, tail, split, bare, valid⟩ := hosted.split
  have host := originOf_host split bare valid
  have scheme : (originOf url).scheme = url.scheme := rfl
  simp only [URL.string_hosted direct absolute named, Origin.serialise, scheme, List.append_assoc,
    List.cons_append, host] at same
  have whole := List.append_cancel_left same
  replace whole := List.append_cancel_left (List.cons.inj whole).2
  have bytes : ∀ each ∈ lower name ++ (originOf url).portText, URL.hostByte each = true := by
    intro each present
    cases List.mem_append.mp present with
    | inl present =>
        exact lower_hostByte (fun value listed =>
          hosted.bytes value (split ▸ List.mem_append_left tail listed)) each present
    | inr present => exact URL.port_hostByte (portText_valid _) each present
  rw [← whole] at bytes
  have user : url.user = none := by
    cases known : url.user with
    | none => rfl
    | some user => exact absurd (bytes (byte '@') (by simp [URL.userText, known])) (by decide)
  have path : url.pathText = [] ∧ url.escapedPath = [] := by
    cases URL.pathText_rooted named with
    | inl empty => exact empty
    | inr slash =>
        obtain ⟨more, slash⟩ := slash
        exact absurd (bytes (byte '/') (by simp [slash])) (by decide)
  have query : ¬(url.forceQuery = true ∨ url.rawQuery ≠ []) := fun asked =>
    absurd (bytes (byte '?') (by simp [URL.queryText, asked])) (by decide)
  have fragment : url.fragment = [] := by
    by_contra present
    exact absurd (bytes (byte '#') (by simp [URL.fragmentText, present])) (by decide)
  simp only [URL.userText, user, path.1, URL.queryText, if_neg query, URL.fragmentText, fragment, if_true,
    List.nil_append, List.append_nil] at whole
  rw [split, URL.escape_append, escape_plain (port_plain valid)] at whole
  obtain ⟨sameName, sameTail⟩ := URL.bare_unique (escape_bare bare) (lower_bare bare) valid
    (portText_valid _) whole
  have plain : ∀ each ∈ name, URL.shouldEscape .host each = false := by
    apply plain_of_length
    rw [sameName, lower, List.length_map]
  rw [escape_plain plain] at sameName
  rw [not_or, ne_eq, Classical.not_not] at query
  constructor
  · exact user
  · exact URL.escapedPath_empty.mp path.2
  · exact Bool.eq_false_iff.mpr query.1
  · exact query.2
  · exact fragment
  · rw [split, host, ← sameName, ← sameTail]
  · intro each present
    rw [split] at present
    cases List.mem_append.mp present with
    | inl present => exact plain each present
    | inr present => exact port_plain valid each present

private theorem serialise_nonempty (origin : Origin) : origin.serialise ≠ [] := by
  simp [Origin.serialise]

/-- With a public origin, the header passes that is written as it is. -/
private theorem originFailure_configured {site : Site} {request : Request}
    (configured : site.publicOrigin ≠ []) (present : request.header (text "Origin") ≠ []) :
    site.originFailure request =
      if request.header (text "Origin") = site.publicOrigin then none
      else some (.failed 403 "origin_rejected" "Request origin is not allowed") := by
  unfold Site.originFailure
  simp only [if_pos present]
  by_cases same : request.header (text "Origin") = site.publicOrigin <;> simp [same, configured]

/-! ## The law of the public origin -/

/-- The application tells its own origin from all others exactly if the public
origin is configured as a canonical URL. -/
theorem public_origin_matches (service : Service) (literal : GoString → Bool)
    (appEnv publicOrigin : GoString) (url : URL)
    (loaded : Config.loadPublicOrigin literal appEnv publicOrigin = .ok (some url)) :
    OriginMatched (composed service literal appEnv (some url)) url ↔ Canonical url := by
  obtain ⟨parsed, named, scheme, rooted⟩ := Config.loadPublicOrigin_checked loaded
  obtain ⟨hosted, direct⟩ := URL.parse_hosted parsed named
  have absolute : url.scheme ≠ [] := by
    rcases scheme with scheme | scheme <;> rw [scheme] <;> decide
  have configured : url.string ≠ [] := by
    simp [URL.string, if_neg absolute]
  constructor
  · intro matched
    let request : Request := ⟨[], [], [], [(text "Origin", (originOf url).serialise)], [], .error (.plain [])⟩
    have header : request.header (text "Origin") = (originOf url).serialise := by
      simp [request, Request.header]
    have passed := matched.1 request header
    rw [originFailure_configured configured (header ▸ serialise_nonempty _), header] at passed
    apply string_canonical hosted direct named absolute
    by_contra other
    rw [if_neg (fun same => other same.symm)] at passed
    cases passed
  · intro canonical
    have same := canonical.string direct named absolute
    constructor
    · intro request header
      rw [originFailure_configured configured (header ▸ serialise_nonempty _), header]
      exact if_pos same.symm
    · intro request origin formed other header
      rw [originFailure_configured configured (header ▸ serialise_nonempty _), header]
      apply if_neg
      intro equal
      exact other (origin.serialise_injective formed (originOf_wellFormed hosted scheme) (equal.trans same))

theorem public_origin_matches_panel :
    OriginMatched (composed panel.service (fun _ => false) (text "production")
        (some { scheme := text "https", host := text "panel.example.test" }))
      { scheme := text "https", host := text "panel.example.test" } := by
  have loaded : Config.loadPublicOrigin (fun _ => false) (text "production") (text "https://panel.example.test") =
      .ok (some { scheme := text "https", host := text "panel.example.test" }) := by
    decide +kernel
  apply (public_origin_matches panel.service _ _ _ _ loaded).mpr
  constructor <;> decide +kernel

/-- A URL with a slash at its end is taken, and then its own origin is refused. -/
theorem public_origin_matches_slash :
    ¬∀ (service : Service) (literal : GoString → Bool) (appEnv publicOrigin : GoString) (url : URL),
      Config.loadPublicOrigin literal appEnv publicOrigin = .ok (some url) →
      OriginMatched (composed service literal appEnv (some url)) url := by
  intro every
  have loaded : Config.loadPublicOrigin (fun _ => false) (text "production") (text "https://panel.example.test/") =
      .ok (some { scheme := text "https", host := text "panel.example.test", path := text "/" }) := by
    decide +kernel
  let request : Request := ⟨text "POST", text "/api/v1/auth/login", text "panel.example.test",
    [(text "Origin", text "https://panel.example.test")], [], .ok (text "admin", text "password")⟩
  have own : request.header (text "Origin") =
      (originOf { scheme := text "https", host := text "panel.example.test", path := text "/" }).serialise := by
    decide
  have passed := (every panel.service _ _ _ _ loaded).1 request own
  revert passed
  decide

end NodeAtlas.Auth
