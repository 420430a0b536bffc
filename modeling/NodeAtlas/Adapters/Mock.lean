import NodeAtlas.JSON.Decode
import NodeAtlas.Providers
import NodeAtlas.Spaces

/-! The mock adapter, and for which seeds it makes servers at all. -/

set_option autoImplicit false

namespace NodeAtlas.Adapters.Mock

open Providers

/-- 64-bit floating-point numbers: how `strconv.ParseFloat` reads them, whether
one is a rate from 0 to 1, and how `json.Marshal` writes them. -/
structure Floats where
  Float : Type
  zero : Float
  parse : GoString → Option Float
  isRate : Float → Bool
  write : Float → GoString

variable (floats : Floats)

structure Settings where
  serverCount : Int
  seed : Int
  operationDelayMS : Int
  failureRate : floats.Float
  healthMode : GoString
  consoleProfile : GoString

/-- `sharedState`, less its source of random numbers. -/
structure SharedState where
  fingerprint : GoString
  servers : List RemoteServer

structure Factory where
  connections : List (GoString × SharedState)

def newFactory : Factory := ⟨[]⟩

structure Provider where
  connectionID : GoString
  settings : Settings floats
  state : SharedState

/-! ## Settings -/

def asFloat : JSON.Decoder floats.Float
  | current, .null => some current
  | _, .number token => floats.parse token
  | _, _ => none

def settingsFields : List (JSON.Field (Settings floats)) :=
  [.part "server_count" Settings.serverCount (fun value part => { value with serverCount := part }) JSON.asInt,
    .part "seed" Settings.seed (fun value part => { value with seed := part }) JSON.asInt,
    .part "operation_delay_ms" Settings.operationDelayMS (fun value part => { value with operationDelayMS := part })
      JSON.asInt,
    .part "failure_rate" Settings.failureRate (fun value part => { value with failureRate := part })
      (asFloat floats),
    .part "health_mode" Settings.healthMode (fun value part => { value with healthMode := part }) JSON.asString,
    .part "console_profile" Settings.consoleProfile (fun value part => { value with consoleProfile := part })
      JSON.asString]

def tokenField : JSON.Field GoString := .part "token" id (fun _ token => token) JSON.asString

def defaultSettings : Settings floats := ⟨4, 1, 0, floats.zero, text "healthy", text "embedded"⟩

def mockFailure (message : String) : GoError := .plain (text message)

/-- What `Create` checks before it looks at its connections. -/
def configure (config : ConnectionConfig) : Except GoError (Settings floats) := do
  if trimSpace config.id = [] then throw (mockFailure "mock connection ID is required")
  let settings ←
    if config.settings = [] then pure (defaultSettings floats)
    else
      match JSON.unmarshal (JSON.asStruct (settingsFields floats) true) (defaultSettings floats) config.settings with
      | some settings => pure settings
      | none => throw (mockFailure "invalid mock settings")
  if settings.serverCount < 1 ∨ 500 < settings.serverCount then
    throw (mockFailure "mock server_count must be between 1 and 500")
  if settings.operationDelayMS < 0 ∨ 30000 < settings.operationDelayMS then
    throw (mockFailure "mock operation_delay_ms must be between 0 and 30000")
  if floats.isRate settings.failureRate = false then
    throw (mockFailure "mock failure_rate must be between 0 and 1")
  if settings.healthMode ∉ ["healthy", "authentication_failure", "network_failure", "rate_limited"].map text then
    throw (mockFailure "unsupported mock health_mode")
  if settings.consoleProfile ∉ ["embedded", "window", "portal", "none"].map text then
    throw (mockFailure "unsupported mock console_profile")
  match JSON.unmarshal (JSON.asStruct [tokenField] true) [] config.credentials with
  | none => throw (mockFailure "mock token is required")
  | some token =>
      if trimSpace token = [] then throw (mockFailure "mock token is required")
      else pure settings

/-- `json.Marshal` of the settings. -/
def fingerprint (settings : Settings floats) : GoString :=
  JSON.object [(text "server_count", integerText settings.serverCount), (text "seed", integerText settings.seed),
    (text "operation_delay_ms", integerText settings.operationDelayMS),
    (text "failure_rate", floats.write settings.failureRate), (text "health_mode", JSON.quote settings.healthMode),
    (text "console_profile", JSON.quote settings.consoleProfile)]

/-! ## Servers -/

/-- The states that servers are made in. -/
def fixtures : List ServerState := [.running, .stopped, .pending, .error]

def stateText : ServerState → GoString
  | .running => text "running"
  | .stopped => text "stopped"
  | .pending => text "pending"
  | .error => text "error"
  | _ => []

/-- Signed 64-bit arithmetic wraps around. -/
def wrap (value : Int) : Int := (value + 2 ^ 63) % 2 ^ 64 - 2 ^ 63

/-- A slice at an index; `none` is a panic. -/
def indexed {T : Type} (values : List T) (index : Int) : Option T :=
  if index < 0 then none else values[index.toNat]?

/-- `%0*d`, of numbers that are not negative. -/
def padded (width value : Nat) : GoString :=
  List.replicate (width - (itoa value).length) (byte '0') ++ itoa value

def capability (available : Bool) (reason : String) : Capability := ⟨available, if available then [] else text reason⟩

def capabilities (profile : GoString) (state : ServerState) : Capabilities :=
  let power : Capabilities := {
    canStart := capability (state = .stopped) "server must be stopped"
    canStop := capability (state = .running) "server must be running"
    canReboot := capability (state = .running) "server must be running"
    canEmbedConsole := ⟨false, []⟩, canOpenConsoleWindow := ⟨false, []⟩, hasProviderPortal := ⟨false, []⟩ }
  if profile = text "embedded" then
    { power with canEmbedConsole := ⟨true, []⟩, canOpenConsoleWindow := ⟨true, []⟩, hasProviderPortal := ⟨true, []⟩ }
  else if profile = text "window" then
    { power with
      canEmbedConsole := ⟨false, text "provider only supports a new window"⟩
      canOpenConsoleWindow := ⟨true, []⟩, hasProviderPortal := ⟨true, []⟩ }
  else if profile = text "portal" then
    { power with
      canEmbedConsole := ⟨false, text "provider console embedding unavailable"⟩
      canOpenConsoleWindow := ⟨false, text "provider temporary console URL unavailable"⟩
      hasProviderPortal := ⟨true, []⟩ }
  else if profile = text "none" then
    { power with
      canEmbedConsole := ⟨false, text "console unavailable"⟩
      canOpenConsoleWindow := ⟨false, text "console unavailable"⟩
      hasProviderPortal := ⟨false, text "provider portal unavailable"⟩ }
  else power

/-- The server with a number, which counts from 1. -/
def generateServer (connectionID : GoString) (settings : Settings floats) (number : Nat) : Option RemoteServer := do
  let state ← indexed fixtures ((wrap ((number : Int) - 1 + settings.seed)).tmod 4)
  return {
    externalID := connectionID ++ text "-server-" ++ padded 3 number
    scope := text "mock-zone-" ++ itoa (number % 3 + 1)
    name := text "mock-node-" ++ padded 2 number
    state := state
    remoteState := (stateText state).map upperByte
    spec := JSON.object [(text "cpu", itoa (1 + number % 4)), (text "memory_mb", itoa (1024 * (1 + number % 8)))]
    addresses := JSON.array [JSON.object [
      (text "address", JSON.quote (text "10." ++ integerText (settings.seed.tmod 250) ++ text "." ++
        itoa (number / 250) ++ text "." ++ itoa (number % 250 + 1))),
      (text "type", JSON.quote (text "private"))]]
    capabilities := capabilities settings.consoleProfile state }
where
  upperByte (c : UInt8) : UInt8 := if byte 'a' ≤ c ∧ c ≤ byte 'z' then c - 32 else c

def generateServers (connectionID : GoString) (settings : Settings floats) : Option (List RemoteServer) :=
  (List.range settings.serverCount.toNat).mapM fun index => generateServer floats connectionID settings (index + 1)

/-! ## Connections -/

def Factory.find (factory : Factory) (id : GoString) : Option SharedState :=
  (factory.connections.find? fun entry => entry.1 = id).map Prod.snd

def Factory.put (factory : Factory) (id : GoString) (state : SharedState) : Factory :=
  ⟨(id, state) :: factory.connections.filter fun entry => entry.1 ≠ id⟩

/-- The state of a connection is made, and remembered. -/
def make (factory : Factory) (config : ConnectionConfig) (settings : Settings floats) :
    Option (Except GoError (Provider floats) × Factory) := do
  let servers ← generateServers floats config.id settings
  let state : SharedState := ⟨fingerprint floats settings, servers⟩
  return (.ok ⟨config.id, settings, state⟩, factory.put config.id state)

/-- `Factory.Create`; `none` is a panic. -/
def create (factory : Factory) (config : ConnectionConfig) : Option (Except GoError (Provider floats) × Factory) :=
  match configure floats config with
  | .error failure => some (.error failure, factory)
  | .ok settings =>
      match factory.find config.id with
      | none => make floats factory config settings
      | some state =>
          if state.fingerprint = fingerprint floats settings then some (.ok ⟨config.id, settings, state⟩, factory)
          else make floats factory config settings

/-- What `changeState` does to one of the servers of a connection. -/
def changeState (factory : Factory) (id : GoString) (index : Nat) (profile : GoString) (running : Bool) : Factory :=
  match factory.find id with
  | none => factory
  | some state =>
      let next : ServerState := if running then .running else .stopped
      factory.put id { state with
        servers := state.servers.modify index fun server => { server with
          state := next, remoteState := (stateText next).map generateServer.upperByte
          capabilities := capabilities profile next } }

/-- The factories that there can be: what was made so far, and what power
actions made of it. -/
inductive Reached : Factory → Prop where
  | new : Reached newFactory
  | created {factory after : Factory} {config : ConnectionConfig} {result : Except GoError (Provider floats)}
      (before : Reached factory) (ran : create floats factory config = some (result, after)) : Reached after
  | changed {factory : Factory} (before : Reached factory) (id : GoString) (index : Nat) (profile : GoString)
      (running : Bool) : Reached (changeState factory id index profile running)

/-! ## Indices -/

private theorem indexed_fixture {value : Int} (reaches : 0 ≤ value ∨ (4 : Int) ∣ value) :
    ∃ state ∈ fixtures, indexed fixtures (value.tmod 4) = some state := by
  have least : 0 ≤ value.tmod 4 := by
    rcases reaches with positive | divides
    · exact Int.tmod_nonneg 4 positive
    · exact Int.le_of_eq (Int.tmod_eq_zero_of_dvd divides).symm
  have most : value.tmod 4 < 4 := Int.tmod_lt_of_pos value (by decide)
  have small : (value.tmod 4).toNat < fixtures.length := by
    show (value.tmod 4).toNat < 4
    omega
  refine ⟨fixtures[(value.tmod 4).toNat], List.getElem_mem small, ?_⟩
  rw [indexed, if_neg (by omega), List.getElem?_eq_getElem small]

private theorem indexed_reaches {value : Int} {state : ServerState}
    (found : indexed fixtures (value.tmod 4) = some state) : 0 ≤ value ∨ (4 : Int) ∣ value := by
  rcases Int.le_total 0 value with positive | below
  · exact .inl positive
  · have most : 0 ≤ (-value).tmod 4 := Int.tmod_nonneg 4 (by omega)
    rw [Int.neg_tmod] at most
    unfold indexed at found
    split at found
    · cases found
    · exact .inr (Int.dvd_of_tmod_eq_zero (by omega))

section Servers

variable {floats} {connectionID : GoString} {settings : Settings floats} {number : Nat}

private theorem generateServer_some :
    (∃ server, generateServer floats connectionID settings number = some server) ↔
      ∃ state, indexed fixtures ((wrap ((number : Int) - 1 + settings.seed)).tmod 4) = some state := by
  simp only [generateServer, Option.bind_eq_bind, Option.pure_def, Option.bind_eq_some_iff]
  constructor
  · rintro ⟨_, state, found, _⟩
    exact ⟨state, found⟩
  · rintro ⟨state, found⟩
    exact ⟨_, state, found, rfl⟩

private theorem generateServer_fixture {server : RemoteServer}
    (made : generateServer floats connectionID settings number = some server) : server.state ∈ fixtures := by
  simp only [generateServer, Option.bind_eq_bind, Option.pure_def, Option.bind_eq_some_iff, Option.some.injEq] at made
  obtain ⟨state, found, same⟩ := made
  subst same
  show state ∈ fixtures
  unfold indexed at found
  split at found
  · cases found
  · exact List.mem_of_getElem? found

private theorem generateServers_fixtures {servers : List RemoteServer}
    (made : generateServers floats connectionID settings = some servers) :
    ∀ server ∈ servers, server.state ∈ fixtures := by
  intro server member
  obtain ⟨_, _, each⟩ := JSON.mapM_mem made member
  exact generateServer_fixture each

end Servers

/-- No index lies before the first fixture. -/
def Unbroken (settings : Settings floats) : Prop :=
  (0 ≤ settings.seed ∧ settings.seed + settings.serverCount ≤ 2 ^ 63 + 1) ∨
    (settings.serverCount = 1 ∧ (4 : Int) ∣ settings.seed)

/-- The settings that `Create` gets as far as its servers with. -/
structure Bounded (settings : Settings floats) : Prop where
  least : 1 ≤ settings.serverCount
  most : settings.serverCount ≤ 500
  low : -2 ^ 63 ≤ settings.seed
  high : settings.seed < 2 ^ 63

section Created

variable {floats}

private theorem wrap_reaches {settings : Settings floats} (bounded : Bounded floats settings) :
    (∀ index < settings.serverCount.toNat,
      0 ≤ wrap (((index + 1 : Nat) : Int) - 1 + settings.seed) ∨
        (4 : Int) ∣ wrap (((index + 1 : Nat) : Int) - 1 + settings.seed)) ↔ Unbroken floats settings := by
  obtain ⟨least, most, low, high⟩ := bounded
  unfold wrap Unbroken
  constructor
  · intro each
    rcases Int.le_total 0 settings.seed with positive | below
    · refine .inl ⟨positive, ?_⟩
      by_contra beyond
      -- The second number past the greatest is neither positive nor a multiple.
      have past := each (2 ^ 63 + 1 - settings.seed).toNat (by omega)
      omega
    · have first := each 0 (by omega)
      by_cases single : settings.serverCount = 1
      · omega
      · have second := each 1 (by omega)
        omega
  · rintro unbroken index inside
    omega

private theorem generateServers_some (connectionID : GoString) {settings : Settings floats}
    (bounded : Bounded floats settings) :
    (∃ servers, generateServers floats connectionID settings = some servers) ↔ Unbroken floats settings := by
  unfold generateServers
  rw [JSON.mapM_some_iff, ← wrap_reaches bounded]
  simp only [List.mem_range, generateServer_some]
  refine forall_congr' fun index => forall_congr' fun inside => ⟨?_, ?_⟩
  · rintro ⟨state, found⟩
    exact indexed_reaches found
  · intro reaches
    obtain ⟨state, _, found⟩ := indexed_fixture reaches
    exact ⟨state, found⟩

def SeedFits (settings : Settings floats) : Prop := -2 ^ 63 ≤ settings.seed ∧ settings.seed < 2 ^ 63

private theorem settingsFields_fit {field : JSON.Field (Settings floats)} (listed : field ∈ settingsFields floats)
    {current next : Settings floats} {value : JSON.Json} (fits : SeedFits current)
    (decoded : field.decode current value = some next) : SeedFits next := by
  simp only [settingsFields, List.mem_cons, List.not_mem_nil, or_false] at listed
  rcases listed with rfl | rfl | rfl | rfl | rfl | rfl <;>
    obtain ⟨part, read, same⟩ := Option.map_eq_some_iff.mp decoded <;> subst same
  case inr.inl => exact JSON.asInt_bounds fits read
  all_goals exact fits

private theorem settings_fit {value next : Settings floats} {data : GoString} (before : SeedFits value)
    (decoded : JSON.unmarshal (JSON.asStruct (settingsFields floats) true) value data = some next) :
    SeedFits next := by
  obtain ⟨tree, _, built⟩ := Option.bind_eq_some_iff.mp decoded
  exact JSON.asStruct_keeps (fun _ listed _ _ _ => settingsFields_fit listed) before built

private theorem refused_ok {T : Type} {failure : GoError} {refused : Prop} [Decidable refused]
    {rest : Except GoError T} {value : T} :
    (if refused then .error failure else rest) = .ok value ↔ ¬refused ∧ rest = .ok value := by
  by_cases refusal : refused
  · simp [refusal]
  · simp [refusal]

private theorem configure_bounded {config : ConnectionConfig} {settings : Settings floats}
    (configured : configure floats config = .ok settings) : Bounded floats settings := by
  have start : SeedFits (defaultSettings floats) := by
    constructor
    · show (-2 ^ 63 : Int) ≤ 1
      decide
    · show (1 : Int) < 2 ^ 63
      decide
  unfold configure at configured
  simp only [bind, Except.bind, pure, Except.pure, throw, throwThe, MonadExceptOf.throw, refused_ok] at configured
  obtain ⟨_, configured⟩ := configured
  have checked : ∃ read : Settings floats, SeedFits read ∧
      ¬(read.serverCount < 1 ∨ 500 < read.serverCount) ∧ read = settings := by
    split at configured
    · obtain ⟨counted, _, _, _, _, accepted⟩ := by simpa only [refused_ok] using configured
      refine ⟨_, start, counted, ?_⟩
      split at accepted
      · cases accepted
      · rw [refused_ok] at accepted
        exact Except.ok.inj accepted.2
    · split at configured
      · next read decoded =>
        obtain ⟨counted, _, _, _, _, accepted⟩ := by simpa only [refused_ok] using configured
        refine ⟨read, settings_fit start decoded, counted, ?_⟩
        split at accepted
        · cases accepted
        · rw [refused_ok] at accepted
          exact Except.ok.inj accepted.2
      · cases configured
  obtain ⟨read, seeds, counted, rfl⟩ := checked
  exact ⟨by omega, by omega, seeds.1, seeds.2⟩

private theorem fingerprint_injective {left right : Settings floats}
    (same : fingerprint floats left = fingerprint floats right) :
    left.serverCount = right.serverCount ∧ left.seed = right.seed := by
  simp only [fingerprint, JSON.object, JSON.commaSeparated, List.map_cons, List.map_nil, List.cons.injEq, true_and,
    List.append_assoc, List.cons_append, List.append_cancel_left_eq] at same
  have clean : ∀ value, byte ',' ∉ integerText value := fun value =>
    integerText_clean value (by decide) (by decide)
  obtain ⟨counts, rest⟩ := cut_unique (clean _) (clean _) same
  simp only [List.append_cancel_left_eq, List.cons.injEq, true_and] at rest
  obtain ⟨seeds, _⟩ := cut_unique (clean _) (clean _) rest
  exact ⟨integerText_injective counts, integerText_injective seeds⟩

end Created

/-! ## Factories -/

/-- What the state of a connection was made with, and what it has since. -/
structure Kept (state : SharedState) : Prop where
  made : ∃ settings, Unbroken floats settings ∧ state.fingerprint = fingerprint floats settings
  states : ∀ server ∈ state.servers, server.state ∈ fixtures

/-- `Create` answers, and with servers in the states that they are made in. -/
def Answers (factory : Factory) (config : ConnectionConfig) : Prop :=
  ∃ result after, create floats factory config = some (result, after) ∧
    ∀ provider, result = .ok provider → ∀ server ∈ provider.state.servers, server.state ∈ fixtures

section Factories

variable {floats}

private theorem find_put {factory : Factory} {id other : GoString} {state : SharedState} :
    (factory.put id state).find other = if other = id then some state else factory.find other := by
  unfold Factory.find Factory.put
  by_cases same : other = id
  · subst same
    simp
  · rw [if_neg same, List.find?_cons_of_neg (by simpa using Ne.symm same), List.find?_filter]
    congr 2
    funext entry
    by_cases here : entry.1 = other
    · simp [here, same]
    · simp [here]

private theorem put_kept {factory : Factory} {id other : GoString} {put found : SharedState}
    (before : ∀ id state, factory.find id = some state → Kept floats state) (new : Kept floats put)
    (looked : (factory.put id put).find other = some found) : Kept floats found := by
  rw [find_put] at looked
  split at looked
  · cases looked
    exact new
  · exact before other found looked


private theorem make_kept {factory after : Factory} {config : ConnectionConfig} {settings : Settings floats}
    {result : Except GoError (Provider floats)} (bounded : Bounded floats settings)
    (before : ∀ id state, factory.find id = some state → Kept floats state)
    (ran : make floats factory config settings = some (result, after)) :
    (∀ id state, after.find id = some state → Kept floats state) ∧
      ∀ provider, result = .ok provider → Kept floats provider.state := by
  simp only [make, Option.bind_eq_bind, Option.pure_def, Option.bind_eq_some_iff] at ran
  obtain ⟨servers, generated, same⟩ := ran
  cases same
  have new : Kept floats ⟨fingerprint floats settings, servers⟩ :=
    ⟨⟨settings, (generateServers_some _ bounded).mp ⟨servers, generated⟩, rfl⟩, generateServers_fixtures generated⟩
  refine ⟨fun id state looked => put_kept before new looked, ?_⟩
  rintro provider ⟨⟩
  exact new

private theorem make_some {factory : Factory} {config : ConnectionConfig} {settings : Settings floats}
    (bounded : Bounded floats settings) :
    (∃ result after, make floats factory config settings = some (result, after)) ↔ Unbroken floats settings := by
  rw [← generateServers_some config.id bounded]
  simp only [make, Option.bind_eq_bind, Option.pure_def, Option.bind_eq_some_iff]
  constructor
  · rintro ⟨_, _, servers, generated, _⟩
    exact ⟨servers, generated⟩
  · rintro ⟨servers, generated⟩
    exact ⟨_, _, servers, generated, rfl⟩

private theorem create_kept {factory after : Factory} {config : ConnectionConfig}
    {result : Except GoError (Provider floats)}
    (before : ∀ id state, factory.find id = some state → Kept floats state)
    (ran : create floats factory config = some (result, after)) :
    (∀ id state, after.find id = some state → Kept floats state) ∧
      ∀ provider, result = .ok provider → Kept floats provider.state := by
  unfold create at ran
  split at ran
  · cases ran
    exact ⟨before, nofun⟩
  · next settings configured =>
    have bounded := configure_bounded configured
    split at ran
    · exact make_kept bounded before ran
    · next state found =>
      split at ran
      · cases ran
        refine ⟨before, ?_⟩
        rintro provider ⟨⟩
        exact before _ _ found
      · exact make_kept bounded before ran

private theorem modify_fixtures {servers : List RemoteServer} {index : Nat} {change : RemoteServer → RemoteServer}
    (before : ∀ server ∈ servers, server.state ∈ fixtures) (changed : ∀ server, (change server).state ∈ fixtures) :
    ∀ server ∈ servers.modify index change, server.state ∈ fixtures := by
  intro server member
  obtain ⟨position, looked⟩ := List.mem_iff_getElem?.mp member
  rw [List.getElem?_modify] at looked
  obtain ⟨old, here, same⟩ := Option.map_eq_some_iff.mp looked
  have held := before old (List.mem_of_getElem? here)
  subst same
  split
  · exact changed old
  · exact held

theorem reached_kept {factory : Factory} (reached : Reached floats factory) :
    ∀ id state, factory.find id = some state → Kept floats state := by
  induction reached with
  | new => nofun
  | created _ ran ih => exact (create_kept ih ran).1
  | @changed factory _ id index profile running ih =>
      unfold changeState
      split
      · exact ih
      · next state found =>
        obtain ⟨made, states⟩ := ih id state found
        intro other left looked
        refine put_kept ih ?_ looked
        refine ⟨made, modify_fixtures states ?_⟩
        intro server
        cases running with
        | true => exact .head _
        | false => exact .tail _ (.head _)

private theorem create_some {factory : Factory} (reached : Reached floats factory) (config : ConnectionConfig) :
    (∃ result after, create floats factory config = some (result, after)) ↔
      ∀ settings, configure floats config = .ok settings → Unbroken floats settings := by
  cases configured : configure floats config with
  | error failure => simp [create, configured]
  | ok settings =>
      have bounded := configure_bounded configured
      have unchanged : (∀ read, Except.ok settings = (.ok read : Except GoError (Settings floats)) →
          Unbroken floats read) ↔ Unbroken floats settings := by simp
      rw [unchanged]
      cases found : factory.find config.id with
      | none =>
          simp only [create, configured, found]
          exact make_some bounded
      | some state =>
          simp only [create, configured, found]
          by_cases same : state.fingerprint = fingerprint floats settings
          · obtain ⟨⟨earlier, unbroken, printed⟩, _⟩ := reached_kept reached _ _ found
            obtain ⟨counts, seeds⟩ := fingerprint_injective (printed.symm.trans same)
            simp only [if_pos same]
            refine ⟨fun _ => ?_, fun _ => ⟨_, _, rfl⟩⟩
            unfold Unbroken at unbroken ⊢
            rwa [← counts, ← seeds]
          · simp only [if_neg same]
            exact make_some bounded

theorem connections_answer {factory : Factory} (reached : Reached floats factory) (config : ConnectionConfig) :
    Answers floats factory config ↔
      ∀ settings, configure floats config = .ok settings → Unbroken floats settings := by
  rw [← create_some reached config]
  constructor
  · rintro ⟨result, after, ran, _⟩
    exact ⟨result, after, ran⟩
  · rintro ⟨result, after, ran⟩
    refine ⟨result, after, ran, ?_⟩
    intro provider made
    exact ((create_kept (reached_kept reached) ran).2 provider made).states

end Factories

/-- Rates are whole numbers here. -/
def wholeFloats : Floats := ⟨Int, 0, parseInt, fun value => 0 ≤ value && value ≤ 1, integerText⟩

def connection (settings : String) : ConnectionConfig where
  id := text "c1"
  type := text "mock"
  endpoint := []
  settings := text settings
  credentials := text "\x7b\"token\":\"t\"\x7d"

theorem connections_answer_two :
    Answers wholeFloats newFactory (connection "\x7b\"server_count\":2\x7d") := by
  apply (connections_answer .new _).mpr
  intro settings configured
  have read : (configure wholeFloats (connection "\x7b\"server_count\":2\x7d")).toOption.map
      (fun settings => (settings.serverCount, settings.seed)) = some (2, 1) := by decide +kernel
  rw [configured] at read
  obtain ⟨counts, seeds⟩ := Prod.mk.inj (Option.some.inj read)
  refine .inl ?_
  rw [counts, seeds]
  decide

theorem negative_seed_panics :
    ¬∀ factory config, Reached wholeFloats factory → Answers wholeFloats factory config := by
  intro every
  obtain ⟨result, after, ran, _⟩ := every newFactory (connection "\x7b\"seed\":-1\x7d") .new
  have panics : (create wholeFloats newFactory (connection "\x7b\"seed\":-1\x7d")).isNone = true := by
    decide +kernel
  rw [ran] at panics
  cases panics

end NodeAtlas.Adapters.Mock
