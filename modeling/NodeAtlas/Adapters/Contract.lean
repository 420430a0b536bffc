import NodeAtlas.Adapters.AWS
import NodeAtlas.Adapters.GCP
import NodeAtlas.Adapters.SolusVM2
import NodeAtlas.Adapters.VirtFusion
import NodeAtlas.Adapters.Virtualizor

/-! What `contracttest` reports about the servers that the adapters make. -/

set_option autoImplicit false

namespace NodeAtlas.Adapters

open Providers

/-- `testing.Errorf`, where something is wrong. -/
def report (wrong : Bool) (message : String) : List GoString := if wrong then [text message] else []

def canonicalState : ServerState → Bool
  | .other _ => false
  | _ => true

def validateReason (capability : Capability) : List GoString :=
  report (capability.available && trimSpace capability.reason ≠ [])
    "contract: available capability must not include a reason" ++
  report (!capability.available && trimSpace capability.reason = [])
    "contract: unavailable capability requires a reason"

def validateCapabilities (state : ServerState) (capabilities : Capabilities) : List GoString :=
  let checks := [capabilities.canStart, capabilities.canStop, capabilities.canReboot,
    capabilities.canEmbedConsole, capabilities.canOpenConsoleWindow, capabilities.hasProviderPortal]
  let powerAvailable := capabilities.canStart.available || capabilities.canStop.available ||
    capabilities.canReboot.available
  let consoleAvailable := capabilities.canEmbedConsole.available || capabilities.canOpenConsoleWindow.available
  checks.flatMap validateReason ++
    match state with
    | .running => report capabilities.canStart.available "contract: running server must not allow start"
    | .stopped =>
        report (capabilities.canStop.available || capabilities.canReboot.available)
          "contract: stopped server must not allow stop or reboot"
    | .suspended =>
        report (powerAvailable || consoleAvailable)
          "contract: suspended server must not allow power or console operations"
    | .pending | .stopping | .rebooting | .unknown | .error =>
        report powerAvailable
          "contract: transitional or unsafe server state must not allow power operations"
    | .other _ => []

/-- All that is reported about a server, in its order. -/
def validateServer (server : RemoteServer) : List GoString :=
  report (trimSpace server.externalID = []) "contract: server external ID must be non-empty" ++
  report (trimSpace server.scope = []) "contract: server scope must be non-empty" ++
  report (trimSpace server.name = []) "contract: server name must be non-empty" ++
  report (trimSpace server.remoteState = []) "contract: remote state must be non-empty" ++
  report (!canonicalState server.state) "contract: server must use a canonical state" ++
  report (server.spec = [] || !JSON.valid server.spec) "contract: server spec must be valid JSON" ++
  report (server.addresses = [] || !JSON.valid server.addresses)
    "contract: server addresses must be valid JSON" ++
  validateCapabilities server.state server.capabilities

@[simp] theorem report_false (message : String) : report false message = [] := rfl

@[simp] theorem report_nil (wrong : Bool) (message : String) : report wrong message = [] ↔ wrong = false := by
  cases wrong <;> simp [report]

/-! ## Servers that the adapters make -/

/-- What all adapters do alike. -/
structure Regular (server : RemoteServer) : Prop where
  externalID : trimSpace server.externalID ≠ []
  name : trimSpace server.name ≠ []
  canonical : canonicalState server.state = true
  spec : ∃ depth, depth ≤ 3 ∧ JSON.Value depth server.spec
  addresses : ∃ depth, depth ≤ 3 ∧ JSON.Value depth server.addresses
  start : server.capabilities.canStart.available = decide (server.state = .stopped)
  stop : server.capabilities.canStop.available = decide (server.state = .running)
  reboot : server.capabilities.canReboot.available = decide (server.state = .running)
  reasons : ∀ capability ∈ [server.capabilities.canStart, server.capabilities.canStop,
    server.capabilities.canReboot, server.capabilities.canEmbedConsole,
    server.capabilities.canOpenConsoleWindow, server.capabilities.hasProviderPortal],
    validateReason capability = []

private theorem capability_available (flag : Bool) (reason : String) :
    (capability flag reason).available = flag := by
  cases flag <;> rfl

private theorem capability_reason {reason : String} (given : trimSpace (text reason) ≠ []) (flag : Bool) :
    validateReason (capability flag reason) = [] := by
  have granted : validateReason ⟨true, []⟩ = [] := by decide
  cases flag with
  | true => exact granted
  | false => simpa [capability, validateReason] using given

private theorem without_reason {reason : String} (given : trimSpace (text reason) ≠ []) :
    validateReason (without reason) = [] := capability_reason given false

private theorem available_reason : validateReason available = [] := by decide

private theorem value_passes {depth : Nat} {raw : GoString} (atMost : depth ≤ 3) (value : JSON.Value depth raw) :
    (raw = [] || !JSON.valid raw) = false := by
  have valid := value.valid (Nat.le_trans atMost (by decide))
  have some_ : raw ≠ [] := by
    rintro rfl
    exact absurd valid (by decide)
  simp [valid, some_]

/-- Blank scopes and states, and the consoles of suspended servers, are all
that is left to report. -/
private theorem Regular.validateServer {server : RemoteServer} (regular : Regular server) :
    validateServer server =
      report (trimSpace server.scope = []) "contract: server scope must be non-empty" ++
      report (trimSpace server.remoteState = []) "contract: remote state must be non-empty" ++
      report (server.state = .suspended && (server.capabilities.canEmbedConsole.available ||
        server.capabilities.canOpenConsoleWindow.available))
        "contract: suspended server must not allow power or console operations" := by
  obtain ⟨specDepth, specShallow, spec⟩ := regular.spec
  obtain ⟨depth, shallow, addresses⟩ := regular.addresses
  have reasons : List.flatMap validateReason [server.capabilities.canStart, server.capabilities.canStop,
      server.capabilities.canReboot, server.capabilities.canEmbedConsole,
      server.capabilities.canOpenConsoleWindow, server.capabilities.hasProviderPortal] = [] :=
    List.flatMap_eq_nil_iff.mpr regular.reasons
  have powers : validateCapabilities server.state server.capabilities =
      report (server.state = .suspended && (server.capabilities.canEmbedConsole.available ||
        server.capabilities.canOpenConsoleWindow.available))
        "contract: suspended server must not allow power or console operations" := by
    have canonical := regular.canonical
    have start := regular.start
    have stop := regular.stop
    have reboot := regular.reboot
    simp only [validateCapabilities]
    rw [reasons, List.nil_append, start, stop, reboot]
    cases state : server.state with
    | other name =>
        rw [state] at canonical
        cases canonical
    | pending => simp
    | running => simp
    | stopping => simp
    | stopped => simp
    | rebooting => simp
    | suspended => simp
    | error => simp
    | unknown => simp
  unfold Adapters.validateServer
  simp [powers, regular.externalID, regular.name, regular.canonical, value_passes specShallow spec,
    value_passes shallow addresses]

/-- The power capabilities follow the state; the rest is the adapter's own. -/
private theorem regular_of {server : RemoteServer} {startReason powerReason : String} {embed window : Capability}
    (externalID : trimSpace server.externalID ≠ []) (name : trimSpace server.name ≠ [])
    (canonical : canonicalState server.state = true)
    (spec : ∃ depth, depth ≤ 3 ∧ JSON.Value depth server.spec)
    (addresses : ∃ depth, depth ≤ 3 ∧ JSON.Value depth server.addresses)
    (capabilities : server.capabilities = {
      canStart := capability (server.state = .stopped) startReason
      canStop := capability (server.state = .running) powerReason
      canReboot := capability (server.state = .running) powerReason
      canEmbedConsole := embed
      canOpenConsoleWindow := window
      hasProviderPortal := available })
    (startGiven : trimSpace (text startReason) ≠ []) (powerGiven : trimSpace (text powerReason) ≠ [])
    (embedReason : validateReason embed = []) (windowReason : validateReason window = []) : Regular server := by
  refine ⟨externalID, name, canonical, spec, addresses, ?_, ?_, ?_, ?_⟩
  · rw [capabilities]
    exact capability_available _ _
  · rw [capabilities]
    exact capability_available _ _
  · rw [capabilities]
    exact capability_available _ _
  · rw [capabilities]
    intro capability member
    simp only [List.mem_cons, List.not_mem_nil, or_false] at member
    rcases member with rfl | rfl | rfl | rfl | rfl | rfl
    · exact capability_reason startGiven _
    · exact capability_reason powerGiven _
    · exact capability_reason powerGiven _
    · exact embedReason
    · exact windowReason
    · exact available_reason

private theorem items_value {items : List GoString}
    (each : ∀ item ∈ items, ∃ kind value, item = address kind value) :
    ∃ depth, depth ≤ 3 ∧ JSON.Value depth (JSON.array items) := by
  refine ⟨2, by omega, JSON.array_value ?_⟩
  intro item member
  obtain ⟨kind, value, rfl⟩ := each item member
  exact address_value kind value

private theorem fields_value {members : List (GoString × GoString)}
    (each : ∀ member ∈ members, JSON.Value 0 member.2 ∨ JSON.Value 1 member.2) :
    ∃ depth, depth ≤ 3 ∧ JSON.Value depth (JSON.object members) := by
  refine ⟨2, by omega, JSON.object_value ?_⟩
  intro member present
  rcases each member present with flat | nested
  · exact flat.deeper (by omega)
  · exact nested

section Reports

variable (library : Library)

/-! ### AWS -/

private theorem aws_canonical (state : GoString) : canonicalState (AWS.mapState state) = true := by
  unfold AWS.mapState
  repeat' split
  all_goals rfl

private theorem aws_unsuspended (state : GoString) : AWS.mapState state ≠ .suspended := by
  unfold AWS.mapState
  repeat' split
  all_goals simp

private theorem aws_addresses (instance_ : AWS.Instance) :
    ∀ item ∈ AWS.addresses instance_, ∃ kind value, item = address kind value := by
  intro item member
  rcases List.mem_append.mp member with member | member
  · split at member
    · exact ⟨_, _, List.mem_singleton.mp member⟩
    · cases member
  · split at member
    · exact ⟨_, _, List.mem_singleton.mp member⟩
    · cases member

private theorem aws_regular {instance_ : AWS.Instance} {region : GoString} {server : RemoteServer}
    (normalized : AWS.normalizeInstance instance_ region = some server) : Regular server := by
  simp only [AWS.normalizeInstance] at normalized
  split at normalized
  · cases normalized
  · next named =>
      cases normalized
      have visible : trimSpace (trimSpace (AWS.toString instance_.instanceID)) ≠ [] := by
        rwa [trimSpace_trimSpace]
      apply regular_of visible (AWS.name_visible _ visible) (aws_canonical _)
      · apply fields_value
        intro member present
        simp only [List.mem_cons, List.not_mem_nil, or_false] at present
        rcases present with rfl | rfl | rfl <;> exact .inl (JSON.quote_value _)
      · exact items_value (aws_addresses instance_)
      · rfl
      · decide
      · decide
      · exact without_reason (by decide)
      · exact without_reason (by decide)

/-- An instance of a region has a blank state, or nothing is wrong with it. -/
theorem aws_report {instance_ : AWS.Instance} {region : GoString} {server : RemoteServer}
    (normalized : AWS.normalizeInstance instance_ region = some server) (visible : trimSpace region ≠ []) :
    validateServer server =
      report (trimSpace (AWS.rawState instance_) = []) "contract: remote state must be non-empty" := by
  have regular := aws_regular normalized
  rw [regular.validateServer]
  simp only [AWS.normalizeInstance] at normalized
  split at normalized
  · cases normalized
  · cases normalized
    simp [visible, aws_unsuspended]

/-! ### GCP -/

private theorem gcp_canonical (state : GoString) : canonicalState (GCP.mapState state) = true := by
  unfold GCP.mapState
  repeat' split
  all_goals rfl

private theorem gcp_add {kind : String} {value item : GoString} (member : item ∈ GCP.add kind value) :
    ∃ kind value, item = address kind value := by
  unfold GCP.add at member
  split at member
  · exact ⟨_, _, List.mem_singleton.mp member⟩
  · cases member

private theorem gcp_addresses (instance_ : GCP.Instance) :
    ∀ item ∈ GCP.addresses instance_, ∃ kind value, item = address kind value := by
  intro item member
  obtain ⟨network, _, member⟩ := List.mem_flatMap.mp member
  simp only [List.mem_append, List.mem_flatMap] at member
  rcases member with ((member | member) | ⟨access, _, member | member⟩) | ⟨access, _, member⟩
  · exact gcp_add member
  · exact gcp_add member
  · exact gcp_add member
  · exact gcp_add member
  · exact gcp_add member

private theorem gcp_regular {instance_ : GCP.Instance} {server : RemoteServer}
    (normalized : GCP.normalizeInstance (some instance_) = .ok server) :
    Regular server ∧ trimSpace server.scope ≠ [] := by
  simp only [GCP.normalizeInstance] at normalized
  split at normalized
  · cases normalized
  · next accepted =>
      have valid : GCP.validRef ⟨instance_.name, GCP.pathBase instance_.zone⟩ = true := by simpa using accepted
      cases normalized
      have visible := GCP.name_visible valid
      constructor
      · apply regular_of visible visible (gcp_canonical _)
        · apply fields_value
          intro member present
          simp only [List.mem_cons, List.not_mem_nil, or_false] at present
          rcases present with rfl | rfl | rfl | rfl | rfl
          · exact .inr (JSON.stringMap_value _)
          · exact .inl (JSON.quote_value _)
          · exact .inl (JSON.itoa_value _)
          · exact .inl (JSON.boolean_value _)
          · exact .inl (JSON.quote_value _)
        · exact items_value (gcp_addresses instance_)
        · rfl
        · decide
        · decide
        · exact without_reason (by decide)
        · exact without_reason (by decide)
      · exact GCP.zone_visible valid

theorem gcp_report {instance_ : GCP.Instance} {server : RemoteServer}
    (normalized : GCP.normalizeInstance (some instance_) = .ok server) :
    validateServer server =
      report (trimSpace instance_.status = []) "contract: remote state must be non-empty" := by
  obtain ⟨regular, visible⟩ := gcp_regular normalized
  rw [regular.validateServer]
  simp only [GCP.normalizeInstance] at normalized
  split at normalized
  · cases normalized
  · cases normalized
    simp [visible, GCP.consoleReason, without]

/-! ### VirtFusion -/

private theorem virtFusion_canonical (remote : GoString) (data : VirtFusion.ServerData) :
    canonicalState (VirtFusion.mapState remote data) = true := by
  unfold VirtFusion.mapState
  repeat' split
  all_goals rfl

private theorem virtFusion_addresses (data : VirtFusion.ServerData) :
    ∀ item ∈ VirtFusion.addresses data, ∃ kind value, item = address kind value := by
  intro item member
  obtain ⟨interface, _, member⟩ := List.mem_flatMap.mp member
  rcases List.mem_append.mp member with member | member
  · obtain ⟨value, _, rfl⟩ := List.mem_map.mp member
    exact ⟨_, _, rfl⟩
  · obtain ⟨value, _, rfl⟩ := List.mem_map.mp member
    exact ⟨_, _, rfl⟩

private theorem virtFusion_regular {data : VirtFusion.ServerData} (visible : trimSpace data.uuid ≠ []) :
    Regular (VirtFusion.normalizeServer library data) := by
  apply regular_of visible (VirtFusion.name_visible data) (virtFusion_canonical _ data)
  · apply fields_value
    intro member present
    simp only [List.mem_cons, List.not_mem_nil, or_false] at present
    rcases present with rfl | rfl | rfl | rfl <;> exact .inl (JSON.integer_value _)
  · exact items_value (virtFusion_addresses data)
  · rfl
  · decide
  · decide
  · exact capability_reason (by decide) _
  · exact capability_reason (by decide) _

/-- The servers have no scope, a state without a text has no name, and a server
that the panel calls paused or suspended may keep its console. -/
theorem virtFusion_report {data : VirtFusion.ServerData} (visible : trimSpace data.uuid ≠ []) :
    validateServer (VirtFusion.normalizeServer library data) =
      [text "contract: server scope must be non-empty"] ++
      report (trimSpace (VirtFusion.remoteState library data) = []) "contract: remote state must be non-empty" ++
      report (VirtFusion.mapState (VirtFusion.remoteState library data) data = .suspended &&
        VirtFusion.vncAvailable data)
        "contract: suspended server must not allow power or console operations" := by
  rw [(virtFusion_regular library visible).validateServer]
  simp only [VirtFusion.normalizeServer, capability_available, Bool.or_self]
  rfl

/-! ### Virtualizor -/

private theorem virtualizor_canonical (status : Int) (suspended : Bool) :
    canonicalState (Virtualizor.mapState status suspended) = true := by
  unfold Virtualizor.mapState
  repeat' split
  all_goals rfl

private theorem virtualizor_addresses {ips items : List GoString}
    (normalized : ips.mapM (Virtualizor.normalizeIP library) = some items) :
    ∀ item ∈ items, ∃ kind value, item = address kind value := by
  induction ips generalizing items with
  | nil =>
      cases normalized
      intro item member
      cases member
  | cons raw rest ih =>
      rw [List.mapM_cons] at normalized
      obtain ⟨first, found, normalized⟩ := Option.bind_eq_some_iff.mp normalized
      obtain ⟨others, more, normalized⟩ := Option.bind_eq_some_iff.mp normalized
      cases normalized
      intro item member
      rcases List.mem_cons.mp member with rfl | later
      · obtain ⟨ip, _, rfl⟩ := Option.map_eq_some_iff.mp found
        exact ⟨_, _, rfl⟩
      · exact ih more item later

private theorem virtualizor_regular {data : Virtualizor.ServerData} {server : RemoteServer}
    (normalized : Virtualizor.normalizeServer library data = .ok server) : Regular server := by
  simp only [Virtualizor.normalizeServer] at normalized
  split at normalized
  · cases normalized
  split at normalized
  · cases normalized
  · next items listed =>
      cases normalized
      apply regular_of (integerText_visible _) (Virtualizor.name_visible data) (virtualizor_canonical _ _)
      · apply fields_value
        intro member present
        simp only [List.mem_cons, List.not_mem_nil, or_false] at present
        rcases present with rfl | rfl | rfl | rfl | rfl
        · exact .inl (JSON.integer_value _)
        · exact .inl (JSON.integer_value _)
        · exact .inl (JSON.integer_value _)
        · exact .inl (JSON.integer_value _)
        · exact .inl (JSON.quote_value _)
      · exact items_value (virtualizor_addresses library listed)
      · rfl
      · decide
      · decide
      · exact capability_reason (by decide) _
      · exact capability_reason (by decide) _

theorem virtualizor_report {data : Virtualizor.ServerData} {server : RemoteServer}
    (normalized : Virtualizor.normalizeServer library data = .ok server) :
    validateServer server =
      report (trimSpace (Virtualizor.scope data) = []) "contract: server scope must be non-empty" := by
  rw [(virtualizor_regular library normalized).validateServer]
  simp only [Virtualizor.normalizeServer] at normalized
  split at normalized
  · cases normalized
  split at normalized
  · cases normalized
  · cases normalized
    simp [capability_available, integerText_visible]
    intro suspended _
    exact suspended

/-! ### SolusVM 2 -/

private theorem solusVM2_canonical (data : SolusVM2.ServerData) :
    canonicalState (SolusVM2.mapState data).1 = true := by
  unfold SolusVM2.mapState
  split
  · rfl
  split
  · rfl
  · simp only
    repeat' split
    all_goals rfl

/-- Only servers that the panel has suspended are. -/
private theorem solusVM2_suspended {data : SolusVM2.ServerData} (running : data.suspended = false) :
    (SolusVM2.mapState data).1 ≠ .suspended := by
  unfold SolusVM2.mapState
  rw [if_neg (by simp [running])]
  split
  · simp
  · simp only
    repeat' split
    all_goals simp

private theorem solusVM2_regular {data : SolusVM2.ServerData} {server : RemoteServer}
    (normalized : SolusVM2.normalizeServer library data = .ok server) :
    Regular server ∧ trimSpace server.scope ≠ [] := by
  simp only [SolusVM2.normalizeServer] at normalized
  split at normalized
  · cases normalized
  next identified =>
  split at normalized
  · cases normalized
  next projected =>
  split at normalized
  · cases normalized
  split at normalized
  · cases normalized
  · next found listed =>
      cases normalized
      constructor
      · apply regular_of (SolusVM2.id_visible identified) (SolusVM2.name_visible data) (solusVM2_canonical data)
        · apply fields_value
          intro member present
          simp only [List.mem_cons, List.not_mem_nil, or_false] at present
          rcases present with rfl | rfl | rfl | rfl | rfl
          · exact .inl (JSON.integer_value _)
          · exact .inl (JSON.integer_value _)
          · exact .inl (JSON.quote_value _)
          · exact .inl (JSON.integer_value _)
          · exact .inl (JSON.quote_value _)
        · apply items_value
          intro item member
          obtain ⟨pair, _, rfl⟩ := List.mem_map.mp member
          exact ⟨_, _, rfl⟩
        · rfl
        · decide
        · decide
        · exact capability_reason (by decide) _
        · exact capability_reason (by decide) _
      · simp only
        split
        · next given => exact SolusVM2.id_visible fun none_ => projected ⟨given, none_⟩
        · decide

/-- Nothing is ever wrong with these. -/
theorem solusVM2_report {data : SolusVM2.ServerData} {server : RemoteServer}
    (normalized : SolusVM2.normalizeServer library data = .ok server) : validateServer server = [] := by
  obtain ⟨regular, visible⟩ := solusVM2_regular library normalized
  rw [regular.validateServer, decide_eq_false visible]
  simp only [SolusVM2.normalizeServer] at normalized
  split at normalized
  · cases normalized
  split at normalized
  · cases normalized
  split at normalized
  · cases normalized
  split at normalized
  · cases normalized
  · cases normalized
    cases suspended : data.suspended with
    | true => simp [SolusVM2.remote_visible, capability_available]
    | false =>
        have state := solusVM2_suspended suspended
        simp [SolusVM2.remote_visible, state]

end Reports

/-! ## All adapters -/

/-- What the upstreams send, decoded. An AWS instance comes from a region, and
a VirtFusion server in reply to a request for its ID. -/
inductive Payload where
  | aws (configured : List GoString) (region : GoString) (instance_ : AWS.Instance)
  | gcp (instance_ : Option GCP.Instance)
  | virtFusion (id : GoString) (data : VirtFusion.ServerData)
  | virtualizor (data : Virtualizor.ServerData)
  | solusVM2 (data : SolusVM2.ServerData)

/-- The server that the adapter returns for it, if it returns one. -/
def normalize (library : Library) : Payload → Option RemoteServer
  | .aws configured region instance_ =>
      match AWS.normalizeRegions library configured with
      | .error _ => none
      | .ok regions => if region ∈ regions then AWS.normalizeInstance instance_ region else none
  | .gcp instance_ => (GCP.normalizeInstance instance_).toOption
  | .virtFusion id data => (VirtFusion.acceptServer library id data).toOption
  | .virtualizor data => (Virtualizor.normalizeServer library data).toOption
  | .solusVM2 data => (SolusVM2.normalizeServer library data).toOption

/-- The payloads of which all is sent that the contract asks for: a state with
a text, and a scope with one. VirtFusion has no scopes. -/
def Payload.Complete : Payload → Prop
  | .aws _ _ instance_ => ∀ state, instance_.state = some state → trimSpace state ≠ []
  | .gcp instance_ => ∀ sent, instance_ = some sent → trimSpace sent.status ≠ []
  | .virtFusion _ _ => False
  | .virtualizor data =>
      trimSpace data.serverName ≠ [] ∨ data.serverName = [] ∧ trimSpace data.serverID ≠ []
  | .solusVM2 _ => True

private theorem toOption_some {result : Except GoError RemoteServer} {server : RemoteServer}
    (taken : result.toOption = some server) : result = .ok server := by
  cases result with
  | error failure => cases taken
  | ok value =>
      cases taken
      rfl

private theorem aws_complete (instance_ : AWS.Instance) :
    trimSpace (AWS.rawState instance_) ≠ [] ↔ ∀ state, instance_.state = some state → trimSpace state ≠ [] := by
  unfold AWS.rawState
  cases instance_.state with
  | none =>
      have visible : trimSpace (text "unknown") ≠ [] := by decide
      simp [visible]
  | some state => simp

private theorem virtualizor_complete (data : Virtualizor.ServerData) :
    trimSpace (Virtualizor.scope data) ≠ [] ↔
      trimSpace data.serverName ≠ [] ∨ data.serverName = [] ∧ trimSpace data.serverID ≠ [] := by
  have blank : trimSpace [] = [] := by decide
  unfold Virtualizor.scope
  by_cases unnamed : data.serverName = []
  · simp [unnamed, blank]
  · simp [unnamed]

/-- The contract finds nothing wrong with the server exactly where the payload
was complete. -/
theorem contract_kept (library : Library) (payload : Payload) (server : RemoteServer)
    (accepted : normalize library payload = some server) :
    validateServer server = [] ↔ payload.Complete := by
  cases payload with
  | aws configured region instance_ =>
      simp only [normalize] at accepted
      split at accepted
      · cases accepted
      · next regions normalized =>
          split at accepted
          · next listed =>
              have pattern := AWS.normalizeRegions_pattern library normalized region listed
              rw [aws_report accepted (AWS.regionPattern_visible pattern), report_nil, decide_eq_false_iff_not]
              exact aws_complete instance_
          · cases accepted
  | gcp instance_ =>
      have normalized := toOption_some accepted
      cases instance_ with
      | none => cases normalized
      | some sent =>
          rw [gcp_report normalized, report_nil, decide_eq_false_iff_not]
          simp [Payload.Complete]
  | virtFusion id data =>
      obtain ⟨visible, rfl⟩ := VirtFusion.uuid_visible library (toOption_some accepted)
      rw [virtFusion_report library visible]
      simp [Payload.Complete]
  | virtualizor data =>
      rw [virtualizor_report library (toOption_some accepted), report_nil, decide_eq_false_iff_not]
      exact virtualizor_complete data
  | solusVM2 data =>
      rw [solusVM2_report library (toOption_some accepted)]
      simp [Payload.Complete]

/-- A stopped server of SolusVM 2 in no project. -/
def stoppedServer : SolusVM2.ServerData where
  id := text "7"
  name := []
  status := text "stopped"
  realStatus := []
  suspended := false
  processing := false
  virtualizationType := text "kvm"
  osType := text "Linux"
  projectID := []
  vcpu := 2
  ram := 2 ^ 30
  disk := 20
  vncEnabled := true
  ips := []
  ipAddresses := none

theorem contract_kept_stopped : ∃ server, normalize plainLibrary (.solusVM2 stoppedServer) = some server ∧
    validateServer server = [] := by
  have accepted : (normalize plainLibrary (.solusVM2 stoppedServer)).isSome = true := by decide
  obtain ⟨server, normalized⟩ := Option.isSome_iff_exists.mp accepted
  exact ⟨server, normalized, (contract_kept plainLibrary (.solusVM2 stoppedServer) server normalized).mpr trivial⟩

/-- A VirtFusion server of which the panel says that it is paused. -/
def pausedServer : VirtFusion.ServerData where
  uuid := text "0b0c3f5e-8f1c-4a54-9f43-2f0a3a4f8b11"
  name := text "web"
  hostname := []
  state := text "complete"
  commissioned := some 3
  commissionStatus := 3
  suspended := false
  locked := false
  buildFailed := false
  buildFailedAlt := false
  remoteState := text "\"paused\""
  remoteStateAlt := []
  direct := ⟨1024, 20, 0, 1, 0⟩
  resources := ⟨0, 0, 0, 0, 0⟩
  settings := ⟨0, 0, 0, 0, 0⟩
  interfaces := []

/-- It has no scope, and its console is available all the same. -/
theorem paused_server_reported : ∃ server,
    normalize plainLibrary (.virtFusion pausedServer.uuid pausedServer) = some server ∧
      validateServer server =
        [text "contract: server scope must be non-empty",
          text "contract: suspended server must not allow power or console operations"] := by
  refine ⟨VirtFusion.normalizeServer plainLibrary pausedServer, ?_, ?_⟩
  · decide
  · decide

end NodeAtlas.Adapters
