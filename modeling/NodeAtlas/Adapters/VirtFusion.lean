import NodeAtlas.Adapters.Common

/-! The VirtFusion adapter. -/

set_option autoImplicit false

namespace NodeAtlas.Adapters.VirtFusion

open Providers

/-- Where a resource may stand in what the panel sends. -/
structure Resources where
  memory : Int
  storage : Int
  traffic : Int
  cpuCores : Int
  cpuCoresCamel : Int

/-- The addresses of one interface. -/
structure Interface where
  ipv4 : List GoString
  ipv6 : List GoString

/-- `serverData`. The remote states are raw JSON; `settings.resources` has one
spelling of the cores only. -/
structure ServerData where
  uuid : GoString
  name : GoString
  hostname : GoString
  state : GoString
  commissioned : Option Int
  commissionStatus : Int
  suspended : Bool
  locked : Bool
  buildFailed : Bool
  buildFailedAlt : Bool
  remoteState : GoString
  remoteStateAlt : GoString
  direct : Resources
  resources : Resources
  settings : Resources
  interfaces : List Interface

variable (library : Library)

/-- `json.Unmarshal` of a value into a string; `null` leaves it empty. -/
def unmarshalString (raw : GoString) : Option GoString :=
  if JSON.valid raw = false then none
  else
    let item := ((raw.dropWhile JSON.isSpace).reverse.dropWhile JSON.isSpace).reverse
    if item = text "null" then some [] else JSON.unquote item

def decodeRemoteState (raw : GoString) : GoString :=
  if raw = [] ∨ raw = text "null" ∨ raw = text "false" then text "unknown"
  else
    match unmarshalString raw with
    | none => text "unknown"
    | some value =>
        if trimSpace value ≠ [] then library.toLower (trimSpace value) else text "unknown"

/-- `strings.EqualFold` with the word `complete`. -/
def isComplete (state : GoString) : Bool := fold state = text "complete"

def ServerData.failed (data : ServerData) : Bool := data.buildFailed || data.buildFailedAlt

def mapState (remote : GoString) (data : ServerData) : ServerState :=
  if data.failed then .error
  else if data.suspended then .suspended
  else if remote = text "running" ∨ remote = text "on" then .running
  else if remote = text "shutoff" ∨ remote = text "stopped" ∨ remote = text "off" then .stopped
  else if remote = text "shutdown" ∨ remote = text "stopping" then .stopping
  else if remote = text "reboot" ∨ remote = text "rebooting" then .rebooting
  else if remote = text "paused" ∨ remote = text "suspended" then .suspended
  else if data.commissioned.any fun commissioned => commissioned < 3 then .pending
  else if 0 < data.commissionStatus ∧ data.commissionStatus < 3 then .pending
  else if trimSpace data.state ≠ [] ∧ remote = text "unknown" ∧ isComplete data.state = false then .pending
  else .unknown

/-- The remote state, from the first place that has one. -/
def remoteState (data : ServerData) : GoString :=
  let first := decodeRemoteState library data.remoteState
  let second := if first = text "unknown" then decodeRemoteState library data.remoteStateAlt else first
  if second = text "unknown" ∧ isComplete (trimSpace data.state) = false then
    library.toLower (trimSpace data.state)
  else second

def firstPositive (values : List Int) : Int := (values.find? fun value => 0 < value).getD 0

def spec (data : ServerData) : GoString :=
  let places := [data.direct, data.resources, data.settings]
  let cores := [data.direct.cpuCores, data.direct.cpuCoresCamel, data.resources.cpuCores,
    data.resources.cpuCoresCamel, data.settings.cpuCores]
  JSON.object [(text "cpu", integerText (firstPositive cores)),
    (text "memory_mb", integerText (firstPositive (places.map Resources.memory))),
    (text "storage_gb", integerText (firstPositive (places.map Resources.storage))),
    (text "traffic_gb", integerText (firstPositive (places.map Resources.traffic)))]

def add (kind : String) (values : List GoString) : List GoString :=
  (values.filter fun value => trimSpace value ≠ []).map fun value => address kind (trimSpace value)

def addresses (data : ServerData) : List GoString :=
  data.interfaces.flatMap fun interface => add "ipv4" interface.ipv4 ++ add "ipv6" interface.ipv6

def name (data : ServerData) : GoString :=
  if trimSpace data.name ≠ [] then trimSpace data.name
  else if trimSpace data.hostname ≠ [] then trimSpace data.hostname
  else text "VirtFusion server " ++ data.uuid

def vncAvailable (data : ServerData) : Bool :=
  (data.commissioned.all fun commissioned => 3 ≤ commissioned) && !data.suspended && !data.locked && !data.failed

def normalizeServer (data : ServerData) : RemoteServer :=
  let remote := remoteState library data
  let state := mapState remote data
  { externalID := data.uuid, scope := [], name := name data
    state := state, remoteState := remote
    spec := spec data, addresses := JSON.array (addresses data)
    capabilities := {
      canStart := capability (state = .stopped) "server must be stopped"
      canStop := capability (state = .running) "server must be running"
      canReboot := capability (state = .running) "server must be running"
      canEmbedConsole := capability (vncAvailable data) "VirtFusion VNC is unavailable for this server"
      canOpenConsoleWindow := capability (vncAvailable data) "VirtFusion VNC is unavailable for this server"
      hasProviderPortal := available } }

def normalizeServerID (raw : GoString) : Option GoString := library.uuid (trimSpace raw)

/-- The end of `getServer`: the server that was asked for has this ID. -/
def acceptServer (id : GoString) (data : ServerData) : Except GoError RemoteServer :=
  match normalizeServerID library data.uuid with
  | none => .error (providerFailure "VirtFusion returned mismatched server data")
  | some responseID =>
      if responseID ≠ id then .error (providerFailure "VirtFusion returned mismatched server data")
      else .ok (normalizeServer library data)

def providerPortalURL (portalURL : URL) (ref : ServerRef) : Except GoError URL :=
  match normalizeServerID library ref.externalID with
  | none => .error (notFound "VirtFusion server was not found")
  | some id => .ok { portalURL with path := joinPath [portalURL.path, text "server", id] }

/-! ## What is known of servers -/

theorem name_visible (data : ServerData) : trimSpace (name data) ≠ [] := by
  unfold name
  split
  · next named => rwa [trimSpace_trimSpace]
  split
  · next hosted => rwa [trimSpace_trimSpace]
  · exact trimSpace_visible _ (by decide) (by decide)

theorem uuid_visible {data : ServerData} {id : GoString} {server : RemoteServer}
    (accepted : acceptServer library id data = .ok server) :
    trimSpace data.uuid ≠ [] ∧ server = normalizeServer library data := by
  unfold acceptServer at accepted
  split at accepted
  · cases accepted
  · next responseID parsed =>
      split at accepted
      · cases accepted
      · cases accepted
        refine ⟨?_, rfl⟩
        intro blank
        rw [normalizeServerID, blank, library.uuid_empty] at parsed
        cases parsed

end NodeAtlas.Adapters.VirtFusion
