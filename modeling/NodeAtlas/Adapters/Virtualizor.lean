import NodeAtlas.Adapters.Common

/-! The Virtualizor adapter. -/

set_option autoImplicit false

namespace NodeAtlas.Adapters.Virtualizor

open Providers

/-- `serverData`, decoded. -/
structure ServerData where
  id : Int
  hostname : GoString
  virt : GoString
  status : Int
  suspended : Bool
  vnc : Bool
  cores : Int
  ram : Int
  space : Int
  bandwidth : Int
  serverName : GoString
  serverID : GoString
  ips : List GoString

variable (library : Library)

def mapState (status : Int) (suspended : Bool) : ServerState :=
  if suspended = true ∨ status = 2 then .suspended
  else if status = 1 then .running
  else if status = 0 then .stopped
  else .unknown

def scope (data : ServerData) : GoString := if data.serverName = [] then data.serverID else data.serverName

def name (data : ServerData) : GoString :=
  if trimSpace data.hostname = [] then text "Virtualizor server " ++ integerText data.id else data.hostname

def spec (data : ServerData) : GoString :=
  JSON.object [(text "bandwidth_gb", integerText data.bandwidth), (text "cpu", integerText data.cores),
    (text "memory_mb", integerText data.ram), (text "storage_gb", integerText data.space),
    (text "virt", JSON.quote data.virt)]

/-- One address in its usual spelling. -/
def normalizeIP (raw : GoString) : Option GoString :=
  (library.parseIP (trimSpace raw)).map fun ip =>
    address (if ip.to4 ≠ none then "ipv4" else "ipv6") ip.string

def normalizeServer (data : ServerData) : Except GoError RemoteServer :=
  if data.cores < 0 ∨ data.ram < 0 ∨ data.space < 0 ∨ data.bandwidth < 0 then
    .error (providerFailure "Virtualizor returned invalid VPS resources")
  else
    match data.ips.mapM (normalizeIP library) with
    | none => .error (providerFailure "Virtualizor returned an invalid IP address")
    | some addresses =>
        let state := mapState data.status data.suspended
        let console := data.vnc && state ≠ .suspended
        .ok {
          externalID := integerText data.id, scope := scope data, name := name data
          state := state, remoteState := integerText data.status
          spec := spec data, addresses := JSON.array addresses
          capabilities := {
            canStart := capability (state = .stopped) "server must be stopped"
            canStop := capability (state = .running) "server must be running"
            canReboot := capability (state = .running) "server must be running"
            canEmbedConsole := capability console "Virtualizor VNC is unavailable for this server"
            canOpenConsoleWindow := capability console "Virtualizor VNC is unavailable for this server"
            hasProviderPortal := available } }

def normalizeServerID (raw : GoString) : Except GoError GoString :=
  match positiveInteger raw with
  | none => .error (notFound "Virtualizor server was not found")
  | some _ => .ok raw

/-- An entry of the listing: its key is the ID of the server. -/
def acceptServer (key : GoString) (data : ServerData) : Except GoError RemoteServer :=
  match positiveInteger key with
  | none => .error (providerFailure "Virtualizor returned an invalid VPS ID")
  | some id =>
      if data.id ≠ id then
        .error (providerFailure "Virtualizor returned malformed or mismatched VPS data")
      else normalizeServer library data

def providerPortalURL (panelURL : URL) (ref : ServerRef) : Except GoError URL :=
  match normalizeServerID ref.externalID with
  | .error failure => .error failure
  | .ok id => .ok { panelURL with rawQuery := encodeValues [(text "act", text "vpsmanage"), (text "svs", id)] }

theorem name_visible (data : ServerData) : trimSpace (name data) ≠ [] := by
  unfold name
  split
  · exact trimSpace_visible _ (by decide) (by decide)
  · next named => exact named

end NodeAtlas.Adapters.Virtualizor
