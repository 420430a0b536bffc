import NodeAtlas.Adapters.Common
import NodeAtlas.Inventory.Sync

/-! The SolusVM 2 adapter. -/

set_option autoImplicit false

namespace NodeAtlas.Adapters.SolusVM2

open Providers

/-- `ip_addresses`: one list for each family. -/
structure IPAddresses where
  ipv4 : List GoString
  ipv6 : List GoString

/-- `serverData`; the IDs are the texts of JSON numbers. -/
structure ServerData where
  id : GoString
  name : GoString
  status : GoString
  realStatus : GoString
  suspended : Bool
  processing : Bool
  virtualizationType : GoString
  osType : GoString
  projectID : GoString
  vcpu : Int
  ram : Int
  disk : Int
  vncEnabled : Bool
  ips : List GoString
  ipAddresses : Option IPAddresses

variable (library : Library)

/-- The state, and the name that it gets. -/
def mapState (data : ServerData) : ServerState × GoString :=
  if data.suspended then (.suspended, text "suspended")
  else if data.processing = true ∨ data.status = text "processing" ∨ data.realStatus = text "processing" then
    (.pending, text "processing")
  else
    let remote := if data.realStatus = [] then data.status else data.realStatus
    if remote = text "started" then (.running, remote)
    else if remote = text "stopped" then (.stopped, remote)
    else if remote = text "not exist" then (.error, remote)
    else if remote = text "unavailable" then (.unknown, remote)
    else (.unknown, text "unknown")

def name (data : ServerData) : GoString :=
  if trimSpace data.name = [] then text "SolusVM 2 server " ++ data.id else trimSpace data.name

def spec (data : ServerData) : GoString :=
  let virt := if data.virtualizationType ≠ text "kvm" ∧ data.virtualizationType ≠ text "vz" then
    text "unknown" else data.virtualizationType
  let osType := if data.osType ≠ text "Linux" ∧ data.osType ≠ text "Windows" then text "unknown" else data.osType
  JSON.object [(text "cpu", integerText data.vcpu), (text "memory_mb", integerText (data.ram.tdiv (2 ^ 20))),
    (text "os_type", JSON.quote osType), (text "storage_gb", integerText data.disk),
    (text "virt", JSON.quote virt)]

/-- `addIP`: an address once more says nothing new. -/
def addIP (expected : Option String) (raw : GoString) (found : List (String × GoString)) :
    Except GoError (List (String × GoString)) :=
  match library.parseIP (trimSpace raw) with
  | none => .error (providerFailure "SolusVM 2 returned an invalid IP address")
  | some ip =>
      let kind := if ip.to4 ≠ none then "ipv4" else "ipv6"
      if expected.any (· ≠ kind) then
        .error (providerFailure "SolusVM 2 returned an invalid IP address family")
      else if ip.string ∈ found.map Prod.snd then .ok found
      else .ok (found ++ [(kind, ip.string)])

def addIPs (expected : Option String) : List GoString → List (String × GoString) →
    Except GoError (List (String × GoString))
  | [], found => .ok found
  | raw :: rest, found =>
      match addIP library expected raw found with
      | .error failure => .error failure
      | .ok found => addIPs expected rest found

def addresses (data : ServerData) : Except GoError (List (String × GoString)) :=
  match data.ipAddresses with
  | none => addIPs library none data.ips []
  | some families =>
      match addIPs library (some "ipv4") families.ipv4 [] with
      | .error failure => .error failure
      | .ok found => addIPs library (some "ipv6") families.ipv6 found

def normalizeServer (data : ServerData) : Except GoError RemoteServer :=
  if positiveInteger data.id = none then .error (providerFailure "SolusVM 2 returned an invalid server ID")
  else if data.projectID ≠ [] ∧ positiveInteger data.projectID = none then
    .error (providerFailure "SolusVM 2 returned an invalid project ID")
  else if data.vcpu < 0 ∨ data.ram < 0 ∨ data.disk < 0 then
    .error (providerFailure "SolusVM 2 returned invalid server resources")
  else
    match addresses library data with
    | .error failure => .error failure
    | .ok found =>
        let (state, remote) := mapState data
        let console := data.vncEnabled && !data.suspended
        .ok {
          externalID := data.id, scope := if data.projectID ≠ [] then data.projectID else text "default"
          name := name data, state := state, remoteState := remote
          spec := spec data, addresses := JSON.array (found.map fun (kind, value) => address kind value)
          capabilities := {
            canStart := capability (state = .stopped) "server must be stopped"
            canStop := capability (state = .running) "server must be running"
            canReboot := capability (state = .running) "server must be running"
            canEmbedConsole := capability console "SolusVM 2 VNC is unavailable for this server"
            canOpenConsoleWindow := capability console "SolusVM 2 VNC is unavailable for this server"
            hasProviderPortal := available } }

/-- The panel itself, for every server. -/
def providerPortalURL (panelURL : URL) (_ : ServerRef) : Except GoError URL := .ok panelURL

/-! ## The inventory -/

def maxPage : Int := 1000000

/-- `listResponse`; `data` may be missing. -/
structure ListResponse where
  data : Option (List ServerData)
  currentPage : Int
  lastPage : Int

/-- The page that a cursor stands for. -/
def pageOf (cursor : Option GoString) : Option Int :=
  match cursor with
  | none => some 1
  | some value =>
      match positiveInteger value with
      | none => none
      | some page => if maxPage < page then none else some page

/-- The loop over the servers of a page. -/
def normalizeAll : List ServerData → List RemoteServer → Except GoError (List RemoteServer)
  | [], servers => .ok servers
  | data :: rest, servers =>
      match normalizeServer library data with
      | .error failure => .error failure
      | .ok server =>
          if server.externalID ∈ servers.map RemoteServer.externalID then
            .error (providerFailure "SolusVM 2 returned duplicate server IDs")
          else normalizeAll rest (servers ++ [server])

/-- The part of `ListServers` behind the request. -/
def readPage (page : Int) (response : ListResponse) : Except GoError Inventory.ServerPage :=
  match response.data with
  | none => .error (providerFailure "SolusVM 2 returned invalid pagination data")
  | some data =>
      if response.currentPage ≠ page ∨ response.lastPage < page ∨ maxPage < response.lastPage ∨
          page < response.lastPage ∧ data = [] then
        .error (providerFailure "SolusVM 2 returned invalid pagination data")
      else
        match normalizeAll library data [] with
        | .error failure => .error failure
        | .ok servers =>
            .ok ⟨servers, if page < response.lastPage then some (integerText (page + 1)) else none⟩

/-- `ListServers`; `request` is given the page. -/
def listServers (request : Int → Except GoError ListResponse) (cursor : Option GoString) :
    Except GoError Inventory.ServerPage :=
  match pageOf cursor with
  | none => .error (Network.invalidConfig "invalid SolusVM 2 inventory cursor")
  | some page =>
      match request page with
      | .error failure => .error failure
      | .ok response => readPage library page response

/-! ## What is known of servers and pages -/

/-- The cursor that a page has is one that is read as the page behind it. -/
theorem pageOf_next {page : Int} (positive : 1 ≤ page) (below : page < maxPage) :
    pageOf (some (integerText (page + 1))) = some (page + 1) := by
  obtain ⟨number, rfl⟩ : ∃ number : Nat, page = number := ⟨page.toNat, by omega⟩
  unfold maxPage at below
  have written : integerText ((number : Int) + 1) = itoa (number + 1) := by
    unfold integerText
    rw [if_neg (by omega)]
    congr 1
  have read : positiveInteger (itoa (number + 1)) = some ((number : Int) + 1) := by
    have parsed : parseInt (itoa (number + 1)) = some ((number : Int) + 1) := parseInt_itoa (by omega)
    unfold positiveInteger
    simp only [parsed]
    rw [if_neg]
    rw [not_or, not_not]
    exact ⟨by omega, written⟩
  unfold pageOf
  rw [written]
  simp only [read]
  rw [if_neg (by unfold maxPage; omega)]

theorem name_visible (data : ServerData) : trimSpace (name data) ≠ [] := by
  unfold name
  split
  · exact trimSpace_visible _ (by decide) (by decide)
  · next named => rwa [trimSpace_trimSpace]

theorem remote_visible (data : ServerData) : trimSpace (mapState data).2 ≠ [] := by
  unfold mapState
  split
  · decide
  split
  · decide
  · simp only
    generalize (if data.realStatus = [] then data.status else data.realStatus) = remote
    split
    · next same => rw [same]; decide
    split
    · next same => rw [same]; decide
    split
    · next same => rw [same]; decide
    split
    · next same => rw [same]; decide
    · decide

theorem id_visible {raw : GoString} (positive : positiveInteger raw ≠ none) : trimSpace raw ≠ [] := by
  cases found : positiveInteger raw with
  | none => exact absurd found positive
  | some number =>
      rw [← (positiveInteger_some found).2]
      exact integerText_visible number

end NodeAtlas.Adapters.SolusVM2
