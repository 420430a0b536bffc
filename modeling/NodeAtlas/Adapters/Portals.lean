import NodeAtlas.Adapters.Contract
import NodeAtlas.Console.Policy
import NodeAtlas.Interleaving.Sequential
import NodeAtlas.Inventory.Sync
import NodeAtlas.URL.Hosts

/-! Whether the links to the portals of the providers can be opened. -/

set_option autoImplicit false

namespace NodeAtlas.Adapters

open Interleaving Providers

/-- Providers, as far as they know where their portals are. -/
inductive Provider where
  | aws (regions : List GoString)
  | gcp (projectID : GoString)
  | virtFusion (portalURL : URL)
  | virtualizor (panelURL : URL)
  | solusVM2 (panelURL : URL)

/-- Under which type a connection has the adapter. -/
def Provider.type : Provider → GoString
  | .aws _ => text "aws"
  | .gcp _ => text "gcp"
  | .virtFusion _ => text "virtfusion"
  | .virtualizor _ => text "virtualizor"
  | .solusVM2 _ => text "solusvm2"

/-- `ProviderPortalURL` of an adapter. -/
def providerPortalURL (library : Library) : Provider → ServerRef → Except GoError URL
  | .aws regions => AWS.providerPortalURL regions
  | .gcp projectID => GCP.providerPortalURL projectID
  | .virtFusion portalURL => VirtFusion.providerPortalURL library portalURL
  | .virtualizor panelURL => Virtualizor.providerPortalURL panelURL
  | .solusVM2 panelURL => SolusVM2.providerPortalURL panelURL

/-- What the factories are built with, and what their configurations decode to. -/
structure Setting where
  library : Library
  decoders : Network.Decoders
  options : Network.FactoryOptions
  aws : AWS.Decoders
  gcp : GCP.Decoders

/-- The resolver gives the same reply to the same call. -/
def answers (replies : (call : Network.Call) → call.Reply) (call : Network.Call) (state : Unit) :
    call.Reply × Unit := (replies call, state)

/-- The providers that `Factory.Create` of an adapter returns. -/
inductive Created (setting : Setting) (config : ConnectionConfig) : Provider → Prop where
  | aws {newClient : GoString → Bool} {regions : List GoString} :
      AWS.create setting.library setting.aws newClient config = .ok regions →
      Created setting config (.aws regions)
  | gcp {newClient : Bool} {projectID : GoString} :
      GCP.create setting.gcp newClient config = .ok projectID → Created setting config (.gcp projectID)
  | virtFusion {portal api : URL} {replies : (call : Network.Call) → call.Reply} {provider : Network.Provider} :
      Network.VirtFusion.normalizeEndpoint setting.library.toNetLibrary config.endpoint
        setting.options.allowHTTP = .ok (portal, api) →
      ((Network.VirtFusion.create setting.library.toNetLibrary setting.decoders setting.options config).follow
        (answers replies) ()).1 = .ok provider →
      Created setting config (.virtFusion portal)
  | virtualizor {panel : URL} {replies : (call : Network.Call) → call.Reply} {provider : Network.Provider} :
      Network.Virtualizor.normalizeEndpoint setting.library.toNetLibrary config.endpoint = .ok panel →
      ((Network.Virtualizor.create setting.library.toNetLibrary setting.decoders setting.options config).follow
        (answers replies) ()).1 = .ok provider →
      Created setting config (.virtualizor panel)
  | solusVM2 {panel api : URL} {replies : (call : Network.Call) → call.Reply} {provider : Network.Provider} :
      Network.SolusVM2.normalizeEndpoint setting.library.toNetLibrary config.endpoint = .ok (panel, api) →
      ((Network.SolusVM2.create setting.library.toNetLibrary setting.decoders setting.options config).follow
        (answers replies) ()).1 = .ok provider →
      Created setting config (.solusVM2 panel)

/-- The servers that `ListServers` of a provider may return. -/
inductive Listed (library : Library) : Provider → RemoteServer → Prop where
  | aws {regions : List GoString} {region : GoString} {reservations : List (List AWS.Instance)}
      {server : RemoteServer} : region ∈ regions → server ∈ AWS.flattenInstances reservations region →
      Listed library (.aws regions) server
  | gcp {projectID : GoString} {instance_ : Option GCP.Instance} {server : RemoteServer} :
      GCP.normalizeInstance instance_ = .ok server → Listed library (.gcp projectID) server
  | virtFusion {portalURL : URL} {id : GoString} {data : VirtFusion.ServerData} {server : RemoteServer} :
      VirtFusion.acceptServer library id data = .ok server → Listed library (.virtFusion portalURL) server
  | virtualizor {panelURL : URL} {key : GoString} {data : Virtualizor.ServerData} {server : RemoteServer} :
      Virtualizor.acceptServer library key data = .ok server → Listed library (.virtualizor panelURL) server
  | solusVM2 {panelURL : URL} {data : SolusVM2.ServerData} {server : RemoteServer} :
      SolusVM2.normalizeServer library data = .ok server → Listed library (.solusVM2 panelURL) server

/-- The only thing that is left to go wrong: the name or the address of the host. -/
def resolution (library : Library) (policy : Console.TargetPolicy) (target : URL) :
    Console.Process (Except GoError Unit) := do
  match ← policy.resolveAllowed library.toNetLibrary target.hostname with
  | .error failure => return .error failure
  | .ok _ => return .ok ()

/-- There is a link, the inventory takes it, and the console finds nothing
wrong with its shape. -/
def Opens (library : Library) (providerType : GoString) (portal : Except GoError URL) : Prop :=
  ∃ target, portal = .ok target ∧
    (∃ value, Inventory.normalizePortalURL providerType (some target) = .ok value) ∧
    (target.scheme = text "https" ∧ Console.validateURLShape target = true) ∧
    ∀ policy : Console.TargetPolicy,
      policy.validateExternal library.toNetLibrary (some target) = resolution library policy target

/-- The portals with links that the console opens: AWS has fragments in its
links, and only tests let a panel be reached without TLS. -/
def Provider.Openable : Provider → Prop
  | .aws _ => False
  | .virtFusion portalURL => portalURL.scheme = text "https"
  | _ => True

/-! ## Links with a good shape -/

private theorem host_some {target : URL} (named : trimSpace target.hostname ≠ []) : target.host ≠ [] := by
  intro empty
  apply named
  rw [URL.hostname, empty]
  decide

private theorem opens_shaped {library : Library} {providerType : GoString} {target : URL}
    (other : providerType ≠ text "mock") (scheme : target.scheme = text "https")
    (named : trimSpace target.hostname ≠ []) (user : target.user = none) (fragment : target.fragment = []) :
    Opens library providerType (.ok target) := by
  have shape : Console.validateURLShape target = true := by
    simp [Console.validateURLShape, named, user, fragment]
  refine ⟨target, rfl, ⟨target.string, ?_⟩, ⟨scheme, shape⟩, ?_⟩
  · unfold Inventory.normalizePortalURL
    simp only
    rw [if_neg fun mock => other mock.1, if_neg]
    rintro (empty | ⟨_, plain⟩)
    · exact host_some named empty
    · exact plain scheme
  · intro policy
    simp only [Console.TargetPolicy.validateExternal, scheme, ne_eq, not_true_eq_false, if_false,
      Console.TargetPolicy.validateNetworkTarget, shape, Bool.true_eq_false]
    rfl

/-! ## Endpoints that the factories accept -/

section Endpoints

variable {library : NetLibrary} {options : Network.FactoryOptions}

/-- A host of spaces is refused before a provider is returned. -/
private theorem established_named {panel : URL} {refusal : GoError} {built provider : Network.Provider}
    {replies : (call : Network.Call) → call.Reply}
    (accepted : ((Network.established library options panel refusal built).follow (answers replies) ()).1 =
      .ok provider) : trimSpace panel.hostname ≠ [] := by
  intro blank
  have refused : ∃ failure, options.policy.validate library panel = .done (.error failure) := by
    unfold Network.Policy.validate Network.Policy.resolveAllowed
    split
    · exact ⟨_, rfl⟩
    · exact ⟨_, rfl⟩
  obtain ⟨failure, same⟩ := refused
  unfold Network.established at accepted
  rw [same] at accepted
  cases accepted

private theorem trimLeft_mem {bound : Nat} {value : GoString} {c : UInt8} (member : c ∈ trimLeft bound value) :
    c ∈ value := by
  induction bound generalizing value with
  | zero => exact member
  | succ bound ih =>
      unfold trimLeft at member
      split at member
      · exact List.mem_of_mem_drop (ih member)
      · exact member

private theorem trimRight_mem {bound : Nat} {value : GoString} {c : UInt8} (member : c ∈ trimRight bound value) :
    c ∈ value := by
  induction bound generalizing value with
  | zero => exact member
  | succ bound ih =>
      unfold trimRight at member
      split at member
      · exact List.mem_of_mem_take (ih member)
      · exact member

/-- Without a `#` there is no fragment. -/
private theorem parse_fragment {raw : GoString} {url : URL} (absent : byte '#' ∉ raw)
    (read : URL.parse library.literal (trimSpace raw) = some url) : url.fragment = [] := by
  have trimmed : byte '#' ∉ trimSpace raw := fun member => absent (trimLeft_mem (trimRight_mem member))
  unfold URL.parse at read
  rw [cut_absent trimmed] at read
  obtain ⟨before, _, read⟩ := Option.bind_eq_some_iff.mp read
  obtain ⟨⟨fragment, rawFragment⟩, decoded, read⟩ := Option.bind_eq_some_iff.mp read
  cases decoded
  cases read
  rfl

private theorem virtFusion_endpoint {config : ConnectionConfig} {decoders : Network.Decoders} {portal api : URL}
    {provider : Network.Provider} {replies : (call : Network.Call) → call.Reply}
    (normalized : Network.VirtFusion.normalizeEndpoint library config.endpoint options.allowHTTP =
      .ok (portal, api))
    (accepted : ((Network.VirtFusion.create library decoders options config).follow (answers replies) ()).1 =
      .ok provider) :
    trimSpace portal.hostname ≠ [] ∧ portal.user = none ∧ portal.fragment = [] := by
  constructor
  · unfold Network.VirtFusion.create at accepted
    split at accepted
    · cases accepted
    split at accepted
    · cases accepted
    split at accepted
    · cases accepted
    split at accepted
    · cases accepted
    · rw [normalized] at accepted
      exact established_named accepted
  · unfold Network.VirtFusion.normalizeEndpoint at normalized
    split at normalized
    · cases normalized
    split at normalized
    · cases normalized
    next absolute =>
    simp only [not_or, ne_eq, Classical.not_not] at absolute
    split at normalized
    · cases normalized
    split at normalized
    · cases normalized
    split at normalized
    · cases normalized
    · cases normalized
      exact ⟨absolute.2.1, absolute.2.2.2⟩

private theorem virtualizor_endpoint {config : ConnectionConfig} {decoders : Network.Decoders} {panel : URL}
    {provider : Network.Provider} {replies : (call : Network.Call) → call.Reply}
    (normalized : Network.Virtualizor.normalizeEndpoint library config.endpoint = .ok panel)
    (accepted : ((Network.Virtualizor.create library decoders options config).follow (answers replies) ()).1 =
      .ok provider) :
    panel.scheme = text "https" ∧ trimSpace panel.hostname ≠ [] ∧ panel.user = none ∧ panel.fragment = [] := by
  have named : trimSpace panel.hostname ≠ [] := by
    unfold Network.Virtualizor.create at accepted
    split at accepted
    · cases accepted
    split at accepted
    · cases accepted
    · rw [normalized] at accepted
      exact established_named accepted
  unfold Network.Virtualizor.normalizeEndpoint at normalized
  dsimp only at normalized
  split at normalized
  · cases normalized
  next parsed read =>
  split at normalized
  · cases normalized
  next absolute =>
  simp only [not_or, ne_eq, Classical.not_not] at absolute
  split at normalized
  · cases normalized
  · have fragment := parse_fragment absolute.2.2.2.2.2.2.1 read
    cases normalized
    exact ⟨absolute.1, named, absolute.2.2.1, fragment⟩

private theorem solusVM2_endpoint {config : ConnectionConfig} {decoders : Network.Decoders} {panel api : URL}
    {provider : Network.Provider} {replies : (call : Network.Call) → call.Reply}
    (normalized : Network.SolusVM2.normalizeEndpoint library config.endpoint = .ok (panel, api))
    (accepted : ((Network.SolusVM2.create library decoders options config).follow (answers replies) ()).1 =
      .ok provider) :
    panel.scheme = text "https" ∧ trimSpace panel.hostname ≠ [] ∧ panel.user = none ∧ panel.fragment = [] := by
  have named : trimSpace panel.hostname ≠ [] := by
    unfold Network.SolusVM2.create at accepted
    split at accepted
    · cases accepted
    generalize decoders.empty _ = readable at accepted
    split at accepted
    · cases accepted
    split at accepted
    · cases accepted
    · rw [normalized] at accepted
      exact established_named accepted
  unfold Network.SolusVM2.normalizeEndpoint at normalized
  dsimp only at normalized
  split at normalized
  · cases normalized
  next parsed read =>
  split at normalized
  · cases normalized
  next absolute =>
  simp only [not_or, ne_eq, Classical.not_not] at absolute
  split at normalized
  · cases normalized
  split at normalized
  · cases normalized
  · have fragment := parse_fragment absolute.2.2.2.2.2.2.1 read
    cases normalized
    exact ⟨absolute.1, named, absolute.2.2.2.1, fragment⟩

end Endpoints

/-! ## Servers that are listed -/

private theorem aws_listed {regions : List GoString} {region : GoString} {reservations : List (List AWS.Instance)} {server : RemoteServer}
    (member : region ∈ regions) (listed : server ∈ AWS.flattenInstances reservations region) :
    server.scope ∈ regions ∧ trimSpace server.externalID ≠ [] := by
  obtain ⟨instance_, _, normalized⟩ := List.mem_filterMap.mp listed
  simp only [AWS.normalizeInstance] at normalized
  split at normalized
  · cases normalized
  · next named =>
      cases normalized
      exact ⟨member, by rwa [trimSpace_trimSpace]⟩

private theorem gcp_listed {instance_ : Option GCP.Instance} {server : RemoteServer}
    (normalized : GCP.normalizeInstance instance_ = .ok server) :
    GCP.validRef ⟨server.externalID, server.scope⟩ = true := by
  unfold GCP.normalizeInstance at normalized
  split at normalized
  · cases normalized
  · simp only at normalized
    split at normalized
    · cases normalized
    · next accepted =>
        cases normalized
        simpa using accepted

private theorem virtFusion_listed {library : Library} {id : GoString} {data : VirtFusion.ServerData}
    {server : RemoteServer} (accepted : VirtFusion.acceptServer library id data = .ok server) :
    VirtFusion.normalizeServerID library server.externalID = some id := by
  unfold VirtFusion.acceptServer at accepted
  split at accepted
  · cases accepted
  · next responseID parsed =>
      split at accepted
      · cases accepted
      · next same =>
          cases accepted
          rw [not_ne_iff] at same
          rw [← same]
          exact parsed

/-- The ID of a listed server is the text of its number again. -/
private theorem virtualizor_listed {library : Library} {key : GoString} {data : Virtualizor.ServerData}
    {server : RemoteServer} (accepted : Virtualizor.acceptServer library key data = .ok server) :
    Virtualizor.normalizeServerID server.externalID = .ok server.externalID := by
  unfold Virtualizor.acceptServer at accepted
  split at accepted
  · cases accepted
  · next id found =>
      split at accepted
      · cases accepted
      · next same =>
          rw [not_ne_iff] at same
          have written := (positiveInteger_some found).2
          have named : server.externalID = key := by
            simp only [Virtualizor.normalizeServer] at accepted
            split at accepted
            · cases accepted
            split at accepted
            · cases accepted
            · cases accepted
              rw [← written, ← same]
          rw [named, Virtualizor.normalizeServerID, found]

/-! ## The links of all adapters -/

private theorem type_other (provider : Provider) : provider.type ≠ text "mock" := by
  cases provider <;> (simp only [Provider.type]; decide)

/-- The link of an AWS instance is kept by the inventory, and rejected by the
console whatever its policy is. -/
theorem aws_portal_rejected {library : Library} {regions : List GoString} {server : RemoteServer}
    (listed : Listed library (.aws regions) server) :
    ∃ target, AWS.providerPortalURL regions ⟨server.externalID, server.scope⟩ = .ok target ∧
      Inventory.normalizePortalURL (text "aws") (some target) = .ok target.string ∧
      Console.validateURLShape target = false ∧
      ∀ policy : Console.TargetPolicy, policy.validateExternal library.toNetLibrary (some target) =
        .done (.error Console.errTargetRejected) := by
  cases listed with
  | aws member listed =>
      obtain ⟨scope, named⟩ := aws_listed member listed
      have written : text "InstanceDetails:instanceId=" ≠ [] := by decide
      unfold AWS.providerPortalURL
      rw [if_neg (by simp [scope, named])]
      refine ⟨_, rfl, ?_, ?_, ?_⟩
      · unfold Inventory.normalizePortalURL
        have other : text "aws" ≠ text "mock" := by decide
        simp only [other, false_and, if_false]
        rw [if_neg]
        rintro (empty | ⟨_, plain⟩)
        · revert empty
          split
          · decide
          split
          · decide
          · decide
        · exact plain rfl
      · simp [Console.validateURLShape, written]
      · intro policy
        have shape : ∀ target : URL, target.fragment ≠ [] → Console.validateURLShape target = false := by
          intro target fragment
          simp [Console.validateURLShape, fragment]
        simp only [Console.TargetPolicy.validateExternal, ne_eq, not_true_eq_false, if_false,
          Console.TargetPolicy.validateNetworkTarget]
        rw [shape _ (by simp [written])]
        rfl

private theorem aws_closed {library : Library} {regions : List GoString} {server : RemoteServer}
    (listed : Listed library (.aws regions) server) :
    ¬ Opens library (text "aws") (AWS.providerPortalURL regions ⟨server.externalID, server.scope⟩) := by
  obtain ⟨link, offered, _, misshaped, _⟩ := aws_portal_rejected listed
  rintro ⟨target, same, _, ⟨_, shape⟩, _⟩
  obtain rfl : link = target := Except.ok.inj (offered.symm.trans same)
  rw [misshaped] at shape
  cases shape

/-- A link to the portal opens exactly where it has no fragment and is reached
with TLS, which is everywhere but with AWS. -/
theorem portals_open (setting : Setting) (config : ConnectionConfig) (provider : Provider) (server : RemoteServer)
    (created : Created setting config provider) (listed : Listed setting.library provider server) :
    Opens setting.library provider.type
        (providerPortalURL setting.library provider ⟨server.externalID, server.scope⟩) ↔ provider.Openable := by
  have other := type_other provider
  cases provider with
  | aws regions =>
      constructor
      · exact aws_closed listed
      · intro never
        cases never
  | gcp projectID =>
      cases listed with
      | gcp normalized =>
          have named : trimSpace (URL.splitHostPort (text "console.cloud.google.com")).1 ≠ [] := by decide
          constructor
          · intro _
            trivial
          · intro _
            simp only [providerPortalURL, GCP.providerPortalURL, gcp_listed normalized, Bool.true_eq_false, if_false]
            exact opens_shaped other rfl named rfl rfl
  | virtFusion portalURL =>
      cases listed with
      | virtFusion accepted =>
          cases created with
          | virtFusion normalized established =>
              obtain ⟨named, user, fragment⟩ := virtFusion_endpoint normalized established
              simp only [providerPortalURL, VirtFusion.providerPortalURL, virtFusion_listed accepted]
              constructor
              · rintro ⟨target, link, _, ⟨scheme, _⟩, _⟩
                cases link
                exact scheme
              · intro scheme
                exact opens_shaped other scheme named user fragment
  | virtualizor panelURL =>
      cases listed with
      | virtualizor accepted =>
          cases created with
          | virtualizor normalized established =>
              obtain ⟨scheme, named, user, fragment⟩ := virtualizor_endpoint normalized established
              simp only [providerPortalURL, Virtualizor.providerPortalURL, virtualizor_listed accepted]
              constructor
              · intro _
                trivial
              · intro _
                exact opens_shaped other scheme named user fragment
  | solusVM2 panelURL =>
      cases created with
      | solusVM2 normalized established =>
          obtain ⟨scheme, named, user, fragment⟩ := solusVM2_endpoint normalized established
          simp only [providerPortalURL, SolusVM2.providerPortalURL]
          constructor
          · intro _
            trivial
          · intro _
            exact opens_shaped other scheme named user fragment

def jsonSetting : Setting where
  library := plainLibrary
  decoders := Network.jsonDecoders
  options := { allowedPrivateCIDRs := [] }
  aws := AWS.jsonDecoders
  gcp := GCP.jsonDecoders

def connectionToGCP : ConnectionConfig where
  id := text "c"
  type := text "gcp"
  endpoint := []
  settings := text "\x7b\"project_id\":\"project-1\"\x7d"
  credentials := text "\x7b\"service_account_json\":\x7b\"type\":\"service_account\",\"client_email\":\"e\"," ++
    text "\"private_key\":\"k\",\"token_uri\":\"https://oauth2.googleapis.com/token\"\x7d\x7d"

def connectionToAWS : ConnectionConfig where
  id := text "c"
  type := text "aws"
  endpoint := []
  settings := text "\x7b\"regions\":[\"us-east-1\"]\x7d"
  credentials := text "\x7b\"access_key_id\":\"k\",\"secret_access_key\":\"s\"\x7d"

def instanceOfGCP : GCP.Instance where
  id := 1
  name := text "api-1"
  zone := text "zones/us-central1-a"
  status := text "RUNNING"
  machineType := []
  labels := none
  scheduling := none
  networkInterfaces := []

theorem portals_open_gcp : ∃ server, Created jsonSetting connectionToGCP (.gcp (text "project-1")) ∧
    Listed plainLibrary (.gcp (text "project-1")) server ∧
    Opens plainLibrary (text "gcp")
      (GCP.providerPortalURL (text "project-1") ⟨server.externalID, server.scope⟩) := by
  have accepted : (GCP.normalizeInstance (some instanceOfGCP)).toBool = true := by decide
  have created : Created jsonSetting connectionToGCP (.gcp (text "project-1")) :=
    .gcp (by decide +kernel : GCP.create jsonSetting.gcp true _ = _)
  cases normalized : GCP.normalizeInstance (some instanceOfGCP) with
  | error failure =>
      rw [normalized] at accepted
      cases accepted
  | ok server =>
      have listed : Listed plainLibrary (.gcp (text "project-1")) server := .gcp normalized
      have opens := (portals_open jsonSetting _ (.gcp (text "project-1")) server created listed).mpr trivial
      exact ⟨server, created, listed, opens⟩

/-- An instance with a name in the only region. -/
def instanceOfAWS : AWS.Instance where
  instanceID := some (text "i-0abc")
  state := some (text "running")
  tags := []
  instanceType := text "t3.micro"
  architecture := text "x86_64"
  platformDetails := none
  privateIPAddress := none
  publicIPAddress := none

/-- Its portal is offered and does not open. -/
theorem aws_portal_closed : ∃ server,
    Created jsonSetting connectionToAWS (.aws [text "us-east-1"]) ∧
      Listed plainLibrary (.aws [text "us-east-1"]) server ∧
      server.capabilities.hasProviderPortal.available = true ∧
      ¬ Opens plainLibrary (text "aws")
        (AWS.providerPortalURL [text "us-east-1"] ⟨server.externalID, server.scope⟩) := by
  have accepted : (AWS.flattenInstances [[instanceOfAWS]] (text "us-east-1")).length = 1 := by decide
  obtain ⟨server, single⟩ := List.length_eq_one_iff.mp accepted
  have listed : Listed plainLibrary (.aws [text "us-east-1"]) server :=
    .aws List.mem_cons_self (by rw [single]; exact List.mem_cons_self)
  refine ⟨server, .aws (by decide +kernel : AWS.create plainLibrary jsonSetting.aws (fun _ => true) _ = _), listed,
    ?_, aws_closed listed⟩
  have portals : ∀ server ∈ AWS.flattenInstances [[instanceOfAWS]] (text "us-east-1"),
      server.capabilities.hasProviderPortal.available = true := by
    decide
  exact portals server (by rw [single]; exact List.mem_cons_self)

end NodeAtlas.Adapters
