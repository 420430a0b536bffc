import NodeAtlas.Adapters.Common

/-! The GCP adapter. -/

set_option autoImplicit false

namespace NodeAtlas.Adapters.GCP

open Providers

/-- `compute.Scheduling` -/
structure Scheduling where
  preemptible : Bool
  provisioningModel : GoString

structure AccessConfig where
  natIP : GoString
  externalIPv6 : GoString

structure NetworkInterface where
  networkIP : GoString
  ipv6Address : GoString
  accessConfigs : List (Option AccessConfig)
  ipv6AccessConfigs : List (Option AccessConfig)

/-- `compute.Instance` -/
structure Instance where
  id : Nat
  name : GoString
  zone : GoString
  status : GoString
  machineType : GoString
  labels : Option JSONMap
  scheduling : Option Scheduling
  networkInterfaces : List (Option NetworkInterface)

/-- `^[a-z][a-z0-9-]{4,28}[a-z0-9]$` -/
def projectIDPattern (projectID : GoString) : Bool :=
  6 ≤ projectID.length && projectID.length ≤ 30 && projectID.head?.any lowerLetter &&
    projectID.all labelByte && projectID.getLast?.any lowerAlphanumeric

/-- `^[a-z](?:[a-z0-9-]{0,61}[a-z0-9])?$` -/
def instancePattern (name : GoString) : Bool :=
  name.length ≤ 63 && name.head?.any lowerLetter && name.all labelByte && name.getLast?.any lowerAlphanumeric

/-- `^[a-z][a-z0-9-]*-[a-z0-9]+-[a-z]$` -/
def zonePattern (zone : GoString) : Bool :=
  match cutLast (byte '-') zone with
  | (_, none) => false
  | (region, some suffix) =>
      match cutLast (byte '-') region with
      | (_, none) => false
      | (before, some location) =>
          before.head?.any lowerLetter && before.all labelByte && location ≠ [] &&
            location.all lowerAlphanumeric && suffix.length = 1 && suffix.all lowerLetter

def validRef (ref : ServerRef) : Bool :=
  instancePattern ref.externalID && ref.scope.length ≤ 63 && zonePattern ref.scope

/-- What the key file of a service account says. -/
structure Account where
  type : GoString
  clientEmail : GoString
  privateKey : GoString
  tokenURI : GoString

/-- What is read from the settings and the credentials. -/
structure Decoders where
  projectID : GoString → Option GoString
  serviceAccountJSON : GoString → Option GoString
  account : GoString → Option Account

def jsonDecoders : Decoders where
  projectID := JSON.decodeStrict [.part "project_id" id (fun _ project => project) JSON.asString] []
  serviceAccountJSON := JSON.decodeStrict [.part "service_account_json" id (fun _ key => key) JSON.asRaw] []
  account := JSON.unmarshal (JSON.asStruct [
    .part "type" Account.type (fun account part => { account with type := part }) JSON.asString,
    .part "client_email" Account.clientEmail (fun account part => { account with clientEmail := part }) JSON.asString,
    .part "private_key" Account.privateKey (fun account part => { account with privateKey := part }) JSON.asString,
    .part "token_uri" Account.tokenURI (fun account part => { account with tokenURI := part }) JSON.asString] false)
    ⟨[], [], [], []⟩

def googleTokenURI : GoString := text "https://oauth2.googleapis.com/token"

def validateServiceAccount (account : Option Account) : Except GoError Unit :=
  let complete := account.any fun account =>
    account.type = text "service_account" && trimSpace account.clientEmail ≠ [] &&
      trimSpace account.privateKey ≠ [] && trimSpace account.tokenURI ≠ []
  if complete = false then
    .error (Network.invalidConfig "GCP credentials require a complete service-account JSON object")
  else if account.all fun account => account.tokenURI ≠ googleTokenURI then
    .error (Network.invalidConfig
      "GCP service-account token URI must be the supported Google HTTPS OAuth endpoint")
  else .ok ()

/-- `Factory.Create`, where `newClient` says whether there is a client. A
provider is its project. -/
def create (decoders : Decoders) (newClient : Bool) (config : ConnectionConfig) : Except GoError GoString :=
  if trimSpace config.id = [] then .error (Network.invalidConfig "GCP connection ID is required")
  else
    match decoders.projectID config.settings with
    | none => .error (Network.invalidConfig "invalid GCP project settings")
    | some projectID =>
        if projectIDPattern projectID = false then
          .error (Network.invalidConfig "invalid GCP project settings")
        else
          match decoders.serviceAccountJSON config.credentials with
          | none => .error (Network.invalidConfig "invalid GCP credentials")
          | some key =>
              match validateServiceAccount (decoders.account key) with
              | .error failure => .error failure
              | .ok () =>
                  if newClient then .ok projectID
                  else .error (Network.invalidConfig "could not initialize GCP client")

def providerPortalURL (projectID : GoString) (ref : ServerRef) : Except GoError URL :=
  if validRef ref = false then .error (Network.invalidConfig "invalid GCP instance name or zone")
  else
    .ok {
      scheme := text "https"
      host := text "console.cloud.google.com"
      path := joinPath [text "/compute/instancesDetail/zones", ref.scope, text "instances", ref.externalID]
      rawQuery := encodeValues [(text "project", projectID)] }

/-- `path.Base` -/
def pathBase (path : GoString) : GoString :=
  if path = [] then text "."
  else
    let trimmed := (path.reverse.dropWhile fun c => c = byte '/').reverse
    let base := ((cutLast (byte '/') trimmed).2).getD trimmed
    if base = [] then text "/" else base

def inventoryError : GoError :=
  .provider ⟨.provider, text "GCP returned incomplete instance inventory", true⟩

def consoleReason : String :=
  "GCP browser serial console requires a Google Console session; use the provider portal"

def mapState (state : GoString) : ServerState :=
  if state = text "PROVISIONING" ∨ state = text "STAGING" then .pending
  else if state = text "RUNNING" then .running
  else if state = text "STOPPING" ∨ state = text "SUSPENDING" then .stopping
  else if state = text "SUSPENDED" then .suspended
  else if state = text "TERMINATED" then .stopped
  else .unknown

def spec (instance_ : Instance) : GoString :=
  let preemptible := (instance_.scheduling.map Scheduling.preemptible).getD false
  let model := (instance_.scheduling.map Scheduling.provisioningModel).getD []
  let machineType := if instance_.machineType ≠ [] then pathBase instance_.machineType else []
  JSON.object [(text "labels", JSON.stringMap instance_.labels),
    (text "machine_type", JSON.quote machineType), (text "numeric_id", itoa instance_.id),
    (text "preemptible", JSON.boolean preemptible), (text "provisioning_model", JSON.quote model)]

def add (kind : String) (value : GoString) : List GoString :=
  if value ≠ [] then [address kind value] else []

/-- The loop over the interfaces; a nil pointer is passed. -/
def addresses (instance_ : Instance) : List GoString :=
  (instance_.networkInterfaces.filterMap id).flatMap fun network =>
    add "private" network.networkIP ++ add "private" network.ipv6Address ++
      ((network.accessConfigs.filterMap id).flatMap fun access =>
        add "public" access.natIP ++ add "public" access.externalIPv6) ++
      (network.ipv6AccessConfigs.filterMap id).flatMap fun access => add "public" access.externalIPv6

def normalizeInstance (instance_ : Option Instance) : Except GoError RemoteServer :=
  match instance_ with
  | none => .error inventoryError
  | some instance_ =>
      let zone := pathBase instance_.zone
      if validRef ⟨instance_.name, zone⟩ = false then .error inventoryError
      else
        let state := mapState instance_.status
        .ok {
          externalID := instance_.name, name := instance_.name, scope := zone
          state := state, remoteState := instance_.status
          spec := spec instance_, addresses := JSON.array (addresses instance_)
          capabilities := {
            canStart := capability (state = .stopped) "instance must be stopped"
            canStop := capability (state = .running) "instance must be running"
            canReboot := capability (state = .running) "instance must be running"
            canEmbedConsole := without consoleReason
            canOpenConsoleWindow := without consoleReason
            hasProviderPortal := available } }

example : zonePattern (text "us-central1-a") = true := by decide

example : zonePattern (text "us--a") = false := by decide

/-! ## What is known of instances -/

private theorem head_visible {name : GoString} (letter : name.head?.any lowerLetter = true) :
    trimSpace name ≠ [] := by
  cases name with
  | nil => cases letter
  | cons first rest => exact letter_visible letter rest

theorem name_visible {ref : ServerRef} (valid : validRef ref = true) : trimSpace ref.externalID ≠ [] := by
  simp only [validRef, instancePattern, Bool.and_eq_true] at valid
  exact head_visible valid.1.1.1.1.2

private theorem cut_joined (separator : UInt8) (value : GoString) :
    value = (cut separator value).1 ++ ((cut separator value).2.map (separator :: ·)).getD [] := by
  induction value with
  | nil => rfl
  | cons first rest ih =>
      unfold cut
      split
      · next same => simp [same]
      · simp only [List.cons_append, List.cons.injEq, true_and]
        exact ih

private theorem cutLast_front {separator : UInt8} {value before after : GoString}
    (found : cutLast separator value = (before, some after)) : before <+: value := by
  have whole := cut_joined separator value.reverse
  unfold cutLast at found
  split at found
  · cases found
  · next tail front parts =>
      cases found
      rw [parts] at whole
      refine ⟨separator :: tail.reverse, ?_⟩
      have turned := congrArg List.reverse whole
      simpa using turned.symm

private theorem front_head {before value : GoString} (front : before <+: value)
    (letter : before.head?.any lowerLetter = true) : value.head?.any lowerLetter = true := by
  obtain ⟨rest, rfl⟩ := front
  cases before with
  | nil => cases letter
  | cons first more => exact letter

theorem zone_visible {ref : ServerRef} (valid : validRef ref = true) : trimSpace ref.scope ≠ [] := by
  simp only [validRef, Bool.and_eq_true] at valid
  have pattern := valid.2
  unfold zonePattern at pattern
  split at pattern
  · cases pattern
  · next region suffix cutOnce =>
      split at pattern
      · cases pattern
      · next before location cutTwice =>
          simp only [Bool.and_eq_true] at pattern
          apply head_visible
          apply front_head (cutLast_front cutOnce)
          exact front_head (cutLast_front cutTwice) pattern.1.1.1.1.1

end NodeAtlas.Adapters.GCP
