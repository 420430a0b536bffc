import NodeAtlas.Adapters.Common
import NodeAtlas.Digest
import NodeAtlas.Inventory.Sync

/-! The AWS adapter. -/

set_option autoImplicit false

namespace NodeAtlas.Adapters.AWS

open Providers

/-- `types.Tag` -/
structure Tag where
  key : Option GoString
  value : Option GoString

/-- `types.Instance`; of the state there is only its name. -/
structure Instance where
  instanceID : Option GoString
  state : Option GoString
  tags : List Tag
  instanceType : GoString
  architecture : GoString
  platformDetails : Option GoString
  privateIPAddress : Option GoString
  publicIPAddress : Option GoString

/-- `awssdk.ToString` -/
def toString (value : Option GoString) : GoString := value.getD []

variable (library : Library)

/-! ## Regions -/

/-- `^[a-z]{2}(?:-[a-z0-9]+){1,3}-[0-9]+$` -/
def regionPattern (region : GoString) : Bool :=
  match region.splitOn (byte '-') with
  | [] => false
  | first :: rest =>
      first.length = 2 && first.all lowerLetter && 2 ≤ rest.length && rest.length ≤ 4 &&
        (rest.dropLast.all fun part => part ≠ [] && part.all lowerAlphanumeric) &&
        (rest.getLast?.any fun part => part ≠ [] && part.all isDigit)

def normalizeEach : List GoString → List GoString → Except GoError (List GoString)
  | [], result => .ok result
  | value :: rest, result =>
      let region := library.toLower (trimSpace value)
      if regionPattern region = false ∨ 64 < region.length then
        .error (.plain (text "AWS settings contain an invalid region"))
      else if region ∈ result then normalizeEach rest result
      else normalizeEach rest (result ++ [region])

def normalizeRegions (values : List GoString) : Except GoError (List GoString) :=
  if values = [] ∨ 32 < values.length then
    .error (.plain (text "AWS settings require between 1 and 32 regions"))
  else normalizeEach library values []

/-- What `decodeStrict` reads: the regions, and the key with its secret. -/
structure Decoders where
  regions : GoString → Option (List GoString)
  keyAndSecret : GoString → Option (GoString × GoString)

def jsonDecoders : Decoders where
  regions raw :=
    (JSON.decodeStrict [.part "regions" id (fun _ regions => regions) (JSON.asSlice JSON.asString [])]
      .empty raw).map JSON.Slice.list
  keyAndSecret raw :=
    (JSON.decodeStrict [.part "access_key_id" Prod.fst (fun secret key => (key, secret.2)) JSON.asString,
      .part "secret_access_key" (·.2.1) (fun secret key => (secret.1, key, secret.2.2)) JSON.asString,
      .part "session_token" (·.2.2) (fun secret token => (secret.1, secret.2.1, token)) JSON.asString]
      ([], [], []) raw).map fun secret => (secret.1, secret.2.1)

/-- `Factory.Create`, where `newClient` says for which regions there is a
client. A provider is its regions. -/
def create (decoders : Decoders) (newClient : GoString → Bool) (config : ConnectionConfig) :
    Except GoError (List GoString) :=
  if trimSpace config.id = [] then .error (.plain (text "AWS connection ID is required"))
  else
    match decoders.regions config.settings with
    | none => .error (.plain (text "invalid AWS settings"))
    | some configured =>
        match normalizeRegions library configured with
        | .error failure => .error failure
        | .ok regions =>
            if ((decoders.keyAndSecret config.credentials).all fun (key, secret) =>
                trimSpace key = [] ∨ trimSpace secret = []) then
              .error (.plain (text "invalid AWS credentials"))
            else if regions.all newClient then .ok regions
            else .error (.plain (text "initialize AWS region client"))

def providerPortalURL (regions : List GoString) (ref : ServerRef) : Except GoError URL :=
  if ref.scope ∉ regions ∨ trimSpace ref.externalID = [] then
    .error (notFound "AWS instance was not found")
  else
    .ok {
      scheme := text "https"
      host :=
        if (text "cn-").isPrefixOf ref.scope then text "console.amazonaws.cn"
        else if (text "us-gov-").isPrefixOf ref.scope then text "console.amazonaws-us-gov.com"
        else text "console.aws.amazon.com"
      path := text "/ec2/home"
      rawQuery := text "region=" ++ queryEscape ref.scope
      fragment := text "InstanceDetails:instanceId=" ++ ref.externalID }

/-! ## Instances -/

def mapState (state : GoString) : ServerState :=
  if state = text "pending" then .pending
  else if state = text "running" then .running
  else if state = text "stopping" ∨ state = text "shutting-down" then .stopping
  else if state = text "stopped" then .stopped
  else if state = text "terminated" then .error
  else .unknown

/-- The first tag `Name` that has a text. -/
def nameTag (tags : List Tag) : Option GoString :=
  (tags.find? fun tag => toString tag.key = text "Name" && trimSpace (toString tag.value) ≠ []).map fun tag =>
    trimSpace (toString tag.value)

def rawState (instance_ : Instance) : GoString := instance_.state.getD (text "unknown")

def spec (instance_ : Instance) : GoString :=
  JSON.object [(text "architecture", JSON.quote instance_.architecture),
    (text "instance_type", JSON.quote instance_.instanceType),
    (text "platform_details", JSON.quote (toString instance_.platformDetails))]

def addresses (instance_ : Instance) : List GoString :=
  (if toString instance_.privateIPAddress ≠ [] then [address "private" (toString instance_.privateIPAddress)]
    else []) ++
  if toString instance_.publicIPAddress ≠ [] then [address "public" (toString instance_.publicIPAddress)]
    else []

def normalizeInstance (instance_ : Instance) (region : GoString) : Option RemoteServer :=
  let id := trimSpace (toString instance_.instanceID)
  if id = [] then none
  else
    let state := mapState (rawState instance_)
    some {
      externalID := id, scope := region, name := (nameTag instance_.tags).getD id
      state := state, remoteState := rawState instance_
      spec := spec instance_, addresses := JSON.array (addresses instance_)
      capabilities := {
        canStart := capability (state = .stopped) "instance must be stopped"
        canStop := capability (state = .running) "instance must be running"
        canReboot := capability (state = .running) "instance must be running"
        canEmbedConsole := without "AWS serial console is not embedded by this connection type"
        canOpenConsoleWindow := without
          "AWS browser serial console requires an AWS Console session; use the provider portal"
        hasProviderPortal := available } }

def flattenInstances (reservations : List (List Instance)) (region : GoString) : List RemoteServer :=
  reservations.flatten.filterMap fun instance_ => normalizeInstance instance_ region

/-! ## The inventory -/

/-- `cursorPosition` -/
structure Position where
  region : Int
  token : GoString
  deriving DecidableEq, Repr

def Position.json (position : Position) : GoString :=
  JSON.object ((text "region", integerText position.region) ::
    if position.token = [] then [] else [(text "token", JSON.quote position.token)])

def encodeCursor (position : Position) : GoString := rawURLEncode position.json

/-- The rest behind a beginning. -/
def behind (front value : GoString) : Option GoString :=
  if front.isPrefixOf value then some (value.drop front.length) else none

/-- The text of a token, up to the end of the object. -/
def readToken (rest : GoString) : Option GoString :=
  match behind (text ",\"token\":") rest with
  | none => none
  | some rest => if rest.getLast? = some (byte '\x7d') then JSON.unquote rest.dropLast else none

/-- `json.Unmarshal` of objects as they are written here. -/
def readPosition (raw : GoString) : Option Position :=
  match behind (text "\x7b\"region\":") raw with
  | none => none
  | some rest =>
      match parseInt (rest.takeWhile isDigit) with
      | none => none
      | some region =>
          if rest.dropWhile isDigit = [byte '\x7d'] then some ⟨region, []⟩
          else (readToken (rest.dropWhile isDigit)).map fun token => ⟨region, token⟩

/-- `decodeCursor`, where `others` is what `json.Unmarshal` makes of JSON that
is written in another way. -/
def decodeCursor (others : GoString → Option Position) (cursor : Option GoString) : Option Position :=
  match cursor with
  | none => some ⟨0, []⟩
  | some value =>
      match rawURLDecode value with
      | none => none
      | some raw => if JSON.valid raw then (readPosition raw).or (others raw) else none

/-- `ec2.DescribeInstancesOutput` -/
structure Output where
  reservations : List (List Instance)
  nextToken : Option GoString

/-- What `DescribeInstances` can fail with. -/
inductive APIFailure where
  | timeout
  | api (code : GoString)
  | other
  deriving DecidableEq, Repr

def classifyError : APIFailure → GoError
  | .timeout => .provider ⟨.network, text "AWS request timed out", true⟩
  | .api code =>
      if code ∈ [text "AuthFailure", text "InvalidClientTokenId", text "SignatureDoesNotMatch",
          text "UnrecognizedClientException"] then
        .provider ⟨.authentication, text "AWS credentials were rejected", false⟩
      else if code ∈ [text "UnauthorizedOperation", text "AccessDenied", text "AccessDeniedException"] then
        .provider ⟨.permission, text "AWS permission was denied", false⟩
      else if code ∈ [text "RequestLimitExceeded", text "Throttling", text "ThrottlingException"] then
        .provider ⟨.rateLimited, text "AWS request was rate limited", true⟩
      else if code = text "InvalidInstanceID.NotFound" then
        .provider ⟨.notFound, text "AWS instance was not found", false⟩
      else .provider ⟨.provider, text "AWS request failed", false⟩
  | .other => .provider ⟨.network, text "AWS network request failed", true⟩

/-- `ListServers`; `describe` is given the region and the token of the input. -/
def listServers (others : GoString → Option Position) (regions : List GoString)
    (describe : GoString → Option GoString → Except APIFailure Output) (cursor : Option GoString) :
    Except GoError Inventory.ServerPage :=
  match decodeCursor others cursor with
  | none => .error (Network.invalidConfig "invalid AWS inventory cursor")
  | some position =>
      if position.region < 0 ∨ regions.length ≤ position.region then
        .error (Network.invalidConfig "invalid AWS inventory cursor")
      else
        let region := regions.getD position.region.toNat []
        match describe region (if position.token ≠ [] then some position.token else none) with
        | .error failure => .error (classifyError failure)
        | .ok output =>
            let token := toString output.nextToken
            let next : Position := ⟨if token = [] then position.region + 1 else position.region, token⟩
            .ok {
              servers := flattenInstances output.reservations region
              next := if next.region < regions.length then some (encodeCursor next) else none }

/-! ## What is known of regions and instances -/

private theorem normalizeEach_pattern {values result regions : List GoString}
    (before : ∀ region ∈ result, regionPattern region = true)
    (normalized : normalizeEach library values result = .ok regions) :
    ∀ region ∈ regions, regionPattern region = true := by
  induction values generalizing result with
  | nil =>
      cases normalized
      exact before
  | cons value rest ih =>
      simp only [normalizeEach] at normalized
      split at normalized
      · cases normalized
      · next accepted =>
          split at normalized
          · exact ih before normalized
          · apply ih _ normalized
            intro region member
            rcases List.mem_append.mp member with old | new
            · exact before region old
            · rw [List.mem_singleton.mp new]
              simpa using fun refused => accepted (.inl refused)

theorem normalizeRegions_pattern {values regions : List GoString}
    (normalized : normalizeRegions library values = .ok regions) :
    ∀ region ∈ regions, regionPattern region = true := by
  unfold normalizeRegions at normalized
  split at normalized
  · cases normalized
  · apply normalizeEach_pattern library _ normalized
    intro region member
    cases member

private theorem normalizeEach_length {values result regions : List GoString}
    (normalized : normalizeEach library values result = .ok regions) :
    result.length ≤ regions.length ∧ regions.length ≤ result.length + values.length := by
  induction values generalizing result with
  | nil =>
      cases normalized
      simp
  | cons value rest ih =>
      simp only [normalizeEach] at normalized
      split at normalized
      · cases normalized
      · split at normalized
        · have lengths := ih normalized
          rw [List.length_cons]
          omega
        · have lengths := ih normalized
          simp only [List.length_append, List.length_cons, List.length_nil] at lengths ⊢
          omega

/-- A provider has a region, and no more than were given. -/
theorem normalizeRegions_length {values regions : List GoString}
    (normalized : normalizeRegions library values = .ok regions) : 1 ≤ regions.length ∧ regions.length ≤ 32 := by
  unfold normalizeRegions at normalized
  split at normalized
  · cases normalized
  · next given =>
      rw [not_or] at given
      cases values with
      | nil => exact absurd rfl given.1
      | cons value rest =>
          have atMost := (normalizeEach_length library normalized).2
          simp only [List.length_cons, List.length_nil] at atMost given
          simp only [normalizeEach] at normalized
          split at normalized
          · cases normalized
          · rw [if_neg List.not_mem_nil] at normalized
            have atLeast := (normalizeEach_length library normalized).1
            rw [List.nil_append, List.length_singleton] at atLeast
            omega

/-- A region begins with a letter. -/
theorem regionPattern_visible {region : GoString} (pattern : regionPattern region = true) :
    trimSpace region ≠ [] := by
  have whole : List.intercalate [byte '-'] (region.splitOn (byte '-')) = region := List.intercalate_splitOn _
  unfold regionPattern at pattern
  split at pattern
  · cases pattern
  · next first rest parts =>
      simp only [Bool.and_eq_true, decide_eq_true_eq] at pattern
      obtain ⟨⟨⟨⟨⟨two, letters⟩, _⟩, _⟩, _⟩, _⟩ := pattern
      cases first with
      | nil => cases two
      | cons letter more =>
          rw [List.all_cons, Bool.and_eq_true] at letters
          obtain ⟨tail, starts⟩ : ∃ tail, region = letter :: tail := by
            rw [parts] at whole
            cases rest with
            | nil => exact ⟨more, by simpa using whole.symm⟩
            | cons second others => exact ⟨_, whole.symm⟩
          rw [starts]
          exact letter_visible letters.1 tail

/-- Neither is the name of an instance blank. -/
theorem name_visible (tags : List Tag) {id : GoString} (visible : trimSpace id ≠ []) :
    trimSpace ((nameTag tags).getD id) ≠ [] := by
  unfold nameTag
  cases found : tags.find? fun tag => toString tag.key = text "Name" && trimSpace (toString tag.value) ≠ [] with
  | none => exact visible
  | some tag =>
      have speaks := List.find?_some found
      simp only [Bool.and_eq_true, decide_eq_true_eq] at speaks
      simpa using speaks.2

/-! ## Cursors that are read back -/

private theorem behind_front (front rest : GoString) : behind front (front ++ rest) = some rest := by
  simp [behind]

private theorem takeWhile_digits {digits : GoString} (all : digits.all isDigit = true) (rest : GoString)
    (stops : rest.head?.all fun c => !isDigit c) :
    (digits ++ rest).takeWhile isDigit = digits ∧ (digits ++ rest).dropWhile isDigit = rest := by
  have each := List.all_eq_true.mp all
  rw [List.takeWhile_append_of_pos each, List.dropWhile_append_of_pos each]
  cases rest with
  | nil => simp
  | cons first more => simp_all

private theorem json_value (position : Position) : JSON.valid position.json = true := by
  apply JSON.Value.valid _ (by decide : 1 ≤ JSON.maxNestingDepth)
  apply JSON.object_value
  intro member present
  rcases List.mem_cons.mp present with rfl | later
  · exact JSON.integer_value _
  · split at later
    · cases later
    · rw [List.mem_singleton.mp later]
      exact JSON.quote_value _

/-- A token of text comes back with its region. -/
private theorem readPosition_json {region : Nat} {token : GoString} (fits : region < 2 ^ 63)
    (utf8 : UTF8.repair token = token) : readPosition (Position.json ⟨region, token⟩) = some ⟨region, token⟩ := by
  have number : integerText (region : Int) = itoa region := by simp [integerText]
  have front : ∀ rest, byte '\x7b' :: (JSON.quote (text "region") ++ byte ':' :: rest) =
      text "\x7b\"region\":" ++ rest := by
    intro rest
    have letters : byte '\x7b' :: (JSON.quote (text "region") ++ [byte ':']) = text "\x7b\"region\":" := by
      decide
    rw [← letters]
    simp
  by_cases none_ : token = []
  · subst none_
    have written : Position.json ⟨region, []⟩ = text "\x7b\"region\":" ++ (itoa region ++ [byte '\x7d']) := by
      rw [← front]
      simp [Position.json, JSON.object, JSON.commaSeparated, number]
    obtain ⟨taken, left⟩ := takeWhile_digits (itoa_digits region) [byte '\x7d'] (by decide)
    rw [written, readPosition, behind_front]
    simp only [taken, left, parseInt_itoa fits, if_true]
  · have middle : byte ',' :: (JSON.quote (text "token") ++ [byte ':']) = text ",\"token\":" := by decide
    have written : Position.json ⟨region, token⟩ = text "\x7b\"region\":" ++
        (itoa region ++ (text ",\"token\":" ++ (JSON.quote token ++ [byte '\x7d']))) := by
      rw [← front, ← middle]
      simp [Position.json, JSON.object, JSON.commaSeparated, number, none_]
    have starts : text ",\"token\":" ++ (JSON.quote token ++ [byte '\x7d']) =
        byte ',' :: (JSON.quote (text "token") ++ byte ':' :: (JSON.quote token ++ [byte '\x7d'])) := by
      rw [← middle]
      simp
    obtain ⟨taken, left⟩ := takeWhile_digits (itoa_digits region)
      (text ",\"token\":" ++ (JSON.quote token ++ [byte '\x7d'])) (by rw [starts, List.head?_cons]; decide)
    have more : text ",\"token\":" ++ (JSON.quote token ++ [byte '\x7d']) ≠ [byte '\x7d'] := by
      rw [starts]
      simp
    have read : readToken (text ",\"token\":" ++ (JSON.quote token ++ [byte '\x7d'])) = some token := by
      rw [readToken, behind_front]
      simp [JSON.unquote_quote, utf8]
    rw [written, readPosition, behind_front]
    simp only [taken, left, parseInt_itoa fits, more, if_false, read, Option.map_some]

theorem decodeCursor_encode (others : GoString → Option Position) {region : Nat} {token : GoString}
    (fits : region < 2 ^ 63) (utf8 : UTF8.repair token = token) :
    decodeCursor others (some (encodeCursor ⟨region, token⟩)) = some ⟨region, token⟩ := by
  simp [decodeCursor, encodeCursor, json_value, readPosition_json fits utf8]

end NodeAtlas.Adapters.AWS
