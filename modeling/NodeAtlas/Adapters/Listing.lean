import NodeAtlas.Adapters.VirtFusion
import NodeAtlas.JSON.Decode

/-! What `ListServers` of VirtFusion takes for a list of servers. -/

set_option autoImplicit false

namespace NodeAtlas.Adapters.VirtFusion

open Providers JSON

/-! ## Decoding -/

/-- `null` makes a pointer `nil`. -/
def asPointer {T : Type} (decode : Decoder T) (zero : T) : Decoder (Option T)
  | _, .null => some none
  | current, value => (decode (current.getD zero) value).map some

/-- `flexibleInt` -/
def asFlexibleInt : Decoder Int
  | current, .null => some current
  | _, .number token => parseInt token
  | _, .string _ value => if validNumber value then parseInt value else parseInt (trimSpace value)
  | current, .boolean value => some (if value then 3 else current)
  | _, _ => none

/-- The addresses of an interface as they are decoded. -/
structure InterfaceDraft where
  ipv4 : Slice GoString
  ipv6 : Slice GoString

/-- `serverData` as it is decoded; `data` has no interfaces of its own. -/
structure Draft where
  data : ServerData
  interfaces : Slice InterfaceDraft

def Draft.serverData (draft : Draft) : ServerData :=
  { draft.data with interfaces := draft.interfaces.list.map fun each => ⟨each.ipv4.list, each.ipv6.list⟩ }

def Draft.zero : Draft :=
  ⟨⟨[], [], [], [], none, 0, false, false, false, false, [], [], ⟨0, 0, 0, 0, 0⟩, ⟨0, 0, 0, 0, 0⟩, ⟨0, 0, 0, 0, 0⟩, []⟩,
    .empty⟩

def resourcesFields : List (JSON.Field Resources) :=
  [.part "memory" Resources.memory (fun value part => { value with memory := part }) asInt,
    .part "storage" Resources.storage (fun value part => { value with storage := part }) asInt,
    .part "traffic" Resources.traffic (fun value part => { value with traffic := part }) asInt,
    .part "cpu_cores" Resources.cpuCores (fun value part => { value with cpuCores := part }) asInt,
    .part "cpuCores" Resources.cpuCoresCamel (fun value part => { value with cpuCoresCamel := part }) asInt]

def settingsResourcesFields : List (JSON.Field Resources) :=
  [.part "memory" Resources.memory (fun value part => { value with memory := part }) asInt,
    .part "storage" Resources.storage (fun value part => { value with storage := part }) asInt,
    .part "traffic" Resources.traffic (fun value part => { value with traffic := part }) asInt,
    .part "cpuCores" Resources.cpuCores (fun value part => { value with cpuCores := part }) asInt]

def addressFields : List (JSON.Field GoString) := [.part "address" id (fun _ part => part) asString]

def interfaceFields : List (JSON.Field InterfaceDraft) :=
  [.part "ipv4" InterfaceDraft.ipv4 (fun value part => { value with ipv4 := part })
      (asSlice (asStruct addressFields false) []),
    .part "ipv6" InterfaceDraft.ipv6 (fun value part => { value with ipv6 := part })
      (asSlice (asStruct addressFields false) [])]

section Fields

variable {T : Type} (name : String)

/-- A field of `serverData` besides its interfaces. -/
def dataField (get : ServerData → T) (put : ServerData → T → ServerData) (decode : Decoder T) : JSON.Field Draft :=
  .part name (fun draft => get draft.data) (fun draft part => { draft with data := put draft.data part }) decode

/-- A member that is an object with one field. -/
def inner (outer : String) (field : JSON.Field T) : JSON.Field T := ⟨text outer, asStruct [field] false⟩

end Fields

def serverDataFields : List (JSON.Field Draft) :=
  [dataField "uuid" ServerData.uuid (fun data part => { data with uuid := part }) asString,
    dataField "name" ServerData.name (fun data part => { data with name := part }) asString,
    dataField "hostname" ServerData.hostname (fun data part => { data with hostname := part }) asString,
    dataField "state" ServerData.state (fun data part => { data with state := part }) asString,
    dataField "commissioned" ServerData.commissioned (fun data part => { data with commissioned := part })
      (asPointer asFlexibleInt 0),
    dataField "commissionStatus" ServerData.commissionStatus (fun data part => { data with commissionStatus := part })
      asInt,
    dataField "suspended" ServerData.suspended (fun data part => { data with suspended := part }) asBoolean,
    dataField "locked" ServerData.locked (fun data part => { data with locked := part }) asBoolean,
    dataField "buildFailed" ServerData.buildFailed (fun data part => { data with buildFailed := part }) asBoolean,
    dataField "build_failed" ServerData.buildFailedAlt (fun data part => { data with buildFailedAlt := part }) asBoolean,
    dataField "remoteState" ServerData.remoteState (fun data part => { data with remoteState := part }) asRaw,
    dataField "remote_state" ServerData.remoteStateAlt (fun data part => { data with remoteStateAlt := part }) asRaw,
    dataField "memory" (fun data => data.direct.memory)
      (fun data part => { data with direct := { data.direct with memory := part } }) asInt,
    dataField "storage" (fun data => data.direct.storage)
      (fun data part => { data with direct := { data.direct with storage := part } }) asInt,
    dataField "traffic" (fun data => data.direct.traffic)
      (fun data part => { data with direct := { data.direct with traffic := part } }) asInt,
    dataField "cpu_cores" (fun data => data.direct.cpuCores)
      (fun data part => { data with direct := { data.direct with cpuCores := part } }) asInt,
    dataField "cpuCores" (fun data => data.direct.cpuCoresCamel)
      (fun data part => { data with direct := { data.direct with cpuCoresCamel := part } }) asInt,
    dataField "resources" ServerData.resources (fun data part => { data with resources := part })
      (asStruct resourcesFields false),
    inner "settings" (dataField "resources" ServerData.settings (fun data part => { data with settings := part })
      (asStruct settingsResourcesFields false)),
    inner "network" (.part "interfaces" Draft.interfaces (fun draft part => { draft with interfaces := part })
      (asSlice (asStruct interfaceFields false) ⟨.empty, .empty⟩))]

def asServerData : Decoder Draft := asStruct serverDataFields false

/-- `listResponse`, whose data stays raw. -/
def asListResponse : Decoder GoString := asStruct [.part "data" id (fun _ part => part) asRaw] false

/-- `detailResponse` -/
def asDetailResponse : Decoder Draft := asStruct [.part "data" id (fun _ part => part) asServerData] false

def serversFields : List (JSON.Field (Slice Draft)) :=
  [.part "servers" id (fun _ part => part) (asSlice asServerData Draft.zero)]

/-- `none` is an error. -/
def decodeServerList (raw : GoString) : Option (List Draft) :=
  match unmarshal (asSlice asServerData Draft.zero) .empty raw with
  | some direct => some direct.list
  | none =>
      match unmarshal (asStruct serversFields false) .empty raw with
      | some wrapped => wrapped.items
      | none => none

/-! ## Requests -/

inductive Reply where
  | timedOut
  | failed
  | response (status : Nat) (body : GoString)

def maxResponseBytes : Nat := 4 * 2 ^ 20

def classifyStatus (status : Nat) : GoError :=
  if status = 401 then .provider ⟨.authentication, text "VirtFusion credentials were rejected", false⟩
  else if status = 403 then .provider ⟨.permission, text "VirtFusion permission was denied", false⟩
  else if status = 404 then .provider ⟨.notFound, text "VirtFusion resource was not found", false⟩
  else if status = 409 ∨ status = 422 then .provider ⟨.provider, text "VirtFusion rejected the operation", false⟩
  else if status = 429 then .provider ⟨.rateLimited, text "VirtFusion request was rate limited", true⟩
  else .provider ⟨.provider, text "VirtFusion request failed", 500 ≤ status⟩

section Calls

variable (library : Library)

/-- `request` with a target. The body is one value; where a beginning of it can
be decoded, what follows is what is wrong. -/
def request {T : Type} (decode : Decoder T) (zero : T) : Reply → Except GoError T
  | .timedOut => .error (.provider ⟨.network, text "VirtFusion request timed out", true⟩)
  | .failed => .error (.provider ⟨.network, text "VirtFusion network request failed", true⟩)
  | .response status body =>
      if status < 200 ∨ 300 ≤ status then .error (classifyStatus status)
      else if status = 204 then .ok zero
      else
        let received := body.take (maxResponseBytes + 1)
        match unmarshal decode zero received with
        | some target => .ok target
        | none =>
            if (List.range received.length).any fun length => (unmarshal decode zero (received.take length)).isSome then
              .error (providerFailure "VirtFusion returned an oversized or invalid response")
            else .error (providerFailure "VirtFusion returned malformed JSON")

def getServer (reply : GoString → Reply) (id : GoString) : Except GoError RemoteServer :=
  match request asDetailResponse Draft.zero (reply id) with
  | .error failure => .error failure
  | .ok draft => acceptServer library id draft.serverData

/-- The loop of `ListServers` from an element on; each has a request of its own. -/
def getServers (replies : Nat → GoString → Reply) : Nat → List Draft → Except GoError (List RemoteServer)
  | _, [] => .ok []
  | index, item :: rest =>
      match normalizeServerID library item.serverData.uuid with
      | none => .error (providerFailure "VirtFusion returned an invalid server ID")
      | some id =>
          match getServer library (replies index) id with
          | .error failure => .error failure
          | .ok server =>
              match getServers replies (index + 1) rest with
              | .error failure => .error failure
              | .ok servers => .ok (server :: servers)

/-- What the upstream answers: to the list, and for each element to the ID that
is asked for. -/
structure Upstream where
  list : Reply
  details : Nat → GoString → Reply

def listServers (upstream : Upstream) (cursor : Option GoString) : Except GoError (List RemoteServer) :=
  if cursor ≠ none then .error (.provider ⟨.invalidConfig, text "invalid VirtFusion inventory cursor", false⟩)
  else
    match request asListResponse [] upstream.list with
    | .error failure => .error failure
    | .ok data =>
        match decodeServerList data with
        | none => .error (providerFailure "VirtFusion returned invalid server inventory")
        | some servers => getServers library upstream.details 0 servers

end Calls

/-! ## What is taken for a list -/

def namesServers (key : GoString) : Bool := (fieldFor serversFields key).isSome

/-- The array that a value of `data` is or that its last member for the servers
is, and what its elements are decoded to. Only behind another such member are
they decoded into something that is there. -/
inductive Listed : Json → List Json → List Draft → Prop where
  | direct {raw : GoString} {items : List Json} {drafts : List Draft}
      (decoded : items.mapM (asServerData Draft.zero) = some drafts) : Listed (.array raw items) items drafts
  | wrapped {raw itemsRaw key : GoString} {before after : List (GoString × Json)} {items : List Json}
      {array drafts : List Draft} (named : namesServers key = true)
      (last : ∀ member ∈ after, namesServers member.1 = false)
      (fresh : (∀ member ∈ before, namesServers member.1 = false) → array = [])
      (decoded : decodeItems asServerData Draft.zero array items = some drafts) :
      Listed (.object raw (before ++ (key, .array itemsRaw items) :: after)) items drafts

theorem Listed.length {data : Json} {items : List Json} {drafts : List Draft} (listed : Listed data items drafts) :
    drafts.length = items.length := by
  cases listed with
  | direct decoded => exact (mapM_forall decoded).length_eq.symm
  | wrapped _ _ _ decoded => exact decodeItems_length decoded

private theorem asSlice_items {T : Type} {decode : Decoder T} {zero : T} {current slice : Slice T} {value : Json}
    {found : List T} (decoded : asSlice decode zero current value = some slice) (some_ : slice.items = some found) :
    ∃ raw items, value = .array raw items ∧
      decodeItems decode zero (current.list ++ current.spare) items = some found := by
  unfold asSlice at decoded
  split at decoded
  · cases decoded
    cases some_
  · cases decoded
    cases some_
    exact ⟨_, [], rfl, rfl⟩
  · next raw items _ =>
    obtain ⟨values, read, same⟩ := Option.bind_eq_some_iff.mp decoded
    cases same
    cases some_
    exact ⟨raw, items, rfl, read⟩
  · cases decoded

private theorem asSlice_nil {T : Type} {decode : Decoder T} {zero : T} {current slice : Slice T} {value : Json}
    (decoded : asSlice decode zero current value = some slice) (none_ : slice.items = none) : value = .null := by
  unfold asSlice at decoded
  split at decoded
  · rfl
  · cases decoded
    cases none_
  · obtain ⟨values, _, same⟩ := Option.bind_eq_some_iff.mp decoded
    cases same
    cases none_
  · cases decoded

/-- The last member for the servers decides. -/
private theorem wrapped_last {current slice : Slice Draft} {members : List (GoString × Json)}
    (decoded : decodeMembers serversFields false current members = some slice) :
    (slice = current ∧ ∀ member ∈ members, namesServers member.1 = false) ∨
      ∃ before key value after earlier, members = before ++ (key, value) :: after ∧ namesServers key = true ∧
        (∀ member ∈ after, namesServers member.1 = false) ∧
        ((∀ member ∈ before, namesServers member.1 = false) → earlier = current) ∧
        asSlice asServerData Draft.zero earlier value = some slice := by
  induction members generalizing current with
  | nil =>
      cases decoded
      exact .inl ⟨rfl, nofun⟩
  | cons member rest ih =>
      obtain ⟨key, value⟩ := member
      unfold decodeMembers at decoded
      split at decoded
      · next field found =>
        have named : namesServers key = true := by simp [namesServers, found]
        have only : field = .part "servers" id (fun _ part => part) (asSlice asServerData Draft.zero) := by
          have listed : field ∈ serversFields := by
            rcases Option.or_eq_some_iff.mp found with exact_ | ⟨_, folded⟩
            · exact List.mem_of_find?_eq_some exact_
            · exact List.mem_of_find?_eq_some folded
          exact List.mem_singleton.mp listed
        subst only
        obtain ⟨middle, first, more⟩ := Option.bind_eq_some_iff.mp decoded
        obtain ⟨part, read, same⟩ := Option.map_eq_some_iff.mp first
        subst same
        rcases ih more with ⟨kept, others⟩ | ⟨before, next, last, after, earlier, split_, names, behind, fresh, read⟩
        · subst kept
          exact .inr ⟨[], key, value, rest, current, rfl, named, others, fun _ => rfl, read⟩
        · refine .inr ⟨(key, value) :: before, next, last, after, earlier, by rw [split_, List.cons_append], names, behind,
            ?_, read⟩
          intro none_
          have unnamed := none_ (key, value) List.mem_cons_self
          rw [named] at unnamed
          cases unnamed
      · next missing =>
        have unnamed : namesServers key = false := by simp [namesServers, missing]
        rw [if_neg (by decide)] at decoded
        rcases ih decoded with ⟨kept, others⟩ | ⟨before, next, last, after, earlier, split_, names, behind, fresh, read⟩
        · refine .inl ⟨kept, ?_⟩
          intro member listed
          rcases List.mem_cons.mp listed with rfl | later
          · exact unnamed
          · exact others member later
        · refine .inr ⟨(key, value) :: before, next, last, after, earlier, by rw [split_, List.cons_append], names, behind,
            ?_, read⟩
          intro none_
          exact fresh fun member listed => none_ member (List.mem_cons_of_mem _ listed)

theorem decodeServerList_listed {raw : GoString} {drafts : List Draft} (decoded : decodeServerList raw = some drafts)
    (solid : read raw ≠ some .null) : ∃ data items, read raw = some data ∧ Listed data items drafts := by
  unfold decodeServerList at decoded
  split at decoded
  · next direct unmarshalled =>
    obtain ⟨data, found, built⟩ := Option.bind_eq_some_iff.mp unmarshalled
    cases items : direct.items with
    | none =>
        rw [asSlice_nil built items] at found
        exact absurd found solid
    | some values =>
        obtain ⟨text_, elements, rfl, read⟩ := asSlice_items built items
        have same : direct.list = values := by rw [Slice.list, items, Option.getD_some]
        rw [same] at decoded
        cases decoded
        have fresh : (Slice.empty : Slice Draft).list ++ (Slice.empty : Slice Draft).spare = [] := rfl
        rw [fresh, decodeItems_fresh] at read
        exact ⟨_, elements, found, .direct read⟩
  · split at decoded
    · next wrapped unmarshalled =>
      obtain ⟨data, found, built⟩ := Option.bind_eq_some_iff.mp unmarshalled
      unfold asStruct at built
      split at built
      · cases built
        cases decoded
      · next text_ members =>
        rcases wrapped_last built with ⟨rfl, _⟩ | ⟨before, key, value, after, earlier, rfl, named, last, fresh, read⟩
        · cases decoded
        · obtain ⟨itemsRaw, items, rfl, values⟩ := asSlice_items read decoded
          refine ⟨_, items, found, .wrapped named last ?_ values⟩
          intro none_
          rw [fresh none_]
          rfl
      · cases built
    · cases decoded

/-! ## What comes of a list -/

section Lists

variable (library : Library)

/-- An element has a UUID, the answer for that UUID has it as well, and the
server is made of the answer. -/
def Answered (reply : GoString → Reply) (draft : Draft) (server : RemoteServer) : Prop :=
  ∃ id detail, normalizeServerID library draft.serverData.uuid = some id ∧
    request asDetailResponse Draft.zero (reply id) = .ok detail ∧
    normalizeServerID library detail.serverData.uuid = some id ∧ server = normalizeServer library detail.serverData

/-- A page has a server for each element of a list, and in its order. -/
def Truthful (upstream : Upstream) (page : List RemoteServer) : Prop :=
  ∃ raw data items drafts, request asListResponse [] upstream.list = .ok raw ∧ read raw = some data ∧
    Listed data items drafts ∧ page.length = items.length ∧
    ∀ index draft, drafts[index]? = some draft →
      ∃ server, page[index]? = some server ∧ Answered library (upstream.details index) draft server

/-- The list comes with the data `null`. -/
def NullData (reply : Reply) : Prop :=
  ∃ status body raw, reply = .response status body ∧ 200 ≤ status ∧ status < 300 ∧ status ≠ 204 ∧
    unmarshal asListResponse [] (body.take (maxResponseBytes + 1)) = some raw ∧ read raw = some .null

variable {library}

private theorem request_null {reply : Reply} {raw : GoString} (answered : request asListResponse [] reply = .ok raw)
    (null : read raw = some .null) : NullData reply := by
  cases reply with
  | timedOut => cases answered
  | failed => cases answered
  | response status body =>
      rw [request] at answered
      split at answered
      · cases answered
      · next fine =>
        split at answered
        · cases answered
          cases null
        · next content =>
          dsimp only at answered
          split at answered
          · next target decoded =>
            cases answered
            exact ⟨status, body, _, rfl, by omega, by omega, content, decoded, null⟩
          · split at answered <;> cases answered

private theorem null_listed {upstream : Upstream} (null : NullData upstream.list) :
    listServers library upstream none = .ok [] ∧
      ∃ raw, request asListResponse [] upstream.list = .ok raw ∧ read raw = some .null := by
  obtain ⟨status, body, raw, reply, least, most, content, decoded, null⟩ := null
  have answered : request asListResponse [] upstream.list = .ok raw := by
    rw [reply, request, if_neg (by omega), if_neg content]
    dsimp only
    rw [decoded]
  have empty : decodeServerList raw = some [] := by
    unfold decodeServerList unmarshal
    rw [null]
    rfl
  refine ⟨?_, raw, answered, null⟩
  unfold listServers
  rw [if_neg (by simp), answered]
  dsimp only
  rw [empty]
  rfl

private theorem null_untruthful {upstream : Upstream} (null : NullData upstream.list) :
    ¬∀ cursor page, listServers library upstream cursor = .ok page → Truthful library upstream page := by
  intro truthful
  obtain ⟨listed, raw, answered, nothing⟩ := @null_listed library upstream null
  obtain ⟨raw', data, items, drafts, same, found, array, _⟩ := truthful none [] listed
  cases answered.symm.trans same
  cases nothing.symm.trans found
  cases array

private theorem getServer_answered {reply : GoString → Reply} {draft : Draft} {id : GoString} {server : RemoteServer}
    (named : normalizeServerID library draft.serverData.uuid = some id)
    (got : getServer library reply id = .ok server) : Answered library reply draft server := by
  unfold getServer at got
  split at got
  · cases got
  · next detail answered =>
    unfold acceptServer at got
    split at got
    · cases got
    · next responseID named_ =>
      split at got
      · cases got
      · next same =>
        cases got
        rw [Classical.not_not.mp same] at named_
        exact ⟨id, detail, named, answered, named_, rfl⟩

/-- Each element has a server, at its place. -/
theorem getServers_answered {replies : Nat → GoString → Reply} {start : Nat} {drafts : List Draft}
    {page : List RemoteServer} (got : getServers library replies start drafts = .ok page) :
    page.length = drafts.length ∧ ∀ index draft, drafts[index]? = some draft →
      ∃ server, page[index]? = some server ∧ Answered library (replies (start + index)) draft server := by
  induction drafts generalizing start page with
  | nil =>
      cases got
      refine ⟨rfl, ?_⟩
      intro index draft found
      rw [List.getElem?_nil] at found
      cases found
  | cons item rest ih =>
      unfold getServers at got
      split at got
      · cases got
      · next id named =>
        split at got
        · cases got
        · next server first =>
          split at got
          · cases got
          · next servers others =>
            obtain rfl := Except.ok.inj got
            obtain ⟨length, each⟩ := ih others
            refine ⟨by rw [List.length_cons, List.length_cons, length], ?_⟩
            rintro (_ | index) draft found
            · rw [List.getElem?_cons_zero] at found
              obtain rfl := Option.some.inj found
              exact ⟨server, List.getElem?_cons_zero, getServer_answered named first⟩
            · rw [List.getElem?_cons_succ] at found
              obtain ⟨later, placed, answered⟩ := each index draft found
              refine ⟨later, by rw [List.getElem?_cons_succ, placed], ?_⟩
              rwa [Nat.add_assoc, Nat.add_comm 1 index] at answered

theorem lists_truthful (upstream : Upstream) :
    (∀ cursor page, listServers library upstream cursor = .ok page → Truthful library upstream page) ↔
      ¬NullData upstream.list := by
  constructor
  · intro truthful null
    exact null_untruthful null truthful
  · intro solid cursor page listed
    unfold listServers at listed
    split at listed
    · cases listed
    · split at listed
      · cases listed
      · next raw answered =>
        split at listed
        · cases listed
        · next drafts decoded =>
          obtain ⟨data, items, found, array⟩ :=
            decodeServerList_listed decoded fun null => solid (request_null answered null)
          obtain ⟨length, each⟩ := getServers_answered listed
          refine ⟨raw, data, items, drafts, answered, found, array, length.trans array.length, ?_⟩
          intro index draft placed
          obtain ⟨server, at_, answer⟩ := each index draft placed
          rw [Nat.zero_add] at answer
          exact ⟨server, at_, answer⟩

end Lists

/-- The list is `null`; nothing else is asked for. -/
def nullUpstream : Upstream := ⟨.response 200 (text "\x7b\"data\": null\x7d"), fun _ _ => .failed⟩

theorem null_list_empty :
    ¬∀ library upstream cursor page, listServers library upstream cursor = .ok page →
      Truthful library upstream page := by
  intro truthful
  have null : NullData nullUpstream.list := by
    refine ⟨200, _, text "null", rfl, by decide, by decide, by decide, ?_, ?_⟩
    · decide +kernel
    · rfl
  exact null_untruthful null (truthful plainLibrary nullUpstream)

end NodeAtlas.Adapters.VirtFusion
