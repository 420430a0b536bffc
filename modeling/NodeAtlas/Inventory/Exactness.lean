import NodeAtlas.Interleaving.Traces
import NodeAtlas.Inventory.Replacement
import NodeAtlas.Inventory.Sync

/-! A synchronization changes the servers table in its transaction alone, and
there as the pages say. -/

set_option autoImplicit false

namespace NodeAtlas.Inventory

open Interleaving Providers

/-! ## What the provider said -/

def listing : SyncEvent → Option (Option GoString × ServerPage)
  | ⟨.listServers cursor, .ok page⟩ => some (cursor, page)
  | _ => none

def portalAnswer : SyncEvent → Option (Option URL)
  | ⟨.portalURL _, .ok target⟩ => some target
  | _ => none

def generatedID : SyncEvent → Option GoString
  | ⟨.newID, id⟩ => some id
  | _ => none

/-- A transaction that was committed. -/
def commits : SyncEvent → Bool
  | ⟨.applyCompleteSync _, .ok ()⟩ => true
  | _ => false

/-- The pages, each asked for with the cursor of the one before, up to the one
without a next cursor. -/
def Chained : Option GoString → List (Option GoString × ServerPage) → Prop
  | _, [] => False
  | cursor, (asked, page) :: rest =>
      asked = cursor ∧
        match page.next with
        | none => rest = []
        | some next => Chained (some next) rest

/-- A server as it stands in a page, with the answer about its portal if the
provider was asked for one. -/
abbrev Sighting := RemoteServer × Option (Option URL)

/-- The servers of all pages, in order, with the answers about their portals. -/
structure Sighted (events : List SyncEvent) (sightings : List Sighting) : Prop where
  servers : sightings.map (·.1) = (events.filterMap listing).flatMap fun listed => listed.2.servers
  portals : sightings.filterMap (·.2) = events.filterMap portalAnswer
  asked : ∀ sighting ∈ sightings, sighting.2.isSome = sighting.1.capabilities.hasProviderPortal.available

/-- The portal that is stored for an answer. -/
def PortalOf (providerType : GoString) (answer : Option (Option URL)) (portalURL : Option GoString) : Prop :=
  match answer with
  | none => portalURL = none
  | some target => ∃ value, normalizePortalURL providerType target = .ok value ∧ portalURL = some value

/-- The server that a sighting is stored as. -/
structure Normal (connection : ConnectionRow) (completedAt : Instant) (sighting : Sighting)
    (server : IndexedServer) : Prop where
  connectionID : server.connectionID = connection.id
  externalID : server.externalID = sighting.1.externalID
  scope : server.scope = sighting.1.scope
  name : server.name = sighting.1.name
  state : server.state = if validState sighting.1.state then sighting.1.state else .unknown
  remoteState : server.remoteState = sighting.1.remoteState
  spec : server.spec = sighting.1.spec
  addresses : server.addresses = sighting.1.addresses
  capabilities : server.capabilities = .ok sighting.1.capabilities
  portalURL : PortalOf connection.providerType sighting.2 server.portalURL
  lastSeenAt : server.lastSeenAt = completedAt
  lastStateCheckedAt : server.lastStateCheckedAt = completedAt
  createdAt : server.createdAt = completedAt
  updatedAt : server.updatedAt = completedAt

/-- What has been read so far, first call first: the pages, the answers about
portals and the generated ids. -/
structure Reads (earlier events : List SyncEvent) (pages : List (Option GoString × ServerPage))
    (portals : List (Option URL)) (ids : List GoString) : Prop where
  listed : events.reverse.filterMap listing = earlier.reverse.filterMap listing ++ pages
  answered : events.reverse.filterMap portalAnswer = earlier.reverse.filterMap portalAnswer ++ portals
  generated : events.reverse.filterMap generatedID = earlier.reverse.filterMap generatedID ++ ids
  uncommitted : (∀ event ∈ earlier, commits event = false) → ∀ event ∈ events, commits event = false

/-- The servers that were read so far, and the cursor that was come to. -/
structure Gathered (connection : ConnectionRow) (completedAt : Instant) (events : List SyncEvent)
    (servers : List IndexedServer) (cursor : Option GoString) : Prop where
  sighted : ∃ sightings, Sighted events.reverse sightings ∧
    List.Forall₂ (Normal connection completedAt) sightings servers
  generated : servers.map (·.id) = events.reverse.filterMap generatedID
  chained : ∀ rest, Chained cursor rest → Chained none (events.reverse.filterMap listing ++ rest)
  uncommitted : ∀ event ∈ events, commits event = false

/-- How a synchronization ends: either nothing was committed, or the last call
committed all that was gathered. -/
def Ended (db : Database) (connectionID : GoString) (events : List SyncEvent) :
    Except GoError Unit → Prop
  | .error _ => ∀ event ∈ events, commits event = false
  | .ok () => ∃ connection completedAt servers earlier,
      events = ⟨.applyCompleteSync ⟨connection.id, completedAt, servers⟩, .ok ()⟩ :: earlier ∧
        (∀ event ∈ earlier, commits event = false) ∧ db.same connection.id connectionID = true ∧
        Chained none (earlier.reverse.filterMap listing) ∧
        (∃ sightings, Sighted earlier.reverse sightings ∧
          List.Forall₂ (Normal connection completedAt) sightings servers) ∧
        servers.map (·.id) = earlier.reverse.filterMap generatedID

/-- A connection is found by its id. -/
def Fits (db : Database) : SyncEvent → Prop
  | ⟨.findConnection id, .ok connection⟩ => db.same connection.id id = true
  | _ => True

abbrev Kept {α : Type} (db : Database) (closing : List SyncEvent → α → Prop) (earlier : List SyncEvent)
    (program : SyncProcess α) : Prop :=
  program.Audited (Fits db) (fun _ _ => True) closing earlier

section Programs

variable {db : Database} {connection : ConnectionRow} {completedAt : Instant} {earlier events : List SyncEvent}

theorem Reads.refl (earlier : List SyncEvent) : Reads earlier earlier [] [] [] where
  listed := (List.append_nil _).symm
  answered := (List.append_nil _).symm
  generated := (List.append_nil _).symm
  uncommitted := id

theorem Reads.trans {middle : List SyncEvent} {pages morePages : List (Option GoString × ServerPage)}
    {portals morePortals : List (Option URL)} {ids moreIDs : List GoString}
    (first : Reads earlier middle pages portals ids) (second : Reads middle events morePages morePortals moreIDs) :
    Reads earlier events (pages ++ morePages) (portals ++ morePortals) (ids ++ moreIDs) where
  listed := by rw [second.listed, first.listed, List.append_assoc]
  answered := by rw [second.answered, first.answered, List.append_assoc]
  generated := by rw [second.generated, first.generated, List.append_assoc]
  uncommitted := fun none => second.uncommitted (first.uncommitted none)

theorem Reads.call (earlier : List SyncEvent) (event : SyncEvent) (uncommitted : commits event = false) :
    Reads earlier (event :: earlier) (listing event).toList (portalAnswer event).toList
      (generatedID event).toList where
  listed := by cases found : listing event <;> simp [List.filterMap_append, found]
  answered := by cases found : portalAnswer event <;> simp [List.filterMap_append, found]
  generated := by cases found : generatedID event <;> simp [List.filterMap_append, found]
  uncommitted := fun none => List.forall_mem_cons.mpr ⟨uncommitted, none⟩

/-- A call that is neither about a page nor about a server of one. -/
theorem Reads.skip {start : List SyncEvent} (reads : Reads start earlier [] [] []) (event : SyncEvent)
    (plain : listing event = none ∧ portalAnswer event = none ∧ generatedID event = none ∧
      commits event = false) : Reads start (event :: earlier) [] [] [] := by
  simpa [plain.1, plain.2.1, plain.2.2.1] using reads.trans (Reads.call earlier event plain.2.2.2)

private theorem recordFailure_kept (connectionID : GoString) (syncErr : GoError)
    (uncommitted : ∀ event ∈ earlier, commits event = false) :
    Kept db (Ended db connectionID) earlier (recordFailure connection.id syncErr) := by
  intro testedAt _
  refine ⟨trivial, ?_⟩
  intro updated _
  refine ⟨trivial, ?_⟩
  cases updated <;>
    exact List.forall_mem_cons.mpr ⟨rfl, List.forall_mem_cons.mpr ⟨rfl, uncommitted⟩⟩

private theorem portalFor_kept (providerType : GoString) (remote : RemoteServer)
    (uncommitted : ∀ event ∈ earlier, commits event = false) :
    Kept db (fun events result => (∀ event ∈ events, commits event = false) ∧
      ∀ portalURL, result = .ok portalURL →
        ∃ answer, answer.isSome = remote.capabilities.hasProviderPortal.available ∧
          Reads earlier events [] answer.toList [] ∧ PortalOf providerType answer portalURL) earlier
      (portalFor providerType remote) := by
  unfold portalFor
  split
  · next unavailable =>
      refine ⟨uncommitted, fun portalURL same => ?_⟩
      cases same
      exact ⟨none, unavailable.symm, .refl earlier, rfl⟩
  · next available =>
      intro target _
      refine ⟨trivial, ?_⟩
      have more : ∀ event ∈ ⟨.portalURL ⟨remote.externalID, remote.scope⟩, target⟩ :: earlier,
          commits event = false := List.forall_mem_cons.mpr ⟨rfl, uncommitted⟩
      cases target with
      | error failure =>
          refine ⟨more, fun portalURL impossible => ?_⟩
          cases impossible
      | ok target =>
          dsimp only [Program.bind]
          split
          · refine ⟨more, fun portalURL impossible => ?_⟩
            cases impossible
          · next value normalized =>
              refine ⟨more, fun portalURL same => ?_⟩
              cases same
              refine ⟨some target, ?_, Reads.call earlier _ rfl, value, normalized, rfl⟩
              simpa using available

private theorem normalizeServer_kept (connection : ConnectionRow) (remote : RemoteServer)
    (uncommitted : ∀ event ∈ earlier, commits event = false) :
    Kept db (fun events result => (∀ event ∈ events, commits event = false) ∧
      ∀ server, result = .ok server →
        ∃ answer, answer.isSome = remote.capabilities.hasProviderPortal.available ∧
          Reads earlier events [] answer.toList [server.id] ∧
          Normal connection completedAt (remote, answer) server) earlier
      (normalizeServer connection.id connection.providerType remote completedAt) := by
  unfold normalizeServer
  split
  · refine ⟨uncommitted, fun server impossible => ?_⟩
    cases impossible
  · apply Program.Audited.bind (portalFor_kept connection.providerType remote uncommitted)
    intro events result answered
    cases result with
    | error failure =>
        refine ⟨answered.1, fun server impossible => ?_⟩
        cases impossible
    | ok portalURL =>
        obtain ⟨answer, asked, reads, portal⟩ := answered.2 portalURL rfl
        intro id _
        refine ⟨trivial, List.forall_mem_cons.mpr ⟨rfl, answered.1⟩, fun server same => ?_⟩
        cases same
        refine ⟨answer, asked, ?_, ?_⟩
        · simpa [listing, portalAnswer, generatedID] using reads.trans (Reads.call events ⟨.newID, id⟩ rfl)
        · exact ⟨rfl, rfl, rfl, rfl, rfl, rfl, rfl, rfl, rfl, portal, rfl, rfl, rfl, rfl⟩

private theorem normalizeAll_kept (connection : ConnectionRow) (remotes : List RemoteServer)
    (uncommitted : ∀ event ∈ earlier, commits event = false) :
    Kept db (fun events result => (∀ event ∈ events, commits event = false) ∧
      ∀ servers, result = .ok servers →
        ∃ sightings : List Sighting, sightings.map (·.1) = remotes ∧
          (∀ sighting ∈ sightings,
            sighting.2.isSome = sighting.1.capabilities.hasProviderPortal.available) ∧
          Reads earlier events [] (sightings.filterMap (·.2)) (servers.map (·.id)) ∧
          List.Forall₂ (Normal connection completedAt) sightings servers) earlier
      (normalizeAll connection.id connection.providerType completedAt remotes) := by
  induction remotes generalizing earlier with
  | nil =>
      refine ⟨uncommitted, fun servers same => ?_⟩
      cases same
      exact ⟨[], rfl, List.forall_mem_nil _, Reads.refl earlier, List.Forall₂.nil⟩
  | cons remote rest ih =>
      apply Program.Audited.bind (normalizeServer_kept connection remote uncommitted)
      intro middle result normalized
      cases result with
      | error failure =>
          refine ⟨normalized.1, fun servers impossible => ?_⟩
          cases impossible
      | ok server =>
          obtain ⟨answer, asked, reads, normal⟩ := normalized.2 server rfl
          apply Program.Audited.bind (ih normalized.1)
          intro events result all
          cases result with
          | error failure =>
              refine ⟨all.1, fun servers impossible => ?_⟩
              cases impossible
          | ok servers =>
              refine ⟨all.1, fun others same => ?_⟩
              cases same
              obtain ⟨sightings, remotes, askedAll, readsAll, normals⟩ := all.2 servers rfl
              refine ⟨(remote, answer) :: sightings, ?_, ?_, ?_, .cons normal normals⟩
              · rw [List.map_cons, remotes]
              · exact List.forall_mem_cons.mpr ⟨asked, askedAll⟩
              · cases answer <;> simpa using reads.trans readsAll

/-- A page is gathered once all its servers are. -/
private theorem Gathered.page {servers more : List IndexedServer} {cursor : Option GoString} {page : ServerPage}
    {sightings : List Sighting} (gathered : Gathered connection completedAt earlier servers cursor)
    (reads : Reads (⟨.listServers cursor, .ok page⟩ :: earlier) events [] (sightings.filterMap (·.2))
      (more.map (·.id)))
    (remotes : sightings.map (·.1) = page.servers)
    (asked : ∀ sighting ∈ sightings, sighting.2.isSome = sighting.1.capabilities.hasProviderPortal.available)
    (normals : List.Forall₂ (Normal connection completedAt) sightings more) :
    (∃ all, Sighted events.reverse all ∧ List.Forall₂ (Normal connection completedAt) all (servers ++ more)) ∧
      (servers ++ more).map (·.id) = events.reverse.filterMap generatedID ∧
      events.reverse.filterMap listing = earlier.reverse.filterMap listing ++ [(cursor, page)] := by
  have whole : Reads earlier events [(cursor, page)] (sightings.filterMap (·.2)) (more.map (·.id)) := by
    simpa [listing, portalAnswer, generatedID] using
      (Reads.call earlier ⟨.listServers cursor, .ok page⟩ rfl).trans reads
  obtain ⟨former, sighted, formerNormals⟩ := gathered.sighted
  refine ⟨⟨former ++ sightings, ⟨?_, ?_, ?_⟩, List.rel_append formerNormals normals⟩, ?_, whole.listed⟩
  · rw [List.map_append, sighted.servers, remotes, whole.listed, List.flatMap_append]
    simp
  · rw [List.filterMap_append, sighted.portals, whole.answered]
  · intro sighting member
    cases List.mem_append.mp member with
    | inl member => exact sighted.asked sighting member
    | inr member => exact asked sighting member
  · rw [List.map_append, gathered.generated, whole.generated]

private theorem syncPages_kept {connectionID : GoString} (named : db.same connection.id connectionID = true)
    (pages : Nat) {servers : List IndexedServer} {cursor : Option GoString}
    (gathered : Gathered connection completedAt earlier servers cursor) :
    Kept db (Ended db connectionID) earlier (syncPages connection completedAt pages servers cursor) := by
  induction pages generalizing earlier servers cursor with
  | zero => exact recordFailure_kept connectionID _ gathered.uncommitted
  | succ pages ih =>
      intro page _
      refine ⟨trivial, ?_⟩
      have uncommitted : ∀ event ∈ ⟨.listServers cursor, page⟩ :: earlier, commits event = false :=
        List.forall_mem_cons.mpr ⟨rfl, gathered.uncommitted⟩
      cases page with
      | error failure => exact recordFailure_kept connectionID failure uncommitted
      | ok page =>
          dsimp only [Program.bind]
          split
          · exact recordFailure_kept connectionID _ uncommitted
          · apply Program.Audited.bind (normalizeAll_kept connection page.servers uncommitted)
            intro events result normalized
            cases result with
            | error failure => exact recordFailure_kept connectionID failure normalized.1
            | ok more =>
                obtain ⟨sightings, remotes, asked, reads, normals⟩ := normalized.2 more rfl
                obtain ⟨sighted, generated, listed⟩ := gathered.page reads remotes asked normals
                dsimp only
                split
                · next last =>
                    intro applied _
                    refine ⟨trivial, ?_⟩
                    cases applied with
                    | error failure => exact List.forall_mem_cons.mpr ⟨rfl, normalized.1⟩
                    | ok =>
                        refine ⟨connection, completedAt, servers ++ more, events, rfl, normalized.1, named, ?_,
                          sighted, generated⟩
                        rw [listed]
                        apply gathered.chained
                        exact ⟨rfl, by rw [last]⟩
                · next next more' =>
                    apply ih
                    refine ⟨sighted, generated, fun rest chained => ?_, normalized.1⟩
                    rw [listed, List.append_assoc]
                    apply gathered.chained
                    exact ⟨rfl, by rw [more']; exact chained⟩

private theorem syncConnection_kept (db : Database) (connectionID : GoString) :
    Kept db (Ended db connectionID) [] (syncConnection connectionID) := by
  intro found fits
  refine ⟨trivial, ?_⟩
  have asked : Reads [] [⟨.findConnection connectionID, found⟩] [] [] [] := (Reads.refl []).skip _ ⟨rfl, rfl, rfl, rfl⟩
  have uncommitted := asked.uncommitted (List.forall_mem_nil _)
  cases found with
  | error failure => exact uncommitted
  | ok connection =>
      dsimp only [Program.bind]
      split
      · exact uncommitted
      · intro plaintext _
        refine ⟨trivial, ?_⟩
        have decrypted := asked.skip ⟨.decrypt connection.toConnection, plaintext⟩ ⟨rfl, rfl, rfl, rfl⟩
        cases plaintext with
        | error failure => exact decrypted.uncommitted (List.forall_mem_nil _)
        | ok plaintext =>
            intro created _
            refine ⟨trivial, ?_⟩
            have provided := decrypted.skip ⟨.createProvider ⟨connection.id, connection.providerType,
              connection.endpoint, connection.settings, plaintext⟩, created⟩ ⟨rfl, rfl, rfl, rfl⟩
            cases created with
            | error failure =>
                exact recordFailure_kept connectionID failure (provided.uncommitted (List.forall_mem_nil _))
            | ok =>
                intro validated _
                refine ⟨trivial, ?_⟩
                have checked := provided.skip ⟨.validateConnection, validated⟩ ⟨rfl, rfl, rfl, rfl⟩
                cases validated with
                | error failure =>
                    exact recordFailure_kept connectionID failure (checked.uncommitted (List.forall_mem_nil _))
                | ok =>
                    intro completedAt _
                    refine ⟨trivial, ?_⟩
                    have timed := checked.skip ⟨.now, completedAt⟩ ⟨rfl, rfl, rfl, rfl⟩
                    apply syncPages_kept fits
                    refine ⟨⟨[], ⟨?_, ?_, List.forall_mem_nil _⟩, .nil⟩, ?_, ?_, ?_⟩
                    · rw [timed.listed]
                      rfl
                    · rw [timed.answered]
                      rfl
                    · rw [timed.generated]
                      rfl
                    · intro rest chained
                      rw [timed.listed]
                      exact chained
                    · exact timed.uncommitted (List.forall_mem_nil _)

end Programs

section Runs

variable {db : Database}

abbrev SyncMoment (db : Database) := Moment SyncCall SyncCall.Reply (Tables db)

/-- The call leaves the servers table as it finds it. -/
def Untouched (moment : SyncMoment db) : Prop :=
  ∀ choice after, performSync moment.event.call choice moment.state = some (moment.event.reply, after) →
    after.servers = moment.state.servers

/-- No generated id is one that the table has or that was generated before. -/
def FreshIDs (moments : List (SyncMoment db)) : Prop :=
  (moments.filterMap fun moment => generatedID moment.event).Pairwise (fun left right => db.same left right = false) ∧
    ∀ moment ∈ moments, ∀ row ∈ moment.state.servers.rows,
      ∀ id ∈ moments.filterMap (fun moment => generatedID moment.event), db.same row.id id = false

instance (moments : List (SyncMoment db)) : Decidable (FreshIDs moments) :=
  inferInstanceAs (Decidable (_ ∧ _))

private theorem perform_fits {call : SyncCall} {choice : SyncChoice} {tables after : Tables db}
    {reply : call.Reply} (answered : performSync call choice tables = some (reply, after)) :
    Fits db ⟨call, reply⟩ := by
  cases call
  case findConnection id =>
    cases choice with
    | reply replies => cases answered
    | statements fails =>
        have replied := congrArg Prod.fst (Option.some.inj answered)
        dsimp only at replied
        subst replied
        split
        · trivial
        · split
          · next row located =>
              have named := List.find?_some located
              rw [present, Bool.and_eq_true] at named
              exact named.1
          · trivial
  all_goals trivial

private theorem untouched_uncommitted {moment : SyncMoment db} (uncommitted : commits moment.event = false) :
    Untouched moment := by
  obtain ⟨found, request, reply⟩ := moment
  intro choice after answered
  cases request
  case applyCompleteSync snapshot =>
    cases choice with
    | reply replies => cases answered
    | statements fails =>
        cases reply with
        | ok => cases uncommitted
        | error failure => rw [applyCompleteSync_failed (Option.some.inj answered)]
  case updateHealth id status code message testedAt =>
    cases choice with
    | reply replies => cases answered
    | statements fails =>
        have left := congrArg (fun result => result.2.servers) (Option.some.inj answered)
        dsimp only at left
        rw [← left]
        split
        · rfl
        · rfl
  all_goals
    cases choice with
    | statements fails =>
        first
        | exact (congrArg (fun result => result.2.servers) (Option.some.inj answered)).symm
        | cases answered
    | reply replies =>
        first
        | exact (congrArg (fun result => result.2.servers) (Option.some.inj answered)).symm
        | cases answered

/-- The others leave the servers table alone. -/
def Still (others : Tables db → Tables db → Prop) : Prop :=
  ∀ before after, others before after → after.servers = before.servers

/-- Whatever the provider says and whatever others do to the tables meanwhile:
a synchronization that returns an error has left the servers as they were, and
one that returns nil has, in its last call, made of the rows that it found there
what the pages say. -/
theorem sync_exact (db : Database) (connectionID : GoString) (others : Tables db → Tables db → Prop)
    (tables final : Tables db) (moments : List (SyncMoment db)) (result : Except GoError Unit)
    (run : Program.Traces performSync others (syncConnection connectionID) tables moments (.done result) final)
    (fresh : FreshIDs moments) :
    match result with
    | .error _ =>
        (∀ moment ∈ moments, Untouched moment) ∧ (Still others → final.servers = tables.servers)
    | .ok () => ∃ earlier found connection completedAt servers sightings,
        moments = earlier ++ [⟨found, ⟨.applyCompleteSync ⟨connection.id, completedAt, servers⟩, .ok ()⟩⟩] ∧
        (∀ moment ∈ earlier, Untouched moment) ∧ (Still others → found.servers = tables.servers) ∧
        Chained none (earlier.filterMap fun moment => listing moment.event) ∧
        Sighted (earlier.map (·.event)) sightings ∧
        List.Forall₂ (Normal connection completedAt) sightings servers ∧
        Replaced db connectionID found.servers.rows servers final.servers.rows := by
  obtain ⟨_, ended⟩ := Program.Audited.traces (syncConnection_kept db connectionID)
    (fun _ _ _ _ _ answered => perform_fits answered) trivial run
  rw [List.append_nil] at ended
  cases result with
  | error failure =>
      have untouched : ∀ moment ∈ moments, Untouched moment := fun moment member =>
        untouched_uncommitted (ended moment.event (List.mem_reverse.mpr (List.mem_map_of_mem member)))
      refine ⟨untouched, fun still => ?_⟩
      exact run.unchanged still untouched
  | ok =>
      obtain ⟨connection, completedAt, servers, events, last, uncommitted, named, chained,
        ⟨sightings, sighted, normals⟩, generated⟩ := ended
      rw [List.reverse_eq_iff, List.reverse_cons, List.map_eq_append_iff] at last
      obtain ⟨earlier, final', rfl, same, single⟩ := last
      obtain ⟨⟨found, event⟩, rfl, rfl⟩ := List.map_eq_singleton_iff.mp single
      have untouched : ∀ moment ∈ earlier, Untouched moment := fun moment member => by
        apply untouched_uncommitted
        apply uncommitted
        rw [← List.mem_reverse, ← same]
        exact List.mem_map_of_mem member
      rw [← same] at chained sighted generated
      rw [List.filterMap_map] at chained generated
      refine ⟨earlier, found, connection, completedAt, servers, sightings, rfl, untouched, ?_, chained, sighted,
        normals, ?_⟩
      · intro still
        obtain ⟨_, between, former, changed⟩ := Program.Traces.before run
        rw [still _ _ changed]
        exact former.unchanged still untouched
      · obtain ⟨choice, applied⟩ := run.last
        have distinct : Distinct db found.servers.rows servers := by
          obtain ⟨apart, new⟩ := fresh
          have ids (last : SyncMoment db) (silent : generatedID last.event = none) :
              (earlier ++ [last]).filterMap (fun moment => generatedID moment.event) = servers.map (·.id) := by
            have nothing : [last].filterMap (fun moment => generatedID moment.event) = [] := by
              simp [silent]
            rw [List.filterMap_append, nothing, List.append_nil]
            exact generated.symm
          rw [ids _ rfl] at apart new
          constructor
          · intro row member server listed
            exact new _ (List.mem_append_right _ List.mem_cons_self) row member _ (List.mem_map_of_mem listed)
          · exact List.pairwise_map.mp apart
        cases choice with
        | reply replies => cases applied
        | statements fails =>
            exact (applyCompleteSync_replaced distinct (Option.some.inj applied)).congr named

end Runs

/-! ## Two pages -/

def listed (externalID name : GoString) : RemoteServer :=
  let none : Capability := ⟨false, []⟩
  ⟨externalID, text "zone", name, .running, text "RUNNING", text "{}", text "[]",
    ⟨none, none, none, none, none, none⟩⟩

/-- A provider whose second page lists a server of the first again. -/
def syncReplies (id : GoString) : (call : SyncCall) → call.Reply
  | .findConnection _ => .error (.sentinel .connectionNotFound)
  | .decrypt _ => .ok (text "secret")
  | .createProvider _ | .validateConnection | .applyCompleteSync _ | .updateHealth _ _ _ _ _ => .ok ()
  | .now => 100
  | .listServers none => .ok ⟨[listed (text "a") (text "one"), listed (text "b") (text "two")], some (text "next")⟩
  | .listServers (some _) => .ok ⟨[listed (text "a") (text "renamed")], none⟩
  | .portalURL _ => .ok none
  | .newID => id

def row (id connectionID externalID : GoString) (hiddenAt : Option Instant) : IndexRow :=
  let none : Capability := ⟨false, []⟩
  { id, connectionID, externalID, scope := text "zone", name := text "old", state := .stopped, remoteState := []
    spec := text "{}", addresses := text "[]", capabilities := .ok ⟨none, none, none, none, none, none⟩
    portalURL := .none, lastSeenAt := 1, lastStateCheckedAt := 1, createdAt := 1, updatedAt := 1, hiddenAt }

/-- A hidden server that comes back, one that has gone, and one of another
connection. -/
def indexed : Tables (.plain .sqlite) where
  connections :=
    [{ id := text "connection", providerType := text "mock", endpoint := [], settings := text "{}", ciphertext := []
       nonce := [], keyVersion := 1, enabled := true, health := ⟨text "unknown", none, none, [], [], 0⟩
       deletedAt := none }]
  servers :=
    ⟨[row (text "1") (text "connection") (text "a") (some 2), row (text "2") (text "connection") (text "c") none,
      row (text "3") (text "other") (text "a") none], by decide⟩

def synced : Option (List (SyncMoment (.plain .sqlite)) × Except GoError Unit × Tables (.plain .sqlite)) :=
  (syncConnection (text "connection")).execute performSync
    ([.statements fun _ => none] ++ List.replicate 6 (.reply (syncReplies (text "4"))) ++
      [.reply (syncReplies (text "5")), .reply (syncReplies (text "5")), .reply (syncReplies (text "6")),
        .statements fun _ => none]) indexed

/-- Nobody else writes. -/
def idle (before after : Tables (.plain .sqlite)) : Prop := after = before

theorem sync_exact_pages : ∃ moments final earlier found connection completedAt servers sightings,
    synced = some (moments, .ok (), final) ∧
    final.servers.rows.map (fun row => (row.id, row.name, row.hiddenAt)) =
      [(text "1", text "renamed", none), (text "2", text "old", some 100), (text "3", text "old", none),
        (text "5", text "two", none)] ∧
    moments = earlier ++ [⟨found, ⟨.applyCompleteSync ⟨connection.id, completedAt, servers⟩, .ok ()⟩⟩] ∧
    (∀ moment ∈ earlier, Untouched moment) ∧ (Still idle → found.servers = indexed.servers) ∧
    Chained none (earlier.filterMap fun moment => listing moment.event) ∧
    Sighted (earlier.map (·.event)) sightings ∧
    List.Forall₂ (Normal connection completedAt) sightings servers ∧
    Replaced (.plain .sqlite) (text "connection") found.servers.rows servers final.servers.rows := by
  have executed : synced.map (fun run => run.2.1.isOk && decide (FreshIDs run.1) &&
      decide (run.2.2.servers.rows.map (fun row => (row.id, row.name, row.hiddenAt)) =
        [(text "1", text "renamed", none), (text "2", text "old", some 100), (text "3", text "old", none),
          (text "5", text "two", none)])) = some true := by
    decide
  obtain ⟨⟨moments, result, final⟩, ran, same⟩ := Option.map_eq_some_iff.mp executed
  simp only [Bool.and_eq_true, decide_eq_true_eq] at same
  obtain ⟨⟨succeeded, fresh⟩, rows⟩ := same
  cases result with
  | error failure => cases succeeded
  | ok =>
      have run : Program.Traces performSync idle (syncConnection (text "connection")) indexed moments
          (.done (.ok ())) final :=
        Program.execute_traces (fun _ => rfl) ran
      obtain ⟨earlier, found, connection, completedAt, servers, sightings, rest⟩ :=
        sync_exact (.plain .sqlite) (text "connection") idle indexed final moments (.ok ()) run fresh
      exact ⟨moments, final, earlier, found, connection, completedAt, servers, sightings, ran, rows, rest⟩

end NodeAtlas.Inventory
