import NodeAtlas.Adapters.Contract

/-! Whether the cursors of `ListServers` lead through all pages. -/

set_option autoImplicit false

namespace NodeAtlas.Adapters

open Providers
open Inventory (ServerPage)

/-! ## Feeding the cursors back -/

inductive Ending where
  | complete
  | failed (failure : GoError)
  | unfinished
  deriving DecidableEq

/-- Pages with the cursors that they were asked with, at most so many, until
there is no further one or a call fails. Calls are numbered, for each may find
the upstream changed. -/
def drive (list : Nat → Option GoString → Except GoError ServerPage) :
    Nat → Nat → Option GoString → List (Option GoString × ServerPage) × Ending
  | 0, _, _ => ([], .unfinished)
  | more + 1, call, cursor =>
      match list call cursor with
      | .error failure => ([], .failed failure)
      | .ok page =>
          match page.next with
          | none => ([(cursor, page)], .complete)
          | some next =>
              let (visited, ending) := drive list more (call + 1) (some next)
              ((cursor, page) :: visited, ending)

/-! ## Routes -/

section Routes

variable {Position : Type} (decode : Option GoString → Option Position)
  (list : Nat → Option GoString → Except GoError ServerPage) (fails : Nat → Option GoError)

/-- A page, as long as the call does not fail. -/
def granted (call : Nat) (page : ServerPage) : Except GoError ServerPage :=
  match fails call with
  | some failure => .error failure
  | none => .ok page

/-- Stops of which each leads to the next one and only the last to none: however
a stop is written as a cursor, the reply has its servers. -/
inductive Route : List (Position × List RemoteServer) → Prop where
  | last {position : Position} {servers : List RemoteServer} :
      (∀ call cursor, decode cursor = some position → list call cursor = granted fails call ⟨servers, none⟩) →
      Route [(position, servers)]
  | more {position following : Position} {servers others : List RemoteServer} {next : GoString}
      {rest : List (Position × List RemoteServer)} :
      (∀ call cursor, decode cursor = some position →
        list call cursor = granted fails call ⟨servers, some next⟩) →
      decode (some next) = some following → Route ((following, others) :: rest) →
      Route ((position, servers) :: (following, others) :: rest)

/-- The stops, from a call on, up to the first call that fails. -/
def reached : Nat → List (Position × List RemoteServer) → List (Position × List RemoteServer) × Ending
  | _, [] => ([], .complete)
  | call, stop :: rest =>
      match fails call with
      | some failure => ([], .failed failure)
      | none =>
          let (stops, ending) := reached (call + 1) rest
          (stop :: stops, ending)

/-- What was visited, as positions. -/
def positions (visited : List (Option GoString × ServerPage)) : List (Option Position × List RemoteServer) :=
  visited.map fun (cursor, page) => (decode cursor, page.servers)

variable {decode list fails}

/-- A route is followed stop by stop to its end. -/
theorem Route.drive {stops : List (Position × List RemoteServer)} (route : Route decode list fails stops)
    (fuel call : Nat) (cursor : Option GoString) (enough : stops.length ≤ fuel)
    (start : decode cursor = stops.head?.map Prod.fst) :
    positions decode (drive list fuel call cursor).1 =
        (reached fails call stops).1.map (fun stop => (some stop.1, stop.2)) ∧
      (drive list fuel call cursor).2 = (reached fails call stops).2 := by
  induction route generalizing fuel call cursor with
  | last listed =>
      obtain ⟨less, rfl⟩ : ∃ less, fuel = less + 1 := ⟨fuel - 1, by simp at enough; omega⟩
      have reply := listed call cursor start
      cases fate : fails call with
      | some failure => simp [Adapters.drive, reply, granted, fate, reached, positions]
      | none => simpa [Adapters.drive, reply, granted, fate, reached, positions] using start
  | @more position following servers others next rest listed leads _ ih =>
      obtain ⟨less, rfl⟩ : ∃ less, fuel = less + 1 := ⟨fuel - 1, by simp at enough; omega⟩
      have reply := listed call cursor start
      cases fate : fails call with
      | some failure => simp [Adapters.drive, reply, granted, fate, reached, positions]
      | none =>
          have shorter : ((following, others) :: rest).length ≤ less := by simpa using enough
          obtain ⟨visited, ended⟩ := ih less (call + 1) (some next) shorter leads
          have begins : decode cursor = some position := start
          rw [Adapters.drive, reply]
          simp only [granted, fate, positions, List.map_cons] at visited ended ⊢
          rw [reached]
          simp only [fate, List.map_cons, List.cons.injEq, begins, true_and]
          exact ⟨visited, ended⟩

/-- Either no call fails and every stop is reached, or the first call that
fails is the end. -/
theorem reached_cases (fails : Nat → Option GoError) (call : Nat) (stops : List (Position × List RemoteServer)) :
    reached fails call stops = (stops, .complete) ∨
      ∃ count failure, count < stops.length ∧ fails (call + count) = some failure ∧
        reached fails call stops = (stops.take count, .failed failure) := by
  induction stops generalizing call with
  | nil => exact .inl rfl
  | cons stop rest ih =>
      cases fate : fails call with
      | some failure =>
          right
          exact ⟨0, failure, by simp, fate, by simp [reached, fate]⟩
      | none =>
          rcases ih (call + 1) with whole | ⟨count, failure, within, failed, part⟩
          · left
            simp [reached, fate, whole]
          · right
            refine ⟨count + 1, failure, by simpa using within, ?_, by simp [reached, fate, part]⟩
            rw [← failed]
            congr 1
            omega

end Routes

/-! ## AWS -/

namespace AWS

/-- What a region has to list: a first page, and pages behind tokens. The XML
that the SDK reads has no tokens that are not UTF-8. -/
structure Chain where
  first : List (List Instance)
  rest : List (GoString × List (List Instance))
  last : Option GoString
  last_empty : toString last = []
  distinct : (rest.map Prod.fst).Nodup
  texts : ∀ link ∈ rest, link.1 ≠ [] ∧ UTF8.repair link.1 = link.1

namespace Chain

variable (chain : Chain)

/-- The token that comes with a page is that of the page behind it. -/
def following : List (GoString × List (List Instance)) → Option GoString
  | [] => chain.last
  | (token, _) :: _ => some token

def under (token : GoString) : List (GoString × List (List Instance)) → Option Output
  | [] => none
  | (own, reservations) :: rest =>
      if own = token then some ⟨reservations, chain.following rest⟩ else under token rest

def answer : Option GoString → Option Output
  | none => some ⟨chain.first, chain.following chain.rest⟩
  | some token => chain.under token chain.rest

/-- All pages in their order. -/
def pages : List (GoString × List (List Instance)) := ([], chain.first) :: chain.rest

end Chain

/-- `DescribeInstances` of the client of a region, which fails or answers from
what the region has. -/
def describe (chains : GoString → Chain) (fate : Option APIFailure) (region : GoString)
    (token : Option GoString) : Except APIFailure Output :=
  match fate with
  | some failure => .error failure
  | none =>
      match (chains region).answer token with
      | some output => .ok output
      | none => .error (.api (text "InvalidParameterValue"))

/-- All pages of all regions, from a region on. -/
def stopsFrom (chains : GoString → Chain) : Nat → List GoString → List (Position × List RemoteServer)
  | _, [] => []
  | index, region :: regions =>
      ((chains region).pages.map fun (token, reservations) =>
        (⟨index, token⟩, flattenInstances reservations region)) ++ stopsFrom chains (index + 1) regions

variable {others : GoString → Option Position} {regions : List GoString} {chains : GoString → Chain}
  {fates : Nat → Option APIFailure}

private theorem under_link {chain : Chain} {before rest : List (GoString × List (List Instance))}
    {token : GoString} {reservations : List (List Instance)}
    (parts : chain.rest = before ++ (token, reservations) :: rest) :
    chain.answer (some token) = some ⟨reservations, chain.following rest⟩ := by
  have distinct := chain.distinct
  rw [Chain.answer, parts]
  rw [parts] at distinct
  clear parts
  induction before with
  | nil => simp [Chain.under]
  | cons earlier more ih =>
      rw [List.cons_append, List.map_cons, List.nodup_cons] at distinct
      have other : earlier.1 ≠ token := by
        rintro rfl
        exact distinct.1 (by simp)
      rw [List.cons_append, Chain.under, if_neg other]
      exact ih distinct.2

/-- The cursor behind a page. -/
private def cursorAfter (regions : List GoString) (index : Nat) (next : Option GoString) : Option GoString :=
  if toString next = [] then
    if index + 1 < regions.length then some (encodeCursor ⟨(index + 1 : Nat), []⟩) else none
  else some (encodeCursor ⟨index, toString next⟩)

private theorem listServers_at (fates : Nat → Option APIFailure) (call : Nat) {index : Nat} {token : GoString}
    {next cursor : Option GoString} {reservations : List (List Instance)} (inside : index < regions.length)
    (read : decodeCursor others cursor = some ⟨index, token⟩)
    (answered : (chains (regions.getD index [])).answer (if token ≠ [] then some token else none) =
      some ⟨reservations, next⟩) :
    listServers others regions (describe chains (fates call)) cursor =
      granted (fun call => (fates call).map classifyError) call
        ⟨flattenInstances reservations (regions.getD index []), cursorAfter regions index next⟩ := by
  have bounds : ¬ ((index : Int) < 0 ∨ (regions.length : Int) ≤ (index : Int)) := by omega
  unfold listServers
  rw [read]
  simp only [bounds, if_false, Int.toNat_natCast]
  cases fate : fates call with
  | some failure => simp [describe, granted, fate]
  | none =>
      simp only [describe, answered, granted, fate, Option.map_none, Except.ok.injEq,
        Inventory.ServerPage.mk.injEq, true_and]
      unfold cursorAfter
      by_cases last : toString next = []
      · by_cases more : index + 1 < regions.length
        · have least : (index : Int) + 1 < regions.length := by omega
          simp [last, more, least]
        · have most : ¬ (index : Int) + 1 < regions.length := by omega
          simp [last, more, most]
      · have least : (index : Int) < regions.length := by omega
        simp [last, least]

/-- The cursors that lead on: within a region, and to the next one. -/
private theorem region_route {index : Nat} {region : GoString} {after : List (Position × List RemoteServer)}
    (here : regions.getD index [] = region) (inside : index < regions.length) (small : regions.length ≤ 32)
    (behind : after = [] ∧ ¬ index + 1 < regions.length ∨
      index + 1 < regions.length ∧ (∃ servers rest, after = (⟨(index + 1 : Nat), []⟩, servers) :: rest) ∧
        Route (decodeCursor others) (fun call => listServers others regions (describe chains (fates call)))
          (fun call => (fates call).map classifyError) after)
    {before rest : List (GoString × List (List Instance))} {token : GoString}
    {reservations : List (List Instance)} (parts : (chains region).rest = before ++ rest)
    (answered : (chains region).answer (if token ≠ [] then some token else none) =
      some ⟨reservations, (chains region).following rest⟩) :
    Route (decodeCursor others) (fun call => listServers others regions (describe chains (fates call)))
      (fun call => (fates call).map classifyError)
      ((((token, reservations) :: rest).map fun (token, reservations) =>
        (⟨index, token⟩, flattenInstances reservations region)) ++ after) := by
  have empty : UTF8.repair [] = [] := rfl
  induction rest generalizing before token reservations with
  | nil =>
      have ends := (chains region).last_empty
      rcases behind with ⟨rfl, none_⟩ | ⟨some_, ⟨servers, rest, rfl⟩, onward⟩
      · apply Route.last
        intro call cursor read
        have listed := listServers_at fates call inside read (by rw [here]; exact answered)
        rw [here] at listed
        simpa [cursorAfter, Chain.following, ends, none_] using listed
      · apply Route.more _ (decodeCursor_encode others (by omega) empty) onward
        intro call cursor read
        have listed := listServers_at fates call inside read (by rw [here]; exact answered)
        rw [here] at listed
        simpa [cursorAfter, Chain.following, ends, some_] using listed
  | cons link rest ih =>
      obtain ⟨own, page⟩ := link
      obtain ⟨nonempty, utf8⟩ := (chains region).texts (own, page) (by rw [parts]; simp)
      have further : (chains region).rest = (before ++ [(own, page)]) ++ rest := by simp [parts]
      have replied : (chains region).answer (if own ≠ [] then some own else none) =
          some ⟨page, (chains region).following rest⟩ := by
        rw [if_pos nonempty]
        exact under_link parts
      have onward := ih further replied
      apply Route.more _ (decodeCursor_encode others (by omega) utf8) onward
      intro call cursor read
      have listed := listServers_at fates call inside read (by rw [here]; exact answered)
      rw [here] at listed
      have given : own ≠ [] := nonempty
      simpa [cursorAfter, Chain.following, given, toString] using listed

private theorem regions_route (others : GoString → Option Position) (chains : GoString → Chain)
    (fates : Nat → Option APIFailure) (small : regions.length ≤ 32) {index : Nat} {suffix : List GoString}
    (parts : regions.drop index = suffix) (some_ : suffix ≠ []) :
    (∃ servers rest, stopsFrom chains index suffix = (⟨index, []⟩, servers) :: rest) ∧
      Route (decodeCursor others) (fun call => listServers others regions (describe chains (fates call)))
        (fun call => (fates call).map classifyError) (stopsFrom chains index suffix) := by
  induction suffix generalizing index with
  | nil => exact absurd rfl some_
  | cons region more ih =>
      have inside : index < regions.length := by
        have sizes := congrArg List.length parts
        rw [List.length_drop, List.length_cons] at sizes
        omega
      have here : regions.getD index [] = region := by
        have found := congrArg (fun list => list[0]?) parts
        simp at found
        simp [found]
      have further : regions.drop (index + 1) = more := by
        rw [← List.tail_drop, parts]
        rfl
      constructor
      · exact ⟨_, _, rfl⟩
      · apply region_route here inside small _ (List.nil_append _).symm rfl
        by_cases last : more = []
        · left
          subst last
          refine ⟨rfl, ?_⟩
          have sizes := congrArg List.length parts
          rw [List.length_drop, List.length_singleton] at sizes
          omega
        · right
          have size : index + 1 < regions.length := by
            have sizes := congrArg List.length further
            have long := List.length_pos_iff.mpr last
            rw [List.length_drop] at sizes
            omega
          exact ⟨size, ih further last⟩

/-- All regions of a provider are listed to their ends. -/
private theorem traversal (others : GoString → Option Position) (chains : GoString → Chain)
    (fates : Nat → Option APIFailure) {library : Library} {configured : List GoString}
    (normalized : normalizeRegions library configured = .ok regions) (fuel : Nat)
    (enough : (stopsFrom chains 0 regions).length ≤ fuel) :
    positions (decodeCursor others)
        (drive (fun call => listServers others regions (describe chains (fates call))) fuel 0 none).1 =
        (reached (fun call => (fates call).map classifyError) 0 (stopsFrom chains 0 regions)).1.map
          (fun stop => (some stop.1, stop.2)) ∧
      (drive (fun call => listServers others regions (describe chains (fates call))) fuel 0 none).2 =
        (reached (fun call => (fates call).map classifyError) 0 (stopsFrom chains 0 regions)).2 := by
  obtain ⟨some_, small⟩ := normalizeRegions_length library normalized
  have nonempty : regions ≠ [] := List.length_pos_iff.mp some_
  have whole : regions.drop 0 = regions := List.drop_zero
  obtain ⟨⟨servers, rest, starts⟩, route⟩ := regions_route others chains fates small whole nonempty
  apply route.drive fuel 0 none enough
  rw [starts]
  rfl

end AWS

/-! ## SolusVM 2 -/

namespace SolusVM2

section Walks

variable (library : Library) (responses : Nat → Int → Except GoError ListResponse)

/-- From a call on, the pages in their order: each is asked for with a cursor
that stands for it, and the last one is the one that its response calls so. -/
inductive Walk : Nat → List (Option GoString × ServerPage) → Ending → Prop where
  | refused {call : Nat} {failure : GoError} :
      responses call (call + 1) = .error failure → Walk call [] (.failed failure)
  | invalid {call : Nat} {response : ListResponse} {failure : GoError} :
      responses call (call + 1) = .ok response → readPage library (call + 1) response = .error failure →
      Walk call [] (.failed failure)
  | last {call : Nat} {cursor : Option GoString} {response : ListResponse} {page : ServerPage} :
      pageOf cursor = some ((call : Int) + 1) → responses call (call + 1) = .ok response →
      readPage library (call + 1) response = .ok page → response.lastPage = call + 1 →
      Walk call [(cursor, page)] .complete
  | more {call : Nat} {cursor : Option GoString} {response : ListResponse} {page : ServerPage}
      {visited : List (Option GoString × ServerPage)} {ending : Ending} :
      pageOf cursor = some ((call : Int) + 1) → responses call (call + 1) = .ok response →
      readPage library (call + 1) response = .ok page → call + 1 < response.lastPage →
      Walk (call + 1) visited ending → Walk call ((cursor, page) :: visited) ending

variable {library responses}

private theorem readPage_next {page : Int} {response : ListResponse} {result : ServerPage}
    (read : readPage library page response = .ok result) :
    page ≤ response.lastPage ∧ response.lastPage ≤ maxPage ∧
      result.next = if page < response.lastPage then some (integerText (page + 1)) else none := by
  unfold readPage at read
  split at read
  · cases read
  split at read
  · cases read
  next bounds =>
  split at read
  · cases read
  · cases read
    simp only [not_or, Int.not_lt] at bounds
    exact ⟨bounds.2.1, bounds.2.2.1, rfl⟩

private theorem pageOf_most {cursor : Option GoString} {page : Int} (read : pageOf cursor = some page) :
    page ≤ maxPage := by
  unfold pageOf at read
  split at read
  · cases read
    decide
  split at read
  · cases read
  split at read
  · cases read
  · cases read
    omega

/-- A panel that is asked for its pages in turn has at most a million. -/
private theorem drive_walk {fuel call : Nat} {cursor : Option GoString} (enough : maxPage ≤ fuel + call)
    (start : pageOf cursor = some ((call : Int) + 1)) :
    Walk library responses call (drive (fun call => listServers library (responses call)) fuel call cursor).1
      (drive (fun call => listServers library (responses call)) fuel call cursor).2 := by
  induction fuel generalizing call cursor with
  | zero =>
      have most := pageOf_most start
      omega
  | succ fuel ih =>
      cases requested : responses call (call + 1) with
      | error failure =>
          have listed : listServers library (responses call) cursor = .error failure := by
            simp only [listServers, start, requested]
          rw [drive, listed]
          exact .refused requested
      | ok response =>
          have listed : listServers library (responses call) cursor = readPage library (call + 1) response := by
            simp only [listServers, start, requested]
          rw [drive, listed]
          simp only
          cases read : readPage library (call + 1) response with
          | error failure => exact .invalid requested read
          | ok page =>
              obtain ⟨least, most, next⟩ := readPage_next read
              simp only
              by_cases further : (call : Int) + 1 < response.lastPage
              · rw [if_pos further] at next
                have onward : pageOf (some (integerText ((call : Int) + 1 + 1))) = some (((call + 1 : Nat) : Int) + 1) :=
                  pageOf_next (by omega) (by omega)
                have rest := ih (by omega) onward
                rw [next]
                exact .more start requested read further rest
              · rw [if_neg further] at next
                rw [next]
                exact .last start requested read (by omega)

theorem Walk.finished {call : Nat} {visited : List (Option GoString × ServerPage)} {ending : Ending}
    (walk : Walk library responses call visited ending) : ending ≠ .unfinished := by
  induction walk with
  | refused _ => simp
  | invalid _ _ => simp
  | last _ _ _ _ => simp
  | more _ _ _ _ _ ih => exact ih

/-- No page is missed, and none is asked for twice. -/
theorem Walk.pages {call : Nat} {visited : List (Option GoString × ServerPage)} {ending : Ending}
    (walk : Walk library responses call visited ending) :
    visited.map (fun (cursor, _) => pageOf cursor) =
      (List.range' (call + 1) visited.length).map fun page => some (page : Int) := by
  induction walk with
  | refused _ => rfl
  | invalid _ _ => rfl
  | last read _ _ _ => simp [read]
  | more read _ _ _ _ ih => simp [read, ih, List.range'_succ]

/-- The end is the last page of the response that came last. -/
theorem Walk.complete {call : Nat} {visited : List (Option GoString × ServerPage)} {ending : Ending}
    (walk : Walk library responses call visited ending) (ended : ending = .complete) :
    ∃ count response, visited.length = count + 1 ∧
      responses (call + count) (call + count + 1) = .ok response ∧ response.lastPage = call + count + 1 := by
  induction walk with
  | refused _ => cases ended
  | invalid _ _ => cases ended
  | @last call cursor response page _ requested _ reached =>
      exact ⟨0, response, rfl, by simpa using requested, by simpa using reached⟩
  | @more call cursor first page visited ending _ _ _ _ _ ih =>
      obtain ⟨count, response, size, requested, reached⟩ := ih ended
      refine ⟨count + 1, response, by simp [size], ?_, ?_⟩
      · have index : call + (count + 1) = call + 1 + count := by omega
        have number : (call : Int) + ((count + 1 : Nat) : Int) + 1 = ((call + 1 : Nat) : Int) + count + 1 := by omega
        rw [index, number]
        exact requested
      · omega

end Walks

end SolusVM2

/-! ## Both -/

/-- Of AWS, all pages of all regions are visited in their order unless a call
fails, which ends the traversal there. Of SolusVM 2, the pages from the first
one on are, up to a response that is refused or the last page that the last
response names. In both, every cursor stands for the page that it is fed back
for. -/
theorem traversal_complete (library : Library) :
    (∀ (others : GoString → Option AWS.Position) (configured regions : List GoString)
      (chains : GoString → AWS.Chain) (fates : Nat → Option AWS.APIFailure) (fuel : Nat),
      AWS.normalizeRegions library configured = .ok regions →
      let stops := AWS.stopsFrom chains 0 regions
      stops.length ≤ fuel →
      let result := drive (fun call => AWS.listServers others regions (AWS.describe chains (fates call))) fuel 0 none
      let visited := result.1.map fun (cursor, page) => (AWS.decodeCursor others cursor, page.servers)
      visited = stops.map (fun (position, servers) => (some position, servers)) ∧ result.2 = .complete ∨
        ∃ count failure, count < stops.length ∧ fates count = some failure ∧
          visited = (stops.take count).map (fun (position, servers) => (some position, servers)) ∧
          result.2 = .failed (AWS.classifyError failure)) ∧
    ∀ (responses : Nat → Int → Except GoError SolusVM2.ListResponse) (fuel : Nat),
      SolusVM2.maxPage ≤ fuel →
      let result := drive (fun call => SolusVM2.listServers library (responses call)) fuel 0 none
      SolusVM2.Walk library responses 0 result.1 result.2 ∧ result.2 ≠ .unfinished ∧
        (result.1.map fun (cursor, _) => SolusVM2.pageOf cursor) =
          ((List.range' 1 result.1.length).map fun page => some (page : Int)) ∧
        (result.2 = .complete → ∃ count response, result.1.length = count + 1 ∧
          responses count (count + 1) = .ok response ∧ response.lastPage = count + 1) := by
  constructor
  · intro others configured regions chains fates fuel normalized stops enough result visited
    obtain ⟨followed, ended⟩ := AWS.traversal others chains fates normalized fuel enough
    rcases reached_cases (fun call => (fates call).map AWS.classifyError) 0 stops with
      whole | ⟨count, failure, within, failed, part⟩
    · left
      rw [whole] at followed ended
      exact ⟨followed, ended⟩
    · right
      rw [Nat.zero_add] at failed
      obtain ⟨upstream, fate, rfl⟩ := Option.map_eq_some_iff.mp failed
      rw [part] at followed ended
      exact ⟨count, upstream, within, fate, followed, ended⟩
  · intro responses fuel enough result
    have walk : SolusVM2.Walk library responses 0 result.1 result.2 :=
      SolusVM2.drive_walk (by omega) rfl
    refine ⟨walk, walk.finished, walk.pages, ?_⟩
    intro complete
    obtain ⟨count, response, size, requested, last⟩ := walk.complete complete
    refine ⟨count, response, size, ?_, ?_⟩
    · simpa using requested
    · simpa using last

/-- Two pages in the first region and an empty one in the second. -/
def twoRegions (region : GoString) : AWS.Chain :=
  if region = text "us-east-1" then
    ⟨[], [(text "t<1>", [])], some [], rfl, by decide, by decide⟩
  else ⟨[], [], none, rfl, by decide, by simp⟩

/-- A panel with a server on its first page and none on its last. -/
def twoPages (call : Nat) (page : Int) : Except GoError SolusVM2.ListResponse :=
  .ok ⟨some (if call = 0 then [stoppedServer] else []), page, 2⟩

theorem traversal_complete_regions :
    ((drive (fun _ => AWS.listServers (fun _ => none) [text "us-east-1", text "eu-west-1"]
        (AWS.describe twoRegions none)) 3 0 none).1.map fun (cursor, page) =>
          (AWS.decodeCursor (fun _ => none) cursor, page.servers)) =
        [(some ⟨0, []⟩, []), (some ⟨0, text "t<1>"⟩, []), (some ⟨1, []⟩, [])] ∧
      ∃ visited ending, SolusVM2.Walk plainLibrary twoPages 0 visited ending ∧ ending ≠ .unfinished := by
  have normalized : AWS.normalizeRegions plainLibrary [text "us-east-1", text "EU-west-1 "] =
      .ok [text "us-east-1", text "eu-west-1"] := by decide
  have stops : AWS.stopsFrom twoRegions 0 [text "us-east-1", text "eu-west-1"] =
      [(⟨0, []⟩, []), (⟨0, text "t<1>"⟩, []), (⟨1, []⟩, [])] := by decide
  constructor
  · rcases (traversal_complete plainLibrary).1 (fun _ => none) _ _ twoRegions (fun _ => none) 3 normalized
      (by rw [stops]; decide) with ⟨visited, _⟩ | ⟨_, failure, _, fate, _⟩
    · rw [stops] at visited
      exact visited
    · cases fate
  · obtain ⟨walk, finished, _⟩ := (traversal_complete plainLibrary).2 twoPages 1000000 (by decide)
    exact ⟨_, _, walk, finished⟩

end NodeAtlas.Adapters
