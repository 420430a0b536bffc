import NodeAtlas.Runtime
import Mathlib.Data.List.Induction

/-! The broker that fans events out to its subscribers. Every section under its
mutex is one step, and so is every receive from a stream. -/

set_option autoImplicit false

namespace NodeAtlas.Events

structure Event where
  id : Nat
  type : GoString
  data : GoString
  deriving DecidableEq, Repr

/-- A stream with the goroutine that `Subscribe` starts for it. `registered`
says that the map has it; `since` is the number of events published before, and
`received` what has been taken from the buffer. -/
structure Subscription where
  context : Nat
  buffer : List Event
  closed : Bool
  registered : Bool
  watched : Bool
  since : Nat
  received : List Event
  deriving DecidableEq, Repr

/-- The client with the key `id` has the stream at the index `id - 1`; the key, a
uint64, is taken not to come round. `panicked` says that a closed stream was sent
to or closed again. -/
structure Broker where
  bufferSize : Nat
  nextEventID : Nat
  published : Nat
  streams : List Subscription
  cancelled : List Nat
  panicked : Bool
  deriving DecidableEq, Repr

def newBroker (bufferSize : Nat) : Broker :=
  ⟨if bufferSize < 1 then 16 else bufferSize, 0, 0, [], [], false⟩

/-- `nextEventID` is a uint64. -/
def succ64 (value : Nat) : Nat := (value + 1) % 2 ^ 64

/-- The `select` of `Publish`, for one entry of the map. -/
def Subscription.offered (bufferSize : Nat) (event : Event) (stream : Subscription) : Subscription :=
  if stream.buffer.length < bufferSize then { stream with buffer := stream.buffer ++ [event] }
  else { stream with closed := true, registered := false }

def visit (event : Event) (broker : Broker) (index : Nat) : Broker :=
  match broker.streams[index]? with
  | none => broker
  | some stream =>
      if stream.closed then { broker with panicked := true }
      else { broker with streams := broker.streams.set index (stream.offered broker.bufferSize event) }

def registered (broker : Broker) (index : Nat) : Bool :=
  broker.streams[index]?.any (·.registered)

/-- What the cancellation goroutine does once it has the mutex. -/
def Subscription.dropped (stream : Subscription) : Subscription :=
  if stream.registered then { stream with closed := true, registered := false, watched := false }
  else { stream with watched := false }

def Subscription.taken (stream : Subscription) : Subscription :=
  { stream with buffer := stream.buffer.drop 1, received := stream.received ++ stream.buffer.take 1 }

/-- `order` is the order in which `Publish` visits the map. -/
inductive Action where
  | publish (type data : GoString) (order : List Nat)
  | subscribe (context : Nat)
  | cancel (context : Nat)
  | watch (index : Nat)
  | receive (index : Nat)
  deriving DecidableEq, Repr

/-- An order in which every entry of the map is visited once. -/
def visits (broker : Broker) (order : List Nat) : Bool :=
  order.Nodup && (List.range broker.streams.length).all fun index =>
    registered broker index = order.contains index

def publish (type data : GoString) (order : List Nat) (broker : Broker) : Broker :=
  let id := succ64 broker.nextEventID
  order.foldl (visit ⟨id, type, data⟩)
    { broker with nextEventID := id, published := broker.published + 1 }

def step (broker : Broker) : Action → Option Broker
  | .publish type data order =>
      if visits broker order then some (publish type data order broker) else none
  | .subscribe context =>
      some { broker with
        streams := broker.streams ++ [⟨context, [], false, true, true, broker.published, []⟩] }
  | .cancel context => some { broker with cancelled := context :: broker.cancelled }
  | .watch index =>
      match broker.streams[index]? with
      | none => none
      | some stream =>
          if stream.watched && broker.cancelled.contains stream.context then
            some { broker with
              streams := broker.streams.set index stream.dropped
              panicked := broker.panicked || (stream.registered && stream.closed) }
          else none
  | .receive index =>
      match broker.streams[index]? with
      | none => none
      | some stream =>
          if stream.buffer = [] ∧ stream.closed = false then none
          else some { broker with streams := broker.streams.set index stream.taken }

def run (broker : Broker) (actions : List Action) : Option Broker :=
  actions.foldlM step broker

/-! ## What a step does to one stream -/

/-- What a subscriber can see of an action of the broker. -/
inductive OwnAction where
  | publish (type data : GoString)
  | watch
  | receive
  deriving DecidableEq, Repr

def own (index : Nat) : Action → Option OwnAction
  | .publish type data _ => some (.publish type data)
  | .watch other => if other = index then some .watch else none
  | .receive other => if other = index then some .receive else none
  | .subscribe _ | .cancel _ => none

/-- One stream, with the number of the last event. -/
def Subscription.after (bufferSize : Nat) (view : Nat × Subscription) : OwnAction → Nat × Subscription
  | .publish type data =>
      let id := succ64 view.1
      (id, if view.2.registered then view.2.offered bufferSize ⟨id, type, data⟩ else view.2)
  | .watch => (view.1, view.2.dropped)
  | .receive => (view.1, view.2.taken)

/-- Those in the map are the ones that are not closed. -/
def Tracked (broker : Broker) : Prop :=
  ∀ stream ∈ broker.streams, stream.registered = !stream.closed

private theorem foldl_visit (event : Event) {order : List Nat} (broker : Broker) (distinct : order.Nodup)
    (opened : ∀ index ∈ order, ∀ stream, broker.streams[index]? = some stream → stream.closed = false) :
    let final := order.foldl (visit event) broker
    final.bufferSize = broker.bufferSize ∧ final.nextEventID = broker.nextEventID ∧
      final.published = broker.published ∧ final.cancelled = broker.cancelled ∧
      final.panicked = broker.panicked ∧ final.streams.length = broker.streams.length ∧
      ∀ index, final.streams[index]? =
        if index ∈ order then broker.streams[index]?.map (·.offered broker.bufferSize event)
        else broker.streams[index]? := by
  induction order generalizing broker with
  | nil => simp
  | cons first rest ih =>
      obtain ⟨fresh, distinct⟩ := List.nodup_cons.mp distinct
      rw [List.foldl_cons]
      cases known : broker.streams[first]? with
      | none =>
          have same : visit event broker first = broker := by simp [visit, known]
          rw [same]
          have later := ih broker distinct fun index member => opened index (List.mem_cons_of_mem _ member)
          refine ⟨later.1, later.2.1, later.2.2.1, later.2.2.2.1, later.2.2.2.2.1, later.2.2.2.2.2.1, ?_⟩
          intro index
          rw [later.2.2.2.2.2.2 index]
          by_cases here : index = first
          · rw [here]
            simp [known]
          · simp [here]
      | some stream =>
          have open_ := opened first List.mem_cons_self stream known
          have visited : visit event broker first =
              { broker with streams := broker.streams.set first (stream.offered broker.bufferSize event) } := by
            simp [visit, known, open_]
          rw [visited]
          generalize moved : { broker with
            streams := broker.streams.set first (stream.offered broker.bufferSize event) } = next
          have others : ∀ index ∈ rest, ∀ other, next.streams[index]? = some other →
              other.closed = false := by
            intro index member other found
            have different : first ≠ index := by
              intro same
              rw [same] at fresh
              exact fresh member
            rw [← moved, List.getElem?_set_ne different] at found
            exact opened index (List.mem_cons_of_mem _ member) other found
          have later := ih next distinct others
          rw [← moved] at later ⊢
          refine ⟨later.1, later.2.1, later.2.2.1, later.2.2.2.1, later.2.2.2.2.1, ?_, ?_⟩
          · rw [later.2.2.2.2.2.1]
            exact List.length_set
          · intro index
            rw [later.2.2.2.2.2.2 index]
            by_cases here : index = first
            · have inside : first < broker.streams.length := (List.getElem?_eq_some_iff.mp known).1
              rw [here]
              simp [fresh, known, List.getElem?_set_self inside]
            · have different : first ≠ index := fun same => here same.symm
              simp [here, List.getElem?_set_ne different]

private theorem visited_open {broker : Broker} {order : List Nat} (tracked : Tracked broker)
    (allowed : visits broker order = true) :
    ∀ index ∈ order, ∀ stream, broker.streams[index]? = some stream →
      stream.registered = true ∧ stream.closed = false := by
  intro index member stream found
  obtain ⟨_, every⟩ := Bool.and_eq_true_iff.mp allowed
  have inside := (List.getElem?_eq_some_iff.mp found).1
  have agree := List.all_eq_true.mp every index (List.mem_range.mpr inside)
  have named : stream.registered = true := by simpa [registered, found, member] using agree
  have closed := tracked stream (List.mem_of_getElem? found)
  rw [named] at closed
  exact ⟨named, by simpa using closed.symm⟩

/-- In whatever order `Publish` visits the map, every stream in it is offered
the event, and nothing else happens. -/
theorem publish_streams {broker : Broker} {order : List Nat} {type data : GoString}
    (tracked : Tracked broker) (allowed : visits broker order = true) :
    let id := succ64 broker.nextEventID
    publish type data order broker = { broker with
      nextEventID := id
      published := broker.published + 1
      streams := broker.streams.map fun stream =>
        if stream.registered then stream.offered broker.bufferSize ⟨id, type, data⟩ else stream } := by
  intro id
  have distinct : order.Nodup := by simpa using (Bool.and_eq_true_iff.mp allowed).1
  have folded := foldl_visit ⟨id, type, data⟩
    { broker with nextEventID := id, published := broker.published + 1 } distinct fun index member stream found => (visited_open tracked allowed index member stream found).2
  obtain ⟨size, number, count, gone, calm, length, entries⟩ := folded
  unfold publish
  generalize final : order.foldl (visit ⟨id, type, data⟩) { broker with
    nextEventID := id, published := broker.published + 1 } = result at *
  obtain ⟨bufferSize, nextEventID, published, streams, cancelled, panicked⟩ := result
  simp only at size number count gone calm entries
  subst size number count gone calm
  congr 1
  apply List.ext_getElem?
  intro index
  rw [entries index, List.getElem?_map]
  cases found : broker.streams[index]? with
  | none => simp
  | some stream =>
      have inside := (List.getElem?_eq_some_iff.mp found).1
      have agree := List.all_eq_true.mp (Bool.and_eq_true_iff.mp allowed).2 index (List.mem_range.mpr inside)
      by_cases member : index ∈ order
      · have named := (visited_open tracked allowed index member stream found).1
        simp [member, named]
      · have unnamed : stream.registered = false := by simpa [registered, found, member] using agree
        simp [member, unnamed]

/-! ## Invariants -/

/-- The numbers of `count` events after the first `since`. -/
def numbers (since count : Nat) : List Nat :=
  (List.range count).map fun index => (since + index + 1) % 2 ^ 64

def Subscription.sent (stream : Subscription) : List Event := stream.received ++ stream.buffer

/-- What a subscriber was sent, received or not, is every event since its
`Subscribe` up to the last one, or up to where its stream was closed. -/
structure Gapless (bufferSize published : Nat) (stream : Subscription) : Prop where
  tracked : stream.registered = !stream.closed
  consecutive : stream.sent.map (·.id) = numbers stream.since stream.sent.length
  whole : stream.closed = false → stream.since + stream.sent.length = published
  bounded : stream.since + stream.sent.length ≤ published
  fits : stream.buffer.length ≤ bufferSize

structure Sound (broker : Broker) : Prop where
  calm : broker.panicked = false
  counted : broker.nextEventID = broker.published % 2 ^ 64
  gapless : ∀ stream ∈ broker.streams, Gapless broker.bufferSize broker.published stream

theorem Sound.tracked {broker : Broker} (sound : Sound broker) : Tracked broker :=
  fun stream member => (sound.gapless stream member).tracked

private theorem numbers_succ (since count : Nat) :
    numbers since (count + 1) = numbers since count ++ [(since + count + 1) % 2 ^ 64] := by
  simp [numbers, List.range_succ]

variable {bufferSize published : Nat} {stream : Subscription}

private theorem Gapless.offered (gapless : Gapless bufferSize published stream) {event : Event}
    (numbered : event.id = (published + 1) % 2 ^ 64) (named : stream.registered = true) :
    Gapless bufferSize (published + 1) (stream.offered bufferSize event) := by
  have opened : stream.closed = false := by simpa [named] using gapless.tracked.symm
  have whole := gapless.whole opened
  have sized : stream.sent.length = stream.received.length + stream.buffer.length := by
    simp [Subscription.sent]
  unfold Subscription.offered
  split
  · next room =>
      have further : ({ stream with buffer := stream.buffer ++ [event] } : Subscription).sent =
          stream.sent ++ [event] := by
        simp [Subscription.sent]
      constructor
      · exact gapless.tracked
      · rw [further, List.map_append, List.length_append, gapless.consecutive, List.length_singleton,
          numbers_succ, whole]
        simp [numbered]
      · intro _
        rw [further, List.length_append, List.length_singleton]
        dsimp only
        omega
      · rw [further, List.length_append, List.length_singleton]
        dsimp only
        omega
      · rw [List.length_append, List.length_singleton]
        omega
  · constructor
    · rfl
    · exact gapless.consecutive
    · intro still
      cases still
    · exact Nat.le_succ_of_le gapless.bounded
    · exact gapless.fits

private theorem Gapless.missed (gapless : Gapless bufferSize published stream)
    (unnamed : stream.registered = false) : Gapless bufferSize (published + 1) stream := by
  have closed : stream.closed = true := by simpa [unnamed] using gapless.tracked.symm
  constructor
  · exact gapless.tracked
  · exact gapless.consecutive
  · intro opened
    rw [closed] at opened
    cases opened
  · exact Nat.le_succ_of_le gapless.bounded
  · exact gapless.fits

private theorem Gapless.dropped (gapless : Gapless bufferSize published stream) :
    Gapless bufferSize published stream.dropped := by
  unfold Subscription.dropped
  split
  · constructor
    · rfl
    · exact gapless.consecutive
    · intro opened
      cases opened
    · exact gapless.bounded
    · exact gapless.fits
  · exact ⟨gapless.tracked, gapless.consecutive, gapless.whole, gapless.bounded, gapless.fits⟩

@[simp] theorem Subscription.taken_sent (stream : Subscription) : stream.taken.sent = stream.sent := by
  unfold Subscription.sent Subscription.taken
  rw [List.append_assoc, List.take_append_drop]

private theorem Gapless.taken (gapless : Gapless bufferSize published stream) :
    Gapless bufferSize published stream.taken := by
  constructor
  · exact gapless.tracked
  · rw [Subscription.taken_sent]
    exact gapless.consecutive
  · rw [Subscription.taken_sent]
    exact gapless.whole
  · rw [Subscription.taken_sent]
    exact gapless.bounded
  · have fits := gapless.fits
    simp only [Subscription.taken, List.length_drop]
    omega

private theorem mem_set {streams : List Subscription} {index : Nat} {changed other : Subscription}
    (member : other ∈ streams.set index changed) : other ∈ streams ∨ other = changed :=
  List.mem_or_eq_of_mem_set member

private theorem succ64_published (published : Nat) :
    succ64 (published % 2 ^ 64) = (published + 1) % 2 ^ 64 := by
  unfold succ64
  omega

/-- Every step keeps the broker sound. -/
theorem step_sound {broker next : Broker} {action : Action} (sound : Sound broker)
    (stepped : step broker action = some next) : Sound next := by
  cases action with
  | publish type data order =>
      simp only [step] at stepped
      split at stepped
      · next allowed =>
          cases stepped
          rw [publish_streams sound.tracked allowed]
          have numbered : succ64 broker.nextEventID = (broker.published + 1) % 2 ^ 64 := by
            rw [sound.counted, succ64_published]
          constructor
          · exact sound.calm
          · exact numbered
          · intro stream member
            obtain ⟨before, listed, rfl⟩ := List.mem_map.mp member
            have gapless := sound.gapless before listed
            dsimp only
            split
            · next named => exact gapless.offered numbered named
            · next unnamed => exact gapless.missed (by simpa using unnamed)
      · cases stepped
  | subscribe context =>
      cases stepped
      constructor
      · exact sound.calm
      · exact sound.counted
      · intro stream member
        rcases List.mem_append.mp member with listed | new
        · exact sound.gapless stream listed
        · cases List.mem_singleton.mp new
          exact ⟨rfl, rfl, fun _ => rfl, Nat.le_refl _, Nat.zero_le _⟩
  | cancel context =>
      cases stepped
      exact ⟨sound.calm, sound.counted, sound.gapless⟩
  | watch index =>
      simp only [step] at stepped
      split at stepped
      · cases stepped
      · next stream found =>
          have gapless := sound.gapless stream (List.mem_of_getElem? found)
          split at stepped
          · cases stepped
            constructor
            · have tracked := gapless.tracked
              cases closed : stream.closed <;> simp_all [sound.calm]
            · exact sound.counted
            · intro other member
              rcases mem_set member with listed | rfl
              · exact sound.gapless other listed
              · exact gapless.dropped
          · cases stepped
  | receive index =>
      simp only [step] at stepped
      split at stepped
      · cases stepped
      · next stream found =>
          have gapless := sound.gapless stream (List.mem_of_getElem? found)
          split at stepped
          · cases stepped
          · cases stepped
            constructor
            · exact sound.calm
            · exact sound.counted
            · intro other member
              rcases mem_set member with listed | rfl
              · exact sound.gapless other listed
              · exact gapless.taken

theorem newBroker_sound (size : Nat) : Sound (newBroker size) := by
  constructor
  · rfl
  · rfl
  · intro stream member
    cases member

theorem run_sound {broker final : Broker} {actions : List Action} (sound : Sound broker)
    (ran : run broker actions = some final) : Sound final := by
  induction actions generalizing broker with
  | nil =>
      cases ran
      exact sound
  | cons action rest ih =>
      obtain ⟨next, stepped, further⟩ := Option.bind_eq_some_iff.mp ran
      exact ih (step_sound sound stepped) further

/-! ## One stream among the others -/

/-- A step does to a stream what its subscriber can see of it. -/
theorem step_stream {broker next : Broker} {action : Action} {index : Nat} (sound : Sound broker)
    (stepped : step broker action = some next) (found : broker.streams[index]? = some stream) :
    ∃ after, next.streams[index]? = some after ∧ next.bufferSize = broker.bufferSize ∧
      (next.nextEventID, after) = match own index action with
        | none => (broker.nextEventID, stream)
        | some seen => Subscription.after broker.bufferSize (broker.nextEventID, stream) seen := by
  have inside := (List.getElem?_eq_some_iff.mp found).1
  cases action with
  | publish type data order =>
      simp only [step] at stepped
      split at stepped
      · next allowed =>
          cases stepped
          rw [publish_streams sound.tracked allowed]
          exact ⟨_, by rw [List.getElem?_map, found]; rfl, rfl, rfl⟩
      · cases stepped
  | subscribe context =>
      cases stepped
      exact ⟨stream, by rw [List.getElem?_append_left inside, found], rfl, rfl⟩
  | cancel context =>
      cases stepped
      exact ⟨stream, found, rfl, rfl⟩
  | watch other =>
      simp only [step] at stepped
      split at stepped
      · cases stepped
      · next watched known =>
          split at stepped
          · cases stepped
            by_cases here : other = index
            · rw [here, found] at known
              cases known
              refine ⟨stream.dropped, ?_, rfl, ?_⟩
              · rw [here]
                exact List.getElem?_set_self inside
              · simp [own, here, Subscription.after]
            · refine ⟨stream, ?_, rfl, ?_⟩
              · exact (List.getElem?_set_ne here).trans found
              · simp [own, here]
          · cases stepped
  | receive other =>
      simp only [step] at stepped
      split at stepped
      · cases stepped
      · next taken known =>
          split at stepped
          · cases stepped
          · cases stepped
            by_cases here : other = index
            · rw [here, found] at known
              cases known
              refine ⟨stream.taken, ?_, rfl, ?_⟩
              · rw [here]
                exact List.getElem?_set_self inside
              · simp [own, here, Subscription.after]
            · refine ⟨stream, ?_, rfl, ?_⟩
              · exact (List.getElem?_set_ne here).trans found
              · simp [own, here]

/-- So does a run: the others' receives and cancellations change nothing. -/
theorem run_stream {broker final : Broker} {actions : List Action} {index : Nat} (sound : Sound broker)
    (ran : run broker actions = some final) (found : broker.streams[index]? = some stream) :
    ∃ after, final.streams[index]? = some after ∧
      (final.nextEventID, after) =
        (actions.filterMap (own index)).foldl (Subscription.after broker.bufferSize)
          (broker.nextEventID, stream) := by
  induction actions generalizing broker stream with
  | nil =>
      cases ran
      exact ⟨stream, found, rfl⟩
  | cons action rest ih =>
      obtain ⟨next, stepped, further⟩ := Option.bind_eq_some_iff.mp ran
      obtain ⟨between, known, size, moved⟩ := step_stream sound stepped found
      obtain ⟨after, last, folded⟩ := ih (step_sound sound stepped) further known
      refine ⟨after, last, ?_⟩
      rw [folded, moved, size, List.filterMap_cons]
      cases own index action <;> rfl

private theorem after_closed (bufferSize : Nat) (view : Nat × Subscription) (closed : view.2.closed = true)
    (unnamed : view.2.registered = false) (seen : List OwnAction) :
    let last := (seen.foldl (Subscription.after bufferSize) view).2
    last.closed = true ∧ last.sent = view.2.sent := by
  induction seen generalizing view with
  | nil => exact ⟨closed, rfl⟩
  | cons first rest ih =>
      rw [List.foldl_cons]
      cases first with
      | publish type data =>
          have kept : Subscription.after bufferSize view (.publish type data) = (succ64 view.1, view.2) := by
            simp [Subscription.after, unnamed]
          rw [kept]
          exact ih _ closed unnamed
      | watch =>
          have still : view.2.dropped = { view.2 with watched := false } := by
            simp [Subscription.dropped, unnamed]
          have kept : Subscription.after bufferSize view .watch = (view.1, { view.2 with watched := false }) := by
            simp [Subscription.after, still]
          rw [kept]
          exact ih _ closed unnamed
      | receive =>
          have later := ih (Subscription.after bufferSize view .receive) closed unnamed
          have sent : (Subscription.after bufferSize view .receive).2.sent = view.2.sent :=
            view.2.taken_sent
          exact ⟨later.1, later.2.trans sent⟩

/-! ## The stream in the run -/

/-- What was published, oldest first. -/
def publications (actions : List Action) : List (GoString × GoString) :=
  actions.filterMap fun action =>
    match action with
    | .publish type data _ => some (type, data)
    | _ => none

/-- The contexts that subscribed, in their order. -/
def subscribers (actions : List Action) : List Nat :=
  actions.filterMap fun action =>
    match action with
    | .subscribe context => some context
    | _ => none

/-- The stream is the one that the subscriber at this place was given; `since` is
what had been published by then, and it was sent what was published afterwards. -/
def Begun (actions : List Action) (index : Nat) (stream : Subscription) : Prop :=
  ∃ before after, actions = before ++ .subscribe stream.context :: after ∧ (subscribers before).length = index ∧
    stream.since = (publications before).length ∧
    stream.sent.map (fun event => (event.type, event.data)) <+: publications after

/-- What the broker counts is what the run did. -/
structure Traced (actions : List Action) (broker : Broker) : Prop where
  counted : broker.published = (publications actions).length
  streams : broker.streams.length = (subscribers actions).length
  begun : ∀ index stream, broker.streams[index]? = some stream → Begun actions index stream

private theorem step_counts {broker next : Broker} {action : Action} (sound : Sound broker)
    (stepped : step broker action = some next) :
    next.published = broker.published + (publications [action]).length ∧
      next.streams.length = broker.streams.length + (subscribers [action]).length := by
  cases action with
  | publish type data order =>
      simp only [step] at stepped
      split at stepped
      · next allowed =>
          cases stepped
          rw [publish_streams sound.tracked allowed]
          exact ⟨rfl, List.length_map _⟩
      · cases stepped
  | subscribe context =>
      cases stepped
      exact ⟨rfl, List.length_append⟩
  | cancel context =>
      cases stepped
      exact ⟨rfl, rfl⟩
  | watch index =>
      simp only [step] at stepped
      split at stepped
      · cases stepped
      · split at stepped
        · cases stepped
          exact ⟨rfl, List.length_set⟩
        · cases stepped
  | receive index =>
      simp only [step] at stepped
      split at stepped
      · cases stepped
      · split at stepped
        · cases stepped
        · cases stepped
          exact ⟨rfl, List.length_set⟩

/-- What a subscriber sees keeps the place of a stream, and sends at most an event
that is published. -/
private theorem after_origin (bufferSize : Nat) (view : Nat × Subscription) (seen : OwnAction) :
    let last := (Subscription.after bufferSize view seen).2
    last.context = view.2.context ∧ last.since = view.2.since ∧
      (last.sent = view.2.sent ∨ ∃ type data, seen = .publish type data ∧ view.2.registered = true ∧
        last.sent = view.2.sent ++ [⟨succ64 view.1, type, data⟩]) := by
  cases seen with
  | publish type data =>
      dsimp only [Subscription.after]
      split
      · next named =>
        unfold Subscription.offered
        split
        · exact ⟨rfl, rfl, .inr ⟨type, data, rfl, named, by simp [Subscription.sent]⟩⟩
        · exact ⟨rfl, rfl, .inl rfl⟩
      · exact ⟨rfl, rfl, .inl rfl⟩
  | watch =>
      dsimp only [Subscription.after, Subscription.dropped]
      split <;> exact ⟨rfl, rfl, .inl rfl⟩
  | receive => exact ⟨rfl, rfl, .inl view.2.taken_sent⟩

private theorem publications_append (actions later : List Action) :
    publications (actions ++ later) = publications actions ++ publications later :=
  List.filterMap_append

private theorem Begun.silent {actions : List Action} {index : Nat} {last : Subscription}
    (begun : Begun actions index stream) (context : last.context = stream.context) (since : last.since = stream.since)
    (sent : last.sent = stream.sent) (action : Action) : Begun (actions ++ [action]) index last := by
  obtain ⟨before, after, split_, place, count, whole⟩ := begun
  refine ⟨before, after ++ [action], by simp [split_, context], place, since.trans count, ?_⟩
  rw [sent, publications_append]
  exact whole.trans (List.prefix_append _ _)

/-- A stream in the map has been sent everything since, and so it stays. -/
private theorem Begun.sent {actions : List Action} {index bufferSize : Nat} {last : Subscription}
    {type data : GoString} {id : Nat} (begun : Begun actions index stream)
    (gapless : Gapless bufferSize (publications actions).length stream) (named : stream.registered = true)
    (context : last.context = stream.context) (since : last.since = stream.since)
    (sent : last.sent = stream.sent ++ [⟨id, type, data⟩]) (order : List Nat) :
    Begun (actions ++ [.publish type data order]) index last := by
  obtain ⟨before, after, split_, place, count, whole⟩ := begun
  have opened : stream.closed = false := by simpa [named] using gapless.tracked.symm
  have total : (publications actions).length = (publications before).length + (publications after).length := by
    rw [split_, publications_append, List.length_append]
    rfl
  have level := gapless.whole opened
  have all : stream.sent.map (fun event => (event.type, event.data)) = publications after := by
    refine whole.eq_of_length ?_
    rw [List.length_map]
    omega
  refine ⟨before, after ++ [.publish type data order], by simp [split_, context], place, since.trans count, ?_⟩
  rw [sent, List.map_append, all, publications_append]
  exact List.prefix_rfl

private theorem Traced.step {actions : List Action} {broker next : Broker} {action : Action} (sound : Sound broker)
    (traced : Traced actions broker) (stepped : step broker action = some next) : Traced (actions ++ [action]) next := by
  obtain ⟨published, length⟩ := step_counts sound stepped
  have joined : subscribers (actions ++ [action]) = subscribers actions ++ subscribers [action] := List.filterMap_append
  constructor
  · rw [published, publications_append, List.length_append, traced.counted]
  · rw [length, joined, List.length_append, traced.streams]
  · intro index last located
    by_cases inside : index < broker.streams.length
    · have found := List.getElem?_eq_getElem inside
      obtain ⟨after, known, _, moved⟩ := step_stream sound stepped found
      cases located.symm.trans known
      have begun := traced.begun index _ found
      have gapless := sound.gapless _ (List.mem_of_getElem? found)
      cases seen : own index action with
      | none =>
          rw [seen] at moved
          have same : last = broker.streams[index] := congrArg Prod.snd moved
          rw [same]
          exact begun.silent rfl rfl rfl action
      | some view =>
          rw [seen] at moved
          have moved : last = (Subscription.after broker.bufferSize (broker.nextEventID, broker.streams[index]) view).2 :=
            congrArg Prod.snd moved
          obtain ⟨context, since, same | ⟨type, data, rfl, named, sent⟩⟩ :=
            after_origin broker.bufferSize (broker.nextEventID, broker.streams[index]) view
          · rw [← moved] at context since same
            exact begun.silent context since same action
          · rw [← moved] at context since sent
            rw [traced.counted] at gapless
            cases action with
            | publish type_ data_ order =>
                cases seen
                exact begun.sent gapless named context since sent order
            | watch other => exact absurd seen (by simp only [own]; split <;> simp)
            | receive other => exact absurd seen (by simp only [own]; split <;> simp)
            | _ => cases seen
    · cases action with
      | subscribe context =>
          cases stepped
          rw [List.getElem?_append_right (Nat.le_of_not_lt inside)] at located
          obtain ⟨here, same⟩ := List.getElem?_eq_some_iff.mp located
          have last_ : index = broker.streams.length := by
            rw [List.length_singleton] at here
            omega
          simp only [List.getElem_singleton] at same
          subst same
          exact ⟨actions, [], rfl, by rw [← traced.streams, last_], traced.counted, List.nil_prefix⟩
      | _ =>
          have outside : next.streams[index]? = none := by
            rw [List.getElem?_eq_none_iff, length]
            exact Nat.le_of_not_lt inside
          rw [outside] at located
          cases located

theorem run_traced {size : Nat} {actions : List Action} {broker : Broker}
    (ran : run (newBroker size) actions = some broker) : Traced actions broker := by
  induction actions using List.reverseRecOn generalizing broker with
  | nil =>
      cases ran
      exact ⟨rfl, rfl, fun _ _ none_ => by cases none_⟩
  | append_singleton earlier action ih =>
      unfold run at ran
      rw [List.foldlM_append] at ran
      obtain ⟨before, reached, stepped⟩ := Option.bind_eq_some_iff.mp ran
      have last : step before action = some broker := by simpa using stepped
      exact (ih reached).step (run_sound (newBroker_sound size) reached) last

private theorem received_numbers {bufferSize published : Nat} (gapless : Gapless bufferSize published stream) :
    stream.received.map (·.id) = numbers stream.since stream.received.length := by
  have part := congrArg (List.take stream.received.length) gapless.consecutive
  rw [← List.map_take] at part
  have first : stream.sent.take stream.received.length = stream.received := by
    simp [Subscription.sent]
  have fewer : stream.received.length ≤ stream.sent.length := by simp [Subscription.sent]
  rw [first] at part
  rw [part, numbers, numbers, ← List.map_take, List.take_range, Nat.min_eq_left fewer]

/-- Every map has an order in which to visit it. -/
private theorem visits_some (broker : Broker) : ∃ order, visits broker order = true := by
  refine ⟨(List.range broker.streams.length).filter (registered broker), ?_⟩
  apply Bool.and_eq_true_iff.mpr
  constructor
  · exact decide_eq_true (List.nodup_range.filter _)
  · apply List.all_eq_true.mpr
    intro index member
    simp [List.mem_range.mp member]

/-- In every reachable state no closed stream has been sent to or closed again;
the counters are those of the run, and a subscriber was sent what was published
after its `Subscribe`; it has received these events one by one; and a stream that
is not closed has been sent all of them. `Publish` goes through
whatever the subscribers do, and closes the streams that have no room. Nothing
follows on a closed stream, and what becomes of a stream depends on nothing but
the events and its own subscriber. -/
theorem events_delivered {size : Nat} {actions : List Action} {broker : Broker}
    (ran : run (newBroker size) actions = some broker) :
    broker.panicked = false ∧
    (broker.published = (publications actions).length ∧
      ∀ index stream, broker.streams[index]? = some stream → Begun actions index stream) ∧
    (∀ stream ∈ broker.streams,
      stream.received.map (·.id) = numbers stream.since stream.received.length ∧
      stream.sent.map (·.id) = numbers stream.since stream.sent.length ∧
      (stream.closed = false → stream.since + stream.sent.length = broker.published)) ∧
    (∀ type data, ∃ order next, step broker (.publish type data order) = some next) ∧
    ∀ index stream, broker.streams[index]? = some stream →
      (∀ type data order next, step broker (.publish type data order) = some next →
        stream.closed = false → stream.buffer.length = broker.bufferSize →
        next.streams[index]? = some { stream with closed := true, registered := false }) ∧
      (∀ later final, run broker later = some final → stream.closed = true →
        ∃ after, final.streams[index]? = some after ∧ after.closed = true ∧ after.sent = stream.sent) ∧
      ∀ later other final otherFinal, run broker later = some final → run broker other = some otherFinal →
        later.filterMap (own index) = other.filterMap (own index) →
        final.streams[index]? = otherFinal.streams[index]? := by
  have sound := run_sound (newBroker_sound size) ran
  have traced := run_traced ran
  refine ⟨sound.calm, ⟨traced.counted, traced.begun⟩, ?_, ?_, ?_⟩
  · intro stream member
    have gapless := sound.gapless stream member
    exact ⟨received_numbers gapless, gapless.consecutive, gapless.whole⟩
  · intro type data
    obtain ⟨order, allowed⟩ := visits_some broker
    exact ⟨order, _, by simp only [step]; rw [if_pos allowed]⟩
  · intro index stream found
    have gapless := sound.gapless stream (List.mem_of_getElem? found)
    refine ⟨?_, ?_, ?_⟩
    · intro type data order next stepped opened full
      obtain ⟨after, known, _, moved⟩ := step_stream sound stepped found
      have named : stream.registered = true := by
        rw [gapless.tracked, opened]
        rfl
      have offered : after = stream.offered broker.bufferSize ⟨succ64 broker.nextEventID, type, data⟩ := by
        simpa [own, Subscription.after, named] using congrArg Prod.snd moved
      rw [known, offered]
      simp [Subscription.offered, full]
    · intro later final further closed
      obtain ⟨after, known, moved⟩ := run_stream sound further found
      have unnamed : stream.registered = false := by
        rw [gapless.tracked, closed]
        rfl
      have last := after_closed broker.bufferSize (broker.nextEventID, stream) closed unnamed (later.filterMap (own index))
      rw [← moved] at last
      exact ⟨after, known, last⟩
    · intro later other final otherFinal further otherwise same
      obtain ⟨after, known, moved⟩ := run_stream sound further found
      obtain ⟨otherAfter, otherKnown, otherMoved⟩ := run_stream sound otherwise found
      rw [same, ← otherMoved] at moved
      rw [known, otherKnown, (Prod.mk.inj moved).2]

/-- A subscriber that is too slow for a buffer of one. -/
def slowActions : List Action :=
  [.publish (text "a") [] [], .subscribe 0, .publish (text "b") [] [0], .publish (text "c") [] [0], .receive 0]

def slowBroker : Broker :=
  ⟨1, 3, 3, [⟨0, [], true, false, true, 1, [⟨2, text "b", []⟩]⟩], [], false⟩

theorem events_delivered_slow :
    run (newBroker 1) slowActions = some slowBroker ∧ slowBroker.panicked = false ∧
      [2] = numbers 1 1 := by
  have ran : run (newBroker 1) slowActions = some slowBroker := by decide
  have delivered := events_delivered ran
  exact ⟨ran, delivered.1, (delivered.2.2.1 _ List.mem_cons_self).1⟩

end NodeAtlas.Events
