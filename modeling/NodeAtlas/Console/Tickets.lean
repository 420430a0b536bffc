import NodeAtlas.Console.Dials

/-! How often a ticket leads to a console. -/

set_option autoImplicit false

namespace NodeAtlas.Console

open Interleaving Providers

/-- All rows that a process can meet when it starts. -/
def State.known (state : State) : List Session :=
  state.sessions ++ state.archives.flatten

def freshID (db : Database) (start : State) (history : ConsoleHistory) (id : GoString) : Bool :=
  start.known.all (fun session => !db.same session.id id) &&
    history.all fun entry =>
      match entry.2 with
      | ⟨.newID, other⟩ => !db.same other id
      | _ => true

/-- Tickets are kept as hashes, so it is the hash of a fresh ticket that is new. -/
def freshTicket (start : State) (history : ConsoleHistory) (ticket : GoString) : Bool :=
  start.known.all (fun session => session.ticketHash ≠ sha256 ticket) &&
    history.all fun entry =>
      match entry.2 with
      | ⟨.newTicket, other⟩ => sha256 other ≠ sha256 ticket
      | _ => true

/-- Session ids and tickets are fresh where they are generated. -/
def fresh (db : Database) (start : State) (config : ConsoleConfig) : ConsoleLabel → Bool
  | .performed _ ⟨.newID, id⟩ => freshID db start config.history id
  | .performed _ ⟨.newTicket, ticket⟩ => freshTicket start config.history ticket
  | _ => true

/-- The row was there at the start, whatever has become of its times since. -/
def Old (start : State) (row : Session) : Prop :=
  ∃ session ∈ start.known, row.id = session.id ∧ row.ticketHash = session.ticketHash

/-- The row is one that was created. -/
def Created (db : Database) (history : ConsoleHistory) (creation row : Session) : Prop :=
  (∃ u reply, (u, ⟨.createSession creation, reply⟩) ∈ history) ∧ row.id = creation.id ∧
    row.ticketHash = creation.ticketHash ∧ row.expiresAt = db.stamp creation.expiresAt

def Origin (db : Database) (start : State) (history : ConsoleHistory) (row : Session) : Prop :=
  Old start row ∨ ∃ creation, Created db history creation row

/-- What the history shows of ids, tickets, rows and targets. -/
def Law (db : Database) (start : State) (earlier : ConsoleHistory) (_ : Nat) (event : ConsoleEvent) : Prop :=
  match event with
  | ⟨.newID, id⟩ => freshID db start earlier id = true
  | ⟨.newTicket, ticket⟩ => freshTicket start earlier ticket = true
  | ⟨.findSession ticketHash, .ok session⟩ =>
      Origin db start earlier session ∧ session.ticketHash = ticketHash
  | ⟨.openSession id openedAt, .ok affected⟩ =>
      ∀ row ∈ affected, Origin db start earlier row ∧ row.openable db id openedAt = true
  | ⟨.take id, some _⟩ => ∀ u target, (u, ⟨.take id, some target⟩) ∉ earlier
  | _ => True

structure Lawful (db : Database) (start : State) (config : ConsoleConfig) : Prop where
  recorded : Recorded (Law db start) config.history
  rows : ∀ row ∈ config.state.known, Origin db start config.history row
  spent : ∀ u id target, (u, ⟨.take id, some target⟩) ∈ config.history → config.state.targets id = none

/-- How a ticket got its console. The row is the one that the UPDATE found:
created with the hash of the ticket, neither opened nor closed, and not expired
at the time of the handshake, the first that the request asked for. -/
structure Admitted (db : Database) (ticket : GoString) (t : Nat) (earlier : ConsoleHistory) (target : URL)
    (openedAt : Instant) (creation row : Session) : Prop where
  handshake : (own t earlier).getLast? = some ⟨.now, openedAt⟩
  ofTicket : creation.ticketHash = sha256 ticket
  created : Created db earlier creation row
  updated : (t, ⟨.openSession creation.id openedAt, .ok [row]⟩) ∈ earlier
  taken : (t, ⟨.take creation.id, some target⟩) ∈ earlier
  early : openedAt < row.expiresAt
  unopened : row.openedAt = none
  unclosed : row.closedAt = none

/-- The thread serves a request with this ticket. -/
def presents (config : ConsoleConfig) (ticket : GoString) (t : Nat) : Bool :=
  config.threads[t]?.any fun thread => thread.task = .open_ ticket

section Rows

variable {db : Database} {start before after : State} {choice : Choice} {earlier history : ConsoleHistory}

theorem Origin.mono {row : Session} (origin : Origin db start earlier row)
    (kept : ∀ entry ∈ earlier, entry ∈ history) : Origin db start history row := by
  cases origin with
  | inl old => exact .inl old
  | inr created =>
      obtain ⟨creation, ⟨u, reply, member⟩, same⟩ := created
      exact .inr ⟨creation, ⟨u, reply, kept _ member⟩, same⟩

theorem Origin.opened {row : Session} (origin : Origin db start history row) (openedAt : Instant) :
    Origin db start history (row.opened db openedAt) :=
  origin

theorem Origin.closed {row : Session} (origin : Origin db start history row) (result : Result)
    (closedAt : Instant) : Origin db start history (row.closed db result closedAt) :=
  origin

private theorem after_known {α : Type} {outcome : Outcome} {effect : Except GoError α × State}
    {reply : Except GoError α} (rows : ∀ row ∈ before.known, Origin db start history row)
    (moved : ∀ row ∈ effect.2.known, Origin db start history row)
    (answered : some (before.after db outcome effect) = some (reply, after)) :
    ∀ row ∈ after.known, Origin db start history row := by
  have same : (before.after db outcome effect).2 = after := congrArg Prod.snd (Option.some.inj answered)
  rw [← same]
  cases before.after_state outcome effect with
  | inl kept => rwa [kept]
  | inr changed => rwa [changed]

/-- Every row that a call leaves was there before, or it is created. -/
private theorem perform_rows {request : Call} {reply : request.Reply}
    (answered : perform db request choice before = some (reply, after))
    (rows : ∀ row ∈ before.known, Origin db start history row)
    (created : ∀ session, request = .createSession session → Origin db start history (session.stored db)) :
    ∀ row ∈ after.known, Origin db start history row := by
  by_cases foreign : request.foreign = true
  · rwa [perform_foreign foreign answered]
  · cases request
    case put id target =>
      cases answered
      exact rows
    case take id =>
      cases answered
      exact rows
    case delete id =>
      cases answered
      exact rows
    all_goals first | exact absurd rfl foreign | skip
    all_goals cases choice
    all_goals first | cases answered | skip
    all_goals refine after_known rows (fun row member => ?_) answered
    case createSession.statement session outcome =>
      split at member
      · exact rows row member
      · rw [State.known, List.append_assoc, List.mem_append, List.mem_append, List.mem_singleton] at member
        obtain member | rfl | member := member
        · exact rows row (List.mem_append_left _ member)
        · exact created session rfl
        · exact rows row (List.mem_append_right _ member)
    case findSession.statement => exact rows row member
    case openSession.statement id openedAt outcome =>
      dsimp only at member
      split at member
      · cases List.mem_append.mp member with
        | inl member =>
            obtain ⟨former, member, same⟩ := List.mem_map.mp member
            have origin := rows former (List.mem_append_left _ member)
            split at same
            · exact same ▸ origin.opened openedAt
            · exact same ▸ origin
        | inr member => exact rows row (List.mem_append_right _ member)
      · exact rows row member
    case closeSession.statement id result closedAt outcome =>
      cases List.mem_append.mp member with
      | inl member =>
          obtain ⟨former, member, same⟩ := List.mem_map.mp member
          have origin := rows former (List.mem_append_left _ member)
          split at same
          · exact same ▸ origin.closed result closedAt
          · exact same ▸ origin
      | inr member => exact rows row (List.mem_append_right _ member)
    case backup.statement outcome =>
      simp only [State.known, List.flatten_append, List.flatten_singleton, List.mem_append] at member
      obtain member | member | member := member
      · exact rows row (List.mem_append_left _ member)
      · exact rows row (List.mem_append_right _ member)
      · exact rows row (List.mem_append_left _ member)
    case restore.statement archive outcome =>
      split at member
      · next sessions found =>
          cases List.mem_append.mp member with
          | inl member =>
              have archived : sessions ∈ before.archives := List.mem_of_getElem? found
              exact rows row (List.mem_append_right _ (List.mem_flatten.mpr ⟨sessions, archived, member⟩))
          | inr member => exact rows row (List.mem_append_right _ member)
      · exact rows row member

/-- What a call shows once it has answered. -/
private theorem perform_law {t : Nat} {request : Call} {reply : request.Reply}
    (answered : perform db request choice before = some (reply, after))
    (rows : ∀ row ∈ before.known, Origin db start history row)
    (spent : ∀ u id target, (u, ⟨.take id, some target⟩) ∈ history → before.targets id = none)
    (newID : ∀ id, (⟨request, reply⟩ : ConsoleEvent) = ⟨.newID, id⟩ → freshID db start history id = true)
    (newTicket : ∀ ticket, (⟨request, reply⟩ : ConsoleEvent) = ⟨.newTicket, ticket⟩ →
      freshTicket start history ticket = true) :
    Law db start history t ⟨request, reply⟩ := by
  cases request
  case newID => exact newID reply rfl
  case newTicket => exact newTicket reply rfl
  case findSession ticketHash =>
    cases reply with
    | error failure => trivial
    | ok session =>
        cases choice with
        | reply replies => cases answered
        | statement outcome =>
            have found := State.after_ok (Option.some.inj answered)
            split at found
            · next row located =>
                cases found
                refine ⟨rows _ (List.mem_append_left _ (List.mem_of_find?_eq_some located)), ?_⟩
                simpa using List.find?_some located
            · cases found
  case openSession id openedAt =>
    cases reply with
    | error failure => trivial
    | ok affected =>
        cases choice with
        | reply replies => cases answered
        | statement outcome =>
            have found := congrArg Prod.fst (State.after_ok (Option.some.inj answered))
            cases found
            intro row member
            obtain ⟨member, openable⟩ := List.mem_filter.mp member
            exact ⟨rows row (List.mem_append_left _ member), openable⟩
  case take id =>
    cases reply with
    | none => trivial
    | some target =>
        intro u other member
        have waiting := perform_taken db choice answered
        rw [spent u id other member] at waiting
        cases waiting
  all_goals trivial

end Rows

section Runs

variable {panel : Panel} {db : Database} {start : State} {config next : ConsoleConfig}

/-! ## Owners of ids and tickets -/

private theorem freshID_other {history : ConsoleHistory} {id other : GoString} {u : Nat}
    (fresh : freshID db start history id = true) (member : (u, ⟨.newID, other⟩) ∈ history) :
    db.same other id = false := by
  obtain ⟨_, apart⟩ := Bool.and_eq_true_iff.mp fresh
  simpa using List.all_eq_true.mp apart _ member

private theorem freshTicket_other {history : ConsoleHistory} {ticket other : GoString} {u : Nat}
    (fresh : freshTicket start history ticket = true) (member : (u, ⟨.newTicket, other⟩) ∈ history) :
    sha256 other ≠ sha256 ticket := by
  obtain ⟨_, apart⟩ := Bool.and_eq_true_iff.mp fresh
  simpa using List.all_eq_true.mp apart _ member

private theorem freshID_old {history : ConsoleHistory} {id : GoString} {row : Session}
    (fresh : freshID db start history id = true) (old : Old start row) : db.same row.id id = false := by
  obtain ⟨apart, _⟩ := Bool.and_eq_true_iff.mp fresh
  obtain ⟨session, member, same, _⟩ := old
  rw [same]
  simpa using List.all_eq_true.mp apart session member

/-- Ids that the database takes for the same were generated by one thread. -/
theorem id_owner {history : ConsoleHistory} (recorded : Recorded (Law db start) history) {t u : Nat}
    {id other : GoString} (left : (t, ⟨.newID, id⟩) ∈ history) (right : (u, ⟨.newID, other⟩) ∈ history)
    (same : db.same id other = true) : t = u := by
  obtain equal | ⟨earlier, last, member⟩ | ⟨earlier, last, member⟩ := member_order left right
  · exact congrArg Prod.fst equal
  · have apart := freshID_other (recorded _ _ _ last) member
    rw [db.same_symm, same] at apart
    cases apart
  · have apart := freshID_other (recorded _ _ _ last) member
    rw [same] at apart
    cases apart

theorem ticket_owner {history : ConsoleHistory} (recorded : Recorded (Law db start) history) {t u : Nat}
    {ticket other : GoString} (left : (t, ⟨.newTicket, ticket⟩) ∈ history)
    (right : (u, ⟨.newTicket, other⟩) ∈ history)
    (same : sha256 ticket = sha256 other) : t = u := by
  obtain equal | ⟨earlier, last, member⟩ | ⟨earlier, last, member⟩ := member_order left right
  · exact congrArg Prod.fst equal
  · exact absurd same.symm (freshTicket_other (recorded _ _ _ last) member)
  · exact absurd same (freshTicket_other (recorded _ _ _ last) member)

/-- Of the calls that a thread makes but once, there is one. -/
private theorem made_once (disciplined : Disciplined panel.audit config) {kind : Call → Bool}
    (once : ∀ task earlier event, kind event.call = true → Rule panel task earlier event → First kind earlier)
    {t : Nat} {first second : ConsoleEvent} (left : (t, first) ∈ config.history)
    (right : (t, second) ∈ config.history) (ofKind : kind first.call = true)
    (alsoOfKind : kind second.call = true) : first = second := by
  obtain equal | ⟨earlier, last, member⟩ | ⟨earlier, last, member⟩ := member_order left right
  · exact congrArg Prod.snd equal
  · obtain ⟨later, split⟩ := last
    obtain ⟨thread, _, rule⟩ := disciplined.justified split.symm
    have none := once thread.task _ first ofKind rule second (mem_own.mpr member)
    rw [alsoOfKind] at none
    cases none
  · obtain ⟨later, split⟩ := last
    obtain ⟨thread, _, rule⟩ := disciplined.justified split.symm
    have none := once thread.task _ second alsoOfKind rule first (mem_own.mpr member)
    rw [ofKind] at none
    cases none

private theorem created_once (task : Task) (earlier : List ConsoleEvent) (event : ConsoleEvent)
    (creates : event.call.creates = true) (rule : Rule panel task earlier event) : First Call.creates earlier := by
  obtain ⟨request, reply⟩ := event
  cases request
  case createSession session => exact rule.1
  all_goals cases creates

/-- A session is created with an id and the hash of a ticket of its thread. -/
theorem creation_issued (disciplined : Disciplined panel.audit config) {u : Nat} {session : Session}
    {reply : Except GoError Unit} (created : (u, ⟨.createSession session, reply⟩) ∈ config.history) :
    (u, ⟨.newID, session.id⟩) ∈ config.history ∧
      ∃ ticket, (u, ⟨.newTicket, ticket⟩) ∈ config.history ∧ session.ticketHash = sha256 ticket := by
  obtain ⟨_, earlier, _, last, _, ticket, id, issued, hash⟩ :=
    disciplined.traced (List.suffix_refl _) created
  have visible : earlier <:+ config.history := (List.suffix_cons _ _).trans last
  exact ⟨visible.subset (mem_own.mp id), ticket, visible.subset (mem_own.mp issued), hash⟩

private theorem creation_unique (disciplined : Disciplined panel.audit config) {u : Nat} {first second : Session}
    {reply answer : Except GoError Unit} (left : (u, ⟨.createSession first, reply⟩) ∈ config.history)
    (right : (u, ⟨.createSession second, answer⟩) ∈ config.history) : first = second := by
  have same := made_once disciplined created_once left right rfl rfl
  cases same
  rfl

theorem Lawful.creation_of_id (lawful : Lawful db start config) (disciplined : Disciplined panel.audit config)
    {t u : Nat} {first second : Session} {reply answer : Except GoError Unit}
    (left : (t, ⟨.createSession first, reply⟩) ∈ config.history)
    (right : (u, ⟨.createSession second, answer⟩) ∈ config.history)
    (same : db.same first.id second.id = true) : first = second := by
  have owner := id_owner lawful.recorded (creation_issued disciplined left).1 (creation_issued disciplined right).1 same
  subst owner
  exact creation_unique disciplined left right

theorem Lawful.creation_of_ticket (lawful : Lawful db start config)
    (disciplined : Disciplined panel.audit config) {t u : Nat} {first second : Session}
    {reply answer : Except GoError Unit} (left : (t, ⟨.createSession first, reply⟩) ∈ config.history)
    (right : (u, ⟨.createSession second, answer⟩) ∈ config.history)
    (same : first.ticketHash = second.ticketHash) : first = second := by
  obtain ⟨_, ticket, issued, hash⟩ := creation_issued disciplined left
  obtain ⟨_, other, alsoIssued, otherHash⟩ := creation_issued disciplined right
  have owner := ticket_owner lawful.recorded issued alsoIssued (by rw [← hash, ← otherHash, same])
  subst owner
  exact creation_unique disciplined left right

/-- A target is put under an id that its thread generated. -/
theorem put_issued (disciplined : Disciplined panel.audit config) {visible : ConsoleHistory}
    (last : visible <:+ config.history) {u : Nat} {id : GoString} {target : URL}
    (put : (u, ⟨.put id target, ()⟩) ∈ visible) : (u, ⟨.newID, id⟩) ∈ visible := by
  obtain ⟨_, earlier, _, last, _, generated, _⟩ := disciplined.traced last put
  exact ((List.suffix_cons _ _).trans last).subset (mem_own.mp generated)

/-! ## The law, step by step -/

/-- A target that was taken stays away: it is put but once, and under an id that
is generated but once. -/
private theorem advance_spent (disciplined : Disciplined panel.audit next) (supplied : Supplied config)
    (lawful : Lawful db start config) (recorded : Recorded (Law db start) next.history) {t : Nat}
    {request : Call} {reply : request.Reply} {choice : Choice} {state : State}
    (history : next.history = (t, ⟨request, reply⟩) :: config.history)
    (answered : perform db request choice config.state = some (reply, state)) (u : Nat) (id : GoString)
    (target : URL) (taken : (u, ⟨.take id, some target⟩) ∈ (t, ⟨request, reply⟩) :: config.history) :
    state.targets id = none := by
  cases List.mem_cons.mp taken with
  | inl same =>
      cases same
      have left : state.targets = fun other => if other = id then none else config.state.targets other :=
        congrArg (fun result => result.2.targets) (Option.some.inj answered).symm
      rw [left]
      exact if_pos rfl
  | inr former =>
      by_contra waits
      obtain ⟨url, waiting⟩ := Option.ne_none_iff_exists'.mp waits
      cases perform_waiting answered waiting with
      | inl waited =>
          rw [lawful.spent u id target former] at waited
          cases waited
      | inr put =>
          subst put
          obtain ⟨behind, earlier, split⟩ := List.append_of_mem former
          obtain ⟨v, put⟩ := supplied.taken earlier u id target ⟨behind, split.symm⟩
          have putBefore : (v, ⟨.put id target, ()⟩) ∈ config.history := by
            rw [split]
            exact List.mem_append_right _ (List.mem_cons_of_mem _ put)
          have putNow : (t, ⟨.put id url, reply⟩) ∈ next.history := by
            rw [history]
            exact List.mem_cons_self
          have visible : config.history <:+ next.history := by
            rw [history]
            exact List.suffix_cons _ _
          have owner : t = v :=
            id_owner recorded (put_issued disciplined (List.suffix_refl _) putNow)
              (put_issued disciplined (List.suffix_refl _) (visible.subset putBefore)) (db.same_refl id)
          subst owner
          obtain ⟨thread, _, once, _⟩ := disciplined.justified (history.trans (List.nil_append _).symm)
          have none := once _ (mem_own.mpr putBefore)
          cases none

private theorem lawful_step (disciplined : Disciplined panel.audit next) (supplied : Supplied config)
    (lawful : Lawful db start config) {label : ConsoleLabel}
    (transition : (panel.system db).Transition config label next) (met : fresh db start config label = true) :
    Lawful db start next := by
  cases transition with
  | spawned task => exact ⟨lawful.recorded, lawful.rows, lawful.spent⟩
  | crashed => exact ⟨lawful.recorded, lawful.rows, fun _ _ _ _ => rfl⟩
  | external acted => cases acted
  | performed found answered =>
      next t task request continuation choice reply state =>
      have recorded : Recorded (Law db start) ((t, ⟨request, reply⟩) :: config.history) := by
        apply lawful.recorded.cons
        apply perform_law answered lawful.rows lawful.spent
        · intro id same
          cases same
          exact met
        · intro ticket same
          cases same
          exact met
      refine ⟨recorded, ?_, advance_spent disciplined supplied lawful recorded rfl answered⟩
      apply perform_rows answered
      · intro row member
        exact (lawful.rows row member).mono fun _ => List.mem_cons_of_mem _
      · intro session same
        subst same
        exact .inr ⟨session, ⟨t, reply, List.mem_cons_self⟩, rfl, rfl, rfl⟩

theorem panel_lawful (empty : ∀ id, start.targets id = none)
    (run : (panel.system db).Run (fun config label => fresh db start config label = true)
      (Config.initial start) config) : Lawful db start config := by
  apply System.Run.invariant run
  · refine ⟨.nil, ?_, ?_⟩
    · intro row member
      exact .inl ⟨row, member, rfl, rfl⟩
    · intro u id target impossible
      cases impossible
  · intro before label after reached transition met lawful
    exact lawful_step (panel_disciplined (reached.snoc transition met)) (panel_supplied empty reached) lawful
      transition met

/-! ## One console -/

/-- A row under an id that some thread generated is one that was created. -/
private theorem origin_created {earlier : ConsoleHistory} (recorded : Recorded (Law db start) config.history)
    (visible : earlier <:+ config.history) {u : Nat} {id : GoString} (generated : (u, ⟨.newID, id⟩) ∈ earlier)
    {row : Session} (origin : Origin db start earlier row) (same : db.same row.id id = true) :
    ∃ creation, Created db earlier creation row := by
  cases origin with
  | inl old =>
      obtain ⟨_, _, fresh⟩ := recorded.mem visible generated
      rw [freshID_old fresh old] at same
      cases same
  | inr created => exact created

/-- The session of a ticket that was consumed, if its id was generated, is one that
was created with the ticket, and the UPDATE found it as `Admitted` says. -/
theorem Lawful.consumed (lawful : Lawful db start config) (disciplined : Disciplined panel.audit config)
    {earlier : ConsoleHistory} (visible : earlier <:+ config.history) {t u : Nat} {ticket : GoString}
    {openedAt : Instant} {session row : Session} (consumed : Consumed ticket (own t earlier) openedAt session row)
    (generated : (u, ⟨.newID, session.id⟩) ∈ earlier) :
    ∃ creation, session.id = creation.id ∧ creation.ticketHash = sha256 ticket ∧ Created db earlier creation row ∧
      openedAt < row.expiresAt ∧ row.openedAt = none ∧ row.closedAt = none := by
  have inHistory : ∀ {v : Nat} {request : Call} {reply : request.Reply}, (v, ⟨request, reply⟩) ∈ earlier →
      (v, ⟨request, reply⟩) ∈ config.history := fun member => visible.subset member
  obtain ⟨_, foundMade, origin, hash⟩ := lawful.recorded.mem visible (mem_own.mp consumed.found)
  obtain ⟨creation, created⟩ := origin_created lawful.recorded visible generated
    (origin.mono ((List.suffix_cons _ _).trans foundMade).subset) (db.same_refl session.id)
  obtain ⟨_, openMade, opened⟩ := lawful.recorded.mem visible (mem_own.mp consumed.updated)
  obtain ⟨rowOrigin, openable⟩ := opened row List.mem_cons_self
  simp only [Session.openable, Bool.and_eq_true, Option.isNone_iff_eq_none] at openable
  obtain ⟨⟨⟨sameID, unopened⟩, unclosed⟩, _⟩ := openable
  obtain ⟨other, otherCreated⟩ := origin_created lawful.recorded visible generated
    (rowOrigin.mono ((List.suffix_cons _ _).trans openMade).subset) sameID
  -- the row that was changed is the one that was found
  have same : other = creation := by
    obtain ⟨⟨v, reply, member⟩, id, _⟩ := created
    obtain ⟨⟨w, answer, otherMember⟩, otherID, _⟩ := otherCreated
    apply lawful.creation_of_id disciplined (inHistory otherMember) (inHistory member)
    rw [← id, ← otherID]
    exact sameID
  subst same
  obtain ⟨_, id, ticketHash, expiresAt⟩ := created
  refine ⟨other, id, ?_, otherCreated, ?_, unopened, unclosed⟩
  · rw [← ticketHash, hash]
  · rw [otherCreated.2.2.2, ← expiresAt]
    exact consumed.early

theorem Lawful.admitted (lawful : Lawful db start config) (disciplined : Disciplined panel.audit config)
    (supplied : Supplied config) {t : Nat} {target : URL} {earlier : ConsoleHistory}
    (made : (t, ⟨.proxy target, ()⟩) :: earlier <:+ config.history) :
    ∃ ticket openedAt creation row, presents config ticket t = true ∧
      Admitted db ticket t earlier target openedAt creation row := by
  have visible : earlier <:+ config.history := (List.suffix_cons _ _).trans made
  obtain ⟨later, split⟩ := made
  obtain ⟨thread, found, _, ticket, openedAt, session, row, presented, consumed, taken⟩ :=
    disciplined.justified split.symm
  -- the session has an id that was generated here, for a target was put under it
  obtain ⟨beforeTake, takeMade, _⟩ := lawful.recorded.mem visible (mem_own.mp taken)
  obtain ⟨u, put⟩ := supplied.taken beforeTake t session.id target (takeMade.trans visible)
  have behindTake : beforeTake <:+ earlier := (List.suffix_cons _ _).trans takeMade
  have generated : (u, ⟨.newID, session.id⟩) ∈ earlier :=
    behindTake.subset (put_issued disciplined (behindTake.trans visible) put)
  obtain ⟨creation, id, ofTicket, created, early, unopened, unclosed⟩ :=
    lawful.consumed disciplined visible consumed generated
  refine ⟨ticket, openedAt, creation, row, ?_, ?_⟩
  · simp [presents, found, presented]
  · constructor
    · exact consumed.handshake
    · exact ofTicket
    · exact created
    · rw [← id]
      exact mem_own.mp consumed.updated
    · rw [← id]
      exact mem_own.mp taken
    · exact early
    · exact unopened
    · exact unclosed

private theorem presents_unique {ticket other : GoString} {t : Nat} (left : presents config ticket t = true)
    (right : presents config other t = true) : ticket = other := by
  obtain ⟨thread, found, own⟩ := (Option.any_eq_true _ _).mp left
  obtain ⟨same, alsoFound, alsoOwn⟩ := (Option.any_eq_true _ _).mp right
  cases found.symm.trans alsoFound
  rw [decide_eq_true_eq] at own alsoOwn
  cases own.symm.trans alsoOwn
  rfl

/-- Two consoles of one ticket would have taken one target twice. -/
theorem Lawful.alone (lawful : Lawful db start config) (disciplined : Disciplined panel.audit config)
    (supplied : Supplied config) {t u : Nat} {target other : URL} {earlier : ConsoleHistory} {ticket : GoString}
    (made : (t, ⟨.proxy target, ()⟩) :: earlier <:+ config.history)
    (former : (u, ⟨.proxy other, ()⟩) ∈ earlier) (presented : presents config ticket t = true)
    (alsoPresented : presents config ticket u = true) : False := by
  have visible : earlier <:+ config.history := (List.suffix_cons _ _).trans made
  obtain ⟨_, before, _, formerMade, _⟩ := disciplined.traced visible former
  have behind : before <:+ earlier := (List.suffix_cons _ _).trans formerMade
  obtain ⟨_, _, creation, _, presents, admitted⟩ := lawful.admitted disciplined supplied made
  obtain ⟨_, _, otherCreation, _, otherPresents, otherAdmitted⟩ :=
    lawful.admitted disciplined supplied (formerMade.trans visible)
  have ofTicket := presents_unique presented presents
  have otherOfTicket := presents_unique alsoPresented otherPresents
  subst ofTicket otherOfTicket
  have same : creation = otherCreation := by
    obtain ⟨v, reply, created⟩ := admitted.created.1
    obtain ⟨w, answer, otherCreated⟩ := otherAdmitted.created.1
    apply lawful.creation_of_ticket disciplined (visible.subset created)
      (visible.subset (behind.subset otherCreated))
    rw [admitted.ofTicket, otherAdmitted.ofTicket]
  subst same
  have taken := admitted.taken
  have otherTaken := behind.subset otherAdmitted.taken
  obtain equal | ⟨rest, last, member⟩ | ⟨rest, last, member⟩ := member_order taken otherTaken
  · obtain ⟨later, split⟩ := made
    obtain ⟨_, _, once, _⟩ := disciplined.justified split.symm
    have sameThread : t = u := congrArg Prod.fst equal
    rw [← sameThread] at former
    cases once _ (mem_own.mpr former)
  · exact lawful.recorded _ _ _ (last.trans visible) u other member
  · exact lawful.recorded _ _ _ (last.trans visible) t target member

/-- Over any interleaving, restores and restarts included: a ticket leads to at
most one console, and to that only as `Admitted` says. -/
theorem tickets_used_once (panel : Panel) (db : Database) (start : State)
    (empty : ∀ id, start.targets id = none) (config : ConsoleConfig)
    (run : (panel.system db).Run (fun config label => fresh db start config label = true)
      (Config.initial start) config) :
    (∀ ticket, config.history.countP (fun entry => entry.2.call.proxies && presents config ticket entry.1) ≤ 1) ∧
      ∀ t target earlier, (t, ⟨.proxy target, ()⟩) :: earlier <:+ config.history →
        ∃ ticket openedAt creation row, presents config ticket t = true ∧
          Admitted db ticket t earlier target openedAt creation row := by
  have disciplined := panel_disciplined run
  have supplied := panel_supplied empty run
  have lawful := panel_lawful empty run
  constructor
  · intro ticket
    apply countP_once
    rintro ⟨t, request, reply⟩ earlier made counted ⟨u, former, answer⟩ member
    by_contra again
    simp only [Bool.and_eq_true, Bool.not_eq_false] at counted again
    cases request
    case proxy target =>
      cases former
      case proxy other => exact lawful.alone disciplined supplied made member counted.2 again.2
      all_goals cases again.1
    all_goals cases counted.1
  · intro t target earlier made
    exact lawful.admitted disciplined supplied made

end Runs

/-- A ticket is presented again after a restore has brought its row back
unopened, and once more after a restart. -/
def replaySchedule : List (System.Move Task Choice) :=
  .spawn (.createEmbedded (text "server") (text "request") (text "198.51.100.9")) ::
    (vncAdvance 0 8 ++ vncStatement 0 :: vncAdvance 0 4) ++
    .spawn .backup :: vncStatement 1 ::
    .spawn (.open_ (text "ticket")) ::
    (vncAdvance 2 1 ++ vncStatement 2 :: vncStatement 2 :: vncAdvance 2 8 ++
      vncStatement 2 :: vncAdvance 2 3) ++
    .spawn (.restore 0) :: vncStatement 3 ::
    .spawn (.open_ (text "ticket")) ::
    (vncAdvance 4 1 ++ vncStatement 4 :: vncStatement 4 :: vncAdvance 4 2 ++ [vncStatement 4]) ++
    .crash :: .spawn (.open_ (text "ticket")) :: (vncAdvance 5 1 ++ [vncStatement 5])

theorem tickets_used_once_replayed : ∃ config,
    (vncPanel.system (.plain .sqlite)).execute (fun config label => fresh (.plain .sqlite) nothing config label)
      replaySchedule (Config.initial nothing) = some config ∧
    config.history.countP (fun entry => entry.2.call.takes) = 2 ∧
    config.history.any (fun entry => entry.2.call.proxies) = true ∧
    (∀ ticket, config.history.countP (fun entry => entry.2.call.proxies && presents config ticket entry.1) ≤ 1) ∧
    ∀ t target earlier, (t, ⟨.proxy target, ()⟩) :: earlier <:+ config.history →
      ∃ ticket openedAt creation row, presents config ticket t = true ∧
        Admitted (.plain .sqlite) ticket t earlier target openedAt creation row := by
  have executed : ((vncPanel.system (.plain .sqlite)).execute
      (fun config label => fresh (.plain .sqlite) nothing config label) replaySchedule (Config.initial nothing)).map
      (fun config => (config.history.countP (fun entry => entry.2.call.takes),
        config.history.any (fun entry => entry.2.call.proxies))) = some (2, true) := by
    decide +kernel
  obtain ⟨config, reached, same⟩ := Option.map_eq_some_iff.mp executed
  obtain ⟨takes, proxies⟩ := Prod.mk.inj same
  refine ⟨config, reached, takes, proxies, ?_⟩
  exact tickets_used_once vncPanel (.plain .sqlite) nothing (fun _ => rfl) config
    (System.execute_run reached fun _ _ met => met)

end NodeAtlas.Console
