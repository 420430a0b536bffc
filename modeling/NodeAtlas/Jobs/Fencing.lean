import Mathlib.Data.List.TakeWhile
import NodeAtlas.Jobs.Fleet

/-! Leases exclude each other, and a worker that has lost its lease settles
nothing. Settlement is fenced by the owner's name alone, so the proof follows
which grant a name on a row stands for. -/

set_option autoImplicit false

namespace NodeAtlas.Jobs.Fleet

open Interleaving

/-! ## The grants and settlements of one job -/

section Touching

variable (db : Database)

/-- The event granted or settled the job. -/
def touches (id : GoString) (entry : Nat × FleetEvent) : Bool :=
  match grantOf entry.2 with
  | some lease => db.same lease.job.id id
  | none => (settledBy entry.2).any fun settled => db.same settled id

/-- What a thread has seen pass since its last grant. -/
def since (t : Nat) (history : List (Nat × FleetEvent)) : List (Nat × FleetEvent) :=
  history.takeWhile fun entry => !(decide (entry.1 = t) && (grantOf entry.2).isSome)

/-- The leases of a job that their holders have not settled, latest first. -/
def unsettled (id : GoString) : List (Nat × FleetEvent) → List (Nat × Lease)
  | [] => []
  | (t, event) :: earlier =>
      if touches db id (t, event) then
        match grantOf event with
        | some lease => (t, lease) :: unsettled id earlier
        | none => (unsettled id earlier).filter fun holder => holder.1 ≠ t
      else unsettled id earlier

/-- The grant that no later one and no settlement has replaced. -/
def latestGrant (id : GoString) (history : List (Nat × FleetEvent)) : Option (Nat × Lease) :=
  (history.find? (touches db id)).bind fun entry => (grantOf entry.2).map fun lease => (entry.1, lease)

variable {db}

theorem touches_same {id other : GoString} (same : db.same id other = true) :
    touches db id = touches db other := by
  funext entry
  simp only [Database.same, decide_eq_true_eq] at same
  simp only [touches, Database.same, same]

theorem touches_grant {id : GoString} {entry : Nat × FleetEvent} {lease : Lease}
    (grant : grantOf entry.2 = some lease) : touches db id entry = db.same lease.job.id id := by
  simp [touches, grant]

theorem touches_settled {id settled : GoString} {entry : Nat × FleetEvent}
    (done : settledBy entry.2 = some settled) : touches db id entry = db.same settled id := by
  simp [touches, settledBy_ungranted done, done]

theorem touches_quiet {id : GoString} {entry : Nat × FleetEvent}
    (ungranted : grantOf entry.2 = none) (unsettled : settledBy entry.2 = none) :
    touches db id entry = false := by
  simp [touches, ungranted, unsettled]

theorem since_cons_grant {t : Nat} {event : FleetEvent} {lease : Lease}
    {history : List (Nat × FleetEvent)} (grant : grantOf event = some lease) :
    since t ((t, event) :: history) = [] := by
  simp [since, grant]

theorem since_cons_other {t u : Nat} {event : FleetEvent} {history : List (Nat × FleetEvent)}
    (other : u ≠ t ∨ grantOf event = none) :
    since t ((u, event) :: history) = (u, event) :: since t history := by
  rcases other with different | ungranted
  · simp [since, different]
  · simp [since, ungranted]

/-- A worker that holds a lease was granted it right before all that it has
seen since. -/
theorem since_holding {t : Nat} {lease : Lease} {history : List (Nat × FleetEvent)}
    (held : holding (own t history) = some lease) :
    ∃ event earlier, history = since t history ++ (t, event) :: earlier ∧
      grantOf event = some lease := by
  induction history with
  | nil => cases held
  | cons entry history ih =>
      obtain ⟨u, event⟩ := entry
      by_cases mine : u = t
      · subst mine
        rw [own_cons_self] at held
        cases grant : grantOf event with
        | some granted =>
            simp only [holding, grant] at held
            cases held
            exact ⟨event, history, by rw [since_cons_grant grant]; rfl, grant⟩
        | none =>
            simp only [holding, grant] at held
            split at held
            · cases held
            · obtain ⟨first, earlier, split, granted⟩ := ih held
              refine ⟨first, earlier, ?_, granted⟩
              rw [since_cons_other (.inr grant), List.cons_append, ← split]
      · rw [own_cons_other mine] at held
        obtain ⟨first, earlier, split, granted⟩ := ih held
        refine ⟨first, earlier, ?_, granted⟩
        rw [since_cons_other (.inl mine), List.cons_append, ← split]

end Touching

/-! ## Along a run -/

/-- Workers that run at the same time have names that can be told apart. -/
def Named (distinct : GoString → GoString → Prop) (config : FleetConfig) (label : FleetLabel) :
    Prop :=
  ∀ activity owner, label = .spawned activity → activity.owner = some owner →
    ∀ thread ∈ config.threads, thread.active = true →
      ∀ other, thread.task.owner = some other → distinct owner other

/-- What the history says about the rows. -/
structure Booked (db : Database) (history : List (Nat × FleetEvent)) (state : State) : Prop where
  known : ∀ id entry, history.find? (touches db id) = some entry →
    ∃ row ∈ state.rows, db.same row.id id = true
  leased : ∀ row ∈ state.rows, row.status = .running →
    ∃ t lease, latestGrant db row.id history = some (t, lease) ∧
      row.leaseOwner = some lease.owner ∧ row.leaseExpiresAt = some (db.stamp lease.expiresAt)
  idle : ∀ row ∈ state.rows, row.status ≠ .running → latestGrant db row.id history = none
  lapsed : ∀ id, ∃ rest, unsettled db id history = (latestGrant db id history).toList ++ rest ∧
    ∀ holder ∈ rest, db.stamp holder.2.expiresAt ≤ state.clock

/-- What the history says about the rows and the workers. -/
structure Account (db : Database) (columns : Row → Bool) (config : FleetConfig) : Prop where
  apart : config.state.rows.Pairwise fun left right => (engine db columns).clash left right = false
  read : ∀ t value, (t, (⟨.now, value⟩ : FleetEvent)) ∈ config.history →
    value ≤ config.state.clock
  named : ∀ (t u : Nat) (thread other : FleetThread) (owner name : GoString),
    config.threads[t]? = some thread → config.threads[u]? = some other → t ≠ u →
    thread.active = true → other.active = true → thread.task.owner = some owner →
    other.task.owner = some name → db.same owner name = false
  fenced : ∀ (t : Nat) (thread : FleetThread) (owner : GoString),
    config.threads[t]? = some thread → thread.active = true → thread.task.owner = some owner →
    (holding (own t config.history)).isSome = true →
    ∀ entry ∈ since t config.history, ∀ lease, grantOf entry.2 = some lease →
      db.same lease.owner owner = false
  booked : Booked db config.history config.state

section Account

variable {db : Database} {columns : Row → Bool} {config next : FleetConfig}

theorem latestGrant_cons_other {id : GoString} {entry : Nat × FleetEvent}
    {history : List (Nat × FleetEvent)} (untouched : touches db id entry = false) :
    latestGrant db id (entry :: history) = latestGrant db id history := by
  simp [latestGrant, untouched]

theorem latestGrant_cons_grant {id : GoString} {t : Nat} {event : FleetEvent} {lease : Lease}
    {history : List (Nat × FleetEvent)} (grant : grantOf event = some lease)
    (same : db.same lease.job.id id = true) :
    latestGrant db id ((t, event) :: history) = some (t, lease) := by
  have touched : touches db id (t, event) = true := (touches_grant grant).trans same
  simp [latestGrant, touched, grant]

theorem latestGrant_cons_settled {id settled : GoString} {t : Nat} {event : FleetEvent}
    {history : List (Nat × FleetEvent)} (done : settledBy event = some settled)
    (same : db.same settled id = true) :
    latestGrant db id ((t, event) :: history) = none := by
  have touched : touches db id (t, event) = true := (touches_settled done).trans same
  simp [latestGrant, touched, settledBy_ungranted done]

theorem latestGrant_same {id other : GoString} (same : db.same id other = true)
    (history : List (Nat × FleetEvent)) :
    latestGrant db id history = latestGrant db other history := by
  simp only [latestGrant, touches_same same]

/-- The last grant of the job is that of a worker that holds it, or one that
the worker has seen since. -/
theorem latestGrant_holding {t u : Nat} {lease granted : Lease}
    {history : List (Nat × FleetEvent)} (held : holding (own t history) = some lease)
    (latest : latestGrant db lease.job.id history = some (u, granted)) :
    (u = t ∧ granted = lease) ∨
      ∃ entry ∈ since t history, entry.1 = u ∧ grantOf entry.2 = some granted := by
  obtain ⟨event, earlier, split, grant⟩ := since_holding held
  obtain ⟨entry, found, made⟩ := Option.bind_eq_some_iff.mp latest
  obtain ⟨stated, same, equal⟩ := Option.map_eq_some_iff.mp made
  cases equal
  rw [split, List.find?_append, Option.or_eq_some_iff] at found
  rcases found with seen | ⟨_, own_⟩
  · exact .inr ⟨entry, List.mem_of_find?_eq_some seen, rfl, same⟩
  · have touched : touches db lease.job.id (t, event) = true :=
      (touches_grant grant).trans (db.same_refl _)
    rw [List.find?_cons, touched] at own_
    cases own_
    rw [grant] at same
    exact .inl ⟨rfl, (Option.some.inj same).symm⟩

private theorem booked_empty (clock : Instant) : Booked db [] ⟨[], clock⟩ where
  known id entry found := by cases found
  leased row member := by cases member
  idle row member := by cases member
  lapsed id := ⟨[], rfl, fun holder member => by cases member⟩

theorem account_empty (clock : Instant) : Account db columns (empty clock) where
  apart := .nil
  read t value member := by cases member
  named t u thread other owner name found := by cases found
  fenced t thread owner found := by cases found
  booked := booked_empty clock

private theorem found_spawned {activity : Activity} {program : Process (Except GoError Unit)}
    {t : Nat} {thread : FleetThread}
    (found : (config.spawn activity program).threads[t]? = some thread) :
    config.threads[t]? = some thread ∨
      config.threads.length = t ∧ thread = ⟨activity, some program⟩ := by
  rcases Disciplined.spawn_found found with former | ⟨beyond, made⟩
  · exact .inl former
  · have bound := (List.getElem?_eq_some_iff.mp found).1
    simp only [Config.spawn, List.length_append, List.length_singleton] at bound
    exact .inr ⟨by omega, made⟩

private theorem Account.spawn (account : Account db columns config)
    (disciplined : Disciplined audit config) (activity : Activity)
    (fresh : Named (fun owner other => db.same owner other = false) config (.spawned activity)) :
    Account db columns (config.spawn activity activity.program) := by
  refine ⟨account.apart, account.read, ?_, ?_, account.booked⟩
  · intro t u thread other owner name found located different active running owned named
    rcases found_spawned found with former | ⟨newer, rfl⟩
    · rcases found_spawned located with before | ⟨_, rfl⟩
      · exact account.named t u thread other owner name former before different active running
          owned named
      · have apart := fresh activity name rfl named thread (List.mem_of_getElem? former) active
          owner owned
        rw [db.same_symm]
        exact apart
    · rcases found_spawned located with before | ⟨newest, _⟩
      · exact fresh activity owner rfl owned other (List.mem_of_getElem? before) running name named
      · omega
  · intro t thread owner found active owned held
    rcases found_spawned found with former | ⟨newer, rfl⟩
    · exact account.fenced t thread owner former active owned held
    · have nothing : own t config.history = [] := disciplined.started t (by omega)
      rw [show own t (config.spawn activity activity.program).history = [] from nothing] at held
      cases held

private theorem Account.crash (account : Account db columns config) :
    Account db columns ((fleet db columns).crash config) := by
  have alive : ∀ (t : Nat) (thread : FleetThread),
      ((fleet db columns).crash config).threads[t]? = some thread → thread.active = true → False := by
    intro t thread found active
    simp only [System.crash, List.getElem?_map, Option.map_eq_some_iff] at found
    obtain ⟨former, _, rfl⟩ := found
    unfold Thread.kill at active
    split at active
    · cases active
    · next idle => exact idle active
  refine ⟨account.apart, account.read, ?_, ?_, account.booked⟩
  · intro t u thread other owner name found _ _ active
    exact (alive t thread found active).elim
  · intro t thread owner found active
    exact (alive t thread found active).elim

/-! ## The table and the grants, call by call -/

section Booking

variable {history : List (Nat × FleetEvent)} {state after : State} {t : Nat} {event : FleetEvent}

private theorem Booked.quiet (booked : Booked db history state) (ungranted : grantOf event = none)
    (unsettled_ : settledBy event = none) (same : after.rows = state.rows)
    (later : state.clock ≤ after.clock) : Booked db ((t, event) :: history) after := by
  have untouched : ∀ id, touches db id (t, event) = false :=
    fun id => touches_quiet ungranted unsettled_
  refine ⟨?_, ?_, ?_, ?_⟩
  · intro id entry found
    rw [List.find?_cons, untouched id] at found
    rw [same]
    exact booked.known id entry found
  · intro row member running
    rw [latestGrant_cons_other (untouched row.id)]
    exact booked.leased row (same ▸ member) running
  · intro row member waiting
    rw [latestGrant_cons_other (untouched row.id)]
    exact booked.idle row (same ▸ member) waiting
  · intro id
    obtain ⟨rest, split, lapsed⟩ := booked.lapsed id
    refine ⟨rest, ?_, fun holder member => Int.le_trans (lapsed holder member) later⟩
    rw [latestGrant_cons_other (untouched id)]
    simpa [unsettled, untouched id] using split

private theorem Booked.enqueued (booked : Booked db history state) {row : Row}
    (queued : row.status = .queued)
    (apart : (state.rows ++ [row]).Pairwise fun left right =>
      (engine db columns).clash left right = false)
    (ungranted : grantOf event = none) (unsettled_ : settledBy event = none)
    (same : after.rows = state.rows ++ [row]) (later : state.clock ≤ after.clock) :
    Booked db ((t, event) :: history) after := by
  have untouched : ∀ id, touches db id (t, event) = false :=
    fun id => touches_quiet ungranted unsettled_
  have unseen : history.find? (touches db row.id) = none := by
    rw [← Option.not_isSome_iff_eq_none]
    intro seen
    obtain ⟨entry, found⟩ := Option.isSome_iff_exists.mp seen
    obtain ⟨old, member, clashing⟩ := booked.known row.id entry found
    have clear := (List.pairwise_append.mp apart).2.2 old member row List.mem_cons_self
    simp only [engine] at clear
    rw [clashing] at clear
    cases clear
  refine ⟨?_, ?_, ?_, ?_⟩
  · intro id entry found
    rw [List.find?_cons, untouched id] at found
    obtain ⟨old, member, matched⟩ := booked.known id entry found
    exact ⟨old, same ▸ List.mem_append_left _ member, matched⟩
  · intro other member running
    rw [latestGrant_cons_other (untouched other.id)]
    rw [same] at member
    rcases List.mem_append.mp member with former | fresh
    · exact booked.leased other former running
    · rw [List.mem_singleton.mp fresh, queued] at running
      cases running
  · intro other member waiting
    rw [latestGrant_cons_other (untouched other.id)]
    rw [same] at member
    rcases List.mem_append.mp member with former | fresh
    · exact booked.idle other former waiting
    · rw [List.mem_singleton.mp fresh]
      simp [latestGrant, unseen]
  · intro id
    obtain ⟨rest, split, lapsed⟩ := booked.lapsed id
    refine ⟨rest, ?_, fun holder member => Int.le_trans (lapsed holder member) later⟩
    rw [latestGrant_cons_other (untouched id)]
    simpa [unsettled, untouched id] using split

private theorem Booked.granted (booked : Booked db history state)
    (instants : ∀ left right, db.notAfter left right = decide (left ≤ right))
    {owner : GoString} {at_ : Instant} {duration : Duration} {lease : Lease} {row : Row}
    (grant : grantOf event = some lease) (member : row ∈ state.rows)
    (chosen : (leasable db at_).condition row = true) (sameID : lease.job.id = row.id)
    (named : lease.owner = owner) (until_ : lease.expiresAt = at_ + duration)
    (past : at_ ≤ state.clock)
    (same : after.rows = changeRow db row.id (Row.leased db owner at_ (at_ + duration)) state.rows)
    (later : state.clock ≤ after.clock) : Booked db ((t, event) :: history) after := by
  have touched : ∀ id, touches db id (t, event) = db.same row.id id := by
    intro id
    rw [touches_grant grant, sameID]
  refine ⟨?_, ?_, ?_, ?_⟩
  · intro id entry found
    rw [same]
    have before : ∃ old ∈ state.rows, db.same old.id id = true := by
      rw [List.find?_cons] at found
      split at found
      · next matched => exact ⟨row, member, (touched id).symm.trans matched⟩
      · exact booked.known id entry found
    obtain ⟨old, among, matched⟩ := before
    obtain ⟨newer, stays, equal⟩ := changeRow_known db row.id
      (Row.leased db owner at_ (at_ + duration)) (fun _ => rfl) among
    exact ⟨newer, stays, by rw [equal]; exact matched⟩
  · intro other among running
    rw [same] at among
    rcases changeRow_cases among with ⟨former, apart_⟩ | ⟨old, former, matched, rfl⟩
    · rw [latestGrant_cons_other ((touched other.id).trans (by rw [db.same_symm]; exact apart_))]
      exact booked.leased other former running
    · refine ⟨t, lease, latestGrant_cons_grant grant ?_, ?_, ?_⟩
      · rw [sameID, db.same_symm]
        exact matched
      · rw [named]
        rfl
      · rw [until_]
        rfl
  · intro other among waiting
    rw [same] at among
    rcases changeRow_cases among with ⟨former, apart_⟩ | ⟨old, _, _, rfl⟩
    · rw [latestGrant_cons_other ((touched other.id).trans (by rw [db.same_symm]; exact apart_))]
      exact booked.idle other former waiting
    · exact absurd rfl waiting
  · intro id
    obtain ⟨rest, split, lapsed⟩ := booked.lapsed id
    by_cases matched : db.same row.id id = true
    · have mine : touches db id (t, event) = true := (touched id).trans matched
      have expired : ∀ holder ∈ unsettled db id history,
          db.stamp holder.2.expiresAt ≤ state.clock := by
        intro holder listed
        rw [split, List.mem_append] at listed
        rcases listed with latest | older
        · rw [← latestGrant_same matched] at latest
          simp only [leasable, instants, Bool.or_eq_true, Bool.and_eq_true, decide_eq_true_eq]
            at chosen
          rcases chosen with ⟨queued, _⟩ | ⟨running, ceased⟩
          · rw [booked.idle row member (by rw [queued]; simp)] at latest
            cases latest
          · obtain ⟨u, former, is, _, ends⟩ := booked.leased row member running
            rw [is] at latest
            rw [ends] at ceased
            rw [List.mem_singleton.mp latest]
            simp only [Option.any_some, decide_eq_true_eq] at ceased
            exact Int.le_trans ceased past
        · exact lapsed holder older
      refine ⟨unsettled db id history, ?_, fun holder listed =>
        Int.le_trans (expired holder listed) later⟩
      rw [latestGrant_cons_grant grant (by rw [sameID]; exact matched)]
      simp [unsettled, mine, grant]
    · have other : touches db id (t, event) = false :=
        (touched id).trans (Bool.eq_false_iff.mpr matched)
      refine ⟨rest, ?_, fun holder listed => Int.le_trans (lapsed holder listed) later⟩
      rw [latestGrant_cons_other other]
      simpa [unsettled, other] using split

private theorem Booked.settled (booked : Booked db history state)
    {id : GoString} {row : Row} {change : Row → Row} {lease : Lease}
    (apart : state.rows.Pairwise fun left right => (engine db columns).clash left right = false)
    (done : settledBy event = some id) (member : row ∈ state.rows)
    (matched : db.same row.id id = true) (settlement : Settlement row (change row))
    (latest : latestGrant db id history = some (t, lease))
    (same : after.rows = changeRow db id change state.rows) (later : state.clock ≤ after.clock) :
    Booked db ((t, event) :: history) after := by
  have touched : ∀ other, touches db other (t, event) = db.same id other :=
    fun other => touches_settled done
  have only : ∀ old ∈ state.rows, db.same old.id id = true → old = row := by
    intro old among equal
    refine same_row apart member among ?_
    simp only [Database.same, decide_eq_true_eq] at equal matched ⊢
    rw [equal, matched]
  refine ⟨?_, ?_, ?_, ?_⟩
  · intro other entry found
    have before : ∃ old ∈ state.rows, db.same old.id other = true := by
      rw [List.find?_cons] at found
      split at found
      · next equal =>
          refine ⟨row, member, ?_⟩
          rw [touched] at equal
          simp only [Database.same, decide_eq_true_eq] at equal matched ⊢
          rw [matched, equal]
      · exact booked.known other entry found
    obtain ⟨old, among, equal⟩ := before
    rw [same]
    refine ⟨_, List.mem_map_of_mem among, ?_⟩
    split
    · next meant =>
        rw [only old among meant, settlement.sameID, ← only old among meant]
        exact equal
    · exact equal
  · intro other among running
    rw [same] at among
    rcases changeRow_cases among with ⟨former, apart_⟩ | ⟨old, former, meant, rfl⟩
    · rw [latestGrant_cons_other ((touched other.id).trans (by rw [db.same_symm]; exact apart_))]
      exact booked.leased other former running
    · rw [only old former meant] at running
      exact absurd running settlement.ceased
  · intro other among waiting
    rw [same] at among
    rcases changeRow_cases among with ⟨former, apart_⟩ | ⟨old, former, meant, rfl⟩
    · rw [latestGrant_cons_other ((touched other.id).trans (by rw [db.same_symm]; exact apart_))]
      exact booked.idle other former waiting
    · rw [only old former meant, settlement.sameID]
      exact latestGrant_cons_settled done (by rw [db.same_symm]; exact matched)
  · intro other
    obtain ⟨rest, split, lapsed⟩ := booked.lapsed other
    by_cases equal : db.same id other = true
    · have mine : touches db other (t, event) = true := (touched other).trans equal
      rw [← latestGrant_same equal, latest] at split
      refine ⟨rest.filter fun holder => holder.1 ≠ t, ?_, ?_⟩
      · rw [latestGrant_cons_settled done equal]
        simp [unsettled, mine, settledBy_ungranted done, split]
      · intro holder listed
        exact Int.le_trans (lapsed holder (List.mem_of_mem_filter listed)) later
    · have unmeant : touches db other (t, event) = false :=
        (touched other).trans (Bool.eq_false_iff.mpr equal)
      refine ⟨rest, ?_, fun holder listed => Int.le_trans (lapsed holder listed) later⟩
      rw [latestGrant_cons_other unmeant]
      simpa [unsettled, unmeant] using split

end Booking

/-! ## One step -/

private theorem grant_ruled {activity : Activity} {earlier : List FleetEvent} {event : FleetEvent}
    {lease : Lease} (grant : grantOf event = some lease) (ruled : rule activity earlier event) :
    ∃ owner at_ duration, event = ⟨.repository (.leaseNext owner at_ duration), .ok lease⟩ ∧
      activity.owner = some owner ∧ lease.owner = owner ∧ lease.expiresAt = at_ + duration ∧
      (⟨.now, at_⟩ : FleetEvent) ∈ earlier := by
  unfold grantOf at grant
  split at grant
  · next owner at_ duration granted =>
      cases grant
      cases activity with
      | work worker cycles =>
          obtain ⟨⟨named, until_⟩, rfl, rfl, _, read⟩ := ruled
          exact ⟨_, _, _, rfl, rfl, named, until_, read⟩
      | enqueueConnectionSync maxAttempts now newID id => cases ruled
      | enqueuePowerOperation maxAttempts now newID id => cases ruled
  · cases grant

private theorem settling_ruled {activity : Activity} {earlier : List FleetEvent}
    (event : FleetEvent) {id owner : GoString} (settles : settling event.call = some (id, owner))
    (ruled : rule activity earlier event) :
    activity.owner = some owner ∧ ∃ lease, holding earlier = some lease ∧ id = lease.job.id := by
  obtain ⟨call, reply⟩ := event
  cases activity with
  | work worker cycles =>
      unfold settling at settles
      dsimp only at settles
      split at settles <;> cases settles
      all_goals
        obtain ⟨_, lease, held, named, rfl⟩ := ruled
        exact ⟨rfl, lease, held, named⟩
  | enqueueConnectionSync maxAttempts now newID asked =>
      have same : call = _ := ruled
      subst same
      cases settles
  | enqueuePowerOperation maxAttempts now newID asked =>
      have same : call = _ := ruled
      subst same
      cases settles

/-- A worker whose name the row carries holds the last lease of the job itself. -/
private theorem Account.holder (account : Account db columns config) {t : Nat}
    {thread : FleetThread} {owner : GoString} {lease : Lease} {row : Row}
    (found : config.threads[t]? = some thread) (active : thread.active = true)
    (owned : thread.task.owner = some owner) (held : holding (own t config.history) = some lease)
    (member : row ∈ config.state.rows) (matched : db.same row.id lease.job.id = true)
    (mine : leasedBy db owner row = true) :
    latestGrant db lease.job.id config.history = some (t, lease) := by
  simp only [leasedBy, Bool.and_eq_true, decide_eq_true_eq] at mine
  obtain ⟨running, named⟩ := mine
  obtain ⟨u, granted, latest, owner_, _⟩ := account.booked.leased row member running
  rw [latestGrant_same matched] at latest
  rcases latestGrant_holding held latest with ⟨rfl, rfl⟩ | ⟨entry, seen, rfl, grant⟩
  · exact latest
  · have fenced := account.fenced t thread owner found active owned (by rw [held]; rfl) entry seen
      granted grant
    rw [owner_] at named
    simp only [Option.any_some] at named
    rw [named] at fenced
    cases fenced

private theorem former_thread {t u : Nat} {activity : Activity} {request : Call}
    {continuation : request.Reply → Process (Except GoError Unit)} {reply : request.Reply}
    {state : State} {thread : FleetThread}
    (found : config.threads[t]? = some ⟨activity, some (.call request continuation)⟩)
    (located : (config.advance t activity ⟨request, reply⟩ (continuation reply) state).threads[u]? =
      some thread) (active : thread.active = true) :
    ∃ former, config.threads[u]? = some former ∧ former.active = true ∧
      former.task = thread.task := by
  simp only [Config.advance] at located
  by_cases same : t = u
  · subst same
    rw [List.getElem?_set_self (List.getElem?_eq_some_iff.mp found).1] at located
    cases located
    exact ⟨_, found, rfl, rfl⟩
  · rw [List.getElem?_set_ne same] at located
    exact ⟨thread, located, active, rfl⟩

private theorem Account.advance (account : Account db columns config)
    (instants : ∀ left right, db.notAfter left right = decide (left ≤ right))
    (disciplined : Disciplined audit config) {t : Nat} {activity : Activity} {request : Call}
    {continuation : request.Reply → Process (Except GoError Unit)} {choice : Choice}
    {reply : request.Reply} {state : State}
    (found : config.threads[t]? = some ⟨activity, some (.call request continuation)⟩)
    (answered : perform db columns request choice config.state = some (reply, state)) :
    Account db columns (config.advance t activity ⟨request, reply⟩ (continuation reply) state) := by
  have ruled := (disciplined.ahead t _ _ found rfl reply (perform_fits answered)).1
  have changed := perform_changes account.apart answered
  have apart := perform_apart account.apart answered
  obtain ⟨later, clocked⟩ := perform_clock answered
  refine ⟨apart, ?_, ?_, ?_, ?_⟩
  · intro u value member
    rcases List.mem_cons.mp member with same | former
    · cases same
      exact clocked value rfl
    · exact Int.le_trans (account.read u value former) later
  · intro u v thread other owner name located placed different active running owned named
    obtain ⟨first, foundFirst, activeFirst, sameFirst⟩ := former_thread found located active
    obtain ⟨second, foundSecond, activeSecond, sameSecond⟩ := former_thread found placed running
    exact account.named u v first second owner name foundFirst foundSecond different activeFirst
      activeSecond (by rw [sameFirst]; exact owned) (by rw [sameSecond]; exact named)
  · intro u thread owner located active owned held entry seen lease grant
    obtain ⟨former, foundFormer, activeFormer, sameFormer⟩ := former_thread found located active
    have ownedFormer : former.task.owner = some owner := by
      rw [sameFormer]
      exact owned
    simp only [Config.advance] at held seen
    by_cases mine : t = u
    · subst mine
      rw [own_cons_self] at held
      cases granted : grantOf (⟨request, reply⟩ : FleetEvent) with
      | some fresh =>
          rw [since_cons_grant granted] at seen
          cases seen
      | none =>
          simp only [holding, granted] at held
          split at held
          · cases held
          · rw [since_cons_other (.inr granted)] at seen
            rcases List.mem_cons.mp seen with rfl | before
            · rw [granted] at grant
              cases grant
            · exact account.fenced t former owner foundFormer activeFormer ownedFormer held entry
                before lease grant
    · rw [own_cons_other mine] at held
      rw [since_cons_other (.inl mine)] at seen
      rcases List.mem_cons.mp seen with rfl | before
      · obtain ⟨name, _, _, _, named, stated, _, _⟩ := grant_ruled grant ruled
        rw [stated]
        exact account.named t u _ former name owner found foundFormer mine rfl activeFormer named
          ownedFormer
      · exact account.fenced u former owner foundFormer activeFormer ownedFormer held entry before
          lease grant
  · change Booked db ((t, ⟨request, reply⟩) :: config.history) state
    generalize event_ : (⟨request, reply⟩ : FleetEvent) = event at changed ruled
    generalize rows : state.rows = after at changed
    cases changed with
    | kept ungranted unsettled_ => exact account.booked.quiet ungranted unsettled_ rows later
    | enqueued ungranted unsettled_ asked =>
        rw [rows] at apart
        exact account.booked.enqueued rfl apart ungranted unsettled_ rows later
    | granted member chosen sameID =>
        obtain ⟨_, _, _, same, _, named, until_, read⟩ := grant_ruled rfl ruled
        cases same
        exact account.booked.granted instants rfl member chosen sameID named until_
          (account.read t _ (mem_own.mp read)) rows later
    | settled settles done member matched held settlement =>
        obtain ⟨owned, lease, holds, rfl⟩ := settling_ruled event settles ruled
        have latest := account.holder found rfl owned holds member matched held
        exact account.booked.settled account.apart done member matched settlement latest rows later

/-- Whatever settles a job settles the last grant of it, which its own worker holds. -/
private theorem Account.settles (account : Account db columns config)
    (disciplined : Disciplined audit config) {t : Nat} {activity : Activity} {request : Call}
    {continuation : request.Reply → Process (Except GoError Unit)} {choice : Choice}
    {reply : request.Reply} {state : State} {id : GoString}
    (found : config.threads[t]? = some ⟨activity, some (.call request continuation)⟩)
    (answered : perform db columns request choice config.state = some (reply, state))
    (done : settledBy ⟨request, reply⟩ = some id) :
    ∃ lease, latestGrant db id config.history = some (t, lease) := by
  have ruled := (disciplined.ahead t _ _ found rfl reply (perform_fits answered)).1
  have changed := perform_changes account.apart answered
  generalize (⟨request, reply⟩ : FleetEvent) = event at changed ruled done
  generalize state.rows = after at changed
  cases changed with
  | kept _ unsettled_ =>
      rw [unsettled_] at done
      cases done
  | enqueued _ unsettled_ =>
      rw [unsettled_] at done
      cases done
  | granted => cases done
  | settled settles done_ member matched held =>
      obtain ⟨owned, lease, holds, rfl⟩ := settling_ruled event settles ruled
      rw [done] at done_
      cases done_
      exact ⟨lease, account.holder found rfl owned holds member matched held⟩

private theorem Account.step (account : Account db columns config)
    (instants : ∀ left right, db.notAfter left right = decide (left ≤ right))
    (disciplined : Disciplined audit config) {label : FleetLabel}
    (transition : (fleet db columns).Transition config label next)
    (named : Named (fun owner other => db.same owner other = false) config label) :
    Account db columns next := by
  cases transition with
  | spawned activity => exact account.spawn disciplined activity named
  | performed found answered => exact account.advance instants disciplined found answered
  | external acted => cases acted
  | crashed => exact account.crash

end Account

/-- The caller is told that it has lost its lease. -/
def LeaseLost : FleetEvent → Prop
  | ⟨.repository (.retry _ _ _ _), reply⟩ => reply = .error (.sentinel .leaseLost)
  | ⟨.repository (.complete _ _ _), reply⟩ => reply = .error (.sentinel .leaseLost)
  | ⟨.repository (.fail _ _ _ _), reply⟩ => reply = .error (.sentinel .leaseLost)
  | _ => False

/-- Why `LeaseNext` may grant a row. -/
def Due (row : Row) (at_ : Instant) : Prop :=
  (row.status = .queued ∧ row.availableAt ≤ at_) ∨
    row.status = .running ∧ ∃ expires, row.leaseExpiresAt = some expires ∧ expires ≤ at_

/-- Another worker was granted the job after the one that holds `lease`. -/
def Overtaken (db : Database) (t : Nat) (lease : Lease) (history : List (Nat × FleetEvent)) :
    Prop :=
  ∃ entry ∈ since t history, ∃ granted, grantOf entry.2 = some granted ∧
    db.same granted.job.id lease.job.id = true

/-- The last grant of an overtaken worker's job is not its own. -/
private theorem Overtaken.latest_other {db : Database} {t : Nat} {lease other : Lease}
    {history : List (Nat × FleetEvent)} (overtaken : Overtaken db t lease history)
    (latest : latestGrant db lease.job.id history = some (t, other)) : False := by
  obtain ⟨entry, seen, granted, grant, same⟩ := overtaken
  obtain ⟨last, found, made⟩ := Option.bind_eq_some_iff.mp latest
  obtain ⟨stated, is, equal⟩ := Option.map_eq_some_iff.mp made
  cases equal
  have touched : touches db lease.job.id entry = true := (touches_grant grant).trans same
  have within : ((since last.1 history).find? (touches db lease.job.id)).isSome = true :=
    List.find?_isSome.mpr ⟨entry, seen, touched⟩
  obtain ⟨first, earliest⟩ := Option.isSome_iff_exists.mp within
  have whole : history = since last.1 history ++ history.dropWhile _ :=
    List.takeWhile_append_dropWhile.symm
  rw [whole, List.find?_append, earliest] at found
  cases found
  have passed := List.mem_takeWhile_imp (List.mem_of_find?_eq_some earliest)
  simp [is] at passed

/-- A settlement settles the last grant of its job, which is its own worker's. -/
def SettledOnce (db : Database) (history : List (Nat × FleetEvent)) : Prop :=
  ∀ later t event earlier id, history = later ++ (t, event) :: earlier →
    settledBy event = some id → ∃ lease, latestGrant db id earlier = some (t, lease)

/-- One unexpired lease a job, grants of due jobs only, nothing settled by a
worker that was overtaken, and nothing settled twice. -/
structure Exclusive (db : Database) (columns : Row → Bool) (config : FleetConfig) : Prop where
  single : ∀ id, ((unsettled db id config.history).filter fun holder =>
    decide (config.state.clock < db.stamp holder.2.expiresAt)).length ≤ 1
  due : ∀ t owner at_ duration lease next, (fleet db columns).Transition config
    (.performed t ⟨.repository (.leaseNext owner at_ duration), .ok lease⟩) next →
    ∃ row ∈ config.state.rows, row.id = lease.job.id ∧ Due row at_
  lost : ∀ t activity request continuation lease,
    config.threads[t]? = some ⟨activity, some (.call request continuation)⟩ →
    (settling request).isSome = true → holding (own t config.history) = some lease →
    Overtaken db t lease config.history → ∀ faults reply state,
    perform db columns request (.database faults) config.state = some (reply, state) →
    state = config.state ∧ (faults = [] → LeaseLost ⟨request, reply⟩)
  once : SettledOnce db config.history

section Runs

variable {db : Database} {columns : Row → Bool} {clock : Instant} {config : FleetConfig}
  {meets : FleetConfig → FleetLabel → Prop}

theorem fleet_disciplined (run : (fleet db columns).Run meets (empty clock) config) :
    Disciplined audit config :=
  Disciplined.run (fleet_passes db columns) run fun _ _ _ => trivial

private theorem fleet_account
    (instants : ∀ left right, db.notAfter left right = decide (left ≤ right))
    (run : (fleet db columns).Run meets (empty clock) config)
    (named : ∀ before label, meets before label →
      Named (fun owner other => db.same owner other = false) before label) :
    Account db columns config := by
  refine System.Run.invariant run (account_empty clock) ?_
  intro before label after reached transition met account
  exact account.step instants (fleet_disciplined reached) transition (named before label met)

private theorem fleet_once
    (instants : ∀ left right, db.notAfter left right = decide (left ≤ right))
    (run : (fleet db columns).Run meets (empty clock) config)
    (named : ∀ before label, meets before label →
      Named (fun owner other => db.same owner other = false) before label) :
    SettledOnce db config.history := by
  have initially : SettledOnce db (empty clock).history := by
    intro later t event earlier id split
    simp [empty, Config.initial] at split
  change (fun config : FleetConfig => SettledOnce db config.history) config
  apply System.Run.invariant run initially
  intro before label after reached transition _ once
  cases transition with
  | spawned activity => exact once
  | performed found answered =>
      intro later u event earlier id split done
      rcases List.cons_eq_append_iff.mp split with ⟨rfl, same⟩ | ⟨rest, rfl, former⟩
      · cases same
        have account := fleet_account instants reached named
        exact account.settles (fleet_disciplined reached) found answered done
      · exact once rest u event earlier id former done
  | external acted => cases acted
  | crashed => exact once

private theorem Account.due (account : Account db columns config)
    (instants : ∀ left right, db.notAfter left right = decide (left ≤ right))
    {owner : GoString} {at_ : Instant} {duration : Duration} {lease : Lease} {choice : Choice}
    {state : State}
    (answered : perform db columns (.repository (.leaseNext owner at_ duration)) choice
      config.state = some (.ok lease, state)) :
    ∃ row ∈ config.state.rows, row.id = lease.job.id ∧ Due row at_ := by
  have changed := perform_changes account.apart answered
  generalize state.rows = after at changed
  cases changed with
  | kept ungranted => cases ungranted
  | enqueued ungranted => cases ungranted
  | granted member chosen sameID =>
      refine ⟨_, member, sameID.symm, ?_⟩
      simp only [leasable, instants, Bool.or_eq_true, Bool.and_eq_true, decide_eq_true_eq] at chosen
      rcases chosen with queued | ⟨running, ceased⟩
      · exact .inl queued
      · obtain ⟨expires, is, past⟩ := (Option.any_eq_true _ _).mp ceased
        exact .inr ⟨running, expires, is, by simpa using past⟩
  | settled settles => cases settles

/-- A settlement that finds no row of its caller changes nothing and says so. -/
private theorem settle_absent {request : Call} {id owner : GoString} {faults : List Bool}
    {reply : request.Reply} {before state : State}
    (apart : before.rows.Pairwise fun left right => (engine db columns).clash left right = false)
    (settles : settling request = some (id, owner))
    (absent : ∀ row ∈ before.rows, db.same row.id id = true → leasedBy db owner row = false)
    (answered : perform db columns request (.database faults) before = some (reply, state)) :
    state = before ∧ (faults = [] → LeaseLost ⟨request, reply⟩) := by
  cases request with
  | repository call =>
      obtain ⟨rows, transacted, rfl⟩ := repository_alone answered
      cases call with
      | retry asked name availableAt message =>
          cases settles
          have unchanged : rows = before.rows := by
            cases retry_alone apart transacted with
            | released member matched held =>
                rw [absent _ member matched] at held
                cases held
            | failed => rfl
          refine ⟨by rw [unchanged], ?_⟩
          rintro rfl
          exact retry_lost absent transacted
      | complete asked name at_ =>
          cases settles
          have unchanged : rows = before.rows := by
            cases finish_alone apart transacted with
            | released member matched held =>
                rw [absent _ member matched] at held
                cases held
            | failed => rfl
          refine ⟨by rw [unchanged], ?_⟩
          rintro rfl
          exact finish_lost absent transacted
      | fail asked name at_ message =>
          cases settles
          have unchanged : rows = before.rows := by
            cases finish_alone apart transacted with
            | released member matched held =>
                rw [absent _ member matched] at held
                cases held
            | failed => rfl
          refine ⟨by rw [unchanged], ?_⟩
          rintro rfl
          exact finish_lost absent transacted
      | _ => cases settles
  | _ => cases settles

private theorem Account.lost (account : Account db columns config)
    (disciplined : Disciplined audit config) {t : Nat} {activity : Activity} {request : Call}
    {continuation : request.Reply → Process (Except GoError Unit)} {lease : Lease}
    (found : config.threads[t]? = some ⟨activity, some (.call request continuation)⟩)
    (settles : (settling request).isSome = true)
    (held : holding (own t config.history) = some lease)
    (overtaken : Overtaken db t lease config.history) {faults : List Bool}
    {reply : request.Reply} {state : State}
    (answered : perform db columns request (.database faults) config.state = some (reply, state)) :
    state = config.state ∧ (faults = [] → LeaseLost ⟨request, reply⟩) := by
  obtain ⟨⟨id, owner⟩, meant⟩ := Option.isSome_iff_exists.mp settles
  have ruled := (disciplined.ahead t _ _ found rfl reply (perform_fits answered)).1
  obtain ⟨owned, holds, same, rfl⟩ := settling_ruled ⟨request, reply⟩ meant ruled
  rw [held] at same
  cases same
  refine settle_absent account.apart meant ?_ answered
  intro row member matched
  by_contra carried
  have mine : leasedBy db owner row = true := by simpa using carried
  have latest := account.holder found rfl owned held member matched mine
  exact overtaken.latest_other latest

/-- Workers whose names the database can tell apart exclude each other. -/
theorem leases_exclude
    (instants : ∀ left right, db.notAfter left right = decide (left ≤ right))
    (run : (fleet db columns).Run meets (empty clock) config)
    (named : ∀ before label, meets before label →
      Named (fun owner other => db.same owner other = false) before label) :
    Exclusive db columns config := by
  have account := fleet_account instants run named
  have disciplined := fleet_disciplined run
  constructor
  · intro id
    obtain ⟨rest, split, lapsed⟩ := account.booked.lapsed id
    have ceased : rest.filter (fun holder =>
        decide (config.state.clock < db.stamp holder.2.expiresAt)) = [] := by
      rw [List.filter_eq_nil_iff]
      intro holder member
      have past := lapsed holder member
      simpa using past
    rw [split, List.filter_append, ceased, List.append_nil]
    refine Nat.le_trans (List.length_filter_le _ _) ?_
    cases latestGrant db id config.history <;> simp
  · intro t owner at_ duration lease next transition
    cases transition with
    | performed found answered => exact account.due instants answered
  · intro t activity request continuation lease found settles held overtaken faults reply state
      answered
    exact account.lost disciplined found settles held overtaken answered
  · exact fleet_once instants run named

end Runs

/-! ## Two workers, one job -/

def namedTest (distinct : GoString → GoString → Bool) (config : FleetConfig) : FleetLabel → Bool
  | .spawned activity => config.threads.all fun thread => !thread.active ||
      match activity.owner, thread.task.owner with
      | some owner, some other => distinct owner other
      | _, _ => true
  | _ => true

theorem namedTest_sound {distinct : GoString → GoString → Bool} (config : FleetConfig)
    (label : FleetLabel) (passed : namedTest distinct config label = true) :
    Named (fun owner other => distinct owner other = true) config label := by
  intro activity owner spawned owned thread member active other named
  subst spawned
  have clear := List.all_eq_true.mp passed thread member
  simpa [active, owned, named] using clear

def named (owner : String) : Worker := ⟨text owner, 10, fun _ => 1⟩

def plainly : Choice := .database []

/-- The first worker is overtaken by the second and settles the job too late. -/
def overtakenSchedule (first second : String) : List (System.Move Activity Choice) :=
  [.spawn (.enqueueConnectionSync 3 0 (text "job") (text "connection")), .advance 0 plainly,
    .spawn (.work (named first) 1), .spawn (.work (named second) 1),
    .advance 1 (.instant 0), .advance 1 plainly,
    .advance 2 (.instant 10), .advance 2 plainly,
    .advance 1 (.handled (.ok ())), .advance 1 (.instant 11), .advance 1 plainly]

theorem leases_exclude_overtaken : ∃ config,
    (fleet (Database.plain .sqlite) fun _ => true).Run
      (Named fun owner other => (Database.plain .sqlite).same owner other = false) (empty 0) config ∧
    config.state.rows.map (·.attempts) = [2] ∧
    Exclusive (Database.plain .sqlite) (fun _ => true) config := by
  have carried : ((fleet (Database.plain .sqlite) fun _ => true).execute
      (namedTest fun owner other => !(Database.plain .sqlite).same owner other)
      (overtakenSchedule "first" "second") (empty 0)).map (fun config =>
        config.state.rows.map (·.attempts)) = some [2] := by decide
  obtain ⟨config, reached, attempts⟩ := Option.map_eq_some_iff.mp carried
  have run : (fleet (Database.plain .sqlite) fun _ => true).Run
      (Named fun owner other => (Database.plain .sqlite).same owner other = false) (empty 0)
      config := by
    refine System.execute_run reached fun before label passed => ?_
    have sound := namedTest_sound before label passed
    intro activity owner spawned owned thread member active other named
    simpa using sound activity owner spawned owned thread member active other named
  exact ⟨config, run, attempts, leases_exclude (fun _ _ => rfl) run fun _ _ met => met⟩

/-- Two names that differ in case only are one name to the database: the first
worker settles the lease of the second. -/
theorem leases_exclude_cased : ∃ config,
    (fleet Database.caseless fun _ => true).Run (Named fun owner other => owner ≠ other) (empty 0)
      config ∧
    ¬ Exclusive Database.caseless (fun _ => true) config := by
  have carried : ((fleet Database.caseless fun _ => true).execute
      (namedTest fun owner other => owner != other)
      (overtakenSchedule "worker" "Worker") (empty 0)).map (fun config =>
        (config.history.head?.map fun entry => (entry.1, settledBy entry.2),
          (latestGrant Database.caseless (text "job") config.history.tail).map (·.1))) =
      some (some (1, some (text "job")), some 2) := by decide
  obtain ⟨config, reached, ends⟩ := Option.map_eq_some_iff.mp carried
  obtain ⟨first, second⟩ := Prod.mk.inj ends
  have run : (fleet Database.caseless fun _ => true).Run (Named fun owner other => owner ≠ other)
      (empty 0) config := by
    refine System.execute_run reached fun before label passed => ?_
    have sound := namedTest_sound before label passed
    intro activity owner spawned owned thread member active other named
    simpa using sound activity owner spawned owned thread member active other named
  refine ⟨config, run, fun exclusive => ?_⟩
  cases history : config.history with
  | nil =>
      rw [history] at first
      cases first
  | cons entry earlier =>
      rw [history] at first second
      simp only [List.head?_cons, Option.map_some, Option.some.injEq, Prod.mk.injEq] at first
      obtain ⟨thread, settled⟩ := first
      obtain ⟨lease, latest⟩ := exclusive.once [] entry.1 entry.2 earlier _ history settled
      rw [List.tail_cons, latest, thread] at second
      cases second

end NodeAtlas.Jobs.Fleet
