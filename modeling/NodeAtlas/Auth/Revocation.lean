import NodeAtlas.Auth.Administrator

/-! A revoked session stays revoked: what a logout or a new password took out of
the sessions table comes back only by a new sign-in. -/

set_option autoImplicit false

namespace NodeAtlas.Auth

open Interleaving

/-- The call takes the session of this token away, whoever the administrator is. -/
def Revokes (rawToken : GoString) : SiteEvent → Prop
  | ⟨.deleteSession hash, .ok _⟩ => hash = sha256 rawToken
  | ⟨.updatePasswordAndRevokeSessions _ _ keep, .ok _⟩ => keep ≠ sha256 rawToken
  | _ => False

/-- Each session that has been revoked and is there was made again since. -/
def Remade (db : Database) (history : List (Nat × SiteEvent)) (session : Session) : Prop :=
  ∀ later u event earlier, history = later ++ (u, event) :: earlier → revokes db session event = true →
    ∃ entry ∈ later, Opens session entry.2

structure Guarded (db : Database) (config : SiteConfig) : Prop where
  rows : ∀ session ∈ config.state.sessions, Remade db config.history session
  found : Recorded (fun earlier _ event => ∀ session, foundSession event = some session → Remade db earlier session)
    config.history

section Steps

variable {site : Site} {db : Database} {clock : Instant} {config next : SiteConfig} {label : SiteLabel}

private theorem Remade.cons {t : Nat} {event : SiteEvent} {history : List (Nat × SiteEvent)} {former session : Session}
    (remade : Remade db history former) (sameHash : former.tokenHash = session.tokenHash)
    (sameUser : former.userID = session.userID) (kept : revokes db session event = false) :
    Remade db ((t, event) :: history) session := by
  intro later u revoking earlier split_ revoked
  cases later with
  | nil =>
      obtain ⟨same, _⟩ := List.cons.inj split_
      cases same
      rw [kept] at revoked
      cases revoked
  | cons entry later =>
      obtain ⟨rfl, before⟩ := List.cons.inj split_
      have too : revokes db former revoking = true := by
        unfold revokes at revoked ⊢
        rw [sameHash, sameUser]
        exact revoked
      obtain ⟨entry, member, made, opened, hash, user⟩ := remade later u revoking earlier before too
      exact ⟨entry, List.mem_cons_of_mem _ member, made, opened, hash.trans sameHash, user.trans sameUser⟩

private theorem Remade.opened {t : Nat} {event : SiteEvent} {history : List (Nat × SiteEvent)} {session : Session}
    (opens : Opens session event) : Remade db ((t, event) :: history) session := by
  intro later u revoking earlier split_ revoked
  cases later with
  | nil =>
      obtain ⟨same, _⟩ := List.cons.inj split_
      cases same
      obtain ⟨made, rfl, _⟩ := opens
      cases revoked
  | cons entry later =>
      obtain ⟨rfl, _⟩ := List.cons.inj split_
      exact ⟨_, List.mem_cons_self, opens⟩

private theorem Guarded.step (guarded : Guarded db config)
    (transition : (system site db).Transition config label next) : Guarded db next := by
  obtain ⟨rows, found⟩ := guarded
  cases transition with
  | spawned activity => exact ⟨rows, found⟩
  | @performed t activity call continuation choice reply state running answered =>
      refine ⟨?_, found.cons fun session is => rows session (perform_foundSession answered is)⟩
      intro session member
      rcases perform_sessions answered session member with opened | ⟨former, before, sameHash, sameUser, kept⟩
      · exact .opened opened
      · exact (rows former before).cons sameHash sameUser kept
  | external acted => cases acted
  | crashed => exact ⟨rows, found⟩

theorem SiteRun.guarded (run : SiteRun site db clock config) : Guarded db config := by
  refine System.Run.invariant run ⟨?_, .nil⟩ fun _ _ _ _ transition _ held => held.step transition
  intro session impossible
  cases impossible

/-- Whoever was found is the one who was set up. -/
private theorem Household.named (household : Household db config) {visible : List (Nat × SiteEvent)}
    (last : visible <:+ config.history) {t : Nat} {event : SiteEvent} (member : (t, event) ∈ visible) {user : User}
    (found : foundUser event = some user) {u : Nat} {admin : User}
    (created : (u, (⟨.initializeUser admin, .ok ()⟩ : SiteEvent)) ∈ config.history) : user.id = admin.id := by
  obtain ⟨before, among, truthful⟩ := household.truthful.mem last member
  obtain ⟨⟨⟨v, other⟩, behind, creation, set_, sameID, _⟩, _⟩ := truthful.user user found
  dsimp only at set_
  subst set_
  have inside := last.subset (among.subset (List.mem_cons_of_mem _ behind))
  have one := household.setup_unique inside created rfl rfl
  cases one
  exact sameID.symm

private theorem Household.founded (household : Household db config) {visible : List (Nat × SiteEvent)}
    (last : visible <:+ config.history) {t : Nat} {event : SiteEvent} (member : (t, event) ∈ visible) {user : User}
    (found : foundUser event = some user) :
    ∃ u admin, (u, (⟨.initializeUser admin, .ok ()⟩ : SiteEvent)) ∈ config.history ∧ user.id = admin.id := by
  obtain ⟨before, among, truthful⟩ := household.truthful.mem last member
  obtain ⟨⟨⟨v, other⟩, behind, creation, set_, sameID, _⟩, _⟩ := truthful.user user found
  dsimp only at set_
  subst set_
  exact ⟨v, creation, last.subset (among.subset (List.mem_cons_of_mem _ behind)), sameID.symm⟩

/-- Every session is the administrator's. -/
private theorem SiteRun.owned (run : SiteRun site db clock config) {session : Session} {entry : Nat × SiteEvent}
    (member : entry ∈ config.history) (opens : Opens session entry.2) {u : Nat} {admin : User}
    (created : (u, (⟨.initializeUser admin, .ok ()⟩ : SiteEvent)) ∈ config.history) : session.userID = admin.id := by
  obtain ⟨v, event⟩ := entry
  obtain ⟨made, opened, _, sameUser⟩ := opens
  dsimp only at opened
  subst opened
  obtain ⟨thread, earlier, _, last, user, username, owner, _, told⟩ :=
    run.disciplined.traced (List.suffix_refl _) member
  have suffix : earlier <:+ config.history := (List.suffix_cons _ _).trans last
  rw [← sameUser, owner]
  exact run.household.named suffix (mem_own.mp told) rfl created

end Steps

section Law

variable {site : Site} {db : Database} {clock : Instant} {config : SiteConfig} {later middle_ earlier : List (Nat × SiteEvent)}
  {t u : Nat} {handler : Handler} {event : SiteEvent}

/-- A request that begins after a session was revoked reaches a handler for the
administrator with the session's token only if a new session was made for this
token in between. -/
theorem revoked_for_good (run : SiteRun site db clock config)
    (split_ : config.history = later ++ (t, ⟨.enter handler, ()⟩) :: (middle_ ++ (u, event) :: earlier))
    (needs : handler.needsSession = true) (begins : own t ((u, event) :: earlier) = []) :
    ∃ activity rawToken, config.task t = some activity ∧ activity.token = some rawToken ∧
      (Revokes rawToken event → ∃ v made, (v, (⟨.createSession made, .ok ()⟩ : SiteEvent)) ∈ middle_ ∧
        made.tokenHash = sha256 rawToken) := by
  obtain ⟨thread, found, ruled⟩ := run.disciplined.justified split_
  obtain ⟨rawToken, session, named, looked⟩ := ruled needs
  refine ⟨thread.task, rawToken, ?_, named, ?_⟩
  · rw [Config.task, found]
    rfl
  intro revoked
  rw [own_append, begins, List.append_nil] at looked
  obtain ⟨front, behind, rfl⟩ := List.append_of_mem (mem_own.mp looked)
  have last : (t, (⟨.findSessionByTokenHash (sha256 rawToken), .ok session⟩ : SiteEvent)) ::
      (behind ++ (u, event) :: earlier) <:+ config.history := by
    rw [split_]
    refine ⟨later ++ (t, ⟨.enter handler, ()⟩) :: front, ?_⟩
    simp
  have suffix : behind ++ (u, event) :: earlier <:+ config.history := (List.suffix_cons _ _).trans last
  have truthful := run.household.truthful t _ _ last
  have hash : session.tokenHash = sha256 rawToken := truthful.fitting
  have revoking : revokes db session event = true := by
    obtain ⟨call, reply⟩ := event
    cases call with
    | deleteSession gone =>
        cases reply with
        | error failure => exact revoked.elim
        | ok _ =>
            have same : gone = sha256 rawToken := revoked
            simp [revokes, hash, same]
    | updatePasswordAndRevokeSessions id encoded keep =>
        cases reply with
        | error failure => exact revoked.elim
        | ok _ =>
            have other : keep ≠ sha256 rawToken := revoked
            have whole : (u, (⟨.updatePasswordAndRevokeSessions id encoded keep, .ok ()⟩ : SiteEvent)) :: earlier <:+
                config.history := (List.suffix_append behind _).trans suffix
            obtain ⟨front_, complete⟩ := whole
            obtain ⟨_, _, user, userID, _, sameID, _, _, _, _, _, told⟩ := run.disciplined.justified complete.symm
            have before : earlier <:+ config.history :=
              (List.suffix_cons _ _).trans (complete ▸ List.suffix_append front_ _)
            obtain ⟨v, admin, created, userIs⟩ := run.household.founded before (mem_own.mp told) rfl
            obtain ⟨entry, among, opens⟩ := truthful.session session rfl
            have owner := run.owned (suffix.subset among) opens created
            have one : session.userID = id := owner.trans (userIs.symm.trans sameID.symm)
            simp [revokes, one, db.same_refl, hash, Ne.symm other]
    | _ => exact revoked.elim
  obtain ⟨⟨v, made⟩, among, session_, opened, sameHash, _⟩ :=
    run.guarded.found t _ _ last session rfl behind u event earlier rfl revoking
  dsimp only at opened
  subst opened
  exact ⟨v, session_, List.mem_append_right _ (List.mem_cons_of_mem _ among), sameHash.trans hash⟩

end Law

/-- The call stored a new password and revoked sessions. -/
def rehashes : SiteEvent → Bool
  | ⟨.updatePasswordAndRevokeSessions _ _ _, .ok _⟩ => true
  | _ => false

set_option maxRecDepth 8000 in
/-- The token of the last request is good again although the password was changed:
its login had given the old password before. -/
theorem revoked_for_good_overtaken : ∃ (config : SiteConfig) (middle_ earlier : List (Nat × SiteEvent)) (event : SiteEvent),
    config.history = (4, ⟨.enter .feature, ()⟩) :: (middle_ ++ (3, event) :: earlier) ∧ rehashes event = true ∧
    ∃ activity rawToken, config.task 4 = some activity ∧ activity.token = some rawToken ∧
      (Revokes rawToken event → ∃ v made, (v, (⟨.createSession made, .ok ()⟩ : SiteEvent)) ∈ middle_ ∧
        made.tokenHash = sha256 rawToken) := by
  have happened : (((system panel (Database.plain .sqlite)).outcome (fun _ => true) overtaken
      (Config.initial (freshState 0))).bind fun config => config.history.head?.bind fun entry =>
        (config.history.tail.dropWhile fun other => !rehashes other.2).head?.map fun changed =>
          (entry.1, entered entry.2, changed.1, rehashes changed.2,
            (own 4 (config.history.tail.dropWhile fun other => !rehashes other.2)).length)) =
      some (4, some .feature, 3, true, 0) := by
    decide
  obtain ⟨config, reached, first⟩ := Option.bind_eq_some_iff.mp happened
  obtain ⟨⟨t, last⟩, head, second⟩ := Option.bind_eq_some_iff.mp first
  obtain ⟨⟨u, event⟩, changed, is⟩ := Option.map_eq_some_iff.mp second
  simp only [Prod.mk.injEq] at is
  obtain ⟨rfl, enters, rfl, changes, begins⟩ := is
  obtain ⟨rest, split_⟩ := List.head?_eq_some_iff.mp head
  rw [split_, List.tail_cons] at changed begins
  obtain ⟨earlier, since⟩ := List.head?_eq_some_iff.mp changed
  rw [since] at begins
  have whole : config.history = [] ++ (4, ⟨.enter .feature, ()⟩) ::
      (rest.takeWhile (fun other => !rehashes other.2) ++ (3, event) :: earlier) := by
    rw [← since, List.takeWhile_append_dropWhile, split_, entered_event enters]
    rfl
  have run : SiteRun panel (Database.plain .sqlite) 0 config := System.outcome_run reached fun _ _ _ => trivial
  exact ⟨config, _, earlier, event, whole, changes,
    revoked_for_good run whole rfl (List.length_eq_zero_iff.mp begins)⟩

end NodeAtlas.Auth
