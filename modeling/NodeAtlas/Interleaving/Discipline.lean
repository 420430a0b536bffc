import NodeAtlas.Interleaving.System

/-! From the text of the programs to every run: whatever an audit establishes
about one program alone holds of each thread that runs it, however the threads
are interleaved. -/

set_option autoImplicit false

namespace NodeAtlas.Interleaving

variable {Call : Type} {Reply : Call → Type} {State Task Outcome Choice : Type}

@[simp] theorem own_nil (t : Nat) : own t ([] : List (Nat × Event Call Reply)) = [] := rfl

@[simp] theorem own_cons_self (t : Nat) (event : Event Call Reply)
    (history : List (Nat × Event Call Reply)) :
    own t ((t, event) :: history) = event :: own t history := by
  simp [own]

theorem own_cons_other {t u : Nat} (different : u ≠ t) (event : Event Call Reply)
    (history : List (Nat × Event Call Reply)) :
    own t ((u, event) :: history) = own t history := by
  simp [own, different]

theorem own_append (t : Nat) (later earlier : List (Nat × Event Call Reply)) :
    own t (later ++ earlier) = own t later ++ own t earlier := by
  simp [own]

theorem mem_own {t : Nat} {event : Event Call Reply}
    {history : List (Nat × Event Call Reply)} :
    event ∈ own t history ↔ (t, event) ∈ history := by
  simp only [own, List.mem_filterMap]
  constructor
  · rintro ⟨⟨u, made⟩, member, kept⟩
    split at kept
    · next same => cases kept; exact same ▸ member
    · cases kept
  · intro member
    exact ⟨(t, event), member, by simp⟩

/-- Where an event of one thread stands in the whole history. -/
theorem own_split {t : Nat} {event : Event Call Reply} {later earlier : List (Event Call Reply)}
    {history : List (Nat × Event Call Reply)}
    (split : own t history = later ++ event :: earlier) :
    ∃ after before, history = after ++ (t, event) :: before ∧ own t after = later ∧
      own t before = earlier := by
  obtain ⟨after, rest, rfl, after_eq, rest_eq⟩ := List.filterMap_eq_append_iff.mp split
  obtain ⟨skipped, entry, before, rfl, none_, found, before_eq⟩ :=
    List.filterMap_eq_cons_iff.mp rest_eq
  obtain ⟨u, made⟩ := entry
  simp only at found
  split at found
  · next same =>
      cases found
      subst same
      refine ⟨after ++ skipped, before, by simp, ?_, before_eq⟩
      rw [own_append]
      have silent : own u skipped = [] := List.filterMap_eq_nil_iff.mpr none_
      rw [silent, List.append_nil]
      exact after_eq
  · cases found

/-- Of two entries of a list one is the earlier, or they are the same. -/
theorem member_order {Entry : Type} {first second : Entry} {entries : List Entry} (left : first ∈ entries)
    (right : second ∈ entries) :
    first = second ∨ (∃ earlier, first :: earlier <:+ entries ∧ second ∈ earlier) ∨
      ∃ earlier, second :: earlier <:+ entries ∧ first ∈ earlier := by
  induction entries with
  | nil => cases left
  | cons entry rest ih =>
      cases List.mem_cons.mp left with
      | inl same =>
          subst same
          cases List.mem_cons.mp right with
          | inl same => exact .inl same.symm
          | inr member => exact .inr (.inl ⟨rest, List.suffix_refl _, member⟩)
      | inr leftRest =>
          cases List.mem_cons.mp right with
          | inl same =>
              subst same
              exact .inr (.inr ⟨rest, List.suffix_refl _, leftRest⟩)
          | inr rightRest =>
              obtain same | ⟨earlier, last, member⟩ | ⟨earlier, last, member⟩ := ih leftRest rightRest
              · exact .inl same
              · exact .inr (.inl ⟨earlier, last.trans (List.suffix_cons _ _), member⟩)
              · exact .inr (.inr ⟨earlier, last.trans (List.suffix_cons _ _), member⟩)

theorem countP_once {Entry : Type} {kind : Entry → Bool} {entries : List Entry}
    (apart : ∀ entry earlier, entry :: earlier <:+ entries → kind entry = true →
      ∀ other ∈ earlier, kind other = false) :
    entries.countP kind ≤ 1 := by
  induction entries with
  | nil => exact Nat.zero_le 1
  | cons entry rest ih =>
      have before := ih fun other earlier last => apart other earlier (last.trans (List.suffix_cons _ _))
      rw [List.countP_cons]
      split
      · next counted =>
          have none : rest.countP kind = 0 := by
            rw [List.countP_eq_zero]
            intro other member
            rw [apart entry rest (List.suffix_refl _) counted other member]
            exact Bool.false_ne_true
          omega
      · omega

/-- Every entry of the history is one that a law allows after those before it. -/
def Recorded (law : List (Nat × Event Call Reply) → Nat → Event Call Reply → Prop)
    (history : List (Nat × Event Call Reply)) : Prop :=
  ∀ t event earlier, (t, event) :: earlier <:+ history → law earlier t event

theorem Recorded.nil {law : List (Nat × Event Call Reply) → Nat → Event Call Reply → Prop} : Recorded law [] := by
  intro t event earlier impossible
  cases List.suffix_nil.mp impossible

theorem Recorded.cons {law : List (Nat × Event Call Reply) → Nat → Event Call Reply → Prop}
    {history : List (Nat × Event Call Reply)} {t : Nat} {event : Event Call Reply}
    (recorded : Recorded law history) (allowed : law history t event) : Recorded law ((t, event) :: history) := by
  intro u made earlier last
  cases List.suffix_cons_iff.mp last with
  | inl same =>
      cases same
      exact allowed
  | inr last => exact recorded u made earlier last

theorem Recorded.mem {law : List (Nat × Event Call Reply) → Nat → Event Call Reply → Prop}
    {visible history : List (Nat × Event Call Reply)} (recorded : Recorded law history)
    (last : visible <:+ history) {t : Nat} {event : Event Call Reply} (member : (t, event) ∈ visible) :
    ∃ earlier, (t, event) :: earlier <:+ visible ∧ law earlier t event := by
  obtain ⟨behind, earlier, rfl⟩ := List.append_of_mem member
  exact ⟨earlier, List.suffix_append behind _, recorded t event earlier ((List.suffix_append behind _).trans last)⟩

/-- Each event of the list is allowed by the rule after those before it. -/
def Obeys (rule : List (Event Call Reply) → Event Call Reply → Prop) :
    List (Event Call Reply) → Prop
  | [] => True
  | event :: earlier => rule earlier event ∧ Obeys rule earlier

theorem Obeys.append {rule : List (Event Call Reply) → Event Call Reply → Prop}
    {later earlier : List (Event Call Reply)} (obeys : Obeys rule (later ++ earlier)) :
    Obeys rule earlier := by
  induction later with
  | nil => exact obeys
  | cons event later ih => exact ih obeys.2

theorem Obeys.mono {rule weaker : List (Event Call Reply) → Event Call Reply → Prop}
    {events : List (Event Call Reply)} (obeys : Obeys rule events)
    (implies : ∀ earlier event, rule earlier event → weaker earlier event) : Obeys weaker events := by
  induction events with
  | nil => trivial
  | cons event earlier ih => exact ⟨implies earlier event obeys.1, ih obeys.2⟩

theorem Obeys.split {rule : List (Event Call Reply) → Event Call Reply → Prop}
    {later earlier : List (Event Call Reply)} {event : Event Call Reply}
    (obeys : Obeys rule (later ++ event :: earlier)) : rule earlier event :=
  obeys.append.1

theorem Obeys.of_mem {rule : List (Event Call Reply) → Event Call Reply → Prop}
    {events : List (Event Call Reply)} {event : Event Call Reply} (obeys : Obeys rule events)
    (member : event ∈ events) : ∃ earlier, rule earlier event := by
  obtain ⟨later, earlier, rfl⟩ := List.append_of_mem member
  exact ⟨earlier, obeys.split⟩

/-- The rules that the programs of a system are audited for, one family for
all tasks. -/
structure Audit (Call : Type) (Reply : Call → Type) (Task Outcome : Type) where
  fits : Event Call Reply → Prop
  rule : Task → List (Event Call Reply) → Event Call Reply → Prop
  closing : Task → List (Event Call Reply) → Outcome → Prop

/-- The shared state answers only with events that fit, and the program of
every admitted task passes the audit. -/
structure Audit.Passed (audit : Audit Call Reply Task Outcome)
    (system : System Call Reply State Task Outcome Choice) (admitted : Task → Prop) :
    Prop where
  fitting : ∀ t call choice state reply next,
    system.perform t call choice state = some (reply, next) → audit.fits ⟨call, reply⟩
  audited : ∀ task, admitted task →
    (system.program task).Audited audit.fits (audit.rule task) (audit.closing task) []

/-- Thread by thread, what an audit says about a configuration. -/
structure Disciplined (audit : Audit Call Reply Task Outcome)
    (config : Config Call Reply State Task Outcome) : Prop where
  started : ∀ t, config.threads.length ≤ t → own t config.history = []
  obeyed : ∀ t (thread : Thread Call Reply Task Outcome),
    config.threads[t]? = some thread →
    Obeys (audit.rule thread.task) (own t config.history)
  ahead : ∀ t (thread : Thread Call Reply Task Outcome) (rest : Program Call Reply Outcome),
    config.threads[t]? = some thread → thread.rest = some rest →
    rest.Audited audit.fits (audit.rule thread.task) (audit.closing thread.task)
      (own t config.history)

/-- What a thread was started for. -/
def Config.task (config : Config Call Reply State Task Outcome) (t : Nat) : Option Task :=
  config.threads[t]?.map (·.task)

/-- A thread keeps its task. -/
theorem System.Transition.task {system : System Call Reply State Task Outcome Choice}
    {config next : Config Call Reply State Task Outcome} {label : Label Call Reply Task Choice}
    (transition : system.Transition config label next) {t : Nat} {task : Task}
    (known : config.task t = some task) : next.task t = some task := by
  obtain ⟨thread, found, rfl⟩ := Option.map_eq_some_iff.mp known
  have bound := (List.getElem?_eq_some_iff.mp found).1
  cases transition with
  | spawned started =>
      simp only [Config.task, Config.spawn, List.getElem?_append_left bound, found, Option.map_some]
  | @performed u running call continuation choice reply state running_ answered =>
      simp only [Config.task, Config.advance]
      by_cases same : u = t
      · subst same
        rw [found] at running_
        cases running_
        rw [List.getElem?_set_self bound]
        rfl
      · rw [List.getElem?_set_ne same, found]
        rfl
  | external acted => exact known
  | crashed =>
      simp only [Config.task, System.crash, List.getElem?_map, found, Option.map_some]
      unfold Thread.kill
      split <;> rfl

namespace Disciplined

variable {audit : Audit Call Reply Task Outcome}
  {config next : Config Call Reply State Task Outcome}
  {system : System Call Reply State Task Outcome Choice}
  {admitted : Task → Prop}

theorem initial (state : State) :
    Disciplined audit (Config.initial state : Config Call Reply State Task Outcome) where
  started _ _ := rfl
  obeyed t thread found := by simp [Config.initial] at found
  ahead t thread rest found _ := by simp [Config.initial] at found

/-- A thread found after a spawn was there before, or it is the new one. -/
theorem spawn_found {task : Task} {program : Program Call Reply Outcome} {t : Nat}
    {thread : Thread Call Reply Task Outcome}
    (found : (config.spawn task program).threads[t]? = some thread) :
    config.threads[t]? = some thread ∨
      config.threads.length ≤ t ∧ thread = ⟨task, some program⟩ := by
  simp only [Config.spawn, List.getElem?_append] at found
  split at found
  · exact .inl found
  · next beyond =>
      rcases index : t - config.threads.length with _ | more
      · simp only [index, List.getElem?_cons_zero, Option.some.injEq] at found
        exact .inr ⟨by omega, found.symm⟩
      · simp [index] at found

private theorem spawn (disciplined : Disciplined audit config) {task : Task}
    {program : Program Call Reply Outcome}
    (audited : program.Audited audit.fits (audit.rule task) (audit.closing task) []) :
    Disciplined audit (config.spawn task program) := by
  refine ⟨?_, ?_, ?_⟩
  · intro t beyond
    simp only [Config.spawn, List.length_append, List.length_singleton] at beyond
    exact disciplined.started t (by omega)
  · intro t thread found
    rcases spawn_found found with former | ⟨beyond, rfl⟩
    · exact disciplined.obeyed t thread former
    · have fresh : own t (config.spawn task program).history = [] :=
        disciplined.started t beyond
      rw [fresh]
      trivial
  · intro t thread rest found running
    rcases spawn_found found with former | ⟨beyond, rfl⟩
    · exact disciplined.ahead t thread rest former running
    · have fresh : own t (config.spawn task program).history = [] :=
        disciplined.started t beyond
      cases running
      rw [fresh]
      exact audited

private theorem advance (disciplined : Disciplined audit config) {t : Nat} {task : Task}
    {call : Call} {continuation : Reply call → Program Call Reply Outcome}
    (found : config.threads[t]? = some ⟨task, some (.call call continuation)⟩)
    {reply : Reply call} (fit : audit.fits ⟨call, reply⟩) (state : State) :
    Disciplined audit
      (config.advance t task ⟨call, reply⟩ (continuation reply) state) := by
  have bound : t < config.threads.length := by
    rw [List.getElem?_eq_some_iff] at found
    exact found.1
  have step := disciplined.ahead t _ _ found rfl reply fit
  have obeyed := disciplined.obeyed t _ found
  refine ⟨?_, ?_, ?_⟩
  · intro u beyond
    simp only [Config.advance, List.length_set] at beyond
    simp only [Config.advance]
    rw [own_cons_other (by omega)]
    exact disciplined.started u beyond
  · intro u thread located
    simp only [Config.advance] at located ⊢
    by_cases same : t = u
    · subst same
      rw [List.getElem?_set_self bound] at located
      cases located
      rw [own_cons_self]
      exact ⟨step.1, obeyed⟩
    · rw [List.getElem?_set_ne same] at located
      rw [own_cons_other same]
      exact disciplined.obeyed u thread located
  · intro u thread rest located running
    simp only [Config.advance] at located ⊢
    by_cases same : t = u
    · subst same
      rw [List.getElem?_set_self bound] at located
      cases located
      cases running
      rw [own_cons_self]
      exact step.2
    · rw [List.getElem?_set_ne same] at located
      rw [own_cons_other same]
      exact disciplined.ahead u thread rest located running

private theorem kill_rest {thread : Thread Call Reply Task Outcome}
    {rest : Program Call Reply Outcome} (running : thread.kill.rest = some rest) :
    thread.rest = some rest := by
  unfold Thread.kill at running
  split at running
  · cases running
  · exact running

theorem kill_task (thread : Thread Call Reply Task Outcome) :
    thread.kill.task = thread.task := by
  unfold Thread.kill
  split <;> rfl

private theorem crash (disciplined : Disciplined audit config) :
    Disciplined audit (system.crash config) := by
  refine ⟨?_, ?_, ?_⟩
  · intro t beyond
    simp only [System.crash, List.length_map] at beyond
    exact disciplined.started t beyond
  · intro t thread found
    simp only [System.crash, List.getElem?_map, Option.map_eq_some_iff] at found ⊢
    obtain ⟨former, located, rfl⟩ := found
    rw [kill_task]
    exact disciplined.obeyed t former located
  · intro t thread rest found running
    simp only [System.crash, List.getElem?_map, Option.map_eq_some_iff] at found ⊢
    obtain ⟨former, located, rfl⟩ := found
    rw [kill_task]
    exact disciplined.ahead t former rest located (kill_rest running)

/-- One step keeps the discipline, provided a task that is started is admitted. -/
theorem step (passed : audit.Passed system admitted)
    (disciplined : Disciplined audit config) {label : Label Call Reply Task Choice}
    (transition : system.Transition config label next)
    (admission : ∀ task, label = .spawned task → admitted task) :
    Disciplined audit next := by
  cases transition with
  | spawned task => exact disciplined.spawn (passed.audited task (admission task rfl))
  | performed found answered =>
      exact disciplined.advance found (passed.fitting _ _ _ _ _ _ answered) _
  | external acted => exact ⟨disciplined.started, disciplined.obeyed, disciplined.ahead⟩
  | crashed => exact disciplined.crash

/-- Every configuration reached from an empty process is disciplined. -/
theorem run (passed : audit.Passed system admitted) {state : State}
    {meets : Config Call Reply State Task Outcome → Label Call Reply Task Choice → Prop}
    (reached : system.Run meets (Config.initial state) config)
    (admission : ∀ before task, meets before (.spawned task) → admitted task) :
    Disciplined audit config := by
  refine System.Run.invariant reached (initial state) ?_
  intro before label after _ transition met disciplined
  refine disciplined.step passed transition ?_
  rintro task rfl
  exact admission before task met

/-- The call a thread is about to make is one its rule allows. -/
theorem performs (passed : audit.Passed system admitted)
    (disciplined : Disciplined audit config) {t : Nat} {event : Event Call Reply}
    (transition : system.Transition config (.performed t event) next) :
    ∃ thread, config.threads[t]? = some thread ∧
      audit.rule thread.task (own t config.history) event := by
  cases transition with
  | performed found answered =>
      exact ⟨_, found, (disciplined.ahead t _ _ found rfl _
        (passed.fitting _ _ _ _ _ _ answered)).1⟩

/-- Every event of the history was allowed when it was made. -/
theorem justified (disciplined : Disciplined audit config)
    {later earlier : List (Nat × Event Call Reply)} {t : Nat} {event : Event Call Reply}
    (split : config.history = later ++ (t, event) :: earlier) :
    ∃ thread, config.threads[t]? = some thread ∧
      audit.rule thread.task (own t earlier) event := by
  have events : own t config.history = own t later ++ event :: own t earlier := by
    rw [split, own_append, own_cons_self]
  by_cases bound : t < config.threads.length
  · have found := List.getElem?_eq_getElem bound
    refine ⟨_, found, ?_⟩
    have obeyed := disciplined.obeyed t _ found
    rw [events] at obeyed
    exact obeyed.split
  · have none := disciplined.started t (by omega)
    simp [events] at none

/-- An event in some last part of the history was allowed by those before it. -/
theorem traced (disciplined : Disciplined audit config) {visible : List (Nat × Event Call Reply)}
    (last : visible <:+ config.history) {t : Nat} {event : Event Call Reply} (member : (t, event) ∈ visible) :
    ∃ thread earlier, config.threads[t]? = some thread ∧ (t, event) :: earlier <:+ visible ∧
      audit.rule thread.task (own t earlier) event := by
  obtain ⟨behind, earlier, rfl⟩ := List.append_of_mem member
  obtain ⟨later, whole⟩ := last
  rw [← List.append_assoc] at whole
  obtain ⟨thread, found, rule⟩ := disciplined.justified whole.symm
  exact ⟨thread, earlier, found, List.suffix_append behind _, rule⟩

/-- A thread that has returned closed its events as the audit says. -/
theorem closed (disciplined : Disciplined audit config) {t : Nat}
    {thread : Thread Call Reply Task Outcome} {outcome : Outcome}
    (found : config.threads[t]? = some thread) (returned : thread.outcome = some outcome) :
    audit.closing thread.task (own t config.history) outcome := by
  unfold Thread.outcome at returned
  split at returned
  · next result rest =>
      cases returned
      exact disciplined.ahead t thread _ found rest
  · cases returned

end Disciplined

/-- Every thread of a run was started for a task that the run admits. -/
theorem System.Run.tasks {system : System Call Reply State Task Outcome Choice}
    {meets : Config Call Reply State Task Outcome → Label Call Reply Task Choice → Prop} {state : State}
    {config : Config Call Reply State Task Outcome} (admitted : Task → Prop)
    (reached : system.Run meets (Config.initial state) config)
    (admission : ∀ before task, meets before (.spawned task) → admitted task) :
    ∀ thread ∈ config.threads, admitted thread.task := by
  induction reached with
  | refl =>
      intro thread impossible
      cases impossible
  | tail _ step ih =>
      obtain ⟨label, transition, met⟩ := step
      intro thread member
      cases transition with
      | spawned task =>
          rcases List.mem_append.mp member with former | fresh
          · exact ih thread former
          · rw [List.mem_singleton.mp fresh]
            exact admission _ task met
      | performed found answered =>
          rcases List.mem_or_eq_of_mem_set member with former | rfl
          · exact ih thread former
          · have before := ih _ (List.mem_of_getElem? found)
            exact before
      | external acted => exact ih thread member
      | crashed =>
          obtain ⟨former, before, rfl⟩ := List.mem_map.mp member
          rw [Disciplined.kill_task]
          exact ih former before

end NodeAtlas.Interleaving
