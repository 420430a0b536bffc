import Mathlib.Logic.Relation
import Mathlib.Data.List.Chain
import NodeAtlas.Interleaving.Program

/-! Threads that run programs against one shared state, one call at a time.
Any thread may take the next step, the process may crash between two steps,
and the surroundings may act on the shared state by themselves. -/

set_option autoImplicit false

namespace NodeAtlas.Interleaving

/-- What the threads of a process run and what their calls do. `perform`
answers `none` where the call cannot proceed yet with that choice of the
surroundings; `restart` is what a crash does to the shared state. -/
structure System (Call : Type) (Reply : Call → Type)
    (State Task Outcome Choice : Type) where
  program : Task → Program Call Reply Outcome
  perform : Nat → (call : Call) → Choice → State → Option (Reply call × State)
  external : Choice → State → Option State
  restart : State → State

/-- A thread and what is left of its program, nothing when a crash killed it. -/
structure Thread (Call : Type) (Reply : Call → Type) (Task Outcome : Type) where
  task : Task
  rest : Option (Program Call Reply Outcome)

variable {Call : Type} {Reply : Call → Type} {State Task Outcome Choice : Type}

/-- The thread still has a call to make. -/
def Thread.active (thread : Thread Call Reply Task Outcome) : Bool :=
  match thread.rest with
  | some (.call _ _) => true
  | _ => false

def Thread.outcome (thread : Thread Call Reply Task Outcome) : Option Outcome :=
  match thread.rest with
  | some (.done outcome) => some outcome
  | _ => none

/-- A crash ends the threads in progress; results already returned stand. -/
def Thread.kill (thread : Thread Call Reply Task Outcome) :
    Thread Call Reply Task Outcome :=
  if thread.active then { thread with rest := none } else thread

/-- Threads are numbered in the order they were started. The history holds
every call made so far with its thread, latest first. -/
structure Config (Call : Type) (Reply : Call → Type) (State Task Outcome : Type) where
  state : State
  threads : List (Thread Call Reply Task Outcome)
  history : List (Nat × Event Call Reply)

/-- The part of a history made by thread `t`, latest first. -/
def own (t : Nat) (history : List (Nat × Event Call Reply)) : List (Event Call Reply) :=
  history.filterMap fun entry => if entry.1 = t then some entry.2 else none

inductive Label (Call : Type) (Reply : Call → Type) (Task Choice : Type) where
  | spawned (task : Task)
  | performed (thread : Nat) (event : Event Call Reply)
  | external (choice : Choice)
  | crashed

namespace Config

def initial (state : State) : Config Call Reply State Task Outcome :=
  ⟨state, [], []⟩

def spawn (config : Config Call Reply State Task Outcome) (task : Task)
    (program : Program Call Reply Outcome) : Config Call Reply State Task Outcome :=
  { config with threads := config.threads ++ [⟨task, some program⟩] }

def advance (config : Config Call Reply State Task Outcome) (t : Nat) (task : Task)
    (event : Event Call Reply) (rest : Program Call Reply Outcome) (state : State) :
    Config Call Reply State Task Outcome where
  state := state
  threads := config.threads.set t ⟨task, some rest⟩
  history := (t, event) :: config.history

/-- No thread is in progress. -/
def quiescent (config : Config Call Reply State Task Outcome) : Bool :=
  config.threads.all fun thread => !thread.active

end Config

namespace System

variable (system : System Call Reply State Task Outcome Choice)

def crash (config : Config Call Reply State Task Outcome) :
    Config Call Reply State Task Outcome :=
  { config with
    state := system.restart config.state
    threads := config.threads.map Thread.kill }

/-- One step of the whole process, with what can be seen of it. -/
inductive Transition : Config Call Reply State Task Outcome →
    Label Call Reply Task Choice → Config Call Reply State Task Outcome → Prop where
  | spawned {config} (task : Task) :
      Transition config (.spawned task) (config.spawn task (system.program task))
  | performed {config} {t : Nat} {task : Task} {call : Call}
      {next : Reply call → Program Call Reply Outcome} {choice : Choice}
      {reply : Reply call} {state : State}
      (found : config.threads[t]? = some ⟨task, some (.call call next)⟩)
      (answered : system.perform t call choice config.state = some (reply, state)) :
      Transition config (.performed t ⟨call, reply⟩)
        (config.advance t task ⟨call, reply⟩ (next reply) state)
  | external {config} {choice : Choice} {state : State}
      (acted : system.external choice config.state = some state) :
      Transition config (.external choice) { config with state := state }
  | crashed {config} : Transition config .crashed (system.crash config)

/-- A step that meets a condition on the state before it and what it does. -/
def Step (meets : Config Call Reply State Task Outcome → Label Call Reply Task Choice → Prop)
    (config next : Config Call Reply State Task Outcome) : Prop :=
  ∃ label, system.Transition config label next ∧ meets config label

/-- Runs all of whose steps meet a condition. -/
def Run (meets : Config Call Reply State Task Outcome → Label Call Reply Task Choice → Prop) :
    Config Call Reply State Task Outcome → Config Call Reply State Task Outcome → Prop :=
  Relation.ReflTransGen (system.Step meets)

variable {system}
  {meets : Config Call Reply State Task Outcome → Label Call Reply Task Choice → Prop}
  {start config next : Config Call Reply State Task Outcome}

theorem Run.refl : system.Run meets config config := Relation.ReflTransGen.refl

theorem Run.snoc {label : Label Call Reply Task Choice}
    (run : system.Run meets start config)
    (transition : system.Transition config label next) (met : meets config label) :
    system.Run meets start next :=
  Relation.ReflTransGen.tail run ⟨label, transition, met⟩

theorem Run.trans {middle finish : Config Call Reply State Task Outcome}
    (first : system.Run meets start middle) (second : system.Run meets middle finish) :
    system.Run meets start finish :=
  Relation.ReflTransGen.trans first second

/-- Fewer demands on the steps admit more runs. -/
theorem Run.weaken
    {weaker : Config Call Reply State Task Outcome → Label Call Reply Task Choice → Prop}
    (run : system.Run meets start config)
    (implies : ∀ config label, meets config label → weaker config label) :
    system.Run weaker start config := by
  refine Relation.ReflTransGen.mono ?_ _ _ run
  rintro before after ⟨label, transition, met⟩
  exact ⟨label, transition, implies before label met⟩

/-- What holds at the start and is kept by every step holds in every state
reached. The step may use that its own start was reached. -/
theorem Run.invariant {property : Config Call Reply State Task Outcome → Prop}
    (run : system.Run meets start config) (initially : property start)
    (kept : ∀ before label after, system.Run meets start before →
      system.Transition before label after → meets before label →
      property before → property after) :
    property config := by
  induction run with
  | refl => exact initially
  | tail reached step ih =>
      obtain ⟨label, transition, met⟩ := step
      exact kept _ label _ reached transition met ih

/-- A preorder on states that every step follows relates the ends of a run. -/
theorem Run.follows {evolves : Config Call Reply State Task Outcome →
      Config Call Reply State Task Outcome → Prop}
    (run : system.Run meets start config)
    (reflexive : ∀ config, evolves config config)
    (transitive : ∀ first second third, evolves first second → evolves second third →
      evolves first third)
    (step : ∀ before label after, system.Run meets start before →
      system.Transition before label after → meets before label → evolves before after) :
    evolves start config := by
  refine Run.invariant run (reflexive start) ?_
  intro before label after reached transition met held
  exact transitive start before after held (step before label after reached transition met)

/-! ## All configurations of a run, in order -/

variable (system) in
def Trail (meets : Config Call Reply State Task Outcome → Label Call Reply Task Choice → Prop)
    (start : Config Call Reply State Task Outcome)
    (later : List (Config Call Reply State Task Outcome)) : Prop :=
  (start :: later).IsChain (system.Step meets)

private theorem trail_reached {later : List (Config Call Reply State Task Outcome)}
    (reached : system.Run meets start config)
    (steps : (config :: later).IsChain (system.Step meets)) :
    ∀ visited ∈ config :: later, system.Run meets start visited := by
  induction later generalizing config with
  | nil =>
      intro visited member
      rw [List.mem_singleton.mp member]
      exact reached
  | cons next later ih =>
      obtain ⟨step, rest⟩ := List.isChain_cons_cons.mp steps
      intro visited member
      rcases List.mem_cons.mp member with rfl | further
      · exact reached
      · exact ih (Relation.ReflTransGen.tail reached step) rest visited further

theorem Trail.reached {later : List (Config Call Reply State Task Outcome)}
    (trail : system.Trail meets start later) :
    ∀ visited ∈ start :: later, system.Run meets start visited :=
  trail_reached Run.refl trail

/-- What every step from a reached configuration relates is related along the
whole trail. -/
theorem Trail.related {later : List (Config Call Reply State Task Outcome)}
    (trail : system.Trail meets start later)
    {related : Config Call Reply State Task Outcome →
      Config Call Reply State Task Outcome → Prop}
    (step : ∀ before label after, system.Run meets start before →
      system.Transition before label after → meets before label → related before after) :
    (start :: later).IsChain related := by
  have reached := trail.reached
  refine List.IsChain.imp_of_mem_imp ?_ trail
  rintro before after member _ ⟨label, transition, met⟩
  exact step before label after (reached before member) transition met

/-- A preorder that every step follows relates each configuration of a trail
to all later ones. -/
theorem Trail.pairwise {later : List (Config Call Reply State Task Outcome)}
    (trail : system.Trail meets start later)
    {related : Config Call Reply State Task Outcome →
      Config Call Reply State Task Outcome → Prop}
    (transitive : ∀ first second third, related first second → related second third →
      related first third)
    (step : ∀ before label after, system.Run meets start before →
      system.Transition before label after → meets before label → related before after) :
    (start :: later).Pairwise related := by
  have : Trans related related related := ⟨fun {first second third} => transitive first second third⟩
  exact List.isChain_iff_pairwise.mp (trail.related step)

/-! ## Executing a schedule -/

/-- A scheduler's decision. -/
inductive Move (Task Choice : Type) where
  | spawn (task : Task)
  | advance (thread : Nat) (choice : Choice)
  | external (choice : Choice)
  | crash

variable (system)

/-- What a decision does, with the label of the step. -/
def move (config : Config Call Reply State Task Outcome) : Move Task Choice →
    Option (Label Call Reply Task Choice × Config Call Reply State Task Outcome)
  | .spawn task => some (.spawned task, config.spawn task (system.program task))
  | .advance t choice =>
      match config.threads[t]? with
      | some ⟨task, some (.call call next)⟩ =>
          match system.perform t call choice config.state with
          | some (reply, state) =>
              some (.performed t ⟨call, reply⟩,
                config.advance t task ⟨call, reply⟩ (next reply) state)
          | none => none
      | _ => none
  | .external choice =>
      match system.external choice config.state with
      | some state => some (.external choice, { config with state := state })
      | none => none
  | .crash => some (.crashed, system.crash config)

/-- The configurations that a schedule goes through, if it can be carried out
with steps of which each passes a test. -/
def replay (test : Label Call Reply Task Choice → Bool) :
    List (Move Task Choice) → Config Call Reply State Task Outcome →
    Option (List (Config Call Reply State Task Outcome))
  | [], _ => some []
  | decision :: rest, config =>
      match system.move config decision with
      | some (label, next) =>
          if test label then (replay test rest next).map (next :: ·) else none
      | none => none

variable {system}

theorem move_sound {decision : Move Task Choice} {label : Label Call Reply Task Choice}
    (moved : system.move config decision = some (label, next)) :
    system.Transition config label next := by
  cases decision with
  | spawn task =>
      cases moved
      exact .spawned task
  | advance t choice =>
      simp only [move] at moved
      split at moved
      · next task call rest found =>
          split at moved
          · next reply state answered =>
              cases moved
              exact .performed found answered
          · cases moved
      · cases moved
  | external choice =>
      simp only [move] at moved
      split at moved
      · next state acted =>
          cases moved
          exact .external acted
      · cases moved
  | crash =>
      cases moved
      exact .crashed

/-- A schedule that can be carried out is a trail. -/
theorem replay_trail {test : Label Call Reply Task Choice → Bool}
    {schedule : List (Move Task Choice)}
    {later : List (Config Call Reply State Task Outcome)}
    (replayed : system.replay test schedule start = some later)
    (implies : ∀ config label, test label = true → meets config label) :
    system.Trail meets start later := by
  induction schedule generalizing start later with
  | nil =>
      cases replayed
      exact List.isChain_singleton _
  | cons decision rest ih =>
      simp only [replay] at replayed
      split at replayed
      · next label next moved =>
          split at replayed
          · next passed =>
              obtain ⟨further, replayedRest, rfl⟩ := Option.map_eq_some_iff.mp replayed
              have step : system.Step meets start next :=
                ⟨label, move_sound moved, implies start label passed⟩
              exact List.isChain_cons_cons.mpr ⟨step, ih replayedRest⟩
          · cases replayed
      · cases replayed

/-- The last configuration that a schedule leads to. -/
def outcome (test : Label Call Reply Task Choice → Bool) (schedule : List (Move Task Choice))
    (start : Config Call Reply State Task Outcome) :
    Option (Config Call Reply State Task Outcome) :=
  (system.replay test schedule start).map fun later => later.getLastD start

theorem outcome_run {test : Label Call Reply Task Choice → Bool}
    {schedule : List (Move Task Choice)}
    (reached : system.outcome test schedule start = some config)
    (implies : ∀ config label, test label = true → meets config label) :
    system.Run meets start config := by
  obtain ⟨later, replayed, rfl⟩ := Option.map_eq_some_iff.mp reached
  exact (replay_trail replayed implies).reached _ List.getLastD_mem_cons

variable (system) in
/-- The configuration that a schedule leads to, with a test that sees the
configuration before each step. -/
def execute (test : Config Call Reply State Task Outcome → Label Call Reply Task Choice → Bool) :
    List (Move Task Choice) → Config Call Reply State Task Outcome →
    Option (Config Call Reply State Task Outcome)
  | [], config => some config
  | decision :: rest, config =>
      match system.move config decision with
      | some (label, next) => if test config label then execute test rest next else none
      | none => none

theorem execute_run
    {test : Config Call Reply State Task Outcome → Label Call Reply Task Choice → Bool}
    {schedule : List (Move Task Choice)}
    (executed : system.execute test schedule start = some config)
    (implies : ∀ config label, test config label = true → meets config label) :
    system.Run meets start config := by
  induction schedule generalizing start with
  | nil =>
      cases executed
      exact .refl
  | cons decision rest ih =>
      simp only [execute] at executed
      split at executed
      · next label next moved =>
          split at executed
          · next passed =>
              have step : system.Run meets start next :=
                Run.refl.snoc (move_sound moved) (implies start label passed)
              exact step.trans (ih executed)
          · cases executed
      · cases executed

end System

end NodeAtlas.Interleaving
