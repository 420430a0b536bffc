import NodeAtlas.Interleaving.Discipline

/-! One program against a state that others may change between its calls. The
trace need not be over: a program can be cut off at any call. -/

set_option autoImplicit false

namespace NodeAtlas.Interleaving

variable {Call : Type} {Reply : Call → Type} {State Choice α β : Type}
  {perform : (call : Call) → Choice → State → Option (Reply call × State)}
  {rely : State → State → Prop}

/-- A call, its reply and the state that it found. -/
structure Moment (Call : Type) (Reply : Call → Type) (State : Type) where
  state : State
  event : Event Call Reply

namespace Program

/-- What a program has done, first call first, and what is left of it. `rely`
says what the others may do to the state before each call. -/
inductive Traces (perform : (call : Call) → Choice → State → Option (Reply call × State))
    (rely : State → State → Prop) : Program Call Reply α → State →
    List (Moment Call Reply State) → Program Call Reply α → State → Prop where
  | refl {program state} : Traces perform rely program state [] program state
  | step {call next choice state between reply after moments rest final}
      (changed : rely state between)
      (answered : perform call choice between = some (reply, after))
      (further : Traces perform rely (next reply) after moments rest final) :
      Traces perform rely (.call call next) state (⟨between, ⟨call, reply⟩⟩ :: moments) rest final

theorem Traces.done {result : α} {state final : State} {moments : List (Moment Call Reply State)}
    {rest : Program Call Reply α}
    (traces : Traces perform rely (.done result) state moments rest final) :
    moments = [] ∧ rest = .done result ∧ final = state := by
  cases traces
  exact ⟨rfl, rfl, rfl⟩

/-- A program that returned has made its first call. -/
theorem Traces.call {call : Call} {next : Reply call → Program Call Reply α} {result : α}
    {state final : State} {moments : List (Moment Call Reply State)}
    (traces : Traces perform rely (.call call next) state moments (.done result) final) :
    ∃ choice between reply after later, rely state between ∧
      perform call choice between = some (reply, after) ∧
      moments = ⟨between, ⟨call, reply⟩⟩ :: later ∧
      Traces perform rely (next reply) after later (.done result) final := by
  cases traces with
  | step changed answered further =>
      exact ⟨_, _, _, _, _, changed, answered, rfl, further⟩

/-- A sequence that returned has returned from its first piece before. -/
theorem Traces.bind {first : Program Call Reply α} {second : α → Program Call Reply β}
    {result : β} {state final : State} {moments : List (Moment Call Reply State)}
    (traces : Traces perform rely (first >>= second) state moments (.done result) final) :
    ∃ value middle before after, moments = before ++ after ∧
      Traces perform rely first state before (.done value) middle ∧
      Traces perform rely (second value) middle after (.done result) final := by
  induction first generalizing state moments with
  | done value => exact ⟨value, state, [], moments, rfl, .refl, traces⟩
  | call request next ih =>
      obtain ⟨choice, between, reply, after, later, changed, answered, rfl, rest⟩ := Traces.call traces
      obtain ⟨value, middle, before, further, rfl, head, tail⟩ := ih reply rest
      exact ⟨value, middle, _, further, rfl, .step changed answered head, tail⟩

/-- Every moment is an answer of the state that it found. -/
theorem Traces.answered {program rest : Program Call Reply α} {state final : State}
    {moments : List (Moment Call Reply State)}
    (traces : Traces perform rely program state moments rest final) :
    ∀ moment ∈ moments, ∃ choice after,
      perform moment.event.call choice moment.state = some (moment.event.reply, after) := by
  induction traces with
  | refl =>
      intro moment member
      cases member
  | step changed answered further ih =>
      intro moment member
      rcases List.mem_cons.mp member with rfl | later
      · exact ⟨_, _, answered⟩
      · exact ih moment later

theorem Traces.none {program rest : Program Call Reply α} {state final : State}
    (traces : Traces perform rely program state [] rest final) : rest = program ∧ final = state := by
  cases traces
  exact ⟨rfl, rfl⟩

/-- The last moment leaves the state in which the trace ends. -/
theorem Traces.last {program rest : Program Call Reply α} {state final : State}
    {moments : List (Moment Call Reply State)} {moment : Moment Call Reply State}
    (traces : Traces perform rely program state (moments ++ [moment]) rest final) :
    ∃ choice, perform moment.event.call choice moment.state = some (moment.event.reply, final) := by
  induction moments generalizing program state with
  | nil =>
      cases traces with
      | step changed answered further =>
          rw [further.none.2]
          exact ⟨_, answered⟩
  | cons first moments ih =>
      cases traces with
      | step changed answered further => exact ih further

/-- What neither the others nor the calls of a trace change is the same at its
end. -/
theorem Traces.unchanged {Part : Type} {part : State → Part} {program rest : Program Call Reply α}
    {state final : State} {moments : List (Moment Call Reply State)}
    (traces : Traces perform rely program state moments rest final)
    (others : ∀ before after, rely before after → part after = part before)
    (calls : ∀ moment ∈ moments, ∀ choice after,
      perform moment.event.call choice moment.state = some (moment.event.reply, after) →
      part after = part moment.state) : part final = part state := by
  induction traces with
  | refl => rfl
  | step changed answered further ih =>
      rw [ih fun moment later => calls moment (List.mem_cons_of_mem _ later),
        calls _ List.mem_cons_self _ _ answered, others _ _ changed]

/-- A trace up to one of its moments. -/
theorem Traces.before {program rest : Program Call Reply α} {state final : State}
    {earlier later : List (Moment Call Reply State)} {moment : Moment Call Reply State}
    (traces : Traces perform rely program state (earlier ++ moment :: later) rest final) :
    ∃ remaining between, Traces perform rely program state earlier remaining between ∧
      rely between moment.state := by
  induction earlier generalizing program state with
  | nil =>
      cases traces with
      | step changed answered further => exact ⟨_, state, .refl, changed⟩
  | cons first earlier ih =>
      cases traces with
      | step changed answered further =>
          obtain ⟨remaining, between, former, changedLater⟩ := ih further
          exact ⟨remaining, between, .step changed answered former, changedLater⟩

/-- What an audit says about a program holds of its traces. -/
theorem Audited.traces {fits : Event Call Reply → Prop}
    {rule : List (Event Call Reply) → Event Call Reply → Prop}
    {closing : List (Event Call Reply) → α → Prop} {earlier : List (Event Call Reply)}
    {moments : List (Moment Call Reply State)} {program rest : Program Call Reply α}
    {state final : State}
    (audited : program.Audited fits rule closing earlier)
    (fitting : ∀ call choice state reply next,
      perform call choice state = some (reply, next) → fits ⟨call, reply⟩)
    (obeys : Obeys rule earlier) (traces : Traces perform rely program state moments rest final) :
    Obeys rule ((moments.map (·.event)).reverse ++ earlier) ∧
      rest.Audited fits rule closing ((moments.map (·.event)).reverse ++ earlier) := by
  induction traces generalizing earlier with
  | refl => exact ⟨obeys, audited⟩
  | step changed answered further ih =>
      obtain ⟨ruled, remaining⟩ := audited _ (fitting _ _ _ _ _ answered)
      rw [List.map_cons, List.reverse_cons, List.append_assoc]
      exact ih remaining ⟨ruled, obeys⟩

/-- The moments, the result and the state that a list of choices leads to. -/
def execute (perform : (call : Call) → Choice → State → Option (Reply call × State)) :
    Program Call Reply α → List Choice → State →
    Option (List (Moment Call Reply State) × α × State)
  | .done result, _, state => some ([], result, state)
  | .call _ _, [], _ => none
  | .call request next, choice :: choices, state =>
      match perform request choice state with
      | none => none
      | some (reply, after) =>
          (execute perform (next reply) choices after).map fun (moments, result, final) =>
            (⟨state, ⟨request, reply⟩⟩ :: moments, result, final)

theorem execute_traces {program : Program Call Reply α} {choices : List Choice}
    {state final : State} {moments : List (Moment Call Reply State)} {result : α}
    (idle : ∀ state, rely state state)
    (executed : program.execute perform choices state = some (moments, result, final)) :
    Traces perform rely program state moments (.done result) final := by
  induction program generalizing choices state moments with
  | done value =>
      cases executed
      exact .refl
  | call request next ih =>
      cases choices with
      | nil => cases executed
      | cons choice choices =>
          simp only [execute] at executed
          split at executed
          · cases executed
          · next reply after answered =>
              obtain ⟨⟨later, value, last⟩, rest, same⟩ := Option.map_eq_some_iff.mp executed
              cases same
              exact .step (idle state) answered (ih reply rest)

/-- What a list of choices leads to when the others change the state before
each call. -/
def play (perform : (call : Call) → Choice → State → Option (Reply call × State)) :
    Program Call Reply α → List ((State → State) × Choice) → State →
    Option (List (Moment Call Reply State) × α × State)
  | .done result, _, state => some ([], result, state)
  | .call _ _, [], _ => none
  | .call request next, (others, choice) :: choices, state =>
      match perform request choice (others state) with
      | none => none
      | some (reply, after) =>
          (play perform (next reply) choices after).map fun (moments, result, final) =>
            (⟨others state, ⟨request, reply⟩⟩ :: moments, result, final)

theorem play_traces {program : Program Call Reply α} {choices : List ((State → State) × Choice)}
    {state final : State} {moments : List (Moment Call Reply State)} {result : α}
    (changes : ∀ entry ∈ choices, ∀ state, rely state (entry.1 state))
    (played : program.play perform choices state = some (moments, result, final)) :
    Traces perform rely program state moments (.done result) final := by
  induction program generalizing choices state moments with
  | done value =>
      cases played
      exact .refl
  | call request next ih =>
      cases choices with
      | nil => cases played
      | cons entry choices =>
          obtain ⟨others, choice⟩ := entry
          simp only [play] at played
          split at played
          · cases played
          · next reply after answered =>
              obtain ⟨⟨later, value, last⟩, rest, same⟩ := Option.map_eq_some_iff.mp played
              cases same
              have further := ih reply (fun entry member => changes entry (List.mem_cons_of_mem _ member)) rest
              exact .step (changes _ List.mem_cons_self state) answered further

end Program

end NodeAtlas.Interleaving
