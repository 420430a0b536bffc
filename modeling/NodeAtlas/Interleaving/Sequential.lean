import NodeAtlas.Interleaving.Traces

/-! A program that has the state to itself: pre- and postconditions over its
calls, with a rule for every moment on the way. -/

set_option autoImplicit false

namespace NodeAtlas.Interleaving.Program

variable {Call : Type} {Reply : Call → Type} {State Choice α β : Type}
  {perform : (call : Call) → Choice → State → Option (Reply call × State)}
  {rule weaker : Moment Call Reply State → Prop}
  {earlier : List (Moment Call Reply State)} {state : State}

/-- Every moment of the program, run from `state`, obeys `rule`; when it
returns, `post` holds of the moments so far (latest first), the result and the
state. -/
def Ensures (perform : (call : Call) → Choice → State → Option (Reply call × State))
    (rule : Moment Call Reply State → Prop)
    (post : List (Moment Call Reply State) → α → State → Prop) :
    List (Moment Call Reply State) → Program Call Reply α → State → Prop
  | earlier, .done result, state => post earlier result state
  | earlier, .call request next, state =>
      ∀ choice reply after, perform request choice state = some (reply, after) →
        rule ⟨state, ⟨request, reply⟩⟩ ∧
          Ensures perform rule post (⟨state, ⟨request, reply⟩⟩ :: earlier) (next reply) after

theorem Ensures.bind {middle : List (Moment Call Reply State) → α → State → Prop}
    {post : List (Moment Call Reply State) → β → State → Prop}
    {first : Program Call Reply α} {second : α → Program Call Reply β}
    (former : first.Ensures perform rule middle earlier state)
    (latter : ∀ moments result between, middle moments result between →
      (second result).Ensures perform rule post moments between) :
    (first >>= second).Ensures perform rule post earlier state := by
  induction first generalizing earlier state with
  | done result => exact latter earlier result state former
  | call request next ih =>
      intro choice reply after answered
      obtain ⟨obeyed, rest⟩ := former choice reply after answered
      exact ⟨obeyed, ih reply rest⟩

/-- What is left to show after a call that comes first. -/
theorem Ensures.call {post : List (Moment Call Reply State) → β → State → Prop} {request : Call}
    {second : Reply request → Program Call Reply β}
    (step : ∀ choice reply after, perform request choice state = some (reply, after) →
      rule ⟨state, ⟨request, reply⟩⟩ ∧
        (second reply).Ensures perform rule post (⟨state, ⟨request, reply⟩⟩ :: earlier) after) :
    (Program.perform request >>= second).Ensures perform rule post earlier state :=
  step

theorem Ensures.mono {post : List (Moment Call Reply State) → α → State → Prop}
    {further : List (Moment Call Reply State) → α → State → Prop} {program : Program Call Reply α}
    (ensures : program.Ensures perform rule post earlier state)
    (obeys : ∀ moment, rule moment → weaker moment)
    (implies : ∀ moments result final, post moments result final → further moments result final) :
    program.Ensures perform weaker further earlier state := by
  induction program generalizing earlier state with
  | done result => exact implies earlier result state ensures
  | call request next ih =>
      intro choice reply after answered
      obtain ⟨obeyed, rest⟩ := ensures choice reply after answered
      exact ⟨obeys _ obeyed, ih reply rest⟩

/-- The rule holds of all the moments that a program has added. -/
theorem Ensures.record {post : List (Moment Call Reply State) → α → State → Prop}
    {program : Program Call Reply α} (ensures : program.Ensures perform rule post earlier state) :
    program.Ensures perform rule (fun moments result final =>
      (∃ added, moments = added ++ earlier ∧ ∀ moment ∈ added, rule moment) ∧
        post moments result final) earlier state := by
  have walk : ∀ (program : Program Call Reply α) (added : List (Moment Call Reply State)) (state : State),
      (∀ moment ∈ added, rule moment) → program.Ensures perform rule post (added ++ earlier) state →
      program.Ensures perform rule (fun moments result final =>
        (∃ added, moments = added ++ earlier ∧ ∀ moment ∈ added, rule moment) ∧
          post moments result final) (added ++ earlier) state := by
    intro program
    induction program with
    | done result =>
        intro added state obeyed ensures
        exact ⟨⟨added, rfl, obeyed⟩, ensures⟩
    | call request next ih =>
        intro added state obeyed ensures choice reply after answered
        obtain ⟨now, rest⟩ := ensures choice reply after answered
        refine ⟨now, ih reply (⟨state, ⟨request, reply⟩⟩ :: added) after ?_ rest⟩
        intro moment member
        rcases List.mem_cons.mp member with rfl | before
        · exact now
        · exact obeyed moment before
  apply walk program [] state
  · intro moment member
    cases member
  · exact ensures

/-- The judgement is about the traces in which the others do nothing. -/
theorem Ensures.traces {post : List (Moment Call Reply State) → α → State → Prop}
    {program rest : Program Call Reply α} {final : State} {moments : List (Moment Call Reply State)}
    (ensures : program.Ensures perform rule post earlier state)
    (traces : Traces perform (fun before after => after = before) program state moments rest final) :
    (∀ moment ∈ moments, rule moment) ∧
      rest.Ensures perform rule post (moments.reverse ++ earlier) final := by
  induction traces generalizing earlier with
  | refl =>
      constructor
      · intro moment member
        cases member
      · exact ensures
  | step changed answered further ih =>
      cases changed
      obtain ⟨obeyed, remaining⟩ := ensures _ _ _ answered
      obtain ⟨later, ended⟩ := ih remaining
      constructor
      · intro moment member
        rcases List.mem_cons.mp member with rfl | after
        · exact obeyed
        · exact later moment after
      · simpa using ended

theorem Ensures.and {post further : List (Moment Call Reply State) → α → State → Prop}
    {program : Program Call Reply α} (first : program.Ensures perform rule post earlier state)
    (second : program.Ensures perform weaker further earlier state) :
    program.Ensures perform (fun moment => rule moment ∧ weaker moment)
      (fun moments result final => post moments result final ∧ further moments result final) earlier state := by
  induction program generalizing earlier state with
  | done result => exact ⟨first, second⟩
  | call request next ih =>
      intro choice reply after answered
      obtain ⟨obeyed, rest⟩ := first choice reply after answered
      obtain ⟨also, remaining⟩ := second choice reply after answered
      exact ⟨⟨obeyed, also⟩, ih reply rest remaining⟩

/-- A trace that goes on has a next call, and one that is over a result. -/
theorem Ensures.reached {post : List (Moment Call Reply State) → α → State → Prop}
    {program : Program Call Reply α} (ensures : program.Ensures perform rule post earlier state)
    (part : State → Prop)
    (answers : ∀ call state, ∃ choice reply after, perform call choice state = some (reply, after))
    (observed : ∀ moment, rule moment → part moment.state)
    (ended : ∀ moments result final, post moments result final → part final) : part state := by
  cases program with
  | done result => exact ended earlier result state ensures
  | call request next =>
      obtain ⟨choice, reply, after, answered⟩ := answers request state
      exact observed _ (ensures choice reply after answered).1

/-! ## Programs that nothing goes wrong for -/

/-- The result and the state when every call is answered as it should be. -/
def follow (respond : (call : Call) → State → Reply call × State) : Program Call Reply α → State → α × State
  | .done result, state => (result, state)
  | .call request next, state => follow respond (next (respond request state).1) (respond request state).2

theorem follow_call (respond : (call : Call) → State → Reply call × State) (request : Call)
    (second : Reply request → Program Call Reply β) (state : State) :
    follow respond (Program.perform request >>= second) state =
      follow respond (second (respond request state).1) (respond request state).2 := rfl

theorem follow_bind (respond : (call : Call) → State → Reply call × State) (first : Program Call Reply α)
    (second : α → Program Call Reply β) (state : State) :
    follow respond (first >>= second) state =
      follow respond (second (follow respond first state).1) (follow respond first state).2 := by
  induction first generalizing state with
  | done result => rfl
  | call request next ih => exact ih _ _

/-- The result and the state under choices that are made in advance. -/
def run (perform : (call : Call) → Choice → State → Option (Reply call × State)) :
    List Choice → Program Call Reply α → State → Option (α × State)
  | _, .done result, state => some (result, state)
  | [], .call _ _, _ => none
  | choice :: rest, .call request next, state =>
      match perform request choice state with
      | none => none
      | some (reply, after) => run perform rest (next reply) after

theorem Ensures.run {post : List (Moment Call Reply State) → α → State → Prop}
    {program : Program Call Reply α} {choices : List Choice} {result : α} {final : State}
    (ensures : program.Ensures perform rule post earlier state)
    (ran : program.run perform choices state = some (result, final)) : ∃ moments, post moments result final := by
  induction program generalizing earlier state choices with
  | done value =>
      cases choices <;> cases ran <;> exact ⟨earlier, ensures⟩
  | call request next ih =>
      cases choices with
      | nil => cases ran
      | cons choice rest =>
          rw [Program.run] at ran
          split at ran
          · cases ran
          · next reply after answered => exact ih reply (ensures choice reply after answered).2 ran

/-! ## Programs that can end well -/

/-- The calls can be answered so that the program returns and `post` holds. -/
def Allows (perform : (call : Call) → Choice → State → Option (Reply call × State)) (post : α → State → Prop) :
    Program Call Reply α → State → Prop
  | .done result, state => post result state
  | .call request next, state => ∃ choice reply after,
      perform request choice state = some (reply, after) ∧ Allows perform post (next reply) after

theorem Allows.bind {middle : α → State → Prop} {post : β → State → Prop} {first : Program Call Reply α}
    {second : α → Program Call Reply β} (former : first.Allows perform middle state)
    (latter : ∀ result between, middle result between → (second result).Allows perform post between) :
    (first >>= second).Allows perform post state := by
  induction first generalizing state with
  | done result => exact latter result state former
  | call request next ih =>
      obtain ⟨choice, reply, after, answered, rest⟩ := former
      exact ⟨choice, reply, after, answered, ih reply rest⟩

theorem Allows.mono {post further : α → State → Prop} {program : Program Call Reply α}
    (allows : program.Allows perform post state) (implies : ∀ result final, post result final → further result final) :
    program.Allows perform further state := by
  induction program generalizing state with
  | done result => exact implies result state allows
  | call request next ih =>
      obtain ⟨choice, reply, after, answered, rest⟩ := allows
      exact ⟨choice, reply, after, answered, ih reply rest⟩

/-- What is left to show after a call that comes first. -/
theorem Allows.call {post : β → State → Prop} {request : Call} {second : Reply request → Program Call Reply β}
    (choice : Choice) {reply : Reply request} {after : State}
    (answered : perform request choice state = some (reply, after)) (rest : (second reply).Allows perform post after) :
    (Program.perform request >>= second).Allows perform post state :=
  ⟨choice, reply, after, answered, rest⟩

/-- What is ensured holds of what is allowed. -/
theorem Allows.ensured {post : α → State → Prop} {good : List (Moment Call Reply State) → α → State → Prop}
    {program : Program Call Reply α} (allows : program.Allows perform post state)
    (ensures : program.Ensures perform rule good earlier state) :
    program.Allows perform (fun result final => post result final ∧ ∃ moments, good moments result final) state := by
  induction program generalizing earlier state with
  | done result => exact ⟨allows, earlier, ensures⟩
  | call request next ih =>
      obtain ⟨choice, reply, after, answered, rest⟩ := allows
      exact ⟨choice, reply, after, answered, ih reply rest (ensures choice reply after answered).2⟩

theorem Allows.run {post : α → State → Prop} {program : Program Call Reply α}
    (allows : program.Allows perform post state) :
    ∃ choices result final, program.run perform choices state = some (result, final) ∧ post result final := by
  induction program generalizing state with
  | done result => exact ⟨[], result, state, rfl, allows⟩
  | call request next ih =>
      obtain ⟨choice, reply, after, answered, rest⟩ := allows
      obtain ⟨choices, result, final, ran, met⟩ := ih reply rest
      refine ⟨choice :: choices, result, final, ?_, met⟩
      rw [Program.run, answered]
      exact ran

theorem run_allows {post : α → State → Prop} {program : Program Call Reply α} {choices : List Choice} {result : α}
    {final : State} (ran : program.run perform choices state = some (result, final)) (met : post result final) :
    program.Allows perform post state := by
  induction program generalizing state choices with
  | done value =>
      cases choices <;> cases ran <;> exact met
  | call request next ih =>
      cases choices with
      | nil => cases ran
      | cons choice rest =>
          rw [Program.run] at ran
          split at ran
          · cases ran
          · next reply after answered => exact ⟨choice, reply, after, answered, ih reply ran⟩

/-! ## Programs with few calls -/

/-- Whatever it is answered, the program makes no other calls than these. -/
def Only (allowed : Call → Prop) : Program Call Reply α → Prop
  | .done _ => True
  | .call request next => allowed request ∧ ∀ reply, Only allowed (next reply)

theorem Only.bind {allowed : Call → Prop} {first : Program Call Reply α} {second : α → Program Call Reply β}
    (former : first.Only allowed) (latter : ∀ result, (second result).Only allowed) :
    (first >>= second).Only allowed := by
  induction first with
  | done result => exact latter result
  | call request next ih => exact ⟨former.1, fun reply => ih reply (former.2 reply)⟩

theorem Only.mono {allowed also : Call → Prop} {program : Program Call Reply α}
    (only : program.Only allowed) (implies : ∀ call, allowed call → also call) : program.Only also := by
  induction program with
  | done result => trivial
  | call request next ih => exact ⟨implies _ only.1, fun reply => ih reply (only.2 reply)⟩

/-- A rule is kept by a program that only makes calls about which it says nothing. -/
theorem Only.audited {allowed : Call → Prop} {fits : Event Call Reply → Prop}
    {rule : List (Event Call Reply) → Event Call Reply → Prop} {closing : List (Event Call Reply) → α → Prop}
    {program : Program Call Reply α} {earlier : List (Event Call Reply)} (only : program.Only allowed)
    (obeys : ∀ earlier call reply, allowed call → rule earlier ⟨call, reply⟩)
    (closes : ∀ events result, closing events result) : program.Audited fits rule closing earlier := by
  induction program generalizing earlier with
  | done result => exact closes earlier result
  | call request next ih => exact fun reply _ => ⟨obeys _ _ _ only.1, ih reply (only.2 reply)⟩

/-- A program leaves alone what none of its calls changes. -/
theorem Only.ensures {Part : Type} {part : State → Part} {allowed : Call → Prop}
    {program : Program Call Reply α} (only : program.Only allowed)
    (frame : ∀ call choice state reply after, allowed call →
      perform call choice state = some (reply, after) → part after = part state)
    (obeys : ∀ moment, allowed moment.event.call → part moment.state = part state → rule moment) :
    program.Ensures perform rule (fun _ _ final => part final = part state) earlier state := by
  have walk : ∀ (program : Program Call Reply α) (earlier : List (Moment Call Reply State)) (between : State),
      program.Only allowed → part between = part state →
      program.Ensures perform rule (fun _ _ final => part final = part state) earlier between := by
    intro program
    induction program with
    | done result => exact fun _ _ _ same => same
    | call request next ih =>
        intro earlier between only same choice reply after answered
        constructor
        · exact obeys _ only.1 same
        · exact ih reply _ after (only.2 reply) ((frame _ _ _ _ _ only.1 answered).trans same)
  exact walk program earlier state only rfl

/-- What each of the calls of a program does to the state, all of them do. -/
theorem Only.relates {allowed : Call → Prop} {relation : State → State → Prop} {program : Program Call Reply α}
    (only : program.Only allowed)
    (refl : ∀ state, relation state state)
    (trans : ∀ first second third, relation first second → relation second third → relation first third)
    (step : ∀ call choice state reply after, allowed call → perform call choice state = some (reply, after) →
      relation state after) :
    program.Ensures perform (fun _ => True) (fun _ _ final => relation state final) earlier state := by
  induction program generalizing earlier state with
  | done result => exact refl state
  | call request next ih =>
      intro choice reply after answered
      have first := step _ _ _ _ _ only.1 answered
      exact ⟨trivial, (ih reply (only.2 reply)).mono (fun _ _ => trivial)
        fun _ _ final rest => trans _ _ _ first rest⟩

end NodeAtlas.Interleaving.Program
