import Mathlib.Data.List.Basic

/-! Sequential client code over an interface of atomic calls. A program is the
tree of its calls: what one reply means for the rest is in the branch taken. -/

set_option autoImplicit false

namespace NodeAtlas.Interleaving

/-- Code whose only effects are calls of one interface. Between two calls it
computes without being observed, so it can only be interrupted at a call. -/
inductive Program (Call : Type) (Reply : Call → Type) (α : Type) where
  | done (result : α)
  | call (request : Call) (next : Reply request → Program Call Reply α)

/-- One call together with the reply it was given. -/
structure Event (Call : Type) (Reply : Call → Type) where
  call : Call
  reply : Reply call

variable {Call : Type} {Reply : Call → Type} {α β γ : Type}

namespace Program

def bind : Program Call Reply α → (α → Program Call Reply β) → Program Call Reply β
  | .done result, continuation => continuation result
  | .call request next, continuation =>
      .call request fun reply => (next reply).bind continuation

instance : Monad (Program Call Reply) where
  pure := .done
  bind := bind

/-- The program that makes one call and returns its reply. -/
def perform (request : Call) : Program Call Reply (Reply request) :=
  .call request .done

@[simp] theorem pure_eq (result : α) :
    (pure result : Program Call Reply α) = .done result := rfl

@[simp] theorem done_bind (result : α) (continuation : α → Program Call Reply β) :
    (Program.done result >>= continuation) = continuation result := rfl

@[simp] theorem call_bind (request : Call)
    (next : Reply request → Program Call Reply α)
    (continuation : α → Program Call Reply β) :
    (Program.call request next >>= continuation) =
      .call request fun reply => next reply >>= continuation := rfl

@[simp] theorem perform_bind (request : Call)
    (continuation : Reply request → Program Call Reply β) :
    (perform request >>= continuation) = .call request continuation := rfl

theorem bind_done (program : Program Call Reply α) :
    (program >>= Program.done) = program := by
  induction program with
  | done result => rfl
  | call request next ih => simp only [call_bind, ih]

theorem bind_assoc (program : Program Call Reply α)
    (first : α → Program Call Reply β) (second : β → Program Call Reply γ) :
    (program >>= first >>= second) = program >>= fun result => first result >>= second := by
  induction program with
  | done result => rfl
  | call request next ih => simp only [call_bind, ih]

instance : LawfulMonad (Program Call Reply) :=
  LawfulMonad.mk' _ (fun program => bind_done program) (fun _ _ => rfl) bind_assoc

/-! ## Rules for the calls of one program -/

/-- Every call the program can still make obeys `rule`, which sees the events
the program had made before (latest first), and every result it can return
obeys `closing`. Only events that satisfy `fits` are considered. -/
def Audited (fits : Event Call Reply → Prop)
    (rule : List (Event Call Reply) → Event Call Reply → Prop)
    (closing : List (Event Call Reply) → α → Prop) :
    List (Event Call Reply) → Program Call Reply α → Prop
  | earlier, .done result => closing earlier result
  | earlier, .call request next =>
      ∀ reply, fits ⟨request, reply⟩ →
        rule earlier ⟨request, reply⟩ ∧
          Audited fits rule closing (⟨request, reply⟩ :: earlier) (next reply)

variable {fits : Event Call Reply → Prop}
  {rule : List (Event Call Reply) → Event Call Reply → Prop}
  {closing : List (Event Call Reply) → α → Prop}
  {earlier : List (Event Call Reply)}

@[simp] theorem audited_done (result : α) :
    (Program.done result).Audited fits rule closing earlier ↔ closing earlier result :=
  Iff.rfl

@[simp] theorem audited_call (request : Call)
    (next : Reply request → Program Call Reply α) :
    (Program.call request next).Audited fits rule closing earlier ↔
      ∀ reply, fits ⟨request, reply⟩ →
        rule earlier ⟨request, reply⟩ ∧
          (next reply).Audited fits rule closing (⟨request, reply⟩ :: earlier) :=
  Iff.rfl

/-- Programs are audited piece by piece: what the first piece establishes
about its own events is what the second may assume. -/
theorem Audited.bind {middle : List (Event Call Reply) → α → Prop}
    {final : List (Event Call Reply) → β → Prop}
    {program : Program Call Reply α} {continuation : α → Program Call Reply β}
    (first : program.Audited fits rule middle earlier)
    (second : ∀ events result, middle events result →
      (continuation result).Audited fits rule final events) :
    (program >>= continuation).Audited fits rule final earlier := by
  induction program generalizing earlier with
  | done result => exact second earlier result first
  | call request next ih =>
      intro reply fit
      obtain ⟨obeyed, rest⟩ := first reply fit
      exact ⟨obeyed, ih reply rest⟩

theorem Audited.mono {weaker : List (Event Call Reply) → α → Prop}
    {program : Program Call Reply α}
    (audited : program.Audited fits rule closing earlier)
    (implies : ∀ events result, closing events result → weaker events result) :
    program.Audited fits rule weaker earlier := by
  induction program generalizing earlier with
  | done result => exact implies earlier result audited
  | call request next ih =>
      intro reply fit
      obtain ⟨obeyed, rest⟩ := audited reply fit
      exact ⟨obeyed, ih reply rest⟩

/-- What was seen before a program is still seen after it. -/
theorem Audited.remembers {program : Program Call Reply α}
    (audited : program.Audited fits rule closing earlier) :
    program.Audited fits rule (fun events result => earlier ⊆ events ∧ closing events result) earlier := by
  induction program generalizing earlier with
  | done result => exact ⟨List.Subset.refl _, audited⟩
  | call request next ih =>
      intro reply fit
      obtain ⟨obeyed, rest⟩ := audited reply fit
      refine ⟨obeyed, (ih reply rest).mono ?_⟩
      intro events result ⟨seen, closes⟩
      exact ⟨fun event member => seen (List.mem_cons_of_mem _ member), closes⟩

/-- Nothing is asked of a program that may do anything. -/
theorem Audited.free (program : Program Call Reply α) (allowed : ∀ earlier event, rule earlier event)
    (closes : ∀ events result, closing events result) : program.Audited fits rule closing earlier := by
  induction program generalizing earlier with
  | done result => exact closes earlier result
  | call request next ih => exact fun reply _ => ⟨allowed _ _, ih reply⟩

/-- A program that may make no further call has returned. -/
theorem Audited.ceased {program : Program Call Reply α}
    (audited : program.Audited fits rule closing earlier)
    (answered : ∀ call, ∃ reply, fits ⟨call, reply⟩)
    (forbidden : ∀ event, ¬ rule earlier event) :
    ∃ result, program = .done result ∧ closing earlier result := by
  cases program with
  | done result => exact ⟨result, rfl, audited⟩
  | call request next =>
      obtain ⟨reply, fit⟩ := answered request
      exact absurd (audited reply fit).1 (forbidden _)

end Program

end NodeAtlas.Interleaving
