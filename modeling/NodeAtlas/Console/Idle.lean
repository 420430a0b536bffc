import Mathlib.Data.List.Basic

/-! When a console session closes because nothing happens in it. -/

set_option autoImplicit false

namespace NodeAtlas.Console.Idle

/-- A message that one side sends: when it is there to be read, and how long
its write to the other side takes. -/
structure Message where
  arrives : Nat
  writing : Nat
  deriving DecidableEq

section Loops

variable (idle : Nat)

/-- A copy loop that waits since a moment: when one of its deadlines passes. The
read has one from the moment that the loop waits, the write its own from the
moment that the message is read; no other failure ends the loop, and after the
last message there is nothing to read. -/
def copyLoop (since : Nat) : List Message → Nat
  | [] => since + idle
  | message :: rest =>
      if since + idle ≤ message.arrives then since + idle
      else
        let taken := max since message.arrives
        if idle ≤ message.writing then taken + idle else copyLoop (taken + message.writing) rest

/-- The context of `Read`, and then that of `Write`, both of `IdleTimeout`. -/
def copyMessages (messages : List Message) : Nat := copyLoop idle 0 messages

/-- `SetReadDeadline`, and then the context of `Write`. -/
def copyTCPToWebSocket (messages : List Message) : Nat := copyLoop idle 0 messages

/-- The context of `Read`, and then `SetWriteDeadline`. -/
def copyWebSocketToTCP (messages : List Message) : Nat := copyLoop idle 0 messages

/-- When a session ends as idle: the first loop to end takes the other with it. -/
def proxy (upstream downstream : List Message) : Nat :=
  min (copyMessages idle upstream) (copyMessages idle downstream)

def runRawVNC (upstream downstream : List Message) : Nat :=
  min (copyTCPToWebSocket idle upstream) (copyWebSocketToTCP idle downstream)

end Loops

/-! ## Schedules -/

/-- When the messages of a direction have crossed, were there no deadlines. -/
def crossings (since : Nat) : List Message → List Nat
  | [] => []
  | message :: rest =>
      let crossed := max since message.arrives + message.writing
      crossed :: crossings crossed rest

/-- The same with the moments that they are read at. -/
def events (since : Nat) : List Message → List Nat
  | [] => []
  | message :: rest =>
      let taken := max since message.arrives
      taken :: (taken + message.writing) :: events (taken + message.writing) rest

/-- Something happens in every window of a length before a limit. -/
def Busy (idle limit : Nat) (moments : List Nat) : Prop :=
  ∀ start, start + idle < limit → ∃ moment ∈ moments, start < moment ∧ moment < start + idle

/-- The same from a moment on. -/
def BusySince (idle limit since : Nat) (moments : List Nat) : Prop :=
  ∀ start, since ≤ start → start + idle < limit → ∃ moment ∈ moments, start < moment ∧ moment < start + idle

private theorem events_since {since : Nat} {messages : List Message} {moment : Nat}
    (listed : moment ∈ events since messages) : since ≤ moment := by
  induction messages generalizing since with
  | nil => cases listed
  | cons message rest ih =>
      simp only [events, List.mem_cons] at listed
      rcases listed with rfl | rfl | later
      · exact Nat.le_max_left _ _
      · exact Nat.le_trans (Nat.le_max_left _ _) (Nat.le_add_right _ _)
      · exact Nat.le_trans (Nat.le_trans (Nat.le_max_left _ _) (Nat.le_add_right _ _)) (ih later)

private theorem busySince_late {idle limit since : Nat} (late : limit ≤ since + idle) (moments : List Nat) :
    BusySince idle limit since moments := by
  intro start from_ before
  omega

/-- A next moment, and what follows it. -/
private theorem busySince_cons {idle limit since next : Nat} {moments : List Nat} (later : since ≤ next)
    (ordered : ∀ moment ∈ moments, next ≤ moment) :
    BusySince idle limit since (next :: moments) ↔
      (limit ≤ since + idle ∨ next < since + idle) ∧ BusySince idle limit next moments := by
  constructor
  · intro busy
    constructor
    · by_contra apart
      obtain ⟨moment, listed, _, soon⟩ := busy since (Nat.le_refl _) (by omega)
      rcases List.mem_cons.mp listed with rfl | behind
      · omega
      · have := ordered moment behind
        omega
    · intro start from_ before
      obtain ⟨moment, listed, past, soon⟩ := busy start (by omega) before
      rcases List.mem_cons.mp listed with rfl | behind
      · omega
      · exact ⟨moment, behind, past, soon⟩
  · rintro ⟨first, busy⟩ start from_ before
    rcases Nat.lt_or_ge start next with ahead | reached
    · exact ⟨next, List.mem_cons_self, ahead, by omega⟩
    · obtain ⟨moment, listed, past, soon⟩ := busy start reached before
      exact ⟨moment, List.mem_cons_of_mem _ listed, past, soon⟩

/-- No deadline passes before the limit where something happens in every window. -/
theorem copyLoop_busy {idle limit since : Nat} {messages : List Message} :
    limit ≤ copyLoop idle since messages ↔ BusySince idle limit since (events since messages) := by
  induction messages generalizing since with
  | nil =>
      constructor
      · intro ended
        exact busySince_late ended _
      · intro never
        by_contra open_
        obtain ⟨moment, none_, _⟩ := never since (Nat.le_refl _) (by simpa [copyLoop] using open_)
        cases none_
  | cons message rest ih =>
      have taken : since ≤ max since message.arrives := Nat.le_max_left _ _
      rw [events, busySince_cons taken, busySince_cons (Nat.le_add_right _ _) fun _ => events_since, ← ih, copyLoop]
      · dsimp only
        split
        · constructor
          · intro ended
            refine ⟨.inl ended, .inl (by omega), ih.mpr (busySince_late (by omega) _)⟩
          · rintro ⟨first, _⟩
            omega
        · split
          · constructor
            · intro ended
              refine ⟨by omega, .inl ended, ih.mpr (busySince_late (by omega) _)⟩
            · rintro ⟨_, second, _⟩
              omega
          · constructor
            · intro ended
              refine ⟨by omega, by omega, ended⟩
            · rintro ⟨_, _, ended⟩
              exact ended
      · intro moment listed
        rcases List.mem_cons.mp listed with rfl | later
        · exact Nat.le_add_right _ _
        · exact Nat.le_trans (Nat.le_add_right _ _) (events_since later)

/-! ## Sessions -/

private theorem busy_since {idle limit : Nat} {moments : List Nat} :
    BusySince idle limit 0 moments ↔ Busy idle limit moments := by
  simp [BusySince, Busy]

/-- Neither proxy ends as idle before a limit exactly where each direction has
something happen in every window for itself. -/
theorem idle_each_direction (idle limit : Nat) (upstream downstream : List Message) :
    (limit ≤ proxy idle upstream downstream ∧ limit ≤ runRawVNC idle upstream downstream) ↔
      Busy idle limit (events 0 upstream) ∧ Busy idle limit (events 0 downstream) := by
  have each : ∀ {messages}, limit ≤ copyLoop idle 0 messages ↔ Busy idle limit (events 0 messages) := by
    intro messages
    rw [copyLoop_busy, busy_since]
  simp only [proxy, runRawVNC, copyMessages, copyTCPToWebSocket, copyWebSocketToTCP, Nat.le_min, each, and_self]

/-- A screen that is only watched: a message a minute, and none the other way. -/
theorem watched_session_closed :
    ¬∀ idle limit upstream downstream,
      Busy idle limit (crossings 0 upstream ++ crossings 0 downstream) →
        limit ≤ proxy idle upstream downstream ∧ limit ≤ runRawVNC idle upstream downstream := by
  intro every
  have busy : Busy 5 30 (crossings 0 ((List.range 30).map fun minute => ⟨minute, 0⟩) ++ crossings 0 []) := by
    intro start before
    have listed : ∀ start < 25, start + 1 ∈
        crossings 0 ((List.range 30).map fun minute => ⟨minute, 0⟩) ++ crossings 0 [] := by decide
    exact ⟨start + 1, listed start (by omega), by omega, by omega⟩
  exact absurd (every 5 30 _ _ busy).1 (by decide)

end NodeAtlas.Console.Idle
