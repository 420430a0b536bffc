import Mathlib.Data.List.TakeWhile
import NodeAtlas.Runtime

/-! The two copy loops of a raw VNC session: what reaches the browser and what
reaches the machine, whatever the reads and the writes do. -/

set_option autoImplicit false

namespace NodeAtlas.Console

/-- Which side a loop has ended because of, or that it got a text message. -/
inductive Ending where
  | source
  | destination
  | rejected
  deriving DecidableEq

/-- The rounds that a loop goes through: up to the first that ends it. -/
def executed {Round : Type} (ending : Round → Option Ending) : List Round → List Round
  | [] => []
  | round :: rest => if ending round = none then round :: executed ending rest else [round]

/-- How the last of these rounds ends the loop, if it does. -/
def endingOf {Round : Type} (ending : Round → Option Ending) (rounds : List Round) : Option Ending :=
  (executed ending rounds).getLast?.bind ending

theorem endingOf_cons {Round : Type} (ending : Round → Option Ending) (round : Round) (rest : List Round) :
    endingOf ending (round :: rest) = if ending round = none then endingOf ending rest else ending round := by
  have step : executed ending (round :: rest) =
      if ending round = none then round :: executed ending rest else [round] := rfl
  rw [endingOf, step, endingOf]
  split
  · next running =>
    cases later : executed ending rest with
    | nil => simpa using running
    | cons next others => rw [List.getLast?_cons_cons]
  · rfl

/-- A loop that goes through its rounds step by step, up to the first that ends it. -/
structure CopyLoop {State Round : Type} (ended : State → Option Ending) (step : State → Round → State)
    (loop : State → List Round → State) : Prop where
  nil : ∀ state, loop state [] = state
  cons : ∀ state round rest, loop state (round :: rest) =
    if ended (step state round) = none then loop (step state round) rest else step state round

section Loops

variable {State Round Item : Type} {ended : State → Option Ending} {step : State → Round → State}
  {loop : State → List Round → State} {ending : Round → Option Ending}

theorem CopyLoop.stops (loops : CopyLoop ended step loop) (ends : ∀ state round, ended (step state round) = ending round)
    {state : State} (running : ended state = none) (rounds : List Round) :
    ended (loop state rounds) = endingOf ending rounds := by
  induction rounds generalizing state with
  | nil =>
      rw [loops.nil]
      exact running
  | cons round rest ih =>
      rw [loops.cons, endingOf_cons, ← ends state round]
      split
      · next still => exact ih still
      · rfl

/-- What every round adds to has in the end what its rounds add, the last of them
included. -/
theorem CopyLoop.gathered (loops : CopyLoop ended step loop) (ends : ∀ state round, ended (step state round) = ending round)
    {held : State → List Item} {items : Round → List Item}
    (adds : ∀ state round, held (step state round) = held state ++ items round) (state : State) (rounds : List Round) :
    held (loop state rounds) = held state ++ (executed ending rounds).flatMap items := by
  induction rounds generalizing state with
  | nil =>
      rw [loops.nil]
      exact (List.append_nil _).symm
  | cons round rest ih =>
      rw [loops.cons, ends]
      unfold executed
      split
      · rw [ih, adds, List.flatMap_cons, List.append_assoc]
      · rw [adds, List.flatMap_singleton]

/-- What a round leaves, and keeps while the loop goes on, the loop leaves. -/
theorem CopyLoop.keeps (loops : CopyLoop ended step loop) {level good : State → Prop}
    (rests : ∀ state, level state → good state)
    (steps : ∀ state round, level state →
      good (step state round) ∧ (ended (step state round) = none → level (step state round)))
    {state : State} (here : level state) (rounds : List Round) : good (loop state rounds) := by
  induction rounds generalizing state with
  | nil =>
      rw [loops.nil]
      exact rests state here
  | cons round rest ih =>
      obtain ⟨left, kept⟩ := steps state round here
      rw [loops.cons]
      split
      · next running => exact ih (kept running)
      · exact left

end Loops

/-! ## From the machine to the browser -/

/-- What one round of the loop meets: whether the deadline can be set, what
`Read` leaves in the buffer (the bytes that it counts, and what lies behind
them), whether an error comes with them, and of a write that fails how many
bytes had gone out. -/
structure TCPRound where
  refused : Bool
  chunk : GoString
  scratch : GoString
  fits : chunk.length + scratch.length = 32 * 1024
  failed : Bool
  torn : Option Nat

/-- What a loop has read and written; `ending` is `none` while it runs. -/
structure Transfer where
  read : GoString
  written : GoString
  ending : Option Ending
  deriving DecidableEq

/-- The end of a round. -/
def Transfer.next (transfer : Transfer) (failed : Bool) : Transfer :=
  { transfer with ending := if failed then some .source else none }

def copyTCPRound (transfer : Transfer) (round : TCPRound) : Transfer :=
  if round.refused then { transfer with ending := some .source }
  else
    let buffer := round.chunk ++ round.scratch
    let count := round.chunk.length
    let received := { transfer with read := transfer.read ++ round.chunk }
    if 0 < count then
      match round.torn with
      | some sent =>
          { received with written := received.written ++ (buffer.take count).take sent, ending := some .destination }
      | none => Transfer.next { received with written := received.written ++ buffer.take count } round.failed
    else received.next round.failed

def copyTCPToWebSocket (transfer : Transfer) : List TCPRound → Transfer
  | [] => transfer
  | round :: rest =>
      let next := copyTCPRound transfer round
      if next.ending = none then copyTCPToWebSocket next rest else next

/-- What `Read` gives in a round; nothing if the deadline cannot be set. -/
def TCPRound.bytes (round : TCPRound) : GoString := if round.refused then [] else round.chunk

/-- Why a round is the last, if it is: a write can fail only if something was read. -/
def TCPRound.ending (round : TCPRound) : Option Ending :=
  if round.refused then some .source
  else if round.chunk ≠ [] ∧ round.torn.isSome then some .destination
  else if round.failed then some .source else none

theorem copyTCPRound_spec (transfer : Transfer) (round : TCPRound) :
    (copyTCPRound transfer round).read = transfer.read ++ round.bytes ∧
      (copyTCPRound transfer round).ending = round.ending := by
  unfold copyTCPRound TCPRound.bytes TCPRound.ending
  split
  · exact ⟨(List.append_nil _).symm, rfl⟩
  · dsimp only
    split
    · next some_ =>
      have filled : round.chunk ≠ [] := List.ne_nil_of_length_pos some_
      split
      · next sent torn => simp [filled, torn]
      · next torn => simp [torn, Transfer.next]
    · next empty =>
      have nothing : round.chunk = [] := List.eq_nil_of_length_eq_zero (by omega)
      simp [nothing, Transfer.next]

theorem copyTCPToWebSocket_loop : CopyLoop Transfer.ending copyTCPRound copyTCPToWebSocket :=
  ⟨fun _ => rfl, fun _ _ _ => rfl⟩

/-- All that was read in the rounds of the loop, the last of them included. -/
theorem copyTCPToWebSocket_read (transfer : Transfer) (rounds : List TCPRound) :
    (copyTCPToWebSocket transfer rounds).read =
      transfer.read ++ ((executed TCPRound.ending rounds).map TCPRound.bytes).flatten :=
  copyTCPToWebSocket_loop.gathered (fun transfer round => (copyTCPRound_spec transfer round).2)
    (fun transfer round => (copyTCPRound_spec transfer round).1) transfer rounds

theorem copyTCPToWebSocket_ending {transfer : Transfer} (running : transfer.ending = none) (rounds : List TCPRound) :
    (copyTCPToWebSocket transfer rounds).ending = endingOf TCPRound.ending rounds :=
  copyTCPToWebSocket_loop.stops (fun transfer round => (copyTCPRound_spec transfer round).2) running rounds

/-- What is read is written, in its order, and all of it unless a write fails. -/
structure Transfer.Faithful (transfer : Transfer) : Prop where
  ordered : transfer.written <+: transfer.read
  whole : transfer.ending ≠ some .destination → transfer.written = transfer.read

theorem Transfer.Faithful.level {transfer : Transfer} (level : transfer.written = transfer.read) :
    transfer.Faithful :=
  ⟨level ▸ List.prefix_rfl, fun _ => level⟩

theorem copyTCPRound_faithful {transfer : Transfer} (level : transfer.written = transfer.read) (round : TCPRound) :
    (copyTCPRound transfer round).Faithful := by
  have counted : (round.chunk ++ round.scratch).take round.chunk.length = round.chunk := List.take_left
  unfold copyTCPRound
  simp only [counted]
  split
  · exact .level level
  · split
    · split
      · refine ⟨?_, fun still => absurd rfl still⟩
        rw [level]
        exact (List.prefix_append_right_inj _).mpr (List.take_prefix _ _)
      · exact .level (congrArg (· ++ round.chunk) level)
    · next empty =>
      have nothing : round.chunk = [] := List.eq_nil_of_length_eq_zero (by omega)
      refine .level ?_
      show transfer.written = transfer.read ++ round.chunk
      rw [nothing, List.append_nil, level]

theorem copyTCPToWebSocket_faithful {transfer : Transfer} (level : transfer.written = transfer.read)
    (rounds : List TCPRound) : (copyTCPToWebSocket transfer rounds).Faithful := by
  refine copyTCPToWebSocket_loop.keeps (fun _ => .level) ?_ level rounds
  intro transfer round level
  have faithful := copyTCPRound_faithful level round
  exact ⟨faithful, fun running => faithful.whole (by simp [running])⟩

/-! ## From the browser to the machine -/

inductive MessageType where
  | text
  | binary
  deriving DecidableEq

/-- What one round meets: what `Read` returns (`none` is an error), whether the
deadline can be set, and the count and the error of the write. -/
structure WebSocketRound where
  message : Option (MessageType × GoString)
  refused : Bool
  count : Nat
  failed : Bool

structure Delivery where
  received : List (MessageType × GoString)
  written : GoString
  ending : Option Ending
  deriving DecidableEq

/-- `io.Copy` from a `bytes.Reader`: nothing for no bytes, else one write, whose
short count is an error as well. What went out, and whether all did. -/
def writeTo (data : GoString) (count : Nat) (failed : Bool) : GoString × Bool :=
  if data = [] then ([], true)
  else (data.take count, !failed && decide ((data.take count).length = data.length))

def copyWebSocketRound (delivery : Delivery) (round : WebSocketRound) : Delivery :=
  match round.message with
  | none => { delivery with ending := some .source }
  | some (type, data) =>
      let received := { delivery with received := delivery.received ++ [(type, data)] }
      if type ≠ .binary then { received with ending := some .rejected }
      else if round.refused then { received with ending := some .destination }
      else
        let (sent, whole) := writeTo data round.count round.failed
        { received with
          written := delivery.written ++ sent, ending := if whole then none else some .destination }

def copyWebSocketToTCP (delivery : Delivery) : List WebSocketRound → Delivery
  | [] => delivery
  | round :: rest =>
      let next := copyWebSocketRound delivery round
      if next.ending = none then copyWebSocketToTCP next rest else next

/-- Why a round is the last, if it is. -/
def WebSocketRound.ending (round : WebSocketRound) : Option Ending :=
  match round.message with
  | none => some .source
  | some (type, data) =>
      if type ≠ .binary then some .rejected
      else if round.refused then some .destination
      else if (writeTo data round.count round.failed).2 then none else some .destination

theorem copyWebSocketRound_spec (delivery : Delivery) (round : WebSocketRound) :
    (copyWebSocketRound delivery round).received = delivery.received ++ round.message.toList ∧
      (copyWebSocketRound delivery round).ending = round.ending := by
  unfold copyWebSocketRound WebSocketRound.ending
  split
  · next none_ =>
    rw [none_]
    exact ⟨(List.append_nil _).symm, rfl⟩
  · next type data some_ =>
    rw [some_]
    dsimp only
    split
    · exact ⟨rfl, rfl⟩
    · split <;> exact ⟨rfl, rfl⟩

theorem copyWebSocketToTCP_loop : CopyLoop Delivery.ending copyWebSocketRound copyWebSocketToTCP :=
  ⟨fun _ => rfl, fun _ _ _ => rfl⟩

/-- The messages of the rounds of the loop, the last of them included. -/
theorem copyWebSocketToTCP_received (delivery : Delivery) (rounds : List WebSocketRound) :
    (copyWebSocketToTCP delivery rounds).received =
      delivery.received ++ (executed WebSocketRound.ending rounds).filterMap WebSocketRound.message := by
  rw [List.filterMap_eq_flatMap_toList]
  exact copyWebSocketToTCP_loop.gathered (fun delivery round => (copyWebSocketRound_spec delivery round).2)
    (fun delivery round => (copyWebSocketRound_spec delivery round).1) delivery rounds

theorem copyWebSocketToTCP_ending {delivery : Delivery} (running : delivery.ending = none)
    (rounds : List WebSocketRound) :
    (copyWebSocketToTCP delivery rounds).ending = endingOf WebSocketRound.ending rounds :=
  copyWebSocketToTCP_loop.stops (fun delivery round => (copyWebSocketRound_spec delivery round).2) running rounds

/-- The binary messages before the first that is not one. -/
def binaries (messages : List (MessageType × GoString)) : List GoString :=
  (messages.takeWhile fun message => message.1 = .binary).map Prod.snd

/-- Only binary messages have come, and all of them are written. -/
structure Delivery.Level (delivery : Delivery) : Prop where
  all : ∀ message ∈ delivery.received, message.1 = .binary
  written : delivery.written = (delivery.received.map Prod.snd).flatten

/-- Whole messages are written in their order, and of at most one more a part;
all that came unless a write fails, up to a text message if one came. -/
structure Delivery.Faithful (delivery : Delivery) : Prop where
  ordered : ∃ whole last part, binaries delivery.received = whole ++ last ∧ last.length ≤ 1 ∧
    delivery.written = whole.flatten ++ part ∧ part <+: last.flatten
  whole : delivery.ending ≠ some .destination → delivery.written = (binaries delivery.received).flatten
  binary : delivery.ending ≠ some .rejected → ∀ message ∈ delivery.received, message.1 = .binary

private theorem writeTo_begins (data : GoString) (count : Nat) (failed : Bool) :
    (writeTo data count failed).1 <+: data := by
  unfold writeTo
  split
  · exact List.nil_prefix
  · exact List.take_prefix _ _

private theorem writeTo_whole {data : GoString} {count : Nat} {failed : Bool}
    (done : (writeTo data count failed).2 = true) : (writeTo data count failed).1 = data := by
  refine (writeTo_begins data count failed).eq_of_length ?_
  unfold writeTo at done ⊢
  by_cases empty : data = []
  · rw [if_pos empty, empty]
  · rw [if_neg empty] at done ⊢
    exact of_decide_eq_true (Bool.and_eq_true_iff.mp done).2

private theorem binaries_all {messages : List (MessageType × GoString)}
    (all : ∀ message ∈ messages, message.1 = .binary) : binaries messages = messages.map Prod.snd := by
  unfold binaries
  rw [List.takeWhile_eq_self_iff.mpr (by simpa using all)]

private theorem binaries_text {messages : List (MessageType × GoString)} {type : MessageType} {data : GoString}
    (all : ∀ message ∈ messages, message.1 = .binary) (other : type ≠ .binary) :
    binaries (messages ++ [(type, data)]) = messages.map Prod.snd := by
  unfold binaries
  rw [List.takeWhile_append_of_pos (by simpa using all)]
  simp [other]

theorem Delivery.Level.faithful {delivery : Delivery} (level : delivery.Level) : delivery.Faithful := by
  have messages := binaries_all level.all
  refine ⟨⟨_, [], [], messages.trans (List.append_nil _).symm, by simp, ?_, List.nil_prefix⟩, fun _ => ?_,
    fun _ => level.all⟩
  · rw [level.written, List.append_nil]
  · rw [level.written, messages]

theorem Delivery.Faithful.level {delivery : Delivery} (faithful : delivery.Faithful)
    (running : delivery.ending = none) : delivery.Level := by
  have all := faithful.binary (by simp [running])
  refine ⟨all, ?_⟩
  rw [faithful.whole (by simp [running]), binaries_all all]

theorem copyWebSocketRound_faithful {delivery : Delivery} (level : delivery.Level) (round : WebSocketRound) :
    (copyWebSocketRound delivery round).Faithful := by
  unfold copyWebSocketRound
  split
  · exact Delivery.Level.faithful ⟨level.all, level.written⟩
  · next type data _ =>
    dsimp only
    split
    · next other =>
      have messages : binaries (delivery.received ++ [(type, data)]) = delivery.received.map Prod.snd :=
        binaries_text level.all other
      refine ⟨⟨_, [], [], messages.trans (List.append_nil _).symm, by simp, ?_, List.nil_prefix⟩, fun _ => ?_,
        fun still => absurd rfl still⟩
      · rw [level.written, List.append_nil]
      · rw [messages, level.written]
    · next binary =>
      have more : ∀ message ∈ delivery.received ++ [(type, data)], message.1 = .binary := by
        intro message member
        rcases List.mem_append.mp member with earlier | last
        · exact level.all message earlier
        · rw [List.mem_singleton.mp last]
          exact Decidable.not_not.mp binary
      have messages : binaries (delivery.received ++ [(type, data)]) = delivery.received.map Prod.snd ++ [data] := by
        rw [binaries_all more, List.map_append, List.map_singleton]
      split
      · refine ⟨⟨_, [data], [], messages, by simp, ?_, List.nil_prefix⟩, fun still => absurd rfl still, fun _ => more⟩
        rw [level.written, List.append_nil]
      · refine ⟨⟨_, [data], _, messages, by simp, congrArg (· ++ _) level.written, ?_⟩, ?_, fun _ => more⟩
        · simpa using writeTo_begins data round.count round.failed
        · intro running
          have done : (writeTo data round.count round.failed).2 = true := by
            by_contra cut
            simp [cut] at running
          show delivery.written ++ (writeTo data round.count round.failed).1 = _
          rw [writeTo_whole done, messages, level.written, List.flatten_append]
          simp

theorem copyWebSocketToTCP_faithful {delivery : Delivery} (level : delivery.Level) (rounds : List WebSocketRound) :
    (copyWebSocketToTCP delivery rounds).Faithful := by
  refine copyWebSocketToTCP_loop.keeps (fun delivery (level : delivery.Level) => level.faithful) ?_ level rounds
  intro delivery round level
  have faithful := copyWebSocketRound_faithful level round
  exact ⟨faithful, faithful.level⟩

/-! ## Both -/

def transferred (rounds : List TCPRound) : Transfer := copyTCPToWebSocket ⟨[], [], none⟩ rounds

def delivered (rounds : List WebSocketRound) : Delivery := copyWebSocketToTCP ⟨[], [], none⟩ rounds

/-- Both loops, whatever their rounds meet. What one has read is what came in its
rounds, the last of them included; `browser` and `machine` say what it has written
of that. -/
structure FaithfulBridge (upstream : List TCPRound) (downstream : List WebSocketRound) : Prop where
  read : (transferred upstream).read = ((executed TCPRound.ending upstream).map TCPRound.bytes).flatten
  readEnding : (transferred upstream).ending = endingOf TCPRound.ending upstream
  browser : (transferred upstream).Faithful
  received : (delivered downstream).received =
    (executed WebSocketRound.ending downstream).filterMap WebSocketRound.message
  receivedEnding : (delivered downstream).ending = endingOf WebSocketRound.ending downstream
  machine : (delivered downstream).Faithful

theorem runRawVNC_faithful (upstream : List TCPRound) (downstream : List WebSocketRound) :
    FaithfulBridge upstream downstream where
  read := copyTCPToWebSocket_read _ upstream
  readEnding := copyTCPToWebSocket_ending rfl upstream
  browser := copyTCPToWebSocket_faithful rfl upstream
  received := copyWebSocketToTCP_received _ downstream
  receivedEnding := copyWebSocketToTCP_ending rfl downstream
  machine := by
    refine copyWebSocketToTCP_faithful ⟨?_, rfl⟩ downstream
    intro message none_
    cases none_

end NodeAtlas.Console
