import NodeAtlas.Decimal
import NodeAtlas.Events
import NodeAtlas.JSON

/-! The stream of events that a browser gets, and what it reads in it. -/

set_option autoImplicit false

namespace NodeAtlas

namespace JSON

/-- `json.Compact`, of a text that the scanner takes: spaces outside of strings
are left out. -/
def compactFrom : Scanner → GoString → GoString
  | _, [] => []
  | scanner, c :: rest =>
      match step scanner c with
      | none => []
      | some next =>
          if isSpace c = true ∧ scanner.step ≠ .inString then compactFrom next rest else c :: compactFrom next rest

def compact (data : GoString) : GoString := compactFrom ⟨.beginValue, []⟩ data

/-- A string of JSON has no control characters as they are. -/
theorem step_inString {stack : List Within} {c : UInt8} {next : Scanner}
    (stepped : step ⟨.inString, stack⟩ c = some next) : 0x20 ≤ c := by
  unfold step at stepped
  dsimp only at stepped
  split at stepped
  · next quote_ =>
    rw [quote_]
    decide
  · split at stepped
    · next escape_ =>
      rw [escape_]
      decide
    · split at stepped
      · cases stepped
      · next plain => exact UInt8.not_lt.mp plain

theorem compactFrom_unbroken (scanner : Scanner) (data : GoString) :
    ∀ c ∈ compactFrom scanner data, c ≠ 0x0D ∧ c ≠ 0x0A := by
  induction data generalizing scanner with
  | nil => nofun
  | cons first rest ih =>
      unfold compactFrom
      split
      · nofun
      · next next stepped =>
        split
        · exact ih next
        · next kept =>
          intro c member
          rcases List.mem_cons.mp member with rfl | later
          · by_cases inside : scanner.step = .inString
            · obtain ⟨_, stack⟩ := scanner
              cases inside
              have printable := step_inString stepped
              constructor
              · rintro rfl
                exact absurd printable (by decide)
              · rintro rfl
                exact absurd printable (by decide)
            · constructor
              · rintro rfl
                exact kept ⟨rfl, inside⟩
              · rintro rfl
                exact kept ⟨rfl, inside⟩
          · exact ih next c later

example : compact (text " \x7b \"a b\" :\n[1 ,2]\x7d\r") = text "\x7b\"a b\":[1,2]\x7d" := by decide

end JSON

namespace Events

/-! ## Writing -/

/-- What the loop of `stream` selects. -/
inductive Selected where
  | event (event : Event)
  | heartbeat

/-- The data of an event as it is sent. -/
def sentData (data : GoString) : GoString :=
  JSON.compact (if JSON.valid data then data else text "\x7b\x7d")

def frame : Selected → GoString
  | .event event =>
      text "id: " ++ itoa event.id ++ text "\nevent: " ++ event.type ++ text "\ndata: " ++ sentData event.data ++
        text "\n\n"
  | .heartbeat => text ": heartbeat\n\n"

def stream (selected : List Selected) : GoString := text "retry: 3000\n\n" ++ selected.flatMap frame

/-! ## Reading -/

structure Message where
  lastEventID : GoString
  type : GoString
  data : GoString
  deriving DecidableEq, Repr

/-- The lines of an event stream, which end with CR, LF or both; what no line
end follows is no line. -/
def lines (pending : GoString) : GoString → List GoString
  | [] => []
  | 0x0D :: 0x0A :: rest => pending :: lines [] rest
  | c :: rest => if c = 0x0D ∨ c = 0x0A then pending :: lines [] rest else lines (pending ++ [c]) rest

/-- The buffers of a reader, and the events that it has dispatched. -/
structure Reader where
  lastEventID : GoString
  type : GoString
  data : GoString
  dispatched : List Message
  deriving DecidableEq, Repr

def Reader.start : Reader := ⟨[], [], [], []⟩

def Reader.dispatch (reader : Reader) : Reader :=
  if reader.data = [] then { reader with type := [], data := [] }
  else
    let data := if reader.data.getLast? = some 0x0A then reader.data.dropLast else reader.data
    let type := if reader.type = [] then text "message" else reader.type
    ⟨reader.lastEventID, [], [], reader.dispatched ++ [⟨reader.lastEventID, type, data⟩]⟩

/-- A field; one for the time of reconnecting has no part in the events. -/
def Reader.field (reader : Reader) (name value : GoString) : Reader :=
  if name = text "event" then { reader with type := value }
  else if name = text "data" then { reader with data := reader.data ++ value ++ [0x0A] }
  else if name = text "id" then if 0 ∈ value then reader else { reader with lastEventID := value }
  else reader

/-- One space behind the colon is not part of a value. -/
def Reader.line (reader : Reader) (line : GoString) : Reader :=
  if line = [] then reader.dispatch
  else if line.head? = some (byte ':') then reader
  else
    match cut (byte ':') line with
    | (name, none) => reader.field name []
    | (name, some value) => reader.field name (if value.head? = some 0x20 then value.tail else value)

def parse (bytes : GoString) : List Message := ((lines [] bytes).foldl Reader.line Reader.start).dispatched

/-! ## What is written is read -/

def Unbroken (value : GoString) : Prop := ∀ c ∈ value, c ≠ 0x0D ∧ c ≠ 0x0A

instance (value : GoString) : Decidable (Unbroken value) := List.decidableBAll _ value

theorem Unbroken.append {left right : GoString} (leftUnbroken : Unbroken left) (rightUnbroken : Unbroken right) :
    Unbroken (left ++ right) := by
  intro c member
  rcases List.mem_append.mp member with first | second
  · exact leftUnbroken c first
  · exact rightUnbroken c second

theorem sentData_unbroken (data : GoString) : Unbroken (sentData data) := JSON.compactFrom_unbroken _ _

private theorem itoa_unbroken (value : Nat) : Unbroken (itoa value) := by
  intro c member
  constructor
  · rintro rfl
    exact itoa_clean value (by decide) member
  · rintro rfl
    exact itoa_clean value (by decide) member

private theorem lines_line {line : GoString} (unbroken : Unbroken line) (pending rest : GoString) :
    lines pending (line ++ 0x0A :: rest) = (pending ++ line) :: lines [] rest := by
  induction line generalizing pending with
  | nil => simp [lines]
  | cons c more ih =>
      obtain ⟨⟨return_, feed⟩, others⟩ := List.forall_mem_cons.mp unbroken
      rw [List.cons_append, lines, if_neg (by simp [return_, feed]), ih others, List.append_assoc, List.singleton_append]
      intro behind first
      exact absurd first return_

private theorem line_field {reader : Reader} {name : GoString} (named : name ≠ []) (colonless : byte ':' ∉ name)
    (value : GoString) : reader.line (name ++ byte ':' :: 0x20 :: value) = reader.field name value := by
  have first : (name ++ byte ':' :: 0x20 :: value).head? ≠ some (byte ':') := by
    cases name with
    | nil => exact absurd rfl named
    | cons c more =>
        intro same
        exact colonless (List.mem_cons.mpr (.inl (Option.some.inj same).symm))
  unfold Reader.line
  rw [if_neg (by simp), if_neg first, cut_append colonless]
  rfl

/-- A reader between two events. -/
def Reader.Between (reader : Reader) : Prop := reader.type = [] ∧ reader.data = []

/-- The message of an event; a reader calls one without a type `message`. -/
def messageOf (event : Event) : Message :=
  ⟨itoa event.id, if event.type = [] then text "message" else event.type, sentData event.data⟩

def Selected.messages : Selected → List Message
  | .event sent => [messageOf sent]
  | .heartbeat => []

private theorem event_lines {event : Event} (unbroken : Unbroken event.type) (rest : GoString) :
    lines [] (frame (.event event) ++ rest) =
      (text "id" ++ byte ':' :: 0x20 :: itoa event.id) :: (text "event" ++ byte ':' :: 0x20 :: event.type) ::
        (text "data" ++ byte ':' :: 0x20 :: sentData event.data) :: [] :: lines [] rest := by
  have split_ : frame (.event event) ++ rest =
      (text "id" ++ byte ':' :: 0x20 :: itoa event.id) ++ 0x0A ::
        ((text "event" ++ byte ':' :: 0x20 :: event.type) ++ 0x0A ::
          ((text "data" ++ byte ':' :: 0x20 :: sentData event.data) ++ 0x0A :: ([] ++ 0x0A :: rest))) := by
    have id_ : text "id: " = text "id" ++ [byte ':', 0x20] := by decide
    have event_ : text "\nevent: " = 0x0A :: text "event" ++ [byte ':', 0x20] := by decide
    have data_ : text "\ndata: " = 0x0A :: text "data" ++ [byte ':', 0x20] := by decide
    have end_ : text "\n\n" = [0x0A, 0x0A] := by decide
    simp only [frame, id_, event_, data_, end_, List.append_assoc, List.cons_append, List.nil_append]
  have field : ∀ {name value : GoString}, Unbroken name → Unbroken value →
      Unbroken (name ++ byte ':' :: 0x20 :: value) := by
    intro name value nameUnbroken valueUnbroken
    have colon : Unbroken [byte ':', 0x20] := by decide
    simpa using nameUnbroken.append (colon.append valueUnbroken)
  rw [split_, lines_line (field (by decide) (itoa_unbroken _)), lines_line (field (by decide) unbroken),
    lines_line (field (by decide) (sentData_unbroken _)), lines_line (by decide)]
  simp only [List.nil_append]

private theorem field_id (reader : Reader) {value : GoString} (plain : 0 ∉ value) :
    reader.field (text "id") value = { reader with lastEventID := value } := by
  have other : text "id" ≠ text "event" ∧ text "id" ≠ text "data" := by decide
  unfold Reader.field
  rw [if_neg other.1, if_neg other.2, if_pos rfl, if_neg plain]

private theorem field_event (reader : Reader) (value : GoString) :
    reader.field (text "event") value = { reader with type := value } := by
  unfold Reader.field
  rw [if_pos rfl]

private theorem field_data (reader : Reader) (value : GoString) :
    reader.field (text "data") value = { reader with data := reader.data ++ value ++ [0x0A] } := by
  have other : text "data" ≠ text "event" := by decide
  unfold Reader.field
  rw [if_neg other, if_pos rfl]

private theorem event_read {reader : Reader} (between : reader.Between) (event : Event) :
    [text "id" ++ byte ':' :: 0x20 :: itoa event.id, text "event" ++ byte ':' :: 0x20 :: event.type,
        text "data" ++ byte ':' :: 0x20 :: sentData event.data, []].foldl Reader.line reader =
      ⟨itoa event.id, [], [], reader.dispatched ++ [messageOf event]⟩ := by
  have numbered : (0 : UInt8) ∉ itoa event.id := itoa_clean _ (by decide)
  simp only [List.foldl_cons, List.foldl_nil]
  rw [line_field (by decide) (by decide), line_field (by decide) (by decide), line_field (by decide) (by decide),
    field_id _ numbered, field_event, field_data]
  unfold Reader.line Reader.dispatch
  simp [between.2, messageOf]

private theorem heartbeat_read {reader : Reader} (between : reader.Between) :
    [text ": heartbeat", []].foldl Reader.line reader = reader := by
  obtain ⟨lastEventID, type, data, dispatched⟩ := reader
  obtain ⟨rfl, rfl⟩ := between
  rfl

/-- What a selection adds to what a reader has dispatched. -/
theorem frame_read {reader : Reader} (between : reader.Between) (selected : Selected)
    (unbroken : ∀ event, selected = .event event → Unbroken event.type) (rest : GoString) :
    ∃ after : Reader, after.Between ∧ after.dispatched = reader.dispatched ++ selected.messages ∧
      (lines [] (frame selected ++ rest)).foldl Reader.line reader = (lines [] rest).foldl Reader.line after := by
  cases selected with
  | event event =>
      refine ⟨⟨itoa event.id, [], [], reader.dispatched ++ [messageOf event]⟩, ⟨rfl, rfl⟩, rfl, ?_⟩
      have read := event_read between event
      rw [event_lines (unbroken event rfl)]
      simp only [List.foldl_cons, List.foldl_nil] at read ⊢
      rw [read]
  | heartbeat =>
      refine ⟨reader, between, (List.append_nil _).symm, ?_⟩
      have beats : frame .heartbeat ++ rest = text ": heartbeat" ++ 0x0A :: ([] ++ 0x0A :: rest) := by
        have end_ : text ": heartbeat\n\n" = text ": heartbeat" ++ [0x0A, 0x0A] := by decide
        simp only [frame, end_, List.append_assoc, List.cons_append, List.nil_append]
      have read := heartbeat_read between
      rw [beats, lines_line (by decide), lines_line (by decide)]
      simp only [List.foldl_cons, List.foldl_nil, List.nil_append] at read ⊢
      rw [read]

theorem frames_read {reader : Reader} (between : reader.Between) {selected : List Selected}
    (unbroken : ∀ event, .event event ∈ selected → Unbroken event.type) :
    ((lines [] (selected.flatMap frame)).foldl Reader.line reader).dispatched =
      reader.dispatched ++ selected.flatMap Selected.messages := by
  induction selected generalizing reader with
  | nil => exact (List.append_nil _).symm
  | cons first rest ih =>
      obtain ⟨after, still, added, read⟩ := frame_read between first
        (fun event same => unbroken event (same ▸ List.mem_cons_self)) (rest.flatMap frame)
      rw [List.flatMap_cons, read, ih still fun event member => unbroken event (List.mem_cons_of_mem _ member), added,
        List.flatMap_cons, List.append_assoc]

theorem stream_read (selected : List Selected) (unbroken : ∀ event, .event event ∈ selected → Unbroken event.type) :
    parse (stream selected) = selected.flatMap Selected.messages := by
  have first : stream selected = text "retry: 3000" ++ 0x0A :: ([] ++ 0x0A :: selected.flatMap frame) := by
    have end_ : text "retry: 3000\n\n" = text "retry: 3000" ++ [0x0A, 0x0A] := by decide
    simp only [stream, end_, List.append_assoc, List.cons_append, List.nil_append]
  have ready : (Reader.start.line (text "retry: 3000")).line [] = Reader.start := by decide
  unfold parse
  rw [first, lines_line (by decide), lines_line (by decide)]
  simp only [List.foldl_cons, List.nil_append, ready]
  exact frames_read ⟨rfl, rfl⟩ unbroken

theorem stream_read_two :
    parse (stream [.event ⟨7, text "sync", text "\x7b \"a\":\n1\x7d"⟩, .heartbeat, .event ⟨8, [], text "\n\nid: 9"⟩]) =
      [⟨text "7", text "sync", text "\x7b\"a\":1\x7d"⟩, ⟨text "8", text "message", text "\x7b\x7d"⟩] := by
  have unbroken : ∀ event, .event event ∈ [Selected.event ⟨7, text "sync", text "\x7b \"a\":\n1\x7d"⟩, .heartbeat,
      .event ⟨8, [], text "\n\nid: 9"⟩] → Unbroken event.type := by
    intro event member
    simp only [List.mem_cons, Selected.event.injEq, List.not_mem_nil, or_false, reduceCtorEq, false_or] at member
    rcases member with rfl | rfl
    · decide
    · decide
  refine (stream_read _ unbroken).trans ?_
  decide

def Selected.types : Selected → List GoString
  | .event sent => [sent.type]
  | .heartbeat => []

theorem untyped_event_renamed :
    ¬∀ selected : List Selected, (∀ event, .event event ∈ selected → Unbroken event.type) →
      (parse (stream selected)).map Message.type = selected.flatMap Selected.types := by
  intro every
  have same := every [.event ⟨1, [], text "null"⟩] (by simp [Unbroken])
  exact absurd same (by decide)

end Events

end NodeAtlas
