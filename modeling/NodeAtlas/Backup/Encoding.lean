import NodeAtlas.Backup.Archive
import NodeAtlas.JSON.Roundtrip
import NodeAtlas.Timestamps
import Mathlib.Data.List.Nodup
import Mathlib.Data.List.Sort

/-! The JSON of archives and of envelopes, and that what was written is read. -/

set_option autoImplicit false

namespace NodeAtlas.Backup

open JSON (Json Decoder Slice)

/-! ## Writing -/

section Writing

/-- `json.Marshal` of a map: its keys are sorted. -/
def marshalMap {α : Type} (write : α → GoString) : Option (GoMap α) → GoString
  | none => JSON.null
  | some map =>
      JSON.object ((map.entries.insertionSort fun left right => left.1 ≤ right.1).map
        fun (key, value) => (key, write value))

def marshalCell : Option GoString → GoString
  | none => JSON.null
  | some value => JSON.quote value

def TableData.marshal (table : TableData) : GoString :=
  JSON.object
    [(text "columns", JSON.array (table.columns.map JSON.quote)),
      (text "rows", JSON.array (table.rows.map fun row => JSON.array (row.map marshalCell)))]

/-- The instant is of a year of four digits. -/
def Dated (instant : Instant) : Prop :=
  Timestamps.yearZero ≤ instant ∧ instant < Timestamps.yearZero + Timestamps.seconds * 10 ^ 9

instance (instant : Instant) : Decidable (Dated instant) :=
  inferInstanceAs (Decidable (_ ∧ _))

/-- `MarshalJSON` of a time in UTC. -/
def marshalTime (instant : Instant) : Option GoString :=
  if Dated instant then some (byte '"' :: (Timestamps.formatTime instant ++ [byte '"'])) else none

def Archive.marshal (archive : Archive) : Option GoString := do
  let createdAt ← marshalTime archive.createdAt
  return JSON.object
    [(text "format_version", integerText archive.formatVersion),
      (text "application_version", JSON.quote archive.applicationVersion), (text "created_at", createdAt),
      (text "source_dialect", JSON.quote archive.sourceDialect),
      (text "manifest", marshalMap integerText archive.manifest),
      (text "tables", marshalMap TableData.marshal archive.tables)]

def Envelope.marshal (envelope : Envelope) : GoString :=
  JSON.object
    [(text "magic", JSON.quote envelope.magic), (text "version", integerText envelope.version),
      (text "kdf", JSON.quote envelope.kdf), (text "n", integerText envelope.n), (text "r", integerText envelope.r),
      (text "p", integerText envelope.p), (text "salt", JSON.quote (Base64.encode envelope.salt)),
      (text "nonce", JSON.quote (Base64.encode envelope.nonce)),
      (text "ciphertext", JSON.quote (Base64.encode envelope.ciphertext))]

end Writing

/-! ## Reading -/

section Reading

/-- A map; each of its values is decoded for itself. -/
def asMap {α : Type} (decode : Json → Option α) : Decoder (Option (GoMap α))
  | _, .null => some none
  | current, .object _ members =>
      (members.foldlM (fun map member => (decode member.2).map (map.set member.1)) (current.getD .empty)).map some
  | _, _ => none

/-- A `*string` -/
def asCell : Decoder (Option GoString)
  | _, .null => some none
  | current, value => (JSON.asString (current.getD []) value).map some

/-- `TableData` with its slices. -/
structure TableParts where
  columns : Slice GoString
  rows : Slice (Slice (Option GoString))

def tableFields : List (JSON.Field TableParts) :=
  [.part "columns" TableParts.columns (fun table columns => { table with columns := columns })
      (JSON.asSlice JSON.asString []),
    .part "rows" TableParts.rows (fun table rows => { table with rows := rows })
      (JSON.asSlice (JSON.asSlice asCell none) .empty)]

def TableParts.table (parts : TableParts) : TableData := ⟨parts.columns.list, parts.rows.list.map Slice.list⟩

def readTable (value : Json) : Option TableData :=
  (JSON.asStruct tableFields false ⟨.empty, .empty⟩ value).map TableParts.table

/-- `UnmarshalJSON` of a time; `lenient` is what `time.Parse` makes of other texts. -/
def asTime (lenient : GoString → Option Instant) : Decoder Instant
  | current, .null => some current
  | _, .string raw _ => Timestamps.parseTime lenient (raw.drop 1).dropLast
  | _, _ => none

def archiveFields (lenient : GoString → Option Instant) : List (JSON.Field Archive) :=
  [.part "format_version" Archive.formatVersion (fun archive value => { archive with formatVersion := value }) JSON.asInt,
    .part "application_version" Archive.applicationVersion
      (fun archive value => { archive with applicationVersion := value }) JSON.asString,
    .part "created_at" Archive.createdAt (fun archive value => { archive with createdAt := value }) (asTime lenient),
    .part "source_dialect" Archive.sourceDialect (fun archive value => { archive with sourceDialect := value })
      JSON.asString,
    .part "manifest" Archive.manifest (fun archive value => { archive with manifest := value })
      (asMap fun value => JSON.asInt 0 value),
    .part "tables" Archive.tables (fun archive value => { archive with tables := value }) (asMap readTable)]

def unmarshalArchive (lenient : GoString → Option Instant) (data : GoString) : Option Archive :=
  JSON.unmarshal (JSON.asStruct (archiveFields lenient) false) ⟨0, [], zeroInstant, [], none, none⟩ data

/-- A byte of an array of numbers. -/
def asByte : Decoder UInt8
  | current, .null => some current
  | _, .number token =>
      match parseInt token with
      | some value => if 0 ≤ value ∧ value < 256 then some (UInt8.ofNat value.toNat) else none
      | none => none
  | _, _ => none

/-- A `[]byte`: base64, or an array of numbers. -/
def asBytes : Decoder GoString
  | _, .null => some []
  | _, .string _ value => Base64.decode value
  | current, .array _ items => JSON.decodeItems asByte 0 current items
  | _, _ => none

def envelopeFields : List (JSON.Field Envelope) :=
  [.part "magic" Envelope.magic (fun envelope value => { envelope with magic := value }) JSON.asString,
    .part "version" Envelope.version (fun envelope value => { envelope with version := value }) JSON.asInt,
    .part "kdf" Envelope.kdf (fun envelope value => { envelope with kdf := value }) JSON.asString,
    .part "n" Envelope.n (fun envelope value => { envelope with n := value }) JSON.asInt,
    .part "r" Envelope.r (fun envelope value => { envelope with r := value }) JSON.asInt,
    .part "p" Envelope.p (fun envelope value => { envelope with p := value }) JSON.asInt,
    .part "salt" Envelope.salt (fun envelope value => { envelope with salt := value }) asBytes,
    .part "nonce" Envelope.nonce (fun envelope value => { envelope with nonce := value }) asBytes,
    .part "ciphertext" Envelope.ciphertext (fun envelope value => { envelope with ciphertext := value }) asBytes]

/-- The decoder of `Open`, which disallows unknown fields. -/
def decodeEnvelope (data : GoString) : Option Envelope :=
  JSON.unmarshal (JSON.asStruct envelopeFields true) ⟨[], 0, [], 0, 0, 0, [], [], []⟩ data

end Reading

/-! ## What is written is read -/

/-- A field that is there is decoded, and the members behind it. -/
theorem decodeMembers_field {T : Type} {fields : List (JSON.Field T)} {strict : Bool} {current : T}
    {key : GoString} {value : Json} {field : JSON.Field T} (next : T) (found : JSON.fieldFor fields key = some field)
    (decoded : field.decode current value = some next) (rest : List (GoString × Json)) :
    JSON.decodeMembers fields strict current ((key, value) :: rest) = JSON.decodeMembers fields strict next rest := by
  rw [JSON.decodeMembers, found]
  simp [decoded]

/-- Bytes of ASCII are UTF-8. -/
theorem valid_of_ascii {value : GoString} (ascii : ∀ c ∈ value, c < 0x80) : UTF8.valid value = true := by
  rw [UTF8.valid_iff]
  induction value with
  | nil => exact .nil
  | cons first rest ih =>
      rw [List.forall_mem_cons] at ascii
      exact UTF8.Runes.cons (.one ascii.1) (ih ascii.2)

theorem member_reads (name : String) {raw : GoString} {json : Json} (literal : UTF8.valid (text name) = true)
    (reads : JSON.Reads raw json) : JSON.MemberReads (text name, raw) (text name, json) :=
  ⟨rfl, literal, reads⟩

section Fields

variable {T : Type} {get : T → Int} {put : T → Int → T}

theorem asInt_field (name : String) (current : T) {value : Int} (fits : Fits value) :
    (JSON.Field.part name get put JSON.asInt).decode current (.number (integerText value)) = some (put current value) := by
  simp [JSON.Field.part, JSON.asInt, parseInt_integerText fits]

theorem asBytes_field {get : T → GoString} {put : T → GoString → T} (name : String) (current : T) (bytes : GoString) :
    (JSON.Field.part name get put asBytes).decode current (.string (JSON.quote (Base64.encode bytes)) (Base64.encode bytes)) =
      some (put current bytes) := by
  simp [JSON.Field.part, asBytes]

end Fields

section Envelopes

theorem marshalEnvelope_value (envelope : Envelope) : JSON.Value 1 envelope.marshal := by
  apply JSON.object_value
  simp only [List.forall_mem_cons]
  exact ⟨JSON.quote_value _, JSON.integer_value _, JSON.quote_value _, JSON.integer_value _, JSON.integer_value _,
    JSON.integer_value _, JSON.quote_value _, JSON.quote_value _, JSON.quote_value _, nofun⟩

theorem base64_reads (bytes : GoString) :
    JSON.Reads (JSON.quote (Base64.encode bytes)) (.string (JSON.quote (Base64.encode bytes)) (Base64.encode bytes)) :=
  JSON.quote_reads (valid_of_ascii fun c member => (Base64.encode_plain bytes c member).1)

structure Envelope.Written (envelope : Envelope) : Prop where
  magic : UTF8.valid envelope.magic = true
  version : Fits envelope.version
  kdf : UTF8.valid envelope.kdf = true
  n : Fits envelope.n
  r : Fits envelope.r
  p : Fits envelope.p

/-- An envelope that was written is read as it was. -/
theorem decodeEnvelope_marshal {envelope : Envelope} (written : envelope.Written) :
    decodeEnvelope envelope.marshal = some envelope := by
  have reads := JSON.read_reads (marshalEnvelope_value envelope) (by decide) (JSON.object_reads
    (.cons (member_reads "magic" (by decide) (JSON.quote_reads written.magic)) <|
      .cons (member_reads "version" (by decide) (JSON.integer_reads _)) <|
      .cons (member_reads "kdf" (by decide) (JSON.quote_reads written.kdf)) <|
      .cons (member_reads "n" (by decide) (JSON.integer_reads _)) <|
      .cons (member_reads "r" (by decide) (JSON.integer_reads _)) <|
      .cons (member_reads "p" (by decide) (JSON.integer_reads _)) <|
      .cons (member_reads "salt" (by decide) (base64_reads _)) <|
      .cons (member_reads "nonce" (by decide) (base64_reads _)) <|
      .cons (member_reads "ciphertext" (by decide) (base64_reads _)) .nil))
  unfold decodeEnvelope JSON.unmarshal
  rw [reads, Option.bind_some, JSON.asStruct]
  refine (decodeMembers_field _ rfl rfl _).trans <|
    (decodeMembers_field _ rfl (asInt_field _ _ written.version) _).trans <|
    (decodeMembers_field _ rfl rfl _).trans <|
    (decodeMembers_field _ rfl (asInt_field _ _ written.n) _).trans <|
    (decodeMembers_field _ rfl (asInt_field _ _ written.r) _).trans <|
    (decodeMembers_field _ rfl (asInt_field _ _ written.p) _).trans <|
    (decodeMembers_field _ rfl (asBytes_field _ _ _) _).trans <|
    (decodeMembers_field _ rfl (asBytes_field _ _ _) _).trans <|
    (decodeMembers_field _ rfl (asBytes_field _ _ _) _).trans rfl

end Envelopes

/-! ## Archives -/

namespace GoMap

variable {α : Type}

theorem get_eq_some {map : GoMap α} {key : GoString} {value : α} :
    map.get key = some value ↔ (key, value) ∈ map.entries := by
  unfold get
  rw [Option.map_eq_some_iff]
  constructor
  · rintro ⟨⟨name, found⟩, located, rfl⟩
    have same : name = key := by simpa using List.find?_some located
    subst same
    exact List.mem_of_find?_eq_some located
  · intro member
    obtain ⟨entry, located⟩ := Option.isSome_iff_exists.mp
      (List.find?_isSome (p := fun entry : GoString × α => decide (entry.1 = key)) |>.mpr ⟨(key, value), member, by simp⟩)
    have same : entry.1 = key := by simpa using List.find?_some located
    have only : entry = (key, value) :=
      List.inj_on_of_nodup_map map.distinct (List.mem_of_find?_eq_some located) member same
    exact ⟨entry, located, congrArg Prod.snd only⟩

theorem get_perm {map other : GoMap α} (same : map.entries.Perm other.entries) (key : GoString) :
    map.get key = other.get key := by
  apply Option.ext
  intro value
  rw [get_eq_some, get_eq_some, same.mem_iff]

theorem set_fresh {map : GoMap α} {key : GoString} (fresh : key ∉ map.entries.map Prod.fst) (value : α) :
    (map.set key value).entries = map.entries ++ [(key, value)] := by
  have appended : ∀ entries : List (GoString × α), key ∉ entries.map Prod.fst →
      setEntry key value entries = entries ++ [(key, value)] := by
    intro entries
    induction entries with
    | nil => exact fun _ => rfl
    | cons first rest ih =>
        intro absent
        rw [List.map_cons, List.mem_cons, not_or] at absent
        rw [setEntry, if_neg (fun same => absent.1 same.symm), ih absent.2]
        rfl
  exact appended map.entries fresh

end GoMap

section Maps

variable {α : Type} {decode : Json → Option α}

private theorem foldlM_set {members : List (GoString × Json)} {entries : List (GoString × α)} (map : GoMap α)
    (each : List.Forall₂ (fun entry member => member.1 = entry.1 ∧ decode member.2 = some entry.2) entries members)
    (distinct : ((map.entries ++ entries).map Prod.fst).Nodup) :
    ∃ read : GoMap α, members.foldlM (fun map member => (decode member.2).map (map.set member.1)) map = some read ∧
      read.entries = map.entries ++ entries := by
  induction each generalizing map with
  | nil => exact ⟨map, rfl, (List.append_nil _).symm⟩
  | @cons entry member entries members first _ ih =>
      obtain ⟨key, json⟩ := member
      obtain ⟨name, value⟩ := entry
      obtain ⟨same, decoded⟩ := first
      dsimp only at same decoded
      subst same
      have fresh : key ∉ map.entries.map Prod.fst := by
        rw [List.map_append, List.map_cons, List.nodup_append] at distinct
        intro member
        exact distinct.2.2 key member key List.mem_cons_self rfl
      have appended := GoMap.set_fresh fresh value
      obtain ⟨read, folded, held⟩ := ih (map.set key value) (by
        rw [appended, List.append_assoc]
        exact distinct)
      refine ⟨read, ?_, ?_⟩
      · rw [List.foldlM_cons, decoded]
        exact folded
      · rw [held, appended, List.append_assoc]
        rfl

/-- A map with the entries in their order. -/
theorem asMap_marshal {write : α → GoString} {json : α → Json} {map : GoMap α}
    (keys : ∀ entry ∈ map.entries, UTF8.valid entry.1 = true)
    (reads : ∀ entry ∈ map.entries, JSON.Reads (write entry.2) (json entry.2))
    (decoded : ∀ entry ∈ map.entries, decode (json entry.2) = some entry.2) :
    ∃ value read, JSON.Reads (marshalMap write (some map)) value ∧ asMap decode none value = some (some read) ∧
      read.entries.Perm map.entries := by
  have sorted := List.perm_insertionSort (fun left right => left.1 ≤ right.1) map.entries
  generalize ordered : (map.entries.insertionSort fun left right => left.1 ≤ right.1) = entries at sorted
  have written : marshalMap write (some map) =
      JSON.object (entries.map fun (key, value) => (key, write value)) := by
    rw [← ordered]
    rfl
  have each : List.Forall₂ JSON.MemberReads (entries.map fun (key, value) => (key, write value))
      (entries.map fun (key, value) => (key, json value)) := by
    rw [List.forall₂_map_left_iff, List.forall₂_map_right_iff, List.forall₂_same]
    intro entry member
    have among := sorted.mem_iff.mp member
    exact ⟨rfl, keys entry among, reads entry among⟩
  have kept : List.Forall₂ (fun entry member => member.1 = entry.1 ∧ decode member.2 = some entry.2) entries
      (entries.map fun (key, value) => (key, json value)) := by
    rw [List.forall₂_map_right_iff, List.forall₂_same]
    exact fun entry member => ⟨rfl, decoded entry (sorted.mem_iff.mp member)⟩
  obtain ⟨read, folded, held⟩ := foldlM_set .empty kept
    ((sorted.map Prod.fst).nodup_iff.mpr map.distinct)
  refine ⟨.object (JSON.object (entries.map fun (key, value) => (key, write value)))
    (entries.map fun (key, value) => (key, json value)), read, ?_, ?_, ?_⟩
  · rw [written]
    exact JSON.object_reads each
  · rw [asMap, Option.getD_none, folded]
    rfl
  · rw [held]
    exact sorted

end Maps

section Tables

theorem asSlice_items {T : Type} {decode : Decoder T} {zero : T} (raw : GoString) {items : List Json} {values : List T}
    (each : List.Forall₂ (fun item value => decode zero item = some value) items values) :
    ∃ slice, JSON.asSlice decode zero .empty (.array raw items) = some slice ∧ slice.list = values := by
  cases each with
  | nil => exact ⟨_, rfl, rfl⟩
  | @cons item value items values first others =>
      have mapped : (item :: items).mapM (decode zero) = some (value :: values) := by
        have rest : ∀ {items : List Json} {values : List T},
            List.Forall₂ (fun item value => decode zero item = some value) items values →
              items.mapM (decode zero) = some values := by
          intro items values each
          induction each with
          | nil => rfl
          | cons same _ ih => simp [List.mapM_cons, same, ih]
        exact rest (.cons first others)
      refine ⟨⟨some (value :: values), []⟩, ?_, rfl⟩
      have whole : JSON.decodeItems decode zero [] (item :: items) = some (value :: values) :=
        JSON.decodeItems_fresh.trans mapped
      simp [JSON.asSlice, Slice.empty, Slice.list, whole]

def cellJson : Option GoString → Json
  | none => .null
  | some value => .string (JSON.quote value) value

theorem marshalCell_reads {cell : Option GoString} (written : ∀ value, cell = some value → UTF8.valid value = true) :
    JSON.Reads (marshalCell cell) (cellJson cell) := by
  cases cell with
  | none => exact JSON.null_reads
  | some value => exact JSON.quote_reads (written value rfl)

theorem asCell_json (cell : Option GoString) : asCell none (cellJson cell) = some cell := by
  cases cell <;> rfl

def rowJson (row : List (Option GoString)) : Json :=
  .array (JSON.array (row.map marshalCell)) (row.map cellJson)

/-- What is said of the texts of a table. -/
structure TableData.Written (table : TableData) : Prop where
  columns : ∀ column ∈ table.columns, UTF8.valid column = true
  cells : ∀ row ∈ table.rows, ∀ cell, some cell ∈ row → UTF8.valid cell = true

def TableData.json (table : TableData) : Json :=
  .object table.marshal
    [(text "columns", .array (JSON.array (table.columns.map JSON.quote))
        (table.columns.map fun column => .string (JSON.quote column) column)),
      (text "rows", .array (JSON.array (table.rows.map fun row => JSON.array (row.map marshalCell)))
        (table.rows.map rowJson))]

theorem TableData.Written.reads {table : TableData} (written : table.Written) :
    JSON.Reads table.marshal table.json := by
  apply JSON.object_reads
  refine .cons (member_reads "columns" (by decide) (JSON.array_reads ?_)) <|
    .cons (member_reads "rows" (by decide) (JSON.array_reads ?_)) .nil
  · rw [List.forall₂_map_left_iff, List.forall₂_map_right_iff, List.forall₂_same]
    exact fun column member => JSON.quote_reads (written.columns column member)
  · rw [List.forall₂_map_left_iff, List.forall₂_map_right_iff, List.forall₂_same]
    intro row member
    apply JSON.array_reads
    rw [List.forall₂_map_left_iff, List.forall₂_map_right_iff, List.forall₂_same]
    exact fun cell among => marshalCell_reads fun value same => written.cells row member value (same ▸ among)

theorem readTable_json (table : TableData) : readTable table.json = some table := by
  have columns : List.Forall₂ (fun item value => JSON.asString [] item = some value)
      (table.columns.map fun column => Json.string (JSON.quote column) column) table.columns := by
    rw [List.forall₂_map_left_iff, List.forall₂_same]
    exact fun _ _ => rfl
  obtain ⟨names, named, same⟩ := asSlice_items (JSON.array (table.columns.map JSON.quote)) columns
  have rows : ∀ row : List (Option GoString), ∃ slice,
      JSON.asSlice asCell none .empty (rowJson row) = some slice ∧ slice.list = row := by
    intro row
    apply asSlice_items
    rw [List.forall₂_map_left_iff, List.forall₂_same]
    exact fun cell _ => asCell_json cell
  choose slice decoded lists using rows
  have each : List.Forall₂ (fun item value => JSON.asSlice asCell none .empty item = some value)
      (table.rows.map rowJson) (table.rows.map slice) := by
    rw [List.forall₂_map_left_iff, List.forall₂_map_right_iff, List.forall₂_same]
    exact fun row _ => decoded row
  obtain ⟨slices, listed, whole⟩ :=
    asSlice_items (JSON.array (table.rows.map fun row => JSON.array (row.map marshalCell))) each
  have read : JSON.asStruct tableFields false ⟨.empty, .empty⟩ table.json = some ⟨names, slices⟩ := by
    rw [TableData.json, JSON.asStruct]
    refine (decodeMembers_field ⟨names, .empty⟩ rfl ?_ _).trans <|
      (decodeMembers_field ⟨names, slices⟩ rfl ?_ _).trans rfl
    · simp [JSON.Field.part, named]
    · simp [JSON.Field.part, listed]
  rw [readTable, read, Option.map_some, TableParts.table, same, whole, List.map_map]
  have back : table.rows.map (Slice.list ∘ slice) = table.rows := by
    have each : Slice.list ∘ slice = id := funext lists
    rw [each, List.map_id]
  rw [back]

theorem marshalTable_value (table : TableData) : JSON.Value 3 table.marshal := by
  apply JSON.object_value
  simp only [List.forall_mem_cons]
  have columns : JSON.Value 1 (JSON.array (table.columns.map JSON.quote)) := by
    apply JSON.array_value
    intro item member
    obtain ⟨column, _, rfl⟩ := List.mem_map.mp member
    exact JSON.quote_value column
  refine ⟨columns.deeper (by decide), JSON.array_value ?_, nofun⟩
  intro item member
  obtain ⟨row, _, rfl⟩ := List.mem_map.mp member
  apply JSON.array_value
  intro item member
  obtain ⟨cell, _, rfl⟩ := List.mem_map.mp member
  cases cell with
  | none => exact JSON.null_value
  | some value => exact JSON.quote_value value

end Tables

section Times

/-- The bytes of a time. -/
def timeByte (c : UInt8) : Bool := isDigit c || (text "-:.TZ").elem c

theorem pad_bytes (width value : Nat) : ∀ c ∈ Timestamps.pad width value, timeByte c = true := by
  induction width generalizing value with
  | zero => exact nofun
  | succ width ih =>
      intro c member
      rcases List.mem_append.mp member with before | last
      · exact ih _ c before
      · obtain rfl := List.mem_singleton.mp last
        have digits : ∀ digit : Fin 10, timeByte (UInt8.ofNat (48 + digit.val)) = true := by decide
        exact digits ⟨value % 10, Nat.mod_lt _ (by decide)⟩

theorem formatTime_bytes (instant : Instant) : ∀ c ∈ Timestamps.formatTime instant, timeByte c = true := by
  have fractions : ∀ nanoseconds, ∀ c ∈ Timestamps.fraction nanoseconds, timeByte c = true := by
    intro nanoseconds c member
    unfold Timestamps.fraction at member
    split at member
    · cases member
    · rcases List.mem_cons.mp member with rfl | digit
      · decide
      · unfold Timestamps.fractionDigits Timestamps.trimZeros at digit
        have among := (List.dropWhile_sublist _).mem (List.mem_reverse.mp digit)
        exact pad_bytes 9 nanoseconds c (List.mem_reverse.mp among)
  intro c member
  unfold Timestamps.formatTime Timestamps.secondText at member
  simp only [List.mem_append, List.mem_cons, List.not_mem_nil, or_false] at member
  rcases member with (pad | rfl | pad | rfl | pad | rfl | pad | rfl | pad | rfl | pad) | part | rfl
  all_goals first | exact pad_bytes _ _ c pad | exact fractions _ c part | decide

theorem timeByte_plain {c : UInt8} (plain : timeByte c = true) : c < 0x80 ∧ JSON.escapeByte c = [c] := by
  have every : ∀ value : Fin 256, timeByte (UInt8.ofNat value.val) = true →
      UInt8.ofNat value.val < 0x80 ∧ JSON.escapeByte (UInt8.ofNat value.val) = [UInt8.ofNat value.val] := by
    decide +kernel
  have this_ := every ⟨c.toNat, c.toNat_lt⟩
  rw [UInt8.ofNat_toNat] at this_
  exact this_ plain

theorem formatTime_ascii (instant : Instant) : ∀ c ∈ Timestamps.formatTime instant, c < 0x80 :=
  fun c member => (timeByte_plain (formatTime_bytes instant c member)).1

/-- Nothing of a time is escaped. -/
theorem quote_formatTime (instant : Instant) :
    JSON.quote (Timestamps.formatTime instant) = byte '"' :: (Timestamps.formatTime instant ++ [byte '"']) := by
  have kept : ∀ value : GoString, (∀ c ∈ value, timeByte c = true) → JSON.quoteWithin value.length value = value := by
    intro value
    induction value with
    | nil => exact fun _ => rfl
    | cons first rest ih =>
        intro plain
        rw [List.forall_mem_cons] at plain
        obtain ⟨low, same⟩ := timeByte_plain plain.1
        have single : UTF8.runeLength (first :: rest) = 1 := by simp [UTF8.runeLength, low]
        rw [List.length_cons, JSON.quoteWithin, single]
        simp [low, same, ih plain.2]
  rw [JSON.quote, kept _ (formatTime_bytes instant)]

theorem marshalTime_reads (lenient : GoString → Option Instant) {instant : Instant} {raw : GoString}
    (written : marshalTime instant = some raw) :
    JSON.Value 0 raw ∧ ∃ value, JSON.Reads raw value ∧ ∀ current, asTime lenient current value = some instant := by
  unfold marshalTime at written
  split at written
  · next dated =>
    cases written
    rw [← quote_formatTime]
    refine ⟨JSON.quote_value _, _, JSON.quote_reads (valid_of_ascii (formatTime_ascii instant)), fun current => ?_⟩
    have inner : ((JSON.quote (Timestamps.formatTime instant)).drop 1).dropLast = Timestamps.formatTime instant := by
      rw [quote_formatTime, List.drop_succ_cons, List.drop_zero, List.dropLast_concat]
    rw [asTime, inner]
    exact Timestamps.read_back lenient ⟨instant, dated.1, dated.2⟩
  · cases written

end Times

/-- The same maps, whatever the order of their entries. -/
def sameMap {α : Type} : Option (GoMap α) → Option (GoMap α) → Prop :=
  Option.Rel fun left right => left.entries.Perm right.entries

/-- Archives that differ in nothing but the order of their maps. -/
structure Archive.Alike (archive other : Archive) : Prop where
  formatVersion : archive.formatVersion = other.formatVersion
  applicationVersion : archive.applicationVersion = other.applicationVersion
  createdAt : archive.createdAt = other.createdAt
  sourceDialect : archive.sourceDialect = other.sourceDialect
  manifest : sameMap archive.manifest other.manifest
  tables : sameMap archive.tables other.tables

/-- The numbers of an archive are `int`s, and its texts UTF-8. -/
structure Archive.Written (archive : Archive) : Prop where
  formatVersion : Fits archive.formatVersion
  applicationVersion : UTF8.valid archive.applicationVersion = true
  sourceDialect : UTF8.valid archive.sourceDialect = true
  manifest : ∀ map, archive.manifest = some map → ∀ entry ∈ map.entries, UTF8.valid entry.1 = true ∧ Fits entry.2
  tables : ∀ map, archive.tables = some map → ∀ entry ∈ map.entries, UTF8.valid entry.1 = true ∧ entry.2.Written

theorem asMap_marshalMap {α : Type} (decode : Json → Option α) (write : α → GoString) (json : α → Json) (depth : Nat)
    {map : Option (GoMap α)} (keys : ∀ held, map = some held → ∀ entry ∈ held.entries, UTF8.valid entry.1 = true)
    (values : ∀ held, map = some held → ∀ entry ∈ held.entries, JSON.Value depth (write entry.2))
    (reads : ∀ held, map = some held → ∀ entry ∈ held.entries, JSON.Reads (write entry.2) (json entry.2))
    (decoded : ∀ held, map = some held → ∀ entry ∈ held.entries, decode (json entry.2) = some entry.2) :
    JSON.Value (depth + 1) (marshalMap write map) ∧ ∃ value read, JSON.Reads (marshalMap write map) value ∧
      asMap decode none value = some read ∧ sameMap read map := by
  cases map with
  | none => exact ⟨JSON.null_value.deeper (by omega), .null, none, JSON.null_reads, rfl, .none⟩
  | some held =>
      constructor
      · apply JSON.object_value
        intro member listed
        obtain ⟨entry, among, rfl⟩ := List.mem_map.mp listed
        exact values held rfl entry ((List.mem_insertionSort _).mp among)
      · obtain ⟨value, read, whole, found, same⟩ :=
          asMap_marshal (keys held rfl) (reads held rfl) (decoded held rfl)
        exact ⟨value, some read, whole, found, .some same⟩

/-- An archive that was written is read as it was, but for the order of its maps. -/
theorem unmarshalArchive_marshal (lenient : GoString → Option Instant) {archive : Archive} (written : archive.Written)
    {data : GoString} (marshaled : archive.marshal = some data) :
    ∃ read, unmarshalArchive lenient data = some read ∧ read.Alike archive := by
  unfold Archive.marshal at marshaled
  obtain ⟨createdAt, timed, same⟩ := Option.bind_eq_some_iff.mp marshaled
  cases same
  obtain ⟨timeValue, time, timeReads, timeRead⟩ := marshalTime_reads lenient timed
  obtain ⟨manifestValue, manifest, manifestRead, manifestReads, manifestHeld, manifestSame⟩ :=
    asMap_marshalMap (fun value => JSON.asInt 0 value) integerText (fun count => .number (integerText count)) 0
      (fun map held entry member => (written.manifest map held entry member).1)
      (fun _ _ entry _ => JSON.integer_value entry.2) (fun _ _ entry _ => JSON.integer_reads entry.2)
      (fun map held entry member => parseInt_integerText (written.manifest map held entry member).2)
  obtain ⟨tablesValue, tables, tablesRead, tablesReads, tablesHeld, tablesSame⟩ :=
    asMap_marshalMap readTable TableData.marshal TableData.json 3
      (fun map held entry member => (written.tables map held entry member).1)
      (fun _ _ entry _ => marshalTable_value entry.2)
      (fun map held entry member => (written.tables map held entry member).2.reads)
      (fun _ _ entry _ => readTable_json entry.2)
  have value : JSON.Value 5 (JSON.object
      [(text "format_version", integerText archive.formatVersion),
        (text "application_version", JSON.quote archive.applicationVersion), (text "created_at", createdAt),
        (text "source_dialect", JSON.quote archive.sourceDialect),
        (text "manifest", marshalMap integerText archive.manifest),
        (text "tables", marshalMap TableData.marshal archive.tables)]) := by
    apply JSON.object_value
    simp only [List.forall_mem_cons]
    exact ⟨(JSON.integer_value _).deeper (by decide), (JSON.quote_value _).deeper (by decide),
      timeValue.deeper (by decide), (JSON.quote_value _).deeper (by decide), manifestValue.deeper (by decide),
      tablesValue, nofun⟩
  have reads := JSON.read_reads value (by decide) (JSON.object_reads
    (.cons (member_reads "format_version" (by decide) (JSON.integer_reads _)) <|
      .cons (member_reads "application_version" (by decide) (JSON.quote_reads written.applicationVersion)) <|
      .cons (member_reads "created_at" (by decide) timeReads) <|
      .cons (member_reads "source_dialect" (by decide) (JSON.quote_reads written.sourceDialect)) <|
      .cons (member_reads "manifest" (by decide) manifestReads) <|
      .cons (member_reads "tables" (by decide) tablesReads) .nil))
  refine ⟨⟨archive.formatVersion, archive.applicationVersion, archive.createdAt, archive.sourceDialect,
    manifestRead, tablesRead⟩, ?_, rfl, rfl, rfl, rfl, manifestSame, tablesSame⟩
  unfold unmarshalArchive JSON.unmarshal
  rw [reads, Option.bind_some, JSON.asStruct]
  refine (decodeMembers_field _ rfl (asInt_field _ _ written.formatVersion) _).trans <|
    (decodeMembers_field _ rfl rfl _).trans <|
    (decodeMembers_field ⟨archive.formatVersion, archive.applicationVersion, archive.createdAt, [], none, none⟩
      rfl ?_ _).trans <|
    (decodeMembers_field _ rfl rfl _).trans <|
    (decodeMembers_field ⟨archive.formatVersion, archive.applicationVersion, archive.createdAt,
      archive.sourceDialect, manifestRead, none⟩ rfl ?_ _).trans <|
    (decodeMembers_field ⟨archive.formatVersion, archive.applicationVersion, archive.createdAt,
      archive.sourceDialect, manifestRead, tablesRead⟩ rfl ?_ _).trans rfl
  · simp [JSON.Field.part, timeRead]
  · simp [JSON.Field.part, manifestHeld]
  · simp [JSON.Field.part, tablesHeld]

/-! ## Archives that differ in the order of their maps -/

namespace Archive.Alike

variable {archive other : Archive}

theorem valid (alike : archive.Alike other) :
    archive.validateEnvelopeManifest = other.validateEnvelopeManifest := by
  obtain ⟨version, application, createdAt, dialect, manifest, tables⟩ := archive
  obtain ⟨version', application', createdAt', dialect', manifest', tables'⟩ := other
  obtain ⟨rfl, rfl, rfl, rfl, manifests, held⟩ := alike
  unfold Archive.validateEnvelopeManifest
  cases manifests with
  | none => rfl
  | some order =>
      cases held with
      | none => rfl
      | some orders =>
          next left right =>
          have fits : manifestEntryFits left = manifestEntryFits right := by
            funext entry
            rw [manifestEntryFits, manifestEntryFits, GoMap.get_perm orders]
          dsimp only
          rw [order.length_eq, orders.length_eq, fits, order.all_eq]

theorem tableFits_perm (library : Library) {manifest manifest' : GoMap Int} {tables tables' : GoMap TableData}
    (order : manifest.entries.Perm manifest'.entries) (orders : tables.entries.Perm tables'.entries) :
    tableFits library manifest tables = tableFits library manifest' tables' := by
  funext schema
  rw [tableFits, tableFits, GoMap.get_perm orders, GoMap.get_perm order]

/-- A logical archive is accepted whatever the order of its maps. -/
theorem validateLogical (library : Library) (alike : archive.Alike other) :
    validateLogicalArchive library archive = validateLogicalArchive library other := by
  unfold validateLogicalArchive
  rw [alike.valid]
  generalize other.validateEnvelopeManifest = outcome
  obtain ⟨version, application, createdAt, dialect, manifest, tables⟩ := archive
  obtain ⟨version', application', createdAt', dialect', manifest', tables'⟩ := other
  obtain ⟨_, _, _, _, manifests, held⟩ := alike
  cases outcome with
  | error failure => rfl
  | ok _ =>
      cases manifests with
      | none => rfl
      | some order =>
          cases held with
          | none => rfl
          | some orders =>
              dsimp only
              rw [orders.length_eq, tableFits_perm library order orders]

end Archive.Alike

end NodeAtlas.Backup
