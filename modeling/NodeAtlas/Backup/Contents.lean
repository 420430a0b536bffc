import NodeAtlas.Backup.Encoding
import NodeAtlas.Backup.Restoration

/-! What the cells of the tables stand for, and that an archive keeps it: from a
database over the sealed file into another database. -/

set_option autoImplicit false

namespace NodeAtlas.Backup

/-- What a cell stands for, whatever type a driver gives it. -/
inductive Content where
  | null
  | text (value : GoString)
  | binary (bytes : GoString)
  | number (value : Int)
  | flag (value : Bool)
  | moment (instant : Instant)
  deriving DecidableEq, Repr

/-- What a value stands for in a column of this kind, if anything. -/
def content (library : Library) (kind : ColumnKind) (value : Value) : Option Content :=
  if value = .null then some .null
  else
    match kind with
    | .binary =>
        match value with
        | .bytes bytes => some (.binary bytes)
        | _ => none
    | .integer => (parseInt (scalarString library value)).map .number
    | .boolean => (parseBool (scalarString library value)).map .flag
    | .time => (valueTime library value).map .moment
    | .json | .text => some (.text (scalarString library value))

/-- Times are written and read as the layout says. -/
structure Library.Dates (library : Library) (lenient : GoString → Option Instant) : Prop where
  writes : library.formatTime = Timestamps.formatTime
  reads : library.parseTime .rfc3339Nano = Timestamps.parseTime lenient

section Cells

variable {library : Library} {lenient : GoString → Option Instant}

theorem Library.Dates.read_back (dates : library.Dates lenient) {instant : Instant} (year : Dated instant) :
    library.parseTime .rfc3339Nano (library.formatTime instant) = some instant := by
  rw [dates.writes, dates.reads]
  exact Timestamps.read_back lenient ⟨instant, year.1, year.2⟩

theorem isBoolean_cases {value : GoString} (boolean : isBoolean value = true) :
    value = text "0" ∨ value = text "1" ∨ value = text "true" ∨ value = text "false" := by
  simpa [isBoolean] using boolean

/-- A cell that was exported can be restored, on either dialect, and stands for
the same. -/
theorem restoreCell_normalizeCell (dates : library.Dates lenient) {kind : ColumnKind} {value : Value}
    {cell : Option GoString} (normal : normalizeCell library kind value = .ok cell)
    (years : kind = .time → ∀ instant, valueTime library value = some instant → Dated instant)
    (dialect : Dialect) :
    ∃ restored, restoreCell library kind cell dialect = .ok restored ∧
      content library kind restored = content library kind value := by
  unfold normalizeCell at normal
  split at normal
  · next null =>
      cases normal
      exact ⟨.null, rfl, by rw [null]⟩
  · next given =>
      cases written : cellText library kind value with
      | error failure => rw [written] at normal; cases normal
      | ok scalar =>
          rw [written] at normal
          cases normal
          unfold restoreCell content
          rw [if_neg given]
          unfold cellText at written
          dsimp only at written ⊢
          cases kind with
          | text =>
              cases written
              exact ⟨.string (scalarString library value), rfl, rfl⟩
          | json =>
              dsimp only at written
              split at written
              · next valid =>
                  cases written
                  exact ⟨.string (scalarString library value), by simp [restoreText, valid], rfl⟩
              · cases written
          | binary =>
              dsimp only at written
              split at written
              · next bytes =>
                  cases written
                  exact ⟨.bytes bytes, by simp [restoreText], rfl⟩
              · cases written
          | integer =>
              dsimp only at written
              split at written
              · cases written
              · next readable =>
                  cases written
                  obtain ⟨number, read⟩ := Option.ne_none_iff_exists'.mp fun none_ => readable (Option.isNone_iff_eq_none.mpr none_)
                  have fits : Fits number := parseInt_bounds read
                  refine ⟨.integer number, by simp [restoreText, read], ?_⟩
                  change (parseInt (integerText number)).map Content.number =
                    (parseInt (scalarString library value)).map Content.number
                  rw [parseInt_integerText fits, read]
          | boolean =>
              dsimp only at written
              split at written
              · next boolean =>
                  cases written
                  have parsed : ∃ flag, parseBool (scalarString library value) = some flag := by
                    rcases isBoolean_cases boolean with same | same | same | same <;> rw [same]
                    · exact ⟨false, by decide⟩
                    · exact ⟨true, by decide⟩
                    · exact ⟨true, by decide⟩
                    · exact ⟨false, by decide⟩
                  obtain ⟨flag, read⟩ := parsed
                  refine ⟨.boolean flag, by simp [restoreText, read], ?_⟩
                  have again : parseBool (if flag then text "true" else text "false") = some flag := by
                    cases flag <;> decide
                  change (parseBool (if flag then text "true" else text "false")).map Content.flag =
                    (parseBool (scalarString library value)).map Content.flag
                  rw [again, read]
              · cases written
          | time =>
              dsimp only at written
              split at written
              · next instant timed =>
                  cases written
                  have back := dates.read_back (years rfl instant timed)
                  cases dialect with
                  | mysql =>
                      refine ⟨.time instant, by simp [restoreText, back], ?_⟩
                      rw [timed]
                      rfl
                  | sqlite =>
                      refine ⟨.string (library.formatTime instant), by simp [restoreText, back], ?_⟩
                      have again : parseLayouts library (library.formatTime instant) = some instant := by
                        simp [parseLayouts, back]
                      change (parseLayouts library (library.formatTime instant)).map Content.moment =
                        (valueTime library value).map Content.moment
                      rw [again, timed]
              · cases written

end Cells

/-! ## Rows -/

/-- What the cells of a row stand for. -/
def contents (library : Library) (schema : TableSchema) (row : Files.Row) : List (Option Content) :=
  schema.columns.map fun column => content library column.kind (row column.name)

/-- What a row of an archive is restored to stands for the same as this row. -/
def Represents (library : Library) (schema : TableSchema) (row : Files.Row) (cells : List (Option GoString)) : Prop :=
  cells.length = schema.columns.length ∧ ∀ context dialect, ∃ values,
    convertRow context (fun kind cell => restoreCell library kind cell dialect) schema.columns cells = .ok values ∧
      contents library schema (Files.Row.of (columnNames schema) values) = contents library schema row

section Rows

variable {library : Library} {lenient : GoString → Option Instant}

theorem convertRow_cons {Cell Result : Type} {context : GoString}
    {convert : ColumnKind → Cell → Except GoError Result} {column : ColumnSchema} {columns : List ColumnSchema}
    {cell : Cell} {cells : List Cell} {results : List Result}
    (converted : convertRow context convert (column :: columns) (cell :: cells) = .ok results) :
    ∃ first rest, convert column.kind cell = .ok first ∧ convertRow context convert columns cells = .ok rest ∧
      results = first :: rest := by
  rw [convertRow] at converted
  split at converted
  · cases converted
  · next first same =>
    cases later : convertRow context convert columns cells with
    | error failure => rw [later] at converted; cases converted
    | ok rest =>
        rw [later] at converted
        cases converted
        exact ⟨first, rest, same, rfl, rfl⟩

/-- The columns that an INSERT names have the values given for them. -/
theorem Row.of_values {names : List GoString} {values : List Value} (distinct : names.Nodup)
    (sized : values.length = names.length) : names.map (Files.Row.of names values) = values := by
  induction names generalizing values with
  | nil => exact (List.length_eq_zero_iff.mp sized).symm
  | cons name rest ih =>
      cases values with
      | nil => cases sized
      | cons value others =>
          rw [List.nodup_cons] at distinct
          have first : Files.Row.of (name :: rest) (value :: others) name = value := by simp [Files.Row.of]
          have later : ∀ other ∈ rest, Files.Row.of (name :: rest) (value :: others) other =
              Files.Row.of rest others other := by
            intro other member
            have apart : ¬ name = other := fun same => distinct.1 (same ▸ member)
            simp [Files.Row.of, apart]
          rw [List.map_cons, first, List.map_congr_left later, ih distinct.2 (Nat.succ.inj sized)]

/-- A row that was exported can be restored, on either dialect, cell by cell. -/
theorem restoreRow_normalizeRow (dates : library.Dates lenient) {context : GoString} {columns : List ColumnSchema}
    {values : List Value} {cells : List (Option GoString)}
    (exported : convertRow context (normalizeCell library) columns values = .ok cells)
    (sized : values.length = columns.length)
    (years : ∀ pair ∈ columns.zip values, pair.1.kind = .time →
      ∀ instant, valueTime library pair.2 = some instant → Dated instant) :
    cells.length = columns.length ∧ ∀ context dialect, ∃ restored,
      convertRow context (fun kind cell => restoreCell library kind cell dialect) columns cells = .ok restored ∧
        restored.length = columns.length ∧
        List.zipWith (fun column value => content library column.kind value) columns restored =
          List.zipWith (fun column value => content library column.kind value) columns values := by
  induction columns generalizing values cells with
  | nil =>
      cases exported
      exact ⟨rfl, fun _ _ => ⟨[], rfl, rfl, by simp⟩⟩
  | cons column columns ih =>
      cases values with
      | nil => cases sized
      | cons value values =>
          obtain ⟨cell, rest, normal, further, rfl⟩ := convertRow_cons exported
          rw [List.zip_cons_cons, List.forall_mem_cons] at years
          obtain ⟨length, others⟩ := ih further (Nat.succ.inj sized) years.2
          refine ⟨congrArg Nat.succ length, fun context dialect => ?_⟩
          obtain ⟨first, restored, same⟩ := restoreCell_normalizeCell dates normal years.1 dialect
          obtain ⟨later, converted, sized_, alike⟩ := others context dialect
          refine ⟨first :: later, ?_, congrArg Nat.succ sized_, ?_⟩
          · simp [convertRow, restored, converted, Except.map]
          · rw [List.zipWith_cons_cons, List.zipWith_cons_cons, same, alike]

theorem represents_of_export (dates : library.Dates lenient) {schema : TableSchema}
    (distinct : (columnNames schema).Nodup) {context : GoString} {row : Files.Row} {cells : List (Option GoString)}
    (exported : convertRow context (normalizeCell library) schema.columns
      (schema.columns.map fun column => row column.name) = .ok cells)
    (years : ∀ column ∈ schema.columns, column.kind = .time →
      ∀ instant, valueTime library (row column.name) = some instant → Dated instant) :
    Represents library schema row cells := by
  have zipped : ∀ pair ∈ schema.columns.zip (schema.columns.map fun column => row column.name), pair.1.kind = .time →
      ∀ instant, valueTime library pair.2 = some instant → Dated instant := by
    intro pair member
    rw [← List.map_id schema.columns, List.map_map, List.zip_map', List.mem_map] at member
    obtain ⟨column, among, rfl⟩ := member
    exact years column among
  obtain ⟨length, restores⟩ := restoreRow_normalizeRow dates exported (by simp) zipped
  refine ⟨length, fun context dialect => ?_⟩
  obtain ⟨restored, converted, sized, alike⟩ := restores context dialect
  refine ⟨restored, converted, ?_⟩
  have given : schema.columns.map (fun column => Files.Row.of (columnNames schema) restored column.name) = restored := by
    have values := Row.of_values distinct (sized.trans (List.length_map _).symm)
    rwa [columnNames, List.map_map] at values
  have written : contents library schema (Files.Row.of (columnNames schema) restored) =
      List.zipWith (fun column value => content library column.kind value) schema.columns restored := by
    rw [← given, List.zipWith_map_right, List.zipWith_self]
    simp only [contents, given]
  rw [written, alike, List.zipWith_map_right, List.zipWith_self]
  rfl

theorem mapM_ok {Cell Result : Type} {convert : Cell → Except GoError Result} {cells : List Cell}
    {results : List Result} (converted : cells.mapM convert = .ok results) :
    List.Forall₂ (fun cell result => convert cell = .ok result) cells results := by
  induction cells generalizing results with
  | nil =>
      cases converted
      exact .nil
  | cons cell cells ih =>
      rw [List.mapM_cons] at converted
      cases first : convert cell with
      | error failure => rw [first] at converted; cases converted
      | ok result =>
          cases rest : cells.mapM convert with
          | error failure => rw [first, rest] at converted; cases converted
          | ok others =>
              rw [first, rest] at converted
              cases converted
              exact .cons first (ih rest)

end Rows

/-! ## Tables -/

/-- The times of the tables are of years of four digits. -/
def TablesDated (library : Library) (tables : Files.Tables) : Prop :=
  ∀ schema ∈ logicalSchema, ∀ row ∈ tables schema.name, ∀ column ∈ schema.columns, column.kind = .time →
    ∀ instant, valueTime library (row column.name) = some instant → Dated instant

/-- An archive whose rows are restored to what the tables have. -/
def Carries (library : Library) (tables : Files.Tables) (archive : Archive) : Prop :=
  ∃ held, archive.tables = some held ∧ ∀ schema ∈ logicalSchema, ∃ table, held.get schema.name = some table ∧
    table.columns = columnNames schema ∧ List.Forall₂ (Represents library schema) (tables schema.name) table.rows

theorem logicalSchema_distinct : ∀ schema ∈ logicalSchema, (columnNames schema).Nodup := by
  decide

theorem carries_of_holds {library : Library} {lenient : GoString → Option Instant} (dates : library.Dates lenient)
    {tables : Files.Tables} (years : TablesDated library tables) {archive : Archive}
    (held : Files.Holds library tables archive) : Carries library tables archive := by
  obtain ⟨kept, same, each⟩ := held
  refine ⟨kept, same, fun schema member => ?_⟩
  obtain ⟨table, located, columns, rows⟩ := each schema member
  refine ⟨table, located, columns, ?_⟩
  have converted := mapM_ok rows
  rw [List.forall₂_map_left_iff] at converted
  rw [List.forall₂_iff_zip] at converted ⊢
  refine ⟨converted.1, fun {row cells} pair => ?_⟩
  exact represents_of_export dates (logicalSchema_distinct schema member) (converted.2 pair)
    (years schema member row (List.of_mem_zip pair).1)

/-! ## Texts -/

section Texts

variable {library : Library} {lenient : GoString → Option Instant}

theorem parseInt_ascii {value : GoString} {number : Int} (read : parseInt value = some number) :
    ∀ c ∈ value, c < 0x80 := by
  have digit : ∀ c : UInt8, isDigit c = true → c < 0x80 := by
    intro c digit
    simp only [isDigit, decide_eq_true_eq] at digit
    exact UInt8.lt_of_le_of_lt digit.2 (by decide)
  unfold parseInt at read
  split at read
  next negative digits parts =>
    dsimp only at read
    rw [Option.ite_none_left_eq_some] at read
    have digits_ : ∀ c ∈ digits, c < 0x80 := by
      intro c member
      have every : ¬ digits = [] ∧ ∀ c ∈ digits, isDigit c = true := by simpa using read.1
      exact digit c (every.2 c member)
    split at parts <;> cases parts
    · exact List.forall_mem_cons.mpr ⟨by decide, digits_⟩
    · exact List.forall_mem_cons.mpr ⟨by decide, digits_⟩
    · exact digits_

/-- A cell that was exported is UTF-8, where a text of the database is. -/
theorem normalizeCell_valid (dates : library.Dates lenient) {kind : ColumnKind} {value : Value} {cell : GoString}
    (normal : normalizeCell library kind value = .ok (some cell))
    (texts : kind = .text ∨ kind = .json → value ≠ .null → UTF8.valid (scalarString library value) = true) :
    UTF8.valid cell = true := by
  unfold normalizeCell at normal
  split at normal
  · cases normal
  · next given =>
    cases written : cellText library kind value with
    | error failure => rw [written] at normal; cases normal
    | ok scalar =>
        rw [written] at normal
        cases normal
        unfold cellText at written
        dsimp only at written
        cases kind with
        | text =>
            cases written
            exact texts (.inl rfl) given
        | json =>
            dsimp only at written
            split at written
            · cases written
              exact texts (.inr rfl) given
            · cases written
        | binary =>
            dsimp only at written
            split at written
            · cases written
              exact valid_of_ascii fun c member => (Base64.encode_plain _ c member).1
            · cases written
        | integer =>
            dsimp only at written
            split at written
            · cases written
            · next readable =>
                cases written
                obtain ⟨number, read⟩ := Option.ne_none_iff_exists'.mp fun none_ =>
                  readable (Option.isNone_iff_eq_none.mpr none_)
                exact valid_of_ascii (parseInt_ascii read)
        | boolean =>
            dsimp only at written
            split at written
            · next boolean =>
                cases written
                rcases isBoolean_cases boolean with same | same | same | same <;> rw [same] <;> decide
            · cases written
        | time =>
            dsimp only at written
            split at written
            · cases written
              rw [dates.writes]
              exact valid_of_ascii (formatTime_ascii _)
            · cases written

/-- What is exported of a row is UTF-8, cell by cell. -/
theorem normalizeRow_valid (dates : library.Dates lenient) {context : GoString} {columns : List ColumnSchema}
    {row : Files.Row} {cells : List (Option GoString)}
    (exported : convertRow context (normalizeCell library) columns (columns.map fun column => row column.name) = .ok cells)
    (texts : ∀ column ∈ columns, column.kind = .text ∨ column.kind = .json → row column.name ≠ .null →
      UTF8.valid (scalarString library (row column.name)) = true) :
    ∀ cell, some cell ∈ cells → UTF8.valid cell = true := by
  induction columns generalizing cells with
  | nil =>
      cases exported
      exact nofun
  | cons column columns ih =>
      rw [List.forall_mem_cons] at texts
      obtain ⟨first, rest, normal, further, rfl⟩ := convertRow_cons exported
      intro cell member
      rcases List.mem_cons.mp member with rfl | later
      · exact normalizeCell_valid dates normal texts.1
      · exact ih further texts.2 cell later

end Texts

end NodeAtlas.Backup
