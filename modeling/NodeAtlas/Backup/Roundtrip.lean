import NodeAtlas.Backup.Contents

/-! What a backup brings back: a file that was stored can be read as long as
nobody touches it, and restored anywhere it gives the contents that there were. -/

set_option autoImplicit false

namespace NodeAtlas.Backup.Files

open Interleaving

variable {library : Library} {options : Options} {db : Database} {columns : Columns}

/-! ## Restoring rows -/

/-- Each of the tables has, row by row, what its columns hold of the contents
that there were. -/
def Reproduces (library : Library) (columns : Columns) (schemas : List TableSchema) (tables after : Tables) : Prop :=
  ∀ schema ∈ schemas, ∃ rows : List Row,
    rows.map (contents library schema) = (tables schema.name).map (contents library schema) ∧
      after schema.name = rows.map (columns.holds schema.name)

section Statements

variable {state : State} {earlier : List BackupMoment}

theorem perform_insert {name : GoString} {names : List GoString} {values : List Value} {choice : Choice}
    {before after : State} {readOnly : Bool} {tables : Tables}
    (answered : perform library db columns (.insert name names values) choice before = some (.ok (), after))
    (opened : before.transaction = some ⟨readOnly, tables⟩) :
    after.transaction = some ⟨readOnly, tables.set name (tables name ++ [columns.holds name (Row.of names values)])⟩ := by
  cases choice with
  | done =>
      obtain ⟨transaction, found, same⟩ := Option.map_eq_some_iff.mp answered
      obtain rfl := Option.some.inj (opened.symm.trans found)
      cases same
      rfl
  | _ => cases answered

theorem perform_delete {name : GoString} {choice : Choice} {before after : State} {readOnly : Bool} {tables : Tables}
    (answered : perform library db columns (.delete name) choice before = some (.ok (), after))
    (opened : before.transaction = some ⟨readOnly, tables⟩) :
    after.transaction = some ⟨readOnly, tables.set name []⟩ := by
  cases choice with
  | done =>
      obtain ⟨transaction, found, same⟩ := Option.map_eq_some_iff.mp answered
      obtain rfl := Option.some.inj (opened.symm.trans found)
      cases same
      rfl
  | _ => cases answered

theorem clearTables_clears {readOnly : Bool} {tables : Tables} (names : List GoString)
    (opened : state.transaction = some ⟨readOnly, tables⟩) :
    (clearTables names).Ensures (perform library db columns) (fun _ => True)
      (fun _ result final => result = .ok () → ∃ cleared : Tables, final.transaction = some ⟨readOnly, cleared⟩ ∧
        ∀ name, cleared name = if name ∈ names then [] else tables name) earlier state := by
  induction names generalizing state tables earlier with
  | nil => exact fun _ => ⟨tables, opened, fun _ => rfl⟩
  | cons name rest ih =>
      unfold clearTables
      apply Program.Ensures.call
      intro choice reply after answered
      refine ⟨trivial, ?_⟩
      cases reply with
      | error failure => exact nofun
      | ok _ =>
          refine (ih (perform_delete answered opened)).mono (fun _ _ => trivial) ?_
          rintro _ result final cleared rfl
          obtain ⟨kept, same, each⟩ := cleared rfl
          refine ⟨kept, same, fun other => ?_⟩
          rw [each, Tables.set]
          by_cases here : other = name <;> simp [here]

theorem restoreRows_reproduces {schema : TableSchema} {sources : List Row} {cells : List (List (Option GoString))}
    (represented : List.Forall₂ (Represents library schema) sources cells) {readOnly : Bool} {tables : Tables}
    (opened : state.transaction = some ⟨readOnly, tables⟩) :
    (restoreRows library options schema cells).Ensures (perform library db columns) (fun _ => True)
      (fun _ result final => result = .ok () → ∃ rows : List Row,
        rows.map (contents library schema) = sources.map (contents library schema) ∧
          final.transaction = some ⟨readOnly, tables.set schema.name
            (tables schema.name ++ rows.map (columns.holds schema.name))⟩) earlier state := by
  induction represented generalizing state tables earlier with
  | nil =>
      refine fun _ => ⟨[], rfl, ?_⟩
      have same : tables.set schema.name (tables schema.name) = tables := by
        funext name
        rw [Tables.set]
        split <;> simp_all
      rw [List.map_nil, List.append_nil, same, opened]
  | @cons source row sources rest first _ ih =>
      obtain ⟨values, converted, alike⟩ := first.2 (text "restore " ++ schema.name) options.dialect
      unfold restoreRows
      dsimp only
      rw [converted]
      apply Program.Ensures.call
      intro choice reply after answered
      refine ⟨trivial, ?_⟩
      cases reply with
      | error failure => exact fun other => by cases other
      | ok _ =>
          refine (ih (perform_insert answered opened)).mono (fun _ _ => trivial) ?_
          rintro _ result final restored rfl
          obtain ⟨rows, same, kept⟩ := restored rfl
          refine ⟨Row.of (columnNames schema) values :: rows, ?_, ?_⟩
          · rw [List.map_cons, List.map_cons, alike, same]
          · rw [kept]
            congr 2
            funext name
            by_cases here : name = schema.name <;> simp [Tables.set, here]

theorem restoreTables_reproduces {held : GoMap TableData} {sources : Tables} (schemas : List TableSchema)
    (distinct : (schemas.map TableSchema.name).Nodup)
    (carried : ∀ schema ∈ schemas, ∃ table, held.get schema.name = some table ∧
      List.Forall₂ (Represents library schema) (sources schema.name) table.rows)
    {readOnly : Bool} {tables : Tables} (opened : state.transaction = some ⟨readOnly, tables⟩)
    (empty : ∀ schema ∈ schemas, tables schema.name = []) :
    (restoreTables library options held schemas).Ensures (perform library db columns) (fun _ => True)
      (fun _ result final => result = .ok () → ∃ filled : Tables, final.transaction = some ⟨readOnly, filled⟩ ∧
        Reproduces library columns schemas sources filled ∧
        ∀ name, name ∉ schemas.map TableSchema.name → filled name = tables name) earlier state := by
  induction schemas generalizing state tables earlier with
  | nil => exact fun _ => ⟨tables, opened, nofun, fun _ _ => rfl⟩
  | cons schema rest ih =>
      rw [List.map_cons, List.nodup_cons] at distinct
      rw [List.forall_mem_cons] at carried empty
      obtain ⟨⟨table, located, rows⟩, others⟩ := carried
      unfold restoreTables
      rw [located]
      refine (restoreRows_reproduces rows opened).bind ?_
      intro moments result between restored
      cases result with
      | error failure => exact nofun
      | ok _ =>
          obtain ⟨given, same, kept⟩ := restored rfl
          have apart : ∀ other ∈ rest, other.name ≠ schema.name := fun other member equal =>
            distinct.1 (equal ▸ List.mem_map_of_mem member)
          refine (ih distinct.2 others kept fun other member => ?_).mono (fun _ _ => trivial) ?_
          · rw [Tables.set, if_neg (apart other member)]
            exact empty.2 other member
          · rintro _ result final filled rfl
            obtain ⟨after, ended, reproduced, left⟩ := filled rfl
            refine ⟨after, ended, ?_, ?_⟩
            · refine List.forall_mem_cons.mpr ⟨⟨given, same, ?_⟩, reproduced⟩
              rw [left _ distinct.1, Tables.set, if_pos rfl, empty.1, List.nil_append]
            · intro name absent
              rw [List.map_cons, List.mem_cons, not_or] at absent
              rw [left name absent.2, Tables.set, if_neg absent.1]

theorem logicalSchema_names : (logicalSchema.map TableSchema.name).Nodup := by
  decide

theorem clearOrder_complete : ∀ schema ∈ logicalSchema, schema.name ∈ clearOrder := by
  decide

/-- A restore that succeeds leaves what the archive was made of. -/
theorem restoreSnapshot_reproduces {archive : Archive} {sources : Tables}
    (carried : Carries library sources archive) :
    (restoreSnapshot library options archive).Ensures (perform library db columns) (fun _ => True)
      (fun _ result final => result = .ok () → Reproduces library columns logicalSchema sources final.tables)
      earlier state := by
  obtain ⟨held, same, each⟩ := carried
  unfold restoreSnapshot
  split
  · exact nofun
  · apply Program.Ensures.call
    intro choice reply begun answered
    refine ⟨trivial, ?_⟩
    rcases perform_begin answered with ⟨failure, rfl, _⟩ | ⟨rfl, rfl⟩
    · exact nofun
    · rw [same]
      have replaced : (replaceTables library options held).Ensures (perform library db columns) (fun _ => True)
          (fun _ result final => result = .ok () → Reproduces library columns logicalSchema sources final.tables)
          (⟨state, ⟨.begin false, .ok ()⟩⟩ :: earlier)
          { state with transaction := some ⟨false, state.tables⟩ } := by
        unfold replaceTables
        refine (clearTables_clears clearOrder rfl).bind ?_
        intro moments result between cleared
        cases result with
        | error failure => exact nofun
        | ok _ =>
            obtain ⟨left, opened, emptied⟩ := cleared rfl
            refine (restoreTables_reproduces logicalSchema logicalSchema_names
              (fun schema member => (each schema member).imp fun _ held => ⟨held.1, held.2.2⟩) opened
              (fun schema member => by rw [emptied, if_pos (clearOrder_complete schema member)])).bind ?_
            intro moments result filled restored
            cases result with
            | error failure => exact nofun
            | ok _ =>
                obtain ⟨after, opened, reproduced, _⟩ := restored rfl
                intro choice reply closed answered
                refine ⟨trivial, ?_⟩
                obtain ⟨transaction, found, outcome⟩ := perform_commit answered
                obtain rfl := Option.some.inj (opened.symm.trans found)
                rcases outcome with ⟨failure, rfl, _⟩ | ⟨rfl, kept⟩
                · exact nofun
                · intro _
                  rw [kept]
                  exact reproduced
      refine replaced.bind ?_
      intro moments result between reproduced
      apply Program.Ensures.call
      intro choice reply after answered
      refine ⟨trivial, fun succeeded => ?_⟩
      rw [perform_tables rfl answered]
      exact reproduced succeeded

end Statements

/-! ## What is exported -/

/-- An archive of the tables as `Export` puts it together. -/
structure Formed (library : Library) (options : Options) (tables : Tables) (archive : Archive) : Prop where
  formatVersion : archive.formatVersion = currentFormatVersion
  applicationVersion : archive.applicationVersion = options.applicationVersion
  sourceDialect : archive.sourceDialect = dialectName options.dialect
  tables : ∃ manifest held, archive.manifest = some manifest ∧ archive.tables = some held ∧
    manifest.entries.map Prod.fst = logicalSchema.map TableSchema.name ∧
    held.entries.map Prod.fst = logicalSchema.map TableSchema.name ∧
    ∀ schema ∈ logicalSchema, ∃ table, held.get schema.name = some table ∧
      manifest.get schema.name = some (table.rows.length : Int) ∧ Exported library tables schema table

section Exporting

variable {state : State} {earlier : List BackupMoment}

/-- What has been exported of some tables. -/
def Gathered (library : Library) (tables : Tables) (schemas : List TableSchema) (contents : GoMap Int × GoMap TableData) :
    Prop :=
  contents.1.entries.map Prod.fst = schemas.map TableSchema.name ∧
    contents.2.entries.map Prod.fst = schemas.map TableSchema.name ∧
    ∀ schema ∈ schemas, ∃ table, contents.2.get schema.name = some table ∧
      contents.1.get schema.name = some (table.rows.length : Int) ∧ Exported library tables schema table

theorem Gathered.set {tables : Tables} {schemas : List TableSchema} {manifest : GoMap Int} {held : GoMap TableData}
    (gathered : Gathered library tables schemas (manifest, held)) {schema : TableSchema} {table : TableData}
    (fresh : schema.name ∉ schemas.map TableSchema.name) (exported : Exported library tables schema table) :
    Gathered library tables (schemas ++ [schema])
      (manifest.set schema.name table.rows.length, held.set schema.name table) := by
  obtain ⟨counts, names, each⟩ := gathered
  dsimp only at counts names each
  refine ⟨?_, ?_, fun other member => ?_⟩
  · rw [GoMap.set_fresh (by rw [counts]; exact fresh), List.map_append, counts, List.map_append]
    rfl
  · rw [GoMap.set_fresh (by rw [names]; exact fresh), List.map_append, names, List.map_append]
    rfl
  · rcases List.mem_append.mp member with before | last
    · obtain ⟨found, located, counted, exported_⟩ := each other before
      have apart : ¬ other.name = schema.name := fun same => fresh (same ▸ List.mem_map_of_mem before)
      refine ⟨found, ?_, ?_, exported_⟩
      · rw [GoMap.get_set, if_neg apart, located]
      · rw [GoMap.get_set, if_neg apart, counted]
    · obtain rfl := List.mem_singleton.mp last
      refine ⟨table, ?_, ?_, exported⟩
      · rw [GoMap.get_set, if_pos rfl]
      · rw [GoMap.get_set, if_pos rfl]

theorem exportTables_gathers {transaction : Transaction} (opened : state.transaction = some transaction)
    (before schemas : List TableSchema) (distinct : ((before ++ schemas).map TableSchema.name).Nodup)
    {manifest : GoMap Int} {held : GoMap TableData}
    (gathered : Gathered library transaction.tables before (manifest, held)) :
    (exportTables library manifest held schemas).Ensures (perform library db columns) (fun _ => True)
      (fun _ result final => final = state ∧ ∀ contents, result = .ok contents →
        Gathered library transaction.tables (before ++ schemas) contents) earlier state := by
  induction schemas generalizing before manifest held earlier with
  | nil =>
      refine ⟨rfl, ?_⟩
      rintro _ ⟨⟩
      rwa [List.append_nil]
  | cons schema rest ih =>
      unfold exportTables
      refine ((exportTable_ensures opened schema).mono (fun _ _ => trivial) (fun _ _ _ both => both)).bind ?_
      rintro moments result between ⟨rfl, exported⟩
      cases result with
      | error failure => exact ⟨rfl, fun _ other => by cases other⟩
      | ok table =>
          have fresh : schema.name ∉ before.map TableSchema.name := by
            rw [List.map_append, List.map_cons, List.nodup_append] at distinct
            exact fun member => distinct.2.2 _ member _ List.mem_cons_self rfl
          have moved : before ++ schema :: rest = (before ++ [schema]) ++ rest := by simp
          rw [moved] at distinct ⊢
          exact ih _ distinct (gathered.set fresh (exported table rfl))

/-- A snapshot has the form that the reading side asks for. -/
theorem exportSnapshot_forms :
    (exportSnapshot library options).Ensures (perform library db columns) (fun _ => True)
      (fun _ result _ => ∀ archive, result = .ok archive → Formed library options state.tables archive)
      earlier state := by
  unfold exportSnapshot
  apply Program.Ensures.call
  intro choice createdAt started answered
  have same : started.tables = state.tables := perform_tables rfl answered
  refine ⟨trivial, ?_⟩
  apply Program.Ensures.call
  intro choice reply begun answered
  refine ⟨trivial, ?_⟩
  rcases perform_begin answered with ⟨failure, rfl, rfl⟩ | ⟨rfl, rfl⟩
  · exact nofun
  · dsimp only
    have archived : (exportArchive library options createdAt).Ensures (perform library db columns) (fun _ => True)
        (fun _ result _ => ∀ archive, result = .ok archive → Formed library options state.tables archive)
        (⟨started, ⟨.begin true, .ok ()⟩⟩ :: ⟨state, ⟨.now, createdAt⟩⟩ :: earlier)
        { started with transaction := some ⟨true, started.tables⟩ } := by
      unfold exportArchive
      refine (exportTables_gathers rfl [] logicalSchema logicalSchema_names ⟨rfl, rfl, nofun⟩).bind ?_
      rintro moments result between ⟨rfl, exported⟩
      cases result with
      | error failure => exact nofun
      | ok contents =>
          apply Program.Ensures.call
          intro choice reply closed answered
          refine ⟨trivial, ?_⟩
          cases reply with
          | error failure => exact nofun
          | ok _ =>
              rintro _ ⟨⟩
              obtain ⟨counts, names, each⟩ := exported contents rfl
              rw [← same]
              exact ⟨rfl, rfl, rfl, contents.1, contents.2, rfl, rfl, counts, names, each⟩
    refine archived.bind ?_
    intro moments result between formed
    apply Program.Ensures.call
    intro choice reply after answered
    exact ⟨trivial, formed⟩

end Exporting

/-! ## What is read -/

/-- The functions of other packages do what they are documented to do: times and
JSON are written and read as the language's library does it, and AES-GCM opens
what it sealed and has a tag of 16 bytes. -/
structure Standard (library : Library) (lenient : GoString → Option Instant) : Prop where
  dates : library.Dates lenient
  marshals : library.marshalArchive = Archive.marshal
  unmarshals : library.unmarshalArchive = unmarshalArchive lenient
  writesEnvelopes : library.marshalEnvelope = Envelope.marshal
  readsEnvelopes : library.decodeEnvelope = decodeEnvelope
  opens : ∀ key nonce plaintext data,
    library.gcm.open_ key nonce (library.gcm.seal_ key nonce plaintext data) data = some plaintext
  tagged : ∀ key nonce plaintext data, 16 ≤ (library.gcm.seal_ key nonce plaintext data).length

/-- The texts of the tables are UTF-8 and their times of years of four digits;
no table has more rows than an `int` can count. -/
structure Legible (library : Library) (tables : Tables) : Prop where
  texts : ∀ schema ∈ logicalSchema, ∀ row ∈ tables schema.name, ∀ column ∈ schema.columns,
    column.kind = .text ∨ column.kind = .json → row column.name ≠ .null →
      UTF8.valid (scalarString library (row column.name)) = true
  years : TablesDated library tables
  counted : ∀ schema ∈ logicalSchema, (tables schema.name).length < 2 ^ 63

section Opening

variable {lenient : GoString → Option Instant} {tables : Tables} {archive : Archive}

theorem schema_named {name : GoString} (member : name ∈ logicalSchema.map TableSchema.name) :
    ∃ schema ∈ logicalSchema, schema.name = name :=
  List.mem_map.mp member

theorem Exported.rows {schema : TableSchema} {table : TableData} (exported : Exported library tables schema table) :
    List.Forall₂ (fun row cells => convertRow (text "export " ++ schema.name) (normalizeCell library) schema.columns
      (schema.columns.map fun column => row column.name) = .ok cells) (tables schema.name) table.rows := by
  have converted := mapM_ok exported.2
  rwa [List.forall₂_map_left_iff] at converted

theorem exported_written (dates : library.Dates lenient) (legible : Legible library tables) {schema : TableSchema}
    (listed : schema ∈ logicalSchema) {table : TableData} (exported : Exported library tables schema table) :
    table.Written := by
  have names : ∀ schema ∈ logicalSchema, ∀ column ∈ columnNames schema, UTF8.valid column = true := by decide +kernel
  constructor
  · rw [exported.1]
    exact names schema listed
  · intro cells member cell among
    have each := exported.rows
    rw [List.forall₂_iff_zip] at each
    obtain ⟨index, inside, rfl⟩ := List.mem_iff_getElem.mp member
    have inside_ : index < (tables schema.name).length := each.1 ▸ inside
    have paired : ((tables schema.name)[index], table.rows[index]) ∈ (tables schema.name).zip table.rows := by
      have within_ : index < ((tables schema.name).zip table.rows).length := by simp [inside, inside_]
      have same : ((tables schema.name).zip table.rows)[index] = ((tables schema.name)[index], table.rows[index]) :=
        List.getElem_zip
      rw [← same]
      exact List.getElem_mem _
    exact normalizeRow_valid dates (each.2 paired) (legible.texts schema listed _ (List.getElem_mem _)) cell among

theorem Formed.written (formed : Formed library options tables archive) (dates : library.Dates lenient)
    (legible : Legible library tables) (version : UTF8.valid options.applicationVersion = true) : archive.Written := by
  have names : ∀ schema ∈ logicalSchema, UTF8.valid schema.name = true := by decide +kernel
  have dialects : ∀ dialect, UTF8.valid (dialectName dialect) = true := by
    intro dialect
    cases dialect <;> decide
  obtain ⟨manifest, held, counts, contents, countNames, names_, each⟩ := formed.tables
  refine ⟨?_, ?_, ?_, ?_, ?_⟩
  · rw [formed.formatVersion]
    exact ⟨by decide, by decide⟩
  · rw [formed.applicationVersion]
    exact version
  · rw [formed.sourceDialect]
    exact dialects _
  · intro map same entry member
    obtain rfl := Option.some.inj (counts.symm.trans same)
    obtain ⟨schema, listed, named⟩ := schema_named (countNames ▸ List.mem_map_of_mem member)
    obtain ⟨table, _, counted, exported⟩ := each schema listed
    have found := GoMap.get_eq_some.mpr (show (entry.1, entry.2) ∈ manifest.entries from member)
    rw [← named, counted] at found
    refine ⟨named ▸ names schema listed, ?_⟩
    have few := legible.counted schema listed
    rw [exported.rows.length_eq] at few
    rw [← Option.some.inj found]
    exact ⟨by omega, by omega⟩
  · intro map same entry member
    obtain rfl := Option.some.inj (contents.symm.trans same)
    obtain ⟨schema, listed, named⟩ := schema_named (names_ ▸ List.mem_map_of_mem member)
    obtain ⟨table, located, _, exported⟩ := each schema listed
    have found := GoMap.get_eq_some.mpr (show (entry.1, entry.2) ∈ held.entries from member)
    rw [← named, located] at found
    rw [← Option.some.inj found]
    exact ⟨named ▸ names schema listed, exported_written dates legible listed exported⟩

theorem Formed.holds (formed : Formed library options tables archive) : Holds library tables archive := by
  obtain ⟨manifest, held, _, contents, _, _, each⟩ := formed.tables
  refine ⟨held, contents, fun schema listed => ?_⟩
  obtain ⟨table, located, _, exported⟩ := each schema listed
  exact ⟨table, located, exported⟩

theorem represents_row {sources : List Row} {schema : TableSchema} {rows : List (List (Option GoString))}
    (represented : List.Forall₂ (Represents library schema) sources rows) :
    ∀ row ∈ rows, ∃ source, Represents library schema source row := by
  induction represented with
  | nil => exact nofun
  | @cons source row _ _ first _ ih =>
      intro other member
      rcases List.mem_cons.mp member with rfl | later
      · exact ⟨source, first⟩
      · exact ih other later

/-- What was exported is accepted as a logical archive. -/
theorem Formed.valid (formed : Formed library options tables archive) (dates : library.Dates lenient)
    (years : TablesDated library tables) (checked : archive.validateEnvelopeManifest = .ok ()) :
    validateLogicalArchive library archive = .ok () := by
  obtain ⟨manifest, held, counts, contents, _, names, each⟩ := formed.tables
  obtain ⟨held_, same, carried⟩ := carries_of_holds dates years formed.holds
  obtain rfl := Option.some.inj (contents.symm.trans same)
  have size : held.entries.length = logicalSchema.length := by
    have lengths := congrArg List.length names
    rwa [List.length_map, List.length_map] at lengths
  have fits : logicalSchema.all (tableFits library manifest held) = true := by
    rw [List.all_eq_true]
    intro schema listed
    obtain ⟨table, located, counted, _⟩ := each schema listed
    obtain ⟨table_, located_, columns, rows⟩ := carried schema listed
    obtain rfl := Option.some.inj (located.symm.trans located_)
    have restores : table.rows.all (rowRestores library schema) = true := by
      rw [List.all_eq_true]
      intro row member
      obtain ⟨source, sized, converts⟩ := represents_row rows row member
      obtain ⟨values, converted, _⟩ := converts [] .sqlite
      simp [rowRestores, sized, converted, Except.isOk, Except.toBool]
    simp [tableFits, located, counted, columns, restores]
  unfold validateLogicalArchive
  rw [checked, counts, contents]
  simp [size, fits]

theorem carries_alike {read : Archive} (carried : Carries library tables archive) (alike : read.Alike archive) :
    Carries library tables read := by
  obtain ⟨held, contents, each⟩ := carried
  have maps := alike.tables
  rw [contents] at maps
  cases found : read.tables with
  | none => rw [found] at maps; cases maps
  | some map =>
      rw [found] at maps
      cases maps with
      | some order =>
          refine ⟨map, found, fun schema listed => ?_⟩
          rw [GoMap.get_perm order]
          exact each schema listed

/-- A file that was sealed can be opened with the passphrase. -/
theorem openArchive_sealText (standard : Standard library lenient) (written : archive.Written)
    {plaintext passphrase salt nonce : GoString} (accepted : sealable library archive passphrase = .ok plaintext)
    (salted : salt.length = 16) (once : nonce.length = 12)
    (small : (sealText library plaintext passphrase salt nonce).length ≤ sizeLimit) :
    archive.validateEnvelopeManifest = .ok () ∧ ∃ read,
      openArchive library (sealText library plaintext passphrase salt nonce) passphrase = .ok read ∧
        read.Alike archive := by
  unfold sealable at accepted
  split at accepted
  · cases accepted
  · next checked =>
    split at accepted
    · cases accepted
    · next lengths =>
      split at accepted
      · cases accepted
      · next marshaled =>
        cases accepted
        rw [standard.marshals] at marshaled
        obtain ⟨read, unmarshaled, alike⟩ := unmarshalArchive_marshal lenient written marshaled
        have supported : ∀ ciphertext : GoString, 16 ≤ ciphertext.length →
            (⟨envelopeMagic, currentFormatVersion, text "scrypt", scryptN, scryptR, scryptP, salt, nonce, ciphertext⟩ :
              Envelope).supported = true := by
          intro ciphertext tagged
          simp [Envelope.supported, salted, once, tagged]
        have decoded : ∀ ciphertext : GoString, decodeEnvelope (Envelope.marshal
            ⟨envelopeMagic, currentFormatVersion, text "scrypt", scryptN, scryptR, scryptP, salt, nonce, ciphertext⟩) =
              some ⟨envelopeMagic, currentFormatVersion, text "scrypt", scryptN, scryptR, scryptP, salt, nonce,
                ciphertext⟩ := by
          intro ciphertext
          exact decodeEnvelope_marshal ⟨show UTF8.valid envelopeMagic = true by decide,
            show Fits currentFormatVersion from ⟨by decide, by decide⟩, show UTF8.valid (text "scrypt") = true by decide,
            show Fits scryptN from ⟨by decide, by decide⟩, show Fits scryptR from ⟨by decide, by decide⟩,
            show Fits scryptP from ⟨by decide, by decide⟩⟩
        have some_ : (sealText library plaintext passphrase salt nonce).length ≠ 0 := by
          rw [sealText, standard.writesEnvelopes]
          simp [Envelope.marshal, JSON.object]
        have fits : ¬ (passphrase.length < 1 || (sealText library plaintext passphrase salt nonce).length = 0 ||
            (sealText library plaintext passphrase salt nonce).length > sizeLimit) = true := by
          simp only [Bool.or_eq_true, decide_eq_true_eq, not_or] at lengths ⊢
          omega
        refine ⟨checked, read, ?_, alike⟩
        unfold openArchive
        dsimp only
        rw [if_neg fits, sealText, standard.writesEnvelopes, standard.readsEnvelopes, decoded]
        dsimp only
        rw [supported _ (standard.tagged _ _ _ _), if_neg (by decide), standard.opens]
        dsimp only
        rw [standard.unmarshals, unmarshaled]
        dsimp only
        rw [alike.valid, checked]

end Opening

/-! ## Files that nobody touches -/

/-- The bytes are an archive of these tables, sealed with the passphrase, and the
metadata is theirs. -/
def Made (library : Library) (options : Options) (tables : Tables) (passphrase : GoString) (kind : Kind)
    (metadata : Metadata) (data : GoString) : Prop :=
  ∃ archive plaintext salt nonce, Formed library options tables archive ∧
    sealable library archive passphrase = .ok plaintext ∧ salt.length = 16 ∧ nonce.length = 12 ∧
    data = sealText library plaintext passphrase salt nonce ∧
    metadata = metadataOf library archive data metadata.id kind metadata.createdAt

/-- The row and the file of a backup are there as they were stored. -/
def Untouched (db : Database) (metadata : Metadata) (data : GoString) (state : State) : Prop :=
  (state.backups.find? fun row => db.same row.id metadata.id) =
      some { metadata with createdAt := db.stamp metadata.createdAt } ∧
    state.files.get metadata.filename = some data

section Storing

variable {state : State} {earlier : List BackupMoment}

theorem perform_create_found {metadata : Metadata} {choice : Choice} {before after : State}
    (answered : perform library db columns (.create metadata) choice before = some (.ok (), after)) :
    (after.backups.find? fun row => db.same row.id metadata.id) =
      some { metadata with createdAt := db.stamp metadata.createdAt } := by
  cases choice with
  | done =>
      unfold perform at answered
      dsimp only at answered
      split at answered
      · cases answered
      · next unknown =>
        cases answered
        have absent : (before.backups.find? fun row => db.same row.id metadata.id) = none := by
          simpa using unknown
        have first : db.same metadata.id metadata.id = true := by simp [Database.same]
        rw [List.find?_append, absent, Option.none_or]
        simp [first]
  | _ => cases answered

theorem storeBackup_stores {archive : Archive} {data : GoString} {kind : Kind} (requestID sourceIP : GoString) :
    (storeBackup library archive data kind requestID sourceIP).Ensures (perform library db columns) (fun _ => True)
      (fun _ result final => ∀ metadata, result = .ok metadata →
        metadata = metadataOf library archive data metadata.id kind metadata.createdAt ∧
          Untouched db metadata data final) earlier state := by
  unfold storeBackup
  apply Program.Ensures.call
  intro choice id named answered
  refine ⟨trivial, ?_⟩
  apply Program.Ensures.call
  intro choice createdAt timed answered
  refine ⟨trivial, ?_⟩
  have apart : ∀ value, filenameOf library createdAt id ≠ temporaryName value := fun value same =>
    temporaryName_ne value createdAt id same.symm
  refine (writeFile_ensures data apart).bind ?_
  intro moments result written filled
  cases result with
  | error failure => exact nofun
  | ok _ =>
      apply Program.Ensures.call
      intro choice reply created answered
      refine ⟨trivial, ?_⟩
      cases reply with
      | error failure =>
          apply Program.Ensures.call
          intro choice reply removed answered
          exact ⟨trivial, nofun⟩
      | ok _ =>
          have found := perform_create_found answered
          obtain ⟨files, _⟩ := perform_create answered
          refine ((appendAudit_ensures _ id requestID sourceIP _).mono (fun _ _ => trivial) (fun _ _ _ both => both)).bind ?_
          rintro moments result final ⟨stored, _⟩
          cases result with
          | error failure => exact nofun
          | ok _ =>
              rintro _ ⟨⟩
              obtain ⟨backups, kept⟩ := Prod.mk.inj stored
              refine ⟨rfl, ?_, ?_⟩
              · rw [backups]
                exact found
              · rw [kept, files]
                exact filled rfl

theorem createLocked_stores (passphrase : GoString) (kind : Kind) (requestID sourceIP : GoString) :
    (createLocked library options passphrase kind requestID sourceIP).Ensures (perform library db columns) (fun _ => True)
      (fun _ result final => ∀ metadata, result = .ok metadata → ∃ data,
        Made library options state.tables passphrase kind metadata data ∧ Untouched db metadata data final)
      earlier state := by
  unfold createLocked
  refine exportSnapshot_forms.bind ?_
  intro moments result exported formed
  cases result with
  | error failure => exact nofun
  | ok archive =>
      have sealed_ : (sealArchive library archive passphrase).Ensures (perform library db columns) (fun _ => True)
          (fun _ result _ => ∀ data, result = .ok data → ∃ plaintext salt nonce,
            sealable library archive passphrase = .ok plaintext ∧ salt.length = 16 ∧ nonce.length = 12 ∧
              data = sealText library plaintext passphrase salt nonce) moments exported := by
        unfold sealArchive
        split
        · exact nofun
        · next plaintext accepted =>
          apply Program.Ensures.call
          intro choice salt after answered
          refine ⟨trivial, ?_⟩
          cases salt with
          | error failure => exact nofun
          | ok salt =>
              apply Program.Ensures.call
              intro choice nonce after answered
              refine ⟨trivial, ?_⟩
              cases nonce with
              | error failure => exact nofun
              | ok nonce =>
                  rintro _ ⟨⟩
                  exact ⟨plaintext, salt, nonce, accepted, salt.property, nonce.property, rfl⟩
      refine sealed_.bind ?_
      intro moments result between made
      cases result with
      | error failure => exact nofun
      | ok data =>
          obtain ⟨plaintext, salt, nonce, accepted, salted, once, whole⟩ := made data rfl
          refine (storeBackup_stores requestID sourceIP).mono (fun _ _ => trivial) ?_
          intro _ result final stored metadata succeeded
          obtain ⟨described, untouched⟩ := stored metadata succeeded
          exact ⟨data, ⟨archive, plaintext, salt, nonce, formed archive rfl, accepted, salted, once, whole, described⟩,
            untouched⟩

theorem create_stores (passphrase : GoString) (kind : Kind) (requestID sourceIP : GoString) :
    (create library options passphrase kind requestID sourceIP).Ensures (perform library db columns) (fun _ => True)
      (fun _ result final => ∀ metadata, result = .ok metadata → ∃ data,
        Made library options state.tables passphrase kind metadata data ∧ Untouched db metadata data final)
      earlier state := by
  unfold create
  apply Program.Ensures.call
  intro choice reply locked answered
  have same : locked.tables = state.tables := perform_tables rfl answered
  refine ⟨trivial, ?_⟩
  rw [← same]
  refine (createLocked_stores passphrase kind requestID sourceIP).bind ?_
  intro moments outcome between made
  apply Program.Ensures.call
  intro choice reply after answered
  obtain ⟨backups, files⟩ := Prod.mk.inj (perform_stored rfl answered)
  refine ⟨trivial, fun metadata succeeded => ?_⟩
  obtain ⟨data, sealed_, found, kept⟩ := made metadata succeeded
  refine ⟨data, sealed_, ?_, ?_⟩
  · rw [backups]
    exact found
  · rw [files]
    exact kept

theorem create_made {passphrase : GoString} {kind : Kind} {requestID sourceIP : GoString} {choices : List Choice}
    {metadata : Metadata} {final : State}
    (ran : (create library options passphrase kind requestID sourceIP).run (perform library db columns) choices state =
      some (.ok metadata, final)) :
    ∃ data, Made library options state.tables passphrase kind metadata data ∧ Untouched db metadata data final := by
  have stores : (create library options passphrase kind requestID sourceIP).Ensures (perform library db columns)
      (fun _ => True) _ [] state := create_stores passphrase kind requestID sourceIP
  obtain ⟨_, stored⟩ := stores.run ran
  exact stored metadata rfl

end Storing

section Reading

variable {lenient : GoString → Option Instant} {tables : Tables} {passphrase : GoString} {kind : Kind}
  {metadata : Metadata} {data : GoString}

/-- What was made of legible tables is read back as a logical archive of them. -/
theorem openLogical_made (standard : Standard library lenient) (legible : Legible library tables)
    (version : UTF8.valid options.applicationVersion = true)
    (made : Made library options tables passphrase kind metadata data) (small : data.length ≤ sizeLimit) :
    ∃ archive read, Formed library options tables archive ∧ read.Alike archive ∧
      openLogical library data passphrase = .ok read := by
  obtain ⟨archive, plaintext, salt, nonce, formed, accepted, salted, once, rfl, _⟩ := made
  have written := formed.written standard.dates legible version
  obtain ⟨checked, read, opened, alike⟩ := openArchive_sealText standard written accepted salted once small
  refine ⟨archive, read, formed, alike, ?_⟩
  rw [openLogical, opened]
  dsimp only
  rw [alike.validateLogical, formed.valid standard.dates legible.years checked]

theorem scanMetadata_dated (standard : Standard library lenient) {row : Metadata} (year : Dated row.createdAt) :
    scanMetadata library row = .ok row := by
  have read : parseLayouts library (library.formatTime row.createdAt) = some row.createdAt := by
    simp [parseLayouts, standard.dates.read_back year]
  rw [scanMetadata, read]

theorem equalFold_refl (value : GoString) : equalFold value value = true := by
  simp [equalFold]

theorem run_bind_call {α β : Type} {request : Call} {first : request.Reply → Process α} {next : α → Process β}
    {choice : Choice} {reply : request.Reply} {before after : State} (choices : List Choice)
    (answered : perform library db columns request choice before = some (reply, after)) :
    ((call request >>= first) >>= next).run (perform library db columns) (choice :: choices) before =
      (first reply >>= next).run (perform library db columns) choices after := by
  have step : ((call request >>= first) >>= next) = .call request fun reply => first reply >>= next := rfl
  rw [step, Program.run, answered]

/-- The three calls of `readVerified` about an untouched backup, none of which
fails. -/
theorem run_readVerified {α : Type} (standard : Standard library lenient)
    (made : Made library options tables passphrase kind metadata data) (year : Dated (db.stamp metadata.createdAt))
    (flat : byte '/' ∉ metadata.filename) {state : State} (untouched : Untouched db metadata data state)
    (next : Except GoError (Metadata × GoString) → Process α) (choices : List Choice) :
    (readVerified metadata.id >>= next).run (perform library db columns) (.done :: .done :: .done :: choices) state =
      (next (if data.length ≤ sizeLimit then
          .ok ({ metadata with createdAt := db.stamp metadata.createdAt }, data)
        else .error (.sentinel .invalidBackup))).run (perform library db columns) choices state := by
  obtain ⟨archive, plaintext, salt, nonce, _, _, _, _, _, described⟩ := made
  have named : metadata.filename = filenameOf library metadata.createdAt metadata.id := by
    rw [described]
    rfl
  have hashed : metadata.sha256 = hexEncode (sha256 data) := by
    rw [described]
    rfl
  have sized : metadata.sizeBytes = (data.length : Int) := by
    rw [described]
    rfl
  have proper : properFilename metadata.filename = true := by
    have some_ : metadata.filename ≠ [] := by
      rw [named, filenameOf]
      simp [suffix, text]
    have ends : suffix.isSuffixOf metadata.filename = true := by
      rw [named, filenameOf, List.isSuffixOf_iff_suffix]
      exact List.suffix_append _ _
    simp [properFilename, some_, ends, flat]
  obtain ⟨found, held⟩ := untouched
  have scanned : perform library db columns (.findByID metadata.id) .done state =
      some (.ok { metadata with createdAt := db.stamp metadata.createdAt }, state) := by
    have whole : scanMetadata library { metadata with createdAt := db.stamp metadata.createdAt } =
        .ok { metadata with createdAt := db.stamp metadata.createdAt } := scanMetadata_dated standard year
    unfold perform
    dsimp only
    rw [found]
    dsimp only
    rw [whole]
  have opened : perform library db columns (.openFile metadata.filename) .done state = some (.ok (), state) := by
    unfold perform
    dsimp only
    rw [held]
    rfl
  have read : perform library db columns (.readAll metadata.filename (sizeLimit + 1)) .done state =
      some (.ok (data.take (sizeLimit + 1)), state) := by
    unfold perform
    dsimp only
    rw [held]
    rfl
  unfold readVerified
  rw [run_bind_call _ scanned]
  dsimp only
  rw [proper, if_neg (by decide), run_bind_call _ opened]
  dsimp only
  rw [run_bind_call _ read]
  dsimp only
  by_cases small : data.length ≤ sizeLimit
  · have whole : data.take (sizeLimit + 1) = data := List.take_of_length_le (by omega)
    have short : ¬ data.length > sizeLimit := by omega
    rw [whole, if_neg short, hashed, sized, equalFold_refl, if_pos small]
    simp
  · have long : (data.take (sizeLimit + 1)).length > sizeLimit := by
      rw [List.length_take]
      omega
    rw [if_pos long, if_neg small]
    rfl

/-- What `readVerified` gives of an untouched backup is its bytes. -/
theorem readVerified_reads {state : State} {earlier : List BackupMoment} (untouched : Untouched db metadata data state) :
    (readVerified metadata.id).Ensures (perform library db columns) (fun _ => True)
      (fun _ result _ => ∀ pair, result = .ok pair → pair.2 = data ∧ data.length ≤ sizeLimit) earlier state := by
  obtain ⟨found, held⟩ := untouched
  unfold readVerified
  apply Program.Ensures.call
  intro choice reply looked answered
  obtain rfl := perform_still rfl answered
  refine ⟨trivial, ?_⟩
  cases reply with
  | error failure => exact nofun
  | ok row =>
      have named : row.filename = metadata.filename := by
        cases choice with
        | done =>
            unfold perform at answered
            dsimp only at answered
            rw [found] at answered
            dsimp only at answered
            unfold scanMetadata at answered
            split at answered
            · cases answered
              rfl
            · cases answered
        | _ => cases answered
      dsimp only
      split
      · exact nofun
      · apply Program.Ensures.call
        intro choice reply opened answered
        obtain rfl := perform_still rfl answered
        refine ⟨trivial, ?_⟩
        cases reply with
        | error failure => exact nofun
        | ok _ =>
            apply Program.Ensures.call
            intro choice reply after answered
            refine ⟨trivial, ?_⟩
            cases reply with
            | error failure => exact nofun
            | ok bytes =>
                have taken : bytes = data.take (sizeLimit + 1) := by
                  cases choice with
                  | done =>
                      obtain ⟨whole, located, same⟩ := Option.map_eq_some_iff.mp answered
                      rw [named, held] at located
                      cases located
                      cases same
                      rfl
                  | _ => cases answered
                dsimp only
                split
                · exact nofun
                · next short =>
                  split
                  · exact nofun
                  · rintro _ ⟨⟩
                    have few : data.length ≤ sizeLimit := by
                      rw [taken, List.length_take] at short
                      omega
                    refine ⟨?_, few⟩
                    rw [taken]
                    exact List.take_of_length_le (by omega)

theorem restoreLocked_reproduces (standard : Standard library lenient) (legible : Legible library tables)
    (version : UTF8.valid options.applicationVersion = true)
    (made : Made library options tables passphrase kind metadata data) {target : Options} {state : State}
    {earlier : List BackupMoment} (untouched : Untouched db metadata data state) (requestID sourceIP : GoString) :
    (restoreLocked library target metadata.id passphrase requestID sourceIP).Ensures (perform library db columns)
      (fun _ => True) (fun _ result final => result = .ok () → ∃ restored,
        Reproduces library columns logicalSchema tables restored ∧
          ∃ entry, entry.eventType = text "backup_restored" ∧ final.tables = appended library db columns entry restored)
      earlier state := by
  unfold restoreLocked
  refine (readVerified_reads untouched).bind ?_
  intro moments result between read
  cases result with
  | error failure => exact nofun
  | ok pair =>
      obtain ⟨bytes, small⟩ := read pair rfl
      obtain ⟨archive, reading, formed, alike, opened⟩ := openLogical_made standard legible version made small
      have carried := carries_alike (carries_of_holds standard.dates legible.years formed.holds) alike
      dsimp only
      rw [bytes, opened]
      have replaced : (replaceData library target reading passphrase requestID sourceIP).Ensures
          (perform library db columns) (fun _ => True)
          (fun _ result final => result = .ok () → Reproduces library columns logicalSchema tables final.tables)
          moments between := by
        unfold replaceData
        refine ((createLocked_stores passphrase .safety requestID sourceIP).mono (fun _ _ => trivial)
          (fun _ _ _ both => both)).bind ?_
        intro moments result safe _
        cases result with
        | error failure => exact nofun
        | ok _ => exact restoreSnapshot_reproduces carried
      refine replaced.bind ?_
      intro moments result filled reproduced
      cases result with
      | error failure => exact nofun
      | ok _ =>
          refine (appendAudit_ensures (text "backup_restored") _ requestID sourceIP _).mono (fun _ _ => trivial) ?_
          rintro _ result final ⟨_, _, logged⟩ succeeded
          exact ⟨filled.tables, reproduced rfl, logged succeeded⟩

end Reading

/-! ## Restores in which nothing fails -/

section Completing

variable {base state : State}

/-- Only the tables of a transaction that writes have changed. -/
def Edited (base state : State) : Prop := ∃ tables, state = { base with transaction := some ⟨false, tables⟩ }

theorem clearTables_allowed (names : List GoString) (edited : Edited base state) :
    (clearTables names).Allows (perform library db columns) (fun result final => result = .ok () ∧ Edited base final)
      state := by
  induction names generalizing state with
  | nil => exact ⟨rfl, edited⟩
  | cons name rest ih =>
      obtain ⟨tables, rfl⟩ := edited
      unfold clearTables
      exact .call .done rfl (ih ⟨_, rfl⟩)

theorem restoreRows_allowed {schema : TableSchema} {sources : List Row} {cells : List (List (Option GoString))}
    (represented : List.Forall₂ (Represents library schema) sources cells) (edited : Edited base state) :
    (restoreRows library options schema cells).Allows (perform library db columns)
      (fun result final => result = .ok () ∧ Edited base final) state := by
  induction represented generalizing state with
  | nil => exact ⟨rfl, edited⟩
  | cons first _ ih =>
      obtain ⟨values, converted, _⟩ := first.2 (text "restore " ++ schema.name) options.dialect
      obtain ⟨tables, rfl⟩ := edited
      unfold restoreRows
      dsimp only
      rw [converted]
      exact .call .done rfl (ih ⟨_, rfl⟩)

theorem restoreTables_allowed {held : GoMap TableData} {sources : Tables} (schemas : List TableSchema)
    (carried : ∀ schema ∈ schemas, ∃ table, held.get schema.name = some table ∧
      List.Forall₂ (Represents library schema) (sources schema.name) table.rows) (edited : Edited base state) :
    (restoreTables library options held schemas).Allows (perform library db columns)
      (fun result final => result = .ok () ∧ Edited base final) state := by
  induction schemas generalizing state with
  | nil => exact ⟨rfl, edited⟩
  | cons schema rest ih =>
      rw [List.forall_mem_cons] at carried
      obtain ⟨⟨table, located, rows⟩, others⟩ := carried
      unfold restoreTables
      rw [located]
      refine (restoreRows_allowed rows edited).bind ?_
      rintro _ between ⟨rfl, more⟩
      exact ih others more

theorem restoreSnapshot_allowed {archive : Archive} {sources : Tables} (carried : Carries library sources archive)
    (valid : validateLogicalArchive library archive = .ok ()) (idle : state.transaction = none) :
    (restoreSnapshot library options archive).Allows (perform library db columns)
      (fun result final => result = .ok () ∧ final.stored = state.stored) state := by
  obtain ⟨held, same, each⟩ := carried
  have begun : perform library db columns (.begin false) .done state =
      some (.ok (), { state with transaction := some ⟨false, state.tables⟩ }) := by
    simp [perform, idle]
  unfold restoreSnapshot
  rw [valid, same]
  refine .call .done begun ?_
  have replaced : (replaceTables library options held).Allows (perform library db columns)
      (fun result final => result = .ok () ∧ final.stored = state.stored)
      { state with transaction := some ⟨false, state.tables⟩ } := by
    unfold replaceTables
    refine (clearTables_allowed clearOrder ⟨_, rfl⟩).bind ?_
    rintro _ cleared ⟨rfl, edited⟩
    refine (restoreTables_allowed logicalSchema
      (fun schema member => (each schema member).imp fun _ held => ⟨held.1, held.2.2⟩) edited).bind ?_
    rintro _ filled ⟨rfl, tables, rfl⟩
    exact ⟨.done, .ok (), _, rfl, rfl, rfl⟩
  refine replaced.bind ?_
  rintro _ between ⟨rfl, kept⟩
  exact .call .done rfl ⟨rfl, kept⟩

/-- There is an identifier for one more audit entry. -/
def Nameable (library : Library) (db : Database) (tables : Tables) (state : State) : Prop :=
  ∃ id, unused db id state = true ∧
    ∀ row ∈ tables auditTable, db.same (scalarString library (row (text "id"))) id = false

theorem appendAudit_allowed (eventType targetID requestID sourceIP : GoString) (metadata : JSONMap)
    (nameable : Nameable library db state.tables state) :
    (appendAudit eventType targetID requestID sourceIP metadata).Allows (perform library db columns)
      (fun result _ => result = .ok ()) state := by
  obtain ⟨id, free, apart⟩ := nameable
  have named : perform library db columns .newID (.identifier id) state = some (id, state) := by
    simp [perform, free]
  have absent : ((state.tables auditTable).any fun row =>
      db.same (scalarString library (row (text "id"))) id) = false := by
    rw [List.any_eq_false]
    intro row member
    rw [apart row member]
    decide
  have written : ∀ entry : AuditLog.Entry, entry.id = id → perform library db columns (.append entry) .done state =
      some (.ok (), { state with tables := appended library db columns entry state.tables }) := by
    rintro entry rfl
    unfold perform
    dsimp only
    rw [absent]
    rfl
  exact .call (.identifier id) named (.call (.instant 0) rfl ⟨.done, .ok (), _, written _ rfl, rfl⟩)

variable {lenient : GoString → Option Instant} {tables : Tables} {passphrase : GoString} {kind : Kind}
  {metadata : Metadata} {data : GoString}

/-- A restore of the backup can succeed where no work is active, the safety backup
can be made, and an identifier is left for the audit entry. -/
theorem restore_allowed (standard : Standard library lenient) (legible : Legible library tables)
    (version : UTF8.valid options.applicationVersion = true)
    (made : Made library options tables passphrase kind metadata data) (year : Dated (db.stamp metadata.createdAt))
    (flat : byte '/' ∉ metadata.filename) (small : data.length ≤ sizeLimit) {target : Options}
    (untouched : Untouched db metadata data state) (free : state.locked = false)
    (idle : activeWork library db state.tables = false) (requestID sourceIP : GoString)
    (safe : (createLocked library target passphrase .safety requestID sourceIP).Allows (perform library db columns)
      (fun result between => (∃ backup, result = .ok backup) ∧ between.transaction = none ∧
        ∀ restored, Reproduces library columns logicalSchema tables restored → Nameable library db restored between)
      { state with locked := true }) :
    (restore library target metadata.id passphrase requestID sourceIP).Allows (perform library db columns)
      (fun result _ => result = .ok ()) state := by
  obtain ⟨archive, reading, formed, alike, opened⟩ := openLogical_made standard legible version made small
  have carried := carries_alike (carries_of_holds standard.dates legible.years formed.holds) alike
  have valid : validateLogicalArchive library reading = .ok () := by
    unfold openLogical at opened
    split at opened
    · cases opened
    · split at opened
      · cases opened
      · next checked =>
        cases opened
        exact checked
  have checked : perform library db columns .hasActiveWork .done state = some (.ok false, state) := by
    simp [perform, idle]
  have locked : perform library db columns .lock .done state = some ((), { state with locked := true }) := by
    simp [perform, free]
  have read : (readVerified metadata.id).Allows (perform library db columns)
      (fun result final => (∃ row, result = .ok (row, data)) ∧ final = { state with locked := true })
      { state with locked := true } := by
    have still : Untouched db metadata data { state with locked := true } := untouched
    have ran : (readVerified metadata.id).run (perform library db columns) [.done, .done, .done]
        { state with locked := true } =
          some (.ok ({ metadata with createdAt := db.stamp metadata.createdAt }, data), { state with locked := true }) := by
      rw [← Program.bind_done (readVerified metadata.id), run_readVerified standard made year flat still, if_pos small]
      rfl
    exact Program.run_allows ran ⟨⟨_, rfl⟩, rfl⟩
  have held : (restoreLocked library target metadata.id passphrase requestID sourceIP).Allows
      (perform library db columns) (fun result _ => result = .ok ()) { state with locked := true } := by
    unfold restoreLocked
    refine read.bind ?_
    rintro _ _ ⟨⟨row, rfl⟩, rfl⟩
    dsimp only
    rw [opened]
    have replaced : (replaceData library target reading passphrase requestID sourceIP).Allows
        (perform library db columns) (fun result final => result = .ok () ∧ Nameable library db final.tables final)
        { state with locked := true } := by
      unfold replaceData
      refine safe.bind ?_
      rintro _ between ⟨⟨backup, rfl⟩, closed, nameable⟩
      have reproduces : (restoreSnapshot library target reading).Ensures (perform library db columns) (fun _ => True)
          (fun _ result final => result = .ok () → Reproduces library columns logicalSchema tables final.tables)
          [] between := restoreSnapshot_reproduces carried
      refine ((restoreSnapshot_allowed carried valid closed).ensured reproduces).mono ?_
      rintro _ final ⟨⟨rfl, kept⟩, _, reproduced⟩
      obtain ⟨id, unused_, apart⟩ := nameable final.tables (reproduced rfl)
      obtain ⟨backups, files⟩ := Prod.mk.inj kept
      refine ⟨rfl, id, ?_, apart⟩
      rwa [unused, backups, files]
    refine replaced.bind ?_
    rintro _ final ⟨rfl, nameable⟩
    exact appendAudit_allowed _ _ _ _ _ nameable
  unfold restore
  refine .call .done checked (.call .done locked (held.bind ?_))
  rintro _ final rfl
  exact .call .done rfl rfl

end Completing

/-! ## Backups that are ready -/

section Ready

variable {lenient : GoString → Option Instant}

/-- A backup that was made of legible tables can be downloaded and validated for
as long as nobody touches its row and its file, if only it is not above the size
that is read; a larger one is refused. -/
theorem ready_backup_usable (standard : Standard library lenient) (options : Options) (db : Database)
    (columns : Columns) (passphrase : GoString) (kind : Kind) (requestID sourceIP : GoString) (state : State)
    (legible : Legible library state.tables) (version : UTF8.valid options.applicationVersion = true) :
    (create library options passphrase kind requestID sourceIP).Ensures (perform library db columns) (fun _ => True)
      (fun _ result final => ∀ metadata, result = .ok metadata → ∃ data, Untouched db metadata data final ∧
        ∀ later, Untouched db metadata data later → Dated (db.stamp metadata.createdAt) →
          byte '/' ∉ metadata.filename →
          (data.length ≤ sizeLimit →
            (download metadata.id).run (perform library db columns) [.done, .done, .done] later =
                some (.ok (data, metadata.filename), later) ∧
              ∃ validation counts, (validate library metadata.id passphrase).run (perform library db columns)
                  [.done, .done, .done] later = some (.ok validation, later) ∧
                validation.formatVersion = currentFormatVersion ∧
                validation.applicationVersion = options.applicationVersion ∧ validation.manifest = some counts ∧
                ∀ schema ∈ logicalSchema, counts.get schema.name = some ((state.tables schema.name).length : Int)) ∧
          (sizeLimit < data.length →
            (download metadata.id).run (perform library db columns) [.done, .done, .done] later =
                some (.error (.sentinel .invalidBackup), later) ∧
              (validate library metadata.id passphrase).run (perform library db columns) [.done, .done, .done] later =
                some (.error (.sentinel .invalidBackup), later))) [] state := by
  refine (create_stores passphrase kind requestID sourceIP).mono (fun _ _ => trivial) ?_
  intro _ result final stored metadata succeeded
  obtain ⟨data, made, untouched⟩ := stored metadata succeeded
  refine ⟨data, untouched, fun later still year flat => ⟨fun small => ⟨?_, ?_⟩, fun large => ⟨?_, ?_⟩⟩⟩
  · unfold download
    rw [run_readVerified standard made year flat still, if_pos small]
    rfl
  · obtain ⟨archive, read, formed, alike, opened⟩ := openLogical_made standard legible version made small
    obtain ⟨manifest, held, counts, contents, _, _, each⟩ := formed.tables
    have maps := alike.manifest
    rw [counts] at maps
    cases found : read.manifest with
    | none => rw [found] at maps; cases maps
    | some map =>
        rw [found] at maps
        cases maps with
        | some order =>
            refine ⟨⟨read.formatVersion, read.applicationVersion, read.createdAt, read.manifest⟩, map, ?_,
              alike.formatVersion.trans formed.formatVersion,
              alike.applicationVersion.trans formed.applicationVersion, found, fun schema listed => ?_⟩
            · unfold validate
              rw [run_readVerified standard made year flat still, if_pos small]
              dsimp only
              rw [opened]
              rfl
            · obtain ⟨table, _, counted, exported⟩ := each schema listed
              rw [GoMap.get_perm order, counted, exported.rows.length_eq]
  · unfold download
    rw [run_readVerified standard made year flat still, if_neg (Nat.not_le.mpr large)]
    rfl
  · unfold validate
    rw [run_readVerified standard made year flat still, if_neg (Nat.not_le.mpr large)]
    rfl

/-- The library's JSON and times, with a cipher whose tag is of zeros. -/
def readingLibrary : Library :=
  { plainLibrary with
    formatTime := Timestamps.formatTime
    parseTime := fun layout value => if layout = .rfc3339Nano then Timestamps.parseTime (fun _ => none) value else none
    marshalArchive := Archive.marshal
    unmarshalArchive := unmarshalArchive fun _ => none
    marshalManifest := marshalMap integerText
    marshalEnvelope := Envelope.marshal
    decodeEnvelope := decodeEnvelope }

theorem readingLibrary_standard : Standard readingLibrary fun _ => none where
  dates := ⟨rfl, rfl⟩
  marshals := rfl
  unmarshals := rfl
  writesEnvelopes := rfl
  readsEnvelopes := rfl
  opens _ _ plaintext _ := congrArg some (List.drop_left' (by simp))
  tagged _ _ plaintext _ := by
    change 16 ≤ (List.replicate 16 0 ++ plaintext).length
    rw [List.length_append, List.length_replicate]
    omega

def themeRow : Row :=
  Row.of (["setting_key", "value_json", "updated_at"].map text)
    [.string (text "theme"), .string (text "\"dark\""), .time 0]

/-- One setting and nothing else. -/
def themeState : State where
  tables name := if name = text "settings" then [themeRow] else []
  transaction := none
  backups := []
  files := .empty
  locked := false

theorem themeState_legible : Legible readingLibrary themeState.tables where
  texts := by decide +kernel
  years := by
    have every : ∀ schema ∈ logicalSchema, ∀ row ∈ themeState.tables schema.name, ∀ column ∈ schema.columns,
        column.kind = .time → (valueTime readingLibrary (row column.name)).all (fun instant => decide (Dated instant)) = true := by
      decide +kernel
    intro schema listed row member column among kind instant read
    have dated := every schema listed row member column among kind
    rw [read] at dated
    exact of_decide_eq_true dated
  counted := by decide +kernel

def createChoices : List Choice :=
  List.flatten [
    [.done, .instant 0, .done], List.replicate logicalSchema.length .done, [.done, .done],
    [.random (List.replicate 16 3), .random (List.replicate 12 4), .identifier (text "b"), .instant 0],
    [.identifier (text "t"), .done, .done, .done, .done, .done, .fails (.plain (text "gone")) 0, .done],
    [.identifier (text "c"), .instant 0, .done, .done]]

private theorem theme_run :
    ((create readingLibrary ⟨.sqlite, text "1.0.0"⟩ examplePassphrase .manual (text "r") (text "::1")).run
      (perform readingLibrary (Database.plain .sqlite) exampleColumns) createChoices themeState).bind (fun made =>
        made.1.toOption.map fun metadata =>
          decide (Dated metadata.createdAt) && !metadata.filename.contains (byte '/') &&
            (made.2.files.get metadata.filename).all fun data => decide (data.length ≤ sizeLimit)) = some true := by
  decide +kernel

private theorem created : ∃ metadata final,
    (create readingLibrary ⟨.sqlite, text "1.0.0"⟩ examplePassphrase .manual (text "r") (text "::1")).run
        (perform readingLibrary (Database.plain .sqlite) exampleColumns) createChoices themeState =
      some (.ok metadata, final) ∧
    Dated metadata.createdAt ∧ byte '/' ∉ metadata.filename ∧
    ∀ data, final.files.get metadata.filename = some data → data.length ≤ sizeLimit := by
  obtain ⟨⟨result, final⟩, ran, rest⟩ := Option.bind_eq_some_iff.mp theme_run
  cases result with
  | error failure => cases rest
  | ok metadata =>
      have met := Option.some.inj rest
      simp only [Bool.and_eq_true, Bool.not_eq_true', decide_eq_true_eq, Option.all_eq_true] at met
      obtain ⟨⟨dated, flat⟩, sized⟩ := met
      exact ⟨metadata, final, ran, dated, by simpa using flat, sized⟩

/-- The backup of one setting, downloaded and validated at once. -/
theorem ready_backup_usable_theme : ∃ metadata final data validation counts,
    (create readingLibrary ⟨.sqlite, text "1.0.0"⟩ examplePassphrase .manual (text "r") (text "::1")).run
        (perform readingLibrary (Database.plain .sqlite) exampleColumns) createChoices themeState =
      some (.ok metadata, final) ∧
    data.length ≤ sizeLimit ∧
    (download metadata.id).run (perform readingLibrary (Database.plain .sqlite) exampleColumns)
        [.done, .done, .done] final = some (.ok (data, metadata.filename), final) ∧
    (validate readingLibrary metadata.id examplePassphrase).run
        (perform readingLibrary (Database.plain .sqlite) exampleColumns) [.done, .done, .done] final =
      some (.ok validation, final) ∧
    validation.applicationVersion = text "1.0.0" ∧ validation.manifest = some counts ∧
    counts.get (text "settings") = some 1 := by
  obtain ⟨metadata, final, ran, dated, flat, sized⟩ := created
  obtain ⟨_, made⟩ := (ready_backup_usable readingLibrary_standard ⟨.sqlite, text "1.0.0"⟩ (Database.plain .sqlite)
    exampleColumns examplePassphrase .manual (text "r") (text "::1") themeState themeState_legible (by decide)).run ran
  obtain ⟨data, untouched, usable⟩ := made metadata rfl
  have small := sized data untouched.2
  obtain ⟨downloaded, validation, counts, validated, _, version, manifest, each⟩ :=
    (usable final untouched dated flat).1 small
  have listed : ∃ schema ∈ logicalSchema, schema.name = text "settings" := by decide
  obtain ⟨schema, member, named⟩ := listed
  have counted := each schema member
  rw [named] at counted
  exact ⟨metadata, final, data, validation, counts, ran, small, downloaded, validated, version, manifest, counted⟩

/-- A backup of legible tables that is restored, here or into any other database
with either dialect, leaves there, table by table and row by row, what the columns
hold of the contents that were backed up, and the audit entry of the restore. -/
theorem restored_as_backed_up (standard : Standard library lenient) (options : Options) (db : Database)
    (columns : Columns) (passphrase : GoString) (kind : Kind) (requestID sourceIP : GoString) (state : State)
    (legible : Legible library state.tables) (version : UTF8.valid options.applicationVersion = true) :
    (create library options passphrase kind requestID sourceIP).Ensures (perform library db columns) (fun _ => True)
      (fun _ result final => ∀ metadata, result = .ok metadata → ∃ data, Untouched db metadata data final ∧
        ∀ (target : Options) (other : Database) (held : Columns) (requestID sourceIP : GoString) (here : State),
          Untouched other metadata data here →
          (restore library target metadata.id passphrase requestID sourceIP).Ensures (perform library other held)
            (fun _ => True) (fun _ result final => result = .ok () → ∃ restored,
              Reproduces library held logicalSchema state.tables restored ∧
                ∃ entry, entry.eventType = text "backup_restored" ∧
                  final.tables = appended library other held entry restored) [] here) [] state := by
  refine (create_stores passphrase kind requestID sourceIP).mono (fun _ _ => trivial) ?_
  intro _ result final stored metadata succeeded
  obtain ⟨data, made, untouched⟩ := stored metadata succeeded
  refine ⟨data, untouched, fun target other held requestID sourceIP here still => ?_⟩
  unfold restore
  apply Program.Ensures.call
  intro choice reply looked answered
  obtain rfl := perform_still rfl answered
  refine ⟨trivial, ?_⟩
  rcases reply with failure | (_ | _)
  · exact nofun
  · apply Program.Ensures.call
    intro choice reply locked answered
    obtain ⟨backups, files⟩ := Prod.mk.inj (perform_stored rfl answered)
    have kept : Untouched other metadata data locked := by
      unfold Untouched
      rw [backups, files]
      exact still
    refine ⟨trivial, ?_⟩
    refine (restoreLocked_reproduces standard legible version made kept requestID sourceIP).bind ?_
    intro moments outcome between reproduced
    apply Program.Ensures.call
    intro choice reply after answered
    refine ⟨trivial, fun done => ?_⟩
    rw [perform_tables rfl answered]
    exact reproduced done
  · exact nofun

def safetyChoices : List Choice :=
  List.flatten [
    .instant 0 :: .done :: List.replicate logicalSchema.length .done, [.done, .done],
    [.random (List.replicate 16 5), .random (List.replicate 12 6), .identifier (text "e"), .instant 0],
    [.identifier (text "u"), .done, .done, .done, .done, .done, .fails (.plain (text "gone")) 0, .done],
    [.identifier (text "f"), .instant 0, .done]]

/-- The safety backup of a MySQL database that has the tables and the file. -/
private theorem safety_run :
    ((create readingLibrary ⟨.sqlite, text "1.0.0"⟩ examplePassphrase .manual (text "r") (text "::1")).run
      (perform readingLibrary (Database.plain .sqlite) exampleColumns) createChoices themeState).bind (fun made =>
        ((createLocked readingLibrary ⟨.mysql, text "1.0.1"⟩ examplePassphrase .safety (text "s") (text "::1")).run
          (perform readingLibrary (Database.plain .mysql) exampleColumns) safetyChoices
          { made.2 with locked := true }).map fun safe =>
            !made.2.locked && !activeWork readingLibrary (Database.plain .mysql) made.2.tables && safe.1.isOk &&
              safe.2.transaction.isNone && unused (Database.plain .mysql) (text "d") safe.2) = some true := by
  decide +kernel

private theorem theme_unlogged {restored : Tables}
    (reproduced : Reproduces readingLibrary exampleColumns logicalSchema themeState.tables restored) :
    restored auditTable = [] := by
  have listed : ∃ schema ∈ logicalSchema, schema.name = auditTable := by decide
  obtain ⟨schema, member, named⟩ := listed
  obtain ⟨rows, same, held⟩ := reproduced schema member
  have empty : themeState.tables schema.name = [] := by
    rw [named]
    rfl
  rw [empty, List.map_nil, List.map_eq_nil_iff] at same
  rw [named, same, List.map_nil] at held
  exact held

private theorem theme_allowed {metadata : Metadata} {final : State}
    (ran : (create readingLibrary ⟨.sqlite, text "1.0.0"⟩ examplePassphrase .manual (text "r") (text "::1")).run
      (perform readingLibrary (Database.plain .sqlite) exampleColumns) createChoices themeState =
        some (.ok metadata, final))
    (dated : Dated metadata.createdAt) (flat : byte '/' ∉ metadata.filename)
    (sized : ∀ data, final.files.get metadata.filename = some data → data.length ≤ sizeLimit) :
    (restore readingLibrary ⟨.mysql, text "1.0.1"⟩ metadata.id examplePassphrase (text "s") (text "::1")).Allows
      (perform readingLibrary (Database.plain .mysql) exampleColumns) (fun result _ => result = .ok ()) final := by
  obtain ⟨data, made, untouched⟩ := create_made ran
  obtain ⟨_, again, rest⟩ := Option.bind_eq_some_iff.mp safety_run
  obtain rfl := Option.some.inj (ran.symm.trans again)
  obtain ⟨⟨outcome, between⟩, safe, met⟩ := Option.map_eq_some_iff.mp rest
  simp only [Bool.and_eq_true, Bool.not_eq_true'] at met
  obtain ⟨⟨⟨⟨free, idle⟩, succeeded⟩, closed⟩, unused_⟩ := met
  -- Both databases compare identifiers alike, so the row is found in this one too.
  have here : Untouched (Database.plain .mysql) metadata data final := untouched
  cases outcome with
  | error failure => cases succeeded
  | ok backup =>
      refine restore_allowed readingLibrary_standard themeState_legible (by decide) made dated flat
        (sized data here.2) here free idle (text "s") (text "::1") (Program.run_allows safe ?_)
      refine ⟨⟨backup, rfl⟩, Option.isNone_iff_eq_none.mp closed, fun restored reproduced => ⟨text "d", unused_, ?_⟩⟩
      rw [theme_unlogged reproduced]
      exact fun row member => by cases member

/-- The same backup, restored into that database. -/
theorem restored_as_backed_up_theme : ∃ metadata final choices after restored entry,
    (create readingLibrary ⟨.sqlite, text "1.0.0"⟩ examplePassphrase .manual (text "r") (text "::1")).run
        (perform readingLibrary (Database.plain .sqlite) exampleColumns) createChoices themeState =
      some (.ok metadata, final) ∧
    (restore readingLibrary ⟨.mysql, text "1.0.1"⟩ metadata.id examplePassphrase (text "s") (text "::1")).run
        (perform readingLibrary (Database.plain .mysql) exampleColumns) choices final =
      some (.ok (), after) ∧
    Reproduces readingLibrary exampleColumns logicalSchema themeState.tables restored ∧
    entry.eventType = text "backup_restored" ∧
    after.tables = appended readingLibrary (Database.plain .mysql) exampleColumns entry restored := by
  obtain ⟨metadata, final, ran, dated, flat, sized⟩ := created
  obtain ⟨choices, _, after, again, rfl⟩ := (theme_allowed ran dated flat sized).run
  obtain ⟨_, made⟩ := (restored_as_backed_up readingLibrary_standard ⟨.sqlite, text "1.0.0"⟩ (Database.plain .sqlite)
    exampleColumns examplePassphrase .manual (text "r") (text "::1") themeState themeState_legible (by decide)).run ran
  obtain ⟨data, untouched, restores⟩ := made metadata rfl
  obtain ⟨_, reproduced⟩ := (restores ⟨.mysql, text "1.0.1"⟩ (Database.plain .mysql) exampleColumns (text "s")
    (text "::1") final untouched).run again
  obtain ⟨restored, same, entry, type, logged⟩ := reproduced rfl
  exact ⟨metadata, final, choices, after, restored, entry, ran, again, same, type, logged⟩

end Ready

end NodeAtlas.Backup.Files
