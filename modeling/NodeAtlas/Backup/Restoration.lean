import NodeAtlas.Backup.Files

/-! What a restore of the backup service leaves behind, wherever it fails. -/

set_option autoImplicit false

namespace NodeAtlas.Backup.Files

open Interleaving

variable {library : Library} {options : Options} {db : Database} {columns : Columns}

/-! ## What the calls leave alone -/

/-- The calls that change no table of the database. -/
def Call.tableless : Call → Bool
  | .commit | .append _ => false
  | _ => true

/-- The calls that change neither the backups nor their directory. -/
def Call.storeless : Call → Bool
  | .create _ | .createTemp | .write _ _ | .rename _ _ | .remove _ => false
  | _ => true

def State.stored (state : State) : List Metadata × GoMap GoString := (state.backups, state.files)

/-- The calls that change nothing at all. -/
def Call.still : Call → Bool
  | .now | .newID | .random _ | .hasActiveWork | .select _ | .findByID _ | .chmod _ | .sync _ | .close _
  | .openFile _ | .readAll _ _ => true
  | _ => false

/-- The calls about files. -/
def Call.filing : Call → Bool
  | .createTemp | .chmod _ | .write _ _ | .sync _ | .close _ | .rename _ _ | .remove _ => true
  | _ => false

structure Frame (call : Call) (before after : State) : Prop where
  still : call.still = true → after = before
  tables : call.tableless = true → after.tables = before.tables
  stored : call.storeless = true → after.stored = before.stored
  backups : call.filing = true → (after.tables, after.backups) = (before.tables, before.backups)

theorem perform_frame {call : Call} {choice : Choice} {state after : State} {reply : call.Reply}
    (answered : perform library db columns call choice state = some (reply, after)) : Frame call state after := by
  cases call <;> cases choice
  all_goals
    unfold perform at answered
    dsimp only at answered
    -- A call is refused, or answered at once, or where a test allows it, or in a transaction.
    first
    | cases answered
    | (split at answered <;> cases answered)
    | (obtain ⟨_, _, same⟩ := Option.map_eq_some_iff.mp answered; cases same)
  all_goals
    constructor <;> first | exact fun _ => rfl | exact nofun

section Frames

variable {call : Call} {choice : Choice} {state after : State} {reply : call.Reply}

theorem perform_still (still : call.still = true)
    (answered : perform library db columns call choice state = some (reply, after)) : after = state :=
  (perform_frame answered).still still

theorem perform_tables (tableless : call.tableless = true)
    (answered : perform library db columns call choice state = some (reply, after)) : after.tables = state.tables :=
  (perform_frame answered).tables tableless

theorem perform_stored (storeless : call.storeless = true)
    (answered : perform library db columns call choice state = some (reply, after)) : after.stored = state.stored :=
  (perform_frame answered).stored storeless

theorem perform_filing (filing : call.filing = true)
    (answered : perform library db columns call choice state = some (reply, after)) :
    (after.tables, after.backups) = (state.tables, state.backups) :=
  (perform_frame answered).backups filing

end Frames

/-- The moment at which a transaction replaces the tables. -/
def Replaces (moment : BackupMoment) : Prop :=
  moment.event.call = .commit ∧ ∃ transaction, moment.state.transaction = some transaction ∧ transaction.readOnly = false

/-- A moment at which the tables are still these, and stay so. -/
def Calm (tables : Tables) (moment : BackupMoment) : Prop := moment.state.tables = tables ∧ ¬ Replaces moment

theorem calm_of_call {tables : Tables} {moment : BackupMoment} (same : moment.state.tables = tables)
    (other : moment.event.call ≠ .commit) : Calm tables moment :=
  ⟨same, fun replaces => other replaces.1⟩

/-- The table of an archive that holds what a table of the database has. -/
def Exported (library : Library) (tables : Tables) (schema : TableSchema) (table : TableData) : Prop :=
  table.columns = columnNames schema ∧
    ((tables schema.name).map fun row => schema.columns.map fun column => row column.name).mapM
      (convertRow (text "export " ++ schema.name) (normalizeCell library) schema.columns) = .ok table.rows

/-- An archive of all tables of the database. -/
def Holds (library : Library) (tables : Tables) (archive : Archive) : Prop :=
  ∃ contents, archive.tables = some contents ∧
    ∀ schema ∈ logicalSchema, ∃ table, contents.get schema.name = some table ∧ Exported library tables schema table

section Exports

variable {state : State} {earlier : List BackupMoment}

theorem perform_select {schema : TableSchema} {choice : Choice} {after : State} {reply : Except GoError Cursor}
    (answered : perform library db columns (.select schema) choice state = some (reply, after)) :
    after = state ∧ ∃ transaction, state.transaction = some transaction ∧
      ∀ cursor, reply = .ok cursor → cursor.err = none →
        cursor.rows = (transaction.tables schema.name).map fun row => schema.columns.map fun column => row column.name := by
  cases choice with
  | done =>
      obtain ⟨transaction, opened, same⟩ := Option.map_eq_some_iff.mp answered
      cases same
      refine ⟨rfl, transaction, opened, ?_⟩
      rintro cursor ⟨⟩ _
      rfl
  | fails failure progress =>
      obtain ⟨transaction, opened, same⟩ := Option.map_eq_some_iff.mp answered
      obtain ⟨rfl, rfl⟩ := Prod.mk.inj same
      refine ⟨rfl, transaction, opened, ?_⟩
      intro cursor read ended
      split at read
      · cases read
      · cases read
        cases ended
  | _ => cases answered

theorem exportTable_ensures {transaction : Transaction} (opened : state.transaction = some transaction)
    (schema : TableSchema) :
    (exportTable library schema).Ensures (perform library db columns)
      (fun moment => moment.state = state ∧ moment.event.call ≠ .commit)
      (fun _ result final => final = state ∧ ∀ table, result = .ok table → Exported library transaction.tables schema table)
      earlier state := by
  unfold exportTable
  apply Program.Ensures.call
  intro choice reply after answered
  obtain ⟨rfl, found, same, rows⟩ := perform_select answered
  obtain rfl := Option.some.inj (opened.symm.trans same)
  refine ⟨⟨rfl, nofun⟩, ?_⟩
  cases reply with
  | error failure => exact ⟨rfl, nofun⟩
  | ok cursor =>
      dsimp only
      split
      · exact ⟨rfl, nofun⟩
      · next contents converted =>
        split
        · exact ⟨rfl, nofun⟩
        · next ended =>
          refine ⟨rfl, ?_⟩
          rintro _ ⟨⟩
          refine ⟨rfl, ?_⟩
          rw [← rows cursor rfl ended]
          exact converted

theorem exportTables_ensures {transaction : Transaction} (opened : state.transaction = some transaction)
    (schemas : List TableSchema) (distinct : (schemas.map TableSchema.name).Nodup) (manifest : GoMap Int)
    (tables : GoMap TableData) :
    (exportTables library manifest tables schemas).Ensures (perform library db columns)
      (fun moment => moment.state = state ∧ moment.event.call ≠ .commit)
      (fun _ result final => final = state ∧ ∀ contents, result = .ok contents →
        (∀ schema ∈ schemas, ∃ table, contents.2.get schema.name = some table ∧
          Exported library transaction.tables schema table) ∧
        ∀ name, name ∉ schemas.map TableSchema.name → contents.2.get name = tables.get name)
      earlier state := by
  induction schemas generalizing manifest tables earlier with
  | nil =>
      refine ⟨rfl, ?_⟩
      rintro _ ⟨⟩
      exact ⟨nofun, fun _ _ => rfl⟩
  | cons schema rest ih =>
      rw [List.map_cons, List.nodup_cons] at distinct
      unfold exportTables
      refine (exportTable_ensures opened schema).bind ?_
      rintro moments result between ⟨rfl, exported⟩
      cases result with
      | error failure => exact ⟨rfl, nofun⟩
      | ok table =>
          refine (ih distinct.2 _ _).mono (fun _ same => same) ?_
          rintro _ outcome final ⟨same, others⟩
          refine ⟨same, fun contents ended => ?_⟩
          obtain ⟨each, kept⟩ := others contents ended
          constructor
          · intro other member
            rcases List.mem_cons.mp member with rfl | later
            · refine ⟨table, ?_, exported table rfl⟩
              rw [kept _ distinct.1, GoMap.get_set, if_pos rfl]
            · exact each other later
          · intro name absent
            rw [List.map_cons, List.mem_cons, not_or] at absent
            rw [kept name absent.2, GoMap.get_set, if_neg absent.1]

theorem perform_begin {readOnly : Bool} {choice : Choice} {after : State} {reply : Except GoError Unit}
    (answered : perform library db columns (.begin readOnly) choice state = some (reply, after)) :
    (∃ failure, reply = .error failure ∧ after = state) ∨
      reply = .ok () ∧ after = { state with transaction := some ⟨readOnly, state.tables⟩ } := by
  cases choice with
  | done =>
      unfold perform at answered
      dsimp only at answered
      split at answered
      · cases answered
      · cases answered
        exact .inr ⟨rfl, rfl⟩
  | fails failure progress =>
      cases answered
      exact .inl ⟨failure, rfl, rfl⟩
  | _ => cases answered

theorem perform_commit {choice : Choice} {after : State} {reply : Except GoError Unit}
    (answered : perform library db columns .commit choice state = some (reply, after)) :
    ∃ transaction, state.transaction = some transaction ∧
      ((∃ failure, reply = .error failure ∧
          (after.tables = state.tables ∨ transaction.readOnly = false ∧ after.tables = transaction.tables)) ∨
        reply = .ok () ∧ after.tables = if transaction.readOnly then state.tables else transaction.tables) := by
  cases choice with
  | done =>
      obtain ⟨transaction, opened, same⟩ := Option.map_eq_some_iff.mp answered
      cases same
      exact ⟨transaction, opened, .inr ⟨rfl, rfl⟩⟩
  | fails failure progress =>
      obtain ⟨transaction, opened, same⟩ := Option.map_eq_some_iff.mp answered
      cases same
      refine ⟨transaction, opened, .inl ⟨failure, rfl, ?_⟩⟩
      dsimp only
      split
      · exact .inl rfl
      · next carried => exact .inr ⟨by simp_all, rfl⟩
  | _ => cases answered

theorem exportArchive_ensures {tables : Tables} (opened : state.transaction = some ⟨true, tables⟩)
    (same : state.tables = tables) (createdAt : Instant) :
    (exportArchive library options createdAt).Ensures (perform library db columns)
      (Calm tables)
      (fun _ result final => final.tables = tables ∧
        ∀ archive, result = .ok archive → Holds library tables archive) earlier state := by
  unfold exportArchive
  refine ((exportTables_ensures opened logicalSchema (by decide) .empty .empty).mono
    (fun moment at_ => calm_of_call (by rw [at_.1]; exact same) at_.2) (fun _ _ _ held => held)).bind ?_
  rintro moments result between ⟨rfl, exported⟩
  cases result with
  | error failure => exact ⟨same, nofun⟩
  | ok contents =>
      apply Program.Ensures.call
      intro choice reply closed answered
      have readOnly : ¬ Replaces ⟨between, ⟨.commit, reply⟩⟩ := by
        rintro ⟨_, transaction, found, writes⟩
        obtain rfl := Option.some.inj (opened.symm.trans found)
        cases writes
      refine ⟨⟨same, readOnly⟩, ?_⟩
      obtain ⟨transaction, found, outcome⟩ := perform_commit answered
      obtain rfl := Option.some.inj (opened.symm.trans found)
      rcases outcome with ⟨failure, rfl, kept | ⟨writes, _⟩⟩ | ⟨rfl, kept⟩
      · exact ⟨kept.trans same, nofun⟩
      · cases writes
      · refine ⟨kept.trans same, ?_⟩
        rintro _ ⟨⟩
        exact ⟨contents.2, rfl, (exported contents rfl).1⟩

/-- What a snapshot holds is what the tables hold, and these stay. -/
theorem exportSnapshot_ensures :
    (exportSnapshot library options).Ensures (perform library db columns)
      (Calm state.tables)
      (fun _ result final => final.tables = state.tables ∧
        ∀ archive, result = .ok archive → Holds library state.tables archive) earlier state := by
  unfold exportSnapshot
  apply Program.Ensures.call
  intro choice createdAt started answered
  have same : started.tables = state.tables := perform_tables rfl answered
  refine ⟨calm_of_call rfl nofun, ?_⟩
  apply Program.Ensures.call
  intro choice reply begun answered
  refine ⟨calm_of_call same nofun, ?_⟩
  rcases perform_begin answered with ⟨failure, rfl, rfl⟩ | ⟨rfl, rfl⟩
  · exact ⟨same, nofun⟩
  · dsimp only
    have archived : (exportArchive library options createdAt).Ensures (perform library db columns)
        (Calm state.tables)
        (fun _ result final => final.tables = state.tables ∧
          ∀ archive, result = .ok archive → Holds library state.tables archive)
        (⟨started, ⟨.begin true, .ok ()⟩⟩ :: ⟨state, ⟨.now, createdAt⟩⟩ :: earlier)
        { started with transaction := some ⟨true, started.tables⟩ } := by
      rw [← same]
      exact exportArchive_ensures rfl rfl createdAt
    refine archived.bind ?_
    rintro moments result between ⟨kept, held⟩
    apply Program.Ensures.call
    intro choice reply after answered
    refine ⟨calm_of_call kept nofun, ?_, held⟩
    exact (perform_tables rfl answered).trans kept

end Exports

/-! ## The backup that is stored -/

section Storing

variable {state : State} {earlier : List BackupMoment}

/-- A backup of these tables, which can be opened with the passphrase. -/
def Backed (library : Library) (db : Database) (kind : Kind) (tables : Tables) (passphrase : GoString)
    (state : State) : Prop :=
  ∃ archive plaintext salt nonce id createdAt, Holds library tables archive ∧
    sealable library archive passphrase = .ok plaintext ∧
      let data := sealText library plaintext passphrase salt nonce
      { metadataOf library archive data id kind createdAt with createdAt := db.stamp createdAt } ∈ state.backups ∧
        state.files.get (filenameOf library createdAt id) = some data

/-- The audit entry of a new backup, appended to the tables. -/
def Logged (library : Library) (db : Database) (columns : Columns) (tables after : Tables) : Prop :=
  ∃ entry, entry.eventType = text "backup_created" ∧ after = appended library db columns entry tables

theorem sealArchive_ensures (archive : Archive) (passphrase : GoString) :
    (sealArchive library archive passphrase).Ensures (perform library db columns)
      (fun moment => moment.state = state ∧ moment.event.call ≠ .commit)
      (fun _ result final => final = state ∧ ∀ data, result = .ok data → ∃ plaintext salt nonce,
        sealable library archive passphrase = .ok plaintext ∧ data = sealText library plaintext passphrase salt nonce)
      earlier state := by
  unfold sealArchive
  split
  · exact ⟨rfl, nofun⟩
  · next plaintext accepted =>
    apply Program.Ensures.call
    intro choice salt after answered
    obtain rfl := perform_still rfl answered
    refine ⟨⟨rfl, nofun⟩, ?_⟩
    cases salt with
    | error failure => exact ⟨rfl, nofun⟩
    | ok salt =>
        apply Program.Ensures.call
        intro choice nonce after answered
        obtain rfl := perform_still rfl answered
        refine ⟨⟨rfl, nofun⟩, ?_⟩
        cases nonce with
        | error failure => exact ⟨rfl, nofun⟩
        | ok nonce =>
            refine ⟨rfl, ?_⟩
            rintro _ ⟨⟩
            exact ⟨plaintext, salt, nonce, accepted, rfl⟩

theorem temporaryName_ne (value : GoString) (createdAt : Instant) (id : GoString) :
    temporaryName value ≠ filenameOf library createdAt id := by
  intro same
  have first := congrArg List.head? same
  have dot : (temporaryName value).head? = some (byte '.') := by
    simp [temporaryName, text]
    decide
  have letter : (filenameOf library createdAt id).head? = some (byte 'c') := by
    simp [filenameOf, text]
    decide
  rw [dot, letter] at first
  exact absurd first (by decide)

theorem fillFile_filing (temporary data : GoString) :
    (fillFile temporary data).Only fun call => call.filing = true := by
  unfold fillFile
  refine ⟨rfl, fun reply => ?_⟩
  cases reply with
  | error failure => exact ⟨rfl, fun _ => trivial⟩
  | ok _ =>
      refine ⟨rfl, fun reply => ?_⟩
      cases reply with
      | error failure => exact ⟨rfl, fun _ => trivial⟩
      | ok _ =>
          refine ⟨rfl, fun reply => ?_⟩
          cases reply with
          | error failure => exact ⟨rfl, fun _ => trivial⟩
          | ok _ => exact ⟨rfl, fun _ => trivial⟩

theorem writeFile_filing (filename data : GoString) :
    (writeFile filename data).Only fun call => call.filing = true := by
  unfold writeFile
  refine ⟨rfl, fun reply => ?_⟩
  cases reply with
  | error failure => trivial
  | ok temporary =>
      refine (fillFile_filing temporary data).bind fun filled => ?_
      cases filled with
      | error failure => exact ⟨rfl, fun _ => trivial⟩
      | ok _ => exact ⟨rfl, fun _ => ⟨rfl, fun _ => trivial⟩⟩

theorem perform_write {name data : GoString} {choice : Choice} {before after : State}
    (answered : perform library db columns (.write name data) choice before = some (.ok (), after)) :
    after.files.get name = some data := by
  cases choice with
  | done =>
      cases answered
      rw [GoMap.get_set, if_pos rfl]
  | _ => cases answered

theorem perform_rename {old new data : GoString} {choice : Choice} {before after : State}
    (filled : before.files.get old = some data)
    (answered : perform library db columns (.rename old new) choice before = some (.ok (), after)) :
    after.files.get new = some data := by
  cases choice with
  | done =>
      obtain ⟨moved, located, same⟩ := Option.map_eq_some_iff.mp answered
      cases same
      rw [GoMap.get_set, if_pos rfl, ← located, filled]
  | _ => cases answered

theorem perform_remove {name other : GoString} {choice : Choice} {before after : State} {reply : Except GoError Unit}
    (apart : other ≠ name)
    (answered : perform library db columns (.remove name) choice before = some (reply, after)) :
    after.files.get other = before.files.get other := by
  cases choice with
  | done =>
      unfold perform at answered
      dsimp only at answered
      split at answered
      · cases answered
        rw [GoMap.get_erase, if_neg apart]
      · cases answered
  | fails failure progress =>
      cases answered
      rfl
  | _ => cases answered

theorem fillFile_ensures (temporary data : GoString) :
    (fillFile temporary data).Ensures (perform library db columns) (fun _ => True)
      (fun _ result final => result = .ok () → final.files.get temporary = some data) earlier state := by
  unfold fillFile
  apply Program.Ensures.call
  intro choice reply ready answered
  refine ⟨trivial, ?_⟩
  cases reply with
  | error failure => exact fun _ _ _ _ => ⟨trivial, nofun⟩
  | ok _ =>
      apply Program.Ensures.call
      intro choice reply written answered
      refine ⟨trivial, ?_⟩
      cases reply with
      | error failure => exact fun _ _ _ _ => ⟨trivial, nofun⟩
      | ok _ =>
          have filled := perform_write answered
          apply Program.Ensures.call
          intro choice reply synced answered
          obtain rfl := perform_still rfl answered
          refine ⟨trivial, ?_⟩
          cases reply with
          | error failure => exact fun _ _ _ _ => ⟨trivial, nofun⟩
          | ok _ =>
              intro choice reply closed answered
              obtain rfl := perform_still rfl answered
              exact ⟨trivial, fun _ => filled⟩

theorem writeFile_ensures {filename : GoString} (data : GoString) (apart : ∀ value, filename ≠ temporaryName value) :
    (writeFile filename data).Ensures (perform library db columns) (fun _ => True)
      (fun _ result final => result = .ok () → final.files.get filename = some data) earlier state := by
  unfold writeFile
  apply Program.Ensures.call
  intro choice reply made answered
  refine ⟨trivial, ?_⟩
  cases reply with
  | error failure => exact nofun
  | ok temporary =>
      have named : ∃ value, temporary = temporaryName value := by
        cases choice with
        | identifier value =>
            unfold perform at answered
            dsimp only at answered
            split at answered
            · cases answered
            · cases answered
              exact ⟨value, rfl⟩
        | _ => cases answered
      obtain ⟨value, rfl⟩ := named
      refine (fillFile_ensures (temporaryName value) data).bind ?_
      intro moments result between filled
      cases result with
      | error failure => exact fun _ _ _ _ => ⟨trivial, nofun⟩
      | ok _ =>
          apply Program.Ensures.call
          intro choice outcome moved answered
          refine ⟨trivial, ?_⟩
          intro choice reply removed gone
          refine ⟨trivial, ?_⟩
          rintro rfl
          rw [perform_remove (apart value) gone]
          exact perform_rename (filled rfl) answered

theorem writeFile_spec {filename : GoString} (data : GoString) (apart : ∀ value, filename ≠ temporaryName value) :
    (writeFile filename data).Ensures (perform library db columns) (Calm state.tables)
      (fun _ result final => final.tables = state.tables ∧
        (result = .ok () → final.files.get filename = some data)) earlier state := by
  have framed : (writeFile filename data).Ensures (perform library db columns)
      (Calm state.tables)
      (fun _ _ final => (final.tables, final.backups) = (state.tables, state.backups)) earlier state :=
    (writeFile_filing filename data).ensures (fun _ _ _ _ _ filing answered => perform_filing filing answered)
      (fun moment filing same => calm_of_call (congrArg Prod.fst same) (by rintro commit; rw [commit] at filing; cases filing))
  exact (framed.and (writeFile_ensures data apart)).mono (fun _ both => both.1)
    (fun _ _ _ both => ⟨congrArg Prod.fst both.1, both.2⟩)

theorem perform_create {metadata : Metadata} {choice : Choice} {before after : State}
    (answered : perform library db columns (.create metadata) choice before = some (.ok (), after)) :
    after.files = before.files ∧ { metadata with createdAt := db.stamp metadata.createdAt } ∈ after.backups := by
  cases choice with
  | done =>
      unfold perform at answered
      dsimp only at answered
      split at answered
      · cases answered
      · cases answered
        exact ⟨rfl, List.mem_append_right _ List.mem_cons_self⟩
  | _ => cases answered

theorem perform_append {entry : AuditLog.Entry} {choice : Choice} {before after : State} {reply : Except GoError Unit}
    (answered : perform library db columns (.append entry) choice before = some (reply, after)) :
    (∃ failure, reply = .error failure ∧
        (after.tables = before.tables ∨ after.tables = appended library db columns entry before.tables)) ∨
      reply = .ok () ∧ after.tables = appended library db columns entry before.tables := by
  cases choice with
  | done =>
      unfold perform at answered
      dsimp only at answered
      split at answered
      · cases answered
      · cases answered
        exact .inr ⟨rfl, rfl⟩
  | fails failure progress =>
      cases answered
      refine .inl ⟨_, rfl, ?_⟩
      dsimp only
      split
      · exact .inl rfl
      · exact .inr rfl
  | _ => cases answered

theorem appendAudit_ensures (eventType targetID requestID sourceIP : GoString) (metadata : JSONMap) :
    (appendAudit eventType targetID requestID sourceIP metadata).Ensures (perform library db columns)
      (fun moment => moment.state = state ∧ moment.event.call ≠ .commit)
      (fun moments result final => final.stored = state.stored ∧
        (∀ failure, result = .error failure → ∃ before entry, entry.eventType = eventType ∧
          (⟨before, ⟨.append entry, .error failure⟩⟩ : BackupMoment) ∈ moments ∧
            (final.tables = state.tables ∨ final.tables = appended library db columns entry state.tables)) ∧
        (result = .ok () → ∃ entry, entry.eventType = eventType ∧
          final.tables = appended library db columns entry state.tables)) earlier state := by
  unfold appendAudit
  apply Program.Ensures.call
  intro choice id named answered
  obtain rfl := perform_still rfl answered
  refine ⟨⟨rfl, nofun⟩, ?_⟩
  apply Program.Ensures.call
  intro choice createdAt timed answered
  obtain rfl := perform_still rfl answered
  refine ⟨⟨rfl, nofun⟩, ?_⟩
  intro choice reply after answered
  refine ⟨⟨rfl, nofun⟩, perform_stored rfl answered, ?_⟩
  rcases perform_append answered with ⟨failure, rfl, left⟩ | ⟨rfl, logged⟩
  · refine ⟨?_, nofun⟩
    rintro _ ⟨⟩
    exact ⟨_, _, rfl, List.mem_cons_self, left⟩
  · exact ⟨nofun, fun _ => ⟨_, rfl, logged⟩⟩

/-- A backup that is made is of the tables that there are; one that fails leaves
them alone, or is made all the same and has its audit entry. -/
theorem storeBackup_ensures {archive : Archive} {plaintext passphrase salt nonce : GoString} {kind : Kind}
    (held : Holds library state.tables archive) (accepted : sealable library archive passphrase = .ok plaintext)
    (requestID sourceIP : GoString) :
    (storeBackup library archive (sealText library plaintext passphrase salt nonce) kind requestID sourceIP).Ensures
      (perform library db columns) (Calm state.tables)
      (fun _ result final => (∀ failure, result = .error failure → final.tables = state.tables ∨
          Logged library db columns state.tables final.tables ∧ Backed library db kind state.tables passphrase final) ∧
        ∀ metadata, result = .ok metadata → Logged library db columns state.tables final.tables ∧
          Backed library db kind state.tables passphrase final) earlier state := by
  unfold storeBackup
  apply Program.Ensures.call
  intro choice id named answered
  obtain rfl := perform_still rfl answered
  refine ⟨calm_of_call rfl nofun, ?_⟩
  apply Program.Ensures.call
  intro choice createdAt timed answered
  obtain rfl := perform_still rfl answered
  refine ⟨calm_of_call rfl nofun, ?_⟩
  have apart : ∀ value, filenameOf library createdAt id ≠ temporaryName value := fun value same =>
    temporaryName_ne value createdAt id same.symm
  refine (writeFile_spec _ apart).bind ?_
  rintro moments result written ⟨kept, filled⟩
  cases result with
  | error failure => exact ⟨fun _ _ => .inl kept, nofun⟩
  | ok _ =>
      apply Program.Ensures.call
      intro choice reply created answered
      refine ⟨calm_of_call kept nofun, ?_⟩
      have still : created.tables = timed.tables := (perform_tables rfl answered).trans kept
      cases reply with
      | error failure =>
          apply Program.Ensures.call
          intro choice reply removed answered
          exact ⟨calm_of_call still nofun, fun _ _ => .inl ((perform_tables rfl answered).trans still), nofun⟩
      | ok _ =>
          obtain ⟨files, listed⟩ := perform_create answered
          refine ((appendAudit_ensures _ id requestID sourceIP _).mono (fun moment at_ => calm_of_call (by rw [at_.1]; exact still) at_.2)
            (fun _ _ _ appended => appended)).bind ?_
          rintro moments result final ⟨stored, failed, succeeded⟩
          have backed : Backed library db kind timed.tables passphrase final := by
            refine ⟨archive, plaintext, salt, nonce, id, createdAt, held, accepted, ?_⟩
            obtain ⟨backups, files_⟩ := Prod.mk.inj stored
            rw [backups, files_, files]
            exact ⟨listed, filled rfl⟩
          cases result with
          | error failure =>
              refine ⟨fun _ _ => ?_, nofun⟩
              obtain ⟨_, entry, type, _, left⟩ := failed failure rfl
              rw [still] at left
              exact left.imp_right fun logged => ⟨⟨entry, type, logged⟩, backed⟩
          | ok _ =>
              refine ⟨nofun, ?_⟩
              rintro _ ⟨⟩
              obtain ⟨entry, type, logged⟩ := succeeded rfl
              exact ⟨⟨entry, type, by rw [logged, still]⟩, backed⟩

/-- What `createLocked` does to the tables, and what it leaves in the directory. -/
theorem createLocked_ensures (passphrase : GoString) (kind : Kind) (requestID sourceIP : GoString) :
    (createLocked library options passphrase kind requestID sourceIP).Ensures
      (perform library db columns) (Calm state.tables)
      (fun _ result final => (∀ failure, result = .error failure → final.tables = state.tables ∨
          Logged library db columns state.tables final.tables ∧ Backed library db kind state.tables passphrase final) ∧
        ∀ metadata, result = .ok metadata → Logged library db columns state.tables final.tables ∧
          Backed library db kind state.tables passphrase final) earlier state := by
  unfold createLocked
  refine exportSnapshot_ensures.bind ?_
  rintro moments result exported ⟨same, holds⟩
  cases result with
  | error failure => exact ⟨fun _ _ => .inl same, nofun⟩
  | ok archive =>
      refine ((sealArchive_ensures archive passphrase).mono (fun moment at_ => calm_of_call (by rw [at_.1]; exact same) at_.2)
        (fun _ _ _ outcome => outcome)).bind ?_
      rintro moments result sealed_ ⟨rfl, made⟩
      cases result with
      | error failure => exact ⟨fun _ _ => .inl same, nofun⟩
      | ok data =>
          obtain ⟨plaintext, salt, nonce, accepted, rfl⟩ := made data rfl
          have held := holds archive rfl
          rw [← same] at held ⊢
          exact storeBackup_ensures held accepted requestID sourceIP

end Storing

/-! ## Restoring -/

section Restoring

variable {state : State} {earlier : List BackupMoment}

/-- The statements of a restore before its commit. -/
def Call.editing : Call → Bool
  | .delete _ | .insert _ _ _ => true
  | _ => false

theorem clearTables_editing (names : List GoString) : (clearTables names).Only fun call => call.editing = true := by
  induction names with
  | nil => trivial
  | cons name rest ih =>
      refine ⟨rfl, fun reply => ?_⟩
      cases reply with
      | error failure => trivial
      | ok _ => exact ih

theorem restoreRows_editing (schema : TableSchema) (rows : List (List (Option GoString))) :
    (restoreRows library options schema rows).Only fun call => call.editing = true := by
  induction rows with
  | nil => trivial
  | cons row rest ih =>
      unfold restoreRows
      dsimp only
      split
      · trivial
      · refine ⟨rfl, fun reply => ?_⟩
        cases reply with
        | error failure => trivial
        | ok _ => exact ih

theorem restoreTables_editing (tables : GoMap TableData) (schemas : List TableSchema) :
    (restoreTables library options tables schemas).Only fun call => call.editing = true := by
  induction schemas with
  | nil => trivial
  | cons schema rest ih =>
      refine (restoreRows_editing schema _).bind fun result => ?_
      cases result with
      | error failure => trivial
      | ok _ => exact ih

/-- What the statements of a transaction edit is its own until the commit. -/
theorem editing_ensures {α : Type} {program : Process α} (only : program.Only fun call => call.editing = true) :
    program.Ensures (perform library db columns) (fun moment => moment.state.stored = state.stored)
      (fun _ _ final => final.tables = state.tables ∧ final.stored = state.stored) earlier state := by
  have kept : program.Ensures (perform library db columns) (fun moment => moment.state.stored = state.stored)
      (fun _ _ final => (final.tables, final.stored) = (state.tables, state.stored)) earlier state := by
    refine only.ensures ?_ fun _ _ same => congrArg Prod.snd same
    intro call choice before reply after editing answered
    have tableless : call.tableless = true := by cases call <;> first | rfl | cases editing
    have storeless : call.storeless = true := by cases call <;> first | rfl | cases editing
    rw [perform_tables tableless answered, perform_stored storeless answered]
  exact kept.mono (fun _ same => same) fun _ _ _ same => Prod.mk.inj same

/-- The transaction that replaces the tables is committed, and the answer to its
COMMIT is an error. -/
def Unanswered (moments : List BackupMoment) (failure : GoError) (after : Tables) : Prop :=
  ∃ before transaction, (⟨before, ⟨.commit, .error failure⟩⟩ : BackupMoment) ∈ moments ∧
    before.transaction = some transaction ∧ transaction.readOnly = false ∧ after = transaction.tables

theorem Unanswered.cons {moments : List BackupMoment} {failure : GoError} {after : Tables}
    (unanswered : Unanswered moments failure after) (moment : BackupMoment) :
    Unanswered (moment :: moments) failure after := by
  obtain ⟨before, transaction, member, rest⟩ := unanswered
  exact ⟨before, transaction, List.mem_cons_of_mem _ member, rest⟩

theorem replaceTables_ensures (tables : GoMap TableData) :
    (replaceTables library options tables).Ensures (perform library db columns)
      (fun moment => moment.state.stored = state.stored)
      (fun moments result final => final.stored = state.stored ∧
        ∀ failure, result = .error failure →
          final.tables = state.tables ∨ Unanswered moments failure final.tables) earlier state := by
  unfold replaceTables
  refine (editing_ensures (clearTables_editing clearOrder)).bind ?_
  rintro moments result cleared ⟨same, stored⟩
  cases result with
  | error failure => exact ⟨stored, fun _ _ => .inl same⟩
  | ok _ =>
      refine ((editing_ensures (restoreTables_editing tables logicalSchema)).mono
        (fun moment at_ => Eq.trans at_ stored) (fun _ _ _ both => both)).bind ?_
      rintro moments result filled ⟨same_, stored_⟩
      cases result with
      | error failure => exact ⟨stored_.trans stored, fun _ _ => .inl (same_.trans same)⟩
      | ok _ =>
          intro choice reply after answered
          refine ⟨stored_.trans stored, (perform_stored rfl answered).trans (stored_.trans stored), ?_⟩
          obtain ⟨transaction, found, outcome⟩ := perform_commit answered
          rcases outcome with ⟨failure, rfl, kept | ⟨writes, left⟩⟩ | ⟨rfl, _⟩
          · exact fun _ _ => .inl (kept.trans (same_.trans same))
          · rintro _ ⟨⟩
            exact .inr ⟨filled, transaction, List.mem_cons_self, found, writes, left⟩
          · exact nofun

/-- A restore that fails leaves all tables alone, unless it is the answer to its
COMMIT that fails, and none touches the backups. -/
theorem restoreSnapshot_ensures (archive : Archive) :
    (restoreSnapshot library options archive).Ensures (perform library db columns)
      (fun moment => moment.state.stored = state.stored)
      (fun moments result final => final.stored = state.stored ∧
        ∀ failure, result = .error failure →
          final.tables = state.tables ∨ Unanswered moments failure final.tables) earlier state := by
  unfold restoreSnapshot
  split
  · exact ⟨rfl, fun _ _ => .inl rfl⟩
  · apply Program.Ensures.call
    intro choice reply begun answered
    refine ⟨rfl, ?_⟩
    have same : begun.tables = state.tables := perform_tables rfl answered
    have stored : begun.stored = state.stored := perform_stored rfl answered
    cases reply with
    | error failure => exact ⟨stored, fun _ _ => .inl same⟩
    | ok _ =>
        refine ((replaceTables_ensures _).mono (fun moment at_ => Eq.trans at_ stored) (fun _ _ _ both => both)).bind ?_
        rintro moments result between ⟨stored_, kept⟩
        apply Program.Ensures.call
        intro choice reply after answered
        refine ⟨stored_.trans stored, (perform_stored rfl answered).trans (stored_.trans stored), ?_⟩
        intro failure failed
        rw [perform_tables rfl answered, ← same]
        exact (kept failure failed).imp_right fun unanswered => unanswered.cons _

theorem readVerified_still (id : GoString) : (readVerified id).Only fun call => call.still = true := by
  unfold readVerified
  refine ⟨rfl, fun reply => ?_⟩
  cases reply with
  | error failure => trivial
  | ok metadata =>
      dsimp only [Program.bind]
      split
      · trivial
      · refine ⟨rfl, fun reply => ?_⟩
        cases reply with
        | error failure => trivial
        | ok _ =>
            refine ⟨rfl, fun reply => ?_⟩
            cases reply with
            | error failure => trivial
            | ok data =>
                dsimp only [Program.bind]
                split
                · trivial
                · split <;> trivial

/-- The tables are as they were, or have the audit entry of a new backup besides. -/
def Kept (library : Library) (db : Database) (columns : Columns) (tables after : Tables) : Prop :=
  after = tables ∨ Logged library db columns tables after

/-- The audit entry with which a restore ends could not be appended. -/
def Unlogged (moments : List BackupMoment) (failure : GoError) : Prop :=
  ∃ before entry, entry.eventType = text "backup_restored" ∧
    (⟨before, ⟨.append entry, .error failure⟩⟩ : BackupMoment) ∈ moments

/-- The error comes when the transaction that replaces the tables is committed. -/
def Late (moments : List BackupMoment) (failure : GoError) (after : Tables) : Prop :=
  Unanswered moments failure after ∨ Unlogged moments failure

/-- What holds on the way: the tables are still these, or a backup of them is stored. -/
def Safe (library : Library) (db : Database) (tables : Tables) (passphrase : GoString) (moment : BackupMoment) : Prop :=
  Backed library db .safety tables passphrase moment.state ∨ Calm tables moment

theorem Backed.stays {kind : Kind} {tables : Tables} {passphrase : GoString} {before after : State}
    (backed : Backed library db kind tables passphrase before) (stored : after.stored = before.stored) :
    Backed library db kind tables passphrase after := by
  obtain ⟨backups, files⟩ := Prod.mk.inj stored
  unfold Backed
  rw [backups, files]
  exact backed

theorem replaceData_ensures (archive : Archive) (passphrase requestID sourceIP : GoString) :
    (replaceData library options archive passphrase requestID sourceIP).Ensures (perform library db columns)
      (Safe library db state.tables passphrase)
      (fun moments result final =>
        (Backed library db .safety state.tables passphrase final ∨
          (∃ failure, result = .error failure) ∧ final.tables = state.tables) ∧
        ∀ failure, result = .error failure →
          Kept library db columns state.tables final.tables ∨ Unanswered moments failure final.tables) earlier state := by
  unfold replaceData
  refine ((createLocked_ensures passphrase .safety requestID sourceIP).mono (fun _ => .inr)
    (fun _ _ _ outcome => outcome)).bind ?_
  rintro moments result between ⟨failed, made⟩
  cases result with
  | error failure =>
      rcases failed failure rfl with same | ⟨logged, backed⟩
      · exact ⟨.inr ⟨⟨_, rfl⟩, same⟩, fun _ _ => .inl (.inl same)⟩
      · exact ⟨.inl backed, fun _ _ => .inl (.inr logged)⟩
  | ok metadata =>
      obtain ⟨logged, backed⟩ := made metadata rfl
      refine (restoreSnapshot_ensures archive).mono (fun moment stored => .inl (backed.stays stored)) ?_
      rintro moments result final ⟨stored, kept⟩
      refine ⟨.inl (backed.stays stored), fun failure error => (kept failure error).imp_left fun same => .inr ?_⟩
      rw [same]
      exact logged

theorem restoreLocked_ensures (id passphrase requestID sourceIP : GoString) :
    (restoreLocked library options id passphrase requestID sourceIP).Ensures (perform library db columns)
      (Safe library db state.tables passphrase)
      (fun moments result final =>
        (Backed library db .safety state.tables passphrase final ∨ final.tables = state.tables) ∧
        ∀ failure, result = .error failure →
          Kept library db columns state.tables final.tables ∨ Late moments failure final.tables) earlier state := by
  have read : (readVerified id).Ensures (perform library db columns)
      (fun moment => moment.state = state ∧ moment.event.call ≠ .commit) (fun _ _ final => final = state) earlier state := by
    refine (readVerified_still id).ensures (fun _ _ _ _ _ still answered => perform_still still answered)
      fun moment still same => ⟨same, ?_⟩
    rintro commit
    rw [commit] at still
    cases still
  unfold restoreLocked
  refine (read.mono (fun moment at_ => .inr (calm_of_call (by rw [at_.1]) at_.2)) (fun _ _ _ same => same)).bind ?_
  rintro moments result _ rfl
  cases result with
  | error failure => exact ⟨.inr rfl, fun _ _ => .inl (.inl rfl)⟩
  | ok pair =>
      dsimp only
      split
      · exact ⟨.inr rfl, fun _ _ => .inl (.inl rfl)⟩
      · next archive opened =>
        refine (replaceData_ensures archive passphrase requestID sourceIP).bind ?_
        rintro moments result between ⟨safe, kept⟩
        cases result with
        | error failure =>
            refine ⟨safe.imp_right And.right, ?_⟩
            rintro _ ⟨⟩
            exact (kept failure rfl).imp_right .inl
        | ok _ =>
            have backed : Backed library db .safety _ passphrase between :=
              safe.resolve_right fun ⟨⟨_, error⟩, _⟩ => nomatch error
            refine (appendAudit_ensures _ id requestID sourceIP _).mono
              (fun moment at_ => .inl (by rw [at_.1]; exact backed)) ?_
            rintro moments result final ⟨stored, failed, _⟩
            refine ⟨.inl (backed.stays stored), fun failure error => .inr (.inr ?_)⟩
            obtain ⟨before, entry, type, member, _⟩ := failed failure error
            exact ⟨before, entry, type, member⟩

/-- A restore that fails has left the tables alone, but for the audit entry of
the backup that it makes first; or else it is late: the answer to its COMMIT is
what failed, or the audit entry with which it ends. Wherever it is cut off, the
tables are as they were or that backup of them is stored, and it is stored
before a transaction replaces them. -/
theorem restore_safe (library : Library) (options : Options) (db : Database) (columns : Columns)
    (id passphrase requestID sourceIP : GoString) (state : State) :
    (restore library options id passphrase requestID sourceIP).Ensures (perform library db columns)
      (Safe library db state.tables passphrase)
      (fun moments result final =>
        (Backed library db .safety state.tables passphrase final ∨ final.tables = state.tables) ∧
        ∀ failure, result = .error failure →
          Kept library db columns state.tables final.tables ∨ Late moments failure final.tables) [] state := by
  unfold restore
  apply Program.Ensures.call
  intro choice reply looked answered
  obtain rfl := perform_still rfl answered
  refine ⟨.inr (calm_of_call rfl nofun), ?_⟩
  rcases reply with failure | (_ | _)
  · exact ⟨.inr rfl, fun _ _ => .inl (.inl rfl)⟩
  · apply Program.Ensures.call
    intro choice reply locked answered
    have same : locked.tables = looked.tables := perform_tables rfl answered
    refine ⟨.inr (calm_of_call rfl nofun), ?_⟩
    rw [← same]
    refine (restoreLocked_ensures id passphrase requestID sourceIP).bind ?_
    rintro moments outcome between ⟨safe, kept⟩
    apply Program.Ensures.call
    intro choice reply final answered
    have same_ : final.tables = between.tables := perform_tables rfl answered
    have stored : final.stored = between.stored := perform_stored rfl answered
    refine ⟨safe.imp_right fun still => calm_of_call still nofun, ?_, ?_⟩
    · rw [same_]
      exact safe.imp_left fun backed => backed.stays stored
    · intro failure error
      rw [same_]
      refine (kept failure error).imp_right ?_
      rintro (unanswered | ⟨before, entry, type, member⟩)
      · exact .inl (unanswered.cons _)
      · exact .inr ⟨before, entry, type, List.mem_cons_of_mem _ member⟩
  · exact ⟨.inr rfl, fun _ _ => .inl (.inl rfl)⟩

end Restoring

/-! ## An entry that cannot be appended -/

/-- The archive of empty tables. -/
def emptyArchive : Archive where
  formatVersion := currentFormatVersion
  applicationVersion := text "1.0.0"
  createdAt := 0
  sourceDialect := text "sqlite"
  manifest := some (logicalSchema.foldl (fun map schema => map.set schema.name 0) .empty)
  tables := some (logicalSchema.foldl (fun map schema => map.set schema.name ⟨columnNames schema, []⟩) .empty)

/-- A cipher whose tag is of zeros, and JSON that only has to be told apart. -/
def plainLibrary : Library where
  formatTime _ := text "1970-01-01T00:00:00Z"
  formatCompact _ := text "19700101T000000Z"
  parseTime _ _ := some 0
  printTime _ := text "1970-01-01 00:00:00 +0000 UTC"
  marshalArchive archive := some (integerText ((archive.manifest.map fun manifest =>
    manifest.entries.foldl (fun total entry => total + entry.2) 0).getD 0))
  unmarshalArchive value := if value = text "0" then some emptyArchive else none
  marshalManifest _ := text "\x7b\x7d"
  marshalEnvelope envelope := envelope.salt ++ envelope.nonce ++ envelope.ciphertext
  decodeEnvelope value := some ⟨envelopeMagic, currentFormatVersion, text "scrypt", scryptN, scryptR, scryptP,
    value.take 16, (value.drop 16).take 12, value.drop 28⟩
  scryptKey passphrase salt := passphrase ++ salt
  gcm := {
    seal_ _ _ plaintext _ := List.replicate 16 0 ++ plaintext
    open_ _ _ ciphertext _ := some (ciphertext.drop 16) }
  failure := .plain

def examplePassphrase : GoString := text "correct horse"

def exampleData : GoString :=
  sealText plainLibrary (text "0") examplePassphrase (List.replicate 16 1) (List.replicate 12 2)

def exampleColumns : Columns := ⟨fun _ row => row, fun _ => text "\x7b\x7d"⟩

def exampleTables : Tables := fun name =>
  if name = text "settings" then [fun _ => .string (text "1")] else []

/-- One setting, and the backup of a time at which there was none. -/
def exampleState : State where
  tables := exampleTables
  transaction := none
  backups := [metadataOf plainLibrary emptyArchive exampleData (text "a") .manual 0]
  files := GoMap.empty.set (filenameOf plainLibrary 0 (text "a")) exampleData
  locked := false

/-- Everything is done but for the last audit entry. -/
def exampleChoices : List Choice :=
  List.flatten [
    List.replicate 5 .done,
    .instant 0 :: .done :: List.replicate logicalSchema.length .done,
    [.done, .done, .random (List.replicate 16 3), .random (List.replicate 12 4), .identifier (text "b"), .instant 0],
    [.identifier (text "t"), .done, .done, .done, .done, .done, .fails (.plain (text "gone")) 0, .done],
    [.identifier (text "c"), .instant 0, .done, .done],
    List.replicate clearOrder.length .done,
    [.done, .done, .identifier (text "d"), .instant 0, .fails (.plain (text "database is locked")) 0, .done]]

private theorem example_run :
    (((restore plainLibrary ⟨.sqlite, text "1.0.0"⟩ (text "a") examplePassphrase (text "r") (text "::1")).run
      (perform plainLibrary (Database.plain .sqlite) exampleColumns) exampleChoices exampleState).map fun outcome =>
        (outcome.1.isOk, (outcome.2.tables (text "settings")).length)) = some (false, 0) := by
  decide +kernel

/-- The error comes when the tables are replaced already. -/
theorem restore_unlogged :
    ¬ ∀ (library : Library) (options : Options) (db : Database) (columns : Columns)
      (id passphrase requestID sourceIP : GoString) (state : State),
      (restore library options id passphrase requestID sourceIP).Ensures (perform library db columns) (fun _ => True)
        (fun _ result final => ∀ failure, result = .error failure →
          Kept library db columns state.tables final.tables) [] state := by
  intro claim
  obtain ⟨⟨result, final⟩, ran, ended⟩ := Option.map_eq_some_iff.mp example_run
  obtain ⟨failed, emptied⟩ := Prod.mk.inj ended
  obtain ⟨_, kept⟩ := (claim _ _ _ _ _ _ _ _ _).run ran
  cases result with
  | ok _ => cases failed
  | error failure =>
      have setting : (exampleState.tables (text "settings")).length = 1 := by decide
      have apart : text "settings" ≠ auditTable := by decide
      rcases kept failure rfl with same | ⟨entry, _, same⟩
      · rw [same, setting] at emptied
        cases emptied
      · rw [same, appended, Tables.set, if_neg apart, setting] at emptied
        cases emptied

end NodeAtlas.Backup.Files
