import NodeAtlas.Backup.Encoding
import NodeAtlas.Backup.Restoration

/-! What making a backup leaves behind in the directory and in the table of
backups, whether it succeeds or fails. -/

set_option autoImplicit false

namespace NodeAtlas.Backup.Files

open Interleaving

variable {library : Library} {options : Options} {db : Database} {columns : Columns}

/-- The files are the same but for this one. -/
def SameBut (name : GoString) (before after : State) : Prop :=
  ∀ other, other ≠ name → after.files.get other = before.files.get other

/-- A file that is there could not be removed. -/
def Stuck (name : GoString) (moments : List BackupMoment) : Prop :=
  ∃ before failure, (⟨before, ⟨.remove name, .error failure⟩⟩ : BackupMoment) ∈ moments ∧
    (before.files.get name).isSome = true

/-- The entry of a new backup could not be appended. -/
def Unaudited (moments : List BackupMoment) : Prop :=
  ∃ before entry failure, entry.eventType = text "backup_created" ∧
    (⟨before, ⟨.append entry, .error failure⟩⟩ : BackupMoment) ∈ moments

/-- The backup is stored, and nothing else has changed. -/
def Stored (db : Database) (before after : State) (metadata : Metadata) (data : GoString) : Prop :=
  after.backups = before.backups ++ [{ metadata with createdAt := db.stamp metadata.createdAt }] ∧
    before.files.get metadata.filename = none ∧ after.files.get metadata.filename = some data ∧
    SameBut metadata.filename before after

/-- No file is left, or one that could not be removed. -/
def Swept (before : State) (moments : List BackupMoment) (after : State) : Prop :=
  (∀ name, after.files.get name = before.files.get name) ∨ ∃ name, Stuck name moments ∧ SameBut name before after

/-- Nothing is left, or a file that could not be removed. -/
def Cleared (before : State) (moments : List BackupMoment) (after : State) : Prop :=
  after.backups = before.backups ∧ Swept before moments after

/-- The row of the backup is inserted although its INSERT is answered with an
error, and the file is cleared away. -/
def Listed (db : Database) (before : State) (moments : List BackupMoment) (after : State) : Prop :=
  ∃ inserting metadata failure, (⟨inserting, ⟨.create metadata, .error failure⟩⟩ : BackupMoment) ∈ moments ∧
    after.backups = before.backups ++ [{ metadata with createdAt := db.stamp metadata.createdAt }] ∧
    Swept before moments after

section Files

variable {state : State} {earlier : List BackupMoment}

theorem Cleared.of_stored {before after : State} {moments : List BackupMoment}
    (same : after.stored = before.stored) : Cleared before moments after := by
  obtain ⟨backups, files⟩ := Prod.mk.inj same
  exact ⟨backups, .inl fun _ => by rw [files]⟩

/-- The calls about a temporary file. -/
def Call.about (name : GoString) : Call → Prop
  | .chmod other | .write other _ | .sync other | .close other => other = name
  | _ => False

/-- Only a temporary file has changed, and it is still there. -/
structure Touches (name : GoString) (before after : State) : Prop where
  backups : after.backups = before.backups
  others : SameBut name before after
  there : (before.files.get name).isSome = true → (after.files.get name).isSome = true

theorem perform_touches {name : GoString} {call : Call} {choice : Choice} {before after : State} {reply : call.Reply}
    (about : call.about name) (answered : perform library db columns call choice before = some (reply, after)) :
    Touches name before after := by
  have written : ∀ data : GoString, Touches name before { before with files := before.files.set name data } := by
    intro data
    refine ⟨rfl, fun other apart => ?_, fun _ => ?_⟩
    · rw [GoMap.get_set, if_neg apart]
    · rw [GoMap.get_set, if_pos rfl]
      rfl
  cases call with
  | write other data =>
      cases about
      cases choice with
      | done =>
          cases answered
          exact written data
      | fails failure progress =>
          cases answered
          exact written (data.take progress)
      | _ => cases answered
  | chmod other =>
      cases perform_still rfl answered
      exact ⟨rfl, fun _ _ => rfl, id⟩
  | sync other =>
      cases perform_still rfl answered
      exact ⟨rfl, fun _ _ => rfl, id⟩
  | close other =>
      cases perform_still rfl answered
      exact ⟨rfl, fun _ _ => rfl, id⟩
  | _ => cases about

theorem fillFile_about (temporary data : GoString) : (fillFile temporary data).Only (Call.about temporary) := by
  unfold fillFile
  refine ⟨rfl, fun reply => ?_⟩
  cases reply with
  | error failure => exact ⟨rfl, fun _ => trivial⟩
  | ok _ =>
      refine ⟨rfl, fun reply => ?_⟩
      cases reply with
      | error failure => exact ⟨rfl, fun _ => trivial⟩
      | ok _ =>
          refine ⟨rfl, fun reply => ?_⟩
          cases reply with
          | error failure => exact ⟨rfl, fun _ => trivial⟩
          | ok _ => exact ⟨rfl, fun _ => trivial⟩

theorem fillFile_touches (temporary data : GoString) :
    (fillFile temporary data).Ensures (perform library db columns) (fun _ => True)
      (fun _ _ final => Touches temporary state final) earlier state :=
  (fillFile_about temporary data).relates (fun _ => ⟨rfl, fun _ _ => rfl, id⟩)
    (fun _ _ _ first second => ⟨second.backups.trans first.backups,
      fun other apart => (second.others other apart).trans (first.others other apart),
      fun there => second.there (first.there there)⟩)
    fun _ _ _ _ _ about answered => perform_touches about answered

theorem fillFile_leaves (temporary data : GoString) :
    (fillFile temporary data).Ensures (perform library db columns) (fun _ => True)
      (fun _ result final => Touches temporary state final ∧
        (result = .ok () → final.files.get temporary = some data)) earlier state :=
  ((fillFile_touches temporary data).and (fillFile_ensures temporary data)).mono (fun _ _ => trivial)
    fun _ _ _ both => both

/-- A file that was not there before is removed, or stuck. -/
theorem perform_remove_swept {name : GoString} {choice : Choice} {before after : State} {reply : Except GoError Unit}
    {moments : List BackupMoment} (answered : perform library db columns (.remove name) choice before = some (reply, after))
    (others : SameBut name state before)
    (absent : state.files.get name = none) (there : (before.files.get name).isSome = true) :
    Swept state (⟨before, ⟨.remove name, reply⟩⟩ :: moments) after := by
  cases choice with
  | done =>
      unfold perform at answered
      dsimp only at answered
      rw [if_pos there] at answered
      cases answered
      refine .inl fun other => ?_
      rw [GoMap.get_erase]
      split
      · next same => rw [same, absent]
      · next apart => exact others other apart
  | fails failure progress =>
      cases answered
      exact .inr ⟨name, ⟨before, failure, List.mem_cons_self, there⟩, others⟩
  | _ => cases answered

theorem perform_remove_backups {name : GoString} {choice : Choice} {before after : State} {reply : Except GoError Unit}
    (answered : perform library db columns (.remove name) choice before = some (reply, after)) :
    after.backups = before.backups :=
  congrArg Prod.snd (perform_filing rfl answered)

theorem writeFile_leaves {filename : GoString} (data : GoString) (apart : ∀ value, filename ≠ temporaryName value) :
    (writeFile filename data).Ensures (perform library db columns) (fun _ => True)
      (fun moments result final => (∀ failure, result = .error failure → Cleared state moments final) ∧
        (result = .ok () → final.backups = state.backups ∧ SameBut filename state final ∧
          final.files.get filename = some data)) earlier state := by
  unfold writeFile
  apply Program.Ensures.call
  intro choice reply made answered
  refine ⟨trivial, ?_⟩
  have opened : (∃ failure, reply = .error failure ∧ made = state) ∨ ∃ value, reply = .ok (temporaryName value) ∧
      state.files.get (temporaryName value) = none ∧
      made = { state with files := state.files.set (temporaryName value) [] } := by
    cases choice with
    | identifier value =>
        unfold perform at answered
        dsimp only at answered
        split at answered
        · cases answered
        · next free =>
          cases answered
          exact .inr ⟨value, rfl, by simpa using free, rfl⟩
    | fails failure progress =>
        cases answered
        exact .inl ⟨failure, rfl, rfl⟩
    | _ => cases answered
  rcases opened with ⟨failure, rfl, rfl⟩ | ⟨value, rfl, absent, rfl⟩
  · exact ⟨fun _ _ => .of_stored rfl, nofun⟩
  · have begun : SameBut (temporaryName value) state
        { state with files := state.files.set (temporaryName value) [] } := by
      intro other different
      rw [GoMap.get_set, if_neg different]
    have there : (((state.files.set (temporaryName value) []) : GoMap GoString).get (temporaryName value)).isSome = true := by
      rw [GoMap.get_set, if_pos rfl]
      rfl
    refine (fillFile_leaves (temporaryName value) data).bind ?_
    rintro moments result between ⟨touched, filled⟩
    have others : SameBut (temporaryName value) state between := fun other different =>
      (touched.others other different).trans (begun other different)
    cases result with
    | error failure =>
        apply Program.Ensures.call
        intro choice reply removed answered
        exact ⟨trivial, fun _ _ => ⟨(perform_remove_backups answered).trans touched.backups,
          perform_remove_swept answered others absent (touched.there there)⟩, nofun⟩
    | ok _ =>
        have whole := filled rfl
        apply Program.Ensures.call
        intro choice outcome moved answered
        refine ⟨trivial, ?_⟩
        apply Program.Ensures.call
        intro further reply removed gone
        refine ⟨trivial, ?_⟩
        cases choice with
        | done =>
            obtain ⟨bytes, located, same⟩ := Option.map_eq_some_iff.mp answered
            cases same
            rw [whole] at located
            cases located
            have vanished : ((between.files.erase (temporaryName value)).set filename data).get (temporaryName value) =
                none := by
              rw [GoMap.get_set, if_neg fun same => apart value same.symm, GoMap.get_erase, if_pos rfl]
            cases further with
            | done =>
                unfold perform at gone
                dsimp only at gone
                rw [vanished] at gone
                cases gone
            | fails failure progress =>
                cases gone
                refine ⟨nofun, fun _ => ⟨touched.backups, fun other different => ?_, ?_⟩⟩
                · dsimp only
                  rw [GoMap.get_set, if_neg different, GoMap.get_erase]
                  split
                  · next same => rw [same, absent]
                  · next distinct => exact others other distinct
                · dsimp only
                  rw [GoMap.get_set, if_pos rfl]
            | _ => cases gone
        | fails failure progress =>
            cases answered
            exact ⟨fun _ _ => ⟨(perform_remove_backups gone).trans touched.backups,
              perform_remove_swept gone others absent (touched.there there)⟩, nofun⟩
        | _ => cases answered

/-- What making a backup may leave behind after an error: nothing of the backup, or
its row, or all of it but for the audit entry. -/
def Leftover (library : Library) (db : Database) (columns : Columns) (before : State) (moments : List BackupMoment)
    (after : State) : Prop :=
  (Cleared before moments after ∨ Listed db before moments after) ∧ after.tables = before.tables ∨
    Unaudited moments ∧ (∃ metadata data, Stored db before after metadata data) ∧
      Kept library db columns before.tables after.tables

/-- What a backup that is stored has changed, and one that is not. -/
theorem storeBackup_leaves (archive : Archive) (data : GoString) (kind : Kind) (requestID sourceIP : GoString) :
    (storeBackup library archive data kind requestID sourceIP).Ensures (perform library db columns) (fun _ => True)
      (fun moments result final =>
        (∀ metadata, result = .ok metadata → Stored db state final metadata data ∧
          Logged library db columns state.tables final.tables) ∧
        ∀ failure, result = .error failure → Leftover library db columns state moments final) earlier state := by
  unfold storeBackup
  apply Program.Ensures.call
  intro choice id named answered
  have fresh : named = state ∧ unused db id state = true := by
    cases choice with
    | identifier value =>
        unfold perform at answered
        dsimp only at answered
        split at answered
        · next free =>
          cases answered
          exact ⟨rfl, free⟩
        · cases answered
    | _ => cases answered
  obtain ⟨rfl, free⟩ := fresh
  refine ⟨trivial, ?_⟩
  apply Program.Ensures.call
  intro choice createdAt timed answered
  obtain rfl := perform_still rfl answered
  refine ⟨trivial, ?_⟩
  have apart : ∀ value, filenameOf library createdAt id ≠ temporaryName value := fun value same =>
    temporaryName_ne value createdAt id same.symm
  have absent : timed.files.get (filenameOf library createdAt id) = none := by
    rw [← Option.not_isSome_iff_eq_none]
    intro held
    obtain ⟨bytes, located⟩ := Option.isSome_iff_exists.mp held
    have listed := GoMap.get_eq_some.mp located
    have ends : (text "-" ++ id ++ text ".scpb").isSuffixOf (filenameOf library createdAt id) = true := by
      rw [List.isSuffixOf_iff_suffix]
      exact ⟨text "controlpanel-" ++ library.formatCompact createdAt, by simp [filenameOf, suffix]⟩
    have taken : (timed.files.entries.any fun entry => (text "-" ++ id ++ text ".scpb").isSuffixOf entry.1) = true :=
      List.any_eq_true.mpr ⟨_, listed, ends⟩
    rw [unused, taken] at free
    simp at free
  refine (((writeFile_leaves data apart).and (writeFile_spec data apart)).mono (fun _ _ => trivial)
    (fun _ _ _ both => both)).bind ?_
  rintro moments result written ⟨⟨failed, filled⟩, same, _⟩
  cases result with
  | error failure => exact ⟨fun _ other => (by cases other), fun _ _ => .inl ⟨.inl (failed failure rfl), same⟩⟩
  | ok _ =>
      obtain ⟨backups, others, whole⟩ := filled rfl
      apply Program.Ensures.call
      intro choice reply created answered
      have still : created.tables = timed.tables := (perform_tables rfl answered).trans same
      refine ⟨trivial, ?_⟩
      cases choice with
      | fails failure progress =>
          cases answered
          apply Program.Ensures.call
          intro choice reply removed answered
          have there : (written.files.get (filenameOf library createdAt id)).isSome = true := by
            rw [whole]
            rfl
          refine ⟨trivial, fun _ other => (by cases other), fun _ _ => .inl ⟨?_, (perform_tables rfl answered).trans still⟩⟩
          have left := perform_remove_backups answered
          dsimp only at left
          -- The row is there if the INSERT was carried out and its answer lost.
          split at left
          · exact .inl ⟨left.trans backups, perform_remove_swept answered others absent there⟩
          · refine .inr ⟨written, _, failure, List.mem_cons_of_mem _ List.mem_cons_self, ?_,
              perform_remove_swept answered others absent there⟩
            rw [left, backups]
      | done =>
          unfold perform at answered
          dsimp only at answered
          split at answered
          · cases answered
          · cases answered
            have stored : ∀ final : State, final.stored = (written.backups ++
                [{ metadataOf library archive data id kind createdAt with createdAt := db.stamp createdAt }], written.files) →
                Stored db timed final (metadataOf library archive data id kind createdAt) data := by
              intro final same
              obtain ⟨rows, files⟩ := Prod.mk.inj same
              refine ⟨by rw [rows, backups]; rfl, absent, by rw [files]; exact whole, fun other different => ?_⟩
              rw [files]
              exact others other different
            refine ((appendAudit_ensures _ id requestID sourceIP _).mono (fun _ _ => trivial) (fun _ _ _ both => both)).bind ?_
            rintro moments result final ⟨kept, failed, succeeded⟩
            dsimp only at failed succeeded
            rw [same] at failed succeeded
            cases result with
            | error failure =>
                obtain ⟨before, entry, type, member, left⟩ := failed failure rfl
                refine ⟨fun _ other => (by cases other), fun _ _ => .inr ⟨⟨before, entry, failure, type, member⟩,
                  ⟨_, data, stored final kept⟩, left.imp_right fun logged => ⟨entry, type, logged⟩⟩⟩
            | ok _ =>
                refine ⟨fun _ same => ?_, fun _ other => by cases other⟩
                cases same
                exact ⟨stored final kept, succeeded rfl⟩
      | _ => cases answered

end Files

section Creating

variable {state : State} {earlier : List BackupMoment}

/-- The calls that neither store a backup nor name a file. -/
def Call.fileless : Call → Bool
  | .create _ | .createTemp | .chmod _ | .write _ _ | .sync _ | .close _ | .rename _ _ | .remove _ | .openFile _
  | .readAll _ _ => false
  | _ => true

theorem Call.storeless_of_fileless {call : Call} (fileless : call.fileless = true) : call.storeless = true := by
  cases call <;> trivial

theorem exportTable_fileless (schema : TableSchema) :
    (exportTable library schema).Only fun call => call.fileless = true := by
  unfold exportTable
  refine ⟨rfl, fun reply => ?_⟩
  cases reply with
  | error failure => trivial
  | ok cursor =>
      dsimp only [Program.bind]
      split
      · trivial
      · split <;> trivial

theorem exportTables_fileless (schemas : List TableSchema) (manifest : GoMap Int) (tables : GoMap TableData) :
    (exportTables library manifest tables schemas).Only fun call => call.fileless = true := by
  induction schemas generalizing manifest tables with
  | nil => trivial
  | cons schema rest ih =>
      unfold exportTables
      refine (exportTable_fileless schema).bind fun result => ?_
      cases result with
      | error failure => trivial
      | ok table => exact ih _ _

theorem exportSnapshot_fileless : (exportSnapshot library options).Only fun call => call.fileless = true := by
  unfold exportSnapshot
  refine ⟨rfl, fun createdAt => ⟨rfl, fun reply => ?_⟩⟩
  cases reply with
  | error failure => trivial
  | ok _ =>
      have archived : (exportArchive library options createdAt).Only fun call => call.fileless = true := by
        unfold exportArchive
        refine (exportTables_fileless _ _ _).bind fun result => ?_
        cases result with
        | error failure => trivial
        | ok contents =>
            refine ⟨rfl, fun reply => ?_⟩
            cases reply <;> trivial
      exact archived.bind fun archive => ⟨rfl, fun _ => trivial⟩

theorem sealArchive_fileless (archive : Archive) (passphrase : GoString) :
    (sealArchive library archive passphrase).Only fun call => call.fileless = true := by
  unfold sealArchive
  split
  · trivial
  · refine ⟨rfl, fun salt => ?_⟩
    cases salt with
    | error failure => trivial
    | ok salt =>
        refine ⟨rfl, fun nonce => ?_⟩
        cases nonce <;> trivial

theorem fileless_ensures {α : Type} {program : Process α} (only : program.Only fun call => call.fileless = true) :
    program.Ensures (perform library db columns) (fun _ => True)
      (fun _ _ final => final.stored = state.stored) earlier state :=
  only.ensures (fun _ _ _ _ _ fileless answered => perform_stored (Call.storeless_of_fileless fileless) answered)
    fun _ _ _ => trivial

theorem Stored.framed {before first after last : State} {metadata : Metadata} {data : GoString}
    (stored : Stored db first after metadata data) (begun : first.stored = before.stored)
    (ended : last.stored = after.stored) : Stored db before last metadata data := by
  obtain ⟨backups, files⟩ := Prod.mk.inj begun
  obtain ⟨backups', files'⟩ := Prod.mk.inj ended
  unfold Stored SameBut at stored ⊢
  rw [backups', files', ← backups, ← files]
  exact stored

theorem Swept.framed {before first after last : State} {moments later : List BackupMoment}
    (swept : Swept first moments after) (begun : first.stored = before.stored)
    (ended : last.stored = after.stored) (grown : ∀ moment ∈ moments, moment ∈ later) : Swept before later last := by
  obtain ⟨_, files⟩ := Prod.mk.inj begun
  obtain ⟨_, files'⟩ := Prod.mk.inj ended
  unfold Swept SameBut at swept ⊢
  rw [files', ← files]
  refine swept.imp_right ?_
  rintro ⟨name, ⟨at_, failure, member, there⟩, same⟩
  exact ⟨name, ⟨at_, failure, grown _ member, there⟩, same⟩

theorem Unaudited.grown {moments later : List BackupMoment} (unaudited : Unaudited moments)
    (grown : ∀ moment ∈ moments, moment ∈ later) : Unaudited later := by
  obtain ⟨before, entry, failure, type, member⟩ := unaudited
  exact ⟨before, entry, failure, type, grown _ member⟩

theorem Leftover.framed {before first after last : State} {moments later : List BackupMoment}
    (leftover : Leftover library db columns first moments after) (begun : first.stored = before.stored)
    (ended : last.stored = after.stored) (same : first.tables = before.tables) (same' : last.tables = after.tables)
    (grown : ∀ moment ∈ moments, moment ∈ later) : Leftover library db columns before later last := by
  obtain ⟨backups, _⟩ := Prod.mk.inj begun
  obtain ⟨backups', _⟩ := Prod.mk.inj ended
  unfold Leftover Cleared Listed at leftover ⊢
  rw [backups', ← backups, same', ← same]
  rcases leftover with ⟨⟨rows, swept⟩ | ⟨inserting, metadata, failure, member, rows, swept⟩, kept⟩ | ⟨unaudited, stored, kept⟩
  · exact .inl ⟨.inl ⟨rows, swept.framed begun ended grown⟩, kept⟩
  · exact .inl ⟨.inr ⟨inserting, metadata, failure, grown _ member, rows, swept.framed begun ended grown⟩, kept⟩
  · obtain ⟨metadata, data, stored⟩ := stored
    exact .inr ⟨unaudited.grown grown, ⟨metadata, data, stored.framed begun ended⟩, kept⟩

theorem createLocked_leaves (passphrase : GoString) (kind : Kind) (requestID sourceIP : GoString) :
    (createLocked library options passphrase kind requestID sourceIP).Ensures (perform library db columns) (fun _ => True)
      (fun moments result final =>
        (∀ metadata, result = .ok metadata → (∃ data, Stored db state final metadata data) ∧
          Logged library db columns state.tables final.tables) ∧
        ∀ failure, result = .error failure → Leftover library db columns state moments final) earlier state := by
  unfold createLocked
  refine (((fileless_ensures exportSnapshot_fileless).and exportSnapshot_ensures).mono (fun _ _ => trivial)
    (fun _ _ _ both => both)).bind ?_
  rintro moments result exported ⟨same, still, _⟩
  cases result with
  | error failure => exact ⟨nofun, fun _ _ => .inl ⟨.inl (.of_stored same), still⟩⟩
  | ok archive =>
      refine ((sealArchive_ensures archive passphrase).mono (fun _ _ => trivial) (fun _ _ _ both => both)).bind ?_
      rintro moments result between ⟨rfl, _⟩
      cases result with
      | error failure => exact ⟨nofun, fun _ _ => .inl ⟨.inl (.of_stored same), still⟩⟩
      | ok data =>
          refine (storeBackup_leaves archive data kind requestID sourceIP).mono (fun _ _ => trivial) ?_
          rintro moments result final ⟨made, failed⟩
          refine ⟨fun metadata succeeded => ?_, fun failure error =>
            (failed failure error).framed same rfl still rfl fun _ => id⟩
          obtain ⟨stored, logged⟩ := made metadata succeeded
          rw [still] at logged
          exact ⟨⟨data, stored.framed same rfl⟩, logged⟩

end Creating

end NodeAtlas.Backup.Files
