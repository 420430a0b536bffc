import NodeAtlas.Backup.Creation
import NodeAtlas.Paths

/-! Which paths the names of backups stand for. -/

set_option autoImplicit false

namespace NodeAtlas.Backup.Files

open Interleaving

/-! ## Names -/

/-- The path of this name is that of an entry of the directory. -/
def Entry (directory name : GoString) : Prop :=
  Path.dir (Path.join directory name) = Path.clean directory ∧ Path.base (Path.join directory name) = name

theorem properFilename_iff {filename : GoString} :
    properFilename filename = true ↔ Path.base filename = filename ∧ suffix.isSuffixOf filename = true := by
  have root : text "/" = [Path.slash] := rfl
  rw [Path.base_eq_iff]
  simp [properFilename, root, Path.slash, and_assoc]

theorem ordinary_of_suffix {name : GoString} (flat : Path.slash ∉ name) (ends : suffix.isSuffixOf name = true) :
    Path.Ordinary name := by
  have long : 5 ≤ name.length := (List.isSuffixOf_iff_suffix.mp ends).length_le
  refine ⟨?_, ?_, ?_, flat⟩
  · rintro rfl
    cases long
  · rintro rfl
    exact absurd long (by decide)
  · rintro rfl
    exact absurd long (by decide)

theorem proper_ordinary {filename : GoString} (proper : properFilename filename = true) : Path.Ordinary filename := by
  obtain ⟨same, ends⟩ := properFilename_iff.mp proper
  obtain ⟨_, rfl | flat⟩ := Path.base_eq_iff.mp same
  · exact absurd ends (by decide)
  · exact ordinary_of_suffix flat ends

section Names

variable {library : Library}

theorem filenameOf_ordinary {createdAt : Instant} {id : GoString} (time : Path.slash ∉ library.formatCompact createdAt)
    (flat : Path.slash ∉ id) : Path.Ordinary (filenameOf library createdAt id) := by
  refine ordinary_of_suffix ?_ ?_
  · have first : Path.slash ∉ text "controlpanel-" := by decide
    have dash : Path.slash ∉ text "-" := by decide
    have last : Path.slash ∉ suffix := by decide
    simp only [filenameOf, List.mem_append, not_or]
    exact ⟨⟨⟨⟨first, time⟩, dash⟩, flat⟩, last⟩
  · rw [List.isSuffixOf_iff_suffix]
    exact List.suffix_append _ _

end Names

/-! ## The files that are read -/

def Call.readsIn (directory : GoString) : Call → Prop
  | .openFile name | .readAll name _ => Entry directory name
  | _ => True

section Reading

variable {directory : GoString} {library : Library} {options : Options}

theorem readsIn_fileless {call : Call} (fileless : call.fileless = true) : call.readsIn directory := by
  cases call <;> trivial

theorem readsIn_filing {call : Call} (filing : call.filing = true) : call.readsIn directory := by
  cases call <;> trivial

theorem readsIn_editing {call : Call} (editing : call.editing = true) : call.readsIn directory := by
  cases call <;> trivial

theorem readVerified_readsIn (some_ : directory ≠ []) (id : GoString) :
    (readVerified id).Only (Call.readsIn directory) := by
  unfold readVerified
  refine ⟨trivial, fun reply => ?_⟩
  cases reply with
  | error failure => trivial
  | ok metadata =>
      dsimp only [Program.bind]
      split
      · trivial
      · next proper =>
        have entry : Entry directory metadata.filename :=
          Path.join_parts some_ (proper_ordinary (by simpa using proper))
        refine ⟨entry, fun reply => ?_⟩
        cases reply with
        | error failure => trivial
        | ok _ =>
            refine ⟨entry, fun reply => ?_⟩
            cases reply with
            | error failure => trivial
            | ok data =>
                dsimp only [Program.bind]
                split
                · trivial
                · split <;> trivial

theorem appendAudit_readsIn (eventType targetID requestID sourceIP : GoString) (metadata : JSONMap) :
    (appendAudit eventType targetID requestID sourceIP metadata).Only (Call.readsIn directory) := by
  unfold appendAudit
  exact ⟨trivial, fun _ => ⟨trivial, fun _ => ⟨trivial, fun _ => trivial⟩⟩⟩

theorem storeBackup_readsIn (archive : Archive) (data : GoString) (kind : Kind) (requestID sourceIP : GoString) :
    (storeBackup library archive data kind requestID sourceIP).Only (Call.readsIn directory) := by
  unfold storeBackup
  refine ⟨trivial, fun id => ⟨trivial, fun createdAt => ?_⟩⟩
  refine ((writeFile_filing _ data).mono fun _ => readsIn_filing).bind fun result => ?_
  cases result with
  | error failure => trivial
  | ok _ =>
      refine ⟨trivial, fun reply => ?_⟩
      cases reply with
      | error failure => exact ⟨trivial, fun _ => trivial⟩
      | ok _ =>
          refine (appendAudit_readsIn _ _ _ _ _).bind fun result => ?_
          cases result <;> trivial

theorem createLocked_readsIn (passphrase : GoString) (kind : Kind) (requestID sourceIP : GoString) :
    (createLocked library options passphrase kind requestID sourceIP).Only (Call.readsIn directory) := by
  unfold createLocked
  refine (exportSnapshot_fileless.mono fun _ => readsIn_fileless).bind fun result => ?_
  cases result with
  | error failure => trivial
  | ok archive =>
      refine ((sealArchive_fileless archive passphrase).mono fun _ => readsIn_fileless).bind fun result => ?_
      cases result with
      | error failure => trivial
      | ok data => exact storeBackup_readsIn archive data kind requestID sourceIP

theorem restoreSnapshot_readsIn (archive : Archive) :
    (restoreSnapshot library options archive).Only (Call.readsIn directory) := by
  unfold restoreSnapshot
  split
  · trivial
  · refine ⟨trivial, fun reply => ?_⟩
    cases reply with
    | error failure => trivial
    | ok _ =>
        have replaced : (replaceTables library options (archive.tables.getD .empty)).Only (Call.readsIn directory) := by
          unfold replaceTables
          refine ((clearTables_editing _).mono fun _ => readsIn_editing).bind fun result => ?_
          cases result with
          | error failure => trivial
          | ok _ =>
              refine ((restoreTables_editing _ _).mono fun _ => readsIn_editing).bind fun result => ?_
              cases result with
              | error failure => trivial
              | ok _ => exact ⟨trivial, fun _ => trivial⟩
        exact replaced.bind fun outcome => ⟨trivial, fun _ => trivial⟩

theorem restoreLocked_readsIn (some_ : directory ≠ []) (id passphrase requestID sourceIP : GoString) :
    (restoreLocked library options id passphrase requestID sourceIP).Only (Call.readsIn directory) := by
  unfold restoreLocked
  refine (readVerified_readsIn some_ id).bind fun result => ?_
  cases result with
  | error failure => trivial
  | ok read =>
      dsimp only
      split
      · trivial
      · next archive _ =>
        have replaced : (replaceData library options archive passphrase requestID sourceIP).Only
            (Call.readsIn directory) := by
          unfold replaceData
          refine (createLocked_readsIn passphrase .safety requestID sourceIP).bind fun result => ?_
          cases result with
          | error failure => trivial
          | ok _ => exact restoreSnapshot_readsIn archive
        refine replaced.bind fun result => ?_
        cases result with
        | error failure => trivial
        | ok _ => exact appendAudit_readsIn _ _ _ _ _

end Reading

/-- Whatever the rows of the backups say, and whatever is replied, the files that
`Download`, `Validate` and `Restore` open and read are entries of the configured
directory itself, and different names are different entries. Every name that
`Create` makes, of a time and an identifier without slashes, is one of these. -/
theorem backups_stay_in_directory (library : Library) (options : Options) {directory : GoString}
    (configured : directory ≠ []) :
    (∀ id, (download id).Only (Call.readsIn directory)) ∧
    (∀ id passphrase, (validate library id passphrase).Only (Call.readsIn directory)) ∧
    (∀ id passphrase requestID sourceIP,
      (restore library options id passphrase requestID sourceIP).Only (Call.readsIn directory)) ∧
    (∀ name other, Entry directory name → Entry directory other →
      Path.join directory name = Path.join directory other → name = other) ∧
    ∀ createdAt id, Path.slash ∉ library.formatCompact createdAt → Path.slash ∉ id →
      properFilename (filenameOf library createdAt id) = true ∧ Entry directory (filenameOf library createdAt id) := by
  refine ⟨fun id => ?_, fun id passphrase => ?_, fun id passphrase requestID sourceIP => ?_, ?_, ?_⟩
  · unfold download
    refine (readVerified_readsIn configured id).bind fun result => ?_
    cases result <;> trivial
  · unfold validate
    refine (readVerified_readsIn configured id).bind fun result => ?_
    cases result with
    | error failure => trivial
    | ok read =>
        dsimp only
        split <;> trivial
  · unfold restore
    refine ⟨trivial, fun reply => ?_⟩
    cases reply with
    | error failure => trivial
    | ok active =>
        cases active with
        | true => trivial
        | false =>
            refine ⟨trivial, fun _ => ?_⟩
            exact (restoreLocked_readsIn configured id passphrase requestID sourceIP).bind fun _ =>
              ⟨trivial, fun _ => trivial⟩
  · intro name other named entry same
    rw [← named.2, same, entry.2]
  · intro createdAt id time flat
    have ordinary := filenameOf_ordinary time flat
    refine ⟨?_, Path.join_parts configured ordinary⟩
    rw [properFilename_iff, Path.base_eq_iff]
    exact ⟨⟨ordinary.some_, .inr ordinary.flat⟩, List.isSuffixOf_iff_suffix.mpr (List.suffix_append _ _)⟩

/-- A directory that is spelled in a roundabout way. -/
theorem backups_stay_in_directory_roundabout :
    (restore plainLibrary ⟨.sqlite, text "1.0.0"⟩ (text "a") examplePassphrase (text "r") (text "::1")).Only
        (Call.readsIn (text "../panel//data/./backups/")) ∧
      Path.join (text "../panel//data/./backups/") (text "a.scpb") = text "../panel/data/backups/a.scpb" :=
  ⟨(backups_stay_in_directory plainLibrary ⟨.sqlite, text "1.0.0"⟩
    (show text "../panel//data/./backups/" ≠ [] by decide)).2.2.1 _ _ _ _, by decide⟩

end NodeAtlas.Backup.Files
