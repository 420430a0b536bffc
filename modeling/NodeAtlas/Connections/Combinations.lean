import NodeAtlas.Connections.Stored

/-! Which endpoints, settings and credentials are stored together. An update
without credentials is validated with those that it has read, and does not
write them. -/

set_option autoImplicit false

namespace NodeAtlas.Connections

open Interleaving Providers Secrets

/-- What is stored together was accepted together, for a request that has
written the connection. -/
def Combined (db : Database) (gcm : GCM) (config : ConnectionsConfig) (row : Row) : Prop :=
  ∃ plaintext, decrypt gcm config.state.cipher row.id row.providerType row.envelope = .ok plaintext ∧
    ∃ write ∈ config.state.writes, db.same write.id row.id = true ∧
      (write.thread, (⟨.createProvider (row.config plaintext), .ok ()⟩ : ConnectionEvent)) ∈ config.history

def AllCombined (db : Database) (gcm : GCM) (config : ConnectionsConfig) : Prop :=
  ∀ row ∈ config.state.rows, Combined db gcm config row

/-- An update without credentials writes a connection whose stored envelope is
still the one that it has read. -/
def Undisturbed (db : Database) (config : ConnectionsConfig) (label : ConnectionsLabel) : Prop :=
  ∀ t connection reply, label = .performed t ⟨.update connection none, reply⟩ →
    ∀ id found envelope,
      (⟨.findByID id, .ok (found, envelope)⟩ : ConnectionEvent) ∈ own t config.history →
      ∀ row ∈ config.state.rows, present db connection.id row = true → row.envelope = envelope

section Runs

variable {db : Database} {columns : Row → Bool} {gcm : GCM} {texts : Texts}
  {accepts : (type endpoint settings credentials : GoString) → Bool} {config next : ConnectionsConfig}

/-- More keys do not change what an envelope opens to. -/
theorem decrypt_grown {before after : CredentialCipher} (grows : Grows before after) {id type plaintext : GoString}
    {envelope : Envelope} (opened : decrypt gcm before id type envelope = .ok plaintext) :
    decrypt gcm after id type envelope = .ok plaintext := by
  unfold decrypt at opened ⊢
  split at opened
  · cases opened
  · next key known =>
      rw [grows.key known]
      exact opened

private theorem Combined.later {row later : Row} (combined : Combined db gcm config row)
    (writes : ∀ write ∈ config.state.writes, write ∈ next.state.writes)
    (events : ∀ entry ∈ config.history, entry ∈ next.history)
    (grows : Grows config.state.cipher next.state.cipher)
    (same : ∀ plaintext, later.config plaintext = row.config plaintext)
    (sameEnvelope : later.envelope = row.envelope) : Combined db gcm next later := by
  obtain ⟨plaintext, opened, write, member, sameID, accepted⟩ := combined
  obtain ⟨id, type, _, _, _⟩ := ConnectionConfig.mk.inj (same plaintext)
  refine ⟨plaintext, ?_, write, writes _ member, ?_, ?_⟩
  · rw [id, type, sameEnvelope]
    exact decrypt_grown grows opened
  · rw [id]
    exact sameID
  · rw [same]
    exact events _ accepted

private theorem combined_rows (authentic : gcm.Authentic) (standing : Standing db gcm accepts config)
    (combined : AllCombined db gcm config) {t : Nat} {task : Activity}
    {event : ConnectionEvent} (ruled : rule gcm task (own t config.history) event)
    (undisturbed : Undisturbed db config (.performed t event))
    (changed : Changed db t config.state event.call next.state)
    (history : next.history = (t, event) :: config.history) :
    AllCombined db gcm next := by
  have events : ∀ entry ∈ config.history, entry ∈ next.history := by
    intro entry member
    rw [history]
    exact List.mem_cons_of_mem _ member
  have grows : Grows config.state.cipher next.state.cipher := by
    rw [changed.ciphers.1]
    exact .refl _
  obtain ⟨call, reply⟩ := event
  intro row member
  generalize after_ : next.state = after at changed member
  cases changed with
  | kept =>
      refine (combined row member).later ?_ events grows (fun _ => rfl) rfl
      rw [after_]
      exact fun _ member => member
  | @created connection credentials fresh =>
      have writes : ∀ write ∈ config.state.writes, write ∈ next.state.writes := by
        rw [after_]
        exact fun _ member => List.mem_cons_of_mem _ member
      cases List.mem_append.mp member with
      | inl former => exact (combined row former).later writes events grows (fun _ => rfl) rfl
      | inr new =>
          rw [List.mem_singleton.mp new]
          cases ruled rfl with
          | create encrypted accepted =>
              refine ⟨task.credentials, ?_, ⟨t, connection.id, true⟩, ?_, db.same_refl _,
                events _ (mem_own.mp accepted)⟩
              · rw [after_]
                exact (standing.encrypted encrypted).opens authentic
              · rw [after_]
                exact List.mem_cons_self
  | @updated connection credentials present_ among matched =>
      have writes : ∀ write ∈ config.state.writes, write ∈ next.state.writes := by
        rw [after_]
        exact fun _ member => List.mem_cons_of_mem _ member
      have wrote : ⟨t, connection.id, credentials.isSome⟩ ∈ next.state.writes := by
        rw [after_]
        exact List.mem_cons_self
      obtain ⟨former, _⟩ | ⟨old, former, meant, rfl⟩ := changeRow_mem member
      · exact (combined row former).later writes events grows (fun _ => rfl) rfl
      · have same := ((Bool.and_eq_true _ _).mp meant).1
        have named : db.same connection.id old.id = true := by
          rw [db.same_symm]
          exact same
        have stored : ∀ plaintext envelope, Found (own t config.history) connection envelope →
            (Row.updated db connection credentials old).config plaintext = connection.config plaintext := by
          intro plaintext envelope seen
          obtain ⟨id, type⟩ := standing.read_row seen former same
          change (⟨old.id, old.providerType, _, _, _⟩ : ConnectionConfig) = _
          rw [id, type]
          rfl
        cases ruled rfl with
        | @replace connection read replacement seen encrypted accepted =>
            obtain ⟨id, type⟩ := standing.read_row seen former same
            refine ⟨task.credentials, ?_, _, wrote, named, ?_⟩
            · change decrypt gcm next.state.cipher old.id old.providerType replacement = _
              rw [id, type, after_]
              exact (standing.encrypted encrypted).opens authentic
            · rw [stored _ _ seen]
              exact events _ (mem_own.mp accepted)
        | @keep connection read cipher plaintext seen known opened accepted =>
            obtain ⟨id, type⟩ := standing.read_row seen former same
            obtain ⟨asked, found, event, _, _⟩ := seen
            have unchanged := undisturbed t connection reply rfl asked found read event old former meant
            refine ⟨plaintext, ?_, _, wrote, named, ?_⟩
            · change decrypt gcm next.state.cipher old.id old.providerType old.envelope = _
              rw [id, type, unchanged, after_]
              exact decrypt_grown (standing.read t cipher (mem_own.mp known)) opened
            · rw [stored _ read ⟨asked, found, event, ‹_›, ‹_›⟩]
              exact events _ (mem_own.mp accepted)
  | deleted =>
      have writes : ∀ write ∈ config.state.writes, write ∈ next.state.writes := by
        rw [after_]
        exact fun _ member => member
      obtain ⟨former, _⟩ | ⟨old, former, _, rfl⟩ := changeRow_mem member
      · exact (combined row former).later writes events grows (fun _ => rfl) rfl
      · exact (combined old former).later writes events grows (fun _ => rfl) rfl

private theorem combined_step (authentic : gcm.Authentic) (standing : Standing db gcm accepts config)
    (disciplined : Disciplined (audit gcm) config)
    (combined : AllCombined db gcm config) {label : ConnectionsLabel}
    (transition : (connections db columns gcm texts accepts).Transition config label next)
    (undisturbed : Undisturbed db config label) : AllCombined db gcm next := by
  cases label with
  | performed t event =>
      obtain ⟨thread, found, ruled⟩ :=
        disciplined.performs (connections_passes db columns gcm texts accepts) transition
      cases transition with
      | performed found answered =>
          exact combined_rows authentic standing combined ruled undisturbed (perform_changed answered) rfl
  | spawned task =>
      cases transition
      intro row member
      exact (combined row member).later (fun _ member => member) (fun _ member => member) (.refl _)
        (fun _ => rfl) rfl
  | external choice =>
      cases transition with
      | external acted =>
          change external choice config.state = _ at acted
          cases choice with
          | configure keys activeVersion =>
              simp only [external] at acted
              split at acted
              · cases acted
              · split at acted
                · cases acted
                  intro row member
                  exact (combined row member).later (fun _ member => member) (fun _ member => member)
                    (.refl _) (fun _ => rfl) rfl
                · cases acted
          | _ => cases acted
  | crashed =>
      cases transition
      intro row member
      exact (combined row member).later (fun _ member => member) (fun _ member => member) standing.prospect
        (fun _ => rfl) rfl

end Runs

/-- As long as no update without credentials writes a connection whose
credentials were replaced after it read them, only combinations are stored that
were accepted. -/
theorem combinations_accepted (db : Database) (columns : Row → Bool) (gcm : GCM) (texts : Texts)
    (accepts : (type endpoint settings credentials : GoString) → Bool) (cipher : CredentialCipher)
    (config : ConnectionsConfig) (authentic : gcm.Authentic)
    (run : (connections db columns gcm texts accepts).Run (Undisturbed db) (installed cipher) config) :
    AllCombined db gcm config := by
  refine run.invariant ?_ ?_
  · intro row impossible
    cases impossible
  · intro before label after reached transition undisturbed combined
    have disciplined : Disciplined (audit gcm) before :=
      .run (connections_passes db columns gcm texts accepts) reached fun _ _ _ => trivial
    exact combined_step authentic (standing_run reached) disciplined combined transition undisturbed

/-! ## Two updates -/

/-- A registry of one type of provider, whose settings have to name its credentials. -/
def matching (type _endpoint settings credentials : GoString) : Bool :=
  type = text "paired" && settings = credentials

/-- A connection with settings and credentials 1. -/
def created : List (System.Move Activity Choice) :=
  [.spawn (.create ⟨text "lab", text "paired", [], text "1", text "1", false⟩),
    .advance 0 (.identifier (text "c1")), .advance 0 (.answered (.ok ())), .advance 0 .read,
    .advance 0 (.random (some someNonce)), .advance 0 (.instant 1), .advance 0 (.statement .done),
    .spawn (.update (text "c1") ⟨text "one", [], text "1", [], false⟩),
    .spawn (.update (text "c1") ⟨text "two", [], text "2", text "2", false⟩)]

/-- The update without credentials, up to its write. -/
def validated : List (System.Move Activity Choice) :=
  [.advance 1 (.statement .done), .advance 1 .read, .advance 1 (.answered (.ok ())), .advance 1 (.instant 2)]

/-- The update that replaces settings and credentials. -/
def replaced : List (System.Move Activity Choice) :=
  [.advance 2 (.statement .done), .advance 2 .read, .advance 2 .read, .advance 2 (.random (some someNonce)),
    .advance 2 (.answered (.ok ())), .advance 2 (.instant 3), .advance 2 (.statement .done)]

/-- What is stored of each connection, as settings and credentials. -/
def pairs (config : ConnectionsConfig) : List (GoString × Option GoString) :=
  config.state.rows.map fun row =>
    (row.settings, (decrypt openGCM config.state.cipher row.id row.providerType row.envelope).toOption)

theorem combinations_mixed : ¬ ∀ config : ConnectionsConfig,
    (connections (.plain .sqlite) (fun _ => true) openGCM plainTexts matching).Run (fun _ _ => True)
      (installed firstCipher) config →
    AllCombined (.plain .sqlite) openGCM config := by
  intro always
  have executed : ((connections (.plain .sqlite) (fun _ => true) openGCM plainTexts matching).execute
      (fun _ _ => true) (created ++ validated ++ replaced ++ [.advance 1 (.statement .done)])
      (installed firstCipher)).map pairs = some [(text "1", some (text "2"))] := by
    decide +kernel
  obtain ⟨config, reached, stored⟩ := Option.map_eq_some_iff.mp executed
  have run := System.execute_run reached fun _ _ _ => trivial
  obtain ⟨row, rows, same⟩ := List.map_eq_singleton_iff.mp stored
  obtain ⟨settings, opens⟩ := Prod.mk.inj same
  have member : row ∈ config.state.rows := by
    rw [rows]
    exact List.mem_cons_self
  obtain ⟨plaintext, opened, write, _, _, accepted⟩ := always config run row member
  rw [opened] at opens
  cases opens
  have agreed := (standing_run run).accepted _ _ accepted
  have equal : row.settings = text "2" := of_decide_eq_true (Bool.and_eq_true_iff.mp agreed).2
  rw [settings] at equal
  exact absurd equal (by decide)

/-- The condition of a step, evaluated. -/
def undisturbed (db : Database) (config : ConnectionsConfig) : ConnectionsLabel → Bool
  | .performed t ⟨.update connection none, _⟩ =>
      (own t config.history).all fun event =>
        match event with
        | ⟨.findByID _, .ok (_, envelope)⟩ =>
            config.state.rows.all fun row => !present db connection.id row || row.envelope = envelope
        | _ => true
  | _ => true

theorem undisturbed_sound (db : Database) (config : ConnectionsConfig) (label : ConnectionsLabel)
    (passed : undisturbed db config label = true) : Undisturbed db config label := by
  rintro t connection reply rfl id found envelope read row member there
  have each := List.all_eq_true.mp passed _ read
  have same := List.all_eq_true.mp each row member
  simpa [there] using same

theorem combinations_accepted_apart : ∃ config,
    (connections (.plain .sqlite) (fun _ => true) openGCM plainTexts matching).Run
      (Undisturbed (.plain .sqlite)) (installed firstCipher) config ∧
    pairs config = [(text "2", some (text "2"))] ∧
    AllCombined (.plain .sqlite) openGCM config := by
  have executed : ((connections (.plain .sqlite) (fun _ => true) openGCM plainTexts matching).execute
      (undisturbed (.plain .sqlite)) (created ++ validated ++ [.advance 1 (.statement .done)] ++ replaced)
      (installed firstCipher)).map pairs = some [(text "2", some (text "2"))] := by
    decide +kernel
  obtain ⟨config, reached, stored⟩ := Option.map_eq_some_iff.mp executed
  have run := System.execute_run reached (undisturbed_sound (.plain .sqlite))
  exact ⟨config, run, stored, combinations_accepted (.plain .sqlite) (fun _ => true) openGCM plainTexts matching
    firstCipher config openGCM_authentic run⟩

end NodeAtlas.Connections
