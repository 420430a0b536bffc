import NodeAtlas.Connections.Service

/-! What a request has read, encrypted and had accepted when it writes to the
connections table. -/

set_option autoImplicit false

namespace NodeAtlas.Connections

open Interleaving Providers Secrets

def Accepted (earlier : List ConnectionEvent) (config : ConnectionConfig) : Prop :=
  (⟨.createProvider config, .ok ()⟩ : ConnectionEvent) ∈ earlier

def Encrypted (gcm : GCM) (earlier : List ConnectionEvent) (id type plaintext : GoString)
    (envelope : Envelope) : Prop :=
  ∃ cipher, (⟨.cipher, cipher⟩ : ConnectionEvent) ∈ earlier ∧ SealedBy gcm cipher id type plaintext envelope

/-- The connection is one that was read, under the same id and type. -/
def Found (earlier : List ConnectionEvent) (connection : Connection) (envelope : Envelope) : Prop :=
  ∃ id found, (⟨.findByID id, .ok (found, envelope)⟩ : ConnectionEvent) ∈ earlier ∧
    connection.id = found.id ∧ connection.providerType = found.providerType

def Connection.config (connection : Connection) (credentials : GoString) : ConnectionConfig :=
  ⟨connection.id, connection.providerType, connection.endpoint, connection.settings, credentials⟩

/-- What goes before a write of a request that brings credentials along. -/
inductive Justified (gcm : GCM) (brought : GoString) (earlier : List ConnectionEvent) : Call → Prop where
  | create {connection : Connection} {envelope : Envelope}
      (encrypted : Encrypted gcm earlier connection.id connection.providerType brought envelope)
      (accepted : Accepted earlier (connection.config brought)) :
      Justified gcm brought earlier (.create connection envelope)
  | replace {connection : Connection} {found envelope : Envelope} (read : Found earlier connection found)
      (encrypted : Encrypted gcm earlier connection.id connection.providerType brought envelope)
      (accepted : Accepted earlier (connection.config brought)) :
      Justified gcm brought earlier (.update connection (some envelope))
  | keep {connection : Connection} {found : Envelope} {cipher : CredentialCipher} {plaintext : GoString}
      (read : Found earlier connection found)
      (known : (⟨.cipher, cipher⟩ : ConnectionEvent) ∈ earlier)
      (opened : decrypt gcm cipher connection.id connection.providerType found = .ok plaintext)
      (accepted : Accepted earlier (connection.config plaintext)) :
      Justified gcm brought earlier (.update connection none)

/-- The calls that set what a connection consists of. -/
def writes : Call → Bool
  | .create _ _ | .update _ _ => true
  | _ => false

def rule (gcm : GCM) (task : Activity) (earlier : List ConnectionEvent) (event : ConnectionEvent) : Prop :=
  writes event.call = true → Justified gcm task.credentials earlier event.call

def audit (gcm : GCM) : Audit Call Call.Reply Activity (Except GoError Unit) where
  fits _ := True
  rule := rule gcm
  closing _ _ _ := True

section Audited

variable {gcm : GCM} {texts : Texts} {brought : GoString} {earlier : List ConnectionEvent}

private abbrev Kept {α : Type} (gcm : GCM) (brought : GoString)
    (closing : List ConnectionEvent → α → Prop) (earlier : List ConnectionEvent) (program : Process α) : Prop :=
  program.Audited (fun _ => True)
    (fun earlier event => writes event.call = true → Justified gcm brought earlier event.call) closing earlier

private theorem quiet {α : Type} {closing : List ConnectionEvent → α → Prop} {request : Call}
    {next : request.Reply → Process α} (silent : writes request = false)
    (further : ∀ reply, Kept gcm brought closing (⟨request, reply⟩ :: earlier) (next reply)) :
    Kept gcm brought closing earlier (.call request next) := by
  intro reply _
  refine ⟨?_, further reply⟩
  intro writing
  rw [silent] at writing
  cases writing

private theorem createProvider_kept (config : ConnectionConfig) :
    Kept gcm brought (fun events result => earlier ⊆ events ∧ (result = .ok () → Accepted events config))
      earlier (createProvider config) := by
  apply quiet rfl
  intro reply
  cases reply with
  | error failure => exact ⟨List.subset_cons_self _ _, fun impossible => by cases impossible⟩
  | ok _ => exact ⟨List.subset_cons_self _ _, fun _ => List.mem_cons_self⟩

private theorem encryptFor_kept (id type plaintext : GoString) :
    Kept gcm brought (fun events result => earlier ⊆ events ∧
        ∀ envelope, result = .ok envelope → Encrypted gcm events id type plaintext envelope)
      earlier (encryptFor gcm id type plaintext) := by
  apply quiet rfl
  intro cipher
  change Program.Audited _ _ _ _ (encrypt gcm cipher (call .nonce) id type plaintext >>= _)
  unfold encrypt
  split
  · exact ⟨List.subset_cons_self _ _, fun _ impossible => by cases impossible⟩
  · apply quiet rfl
    intro nonce
    have wider : earlier ⊆ (⟨.nonce, nonce⟩ : ConnectionEvent) :: ⟨.cipher, cipher⟩ :: earlier :=
      fun event member => List.mem_cons_of_mem _ (List.mem_cons_of_mem _ member)
    cases nonce with
    | none => exact ⟨wider, fun _ impossible => by cases impossible⟩
    | some nonce =>
        refine ⟨wider, ?_⟩
        intro envelope same
        cases same
        exact ⟨cipher, List.mem_cons_of_mem _ List.mem_cons_self, sealed_envelope nonce⟩

private theorem queueSync_kept (context : GoString) (connection : Connection) :
    Kept gcm brought (fun _ _ => True) earlier (queueSync context connection) := by
  unfold queueSync
  split
  · trivial
  · apply quiet rfl
    intro reply
    cases reply with
    | error failure => trivial
    | ok _ => trivial

private theorem createConnection_kept (name type endpoint settings : GoString) (enabled : Bool) :
    Kept gcm brought (fun _ _ => True) earlier
      (createConnection gcm name type endpoint settings brought enabled) := by
  apply quiet rfl
  intro id
  apply (createProvider_kept _).bind
  rintro events result ⟨_, accepted⟩
  cases result with
  | error failure => trivial
  | ok _ =>
      apply (encryptFor_kept _ _ _).bind
      rintro later result ⟨wider, encrypted⟩
      cases result with
      | error failure => trivial
      | ok envelope =>
          apply quiet rfl
          intro now reply _
          constructor
          · intro _
            obtain ⟨cipher, known, sealed⟩ := encrypted envelope rfl
            apply Justified.create
            · exact ⟨cipher, List.mem_cons_of_mem _ known, sealed⟩
            · exact List.mem_cons_of_mem _ (wider (accepted rfl))
          · cases reply with
            | error failure => trivial
            | ok _ => exact queueSync_kept _ _

private theorem create_kept (input : CreateInput) :
    Kept gcm input.credentials (fun _ _ => True) earlier (create gcm texts input) := by
  unfold create
  dsimp only
  generalize (if input.settings = [] then text "{}" else input.settings) = settings
  split
  · trivial
  · split
    · trivial
    · exact createConnection_kept _ _ _ _ _

private theorem replaceCredentials_kept (connection : Connection) (stored : GoString) :
    Kept gcm brought (fun events result => earlier ⊆ events ∧
        ∀ credentials replacement, result = .ok (credentials, replacement) →
          (replacement = none ∧ credentials = stored) ∨ credentials = brought ∧ ∃ envelope,
            replacement = some envelope ∧
            Encrypted gcm events connection.id connection.providerType brought envelope)
      earlier (replaceCredentials gcm texts connection stored brought) := by
  unfold replaceCredentials
  split
  · refine ⟨List.Subset.refl _, ?_⟩
    intro credentials replacement same
    cases same
    exact .inl ⟨rfl, rfl⟩
  · split
    · exact ⟨List.Subset.refl _, fun _ _ impossible => by cases impossible⟩
    · apply (encryptFor_kept _ _ _).bind
      rintro events result ⟨wider, encrypted⟩
      cases result with
      | error failure => exact ⟨wider, fun _ _ impossible => by cases impossible⟩
      | ok envelope =>
          refine ⟨wider, ?_⟩
          intro credentials replacement same
          cases same
          exact .inr ⟨rfl, envelope, rfl, encrypted envelope rfl⟩

private theorem updateConnection_kept {connection : Connection} {found : Envelope} {input : UpdateInput}
    (name endpoint : GoString) (read : Found earlier connection found) :
    Kept gcm input.credentials (fun _ _ => True) earlier
      (updateConnection gcm texts connection found input name endpoint) := by
  apply quiet rfl
  intro cipher
  dsimp only [Program.bind]
  split
  · trivial
  · next stored opened =>
      apply (replaceCredentials_kept connection stored).bind
      rintro events result ⟨wider, replaced⟩
      cases result with
      | error failure => trivial
      | ok pair =>
          obtain ⟨credentials, replacement⟩ := pair
          apply (createProvider_kept _).bind
          rintro later result ⟨further, accepted⟩
          cases result with
          | error failure => trivial
          | ok _ =>
              apply quiet rfl
              intro now reply _
              have still : ∀ event ∈ (⟨.cipher, cipher⟩ : ConnectionEvent) :: earlier,
                  event ∈ (⟨.now, now⟩ : ConnectionEvent) :: later :=
                fun event member => List.mem_cons_of_mem _ (further (wider member))
              obtain ⟨id, original, found, sameID, sameType⟩ := read
              have seen : Found ((⟨.now, now⟩ : ConnectionEvent) :: later) connection _ :=
                ⟨id, original, still _ (List.mem_cons_of_mem _ found), sameID, sameType⟩
              constructor
              · intro _
                obtain ⟨rfl, rfl⟩ | ⟨rfl, envelope, rfl, known, kept, sealed⟩ := replaced _ _ rfl
                · exact .keep seen (still _ List.mem_cons_self) opened
                    (List.mem_cons_of_mem _ (accepted rfl))
                · exact .replace seen ⟨known, List.mem_cons_of_mem _ (further kept), sealed⟩
                    (List.mem_cons_of_mem _ (accepted rfl))
              · cases reply with
                | error failure => trivial
                | ok _ => exact queueSync_kept _ _

private theorem update_kept (id : GoString) (input : UpdateInput) :
    Kept gcm input.credentials (fun _ _ => True) earlier (update gcm texts id input) := by
  apply quiet rfl
  intro reply
  cases reply with
  | error failure => trivial
  | ok found =>
      dsimp only
      split
      · trivial
      · exact updateConnection_kept _ _ ⟨id, found.1, List.mem_cons_self, rfl, rfl⟩

end Audited

theorem connections_passes (db : Database) (columns : Row → Bool) (gcm : GCM) (texts : Texts)
    (accepts : (type endpoint settings credentials : GoString) → Bool) :
    (audit gcm).Passed (connections db columns gcm texts accepts) fun _ => True where
  fitting _ _ _ _ _ _ _ := trivial
  audited task _ := by
    cases task with
    | create input => exact (create_kept input).bind fun _ _ _ => trivial
    | update id input => exact (update_kept id input).bind fun _ _ _ => trivial
    | delete id =>
        apply quiet rfl
        intro now
        apply quiet rfl
        intro reply
        trivial

end NodeAtlas.Connections
