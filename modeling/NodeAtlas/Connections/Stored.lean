import NodeAtlas.Adapters.Mock
import NodeAtlas.Connections.Requests

/-! Whatever is stored of a connection can be read as long as the key ring only
grows, and for that connection only. -/

set_option autoImplicit false

namespace NodeAtlas.Connections

open Interleaving Providers Secrets

/-! ## What a call does to the table -/

inductive Changed (db : Database) (t : Nat) (before : State) : Call → State → Prop where
  | kept {call : Call} : Changed db t before call before
  | created {connection : Connection} {credentials : Envelope}
      (fresh : ∀ row ∈ before.rows, db.same row.id connection.id = false) :
      Changed db t before (.create connection credentials)
        { before with
          rows := before.rows ++ [inserted db connection credentials]
          writes := ⟨t, connection.id, true⟩ :: before.writes }
  | updated {connection : Connection} {credentials : Option Envelope} {row : Row} (member : row ∈ before.rows)
      (matched : present db connection.id row = true) :
      Changed db t before (.update connection credentials)
        { before with
          rows := changeRow db connection.id (Row.updated db connection credentials) before.rows
          writes := ⟨t, connection.id, credentials.isSome⟩ :: before.writes }
  | deleted {id : GoString} {at_ : Instant} :
      Changed db t before (.softDelete id at_)
        { before with rows := changeRow db id (Row.deleted db at_) before.rows }

section Steps

variable {db : Database} {columns : Row → Bool}
  {accepts : (type endpoint settings credentials : GoString) → Bool} {t : Nat} {before after : State}

theorem changeRow_absent {id : GoString} {change : Row → Row} {rows : List Row}
    (absent : rows.any (present db id) = false) : changeRow db id change rows = rows := by
  unfold changeRow
  conv => rhs; rw [← List.map_id rows]
  apply List.map_congr_left
  intro row member
  rw [if_neg (List.any_eq_false.mp absent row member)]
  rfl

private theorem insertRow_rows (row : Row) (outcome : Outcome) (rows : List Row) :
    (insertRow db columns row outcome rows).2 = rows ∨
      (insertRow db columns row outcome rows).2 = rows ++ [row] ∧
        ∀ other ∈ rows, db.same other.id row.id = false := by
  unfold insertRow
  dsimp only
  split
  · exact .inl rfl
  · split
    · exact .inl rfl
    · next clear =>
        split
        · exact .inl rfl
        · refine .inr ⟨rfl, ?_⟩
          intro other member
          exact Bool.eq_false_iff.mpr (List.any_eq_false.mp (Bool.eq_false_iff.mpr clear) other member)

private theorem updateWhere_rows {context id : GoString} {change : Row → Row} {outcome : Outcome}
    {rows : List Row} :
    (updateWhere db columns context id change outcome rows).2 =
      if admits db columns id change outcome rows then changeRow db id change rows else rows := by
  unfold updateWhere
  cases admits db columns id change outcome rows with
  | false => rfl
  | true =>
      rw [if_neg (by decide), if_pos rfl]
      split
      · rfl
      · split
        · rfl
        · rfl

theorem perform_changed {call : Call} {choice : Choice} {reply : call.Reply}
    (answered : perform db columns accepts t call choice before = some (reply, after)) :
    Changed db t before call after := by
  cases call with
  | create connection credentials =>
      cases choice with
      | statement outcome =>
          simp only [perform, Option.some.injEq, Prod.mk.injEq] at answered
          obtain ⟨_, rfl⟩ := answered
          obtain kept | ⟨added, fresh⟩ := insertRow_rows (inserted db connection credentials) outcome before.rows
          · rw [kept, if_pos rfl]
            exact .kept
          · rw [added, if_neg (by simp)]
            exact .created fresh
      | _ => cases answered
  | update connection credentials =>
      cases choice with
      | statement outcome =>
          simp only [perform, Option.some.injEq, Prod.mk.injEq] at answered
          obtain ⟨_, rfl⟩ := answered
          rw [updateWhere_rows]
          cases admits db columns connection.id (Row.updated db connection credentials) outcome before.rows with
          | false => exact .kept
          | true =>
              rw [if_pos rfl, Bool.true_and]
              cases there : before.rows.any (present db connection.id) with
              | false =>
                  rw [changeRow_absent there]
                  exact .kept
              | true =>
                  obtain ⟨row, member, matched⟩ := List.any_eq_true.mp there
                  exact .updated member matched
      | _ => cases answered
  | softDelete id at_ =>
      cases choice with
      | statement outcome =>
          simp only [perform, Option.some.injEq, Prod.mk.injEq] at answered
          obtain ⟨_, rfl⟩ := answered
          rw [updateWhere_rows]
          split
          · exact .deleted
          · exact .kept
      | _ => cases answered
  | createProvider config =>
      cases choice with
      | answered result =>
          simp only [perform] at answered
          split at answered
          · cases answered
            exact .kept
          · cases answered
      | _ => cases answered
  | _ =>
      cases choice <;> cases answered
      exact .kept

theorem changeRow_mem {id : GoString} {change : Row → Row} {rows : List Row} {row : Row}
    (member : row ∈ changeRow db id change rows) :
    (row ∈ rows ∧ present db id row = false) ∨
      ∃ old ∈ rows, present db id old = true ∧ row = change old := by
  obtain ⟨old, among, rfl⟩ := List.mem_map.mp member
  split
  · next matched => exact .inr ⟨old, among, matched, rfl⟩
  · next other => exact .inl ⟨among, Bool.eq_false_iff.mpr other⟩

theorem changeRow_known {id : GoString} {change : Row → Row} {rows : List Row}
    (kept : ∀ row, (change row).id = row.id ∧ (change row).providerType = row.providerType) {row : Row}
    (member : row ∈ rows) :
    ∃ later ∈ changeRow db id change rows, later.id = row.id ∧ later.providerType = row.providerType := by
  refine ⟨_, List.mem_map_of_mem member, ?_⟩
  split
  · exact kept row
  · exact ⟨rfl, rfl⟩

/-- No two rows have ids that the database takes for the same. -/
def Unique (db : Database) (rows : List Row) : Prop :=
  rows.Pairwise fun left right => db.same left.id right.id = false

theorem Unique.same {rows : List Row} (unique : Unique db rows) {left right : Row} (member : left ∈ rows)
    (among : right ∈ rows) (same : db.same left.id right.id = true) : left = right := by
  by_contra different
  have symmetric : Std.Symm fun left right : Row => db.same left.id right.id = false := by
    constructor
    intro left right apart
    rw [db.same_symm]
    exact apart
  have apart := List.Pairwise.forall unique member among different
  rw [apart] at same
  cases same

theorem Unique.changed {rows : List Row} (unique : Unique db rows) {id : GoString} {change : Row → Row}
    (kept : ∀ row, (change row).id = row.id) : Unique db (changeRow db id change rows) := by
  have sameID : ∀ row, (if present db id row then change row else row).id = row.id := by
    intro row
    split
    · exact kept row
    · rfl
  unfold Unique changeRow
  rw [List.pairwise_map]
  apply unique.imp
  intro left right apart
  rw [sameID, sameID]
  exact apart

theorem Changed.unique {call : Call} (changed : Changed db t before call after)
    (unique : Unique db before.rows) : Unique db after.rows := by
  cases changed with
  | kept => exact unique
  | created fresh =>
      apply List.pairwise_append.mpr
      refine ⟨unique, List.pairwise_singleton _ _, ?_⟩
      intro row member new single
      rw [List.mem_singleton.mp single]
      exact fresh row member
  | updated => exact unique.changed fun _ => rfl
  | deleted => exact unique.changed fun _ => rfl

/-- A row keeps its id and its type. -/
theorem Changed.known {call : Call} (changed : Changed db t before call after) {row : Row}
    (member : row ∈ before.rows) :
    ∃ later ∈ after.rows, later.id = row.id ∧ later.providerType = row.providerType := by
  cases changed with
  | kept => exact ⟨row, member, rfl, rfl⟩
  | created => exact ⟨row, List.mem_append_left _ member, rfl, rfl⟩
  | updated | deleted =>
      apply changeRow_known
      · exact fun _ => ⟨rfl, rfl⟩
      · exact member

theorem Changed.ciphers {call : Call} (changed : Changed db t before call after) :
    after.cipher = before.cipher ∧ after.configured = before.configured := by
  cases changed <;> exact ⟨rfl, rfl⟩

end Steps

/-! ## What holds of all rows -/

/-- The last write of credentials for an id. -/
def lastWrite (db : Database) (id : GoString) (writes : List Write) : Option Write :=
  writes.find? fun write => write.credentials && db.same write.id id

/-- The credentials that were written last for a connection. -/
def lastCredentials (db : Database) (config : ConnectionsConfig) (id : GoString) : Option GoString :=
  (lastWrite db id config.state.writes).bind fun write => (config.task write.thread).map (·.credentials)

structure Stored (db : Database) (gcm : GCM) (config : ConnectionsConfig) (row : Row) : Prop where
  readable : ∃ plaintext, lastCredentials db config row.id = some plaintext ∧
    SealedBy gcm config.state.cipher row.id row.providerType plaintext row.envelope
  typed : ∃ t provider, (t, (⟨.createProvider provider, .ok ()⟩ : ConnectionEvent)) ∈ config.history ∧
    provider.type = row.providerType

structure Standing (db : Database) (gcm : GCM)
    (accepts : (type endpoint settings credentials : GoString) → Bool) (config : ConnectionsConfig) : Prop where
  unique : Unique db config.state.rows
  prospect : Grows config.state.cipher config.state.configured
  read : ∀ t cipher, (t, (⟨.cipher, cipher⟩ : ConnectionEvent)) ∈ config.history →
    Grows cipher config.state.cipher
  found : ∀ t id connection envelope,
    (t, (⟨.findByID id, .ok (connection, envelope)⟩ : ConnectionEvent)) ∈ config.history →
    ∃ row ∈ config.state.rows, row.id = connection.id ∧ row.providerType = connection.providerType
  accepted : ∀ t provider, (t, (⟨.createProvider provider, .ok ()⟩ : ConnectionEvent)) ∈ config.history →
    accepts provider.type provider.endpoint provider.settings provider.credentials = true
  stored : ∀ row ∈ config.state.rows, Stored db gcm config row

section Runs

variable {db : Database} {columns : Row → Bool} {gcm : GCM} {texts : Texts}
  {accepts : (type endpoint settings credentials : GoString) → Bool} {config next : ConnectionsConfig}

/-- A row stays stored as long as nobody writes other credentials for it. -/
private theorem Stored.later {row later : Row} (stored : Stored db gcm config row)
    (tasks : ∀ t task, config.task t = some task → next.task t = some task)
    (events : ∀ entry ∈ config.history, entry ∈ next.history)
    (grows : Grows config.state.cipher next.state.cipher)
    (sameID : later.id = row.id) (sameType : later.providerType = row.providerType)
    (sameEnvelope : later.envelope = row.envelope)
    (last : lastWrite db row.id next.state.writes = lastWrite db row.id config.state.writes) :
    Stored db gcm next later := by
  obtain ⟨plaintext, written, sealed⟩ := stored.readable
  obtain ⟨t, provider, member, typed⟩ := stored.typed
  refine ⟨⟨plaintext, ?_, ?_⟩, t, provider, events _ member, typed.trans sameType.symm⟩
  · obtain ⟨write, found, mapped⟩ := Option.bind_eq_some_iff.mp written
    obtain ⟨task, known, rfl⟩ := Option.map_eq_some_iff.mp mapped
    unfold lastCredentials
    rw [sameID, last, found, Option.bind_some, tasks _ _ known]
    rfl
  · rw [sameID, sameType, sameEnvelope]
    exact sealed.grown grows

/-- A connection that a request has read is the row of that id. -/
theorem Standing.read_row (standing : Standing db gcm accepts config) {t : Nat}
    {connection : Connection} {envelope : Envelope} {row : Row}
    (read : Found (own t config.history) connection envelope) (member : row ∈ config.state.rows)
    (same : db.same row.id connection.id = true) :
    row.id = connection.id ∧ row.providerType = connection.providerType := by
  obtain ⟨id, found, event, sameID, sameType⟩ := read
  obtain ⟨origin, among, originID, originType⟩ := standing.found t id found envelope (mem_own.mp event)
  have equal : row = origin := by
    apply standing.unique.same member among
    rw [originID, ← sameID]
    exact same
  rw [equal, originID, originType]
  exact ⟨sameID.symm, sameType.symm⟩

theorem Standing.encrypted (standing : Standing db gcm accepts config) {t : Nat}
    {id type plaintext : GoString} {envelope : Envelope}
    (encrypted : Encrypted gcm (own t config.history) id type plaintext envelope) :
    SealedBy gcm config.state.cipher id type plaintext envelope := by
  obtain ⟨cipher, event, sealed⟩ := encrypted
  exact sealed.grown (standing.read t cipher (mem_own.mp event))

private theorem lastWrite_cons {write : Write} {id : GoString} {writes : List Write}
    (other : (write.credentials && db.same write.id id) = false) :
    lastWrite db id (write :: writes) = lastWrite db id writes := by
  unfold lastWrite
  rw [List.find?_cons_of_neg]
  rw [other]
  exact Bool.false_ne_true

private theorem lastCredentials_head {id other : GoString} {t : Nat} {task : Activity} {writes : List Write}
    (known : config.task t = some task) (same : db.same other id = true)
    (last : config.state.writes = ⟨t, other, true⟩ :: writes) :
    lastCredentials db config id = some task.credentials := by
  unfold lastCredentials lastWrite
  rw [last, List.find?_cons_of_pos]
  · rw [Option.bind_some, known]
    rfl
  · rw [Bool.true_and]
    exact same

/-- The rows that a write leaves are stored. -/
private theorem Standing.rows (standing : Standing db gcm accepts config) {t : Nat} {task : Activity}
    {event : ConnectionEvent} (named : config.task t = some task)
    (ruled : rule gcm task (own t config.history) event)
    (changed : Changed db t config.state event.call next.state)
    (tasks : ∀ u task, config.task u = some task → next.task u = some task)
    (history : next.history = (t, event) :: config.history) :
    ∀ row ∈ next.state.rows, Stored db gcm next row := by
  have events : ∀ entry ∈ config.history, entry ∈ next.history := by
    intro entry member
    rw [history]
    exact List.mem_cons_of_mem _ member
  have grows : Grows config.state.cipher next.state.cipher := by
    rw [changed.ciphers.1]
    exact .refl _
  obtain ⟨call, reply⟩ := event
  generalize after_ : next.state = after at changed
  intro row member
  cases changed with
  | kept => exact (standing.stored row member).later tasks events grows rfl rfl rfl (by rw [after_])
  | @created connection credentials fresh =>
      cases List.mem_append.mp member with
      | inl former =>
          apply (standing.stored row former).later tasks events grows rfl rfl rfl
          rw [after_]
          apply lastWrite_cons
          rw [db.same_symm, fresh row former]
          rfl
      | inr new =>
          rw [List.mem_singleton.mp new]
          cases ruled rfl with
          | create encrypted accepted =>
              refine ⟨⟨task.credentials, ?_, ?_⟩, t, _, events _ (mem_own.mp accepted), rfl⟩
              · exact lastCredentials_head (tasks t task named) (db.same_refl _) (congrArg State.writes after_)
              · rw [after_]
                exact standing.encrypted encrypted
  | @updated connection credentials present_ among matched =>
      obtain ⟨sameID, waiting⟩ := (Bool.and_eq_true _ _).mp matched
      obtain ⟨former, other⟩ | ⟨old, former, meant, rfl⟩ := changeRow_mem member
      · -- Another row with this id would be the one that the UPDATE means.
        have apart : db.same connection.id row.id = false := by
          apply Bool.eq_false_iff.mpr
          intro same
          rw [standing.unique.same former among
            (db.same_trans (by rw [db.same_symm]; exact same) (by rw [db.same_symm]; exact sameID)), matched] at other
          cases other
        apply (standing.stored row former).later tasks events grows rfl rfl rfl
        rw [after_]
        apply lastWrite_cons
        rw [apart, Bool.and_false]
      · have same := ((Bool.and_eq_true _ _).mp meant).1
        cases ruled rfl with
        | @replace connection read replacement seen encrypted accepted =>
            obtain ⟨id, type⟩ := standing.read_row seen former same
            refine ⟨⟨task.credentials, ?_, ?_⟩, t, _, events _ (mem_own.mp accepted), type.symm⟩
            · apply lastCredentials_head (tasks t task named) _ (congrArg State.writes after_)
              rw [db.same_symm]
              exact same
            · change SealedBy gcm next.state.cipher old.id old.providerType task.credentials replacement
              rw [id, type, after_]
              exact standing.encrypted encrypted
        | keep seen known opened accepted =>
            refine (standing.stored old former).later tasks events grows rfl rfl rfl ?_
            rw [after_]
            exact lastWrite_cons rfl
  | deleted =>
      obtain ⟨former, _⟩ | ⟨old, former, _, rfl⟩ := changeRow_mem member
      · exact (standing.stored row former).later tasks events grows rfl rfl rfl (by rw [after_])
      · exact (standing.stored old former).later tasks events grows rfl rfl rfl (by rw [after_])

private theorem Standing.performed (standing : Standing db gcm accepts config) {t : Nat}
    {event : ConnectionEvent}
    (ruled : ∀ task, config.task t = some task → rule gcm task (own t config.history) event)
    (transition : (connections db columns gcm texts accepts).Transition config (.performed t event) next) :
    Standing db gcm accepts next := by
  have tasks : ∀ u task, config.task u = some task → next.task u = some task :=
    fun u task known => transition.task known
  cases transition with
  | @performed _ task call continuation choice reply state found answered =>
      change perform db columns accepts t call choice config.state = some (reply, state) at answered
      have named : config.task t = some task := by
        rw [Config.task, found]
        rfl
      have changed := perform_changed answered
      obtain ⟨sameCipher, sameConfigured⟩ := changed.ciphers
      refine ⟨changed.unique standing.unique, ?_, ?_, ?_, ?_, ?_⟩
      · change Grows state.cipher state.configured
        rw [sameCipher, sameConfigured]
        exact standing.prospect
      · intro u cipher member
        change Grows cipher state.cipher
        rw [sameCipher]
        cases List.mem_cons.mp member with
        | inl same =>
            cases same
            cases choice <;> cases answered
            exact .refl _
        | inr former => exact standing.read u cipher former
      · intro u id connection envelope member
        cases List.mem_cons.mp member with
        | inl same =>
            cases same
            cases choice with
            | statement outcome =>
                simp only [perform, Option.some.injEq, Prod.mk.injEq] at answered
                obtain ⟨answer, rfl⟩ := answered
                split at answer
                · split at answer
                  · next row located =>
                      cases answer
                      exact ⟨row, List.mem_of_find?_eq_some located, rfl, rfl⟩
                  · cases answer
                · cases answer
            | _ => cases answered
        | inr former =>
            obtain ⟨row, among, sameID, sameType⟩ := standing.found u id connection envelope former
            obtain ⟨later, stays, laterID, laterType⟩ := changed.known among
            exact ⟨later, stays, laterID.trans sameID, laterType.trans sameType⟩
      · intro u provider member
        cases List.mem_cons.mp member with
        | inl same =>
            cases same
            cases choice with
            | answered result =>
                simp only [perform] at answered
                split at answered
                · next accepted =>
                    cases answered
                    exact accepted.symm
                · cases answered
            | _ => cases answered
        | inr former => exact standing.accepted u provider former
      · exact standing.rows named (ruled task named) changed tasks rfl

private theorem Standing.step (standing : Standing db gcm accepts config)
    (disciplined : Disciplined (audit gcm) config) {label : ConnectionsLabel}
    (transition : (connections db columns gcm texts accepts).Transition config label next) :
    Standing db gcm accepts next := by
  have tasks : ∀ u task, config.task u = some task → next.task u = some task :=
    fun u task known => transition.task known
  cases label with
  | performed t event =>
      apply standing.performed _ transition
      intro task known
      obtain ⟨thread, found, ruled⟩ :=
        disciplined.performs (connections_passes db columns gcm texts accepts) transition
      rw [Config.task, found] at known
      cases known
      exact ruled
  | spawned task =>
      cases transition
      refine ⟨standing.unique, standing.prospect, standing.read, standing.found, standing.accepted, ?_⟩
      intro row member
      exact (standing.stored row member).later tasks (fun _ member => member) (.refl _) rfl rfl rfl rfl
  | external choice =>
      cases transition with
      | external acted =>
          change external choice config.state = _ at acted
          cases choice with
          | configure keys activeVersion =>
              simp only [external] at acted
              split at acted
              · cases acted
              · split at acted
                · next grows =>
                    cases acted
                    exact ⟨standing.unique, grows, standing.read, standing.found, standing.accepted,
                      fun row member => (standing.stored row member).later tasks (fun _ member => member)
                        (.refl _) rfl rfl rfl rfl⟩
                · cases acted
          | _ => cases acted
  | crashed =>
      cases transition
      refine ⟨standing.unique, .refl _, ?_, standing.found, standing.accepted, ?_⟩
      · intro t cipher member
        exact (standing.read t cipher member).trans standing.prospect
      · intro row member
        exact (standing.stored row member).later tasks (fun _ member => member) standing.prospect rfl rfl rfl rfl

theorem standing_run {cipher : CredentialCipher}
    {meets : ConnectionsConfig → ConnectionsLabel → Prop}
    (run : (connections db columns gcm texts accepts).Run meets (installed cipher) config) :
    Standing db gcm accepts config := by
  refine run.invariant ?_ ?_
  · refine ⟨.nil, .refl _, ?_, ?_, ?_, ?_⟩
    · intro _ _ none
      cases none
    · intro _ _ _ _ none
      cases none
    · intro _ _ none
      cases none
    · intro _ none
      cases none
  · intro before label after reached transition _ standing
    have disciplined : Disciplined (audit gcm) before :=
      .run (connections_passes db columns gcm texts accepts) reached fun _ _ _ => trivial
    exact standing.step disciplined transition

end Runs

/-- In every state that the requests and the restarts reach, the stored envelope
of a connection opens, with the keys of the running process, to the credentials
that were written last for it. Under another id, type or version nothing opens
it, whatever the keys are. -/
theorem credentials_readable (db : Database) (columns : Row → Bool) (gcm : GCM) (texts : Texts)
    (accepts : (type endpoint settings credentials : GoString) → Bool) (cipher : CredentialCipher)
    (config : ConnectionsConfig) (authentic : gcm.Authentic)
    (plain : ∀ type endpoint settings credentials, accepts type endpoint settings credentials = true → 0 ∉ type)
    (run : (connections db columns gcm texts accepts).Run (fun _ _ => True) (installed cipher) config) :
    ∀ row ∈ config.state.rows,
      (∃ plaintext, lastCredentials db config row.id = some plaintext ∧
        decrypt gcm config.state.cipher row.id row.providerType row.envelope = .ok plaintext) ∧
      ∀ reader id type version read, 0 ∉ type →
        decrypt gcm reader id type { row.envelope with keyVersion := version } = .ok read →
        id = row.id ∧ type = row.providerType ∧ version = row.envelope.keyVersion := by
  have standing := standing_run run
  intro row member
  have stored := standing.stored row member
  obtain ⟨plaintext, written, sealed⟩ := stored.readable
  obtain ⟨t, provider, made, typed⟩ := stored.typed
  have clean : 0 ∉ row.providerType := by
    rw [← typed]
    exact plain _ _ _ _ (standing.accepted t provider made)
  constructor
  · exact ⟨plaintext, written, sealed.opens authentic⟩
  · intro reader id type version read otherClean opened
    exact sealed.bound authentic clean otherClean opened

/-! ## A rotated key -/

/-- A text that shows where it ends. -/
def marked (value : GoString) : GoString :=
  value.flatMap (fun each => [1, each]) ++ [0]

private theorem marked_injective {left right leftRest rightRest : GoString}
    (same : marked left ++ leftRest = marked right ++ rightRest) : left = right ∧ leftRest = rightRest := by
  induction left generalizing right with
  | nil =>
      cases right with
      | nil => exact ⟨rfl, (List.cons.inj same).2⟩
      | cons head tail => exact absurd (List.cons.inj same).1 (by decide)
  | cons first rest ih =>
      cases right with
      | nil => exact absurd (List.cons.inj same).1 (by decide)
      | cons head tail =>
          obtain ⟨sameHead, sameRest⟩ := List.cons.inj (List.cons.inj same).2
          obtain ⟨sameTail, sameLater⟩ := ih sameRest
          exact ⟨by rw [sameHead, sameTail], sameLater⟩

def header (key nonce data : GoString) : GoString :=
  marked key ++ (marked nonce ++ marked data)

/-- A cipher to run with, which writes down what it was given. -/
def openGCM : GCM where
  seal_ key nonce plaintext data := header key nonce data ++ plaintext
  open_ key nonce ciphertext data :=
    if (header key nonce data).isPrefixOf ciphertext then some (ciphertext.drop (header key nonce data).length)
    else none

theorem openGCM_authentic : openGCM.Authentic where
  opens key nonce plaintext data := by
    simp [openGCM]
  only key nonce data sealedKey sealedNonce sealedData plaintext opened := by
    simp only [openGCM] at opened
    split at opened
    · next found =>
        obtain ⟨rest, same⟩ := List.isPrefixOf_iff_prefix.mp found
        simp only [header, List.append_assoc] at same
        obtain ⟨keys, further⟩ := marked_injective same
        obtain ⟨nonces, further⟩ := marked_injective further
        obtain ⟨datas, _⟩ := marked_injective further
        exact ⟨keys, nonces, datas⟩
    · cases opened

def someKey (value : UInt8) : GoString := List.replicate 32 value

def firstCipher : CredentialCipher where
  keys := [(1, someKey 7)]
  activeVersion := 1
  positive := by decide
  sized := by decide
  configured := rfl

def someNonce : Nonce := ⟨List.replicate nonceSize 1, rfl⟩

def plainTexts : Texts := ⟨id, fun _ => true⟩

/-- Numbers of which the settings name none. -/
def noFloats : Adapters.Mock.Floats := ⟨Unit, (), fun _ => none, fun _ => true, fun _ => text "0"⟩

/-- The registry of a panel that knows the mock adapter. -/
def onlyMock (type endpoint settings credentials : GoString) : Bool :=
  type = text "mock" &&
    (Adapters.Mock.configure noFloats ⟨text "c1", type, endpoint, settings, credentials⟩).isOk

/-- A connection is created, the next process gets a second key and works with
it, and the credentials are replaced. -/
def rotation : List (System.Move Activity Choice) :=
  [.spawn (.create ⟨text "lab", text "mock", [], [], text "\x7b\"token\":\"t\"\x7d", false⟩),
    .advance 0 (.identifier (text "c1")), .advance 0 (.answered (.ok ())), .advance 0 .read,
    .advance 0 (.random (some someNonce)), .advance 0 (.instant 1), .advance 0 (.statement .done),
    .external (.configure [(1, someKey 7), (2, someKey 8)] 2), .crash,
    .spawn (.update (text "c1") ⟨text "lab", [], text "\x7b\x7d", text "\x7b\"token\":\"u\"\x7d", false⟩),
    .advance 1 (.statement .done), .advance 1 .read, .advance 1 .read, .advance 1 (.random (some someNonce)),
    .advance 1 (.answered (.ok ())), .advance 1 (.instant 2), .advance 1 (.statement .done)]

theorem credentials_readable_rotated : ∃ config,
    (connections (.plain .sqlite) (fun _ => true) openGCM plainTexts onlyMock).Run (fun _ _ => True)
      (installed firstCipher) config ∧
    config.state.rows.map (·.envelope.keyVersion) = [2] ∧ ∀ row ∈ config.state.rows,
      (∃ plaintext, lastCredentials (.plain .sqlite) config row.id = some plaintext ∧
        decrypt openGCM config.state.cipher row.id row.providerType row.envelope = .ok plaintext) ∧
      ∀ reader id type version read, 0 ∉ type →
        decrypt openGCM reader id type { row.envelope with keyVersion := version } = .ok read →
        id = row.id ∧ type = row.providerType ∧ version = row.envelope.keyVersion := by
  have executed : ((connections (.plain .sqlite) (fun _ => true) openGCM plainTexts onlyMock).execute
      (fun _ _ => true) rotation (installed firstCipher)).map
      (fun config => config.state.rows.map (·.envelope.keyVersion)) = some [2] := by
    decide +kernel
  obtain ⟨config, reached, versions⟩ := Option.map_eq_some_iff.mp executed
  have run := System.execute_run reached fun _ _ _ => trivial
  have plain : ∀ type endpoint settings credentials,
      onlyMock type endpoint settings credentials = true → 0 ∉ type := by
    intro type endpoint settings credentials accepted
    have same : type = text "mock" := of_decide_eq_true (Bool.and_eq_true_iff.mp accepted).1
    rw [same]
    decide
  exact ⟨config, run, versions, credentials_readable (.plain .sqlite) (fun _ => true) openGCM plainTexts onlyMock
    firstCipher config openGCM_authentic plain run⟩

end NodeAtlas.Connections
