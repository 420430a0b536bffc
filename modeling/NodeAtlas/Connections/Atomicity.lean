import NodeAtlas.Connections.Stored
import NodeAtlas.Interleaving.Sequential
import NodeAtlas.Jobs.Repository

/-! What is left of a request that fails: the row of the connection and the job
for its first sync are two statements. -/

set_option autoImplicit false

namespace NodeAtlas.Connections.Atomicity

open Interleaving Interleaving.Program Providers Secrets

/-- What a request meets on its way: the answers of the generators, the clock and
the factory, and what becomes of its statements. -/
structure Circumstances where
  id : GoString
  nonce : Option Nonce
  cipher : CredentialCipher
  now : Instant
  rejection : GoError
  find : Outcome
  write : Outcome
  queue : Jobs.Queue
  enqueue : Outcome

structure Tables where
  rows : List Row
  jobs : List Jobs.Row
  deriving DecidableEq

inductive Request where
  | create (input : CreateInput)
  | update (id : GoString) (input : UpdateInput)

section Semantics

variable (db : Database) (columns : Row → Bool) (jobColumns : Jobs.Row → Bool)
  (accepts : (type endpoint settings credentials : GoString) → Bool) (met : Circumstances)

/-- The row that `EnqueueConnectionSync` inserts. -/
def syncJob (id : GoString) : Jobs.Row :=
  Jobs.enqueuedRow db (met.queue.job .syncConnection (text "connection_id") id)

/-- Whether the jobs table takes a row. -/
def takesJob (row : Jobs.Row) (jobs : List Jobs.Row) : Bool :=
  !(jobs.any fun other => db.same other.id row.id) && jobColumns row

def enqueueConnectionSync (id : GoString) (jobs : List Jobs.Row) : Except GoError Unit × List Jobs.Row :=
  let failed := fun failure => Except.error (.wrapped (text "enqueue job") (db.failed failure))
  if id = [] then (.error (.plain (text "connection ID is required")), jobs)
  else if met.enqueue = .refused then (failed .unavailable, jobs)
  else if takesJob db jobColumns (syncJob db met id) jobs = false then (failed .refused, jobs)
  else (if met.enqueue = .done then .ok () else failed .unavailable, jobs ++ [syncJob db met id])

/-- How the calls of a request are answered. -/
def respond (call : Call) (tables : Tables) : call.Reply × Tables :=
  match call with
  | .now => (met.now, tables)
  | .newID => (met.id, tables)
  | .nonce => (met.nonce, tables)
  | .cipher => (met.cipher, tables)
  | .createProvider config =>
      (if accepts config.type config.endpoint config.settings config.credentials then .ok ()
        else .error met.rejection, tables)
  | .create connection credentials =>
      let (result, rows) := insertRow db columns (inserted db connection credentials) met.write tables.rows
      (result, { tables with rows := rows })
  | .findByID id =>
      (if met.find = .done then
        match tables.rows.find? (present db id) with
        | some row => .ok (row.toConnection, row.envelope)
        | none => .error (.sentinel .connectionNotFound)
      else .error (.wrapped (text "find provider connection") (db.failed .unavailable)), tables)
  | .update connection credentials =>
      let (result, rows) := updateWhere db columns (text "update provider connection") connection.id
        (Row.updated db connection credentials) met.write tables.rows
      (result, { tables with rows := rows })
  | .softDelete id deletedAt =>
      let (result, rows) := updateWhere db columns (text "delete provider connection") id
        (Row.deleted db deletedAt) met.write tables.rows
      (result, { tables with rows := rows })
  | .enqueueConnectionSync id =>
      let (result, jobs) := enqueueConnectionSync db jobColumns met id tables.jobs
      (result, { tables with jobs := jobs })

/-- The answers are answers that the process of the service may get. -/
theorem respond_performed (call : Call) (tables : Tables) (state : State) (t : Nat)
    (sameRows : state.rows = tables.rows) (sameCipher : state.cipher = met.cipher) :
    ∃ choice after, perform db columns accepts t call choice state =
        some ((respond db columns jobColumns accepts met call tables).1, after) ∧
      after.rows = (respond db columns jobColumns accepts met call tables).2.rows := by
  obtain ⟨rows, cipher, configured, writes⟩ := state
  obtain rfl : rows = tables.rows := sameRows
  obtain rfl : cipher = met.cipher := sameCipher
  cases call with
  | now => exact ⟨.instant met.now, _, rfl, rfl⟩
  | newID => exact ⟨.identifier met.id, _, rfl, rfl⟩
  | nonce => exact ⟨.random met.nonce, _, rfl, rfl⟩
  | cipher => exact ⟨.read, _, rfl, rfl⟩
  | createProvider config =>
      refine ⟨.answered (respond db columns jobColumns accepts met (.createProvider config) tables).1,
        ⟨tables.rows, met.cipher, configured, writes⟩, ?_, rfl⟩
      simp only [perform, respond]
      split <;> simp_all [Except.isOk, Except.toBool]
  | create _ _ | update _ _ | softDelete _ _ => exact ⟨.statement met.write, _, rfl, rfl⟩
  | findByID _ => exact ⟨.statement met.find, _, rfl, rfl⟩
  | enqueueConnectionSync _ => exact ⟨.answered _, _, rfl, rfl⟩

variable (gcm : GCM) (texts : Texts)

def Request.program : Request → Process (Except GoError Connection)
  | .create input => Connections.create gcm texts input
  | .update id input => Connections.update gcm texts id input

/-- What a request returns, and what it leaves. -/
def serve (request : Request) (tables : Tables) : Except GoError Connection × Tables :=
  follow (respond db columns jobColumns accepts met) (request.program gcm texts) tables

/-! ## What a request asks for -/

/-- The connection that `Create` describes. -/
def createdConnection (input : CreateInput) : Connection where
  id := met.id
  name := trimSpace input.name
  providerType := texts.toLower (trimSpace input.providerType)
  endpoint := trimSpace input.endpoint
  settings := if input.settings = [] then text "{}" else input.settings
  enabled := input.enabled
  health := ⟨text "unknown", none, none, [], [], met.now⟩
  createdAt := met.now

/-- The connection that `Update` makes of the one that it finds. -/
def updatedConnection (found : Connection) (input : UpdateInput) : Connection :=
  { found with
    name := trimSpace input.name
    endpoint := trimSpace input.endpoint
    settings := input.settings
    enabled := input.enabled
    health := { found.health with updatedAt := met.now } }

def nameAccepted (name : GoString) : Bool := name ≠ [] && name.length ≤ 255

/-- The envelope of credentials, if they can be encrypted. -/
def envelopeOf (connectionID providerType credentials : GoString) : Option Envelope :=
  (encrypt (m := Id) gcm met.cipher met.nonce connectionID providerType credentials).toOption

/-- The INSERT that a `Create` gets to, if it does. -/
def insertOf (input : CreateInput) : Option (Connection × Envelope) :=
  let connection := createdConnection met texts input
  if nameAccepted connection.name && connection.providerType ≠ [] && texts.validJSON connection.settings &&
      texts.validJSON input.credentials &&
      accepts connection.providerType connection.endpoint connection.settings input.credentials then
    (envelopeOf met gcm met.id connection.providerType input.credentials).map fun envelope => (connection, envelope)
  else none

/-- The credentials of an `Update`, and those of them that it stores. -/
def replacementOf (found : Connection) (stored : GoString) (input : UpdateInput) :
    Option (GoString × Option Envelope) :=
  if input.credentials = [] then some (stored, none)
  else if texts.validJSON input.credentials = false then none
  else (envelopeOf met gcm found.id found.providerType input.credentials).map fun envelope =>
    (input.credentials, some envelope)

/-- The UPDATE that an `Update` gets to, if it does. -/
def updateOf (id : GoString) (input : UpdateInput) (rows : List Row) : Option (Connection × Option Envelope) := do
  let row ← if met.find = .done then rows.find? (present db id) else none
  let connection := updatedConnection met row.toConnection input
  if nameAccepted connection.name && texts.validJSON connection.settings then
    let stored ← (decrypt gcm met.cipher row.id row.providerType row.envelope).toOption
    let (credentials, replacement) ← replacementOf met gcm texts row.toConnection stored input
    if accepts row.providerType connection.endpoint connection.settings credentials then
      some (connection, replacement)
    else none
  else none

/-- What follows the write of the row. -/
def finish (context : GoString) (connection : Connection) (written : Except GoError Unit × List Row)
    (tables : Tables) : Except GoError Connection × Tables :=
  match written.1 with
  | .error failure => (.error failure, { tables with rows := written.2 })
  | .ok () => follow (respond db columns jobColumns accepts met) (queueSync context connection)
      { tables with rows := written.2 }

private theorem follow_encrypt (connectionID providerType credentials : GoString) (tables : Tables) :
    follow (respond db columns jobColumns accepts met) (encryptFor gcm connectionID providerType credentials) tables =
      (match encrypt (m := Id) gcm met.cipher met.nonce connectionID providerType credentials with
        | .error failure => .error (.wrapped (text "encrypt provider credentials") failure)
        | .ok envelope => .ok envelope, tables) := by
  unfold encryptFor
  rw [call, follow_call]
  simp only [respond, encrypt]
  split
  · rfl
  · rw [call, bind_assoc, follow_call]
    simp only [respond]
    cases met.nonce <;> rfl

private theorem follow_factory (config : ConnectionConfig) (tables : Tables) :
    follow (respond db columns jobColumns accepts met) (createProvider config) tables =
      (if accepts config.type config.endpoint config.settings config.credentials then .ok ()
        else .error (.plain (invalidConnection ++ text ": " ++ met.rejection.message)), tables) := by
  unfold createProvider
  rw [call, follow_call]
  simp only [respond]
  cases accepts config.type config.endpoint config.settings config.credentials <;> rfl

/-- A `Create` fails without a trace, or it gets to its INSERT. -/
theorem create_ends (input : CreateInput) (tables : Tables) :
    match insertOf accepts met gcm texts input with
    | none => ∃ failure, serve db columns jobColumns accepts met gcm texts (.create input) tables =
        (.error failure, tables)
    | some (connection, envelope) =>
        serve db columns jobColumns accepts met gcm texts (.create input) tables =
          finish db columns jobColumns accepts met (text "queue initial provider sync") connection
            (insertRow db columns (inserted db connection envelope) met.write tables.rows) tables := by
  unfold serve Request.program create
  simp only
  by_cases named : trimSpace input.name = [] ∨ 255 < (trimSpace input.name).length ∨
      texts.toLower (trimSpace input.providerType) = []
  · have unaccepted : insertOf accepts met gcm texts input = none := by
      unfold insertOf
      rw [if_neg]
      simp [nameAccepted, createdConnection]
      grind
    rw [unaccepted, if_pos named]
    exact ⟨_, rfl⟩
  · rw [if_neg named]
    by_cases valid : texts.validJSON (if input.settings = [] then text "{}" else input.settings) = false ∨
        texts.validJSON input.credentials = false
    · have unaccepted : insertOf accepts met gcm texts input = none := by
        unfold insertOf
        rw [if_neg]
        simp [createdConnection]
        grind
      rw [unaccepted, if_pos valid]
      exact ⟨_, rfl⟩
    · rw [if_neg valid]
      unfold createConnection
      rw [call, follow_call, follow_bind, follow_factory]
      simp only [respond]
      have checked : (nameAccepted (createdConnection met texts input).name &&
          (createdConnection met texts input).providerType ≠ [] &&
          texts.validJSON (createdConnection met texts input).settings && texts.validJSON input.credentials) = true := by
        simp [nameAccepted, createdConnection]
        grind
      unfold insertOf
      simp only [checked, Bool.true_and]
      cases accepted : accepts (createdConnection met texts input).providerType
          (createdConnection met texts input).endpoint (createdConnection met texts input).settings input.credentials with
      | false =>
          simp only [createdConnection] at accepted
          simp only [accepted]
          exact ⟨_, rfl⟩
      | true =>
          simp only [createdConnection] at accepted
          simp only [accepted, if_true, follow_bind, follow_encrypt, envelopeOf]
          simp only [createdConnection]
          cases encrypt (m := Id) gcm met.cipher met.nonce met.id (texts.toLower (trimSpace input.providerType))
              input.credentials with
          | error failure => exact ⟨_, rfl⟩
          | ok envelope =>
              simp only [Except.toOption, Option.map_some]
              rw [call, follow_call, call, follow_call]
              simp only [respond, finish]
              cases (insertRow db columns _ met.write tables.rows).1 <;> rfl

private theorem follow_credentials (found : Connection) (stored : GoString) (input : UpdateInput)
    (tables : Tables) :
    match replacementOf met gcm texts found stored input with
    | none => ∃ failure, follow (respond db columns jobColumns accepts met)
        (replaceCredentials gcm texts found stored input.credentials) tables = (.error failure, tables)
    | some replaced => follow (respond db columns jobColumns accepts met)
        (replaceCredentials gcm texts found stored input.credentials) tables = (.ok replaced, tables) := by
  unfold replaceCredentials replacementOf
  by_cases kept : input.credentials = []
  · rw [if_pos kept, if_pos kept]
    rfl
  · rw [if_neg kept, if_neg kept]
    by_cases invalid : texts.validJSON input.credentials = false
    · rw [if_pos invalid, if_pos invalid]
      exact ⟨_, rfl⟩
    · rw [if_neg invalid, if_neg invalid, follow_bind, follow_encrypt, envelopeOf]
      cases encrypt (m := Id) gcm met.cipher met.nonce found.id found.providerType input.credentials with
      | error failure => exact ⟨_, rfl⟩
      | ok envelope => rfl

private theorem update_looked (id : GoString) (input : UpdateInput) (tables : Tables) :
    serve db columns jobColumns accepts met gcm texts (.update id input) tables =
      follow (respond db columns jobColumns accepts met)
        (match (respond db columns jobColumns accepts met (.findByID id) tables).1 with
          | .error failure => return .error failure
          | .ok (connection, found) =>
              let name := trimSpace input.name
              if name = [] ∨ 255 < name.length ∨ texts.validJSON input.settings = false then
                return .error (.plain invalidConnection)
              else updateConnection gcm texts connection found input name (trimSpace input.endpoint)) tables := rfl

/-- An `Update` fails without a trace, or it gets to its UPDATE. -/
theorem update_ends (id : GoString) (input : UpdateInput) (tables : Tables) :
    match updateOf db accepts met gcm texts id input tables.rows with
    | none => ∃ failure, serve db columns jobColumns accepts met gcm texts (.update id input) tables =
        (.error failure, tables)
    | some (connection, replacement) =>
        serve db columns jobColumns accepts met gcm texts (.update id input) tables =
          finish db columns jobColumns accepts met (text "queue provider sync") connection
            (updateWhere db columns (text "update provider connection") connection.id
              (Row.updated db connection replacement) met.write tables.rows) tables := by
  rw [update_looked]
  unfold updateOf
  simp only [respond]
  by_cases answered : met.find = .done
  · rw [if_pos answered, if_pos answered]
    cases tables.rows.find? (present db id) with
    | none => exact ⟨_, rfl⟩
    | some row =>
        simp only [Option.bind_eq_bind, Option.bind_some]
        by_cases named : trimSpace input.name = [] ∨ 255 < (trimSpace input.name).length ∨
            texts.validJSON input.settings = false
        · have unaccepted : ¬ (nameAccepted (updatedConnection met row.toConnection input).name &&
              texts.validJSON (updatedConnection met row.toConnection input).settings) = true := by
            simp [nameAccepted, updatedConnection]
            grind
          rw [if_neg unaccepted, if_pos named]
          exact ⟨_, rfl⟩
        · have checked : (nameAccepted (updatedConnection met row.toConnection input).name &&
              texts.validJSON (updatedConnection met row.toConnection input).settings) = true := by
            simp [nameAccepted, updatedConnection]
            grind
          rw [if_pos checked, if_neg named]
          unfold updateConnection
          rw [call, follow_call]
          simp only [respond]
          cases decrypt gcm met.cipher row.id row.providerType row.envelope with
          | error failure => exact ⟨_, rfl⟩
          | ok stored =>
              have replaced := follow_credentials db columns jobColumns accepts met gcm texts row.toConnection
                stored input tables
              simp only [Except.toOption, Option.bind_some, follow_bind]
              cases replacement : replacementOf met gcm texts row.toConnection stored input with
              | none =>
                  rw [replacement] at replaced
                  obtain ⟨failure, same⟩ := replaced
                  rw [same]
                  exact ⟨_, rfl⟩
              | some taken =>
                  rw [replacement] at replaced
                  rw [replaced]
                  simp only [Option.bind_some, follow_bind, follow_factory, updatedConnection]
                  by_cases accepted : accepts row.providerType (trimSpace input.endpoint) input.settings taken.1 = true
                  · simp only [accepted, if_true]
                    rw [call, follow_call, call, follow_call]
                    simp only [respond, finish]
                    cases (updateWhere db columns (text "update provider connection") row.id _ met.write
                      tables.rows).1 <;> rfl
                  · simp only [accepted]
                    exact ⟨_, rfl⟩
  · rw [if_neg answered, if_neg answered]
    exact ⟨_, rfl⟩

/-! ## Where a failure is too late -/

/-- The rows after a request that succeeds, and the connection that it returns. -/
def Describes (connection : Connection) (rows after : List Row) : Request → Prop
  | .create input =>
      connection = createdConnection met texts input ∧
      ∃ envelope, envelopeOf met gcm connection.id connection.providerType input.credentials = some envelope ∧
        after = rows ++ [inserted db connection envelope]
  | .update id input =>
      ∃ row stored credentials replacement, rows.find? (present db id) = some row ∧
        connection = updatedConnection met row.toConnection input ∧
        decrypt gcm met.cipher row.id row.providerType row.envelope = .ok stored ∧
        replacementOf met gcm texts row.toConnection stored input = some (credentials, replacement) ∧
        after = changeRow db connection.id (Row.updated db connection replacement) rows

/-- An error leaves both tables as they were; an enabled connection has its row,
and one more job. -/
def Atomic (before : Tables) (request : Request) : Prop :=
  let ended := serve db columns jobColumns accepts met gcm texts request before
  match ended.1 with
  | .error _ => ended.2 = before
  | .ok connection => connection.enabled = true →
      Describes db met gcm texts connection before.rows ended.2.rows request ∧
        ended.2.jobs = before.jobs ++ [syncJob db met connection.id]

/-- The rows with the write of a request among them, if it gets that far and the
statement is carried out. -/
def written (rows : List Row) : Request → Option (Connection × List Row)
  | .create input => do
      let (connection, envelope) ← insertOf accepts met gcm texts input
      let row := inserted db connection envelope
      if met.write ≠ .refused && !(rows.any fun other => db.same other.id row.id) && columns row then
        some (connection, rows ++ [row])
      else none
  | .update id input => do
      let (connection, replacement) ← updateOf db accepts met gcm texts id input rows
      let change := Row.updated db connection replacement
      if admits db columns connection.id change met.write rows then
        some (connection, changeRow db connection.id change rows)
      else none

/-- The jobs table takes the job of a connection. -/
def takesSync (id : GoString) (jobs : List Jobs.Row) : Bool :=
  id ≠ [] && takesJob db jobColumns (syncJob db met id) jobs

/-- Behind a write that changes the table, its answer is lost, or the job is not
queued; behind one that changes nothing, the answer to a queued job is lost. -/
def FailsLate (before : Tables) (request : Request) : Prop :=
  ∃ connection rows, written db columns accepts met gcm texts before.rows request = some (connection, rows) ∧
    if rows ≠ before.rows then
      met.write = .unanswered ∨ (connection.enabled = true ∧
        ¬ (met.enqueue = .done ∧ takesSync db jobColumns met connection.id before.jobs = true))
    else
      db.dialect = .sqlite ∧ met.write = .done ∧ connection.enabled = true ∧ met.enqueue = .unanswered ∧
        takesSync db jobColumns met connection.id before.jobs = true

private theorem unaffected {id : GoString} {rows : List Row} {row : Row} (change : Row → Row)
    (member : row ∈ rows) (matched : present db id row = true) :
    affected db id change rows = 0 ↔ db.dialect = .mysql ∧ changeRow db id change rows = rows := by
  unfold affected changeRow
  rw [List.countP_eq_zero]
  constructor
  · intro none_
    have uncounted := none_ row member
    simp only [matched, Bool.true_and, Bool.or_eq_true, decide_eq_true_eq, not_or] at uncounted
    constructor
    · cases dialect : db.dialect with
      | sqlite => exact absurd dialect uncounted.1
      | mysql => rfl
    · refine (List.map_congr_left ?_).trans (List.map_id rows)
      intro other listed
      have same := none_ other listed
      split
      · next found => simpa [found, uncounted.1] using same
      · rfl
  · rintro ⟨dialect, same⟩ other listed
    have unchanged := List.map_inj_left.mp (same.trans (List.map_id rows).symm) other listed
    by_cases found : present db id other = true
    · rw [if_pos found] at unchanged
      simp_all
    · simp [found]

private theorem insertRow_ends (row : Row) (outcome : Outcome) (rows : List Row) :
    if outcome ≠ .refused && !(rows.any fun other => db.same other.id row.id) && columns row then
      ∃ failure, insertRow db columns row outcome rows =
        (if outcome = .done then .ok () else .error failure, rows ++ [row])
    else ∃ failure, insertRow db columns row outcome rows = (.error failure, rows) := by
  unfold insertRow
  by_cases refused : outcome = .refused
  · simp [refused]
  · cases clash : rows.any fun other => db.same other.id row.id with
    | true => simp [refused]
    | false =>
        cases accepted : columns row with
        | false => simp [refused]
        | true =>
            rw [if_pos (by simp [refused])]
            refine ⟨.wrapped (text "create provider connection") (db.failed .unavailable), ?_⟩
            simp [refused]

private theorem updateWhere_ends {id : GoString} {rows : List Row} {row : Row} (context : GoString)
    (change : Row → Row) (outcome : Outcome) (member : row ∈ rows) (matched : present db id row = true) :
    if admits db columns id change outcome rows = true then
      if outcome = .unanswered then
        ∃ failure, updateWhere db columns context id change outcome rows =
          (.error failure, changeRow db id change rows)
      else if db.dialect = .mysql ∧ changeRow db id change rows = rows then
        ∃ failure, updateWhere db columns context id change outcome rows = (.error failure, rows)
      else updateWhere db columns context id change outcome rows = (.ok (), changeRow db id change rows)
    else ∃ failure, updateWhere db columns context id change outcome rows = (.error failure, rows) := by
  have counted := unaffected db change member matched
  unfold updateWhere
  cases admitted : admits db columns id change outcome rows with
  | false => exact ⟨_, rfl⟩
  | true =>
      simp only [if_true]
      split
      · exact ⟨_, rfl⟩
      · split
        · next same =>
            rw [if_pos (counted.mpr same), same.2]
            exact ⟨_, rfl⟩
        · next changed =>
            rw [if_neg (mt counted.mp changed)]
            rfl

/-- How a request can end. -/
inductive Ended (before : Tables) (request : Request) : Except GoError Connection × Tables → Prop where
  | early (failure : GoError)
      (unwritten : written db columns accepts met gcm texts before.rows request = none) :
      Ended before request (.error failure, before)
  | unanswered (failure : GoError) {connection : Connection} {rows : List Row}
      (wrote : written db columns accepts met gcm texts before.rows request = some (connection, rows))
      (lost : met.write = .unanswered) :
      Ended before request (.error failure, { before with rows := rows })
  | uncounted (failure : GoError) {connection : Connection}
      (wrote : written db columns accepts met gcm texts before.rows request = some (connection, before.rows))
      (done : met.write = .done) (dialect : db.dialect = .mysql) :
      Ended before request (.error failure, before)
  | counted (context : GoString) {connection : Connection} {rows : List Row}
      (wrote : written db columns accepts met gcm texts before.rows request = some (connection, rows))
      (done : met.write = .done) (counts : rows ≠ before.rows ∨ db.dialect = .sqlite)
      (describes : Describes db met gcm texts connection before.rows rows request) :
      Ended before request (follow (respond db columns jobColumns accepts met) (queueSync context connection)
        { before with rows := rows })

private theorem insertOf_describes {input : CreateInput} {connection : Connection} {envelope : Envelope}
    (rows : List Row) (prepared : insertOf accepts met gcm texts input = some (connection, envelope)) :
    Describes db met gcm texts connection rows (rows ++ [inserted db connection envelope]) (.create input) := by
  unfold insertOf at prepared
  dsimp only at prepared
  split at prepared
  · obtain ⟨found, encrypted, same⟩ := Option.map_eq_some_iff.mp prepared
    cases same
    exact ⟨rfl, envelope, encrypted, rfl⟩
  · cases prepared

private theorem updateOf_describes {id : GoString} {input : UpdateInput} {connection : Connection}
    {replacement : Option Envelope} {rows : List Row}
    (prepared : updateOf db accepts met gcm texts id input rows = some (connection, replacement)) :
    Describes db met gcm texts connection rows
        (changeRow db connection.id (Row.updated db connection replacement) rows) (.update id input) ∧
      ∃ row ∈ rows, present db connection.id row = true := by
  unfold updateOf at prepared
  simp only [Option.bind_eq_bind] at prepared
  split at prepared
  · obtain ⟨row, located, prepared⟩ := Option.bind_eq_some_iff.mp prepared
    split at prepared
    · obtain ⟨stored, decrypted, prepared⟩ := Option.bind_eq_some_iff.mp prepared
      obtain ⟨⟨credentials, taken⟩, replaced, prepared⟩ := Option.bind_eq_some_iff.mp prepared
      split at prepared
      · cases prepared
        have opened : decrypt gcm met.cipher row.id row.providerType row.envelope = .ok stored := by
          cases result : decrypt gcm met.cipher row.id row.providerType row.envelope with
          | error failure =>
              rw [result] at decrypted
              cases decrypted
          | ok value =>
              rw [result] at decrypted
              cases decrypted
              rfl
        constructor
        · exact ⟨row, stored, credentials, _, located, rfl, opened, replaced, rfl⟩
        · refine ⟨row, List.mem_of_find?_eq_some located, ?_⟩
          have matched := List.find?_some located
          simp only [present, Bool.and_eq_true] at matched
          simp [present, updatedConnection, db.same_refl, matched.2]
      · cases prepared
    · cases prepared
  · cases prepared

private theorem create_ended (input : CreateInput) (before : Tables) :
    Ended db columns jobColumns accepts met gcm texts before (.create input)
      (serve db columns jobColumns accepts met gcm texts (.create input) before) := by
  have ends := create_ends db columns jobColumns accepts met gcm texts input before
  cases prepared : insertOf accepts met gcm texts input with
  | none =>
      rw [prepared] at ends
      obtain ⟨failure, same⟩ := ends
      rw [same]
      exact .early failure (by simp [written, prepared])
  | some pair =>
      obtain ⟨connection, envelope⟩ := pair
      rw [prepared] at ends
      simp only at ends
      rw [ends]
      have wrote : written db columns accepts met gcm texts before.rows (.create input) =
          if met.write ≠ .refused && !(before.rows.any fun other => db.same other.id (inserted db connection envelope).id) &&
              columns (inserted db connection envelope) then
            some (connection, before.rows ++ [inserted db connection envelope])
          else none := by
        simp only [written, prepared]
        rfl
      have ended := insertRow_ends db columns (inserted db connection envelope) met.write before.rows
      unfold finish
      split at ended
      · next taken =>
          obtain ⟨failure, same⟩ := ended
          rw [if_pos taken] at wrote
          rw [same]
          have unrefused : met.write ≠ .refused := by
            intro refused
            simp [refused] at taken
          cases outcome : met.write with
          | refused => exact absurd outcome unrefused
          | unanswered => exact .unanswered failure wrote outcome
          | done =>
              exact .counted _ wrote outcome (.inl (by simp))
                (insertOf_describes db accepts met gcm texts before.rows prepared)
      · next untaken =>
          obtain ⟨failure, same⟩ := ended
          rw [same]
          exact .early failure (by rw [wrote]; exact if_neg untaken)

private theorem update_ended (id : GoString) (input : UpdateInput) (before : Tables) :
    Ended db columns jobColumns accepts met gcm texts before (.update id input)
      (serve db columns jobColumns accepts met gcm texts (.update id input) before) := by
  have ends := update_ends db columns jobColumns accepts met gcm texts id input before
  cases prepared : updateOf db accepts met gcm texts id input before.rows with
  | none =>
      rw [prepared] at ends
      obtain ⟨failure, same⟩ := ends
      rw [same]
      exact .early failure (by simp [written, prepared])
  | some pair =>
      obtain ⟨connection, replacement⟩ := pair
      rw [prepared] at ends
      simp only at ends
      rw [ends]
      obtain ⟨describes, row, member, matched⟩ := updateOf_describes db accepts met gcm texts prepared
      have wrote : written db columns accepts met gcm texts before.rows (.update id input) =
          if admits db columns connection.id (Row.updated db connection replacement) met.write before.rows then
            some (connection, changeRow db connection.id (Row.updated db connection replacement) before.rows)
          else none := by
        simp only [written, prepared]
        rfl
      have ended := updateWhere_ends db columns (text "update provider connection")
        (Row.updated db connection replacement) met.write member matched
      unfold finish
      split at ended
      · next admitted =>
          rw [if_pos admitted] at wrote
          have unrefused : met.write ≠ .refused := by
            intro refused
            simp [admits, refused] at admitted
          split at ended
          · next lost =>
              obtain ⟨failure, same⟩ := ended
              rw [same]
              exact .unanswered failure wrote lost
          · next answered =>
              have done : met.write = .done := by
                cases outcome : met.write with
                | refused => exact absurd outcome unrefused
                | unanswered => exact absurd outcome answered
                | done => rfl
              split at ended
              · next uncounted =>
                  obtain ⟨failure, same⟩ := ended
                  rw [uncounted.2] at wrote
                  rw [same]
                  exact .uncounted failure wrote done uncounted.1
              · next counted =>
                  rw [ended]
                  refine .counted _ wrote done ?_ describes
                  cases dialect : db.dialect with
                  | sqlite => exact .inr rfl
                  | mysql => exact .inl fun same => counted ⟨dialect, same⟩
      · next refused =>
          obtain ⟨failure, same⟩ := ended
          rw [same]
          exact .early failure (by rw [wrote]; exact if_neg refused)

theorem serve_ended (before : Tables) (request : Request) :
    Ended db columns jobColumns accepts met gcm texts before request
      (serve db columns jobColumns accepts met gcm texts request before) := by
  cases request with
  | create input => exact create_ended db columns jobColumns accepts met gcm texts input before
  | update id input => exact update_ended db columns jobColumns accepts met gcm texts id input before

/-- Requests that succeed with a connection that is enabled have queued its job. -/
private theorem queueSync_ends (context : GoString) (connection : Connection) (tables : Tables) :
    let ended := follow (respond db columns jobColumns accepts met) (queueSync context connection) tables
    if connection.enabled = false then ended = (.ok connection, tables)
    else if met.enqueue ≠ .refused && takesSync db jobColumns met connection.id tables.jobs then
      ∃ failure, ended = (if met.enqueue = .done then .ok connection else .error failure,
        { tables with jobs := tables.jobs ++ [syncJob db met connection.id] })
    else ∃ failure, ended = (.error failure, tables) := by
  intro ended
  split
  · next disabled =>
      simp only [ended, queueSync, disabled, if_true]
      rfl
  · next enabled =>
      have queued : ended = match enqueueConnectionSync db jobColumns met connection.id tables.jobs with
          | (.error failure, jobs) => (.error (.wrapped context failure), { tables with jobs := jobs })
          | (.ok (), jobs) => (.ok connection, { tables with jobs := jobs }) := by
        unfold ended queueSync
        rw [if_neg enabled, call, follow_call]
        simp only [respond]
        cases enqueueConnectionSync db jobColumns met connection.id tables.jobs with
        | mk result jobs => cases result <;> rfl
      rw [queued]
      unfold enqueueConnectionSync takesSync
      by_cases named : connection.id = []
      · simp [named]
      · by_cases refused : met.enqueue = .refused
        · simp [named, refused]
        · cases taken : takesJob db jobColumns (syncJob db met connection.id) tables.jobs with
          | false => simp [named, refused]
          | true =>
              rw [if_pos (by simp [named, refused])]
              refine ⟨.wrapped context (.wrapped (text "enqueue job") (db.failed .unavailable)), ?_⟩
              by_cases done : met.enqueue = .done
              · simp [named, done]
              · simp [named, refused, done]

private theorem atomic_error {before after : Tables} {request : Request} {failure : GoError}
    (ended : serve db columns jobColumns accepts met gcm texts request before = (.error failure, after)) :
    Atomic db columns jobColumns accepts met gcm texts before request ↔ after = before := by
  simp [Atomic, ended]

private theorem failsLate_written {before : Tables} {request : Request} {connection : Connection} {rows : List Row}
    (wrote : written db columns accepts met gcm texts before.rows request = some (connection, rows)) :
    FailsLate db columns jobColumns accepts met gcm texts before request ↔
      if rows ≠ before.rows then
        met.write = .unanswered ∨ (connection.enabled = true ∧
          ¬ (met.enqueue = .done ∧ takesSync db jobColumns met connection.id before.jobs = true))
      else
        db.dialect = .sqlite ∧ met.write = .done ∧ connection.enabled = true ∧ met.enqueue = .unanswered ∧
          takesSync db jobColumns met connection.id before.jobs = true := by
  constructor
  · rintro ⟨other, others, same, late⟩
    rw [wrote] at same
    cases same
    exact late
  · intro late
    exact ⟨connection, rows, wrote, late⟩

/-- A request that fails and leaves another number of connections. -/
theorem not_atomic {before : Tables} {request : Request}
    (failed : (serve db columns jobColumns accepts met gcm texts request before).1.isOk = false)
    (changed : (serve db columns jobColumns accepts met gcm texts request before).2.rows.length ≠ before.rows.length) :
    ¬ Atomic db columns jobColumns accepts met gcm texts before request := by
  intro atomic
  unfold Atomic at atomic
  generalize serve db columns jobColumns accepts met gcm texts request before = outcome at failed changed atomic
  obtain ⟨result, after⟩ := outcome
  cases result with
  | error failure =>
      have same : after = before := atomic
      exact changed (congrArg (fun tables => tables.rows.length) same)
  | ok connection => cases failed

end Semantics

/-- The database takes the row, and then goes away. -/
def outage : Circumstances where
  id := text "c1"
  nonce := some someNonce
  cipher := firstCipher
  now := 1
  rejection := .plain []
  find := .done
  write := .done
  queue := Jobs.newQueue 3 2 (text "j1")
  enqueue := .refused

end NodeAtlas.Connections.Atomicity
