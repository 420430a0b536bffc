import NodeAtlas.Database
import NodeAtlas.Decimal
import NodeAtlas.Interleaving.Sequential

/-! Migrations of the schema, and what an interrupted one leaves behind. -/

set_option autoImplicit false

namespace NodeAtlas.Migrations

open Interleaving

/-- A CREATE statement: the table or index that it makes, and the tables that
have to be there. -/
structure Statement where
  name : GoString
  requires : List GoString
  deriving DecidableEq, Repr

structure Migration where
  version : Nat
  sqlite : List Statement
  mysql : List Statement

def Migration.statements (migration : Migration) : Dialect → List Statement
  | .sqlite => migration.sqlite
  | .mysql => migration.mysql

def create (name : String) (requires : List String) : Statement :=
  ⟨text name, requires.map text⟩

/-- SQLite takes a foreign key to a table that is yet to come, and MySQL has the
indexes within the tables. -/
def migrations : List Migration :=
  [{ version := 1
     sqlite := [create "users" [], create "sessions" [], create "sessions_user_id_idx" ["sessions"],
       create "sessions_expires_at_idx" ["sessions"]]
     mysql := [create "users" [], create "sessions" ["users"]] },
   { version := 2
     sqlite := [create "provider_connections" [],
       create "provider_connections_type_idx" ["provider_connections"],
       create "provider_connections_active_idx" ["provider_connections"], create "servers" [],
       create "servers_visible_idx" ["servers"], create "servers_connection_idx" ["servers"],
       create "jobs" [], create "jobs_available_idx" ["jobs"], create "jobs_lease_idx" ["jobs"]]
     mysql := [create "provider_connections" [], create "servers" ["provider_connections"], create "jobs" []] },
   { version := 3
     sqlite := [create "operations" [], create "operations_history_idx" ["operations"],
       create "operations_connection_status_idx" ["operations"], create "audit_logs" [],
       create "audit_logs_created_idx" ["audit_logs"], create "audit_logs_target_idx" ["audit_logs"]]
     mysql := [create "operations" ["servers", "provider_connections"], create "audit_logs" []] },
   { version := 4
     sqlite := [create "console_sessions" [], create "console_sessions_expiry_idx" ["console_sessions"],
       create "backups" [], create "backups_created_idx" ["backups"], create "settings" []]
     mysql := [create "console_sessions" ["servers"], create "backups" [], create "settings" []] }]

/-! ## The database -/

/-- What has been created, and the rows of `schema_migrations`. -/
structure Schema where
  objects : List Statement
  versions : List Nat
  deriving DecidableEq, Repr

/-- `prepared` says that `schema_migrations` exists. -/
structure State where
  prepared : Bool
  schema : Schema
  transaction : Option Schema
  deriving DecidableEq, Repr

/-- What a restarted process finds: the open transaction is gone. -/
def State.recovered (state : State) : State := { state with transaction := none }

inductive Call where
  | prepare
  | count (version : Nat)
  | begin
  | exec (statement : Statement)
  | record (version : Nat)
  | commit
  | rollback

@[reducible] def Call.Reply : Call → Type
  | .count _ => Except GoError Nat
  | .rollback => Unit
  | _ => Except GoError Unit

/-- A call is answered as it should be, it fails, or it fails after all was
done. -/
inductive Choice where
  | done
  | refused (failure : GoError)
  | unanswered (failure : GoError)

abbrev Process (Outcome : Type) := Program Call Call.Reply Outcome

def call (request : Call) : Process request.Reply := .perform request

def Schema.accepts (schema : Schema) (statement : Statement) : Bool :=
  !(schema.objects.any fun object => object.name = statement.name) &&
    statement.requires.all fun table => schema.objects.any fun object => object.name = table

def Schema.add (schema : Schema) (statement : Statement) : Schema :=
  { schema with objects := schema.objects ++ [statement] }

def Schema.mark (schema : Schema) (version : Nat) : Schema :=
  { schema with versions := schema.versions ++ [version] }

def objectError : GoError := .plain (text "table or index exists, or a table is missing")

def duplicateError : GoError := .plain (text "duplicate version")

variable (dialect : Dialect)

/-- What the database does. On MySQL a CREATE commits what is open before it,
and is committed itself; what follows it is outside of any transaction. -/
def respond (call : Call) (state : State) : call.Reply × State :=
  let view := state.transaction.getD state.schema
  match call with
  | .prepare => (.ok (), { state with prepared := true })
  | .count version => (.ok (view.versions.count version), state)
  | .begin => (.ok (), { state with transaction := some state.schema })
  | .exec statement =>
      match dialect with
      | .sqlite =>
          if view.accepts statement then (.ok (), { state with transaction := some (view.add statement) })
          else (.error objectError, state)
      | .mysql =>
          if view.accepts statement then
            (.ok (), { state with schema := view.add statement, transaction := none })
          else (.error objectError, { state with schema := view, transaction := none })
  | .record version =>
      if version ∈ view.versions then (.error duplicateError, state)
      else if state.transaction.isSome then (.ok (), { state with transaction := some (view.mark version) })
      else (.ok (), { state with schema := view.mark version })
  | .commit => (.ok (), { state with schema := view, transaction := none })
  | .rollback => ((), state.recovered)

def perform (call : Call) (choice : Choice) (state : State) : Option (call.Reply × State) :=
  match choice with
  | .done => some (respond dialect call state)
  | .refused failure =>
      match call with
      | .rollback => some ((), state.recovered)
      | .prepare | .begin | .exec _ | .record _ | .commit | .count _ => some (.error failure, state)
  | .unanswered failure =>
      match call with
      | .rollback => some ((), state.recovered)
      | .prepare => some (.error failure, (respond dialect .prepare state).2)
      | .begin => some (.error failure, state)
      | .exec statement => some (.error failure, (respond dialect (.exec statement) state).2)
      | .record version => some (.error failure, (respond dialect (.record version) state).2)
      | .commit => some (.error failure, (respond dialect .commit state).2)
      | .count _ => some (.error failure, state)

/-! ## The code -/

def applyStatements (version : Nat) : List Statement → Process (Except GoError Unit)
  | [] => do
      match ← call (.record version) with
      | .error failure => return .error (.wrapped (text "record migration " ++ itoa version) failure)
      | .ok () =>
          match ← call .commit with
          | .error failure => return .error (.wrapped (text "commit migration " ++ itoa version) failure)
          | .ok () => return .ok ()
  | statement :: rest => do
      match ← call (.exec statement) with
      | .error failure => return .error (.wrapped (text "apply migration " ++ itoa version) failure)
      | .ok () => applyStatements version rest

def applyMigration (version : Nat) (statements : List Statement) : Process (Except GoError Unit) := do
  match ← call .begin with
  | .error failure => return .error (.wrapped (text "begin migration " ++ itoa version) failure)
  | .ok () =>
      let outcome ← applyStatements version statements
      call .rollback
      return outcome

/-- The loop of `Migrate`. -/
def applyPending : List Migration → Process (Except GoError Unit)
  | [] => return .ok ()
  | item :: rest => do
      match ← call (.count item.version) with
      | .error failure => return .error (.wrapped (text "read migration version " ++ itoa item.version) failure)
      | .ok applied =>
          if applied > 0 then applyPending rest
          else
            match ← applyMigration item.version (item.statements dialect) with
            | .error failure => return .error failure
            | .ok () => applyPending rest

def migrate : Process (Except GoError Unit) := do
  match ← call .prepare with
  | .error failure => return .error (.wrapped (text "create migration table") failure)
  | .ok () => applyPending dialect migrations

/-- A database on which the first versions have been applied. -/
def database (prepared : Bool) (applied : Nat) : State :=
  ⟨prepared, ⟨(migrations.take applied).flatMap (·.statements dialect), (migrations.take applied).map (·.version)⟩, none⟩

/-- Every table that is there was made by a version that is recorded. -/
def Whole (schema : Schema) : Prop :=
  ∀ object ∈ schema.objects, ∃ item ∈ migrations, item.version ∈ schema.versions ∧
    object ∈ item.statements dialect

/-- `Migrate` from what an interruption left, and once more after that. -/
def Restarts (start left : State) : Prop :=
  let uninterrupted := (Program.follow (respond dialect) (migrate dialect) start).2
  let again := Program.follow (respond dialect) (migrate dialect) left.recovered
  again = (.ok (), uninterrupted) ∧
    Program.follow (respond dialect) (migrate dialect) again.2 = (.ok (), again.2)

/-! ## The list of the migrations -/

variable {dialect : Dialect}

/-- The schema that the first migrations make. -/
def upTo (dialect : Dialect) (done : List Migration) : Schema :=
  ⟨done.flatMap (·.statements dialect), done.map (·.version)⟩

/-- Every statement finds the tables that it wants, and its own name free. -/
private theorem accepted {done later : List Migration} {item : Migration} {former latter : List Statement}
    {statement : Statement} (split : migrations = done ++ item :: later)
    (place : item.statements dialect = former ++ statement :: latter) (versions : List Nat) :
    Schema.accepts ⟨(upTo dialect done).objects ++ former, versions⟩ statement = true := by
  have every : ∀ dialect : Dialect,
      let all := migrations.flatMap (·.statements dialect)
      ∀ index : Fin all.length, Schema.accepts ⟨all.take index, []⟩ all[index] = true := by
    intro dialect
    cases dialect <;> decide
  have all : migrations.flatMap (·.statements dialect) =
      ((upTo dialect done).objects ++ former) ++ statement :: (latter ++ later.flatMap (·.statements dialect)) := by
    rw [split]
    simp [upTo, place]
  have inside : ((upTo dialect done).objects ++ former).length <
      (migrations.flatMap (·.statements dialect)).length := by
    rw [all]
    simp
  have here := every dialect ⟨_, inside⟩
  simp only [Fin.getElem_fin, all, List.take_left', List.getElem_append_right (Nat.le_refl _),
    Nat.sub_self, List.getElem_cons_zero] at here
  exact here

private theorem versions_distinct : (migrations.map (·.version)).Nodup := by decide

private theorem unrecorded {done later : List Migration} {item : Migration}
    (split : migrations = done ++ item :: later) : item.version ∉ done.map (·.version) := by
  have distinct := versions_distinct
  rw [split, List.map_append, List.map_cons] at distinct
  intro member
  exact (List.nodup_append.mp distinct).2.2 _ member _ List.mem_cons_self rfl

/-! ## Interruptions -/

/-- A migration some of whose statements have been carried out, on MySQL. -/
def Torn (dialect : Dialect) (schema : Schema) : Prop :=
  dialect = .mysql ∧ ∃ done item later former latter, migrations = done ++ item :: later ∧
    former ≠ [] ∧ item.statements dialect = former ++ latter ∧
    schema = ⟨(upTo dialect done).objects ++ former, (upTo dialect done).versions⟩

/-- What an interruption can leave. -/
def Interrupted (dialect : Dialect) (schema : Schema) : Prop :=
  (∃ done later, migrations = done ++ later ∧ schema = upTo dialect done) ∨ Torn dialect schema

/-- The state within a migration, of which the statements `former` have been
carried out. -/
structure Building (dialect : Dialect) (done : List Migration) (former : List Statement) (state : State) : Prop where
  view : state.transaction.getD state.schema =
    ⟨(upTo dialect done).objects ++ former, (upTo dialect done).versions⟩
  kept : state.schema = upTo dialect done ∨ (dialect = .mysql ∧ state.transaction = none)
  opened : dialect = .sqlite → state.transaction.isSome = true

section Steps

variable {done later : List Migration} {item : Migration} {former latter : List Statement}
  {statement : Statement} {state after : State} {choice : Choice} {reply : Except GoError Unit}

private theorem Building.interrupted (building : Building dialect done former state)
    (split : migrations = done ++ item :: later) (place : item.statements dialect = former ++ latter) :
    Interrupted dialect state.schema := by
  rcases building.kept with same | ⟨mysql, closed⟩
  · exact .inl ⟨done, item :: later, split, same⟩
  · have view := building.view
    rw [closed] at view
    by_cases none_ : former = []
    · rw [none_, List.append_nil] at view
      exact .inl ⟨done, item :: later, split, view⟩
    · exact .inr ⟨mysql, done, item, later, former, latter, split, none_, place, view⟩

/-- A statement that the database carries out. -/
private theorem Building.exec (building : Building dialect done former state)
    (split : migrations = done ++ item :: later)
    (place : item.statements dialect = former ++ statement :: latter) :
    (respond dialect (.exec statement) state).1 = .ok () ∧
      Building dialect done (former ++ [statement]) (respond dialect (.exec statement) state).2 := by
  have fits := accepted split place (upTo dialect done).versions
  cases dialect with
  | sqlite =>
      have open_ := building.opened rfl
      simp only [respond, building.view, fits, if_true, true_and]
      constructor
      · simp [Schema.add]
      · rcases building.kept with same | ⟨impossible, _⟩
        · exact .inl same
        · cases impossible
      · exact fun _ => rfl
  | mysql =>
      simp only [respond, building.view, fits, if_true, true_and]
      constructor
      · simp [Schema.add]
      · exact .inr ⟨rfl, rfl⟩
      · intro impossible
        cases impossible

/-- The version is recorded last. -/
private theorem Building.record (building : Building dialect done former state)
    (split : migrations = done ++ item :: later) (place : item.statements dialect = former) :
    let recorded := (respond dialect (.record item.version) state).2
    (respond dialect (.record item.version) state).1 = .ok () ∧
      recorded.transaction.getD recorded.schema = upTo dialect (done ++ [item]) ∧
      (recorded.schema = state.schema ∨ recorded.schema = upTo dialect (done ++ [item])) ∧
      recorded.prepared = state.prepared := by
  have fresh : item.version ∉ (upTo dialect done).versions := unrecorded split
  have whole : Schema.mark ⟨(upTo dialect done).objects ++ former, (upTo dialect done).versions⟩ item.version =
      upTo dialect (done ++ [item]) := by
    simp [Schema.mark, upTo, place]
  intro recorded
  simp only [recorded, respond, building.view, fresh, if_false, whole]
  split
  · exact ⟨rfl, rfl, .inl rfl, rfl⟩
  · next closed =>
      have none_ : state.transaction = none := by simpa using closed
      exact ⟨rfl, by rw [none_]; rfl, .inr rfl, rfl⟩

end Steps

section Runs

variable {earlier : List (Moment Call Call.Reply State)} {state : State}

def Observed (dialect : Dialect) (moment : Moment Call Call.Reply State) : Prop :=
  Interrupted dialect moment.state.schema

private theorem applyStatements_ensures {done later : List Migration} {item : Migration}
    (split : migrations = done ++ item :: later) (latter : List Statement) {former : List Statement}
    (place : item.statements dialect = former ++ latter) (building : Building dialect done former state) :
    (applyStatements item.version latter).Ensures (perform dialect) (Observed dialect)
      (fun _ result final => Interrupted dialect final.schema ∧
        (result = .ok () → final.schema = upTo dialect (done ++ [item]) ∧ final.transaction = none))
      earlier state := by
  have next : migrations = (done ++ [item]) ++ later := by simpa using split
  have interrupted := building.interrupted split place
  induction latter generalizing former state earlier with
  | nil =>
      rw [List.append_nil] at place
      obtain ⟨recordedOk, view, schema, _⟩ := building.record split place
      have partway : Interrupted dialect (respond dialect (.record item.version) state).2.schema := by
        rcases schema with same | same
        · rw [same]
          exact interrupted
        · exact .inl ⟨_, later, next, same⟩
      unfold applyStatements
      apply Program.Ensures.call
      intro choice reply after answered
      refine ⟨interrupted, ?_⟩
      cases choice with
      | refused failure =>
          cases answered
          exact ⟨interrupted, fun same => by cases same⟩
      | unanswered failure =>
          cases answered
          exact ⟨partway, fun same => by cases same⟩
      | done =>
          have given := Prod.mk.inj (Option.some.inj answered)
          obtain ⟨rfl, rfl⟩ : Except.ok () = reply ∧ (respond dialect (.record item.version) state).2 = after :=
            ⟨recordedOk.symm.trans given.1, given.2⟩
          apply Program.Ensures.call
          intro choice reply final answered
          refine ⟨partway, ?_⟩
          cases choice with
          | refused failure =>
              cases answered
              exact ⟨partway, fun same => by cases same⟩
          | unanswered failure =>
              cases answered
              exact ⟨.inl ⟨_, later, next, view⟩, fun same => by cases same⟩
          | done =>
              cases answered
              exact ⟨.inl ⟨_, later, next, view⟩, fun _ => ⟨view, rfl⟩⟩
  | cons statement rest ih =>
      obtain ⟨execOk, further⟩ := building.exec split place
      have shifted : item.statements dialect = (former ++ [statement]) ++ rest := by simpa using place
      have partway := further.interrupted split shifted
      unfold applyStatements
      apply Program.Ensures.call
      intro choice reply after answered
      refine ⟨interrupted, ?_⟩
      cases choice with
      | refused failure =>
          cases answered
          exact ⟨interrupted, fun same => by cases same⟩
      | unanswered failure =>
          cases answered
          exact ⟨partway, fun same => by cases same⟩
      | done =>
          have given := Prod.mk.inj (Option.some.inj answered)
          obtain ⟨rfl, rfl⟩ : Except.ok () = reply ∧ (respond dialect (.exec statement) state).2 = after :=
            ⟨execOk.symm.trans given.1, given.2⟩
          exact ih shifted further partway

/-- A database with nothing open, which has what the first migrations make. -/
structure Settled (dialect : Dialect) (done : List Migration) (state : State) : Prop where
  schema : state.schema = upTo dialect done
  closed : state.transaction = none

private theorem Settled.building {done : List Migration} (settled : Settled dialect done state) :
    Building dialect done [] (respond dialect .begin state).2 := by
  constructor
  · simp [respond, settled.schema, upTo]
  · exact .inl settled.schema
  · exact fun _ => rfl

private theorem applyMigration_ensures {done later : List Migration} {item : Migration}
    (split : migrations = done ++ item :: later) (settled : Settled dialect done state) :
    (applyMigration item.version (item.statements dialect)).Ensures (perform dialect) (Observed dialect)
      (fun _ result final => Interrupted dialect final.schema ∧
        (result = .ok () → Settled dialect (done ++ [item]) final))
      earlier state := by
  have interrupted : Interrupted dialect state.schema := .inl ⟨done, item :: later, split, settled.schema⟩
  unfold applyMigration
  apply Program.Ensures.call
  intro choice reply after answered
  refine ⟨interrupted, ?_⟩
  cases choice with
  | refused failure =>
      cases answered
      exact ⟨interrupted, fun same => by cases same⟩
  | unanswered failure =>
      cases answered
      exact ⟨interrupted, fun same => by cases same⟩
  | done =>
      cases answered
      apply Program.Ensures.bind (applyStatements_ensures split (item.statements dialect) rfl settled.building)
      rintro moments result between ⟨partway, whole⟩
      apply Program.Ensures.call
      intro choice reply final answered
      refine ⟨partway, ?_⟩
      have back : final = between.recovered := by
        cases choice <;> exact (Prod.mk.inj (Option.some.inj answered)).2.symm
      rw [back]
      exact ⟨partway, fun same => ⟨(whole same).1, rfl⟩⟩

private theorem applyPending_ensures (rest : List Migration) {done ahead todo : List Migration}
    (split : migrations = done ++ rest) (some_ : rest = ahead ++ todo)
    (settled : Settled dialect (done ++ ahead) state) :
    (applyPending dialect rest).Ensures (perform dialect) (Observed dialect)
      (fun _ _ final => Interrupted dialect final.schema) earlier state := by
  have interrupted : Interrupted dialect state.schema := by
    refine .inl ⟨done ++ ahead, todo, ?_, settled.schema⟩
    rw [split, some_, List.append_assoc]
  induction rest generalizing done ahead todo state earlier with
  | nil => exact interrupted
  | cons item rest ih =>
      have next : migrations = (done ++ [item]) ++ rest := by simpa using split
      unfold applyPending
      apply Program.Ensures.call
      intro choice reply after answered
      refine ⟨interrupted, ?_⟩
      cases choice with
      | refused failure =>
          cases answered
          exact interrupted
      | unanswered failure =>
          cases answered
          exact interrupted
      | done =>
          cases answered
          dsimp only
          cases ahead with
          | cons first ahead =>
              obtain ⟨rfl, tail⟩ := List.cons.inj some_
              have recorded : 0 < (state.transaction.getD state.schema).versions.count item.version := by
                rw [settled.closed]
                apply List.count_pos_iff.mpr
                simp [settled.schema, upTo]
              rw [if_pos recorded]
              have further : Settled dialect ((done ++ [item]) ++ ahead) state := by
                simpa using settled
              exact ih next tail further interrupted
          | nil =>
              rw [List.append_nil] at settled
              have missing : ¬ 0 < (state.transaction.getD state.schema).versions.count item.version := by
                rw [settled.closed, List.count_pos_iff]
                have fresh := unrecorded split
                simpa [settled.schema, upTo] using fresh
              rw [if_neg missing]
              apply Program.Ensures.bind (applyMigration_ensures split settled)
              rintro moments result between ⟨partway, whole⟩
              cases result with
              | error failure => exact partway
              | ok _ =>
                  have further := whole rfl
                  rw [← List.append_nil (done ++ [item])] at further
                  exact ih next (List.nil_append rest).symm further partway

end Runs

/-! ## Runs that nothing interrupts -/

section Complete

variable {done later : List Migration} {item : Migration} {state : State}

private theorem respond_prepared (dialect : Dialect) (call : Call) (state : State)
    (other : call ≠ .prepare) : (respond dialect call state).2.prepared = state.prepared := by
  cases call with
  | prepare => exact (other rfl).elim
  | exec statement =>
      cases dialect <;> simp only [respond] <;> split <;> rfl
  | record version =>
      simp only [respond]
      split
      · rfl
      · split <;> rfl
  | count _ | begin | commit | rollback => rfl

private theorem follow_applyStatements (split : migrations = done ++ item :: later) (latter : List Statement)
    {former : List Statement} (place : item.statements dialect = former ++ latter)
    (building : Building dialect done former state) :
    Program.follow (respond dialect) (applyStatements item.version latter) state =
      (.ok (), ⟨state.prepared, upTo dialect (done ++ [item]), none⟩) := by
  induction latter generalizing former state with
  | nil =>
      rw [List.append_nil] at place
      obtain ⟨recordedOk, view, _, prepared⟩ := building.record split place
      unfold applyStatements call
      rw [Program.follow_call, recordedOk]
      dsimp only
      rw [Program.follow_call]
      change ((Except.ok () : Except GoError Unit),
        (⟨(respond dialect (.record item.version) state).2.prepared, _, none⟩ : State)) = _
      rw [view, prepared]
  | cons statement rest ih =>
      obtain ⟨execOk, further⟩ := building.exec split place
      have shifted : item.statements dialect = (former ++ [statement]) ++ rest := by simpa using place
      have prepared := respond_prepared dialect (.exec statement) state (fun same => by cases same)
      unfold applyStatements call
      rw [Program.follow_call, execOk]
      dsimp only
      rw [ih shifted further, prepared]

private theorem follow_applyMigration (split : migrations = done ++ item :: later)
    (settled : Settled dialect done state) :
    Program.follow (respond dialect) (applyMigration item.version (item.statements dialect)) state =
      (.ok (), ⟨state.prepared, upTo dialect (done ++ [item]), none⟩) := by
  have first : Program.follow (respond dialect) (applyMigration item.version (item.statements dialect)) state =
      Program.follow (respond dialect) (do
        let outcome ← applyStatements item.version (item.statements dialect)
        call .rollback
        return outcome) (respond dialect .begin state).2 := rfl
  rw [first, Program.follow_bind, follow_applyStatements split (item.statements dialect) rfl settled.building]
  rfl

private theorem follow_count (state : State) (rest : List Migration) :
    Program.follow (respond dialect) (applyPending dialect (item :: rest)) state =
      Program.follow (respond dialect)
        (if (state.transaction.getD state.schema).versions.count item.version > 0 then applyPending dialect rest
          else do
            match ← applyMigration item.version (item.statements dialect) with
            | .error failure => return .error failure
            | .ok () => applyPending dialect rest) state := rfl

private theorem follow_skip {recorded : Schema} (same : state.schema = recorded) (closed : state.transaction = none)
    (member : item.version ∈ recorded.versions) (rest : List Migration) :
    Program.follow (respond dialect) (applyPending dialect (item :: rest)) state =
      Program.follow (respond dialect) (applyPending dialect rest) state := by
  have counted : (state.transaction.getD state.schema).versions.count item.version > 0 := by
    rw [closed]
    apply List.count_pos_iff.mpr
    rw [Option.getD_none, same]
    exact member
  rw [follow_count, if_pos counted]

private theorem follow_applyPending (rest : List Migration) {ahead todo : List Migration}
    (split : migrations = done ++ rest) (some_ : rest = ahead ++ todo)
    (settled : Settled dialect (done ++ ahead) state) :
    Program.follow (respond dialect) (applyPending dialect rest) state =
      (.ok (), ⟨state.prepared, upTo dialect migrations, none⟩) := by
  induction rest generalizing done ahead todo state with
  | nil =>
      obtain ⟨rfl, rfl⟩ := List.append_eq_nil_iff.mp some_.symm
      obtain ⟨prepared, schema, transaction⟩ := state
      have same := settled.schema
      have closed := settled.closed
      dsimp only at same closed
      rw [same, closed, split]
      rfl
  | cons item rest ih =>
      have next : migrations = (done ++ [item]) ++ rest := by simpa using split
      cases ahead with
      | cons first ahead =>
          obtain ⟨rfl, tail⟩ := List.cons.inj some_
          have member : item.version ∈ (upTo dialect (done ++ item :: ahead)).versions := by simp [upTo]
          have further : Settled dialect ((done ++ [item]) ++ ahead) state := by simpa using settled
          rw [follow_skip settled.schema settled.closed member, ih next tail further]
      | nil =>
          rw [List.append_nil] at settled
          have missing : ¬ (state.transaction.getD state.schema).versions.count item.version > 0 := by
            rw [settled.closed, gt_iff_lt, List.count_pos_iff]
            have fresh := unrecorded split
            simpa [settled.schema, upTo] using fresh
          rw [follow_count, if_neg missing, Program.follow_bind, follow_applyMigration split settled]
          dsimp only
          have further : Settled dialect ((done ++ [item]) ++ [])
              ⟨state.prepared, upTo dialect (done ++ [item]), none⟩ := ⟨by rw [List.append_nil], rfl⟩
          rw [ih next (List.nil_append rest).symm further]

private theorem follow_migrate {done later : List Migration} (split : migrations = done ++ later)
    (settled : Settled dialect done state) :
    Program.follow (respond dialect) (migrate dialect) state =
      (.ok (), ⟨true, upTo dialect migrations, none⟩) := by
  have first : Program.follow (respond dialect) (migrate dialect) state =
      Program.follow (respond dialect) (applyPending dialect migrations) { state with prepared := true } := rfl
  have ready : Settled dialect ([] ++ done) { state with prepared := true } := ⟨settled.schema, settled.closed⟩
  rw [first, follow_applyPending migrations rfl split ready]

private theorem exec_refused {statement : Statement}
    (present : (state.transaction.getD state.schema).accepts statement = false) :
    (respond .mysql (.exec statement) state).1 = .error objectError := by
  simp only [respond]
  rw [if_neg (by simp [present])]

/-- A table that is there already ends the migration that is to make it. -/
private theorem follow_again {former latter : List Statement} (split : migrations = done ++ item :: later)
    (some_ : former ≠ []) (place : item.statements .mysql = former ++ latter)
    (left : state.schema = ⟨(upTo .mysql done).objects ++ former, (upTo .mysql done).versions⟩)
    (closed : state.transaction = none) (rest : List Migration) :
    (Program.follow (respond .mysql) (applyPending .mysql (item :: rest)) state).1 ≠ .ok () := by
  have missing : ¬ (state.transaction.getD state.schema).versions.count item.version > 0 := by
    rw [closed, gt_iff_lt, List.count_pos_iff, Option.getD_none, left]
    exact unrecorded split
  rw [follow_count, if_neg missing, Program.follow_bind]
  obtain ⟨statement, others, rfl⟩ := List.exists_cons_of_ne_nil some_
  have refused : (respond .mysql (.exec statement) (respond .mysql .begin state).2).1 = .error objectError := by
    apply exec_refused
    change state.schema.accepts statement = false
    rw [left]
    simp [Schema.accepts]
  have applied : (Program.follow (respond .mysql) (applyStatements item.version (statement :: (others ++ latter)))
      (respond .mysql .begin state).2).1 =
        .error (.wrapped (text "apply migration " ++ itoa item.version) objectError) := by
    unfold applyStatements call
    rw [Program.follow_call, refused]
    rfl
  have failed : (Program.follow (respond .mysql)
      (applyMigration item.version (item.statements .mysql)) state).1 =
        .error (.wrapped (text "apply migration " ++ itoa item.version) objectError) := by
    have first : Program.follow (respond .mysql) (applyMigration item.version (item.statements .mysql)) state =
        Program.follow (respond .mysql) (do
          let outcome ← applyStatements item.version (item.statements .mysql)
          call .rollback
          return outcome) (respond .mysql .begin state).2 := rfl
    rw [first, Program.follow_bind, place]
    exact applied
  rw [failed]
  intro same
  cases same

private theorem follow_torn {former latter : List Statement} (ahead : List Migration) {before : List Migration}
    (split : migrations = done ++ item :: later) (parts : done = before ++ ahead)
    (some_ : former ≠ []) (place : item.statements .mysql = former ++ latter)
    (left : state.schema = ⟨(upTo .mysql done).objects ++ former, (upTo .mysql done).versions⟩)
    (closed : state.transaction = none) :
    (Program.follow (respond .mysql) (applyPending .mysql (ahead ++ item :: later)) state).1 ≠ .ok () := by
  induction ahead generalizing before with
  | nil => exact follow_again split some_ place left closed later
  | cons first ahead ih =>
      have member : first.version ∈ (upTo .mysql done).versions := by
        rw [parts]
        simp [upTo]
      rw [List.cons_append, follow_skip left closed member]
      have shifted : done = (before ++ [first]) ++ ahead := by simpa using parts
      exact ih shifted

end Complete

/-! ## Interrupted runs -/

private theorem migrate_ensures {done later : List Migration} {state : State} (split : migrations = done ++ later)
    (settled : Settled dialect done state) :
    (migrate dialect).Ensures (perform dialect) (Observed dialect)
      (fun _ _ final => Interrupted dialect final.schema) [] state := by
  have interrupted : Interrupted dialect state.schema := .inl ⟨done, later, split, settled.schema⟩
  unfold migrate
  apply Program.Ensures.call
  intro choice reply after answered
  refine ⟨interrupted, ?_⟩
  cases choice with
  | refused failure =>
      cases answered
      exact interrupted
  | unanswered failure =>
      cases answered
      exact interrupted
  | done =>
      cases answered
      have ready : Settled dialect ([] ++ done) { state with prepared := true } :=
        ⟨settled.schema, settled.closed⟩
      exact applyPending_ensures migrations rfl split ready

private theorem upTo_whole {done later : List Migration} (split : migrations = done ++ later) :
    Whole dialect (upTo dialect done) := by
  intro object member
  obtain ⟨item, listed, made⟩ := List.mem_flatMap.mp member
  refine ⟨item, ?_, List.mem_map_of_mem listed, made⟩
  rw [split]
  exact List.mem_append_left later listed

/-- No two migrations make the same table. -/
private theorem statements_apart {first second : Migration} (one : first ∈ migrations) (two : second ∈ migrations)
    {statement : Statement} (left : statement ∈ first.statements .mysql)
    (right : statement ∈ second.statements .mysql) : first.version = second.version := by
  have every : ∀ first ∈ migrations, ∀ second ∈ migrations, ∀ statement ∈ first.mysql,
      statement ∈ second.mysql → first.version = second.version := by
    decide
  exact every first one second two statement left right

private theorem torn_broken {schema : Schema} (torn : Torn dialect schema) : ¬ Whole dialect schema := by
  obtain ⟨rfl, done, item, later, former, latter, split, some_, place, rfl⟩ := torn
  intro whole
  obtain ⟨statement, others, rfl⟩ := List.exists_cons_of_ne_nil some_
  obtain ⟨maker, listed, recorded, made⟩ := whole statement (by simp)
  have member : item ∈ migrations := by
    rw [split]
    simp
  have same := statements_apart listed member made (by rw [place]; simp)
  rw [same] at recorded
  exact unrecorded split recorded

/-- Wherever `Migrate` is interrupted, on a database on which the first
versions have been applied, it can be run again exactly if every table is one of
a recorded version; on SQLite it always can. -/
theorem migrate_restarts (dialect : Dialect) (prepared : Bool) (applied : Nat) {rest : Process (Except GoError Unit)}
    {moments : List (Moment Call Call.Reply State)} {left : State}
    (traces : Program.Traces (perform dialect) (fun before after => after = before) (migrate dialect)
      (database dialect prepared applied) moments rest left) :
    (Restarts dialect (database dialect prepared applied) left ↔ Whole dialect left.schema) ∧
      (dialect = .sqlite → Whole dialect left.schema) := by
  have split : migrations = migrations.take applied ++ migrations.drop applied :=
    (List.take_append_drop applied migrations).symm
  have settled : Settled dialect (migrations.take applied) (database dialect prepared applied) := ⟨rfl, rfl⟩
  have reached := ((migrate_ensures split settled).traces traces).2
  have interrupted : Interrupted dialect left.schema :=
    reached.reached (fun state => Interrupted dialect state.schema)
      (fun call state => ⟨.done, _, _, rfl⟩) (fun moment observed => observed) fun _ _ _ ended => ended
  have uninterrupted := follow_migrate split settled
  rcases interrupted with ⟨done, later, parts, same⟩ | torn
  · have whole : Whole dialect left.schema := by
      rw [same]
      exact upTo_whole parts
    refine ⟨iff_of_true ?_ whole, fun _ => whole⟩
    have again : Program.follow (respond dialect) (migrate dialect) left.recovered = _ :=
      follow_migrate parts ⟨same, rfl⟩
    have complete : Settled dialect migrations ⟨true, upTo dialect migrations, none⟩ := ⟨rfl, rfl⟩
    have once := follow_migrate (List.append_nil migrations).symm complete
    unfold Restarts
    rw [uninterrupted, again]
    exact ⟨rfl, once⟩
  · have broken := torn_broken torn
    obtain ⟨rfl, done, item, later, former, latter, parts, some_, place, same⟩ := torn
    refine ⟨iff_of_false ?_ broken, fun impossible => by cases impossible⟩
    intro restarts
    have failed : (Program.follow (respond .mysql) (applyPending .mysql (done ++ item :: later))
        { left.recovered with prepared := true }).1 ≠ .ok () :=
      follow_torn done parts (List.nil_append done).symm some_ place same rfl
    rw [← parts] at failed
    exact failed (congrArg Prod.fst restarts.1)

/-- What is left when the process ends after the first table. -/
def firstTable (dialect : Dialect) : State :=
  (respond dialect (.exec (create "users" [])) ⟨true, ⟨[], []⟩, some ⟨[], []⟩⟩).2

private theorem done_answered (call : Call) (state : State) :
    perform dialect call .done state = some ((respond dialect call state).1, (respond dialect call state).2) := rfl

private theorem first_table (dialect : Dialect) : ∃ moments rest,
    Program.Traces (perform dialect) (fun before after => after = before) (migrate dialect)
      (database dialect false 0) moments rest (firstTable dialect) := by
  cases dialect with
  | sqlite => exact ⟨_, _, .step rfl (done_answered .prepare _) (.step rfl (done_answered (.count 1) _)
      (.step rfl (done_answered .begin _) (.step rfl (done_answered (.exec _) _) .refl)))⟩
  | mysql => exact ⟨_, _, .step rfl (done_answered .prepare _) (.step rfl (done_answered (.count 1) _)
      (.step rfl (done_answered .begin _) (.step rfl (done_answered (.exec _) _) .refl)))⟩

theorem migrate_restarts_sqlite :
    Restarts .sqlite (database .sqlite false 0) (firstTable .sqlite) := by
  obtain ⟨moments, rest, traces⟩ := first_table .sqlite
  have restarts := migrate_restarts .sqlite false 0 traces
  exact restarts.1.mpr (restarts.2 rfl)

/-- On MySQL the table stays, without its version. -/
theorem first_table_stays : ∃ moments rest,
    Program.Traces (perform .mysql) (fun before after => after = before) (migrate .mysql)
      (database .mysql false 0) moments rest (firstTable .mysql) ∧
    ¬ Restarts .mysql (database .mysql false 0) (firstTable .mysql) := by
  obtain ⟨moments, rest, traces⟩ := first_table .mysql
  refine ⟨moments, rest, traces, ?_⟩
  intro restarts
  exact absurd (congrArg Prod.fst restarts.1) (by decide)

end NodeAtlas.Migrations
