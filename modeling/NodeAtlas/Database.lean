import NodeAtlas.Runtime
import NodeAtlas.Transactions.Engine

/-! The two database dialects, and what the repositories see of the server and
its driver behind `database/sql`. -/

set_option autoImplicit false

namespace NodeAtlas

inductive Dialect where
  | sqlite
  | mysql
  deriving DecidableEq, Repr

/-- Texts compare equal when their images under `collate` are equal (the MySQL
tables use a case-insensitive collation), a time column gives back `stamp` of
what was written to it, and `notAfter` is `<=` between two time columns (SQLite
compares their texts). -/
structure Database where
  dialect : Dialect
  collate : GoString → GoString
  stamp : Instant → Instant
  notAfter : Instant → Instant → Bool
  driverMessage : Transactions.Failure → GoString
  binary : dialect = .sqlite → collate = id

namespace Database

variable (db : Database)

def same (left right : GoString) : Bool :=
  db.collate left = db.collate right

/-- The error value of the driver. -/
def failed (failure : Transactions.Failure) : GoError :=
  .plain (db.driverMessage failure)

/-- `SetMaxOpenConns(1)`: on SQLite a transaction has the only connection. -/
def singleConnection : Bool :=
  db.dialect = .sqlite

/-- A server that compares bytes, keeps instants and orders them. -/
def plain (dialect : Dialect) : Database where
  dialect := dialect
  collate := id
  stamp := id
  notAfter left right := left ≤ right
  driverMessage _ := text "database error"
  binary _ := rfl

/-- A MySQL server, as far as its collation goes on ASCII letters. -/
def caseless : Database where
  dialect := .mysql
  collate value := value.map fun byte => if 0x41 ≤ byte ∧ byte ≤ 0x5A then byte + 0x20 else byte
  stamp := id
  notAfter left right := left ≤ right
  driverMessage _ := text "database error"
  binary impossible := by cases impossible

/-- A MySQL server, as far as its columns of type DATETIME(6) go: they hold
microseconds, and the server rounds. -/
def microseconds : Database where
  dialect := .mysql
  collate := id
  stamp instant := (instant + 500) / 1000 * 1000
  notAfter left right := left ≤ right
  driverMessage _ := text "database error"
  binary _ := rfl

theorem same_refl (value : GoString) : db.same value value = true := by
  simp [same]

theorem same_symm (left right : GoString) : db.same left right = db.same right left := by
  simp [same, eq_comm]

theorem same_trans {left middle right : GoString} (first : db.same left middle = true)
    (second : db.same middle right = true) : db.same left right = true := by
  simp only [same, decide_eq_true_eq] at first second ⊢
  rw [first, second]

end Database

end NodeAtlas
