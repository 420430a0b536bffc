import NodeAtlas.Database

/-! The append-only audit log. -/

set_option autoImplicit false

namespace NodeAtlas.AuditLog

/-- `metadata` is the JSON of an object, numbers by their digits. -/
structure Entry where
  id : GoString
  eventType : GoString
  targetType : GoString
  targetID : GoString
  requestID : GoString
  sourceIP : GoString
  metadata : JSONMap
  createdAt : Instant
  deriving DecidableEq, Repr

def append (db : Database) (entry : Entry) (rows : List Entry) : Except GoError Unit × List Entry :=
  if rows.any fun row => db.same row.id entry.id then
    (.error (.wrapped (text "append audit entry") (db.failed .duplicate)), rows)
  else (.ok (), rows ++ [{ entry with createdAt := db.stamp entry.createdAt }])

end NodeAtlas.AuditLog
