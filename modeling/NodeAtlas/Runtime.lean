import Mathlib.Algebra.Group.Int.Defs
import Mathlib.Algebra.Group.Nat.Defs
import Mathlib.Data.List.Basic

/-! Values shared by every package: Go strings, instants and error values. -/

set_option autoImplicit false

namespace NodeAtlas

/-- A Go string holds any bytes; nothing makes it valid UTF-8. -/
abbrev GoString := List UInt8

instance : LawfulBEq GoString := inferInstance

/-- The bytes of a string literal of the source. -/
def text (literal : String) : GoString :=
  literal.toList.flatMap String.utf8EncodeChar

/-- The encodings of the runes for which `unicode.IsSpace` holds. -/
def spaces : List GoString :=
  [0x09, 0x0A, 0x0B, 0x0C, 0x0D, 0x20, 0x85, 0xA0, 0x1680, 0x2000, 0x2001, 0x2002, 0x2003, 0x2004,
    0x2005, 0x2006, 0x2007, 0x2008, 0x2009, 0x200A, 0x2028, 0x2029, 0x202F, 0x205F, 0x3000].map
    fun rune => String.utf8EncodeChar (Char.ofNat rune)

/-- At most `bound` spaces off the front. -/
def trimLeft : Nat → GoString → GoString
  | 0, value => value
  | bound + 1, value =>
      match spaces.find? fun space => space.isPrefixOf value with
      | some space => trimLeft bound (value.drop space.length)
      | none => value

def trimRight : Nat → GoString → GoString
  | 0, value => value
  | bound + 1, value =>
      match spaces.find? fun space => space.isSuffixOf value with
      | some space => trimRight bound (value.take (value.length - space.length))
      | none => value

/-- `strings.TrimSpace`. -/
def trimSpace (value : GoString) : GoString :=
  let rest := trimLeft value.length value
  trimRight rest.length rest

/-- The JSON of a `map[string]string`. -/
abbrev JSONMap := List (GoString × GoString)

/-- A field that `json.Unmarshal` reads into a string; absent fields stay empty. -/
def JSONMap.field (name : GoString) (object : JSONMap) : GoString :=
  match object.find? fun member => member.1 = name with
  | some member => member.2
  | none => []

/-- Nanoseconds since the Unix epoch, in UTC. -/
abbrev Instant := Int

/-- Nanoseconds between two instants. -/
abbrev Duration := Int

/-- `time.Time{}`, the first instant of year 1. -/
def zeroInstant : Instant := -62135596800000000000

/-- `providers.ErrorCode`. -/
inductive ErrorCode where
  | authentication
  | permission
  | rateLimited
  | network
  | invalidConfig
  | notFound
  | unsupported
  | provider
  deriving DecidableEq, Repr

def ErrorCode.value : ErrorCode → GoString
  | .authentication => text "authentication_failed"
  | .permission => text "permission_denied"
  | .rateLimited => text "rate_limited"
  | .network => text "network_error"
  | .invalidConfig => text "invalid_configuration"
  | .notFound => text "not_found"
  | .unsupported => text "unsupported"
  | .provider => text "provider_error"

/-- `providers.Error`. -/
structure ProviderError where
  code : ErrorCode
  message : GoString
  retryable : Bool
  deriving DecidableEq, Repr

/-- The package-level error values that callers compare with `errors.Is`. -/
inductive Sentinel where
  | operationNotFound
  | activeOperation
  | invalidTransition
  | invalidAction
  | stateConflict
  | capabilityUnavailable
  | serverNotFound
  | connectionNotFound
  | noJob
  | leaseLost
  | activeWork
  | invalidBackup
  | alreadyInitialized
  | sessionNotFound
  | invalidCredentials
  | invalidSession
  | invalidCurrentPassword
  | consoleSessionNotFound
  | ticketUnavailable
  | targetRejected
  | targetUnavailable
  | consoleUnavailable
  | invalidManifest
  | checksumMismatch
  | backupNotFound
  deriving DecidableEq, Repr

def Sentinel.message : Sentinel → GoString
  | .operationNotFound => text "operation not found"
  | .activeOperation => text "server already has an active operation"
  | .invalidTransition => text "invalid operation transition"
  | .invalidAction => text "invalid power action"
  | .stateConflict => text "server state conflicts with action"
  | .capabilityUnavailable => text "server capability is unavailable"
  | .serverNotFound => text "server not found"
  | .connectionNotFound => text "provider connection not found"
  | .noJob => text "no job available"
  | .leaseLost => text "job lease lost"
  | .activeWork => text "active work prevents restore"
  | .invalidBackup => text "backup is invalid or passphrase is incorrect"
  | .alreadyInitialized => text "administrator already initialized"
  | .sessionNotFound => text "not found"
  | .invalidCredentials => text "invalid username or password"
  | .invalidSession => text "invalid session"
  | .invalidCurrentPassword => text "current password is invalid"
  | .consoleSessionNotFound => text "console session not found"
  | .ticketUnavailable => text "console ticket is unavailable"
  | .targetRejected => text "console target rejected by security policy"
  | .targetUnavailable => text "console target is unavailable"
  | .consoleUnavailable => text "console capability is unavailable"
  | .invalidManifest => text "backup manifest is invalid"
  | .checksumMismatch => text "backup checksum does not match"
  | .backupNotFound => text "backup not found"

/-- A Go error value. `wrapped` is `fmt.Errorf` with `%w` at its end, `joined`
is `errors.Join` of two errors, and `plain` has only a text. -/
inductive GoError where
  | sentinel (value : Sentinel)
  | plain (message : GoString)
  | provider (error : ProviderError)
  | wrapped (context : GoString) (inner : GoError)
  | joined (first second : GoError)
  deriving DecidableEq, Repr

namespace GoError

/-- `errors.Is` with a package-level value. -/
def is (target : Sentinel) : GoError → Bool
  | .sentinel value => value = target
  | .plain _ => false
  | .provider _ => false
  | .wrapped _ inner => inner.is target
  | .joined first second => first.is target || second.is target

/-- `errors.As` with a `*providers.Error`: the first one in the tree. -/
def asProvider : GoError → Option ProviderError
  | .sentinel _ => none
  | .plain _ => none
  | .provider error => some error
  | .wrapped _ inner => inner.asProvider
  | .joined first second => first.asProvider.or second.asProvider

/-- The text of `Error()`. -/
def message : GoError → GoString
  | .sentinel value => value.message
  | .plain message => message
  | .provider error => text "provider " ++ error.code.value ++ text ": " ++ error.message
  | .wrapped context inner => context ++ text ": " ++ inner.message
  | .joined first second => first.message ++ text "\n" ++ second.message

/-- `errors.As` with `RetryableError() bool`, which only `*providers.Error` has. -/
def retryable (error : GoError) : Bool :=
  match error.asProvider with
  | some failure => failure.retryable
  | none => false

end GoError

end NodeAtlas
