/-!
# Errors (internal/shared/errors, and what the database driver returns)

A Go error is a chain: `fmt.Errorf("context: %w", err)` wraps, `errors.Is` looks through the wraps
for a sentinel.

* `Sentinel` the package-level errors that callers test for;
* `PgError` a statement the server refused;
* `GoError.is` `errors.Is`;
* `GoError.code` `status.Code`, which looks through the wraps too;
* `GoError.text` `Error()`.
-/

namespace VirtueStack

/-- the verb `%q`, for text that needs no escaping -/
def quoted (s : String) : String := "\"" ++ s ++ "\""

def equalFold (a b : String) : Bool := a.toList.map Char.toLower == b.toList.map Char.toLower

inductive Sentinel where
  | notFound
  | alreadyExists
  | unauthorized
  | forbidden
  | validation
  | conflict
  | noRows
  | duplicateInvoicePeriod
  | noRowsAffected
  deriving DecidableEq, Repr

def Sentinel.text : Sentinel → String
  | .notFound => "resource not found"
  | .alreadyExists => "resource already exists"
  | .unauthorized => "unauthorized"
  | .forbidden => "forbidden"
  | .validation => "validation error"
  | .conflict => "resource conflict"
  | .noRows => "no rows in result set"
  | .duplicateInvoicePeriod => "duplicate invoice period"
  | .noRowsAffected => "no rows affected"

inductive PgError where
  /-- SQLSTATE 23505, with the name of the index -/
  | uniqueViolation (constraint : String)
  /-- SQLSTATE 22003, an integer column would overflow -/
  | outOfRange
  /-- a lost connection, a deadlock, a lock timeout, a cancelled context -/
  | fault (text : String)
  deriving DecidableEq, Repr

def PgError.text : PgError → String
  | .uniqueViolation c => "duplicate key value violates unique constraint " ++ quoted c
  | .outOfRange => "integer out of range"
  | .fault t => t

/-- google.golang.org/grpc/codes -/
inductive Code where
  | ok
  | canceled
  | unknown
  | invalidArgument
  | deadlineExceeded
  | notFound
  | alreadyExists
  | permissionDenied
  | resourceExhausted
  | failedPrecondition
  | aborted
  | outOfRange
  | unimplemented
  | internal
  | unavailable
  | dataLoss
  | unauthenticated
  deriving DecidableEq, Repr

def Code.text : Code → String
  | .ok => "OK"
  | .canceled => "Canceled"
  | .unknown => "Unknown"
  | .invalidArgument => "InvalidArgument"
  | .deadlineExceeded => "DeadlineExceeded"
  | .notFound => "NotFound"
  | .alreadyExists => "AlreadyExists"
  | .permissionDenied => "PermissionDenied"
  | .resourceExhausted => "ResourceExhausted"
  | .failedPrecondition => "FailedPrecondition"
  | .aborted => "Aborted"
  | .outOfRange => "OutOfRange"
  | .unimplemented => "Unimplemented"
  | .internal => "Internal"
  | .unavailable => "Unavailable"
  | .dataLoss => "DataLoss"
  | .unauthenticated => "Unauthenticated"

inductive GoError where
  | sentinel (s : Sentinel)
  | pg (e : PgError)
  /-- the error of a gRPC status -/
  | rpc (code : Code) (desc : String)
  /-- `fmt.Errorf` without a wrapped error -/
  | new (text : String)
  | wrap (context : String) (e : GoError)
  /-- `errors.Join` -/
  | join (a b : GoError)
  /-- `NewValidationError` -/
  | invalid (field issue : String)
  deriving DecidableEq, Repr

namespace GoError

def is : GoError → Sentinel → Bool
  | .sentinel s, t => s == t
  | .wrap _ e, t => e.is t
  | .join a b, t => a.is t || b.is t
  | .invalid _ _, t => t == .validation
  | _, _ => false

/-- the first status in the chain -/
def status : GoError → Option Code
  | .rpc c _ => some c
  | .wrap _ e => e.status
  | .join a b => a.status.or b.status
  | _ => none

def code (e : GoError) : Code := e.status.getD .unknown

def text : GoError → String
  | .sentinel s => s.text
  | .pg e => e.text
  | .rpc c desc => "rpc error: code = " ++ c.text ++ " desc = " ++ desc
  | .new t => t
  | .wrap c e => c ++ ": " ++ e.text
  | .join a b => a.text ++ "\n" ++ b.text
  | .invalid field issue => "validation error: field " ++ quoted field ++ " - " ++ issue

end GoError

end VirtueStack
