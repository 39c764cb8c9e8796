import SqlSchema.Dialect.Basic

/-!
# Notices and failures

What an operation says: the notices while it works, which change nothing and are there for
a reader of the output, and why it failed.
-/

namespace SqlSchema

/-! ## Notices -/

inductive Level
  | detail
  | progress
  | warning
  deriving DecidableEq

/-- What stands in front of a notice, all of one width. -/
def Level.mark : Level → String
  | detail => "DEBUG"
  | progress => " INFO"
  | warning => " WARN"

structure Notice where
  level : Level
  message : String
  values : List (String × String)

def Notice.isShown (detailed : Bool) (n : Notice) : Bool := detailed || n.level != .detail

def Notice.named (value : String × String) : String := " " ++ value.1 ++ "=" ++ value.2

/-- The line of a notice. A value stands as it is, so one of several lines makes several. -/
def Notice.line (n : Notice) : String :=
  n.level.mark ++ " " ++ n.message ++ String.join (n.values.map named) ++ "\n"

/-! ## Failures -/

inductive Failure
  | refused (e : DialectError)
  | rejected (sql message : String)
  | unexpectedRow (sql column : String)
  | connection (reason : String)
  | settings (reason : String)
  | file (reason : String)
  | json (fault : Json.Fault)
  | several (failures : List Failure)

namespace Failure

mutual

/-- The wording of a failure. The server's own message is passed on unchanged. -/
def message : Failure → String
  | refused e => e.message
  | rejected sql message => "Database error executing '" ++ sql ++ "': " ++ message
  | unexpectedRow sql column =>
    "Query '" ++ sql ++ "' returned a row without column '" ++ column ++ "'"
  | connection reason => "Connection error: " ++ reason
  | settings reason => "Configuration error: " ++ reason
  | file reason => "IO error: " ++ reason
  | json fault => "Serialization error: " ++ fault.message
  | several failures => "Multiple errors occurred:\n" ++ "\n".intercalate (items failures)

def items : List Failure → List String
  | [] => []
  | f :: r => ("  - " ++ f.message) :: items r

end

/-- What was behind a failure that came from outside the library. -/
def cause? : Failure → Option String
  | file reason => some reason
  | json fault => some fault.message
  | _ => none

def isMalformed : Failure → Bool
  | json _ => true
  | _ => false

end Failure

end SqlSchema
