import SqlSchema.Text.Case

/-!
# Expressions

The functions of the dialect, applied to operands that are SQL text, and a few fixed
phrases.
-/

namespace SqlSchema.Expression

def call (function : String) (operands : List String) : String :=
  function ++ "(" ++ ", ".intercalate operands ++ ")"

def substring (value position : String) (length : Option String) : String :=
  call "SUBSTR" ([value, position] ++ length.toList)

def locate (text part : String) (start : Option String) : String :=
  call "INSTR" ([text, part] ++ start.toList)

def now : String := "TO_CHAR(CURRENT_TIMESTAMP, 'YYYY-MM-DD HH24:MI:SS')"

def guid : String := "SYS_GUID()"

/-- The difference of two dates in whole days: what stands before the first blank of the
interval between them. -/
def daysBetween (a b : String) : String :=
  let interval := a ++ "-" ++ b
  "TRUNC(TO_NUMBER(SUBSTR((" ++ interval ++ "), 1, INSTR(" ++ interval ++ ", ' '))))"

def addDays (date days : String) : String := "(" ++ date ++ "+" ++ days ++ ")"

def subDays (date days : String) : String := "(" ++ date ++ "-" ++ days ++ ")"

def addMonths (date months : String) : String := call "ADD_MONTHS" [date, months]

def subMonths (date months : String) : String := call "ADD_MONTHS" [date, "-" ++ months]

def bitAnd (a b : String) : String := call "BITAND" [a, b]

/-- The bits set in either number, by way of those set in both. -/
def bitOr (a b : String) : String := "(" ++ a ++ "-" ++ bitAnd a b ++ "+" ++ b ++ ")"

def createTemporaryTable : String := "CREATE GLOBAL TEMPORARY TABLE"

/-- How a savepoint is released: it cannot be, so nothing is said. -/
def releaseSavepoint (_savepoint : String) : String := ""

def resultColumn (column : String) : String := Text.upper column

end SqlSchema.Expression
