/-!
# Local times and their formats

Dates with a time of day and no time zone. A format is a list of fields and fixed text;
the dialect stores dates and times in four of them.
-/

namespace SqlSchema

def daysInMonth (year : Int) (month : Nat) : Nat :=
  if month = 2 then
    if year % 4 = 0 ∧ (year % 100 ≠ 0 ∨ year % 400 = 0) then 29 else 28
  else if month ∈ [4, 6, 9, 11] then 30
  else 31

/-- A date and a time of day, to the second. The second may be 60, a leap second. -/
structure LocalTime where
  year : Int
  month : Nat
  day : Nat
  hour : Nat := 0
  minute : Nat := 0
  second : Nat := 0
  deriving DecidableEq

def LocalTime.isValid (t : LocalTime) : Bool :=
  -262143 ≤ t.year && t.year ≤ 262142 &&
  1 ≤ t.month && t.month ≤ 12 && 1 ≤ t.day && t.day ≤ daysInMonth t.year t.month &&
  t.hour ≤ 23 && t.minute ≤ 59 && t.second ≤ 60

/-! ## Formats -/

inductive TimeField
  | year
  | month
  | day
  | hour
  | minute
  | second
  | offset
  | text (s : String)

abbrev TimeFormat := List TimeField

namespace TimeField

def pattern : TimeField → String
  | year => "%Y"
  | month => "%m"
  | day => "%d"
  | hour => "%H"
  | minute => "%M"
  | second => "%S"
  | offset => "%:z"
  | text s => s

def padded (width n : Nat) : List Char :=
  let ds := Nat.toDigits 10 n
  List.replicate (width - ds.length) '0' ++ ds

/-- A year in at least four digits. Outside the years 0 to 9999 it has a sign. -/
def yearText (y : Int) : List Char :=
  if 0 ≤ y ∧ y < 10000 then padded 4 y.toNat
  else (if y < 0 then '-' else '+') :: padded 4 y.natAbs

/-- The text of a field. A local time has no offset. -/
def render? (t : LocalTime) : TimeField → Option (List Char)
  | year => some (yearText t.year)
  | month => some (padded 2 t.month)
  | day => some (padded 2 t.day)
  | hour => some (padded 2 t.hour)
  | minute => some (padded 2 t.minute)
  | second => some (padded 2 t.second)
  | offset => none
  | text s => some s.toList

end TimeField

namespace TimeFormat

def pattern (f : TimeFormat) : String := String.join (f.map TimeField.pattern)

/-- The text of a local time in a format, if the format asks for nothing that a local
time lacks. -/
def render? (f : TimeFormat) (t : LocalTime) : Option String :=
  (f.mapM (TimeField.render? t)).map fun parts => String.ofList parts.flatten

def ymd : TimeFormat := [.year, .text "-", .month, .text "-", .day]

def hms : TimeFormat := [.hour, .text ":", .minute, .text ":", .second]

/-- A date, stored as its first second. -/
def date : TimeFormat := ymd ++ [.text " 00:00:00"]

/-- A time of day, stored on a fixed date. -/
def time : TimeFormat := .text "1900-01-01 " :: hms

def datetime : TimeFormat := ymd ++ .text " " :: hms

def datetimeTz : TimeFormat := datetime ++ [.offset]

end TimeFormat

end SqlSchema
