import SqlSchema.Text.Basic
import SqlSchema.Time.Format

/-!
# Reading timestamps

A timestamp is read in the first of four ways that fits: as an internet timestamp
with an offset, whose local time is kept; as a day and a time of day with a blank or
a `T` between them; or as a day alone. The last three ways are lenient: numbers need
not be padded and may have blanks in front.
-/

namespace SqlSchema.LocalTime

def takeDigits : Nat → Nat → List Char → Nat × List Char
  | 0, acc, s => (acc, s)
  | _ + 1, acc, [] => (acc, [])
  | max + 1, acc, c :: r =>
    if c.isDigit then takeDigits max (10 * acc + (c.toNat - '0'.toNat)) r else (acc, c :: r)

def number? (max : Nat) (s : List Char) : Option (Nat × List Char) :=
  if s.head?.any Char.isDigit then some (takeDigits max 0 s) else none

def fixedNumber? (width : Nat) (s : List Char) : Option (Nat × List Char) :=
  if width ≤ s.length ∧ (s.take width).all Char.isDigit then some (takeDigits width 0 s) else none

def expect? (c : Char) : List Char → Option (List Char)
  | [] => none
  | d :: r => if d = c then some r else none

/-- What follows the fraction of a second, if there is one. A point needs a digit. -/
def skipFraction? : List Char → Option (List Char)
  | '.' :: r => if r.head?.any Char.isDigit then some (r.dropWhile Char.isDigit) else none
  | s => some s

def checked (t : LocalTime) : Option LocalTime := if t.isValid then some t else none

/-! ## Internet timestamps -/

/-- What follows an offset: `Z`, or a sign, hours and minutes less than a day apart from
universal time. -/
def skipOffset? : List Char → Option (List Char)
  | [] => none
  | c :: s =>
    if c = 'Z' ∨ c = 'z' then some s
    else if c = '+' ∨ c = '-' ∨ c = '−' then do
      let (hours, s) ← fixedNumber? 2 s
      let s ← expect? ':' s
      let (minutes, s) ← fixedNumber? 2 s
      if hours ≤ 23 ∧ minutes ≤ 59 then some s else none
    else none

/-- Reads an internet timestamp: every number in full width, a `T` or a blank before the
time of day, and an offset, which is dropped. -/
def ofInternet? (s : List Char) : Option LocalTime := do
  let (year, s) ← fixedNumber? 4 s
  let s ← expect? '-' s
  let (month, s) ← fixedNumber? 2 s
  let s ← expect? '-' s
  let (day, s) ← fixedNumber? 2 s
  let s ← expect? 'T' s <|> expect? 't' s <|> expect? ' ' s
  let (hour, s) ← fixedNumber? 2 s
  let s ← expect? ':' s
  let (minute, s) ← fixedNumber? 2 s
  let s ← expect? ':' s
  let (second, s) ← fixedNumber? 2 s
  let s ← skipOffset? (← skipFraction? s)
  if s.isEmpty then checked { year, month, day, hour, minute, second } else none

/-! ## Lenient forms -/

def shortNumber? (s : List Char) : Option (Nat × List Char) := number? 2 (Text.skipBlanks s)

/-- A year behind blanks: up to four digits, or any number of digits behind a sign. -/
def year? (s : List Char) : Option (Int × List Char) :=
  match Text.skipBlanks s with
  | '-' :: r => (number? r.length r).map fun (n, r) => (-(n : Int), r)
  | '+' :: r => (number? r.length r).map fun (n, r) => ((n : Int), r)
  | r => (number? 4 r).map fun (n, r) => ((n : Int), r)

def day? (s : List Char) : Option (LocalTime × List Char) := do
  let (year, s) ← year? s
  let s ← expect? '-' s
  let (month, s) ← shortNumber? s
  let s ← expect? '-' s
  let (day, s) ← shortNumber? s
  some ({ year, month, day }, s)

def timeOn? (t : LocalTime) (s : List Char) : Option (LocalTime × List Char) := do
  let (hour, s) ← shortNumber? s
  let s ← expect? ':' s
  let (minute, s) ← shortNumber? s
  let s ← expect? ':' s
  let (second, s) ← shortNumber? s
  let s ← skipFraction? s
  some ({ t with hour, minute, second }, s)

/-- A day and a time of day with a separator between them that `skip` passes over. -/
def ofDayAndTime? (skip : List Char → Option (List Char)) (s : List Char) : Option LocalTime := do
  let (t, s) ← day? s
  let (t, s) ← timeOn? t (← skip s)
  if s.isEmpty then checked t else none

def ofDay? (s : List Char) : Option LocalTime := do
  let (t, s) ← day? s
  if s.isEmpty then checked t else none

def ofString? (text : String) : Option LocalTime :=
  let s := Text.trimWhile Text.isBlank text.toList
  ofInternet? s
    <|> ofDayAndTime? (fun s => some (Text.skipBlanks s)) s
    <|> ofDayAndTime? (expect? 'T') s
    <|> ofDay? s

end SqlSchema.LocalTime
