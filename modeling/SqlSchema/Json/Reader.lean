import SqlSchema.Decimal.Rounding
import SqlSchema.Json.Basic

/-!
# Reading JSON text

A strict reader: no comments, no trailing commas, no bare control characters, and
nothing but blanks around the value.

A whole number within 64 bits is kept exactly. Any other number is a float, read in two
steps: as many digits as fit 64 bits are taken as a whole number, and that is scaled by a
power of ten. Each step rounds, so the float can be a neighbour of the nearest one.
-/

namespace SqlSchema.Json

/-! ## Numbers -/

def digitValue (c : Char) : Nat := c.toNat - '0'.toNat

def ofDigits (ds : List Char) : Nat := ds.foldl (fun n d => 10 * n + digitValue d) 0

/-- Appends digits to a number while it fits 64 bits. Gives the number and how many digits
were appended. -/
def appendFitting (n : Nat) : List Char → Nat × Nat
  | [] => (n, 0)
  | d :: r =>
    let m := 10 * n + digitValue d
    if m < UInt64.size then
      let (whole, taken) := appendFitting m r
      (whole, taken + 1)
    else (n, 0)

/-- The greatest power of ten that is a float, as an exponent. -/
def greatestPower : Nat := 308

def powerOfTen (e : Nat) : Float := Decimal.nearest false 1 e

def divideByPower (x : Float) (e : Nat) : Float :=
  if e ≤ greatestPower then x / powerOfTen e
  else if x == 0 then x
  else divideByPower (x / powerOfTen greatestPower) (e - greatestPower)
termination_by e
decreasing_by simp only [greatestPower] at *; omega

/-- A whole number times a power of ten, the number rounded first and the product after.
One beyond every float has none. -/
def scaled? (n : Nat) (e : Int) : Option Float :=
  let x := Decimal.nearest false n 0
  if e < 0 then some (divideByPower x (-e).toNat)
  else if n = 0 then some x
  else if e ≤ greatestPower then (some (x * powerOfTen e.toNat)).filter fun y => !y.isInf
  else none

def floatValue (negative : Bool) (n : Nat) (e : Int) : Json :=
  match scaled? n e with
  | some x => .float (if negative then -x else x)
  | none => .unreadable

/-- The value of a whole number that fits 64 bits, which with a sign may need a float. -/
def wholeValue (negative : Bool) (n : Nat) : Json :=
  if negative = false then .int n
  else if n ≠ 0 ∧ Int64.minValue.toInt ≤ -(n : Int) then .int (-(n : Int))
  else floatValue true n 0

/-- The value of a number given by its digits before and after the point and its
exponent. Digits before the point that do not fit count in the exponent, those after it
are dropped. -/
def numberValue (negative : Bool) (whole : List Char) (fraction : Option (List Char))
    (exponent : Option Int) : Json :=
  let (n, taken) := appendFitting 0 whole
  let (m, places) := appendFitting n (fraction.getD [])
  if fraction.isNone ∧ exponent.isNone ∧ taken = whole.length then wholeValue negative n
  else floatValue negative m (exponent.getD 0 + (whole.length - taken : Nat) - places)

/-! ## Values -/

def isSpace (c : Char) : Bool := c = ' ' || c = '\t' || c = '\n' || c = '\r'

def skipSpace (s : List Char) : List Char := s.dropWhile isSpace

/-! ## Strings -/

/-- A part of a string: a character written plainly or by a short escape, or a
16-bit code unit written in hexadecimal. -/
inductive Piece
  | char (c : Char)
  | unit (n : Nat)

inductive StringState
  | plain
  | escaped
  | hex (missing value : Nat)

def hexValue? (c : Char) : Option Nat :=
  if '0' ≤ c && c ≤ '9' then some (c.toNat - '0'.toNat)
  else if 'a' ≤ c && c ≤ 'f' then some (c.toNat - 'a'.toNat + 10)
  else if 'A' ≤ c && c ≤ 'F' then some (c.toNat - 'A'.toNat + 10)
  else none

def shortEscape? : Char → Option Char
  | '"' => some '"'
  | '\\' => some '\\'
  | '/' => some '/'
  | 'b' => some '\x08'
  | 'f' => some '\x0c'
  | 'n' => some '\n'
  | 'r' => some '\r'
  | 't' => some '\t'
  | _ => none

/-- Scans a string up to its closing quote. Gives the pieces, last first, and the
text after the quote. -/
def scanString : StringState → List Piece → List Char → Option (List Piece × List Char)
  | _, _, [] => none
  | .plain, ps, c :: r =>
    if c = '"' then some (ps, r)
    else if c = '\\' then scanString .escaped ps r
    else if c.toNat < 0x20 then none
    else scanString .plain (.char c :: ps) r
  | .escaped, ps, c :: r =>
    if c = 'u' then scanString (.hex 4 0) ps r
    else
      match shortEscape? c with
      | some e => scanString .plain (.char e :: ps) r
      | none => none
  | .hex missing value, ps, c :: r =>
    match hexValue? c with
    | none => none
    | some d =>
      let value := 16 * value + d
      if missing ≤ 1 then scanString .plain (.unit value :: ps) r
      else scanString (.hex (missing - 1) value) ps r

/-- Joins the pieces of a string, surrogate pairs becoming one character. A surrogate
without its partner has no character. -/
def assemble : List Piece → Option (List Char)
  | [] => some []
  | .char c :: r => (assemble r).map (c :: ·)
  | .unit n :: .unit m :: r =>
    if 0xD800 ≤ n && n < 0xDC00 && 0xDC00 ≤ m && m < 0xE000 then
      (assemble r).map (Char.ofNat (0x10000 + (n - 0xD800) * 0x400 + (m - 0xDC00)) :: ·)
    else if 0xD800 ≤ n && n < 0xE000 then none
    else (assemble (.unit m :: r)).map (Char.ofNat n :: ·)
  | .unit n :: r =>
    if 0xD800 ≤ n && n < 0xE000 then none else (assemble r).map (Char.ofNat n :: ·)

def readString (s : List Char) : Option (Option String × List Char) :=
  (scanString .plain [] s).map fun (ps, r) => ((assemble ps.reverse).map String.ofList, r)

/-! ## Numbers -/

def readDigits (s : List Char) : Option (List Char × List Char) :=
  match s.span Char.isDigit with
  | ([], _) => none
  | (ds, r) => some (ds, r)

def readFraction : List Char → Option (Option (List Char) × List Char)
  | '.' :: r => (readDigits r).map fun (ds, r) => (some ds, r)
  | s => some (none, s)

def readExponent : List Char → Option (Option Int × List Char)
  | c :: r =>
    if c = 'e' ∨ c = 'E' then
      match r with
      | '-' :: r => (readDigits r).map fun (ds, r) => (some (-(ofDigits ds : Int)), r)
      | '+' :: r => (readDigits r).map fun (ds, r) => (some (ofDigits ds : Int), r)
      | r => (readDigits r).map fun (ds, r) => (some (ofDigits ds : Int), r)
    else some (none, c :: r)
  | [] => some (none, [])

/-- Reads a number. A zero in front is the whole part by itself. -/
def readNumber (s : List Char) : Option (Json × List Char) := do
  let (negative, s) := match s with
    | '-' :: r => (true, r)
    | s => (false, s)
  let (whole, s) ← readDigits s
  if whole.head? = some '0' ∧ whole.length ≠ 1 then none
  let (fraction, s) ← readFraction s
  let (exponent, s) ← readExponent s
  some (numberValue negative whole fraction exponent, s)

/-! ## Values -/

def readWord (word : List Char) (s : List Char) : Option (List Char) :=
  if word.isPrefixOf s then some (s.drop word.length) else none

mutual

/-- Reads a value. The bound exceeds the length of the text. -/
def readValue : Nat → List Char → Option (Json × List Char)
  | 0, _ => none
  | bound + 1, s =>
    match skipSpace s with
    | '"' :: r => (readString r).map fun (t, r) => (t.elim .unreadable .text, r)
    | '[' :: r =>
      match skipSpace r with
      | ']' :: r => some (.array [], r)
      | r => (readItems bound r).map fun (items, r) => (.array items, r)
    | '{' :: r =>
      match skipSpace r with
      | '}' :: r => some (.object [], r)
      | r => (readMembers bound r).map fun (members, r) =>
          (members.elim .unreadable .object, r)
    | 'n' :: r => (readWord "ull".toList r).map fun r => (.null, r)
    | 't' :: r => (readWord "rue".toList r).map fun r => (.bool true, r)
    | 'f' :: r => (readWord "alse".toList r).map fun r => (.bool false, r)
    | r => readNumber r

def readItems : Nat → List Char → Option (List Json × List Char)
  | 0, _ => none
  | bound + 1, s => do
    let (v, r) ← readValue bound s
    match skipSpace r with
    | ']' :: r => some ([v], r)
    | ',' :: r => (readItems bound r).map fun (vs, r) => (v :: vs, r)
    | _ => none

/-- Reads the members of an object from the first one to the closing brace. One name
without a text leaves the whole object without a value. -/
def readMembers : Nat → List Char → Option (Option (List (String × Json)) × List Char)
  | 0, _ => none
  | bound + 1, s =>
    match skipSpace s with
    | '"' :: r => do
      let (name, r) ← readString r
      match skipSpace r with
      | ':' :: r => do
        let (v, r) ← readValue bound r
        let entry := name.map fun n => (n, v)
        match skipSpace r with
        | '}' :: r => some (entry.map ([·]), r)
        | ',' :: r => do
          let (rest, r) ← readMembers bound r
          some ((do some ((← entry) :: (← rest))), r)
        | _ => none
      | _ => none
    | _ => none

end

def ofString? (s : String) : Except Fault Json :=
  let cs := s.toList
  match readValue (cs.length + 1) cs with
  | some (v, r) => if (skipSpace r).isEmpty then .ok v else .error .malformed
  | none => .error .malformed

end SqlSchema.Json
