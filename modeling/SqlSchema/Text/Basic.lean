/-!
# Text

The texts that the library reads and writes, character by character: blanks, the case of
ASCII letters, searching and splitting, keywords in running text, and whole numbers.
-/

namespace SqlSchema.Text

/-! ## Character classes -/

def inRanges (ranges : List (Nat × Nat)) (c : Char) : Bool :=
  ranges.any fun r => r.1 ≤ c.toNat && c.toNat ≤ r.2

/-! ## White space -/

/-- The characters with the Unicode property White_Space. Whatever skips or trims blanks uses
this one class. -/
def isBlank (c : Char) : Bool :=
  let n := c.toNat
  (9 ≤ n && n ≤ 13) || n == 0x20 || n == 0x85 || n == 0xA0 || n == 0x1680 ||
  (0x2000 ≤ n && n ≤ 0x200A) || n == 0x2028 || n == 0x2029 || n == 0x202F ||
  n == 0x205F || n == 0x3000

def trimWhile (p : Char → Bool) (s : List Char) : List Char :=
  ((s.dropWhile p).reverse.dropWhile p).reverse

def skipBlanks (s : List Char) : List Char := s.dropWhile isBlank

def trim (s : String) : String := String.ofList (trimWhile isBlank s.toList)

/-! ## ASCII case -/

def asciiUpper (s : String) : String := String.ofList (s.toList.map Char.toUpper)

def asciiLower (s : String) : String := String.ofList (s.toList.map Char.toLower)

def sameIgnoringCase (a b : String) : Bool := asciiLower a == asciiLower b

theorem sameIgnoringCase_iff (a b : String) :
    sameIgnoringCase a b = true ↔ asciiLower a = asciiLower b := by
  simp [sameIgnoringCase]

theorem sameIgnoringCase_refl (a : String) : sameIgnoringCase a a = true := by
  simp [sameIgnoringCase]

theorem sameIgnoringCase_comm (a b : String) : sameIgnoringCase a b = sameIgnoringCase b a := by
  rw [Bool.eq_iff_iff, sameIgnoringCase_iff, sameIgnoringCase_iff, eq_comm]

theorem sameIgnoringCase_trans {a b c : String} (h₁ : sameIgnoringCase a b = true)
    (h₂ : sameIgnoringCase b c = true) : sameIgnoringCase a c = true := by
  simp_all [sameIgnoringCase]

/-! ## Searching and splitting -/

def occursIn (needle : List Char) : List Char → Bool
  | [] => needle.isEmpty
  | c :: r => needle.isPrefixOf (c :: r) || occursIn needle r

/-- Whether `needle` occurs in `s`. The empty text occurs everywhere. -/
def contains (s needle : String) : Bool := occursIn needle.toList s.toList

theorem occursIn_iff (needle s : List Char) : occursIn needle s = true ↔ needle <:+: s := by
  induction s with
  | nil => simp [occursIn, List.isEmpty_iff]
  | cons c r ih => simp [occursIn, ih, List.infix_cons_iff]

theorem contains_iff (s needle : String) :
    contains s needle = true ↔ needle.toList <:+: s.toList :=
  occursIn_iff _ _

def splitOn (sep : Char) : List Char → List (List Char)
  | [] => [[]]
  | c :: r =>
    if c = sep then [] :: splitOn sep r
    else
      match splitOn sep r with
      | [] => [[c]]
      | piece :: more => (c :: piece) :: more

/-- The lines of a text: what stands before each newline, and the rest when it is
not empty. A carriage return before a newline belongs to it. -/
def lines (s : List Char) : List (List Char) :=
  let pieces := splitOn '\n' s
  let closed := pieces.dropLast.map fun l =>
    if l.getLast? = some '\r' then l.dropLast else l
  match pieces.getLast? with
  | some (c :: r) => closed ++ [c :: r]
  | _ => closed

/-! ## Keywords in running text -/

/-- Whether a character is a form of an upper-case ASCII letter. Besides the two cases a letter
has the one other character that folds to it: the long `ſ` for `S`, the Kelvin sign for `K`. -/
def isLetterForm (letter c : Char) : Bool :=
  c.toUpper = letter || (letter = 'S' && c = 'ſ') || (letter = 'K' && c = '\u212A')

/-- What follows the keyword, if the text starts with it. The keyword is written in
upper case. -/
def stripWord? : List Char → List Char → Option (List Char)
  | [], s => some s
  | _ :: _, [] => none
  | w :: ws, c :: r => if isLetterForm w c then stripWord? ws r else none

def stripBlanks? : List Char → Option (List Char)
  | [] => none
  | c :: r => if isBlank c then some (skipBlanks r) else none

def hasWord (word : List Char) : List Char → Bool
  | [] => false
  | c :: r =>
    (isBlank c && ((stripWord? word r).bind stripBlanks?).isSome) || hasWord word r

/-! ## Whole numbers -/

/-- The number that ASCII digits write, after those already read. -/
def digitsValue (acc : Nat) : List Char → Option Nat
  | [] => some acc
  | c :: r => if c.isDigit then digitsValue (10 * acc + (c.toNat - '0'.toNat)) r else none

def natural? : List Char → Option Nat
  | [] => none
  | s => digitsValue 0 s

def integer? : List Char → Option Int
  | '-' :: r => (natural? r).map fun n => -(n : Int)
  | '+' :: r => (natural? r).map Int.ofNat
  | s => (natural? s).map Int.ofNat

/-- The number below `bound` written by digits behind an optional plus. -/
def unsignedBelow? (bound : Nat) (s : List Char) : Option Nat :=
  let n := match s with
    | '+' :: r => natural? r
    | s => natural? s
  n.filter (· < bound)

def integerWithin? (low high : Int) (s : List Char) : Option Int :=
  (integer? s).filter fun n => low ≤ n && n ≤ high

end SqlSchema.Text
