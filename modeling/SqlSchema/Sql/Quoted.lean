/-!
# Quoted text

A text between two quote characters, with each quote inside written twice: the form
of identifiers and of string literals. Reading is the inverse of writing, whatever
follows, as long as that does not start with another quote.
-/

namespace SqlSchema.Quoted

def double (q : Char) : List Char → List Char
  | [] => []
  | c :: r => if c = q then q :: q :: double q r else c :: double q r

def enclose (q : Char) (s : List Char) : List Char := q :: (double q s ++ [q])

/-- Reads up to the first quote that stands alone: what was written, and the rest. -/
def readBody (q : Char) : List Char → Option (List Char × List Char)
  | [] => none
  | [c] => if c = q then some ([], []) else none
  | c :: d :: r =>
    if c = q then
      if d = q then (readBody q r).map fun (s, rest) => (q :: s, rest) else some ([], d :: r)
    else (readBody q (d :: r)).map fun (s, rest) => (c :: s, rest)

def read (q : Char) : List Char → Option (List Char × List Char)
  | [] => none
  | c :: r => if c = q then readBody q r else none

theorem double_eq_self {q : Char} {s : List Char} (h : q ∉ s) : double q s = s := by
  induction s with
  | nil => rfl
  | cons c s ih =>
    rw [List.mem_cons, not_or] at h
    rw [double, if_neg (Ne.symm h.1), ih h.2]

theorem mem_double {q c : Char} {s : List Char} : c ∈ double q s ↔ c ∈ s := by
  induction s with
  | nil => rfl
  | cons d s ih =>
    by_cases hd : d = q
    · subst hd; simp [double, ih]
    · simp [double, hd, ih]

theorem mem_enclose {q c : Char} {s : List Char} (h : c ≠ q) : c ∈ enclose q s ↔ c ∈ s := by
  simp [enclose, mem_double, h]

theorem readBody_close {q : Char} {rest : List Char} (h : rest.head? ≠ some q) :
    readBody q (q :: rest) = some ([], rest) := by
  cases rest with
  | nil => simp [readBody]
  | cons d r => simp_all [readBody]

theorem readBody_double {q : Char} {rest : List Char} (h : rest.head? ≠ some q) :
    ∀ s : List Char, readBody q (double q s ++ q :: rest) = some (s, rest)
  | [] => readBody_close h
  | c :: s => by
    have ih := readBody_double h s
    by_cases hc : c = q
    · simp [double, hc, readBody, ih]
    · cases hs : double q s ++ q :: rest with
      | nil => simp at hs
      | cons d r => rw [hs] at ih; simp [double, hc, readBody, hs, ih]

/-- Reading gives back what was written and the text after it. -/
theorem read_enclose {q : Char} {rest : List Char} (h : rest.head? ≠ some q) (s : List Char) :
    read q (enclose q s ++ rest) = some (s, rest) := by
  simp [read, enclose, readBody_double h]

def quote (q : Char) (s : String) : String := String.ofList (enclose q s.toList)

@[simp] theorem toList_quote (q : Char) (s : String) :
    (quote q s).toList = enclose q s.toList := by
  simp [quote]

def literal (s : String) : String := quote '\'' s

end SqlSchema.Quoted
