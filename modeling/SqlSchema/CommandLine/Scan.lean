import SqlSchema.CommandLine.Grammar

/-!
# Scanning arguments

Arguments sorted into switches, options with their values, operands and a command.
Long options take a value after `=` or as the next argument; short ones may be
clustered, and one that takes a value takes the rest of its cluster. Nothing may be
given twice. After `--` everything is an operand. The first inquiry ends the scan, and
so does the first argument that is not accepted.
-/

namespace SqlSchema.CommandLine

structure Found where
  given : List (String × String) := []
  operands : List String := []
  command : Option (String × List String) := none

namespace Found

def has (f : Found) (long : String) : Bool := (f.given.lookup long).isSome

def value? (f : Found) (long : String) : Option String := f.given.lookup long

end Found

inductive Step
  | next (found : Found)
  | awaiting (flag : Flag)
  | inquiry (long : String)

inductive Scanned
  | found (f : Found)
  | inquiry (long : String)

/-- Notes a switch, or an option and its value, unless it was given before or the value is
not accepted. -/
def note? (found : Found) (f : Flag) (value : String) : Option Step :=
  if f.inquiry then some (.inquiry f.long)
  else if found.has f.long || !f.accepts value then none
  else some (.next { found with given := found.given ++ [(f.long, value)] })

def cluster? (g : Grammar) (found : Found) : List Char → Option Step
  | [] => some (.next found)
  | c :: r =>
    match g.flags.find? fun f => f.short = some c with
    | none => none
    | some f =>
      if f.isSwitch then
        match note? found f "" with
        | some (.next found) => cluster? g found r
        | step => step
      else
        match r with
        | [] => some (.awaiting f)
        | '=' :: v => note? found f (String.ofList v)
        | v => note? found f (String.ofList v)

/-- Takes a long flag, given by what stands after its two hyphens. -/
def long? (g : Grammar) (found : Found) (s : List Char) : Option Step :=
  let (name, rest) := s.span (· ≠ '=')
  match g.flags.find? fun f => f.long.toList = name with
  | none => none
  | some f =>
    match f.isSwitch, rest with
    | true, [] => note? found f ""
    | true, _ :: _ => none
    | false, [] => some (.awaiting f)
    | false, _ :: v => note? found f (String.ofList v)

def operand? (g : Grammar) (found : Found) (s : String) : Option Found :=
  match g.operands[found.operands.length]? with
  | none => none
  | some o => if o.accepts s then some { found with operands := found.operands ++ [s] } else none

def looksLikeFlag (s : String) : Bool := s.toList.head? = some '-' && s ≠ "-"

/-- Takes one argument that is neither a command nor `--`. -/
def step? (g : Grammar) (found : Found) (s : String) : Option Step :=
  match s.toList with
  | '-' :: '-' :: r => long? g found r
  | '-' :: c :: r => cluster? g found (c :: r)
  | _ => (operand? g found s).map .next

def scan? (g : Grammar) (found : Found) : List String → Option Scanned
  | [] => some (.found found)
  | s :: rest =>
    if g.commands.any (·.1 = s) then some (.found { found with command := some (s, rest) })
    else if s = "--" then (rest.foldlM (operand? g) found).map .found
    else
      match step? g found s with
      | none => none
      | some (.inquiry long) => some (.inquiry long)
      | some (.next found) => scan? g found rest
      | some (.awaiting f) =>
        match rest with
        | [] => none
        | v :: rest =>
          if looksLikeFlag v then none
          else
            match note? found f v with
            | none => none
            | some (.next found) => scan? g found rest
            | some (.inquiry long) => some (.inquiry long)
            | some (.awaiting _) => none

end SqlSchema.CommandLine
