import SqlSchema.Text.Basic

/-!
# What a command accepts

The flags, operands and further commands of a command, and the help that shows them: what
the command is about, how it is used, and a table each of commands, operands and flags.
Lines are at most a hundred characters long where their words allow it.
-/

namespace SqlSchema.CommandLine

/-- A switch, or an option with a value. A flag that is an inquiry asks about the program,
so that nothing after it matters. -/
structure Flag where
  long : String
  short : Option Char := none
  /-- The name of the value in help; a switch has none. -/
  value : Option String := none
  accepts : String → Bool := fun _ => true
  required : Bool := false
  inquiry : Bool := false
  help : String

structure Operand where
  /-- The operand as help shows it. -/
  label : String
  accepts : String → Bool := fun _ => true
  help : String

structure Grammar where
  about : String
  flags : List Flag
  operands : List Operand := []
  /-- The names of further commands, each with what it is about. -/
  commands : List (String × String) := []

def Flag.isSwitch (f : Flag) : Bool := f.value.isNone

/-! ## Help -/

def lineWidth : Nat := 100

def blanks (n : Nat) : String := String.ofList (List.replicate n ' ')

/-- Lines of words, after a line that has been begun. -/
def fill (width : Nat) (line : String) : List String → List String
  | [] => [line]
  | w :: r =>
    if line.length + 1 + w.length ≤ width then fill width (line ++ " " ++ w) r
    else line :: fill width w r

def wrap (width : Nat) (text : String) : List String :=
  match (Text.splitOn ' ' text.toList).map String.ofList with
  | [] => []
  | w :: r => fill width w r

def table (title : String) (rows : List (String × String)) : String :=
  let longest := (rows.map (·.1.length)).foldl max 0
  let margin := longest + 4
  let row (r : String × String) : String :=
    "  " ++ r.1 ++ blanks (longest - r.1.length + 2) ++
      ("\n" ++ blanks margin).intercalate (wrap (lineWidth - margin) r.2)
  "\n".intercalate ((title ++ ":") :: rows.map row)

namespace Flag

def synopsis (f : Flag) : String :=
  "--" ++ f.long ++ f.value.elim "" fun v => " <" ++ v ++ ">"

def label (f : Flag) : String :=
  (f.short.elim "    " fun c => String.ofList ['-', c, ',', ' ']) ++ f.synopsis

end Flag

namespace Grammar

def usage (g : Grammar) (command : String) : String :=
  " ".intercalate (["Usage:", command] ++
    (if g.flags.any fun f => !f.required && !f.inquiry then ["[OPTIONS]"] else []) ++
    (g.flags.filter (·.required)).map Flag.synopsis ++
    g.operands.map (·.label) ++
    (if g.commands.isEmpty then [] else ["<COMMAND>"]))

def help (g : Grammar) (command : String) : String :=
  let tables := [("Commands", g.commands), ("Arguments", g.operands.map fun o => (o.label, o.help)),
    ("Options", g.flags.map fun f => (f.label, f.help))]
  let written := (tables.filter fun t => !t.2.isEmpty).map fun t => table t.1 t.2
  "\n\n".intercalate ([g.about, g.usage command] ++ written) ++ "\n"

end Grammar

end SqlSchema.CommandLine
