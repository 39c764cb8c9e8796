import SqlSchema.CommandLine.Run

/-!
# The program

Gathers arguments, variables and files, runs the request, and prints what it says.
-/

namespace SqlSchema.CommandLine

def variableNames : List String :=
  ["YASHAN_CONFIG", "DB_HOST", "DB_PORT", "DB_DATABASE", "DB_USERNAME", "DB_PASSWORD", "DB_CHARSET",
    "DB_PREFIX"]

def errorTexts : List (Nat × String) :=
  [(2, "No such file or directory"), (13, "Permission denied"), (20, "Not a directory"),
    (21, "Is a directory"), (36, "File name too long"), (40, "Too many levels of symbolic links")]

/-- The system's words for an error, which may come with its code negated. -/
def errorText (code : UInt32) (details : String) : String :=
  let code := code.toInt32.toInt.natAbs
  (errorTexts.lookup code).getD details ++ " (os error " ++ toString code ++ ")"

def reasonOf : IO.Error → String
  | .noFileOrDirectory _ code details
  | .permissionDenied _ code details
  | .inappropriateType _ code details
  | .invalidArgument _ code details => errorText code details
  | .userError _ => "stream did not contain valid UTF-8"
  | e => toString e

def readNamed (path : String) : IO (String × Except String String) := do
  match ← (IO.FS.readFile path).toBaseIO with
  | .ok text => return (path, .ok text)
  | .error e => return (path, .error (reasonOf e))

def perform (args : List String) : IO UInt32 := do
  let given ← variableNames.mapM fun name => do return (name, ← IO.getEnv name)
  let lookup (name : String) : Option String := (given.lookup name).join
  let names := match asked? args lookup with
    | some (.run request) => request.files
    | _ => []
  let files ← names.mapM readNamed
  let file (path : String) : Except String String :=
    (files.lookup path).getD (.error "No such file or directory (os error 2)")
  let ending := run args { lookup, file }
  match ending with
  | .notUnderstood => IO.eprintln ((topGrammar (lookup "YASHAN_CONFIG")).usage programName)
  | .done output => IO.print (wholeText output)
  | .failed output trouble =>
    IO.print (wholeText output)
    IO.eprint trouble.report
  return ending.exitCode

end SqlSchema.CommandLine

def main (args : List String) : IO UInt32 := SqlSchema.CommandLine.perform args
