import ArgHints.CommandLine

namespace ArgHints.Program

open CommandLine

def readFile? (path : String) : IO (Option File) :=
  try
    let real ← IO.FS.realPath path
    if ← real.isDir then return some .directory
    else return some (.bytes (← IO.FS.readBinFile path).toList)
  catch _ => return none

def surroundings (args : List String) : IO Surroundings := do
  let directory := (← IO.currentDir).toString
  let files ← args.mapM fun arg => do
    let path := fullPath directory arg
    return (path, ← readFile? path)
  return {
    directory
    file := fun path => (files.find? fun file => file.1 == path).bind (·.2)
    world := ⟨fun _ => none, fun _ => .notStarted "no interpreter"⟩
    canServe := false }

def describe : Misuse → String
  | .noSuchOption => "There is no such option."
  | .badOptionUsage => "An option has no value, or one that it does not take."
  | .missingParameter => "The source file is missing."
  | .badParameter => "A value or the source file cannot be used."
  | .usage => "One of the commands token, call, doc and web is expected, with its arguments."

def explain : Failure → UInt32 × String
  | .misuse misuse => (2, describe misuse)
  | .refused message => (2, "Invalid value: " ++ message)
  | .unreadable reason => (1, reason)
  | .markup => (1, "A tag closes what is not open.")

end ArgHints.Program

def main (args : List String) : IO UInt32 := do
  let report := ArgHints.CommandLine.run (← ArgHints.Program.surroundings args) args
  (← IO.getStdout).putStr report.output
  let errors ← IO.getStderr
  errors.putStr report.log
  match report.outcome with
  | .ok () => return 0
  | .error failure =>
    let (code, message) := ArgHints.Program.explain failure
    errors.putStrLn message
    return code
