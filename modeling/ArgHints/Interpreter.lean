import ArgHints.Inquiry
import ArgHints.Text

namespace ArgHints

namespace Interpreter

/-! ## The script and what it prints -/

def script : String :=
  "\n" ++
  "nm <- commandArgs(trailingOnly = TRUE)[1]\n" ++
  "parts <- strsplit(nm, \":::?\")[[1]]\n" ++
  "f <- tryCatch(\n" ++
  "  if (length(parts) == 2) get(parts[2], envir = asNamespace(parts[1]), mode = \"function\")\n" ++
  "  else get(nm, mode = \"function\"),\n" ++
  "  error = function(e) NULL\n" ++
  ")\n" ++
  "if (!is.null(f)) \x7b\n" ++
  "  a <- args(f)\n" ++
  "  if (is.null(a)) \x7b\n" ++
  "    cat(\"function ()\")\n" ++
  "  \x7d else \x7b\n" ++
  "    d <- deparse(a)\n" ++
  "    cat(trimws(d[-length(d)]), sep = \" \")\n" ++
  "  \x7d\n" ++
  "\x7d\n"

def functionWord : List Char := "function".toList

def unwrap (text : List Char) : List Char :=
  if text.head? == some '(' && text.getLast? == some ')' then text.tail.dropLast else text

def argumentList (header : List Char) : List Char :=
  let text := Text.trim header
  let text :=
    if functionWord.isPrefixOf text then Text.trim (text.drop functionWord.length) else text
  Text.collapse (unwrap text)

/-! ## Starts -/

inductive Outcome where
  | exited (code : Int) (output report : String)
  | timedOut
  | notStarted (reason : String)
  | unreadable (reason : String)
  deriving DecidableEq, Repr

structure World where
  which : String → Option String
  outcome : String → Outcome

structure Unreadable where
  reason : String
  deriving DecidableEq, Repr

structure Command where
  executable : String
  name : String
  timeout : Seconds
  deriving DecidableEq, Repr

def Command.arguments (command : Command) : List String :=
  [command.executable, "--vanilla", "-e", script, command.name]

structure Session where
  queries : Nat := 0
  found : Nat := 0
  failed : Nat := 0
  commands : List Command := []
  deriving DecidableEq, Repr

/-- The program to start: the one that is found, if its path is not empty, or else the name. -/
def executable (config : Config) (world : World) : String :=
  match world.which config.rscript with
  | some path => if path.isEmpty then config.rscript else path
  | none => config.rscript

def isActive (config : Config) (world : World) : Bool :=
  (world.which config.rscript).isSome

def Outcome.read (config : Config) (executable name : String) :
    Outcome → List Event × Except Unreadable (Option String)
  | .timedOut => ([.noAnswer config.timeout name], .ok none)
  | .notStarted reason => ([.startFailed executable reason], .ok none)
  -- Output that is no text is the one failure that leaves the lookup.
  | .unreadable reason => ([], .error ⟨reason⟩)
  | .exited code output report =>
    if code ≠ 0 then ([.exited code (String.ofList (Text.trim report.toList))], .ok none)
    else
      let header := Text.trim output.toList
      ([], .ok (if header.isEmpty then none else some (String.ofList (argumentList header))))

def Outcome.isFailure : Outcome → Bool
  | .timedOut | .notStarted _ => true
  | .unreadable _ => false
  | .exited code .. => code != 0

namespace Session

def lookup (config : Config) (world : World) (name : String) (session : Session) :
    Reply Unreadable Session :=
  let executable := executable config world
  let outcome := world.outcome name
  let (events, answer) := outcome.read config executable name
  let isFound := match answer with
    | .ok (some _) => true
    | _ => false
  { events
    outcome := answer
    state := {
      queries := session.queries + 1
      found := session.found + if isFound then 1 else 0
      failed := session.failed + if outcome.isFailure then 1 else 0
      commands := session.commands ++ [⟨executable, name, config.timeout⟩] } }

def responder (config : Config) (world : World) : Responder Unreadable Session where
  active _ := isActive config world
  lookup := lookup config world

end Session

/-! ## Lookups one after another -/

structure Lookup where
  world : World
  name : String

def Lookup.outcome (lookup : Lookup) : Outcome :=
  lookup.world.outcome lookup.name

namespace Session

def lookupAll (config : Config) (session : Session) :
    List Lookup → List (Lookup × Reply Unreadable Session)
  | [] => []
  | here :: later =>
    let reply := session.lookup config here.world here.name
    (here, reply) :: reply.state.lookupAll config later

def afterAll (config : Config) (session : Session) (lookups : List Lookup) : Session :=
  lookups.foldl (fun session here => (session.lookup config here.world here.name).state) session

end Session

end Interpreter

end ArgHints
