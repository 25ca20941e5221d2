import ArgHints.CommandLine.Arguments
import ArgHints.CommandLine.Source
import ArgHints.Console
import ArgHints.Decimal.Numeral
import ArgHints.Interpreter
import ArgHints.Resolver

namespace ArgHints

namespace CommandLine

open Interpreter (Session)

inductive Switch where
  | offset
  | line
  | column
  | strategy
  | rscript
  | timeout
  | showName
  | verbose
  | host
  | port
  deriving DecidableEq, Repr

inductive Verb where
  | token
  | call
  | doc
  | web
  deriving DecidableEq, Repr

def Verb.ofName? : String → Option Verb
  | "token" => some token
  | "call" => some call
  | "doc" => some doc
  | "web" => some web
  | _ => none

def cursorOptions : List (OptionSpec Switch) :=
  [⟨.offset, "--offset", some 'o', true⟩, ⟨.line, "--line", some 'l', true⟩,
   ⟨.column, "--column", some 'c', true⟩]

def Verb.options : Verb → List (OptionSpec Switch)
  | token | call => cursorOptions
  | doc =>
    cursorOptions ++
      [⟨.strategy, "--strategy", none, true⟩, ⟨.rscript, "--rscript", none, true⟩,
       ⟨.timeout, "--timeout", none, true⟩, ⟨.showName, "--show-name", none, false⟩,
       ⟨.verbose, "--verbose", some 'v', false⟩]
  | web => [⟨.host, "--host", none, true⟩, ⟨.port, "--port", none, true⟩]

def Verb.readsSource : Verb → Bool
  | web => false
  | _ => true

def Switch.accepts (value : String) : Switch → Bool
  | offset | line | column | port => (Decimal.readWhole? value.toList).isSome
  | timeout => (Decimal.readDecimal? value.toList).isSome
  | _ => true

inductive Misuse where
  | noSuchOption
  | badOptionUsage
  | missingParameter
  | badParameter
  | usage
  deriving DecidableEq, Repr

def ParseError.misuse : ParseError → Misuse
  | noSuchOption => .noSuchOption
  | badOptionUsage => .badOptionUsage

structure Surroundings where
  directory : String
  file : String → Option File
  world : Interpreter.World
  canServe : Bool
  console : Console := .terminal

structure Invocation where
  verb : Verb
  parsed : Parsed Switch
  path : String := ""
  content : List UInt8 := []

def Invocation.ofArguments (around : Surroundings) (verb : Verb) (args : List String) :
    Except Misuse Invocation := do
  let parsed ← (parse verb.options args).mapError ParseError.misuse
  if parsed.given.any fun switch => !(switch.accepts ((parsed.value? switch).getD "")) then
    throw .badParameter
  if verb.readsSource then
    match parsed.arguments with
    | [] => throw .missingParameter
    | name :: rest =>
      let path := fullPath around.directory name
      match around.file path with
      | some (.bytes content) =>
        -- The source file is looked at first, so what is wrong with it is reported first.
        unless rest.isEmpty do throw .usage
        return { verb, parsed, path, content }
      | _ => throw .badParameter
  else
    unless parsed.arguments.isEmpty do throw .usage
    return { verb, parsed }

/-- The command that the arguments call for. Only two dashes may stand in front of its name. -/
def Invocation.ofCommandLine (around : Surroundings) : List String → Except Misuse Invocation
  | [] => .error .usage
  | "--" :: args => afterDashes args
  | name :: args =>
    if isOption name.toList then .error .noSuchOption else named name args
where
  named (name : String) (args : List String) : Except Misuse Invocation :=
    match Verb.ofName? name with
    | some verb => Invocation.ofArguments around verb args
    | none => .error .usage
  afterDashes : List String → Except Misuse Invocation
    | [] => .error .usage
    | name :: args =>
      -- A name with a dash in front stands for an option even behind the two dashes.
      if isOption name.toList && name != "--" then .error .noSuchOption else named name args

namespace Invocation

variable (invocation : Invocation)

def whole? (switch : Switch) : Option Int :=
  (invocation.parsed.value? switch).bind fun value => Decimal.readWhole? value.toList

def isOn (switch : Switch) : Bool :=
  (invocation.parsed.value? switch).isSome

def aim : Aim where
  offset := invocation.whole? .offset
  line := invocation.whole? .line
  column := invocation.whole? .column

def settings : Settings :=
  let usual : Settings := {}
  { usual with
    strategy := (invocation.parsed.value? .strategy).getD usual.strategy
    rscript := (invocation.parsed.value? .rscript).getD usual.rscript
    timeout := (((invocation.parsed.value? .timeout).bind fun value =>
      Decimal.readDecimal? value.toList).map .decimal).getD usual.timeout
    showName := invocation.isOn .showName }

end Invocation

inductive Failure where
  | misuse (misuse : Misuse)
  | refused (message : String)
  | unreadable (reason : String)
  | markup
  deriving DecidableEq, Repr

structure Address where
  host : String
  port : Int
  deriving DecidableEq, Repr

structure Report where
  outcome : Except Failure Unit := .ok ()
  output : String := ""
  events : List Event := []
  commands : List Interpreter.Command := []
  served : Option Address := none

namespace Report

def failed (failure : Failure) : Report := { outcome := .error failure }

def notice (console : Console) (text : String) : Report :=
  match console.markup? text with
  | some output => { output }
  | none => failed .markup

def log (report : Report) : String :=
  String.join (report.events.map fun event =>
    "[" ++ event.level.name ++ "] " ++ event.message ++ "\n")

end Report

def Invocation.snapshot (invocation : Invocation) : Except Failure Snapshot :=
  match readSource invocation.content with
  | .error error => .error (.refused s!"Cannot read {invocation.path}: {error.message}")
  | .ok text => (invocation.aim.snapshot text).mapError fun error => .refused error.message

def showToken (console : Console) (snapshot : Snapshot) : Report :=
  if snapshot.token.isEmpty then .notice console "[yellow]No name under cursor.[/yellow]"
  else .notice console snapshot.token

def showCall (console : Console) (snapshot : Snapshot) : Report :=
  .notice console (snapshot.call?.getD "[yellow]Cursor is not inside a call.[/yellow]")

def showHint (around : Surroundings) (config : Config) (snapshot : Snapshot) : Report :=
  if Interpreter.isActive config around.world then
    let run :=
      (config.provide snapshot .empty none).run (Session.responder config around.world) {}
    let report : Report :=
      match run.outcome with
      | .error error => .failed (.unreadable error.reason)
      | .ok (none, _) => .notice around.console "[yellow]No documentation found.[/yellow]"
      | .ok (some hint, _) => { output := around.console.plain hint }
    { report with events := run.events, commands := run.state.commands }
  else .notice around.console s!"[yellow]R interpreter not available ({config.rscript}).[/yellow]"

def checkSettings (settings : Settings) : Except Failure Config :=
  settings.check.mapError fun
    | .unknownStrategy _ => .refused s!"Strategy must be one of: {Strategy.offered}"
    | .timeout _ => .refused "Timeout must be positive"

def serve (around : Surroundings) (invocation : Invocation) : Report :=
  if around.canServe then
    let address : Address := {
      host := (invocation.parsed.value? .host).getD "127.0.0.1"
      port := (invocation.whole? .port).getD 8000 }
    let report :=
      Report.notice around.console
        s!"Serving argument hints on http://{address.host}:{address.port}"
    match report.outcome with
    -- The notice comes first: where it cannot be shown, nothing is served.
    | .ok () => { report with served := some address }
    | .error _ => report
  else
    .failed (.refused
      "uvicorn is not installed. Install the web extras with \"python -m pip install '.[web]'\"")

def Invocation.logLevel (invocation : Invocation) : Level :=
  if invocation.isOn .verbose then .debug else .info

def Invocation.run (around : Surroundings) (invocation : Invocation) : Report :=
  match invocation.verb with
  | .web => serve around invocation
  | .token =>
    match invocation.snapshot with
    | .error failure => .failed failure
    | .ok snapshot => showToken around.console snapshot
  | .call =>
    match invocation.snapshot with
    | .error failure => .failed failure
    | .ok snapshot => showCall around.console snapshot
  | .doc =>
    match checkSettings invocation.settings with
    | .error failure => .failed failure
    | .ok config =>
      match invocation.snapshot with
      | .error failure => .failed failure
      | .ok snapshot =>
        let report := showHint around config snapshot
        { report with
          events := report.events.filter fun event =>
            invocation.logLevel.rank ≤ event.level.rank }

def run (around : Surroundings) (args : List String) : Report :=
  match Invocation.ofCommandLine around args with
  | .error misuse => .failed (.misuse misuse)
  | .ok invocation => invocation.run around

end CommandLine

end ArgHints
