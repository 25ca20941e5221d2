/-!
# Arguments and options

How arguments are read is no rule of the program but of the library its command line is built on;
this module stands for that library, without its help and the wording of its complaints. Options may
stand anywhere among the arguments. A long option takes its value behind an equals sign
or from the next argument, a short one directly behind its letter or from the next argument, and
short options without a value may share one dash. Two dashes end the options.
-/

namespace ArgHints.CommandLine

structure OptionSpec (ο : Type) where
  option : ο
  long : String
  short : Option Char := none
  takesValue : Bool := true

/-- Options and arguments in order of appearance. An option without a value has an empty one. -/
structure Parsed (ο : Type) where
  options : List (ο × String) := []
  arguments : List String := []

inductive ParseError where
  | noSuchOption
  | badOptionUsage
  deriving DecidableEq, Repr

variable {ο : Type}

def isOption : List Char → Bool
  | '-' :: _ :: _ => true
  | _ => false

def splitValue (arg : List Char) : List Char × Option (List Char) :=
  let name := arg.takeWhile (· != '=')
  match arg.drop name.length with
  | _ :: value => (name, some value)
  | [] => (name, none)

/-- Options read from one argument, and the option whose value has to be the next one. -/
abbrev Reading (ο : Type) := List (ο × String) × Option ο

def readShort (specs : List (OptionSpec ο)) : List Char → Except ParseError (Reading ο)
  | [] => .ok ([], none)
  | c :: rest =>
    match specs.find? fun spec => spec.short == some c with
    | none => .error .noSuchOption
    | some spec =>
      if spec.takesValue then
        if rest.isEmpty then .ok ([], some spec.option)
        else .ok ([(spec.option, String.ofList rest)], none)
      else (readShort specs rest).map fun (options, due) => ((spec.option, "") :: options, due)

def readOptions (specs : List (OptionSpec ο)) (arg : List Char) : Except ParseError (Reading ο) :=
  let (name, value) := splitValue arg
  match specs.find? fun spec => spec.long.toList == name with
  | some spec =>
    if spec.takesValue then
      match value with
      | some value => .ok ([(spec.option, String.ofList value)], none)
      | none => .ok ([], some spec.option)
    else if value.isSome then .error .badOptionUsage
    else .ok ([(spec.option, "")], none)
  | none =>
    if "--".toList.isPrefixOf arg then .error .noSuchOption else readShort specs (arg.drop 1)

def Parsed.give (parsed : Parsed ο) (options : List (ο × String)) : Parsed ο :=
  { parsed with options := parsed.options ++ options }

def Parsed.add (parsed : Parsed ο) (arguments : List String) : Parsed ο :=
  { parsed with arguments := parsed.arguments ++ arguments }

def parseOnto (specs : List (OptionSpec ο)) (parsed : Parsed ο) :
    List String → Except ParseError (Parsed ο)
  | [] => .ok parsed
  | arg :: rest =>
    if arg == "--" then .ok (parsed.add rest)
    else if isOption arg.toList then
      match readOptions specs arg.toList with
      | .error error => .error error
      | .ok (options, none) => parseOnto specs (parsed.give options) rest
      | .ok (options, some due) =>
        match rest with
        | [] => .error .badOptionUsage
        | value :: rest => parseOnto specs (parsed.give (options ++ [(due, value)])) rest
    else parseOnto specs (parsed.add [arg]) rest

def parse (specs : List (OptionSpec ο)) (args : List String) : Except ParseError (Parsed ο) :=
  parseOnto specs {} args

def Parsed.value? [BEq ο] (parsed : Parsed ο) (option : ο) : Option String :=
  (parsed.options.reverse.find? fun given => given.1 == option).map (·.2)

def Parsed.given [BEq ο] (parsed : Parsed ο) : List ο :=
  (parsed.options.map (·.1)).eraseDups

end ArgHints.CommandLine
