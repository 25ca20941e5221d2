import ArgHints.Bracket.Search
import ArgHints.Config

namespace ArgHints

inductive Level where
  | debug
  | info
  | warning
  deriving DecidableEq, Repr

namespace Level

def name : Level → String
  | debug => "DEBUG"
  | info => "INFO"
  | warning => "WARNING"

def rank : Level → Nat
  | debug => 0
  | info => 1
  | warning => 2

end Level

inductive Origin where
  | brackets
  | search
  | memo
  | activation
  | interpreter
  | service
  deriving DecidableEq, Repr

inductive Event where
  | unbalanced (kind : Bracket.Kind) (offset : Nat)
  | tokenLookup (name : String) (doc : Option String)
  | callLookup (name : String) (doc : Option String)
  | noCall (nearby : String)
  | noInterpreter
  | memoHit (name : String)
  | foreignDialect (dialect : String)
  | providerRegistered
  | noAnswer (timeout : Seconds) (name : String)
  | startFailed (executable reason : String)
  | exited (code : Int) (report : String)
  | resolved (offset : Nat) (hint : Option String)
  | bufferDropped (id : String)
  deriving DecidableEq, Repr

namespace Event

def level : Event → Level
  | noAnswer .. | startFailed .. => .warning
  | resolved .. => .info
  | _ => .debug

def origin : Event → Origin
  | unbalanced .. => .brackets
  | tokenLookup .. | callLookup .. | noCall .. | noInterpreter => .search
  | memoHit .. => .memo
  | foreignDialect .. | providerRegistered => .activation
  | noAnswer .. | startFailed .. | exited .. => .interpreter
  | resolved .. | bufferDropped .. => .service

def message : Event → String
  | unbalanced kind offset =>
    s!"Unbalanced {Text.quoted? (some (String.singleton kind.opener))} at offset {offset}"
  | tokenLookup name doc => s!"Lookup for token {name}: {Text.quoted? doc}"
  | callLookup name doc => s!"Lookup for enclosing call {name}: {Text.quoted? doc}"
  | noCall nearby => s!"No enclosing call near {Text.quoted? (some nearby)}"
  | noInterpreter => "No active interpreter, skipping lookup"
  | memoHit name => s!"Cache hit for {name}"
  | foreignDialect dialect => s!"Dialect {dialect} not supported, leaving buffer alone"
  | providerRegistered => "Registered documentation provider"
  | noAnswer timeout name => s!"R did not answer within {timeout.text}s for {name}"
  | startFailed executable reason => s!"Unable to run {executable}: {reason}"
  | exited code report => s!"Rscript exited with {code}: {report}"
  | resolved offset hint => s!"Resolved hint at offset {offset}: {Text.quoted? hint}"
  | bufferDropped id => s!"Dropped documentation state for {id}"

end Event

def Bracket.Ascent.events : Bracket.Ascent → List Event
  | unbalanced offset kind => [.unbalanced kind offset]
  | _ => []

end ArgHints
