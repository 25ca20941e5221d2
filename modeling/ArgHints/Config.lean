import ArgHints.Decimal.Shortest
import ArgHints.Text

namespace ArgHints

inductive Strategy where
  /-- The name at the cursor first, then the function whose argument list encloses it. -/
  | fallback
  /-- The name at the cursor only, with the last answer remembered. -/
  | cached
  deriving DecidableEq, Repr

namespace Strategy

def name : Strategy → String
  | fallback => "fallback"
  | cached => "cached"

def all : List Strategy := [fallback, cached]

def ofName? (name : String) : Option Strategy :=
  all.find? fun strategy => strategy.name == name

def offered : String :=
  ", ".intercalate (all.map Strategy.name)

/-- The strategy that a name selects without a check: any other name means the fallback search. -/
def ofNameOrFallback (name : String) : Strategy :=
  (ofName? name).getD .fallback

end Strategy

/-- A number of seconds, whole or not. The two kinds are written differently. -/
inductive Seconds where
  | whole (count : Int)
  | decimal (count : Decimal.Binary64)
  deriving DecidableEq, Repr

namespace Seconds

def isAtMostZero : Seconds → Bool
  | whole count => count ≤ 0
  | decimal count => count.isAtMostZero

def text : Seconds → String
  | whole count => toString count
  | decimal count => count.text

end Seconds

structure Config where
  dialect : String
  strategy : Strategy
  rscript : String
  timeout : Seconds
  emptyIsMissing : Bool
  showName : Bool
  deriving DecidableEq, Repr

structure Settings where
  dialect : String := "R"
  strategy : String := Strategy.fallback.name
  rscript : String := "Rscript"
  timeout : Seconds := .decimal (.ofDecimal false 2 0)
  emptyIsMissing : Bool := false
  showName : Bool := false

inductive SettingsError where
  | unknownStrategy (name : String)
  | timeout (seconds : Seconds)
  deriving DecidableEq, Repr

def SettingsError.message : SettingsError → String
  | .unknownStrategy name =>
    s!"Unknown strategy {Text.quoted? (some name)}, expected one of {Strategy.offered}"
  | .timeout seconds => s!"Timeout must be positive, got {seconds.text}"

def Settings.check (settings : Settings) : Except SettingsError Config :=
  match Strategy.ofName? settings.strategy with
  | none => .error (.unknownStrategy settings.strategy)
  | some strategy =>
    if settings.timeout.isAtMostZero then .error (.timeout settings.timeout)
    else
      .ok {
        dialect := settings.dialect
        strategy
        rscript := settings.rscript
        timeout := settings.timeout
        emptyIsMissing := settings.emptyIsMissing
        showName := settings.showName }

def Config.default : Config where
  dialect := "R"
  strategy := .fallback
  rscript := "Rscript"
  timeout := .decimal (.ofDecimal false 2 0)
  emptyIsMissing := false
  showName := false

end ArgHints
