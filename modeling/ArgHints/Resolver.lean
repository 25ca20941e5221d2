import ArgHints.Hint

namespace ArgHints

namespace Config

def hint (config : Config) (snapshot : Snapshot) (memo : Memo) : Inquiry (Option String × Memo) :=
  match config.strategy with
  | .cached =>
    (Hint.resolveCached true snapshot memo).map fun (doc, memo) =>
      ((Hint.ofDoc? config.emptyIsMissing snapshot.token doc).map (Hint.text config.showName), memo)
  | .fallback =>
    (Hint.find config.emptyIsMissing snapshot).map fun hint =>
      (hint.map (Hint.text config.showName), memo)

def hintWhen (config : Config) (snapshot : Snapshot) (memo : Memo) (active : Bool) :
    Inquiry (Option String × Memo) :=
  if active then config.hint snapshot memo else .note .noInterpreter (.done (none, memo))

def provide (config : Config) (snapshot : Snapshot) (memo : Memo) (active : Option Bool) :
    Inquiry (Option String × Memo) :=
  match active with
  | some active => config.hintWhen snapshot memo active
  | none => .probe (config.hintWhen snapshot memo)

end Config

structure Resolver where
  config : Config
  memo : Memo := .empty

namespace Resolver

def provide (resolver : Resolver) (snapshot : Snapshot) (active : Option Bool) :
    Inquiry (Option String × Resolver) :=
  (resolver.config.provide snapshot resolver.memo active).map fun (hint, memo) =>
    (hint, { resolver with memo })

/-- The text to show, the memo that was used and the resolver. The memo of the caller is used if
there is one, and the resolver's own if there is none. -/
def provideFor (resolver : Resolver) (snapshot : Snapshot) (caller : Option Memo)
    (active : Option Bool) : Inquiry (Option String × Memo × Resolver) :=
  match caller with
  | some memo =>
    (resolver.config.provide snapshot memo active).map fun (hint, memo) => (hint, memo, resolver)
  | none =>
    (resolver.provide snapshot active).map fun (hint, resolver) => (hint, resolver.memo, resolver)

end Resolver

end ArgHints
