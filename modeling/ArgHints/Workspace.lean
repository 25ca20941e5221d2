import ArgHints.Resolver

/-!
# Workspaces

A workspace holds the buffers of an editor and their documentation states. A buffer that is
activated gets a state with a provider of hints, bound to the resolver and to the buffer, and its
documentation mode is turned on; a second activation finds this done. States are numbered in the
order in which they are made, so two buffers share a state exactly if they hold the same number.
The memo that each resolver keeps for callers without one belongs to the workspace too.
-/

namespace ArgHints

namespace Workspace

structure Provider where
  resolver : Nat
  buffer : String
  deriving DecidableEq, Repr

structure DocState where
  memo : Memo := .empty
  provider : Option Provider := none
  modeOn : Bool := false
  deriving DecidableEq, Repr

structure Buffer where
  text : List Char := []
  cursor : Int := 0
  dialect : String := "R"
  active : Bool := true
  state : Option Nat := none
  providers : List Provider := []
  modeEnabled : Nat := 0
  deriving DecidableEq, Repr

end Workspace

structure Workspace where
  buffers : String → Workspace.Buffer
  states : Nat → Workspace.DocState
  fresh : Nat
  own : Nat → Memo

namespace Workspace

def ofBuffers (buffers : String → Buffer) : Workspace :=
  ⟨buffers, fun _ => {}, 0, fun _ => .empty⟩

def setBuffer (workspace : Workspace) (name : String) (buffer : Buffer) : Workspace :=
  { workspace with
    buffers := fun other => if other = name then buffer else workspace.buffers other }

def setState (workspace : Workspace) (number : Nat) (state : DocState) : Workspace :=
  { workspace with states := fun other => if other = number then state else workspace.states other }

def setOwn (workspace : Workspace) (resolver : Nat) (memo : Memo) : Workspace :=
  { workspace with own := fun other => if other = resolver then memo else workspace.own other }

def withState (workspace : Workspace) (name : String) : Nat × Workspace :=
  let buffer := workspace.buffers name
  match buffer.state with
  | some number => (number, workspace)
  | none =>
    let number := workspace.fresh
    let workspace := workspace.setBuffer name { buffer with state := some number }
    let workspace := workspace.setState number {}
    (number, { workspace with fresh := number + 1 })

def register (workspace : Workspace) (name : String) (number resolver : Nat) :
    List Event × Workspace :=
  let state := workspace.states number
  let buffer := workspace.buffers name
  if state.provider.isSome then ([], workspace)
  else
    let provider : Provider := ⟨resolver, name⟩
    let workspace := workspace.setState number { state with provider := some provider }
    ([.providerRegistered],
      workspace.setBuffer name { buffer with providers := buffer.providers ++ [provider] })

def enableMode (workspace : Workspace) (name : String) (number : Nat) : Workspace :=
  let state := workspace.states number
  let buffer := workspace.buffers name
  if state.modeOn then workspace
  else
    (workspace.setState number { state with modeOn := true }).setBuffer name
      { buffer with modeEnabled := buffer.modeEnabled + 1 }

/-- Activates a buffer for a resolver that serves the dialect `served`. The answer is whether the
dialect is the right one. Without a dialect given, the buffer's own is taken. -/
def activate (workspace : Workspace) (name : String) (resolver : Nat) (served : String)
    (dialect : Option String) : Bool × List Event × Workspace :=
  let dialect := dialect.getD (workspace.buffers name).dialect
  if dialect ≠ served then (false, [.foreignDialect dialect], workspace)
  else
    let (number, workspace) := workspace.withState name
    let (events, workspace) := workspace.register name number resolver
    (true, events, workspace.enableMode name number)

def bind (workspace : Workspace) (name : String) (resolver : Nat) : Workspace :=
  let buffer := workspace.buffers name
  workspace.setBuffer name { buffer with providers := buffer.providers ++ [⟨resolver, name⟩] }

structure Edit where
  text : Option (List Char) := none
  cursor : Option Int := none
  dialect : Option String := none
  active : Option Bool := none
  deriving DecidableEq, Repr

def edit (workspace : Workspace) (name : String) (edit : Edit) : Workspace :=
  let buffer := workspace.buffers name
  workspace.setBuffer name {
    buffer with
    text := edit.text.getD buffer.text
    cursor := edit.cursor.getD buffer.cursor
    dialect := edit.dialect.getD buffer.dialect
    active := edit.active.getD buffer.active }

def clearState (workspace : Workspace) (name : String) : Workspace :=
  workspace.setBuffer name { workspace.buffers name with state := none }

def turnModeOff (workspace : Workspace) (name : String) : Workspace :=
  match (workspace.buffers name).state with
  | none => workspace
  | some number => workspace.setState number { workspace.states number with modeOn := false }

def shareState (workspace : Workspace) (name source : String) : Workspace :=
  workspace.setBuffer name
    { workspace.buffers name with state := (workspace.buffers source).state }

structure Served (ε σ : Type) where
  config : Config
  responder : Responder ε σ

variable {ε σ : Type}

/-- Asks a provider for the text to show. The buffer's own state is used, which is made if there is
none and stays if a lookup fails. -/
def provide (workspace : Workspace) (served : Served ε σ) (provider : Provider) (world : σ) :
    Run ε σ (Option String) × Workspace :=
  -- The provider's own buffer is asked, whichever buffer lists the provider.
  let (number, workspace) := workspace.withState provider.buffer
  let buffer := workspace.buffers provider.buffer
  let state := workspace.states number
  let resolver : Resolver := ⟨served.config, workspace.own provider.resolver⟩
  let run :=
    (resolver.provideFor (.ofCursor buffer.text buffer.cursor) (some state.memo)
      (some buffer.active)).run served.responder world
  match run.outcome with
  | .ok (hint, memo, resolver) =>
    ({ run with outcome := .ok hint },
      (workspace.setState number { state with memo }).setOwn provider.resolver resolver.memo)
  | .error error => ({ run with outcome := .error error }, workspace)

/-- What can be done to a buffer. Resolvers and providers go by their numbers. -/
inductive Action where
  | activate (resolver : Nat) (dialect : Option String)
  | bind (resolver : Nat)
  | provide (provider : Nat)
  | edit (edit : Edit)
  | clearState
  | turnModeOff
  | shareState (source : String)
  deriving DecidableEq, Repr

inductive Failure (ε : Type) where
  | outOfRange
  | lookup (error : ε)
  deriving DecidableEq, Repr

inductive Answer where
  | nothing
  | activated (active : Bool)
  | hint (text : Option String)
  deriving DecidableEq, Repr

structure Step (ε σ : Type) where
  answer : Except (Failure ε) Answer
  asked : List (Nat × String) := []
  probes : Nat := 0
  events : List Event := []
  workspace : Workspace
  world : σ

def step (resolvers : List (Served ε σ)) (workspace : Workspace) (world : σ) (name : String) :
    Action → Step ε σ
  | .activate resolver dialect =>
    match resolvers[resolver]? with
    | none => { answer := .error .outOfRange, workspace, world }
    | some served =>
      let (active, events, workspace) :=
        workspace.activate name resolver served.config.dialect dialect
      { answer := .ok (.activated active), events, workspace, world }
  | .bind resolver =>
    match resolvers[resolver]? with
    | none => { answer := .error .outOfRange, workspace, world }
    | some _ => { answer := .ok .nothing, workspace := workspace.bind name resolver, world }
  | .provide index =>
    match (workspace.buffers name).providers[index]? with
    | none => { answer := .error .outOfRange, workspace, world }
    | some provider =>
      match resolvers[provider.resolver]? with
      | none => { answer := .error .outOfRange, workspace, world }
      | some served =>
        let (run, workspace) := workspace.provide served provider world
        { answer := match run.outcome with
            | .ok hint => .ok (.hint hint)
            | .error error => .error (.lookup error)
          asked := run.asked.map (provider.resolver, ·)
          probes := run.probes
          events := run.events
          workspace
          world := run.state }
  | .edit edit => { answer := .ok .nothing, workspace := workspace.edit name edit, world }
  | .clearState => { answer := .ok .nothing, workspace := workspace.clearState name, world }
  | .turnModeOff => { answer := .ok .nothing, workspace := workspace.turnModeOff name, world }
  | .shareState source =>
    { answer := .ok .nothing, workspace := workspace.shareState name source, world }

end Workspace

end ArgHints
