import ArgHints.Workspace

namespace ArgHints.Workspace

structure Turn (σ : Type) where
  world : σ
  name : String
  action : Action

structure Played (ε σ : Type) where
  turn : Turn σ
  before : Workspace
  step : Step ε σ

variable {ε σ : Type}

def take (resolvers : List (Served ε σ)) (workspace : Workspace) (turn : Turn σ) : Step ε σ :=
  workspace.step resolvers turn.world turn.name turn.action

def play (resolvers : List (Served ε σ)) (workspace : Workspace) :
    List (Turn σ) → List (Played ε σ)
  | [] => []
  | turn :: later =>
    let step := workspace.take resolvers turn
    ⟨turn, workspace, step⟩ :: step.workspace.play resolvers later

def after (resolvers : List (Served ε σ)) (workspace : Workspace) (turns : List (Turn σ)) :
    Workspace :=
  turns.foldl (fun workspace turn => (workspace.take resolvers turn).workspace) workspace

def docState (workspace : Workspace) (name : String) : DocState :=
  ((workspace.buffers name).state.map workspace.states).getD {}

def IsActive (workspace : Workspace) (name : String) : Prop :=
  (workspace.docState name).provider.isSome ∧ (workspace.docState name).modeOn = true

def Turn.IsOwn (turn : Turn σ) : Prop :=
  ∀ source, turn.action = .shareState source → source = turn.name

/-- Whether an action leaves the state of a buffer to activations and providers. -/
def Action.KeepsState : Action → Prop
  | .activate .. | .bind _ | .provide _ | .edit _ => True
  | .clearState | .turnModeOff | .shareState _ => False

def Turn.bound? (resolvers : List (Served ε σ)) (name : String) (turn : Turn σ) : Option Provider :=
  match turn.action with
  | .bind resolver =>
    if turn.name = name ∧ resolver < resolvers.length then some ⟨resolver, name⟩ else none
  | _ => none

def Turn.match? (resolvers : List (Served ε σ)) (workspace : Workspace) (name : String)
    (turn : Turn σ) : Option Nat :=
  match turn.action with
  | .activate resolver dialect =>
    if turn.name = name ∧ resolvers[resolver]?.any fun served =>
        dialect.getD (workspace.buffers name).dialect = served.config.dialect
    then some resolver
    else none
  | _ => none

def Played.match? (resolvers : List (Served ε σ)) (name : String) (played : Played ε σ) :
    Option Nat :=
  played.turn.match? resolvers played.before name

end ArgHints.Workspace
