import ArgHints.Event

/-!
# Inquiries

A search for documentation may ask whether an interpreter is running and what the documentation of
a name is. It is given as the tree of its questions and answers, apart from who answers them. Run
against a responder it yields the names asked for, the events, and an answer or the error of the
first question that failed; nothing is asked after a failure.
-/

namespace ArgHints

inductive Inquiry (α : Type) where
  | done (answer : α)
  | note (event : Event) (rest : Inquiry α)
  /-- Asks whether an interpreter is running. -/
  | probe (rest : Bool → Inquiry α)
  | ask (name : String) (rest : Option String → Inquiry α)

namespace Inquiry

variable {α β ε σ : Type}

def noteAll (events : List Event) (rest : Inquiry α) : Inquiry α :=
  events.foldr note rest

def map (f : α → β) : Inquiry α → Inquiry β
  | done answer => done (f answer)
  | note event rest => note event (rest.map f)
  | probe rest => probe fun active => (rest active).map f
  | ask name rest => ask name fun doc => (rest doc).map f

end Inquiry

structure Reply (ε σ : Type) where
  events : List Event
  outcome : Except ε (Option String)
  state : σ

structure Responder (ε σ : Type) where
  active : σ → Bool
  lookup : String → σ → Reply ε σ

structure Run (ε σ α : Type) where
  asked : List String
  probes : Nat
  events : List Event
  outcome : Except ε α
  state : σ

namespace Inquiry

variable {α β ε σ : Type}

def run (responder : Responder ε σ) : Inquiry α → σ → Run ε σ α
  | done answer, state => ⟨[], 0, [], .ok answer, state⟩
  | note event rest, state =>
    let after := rest.run responder state
    { after with events := event :: after.events }
  | probe rest, state =>
    let after := (rest (responder.active state)).run responder state
    { after with probes := after.probes + 1 }
  | ask name rest, state =>
    let reply := responder.lookup name state
    match reply.outcome with
    | .error error => ⟨[name], 0, reply.events, .error error, reply.state⟩
    | .ok doc =>
      let after := (rest doc).run responder reply.state
      { after with asked := name :: after.asked, events := reply.events ++ after.events }

end Inquiry

end ArgHints
