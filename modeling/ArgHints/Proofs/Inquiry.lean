import ArgHints.Interpreter

namespace ArgHints

variable {α β ε σ : Type}

def Run.map (f : α → β) (run : Run ε σ α) : Run ε σ β :=
  ⟨run.asked, run.probes, run.events, run.outcome.map f, run.state⟩

theorem Run.outcome_map_eq_ok {run : Run ε σ α} {f : α → β} {result : β} :
    (run.map f).outcome = .ok result ↔ ∃ found, run.outcome = .ok found ∧ f found = result := by
  rw [map]
  cases run.outcome <;> simp [Except.map]

theorem Run.outcome_map_eq_error {run : Run ε σ α} {f : α → β} {failure : ε} :
    (run.map f).outcome = .error failure ↔ run.outcome = .error failure := by
  rw [map]
  cases run.outcome <;> simp [Except.map]

namespace Inquiry

theorem map_map {γ : Type} (f : α → β) (g : β → γ) (inquiry : Inquiry α) :
    (inquiry.map f).map g = inquiry.map (g ∘ f) := by
  induction inquiry with
  | done answer => rfl
  | note event rest ih => simp only [map, ih]
  | probe rest ih => simp only [map, ih]
  | ask name rest ih => simp only [map, ih]

theorem run_map (responder : Responder ε σ) (f : α → β) (inquiry : Inquiry α) (state : σ) :
    (inquiry.map f).run responder state = (inquiry.run responder state).map f := by
  induction inquiry generalizing state with
  | done answer => rfl
  | note event rest ih => simp only [map, run, ih, Run.map]
  | probe rest ih => simp only [map, run, ih, Run.map]
  | ask name rest ih =>
      simp only [map, run]
      cases (responder.lookup name state).outcome with
      | error failure => rfl
      | ok doc => simp only [ih, Run.map]

theorem run_noteAll (responder : Responder ε σ) (events : List Event) (rest : Inquiry α)
    (state : σ) :
    (noteAll events rest).run responder state =
      { rest.run responder state with events := events ++ (rest.run responder state).events } := by
  induction events with
  | nil => rfl
  | cons event events ih =>
      show (note event (noteAll events rest)).run responder state = _
      rw [run, ih]
      rfl

end Inquiry

/-- Two runs that ask the same and end the same. What they record may differ. -/
structure Run.SameExchange (run run' : Run ε σ α) : Prop where
  asked : run.asked = run'.asked
  probes : run.probes = run'.probes
  outcome : run.outcome = run'.outcome
  state : run.state = run'.state

namespace Inquiry

def quiet : Inquiry α → Inquiry α
  | done answer => done answer
  | note _ rest => rest.quiet
  | probe rest => probe fun active => (rest active).quiet
  | ask name rest => ask name fun doc => (rest doc).quiet

theorem quiet_noteAll (events : List Event) (rest : Inquiry α) :
    (noteAll events rest).quiet = rest.quiet := by
  induction events with
  | nil => rfl
  | cons event events ih => exact ih

theorem quiet_map (f : α → β) (inquiry : Inquiry α) :
    (inquiry.map f).quiet = inquiry.quiet.map f := by
  induction inquiry with
  | done answer => rfl
  | note event rest ih => exact ih
  | probe rest ih => simp only [map, quiet, ih]
  | ask name rest ih => simp only [map, quiet, ih]

theorem sameExchange_quiet (responder : Responder ε σ) (inquiry : Inquiry α) (state : σ) :
    (inquiry.quiet.run responder state).SameExchange (inquiry.run responder state) := by
  induction inquiry generalizing state with
  | done answer => exact ⟨rfl, rfl, rfl, rfl⟩
  | note event rest ih =>
      have same := ih state
      exact ⟨same.asked, same.probes, same.outcome, same.state⟩
  | probe rest ih =>
      have same := ih (responder.active state) state
      exact ⟨same.asked, congrArg (· + 1) same.probes, same.outcome, same.state⟩
  | ask name rest ih =>
      simp only [quiet, run]
      cases (responder.lookup name state).outcome with
      | error failure => exact ⟨rfl, rfl, rfl, rfl⟩
      | ok doc =>
          have same := ih doc (responder.lookup name state).state
          exact ⟨congrArg (name :: ·) same.asked, same.probes, same.outcome, same.state⟩

theorem run_congr {σ' : Type} {responder : Responder ε σ} {responder' : Responder ε σ'}
    (active : ∀ state state', responder.active state = responder'.active state')
    (answers : ∀ name state state',
      (responder.lookup name state).outcome = (responder'.lookup name state').outcome)
    (inquiry : Inquiry α) (state : σ) (state' : σ') :
    (inquiry.run responder state).outcome = (inquiry.run responder' state').outcome ∧
      (inquiry.run responder state).asked = (inquiry.run responder' state').asked := by
  induction inquiry generalizing state state' with
  | done answer => exact ⟨rfl, rfl⟩
  | note event rest ih => exact ih state state'
  | probe rest ih =>
      simp only [run, active state state']
      exact ih _ state state'
  | ask name rest ih =>
      simp only [run, answers name state state']
      cases (responder'.lookup name state').outcome with
      | error failure => exact ⟨rfl, rfl⟩
      | ok doc =>
          obtain ⟨outcome, asked⟩ := ih doc (responder.lookup name state).state
            (responder'.lookup name state').state
          exact ⟨outcome, congrArg (name :: ·) asked⟩

theorem sameExchange_of_quiet {inquiry inquiry' : Inquiry α}
    (same : inquiry.quiet = inquiry'.quiet) (responder : Responder ε σ) (state : σ) :
    (inquiry.run responder state).SameExchange (inquiry'.run responder state) := by
  have first := sameExchange_quiet responder inquiry state
  have second := sameExchange_quiet responder inquiry' state
  rw [same] at first
  exact ⟨first.asked.symm.trans second.asked, first.probes.symm.trans second.probes,
    first.outcome.symm.trans second.outcome, first.state.symm.trans second.state⟩

end Inquiry

def Responder.revise (revision : Option String → Option String) (responder : Responder ε σ) :
    Responder ε σ where
  active := responder.active
  lookup name state :=
    let reply := responder.lookup name state
    { reply with outcome := reply.outcome.map revision }

@[simp] theorem Responder.active_revise (revision : Option String → Option String)
    (responder : Responder ε σ) : (responder.revise revision).active = responder.active := rfl

@[simp] theorem Responder.lookup_revise (revision : Option String → Option String)
    (responder : Responder ε σ) (name : String) (state : σ) :
    (responder.revise revision).lookup name state =
      { responder.lookup name state with
        outcome := (responder.lookup name state).outcome.map revision } := rfl

namespace Inquiry

def revise (revision : Option String → Option String) : Inquiry α → Inquiry α
  | done answer => done answer
  | note event rest => note event (rest.revise revision)
  | probe rest => probe fun active => (rest active).revise revision
  | ask name rest => ask name fun doc => (rest (revision doc)).revise revision

variable (revision : Option String → Option String)

theorem run_revise (responder : Responder ε σ) (inquiry : Inquiry α) (state : σ) :
    inquiry.run (responder.revise revision) state =
      (inquiry.revise revision).run responder state := by
  induction inquiry generalizing state with
  | done answer => rfl
  | note event rest ih => simp only [revise, run, ih]
  | probe rest ih => simp only [revise, run, ih, Responder.active_revise]
  | ask name rest ih =>
      simp only [revise, run, ih, Responder.lookup_revise]
      cases (responder.lookup name state).outcome with
      | error failure => rfl
      | ok doc => rfl

theorem revise_map (f : α → β) (inquiry : Inquiry α) :
    (inquiry.map f).revise revision = (inquiry.revise revision).map f := by
  induction inquiry with
  | done answer => rfl
  | note event rest ih => simp only [map, revise, ih]
  | probe rest ih => simp only [map, revise, ih]
  | ask name rest ih => simp only [map, revise, ih]

theorem quiet_revise (inquiry : Inquiry α) :
    (inquiry.revise revision).quiet = inquiry.quiet.revise revision := by
  induction inquiry with
  | done answer => rfl
  | note event rest ih => exact ih
  | probe rest ih => simp only [revise, quiet, ih]
  | ask name rest ih => simp only [revise, quiet, ih]

end Inquiry

namespace Interpreter

def World.documentation (world : World) (name : String) : Except Unreadable (Option String) :=
  ((world.outcome name).read .default (executable .default world) name).2

theorem Outcome.answer_read (outcome : Outcome) (config config' : Config)
    (executable executable' name name' : String) :
    (outcome.read config executable name).2 = (outcome.read config' executable' name').2 := by
  cases outcome <;> rfl

namespace Session

variable (config : Config) (world : World)

theorem outcome_lookup (name : String) (session : Session) :
    ((responder config world).lookup name session).outcome = world.documentation name :=
  Outcome.answer_read ..

theorem commands_lookup (name : String) (session : Session) :
    ((responder config world).lookup name session).state.commands =
      session.commands ++ [⟨executable config world, name, config.timeout⟩] := rfl

theorem commands_run (inquiry : Inquiry α) (session : Session) :
    (inquiry.run (responder config world) session).state.commands =
      session.commands ++ (inquiry.run (responder config world) session).asked.map fun name =>
        ⟨executable config world, name, config.timeout⟩ := by
  induction inquiry generalizing session with
  | done answer => simp [Inquiry.run]
  | note event rest ih => exact ih session
  | probe rest ih => exact ih _ session
  | ask name rest ih =>
      simp only [Inquiry.run]
      cases ((responder config world).lookup name session).outcome with
      | error failure => exact commands_lookup config world name session
      | ok doc =>
          rw [ih, commands_lookup, List.append_assoc]
          rfl

theorem commands_run_fresh (inquiry : Inquiry α) :
    (inquiry.run (responder config world) {}).state.commands =
      (inquiry.run (responder config world) {}).asked.map fun name =>
        ⟨executable config world, name, config.timeout⟩ := by
  rw [commands_run, List.nil_append]

end Session

end Interpreter

end ArgHints
