import ArgHints.Interpreter
import ArgHints.Proofs.Resolver.Consultation
import ArgHints.Proofs.Service.Handling

namespace ArgHints

variable {α ε σ : Type}

theorem Inquiry.outcome_run_eq_error_iff {answer : String → Except ε (Option String)}
    {responder : Responder ε σ}
    (answers : ∀ name state, (responder.lookup name state).outcome = answer name)
    (inquiry : Inquiry α) (state : σ) (failure : ε) :
    (inquiry.run responder state).outcome = .error failure ↔
      ∃ name ∈ (inquiry.run responder state).asked, answer name = .error failure := by
  induction inquiry generalizing state with
  | done answer => simp [run]
  | note event rest ih => exact ih state
  | probe rest ih => exact ih _ state
  | ask name rest ih =>
      simp only [run, answers]
      cases told : answer name with
      | error met => simp [told]
      | ok doc => simp [told, ih]

namespace Interpreter

namespace Outcome

def fails : Outcome → Bool
  | exited code .. => code != 0
  | _ => true

def isReadable : Outcome → Bool
  | unreadable _ => false
  | _ => true

theorem isFailure_eq (outcome : Outcome) :
    outcome.isFailure = (outcome.fails && outcome.isReadable) := by
  cases outcome <;> simp [isFailure, fails, isReadable]

end Outcome

theorem World.documentation_eq_error_iff (world : World) (name : String) (error : Unreadable) :
    world.documentation name = .error error ↔ world.outcome name = .unreadable error.reason := by
  obtain ⟨reason⟩ := error
  rw [documentation]
  cases world.outcome name with
  | timedOut => simp [Outcome.read]
  | notStarted _ => simp [Outcome.read]
  | unreadable _ => simp [Outcome.read]
  | exited code output report =>
      rw [Outcome.read]
      split <;> simp

theorem World.documentation_of_isFailure {world : World} {name : String}
    (failed : (world.outcome name).isFailure = true) : world.documentation name = .ok none := by
  rw [documentation]
  cases outcome : world.outcome name with
  | timedOut => rfl
  | notStarted _ => rfl
  | unreadable _ =>
      rw [outcome] at failed
      cases failed
  | exited code output report =>
      rw [outcome] at failed
      have other : code ≠ 0 := by simpa [Outcome.isFailure] using failed
      rw [Outcome.read, if_pos other]

namespace Session

variable (config : Config)

theorem lookups_lookupAll (session : Session) (lookups : List Lookup) :
    (session.lookupAll config lookups).map Prod.fst = lookups := by
  induction lookups generalizing session with
  | nil => rfl
  | cons here later ih => exact congrArg (here :: ·) (ih _)

theorem outcome_of_mem_lookupAll {session : Session} {lookups : List Lookup}
    {step : Lookup × Reply Unreadable Session} (member : step ∈ session.lookupAll config lookups) :
    step.2.outcome = step.1.world.documentation step.1.name := by
  induction lookups generalizing session with
  | nil => cases member
  | cons here later ih =>
      rcases List.mem_cons.mp member with rfl | below
      · exact outcome_lookup config here.world here.name session
      · exact ih below

theorem count_afterAll {count : Session → Nat} {counted : Lookup → Bool}
    (grows : ∀ (session : Session) (here : Lookup),
      count (session.lookup config here.world here.name).state =
        count session + if counted here then 1 else 0)
    (session : Session) (lookups : List Lookup) :
    count (session.afterAll config lookups) = count session + lookups.countP counted := by
  induction lookups generalizing session with
  | nil => rfl
  | cons here later ih =>
      rw [afterAll, List.foldl_cons, ← afterAll, ih, grows, List.countP_cons]
      omega

theorem failed_afterAll (session : Session) (lookups : List Lookup) :
    (session.afterAll config lookups).failed =
      session.failed + lookups.countP fun here => here.outcome.isFailure :=
  count_afterAll config (fun _ _ => rfl) session lookups

end Session

end Interpreter

open Interpreter (Lookup Session Unreadable World)

theorem Desk.outcome_consult_eq_error_iff (config : Config) (world : World) (desk : Desk Session)
    (consultation : Consultation Session) (error : Unreadable) :
    (desk.consult (Session.responder config world) consultation).1.outcome = .error error ↔
      ∃ name ∈ (desk.consult (Session.responder config world) consultation).1.asked,
        world.outcome name = .unreadable error.reason := by
  simp only [consult_eq, Run.outcome_map_eq_error, ← World.documentation_eq_error_iff]
  exact Inquiry.outcome_run_eq_error_iff (Session.outcome_lookup config world) _ _ error

namespace Service

variable (world : World) (service : Service)

theorem answer_hint_eq_error_iff (sought : HintRequest) (error : Unreadable) :
    (service.hint world sought).answer = .error error ↔
      ∃ command ∈ (service.hint world sought).commands,
        world.outcome command.name = .unreadable error.reason := by
  cases sound : sought.snapshot with
  | error refusal => simp [hint_of_error world service sound]
  | ok snapshot =>
      have ends := Inquiry.outcome_run_eq_error_iff (Session.outcome_lookup sought.config world)
        (sought.config.provide snapshot (service.useBuffer sought.bufferId).1 none) {} error
      rw [← HintRequest.search] at ends
      rw [answer_hint world service sound, commands_hint world service sound,
        HintRequest.commands_search]
      simp only [List.mem_map, exists_exists_and_eq_and, ← World.documentation_eq_error_iff, ← ends]
      cases (sought.search world snapshot (service.useBuffer sought.bufferId).1).outcome <;>
        simp [Except.map]

theorem answer_handle_eq_error_iff (request : Request) (error : Unreadable) :
    (service.handle world request).answer = .error error ↔
      ∃ command ∈ (service.handle world request).commands,
        world.outcome command.name = .unreadable error.reason := by
  obtain ⟨sought, -, same⟩ | ⟨id, -, -, same⟩ | ⟨answer, same⟩ := handle_cases request
  · rw [same]
    exact answer_hint_eq_error_iff world service sought error
  · rw [same, answer_forget, commands_forget]
    simp
  · rw [same]
    simp

end Service

namespace Interpreter

/-- A lookup, a consultation and a request end in an error exactly if the output of a start that
they made could not be read. Any other start that fails is reported as nothing found and counted. -/
theorem failures_contained_iff_readable (config : Config) :
    (∀ (session : Session) (lookups : List Lookup),
      (session.lookupAll config lookups).map Prod.fst = lookups ∧
        (∀ step ∈ session.lookupAll config lookups,
          (∀ error, step.2.outcome = .error error ↔
            step.1.outcome = .unreadable error.reason) ∧
          (step.1.outcome.fails = true → step.1.outcome.isReadable = true →
            step.2.outcome = .ok none)) ∧
        (session.afterAll config lookups).failed = session.failed +
          lookups.countP fun here => here.outcome.fails && here.outcome.isReadable) ∧
      (∀ (world : World) (desk : Desk Session) (consultation : Consultation Session)
          (error : Unreadable),
        let run := (desk.consult (Session.responder config world) consultation).1
        run.outcome = .error error ↔
          ∃ name ∈ run.asked, world.outcome name = .unreadable error.reason) ∧
      ∀ (world : World) (service : Service) (request : Service.Request) (error : Unreadable),
        let handled := service.handle world request
        handled.answer = .error error ↔
          ∃ command ∈ handled.commands, world.outcome command.name = .unreadable error.reason := by
  refine ⟨fun session lookups => ⟨session.lookups_lookupAll config lookups, ?_, ?_⟩,
    Desk.outcome_consult_eq_error_iff config, Service.answer_handle_eq_error_iff⟩
  · intro step member
    rw [Session.outcome_of_mem_lookupAll config member]
    refine ⟨step.1.world.documentation_eq_error_iff step.1.name, fun fails readable => ?_⟩
    refine World.documentation_of_isFailure ?_
    rw [Outcome.isFailure_eq]
    exact Bool.and_eq_true_iff.mpr ⟨fails, readable⟩
  · simp only [Session.failed_afterAll, Outcome.isFailure_eq]

theorem failures_contained_of_timeout :
    let world : World := ⟨some, fun name =>
      if name = "f" then .timedOut else if name = "g" then .unreadable "" else .exited 1 "" ""⟩
    let lookups : List Lookup := [⟨world, "f"⟩, ⟨world, "g"⟩, ⟨world, "h"⟩]
    let first := (⟨world, "f"⟩, ({} : Session).lookup .default world "f")
    first ∈ ({} : Session).lookupAll .default lookups ∧ first.1.outcome.fails = true ∧
      first.1.outcome.isReadable = true ∧ first.2.outcome = .ok none ∧
      (({} : Session).afterAll .default lookups).failed = 2 := by
  intro world lookups first
  have member : first ∈ ({} : Session).lookupAll .default lookups := List.mem_cons_self
  obtain ⟨runs, -⟩ := failures_contained_iff_readable .default
  obtain ⟨-, each, counted⟩ := runs {} lookups
  exact ⟨member, rfl, rfl, (each first member).2 rfl rfl, counted.trans (by decide)⟩

/-- Output that cannot be read is neither reported as nothing found nor counted. -/
theorem unreadable_output_escapes :
    let world : World :=
      ⟨fun _ => some "/usr/bin/Rscript", fun _ => .unreadable "invalid start byte"⟩
    let error : Unreadable := ⟨"invalid start byte"⟩
    let reply := ({} : Session).lookup .default world "f"
    let consultation : Consultation Session := ⟨id, none, .ofCursor "f".toList 1, none⟩
    let shown := ((Desk.opened .default {}).consult (Session.responder .default world)
      consultation).1
    let handled := Service.handle world {} (.forHint "a" "f" 1)
    (world.outcome "f").fails = true ∧ reply.outcome = .error error ∧ reply.state.failed = 0 ∧
      shown.outcome = .error error ∧ handled.answer = .error error := by
  decide +kernel

end Interpreter

end ArgHints
