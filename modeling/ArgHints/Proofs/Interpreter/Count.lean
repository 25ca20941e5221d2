import ArgHints.Proofs.Interpreter.Failure
import ArgHints.Proofs.Text.Blank

namespace ArgHints

variable {ε σ : Type}

def Reply.doc? (reply : Reply ε σ) : Option String :=
  reply.outcome.toOption.join

theorem Reply.isSome_doc?_iff (reply : Reply ε σ) :
    reply.doc?.isSome = true ↔ ∃ doc, reply.outcome = .ok (some doc) := by
  rw [doc?]
  cases reply.outcome with
  | error failure => simp [Except.toOption]
  | ok doc => cases doc <;> simp [Except.toOption]

namespace Interpreter

namespace Outcome

def prints : Outcome → Bool
  | exited code output _ => code == 0 && !output.toList.all Text.isBlank
  | _ => false

def isSilent : Outcome → Bool
  | exited code output _ => code == 0 && output.toList.all Text.isBlank
  | _ => false

theorem exactly_one (outcome : Outcome) :
    (if outcome.prints then 1 else 0) + (if outcome.isFailure then 1 else 0) +
      ((if outcome.isSilent then 1 else 0) + if !outcome.isReadable then 1 else 0) = 1 := by
  cases outcome with
  | timedOut => rfl
  | notStarted _ => rfl
  | unreadable _ => rfl
  | exited code output report =>
      by_cases well : code = 0
      · cases blank : output.toList.all Text.isBlank <;>
          simp [prints, isFailure, isSilent, isReadable, well, blank]
      · simp [prints, isFailure, isSilent, isReadable, well]

theorem prints_iff (outcome : Outcome) :
    outcome.prints = true ↔ ∃ output report, outcome = .exited 0 output report ∧
      ¬ Text.AllBlank output.toList := by
  cases outcome with
  | timedOut => simp [prints]
  | notStarted _ => simp [prints]
  | unreadable _ => simp [prints]
  | exited code output report =>
      simp [prints, Text.AllBlank]

end Outcome

theorem Outcome.read_exited (config : Config) (executable name output report : String) :
    ((Outcome.exited 0 output report).read config executable name).2 =
      .ok (if Text.AllBlank output.toList then none
        else some (String.ofList (argumentList (Text.trim output.toList)))) := by
  rw [read, if_neg (by decide)]
  simp only [List.isEmpty_iff, Text.trim_eq_nil_iff]

theorem World.documentation_eq_some_iff (world : World) (name : String) :
    (∃ doc, world.documentation name = .ok (some doc)) ↔ (world.outcome name).prints = true := by
  rw [documentation]
  cases world.outcome name with
  | timedOut => simp [Outcome.read, Outcome.prints]
  | notStarted _ => simp [Outcome.read, Outcome.prints]
  | unreadable _ => simp [Outcome.read, Outcome.prints]
  | exited code output report =>
      by_cases well : code = 0
      · subst well
        rw [Outcome.read_exited, Outcome.prints_iff]
        by_cases blank : Text.AllBlank output.toList
        · simp [blank]
        · simp [blank]
      · simp [Outcome.read, Outcome.prints, well]

theorem World.isOk_documentation (world : World) (name : String) :
    (world.documentation name).isOk = (world.outcome name).isReadable := by
  rw [documentation]
  cases world.outcome name with
  | timedOut => rfl
  | notStarted _ => rfl
  | unreadable _ => rfl
  | exited code output report =>
      rw [Outcome.read]
      split
      · rfl
      · rfl

namespace Session

variable (config : Config)

theorem found_lookup (session : Session) (here : Lookup) :
    (session.lookup config here.world here.name).state.found =
      session.found + if here.outcome.prints then 1 else 0 := by
  have prints : (∃ doc, here.world.documentation here.name = .ok (some doc)) ↔
      here.outcome.prints = true := World.documentation_eq_some_iff here.world here.name
  have told : ((here.world.outcome here.name).read config (executable config here.world)
      here.name).2 = here.world.documentation here.name := Outcome.answer_read ..
  rw [lookup]
  dsimp only
  split
  case h_1 doc found =>
    rw [if_pos rfl, if_pos (prints.mp ⟨doc, told.symm.trans found⟩)]
  case h_2 other =>
    rw [if_neg Bool.false_ne_true, if_neg]
    intro printed
    obtain ⟨doc, found⟩ := prints.mpr printed
    exact other doc (told.trans found)

theorem queries_afterAll (session : Session) (lookups : List Lookup) :
    (session.afterAll config lookups).queries = session.queries + lookups.length := by
  rw [← List.countP_true]
  exact count_afterAll config (fun _ _ => rfl) session lookups

theorem found_afterAll (session : Session) (lookups : List Lookup) :
    (session.afterAll config lookups).found =
      session.found + lookups.countP fun here => here.outcome.prints :=
  count_afterAll config (found_lookup config) session lookups

theorem countP_lookupAll {replied : Lookup × Reply Unreadable Session → Bool}
    {started : Lookup → Bool}
    (same : ∀ step : Lookup × Reply Unreadable Session,
      step.2.outcome = step.1.world.documentation step.1.name → replied step = started step.1)
    (session : Session) (lookups : List Lookup) :
    (session.lookupAll config lookups).countP replied = lookups.countP started := by
  have each : ∀ step ∈ session.lookupAll config lookups,
      replied step = true ↔ started step.1 = true := by
    intro step member
    rw [same step (outcome_of_mem_lookupAll config member)]
  calc (session.lookupAll config lookups).countP replied
      = (session.lookupAll config lookups).countP (started ∘ Prod.fst) := List.countP_congr each
    _ = lookups.countP started := by rw [← List.countP_map, lookups_lookupAll]

theorem countP_doc? (session : Session) (lookups : List Lookup) :
    (session.lookupAll config lookups).countP (·.2.doc?.isSome) =
      lookups.countP (·.outcome.prints) := by
  apply countP_lookupAll
  intro step told
  rw [Bool.eq_iff_iff, Reply.isSome_doc?_iff, told]
  exact World.documentation_eq_some_iff step.1.world step.1.name

theorem countP_raised (session : Session) (lookups : List Lookup) :
    (session.lookupAll config lookups).countP (!·.2.outcome.isOk) =
      lookups.countP (!·.outcome.isReadable) := by
  apply countP_lookupAll
  intro step told
  rw [told, World.isOk_documentation]
  rfl

end Session

theorem countP_endings (lookups : List Lookup) :
    lookups.countP (·.outcome.prints) + lookups.countP (·.outcome.isFailure) +
      (lookups.countP (·.outcome.isSilent) + lookups.countP (!·.outcome.isReadable)) =
      lookups.length := by
  induction lookups with
  | nil => rfl
  | cons here later ih =>
      have one := here.outcome.exactly_one
      simp only [List.countP_cons, List.length_cons]
      omega

/-- A lookup returns documentation exactly if the interpreter ended well and printed more than
blanks. The queries count the lookups, and of those the ones that returned documentation and the
ones that failed are counted, so what is left are those that printed nothing and those that raised
an error. -/
theorem counts_add_up (config : Config) (lookups : List Lookup) :
    let replied := ({} : Session).lookupAll config lookups
    let after := ({} : Session).afterAll config lookups
    replied.map Prod.fst = lookups ∧
      (∀ step ∈ replied, (∃ doc, step.2.outcome = .ok (some doc)) ↔
        ∃ output report, step.1.outcome = .exited 0 output report ∧
          ¬ Text.AllBlank output.toList) ∧
      after.queries = lookups.length ∧
      after.found = replied.countP (·.2.doc?.isSome) ∧
      after.failed = lookups.countP (·.outcome.isFailure) ∧
      after.found + after.failed ≤ after.queries ∧
      after.queries - (after.found + after.failed) =
        lookups.countP (·.outcome.isSilent) + replied.countP (!·.2.outcome.isOk) := by
  intro replied after
  have queries : after.queries = 0 + lookups.length := Session.queries_afterAll config {} lookups
  have found : after.found = 0 + lookups.countP (·.outcome.prints) :=
    Session.found_afterAll config {} lookups
  have failed : after.failed = 0 + lookups.countP (·.outcome.isFailure) :=
    Session.failed_afterAll config {} lookups
  have shown : replied.countP (·.2.doc?.isSome) = lookups.countP (·.outcome.prints) :=
    Session.countP_doc? config {} lookups
  have raised : replied.countP (!·.2.outcome.isOk) = lookups.countP (!·.outcome.isReadable) :=
    Session.countP_raised config {} lookups
  have all := countP_endings lookups
  refine ⟨Session.lookups_lookupAll config {} lookups, ?_, ?_, ?_, ?_, ?_, ?_⟩
  · intro step member
    rw [Session.outcome_of_mem_lookupAll config member, World.documentation_eq_some_iff,
      Outcome.prints_iff, Lookup.outcome]
  · omega
  · omega
  · omega
  · omega
  · omega

theorem counts_add_up_of_each :
    let world (outcome : Outcome) : World := ⟨some, fun _ => outcome⟩
    let lookups := [
      Outcome.exited 0 "function () " "", .exited 0 " \n" "", .exited 1 "function (x)" "",
      .timedOut, .notStarted "", .unreadable ""].map fun outcome => Lookup.mk (world outcome) "f"
    let replied := ({} : Session).lookupAll .default lookups
    let after := ({} : Session).afterAll .default lookups
    (∃ step ∈ replied, step.2.outcome = .ok (some "") ∧ ∃ output report,
      step.1.outcome = .exited 0 output report ∧ ¬ Text.AllBlank output.toList) ∧
      after.queries = 6 ∧ after.found = 1 ∧ after.failed = 3 ∧
      after.queries - (after.found + after.failed) = 1 + 1 := by
  intro world lookups replied after
  obtain ⟨-, shows, queries, found, failed, -, others⟩ := counts_add_up .default lookups
  let step := (Lookup.mk (world (.exited 0 "function () " "")) "f",
    ({} : Session).lookup .default (world (.exited 0 "function () " "")) "f")
  have member : step ∈ replied := List.mem_cons_self
  have empty : step.2.outcome = .ok (some "") := by decide +kernel
  exact ⟨⟨step, member, empty, (shows step member).mp ⟨"", empty⟩⟩, queries,
    found.trans (by decide +kernel), failed.trans (by decide +kernel),
    others.trans (by decide +kernel)⟩

end Interpreter

end ArgHints
