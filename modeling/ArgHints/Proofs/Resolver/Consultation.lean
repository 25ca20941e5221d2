import ArgHints.Proofs.Memo
import ArgHints.Resolver.Consultation

namespace ArgHints

variable {ε σ : Type}

namespace Desk

theorem setMemo_self (desk : Desk σ) (number : Nat) :
    desk.setMemo number (desk.memos number) = desk := by
  have same : (fun other => if other = number then desk.memos number else desk.memos other) =
      desk.memos := by
    funext other
    split
    case isTrue same => rw [same]
    case isFalse => rfl
  rw [setMemo, same]

variable (responder : Responder ε σ) (desk : Desk σ) (consultation : Consultation σ)

def search : Run ε σ (Option String × Memo) :=
  (desk.resolver.config.provide consultation.snapshot (desk.memoFor consultation.caller)
    consultation.active).run responder (consultation.meanwhile desk.world)

theorem consult_eq : desk.consult responder consultation =
    ((desk.search responder consultation).map Prod.fst,
      { desk.keep consultation.caller
          ((desk.search responder consultation).memoLeft (desk.memoFor consultation.caller)) with
        world := (desk.search responder consultation).state }) := by
  obtain ⟨meanwhile, caller, snapshot, active⟩ := consultation
  cases caller with
  | none =>
      simp only [consult, search, memoFor, Resolver.provideFor, Resolver.provide, Option.map,
        Inquiry.run_map, Run.map, Run.memoLeft]
      cases ((desk.resolver.config.provide snapshot desk.resolver.memo active).run responder
        (meanwhile desk.world)).outcome with
      | error failure => rfl
      | ok found => rfl
  | some number =>
      simp only [consult, search, memoFor, Resolver.provideFor, Option.map, Inquiry.run_map,
        Run.map, Run.memoLeft]
      cases ((desk.resolver.config.provide snapshot (desk.memos number) active).run responder
        (meanwhile desk.world)).outcome with
      | error failure => simp only [Except.map, keep, setMemo_self]
      | ok found => rfl

theorem consultAll_cons (later : List (Consultation σ)) :
    desk.consultAll responder (consultation :: later) =
      (desk.consult responder consultation).1 ::
        (desk.consult responder consultation).2.consultAll responder later := rfl

theorem config_consult :
    (desk.consult responder consultation).2.resolver.config = desk.resolver.config := by
  rw [consult_eq]
  cases consultation.caller <;> rfl

theorem config_after (consultations : List (Consultation σ)) :
    (desk.after responder consultations).resolver.config = desk.resolver.config := by
  induction consultations generalizing desk with
  | nil => rfl
  | cons consultation later ih =>
      rw [after, List.foldl_cons]
      exact (ih _).trans (config_consult responder desk consultation)

theorem memoFor_keep (caller other : Option Nat) (memo : Memo) :
    (desk.keep caller memo).memoFor other =
      if other = caller then memo else desk.memoFor other := by
  cases caller <;> cases other <;> simp [keep, memoFor, setMemo]

theorem memoFor_consult (other : Option Nat) :
    (desk.consult responder consultation).2.memoFor other =
      if other = consultation.caller then
        (desk.search responder consultation).memoLeft (desk.memoFor consultation.caller)
      else desk.memoFor other := by
  rw [consult_eq]
  exact memoFor_keep desk consultation.caller other _

def Agrees (answer : String → Except ε (Option String)) (desk : Desk σ) : Prop :=
  ∀ caller, (desk.memoFor caller).Agrees answer

theorem agrees_opened (answer : String → Except ε (Option String)) (config : Config) (world : σ) :
    (opened config world).Agrees answer := by
  intro caller
  cases caller with
  | none => exact Memo.agrees_empty
  | some number => exact Memo.agrees_empty

namespace Agrees

variable {answer : String → Except ε (Option String)} {responder : Responder ε σ} {desk : Desk σ}
  (answers : ∀ name world, (responder.lookup name world).outcome = answer name)

include answers

theorem consult (agrees : desk.Agrees answer) (consultation : Consultation σ) :
    (desk.consult responder consultation).2.Agrees answer := by
  intro other
  rw [memoFor_consult]
  split
  case isTrue =>
    have memo := agrees consultation.caller
    exact (Config.provide_matches answers memo _ _ _ _).agrees_memoLeft memo
  case isFalse => exact agrees other

theorem after (agrees : desk.Agrees answer) (consultations : List (Consultation σ)) :
    (desk.after responder consultations).Agrees answer := by
  induction consultations generalizing desk with
  | nil => exact agrees
  | cons consultation later ih => exact ih (agrees.consult answers consultation)

end Agrees

end Desk

end ArgHints
