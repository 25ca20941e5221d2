import ArgHints.Resolver

namespace ArgHints

variable {ε σ : Type}

structure Consultation (σ : Type) where
  meanwhile : σ → σ
  caller : Option Nat
  snapshot : Snapshot
  active : Option Bool

structure Desk (σ : Type) where
  resolver : Resolver
  memos : Nat → Memo
  world : σ

namespace Desk

def opened (config : Config) (world : σ) : Desk σ :=
  ⟨⟨config, .empty⟩, fun _ => .empty, world⟩

def setMemo (desk : Desk σ) (number : Nat) (memo : Memo) : Desk σ :=
  { desk with memos := fun other => if other = number then memo else desk.memos other }

def memoFor (desk : Desk σ) : Option Nat → Memo
  | none => desk.resolver.memo
  | some number => desk.memos number

def keep (desk : Desk σ) : Option Nat → Memo → Desk σ
  | none, memo => { desk with resolver := { desk.resolver with memo } }
  | some number, memo => desk.setMemo number memo

def isActive (responder : Responder ε σ) (desk : Desk σ) (consultation : Consultation σ) : Bool :=
  consultation.active.getD (responder.active (consultation.meanwhile desk.world))

def consult (responder : Responder ε σ) (desk : Desk σ) (consultation : Consultation σ) :
    Run ε σ (Option String) × Desk σ :=
  let { caller, snapshot, active, .. } := consultation
  let run := (desk.resolver.provideFor snapshot (caller.map desk.memos) active).run responder
    (consultation.meanwhile desk.world)
  let desk := { desk with world := run.state }
  match run.outcome with
  | .error error => ({ run with outcome := .error error }, desk)
  | .ok (hint, memo, resolver) =>
    ({ run with outcome := .ok hint },
      match caller with
      | none => { desk with resolver }
      | some number => { desk.setMemo number memo with resolver })

def consultAll (responder : Responder ε σ) (desk : Desk σ) :
    List (Consultation σ) → List (Run ε σ (Option String))
  | [] => []
  | consultation :: later =>
    let (run, desk) := desk.consult responder consultation
    run :: desk.consultAll responder later

def after (responder : Responder ε σ) (desk : Desk σ) (consultations : List (Consultation σ)) :
    Desk σ :=
  consultations.foldl (fun desk consultation => (desk.consult responder consultation).2) desk

end Desk

end ArgHints
