import ArgHints.Proofs.Bracket.Enclosing
import ArgHints.Proofs.Hint
import ArgHints.Proofs.Memo
import ArgHints.Proofs.Text.Name

namespace ArgHints.Snapshot

variable {snapshot : Snapshot} {name : String}

/-- Whether a name is one that a search for a snapshot may look up: a maximal run of name characters
that touches the cursor or ends at an opening bracket of plain code before it. -/
def Offers (snapshot : Snapshot) (name : String) : Prop :=
  ∃ front back, snapshot.text = front ++ name.toList ++ back ∧
    Text.IsRun front name.toList back ∧ name ≠ "" ∧
    (front.length ≤ snapshot.cursor ∧ snapshot.cursor ≤ front.length + name.toList.length ∨
      front.length + name.toList.length < snapshot.cursor ∧ ∃ kind,
        Bracket.StandsAt snapshot.text ⟨front.length + name.toList.length, .opening kind⟩)

theorem offers_token (named : snapshot.token ≠ "") : snapshot.Offers snapshot.token := by
  obtain ⟨front, back, split, run, reaches⟩ := Text.isRun_nameAt snapshot.text snapshot.cursor_le
  have name : snapshot.token.toList = Text.nameAt snapshot.text snapshot.cursor :=
    String.toList_ofList
  refine ⟨front, back, ?_, ?_, named, .inl ⟨by omega, ?_⟩⟩
  · rw [name, ← split]
  · rwa [name]
  · rw [name, Text.nameAt_eq, List.length_append]
    omega

theorem offers_call (called : snapshot.call? = some name) : snapshot.Offers name := by
  obtain ⟨opener, found, before, named⟩ := opener_of_call? called
  obtain ⟨kind, stands, high, -⟩ := Bracket.openStack_of_enclosing? found
  have within : opener ≤ snapshot.text.length := by
    have := snapshot.cursor_le
    omega
  obtain ⟨front, back, split, run, reaches⟩ := Text.isRun_nameAt snapshot.text within
  -- No name character stands at the bracket, so the name there ends in front of it.
  rw [nameAt_of_enclosing? found, ← before] at split run
  rw [← before] at reaches
  exact ⟨front, back, split, run, named, .inr ⟨by rwa [reaches], kind, by rwa [reaches]⟩⟩

theorem Offers.isNameChar (offers : snapshot.Offers name) :
    ∀ c ∈ name.toList, Text.isNameChar c = true := by
  obtain ⟨_, _, -, run, -⟩ := offers
  exact run.named

end ArgHints.Snapshot

namespace ArgHints

variable {α β ε σ : Type}

namespace Inquiry

variable {allowed : String → Prop} {bound : Nat}

/-- The searches that ask for so many names at most, all of them allowed, whatever is answered. -/
inductive AtMost (allowed : String → Prop) : Nat → Inquiry α → Prop where
  | done {bound : Nat} (answer : α) : AtMost allowed bound (done answer)
  | note {bound : Nat} (event : Event) {rest : Inquiry α} :
      AtMost allowed bound rest → AtMost allowed bound (note event rest)
  | probe {bound : Nat} {rest : Bool → Inquiry α} :
      (∀ active, AtMost allowed bound (rest active)) → AtMost allowed bound (probe rest)
  | ask {bound : Nat} {name : String} {rest : Option String → Inquiry α} :
      allowed name → (∀ doc, AtMost allowed bound (rest doc)) →
        AtMost allowed (bound + 1) (ask name rest)

namespace AtMost

theorem noteAll (events : List Event) {rest : Inquiry α} (atMost : rest.AtMost allowed bound) :
    (noteAll events rest).AtMost allowed bound := by
  induction events with
  | nil => exact atMost
  | cons event events ih => exact .note event ih

theorem map {inquiry : Inquiry α} (atMost : inquiry.AtMost allowed bound) (f : α → β) :
    (inquiry.map f).AtMost allowed bound := by
  induction atMost with
  | done answer => exact .done _
  | note event _ ih => exact .note event ih
  | probe _ ih => exact .probe ih
  | ask isAllowed _ ih => exact .ask isAllowed ih

theorem asked_run {inquiry : Inquiry α} (atMost : inquiry.AtMost allowed bound)
    (responder : Responder ε σ) (state : σ) :
    (inquiry.run responder state).asked.length ≤ bound ∧
      ∀ name ∈ (inquiry.run responder state).asked, allowed name := by
  induction atMost generalizing state with
  | done answer => simp [run]
  | note event _ ih => exact ih state
  | probe _ ih => exact ih (responder.active state) state
  | @ask bound name rest isAllowed _ ih =>
      rw [run]
      cases (responder.lookup name state).outcome with
      | error failure => simp [isAllowed]
      | ok doc =>
          obtain ⟨few, all⟩ := ih doc (responder.lookup name state).state
          exact ⟨Nat.succ_le_succ few, List.forall_mem_cons.mpr ⟨isAllowed, all⟩⟩

end AtMost

end Inquiry

def Strategy.most : Strategy → Nat
  | fallback => 2
  | cached => 1

theorem Memo.atMost_fetch {allowed : String → Prop} {name : String} (memo : Memo)
    (isAllowed : allowed name) : (memo.fetch name).AtMost allowed 1 := by
  rw [fetch]
  split
  case isTrue => exact .note _ (.done _)
  case isFalse => exact .ask isAllowed fun _ => .done _

namespace Hint

variable (emptyIsMissing active : Bool) (snapshot : Snapshot) (memo : Memo)

theorem atMost_ofCall (bound : Nat) :
    (ofCall emptyIsMissing snapshot).AtMost snapshot.Offers (bound + 1) := by
  refine .noteAll _ ?_
  split
  case h_1 => exact .note _ (.done _)
  case h_2 name called =>
    exact .ask (Snapshot.offers_call called) fun _ => .note _ (.done _)

theorem atMost_find : (find emptyIsMissing snapshot).AtMost snapshot.Offers 2 := by
  by_cases named : snapshot.token = ""
  · rw [find_of_unnamed named]
    exact atMost_ofCall emptyIsMissing snapshot 1
  · rw [find_of_named named]
    refine .ask (Snapshot.offers_token named) fun doc => .note _ ?_
    split
    case h_1 => exact .done _
    case h_2 => exact atMost_ofCall emptyIsMissing snapshot 0

theorem atMost_resolveCached :
    (resolveCached active snapshot memo).AtMost snapshot.Offers 1 := by
  by_cases idle : active = false ∨ snapshot.token = ""
  · rw [resolveCached_of_idle idle]
    exact .done _
  · obtain ⟨isActive, named⟩ := not_or.mp idle
    rw [resolveCached, if_pos (by simp [isActive, named])]
    exact memo.atMost_fetch (Snapshot.offers_token named)

end Hint

namespace Config

variable (config : Config) (snapshot : Snapshot) (memo : Memo)

theorem atMost_hint : (config.hint snapshot memo).AtMost snapshot.Offers config.strategy.most := by
  rw [hint]
  cases config.strategy with
  | cached => exact (Hint.atMost_resolveCached true snapshot memo).map _
  | fallback => exact (Hint.atMost_find config.emptyIsMissing snapshot).map _

theorem atMost_hintWhen (active : Bool) :
    (config.hintWhen snapshot memo active).AtMost snapshot.Offers config.strategy.most := by
  rw [hintWhen]
  split
  case isTrue => exact config.atMost_hint snapshot memo
  case isFalse => exact .note _ (.done _)

theorem atMost_provide (active : Option Bool) :
    (config.provide snapshot memo active).AtMost snapshot.Offers config.strategy.most := by
  cases active with
  | some active => exact config.atMost_hintWhen snapshot memo active
  | none => exact .probe (config.atMost_hintWhen snapshot memo)

theorem asked_provide_of_inactive {active : Option Bool} {responder : Responder ε σ} {state : σ}
    (inactive : active.getD (responder.active state) = false) :
    ((config.provide snapshot memo active).run responder state).asked = [] := by
  cases active with
  | some active =>
      rw [provide, hintWhen, if_neg (by simpa using inactive)]
      rfl
  | none =>
      rw [provide, Inquiry.run, hintWhen, if_neg (by simpa using inactive)]
      rfl

end Config

end ArgHints
