import ArgHints.Hint

namespace ArgHints

variable {ε σ : Type}

structure Recall (σ : Type) where
  meanwhile : σ → σ
  active : Bool
  text : List Char
  cursor : Int

namespace Recall

def snapshot (search : Recall σ) : Snapshot :=
  .ofCursor search.text search.cursor

def token (search : Recall σ) : String :=
  search.snapshot.token

end Recall

structure Recalled (ε σ : Type) where
  search : Recall σ
  memo : Memo
  world : σ
  run : Run ε σ (Option String × Memo)

namespace Recalled

def answer (recalled : Recalled ε σ) : Except ε (Option String) :=
  recalled.run.outcome.map Prod.fst

def after (recalled : Recalled ε σ) : Memo :=
  match recalled.run.outcome with
  | .ok found => found.2
  | .error _ => recalled.memo

def answered? (responder : Responder ε σ) (recalled : Recalled ε σ) : Option Memo.Entry :=
  recalled.run.asked.head?.bind fun name =>
    (responder.lookup name recalled.world).outcome.toOption.map (Memo.Entry.mk name)

end Recalled

namespace Memo

def recallOnce (responder : Responder ε σ) (memo : Memo) (world : σ) (search : Recall σ) :
    Recalled ε σ :=
  let now := search.meanwhile world
  ⟨search, memo, now, (Hint.resolveCached search.active search.snapshot memo).run responder now⟩

def recallAll (responder : Responder ε σ) (memo : Memo) (world : σ) :
    List (Recall σ) → List (Recalled ε σ)
  | [] => []
  | search :: later =>
    let recalled := memo.recallOnce responder world search
    recalled :: recalled.after.recallAll responder recalled.run.state later

end Memo

end ArgHints
