import ArgHints.Proofs.CommandLine.Aim
import ArgHints.Proofs.Console
import ArgHints.Proofs.Service.Handling

/-!
# The command line and the service

The command line and the service refuse the same places and otherwise search in the same snapshot.
So they come to the same name and, where both find an interpreter, to the same hint. The service
answers them as they are; the command line prints what the console makes of them, which need not be
the same (`Invocation.agrees_up_to_print`, `Invocation.printed_name_differs`).
-/

namespace ArgHints

open CommandLine (Aim)
open Interpreter (Session Unreadable World)
open Service (Checked Handled HintRequest Place Recent Refusal Request)

/-! ## The same search -/

namespace Config

variable {ε σ : Type} {config config' : Config}

theorem provide_congr (strategy : config.strategy = config'.strategy)
    (emptyIsMissing : config.emptyIsMissing = config'.emptyIsMissing)
    (showName : config.showName = config'.showName) : config.provide = config'.provide := by
  have same : config.hintWhen = config'.hintWhen := by
    funext snapshot memo active
    simp only [hintWhen, hint, strategy, emptyIsMissing, showName]
  funext snapshot memo active
  cases active with
  | some active => rw [provide, provide, same]
  | none => rw [provide, provide, same]

theorem outcome_provide_of_fallback (fallback : config.strategy = .fallback) (snapshot : Snapshot)
    (memo memo' : Memo) (active : Option Bool) (responder : Responder ε σ) (state : σ) :
    ((config.provide snapshot memo active).run responder state).outcome.map Prod.fst =
      ((config.provide snapshot memo' active).run responder state).outcome.map Prod.fst := by
  have same : ∀ active,
      ((config.hintWhen snapshot memo active).run responder state).outcome.map Prod.fst =
        ((config.hintWhen snapshot memo' active).run responder state).outcome.map Prod.fst := by
    intro active
    cases active with
    | false =>
        rw [hintWhen, hintWhen, if_neg Bool.false_ne_true, if_neg Bool.false_ne_true]
        rfl
    | true =>
        rw [hintWhen, hintWhen, if_pos rfl, if_pos rfl, hint, hint, fallback]
        simp only [Inquiry.run_map, Run.map]
        cases ((Hint.find config.emptyIsMissing snapshot).run responder state).outcome with
        | error failure => rfl
        | ok hint => rfl
  cases active with
  | some active =>
      rw [provide, provide]
      exact same active
  | none =>
      rw [provide, provide, Inquiry.run, Inquiry.run]
      exact same (responder.active state)

def found (config : Config) (world : World) (snapshot : Snapshot) :
    Except Unreadable (Option String) :=
  ((config.provide snapshot .empty none).run
    (Session.responder config world) {}).outcome.map Prod.fst

theorem found_congr (strategy : config.strategy = config'.strategy)
    (emptyIsMissing : config.emptyIsMissing = config'.emptyIsMissing)
    (showName : config.showName = config'.showName) {world : World}
    (active : Interpreter.isActive config world = Interpreter.isActive config' world)
    (snapshot : Snapshot) : config.found world snapshot = config'.found world snapshot := by
  have same :
      ((config'.provide snapshot .empty none).run (Session.responder config world) {}).outcome =
      ((config'.provide snapshot .empty none).run (Session.responder config' world) {}).outcome :=
    (Inquiry.run_congr (fun _ _ => active)
      (fun name state state' => (Session.outcome_lookup config world name state).trans
        (Session.outcome_lookup config' world name state').symm) _ _ _).1
  rw [found, found, provide_congr strategy emptyIsMissing showName, same]

theorem found_of_inactive {world : World} (inactive : Interpreter.isActive config world = false)
    (snapshot : Snapshot) : config.found world snapshot = .ok none := by
  rw [found, provide, Inquiry.run]
  simp only [Session.responder, inactive]
  rfl

end Config

/-! ## What the service answers -/

namespace Service

structure Request.Brings (request : Request) (endpoint : Endpoint)
    (members : List (String × Json)) : Prop where
  reaches : request.endpoint? = some endpoint
  object : request.body.members = .sound members

structure Chooses (members : List (String × Json)) (strategy : Strategy) (showName : Bool)
    (bufferId : Option String) : Prop where
  strategy : Checked.field members .strategy (some .fallback) Service.strategy = .sound strategy
  bufferId : Checked.field members .bufferId (some none) (optional text) = .sound bufferId
  showName : Checked.field members .showName (some false) bool = .sound showName

def Handled.IsRejected (handled : Handled) : Prop :=
  handled.status? ∈ [some 400, some 422]

/-- Whether a search has a buffer where it needs one, and finds nothing remembered for it. -/
def HintRequest.IsFresh (request : HintRequest) (service : Service) : Prop :=
  request.strategy = .cached → ∃ id, request.bufferId = some id ∧ id ∉ service.buffers.keys

theorem not_isRejected_of_map {α : Type} {handled : Handled} {found : Except Unreadable α}
    {answer : α → Answer} (answered : handled.answer = found.map answer)
    (status : ∀ value, (answer value).status = 200) : ¬ handled.IsRejected := by
  rw [Handled.IsRejected, Handled.status?, answered]
  cases found with
  | error failure => simp [Except.map]
  | ok value => simp [Except.map, status]

variable {aim : Aim} {text : List Char} {members : List (String × Json)} {snapshot : Snapshot}
  {world : World} {service : Service} {request : Request}

section

variable {α : Type} {body : Body} {read : List (String × Json) → Checked α} {value : α}
  (object : body.members = .sound members) (answer : α → Handled)

include object

theorem withBody_of_value? (found : (read members).value? = some value) :
    service.withBody body read answer = answer value := by
  simp only [withBody, object, Checked.value?_eq_some.mp found]

open Classical in
theorem isRejected_withBody
    (found : (read members).value? = if aim.InBounds then some value else none)
    (refused : aim.InBounds → ∃ refusal : Refusal, refusal.status = 400 ∧
      answer value = { answer := .ok (.refused refusal), service }) :
    (service.withBody body read answer).IsRejected := by
  by_cases bounds : aim.InBounds
  · rw [if_pos bounds] at found
    obtain ⟨refusal, status, refused⟩ := refused bounds
    rw [withBody_of_value? object answer found, refused]
    simp [Handled.IsRejected, Handled.status?, Answer.status, status]
  · rw [if_neg bounds] at found
    obtain ⟨faults, found⟩ := Checked.value?_eq_none.mp found
    simp [withBody, object, found, Handled.IsRejected, Handled.status?, Answer.status]

end

section

variable (brings : request.Brings .token members) (isIn : aim.IsIn text members)

include brings isIn

theorem isRejected_token (refused : aim.InBounds → ∃ refusal : Refusal,
      refusal.status = 400 ∧ (aim.place text).snapshot = .error refusal) :
    (service.handle world request).IsRejected := by
  rw [handle_of_some brings.reaches]
  refine isRejected_withBody brings.object _ (Aim.value?_place isIn) fun bounds => ?_
  obtain ⟨refusal, status, refused⟩ := refused bounds
  exact ⟨refusal, status, by rw [token, refused]⟩

theorem answer_token (bounds : aim.InBounds) (placed : (aim.place text).snapshot = .ok snapshot) :
    (service.handle world request).answer = .ok (.token snapshot.token) := by
  have read := Aim.value?_place isIn
  rw [if_pos bounds] at read
  rw [handle_of_some brings.reaches]
  dsimp only
  rw [withBody_of_value? brings.object _ read, token, placed]

end

section

variable {strategy : Strategy} {showName : Bool} {bufferId : Option String}

open Classical in
theorem value?_hintRequest (isIn : aim.IsIn text members)
    (chooses : Chooses members strategy showName bufferId) :
    (hintRequest members).value? =
      if aim.InBounds then some ⟨aim.place text, strategy, bufferId, showName⟩ else none := by
  simp only [hintRequest, Checked.value?_apply, Aim.value?_place isIn, chooses.strategy,
    chooses.bufferId, chooses.showName]
  split_ifs <;> rfl

theorem snapshot_of_isFresh {sought : HintRequest} (fresh : sought.IsFresh service) :
    sought.snapshot = sought.place.snapshot := by
  refine if_neg ?_
  rintro ⟨cached, unnamed⟩
  obtain ⟨id, names, -⟩ := fresh cached
  rw [names] at unnamed
  cases unnamed

theorem outcome_search {sought : HintRequest} (fresh : sought.IsFresh service) :
    (sought.search world snapshot (service.useBuffer sought.bufferId).1).outcome.map Prod.fst =
      sought.config.found world snapshot := by
  rw [HintRequest.search, Config.found]
  cases strategy : sought.strategy with
  | fallback => exact Config.outcome_provide_of_fallback strategy ..
  | cached =>
      obtain ⟨id, names, absent⟩ := fresh strategy
      have empty : (service.useBuffer sought.bufferId).1 = .empty := by
        rw [names, memo_useBuffer, Option.not_isSome_iff_eq_none.mp
          fun kept => absent ((Recent.isSome_get?_iff _ _).mp kept), Option.getD_none]
      rw [empty]

variable (brings : request.Brings .hint members) (isIn : aim.IsIn text members)
  (chooses : Chooses members strategy showName bufferId)
  (fresh : HintRequest.IsFresh ⟨aim.place text, strategy, bufferId, showName⟩ service)

include brings isIn chooses fresh

theorem isRejected_hint (refused : aim.InBounds → ∃ refusal : Refusal,
      refusal.status = 400 ∧ (aim.place text).snapshot = .error refusal) :
    (service.handle world request).IsRejected := by
  rw [handle_of_some brings.reaches]
  refine isRejected_withBody brings.object _ (value?_hintRequest isIn chooses) fun bounds => ?_
  obtain ⟨refusal, status, refused⟩ := refused bounds
  exact ⟨refusal, status, hint_of_error _ _ ((snapshot_of_isFresh fresh).trans refused)⟩

theorem answer_hint_of_placed (bounds : aim.InBounds)
    (placed : (aim.place text).snapshot = .ok snapshot) :
    (service.handle world request).answer =
      (({ Config.default with strategy, showName } : Config).found world snapshot).map .hint := by
  have read := value?_hintRequest isIn chooses
  rw [if_pos bounds] at read
  rw [handle_of_some brings.reaches]
  dsimp only
  rw [withBody_of_value? brings.object _ read,
    answer_hint world service ((snapshot_of_isFresh fresh).trans placed), outcome_search fresh]
  rfl

end

end Service

/-! ## What is printed -/

namespace CommandLine

def Report.Prints (report : Report) (output : String) : Prop :=
  report.outcome = .ok () ∧ report.output = output

/-- A command has come to the same as a search: the hint is printed, a notice if there is none, and
the search that failed fails the command. -/
def Report.Tells (report : Report) (console : Console) (config : Config) (active : Bool) :
    Except Unreadable (Option String) → Prop
  | .ok (some hint) => report.Prints (console.plain hint)
  | .ok none => ∀ output, report.Prints output ↔
    console.markup? (if active then "[yellow]No documentation found.[/yellow]"
      else s!"[yellow]R interpreter not available ({config.rscript}).[/yellow]") = some output
  | .error error => report.outcome = .error (.unreadable error.reason)

theorem Report.prints_notice_iff (console : Console) (text output : String) :
    (Report.notice console text).Prints output ↔ console.markup? text = some output := by
  rw [notice]
  cases shown : console.markup? text with
  | none => simp [Prints, failed]
  | some output' => simp [Prints]

theorem prints_showToken_iff (console : Console) (snapshot : Snapshot) (output : String) :
    (showToken console snapshot).Prints output ↔
      console.markup? (if snapshot.token = "" then "[yellow]No name under cursor.[/yellow]"
        else snapshot.token) = some output := by
  simp only [showToken, String.isEmpty_iff]
  split <;> exact Report.prints_notice_iff _ _ _

theorem tells_showHint (around : Surroundings) (config : Config) (snapshot : Snapshot) :
    (showHint around config snapshot).Tells around.console config
      (Interpreter.isActive config around.world) (config.found around.world snapshot) := by
  rw [showHint]
  split
  case isFalse inactive =>
    rw [Bool.not_eq_true] at inactive
    rw [Config.found_of_inactive inactive, inactive]
    exact Report.prints_notice_iff _ _
  case isTrue active =>
    rw [active, Config.found]
    dsimp only
    cases ((config.provide snapshot .empty none).run
      (Session.responder config around.world) {}).outcome with
    | error error => rfl
    | ok found =>
        obtain ⟨hint, memo⟩ := found
        cases hint with
        | none => exact Report.prints_notice_iff _ _
        | some hint => exact ⟨rfl, rfl⟩

theorem emptyIsMissing_of_checkSettings {settings : Settings} {config : Config}
    (checked : checkSettings settings = .ok config) :
    config.emptyIsMissing = settings.emptyIsMissing := by
  rw [checkSettings, Settings.check] at checked
  split at checked
  case h_1 => cases checked
  case h_2 =>
    split at checked
    case isTrue => cases checked
    case isFalse => cases checked; rfl

namespace Invocation

def IsRefused (invocation : Invocation) : Prop :=
  ∃ message, invocation.snapshot = .error (.refused message)

variable {around : Surroundings} {invocation : Invocation} {snapshot : Snapshot}

theorem prints_run_iff_of_token (verb : invocation.verb = .token)
    (found : invocation.snapshot = .ok snapshot) (output : String) :
    (invocation.run around).Prints output ↔
      around.console.markup? (if snapshot.token = "" then "[yellow]No name under cursor.[/yellow]"
        else snapshot.token) = some output := by
  simp only [run, verb, found, prints_showToken_iff]

theorem prints_run_of_token (verb : invocation.verb = .token)
    (found : invocation.snapshot = .ok snapshot) (console : around.console = .terminal)
    (named : snapshot.token ≠ "")
    (noEmoji : Console.replaceEmoji snapshot.token.toList = snapshot.token.toList)
    (short : snapshot.token.length ≤ Console.columns) :
    (invocation.run around).Prints (snapshot.token ++ "\n") := by
  obtain ⟨_, _, -, isRun, -⟩ := Text.isRun_nameAt snapshot.text snapshot.cursor_le
  have isName : ∀ c ∈ snapshot.token.toList, Text.isNameChar c = true := by
    rw [Snapshot.token, String.toList_ofList]
    exact isRun.named
  rw [prints_run_iff_of_token verb found, if_neg named, console]
  exact Console.markup?_terminal_of_name isName named noEmoji short

theorem tells_run_of_doc {config : Config} (verb : invocation.verb = .doc)
    (checked : checkSettings invocation.settings = .ok config)
    (found : invocation.snapshot = .ok snapshot) :
    (invocation.run around).Tells around.console config
      (Interpreter.isActive config around.world) (config.found around.world snapshot) := by
  have told := tells_showHint around config snapshot
  simp only [run, verb, checked, found]
  -- The log is filtered, which changes nothing that is printed.
  cases searched : config.found around.world snapshot with
  | error error => rw [searched] at told; exact told
  | ok hint =>
      rw [searched] at told
      cases hint <;> exact told

/-- The command line and the service refuse the same places. Otherwise they have the same snapshot,
with the cursor where it was meant to be, come to the same name in it, and find the same hint where
the interpreter is there for both or for none. What the command line prints is what its console
makes of that name or hint, so it shows the name that the service answers exactly if the console
leaves that name as it is. The terminal does so if there is no emoji code in the name and it fits on
a line. -/
theorem agrees_up_to_print {service : Service} {text : List Char} {named sought : Request}
    {nameMembers hintMembers : List (String × Json)} {strategy : Strategy} {showName : Bool}
    {bufferId : Option String}
    (holds : Text.Utf8.decode invocation.content = .ok text) (unix : '\r' ∉ text)
    (oneWay : invocation.aim.IsOneWay)
    (asksName : named.Brings .token nameMembers) (nameAt : invocation.aim.IsIn text nameMembers)
    (asksHint : sought.Brings .hint hintMembers) (hintAt : invocation.aim.IsIn text hintMembers)
    (chooses : Service.Chooses hintMembers strategy showName bufferId)
    (fresh : strategy = .cached → ∃ id, bufferId = some id ∧ id ∉ service.buffers.keys) :
    (invocation.IsRefused ↔ (service.handle around.world named).IsRejected) ∧
    (invocation.IsRefused ↔ (service.handle around.world sought).IsRejected) ∧
    (¬ invocation.IsRefused → ∃ snapshot,
      invocation.snapshot = .ok snapshot ∧
      (Service.place nameMembers).value?.map Place.snapshot = some (.ok snapshot) ∧
      (Service.hintRequest hintMembers).value?.map HintRequest.snapshot = some (.ok snapshot) ∧
      snapshot.text = text ∧ snapshot.cursor ≤ text.length ∧
      invocation.aim.Means text snapshot.cursor ∧
      (∃ name, (service.handle around.world named).answer = .ok (.token name) ∧
        (invocation.verb = .token →
          (∀ output, (invocation.run around).Prints output ↔
            around.console.markup? (if name = "" then "[yellow]No name under cursor.[/yellow]"
              else name) = some output) ∧
          (around.console = .terminal → name ≠ "" →
            Console.replaceEmoji name.toList = name.toList → name.length ≤ Console.columns →
              (invocation.run around).Prints (name ++ "\n")))) ∧
      ∃ found, (service.handle around.world sought).answer = found.map .hint ∧
        ∀ config, invocation.verb = .doc → checkSettings invocation.settings = .ok config →
          config.strategy = strategy → config.showName = showName →
          Interpreter.isActive config around.world =
            Interpreter.isActive .default around.world →
          (invocation.run around).Tells around.console config
            (Interpreter.isActive config around.world) found) := by
  have fresh' :
      HintRequest.IsFresh ⟨invocation.aim.place text, strategy, bufferId, showName⟩ service :=
    fresh
  have read := readSource_of_notMem holds unix
  obtain ⟨error, failed, refused⟩ | ⟨snapshot, found, bounds, placed, same, means⟩ :=
    invocation.aim.snapshot_cases text oneWay
  · have isRefused : invocation.IsRefused :=
      ⟨error.message, by simp only [Invocation.snapshot, read, failed, Except.mapError]⟩
    exact ⟨iff_of_true isRefused (Service.isRejected_token asksName nameAt refused),
      iff_of_true isRefused (Service.isRejected_hint asksHint hintAt chooses fresh' refused),
      fun sound => absurd isRefused sound⟩
  · have sound : invocation.snapshot = .ok snapshot := by
      simp only [Invocation.snapshot, read, found, Except.mapError]
    have notRefused : ¬ invocation.IsRefused := by
      rintro ⟨message, failed⟩
      rw [sound] at failed
      cases failed
    have name : (service.handle around.world named).answer = .ok (.token snapshot.token) :=
      Service.answer_token asksName nameAt bounds placed
    have hint : (service.handle around.world sought).answer =
        (({ Config.default with strategy, showName } : Config).found around.world snapshot).map
          .hint := Service.answer_hint_of_placed asksHint hintAt chooses fresh' bounds placed
    refine ⟨iff_of_false notRefused ?_, iff_of_false notRefused ?_, fun _ => ⟨snapshot, sound,
      ?_, ?_, same, same ▸ snapshot.cursor_le, means,
      ⟨_, name, fun verb => ⟨prints_run_iff_of_token verb sound, prints_run_of_token verb sound⟩⟩,
      ⟨_, hint, ?_⟩⟩⟩
    · simp [Handled.IsRejected, Handled.status?, name, Service.Answer.status]
    · exact Service.not_isRejected_of_map hint fun _ => rfl
    · rw [Aim.value?_place nameAt, if_pos bounds, Option.map_some, placed]
    · rw [Service.value?_hintRequest hintAt chooses, if_pos bounds, Option.map_some,
        Service.snapshot_of_isFresh fresh', placed]
    · intro config verb checked sameStrategy sameShow active
      have emptyIsMissing := emptyIsMissing_of_checkSettings checked
      have active' : Interpreter.isActive config around.world =
          Interpreter.isActive { Config.default with strategy, showName } around.world := active
      rw [← Config.found_congr sameStrategy emptyIsMissing sameShow active' snapshot]
      exact tells_run_of_doc verb checked sound

theorem agrees_up_to_print_in_call :
    let world : World := ⟨some, fun _ => .exited 0 "function (x, y)" ""⟩
    let around : Surroundings := ⟨"/", fun _ => none, world, false, .terminal⟩
    let invocation : Invocation := {
      verb := .doc
      parsed := { options := [(.line, "1"), (.column, "2"), (.strategy, "cached")] }
      content := "f(x".toUTF8.toList }
    let members : List (String × Json) :=
      [("text", .text "f(x"), ("line", .whole 1), ("column", .whole 2)]
    let chosen : List (String × Json) :=
      members ++ [("strategy", .text "cached"), ("buffer_id", .text "a")]
    let service : Service := {}
    let sought : Request := ⟨"POST", "/doc", .value (.object chosen)⟩
    Text.Utf8.decode invocation.content = .ok "f(x".toList ∧ '\r' ∉ "f(x".toList ∧
      invocation.aim.IsOneWay ∧ sought.Brings .hint chosen ∧
      invocation.aim.IsIn "f(x".toList chosen ∧
      Service.Chooses chosen .cached false (some "a") ∧ "a" ∉ service.buffers.keys ∧
      ¬ invocation.IsRefused ∧
      (service.handle world sought).answer = .ok (.hint (some "x, y")) ∧
      (invocation.run around).Prints "x, y\n" := by
  intro world around invocation members chosen service sought
  have aim : invocation.aim = ⟨none, some 1, some 2⟩ := by decide +kernel
  have holds : Text.Utf8.decode invocation.content = .ok "f(x".toList := by decide +kernel
  have unix : '\r' ∉ "f(x".toList := by decide
  have oneWay : invocation.aim.IsOneWay := .inl (by rw [aim])
  have asksHint : sought.Brings .hint chosen := ⟨by decide +kernel, rfl⟩
  have hintAt : invocation.aim.IsIn "f(x".toList chosen := by rw [aim]; exact ⟨rfl, rfl, rfl, rfl⟩
  have nameAt : invocation.aim.IsIn "f(x".toList members := by rw [aim]; exact ⟨rfl, rfl, rfl, rfl⟩
  have chooses : Service.Chooses chosen .cached false (some "a") := ⟨rfl, rfl, rfl⟩
  have absent : "a" ∉ service.buffers.keys := by decide
  obtain ⟨-, doc, both⟩ := @agrees_up_to_print around invocation service "f(x".toList
    ⟨"POST", "/token", .value (.object members)⟩ sought members chosen .cached false (some "a")
    holds unix oneWay ⟨by decide +kernel, rfl⟩ nameAt asksHint hintAt chooses
    fun _ => ⟨"a", rfl, absent⟩
  have answered : ¬ (service.handle world sought).IsRejected :=
    show _ ∉ _ by decide +kernel
  have sound : ¬ invocation.IsRefused := doc.not.mpr answered
  have hint : (service.handle world sought).answer = .ok (.hint (some "x, y")) := by
    decide +kernel
  obtain ⟨snapshot, -, -, -, -, -, -, -, found, answer, told⟩ := both sound
  have same : found = .ok (some "x, y") := by
    rw [hint] at answer
    cases found with
    | error error => cases answer
    | ok found => cases answer; rfl
  have checked : checkSettings invocation.settings =
      .ok { Config.default with strategy := .cached } := by decide +kernel
  have printed := told _ rfl checked rfl rfl rfl
  rw [same] at printed
  have shown : Console.terminal.plain "x, y" = "x, y\n" := by decide +kernel
  exact ⟨holds, unix, oneWay, asksHint, hintAt, chooses, absent, sound, hint, shown ▸ printed⟩

/-- The console takes a part of the name for an emoji code, so the name that is printed is not the
one that the service answers. -/
theorem printed_name_differs :
    let world : World := ⟨some, fun _ => .exited 0 "" ""⟩
    let around : Surroundings := ⟨"/", fun _ => none, world, false, .terminal⟩
    let invocation : Invocation := {
      verb := .token
      parsed := { options := [(.offset, "2")] }
      content := "a:b:c".toUTF8.toList }
    let members : List (String × Json) := [("text", .text "a:b:c"), ("cursor", .whole 2)]
    let named : Request := ⟨"POST", "/token", .value (.object members)⟩
    Text.Utf8.decode invocation.content = .ok "a:b:c".toList ∧ invocation.aim.IsOneWay ∧
      named.Brings .token members ∧ invocation.aim.IsIn "a:b:c".toList members ∧
      ((({} : Service).handle world named).answer = .ok (.token "a:b:c")) ∧
      (invocation.run around).Prints "a🅱c\n" ∧
      ¬ (invocation.run around).Prints "a:b:c\n" := by
  intro world around invocation members named
  have aim : invocation.aim = ⟨some 2, none, none⟩ := by decide +kernel
  have output : (invocation.run around).output = "a🅱c\n" := by decide +kernel
  refine ⟨by decide +kernel, .inr (by rw [aim]; exact ⟨rfl, rfl⟩), ⟨by decide +kernel, rfl⟩, ?_,
    by decide +kernel, ⟨by decide +kernel, output⟩, ?_⟩
  · rw [aim]
    exact ⟨rfl, rfl, rfl, rfl⟩
  · rintro ⟨-, same⟩
    rw [output] at same
    exact absurd same (by decide)

end Invocation

end CommandLine

end ArgHints
