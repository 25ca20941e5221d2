import ArgHints.CommandLine
import ArgHints.Proofs.Resolver.Bound
import ArgHints.Proofs.Service.Footprint

namespace ArgHints

open Interpreter (Command Session World)

/-- Whether a search by the strategy may start the interpreter so: not too often, and with names of
the text as last arguments. -/
structure Strategy.Permits (strategy : Strategy) (snapshot : Snapshot) (commands : List Command) :
    Prop where
  few : commands.length ≤ strategy.most
  last : ∀ command ∈ commands, ∃ name, command.arguments.getLast? = some name ∧
    snapshot.Offers name ∧ ∀ c ∈ name.toList, Text.isBlank c = false ∧ c ∉ Text.marks

theorem Snapshot.Offers.plain {snapshot : Snapshot} {name : String}
    (offers : snapshot.Offers name) :
    ∀ c ∈ name.toList, Text.isBlank c = false ∧ c ∉ Text.marks := by
  intro c member
  have named := offers.isNameChar c member
  constructor
  · by_contra blank
    simp [Text.isNameChar_of_isBlank (by simpa using blank)] at named
  · intro mark
    simp [Text.isNameChar_of_mem_marks mark] at named

namespace Config

variable (config : Config) (world : World) (snapshot : Snapshot) (memo : Memo)

def starts : List Command :=
  ((config.provide snapshot memo none).run (Session.responder config world) {}).state.commands

theorem starts_eq : config.starts world snapshot memo =
    ((config.provide snapshot memo none).run (Session.responder config world) {}).asked.map
      fun name => ⟨Interpreter.executable config world, name, config.timeout⟩ :=
  Session.commands_run_fresh config world _

theorem permits_starts : config.strategy.Permits snapshot (config.starts world snapshot memo) := by
  obtain ⟨few, offered⟩ :=
    (config.atMost_provide snapshot memo none).asked_run (Session.responder config world) {}
  rw [starts_eq]
  constructor
  · rwa [List.length_map]
  · intro command member
    obtain ⟨name, asked, rfl⟩ := List.mem_map.mp member
    exact ⟨name, rfl, offered name asked, (offered name asked).plain⟩

theorem starts_of_inactive (inactive : Interpreter.isActive config world = false) :
    config.starts world snapshot memo = [] := by
  have nobody : (none : Option Bool).getD
      ((Session.responder config world).active {}) = false := inactive
  rw [starts_eq, asked_provide_of_inactive config snapshot memo nobody, List.map_nil]

variable {config world snapshot memo}

theorem isActive_of_starts (started : config.starts world snapshot memo ≠ []) :
    Interpreter.isActive config world = true := by
  by_contra inactive
  exact started (config.starts_of_inactive world snapshot memo (by simpa using inactive))

end Config

namespace Service

theorem Place.text_of_snapshot {place : Place} {snapshot : Snapshot}
    (placed : place.snapshot = .ok snapshot) : snapshot.text = place.text := by
  rw [Place.snapshot] at placed
  split at placed
  case h_1 =>
    split at placed
    case isTrue => cases placed
    case isFalse => cases placed; rfl
  case h_2 => cases placed
  case h_3 =>
    split at placed
    case h_1 => cases placed; rfl
    case h_2 => cases placed

theorem HintRequest.text_of_snapshot {request : HintRequest} {snapshot : Snapshot}
    (sound : request.snapshot = .ok snapshot) : snapshot.text = request.place.text := by
  rw [HintRequest.snapshot] at sound
  split at sound
  case isTrue => cases sound
  case isFalse => exact Place.text_of_snapshot sound

theorem starts_of_handle (world : World) (service : Service) (request : Request)
    (started : (service.handle world request).commands ≠ []) :
    ∃ (sought : HintRequest) (snapshot : Snapshot) (memo : Memo),
      request.hintRequest? = some sought ∧ sought.snapshot = .ok snapshot ∧
      ¬ (service.handle world request).IsRefused ∧
      (service.handle world request).commands = sought.config.starts world snapshot memo := by
  obtain ⟨sought, asked, same⟩ | ⟨id, -, -, same⟩ | ⟨answer, same⟩ := handle_cases request
  · rw [same] at started ⊢
    cases sound : sought.snapshot with
    | error refusal =>
        rw [hint_of_error world service sound] at started
        exact absurd rfl started
    | ok snapshot =>
        exact ⟨sought, snapshot, _, asked, sound, not_isRefused_of_ok world service sound,
          commands_hint world service sound⟩
  · rw [same, commands_forget] at started
    exact absurd rfl started
  · rw [same] at started
    exact absurd rfl started

end Service

namespace CommandLine

def Report.IsRefused (report : Report) : Prop :=
  (∃ misuse, report.outcome = .error (.misuse misuse)) ∨
    ∃ message, report.outcome = .error (.refused message)

theorem Report.commands_notice (console : Console) (text : String) :
    (Report.notice console text).commands = [] := by
  rw [notice]
  split <;> rfl

theorem Report.not_isRefused_notice (console : Console) (text : String) :
    ¬ (Report.notice console text).IsRefused := by
  rw [notice]
  split <;> simp [IsRefused, failed]

theorem Aim.text_of_snapshot {aim : Aim} {text : List Char} {snapshot : Snapshot}
    (placed : aim.snapshot text = .ok snapshot) : snapshot.text = text := by
  rw [Aim.snapshot] at placed
  split at placed
  case h_1 =>
    split at placed
    case isTrue => cases placed
    case isFalse =>
      split at placed
      case isTrue => cases placed
      case isFalse => cases placed; rfl
  case h_2 => cases placed
  case h_3 =>
    split at placed
    case h_1 => cases placed
    case h_2 => cases placed; rfl

theorem commands_showHint (around : Surroundings) (config : Config) (snapshot : Snapshot) :
    (showHint around config snapshot).commands = config.starts around.world snapshot .empty := by
  rw [showHint]
  split
  case isTrue => rfl
  case isFalse inactive =>
    rw [Report.commands_notice,
      config.starts_of_inactive around.world snapshot .empty (by simpa using inactive)]

theorem not_isRefused_showHint (around : Surroundings) (config : Config) (snapshot : Snapshot) :
    ¬ (showHint around config snapshot).IsRefused := by
  rw [showHint]
  split
  case isFalse => exact Report.not_isRefused_notice _ _
  case isTrue =>
    dsimp only [Report.IsRefused]
    split
    case h_1 => simp [Report.failed]
    case h_2 => exact Report.not_isRefused_notice _ _
    case h_3 => simp

theorem commands_serve (around : Surroundings) (invocation : Invocation) :
    (serve around invocation).commands = [] := by
  rw [serve]
  split
  case isFalse => rfl
  case isTrue =>
    dsimp only
    split <;> exact Report.commands_notice _ _

namespace Invocation

variable {around : Surroundings} {invocation : Invocation} {snapshot : Snapshot}

theorem readSource_of_snapshot (found : invocation.snapshot = .ok snapshot) :
    readSource invocation.content = .ok snapshot.text := by
  rw [Invocation.snapshot] at found
  split at found
  case h_1 => cases found
  case h_2 text read =>
    cases placed : invocation.aim.snapshot text with
    | error error =>
        rw [placed] at found
        cases found
    | ok snapshot' =>
        rw [placed] at found
        cases found
        rw [read, Aim.text_of_snapshot placed]

theorem commands_run_of_ne (other : invocation.verb ≠ .doc) :
    (invocation.run around).commands = [] := by
  cases verb : invocation.verb with
  | doc => exact absurd verb other
  | web =>
      simp only [run, verb]
      exact commands_serve around invocation
  | token =>
      simp only [run, verb]
      split
      case h_1 => rfl
      case h_2 snapshot _ =>
        rw [showToken]
        split <;> exact Report.commands_notice _ _
  | call =>
      simp only [run, verb]
      split
      case h_1 => rfl
      case h_2 snapshot _ => exact Report.commands_notice _ _

theorem starts_of_run (started : (invocation.run around).commands ≠ []) :
    ∃ config snapshot, invocation.verb = .doc ∧
      checkSettings invocation.settings = .ok config ∧ invocation.snapshot = .ok snapshot ∧
      ¬ (invocation.run around).IsRefused ∧
      (invocation.run around).commands = config.starts around.world snapshot .empty := by
  have verb : invocation.verb = .doc := by
    by_contra other
    exact started (commands_run_of_ne other)
  cases checked : checkSettings invocation.settings with
  | error failure =>
      simp only [run, verb, checked] at started
      exact absurd rfl started
  | ok config =>
      cases found : invocation.snapshot with
      | error failure =>
          simp only [run, verb, checked, found] at started
          exact absurd rfl started
      | ok snapshot =>
          refine ⟨config, snapshot, verb, rfl, rfl, ?_, ?_⟩
          · simp only [run, verb, checked, found]
            exact not_isRefused_showHint around config snapshot
          · simp only [run, verb, checked, found]
            exact commands_showHint around config snapshot

end Invocation

theorem starts_of_run (around : Surroundings) (args : List String)
    (started : (run around args).commands ≠ []) :
    ∃ invocation config snapshot, Invocation.ofCommandLine around args = .ok invocation ∧
      invocation.verb = .doc ∧ checkSettings invocation.settings = .ok config ∧
      invocation.snapshot = .ok snapshot ∧ ¬ (run around args).IsRefused ∧
      (run around args).commands = config.starts around.world snapshot .empty := by
  cases called : Invocation.ofCommandLine around args with
  | error misuse =>
      simp only [run, called] at started
      exact absurd rfl started
  | ok invocation =>
      simp only [run, called] at started ⊢
      obtain ⟨config, snapshot, asked⟩ := Invocation.starts_of_run started
      exact ⟨invocation, config, snapshot, rfl, asked⟩

end CommandLine

/-- Whatever was asked before, only a request for a hint and only a command that shows one start the
interpreter. Then nothing about it was refused, the interpreter was found, and the starts are those
that the strategy permits for the submitted text and its cursor. -/
theorem starts_permitted :
    (∀ (world : World) (service : Service) (request : Service.Request),
      let handled := service.handle world request
      handled.commands ≠ [] →
        ¬ handled.IsRefused ∧ Interpreter.isActive .default world = true ∧
        ∃ sought snapshot, request.hintRequest? = some sought ∧ sought.snapshot = .ok snapshot ∧
          snapshot.text = sought.place.text ∧
          sought.strategy.Permits snapshot handled.commands) ∧
    ∀ (around : CommandLine.Surroundings) (args : List String),
      let report := CommandLine.run around args
      report.commands ≠ [] →
        ¬ report.IsRefused ∧
        ∃ invocation config snapshot,
          CommandLine.Invocation.ofCommandLine around args = .ok invocation ∧
          invocation.verb = .doc ∧ CommandLine.checkSettings invocation.settings = .ok config ∧
          Interpreter.isActive config around.world = true ∧ invocation.snapshot = .ok snapshot ∧
          CommandLine.readSource invocation.content = .ok snapshot.text ∧
          config.strategy.Permits snapshot report.commands := by
  constructor
  · intro world service request handled started
    obtain ⟨sought, snapshot, memo, asked, sound, accepted, starts⟩ :=
      Service.starts_of_handle world service request started
    refine ⟨accepted, ?_, sought, snapshot, asked, sound, sought.text_of_snapshot sound, ?_⟩
    · rw [starts] at started
      have active : Interpreter.isActive sought.config world = true :=
        Config.isActive_of_starts started
      -- A request does not say which program is looked for.
      exact active
    · rw [starts]
      exact sought.config.permits_starts world snapshot memo
  · intro around args report started
    obtain ⟨invocation, config, snapshot, called, verb, checked, found, accepted, starts⟩ :=
      CommandLine.starts_of_run around args started
    refine ⟨accepted, invocation, config, snapshot, called, verb, checked, ?_, found,
      CommandLine.Invocation.readSource_of_snapshot found, ?_⟩
    · rw [starts] at started
      exact Config.isActive_of_starts started
    · rw [starts]
      exact config.permits_starts around.world snapshot .empty

theorem starts_permitted_in_call :
    let world : World := ⟨fun _ => some "Rscript", fun _ => .exited 0 "" ""⟩
    let request : Service.Request :=
      ⟨"POST", "/doc", .value (.object [("text", .text "f(x"), ("cursor", .whole 3)])⟩
    let handled := Service.handle world {} request
    let around : CommandLine.Surroundings :=
      ⟨"/", fun _ => some (.bytes [102, 40, 120]), world, false, .terminal⟩
    let report := CommandLine.run around ["doc", "a.R", "--offset", "1", "--strategy", "cached"]
    handled.commands.map (·.name) = ["x", "f"] ∧ handled.commands ≠ [] ∧
      report.commands.map (·.name) = ["f"] ∧ report.commands ≠ [] ∧
      (¬ handled.IsRefused ∧ ∃ snapshot, snapshot.text = "f(x".toList ∧
        Strategy.fallback.Permits snapshot handled.commands) ∧
      ¬ report.IsRefused ∧ ∃ config snapshot, Interpreter.isActive config world = true ∧
        config.strategy.Permits snapshot report.commands := by
  intro world request handled around report
  have names : handled.commands.map (·.name) = ["x", "f"] := by decide +kernel
  have started : handled.commands ≠ [] := by decide +kernel
  have names' : report.commands.map (·.name) = ["f"] := by decide +kernel
  have started' : report.commands ≠ [] := by decide +kernel
  have asks : request.hintRequest? =
      some ⟨⟨"f(x".toList, some 3, none, 0⟩, .fallback, none, false⟩ := by decide +kernel
  obtain ⟨accepted, -, sought, snapshot, asked, -, text, permits⟩ :=
    starts_permitted.1 world {} request started
  obtain ⟨accepted', -, config, snapshot', -, -, -, active, -, -, permits'⟩ :=
    starts_permitted.2 around _ started'
  obtain rfl := Option.some.inj (asks.symm.trans asked)
  exact ⟨names, started, names', started', ⟨accepted, snapshot, text, permits⟩, accepted', config,
    snapshot', active, permits'⟩

end ArgHints
