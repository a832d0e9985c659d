import PageCheck.Proofs.Cli.Action
import PageCheck.Proofs.Log.Logger

/-!
# Where a command starts

A command line starts a command if its switches can be read, the logger can be set up and the
configuration can be loaded. What the program does then is what the command does from there on.
-/

namespace PageCheck

set_option autoImplicit false

namespace Cli

/-- What stands when a command starts: the logger and the files it leaves, the configuration and
the switches of the command. -/
structure Start (world : World) (words : List String) (command : Command) where
  top : Options
  rest : List String
  logger : Log.Logger
  files : Files
  config : Config
  options : Options
  reads_top : Options.read world.files none .top words = .ok top
  names_command : top.rest = command.name :: rest
  configures : Log.Logger.initial.configure world.files ⟨.text (top.text .logLevel "INFO"),
    top.path? .logFile, top.text .logFormat Log.Format.usual, true⟩ = ⟨logger, files, none⟩
  loads : Config.load files (top.path? .config) = .ok config
  reads_options : Options.read files world.specFile command rest = .ok options

def Outcome.of (done : Except Exit Nat × Terminal) : Outcome :=
  ⟨match done.1 with
    | .ok n => .code n
    | .error exit => exit,
    done.2.output.screen, done.2.errors, done.2.output.files⟩

theorem run_eq (world : World) (words : List String) : run world words =
    .of ((program world words).on ⟨world.stamp, Log.Logger.initial, ⟨[], world.files, true⟩, ""⟩) := rfl

open Cli.Action

theorem on_options {t : Terminal} {fallback : Option String} {command : Command} {words : List String}
    {o : Options} (h : Options.read t.output.files fallback command words = .ok o) :
    (options fallback command words).on t = (.ok o, t) := by
  rw [options, on_bind_ok on_files]
  simp only [h]
  rfl

theorem on_findCommand {t : Terminal} {command : Command} {words : List String}
    (h : commandOf command.name = .ok command) :
    (findCommand (command.name :: words)).on t = (.ok (command, words), t) := by
  rw [findCommand]
  simp only [h]
  rfl

namespace Start

variable {world : World} {words : List String} {command : Command} (s : Start world words command)

/-- The terminal that the command starts with. -/
def terminal : Terminal := ⟨world.stamp, s.logger, ⟨[], s.files, true⟩, ""⟩

include s in
theorem words_isEmpty : words.isEmpty = false := by
  cases words with
  | cons word words => rfl
  | nil =>
    have hRest := s.names_command
    obtain ⟨args, hArgs, hTop⟩ := Files.bind_eq_ok_iff.mp s.reads_top
    obtain ⟨taken, _, hTop⟩ := Files.bind_eq_ok_iff.mp hTop
    have hWords : args.rest = [] := by
      rw [Reader.read] at hArgs
      cases hArgs
      rfl
    have hTop : (⟨taken.filterMap id, args.has .pretty, args.rest⟩ : Options) = s.top := Except.ok.inj hTop
    rw [← hTop, hWords] at hRest
    cases hRest

/-- The program is the command, from its start on. -/
theorem run_eq_on (h : commandOf command.name = .ok command) :
    run world words = .of ((runCommand world s.config command s.rest).on s.terminal) := by
  let first : Terminal := ⟨world.stamp, Log.Logger.initial, ⟨[], world.files, true⟩, ""⟩
  have hTop : (Cli.options none .top words).on first = (.ok s.top, first) := on_options s.reads_top
  have hFind : (findCommand s.top.rest).on first = (.ok (command, s.rest), first) :=
    s.names_command ▸ on_findCommand h
  have hLogger : (setUpLogger s.top).on first = (.ok (), s.terminal) := by
    have hConfigures : first.logger.configure first.output.files ⟨.text (s.top.text .logLevel "INFO"),
        s.top.path? .logFile, s.top.text .logFormat Log.Format.usual, true⟩ =
        ⟨s.logger, s.files, none⟩ := s.configures
    rw [setUpLogger, on_bind_ok on_get]
    simp only [hConfigures]
    rfl
  have hConfig : (loadConfig s.top).on s.terminal = (.ok s.config, s.terminal) := by
    have hLoads : Config.load s.terminal.output.files (s.top.path? .config) = .ok s.config := s.loads
    rw [loadConfig, on_bind_ok on_files, hLoads]
    rfl
  rw [run_eq, program, s.words_isEmpty]
  simp only [Bool.false_eq_true, if_false]
  rw [on_bind_ok hTop, on_bind_ok hFind, on_bind_ok hLogger, on_bind_ok hConfig]

theorem on_runCommand : (runCommand world s.config command s.rest).on s.terminal =
    (match command with
      | .check => check world.pages s.config s.options
      | .validate => validate s.config s.options
      | _ => printConfig s.config).on s.terminal := by
  have hOptions : (Cli.options world.specFile command s.rest).on s.terminal = (.ok s.options, s.terminal) :=
    on_options s.reads_options
  refine Eq.trans (on_bind_ok hOptions) ?_
  cases command <;> rfl

theorem within : Files.Within world.files s.files := by
  have hWithin := Log.Logger.initial.within_configure world.files ⟨.text (s.top.text .logLevel "INFO"),
    s.top.path? .logFile, s.top.text .logFormat Log.Format.usual, true⟩
  rw [s.configures] at hWithin
  exact hWithin

end Start

theorem run_check {world : World} {words : List String} (s : Start world words .check) :
    run world words = .of ((check world.pages s.config s.options).on s.terminal) := by
  rw [s.run_eq_on rfl, s.on_runCommand]

theorem run_validate {world : World} {words : List String} (s : Start world words .validate) :
    run world words = .of ((validate s.config s.options).on s.terminal) := by
  rw [s.run_eq_on rfl, s.on_runCommand]

end Cli

end PageCheck
