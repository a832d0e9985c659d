import PageCheck.Log.Session
import PageCheck.Proofs.Log.Logger
import PageCheck.Proofs.Text.Lines

/-!
# The logger over any history

After every history the handlers stand in blocks, and a call that fails leaves what it did before
that. A call that starts over leaves nothing of the history: from then on a message that is due is
written once to the screen, and once to the file if there is one.
-/

namespace PageCheck

set_option autoImplicit false

namespace Files

variable {files more : Files} {p : Path}

/-- A file that is open to be continued is there. -/
theorem exists_bytes_of_openToAppend (h : files.openToAppend p = .ok more) :
    ∃ octets, more.bytes p = .ok octets := by
  obtain ⟨x, hPlace, hOpened⟩ := bind_eq_ok_iff.mp (mapError_eq_ok_iff.mp h)
  split at hOpened
  · cases hOpened
  · rename_i octets hFile
    cases hOpened
    exact ⟨octets, bytes_eq_ok_iff.mpr ⟨x, hPlace, hFile⟩⟩
  · rename_i hFree
    cases hOpened
    have hNot : files.at? x ≠ some .folder := by
      rw [hFree]
      exact nofun
    exact ⟨[], bytes_eq_ok_iff.mpr ⟨x, (keepsFolders_put hNot).place_eq hPlace,
      at?_put_self (ne_nil_of_not_folder hNot)⟩⟩

end Files

namespace Log

open Text (Codes)
open Files (IsLog continued)

/-- The line that a message is due under a level and a format: none if its level is not positive or
too low, or if the message or the format does not fit what is to be put in. -/
def Message.due? (m : Message) (level : Level) (format : Format) : Option Codes :=
  match m.level, message? m.pattern m.values with
  | some n, some text =>
    if (0 < n ∧ (if level = 0 then Level.warning else level) ≤ n) ∧ Text.isLong n = false then
      (format.line? m.stamp ⟨n, text, m.pattern, argumentsOf m.values⟩).map (· ++ "\n")
    else none
  | _, _ => none

/-- The lines that messages are due. -/
def dueLines (messages : List Message) (level : Level) (format : Format) : List Codes :=
  messages.filterMap fun m => m.due? level format

theorem dueLines_cons (m : Message) (messages : List Message) (level : Level) (format : Format) :
    dueLines (m :: messages) level format =
      (m.due? level format).toList ++ dueLines messages level format := by
  cases hDue : m.due? level format <;> simp [dueLines, hDue]

namespace Output

/-- What comes out when a block of handlers writes a line. -/
def written (output : Output) (b : Block) (line : Codes) : Output :=
  let shown := output.show line
  (b.file.map fun p => shown.add line (.file p)).getD shown

/-- What the screen takes of a line. -/
def taken (output : Output) (line : Codes) : Codes :=
  if output.strict && line.any Text.Code.isHalf then [] else line

/-- Lines have come to the screen and to the file of a block, each of them once and in their order, and
to nothing else. -/
structure Gains (b : Block) (lines : List Codes) (output more : Output) : Prop where
  screen : more.screen = output.screen ++ lines.flatMap output.taken
  strict : more.strict = output.strict
  files : b.file = none → more.files = output.files
  file : ∀ p octets, b.file = some p → IsLog output.files p octets →
    IsLog more.files p (lines.foldl continued octets)

namespace Gains

variable {b : Block} {lines others : List Codes} {output more last : Output}

theorem refl (b : Block) (output : Output) : Gains b [] output output where
  screen := (List.append_nil _).symm
  strict := rfl
  files _ := rfl
  file _ _ _ h := h

theorem trans (h : Gains b lines output more) (hLast : Gains b others more last) :
    Gains b (lines ++ others) output last where
  screen := by
    have hTaken : more.taken = output.taken := by
      funext line
      rw [taken, taken, h.strict]
    rw [hLast.screen, h.screen, hTaken, List.flatMap_append, List.append_assoc]
  strict := hLast.strict.trans h.strict
  files hNone := (hLast.files hNone).trans (h.files hNone)
  file p octets hFile hLog := by
    rw [List.foldl_append]
    exact hLast.file p _ hFile (h.file p octets hFile hLog)

theorem written (b : Block) (line : Codes) (output : Output) :
    Gains b [line] output (output.written b line) := by
  have hScreen : (output.show line).screen = output.screen ++ [line].flatMap output.taken := by
    rw [Output.show, List.flatMap_singleton, taken]
    split
    · exact (List.append_nil _).symm
    · rfl
  have hStrict : (output.show line).strict = output.strict := by
    rw [Output.show]
    split <;> rfl
  rw [Output.written]
  cases hFile : b.file with
  | none =>
    refine ⟨hScreen, hStrict, fun _ => output.files_show line, fun p octets hSome _ => ?_⟩
    rw [hFile] at hSome
    cases hSome
  | some p =>
    refine ⟨hScreen, hStrict, fun hNone => ?_, fun q octets hSome hLog => ?_⟩
    · rw [hFile] at hNone
      cases hNone
    · rw [hFile] at hSome
      cases hSome
      rw [← output.files_show line] at hLog
      exact hLog.addLine line

end Gains

end Output

variable {stamp : Stamp} {output : Output} {logger : Logger} {level : Level} {b : Block}

theorem isEnabled_iff {n : Level} : (Logger.mk level b.handlers false).isEnabled n = true ↔
    0 < n ∧ (if level = 0 then Level.warning else level) ≤ n := by
  simp only [Logger.isEnabled, Logger.threshold, Bool.and_eq_true, decide_eq_true_eq]

/-- The handlers of a block write the same line, or none of them writes anything. -/
theorem foldl_write (event : Event) :
    b.handlers.foldl (Handler.write stamp event) output =
      ((b.format.line? stamp event).map fun line => output.written b (line ++ "\n")).getD output := by
  cases hLine : b.format.line? stamp event with
  | none => cases hFile : b.file <;> simp [Block.handlers, Handler.write, hFile, hLine]
  | some line =>
    cases hFile : b.file <;>
      simp [Block.handlers, Handler.write, Output.written, Output.add, hFile, hLine]

namespace Session

variable {s : Session}

/-- A block of handlers writes exactly what a message is due. -/
theorem log_block (m : Message) :
    ((⟨⟨level, b.handlers, false⟩, output⟩ : Session).log m).1 =
      ⟨⟨level, b.handlers, false⟩, ((m.due? level b.format).map (output.written b)).getD output⟩ := by
  unfold Session.log Message.due?
  cases hLevel : m.level with
  | none => rfl
  | some n =>
    cases hText : message? m.pattern m.values with
    | none =>
      dsimp only
      split <;> rfl
    | some text =>
      dsimp only
      by_cases hEnabled : 0 < n ∧ (if level = 0 then Level.warning else level) ≤ n
      · rw [isEnabled_iff.mpr hEnabled, Bool.true_and, Logger.log, if_pos (isEnabled_iff.mpr hEnabled)]
        cases hLong : Text.isLong n with
        | true => simp
        | false =>
          rw [if_neg Bool.false_ne_true, if_pos ⟨hEnabled, rfl⟩, foldl_write, Option.map_map]
          rfl
      · have hOff : (Logger.mk level b.handlers false).isEnabled n = false :=
          Bool.eq_false_iff.mpr (mt isEnabled_iff.mp hEnabled)
        rw [hOff, Bool.false_and, if_neg Bool.false_ne_true, if_neg fun h => hEnabled h.1, Logger.log, hOff]
        rfl

/-- The induction is on the messages; the logger stays what it is. -/
theorem run_block (messages : List Message) (output : Output) :
    ∃ more, (⟨⟨level, b.handlers, false⟩, output⟩ : Session).run (messages.map .log) =
        ⟨⟨level, b.handlers, false⟩, more⟩ ∧
      Output.Gains b (dueLines messages level b.format) output more := by
  induction messages generalizing output with
  | nil => exact ⟨output, rfl, .refl b output⟩
  | cons m messages ih =>
    obtain ⟨more, hRun, hGains⟩ := ih (((m.due? level b.format).map (output.written b)).getD output)
    have hFirst : Output.Gains b (m.due? level b.format).toList output
        (((m.due? level b.format).map (output.written b)).getD output) := by
      cases m.due? level b.format with
      | none => exact .refl b output
      | some line => exact .written b line output
    refine ⟨more, ?_, ?_⟩
    · rw [← hRun, ← log_block]
      rfl
    · rw [dueLines_cons]
      exact hFirst.trans hGains

/-! What every history keeps -/

/-- The handlers stand in blocks, and records go nowhere else. -/
structure IsOrderly (logger : Logger) : Prop where
  propagates : logger.propagates = false
  handlers : ∃ blocks : List Block, logger.handlers = blocks.flatMap Block.handlers

theorem isOrderly_of_effect {files : Files} {settings : Settings} {done : Configured}
    (h : IsOrderly logger) (hEffect : Effect logger files settings done) :
    IsOrderly done.logger := by
  have hKept : ∃ blocks : List Block, settings.kept logger = blocks.flatMap Block.handlers := by
    rw [Settings.kept]
    split
    · exact ⟨[], rfl⟩
    · exact h.handlers
  obtain ⟨blocks, hBlocks⟩ := hKept
  cases hEffect with
  | level => exact h
  | format => exact ⟨h.propagates, blocks, hBlocks⟩
  | @file level format p e =>
    refine ⟨h.propagates, blocks ++ [⟨format, none⟩], ?_⟩
    rw [List.flatMap_append, ← hBlocks]
    rfl
  | @done level format opened =>
    refine ⟨rfl, blocks ++ [⟨format, settings.file.map (·.resolve files.current)⟩], ?_⟩
    rw [List.flatMap_append, ← hBlocks, List.flatMap_singleton]

theorem call_of_settings {c : Call} {settings : Settings} (h : c.settings? = some settings) :
    s.call c = s.configure settings := by
  cases c with
  | configure | init =>
    cases h
    rfl
  | log => cases h

theorem call_keeps (c : Call) (h : IsOrderly s.logger) :
    IsOrderly (s.call c).1.logger ∧
      (s.call c).1.output.files.current = s.output.files.current := by
  cases hSettings : c.settings? with
  | some settings =>
    rw [call_of_settings hSettings]
    exact ⟨isOrderly_of_effect h (s.logger.effect_configure s.output.files settings),
      (s.logger.within_configure s.output.files settings).current⟩
  | none =>
    cases c with
    | log m =>
      rw [call, Session.log]
      split
      · exact ⟨h, rfl⟩
      split
      · exact ⟨h, rfl⟩
      split
      · exact ⟨h, rfl⟩
      · exact ⟨h, s.logger.current_log _⟩
    | _ => cases hSettings

theorem run_keeps (calls : List Call) (h : IsOrderly s.logger) :
    IsOrderly (s.run calls).logger ∧
      (s.run calls).output.files.current = s.output.files.current := by
  induction calls generalizing s with
  | nil => exact ⟨h, rfl⟩
  | cons c calls ih =>
    obtain ⟨hOrderly, hCurrent⟩ := call_keeps c h
    obtain ⟨hLast, hSame⟩ := ih hOrderly
    exact ⟨hLast, hSame.trans hCurrent⟩

theorem configure_standard (logger : Logger) (files : Files) :
    logger.configure files .standard = ⟨.initial, files, none⟩ := by
  have hLevel : readLevel Settings.standard.level = .ok Level.info := rfl
  have hFormat : Format.read? Settings.standard.format = some .standard := by decide
  rw [Logger.configure, hLevel]
  simp only [hFormat]
  rfl

/-- What a call leaves behind that fails to set the logger up. -/
def Leaves (settings : Settings) (s after : Session) : Fault → Prop
  | .format text => text = settings.format ∧ Format.read? text = none ∧
    ∃ level, readLevel settings.level = .ok level ∧
      after = ⟨⟨level, settings.kept s.logger, false⟩, s.output⟩
  | .file e => ∃ level format p, readLevel settings.level = .ok level ∧
    Format.read? settings.format = some format ∧ settings.file = some p ∧
    s.output.files.openToAppend (p.resolve s.output.files.current) = .error e ∧
    after = ⟨⟨level, settings.kept s.logger ++ [⟨.screen, format⟩], false⟩, s.output⟩
  | fault => readLevel settings.level = .error fault ∧ after = s

/-- A session that has started over: the settings say which logger there is, and every text that is
due comes once to the screen and once to the file. -/
structure StartsOver (settings : Settings) (current : Path) (level : Level) (format : Format)
    (s : Session) : Prop where
  reads_level : readLevel settings.level = .ok level
  reads_format : Format.read? settings.format = some format
  logger : s.logger =
    ⟨level, Block.handlers ⟨format, settings.file.map (·.resolve current)⟩, false⟩
  file : ∀ p, settings.file = some p →
    ∃ octets, s.output.files.bytes (p.resolve current) = .ok octets
  logged : ∀ messages : List Message, ∃ more,
    s.run (messages.map .log) = ⟨s.logger, more⟩ ∧
    Output.Gains ⟨format, settings.file.map (·.resolve current)⟩
      (dueLines messages level format) s.output more

theorem readLevel_fault {v : Value} {fault : Fault} (h : readLevel v = .error fault) :
    (∃ name, fault = .levelName name) ∨ (∃ outline, fault = .levelKind outline) ∨
      fault = .longLevel := by
  unfold readLevel at h
  split at h
  · cases h
  · cases h
  · split at h
    · cases h
    · cases h
      exact Or.inl ⟨_, rfl⟩
  · cases h
    exact Or.inl ⟨_, rfl⟩
  · split at h
    · cases h
      exact Or.inr (Or.inr rfl)
    · cases h
      exact Or.inr (Or.inl ⟨_, rfl⟩)

theorem leaves_of_fault {settings : Settings} {fault : Fault} (h : s.logger.propagates = false)
    (hFault : (s.configure settings).2 = some (.configure fault)) :
    Leaves settings s (s.configure settings).1 fault := by
  have hEffect := s.logger.effect_configure s.output.files settings
  unfold configure at hFault ⊢
  generalize s.logger.configure s.output.files settings = done at hEffect hFault
  cases hEffect with
  | level hLevel =>
    cases hFault
    rcases readLevel_fault hLevel with ⟨name, rfl⟩ | ⟨outline, rfl⟩ | rfl
    · exact ⟨hLevel, rfl⟩
    · exact ⟨hLevel, rfl⟩
    · exact ⟨hLevel, rfl⟩
  | format hLevel hFormat =>
    cases hFault
    exact ⟨rfl, hFormat, _, hLevel, by rw [h]⟩
  | file hLevel hFormat hFile hOpen =>
    cases hFault
    exact ⟨_, _, _, hLevel, hFormat, hFile, hOpen, by rw [h]⟩
  | done => cases hFault

theorem startsOver_of_configure {settings : Settings} (hReplace : settings.replace = true)
    (hDone : (s.configure settings).2 = none) :
    ∃ level format, StartsOver settings s.output.files.current level format
      (s.configure settings).1 := by
  have hEffect := s.logger.effect_configure s.output.files settings
  unfold configure at hDone ⊢
  generalize s.logger.configure s.output.files settings = done at hEffect hDone
  cases hEffect with
  | level | format | file => cases hDone
  | @done level format opened hLevel hFormat hNone hOpen =>
    have hKept : settings.kept s.logger = [] := if_pos hReplace
    rw [hKept, List.nil_append]
    refine ⟨level, format, hLevel, hFormat, rfl, ?_, ?_⟩
    · intro p hFile
      exact Files.exists_bytes_of_openToAppend (hOpen p hFile)
    · intro messages
      exact run_block messages _

/-- Over any history the handlers stand in blocks, a call that fails leaves what it had done, and
one that starts over leaves nothing of the history. -/
theorem run_orderly (before : Logger) (output : Output) (calls : List Call) :
    let s := (⟨before, output⟩ : Session).run
      (.init (.text "INFO") none Format.usual :: calls)
    IsOrderly s.logger ∧
    (∀ call settings fault, call.settings? = some settings →
      (s.call call).2 = some (.configure fault) → Leaves settings s (s.call call).1 fault) ∧
    (∀ call settings, call.settings? = some settings → settings.replace = true →
      (s.call call).2 = none → ∃ level format,
        StartsOver settings output.files.current level format (s.call call).1) := by
  intro s
  have hStart : s = (⟨Logger.initial, output⟩ : Session).run calls := by
    have hInit : ((⟨before, output⟩ : Session).configure .standard).1 = ⟨.initial, output⟩ := by
      rw [configure, configure_standard]
    exact congrArg (Session.run · calls) hInit
  obtain ⟨hOrderly, hCurrent⟩ : IsOrderly s.logger ∧
      s.output.files.current = output.files.current := by
    rw [hStart]
    exact run_keeps calls ⟨rfl, [⟨.standard, none⟩], rfl⟩
  refine ⟨hOrderly, ?_, ?_⟩
  · intro call settings fault hSettings hFault
    rw [call_of_settings hSettings] at hFault ⊢
    exact leaves_of_fault hOrderly.propagates hFault
  · intro call settings hSettings hReplace hDone
    rw [call_of_settings hSettings] at hDone ⊢
    rw [← hCurrent]
    exact startsOver_of_configure hReplace hDone

/-- Two handlers for the screen and a failed call are history: a level of zero asks for warnings, and
one of the two messages is written, once to the screen and once to the file. -/
theorem run_orderly_zero :
    let output : Output := ⟨[], ⟨⟨"/", ["w"]⟩, ⟨⟨"/", ["root"]⟩, []⟩, []⟩, true⟩
    let calls : List Call := [.configure ⟨.text "DEBUG", none, "%(message)s", false⟩,
      .configure ⟨.int 5, none, "plain", false⟩]
    let s := (⟨.blank, output⟩ : Session).run
      (.init (.text "INFO") none Format.usual :: calls)
    let renewed := (s.call (.init (.int 0) (some ⟨"", ["run.log"]⟩) "%(levelname)s:%(message)s")).1
    let messages : List Message :=
      [⟨.ofTime "", some 20, "a", []⟩, ⟨.ofTime "", some 30, "%d", [.int 3]⟩]
    let after := renewed.run (messages.map .log)
    s.logger = ⟨5, [⟨.screen, .standard⟩, ⟨.screen, .bare⟩], false⟩ ∧
      (s.call (.configure ⟨.text "LOUD", none, "%(message)s", true⟩)).1 = s ∧
      after.output.screen = renewed.output.screen ++ Codes.ofString "WARNING:3\n" ∧
      after.output.files.bytes ⟨"/", ["w", "run.log"]⟩ = .ok (Text.encode "WARNING:3\n".toList) := by
  intro output calls s renewed messages after
  obtain ⟨_, hLeaves, hOver⟩ := run_orderly .blank output calls
  have hDone : (s.call (.init (.int 0) (some ⟨"", ["run.log"]⟩) "%(levelname)s:%(message)s")).2 =
      none := by decide +kernel
  obtain ⟨level, format, hRenewed⟩ := hOver _ _ rfl rfl hDone
  obtain rfl : 0 = level := Except.ok.inj hRenewed.reads_level
  obtain rfl : ⟨"%(levelname)s:%(message)s"⟩ = format := by
    apply Option.some.inj
    rw [← hRenewed.reads_format]
    decide
  obtain ⟨more, hRun, hGains⟩ := hRenewed.logged messages
  have hLines : dueLines messages 0 ⟨"%(levelname)s:%(message)s"⟩ = [.ofString "WARNING:3\n"] := by
    decide +kernel
  have hAfter : after.output = more := congrArg Session.output hRun
  rw [hAfter]
  have hSettled : s.logger = ⟨5, [⟨.screen, .standard⟩, ⟨.screen, .bare⟩], false⟩ := by
    decide +kernel
  refine ⟨hSettled, ?_, ?_, ?_⟩
  · exact (hLeaves (.configure ⟨.text "LOUD", none, "%(message)s", true⟩) _
      (.levelName "LOUD") rfl (by decide +kernel)).2
  · rw [hGains.screen, hLines]
    rfl
  · have hOpened : renewed.output.files = { output.files with entries := [(["run.log"], .file [])] } := by
      decide +kernel
    have hBelow : renewed.output.files.below? ⟨"/", ["w", "run.log"]⟩ = some ["run.log"] := by
      decide +kernel
    have hLog : renewed.output.files.IsLog ⟨"/", ["w", "run.log"]⟩ [] := by
      refine ⟨["run.log"], ?_, by rw [hOpened]; rfl, by rw [hOpened]; decide⟩
      rw [Files.place, hBelow, hOpened]
      rfl
    have hWritten := (hGains.file ⟨"/", ["w", "run.log"]⟩ [] rfl hLog).bytes
    rw [hLines] at hWritten
    exact hWritten

/-- A code that stands for no character makes a line that is due and comes to the screen, but to no
file. -/
theorem screen_alone_takes_half :
    let output : Output := ⟨[], ⟨⟨"/", ["w"]⟩, ⟨⟨"/", ["root"]⟩, []⟩, []⟩, false⟩
    let s := (⟨.blank, output⟩ : Session).run [.init (.text "INFO") none Format.usual]
    let renewed := s.call (.configure ⟨.text "INFO", some ⟨"", ["run.log"]⟩, "%(message)s", true⟩)
    let m : Message := ⟨.ofTime "", some 30, "%c", [.int 0xD800]⟩
    let line : Codes := [.half ⟨0, by decide⟩, .char '\n']
    let after := renewed.1.call (.log m)
    renewed.2 = none ∧ renewed.1.logger = ⟨Level.info, Block.handlers
        ⟨.bare, some ⟨"/", ["w", "run.log"]⟩⟩, false⟩ ∧
      m.due? Level.info .bare = some line ∧ after.2 = none ∧
      after.1.output.screen = renewed.1.output.screen ++ line ∧
      after.1.output.files.entries = [(["run.log"], .file [])] := by
  decide +kernel

end Session

end Log

end PageCheck
