import PageCheck.Log.Logger
import PageCheck.Proofs.Log.Rotation

/-!
# What a logger does

Setting a logger up ends in one of four ways, and each of them says all of what it did until then.
What every handler keeps when it writes is kept when records are logged.
-/

namespace PageCheck.Log

set_option autoImplicit false

/-- The handlers that stay when a logger is set up. -/
def Settings.kept (settings : Settings) (logger : Logger) : List Handler :=
  if settings.replace then [] else logger.handlers

/-- The handlers that come together: one for the screen and perhaps one for a file, with one format
for both. -/
structure Block where
  format : Format
  file : Option Path

def Block.handlers (b : Block) : List Handler :=
  ⟨.screen, b.format⟩ :: (b.file.map fun p => ⟨.file p, b.format⟩).toList

/-- The ways in which setting a logger up ends: one for each fault, and one for success. -/
inductive Effect (logger : Logger) (files : Files) (settings : Settings) : Configured → Prop where
  | level {fault : Fault} (hLevel : readLevel settings.level = .error fault) :
    Effect logger files settings ⟨logger, files, some fault⟩
  | format {level : Level} (hLevel : readLevel settings.level = .ok level)
      (hFormat : Format.read? settings.format = none) :
    Effect logger files settings
      ⟨⟨level, settings.kept logger, logger.propagates⟩, files, some (.format settings.format)⟩
  | file {level : Level} {format : Format} {p : Path} {e : FileError}
      (hLevel : readLevel settings.level = .ok level)
      (hFormat : Format.read? settings.format = some format) (hFile : settings.file = some p)
      (hOpen : files.openToAppend (p.resolve files.current) = .error e) :
    Effect logger files settings
      ⟨⟨level, settings.kept logger ++ [⟨.screen, format⟩], logger.propagates⟩, files,
        some (.file e)⟩
  | done {level : Level} {format : Format} {opened : Files}
      (hLevel : readLevel settings.level = .ok level)
      (hFormat : Format.read? settings.format = some format)
      (hNone : settings.file = none → opened = files)
      (hOpen : ∀ p, settings.file = some p →
        files.openToAppend (p.resolve files.current) = .ok opened) :
    Effect logger files settings
      ⟨⟨level, settings.kept logger ++
        Block.handlers ⟨format, settings.file.map (·.resolve files.current)⟩, false⟩, opened, none⟩

variable {stamp : Stamp} {output : Output} {logger : Logger} {files : Files} {settings : Settings}

namespace Logger

theorem effect_configure (logger : Logger) (files : Files) (settings : Settings) :
    Effect logger files settings (logger.configure files settings) := by
  unfold configure
  cases hLevel : readLevel settings.level with
  | error fault => exact .level hLevel
  | ok level =>
    cases hFormat : Format.read? settings.format with
    | none => exact .format hLevel hFormat
    | some format =>
      have hDone {opened : Files} (hNone : settings.file = none → opened = files)
          (hOpen : ∀ p, settings.file = some p →
            files.openToAppend (p.resolve files.current) = .ok opened) :
          Effect logger files settings ⟨⟨level, settings.kept logger ++
            Block.handlers ⟨format, settings.file.map (·.resolve files.current)⟩, false⟩,
            opened, none⟩ :=
        .done hLevel hFormat hNone hOpen
      cases hFile : settings.file with
      | none =>
        rw [hFile] at hDone
        refine hDone (fun _ => rfl) fun p hSome => ?_
        cases hSome
      | some p =>
        rw [hFile] at hDone
        simp only [addFile]
        cases hOpen : files.openToAppend (p.resolve files.current) with
        | error e => exact .file hLevel hFormat hFile hOpen
        | ok opened =>
          have hOpened : ∀ q, some p = some q →
              files.openToAppend (q.resolve files.current) = .ok opened := by
            rintro q ⟨⟩
            exact hOpen
          have hNone : some p = none → opened = files := fun h => absurd h (Option.some_ne_none p)
          simpa [add, Block.handlers, Settings.kept] using hDone hNone hOpened

/-- Setting a logger up changes no file that is there. -/
theorem within_configure (logger : Logger) (files : Files) (settings : Settings) :
    Files.Within files (logger.configure files settings).files := by
  have hEffect := effect_configure logger files settings
  generalize logger.configure files settings = done at hEffect
  cases hEffect with
  | level | format | file => exact .refl files
  | done hLevel hFormat hNone hOpen =>
    cases hFile : settings.file with
    | none => exact hNone hFile ▸ .refl files
    | some p => exact Files.within_openToAppend (hOpen p hFile)

/-- What every handler keeps when it writes is kept when a record is logged. -/
theorem log_keeps {P : Output → Prop} (event : Event) (h : P output)
    (hWrite : ∀ handler ∈ logger.handlers, ∀ more, P more → P (handler.write stamp event more)) :
    P (logger.log stamp output event) := by
  rw [log]
  split
  · exact List.foldlRecOn logger.handlers _ h fun more hMore handler hHandler =>
      hWrite handler hHandler more hMore
  · exact h

theorem logAll_keeps {P : Output → Prop} (records : List Record) (h : P output)
    (hWrite : ∀ handler ∈ logger.handlers, ∀ event more,
      P more → P (handler.write stamp event more)) :
    P (logger.logAll stamp output records) := by
  refine List.foldlRecOn records _ h ?_
  intro more hMore record _
  exact log_keeps record.event hMore fun handler hHandler => hWrite handler hHandler record.event

end Logger

theorem Output.files_show (output : Output) (line : Text.Codes) :
    (output.show line).files = output.files := by
  unfold Output.show
  split <;> rfl

theorem Output.current_add (output : Output) (line : Text.Codes) (target : Target) :
    (output.add line target).files.current = output.files.current := by
  cases target with
  | screen => exact congrArg Files.current (output.files_show line)
  | file p => exact Files.current_addLine output.files p line

theorem Handler.current_write (h : Handler) (event : Event) :
    (h.write stamp event output).files.current = output.files.current := by
  unfold Handler.write
  split
  · rfl
  · exact output.current_add _ _

theorem Handler.files_write_of_screen {h : Handler} (hTarget : h.target = .screen) (event : Event) :
    (h.write stamp event output).files = output.files := by
  rw [Handler.write, hTarget]
  split
  · rfl
  · exact output.files_show _

namespace Logger

theorem current_log (logger : Logger) (event : Event) :
    (logger.log stamp output event).files.current = output.files.current :=
  log_keeps (P := fun more => more.files.current = output.files.current) event rfl
    fun handler _ _ hMore => (handler.current_write event).trans hMore

theorem current_logAll (logger : Logger) (records : List Record) :
    (logger.logAll stamp output records).files.current = output.files.current :=
  logger.logAll_keeps (P := fun more => more.files.current = output.files.current) records rfl
    fun handler _ event _ hMore => (handler.current_write event).trans hMore

theorem files_logAll_of_screen (h : ∀ handler ∈ logger.handlers, handler.target = .screen)
    (records : List Record) : (logger.logAll stamp output records).files = output.files :=
  logger.logAll_keeps (P := fun more => more.files = output.files) records rfl
    fun handler hHandler event _ hMore =>
      (Handler.files_write_of_screen (h handler hHandler) event).trans hMore

end Logger

end PageCheck.Log
