import PageCheck.Cli.Run

/-!
# Actions on a terminal

What the actions that commands are made of do to a terminal: the lines that are shown go without
their control sequences, one by one, and an action that fails ends all that comes after it.
-/

namespace PageCheck.Cli

set_option autoImplicit false

/-- Lines as they are shown, each without its control sequences. -/
def echoed (lines : List String) : String := String.join (lines.map fun line => Text.plain line ++ "\n")

theorem echoed_append (a b : List String) : echoed (a ++ b) = echoed a ++ echoed b := by
  rw [echoed, List.map_append, String.join_append]
  rfl

theorem withoutControls_of_notMem {s : List Char} (h : '\x1b' ∉ s) : Text.withoutControls s = s := by
  induction s with
  | nil => rw [Text.withoutControls]
  | cons c s ih =>
    rw [List.mem_cons, not_or] at h
    have hNone : Text.behindControl? (c :: s) = none := by
      unfold Text.behindControl?
      split
      · rename_i hMark
        exact absurd (List.cons.inj hMark).1.symm h.1
      · rfl
    rw [Text.withoutControls_cons_of_none hNone, ih h.2]

theorem plain_lines (lines : List String) :
    Text.plain (String.join (lines.map fun line => line ++ "\n")) = echoed lines := by
  apply String.toList_inj.mp
  rw [Text.plain, String.toList_ofList, echoed, String.toList_join, String.toList_join]
  induction lines with
  | nil => rw [List.map_nil, List.map_nil, List.flatMap_nil, Text.withoutControls]
  | cons line lines ih =>
    simp only [List.map_cons, List.flatMap_cons, String.toList_append, String.reduceToList,
      List.append_assoc, List.cons_append, List.nil_append]
    rw [Text.withoutControls_line, ih, Text.plain, String.toList_ofList]

namespace Terminal

variable (t : Terminal)

def shown (text : String) : Terminal :=
  { t with output := { t.output with screen := t.output.screen ++ text } }

def complained (text : String) : Terminal := { t with errors := t.errors ++ text }

def logged (records : List Log.Record) : Terminal :=
  { t with output := t.logger.logAll t.stamp t.output records }

def withFiles (files : Files) : Terminal := { t with output := { t.output with files := files } }

theorem logged_append (a b : List Log.Record) : t.logged (a ++ b) = (t.logged a).logged b := by
  simp only [logged, Log.Logger.logAll, List.foldl_append]

theorem shown_append (a b : String) : t.shown (a ++ b) = (t.shown a).shown b := by
  simp only [shown, Text.Codes.ofString_append, List.append_assoc]

theorem shown_nothing : t.shown (echoed []) = t := by
  have hScreen : t.output.screen ++ Text.Codes.ofString (echoed []) = t.output.screen := List.append_nil _
  rw [shown, hScreen]

end Terminal

namespace Action

variable {α β ε : Type} {x : Action α} {f : α → Action β} {t u : Terminal} {a : α} {e : Exit}

/-- What an action comes to on a terminal, and the terminal then. -/
def on (x : Action α) (t : Terminal) : Except Exit α × Terminal := x.run.run t

theorem on_pure : (pure a : Action α).on t = (.ok a, t) := rfl

theorem on_get : (get : Action Terminal).on t = (.ok t, t) := rfl

theorem on_bind_ok (h : x.on t = (.ok a, u)) : (x >>= f).on t = (f a).on u := by
  rw [on] at h
  rw [on, ExceptT.run_bind, StateT.run_bind, h]
  rfl

theorem on_bind_error (h : x.on t = (.error e, u)) : (x >>= f).on t = (.error e, u) := by
  rw [on] at h
  rw [on, ExceptT.run_bind, StateT.run_bind, h]
  rfl

theorem on_echoAll (lines : List String) : (echoAll lines).on t = (.ok (), t.shown (echoed lines)) := by
  rw [← plain_lines]
  rfl

theorem on_echo (line : String) : (echo line).on t = (.ok (), t.shown (echoed [line])) := by
  have hLine := on_echoAll [line] (t := t)
  rw [echoAll, List.map_cons, List.map_nil, String.join_cons, String.join_nil, String.append_empty] at hLine
  exact hLine

theorem on_complain (text : String) : (complain text).on t = (.ok (), t.complained (Text.plain text)) := rfl

theorem on_logged (x : Logged α) : (logged x).on t = (.ok x.value, t.logged x.records) := rfl

theorem on_orFail_ok (line : ε → String) : (orFail line (.ok a : Except ε α)).on t = (.ok a, t) := rfl

theorem on_files : files.on t = (.ok t.output.files, t) := rfl

end Action

end PageCheck.Cli
