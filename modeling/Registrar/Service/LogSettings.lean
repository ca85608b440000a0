/-
  This file defines the settings of a log: which messages it
  takes, where they go and how they look.  Settings are changed
  one at a time, and each is what it was set to last.

  Key definitions include:
    * `LogTarget`
    * `LogFormat`
    * `LogSettings`
    * `LogChange`
    * `LogSettings.changedBy`

  Main statements:
    * `LogSettings.changedBy_eq`
    * `LogSettings.changedBy_congr`
-/

------------------------------------------------------------
-- Log Settings
------------------------------------------------------------

namespace Registrar

/- Where messages go. -/
inductive LogTarget where
| console
| file (path : String)
| both (path : String)
deriving DecidableEq, Repr

/- How messages look. -/
inductive LogFormat where
| pretty
| compact
deriving DecidableEq, Repr

/- What a log takes, where it goes and how it looks. -/
structure LogSettings where
  level : String
  target : LogTarget
  format : LogFormat
deriving DecidableEq, Repr

namespace LogSettings

/- Single lines on the console, from the level `info` up. -/
def info : LogSettings :=
  ⟨"info", .console, .compact⟩

/- Another level. -/
def withLevel
    (settings : LogSettings)
    (level : String) : LogSettings :=
  { settings with level := level }

/- Messages go to a file only. -/
def withFile
    (settings : LogSettings)
    (path : String) : LogSettings :=
  { settings with target := .file path }

/- Messages go to the console and to a file. -/
def withBoth
    (settings : LogSettings)
    (path : String) : LogSettings :=
  { settings with target := .both path }

/- Another look. -/
def withFormat
    (settings : LogSettings)
    (format : LogFormat) : LogSettings :=
  { settings with format := format }

/- Row counts of each step, too. -/
def debug : LogSettings :=
  info.withLevel "debug"

/- Every computed value, too. -/
def trace : LogSettings :=
  info.withLevel "trace"

end LogSettings

------------------------------------------------------------
-- Changes
------------------------------------------------------------

/- A change of one of the settings. -/
inductive LogChange where
| level (level : String)
| file (path : String)
| both (path : String)
| format (format : LogFormat)
deriving DecidableEq, Repr

namespace LogChange

/- The level that a change sets, if it sets one. -/
def level? : LogChange → Option String
| .level name => some name
| _ => none

/- The target that a change sets, if it sets one. -/
def target? : LogChange → Option LogTarget
| .file path => some (.file path)
| .both path => some (.both path)
| _ => none

/- The format that a change sets, if it sets one. -/
def format? : LogChange → Option LogFormat
| .format look => some look
| _ => none

end LogChange

namespace LogSettings

/- The settings after one change. -/
def changed (settings : LogSettings) : LogChange → LogSettings
| .level level => settings.withLevel level
| .file path => settings.withFile path
| .both path => settings.withBoth path
| .format format => settings.withFormat format

/- The settings after several changes, the first one first. -/
def changedBy
    (settings : LogSettings)
    (changes : List LogChange) : LogSettings :=
  changes.foldl changed settings

/- One change sets what it speaks of and keeps the rest. -/
theorem changed_eq
    (settings : LogSettings)
    (change : LogChange) :
    settings.changed change =
      ⟨change.level?.getD settings.level,
        change.target?.getD settings.target,
        change.format?.getD settings.format⟩ := by
  cases change <;> rfl

/- A first value counts only if no other follows. -/
private theorem getLast?_filterMap_cons
    {α β : Type}
    (f : α → Option β)
    (entry : α)
    (rest : List α)
    (old : β) :
    (((entry :: rest).filterMap f).getLast?).getD old =
      ((rest.filterMap f).getLast?).getD
        ((f entry).getD old) := by
  rw [List.filterMap_cons]
  cases f entry <;> simp [List.getLast?_cons]

/-
  After any changes each of the settings is as the last change
  that speaks of it says, or as it was if none does.
-/
theorem changedBy_eq
    (settings : LogSettings)
    (changes : List LogChange) :
    settings.changedBy changes =
      ⟨((changes.filterMap LogChange.level?).getLast?).getD
          settings.level,
        ((changes.filterMap LogChange.target?).getLast?).getD
          settings.target,
        ((changes.filterMap LogChange.format?).getLast?).getD
          settings.format⟩ := by
  -- the settings after the first change are those the rest finds
  induction changes generalizing settings with
  | nil => rfl
  | cons change rest ih =>
      have hFirst : settings.changedBy (change :: rest) =
          (settings.changed change).changedBy rest := rfl
      rw [hFirst, ih, changed_eq]
      simp only [getLast?_filterMap_cons]

/- Changes of different settings may be made in any order. -/
theorem changedBy_congr
    {changes others : List LogChange}
    (settings : LogSettings)
    (hLevels : changes.filterMap LogChange.level? =
      others.filterMap LogChange.level?)
    (hTargets : changes.filterMap LogChange.target? =
      others.filterMap LogChange.target?)
    (hFormats : changes.filterMap LogChange.format? =
      others.filterMap LogChange.format?) :
    settings.changedBy changes = settings.changedBy others := by
  rw [changedBy_eq, changedBy_eq, hLevels, hTargets, hFormats]

end LogSettings

end Registrar
