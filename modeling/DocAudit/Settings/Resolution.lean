import DocAudit.FileTree
import DocAudit.Settings.Format
import DocAudit.Settings.Validity
import DocAudit.Toml.Reader

/-!
# Settings of a set of pages

A set says in a file where it differs from the stock settings.  What the file says is laid over the
stock settings, key by key; lists are replaced as a whole.  The result is read and must be valid.
-/

namespace DocAudit

/-- Why there are no settings: the file cannot be read, it is not TOML or does not have the form of
settings, or the settings have a fault. -/
inductive SettingsError where
  | unreadable
  | malformed
  | invalid (fault : SettingsFault)
  deriving DecidableEq, Repr

/-- What is said about settings with a fault. -/
def SettingsError.message? : SettingsError → Option String
  | invalid fault => some ("Config validation error: " ++ fault.message)
  | _ => none

namespace Settings

/-- The name of the file with the settings, at the root of a set. -/
def fileName : String := "apidocs.toml"

/-- The settings with a value laid over the stock settings. -/
def resolve (overlay : Toml.Value) : Except SettingsError Settings :=
  match ofToml? (stock.toToml.overlay overlay) with
  | none => .error .malformed
  | some settings =>
    match settings.fault? with
    | some fault => .error (.invalid fault)
    | none => .ok settings

/-- The settings that the text of a file gives. -/
def read (text : String) : Except SettingsError Settings :=
  match Toml.Value.read? text.toList with
  | some overlay => resolve overlay
  | none => .error .malformed

/-- The settings that a file gives, or the stock settings without a file. -/
def ofEntry (entry : Option FileTree) : Except SettingsError Settings :=
  match entry with
  | none => resolve (.table [])
  | some tree =>
    match tree.bytes?.bind String.fromUTF8? with
    | some text => read text
    | none => .error .unreadable

end Settings

end DocAudit
