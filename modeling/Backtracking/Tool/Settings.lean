import Backtracking.Limits
import Backtracking.Text.Utf8
import Backtracking.Toml.Document
import Backtracking.Tool.FileTree

/-!
# Settings

The settings of the tool are read from a file, a TOML document with the tables `limits` and
`search`.  Both tables and all of their entries may be left out; entries that are not known are
refused.  A table may also be given as an array of its values in their order.
-/

namespace Backtracking

namespace Tool

/-- The settings of the tool.  Color is for terminals, and plain output does not depend on it. -/
structure Settings where
  limits : Limits := {}
  lineNumbers : Bool := false
  color : Bool := true
deriving DecidableEq

inductive SettingsError where
  | unreadable (error : FileError)
  | invalidText
  | invalidDocument
  | unknownKey (key : String)
  | wrongValue (key : String)
deriving DecidableEq

def SettingsError.message : SettingsError → String
  | .unreadable error => error.message
  | .invalidText => "the file is not UTF-8 text"
  | .invalidDocument => "the file is not a TOML document"
  | .unknownKey key => "unknown key " ++ key
  | .wrongValue key => "wrong value for " ++ key

namespace Settings

/-- The value of a setting that is a natural number. -/
def natural (key : String) : Toml.Value → Except SettingsError Nat
  | .integer value => if value < 0 then .error (.wrongValue key) else .ok value.toNat
  | _ => .error (.wrongValue key)

/-- The value of a setting that is true or false. -/
def truth (key : String) : Toml.Value → Except SettingsError Bool
  | .boolean value => .ok value
  | _ => .error (.wrongValue key)

def setLimit (settings : Settings) (entry : String × Toml.Value) :
    Except SettingsError Settings := do
  let limits := settings.limits
  match entry.1 with
  | "max_depth" =>
      let depth ← natural entry.1 entry.2
      return { settings with limits := { limits with maxDepth := depth } }
  | "max_steps" =>
      let steps ← natural entry.1 entry.2
      return { settings with limits := { limits with maxSteps := some steps } }
  | key => throw (.unknownKey key)

def setSearch (settings : Settings) (entry : String × Toml.Value) :
    Except SettingsError Settings := do
  match entry.1 with
  | "line_numbers" => return { settings with lineNumbers := ← truth entry.1 entry.2 }
  | "color" => return { settings with color := ← truth entry.1 entry.2 }
  | key => throw (.unknownKey key)

/-- The settings with one table set.  An array of limits may end early, one of search settings may
not; what comes after the known values is ignored. -/
def setTable (settings : Settings) (entry : String × Toml.Value) :
    Except SettingsError Settings := do
  match entry with
  | ("limits", .table _ entries) => entries.foldlM setLimit settings
  | ("limits", .array items) => (["max_depth", "max_steps"].zip items).foldlM setLimit settings
  | ("search", .table _ entries) => entries.foldlM setSearch settings
  | ("search", .array items) =>
      if items.length < 2 then throw (.wrongValue "search")
      else (["line_numbers", "color"].zip items).foldlM setSearch settings
  | ("limits", _) => throw (.wrongValue "limits")
  | ("search", _) => throw (.wrongValue "search")
  | (key, _) => throw (.unknownKey key)

def ofBytes (content : ByteArray) : Except SettingsError Settings :=
  match Utf8.decode? content with
  | none => .error .invalidText
  | some text =>
      match Toml.Document.parse? text with
      | none => .error .invalidDocument
      | some entries => entries.foldlM setTable {}

def ofTree : FileTree → Except SettingsError Settings
  | .file content => ofBytes content
  | .unreadable error => .error (.unreadable error)
  | .directory _ => .error (.unreadable .isDirectory)

end Settings

end Tool

end Backtracking
