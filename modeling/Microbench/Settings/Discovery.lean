import Microbench.Settings.File

/-!
# Finding the settings file

The settings are those of the nearest directory, from the current one upwards, that has a settings
file. A file that cannot be read counts as found and leaves all settings at their defaults.
-/

namespace Microbench

/-- What the search for a settings file came to. -/
inductive Discovery where
  | none
  | found (settings : SettingsFile)
  /-- The nearest file is no good. -/
  | ignored (path : String) (error : SettingsError)

namespace Discovery

/-- The settings to go by. -/
def settings? : Discovery → Option SettingsFile
  | found c => some c
  | _ => Option.none

/-- What is wrong with a file, in words. -/
def errorText : SettingsError → String
  | .io e => e.message
  | .malformed => "not a settings file"

/-- What the user is told about a file that is no good. -/
def warning? : Discovery → Option String
  | ignored path e => some ("isobench: warning: ignoring " ++ path ++ ": " ++ errorText e ++ "\n")
  | _ => Option.none

/-- Looks in the given directories, in order. -/
def search : List String → StateM Disk Discovery
  | [] => pure none
  | directory :: rest => do
    let path := Path.join directory SettingsFile.fileName
    if (← get).holds path then
      match ← Access.loadSettings path with
      | .ok c => pure (found c)
      | .error e => pure (ignored path e)
    else search rest

/-- Looks from the current directory upwards. -/
def fromHere : StateM Disk Discovery := do
  let here := Path.ofNames true (← get).here
  search (here :: Path.ancestors here)

end Discovery

end Microbench
