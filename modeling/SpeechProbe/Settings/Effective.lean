import SpeechProbe.CommandLine
import SpeechProbe.Settings.Load

/-!
# The settings of a run

A command line goes over the variables, these over the settings file, and that over the
defaults.  What is loaded has to be usable as it stands, and what the line makes of it too.
-/

namespace SpeechProbe

/-- The settings themselves, if they can be used. -/
def Settings.admitted (settings : Settings) : Except SettingsError Settings := do
  settings.check
  return settings

/-- The settings a command line runs with, over the first candidate file that exists, in whatever
format, and the variables. -/
def CommandLine.settle (line : CommandLine) (file : Option (Option FileFormat × String))
    (environment : List (String × String)) : Except Halt (Except SettingsError Settings) :=
  match Settings.load line.config file environment with
  | .error halt => .error halt
  | .ok (.error e) => .ok (.error e)
  | .ok (.ok loaded) => .ok (line.apply loaded).admitted

end SpeechProbe
