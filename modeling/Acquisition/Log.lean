/-
# Acquisition.Log — what the library reports while it works

A `LogLine` is a level and a text. Operations hand their lines back, oldest first;
nothing is printed by the library.
-/

namespace Acquisition

set_option autoImplicit false

/-- How serious a line is. -/
inductive LogLevel where
  | error
  | warn
  | info
  | debug
  | trace
  deriving DecidableEq

/-- The word for a level. -/
def LogLevel.name : LogLevel → String
  | .error => "ERROR"
  | .warn => "WARN"
  | .info => "INFO"
  | .debug => "DEBUG"
  | .trace => "TRACE"

/-- One line of the log. -/
structure LogLine where
  level : LogLevel
  text : String
  deriving DecidableEq

/-- The line with its level in front. -/
def LogLine.render (line : LogLine) : String :=
  s!"{line.level.name} {line.text}"

end Acquisition
