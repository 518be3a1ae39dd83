/-
# Acquisition.Main — the program

Prints what a run comes to, and nothing else: lines on standard output, what was
wrong on standard error, and the exit code.
-/

import Acquisition.Program.Run

set_option autoImplicit false

open Acquisition.Program in
/-- Samples a simulated part as the command line asks. -/
def main (arguments : List String) : IO UInt32 := do
  let report := answer arguments
  for line in report.lines do
    IO.println line
  match report.failure with
  | some failure => IO.eprintln s!"Error: {failure}"
  | none => pure ()
  return report.exitCode
