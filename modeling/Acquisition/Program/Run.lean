/-
# Acquisition.Program.Run — what the program prints

The program binds a simulated part whose inputs are spread evenly over twice the
reference. It prints the scale, then the raw code of every input, then scans of the
wanted inputs in millivolts, one value per input in ascending order. A `Report` holds
the lines printed, what was wrong if anything was, and the exit code.
-/

import Acquisition.Program.Arguments
import Acquisition.Recording

namespace Acquisition.Program

open Acquisition.Converter (Part Profile SimulatedPart)

set_option autoImplicit false

/-- What a run of the program comes to. -/
structure Report where
  lines : List String := []
  /-- What was wrong. -/
  failure : Option String := none
  exitCode : UInt32 := 0
  deriving DecidableEq

/-- What was wrong, without the blanks at the end of it. -/
def Report.message (report : Report) : Option String :=
  report.failure.map Text.trimEnd

/-- The exit code of a run that failed. -/
def exitFailure : UInt32 := 1

/-- The exit code when the command line is refused. -/
def exitRefused : UInt32 := 2

/-- The exit code when the part broke down. -/
def exitBroken : UInt32 := 101

/-- A run that failed after printing some lines. -/
def Report.failed (lines : Array String) (failure : String) : Report :=
  { lines := lines.toList, failure := some failure, exitCode := exitFailure }

/-- A run in which the part broke down after printing some lines. -/
def Report.broken (lines : Array String) : Report :=
  { lines := lines.toList, exitCode := exitBroken }

/-- The voltages of the inputs, evenly spread over twice the reference, each kept in
thirty-two bits. -/
def spread (inputs : Nat) (reference : Int) : List Int :=
  let step := (reference * 2).tdiv (inputs + 1)
  (List.range inputs).map fun (input : Nat) => (Int32.ofInt (step * ((input : Int) + 1))).toInt

/-- The part with its inputs spread. -/
def simulated (part : Part) (reference : Int) : SimulatedPart :=
  { part, voltages := spread part.inputs reference, reference }

/-- Puts a number into a list that strictly ascends, unless it is there. -/
def insertDistinct (number : Nat) : List Nat → List Nat
  | [] => [number]
  | head :: rest =>
      if number < head then number :: head :: rest
      else if number = head then head :: rest
      else head :: insertDistinct number rest

/-- The distinct numbers of a list in ascending order. -/
def sortDistinct (numbers : List Nat) : List Nat :=
  numbers.foldr insertDistinct []

/-- The inputs to capture, in ascending order: those named, or all. -/
def wanted (part : Part) (channels : List Nat) : List Nat :=
  sortDistinct (if channels.isEmpty then List.range part.inputs else channels)

/-- Reads the raw codes of channels in order and prints them. The codes already printed
are kept if the part breaks down or a read is refused. -/
def printRaw : List Channel → Bench → Array String → Except Report (Array String × Bench)
  | [], bench, lines => .ok (lines, bench)
  | channel :: rest, bench, lines =>
      match bench.binding.read bench.session channel.number .raw with
      | none => .error (.broken lines)
      | some (.error error, _) => .error (.failed lines error.message)
      | some (.ok raw, session) =>
          printRaw rest { bench with session }
            (lines.push s!"{channel.text}_raw ({channel.name}): {raw.text}")

/-- The channel of an input. -/
def channelAt? (channels : List Channel) (input : Nat) : Option Channel :=
  channels[input]?

/-- A sample in millivolts with one decimal place. -/
def millivolts (scale : Value) (channel : Channel) (sample : UInt16) : String :=
  Decimal.ofFloat 1 (Float.ofNat (channel.format.decode sample).toNat * scale.toFloat)

/-- The values of a scan, one per input. -/
def columns (scale : Value) (channels : List Channel) (inputs : List Nat) (scan : Scan) :
    List String :=
  (inputs.zip scan.samples).filterMap fun (input, sample) =>
    (channelAt? channels input).map fun channel => millivolts scale channel sample

/-- The line of a scan: its time, right-aligned, and its values. -/
def scanLine (scan : Scan) (values : List String) : String :=
  let time := toString (scan.timestamp.getD 0).toInt
  let row := String.intercalate " " values
  s!"{Text.alignRight 14 time} ns: {row}"

/-- Prints so many scans as the timer delivers them. -/
def printScans (scale : Value) (channels : List Channel) (inputs : List Nat) (edge : Nat) :
    Nat → Bench → Array String → Except Report (Array String × Bench)
  | 0, bench, lines => .ok (lines, bench)
  | count + 1, bench, lines =>
      match bench.next edge with
      | none => .error (.broken lines)
      | some (none, _) => .error (.failed lines "timed out waiting for a scan")
      | some (some scan, bench) =>
          printScans scale channels inputs (edge + 1) count bench
            (lines.push (scanLine scan (columns scale channels inputs scan)))

/-- The voltage channels of a part. -/
def voltages (part : Part) : List Channel :=
  (channelsOf part).filter fun channel => channel.kind == .voltage

/-- Captures and prints the wanted inputs. -/
def capture (options : Options) (part : Part) (scale : Value) (bench : Bench)
    (lines : Array String) : Except Report Report :=
  let inputs := wanted part options.channels
  match inputs.find? fun input => part.inputs ≤ input with
  | some input => .error (.failed lines s!"{part.deviceId} has no input {input}")
  | none => do
      let refuse (error : Error) : Report := .failed lines error.message
      let bench ← (bench.setFrequency options.frequency).mapError refuse
      let bench ←
        match bench.enable inputs true with
        | none => .error (.broken lines)
        | some enabled => enabled.mapError refuse
      let (lines, bench) ←
        printScans scale (channelsOf part) inputs 1 options.scans bench lines
      match (bench.finish []).stopped with
      | .error error => .error (.failed lines error.message)
      | .ok () => .ok { lines := lines.toList }

/-- The line that says what is measured. -/
def header (bench : Bench) (part : Part) (scale : Value) : String :=
  let name := ((bench.session.device? bench.binding.device).bind Device.registeredName?).getD ""
  s!"{part.deviceId} ({name}), scale {scale.text} mV"

/-- Runs the program. -/
def run (options : Options) : Report :=
  match Part.ofDeviceId? options.part with
  | none => .failed #[] s!"unknown chip {options.part}"
  | some part =>
      match Bench.start (simulated part options.reference) with
      | .error error => .failed #[] error.message
      | .ok bench =>
          match bench.binding.read bench.session 0 .scale with
          | none => .broken #[]
          | some (.error error, _) => .failed #[] error.message
          | some (.ok scale, session) =>
              let bench := { bench with session }
              let outcome := do
                let (lines, bench) ←
                  printRaw (voltages part) bench #[header bench part scale]
                capture options part scale bench lines
              match outcome with
              | .ok report => report
              | .error report => report

/-- What the program says about its options. -/
def helpLines : List String :=
  ["Sample a simulated ADS79xx through the IIO driver",
   "",
   "Usage: main [OPTIONS]",
   "",
   "Options:",
   "      --chip <CHIP>            Device id of the simulated part [default: ti-ads7950]",
   "      --channels <CHANNELS>    Inputs to capture in buffered mode. Defaults to all of them",
   "      --frequency <FREQUENCY>  Trigger frequency in Hz [default: 100]",
   "      --scans <SCANS>          Number of buffered scans to print [default: 10]",
   "      --vref <VREF>            Reference voltage in microvolts [default: 2500000]",
   "  -h, --help                   Print help"]

/-- Answers a command line. -/
def respond : Request → Report
  | .run options => run options
  | .help => { lines := helpLines }
  | .refused => { exitCode := exitRefused }

/-- Answers the arguments of a command line. -/
def answer (arguments : List String) : Report :=
  respond (.ofArguments arguments)

end Acquisition.Program
