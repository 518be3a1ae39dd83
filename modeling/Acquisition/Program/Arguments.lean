/-
# Acquisition.Program.Arguments — the command line

Every option is long and takes one value, given after an equals sign or as the next
argument. An argument that begins with a dash is an option and never a value, a lone
dash excepted. `--channels` may be repeated and takes several numbers separated by
commas; every other option may be given once. `--` ends the options, and nothing may
follow it. A value is looked at when the next option, or the end, is reached, so a
call for help before that is answered and one after a value in error is not.

Numbers are decimal with an optional sign. Most are read as signed numbers of
sixty-four bits first, so that minus zero is zero; the count of scans is read without
a sign other than plus.
-/

import Acquisition.Power

namespace Acquisition.Program

set_option autoImplicit false

/-- What the program is asked to do. -/
structure Options where
  /-- The identifier of the part. -/
  part : String := "ti-ads7950"
  /-- The inputs to capture; none stands for all. -/
  channels : List Nat := []
  /-- Scans in a second. -/
  frequency : Nat := 100
  /-- How many scans to print. -/
  scans : Nat := 10
  /-- The reference, in microvolts. -/
  reference : Int := 2500000
  deriving DecidableEq

/-- The options of the command line. -/
inductive Name where
  | chip
  | channels
  | frequency
  | scans
  | vref
  deriving DecidableEq

/-- Every option. -/
def Name.all : List Name :=
  [.chip, .channels, .frequency, .scans, .vref]

/-- An option as it is written, without its dashes. -/
def Name.text : Name → String
  | .chip => "chip"
  | .channels => "channels"
  | .frequency => "frequency"
  | .scans => "scans"
  | .vref => "vref"

/-- Reads the name of an option. -/
def Name.ofText? (text : String) : Option Name :=
  Name.all.find? fun name => name.text == text

/-- What a command line comes to. -/
inductive Request where
  | run (options : Options)
  | help
  | refused
  deriving DecidableEq

/-- Reads decimal digits, at least one. -/
def digits? (chars : List Char) : Option Nat :=
  if chars.isEmpty then none
  else
    chars.foldlM
      (fun (number : Nat) char =>
        if '0' ≤ char ∧ char ≤ '9' then some (number * 10 + (char.toNat - '0'.toNat)) else none)
      0

/-- Reads a number that may have a plus in front, below a bound. -/
def unsigned? (bound : Nat) (text : String) : Option Nat :=
  let read :=
    match text.toList with
    | '+' :: rest => digits? rest
    | chars => digits? chars
  read.filter fun number => number < bound

/-- Reads a signed number between two bounds, both included. -/
def signed? (low high : Int) (text : String) : Option Int :=
  let read : Option Int :=
    match text.toList with
    | '+' :: rest => (digits? rest).map Int.ofNat
    | '-' :: rest => (digits? rest).map fun number => -Int.ofNat number
    | chars => (digits? chars).map Int.ofNat
  read.filter fun number => low ≤ number && number ≤ high

/-- Reads a number from zero up to thirty-two bits. -/
def word? (text : String) : Option Nat :=
  (signed? 0 (2 ^ (32 : Nat) - 1) text).map Int.toNat

/-- Cuts a text at every comma. -/
def splitCommas : List Char → List (List Char)
  | [] => [[]]
  | char :: rest =>
      match splitCommas rest with
      | [] => [[char]]
      | piece :: pieces =>
          if char = ',' then [] :: piece :: pieces else (char :: piece) :: pieces

/-- Options read so far, which of them were given, and the one that waits for a value
or whose value has not been looked at. -/
structure Progress where
  options : Options := {}
  given : List Name := []
  pending : Option (Name × Option String) := none

namespace Progress

/-- Takes over the value of an option. -/
def accept (options : Options) (name : Name) (value : String) : Option Options :=
  match name with
  | .chip => some { options with part := value }
  | .channels =>
      ((splitCommas value.toList).mapM fun piece => word? (String.ofList piece)).map
        fun numbers => { options with channels := options.channels ++ numbers }
  | .frequency => (word? value).map fun frequency => { options with frequency }
  | .scans => (unsigned? (2 ^ (64 : Nat)) value).map fun scans => { options with scans }
  | .vref =>
      (signed? (-2 ^ (31 : Nat)) (2 ^ (31 : Nat) - 1) value).map fun reference =>
        { options with reference }

/-- Gives an option its value, once. -/
def give (progress : Progress) (name : Name) (value : String) : Option Progress :=
  if name ≠ .channels ∧ name ∈ progress.given then none
  else
    (accept progress.options name value).map fun options =>
      { progress with options, given := name :: progress.given }

/-- Looks at the value of the option that waits for it. -/
def settle (progress : Progress) : Option Progress :=
  match progress.pending with
  | none => some progress
  | some (_, none) => none
  | some (name, some value) => { progress with pending := none }.give name value

/-- The end of the arguments. -/
def conclude (progress : Progress) : Request :=
  match progress.settle with
  | none => .refused
  | some progress => .run progress.options

end Progress

/-- What an argument looks like. -/
inductive Argument where
  /-- The end of the options. -/
  | stop
  /-- A long option, with the value after its equals sign. -/
  | long (name : String) (value : Option String)
  /-- Options of one letter, by the first of them. -/
  | short (letter : Char)
  | plain (text : String)
  deriving DecidableEq

/-- Tells what an argument looks like. -/
def Argument.ofText (text : String) : Argument :=
  match text.toList with
  | ['-', '-'] => .stop
  | '-' :: '-' :: rest =>
      let name := String.ofList (rest.takeWhile (· ≠ '='))
      match rest.dropWhile (· ≠ '=') with
      | [] => .long name none
      | _ :: value => .long name (some (String.ofList value))
  | '-' :: letter :: _ => .short letter
  | _ => .plain text

/-- Reads arguments in order. -/
def readArguments : List String → Progress → Request
  | [], progress => progress.conclude
  | text :: rest, progress =>
      match Argument.ofText text with
      | .stop => if rest.isEmpty then progress.conclude else .refused
      | .short letter =>
          if letter = 'h' then
            match progress.settle with
            | some _ => .help
            | none => .refused
          else .refused
      | .long word value =>
          if word = "help" then
            match value, progress.settle with
            | none, some _ => .help
            | _, _ => .refused
          else
            match Name.ofText? word, progress.settle with
            | some name, some progress =>
                match value with
                | none => readArguments rest { progress with pending := some (name, none) }
                | some value =>
                    match progress.give name value with
                    | none => .refused
                    | some progress => readArguments rest progress
            | _, _ => .refused
      | .plain text =>
          match progress.pending with
          | some (name, none) =>
              readArguments rest { progress with pending := some (name, some text) }
          | _ => .refused

/-- What a command line asks for. -/
def Request.ofArguments (arguments : List String) : Request :=
  readArguments arguments {}

end Acquisition.Program
