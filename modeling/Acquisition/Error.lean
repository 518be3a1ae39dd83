/-
# Acquisition.Error — why an operation of a session is refused

Every refusal is one of eight causes. `message` is the sentence for a reader,
`errno` the negative number for a caller that knows only numbers, and `name` the
short word for the cause.
-/

import Acquisition.Spi.Fault

namespace Acquisition

set_option autoImplicit false

/-- The causes for which an operation is refused. -/
inductive Error where
  | again
  | notSupported
  | invalid
  | probeDefer
  | busy
  | exists
  | noDevice
  | transport (fault : Spi.Fault)
  deriving DecidableEq

namespace Error

/-- Every cause, once. -/
def all : List Error :=
  [.again, .notSupported, .invalid, .probeDefer, .busy, .exists, .noDevice] ++
    Spi.Fault.all.map .transport

theorem mem_all (error : Error) : error ∈ all := by
  cases error with
  | transport fault => simp [all, Spi.Fault.mem_all]
  | _ => simp [all]

/-- The sentence for a cause. -/
def message : Error → String
  | .again => "resource temporarily unavailable, try again"
  | .notSupported => "operation not supported"
  | .invalid => "invalid argument"
  | .probeDefer => "probe deferred, a dependency is not ready yet"
  | .busy => "device or resource busy"
  | .exists => "already exists"
  | .noDevice => "no such device"
  | .transport fault => s!"bus transfer failed: {fault.message}"

/-- The number for a cause. -/
def errno : Error → Int
  | .again => -11
  | .notSupported => -22
  | .invalid => -22
  | .probeDefer => -517
  | .busy => -16
  | .exists => -17
  | .noDevice => -19
  | .transport _ => -5

/-- The short word for a cause; a failed transfer names its kind in brackets. -/
def name : Error → String
  | .again => "Again"
  | .notSupported => "NotSupported"
  | .invalid => "Invalid"
  | .probeDefer => "ProbeDefer"
  | .busy => "Busy"
  | .exists => "Exists"
  | .noDevice => "NoDevice"
  | .transport fault => s!"Transport({fault.name})"

end Error

end Acquisition
