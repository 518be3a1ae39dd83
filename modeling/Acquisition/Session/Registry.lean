/-
# Acquisition.Session.Registry — making devices visible

Registering a device gives it the next number; no number is given twice. Taking a
device out of the registry stops its capture; if the trigger refuses to stop, the
device is out of the registry but keeps its number.
-/

import Acquisition.Session.Capture

namespace Acquisition.Session

set_option autoImplicit false

variable {F H : Type}

/-- Registers a device under the next number. -/
def register (session : Session F H) (id : DeviceId) : Except Error Nat × Session F H :=
  match session.device? id with
  | none => (.error .noDevice, session)
  | some device =>
      if session.listed.contains id then (.error .exists, session)
      else
        let number := session.nextNumber
        let session := session.modifyDevice id fun device => { device with number := some number }
        (.ok number,
          { session with
            listed := session.listed ++ [id]
            nextNumber := number + 1 }.report
              [⟨.info, s!"{device.name}: registered as iio:device{number}"⟩])

/-- Takes a device out of the registry and stops its capture. -/
def unregister (session : Session F H) (id : DeviceId) : Except Error Unit × Session F H :=
  if !session.listed.contains id then (.error .noDevice, session)
  else
    match { session with listed := session.listed.erase id }.disable id with
    | (.error error, session) => (.error error, session)
    | (.ok (), session) =>
        (.ok (), session.modifyDevice id fun device => { device with number := none })

/-- The oldest registered device of a name. -/
def find? (session : Session F H) (name : String) : Option DeviceId :=
  session.listed.find? fun id => (session.device? id).any fun device => device.name == name

/-- Reads an attribute of the channel at a position of the device's channels. -/
def read [Provider F H] (session : Session F H) (id : DeviceId) (position : Nat)
    (asked : Attribute) : Option (Except Error Value × Session F H) :=
  match (session.device? id).bind fun device =>
      (device.channels[position]?).map fun channel => (device, channel) with
  | none => some (.error .invalid, session)
  | some (device, channel) =>
      if !channel.supports asked then some (.error .notSupported, session)
      else
        (Provider.read session.supplies channel asked device.provider).map
          fun (result, provider) =>
            (result, (session.note (.read id channel asked)).modifyDevice id
              fun device => { device with provider })

end Acquisition.Session
