/-
# Acquisition.Session.Capture — switching a capture on and off

A device can be captured once it has a handler and a trigger. Starting a capture
asks, in this order: is none on, is there a handler, is there a trigger, does every
index of the mask have a channel and one of them a sample, does the provider agree,
does the trigger start. Whatever was done before the answer was no stays done, but
for the trigger, which is left without a consumer. Stopping marks the capture as off
before it asks the trigger to stop; a trigger that refuses keeps its consumer.
-/

import Acquisition.Session.Basic

namespace Acquisition.Session

set_option autoImplicit false

variable {F H : Type}

/-- Notes that a trigger is asked to start or to stop, if it has a hook to ask. -/
def noteSwitch (session : Session F H) (id : TriggerId) (trigger : Trigger) (on : Bool) :
    Session F H :=
  if trigger.isHooked then session.note (.switch id on) else session

/-- Starts a trigger; `none` if its timer broke down. -/
def startTrigger (session : Session F H) (id : TriggerId) :
    Option (Except Error Unit × Session F H) :=
  match session.trigger? id with
  | none => some (.ok (), session)
  | some trigger =>
      trigger.start.map fun (result, started) =>
        (result, (session.noteSwitch id trigger true).modifyTrigger id fun _ => started)

/-- Stops a trigger. -/
def stopTrigger (session : Session F H) (id : TriggerId) : Except Error Unit × Session F H :=
  match session.trigger? id with
  | none => (.ok (), session)
  | some trigger =>
      let done := trigger.stop
      (done.1, (session.noteSwitch id trigger false).modifyTrigger id fun _ => done.2)

/-- Gives a device the handler of its edges; it can have one. -/
def setup (session : Session F H) (id : DeviceId) (handler : H) :
    Except Error Unit × Session F H :=
  match session.device? id with
  | none => (.error .noDevice, session)
  | some device =>
      if device.handler.isSome then (.error .busy, session)
      else (.ok (), session.modifyDevice id fun device => { device with handler := some handler })

/-- Gives a device a trigger, there to stay. -/
def pinTrigger (session : Session F H) (id : DeviceId) (trigger : TriggerId) : Session F H :=
  session.modifyDevice id fun device => { device with trigger := some trigger, pinned := true }

/-- Gives a device a trigger, unless it has one to stay or is being captured. -/
def setTrigger (session : Session F H) (id : DeviceId) (trigger : TriggerId) :
    Except Error Unit × Session F H :=
  match session.device? id with
  | none => (.error .noDevice, session)
  | some device =>
      if device.pinned || device.capturing then (.error .busy, session)
      else (.ok (), session.modifyDevice id fun device => { device with trigger := some trigger })

/-- Stops a capture, if one is on. -/
def disable (session : Session F H) (id : DeviceId) : Except Error Unit × Session F H :=
  match session.device? id with
  | none => (.error .noDevice, session)
  | some device =>
      if !device.capturing then (.ok (), session)
      else
        let session := session.modifyDevice id fun device => { device with capturing := false }
        match device.trigger with
        | none => (.ok (), session)
        | some trigger =>
            match session.stopTrigger trigger with
            | (.error error, session) => (.error error, session)
            | (.ok (), session) => (.ok (), session.modifyTrigger trigger Trigger.detach)

/-- Stops a capture and takes the handler away. -/
def cleanup (session : Session F H) (id : DeviceId) : Session F H :=
  match session.device? id with
  | none => session
  | some device =>
      let done := session.disable id
      let session :=
        match done.1 with
        | .ok () => done.2
        | .error error =>
            done.2.report [⟨.warn, s!"{device.name}: failed to disable buffer: {error.message}"⟩]
      session.modifyDevice id fun device => { device with handler := none }

/-- Starts a capture of the channels of a mask; `none` if the trigger broke down. -/
def enable [Provider F H] (session : Session F H) (id : DeviceId) (mask : ScanMask) :
    Option (Except Error Unit × Session F H) :=
  match session.device? id with
  | none => some (.error .noDevice, session)
  | some device =>
    if device.capturing then some (.error .busy, session)
    else if device.handler.isNone then some (.error .invalid, session)
    else
      match device.trigger, RecordLayout.ofMask? device.channels mask with
      | none, _ => some (.error .invalid, session)
      | some _, none => some (.error .invalid, session)
      | some trigger, some layout =>
          let session := session.note (.program id mask)
          match Provider.program mask device.provider with
          | (.error error, provider) =>
              some (.error error, session.modifyDevice id fun device => { device with provider })
          | (.ok (), provider) =>
              let session := session.modifyDevice id fun device =>
                { device with
                  provider
                  buffer := device.buffer.configure layout
                  mask
                  capturing := true }
              let session := session.modifyTrigger trigger fun trigger => trigger.attach id
              (session.startTrigger trigger).map fun
                | (.error error, session) =>
                    let session := session.modifyTrigger trigger Trigger.detach
                    (.error error,
                      session.modifyDevice id fun device => { device with capturing := false })
                | (.ok (), session) =>
                    (.ok (), session.report
                      [⟨.debug, s!"{device.name}: buffer enabled, {mask.count} scan elements"⟩])

/-- Pushes a scan into the buffer of a device. -/
def push (session : Session F H) (id : DeviceId) (samples : List UInt16) (time : Int64) :
    Session F H :=
  match session.device? id with
  | none => session
  | some device =>
      let done := device.push samples time
      (session.modifyDevice id fun _ => done.1).report done.2

/-- Takes the oldest scan out of the buffer of a device. -/
def readScan (session : Session F H) (id : DeviceId) : Option Scan × Session F H :=
  match (session.device? id).bind fun device => device.buffer.popScan? with
  | none => (none, session)
  | some (scan, buffer) => (some scan, session.modifyDevice id fun device => { device with buffer })

/-- Takes every scan out of the buffer of a device. -/
def readAll (session : Session F H) (id : DeviceId) : List Scan × Session F H :=
  match session.device? id with
  | none => ([], session)
  | some device =>
      let taken := device.buffer.popAll
      (taken.1, session.modifyDevice id fun device => { device with buffer := taken.2 })

/-- Takes as many whole records as fit into so many bytes out of the buffer of a device. -/
def readBytes (session : Session F H) (id : DeviceId) (size : Nat) : List UInt8 × Session F H :=
  match session.device? id with
  | none => ([], session)
  | some device =>
      let taken := device.buffer.readBytes size
      (taken.1, session.modifyDevice id fun device => { device with buffer := taken.2 })

end Acquisition.Session
