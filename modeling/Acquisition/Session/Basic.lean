/-
# Acquisition.Session.Basic — everything that lives together

A `Session` is one value that holds every device and trigger made so far, under
numbers that keep naming them, the registry of devices, the names of software
triggers, the supplies, and a journal of what happened. Operations take a session
and give the next one; refusals leave their traces in it too.

A device lives as long as somebody holds on to it or it is registered (`alive`). A
trigger whose consumer no longer lives has none.
-/

import Acquisition.Device

namespace Acquisition

set_option autoImplicit false

/-- Something a session asks of others. -/
inductive Event where
  /-- A provider is asked for an attribute of a channel. -/
  | read (device : DeviceId) (channel : Channel) (asked : Attribute)
  /-- A provider is told the channels about to be captured. -/
  | program (device : DeviceId) (mask : ScanMask)
  /-- A hook is told to start or to stop. -/
  | switch (trigger : TriggerId) (on : Bool)
  /-- A handler is given an edge. -/
  | handle (device : DeviceId) (trigger : TriggerId) (time : Int64)
  deriving DecidableEq

/-- One entry of the journal. -/
inductive Entry where
  | line (line : LogLine)
  | event (event : Event)
  deriving DecidableEq

/-- The log lines of a journal, oldest first. -/
def journalLines (journal : List Entry) : List LogLine :=
  journal.filterMap fun
    | .line line => some line
    | .event _ => none

/-- The events of a journal, oldest first. -/
def journalEvents (journal : List Entry) : List Event :=
  journal.filterMap fun
    | .line _ => none
    | .event event => some event

/-- Devices, triggers, supplies and what is known about them. -/
structure Session (F H : Type) where
  devices : Table (Device F H) := {}
  triggers : Table Trigger := {}
  /-- The registered devices, oldest first. -/
  listed : List DeviceId := []
  /-- The number of the next device to be registered. -/
  nextNumber : Nat := 0
  /-- The software triggers, oldest first. -/
  software : List TriggerId := []
  supplies : Supplies := {}
  /-- What happened, newest first. -/
  journal : List Entry := []

namespace Session

variable {F H : Type}

/-- The device under a number. -/
def device? (session : Session F H) (id : DeviceId) : Option (Device F H) :=
  session.devices.get? id.index

/-- The trigger under a number. -/
def trigger? (session : Session F H) (id : TriggerId) : Option Trigger :=
  session.triggers.get? id.index

/-- Changes the device under a number. -/
def modifyDevice (session : Session F H) (id : DeviceId)
    (change : Device F H → Device F H) : Session F H :=
  { session with devices := session.devices.modify id.index change }

/-- Changes the trigger under a number. -/
def modifyTrigger (session : Session F H) (id : TriggerId) (change : Trigger → Trigger) :
    Session F H :=
  { session with triggers := session.triggers.modify id.index change }

/-- Notes log lines. -/
def report (session : Session F H) (lines : List LogLine) : Session F H :=
  { session with journal := (lines.map Entry.line).reverse ++ session.journal }

/-- Notes an event. -/
def note (session : Session F H) (event : Event) : Session F H :=
  { session with journal := .event event :: session.journal }

/-- Hands over the journal, oldest first, and starts a new one. -/
def takeJournal (session : Session F H) : List Entry × Session F H :=
  (session.journal.reverse, { session with journal := [] })

/-- Adds a device that nobody has registered; its maker holds on to it. -/
def addDevice (session : Session F H) (name : String) (channels : List Channel) (provider : F) :
    DeviceId × Session F H :=
  (⟨session.devices.size⟩,
    { session with devices := session.devices.push { name, channels, provider } })

/-- Adds a trigger. -/
def addTrigger (session : Session F H) (name : String) (source : Source) :
    TriggerId × Session F H :=
  (⟨session.triggers.size⟩,
    { session with triggers := session.triggers.push { name, source } })

/-- One more holds on to a device. -/
def hold (session : Session F H) (id : DeviceId) : Session F H :=
  session.modifyDevice id fun device => { device with holders := device.holders + 1 }

/-- One less holds on to a device. -/
def release (session : Session F H) (id : DeviceId) : Session F H :=
  session.modifyDevice id fun device => { device with holders := device.holders - 1 }

/-- Whether a device still lives: somebody holds on to it or it is registered. -/
def alive (session : Session F H) (id : DeviceId) : Bool :=
  match session.device? id with
  | none => false
  | some device => device.holders != 0 || session.listed.contains id

/-- The living consumer of a trigger. -/
def consumer? (session : Session F H) (id : TriggerId) : Option DeviceId :=
  ((session.trigger? id).bind Trigger.consumer).filter session.alive

end Session

end Acquisition
