/-
# Acquisition.Session.Software — triggers made on demand

A software trigger is paced by a timer and known by a name that no other software
trigger has. Destroying one goes by its number, not by its name, so a number kept
from before never reaches a newer trigger of the same name.
-/

import Acquisition.Session.Basic

namespace Acquisition.Session

set_option autoImplicit false

variable {F H : Type}

/-- The one kind of software trigger. -/
def timerKind : String := "hrtimer"

/-- The software trigger of a name. -/
def software? (session : Session F H) (name : String) : Option TriggerId :=
  session.software.find? fun id =>
    (session.trigger? id).any fun trigger => trigger.name == name

/-- Makes a software trigger of a kind under a name nobody has taken. -/
def createSoftware (session : Session F H) (kind name : String) :
    Except Error TriggerId × Session F H :=
  if kind ≠ timerKind then (.error .notSupported, session)
  else if (session.software? name).isSome then (.error .exists, session)
  else
    let made := session.addTrigger name (.timed {})
    (.ok made.1,
      { made.2 with software := made.2.software ++ [made.1] }.report
        [⟨.debug, s!"created hrtimer trigger {name}"⟩])

/-- Stops a software trigger and forgets its name. -/
def destroySoftware (session : Session F H) (id : TriggerId) : Except Error Unit × Session F H :=
  if !session.software.contains id then (.error .noDevice, session)
  else
    (.ok (), { session with software := session.software.erase id }.modifyTrigger id
      fun trigger => trigger.stop.2.detach)

/-- Edges in a second of a trigger with a timer. -/
def frequency? (session : Session F H) (id : TriggerId) : Option Nat :=
  (session.trigger? id).bind Trigger.frequency?

/-- Sets the frequency of a trigger with a timer. -/
def setFrequency (session : Session F H) (id : TriggerId) (hertz : Nat) :
    Except Error Unit × Session F H :=
  match session.trigger? id with
  | none => (.error .noDevice, session)
  | some trigger =>
      let done := trigger.setFrequency hertz
      (done.1, session.modifyTrigger id fun _ => done.2)

end Acquisition.Session
