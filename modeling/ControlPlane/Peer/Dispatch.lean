/-
# Dispatch

How a message reaches the listener at its address, and which reply it is owed.  Both kinds of
peer follow these rules.

* `Listener`: what handles the messages to one address;
* `deliver`: hands a message to the listener at its address;
* `replyFor`: the reply owed to a sender who waits, exactly one whatever the outcome.
-/
import ControlPlane.Message.Basic

namespace ControlPlane

/-! ## 1. Outcomes -/

/-- **What was done with a message.** -/
inductive Dispatch where
  /-- It was handled; a sender who waits gets an empty reply. -/
  | handled
  /-- It was handled; a sender who waits gets this payload. -/
  | reply (payload : Json)
  /-- It means nothing to its receiver; a sender who waits learns that. -/
  | unhandled
  deriving DecidableEq, Repr

/-- What comes of a message. -/
abbrev Outcome := Except ProtocolFault Dispatch

/-- **The reply owed to the sender of a message**, if the sender waits for one. -/
def replyFor (m : Message) (outcome : Outcome) : Option Message :=
  if m.sync then
    match outcome with
    | .ok .handled => some (m.replyWith .null)
    | .ok (.reply payload) => some (m.replyWith payload)
    | .ok .unhandled | .error _ => some m.errorReply
  else none

/-- A reply is owed exactly when the sender waits. -/
theorem isSome_replyFor (m : Message) (outcome : Outcome) :
    (replyFor m outcome).isSome = m.sync := by
  unfold replyFor
  cases h : m.sync with
  | false => rfl
  | true => rcases outcome with _ | (_ | _ | _) <;> rfl

/-! ## 2. Listeners -/

/-- What a listener leaves behind when it has been given a message. -/
structure Received (A C : Type) where
  outcome : Outcome
  listener : A
  context : C

/-- **What handles the messages to one address.**  `C` is what the peer lends a listener while
it runs. -/
class Listener (A : Type) (C : Type) where
  /-- A message arrives. -/
  receive : A → Message → C → Received A C
  /-- The message that just arrived was found to be wrong. -/
  bad : A → Message → ProtocolFault → A := fun a _ _ => a
  /-- The listener's route has been removed. -/
  removed : A → C → A × C := fun a c => (a, c)

instance {C : Type} : Listener Empty C where
  receive a := nomatch a

/-- The listener after its message, and after it was told if that was wrong. -/
def Received.settled {A C : Type} [Listener A C] (r : Received A C) (m : Message) : A :=
  match r.outcome with
  | .ok _ => r.listener
  | .error e => Listener.bad (C := C) r.listener m e

/-- What the delivery of a message leaves behind. -/
structure Delivered (A C : Type) where
  outcome : Outcome
  routes : Routes A
  context : C

/-- **Hands a message to the listener at its address.**  Without one the message is unhandled:
an object may go away while messages to it are under way. -/
def deliver {A C : Type} [Listener A C] (routes : Routes A) (m : Message) (context : C) :
    Delivered A C :=
  match routes.get? m.address with
  | some a =>
    let r := Listener.receive a m context
    ⟨r.outcome, routes.adjust m.address fun _ => r.settled m, r.context⟩
  | none => ⟨.ok .unhandled, routes, context⟩

/-- Tells listeners one after the other that their routes have been removed. -/
def tellRemoved {A C : Type} [Listener A C] : List A → C → List A × C
  | [], c => ([], c)
  | a :: rest, c =>
    let (a, c) := Listener.removed a c
    let (rest, c) := tellRemoved rest c
    (a :: rest, c)

end ControlPlane
