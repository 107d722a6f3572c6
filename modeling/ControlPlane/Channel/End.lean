/-
# One end of a channel

An end writes what its peer hands it, reads frames, and sorts them: a reply goes to the request
it answers, and everything else becomes an event for the peer.  Replies never reach the peer, so
a peer that waits for one does not hold up what arrives behind it.

An end moves in small steps, and its surroundings decide which one comes next:

* `ChannelEnd.listening`, `connecting`: a new end, before and with a connection;
* `send`, `request`: what its peer hands it;
* `accept`, `refuse`, `arrive`, `closeInput`, `expire`, `breakInput`, `breakOutput`, `drop`: what
  happens around it;
* `read?`, `write?`: the next frame is read, the next command is written.

Whoever waits for the reply to a request is known by a ticket.
-/
import ControlPlane.Channel.Event
import ControlPlane.Channel.Handshake

namespace ControlPlane

/-- What a peer hands to its end of a channel. -/
inductive Command (τ : Type) where
  | send (m : Message)
  /-- A message whose reply goes to a ticket. -/
  | request (m : Message) (ticket : τ)

/-- The ticket of a command, if it has one. -/
def Command.ticket? {τ : Type} : Command τ → Option τ
  | .send _ => none
  | .request _ t => some t

/-- How far an end has come. -/
inductive ChannelPhase where
  /-- Nobody is at the other end yet. -/
  | listening
  /-- There is a connection, and the other end's hello is awaited. -/
  | greeting
  | opened
  | ended
  deriving DecidableEq, Repr, Inhabited

/-- What a request comes to. -/
abbrev Answer := Except Fault Message

/-- **What a step of an end gives out.** -/
structure ChannelOutput (τ : Type) where
  /-- For the peer. -/
  events : List ChannelEvent := []
  /-- To the other end, each as a frame. -/
  written : List Message := []
  /-- To those who wait for replies. -/
  answers : List (τ × Answer) := []

namespace ChannelOutput

variable {τ : Type}

/-- What two steps give out, one after the other. -/
def append (a b : ChannelOutput τ) : ChannelOutput τ :=
  ⟨a.events ++ b.events, a.written ++ b.written, a.answers ++ b.answers⟩

instance : Append (ChannelOutput τ) := ⟨append⟩

/-- The bytes that a step puts on the connection. -/
def bytes (o : ChannelOutput τ) : Bytes := o.written.flatMap Message.frame

end ChannelOutput

/-- **One end of a channel.** -/
structure ChannelEnd (τ : Type) where
  name : String
  phase : ChannelPhase
  /-- What has arrived and is not read yet. -/
  arrived : Bytes := []
  /-- Nothing more will arrive. -/
  inputOver : Bool := false
  /-- What the peer has handed over and is not written yet. -/
  commands : List (Command τ) := []
  /-- The id of the next request. -/
  nextRequest : UInt64 := 1
  /-- Who waits for the reply to which request. -/
  pending : Table UInt64 τ := Table.empty

namespace ChannelEnd

variable {τ : Type}

/-! ## 1. New ends -/

/-- An end that waits for a connection. -/
def listening (name : String) : ChannelEnd τ := { name, phase := .listening }

/-- A connection has been made; the end says hello. -/
def accept (e : ChannelEnd τ) (pid : UInt32) : ChannelOutput τ × ChannelEnd τ :=
  match e.phase with
  | .listening =>
    ({ written := [Handshake.greeting pid e.name] }, { e with phase := .greeting })
  | _ => ({}, e)

/-- An end that has made a connection; it says hello. -/
def connecting (name : String) (pid : UInt32) : ChannelOutput τ × ChannelEnd τ :=
  (listening name).accept pid

/-- Whether nothing can be handed over any more. -/
def isClosed (e : ChannelEnd τ) : Bool := e.phase = .ended

/-- An end, for a person to read. -/
def describe (e : ChannelEnd τ) : String :=
  "Channel \x7b id: " ++ Text.quoted e.name ++ " \x7d"

/-- What can be handed to an end, for a person to read. -/
def describeSender (e : ChannelEnd τ) : String :=
  "ChannelSender \x7b closed: " ++ toString e.isClosed ++ " \x7d"

/-! ## 2. Ending -/

/-- Those who wait for a reply, in the order of their requests. -/
def tickets (e : ChannelEnd τ) : List τ := e.pending.values ++ e.commands.filterMap Command.ticket?

/-- **Ends the channel.**  Every request that is still waited for fails. -/
def finish (e : ChannelEnd τ) (events : List ChannelEvent) : ChannelOutput τ × ChannelEnd τ :=
  ({ events, answers := e.tickets.map fun t => (t, .error .channelClosed) },
    { e with phase := .ended, arrived := [], commands := [], pending := Table.empty })

/-- Ends the channel with a failure. -/
def fail (e : ChannelEnd τ) (ending : ChannelEnding) : ChannelOutput τ × ChannelEnd τ :=
  e.finish [.failed ending]

/-- **The peer lets go of its end.**  It hears nothing more. -/
def drop (e : ChannelEnd τ) : ChannelOutput τ × ChannelEnd τ :=
  if e.isClosed then ({}, e) else e.finish []

/-- The hello of the other end did not come in time. -/
def expire (e : ChannelEnd τ) : ChannelOutput τ × ChannelEnd τ :=
  match e.phase with
  | .greeting => e.fail .noHandshake
  | _ => ({}, e)

/-- No connection could be taken from the socket.  The end is over before it has greeted anybody. -/
def refuse (e : ChannelEnd τ) : ChannelOutput τ × ChannelEnd τ :=
  match e.phase with
  | .listening => e.fail .unreadable
  | _ => ({}, e)

/-- **The connection fails.**  That ends the handshake, or a channel that is open. -/
def breakOff (e : ChannelEnd τ) (ending : ChannelEnding) : ChannelOutput τ × ChannelEnd τ :=
  match e.phase with
  | .greeting => e.fail .noHandshake
  | .opened => e.fail ending
  | _ => ({}, e)

/-- A read from the connection failed.  What has arrived and is not read yet is lost. -/
def breakInput (e : ChannelEnd τ) : ChannelOutput τ × ChannelEnd τ := e.breakOff .unreadable

/-- A write to the connection failed. -/
def breakOutput (e : ChannelEnd τ) : ChannelOutput τ × ChannelEnd τ := e.breakOff .unwritable

/-! ## 3. Handing over -/

/-- **Hands over a message.**  False when the channel is over. -/
def send (e : ChannelEnd τ) (m : Message) : Bool × ChannelEnd τ :=
  if e.isClosed then (false, e) else (true, { e with commands := e.commands ++ [.send m] })

/-- **Hands over a request.**  It fails at once when the channel is over. -/
def request (e : ChannelEnd τ) (m : Message) (ticket : τ) : ChannelOutput τ × ChannelEnd τ :=
  if e.isClosed then ({ answers := [(ticket, .error .channelClosed)] }, e)
  else ({}, { e with commands := e.commands ++ [.request m ticket] })

/-- A request as it is written. -/
def numbered (m : Message) (id : UInt64) : Message := { m with sync := true, request := some id }

/-- **Writes the next command**, `none` when there is none or the channel is not open.  Requests
are numbered in the order they are written. -/
def write? (e : ChannelEnd τ) : Option (ChannelOutput τ × ChannelEnd τ) :=
  match e.phase, e.commands with
  | .opened, .send m :: rest => some ({ written := [m] }, { e with commands := rest })
  | .opened, .request m ticket :: rest =>
    let id := e.nextRequest
    some
      ({ written := [numbered m id]
         answers := (e.pending.get? id).toList.map fun t => (t, .error .channelClosed) },
        { e with
          commands := rest, nextRequest := id + 1, pending := e.pending.insert id ticket })
  | _, _ => none

/-- The end with its next command written; nothing happens when there is none to write. -/
def writeNext (e : ChannelEnd τ) : ChannelOutput τ × ChannelEnd τ := e.write?.getD ({}, e)

/-! ## 4. Reading -/

/-- Bytes arrive. -/
def arrive (e : ChannelEnd τ) (bs : Bytes) : ChannelEnd τ :=
  if e.isClosed then e else { e with arrived := e.arrived ++ bs }

/-- The other end will send no more. -/
def closeInput (e : ChannelEnd τ) : ChannelEnd τ := { e with inputOver := true }

/-- Who waits for a reply. -/
def waiter? (e : ChannelEnd τ) (m : Message) : Option τ := m.request.bind e.pending.get?

/-- What the reply to a request comes to. -/
def answerOf (m : Message) : Answer := if m.failed then .error (.refused m.type) else .ok m

/-- The wording for a second hello. -/
def duplicateHello : String := "duplicate hello"

/-- The wording for a frame that is no message. -/
def undecodable (e : ReadError) : String := "undecodable frame: " ++ e.message

/-- A reply arrives. -/
def takeReply (e : ChannelEnd τ) (m : Message) : ChannelOutput τ × ChannelEnd τ :=
  match e.waiter? m with
  | some ticket =>
    ({ answers := [(ticket, answerOf m)] },
      { e with pending := e.pending.erase (m.request.getD 0) })
  | none =>
    ({ events := [.badMessage (ProtocolFault.strayReply (m.request.getD 0)).message] }, e)

/-- A message arrives. -/
def takeMessage (e : ChannelEnd τ) (m : Message) : ChannelOutput τ × ChannelEnd τ :=
  if m.reply then e.takeReply m
  else if m.type = MessageType.hello then ({ events := [.badMessage duplicateHello] }, e)
  else ({ events := [.message m] }, e)

/-- **A frame arrives on an open channel.**  Whatever it holds, the channel stays open. -/
def takeFrame (e : ChannelEnd τ) (payload : Bytes) : ChannelOutput τ × ChannelEnd τ :=
  match Message.parse payload with
  | .ok m => e.takeMessage m
  | .error err => ({ events := [.badMessage (undecodable err)] }, e)

/-- The first frame arrives. -/
def takeHello (e : ChannelEnd τ) (payload : Bytes) : ChannelOutput τ × ChannelEnd τ :=
  match Handshake.check e.name payload with
  | .ok pid => ({ events := [.connected pid] }, { e with phase := .opened })
  | .error _ => e.fail .noHandshake

/-- The end of the input, or bytes that cannot be read. -/
def endInput (e : ChannelEnd τ) (ending : ChannelEnding) : ChannelOutput τ × ChannelEnd τ :=
  e.fail (if e.phase = .greeting then .noHandshake else ending)

/-- **Reads the next frame**, or the end of the input; `none` when there is nothing to read yet.
An end of the input inside the length of a frame counts as one between frames. -/
def read? (e : ChannelEnd τ) : Option (ChannelOutput τ × ChannelEnd τ) :=
  if e.phase = .greeting ∨ e.phase = .opened then
    match Frame.next e.arrived with
    | .frame payload rest =>
      let e := { e with arrived := rest }
      if e.phase = .greeting then some (e.takeHello payload) else some (e.takeFrame payload)
    | .tooLong _ => some (e.endInput .unreadable)
    | .partly begun =>
      if e.inputOver then some (e.endInput (if begun then .unreadable else .closed)) else none
  else none

/-- What an end makes of its input next; nothing when there is nothing to read yet. -/
def readNext (e : ChannelEnd τ) : ChannelOutput τ × ChannelEnd τ := e.read?.getD ({}, e)

/-! ## 5. Running -/

/-- Takes steps, `fuel` of them at most, reading before writing. -/
def settleUpTo : (fuel : Nat) → ChannelEnd τ → ChannelOutput τ × ChannelEnd τ
  | 0, e => ({}, e)
  | fuel + 1, e =>
    match e.read? <|> e.write? with
    | none => ({}, e)
    | some (out, e) =>
      let (more, e) := settleUpTo fuel e
      (out ++ more, e)

/-- **Takes every step that an end can take by itself.**  Each one uses up bytes or a command, or
ends the channel. -/
def settle (e : ChannelEnd τ) : ChannelOutput τ × ChannelEnd τ :=
  e.settleUpTo (e.arrived.length + e.commands.length + 1)

end ChannelEnd

end ControlPlane
