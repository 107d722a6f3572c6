/-
# The client's end

A client process has one peer.  What arrives from the host is handled in the order of its
arrival; what goes to the host is handed to the channel.

* `ClientPeer.connect`: the peer of a token;
* `ClientPeer.next?`, `run`, `waitConnected`: what arrives is handled;
* `ClientPeer.sync`, `openChannel`, `clearWebCache`: what a client asks of its host.

A channel that has failed stays so, and from then on nothing changes any more.
-/
import ControlPlane.Channel.Dial
import ControlPlane.Channel.End
import ControlPlane.Message.Commands
import ControlPlane.Peer.Dispatch

namespace ControlPlane

/-- **What a client lends its listeners**: they can send to the host. -/
structure Outbox where
  /-- Nothing can be sent any more. -/
  closed : Bool
  sent : List Message := []
  deriving DecidableEq, Repr, Inhabited

/-- Sends a message from a listener.  False when nothing can be sent any more. -/
def Outbox.send (o : Outbox) (m : Message) : Bool × Outbox :=
  if o.closed then (false, o) else (true, { o with sent := o.sent ++ [m] })

/-- **The client's end of a channel.** -/
structure ClientPeer (A τ : Type) where
  channel : ChannelEnd τ
  token : Token
  /-- What has happened on the channel and is not handled yet. -/
  inbox : List ChannelEvent := []
  /-- Nothing more will happen on the channel. -/
  inboxOver : Bool := false
  routes : Routes A := Table.empty
  /-- The client's block of routing ids. -/
  ids : IdBlock := .client
  /-- The host's process, from the handshake on. -/
  hostPid : Option UInt32 := none
  /-- The name of the channel for the worker inside the client. -/
  workerChannel : Option String := none
  /-- The messages that broke the protocol. -/
  badMessages : Nat := 0
  failed : Bool := false
  /-- Somebody wants to be told when the channel fails. -/
  hasHandler : Bool := false
  /-- What has been told of failures, the first one first. -/
  told : List ChannelEnding := []

namespace ClientPeer

variable {A τ : Type}

/-! ## 1. Connecting -/

/-- A peer over an end of the channel that a token names. -/
def ofChannel (channel : ChannelEnd τ) (token : Token) : ClientPeer A τ := { channel, token }

/-- **The peer of a token**, and what it writes first. -/
def connectTo (token : Token) (pid : UInt32) (dial : UInt16 → Dialling) :
    Except Fault (ChannelOutput τ × ClientPeer A τ) := do
  ChannelName.reach token.channel dial
  let (out, channel) := ChannelEnd.connecting token.channel pid
  return (out, ofChannel channel token)

/-- The peer of a token in its text form. -/
def connect (token : String) (pid : UInt32) (dial : UInt16 → Dialling) :
    Except Fault (ChannelOutput τ × ClientPeer A τ) :=
  match Token.decode token with
  | .ok t => connectTo t pid dial
  | .error e => .error (.token e)

/-- Whether the handshake has succeeded and the channel not failed. -/
def isConnected (p : ClientPeer A τ) : Bool := p.hostPid.isSome && !p.failed

/-! ## 2. Sending -/

/-- Hands a message to the channel.  False when the channel is over. -/
def send (p : ClientPeer A τ) (m : Message) : Bool × ClientPeer A τ :=
  let (sent, channel) := p.channel.send m
  (sent, { p with channel })

/-- Hands a message to the channel that has to be open. -/
def deliverOrFail (p : ClientPeer A τ) (m : Message) : Except Fault Unit × ClientPeer A τ :=
  match p.send m with
  | (true, p) => (.ok (), p)
  | (false, p) => (.error .channelClosed, p)

/-- Hands several messages to the channel. -/
def sendAll (p : ClientPeer A τ) (ms : List Message) : ClientPeer A τ :=
  ms.foldl (fun p m => (p.send m).2) p

/-- Hands a request to the channel. -/
def request (p : ClientPeer A τ) (m : Message) (ticket : τ) :
    ChannelOutput τ × ClientPeer A τ :=
  let (out, channel) := p.channel.request m ticket
  (out, { p with channel })

/-- **Asks the host for a reply** once it has handled everything sent before. -/
def sync (p : ClientPeer A τ) (final : Bool) (ticket : τ) : ChannelOutput τ × ClientPeer A τ :=
  p.request (HostCommand.sync final).toMessage ticket

/-- What a `sync` comes to. -/
def syncResult (a : Answer) : Except Fault Unit := a.map fun _ => ()

/-- The longest time that can be asked for, in milliseconds. -/
def maxTimeout : Nat := 0xFFFFFFFF

/-- **Asks the host for another channel**, whose client has `timeout` milliseconds to connect. -/
def openChannel (p : ClientPeer A τ) (timeout : Nat) (ticket : τ) :
    ChannelOutput τ × ClientPeer A τ :=
  p.request (HostCommand.openChannel (UInt32.ofNat (min timeout maxTimeout))).toMessage ticket

/-- **Asks the host to drop** what its clients have stored of web pages. -/
def clearWebCache (p : ClientPeer A τ) : Except Fault Unit × ClientPeer A τ :=
  p.deliverOrFail HostCommand.clearWebCache.toMessage

/-! ## 3. Routes -/

/-- **The next routing id** of the client's block. -/
def nextId (p : ClientPeer A τ) : Except Fault RoutingId × ClientPeer A τ :=
  match p.ids.take? with
  | some (id, ids) => (.ok id, { p with ids })
  | none => (.error .idsUsedUp, p)

/-- Registers a listener for what the host sends to an address. -/
def addRoute (p : ClientPeer A τ) (id : RoutingId) (a : A) : Except Fault (ClientPeer A τ) :=
  match p.routes.add? id a with
  | some routes => .ok { p with routes }
  | none => .error (.routeTaken id)

/-- What the channel lends to a listener. -/
def outbox (p : ClientPeer A τ) : Outbox := { closed := p.channel.isClosed }

/-- **Removes the route at an address**, if there is one: its listener, after it was told. -/
def removeRoute [Listener A Outbox] (p : ClientPeer A τ) (id : RoutingId) :
    Option A × ClientPeer A τ :=
  match p.routes.get? id with
  | some a =>
    let (a, out) := Listener.removed a p.outbox
    (some a, { p with routes := p.routes.erase id }.sendAll out.sent)
  | none => (none, p)

/-! ## 4. What arrives -/

/-- The wording for a channel name of another version. -/
def incompatibleName (name : String) : String := "incompatible channel name " ++ Text.quoted name

/-- A message to the peer itself. -/
def control (p : ClientPeer A τ) (m : Message) : Outcome × ClientPeer A τ :=
  match ClientCommand.ofMessage m with
  | .error e => (.error e, p)
  | .ok none => (.error (.unknownType m.type), p)
  | .ok (some (.nameChannel name)) =>
    if ChannelName.isCompatible name then (.ok .handled, { p with workerChannel := some name })
    else (.error (.malformed m.type (incompatibleName name)), p)

/-- A message to a route.  What its listener sends goes out before any reply. -/
def routed [Listener A Outbox] (p : ClientPeer A τ) (m : Message) : Outcome × ClientPeer A τ :=
  let d := deliver p.routes m p.outbox
  (d.outcome, { p with routes := d.routes }.sendAll d.context.sent)

/-- What is done with a message. -/
def handle [Listener A Outbox] (p : ClientPeer A τ) (m : Message) : Outcome × ClientPeer A τ :=
  if m.isControl then p.control m else p.routed m

/-- Something arrived that breaks the protocol. -/
def countBad (p : ClientPeer A τ) : ClientPeer A τ := { p with badMessages := p.badMessages + 1 }

/-- The peer counts a message that broke the protocol. -/
def settle (p : ClientPeer A τ) (outcome : Outcome) : ClientPeer A τ :=
  match outcome with
  | .ok _ => p
  | .error _ => p.countBad

/-- The peer pays the reply that is owed. -/
def pay (p : ClientPeer A τ) (m : Message) (outcome : Outcome) : ClientPeer A τ :=
  match replyFor m outcome with
  | some r => (p.send r).2
  | none => p

/-- **A message arrives.** -/
def receive [Listener A Outbox] (p : ClientPeer A τ) (m : Message) : ClientPeer A τ :=
  let (outcome, p) := p.handle m
  (p.settle outcome).pay m outcome

/-- **The channel has failed.**  Only the first failure is told. -/
def fail (p : ClientPeer A τ) (ending : ChannelEnding) : ClientPeer A τ :=
  if p.failed then p
  else { p with failed := true, told := p.told ++ (if p.hasHandler then [ending] else []) }

/-- **Something happened on the channel.** -/
def onEvent [Listener A Outbox] (p : ClientPeer A τ) : ChannelEvent → ClientPeer A τ
  | .connected pid => { p with hostPid := some pid }
  | .message m => p.receive m
  | .badMessage _ => p.countBad
  | .failed ending => p.fail ending

/-- **Handles the next event**: whether the channel still works, and the peer after it; `none`
when there is nothing to handle yet.  An inbox that is over counts as a closed connection. -/
def next? [Listener A Outbox] (p : ClientPeer A τ) : Option (Bool × ClientPeer A τ) :=
  if p.failed then some (false, p)
  else
    match p.inbox with
    | e :: rest =>
      let p := { p with inbox := rest }.onEvent e
      some (!p.failed, p)
    | [] => if p.inboxOver then some (false, p.fail .closed) else none

/-- Handles events, `fuel` of them at most, until the channel fails or there are no more. -/
def runUpTo [Listener A Outbox] : (fuel : Nat) → ClientPeer A τ → ClientPeer A τ
  | 0, p => p
  | fuel + 1, p =>
    match p.next? with
    | some (true, p) => runUpTo fuel p
    | some (false, p) => p
    | none => p

/-- **Handles all that is in the inbox**, until the channel fails. -/
def run [Listener A Outbox] (p : ClientPeer A τ) : ClientPeer A τ := runUpTo (p.inbox.length + 1) p

/-- Handles events, `fuel` of them at most, until the handshake has succeeded. -/
def waitUpTo [Listener A Outbox] : (fuel : Nat) → ClientPeer A τ →
    Option (Except Fault UInt32) × ClientPeer A τ
  | 0, p => (none, p)
  | fuel + 1, p =>
    match p.hostPid with
    | some pid => (some (.ok pid), p)
    | none =>
      match p.next? with
      | some (true, p) => waitUpTo fuel p
      | some (false, p) => (some (.error .channelClosed), p)
      | none => (none, p)

/-- **Handles what is in the inbox until the handshake has succeeded**: the host's process, or
why there is none; `none` when that is still open. -/
def waitConnected [Listener A Outbox] (p : ClientPeer A τ) :
    Option (Except Fault UInt32) × ClientPeer A τ :=
  waitUpTo (p.inbox.length + 2) p

/-- A peer and what it holds, for a person to read. -/
def describe (p : ClientPeer A τ) : String :=
  "ClientPeer \x7b channel: " ++ p.channel.describe ++ ", host_pid: "
    ++ (match p.hostPid with
      | some n => "Some(" ++ toString n.toNat ++ ")"
      | none => "None")
    ++ ", routes: " ++ toString p.routes.size ++ ", failed: " ++ toString p.failed ++ " \x7d"

end ClientPeer

end ControlPlane
