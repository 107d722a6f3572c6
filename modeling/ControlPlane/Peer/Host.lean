/-
# The host's end

A host has one peer for each client.  It holds the channel and the routes of the profiles that
the client has asked for, carries out commands itself, and hands everything else to the routes.

* `HostPeer.receive`: a message arrives;
* `HostPeer.removeRoute`, `teardown`: routes go away, and with them what they hold.

What a peer cannot do alone it asks of its surroundings, `HostServices`.  The type `A` holds the
listeners that the application registers besides the profiles.
-/
import ControlPlane.Channel.End
import ControlPlane.Peer.Id
import ControlPlane.Profile.Route

namespace ControlPlane

/-! ## 1. What surrounds a peer -/

/-- **What a peer needs while it handles a message**; `S` is the state that all of it lives
in. -/
structure HostServices (S : Type) where
  profiles : S → ProfileStore
  setProfiles : S → ProfileStore → S
  /-- Makes another channel, whose client has this many milliseconds to connect, and gives its
  token. -/
  openChannel : S → (timeout : UInt32) → Except Fault String × S
  /-- Drops what every client has stored of web pages. -/
  clearWebCache : S → S

/-- A listener on the host's side. -/
inductive HostListener (A : Type) where
  | profile (p : ProfileRoute)
  | application (a : A)
  deriving DecidableEq, Repr

instance {A : Type} [Listener A ProfileStore] : Listener (HostListener A) ProfileStore where
  receive
    | .profile p, m, s =>
      let r := Listener.receive p m s
      ⟨r.outcome, .profile r.listener, r.context⟩
    | .application a, m, s =>
      let r := Listener.receive a m s
      ⟨r.outcome, .application r.listener, r.context⟩
  bad
    | .profile p, m, e => .profile (Listener.bad (C := ProfileStore) p m e)
    | .application a, m, e => .application (Listener.bad (C := ProfileStore) a m e)
  removed
    | .profile p, s =>
      let (p, s) := Listener.removed p s
      (.profile p, s)
    | .application a, s =>
      let (a, s) := Listener.removed a s
      (.application a, s)

/-! ## 2. The peer -/

/-- **The host's end of a client's channel.** -/
structure HostPeer (A : Type) where
  id : PeerId
  channel : ChannelEnd Empty
  routes : Routes (HostListener A) := Table.empty
  /-- The host's block of routing ids. -/
  ids : IdBlock := .host
  /-- The client's process, from the handshake on. -/
  pid : Option UInt32 := none
  /-- The messages that broke the protocol. -/
  badMessages : Nat := 0

namespace HostPeer

variable {A S : Type}

/-- Hands a message to the channel.  False when the channel is over. -/
def send (p : HostPeer A) (m : Message) : Bool × HostPeer A :=
  let (sent, channel) := p.channel.send m
  (sent, { p with channel })

/-- Tells the client the name of the channel for its worker. -/
def nameChannel (p : HostPeer A) (name : String) : Bool × HostPeer A :=
  p.send (ClientCommand.nameChannel name).toMessage

/-- **The next routing id** of the host's block. -/
def uniqueId (p : HostPeer A) : Except Fault RoutingId × HostPeer A :=
  match p.ids.take? with
  | some (id, ids) => (.ok id, { p with ids })
  | none => (.error .idsUsedUp, p)

/-- Whether something is registered at an address. -/
def hasRoute (p : HostPeer A) (id : RoutingId) : Bool := p.routes.contains id

/-- Registers a listener of the application. -/
def addRoute (p : HostPeer A) (id : RoutingId) (a : A) : Except Fault (HostPeer A) :=
  match p.routes.add? id (.application a) with
  | some routes => .ok { p with routes }
  | none => .error (.routeTaken id)

/-- The handshake succeeded. -/
def connected (p : HostPeer A) (pid : UInt32) : HostPeer A := { p with pid := some pid }

/-- Something arrived that breaks the protocol. -/
def countBad (p : HostPeer A) : HostPeer A := { p with badMessages := p.badMessages + 1 }

/-! ## 3. Removing routes -/

/-- What the removal of routes leaves behind. -/
structure Removal (A : Type) where
  /-- The listeners without a route, after they were told. -/
  removed : List (HostListener A)
  peer : HostPeer A
  profiles : ProfileStore

/-- **Removes the route at an address**, if there is one. -/
def removeRoute [Listener A ProfileStore] (p : HostPeer A) (id : RoutingId) (s : ProfileStore) :
    Removal A :=
  match p.routes.get? id with
  | some l =>
    let (l, s) := Listener.removed l s
    ⟨[l], { p with routes := p.routes.erase id }, s⟩
  | none => ⟨[], p, s⟩

/-- **Removes every route**, by ascending address. -/
def teardown [Listener A ProfileStore] (p : HostPeer A) (s : ProfileStore) : Removal A :=
  let (routes, rest) := p.routes.drain
  let (removed, s) := tellRemoved (routes.map (·.2)) s
  ⟨removed, { p with routes := rest }, s⟩

/-! ## 4. Messages -/

/-- What a message leaves behind. -/
structure Turn (A S : Type) where
  outcome : Outcome
  peer : HostPeer A
  state : S
  /-- The listeners that lost their routes. -/
  removed : List (HostListener A) := []

/-- The wording for an id that is not of the client's block. -/
def notClientId (id : RoutingId) : String := "routing_id(" ++ id.text ++ ") is not a client id"

/-- The wording for an id at which something is registered. -/
def idInUse (id : RoutingId) : String := "routing_id(" ++ id.text ++ ") is already in use"

/-- Carries out a command of the client. -/
def command (services : HostServices S) (p : HostPeer A) (s : S) : HostCommand → Turn A S
  | .sync _ => ⟨.ok .handled, p, s, []⟩
  | .openChannel timeout =>
    match services.openChannel s timeout with
    | (.ok token, s) => ⟨.ok (.reply (ChannelOffer.mk token).toJson), p, s, []⟩
    | (.error _, s) => ⟨.ok .unhandled, p, s, []⟩
  | .clearWebCache => ⟨.ok .handled, p, services.clearWebCache s, []⟩

/-- Makes a profile for the client.  `failure` says what the system answers if a folder has to
be made. -/
def create (services : HostServices S) (failure : Option String) (p : HostPeer A)
    (type : UInt32) (r : ProfileRequest) (s : S) : Turn A S :=
  if !r.route.isClientAllocated then
    ⟨.error (.malformed type (notClientId r.route)), p, s, []⟩
  else if p.hasRoute r.route then ⟨.error (.malformed type (idInUse r.route)), p, s, []⟩
  else
    match ProfileRoute.obtain (services.profiles s) r failure with
    | (.error _, profiles) => ⟨.ok .unhandled, p, services.setProfiles s profiles, []⟩
    | (.ok route, profiles) =>
      let s := services.setProfiles s profiles
      match p.routes.add? r.route (.profile route) with
      | some routes => ⟨.ok .handled, { p with routes }, s, []⟩
      | none => ⟨.ok .unhandled, p, s, []⟩

/-- Carries out a command about the client's profiles.  An address without a profile can be
destroyed as well. -/
def profileCommand [Listener A ProfileStore] (services : HostServices S)
    (failure : Option String) (p : HostPeer A) (type : UInt32) (s : S) :
    ProfileCommand → Turn A S
  | .create r => create services failure p type r s
  | .destroy id =>
    let r := p.removeRoute id (services.profiles s)
    ⟨.ok .handled, r.peer, services.setProfiles s r.profiles, r.removed⟩

/-- A message to the peer itself. -/
def control [Listener A ProfileStore] (services : HostServices S) (failure : Option String)
    (p : HostPeer A) (m : Message) (s : S) : Turn A S :=
  match HostCommand.ofMessage m with
  | .error e => ⟨.error e, p, s, []⟩
  | .ok (some c) => command services p s c
  | .ok none =>
    match ProfileCommand.ofMessage m with
    | .error e => ⟨.error e, p, s, []⟩
    | .ok (some c) => profileCommand services failure p m.type s c
    | .ok none => ⟨.error (.unknownType m.type), p, s, []⟩

/-- A message to a route. -/
def routed [Listener A ProfileStore] (services : HostServices S) (p : HostPeer A) (m : Message)
    (s : S) : Turn A S :=
  let d := deliver p.routes m (services.profiles s)
  ⟨d.outcome, { p with routes := d.routes }, services.setProfiles s d.context, []⟩

/-- What is done with a message. -/
def handle [Listener A ProfileStore] (services : HostServices S) (failure : Option String)
    (p : HostPeer A) (m : Message) (s : S) : Turn A S :=
  if m.isControl then control services failure p m s else routed services p m s

/-- The peer counts a message that broke the protocol. -/
def settle (p : HostPeer A) (outcome : Outcome) : HostPeer A :=
  match outcome with
  | .ok _ => p
  | .error _ => p.countBad

/-- The peer pays the reply that is owed. -/
def pay (p : HostPeer A) (m : Message) (outcome : Outcome) : HostPeer A :=
  match replyFor m outcome with
  | some r => (p.send r).2
  | none => p

/-- **A message arrives.** -/
def receive [Listener A ProfileStore] (services : HostServices S) (failure : Option String)
    (p : HostPeer A) (m : Message) (s : S) : Turn A S :=
  let t := handle services failure p m s
  { t with peer := (t.peer.settle t.outcome).pay m t.outcome }

/-- A peer and what it holds, for a person to read. -/
def describe (p : HostPeer A) : String :=
  "HostPeer \x7b id: PeerId(" ++ toString p.id.value ++ "), channel: " ++ p.channel.describe
    ++ ", peer_pid: "
    ++ (match p.pid with
      | some n => "Some(" ++ toString n.toNat ++ ")"
      | none => "None")
    ++ ", routes: " ++ toString p.routes.size ++ " \x7d"

end HostPeer

end ControlPlane
