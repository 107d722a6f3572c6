/-
# The host

A host owns the profiles, the watchdog and a peer for each client.  It takes what happens, on
channels and in the watchdog, one event at a time; a peer that is destroyed is gone for good.

* `Host.destroyPeer`, `Host.shutdown`: the end of one peer, and of all;
* `Host.openChannel`: another channel, with the peer behind it under the eye of the watchdog;
* `Host.step?`: the next event is handled;
* `Host.onChannel`, `Host.look`: what goes on around the host, which fills its queues.
-/
import ControlPlane.ChannelName
import ControlPlane.Host.Config
import ControlPlane.Peer.Host
import ControlPlane.Watchdog

namespace ControlPlane

/-! ## 1. The host and its surroundings -/

/-- **Why a channel has no socket to listen at**; `text` is what the system reports. -/
inductive SocketFailure where
  /-- The system gives none. -/
  | bind (text : String)
  /-- The system gives one, but it cannot be used. -/
  | use (text : String)
  deriving DecidableEq, Repr

/-- What the making of a channel fails with then. -/
def SocketFailure.fault : SocketFailure → Fault
  | .bind text => .whileDoing "Failed to bind host channel" text
  | .use text => .ofSystem text

/-- **What the system provides while one event is handled.** -/
structure Surroundings where
  /-- The time in milliseconds. -/
  now : Nat
  /-- The random part of the name of a channel that is made. -/
  nonce : String
  /-- The socket it listens at. -/
  socket : UInt16
  /-- What goes wrong when that socket is asked for, if anything. -/
  socketFailure : Option SocketFailure := none
  /-- What goes wrong when a folder is made, if anything. -/
  folderFailure : Option String := none
  /-- The clock has not come so near to its end that a timeout of 32 bits is beyond it. -/
  inTime : now + UInt32.size ≤ clockEnd := by exact Nat.le_of_ble_eq_true rfl
  deriving Repr

/-- **A host.** -/
structure Host where
  config : HostConfig
  profiles : ProfileStore := {}
  watchdog : Watchdog ProcessHandle := {}
  peers : Table PeerId (HostPeer Empty) := Table.empty
  nextPeer : Nat := 1
  /-- What has happened on channels and is not handled yet. -/
  events : List (PeerId × ChannelEvent) := []
  /-- What the watchdog has reported and is not handled yet. -/
  reports : List WatchdogEvent := []
  /-- How often clients asked to drop what is stored of web pages. -/
  cacheClears : Nat := 0
  stopped : Bool := false

/-- A channel that waits for its client. -/
structure OpenedChannel where
  peer : PeerId
  /-- The token for the client. -/
  token : String
  deriving DecidableEq, Repr

namespace Host

/-- A new host. -/
def start (config : HostConfig) : Host := { config }

/-- The peer with an identity. -/
def peer? (h : Host) (id : PeerId) : Option (HostPeer Empty) := h.peers.get? id

/-! ## 2. The end of a peer -/

/-- **Destroys a peer**: its routes are released, and nobody watches it any more.  False when it
is gone already. -/
def destroyPeer (h : Host) (id : PeerId) : Bool × Host :=
  match h.peer? id with
  | some p =>
    let r := p.teardown h.profiles
    (true, { h with
      profiles := r.profiles, watchdog := h.watchdog.forget id, peers := h.peers.erase id })
  | none => (false, h)

/-- Destroys some peers one after the other. -/
def destroyPeers (h : Host) (ids : List PeerId) : Host :=
  ids.foldl (fun h id => (h.destroyPeer id).2) h

/-- **Shuts down**: first the watchdog, then every peer, then every profile. -/
def shutdown (h : Host) : Host :=
  if h.stopped then h
  else
    let h := { h with stopped := true, watchdog := h.watchdog.shutdown.2 }
    let h := h.destroyPeers h.peers.keys
    { h with profiles := h.profiles.destroyAll }

/-! ## 3. Channels -/

/-- The token of a channel with a name. -/
def tokenFor (h : Host) (name : String) : Token := ⟨name, h.config.switches⟩

/-- **Makes a channel**, whose client has `timeout` milliseconds to connect.  The identity of its
peer is used up even when there is no socket for it, or when the watchdog refuses it.

There is no answer when the deadline is beyond the clock: the host breaks off in the middle of the
step, with nothing kept of the channel but its identity.  A host that breaks off is dropped, and
one that is dropped shuts down. -/
def openChannel (h : Host) (env : Surroundings) (timeout : Nat) :
    Option (Except Fault OpenedChannel) × Host :=
  if h.stopped then (some (.error .hostStopped), h)
  else
    let id : PeerId := ⟨h.nextPeer⟩
    let h := { h with nextPeer := h.nextPeer + 1 }
    match env.socketFailure with
    | some why => (some (.error why.fault), h)
    | none =>
      let name := ChannelName.make env.nonce env.socket
      match h.watchdog.addWithin id env.now timeout with
      | none => (none, h.shutdown)
      | some (.error e) => (some (.error e), h)
      | some (.ok watchdog) =>
        let peer : HostPeer Empty := { id, channel := ChannelEnd.listening name }
        (some (.ok ⟨id, (h.tokenFor name).encode⟩),
          { h with watchdog, peers := h.peers.insert id peer })

/-- What becomes of an answer that others wait for: when its host breaks off, they find the host
gone. -/
def awaited {α : Type} : Option (Except Fault α) → Except Fault α
  | some answer => answer
  | none => .error .hostStopped

/-- Tells a peer's client the name of the channel for its worker.  False when the peer is gone or
its channel is over. -/
def nameChannel (h : Host) (id : PeerId) (name : String) : Bool × Host :=
  match h.peer? id with
  | some p =>
    let (sent, p) := p.nameChannel name
    (sent, { h with peers := h.peers.insert id p })
  | none => (false, h)

/-- What a peer of the host can ask for. -/
def services (env : Surroundings) : HostServices Host where
  profiles := (·.profiles)
  setProfiles h profiles := { h with profiles }
  openChannel h timeout :=
    let (opened, h) := h.openChannel env timeout.toNat
    ((awaited opened).map (·.token), h)
  clearWebCache h := { h with cacheClears := h.cacheClears + 1 }

/-! ## 4. Events -/

/-- A message arrives.  Its peer is not among the others while it is handled. -/
def receive (h : Host) (env : Surroundings) (id : PeerId) (m : Message) : Host :=
  match h.peer? id with
  | some p =>
    let t := p.receive (services env) env.folderFailure m { h with peers := h.peers.erase id }
    { t.state with peers := t.state.peers.insert id t.peer }
  | none => h

/-- The handshake of a peer succeeded. -/
def connect (h : Host) (id : PeerId) (pid : UInt32) : Host :=
  match h.peer? id with
  | some p =>
    let (_, watchdog) := h.watchdog.markConnected id (ProcessHandle.watch pid)
    { h with watchdog, peers := h.peers.insert id (p.connected pid) }
  | none => h

/-- **Something happened on a channel.**  An event of a peer that is gone means nothing. -/
def onEvent (h : Host) (env : Surroundings) (id : PeerId) : ChannelEvent → Host
  | .connected pid => h.connect id pid
  | .message m => h.receive env id m
  | .badMessage _ => { h with peers := h.peers.adjust id (·.countBad) }
  | .failed _ => (h.destroyPeer id).2

/-- **The watchdog has reported something.** -/
def onReport (h : Host) (r : WatchdogEvent) : Host := (h.destroyPeer r.peer).2

/-- The two queues of a host. -/
inductive Source where
  | channels
  | watchdog
  deriving DecidableEq, Repr

/-- Handles the next event of a channel, if there is one. -/
def stepChannels? (h : Host) (env : Surroundings) : Option Host :=
  match h.events with
  | (id, e) :: rest => some ({ h with events := rest }.onEvent env id e)
  | [] => none

/-- Handles the next report of the watchdog, if there is one. -/
def stepWatchdog? (h : Host) : Option Host :=
  match h.reports with
  | r :: rest => some ({ h with reports := rest }.onReport r)
  | [] => none

/-- **Handles the next event**, taken from one queue if that has any and from the other one
otherwise; `none` when both are empty or the host has shut down. -/
def step? (h : Host) (env : Surroundings) (first : Source) : Option Host :=
  if h.stopped then none
  else
    match first with
    | .channels => h.stepChannels? env <|> h.stepWatchdog?
    | .watchdog => h.stepWatchdog? <|> h.stepChannels? env

/-! ## 5. What goes on around the host -/

/-- **A step of a peer's end of its channel.**  What it reports joins the queue. -/
def onChannel (h : Host) (id : PeerId)
    (step : ChannelEnd Empty → ChannelOutput Empty × ChannelEnd Empty) :
    ChannelOutput Empty × Host :=
  match h.peer? id with
  | some p =>
    let (out, channel) := step p.channel
    (out, { h with
      peers := h.peers.insert id { p with channel }
      events := h.events ++ out.events.map fun e => (id, e) })
  | none => ({}, h)

/-- **The watchdog looks at everything it watches.**  What it reports joins the queue. -/
def look (h : Host) (now : Nat) (answers : PeerId → ProcessHandle.Answers) : Host :=
  let (reports, watchdog) := h.watchdog.pass now fun id p => p.glance (answers id)
  { h with watchdog, reports := h.reports ++ reports }

end Host

end ControlPlane
