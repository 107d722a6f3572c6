/-
# A session of the shell

A host with its clients, each of them joined to it in memory.  First the host makes a channel for
every client and starts the client; that can fail, and then the session is over.  What one end of a
channel writes arrives at the other, and every client runs to its end.

* `ShellSession.bringUp`: channels are made and clients are started;
* `ShellSession.join`: a client joins;
* `ShellSession.run`: the whole session, and how it ends.
-/
import ControlPlane.Host.Basic
import ControlPlane.Profile.Disk
import ControlPlane.Shell.Client

namespace ControlPlane

/-- **What a machine can give** to a host. -/
structure Machine where
  /-- The bytes of its memory. -/
  memory : Nat := 0x800000000
  /-- How long its clock has been running, in milliseconds. -/
  clock : Nat := 21600000
  /-- How many sockets a process can have open. -/
  sockets : Nat := 20000
  /-- The clock has not come so near to its end that a timeout of 32 bits is beyond it. -/
  inTime : clock + UInt32.size ≤ clockEnd := by exact Nat.le_of_ble_eq_true rfl
  deriving DecidableEq, Repr

/-- **A host, and the folders it makes**, on a machine. -/
structure ShellSession where
  machine : Machine := {}
  host : Host
  tree : Folder.Tree := .empty

namespace ShellSession

/-- The process that everybody in a session belongs to. -/
def pid : UInt32 := 1

/-- What surrounds the host.  Every peer of the host has a socket. -/
def surroundings (s : ShellSession) (failure : Option String) : Surroundings :=
  { now := s.machine.clock
    nonce := "session"
    socket := 1
    socketFailure :=
      if s.host.peers.size < s.machine.sockets then none
      else some (.bind OsError.tooManyOpen.message)
    folderFailure := failure
    inTime := s.machine.inTime }

/-! ## 1. The host -/

/-- Makes the folder that the next event needs. -/
def prepare (s : ShellSession) : ShellSession × Option String :=
  match s.host.events with
  | (id, .message m) :: _ =>
    let accepts (r : RoutingId) : Bool :=
      match s.host.peer? id with
      | some p => r.isClientAllocated && !p.hasRoute r
      | none => false
    let (tree, failure) := ProfileDisk.prepareFor s.host.profiles s.tree accepts m
    ({ s with tree }, failure)
  | _ => (s, none)

/-- Handles events, `fuel` of them at most. -/
def serveUpTo : (fuel : Nat) → ShellSession → ShellSession
  | 0, s => s
  | fuel + 1, s =>
    let (s, failure) := s.prepare
    match s.host.step? (s.surroundings failure) .channels with
    | some host => serveUpTo fuel { s with host }
    | none => s

/-- **Handles all that has happened.** -/
def serve (s : ShellSession) : ShellSession :=
  s.serveUpTo (s.host.events.length + s.host.reports.length)

/-- Takes a step of a peer's end of its channel and handles what comes of that; then the end
writes what it has to: what it put on the connection. -/
def exchange (s : ShellSession) (id : PeerId)
    (step : ChannelEnd Empty → ChannelOutput Empty × ChannelEnd Empty) : Bytes × ShellSession :=
  let (first, host) := s.host.onChannel id step
  let s := { s with host }.serve
  let (second, host) := s.host.onChannel id ChannelEnd.settle
  ((first ++ second).bytes, { s with host })

/-! ## 2. Clients -/

/-- Lets a client and its host talk, `fuel` rounds at most: how the client ends. -/
def talk (id : PeerId) : (fuel : Nat) → ShellClient → ShellSession → ShellExit × ShellSession
  | 0, _, s => (⟨some 1, ""⟩, s)
  | fuel + 1, c, s =>
    match c.ended with
    | some e => (e, (s.exchange id fun e => e.closeInput.settle).2)
    | none =>
      let (out, channel) := c.peer.channel.settle
      let c := { c with peer := { c.peer with channel } }.after out
      let (bs, s) := s.exchange id fun e => (e.arrive out.bytes).settle
      talk id fuel { c with peer := { c.peer with channel := c.peer.channel.arrive bs } } s

/-- The rounds after which every client has come to its end: one for the hellos, one for the
settings, one for the leaving, and one more on either side. -/
def rounds : Nat := 5

/-- **A client joins the channel that was made for it**, and leaves again.  `dial` says whether it can
reach its host. -/
def join (dial : UInt16 → Dialling) (s : ShellSession) (opened : OpenedChannel) : ShellSession :=
  match ShellClient.start opened.token pid dial with
  | .error _ => s
  | .ok (out, c) =>
    let (bs, s) := s.exchange opened.peer fun e =>
      let (hello, e) := e.accept pid
      let (more, e) := (e.arrive out.bytes).settle
      (hello ++ more, e)
    let c := { c with peer := { c.peer with channel := c.peer.channel.arrive bs } }
    (talk opened.peer rounds c s).2

/-! ## 3. The start of a session -/

/-- The bytes by which a host keeps a client in mind. -/
def clientSize : Nat := 28

/-- The largest number of bytes that can be asked for at once. -/
def maxCapacity : Nat := 0x7FFFFFFFFFFFFFFF

/-- The most bytes that an argument can have when a program is started with it. -/
def maxArgument : Nat := 0x20000

/-- The bytes of an argument, with the one that ends it. -/
def argumentSize (s : String) : Nat := Text.Utf8.size s + 1

/-- Makes room for a list of the clients. -/
def reserve (s : ShellSession) (clients : Nat) : Except ShellExit Unit :=
  let room := clients * clientSize
  if maxCapacity < room then .error (.breakdown "capacity overflow")
  else if s.machine.memory < room then
    .error (.cutDown ("memory allocation of " ++ toString room ++ " bytes failed"))
  else .ok ()

/-- **Makes a channel for the next client.**  A host that breaks off takes the program with it; when
its loop has a thread of its own, the others only find it gone. -/
def openNext (o : HostOptions) (s : ShellSession) : Except ShellExit OpenedChannel × ShellSession :=
  let (opened, host) := s.host.openChannel (s.surroundings none) o.config.connectTimeout
  let answer : Except ShellExit OpenedChannel :=
    match o.mode.loopPlace, opened with
    | .callerThread, none => .error (.breakdown "overflow when adding duration to instant")
    | _, _ => (Host.awaited opened).mapError .ofFault
  (answer, { s with host })

/-- Starts a client with the token of its channel. -/
def spawn (token : String) : Except ShellExit Unit :=
  if maxArgument < argumentSize token then
    .error (.failure "failed to spawn client" (some OsError.argumentsTooLong.message))
  else .ok ()

/-- **Brings up the clients**, one after the other: the channels that were made for them, or how the
session ends because one of them could not be had or its client not be started. -/
def bringUp (o : HostOptions) :
    (clients : Nat) → ShellSession → Except ShellExit (List OpenedChannel) × ShellSession
  | 0, s => (.ok [], s)
  | n + 1, s =>
    match openNext o s with
    | (.error e, s) => (.error e, s)
    | (.ok opened, s) =>
      match spawn opened.token with
      | .error e => (.error e, s)
      | .ok () =>
        let (rest, s) := bringUp o n s
        (rest.map (opened :: ·), s)

/-! ## 4. The whole session -/

/-- **The whole session** of a host, and how it ends.  When the clients have been brought up they
join and leave again; then the time of those who never connected is over.  At its end the host has
shut down. -/
def run (m : Machine) (o : HostOptions) (dial : UInt16 → Dialling) : ShellExit × ShellSession :=
  let s : ShellSession := { machine := m, host := Host.start o.config }
  let (ending, s) :=
    match s.reserve o.clients with
    | .error e => (e, s)
    | .ok () =>
      match bringUp o o.clients s with
      | (.error e, s) => (e, s)
      | (.ok opened, s) =>
        let s := opened.foldl (join dial) s
        let host := s.host.look (m.clock + o.config.connectTimeout) fun _ =>
          ⟨.notAChild, .delivered⟩
        (.success, { s with host }.serve)
  (ending, { s with host := s.host.shutdown })

end ShellSession

end ControlPlane
