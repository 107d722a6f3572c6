/-
# The watchdog

Keeps an eye on every peer of a host from its creation until it is gone.  A peer waits for its
client until a deadline; once connected, the process behind it is checked from time to time:

    add ──> waiting ──markConnected──> connected ──process gone──> removed
               │
               └───────── deadline reached ──────────> removed

* `Watchdog.add`, `addWithin`, `markConnected`, `forget`, `shutdown`: what the host tells it;
* `Watchdog.pass`: one look at everything that is watched, and what it reports;
* `Watchdog.waitTime`: how long to sleep until the next look;
* `Watchdog.turn?`: both together, as long as it has not stopped.

Times are in milliseconds on a clock that never goes back and can show every moment before
`clockEnd`.
-/
import ControlPlane.Fault
import ControlPlane.Peer.Id
import ControlPlane.ProcessHandle

namespace ControlPlane

/-- The end of the clock: its seconds have 63 bits. -/
def clockEnd : Nat := 0x8000000000000000 * 1000

/-- The moment `timeout` milliseconds after `now`, if the clock can show it. -/
def deadline? (now timeout : Nat) : Option Nat :=
  if now + timeout < clockEnd then some (now + timeout) else none

/-- What the watchdog needs to know of a process it checks. -/
class Watched (H : Type) where
  /-- The number of the process. -/
  pid : H → UInt32

instance : Watched ProcessHandle := ⟨ProcessHandle.pid⟩

/-- What the watchdog reports to the host. -/
inductive WatchdogEvent where
  /-- The client of a peer did not connect in time. -/
  | timedOut (peer : PeerId)
  /-- The process behind a peer is gone. -/
  | exited (peer : PeerId) (pid : UInt32)
  deriving DecidableEq, Repr

/-- The peer a report is about. -/
def WatchdogEvent.peer : WatchdogEvent → PeerId
  | .timedOut p => p
  | .exited p _ => p

/-- What a look at a process gives. -/
structure Glance (H : Type) where
  ended : Bool
  handle : H

/-- **What is being watched.** -/
structure Watchdog (H : Type) where
  /-- The deadlines of the peers whose clients have not connected. -/
  waiting : Table PeerId Nat := Table.empty
  /-- The processes behind the other peers. -/
  connected : Table PeerId H := Table.empty
  stopped : Bool := false
  deriving Inhabited

namespace Watchdog

variable {H : Type}

/-! ## 1. What the host tells it -/

/-- **Watches a peer** that has no client yet, until `deadline`. -/
def add (w : Watchdog H) (peer : PeerId) (deadline : Nat) : Except Fault (Watchdog H) :=
  if w.stopped then .error .watchdogStopped
  else .ok { w with waiting := w.waiting.insert peer deadline }

/-- **Watches a peer whose client is to connect within `timeout`.**  `none`: the sum that gives the
deadline overflows, and whoever asked breaks off there, with the watchdog still locked and nobody
added.  A watchdog that has stopped says so before it comes to the deadline. -/
def addWithin (w : Watchdog H) (peer : PeerId) (now timeout : Nat) :
    Option (Except Fault (Watchdog H)) :=
  if w.stopped then some (.error .watchdogStopped)
  else (deadline? now timeout).map (w.add peer)

/-- **A client has connected.**  False when its peer is not waiting, as after its deadline. -/
def markConnected (w : Watchdog H) (peer : PeerId) (handle : H) : Bool × Watchdog H :=
  if w.stopped || !w.waiting.contains peer then (false, w)
  else
    (true, { w with
      waiting := w.waiting.erase peer, connected := w.connected.insert peer handle })

/-- **Stops watching a peer.** -/
def forget (w : Watchdog H) (peer : PeerId) : Watchdog H :=
  { w with waiting := w.waiting.erase peer, connected := w.connected.erase peer }

/-- How a peer is watched. -/
inductive State where
  | waiting
  | connected
  deriving DecidableEq, Repr

/-- How a peer is watched, if it is. -/
def state? (w : Watchdog H) (peer : PeerId) : Option State :=
  if w.waiting.contains peer then some .waiting
  else if w.connected.contains peer then some .connected
  else none

/-- The peers that are watched, ascending.  A peer that is watched in both ways comes twice. -/
def peers (w : Watchdog H) : List PeerId :=
  (w.waiting.keys ++ w.connected.keys).mergeSort fun a b => a.value ≤ b.value

/-- **Stops for good**: the peers that were still watched, and the watchdog after it. -/
def shutdown (w : Watchdog H) : List PeerId × Watchdog H :=
  if w.stopped then ([], w)
  else (w.peers, { waiting := Table.empty, connected := Table.empty, stopped := true })

/-! ## 2. Looking -/

/-- The reports about peers whose deadline has come. -/
def timeouts (w : Watchdog H) (now : Nat) : List WatchdogEvent :=
  (w.waiting.filter fun _ deadline => deadline ≤ now).keys.map .timedOut

/-- The reports about processes that a look found to be gone. -/
def exits [Watched H] (seen : Table PeerId (Glance H)) : List WatchdogEvent :=
  (seen.filter fun _ g => g.ended).entries.map fun e => .exited e.1 (Watched.pid e.2.handle)

/-- **One look at everything**: the reports, and what remains to be watched.  `look` checks one
process.  Deadlines come first.  Reports of one kind come in no order of their own; by ascending
peer, as here, is one of those in which they may come. -/
def pass [Watched H] (w : Watchdog H) (now : Nat) (look : PeerId → H → Glance H) :
    List WatchdogEvent × Watchdog H :=
  if w.stopped then ([], w)
  else
    let seen := w.connected.map look
    (w.timeouts now ++ exits seen,
      { w with
        waiting := w.waiting.filter fun _ deadline => !(deadline ≤ now)
        connected := (seen.filter fun _ g => !g.ended).map fun _ g => g.handle })

/-- The time until the next deadline. -/
def untilDeadline (w : Watchdog H) (now : Nat) : Option Nat :=
  w.waiting.values.min?.map (· - now)

/-- **How long to sleep** after a look; `none` when there is nothing to wait for.  Who is added and
who has connected wakes the watchdog before. -/
def waitTime (w : Watchdog H) (now interval : Nat) : Option Nat :=
  match w.untilDeadline now, w.connected.isEmpty with
  | some t, true => some t
  | some t, false => some (min t interval)
  | none, false => some interval
  | none, true => none

/-- What one turn of the watchdog gives. -/
structure Turn (H : Type) where
  reports : List WatchdogEvent
  watchdog : Watchdog H
  /-- How long it sleeps then. -/
  wait : Option Nat

/-- **One turn**: a look, and then to sleep.  A watchdog that has stopped takes none. -/
def turn? [Watched H] (w : Watchdog H) (now interval : Nat) (look : PeerId → H → Glance H) :
    Option (Turn H) :=
  if w.stopped then none
  else
    let (reports, left) := w.pass now look
    some ⟨reports, left, left.waitTime now interval⟩

end Watchdog

/-- A look at a process of the system, with the system's answers. -/
def ProcessHandle.glance (answers : ProcessHandle.Answers) (p : ProcessHandle) :
    Glance ProcessHandle :=
  let check := p.poll answers
  ⟨check.ended, check.process⟩

end ControlPlane
