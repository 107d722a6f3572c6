/-
# A client and its host

A client at one end of a channel, and at the other end a whole host, with its other peers, its
watchdog, its application and its one queue of events.  Bytes are under way in both directions;
either end of the channel takes a turn whenever its surroundings let it, and in between anything
else is done with the host.  Every order of all this is a run.

* `Link`: both sides, what is under way between them, and a record of what each has done;
* `LinkAct`, `Link.step`, `Link.run`: what can happen, and runs;
* `Link.Change`, `Link.change_step`: the few ways in which an act changes a link.

The application of the host may do what it likes, and hand messages of its own to the channel.  They
are recorded, as the peer's own replies are the only ones that stand for something.
-/
import ControlPlane.Proofs.Channel.Turns
import ControlPlane.Proofs.Channel.Wire
import ControlPlane.Proofs.Host.Attention

namespace ControlPlane

/-! ## 1. Links -/

/-- **A client and a host with a peer for it.**  The ticket of a request is the number of commands
that were handed over before it. -/
structure Link (A : Type) where
  config : HostConfig
  /-- What was done with the host before the client connected. -/
  prior : List Host.Deed
  /-- The host's peer for the client. -/
  id : PeerId
  client : ClientPeer A Nat
  /-- What has been done with the host since then. -/
  deeds : List Host.Deed := []
  /-- What is under way from the client to the host. -/
  toHost : Bytes := []
  /-- What is under way from the host to the client. -/
  toClient : Bytes := []
  /-- What the client has handed to its channel. -/
  handed : List (Command Nat) := []
  /-- What the client's end has written. -/
  sent : List Message := []
  /-- What the client's requests came to. -/
  results : List (Nat × Answer) := []
  /-- What the host's end has written. -/
  told : List Message := []
  /-- What the host's end has reported. -/
  reported : List ChannelEvent := []
  /-- What the application of the host has handed to the channel. -/
  spoken : List Message := []

/-- What can happen to a client and its host. -/
inductive LinkAct (A : Type) where
  | send (m : Message)
  | request (m : Message)
  | sync (final : Bool)
  /-- The client handles its next event. -/
  | next
  | removeRoute (id : RoutingId)
  /-- The client does anything that leaves its channel alone. -/
  | other (f : ClientPeer A Nat → ClientPeer A Nat)
  /-- The client's end takes a turn. -/
  | client (t : WireTurn Nat)
  /-- The host's end takes a turn. -/
  | host (t : WireTurn Empty)
  /-- The application of the host hands a message to the channel. -/
  | tell (m : Message)
  /-- Something else is done with the host. -/
  | deed (d : Host.Deed)

namespace Link

variable {A : Type}

/-- The host when the client connects. -/
def base (l : Link A) : Host := Host.after l.config l.prior

/-- The host. -/
def host (l : Link A) : Host := l.base.performAll l.deeds

/-- **What the peer was given**, in its order. -/
def heard (l : Link A) : List ChannelEvent := l.base.heardDuring l.id l.deeds

/-! ## 2. Acts -/

/-- The client has gone on, and may have handed something to its channel. -/
def hands (l : Link A) (p : ClientPeer A Nat) : Link A :=
  { l with
    client := p
    handed := l.handed ++ p.channel.commands.drop l.client.channel.commands.length }

/-- The client has handed over a request, or was told that the channel is over. -/
def asks (l : Link A) (x : ChannelOutput Nat × ClientPeer A Nat) : Link A :=
  { l.hands x.2 with results := l.results ++ x.1.answers }

/-- The client's end has taken a turn, and this much is still under way to it. -/
def afterClient (l : Link A) (x : ChannelOutput Nat × ChannelEnd Nat) (left : Bytes) : Link A :=
  { l with
    client := { l.client with channel := x.2, inbox := l.client.inbox ++ x.1.events }
    toClient := left
    toHost := l.toHost ++ x.1.bytes
    sent := l.sent ++ x.1.written
    results := l.results ++ x.1.answers }

/-- The client's end takes a turn. -/
def atClient (l : Link A) (t : WireTurn Nat) : Link A :=
  l.afterClient (l.client.channel.undergo (t.taking l.toClient)) (t.left l.toClient)

/-- Something is done with the host. -/
def does (l : Link A) (d : Host.Deed) : Link A := { l with deeds := l.deeds ++ [d] }

/-- The host's end has made a step, and this much is still under way to it. -/
def afterHost (l : Link A) (step : ChannelEnd Empty → ChannelOutput Empty × ChannelEnd Empty)
    (left : Bytes) : Link A :=
  let out := (l.host.onChannel l.id step).1
  { l.does (.move (.channel l.id step)) with
    toHost := left
    toClient := l.toClient ++ out.bytes
    told := l.told ++ out.written
    reported := l.reported ++ out.events }

/-- The host's end takes a turn. -/
def atHost (l : Link A) (t : WireTurn Empty) : Link A :=
  l.afterHost (·.undergo (t.taking l.toHost)) (t.left l.toHost)

/-- A message is handed to the host's end. -/
def handOver (m : Message) (e : ChannelEnd Empty) : ChannelOutput Empty × ChannelEnd Empty :=
  ({}, (e.send m).2)

/-- The application of the host hands a message to the channel. -/
def tells (l : Link A) (m : Message) : Link A :=
  { l with spoken := l.spoken ++ [m] }.afterHost (handOver m) l.toHost

/-- **A client that has just connected** to the channel of a peer. -/
def start (config : HostConfig) (prior : List Host.Deed) (id : PeerId) (token : Token)
    (pid : UInt32) : Link A :=
  let l : Link A :=
    { config, prior, id, client := ClientPeer.ofChannel (ChannelEnd.listening token.channel) token }
  l.atClient (.accept pid)

section

variable [Listener A Outbox]

/-- **What happens.**  What a peer hands to its end it hands over by an act of its own. -/
def step (l : Link A) : LinkAct A → Link A
  | .send m => l.hands (l.client.send m).2
  | .request m => l.asks (l.client.request m l.handed.length)
  | .sync final => l.asks (l.client.sync final l.handed.length)
  | .next =>
    match l.client.next? with
    | some x => l.hands x.2
    | none => l
  | .removeRoute id => l.hands (l.client.removeRoute id).2
  | .other f => { l with client := { f l.client with channel := l.client.channel } }
  | .client t => if t.command?.isSome then l else l.atClient t
  | .host t => if t.command?.isSome then l else l.atHost t
  | .tell m => l.tells m
  | .deed d => if d.leaves l.id then l.does d else l

/-- **A run**: whatever happens, in any order. -/
def run (l : Link A) (acts : List (LinkAct A)) : Link A := acts.foldl step l

end

/-! ## 3. What the client hands over -/

/-- **The client hands some commands to its channel**, which takes them unless it is over. -/
def Hands (p p' : ClientPeer A Nat) (cs : List (Command Nat)) : Prop :=
  p'.channel = p.channel.enqueue cs

/-- What was handed over after that. -/
theorem handed_hands (l : Link A) {p : ClientPeer A Nat} {cs : List (Command Nat)}
    (hands : Hands l.client p cs) :
    (l.hands p).handed = l.handed ++ (if l.client.channel.isClosed then [] else cs) := by
  have hchannel : p.channel = l.client.channel.enqueue cs := hands
  simp only [Link.hands, hchannel, ChannelEnd.enqueue]
  cases l.client.channel.isClosed <;> simp

/-- Messages that a client sends are handed over. -/
theorem hands_queue {p p' : ClientPeer A Nat} {ms : List Message}
    (h : p'.channel = p.channel.queue ms) : Hands p p' (ms.map .send) := h

section

variable [Listener A Outbox]

/-- **A client that handles an event** hands over what its listener sends, and the reply. -/
theorem hands_next {p : ClientPeer A Nat} {x : Bool × ClientPeer A Nat} (hx : p.next? = some x) :
    ∃ ms : List Message, Hands p x.2 (ms.map .send) := by
  have hquiet : ∀ q : ClientPeer A Nat, q.channel = p.channel →
      ∃ ms : List Message, Hands p q (ms.map .send) := by
    intro q hq
    exact ⟨[], hands_queue (by rw [hq, ChannelEnd.queue_nil])⟩
  have hfail : ∀ (q : ClientPeer A Nat) (ending : ChannelEnding),
      (q.fail ending).channel = q.channel := by
    intro q ending
    unfold ClientPeer.fail
    split <;> rfl
  unfold ClientPeer.next? at hx
  split at hx
  · cases hx
    exact hquiet p rfl
  · split at hx
    · next e rest _ =>
      cases hx
      cases e with
      | connected pid => exact hquiet _ rfl
      | message m =>
        obtain ⟨reply, -, hpaid⟩ := (ClientPeer.settled_served { p with inbox := rest } m).paid
        exact ⟨_, hands_queue hpaid⟩
      | badMessage reason => exact hquiet _ rfl
      | failed ending => exact hquiet _ (hfail _ ending)
    · split at hx
      · cases hx
        exact hquiet _ (hfail p .closed)
      · cases hx

/-- A route that is removed may send. -/
theorem hands_removeRoute (p : ClientPeer A Nat) (id : RoutingId) :
    ∃ ms : List Message, Hands p (p.removeRoute id).2 (ms.map .send) := by
  unfold ClientPeer.removeRoute
  split
  · next a _ =>
    exact ⟨_, hands_queue (ClientPeer.sendAll_keeps { p with routes := p.routes.erase id }
      (Listener.removed a p.outbox).2.sent).1⟩
  · exact ⟨[], hands_queue p.channel.queue_nil.symm⟩

end

/-! ## 4. Changes -/

/-- **The ways in which an act changes a link.** -/
inductive Change (l : Link A) : Link A → Prop
  /-- The client goes on, and hands over messages. -/
  | sent (p : ClientPeer A Nat) (ms : List Message) (hands : Hands l.client p (ms.map .send)) :
      Change l (l.hands p)
  /-- The client hands over a request. -/
  | asked (p : ClientPeer A Nat) (m : Message) (hopen : l.client.channel.isClosed = false)
      (hands : Hands l.client p [.request m l.handed.length]) : Change l (l.hands p)
  /-- The client's channel is over, so its request fails at once. -/
  | askedLate (t : Nat) (hclosed : l.client.channel.isClosed = true) :
      Change l { l with results := l.results ++ [(t, .error .channelClosed)] }
  /-- The client's end takes a turn. -/
  | client (t : WireTurn Nat) (hcommand : t.command? = none) : Change l (l.atClient t)
  /-- The host's end takes a turn. -/
  | host (t : WireTurn Empty) (hcommand : t.command? = none) : Change l (l.atHost t)
  /-- The application of the host hands over a message. -/
  | told (m : Message) : Change l (l.tells m)
  /-- Something else is done with the host. -/
  | done (d : Host.Deed) (hd : d.leaves l.id = true) : Change l (l.does d)

/-- What leaves the channel of the client alone hands over nothing. -/
theorem change_of_channel {l : Link A} {p : ClientPeer A Nat}
    (hchannel : p.channel = l.client.channel) : Change l { l with client := p } := by
  have hands : Hands l.client p (([] : List Message).map .send) :=
    hands_queue (by rw [hchannel, ChannelEnd.queue_nil])
  have hsame : l.hands p = { l with client := p } := by simp [Link.hands, hchannel]
  exact hsame ▸ .sent p [] hands

/-- A request is handed over, or fails at once. -/
theorem change_asks (l : Link A) (m : Message) :
    Change l (l.asks (l.client.request m l.handed.length)) := by
  cases hclosed : l.client.channel.isClosed with
  | true =>
    have hrequest : l.client.request m l.handed.length
        = ({ answers := [(l.handed.length, .error .channelClosed)] }, l.client) := by
      simp [ClientPeer.request, ChannelEnd.request, hclosed]
    have hsame : l.asks (l.client.request m l.handed.length)
        = { l with results := l.results ++ [(l.handed.length, .error .channelClosed)] } := by
      simp [asks, hrequest, Link.hands]
    exact hsame ▸ .askedLate _ hclosed
  | false =>
    have hsame : l.asks (l.client.request m l.handed.length)
        = l.hands (l.client.request m l.handed.length).2 := by
      simp [asks, ClientPeer.request, ChannelEnd.request, hclosed, Link.hands]
    rw [hsame]
    exact .asked _ m hclosed (ChannelEnd.request_eq_enqueue ..)

/-- **Every act is one of the changes.** -/
theorem change_step [Listener A Outbox] (l : Link A) (a : LinkAct A) : l.Change (l.step a) := by
  cases a with
  | send m =>
    exact .sent _ [m] (hands_queue (l.client.channel.send_eq_queue m))
  | request m => exact l.change_asks m
  | sync final => exact l.change_asks _
  | next =>
    simp only [step]
    cases hx : l.client.next? with
    | none => exact change_of_channel rfl
    | some x =>
      obtain ⟨ms, hands⟩ := hands_next hx
      exact .sent x.2 ms hands
  | removeRoute id =>
    obtain ⟨ms, hands⟩ := hands_removeRoute l.client id
    exact .sent _ ms hands
  | other f => exact change_of_channel rfl
  | client t =>
    simp only [step]
    split
    · exact change_of_channel rfl
    · next hcommand => exact .client t (by simpa using hcommand)
  | host t =>
    simp only [step]
    split
    · exact change_of_channel rfl
    · next hcommand => exact .host t (by simpa using hcommand)
  | tell m => exact .told m
  | deed d =>
    simp only [step]
    split
    · next hd => exact .done d hd
    · exact change_of_channel rfl

/-! ## 5. The start -/

/-- **A client that has just connected has said hello**, and has handed over nothing. -/
theorem start_eq (config : HostConfig) (prior : List Host.Deed) (id : PeerId) (token : Token)
    (pid : UInt32) :
    (start config prior id token pid : Link A) =
      { config, prior, id
        client :=
          ClientPeer.ofChannel { ChannelEnd.listening token.channel with phase := .greeting } token
        toHost := (Handshake.greeting pid token.channel).frame
        sent := [Handshake.greeting pid token.channel] } := by
  have hbytes : [Handshake.greeting pid token.channel].flatMap Message.frame
      = (Handshake.greeting pid token.channel).frame := List.append_nil _
  simp [start, atClient, afterClient, ChannelTurn.taking, ChannelTurn.left, ChannelEnd.undergo,
    ChannelEnd.accept, ChannelEnd.listening, ClientPeer.ofChannel, ChannelOutput.bytes, hbytes]

end Link

end ControlPlane
