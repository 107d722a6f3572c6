/-
# Which requests are replied to

A message that asks for a reply passes two layers.  The end of the channel sorts what it reads,
and the peer above it owes one reply for each message that it is given.

* `ChannelEnd.read?_message`: what the end makes of a message that is no reply;
* `HostPeer.channel_receive`, `ClientPeer.channel_receive`: one reply for each message, whatever
  becomes of it;
* `sync_replied`: both layers together, from the frame to the reply.

The layers do not agree on one type.  The end takes every later message of the type of a hello for
a second hello and keeps it back, also one that asks for a reply.  The peer never learns of it, and
its sender waits until the channel ends (`sync_hello_unreplied`).
-/
import ControlPlane.Peer.Client
import ControlPlane.Proofs.Channel.End
import ControlPlane.Proofs.Host.Moves

namespace ControlPlane

/-! ## 1. Replies -/

/-- **A message is a reply to a request**: it goes to the same address, under the same type and
request id. -/
structure Message.Answers (r m : Message) : Prop where
  reply : r.reply = true
  sync : r.sync = false
  address : r.address = m.address
  type : r.type = m.type
  request : r.request = m.request

/-- A reply that was built from a request is one to it. -/
theorem Message.answers_replyWith (m : Message) (payload : Json) :
    (m.replyWith payload).Answers m :=
  ⟨rfl, rfl, rfl, rfl, rfl⟩

/-- So is the reply that says that the request failed. -/
theorem Message.answers_errorReply (m : Message) : m.errorReply.Answers m :=
  ⟨rfl, rfl, rfl, rfl, rfl⟩

/-- **A reply is owed to every request**, whatever became of it. -/
theorem replyFor_sync {m : Message} (hsync : m.sync = true) (outcome : Outcome) :
    ∃ r, replyFor m outcome = some r ∧ r.Answers m := by
  unfold replyFor
  rw [if_pos hsync]
  split
  · exact ⟨_, rfl, m.answers_replyWith _⟩
  · exact ⟨_, rfl, m.answers_replyWith _⟩
  · exact ⟨_, rfl, m.answers_errorReply⟩
  · exact ⟨_, rfl, m.answers_errorReply⟩

/-! ## 2. The end of the channel -/

namespace ChannelEnd

variable {τ : Type}

/-- **What becomes of a message that is no reply**: its peer is given it, unless it has the type
of a hello. -/
def eventOf (m : Message) : ChannelEvent :=
  if m.type = MessageType.hello then .badMessage duplicateHello else .message m

/-- A payload that holds a message which is no reply becomes one event, and nothing else. -/
theorem takeFrame_message {payload : Bytes} {m : Message} (hparse : Message.parse payload = .ok m)
    (hreply : m.reply = false) (e : ChannelEnd τ) :
    e.takeFrame payload = ({ events := [eventOf m] }, e) := by
  simp only [takeFrame, hparse, takeMessage, hreply, eventOf]
  by_cases hhello : m.type = MessageType.hello <;> simp [hhello]

/-- So does the next frame that an open end reads. -/
theorem read?_message {e : ChannelEnd τ} {payload rest : Bytes} {m : Message}
    (hopen : e.phase = .opened) (hframe : Frame.next e.arrived = .frame payload rest)
    (hparse : Message.parse payload = .ok m) (hreply : m.reply = false) :
    e.read? = some ({ events := [eventOf m] }, { e with arrived := rest }) := by
  rw [read?_frame hopen hframe, takeFrame_message hparse hreply]

end ChannelEnd

/-- **The reply to a request has been handed to the end of a channel**, after `own` messages that
its listener sent, and nothing else has changed there.  A request that looks like a hello has
changed nothing. -/
def Replied {τ : Type} (m : Message) (own : List Message) (e e' : ChannelEnd τ) : Prop :=
  if m.type = MessageType.hello then e' = e
  else ∃ r : Message, r.Answers m ∧
    e' = { e with commands := e.commands ++ own.map .send ++ [.send r] }

/-! ## 3. The host's peer -/

namespace HostPeer

variable {A S : Type} [Listener A ProfileStore]

/-- The removal of a route leaves the channel alone. -/
@[simp] theorem channel_removeRoute (p : HostPeer A) (id : RoutingId) (s : ProfileStore) :
    (p.removeRoute id s).peer.channel = p.channel := by
  unfold removeRoute
  split <;> rfl

/-- Handling a message leaves the channel alone. -/
theorem channel_handle (services : HostServices S) (failure : Option String) (p : HostPeer A)
    (m : Message) (s : S) : (handle services failure p m s).peer.channel = p.channel := by
  have hway := handles services failure p m s
  generalize handle services failure p m s = t at hway
  cases hway <;> simp

omit [Listener A ProfileStore] in
/-- A count leaves the channel alone. -/
@[simp] theorem channel_settle (p : HostPeer A) (o : Outcome) :
    (p.settle o).channel = p.channel := by
  cases o <;> rfl

/-- **The peer of a host hands over one reply for each request.** -/
theorem channel_receive (services : HostServices S) (failure : Option String) (p : HostPeer A)
    {m : Message} (s : S) (hsync : m.sync = true) (hopen : p.channel.isClosed = false) :
    ∃ r : Message, r.Answers m ∧ (receive services failure p m s).peer.channel
      = { p.channel with commands := p.channel.commands ++ [.send r] } := by
  obtain ⟨r, howed, hanswers⟩ := replyFor_sync hsync (handle services failure p m s).outcome
  refine ⟨r, hanswers, ?_⟩
  have hchannel : ((handle services failure p m s).peer.settle
      (handle services failure p m s).outcome).channel = p.channel := by
    rw [channel_settle, channel_handle]
  simp only [receive, pay, howed, send, hchannel, ChannelEnd.send_of_open hopen]

end HostPeer

namespace Host

/-- **A message that is handled by the host is replied to** on the channel it came from. -/
theorem replied_receive {h : Host} (env : Surroundings) {id : PeerId} {p : HostPeer Empty}
    {m : Message} (hp : h.peer? id = some p) (hsync : m.sync = true)
    (hopen : p.channel.isClosed = false) :
    ∃ p' r, (h.receive env id m).peer? id = some p' ∧ r.Answers m ∧
      p'.channel = { p.channel with commands := p.channel.commands ++ [.send r] } := by
  obtain ⟨r, hanswers, hchannel⟩ := HostPeer.channel_receive (services env) env.folderFailure p
    { h with peers := h.peers.erase id } hsync hopen
  refine ⟨_, r, ?_, hanswers, hchannel⟩
  have hget : h.peers.get? id = some p := hp
  simp [receive, peer?, hget]

/-- The event of a message that is no reply, when its turn has come. -/
theorem replied_onEvent {h : Host} {env : Surroundings} {id : PeerId} {p : HostPeer Empty}
    {m : Message} (hp : h.peer? id = some p) (hsync : m.sync = true)
    (hopen : p.channel.isClosed = false) :
    ∃ p', (h.onEvent env id (ChannelEnd.eventOf m)).peer? id = some p' ∧
      Replied m [] p.channel p'.channel := by
  unfold ChannelEnd.eventOf Replied
  split
  · refine ⟨p.countBad, ?_, rfl⟩
    have hget : h.peers.get? id = some p := hp
    simp [onEvent, peer?, hget]
  · obtain ⟨p', r, hp', hanswers, hchannel⟩ := replied_receive env hp hsync hopen
    exact ⟨p', hp', r, hanswers, by simpa using hchannel⟩

end Host

/-! ## 4. The client's peer -/

namespace ClientPeer

variable {A τ : Type}

/-- Messages that are handed to an open end are its last commands. -/
theorem sendAll_of_open {p : ClientPeer A τ} (hopen : p.channel.isClosed = false)
    (ms : List Message) :
    p.sendAll ms
      = { p with channel :=
            { p.channel with commands := p.channel.commands ++ ms.map .send } } := by
  induction ms generalizing p with
  | nil => simp [sendAll]
  | cons m ms ih =>
    have hstep : p.sendAll (m :: ms) = (p.send m).2.sendAll ms := rfl
    have hsent : (p.send m).2
        = { p with channel := { p.channel with commands := p.channel.commands ++ [.send m] } } := by
      simp [send, ChannelEnd.send_of_open hopen]
    rw [hstep, hsent, ih (by simpa [ChannelEnd.isClosed] using hopen)]
    simp

section Receive

variable [Listener A Outbox]

/-- What the listener at the address of a message sends while it handles that message. -/
def listenerSends (p : ClientPeer A τ) (m : Message) : List Message :=
  if m.isControl then [] else (deliver p.routes m p.outbox).context.sent

/-- What handling a message does to the channel, and that it does not end it. -/
theorem channel_handle {p : ClientPeer A τ} (hopen : p.channel.isClosed = false) (m : Message) :
    (p.handle m).2.channel = { p.channel with
      commands := p.channel.commands ++ (p.listenerSends m).map .send } ∧
    (p.handle m).2.failed = p.failed := by
  unfold handle listenerSends
  split
  · unfold control
    split
    · simp
    · simp
    · split <;> simp
  · simp only [routed]
    rw [sendAll_of_open (p := { p with routes := (deliver p.routes m p.outbox).routes }) hopen]
    exact ⟨rfl, rfl⟩

omit [Listener A Outbox] in
/-- A count leaves the channel alone. -/
theorem channel_settle (p : ClientPeer A τ) (o : Outcome) :
    (p.settle o).channel = p.channel ∧ (p.settle o).failed = p.failed := by
  cases o <;> exact ⟨rfl, rfl⟩

/-- **The peer of a client hands over one reply for each request**, after what the listener sent. -/
theorem channel_receive {p : ClientPeer A τ} {m : Message} (hsync : m.sync = true)
    (hopen : p.channel.isClosed = false) :
    ∃ r : Message, r.Answers m ∧ (p.receive m).failed = p.failed ∧
      (p.receive m).channel = { p.channel with
        commands := p.channel.commands ++ (p.listenerSends m).map .send ++ [.send r] } := by
  obtain ⟨r, howed, hanswers⟩ := replyFor_sync hsync (p.handle m).1
  obtain ⟨hchannel, hfailed⟩ := channel_handle hopen m
  obtain ⟨hsettled, hstill⟩ := (p.handle m).2.channel_settle (p.handle m).1
  have hafter : ((p.handle m).2.settle (p.handle m).1).channel.isClosed = false := by
    rw [hsettled, hchannel]
    exact hopen
  refine ⟨r, hanswers, ?_, ?_⟩
  · simp [receive, pay, howed, send, hstill, hfailed]
  · simp only [receive, pay, howed, send]
    rw [ChannelEnd.send_of_open hafter, hsettled, hchannel]

/-- The event of a message that is no reply, when its turn has come. -/
theorem replied_next {p : ClientPeer A τ} {m : Message} {later : List ChannelEvent}
    (hinbox : p.inbox = ChannelEnd.eventOf m :: later) (hworks : p.failed = false)
    (hsync : m.sync = true) (hopen : p.channel.isClosed = false) :
    ∃ p', p.next? = some (true, p') ∧ Replied m (p.listenerSends m) p.channel p'.channel := by
  have hnext : p.next? = some (!({ p with inbox := later }.onEvent (ChannelEnd.eventOf m)).failed,
      { p with inbox := later }.onEvent (ChannelEnd.eventOf m)) := by
    simp [next?, hworks, hinbox]
  refine ⟨{ p with inbox := later }.onEvent (ChannelEnd.eventOf m), ?_, ?_⟩
  · rw [hnext]
    unfold ChannelEnd.eventOf
    split
    · simp [onEvent, countBad, hworks]
    · obtain ⟨r, _, hfailed, _⟩ := channel_receive (p := { p with inbox := later }) hsync hopen
      have hstill : ({ p with inbox := later }.receive m).failed = false := hfailed.trans hworks
      rw [onEvent, hstill]
      rfl
  · unfold ChannelEnd.eventOf Replied
    split
    · rfl
    · obtain ⟨r, hanswers, _, hchannel⟩ :=
        channel_receive (p := { p with inbox := later }) hsync hopen
      exact ⟨r, hanswers, hchannel⟩

end Receive

end ClientPeer

/-! ## 5. From the frame to the reply -/

/-- **A host replies to a message in a frame.**  The peer's end reads the frame, and an event joins
the queue; when its turn has come and the channel has not ended, the reply is handed over.  In
between the host may have become any other one, `g`. -/
def HostReplies (payload rest : Bytes) (m : Message) : Prop :=
  ∀ (h : Host) (id : PeerId) (p : HostPeer Empty), h.peer? id = some p →
    p.channel.phase = .opened → Frame.next p.channel.arrived = .frame payload rest →
    h.move (.channel id ChannelEnd.readNext) =
      { h with
        events := h.events ++ [(id, ChannelEnd.eventOf m)]
        peers := h.peers.insert id { p with channel := { p.channel with arrived := rest } } } ∧
    ∀ (g : Host) (env : Surroundings) (later : List (PeerId × ChannelEvent))
      (q : HostPeer Empty), g.events = (id, ChannelEnd.eventOf m) :: later →
      g.peer? id = some q → q.channel.isClosed = false →
      ∃ q', (g.move (.takeEvent env)).peer? id = some q' ∧ Replied m [] q.channel q'.channel

/-- **A client replies to a message in a frame.**  The same, with listeners that may send messages
of their own before the reply. -/
def ClientReplies (A τ : Type) [Listener A Outbox] (payload rest : Bytes) (m : Message) : Prop :=
  ∀ p : ClientPeer A τ, p.channel.phase = .opened →
    Frame.next p.channel.arrived = .frame payload rest →
    p.channel.readNext =
      ({ events := [ChannelEnd.eventOf m] }, { p.channel with arrived := rest }) ∧
    ∀ (q : ClientPeer A τ) (later : List ChannelEvent),
      q.inbox = ChannelEnd.eventOf m :: later → q.failed = false → q.channel.isClosed = false →
      ∃ q', q.next? = some (true, q') ∧ Replied m (q.listenerSends m) q.channel q'.channel

/-- **A request that is read from an open channel gets exactly one reply**, on both sides, whatever
its address, its request id and its payload, and whatever state the peer is in.  The one exception
is a request of the type of a hello, which gets none. -/
theorem sync_replied {A τ : Type} [Listener A Outbox] {payload rest : Bytes} {m : Message}
    (hparse : Message.parse payload = .ok m) (hsync : m.sync = true) (hreply : m.reply = false) :
    HostReplies payload rest m ∧ ClientReplies A τ payload rest m := by
  constructor
  · intro h id p hp hopen hframe
    have hread := ChannelEnd.read?_message hopen hframe hparse hreply
    refine ⟨?_, fun g env later q hevents hq hq' => ?_⟩
    · simp [Host.move, Host.onChannel, hp, ChannelEnd.readNext, hread]
    · have hstep : g.move (.takeEvent env)
          = { g with events := later }.onEvent env id (ChannelEnd.eventOf m) := by
        simp [Host.move, Host.stepChannels?, hevents]
      rw [hstep]
      exact Host.replied_onEvent (h := { g with events := later }) hq hsync hq'
  · intro p hopen hframe
    have hread := ChannelEnd.read?_message hopen hframe hparse hreply
    refine ⟨by simp [ChannelEnd.readNext, hread], fun q later hinbox hworks hq => ?_⟩
    exact ClientPeer.replied_next hinbox hworks hsync hq

/-- A result that is there was not an error. -/
theorem eq_ok_of_toOption {ε α : Type} {x : Except ε α} {a : α} (h : x.toOption = some a) :
    x = .ok a := by
  cases x with
  | ok b => exact congrArg Except.ok (Option.some.inj h)
  | error e => cases h

/-- A request to a route that is not there, of a type that nobody knows. -/
def strangeRequest : Message := { address := ⟨9⟩, type := 77, sync := true, request := some 1 }

/-- A strange request is replied to as any other one. -/
theorem sync_replied_strangeRequest :
    Message.parse strangeRequest.bytes = .ok strangeRequest ∧
      HostReplies strangeRequest.bytes [] strangeRequest ∧
      ClientReplies Empty Empty strangeRequest.bytes [] strangeRequest := by
  have hparse : Message.parse strangeRequest.bytes = .ok strangeRequest :=
    eq_ok_of_toOption (by decide +kernel)
  exact ⟨hparse, sync_replied hparse rfl rfl⟩

/-- A request of the type of a hello. -/
def helloRequest : Message :=
  { address := ⟨9⟩, type := MessageType.hello, sync := true, request := some 1 }

/-- A client connects, says hello, and sends such a request, which the host reads and handles. -/
def helloRequestRun : List Host.Move :=
  let env := Surroundings.atStart "" 0
  [.openChannel env 100,
    .channel ⟨1⟩ (·.accept 1),
    .channel ⟨1⟩ fun e => ({}, e.arrive
      ((Handshake.greeting 7 e.name).frame ++ helloRequest.frame)),
    .channel ⟨1⟩ ChannelEnd.readNext, .takeEvent env,
    .channel ⟨1⟩ ChannelEnd.readNext, .takeEvent env]

/-- **A request of the type of a hello is not replied to.**  The host has read the request and has
nothing left to handle; the peer is connected and its channel open, but nothing was handed over. -/
theorem sync_hello_unreplied :
    ((((Host.start {}).run helloRequestRun).peer? ⟨1⟩).map fun p =>
        (p.pid, p.channel.phase, p.channel.arrived, p.channel.commands.length, p.badMessages))
      = some (some 7, .opened, [], 0, 1) ∧
    ((Host.start {}).run helloRequestRun).events = [] := by
  decide +kernel

end ControlPlane
