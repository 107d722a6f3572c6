/-
# What a peer owes and pays

A peer that is given messages, one after the other, hands its channel one reply for each of them
whose sender waits, and none for the others.  What the reply says depends on what became of the
message only.  Both kinds of peer follow this rule, whatever their routes, their listeners and
their surroundings do.

* `Message.Pays`: what a reply has to say, given what became of the message;
* `Settlement`: a peer has been given some messages and owes nothing any more;
* `Settlement.cons`: one message after the other;
* `replies_settled`: every run of either peer is settled.

A listener of a client may send messages of its own while it handles one.  They are recorded
beside the replies, as they stand between them in the channel.
-/
import Mathlib.Data.List.Forall2
import ControlPlane.Proofs.Peer.Replies

namespace ControlPlane

/-! ## 1. What is owed -/

/-- **A reply pays for a message** that had this outcome. -/
structure Message.Pays (r m : Message) (o : Outcome) : Prop extends r.Answers m where
  /-- It says that the message was handled exactly when it was. -/
  failed : r.failed = false ↔ o = .ok .handled ∨ ∃ v, o = .ok (.reply v)
  /-- A payload that was given is passed on. -/
  given : ∀ v, o = .ok (.reply v) → r.payload = v
  /-- Else there is none. -/
  empty : (∀ v, o ≠ .ok (.reply v)) → r.payload = .null

/-- **What is paid for a message**: nothing unless its sender waits, and then one reply. -/
def Settles (m : Message) (o : Outcome) : Option Message → Prop
  | none => m.sync = false
  | some r => m.sync = true ∧ r.Pays m o

/-- The reply that is owed is what has to be paid. -/
theorem settles_replyFor (m : Message) (o : Outcome) : Settles m o (replyFor m o) := by
  unfold replyFor
  cases hsync : m.sync with
  | false => exact hsync
  | true =>
    rw [if_pos rfl]
    rcases o with e | (_ | v | _)
    · exact ⟨hsync, m.answers_errorReply, by simp [Message.errorReply], by simp, fun _ => rfl⟩
    · exact ⟨hsync, m.answers_replyWith _, by simp [Message.replyWith], by simp, fun _ => rfl⟩
    · exact ⟨hsync, m.answers_replyWith _, by simp [Message.replyWith],
        by simp [Message.replyWith], fun h => absurd rfl (h v)⟩
    · exact ⟨hsync, m.answers_errorReply, by simp [Message.errorReply], by simp, fun _ => rfl⟩

/-- Whether a message broke the protocol. -/
def Outcome.isFault (o : Outcome) : Bool := !o.isOk

/-! ## 2. The queue of a channel -/

namespace ChannelEnd

variable {τ : Type}

/-- **Messages that join the queue of a channel**, in their order. -/
def queue (e : ChannelEnd τ) (ms : List Message) : ChannelEnd τ := e.enqueue (ms.map .send)

/-- Nothing joins the queue. -/
@[simp] theorem queue_nil (e : ChannelEnd τ) : e.queue [] = e := e.enqueue_nil

/-- A message that is handed over joins the queue. -/
theorem send_eq_queue (e : ChannelEnd τ) (m : Message) : (e.send m).2 = e.queue [m] :=
  congrArg Prod.snd (e.send_eq_enqueue m)

/-- What joins the queue in two parts joins it. -/
theorem queue_append (e : ChannelEnd τ) (ms ns : List Message) :
    e.queue (ms ++ ns) = (e.queue ms).queue ns := by
  rw [queue, List.map_append]
  exact e.enqueue_append _ _

end ChannelEnd

/-! ## 3. Settlements -/

/-- **A message that a peer was given**, and what came of it. -/
structure Served (P : Type) where
  message : Message
  outcome : Outcome
  /-- What the listener at its address made of it, if there is one. -/
  heard : Option Outcome
  /-- What that listener sent by itself. -/
  own : List Message
  before : P
  after : P

section Settlement

variable {P τ : Type}

/-- What is read off a peer: its channel, and its count of messages that broke the protocol. -/
structure PeerView (P τ : Type) where
  channel : P → ChannelEnd τ
  bad : P → Nat

/-- **One message is settled.** -/
structure Served.Settled (view : PeerView P τ) (x : Served P) : Prop where
  /-- The reply that is owed is handed over, behind what a listener sent, and nothing else. -/
  paid : ∃ reply, Settles x.message x.outcome reply ∧
    view.channel x.after = (view.channel x.before).queue (x.own ++ reply.toList)
  /-- The message is counted exactly when it broke the protocol. -/
  counted : view.bad x.after = view.bad x.before + x.outcome.isFault.toNat
  /-- What becomes of a message to a route is up to its listener; without one it is unhandled. -/
  routed : x.message.isControl = false → x.outcome = x.heard.getD (.ok .unhandled)

/-- **A peer owes nothing** after it was given some messages, from `p` to `q`. -/
structure Settlement (view : PeerView P τ) (served : List (Served P)) (p q : P) : Prop where
  /-- Every single message is settled. -/
  each : ∀ x ∈ served, x.Settled view
  /-- The replies go out one for each message whose sender waits, in their order. -/
  paid : ∃ replies, List.Forall₂ (fun x r => Settles x.message x.outcome r) served replies ∧
    view.channel q = (view.channel p).queue
      ((served.zip replies).flatMap fun y => y.1.own ++ y.2.toList)
  /-- The count grows by the number of messages that broke the protocol. -/
  counted : view.bad q = view.bad p + served.countP fun x => x.outcome.isFault

namespace Settlement

variable {view : PeerView P τ}

/-- Who was given nothing owes nothing. -/
theorem nil (p : P) : Settlement view [] p p where
  each := by simp
  paid := ⟨[], .nil, by simp⟩
  counted := rfl

/-- **A message that is settled may come before others that are.** -/
theorem cons {x : Served P} {rest : List (Served P)} {q : P} (hx : x.Settled view)
    (hrest : Settlement view rest x.after q) : Settlement view (x :: rest) x.before q where
  each := by
    intro y hy
    rcases List.mem_cons.1 hy with rfl | hy
    · exact hx
    · exact hrest.each y hy
  paid := by
    obtain ⟨reply, hpays, hchannel⟩ := hx.paid
    obtain ⟨replies, hothers, hlast⟩ := hrest.paid
    refine ⟨reply :: replies, .cons hpays hothers, ?_⟩
    rw [hlast, hchannel, ← ChannelEnd.queue_append, List.zip_cons_cons, List.flatMap_cons]
  counted := by
    rw [hrest.counted, hx.counted, List.countP_cons]
    cases x.outcome.isFault with
    | false => simp
    | true => simp; omega

end Settlement

end Settlement

/-! ## 4. The host's peer -/

namespace HostPeer

variable {A S : Type} [Listener A ProfileStore]

/-- What is read off the peer of a host. -/
def view : PeerView (HostPeer A) Empty := ⟨(·.channel), (·.badMessages)⟩

/-- A message, with what the peer meets while it handles it. -/
structure Delivery (S : Type) where
  message : Message
  services : HostServices S
  /-- What the system answers if a folder has to be made. -/
  failure : Option String

/-- What came of a message. -/
def served (p : HostPeer A) (s : S) (d : Delivery S) : Served (HostPeer A) where
  message := d.message
  outcome := (receive d.services d.failure p d.message s).outcome
  heard := (p.routes.get? d.message.address).map fun l =>
    (Listener.receive l d.message (d.services.profiles s)).outcome
  own := []
  before := p
  after := (receive d.services d.failure p d.message s).peer

/-- **The peer is given some messages**, one after the other: what came of each, and the peer. -/
def serve (p : HostPeer A) (s : S) : List (Delivery S) → List (Served (HostPeer A)) × HostPeer A
  | [] => ([], p)
  | d :: ds =>
    let t := receive d.services d.failure p d.message s
    let (rest, q) := serve t.peer t.state ds
    (p.served s d :: rest, q)

/-- The messages that were given are those that came. -/
theorem messages_serve (p : HostPeer A) (s : S) (ds : List (Delivery S)) :
    (p.serve s ds).1.map (·.message) = ds.map (·.message) := by
  induction ds generalizing p s with
  | nil => rfl
  | cons d ds ih => exact congrArg (d.message :: ·) (ih _ _)

omit [Listener A ProfileStore] in
/-- A message that broke the protocol is counted. -/
theorem badMessages_settle (p : HostPeer A) (o : Outcome) :
    (p.settle o).badMessages = p.badMessages + o.isFault.toNat := by
  cases o <;> rfl

omit [Listener A ProfileStore] in
/-- A reply is not counted. -/
@[simp] theorem badMessages_pay (p : HostPeer A) (m : Message) (o : Outcome) :
    (p.pay m o).badMessages = p.badMessages := by
  unfold pay
  split <;> rfl

/-- The removal of a route counts nothing. -/
@[simp] theorem badMessages_removeRoute (p : HostPeer A) (id : RoutingId) (s : ProfileStore) :
    (p.removeRoute id s).peer.badMessages = p.badMessages := by
  unfold removeRoute
  split <;> rfl

/-- Handling a message counts nothing; that is done behind it. -/
theorem badMessages_handle (services : HostServices S) (failure : Option String) (p : HostPeer A)
    (m : Message) (s : S) :
    (handle services failure p m s).peer.badMessages = p.badMessages := by
  have hway := handles services failure p m s
  generalize handle services failure p m s = t at hway
  cases hway <;> simp

omit [Listener A ProfileStore] in
/-- The reply that is owed is all that is handed over. -/
theorem channel_pay (p : HostPeer A) (m : Message) (o : Outcome) :
    (p.pay m o).channel = p.channel.queue (replyFor m o).toList := by
  unfold pay
  cases replyFor m o with
  | none => simp
  | some r => exact p.channel.send_eq_queue r

/-- **One message to the peer of a host is settled.** -/
theorem settled_served (p : HostPeer A) (s : S) (d : Delivery S) : (p.served s d).Settled view where
  paid := by
    refine ⟨_, settles_replyFor d.message _, ?_⟩
    simp only [view, served, receive, channel_pay, channel_settle, channel_handle,
      List.nil_append]
  counted := by
    simp only [view, served, receive, badMessages_pay, badMessages_settle, badMessages_handle]
  routed hrouted := by
    have hrouted : d.message.isControl = false := hrouted
    simp only [served, receive, handle, hrouted, Bool.false_eq_true, if_false, HostPeer.routed,
      deliver]
    cases p.routes.get? d.message.address <;> rfl

/-- **Every run of the peer of a host is settled.** -/
theorem settlement_serve (p : HostPeer A) (s : S) (ds : List (Delivery S)) :
    Settlement view (p.serve s ds).1 p (p.serve s ds).2 := by
  induction ds generalizing p s with
  | nil => exact .nil p
  | cons d ds ih => exact .cons (p.settled_served s d) (ih _ _)

end HostPeer

/-! ## 5. The client's peer -/

namespace ClientPeer

variable {A τ : Type}

/-- What is read off the peer of a client. -/
def view : PeerView (ClientPeer A τ) τ := ⟨(·.channel), (·.badMessages)⟩

/-- Messages that are handed to the channel join its queue, and are not counted. -/
theorem sendAll_keeps (p : ClientPeer A τ) (ms : List Message) :
    (p.sendAll ms).channel = p.channel.queue ms ∧
      (p.sendAll ms).badMessages = p.badMessages := by
  induction ms generalizing p with
  | nil => exact ⟨p.channel.queue_nil.symm, rfl⟩
  | cons m ms ih =>
    obtain ⟨hchannel, hcount⟩ := ih (p.send m).2
    refine ⟨?_, hcount⟩
    have hfirst : (p.send m).2.channel = p.channel.queue [m] := p.channel.send_eq_queue m
    rw [hfirst, ← ChannelEnd.queue_append] at hchannel
    exact hchannel

/-- A message that broke the protocol is counted. -/
theorem badMessages_settle (p : ClientPeer A τ) (o : Outcome) :
    (p.settle o).badMessages = p.badMessages + o.isFault.toNat := by
  cases o <;> rfl

/-- A reply is not counted. -/
theorem badMessages_pay (p : ClientPeer A τ) (m : Message) (o : Outcome) :
    (p.pay m o).badMessages = p.badMessages := by
  unfold pay
  split <;> rfl

/-- The reply that is owed is all that is handed over. -/
theorem channel_pay (p : ClientPeer A τ) (m : Message) (o : Outcome) :
    (p.pay m o).channel = p.channel.queue (replyFor m o).toList := by
  unfold pay
  cases replyFor m o with
  | none => simp
  | some r => exact p.channel.send_eq_queue r

/-- A message to the peer itself touches neither the channel nor the count. -/
theorem control_keeps (p : ClientPeer A τ) (m : Message) :
    (p.control m).2.channel = p.channel ∧ (p.control m).2.badMessages = p.badMessages := by
  unfold control
  split
  · exact ⟨rfl, rfl⟩
  · exact ⟨rfl, rfl⟩
  · split <;> exact ⟨rfl, rfl⟩

variable [Listener A Outbox]

/-- What came of a message. -/
def served (p : ClientPeer A τ) (m : Message) : Served (ClientPeer A τ) where
  message := m
  outcome := (p.handle m).1
  heard := (p.routes.get? m.address).map fun l => (Listener.receive l m p.outbox).outcome
  own := p.listenerSends m
  before := p
  after := p.receive m

/-- **The peer is given some messages**, one after the other: what came of each, and the peer. -/
def serve (p : ClientPeer A τ) : List Message → List (Served (ClientPeer A τ)) × ClientPeer A τ
  | [] => ([], p)
  | m :: ms =>
    let (rest, q) := (p.receive m).serve ms
    (p.served m :: rest, q)

/-- The messages that were given are those that came. -/
theorem messages_serve (p : ClientPeer A τ) (ms : List Message) :
    (p.serve ms).1.map (·.message) = ms := by
  induction ms generalizing p with
  | nil => rfl
  | cons m ms ih => exact congrArg (m :: ·) (ih _)

/-- Handling a message hands over what a listener sends, and counts nothing. -/
theorem handle_keeps (p : ClientPeer A τ) (m : Message) :
    (p.handle m).2.channel = p.channel.queue (p.listenerSends m) ∧
      (p.handle m).2.badMessages = p.badMessages := by
  unfold handle listenerSends
  cases m.isControl with
  | true => simpa using p.control_keeps m
  | false => exact sendAll_keeps _ _

/-- **One message to the peer of a client is settled.** -/
theorem settled_served (p : ClientPeer A τ) (m : Message) : (p.served m).Settled view where
  paid := by
    refine ⟨_, settles_replyFor m _, ?_⟩
    simp only [view, served, receive, channel_pay, channel_settle, (p.handle_keeps m).1,
      ChannelEnd.queue_append]
  counted := by
    simp only [view, served, receive, badMessages_pay, badMessages_settle, (p.handle_keeps m).2]
  routed hrouted := by
    have hrouted : m.isControl = false := hrouted
    simp only [served, handle, hrouted, Bool.false_eq_true, if_false, ClientPeer.routed, deliver]
    cases p.routes.get? m.address <;> rfl

/-- **Every run of the peer of a client is settled.** -/
theorem settlement_serve (p : ClientPeer A τ) (ms : List Message) :
    Settlement view (p.serve ms).1 p (p.serve ms).2 := by
  induction ms generalizing p with
  | nil => exact .nil p
  | cons m ms ih => exact .cons (p.settled_served m) (ih _)

end ClientPeer

/-! ## 6. Both peers -/

/-- **A peer pays one reply for each message whose sender waits**, in their order, and counts the
messages that broke the protocol.  It does so from any state, with any routes and listeners, and
on the side of the host whatever its surroundings answer. -/
theorem replies_settled {A B S τ : Type} [Listener A ProfileStore] [Listener B Outbox] :
    (∀ (p : HostPeer A) (s : S) (ds : List (HostPeer.Delivery S)),
      (p.serve s ds).1.map (·.message) = ds.map (·.message) ∧
      Settlement HostPeer.view (p.serve s ds).1 p (p.serve s ds).2) ∧
    (∀ (p : ClientPeer B τ) (ms : List Message),
      (p.serve ms).1.map (·.message) = ms ∧
      Settlement ClientPeer.view (p.serve ms).1 p (p.serve ms).2) :=
  ⟨fun p s ds => ⟨p.messages_serve s ds, p.settlement_serve s ds⟩,
    fun p ms => ⟨p.messages_serve ms, p.settlement_serve ms⟩⟩

end ControlPlane
