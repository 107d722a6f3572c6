/-
# The life of a client's peer

Events happen on the channel of a client until nothing more happens there.  Its peer handles them in
their order, one at a time or many at once, while the client uses it in other ways in between.  What
the peer has become is a function of the events it has handled, and a failure is the last of them.

* `ClientPeer.Act`, `live`: what happens to a peer and what is done with it, and whole lives;
* `Handled`: an event that was handled, with the peer that handled it;
* `Handled.after_eq`, `upcoming?_eq`: what one event makes of the peer, in one equation;
* `follow`, `act_call`: every call that handles events is one loop;
* `Account`, `account_live`: every field of the peer, read off the events it has handled;
* `live_of_failed`: a peer that has failed stays as it is;
* `Life`, `life_live`: what follows for every life.

A message to a route is judged by the listener it finds there, so the record of an event keeps the
peer that handled it.
-/
import Mathlib.Data.List.Induction
import ControlPlane.Proofs.Peer.Settlement

namespace ControlPlane

/-! ## 1. What messages and events say -/

/-- **The name that a message gives to the channel of the worker**: a well-formed command to the
peer itself that names a channel of this version. -/
def Message.workerName? (m : Message) : Option String :=
  if m.isControl then
    match ClientCommand.ofMessage m with
    | .ok (some (.nameChannel name)) => if ChannelName.isCompatible name then some name else none
    | .ok none | .error _ => none
  else none

/-- A name that is given is one of this version. -/
theorem Message.isCompatible_of_workerName? {m : Message} {name : String}
    (h : m.workerName? = some name) : ChannelName.isCompatible name = true := by
  unfold Message.workerName? at h
  split at h
  · split at h
    · split at h
      next hcompatible =>
        obtain rfl := Option.some.inj h
        exact hcompatible
      next => cases h
    all_goals cases h
  · cases h

/-- Why the channel is over, if an event says so. -/
def ChannelEvent.ending? : ChannelEvent → Option ChannelEnding
  | .failed ending => some ending
  | .connected _ | .message _ | .badMessage _ => none

/-- **The first reason in some events for which the channel is over.**  Events that come to an end
without one stand for a closed connection. -/
def firstEnding (events : List ChannelEvent) : ChannelEnding :=
  (events.findSome? ChannelEvent.ending?).getD .closed

namespace ClientPeer

variable {A τ : Type}

/-! ## 2. Handling a message -/

/-- Messages that are handed to the channel join its queue. -/
theorem sendAll_eq (p : ClientPeer A τ) (ms : List Message) :
    p.sendAll ms = { p with channel := p.channel.queue ms } := by
  induction ms generalizing p with
  | nil => rw [ChannelEnd.queue_nil]; rfl
  | cons m ms ih =>
    have hstep : p.sendAll (m :: ms) = (p.send m).2.sendAll ms := rfl
    have hfirst : (p.send m).2.channel = p.channel.queue [m] := p.channel.send_eq_queue m
    have hsplit : m :: ms = [m] ++ ms := rfl
    rw [hstep, ih, hfirst, hsplit, ChannelEnd.queue_append]
    rfl

/-- A reply that is owed joins the queue of the channel. -/
theorem pay_eq (p : ClientPeer A τ) (m : Message) (o : Outcome) :
    p.pay m o = { p with channel := p.channel.queue (replyFor m o).toList } := by
  rw [← p.channel_pay m o]
  unfold pay
  split <;> rfl

/-- A message that broke the protocol is counted, and nothing else. -/
theorem settle_eq (p : ClientPeer A τ) (o : Outcome) :
    p.settle o = { p with badMessages := p.badMessages + o.isFault.toNat } := by
  cases o <;> rfl

/-- A message to the peer itself does what it names, or breaks the protocol. -/
theorem control_eq (p : ClientPeer A τ) {m : Message} (hm : m.isControl = true) :
    (p.control m).1.isFault = m.workerName?.isNone ∧
      (p.control m).2 = { p with workerChannel := m.workerName?.or p.workerChannel } := by
  unfold control Message.workerName?
  rw [if_pos hm]
  rcases ClientCommand.ofMessage m with e | _ | ⟨⟨name⟩⟩
  · exact ⟨rfl, rfl⟩
  · exact ⟨rfl, rfl⟩
  · simp only
    split <;> exact ⟨rfl, rfl⟩

section Listening

variable [Listener A Outbox]

/-- **Whether a message breaks the protocol.**  One to the peer itself has to name a channel; one to
a route is judged by the listener there, and one that finds none does no harm. -/
def faults (p : ClientPeer A τ) (m : Message) : Bool :=
  if m.isControl then m.workerName?.isNone
  else
    match p.routes.get? m.address with
    | some a => (Listener.receive a m p.outbox).outcome.isFault
    | none => false

/-- **What a message does to a peer**: beside the channel and the routes, it may name the channel of
the worker, and it is counted if it breaks the protocol. -/
theorem receive_eq (p : ClientPeer A τ) (m : Message) :
    ∃ channel routes, p.receive m =
      { p with
        channel, routes
        workerChannel := m.workerName?.or p.workerChannel
        badMessages := p.badMessages + (p.faults m).toNat } := by
  have hreceive : p.receive m = ((p.handle m).2.settle (p.handle m).1).pay m (p.handle m).1 := rfl
  rw [hreceive, pay_eq, settle_eq, faults, handle]
  cases hm : m.isControl with
  | true =>
    obtain ⟨hfault, hafter⟩ := p.control_eq hm
    simp only [if_true, hfault, hafter]
    exact ⟨_, _, rfl⟩
  | false =>
    have hname : m.workerName? = none := by simp [Message.workerName?, hm]
    have hfault : (p.routed m).1.isFault = match p.routes.get? m.address with
        | some a => (Listener.receive a m p.outbox).outcome.isFault
        | none => false := by
      unfold routed deliver
      cases p.routes.get? m.address <;> rfl
    simp only [Bool.false_eq_true, if_false, hfault, hname, Option.none_or]
    simp only [routed, sendAll_eq]
    exact ⟨_, _, rfl⟩

end Listening

/-! ## 3. One event -/

/-- **An event that was handled**, and the peer that handled it.  No event is the end of them. -/
structure Handled (A τ : Type) where
  event : Option ChannelEvent
  before : ClientPeer A τ

namespace Handled

/-- Why the channel is over behind this. -/
def ending? (x : Handled A τ) : Option ChannelEnding :=
  match x.event with
  | some e => e.ending?
  | none => some .closed

/-- The process that the handshake was made with. -/
def pid? (x : Handled A τ) : Option UInt32 :=
  match x.event with
  | some (.connected pid) => some pid
  | _ => none

/-- The name that was given to the channel of the worker. -/
def name? (x : Handled A τ) : Option String :=
  match x.event with
  | some (.message m) => m.workerName?
  | _ => none

/-- Whether it was no message at all. -/
def isGarbage (x : Handled A τ) : Bool :=
  match x.event with
  | some (.badMessage _) => true
  | _ => false

/-- What is told to whoever wants to know. -/
def telling (x : Handled A τ) : List ChannelEnding :=
  if x.before.hasHandler then x.ending?.toList else []

variable [Listener A Outbox]

/-- Whether it was a message that broke the protocol. -/
def isFault (x : Handled A τ) : Bool :=
  match x.event with
  | some (.message m) => x.before.faults m
  | _ => false

/-- The peer behind it. -/
def after (x : Handled A τ) : ClientPeer A τ :=
  match x.event with
  | some e => x.before.onEvent e
  | none => x.before.fail .closed

/-- **What an event makes of a peer that works**, beside its channel and its routes. -/
theorem after_eq {x : Handled A τ} (hworks : x.before.failed = false) :
    ∃ channel routes, x.after =
      { x.before with
        channel, routes
        hostPid := x.pid?.or x.before.hostPid
        workerChannel := x.name?.or x.before.workerChannel
        badMessages := x.before.badMessages + (x.isGarbage.toNat + x.isFault.toNat)
        failed := x.ending?.isSome
        told := x.before.told ++ x.telling } := by
  obtain ⟨event, p⟩ := x
  replace hworks : p.failed = false := hworks
  -- a failure is told only to whoever wants to know
  have hfail : ∀ ending, p.fail ending =
      { p with failed := true, told := p.told ++ if p.hasHandler then [ending] else [] } :=
    fun ending => if_neg (by simp [hworks])
  cases event with
  | none => exact ⟨p.channel, p.routes, hfail .closed⟩
  | some e =>
    cases e with
    | connected pid =>
      refine ⟨p.channel, p.routes, ?_⟩
      simp [after, onEvent, ending?, ChannelEvent.ending?, pid?, name?, isGarbage, isFault,
        telling, hworks]
    | message m =>
      obtain ⟨channel, routes, hreceive⟩ := p.receive_eq m
      refine ⟨channel, routes, ?_⟩
      simp [after, onEvent, ending?, ChannelEvent.ending?, pid?, name?, isGarbage, isFault,
        telling, hreceive, hworks]
    | badMessage reason =>
      refine ⟨p.channel, p.routes, ?_⟩
      simp [after, onEvent, countBad, ending?, ChannelEvent.ending?, pid?, name?, isGarbage,
        isFault, telling, hworks]
    | failed ending => exact ⟨p.channel, p.routes, hfail ending⟩

end Handled

/-! ## 4. Handling what has happened -/

/-- **What a peer handles next**: the next event, or the end of them. -/
def upcoming? (p : ClientPeer A τ) : Option (Handled A τ) :=
  if p.failed then none
  else
    match p.inbox with
    | e :: rest => some ⟨some e, { p with inbox := rest }⟩
    | [] => if p.inboxOver then some ⟨none, p⟩ else none

/-- A peer that has failed handles nothing any more. -/
theorem upcoming?_of_failed {p : ClientPeer A τ} (h : p.failed = true) : p.upcoming? = none :=
  if_pos h

/-- It is taken off the inbox by the peer that handles it. -/
theorem upcoming?_spec {p : ClientPeer A τ} {x : Handled A τ} (h : p.upcoming? = some x) :
    p.failed = false ∧ ∃ rest, x.before = { p with inbox := rest } ∧
      p.inbox = x.event.toList ++ rest ∧ (x.event = none → p.inboxOver = true ∧ rest = []) := by
  unfold upcoming? at h
  split at h
  · cases h
  next hfailed =>
    refine ⟨Bool.eq_false_iff.2 hfailed, ?_⟩
    split at h
    next e rest hinbox =>
      cases h
      exact ⟨rest, rfl, hinbox, nofun⟩
    next hinbox =>
      split at h
      next hover =>
        cases h
        exact ⟨[], by rw [← hinbox], hinbox, fun _ => ⟨hover, rfl⟩⟩
      next => cases h

/-- A peer that works and has nothing to handle has read everything, and more may happen. -/
theorem idle_of_none {p : ClientPeer A τ} (h : p.upcoming? = none) (hworks : p.failed = false) :
    p.inbox = [] ∧ p.inboxOver = false := by
  unfold upcoming? at h
  rw [if_neg (by simp [hworks])] at h
  split at h
  · cases h
  next hinbox =>
    split at h
    · cases h
    next hover => exact ⟨hinbox, Bool.eq_false_iff.2 hover⟩

section Listening

variable [Listener A Outbox]

/-- **What a peer becomes by what it handles next**, in one equation. -/
theorem upcoming?_eq {p : ClientPeer A τ} {x : Handled A τ} (h : p.upcoming? = some x) :
    p.failed = false ∧ ∃ rest channel routes, x.before = { p with inbox := rest } ∧
      p.inbox = x.event.toList ++ rest ∧ (x.event = none → p.inboxOver = true ∧ rest = []) ∧
      x.after =
        { p with
          inbox := rest
          channel, routes
          hostPid := x.pid?.or p.hostPid
          workerChannel := x.name?.or p.workerChannel
          badMessages := p.badMessages + (x.isGarbage.toNat + x.isFault.toNat)
          failed := x.ending?.isSome
          told := p.told ++ x.telling } := by
  obtain ⟨hworks, rest, hbefore, hinbox, hend⟩ := upcoming?_spec h
  obtain ⟨channel, routes, hafter⟩ := Handled.after_eq (x := x) (by rw [hbefore]; exact hworks)
  rw [hbefore] at hafter
  exact ⟨hworks, rest, channel, routes, hbefore, hinbox, hend, hafter⟩

/-- What handling the next event gives. -/
theorem next?_eq (p : ClientPeer A τ) :
    p.next? =
      match p.upcoming? with
      | some x => some (!x.after.failed, x.after)
      | none => if p.failed then some (false, p) else none := by
  unfold next? upcoming?
  cases hfailed : p.failed with
  | true => rfl
  | false =>
    cases hinbox : p.inbox with
    | cons e rest => rfl
    | nil =>
      cases hover : p.inboxOver with
      | true => simp [Handled.after, fail, hfailed]
      | false => simp

/-- **Handles events until a peer is as it is wanted**, `n` of them at most: the events that were
handled, and the peer behind them. -/
def follow (stop : ClientPeer A τ → Bool) : (n : Nat) → ClientPeer A τ →
    List (Handled A τ) × ClientPeer A τ
  | 0, p => ([], p)
  | n + 1, p =>
    if stop p then ([], p)
    else
      match p.upcoming? with
      | some x =>
        let (more, q) := follow stop n x.after
        (x :: more, q)
      | none => ([], p)

/-- Where there is nothing to handle, nothing is handled. -/
theorem follow_of_none {p : ClientPeer A τ} (h : p.upcoming? = none)
    (stop : ClientPeer A τ → Bool) (n : Nat) : follow stop n p = ([], p) := by
  cases n with
  | zero => rfl
  | succ n => simp [follow, h]

/-- No state is waited for. -/
def never (_ : ClientPeer A τ) : Bool := false

/-- The handshake has succeeded. -/
def knowsHost (p : ClientPeer A τ) : Bool := p.hostPid.isSome

/-- To handle events until the channel fails is one such loop, -/
theorem runUpTo_eq (n : Nat) (p : ClientPeer A τ) : runUpTo n p = (follow never n p).2 := by
  induction n generalizing p with
  | zero => rfl
  | succ n ih =>
    simp only [runUpTo, follow, never, Bool.false_eq_true, if_false, next?_eq]
    cases hup : p.upcoming? with
    | none => cases p.failed <;> rfl
    | some x =>
      cases hfailed : x.after.failed with
      | true => simp [hfailed, follow_of_none (upcoming?_of_failed hfailed)]
      | false => simpa [hfailed] using ih x.after

/-- and to wait for the handshake is another. -/
theorem waitUpTo_eq (n : Nat) (p : ClientPeer A τ) :
    (waitUpTo n p).2 = (follow knowsHost n p).2 := by
  induction n generalizing p with
  | zero => rfl
  | succ n ih =>
    rcases Option.eq_none_or_eq_some p.hostPid with hhost | ⟨pid, hhost⟩
    · simp only [waitUpTo, follow, knowsHost, hhost, Option.isSome_none, Bool.false_eq_true,
        if_false, next?_eq]
      cases hup : p.upcoming? with
      | none => cases p.failed <;> rfl
      | some x =>
        cases hfailed : x.after.failed with
        | true => simp [hfailed, follow_of_none (upcoming?_of_failed hfailed)]
        | false => simpa [hfailed] using ih x.after
    · simp [waitUpTo, follow, knowsHost, hhost]

end Listening

/-! ## 5. Lives -/

/-- What a client does with its peer besides handling events. -/
inductive Use (A τ : Type) where
  /-- It wants to be told when the channel fails. -/
  | watch
  | takeId
  | addRoute (id : RoutingId) (a : A)
  | removeRoute (id : RoutingId)
  | send (m : Message)
  | request (m : Message) (ticket : τ)
  /-- Its end of the channel does anything. -/
  | channel (f : ChannelEnd τ → ChannelEnd τ)

/-- **What happens to a peer, and what is done with it.** -/
inductive Act (A τ : Type) where
  /-- Something happens on the channel. -/
  | happen (e : ChannelEvent)
  /-- Nothing more will happen on the channel. -/
  | fallSilent
  /-- The next event is handled. -/
  | next
  /-- Events are handled until the handshake has succeeded. -/
  | wait
  /-- Events are handled until the channel fails. -/
  | run
  | use (u : Use A τ)

namespace Act

/-- What happens on the channel. -/
def event? : Act A τ → Option ChannelEvent
  | .happen e => some e
  | .fallSilent | .next | .wait | .run | .use _ => none

/-- Whether it is the last thing that happens on the channel. -/
def isSilence : Act A τ → Bool
  | .fallSilent => true
  | .happen _ | .next | .wait | .run | .use _ => false

/-- Whether it is a call that handles events. -/
def isCall : Act A τ → Bool
  | .next | .wait | .run => true
  | .happen _ | .fallSilent | .use _ => false

/-- Whether the client does something besides handling events. -/
def isUse : Act A τ → Bool
  | .use _ => true
  | .happen _ | .fallSilent | .next | .wait | .run => false

/-- Nothing happens on the channel by a call. -/
theorem quiet_of_isCall {a : Act A τ} (h : a.isCall = true) :
    a.event? = none ∧ a.isSilence = false := by
  cases a with
  | next | wait | run => exact ⟨rfl, rfl⟩
  | happen | fallSilent | use => cases h

end Act

/-- **What has happened on the channel**, up to its end. -/
def heard (acts : List (Act A τ)) : List ChannelEvent :=
  (acts.takeWhile (!·.isSilence)).filterMap Act.event?

/-- What is heard of one act more. -/
theorem heard_snoc (acts : List (Act A τ)) (a : Act A τ) :
    heard (acts ++ [a]) = heard acts ++ if acts.any Act.isSilence then [] else a.event?.toList := by
  induction acts with
  | nil => cases a <;> rfl
  | cons b rest ih =>
    unfold heard at ih ⊢
    cases hb : b.isSilence with
    | true => simp [hb]
    | false =>
      simp only [List.cons_append, List.takeWhile_cons, hb, Bool.not_false, if_true,
        List.any_cons, Bool.false_or]
      cases he : b.event? with
      | none => simpa [he] using ih
      | some e => simpa [he] using ih

/-- Something happens on the channel, unless nothing more can. -/
def hear (p : ClientPeer A τ) (e : ChannelEvent) : ClientPeer A τ :=
  if p.inboxOver then p else { p with inbox := p.inbox ++ [e] }

section Listening

variable [Listener A Outbox]

/-- The peer behind that. -/
def use (p : ClientPeer A τ) : Use A τ → ClientPeer A τ
  | .watch => { p with hasHandler := true }
  | .takeId => p.nextId.2
  | .addRoute id a =>
    match p.addRoute id a with
    | .ok q => q
    | .error _ => p
  | .removeRoute id => (p.removeRoute id).2
  | .send m => (p.send m).2
  | .request m ticket => (p.request m ticket).2
  | .channel f => { p with channel := f p.channel }

/-- **One act**: the events that are handled in it, and the peer behind it. -/
def act (p : ClientPeer A τ) : Act A τ → List (Handled A τ) × ClientPeer A τ
  | .happen e => ([], p.hear e)
  | .fallSilent => ([], { p with inboxOver := true })
  | .next =>
    (p.upcoming?.toList,
      match p.next? with
      | some (_, q) => q
      | none => p)
  | .wait => ((follow knowsHost (p.inbox.length + 2) p).1, p.waitConnected.2)
  | .run => ((follow never (p.inbox.length + 1) p).1, p.run)
  | .use u => ([], p.use u)

/-- **A life**: the events that were handled in it, and the peer behind it. -/
def live (p : ClientPeer A τ) : List (Act A τ) → List (Handled A τ) × ClientPeer A τ
  | [] => ([], p)
  | a :: rest =>
    let (past, p) := p.act a
    let (more, p) := live p rest
    (past ++ more, p)

/-- A life goes on from where it was. -/
theorem live_append (p : ClientPeer A τ) (acts more : List (Act A τ)) :
    p.live (acts ++ more) =
      ((p.live acts).1 ++ ((p.live acts).2.live more).1, ((p.live acts).2.live more).2) := by
  induction acts generalizing p with
  | nil => rfl
  | cons a rest ih => simp [live, ih]

/-- One act more. -/
theorem live_snoc (p : ClientPeer A τ) (acts : List (Act A τ)) (a : Act A τ) :
    p.live (acts ++ [a]) =
      ((p.live acts).1 ++ ((p.live acts).2.act a).1, ((p.live acts).2.act a).2) := by
  rw [live_append]
  simp [live]

/-- **Whatever is done with a peer leaves alone what comes of events**, but for whoever wants to be
told. -/
theorem use_eq (p : ClientPeer A τ) (u : Use A τ) :
    ∃ channel routes ids watched, p.use u =
      { p with channel, routes, ids, hasHandler := p.hasHandler || watched } := by
  cases u with
  | watch => exact ⟨p.channel, p.routes, p.ids, true, by simp [use]⟩
  | takeId =>
    cases htake : p.ids.take? with
    | some x => exact ⟨p.channel, p.routes, x.2, false, by simp [use, nextId, htake]⟩
    | none => exact ⟨p.channel, p.routes, p.ids, false, by simp [use, nextId, htake]⟩
  | addRoute id a =>
    cases hadd : p.routes.add? id a with
    | some routes => exact ⟨p.channel, routes, p.ids, false, by simp [use, addRoute, hadd]⟩
    | none => exact ⟨p.channel, p.routes, p.ids, false, by simp [use, addRoute, hadd]⟩
  | removeRoute id =>
    cases hget : p.routes.get? id with
    | some a =>
      refine ⟨p.channel.queue (Listener.removed a p.outbox).2.sent, p.routes.erase id, p.ids, false,
        ?_⟩
      simp [use, removeRoute, hget, sendAll_eq]
    | none => exact ⟨p.channel, p.routes, p.ids, false, by simp [use, removeRoute, hget]⟩
  | send m => exact ⟨(p.channel.send m).2, p.routes, p.ids, false, by simp [use, send]⟩
  | request m ticket =>
    exact ⟨(p.channel.request m ticket).2, p.routes, p.ids, false, by simp [use, request]⟩
  | channel f => exact ⟨f p.channel, p.routes, p.ids, false, by simp [use]⟩

/-- **Every call that handles events is the one loop.** -/
theorem act_call (p : ClientPeer A τ) {a : Act A τ} (hcall : a.isCall = true) :
    ∃ stop n, p.act a = follow stop n p := by
  cases a with
  | happen | fallSilent | use => cases hcall
  | next =>
    refine ⟨never, 1, ?_⟩
    simp only [act, follow, never, Bool.false_eq_true, if_false, next?_eq]
    cases hup : p.upcoming? with
    | some x => rfl
    | none => cases p.failed <;> rfl
  | wait => exact ⟨knowsHost, _, Prod.ext rfl (waitUpTo_eq _ p)⟩
  | run => exact ⟨never, _, Prod.ext rfl (runUpTo_eq _ p)⟩

/-! ## 6. The account of a life -/

/-- **Everything that a peer has become, read off the events it has handled.** -/
structure Account (acts : List (Act A τ)) (past : List (Handled A τ)) (p : ClientPeer A τ) :
    Prop where
  /-- Events are handled in their order, and the others wait. -/
  order : heard acts = past.filterMap (·.event) ++ p.inbox
  closed : p.inboxOver = acts.any Act.isSilence
  /-- The end of all events is handled when none waits. -/
  silent : ∀ x ∈ past, x.event = none → p.inboxOver = true ∧ p.inbox = []
  failed : p.failed = past.any (·.ending?.isSome)
  /-- A failure is the last thing that is handled. -/
  last : past.Pairwise fun x _ => x.ending? = none
  told : p.told = past.flatMap Handled.telling
  pid : p.hostPid = (past.filterMap Handled.pid?).getLast?
  bad : p.badMessages = past.countP Handled.isGarbage + past.countP Handled.isFault
  name : p.workerChannel = (past.filterMap Handled.name?).getLast?

namespace Account

variable {acts : List (Act A τ)} {past : List (Handled A τ)} {p q : ClientPeer A τ}

/-- A new peer has handled nothing. -/
theorem start (channel : ChannelEnd τ) (token : Token) :
    Account [] [] (ofChannel channel token : ClientPeer A τ) where
  order := rfl
  closed := rfl
  silent := by simp
  failed := rfl
  last := .nil
  told := rfl
  pid := rfl
  bad := rfl
  name := rfl

/-- **One event more is handled.** -/
theorem handle (h : Account acts past p) {x : Handled A τ} (hx : p.upcoming? = some x) :
    Account acts (past ++ [x]) x.after := by
  obtain ⟨hworks, rest, channel, routes, -, hinbox, hend, hafter⟩ := upcoming?_eq hx
  have hnone : past.any (·.ending?.isSome) = false := h.failed.symm.trans hworks
  have hempty : ∀ y ∈ past, y.event ≠ none := by
    intro y hy hevent
    have hending : y.ending? = none := by simpa using List.any_eq_false.1 hnone y hy
    simp [Handled.ending?, hevent] at hending
  rw [hafter]
  constructor
  case order =>
    rw [h.order, hinbox]
    cases hevent : x.event <;> simp [hevent]
  case closed => exact h.closed
  case silent =>
    intro y hy hevent
    rcases List.mem_append.1 hy with hy | hy
    · exact absurd hevent (hempty y hy)
    · obtain rfl := List.mem_singleton.1 hy
      exact hend hevent
  case failed => simp [hnone]
  case last =>
    refine List.pairwise_append.2 ⟨h.last, List.pairwise_singleton _ _, fun y hy _ _ => ?_⟩
    simpa using List.any_eq_false.1 hnone y hy
  case told => simp [h.told]
  case pid =>
    simp only [List.filterMap_append, List.getLast?_append, h.pid]
    cases hpid : x.pid? <;> simp [hpid]
  case bad =>
    simp only [List.countP_append, h.bad]
    cases hgarbage : x.isGarbage <;> cases hfault : x.isFault <;> simp [hgarbage, hfault] <;> omega
  case name =>
    simp only [List.filterMap_append, List.getLast?_append, h.name]
    cases hname : x.name? <;> simp [hname]

/-- **And so are many.** -/
theorem follow (h : Account acts past p) (stop : ClientPeer A τ → Bool) (n : Nat) :
    Account acts (past ++ (follow stop n p).1) (ClientPeer.follow stop n p).2 := by
  induction n generalizing past p with
  | zero => simpa [ClientPeer.follow] using h
  | succ n ih =>
    simp only [ClientPeer.follow]
    split
    · simpa using h
    · split
      next x hx => simpa using ih (h.handle hx)
      next => simpa using h

/-- What leaves alone what comes of events leaves the account alone. -/
theorem congr (h : Account acts past p) (channel : ChannelEnd τ) (routes : Routes A)
    (ids : IdBlock) (hasHandler : Bool) :
    Account acts past { p with channel, routes, ids, hasHandler } :=
  ⟨h.order, h.closed, h.silent, h.failed, h.last, h.told, h.pid, h.bad, h.name⟩

/-- An act that is no event of the channel leaves alone what is heard. -/
theorem snoc (h : Account acts past p) {a : Act A τ} (hevent : a.event? = none)
    (hsilence : a.isSilence = false) : Account (acts ++ [a]) past p where
  order := by
    rw [heard_snoc, hevent, h.order]
    split <;> simp
  closed := by simp [h.closed, hsilence]
  silent := h.silent
  failed := h.failed
  last := h.last
  told := h.told
  pid := h.pid
  bad := h.bad
  name := h.name

/-- A call that handles events. -/
theorem call (h : Account acts past p) {a : Act A τ} (hcall : a.isCall = true) :
    Account (acts ++ [a]) (past ++ (p.act a).1) (p.act a).2 := by
  obtain ⟨hevent, hsilence⟩ := Act.quiet_of_isCall hcall
  obtain ⟨stop, n, hloop⟩ := p.act_call hcall
  rw [hloop]
  exact (h.follow stop n).snoc hevent hsilence

/-- **One act more.** -/
theorem act (h : Account acts past p) (a : Act A τ) :
    Account (acts ++ [a]) (past ++ (p.act a).1) (p.act a).2 := by
  cases a with
  | happen e =>
    simp only [ClientPeer.act, List.append_nil, hear]
    have hheard := heard_snoc acts (.happen e)
    cases hover : p.inboxOver with
    | true =>
      have hsilence : acts.any Act.isSilence = true := h.closed.symm.trans hover
      rw [hsilence, if_pos rfl, List.append_nil] at hheard
      exact ⟨hheard.trans h.order, by simp [hover, hsilence], h.silent, h.failed,
        h.last, h.told, h.pid, h.bad, h.name⟩
    | false =>
      have hsilence : acts.any Act.isSilence = false := h.closed.symm.trans hover
      rw [hsilence, if_neg Bool.false_ne_true] at hheard
      rw [if_neg Bool.false_ne_true]
      refine ⟨?_, ?_, ?_, h.failed, h.last, h.told, h.pid, h.bad, h.name⟩
      · simp [hheard, h.order, Act.event?]
      · simp [hsilence, Act.isSilence]
      · intro x hx hevent
        have hover' := (h.silent x hx hevent).1
        rw [hover] at hover'
        cases hover'
  | fallSilent =>
    have hheard := heard_snoc acts (.fallSilent : Act A τ)
    rw [Act.event?, Option.toList_none, ite_self, List.append_nil] at hheard
    simp only [ClientPeer.act, List.append_nil]
    exact ⟨hheard.trans h.order, by simp [Act.isSilence],
      fun x hx hevent => ⟨rfl, (h.silent x hx hevent).2⟩, h.failed, h.last, h.told, h.pid, h.bad,
      h.name⟩
  | use u =>
    obtain ⟨channel, routes, ids, watched, huse⟩ := p.use_eq u
    simp only [ClientPeer.act, List.append_nil, huse]
    exact (h.congr channel routes ids _).snoc rfl rfl
  | next | wait | run => exact h.call rfl

end Account

/-- **The account of every life.** -/
theorem account_live (channel : ChannelEnd τ) (token : Token) (acts : List (Act A τ)) :
    Account acts ((ofChannel channel token : ClientPeer A τ).live acts).1
      ((ofChannel channel token : ClientPeer A τ).live acts).2 := by
  induction acts using List.reverseRecOn with
  | nil => exact .start channel token
  | append_singleton rest a ih =>
    rw [live_snoc]
    exact ih.act a

/-! ## 7. Failures -/

/-- A call of a peer that has failed does nothing. -/
theorem call_of_failed {p : ClientPeer A τ} (h : p.failed = true) {a : Act A τ}
    (hcall : a.isCall = true) :
    (p.act a).1 = [] ∧ ∃ inbox inboxOver, (p.act a).2 = { p with inbox, inboxOver } := by
  obtain ⟨stop, n, hloop⟩ := p.act_call hcall
  rw [hloop, follow_of_none (upcoming?_of_failed h)]
  exact ⟨rfl, p.inbox, p.inboxOver, rfl⟩

/-- One act of a peer that has failed handles nothing and changes nothing, unless the client uses
the peer. -/
theorem act_of_failed {p : ClientPeer A τ} (h : p.failed = true) {a : Act A τ}
    (huse : a.isUse = false) :
    (p.act a).1 = [] ∧ ∃ inbox inboxOver, (p.act a).2 = { p with inbox, inboxOver } := by
  cases a with
  | happen e =>
    refine ⟨rfl, ?_⟩
    simp only [act, hear]
    split
    · exact ⟨p.inbox, p.inboxOver, rfl⟩
    · exact ⟨p.inbox ++ [e], p.inboxOver, rfl⟩
  | fallSilent => exact ⟨rfl, p.inbox, true, rfl⟩
  | use u => cases huse
  | next | wait | run => exact call_of_failed h rfl

/-- **A peer that has failed stays as it is**, whatever else happens on the channel and however
often it is called. -/
theorem live_of_failed {p : ClientPeer A τ} (h : p.failed = true) {acts : List (Act A τ)}
    (huse : ∀ a ∈ acts, a.isUse = false) :
    (p.live acts).1 = [] ∧ ∃ inbox inboxOver, (p.live acts).2 = { p with inbox, inboxOver } := by
  induction acts using List.reverseRecOn with
  | nil => exact ⟨rfl, p.inbox, p.inboxOver, rfl⟩
  | append_singleton rest a ih =>
    obtain ⟨hnone, inbox, inboxOver, hrest⟩ := ih fun b hb => huse b (List.mem_append_left _ hb)
    have hlast := huse a (List.mem_append_right _ (List.mem_singleton_self a))
    have hfailed : (p.live rest).2.failed = true := by rw [hrest]; exact h
    obtain ⟨hnone', inbox', inboxOver', hact⟩ := act_of_failed hfailed hlast
    rw [live_snoc, hnone, hnone', hact, hrest]
    exact ⟨rfl, inbox', inboxOver', rfl⟩

/-- **What a client does with a peer that has failed** brings nothing back. -/
theorem live_of_failed_used {p : ClientPeer A τ} (h : p.failed = true) (acts : List (Act A τ)) :
    (p.live acts).1 = [] ∧ ∃ inbox inboxOver channel routes ids hasHandler,
      (p.live acts).2 = { p with inbox, inboxOver, channel, routes, ids, hasHandler } := by
  induction acts using List.reverseRecOn with
  | nil => exact ⟨rfl, p.inbox, p.inboxOver, p.channel, p.routes, p.ids, p.hasHandler, rfl⟩
  | append_singleton rest a ih =>
    obtain ⟨hnone, inbox, inboxOver, channel, routes, ids, handler, hrest⟩ := ih
    rw [live_snoc, hnone]
    cases huse : a.isUse with
    | false =>
      have hfailed : (p.live rest).2.failed = true := by rw [hrest]; exact h
      obtain ⟨hnone', inbox', inboxOver', hact⟩ := act_of_failed hfailed huse
      rw [hnone', hact, hrest]
      exact ⟨rfl, inbox', inboxOver', channel, routes, ids, handler, rfl⟩
    | true =>
      cases a with
      | use u =>
        obtain ⟨channel', routes', ids', watched, hact⟩ := (p.live rest).2.use_eq u
        refine ⟨rfl, inbox, inboxOver, channel', routes', ids', handler || watched, ?_⟩
        simp only [act, hact]
        rw [hrest]
      | happen | fallSilent | next | wait | run => cases huse

/-- **Who wants to be told is known** to every peer that handled an event, and to the last one. -/
def Watched (x : List (Handled A τ) × ClientPeer A τ) : Prop :=
  (∀ y ∈ x.1, y.before.hasHandler = true) ∧ x.2.hasHandler = true

omit [Listener A Outbox] in
/-- Where nothing was handled, it is known to the peer. -/
theorem watched_nil {p : ClientPeer A τ} (h : p.hasHandler = true) :
    Watched (([], p) : List (Handled A τ) × ClientPeer A τ) :=
  ⟨by simp, h⟩

/-- It stays known while events are handled, -/
theorem watched_follow {p : ClientPeer A τ} (h : p.hasHandler = true)
    (stop : ClientPeer A τ → Bool) (n : Nat) : Watched (follow stop n p) := by
  induction n generalizing p with
  | zero => exact watched_nil h
  | succ n ih =>
    simp only [follow]
    split
    · exact watched_nil h
    · split
      next x hx =>
        obtain ⟨-, rest, channel, routes, hbefore, -, -, hafter⟩ := upcoming?_eq hx
        have hfirst : x.before.hasHandler = true := by rw [hbefore]; exact h
        obtain ⟨hmore, hlast⟩ := ih (p := x.after) (by rw [hafter]; exact h)
        exact ⟨List.forall_mem_cons.2 ⟨hfirst, hmore⟩, hlast⟩
      next => exact watched_nil h

/-- by whatever call, -/
theorem watched_call {p : ClientPeer A τ} (h : p.hasHandler = true) {a : Act A τ}
    (hcall : a.isCall = true) : Watched (p.act a) := by
  obtain ⟨stop, n, hloop⟩ := p.act_call hcall
  rw [hloop]
  exact watched_follow h stop n

/-- in every act, -/
theorem watched_act {p : ClientPeer A τ} (h : p.hasHandler = true) (a : Act A τ) :
    Watched (p.act a) := by
  cases a with
  | happen e =>
    refine watched_nil ?_
    rw [hear]
    split <;> exact h
  | fallSilent => exact watched_nil h
  | use u =>
    obtain ⟨_, _, _, _, huse⟩ := p.use_eq u
    refine watched_nil ?_
    rw [huse]
    simp [h]
  | next | wait | run => exact watched_call h rfl

/-- and through a whole life. -/
theorem watched_live {p : ClientPeer A τ} (h : p.hasHandler = true) (acts : List (Act A τ)) :
    Watched (p.live acts) := by
  induction acts generalizing p with
  | nil => exact watched_nil h
  | cons a rest ih =>
    obtain ⟨hact, hafter⟩ := watched_act h a
    obtain ⟨hrest, hlast⟩ := ih hafter
    refine ⟨fun x hx => ?_, hlast⟩
    rcases List.mem_append.1 hx with hx | hx
    · exact hact x hx
    · exact hrest x hx

namespace Account

variable {acts : List (Act A τ)} {past : List (Handled A τ)} {p : ClientPeer A τ}

/-- **The last thing that a peer has handled is why it has failed**: the first failure of all that
was heard, or the end of it. -/
theorem ending (h : Account acts past p) (hfailed : p.failed = true) :
    ∃ before x, past = before ++ [x] ∧ (∀ y ∈ before, y.ending? = none) ∧
      x.ending? = some (firstEnding (heard acts)) := by
  have hany : past.any (·.ending?.isSome) = true := h.failed.symm.trans hfailed
  rcases List.eq_nil_or_concat past with rfl | ⟨before, x, rfl⟩
  · cases hany
  rw [List.concat_eq_append] at h hany ⊢
  have hbefore : ∀ y ∈ before, y.ending? = none := fun y hy =>
    (List.pairwise_append.1 h.last).2.2 y hy x (List.mem_singleton_self x)
  refine ⟨before, x, rfl, hbefore, ?_⟩
  -- nothing that was handled before the last event ends the channel
  have hsilent : (before.filterMap (·.event)).findSome? ChannelEvent.ending? = none := by
    refine List.findSome?_eq_none_iff.2 fun e he => ?_
    obtain ⟨y, hy, hevent⟩ := List.mem_filterMap.1 he
    have hending := hbefore y hy
    rwa [Handled.ending?, hevent] at hending
  have hheard := h.order
  rw [List.filterMap_append] at hheard
  rw [firstEnding, hheard, List.findSome?_append, List.findSome?_append, hsilent]
  cases hevent : x.event with
  | none =>
    have hinbox := (h.silent x (by simp) hevent).2
    simp [Handled.ending?, hevent, hinbox]
  | some e =>
    have hsome : x.ending?.isSome = true := by
      have hnone : before.any (·.ending?.isSome) = false := by
        simpa [List.any_eq_false] using hbefore
      simpa [hnone] using hany
    rw [Handled.ending?, hevent] at hsome ⊢
    obtain ⟨ending, hending⟩ := Option.isSome_iff_exists.1 hsome
    simp [hevent, hending]

/-- A peer knows its host's process exactly when it has handled the success of the handshake. -/
theorem isSome_hostPid (h : Account acts past p) :
    p.hostPid.isSome = true ↔ ∃ pid, .connected pid ∈ past.filterMap (·.event) := by
  rw [h.pid, List.getLast?_isSome]
  constructor
  · intro hknown
    obtain ⟨pid, hpid⟩ := List.exists_mem_of_ne_nil _ hknown
    obtain ⟨x, hx, hpid⟩ := List.mem_filterMap.1 hpid
    refine ⟨pid, List.mem_filterMap.2 ⟨x, hx, ?_⟩⟩
    unfold Handled.pid? at hpid
    split at hpid
    next hevent => rw [hevent, Option.some.inj hpid]
    next => cases hpid
  · rintro ⟨pid, hpid⟩
    obtain ⟨x, hx, hevent⟩ := List.mem_filterMap.1 hpid
    exact List.ne_nil_of_mem (List.mem_filterMap.2 ⟨x, hx, by rw [Handled.pid?, hevent]⟩)

end Account

/-! ## 8. Calls come to an end -/

/-- **What waiting for the handshake comes to**: the host's process, the end of the channel before
it was known, or nothing, when more may still happen. -/
def Waited : Option (Except Fault UInt32) × ClientPeer A τ → Prop
  | (some (.ok pid), q) => q.hostPid = some pid
  | (some (.error e), q) => e = .channelClosed ∧ q.hostPid = none ∧ q.failed = true
  | (none, q) => q.hostPid = none ∧ q.failed = false ∧ q.inbox = [] ∧ q.inboxOver = false

/-- A peer that still works after an event has one less to handle. -/
theorem inbox_after {p : ClientPeer A τ} {x : Handled A τ} (h : p.upcoming? = some x)
    (hworks : x.after.failed = false) : x.after.inbox.length + 1 = p.inbox.length := by
  obtain ⟨-, rest, channel, routes, -, hinbox, -, hafter⟩ := upcoming?_eq h
  rw [hafter] at hworks ⊢
  rw [hinbox]
  cases hevent : x.event with
  | none => simp [Handled.ending?, hevent] at hworks
  | some e => simp

/-- The event that ends the channel is not the success of the handshake. -/
theorem hostPid_after {p : ClientPeer A τ} {x : Handled A τ} (h : p.upcoming? = some x)
    (hfailed : x.after.failed = true) : x.after.hostPid = p.hostPid := by
  obtain ⟨-, rest, channel, routes, -, -, -, hafter⟩ := upcoming?_eq h
  rw [hafter] at hfailed ⊢
  have hpid : x.pid? = none := by
    unfold Handled.pid?
    split
    next hevent => simp [Handled.ending?, hevent, ChannelEvent.ending?] at hfailed
    next => rfl
  rw [hpid]
  rfl

/-- **Waiting handles all there is**, unless it comes to something before. -/
theorem waited_waitUpTo {p : ClientPeer A τ} {n : Nat} (hn : p.inbox.length + 2 ≤ n) :
    Waited (waitUpTo n p) := by
  induction n generalizing p with
  | zero => omega
  | succ n ih =>
    rcases Option.eq_none_or_eq_some p.hostPid with hhost | ⟨pid, hhost⟩
    · cases hup : p.upcoming? with
      | none =>
        cases hfailed : p.failed with
        | true => simp [waitUpTo, hhost, next?_eq, hup, hfailed, Waited]
        | false => simp [waitUpTo, hhost, next?_eq, hup, hfailed, Waited, idle_of_none hup hfailed]
      | some x =>
        cases hfailed : x.after.failed with
        | true =>
          have hpid := (hostPid_after hup hfailed).trans hhost
          simp [waitUpTo, hhost, next?_eq, hup, hfailed, Waited, hpid]
        | false =>
          have hless := inbox_after hup hfailed
          simpa [waitUpTo, hhost, next?_eq, hup, hfailed] using ih (p := x.after) (by omega)
    · simp [waitUpTo, hhost, Waited]

/-- **To handle events until the channel fails is to handle all there is.** -/
theorem done_follow {p : ClientPeer A τ} {n : Nat} (hn : p.inbox.length + 1 ≤ n) :
    (follow never n p).2.upcoming? = none := by
  induction n generalizing p with
  | zero => omega
  | succ n ih =>
    simp only [follow, never, Bool.false_eq_true, if_false]
    split
    next x hup =>
      cases hfailed : x.after.failed with
      | true =>
        have hnone := upcoming?_of_failed hfailed
        rw [follow_of_none hnone]
        exact hnone
      | false =>
        have hless := inbox_after hup hfailed
        exact ih (by omega)
    next hup => exact hup

/-! ## 9. Every life -/

/-- **How a peer fails**, and what it is from then on. -/
structure Failure (start : ClientPeer A τ) (acts : List (Act A τ)) (past : List (Handled A τ))
    (p : ClientPeer A τ) : Prop where
  /-- The last thing that was handled is the first failure of all that was heard, or the end of it.
  That is told once to whoever wanted to know, and nothing else is. -/
  told : ∃ before x, past = before ++ [x] ∧ (∀ y ∈ before, y.ending? = none) ∧
    x.ending? = some (firstEnding (heard acts)) ∧
    p.told = if x.before.hasHandler then [firstEnding (heard acts)] else []
  /-- Events that end without a failure of their own end with the number of a closed connection. -/
  closed : (∀ e ∈ heard acts, e.ending? = none) → (firstEnding (heard acts)).code = 1
  /-- Who wanted to be told before the peer failed has been told. -/
  watched : ∀ first later, acts = first ++ .use .watch :: later →
    (start.live first).2.failed = false → p.told = [firstEnding (heard acts)]
  next : p.next? = some (false, p)
  unconnected : p.isConnected = false
  /-- **Nothing changes any more**, whatever else happens on the channel. -/
  frozen : ∀ more : List (Act A τ), (∀ a ∈ more, a.isUse = false) →
    (p.live more).1 = [] ∧ ∃ inbox inboxOver, (p.live more).2 = { p with inbox, inboxOver }
  /-- What the client does with the peer itself changes nothing of that. -/
  used : ∀ more : List (Act A τ), (p.live more).1 = [] ∧
    ∃ inbox inboxOver channel routes ids hasHandler,
      (p.live more).2 = { p with inbox, inboxOver, channel, routes, ids, hasHandler }

/-- **What a life makes of a peer.** -/
structure Life (start : ClientPeer A τ) (acts : List (Act A τ)) (past : List (Handled A τ))
    (p : ClientPeer A τ) : Prop where
  /-- Events are handled in their order, and the others wait. -/
  order : heard acts = past.filterMap (·.event) ++ p.inbox
  /-- A peer works until it handles a failure, or the end of all events. -/
  works : p.failed = false ↔ ∀ x ∈ past, x.ending? = none
  untold : p.failed = false → p.told = []
  /-- A peer that works is connected exactly when the handshake has succeeded. -/
  connected : p.failed = false →
    (p.isConnected = true ↔ ∃ pid, .connected pid ∈ past.filterMap (·.event))
  failure : p.failed = true → Failure start acts past p
  /-- What is counted is everything that was no message, and every message that broke the
  protocol. -/
  bad : p.badMessages = past.countP Handled.isGarbage + past.countP Handled.isFault
  /-- The name is the last one that was well-formed and of this version. -/
  name : p.workerChannel = (past.filterMap Handled.name?).getLast?
  compatible : ∀ name, p.workerChannel = some name → ChannelName.isCompatible name = true
  waited : Waited p.waitConnected
  done : p.run.failed = true ∨ p.run.inbox = [] ∧ p.run.inboxOver = false

/-- **How every peer fails that does.** -/
theorem failure_live (channel : ChannelEnd τ) (token : Token) (acts : List (Act A τ))
    (hfailed : ((ofChannel channel token : ClientPeer A τ).live acts).2.failed = true) :
    Failure (ofChannel channel token) acts
      ((ofChannel channel token : ClientPeer A τ).live acts).1
      ((ofChannel channel token : ClientPeer A τ).live acts).2 := by
  have haccount := account_live channel token acts
  obtain ⟨before, x, hpast, hnone, hending⟩ := haccount.ending hfailed
  have htold : ((ofChannel channel token : ClientPeer A τ).live acts).2.told
      = if x.before.hasHandler then [firstEnding (heard acts)] else [] := by
    have hquiet : before.flatMap Handled.telling = [] := by
      refine List.flatMap_eq_nil_iff.2 fun y hy => ?_
      simp [Handled.telling, hnone y hy]
    rw [haccount.told, hpast, List.flatMap_append, hquiet]
    simp [Handled.telling, hending]
  constructor
  case told => exact ⟨before, x, hpast, hnone, hending, htold⟩
  case closed =>
    intro hquiet
    rw [firstEnding, List.findSome?_eq_none_iff.2 hquiet]
    rfl
  case watched =>
    rintro first later rfl hworks
    -- the failure was handled after the client wanted to be told
    have hsplit := live_append (ofChannel channel token : ClientPeer A τ) first
      (.use .watch :: later)
    have hfirst : ∀ y ∈ ((ofChannel channel token : ClientPeer A τ).live first).1,
        y.ending? = none := by
      have hall := (account_live channel token first).failed.symm.trans hworks
      simpa [List.any_eq_false] using hall
    have hlater := watched_live (p := { ((ofChannel channel token : ClientPeer A τ).live first).2
      with hasHandler := true }) rfl later
    have hx : x ∈ ((ofChannel channel token : ClientPeer A τ).live
        (first ++ .use .watch :: later)).1 := by rw [hpast]; simp
    rw [hsplit] at hx
    have hwatched : x.before.hasHandler = true := by
      rcases List.mem_append.1 hx with hx | hx
      · rw [hfirst x hx] at hending
        cases hending
      · exact hlater.1 x hx
    rw [htold, if_pos hwatched]
  case next => rw [next?_eq, upcoming?_of_failed hfailed]; simp [hfailed]
  case unconnected => simp [isConnected, hfailed]
  case frozen => exact fun more huse => live_of_failed hfailed huse
  case used => exact fun more => live_of_failed_used hfailed more

/-- **Every life of a client's peer**: whatever happens on its channel, with whatever listeners, and
however it is called and used meanwhile. -/
theorem life_live (channel : ChannelEnd τ) (token : Token) (acts : List (Act A τ)) :
    Life (ofChannel channel token) acts ((ofChannel channel token : ClientPeer A τ).live acts).1
      ((ofChannel channel token : ClientPeer A τ).live acts).2 := by
  have h := account_live channel token acts
  have hworks : ((ofChannel channel token : ClientPeer A τ).live acts).2.failed = false ↔
      ∀ x ∈ ((ofChannel channel token : ClientPeer A τ).live acts).1, x.ending? = none := by
    rw [h.failed]
    simp [List.any_eq_false]
  constructor
  case order => exact h.order
  case works => exact hworks
  case untold =>
    intro hlive
    rw [h.told]
    refine List.flatMap_eq_nil_iff.2 fun y hy => ?_
    simp [Handled.telling, hworks.1 hlive y hy]
  case connected =>
    intro hlive
    rw [← h.isSome_hostPid]
    simp [isConnected, hlive]
  case failure => exact failure_live channel token acts
  case bad => exact h.bad
  case name => exact h.name
  case compatible =>
    intro name hname
    have hmem := List.mem_of_getLast? (h.name.symm.trans hname)
    obtain ⟨x, -, hx⟩ := List.mem_filterMap.1 hmem
    unfold Handled.name? at hx
    split at hx
    · exact Message.isCompatible_of_workerName? hx
    · cases hx
  case waited => exact waited_waitUpTo (Nat.le_refl _)
  case done =>
    have hnone := done_follow (p := ((ofChannel channel token : ClientPeer A τ).live acts).2)
      (Nat.le_refl _)
    rw [← runUpTo_eq] at hnone
    cases hfailed : (((ofChannel channel token : ClientPeer A τ).live acts).2).run.failed with
    | true => exact .inl rfl
    | false => exact .inr (idle_of_none hnone hfailed)

end Listening

end ClientPeer

end ControlPlane
