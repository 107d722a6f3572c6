/-
# What the peer of a client hears

What a client has written reaches its peer through the connection, the host's end of the channel and
the queue that all peers share.  Each of them keeps the order, and what is lost is lost at the end:
behind a message that is too long nothing is read.

* `Relayed`: what an end may report of what was written;
* `Stage`: how far the host's end has come with what was written;
* `Link.Hearing`: the host's side of a link.  What was reported is heard or queued, in its order, and
  a reply goes back only to what was heard;
* `Link.Change.hearing`: every change keeps this.
-/
import ControlPlane.Proofs.Link.Books

namespace ControlPlane

open Host (Attends Deed)

/-! ## 1. Reports -/

/-- No messages. -/
def Wordless (es : List ChannelEvent) : Prop := ∀ e ∈ es, ∀ m, e ≠ .message m

/-- **What an end may report of what was written** by an end that says hello first: that it is there,
then the messages one by one as far as they were read, and last what broke the protocol or failed. -/
inductive Relayed (sent : List Message) : List ChannelEvent → Prop
  | nothing (others : List ChannelEvent) (hothers : Wordless others) : Relayed sent others
  | greeted (hello : Message) (read rest : List Message) (pid : UInt32)
      (others : List ChannelEvent) (hsent : sent = hello :: (read ++ rest))
      (hothers : Wordless others) :
      Relayed sent (.connected pid :: (read.map Message.noticed ++ others))

namespace Relayed

variable {sent : List Message} {es : List ChannelEvent}

/-- More is written. -/
theorem more (h : Relayed sent es) (ms : List Message) : Relayed (sent ++ ms) es := by
  cases h with
  | nothing _ hothers => exact .nothing _ hothers
  | greeted hello read rest pid others hsent hothers =>
    exact .greeted hello read (rest ++ ms) pid others (by simp [hsent]) hothers

/-- The end reports something else than a message. -/
theorem wordless (h : Relayed sent es) {others : List ChannelEvent} (hnew : Wordless others) :
    Relayed sent (es ++ others) := by
  cases h with
  | nothing old hold => exact .nothing _ (List.forall_mem_append.mpr ⟨hold, hnew⟩)
  | greeted hello read rest pid old hsent hold =>
    rw [List.cons_append, List.append_assoc]
    exact .greeted hello read rest pid _ hsent (List.forall_mem_append.mpr ⟨hold, hnew⟩)

/-- **A message that was reported was written at its place, and all before it were reported
before.** -/
theorem upto (h : Relayed sent es) {n : Nat} {m : Message} (hn : es[n]? = some (.message m)) :
    ∃ pid j w, n = j + 1 ∧ sent.tail[j]? = some w ∧ w.noticed = .message m ∧
      (.connected pid :: (sent.tail.take (j + 1)).map Message.noticed) <+: es := by
  cases h with
  | nothing _ hothers => exact absurd rfl (hothers _ (List.mem_of_getElem? hn) m)
  | greeted hello read rest pid others hsent hothers =>
    cases n with
    | zero => simp at hn
    | succ j =>
      rw [List.getElem?_cons_succ] at hn
      rcases Nat.lt_or_ge j read.length with hlt | hge
      · rw [List.getElem?_append_left (by simpa using hlt), List.getElem?_map,
          Option.map_eq_some_iff] at hn
        obtain ⟨w, hw, hnoticed⟩ := hn
        refine ⟨pid, j, w, rfl, ?_, hnoticed, ?_⟩
        · rw [hsent, List.tail_cons, List.getElem?_append_left hlt, hw]
        · rw [hsent, List.tail_cons, List.take_append_of_le_length hlt, List.cons_prefix_cons]
          exact ⟨rfl, ((List.take_prefix _ _).map _).trans (List.prefix_append _ _)⟩
      · rw [List.getElem?_append_right (by simpa using hge)] at hn
        exact absurd rfl (hothers _ (List.mem_of_getElem? hn) m)

end Relayed

/-! ## 2. How far an end has come -/

/-- **How far an end has come** with what was written and is coming, and what it has reported. -/
inductive Stage (sent : List Message) (coming : Bytes) (reported : List ChannelEvent) :
    Option (ChannelEnd Empty) → Prop
  /-- The hello is not read yet. -/
  | waiting (e : ChannelEnd Empty) (hphase : e.phase = .listening ∨ e.phase = .greeting)
      (hall : e.arrived ++ coming = Message.frames sent) (hnone : reported = []) :
      Stage sent coming reported (some e)
  /-- Behind the hello some messages were read. -/
  | opened (e : ChannelEnd Empty) (hello : Message) (read rest : List Message) (pid : UInt32)
      (hphase : e.phase = .opened) (hsent : sent = hello :: (read ++ rest))
      (hall : e.arrived ++ coming = Message.frames rest)
      (hreported : reported = .connected pid :: read.map Message.noticed) :
      Stage sent coming reported (some e)
  /-- Behind the hello nothing more is read. -/
  | jammed (e : ChannelEnd Empty) (hphase : e.phase = .opened)
      (hjammed : Jammed (e.arrived ++ coming)) (hrelayed : Relayed sent reported) :
      Stage sent coming reported (some e)
  /-- The channel is over, or the end is gone. -/
  | finished (e? : Option (ChannelEnd Empty)) (hover : ∀ e, e? = some e → e.isClosed = true)
      (hrelayed : Relayed sent reported) : Stage sent coming reported e?

namespace Stage

variable {sent : List Message} {coming : Bytes} {reported : List ChannelEvent}
  {e? : Option (ChannelEnd Empty)}

/-- What was reported is what may be reported. -/
theorem relayed (h : Stage sent coming reported e?) : Relayed sent reported := by
  cases h with
  | waiting e hphase hall hnone => exact hnone ▸ .nothing [] nofun
  | opened e hello read rest pid hphase hsent hall hreported =>
    have := Relayed.greeted hello read rest pid [] hsent nofun
    rwa [List.append_nil, ← hreported] at this
  | jammed e hphase hjammed hrelayed => exact hrelayed
  | finished e? hover hrelayed => exact hrelayed

/-- More is written, and is coming. -/
theorem more (h : Stage sent coming reported e?) (ms : List Message) :
    Stage (sent ++ ms) (coming ++ Message.frames ms) reported e? := by
  cases h with
  | waiting e hphase hall hnone =>
    refine .waiting e hphase ?_ hnone
    rw [← List.append_assoc, hall, Message.frames_append]
  | opened e hello read rest pid hphase hsent hall hreported =>
    refine .opened e hello read (rest ++ ms) pid hphase (by simp [hsent]) ?_ hreported
    rw [← List.append_assoc, hall, Message.frames_append]
  | jammed e hphase hjammed hrelayed =>
    refine .jammed e hphase ?_ (hrelayed.more ms)
    rw [← List.append_assoc]
    exact hjammed.more _
  | finished e? hover hrelayed => exact .finished e? hover (hrelayed.more ms)

/-- The end is gone. -/
theorem gone (h : Stage sent coming reported e?) : Stage sent coming reported none :=
  .finished none nofun h.relayed

/-- **Where an end has come to** is decided by its phase and by what it has not read. -/
theorem same {e e' : ChannelEnd Empty} {left : Bytes} (h : Stage sent coming reported (some e))
    (hstill : e'.phase = e.phase) (hunread : e'.arrived ++ left = e.arrived ++ coming) :
    Stage sent left reported (some e') := by
  cases h with
  | waiting e hphase hall hnone =>
    exact .waiting e' (hstill ▸ hphase) (hunread.trans hall) hnone
  | opened e hello read rest pid hphase hsent hall hreported =>
    exact .opened e' hello read rest pid (hstill.trans hphase) hsent (hunread.trans hall) hreported
  | jammed e hphase hjammed hrelayed =>
    exact .jammed e' (hstill.trans hphase) (hunread ▸ hjammed) hrelayed
  | finished e? hover hrelayed =>
    refine .finished _ ?_ hrelayed
    rintro _ ⟨⟩
    have hclosed := hover e rfl
    rwa [ChannelEnd.isClosed, hstill]

/-- What is handed to an end does not matter here. -/
theorem queue {e : ChannelEnd Empty} (h : Stage sent coming reported (some e))
    (ms : List Message) : Stage sent coming reported (some (e.queue ms)) := by
  unfold ChannelEnd.queue ChannelEnd.enqueue
  split <;> exact h.same rfl rfl

/-- An end that is listening or awaits the hello has read nothing. -/
theorem of_waiting {e : ChannelEnd Empty} (h : Stage sent coming reported (some e))
    (hphase : e.phase = .listening ∨ e.phase = .greeting) :
    e.arrived ++ coming = Message.frames sent ∧ reported = [] := by
  cases h with
  | waiting e _ hall hnone => exact ⟨hall, hnone⟩
  | opened e _ _ _ _ hopened | jammed e hopened => simp [hopened] at hphase
  | finished e? hover =>
    have hclosed := hover e rfl
    rcases hphase with hphase | hphase <;> simp [ChannelEnd.isClosed, hphase] at hclosed

/-- **A frame is read**, and reported as it is noticed; or it is no message, and the last frame. -/
theorem taken {e : ChannelEnd Empty} {payload rest : Bytes}
    (h : Stage sent coming reported (some e)) (hphase : e.phase = .opened)
    (hnext : Frame.next e.arrived = .frame payload rest) :
    Stage sent coming (reported ++ ({ e with arrived := rest }.takeFrame payload).1.events)
      (some ({ e with arrived := rest }.takeFrame payload).2) := by
  cases h with
  | waiting e hbefore => simp [hphase] at hbefore
  | jammed e _ hjammed => exact absurd hnext (hjammed.no_frame payload rest)
  | finished e? hover =>
    have hclosed := hover e rfl
    simp [ChannelEnd.isClosed, hphase] at hclosed
  | opened e hello read ahead pid _ hsent hall hreported =>
    obtain ⟨m, ms, rfl, ⟨rfl, hrest⟩ | ⟨⟨err, herr⟩, hjammed⟩⟩ := next_frames hall hnext
    · rw [ChannelEnd.takeFrame_noticed]
      refine .opened _ hello (read ++ [m]) ms pid hphase (by simp [hsent]) hrest ?_
      simp [hreported]
    · have hbad : { e with arrived := rest }.takeFrame payload
          = ({ events := [.badMessage (ChannelEnd.undecodable err)] },
            { e with arrived := rest }) := by
        simp only [ChannelEnd.takeFrame, herr]
      rw [hbad, hreported, List.cons_append]
      exact .jammed _ hphase hjammed
        (.greeted hello read (m :: ms) pid _ hsent (by simp [Wordless]))

/-- **A turn of the end takes it further.** -/
theorem turn {e : ChannelEnd Empty} {u : EndTurn Empty} {x : ChannelOutput Empty × ChannelEnd Empty}
    {left : Bytes} (h : Stage sent coming reported (some e)) (hleft : u.bytes ++ left = coming)
    (hcommand : u.command? = none) (houtcome : e.Outcome u x) :
    Stage sent left (reported ++ x.1.events) (some x.2) := by
  cases houtcome with
  | idle u _ hbytes =>
    rw [List.append_nil]
    cases hclosed : e.isClosed with
    | true => exact .finished _ (fun _ he => Option.some.inj he ▸ hclosed) h.relayed
    | false =>
      rw [hbytes hclosed] at hleft
      exact h.same rfl (hleft ▸ rfl)
  | accepted pid hphase =>
    rw [List.append_nil]
    obtain rfl : left = coming := hleft
    obtain ⟨hall, hnone⟩ := h.of_waiting (.inl hphase)
    exact .waiting _ (.inr rfl) hall hnone
  | arrived bs hopen =>
    rw [List.append_nil]
    exact h.same rfl (hleft ▸ List.append_assoc ..)
  | inputOver =>
    rw [List.append_nil]
    exact h.same rfl (hleft ▸ rfl)
  | queued u c hsome | late u c hsome => cases hcommand.symm.trans hsome
  | greeted pid hello rest hphase hnext hcheck =>
    obtain rfl : left = coming := hleft
    obtain ⟨hall, hnone⟩ := h.of_waiting (.inr hphase)
    obtain ⟨m, ms, hsent, ⟨-, hrest⟩ | ⟨⟨err, herr⟩, -⟩⟩ := next_frames hall hnext
    · exact .opened _ m [] ms pid rfl hsent hrest (by rw [hnone]; rfl)
    · simp [Handshake.check, herr] at hcheck
  | taken payload rest hphase hnext =>
    obtain rfl : left = coming := hleft
    exact h.taken hphase hnext
  | wrote m cs hphase =>
    rw [List.append_nil]
    exact h.same rfl (hleft ▸ rfl)
  | asked m t => exact t.elim
  | failed u ending =>
    have hnew : Wordless [.failed ending] := List.forall_mem_singleton.mpr nofun
    exact .finished _ (fun _ he => Option.some.inj he ▸ rfl) (h.relayed.wordless hnew)
  | dropped =>
    exact .finished _ (fun _ he => Option.some.inj he ▸ rfl) (h.relayed.wordless nofun)

end Stage

/-! ## 3. The host's side -/

/-- **A step of the end of a peer's channel**: it is the step of that end, and what it reports joins
the queue. -/
theorem Host.channel?_step {h : Host} {id : PeerId} {e : ChannelEnd Empty}
    (he : h.channel? id = some e)
    (step : ChannelEnd Empty → ChannelOutput Empty × ChannelEnd Empty) :
    (h.onChannel id step).1 = (step e).1 ∧
      (h.perform (.move (.channel id step))).channel? id = some (step e).2 ∧
      (h.perform (.move (.channel id step))).queued id = h.queued id ++ (step e).1.events := by
  obtain ⟨p, hp, rfl⟩ := Option.map_eq_some_iff.mp he
  have hstep : h.onChannel id step = ((step p.channel).1,
      { h with
        peers := h.peers.insert id { p with channel := (step p.channel).2 }
        events := h.events ++ (step p.channel).1.events.map fun e => (id, e) }) := by
    simp [onChannel, hp]
  have hafter : h.perform (.move (.channel id step)) = (h.onChannel id step).2 := rfl
  rw [hafter, hstep]
  refine ⟨rfl, by simp [channel?, peer?], ?_⟩
  have hown : ((step p.channel).1.events.map fun e => (id, e)).filter (·.1 = id)
      = (step p.channel).1.events.map fun e => (id, e) := by
    rw [List.filter_eq_self]
    intro x hx
    obtain ⟨e, -, rfl⟩ := List.mem_map.mp hx
    simp
  rw [queued, List.filter_append, hown, List.map_append, List.map_map]
  exact congrArg _ (List.map_id' _)

/-- The end of a peer that is gone takes no step. -/
theorem Host.channel?_noStep {h : Host} {id : PeerId} (he : h.channel? id = none)
    (step : ChannelEnd Empty → ChannelOutput Empty × ChannelEnd Empty) :
    h.onChannel id step = ({}, h) ∧ h.perform (.move (.channel id step)) = h := by
  have hp : h.peer? id = none := Option.map_eq_none_iff.mp he
  have hstep : h.onChannel id step = ({}, h) := by simp [onChannel, hp]
  exact ⟨hstep, congrArg Prod.snd hstep⟩

namespace Link

variable {A : Type} {l : Link A} {k : Nat}

/-- The host after a deed more. -/
@[simp] theorem host_does (l : Link A) (d : Deed) : (l.does d).host = l.host.perform d :=
  List.foldl_append ..

/-- What the peer was given after a deed more. -/
theorem heard_does (l : Link A) (d : Deed) :
    (l.does d).heard = l.heard ++ (d.heard? l.host l.id).toList :=
  Host.heardDuring_snoc ..

/-- The host is one that came from its start. -/
theorem host_eq (l : Link A) : l.host = Host.after l.config (l.prior ++ l.deeds) :=
  (Host.after_append ..).symm

/-- **A reply has a reason**: the host's application handed it over, or it goes to a request that was
heard. -/
def Reasoned (l : Link A) (r : Message) : Prop :=
  r.reply = true → r ∈ l.spoken ∨ ∃ m, .message m ∈ l.heard ∧ r.request = m.request

/-- **The host's side of a link.** -/
structure Hearing (l : Link A) : Prop where
  /-- The id of the peer is not given out again. -/
  given : l.id.value < l.host.nextPeer
  stage : Stage l.sent l.toHost l.reported (l.host.channel? l.id)
  /-- What was reported is heard or waits in the queue. -/
  queued : ∀ e, l.host.channel? l.id = some e → l.heard ++ l.host.queued l.id = l.reported
  heard : l.heard <+: l.reported
  told : ∀ r ∈ l.told, l.Reasoned r
  toTell : ∀ e, l.host.channel? l.id = some e → e.isClosed = false →
    ∀ r, .send r ∈ e.commands → l.Reasoned r

/-- A reason stays one. -/
theorem Reasoned.later {l' : Link A} {r : Message} (h : l.Reasoned r)
    (hspoken : ∀ m ∈ l.spoken, m ∈ l'.spoken) (hheard : l.heard <+: l'.heard) :
    l'.Reasoned r := by
  intro hreply
  rcases h hreply with hspoke | ⟨m, hm, hrequest⟩
  · exact .inl (hspoken r hspoke)
  · exact .inr ⟨m, hheard.subset hm, hrequest⟩

/-- What is handed to an end is to be told. -/
theorem mem_commands_queue {e : ChannelEnd Empty} {ms : List Message} {r : Message}
    (hr : .send r ∈ (e.queue ms).commands) : .send r ∈ e.commands ∨ r ∈ ms := by
  unfold ChannelEnd.queue ChannelEnd.enqueue at hr
  split at hr
  · exact .inl hr
  · rcases List.mem_append.mp hr with hr | hr
    · exact .inl hr
    · obtain ⟨m, hm, hsame⟩ := List.mem_map.mp hr
      cases hsame
      exact .inr hm

/-- The id of the peer stays given. -/
theorem Hearing.given_perform (h : l.Hearing) (d : Deed) :
    l.id.value < (l.host.perform d).nextPeer :=
  Nat.lt_of_lt_of_le h.given
    (Host.nextPeer_le_perform (l.host_eq ▸ Host.numbered_after _ _) d)

/-- What a deed leaves behind, seen from the peer. -/
theorem Hearing.of_perform (h : l.Hearing) {d : Deed} {heard : List ChannelEvent}
    (hevent : (d.heard? l.host l.id).toList = heard)
    (hstage : Stage l.sent l.toHost l.reported ((l.host.perform d).channel? l.id))
    (hqueued : ∀ e, (l.host.perform d).channel? l.id = some e →
      l.heard ++ heard ++ (l.host.perform d).queued l.id = l.reported)
    (hheard : l.heard ++ heard <+: l.reported)
    (htoTell : ∀ e, (l.host.perform d).channel? l.id = some e → e.isClosed = false →
      ∀ r, .send r ∈ e.commands → (l.does d).Reasoned r) : (l.does d).Hearing := by
  have hsplit : (l.does d).heard = l.heard ++ heard := hevent ▸ l.heard_does d
  have hlater : ∀ {r}, l.Reasoned r → (l.does d).Reasoned r := fun hr =>
    hr.later (fun _ hm => hm) (hsplit ▸ List.prefix_append _ _)
  refine
    { given := ?_, stage := ?_, queued := ?_, heard := hsplit ▸ hheard
      told := fun r hr => hlater (h.told r hr), toTell := ?_ }
  · exact l.host_does d ▸ h.given_perform d
  · exact l.host_does d ▸ hstage
  · rw [hsplit, host_does]
    exact hqueued
  · exact l.host_does d ▸ htoTell

/-- What was to be told is still to be told after a deed. -/
theorem Hearing.toTell_does (h : l.Hearing) (d : Deed) {e : ChannelEnd Empty}
    (he : l.host.channel? l.id = some e) (hopen : e.isClosed = false) {r : Message}
    (hr : .send r ∈ e.commands) : (l.does d).Reasoned r :=
  (h.toTell e he hopen r hr).later (fun _ hm => hm) (l.heard_does d ▸ List.prefix_append _ _)

/-- **What is done with the host leaves the peer what it was given**, and gives it the next of its
events at most. -/
theorem Hearing.does (h : l.Hearing) {d : Deed} (hd : d.leaves l.id = true) :
    (l.does d).Hearing := by
  cases Host.attends h.given hd with
  | same hafter hqueued hnone =>
    refine h.of_perform (congrArg Option.toList hnone) (hafter ▸ h.stage) ?_ ?_ ?_
    · intro e he
      rw [hqueued, Option.toList_none, List.append_nil]
      exact h.queued e (hafter ▸ he)
    · simpa using h.heard
    · exact fun e he hopen r hr => h.toTell_does d (hafter ▸ he) hopen hr
  | gone hafter hqueued hnone =>
    refine h.of_perform (congrArg Option.toList hnone) (hafter ▸ h.stage.gone) ?_ ?_ ?_
    · exact fun e he => absurd (he.symm.trans hafter) (Option.some_ne_none e)
    · simpa using h.heard
    · exact fun e he => absurd (he.symm.trans hafter) (Option.some_ne_none e)
  | told e ms hbefore hafter hplain hqueued hnone =>
    have hstage := h.stage
    rw [hbefore] at hstage
    refine h.of_perform (congrArg Option.toList hnone) (hafter ▸ hstage.queue ms) ?_ ?_ ?_
    · intro _ _
      rw [hqueued, Option.toList_none, List.append_nil]
      exact h.queued e hbefore
    · simpa using h.heard
    · intro e' he' hopen r hr
      obtain rfl := Option.some.inj (hafter.symm.trans he')
      rw [ChannelEnd.queue, ChannelEnd.isClosed_enqueue] at hopen
      rcases mem_commands_queue hr with hold | hnew
      · exact h.toTell_does d hbefore hopen hold
      · exact fun hreply => absurd hreply (by simp [hplain r hnew])
  | missed event hbefore hafter hqueued hnone =>
    have hstage := h.stage
    rw [hbefore] at hstage
    refine h.of_perform (congrArg Option.toList hnone) (hafter ▸ hstage) ?_ ?_ ?_
    · exact fun e he => absurd (he.symm.trans hafter) (Option.some_ne_none e)
    · simpa using h.heard
    · exact fun e he => absurd (he.symm.trans hafter) (Option.some_ne_none e)
  | heard e event replies hbefore hafter hreplies hqueued hevent =>
    -- the event was the first in the queue, so it comes next
    have hnext : l.heard ++ [event] ++ (l.host.perform d).queued l.id = l.reported := by
      rw [← h.queued e hbefore, hqueued, List.append_assoc]
      rfl
    have hstage := h.stage
    rw [hbefore] at hstage
    refine h.of_perform (congrArg Option.toList hevent) ?_ ?_ ?_ ?_
    · rcases hafter with hafter | hafter
      · exact hafter ▸ hstage.queue replies
      · exact hafter ▸ hstage.gone
    · exact fun _ _ => hnext
    · exact hnext ▸ List.prefix_append _ _
    · intro e' he' hopen r hr
      rcases hafter with hafter | hafter
      · obtain rfl := Option.some.inj (hafter.symm.trans he')
        rw [ChannelEnd.queue, ChannelEnd.isClosed_enqueue] at hopen
        rcases mem_commands_queue hr with hold | hnew
        · exact h.toTell_does d hbefore hopen hold
        · obtain ⟨m, rfl, hrequest⟩ := hreplies r hnew
          refine fun _ => .inr ⟨m, ?_, hrequest⟩
          rw [heard_does, hevent]
          simp
      · exact absurd (he'.symm.trans hafter) (Option.some_ne_none e')

/-! ## 4. The host's end -/

/-- **A reply that is written was handed over**, and so was one that is still to be written. -/
theorem replies_outcome {e : ChannelEnd Empty} {u : EndTurn Empty}
    {x : ChannelOutput Empty × ChannelEnd Empty} (hcommand : u.command? = none)
    (h : e.Outcome u x) :
    (∀ m ∈ x.1.written, m.reply = true → e.isClosed = false ∧ .send m ∈ e.commands) ∧
    (x.2.isClosed = false → e.isClosed = false ∧
      ∀ r, .send r ∈ x.2.commands → .send r ∈ e.commands) := by
  cases h with
  | idle | inputOver => exact ⟨by simp, fun hopen => ⟨hopen, fun _ hr => hr⟩⟩
  | accepted pid hphase =>
    refine ⟨fun m hm hreply => ?_, fun _ =>
      ⟨ChannelEnd.isOpen_of_phase hphase, fun _ hr => hr⟩⟩
    obtain rfl := List.mem_singleton.mp hm
    exact absurd hreply Bool.false_ne_true
  | arrived bs hopen => exact ⟨by simp, fun _ => ⟨hopen, fun _ hr => hr⟩⟩
  | queued u c hsome | late u c hsome => cases hcommand.symm.trans hsome
  | greeted pid hello rest hphase =>
    exact ⟨by simp, fun _ => ⟨ChannelEnd.isOpen_of_phase hphase, fun _ hr => hr⟩⟩
  | taken payload rest hphase =>
    obtain ⟨hsilent, hcommands, _, _⟩ :=
      ChannelEnd.takeFrame_keeps { e with arrived := rest } payload
    refine ⟨fun m hm => ?_, fun _ => ⟨ChannelEnd.isOpen_of_phase hphase, fun r hr => ?_⟩⟩
    · rw [hsilent] at hm
      cases hm
    · rwa [hcommands] at hr
  | wrote m cs hphase hcommands =>
    have hopen : e.isClosed = false := ChannelEnd.isOpen_of_phase hphase
    refine ⟨fun m' hm' _ => ?_, fun _ => ⟨hopen, fun r hr => ?_⟩⟩
    · obtain rfl := List.mem_singleton.mp hm'
      exact ⟨hopen, hcommands ▸ List.mem_cons_self⟩
    · exact hcommands ▸ List.mem_cons_of_mem _ hr
  | asked m t => exact t.elim
  | failed | dropped =>
    refine ⟨fun m hm => ?_, fun hopen => ?_⟩
    · cases hm
    · cases hopen

/-- **A step of the host's end keeps the host's side** if it takes the end further, and what it writes
or leaves to be written was handed over. -/
theorem Hearing.afterHost (h : l.Hearing)
    {step : ChannelEnd Empty → ChannelOutput Empty × ChannelEnd Empty} {left : Bytes}
    (hstage : ∀ e, l.host.channel? l.id = some e →
      Stage l.sent left (l.reported ++ (step e).1.events) (some (step e).2))
    (hwritten : ∀ e : ChannelEnd Empty, ∀ m ∈ (step e).1.written, m.reply = true →
      e.isClosed = false ∧ .send m ∈ e.commands)
    (hcommands : ∀ e : ChannelEnd Empty, (step e).2.isClosed = false → e.isClosed = false ∧
      ∀ r, .send r ∈ (step e).2.commands → .send r ∈ e.commands ∨ r ∈ l.spoken) :
    (l.afterHost step left).Hearing := by
  have hhost : (l.afterHost step left).host = l.host.perform (.move (.channel l.id step)) :=
    l.host_does _
  have hheard : (l.afterHost step left).heard = l.heard :=
    (l.heard_does _).trans (List.append_nil _)
  have hlater : ∀ {r}, l.Reasoned r → (l.afterHost step left).Reasoned r := fun hr =>
    hr.later (fun _ hm => hm) (hheard ▸ List.prefix_refl _)
  have hgiven : l.id.value < (l.afterHost step left).host.nextPeer := hhost ▸ h.given_perform _
  have hreported : (l.afterHost step left).reported
      = l.reported ++ (l.host.onChannel l.id step).1.events := rfl
  have htold : (l.afterHost step left).told
      = l.told ++ (l.host.onChannel l.id step).1.written := rfl
  cases he : l.host.channel? l.id with
  | none =>
    obtain ⟨hout, hsame⟩ := Host.channel?_noStep he step
    rw [hout, List.append_nil] at hreported htold
    have hgone : (l.afterHost step left).host.channel? l.id = none := by rw [hhost, hsame, he]
    refine
      { given := hgiven, stage := ?_, heard := ?_, told := ?_
        queued := fun e he' => absurd (he'.symm.trans hgone) (Option.some_ne_none e)
        toTell := fun e he' => absurd (he'.symm.trans hgone) (Option.some_ne_none e) }
    · show Stage l.sent left _ ((l.afterHost step left).host.channel? l.id)
      rw [hgone, hreported]
      exact .finished none nofun h.stage.relayed
    · rw [hheard, hreported]
      exact h.heard
    · rw [htold]
      exact fun r hr => hlater (h.told r hr)
  | some e =>
    obtain ⟨hout, hafter, hqueued⟩ := Host.channel?_step he step
    rw [hout] at hreported htold
    refine
      { given := hgiven, stage := ?_, queued := ?_, heard := ?_, told := ?_, toTell := ?_ }
    · show Stage l.sent left _ ((l.afterHost step left).host.channel? l.id)
      rw [hhost, hafter, hreported]
      exact hstage e he
    · intro _ _
      show (l.afterHost step left).heard ++ (l.afterHost step left).host.queued l.id = _
      rw [hheard, hhost, hqueued, hreported, ← h.queued e he, List.append_assoc]
    · rw [hheard, hreported]
      exact h.heard.trans (List.prefix_append _ _)
    · rw [htold]
      intro r hr
      rcases List.mem_append.mp hr with hr | hr
      · exact hlater (h.told r hr)
      · intro hreply
        obtain ⟨hopen, hmem⟩ := hwritten e r hr hreply
        exact hlater (h.toTell e he hopen r hmem) hreply
    · intro e' he' hopen r hr
      obtain rfl := Option.some.inj (hafter.symm.trans (hhost ▸ he'))
      obtain ⟨hbefore, hmem⟩ := hcommands e hopen
      rcases hmem r hr with hold | hnew
      · exact hlater (h.toTell e he hbefore r hold)
      · exact fun _ => .inl hnew

/-- **A turn of the host's end.** -/
theorem Hearing.host (h : l.Hearing) {t : WireTurn Empty} (hcommand : t.command? = none) :
    (l.atHost t).Hearing := by
  have hcommand : (t.taking l.toHost).command? = none := (t.command?_taking _).trans hcommand
  have houtcome := fun e : ChannelEnd Empty => e.outcome_undergo (t.taking l.toHost)
  refine h.afterHost
    (fun e he => (he ▸ h.stage).turn (t.bytes_taking l.toHost) hcommand (houtcome e))
    (fun e => (replies_outcome hcommand (houtcome e)).1) fun e hopen => ?_
  obtain ⟨hbefore, hcommands⟩ := (replies_outcome hcommand (houtcome e)).2 hopen
  exact ⟨hbefore, fun r hr => .inl (hcommands r hr)⟩

/-- The application of the host hands over a message. -/
theorem Hearing.tells (h : l.Hearing) (m : Message) : (l.tells m).Hearing := by
  have hspoken : Hearing { l with spoken := l.spoken ++ [m] } := by
    have hlater : ∀ {r}, l.Reasoned r → Reasoned { l with spoken := l.spoken ++ [m] } r :=
      fun hr => hr.later (fun _ hm => List.mem_append_left _ hm) (List.prefix_refl _)
    exact
      { given := h.given, stage := h.stage, queued := h.queued, heard := h.heard
        told := fun r hr => hlater (h.told r hr)
        toTell := fun e he hopen r hr => hlater (h.toTell e he hopen r hr) }
  have hqueue : ∀ e, handOver m e = ({}, e.queue [m]) := fun e =>
    congrArg (Prod.mk _) (e.send_eq_queue m)
  refine hspoken.afterHost (fun e he => ?_) (fun e => ?_) fun e hopen => ?_
  · rw [hqueue, List.append_nil]
    exact Stage.queue (he ▸ h.stage) [m]
  · rw [hqueue]
    exact nofun
  · rw [hqueue] at hopen ⊢
    rw [ChannelEnd.queue, ChannelEnd.isClosed_enqueue] at hopen
    refine ⟨hopen, fun r hr => ?_⟩
    rcases mem_commands_queue hr with hold | hnew
    · exact .inl hold
    · exact .inr (List.mem_append_right _ hnew)

/-- **Every change keeps the host's side.** -/
theorem Change.hearing {l' : Link A} (hc : l.Change l') (h : l.Hearing) : l'.Hearing := by
  cases hc with
  | sent p ms hands | asked p m hopen hands | askedLate t hclosed =>
    exact
      { given := h.given, stage := h.stage, queued := h.queued, heard := h.heard
        told := h.told, toTell := h.toTell }
  | client t hcommand =>
    exact
      { given := h.given, stage := h.stage.more _, queued := h.queued, heard := h.heard
        told := h.told, toTell := h.toTell }
  | host t hcommand => exact h.host hcommand
  | told m => exact h.tells m
  | done d hd => exact h.does hd

/-- The peer of a client that has just connected has heard nothing. -/
theorem hearing_start {config : HostConfig} {prior : List Deed} {id : PeerId}
    (hawaits : (Host.after config prior).Awaits id) (token : Token) (pid : UInt32) :
    (start config prior id token pid : Link A).Hearing := by
  obtain ⟨name, hchannel⟩ := hawaits.listening
  obtain ⟨p, hp, -⟩ := Option.map_eq_some_iff.mp hchannel
  have hgiven := (Host.numbered_after config prior id p hp).2
  rw [start_eq]
  refine
    { given := hgiven, stage := ?_, queued := fun _ _ => ?_, heard := List.nil_prefix
      told := nofun, toTell := ?_ }
  · show Stage _ _ _ ((Host.after config prior).channel? id)
    rw [hchannel]
    exact .waiting _ (.inl rfl) (List.append_nil _).symm rfl
  · exact hawaits.quiet
  · intro e he
    obtain rfl := Option.some.inj (hchannel.symm.trans he)
    exact nofun

end Link

end ControlPlane
