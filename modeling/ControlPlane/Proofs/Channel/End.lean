/-
# What an end makes of what it is given

The steps of an end of a channel that do not end it.

* `Taken`, `taken_takeFrame`: all that can become of a message that is read;
* `ChannelEnd.read?_frame`: an open end reads a frame that has arrived, whatever follows it;
* `ChannelEnd.enqueue`, `send_eq_enqueue`, `request_eq_enqueue`: what is handed over joins the queue;
* `ChannelEnd.send_of_open`: on an open channel it is the last command.
-/
import ControlPlane.Channel.End
import ControlPlane.Proofs.Message.Echo

namespace ControlPlane

/-! ## 1. Messages that are read -/

/-- The message of an event that is owed an answer. -/
def owed? : ChannelEvent → Option Message
  | .message m => if m.sync then some m else none
  | _ => none

/-- What an end may report of a message: a reply that goes astray named no request. -/
inductive Fair : ChannelEvent → Prop
  | message (m : Message) : Fair (.message m)
  | hello : Fair (.badMessage ChannelEnd.duplicateHello)
  | undecodable (e : ReadError) : Fair (.badMessage (ChannelEnd.undecodable e))
  | unasked : Fair (.badMessage (ProtocolFault.strayReply 0).message)
  | failed (ending : ChannelEnding) : Fair (.failed ending)

/-- What a payload is read as by the reader of messages. -/
def Message.Arrives (payload payload' : Json) : Prop :=
  Json.echo (Json.levels - 1) payload = .ok payload'

/-- **What becomes of a message that is read.** -/
inductive Taken (e : ChannelEnd Nat) (m : Message) : ChannelOutput Nat × ChannelEnd Nat → Prop
  /-- It is reported, and nobody is given it. -/
  | refused (event : ChannelEvent) (hfair : Fair event) (howed : owed? event = none)
      (hlasts : ∀ ending, event ≠ .failed ending)
      (hlost : m.reply = true → m.request = none ∨ ∀ p, ¬ Message.Arrives m.payload p) :
      Taken e m ({ events := [event] }, e)
  /-- The peer is given it. -/
  | heard (p : Json) (hreply : m.reply = false) (harrives : Message.Arrives m.payload p) :
      Taken e m ({ events := [.message { m with payload := p }] }, e)
  /-- It is a reply that nobody waits for. -/
  | stray (i : UInt64) (hreply : m.reply = true) (hrequest : m.request = some i)
      (hnone : e.pending.get? i = none) :
      Taken e m ({ events := [.badMessage (ProtocolFault.strayReply i).message] }, e)
  /-- It is a reply, and whoever waits for it is given it. -/
  | answered (p : Json) (i : UInt64) (t : Nat) (hreply : m.reply = true)
      (hrequest : m.request = some i) (harrives : Message.Arrives m.payload p)
      (hsome : e.pending.get? i = some t) :
      Taken e m ({ answers := [(t, ChannelEnd.answerOf { m with payload := p })] },
        { e with pending := e.pending.erase i })

/-- Everything that can become of a message that is read. -/
theorem taken_takeFrame (e : ChannelEnd Nat) (m : Message) : Taken e m (e.takeFrame m.bytes) := by
  unfold ChannelEnd.takeFrame
  rw [Message.parse_bytes]
  cases hecho : Json.echo (Json.levels - 1) m.payload with
  | error err =>
    refine .refused _ (.undecodable err) rfl (fun _ h => nomatch h) fun _ => .inr fun p hp => ?_
    rw [Message.Arrives, hecho] at hp
    cases hp
  | ok p =>
    simp only [Except.map, ChannelEnd.takeMessage]
    by_cases hreply : m.reply = true
    · simp only [hreply, if_true, ChannelEnd.takeReply, ChannelEnd.waiter?]
      cases hrequest : m.request with
      | none => exact .refused _ .unasked rfl (fun _ h => nomatch h) fun _ => .inl hrequest
      | some i =>
        simp only [Option.bind_some, Option.getD_some]
        cases hpending : e.pending.get? i with
        | none => exact .stray i hreply hrequest hpending
        | some t => exact hrequest ▸ hreply ▸ .answered p i t hreply hrequest hecho hpending
    · rw [Bool.not_eq_true] at hreply
      simp only [hreply, Bool.false_eq_true, if_false]
      by_cases hhello : m.type = MessageType.hello
      · rw [if_pos hhello]
        exact .refused _ .hello rfl (fun _ h => nomatch h) fun h => by simp [hreply] at h
      · rw [if_neg hhello]
        exact hreply ▸ .heard p hreply hecho

/-! ## 2. Steps -/

namespace ChannelEnd

variable {τ : Type}

/-- What becomes of a frame does not depend on what has arrived behind it. -/
theorem takeFrame_arrived (e : ChannelEnd τ) (payload bs : Bytes) (closing : Bool) :
    { e with arrived := bs, inputOver := closing }.takeFrame payload
      = ((e.takeFrame payload).1,
          { (e.takeFrame payload).2 with arrived := bs, inputOver := closing }) := by
  unfold takeFrame
  cases Message.parse payload with
  | error err => rfl
  | ok m =>
    simp only [takeMessage, takeReply, waiter?]
    split
    · cases m.request.bind e.pending.get? <;> rfl
    · split <;> rfl

/-- A frame does not close the channel. -/
theorem phase_takeFrame (e : ChannelEnd τ) (payload : Bytes) :
    (e.takeFrame payload).2.phase = e.phase := by
  unfold takeFrame
  cases Message.parse payload with
  | error err => rfl
  | ok m =>
    simp only [takeMessage, takeReply]
    split
    · cases e.waiter? m <;> rfl
    · split <;> rfl

/-- What is read from a channel leaves alone what is to be written, and nobody waits for more. -/
theorem takeFrame_keeps (e : ChannelEnd τ) (payload : Bytes) :
    (e.takeFrame payload).1.written = [] ∧ (e.takeFrame payload).2.commands = e.commands ∧
      (e.takeFrame payload).2.nextRequest = e.nextRequest ∧
      ∀ i t, (e.takeFrame payload).2.pending.get? i = some t → e.pending.get? i = some t := by
  unfold takeFrame
  cases Message.parse payload with
  | error err => exact ⟨rfl, rfl, rfl, fun _ _ h => h⟩
  | ok m =>
    simp only [takeMessage, takeReply]
    split
    · split
      · refine ⟨rfl, rfl, rfl, fun i t h => ?_⟩
        rw [Table.get?_erase] at h
        split at h
        · cases h
        · exact h
      · exact ⟨rfl, rfl, rfl, fun _ _ h => h⟩
    · split <;> exact ⟨rfl, rfl, rfl, fun _ _ h => h⟩

/-- An open end reads a frame that has arrived, whether or not its input is over. -/
theorem read?_frame {e : ChannelEnd τ} {payload rest : Bytes} (hopen : e.phase = .opened)
    (hframe : Frame.next e.arrived = .frame payload rest) :
    e.read? = some ({ e with arrived := rest }.takeFrame payload) := by
  simp only [read?, hopen, hframe, reduceCtorEq, or_true, if_true, if_false]

/-- An end is over in its last phase only. -/
theorem isOpen_of_phase {e : ChannelEnd τ} {phase : ChannelPhase} (hphase : e.phase = phase)
    (hlasts : phase ≠ .ended := by decide) : e.isClosed = false :=
  decide_eq_false (hphase ▸ hlasts)

/-- **Commands join the queue** of what is to be written, in their order.  A channel that is over
takes none. -/
def enqueue (e : ChannelEnd τ) (cs : List (Command τ)) : ChannelEnd τ :=
  if e.isClosed then e else { e with commands := e.commands ++ cs }

/-- No command changes nothing. -/
@[simp] theorem enqueue_nil (e : ChannelEnd τ) : e.enqueue [] = e := by
  simp [enqueue]

/-- A command does not end a channel. -/
@[simp] theorem isClosed_enqueue (e : ChannelEnd τ) (cs : List (Command τ)) :
    (e.enqueue cs).isClosed = e.isClosed := by
  unfold enqueue
  split <;> rfl

/-- What joins the queue in two parts joins it. -/
theorem enqueue_append (e : ChannelEnd τ) (cs ds : List (Command τ)) :
    e.enqueue (cs ++ ds) = (e.enqueue cs).enqueue ds := by
  have hstill := e.isClosed_enqueue cs
  cases hclosed : e.isClosed with
  | true => simp [enqueue, hclosed]
  | false =>
    rw [hclosed] at hstill
    rw [enqueue, enqueue, hstill, hclosed]
    simp [enqueue, hclosed]

/-- A message that is handed over joins the queue. -/
theorem send_eq_enqueue (e : ChannelEnd τ) (m : Message) :
    e.send m = (!e.isClosed, e.enqueue [.send m]) := by
  unfold send enqueue
  cases e.isClosed <;> rfl

/-- So does a request. -/
theorem request_eq_enqueue (e : ChannelEnd τ) (m : Message) (ticket : τ) :
    (e.request m ticket).2 = e.enqueue [.request m ticket] := by
  unfold request enqueue
  cases e.isClosed <;> rfl

/-- A message that is handed to an open end is its last command. -/
theorem send_of_open {e : ChannelEnd τ} (hopen : e.isClosed = false) (m : Message) :
    e.send m = (true, { e with commands := e.commands ++ [.send m] }) := by
  simp [send, hopen]

end ChannelEnd

end ControlPlane
