/-
# What an end tells its peer

One end of a channel whose connection is made and holds: bytes arrive in pieces of any size, its peer
hands over what it likes and keeps listening, and the end reads and writes whenever its surroundings
let it.  None of its reads and writes fails; ends that are cut short are the matter of `Intake`.

* `Chronicle`: an end, with a record of what has arrived, what its peer was told and which frames
  were read;
* `Chronicle.allows`: the turns of an end that are taken by one whose connection holds;
* `Chronicle.Change`, `Chronicle.change_step`: the few ways in which a step changes it;
* `Chronicle.Stage`: how far an end has come, and what its peer has been told by then;
* `Chronicle.orderly_run`: what the peer is told has one shape, and each frame has one effect.

The frames that were read are compared with those that the reader of a whole stream finds in all
that has arrived (`Frame.readAll`), so none is lost, taken twice or taken out of its turn.
-/
import ControlPlane.Proofs.Channel.Turns
import ControlPlane.Proofs.Frame

namespace ControlPlane

/-! ## 1. Events and effects -/

/-- **An event between the handshake and the failure**: a message that is neither a reply nor a
hello, or a frame that means nothing. -/
inductive ChannelEvent.IsNews : ChannelEvent → Prop
  | message (m : Message) (hreply : m.reply = false) (hhello : m.type ≠ MessageType.hello) :
      IsNews (.message m)
  | badMessage (reason : String) : IsNews (.badMessage reason)

/-- **All that a peer can be told** from the beginning of a channel to its end. -/
inductive Life : List ChannelEvent → Prop
  /-- The handshake fails. -/
  | refused : Life [.failed .noHandshake]
  /-- The handshake succeeds, and some time later the other end closes the connection or nothing
  can be read any more. -/
  | served (pid : UInt32) (news : List ChannelEvent) (ending : ChannelEnding)
      (hnews : ∀ e ∈ news, e.IsNews) (hending : ending = .closed ∨ ending = .unreadable) :
      Life (.connected pid :: news ++ [.failed ending])

/-- A life tells of no message that is a reply or a hello. -/
theorem Life.message {life : List ChannelEvent} (h : Life life) {m : Message}
    (hm : .message m ∈ life) : m.reply = false ∧ m.type ≠ MessageType.hello := by
  cases h with
  | refused => simp at hm
  | served pid news ending hnews =>
    simp only [List.cons_append, List.mem_cons, List.mem_append, reduceCtorEq, List.not_mem_nil,
      or_false, false_or] at hm
    cases hnews _ hm with
    | message _ hreply hhello => exact ⟨hreply, hhello⟩

/-- **A frame that was read** from an open channel. -/
structure Reading (τ : Type) where
  before : ChannelEnd τ
  payload : Bytes
  out : ChannelOutput τ
  after : ChannelEnd τ

/-- **The one effect of a frame.** -/
inductive Reading.Effect {τ : Type} (r : Reading τ) : Prop
  /-- It is the reply to a request, whoever waits for it is given it, and waits no longer. -/
  | completes (m : Message) (i : UInt64) (t : τ) (hparse : Message.parse r.payload = .ok m)
      (hreply : m.reply = true) (hrequest : m.request = some i)
      (hwaits : r.before.pending.get? i = some t)
      (hout : r.out = { answers := [(t, ChannelEnd.answerOf m)] })
      (hpending : r.after.pending = r.before.pending.erase i)
  /-- The peer is told one thing, and nobody waits any less. -/
  | reports (e : ChannelEvent) (hnews : e.IsNews) (hout : r.out = { events := [e] })
      (hpending : r.after.pending = r.before.pending)

/-- What the peer is told of a frame is news. -/
theorem Reading.Effect.news {τ : Type} {r : Reading τ} (h : r.Effect) :
    ∀ e ∈ r.out.events, e.IsNews := by
  intro e he
  cases h with
  | completes m i t _ _ _ _ hout =>
    rw [hout] at he
    cases he
  | reports e' hnews hout =>
    rw [hout, List.mem_singleton] at he
    exact he ▸ hnews

/-- Nothing is written because of a frame. -/
theorem Reading.Effect.silent {τ : Type} {r : Reading τ} (h : r.Effect) : r.out.written = [] := by
  cases h with
  | completes _ _ _ _ _ _ _ hout => rw [hout]
  | reports _ _ hout => rw [hout]

/-- **Every frame has one effect**, whatever it holds. -/
theorem ChannelEnd.effect_takeFrame {τ : Type} (e : ChannelEnd τ) (payload rest : Bytes) :
    (Reading.mk e payload ({ e with arrived := rest }.takeFrame payload).1
      ({ e with arrived := rest }.takeFrame payload).2).Effect := by
  unfold takeFrame
  cases hparse : Message.parse payload with
  | error err => exact .reports _ (.badMessage _) rfl rfl
  | ok m =>
    simp only [takeMessage]
    by_cases hreply : m.reply = true
    · simp only [hreply, if_true, takeReply, waiter?]
      cases hrequest : m.request with
      | none => exact .reports _ (.badMessage _) rfl rfl
      | some i =>
        simp only [Option.bind_some, Option.getD_some]
        cases hwaits : e.pending.get? i with
        | none => exact .reports _ (.badMessage _) rfl rfl
        | some t => exact .completes m i t hparse hreply hrequest hwaits rfl rfl
    · simp only [hreply, if_false, Bool.false_eq_true]
      rw [Bool.not_eq_true] at hreply
      by_cases hhello : m.type = MessageType.hello
      · rw [if_pos hhello]
        exact .reports _ (.badMessage _) rfl rfl
      · rw [if_neg hhello]
        exact .reports _ (.message m hreply hhello) rfl rfl

/-- A frame takes nothing from what has arrived behind it. -/
theorem ChannelEnd.arrived_takeFrame {τ : Type} (e : ChannelEnd τ) (payload : Bytes) :
    (e.takeFrame payload).2.arrived = e.arrived :=
  congrArg (fun x => x.2.arrived) (e.takeFrame_arrived payload e.arrived e.inputOver)

/-- Nor does it end the input. -/
theorem ChannelEnd.inputOver_takeFrame {τ : Type} (e : ChannelEnd τ) (payload : Bytes) :
    (e.takeFrame payload).2.inputOver = e.inputOver :=
  congrArg (fun x => x.2.inputOver) (e.takeFrame_arrived payload e.arrived e.inputOver)

/-! ## 2. Chronicles -/

/-- **An end of a channel, and what has become of it.** -/
structure Chronicle (τ : Type) where
  channel : ChannelEnd τ
  /-- All that has arrived. -/
  stream : Bytes := []
  /-- What the peer was told. -/
  events : List ChannelEvent := []
  /-- The frames that were read from the open channel. -/
  readings : List (Reading τ) := []

namespace ChannelTurn

variable {τ : Type} {e : ChannelEnd τ} {x : ChannelOutput τ × ChannelEnd τ} {t : EndTurn τ}

/-- The frame that a turn has read, if the channel is open and a whole one has arrived. -/
def reading? (e : ChannelEnd τ) (x : ChannelOutput τ × ChannelEnd τ) : EndTurn τ → Option (Reading τ)
  | .read =>
    match e.phase, Frame.next e.arrived with
    | .opened, .frame payload _ => some ⟨e, payload, x.1, x.2⟩
    | _, _ => none
  | _ => none

/-- Only a read reads a frame. -/
theorem reading?_of_ne (ht : t ≠ .read) : t.reading? e x = none := by
  cases t <;> first | rfl | exact absurd rfl ht

/-- Before the hello no frame is one of an open channel. -/
theorem reading?_of_phase (hphase : e.phase ≠ .opened) : t.reading? e x = none := by
  cases t with
  | read => simp [reading?, hphase]
  | _ => rfl

/-- Nor is there one where no whole frame has arrived. -/
theorem reading?_of_next (hnone : ∀ payload rest, Frame.next e.arrived ≠ .frame payload rest) :
    t.reading? e x = none := by
  cases t with
  | read => simp [reading?, hnone]
  | _ => rfl

/-- What a read of an open channel has read. -/
theorem reading?_read {payload rest : Bytes} (hphase : e.phase = .opened)
    (hnext : Frame.next e.arrived = .frame payload rest) :
    (.read : EndTurn τ).reading? e x = some ⟨e, payload, x.1, x.2⟩ := by
  simp [reading?, hphase, hnext]

end ChannelTurn

namespace ChannelEnd

variable {τ : Type} {e : ChannelEnd τ} {x : ChannelOutput τ × ChannelEnd τ} {t : EndTurn τ}

/-- **An end that does nothing has read nothing.** -/
theorem reading?_of_idle
    (hread : t = .read → e.phase = .greeting ∨ e.phase = .opened → ¬ e.Decided) :
    t.reading? e x = none := by
  by_cases ht : t = .read
  · by_cases hphase : e.phase = .opened
    · refine ChannelTurn.reading?_of_next fun payload rest hnext => ?_
      exact hread ht (.inr hphase) (.inl ⟨payload, rest, hnext⟩)
    · exact ChannelTurn.reading?_of_phase hphase
  · exact ChannelTurn.reading?_of_ne ht

/-- **Neither has one that fails.** -/
theorem Fails.reading? {ending : ChannelEnding} (h : e.Fails t ending) : t.reading? e x = none := by
  cases h with
  | refused | unreadable | unwritable => rfl
  | cut t ht hphase | unfit _ _ _ hphase | missing _ hphase =>
    exact ChannelTurn.reading?_of_phase (by simp [hphase])
  | ended _ _ hends => exact ChannelTurn.reading?_of_next hends.no_frame

end ChannelEnd

namespace Chronicle

variable {τ : Type}

/-- An end that waits for a connection. -/
def start (name : String) : Chronicle τ := { channel := ChannelEnd.listening name }

/-- **What can happen at an end whose connection holds**, and whose peer listens.  Nothing arrives
behind the end of the input, or on a channel that is over. -/
def allows (c : Chronicle τ) : EndTurn τ → Bool
  | .refuse | .breakInput | .breakOutput | .drop => false
  | .arrive _ => !(c.channel.isClosed || c.channel.inputOver)
  | _ => true

/-- Records what a turn gives out, and which frame it has read. -/
def record (c : Chronicle τ) (t : EndTurn τ) (x : ChannelOutput τ × ChannelEnd τ) : Chronicle τ where
  channel := x.2
  stream := c.stream ++ t.bytes
  events := c.events ++ x.1.events
  readings := c.readings ++ (t.reading? c.channel x).toList

/-- **What happens at an end.**  What cannot happen changes nothing. -/
def step (c : Chronicle τ) (t : EndTurn τ) : Chronicle τ :=
  if c.allows t then c.record t (c.channel.undergo t) else c

/-- **A run**: whatever happens, in any order. -/
def run (c : Chronicle τ) (ts : List (EndTurn τ)) : Chronicle τ := ts.foldl step c

/-! ## 3. Changes -/

/-- No whole frame has arrived, and none will: a length is not accepted, or the input is over. -/
def Exhausted (e : ChannelEnd τ) : Prop :=
  (∃ n, Frame.next e.arrived = .tooLong n) ∨
    (∃ begun, Frame.next e.arrived = .partly begun) ∧ e.inputOver = true

/-- So it is where what has arrived has come to its end. -/
theorem exhausted_of_concluded {e : ChannelEnd τ} {ending : ChannelEnding} (h : e.Concluded ending) :
    Exhausted e := by
  cases h with
  | tooLong n hnext => exact .inl ⟨n, hnext⟩
  | inside hnext hover | between hnext hover => exact .inr ⟨⟨_, hnext⟩, hover⟩

/-- **The ways in which a step changes an end and its record.** -/
inductive Change (c : Chronicle τ) : Chronicle τ → Prop
  /-- Nothing that its peer is told. -/
  | quiet (e : ChannelEnd τ) (hphase : e.phase = c.channel.phase)
      (harrived : e.arrived = c.channel.arrived) : Change c { c with channel := e }
  | accepted (e : ChannelEnd τ) (hbefore : c.channel.phase = .listening)
      (hphase : e.phase = .greeting) (harrived : e.arrived = c.channel.arrived) :
      Change c { c with channel := e }
  | arrived (bs : Bytes) (hopen : c.channel.isClosed = false) :
      Change c
        { c with
          channel := { c.channel with arrived := c.channel.arrived ++ bs }
          stream := c.stream ++ bs }
  /-- The handshake fails. -/
  | refused (e : ChannelEnd τ) (hbefore : c.channel.phase = .greeting)
      (hphase : e.phase = .ended) :
      Change c { c with channel := e, events := c.events ++ [.failed .noHandshake] }
  /-- The handshake succeeds. -/
  | greeted (e : ChannelEnd τ) (pid : UInt32) (hello : Bytes)
      (hbefore : c.channel.phase = .greeting)
      (hnext : Frame.next c.channel.arrived = .frame hello e.arrived)
      (hphase : e.phase = .opened) :
      Change c { c with channel := e, events := c.events ++ [.connected pid] }
  /-- A frame is read. -/
  | taken (r : Reading τ) (hbefore : c.channel.phase = .opened)
      (hnext : Frame.next c.channel.arrived = .frame r.payload r.after.arrived)
      (heffect : r.Effect) (hphase : r.after.phase = .opened) :
      Change c
        { c with
          channel := r.after
          events := c.events ++ r.out.events
          readings := c.readings ++ [r] }
  /-- The channel has come to its end. -/
  | failed (e : ChannelEnd τ) (ending : ChannelEnding) (hbefore : c.channel.phase = .opened)
      (hends : c.channel.Concluded ending) (hphase : e.phase = .ended) :
      Change c { c with channel := e, events := c.events ++ [.failed ending] }

/-- A turn that gives its peer nothing is quiet. -/
theorem change_quiet {c : Chronicle τ} {t : EndTurn τ} {x : ChannelOutput τ × ChannelEnd τ}
    (hbytes : t.bytes = []) (hevents : x.1.events = []) (hreading : t.reading? c.channel x = none)
    (hphase : x.2.phase = c.channel.phase) (harrived : x.2.arrived = c.channel.arrived) :
    c.Change (c.record t x) := by
  have hrecord : c.record t x = { c with channel := x.2 } := by
    simp [record, hbytes, hevents, hreading]
  rw [hrecord]
  exact .quiet x.2 hphase harrived

/-- Where nothing arrives and no frame is read, the record is of what the peer is told. -/
theorem record_eq {c : Chronicle τ} {t : EndTurn τ} {x : ChannelOutput τ × ChannelEnd τ}
    (hbytes : t.bytes = []) (hreading : t.reading? c.channel x = none) :
    c.record t x = { c with channel := x.2, events := c.events ++ x.1.events } := by
  simp [record, hbytes, hreading]

/-- A frame that is read from an open channel has its effect. -/
theorem change_taken {c : Chronicle τ} {payload rest : Bytes} (hphase : c.channel.phase = .opened)
    (hnext : Frame.next c.channel.arrived = .frame payload rest) :
    c.Change (c.record .read ({ c.channel with arrived := rest }.takeFrame payload)) := by
  have heffect := c.channel.effect_takeFrame payload rest
  have harrived := ChannelEnd.arrived_takeFrame { c.channel with arrived := rest } payload
  have hopen := ChannelEnd.phase_takeFrame { c.channel with arrived := rest } payload
  generalize { c.channel with arrived := rest }.takeFrame payload = x at *
  have hrecord : c.record .read x
      = { c with
          channel := x.2
          events := c.events ++ x.1.events
          readings := c.readings ++ [⟨c.channel, payload, x.1, x.2⟩] } := by
    simp [record, ChannelTurn.bytes, ChannelTurn.reading?_read hphase hnext]
  rw [hrecord]
  exact .taken ⟨c.channel, payload, x.1, x.2⟩ hphase (harrived ▸ hnext) heffect
    (hopen.trans hphase)

/-- An end whose connection holds fails by what it reads, or because the hello is late. -/
theorem change_fails {c : Chronicle τ} {t : EndTurn τ} {ending : ChannelEnding}
    (hallows : c.allows t = true) (hfails : c.channel.Fails t ending) :
    c.Change (c.record t (c.channel.fail ending)) := by
  rw [record_eq hfails.plain.2 hfails.reading?]
  cases hfails with
  | refused | unreadable | unwritable => cases hallows
  | cut _ _ hphase | unfit _ _ _ hphase | missing _ hphase => exact .refused _ hphase rfl
  | ended _ hphase hends => exact .failed _ _ hphase hends rfl

/-- Bytes that arrive are not lost. -/
theorem bytes_of_allows {c : Chronicle τ} {t : EndTurn τ} (hallows : c.allows t = true)
    (hbytes : c.channel.isClosed = false → t.bytes = []) : t.bytes = [] := by
  cases t with
  | arrive bs =>
    refine hbytes ?_
    simp only [allows, Bool.not_eq_true', Bool.or_eq_false_iff] at hallows
    exact hallows.1
  | _ => rfl

/-- **Every step is one of the changes.** -/
theorem change_step (c : Chronicle τ) (t : EndTurn τ) : c.Change (c.step t) := by
  rw [step]
  split
  case isFalse => exact .quiet _ rfl rfl
  case isTrue hallows =>
    have h := c.channel.outcome_undergo t
    generalize c.channel.undergo t = x at h ⊢
    cases h with
    | idle t _ hbytes hread =>
      exact change_quiet (bytes_of_allows hallows hbytes) rfl (ChannelEnd.reading?_of_idle hread)
        rfl rfl
    | accepted pid hphase =>
      rw [record_eq rfl rfl, List.append_nil]
      exact .accepted _ hphase rfl rfl
    | arrived bs hopen =>
      have hrecord : c.record (.arrive bs)
          ({}, { c.channel with arrived := c.channel.arrived ++ bs })
          = { c with
              channel := { c.channel with arrived := c.channel.arrived ++ bs }
              stream := c.stream ++ bs } := by
        simp [record, ChannelTurn.bytes, ChannelTurn.reading?]
      rw [hrecord]
      exact .arrived bs hopen
    | inputOver => exact change_quiet rfl rfl rfl rfl rfl
    | queued t _ hcommand | late t _ hcommand =>
      obtain ⟨hbytes, hread, -⟩ := ChannelTurn.of_command hcommand
      exact change_quiet hbytes rfl (ChannelTurn.reading?_of_ne hread) rfl rfl
    | greeted pid hello rest hphase hnext =>
      rw [record_eq rfl (ChannelTurn.reading?_of_phase (by simp [hphase]))]
      exact .greeted { c.channel with arrived := rest, phase := .opened } pid hello hphase hnext rfl
    | taken payload rest hphase hnext => exact change_taken hphase hnext
    | wrote | asked => exact change_quiet rfl rfl rfl rfl rfl
    | failed t ending hfails => exact change_fails hallows hfails
    | dropped => cases hallows

/-! ## 4. How far an end has come -/

/-- The payloads of the frames that were read. -/
def payloads (c : Chronicle τ) : List Bytes := c.readings.map (·.payload)

/-- What the peer was told of the frames that were read. -/
def news (c : Chronicle τ) : List ChannelEvent := c.readings.flatMap (·.out.events)

/-- **How far an end has come**, and what its peer has been told by then. -/
inductive Stage (c : Chronicle τ) : Prop
  /-- The handshake is still to come. -/
  | waiting (hphase : c.channel.phase = .listening ∨ c.channel.phase = .greeting)
      (hevents : c.events = []) (hreadings : c.readings = [])
      (harrived : c.channel.arrived = c.stream)
  /-- The handshake has failed. -/
  | refused (hphase : c.channel.phase = .ended) (hevents : c.events = [.failed .noHandshake])
      (hreadings : c.readings = [])
  /-- The channel is open. -/
  | opened (pid : UInt32) (hello : Bytes) (hphase : c.channel.phase = .opened)
      (hevents : c.events = .connected pid :: c.news)
      (hframes : Frame.Splits c.stream (hello :: c.payloads) c.channel.arrived)
  /-- The channel was open, and what was left behind the last frame was no whole one. -/
  | finished (pid : UInt32) (hello rest : Bytes) (ending : ChannelEnding)
      (hphase : c.channel.phase = .ended)
      (hevents : c.events = .connected pid :: c.news ++ [.failed ending])
      (hending : ending = .closed ∨ ending = .unreadable)
      (hframes : Frame.Splits c.stream (hello :: c.payloads) rest)
      (hrest : ∀ payload more, Frame.next rest ≠ .frame payload more)

/-- A new end waits. -/
theorem stage_start (name : String) : (start name : Chronicle τ).Stage :=
  .waiting (.inl rfl) rfl rfl rfl

/-- **Every change leads to one of the stages.** -/
theorem Change.stage {c c' : Chronicle τ} (hc : c.Change c') (h : c.Stage) : c'.Stage := by
  cases hc with
  | quiet e hphase harrived =>
    cases h with
    | waiting hbefore hevents hreadings hstream =>
      exact .waiting (hphase ▸ hbefore) hevents hreadings (harrived.trans hstream)
    | refused hbefore hevents hreadings => exact .refused (hphase.trans hbefore) hevents hreadings
    | opened pid hello hbefore hevents hframes =>
      exact .opened pid hello (hphase.trans hbefore) hevents (harrived ▸ hframes)
    | finished pid hello rest ending hbefore hevents hending hframes hrest =>
      exact .finished pid hello rest ending (hphase.trans hbefore) hevents hending hframes hrest
  | accepted e hbefore hphase harrived =>
    cases h with
    | waiting _ hevents hreadings hstream =>
      exact .waiting (.inr hphase) hevents hreadings (harrived.trans hstream)
    | refused hphase' | opened _ _ hphase' | finished _ _ _ _ hphase' => simp [hbefore] at hphase'
  | arrived bs hopen =>
    cases h with
    | waiting hphase hevents hreadings hstream =>
      exact .waiting hphase hevents hreadings (congrArg (· ++ bs) hstream)
    | opened pid hello hphase hevents hframes =>
      exact .opened pid hello hphase hevents (hframes.append bs)
    | refused hphase | finished _ _ _ _ hphase => simp [ChannelEnd.isClosed, hphase] at hopen
  | refused e hbefore hphase =>
    cases h with
    | waiting _ hevents hreadings => exact .refused hphase (by rw [hevents]; rfl) hreadings
    | refused hphase' | opened _ _ hphase' | finished _ _ _ _ hphase' => simp [hbefore] at hphase'
  | greeted e pid hello hbefore hnext hphase =>
    cases h with
    | waiting _ hevents hreadings hstream =>
      refine .opened pid hello hphase ?_ ?_
      · simp [news, hevents, hreadings]
      · simp only [payloads, hreadings, List.map_nil]
        exact .cons (hstream ▸ hnext) (.nil _)
    | refused hphase' | opened _ _ hphase' | finished _ _ _ _ hphase' => simp [hbefore] at hphase'
  | taken r hbefore hnext _ hphase =>
    cases h with
    | opened pid hello _ hevents hframes =>
      refine .opened pid hello hphase ?_ ?_
      · simp [news, hevents]
      · simpa [payloads] using hframes.snoc hnext
    | waiting hphase' => simp [hbefore] at hphase'
    | refused hphase' | finished _ _ _ _ hphase' => simp [hbefore] at hphase'
  | failed e ending hbefore hends hphase =>
    cases h with
    | opened pid hello _ hevents hframes =>
      have hending : ending = .closed ∨ ending = .unreadable := by cases hends <;> simp
      exact .finished pid hello _ ending hphase (by rw [hevents]; rfl) hending hframes hends.no_frame
    | waiting hphase' => simp [hbefore] at hphase'
    | refused hphase' | finished _ _ _ _ hphase' => simp [hbefore] at hphase'

/-- Every frame that is read has one effect, and leaves the channel open. -/
def Sound (c : Chronicle τ) : Prop := ∀ r ∈ c.readings, r.Effect ∧ r.after.phase = .opened

/-- Every change keeps that. -/
theorem Change.sound {c c' : Chronicle τ} (hc : c.Change c') (h : c.Sound) : c'.Sound := by
  cases hc with
  | taken r _ _ heffect hphase =>
    intro r' hr'
    rcases List.mem_append.1 hr' with hr' | hr'
    · exact h r' hr'
    · rw [List.mem_singleton] at hr'
      exact hr' ▸ ⟨heffect, hphase⟩
  | quiet | accepted | arrived | refused | greeted | failed => exact h

/-- **Where a channel was open, only the end of its stream or a length that is not accepted ends
it.** -/
theorem Change.exhausted {c c' : Chronicle τ} (hc : c.Change c')
    (hopen : c.channel.phase = .opened) (hended : c'.channel.phase ≠ .opened) :
    Exhausted c.channel := by
  cases hc with
  | quiet e hphase => exact absurd (hphase.trans hopen) hended
  | arrived => exact absurd hopen hended
  | taken r _ _ _ hphase => exact absurd hphase hended
  | failed e ending _ hends => exact exhausted_of_concluded hends
  | accepted e hbefore | refused e hbefore | greeted e _ _ hbefore => simp [hopen] at hbefore

/-! ## 5. Runs -/

/-- **The end of a channel keeps order**: what its peer is told, and what becomes of the frames. -/
structure Orderly (c : Chronicle τ) : Prop where
  /-- What the peer was told is the beginning of all that a peer can be told. -/
  told : ∃ life, Life life ∧ c.events <+: life
  /-- A message that the peer was told of is neither a reply nor a hello. -/
  messages : ∀ m, .message m ∈ c.events → m.reply = false ∧ m.type ≠ MessageType.hello
  /-- Each frame that was read had one effect, and left the channel open. -/
  effects : c.Sound
  /-- Behind the handshake the peer was told what came of the frames, in their order, and nothing
  else but how the channel ended. -/
  heard : ∀ pid later, c.events = .connected pid :: later →
    later = c.news ∨ ∃ ending, later = c.news ++ [.failed ending]
  /-- The frames that were read, behind the hello, are the whole frames of the stream in their
  order, but for those that an open channel has still to read. -/
  frames : ∀ pid, .connected pid ∈ c.events → ∃ hello, (Frame.readAll c.stream).1
    = hello :: c.payloads ++
      (if c.channel.phase = .opened then (Frame.readAll c.channel.arrived).1 else [])
  /-- A whole frame that has arrived on an open channel can be read. -/
  reads : ∀ payload rest, c.channel.phase = .opened →
    Frame.next c.channel.arrived = .frame payload rest →
    (c.step .read).payloads = c.payloads ++ [payload]
  /-- Only the end of its stream or a length that is not accepted ends an open channel. -/
  ends : ∀ t, c.channel.phase = .opened → (c.step t).channel.phase ≠ .opened →
    Exhausted c.channel

/-- What the peer is told of frames is news. -/
theorem Sound.news {c : Chronicle τ} (h : c.Sound) : ∀ e ∈ c.news, e.IsNews := by
  intro e he
  obtain ⟨r, hr, he⟩ := List.mem_flatMap.1 he
  exact (h r hr).1.news e he

/-- What the peer was told in a stage is the beginning of a life. -/
theorem Stage.told {c : Chronicle τ} (h : c.Stage) (hsound : c.Sound) :
    ∃ life, Life life ∧ c.events <+: life := by
  cases h with
  | waiting _ hevents => exact ⟨_, .refused, hevents ▸ List.nil_prefix⟩
  | refused _ hevents => exact ⟨_, .refused, hevents ▸ List.prefix_refl _⟩
  | opened pid _ _ hevents =>
    exact ⟨_, .served pid c.news .closed hsound.news (.inl rfl), hevents ▸ List.prefix_append _ _⟩
  | finished pid _ _ ending _ hevents hending =>
    exact ⟨_, .served pid c.news ending hsound.news hending, hevents ▸ List.prefix_refl _⟩

/-- Behind the handshake the peer hears of the frames. -/
theorem Stage.heard {c : Chronicle τ} (h : c.Stage) {pid : UInt32} {later : List ChannelEvent}
    (hlater : c.events = .connected pid :: later) :
    later = c.news ∨ ∃ ending, later = c.news ++ [.failed ending] := by
  cases h with
  | waiting _ hevents | refused _ hevents => simp [hevents] at hlater
  | opened _ _ _ hevents =>
    rw [hevents, List.cons.injEq] at hlater
    exact .inl hlater.2.symm
  | finished _ _ _ ending _ hevents =>
    rw [hevents, List.cons_append, List.cons.injEq] at hlater
    exact .inr ⟨ending, hlater.2.symm⟩

/-- The frames that were read are those of the stream. -/
theorem Stage.frames {c : Chronicle τ} (h : c.Stage) {pid : UInt32}
    (hconnected : .connected pid ∈ c.events) :
    ∃ hello, (Frame.readAll c.stream).1 = hello :: c.payloads ++
      (if c.channel.phase = .opened then (Frame.readAll c.channel.arrived).1 else []) := by
  cases h with
  | waiting _ hevents | refused _ hevents => simp [hevents] at hconnected
  | opened _ hello hphase _ hframes =>
    refine ⟨hello, ?_⟩
    rw [Frame.readAll_of_splits hframes, if_pos hphase]
  | finished _ hello rest _ hphase _ _ hframes hrest =>
    refine ⟨hello, ?_⟩
    rw [Frame.readAll_of_splits hframes, Frame.readAll_of_none hrest, if_neg (by simp [hphase])]

/-- A whole frame that has arrived on an open channel is the next one that is read. -/
theorem payloads_read {c : Chronicle τ} {payload rest : Bytes}
    (hopen : c.channel.phase = .opened)
    (hnext : Frame.next c.channel.arrived = .frame payload rest) :
    (c.step .read).payloads = c.payloads ++ [payload] := by
  simp [step, allows, record, payloads, ChannelTurn.reading?_read hopen hnext]

/-- **The end of a channel keeps order in every run**, whatever bytes arrive in whatever pieces,
and whatever its peer hands over in between. -/
theorem orderly_run (name : String) (ts : List (EndTurn τ)) :
    ((start name : Chronicle τ).run ts).Orderly := by
  have hrun : ∀ (ts : List (EndTurn τ)) (c : Chronicle τ), c.Stage → c.Sound →
      (c.run ts).Stage ∧ (c.run ts).Sound := by
    intro ts
    induction ts with
    | nil => exact fun c hstage hsound => ⟨hstage, hsound⟩
    | cons t rest ih =>
      intro c hstage hsound
      have hc := c.change_step t
      exact ih _ (hc.stage hstage) (hc.sound hsound)
  obtain ⟨hstage, hsound⟩ := hrun ts (start name) (stage_start name) nofun
  generalize (start name : Chronicle τ).run ts = c at hstage hsound
  obtain ⟨life, hlife, hbegins⟩ := hstage.told hsound
  exact
    { told := ⟨life, hlife, hbegins⟩
      messages := fun m hm => hlife.message (hbegins.subset hm)
      effects := hsound
      heard := fun pid later => hstage.heard
      frames := fun pid => hstage.frames
      reads := fun payload rest => payloads_read
      ends := fun t => (c.change_step t).exhausted }

end Chronicle

end ControlPlane
