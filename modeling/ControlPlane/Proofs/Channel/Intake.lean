/-
# An end and the stream before it

A new end of a channel and a whole stream on its way to it.  The stream may be any bytes; they arrive
in pieces of any size and in their order, while the peer hands over what it likes and the
surroundings may cut the channel short: the other end's hello may come too late, a read or a write may
fail, or the peer may let go.  There is a stream as there is a connection: that none can be taken from
the socket is left out here.

* `Intake`, `Intake.step`, `Intake.run`: an end with a stream before it, and a record of what comes of
  it;
* `Waiting.step`, `Opened.step`, `silent_undergo`: what a turn leads to before the handshake, behind
  it, and when the channel is over;
* `Intake.Stage`, `Intake.stage_run`: how far it has come.

The stages are the phases of the end with what is known in each of them; a turn leads from a stage to
itself or to the next one.
-/
import ControlPlane.Proofs.Channel.Admission
import ControlPlane.Proofs.Channel.Stream

namespace ControlPlane

open Handshake (Admits Verdict)

/-! ## 1. An end and its stream -/

/-- **An end of a channel with a stream on its way to it**, and what has come of it so far. -/
structure Intake (τ : Type) where
  channel : ChannelEnd τ
  /-- What is still to arrive. -/
  coming : Bytes
  /-- What the peer was told. -/
  events : List ChannelEvent := []
  /-- What requests have come to. -/
  answers : List (τ × Answer) := []
  /-- What the peer has handed over. -/
  handed : List (Command τ) := []
  /-- The frames that were read from the open channel. -/
  readings : List (Reading τ) := []
  /-- The surroundings have ended the channel. -/
  cut : Bool := false

namespace Intake

variable {τ : Type}

/-- A new end, with a whole stream before it. -/
def start (name : String) (stream : Bytes) : Intake τ :=
  { channel := ChannelEnd.listening name, coming := stream }

/-- There is a connection, bytes arrive in their order, and the input ends behind the last one. -/
def allows (c : Intake τ) : EndTurn τ → Bool
  | .refuse => false
  | .arrive bs => bs.isPrefixOf c.coming
  | .closeInput => c.coming.isEmpty
  | _ => true

/-- Records what a turn gives out. -/
def record (c : Intake τ) (t : EndTurn τ) (x : ChannelOutput τ × ChannelEnd τ) : Intake τ where
  channel := x.2
  coming := c.coming.drop t.bytes.length
  events := c.events ++ x.1.events
  answers := c.answers ++ x.1.answers
  handed := c.handed ++ t.command?.toList
  readings := c.readings ++ (t.reading? c.channel x).toList
  cut := c.cut || (t.cuts && x.2.phase ≠ c.channel.phase)

/-- **What happens at an end.**  What cannot happen changes nothing. -/
def step (c : Intake τ) (t : EndTurn τ) : Intake τ :=
  if c.allows t then c.record t (c.channel.undergo t) else c

/-- **A run**: whatever happens, in any order. -/
def run (c : Intake τ) (turns : List (EndTurn τ)) : Intake τ := turns.foldl step c

/-- The payloads of the frames that were read behind the hello. -/
def payloads (c : Intake τ) : List Bytes := c.readings.map (·.payload)

/-- What the peer was told of them. -/
def news (c : Intake τ) : List ChannelEvent := c.readings.flatMap (·.out.events)

/-- **Every request that was handed over has failed**, since the channel is over. -/
def Unanswered (c : Intake τ) : Prop :=
  c.answers = (c.handed.filterMap Command.ticket?).map fun ticket => (ticket, .error .channelClosed)

/-! ## 2. How far an end has come -/

variable {name : String} {stream : Bytes} {c : Intake τ}

/-- **The handshake is still to come.**  Nothing is lost of what has arrived or was handed over. -/
structure Waiting (name : String) (stream : Bytes) (c : Intake τ) : Prop where
  phase : c.channel.phase = .listening ∨ c.channel.phase = .greeting
  named : c.channel.name = name
  events : c.events = []
  readings : c.readings = []
  answers : c.answers = []
  queued : c.channel.commands = c.handed
  pending : c.channel.pending = Table.empty
  stream : c.channel.arrived ++ c.coming = stream
  spent : c.channel.inputOver = true → c.coming = []
  uncut : c.cut = false

/-- **The handshake has failed**, or the peer let go before it. -/
structure Shut (name : String) (stream : Bytes) (c : Intake τ) : Prop where
  phase : c.channel.phase = .ended
  events : c.events = [] ∨ c.events = [.failed .noHandshake]
  readings : c.readings = []
  unanswered : c.Unanswered
  deserved : c.cut = false →
    c.events = [.failed .noHandshake] ∧ ∀ pid, ¬ Admits name stream pid

/-- **The channel is open.**  What the hello and the frames behind it have left is still there. -/
structure Opened (name : String) (stream : Bytes) (c : Intake τ) : Prop where
  phase : c.channel.phase = .opened
  events : ∃ pid, c.events = .connected pid :: c.news ∧ Admits name stream pid
  frames : ∃ hello, Frame.Splits stream (hello :: c.payloads) (c.channel.arrived ++ c.coming)
  effects : ∀ r ∈ c.readings, r.Effect
  spent : c.channel.inputOver = true → c.coming = []

/-- **The channel was open.**  If it was not cut short, no whole frame is left. -/
structure Finished (name : String) (stream : Bytes) (c : Intake τ) : Prop where
  phase : c.channel.phase = .ended
  events : ∃ pid endings, c.events = .connected pid :: c.news ++ endings ∧
    (∀ e ∈ endings, ∃ ending, ending ≠ .noHandshake ∧ e = .failed ending) ∧
    Admits name stream pid
  frames : ∃ hello rest, Frame.Splits stream (hello :: c.payloads) rest ∧
    (c.cut = false → ∀ payload more, Frame.next rest ≠ .frame payload more)
  effects : ∀ r ∈ c.readings, r.Effect

/-- **How far an end has come.** -/
inductive Stage (name : String) (stream : Bytes) (c : Intake τ) : Prop
  | waiting (h : c.Waiting name stream)
  | shut (h : c.Shut name stream)
  | opened (h : c.Opened name stream)
  | finished (h : c.Finished name stream)

/-- A new end waits. -/
theorem stage_start (name : String) (stream : Bytes) :
    (start name stream : Intake τ).Stage name stream :=
  .waiting ⟨.inl rfl, rfl, rfl, rfl, rfl, rfl, rfl, rfl, nofun, rfl⟩

/-! ## 3. What a turn leads to -/

/-- A turn that gives out nothing and changes nothing leaves no record. -/
theorem record_same {t : EndTurn τ} (hbytes : t.bytes = []) (hcommand : t.command? = none)
    (hreading : t.reading? c.channel ({}, c.channel) = none) :
    c.record t ({}, c.channel) = c := by
  simp [record, hbytes, hcommand, hreading]

/-- **An end goes on waiting** while nothing is told, lost or answered. -/
theorem Waiting.goesOn (h : c.Waiting name stream) {t : EndTurn τ}
    {x : ChannelOutput τ × ChannelEnd τ}
    (hphase : x.2.phase = .listening ∨ x.2.phase = .greeting)
    (hnamed : x.2.name = c.channel.name) (hevents : x.1.events = []) (hanswers : x.1.answers = [])
    (hreading : t.reading? c.channel x = none)
    (hqueued : x.2.commands = c.channel.commands ++ t.command?.toList)
    (hpending : x.2.pending = c.channel.pending)
    (hstream : x.2.arrived ++ c.coming.drop t.bytes.length = c.channel.arrived ++ c.coming)
    (hover : x.2.inputOver = true → c.coming.drop t.bytes.length = []) (hcuts : t.cuts = false) :
    (c.record t x).Waiting name stream where
  phase := hphase
  named := hnamed.trans h.named
  events := by simp [record, h.events, hevents]
  readings := by simp [record, h.readings, hreading]
  answers := by simp [record, h.answers, hanswers]
  queued := by simp [record, hqueued, h.queued]
  pending := hpending.trans h.pending
  stream := hstream.trans h.stream
  spent := hover
  uncut := by simp [record, h.uncut, hcuts]

/-- Who waits at an end whose handshake is still to come are those who have asked. -/
theorem Waiting.tickets (h : c.Waiting name stream) :
    c.channel.tickets = c.handed.filterMap Command.ticket? := by
  rw [ChannelEnd.tickets, h.pending, h.queued]
  rfl

/-- **An end whose handshake fails is shut**, for good reason or because it is cut short. -/
theorem Waiting.fails (h : c.Waiting name stream) {t : EndTurn τ} (hcommand : t.command? = none)
    (hreading : t.reading? c.channel (c.channel.fail .noHandshake) = none)
    (hreason : t.cuts = true ∨ ∀ pid, ¬ Admits name stream pid) :
    (c.record t (c.channel.fail .noHandshake)).Shut name stream := by
  have hphase : ¬ (.ended = c.channel.phase) := by
    rcases h.phase with hphase | hphase <;> simp [hphase]
  refine ⟨rfl, .inr ?_, ?_, ?_, fun hcut => ⟨?_, hreason.resolve_left fun hcuts => ?_⟩⟩
  · simp [record, h.events, ChannelEnd.fail, ChannelEnd.finish]
  · simp [record, h.readings, hreading]
  · simp [Unanswered, record, h.answers, hcommand, ChannelEnd.fail, ChannelEnd.finish, h.tickets]
  · simp [record, h.events, ChannelEnd.fail, ChannelEnd.finish]
  · simp [record, hcuts, ChannelEnd.fail, ChannelEnd.finish, hphase] at hcut

/-- **An end opens for the process whose hello it reads.** -/
theorem Waiting.opens (h : c.Waiting name stream) {payload rest : Bytes} {pid : UInt32}
    (hphase : c.channel.phase = .greeting)
    (hnext : Frame.next c.channel.arrived = .frame payload rest)
    (hcheck : Handshake.check c.channel.name payload = .ok pid) :
    (c.record .read ({ events := [.connected pid] },
      { c.channel with arrived := rest, phase := .opened })).Opened name stream := by
  have hreading : (ChannelTurn.read : EndTurn τ).reading? c.channel
      ({ events := [.connected pid] }, { c.channel with arrived := rest, phase := .opened })
        = none :=
    ChannelTurn.reading?_of_phase (by simp [hphase])
  have hall : Frame.next stream = .frame payload (rest ++ c.coming) := by
    rw [← h.stream]
    exact Frame.next_append hnext c.coming
  refine ⟨rfl, ⟨pid, ?_, Handshake.admits_iff.2 ⟨payload, _, hall, h.named ▸ hcheck⟩⟩,
    ⟨payload, ?_⟩, ?_, h.spent⟩
  · simp [record, news, h.events, h.readings, hreading]
  · simp only [record, payloads, h.readings, hreading]
    exact .cons hall (.nil _)
  · simp [record, h.readings, hreading]

/-- Where what has arrived has come to its end, no whole frame is left of the stream. -/
theorem no_frame_of_concluded {ending : ChannelEnding} (hends : c.channel.Concluded ending)
    (hspent : c.channel.inputOver = true → c.coming = []) (payload more : Bytes) :
    Frame.next (c.channel.arrived ++ c.coming) ≠ .frame payload more := by
  cases hends with
  | tooLong n hnext => simp [Frame.next_append_tooLong hnext]
  | inside hnext hover | between hnext hover => simp [hspent hover, hnext]

/-- **A handshake fails for good reason**, if the channel is not cut short: whatever else may come,
the stream is not let in. -/
theorem Waiting.deserves (h : c.Waiting name stream) {t : EndTurn τ} {ending : ChannelEnding}
    (hallows : c.allows t = true) (hfails : c.channel.Fails t ending) :
    ending = .noHandshake ∧ (t.cuts = true ∨ ∀ pid, ¬ Admits name stream pid) := by
  have hopen : c.channel.phase ≠ .opened := by rcases h.phase with hphase | hphase <;> simp [hphase]
  have hstream := h.stream
  cases hfails with
  | refused => cases hallows
  | cut t ht => exact ⟨rfl, .inl (by rcases ht with rfl | rfl | rfl <;> rfl)⟩
  | unfit hello rest fault _ hnext hcheck =>
    refine ⟨rfl, .inr ?_⟩
    rw [h.named] at hcheck
    rw [← hstream]
    exact Handshake.not_admits_of_check (Frame.next_append hnext c.coming) hcheck
  | missing ending _ hends =>
    refine ⟨rfl, .inr ?_⟩
    rw [← hstream]
    exact Handshake.not_admits_of_next (no_frame_of_concluded hends h.spent)
  | unreadable hphase | unwritable hphase | ended _ hphase => exact absurd hphase hopen

/-- Bytes that arrive are taken from those that come. -/
theorem drop_of_allows {bs : Bytes} (hallows : c.allows (.arrive bs) = true) :
    bs ++ c.coming.drop bs.length = c.coming := by
  obtain ⟨rest, hrest⟩ := List.isPrefixOf_iff_prefix.1 hallows
  rw [← hrest, List.drop_left]

/-- Where the input is over nothing comes any more. -/
theorem drop_of_nil {n : Nat} (hnil : c.coming = []) : c.coming.drop n = [] := by
  rw [hnil, List.drop_nil]

/-- Where nothing arrives, what comes stays the same. -/
theorem drop_of_bytes {t : EndTurn τ} (hbytes : t.bytes = []) :
    c.coming.drop t.bytes.length = c.coming := by
  rw [hbytes]
  rfl

/-- **What a turn leads to while the handshake is still to come.**  There is no way past the hello,
and nothing happens before all of it is there. -/
theorem Waiting.step (h : c.Waiting name stream) (t : EndTurn τ) :
    (c.step t).Stage name stream := by
  have hopen : c.channel.isClosed = false := by
    rcases h.phase with hphase | hphase <;> simp [ChannelEnd.isClosed, hphase]
  have hearly : c.channel.phase ≠ .opened := by
    rcases h.phase with hphase | hphase <;> simp [hphase]
  rw [Intake.step]
  split
  case isFalse => exact .waiting h
  case isTrue hallows =>
    have houtcome := c.channel.outcome_undergo t
    generalize c.channel.undergo t = x at houtcome ⊢
    cases houtcome with
    | idle t hcommand hbytes hread =>
      rw [record_same (hbytes hopen) hcommand (ChannelEnd.reading?_of_idle hread)]
      exact .waiting h
    | accepted pid =>
      exact .waiting (h.goesOn (.inr rfl) rfl rfl rfl rfl (by simp [ChannelTurn.command?]) rfl rfl
        h.spent rfl)
    | arrived bs =>
      refine .waiting (h.goesOn h.phase rfl rfl rfl rfl (by simp [ChannelTurn.command?]) rfl ?_
        (fun hover => drop_of_nil (h.spent hover)) rfl)
      simp only [ChannelTurn.bytes, List.append_assoc, drop_of_allows hallows]
    | inputOver =>
      have hnil : c.coming = [] := List.isEmpty_iff.1 hallows
      exact .waiting (h.goesOn h.phase rfl rfl rfl rfl (by simp [ChannelTurn.command?]) rfl rfl
        (fun _ => drop_of_nil hnil) rfl)
    | queued t command hcommand =>
      obtain ⟨hbytes, hread, hcuts⟩ := ChannelTurn.of_command hcommand
      have hcoming := drop_of_bytes (c := c) hbytes
      exact .waiting (h.goesOn h.phase rfl rfl rfl (ChannelTurn.reading?_of_ne hread)
        (by simp [hcommand]) rfl (by rw [hcoming]) (by rw [hcoming]; exact h.spent) hcuts)
    | greeted pid hello rest hphase hnext hcheck => exact .opened (h.opens hphase hnext hcheck)
    | failed t ending hfails =>
      obtain ⟨rfl, hreason⟩ := h.deserves hallows hfails
      exact .shut (h.fails hfails.plain.1 hfails.reading? hreason)
    | dropped =>
      have hphase : ¬ (.ended = c.channel.phase) := by
        rcases h.phase with hphase | hphase <;> simp [hphase]
      refine .shut ⟨rfl, .inl ?_, ?_, ?_, fun hcut => ?_⟩
      · simp [record, h.events, ChannelEnd.finish]
      · simp [record, h.readings, ChannelTurn.reading?]
      · simp [Unanswered, record, h.answers, ChannelTurn.command?, ChannelEnd.finish, h.tickets]
      · simp [record, ChannelTurn.cuts, ChannelEnd.finish, hphase] at hcut
    | late _ _ _ hclosed => simp [hopen] at hclosed
    | taken _ _ hphase | wrote _ _ hphase | asked _ _ _ hphase => exact absurd hphase hearly

/-- **A channel stays open** while nothing is told or lost. -/
theorem Opened.goesOn (h : c.Opened name stream) {t : EndTurn τ}
    {x : ChannelOutput τ × ChannelEnd τ} (hphase : x.2.phase = .opened) (hevents : x.1.events = [])
    (hreading : t.reading? c.channel x = none)
    (hstream : x.2.arrived ++ c.coming.drop t.bytes.length = c.channel.arrived ++ c.coming)
    (hover : x.2.inputOver = true → c.coming.drop t.bytes.length = []) :
    (c.record t x).Opened name stream := by
  obtain ⟨pid, htold, hadmits⟩ := h.events
  obtain ⟨hello, hframes⟩ := h.frames
  refine ⟨hphase, ⟨pid, ?_, hadmits⟩, ⟨hello, ?_⟩, ?_, hover⟩
  · simp [record, news, htold, hevents, hreading]
  · simp only [record, payloads, hreading, Option.toList_none, List.append_nil, hstream]
    exact hframes
  · simp only [record, hreading, Option.toList_none, List.append_nil]
    exact h.effects

/-- **A channel that ends has read what it has read.** -/
theorem Opened.ends (h : c.Opened name stream) {t : EndTurn τ}
    {x : ChannelOutput τ × ChannelEnd τ} (hphase : x.2.phase = .ended)
    (hevents : ∀ e ∈ x.1.events, ∃ ending, ending ≠ .noHandshake ∧ e = .failed ending)
    (hreading : t.reading? c.channel x = none)
    (hrest : t.cuts = true ∨
      ∀ payload more, Frame.next (c.channel.arrived ++ c.coming) ≠ .frame payload more) :
    (c.record t x).Finished name stream := by
  obtain ⟨pid, htold, hadmits⟩ := h.events
  obtain ⟨hello, hframes⟩ := h.frames
  refine ⟨hphase, ⟨pid, x.1.events, ?_, hevents, hadmits⟩,
    ⟨hello, c.channel.arrived ++ c.coming, ?_, fun hcut => hrest.resolve_left fun hcuts => ?_⟩, ?_⟩
  · simp [record, news, htold, hreading]
  · simp only [record, payloads, hreading, Option.toList_none, List.append_nil]
    exact hframes
  · simp [record, hcuts, hphase, h.phase] at hcut
  · simp only [record, hreading, Option.toList_none, List.append_nil]
    exact h.effects

/-- **A frame that is read is the next one of the stream**, and has its effect. -/
theorem Opened.takes (h : c.Opened name stream) {payload rest : Bytes}
    (hnext : Frame.next c.channel.arrived = .frame payload rest) :
    (c.record .read ({ c.channel with arrived := rest }.takeFrame payload)).Opened name stream := by
  obtain ⟨pid, htold, hadmits⟩ := h.events
  obtain ⟨hello, hframes⟩ := h.frames
  have heffect := c.channel.effect_takeFrame payload rest
  have harrived := ChannelEnd.arrived_takeFrame { c.channel with arrived := rest } payload
  have hover := ChannelEnd.inputOver_takeFrame { c.channel with arrived := rest } payload
  have hphase := ChannelEnd.phase_takeFrame { c.channel with arrived := rest } payload
  generalize { c.channel with arrived := rest }.takeFrame payload = x at *
  have hreading : (ChannelTurn.read : EndTurn τ).reading? c.channel x
      = some ⟨c.channel, payload, x.1, x.2⟩ :=
    ChannelTurn.reading?_read h.phase hnext
  refine ⟨hphase.trans h.phase, ⟨pid, ?_, hadmits⟩, ⟨hello, ?_⟩, ?_, fun ho => ?_⟩
  · simp [record, news, htold, hreading]
  · have hlast := hframes.snoc (Frame.next_append hnext c.coming)
    simpa [record, payloads, hreading, harrived, ChannelTurn.bytes] using hlast
  · intro r hr
    simp only [record, hreading, Option.toList_some, List.mem_append, List.mem_singleton] at hr
    rcases hr with hr | rfl
    · exact h.effects r hr
    · exact heffect
  · exact drop_of_nil (h.spent (hover ▸ ho))

/-- **What a turn leads to on an open channel.** -/
theorem Opened.step (h : c.Opened name stream) (t : EndTurn τ) :
    (c.step t).Stage name stream := by
  have hopen : c.channel.isClosed = false := ChannelEnd.isOpen_of_phase h.phase
  rw [Intake.step]
  split
  case isFalse => exact .opened h
  case isTrue hallows =>
    have houtcome := c.channel.outcome_undergo t
    generalize c.channel.undergo t = x at houtcome ⊢
    cases houtcome with
    | idle t hcommand hbytes hread =>
      rw [record_same (hbytes hopen) hcommand (ChannelEnd.reading?_of_idle hread)]
      exact .opened h
    | arrived bs =>
      refine .opened (h.goesOn h.phase rfl rfl ?_ fun hover => drop_of_nil (h.spent hover))
      simp only [ChannelTurn.bytes, List.append_assoc, drop_of_allows hallows]
    | inputOver =>
      have hnil : c.coming = [] := List.isEmpty_iff.1 hallows
      exact .opened (h.goesOn h.phase rfl rfl rfl fun _ => drop_of_nil hnil)
    | queued t command hcommand =>
      obtain ⟨hbytes, hread, -⟩ := ChannelTurn.of_command hcommand
      have hcoming := drop_of_bytes (c := c) hbytes
      exact .opened (h.goesOn h.phase rfl (ChannelTurn.reading?_of_ne hread) (by rw [hcoming])
        (by rw [hcoming]; exact h.spent))
    | taken payload rest _ hnext => exact .opened (h.takes hnext)
    | wrote | asked => exact .opened (h.goesOn h.phase rfl rfl rfl h.spent)
    | failed t ending hfails =>
      have hreason : ending ≠ .noHandshake ∧ (t.cuts = true ∨
          ∀ payload more, Frame.next (c.channel.arrived ++ c.coming) ≠ .frame payload more) := by
        cases hfails with
        | unreadable | unwritable => exact ⟨by decide, .inl rfl⟩
        | ended ending _ hends =>
          exact ⟨by cases hends <;> decide, .inr (no_frame_of_concluded hends h.spent)⟩
        | refused hphase | cut _ _ hphase | unfit _ _ _ hphase | missing _ hphase =>
          simp [h.phase] at hphase
      refine .finished (h.ends rfl (fun e he => ⟨ending, hreason.1, ?_⟩) hfails.reading? hreason.2)
      exact List.mem_singleton.1 he
    | dropped => exact .finished (h.ends rfl (by simp [ChannelEnd.finish]) rfl (.inl rfl))
    | accepted _ hphase | greeted _ _ _ hphase => simp [h.phase] at hphase
    | late _ _ _ hclosed => simp [hopen] at hclosed

/-- **What happens at an end that is over**: a request fails, and nothing else. -/
structure Silent (e : ChannelEnd τ) (t : EndTurn τ) (x : ChannelOutput τ × ChannelEnd τ) :
    Prop where
  phase : x.2.phase = .ended
  events : x.1.events = []
  answers : x.1.answers = (t.command?.toList.filterMap Command.ticket?).map
    fun ticket => (ticket, .error .channelClosed)
  reading : t.reading? e x = none

/-- An end that is over stays silent. -/
theorem silent_undergo {e : ChannelEnd τ} (hended : e.phase = .ended) (t : EndTurn τ) :
    Silent e t (e.undergo t) := by
  have hclosed : e.isClosed = true := by simp [ChannelEnd.isClosed, hended]
  have hunread : ∀ x, t.reading? e x = none := fun x =>
    ChannelTurn.reading?_of_phase (by simp [hended])
  have houtcome := e.outcome_undergo t
  generalize e.undergo t = x at houtcome
  cases houtcome with
  | idle t hcommand => exact ⟨hended, rfl, by simp [hcommand], hunread _⟩
  | inputOver => exact ⟨hended, rfl, rfl, hunread _⟩
  | late t c hcommand =>
    exact ⟨hended, rfl, by cases c <;> simp [hcommand, Command.ticket?], hunread _⟩
  | accepted _ hphase | greeted _ _ _ hphase | taken _ _ hphase | wrote _ _ hphase
    | asked _ _ _ hphase => simp [hended] at hphase
  | arrived _ hopen | queued _ _ _ hopen | dropped hopen => simp [hclosed] at hopen
  | failed _ _ hfails => simp [hfails.isOpen] at hclosed

/-- **A channel that is over stays so**: nothing more is told or read, and every request fails. -/
theorem step_of_ended (hended : c.channel.phase = .ended) (t : EndTurn τ) :
    (c.step t).channel.phase = .ended ∧ (c.step t).events = c.events ∧
      (c.step t).readings = c.readings ∧ (c.step t).cut = c.cut ∧
      (c.Unanswered → (c.step t).Unanswered) := by
  rw [Intake.step]
  split
  · have hsilent := silent_undergo hended t
    refine ⟨hsilent.phase, ?_, ?_, ?_, fun hunanswered => ?_⟩
    · simp [record, hsilent.events]
    · simp [record, hsilent.reading]
    · simp [record, hsilent.phase, hended]
    · rw [Unanswered] at hunanswered ⊢
      simp [record, hsilent.answers, hunanswered]
  · exact ⟨hended, rfl, rfl, rfl, id⟩

/-- **Every turn leads from one stage to another.** -/
theorem stage_step (h : c.Stage name stream) (t : EndTurn τ) : (c.step t).Stage name stream := by
  cases h with
  | waiting h => exact h.step t
  | opened h => exact h.step t
  | shut h =>
    obtain ⟨hphase, hevents, hreadings, hcut, hunanswered⟩ := step_of_ended h.phase t
    refine .shut ⟨hphase, ?_, hreadings.trans h.readings, hunanswered h.unanswered, ?_⟩
    · rw [hevents]
      exact h.events
    · rw [hevents, hcut]
      exact h.deserved
  | finished h =>
    obtain ⟨hphase, hevents, hreadings, hcut, -⟩ := step_of_ended h.phase t
    refine .finished ⟨hphase, ?_, ?_, ?_⟩
    · rw [hevents, news, hreadings]
      exact h.events
    · rw [hcut, payloads, hreadings]
      exact h.frames
    · rw [hreadings]
      exact h.effects

/-- **So does every run.** -/
theorem stage_run (h : c.Stage name stream) (turns : List (EndTurn τ)) :
    (c.run turns).Stage name stream := by
  induction turns generalizing c with
  | nil => exact h
  | cons t rest ih => exact ih (stage_step h t)

end Intake

end ControlPlane
