/-
# The gate of a channel

Nothing comes of a stream but a single failure, unless its first frame is a hello that the end can
accept; then the channel opens, and what is behind that frame is read as frames to the last byte.

* `Intake.Gated`: what is known of an end at any time, with a whole stream before it;
* `Intake.gated_of_stage`: it holds at each stage.
-/
import ControlPlane.Proofs.Channel.Intake

namespace ControlPlane

open Handshake (Admits Verdict)

namespace Intake

variable {τ : Type} {name : String} {stream : Bytes} {c : Intake τ}

/-! ## 1. The gate -/

/-- **The gate is exact.**  What is said of an end at any time, with a whole stream before it. -/
structure Gated (name : String) (stream : Bytes) (c : Intake τ) : Prop where
  /-- The peer is told nothing, of the failed handshake alone, or first of the process that the
  stream is let in for; then never again of a handshake. -/
  told : c.events = [] ∨ c.events = [.failed .noHandshake] ∨
    ∃ pid later, c.events = .connected pid :: later ∧ Admits name stream pid ∧
      ∀ e ∈ later, (∀ pid', e ≠ .connected pid') ∧ e ≠ .failed .noHandshake
  /-- What it is told first is what the stream deserves, unless the channel was cut short. -/
  deserved : c.cut = false → c.events = [] ∨
    ∃ e later, c.events = e :: later ∧ Verdict name stream e
  /-- It is told of it as soon as what has arrived is read. -/
  decides : c.channel.phase = .greeting → c.channel.Decided →
    ∃ e, Verdict name stream e ∧ (c.step .read).events = [e]
  /-- A timeout, and a read or a write that fails, end the handshake at once. -/
  cuts : c.channel.phase = .greeting →
    (c.step .expire).events = [.failed .noHandshake] ∧
      (c.step .breakInput).events = [.failed .noHandshake] ∧
      (c.step .breakOutput).events = [.failed .noHandshake]
  /-- Before that nothing is lost of what was handed over, and nothing answered. -/
  queued : c.channel.phase = .listening ∨ c.channel.phase = .greeting →
    c.channel.commands = c.handed ∧ c.answers = []
  /-- The hello takes only its own bytes with it. -/
  opens : ∀ payload rest pid, c.channel.phase = .greeting →
    Frame.next c.channel.arrived = .frame payload rest → Admits name stream pid →
    (c.step .read).channel = { c.channel with arrived := rest, phase := .opened }
  /-- Behind the hello the stream is read as frames, each of them once and in full. -/
  frames : ∀ pid, .connected pid ∈ c.events → ∃ hello rest, Handshake.Greets name hello pid ∧
    stream = Frame.encode hello ++ c.payloads.flatMap Frame.encode ++ rest ∧
    (c.channel.phase = .opened → rest = c.channel.arrived ++ c.coming) ∧
    (c.channel.phase = .ended → c.cut = false → ∀ payload more,
      payload.length ≤ 16 * 1024 * 1024 → rest ≠ Frame.encode payload ++ more)
  /-- A whole frame that has arrived can be read. -/
  reads : ∀ payload rest, c.channel.phase = .opened →
    Frame.next c.channel.arrived = .frame payload rest →
    (c.step .read).payloads = c.payloads ++ [payload]
  /-- All that the peer is told later is what came of these frames, and how the channel ended. -/
  heard : ∀ pid later, c.events = .connected pid :: later →
    ∃ endings, later = c.news ++ endings ∧ ∀ e ∈ endings, ∃ ending, e = .failed ending
  effects : ∀ r ∈ c.readings, r.Effect
  /-- Where the handshake has failed, no frame is read, no more is told and every request fails,
  whatever happens later. -/
  refused : c.events = [.failed .noHandshake] → ∀ later,
    (c.run later).events = [.failed .noHandshake] ∧ (c.run later).readings = [] ∧
      (c.run later).Unanswered

/-! ## 2. What holds at each stage -/

/-- A channel whose handshake has failed stays so. -/
theorem Shut.run (h : c.Shut name stream) (later : List (EndTurn τ)) :
    (c.run later).events = c.events ∧ (c.run later).readings = [] ∧ (c.run later).Unanswered := by
  have hrun : ∀ (later : List (EndTurn τ)) (g : Intake τ), g.channel.phase = .ended →
      g.events = c.events → g.readings = [] → g.Unanswered →
      (g.run later).events = c.events ∧ (g.run later).readings = [] ∧ (g.run later).Unanswered := by
    intro later
    induction later with
    | nil => exact fun _ _ hevents hreadings hunanswered => ⟨hevents, hreadings, hunanswered⟩
    | cons t rest ih =>
      intro g hended hevents hreadings hunanswered
      obtain ⟨hphase, hsame, hunread, -, hstill⟩ := step_of_ended hended t
      exact ih _ hphase (hsame.trans hevents) (hunread.trans hreadings) (hstill hunanswered)
  exact hrun later c h.phase rfl h.readings h.unanswered

/-- What a peer is told of frames is neither that it is connected nor that the handshake failed. -/
theorem news_plain (heffects : ∀ r ∈ c.readings, r.Effect) {e : ChannelEvent} (he : e ∈ c.news) :
    (∀ pid, e ≠ .connected pid) ∧ e ≠ .failed .noHandshake := by
  obtain ⟨r, hr, he⟩ := List.mem_flatMap.1 he
  cases (heffects r hr).news e he <;> exact ⟨nofun, nofun⟩

/-- At each stage the peer has been told what the stream is worth. -/
theorem Stage.told (h : c.Stage name stream) :
    c.events = [] ∨ c.events = [.failed .noHandshake] ∨
    ∃ pid later, c.events = .connected pid :: later ∧ Admits name stream pid ∧
      ∀ e ∈ later, (∀ pid', e ≠ .connected pid') ∧ e ≠ .failed .noHandshake := by
  cases h with
  | waiting h => exact .inl h.events
  | shut h => exact h.events.imp_right .inl
  | opened h =>
    obtain ⟨pid, htold, hadmits⟩ := h.events
    exact .inr (.inr ⟨pid, _, htold, hadmits, fun e he => news_plain h.effects he⟩)
  | finished h =>
    obtain ⟨pid, endings, htold, hendings, hadmits⟩ := h.events
    refine .inr (.inr ⟨pid, _, htold, hadmits, fun e he => ?_⟩)
    rcases List.mem_append.1 he with he | he
    · exact news_plain h.effects he
    · obtain ⟨ending, hother, rfl⟩ := hendings e he
      exact ⟨nofun, fun heq => hother (ChannelEvent.failed.inj heq)⟩

/-- **The peer is told what the stream deserves**, unless the channel is cut short. -/
theorem Stage.deserved (h : c.Stage name stream) (hcut : c.cut = false) :
    c.events = [] ∨ ∃ e later, c.events = e :: later ∧ Verdict name stream e := by
  cases h with
  | waiting h => exact .inl h.events
  | shut h =>
    obtain ⟨htold, hnone⟩ := h.deserved hcut
    exact .inr ⟨_, _, htold, .refused hnone _ rfl⟩
  | opened h =>
    obtain ⟨pid, htold, hadmits⟩ := h.events
    exact .inr ⟨_, _, htold, .admitted pid hadmits⟩
  | finished h =>
    obtain ⟨pid, endings, htold, -, hadmits⟩ := h.events
    exact .inr ⟨_, _, htold, .admitted pid hadmits⟩

/-- An end that has greeted is one whose handshake is still to come. -/
theorem Stage.waiting_of_phase (h : c.Stage name stream)
    (hphase : c.channel.phase = .listening ∨ c.channel.phase = .greeting) :
    c.Waiting name stream := by
  cases h with
  | waiting h => exact h
  | shut h | opened h | finished h => simp [h.phase] at hphase

/-- **The first frame decides as soon as it is read.** -/
theorem Waiting.decides (h : c.Waiting name stream) (hphase : c.channel.phase = .greeting)
    (hdecided : c.channel.Decided) :
    ∃ e, Verdict name stream e ∧ (c.step .read).events = [e] := by
  have hstep : c.step .read = c.record .read (c.channel.undergo .read) := rfl
  have hunread : ∀ x, (.read : EndTurn τ).reading? c.channel x = none := fun x =>
    ChannelTurn.reading?_of_phase (by simp [hphase])
  have houtcome := c.channel.outcome_undergo .read
  rw [hstep]
  generalize c.channel.undergo .read = x at houtcome ⊢
  cases houtcome with
  | idle _ _ _ hread => exact absurd hdecided (hread rfl (.inl hphase))
  | greeted pid hello rest _ hnext hcheck =>
    obtain ⟨pid', htold, hadmits⟩ := (h.opens hphase hnext hcheck).events
    refine ⟨_, .admitted pid' hadmits, htold.trans ?_⟩
    simp [news, record, h.readings, hunread]
  | failed _ ending hfails =>
    obtain ⟨rfl, hreason⟩ := h.deserves rfl hfails
    refine ⟨_, .refused (hreason.resolve_left Bool.false_ne_true) .noHandshake rfl, ?_⟩
    simp [record, h.events, ChannelEnd.fail, ChannelEnd.finish]
  | taken _ _ hopened => simp [hphase] at hopened
  | queued _ _ hcommand | late _ _ hcommand => cases hcommand

/-- **The hello leaves what is behind it.** -/
theorem Waiting.handsOver (h : c.Waiting name stream) {payload rest : Bytes} {pid : UInt32}
    (hphase : c.channel.phase = .greeting)
    (hnext : Frame.next c.channel.arrived = .frame payload rest) (hadmits : Admits name stream pid) :
    (c.step .read).channel = { c.channel with arrived := rest, phase := .opened } := by
  obtain ⟨payload', rest', hnext', hcheck⟩ := Handshake.admits_iff.1 hadmits
  rw [← h.stream, Frame.next_append hnext, Frame.Arrival.frame.injEq] at hnext'
  have hcheck' : Handshake.check c.channel.name payload = .ok pid := by
    rw [h.named, hnext'.1]
    exact hcheck
  exact congrArg Prod.snd (ChannelEnd.undergo_read_hello hphase hnext hcheck')

/-- A peer that is told that it is connected is told so first. -/
theorem Stage.first (h : c.Stage name stream) {pid : UInt32} (hpid : .connected pid ∈ c.events) :
    ∃ later, c.events = .connected pid :: later := by
  rcases h.told with hnone | hfailed | ⟨pid', later, htold, -, hlater⟩
  · simp [hnone] at hpid
  · simp [hfailed] at hpid
  · rw [htold] at hpid ⊢
    rcases List.mem_cons.1 hpid with heq | hmem
    · exact ⟨later, by rw [heq]⟩
    · exact absurd rfl ((hlater _ hmem).1 pid)

/-- The hello that a stream was let in for is the first frame that was split off it. -/
theorem greets_of_splits {pid : UInt32} {hello rest : Bytes} {later : List Bytes}
    (hadmits : Admits name stream pid) (hsplits : Frame.Splits stream (hello :: later) rest) :
    Handshake.Greets name hello pid := by
  obtain ⟨payload, rest', hnext, hcheck⟩ := Handshake.admits_iff.1 hadmits
  cases hsplits with
  | cons hfirst =>
    rw [hnext, Frame.Arrival.frame.injEq] at hfirst
    exact hfirst.1 ▸ Handshake.check_eq_ok_iff.1 hcheck

/-- **The frames that were read are those of the stream**, and what is left is still there. -/
theorem Stage.frames (h : c.Stage name stream) {pid : UInt32} (hpid : .connected pid ∈ c.events) :
    ∃ hello rest, Handshake.Greets name hello pid ∧
      stream = Frame.encode hello ++ c.payloads.flatMap Frame.encode ++ rest ∧
      (c.channel.phase = .opened → rest = c.channel.arrived ++ c.coming) ∧
      (c.channel.phase = .ended → c.cut = false → ∀ payload more,
        payload.length ≤ 16 * 1024 * 1024 → rest ≠ Frame.encode payload ++ more) := by
  obtain ⟨later, hfirst⟩ := h.first hpid
  cases h with
  | waiting h => simp [h.events] at hpid
  | shut h => rcases h.events with hnone | hfailed <;> simp_all
  | opened h =>
    obtain ⟨pid', htold, hadmits⟩ := h.events
    obtain ⟨hello, hsplits⟩ := h.frames
    have hsame : pid' = pid := by
      rw [htold, List.cons.injEq] at hfirst
      exact ChannelEvent.connected.inj hfirst.1
    refine ⟨hello, _, greets_of_splits (hsame ▸ hadmits) hsplits, ?_, fun _ => rfl, ?_⟩
    · simpa using hsplits.eq_append
    · simp [h.phase]
  | finished h =>
    obtain ⟨pid', endings, htold, -, hadmits⟩ := h.events
    obtain ⟨hello, rest, hsplits, hrest⟩ := h.frames
    have hsame : pid' = pid := by
      rw [htold, List.cons_append, List.cons.injEq] at hfirst
      exact ChannelEvent.connected.inj hfirst.1
    refine ⟨hello, rest, greets_of_splits (hsame ▸ hadmits) hsplits, ?_, ?_, ?_⟩
    · simpa using hsplits.eq_append
    · simp [h.phase]
    · intro _ hcut payload more hfits heq
      exact hrest hcut payload more (Frame.next_eq_frame_iff.2 ⟨heq, hfits⟩)

/-- Behind the handshake the peer hears of the frames, and of the end. -/
theorem Stage.heard (h : c.Stage name stream) {pid : UInt32} {later : List ChannelEvent}
    (hlater : c.events = .connected pid :: later) :
    ∃ endings, later = c.news ++ endings ∧ ∀ e ∈ endings, ∃ ending, e = .failed ending := by
  cases h with
  | waiting h => simp [h.events] at hlater
  | shut h => rcases h.events with hnone | hfailed <;> simp [*] at hlater
  | opened h =>
    obtain ⟨pid', htold, -⟩ := h.events
    rw [htold, List.cons.injEq] at hlater
    exact ⟨[], by simp [hlater.2], by simp⟩
  | finished h =>
    obtain ⟨pid', endings, htold, hendings, -⟩ := h.events
    rw [htold, List.cons_append, List.cons.injEq] at hlater
    refine ⟨endings, hlater.2.symm, fun e he => ?_⟩
    obtain ⟨ending, -, heq⟩ := hendings e he
    exact ⟨ending, heq⟩

/-- Every frame that was read had one effect. -/
theorem Stage.effects (h : c.Stage name stream) : ∀ r ∈ c.readings, r.Effect := by
  cases h with
  | waiting h | shut h => simp [h.readings]
  | opened h | finished h => exact h.effects

/-- **At each stage the gate is exact.** -/
theorem gated_of_stage (h : c.Stage name stream) : c.Gated name stream where
  told := h.told
  deserved := h.deserved
  decides hphase hdecided := (h.waiting_of_phase (.inr hphase)).decides hphase hdecided
  cuts hphase := by
    have hw := h.waiting_of_phase (.inr hphase)
    refine ⟨?_, ?_, ?_⟩ <;>
      simp [step, allows, record, ChannelEnd.undergo, ChannelEnd.expire, ChannelEnd.breakInput,
        ChannelEnd.breakOutput, ChannelEnd.breakOff, ChannelEnd.fail, ChannelEnd.finish, hphase,
        hw.events]
  queued hphase := ⟨(h.waiting_of_phase hphase).queued, (h.waiting_of_phase hphase).answers⟩
  opens _ _ _ hphase hnext hadmits :=
    (h.waiting_of_phase (.inr hphase)).handsOver hphase hnext hadmits
  frames _ := h.frames
  reads payload rest hphase hnext := by
    simp [step, allows, record, payloads, ChannelTurn.reading?_read hphase hnext]
  heard _ _ := h.heard
  effects := h.effects
  refused htold later := by
    cases h with
    | waiting h => simp [h.events] at htold
    | shut h => exact htold ▸ h.run later
    | opened h =>
      obtain ⟨pid, hfirst, -⟩ := h.events
      simp [hfirst] at htold
    | finished h =>
      obtain ⟨pid, endings, hfirst, -⟩ := h.events
      simp [hfirst] at htold

end Intake

end ControlPlane
