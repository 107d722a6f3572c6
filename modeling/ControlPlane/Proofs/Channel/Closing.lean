/-
# How a channel closes

An open channel ends when nothing more can be read from it, and tells its peer whether the
connection was closed or broken.  Here that is compared with where the stream was cut.

* `Frame.Report.ending?`: the ending that the last report of a stream stands for;
* `ChannelEnd.Concluded.yields`: an ending is the last report of what was left to read;
* `Chronicle.Concludes`, `concludes_run`: in every run, the ending is that of the stream;
* `Chronicle.exists_failed`: an open channel whose input is over ends by reading alone;
* `CutReported`, `cut_reported`: what a peer is told of a stream of frames that was cut.

The length of a frame and its payload are read one after the other, and an end of the stream is
taken for a fault in the payload only.  So a stream that was cut inside a length ends as one that
was cut between two frames: `ended_of_cut_in_length` is such a stream.
-/
import ControlPlane.Proofs.Channel.Stream
import ControlPlane.Proofs.Frame.Cut

namespace ControlPlane

open ControlPlane.Frame (Report Yields)

/-- The ending that a report stands for, if it is the last one. -/
def Frame.Report.ending? : Report → Option ChannelEnding
  | .payload _ => none
  | .ended => some .closed
  | .failed _ => some .unreadable

/-! ## 1. What an open end reads -/

/-- **An ending is the last report** of what was left to read. -/
theorem ChannelEnd.Concluded.yields {τ : Type} {e : ChannelEnd τ} {ending : ChannelEnding}
    (h : e.Concluded ending) : ∃ last, Yields e.arrived [last] ∧ last.ending? = some ending := by
  cases h with
  | tooLong n hnext => exact ⟨_, .failed (by rw [Frame.read, hnext]), rfl⟩
  | inside hnext => exact ⟨_, .failed (by rw [Frame.read, hnext]), rfl⟩
  | between hnext => exact ⟨_, .ended (by rw [Frame.read, hnext]), rfl⟩

/-! ## 2. The ending in every run -/

namespace Chronicle

variable {τ : Type} {c : Chronicle τ}

/-- **The peer is told the ending of the stream**: read as a whole, it has the hello, the payloads
that were read and one last report, which the ending stands for. -/
def Concludes (c : Chronicle τ) : Prop :=
  ∀ pid later ending, c.events = .connected pid :: later → .failed ending ∈ later →
    ∃ hello last, Yields c.stream (.payload hello :: c.payloads.map .payload ++ [last])
      ∧ last.ending? = some ending

/-- Nobody has been told of an end that is still to come. -/
theorem Stage.not_failed_mem (hstage : c.Stage) (hsound : c.Sound)
    (hlives : c.channel.phase ≠ .ended) (ending : ChannelEnding) : .failed ending ∉ c.events := by
  intro hmem
  cases hstage with
  | waiting _ hevents => simp [hevents] at hmem
  | refused hended | finished _ _ _ _ hended => exact hlives hended
  | opened pid hello _ hevents =>
    rw [hevents, List.mem_cons] at hmem
    rcases hmem with hmem | hmem
    · cases hmem
    · cases hsound.news _ hmem

/-- Behind the end nothing changes. -/
theorem Change.of_ended {c' : Chronicle τ} (h : c.Change c') (hended : c.channel.phase = .ended) :
    c'.events = c.events ∧ c'.stream = c.stream ∧ c'.payloads = c.payloads := by
  cases h with
  | quiet => exact ⟨rfl, rfl, rfl⟩
  | arrived bs hopen => simp [ChannelEnd.isClosed, hended] at hopen
  | accepted _ hbefore | refused _ hbefore | greeted _ _ _ hbefore | taken _ hbefore
    | failed _ _ hbefore => simp [hended] at hbefore

/-- **What a step that tells of the end was**: a handshake that failed, or the end of an open
channel. -/
theorem Change.of_failed_mem {c' : Chronicle τ} {ending : ChannelEnding} (h : c.Change c')
    (hnone : .failed ending ∉ c.events) (hmem : .failed ending ∈ c'.events) :
    c.channel.phase = .greeting ∧ c'.events = c.events ++ [.failed .noHandshake]
      ∨ c.channel.phase = .opened ∧ c.channel.Concluded ending
        ∧ c'.stream = c.stream ∧ c'.payloads = c.payloads := by
  cases h with
  | quiet | accepted | arrived => exact absurd hmem hnone
  | refused _ hbefore => exact .inl ⟨hbefore, rfl⟩
  | greeted =>
    rcases List.mem_append.1 hmem with hmem | hmem
    · exact absurd hmem hnone
    · simp at hmem
  | taken r _ _ heffect =>
    rcases List.mem_append.1 hmem with hmem | hmem
    · exact absurd hmem hnone
    · cases heffect.news _ hmem
  | failed _ ending' hbefore hends =>
    rcases List.mem_append.1 hmem with hmem | hmem
    · exact absurd hmem hnone
    · obtain rfl : ending = ending' := by simpa using hmem
      exact .inr ⟨hbefore, hends, rfl, rfl⟩

/-- **Every step keeps that.**  Only the step that ends an open channel tells its peer of the end of
the stream; behind it neither the stream nor what was told changes. -/
theorem concludes_step (hstage : c.Stage) (hsound : c.Sound) (hc : c.Concludes) (t : EndTurn τ) :
    (c.step t).Concludes := by
  intro pid later ending hevents hlater
  have hmem : .failed ending ∈ (c.step t).events := hevents ▸ List.mem_cons_of_mem _ hlater
  by_cases hended : c.channel.phase = .ended
  · obtain ⟨hsame, hstream, hpayloads⟩ := (c.change_step t).of_ended hended
    rw [hstream, hpayloads]
    exact hc pid later ending (hsame ▸ hevents) hlater
  · have hnone := hstage.not_failed_mem hsound hended ending
    rcases (c.change_step t).of_failed_mem hnone hmem with
      ⟨hgreeting, htold⟩ | ⟨hopen, hends, hstream, hpayloads⟩
    · cases hstage with
      | waiting _ hbefore =>
        rw [htold, hbefore] at hevents
        cases hevents
      | refused hphase | opened _ _ hphase | finished _ _ _ _ hphase => simp [hgreeting] at hphase
    · cases hstage with
      | opened pid' hello _ _ hframes =>
        obtain ⟨last, hlast, hending⟩ := hends.yields
        rw [hstream, hpayloads]
        exact ⟨hello, last, (hframes.yields_iff _).2 ⟨[last], hlast, rfl⟩, hending⟩
      | waiting hphase => simp [hopen] at hphase
      | refused hphase | finished _ _ _ _ hphase => simp [hopen] at hphase

/-- **In every run the peer is told the ending of the stream.** -/
theorem concludes_run (name : String) (ts : List (EndTurn τ)) :
    ((start name : Chronicle τ).run ts).Concludes := by
  have hrun : ∀ (ts : List (EndTurn τ)) (c : Chronicle τ), c.Stage → c.Sound → c.Concludes →
      (c.run ts).Concludes := by
    intro ts
    induction ts with
    | nil => exact fun c _ _ hc => hc
    | cons t rest ih =>
      intro c hstage hsound hc
      have hchange := c.change_step t
      exact ih _ (hchange.stage hstage) (hchange.sound hsound) (concludes_step hstage hsound hc t)
  exact hrun ts (start name) (stage_start name) nofun nofun

/-- **An open channel whose input is over reads a frame, or comes to its end.** -/
theorem read_of_over (hopen : c.channel.phase = .opened) (hover : c.channel.inputOver = true) :
    (∃ later, (c.step .read).channel.phase = .opened ∧ (c.step .read).channel.inputOver = true ∧
        (c.step .read).channel.arrived.length < c.channel.arrived.length ∧
        (c.step .read).stream = c.stream ∧ (c.step .read).events = c.events ++ later) ∨
      ∃ ending, (c.step .read).stream = c.stream ∧
        (c.step .read).events = c.events ++ [.failed ending] := by
  have hstep : c.step .read = c.record .read (c.channel.undergo .read) := rfl
  have h := c.channel.outcome_undergo .read
  rw [hstep]
  generalize c.channel.undergo .read = x at h ⊢
  have hstream : (c.record .read x).stream = c.stream := List.append_nil _
  cases h with
  | idle _ _ _ hread => exact absurd (.inr (.inr hover)) (hread rfl (.inr hopen))
  | greeted _ _ _ hphase => simp [hopen] at hphase
  | taken payload rest _ hnext =>
    have hstill := ChannelEnd.phase_takeFrame { c.channel with arrived := rest } payload
    have hinput := ChannelEnd.inputOver_takeFrame { c.channel with arrived := rest } payload
    have harrived := ChannelEnd.arrived_takeFrame { c.channel with arrived := rest } payload
    refine .inl ⟨_, hstill.trans hopen, hinput.trans hover, ?_, hstream, rfl⟩
    show ({ c.channel with arrived := rest }.takeFrame payload).2.arrived.length < _
    rw [harrived]
    exact Frame.length_of_next hnext
  | failed _ ending => exact .inr ⟨ending, hstream, rfl⟩
  | queued _ _ hcommand | late _ _ hcommand => cases hcommand

/-- **An open channel whose input is over ends by reading alone**, and its peer is told.  The
induction is on what is left to read, which every frame shortens. -/
theorem exists_failed (hopen : c.channel.phase = .opened) (hover : c.channel.inputOver = true) :
    ∃ n ending later, .failed ending ∈ later
      ∧ (c.run (List.replicate n .read)).stream = c.stream
      ∧ (c.run (List.replicate n .read)).events = c.events ++ later := by
  generalize hlength : c.channel.arrived.length = k
  induction k using Nat.strongRecOn generalizing c with
  | _ k ih =>
    rcases read_of_over hopen hover with
      ⟨news, hopen', hover', hshorter, hsame, htold⟩ | ⟨ending, hsame, htold⟩
    · obtain ⟨n, ending, later, hmem, hstream, hevents⟩ :=
        ih _ (hlength ▸ hshorter) hopen' hover' rfl
      refine ⟨n + 1, ending, news ++ later, List.mem_append_right _ hmem, ?_, ?_⟩
      · rw [List.replicate_succ, run, List.foldl_cons]
        exact hstream.trans hsame
      · rw [List.replicate_succ, run, List.foldl_cons, ← List.append_assoc, ← htold]
        exact hevents
    · exact ⟨1, ending, _, List.mem_singleton_self _, hsame, htold⟩

end Chronicle

/-! ## 3. Streams that were cut -/

/-- **What becomes of a stream of frames that is cut behind `k` bytes.** -/
structure CutReported (payloads : List Bytes) (k : Nat) : Prop where
  /-- The whole frames in front of the cut are reported, and then what follows from its place. -/
  reports : ∃ front last, Frame.CutAt payloads k front last ∧
    ∀ reports, Yields ((payloads.flatMap Frame.encode).take k) reports
      ↔ reports = front.map .payload ++ [last]
  /-- The end of the stream is reported exactly on a boundary and inside a length. -/
  ended : ∀ reports, Yields ((payloads.flatMap Frame.encode).take k) reports →
    (.ended ∈ reports ↔ Frame.AtBoundary payloads k ∨ Frame.InLength payloads k)
  /-- A fault is reported exactly inside a payload, and behind a length that is not accepted. -/
  failed : ∀ reports, Yields ((payloads.flatMap Frame.encode).take k) reports →
    ((∃ fault, .failed fault ∈ reports) ↔ Frame.InPayload payloads k ∨ Frame.PastLimit payloads k)
  /-- In every run of a channel that was open, the peer is told of the cut accordingly. -/
  told : ∀ (τ : Type) (name : String) (ts : List (EndTurn τ)) (pid : UInt32)
    (later : List ChannelEvent) (ending : ChannelEnding),
    ((Chronicle.start name).run ts).stream = (payloads.flatMap Frame.encode).take k →
    ((Chronicle.start name).run ts).events = .connected pid :: later → .failed ending ∈ later →
    (ending.code = 1 ↔ Frame.AtBoundary payloads k ∨ Frame.InLength payloads k)
      ∧ (ending.code = 2 ↔ Frame.InPayload payloads k ∨ Frame.PastLimit payloads k)
  /-- And it is told: an open channel that has all of the cut stream comes to its end by reading. -/
  ends : ∀ (τ : Type) (name : String) (ts : List (EndTurn τ)) (pid : UInt32)
    (before : List ChannelEvent),
    ((Chronicle.start name).run ts).stream = (payloads.flatMap Frame.encode).take k →
    ((Chronicle.start name).run ts).events = .connected pid :: before →
    ((Chronicle.start name).run ts).channel.phase = .opened →
    ((Chronicle.start name).run ts).channel.inputOver = true →
    ∃ (reads : List (EndTurn τ)) (later : List ChannelEvent) (ending : ChannelEnding),
      (∀ t ∈ reads, t = .read) ∧ .failed ending ∈ later
      ∧ ((Chronicle.start name).run (ts ++ reads)).stream
        = (payloads.flatMap Frame.encode).take k
      ∧ ((Chronicle.start name).run (ts ++ reads)).events = .connected pid :: (before ++ later)

/-- The ending that a channel was told is the one of the last report of its stream. -/
theorem Chronicle.Concludes.mem_reports_iff {τ : Type} {c : Chronicle τ} (h : c.Concludes)
    {pid : UInt32} {later : List ChannelEvent} {ending : ChannelEnding}
    (hevents : c.events = .connected pid :: later) (hmem : .failed ending ∈ later) :
    ∃ reports, Yields c.stream reports ∧ (ending.code = 1 ↔ .ended ∈ reports)
      ∧ (ending.code = 2 ↔ ∃ fault, .failed fault ∈ reports) := by
  obtain ⟨hello, last, hyields, hlast⟩ := h pid later ending hevents hmem
  refine ⟨_, hyields, ?_⟩
  cases last with
  | payload => cases hlast
  | ended =>
    cases hlast
    simp [ChannelEnding.code]
  | failed fault =>
    cases hlast
    simp [ChannelEnding.code]

/-- **A stream of frames that is cut is reported by where it was cut**, if the length of each frame
fits into 32 bits. -/
theorem cut_reported {payloads : List Bytes} {k : Nat} (hcount : ∀ p ∈ payloads, p.length < 2 ^ 32)
    (hk : k ≤ (payloads.flatMap Frame.encode).length) : CutReported payloads k where
  reports := by
    obtain ⟨front, last, hcut⟩ := Frame.exists_cutAt hk
    exact ⟨front, last, hcut, hcut.yields_iff hcount⟩
  ended := fun reports => Frame.ended_mem_iff hcount hk
  failed := fun reports => Frame.failed_mem_iff hcount hk
  told := by
    intro τ name ts pid later ending hstream hevents hmem
    obtain ⟨reports, hyields, hclosed, hunreadable⟩ :=
      (Chronicle.concludes_run name ts).mem_reports_iff hevents hmem
    rw [hstream] at hyields
    rw [hclosed, hunreadable]
    exact ⟨Frame.ended_mem_iff hcount hk hyields, Frame.failed_mem_iff hcount hk hyields⟩
  ends := by
    intro τ name ts pid before hstream hevents hopen hover
    obtain ⟨n, ending, later, hends⟩ := Chronicle.exists_failed hopen hover
    refine ⟨List.replicate n .read, later, ending, fun t ht => List.eq_of_mem_replicate ht, ?_⟩
    have hrun : (Chronicle.start name).run (ts ++ List.replicate n .read)
        = ((Chronicle.start name).run ts).run (List.replicate n .read) :=
      List.foldl_append
    obtain ⟨hmem, hsame, hbegins⟩ := hends
    rw [hrun, hsame, hbegins, hevents]
    exact ⟨hmem, hstream, rfl⟩

/-- The words "hi" and "bye", which the samples below send. -/
def hiAndBye : List Bytes := [[0x68, 0x69], [0x62, 0x79, 0x65]]

/-- Two frames that are cut behind the first byte of the second word. -/
theorem cut_reported_in_payload :
    (∀ p ∈ hiAndBye, p.length < 2 ^ 32) ∧ 11 ≤ (hiAndBye.flatMap Frame.encode).length
      ∧ CutReported hiAndBye 11 :=
  have hcount : ∀ p ∈ hiAndBye, p.length < 2 ^ 32 := by decide
  have hk : 11 ≤ (hiAndBye.flatMap Frame.encode).length := by decide
  ⟨hcount, hk, cut_reported hcount hk⟩

/-- **A cut inside a length looks like an end**: behind two bytes of the second length the stream is
over, and no frame ends there. -/
theorem ended_of_cut_in_length :
    ¬ Frame.AtBoundary hiAndBye 8
      ∧ Yields ((hiAndBye.flatMap Frame.encode).take 8) [.payload [0x68, 0x69], .ended] := by
  constructor
  · rintro ⟨front, behind, hsplit, -, hsize⟩
    match front, hsplit with
    | [], _ => cases hsize
    | [p], hsplit =>
      obtain ⟨rfl, -⟩ := List.cons.inj hsplit
      cases hsize
    | [p, q], hsplit =>
      obtain ⟨rfl, hrest⟩ := List.cons.inj hsplit
      obtain ⟨rfl, -⟩ := List.cons.inj hrest
      cases hsize
    | _ :: _ :: _ :: _, hsplit => cases hsplit
  · have hhi : Frame.read ((hiAndBye.flatMap Frame.encode).take 8)
        = .frame [0x68, 0x69] [0, 0] := by decide
    exact .payload hhi (.ended (by decide))

end ControlPlane
