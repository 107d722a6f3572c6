/-
# What the requests of a client come to

A reply completes a request by its number.  The host gives a number back only after it has heard a
message that carried it, and no message before the request did; so the host has come to the request
when it is completed.

* `Behind`: what an end has not read yet is coming, in its order;
* `Link.Reached`: the host has come to a request;
* `Link.Reading`: the client's side of a link.  Requests fail with the channel, or the host has come
  to them;
* `Link.Change.reading`: every change keeps this.
-/
import ControlPlane.Proofs.Link.Hearing

namespace ControlPlane

/-! ## 1. What is coming -/

/-- **An end is behind** what the other one has written: the rest has arrived or is coming, or nothing
more is read of it. -/
def Behind {τ : Type} (told : List Message) (coming : Bytes) (e : ChannelEnd τ) : Prop :=
  e.isClosed = false →
    (∃ read rest, told = read ++ rest ∧ e.arrived ++ coming = Message.frames rest) ∨
      Jammed (e.arrived ++ coming)

namespace Behind

variable {τ : Type} {told : List Message} {coming : Bytes} {e : ChannelEnd τ}

/-- More is written, and is coming. -/
theorem more (h : Behind told coming e) (ms : List Message) :
    Behind (told ++ ms) (coming ++ Message.frames ms) e := by
  intro hopen
  rw [← List.append_assoc]
  rcases h hopen with ⟨read, rest, htold, hall⟩ | hjammed
  · refine .inl ⟨read, rest ++ ms, by rw [htold, List.append_assoc], ?_⟩
    rw [hall, Message.frames_append]
  · exact .inr (hjammed.more _)

/-- An end where nothing has been read is as far behind as it was. -/
theorem of_same (h : Behind told coming e) {e' : ChannelEnd τ} {left : Bytes}
    (hopen : e'.isClosed = false → e.isClosed = false)
    (harrived : e'.arrived ++ left = e.arrived ++ coming) : Behind told left e' :=
  fun hopen' => harrived ▸ h (hopen hopen')

/-- An end that is over is behind nothing. -/
theorem of_closed (hclosed : e.isClosed = true) : Behind told coming e :=
  fun hopen => Bool.noConfusion (hclosed.symm.trans hopen)

/-- **The next frame that an end reads was written**, or is no message. -/
theorem next (h : Behind told coming e) (hopen : e.isClosed = false) {payload rest : Bytes}
    (hnext : Frame.next e.arrived = .frame payload rest) :
    ((∃ m ∈ told, payload = m.bytes) ∨ ∃ err, Message.parse payload = .error err) ∧
      ∀ e' : ChannelEnd τ, e'.arrived = rest → Behind told coming e' := by
  rcases h hopen with ⟨read, ahead, htold, hall⟩ | hjammed
  · obtain ⟨m, ms, rfl, ⟨hpayload, hrest⟩ | ⟨hbad, hjammed⟩⟩ := next_frames hall hnext
    · refine ⟨.inl ⟨m, by simp [htold], hpayload⟩, fun e' he' _ => .inl ⟨read ++ [m], ms, ?_, ?_⟩⟩
      · rw [htold, List.append_assoc]
        rfl
      · rw [he', hrest]
    · exact ⟨.inr hbad, fun e' he' _ => .inr (he' ▸ hjammed)⟩
  · exact absurd hnext (hjammed.no_frame payload rest)

/-- **An end stays behind what was written.** -/
theorem turn (h : Behind told coming e) {u : EndTurn τ} {x : ChannelOutput τ × ChannelEnd τ}
    {left : Bytes} (hleft : u.bytes ++ left = coming) (hcommand : u.command? = none)
    (houtcome : e.Outcome u x) : Behind told left x.2 := by
  cases houtcome with
  | idle u _ hbytes =>
    intro hopen
    rw [hbytes hopen] at hleft
    exact h.of_same (fun hopen => hopen) (hleft ▸ rfl) hopen
  | accepted pid hphase =>
    exact h.of_same (fun _ => ChannelEnd.isOpen_of_phase hphase) (hleft ▸ rfl)
  | arrived bs hopen => exact h.of_same (fun _ => hopen) (hleft ▸ List.append_assoc ..)
  | inputOver => exact h.of_same (fun hopen => hopen) (hleft ▸ rfl)
  | queued u c hsome | late u c hsome => cases hcommand.symm.trans hsome
  | greeted pid hello rest hphase hnext =>
    obtain rfl : left = coming := hleft
    exact (h.next (ChannelEnd.isOpen_of_phase hphase) hnext).2 _ rfl
  | taken payload rest hphase hnext =>
    obtain rfl : left = coming := hleft
    refine (h.next (ChannelEnd.isOpen_of_phase hphase) hnext).2 _ ?_
    have hsame := congrArg (·.2.arrived) (e.takeFrame_arrived payload rest e.inputOver)
    exact hsame
  | wrote m cs hphase =>
    exact h.of_same (fun _ => ChannelEnd.isOpen_of_phase hphase) (hleft ▸ rfl)
  | asked m t cs hphase =>
    exact h.of_same (fun _ => ChannelEnd.isOpen_of_phase hphase) (hleft ▸ rfl)
  | failed | dropped => exact of_closed rfl

end Behind

/-- Who waits is given nothing for what is no message. -/
theorem ChannelEnd.answers_takeFrame_of_error {e : ChannelEnd Nat} {payload : Bytes}
    {err : ReadError} (h : Message.parse payload = .error err) :
    (e.takeFrame payload).1.answers = [] := by
  simp only [takeFrame, h]

/-- **What is given to whoever waits is a reply with the number of the request.** -/
theorem ChannelEnd.answers_takeFrame {e : ChannelEnd Nat} {m : Message} {y : Nat × Answer}
    (hy : y ∈ (e.takeFrame m.bytes).1.answers) :
    m.reply = true ∧ ∃ i, m.request = some i ∧ e.pending.get? i = some y.1 := by
  have htaken := taken_takeFrame e m
  generalize e.takeFrame m.bytes = x at htaken hy
  cases htaken with
  | refused | heard | stray => exact nomatch hy
  | answered p i t hreply hrequest harrives hsome =>
    obtain rfl := List.mem_singleton.mp hy
    exact ⟨hreply, i, hrequest, hsome⟩

/-- What stands at a place of a list stands there in a longer one. -/
theorem getElem?_grown {α : Type} {xs ys : List α} (h : xs <+: ys) {i : Nat} {a : α}
    (ha : xs[i]? = some a) : ys[i]? = some a := by
  obtain ⟨more, rfl⟩ := h
  rw [List.getElem?_append_left (List.getElem?_eq_some_iff.mp ha).1, ha]

namespace Link

variable {A : Type} {l l' : Link A} {k : Nat}

/-! ## 2. What only grows -/

/-- **A later link**: more was handed over, and more was heard. -/
structure Later (l l' : Link A) : Prop where
  handed : l.handed <+: l'.handed
  heard : l.heard <+: l'.heard
  spoken : l.spoken <+: l'.spoken

/-- A link that is later than a later one is later. -/
theorem Later.trans {l'' : Link A} (h : l.Later l') (h' : l'.Later l'') : l.Later l'' :=
  ⟨h.handed.trans h'.handed, h.heard.trans h'.heard, h.spoken.trans h'.spoken⟩

/-- What cannot be mistaken later could not be mistaken before. -/
theorem Later.genuine (h : l.Later l') {t : Nat} (hgenuine : l'.Genuine t) : l.Genuine t := by
  have hearlier : l.handed.take t <+: l'.handed.take t :=
    List.prefix_take_iff.mpr ⟨(List.take_prefix t _).trans h.handed, List.length_take_le t _⟩
  exact
    { client := fun m hm => hgenuine.client m (hearlier.subset hm)
      few := Nat.lt_of_le_of_lt (Nat.succ_le_succ hearlier.sublist.countP_le) hgenuine.few
      host := fun m hm => hgenuine.host m (h.spoken.subset hm) }

/-- **Every change makes a later link.** -/
theorem Change.later (hc : l.Change l') : l.Later l' := by
  have hhands : ∀ p : ClientPeer A Nat, l.Later (l.hands p) := fun p =>
    ⟨List.prefix_append _ _, List.prefix_refl _, List.prefix_refl _⟩
  have hdoes : ∀ (l : Link A) d, l.heard <+: (l.does d).heard := fun l d =>
    l.heard_does d ▸ List.prefix_append _ _
  cases hc with
  | sent p ms hands => exact hhands p
  | asked p m hopen hands => exact hhands p
  | askedLate t hclosed => exact ⟨List.prefix_refl _, List.prefix_refl _, List.prefix_refl _⟩
  | client t hcommand => exact ⟨List.prefix_refl _, List.prefix_refl _, List.prefix_refl _⟩
  | host t => exact ⟨List.prefix_refl _, hdoes l _, List.prefix_refl _⟩
  | told m => exact ⟨List.prefix_refl _, hdoes _ _, List.prefix_append _ _⟩
  | done d hd => exact ⟨List.prefix_refl _, hdoes l d, List.prefix_refl _⟩

/-! ## 3. The client's side -/

/-- **The host has come to a request**: it was handed over with this ticket, and the host's peer has
heard a message at its place or behind it.  The first event is that of the hello. -/
def Reached (l : Link A) (t : Nat) : Prop :=
  (∃ m, l.handed[t]? = some (.request m t)) ∧ ∃ j m, t ≤ j ∧ l.heard[j + 1]? = some (.message m)

/-- What the host has come to is behind it for good. -/
theorem Reached.later {t : Nat} (h : l.Reached t) (hl : l.Later l') : l'.Reached t := by
  obtain ⟨⟨m, hm⟩, ⟨j, m', hj, hm'⟩⟩ := h
  exact ⟨⟨m, getElem?_grown hl.handed hm⟩, ⟨j, m', hj, getElem?_grown hl.heard hm'⟩⟩

/-- **The client's side of a link.** -/
structure Reading (l : Link A) : Prop where
  behind : Behind l.told l.toClient l.client.channel
  /-- A request fails with the channel, or the host has come to it. -/
  results : ∀ x ∈ l.results, x.2 = .error .channelClosed ∨ (l.Genuine x.1 → l.Reached x.1)

/-- **When a reply completes a request, the host has come to that request.** -/
theorem Books.reached (h : l.Books k) (hearing : l.Hearing)
    (hopen : l.client.channel.isClosed = false) {r : Message} {i : UInt64} {t : Nat}
    (hr : r ∈ l.told) (hreply : r.reply = true) (hrequest : r.request = some i)
    (hpending : l.client.channel.pending.get? i = some t) (hgenuine : l.Genuine t) :
    l.Reached t := by
  obtain ⟨_, ⟨m, hm⟩, hi⟩ := (h.working hopen).pending i t hpending
  refine ⟨⟨m, hm⟩, ?_⟩
  rcases hearing.told r hr hreply with hspoken | ⟨q, hq, hsame⟩
  · exact nomatch (hgenuine.host r hspoken hreply).symm.trans hrequest
  · obtain ⟨n, hn⟩ := List.getElem?_of_mem hq
    -- what the host has heard under this number was written at the place before
    obtain ⟨_, j, w, rfl, hw, hnoticed, _⟩ :=
      hearing.stage.relayed.upto (getElem?_grown hearing.heard hn)
    obtain ⟨hplain, hnumber⟩ := Message.of_noticed hnoticed
    have hnumbered : w.request = some i := hnumber.symm.trans (hsame.symm.trans hrequest)
    exact ⟨j, q, h.ticket_le hgenuine hw hplain hnumbered hi, hn⟩

/-- A turn of the client's end gives out what requests come to. -/
theorem Reading.turn (h : l.Reading) (hbooks : l.Books k) (hearing : l.Hearing)
    {t : WireTurn Nat} (hcommand : t.command? = none) : (l.atClient t).Reading := by
  have hcommand : (t.taking l.toClient).command? = none := (t.command?_taking _).trans hcommand
  have houtcome := l.client.channel.outcome_undergo (t.taking l.toClient)
  have hanswers : ∀ y ∈ (l.client.channel.undergo (t.taking l.toClient)).1.answers,
      y.2 = .error .channelClosed ∨ (l.Genuine y.1 → l.Reached y.1) := by
    generalize t.taking l.toClient = u at hcommand houtcome
    generalize l.client.channel.undergo u = x at houtcome
    have hclosed : ∀ {ts : List Nat} {y : Nat × Answer},
        y ∈ ts.map (fun t => (t, .error .channelClosed)) → y.2 = .error .channelClosed := by
      intro ts y hy
      obtain ⟨_, -, rfl⟩ := List.mem_map.mp hy
      rfl
    cases houtcome with
    | idle | accepted | arrived | inputOver | greeted | wrote => simp
    | queued u c hsome | late u c hsome => cases hcommand.symm.trans hsome
    | taken payload rest hphase hnext =>
      have hopen : l.client.channel.isClosed = false := ChannelEnd.isOpen_of_phase hphase
      rcases (h.behind.next hopen hnext).1 with ⟨r, hr, rfl⟩ | ⟨err, hbad⟩
      · intro y hy
        obtain ⟨hreply, i, hrequest, hpending⟩ := ChannelEnd.answers_takeFrame hy
        exact .inr (hbooks.reached hearing hopen hr hreply hrequest hpending)
      · rw [ChannelEnd.answers_takeFrame_of_error hbad]
        intro y hy
        cases hy
    | asked m t cs hphase => exact fun y hy => .inl (hclosed hy)
    | failed | dropped => exact fun y hy => .inl (hclosed hy)
  refine
    { behind := h.behind.turn (t.bytes_taking _) hcommand houtcome, results := fun y hy => ?_ }
  have hknown : y.2 = .error .channelClosed ∨ (l.Genuine y.1 → l.Reached y.1) := by
    rcases List.mem_append.mp hy with hy | hy
    · exact h.results y hy
    · exact hanswers y hy
  exact hknown.imp_right fun hreached hgenuine =>
    hreached ⟨hgenuine.client, hgenuine.few, hgenuine.host⟩

/-- **Every change keeps the client's side.** -/
theorem Change.reading (hc : l.Change l') (hbooks : l.Books k) (hearing : l.Hearing)
    (h : l.Reading) : l'.Reading := by
  have hlater := hc.later
  have hold : ∀ x ∈ l.results,
      x.2 = .error .channelClosed ∨ (l'.Genuine x.1 → l'.Reached x.1) := fun x hx =>
    (h.results x hx).imp_right fun hreached hgenuine =>
      (hreached (hlater.genuine hgenuine)).later hlater
  have hhands : ∀ {p : ClientPeer A Nat} {cs}, Hands l.client p cs →
      Behind l.told l.toClient p.channel := by
    intro p cs hands
    have hchannel : p.channel = l.client.channel.enqueue cs := hands
    refine h.behind.of_same ?_ ?_
    · simp [hchannel]
    · rw [hchannel, ChannelEnd.enqueue]
      split <;> rfl
  cases hc with
  | sent p ms hands => exact { behind := hhands hands, results := hold }
  | asked p m hopen hands => exact { behind := hhands hands, results := hold }
  | askedLate t hclosed =>
    refine { behind := h.behind, results := fun x hx => ?_ }
    rcases List.mem_append.mp hx with hx | hx
    · exact hold x hx
    · exact .inl (List.mem_singleton.mp hx ▸ rfl)
  | client t hcommand => exact h.turn hbooks hearing hcommand
  | host t => exact { behind := h.behind.more _, results := hold }
  | told m => exact { behind := h.behind.more _, results := hold }
  | done d hd => exact { behind := h.behind, results := hold }

/-- A client that has just connected has asked for nothing. -/
theorem reading_start (config : HostConfig) (prior : List Host.Deed) (id : PeerId) (token : Token)
    (pid : UInt32) : (start config prior id token pid : Link A).Reading := by
  rw [start_eq]
  exact { behind := fun _ => .inl ⟨[], [], rfl, rfl⟩, results := nofun }

end Link

end ControlPlane
