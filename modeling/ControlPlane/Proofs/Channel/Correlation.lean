/-
# Requests and their answers

Two ends of a connection ask and answer each other in any order, and either of them may be over at
any point.  Whatever they do, a request comes to the answer that was built from it, or to nothing.

* `Party.chances`: how often a reply with an id may still come;
* `Tie`: the requests of one end and the answers of the other belong together;
* `Tie.change`, `Tie.changeAnswers`: every change at either end keeps them together;
* `Pair.correlated_run`: what the two ends can rely on after every run.

The invariant behind it is a count.  A request that is written has one chance to be replied to,
and that chance moves: from the frame of the request to what was heard, to the answer that is
handed over, and to the frame of the reply.  It can be lost on the way but not doubled, and while
it exists the request is waited for; so a reply that arrives never goes astray.

The payload of an answer is read from its text.  Integers, texts and whatever is made of them come
back as they were; a real may come back as its neighbour.  And ids are numbers of 64 bits, so they
repeat when an end makes more requests than that (`Pair.answer_inexact_and_ids_repeat`).
-/
import ControlPlane.Proofs.Channel.Ledger

namespace ControlPlane

open ChannelEnd (numbered answerOf)

/-! ## 1. What is under way between two ends -/

namespace Message

/-- Such a payload arrives unchanged. -/
theorem Arrives.eq_of_kept {p p' : Json} (h : Arrives p p') (hkept : p.Kept) : p' = p := by
  have hecho := Json.echo_eq p (Json.levels - 1) hkept.1 hkept.2.1 hkept.2.2
  exact Except.ok.inj (h.symm.trans hecho)

/-- Whether a message asks for the reply with an id. -/
def asksFor (i : UInt64) (m : Message) : Bool := !m.reply && m.request == some i

/-- Whether a message is the reply with an id. -/
def repliesTo (i : UInt64) (m : Message) : Bool := m.reply && m.request == some i

/-- Whether a message carries an id. -/
def names (i : UInt64) (m : Message) : Bool := m.request == some i

end Message

namespace Party

/-- What the other end has written and is not read yet. -/
def coming (a : Party) : List Message := a.inbox ++ a.wire

/-- The message to be read next is under way. -/
theorem head_mem_coming {a : Party} {m : Message} {rest : List Message}
    (hinbox : a.inbox = m :: rest) : m ∈ a.coming := by
  rw [coming, hinbox]
  exact List.mem_cons_self

/-- So is what follows it. -/
theorem rest_sublist_coming {a : Party} {m : Message} {rest : List Message}
    (hinbox : a.inbox = m :: rest) : (rest ++ a.wire).Sublist a.coming := by
  rw [coming, hinbox]
  exact List.sublist_cons_self m _

/-- What was handed over and is not written yet, without the requests. -/
def queued (a : Party) : List Message := a.channel.commands.filterMap Command.message?

/-- **How often a reply with an id may still come** to `a`: its request is under way to `b` or was
heard there, or its reply is handed over or under way. -/
def chances (a b : Party) (i : UInt64) : Nat :=
  b.coming.countP (Message.asksFor i) + b.heard.countP (Message.names i)
    + b.queued.countP (Message.repliesTo i) + a.coming.countP (Message.repliesTo i)

/-- A message is the `k`-th request as it was written. -/
def Wrote (a : Party) (k : Nat) (m : Message) : Prop :=
  ∃ x, a.asked[k]? = some x ∧ m = numbered x (requestId k)

/-- **A message is what the `k`-th request was read as.** -/
def Delivered (a : Party) (k : Nat) (q : Message) : Prop :=
  ∃ m p, a.Wrote k m ∧ Message.Arrives m.payload p ∧ q = { m with payload := p }

/-- **What a request comes to when it is answered**: the reply with the payload as it was read, or
a failure that says which type was refused. -/
def Settles (q : Message) : Option Json → Answer → Prop
  | none, r => r = .error (.refused q.type)
  | some p, r => ∃ p', Message.Arrives p p' ∧ (p.Kept → p' = p) ∧ r = .ok (q.replyWith p')

/-- **What the `k`-th request of `a` may come to**: the channel is over, or `b` has answered that
request. -/
def Settled (a b : Party) (k : Nat) (r : Answer) : Prop :=
  (r = .error .channelClosed ∧ a.channel.phase = .ended) ∨
    ∃ x ∈ b.answered, a.Delivered k x.1 ∧ Settles x.1 x.2 r

end Party

open Party (Settles)

/-- **The requests of `a` and the answers of `b` belong together.** -/
structure Tie (a b : Party) : Prop where
  /-- Whoever may still be replied to is waited for, and is replied to once at most. -/
  matched : a.channel.phase = .opened →
    ∀ i, a.chances b i ≤ (a.channel.pending.contains i).toNat
  asked : ∀ m ∈ b.coming, m.reply = false → m.request = none ∨ ∃ k, a.Wrote k m
  heard : ∀ q ∈ b.heard ++ b.answered.map (·.1), q.request = none ∨ ∃ k, a.Delivered k q
  answers : ∀ r ∈ b.queued ++ a.coming, r.reply = true →
    ∃ x ∈ b.answered, r = x.1.answerWith x.2
  settled : ∀ x ∈ a.results, a.Settled b x.1 x.2
  /-- Every reply to a request that was read has been given to whoever waited for it. -/
  given : ∀ r ∈ a.read, r.reply = true → ∀ i p, r.request = some i →
    Message.Arrives r.payload p →
      ∃ k, i = requestId k ∧ (k, answerOf { r with payload := p }) ∈ a.results
  reports : ∀ e ∈ a.events, Fair e

/-- **Ids are not given out twice** as long as there are enough of them. -/
theorem requestId_inj {j k l : Nat} (hj : j < l) (hk : k < l) (hl : l < UInt64.size)
    (h : requestId j = requestId k) : j = k := by
  have hnat := congrArg UInt64.toNat h
  simp only [UInt64.size] at hl
  simp only [requestId, UInt64.toNat_ofNat'] at hnat
  omega

namespace Tie

/-- Between new ends nothing is under way. -/
theorem start (name : String) : Tie (.start name) (.start name) where
  matched := by simp [Party.chances, Party.coming, Party.queued, Party.start]
  asked := by simp [Party.coming, Party.start]
  heard := by simp [Party.start]
  answers := by simp [Party.coming, Party.queued, Party.start]
  settled := by simp [Party.start]
  given := by simp [Party.start]
  reports := by simp [Party.start]

variable {a b : Party}

/-! ## 2. Changes at the end that asks -/

/-- Requests stay what they are when others follow. -/
theorem wrote_append {k : Nat} {m : Message} (x : Message) (h : a.Wrote k m) :
    { a with asked := a.asked ++ [x] }.Wrote k m := by
  obtain ⟨y, hy, hm⟩ := h
  have hlt : k < a.asked.length := (List.getElem?_eq_some_iff.mp hy).1
  exact ⟨y, by rw [List.getElem?_append_left hlt, hy], hm⟩

/-- One more request is listed. -/
theorem more (h : Tie a b) (x : Message) : Tie { a with asked := a.asked ++ [x] } b := by
  have hdelivered : ∀ k q, a.Delivered k q →
      { a with asked := a.asked ++ [x] }.Delivered k q := by
    rintro k q ⟨m, p, hm, hp, hq⟩
    exact ⟨m, p, wrote_append x hm, hp, hq⟩
  refine { h with asked := ?_, heard := ?_, settled := ?_ }
  · intro m hm hreply
    exact (h.asked m hm hreply).imp_right fun ⟨k, hk⟩ => ⟨k, wrote_append x hk⟩
  · intro q hq
    exact (h.heard q hq).imp_right fun ⟨k, hk⟩ => ⟨k, hdelivered k q hk⟩
  · intro y hy
    exact (h.settled y hy).imp_right fun ⟨z, hz, hd, hs⟩ => ⟨z, hz, hdelivered _ _ hd, hs⟩

/-- Requests fail when the channel is over. -/
theorem fails (h : Tie a b) (ks : List Nat) {e : ChannelEnd Nat} (hended : e.phase = .ended) :
    Tie { a with
      channel := e
      results := a.results ++ ks.map fun k => (k, .error .channelClosed) } b := by
  refine { h with matched := ?_, settled := ?_, given := ?_ }
  · intro hopen
    simp [hended] at hopen
  · intro x hx
    rcases List.mem_append.mp hx with hx | hx
    · exact (h.settled x hx).imp_left fun hclosed => ⟨hclosed.1, hended⟩
    · obtain ⟨k, -, rfl⟩ := List.mem_map.mp hx
      exact .inl ⟨rfl, hended⟩
  · intro r hr hreply i p hrequest hp
    obtain ⟨k, hi, hk⟩ := h.given r hr hreply i p hrequest hp
    exact ⟨k, hi, List.mem_append_left _ hk⟩

/-- Some of what is under way to the end is lost. -/
theorem lose (h : Tie a b) {wire inbox : List Message} (closing : Option ChannelEnding)
    (hless : (inbox ++ wire).Sublist a.coming) :
    Tie { a with wire := wire, inbox := inbox, closing := closing } b := by
  refine { h with matched := ?_, answers := ?_ }
  · intro hopen i
    have hmatched := h.matched hopen i
    have hcount := hless.countP_le (p := Message.repliesTo i)
    simp only [Party.chances, Party.coming] at hmatched hcount ⊢
    exact Nat.le_trans (Nat.add_le_add_left hcount _) hmatched
  · intro r hr
    refine h.answers r ?_
    rcases List.mem_append.mp hr with hr | hr
    · exact List.mem_append_left _ hr
    · exact List.mem_append_right _ (hless.subset hr)

/-- Something is written to the other end, a request only if there is room for its reply. -/
theorem carry (h : Tie a b) {m : Message}
    (hwrote : m.reply = false → m.request = none ∨ ∃ k, a.Wrote k m)
    (hroom : a.channel.phase = .opened → ∀ i, m.asksFor i = true →
      a.chances b i < (a.channel.pending.contains i).toNat) : Tie a (b.carry [m]) := by
  unfold Party.carry
  split
  · exact h
  · refine { h with matched := ?_, asked := ?_ }
    · intro hopen i
      have hmatched := h.matched hopen i
      have hone := hroom hopen i
      simp only [Party.chances, Party.coming, Party.queued, ← List.append_assoc,
        List.countP_append, List.countP_singleton] at hmatched hone ⊢
      cases hasks : m.asksFor i with
      | false => simpa using hmatched
      | true =>
        have hone := hone hasks
        simp only [if_true]
        omega
    · intro m' hm' hreply
      rw [Party.coming, ← List.append_assoc, List.mem_append, List.mem_singleton] at hm'
      rcases hm' with hm' | rfl
      · exact h.asked m' hm' hreply
      · exact hwrote hreply

/-- Something that is no request is written to the other end. -/
theorem carryPlain (h : Tie a b) {m : Message} (hplain : m.Plain) : Tie a (b.carry [m]) := by
  refine h.carry (fun hreply => ?_) fun _ i hasks => ?_
  · rcases hplain with hm | hm
    · simp [hm] at hreply
    · exact .inl hm
  · rcases hplain with hm | hm <;> simp [Message.asksFor, hm] at hasks

/-- The end is over. -/
theorem finish (h : Tie a b) {events : List ChannelEvent}
    (hfailed : ∀ e ∈ events, ∃ ending, e = .failed ending) :
    Tie (a.emit (a.channel.finish events)) b := by
  have hended : (a.channel.finish events).2.phase = .ended := rfl
  refine { h.fails a.channel.tickets hended with reports := ?_ }
  intro e he
  rcases List.mem_append.mp he with he | he
  · exact h.reports e he
  · obtain ⟨ending, rfl⟩ := hfailed e he
    exact .failed ending

/-- A message is read and reported. -/
theorem report (h : Tie a b) {m : Message} {rest : List Message} {e : ChannelEvent}
    (hinbox : a.inbox = m :: rest) (hfair : Fair e)
    (hno : m.reply = true → m.request = none ∨ ∀ p, ¬ Message.Arrives m.payload p) :
    Tie ({ a with inbox := rest, read := a.read ++ [m] }.emit
      ({ events := [e] }, a.channel)) b := by
  have hless := Party.rest_sublist_coming hinbox
  refine { h.lose a.closing hless with settled := ?_, given := ?_, reports := ?_ }
  · exact fun x hx => h.settled x (by simpa [Party.emit] using hx)
  · intro r hr hreply i p hrequest hp
    rcases List.mem_append.mp hr with hr | hr
    · simpa [Party.emit] using h.given r hr hreply i p hrequest hp
    · rw [List.mem_singleton] at hr
      subst hr
      rcases hno hreply with hnone | hlost
      · simp [hnone] at hrequest
      · exact absurd hp (hlost p)
  · intro e' he'
    rcases List.mem_append.mp he' with he' | he'
    · exact h.reports e' he'
    · exact List.mem_singleton.mp he' ▸ hfair

/-- **A request is written.**  Its id is new, so nothing that is still under way can be taken for
its reply. -/
theorem writeRequest (h : Tie a b) {n : Nat} (hl : Ledger a n)
    (hfew : a.asked.length < UInt64.size) {m : Message} {t : Nat} {cs : List (Command Nat)}
    (hopen : a.channel.phase = .opened)
    (hcommands : a.channel.commands = .request m t :: cs) :
    Tie { a with
      channel := { a.channel with
        commands := cs
        nextRequest := a.channel.nextRequest + 1
        pending := a.channel.pending.insert a.channel.nextRequest t }
      sent := a.sent ++ [numbered m a.channel.nextRequest]
      results := a.results ++ (a.channel.pending.get? a.channel.nextRequest).toList.map
        fun u => (u, .error .channelClosed) }
      (b.carry [numbered m a.channel.nextRequest]) := by
  obtain ⟨rfl, hasked, -⟩ := hl.writeRequest hopen hcommands
  have hlt : t < a.asked.length := (List.getElem?_eq_some_iff.mp hasked).1
  have hfresh : a.channel.pending.get? a.channel.nextRequest = none := by
    rw [Option.eq_none_iff_forall_ne_some]
    intro u hu
    obtain ⟨hut, hid⟩ := hl.pending _ u hu
    have hsame := requestId_inj (by omega) hlt hfew (hid.symm.trans hl.next)
    omega
  have hnone := Table.contains_eq_false_iff.mpr hfresh
  rw [hfresh, Option.toList_none, List.map_nil, List.append_nil]
  refine carry ?_ (fun _ => .inr ⟨t, m, hasked, by rw [hl.next]⟩) fun _ i hasks => ?_
  · refine { h with matched := fun _ i => Nat.le_trans (h.matched hopen i) ?_ }
    rw [Table.contains_insert]
    cases a.channel.pending.contains i <;> simp
  · obtain rfl : a.channel.nextRequest = i := by
      simpa [Message.asksFor, numbered] using (Bool.and_eq_true_iff.mp hasks).2
    have hmatched := h.matched hopen a.channel.nextRequest
    rw [hnone] at hmatched
    refine Nat.lt_of_le_of_lt hmatched ?_
    rw [Table.contains_insert]
    simp

/-- A reply that may come was built from the request with its id. -/
theorem answer_of (h : Tie a b) {n : Nat} (hl : Ledger a n) (hfew : a.asked.length < UInt64.size)
    {m : Message} {p : Json} {i : UInt64} {t : Nat} (hm : m ∈ a.coming) (hreply : m.reply = true)
    (hrequest : m.request = some i) (harrives : Message.Arrives m.payload p) (ht : t < n)
    (hi : i = requestId t) :
    ∃ x ∈ b.answered, a.Delivered t x.1 ∧
      Settles x.1 x.2 (answerOf { m with payload := p }) := by
  obtain ⟨⟨q, outcome⟩, hx, rfl⟩ := h.answers m (List.mem_append_right _ hm) hreply
  refine ⟨_, hx, ?_, ?_⟩
  · have hq : q.request = some i := by cases outcome <;> exact hrequest
    rcases h.heard q (List.mem_append_right _ (List.mem_map_of_mem hx)) with hnone | ⟨k, hk⟩
    · simp [hnone] at hq
    · obtain ⟨m', p', ⟨x, hx', rfl⟩, hp', rfl⟩ := id hk
      have hlt : k < a.asked.length := (List.getElem?_eq_some_iff.mp hx').1
      have hid : requestId k = requestId t := (Option.some.inj hq).trans hi
      have hcount := hl.count
      obtain rfl := requestId_inj hlt (by omega) hfew hid
      exact hk
  · cases outcome with
    | none => rfl
    | some p' => exact ⟨p, harrives, harrives.eq_of_kept, rfl⟩

/-- **A reply is read, and whoever waits for it is given it.**  The answer it carries was built
from the request with that ticket, as both have the same id. -/
theorem complete (h : Tie a b) {n : Nat} (hl : Ledger a n) (hfew : a.asked.length < UInt64.size)
    {m : Message} {rest : List Message} (hopen : a.channel.phase = .opened)
    (hinbox : a.inbox = m :: rest) {p : Json} {i : UInt64} {t : Nat} (hreply : m.reply = true)
    (hrequest : m.request = some i) (harrives : Message.Arrives m.payload p)
    (hsome : a.channel.pending.get? i = some t) :
    Tie ({ a with inbox := rest, read := a.read ++ [m] }.emit
      ({ answers := [(t, answerOf { m with payload := p })] },
        { a.channel with pending := a.channel.pending.erase i })) b := by
  have hm := Party.head_mem_coming hinbox
  obtain ⟨ht, hi⟩ := hl.pending i t hsome
  have hless := Party.rest_sublist_coming hinbox
  refine { h.lose a.closing hless with
    matched := fun _ j => ?_, settled := ?_, given := ?_, reports := ?_ }
  · have hmatched := h.matched hopen j
    have hcontains : a.channel.pending.contains i = true := by simp [Table.contains, hsome]
    simp only [Party.chances, Party.coming, Party.queued, hinbox, List.cons_append,
      List.countP_cons] at hmatched
    simp only [Party.chances, Party.coming, Party.queued, Party.emit, Table.contains_erase]
    by_cases hj : j = i
    · subst hj
      have hreplies : m.repliesTo j = true := by simp [Message.repliesTo, hreply, hrequest]
      simp only [hcontains, hreplies, if_true, Bool.toNat_true] at hmatched
      simp only [ne_eq, not_true_eq_false, decide_false, Bool.false_and, Bool.toNat_false]
      omega
    · have hreplies : m.repliesTo j = false := by
        simp [Message.repliesTo, hrequest, Ne.symm hj]
      simpa [hreplies, hj] using hmatched
  · intro x hx
    rcases List.mem_append.mp hx with hx | hx
    · exact h.settled x hx
    · obtain rfl := List.mem_singleton.mp hx
      exact .inr (h.answer_of hl hfew hm hreply hrequest harrives ht hi)
  · intro r hr hreply' j p' hrequest' hp'
    rcases List.mem_append.mp hr with hr | hr
    · obtain ⟨k, hk, hmem⟩ := h.given r hr hreply' j p' hrequest' hp'
      exact ⟨k, hk, List.mem_append_left _ hmem⟩
    · obtain rfl := List.mem_singleton.mp hr
      obtain rfl : p = p' := Except.ok.inj (harrives.symm.trans hp')
      obtain rfl : i = j := Option.some.inj (hrequest.symm.trans hrequest')
      exact ⟨t, hi, List.mem_append_right _ (List.mem_singleton_self _)⟩
  · simpa [Party.emit] using h.reports

/-- **A message is read at the end that asks.**  A reply never goes astray, as it is waited for. -/
theorem take (h : Tie a b) {n : Nat} (hl : Ledger a n) (hfew : a.asked.length < UInt64.size)
    {m : Message} {rest : List Message} {x : ChannelOutput Nat × ChannelEnd Nat}
    (hopen : a.channel.phase = .opened) (hinbox : a.inbox = m :: rest)
    (htaken : Taken a.channel m x) :
    Tie ({ a with inbox := rest, read := a.read ++ [m] }.emit x) b := by
  cases htaken with
  | refused event hfair howed hlasts hlost => exact h.report hinbox hfair hlost
  | heard p hreply harrives => exact h.report hinbox (.message _) fun h => by simp [hreply] at h
  | stray i hreply hrequest hnone =>
    have hmatched := h.matched hopen i
    rw [Table.contains_eq_false_iff.mpr hnone] at hmatched
    simp [Party.chances, Party.coming, hinbox, Message.repliesTo, hreply, hrequest] at hmatched
  | answered p i t hreply hrequest harrives hsome =>
    exact h.complete hl hfew hopen hinbox hreply hrequest harrives hsome

/-! ## 3. Changes at the end that answers -/

/-- Something is handed over that is no reply. -/
theorem hand (h : Tie a b) {c : Command Nat} (hno : ∀ m, c.message? = some m → m.reply = false) :
    Tie a (b.hand c) := by
  have hqueued : (b.hand c).queued = b.queued ++ c.message?.toList := by
    cases c <;> simp [Party.hand, Party.queued, List.filterMap_cons, Command.message?]
  refine { h with matched := ?_, answers := ?_ }
  · intro hopen i
    have hmatched := h.matched hopen i
    have hcount : (b.hand c).queued.countP (Message.repliesTo i)
        = b.queued.countP (Message.repliesTo i) := by
      rw [hqueued]
      cases hc : c.message? with
      | none => simp
      | some m => simp [Message.repliesTo, hno m hc]
    simp only [Party.chances, hcount] at hmatched ⊢
    exact hmatched
  · intro r hr hreply
    rw [hqueued] at hr
    simp only [List.mem_append, Option.mem_toList] at hr
    rcases hr with (hr | hr) | hr
    · exact h.answers r (List.mem_append_left _ hr) hreply
    · simp [hno r hr] at hreply
    · exact h.answers r (List.mem_append_right _ hr) hreply

/-- What was heard is answered, but not handed over. -/
theorem answerLate (h : Tie a b) {q : Message} {before after : List Message}
    (hheard : b.heard = before ++ q :: after) (outcome : Option Json) :
    Tie a { b with heard := before ++ after, answered := b.answered ++ [(q, outcome)] } := by
  refine { h with matched := ?_, heard := ?_, answers := ?_, settled := ?_ }
  · intro hopen i
    have hmatched := h.matched hopen i
    simp only [Party.chances, Party.coming, Party.queued, hheard, List.countP_append,
      List.countP_cons] at hmatched ⊢
    omega
  · intro q' hq'
    refine h.heard q' ?_
    rw [hheard]
    simp only [List.map_append, List.map_cons, List.map_nil, List.mem_append, List.mem_cons,
      List.not_mem_nil, or_false] at hq' ⊢
    grind
  · intro r hr hreply
    obtain ⟨x, hx, hrx⟩ := h.answers r hr hreply
    exact ⟨x, List.mem_append_left _ hx, hrx⟩
  · intro x hx
    exact (h.settled x hx).imp_right fun ⟨z, hz, hd, hs⟩ => ⟨z, List.mem_append_left _ hz, hd, hs⟩

/-- **What was heard is answered**, and the answer takes over the chance of its request. -/
theorem answer (h : Tie a b) {q : Message} {before after : List Message}
    (hheard : b.heard = before ++ q :: after) (outcome : Option Json) :
    Tie a ({ b with
      heard := before ++ after
      answered := b.answered ++ [(q, outcome)] }.hand (.send (q.answerWith outcome))) := by
  have hlate := h.answerLate hheard outcome
  refine { hlate with matched := ?_, answers := ?_ }
  · intro hopen i
    have hmatched := h.matched hopen i
    have hsame : (q.answerWith outcome).repliesTo i = q.names i := by cases outcome <;> rfl
    simp only [Party.chances, Party.coming, Party.queued, Party.hand, hheard, List.countP_append,
      List.countP_cons, List.filterMap_append, List.filterMap_cons, Command.message?,
      List.filterMap_nil, List.countP_nil, hsame] at hmatched ⊢
    omega
  · intro r hr hreply
    simp only [Party.queued, Party.hand, List.filterMap_append, List.filterMap_cons,
      Command.message?, List.filterMap_nil, List.mem_append, List.mem_singleton] at hr
    rcases hr with (hr | rfl) | hr
    · exact hlate.answers r (List.mem_append_left _ hr) hreply
    · exact ⟨(q, outcome), List.mem_append_right _ (List.mem_singleton_self _), rfl⟩
    · exact hlate.answers r (List.mem_append_right _ hr) hreply

/-- Something is written to the end that asks, a reply only if there is room for it. -/
theorem carried (h : Tie a b) {m : Message}
    (hroom : a.channel.phase = .opened → ∀ i, m.repliesTo i = true →
      a.chances b i < (a.channel.pending.contains i).toNat)
    (hanswer : m.reply = true → ∃ x ∈ b.answered, m = x.1.answerWith x.2) :
    Tie (a.carry [m]) b := by
  unfold Party.carry
  split
  · exact h
  · refine { h with matched := ?_, answers := ?_ }
    · intro hopen i
      have hmatched := h.matched hopen i
      have hone := hroom hopen i
      simp only [Party.chances, Party.coming, ← List.append_assoc, List.countP_append,
        List.countP_singleton] at hmatched hone ⊢
      cases hreplies : m.repliesTo i with
      | false => simpa using hmatched
      | true =>
        have hone := hone hreplies
        simp only [if_true]
        omega
    · intro r hr hreply
      simp only [Party.coming, ← List.append_assoc, List.mem_append, List.mem_singleton] at hr
      rcases hr with hr | rfl
      · exact h.answers r (by simpa [Party.coming, or_assoc] using hr) hreply
      · exact hanswer hreply

/-- The end that answers writes what it handed over; an answer is under way then. -/
theorem writeAnswer (h : Tie a b) {m : Message} {cs : List (Command Nat)}
    (hcommands : b.channel.commands = .send m :: cs) :
    Tie (a.carry [m])
      { b with channel := { b.channel with commands := cs }, sent := b.sent ++ [m] } := by
  have hqueued : b.queued = m :: cs.filterMap Command.message? := by
    simp [Party.queued, hcommands, Command.message?]
  refine carried ?_ (fun hopen i hreplies => ?_) fun hreply => ?_
  · refine { h with matched := ?_, answers := ?_ }
    · intro hopen i
      have hmatched := h.matched hopen i
      simp only [Party.chances, Party.coming, hqueued, List.countP_cons] at hmatched ⊢
      simp only [Party.queued]
      omega
    · intro r hr
      refine h.answers r ?_
      rw [hqueued]
      exact List.mem_cons_of_mem m hr
  · have hmatched := h.matched hopen i
    simp only [Party.chances, Party.coming, hqueued, List.countP_cons, hreplies, if_true]
      at hmatched ⊢
    simp only [Party.queued]
    omega
  · exact h.answers m (by simp [hqueued]) hreply

/-- The end that answers writes a request of its own. -/
theorem writeOwn (h : Tie a b) {m : Message} {t : Nat} {cs : List (Command Nat)} (id : UInt64)
    (pending : Table UInt64 Nat) (next : UInt64) (results : List (Nat × Answer))
    (hcommands : b.channel.commands = .request m t :: cs) (hreply : m.reply = false) :
    Tie (a.carry [numbered m id])
      { b with
        channel := { b.channel with commands := cs, nextRequest := next, pending := pending }
        sent := b.sent ++ [numbered m id]
        results := results } := by
  have hqueued : b.queued = cs.filterMap Command.message? := by
    simp [Party.queued, hcommands, List.filterMap_cons, Command.message?]
  refine carried ?_ (fun _ i hreplies => ?_) fun hreply' => ?_
  · refine { h with matched := ?_, answers := ?_ }
    · intro hopen i
      have hmatched := h.matched hopen i
      simp only [Party.chances, hqueued] at hmatched
      exact hmatched
    · intro r hr
      refine h.answers r ?_
      rw [hqueued]
      exact hr
  · simp [Message.repliesTo, numbered, hreply] at hreplies
  · simp [numbered, hreply] at hreply'

/-- Some of what is under way to the end that answers is lost. -/
theorem loseRequests (h : Tie a b) {wire inbox : List Message} (closing : Option ChannelEnding)
    (hless : (inbox ++ wire).Sublist b.coming) :
    Tie a { b with wire := wire, inbox := inbox, closing := closing } := by
  refine { h with matched := ?_, asked := fun m hm => h.asked m (hless.subset hm) }
  intro hopen i
  have hmatched := h.matched hopen i
  have hcount := hless.countP_le (p := Message.asksFor i)
  simp only [Party.chances, Party.coming, Party.queued] at hmatched hcount ⊢
  omega

/-- A step after which nothing more is owed, and nothing more handed over. -/
theorem quiet (h : Tie a b) {x : ChannelOutput Nat × ChannelEnd Nat}
    (hcommands : (x.2.commands.filterMap Command.message?).Sublist b.queued)
    (howed : x.1.events.filterMap owed? = []) : Tie a (b.emit x) := by
  have hheard : (b.emit x).heard = b.heard := by simp [Party.emit, howed]
  refine { h with matched := ?_, heard := ?_, answers := ?_ }
  · intro hopen i
    have hmatched := h.matched hopen i
    have hcount := hcommands.countP_le (p := Message.repliesTo i)
    simp only [Party.chances, hheard] at hmatched ⊢
    simp only [Party.coming, Party.queued, Party.emit] at hmatched hcount ⊢
    omega
  · rw [hheard]
    exact h.heard
  · intro r hr
    refine h.answers r ?_
    rcases List.mem_append.mp hr with hr | hr
    · exact List.mem_append_left _ (hcommands.subset hr)
    · exact List.mem_append_right _ hr

/-- A request is heard. -/
theorem hear (h : Tie a b) {m : Message} {rest : List Message} {p : Json}
    (hinbox : b.inbox = m :: rest) (hreply : m.reply = false)
    (harrives : Message.Arrives m.payload p) (hsync : m.sync = true) :
    Tie a ({ b with inbox := rest, read := b.read ++ [m] }.emit
      ({ events := [.message { m with payload := p }] }, b.channel)) := by
  have hm := Party.head_mem_coming hinbox
  have hheard : ({ b with inbox := rest, read := b.read ++ [m] }.emit
      ({ events := [.message { m with payload := p }] }, b.channel)).heard
        = b.heard ++ [{ m with payload := p }] := by
    simp [Party.emit, owed?, hsync]
  refine { h with matched := ?_, asked := ?_, heard := ?_ }
  · intro hopen i
    have hmatched := h.matched hopen i
    have hsame : Message.names i { m with payload := p } = m.asksFor i := by
      simp [Message.names, Message.asksFor, hreply]
    simp only [Party.chances, hheard, List.countP_append, List.countP_singleton, hsame]
    simp only [Party.chances, Party.coming, Party.queued, Party.emit, hinbox, List.cons_append,
      List.countP_cons] at hmatched ⊢
    omega
  · intro m' hm'
    exact h.asked m' ((Party.rest_sublist_coming hinbox).subset hm')
  · intro q hq
    rw [hheard] at hq
    simp only [List.mem_append, List.mem_singleton] at hq
    rcases hq with (hq | rfl) | hq
    · exact h.heard q (List.mem_append_left _ hq)
    · rcases h.asked m hm hreply with hnone | ⟨k, hk⟩
      · exact .inl hnone
      · exact .inr ⟨k, m, p, hk, harrives, rfl⟩
    · exact h.heard q (List.mem_append_right _ hq)

/-- **A message is read at the end that answers**, and a request may be heard there. -/
theorem takeRequest (h : Tie a b) {m : Message} {rest : List Message}
    {x : ChannelOutput Nat × ChannelEnd Nat} (hinbox : b.inbox = m :: rest)
    (htaken : Taken b.channel m x) :
    Tie a ({ b with inbox := rest, read := b.read ++ [m] }.emit x) := by
  have hless := Party.rest_sublist_coming hinbox
  have hlose : Tie a { b with inbox := rest, read := b.read ++ [m] } :=
    { h.loseRequests b.closing hless with }
  cases htaken with
  | refused event hfair howed hlasts hlost => exact hlose.quiet (.refl _) (by simp [howed])
  | stray i hreply hrequest hnone => exact hlose.quiet (.refl _) rfl
  | answered p i t hreply hrequest harrives hsome => exact hlose.quiet (.refl _) rfl
  | heard p hreply harrives =>
    by_cases hsync : m.sync = true
    · exact h.hear hinbox hreply harrives hsync
    · exact hlose.quiet (.refl _) (by simp [owed?, hsync])

/-- The end that answers is over, and what it handed over is lost. -/
theorem finishAnswers (h : Tie a b) {events : List ChannelEvent}
    (hfailed : ∀ e ∈ events, ∃ ending, e = .failed ending) :
    Tie a (b.emit (b.channel.finish events)) := by
  refine h.quiet (List.nil_sublist _) ?_
  simp only [ChannelEnd.finish, List.filterMap_eq_nil_iff]
  intro e he
  obtain ⟨ending, rfl⟩ := hfailed e he
  rfl

/-! ## 4. Every change -/

/-- Every change at the end that asks keeps the two together. -/
theorem change (h : Tie a b) {n : Nat} (hl : Ledger a n) (hfew : a.asked.length < UInt64.size)
    {x : Party × Party} (hchange : a.Change b x) : Tie x.1 x.2 := by
  cases hchange with
  | idle => exact h
  | send m hopen hreply hrequest => exact { h with }
  | ask m hopen hreply => exact { h.more m with }
  | askLate m hclosed hreply =>
    have hended : a.channel.phase = .ended := by simpa [ChannelEnd.isClosed] using hclosed
    exact (h.more m).fails [a.asked.length] hended
  | answer q before after outcome hheard hopen => exact { h with }
  | answerLate q before after outcome hheard hclosed => exact { h with }
  | write m cs hopen hcommands =>
    have hplain : m.Plain := hl.plain m (by simp [hcommands])
    exact { h.carryPlain hplain with }
  | writeRequest m t cs hopen hcommands => exact h.writeRequest hl hfew hopen hcommands
  | arrive m rest hwire hfits =>
    have hless : ((a.inbox ++ [m]) ++ rest).Sublist a.coming := by
      simp [Party.coming, hwire]
    exact { h.lose a.closing hless with }
  | cut ending hclosing =>
    have hless : (a.inbox ++ []).Sublist a.coming := by simp [Party.coming]
    exact { h.lose (some ending) hless with }
  | take m rest x hopen hinbox htaken => exact h.take hl hfew hopen hinbox htaken
  | finish events hopen hfailed hlast => exact h.finish hfailed

/-- So does every change at the end that answers. -/
theorem changeAnswers (h : Tie a b) {n : Nat} (hl : Ledger b n) {x : Party × Party}
    (hchange : b.Change a x) : Tie x.2 x.1 := by
  cases hchange with
  | idle => exact h
  | send m hopen hreply hrequest => exact h.hand fun m' hm' => by cases hm'; exact hreply
  | ask m hopen hreply =>
    have hmore : Tie a { b with asked := b.asked ++ [m] } := { h with }
    exact hmore.hand fun m' hm' => by cases hm'
  | askLate m hclosed hreply => exact { h with }
  | answer q before after outcome hheard hopen => exact h.answer hheard outcome
  | answerLate q before after outcome hheard hclosed => exact h.answerLate hheard outcome
  | write m cs hopen hcommands => exact h.writeAnswer hcommands
  | writeRequest m t cs hopen hcommands =>
    have hreply : m.reply = false :=
      hl.questions m (List.mem_of_getElem? (hl.writeRequest hopen hcommands).2.1)
    exact h.writeOwn _ _ _ _ hcommands hreply
  | arrive m rest hwire hfits =>
    have hless : ((b.inbox ++ [m]) ++ rest).Sublist b.coming := by
      simp [Party.coming, hwire]
    exact { h.loseRequests b.closing hless with }
  | cut ending hclosing =>
    have hless : (b.inbox ++ []).Sublist b.coming := by simp [Party.coming]
    exact { h.loseRequests (some ending) hless with }
  | take m rest x hopen hinbox htaken => exact h.takeRequest hinbox htaken
  | finish events hopen hfailed hlast => exact h.finishAnswers hfailed

end Tie

/-! ## 5. Runs -/

/-- **The books of two ends, and that they belong together** as long as ids are not given out
twice. -/
structure Bound (a b : Party) : Prop where
  left : ∃ n, Ledger a n
  right : ∃ n, Ledger b n
  tie : a.asked.length < UInt64.size → Tie a b
  tie' : b.asked.length < UInt64.size → Tie b a

namespace Bound

variable {a b : Party}

/-- It does not matter which end is called the first. -/
theorem symm (h : Bound a b) : Bound b a := ⟨h.right, h.left, h.tie', h.tie⟩

/-- A change adds requests at its own end only. -/
theorem asked_change {x : Party × Party} (hchange : a.Change b x) :
    a.asked.length ≤ x.1.asked.length ∧ x.2.asked = b.asked := by
  have hcarry : ∀ ms, (b.carry ms).asked = b.asked := by
    intro ms
    unfold Party.carry
    split <;> rfl
  cases hchange <;> simp [Party.hand, Party.emit, hcarry]

/-- **Every act keeps the two ends bound.** -/
theorem act (h : Bound a b) (act : Act) : Bound (a.act b act).1 (a.act b act).2 := by
  have hchange := a.change_act b act
  obtain ⟨n, hl⟩ := h.left
  obtain ⟨k, hl'⟩ := h.right
  obtain ⟨hleft, hright⟩ := hl.change hl' hchange
  obtain ⟨hasked, hasked'⟩ := asked_change hchange
  refine ⟨hleft, hright, fun hfew => ?_, fun hfew => ?_⟩
  · have hfew' : a.asked.length < UInt64.size := by omega
    exact (h.tie hfew').change hl hfew' hchange
  · exact (h.tie' (hasked' ▸ hfew)).changeAnswers hl hchange

end Bound

/-- **What an end can rely on**, `a`, whatever it and the other end have done. -/
structure Correlated (a b : Party) : Prop where
  /-- The requests are written in the order in which they were handed over, with the ids 1, 2, 3
  and so on. -/
  numbered : ∃ n ≤ a.asked.length,
    a.sent.filter Message.asks
      = (a.asked.zipIdx.take n).map (fun x => numbered x.1 (requestId x.2)) ∧
    (a.sent.filter Message.asks).map (fun m => m.request.map UInt64.toNat)
      = (List.range n).map fun k => some (k + 1)
  /-- Every request has come to something once, or it still waits once. -/
  once : (a.results.map (·.1) ++ a.channel.tickets).Perm (List.range a.asked.length)
  /-- A request comes to the answer that was built from it, unless the channel is over. -/
  settled : ∀ x ∈ a.results, a.Settled b x.1 x.2
  /-- Every reply that was read has been given to whoever waited for it. -/
  given : ∀ r ∈ a.read, r.reply = true → ∀ i p, r.request = some i →
    Message.Arrives r.payload p →
      ∃ k, i = requestId k ∧ (k, answerOf { r with payload := p }) ∈ a.results
  /-- No answer to a request is reported as one that nobody waits for. -/
  reports : ∀ e ∈ a.events, Fair e
  /-- When the end of the stream is reported, everything that had arrived was read before. -/
  last : ∀ ending, ending = .closed ∨ ending = .unreadable → .failed ending ∈ a.events →
    a.channel.phase = .ended ∧ a.inbox = []
  /-- When the channel is over, every request has come to something, and to one thing only. -/
  ended : a.channel.phase = .ended →
    (a.results.map (·.1)).Perm (List.range a.asked.length)
  /-- An end that reads bytes takes the same frames, and the end of the stream behind them. -/
  framed : a.channel.phase = .opened → ∀ tail, a.Behind tail →
    (a.reading tail).read? = a.route?.map fun x =>
      (x.1, { x.2 with
        arrived :=
          if x.2.isClosed then [] else (a.inbox.drop 1).flatMap Message.frame ++ tail
        inputOver := a.closing.isSome })

/-- The ids of the first requests. -/
theorem requests_numbered {asked : List Message} {n : Nat} (hn : n ≤ asked.length)
    (hfew : asked.length < UInt64.size) :
    ((asked.zipIdx.take n).map fun x => numbered x.1 (requestId x.2)).map
        (fun m => m.request.map UInt64.toNat)
      = (List.range n).map fun k => some (k + 1) := by
  refine List.ext_getElem (by simp [hn]) fun k hk hk' => ?_
  have hlt : k < n := by simpa using hk'
  have hid : (requestId k).toNat = k + 1 := by
    simp only [UInt64.size] at hfew
    rw [requestId, UInt64.toNat_ofNat']
    omega
  simp [numbered, hid]

/-- Two ends that are bound can rely on each other. -/
theorem Bound.correlated {a b : Party} (h : Bound a b) (hfew : a.asked.length < UInt64.size) :
    Correlated a b := by
  obtain ⟨n, hl⟩ := h.left
  have ht := h.tie hfew
  refine {
    numbered := ⟨n, hl.count, hl.wrote, hl.wrote ▸ requests_numbered hl.count hfew⟩
    once := hl.once
    settled := ht.settled
    given := ht.given
    reports := ht.reports
    last := fun ending hending hmem => ?_
    ended := fun hended => ?_
    framed := fun hopen tail htail => Party.read?_reading hopen hl.fits htail }
  · obtain ⟨hended, -, hinbox⟩ := hl.last ending hending hmem
    exact ⟨hended, hinbox⟩
  · obtain ⟨hcommands, hpending⟩ := hl.silent hended
    simpa [ChannelEnd.tickets, hcommands, hpending, Table.values, Table.empty] using hl.once

namespace Pair

/-- **Requests and answers are correlated after every run** of two ends, as long as neither has
made so many requests that the ids run out. -/
theorem correlated_run (name : String) (acts : List (Side × Act))
    (hleft : ((start name).run acts).left.asked.length < UInt64.size)
    (hright : ((start name).run acts).right.asked.length < UInt64.size) :
    Correlated ((start name).run acts).left ((start name).run acts).right ∧
      Correlated ((start name).run acts).right ((start name).run acts).left := by
  have hbound : Bound ((start name).run acts).left ((start name).run acts).right :=
    run_induction (I := Bound) Bound.symm
      ⟨⟨0, .start name⟩, ⟨0, .start name⟩, fun _ => .start name, fun _ => .start name⟩
      (fun act h => h.act act) acts
  exact ⟨hbound.correlated hleft, hbound.symm.correlated hright⟩

/-- Two requests that are answered the other way round, the second one with a refusal, while the
other end asks too and its channel breaks before it is answered. -/
def crossing : List (Side × Act) := [
  (.left, .request { address := ⟨1⟩, type := 65537 }),
  (.left, .request { address := ⟨1⟩, type := 65538 }), (.left, .write), (.left, .write),
  (.right, .request { address := ⟨2⟩, type := 65539 }), (.right, .write),
  (.right, .arrive), (.right, .arrive), (.right, .take), (.right, .take),
  (.right, .answer 1 none), (.right, .answer 0 (some (.bool true))), (.right, .write),
  (.right, .write), (.left, .arrive), (.left, .arrive), (.left, .arrive), (.left, .take),
  (.left, .take), (.left, .take), (.right, .cut false), (.right, .take), (.left, .answer 0 none)]

/-- Each of the requests comes to its own answer, and the one that is not answered to nothing. -/
theorem correlated_run_crossing :
    (Correlated ((start "c").run crossing).left ((start "c").run crossing).right ∧
      Correlated ((start "c").run crossing).right ((start "c").run crossing).left) ∧
    ((start "c").run crossing).left.results.map (fun x => (x.1, x.2.toOption.map (·.payload)))
      = [(1, none), (0, some (.bool true))] ∧
    ((start "c").run crossing).right.results.map (fun x => (x.1, x.2.toOption.map (·.payload)))
      = [(0, none)] :=
  ⟨correlated_run "c" crossing (by decide +kernel) (by decide +kernel), by decide +kernel,
    by decide +kernel⟩

/-- A request that is answered with the real nearest to `1e-24`. -/
def inexact : List (Side × Act) := [
  (.left, .request { address := ⟨1⟩, type := 65537 }), (.left, .write), (.right, .arrive),
  (.right, .take), (.right, .answer 0 (some (.number (.real ⟨false, 4247835366853742247⟩)))),
  (.right, .write), (.left, .arrive), (.left, .take)]

/-- Requests that are written as soon as they are handed over. -/
def asking : Nat → List (Side × Act)
  | 0 => []
  | n + 1 => asking n ++ [(.left, .request { address := ⟨1⟩, type := 65537 }), (.left, .write)]

/-- What an end has sent that did nothing but ask. -/
theorem sent_asking (name : String) (n : Nat) :
    ((start name).run (asking n)).left.channel.phase = .opened ∧
    ((start name).run (asking n)).left.channel.commands = [] ∧
    ((start name).run (asking n)).left.channel.nextRequest = requestId n ∧
    ((start name).run (asking n)).left.sent.map (·.request)
      = (List.range n).map fun k => some (requestId k) := by
  induction n with
  | zero => exact ⟨rfl, rfl, rfl, rfl⟩
  | succ n ih =>
    obtain ⟨hopen, hcommands, hnext, hsent⟩ := ih
    have hrun : (start name).run (asking (n + 1))
        = (((start name).run (asking n)).step
            (.left, .request { address := ⟨1⟩, type := 65537 })).step (.left, .write) := by
      simp [run, asking, List.foldl_append]
    rw [hrun]
    simp [step, Party.act, Party.ask, Party.emit, ChannelEnd.undergo, ChannelEnd.request,
      ChannelEnd.isClosed, ChannelEnd.writeNext, ChannelEnd.write?, hopen, hcommands, hnext, hsent,
      requestId_succ, numbered, List.range_succ]

/-- **The ids repeat** when an end makes more requests than there are ids. -/
theorem not_nodup_asking (name : String) {n : Nat} (hn : UInt64.size < n) :
    ¬ (((start name).run (asking n)).left.sent.map (·.request)).Nodup := by
  intro hnodup
  rw [(sent_asking name n).2.2.2] at hnodup
  have hsame : requestId 0 = requestId UInt64.size := by decide +kernel
  have hdiffer := List.pairwise_iff_getElem.mp hnodup 0 UInt64.size (by simp; omega) (by simpa)
    (by decide)
  simp only [List.getElem_map, List.getElem_range] at hdiffer
  exact hdiffer (congrArg some hsame)

/-- **Two limits of what the ends can rely on.**  An answer may come with another payload, as the
reader of messages makes the next real of the text `1e-24`; and the ids of requests repeat in the
end. -/
theorem answer_inexact_and_ids_repeat :
    (((start "c").run inexact).right.answered.map (·.2)
      = [some (.number (.real ⟨false, 4247835366853742247⟩))] ∧
    ((start "c").run inexact).left.results.map (fun x => (x.1, x.2.toOption.map (·.payload)))
      = [(0, some (.number (.real ⟨false, 4247835366853742248⟩)))]) ∧
    ¬ (((start "c").run (asking (UInt64.size + 1))).left.sent.map (·.request)).Nodup :=
  ⟨by decide +kernel, not_nodup_asking "c" (Nat.lt_succ_self _)⟩

end Pair

end ControlPlane
