/-
# What a client has handed over and written

A client's end writes what it was handed, one command after the other.  The requests among them are
numbered, and whoever waits for a reply waits under the number of the request.

* `Command.written`, `writtenFrom`: commands as they are written;
* `Link.Books`: what was handed over is written or queued, in its order, and whoever waits handed
  over a request that was written;
* `Link.Change.books`: every change keeps the books;
* `Link.Genuine`, `Link.Books.ticket_le`: as long as there are enough numbers, and nobody makes one
  up, no message before a request carries its number.
-/
import ControlPlane.Proofs.Channel.Correlation
import ControlPlane.Proofs.Link.System

namespace ControlPlane

open ChannelEnd (numbered Outcome)

/-! ## 1. Commands as they are written -/

/-- The number of requests among some commands. -/
def asked (cs : List (Command Nat)) : Nat := cs.countP (·.ticket?.isSome)

/-- A command as it is written behind `n` requests. -/
def Command.written (n : Nat) : Command Nat → Message
  | .send m => m
  | .request m _ => numbered m (requestId n)

/-- **Commands as they are written** behind `n` requests. -/
def writtenFrom (n : Nat) : List (Command Nat) → List Message
  | [] => []
  | c :: cs => c.written n :: writtenFrom (n + asked [c]) cs

/-- First some commands and then others. -/
theorem asked_append (cs ds : List (Command Nat)) : asked (cs ++ ds) = asked cs + asked ds :=
  List.countP_append

/-- What is written first does not depend on what follows. -/
theorem writtenFrom_append (n : Nat) (cs ds : List (Command Nat)) :
    writtenFrom n (cs ++ ds) = writtenFrom n cs ++ writtenFrom (n + asked cs) ds := by
  induction cs generalizing n with
  | nil => rfl
  | cons c cs ih =>
    have hsplit : asked (c :: cs) = asked [c] + asked cs := asked_append [c] cs
    rw [List.cons_append, writtenFrom, ih, hsplit, Nat.add_assoc]
    rfl

/-- One message is written for each command. -/
theorem getElem?_writtenFrom (n : Nat) (cs : List (Command Nat)) (j : Nat) :
    (writtenFrom n cs)[j]? = cs[j]?.map (·.written (n + asked (cs.take j))) := by
  induction cs generalizing n j with
  | nil => rfl
  | cons c cs ih =>
    cases j with
    | zero => rfl
    | succ j =>
      have hsplit : asked ((c :: cs).take (j + 1)) = asked [c] + asked (cs.take j) :=
        asked_append [c] (cs.take j)
      rw [writtenFrom, List.getElem?_cons_succ, ih, List.getElem?_cons_succ, hsplit,
        Nat.add_assoc]

/-- There are as many messages as commands. -/
theorem length_writtenFrom (n : Nat) (cs : List (Command Nat)) :
    (writtenFrom n cs).length = cs.length := by
  induction cs generalizing n with
  | nil => rfl
  | cons c cs ih => rw [writtenFrom, List.length_cons, List.length_cons, ih]

/-- The first messages are those of the first commands. -/
theorem writtenFrom_take (n : Nat) (cs : List (Command Nat)) (j : Nat) :
    (writtenFrom n cs).take j = writtenFrom n (cs.take j) := by
  induction cs generalizing n j with
  | nil => simp [writtenFrom]
  | cons c cs ih =>
    cases j with
    | zero => rfl
    | succ j => simp only [writtenFrom, List.take_succ_cons, ih]

/-- Where a request stands there is one request more behind it. -/
theorem asked_take_succ {cs : List (Command Nat)} {j : Nat} {m : Message} {t : Nat}
    (hj : cs[j]? = some (.request m t)) : asked (cs.take (j + 1)) = asked (cs.take j) + 1 := by
  obtain ⟨hlt, hget⟩ := List.getElem?_eq_some_iff.mp hj
  rw [List.take_succ_eq_append_getElem hlt, asked_append, hget]
  rfl

/-- Fewer commands have fewer requests. -/
theorem asked_take_mono (cs : List (Command Nat)) {j k : Nat} (h : j ≤ k) :
    asked (cs.take j) ≤ asked (cs.take k) := by
  have hprefix : cs.take j <+: cs.take k := List.take_prefix_take_left h
  exact hprefix.sublist.countP_le

/-- What comes next in a list, and what is there before and after it. -/
theorem next_of_drop {α : Type} {xs rest : List α} {x : α} {k : Nat} (h : xs.drop k = x :: rest) :
    xs[k]? = some x ∧ xs.drop (k + 1) = rest ∧ xs.take (k + 1) = xs.take k ++ [x] := by
  have hlt : k < xs.length := by
    rcases Nat.lt_or_ge k xs.length with hlt | hge
    · exact hlt
    · rw [List.drop_eq_nil_of_le hge] at h
      cases h
  rw [List.drop_eq_getElem_cons hlt, List.cons.injEq] at h
  obtain ⟨hget, hrest⟩ := h
  refine ⟨hget ▸ List.getElem?_eq_getElem hlt, hrest, ?_⟩
  rw [List.take_succ_eq_append_getElem hlt, hget]

namespace Link

variable {A : Type} {l : Link A} {k : Nat}

/-! ## 2. The books of a client -/

/-- **The client's channel is at work**: it has written the first `k` commands. -/
structure Working (l : Link A) (k : Nat) : Prop where
  /-- The hello was written before. -/
  greeted : l.sent ≠ []
  /-- The other commands wait. -/
  commands : l.client.channel.commands = l.handed.drop k
  next : l.client.channel.nextRequest = requestId (asked (l.handed.take k))
  /-- Whoever waits handed over a request that was written with this number. -/
  pending : ∀ i t, l.client.channel.pending.get? i = some t →
    t < k ∧ (∃ m, l.handed[t]? = some (.request m t)) ∧ i = requestId (asked (l.handed.take t))

/-- **The books of a client**: its end has written the first `k` of its commands. -/
structure Books (l : Link A) (k : Nat) : Prop where
  count : k ≤ l.handed.length
  begun : l.client.channel.phase ≠ .listening
  working : l.client.channel.isClosed = false → l.Working k
  /-- Behind the hello it has written the commands in their order. -/
  wrote : l.sent.tail = writtenFrom 0 (l.handed.take k)
  /-- The ticket of a request is its place. -/
  tickets : ∀ (j : Nat) (m : Message) (t : Nat), l.handed[j]? = some (Command.request m t) → t = j

/-- **What has not to do with the client leaves its books alone.** -/
theorem Books.of_same (h : l.Books k) {l' : Link A} (hclient : l'.client = l.client)
    (hhanded : l'.handed = l.handed) (hsent : l'.sent = l.sent) : l'.Books k where
  count := hhanded ▸ h.count
  begun := hclient ▸ h.begun
  working hopen := by
    have hw := h.working (hclient ▸ hopen)
    exact
      { greeted := hsent ▸ hw.greeted
        commands := by rw [hclient, hhanded]; exact hw.commands
        next := by rw [hclient, hhanded]; exact hw.next
        pending := by rw [hclient, hhanded]; exact hw.pending }
  wrote := by rw [hsent, hhanded]; exact h.wrote
  tickets := hhanded ▸ h.tickets

/-- A channel at work takes commands. -/
theorem Working.hands (h : l.Working k) (hcount : k ≤ l.handed.length) {p : ClientPeer A Nat}
    {cs : List (Command Nat)} (hopen : l.client.channel.isClosed = false)
    (hands : Hands l.client p cs) : (l.hands p).Working k := by
  have hhanded : (l.hands p).handed = l.handed ++ cs := by
    rw [l.handed_hands hands, hopen]
    rfl
  have hchannel : p.channel
      = { l.client.channel with commands := l.client.channel.commands ++ cs } := by
    rw [show p.channel = l.client.channel.enqueue cs from hands, ChannelEnd.enqueue, hopen]
    rfl
  have htake : ∀ j ≤ k, (l.hands p).handed.take j = l.handed.take j := fun j hj => by
    rw [hhanded, List.take_append_of_le_length (Nat.le_trans hj hcount)]
  refine { greeted := h.greeted, commands := ?_, next := ?_, pending := fun i t hi => ?_ }
  · show p.channel.commands = _
    rw [hchannel, hhanded, List.drop_append_of_le_length hcount, ← h.commands]
  · show p.channel.nextRequest = _
    rw [hchannel, htake k (Nat.le_refl k)]
    exact h.next
  · have hpending : p.channel.pending = l.client.channel.pending := by rw [hchannel]
    obtain ⟨hlt, ⟨m, hm⟩, hid⟩ := h.pending i t (hpending ▸ hi)
    refine ⟨hlt, ⟨m, ?_⟩, ?_⟩
    · rw [hhanded, List.getElem?_append_left (Nat.lt_of_lt_of_le hlt hcount), hm]
    · rw [htake t (Nat.le_of_lt hlt)]
      exact hid

/-- **Commands are handed over**: their requests have their places for tickets. -/
theorem Books.hands (h : l.Books k) {p : ClientPeer A Nat} {cs : List (Command Nat)}
    (hands : Hands l.client p cs)
    (htickets : ∀ j m t, cs[j]? = some (.request m t) → t = l.handed.length + j) :
    (l.hands p).Books k := by
  have hhanded := l.handed_hands hands
  have hchannel : p.channel = l.client.channel.enqueue cs := hands
  have hclosed : p.channel.isClosed = l.client.channel.isClosed := by simp [hchannel]
  refine
    { count := ?_, begun := ?_, working := fun hopen => ?_, wrote := ?_
      tickets := fun j m t hj => ?_ }
  · rw [hhanded, List.length_append]
    exact Nat.le_trans h.count (Nat.le_add_right _ _)
  · show p.channel.phase ≠ .listening
    rw [hchannel, ChannelEnd.enqueue]
    split <;> exact h.begun
  · have hbefore : l.client.channel.isClosed = false := hclosed ▸ hopen
    exact (h.working hbefore).hands h.count hbefore hands
  · show l.sent.tail = _
    rw [hhanded, List.take_append_of_le_length h.count]
    exact h.wrote
  · rw [hhanded] at hj
    rcases Nat.lt_or_ge j l.handed.length with hlt | hge
    · rw [List.getElem?_append_left hlt] at hj
      exact h.tickets j m t hj
    · rw [List.getElem?_append_right hge] at hj
      cases hover : l.client.channel.isClosed with
      | true => simp [hover] at hj
      | false =>
        rw [hover, if_neg Bool.false_ne_true] at hj
        have := htickets _ m t hj
        omega

/-- **The next command is written.** -/
theorem Books.write (h : l.Books k) {c : Command Nat} {cs : List (Command Nat)} {m : Message}
    {e : ChannelEnd Nat} {x : ChannelOutput Nat} {left : Bytes}
    (hopen : l.client.channel.isClosed = false) (hcommands : l.client.channel.commands = c :: cs)
    (hwritten : m = c.written (asked (l.handed.take k)))
    (hx : x.written = [m]) (hphase : e.phase = l.client.channel.phase) (he : e.commands = cs)
    (hnext : e.nextRequest = requestId (asked (l.handed.take k) + asked [c]))
    (hpending : ∀ i t, e.pending.get? i = some t → l.client.channel.pending.get? i = some t ∨
      (∃ m, c = .request m t) ∧ i = requestId (asked (l.handed.take k))) :
    (l.afterClient (x, e) left).Books (k + 1) := by
  have hw := h.working hopen
  obtain ⟨hget, hrest, htake⟩ := next_of_drop (hw.commands.symm.trans hcommands)
  have hlt : k < l.handed.length := (List.getElem?_eq_some_iff.mp hget).1
  have hsent : (l.afterClient (x, e) left).sent = l.sent ++ [m] := by
    simp [afterClient, hx]
  refine
    { count := hlt, begun := ?_, working := fun _ => ?_, wrote := ?_, tickets := h.tickets }
  · show e.phase ≠ .listening
    rw [hphase]
    exact h.begun
  · refine { greeted := ?_, commands := ?_, next := ?_, pending := ?_ }
    · rw [hsent]
      simp
    · exact he.trans hrest.symm
    · show e.nextRequest = requestId (asked (l.handed.take (k + 1)))
      rw [htake, asked_append]
      exact hnext
    · intro i t hi
      rcases hpending i t hi with hold | ⟨⟨m', hc⟩, hi⟩
      · obtain ⟨ht, hm', hid⟩ := hw.pending i t hold
        exact ⟨Nat.lt_succ_of_lt ht, hm', hid⟩
      · have hk : l.handed[k]? = some (.request m' t) := hc ▸ hget
        obtain rfl := h.tickets k m' t hk
        exact ⟨Nat.lt_succ_self t, ⟨m', hk⟩, hi⟩
  · rw [hsent, List.tail_append_of_ne_nil hw.greeted, h.wrote]
    show _ = writtenFrom 0 (l.handed.take (k + 1))
    rw [htake, writtenFrom_append, hwritten, Nat.zero_add]
    rfl

/-- The client's end reads, or nothing happens there. -/
theorem Books.read (h : l.Books k) {e : ChannelEnd Nat} {x : ChannelOutput Nat} {left : Bytes}
    (hx : x.written = []) (hphase : e.phase ≠ .listening)
    (hclosed : e.isClosed = false → l.client.channel.isClosed = false)
    (hcommands : e.commands = l.client.channel.commands)
    (hnext : e.nextRequest = l.client.channel.nextRequest)
    (hpending : ∀ i t, e.pending.get? i = some t → l.client.channel.pending.get? i = some t) :
    (l.afterClient (x, e) left).Books k := by
  have hsent : (l.afterClient (x, e) left).sent = l.sent := by simp [afterClient, hx]
  refine
    { count := h.count, begun := hphase, working := fun hopen => ?_, wrote := ?_
      tickets := h.tickets }
  · have hw := h.working (hclosed hopen)
    exact
      { greeted := hsent ▸ hw.greeted
        commands := hcommands.trans hw.commands
        next := hnext.trans hw.next
        pending := fun i t hi => hw.pending i t (hpending i t hi) }
  · rw [hsent]
    exact h.wrote

/-- The client's end is over. -/
theorem Books.ended (h : l.Books k) (events : List ChannelEvent) (left : Bytes) :
    (l.afterClient (l.client.channel.finish events) left).Books k := by
  have hsent : (l.afterClient (l.client.channel.finish events) left).sent = l.sent :=
    List.append_nil _
  exact
    { count := h.count, begun := nofun, working := nofun, wrote := hsent ▸ h.wrote
      tickets := h.tickets }

/-- **A turn of the client's end keeps the books.** -/
theorem Books.turn (h : l.Books k) {u : EndTurn Nat} {x : ChannelOutput Nat × ChannelEnd Nat}
    (hcommand : u.command? = none) (houtcome : l.client.channel.Outcome u x) (left : Bytes) :
    ∃ k', (l.afterClient x left).Books k' := by
  cases houtcome with
  | idle | arrived | inputOver =>
    exact ⟨k, h.read rfl h.begun (fun hopen => hopen) rfl rfl fun _ _ hi => hi⟩
  | accepted pid hphase => exact absurd hphase h.begun
  | queued t c hsome | late t c hsome => cases hcommand.symm.trans hsome
  | greeted pid hello rest hphase =>
    exact ⟨k, h.read rfl (by simp) (fun _ => ChannelEnd.isOpen_of_phase hphase) rfl rfl
      fun _ _ hi => hi⟩
  | taken payload rest hphase =>
    obtain ⟨hsilent, hcommands, hnext, hpending⟩ :=
      ChannelEnd.takeFrame_keeps { l.client.channel with arrived := rest } payload
    have hstill := ChannelEnd.phase_takeFrame { l.client.channel with arrived := rest } payload
    refine ⟨k, h.read hsilent (fun hnew => h.begun (hstill.symm.trans hnew)) ?_ hcommands hnext
      hpending⟩
    exact fun _ => ChannelEnd.isOpen_of_phase hphase
  | wrote m cs hphase hcommands =>
    have hopen : l.client.channel.isClosed = false := ChannelEnd.isOpen_of_phase hphase
    exact ⟨k + 1, h.write hopen hcommands rfl rfl rfl rfl (h.working hopen).next
      fun _ _ hi => .inl hi⟩
  | asked m t cs hphase hcommands =>
    have hopen : l.client.channel.isClosed = false := ChannelEnd.isOpen_of_phase hphase
    have hnext := (h.working hopen).next
    refine ⟨k + 1, h.write hopen hcommands ?_ rfl rfl rfl ?_ fun i u hi => ?_⟩
    · rw [hnext]
      rfl
    · show l.client.channel.nextRequest + 1 = _
      rw [hnext]
      exact requestId_succ _
    · simp only [Table.get?_insert] at hi
      split at hi
      · next heq =>
        injection hi with hi
        exact .inr ⟨⟨m, by rw [hi]⟩, heq.trans hnext⟩
      · exact .inl hi
  | failed t ending => exact ⟨k, h.ended [.failed ending] left⟩
  | dropped => exact ⟨k, h.ended [] left⟩

/-- **Every change keeps the books.** -/
theorem Change.books {l' : Link A} (hc : l.Change l') (h : l.Books k) : ∃ k', l'.Books k' := by
  cases hc with
  | sent p ms hands =>
    refine ⟨k, h.hands hands fun j m t hj => ?_⟩
    obtain ⟨m', -, hm'⟩ := Option.map_eq_some_iff.mp (List.getElem?_map .. ▸ hj)
    cases hm'
  | asked p m hopen hands =>
    refine ⟨k, h.hands hands fun j m' t hj => ?_⟩
    cases j with
    | zero =>
      simp only [List.getElem?_cons_zero, Option.some.injEq, Command.request.injEq] at hj
      exact hj.2.symm
    | succ j => simp at hj
  | askedLate t hclosed => exact ⟨k, h.of_same rfl rfl rfl⟩
  | client t hcommand =>
    exact h.turn ((t.command?_taking _).trans hcommand) (ChannelEnd.outcome_undergo _ _) _
  | host t => exact ⟨k, h.of_same rfl rfl rfl⟩
  | told m => exact ⟨k, h.of_same rfl rfl rfl⟩
  | done d hd => exact ⟨k, h.of_same rfl rfl rfl⟩

/-- A client that has just connected has handed over nothing. -/
theorem books_start (config : HostConfig) (prior : List Host.Deed) (id : PeerId) (token : Token)
    (pid : UInt32) : (start config prior id token pid : Link A).Books 0 := by
  rw [start_eq]
  exact
    { count := Nat.le_refl 0, begun := nofun
      working := fun _ => { greeted := by simp, commands := rfl, next := rfl, pending := nofun }
      wrote := rfl, tickets := nofun }

/-! ## 3. Numbers -/

/-- **The number of a request with the ticket `t` cannot be mistaken.**  The client's channel gives
the numbers out, and the host's peer gives them back. -/
structure Genuine (l : Link A) (t : Nat) : Prop where
  /-- What the client has sent before is no request with a number of its own. -/
  client : ∀ m, .send m ∈ l.handed.take t → m.reply = false → m.request = none
  /-- There were enough numbers. -/
  few : asked (l.handed.take t) + 1 < UInt64.size
  /-- What the host's application has handed over is no reply to a request. -/
  host : ∀ m ∈ l.spoken, m.reply = true → m.request = none

/-- **No message before a request carries its number**, if it cannot be mistaken. -/
theorem Books.ticket_le (h : l.Books k) {j t : Nat} (hgenuine : l.Genuine t) {w : Message}
    {i : UInt64} (hw : l.sent.tail[j]? = some w) (hreply : w.reply = false)
    (hrequest : w.request = some i) (hi : i = requestId (asked (l.handed.take t))) : t ≤ j := by
  rw [h.wrote, getElem?_writtenFrom, Option.map_eq_some_iff] at hw
  obtain ⟨c, hc, hwritten⟩ := hw
  have hjk : j < k := by
    have hlt := (List.getElem?_eq_some_iff.mp hc).1
    rw [List.length_take] at hlt
    omega
  have hc : l.handed[j]? = some c := by rwa [List.getElem?_take_of_lt hjk] at hc
  have htake : (l.handed.take k).take j = l.handed.take j := by
    rw [List.take_take, Nat.min_eq_left (Nat.le_of_lt hjk)]
  rw [htake, Nat.zero_add] at hwritten
  rcases Nat.lt_or_ge j t with hlt | hge
  · have hearlier : (l.handed.take t)[j]? = some c := by
      rw [List.getElem?_take_of_lt hlt, hc]
    cases c with
    | send m' =>
      have hw' : m' = w := hwritten
      subst hw'
      have hnone := hgenuine.client m' (List.mem_of_getElem? hearlier) hreply
      exact nomatch hnone.symm.trans hrequest
    | request m' t' =>
      have hid : w.request = some (requestId (asked (l.handed.take j))) := by
        rw [← hwritten]
        rfl
      rw [hrequest, hi, Option.some.injEq] at hid
      -- the earlier request has fewer before it, and there are numbers for both counts
      have hsucc := asked_take_succ hc
      have hmono := asked_take_mono l.handed (j := j + 1) hlt
      have hsame := requestId_inj (l := asked (l.handed.take t) + 1) (by omega) (by omega)
        hgenuine.few hid
      omega
  · exact hge

end Link

end ControlPlane
