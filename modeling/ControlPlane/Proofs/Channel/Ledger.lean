/-
# The books of one end

What one end of a connection keeps to by itself, whatever arrives on it.  It gives out request ids
in order, one for each request it writes, and every request that it was handed has exactly one
place: it has come to something, its reply is waited for, or it is not written yet.

* `Ledger`: all of this, for an end that has written `n` requests;
* `Ledger.writeRequest`: the next request to be written is the next one that was handed over;
* `Ledger.change`: every change at one end keeps the books of both.

Nothing here depends on what the other end does, so the ids may even run out: a request whose id
is given out again fails, and keeps its place in the books.
-/
import ControlPlane.Proofs.Channel.Pair
import ControlPlane.Proofs.Table

namespace ControlPlane

open ChannelEnd (numbered answerOf)

/-! ## 1. What an end holds -/

/-- The request of a command, with its ticket. -/
def Command.request? {τ : Type} : Command τ → Option (Message × τ)
  | .send _ => none
  | .request m t => some (m, t)

/-- The message of a command that is no request. -/
def Command.message? {τ : Type} : Command τ → Option Message
  | .send m => some m
  | .request _ _ => none

/-- Whether a message asks for a reply. -/
def Message.asks (m : Message) : Bool := !m.reply && m.request.isSome

/-- A message of a peer that is no reply names no request. -/
def Message.Plain (m : Message) : Prop := m.reply = true ∨ m.request = none

/-- **The books of an end** that has written `n` requests.  Every request it was handed has one
place: it has come to something, it is waited for, or it is not written yet. -/
structure Ledger (a : Party) (n : Nat) : Prop where
  phase : a.channel.phase = .opened ∨ a.channel.phase = .ended
  /-- Requests are no replies. -/
  questions : ∀ m ∈ a.asked, m.reply = false
  next : a.channel.nextRequest = requestId n
  /-- What was written carries the ids in order. -/
  wrote : a.sent.filter Message.asks
    = (a.asked.zipIdx.take n).map fun x => numbered x.1 (requestId x.2)
  /-- The requests that are not written yet are the later ones. -/
  waiting : a.channel.phase = .opened →
    a.channel.commands.filterMap Command.request? = a.asked.zipIdx.drop n
  plain : ∀ m, .send m ∈ a.channel.commands → m.Plain
  pending : ∀ i t, a.channel.pending.get? i = some t → t < n ∧ i = requestId t
  count : n ≤ a.asked.length
  /-- Nobody waits at an end that is over. -/
  silent : a.channel.phase = .ended → a.channel.commands = [] ∧ a.channel.pending = Table.empty
  once : (a.results.map (·.1) ++ a.channel.tickets).Perm (List.range a.asked.length)
  /-- What has arrived is not too long for a frame. -/
  fits : ∀ m ∈ a.inbox, m.bytes.length ≤ maxFrameSize
  /-- Nothing arrives behind the end of the stream. -/
  behind : a.closing.isSome → a.wire = []
  /-- The end of the stream comes behind everything that has arrived. -/
  last : ∀ ending, ending = .closed ∨ ending = .unreadable → .failed ending ∈ a.events →
    a.channel.phase = .ended ∧ a.closing.isSome ∧ a.inbox = []

namespace Ledger

/-- A new end has no requests. -/
theorem start (name : String) : Ledger (.start name) 0 where
  phase := .inl rfl
  questions := by simp [Party.start]
  next := rfl
  wrote := rfl
  waiting _ := rfl
  plain := by simp [Party.start]
  pending := by simp [Party.start]
  count := Nat.le_refl 0
  silent := by simp [Party.start]
  once := .refl _
  fits := by simp [Party.start]
  behind := by simp [Party.start]
  last := by simp [Party.start]

variable {a b : Party} {n : Nat}

/-- An end that is not over is open. -/
theorem opened (h : Ledger a n) (hopen : a.channel.isClosed = false) :
    a.channel.phase = .opened := by
  rcases h.phase with hphase | hphase
  · exact hphase
  · simp [ChannelEnd.isClosed, hphase] at hopen

/-- What is on the way to an end is not in its books. -/
theorem carry (h : Ledger a n) (ms : List Message) : Ledger (a.carry ms) n := by
  unfold Party.carry
  split
  · exact h
  · rename_i hclosing
    exact { h with behind := fun hsome => absurd hsome hclosing }

/-- A message that is no request is handed over. -/
theorem send (h : Ledger a n) {m : Message} (hopen : a.channel.isClosed = false)
    (hplain : m.Plain) : Ledger (a.hand (.send m)) n := by
  have hphase := h.opened hopen
  refine { h with waiting := fun _ => ?_, plain := ?_, silent := ?_, once := ?_ }
  · simpa [Party.hand, List.filterMap_cons, Command.request?] using h.waiting hphase
  · intro m' hm'
    rcases List.mem_append.mp hm' with hm' | hm'
    · exact h.plain m' hm'
    · cases List.mem_singleton.mp hm'
      exact hplain
  · simp [Party.hand, hphase]
  · simpa [Party.hand, ChannelEnd.tickets, List.filterMap_cons, Command.ticket?] using h.once

/-- What a request adds to the list of requests comes behind what was written. -/
theorem later (h : Ledger a n) {m : Message} (hreply : m.reply = false) :
    (∀ m' ∈ a.asked ++ [m], m'.reply = false) ∧ n ≤ (a.asked ++ [m]).length ∧
      (a.asked ++ [m]).zipIdx.take n = a.asked.zipIdx.take n ∧
      (a.asked ++ [m]).zipIdx.drop n = a.asked.zipIdx.drop n ++ [(m, a.asked.length)] := by
  have hcount : n ≤ a.asked.zipIdx.length := by simpa using h.count
  refine ⟨fun m' hm' => ?_, ?_, ?_, ?_⟩
  · rcases List.mem_append.mp hm' with hm' | hm'
    · exact h.questions m' hm'
    · exact List.mem_singleton.mp hm' ▸ hreply
  · exact Nat.le_trans h.count (by simp)
  · rw [List.zipIdx_append, List.take_append_of_le_length hcount]
  · rw [List.zipIdx_append, List.drop_append_of_le_length hcount]
    simp

/-- A request is handed over. -/
theorem ask (h : Ledger a n) {m : Message} (hopen : a.channel.isClosed = false)
    (hreply : m.reply = false) :
    Ledger ({ a with asked := a.asked ++ [m] }.hand (.request m a.asked.length)) n := by
  obtain ⟨hquestions, hcount, htake, hdrop⟩ := h.later hreply
  have hphase := h.opened hopen
  refine { h with
    questions := hquestions, wrote := htake ▸ h.wrote, count := hcount
    waiting := fun _ => ?_, plain := ?_, silent := ?_, once := ?_ }
  · have hwaiting := h.waiting hphase
    simp only [Party.hand, List.filterMap_append, hwaiting, hdrop]
    rfl
  · intro m' hm'
    rcases List.mem_append.mp hm' with hm' | hm'
    · exact h.plain m' hm'
    · cases List.mem_singleton.mp hm'
  · simp [Party.hand, hphase]
  · have honce := h.once.append_right [a.asked.length]
    simpa [Party.hand, ChannelEnd.tickets, List.filterMap_cons, Command.ticket?, List.range_succ,
      List.append_assoc] using honce

/-- A request comes too late. -/
theorem askLate (h : Ledger a n) {m : Message} (hclosed : a.channel.isClosed = true)
    (hreply : m.reply = false) :
    Ledger { a with
      asked := a.asked ++ [m]
      results := a.results ++ [(a.asked.length, .error .channelClosed)] } n := by
  obtain ⟨hquestions, hcount, htake, -⟩ := h.later hreply
  have hended : a.channel.phase = .ended := by simpa [ChannelEnd.isClosed] using hclosed
  obtain ⟨hcommands, hpending⟩ := h.silent hended
  refine { h with
    questions := hquestions, wrote := htake ▸ h.wrote, count := hcount
    waiting := ?_, once := ?_ }
  · simp [hended]
  · have honce := h.once.append_right [a.asked.length]
    simpa [ChannelEnd.tickets, hcommands, hpending, Table.values, Table.empty,
      List.range_succ] using honce

/-- **The end is over**, and whoever waited is told. -/
theorem finish (h : Ledger a n) {events : List ChannelEvent}
    (hlast : ∀ ending, ending = .closed ∨ ending = .unreadable → .failed ending ∈ events →
      a.closing.isSome ∧ a.inbox = []) : Ledger (a.emit (a.channel.finish events)) n := by
  refine { h with
    phase := .inr rfl, wrote := ?_, waiting := ?_, plain := ?_, pending := ?_, silent := ?_
    once := ?_, last := ?_ }
  · simpa [Party.emit, ChannelEnd.finish] using h.wrote
  · simp [Party.emit, ChannelEnd.finish]
  · simp [Party.emit, ChannelEnd.finish]
  · simp [Party.emit, ChannelEnd.finish]
  · exact fun _ => ⟨rfl, rfl⟩
  · simpa [Party.emit, ChannelEnd.finish, ChannelEnd.tickets, Table.values, Table.empty,
      Function.comp_def] using h.once
  · intro ending hending hmem
    rcases List.mem_append.mp hmem with hmem | hmem
    · exact ⟨rfl, (h.last ending hending hmem).2⟩
    · exact ⟨rfl, hlast ending hending hmem⟩

/-- Whoever waits for a reply is given it. -/
theorem complete (h : Ledger a n) {i : UInt64} {t : Nat} (ht : a.channel.pending.get? i = some t)
    (answer : Answer) :
    Ledger { a with
      channel := { a.channel with pending := a.channel.pending.erase i }
      results := a.results ++ [(t, answer)] } n := by
  refine { h with pending := ?_, silent := ?_, once := ?_ }
  · intro j u hu
    rw [Table.get?_erase] at hu
    split at hu
    · cases hu
    · exact h.pending j u hu
  · intro hended
    rw [(h.silent hended).2, Table.get?_empty] at ht
    cases ht
  · have hvalues := a.channel.pending.values_erase i
    rw [ht, Option.toList_some, List.singleton_append] at hvalues
    have hplaces := (hvalues.append_right
      (a.channel.commands.filterMap Command.ticket?)).append_left (a.results.map (·.1))
    simpa [ChannelEnd.tickets] using hplaces.trans h.once

/-- A message is reported. -/
theorem report (h : Ledger a n) {e : ChannelEvent} (he : ∀ ending, e ≠ .failed ending) :
    Ledger (a.emit ({ events := [e] }, a.channel)) n := by
  refine { h with wrote := ?_, once := ?_, last := ?_ }
  · simpa [Party.emit] using h.wrote
  · simpa [Party.emit] using h.once
  · intro ending hending hmem
    rcases List.mem_append.mp hmem with hmem | hmem
    · exact h.last ending hending hmem
    · exact absurd (List.mem_singleton.mp hmem).symm (he ending)

/-- A message is read. -/
theorem take (h : Ledger a n) {m : Message} {rest : List Message}
    {x : ChannelOutput Nat × ChannelEnd Nat} (hopen : a.channel.phase = .opened)
    (hinbox : a.inbox = m :: rest) (htaken : Taken a.channel m x) :
    Ledger ({ a with inbox := rest, read := a.read ++ [m] }.emit x) n := by
  have hread : Ledger { a with inbox := rest, read := a.read ++ [m] } n :=
    { h with
      fits := fun m' hm' => h.fits m' (hinbox ▸ List.mem_cons_of_mem m hm')
      last := fun ending hending hmem => by
        simp [(h.last ending hending hmem).1] at hopen }
  cases htaken with
  | refused event hfair howed hlasts hlost => exact hread.report hlasts
  | heard p hreply harrives => exact hread.report fun _ h => nomatch h
  | stray i hreply hrequest hnone => exact hread.report fun _ h => nomatch h
  | answered p i t hreply hrequest harrives hsome =>
    simpa [Party.emit] using hread.complete hsome (answerOf { m with payload := p })

/-- The next command is written, and it is no request. -/
theorem write (h : Ledger a n) {m : Message} {cs : List (Command Nat)}
    (hopen : a.channel.phase = .opened) (hcommands : a.channel.commands = .send m :: cs) :
    Ledger { a with channel := { a.channel with commands := cs }, sent := a.sent ++ [m] } n := by
  have hplain := h.plain
  have hwaiting := h.waiting hopen
  have honce := h.once
  simp only [ChannelEnd.tickets, hcommands, List.filterMap_cons, Command.request?,
    Command.ticket?] at hplain hwaiting honce
  refine { h with
    wrote := ?_, waiting := fun _ => hwaiting
    plain := fun m' hm' => hplain m' (List.mem_cons_of_mem _ hm')
    silent := by simp [hopen], once := honce }
  have hno : m.asks = false := by
    rcases hplain m (by simp) with hm | hm <;> simp [Message.asks, hm]
  simpa [hno] using h.wrote

/-- **The next command is written, and it is a request.**  It is the first one not written yet, so
its ticket is the number of those written before. -/
theorem writeRequest (h : Ledger a n) {m : Message} {t : Nat} {cs : List (Command Nat)}
    (hopen : a.channel.phase = .opened) (hcommands : a.channel.commands = .request m t :: cs) :
    t = n ∧ a.asked[n]? = some m ∧
    Ledger { a with
      channel := { a.channel with
        commands := cs
        nextRequest := a.channel.nextRequest + 1
        pending := a.channel.pending.insert a.channel.nextRequest t }
      sent := a.sent ++ [numbered m a.channel.nextRequest]
      results := a.results ++ (a.channel.pending.get? a.channel.nextRequest).toList.map
        fun u => (u, .error .channelClosed) } (n + 1) := by
  have hfirst : a.asked.zipIdx.drop n = (m, t) :: cs.filterMap Command.request? := by
    rw [← h.waiting hopen, hcommands, List.filterMap_cons]
    rfl
  have hget : a.asked.zipIdx[n]? = some (m, t) := by
    rw [← List.head?_drop, hfirst, List.head?_cons]
  obtain ⟨hasked, rfl⟩ : a.asked[n]? = some m ∧ n = t := by
    rw [List.getElem?_zipIdx, Option.map_eq_some_iff] at hget
    obtain ⟨m', hm', heq⟩ := hget
    simp only [Nat.zero_add, Prod.mk.injEq] at heq
    exact ⟨heq.1 ▸ hm', heq.2⟩
  have hreply : m.reply = false := h.questions m (List.mem_of_getElem? hasked)
  have hlt : n < a.asked.length := (List.getElem?_eq_some_iff.mp hasked).1
  refine ⟨rfl, hasked, { h with
    next := ?_, wrote := ?_, waiting := fun _ => ?_, plain := ?_, pending := ?_
    count := hlt, silent := by simp [hopen], once := ?_ }⟩
  · rw [h.next, requestId_succ]
  · rw [List.take_add_one, hget, List.map_append, ← h.wrote, List.filter_append]
    simp [Message.asks, numbered, hreply, h.next]
  · rw [← List.drop_drop, hfirst]
    rfl
  · intro m' hm'
    exact h.plain m' (hcommands ▸ List.mem_cons_of_mem _ hm')
  · intro i u hu
    rw [Table.get?_insert] at hu
    split at hu
    · rename_i hi
      cases hu
      exact ⟨Nat.lt_succ_self n, hi.trans h.next⟩
    · obtain ⟨hu, hi⟩ := h.pending i u hu
      exact ⟨Nat.lt_succ_of_lt hu, hi⟩
  · have hvalues := a.channel.pending.values_insert a.channel.nextRequest n
    have hplaces := (hvalues.append_right (cs.filterMap Command.ticket?)).trans
      List.perm_middle.symm
    have honce := (hplaces.append_left (a.results.map (·.1))).trans (by
      simpa [ChannelEnd.tickets, hcommands, List.filterMap_cons, Command.ticket?] using h.once)
    simpa [ChannelEnd.tickets, Function.comp_def] using honce

/-- **The books of both ends are kept by every change.** -/
theorem change (h : Ledger a n) {k : Nat} (h' : Ledger b k) {x : Party × Party}
    (hchange : a.Change b x) : (∃ n', Ledger x.1 n') ∧ ∃ k', Ledger x.2 k' := by
  cases hchange with
  | idle => exact ⟨⟨n, h⟩, k, h'⟩
  | send m hopen hreply hrequest => exact ⟨⟨n, h.send hopen (.inr hrequest)⟩, k, h'⟩
  | ask m hopen hreply => exact ⟨⟨n, h.ask hopen hreply⟩, k, h'⟩
  | askLate m hclosed hreply => exact ⟨⟨n, h.askLate hclosed hreply⟩, k, h'⟩
  | answer q before after outcome hheard hopen =>
    have hplain : (q.answerWith outcome).Plain := by cases outcome <;> exact .inl rfl
    exact ⟨⟨n, { h.send hopen hplain with }⟩, k, h'⟩
  | answerLate q before after outcome hheard hclosed => exact ⟨⟨n, { h with }⟩, k, h'⟩
  | write m cs hopen hcommands => exact ⟨⟨n, h.write hopen hcommands⟩, k, h'.carry _⟩
  | writeRequest m t cs hopen hcommands =>
    exact ⟨⟨n + 1, (h.writeRequest hopen hcommands).2.2⟩, k, h'.carry _⟩
  | arrive m rest hwire hfits =>
    have hmore : ¬ a.closing.isSome = true := fun hclosing => by simp [h.behind hclosing] at hwire
    refine ⟨⟨n, { h with fits := ?_, behind := ?_, last := ?_ }⟩, k, h'⟩
    · intro m' hm'
      rcases List.mem_append.mp hm' with hm' | hm'
      · exact h.fits m' hm'
      · exact List.mem_singleton.mp hm' ▸ hfits
    · exact fun hclosing => absurd hclosing hmore
    · exact fun ending hending hmem => absurd (h.last ending hending hmem).2.1 hmore
  | cut ending hclosing =>
    refine ⟨⟨n, { h with behind := fun _ => rfl, last := fun e he hmem => ?_ }⟩, k, h'⟩
    obtain ⟨hended, -, hinbox⟩ := h.last e he hmem
    exact ⟨hended, rfl, hinbox⟩
  | take m rest x hopen hinbox htaken => exact ⟨⟨n, h.take hopen hinbox htaken⟩, k, h'⟩
  | finish events hopen hfailed hlast => exact ⟨⟨n, h.finish hlast⟩, k, h'⟩

end Ledger

end ControlPlane
