/-
# Two ends of a connection

Two open ends, each of which may hand over requests, answer the ones it has heard, and read and
write whenever its surroundings let it.  What one end writes is under way to the other one as
frames, in order.  Every order of these acts is a run.

* `Party`: one end with all that is under way to it, and a record of what it has done;
* `Act`: what can happen at one end, and `Party.act`: what becomes of both.  The turns of the end
  itself are those of any end (`ChannelEnd.undergo`);
* `Pair.run`: a run from two open ends;
* `Party.Change`, `Party.change_act`: the few ways in which an act changes anything;
* `Party.read?_reading`: an end that reads bytes takes the frames in the same order as a party.

The frames that have arrived as a whole are kept apart from those under way, as the end of the
stream comes behind the former and instead of the latter.  A message under way is carried as its
text and read from there, so a reply is what the reader makes of that text.  A text that is too
long for a frame ends the stream.  A read that fails loses what has arrived and is not read yet: that
is a stream that was cut in front of it.
-/
import ControlPlane.Proofs.Channel.Turns
import ControlPlane.Proofs.Frame

namespace ControlPlane

/-! ## 1. Parties -/

/-- **The answer to a request**: a reply with a payload, or the one that says that the request was
not handled. -/
def Message.answerWith (m : Message) : Option Json → Message
  | some payload => m.replyWith payload
  | none => m.errorReply

/-- The id of a request, from how many were written before. -/
def requestId (k : Nat) : UInt64 := UInt64.ofNat (k + 1)

/-- The id of the next request. -/
theorem requestId_succ (k : Nat) : requestId k + 1 = requestId (k + 1) := by
  rw [requestId, requestId, UInt64.ofNat_add (k + 1) 1]
  rfl

/-- **One of two ends.**  The ticket of a request is the number of requests before it. -/
structure Party where
  channel : ChannelEnd Nat
  /-- What the other end has written and has not arrived yet. -/
  wire : List Message := []
  /-- What has arrived and is not read yet. -/
  inbox : List Message := []
  /-- How the stream ends behind what has arrived. -/
  closing : Option ChannelEnding := none
  /-- The messages that were read. -/
  read : List Message := []
  /-- The requests that were handed over. -/
  asked : List Message := []
  /-- What was written. -/
  sent : List Message := []
  /-- What was heard that is owed an answer. -/
  heard : List Message := []
  /-- What was answered. -/
  answered : List (Message × Option Json) := []
  /-- What the peer was told. -/
  events : List ChannelEvent := []
  /-- What the requests came to. -/
  results : List (Nat × Answer) := []

/-- What can happen at one end. -/
inductive Act where
  /-- A message that is neither a request nor a reply is handed over. -/
  | send (m : Message)
  | request (m : Message)
  /-- An answer to something that was heard is handed over. -/
  | answer (index : Nat) (outcome : Option Json)
  /-- The next command is written. -/
  | write
  /-- The next frame arrives. -/
  | arrive
  /-- The stream ends, inside a frame if `begun`. -/
  | cut (begun : Bool)
  /-- The next frame is read, or the end of the stream. -/
  | take
  | breakOutput
  | drop

namespace Party

/-- An open end, with nothing handed over yet. -/
def start (name : String) : Party := { channel := { name, phase := .opened } }

/-- Records what a step of the end gives out. -/
def emit (a : Party) (x : ChannelOutput Nat × ChannelEnd Nat) : Party :=
  { a with
    channel := x.2
    sent := a.sent ++ x.1.written
    heard := a.heard ++ x.1.events.filterMap owed?
    events := a.events ++ x.1.events
    results := a.results ++ x.1.answers }

/-- Puts messages on the way to an end, unless its stream has ended. -/
def carry (b : Party) (ms : List Message) : Party :=
  if b.closing.isSome then b else { b with wire := b.wire ++ ms }

/-- **What reading comes to**: what has arrived comes first, and then the end of the stream. -/
def route? (a : Party) : Option (ChannelOutput Nat × ChannelEnd Nat) :=
  match a.inbox, a.closing with
  | m :: _, _ => some (a.channel.takeFrame m.bytes)
  | [], some ending => some (a.channel.endInput ending)
  | [], none => none

/-! ## 2. Acts -/

/-- A request is handed over. -/
def ask (a : Party) (m : Message) : Party :=
  { a with asked := a.asked ++ [m] }.emit (a.channel.undergo (.request m a.asked.length))

/-- An answer is handed over.  Nothing is answered twice. -/
def answer (a : Party) (index : Nat) (outcome : Option Json) : Party :=
  match a.heard[index]? with
  | some q =>
    { a with
      channel := (a.channel.undergo (.send (q.answerWith outcome))).2
      heard := a.heard.eraseIdx index
      answered := a.answered ++ [(q, outcome)] }
  | none => a

/-- The stream ends, and what is still under way is lost. -/
def cut (a : Party) (ending : ChannelEnding) : Party :=
  if a.closing.isSome then a else { a with wire := [], closing := some ending }

/-- The next frame arrives.  Nothing is received behind a frame that is too long. -/
def arrive (a : Party) : Party :=
  match a.wire with
  | [] => a
  | m :: rest =>
    if maxFrameSize < m.bytes.length then a.cut .unreadable
    else { a with wire := rest, inbox := a.inbox ++ [m] }

/-- The next frame is read, or the end of the stream. -/
def take (a : Party) : Party :=
  if a.channel.phase = .opened then
    match a.route? with
    | some x => { a with inbox := a.inbox.tail, read := a.read ++ a.inbox.take 1 }.emit x
    | none => a
  else a

/-- **What an act makes of the end it happens at**, and of the other one. -/
def act (a b : Party) : Act → Party × Party
  | .send m =>
    if m.reply = false ∧ m.request = none then (a.emit (a.channel.undergo (.send m)), b) else (a, b)
  | .request m => if m.reply = false then (a.ask m, b) else (a, b)
  | .answer index outcome => (a.answer index outcome, b)
  | .write =>
    let x := a.channel.undergo .write
    (a.emit x, b.carry x.1.written)
  | .arrive => (a.arrive, b)
  | .cut begun => (a.cut (if begun then .unreadable else .closed), b)
  | .take => (a.take, b)
  | .breakOutput => (a.emit (a.channel.undergo .breakOutput), b)
  | .drop => (a.emit (a.channel.undergo .drop), b)

end Party

/-! ## 3. Changes -/

namespace Party

/-- A command is handed over. -/
def hand (a : Party) (c : Command Nat) : Party :=
  { a with channel := { a.channel with commands := a.channel.commands ++ [c] } }

/-- **Everything that an act can change**, at the end it happens at and at the other one. -/
inductive Change (a b : Party) : Party × Party → Prop
  | idle : Change a b (a, b)
  /-- A message that is neither a request nor a reply is handed over. -/
  | send (m : Message) (hopen : a.channel.isClosed = false) (hreply : m.reply = false)
      (hrequest : m.request = none) : Change a b (a.hand (.send m), b)
  | ask (m : Message) (hopen : a.channel.isClosed = false) (hreply : m.reply = false) :
      Change a b
        ({ a with asked := a.asked ++ [m] }.hand (.request m a.asked.length), b)
  /-- A request comes too late. -/
  | askLate (m : Message) (hclosed : a.channel.isClosed = true) (hreply : m.reply = false) :
      Change a b
        ({ a with
            asked := a.asked ++ [m]
            results := a.results ++ [(a.asked.length, .error .channelClosed)] }, b)
  | answer (q : Message) (before after : List Message) (outcome : Option Json)
      (hheard : a.heard = before ++ q :: after) (hopen : a.channel.isClosed = false) :
      Change a b
        ({ a with
            heard := before ++ after
            answered := a.answered ++ [(q, outcome)] }.hand (.send (q.answerWith outcome)), b)
  /-- An answer comes too late. -/
  | answerLate (q : Message) (before after : List Message) (outcome : Option Json)
      (hheard : a.heard = before ++ q :: after) (hclosed : a.channel.isClosed = true) :
      Change a b
        ({ a with heard := before ++ after, answered := a.answered ++ [(q, outcome)] }, b)
  | write (m : Message) (cs : List (Command Nat)) (hopen : a.channel.phase = .opened)
      (hcommands : a.channel.commands = .send m :: cs) :
      Change a b
        ({ a with channel := { a.channel with commands := cs }, sent := a.sent ++ [m] },
          b.carry [m])
  | writeRequest (m : Message) (t : Nat) (cs : List (Command Nat))
      (hopen : a.channel.phase = .opened) (hcommands : a.channel.commands = .request m t :: cs) :
      Change a b
        ({ a with
            channel := { a.channel with
              commands := cs
              nextRequest := a.channel.nextRequest + 1
              pending := a.channel.pending.insert a.channel.nextRequest t }
            sent := a.sent ++ [ChannelEnd.numbered m a.channel.nextRequest]
            results := a.results ++ (a.channel.pending.get? a.channel.nextRequest).toList.map
              fun u => (u, .error .channelClosed) },
          b.carry [ChannelEnd.numbered m a.channel.nextRequest])
  | arrive (m : Message) (rest : List Message) (hwire : a.wire = m :: rest)
      (hfits : m.bytes.length ≤ maxFrameSize) :
      Change a b ({ a with wire := rest, inbox := a.inbox ++ [m] }, b)
  | cut (ending : ChannelEnding) (hclosing : a.closing = none) :
      Change a b ({ a with wire := [], closing := some ending }, b)
  | take (m : Message) (rest : List Message) (x : ChannelOutput Nat × ChannelEnd Nat)
      (hopen : a.channel.phase = .opened) (hinbox : a.inbox = m :: rest)
      (htaken : Taken a.channel m x) :
      Change a b ({ a with inbox := rest, read := a.read ++ [m] }.emit x, b)
  /-- The end is over, and whoever waited is told. -/
  | finish (events : List ChannelEvent) (hopen : a.channel.isClosed = false)
      (hfailed : ∀ e ∈ events, ∃ ending, e = .failed ending)
      (hlast : ∀ ending, ending = .closed ∨ ending = .unreadable → .failed ending ∈ events →
        a.closing.isSome ∧ a.inbox = []) :
      Change a b (a.emit (a.channel.finish events), b)

/-- Nothing is recorded of a turn that changes nothing. -/
theorem emit_same (a : Party) : a.emit ({}, a.channel) = a := by simp [emit]

/-- Nothing is on the way. -/
theorem carry_nil (b : Party) : b.carry [] = b := by simp [carry]

/-- The end of a stream is a change. -/
theorem change_cut (a b : Party) (ending : ChannelEnding) : Change a b (a.cut ending, b) := by
  unfold cut
  split
  · exact .idle
  · rename_i hclosing
    exact .cut ending (by simpa using hclosing)

/-- So is an answer. -/
theorem change_answer (a b : Party) (index : Nat) (outcome : Option Json) :
    Change a b (a.answer index outcome, b) := by
  unfold answer
  cases hq : a.heard[index]? with
  | none => exact .idle
  | some q =>
    obtain ⟨hlt, hget⟩ := List.getElem?_eq_some_iff.mp hq
    have hheard : a.heard = a.heard.take index ++ q :: a.heard.drop (index + 1) := by
      rw [← hget, List.getElem_cons_drop, List.take_append_drop]
    have hsend : a.channel.undergo (.send (q.answerWith outcome)) = _ :=
      ChannelEnd.undergo_command rfl
    simp only [List.eraseIdx_eq_take_drop_succ, hsend]
    cases hclosed : a.channel.isClosed with
    | false => exact .answer q _ _ outcome hheard hclosed
    | true => exact .answerLate q _ _ outcome hheard hclosed

/-- So is what is read. -/
theorem change_take (a b : Party) : Change a b (a.take, b) := by
  unfold take
  by_cases hopen : a.channel.phase = .opened
  · rw [if_pos hopen]
    unfold route?
    cases hinbox : a.inbox with
    | cons m rest => exact .take m rest _ hopen hinbox (taken_takeFrame a.channel m)
    | nil =>
      cases hclosing : a.closing with
      | none => exact .idle
      | some ending =>
        have hend : a.channel.endInput ending = a.channel.finish [.failed ending] := by
          simp [ChannelEnd.endInput, ChannelEnd.fail, hopen]
        have hchange := Change.finish (b := b) [.failed ending]
          (ChannelEnd.isOpen_of_phase hopen) (by simp)
          fun _ _ _ => ⟨by simp [hclosing], hinbox⟩
        have hsame : { a with inbox := a.inbox.tail, read := a.read ++ a.inbox.take 1 } = a := by
          cases a
          simp_all
        rw [hinbox, hclosing] at hsame
        simp only [hend, hsame]
        exact hchange
  · rw [if_neg hopen]
    exact .idle

/-- So is what is written. -/
theorem change_write (a b : Party) : Change a b (a.act b .write) := by
  have h := a.channel.outcome_undergo .write
  simp only [Party.act]
  generalize a.channel.undergo .write = x at h ⊢
  cases h with
  | idle => simpa [emit_same, carry_nil] using Change.idle
  | wrote m cs hopen hcommands => simpa [emit] using Change.write m cs hopen hcommands
  | asked m t cs hopen hcommands => simpa [emit] using Change.writeRequest m t cs hopen hcommands
  | queued _ _ hcommand | late _ _ hcommand => cases hcommand
  | failed _ _ hfails =>
    cases hfails with
    | cut _ ht => simp at ht

/-- So is a write that fails. -/
theorem change_breakOutput (a b : Party) : Change a b (a.act b .breakOutput) := by
  have h := a.channel.outcome_undergo .breakOutput
  simp only [Party.act]
  generalize a.channel.undergo .breakOutput = x at h ⊢
  cases h with
  | idle => exact a.emit_same.symm ▸ .idle
  | queued _ _ hcommand | late _ _ hcommand => cases hcommand
  | failed _ ending hfails =>
    have hother : ending ≠ .closed ∧ ending ≠ .unreadable := by cases hfails <;> decide
    refine .finish [.failed ending] hfails.isOpen (by simp) fun e he hmem => ?_
    simp only [List.mem_singleton, ChannelEvent.failed.injEq] at hmem
    rcases he with he | he
    · exact absurd (hmem.symm.trans he) hother.1
    · exact absurd (hmem.symm.trans he) hother.2

/-- So is letting go. -/
theorem change_drop (a b : Party) : Change a b (a.act b .drop) := by
  have h := a.channel.outcome_undergo .drop
  simp only [Party.act]
  generalize a.channel.undergo .drop = x at h ⊢
  cases h with
  | idle => exact a.emit_same.symm ▸ .idle
  | dropped hopen => exact .finish [] hopen (by simp) (by simp)
  | queued _ _ hcommand | late _ _ hcommand => cases hcommand
  | failed _ _ hfails =>
    cases hfails with
    | cut _ ht => simp at ht

/-- **Every act is one of the changes.** -/
theorem change_act (a b : Party) (act : Act) : Change a b (a.act b act) := by
  cases act with
  | send m =>
    simp only [Party.act]
    split
    · rename_i hm
      have hsend : a.channel.undergo (.send m) = _ := ChannelEnd.undergo_command rfl
      rw [hsend]
      cases hclosed : a.channel.isClosed with
      | false => simpa [hand, emit] using Change.send m hclosed hm.1 hm.2
      | true => simpa [emit, Command.ticket?] using Change.idle
    · exact .idle
  | request m =>
    simp only [Party.act]
    split
    · rename_i hm
      have hrequest : a.channel.undergo (.request m a.asked.length) = _ :=
        ChannelEnd.undergo_command rfl
      rw [ask, hrequest]
      cases hclosed : a.channel.isClosed with
      | false => simpa [emit, hand] using Change.ask m hclosed hm
      | true => simpa [emit, Command.ticket?] using Change.askLate m hclosed hm
    · exact .idle
  | answer index outcome => exact a.change_answer b index outcome
  | write => exact a.change_write b
  | arrive =>
    simp only [Party.act, Party.arrive]
    cases hwire : a.wire with
    | nil => exact .idle
    | cons m rest =>
      by_cases hlong : maxFrameSize < m.bytes.length
      · simpa only [if_pos hlong] using a.change_cut b _
      · simpa only [if_neg hlong] using Change.arrive m rest hwire (by omega)
  | cut begun => exact a.change_cut b _
  | take => exact a.change_take b
  | breakOutput => exact a.change_breakOutput b
  | drop => exact a.change_drop b

end Party

/-! ## 4. Runs -/

/-- Two ends of a connection. -/
structure Pair where
  left : Party
  right : Party

/-- Where something happens. -/
inductive Side where
  | left
  | right
  deriving DecidableEq

namespace Pair

/-- Two open ends, with nothing under way. -/
def start (name : String) : Pair := ⟨.start name, .start name⟩

/-- The same two ends the other way round. -/
def swap (σ : Pair) : Pair := ⟨σ.right, σ.left⟩

/-- An act happens at one side. -/
def step (σ : Pair) : Side × Act → Pair
  | (.left, act) => let x := σ.left.act σ.right act; ⟨x.1, x.2⟩
  | (.right, act) => let x := σ.right.act σ.left act; ⟨x.2, x.1⟩

/-- **A run**: acts at either side, in any order. -/
def run (σ : Pair) (acts : List (Side × Act)) : Pair := acts.foldl step σ

/-- **What holds at the start and is kept by every act holds after every run**, if it does not
matter which end is called the first. -/
theorem run_induction {I : Party → Party → Prop} {name : String}
    (hsymm : ∀ {a b}, I a b → I b a) (hstart : I (.start name) (.start name))
    (hact : ∀ {a b} (act : Act), I a b → I (a.act b act).1 (a.act b act).2)
    (acts : List (Side × Act)) :
    I ((start name).run acts).left ((start name).run acts).right := by
  have hrun : ∀ (acts : List (Side × Act)) (σ : Pair), I σ.left σ.right →
      I (σ.run acts).left (σ.run acts).right := by
    intro acts
    induction acts with
    | nil => exact fun σ hi => hi
    | cons first rest ih =>
      intro σ hi
      obtain ⟨_ | _, act⟩ := first
      · exact ih _ (hact act hi)
      · exact ih _ (hsymm (hact act (hsymm hi)))
  exact hrun acts _ hstart

end Pair

/-! ## 5. Bytes -/

namespace Party

/-- The end of a party with its frames as bytes, and `tail` behind them. -/
def reading (a : Party) (tail : Bytes) : ChannelEnd Nat :=
  { a.channel with
    arrived := a.inbox.flatMap Message.frame ++ tail
    inputOver := a.closing.isSome }

/-- The bytes behind the last whole frame, if they go with how the stream ends. -/
def Behind (a : Party) (tail : Bytes) : Prop :=
  match Frame.next tail with
  | .frame _ _ => False
  | .partly begun => a.closing = none ∨ a.closing = some (if begun then .unreadable else .closed)
  | .tooLong _ => a.closing = some .unreadable

/-- **An end that reads bytes does what a party does**: it takes the whole frames that have
arrived one after the other, and the end of the stream behind them. -/
theorem read?_reading {a : Party} (hopen : a.channel.phase = .opened)
    (hfits : ∀ m ∈ a.inbox, m.bytes.length ≤ maxFrameSize) {tail : Bytes}
    (htail : a.Behind tail) :
    (a.reading tail).read? = a.route?.map fun x =>
      (x.1, { x.2 with
        arrived :=
          if x.2.isClosed then [] else (a.inbox.drop 1).flatMap Message.frame ++ tail
        inputOver := a.closing.isSome }) := by
  cases hinbox : a.inbox with
  | cons m rest =>
    have hnext : Frame.next (a.reading tail).arrived
        = .frame m.bytes (rest.flatMap Message.frame ++ tail) := by
      have hfit := hfits m (by simp [hinbox])
      have harrived : (a.reading tail).arrived
          = Frame.encode m.bytes ++ (rest.flatMap Message.frame ++ tail) := by
        simp [reading, hinbox, Message.frame]
      rw [harrived, Frame.next_encode hfit]
    have hstill : (a.channel.takeFrame m.bytes).2.isClosed = false := by
      simp [ChannelEnd.isClosed, ChannelEnd.phase_takeFrame, hopen]
    have htake := a.channel.takeFrame_arrived m.bytes (rest.flatMap Message.frame ++ tail)
      a.closing.isSome
    have hphase : (a.reading tail).phase = .opened := hopen
    have hrest : { a.reading tail with arrived := rest.flatMap Message.frame ++ tail }
        = { a.channel with
            arrived := rest.flatMap Message.frame ++ tail, inputOver := a.closing.isSome } := rfl
    rw [ChannelEnd.read?_frame hphase hnext, hrest, htake]
    simp only [route?, hinbox, Option.map_some, hstill, Bool.false_eq_true, if_false,
      List.drop_one, List.tail_cons]
  | nil =>
    have hphase : (a.reading tail).phase = .opened := hopen
    have harrived : (a.reading tail).arrived = tail := by simp [reading, hinbox]
    have hclosing : (a.reading tail).inputOver = a.closing.isSome := rfl
    simp only [ChannelEnd.read?, hphase, harrived, hclosing, route?, hinbox]
    unfold Behind at htail
    cases hnext : Frame.next tail with
    | frame payload rest =>
      rw [hnext] at htail
      exact htail.elim
    | partly begun =>
      rw [hnext] at htail
      rcases htail with hnone | hsome
      · simp [hnone]
      · simp [hsome, ChannelEnd.endInput, ChannelEnd.fail, ChannelEnd.finish, reading,
          ChannelEnd.tickets, ChannelEnd.isClosed, hopen]
    | tooLong n =>
      rw [hnext] at htail
      have hsome : a.closing = some .unreadable := htail
      simp [hsome, ChannelEnd.endInput, ChannelEnd.fail, ChannelEnd.finish, reading,
        ChannelEnd.tickets, ChannelEnd.isClosed, hopen]

end Party

end ControlPlane
