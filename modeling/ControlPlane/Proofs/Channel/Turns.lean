/-
# What can happen at an end of a channel

An end moves when its peer hands it something, when bytes arrive, when it reads or writes, and when
something becomes of its connection.  Here is said once for all of these what a turn of an end can
come to; whoever follows an end in a larger system asks no more of it than this.

* `ChannelTurn`: what can happen at an end.  Bytes arrive as such (`EndTurn`), or as the next ones of
  those under way (`WireTurn`);
* `ChannelEnd.undergo`: what happens then;
* `ChannelEnd.Concluded`, `ChannelEnd.Fails`: why an end can be over;
* `ChannelEnd.Outcome`, `ChannelEnd.outcome_undergo`: all that a turn can come to.
-/
import ControlPlane.Proofs.Channel.End

namespace ControlPlane

/-! ## 1. Turns -/

/-- **What can happen at an end of a channel**, where `β` is what can arrive. -/
inductive ChannelTurn (β τ : Type) where
  /-- The other end connects. -/
  | accept (pid : UInt32)
  /-- No connection can be taken from the socket. -/
  | refuse
  | arrive (b : β)
  /-- Nothing more will arrive. -/
  | closeInput
  /-- The other end's hello does not come in time. -/
  | expire
  /-- A read from the connection fails. -/
  | breakInput
  /-- A write to the connection fails. -/
  | breakOutput
  /-- The peer lets go of the end. -/
  | drop
  | send (m : Message)
  | request (m : Message) (ticket : τ)
  /-- The next frame is read, or the end of the input. -/
  | read
  /-- The next command is written. -/
  | write

/-- What can happen at an end, with the bytes that arrive. -/
abbrev EndTurn (τ : Type) := ChannelTurn Bytes τ

/-- What can happen at an end to which bytes are under way: the next `n` of them arrive. -/
abbrev WireTurn (τ : Type) := ChannelTurn Nat τ

namespace ChannelTurn

variable {β τ : Type}

/-- What the peer hands over. -/
def command? : ChannelTurn β τ → Option (Command τ)
  | .send m => some (.send m)
  | .request m ticket => some (.request m ticket)
  | _ => none

/-- The bytes that arrive. -/
def bytes : EndTurn τ → Bytes
  | .arrive bs => bs
  | _ => []

/-- Something is handed over or written. -/
def speaks : ChannelTurn β τ → Bool
  | .send _ | .request _ _ | .write => true
  | _ => false

/-- The surroundings cut the channel short. -/
def cuts : ChannelTurn β τ → Bool
  | .expire | .breakInput | .breakOutput | .drop => true
  | _ => false

/-- The turn as it happens with these bytes under way. -/
def taking (wire : Bytes) : WireTurn τ → EndTurn τ
  | .accept pid => .accept pid
  | .refuse => .refuse
  | .arrive n => .arrive (wire.take n)
  | .closeInput => .closeInput
  | .expire => .expire
  | .breakInput => .breakInput
  | .breakOutput => .breakOutput
  | .drop => .drop
  | .send m => .send m
  | .request m ticket => .request m ticket
  | .read => .read
  | .write => .write

/-- The bytes that are still under way then. -/
def left (wire : Bytes) : WireTurn τ → Bytes
  | .arrive n => wire.drop n
  | _ => wire

/-- **Bytes arrive in their order**, and none is lost on the way. -/
theorem bytes_taking (t : WireTurn τ) (wire : Bytes) :
    (t.taking wire).bytes ++ t.left wire = wire := by
  cases t with
  | arrive n => exact List.take_append_drop n wire
  | _ => rfl

/-- When the peer hands something over, nothing arrives, is read or is cut short. -/
theorem of_command {t : EndTurn τ} {c : Command τ} (h : t.command? = some c) :
    t.bytes = [] ∧ t ≠ .read ∧ t.cuts = false := by
  cases t with
  | send | request => exact ⟨rfl, nofun, rfl⟩
  | _ => cases h

/-- What the peer hands over has nothing to do with what is under way. -/
theorem command?_taking (t : WireTurn τ) (wire : Bytes) : (t.taking wire).command? = t.command? := by
  cases t <;> rfl

end ChannelTurn

namespace ChannelEnd

variable {τ : Type}

/-- **What happens at an end.** -/
def undergo (e : ChannelEnd τ) : EndTurn τ → ChannelOutput τ × ChannelEnd τ
  | .accept pid => e.accept pid
  | .refuse => e.refuse
  | .arrive bs => ({}, e.arrive bs)
  | .closeInput => ({}, e.closeInput)
  | .expire => e.expire
  | .breakInput => e.breakInput
  | .breakOutput => e.breakOutput
  | .drop => e.drop
  | .send m => ({}, (e.send m).2)
  | .request m ticket => e.request m ticket
  | .read => e.readNext
  | .write => e.writeNext

/-! ## 2. How an end can be over -/

/-- **What has arrived can be told apart**: a whole frame, a length that is not accepted, or the end
of the input. -/
def Decided (e : ChannelEnd τ) : Prop :=
  (∃ payload rest, Frame.next e.arrived = .frame payload rest) ∨
    (∃ n, Frame.next e.arrived = .tooLong n) ∨ e.inputOver = true

/-- **What has arrived has come to its end**: no whole frame is left of it, and none will be. -/
inductive Concluded (e : ChannelEnd τ) : ChannelEnding → Prop
  /-- A length is not accepted. -/
  | tooLong (n : Nat) (hnext : Frame.next e.arrived = .tooLong n) : Concluded e .unreadable
  /-- The input is over inside a payload. -/
  | inside (hnext : Frame.next e.arrived = .partly true) (hover : e.inputOver = true) :
      Concluded e .unreadable
  /-- It is over between two frames, or inside a length. -/
  | between (hnext : Frame.next e.arrived = .partly false) (hover : e.inputOver = true) :
      Concluded e .closed

/-- **The ways in which an end fails.**  While it awaits the hello, whatever is wrong is a handshake
that has failed. -/
inductive Fails (e : ChannelEnd τ) : EndTurn τ → ChannelEnding → Prop
  /-- There is no connection. -/
  | refused (hphase : e.phase = .listening) : Fails e .refuse .unreadable
  /-- The hello is late, or the connection fails before it. -/
  | cut (t : EndTurn τ) (ht : t = .expire ∨ t = .breakInput ∨ t = .breakOutput)
      (hphase : e.phase = .greeting) : Fails e t .noHandshake
  /-- What is read first is not the hello. -/
  | unfit (hello rest : Bytes) (fault : Fault) (hphase : e.phase = .greeting)
      (hnext : Frame.next e.arrived = .frame hello rest)
      (hcheck : Handshake.check e.name hello = .error fault) : Fails e .read .noHandshake
  /-- There is no hello in what has arrived. -/
  | missing (ending : ChannelEnding) (hphase : e.phase = .greeting)
      (hends : Concluded e ending) : Fails e .read .noHandshake
  | unreadable (hphase : e.phase = .opened) : Fails e .breakInput .unreadable
  | unwritable (hphase : e.phase = .opened) : Fails e .breakOutput .unwritable
  | ended (ending : ChannelEnding) (hphase : e.phase = .opened) (hends : Concluded e ending) :
      Fails e .read ending

/-! ## 3. What a turn comes to -/

/-- **All that a turn of an end can come to.** -/
inductive Outcome (e : ChannelEnd τ) : EndTurn τ → ChannelOutput τ × ChannelEnd τ → Prop
  /-- Nothing.  Bytes are lost only on a channel that is over, and nothing is left unread that can be
  told apart. -/
  | idle (t : EndTurn τ) (hcommand : t.command? = none)
      (hbytes : e.isClosed = false → t.bytes = [])
      (hread : t = .read → e.phase = .greeting ∨ e.phase = .opened → ¬ e.Decided) :
      Outcome e t ({}, e)
  /-- The other end has connected, and is told hello. -/
  | accepted (pid : UInt32) (hphase : e.phase = .listening) :
      Outcome e (.accept pid)
        ({ written := [Handshake.greeting pid e.name] }, { e with phase := .greeting })
  | arrived (bs : Bytes) (hopen : e.isClosed = false) :
      Outcome e (.arrive bs) ({}, { e with arrived := e.arrived ++ bs })
  | inputOver : Outcome e .closeInput ({}, { e with inputOver := true })
  /-- A command joins the others. -/
  | queued (t : EndTurn τ) (c : Command τ) (hcommand : t.command? = some c)
      (hopen : e.isClosed = false) :
      Outcome e t ({}, { e with commands := e.commands ++ [c] })
  /-- A command comes too late. -/
  | late (t : EndTurn τ) (c : Command τ) (hcommand : t.command? = some c)
      (hclosed : e.isClosed = true) :
      Outcome e t
        ({ answers := c.ticket?.toList.map fun ticket => (ticket, .error .channelClosed) }, e)
  /-- The handshake succeeds. -/
  | greeted (pid : UInt32) (hello rest : Bytes) (hphase : e.phase = .greeting)
      (hnext : Frame.next e.arrived = .frame hello rest)
      (hcheck : Handshake.check e.name hello = .ok pid) :
      Outcome e .read ({ events := [.connected pid] }, { e with arrived := rest, phase := .opened })
  /-- A frame is read. -/
  | taken (payload rest : Bytes) (hphase : e.phase = .opened)
      (hnext : Frame.next e.arrived = .frame payload rest) :
      Outcome e .read ({ e with arrived := rest }.takeFrame payload)
  /-- A message is written. -/
  | wrote (m : Message) (cs : List (Command τ)) (hphase : e.phase = .opened)
      (hcommands : e.commands = .send m :: cs) :
      Outcome e .write ({ written := [m] }, { e with commands := cs })
  /-- A request is written. -/
  | asked (m : Message) (ticket : τ) (cs : List (Command τ)) (hphase : e.phase = .opened)
      (hcommands : e.commands = .request m ticket :: cs) :
      Outcome e .write
        ({ written := [numbered m e.nextRequest]
           answers := (e.pending.get? e.nextRequest).toList.map
             fun other => (other, .error .channelClosed) },
          { e with
            commands := cs
            nextRequest := e.nextRequest + 1
            pending := e.pending.insert e.nextRequest ticket })
  | failed (t : EndTurn τ) (ending : ChannelEnding) (hfails : Fails e t ending) :
      Outcome e t (e.fail ending)
  /-- The peer has let go of the end. -/
  | dropped (hopen : e.isClosed = false) : Outcome e .drop (e.finish [])

variable {e : ChannelEnd τ}

/-- A turn that changes nothing, and is neither a command nor a read. -/
theorem Outcome.same (t : EndTurn τ) (hcommand : t.command? = none) (hbytes : t.bytes = [])
    (hread : t ≠ .read) : Outcome e t ({}, e) :=
  .idle t hcommand (fun _ => hbytes) fun h => absurd h hread

/-- **The end of what has arrived is read** as the end of the channel. -/
theorem outcome_endInput {ending : ChannelEnding}
    (hphase : e.phase = .greeting ∨ e.phase = .opened) (hends : e.Concluded ending) :
    e.Outcome .read (e.endInput ending) := by
  unfold endInput
  rcases hphase with hphase | hphase
  · rw [if_pos hphase]
    exact .failed .read _ (.missing ending hphase hends)
  · rw [if_neg (by simp [hphase])]
    exact .failed .read _ (.ended ending hphase hends)

/-- **What can come of a read.** -/
theorem outcome_readNext (e : ChannelEnd τ) : e.Outcome .read e.readNext := by
  unfold readNext read?
  split
  case isFalse hphase =>
    exact .idle .read rfl (fun _ => rfl) fun _ hopen => absurd hopen hphase
  case isTrue hphase =>
    cases hnext : Frame.next e.arrived with
    | frame payload rest =>
      rcases hphase with hphase | hphase
      · simp only [hphase, if_true, Option.getD_some, takeHello]
        cases hcheck : Handshake.check e.name payload with
        | ok pid => exact .greeted pid payload rest hphase hnext hcheck
        | error fault =>
          exact .failed .read _ (.unfit payload rest fault hphase hnext hcheck)
      · simp only [hphase, reduceCtorEq, if_false, Option.getD_some]
        exact hphase ▸ .taken payload rest hphase hnext
    | tooLong n => exact outcome_endInput hphase (.tooLong n hnext)
    | partly begun =>
      simp only
      split
      case isTrue hover =>
        refine outcome_endInput hphase ?_
        cases begun with
        | true => exact .inside hnext hover
        | false => exact .between hnext hover
      case isFalse hover =>
        exact .idle .read rfl (fun _ => rfl) fun _ _ => by simp [Decided, hnext, hover]

/-- **What can come of a write.** -/
theorem outcome_writeNext (e : ChannelEnd τ) : e.Outcome .write e.writeNext := by
  unfold writeNext write?
  split
  · next m cs hphase hcommands => exact .wrote m cs hphase hcommands
  · next m ticket cs hphase hcommands => exact .asked m ticket cs hphase hcommands
  · exact .same .write rfl rfl nofun

/-- **A connection that fails** ends the channel if there is one. -/
theorem outcome_breakOff {t : EndTurn τ} {ending : ChannelEnding}
    (ht : t = .breakInput ∧ ending = .unreadable ∨ t = .breakOutput ∧ ending = .unwritable) :
    e.Outcome t (e.breakOff ending) := by
  have hcut : t = .expire ∨ t = .breakInput ∨ t = .breakOutput := .inr (ht.imp And.left And.left)
  unfold breakOff
  cases hphase : e.phase with
  | greeting => exact .failed t _ (.cut t hcut hphase)
  | opened =>
    rcases ht with ⟨rfl, rfl⟩ | ⟨rfl, rfl⟩
    · exact .failed _ _ (.unreadable hphase)
    · exact .failed _ _ (.unwritable hphase)
  | listening | ended => rcases ht with ⟨rfl, -⟩ | ⟨rfl, -⟩ <;> exact .same _ rfl rfl nofun

/-- **There is nothing else that a turn can come to.** -/
theorem outcome_undergo (e : ChannelEnd τ) (t : EndTurn τ) : e.Outcome t (e.undergo t) := by
  cases t with
  | accept pid =>
    simp only [undergo, accept]
    cases hphase : e.phase with
    | listening => exact .accepted pid hphase
    | greeting | opened | ended => exact .same _ rfl rfl nofun
  | refuse =>
    simp only [undergo, refuse]
    cases hphase : e.phase with
    | listening => exact .failed _ _ (.refused hphase)
    | greeting | opened | ended => exact .same _ rfl rfl nofun
  | arrive bs =>
    simp only [undergo, arrive]
    cases hclosed : e.isClosed with
    | true => exact .idle _ rfl (fun hopen => by simp [hclosed] at hopen) nofun
    | false => exact .arrived bs hclosed
  | closeInput => exact .inputOver
  | expire =>
    simp only [undergo, expire]
    cases hphase : e.phase with
    | greeting => exact .failed _ _ (.cut _ (.inl rfl) hphase)
    | listening | opened | ended => exact .same _ rfl rfl nofun
  | breakInput => exact outcome_breakOff (.inl ⟨rfl, rfl⟩)
  | breakOutput => exact outcome_breakOff (.inr ⟨rfl, rfl⟩)
  | drop =>
    simp only [undergo, drop]
    cases hclosed : e.isClosed with
    | true => exact .same _ rfl rfl nofun
    | false => exact .dropped hclosed
  | send m =>
    simp only [undergo, send]
    cases hclosed : e.isClosed with
    | true => exact .late _ (.send m) rfl hclosed
    | false => exact .queued _ (.send m) rfl hclosed
  | request m ticket =>
    simp only [undergo, request]
    cases hclosed : e.isClosed with
    | true => exact .late _ (.request m ticket) rfl hclosed
    | false => exact .queued _ (.request m ticket) rfl hclosed
  | read => exact e.outcome_readNext
  | write => exact e.outcome_writeNext

/-! ## 4. What follows -/

/-- **A hello that is accepted opens the channel**, and takes only its own bytes: what has arrived
behind it is left, and so is what was handed over before. -/
theorem undergo_read_hello {payload rest : Bytes} {pid : UInt32} (hphase : e.phase = .greeting)
    (hnext : Frame.next e.arrived = .frame payload rest)
    (hcheck : Handshake.check e.name payload = .ok pid) :
    e.undergo .read
      = ({ events := [.connected pid] }, { e with arrived := rest, phase := .opened }) := by
  simp [undergo, readNext, read?, takeHello, hphase, hnext, hcheck]

/-- Only an end that is not over fails. -/
theorem Fails.isOpen {t : EndTurn τ} {ending : ChannelEnding} (h : e.Fails t ending) :
    e.isClosed = false := by
  cases h <;> simp [isClosed, *]

/-- It fails neither by a command nor by what arrives. -/
theorem Fails.plain {t : EndTurn τ} {ending : ChannelEnding} (h : e.Fails t ending) :
    t.command? = none ∧ t.bytes = [] := by
  cases h with
  | cut t ht => rcases ht with rfl | rfl | rfl <;> exact ⟨rfl, rfl⟩
  | refused | unfit | missing | unreadable | unwritable | ended => exact ⟨rfl, rfl⟩

/-- Where what has arrived has come to its end, no whole frame is left of it. -/
theorem Concluded.no_frame {ending : ChannelEnding} (h : e.Concluded ending) (payload rest : Bytes) :
    Frame.next e.arrived ≠ .frame payload rest := by
  cases h <;> simp [*]

/-- **What a command comes to**: it joins the others, or comes too late. -/
theorem undergo_command {t : EndTurn τ} {c : Command τ} (hcommand : t.command? = some c) :
    e.undergo t =
      if e.isClosed then
        ({ answers := c.ticket?.toList.map fun ticket => (ticket, .error .channelClosed) }, e)
      else ({}, { e with commands := e.commands ++ [c] }) := by
  have h := e.outcome_undergo t
  generalize e.undergo t = x at h ⊢
  cases h with
  | queued t c' hcommand' hopen =>
    obtain rfl := Option.some.inj (hcommand.symm.trans hcommand')
    rw [hopen, if_neg Bool.false_ne_true]
  | late t c' hcommand' hclosed =>
    obtain rfl := Option.some.inj (hcommand.symm.trans hcommand')
    rw [if_pos hclosed]
  | idle t hnone => cases hcommand.symm.trans hnone
  | failed t ending hfails => cases hcommand.symm.trans hfails.plain.1
  | accepted | arrived | inputOver | greeted | taken | wrote | asked | dropped => cases hcommand

end ChannelEnd

end ControlPlane
