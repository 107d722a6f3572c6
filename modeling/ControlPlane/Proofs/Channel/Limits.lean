/-
# Messages of any size

Two ends of one channel from their hellos on, with the bytes that are under way between them.  Each
peer hands over messages of any size, bytes arrive in pieces of any size, and neither peer lets go
of its end.  An end writes whatever it is given, and refuses to read a frame that is longer than
`maxFrameSize`: the two agree on every message that fits, and part at the first one that does not.

* `Station`, `Line.run`: two ends, and the runs of what can happen at them;
* `Station.allows`: the turns of an end that is connected to another one;
* `Station.Change`, `Station.change_turn`: the few ways in which a turn changes anything;
* `Station.Follows`: the frames that an end has read are the first ones that were written to it;
* `Station.Reads`, `Line.framed_run`: a message that fits is read as exactly one frame, and nothing
  makes a channel unreadable but one that does not, or a read from the connection that fails;
* `Line.unreadable_of_overlong`, `Line.overlong_unreadable`: one byte too many does.

The connection may fail at any time, and both ends may find that out or neither; that a read or a
write has failed is recorded.  A message whose length does not even fit into 32 bits is written behind
another length: one frame may be read from it, which is no message, and nothing behind that.
-/
import ControlPlane.Proofs.Channel.Handshake
import ControlPlane.Proofs.Channel.Pair
import ControlPlane.Proofs.Channel.Stream
import ControlPlane.Proofs.Channel.Wire

namespace ControlPlane

variable {τ : Type}

/-! ## 1. Messages that are too long -/

/-- **A message is too long for a frame**, and its length can still be written in front of one. -/
def Message.Overlong (m : Message) : Prop := ¬ m.Fits ∧ m.bytes.length < 2 ^ 32

/-- Its length is refused. -/
theorem Message.Overlong.next_frame {m : Message} (h : m.Overlong) (rest : Bytes) :
    Frame.next (m.frame ++ rest) = .tooLong m.bytes.length :=
  Frame.next_encode_tooLong (Nat.lt_of_not_le h.1) h.2 rest

/-- The members of two lists, of which each is closed by one brace. -/
theorem Json.length_memberBytes_append (ms ns : List (String × Json)) :
    (memberBytes (ms ++ ns)).length + 1 = (memberBytes ms).length + (memberBytes ns).length := by
  induction ms with
  | nil => exact Nat.add_comm _ _
  | cons m ms ih =>
    obtain ⟨k, v⟩ := m
    simp only [List.cons_append, memberBytes_cons, List.length_cons, List.length_append]
    omega

namespace Message

/-- The members of a message between its address and its payload. -/
def innerMembers (m : Message) : List (String × Json) :=
  ("type_id", .ofUInt32 m.type) :: (flag "sync" m.sync ++ flag "reply" m.reply
    ++ flag "reply_error" m.failed ++ requestMembers m.request)

/-- The payload is the last one. -/
theorem lateMembers_eq (m : Message) :
    m.lateMembers = m.innerMembers ++ [("payload", m.payload)] := by
  simp [lateMembers, innerMembers]

/-- **A message takes as many bytes as its payload**, and others that do not depend on it. -/
theorem length_bytes (m : Message) :
    ∃ k, ∀ payload, { m with payload := payload }.bytes.length = k + payload.bytes.length := by
  refine ⟨(Json.stringBytes "routing_id").length + (Json.ofUInt32 m.address.value).bytes.length
    + (Json.memberBytes m.innerMembers).length + (Json.stringBytes "payload").length + 4,
    fun payload => ?_⟩
  have happend := Json.length_memberBytes_append m.innerMembers [("payload", payload)]
  have hinner : { m with payload := payload }.innerMembers = m.innerMembers := rfl
  have hclosed : (Json.memberBytes []).length = 1 := rfl
  rw [Json.memberBytes_cons] at happend
  rw [bytes, document_eq, lateMembers_eq, hinner, Json.bytes_object_cons]
  simp only [List.length_cons, List.length_append, hclosed] at happend ⊢
  omega

/-- A message with a text of `n` letters. -/
def filled (n : Nat) : Message :=
  { address := ⟨9⟩, type := 65539, payload := .string (String.ofList (List.replicate n 'a')) }

/-- A text of letters is written as these letters between quotes. -/
theorem length_bytes_letters (n : Nat) :
    (Json.string (String.ofList (List.replicate n 'a'))).bytes.length = n + 2 := by
  have hletters : (Text.Utf8.encodeChars ((List.replicate n 'a').flatMap Json.escapeChar)).length
      = n := by
    induction n with
    | zero => rfl
    | succ n ih =>
      rw [List.replicate_succ, List.flatMap_cons, Json.encodeChars_append, List.length_append, ih]
      exact Nat.add_comm 1 n
  have hbytes : (Json.string (String.ofList (List.replicate n 'a'))).bytes
      = 0x22 :: (Text.Utf8.encodeChars ((List.replicate n 'a').flatMap Json.escapeChar)
        ++ [0x22]) := by
    rw [Json.bytes, Json.chars, Json.stringChars, String.toList_ofList, Json.encodeChars_cons,
      Json.encodeChars_append]
    rfl
  rw [hbytes]
  simp [hletters]

/-- **Such a message may be of any length** beyond that of its other parts. -/
theorem length_filled (n : Nat) : (filled n).bytes.length = n + 45 := by
  obtain ⟨k, hk⟩ := ({ address := ⟨9⟩, type := 65539 } : Message).length_bytes
  have hbare : 47 = k + 4 := hk .null
  have hall : (filled n).bytes.length = k + _ := hk _
  rw [length_bytes_letters] at hall
  omega

/-- One of them is one byte too long. -/
theorem overlong_filled : (filled (maxFrameSize - 44)).Overlong := by
  have hlength := length_filled (maxFrameSize - 44)
  have hmax : maxFrameSize = 16777216 := rfl
  constructor
  · rw [Fits, hlength, hmax]
    decide
  · rw [hlength, hmax]
    decide

/-- A message as a frame has four bytes more. -/
theorem length_frame (m : Message) : m.frame.length = m.bytes.length + 4 := by
  simp [frame, Frame.encode, BigEndian.word32]

end Message

/-! ## 2. Ends and what is under way to them -/

/-- The payload of the frame that an end reads next, if a whole one has arrived. -/
def ChannelEnd.front (e : ChannelEnd τ) : List Bytes :=
  if e.phase = .greeting ∨ e.phase = .opened then
    match Frame.next e.arrived with
    | .frame payload _ => [payload]
    | _ => []
  else []

namespace ChannelEnd

variable {e : ChannelEnd τ} {payload rest : Bytes}

/-- A whole frame has arrived. -/
theorem front_of_next (hphase : e.phase = .greeting ∨ e.phase = .opened)
    (hnext : Frame.next e.arrived = .frame payload rest) : e.front = [payload] := by
  simp [front, hphase, hnext]

/-- None has. -/
theorem front_of_none (hnone : e.phase = .greeting ∨ e.phase = .opened →
    ∀ payload rest, Frame.next e.arrived ≠ .frame payload rest) : e.front = [] := by
  unfold front
  split
  · next hphase =>
    cases hnext : Frame.next e.arrived with
    | frame payload rest => exact absurd hnext (hnone hphase payload rest)
    | partly | tooLong => rfl
  · rfl

end ChannelEnd

namespace ChannelTurn

/-- The payloads of the frames that a turn reads. -/
def payloads (e : ChannelEnd τ) : EndTurn τ → List Bytes
  | .read => e.front
  | _ => []

/-- A read from the connection fails. -/
def failsRead : EndTurn τ → Bool
  | .breakInput => true
  | _ => false

/-- A write to the connection fails. -/
def failsWrite : EndTurn τ → Bool
  | .breakOutput => true
  | _ => false

/-- Only a read reads. -/
theorem payloads_of_ne {u : EndTurn τ} (hu : u ≠ .read) (e : ChannelEnd τ) : u.payloads e = [] := by
  cases u <;> first | rfl | exact absurd rfl hu

end ChannelTurn

/-- **One of two ends that are connected**, and a record of what has become of it. -/
structure Station (τ : Type) where
  channel : ChannelEnd τ
  /-- The bytes that are under way to it. -/
  wire : Bytes
  /-- What it has written, beginning with its hello. -/
  written : List Message
  /-- The payloads of the frames that it has read. -/
  taken : List Bytes := []
  /-- What its peer was told. -/
  events : List ChannelEvent := []
  /-- A read from its connection has failed. -/
  readFailed : Bool := false
  /-- A write to its connection has failed. -/
  writeFailed : Bool := false

namespace Station

/-- An end that has just been connected.  Both ends have said hello. -/
def start (name : String) (pid other : UInt32) : Station τ where
  channel := (ChannelEnd.connecting name pid).2
  wire := (ChannelEnd.connecting name other : ChannelOutput τ × ChannelEnd τ).1.bytes
  written := (ChannelEnd.connecting name pid : ChannelOutput τ × ChannelEnd τ).1.written

/-- **What can happen at an end that is connected to another one**, and that its peer does not let go
of.  Its input is over when the other end is, and all that this one has written has arrived. -/
def allows (a b : Station τ) : EndTurn τ → Bool
  | .accept _ | .refuse | .drop => false
  | .closeInput => b.channel.isClosed && a.wire.isEmpty
  | _ => true

/-- Records what a turn gives out, what it has read, and what is still under way then. -/
def record (a b : Station τ) (u : EndTurn τ) (left : Bytes) (x : ChannelOutput τ × ChannelEnd τ) :
    Station τ × Station τ :=
  ({ channel := x.2
     wire := left
     written := a.written ++ x.1.written
     taken := a.taken ++ u.payloads a.channel
     events := a.events ++ x.1.events
     readFailed := a.readFailed || u.failsRead
     writeFailed := a.writeFailed || u.failsWrite },
    { b with wire := b.wire ++ x.1.bytes })

/-- **What a turn makes of the end it happens at**, and of the other one.  What cannot happen changes
nothing. -/
def turn (a b : Station τ) (t : WireTurn τ) : Station τ × Station τ :=
  if a.allows b (t.taking a.wire) then
    a.record b (t.taking a.wire) (t.left a.wire) (a.channel.undergo (t.taking a.wire))
  else (a, b)

/-- What is made of an end by the bytes that arrive. -/
theorem turn_arrive (a b : Station τ) (n : Nat) :
    a.turn b (.arrive n)
      = ({ a with channel := a.channel.arrive (a.wire.take n), wire := a.wire.drop n }, b) := by
  simp [turn, allows, record, ChannelTurn.taking, ChannelTurn.left, ChannelTurn.payloads,
    ChannelTurn.failsRead, ChannelTurn.failsWrite, ChannelEnd.undergo, ChannelOutput.bytes]

/-- What is made of it by a read. -/
theorem turn_read (a b : Station τ) :
    a.turn b .read
      = ({ a with
            channel := a.channel.readNext.2
            written := a.written ++ a.channel.readNext.1.written
            taken := a.taken ++ a.channel.front
            events := a.events ++ a.channel.readNext.1.events },
          { b with wire := b.wire ++ a.channel.readNext.1.bytes }) := by
  simp [turn, allows, record, ChannelTurn.taking, ChannelTurn.left, ChannelTurn.payloads,
    ChannelTurn.failsRead, ChannelTurn.failsWrite, ChannelEnd.undergo]

/-! ## 3. Changes -/

/-- **Nothing is read, written or told** at an end. -/
structure Same (a a' : Station τ) : Prop where
  phase : a'.channel.phase = a.channel.phase
  /-- What is not read yet has arrived or is under way. -/
  unread : a.channel.isClosed = false →
    a'.channel.arrived ++ a'.wire = a.channel.arrived ++ a.wire
  wire : a.wire = [] → a'.wire = []
  written : a'.written = a.written
  taken : a'.taken = a.taken
  events : a'.events = a.events
  readFailed : a.readFailed = true → a'.readFailed = true
  writeFailed : a.writeFailed = true → a'.writeFailed = true

/-- **The ways in which a turn changes an end**, and the other one. -/
inductive Change (a b : Station τ) : Station τ × Station τ → Prop
  | quiet (a' : Station τ) (hsame : a.Same a')
      (hover : a'.channel.inputOver = true →
        a.channel.inputOver = true ∨ a.wire = [] ∧ b.channel.isClosed = true) :
      Change a b (a', b)
  | wrote (m : Message) (e : ChannelEnd τ) (hopen : a.channel.isClosed = false)
      (hphase : e.phase = a.channel.phase) (harrived : e.arrived = a.channel.arrived)
      (hover : e.inputOver = a.channel.inputOver) :
      Change a b
        ({ a with channel := e, written := a.written ++ [m] },
          { b with wire := b.wire ++ m.frame })
  /-- A frame is read, and the channel goes on. -/
  | took (payload : Bytes) (e : ChannelEnd τ) (news : List ChannelEvent)
      (hopen : a.channel.isClosed = false)
      (hnext : Frame.next a.channel.arrived = .frame payload e.arrived)
      (hstill : e.isClosed = false) (hover : e.inputOver = a.channel.inputOver)
      (hnews : ∀ ending, .failed ending ∉ news) :
      Change a b
        ({ a with channel := e, taken := a.taken ++ [payload], events := a.events ++ news }, b)
  /-- The hello of the other end is read, and not accepted. -/
  | refused (payload rest : Bytes) (e : ChannelEnd τ) (hopen : a.channel.isClosed = false)
      (hnext : Frame.next a.channel.arrived = .frame payload rest) (hended : e.isClosed = true) :
      Change a b
        ({ a with
            channel := e
            taken := a.taken ++ [payload]
            events := a.events ++ [.failed .noHandshake] }, b)
  /-- The channel is over: its handshake failed, nothing can be read any more, the connection failed,
  or the other end is over. -/
  | failed (e : ChannelEnd τ) (ending : ChannelEnding) (r w : Bool)
      (hopen : a.channel.isClosed = false) (hended : e.isClosed = true)
      (hunreadable : ending = .unreadable → a.channel.Concluded .unreadable ∨ r = true)
      (hwhy : ending = .noHandshake ∨ ending = .unreadable ∨ w = true ∨
        a.channel.inputOver = true) :
      Change a b
        ({ a with
            channel := e
            events := a.events ++ [.failed ending]
            readFailed := a.readFailed || r
            writeFailed := a.writeFailed || w }, b)

/-- A turn that gives out nothing, and after which nothing more is read, is quiet. -/
theorem change_quiet {a b : Station τ} {u : EndTurn τ} {left : Bytes}
    {x : ChannelOutput τ × ChannelEnd τ} (hleft : u.bytes ++ left = a.wire)
    (hpayloads : u.payloads a.channel = []) (hwritten : x.1.written = [])
    (hevents : x.1.events = []) (hphase : x.2.phase = a.channel.phase)
    (harrived : a.channel.isClosed = false → x.2.arrived = a.channel.arrived ++ u.bytes)
    (hover : x.2.inputOver = true →
      a.channel.inputOver = true ∨ a.wire = [] ∧ b.channel.isClosed = true) :
    Change a b (a.record b u left x) := by
  have hother : { b with wire := b.wire ++ x.1.bytes } = b := by
    simp [ChannelOutput.bytes, hwritten]
  rw [record, hother]
  refine .quiet _ ?_ hover
  refine
    { phase := hphase, unread := fun hopen => ?_, wire := fun hnil => ?_, written := ?_, taken := ?_
      events := ?_, readFailed := fun h => ?_, writeFailed := fun h => ?_ }
  · show x.2.arrived ++ left = _
    rw [harrived hopen, List.append_assoc, hleft]
  · exact (List.append_eq_nil_iff.mp (hleft.trans hnil)).2
  all_goals simp [*]

/-- **A message that is written** goes out as its frame. -/
theorem change_written {a b : Station τ} {m : Message} {x : ChannelOutput τ × ChannelEnd τ}
    (hopened : a.channel.phase = .opened) (hwritten : x.1.written = [m]) (hevents : x.1.events = [])
    (hphase : x.2.phase = a.channel.phase) (harrived : x.2.arrived = a.channel.arrived)
    (hover : x.2.inputOver = a.channel.inputOver) :
    Change a b (a.record b .write a.wire x) := by
  have hopen : a.channel.isClosed = false := ChannelEnd.isOpen_of_phase hopened
  have hrecord : a.record b .write a.wire x
      = ({ a with channel := x.2, written := a.written ++ [m] },
          { b with wire := b.wire ++ m.frame }) := by
    simp [record, ChannelTurn.payloads, ChannelTurn.failsRead, ChannelTurn.failsWrite,
      ChannelOutput.bytes, hwritten, hevents]
  exact hrecord ▸ .wrote m x.2 hopen hphase harrived hover

/-- **A frame that is read** from an open channel. -/
theorem change_taken {a b : Station τ} {payload rest : Bytes} (hphase : a.channel.phase = .opened)
    (hnext : Frame.next a.channel.arrived = .frame payload rest) :
    Change a b (a.record b .read a.wire ({ a.channel with arrived := rest }.takeFrame payload)) := by
  have hopen : a.channel.isClosed = false := ChannelEnd.isOpen_of_phase hphase
  have hnews := (a.channel.effect_takeFrame payload rest).news
  have harrived := ChannelEnd.arrived_takeFrame { a.channel with arrived := rest } payload
  have hover := ChannelEnd.inputOver_takeFrame { a.channel with arrived := rest } payload
  have hstill := ChannelEnd.phase_takeFrame { a.channel with arrived := rest } payload
  have hsilent : ({ a.channel with arrived := rest }.takeFrame payload).1.written = [] :=
    (a.channel.effect_takeFrame payload rest).silent
  generalize { a.channel with arrived := rest }.takeFrame payload = x at *
  have hrecord : a.record b .read a.wire x
      = ({ a with
            channel := x.2
            taken := a.taken ++ [payload]
            events := a.events ++ x.1.events }, b) := by
    simp [record, ChannelTurn.payloads, ChannelEnd.front_of_next (.inr hphase) hnext,
      ChannelTurn.failsRead, ChannelTurn.failsWrite, ChannelOutput.bytes, hsilent]
  rw [hrecord]
  refine Change.took payload x.2 x.1.events hopen (harrived ▸ hnext) ?_ hover ?_
  · simp [ChannelEnd.isClosed, hstill, hphase]
  · intro ending hmem
    cases hnews _ hmem

/-- **An end that fails** has a reason, which is recorded. -/
theorem change_fails {a b : Station τ} {u : EndTurn τ} {left : Bytes} {ending : ChannelEnding}
    (hleft : u.bytes ++ left = a.wire) (hallows : a.allows b u = true)
    (hfails : a.channel.Fails u ending) :
    Change a b (a.record b u left (a.channel.fail ending)) := by
  have hopen := hfails.isOpen
  obtain rfl : left = a.wire := by
    rw [← hleft, hfails.plain.2]
    rfl
  have hother : { b with wire := b.wire ++ (a.channel.fail ending).1.bytes } = b := by
    simp [ChannelOutput.bytes, ChannelEnd.fail, ChannelEnd.finish]
  have hrecord : ∀ {taken}, a.taken ++ u.payloads a.channel = taken →
      a.record b u a.wire (a.channel.fail ending)
        = ({ a with
              channel := (a.channel.fail ending).2
              taken := taken
              events := a.events ++ [.failed ending]
              readFailed := a.readFailed || u.failsRead
              writeFailed := a.writeFailed || u.failsWrite }, b) := by
    rintro _ rfl
    rw [record, hother]
    simp [ChannelEnd.fail, ChannelEnd.finish]
  have hended : (a.channel.fail ending).2.isClosed = true := rfl
  have hnothing : ∀ {ending}, a.channel.Concluded ending → a.channel.front = [] := fun hends =>
    ChannelEnd.front_of_none fun _ => hends.no_frame
  cases hfails with
  | refused => cases hallows
  | cut u hu =>
    have hpayloads : u.payloads a.channel = [] := by rcases hu with rfl | rfl | rfl <;> rfl
    rw [hrecord (by rw [hpayloads, List.append_nil])]
    exact .failed _ _ _ _ hopen hended (fun hreset => by cases hreset) (.inl rfl)
  | unfit hello rest fault hphase hnext =>
    have hpayloads : (ChannelTurn.read : EndTurn τ).payloads a.channel = [hello] :=
      ChannelEnd.front_of_next (.inl hphase) hnext
    rw [hrecord (by rw [hpayloads])]
    simp only [ChannelTurn.failsRead, ChannelTurn.failsWrite, Bool.or_false]
    exact .refused hello rest _ hopen hnext hended
  | missing ending' hphase hends =>
    rw [hrecord (by rw [ChannelTurn.payloads, hnothing hends, List.append_nil])]
    exact .failed _ _ _ _ hopen hended (fun hreset => by cases hreset) (.inl rfl)
  | unreadable =>
    rw [hrecord (List.append_nil _)]
    exact .failed _ _ _ _ hopen hended (fun _ => .inr rfl) (.inr (.inl rfl))
  | unwritable =>
    rw [hrecord (List.append_nil _)]
    exact .failed _ _ _ _ hopen hended (fun hreset => by cases hreset) (.inr (.inr (.inl rfl)))
  | ended _ hphase hends =>
    rw [hrecord (by rw [ChannelTurn.payloads, hnothing hends, List.append_nil])]
    refine .failed _ _ _ _ hopen hended (fun h => .inl (h ▸ hends)) ?_
    cases hends with
    | tooLong | inside => exact .inr (.inl rfl)
    | between _ hover => exact .inr (.inr (.inr hover))

/-- **Every turn is one of the changes.** -/
theorem change_turn (a b : Station τ) (t : WireTurn τ) : Change a b (a.turn b t) := by
  unfold turn
  split
  case isFalse =>
    exact .quiet a ⟨rfl, fun _ => rfl, id, rfl, rfl, rfl, id, id⟩ .inl
  case isTrue hallows =>
    have hleft := t.bytes_taking a.wire
    have houtcome := a.channel.outcome_undergo (t.taking a.wire)
    generalize t.left a.wire = left at hleft ⊢
    generalize t.taking a.wire = u at *
    generalize a.channel.undergo u = x at *
    cases houtcome with
    | idle u hcommand hbytes hread =>
      refine change_quiet hleft ?_ rfl rfl rfl (fun hopen => ?_) .inl
      · by_cases hu : u = .read
        · subst hu
          exact ChannelEnd.front_of_none fun hphase payload rest hnext =>
            hread rfl hphase (.inl ⟨payload, rest, hnext⟩)
        · exact ChannelTurn.payloads_of_ne hu _
      · rw [hbytes hopen, List.append_nil]
    | accepted => cases hallows
    | arrived bs hopen => exact change_quiet hleft rfl rfl rfl rfl (fun _ => rfl) .inl
    | inputOver =>
      refine change_quiet hleft rfl rfl rfl rfl (fun _ => (List.append_nil _).symm) fun _ => .inr ?_
      simp only [allows, Bool.and_eq_true, List.isEmpty_iff] at hallows
      exact hallows.symm
    | queued u c hcommand hopen =>
      obtain ⟨hbytes, hread, -⟩ := ChannelTurn.of_command hcommand
      refine change_quiet hleft (ChannelTurn.payloads_of_ne hread _) rfl rfl rfl (fun _ => ?_) .inl
      rw [hbytes, List.append_nil]
    | late u c hcommand hclosed =>
      obtain ⟨hbytes, hread, -⟩ := ChannelTurn.of_command hcommand
      refine change_quiet hleft (ChannelTurn.payloads_of_ne hread _) rfl rfl rfl (fun _ => ?_) .inl
      rw [hbytes, List.append_nil]
    | greeted pid hello rest hphase hnext =>
      obtain rfl : left = a.wire := hleft
      have hopen : a.channel.isClosed = false := ChannelEnd.isOpen_of_phase hphase
      simpa [record, ChannelTurn.payloads, ChannelEnd.front_of_next (.inl hphase) hnext,
        ChannelTurn.failsRead, ChannelTurn.failsWrite, ChannelOutput.bytes]
        using Change.took (b := b) hello { a.channel with arrived := rest, phase := .opened }
          [.connected pid] hopen hnext rfl rfl (by simp)
    | taken payload rest hphase hnext =>
      obtain rfl : left = a.wire := hleft
      exact change_taken hphase hnext
    | wrote m cs hphase =>
      obtain rfl : left = a.wire := hleft
      exact change_written hphase rfl rfl rfl rfl rfl
    | asked m ticket cs hphase =>
      obtain rfl : left = a.wire := hleft
      exact change_written hphase rfl rfl rfl rfl rfl
    | failed u ending hfails => exact change_fails hleft hallows hfails
    | dropped => cases hallows

/-! ## 4. What has been read of what was written -/

/-- Messages that fit are the frames that their bytes begin with. -/
theorem splits_frames {before : List Message} (hfits : ∀ m ∈ before, m.Fits)
    (after : List Message) :
    Frame.Splits (Message.frames (before ++ after)) (before.map Message.bytes)
      (Message.frames after) := by
  induction before with
  | nil => exact .nil _
  | cons m before ih =>
    have hnext := Frame.next_encode (hfits m List.mem_cons_self) (Message.frames (before ++ after))
    exact .cons hnext (ih fun n hn => hfits n (List.mem_cons_of_mem m hn))

/-- **Where written frames can be read no further, a message does not fit**, and those before it
have been read. -/
theorem exists_misfit {ms : List Message} {taken : List Bytes} {rest : Bytes}
    (h : Frame.Splits (Message.frames ms) taken rest)
    (hstuck : ∀ payload more, Frame.next rest ≠ .frame payload more)
    (hsome : Frame.next rest ≠ .partly false) :
    ∃ before m after, ms = before ++ m :: after ∧ (∀ n ∈ before, n.Fits) ∧ ¬ m.Fits
      ∧ before.map Message.bytes <+: taken := by
  induction ms generalizing taken with
  | nil =>
    cases h with
    | nil => exact absurd rfl hsome
    | cons hnext => cases hnext
  | cons m ms ih =>
    by_cases hfits : m.Fits
    · have hfirst := Frame.next_encode hfits (Message.frames ms)
      cases h with
      | nil => exact absurd hfirst (hstuck _ _)
      | cons hnext hrest =>
        have hsame := hfirst.symm.trans hnext
        rw [Frame.Arrival.frame.injEq] at hsame
        obtain ⟨rfl, rfl⟩ := hsame
        obtain ⟨before, n, after, rfl, hbefore, hlong, hread⟩ := ih hrest
        refine ⟨m :: before, n, after, rfl, ?_, hlong, (List.prefix_cons_inj _).2 hread⟩
        intro k hk
        rcases List.mem_cons.1 hk with rfl | hk
        · exact hfits
        · exact hbefore k hk
    · exact ⟨[], m, ms, rfl, by simp, hfits, List.nil_prefix⟩

/-- **A message was written to an end that does not fit**, and the end has read those before it. -/
def Misfit (a b : Station τ) : Prop :=
  ∃ before m after, b.written = before ++ m :: after ∧ (∀ n ∈ before, n.Fits) ∧ ¬ m.Fits
    ∧ before.map Message.bytes <+: a.taken

/-- **An end follows what the other one has written.** -/
structure Follows (a b : Station τ) : Prop where
  /-- The frames that it has read are the first ones, and the rest has arrived or is under way. -/
  stream : ∃ rest, Frame.Splits (Message.frames b.written) a.taken rest
    ∧ (a.channel.isClosed = false → rest = a.channel.arrived ++ a.wire)
  /-- Its input is over only where the other end is. -/
  exhausted : a.channel.isClosed = false → a.channel.inputOver = true →
    a.wire = [] ∧ b.channel.isClosed = true
  /-- It was made unreadable by a message that does not fit, or by a read that failed. -/
  unreadable : .failed .unreadable ∈ a.events → Misfit a b ∨ a.readFailed = true

variable {a b : Station τ} {x : Station τ × Station τ}

/-- What was read before a message that does not fit is still read when more is, and what was written
is still written. -/
theorem Misfit.more (h : Misfit a b) {a' b' : Station τ} (htaken : a.taken <+: a'.taken)
    (hwritten : b.written <+: b'.written) : Misfit a' b' := by
  obtain ⟨before, m, after, hsplit, hbefore, hlong, hread⟩ := h
  obtain ⟨later, hlater⟩ := hwritten
  exact ⟨before, m, after ++ later, by simp [← hlater, hsplit], hbefore, hlong, hread.trans htaken⟩

/-- It is one of those that were written. -/
theorem Misfit.exists (h : Misfit a b) : ∃ m ∈ b.written, ¬ m.Fits := by
  obtain ⟨before, m, after, hwritten, -, hlong, -⟩ := h
  exact ⟨m, by simp [hwritten], hlong⟩

/-- The frame that is read next is the next one that was written. -/
theorem Follows.took (h : Follows a b) {payload rest : Bytes} (hopen : a.channel.isClosed = false)
    (hnext : Frame.next a.channel.arrived = .frame payload rest) :
    Frame.Splits (Message.frames b.written) (a.taken ++ [payload]) (rest ++ a.wire) := by
  obtain ⟨all, hsplits, hall⟩ := h.stream
  obtain rfl := hall hopen
  exact hsplits.snoc (Frame.next_append hnext a.wire)

/-- Where what has arrived cannot be read to its end, a message does not fit. -/
theorem Follows.misfit (h : Follows a b) (hopen : a.channel.isClosed = false)
    (hends : a.channel.Concluded .unreadable) : Misfit a b := by
  obtain ⟨all, hsplits, hall⟩ := h.stream
  obtain rfl := hall hopen
  cases hends with
  | tooLong n hlong =>
    have hnext := Frame.next_append_tooLong hlong a.wire
    exact exists_misfit hsplits (by simp [hnext]) (by simp [hnext])
  | inside hpartly hover =>
    obtain ⟨hwire, -⟩ := h.exhausted hopen hover
    rw [hwire, List.append_nil] at hsplits
    exact exists_misfit hsplits (by simp [hpartly]) (by simp [hpartly])

/-- **An end goes on following** when something happens at it. -/
theorem Change.follows (hc : Change a b x) (h : Follows a b) : Follows x.1 x.2 := by
  obtain ⟨all, hsplits, hall⟩ := h.stream
  cases hc with
  | quiet a' hsame hover =>
    have hstill : a'.channel.isClosed = a.channel.isClosed := by
      simp [ChannelEnd.isClosed, hsame.phase]
    constructor
    case stream =>
      refine ⟨all, hsame.taken.symm ▸ hsplits, fun hopen => ?_⟩
      have hbefore := hstill.symm.trans hopen
      exact (hall hbefore).trans (hsame.unread hbefore).symm
    case exhausted =>
      intro hopen hinput
      rcases hover hinput with hbefore | ⟨hwire, hclosed⟩
      · obtain ⟨hwire, hclosed⟩ := h.exhausted (hstill.symm.trans hopen) hbefore
        exact ⟨hsame.wire hwire, hclosed⟩
      · exact ⟨hsame.wire hwire, hclosed⟩
    case unreadable =>
      intro hmem
      exact (h.unreadable (hsame.events ▸ hmem)).imp
        (·.more (hsame.taken ▸ List.prefix_rfl) List.prefix_rfl) hsame.readFailed
  | wrote m e hopen hphase harrived hover =>
    constructor
    case stream => exact ⟨all, hsplits, fun _ => by rw [hall hopen, harrived]⟩
    case exhausted =>
      intro _ hinput
      exact h.exhausted hopen (hover.symm.trans hinput)
    case unreadable => exact h.unreadable
  | took payload e news hopen hnext hstill hover hnews =>
    constructor
    case stream => exact ⟨_, h.took hopen hnext, fun _ => rfl⟩
    case exhausted =>
      intro _ hinput
      exact h.exhausted hopen (hover.symm.trans hinput)
    case unreadable =>
      intro hmem
      rcases List.mem_append.1 hmem with hmem | hmem
      · exact (h.unreadable hmem).imp_left (·.more (List.prefix_append _ _) List.prefix_rfl)
      · exact absurd hmem (hnews _)
  | refused payload rest e hopen hnext hended =>
    constructor
    case stream => exact ⟨_, h.took hopen hnext, fun hlive => by simp [hended] at hlive⟩
    case exhausted =>
      intro hlive
      simp [hended] at hlive
    case unreadable =>
      intro hmem
      rcases List.mem_append.1 hmem with hmem | hmem
      · exact (h.unreadable hmem).imp_left (·.more (List.prefix_append _ _) List.prefix_rfl)
      · simp at hmem
  | failed e ending r w hopen hended hunreadable hwhy =>
    constructor
    case stream => exact ⟨all, hsplits, fun hlive => by simp [hended] at hlive⟩
    case exhausted =>
      intro hlive
      simp [hended] at hlive
    case unreadable =>
      intro hmem
      rcases List.mem_append.1 hmem with hmem | hmem
      · exact (h.unreadable hmem).imp id fun hfailed => by simp [hfailed]
      · rw [List.mem_singleton, ChannelEvent.failed.injEq] at hmem
        exact (hunreadable hmem.symm).imp (h.misfit hopen) fun hfailed => by simp [hfailed]

/-- Where nothing is written, an end follows what it followed. -/
theorem Follows.of_writer (h : Follows a b) {b' : Station τ} (hwritten : b'.written = b.written)
    (hclosed : b.channel.isClosed = true → b'.channel.isClosed = true) : Follows a b' := by
  constructor
  case stream => exact hwritten ▸ h.stream
  case exhausted =>
    intro hopen hinput
    obtain ⟨hwire, hover⟩ := h.exhausted hopen hinput
    exact ⟨hwire, hclosed hover⟩
  case unreadable =>
    intro hmem
    exact (h.unreadable hmem).imp_left (·.more List.prefix_rfl (hwritten ▸ List.prefix_rfl))

/-- **An end goes on following** when something happens at the other one. -/
theorem Change.followed (hc : Change b a x) (h : Follows a b) : Follows x.2 x.1 := by
  cases hc with
  | quiet b' hsame =>
    refine h.of_writer hsame.written fun hclosed => ?_
    simpa [ChannelEnd.isClosed, hsame.phase] using hclosed
  | wrote m e hopen =>
    have hframes : Message.frames (b.written ++ [m]) = Message.frames b.written ++ m.frame := by
      simp [Message.frames]
    obtain ⟨all, hsplits, hall⟩ := h.stream
    constructor
    case stream =>
      refine ⟨all ++ m.frame, hframes ▸ hsplits.append m.frame, fun hlive => ?_⟩
      rw [hall hlive, List.append_assoc]
    case exhausted =>
      intro hlive hinput
      rw [(h.exhausted hlive hinput).2] at hopen
      cases hopen
    case unreadable =>
      intro hmem
      exact (h.unreadable hmem).imp_left (·.more List.prefix_rfl (List.prefix_append _ _))
  | took payload e news hopen =>
    refine h.of_writer rfl fun hclosed => ?_
    rw [hclosed] at hopen
    cases hopen
  | refused payload rest e hopen hnext hended => exact h.of_writer rfl fun _ => hended
  | failed e ending r w hopen hended => exact h.of_writer rfl fun _ => hended

/-- A read from the connection of an end has failed, or a write to it. -/
def Broken (a : Station τ) : Prop := a.readFailed = true ∨ a.writeFailed = true

/-- Nothing makes an end unreadable while all that is written to it fits and its connection holds. -/
theorem Follows.readable (h : Follows a b) (hfits : ∀ m ∈ b.written, m.Fits)
    (hholds : ¬ a.Broken) : .failed .unreadable ∉ a.events := by
  intro hmem
  rcases h.unreadable hmem with hmisfit | hfailed
  · obtain ⟨m, hm, hlong⟩ := hmisfit.exists
    exact hlong (hfits m hm)
  · exact hholds (.inl hfailed)

/-- **What can end a channel** that neither peer lets go of: a handshake that fails, what cannot be
read, or the connection. -/
def Excuse (a b : Station τ) : Prop :=
  (∃ ending, (ending = .noHandshake ∨ ending = .unreadable) ∧ .failed ending ∈ a.events ++ b.events)
    ∨ a.Broken ∨ b.Broken

/-- **Where an end is over, one of the two has an excuse.** -/
def Excused (a b : Station τ) : Prop :=
  a.channel.isClosed = true ∨ b.channel.isClosed = true → Excuse a b

/-- It does not matter which end is called the first. -/
theorem Excused.symm (h : Excused a b) : Excused b a := by
  intro hclosed
  refine (h hclosed.symm).imp ?_ Or.symm
  rintro ⟨ending, hending, hmem⟩
  exact ⟨ending, hending, List.mem_append.2 (List.mem_append.1 hmem).symm⟩

/-- An excuse is kept. -/
theorem Excuse.more (h : Excuse a b) {a' b' : Station τ} (hevents : a.events ⊆ a'.events)
    (hevents' : b'.events = b.events) (hbroken : a.Broken → a'.Broken)
    (hbroken' : b.Broken → b'.Broken) : Excuse a' b' := by
  refine h.imp ?_ (Or.imp hbroken hbroken')
  rintro ⟨ending, hending, hmem⟩
  refine ⟨ending, hending, ?_⟩
  rw [hevents']
  exact List.mem_append.2 ((List.mem_append.1 hmem).imp_left (hevents ·))

/-- **An end that is over stays excused**, whatever happens. -/
theorem Change.excused (hc : Change a b x) (h : Excused a b) (hfollows : Follows a b) :
    Excused x.1 x.2 := by
  cases hc with
  | quiet a' hsame =>
    intro hclosed
    have hbefore : a.channel.isClosed = true ∨ b.channel.isClosed = true := by
      simpa [ChannelEnd.isClosed, hsame.phase] using hclosed
    exact (h hbefore).more (hsame.events ▸ List.Subset.refl _) rfl
      (Or.imp hsame.readFailed hsame.writeFailed) id
  | wrote m e hopen hphase =>
    intro hclosed
    have hbefore : a.channel.isClosed = true ∨ b.channel.isClosed = true := by
      simpa [ChannelEnd.isClosed, hphase] using hclosed
    exact (h hbefore).more (List.Subset.refl _) rfl id id
  | took payload e news hopen hnext hstill =>
    rintro (hended | hclosed)
    · rw [hstill] at hended
      cases hended
    · exact (h (.inr hclosed)).more (List.subset_append_left _ _) rfl id id
  | refused payload rest e hopen hnext hended =>
    exact fun _ => .inl ⟨.noHandshake, .inl rfl, by simp⟩
  | failed e ending r w hopen hended hunreadable hwhy =>
    intro _
    rcases hwhy with rfl | rfl | rfl | hinput
    · exact .inl ⟨.noHandshake, .inl rfl, by simp⟩
    · exact .inl ⟨.unreadable, .inr rfl, by simp⟩
    · exact .inr (.inl (.inr (Bool.or_true _)))
    · refine (h (.inr (hfollows.exhausted hopen hinput).2)).more (List.subset_append_left _ _) rfl
        (Or.imp (fun hfailed => ?_) fun hfailed => ?_) id
      all_goals simp [hfailed]

/-! ## 5. What is read of a message -/

/-- **What an end makes of the messages that are written to it.** -/
structure Reads (a b : Station τ) : Prop where
  /-- The messages that fit are read as one frame each, in their order and before anything else. -/
  each : ∀ before after, b.written = before ++ after → (∀ m ∈ before, m.Fits) →
    a.taken <+: before.map Message.bytes ∨ before.map Message.bytes <+: a.taken
  /-- Nothing else is read as far as all fits, or where the first one that does not is refused. -/
  only : ∀ before after, b.written = before ++ after → (∀ m ∈ before, m.Fits) →
    (∀ m ∈ after.head?, m.Overlong) → a.taken <+: before.map Message.bytes
  /-- From the first one that does not fit no more than one frame is read, which is no message, and
  nothing behind it. -/
  last : ∀ before m after, b.written = before ++ m :: after → (∀ n ∈ before, n.Fits) → ¬ m.Fits →
    a.taken <+: before.map Message.bytes ∨ ∃ payload err,
      a.taken = before.map Message.bytes ++ [payload] ∧ Message.parse payload = .error err
  /-- A message that fits comes next once those before it were read, and nothing has shifted. -/
  next : ∀ before m after, b.written = before ++ m :: after → m.Fits →
    a.taken = before.map Message.bytes → a.channel.isClosed = false →
    a.channel.arrived ++ a.wire = m.frame ++ Message.frames after
  /-- Once it has arrived it is read as this one frame, and the channel stays open. -/
  accepts : ∀ before m after, b.written = before ++ m :: after → m.Fits →
    a.taken = before.map Message.bytes → a.channel.phase = .opened →
    m.frame.length ≤ a.channel.arrived.length →
    (a.turn b .read).1.taken = a.taken ++ [m.bytes]
      ∧ (a.turn b .read).1.channel.phase = .opened
  /-- One that is too long makes the channel unreadable once its length has arrived. -/
  refuses : ∀ before m after, b.written = before ++ m :: after → m.Overlong →
    a.taken = before.map Message.bytes → a.channel.phase = .opened →
    4 ≤ a.channel.arrived.length →
    (a.turn b .read).1.events = a.events ++ [.failed .unreadable]
  /-- Nothing makes it unreadable but a message that does not fit, or a read that fails. -/
  unreadable : .failed .unreadable ∈ a.events → Misfit a b ∨ a.readFailed = true

/-- What follows the messages that were read has arrived or is under way. -/
theorem Follows.coming (h : Follows a b) {before after : List Message}
    (hwritten : b.written = before ++ after) (htaken : a.taken = before.map Message.bytes)
    (hopen : a.channel.isClosed = false) :
    a.channel.arrived ++ a.wire = Message.frames after := by
  obtain ⟨all, hsplits, hall⟩ := h.stream
  obtain rfl := hall hopen
  have hbytes := hsplits.eq_append
  have hread : a.taken.flatMap Frame.encode = Message.frames before := by
    rw [htaken, List.flatMap_map]
    rfl
  rw [hwritten, hread, Message.frames, List.flatMap_append] at hbytes
  exact (List.append_cancel_left hbytes).symm

/-- A frame that has arrived at an open end is taken, and the channel stays open. -/
theorem turn_read_frame {payload rest : Bytes} (hphase : a.channel.phase = .opened)
    (hnext : Frame.next a.channel.arrived = .frame payload rest) :
    (a.turn b .read).1.taken = a.taken ++ [payload]
      ∧ (a.turn b .read).1.channel.phase = .opened := by
  have hread := ChannelEnd.read?_frame hphase hnext
  have hfront := ChannelEnd.front_of_next (.inr hphase) hnext
  rw [turn_read, ChannelEnd.readNext, hread, hfront]
  exact ⟨rfl, (ChannelEnd.phase_takeFrame _ payload).trans hphase⟩

/-- A length that is not accepted makes an open end unreadable. -/
theorem turn_read_tooLong {n : Nat} (hphase : a.channel.phase = .opened)
    (hnext : Frame.next a.channel.arrived = .tooLong n) :
    (a.turn b .read).1.events = a.events ++ [.failed .unreadable] := by
  simp [turn_read, ChannelEnd.readNext, ChannelEnd.read?, hphase, hnext, ChannelEnd.endInput,
    ChannelEnd.fail, ChannelEnd.finish]

/-- No frame is read where all has been read, or where the next message is too long. -/
theorem next_frames_of_overlong {after : List Message} (hafter : ∀ m ∈ after.head?, m.Overlong)
    (payload more : Bytes) : Frame.next (Message.frames after) ≠ .frame payload more := by
  cases after with
  | nil => exact nofun
  | cons m rest =>
    have hlong := hafter m rfl
    have hnext := hlong.next_frame (Message.frames rest)
    intro hframe
    cases hnext.symm.trans hframe

/-- **An end that follows reads what was written.** -/
theorem Follows.reads (h : Follows a b) : Reads a b := by
  obtain ⟨all, hsplits, -⟩ := h.stream
  constructor
  case each =>
    intro before after hwritten hbefore
    refine (hsplits.isPrefix_or (hwritten ▸ splits_frames hbefore after)).imp_right fun hmore => ?_
    obtain ⟨more, htaken, -⟩ := hmore
    exact htaken ▸ List.prefix_append _ _
  case only =>
    intro before after hwritten hbefore hafter
    exact hsplits.isPrefix_of_stuck (hwritten ▸ splits_frames hbefore after)
      (next_frames_of_overlong hafter)
  case last =>
    intro before m after hwritten hbefore hlong
    have hbegin := hwritten ▸ splits_frames hbefore (m :: after)
    refine (hsplits.isPrefix_or hbegin).elim .inl fun hbehind => ?_
    obtain ⟨more, htaken, hmore⟩ := hbehind
    have hfirst : Message.frames (m :: after) = m.frame ++ Message.frames after := rfl
    rw [hfirst] at hmore
    cases hmore with
    | nil => exact .inl (by simp [htaken])
    | cons hnext hrest =>
      rcases m.next_frame_of_long hlong (Message.frames after) with ⟨n, hrefused⟩ | hcut
      · cases hrefused.symm.trans hnext
      · obtain ⟨front, back, hbytes, hback, hfound, n, hrefused⟩ := hcut
        obtain ⟨rfl, rfl⟩ := Frame.Arrival.frame.inj (hfound.symm.trans hnext)
        obtain rfl := hrest.eq_nil_of_stuck (by simp [hrefused])
        obtain ⟨err, herr⟩ := Message.parse_cut hbytes hback
        exact .inr ⟨front, err, htaken, herr⟩
  case next =>
    intro before m after hwritten _ htaken hopen
    exact h.coming hwritten htaken hopen
  case accepts =>
    intro before m after hwritten hfits htaken hphase harrived
    have hopen : a.channel.isClosed = false := ChannelEnd.isOpen_of_phase hphase
    have hcoming := h.coming hwritten htaken hopen
    have hfirst : m.frame <+: a.channel.arrived ++ a.wire := hcoming ▸ List.prefix_append _ _
    have hbegin : a.channel.arrived <+: a.channel.arrived ++ a.wire := List.prefix_append _ _
    obtain ⟨more, hmore⟩ := List.prefix_of_prefix_length_le hfirst hbegin harrived
    have hnext := Frame.next_encode hfits more
    exact turn_read_frame hphase (hmore ▸ hnext)
  case refuses =>
    intro before m after hwritten hlong htaken hphase harrived
    have hopen : a.channel.isClosed = false := ChannelEnd.isOpen_of_phase hphase
    have hnext := hlong.next_frame (Message.frames after)
    have hall : Frame.next (a.channel.arrived ++ a.wire) = .tooLong m.bytes.length :=
      (h.coming hwritten htaken hopen).symm ▸ hnext
    exact turn_read_tooLong hphase (Frame.next_tooLong_of_append harrived hall)
  case unreadable => exact h.unreadable

/-- Two ends that have just been connected follow each other. -/
theorem follows_start (name : String) (pid other : UInt32) :
    Follows (start name pid other : Station τ) (start name other pid) := by
  constructor
  case stream => exact ⟨_, .nil _, fun _ => rfl⟩
  case exhausted =>
    intro _ hinput
    cases hinput
  case unreadable =>
    intro hmem
    cases hmem

/-- An end whose handshake has succeeded, and to which nothing is under way. -/
def opened (name : String) (pid other : UInt32) : Station τ where
  channel := { name, phase := .opened }
  wire := []
  written := [Handshake.greeting pid name]
  taken := [(Handshake.greeting other name).bytes]
  events := [.connected other]

/-- **An end opens once the hello of the other one has arrived.** -/
theorem opens (name : String) (pid : UInt32) {other : UInt32}
    (hother : ProcessHandle.isValidPid other = true)
    (hfits : (Handshake.greeting other name).Fits) (b b' : Station τ) :
    ((start name pid other : Station τ).turn b (.arrive (maxFrameSize + 4))).1.turn b' .read
      = (opened name pid other, b') := by
  have hwire : (start name pid other : Station τ).wire = (Handshake.greeting other name).frame := by
    simp [start, ChannelEnd.connecting, ChannelEnd.listening, ChannelEnd.accept,
      ChannelOutput.bytes]
  have hlength : (Handshake.greeting other name).frame.length ≤ maxFrameSize + 4 := by
    rw [Message.length_frame]
    exact Nat.add_le_add_right hfits 4
  -- the end with the hello that has arrived
  obtain ⟨e, he⟩ : ∃ e : ChannelEnd τ,
      e = { name, phase := .greeting, arrived := (Handshake.greeting other name).frame } := ⟨_, rfl⟩
  have harrived : ((start name pid other : Station τ).turn b (.arrive (maxFrameSize + 4))).1
      = { channel := e, wire := [], written := [Handshake.greeting pid name] } := by
    simp only [turn_arrive, hwire, List.take_of_length_le hlength, List.drop_eq_nil_of_le hlength, he]
    rfl
  have hnext : Frame.next e.arrived = .frame (Handshake.greeting other name).bytes [] := by
    have hfirst := Frame.next_encode hfits []
    rw [List.append_nil, ← Message.frame] at hfirst
    rw [he]
    exact hfirst
  have hread : e.readNext = ({ events := [.connected other] }, { name, phase := .opened }) := by
    have hcheck : Handshake.check e.name (Handshake.greeting other name).bytes = .ok other := by
      rw [he]
      exact Handshake.check_greeting hother name
    have hopens := ChannelEnd.undergo_read_hello (by rw [he]) hnext hcheck
    rw [he] at hopens ⊢
    exact hopens
  rw [harrived, turn_read, hread, ChannelEnd.front_of_next (.inl (he ▸ rfl)) hnext]
  simp [opened, ChannelOutput.bytes]

end Station

/-! ## 6. Runs -/

/-- **Two ends and the connection between them.** -/
structure Line (τ : Type) where
  left : Station τ
  right : Station τ

namespace Line

/-- The ends of a channel that have just been connected, with their processes. -/
def start (name : String) (pid other : UInt32) : Line τ :=
  ⟨Station.start name pid other, Station.start name other pid⟩

/-- Something happens at one end. -/
def step (l : Line τ) : Side × WireTurn τ → Line τ
  | (.left, t) => let x := l.left.turn l.right t; ⟨x.1, x.2⟩
  | (.right, t) => let x := l.right.turn l.left t; ⟨x.2, x.1⟩

/-- **A run**: what happens at either end, in any order. -/
def run (l : Line τ) (ts : List (Side × WireTurn τ)) : Line τ := ts.foldl step l

/-- One run behind another. -/
theorem run_append (l : Line τ) (ts us : List (Side × WireTurn τ)) :
    l.run (ts ++ us) = (l.run ts).run us :=
  List.foldl_append

/-- **The ends follow each other**, and are over for a reason. -/
structure Sound (l : Line τ) : Prop where
  left : l.left.Follows l.right
  right : l.right.Follows l.left
  excused : l.left.Excused l.right

/-- They do so at the start, -/
theorem sound_start (name : String) (pid other : UInt32) :
    (start name pid other : Line τ).Sound where
  left := Station.follows_start name pid other
  right := Station.follows_start name other pid
  excused := by
    rintro (hclosed | hclosed) <;> cases hclosed

/-- and whatever happens. -/
theorem Sound.step {l : Line τ} (h : l.Sound) (t : Side × WireTurn τ) : (l.step t).Sound := by
  obtain ⟨_ | _, t⟩ := t
  · have hc := l.left.change_turn l.right t
    exact ⟨hc.follows h.left, hc.followed h.right, hc.excused h.excused h.left⟩
  · have hc := l.right.change_turn l.left t
    exact ⟨hc.followed h.left, hc.follows h.right, (hc.excused h.excused.symm h.right).symm⟩

/-- So they do after every run. -/
theorem Sound.run {l : Line τ} (h : l.Sound) (ts : List (Side × WireTurn τ)) :
    (l.run ts).Sound := by
  induction ts generalizing l with
  | nil => exact h
  | cons t ts ih => exact ih (h.step t)

/-- Both ends open for each other. -/
def greetings : List (Side × WireTurn τ) :=
  [(.left, .arrive (maxFrameSize + 4)), (.left, .read), (.right, .arrive (maxFrameSize + 4)),
    (.right, .read)]

/-- **The ends of a channel open for each other.** -/
theorem run_greetings (name : String) {pid other : UInt32}
    (hpid : ProcessHandle.isValidPid pid = true) (hother : ProcessHandle.isValidPid other = true)
    (hfits : (Handshake.greeting pid name).Fits) (hfits' : (Handshake.greeting other name).Fits) :
    (start name pid other : Line τ).run greetings
      = ⟨.opened name pid other, .opened name other pid⟩ := by
  have harrive : ∀ (l : Line τ) n,
      l.step (.left, .arrive n) = ⟨(l.left.turn l.right (.arrive n)).1, l.right⟩ ∧
        l.step (.right, .arrive n) = ⟨l.left, (l.right.turn l.left (.arrive n)).1⟩ := fun l n => by
    simp [step, Station.turn_arrive]
  have hleft := Station.opens name pid hother hfits' (.start name other pid : Station τ)
    (.start name other pid)
  have hright := Station.opens name other hpid hfits (.opened name pid other : Station τ)
    (.opened name pid other)
  simp only [run, greetings, List.foldl_cons, List.foldl_nil, (harrive _ _).1]
  rw [step, start, hleft]
  simp only [(harrive _ _).2]
  rw [step, hright]

/-- A message is handed over and written, and its length arrives at the other end. -/
def sending (m : Message) : List (Side × WireTurn τ) :=
  [(.left, .send m), (.left, .write), (.right, .arrive 4)]

/-- **A message that is too long ends an open channel.**  It is accepted and written, and the other
end gives up on the channel when it reads its length. -/
theorem unreadable_of_overlong (name : String) (pid other : UInt32) {m : Message}
    (hlong : m.Overlong) :
    ((⟨.opened name pid other, .opened name other pid⟩ : Line τ).run
        (sending m ++ [(.right, .read)])).right.events
      = [.connected pid, .failed .unreadable] := by
  have hlength : 4 ≤ (m.frame.take 4).length := by
    rw [List.length_take, m.length_frame]
    omega
  have hall := hlong.next_frame []
  rw [List.append_nil, ← List.take_append_drop 4 m.frame] at hall
  have hnext : Frame.next (m.frame.take 4) = .tooLong m.bytes.length :=
    Frame.next_tooLong_of_append hlength hall
  have hwritten : (⟨.opened name pid other, .opened name other pid⟩ : Line τ).run (sending m)
      = ⟨{ (.opened name pid other : Station τ) with
            written := [Handshake.greeting pid name, m] },
          { (.opened name other pid : Station τ) with
            channel := { name, phase := .opened, arrived := m.frame.take 4 }
            wire := m.frame.drop 4 }⟩ := by
    simp [run, step, sending, Station.turn, Station.allows, Station.record, Station.opened,
      ChannelTurn.taking, ChannelTurn.left, ChannelTurn.payloads, ChannelTurn.failsRead,
      ChannelTurn.failsWrite, ChannelEnd.undergo, ChannelEnd.send, ChannelEnd.isClosed,
      ChannelEnd.writeNext, ChannelEnd.write?, ChannelEnd.arrive, ChannelOutput.bytes]
  rw [run_append, hwritten]
  exact Station.turn_read_tooLong (b := .opened name pid other) rfl hnext

/-- **What two ends make of each other's messages**, whatever their size. -/
structure Framed (l : Line τ) : Prop where
  left : l.left.Reads l.right
  right : l.right.Reads l.left
  /-- While all that was written fits and the connection holds, no end is over but for a handshake
  that failed. -/
  lasts : (∀ m ∈ l.left.written ++ l.right.written, m.Fits) →
    ¬ l.left.Broken → ¬ l.right.Broken →
    .failed .noHandshake ∉ l.left.events ++ l.right.events →
    l.left.channel.isClosed = false ∧ l.right.channel.isClosed = false

/-- **The ends of a channel agree on every message that fits**, in every run from their hellos
on. -/
theorem framed_run (name : String) (pid other : UInt32) (ts : List (Side × WireTurn τ)) :
    ((start name pid other : Line τ).run ts).Framed := by
  have hsound := (sound_start name pid other : (start name pid other : Line τ).Sound).run ts
  generalize (start name pid other : Line τ).run ts = l at hsound
  constructor
  case left => exact hsound.left.reads
  case right => exact hsound.right.reads
  case lasts =>
    intro hfits hleft hright hgreeted
    have hreadable := hsound.left.readable (fun m hm => hfits m (List.mem_append_right _ hm)) hleft
    have hreadable' := hsound.right.readable (fun m hm => hfits m (List.mem_append_left _ hm)) hright
    have hlive : ¬ (l.left.channel.isClosed = true ∨ l.right.channel.isClosed = true) := by
      intro hclosed
      rcases hsound.excused hclosed with ⟨ending, rfl | rfl, hmem⟩ | hbroken | hbroken
      · exact hgreeted hmem
      · exact (List.mem_append.1 hmem).elim hreadable hreadable'
      · exact hleft hbroken
      · exact hright hbroken
    simpa using hlive

/-- **One byte more than fits makes a channel unreadable**, from the hellos on. -/
theorem overlong_unreadable :
    (Message.filled (maxFrameSize - 44)).bytes.length = maxFrameSize + 1 ∧
      ((start "0.3.0.1.5" 1 2 : Line Empty).run (greetings ++
        (sending (Message.filled (maxFrameSize - 44)) ++ [(.right, .read)]))).right.events
        = [.connected 1, .failed .unreadable] := by
  refine ⟨Message.length_filled _, ?_⟩
  have hopen : (start "0.3.0.1.5" 1 2 : Line Empty).run greetings
      = ⟨.opened "0.3.0.1.5" 1 2, .opened "0.3.0.1.5" 2 1⟩ :=
    run_greetings _ (by decide) (by decide) (by decide +kernel) (by decide +kernel)
  rw [run_append, hopen]
  exact unreadable_of_overlong _ _ _ Message.overlong_filled

end Line

end ControlPlane
