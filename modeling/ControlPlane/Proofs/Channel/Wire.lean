/-
# Messages under way

What is under way to an end is the frames of the messages that were written to it.  An end writes any
message, and refuses a frame that is too long for it; so such a message is as far as its reader comes.

* `Message.Fits`, `Message.frames`: messages that are accepted, and messages as they go out;
* `Message.next_frame_of_long`: what is found of a message that does not fit;
* `next_frames`: the next frame that an end reads is the first one that is not read yet;
* `Message.noticed`: what a peer that has asked for nothing hears of a message.

The length of a message that does not even fit into 32 bits is written as another one.  A beginning of
the message may be read as a frame then, but not as a message; and what follows is text, which makes a
length that is not accepted.
-/
import ControlPlane.Proofs.Frame
import ControlPlane.Proofs.Message.Cut
import ControlPlane.Proofs.Peer.Replies

namespace ControlPlane

/-! ## 1. Messages that do not fit -/

/-- A message fits into a frame. -/
def Message.Fits (m : Message) : Prop := m.bytes.length ≤ maxFrameSize

instance (m : Message) : Decidable m.Fits := inferInstanceAs (Decidable (_ ≤ _))

/-- **A text is no length** that is accepted. -/
theorem Json.Clear.next_tooLong {bs : Bytes} (h : Json.Clear bs) (hlength : 4 ≤ bs.length)
    (more : Bytes) : ∃ n, Frame.next (bs ++ more) = .tooLong n := by
  match bs, hlength with
  | a :: b :: c :: d :: bs, _ =>
    have ha : 0x20 ≤ a.toNat := h a List.mem_cons_self
    have hmax : maxFrameSize = 2 ^ 24 := by decide
    have hword := BigEndian.toNat_ofBytes32 a b c d
    refine ⟨_, if_pos ?_⟩
    rw [hword, hmax]
    omega

/-- **What is found of a message that does not fit** is a length that is not accepted; or, if its own
length does not fit into 32 bits, a beginning of it, and such a length behind that. -/
theorem Message.next_frame_of_long {m : Message} (hlong : ¬ m.Fits) (behind : Bytes) :
    (∃ n, Frame.next (m.frame ++ behind) = .tooLong n) ∨
      ∃ front back, m.bytes = front ++ back ∧ back ≠ [] ∧
        Frame.next (m.frame ++ behind) = .frame front (back ++ behind) ∧
        ∃ n, Frame.next (back ++ behind) = .tooLong n := by
  have hmax : maxFrameSize = 2 ^ 24 := by decide
  have hlength : 2 ^ 24 < m.bytes.length := hmax ▸ Nat.lt_of_not_le hlong
  -- the length that is written
  obtain ⟨n, hn⟩ : ∃ n, n = (UInt32.ofNat m.bytes.length).toNat := ⟨_, rfl⟩
  have hwritten : n = m.bytes.length % 2 ^ 32 := hn.trans (UInt32.toNat_ofNat ..)
  have hnext : Frame.next (m.frame ++ behind)
      = if maxFrameSize < n then .tooLong n
        else if (m.bytes ++ behind).length < n then .partly true
        else .frame ((m.bytes ++ behind).take n) ((m.bytes ++ behind).drop n) := by
    simp only [frame, Frame.encode, BigEndian.word32, List.cons_append, List.nil_append, Frame.next,
      BigEndian.ofBytes32_word32, hn]
  rcases Nat.lt_or_ge maxFrameSize n with hrefused | haccepted
  · exact .inl ⟨n, hnext.trans (if_pos hrefused)⟩
  · rw [hmax] at haccepted
    have hshort : n + 4 ≤ m.bytes.length := by omega
    refine .inr ⟨m.bytes.take n, m.bytes.drop n, (List.take_append_drop ..).symm, ?_, ?_, ?_⟩
    · exact List.ne_nil_of_length_pos (by rw [List.length_drop]; omega)
    · rw [hnext, if_neg (by omega), if_neg (by rw [List.length_append]; omega),
        List.take_append_of_le_length (by omega), List.drop_append_of_le_length (by omega)]
    · have hclear : Json.Clear (m.bytes.drop n) := fun b hb =>
        Json.clear_bytes m.document b (List.mem_of_mem_drop hb)
      exact hclear.next_tooLong (by rw [List.length_drop]; omega) behind

/-! ## 2. Frames under way -/

/-- Messages as they go over a connection. -/
def Message.frames (ms : List Message) : Bytes := ms.flatMap Message.frame

/-- Messages go over a connection one after the other. -/
theorem Message.frames_append (ms ns : List Message) :
    Message.frames (ms ++ ns) = Message.frames ms ++ Message.frames ns := List.flatMap_append

/-- **Nothing more is read** of what has arrived and what is under way: it begins with a length that
is not accepted. -/
def Jammed (bs : Bytes) : Prop := ∃ n, Frame.next bs = .tooLong n

/-- What is written behind that makes no difference. -/
theorem Jammed.more {bs : Bytes} (h : Jammed bs) (more : Bytes) : Jammed (bs ++ more) :=
  h.imp fun _ hn => Frame.next_append_tooLong hn more

/-- No frame is found there. -/
theorem Jammed.no_frame {arrived wire : Bytes} (h : Jammed (arrived ++ wire)) (payload rest : Bytes) :
    Frame.next arrived ≠ .frame payload rest := by
  intro hnext
  obtain ⟨n, hn⟩ := h
  cases hn.symm.trans (Frame.next_append hnext wire)

/-- **The next frame that is read is the first one that was not read yet**, and the others follow:
some of them have arrived, and the rest is under way.  Or it is no message, and the last frame. -/
theorem next_frames {arrived wire payload rest : Bytes} {ms : List Message}
    (hall : arrived ++ wire = Message.frames ms) (hnext : Frame.next arrived = .frame payload rest) :
    ∃ m ms', ms = m :: ms' ∧
      (payload = m.bytes ∧ rest ++ wire = Message.frames ms' ∨
        (∃ err, Message.parse payload = .error err) ∧ Jammed (rest ++ wire)) := by
  have hwhole := Frame.next_append hnext wire
  rw [hall] at hwhole
  cases ms with
  | nil => simp [Message.frames, Frame.next] at hwhole
  | cons m ms' =>
    refine ⟨m, ms', rfl, ?_⟩
    have hfirst : Message.frames (m :: ms') = m.frame ++ Message.frames ms' := rfl
    rw [hfirst] at hwhole
    by_cases hfits : m.Fits
    · rw [Message.frame, Frame.next_encode hfits] at hwhole
      simp only [Frame.Arrival.frame.injEq] at hwhole
      exact .inl ⟨hwhole.1.symm, hwhole.2.symm⟩
    · rcases Message.next_frame_of_long hfits (Message.frames ms') with ⟨n, hlong⟩ | hcut
      · cases hlong.symm.trans hwhole
      · obtain ⟨front, back, hbytes, hback, hfound, hjammed⟩ := hcut
        obtain ⟨rfl, hrest⟩ := Frame.Arrival.frame.inj (hfound.symm.trans hwhole)
        exact .inr ⟨Message.parse_cut hbytes hback, hrest ▸ hjammed⟩

/-- **What a peer that has asked for nothing hears of a message** when its frame is read. -/
def Message.noticed (m : Message) : ChannelEvent :=
  match Message.parse m.bytes with
  | .ok m' =>
    if m'.reply then .badMessage (ProtocolFault.strayReply (m'.request.getD 0)).message
    else ChannelEnd.eventOf m'
  | .error err => .badMessage (ChannelEnd.undecodable err)

/-- An end that nobody waits at reports each frame, and does nothing else. -/
theorem ChannelEnd.takeFrame_noticed (e : ChannelEnd Empty) (m : Message) :
    e.takeFrame m.bytes = ({ events := [m.noticed] }, e) := by
  unfold takeFrame Message.noticed
  cases Message.parse m.bytes with
  | error err => rfl
  | ok m' =>
    simp only [takeMessage, takeReply, waiter?, eventOf]
    cases hreply : m'.reply with
    | false =>
      simp only [Bool.false_eq_true, if_false]
      split <;> rfl
    | true =>
      have hnone : m'.request.bind e.pending.get? = none := by
        cases h : m'.request.bind e.pending.get? with
        | none => rfl
        | some t => exact t.elim
      simp only [hnone, if_true]

/-- **A message that is heard is the one that was written**, but for its payload, and no reply. -/
theorem Message.of_noticed {m m' : Message} (h : m.noticed = .message m') :
    m.reply = false ∧ m'.request = m.request := by
  unfold noticed at h
  rw [Message.parse_bytes] at h
  cases hecho : Json.echo (Json.levels - 1) m.payload with
  | error err => simp [hecho, Except.map] at h
  | ok p =>
    simp only [hecho, Except.map, ChannelEnd.eventOf] at h
    cases hreply : m.reply with
    | true => simp [hreply] at h
    | false =>
      simp only [hreply, Bool.false_eq_true, if_false] at h
      split at h
      · cases h
      · cases h
        exact ⟨rfl, rfl⟩

end ControlPlane
