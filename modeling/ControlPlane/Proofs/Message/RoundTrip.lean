/-
# Messages that come back

A message goes over a connection as a frame around its text.  What leaves no trace in the text, a
flag that is not set or a request id that is not there, is filled in by the reader, so nothing is
lost; and since the reader gives back one message for each text, no text stands for two.

* `Json.Integral`, `Json.Integral.numbersKept`: values without reals, whose numbers all come back;
* `Message.Portable`: the messages that the limits of both readers let pass;
* `Message.Writes`, `Message.mem_members_iff`: the members that a message is written with;
* `Message.Survives`, `Message.survives_of_portable`: what becomes of such a message on its way.

The depth is limited by the reader of messages, the length by the reader of frames.  Reals are left
out because some of them come back as a neighbour.
-/
import ControlPlane.Proofs.Frame
import ControlPlane.Proofs.Message.Echo

namespace ControlPlane

/-! ## 1. Values without reals -/

namespace Json

mutual

/-- **No number in the value is a real.** -/
def Integral : Json → Prop
  | .number (.real _) => False
  | .array xs => IntegralItems xs
  | .object ms => IntegralMembers ms
  | _ => True

/-- `Integral` of every item. -/
def IntegralItems : List Json → Prop
  | [] => True
  | x :: xs => Integral x ∧ IntegralItems xs

/-- `Integral` of every member's value. -/
def IntegralMembers : List (String × Json) → Prop
  | [] => True
  | (_, x) :: xs => Integral x ∧ IntegralMembers xs

end

mutual

/-- **The numbers of a value without reals come back as they were**: those of 64 bits, with or
without a sign, are read exactly. -/
theorem Integral.numbersKept : ∀ {v : Json}, v.Integral → v.NumbersKept
  | .null, _ | .bool _, _ | .string _, _ => trivial
  | .number (.natural _), _ | .number (.negative _), _ => rfl
  | .number (.real _), h => h.elim
  | .array _, h => IntegralItems.numbersKept h
  | .object _, h => IntegralMembers.numbersKept h

/-- The numbers of items without reals. -/
theorem IntegralItems.numbersKept : ∀ {xs : List Json}, IntegralItems xs → NumbersKeptItems xs
  | [], _ => trivial
  | _ :: _, h => ⟨Integral.numbersKept h.1, IntegralItems.numbersKept h.2⟩

/-- The numbers of members without reals. -/
theorem IntegralMembers.numbersKept :
    ∀ {ms : List (String × Json)}, IntegralMembers ms → NumbersKeptMembers ms
  | [], _ => trivial
  | _ :: _, h => ⟨Integral.numbersKept h.1, IntegralMembers.numbersKept h.2⟩

end

/-- Members are nested as deep as the deepest of them. -/
theorem nestingMembers_append (ms ns : List (String × Json)) :
    nestingMembers (ms ++ ns) = max (nestingMembers ms) (nestingMembers ns) := by
  induction ms with
  | nil => exact (Nat.zero_max _).symm
  | cons m ms ih =>
    obtain ⟨k, v⟩ := m
    rw [List.cons_append, nestingMembers, nestingMembers, ih, Nat.max_assoc]

/-- Values with the same text have the same bytes. -/
theorem bytes_eq_of_text_eq {v w : Json} (h : v.text = w.text) : v.bytes = w.bytes := by
  have hchars : v.chars = w.chars := by simpa [text] using congrArg String.toList h
  rw [bytes, bytes, hchars]

end Json

/-! ## 2. The text of a message -/

namespace Message

/-- **The members that a message is written with**: a flag only if it is set, and a request id only
if it is there. -/
def Writes (m : Message) (key : String) : Prop :=
  key = "routing_id" ∨ key = "type_id" ∨ key = "sync" ∧ m.sync = true
    ∨ key = "reply" ∧ m.reply = true ∨ key = "reply_error" ∧ m.failed = true
    ∨ key = "request_id" ∧ m.request.isSome = true ∨ key = "payload"

/-- A flag is a member if it is set. -/
theorem mem_flag_iff {name key : String} {b : Bool} :
    key ∈ (flag name b).map (·.1) ↔ key = name ∧ b = true := by
  cases b <;> simp [flag]

/-- A request id is a member if it is there. -/
theorem mem_requestMembers_iff {key : String} {r : Option UInt64} :
    key ∈ (requestMembers r).map (·.1) ↔ key = "request_id" ∧ r.isSome = true := by
  cases r <;> simp [requestMembers]

/-- **A message is written as an object with these members and no others.** -/
theorem document_members (m : Message) :
    ∃ members, m.document = .object members ∧ ∀ key, key ∈ members.map (·.1) ↔ m.Writes key := by
  refine ⟨_, m.document_eq, fun key => ?_⟩
  rw [List.map_cons, List.mem_cons]
  simp only [lateMembers, List.map_cons, List.map_append, List.mem_cons, List.mem_append,
    mem_flag_iff, mem_requestMembers_iff, List.map_nil, List.not_mem_nil, or_false]
  exact Iff.rfl

/-- **The text of a message is nested one level deeper than its payload.** -/
theorem nesting_document (m : Message) : m.document.nesting = 1 + m.payload.nesting := by
  have hflag : ∀ name b, Json.nestingMembers (flag name b) = 0 := by
    intro name b
    cases b <;> rfl
  have hrequest : Json.nestingMembers (requestMembers m.request) = 0 := by
    cases m.request <;> rfl
  have hnumber : ∀ n, (Json.ofUInt32 n).nesting = 0 := fun _ => rfl
  rw [document_eq]
  simp only [Json.nesting, Json.nestingMembers, lateMembers, Json.nestingMembers_append, hflag,
    hrequest, hnumber, Nat.zero_max, Nat.max_zero]

/-! ## 3. Messages on their way -/

/-- **A message that the readers let pass**: its payload has no reals, and its objects list their
keys in order; its text is nested less than 128 levels deep, and takes 16 MiB at most. -/
structure Portable (m : Message) : Prop where
  integral : m.payload.Integral
  ordered : m.payload.Ordered
  shallow : m.document.nesting < 128
  short : m.bytes.length ≤ 16 * 1024 * 1024

/-- The payload of such a message comes back. -/
theorem Portable.kept {m : Message} (h : m.Portable) : m.payload.Kept := by
  have hdeep := h.shallow
  rw [nesting_document] at hdeep
  refine ⟨h.integral.numbersKept, h.ordered, ?_⟩
  show m.payload.nesting ≤ 127 - 1
  omega

/-- **A message comes back as it was.** -/
structure Survives (m : Message) : Prop where
  /-- The reader of frames takes its text out of a stream, and leaves what stands behind it. -/
  framed : ∀ rest, Frame.read (m.frame ++ rest) = .frame m.bytes rest
  /-- So does the reader of what has arrived so far. -/
  arrived : ∀ rest, Frame.next (m.frame ++ rest) = .frame m.bytes rest
  /-- The reader of messages finds the message in its text, also what is not written. -/
  parsed : Message.parse m.bytes = .ok m
  /-- Only flags that are not set and a request id that is not there are left out. -/
  written : ∃ members, m.document = .object members ∧ ∀ key, key ∈ members.map (·.1) ↔ m.Writes key
  /-- No other message has its text. -/
  unique : ∀ m' : Message, m'.Portable → m'.text = m.text → m' = m

/-- **A message that the readers let pass comes back as it was**, whatever its address, its type,
its flags and its request id. -/
theorem survives_of_portable {m : Message} (h : m.Portable) : m.Survives where
  framed rest := by
    have hnext := Frame.next_encode h.short rest
    rw [frame, Frame.read, hnext]
  arrived rest := Frame.next_encode h.short rest
  parsed := parse_of_kept h.kept
  written := m.document_members
  unique m' h' htext := by
    have hbytes : m'.bytes = m.bytes := Json.bytes_eq_of_text_eq htext
    have hparsed : Message.parse m.bytes = .ok m' := hbytes ▸ parse_of_kept h'.kept
    rw [parse_of_kept h.kept, Except.ok.injEq] at hparsed
    exact hparsed.symm

/-- A failed reply with the largest request id.  In its payload are the least and the largest
integer, a key with a quote, a string with a control and a character beyond 16 bits, and empty lists
and objects. -/
def awkward : Message :=
  { address := .control
    type := 0xFFFFFFFF
    reply := true
    failed := true
    request := some 0xFFFFFFFFFFFFFFFF
    payload := .object [
      ("", .array [.number (.negative ⟨0x7FFFFFFFFFFFFFFF, by decide⟩),
        .number (.natural 0xFFFFFFFFFFFFFFFF), .object [], .array []]),
      ("a\"b", .string "\x00\\😀"), ("sync", .bool true)] }

/-- Such a message comes back as well. -/
theorem survives_of_portable_awkward : awkward.Portable ∧ awkward.Survives := by
  have hportable : awkward.Portable :=
    { integral := by simp [awkward, Json.Integral, Json.IntegralMembers, Json.IntegralItems]
      ordered := by
        refine ⟨?_, ⟨trivial, trivial, ⟨List.Pairwise.nil, trivial⟩, trivial, trivial⟩, trivial,
          trivial, trivial⟩
        show ["", "a\"b", "sync"].Pairwise (· < ·)
        decide
      shallow := by decide
      short := by decide +kernel }
  exact ⟨hportable, survives_of_portable hportable⟩

end Message

end ControlPlane
