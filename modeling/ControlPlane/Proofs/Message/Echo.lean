/-
# Messages read back

What the reader of messages makes of a message that was written.

* `Message.readMembers_bytes`: the members of an object are taken one after the other, whatever
  the values are;
* `Message.read_bytes`, `parse_bytes`: a message is read as it was written, up to the echo of its
  payload.

The payload is the only part whose text is not fixed by its type, and it comes last.  So a payload
can neither set a flag nor take the place of a request id, whatever is in it.
-/
import ControlPlane.Message.Envelope
import ControlPlane.Proofs.Json.Echo

namespace ControlPlane

open Text.Utf8 (encodeChars)
open Json (Ends)

/-! ## 1. The parts of a message -/

namespace Json

/-- A number that fits is read where one is expected. -/
theorem readNumberAs_ofUInt64 {α : Type} {kind : Number → Except Mismatch α} {n : UInt64} {a : α}
    (hkind : kind (.natural n) = .ok a) (expected : String) {rest : Bytes} (hrest : Ends rest) :
    readNumberAs kind expected ((ofUInt64 n).bytes ++ rest) = .ok (a, rest) := by
  have hbytes : (ofUInt64 n).bytes = digitBytes n.toNat := rfl
  obtain ⟨b, bs, hdigits, hb⟩ := (integerPart_digitBytes n.toNat).head
  obtain ⟨hblank, -, -, -, -, -, -, -, hminus⟩ := digit_not hb
  have hread := readNumber_toDigits n.toNat_lt false hrest
  rw [hbytes]
  rw [hdigits, List.cons_append] at hread ⊢
  simp only [readNumberAs, skipBlanks, List.dropWhile_cons, hblank, Bool.false_eq_true, if_false,
    hminus, hb, if_true, hread, finishInteger, Bool.not_false, UInt64.ofNat_toNat, bind,
    Except.bind, hkind]
  rfl

/-- An integer of 32 bits is read as it was written. -/
theorem readUInt32_ofUInt32 (n : UInt32) {rest : Bytes} (hrest : Ends rest) :
    readUInt32 ((ofUInt32 n).bytes ++ rest) = .ok (n, rest) := by
  refine readNumberAs_ofUInt64 ?_ "u32" hrest
  have hlt : n.toNat < UInt32.size := n.toNat_lt
  simp only [Number.asUInt32, Number.below, UInt32.toNat_toUInt64, if_pos hlt]
  simp [Functor.map, Except.map]

/-- An integer of 64 bits is read as it was written. -/
theorem readUInt64Option_ofUInt64 (n : UInt64) {rest : Bytes} (hrest : Ends rest) :
    readUInt64Option ((ofUInt64 n).bytes ++ rest) = .ok (some n, rest) := by
  have hbytes : (ofUInt64 n).bytes = digitBytes n.toNat := rfl
  obtain ⟨b, bs, hdigits, hb⟩ := (integerPart_digitBytes n.toNat).head
  obtain ⟨hblank, -, hn, -⟩ := digit_not hb
  have hread : readUInt64 ((ofUInt64 n).bytes ++ rest) = .ok (n, rest) := by
    refine readNumberAs_ofUInt64 ?_ "u64" hrest
    have hlt : n.toNat < UInt64.size := n.toNat_lt
    simp only [Number.asUInt64, Number.below, if_pos hlt]
    simp [Functor.map, Except.map]
  rw [hbytes] at hread ⊢
  rw [hdigits, List.cons_append] at hread ⊢
  simp only [readUInt64Option, skipBlanks, List.dropWhile_cons, hblank, Bool.false_eq_true,
    if_false, hn, hread, bind, Except.bind]
  rfl

end Json

namespace Message

/-- **A part takes a value**: what it makes of the text of the value alone. -/
def Part.take (p : Part) (v : Json) (d : Draft) : Except ReadError Draft :=
  (p.read v.bytes d).map Prod.fst

/-- **A part reads the value of a member up to what follows it**, and makes `f` of the draft. -/
structure Reads (k : String) (v : Json) (p : Part) (f : Draft → Except ReadError Draft) :
    Prop where
  find : parts.find? (·.name == k) = some p
  read : ∀ d rest, Ends rest → p.read (v.bytes ++ rest) d = (f d).map (·, rest)

/-- What a part makes of a value does not depend on what follows it. -/
theorem Reads.take {k : String} {v : Json} {p : Part} {f : Draft → Except ReadError Draft}
    (h : Reads k v p f) (d : Draft) : p.take v d = f d := by
  have halone := h.read d [] trivial
  rw [List.append_nil] at halone
  rw [Part.take, halone]
  cases f d <;> rfl

/-- There is a part that reads a member. -/
def Readable (member : String × Json) : Prop := ∃ p f, Reads member.1 member.2 p f

/-- A member is taken by its part, and `next` goes on with what comes of it. -/
def takeThen (k : String) (v : Json) (next : Draft → Except ReadError Draft) (d : Draft) :
    Except ReadError Draft :=
  match parts.find? (·.name == k) with
  | some p =>
    if p.isSet d then .error (.mismatch (.duplicateField k)) else (p.take v d).bind next
  | none => next d

/-- **The members of a message taken one after the other.** -/
def takeMembers : List (String × Json) → Draft → Except ReadError Draft
  | [], d => .ok d
  | (k, v) :: ms, d => takeThen k v (takeMembers ms) d

/-! ## 2. The members of an object -/

/-- What is done with a key and all that follows it. -/
def readMember (fuel : Nat) (d : Draft) (name : String) (bs : Bytes) :
    Except ReadError (Draft × Bytes) :=
  match parts.find? (·.name == name) with
  | some p => do
    if p.isSet d then throw (.mismatch (.duplicateField name))
    let (d, bs) ← p.read (← Json.readColon bs) d
    readMembers fuel false d bs
  | none => do readMembers fuel false d (← Json.skipValue (← Json.readColon bs))

/-- A member is read, and then the next ones. -/
theorem readMembers_key {fuel : Nat} {first : Bool} {d : Draft} {bs body rest : Bytes}
    {name : String} (hkey : Json.nextKey first bs = .ok (true, body))
    (hname : Json.readString body = .ok (name, rest)) :
    readMembers (fuel + 1) first d bs = readMember fuel d name rest := by
  rw [readMembers]
  simp only [hkey, hname, bind, Except.bind, if_true]
  rfl

/-- **A member is taken, and then the next ones.** -/
theorem readMember_take {k : String} {v : Json} (hreadable : Readable (k, v)) (fuel : Nat)
    (d : Draft) {rest : Bytes} (hrest : Ends rest)
    {next : Draft → Except ReadError Draft} {after : Bytes}
    (hnext : ∀ d, readMembers fuel false d rest = (next d).map (·, after)) :
    readMember fuel d k (0x3A :: (v.bytes ++ rest)) = (takeThen k v next d).map (·, after) := by
  obtain ⟨p, f, hreads⟩ := hreadable
  have hcolon : Json.readColon (0x3A :: (v.bytes ++ rest)) = .ok (v.bytes ++ rest) := rfl
  simp only [readMember, takeThen, hreads.find, hcolon, bind, Except.bind,
    hreads.read d rest hrest, hreads.take]
  cases hset : p.isSet d with
  | true => rfl
  | false =>
    simp only [Bool.false_eq_true, if_false]
    cases f d with
    | error e => rfl
    | ok d' => exact hnext d'

/-- **The members behind the first one are taken** up to the end of the object. -/
theorem readMembers_bytes {ms : List (String × Json)} (hms : ∀ m ∈ ms, Readable m) {fuel : Nat}
    (hfuel : ms.length < fuel) (d : Draft) (rest : Bytes) :
    readMembers fuel false d (Json.memberBytes ms ++ rest)
      = (takeMembers ms d).map (·, rest) := by
  induction ms generalizing fuel d with
  | nil =>
    obtain ⟨fuel, rfl⟩ : ∃ n, fuel = n + 1 := ⟨fuel - 1, by simp at hfuel; omega⟩
    rw [readMembers]
    rfl
  | cons m ms ih =>
    obtain ⟨k, v⟩ := m
    simp only [List.length_cons] at hfuel
    obtain ⟨fuel, rfl⟩ : ∃ n, fuel = n + 1 := ⟨fuel - 1, by omega⟩
    have hnext : ∀ d, readMembers fuel false d (Json.memberBytes ms ++ rest)
        = (takeMembers ms d).map (·, rest) :=
      ih (fun m hm => hms m (List.mem_cons_of_mem _ hm)) (by omega)
    obtain ⟨body, hkey, hbody⟩ :=
      Json.nextKey_comma k (0x3A :: (v.bytes ++ (Json.memberBytes ms ++ rest)))
    rw [Json.memberBytes_cons, List.cons_append, List.append_assoc, List.cons_append,
      List.append_assoc, readMembers_key hkey (hbody _),
      readMember_take (hms _ List.mem_cons_self) fuel d (Json.ends_memberBytes ms rest) hnext]
    rfl

/-- **An object is taken**, if it has any members. -/
theorem readMembers_object {k : String} {v : Json} {ms : List (String × Json)}
    (hms : ∀ m ∈ (k, v) :: ms, Readable m) {fuel : Nat} (hfuel : ms.length + 1 < fuel)
    (d : Draft) (rest : Bytes) :
    readMembers fuel true d (Json.stringBytes k ++ 0x3A :: (v.bytes ++ Json.memberBytes ms) ++ rest)
      = (takeMembers ((k, v) :: ms) d).map (·, rest) := by
  obtain ⟨fuel, rfl⟩ : ∃ n, fuel = n + 1 := ⟨fuel - 1, by omega⟩
  have hnext : ∀ d, readMembers fuel false d (Json.memberBytes ms ++ rest)
      = (takeMembers ms d).map (·, rest) := fun d =>
    readMembers_bytes (fun m hm => hms m (List.mem_cons_of_mem _ hm)) (by omega) d rest
  obtain ⟨body, hkey, hbody⟩ :=
    Json.nextKey_first k (0x3A :: (v.bytes ++ (Json.memberBytes ms ++ rest)))
  rw [List.append_assoc, List.cons_append, List.append_assoc, readMembers_key hkey (hbody _),
    readMember_take (hms _ List.mem_cons_self) fuel d (Json.ends_memberBytes ms rest) hnext]
  rfl

/-! ## 3. The members of a message -/

/-- A member whose part has taken nothing yet is taken. -/
theorem Reads.takeThen {k : String} {v : Json} {p : Part} {f : Draft → Except ReadError Draft}
    (h : Reads k v p f) {d : Draft} (hset : p.isSet d = false)
    (next : Draft → Except ReadError Draft) :
    takeThen k v next d = (f d).bind next := by
  simp only [Message.takeThen, h.find, hset, h.take]
  rfl

/-- The address. -/
theorem reads_address (n : UInt32) : ∃ p, Reads "routing_id" (.ofUInt32 n) p
    (fun d => .ok { d with address := some ⟨n⟩ }) ∧ ∀ d, p.isSet d = d.address.isSome := by
  refine ⟨_, ⟨rfl, fun d rest hrest => ?_⟩, fun _ => rfl⟩
  simp only [Json.readUInt32_ofUInt32 n hrest, bind, Except.bind]
  rfl

/-- The type. -/
theorem reads_type (n : UInt32) : ∃ p, Reads "type_id" (.ofUInt32 n) p
    (fun d => .ok { d with type := some n }) ∧ ∀ d, p.isSet d = d.type.isSome := by
  refine ⟨_, ⟨rfl, fun d rest hrest => ?_⟩, fun _ => rfl⟩
  simp only [Json.readUInt32_ofUInt32 n hrest, bind, Except.bind]
  rfl

/-- The flag of a message that asks for a reply. -/
theorem reads_sync : ∃ p, Reads "sync" (.bool true) p
    (fun d => .ok { d with sync := some true }) ∧ ∀ d, p.isSet d = d.sync.isSome :=
  ⟨_, ⟨rfl, fun _ _ _ => rfl⟩, fun _ => rfl⟩

/-- The flag of a reply. -/
theorem reads_reply : ∃ p, Reads "reply" (.bool true) p
    (fun d => .ok { d with reply := some true }) ∧ ∀ d, p.isSet d = d.reply.isSome :=
  ⟨_, ⟨rfl, fun _ _ _ => rfl⟩, fun _ => rfl⟩

/-- The flag of a reply that says that the request failed. -/
theorem reads_failed : ∃ p, Reads "reply_error" (.bool true) p
    (fun d => .ok { d with failed := some true }) ∧ ∀ d, p.isSet d = d.failed.isSome :=
  ⟨_, ⟨rfl, fun _ _ _ => rfl⟩, fun _ => rfl⟩

/-- The request id. -/
theorem reads_request (r : UInt64) : ∃ p, Reads "request_id" (.ofUInt64 r) p
    (fun d => .ok { d with request := some (some r) }) ∧ ∀ d, p.isSet d = d.request.isSome := by
  refine ⟨_, ⟨rfl, fun d rest hrest => ?_⟩, fun _ => rfl⟩
  simp only [Json.readUInt64Option_ofUInt64 r hrest, bind, Except.bind]
  rfl

/-- The payload, which need not come back. -/
theorem reads_payload (v : Json) : ∃ p, Reads "payload" v p
    (fun d => (Json.echo (Json.levels - 1) v).map fun w => { d with payload := some w }) ∧
      ∀ d, p.isSet d = d.payload.isSome := by
  refine ⟨_, ⟨rfl, fun d rest hrest => ?_⟩, fun _ => rfl⟩
  simp only [Json.readValue_bytes v _ hrest, bind, Except.bind]
  cases Json.echo (Json.levels - 1) v <;> rfl

/-- A member that is there is taken before the next ones. -/
theorem takeMembers_cons {k : String} {v : Json} {p : Part} {f : Draft → Except ReadError Draft}
    (h : Reads k v p f) {d : Draft} (hset : p.isSet d = false) (ms : List (String × Json)) :
    takeMembers ((k, v) :: ms) d = (f d).bind (takeMembers ms) :=
  h.takeThen hset _

/-- A flag is taken if it is set. -/
theorem takeMembers_flag {k : String} {p : Part} {g : Draft → Draft}
    (h : Reads k (.bool true) p fun d => .ok (g d)) {d : Draft} (hset : p.isSet d = false)
    (b : Bool) (ms : List (String × Json)) :
    takeMembers (flag k b ++ ms) d = takeMembers ms (if b then g d else d) := by
  cases b with
  | false => rfl
  | true => exact takeMembers_cons h hset ms

/-- The member of a request id that is there. -/
def requestMembers : Option UInt64 → List (String × Json)
  | some r => [("request_id", .ofUInt64 r)]
  | none => []

/-- The members of a message behind its address. -/
def lateMembers (m : Message) : List (String × Json) :=
  ("type_id", .ofUInt32 m.type) :: (flag "sync" m.sync ++ (flag "reply" m.reply
    ++ (flag "reply_error" m.failed ++ (requestMembers m.request ++ [("payload", m.payload)]))))

/-- **The object of a message**, its address set apart. -/
theorem document_eq (m : Message) :
    m.document = .object (("routing_id", .ofUInt32 m.address.value) :: m.lateMembers) := by
  simp only [document, lateMembers, List.append_assoc, List.cons_append, List.nil_append]
  cases m.request <;> rfl

/-- There is a part for every member of a message. -/
theorem readable_members (m : Message) :
    ∀ e ∈ ("routing_id", .ofUInt32 m.address.value) :: m.lateMembers, Readable e := by
  have hflag : ∀ {k : String} {b : Bool} {p : Part} {f : Draft → Except ReadError Draft},
      Reads k (.bool true) p f → ∀ e ∈ flag k b, Readable e := by
    intro k b p f h e he
    cases b with
    | false => cases he
    | true =>
      rw [flag, if_pos rfl, List.mem_singleton] at he
      exact he ▸ ⟨p, f, h⟩
  obtain ⟨_, haddress, -⟩ := reads_address m.address.value
  obtain ⟨_, htype, -⟩ := reads_type m.type
  obtain ⟨_, hsync, -⟩ := reads_sync
  obtain ⟨_, hreply, -⟩ := reads_reply
  obtain ⟨_, hfailed, -⟩ := reads_failed
  obtain ⟨_, hpayload, -⟩ := reads_payload m.payload
  intro e he
  simp only [lateMembers, List.mem_cons, List.mem_append, List.not_mem_nil, or_false] at he
  rcases he with rfl | rfl | he | he | he | he | rfl
  · exact ⟨_, _, haddress⟩
  · exact ⟨_, _, htype⟩
  · exact hflag hsync e he
  · exact hflag hreply e he
  · exact hflag hfailed e he
  · cases hr : m.request with
    | none =>
      rw [hr] at he
      cases he
    | some r =>
      obtain ⟨p, hrequest, -⟩ := reads_request r
      rw [hr, requestMembers, List.mem_singleton] at he
      exact he ▸ ⟨p, _, hrequest⟩
  · exact ⟨_, _, hpayload⟩

/-- **The members of a message are taken as the message**, up to the echo of its payload. -/
theorem takeMembers_members (m : Message) :
    (takeMembers (("routing_id", .ofUInt32 m.address.value) :: m.lateMembers) {}).bind
        (fun d => Json.fitting d.finish)
      = (Json.echo (Json.levels - 1) m.payload).map fun v => { m with payload := v } := by
  obtain ⟨address, type, sync, reply, failed, request, payload⟩ := m
  obtain ⟨_, haddress, haddress'⟩ := reads_address address.value
  obtain ⟨_, htype, htype'⟩ := reads_type type
  obtain ⟨_, hsync, hsync'⟩ := reads_sync
  obtain ⟨_, hreply, hreply'⟩ := reads_reply
  obtain ⟨_, hfailed, hfailed'⟩ := reads_failed
  obtain ⟨_, hpayload, hpayload'⟩ := reads_payload payload
  rw [takeMembers_cons haddress (haddress' _)]
  simp only [Except.bind, lateMembers]
  rw [takeMembers_cons htype (htype' _)]
  simp only [Except.bind]
  rw [takeMembers_flag hsync (hsync' _), takeMembers_flag hreply (by cases sync <;> exact hreply' _),
    takeMembers_flag hfailed (by cases sync <;> cases reply <;> exact hfailed' _)]
  cases request with
  | none =>
    rw [requestMembers, List.nil_append, takeMembers_cons hpayload
      (by cases sync <;> cases reply <;> cases failed <;> exact hpayload' _)]
    cases sync <;> cases reply <;> cases failed <;>
      cases Json.echo (Json.levels - 1) payload <;> rfl
  | some r =>
    obtain ⟨_, hrequest, hrequest'⟩ := reads_request r
    rw [requestMembers, List.singleton_append, takeMembers_cons hrequest
      (by cases sync <;> cases reply <;> cases failed <;> exact hrequest' _)]
    simp only [Except.bind]
    rw [takeMembers_cons hpayload
      (by cases sync <;> cases reply <;> cases failed <;> exact hpayload' _)]
    cases sync <;> cases reply <;> cases failed <;>
      cases Json.echo (Json.levels - 1) payload <;> rfl

/-- Every member takes at least one byte. -/
theorem length_le_memberBytes (ms : List (String × Json)) :
    ms.length ≤ (Json.memberBytes ms).length := by
  induction ms with
  | nil => exact Nat.zero_le _
  | cons m ms ih =>
    obtain ⟨k, v⟩ := m
    rw [Json.memberBytes_cons]
    simp only [List.length_cons, List.length_append]
    omega

/-- The text of a message begins with its address. -/
theorem bytes_eq (m : Message) :
    m.bytes = 0x7B :: (Json.stringBytes "routing_id" ++ 0x3A ::
      ((Json.ofUInt32 m.address.value).bytes ++ Json.memberBytes m.lateMembers)) := by
  rw [bytes, document_eq, Json.bytes_object_cons]

/-- **The text of a message is read to its end**, if it is read. -/
theorem read_bytes (m : Message) :
    Message.read m.bytes = (takeMembers
      (("routing_id", .ofUInt32 m.address.value) :: m.lateMembers) {}).bind
        fun d => (Json.fitting d.finish).map (·, []) := by
  have hfuel : m.lateMembers.length + 1 < (Json.stringBytes "routing_id" ++ 0x3A ::
      ((Json.ofUInt32 m.address.value).bytes ++ Json.memberBytes m.lateMembers)).length + 1 := by
    have hlate := length_le_memberBytes m.lateMembers
    simp only [List.length_append, List.length_cons]
    omega
  have hmembers := readMembers_object m.readable_members hfuel {} []
  rw [List.append_nil] at hmembers
  rw [bytes_eq]
  show (do
    let (d, rest) ← readMembers _ true {} _
    return (← Json.fitting d.finish, rest)) = _
  rw [hmembers]
  cases takeMembers (("routing_id", .ofUInt32 m.address.value) :: m.lateMembers) {} with
  | error e => rfl
  | ok d =>
    show (do return (← Json.fitting d.finish, ([] : Bytes))) = (Json.fitting d.finish).map _
    cases Json.fitting d.finish <;> rfl

/-- **A message is read as it was written**, up to the echo of its payload; if the payload does
not come back, neither does the message. -/
theorem parse_bytes (m : Message) :
    Message.parse m.bytes
      = (Json.echo (Json.levels - 1) m.payload).map fun v => { m with payload := v } := by
  rw [← takeMembers_members m, Message.parse, read_bytes]
  cases takeMembers (("routing_id", .ofUInt32 m.address.value) :: m.lateMembers) {} with
  | error e => rfl
  | ok d =>
    show Json.whole ((Json.fitting d.finish).map (·, [])) = Json.fitting d.finish
    cases Json.fitting d.finish <;> rfl

/-- **A message is read as it was written** if its payload comes back. -/
theorem parse_of_kept {m : Message} (h : m.payload.Kept) : Message.parse m.bytes = .ok m := by
  rw [parse_bytes, Json.echo_eq _ _ h.1 h.2.1 h.2.2]
  rfl

end Message

end ControlPlane
