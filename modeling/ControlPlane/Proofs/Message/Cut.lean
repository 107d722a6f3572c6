/-
# A message that is cut

The text of a message that is cut short is no message: its object is open.  And nothing in the text of
a message is a control, wherever it is cut.

* `Json.clear_bytes`: the text of a value has no controls;
* `Message.read_more`: the reader of messages stops at the end of an object;
* `Message.parse_cut`: a text that is cut short is not read.
-/
import ControlPlane.Proofs.Json.Delimited
import ControlPlane.Proofs.Message.Echo

namespace ControlPlane

open Text.Utf8 (encodeChars)

/-! ## 1. Texts without controls -/

namespace Json

/-- No byte is a control. -/
def Clear (bs : Bytes) : Prop := ∀ b ∈ bs, 0x20 ≤ b

instance (bs : Bytes) : Decidable (Clear bs) := List.decidableBAll _ bs

theorem Clear.append {bs cs : Bytes} (hbs : Clear bs) (hcs : Clear cs) : Clear (bs ++ cs) :=
  List.forall_mem_append.mpr ⟨hbs, hcs⟩

theorem Clear.cons {b : UInt8} {bs : Bytes} (hb : 0x20 ≤ b) (hbs : Clear bs) : Clear (b :: bs) :=
  List.forall_mem_cons.mpr ⟨hb, hbs⟩

/-- Digits are no controls. -/
theorem AllDigits.clear {bs : Bytes} (h : AllDigits bs) : Clear bs := by
  intro b hb
  have hdigit := h b hb
  simp only [isDigit, Bool.and_eq_true, decide_eq_true_eq] at hdigit
  exact UInt8.le_trans (by decide) hdigit.1

theorem IntegerPart.clear {bs : Bytes} (h : IntegerPart bs) : Clear bs := by
  cases h with
  | zero => decide
  | digits b ds hb hne hds =>
    exact AllDigits.clear (List.forall_mem_cons.mpr ⟨hb, hds⟩)

theorem RealText.clear {bs : Bytes} (h : RealText bs) : Clear bs := by
  have hpower : ∀ {sign : UInt8} {power : Bytes}, sign = 0x2B ∨ sign = 0x2D → AllDigits power →
      Clear (0x65 :: sign :: power) := by
    rintro sign power (rfl | rfl) hpower
    all_goals exact .cons (by decide) (.cons (by decide) hpower.clear)
  cases h with
  | fraction whole digits hwhole hdigits =>
    exact hwhole.clear.append (.cons (by decide) hdigits.clear)
  | scaled whole sign power hwhole hsign hdigits => exact hwhole.clear.append (hpower hsign hdigits)
  | both whole digits sign power hwhole hdigits _ hsign hdigits' =>
    exact hwhole.clear.append (.cons (by decide) (hdigits.clear.append (hpower hsign hdigits')))

theorem clear_number (n : Number) : Clear (encodeChars n.chars) := by
  have hsign : Clear (encodeChars ['-']) := by decide
  have hminus : ∀ {bs}, Clear bs → Clear (encodeChars ['-'] ++ bs) := hsign.append
  cases n with
  | natural n => exact (integerPart_digitBytes n.toNat).clear
  | negative k => exact hminus (integerPart_digitBytes (k.val + 1)).clear
  | real x =>
    have htext := x.realText_unsignedChars.clear
    rw [Number.chars, Real64.chars_eq, encodeChars_append]
    cases x.negative with
    | false => exact htext
    | true => exact hminus htext

theorem clear_escapeChar (c : Char) : Clear (encodeChars (escapeChar c)) := by
  unfold escapeChar
  split
  case _ | _ | _ | _ | _ | _ | _ => decide
  next hquote hslash _ _ _ _ _ =>
    split
    · next hcontrol =>
      have hdigits : ∀ n, n < 0x20 →
          Clear (encodeChars ['\\', 'u', '0', '0', hexDigit (n / 16), hexDigit n]) := by
        decide
      exact hdigits c.toNat hcontrol
    · next hcontrol =>
      intro b hb
      have hplain := isPlain_encodeChar hquote hslash hcontrol b (by simpa [encodeChars] using hb)
      exact UInt8.not_lt.mp hplain.2.2

theorem clear_stringBytes (s : String) : Clear (stringBytes s) := by
  have hchars : ∀ cs : List Char, Clear (encodeChars (cs.flatMap escapeChar)) := by
    intro cs
    induction cs with
    | nil => exact nofun
    | cons c cs ih =>
      rw [List.flatMap_cons, encodeChars_append]
      exact (clear_escapeChar c).append ih
  rw [stringBytes, stringChars, encodeChars_cons, encodeChars_append]
  exact Clear.append (by decide) ((hchars _).append (by decide))

mutual

/-- **No byte of a text is a control.** -/
theorem clear_bytes : ∀ v : Json, Clear v.bytes
  | .null | .bool true | .bool false | .array [] | .object [] => by decide
  | .number n => clear_number n
  | .string s => clear_stringBytes s
  | .array (x :: xs) => by
    rw [bytes_array_cons]
    exact .cons (by decide) ((clear_bytes x).append (clear_itemBytes xs))
  | .object ((k, x) :: ms) => by
    rw [bytes_object_cons]
    exact .cons (by decide) ((clear_stringBytes k).append
      (.cons (by decide) ((clear_bytes x).append (clear_memberBytes ms))))

theorem clear_itemBytes : ∀ xs : List Json, Clear (itemBytes xs)
  | [] => by decide
  | x :: xs => by
    rw [itemBytes_cons]
    exact .cons (by decide) ((clear_bytes x).append (clear_itemBytes xs))

theorem clear_memberBytes : ∀ ms : List (String × Json), Clear (memberBytes ms)
  | [] => by decide
  | (k, x) :: ms => by
    rw [memberBytes_cons]
    exact .cons (by decide) ((clear_stringBytes k).append
      (.cons (by decide) ((clear_bytes x).append (clear_memberBytes ms))))

end

end Json

/-! ## 2. The reader of messages -/

namespace Message

theorem Part.read_more {p : Part} (hp : p ∈ parts) {bs rest : Bytes} {d d' : Draft}
    (h : p.read bs d = .ok (d', rest)) (hrest : rest ≠ []) (more : Bytes) :
    p.read (bs ++ more) d = .ok (d', rest ++ more) := by
  simp only [parts, List.mem_cons, List.not_mem_nil, or_false] at hp
  rcases hp with rfl | rfl | rfl | rfl | rfl | rfl | rfl
  case inl | inr.inl =>
    exact Json.bind_more h fun x hx hend =>
      ⟨_, Json.readNumberAs_more hx (by cases hend; exact hrest) more, by cases hend; rfl⟩
  case inr.inr.inl | inr.inr.inr.inl | inr.inr.inr.inr.inl =>
    exact Json.bind_more h fun x hx hend => ⟨_, Json.readBool_more hx more, by cases hend; rfl⟩
  case inr.inr.inr.inr.inr.inl =>
    exact Json.bind_more h fun x hx hend =>
      ⟨_, Json.readUInt64Option_more hx (by cases hend; exact hrest) more, by cases hend; rfl⟩
  case inr.inr.inr.inr.inr.inr =>
    exact Json.bind_more h fun x hx hend =>
      ⟨_, Json.readValue_more hx (by cases hend; exact hrest) more, by cases hend; rfl⟩

/-- There is no member where nothing is left. -/
theorem readMembers_nil (fuel : Nat) (first : Bool) (d : Draft) :
    readMembers fuel first d [] = .error .endInObject := by
  cases fuel <;> rfl

theorem readMembers_more {fuel fuel' : Nat} (hfuel : fuel ≤ fuel') {first : Bool} {d d' : Draft}
    {bs rest : Bytes} (h : readMembers fuel first d bs = .ok (d', rest)) (more : Bytes) :
    readMembers fuel' first d (bs ++ more) = .ok (d', rest ++ more) := by
  induction fuel generalizing fuel' first d bs with
  | zero => cases h
  | succ fuel ih =>
    obtain ⟨fuel', rfl⟩ : ∃ n, fuel' = n + 1 := ⟨fuel' - 1, by omega⟩
    rw [readMembers] at h ⊢
    refine Json.bind_more h fun x hx h =>
      ⟨_, Json.nextKey_more hx more, Json.branch_more h (fun h => ?_) ?_⟩
    · refine Json.bind_more h fun k hk h => ⟨_, Json.readString_more hk more, ?_⟩
      have hgo : ∀ {d : Draft} {t : Bytes}, readMembers fuel false d t = .ok (d', rest) →
          t ≠ [] ∧ readMembers fuel' false d (t ++ more) = .ok (d', rest ++ more) := by
        intro d t h
        refine ⟨?_, ih (Nat.le_of_succ_le_succ hfuel) h⟩
        rintro rfl
        rw [readMembers_nil] at h
        cases h
      simp only at h ⊢
      cases hfind : parts.find? (·.name == k.1) with
      | none =>
        simp only [hfind] at h ⊢
        refine Json.bind_more h fun c hc h => ⟨_, Json.readColon_more hc more, ?_⟩
        exact Json.bind_more h fun t ht h =>
          ⟨_, Json.skipValue_more ht (hgo h).1 more, (hgo h).2⟩
      | some p =>
        simp only [hfind] at h ⊢
        have hp : p ∈ parts := List.mem_of_find?_eq_some hfind
        refine Json.refused_more h fun h => ?_
        refine Json.bind_more h fun c hc h => ⟨_, Json.readColon_more hc more, ?_⟩
        exact Json.bind_more h fun t ht h =>
          ⟨_, Part.read_more hp ht (hgo h).1 more, (hgo h).2⟩
    · intro h
      cases h
      rfl

/-- **An object ends at its brace**, whatever follows. -/
theorem read_more {bs rest : Bytes} {m : Message} (h : Message.read (0x7B :: bs) = .ok (m, rest))
    (more : Bytes) : Message.read (0x7B :: (bs ++ more)) = .ok (m, rest ++ more) := by
  refine Json.bind_more h fun x hx h => ⟨_, readMembers_more ?_ hx more, ?_⟩
  · simp
  · exact Json.bind_more h fun y hy hend => ⟨y, hy, by cases hend; rfl⟩

/-- What was read as a message is no beginning of a longer text that is read to its end. -/
theorem parse_cut {m : Message} {front back : Bytes} (hbytes : m.bytes = front ++ back)
    (hback : back ≠ []) : ∃ err, Message.parse front = .error err := by
  cases hparse : Message.parse front with
  | error err => exact ⟨err, rfl⟩
  | ok q =>
    exfalso
    obtain ⟨⟨q', rest⟩, hread, -⟩ := Json.bind_eq_ok hparse
    cases front with
    | nil => cases hread
    | cons b s =>
      have hbrace : b = 0x7B := by
        rw [bytes_eq, List.cons_append, List.cons.injEq] at hbytes
        exact hbytes.1.symm
      subst hbrace
      have hwhole := read_more hread back
      rw [← List.cons_append, ← hbytes, read_bytes] at hwhole
      obtain ⟨d, -, hfinish⟩ := Json.bind_eq_ok hwhole
      cases hd : Json.fitting d.finish with
      | error e =>
        rw [hd] at hfinish
        cases hfinish
      | ok m' =>
        rw [hd] at hfinish
        have hrest : [] = rest ++ back := congrArg Prod.snd (Except.ok.inj hfinish)
        exact hback (List.append_eq_nil_iff.mp hrest.symm).2

end Message

end ControlPlane
