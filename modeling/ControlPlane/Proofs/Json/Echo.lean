/-
# Values read back

What a reader makes of the text of a value, whatever stands behind it.

* `Json.echo`: what a value is read as after it has been written;
* `Json.readValue_bytes`: the text of a value is read as its echo, and nothing behind it is
  touched: no string, key or number in it can end early or run on;
* `Json.echo_eq`: a value whose numbers are kept, in order and not nested too deep, is its own
  echo.

Three things make an echo differ from the value: a real may come back as a neighbour, members
that are out of order come back in order, and a value that is nested too deep does not come back
at all.
-/
import ControlPlane.Proofs.Json.Numbers
import ControlPlane.Proofs.Text.Utf8

namespace ControlPlane.Json

open Text.Utf8 (encodeChars encode)

/-! ## 1. Strings -/

/-- A byte that stands for itself in a string. -/
def IsPlain (b : UInt8) : Prop := b ≠ 0x22 ∧ b ≠ 0x5C ∧ ¬ b < 0x20

/-- Bytes put before a result twice. -/
theorem before_before (a b : Bytes) (r : Except ReadError (Bytes × Bytes)) :
    before a (before b r) = before (a ++ b) r := by
  cases r with
  | ok p => simp [before]
  | error e => rfl

/-- Nothing put before a result. -/
theorem before_nil (r : Except ReadError (Bytes × Bytes)) : before [] r = r := by
  cases r <;> rfl

/-- A quote ends a string. -/
theorem readStringBytes_quote (t : Bytes) : readStringBytes (0x22 :: t) = .ok ([], t) := by
  rw [readStringBytes.eq_def]
  rfl

/-- An escape of one letter. -/
theorem readStringBytes_short {e x : UInt8} (hletter : e ≠ 0x75) (hx : shortEscape? e = some x)
    (t : Bytes) : readStringBytes (0x5C :: e :: t) = before [x] (readStringBytes t) := by
  rw [readStringBytes.eq_def]
  simp [hletter, hx]

/-- An escape of four hexadecimal digits that is no surrogate. -/
theorem readStringBytes_hex {a b c d : UInt8} {n : Nat} (hn : hex4? a b c d = some n)
    (hlow : n < 0xD800) (t : Bytes) : readStringBytes (0x5C :: 0x75 :: a :: b :: c :: d :: t)
      = before (codePointBytes n) (readStringBytes t) := by
  have hnot : ¬ (0xDC00 ≤ n ∧ n ≤ 0xDFFF) := by omega
  rw [readStringBytes.eq_def]
  simp [hn, hlow, hnot]

/-- Plain bytes are read as they are. -/
theorem readStringBytes_plain {bs : Bytes} (h : ∀ b ∈ bs, IsPlain b) (t : Bytes) :
    readStringBytes (bs ++ t) = before bs (readStringBytes t) := by
  induction bs with
  | nil => exact (before_nil _).symm
  | cons b bs ih =>
    obtain ⟨hquote, hslash, hcontrol⟩ := h b List.mem_cons_self
    have hrest := ih fun c hc => h c (List.mem_cons_of_mem b hc)
    rw [List.cons_append, readStringBytes.eq_def]
    simp only [if_neg hquote, if_neg hslash, if_neg hcontrol, hrest, before_before]
    rfl

/-- The bytes of a character that is not escaped are plain. -/
theorem isPlain_encodeChar {c : Char} (hquote : c ≠ '"') (hslash : c ≠ '\\')
    (hcontrol : ¬ c.toNat < 0x20) : ∀ b ∈ String.utf8EncodeChar c, IsPlain b := by
  have hval : c.val.toNat = c.toNat := rfl
  have hlong : ∀ n, 0x80 ≤ n → n < 256 → IsPlain (UInt8.ofNat n) := by
    intro n hn hn'
    have hbyte := Text.Utf8.toNat_byte hn'
    refine ⟨?_, ?_, ?_⟩
    · intro heq
      rw [heq] at hbyte
      simp at hbyte
      omega
    · intro heq
      rw [heq] at hbyte
      simp at hbyte
      omega
    · rw [UInt8.lt_iff_toNat_lt, hbyte]
      simp
      omega
  intro b hb
  simp only [String.utf8EncodeChar, hval] at hb
  split at hb
  · next hsmall =>
    have hbyte := Text.Utf8.toNat_byte (n := c.toNat) (by omega)
    rw [List.mem_singleton] at hb
    subst hb
    refine ⟨?_, ?_, ?_⟩
    · intro heq
      rw [heq] at hbyte
      exact hquote (Char.toNat_inj.1 hbyte.symm)
    · intro heq
      rw [heq] at hbyte
      exact hslash (Char.toNat_inj.1 hbyte.symm)
    · rw [UInt8.lt_iff_toNat_lt, hbyte]
      simpa using hcontrol
  · have hc := Text.Utf8.scalar c
    split at hb
    · simp only [List.mem_cons, List.not_mem_nil, or_false] at hb
      rcases hb with rfl | rfl <;> exact hlong _ (by omega) (by omega)
    · split at hb
      · simp only [List.mem_cons, List.not_mem_nil, or_false] at hb
        rcases hb with rfl | rfl | rfl <;> exact hlong _ (by omega) (by omega)
      · simp only [List.mem_cons, List.not_mem_nil, or_false] at hb
        rcases hb with rfl | rfl | rfl | rfl <;> exact hlong _ (by omega) (by omega)

/-- The two hexadecimal digits of a control give its number. -/
theorem hex4?_control : ∀ n, n < 0x20 →
    hex4? 0x30 0x30 (UInt8.ofNat (hexDigit (n / 16)).toNat) (UInt8.ofNat (hexDigit n).toNat)
      = some n := by
  decide

/-- The hexadecimal digits of a control are one byte each. -/
theorem encodeChar_hexDigit : ∀ n, n < 0x20 →
    String.utf8EncodeChar (hexDigit n) = [UInt8.ofNat (hexDigit n).toNat] := by
  decide

/-- **An escaped character is read as that character.** -/
theorem readStringBytes_escapeChar (c : Char) (t : Bytes) :
    readStringBytes (encodeChars (escapeChar c) ++ t)
      = before (String.utf8EncodeChar c) (readStringBytes t) := by
  unfold escapeChar
  split
  · exact readStringBytes_short (by decide) rfl t
  · exact readStringBytes_short (by decide) rfl t
  · exact readStringBytes_short (by decide) rfl t
  · exact readStringBytes_short (by decide) rfl t
  · exact readStringBytes_short (by decide) rfl t
  · exact readStringBytes_short (by decide) rfl t
  · exact readStringBytes_short (by decide) rfl t
  · next hquote hslash _ _ _ _ _ =>
    split
    · next hcontrol =>
      have hhex := hex4?_control c.toNat hcontrol
      have hbytes : encodeChars
          ['\\', 'u', '0', '0', hexDigit (c.toNat / 16), hexDigit c.toNat]
            = [0x5C, 0x75, 0x30, 0x30, UInt8.ofNat (hexDigit (c.toNat / 16)).toNat,
              UInt8.ofNat (hexDigit c.toNat).toNat] := by
        simp only [encodeChars_cons, encodeChar_hexDigit c.toNat hcontrol,
          encodeChar_hexDigit (c.toNat / 16) (by omega)]
        rfl
      have hpoint : codePointBytes c.toNat = String.utf8EncodeChar c := by
        rw [codePointBytes, Char.ofNat_toNat]
      rw [hbytes, ← hpoint]
      exact readStringBytes_hex hhex (by omega) t
    · next hcontrol =>
      rw [encodeChars_cons]
      show readStringBytes (String.utf8EncodeChar c ++ [] ++ t) = _
      rw [List.append_nil]
      exact readStringBytes_plain (isPlain_encodeChar hquote hslash hcontrol) t

/-- The escaped characters of a string are read up to its closing quote. -/
theorem readStringBytes_escape (cs : List Char) (rest : Bytes) :
    readStringBytes (encodeChars (cs.flatMap escapeChar) ++ 0x22 :: rest)
      = .ok (encodeChars cs, rest) := by
  induction cs with
  | nil => exact readStringBytes_quote rest
  | cons c cs ih =>
    rw [List.flatMap_cons, encodeChars_append, List.append_assoc, readStringBytes_escapeChar, ih]
    rfl

/-- **A string is read as it was written**, behind its opening quote. -/
theorem readString_stringChars (s : String) (rest : Bytes) :
    ∃ body, encodeChars (stringChars s) = 0x22 :: body ∧
      readString (body ++ rest) = .ok (s, rest) := by
  refine ⟨encodeChars (s.toList.flatMap escapeChar) ++ [0x22], ?_, ?_⟩
  · unfold stringChars
    rw [encodeChars_cons, encodeChars_append]
    rfl
  · have hread := readStringBytes_escape s.toList rest
    have hdecode : Text.Utf8.decode? (encodeChars s.toList) = some s :=
      Text.Utf8.decode?_encode s
    rw [List.append_assoc, List.singleton_append]
    simp only [readString, hread, bind, Except.bind, hdecode]
    rfl

/-! ## 2. Echoes -/

mutual

/-- **What a value is read as** after it has been written, by a reader that goes `depth` levels
deep. -/
def echo : (depth : Nat) → Json → Except ReadError Json
  | _, .null => .ok .null
  | _, .bool b => .ok (.bool b)
  | _, .string s => .ok (.string s)
  | _, .number n => n.echo.map .number
  | 0, .array _ => .error .nestedTooDeep
  | depth + 1, .array xs => (echoItems depth xs).map .array
  | 0, .object _ => .error .nestedTooDeep
  | depth + 1, .object ms => (echoMembers depth ms).map ofMembers

/-- The echoes of some items, or that of the first one that is not read. -/
def echoItems : (depth : Nat) → List Json → Except ReadError (List Json)
  | _, [] => .ok []
  | depth, x :: xs => do
    let y ← echo depth x
    let ys ← echoItems depth xs
    return y :: ys

/-- The echoes of some members. -/
def echoMembers : (depth : Nat) → List (String × Json) → Except ReadError (List (String × Json))
  | _, [] => .ok []
  | depth, (k, x) :: xs => do
    let y ← echo depth x
    let ys ← echoMembers depth xs
    return (k, y) :: ys

end

mutual

/-- How often a reader calls itself for a value. -/
def calls : Json → Nat
  | .array xs => 1 + callsItems xs
  | .object ms => 1 + callsMembers ms
  | _ => 1

/-- How often it does so for some items. -/
def callsItems : List Json → Nat
  | [] => 1
  | x :: xs => 1 + calls x + callsItems xs

/-- How often it does so for some members. -/
def callsMembers : List (String × Json) → Nat
  | [] => 1
  | (_, x) :: xs => 1 + calls x + callsMembers xs

end

/-! ## 3. The text of a value -/

/-- The bytes of the items behind the first one. -/
def itemBytes (xs : List Json) : Bytes := encodeChars (itemChars xs)

/-- The bytes of the members behind the first one. -/
def memberBytes (ms : List (String × Json)) : Bytes := encodeChars (memberChars ms)

/-- The bytes of a string between quotes. -/
def stringBytes (s : String) : Bytes := encodeChars (stringChars s)

/-- A list with items. -/
theorem bytes_array_cons (x : Json) (xs : List Json) :
    (array (x :: xs)).bytes = 0x5B :: (x.bytes ++ itemBytes xs) := by
  rw [bytes, chars, encodeChars_cons, encodeChars_append]
  rfl

/-- An object with members. -/
theorem bytes_object_cons (k : String) (x : Json) (ms : List (String × Json)) :
    (object ((k, x) :: ms)).bytes
      = 0x7B :: (stringBytes k ++ 0x3A :: (x.bytes ++ memberBytes ms)) := by
  rw [bytes, chars, encodeChars_cons, encodeChars_append, encodeChars_cons, encodeChars_append]
  rfl

/-- The items behind the first one. -/
theorem itemBytes_cons (x : Json) (xs : List Json) :
    itemBytes (x :: xs) = 0x2C :: (x.bytes ++ itemBytes xs) := by
  rw [itemBytes, itemChars, encodeChars_cons, encodeChars_append]
  rfl

/-- The members behind the first one. -/
theorem memberBytes_cons (k : String) (x : Json) (ms : List (String × Json)) :
    memberBytes ((k, x) :: ms)
      = 0x2C :: (stringBytes k ++ 0x3A :: (x.bytes ++ memberBytes ms)) := by
  rw [memberBytes, memberChars, encodeChars_cons, encodeChars_append, encodeChars_cons,
    encodeChars_append]
  rfl

/-- Neither the items behind a value nor its list's end can belong to a number. -/
theorem ends_itemBytes (xs : List Json) (rest : Bytes) : Ends (itemBytes xs ++ rest) := by
  cases xs with
  | nil => exact ⟨by decide, by decide, by decide, by decide⟩
  | cons x xs =>
    rw [itemBytes_cons]
    exact ⟨by decide, by decide, by decide, by decide⟩

/-- Nor can the members behind a value. -/
theorem ends_memberBytes (ms : List (String × Json)) (rest : Bytes) :
    Ends (memberBytes ms ++ rest) := by
  cases ms with
  | nil => exact ⟨by decide, by decide, by decide, by decide⟩
  | cons m ms =>
    obtain ⟨k, x⟩ := m
    rw [memberBytes_cons]
    exact ⟨by decide, by decide, by decide, by decide⟩

/-- A digit is neither a blank nor a bracket. -/
theorem digit_not {b : UInt8} (h : isDigit b = true) : isBlankByte b = false ∧ b ≠ 0x5D ∧
    b ≠ 0x6E ∧ b ≠ 0x74 ∧ b ≠ 0x66 ∧ b ≠ 0x22 ∧ b ≠ 0x5B ∧ b ≠ 0x7B ∧ b ≠ 0x2D := by
  simp only [isDigit, Bool.and_eq_true, decide_eq_true_eq, UInt8.le_iff_toNat_le] at h
  have hmin : 48 ≤ b.toNat := h.1
  have hmax : b.toNat ≤ 57 := h.2
  simp only [isBlankByte, Bool.or_eq_false_iff, beq_eq_false_iff_ne, ne_eq, ← UInt8.toNat_inj]
  simp
  omega

/-- **The text of a value** starts neither with a blank nor with the end of a list. -/
theorem bytes_head (v : Json) :
    ∃ b bs, v.bytes = b :: bs ∧ isBlankByte b = false ∧ b ≠ 0x5D := by
  cases v with
  | null => exact ⟨_, _, rfl, by decide, by decide⟩
  | bool b => cases b <;> exact ⟨_, _, rfl, by decide, by decide⟩
  | number n =>
    obtain ⟨negative, text, hn⟩ := n.reads
    obtain ⟨b, bs, rfl, hb⟩ := hn.head
    have hbytes : (number n).bytes = encodeChars n.chars := rfl
    rw [hbytes, hn.bytes]
    cases negative with
    | true => exact ⟨_, _, rfl, by decide, by decide⟩
    | false => exact ⟨b, bs, rfl, (digit_not hb).1, (digit_not hb).2.1⟩
  | string s =>
    obtain ⟨body, hbody, -⟩ := readString_stringChars s []
    exact ⟨_, _, hbody, by decide, by decide⟩
  | array xs =>
    cases xs with
    | nil => exact ⟨_, _, rfl, by decide, by decide⟩
    | cons x xs => exact ⟨_, _, bytes_array_cons x xs, by decide, by decide⟩
  | object ms =>
    cases ms with
    | nil => exact ⟨_, _, rfl, by decide, by decide⟩
    | cons m ms => exact ⟨_, _, bytes_object_cons m.1 m.2 ms, by decide, by decide⟩

/-- There are no blanks to skip in front of a value. -/
theorem skipBlanks_bytes (v : Json) (rest : Bytes) :
    skipBlanks (v.bytes ++ rest) = v.bytes ++ rest := by
  obtain ⟨b, bs, hbytes, hblank, -⟩ := v.bytes_head
  rw [hbytes]
  simp [skipBlanks, hblank]

/-- The first item of a list starts behind the bracket. -/
theorem nextItem_first (v : Json) (rest : Bytes) :
    nextItem true (v.bytes ++ rest) = .ok (true, v.bytes ++ rest) := by
  obtain ⟨b, bs, hbytes, hblank, hclose⟩ := v.bytes_head
  rw [hbytes]
  simp [nextItem, skipBlanks, hblank, hclose]

/-- The next item of a list starts behind the comma. -/
theorem nextItem_comma (v : Json) (rest : Bytes) :
    nextItem false (0x2C :: (v.bytes ++ rest)) = .ok (true, v.bytes ++ rest) := by
  obtain ⟨b, bs, hbytes, hblank, hclose⟩ := v.bytes_head
  rw [hbytes]
  have hcomma : isBlankByte 0x2C = false := rfl
  simp [nextItem, skipBlanks, hcomma, hblank, hclose]

/-- The first key of an object stands behind the brace, and what follows it is left. -/
theorem nextKey_first (k : String) (rest : Bytes) : ∃ body,
    nextKey true (stringBytes k ++ rest) = .ok (true, body ++ rest) ∧
      ∀ t, readString (body ++ t) = .ok (k, t) := by
  obtain ⟨body, hbody, -⟩ := readString_stringChars k []
  refine ⟨body, ?_, fun t => ?_⟩
  · have hquote : isBlankByte 0x22 = false := rfl
    rw [stringBytes, hbody]
    simp [nextKey, skipBlanks, hquote]
  · obtain ⟨body', hbody', hread⟩ := readString_stringChars k t
    rw [hbody] at hbody'
    injection hbody' with _ hsame
    rw [hsame]
    exact hread

/-- The next key stands behind the comma. -/
theorem nextKey_comma (k : String) (rest : Bytes) : ∃ body,
    nextKey false (0x2C :: (stringBytes k ++ rest)) = .ok (true, body ++ rest) ∧
      ∀ t, readString (body ++ t) = .ok (k, t) := by
  obtain ⟨body, hbody, -⟩ := readString_stringChars k []
  refine ⟨body, ?_, fun t => ?_⟩
  · have hquote : isBlankByte 0x22 = false := rfl
    have hcomma : isBlankByte 0x2C = false := rfl
    rw [stringBytes, hbody]
    simp [nextKey, skipBlanks, hquote, hcomma]
  · obtain ⟨body', hbody', hread⟩ := readString_stringChars k t
    rw [hbody] at hbody'
    injection hbody' with _ hsame
    rw [hsame]
    exact hread

/-! ## 4. Reading -/

/-- The text of a number is read as its echo. -/
theorem readNested_number (n : Number) (fuel depth : Nat) {rest : Bytes} (hrest : Ends rest) :
    readNested (fuel + 1) depth ((number n).bytes ++ rest)
      = (echo depth (number n)).map (·, rest) := by
  obtain ⟨negative, text, hn⟩ := n.reads
  have hread := hn.read rest hrest
  obtain ⟨b, bs, rfl, hb⟩ := hn.head
  have hbytes : (number n).bytes = encodeChars n.chars := rfl
  rw [readNested, skipBlanks_bytes, hbytes, hn.bytes]
  cases negative with
  | true =>
    show (readNumber true (b :: bs ++ rest)).bind _ = _
    rw [hread, echo]
    cases n.echo <;> rfl
  | false =>
    obtain ⟨-, -, hn, ht, hf, hq, hl, ho, hm⟩ := digit_not hb
    rw [List.cons_append] at hread
    simp only [Bool.false_eq_true, if_false, List.nil_append, List.cons_append, hn, ht, hf, hq,
      hl, ho, hm, hb, if_true, hread, echo]
    cases n.echo <;> rfl

/-- The text of a string is read as that string. -/
theorem readNested_string (s : String) (fuel depth : Nat) (rest : Bytes) :
    readNested (fuel + 1) depth ((string s).bytes ++ rest)
      = (echo depth (string s)).map (·, rest) := by
  obtain ⟨body, hbody, hread⟩ := readString_stringChars s rest
  have hbytes : (string s).bytes = encodeChars (stringChars s) := rfl
  rw [readNested, skipBlanks_bytes, hbytes, hbody]
  show (readString (body ++ rest)).bind _ = _
  rw [hread]
  rfl

mutual

/-- **The text of a value is read as its echo**, by a reader that may call itself often enough. -/
theorem readNested_bytes : ∀ (v : Json) (fuel depth : Nat) (rest : Bytes), calls v ≤ fuel →
    Ends rest → readNested fuel depth (v.bytes ++ rest) = (echo depth v).map (·, rest)
  | .null, fuel + 1, depth, rest, _, _ => by
    rw [readNested, skipBlanks_bytes]
    rfl
  | .bool true, fuel + 1, depth, rest, _, _ => by
    rw [readNested, skipBlanks_bytes]
    rfl
  | .bool false, fuel + 1, depth, rest, _, _ => by
    rw [readNested, skipBlanks_bytes]
    rfl
  | .number n, fuel + 1, depth, rest, _, hrest => readNested_number n fuel depth hrest
  | .string s, fuel + 1, depth, rest, _, _ => readNested_string s fuel depth rest
  | .array [], fuel + 2, 0, rest, _, _ => by
    rw [readNested, skipBlanks_bytes]
    rfl
  | .array [], fuel + 2, depth + 1, rest, _, _ => by
    rw [readNested, skipBlanks_bytes]
    rfl
  | .array (x :: xs), fuel + 2, 0, rest, _, _ => by
    rw [readNested, skipBlanks_bytes, bytes_array_cons]
    rfl
  | .array (x :: xs), fuel + 2, depth + 1, rest, hfuel, _ => by
    simp only [calls, callsItems] at hfuel
    have hfirst := readNested_bytes x fuel depth (itemBytes xs ++ rest) (by omega)
      (ends_itemBytes xs rest)
    have hothers := readItems_bytes xs fuel depth rest (by omega)
    rw [readNested, skipBlanks_bytes, bytes_array_cons]
    show (do
      let (xs, rest) ← readItems (fuel + 1) depth true (x.bytes ++ itemBytes xs ++ rest)
      return (array xs, rest)) = _
    rw [readItems, List.append_assoc, nextItem_first]
    simp only [bind, Except.bind, if_true, hfirst, echo, echoItems]
    cases echo depth x with
    | error e => rfl
    | ok y =>
      simp only [Except.map, hothers]
      cases echoItems depth xs <;> rfl
  | .object [], fuel + 2, 0, rest, _, _ => by
    rw [readNested, skipBlanks_bytes]
    rfl
  | .object [], fuel + 2, depth + 1, rest, _, _ => by
    rw [readNested, skipBlanks_bytes]
    rfl
  | .object ((k, x) :: ms), fuel + 2, 0, rest, _, _ => by
    rw [readNested, skipBlanks_bytes, bytes_object_cons]
    rfl
  | .object ((k, x) :: ms), fuel + 2, depth + 1, rest, hfuel, _ => by
    simp only [calls, callsMembers] at hfuel
    have hfirst := readNested_bytes x fuel depth (memberBytes ms ++ rest) (by omega)
      (ends_memberBytes ms rest)
    have hothers := readMembers_bytes ms fuel depth rest (by omega)
    obtain ⟨body, hkey, hbody⟩ := nextKey_first k (0x3A :: (x.bytes ++ (memberBytes ms ++ rest)))
    rw [readNested, skipBlanks_bytes, bytes_object_cons]
    show (do
      let (ms, rest) ← readMembers (fuel + 1) depth true
        (stringBytes k ++ 0x3A :: (x.bytes ++ memberBytes ms) ++ rest)
      return (ofMembers ms, rest)) = _
    have hcolon : readColon (0x3A :: (x.bytes ++ (memberBytes ms ++ rest)))
        = .ok (x.bytes ++ (memberBytes ms ++ rest)) := rfl
    rw [readMembers, List.append_assoc, List.cons_append, List.append_assoc, hkey]
    simp only [bind, Except.bind, if_true, hbody, hcolon, hfirst, echo, echoMembers]
    cases echo depth x with
    | error e => rfl
    | ok y =>
      simp only [Except.map, hothers]
      cases echoMembers depth ms <;> rfl
  | .array _, 0, _, _, hfuel, _ | .object _, 0, _, _, hfuel, _ | .null, 0, _, _, hfuel, _
  | .bool _, 0, _, _, hfuel, _ | .number _, 0, _, _, hfuel, _ | .string _, 0, _, _, hfuel, _ => by
    simp [calls] at hfuel
  | .array [], 1, _, _, hfuel, _ | .array (_ :: _), 1, _, _, hfuel, _
  | .object [], 1, _, _, hfuel, _ | .object (_ :: _), 1, _, _, hfuel, _ => by
    simp only [calls, callsItems, callsMembers] at hfuel
    omega

/-- The items behind the first one are read as their echoes. -/
theorem readItems_bytes : ∀ (xs : List Json) (fuel depth : Nat) (rest : Bytes),
    callsItems xs ≤ fuel →
      readItems fuel depth false (itemBytes xs ++ rest) = (echoItems depth xs).map (·, rest)
  | [], fuel + 1, depth, rest, _ => by
    rw [readItems]
    rfl
  | x :: xs, fuel + 1, depth, rest, hfuel => by
    simp only [callsItems] at hfuel
    have hfirst := readNested_bytes x fuel depth (itemBytes xs ++ rest) (by omega)
      (ends_itemBytes xs rest)
    have hothers := readItems_bytes xs fuel depth rest (by omega)
    rw [readItems, itemBytes_cons, List.cons_append, List.append_assoc, nextItem_comma]
    simp only [bind, Except.bind, if_true, hfirst, echoItems]
    cases echo depth x with
    | error e => rfl
    | ok y =>
      simp only [Except.map, hothers]
      cases echoItems depth xs <;> rfl
  | [], 0, _, _, hfuel | _ :: _, 0, _, _, hfuel => by simp [callsItems] at hfuel

/-- The members behind the first one are read as their echoes. -/
theorem readMembers_bytes : ∀ (ms : List (String × Json)) (fuel depth : Nat) (rest : Bytes),
    callsMembers ms ≤ fuel →
      readMembers fuel depth false (memberBytes ms ++ rest)
        = (echoMembers depth ms).map (·, rest)
  | [], fuel + 1, depth, rest, _ => by
    rw [readMembers]
    rfl
  | (k, x) :: ms, fuel + 1, depth, rest, hfuel => by
    simp only [callsMembers] at hfuel
    have hfirst := readNested_bytes x fuel depth (memberBytes ms ++ rest) (by omega)
      (ends_memberBytes ms rest)
    have hothers := readMembers_bytes ms fuel depth rest (by omega)
    obtain ⟨body, hkey, hbody⟩ := nextKey_comma k (0x3A :: (x.bytes ++ (memberBytes ms ++ rest)))
    have hcolon : readColon (0x3A :: (x.bytes ++ (memberBytes ms ++ rest)))
        = .ok (x.bytes ++ (memberBytes ms ++ rest)) := rfl
    rw [readMembers, memberBytes_cons, List.cons_append, List.append_assoc, List.cons_append,
      List.append_assoc, hkey]
    simp only [bind, Except.bind, if_true, hbody, hcolon, hfirst, echoMembers]
    cases echo depth x with
    | error e => rfl
    | ok y =>
      simp only [Except.map, hothers]
      cases echoMembers depth ms <;> rfl
  | [], 0, _, _, hfuel | _ :: _, 0, _, _, hfuel => by simp [callsMembers] at hfuel

end

mutual

/-- A reader calls itself at most twice for each byte of a value. -/
theorem calls_le : ∀ v : Json, calls v ≤ 2 * v.bytes.length
  | .null | .bool true | .bool false => by decide
  | .number n => by
    obtain ⟨b, bs, hbytes, -⟩ := bytes_head (.number n)
    rw [hbytes]
    simp only [calls, List.length_cons]
    omega
  | .string s => by
    obtain ⟨b, bs, hbytes, -⟩ := bytes_head (.string s)
    rw [hbytes]
    simp only [calls, List.length_cons]
    omega
  | .array [] | .object [] => by decide
  | .array (x :: xs) => by
    have hx := calls_le x
    have hxs := callsItems_le xs
    rw [bytes_array_cons]
    simp only [calls, callsItems, List.length_cons, List.length_append]
    omega
  | .object ((k, x) :: ms) => by
    have hx := calls_le x
    have hms := callsMembers_le ms
    rw [bytes_object_cons]
    simp only [calls, callsMembers, List.length_cons, List.length_append]
    omega

/-- And for each byte of the items behind the first one. -/
theorem callsItems_le : ∀ xs : List Json, callsItems xs ≤ 2 * (itemBytes xs).length
  | [] => by decide
  | x :: xs => by
    have hx := calls_le x
    have hxs := callsItems_le xs
    rw [itemBytes_cons]
    simp only [callsItems, List.length_cons, List.length_append]
    omega

/-- And for each byte of the members behind the first one. -/
theorem callsMembers_le : ∀ ms : List (String × Json),
    callsMembers ms ≤ 2 * (memberBytes ms).length
  | [] => by decide
  | (k, x) :: ms => by
    have hx := calls_le x
    have hms := callsMembers_le ms
    rw [memberBytes_cons]
    simp only [callsMembers, List.length_cons, List.length_append]
    omega

end

/-- **The text of a value is read as its echo**, and what stands behind it is left, unless that
could belong to a number. -/
theorem readValue_bytes (v : Json) (depth : Nat) {rest : Bytes} (hrest : Ends rest) :
    readValue depth (v.bytes ++ rest) = (echo depth v).map (·, rest) := by
  refine readNested_bytes v _ depth rest ?_ hrest
  have hcalls := v.calls_le
  simp only [fuelFor, List.length_append]
  omega

/-! ## 5. Values that come back -/

mutual

/-- How deep a value is nested. -/
def nesting : Json → Nat
  | .array xs => 1 + nestingItems xs
  | .object ms => 1 + nestingMembers ms
  | _ => 0

/-- How deep some items are nested. -/
def nestingItems : List Json → Nat
  | [] => 0
  | x :: xs => max (nesting x) (nestingItems xs)

/-- How deep some members are nested. -/
def nestingMembers : List (String × Json) → Nat
  | [] => 0
  | (_, x) :: xs => max (nesting x) (nestingMembers xs)

end

mutual

/-- Every number in the value is read as it was written.  Integers always are. -/
def NumbersKept : Json → Prop
  | .number n => n.echo = .ok n
  | .array xs => NumbersKeptItems xs
  | .object ms => NumbersKeptMembers ms
  | _ => True

/-- `NumbersKept` of every item. -/
def NumbersKeptItems : List Json → Prop
  | [] => True
  | x :: xs => NumbersKept x ∧ NumbersKeptItems xs

/-- `NumbersKept` of every member's value. -/
def NumbersKeptMembers : List (String × Json) → Prop
  | [] => True
  | (_, x) :: xs => NumbersKept x ∧ NumbersKeptMembers xs

end

/-- A member whose key comes after all others is put behind them. -/
theorem insertMember_last {k : String} {v : Json} {l : List (String × Json)}
    (h : ∀ e ∈ l, e.1 < k) : insertMember k v l = l ++ [(k, v)] := by
  induction l with
  | nil => rfl
  | cons e l ih =>
    obtain ⟨j, w⟩ := e
    have hlt : j < k := h (j, w) List.mem_cons_self
    have hne : k ≠ j := by
      rintro rfl
      exact String.lt_irrefl k hlt
    have hnot : ¬ k < j := fun hgt => String.lt_irrefl k (String.lt_trans hgt hlt)
    simp only [insertMember, if_neg hne, if_neg hnot, List.cons_append]
    rw [ih fun e he => h e (List.mem_cons_of_mem _ he)]

/-- Members in order stay as they are. -/
theorem ofMembers_ordered {ms : List (String × Json)} (h : (ms.map (·.1)).Pairwise (· < ·)) :
    ofMembers ms = .object ms := by
  have hfold : ∀ (ms acc : List (String × Json)), ((acc ++ ms).map (·.1)).Pairwise (· < ·) →
      ms.foldl (fun acc m => insertMember m.1 m.2 acc) acc = acc ++ ms := by
    intro ms
    induction ms with
    | nil => exact fun acc _ => (List.append_nil acc).symm
    | cons m ms ih =>
      intro acc hacc
      have hlast : insertMember m.1 m.2 acc = acc ++ [m] := by
        refine insertMember_last fun e he => ?_
        rw [List.map_append, List.pairwise_append] at hacc
        exact hacc.2.2 e.1 (List.mem_map_of_mem he) m.1 (by simp)
      rw [List.foldl_cons, hlast, ih (acc ++ [m]) (by simpa using hacc)]
      simp
  rw [ofMembers, hfold ms [] (by simpa using h), List.nil_append]

mutual

/-- **A value comes back as it was** if its numbers do, its members are in order and it is not
nested too deep. -/
theorem echo_eq : ∀ (v : Json) (depth : Nat), v.NumbersKept → v.Ordered → v.nesting ≤ depth →
    echo depth v = .ok v
  | .null, _, _, _, _ | .bool _, _, _, _, _ | .string _, _, _, _, _ => by rw [echo]
  | .number n, _, hkept, _, _ => by
    have hn : n.echo = .ok n := hkept
    rw [echo, hn]
    rfl
  | .array xs, depth, hkept, hordered, hdeep => by
    simp only [nesting] at hdeep
    obtain ⟨depth, rfl⟩ : ∃ d, depth = d + 1 := ⟨depth - 1, by omega⟩
    rw [echo, echoItems_eq xs depth hkept hordered (by omega)]
    rfl
  | .object ms, depth, hkept, hordered, hdeep => by
    simp only [nesting] at hdeep
    obtain ⟨depth, rfl⟩ : ∃ d, depth = d + 1 := ⟨depth - 1, by omega⟩
    rw [echo, echoMembers_eq ms depth hkept hordered.2 (by omega)]
    exact congrArg Except.ok (ofMembers_ordered hordered.1)

/-- Items come back as they were. -/
theorem echoItems_eq : ∀ (xs : List Json) (depth : Nat), NumbersKeptItems xs → OrderedItems xs →
    nestingItems xs ≤ depth → echoItems depth xs = .ok xs
  | [], _, _, _, _ => by rw [echoItems]
  | x :: xs, depth, hkept, hordered, hdeep => by
    simp only [nestingItems] at hdeep
    rw [echoItems, echo_eq x depth hkept.1 hordered.1 (by omega)]
    simp only [bind, Except.bind]
    rw [echoItems_eq xs depth hkept.2 hordered.2 (by omega)]
    rfl

/-- Members come back as they were. -/
theorem echoMembers_eq : ∀ (ms : List (String × Json)) (depth : Nat), NumbersKeptMembers ms →
    OrderedMembers ms → nestingMembers ms ≤ depth → echoMembers depth ms = .ok ms
  | [], _, _, _, _ => by rw [echoMembers]
  | (k, x) :: ms, depth, hkept, hordered, hdeep => by
    simp only [nestingMembers] at hdeep
    rw [echoMembers, echo_eq x depth hkept.1 hordered.1 (by omega)]
    simp only [bind, Except.bind]
    rw [echoMembers_eq ms depth hkept.2 hordered.2 (by omega)]
    rfl

end

/-- A payload that the reader of messages gives back as it was. -/
def Kept (v : Json) : Prop := v.NumbersKept ∧ v.Ordered ∧ v.nesting ≤ levels - 1

end ControlPlane.Json
