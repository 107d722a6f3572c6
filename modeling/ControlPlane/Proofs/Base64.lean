/-
# Base 64 in both directions

Bytes and their characters determine each other: the characters of some bytes are read back, and
characters that are read are those of the bytes they stand for.  So what is read has exactly one
form.

* `decode?_eq_some_iff`: characters stand for some bytes exactly when they are theirs;
* `trim_encode`: blanks around the characters of some bytes are all that is trimmed.

A group of three bytes is a number of three digits in base 256, its four characters are the same
number in base 64, and each character or byte is a quotient and a remainder of two neighbours.
-/
import ControlPlane.Base64
import ControlPlane.Text.Blank
import ControlPlane.Proofs.Text.Utf8

namespace ControlPlane.Base64

open ControlPlane.Text.Utf8 (toNat_byte byte_eq)

/-! ## 1. One character -/

/-- The character of a value stands for it. -/
theorem value?_digit {n : Nat} (h : n < 64) : value? (digit n) = some n := by
  have hall : ∀ k : Fin 64, value? (digit k) = some k.val := by decide +kernel
  exact hall ⟨n, h⟩

/-- A character up to another has a number up to its. -/
theorem toNat_le {c d : Char} (h : c ≤ d) : c.toNat ≤ d.toNat :=
  UInt32.le_iff_toNat_le.mp (Char.le_def.mp h)

/-- A character with a value is one of the first 128. -/
theorem toNat_lt_of_value? {c : Char} {n : Nat} (h : value? c = some n) : c.toNat < 128 := by
  have hupper : 'Z'.toNat < 128 := by decide
  have hlower : 'z'.toNat < 128 := by decide
  have hnine : '9'.toNat < 128 := by decide
  simp only [value?, Bool.and_eq_true, decide_eq_true_eq] at h
  split at h
  · next hc => exact Nat.lt_of_le_of_lt (toNat_le hc.2) hupper
  · split at h
    · next hc => exact Nat.lt_of_le_of_lt (toNat_le hc.2) hlower
    · split at h
      · next hc => exact Nat.lt_of_le_of_lt (toNat_le hc.2) hnine
      · split at h
        · next hc => subst hc; decide
        · split at h
          · next hc => subst hc; decide
          · cases h

/-- **A value is below 64, and its character is the one that stands for it.** -/
theorem digit_of_value? {c : Char} {n : Nat} (h : value? c = some n) : n < 64 ∧ digit n = c := by
  have hall : ∀ k : Fin 128, ∀ m ∈ value? (Char.ofNat k), m < 64 ∧ digit m = Char.ofNat k := by
    decide +kernel
  have hc := hall ⟨c.toNat, toNat_lt_of_value? h⟩ n
  simp only [Char.ofNat_toNat] at hc
  exact hc h

/-- The padding character stands for no value. -/
theorem digit_ne_pad {n : Nat} (h : n < 64) : digit n ≠ '=' := by
  intro hpad
  have hnone : value? '=' = none := by decide
  have hvalue := value?_digit h
  rw [hpad, hnone] at hvalue
  cases hvalue

/-! ## 2. Groups -/

/-- Four values that are no last group with padding. -/
theorem decode?_digits {p q r s : Nat} (hp : p < 64) (hq : q < 64) (hr : r < 64) (hs : s < 64)
    (rest : List Char) :
    decode? (digit p :: digit q :: digit r :: digit s :: rest)
      = (decode? rest).map (threeBytes p q r s ++ ·) := by
  simp only [decode?, value?_digit hp, value?_digit hq, value?_digit hr, value?_digit hs,
    digit_ne_pad hs, decide_false, Bool.and_false, Bool.false_eq_true, if_false,
    Option.bind_eq_bind, Option.bind_some]
  cases decode? rest <;> rfl

/-- Three values and a padding character. -/
theorem decode?_pad {p q r : Nat} (hp : p < 64) (hq : q < 64) (hr : r < 64) :
    decode? [digit p, digit q, digit r, '='] = twoBytes? p q r := by
  simp [decode?, value?_digit hp, value?_digit hq, value?_digit hr, digit_ne_pad hr]

/-- Two values and two padding characters. -/
theorem decode?_pads {p q : Nat} (hp : p < 64) (hq : q < 64) :
    decode? [digit p, digit q, '=', '='] = oneByte? p q := by
  simp [decode?, value?_digit hp, value?_digit hq]

/-- The four values of three bytes give them again. -/
theorem threeBytes_values (a b c : UInt8) :
    threeBytes (a.toNat / 4) (a.toNat % 4 * 16 + b.toNat / 16) (b.toNat % 16 * 4 + c.toNat / 64)
      (c.toNat % 64) = [a, b, c] := by
  have ha : a.toNat < 256 := a.toNat_lt
  have hb : b.toNat < 256 := b.toNat_lt
  have hc : c.toNat < 256 := c.toNat_lt
  simp only [threeBytes]
  rw [byte_eq (a := a) (by omega), byte_eq (a := b) (by omega), byte_eq (a := c) (by omega)]

/-- **The characters of some bytes stand for them.** -/
theorem decode?_encode (bs : Bytes) : decode? (encode bs) = some bs := by
  fun_induction encode bs with
  | case1 => rfl
  | case2 a =>
    have ha : a.toNat < 256 := a.toNat_lt
    rw [decode?_pads (by omega) (by omega), oneByte?, if_pos (by omega),
      byte_eq (a := a) (by omega)]
  | case3 a b =>
    have ha : a.toNat < 256 := a.toNat_lt
    have hb : b.toNat < 256 := b.toNat_lt
    rw [decode?_pad (by omega) (by omega) (by omega), twoBytes?, if_pos (by omega),
      byte_eq (a := a) (by omega), byte_eq (a := b) (by omega)]
  | case4 a b c rest ih =>
    have ha : a.toNat < 256 := a.toNat_lt
    have hb : b.toNat < 256 := b.toNat_lt
    have hc : c.toNat < 256 := c.toNat_lt
    rw [decode?_digits (by omega) (by omega) (by omega) (by omega), ih, threeBytes_values]
    rfl

/-- The characters of three bytes from four values are those of the values. -/
theorem encode_threeBytes {p q r s : Nat} (hp : p < 64) (hq : q < 64) (hr : r < 64) (hs : s < 64)
    (rest : Bytes) :
    encode (threeBytes p q r s ++ rest)
      = digit p :: digit q :: digit r :: digit s :: encode rest := by
  have ha : (UInt8.ofNat (p * 4 + q / 16)).toNat = p * 4 + q / 16 := toNat_byte (by omega)
  have hb : (UInt8.ofNat (q % 16 * 16 + r / 4)).toNat = q % 16 * 16 + r / 4 :=
    toNat_byte (by omega)
  have hc : (UInt8.ofNat (r % 4 * 64 + s)).toNat = r % 4 * 64 + s := toNat_byte (by omega)
  have hfirst : (p * 4 + q / 16) / 4 = p := by omega
  have hsecond : (p * 4 + q / 16) % 4 * 16 + (q % 16 * 16 + r / 4) / 16 = q := by omega
  have hthird : (q % 16 * 16 + r / 4) % 16 * 4 + (r % 4 * 64 + s) / 64 = r := by omega
  have hfourth : (r % 4 * 64 + s) % 64 = s := by omega
  simp only [threeBytes, List.cons_append, List.nil_append, encode, ha, hb, hc, hfirst, hsecond,
    hthird, hfourth]

/-- The characters of two bytes from three values are those of the values, and one for padding. -/
theorem encode_of_twoBytes? {p q r : Nat} {bs : Bytes} (hp : p < 64) (hq : q < 64) (hr : r < 64)
    (h : twoBytes? p q r = some bs) : encode bs = [digit p, digit q, digit r, '='] := by
  simp only [twoBytes?, Option.ite_none_right_eq_some, Option.some.injEq] at h
  obtain ⟨hrest, rfl⟩ := h
  have ha : (UInt8.ofNat (p * 4 + q / 16)).toNat = p * 4 + q / 16 := toNat_byte (by omega)
  have hb : (UInt8.ofNat (q % 16 * 16 + r / 4)).toNat = q % 16 * 16 + r / 4 :=
    toNat_byte (by omega)
  have hfirst : (p * 4 + q / 16) / 4 = p := by omega
  have hsecond : (p * 4 + q / 16) % 4 * 16 + (q % 16 * 16 + r / 4) / 16 = q := by omega
  have hthird : (q % 16 * 16 + r / 4) % 16 * 4 = r := by omega
  simp only [encode, ha, hb, hfirst, hsecond, hthird]

/-- The characters of a byte from two values are those of the values, and two for padding. -/
theorem encode_of_oneByte? {p q : Nat} {bs : Bytes} (hp : p < 64) (hq : q < 64)
    (h : oneByte? p q = some bs) : encode bs = [digit p, digit q, '=', '='] := by
  simp only [oneByte?, Option.ite_none_right_eq_some, Option.some.injEq] at h
  obtain ⟨hrest, rfl⟩ := h
  have ha : (UInt8.ofNat (p * 4 + q / 16)).toNat = p * 4 + q / 16 := toNat_byte (by omega)
  have hfirst : (p * 4 + q / 16) / 4 = p := by omega
  have hsecond : (p * 4 + q / 16) % 4 * 16 = q := by omega
  simp only [encode, ha, hfirst, hsecond]

/-- **Characters that are read are the ones that are written.**  The cases are those of the
reader, which looks for padding only where nothing follows. -/
theorem encode_of_decode? {cs : List Char} {bs : Bytes} (h : decode? cs = some bs) :
    encode bs = cs := by
  fun_induction decode? cs generalizing bs with
  | case1 => cases h; rfl
  | case2 c₁ c₂ c₃ c₄ rest ih =>
    simp only [Option.bind_eq_bind, Option.bind_eq_some_iff] at h
    obtain ⟨p, hp, q, hq, h⟩ := h
    obtain ⟨hp64, rfl⟩ := digit_of_value? hp
    obtain ⟨hq64, rfl⟩ := digit_of_value? hq
    split at h
    · next hpads =>
      simp only [Bool.and_eq_true, decide_eq_true_eq, List.isEmpty_iff] at hpads
      obtain ⟨⟨rfl, rfl⟩, rfl⟩ := hpads
      exact encode_of_oneByte? hp64 hq64 h
    · simp only [Option.bind_eq_some_iff] at h
      obtain ⟨r, hr, h⟩ := h
      obtain ⟨hr64, rfl⟩ := digit_of_value? hr
      split at h
      · next hpad =>
        simp only [Bool.and_eq_true, decide_eq_true_eq, List.isEmpty_iff] at hpad
        obtain ⟨rfl, rfl⟩ := hpad
        exact encode_of_twoBytes? hp64 hq64 hr64 h
      · simp only [Option.bind_eq_some_iff] at h
        obtain ⟨s, hs, bytes, hbytes, h⟩ := h
        obtain ⟨hs64, rfl⟩ := digit_of_value? hs
        cases h
        rw [encode_threeBytes hp64 hq64 hr64 hs64, ih hbytes]
  | case3 => cases h

/-- **Characters stand for some bytes exactly when they are theirs.** -/
theorem decode?_eq_some_iff {cs : List Char} {bs : Bytes} :
    decode? cs = some bs ↔ cs = encode bs := by
  constructor
  · intro h
    exact (encode_of_decode? h).symm
  · rintro rfl
    exact decode?_encode bs

/-! ## 3. Blanks around the characters -/

open ControlPlane.Text (isBlank trim trimEnd)

/-- The character of a value is not blank. -/
theorem not_isBlank_digit {n : Nat} (h : n < 64) : isBlank (digit n) = false := by
  have hall : ∀ k : Fin 64, isBlank (digit k) = false := by decide +kernel
  exact hall ⟨n, h⟩

/-- The characters of some bytes are not blank. -/
theorem not_isBlank_of_mem_encode {bs : Bytes} {c : Char} (h : c ∈ encode bs) :
    isBlank c = false := by
  have hpad : isBlank '=' = false := by decide +kernel
  fun_induction encode bs with
  | case1 => cases h
  | case2 a =>
    have ha : a.toNat < 256 := a.toNat_lt
    simp only [List.mem_cons, List.not_mem_nil, or_false] at h
    obtain rfl | rfl | rfl | rfl := h
    · exact not_isBlank_digit (by omega)
    · exact not_isBlank_digit (by omega)
    · exact hpad
    · exact hpad
  | case3 a b =>
    have ha : a.toNat < 256 := a.toNat_lt
    have hb : b.toNat < 256 := b.toNat_lt
    simp only [List.mem_cons, List.not_mem_nil, or_false] at h
    obtain rfl | rfl | rfl | rfl := h
    · exact not_isBlank_digit (by omega)
    · exact not_isBlank_digit (by omega)
    · exact not_isBlank_digit (by omega)
    · exact hpad
  | case4 a b c rest ih =>
    have ha : a.toNat < 256 := a.toNat_lt
    have hb : b.toNat < 256 := b.toNat_lt
    have hc : c.toNat < 256 := c.toNat_lt
    simp only [List.mem_cons] at h
    obtain rfl | rfl | rfl | rfl | h := h
    · exact not_isBlank_digit (by omega)
    · exact not_isBlank_digit (by omega)
    · exact not_isBlank_digit (by omega)
    · exact not_isBlank_digit (by omega)
    · exact ih h

/-- Nothing is dropped where nothing is blank. -/
theorem dropWhile_isBlank {cs : List Char} (h : ∀ c ∈ cs, isBlank c = false) :
    cs.dropWhile isBlank = cs := by
  cases cs with
  | nil => rfl
  | cons c cs => rw [List.dropWhile_cons, if_neg (by simp [h c])]

/-- Blanks behind characters that are not blank are dropped. -/
theorem trimEnd_append {cs after : List Char} (h : ∀ c ∈ cs, isBlank c = false)
    (hafter : ∀ c ∈ after, isBlank c = true) : trimEnd (cs ++ after) = cs := by
  rw [trimEnd, List.reverse_append, List.dropWhile_append_of_pos (by simpa using hafter),
    dropWhile_isBlank (by simpa using h), List.reverse_reverse]

/-- Blanks around characters that are not blank are all that is trimmed. -/
theorem trim_append {before cs after : List Char} (hbefore : ∀ c ∈ before, isBlank c = true)
    (h : ∀ c ∈ cs, isBlank c = false) (hafter : ∀ c ∈ after, isBlank c = true) :
    trim (before ++ cs ++ after) = cs := by
  rw [trim, List.append_assoc, List.dropWhile_append_of_pos hbefore]
  cases cs with
  | nil =>
    have hnone : (after ++ []).dropWhile isBlank = [].dropWhile isBlank :=
      List.dropWhile_append_of_pos hafter
    rw [List.append_nil] at hnone
    rw [List.nil_append, hnone]
    rfl
  | cons c cs =>
    rw [List.cons_append, List.dropWhile_cons, if_neg (by simp [h c]), ← List.cons_append,
      trimEnd_append h hafter]

/-- **Blanks around the characters of some bytes are all that is trimmed.** -/
theorem trim_encode {before after : List Char} (hbefore : ∀ c ∈ before, isBlank c = true)
    (hafter : ∀ c ∈ after, isBlank c = true) (bs : Bytes) :
    trim (before ++ encode bs ++ after) = encode bs :=
  trim_append hbefore (fun _ => not_isBlank_of_mem_encode) hafter

end ControlPlane.Base64
