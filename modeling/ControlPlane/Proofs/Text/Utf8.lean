/-
# Text survives its bytes

What is encoded is decoded again, whatever follows it, and nothing else is decoded.

* `decodeChars?_encodeChar`: one character in front of any bytes;
* `decode?_encode`: a whole text;
* `decode?_eq_some_iff`: bytes that are decoded are the encoding of what they spell.

The bytes of a character are quotients and remainders of its number, so the arithmetic is on
natural numbers; `fourByte?` and the others differ in how many of them there are.
-/
import ControlPlane.Text.Utf8

namespace ControlPlane.Text.Utf8

/-! ## 1. The bytes of one character -/

/-- The number of a character lies outside the surrogates and is at most U+10FFFF. -/
theorem scalar (c : Char) :
    c.toNat < 0xD800 ∨ (0xDFFF < c.toNat ∧ c.toNat < 0x110000) := c.valid

/-- The character of a number that belongs to one. -/
theorem ofNat_eq {c : Char} {n : Nat} (h : n = c.toNat) : Char.ofNat n = c := by
  rw [h, Char.ofNat_toNat]

/-- The number in a byte. -/
theorem toNat_byte {n : Nat} (h : n < 256) : (UInt8.ofNat n).toNat = n :=
  UInt8.toNat_ofNat_of_lt' h

/-- The byte of a remainder continues a character. -/
theorem isTail_byte (n : Nat) : isTail (UInt8.ofNat (n % 64 + 0x80)) = true := by
  have hlt : n % 64 + 0x80 < 256 := by omega
  have h : (UInt8.ofNat (n % 64 + 0x80)).toNat = n % 64 + 0x80 := toNat_byte hlt
  simp only [isTail, Bool.and_eq_true, decide_eq_true_eq, UInt8.le_iff_toNat_le, h]
  exact ⟨by simp, by simp; omega⟩

/-- The six bits of a remainder. -/
theorem tailBits_byte (n : Nat) : tailBits (UInt8.ofNat (n % 64 + 0x80)) = n % 64 := by
  have hlt : n % 64 + 0x80 < 256 := by omega
  have h : (UInt8.ofNat (n % 64 + 0x80)).toNat = n % 64 + 0x80 := toNat_byte hlt
  unfold tailBits
  omega

/-- Two bytes of a number that takes two. -/
theorem twoByte?_encode {c : Char} (hmin : 0x7F < c.toNat) (hmax : c.toNat ≤ 0x7FF) :
    twoByte? (UInt8.ofNat (c.toNat / 64 % 32 + 0xC0)) (UInt8.ofNat (c.toNat % 64 + 0x80))
      = some c := by
  have ha : (UInt8.ofNat (c.toNat / 64 % 32 + 0xC0)).toNat = c.toNat / 64 % 32 + 0xC0 :=
    toNat_byte (by omega)
  have hlead : (0xC2 : UInt8) ≤ UInt8.ofNat (c.toNat / 64 % 32 + 0xC0)
      ∧ UInt8.ofNat (c.toNat / 64 % 32 + 0xC0) ≤ 0xDF := by
    simp only [UInt8.le_iff_toNat_le, ha]
    exact ⟨by simp; omega, by simp; omega⟩
  simp only [twoByte?, hlead.1, hlead.2, isTail_byte, decide_true, Bool.and_self, if_true, ha,
    tailBits_byte]
  exact congrArg some (ofNat_eq (by omega))

/-- No two bytes begin with the lead of a longer character. -/
theorem twoByte?_none {a : UInt8} (h : 0xE0 ≤ a.toNat) (b : UInt8) : twoByte? a b = none := by
  have ha : ¬ a ≤ 0xDF := by
    rw [UInt8.le_iff_toNat_le]
    simp
    omega
  simp [twoByte?, ha]

/-- Three bytes of a number that takes three. -/
theorem threeByte?_encode {c : Char} (hmin : 0x7FF < c.toNat) (hmax : c.toNat ≤ 0xFFFF) :
    threeByte? (UInt8.ofNat (c.toNat / 4096 % 16 + 0xE0))
      (UInt8.ofNat (c.toNat / 64 % 64 + 0x80)) (UInt8.ofNat (c.toNat % 64 + 0x80)) = some c := by
  have ha : (UInt8.ofNat (c.toNat / 4096 % 16 + 0xE0)).toNat = c.toNat / 4096 % 16 + 0xE0 :=
    toNat_byte (by omega)
  have hb : (UInt8.ofNat (c.toNat / 64 % 64 + 0x80)).toNat = c.toNat / 64 % 64 + 0x80 :=
    toNat_byte (by omega)
  have hc := scalar c
  have hlead : (0xE0 : UInt8) ≤ UInt8.ofNat (c.toNat / 4096 % 16 + 0xE0)
      ∧ UInt8.ofNat (c.toNat / 4096 % 16 + 0xE0) ≤ 0xEF := by
    simp only [UInt8.le_iff_toNat_le, ha]
    exact ⟨by simp, by simp; omega⟩
  have hlow : (UInt8.ofNat (c.toNat / 4096 % 16 + 0xE0) != 0xE0
      || decide (0xA0 ≤ UInt8.ofNat (c.toNat / 64 % 64 + 0x80))) = true := by
    simp only [Bool.or_eq_true, bne_iff_ne, ne_eq, decide_eq_true_eq, UInt8.le_iff_toNat_le,
      ← UInt8.toNat_inj, ha, hb]
    simp
    omega
  have hhigh : (UInt8.ofNat (c.toNat / 4096 % 16 + 0xE0) != 0xED
      || decide (UInt8.ofNat (c.toNat / 64 % 64 + 0x80) ≤ 0x9F)) = true := by
    simp only [Bool.or_eq_true, bne_iff_ne, ne_eq, decide_eq_true_eq, UInt8.le_iff_toNat_le,
      ← UInt8.toNat_inj, ha, hb]
    simp
    omega
  simp only [threeByte?, hlead.1, hlead.2, isTail_byte, decide_true, Bool.and_self, hlow, hhigh,
    if_true, ha, tailBits_byte]
  exact congrArg some (ofNat_eq (by omega))

/-- No three bytes begin with the lead of a longer character. -/
theorem threeByte?_none {a : UInt8} (h : 0xF0 ≤ a.toNat) (b c : UInt8) :
    threeByte? a b c = none := by
  have ha : ¬ a ≤ 0xEF := by
    rw [UInt8.le_iff_toNat_le]
    simp
    omega
  simp [threeByte?, ha]

/-- Four bytes of a number that takes four. -/
theorem fourByte?_encode {c : Char} (hmin : 0xFFFF < c.toNat) :
    fourByte? (UInt8.ofNat (c.toNat / 262144 % 8 + 0xF0))
      (UInt8.ofNat (c.toNat / 4096 % 64 + 0x80)) (UInt8.ofNat (c.toNat / 64 % 64 + 0x80))
      (UInt8.ofNat (c.toNat % 64 + 0x80)) = some c := by
  have ha : (UInt8.ofNat (c.toNat / 262144 % 8 + 0xF0)).toNat = c.toNat / 262144 % 8 + 0xF0 :=
    toNat_byte (by omega)
  have hb : (UInt8.ofNat (c.toNat / 4096 % 64 + 0x80)).toNat = c.toNat / 4096 % 64 + 0x80 :=
    toNat_byte (by omega)
  have hc := scalar c
  have hlead : (0xF0 : UInt8) ≤ UInt8.ofNat (c.toNat / 262144 % 8 + 0xF0)
      ∧ UInt8.ofNat (c.toNat / 262144 % 8 + 0xF0) ≤ 0xF4 := by
    simp only [UInt8.le_iff_toNat_le, ha]
    exact ⟨by simp, by simp; omega⟩
  have hlow : (UInt8.ofNat (c.toNat / 262144 % 8 + 0xF0) != 0xF0
      || decide (0x90 ≤ UInt8.ofNat (c.toNat / 4096 % 64 + 0x80))) = true := by
    simp only [Bool.or_eq_true, bne_iff_ne, ne_eq, decide_eq_true_eq, UInt8.le_iff_toNat_le,
      ← UInt8.toNat_inj, ha, hb]
    simp
    omega
  have hhigh : (UInt8.ofNat (c.toNat / 262144 % 8 + 0xF0) != 0xF4
      || decide (UInt8.ofNat (c.toNat / 4096 % 64 + 0x80) ≤ 0x8F)) = true := by
    simp only [Bool.or_eq_true, bne_iff_ne, ne_eq, decide_eq_true_eq, UInt8.le_iff_toNat_le,
      ← UInt8.toNat_inj, ha, hb]
    simp
    omega
  simp only [fourByte?, hlead.1, hlead.2, isTail_byte, decide_true, Bool.and_self, hlow, hhigh,
    if_true, ha, tailBits_byte]
  exact congrArg some (ofNat_eq (by omega))

/-! ## 2. Texts -/

/-- A byte that stands for a character. -/
theorem decodeChars?_one {a : UInt8} (ha : a < 0x80) (s : Bytes) :
    decodeChars? (a :: s) = (decodeChars? s).map (Char.ofNat a.toNat :: ·) := by
  rw [decodeChars?.eq_def]
  simp only [if_pos ha]

/-- Two bytes that stand for a character. -/
theorem decodeChars?_two {a b : UInt8} {x : Char} (ha : ¬ a < 0x80) (h : twoByte? a b = some x)
    (s : Bytes) : decodeChars? (a :: b :: s) = (decodeChars? s).map (x :: ·) := by
  rw [decodeChars?.eq_def]
  simp only [if_neg ha, h]

/-- Three bytes that stand for a character. -/
theorem decodeChars?_three {a b c : UInt8} {x : Char} (ha : ¬ a < 0x80)
    (h₂ : twoByte? a b = none) (h : threeByte? a b c = some x) (s : Bytes) :
    decodeChars? (a :: b :: c :: s) = (decodeChars? s).map (x :: ·) := by
  rw [decodeChars?.eq_def]
  simp only [if_neg ha, h₂, h]

/-- Four bytes that stand for a character. -/
theorem decodeChars?_four {a b c d : UInt8} {x : Char} (ha : ¬ a < 0x80)
    (h₂ : twoByte? a b = none) (h₃ : threeByte? a b c = none) (h : fourByte? a b c d = some x)
    (s : Bytes) : decodeChars? (a :: b :: c :: d :: s) = (decodeChars? s).map (x :: ·) := by
  rw [decodeChars?.eq_def]
  simp only [if_neg ha, h₂, h₃, h]

/-- A byte of a longer character does not stand for one. -/
theorem lead_not_lt {n : Nat} (hn : 0xC0 ≤ n) (hn' : n < 256) : ¬ UInt8.ofNat n < 0x80 := by
  rw [UInt8.lt_iff_toNat_lt, toNat_byte hn']
  simp
  omega

/-- **A character is decoded as it was encoded**, whatever follows it. -/
theorem decodeChars?_encodeChar (c : Char) (bs : Bytes) :
    decodeChars? (String.utf8EncodeChar c ++ bs) = (decodeChars? bs).map (c :: ·) := by
  have hval : c.val.toNat = c.toNat := rfl
  have hc := scalar c
  simp only [String.utf8EncodeChar, hval]
  split
  · next h1 =>
    have ha : (UInt8.ofNat c.toNat).toNat = c.toNat := toNat_byte (by omega)
    have hlt : UInt8.ofNat c.toNat < 0x80 := by
      rw [UInt8.lt_iff_toNat_lt, ha]
      simp
      omega
    have hone := decodeChars?_one hlt bs
    rwa [ha, Char.ofNat_toNat] at hone
  · next h1 =>
    split
    · next h2 =>
      have hlead := lead_not_lt (n := c.toNat / 64 % 32 + 0xC0) (by omega) (by omega)
      exact decodeChars?_two hlead (twoByte?_encode (by omega) h2) bs
    · next h2 =>
      split
      · next h3 =>
        have hnum := toNat_byte (n := c.toNat / 4096 % 16 + 0xE0) (by omega)
        have hlead := lead_not_lt (n := c.toNat / 4096 % 16 + 0xE0) (by omega) (by omega)
        exact decodeChars?_three hlead (twoByte?_none (by omega) _)
          (threeByte?_encode (by omega) h3) bs
      · next h3 =>
        have hnum := toNat_byte (n := c.toNat / 262144 % 8 + 0xF0) (by omega)
        have hlead := lead_not_lt (n := c.toNat / 262144 % 8 + 0xF0) (by omega) (by omega)
        exact decodeChars?_four hlead (twoByte?_none (by omega) _)
          (threeByte?_none (by omega) _ _) (fourByte?_encode (by omega)) bs

/-- **Characters are decoded as they were encoded.** -/
theorem decodeChars?_encodeChars (cs : List Char) : decodeChars? (encodeChars cs) = some cs := by
  induction cs with
  | nil => rfl
  | cons c cs ih =>
    have hcons : encodeChars (c :: cs) = String.utf8EncodeChar c ++ encodeChars cs := rfl
    rw [hcons, decodeChars?_encodeChar, ih]
    rfl

/-- **A text is decoded as it was encoded.** -/
theorem decode?_encode (s : String) : decode? (encode s) = some s := by
  simp [decode?, encode, decodeChars?_encodeChars]

/-! ## 3. Bytes that spell a text -/

/-- The number of the character of a scalar value. -/
theorem toNat_ofNat {n : Nat} (h : n < 0xD800 ∨ (0xDFFF < n ∧ n < 0x110000)) :
    (Char.ofNat n).toNat = n := by
  rw [Char.ofNat, dif_pos h]
  rfl

/-- A byte from its number. -/
theorem byte_eq {n : Nat} {a : UInt8} (h : n = a.toNat) : UInt8.ofNat n = a := by
  rw [h, UInt8.ofNat_toNat]

/-- The numbers of the bytes that continue a character. -/
theorem isTail_iff {b : UInt8} : isTail b = true ↔ 0x80 ≤ b.toNat ∧ b.toNat ≤ 0xBF := by
  simp [isTail, UInt8.le_iff_toNat_le]

/-- A byte that stands for a character is all of it. -/
theorem encodeChar_one {a : UInt8} (h : a < 0x80) :
    String.utf8EncodeChar (Char.ofNat a.toNat) = [a] := by
  have ha : a.toNat < 0x80 := UInt8.lt_iff_toNat_lt.mp h
  have hval : (Char.ofNat a.toNat).val.toNat = a.toNat := toNat_ofNat (by omega)
  simp only [String.utf8EncodeChar, hval]
  rw [if_pos (by omega), byte_eq rfl]

/-- The two bytes of a shortest form are those of its character. -/
theorem encodeChar_two {a b : UInt8} {x : Char} (h : twoByte? a b = some x) :
    String.utf8EncodeChar x = [a, b] := by
  simp only [twoByte?, Option.ite_none_right_eq_some, Bool.and_eq_true, decide_eq_true_eq,
    isTail_iff, UInt8.le_iff_toNat_le, Option.some.injEq] at h
  obtain ⟨⟨⟨hmin, hmax⟩, hb⟩, rfl⟩ := h
  simp only [UInt8.reduceToNat] at hmin hmax
  have hval : (Char.ofNat ((a.toNat - 0xC0) * 0x40 + tailBits b)).val.toNat
      = (a.toNat - 0xC0) * 0x40 + (b.toNat - 0x80) := toNat_ofNat (by unfold tailBits; omega)
  simp only [String.utf8EncodeChar, hval]
  rw [if_neg (by omega), if_pos (by omega), byte_eq (a := a) (by omega), byte_eq (a := b) (by omega)]

/-- The three bytes of a shortest form are those of its character. -/
theorem encodeChar_three {a b c : UInt8} {x : Char} (h : threeByte? a b c = some x) :
    String.utf8EncodeChar x = [a, b, c] := by
  simp only [threeByte?, Option.ite_none_right_eq_some, Bool.and_eq_true, Bool.or_eq_true,
    decide_eq_true_eq, bne_iff_ne, ne_eq, isTail_iff, UInt8.le_iff_toNat_le, ← UInt8.toNat_inj,
    Option.some.injEq] at h
  obtain ⟨⟨⟨⟨⟨⟨hmin, hmax⟩, hb⟩, hc⟩, hlow⟩, hhigh⟩, rfl⟩ := h
  simp only [UInt8.reduceToNat] at hmin hmax hlow hhigh
  have hval : (Char.ofNat ((a.toNat - 0xE0) * 0x1000 + tailBits b * 0x40 + tailBits c)).val.toNat
      = (a.toNat - 0xE0) * 0x1000 + (b.toNat - 0x80) * 0x40 + (c.toNat - 0x80) :=
    toNat_ofNat (by unfold tailBits; omega)
  simp only [String.utf8EncodeChar, hval]
  rw [if_neg (by omega), if_neg (by omega), if_pos (by omega), byte_eq (a := a) (by omega),
    byte_eq (a := b) (by omega), byte_eq (a := c) (by omega)]

/-- The four bytes of a shortest form are those of its character. -/
theorem encodeChar_four {a b c d : UInt8} {x : Char} (h : fourByte? a b c d = some x) :
    String.utf8EncodeChar x = [a, b, c, d] := by
  simp only [fourByte?, Option.ite_none_right_eq_some, Bool.and_eq_true, Bool.or_eq_true,
    decide_eq_true_eq, bne_iff_ne, ne_eq, isTail_iff, UInt8.le_iff_toNat_le, ← UInt8.toNat_inj,
    Option.some.injEq] at h
  obtain ⟨⟨⟨⟨⟨⟨⟨hmin, hmax⟩, hb⟩, hc⟩, hd⟩, hlow⟩, hhigh⟩, rfl⟩ := h
  simp only [UInt8.reduceToNat] at hmin hmax hlow hhigh
  have hval : (Char.ofNat ((a.toNat - 0xF0) * 0x40000 + tailBits b * 0x1000 + tailBits c * 0x40
        + tailBits d)).val.toNat
      = (a.toNat - 0xF0) * 0x40000 + (b.toNat - 0x80) * 0x1000 + (c.toNat - 0x80) * 0x40
        + (d.toNat - 0x80) := toNat_ofNat (by unfold tailBits; omega)
  simp only [String.utf8EncodeChar, hval]
  rw [if_neg (by omega), if_neg (by omega), if_neg (by omega), byte_eq (a := a) (by omega),
    byte_eq (a := b) (by omega), byte_eq (a := c) (by omega), byte_eq (a := d) (by omega)]

/-- Bytes that are decoded are those of the characters they spell.  The cases are those of the
reader: none, one to four bytes of a character, and bytes that spell nothing. -/
theorem encodeChars_of_decodeChars? {bs : Bytes} {cs : List Char}
    (h : decodeChars? bs = some cs) : encodeChars cs = bs := by
  fun_induction decodeChars? bs generalizing cs with
  | case1 => cases h; rfl
  | case2 a s ha ih =>
    obtain ⟨cs, hs, rfl⟩ := Option.map_eq_some_iff.mp h
    simp [encodeChars, encodeChar_one ha, ← ih hs]
  | case4 a ha b s x hx ih =>
    obtain ⟨cs, hs, rfl⟩ := Option.map_eq_some_iff.mp h
    simp [encodeChars, encodeChar_two hx, ← ih hs]
  | case6 a ha b h₂ c s x hx ih =>
    obtain ⟨cs, hs, rfl⟩ := Option.map_eq_some_iff.mp h
    simp [encodeChars, encodeChar_three hx, ← ih hs]
  | case8 a ha b h₂ c h₃ d s x hx ih =>
    obtain ⟨cs, hs, rfl⟩ := Option.map_eq_some_iff.mp h
    simp [encodeChars, encodeChar_four hx, ← ih hs]
  | case3 | case5 | case7 | case9 => cases h

/-- **Bytes spell a text exactly when they are its encoding.** -/
theorem decode?_eq_some_iff {bs : Bytes} {s : String} : decode? bs = some s ↔ encode s = bs := by
  constructor
  · intro h
    obtain ⟨cs, hcs, rfl⟩ := Option.map_eq_some_iff.mp h
    rw [encode, String.toList_ofList, encodeChars_of_decodeChars? hcs]
  · rintro rfl
    exact decode?_encode s

end ControlPlane.Text.Utf8
