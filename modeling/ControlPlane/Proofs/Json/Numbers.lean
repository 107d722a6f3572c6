/-
# Numbers read back

What a reader makes of the text of a number, when something follows that cannot belong to it.

* `Json.readNumber_toDigits`: an integer is read as it was written;
* `Real64.unsigned_reads`: a real is read to its end, whatever it is read as;
* `Number.echo`, `Json.readNumber_chars`: both together, for numbers with their sign.

A reader of reals scales by rounded powers of ten, so it need not find the real that was written;
`Number.echo` says what it finds.  For the readers of values and messages all that matters is
that the text of a number is used up and nothing behind it.
-/
import ControlPlane.Json.Printer
import ControlPlane.Json.Reader

namespace ControlPlane

open Text.Utf8 (encodeChars)

namespace Json

/-! ## 1. Digits as bytes -/

/-- A run of decimal digits. -/
def AllDigits (bs : Bytes) : Prop := ∀ b ∈ bs, isDigit b = true

/-- **What ends a number**: nothing, or a byte that cannot belong to it. -/
def Ends : Bytes → Prop
  | [] => True
  | b :: _ => isDigit b = false ∧ b ≠ 0x2E ∧ b ≠ 0x65 ∧ b ≠ 0x45

/-- What ends a number does not start with a digit. -/
theorem Ends.startsWithDigit {rest : Bytes} (h : Ends rest) : startsWithDigit rest = false := by
  cases rest with
  | nil => rfl
  | cons b s => exact h.1

/-- A digit as a byte. -/
theorem isDigit_byte {c : Char} (h : c.isDigit = true) :
    isDigit (UInt8.ofNat c.toNat) = true ∧
      digitValue (UInt8.ofNat c.toNat) = c.toNat - '0'.toNat := by
  have hrange := Char.isDigit_iff_toNat.1 h
  simp only [Char.reduceToNat] at hrange
  have hbyte : (UInt8.ofNat c.toNat).toNat = c.toNat := UInt8.toNat_ofNat_of_lt' (by
    simp [UInt8.size]; omega)
  constructor
  · simp only [isDigit, Bool.and_eq_true, decide_eq_true_eq, UInt8.le_iff_toNat_le, hbyte]
    exact ⟨by simp; omega, by simp; omega⟩
  · simp [digitValue, hbyte]

/-- A character of one byte. -/
theorem encodeChar_of_isDigit {c : Char} (h : c.isDigit = true) :
    String.utf8EncodeChar c = [UInt8.ofNat c.toNat] := by
  have hrange := Char.isDigit_iff_toNat.1 h
  simp only [Char.reduceToNat] at hrange
  have hval : c.val.toNat = c.toNat := rfl
  have hsmall : c.toNat ≤ 0x7F := by omega
  simp only [String.utf8EncodeChar, hval, if_pos hsmall]

/-- The bytes of a character come before those of the next ones. -/
theorem encodeChars_cons (c : Char) (cs : List Char) :
    encodeChars (c :: cs) = String.utf8EncodeChar c ++ encodeChars cs := rfl

/-- The bytes of two runs of characters. -/
theorem encodeChars_append (cs ds : List Char) :
    encodeChars (cs ++ ds) = encodeChars cs ++ encodeChars ds := by
  simp [encodeChars]

/-- The bytes of some digits, and their value. -/
theorem encodeChars_digits {cs : List Char} (h : ∀ c ∈ cs, c.isDigit = true) :
    AllDigits (encodeChars cs) ∧ (encodeChars cs).length = cs.length ∧
      ∀ n, (encodeChars cs).foldl (fun n b => n * 10 + digitValue b) n
        = Nat.ofDigitChars 10 cs n := by
  induction cs with
  | nil => exact ⟨fun b hb => by simp [encodeChars] at hb, rfl, fun n => by simp [encodeChars]⟩
  | cons c cs ih =>
    have hc : c.isDigit = true := h c List.mem_cons_self
    obtain ⟨hdigits, hlength, hvalue⟩ := ih fun d hd => h d (List.mem_cons_of_mem c hd)
    have hcons : encodeChars (c :: cs) = UInt8.ofNat c.toNat :: encodeChars cs := by
      rw [encodeChars_cons, encodeChar_of_isDigit hc]
      rfl
    rw [hcons]
    refine ⟨?_, by simp [hlength], fun n => ?_⟩
    · intro b hb
      rcases List.mem_cons.1 hb with rfl | hb
      · exact (isDigit_byte hc).1
      · exact hdigits b hb
    · rw [List.foldl_cons, hvalue, (isDigit_byte hc).2, Nat.ofDigitChars_cons, Nat.mul_comm]

/-- The digits of a number. -/
def digitBytes (n : Nat) : Bytes := encodeChars (Nat.toDigits 10 n)

/-- The digits of a number are digits, and their value is the number. -/
theorem digitBytes_spec (n : Nat) : AllDigits (digitBytes n) ∧ digitBytes n ≠ [] ∧
    (digitBytes n).foldl (fun n b => n * 10 + digitValue b) 0 = n := by
  have hall : ∀ c ∈ Nat.toDigits 10 n, c.isDigit = true :=
    fun c hc => Nat.isDigit_of_mem_toDigits (by decide) (by decide) hc
  obtain ⟨hdigits, hlength, hvalue⟩ := encodeChars_digits hall
  refine ⟨hdigits, ?_, by rw [digitBytes, hvalue, Nat.ofDigitChars_ten_toDigits]⟩
  intro hnil
  have hzero : (digitBytes n).length = 0 := by rw [hnil]; rfl
  rw [digitBytes, hlength] at hzero
  exact absurd (Nat.length_toDigits_pos (b := 10) (n := n)) (by omega)

/-- The first digit of a positive number is not zero. -/
theorem head_toDigits {n : Nat} (hn : 0 < n) :
    ∃ c cs, Nat.toDigits 10 n = c :: cs ∧ c ≠ '0' := by
  induction n using Nat.strongRecOn with
  | ind n ih =>
    by_cases hlt : n < 10
    · refine ⟨Nat.digitChar n, [], Nat.toDigits_of_lt_base hlt, ?_⟩
      have hall : ∀ m, m < 10 → 0 < m → Nat.digitChar m ≠ '0' := by decide
      exact hall n hlt hn
    · obtain ⟨c, cs, hcs, hc⟩ := ih (n / 10) (by omega) (by omega)
      refine ⟨c, cs ++ [Nat.digitChar (n % 10)], ?_, hc⟩
      rw [Nat.toDigits_of_base_le (by decide) (by omega), hcs]
      rfl

/-- The byte of a digit other than zero. -/
theorem byte_ne_zero {c : Char} (hdigit : c.isDigit = true) (hc : c ≠ '0') :
    UInt8.ofNat c.toNat ≠ 0x30 := by
  intro hzero
  have hvalue := (isDigit_byte hdigit).2
  have hrange := Char.isDigit_iff_toNat.1 hdigit
  rw [hzero] at hvalue
  simp only [Char.reduceToNat] at hrange hvalue
  have hnone : digitValue 0x30 = 0 := rfl
  exact hc (Char.toNat_inj.1 (show c.toNat = 48 by omega))

/-! ## 2. Runs of digits -/

/-- **Taking digits stops where something else begins.** -/
theorem takeDigits_append {rest : Bytes} (hrest : startsWithDigit rest = false) (sig n : Nat)
    (ds : Bytes) : takeDigits sig n (ds ++ rest)
      = ((takeDigits sig n ds).1, (takeDigits sig n ds).2.1, (takeDigits sig n ds).2.2 ++ rest) := by
  induction ds generalizing sig n with
  | nil =>
    cases rest with
    | nil => rfl
    | cons b s =>
      have hb : isDigit b = false := hrest
      simp [takeDigits, hb]
  | cons b ds ih =>
    simp only [List.cons_append, takeDigits]
    split
    · exact ih _ _
    · rfl

/-- What is left of a run of digits is one. -/
theorem takeDigits_left {ds : Bytes} (hds : AllDigits ds) (sig n : Nat) :
    AllDigits (takeDigits sig n ds).2.2 ∧
      (takeDigits sig n ds).2.1 + (takeDigits sig n ds).2.2.length = n + ds.length := by
  induction ds generalizing sig n with
  | nil => exact ⟨fun b hb => absurd hb (by simp [takeDigits]), rfl⟩
  | cons b ds ih =>
    simp only [takeDigits]
    split
    · obtain ⟨hleft, hcount⟩ := ih (fun d hd => hds d (List.mem_cons_of_mem b hd))
        (sig * 10 + digitValue b) (n + 1)
      refine ⟨hleft, ?_⟩
      simp only [List.length_cons]
      omega
    · exact ⟨hds, rfl⟩

/-- **A number that fits is taken whole.** -/
theorem takeDigits_all {ds : Bytes} (hds : AllDigits ds) (sig n : Nat)
    (hfit : ds.foldl (fun n b => n * 10 + digitValue b) sig < UInt64.size) :
    takeDigits sig n ds
      = (ds.foldl (fun n b => n * 10 + digitValue b) sig, n + ds.length, []) := by
  have hgrows : ∀ (ds : Bytes) (m : Nat),
      m ≤ ds.foldl (fun n b => n * 10 + digitValue b) m := by
    intro ds
    induction ds with
    | nil => exact fun m => Nat.le_refl m
    | cons b ds ih =>
      intro m
      exact Nat.le_trans (by omega) (ih (m * 10 + digitValue b))
  induction ds generalizing sig n with
  | nil => rfl
  | cons b ds ih =>
    have hb : isDigit b = true := hds b List.mem_cons_self
    rw [List.foldl_cons] at hfit
    have hstep : sig * 10 + digitValue b < UInt64.size := Nat.lt_of_le_of_lt (hgrows ds _) hfit
    simp only [takeDigits, hb, hstep, decide_true, Bool.and_self, if_true]
    rw [ih (fun d hd => hds d (List.mem_cons_of_mem b hd)) _ _ hfit]
    simp only [List.foldl_cons, List.length_cons]
    congr 2
    omega

/-- A run of digits in front of something else. -/
theorem takeWhile_digits {ds rest : Bytes} (hds : AllDigits ds)
    (hrest : startsWithDigit rest = false) :
    (ds ++ rest).takeWhile isDigit = ds ∧ (ds ++ rest).dropWhile isDigit = rest := by
  have hnone : rest.takeWhile isDigit = [] ∧ rest.dropWhile isDigit = rest := by
    cases rest with
    | nil => exact ⟨rfl, rfl⟩
    | cons b s =>
      have hb : isDigit b = false := hrest
      simp [hb]
  rw [List.takeWhile_append_of_pos hds, List.dropWhile_append_of_pos hds, hnone.1, hnone.2]
  exact ⟨List.append_nil ds, rfl⟩

/-! ## 3. The parts of a number -/

/-- The digits in front of a point or a mark: zero alone, or digits that do not start with it. -/
inductive IntegerPart : Bytes → Prop
  | zero : IntegerPart [0x30]
  | digits (b : UInt8) (ds : Bytes) (hb : isDigit b = true) (hne : b ≠ 0x30)
      (hds : AllDigits ds) : IntegerPart (b :: ds)

/-- Digits that do not start with zero may stand in front of a point. -/
theorem integerPart_cons {c : Char} {cs : List Char} (hc : c ≠ '0') (hdigit : c.isDigit = true)
    (hcs : ∀ d ∈ cs, d.isDigit = true) : IntegerPart (encodeChars (c :: cs)) := by
  have hcons : encodeChars (c :: cs) = UInt8.ofNat c.toNat :: encodeChars cs := by
    rw [encodeChars_cons, encodeChar_of_isDigit hdigit]
    rfl
  rw [hcons]
  exact .digits _ _ (isDigit_byte hdigit).1 (byte_ne_zero hdigit hc) (encodeChars_digits hcs).1

/-- So may the digits of a number. -/
theorem integerPart_digitBytes (n : Nat) : IntegerPart (digitBytes n) := by
  rcases Nat.eq_zero_or_pos n with rfl | hn
  · exact .zero
  · obtain ⟨c, cs, hcs, hc⟩ := head_toDigits hn
    have hall : ∀ d ∈ c :: cs, d.isDigit = true := fun d hd =>
      Nat.isDigit_of_mem_toDigits (b := 10) (n := n) (by decide) (by decide) (hcs ▸ hd)
    rw [digitBytes, hcs]
    exact integerPart_cons hc (hall c List.mem_cons_self) fun d hd =>
      hall d (List.mem_cons_of_mem c hd)

/-- An integer part starts with a digit. -/
theorem IntegerPart.head {ds : Bytes} (h : IntegerPart ds) :
    ∃ b bs, ds = b :: bs ∧ isDigit b = true := by
  cases h with
  | zero => exact ⟨_, _, rfl, rfl⟩
  | digits b ds hb => exact ⟨b, ds, rfl, hb⟩

/-- **An integer part is read up to what follows it.**  One that fits into 64 bits is read as its
value. -/
theorem readNumber_integerPart {ds : Bytes} (h : IntegerPart ds) :
    ∃ sig dropped, (∀ negative tail, startsWithDigit tail = false →
      readNumber negative (ds ++ tail) = readAfterInteger negative sig dropped tail) ∧
      (ds.foldl (fun n b => n * 10 + digitValue b) 0 < UInt64.size →
        sig = ds.foldl (fun n b => n * 10 + digitValue b) 0 ∧ dropped = 0) := by
  cases h with
  | zero =>
    refine ⟨0, 0, fun negative tail htail => ?_, fun _ => ⟨rfl, rfl⟩⟩
    simp [readNumber, htail]
  | digits b ds hb hne hds =>
    have hleft := takeDigits_left hds (digitValue b) 0
    refine ⟨(takeDigits (digitValue b) 0 ds).1, (takeDigits (digitValue b) 0 ds).2.2.length,
      fun negative tail htail => ?_, fun hfit => ?_⟩
    · have hrun := takeWhile_digits hleft.1 htail
      simp only [List.cons_append, readNumber, if_neg hne, hb, if_true,
        takeDigits_append htail, hrun.1, hrun.2]
    · have hstart : (b :: ds).foldl (fun n b => n * 10 + digitValue b) 0
          = ds.foldl (fun n b => n * 10 + digitValue b) (digitValue b) := by
        simp
      rw [hstart] at hfit ⊢
      rw [takeDigits_all hds _ _ hfit]
      exact ⟨rfl, rfl⟩

/-- **A fraction is read up to what follows it.** -/
theorem readFraction_digits {ds : Bytes} (hds : AllDigits ds) (hne : ds ≠ []) (sig : Nat)
    (start : Int) : ∃ sig' exponent, ∀ negative tail, startsWithDigit tail = false →
      readFraction negative sig start (ds ++ tail) = readScale negative sig' exponent tail := by
  have hleft := takeDigits_left hds sig 0
  refine ⟨(takeDigits sig 0 ds).1, start - Int.ofNat (takeDigits sig 0 ds).2.1,
    fun negative tail htail => ?_⟩
  have hrun := takeWhile_digits hleft.1 htail
  simp only [readFraction, takeDigits_append htail]
  cases hrest : (takeDigits sig 0 ds).2.2 with
  | nil =>
    have hcount : (takeDigits sig 0 ds).2.1 ≠ 0 := by
      have hlength : 0 < ds.length := List.length_pos_iff.2 hne
      have hsum := hleft.2
      rw [hrest] at hsum
      simp only [List.length_nil] at hsum
      omega
    simp [htail, hcount]
  | cons b bs =>
    have hb : isDigit b = true := hleft.1 b (by simp [hrest])
    rw [hrest] at hrun
    have hstarts : startsWithDigit (b :: bs ++ tail) = true := hb
    rw [if_pos hstarts, hrun.2]

/-- **An exponent is read up to what follows it.** -/
theorem readExponent_digits {sign : UInt8} (hsign : sign = 0x2B ∨ sign = 0x2D) {ds : Bytes}
    (hds : AllDigits ds) (hne : ds ≠ []) (sig : Nat) (start : Int) :
    ∃ exponent, ∀ negative rest, startsWithDigit rest = false →
      readExponent negative sig start (sign :: ds ++ rest)
        = finishReal negative sig exponent rest := by
  have hstarts : ∀ rest, startsWithDigit (ds ++ rest) = true ∧ (ds ++ rest).isEmpty = false := by
    intro rest
    cases ds with
    | nil => exact absurd rfl hne
    | cons b bs => exact ⟨hds b List.mem_cons_self, rfl⟩
  rcases hsign with rfl | rfl
  · refine ⟨start + Int.ofNat (digitsValue ds), fun negative rest hrest => ?_⟩
    have hrun := takeWhile_digits hds hrest
    simp [readExponent, hstarts rest, hrun.1, hrun.2]
  · refine ⟨start - Int.ofNat (digitsValue ds), fun negative rest hrest => ?_⟩
    have hrun := takeWhile_digits hds hrest
    simp [readExponent, hstarts rest, hrun.1, hrun.2]

/-- What a real is finished as does not depend on what follows it. -/
theorem finishReal_map (negative : Bool) (sig : Nat) (exponent : Int) (rest : Bytes) :
    finishReal negative sig exponent rest
      = ((finishReal negative sig exponent []).map Prod.fst).map (·, rest) := by
  unfold finishReal
  split <;> rfl

/-! ## 4. Integers -/

/-- **An integer that fits is read as it was written.** -/
theorem readNumber_toDigits {n : Nat} (hn : n < UInt64.size) (negative : Bool) {rest : Bytes}
    (hrest : Ends rest) :
    readNumber negative (digitBytes n ++ rest) = finishInteger negative n rest := by
  obtain ⟨sig, dropped, hread, hvalue⟩ := readNumber_integerPart (integerPart_digitBytes n)
  rw [(digitBytes_spec n).2.2] at hvalue
  obtain ⟨rfl, rfl⟩ := hvalue hn
  rw [hread negative rest hrest.startsWithDigit]
  cases rest with
  | nil => simp only [readAfterInteger, if_true]
  | cons b s =>
    obtain ⟨-, hpoint, he, hE⟩ := hrest
    simp [readAfterInteger, hpoint, he, hE]

/-! ## 5. Reals -/

/-- **The text of a real** without its sign. -/
inductive RealText : Bytes → Prop
  | fraction (whole digits : Bytes) (hwhole : IntegerPart whole) (hdigits : AllDigits digits)
      (hne : digits ≠ []) : RealText (whole ++ 0x2E :: digits)
  | scaled (whole : Bytes) (sign : UInt8) (power : Bytes) (hwhole : IntegerPart whole)
      (hsign : sign = 0x2B ∨ sign = 0x2D) (hpower : AllDigits power) (hne : power ≠ []) :
      RealText (whole ++ 0x65 :: sign :: power)
  | both (whole digits : Bytes) (sign : UInt8) (power : Bytes) (hwhole : IntegerPart whole)
      (hdigits : AllDigits digits) (hne : digits ≠ []) (hsign : sign = 0x2B ∨ sign = 0x2D)
      (hpower : AllDigits power) (hne' : power ≠ []) :
      RealText (whole ++ 0x2E :: (digits ++ 0x65 :: sign :: power))

/-- A significand with no exponent behind it. -/
theorem readScale_ends {rest : Bytes} (hrest : Ends rest) (negative : Bool) (sig : Nat)
    (exponent : Int) : readScale negative sig exponent rest
      = finishReal negative sig exponent rest := by
  cases rest with
  | nil => rfl
  | cons b s =>
    obtain ⟨-, -, he, hE⟩ := hrest
    simp [readScale, he, hE]

/-- **The text of a real is read to its end**, and what it is read as does not depend on what
follows. -/
theorem readNumber_realText {text : Bytes} (h : RealText text) (negative : Bool) :
    ∃ r : Except ReadError Number, ∀ rest, Ends rest →
      readNumber negative (text ++ rest) = r.map (·, rest) := by
  cases h with
  | fraction whole digits hwhole hdigits hne =>
    obtain ⟨sig, dropped, hread, -⟩ := readNumber_integerPart hwhole
    obtain ⟨sig', exponent, hfraction⟩ := readFraction_digits hdigits hne sig (Int.ofNat dropped)
    refine ⟨(finishReal negative sig' exponent []).map Prod.fst, fun rest hrest => ?_⟩
    rw [List.append_assoc, List.cons_append, hread negative _ rfl, ← finishReal_map]
    show readFraction negative sig (Int.ofNat dropped) (digits ++ rest) = _
    rw [hfraction negative rest hrest.startsWithDigit, readScale_ends hrest]
  | scaled whole sign power hwhole hsign hpower hne =>
    obtain ⟨sig, dropped, hread, -⟩ := readNumber_integerPart hwhole
    obtain ⟨exponent, hexponent⟩ :=
      readExponent_digits hsign hpower hne sig (Int.ofNat dropped)
    refine ⟨(finishReal negative sig exponent []).map Prod.fst, fun rest hrest => ?_⟩
    rw [List.append_assoc, List.cons_append, hread negative _ rfl, ← finishReal_map]
    exact hexponent negative rest hrest.startsWithDigit
  | both whole digits sign power hwhole hdigits hne hsign hpower hne' =>
    obtain ⟨sig, dropped, hread, -⟩ := readNumber_integerPart hwhole
    obtain ⟨sig', start, hfraction⟩ := readFraction_digits hdigits hne sig (Int.ofNat dropped)
    obtain ⟨exponent, hexponent⟩ := readExponent_digits hsign hpower hne' sig' start
    refine ⟨(finishReal negative sig' exponent []).map Prod.fst, fun rest hrest => ?_⟩
    rw [List.append_assoc, List.cons_append, hread negative _ rfl, ← finishReal_map]
    show readFraction negative sig (Int.ofNat dropped)
      (digits ++ 0x65 :: sign :: power ++ rest) = _
    rw [List.append_assoc, List.cons_append, hfraction negative _ rfl]
    exact hexponent negative rest hrest.startsWithDigit

end Json

namespace Real64

open Json (AllDigits IntegerPart RealText encodeChars_cons encodeChars_append integerPart_cons)

/-! ## 6. The text of a real -/

/-- A hit on a grid is not zero. -/
theorem onGrid?_ne_zero {m : Nat} {p : Int} {d : Nat} (h : onGrid? m p = some d) : d ≠ 0 := by
  unfold onGrid? at h
  simp only at h
  split at h
  · next hin _ =>
    simp only [Bool.and_eq_true, bne_iff_ne, ne_eq] at hin
    split at h
    · injection h with h
      exact h ▸ hin.2
    · split at h
      · injection h with h
        exact h ▸ Nat.succ_ne_zero _
      · split at h
        · injection h with h
          exact h ▸ hin.2
        · injection h with h
          exact h ▸ Nat.succ_ne_zero _
  · next hin _ =>
    simp only [Bool.and_eq_true, bne_iff_ne, ne_eq] at hin
    injection h with h
    exact h ▸ hin.2
  · injection h with h
    exact h ▸ Nat.succ_ne_zero _
  · cases h

/-- A search that finds nothing ends at zero. -/
theorem search_eq_zero {m : Nat} {first : Int} {left count : Nat}
    (h : (search m first left count).1 = 0) : (search m first left count).2 = 0 := by
  induction left generalizing count with
  | zero => rfl
  | succ left ih =>
    simp only [search] at h ⊢
    split
    · next d hd =>
      rw [hd] at h
      exact absurd h (onGrid?_ne_zero hd)
    · next hd =>
      rw [hd] at h
      exact ih h

/-- Digits without the zeros at their end are digits, and begin as before. -/
theorem dropZeros_cons {c : Char} (hc : c ≠ '0') (cs : List Char) :
    ∃ cs', dropZeros (c :: cs) = c :: cs' ∧ ∀ d ∈ cs', d ∈ cs := by
  have hlast : ([c] : List Char).dropWhile (· == '0') = [c] := by simp [hc]
  unfold dropZeros
  rw [List.reverse_cons, List.dropWhile_append, hlast]
  split
  · exact ⟨[], rfl, fun d hd => by cases hd⟩
  · refine ⟨(cs.reverse.dropWhile (· == '0')).reverse, by simp, fun d hd => ?_⟩
    have hmem := (List.dropWhile_sublist (· == '0')).subset (List.mem_reverse.1 hd)
    exact List.mem_reverse.1 hmem

/-- **The digits of a shortest numeral**: none for zero, and else digits that do not start with
zero. -/
theorem shortest_digits (m : Nat) :
    ((shortest m).digits = [] ∧ (shortest m).exponent = 0) ∨
    ∃ c cs, (shortest m).digits = c :: cs ∧ c ≠ '0' ∧ c.isDigit = true ∧
      ∀ d ∈ cs, d.isDigit = true := by
  unfold shortest
  simp only
  generalize hs : search m (floorLog10 (fraction m).1 (fraction m).2) 17 0 = s
  obtain ⟨d, p⟩ := s
  rcases Nat.eq_zero_or_pos d with rfl | hd
  · left
    have hp : p = 0 := by
      have hzero : (search m (floorLog10 (fraction m).1 (fraction m).2) 17 0).2 = 0 :=
        search_eq_zero (by rw [hs])
      rw [hs] at hzero
      exact hzero
    subst hp
    exact ⟨by rfl, by rfl⟩
  · right
    obtain ⟨c, cs, hcs, hc⟩ := Json.head_toDigits hd
    have hall : ∀ x ∈ c :: cs, x.isDigit = true := fun x hx =>
      Nat.isDigit_of_mem_toDigits (b := 10) (n := d) (by decide) (by decide) (hcs ▸ hx)
    obtain ⟨cs', hcs', hsub⟩ := dropZeros_cons hc cs
    refine ⟨c, cs', ?_, hc, hall c List.mem_cons_self, fun x hx => ?_⟩
    · rw [hcs, hcs']
    · exact hall x (List.mem_cons_of_mem c (hsub x hx))

/-- Digits as bytes, and whether there are any. -/
theorem allDigits_encode {cs : List Char} (hcs : ∀ d ∈ cs, d.isDigit = true) (hne : cs ≠ []) :
    AllDigits (encodeChars cs) ∧ encodeChars cs ≠ [] := by
  obtain ⟨hall, hlength, -⟩ := Json.encodeChars_digits hcs
  refine ⟨hall, fun hnil => hne (List.length_eq_zero_iff.1 ?_)⟩
  rw [← hlength, hnil]
  rfl

/-- What stands behind a point. -/
theorem realText_afterPoint {whole ds : List Char} (hwhole : IntegerPart (encodeChars whole))
    (hds : ∀ d ∈ ds, d.isDigit = true) :
    RealText (encodeChars (whole ++ afterPoint ds)) := by
  rw [encodeChars_append]
  unfold afterPoint
  cases ds with
  | nil =>
    have hzero : AllDigits (encodeChars ['0']) ∧ encodeChars ['0'] ≠ [] :=
      allDigits_encode (by simp) (by simp)
    exact .fraction _ (encodeChars ['0']) hwhole hzero.1 hzero.2
  | cons d ds =>
    have hsome := allDigits_encode hds (by simp)
    exact .fraction _ (encodeChars (d :: ds)) hwhole hsome.1 hsome.2

/-- **The positional text of a shortest numeral is that of a real.** -/
theorem realText_positional (m : Nat) : RealText (encodeChars (shortest m).positional) := by
  have hzero : IntegerPart (encodeChars ['0']) := .zero
  have hzeros : ∀ (k : Nat), ∀ d ∈ List.replicate k '0', d.isDigit = true := by
    intro k d hd
    rw [List.eq_of_mem_replicate hd]
    rfl
  unfold Numeral.positional
  rcases shortest_digits m with ⟨hnil, hexp⟩ | ⟨c, cs, hdigits, hc, hc', hcs⟩
  · rw [hnil, hexp]
    have hnone : RealText (encodeChars (['0'] ++ afterPoint [])) :=
      realText_afterPoint hzero (by simp)
    exact hnone
  · rw [hdigits]
    split
    · have hall : ∀ d ∈ List.replicate ((-(shortest m).exponent).toNat - 1) '0' ++ c :: cs,
          d.isDigit = true := by
        intro d hd
        rcases List.mem_append.1 hd with hd | hd
        · exact hzeros _ d hd
        · rcases List.mem_cons.1 hd with rfl | hd
          · exact hc'
          · exact hcs d hd
      have hsome := allDigits_encode hall (by simp)
      exact .fraction (encodeChars ['0']) _ hzero hsome.1 hsome.2
    · have hall : ∀ d ∈ cs ++ List.replicate
          ((shortest m).exponent.toNat + 1 - (c :: cs).length) '0', d.isDigit = true := by
        intro d hd
        rcases List.mem_append.1 hd with hd | hd
        · exact hcs d hd
        · exact hzeros _ d hd
      refine realText_afterPoint ?_ ?_
      · rw [List.cons_append, List.take_succ_cons]
        exact integerPart_cons hc hc' fun d hd => hall d (List.mem_of_mem_take hd)
      · rw [List.cons_append, List.drop_succ_cons]
        exact fun d hd => hall d (List.mem_of_mem_drop hd)

/-- **So is its scientific text**, unless it is zero. -/
theorem realText_scientific (m : Nat) (hexp : (shortest m).exponent ≠ 0) :
    RealText (encodeChars ((shortest m).scientific 'e')) := by
  rcases shortest_digits m with ⟨-, hexp'⟩ | ⟨c, cs, hdigits, hc, hc', hcs⟩
  · exact absurd hexp' hexp
  · have hpower := Json.digitBytes_spec (shortest m).exponent.natAbs
    have hwhole : IntegerPart (encodeChars [c]) := integerPart_cons hc hc' (by simp)
    have hsign : ∀ b : Prop, [Decidable b] → ∃ sign : UInt8, (sign = 0x2B ∨ sign = 0x2D) ∧
        ∀ ds, encodeChars ((if b then '-' else '+') :: ds) = sign :: encodeChars ds := by
      intro b _
      by_cases hb : b
      · exact ⟨0x2D, .inr rfl, fun ds => by rw [if_pos hb]; rfl⟩
      · exact ⟨0x2B, .inl rfl, fun ds => by rw [if_neg hb]; rfl⟩
    obtain ⟨sign, hsign, hbytes⟩ := hsign ((shortest m).exponent < 0)
    have htail : encodeChars ('e' :: (if (shortest m).exponent < 0 then '-' else '+') ::
        Nat.toDigits 10 (shortest m).exponent.natAbs)
          = 0x65 :: sign :: Json.digitBytes (shortest m).exponent.natAbs := by
      rw [encodeChars_cons, hbytes]
      rfl
    unfold Numeral.scientific
    rw [hdigits]
    cases cs with
    | nil =>
      rw [encodeChars_append, htail]
      exact .scaled _ sign _ hwhole hsign hpower.1 hpower.2.1
    | cons d ds =>
      have hsome := allDigits_encode hcs (by simp)
      have hlead : encodeChars ([c] ++ '.' :: d :: ds)
          = encodeChars [c] ++ 0x2E :: encodeChars (d :: ds) := by
        rw [encodeChars_append]
        rfl
      show RealText (encodeChars (([c] ++ '.' :: d :: ds) ++ _))
      rw [encodeChars_append, htail, hlead, List.append_assoc, List.cons_append]
      exact .both _ _ sign _ hwhole hsome.1 hsome.2 hsign hpower.1 hpower.2.1

/-- The characters of a real without its sign. -/
def unsignedChars (x : Real64) : List Char :=
  if x.magnitude.val = 0 then ['0', '.', '0'] else (shortest x.magnitude.val).layOut layout

/-- A real with its sign. -/
theorem chars_eq (x : Real64) :
    x.chars = (if x.negative then ['-'] else []) ++ x.unsignedChars := rfl

/-- **The text of every real is that of a real.** -/
theorem realText_unsignedChars (x : Real64) : RealText (encodeChars x.unsignedChars) := by
  unfold unsignedChars
  split
  · have hzero : IntegerPart (encodeChars ['0']) := .zero
    have hnone : RealText (encodeChars (['0'] ++ afterPoint [])) :=
      realText_afterPoint hzero (by simp)
    exact hnone
  · unfold Numeral.layOut
    split
    · exact realText_positional _
    · next hout =>
      refine realText_scientific _ fun hzero => hout ?_
      rw [hzero]
      exact ⟨by decide, by decide⟩

end Real64

/-! ## 7. Numbers -/

/-- The text of a real starts with a digit. -/
theorem Json.RealText.head {text : Bytes} (h : Json.RealText text) :
    ∃ b bs, text = b :: bs ∧ Json.isDigit b = true := by
  cases h with
  | fraction _ _ hwhole | scaled _ _ _ hwhole | both _ _ _ _ hwhole =>
    obtain ⟨b, bs, rfl, hb⟩ := hwhole.head
    exact ⟨b, _, rfl, hb⟩

/-- **What a number is read as** after it has been written: an integer as itself, and a real as
what its text gives. -/
def Number.echo : Number → Except ReadError Number
  | .real x => (Json.readNumber x.negative (encodeChars x.unsignedChars)).map Prod.fst
  | n => .ok n

/-- The text of a number, with its sign set apart, is read to its end. -/
structure Number.Reads (n : Number) (negative : Bool) (text : Bytes) : Prop where
  bytes : encodeChars n.chars = (if negative then [0x2D] else []) ++ text
  head : ∃ b bs, text = b :: bs ∧ Json.isDigit b = true
  read : ∀ rest, Json.Ends rest →
    Json.readNumber negative (text ++ rest) = n.echo.map (·, rest)

/-- **Every number is read to its end**, as its echo. -/
theorem Number.reads (n : Number) : ∃ negative text, n.Reads negative text := by
  cases n with
  | natural n =>
    refine ⟨false, Json.digitBytes n.toNat, rfl, (Json.integerPart_digitBytes _).head,
      fun rest hrest => ?_⟩
    rw [Json.readNumber_toDigits n.toNat_lt false hrest]
    simp [Json.finishInteger, Number.echo, Except.map]
  | negative k =>
    have hfit : k.val + 1 < UInt64.size := by
      have hk := k.isLt
      simp only [UInt64.size]
      omega
    refine ⟨true, Json.digitBytes (k.val + 1), rfl, (Json.integerPart_digitBytes _).head,
      fun rest hrest => ?_⟩
    have hrange : 0 < k.val + 1 ∧ k.val + 1 ≤ 0x8000000000000000 := by
      have hk := k.isLt
      omega
    rw [Json.readNumber_toDigits hfit true hrest]
    simp only [Json.finishInteger, Bool.not_true, Bool.false_eq_true, if_false, dif_pos hrange,
      Nat.add_sub_cancel]
    rfl
  | real x =>
    have htext := x.realText_unsignedChars
    obtain ⟨r, hr⟩ := Json.readNumber_realText htext x.negative
    refine ⟨x.negative, encodeChars x.unsignedChars, ?_, htext.head, fun rest hrest => ?_⟩
    · rw [Number.chars, Real64.chars_eq, Json.encodeChars_append]
      cases x.negative <;> rfl
    · have halone := hr [] trivial
      rw [List.append_nil] at halone
      rw [hr rest hrest, Number.echo, halone]
      cases r <;> rfl

end ControlPlane
