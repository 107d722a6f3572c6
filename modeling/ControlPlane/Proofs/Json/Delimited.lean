/-
# What follows a text does not change it

The readers go over the bytes once, and look no further than they have to.  So what a reader has found
it would have found with more bytes behind it as well, and it would have left these.  Only a number
does not know its end: it stops of itself where something else is left, and that is the condition
`rest ≠ []` below.  Lists, objects, strings and words are closed by their last byte.

* `readString_more`, `readNumber_more`, `readNested_more`, `readValue_more`: the readers of values;
* `skipValue_more`: the reader that passes over a value;
* `readNumberAs_more`, `readBool_more`, `readUInt64Option_more`: readings where a type is expected.

More bytes also leave more fuel, so the nested readers are compared at two amounts of it.
-/
import ControlPlane.Proofs.Json.Echo

namespace ControlPlane.Json

/-! ## 1. Blanks, words and strings -/

/-- What a first reader took, and what the next one made of it. -/
theorem bind_eq_ok {ε α β : Type} {take : Except ε α} {next : α → Except ε β} {y : β}
    (h : take >>= next = .ok y) : ∃ x, take = .ok x ∧ next x = .ok y := by
  cases take with
  | error fault => cases h
  | ok x => exact ⟨x, rfl, h⟩

/-- Where the first of two readers has found something, `hmore` says what two others find. -/
theorem bind_more {ε α β : Type} {take take' : Except ε α} {next next' : α → Except ε β} {y y' : β}
    (h : take >>= next = .ok y)
    (hmore : ∀ x, take = .ok x → next x = .ok y → ∃ x', take' = .ok x' ∧ next' x' = .ok y') :
    take' >>= next' = .ok y' := by
  obtain ⟨x, hx, hnext⟩ := bind_eq_ok h
  obtain ⟨x', hx', hnext'⟩ := hmore x hx hnext
  rw [hx']
  exact hnext'

/-- Where one of two cases has found something, so does the same case of two others. -/
theorem branch_more {ε α : Type} {c : Prop} [Decidable c] {x y x' y' : Except ε α} {a a' : α}
    (h : (if c then x else y) = .ok a) (hthen : x = .ok a → x' = .ok a')
    (helse : y = .ok a → y' = .ok a') : (if c then x' else y') = .ok a' := by
  split at h
  · next hc => rw [if_pos hc, hthen h]
  · next hc => rw [if_neg hc, helse h]

/-- A reader that goes on under a condition only has found what it found by going on. -/
theorem allowed_more {ε α : Type} {c : Prop} [Decidable c] {x x' : Except ε α} {e e' : ε} {a a' : α}
    (h : (if c then x else .error e) = .ok a) (hmore : x = .ok a → x' = .ok a') :
    (if c then x' else .error e') = .ok a' :=
  branch_more h hmore fun herror => by cases herror

/-- So has one that gives up under a condition. -/
theorem refused_more {ε α : Type} {c : Prop} [Decidable c] {x x' : Except ε α} {e e' : ε} {a a' : α}
    (h : (if c then .error e else x) = .ok a) (hmore : x = .ok a → x' = .ok a') :
    (if c then .error e' else x') = .ok a' :=
  branch_more h (fun herror => by cases herror) hmore

theorem skipBlanks_more {bs s : Bytes} {b : UInt8} (h : skipBlanks bs = b :: s) (more : Bytes) :
    skipBlanks (bs ++ more) = b :: (s ++ more) := by
  unfold skipBlanks at h ⊢
  rw [List.dropWhile_append, h]
  rfl

/-- Where a reader has found something behind blanks, `hmore` says what another one finds there. -/
theorem behindBlanks_more {α : Type} {bs more : Bytes} {e : ReadError}
    {read read' : UInt8 → Bytes → Except ReadError α} {a a' : α}
    (h : (match skipBlanks bs with
      | [] => Except.error e
      | b :: s => read b s) = .ok a)
    (hmore : ∀ b s, read b s = .ok a → read' b (s ++ more) = .ok a') :
    (match skipBlanks (bs ++ more) with
      | [] => Except.error e
      | b :: s => read' b s) = .ok a' := by
  cases hblanks : skipBlanks bs with
  | nil =>
    rw [hblanks] at h
    cases h
  | cons b s =>
    rw [hblanks] at h
    rw [skipBlanks_more hblanks]
    exact hmore b s h

theorem readWord_more {word bs rest : Bytes} (h : readWord word bs = .ok rest) (more : Bytes) :
    readWord word (bs ++ more) = .ok (rest ++ more) := by
  induction word generalizing bs with
  | nil =>
    cases h
    rfl
  | cons w ws ih =>
    cases bs with
    | nil => cases h
    | cons b s =>
      simp only [readWord, List.cons_append] at h ⊢
      split at h
      · next hb =>
        rw [if_pos hb]
        exact ih h
      · cases h

/-- What was put before a reading may be put before a longer one. -/
theorem before_more {front x rest rest' : Bytes} {r r' : Except ReadError (Bytes × Bytes)}
    (h : before front r = .ok (x, rest))
    (hmore : ∀ {y}, r = .ok (y, rest) → r' = .ok (y, rest')) :
    before front r' = .ok (x, rest') := by
  cases r with
  | error e => cases h
  | ok p =>
    cases h
    rw [hmore rfl]
    rfl

theorem readStringBytes_more {bs x rest : Bytes} (h : readStringBytes bs = .ok (x, rest))
    (more : Bytes) : readStringBytes (bs ++ more) = .ok (x, rest ++ more) := by
  fun_induction readStringBytes bs generalizing x with
  | case2 s =>
    cases h
    exact readStringBytes_quote _
  | case6 a b c d s n hn hhigh hlow _ ih =>
    -- one escape of four digits
    simp only [List.cons_append]
    rw [readStringBytes.eq_def]
    simp only [hn]
    rw [if_neg (by decide), if_pos trivial, if_pos trivial, if_neg hhigh, if_pos hlow]
    exact before_more h ih
  | case13 a b c d n hn hhigh hlow u hu v hv e f g i s m hm hrange _ ih =>
    -- two of them, which are a pair
    simp only [List.cons_append]
    rw [readStringBytes.eq_def]
    simp only [hn, hm]
    rw [if_neg (by decide), if_pos trivial, if_pos trivial, if_neg hhigh, if_neg hlow, if_neg hu,
      if_neg hv, if_neg hrange]
    exact before_more h ih
  | case16 e s hu b hb _ ih =>
    simp only [List.cons_append]
    rw [readStringBytes_short hu hb]
    exact before_more h ih
  | case19 b s hquote hslash hcontrol ih =>
    rw [List.cons_append, readStringBytes.eq_def]
    simp only [hquote, hslash, hcontrol, if_false]
    exact before_more h ih
  | case1 | case3 | case4 | case5 | case7 | case8 | case9 | case10 | case11 | case12 | case14
  | case15 | case17 | case18 => cases h

/-- **A string ends at its quote**, whatever follows. -/
theorem readString_more {bs rest : Bytes} {t : String} (h : readString bs = .ok (t, rest))
    (more : Bytes) : readString (bs ++ more) = .ok (t, rest ++ more) := by
  obtain ⟨⟨raw, rest'⟩, hraw, h⟩ := bind_eq_ok h
  simp only [readString, readStringBytes_more hraw more, bind, Except.bind]
  simp only at h
  split at h
  · cases h
    rfl
  · cases h

theorem skipString_more {bs rest : Bytes} (h : skipString bs = .ok rest)
    (more : Bytes) : skipString (bs ++ more) = .ok (rest ++ more) := by
  fun_induction skipString bs with
  | case2 s =>
    cases h
    rw [List.cons_append, skipString.eq_def]
    rfl
  | case4 a b c d s hhex _ ih =>
    simp only [List.cons_append]
    rw [skipString.eq_def]
    simp [hhex, ih h]
  | case7 a s hu hshort _ ih =>
    simp only [List.cons_append]
    rw [skipString.eq_def]
    simp [hu, hshort, ih h]
  | case10 b s hquote hslash hcontrol ih =>
    simp only [List.cons_append]
    rw [skipString.eq_def]
    simp [hquote, hslash, hcontrol, ih h]
  | case1 | case3 | case5 | case6 | case8 | case9 => cases h

/-! ## 2. Numbers -/

theorem startsWithDigit_more {bs : Bytes} (h : bs ≠ []) (more : Bytes) :
    startsWithDigit (bs ++ more) = startsWithDigit bs := by
  cases bs with
  | nil => exact absurd rfl h
  | cons b s => rfl

/-- Digits end where something is left behind them. -/
theorem digits_more {bs : Bytes} (h : bs.dropWhile isDigit ≠ []) (more : Bytes) :
    (bs ++ more).takeWhile isDigit = bs.takeWhile isDigit ∧
      (bs ++ more).dropWhile isDigit = bs.dropWhile isDigit ++ more := by
  induction bs with
  | nil => exact absurd rfl h
  | cons b s ih =>
    rw [List.cons_append, List.takeWhile_cons, List.takeWhile_cons, List.dropWhile_cons,
      List.dropWhile_cons]
    rw [List.dropWhile_cons] at h
    split at h
    · next hb =>
      obtain ⟨htake, hdrop⟩ := ih h
      simp [hb, htake, hdrop]
    · next hb => simp [hb]

theorem takeDigits_more {sig n : Nat} {bs : Bytes} (h : (takeDigits sig n bs).2.2 ≠ [])
    (more : Bytes) : takeDigits sig n (bs ++ more)
      = ((takeDigits sig n bs).1, (takeDigits sig n bs).2.1, (takeDigits sig n bs).2.2 ++ more) := by
  induction bs generalizing sig n with
  | nil => exact absurd rfl h
  | cons b s ih =>
    simp only [List.cons_append, takeDigits] at h ⊢
    split
    · next hb =>
      rw [if_pos hb] at h
      exact ih h
    · rfl

section

variable {negative : Bool} {sig : Nat} {exponent : Int} {n : Number} {bs rest : Bytes}

/-- What a number is finished as leaves all that follows. -/
theorem finishReal_more (h : finishReal negative sig exponent bs = .ok (n, rest)) (more : Bytes) :
    finishReal negative sig exponent (bs ++ more) = .ok (n, rest ++ more) ∧ rest = bs := by
  unfold finishReal at h ⊢
  split at h
  · cases h
    exact ⟨rfl, rfl⟩
  · cases h

/-- So does an integer. -/
theorem finishInteger_more (h : finishInteger negative sig bs = .ok (n, rest)) (more : Bytes) :
    finishInteger negative sig (bs ++ more) = .ok (n, rest ++ more) ∧ rest = bs := by
  unfold finishInteger at h ⊢
  by_cases hsign : (!negative) = true
  · rw [if_pos hsign] at h ⊢
    cases h
    exact ⟨rfl, rfl⟩
  · rw [if_neg hsign] at h ⊢
    by_cases hfits : 0 < sig ∧ sig ≤ 0x8000000000000000
    · rw [dif_pos hfits] at h ⊢
      cases h
      exact ⟨rfl, rfl⟩
    · rw [dif_neg hfits] at h ⊢
      exact finishReal_more h more

/-- The digits of an exponent, behind its sign. -/
def readPower (negative : Bool) (sig : Nat) (start : Int) (down : Bool) (ds : Bytes) :
    Except ReadError (Number × Bytes) :=
  if ds.isEmpty then .error .endInValue
  else if !startsWithDigit ds then .error .badNumber
  else
    let e := Int.ofNat (digitsValue (ds.takeWhile isDigit))
    finishReal negative sig (if down then start - e else start + e) (ds.dropWhile isDigit)

/-- An exponent may have a sign. -/
theorem readExponent_cons (negative : Bool) (sig : Nat) (start : Int) (b : UInt8) (s : Bytes) :
    readExponent negative sig start (b :: s)
      = if b = 0x2B then readPower negative sig start false s
        else if b = 0x2D then readPower negative sig start true s
        else readPower negative sig start false (b :: s) := by
  simp only [readExponent]
  by_cases hplus : b = 0x2B
  · simp only [if_pos hplus]
    rfl
  · by_cases hminus : b = 0x2D
    · simp only [if_neg hplus, if_pos hminus]
      rfl
    · simp only [if_neg hplus, if_neg hminus]
      rfl

theorem readPower_more {down : Bool} (h : readPower negative sig exponent down bs = .ok (n, rest))
    (hrest : rest ≠ []) (more : Bytes) :
    readPower negative sig exponent down (bs ++ more) = .ok (n, rest ++ more) := by
  cases bs with
  | nil => cases h
  | cons b s =>
    unfold readPower at h ⊢
    rw [if_neg (by simp)] at h ⊢
    rw [startsWithDigit_more (by simp)]
    split at h
    · cases h
    · next hb =>
      obtain ⟨hmore, hall⟩ := finishReal_more h more
      obtain ⟨htake, hdrop⟩ := digits_more (hall ▸ hrest) more
      rw [if_neg hb, htake, hdrop]
      exact hmore

theorem readExponent_more (h : readExponent negative sig exponent bs = .ok (n, rest))
    (hrest : rest ≠ []) (more : Bytes) :
    readExponent negative sig exponent (bs ++ more) = .ok (n, rest ++ more) := by
  cases bs with
  | nil => cases h
  | cons b s =>
    rw [List.cons_append]
    rw [readExponent_cons] at h ⊢
    exact branch_more h (readPower_more · hrest more) fun h =>
      branch_more h (readPower_more · hrest more) (readPower_more · hrest more)

/-- A significand and its exponent, if there is one: something is left only of something. -/
theorem readScale_more (h : readScale negative sig exponent bs = .ok (n, rest))
    (hrest : rest ≠ []) (more : Bytes) :
    readScale negative sig exponent (bs ++ more) = .ok (n, rest ++ more) ∧ bs ≠ [] := by
  cases bs with
  | nil => exact absurd (finishReal_more h more).2 hrest
  | cons b s =>
    refine ⟨?_, List.cons_ne_nil _ _⟩
    simp only [readScale, List.cons_append] at h ⊢
    exact branch_more h (readExponent_more · hrest more) fun h => (finishReal_more h more).1

theorem readFraction_more (h : readFraction negative sig exponent bs = .ok (n, rest))
    (hrest : rest ≠ []) (more : Bytes) :
    readFraction negative sig exponent (bs ++ more) = .ok (n, rest ++ more) := by
  -- what is left behind the digits that fit
  have hleft : (takeDigits sig 0 bs).2.2 ≠ [] := by
    intro hnil
    simp only [readFraction, hnil] at h
    rw [if_neg (by simp [startsWithDigit])] at h
    split at h
    · cases h
    · exact (readScale_more h hrest more).2 rfl
  simp only [readFraction, takeDigits_more hleft, startsWithDigit_more hleft] at h ⊢
  split at h
  · next hstarts =>
    obtain ⟨-, hdrop⟩ := digits_more (readScale_more h hrest more).2 more
    rw [if_pos hstarts, hdrop]
    exact (readScale_more h hrest more).1
  · next hstarts =>
    rw [if_neg hstarts]
    split at h
    · split at h <;> cases h
    · next hsome =>
      rw [if_neg hsome]
      exact (readScale_more h hrest more).1

/-- The part of a number behind its integer digits: something is left only of something. -/
theorem readAfterInteger_more {dropped : Nat}
    (h : readAfterInteger negative sig dropped bs = .ok (n, rest)) (hrest : rest ≠ [])
    (more : Bytes) :
    readAfterInteger negative sig dropped (bs ++ more) = .ok (n, rest ++ more) ∧ bs ≠ [] := by
  cases bs with
  | nil =>
    simp only [readAfterInteger] at h
    split at h
    · exact absurd (finishInteger_more h more).2 hrest
    · exact absurd (finishReal_more h more).2 hrest
  | cons b s =>
    refine ⟨?_, List.cons_ne_nil _ _⟩
    simp only [readAfterInteger, List.cons_append] at h ⊢
    exact branch_more h (readFraction_more · hrest more) fun h =>
      branch_more h (readExponent_more · hrest more) fun h =>
        branch_more h (fun h => (finishInteger_more h more).1) fun h => (finishReal_more h more).1

/-- **A number ends where something stands that is no part of it**, whatever follows that. -/
theorem readNumber_more (h : readNumber negative bs = .ok (n, rest)) (hrest : rest ≠ [])
    (more : Bytes) : readNumber negative (bs ++ more) = .ok (n, rest ++ more) := by
  cases bs with
  | nil => cases h
  | cons b s =>
    simp only [readNumber, List.cons_append] at h ⊢
    refine branch_more h (fun h => ?_) fun h => allowed_more h fun h => ?_
    · split at h
      · cases h
      · next hstarts =>
        obtain ⟨hmore, hsome⟩ := readAfterInteger_more h hrest more
        rw [startsWithDigit_more hsome, if_neg hstarts]
        exact hmore
    · obtain ⟨hmore, hsome⟩ := readAfterInteger_more h hrest more
      obtain ⟨htake, hdrop⟩ := digits_more hsome more
      have hleft : (takeDigits (digitValue b) 0 s).2.2 ≠ [] := by
        intro hnil
        rw [hnil] at hsome
        exact hsome rfl
      simp only [takeDigits_more hleft, htake, hdrop]
      exact hmore

end

/-! ## 3. Values -/

theorem readColon_more {bs rest : Bytes} (h : readColon bs = .ok rest) (more : Bytes) :
    readColon (bs ++ more) = .ok (rest ++ more) := by
  unfold readColon at h ⊢
  refine behindBlanks_more h fun b s h => allowed_more h fun h => ?_
  cases h
  rfl

theorem nextItem_more {first next : Bool} {bs rest : Bytes} (h : nextItem first bs = .ok (next, rest))
    (more : Bytes) : nextItem first (bs ++ more) = .ok (next, rest ++ more) := by
  unfold nextItem at h ⊢
  refine behindBlanks_more h fun b s h => branch_more h ?close fun h => branch_more h ?first fun h =>
    allowed_more h fun h => behindBlanks_more h fun c s h => refused_more h ?next
  all_goals
    intro h
    cases h
    rfl

theorem nextKey_more {first next : Bool} {bs rest : Bytes} (h : nextKey first bs = .ok (next, rest))
    (more : Bytes) : nextKey first (bs ++ more) = .ok (next, rest ++ more) := by
  unfold nextKey at h ⊢
  refine behindBlanks_more h fun b s h => branch_more h ?close fun h =>
    branch_more h (fun h => allowed_more h ?first) fun h => allowed_more h fun h =>
    behindBlanks_more h fun c s h => branch_more h ?next fun h => refused_more h fun h => by cases h
  all_goals
    intro h
    cases h
    rfl

/-- There is no item where nothing is left. -/
theorem readItems_nil (fuel depth : Nat) (first : Bool) :
    readItems fuel depth first [] = .error .endInList := by
  cases fuel <;> rfl

/-- There is no member where nothing is left. -/
theorem readMembers_nil (fuel depth : Nat) (first : Bool) :
    readMembers fuel depth first [] = .error .endInObject := by
  cases fuel <;> rfl

mutual

theorem readNested_more : ∀ (fuel fuel' depth : Nat) {bs rest : Bytes} {v : Json}, fuel ≤ fuel' →
    readNested fuel depth bs = .ok (v, rest) → rest ≠ [] → ∀ more,
      readNested fuel' depth (bs ++ more) = .ok (v, rest ++ more)
  | 0, _, _, _, _, _, _, h, _, _ => nomatch h
  | fuel + 1, 0, _, _, _, _, hfuel, _, _, _ => absurd hfuel (by omega)
  | fuel + 1, fuel' + 1, depth, bs, rest, v, hfuel, h, hrest, more => by
    have hfuel : fuel ≤ fuel' := Nat.le_of_succ_le_succ hfuel
    rw [readNested] at h ⊢
    refine behindBlanks_more h fun b s h => ?_
    have hword : ∀ {word : Bytes} {x : Json},
        (do return (x, ← readWord word s) : Except ReadError (Json × Bytes)) = .ok (v, rest) →
        (do return (x, ← readWord word (s ++ more)) : Except ReadError (Json × Bytes))
          = .ok (v, rest ++ more) := fun h =>
      bind_more h fun mid hmid hend => ⟨_, readWord_more hmid more, by cases hend; rfl⟩
    refine branch_more h hword fun h => branch_more h hword fun h => branch_more h hword fun h =>
      branch_more h (fun h => ?string) fun h => branch_more h (fun h => ?list) fun h =>
      branch_more h (fun h => ?object) fun h => branch_more h (fun h => ?signed) fun h =>
      allowed_more h fun h => ?plain
    case string =>
      exact bind_more h fun x hx hend => ⟨_, readString_more hx more, by cases hend; rfl⟩
    case list =>
      cases depth with
      | zero => cases h
      | succ depth =>
        exact bind_more h fun x hx hend =>
          ⟨_, readItems_more fuel fuel' depth true hfuel hx more, by cases hend; rfl⟩
    case object =>
      cases depth with
      | zero => cases h
      | succ depth =>
        exact bind_more h fun x hx hend =>
          ⟨_, readMembers_more fuel fuel' depth true hfuel hx more, by cases hend; rfl⟩
    case signed =>
      exact bind_more h fun x hx hend =>
        ⟨_, readNumber_more hx (by cases hend; exact hrest) more, by cases hend; rfl⟩
    case plain =>
      exact bind_more h fun x hx hend =>
        ⟨_, readNumber_more hx (by cases hend; exact hrest) more, by cases hend; rfl⟩

theorem readItems_more : ∀ (fuel fuel' depth : Nat) (first : Bool) {bs rest : Bytes}
    {xs : List Json}, fuel ≤ fuel' → readItems fuel depth first bs = .ok (xs, rest) → ∀ more,
      readItems fuel' depth first (bs ++ more) = .ok (xs, rest ++ more)
  | 0, _, _, _, _, _, _, _, h, _ => nomatch h
  | fuel + 1, 0, _, _, _, _, _, hfuel, _, _ => absurd hfuel (by omega)
  | fuel + 1, fuel' + 1, depth, first, bs, rest, xs, hfuel, h, more => by
    have hfuel : fuel ≤ fuel' := Nat.le_of_succ_le_succ hfuel
    rw [readItems] at h ⊢
    refine bind_more h fun x hx h => ⟨_, nextItem_more hx more, branch_more h (fun h => ?_) ?_⟩
    · refine bind_more h fun y hy h => ?_
      have hbehind : y.2 ≠ [] := by
        intro hnil
        obtain ⟨z, hz, -⟩ := bind_eq_ok h
        rw [hnil, readItems_nil] at hz
        cases hz
      refine ⟨_, readNested_more fuel fuel' depth hfuel hy hbehind more, ?_⟩
      exact bind_more h fun z hz hend =>
        ⟨_, readItems_more fuel fuel' depth false hfuel hz more, by cases hend; rfl⟩
    · intro h
      cases h
      rfl

theorem readMembers_more : ∀ (fuel fuel' depth : Nat) (first : Bool) {bs rest : Bytes}
    {ms : List (String × Json)}, fuel ≤ fuel' →
      readMembers fuel depth first bs = .ok (ms, rest) → ∀ more,
        readMembers fuel' depth first (bs ++ more) = .ok (ms, rest ++ more)
  | 0, _, _, _, _, _, _, _, h, _ => nomatch h
  | fuel + 1, 0, _, _, _, _, _, hfuel, _, _ => absurd hfuel (by omega)
  | fuel + 1, fuel' + 1, depth, first, bs, rest, ms, hfuel, h, more => by
    have hfuel : fuel ≤ fuel' := Nat.le_of_succ_le_succ hfuel
    rw [readMembers] at h ⊢
    refine bind_more h fun x hx h => ⟨_, nextKey_more hx more, branch_more h (fun h => ?_) ?_⟩
    · refine bind_more h fun k hk h => ⟨_, readString_more hk more, ?_⟩
      refine bind_more h fun c hc h => ⟨_, readColon_more hc more, ?_⟩
      refine bind_more h fun y hy h => ?_
      have hbehind : y.2 ≠ [] := by
        intro hnil
        obtain ⟨z, hz, -⟩ := bind_eq_ok h
        rw [hnil, readMembers_nil] at hz
        cases hz
      refine ⟨_, readNested_more fuel fuel' depth hfuel hy hbehind more, ?_⟩
      exact bind_more h fun z hz hend =>
        ⟨_, readMembers_more fuel fuel' depth false hfuel hz more, by cases hend; rfl⟩
    · intro h
      cases h
      rfl

end

/-- More bytes leave more fuel. -/
theorem fuelFor_le (bs more : Bytes) : fuelFor bs ≤ fuelFor (bs ++ more) := by
  simp only [fuelFor, List.length_append]
  omega

/-- **A value ends where something else begins**, whatever follows that. -/
theorem readValue_more {depth : Nat} {bs rest : Bytes} {v : Json}
    (h : readValue depth bs = .ok (v, rest)) (hrest : rest ≠ []) (more : Bytes) :
    readValue depth (bs ++ more) = .ok (v, rest ++ more) :=
  readNested_more _ _ depth (fuelFor_le bs more) h hrest more

/-! ## 4. Values that are passed over -/

theorem skipExponent_more {bs rest : Bytes} (h : skipExponent bs = .ok rest) (hrest : rest ≠ [])
    (more : Bytes) : skipExponent (bs ++ more) = .ok (rest ++ more) := by
  cases bs with
  | nil => cases h
  | cons b s =>
    have hdigits : ∀ ds : Bytes,
        (if startsWithDigit ds then .ok (ds.dropWhile isDigit) else .error .badNumber)
          = (.ok rest : Except ReadError Bytes) →
        (if startsWithDigit (ds ++ more) then .ok ((ds ++ more).dropWhile isDigit)
          else .error .badNumber) = (.ok (rest ++ more) : Except ReadError Bytes) := by
      intro ds h
      split at h
      · next hstarts =>
        cases h
        have hsome : ds ≠ [] := by
          rintro rfl
          cases hstarts
        rw [startsWithDigit_more hsome, if_pos hstarts, (digits_more hrest more).2]
      · cases h
    simp only [skipExponent, List.cons_append] at h ⊢
    by_cases hsign : (b = 0x2B || b = 0x2D) = true
    · simp only [if_pos hsign] at h ⊢
      exact hdigits s h
    · simp only [if_neg hsign] at h ⊢
      exact hdigits (b :: s) h

theorem skipScale_more {bs rest : Bytes} (h : skipScale bs = .ok rest) (hrest : rest ≠ [])
    (more : Bytes) : skipScale (bs ++ more) = .ok (rest ++ more) ∧ bs ≠ [] := by
  cases bs with
  | nil =>
    cases h
    exact absurd rfl hrest
  | cons b s =>
    refine ⟨branch_more h (fun h => skipExponent_more h hrest more) fun h => ?_, by simp⟩
    cases h
    rfl

theorem skipNumber_more {bs rest : Bytes} (h : skipNumber bs = .ok rest) (hrest : rest ≠ [])
    (more : Bytes) : skipNumber (bs ++ more) = .ok (rest ++ more) := by
  cases bs with
  | nil => cases h
  | cons b s =>
    simp only [skipNumber, List.cons_append] at h ⊢
    -- something is left behind the digits
    have hleft : s.dropWhile isDigit ≠ [] := by
      intro hnil
      rw [hnil] at h
      split at h
      · cases h
      · cases h
        exact hrest rfl
    have hsome : s ≠ [] := by
      rintro rfl
      exact hleft rfl
    rw [startsWithDigit_more hsome, (digits_more hleft more).2]
    refine refused_more h fun h => ?_
    obtain ⟨p, t, ht⟩ := List.exists_cons_of_ne_nil hleft
    rw [ht] at h ⊢
    rw [List.cons_append]
    refine branch_more h (fun h => ?_) fun h => (skipScale_more h hrest more).1
    split at h
    · next hstarts =>
      obtain ⟨hmore, hbehind⟩ := skipScale_more h hrest more
      have hpoint : t ≠ [] := by
        rintro rfl
        cases hstarts
      rw [startsWithDigit_more hpoint, if_pos hstarts, (digits_more hbehind more).2]
      exact hmore
    · cases h

theorem skipKey_more {bs rest : Bytes} (h : skipKey bs = .ok rest) (more : Bytes) :
    skipKey (bs ++ more) = .ok (rest ++ more) := by
  unfold skipKey at h ⊢
  exact behindBlanks_more h fun b s h => allowed_more h fun h => bind_more h fun x hx hcolon =>
    ⟨_, skipString_more hx more, readColon_more hcolon more⟩

theorem skipToValue_more {k : Bracket} {bs rest : Bytes} (h : skipToValue k bs = .ok rest)
    (more : Bytes) : skipToValue k (bs ++ more) = .ok (rest ++ more) := by
  cases k with
  | list =>
    cases h
    rfl
  | object => exact skipKey_more h more

/-- Where nothing is left, nothing is left behind. -/
theorem skipAfter_nil {fuel : Nat} {brackets : List Bracket} {comma : Bool} {rest : Bytes}
    (h : skipAfter fuel brackets comma [] = .ok rest) : rest = [] := by
  cases fuel with
  | zero => cases h
  | succ fuel =>
    cases brackets with
    | nil =>
      cases h
      rfl
    | cons k outer => cases h

mutual

theorem skipNested_more : ∀ (fuel fuel' : Nat) (brackets : List Bracket) {bs rest : Bytes},
    fuel ≤ fuel' → skipNested fuel brackets bs = .ok rest → rest ≠ [] → ∀ more,
      skipNested fuel' brackets (bs ++ more) = .ok (rest ++ more)
  | 0, _, _, _, _, _, h, _, _ => nomatch h
  | fuel + 1, 0, _, _, _, hfuel, _, _, _ => absurd hfuel (by omega)
  | fuel + 1, fuel' + 1, brackets, bs, rest, hfuel, h, hrest, more => by
    have hfuel : fuel ≤ fuel' := Nat.le_of_succ_le_succ hfuel
    have hafter : ∀ {brackets comma mid}, skipAfter fuel brackets comma mid = .ok rest →
        skipAfter fuel' brackets comma (mid ++ more) = .ok (rest ++ more) := fun h =>
      skipAfter_more fuel fuel' _ _ hfuel h hrest more
    rw [skipNested] at h ⊢
    refine behindBlanks_more h fun b s h => ?_
    have hword : ∀ {word : Bytes},
        (do skipAfter fuel brackets true (← readWord word s)) = .ok rest →
        (do skipAfter fuel' brackets true (← readWord word (s ++ more))) = .ok (rest ++ more) :=
      fun h => bind_more h fun mid hmid h => ⟨_, readWord_more hmid more, hafter h⟩
    have hnumber : ∀ {t : Bytes},
        (do skipAfter fuel brackets true (← skipNumber t)) = .ok rest →
        (do skipAfter fuel' brackets true (← skipNumber (t ++ more))) = .ok (rest ++ more) := by
      intro t h
      refine bind_more h fun mid hmid h => ⟨_, skipNumber_more hmid ?_ more, hafter h⟩
      rintro rfl
      exact hrest (skipAfter_nil h)
    refine branch_more h hword fun h => branch_more h hword fun h => branch_more h hword fun h =>
      branch_more h (fun h => ?_) fun h => branch_more h hafter fun h =>
      branch_more h hafter fun h => branch_more h hnumber fun h =>
      allowed_more h (hnumber (t := b :: s))
    exact bind_more h fun mid hmid h => ⟨_, skipString_more hmid more, hafter h⟩

theorem skipAfter_more : ∀ (fuel fuel' : Nat) (brackets : List Bracket) (comma : Bool)
    {bs rest : Bytes}, fuel ≤ fuel' → skipAfter fuel brackets comma bs = .ok rest → rest ≠ [] →
      ∀ more, skipAfter fuel' brackets comma (bs ++ more) = .ok (rest ++ more)
  | 0, _, _, _, _, _, _, h, _, _ => nomatch h
  | fuel + 1, 0, _, _, _, _, hfuel, _, _, _ => absurd hfuel (by omega)
  | fuel + 1, fuel' + 1, [], _, _, _, _, h, _, _ => by
    cases h
    rfl
  | fuel + 1, fuel' + 1, k :: outer, comma, bs, rest, hfuel, h, hrest, more => by
    have hfuel : fuel ≤ fuel' := Nat.le_of_succ_le_succ hfuel
    have hvalue : ∀ {t : Bytes},
        (do skipNested fuel (k :: outer) (← skipToValue k t)) = .ok rest →
        (do skipNested fuel' (k :: outer) (← skipToValue k (t ++ more))) = .ok (rest ++ more) :=
      fun h => bind_more h fun mid hmid h =>
        ⟨_, skipToValue_more hmid more, skipNested_more fuel fuel' _ hfuel h hrest more⟩
    rw [skipAfter] at h ⊢
    exact behindBlanks_more h fun b s h => branch_more h hvalue fun h =>
      branch_more h (fun h => skipAfter_more fuel fuel' outer true hfuel h hrest more) fun h =>
        refused_more h (hvalue (t := b :: s))

end

/-- **So does one that is passed over.** -/
theorem skipValue_more {bs rest : Bytes} (h : skipValue bs = .ok rest) (hrest : rest ≠ [])
    (more : Bytes) : skipValue (bs ++ more) = .ok (rest ++ more) :=
  skipNested_more _ _ [] (fuelFor_le bs more) h hrest more

/-! ## 5. Readings where a type is expected -/

theorem readNumberAs_more {α : Type} {kind : Number → Except Mismatch α} {expected : String}
    {bs rest : Bytes} {a : α} (h : readNumberAs kind expected bs = .ok (a, rest))
    (hrest : rest ≠ []) (more : Bytes) :
    readNumberAs kind expected (bs ++ more) = .ok (a, rest ++ more) := by
  have hkind : ∀ {negative : Bool} {t : Bytes},
      (do
        let x ← readNumber negative t
        return (← fitting (kind x.1), x.2)) = .ok (a, rest) →
      (do
        let x ← readNumber negative (t ++ more)
        return (← fitting (kind x.1), x.2)) = .ok (a, rest ++ more) := by
    intro negative t h
    refine bind_more h fun x hx h => ?_
    obtain ⟨c, hc, hend⟩ := bind_eq_ok h
    cases hend
    refine ⟨_, readNumber_more hx hrest more, ?_⟩
    simp only [hc]
    rfl
  unfold readNumberAs at h ⊢
  exact behindBlanks_more h fun b s h =>
    branch_more h hkind fun h => allowed_more h (hkind (t := b :: s))

theorem readBool_more {bs rest : Bytes} {b : Bool} (h : readBool bs = .ok (b, rest))
    (more : Bytes) : readBool (bs ++ more) = .ok (b, rest ++ more) := by
  unfold readBool at h ⊢
  refine behindBlanks_more h fun b s h =>
    branch_more h (fun h => ?_) fun h => allowed_more h fun h => ?_
  all_goals
    exact bind_more h fun mid hmid hend => ⟨_, readWord_more hmid more, by cases hend; rfl⟩

theorem readUInt64Option_more {bs rest : Bytes} {n? : Option UInt64}
    (h : readUInt64Option bs = .ok (n?, rest)) (hrest : rest ≠ []) (more : Bytes) :
    readUInt64Option (bs ++ more) = .ok (n?, rest ++ more) := by
  unfold readUInt64Option at h ⊢
  cases hblanks : skipBlanks bs with
  | nil =>
    rw [hblanks] at h
    obtain ⟨x, hx, -⟩ := bind_eq_ok h
    rw [readUInt64, readNumberAs, hblanks] at hx
    cases hx
  | cons b s =>
    rw [hblanks] at h
    rw [skipBlanks_more hblanks]
    refine branch_more h (fun h => ?_) fun h => ?_
    · exact bind_more h fun mid hmid hend => ⟨_, readWord_more hmid more, by cases hend; rfl⟩
    · refine bind_more h fun x hx hend => ?_
      cases hend
      exact ⟨_, @readNumberAs_more _ _ _ (b :: s) _ _ hx hrest more, rfl⟩

end ControlPlane.Json
