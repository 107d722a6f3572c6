/-
# Frames read back

The reader of frames finds in a stream what was written into it, as long as the payload is not
longer than a frame may be.

* `Frame.next_encode`, `next_eq_frame_iff`: the first frame of a stream is the one that was written
  first;
* `Frame.Splits`: a stream begins with some frames, whatever arrives behind them;
* `Frame.readAll_of_splits`: they are the first frames that the reader of a whole stream finds.
-/
import ControlPlane.Frame
import ControlPlane.Proofs.BigEndian

namespace ControlPlane

/-- **The first frame of a stream is the one that was written first**, if it is accepted. -/
theorem Frame.next_encode {payload : Bytes} (h : payload.length ≤ maxFrameSize) (rest : Bytes) :
    next (encode payload ++ rest) = .frame payload rest := by
  have hmax : maxFrameSize < 2 ^ 32 := by decide
  have hlength : (UInt32.ofNat payload.length).toNat = payload.length := by
    rw [UInt32.toNat_ofNat_of_lt' (by simp [UInt32.size]; omega)]
  simp only [encode, BigEndian.word32, List.cons_append, List.nil_append, next,
    BigEndian.ofBytes32_word32, hlength]
  rw [if_neg (by omega), if_neg (by simp), List.take_left, List.drop_left]

namespace Frame

/-- **A payload that is too long is refused by its length**, if that fits into 32 bits. -/
theorem next_encode_tooLong {payload : Bytes} (hlong : maxFrameSize < payload.length)
    (hcount : payload.length < 2 ^ 32) (rest : Bytes) :
    next (encode payload ++ rest) = .tooLong payload.length := by
  have hlength : (UInt32.ofNat payload.length).toNat = payload.length := by
    rw [UInt32.toNat_ofNat_of_lt' (by simpa [UInt32.size] using hcount)]
  simp only [encode, BigEndian.word32, List.cons_append, List.nil_append, next,
    BigEndian.ofBytes32_word32, hlength]
  rw [if_pos hlong]

/-- **A stream begins with a frame exactly if it was written there**, no longer than a frame may
be. -/
theorem next_eq_frame_iff {bs payload rest : Bytes} :
    next bs = .frame payload rest
      ↔ bs = encode payload ++ rest ∧ payload.length ≤ maxFrameSize := by
  constructor
  · intro h
    match bs, h with
    | a :: b :: c :: d :: bs, h =>
      simp only [next] at h
      split at h
      · cases h
      · next hfits =>
        split at h
        · cases h
        · next hwhole =>
          simp only [Arrival.frame.injEq] at h
          obtain ⟨rfl, rfl⟩ := h
          have hlength : (bs.take (BigEndian.ofBytes32 a b c d).toNat).length
              = (BigEndian.ofBytes32 a b c d).toNat := by
            rw [List.length_take]
            omega
          have hword : BigEndian.word32 (UInt32.ofNat (BigEndian.ofBytes32 a b c d).toNat)
              = [a, b, c, d] :=
            BigEndian.word32_eq_iff.2 UInt32.ofNat_toNat.symm
          refine ⟨?_, by omega⟩
          rw [encode, hlength, hword, List.append_assoc, List.take_append_drop]
          rfl
  · rintro ⟨rfl, hfits⟩
    exact next_encode hfits rest

/-- A length that is not accepted stays so when more arrives. -/
theorem next_append_tooLong {bs : Bytes} {n : Nat} (h : next bs = .tooLong n) (more : Bytes) :
    next (bs ++ more) = .tooLong n := by
  match bs, h with
  | a :: b :: c :: d :: bs, h =>
    simp only [next, List.cons_append] at h ⊢
    split at h
    · next hlong =>
      rw [if_pos hlong]
      exact h
    · split at h <;> cases h

/-- The length of a frame is all that it takes to refuse it. -/
theorem next_tooLong_of_append {bs more : Bytes} {n : Nat} (hlength : 4 ≤ bs.length)
    (h : next (bs ++ more) = .tooLong n) : next bs = .tooLong n := by
  match bs, hlength with
  | a :: b :: c :: d :: bs, _ =>
    simp only [next, List.cons_append] at h ⊢
    split at h
    · next hlong =>
      rw [if_pos hlong]
      exact h
    · split at h <;> cases h

/-! ## Frames one after the other -/

/-- **The first frame of a stream stays the first** when more arrives. -/
theorem next_append {bs payload rest : Bytes} (h : next bs = .frame payload rest)
    (more : Bytes) : next (bs ++ more) = .frame payload (rest ++ more) := by
  match bs, h with
  | a :: b :: c :: d :: bs, h =>
    simp only [next, List.cons_append] at h ⊢
    split at h
    · cases h
    · next hfits =>
      split at h
      · cases h
      · next hwhole =>
        have hall : (BigEndian.ofBytes32 a b c d).toNat ≤ bs.length := by omega
        simp only [Arrival.frame.injEq] at h
        obtain ⟨rfl, rfl⟩ := h
        rw [if_neg hfits, if_neg (by rw [List.length_append]; omega),
          List.take_append_of_le_length hall, List.drop_append_of_le_length hall]

/-- A frame takes bytes away. -/
theorem length_of_next {bs payload rest : Bytes} (h : next bs = .frame payload rest) :
    rest.length < bs.length := by
  match bs, h with
  | a :: b :: c :: d :: bs, h =>
    simp only [next] at h
    split at h
    · cases h
    · split at h
      · cases h
      · simp only [Arrival.frame.injEq] at h
        obtain ⟨-, rfl⟩ := h
        simp
        omega

/-- **A stream begins with some frames**, and this is what is left behind them. -/
inductive Splits : Bytes → List Bytes → Bytes → Prop
  | nil (bs : Bytes) : Splits bs [] bs
  | cons {bs payload mid rest : Bytes} {payloads : List Bytes}
      (hnext : next bs = .frame payload mid) (hrest : Splits mid payloads rest) :
      Splits bs (payload :: payloads) rest

namespace Splits

variable {bs rest : Bytes} {payloads : List Bytes}

/-- What arrives is left behind the frames. -/
theorem append (h : Splits bs payloads rest) (more : Bytes) :
    Splits (bs ++ more) payloads (rest ++ more) := by
  induction h with
  | nil bs => exact .nil _
  | cons hnext _ ih => exact .cons (next_append hnext more) ih

/-- The next frame may be taken from what is left. -/
theorem snoc {payload after : Bytes} (h : Splits bs payloads rest)
    (hnext : next rest = .frame payload after) : Splits bs (payloads ++ [payload]) after := by
  induction h with
  | nil bs => exact .cons hnext (.nil _)
  | cons hfirst _ ih => exact .cons hfirst (ih hnext)

/-- **The bytes of a stream are those of its frames, one after the other, and what is left.** -/
theorem eq_append (h : Splits bs payloads rest) : bs = payloads.flatMap encode ++ rest := by
  induction h with
  | nil bs => rfl
  | cons hnext _ ih =>
    rw [(next_eq_frame_iff.1 hnext).1, List.flatMap_cons, List.append_assoc, ← ih]

/-- **A stream is cut into frames in one way.**  Of two beginnings of it one begins with the other,
and goes on with what the other one has left. -/
theorem isPrefix_or {rest' : Bytes} {payloads' : List Bytes} (h : Splits bs payloads rest)
    (h' : Splits bs payloads' rest') : payloads <+: payloads' ∨
      ∃ more, payloads = payloads' ++ more ∧ Splits rest' more rest := by
  induction h generalizing payloads' with
  | nil bs => exact .inl List.nil_prefix
  | cons hnext hrest ih =>
    cases h' with
    | nil => exact .inr ⟨_, rfl, .cons hnext hrest⟩
    | cons hnext' hrest' =>
      rw [hnext, Arrival.frame.injEq] at hnext'
      obtain ⟨rfl, rfl⟩ := hnext'
      refine (ih hrest').imp (List.prefix_cons_inj _).2 ?_
      rintro ⟨more, rfl, hmore⟩
      exact ⟨more, rfl, hmore⟩

/-- Nothing is cut from a stream that does not begin with a frame. -/
theorem eq_nil_of_stuck (h : Splits bs payloads rest)
    (hstuck : ∀ payload more, next bs ≠ .frame payload more) : payloads = [] := by
  cases h with
  | nil => rfl
  | cons hnext => exact absurd hnext (hstuck _ _)

/-- Where no frame is left behind the first ones, there are no more of them. -/
theorem isPrefix_of_stuck {rest' : Bytes} {payloads' : List Bytes} (h : Splits bs payloads rest)
    (h' : Splits bs payloads' rest') (hstuck : ∀ payload more, next rest' ≠ .frame payload more) :
    payloads <+: payloads' := by
  rcases h.isPrefix_or h' with hprefix | ⟨more, rfl, hmore⟩
  · exact hprefix
  · have hnone := hmore.eq_nil_of_stuck hstuck
    simp [hnone]

end Splits

/-- More fuel than there are bytes makes no difference. -/
theorem readUpTo_of_lt {n m : Nat} {bs : Bytes} (hn : bs.length < n) (hm : bs.length < m) :
    readUpTo n bs = readUpTo m bs := by
  induction n generalizing m bs with
  | zero => omega
  | succ n ih =>
    obtain ⟨m, rfl⟩ : ∃ k, m = k + 1 := ⟨m - 1, by omega⟩
    simp only [readUpTo, read]
    cases hnext : next bs with
    | frame payload rest =>
      have hless := length_of_next hnext
      have hrest : readUpTo n rest = readUpTo m rest := ih (by omega) (by omega)
      simp only [hrest]
    | partly begun => cases begun <;> rfl
    | tooLong length => rfl

/-- The reader of a whole stream finds its first frame, and then those behind it. -/
theorem readAll_of_next {bs payload rest : Bytes} (h : next bs = .frame payload rest) :
    readAll bs = (payload :: (readAll rest).1, (readAll rest).2) := by
  have hless := length_of_next h
  have hstep : readAll bs
      = (payload :: (readUpTo bs.length rest).1, (readUpTo bs.length rest).2) := by
    simp only [readAll, readUpTo, read, h]
  rw [hstep, readUpTo_of_lt (m := rest.length + 1) hless (Nat.lt_succ_self _)]
  rfl

/-- **The reader of a whole stream finds the frames it begins with**, and then those behind
them. -/
theorem readAll_of_splits {bs rest : Bytes} {payloads : List Bytes}
    (h : Splits bs payloads rest) :
    readAll bs = (payloads ++ (readAll rest).1, (readAll rest).2) := by
  induction h with
  | nil bs => rfl
  | cons hnext _ ih => rw [readAll_of_next hnext, ih]; rfl

/-- Where no frame is left, none is found. -/
theorem readAll_of_none {bs : Bytes} (h : ∀ payload rest, next bs ≠ .frame payload rest) :
    (readAll bs).1 = [] := by
  simp only [readAll, readUpTo, read]
  cases hnext : next bs with
  | frame payload rest => exact absurd hnext (h payload rest)
  | partly begun => cases begun <;> rfl
  | tooLong length => rfl

end Frame

end ControlPlane
