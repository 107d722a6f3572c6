/-
# Frames that were cut

Frames are written one behind the other, and only the first bytes of them arrive.

* `Frame.Place`: where a cut falls behind the whole frames, and what is reported there;
* `Frame.exists_cutAt`: every cut falls into one of the places;
* `Frame.CutAt.yields_iff`: the whole frames are reported, and then what the place says;
* `Frame.ended_mem_iff`, `failed_mem_iff`: which cuts look like the end of a stream, and which do
  not.

A cut inside the length of a frame is reported as one between frames is.  A frame that is longer
than a frame may be is refused as soon as its length has arrived, so nothing behind it is read.
-/
import ControlPlane.Proofs.Frame.Reports

namespace ControlPlane.Frame

/-! ## 1. The places of a cut -/

/-- The bytes of some frames, one behind the other. -/
def size (payloads : List Bytes) : Nat := (payloads.flatMap encode).length

/-- A frame takes four bytes for its length, and those of its payload. -/
theorem length_encode (payload : Bytes) : (encode payload).length = 4 + payload.length := by
  rw [encode_eq, List.length_append]
  rfl

theorem size_cons (payload : Bytes) (payloads : List Bytes) :
    size (payload :: payloads) = 4 + payload.length + size payloads := by
  rw [size, List.flatMap_cons, List.length_append, length_encode]
  rfl

/-- **Where a cut falls**: `i` bytes of the frames `behind` are left in front of it, and no whole
frame is.  The last report is the one that follows from them. -/
inductive Place : (behind : List Bytes) → (i : Nat) → (last : Report) → Prop
  | boundary (behind : List Bytes) : Place behind 0 .ended
  | inLength {p : Bytes} {behind : List Bytes} {i : Nat} (hbegun : 0 < i) (hpart : i < 4) :
      Place (p :: behind) i .ended
  | inPayload {p : Bytes} {behind : List Bytes} {i : Nat} (hfits : p.length ≤ maxFrameSize)
      (hlength : 4 ≤ i) (hpart : i < 4 + p.length) : Place (p :: behind) i (.failed .cut)
  /-- Behind the length of a frame that is too long, wherever it is. -/
  | pastLimit {p : Bytes} {behind : List Bytes} {i : Nat} (hlong : maxFrameSize < p.length)
      (hlength : 4 ≤ i) : Place (p :: behind) i (.failed (.tooLong p.length))

/-- **A cut behind the whole frames `front`**, all of which are accepted. -/
structure CutAt (payloads : List Bytes) (k : Nat) (front : List Bytes) (last : Report) : Prop where
  fits : ∀ p ∈ front, p.length ≤ maxFrameSize
  place : ∃ behind i, payloads = front ++ behind ∧ k = size front + i ∧ Place behind i last

/-- Behind one more frame in front a cut is where it was. -/
theorem CutAt.cons {payloads front : List Bytes} {k : Nat} {last : Report} {p : Bytes}
    (hfits : p.length ≤ maxFrameSize) (h : CutAt payloads k front last) :
    CutAt (p :: payloads) (4 + p.length + k) (p :: front) last := by
  obtain ⟨hfront, behind, i, rfl, rfl, hplace⟩ := h
  refine ⟨List.forall_mem_cons.2 ⟨hfits, hfront⟩, behind, i, rfl, ?_, hplace⟩
  rw [size_cons, Nat.add_assoc _ (size front)]

/-- A place in front of which there is no frame is a cut. -/
theorem Place.cutAt {payloads : List Bytes} {k : Nat} {last : Report}
    (h : Place payloads k last) : CutAt payloads k [] last :=
  ⟨nofun, payloads, k, rfl, (Nat.zero_add k).symm, h⟩

/-- **Every cut falls somewhere.** -/
theorem exists_cutAt {payloads : List Bytes} {k : Nat} (hk : k ≤ size payloads) :
    ∃ front last, CutAt payloads k front last := by
  induction payloads generalizing k with
  | nil =>
    obtain rfl : k = 0 := Nat.le_zero.1 hk
    exact ⟨[], _, (Place.boundary []).cutAt⟩
  | cons p payloads ih =>
    rw [size_cons] at hk
    rcases Nat.eq_zero_or_pos k with rfl | hbegun
    · exact ⟨[], _, (Place.boundary _).cutAt⟩
    · rcases Nat.lt_or_ge k 4 with hpart | hlength
      · exact ⟨[], _, (Place.inLength hbegun hpart).cutAt⟩
      · rcases Nat.lt_or_ge maxFrameSize p.length with hlong | hfits
        · exact ⟨[], _, (Place.pastLimit hlong hlength).cutAt⟩
        · rcases Nat.lt_or_ge k (4 + p.length) with hpart | hwhole
          · exact ⟨[], _, (Place.inPayload hfits hlength hpart).cutAt⟩
          · obtain ⟨j, rfl⟩ := Nat.exists_eq_add_of_le hwhole
            obtain ⟨front, last, hcut⟩ := ih (Nat.le_of_add_le_add_left hk)
            exact ⟨_, _, hcut.cons hfits⟩

/-! ## 2. What is reported there -/

/-- A cut behind the length of a frame leaves the length, and some of what is behind it. -/
theorem take_encode_append {p : Bytes} {i : Nat} (hlength : 4 ≤ i) (more : Bytes) :
    (encode p ++ more).take i
      = BigEndian.word32 (UInt32.ofNat p.length) ++ (p ++ more).take (i - 4) := by
  obtain ⟨j, rfl⟩ := Nat.exists_eq_add_of_le hlength
  have hfour : (BigEndian.word32 (UInt32.ofNat p.length)).length = 4 := rfl
  rw [encode_eq, List.append_assoc, ← hfour, List.take_length_add_append, Nat.add_sub_cancel_left]

/-- **What a cut leaves behind the whole frames has the report of its place**, if the length of each
frame fits into 32 bits. -/
theorem Place.remnant {behind : List Bytes} {i : Nat} {last : Report} (h : Place behind i last)
    (hcount : ∀ p ∈ behind, p.length < 2 ^ 32) :
    Remnant ((behind.flatMap encode).take i) last := by
  cases h with
  | boundary => exact .short (by simp)
  | inLength hbegun hpart =>
    refine .short ?_
    rw [List.length_take]
    omega
  | @inPayload p _ _ hfits hlength hpart =>
    have hn := toNat_ofNat_length (hcount p (List.mem_cons_self ..))
    rw [List.flatMap_cons, take_encode_append hlength]
    refine .cut (Nat.le_trans (Nat.le_of_eq hn) hfits) ?_
    rw [hn, List.length_take]
    omega
  | @pastLimit p _ _ hlong hlength =>
    have hn := toNat_ofNat_length (hcount p (List.mem_cons_self ..))
    have hrefused : ∀ more, Remnant (BigEndian.word32 (UInt32.ofNat p.length) ++ more)
        (.failed (.tooLong p.length)) := by
      intro more
      have h := Remnant.tooLong more (Nat.lt_of_lt_of_eq hlong hn.symm)
      rw [hn] at h
      exact h
    rw [List.flatMap_cons, take_encode_append hlength]
    exact hrefused _

/-- **The frames in front of a cut are reported, and then what its place says.** -/
theorem CutAt.yields_iff {payloads front : List Bytes} {k : Nat} {last : Report}
    (h : CutAt payloads k front last) (hcount : ∀ p ∈ payloads, p.length < 2 ^ 32)
    (reports : List Report) :
    Yields ((payloads.flatMap encode).take k) reports
      ↔ reports = front.map .payload ++ [last] := by
  obtain ⟨hfits, behind, i, rfl, rfl, hplace⟩ := h
  have hremnant := hplace.remnant fun p hp => hcount p (List.mem_append_right _ hp)
  rw [List.flatMap_append, size, List.take_length_add_append]
  exact yields_remnant_iff hfits hremnant reports

/-! ## 3. Cuts that look like an end, and cuts that do not -/

/-- The cut falls between two frames, or before or behind all of them, and what is in front of it
is accepted. -/
def AtBoundary (payloads : List Bytes) (k : Nat) : Prop :=
  ∃ front behind, payloads = front ++ behind ∧ (∀ p ∈ front, p.length ≤ maxFrameSize)
    ∧ k = size front

/-- The cut falls inside the four bytes of a length, and what is in front of them is accepted. -/
def InLength (payloads : List Bytes) (k : Nat) : Prop :=
  ∃ front p behind i, payloads = front ++ p :: behind ∧ (∀ p ∈ front, p.length ≤ maxFrameSize)
    ∧ k = size front + i ∧ 0 < i ∧ i < 4

/-- The cut falls inside an accepted payload, its beginning included and its end not. -/
def InPayload (payloads : List Bytes) (k : Nat) : Prop :=
  ∃ front p behind i, payloads = front ++ p :: behind
    ∧ (∀ p ∈ front, p.length ≤ maxFrameSize) ∧ p.length ≤ maxFrameSize
    ∧ k = size front + 4 + i ∧ i < p.length

/-- The cut falls behind the length of a frame that is too long. -/
def PastLimit (payloads : List Bytes) (k : Nat) : Prop :=
  ∃ front p behind i, payloads = front ++ p :: behind
    ∧ (∀ p ∈ front, p.length ≤ maxFrameSize) ∧ maxFrameSize < p.length
    ∧ k = size front + 4 + i

/-- **A cut that looks like an end is on a boundary, or inside a length.** -/
theorem exists_cutAt_ended_iff {payloads : List Bytes} {k : Nat} :
    (∃ front, CutAt payloads k front .ended) ↔ AtBoundary payloads k ∨ InLength payloads k := by
  constructor
  · rintro ⟨front, hfits, behind, i, hpayloads, hk, hplace⟩
    cases hplace with
    | boundary => exact .inl ⟨front, behind, hpayloads, hfits, hk⟩
    | @inLength p behind _ hbegun hpart =>
      exact .inr ⟨front, p, behind, i, hpayloads, hfits, hk, hbegun, hpart⟩
  · rintro (⟨front, behind, hpayloads, hfits, hk⟩ |
      ⟨front, p, behind, i, hpayloads, hfits, hk, hbegun, hpart⟩)
    · exact ⟨front, hfits, behind, 0, hpayloads, hk, .boundary behind⟩
    · exact ⟨front, hfits, p :: behind, i, hpayloads, hk, .inLength hbegun hpart⟩

/-- **A cut that is a fault is inside a payload, or behind a length that is not accepted.** -/
theorem exists_cutAt_failed_iff {payloads : List Bytes} {k : Nat} :
    (∃ front fault, CutAt payloads k front (.failed fault))
      ↔ InPayload payloads k ∨ PastLimit payloads k := by
  constructor
  · rintro ⟨front, fault, hfits, behind, i, hpayloads, hk, hplace⟩
    cases hplace with
    | @inPayload p behind _ haccepted hlength hpart =>
      obtain ⟨j, rfl⟩ := Nat.exists_eq_add_of_le hlength
      exact .inl ⟨front, p, behind, j, hpayloads, hfits, haccepted, by omega, by omega⟩
    | @pastLimit p behind _ hlong hlength =>
      obtain ⟨j, rfl⟩ := Nat.exists_eq_add_of_le hlength
      exact .inr ⟨front, p, behind, j, hpayloads, hfits, hlong, by omega⟩
  · rintro (⟨front, p, behind, i, hpayloads, hfits, haccepted, hk, hpart⟩ |
      ⟨front, p, behind, i, hpayloads, hfits, hlong, hk⟩)
    · exact ⟨front, _, hfits, p :: behind, 4 + i, hpayloads, by omega,
        .inPayload haccepted (by omega) (by omega)⟩
    · exact ⟨front, _, hfits, p :: behind, 4 + i, hpayloads, by omega,
        .pastLimit hlong (by omega)⟩

section

variable {payloads : List Bytes} {k : Nat} {reports : List Report}

/-- The one report that is not about a frame is that of the place of the cut. -/
theorem mem_reports_iff (hcount : ∀ p ∈ payloads, p.length < 2 ^ 32) (hk : k ≤ size payloads)
    (h : Yields ((payloads.flatMap encode).take k) reports) {last : Report}
    (hlast : last.isLast = true) : last ∈ reports ↔ ∃ front, CutAt payloads k front last := by
  constructor
  · intro hmem
    obtain ⟨front, last', hcut⟩ := exists_cutAt hk
    rw [(hcut.yields_iff hcount reports).1 h] at hmem
    rcases List.mem_append.1 hmem with hpayload | hmem
    · obtain ⟨p, -, rfl⟩ := List.mem_map.1 hpayload
      cases hlast
    · obtain rfl := List.mem_singleton.1 hmem
      exact ⟨front, hcut⟩
  · rintro ⟨front, hcut⟩
    rw [(hcut.yields_iff hcount reports).1 h]
    exact List.mem_append_right _ (List.mem_singleton_self _)

/-- **The end of a cut stream is reported exactly if it was cut on a boundary or inside a
length.** -/
theorem ended_mem_iff (hcount : ∀ p ∈ payloads, p.length < 2 ^ 32) (hk : k ≤ size payloads)
    (h : Yields ((payloads.flatMap encode).take k) reports) :
    .ended ∈ reports ↔ AtBoundary payloads k ∨ InLength payloads k := by
  rw [mem_reports_iff hcount hk h rfl, exists_cutAt_ended_iff]

/-- **A fault of a cut stream is reported exactly if it was cut inside a payload, or behind a length
that is not accepted.** -/
theorem failed_mem_iff (hcount : ∀ p ∈ payloads, p.length < 2 ^ 32) (hk : k ≤ size payloads)
    (h : Yields ((payloads.flatMap encode).take k) reports) :
    (∃ fault, .failed fault ∈ reports) ↔ InPayload payloads k ∨ PastLimit payloads k := by
  rw [← exists_cutAt_failed_iff, exists_comm]
  refine exists_congr fun fault => ?_
  exact mem_reports_iff hcount hk h rfl

end

end ControlPlane.Frame
