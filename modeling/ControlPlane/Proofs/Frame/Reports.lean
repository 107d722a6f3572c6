/-
# What the reader of a stream reports

The reader takes one frame after the other from a stream, reports each, and stops at the first
thing that is no frame: the end of the stream, or a fault.

* `Frame.Yields`: the reports of a stream, read one frame at a time;
* `Frame.next_word32`: a length and what is behind it decide what is read;
* `Frame.Remnant`: what can be left behind the last frame, and the one report of it;
* `Frame.Splits.yields_iff`: the frames a stream begins with are reported first, and then what is
  behind them;
* `Frame.yields_iff_readAll`: the reports are those of the reader of a whole stream;
* `Frame.self_delimiting`: every stream falls into its frames and one end, in one way.

`Yields` takes as many steps as it takes, so that a stream has reports at all says that reading it
comes to an end.
-/
import ControlPlane.Proofs.Frame

namespace ControlPlane.Frame

/-! ## 1. Reports -/

/-- **What the reader of a stream reports.** -/
inductive Report where
  | payload (bs : Bytes)
  /-- The stream is over. -/
  | ended
  | failed (fault : Fault)
  deriving DecidableEq, Repr

/-- Whether nothing is reported behind it. -/
def Report.isLast : Report → Bool
  | .payload _ => false
  | .ended | .failed _ => true

/-- **The reports of a stream.**  The reader goes on behind a frame, and stops at anything else. -/
inductive Yields : Bytes → List Report → Prop
  | payload {bs payload rest : Bytes} {later : List Report}
      (hread : read bs = .frame payload rest) (hlater : Yields rest later) :
      Yields bs (.payload payload :: later)
  | ended {bs : Bytes} (hread : read bs = .done) : Yields bs [.ended]
  | failed {bs : Bytes} {fault : Fault} (hread : read bs = .failed fault) :
      Yields bs [.failed fault]

/-- **A stream has one list of reports.** -/
theorem Yields.unique {bs : Bytes} {reports reports' : List Report} (h : Yields bs reports)
    (h' : Yields bs reports') : reports = reports' := by
  induction h generalizing reports' with
  | payload hread _ ih =>
    cases h' with
    | payload hread' hlater' =>
      rw [hread, Outcome.frame.injEq] at hread'
      obtain ⟨rfl, rfl⟩ := hread'
      rw [ih hlater']
    | ended hread' => simp [hread] at hread'
    | failed hread' => simp [hread] at hread'
  | ended hread =>
    cases h' with
    | payload hread' => simp [hread] at hread'
    | ended => rfl
    | failed hread' => simp [hread] at hread'
  | failed hread =>
    cases h' with
    | payload hread' => simp [hread] at hread'
    | ended hread' => simp [hread] at hread'
    | failed hread' =>
      rw [hread, Outcome.failed.injEq] at hread'
      rw [hread']

/-- What reads a frame has a frame in front. -/
theorem read_eq_frame_iff {bs payload rest : Bytes} :
    read bs = .frame payload rest ↔ next bs = .frame payload rest := by
  unfold read
  cases next bs with
  | frame | tooLong => simp
  | partly begun => cases begun <;> simp

/-! ## 2. A length and what is behind it -/

/-- **A length and what is behind it decide what is read.** -/
theorem next_word32 (n : UInt32) (behind : Bytes) :
    next (BigEndian.word32 n ++ behind) =
      if maxFrameSize < n.toNat then .tooLong n.toNat
      else if behind.length < n.toNat then .partly true
      else .frame (behind.take n.toNat) (behind.drop n.toNat) := by
  simp only [BigEndian.word32, List.cons_append, List.nil_append, next,
    BigEndian.ofBytes32_word32]

/-- **A length above the limit is refused**, whatever is behind it. -/
theorem next_word32_tooLong {n : UInt32} (hlong : maxFrameSize < n.toNat) (behind : Bytes) :
    next (BigEndian.word32 n ++ behind) = .tooLong n.toNat := by
  rw [next_word32, if_pos hlong]

/-- Four bytes are a length. -/
theorem exists_word32 {bs : Bytes} (h : 4 ≤ bs.length) :
    ∃ n behind, bs = BigEndian.word32 n ++ behind := by
  match bs, h with
  | a :: b :: c :: d :: behind, _ =>
    refine ⟨BigEndian.ofBytes32 a b c d, behind, ?_⟩
    rw [BigEndian.word32_eq_iff.2 rfl]
    rfl

/-- Fewer bytes are none. -/
theorem next_of_short {bs : Bytes} (h : bs.length < 4) : next bs = .partly false := by
  match bs, h with
  | [], _ | [_], _ | [_, _], _ | [_, _, _], _ => rfl

/-- A frame begins with the length of its payload. -/
theorem encode_eq (payload : Bytes) :
    encode payload = BigEndian.word32 (UInt32.ofNat payload.length) ++ payload := rfl

/-- A length that fits into 32 bits is the one that is written. -/
theorem toNat_ofNat_length {payload : Bytes} (h : payload.length < 2 ^ 32) :
    (UInt32.ofNat payload.length).toNat = payload.length :=
  UInt32.toNat_ofNat_of_lt' h

/-- **What can be left behind the last frame of a stream**, and the report of it. -/
inductive Remnant : Bytes → Report → Prop
  /-- Nothing, or the beginning of a length. -/
  | short {bs : Bytes} (hshort : bs.length < 4) : Remnant bs .ended
  /-- A length, and not all of what it announces. -/
  | cut {n : UInt32} {part : Bytes} (haccepted : n.toNat ≤ maxFrameSize)
      (hpart : part.length < n.toNat) : Remnant (BigEndian.word32 n ++ part) (.failed .cut)
  /-- A length that is not accepted, whatever is behind it. -/
  | tooLong {n : UInt32} (behind : Bytes) (hlong : maxFrameSize < n.toNat) :
      Remnant (BigEndian.word32 n ++ behind) (.failed (.tooLong n.toNat))

/-- The report of what is left is the last one. -/
theorem Remnant.isLast {bs : Bytes} {last : Report} (h : Remnant bs last) : last.isLast := by
  cases h <;> rfl

/-- **What is left behind the last frame has one report.** -/
theorem Remnant.yields {bs : Bytes} {last : Report} (h : Remnant bs last) : Yields bs [last] := by
  cases h with
  | short hshort =>
    refine .ended ?_
    rw [read, next_of_short hshort]
  | cut haccepted hpart =>
    refine .failed ?_
    rw [read, next_word32, if_neg (Nat.not_lt.2 haccepted), if_pos hpart]
  | tooLong behind hlong =>
    refine .failed ?_
    rw [read, next_word32_tooLong hlong]

/-- It has no other reports. -/
theorem Remnant.yields_iff {bs : Bytes} {last : Report} (h : Remnant bs last)
    (reports : List Report) : Yields bs reports ↔ reports = [last] := by
  constructor
  · intro hreports
    exact hreports.unique h.yields
  · rintro rfl
    exact h.yields

/-- **A stream begins with a frame, or is what is left behind the last one.** -/
theorem frame_or_remnant (bs : Bytes) :
    (∃ payload rest, bs = encode payload ++ rest ∧ payload.length ≤ maxFrameSize)
      ∨ ∃ last, Remnant bs last := by
  rcases Nat.lt_or_ge bs.length 4 with hshort | hlength
  · exact .inr ⟨_, .short hshort⟩
  · obtain ⟨n, behind, rfl⟩ := exists_word32 hlength
    rcases Nat.lt_or_ge maxFrameSize n.toNat with hlong | haccepted
    · exact .inr ⟨_, .tooLong behind hlong⟩
    · rcases Nat.lt_or_ge behind.length n.toNat with hpart | hwhole
      · exact .inr ⟨_, .cut haccepted hpart⟩
      · have hnext : next (BigEndian.word32 n ++ behind)
            = .frame (behind.take n.toNat) (behind.drop n.toNat) := by
          rw [next_word32, if_neg (Nat.not_lt.2 haccepted), if_neg (Nat.not_lt.2 hwhole)]
        exact .inl ⟨_, _, next_eq_frame_iff.1 hnext⟩

/-! ## 3. Frames in front -/

/-- **The first frame of a stream is reported, and then what is behind it.** -/
theorem yields_of_next {bs payload rest : Bytes} (hnext : next bs = .frame payload rest)
    (reports : List Report) :
    Yields bs reports ↔ ∃ later, Yields rest later ∧ reports = .payload payload :: later := by
  have hread : read bs = .frame payload rest := read_eq_frame_iff.2 hnext
  constructor
  · intro h
    cases h with
    | payload hread' hlater =>
      rw [hread, Outcome.frame.injEq] at hread'
      obtain ⟨rfl, rfl⟩ := hread'
      exact ⟨_, hlater, rfl⟩
    | ended hread' | failed hread' => simp [hread] at hread'
  · rintro ⟨later, hlater, rfl⟩
    exact .payload hread hlater

/-- **The frames that a stream begins with are reported in their order**, and then what is left
behind them as if it were a stream of its own. -/
theorem Splits.yields_iff {bs rest : Bytes} {payloads : List Bytes} (h : Splits bs payloads rest)
    (reports : List Report) :
    Yields bs reports
      ↔ ∃ later, Yields rest later ∧ reports = payloads.map .payload ++ later := by
  induction h generalizing reports with
  | nil => simp
  | cons hnext _ ih =>
    rw [yields_of_next hnext]
    constructor
    · rintro ⟨later, hlater, rfl⟩
      obtain ⟨behind, hbehind, rfl⟩ := (ih _).1 hlater
      exact ⟨behind, hbehind, rfl⟩
    · rintro ⟨behind, hbehind, rfl⟩
      exact ⟨_, (ih _).2 ⟨behind, hbehind, rfl⟩, rfl⟩

/-- Frames that were written are those that the stream begins with, whatever is behind them. -/
theorem splits_flatMap {payloads : List Bytes} (hfits : ∀ p ∈ payloads, p.length ≤ maxFrameSize)
    (rest : Bytes) : Splits (payloads.flatMap encode ++ rest) payloads rest := by
  induction payloads with
  | nil => exact .nil rest
  | cons payload payloads ih =>
    rw [List.forall_mem_cons] at hfits
    rw [List.flatMap_cons, List.append_assoc]
    exact .cons (next_encode hfits.1 _) (ih hfits.2)

/-- **Frames and what is left behind them have one report each.** -/
theorem yields_remnant_iff {payloads : List Bytes}
    (hfits : ∀ p ∈ payloads, p.length ≤ maxFrameSize) {rest : Bytes} {last : Report}
    (hrest : Remnant rest last) (reports : List Report) :
    Yields (payloads.flatMap encode ++ rest) reports
      ↔ reports = payloads.map .payload ++ [last] := by
  rw [(splits_flatMap hfits rest).yields_iff]
  constructor
  · rintro ⟨later, hlater, rfl⟩
    rw [(hrest.yields_iff later).1 hlater]
  · rintro rfl
    exact ⟨_, hrest.yields, rfl⟩

/-- **Every stream falls into frames and what is left behind them.**  The induction is on the length
of the stream, which every frame shortens. -/
theorem exists_frames (bs : Bytes) :
    ∃ (payloads : List Bytes) (rest : Bytes) (last : Report),
      bs = payloads.flatMap encode ++ rest ∧ (∀ p ∈ payloads, p.length ≤ maxFrameSize)
        ∧ Remnant rest last := by
  generalize hlength : bs.length = k
  induction k using Nat.strongRecOn generalizing bs with
  | _ k ih =>
    rcases frame_or_remnant bs with ⟨payload, rest, hbs, hfits⟩ | ⟨last, hlast⟩
    · have hshorter : rest.length < k := by
        rw [← hlength]
        exact length_of_next (next_eq_frame_iff.2 ⟨hbs, hfits⟩)
      obtain ⟨payloads, rest', last, hrest, hall, hlast⟩ := ih rest.length hshorter rest rfl
      refine ⟨payload :: payloads, rest', last, ?_, List.forall_mem_cons.2 ⟨hfits, hall⟩, hlast⟩
      rw [hbs, hrest, List.flatMap_cons, List.append_assoc]
    · exact ⟨[], bs, last, rfl, nofun, hlast⟩

/-! ## 4. The reader of a whole stream -/

/-- The report behind the last frame. -/
def Report.ofFault : Option Fault → Report
  | none => .ended
  | some fault => .failed fault

/-- What is left behind the last frame holds none, and ends with its fault. -/
theorem Yields.readAll_of_last {bs : Bytes} {last : Report} (h : Yields bs [last])
    (hlast : last.isLast) : readAll bs = ([], (readAll bs).2)
      ∧ Report.ofFault (readAll bs).2 = last := by
  cases h with
  | payload => simp [Report.isLast] at hlast
  | ended hread | failed hread => simp [readAll, readUpTo, hread, Report.ofFault]

/-- **The reports of a stream are the frames that the reader of a whole stream finds, and the fault
that it ends with**: that reader never runs out of steps. -/
theorem yields_iff_readAll {bs : Bytes} {reports : List Report} :
    Yields bs reports
      ↔ reports = (readAll bs).1.map .payload ++ [Report.ofFault (readAll bs).2] := by
  obtain ⟨payloads, rest, last, rfl, hfits, hlast⟩ := exists_frames bs
  obtain ⟨hnone, hend⟩ := hlast.yields.readAll_of_last hlast.isLast
  rw [yields_remnant_iff hfits hlast, readAll_of_splits (splits_flatMap hfits rest), hnone,
    List.append_nil, hend]

/-! ## 5. Every stream falls into its frames and one end -/

/-- **A stream delimits its frames by itself**: `bs` stands for any bytes, also for those behind
some frames that were written. -/
structure SelfDelimiting (bs : Bytes) : Prop where
  /-- Reading comes to an end.  The payloads that are reported stand in the stream one behind the
  other, each whole and with its length, and one end or fault is reported behind them. -/
  ends : ∃ (payloads : List Bytes) (rest : Bytes) (last : Report),
    bs = payloads.flatMap encode ++ rest ∧ (∀ p ∈ payloads, p.length ≤ 16 * 1024 * 1024)
    ∧ last.isLast = true ∧ ∀ reports, Yields bs reports ↔ reports = payloads.map .payload ++ [last]
  /-- Behind frames that were written the bytes are read as if nothing were in front of them. -/
  behind : ∀ payloads : List Bytes, (∀ p ∈ payloads, p.length ≤ 16 * 1024 * 1024) →
    ∀ reports, Yields (payloads.flatMap encode ++ bs) reports
      ↔ ∃ later, Yields bs later ∧ reports = payloads.map .payload ++ later
  /-- A length above the limit is refused, whatever is behind it. -/
  refused : ∀ n : UInt32, 16 * 1024 * 1024 < n.toNat →
    ∀ reports, Yields (BigEndian.word32 n ++ bs) reports
      ↔ reports = [.failed (.tooLong n.toNat)]
  /-- It is refused as soon as it has arrived, before any byte of the payload has. -/
  early : ∀ n : UInt32, 16 * 1024 * 1024 < n.toNat →
    next (BigEndian.word32 n) = .tooLong n.toNat
      ∧ next (BigEndian.word32 n ++ bs) = .tooLong n.toNat
  /-- A length up to the limit is accepted, and the payload has that many bytes. -/
  accepted : ∀ n : UInt32, n.toNat ≤ 16 * 1024 * 1024 → n.toNat ≤ bs.length →
    ∀ reports, Yields (BigEndian.word32 n ++ bs) reports
      ↔ ∃ later, Yields (bs.drop n.toNat) later
        ∧ reports = .payload (bs.take n.toNat) :: later
  /-- A payload that is not all there is a fault, and none of it is reported. -/
  cut : ∀ n : UInt32, n.toNat ≤ 16 * 1024 * 1024 → bs.length < n.toNat →
    ∀ reports, Yields (BigEndian.word32 n ++ bs) reports ↔ reports = [.failed .cut]

/-- A length and its payload are a frame. -/
theorem word32_append_take {n : UInt32} {bs : Bytes} (hwhole : n.toNat ≤ bs.length) :
    BigEndian.word32 n ++ bs = encode (bs.take n.toNat) ++ bs.drop n.toNat := by
  have hlength : (bs.take n.toNat).length = n.toNat := List.length_take_of_le hwhole
  rw [encode_eq, hlength, UInt32.ofNat_toNat, List.append_assoc, List.take_append_drop]

/-- **Every stream delimits its frames by itself.** -/
theorem self_delimiting (bs : Bytes) : SelfDelimiting bs where
  ends := by
    obtain ⟨payloads, rest, last, hbs, hfits, hlast⟩ := exists_frames bs
    refine ⟨payloads, rest, last, hbs, hfits, hlast.isLast, ?_⟩
    intro reports
    rw [hbs]
    exact yields_remnant_iff hfits hlast reports
  behind := by
    intro payloads hfits reports
    exact (splits_flatMap hfits bs).yields_iff reports
  refused := by
    intro n hlong reports
    have hlast : Remnant (BigEndian.word32 n ++ bs) (.failed (.tooLong n.toNat)) :=
      .tooLong bs hlong
    exact hlast.yields_iff reports
  early := by
    intro n hlong
    have halone := next_word32_tooLong hlong []
    rw [List.append_nil] at halone
    exact ⟨halone, next_word32_tooLong hlong bs⟩
  accepted := by
    intro n haccepted hwhole reports
    have hfits : (bs.take n.toNat).length ≤ maxFrameSize := by
      rw [List.length_take_of_le hwhole]
      exact haccepted
    rw [word32_append_take hwhole]
    exact yields_of_next (next_encode hfits _) reports
  cut := by
    intro n haccepted hpart reports
    have hlast : Remnant (BigEndian.word32 n ++ bs) (.failed .cut) := .cut haccepted hpart
    exact hlast.yields_iff reports

end ControlPlane.Frame
