/-
# Tokens read back

The record of a token is a run of fields, each behind its length.  A reader of such a field does
one of three things: it takes the field away from whatever stands behind it, it misses something
where the field is cut short, or it refuses the bytes for another reason.  The first two are what
`Reads` says, and they pass from one reader to the next (`Reads.bind`), so they hold of a whole
record.  In the other direction, what a reader takes is the field as it is written.

* `Fits`: a token whose lengths have room in their words;
* `reads_record`: the record of such a token is read back, and no proper part of it is a record;
* `ofRecord_eq_ok_iff`: bytes are read as a token exactly when they begin with its record;
* `codec`: the same about the texts of tokens, with blanks around them.
-/
import ControlPlane.Token
import ControlPlane.Proofs.Base64
import ControlPlane.Proofs.BigEndian

namespace ControlPlane.Token

/-- **A token whose lengths have room in their words.** -/
structure Fits (t : Token) : Prop where
  /-- The name has less than 2³² bytes. -/
  channel : Text.Utf8.size t.channel < 2 ^ 32
  /-- So has each key and each value. -/
  texts : ∀ s ∈ t.switches, Text.Utf8.size s.1 < 2 ^ 32 ∧ Text.Utf8.size s.2 < 2 ^ 32
  /-- There are less than 2³² switches. -/
  count : t.switches.length < 2 ^ 32

/-! ## 1. Readers of a field -/

section Readers

variable {α β : Type}

/-- **A reader finds a field**: it takes the bytes of the field from whatever follows, and it
misses something where the field ends early. -/
structure Reads (read : Bytes → Except Fault β) (field : Bytes) (found : Bytes → β) : Prop where
  /-- What stands behind the field is left to `found`. -/
  whole : ∀ rest, read (field ++ rest) = .ok (found rest)
  /-- A proper part of the field is too short. -/
  cut : ∀ front missing, field = front ++ missing → missing ≠ [] → read front = .error .truncated

/-- **One field behind another.**  A cut falls into the first field, or into the second behind
the whole first. -/
theorem Reads.bind {take : Bytes → Except Fault (α × Bytes)} {x : α} {field more : Bytes}
    {found : Bytes → β} (next : α × Bytes → Except Fault β) (hfirst : Reads take field (x, ·))
    (hnext : Reads (fun bs => next (x, bs)) more found) :
    Reads (fun bs => take bs >>= next) (field ++ more) found where
  whole rest := by
    have htake := hfirst.whole (more ++ rest)
    have hrest := hnext.whole rest
    simp only [List.append_assoc, htake]
    exact hrest
  cut front missing hcut hmissing := by
    rcases List.append_eq_append_iff.mp hcut with ⟨part, rfl, rfl⟩ | ⟨part, rfl, rfl⟩
    · have htake := hfirst.whole part
      have hrest := hnext.cut part missing rfl hmissing
      simp only [htake]
      exact hrest
    · rcases List.eq_nil_or_concat part with rfl | ⟨init, last, rfl⟩
      · have htake := hfirst.whole []
        have hrest := hnext.cut [] more (List.nil_append _).symm (by simpa using hmissing)
        simp only [List.append_nil] at htake
        simp only [htake]
        exact hrest
      · have htake := hfirst.cut front (init.concat last) rfl (by simp)
        simp only [htake]
        rfl

/-- What is made of a field once it is read. -/
theorem Reads.map {read : Bytes → Except Fault α} {field : Bytes} {x : α} (f : α → β)
    (h : Reads read field fun _ => x) : Reads (fun bs => f <$> read bs) field fun _ => f x where
  whole rest := by
    simp only [h.whole rest]
    rfl
  cut front missing hcut hmissing := by
    simp only [h.cut front missing hcut hmissing]
    rfl

/-- What a first reader took, and what the next one made of it. -/
theorem bind_eq_ok {take : Except Fault α} {next : α → Except Fault β} {y : β}
    (h : take >>= next = .ok y) : ∃ x, take = .ok x ∧ next x = .ok y := by
  cases take with
  | error fault => cases h
  | ok x => exact ⟨x, rfl, h⟩

/-- What was read before something was made of it. -/
theorem map_eq_ok {read : Except Fault α} {f : α → β} {y : β} (h : f <$> read = .ok y) :
    ∃ x, read = .ok x ∧ f x = y := by
  cases read with
  | error fault => cases h
  | ok x => exact ⟨x, rfl, Except.ok.inj h⟩

end Readers

/-! ## 2. Words and texts -/

/-- The word of a number that has room in it. -/
theorem toNat_word {n : Nat} (h : n < 2 ^ 32) : (UInt32.ofNat n).toNat = n :=
  UInt32.toNat_ofNat_of_lt' h

/-- A word is read back. -/
theorem reads_word32 (n : UInt32) : Reads takeWord32 (BigEndian.word32 n) (n, ·) where
  whole rest := by
    simp only [BigEndian.word32, List.cons_append, List.nil_append, takeWord32,
      BigEndian.ofBytes32_word32]
  cut front missing hcut hmissing := by
    have hlength : (BigEndian.word32 n).length = 4 := rfl
    have hshort : front.length < 4 := by
      have hpos : 0 < missing.length := List.length_pos_iff.mpr hmissing
      rw [hcut, List.length_append] at hlength
      omega
    rcases front with _ | ⟨a, _ | ⟨b, _ | ⟨c, _ | ⟨d, more⟩⟩⟩⟩
    · rfl
    · rfl
    · rfl
    · rfl
    · simp only [List.length_cons] at hshort
      omega

/-- A word that is taken stood in front. -/
theorem takeWord32_eq_ok {bs rest : Bytes} {n : UInt32} (h : takeWord32 bs = .ok (n, rest)) :
    bs = BigEndian.word32 n ++ rest := by
  match bs, h with
  | a :: b :: c :: d :: bs, h =>
    cases h
    rw [BigEndian.word32_eq_iff.mpr rfl]
    rfl

/-- The reader of a text of which the length is known. -/
def takeBody (n : Nat) (bs : Bytes) : Except Fault (String × Bytes) :=
  if bs.length < n then .error .truncated
  else match Text.Utf8.decode? (bs.take n) with
    | some s => .ok (s, bs.drop n)
    | none => .error .badEncoding

/-- A text is read in two steps. -/
theorem takeText_eq (bs : Bytes) :
    takeText bs = takeWord32 bs >>= fun (n, bs) => takeBody n.toNat bs := by
  cases htake : takeWord32 bs with
  | error fault => simp only [takeText, htake]; rfl
  | ok taken =>
    simp only [takeText, htake, takeBody, bind, Except.bind]
    split
    · rfl
    · cases Text.Utf8.decode? (taken.2.take taken.1.toNat) <;> rfl

/-- The bytes of a text are read back. -/
theorem reads_body (s : String) {n : Nat} (hn : n = (Text.Utf8.encode s).length) :
    Reads (takeBody n) (Text.Utf8.encode s) (s, ·) where
  whole rest := by
    rw [takeBody, hn, List.take_left, List.drop_left, Text.Utf8.decode?_encode, if_neg (by simp)]
  cut front missing hcut hmissing := by
    have hpos : 0 < missing.length := List.length_pos_iff.mpr hmissing
    rw [takeBody, if_pos (by rw [hn, hcut, List.length_append]; omega)]

/-- **A text is read back.** -/
theorem reads_text {s : String} (h : Text.Utf8.size s < 2 ^ 32) :
    Reads takeText (putText s) (s, ·) := by
  have hread := (reads_word32 (UInt32.ofNat (Text.Utf8.size s))).bind
    (fun (n, bs) => takeBody n.toNat bs) (reads_body s (toNat_word h))
  rwa [← funext takeText_eq] at hread

/-- A text that is taken stood in front, and its length has room in a word. -/
theorem takeText_eq_ok {bs rest : Bytes} {s : String} (h : takeText bs = .ok (s, rest)) :
    Text.Utf8.size s < 2 ^ 32 ∧ bs = putText s ++ rest := by
  rw [takeText_eq] at h
  obtain ⟨⟨n, body⟩, hword, hbody⟩ := bind_eq_ok h
  simp only [takeBody] at hbody
  split at hbody
  · cases hbody
  · next hlength =>
    split at hbody
    · next s' hs =>
      cases hbody
      rw [Text.Utf8.decode?_eq_some_iff] at hs
      have hsize : Text.Utf8.size s = n.toNat := by
        rw [Text.Utf8.size, hs, List.length_take]
        omega
      have hn : n.toNat < 2 ^ 32 := n.toNat_lt
      refine ⟨by omega, ?_⟩
      rw [putText, hsize, UInt32.ofNat_toNat, hs, List.append_assoc, List.take_append_drop,
        takeWord32_eq_ok hword]
    · cases hbody

/-! ## 3. Switches -/

/-- The reader of one switch. -/
def takeSwitch (bs : Bytes) : Except Fault (Switch × Bytes) :=
  takeText bs >>= fun (key, bs) => takeText bs >>= fun (value, bs) => .ok ((key, value), bs)

/-- Switches are read one after the other. -/
theorem takeSwitches_succ (n : Nat) (bs : Bytes) :
    takeSwitches (n + 1) bs = takeSwitch bs >>= fun (s, bs) => (s :: ·) <$> takeSwitches n bs := by
  simp only [takeSwitches, takeSwitch]
  cases takeText bs with
  | error fault => rfl
  | ok taken =>
    simp only [bind, Except.bind]
    cases takeText taken.2 <;> rfl

/-- A switch is read back. -/
theorem reads_switch {s : Switch} (hkey : Text.Utf8.size s.1 < 2 ^ 32)
    (hvalue : Text.Utf8.size s.2 < 2 ^ 32) : Reads takeSwitch (putSwitch s) (s, ·) := by
  have hnothing : Reads (fun bs => Except.ok ((s.1, s.2), bs)) [] (s, ·) :=
    ⟨fun _ => rfl, fun _ _ hcut hmissing =>
      absurd (List.append_eq_nil_iff.mp hcut.symm).2 hmissing⟩
  have hpair := (reads_text hvalue).bind (fun (value, bs) => .ok ((s.1, value), bs)) hnothing
  rw [List.append_nil] at hpair
  have hread := (reads_text hkey).bind
    (fun (key, bs) => takeText bs >>= fun (value, bs) => .ok ((key, value), bs)) hpair
  exact hread

/-- A switch that is taken stood in front, and its lengths have room in their words. -/
theorem takeSwitch_eq_ok {bs rest : Bytes} {s : Switch} (h : takeSwitch bs = .ok (s, rest)) :
    (Text.Utf8.size s.1 < 2 ^ 32 ∧ Text.Utf8.size s.2 < 2 ^ 32) ∧ bs = putSwitch s ++ rest := by
  obtain ⟨⟨key, behind⟩, hkey, h⟩ := bind_eq_ok h
  obtain ⟨⟨value, behind'⟩, hvalue, h⟩ := bind_eq_ok h
  cases h
  obtain ⟨hfits, rfl⟩ := takeText_eq_ok hkey
  obtain ⟨hfits', rfl⟩ := takeText_eq_ok hvalue
  refine ⟨⟨hfits, hfits'⟩, ?_⟩
  rw [putSwitch, List.append_assoc]

/-- **Switches are read back**, in order and with repetitions.  The induction is on the list, as
the reader counts it down. -/
theorem reads_switches {switches : List Switch}
    (h : ∀ s ∈ switches, Text.Utf8.size s.1 < 2 ^ 32 ∧ Text.Utf8.size s.2 < 2 ^ 32) :
    Reads (takeSwitches switches.length) (switches.flatMap putSwitch) fun _ => switches := by
  induction switches with
  | nil =>
    exact ⟨fun _ => rfl, fun _ _ hcut hmissing =>
      absurd (List.append_eq_nil_iff.mp hcut.symm).2 hmissing⟩
  | cons s switches ih =>
    have hs := h s (List.mem_cons_self ..)
    have hrest := (ih fun s hs => h s (List.mem_cons_of_mem _ hs)).map (s :: ·)
    have hread := (reads_switch hs.1 hs.2).bind
      (fun (s, bs) => (s :: ·) <$> takeSwitches switches.length bs) hrest
    rwa [← funext (takeSwitches_succ switches.length)] at hread

/-- **Switches that are taken stood in front**, as many as were asked for. -/
theorem takeSwitches_eq_ok {n : Nat} {bs : Bytes} {switches : List Switch}
    (h : takeSwitches n bs = .ok switches) :
    switches.length = n
      ∧ (∀ s ∈ switches, Text.Utf8.size s.1 < 2 ^ 32 ∧ Text.Utf8.size s.2 < 2 ^ 32)
      ∧ ∃ rest, bs = switches.flatMap putSwitch ++ rest := by
  induction n generalizing bs switches with
  | zero =>
    cases h
    exact ⟨rfl, fun s hs => (nomatch hs), bs, rfl⟩
  | succ n ih =>
    rw [takeSwitches_succ] at h
    obtain ⟨⟨s, behind⟩, hs, hbehind⟩ := bind_eq_ok h
    obtain ⟨more, hmore, rfl⟩ := map_eq_ok hbehind
    obtain ⟨hfirst, rfl⟩ := takeSwitch_eq_ok hs
    obtain ⟨hlength, hfits, rest, rfl⟩ := ih hmore
    refine ⟨by rw [List.length_cons, hlength], ?_, rest, ?_⟩
    · intro s' hs'
      rcases List.mem_cons.mp hs' with rfl | hs'
      · exact hfirst
      · exact hfits s' hs'
    · rw [List.flatMap_cons, List.append_assoc]

/-! ## 4. Records -/

/-- The reader of what stands behind the version. -/
def takeFields (bs : Bytes) : Except Fault Token :=
  takeText bs >>= fun (channel, bs) => takeWord32 bs >>= fun (count, bs) =>
    Token.mk channel <$> takeSwitches count.toNat bs

/-- A record with the version of this library is read field by field. -/
theorem ofRecord_version (bs : Bytes) :
    ofRecord (BigEndian.word16 tokenVersion ++ bs) = takeFields bs := by
  simp only [BigEndian.word16, List.cons_append, List.nil_append, ofRecord,
    BigEndian.ofBytes16_word16, takeFields]
  cases takeText bs with
  | error fault => rfl
  | ok taken =>
    simp only [bind, Except.bind]
    cases takeWord32 taken.2 <;> rfl

/-- A record with another version is refused, whatever follows. -/
theorem ofRecord_otherVersion {version : UInt16} (h : version ≠ tokenVersion) (rest : Bytes) :
    ofRecord (BigEndian.word16 version ++ rest)
      = .error (.otherVersion tokenVersion version) := by
  simp only [BigEndian.word16, List.cons_append, List.nil_append, ofRecord,
    BigEndian.ofBytes16_word16, if_pos h]
  rfl

/-- The version of a record is known once there are two bytes. -/
theorem exists_version (bs : Bytes) :
    bs.length < 2 ∨ ∃ version rest, bs = BigEndian.word16 version ++ rest := by
  match bs with
  | [] | [_] => exact .inl (by simp)
  | a :: b :: rest =>
    refine .inr ⟨BigEndian.ofBytes16 a b, rest, ?_⟩
    rw [BigEndian.word16_eq_iff.mpr rfl]
    rfl

/-- A record without a version is too short. -/
theorem ofRecord_short {bs : Bytes} (h : bs.length < 2) : ofRecord bs = .error .truncated := by
  match bs, h with
  | [], _ | [_], _ => rfl

/-- **The record of a token is read back, and no proper part of it is a record.** -/
theorem reads_record {t : Token} (h : t.Fits) : Reads ofRecord t.record fun _ => t := by
  have hswitches := (reads_switches h.texts).map (Token.mk t.channel)
  rw [← toNat_word h.count] at hswitches
  have hcount := (reads_word32 (UInt32.ofNat t.switches.length)).bind
    (fun (count, bs) => Token.mk t.channel <$> takeSwitches count.toNat bs) hswitches
  have hfields := (reads_text h.channel).bind
    (fun (channel, bs) => takeWord32 bs >>= fun (count, bs) =>
      Token.mk channel <$> takeSwitches count.toNat bs) hcount
  have hrecord : t.record = BigEndian.word16 tokenVersion ++ (putText t.channel
      ++ (BigEndian.word32 (UInt32.ofNat t.switches.length) ++ t.switches.flatMap putSwitch)) := by
    simp only [record, List.append_assoc]
  constructor
  · intro rest
    rw [hrecord, List.append_assoc, ofRecord_version]
    exact hfields.whole rest
  · intro front missing hcut hmissing
    rcases exists_version front with hshort | ⟨version, front, rfl⟩
    · exact ofRecord_short hshort
    · rw [hrecord, List.append_assoc] at hcut
      obtain ⟨hversion, hfront⟩ := List.append_inj hcut rfl
      rw [← hversion, ofRecord_version]
      exact hfields.cut front missing hfront hmissing

/-- **Bytes are read as a token exactly when they begin with its record.** -/
theorem ofRecord_eq_ok_iff {bs : Bytes} {t : Token} :
    ofRecord bs = .ok t ↔ t.Fits ∧ ∃ rest, bs = t.record ++ rest := by
  constructor
  · intro h
    rcases exists_version bs with hshort | ⟨version, fields, rfl⟩
    · rw [ofRecord_short hshort] at h
      cases h
    by_cases hversion : version = tokenVersion
    · subst hversion
      rw [ofRecord_version] at h
      obtain ⟨⟨channel, behind⟩, hchannel, h⟩ := bind_eq_ok h
      obtain ⟨⟨count, behind'⟩, hcount, h⟩ := bind_eq_ok h
      obtain ⟨switches, hswitches, rfl⟩ := map_eq_ok h
      obtain ⟨hfits, rfl⟩ := takeText_eq_ok hchannel
      rw [takeWord32_eq_ok hcount]
      obtain ⟨hlength, htexts, rest, rfl⟩ := takeSwitches_eq_ok hswitches
      have hless : count.toNat < 2 ^ 32 := count.toNat_lt
      refine ⟨⟨hfits, htexts, hlength ▸ hless⟩, rest, ?_⟩
      simp only [record, hlength, UInt32.ofNat_toNat, List.append_assoc]
    · rw [ofRecord_otherVersion hversion] at h
      cases h
  · rintro ⟨hfits, rest, rfl⟩
    exact (reads_record hfits).whole rest

/-! ## 5. Texts of tokens -/

/-- A text is read through the bytes it stands for, whatever blanks are around it. -/
theorem decode_of_trim {s : String} {bs : Bytes} (h : Text.trim s.toList = Base64.encode bs) :
    decode s = ofRecord bs := by
  rw [decode, Base64.decode?_eq_some_iff.mpr h]

/-- Blanks around the text of some bytes do not matter. -/
theorem decode_blanks {before after : String}
    (hbefore : ∀ c ∈ before.toList, Text.isBlank c = true)
    (hafter : ∀ c ∈ after.toList, Text.isBlank c = true) (bs : Bytes) :
    decode (before ++ String.ofList (Base64.encode bs) ++ after) = ofRecord bs := by
  refine decode_of_trim ?_
  rw [String.toList_append, String.toList_append, String.toList_ofList,
    Base64.trim_encode hbefore hafter]

/-- The text of some bytes is read through them. -/
theorem decode_ofList (bs : Bytes) : decode (String.ofList (Base64.encode bs)) = ofRecord bs := by
  have hblanks : decode ("" ++ String.ofList (Base64.encode bs) ++ "") = ofRecord bs :=
    decode_blanks (by simp) (by simp) bs
  rwa [String.empty_append, String.append_empty] at hblanks

/-- **A text is read as a token exactly when its bytes begin with the token's record.** -/
theorem decode_eq_ok_iff {s : String} {t : Token} :
    decode s = .ok t
      ↔ t.Fits ∧ ∃ bs, Text.trim s.toList = Base64.encode bs ∧ t.record <+: bs := by
  constructor
  · intro h
    cases hbytes : Base64.decode? (Text.trim s.toList) with
    | none =>
      rw [decode, hbytes] at h
      cases h
    | some bs =>
      have htrim := Base64.decode?_eq_some_iff.mp hbytes
      rw [decode_of_trim htrim] at h
      obtain ⟨hfits, rest, rfl⟩ := ofRecord_eq_ok_iff.mp h
      exact ⟨hfits, _, htrim, List.prefix_append _ _⟩
  · rintro ⟨hfits, _, htrim, rest, rfl⟩
    rw [decode_of_trim htrim]
    exact (reads_record hfits).whole rest

/-- **The text of a token, in both directions.**  For tokens whose lengths have room in their
words:

* the text of a token is read back, with any blanks around it;
* a text is read as a token exactly when it is, up to blanks around it, the base 64 of bytes that
  begin with the token's record, and bytes begin with the record of one token at most;
* a proper part of a record, from its beginning, is too short;
* bytes with another version are refused for it, whatever follows. -/
theorem codec :
    (∀ (t : Token) (before after : String), t.Fits →
        (∀ c ∈ before.toList, Text.isBlank c = true) →
        (∀ c ∈ after.toList, Text.isBlank c = true) →
        decode (before ++ t.encode ++ after) = .ok t)
    ∧ (∀ (s : String) (t : Token), decode s = .ok t
        ↔ t.Fits ∧ ∃ bs, Text.trim s.toList = Base64.encode bs ∧ t.record <+: bs)
    ∧ (∀ (t u : Token) (bs : Bytes), t.Fits → u.Fits → t.record <+: bs → u.record <+: bs → t = u)
    ∧ (∀ (t : Token) (front : Bytes), t.Fits → front <+: t.record → front ≠ t.record →
        decode (String.ofList (Base64.encode front)) = .error .truncated)
    ∧ ∀ (s : String) (a b : UInt8) (rest : Bytes),
        Text.trim s.toList = Base64.encode (a :: b :: rest) →
        BigEndian.ofBytes16 a b ≠ tokenVersion →
        decode s = .error (.otherVersion tokenVersion (BigEndian.ofBytes16 a b)) := by
  refine ⟨?_, fun s t => decode_eq_ok_iff, ?_, ?_, ?_⟩
  · intro t before after hfits hbefore hafter
    have hwhole := (reads_record hfits).whole []
    rw [List.append_nil] at hwhole
    rw [encode, decode_blanks hbefore hafter, hwhole]
  · rintro t u bs ht hu ⟨rest, rfl⟩ ⟨rest', hsame⟩
    have hread := (reads_record ht).whole rest
    rw [← hsame, (reads_record hu).whole rest'] at hread
    exact (Except.ok.inj hread).symm
  · rintro t front hfits ⟨missing, hcut⟩ hproper
    have hmissing : missing ≠ [] := by
      rintro rfl
      exact hproper (by rw [← hcut, List.append_nil])
    rw [decode_ofList, (reads_record hfits).cut front missing hcut.symm hmissing]
  · intro s a b rest htrim hversion
    have hrefused := ofRecord_otherVersion hversion rest
    rw [BigEndian.word16_eq_iff.mpr rfl] at hrefused
    rw [decode_of_trim htrim]
    exact hrefused

/-- A token with a repeated key and empty texts, one of the proper parts of its record, and a text
of which the record has version 2. -/
theorem codec_repeatedKey :
    decode (" " ++ encode ⟨"0.3.0.7.8080", [("k", "1"), ("k", ""), ("", "1")]⟩ ++ "\n")
        = .ok ⟨"0.3.0.7.8080", [("k", "1"), ("k", ""), ("", "1")]⟩
      ∧ decode (String.ofList (Base64.encode
          ((record ⟨"0.3.0.7.8080", [("k", "1"), ("k", ""), ("", "1")]⟩).take 20)))
        = .error .truncated
      ∧ decode "AAI=" = .error (.otherVersion 1 2) := by
  have hfits : Fits ⟨"0.3.0.7.8080", [("k", "1"), ("k", ""), ("", "1")]⟩ :=
    ⟨by decide +kernel, by decide +kernel, by decide +kernel⟩
  have hspace : " ".toList.all Text.isBlank = true := by decide +kernel
  have hline : "\n".toList.all Text.isBlank = true := by decide +kernel
  refine ⟨?_, ?_, ?_⟩
  · exact codec.1 _ " " "\n" hfits (List.all_eq_true.mp hspace) (List.all_eq_true.mp hline)
  · exact codec.2.2.2.1 _ _ hfits (List.take_prefix _ _) (by decide +kernel)
  · exact codec.2.2.2.2 "AAI=" 0 2 [] (by decide +kernel) (by decide +kernel)

end ControlPlane.Token
