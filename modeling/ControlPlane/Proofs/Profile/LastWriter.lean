/-
# The last writer wins

Seven kinds of updates write four settings of a profile, and each setting is what the last update
that writes it has made of it.  Of the words and the corrections each one is a setting of its own:
an update writes those that it lists.

* `lastWrite`, `IsLast`: what is written last, and by whom;
* `foldl_lastWrite`: what is read after some steps is what the last of them to write it has written;
* `ProfileUpdate.proxy?`, `spellCheck?`, `word?`, `correction?`: what an update writes;
* `LastWriter`, `lastWriter_applyAll`: the settings of a profile after some updates;
* `Profile.Confined`, `confined_apply`: what an update leaves alone;
* `Profile.apply_comm`: which updates may change places.

A bad word that has no good word at its place is not listed.  Such words do not come in messages.
-/
import Mathlib.Data.List.Induction
import Mathlib.Data.List.Basic
import ControlPlane.Proofs.Profile.Settings

namespace ControlPlane

/-! ## 1. What is written last -/

section

variable {α β σ : Type} {write? : α → Option β} {l : List α} {a : α}

/-- **The last of a list with a property.** -/
def IsLast (P : α → Prop) (l : List α) (a : α) : Prop :=
  ∃ front behind, l = front ++ a :: behind ∧ P a ∧ ∀ b ∈ behind, ¬ P b

/-- Where there is one with a property there is a last one. -/
theorem exists_isLast {P : α → Prop} (h : ∃ a ∈ l, P a) : ∃ a, IsLast P l a := by
  induction l using List.reverseRecOn with
  | nil => simp at h
  | append_singleton l c ih =>
    by_cases hc : P c
    · exact ⟨c, l, [], rfl, hc, nofun⟩
    · obtain ⟨a, ha, hPa⟩ := h
      rcases List.mem_append.1 ha with ha | ha
      · obtain ⟨b, front, behind, rfl, hb, hbehind⟩ := ih ⟨a, ha, hPa⟩
        refine ⟨b, front, behind ++ [c], by simp, hb, ?_⟩
        intro d hd
        rcases List.mem_append.1 hd with hd | hd
        · exact hbehind d hd
        · obtain rfl := List.mem_singleton.1 hd
          exact hc
      · obtain rfl := List.mem_singleton.1 ha
        exact absurd hPa hc

/-- **What is written last**, if anything is. -/
def lastWrite (write? : α → Option β) (l : List α) : Option β := (l.filterMap write?).getLast?

/-- The last one decides, if it writes. -/
theorem lastWrite_snoc (write? : α → Option β) (l : List α) (a : α) :
    lastWrite write? (l ++ [a]) = (write? a).or (lastWrite write? l) := by
  unfold lastWrite
  rw [List.filterMap_append, List.getLast?_append, List.filterMap_cons]
  cases write? a <;> rfl

/-- **What is written last is what the last one that writes has written.** -/
theorem lastWrite_eq_some_iff {P : α → Prop} (hwrites : ∀ a, write? a = none ↔ ¬ P a) {b : β} :
    lastWrite write? l = some b ↔ ∃ a, IsLast P l a ∧ write? a = some b := by
  rw [lastWrite, List.getLast?_eq_some_iff]
  constructor
  · rintro ⟨written, h⟩
    obtain ⟨front, rest, rfl, -, hrest⟩ := List.filterMap_eq_append_iff.1 h
    obtain ⟨silent, a, behind, rfl, -, ha, hbehind⟩ := List.filterMap_eq_cons_iff.1 hrest
    have hsilent := List.filterMap_eq_nil_iff.1 hbehind
    refine ⟨a, ⟨front ++ silent, behind, by simp, ?_, fun c hc => (hwrites c).1 (hsilent c hc)⟩, ha⟩
    by_contra hnot
    rw [(hwrites a).2 hnot] at ha
    cases ha
  · rintro ⟨a, ⟨front, behind, rfl, -, hbehind⟩, ha⟩
    refine ⟨front.filterMap write?, ?_⟩
    have hsilent : behind.filterMap write? = [] :=
      List.filterMap_eq_nil_iff.2 fun c hc => (hwrites c).2 (hbehind c hc)
    rw [List.filterMap_append, List.filterMap_cons, ha, hsilent]

/-- Where nobody writes nothing is written. -/
theorem lastWrite_eq_none_iff : lastWrite write? l = none ↔ ∀ a ∈ l, write? a = none := by
  rw [lastWrite, List.getLast?_eq_none_iff, List.filterMap_eq_nil_iff]

/-- **What is read after some steps is what was written last**, or what was there before.  Each step
has to agree with what it writes. -/
theorem foldl_lastWrite {step : σ → α → σ} (read : σ → β)
    (hstep : ∀ s a, read (step s a) = (write? a).getD (read s)) (s : σ) (l : List α) :
    read (l.foldl step s) = (lastWrite write? l).getD (read s) := by
  induction l using List.reverseRecOn with
  | nil => rfl
  | append_singleton l a ih =>
    rw [List.foldl_append, List.foldl_cons, List.foldl_nil, hstep, ih, lastWrite_snoc]
    cases write? a <;> rfl

/-- Where all write the same it is written if anybody writes. -/
theorem lastWrite_const [DecidableEq α] (k : α) (b : β) (l : List α) :
    lastWrite (fun a => if a = k then some b else none) l = if k ∈ l then some b else none := by
  induction l using List.reverseRecOn with
  | nil => rfl
  | append_singleton l a ih =>
    rw [lastWrite_snoc, ih]
    by_cases ha : a = k
    · simp [ha]
    · have hmem : k ∈ l ++ [a] ↔ k ∈ l := by simp [Ne.symm ha]
      simp only [hmem, if_neg ha, Option.none_or]

end

/-! ## 2. What an update writes -/

namespace ProfileUpdate

/-- The proxy setting that an update makes, if it makes one. -/
def proxy? : ProfileUpdate → Option ProxySetting
  | .setProxy c => some (.custom c)
  | .useSystemProxy => some .system
  | _ => none

/-- The spell checking that an update makes, if it makes one. -/
def spellCheck? : ProfileUpdate → Option SpellCheck
  | .setSpellCheck s => some s
  | _ => none

/-- The words of the dictionary that an update lists. -/
def words : ProfileUpdate → List String
  | .addWords ws | .removeWords ws => ws
  | _ => []

/-- The misspellings that an update lists. -/
def misspellings : ProfileUpdate → List String
  | .addCorrections bad good => (bad.zip good).map (·.1)
  | .removeCorrections bad => bad
  | _ => []

/-- What an update makes of a word of the dictionary: it is there afterwards, or it is not. -/
def word? (w : String) : ProfileUpdate → Option (Option Unit)
  | .addWords ws => if w ∈ ws then some (some ()) else none
  | .removeWords ws => if w ∈ ws then some none else none
  | _ => none

/-- What an update makes of a misspelling: it has a replacement afterwards, or it has none. -/
def correction? (b : String) : ProfileUpdate → Option (Option String)
  | .addCorrections bad good =>
    lastWrite (fun e => if e.1 = b then some (some e.2) else none) (bad.zip good)
  | .removeCorrections bad => if b ∈ bad then some none else none
  | _ => none

/-- An update writes the words that it lists. -/
theorem word?_eq_none_iff {w : String} (u : ProfileUpdate) : u.word? w = none ↔ w ∉ u.words := by
  cases u <;> simp [word?, words]

/-- An update writes the misspellings that it lists. -/
theorem correction?_eq_none_iff {b : String} (u : ProfileUpdate) :
    u.correction? b = none ↔ b ∉ u.misspellings := by
  cases u with
  | addCorrections bad good =>
    simp only [correction?, misspellings, lastWrite_eq_none_iff, List.mem_map, not_exists, not_and]
    refine forall₂_congr fun e _ => ?_
    split <;> simp_all
  | removeCorrections bad => simp [correction?, misspellings]
  | setProxy | useSystemProxy | setSpellCheck | addWords | removeWords =>
    simp [correction?, misspellings]

/-- An update puts a word into the dictionary if it adds it. -/
theorem word?_eq_some_iff {w : String} (u : ProfileUpdate) :
    u.word? w = some (some ()) ↔ ∃ ws, u = .addWords ws ∧ w ∈ ws := by
  cases u <;> simp [word?]

/-- **What an update writes for a misspelling is the good word at its last place.** -/
theorem correction?_eq_some_iff {b g : String} (u : ProfileUpdate) :
    u.correction? b = some (some g)
      ↔ ∃ bad good, u = .addCorrections bad good ∧ IsLast (·.1 = b) (bad.zip good) (b, g) := by
  cases u with
  | addCorrections bad good =>
    have hwrites : ∀ e : String × String,
        (if e.1 = b then some (some e.2) else none) = none ↔ ¬ e.1 = b := by simp
    rw [correction?, lastWrite_eq_some_iff hwrites]
    constructor
    · rintro ⟨⟨b', g'⟩, hlast, hwrite⟩
      obtain ⟨-, -, -, rfl, -⟩ := id hlast
      rw [if_pos rfl, Option.some.injEq, Option.some.injEq] at hwrite
      obtain rfl := hwrite
      exact ⟨bad, good, rfl, hlast⟩
    · rintro ⟨_, _, heq, hlast⟩
      cases heq
      exact ⟨_, hlast, if_pos rfl⟩
  | removeCorrections bad => simp [correction?]
  | setProxy | useSystemProxy | setSpellCheck | addWords | removeWords => simp [correction?]

end ProfileUpdate

/-! ## 3. One update -/

namespace Profile

/-- **In a table, what is read for a word after some steps is what was written for it last.**  Each
step writes for one word. -/
theorem get?_foldl {α β : Type} {step : Table String β → α → Table String β} {key : α → String}
    {value : α → Option β}
    (hstep : ∀ t a w, (step t a).get? w = if w = key a then value a else t.get? w)
    (l : List α) (t : Table String β) (w : String) :
    (l.foldl step t).get? w
      = (lastWrite (fun a => if key a = w then some (value a) else none) l).getD (t.get? w) := by
  refine foldl_lastWrite (·.get? w) (fun t a => ?_) t l
  rw [hstep]
  by_cases h : key a = w
  · rw [if_pos h.symm, if_pos h, Option.getD_some]
  · rw [if_neg (Ne.symm h), if_neg h, Option.getD_none]

/-- Words that are put into a table are there. -/
theorem get?_putWords (ws : List String) (t : Table String Unit) (w : String) :
    (ws.foldl (fun t w => t.insert w ()) t).get? w
      = (if w ∈ ws then some (some ()) else none).getD (t.get? w) := by
  rw [← lastWrite_const w (some ()) ws]
  exact get?_foldl (fun t v w => t.get?_insert v w ()) ws t w

/-- Words that are taken from a table are not. -/
theorem get?_takeWords {α : Type} (ws : List String) (t : Table String α) (w : String) :
    (ws.foldl (fun t w => t.erase w) t).get? w
      = (if w ∈ ws then some none else none).getD (t.get? w) := by
  rw [← lastWrite_const w none ws]
  exact get?_foldl (fun t v w => t.get?_erase v w) ws t w

/-- Of the pairs that are put into a table the last one of each word is there. -/
theorem get?_putPairs (es : List (String × String)) (t : Table String String) (b : String) :
    (es.foldl (fun t e => t.insert e.1 e.2) t).get? b
      = (lastWrite (fun e => if e.1 = b then some (some e.2) else none) es).getD (t.get? b) :=
  get?_foldl (fun t e b => t.get?_insert e.1 b e.2) es t b

variable (p : Profile) (u : ProfileUpdate)

/-- The proxy setting after an update. -/
theorem proxy_apply : (p.apply u).proxy = u.proxy?.getD p.proxy := by
  cases u <;> rfl

/-- The spell checking after an update. -/
theorem spellCheck_apply : (p.apply u).spellCheck = u.spellCheck?.getD p.spellCheck := by
  cases u <;> rfl

/-- A word of the dictionary after an update. -/
theorem word_apply (w : String) :
    (p.apply u).words.get? w = (u.word? w).getD (p.words.get? w) := by
  cases u with
  | addWords ws => exact get?_putWords ws p.words w
  | removeWords ws => exact get?_takeWords ws p.words w
  | setProxy | useSystemProxy | setSpellCheck | addCorrections | removeCorrections => rfl

/-- The replacement of a misspelling after an update. -/
theorem correction_apply (b : String) :
    (p.apply u).corrections.get? b = (u.correction? b).getD (p.corrections.get? b) := by
  cases u with
  | addCorrections bad good => exact get?_putPairs (bad.zip good) p.corrections b
  | removeCorrections bad => exact get?_takeWords bad p.corrections b
  | setProxy | useSystemProxy | setSpellCheck | addWords | removeWords => rfl

end Profile

/-! ## 4. Many updates -/

/-- A profile whose settings nobody has made yet. -/
structure Profile.Unset (p : Profile) : Prop where
  proxy : p.proxy = .system
  spellCheck : p.spellCheck = {}
  words : p.words = Table.empty
  corrections : p.corrections = Table.empty

/-- References do not make a setting. -/
theorem Profile.Unset.of_alike {p q : Profile} (h : p.Unset) (halike : q.Alike p) : q.Unset := by
  obtain ⟨n, rfl⟩ := halike
  exact ⟨h.proxy, h.spellCheck, h.words, h.corrections⟩

/-- **The settings of a profile are those of the last writers** among some updates. -/
structure LastWriter (us : List ProfileUpdate) (q : Profile) : Prop where
  /-- The proxy setting is the one that was made last, or the system's. -/
  proxy : q.proxy = (lastWrite ProfileUpdate.proxy? us).getD .system
  /-- The spell checking is the one that was made last, or it is off. -/
  spellCheck : q.spellCheck = (lastWrite ProfileUpdate.spellCheck? us).getD {}
  /-- A word is in the dictionary exactly if the last update that lists it adds it. -/
  word : ∀ w, q.words.contains w = true ↔ ∃ ws, IsLast (w ∈ ·.words) us (.addWords ws)
  /-- A misspelling has a replacement exactly if the last update that lists it adds corrections. -/
  corrected : ∀ b, q.corrections.contains b = true
    ↔ ∃ bad good, IsLast (b ∈ ·.misspellings) us (.addCorrections bad good)
  /-- It is the good word at the last place of the misspelling there. -/
  correction : ∀ b g, q.corrections.get? b = some g
    ↔ ∃ bad good, IsLast (b ∈ ·.misspellings) us (.addCorrections bad good)
      ∧ IsLast (·.1 = b) (bad.zip good) (b, g)

/-- It does not matter who holds references to a profile. -/
theorem LastWriter.of_alike {us : List ProfileUpdate} {p q : Profile} (h : LastWriter us p)
    (halike : q.Alike p) : LastWriter us q := by
  obtain ⟨n, rfl⟩ := halike
  exact ⟨h.proxy, h.spellCheck, h.word, h.corrected, h.correction⟩

/-- Nothing is there unless something was written and left it there. -/
theorem getD_none_eq_some_iff {α : Type} {o : Option (Option α)} {a : α} :
    o.getD none = some a ↔ o = some (some a) := by
  cases o <;> simp

section

variable {p : Profile} (hp : p.Unset) (us : List ProfileUpdate)

include hp

/-- A word of the dictionary after some updates. -/
theorem Profile.Unset.word_applyAll (w : String) :
    (p.applyAll us).words.get? w = (lastWrite (ProfileUpdate.word? w) us).getD none := by
  have hfold := foldl_lastWrite (·.words.get? w) (word_apply · · w) p us
  rwa [hp.words, Table.get?_empty] at hfold

/-- The replacement of a misspelling after some updates. -/
theorem Profile.Unset.correction_applyAll (b : String) :
    (p.applyAll us).corrections.get? b
      = (lastWrite (ProfileUpdate.correction? b) us).getD none := by
  have hfold := foldl_lastWrite (·.corrections.get? b) (correction_apply · · b) p us
  rwa [hp.corrections, Table.get?_empty] at hfold

/-- **A word is in the dictionary exactly if the last update that lists it adds it.** -/
theorem Profile.Unset.contains_word_iff (w : String) :
    (p.applyAll us).words.contains w = true ↔ ∃ ws, IsLast (w ∈ ·.words) us (.addWords ws) := by
  have hthere : (p.applyAll us).words.contains w = true
      ↔ (p.applyAll us).words.get? w = some () := by
    rw [Table.contains, Option.isSome_iff_exists]
    constructor
    · rintro ⟨entry, hget⟩
      exact hget
    · intro hget
      exact ⟨_, hget⟩
  rw [hthere, hp.word_applyAll, getD_none_eq_some_iff,
    lastWrite_eq_some_iff ProfileUpdate.word?_eq_none_iff]
  constructor
  · rintro ⟨u, hlast, hwrite⟩
    obtain ⟨ws, rfl, -⟩ := u.word?_eq_some_iff.1 hwrite
    exact ⟨ws, hlast⟩
  · rintro ⟨ws, hlast⟩
    obtain ⟨-, -, -, hw, -⟩ := id hlast
    exact ⟨_, hlast, (ProfileUpdate.word?_eq_some_iff _).2 ⟨ws, rfl, hw⟩⟩

/-- **The replacement of a misspelling is the good word at its last place in the last update that
lists it**, if that adds corrections. -/
theorem Profile.Unset.get?_correction_iff (b g : String) :
    (p.applyAll us).corrections.get? b = some g
      ↔ ∃ bad good, IsLast (b ∈ ·.misspellings) us (.addCorrections bad good)
        ∧ IsLast (·.1 = b) (bad.zip good) (b, g) := by
  rw [hp.correction_applyAll, getD_none_eq_some_iff,
    lastWrite_eq_some_iff ProfileUpdate.correction?_eq_none_iff]
  constructor
  · rintro ⟨u, hlast, hwrite⟩
    obtain ⟨bad, good, rfl, hpair⟩ := u.correction?_eq_some_iff.1 hwrite
    exact ⟨bad, good, hlast, hpair⟩
  · rintro ⟨bad, good, hlast, hpair⟩
    exact ⟨_, hlast, (ProfileUpdate.correction?_eq_some_iff _).2 ⟨bad, good, rfl, hpair⟩⟩

/-- A misspelling has a replacement exactly if the last update that lists it adds corrections. -/
theorem Profile.Unset.contains_correction_iff (b : String) :
    (p.applyAll us).corrections.contains b = true
      ↔ ∃ bad good, IsLast (b ∈ ·.misspellings) us (.addCorrections bad good) := by
  rw [Table.contains, Option.isSome_iff_exists]
  constructor
  · rintro ⟨g, hg⟩
    obtain ⟨bad, good, hlast, -⟩ := (hp.get?_correction_iff us b g).1 hg
    exact ⟨bad, good, hlast⟩
  · rintro ⟨bad, good, hlast⟩
    obtain ⟨-, -, -, hlisted, -⟩ := id hlast
    have hpair : ∃ e ∈ bad.zip good, e.1 = b := List.mem_map.1 hlisted
    obtain ⟨⟨b', g⟩, hpair⟩ := exists_isLast hpair
    obtain ⟨-, -, -, rfl, -⟩ := id hpair
    exact ⟨g, (hp.get?_correction_iff us _ g).2 ⟨bad, good, hlast, hpair⟩⟩

/-- **After some updates the settings of a profile are those of the last writers**, if nobody had
made any before. -/
theorem lastWriter_applyAll : LastWriter us (p.applyAll us) where
  proxy := by
    have hfold := foldl_lastWrite Profile.proxy Profile.proxy_apply p us
    rwa [hp.proxy] at hfold
  spellCheck := by
    have hfold := foldl_lastWrite Profile.spellCheck Profile.spellCheck_apply p us
    rwa [hp.spellCheck] at hfold
  word := hp.contains_word_iff us
  corrected := hp.contains_correction_iff us
  correction := hp.get?_correction_iff us

end

/-! ## 5. What an update leaves alone -/

namespace ProfileUpdate

/-- The four settings that updates write. -/
inductive Kind where
  | proxy
  | spellCheck
  | words
  | corrections
  deriving DecidableEq, Repr

/-- The setting that an update writes. -/
def kind : ProfileUpdate → Kind
  | .setProxy _ | .useSystemProxy => .proxy
  | .setSpellCheck _ => .spellCheck
  | .addWords _ | .removeWords _ => .words
  | .addCorrections .. | .removeCorrections _ => .corrections

/-- Whether an update is a list of words. -/
def isList (u : ProfileUpdate) : Bool := u.kind = .words || u.kind = .corrections

/-- A list of words does not change how the network is reached, nor the spell checking. -/
theorem proxy?_of_isList {u : ProfileUpdate} (h : u.isList = true) :
    u.proxy? = none ∧ u.spellCheck? = none := by
  cases u <;> first | exact ⟨rfl, rfl⟩ | cases h

end ProfileUpdate

namespace Profile

/-- **An update writes its own setting only.** -/
structure Confined (p : Profile) (u : ProfileUpdate) : Prop where
  proxy : u.kind ≠ .proxy → (p.apply u).proxy = p.proxy
  spellCheck : u.kind ≠ .spellCheck → (p.apply u).spellCheck = p.spellCheck
  words : u.kind ≠ .words → (p.apply u).words = p.words
  corrections : u.kind ≠ .corrections → (p.apply u).corrections = p.corrections
  folder : (p.apply u).folder = p.folder
  flags : (p.apply u).flags = p.flags
  references : (p.apply u).references = p.references

/-- Every update does. -/
theorem confined_apply (p : Profile) (u : ProfileUpdate) : p.Confined u := by
  cases u <;> constructor <;> intros <;> first | rfl | contradiction

/-- Profiles that agree in every part are the same. -/
theorem eq_of_parts {p q : Profile} (hfolder : p.folder = q.folder) (hflags : p.flags = q.flags)
    (hproxy : p.proxy = q.proxy) (hspellCheck : p.spellCheck = q.spellCheck)
    (hwords : p.words = q.words) (hcorrections : p.corrections = q.corrections)
    (hreferences : p.references = q.references) : p = q := by
  cases p
  cases q
  subst hfolder hflags hproxy hspellCheck hwords hcorrections hreferences
  rfl

/-- Of two writes that do not meet it does not matter which is the first. -/
theorem getD_comm {α : Type} {o o' : Option α} (h : o = none ∨ o' = none) (a : α) :
    o'.getD (o.getD a) = o.getD (o'.getD a) := by
  rcases h with rfl | rfl <;> rfl

/-- **Two lists of words may change places** if they have no word of the dictionary in common, and
no misspelling. -/
theorem apply_comm (p : Profile) {u v : ProfileUpdate} (hu : u.isList = true) (hv : v.isList = true)
    (hwords : u.words.Disjoint v.words) (hmisspellings : u.misspellings.Disjoint v.misspellings) :
    (p.apply u).apply v = (p.apply v).apply u := by
  have hword : ∀ w, u.word? w = none ∨ v.word? w = none := by
    intro w
    rw [u.word?_eq_none_iff, v.word?_eq_none_iff]
    by_contra hboth
    rw [not_or, not_not, not_not] at hboth
    exact hwords hboth.1 hboth.2
  have hcorrection : ∀ b, u.correction? b = none ∨ v.correction? b = none := by
    intro b
    rw [u.correction?_eq_none_iff, v.correction?_eq_none_iff]
    by_contra hboth
    rw [not_or, not_not, not_not] at hboth
    exact hmisspellings hboth.1 hboth.2
  obtain ⟨hproxy, hspell⟩ := ProfileUpdate.proxy?_of_isList hu
  obtain ⟨hproxy', hspell'⟩ := ProfileUpdate.proxy?_of_isList hv
  refine eq_of_parts (by simp) (by simp) ?_ ?_ ?_ ?_ (by simp)
  · simp only [proxy_apply, hproxy, hproxy', Option.getD_none]
  · simp only [spellCheck_apply, hspell, hspell', Option.getD_none]
  · refine Table.ext_get? fun w => ?_
    simp only [word_apply]
    exact getD_comm (hword w) _
  · refine Table.ext_get? fun b => ?_
    simp only [correction_apply]
    exact getD_comm (hcorrection b) _

end Profile

end ControlPlane
