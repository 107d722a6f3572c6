/-
# Who a profile is

A profile is known by its identity and, unless it leaves nothing behind, by its folder.  The store
keeps both ways to find it in step, whatever is done to it and in whatever order.

* `ProfileStore.Act`, `ProfileStore.run`: what can be done with a store, and runs of it;
* `ProfileStore.Change`, `ProfileStore.change_act`: the few ways in which an act changes it;
* `ProfileStore.Indexed`: the table of folders says exactly which live profiles have which folder;
* `ProfileStore.Keeps`: identities do not come back, and a live profile stays what it was made as;
* `ProfileStore.identified_run`: both together, and what obtaining a folder gives.

Two spellings of a folder are the same when their components are, and identities are counted
without a bound.
-/
import ControlPlane.Proofs.Profile.Account

namespace ControlPlane

namespace ProfileStore

/-! ## 1. Runs -/

/-- **What can be done with a store.** -/
inductive Act where
  /-- `failure` is what the system answers if a folder has to be made. -/
  | obtain (folder : String) (flags : ProfileFlags) (failure : Option String)
  | release (id : ProfileId)
  | destroy (id : ProfileId)
  | destroyAll
  | update (id : ProfileId) (u : ProfileUpdate)

/-- What an act leaves behind.  One that fails leaves the store as it was. -/
def act (s : ProfileStore) : Act → ProfileStore
  | .obtain folder flags failure => (s.obtain folder flags failure).2
  | .release id =>
    match s.release id with
    | .ok s' => s'
    | .error _ => s
  | .destroy id =>
    match s.destroy id with
    | .ok s' => s'
    | .error _ => s
  | .destroyAll => s.destroyAll
  | .update id u => (s.update id u).getD s

/-- **A store after some acts**, one after the other. -/
def run (s : ProfileStore) (acts : List Act) : ProfileStore := acts.foldl act s

/-- The identity that an act gives out for a new profile, if it makes one. -/
def made? (s : ProfileStore) : Act → Option ProfileId
  | .obtain folder flags failure =>
    match (s.obtain folder flags failure).1 with
    | .ok id => if (s.get? id).isNone then some id else none
    | .error _ => none
  | _ => none

/-- The identities that were given out for new profiles in a run, in their order. -/
def made (s : ProfileStore) : List Act → List ProfileId
  | [] => []
  | a :: rest => (s.made? a).toList ++ (s.act a).made rest

/-! ## 2. What is kept in step -/

/-- A live profile has a folder, whatever its spelling. -/
def Has (s : ProfileStore) (id : ProfileId) (place : Folder.Place) : Prop :=
  ∃ p folder, s.get? id = some p ∧ p.folder = some folder ∧ Folder.components folder = place

/-- **The two ways to find a profile are in step.** -/
structure Indexed (s : ProfileStore) : Prop where
  /-- A folder belongs to exactly the live profile that has it. -/
  index : ∀ place id, s.byFolder.get? place = some id ↔ s.Has id place
  /-- The identities of live profiles have been given out. -/
  given : ∀ id p, s.get? id = some p → id.value < s.nextId

namespace Indexed

variable {s : ProfileStore}

/-- A new store has nothing to keep in step. -/
theorem empty : Indexed {} where
  index place id := by simp [Has, get?]
  given id p h := by simp [get?] at h

/-- The identity that is given out next is not that of a live profile. -/
theorem get?_next (h : s.Indexed) : s.get? ⟨s.nextId⟩ = none := by
  cases hget : s.get? ⟨s.nextId⟩ with
  | none => rfl
  | some p => exact absurd (h.given _ p hget) (Nat.lt_irrefl _)

/-- The table of folders never names a profile that is gone. -/
theorem live_of_find (h : s.Indexed) {folder : String} {id : ProfileId}
    (hfind : s.find? folder = some id) : ∃ p, s.get? id = some p := by
  obtain ⟨p, _, hlive, _⟩ := (h.index _ _).1 hfind
  exact ⟨p, hlive⟩

end Indexed

/-- **What was made stays what it is**: an identity that was given out does not come back for
another profile, and a profile keeps its folder and its flags. -/
structure Keeps (s s' : ProfileStore) : Prop where
  next : s.nextId ≤ s'.nextId
  same : ∀ id q, id.value < s.nextId → s'.get? id = some q →
    ∃ p, s.get? id = some p ∧ q.folder = p.folder ∧ q.flags = p.flags

namespace Keeps

variable {s s' s'' : ProfileStore}

/-- What nothing was done to stays as it is. -/
theorem refl (s : ProfileStore) : s.Keeps s := ⟨Nat.le_refl _, fun _ q _ hq => ⟨q, hq, rfl, rfl⟩⟩

/-- What stays in two steps stays. -/
theorem trans (h : s.Keeps s') (h' : s'.Keeps s'') : s.Keeps s'' where
  next := Nat.le_trans h.next h'.next
  same id r hid hr := by
    obtain ⟨q, hq, hfolder, hflags⟩ := h'.same id r (Nat.lt_of_lt_of_le hid h.next) hr
    obtain ⟨p, hp, hfolder', hflags'⟩ := h.same id q hid hq
    exact ⟨p, hp, hfolder.trans hfolder', hflags.trans hflags'⟩

end Keeps

/-! ## 3. Changes -/

/-- A change of a profile that leaves its folder and its flags as they are. -/
def Mild (f : Profile → Profile) : Prop := ∀ p, (f p).folder = p.folder ∧ (f p).flags = p.flags

/-- The store with one profile changed. -/
def touch (s : ProfileStore) (id : ProfileId) (f : Profile → Profile) : ProfileStore :=
  { s with profiles := s.profiles.adjust id f }

/-- The store with a new profile, and with the folders it knows then. -/
def withNew (s : ProfileStore) (p : Profile) (byFolder : Table Folder.Place ProfileId) :
    ProfileStore :=
  { s with profiles := s.profiles.insert ⟨s.nextId⟩ p, nextId := s.nextId + 1, byFolder }

/-- The store without a profile, and with the folders it knows then. -/
def without (s : ProfileStore) (id : ProfileId) (byFolder : Table Folder.Place ProfileId) :
    ProfileStore :=
  { s with profiles := s.profiles.erase id, byFolder }

/-- The folders that are known without a profile. -/
def foldersWithout (s : ProfileStore) (p : Profile) : Table Folder.Place ProfileId :=
  match p.folder with
  | some folder => s.byFolder.erase (Folder.components folder)
  | none => s.byFolder

/-- **The ways in which an act changes a store.** -/
inductive Change (s : ProfileStore) : Act → ProfileStore → Prop
  | idle (a : Act) (hmade : s.made? a = none) : Change s a s
  /-- References are taken or given back, or settings change. -/
  | touched (a : Act) (id : ProfileId) (f : Profile → Profile) (hf : Mild f)
      (hmade : s.made? a = none) : Change s a (s.touch id f)
  /-- A new profile leaves nothing behind. -/
  | incognito (folder : String) (flags : ProfileFlags) (failure : Option String)
      (hmade : s.made? (.obtain folder flags failure) = some ⟨s.nextId⟩) :
      Change s (.obtain folder flags failure)
        (s.withNew { folder := none, flags := {} } s.byFolder)
  /-- A new profile has a folder from now on that belonged to none. -/
  | founded (folder : String) (flags : ProfileFlags) (failure : Option String)
      (hfind : s.find? folder = none)
      (hmade : s.made? (.obtain folder flags failure) = some ⟨s.nextId⟩) :
      Change s (.obtain folder flags failure)
        (s.withNew { folder := some folder, flags }
          (s.byFolder.insert (Folder.components folder) ⟨s.nextId⟩))
  | destroyed (id : ProfileId) (p : Profile) (hlive : s.get? id = some p) :
      Change s (.destroy id) (s.without id (s.foldersWithout p))
  | emptied : Change s .destroyAll s.destroyAll

/-- Obtaining a folder is a change. -/
theorem change_obtain {s : ProfileStore} (h : s.Indexed) (folder : String) (flags : ProfileFlags)
    (failure : Option String) :
    s.Change (.obtain folder flags failure) (s.obtain folder flags failure).2 := by
  have hcase := s.obtains folder flags failure
  generalize hx : s.obtain folder flags failure = x at hcase
  cases hcase with
  | failed e => exact .idle _ (by simp [made?, hx])
  | shared id p _ _ _ hlive =>
    exact .touched _ id oneMore (fun _ => ⟨rfl, rfl⟩) (by simp [made?, hx, hlive])
  | incognito => exact .incognito folder flags failure (by simp [made?, hx, h.get?_next])
  | made _ _ hfind => exact .founded folder flags failure hfind (by simp [made?, hx, h.get?_next])

/-- **Every act is one of the changes.** -/
theorem change_act {s : ProfileStore} (h : s.Indexed) (a : Act) : s.Change a (s.act a) := by
  cases a with
  | obtain folder flags failure => exact change_obtain h folder flags failure
  | release id =>
    simp only [act, ProfileStore.release]
    cases s.get? id with
    | none => exact .idle _ rfl
    | some p => exact .touched _ id _ (fun _ => ⟨rfl, rfl⟩) rfl
  | destroy id =>
    simp only [act, ProfileStore.destroy]
    cases hlive : s.get? id with
    | none => exact .idle _ rfl
    | some p => exact .destroyed id p hlive
  | destroyAll => exact .emptied
  | update id u =>
    simp only [act, ProfileStore.update]
    cases s.get? id with
    | none => exact .idle _ rfl
    | some p =>
      exact .touched _ id (·.apply u) (fun q => ⟨q.folder_apply u, q.flags_apply u⟩) rfl

/-! ## 4. The changes keep the store in step -/

section Steps

variable {s : ProfileStore}

/-- What is found in a store after a change of one profile. -/
theorem get?_touch {id j : ProfileId} {f : Profile → Profile} {q : Profile} (hf : Mild f)
    (hq : (s.touch id f).get? j = some q) :
    ∃ p, s.get? j = some p ∧ q.folder = p.folder ∧ q.flags = p.flags := by
  simp only [touch, get?, Table.get?_adjust] at hq
  split at hq
  · obtain ⟨p, hp, rfl⟩ := Option.map_eq_some_iff.1 hq
    exact ⟨p, hp, hf p⟩
  · exact ⟨q, hq, rfl, rfl⟩

/-- A change of one profile leaves the live ones alive, with their folders. -/
theorem has_touch {id j : ProfileId} {f : Profile → Profile} (hf : Mild f)
    (place : Folder.Place) : (s.touch id f).Has j place ↔ s.Has j place := by
  constructor
  · rintro ⟨q, folder, hq, hfolder, hplace⟩
    obtain ⟨p, hp, hsame, _⟩ := get?_touch hf hq
    exact ⟨p, folder, hp, hsame ▸ hfolder, hplace⟩
  · rintro ⟨p, folder, hp, hfolder, hplace⟩
    have hp : s.profiles.get? j = some p := hp
    by_cases hj : j = id
    · exact ⟨f p, folder, by simp [touch, get?, hj, hj ▸ hp], ((hf p).1).trans hfolder, hplace⟩
    · exact ⟨p, folder, by simp [touch, get?, hj, hp], hfolder, hplace⟩

/-- What is found in a store with one more profile. -/
theorem get?_withNew (p : Profile) (byFolder : Table Folder.Place ProfileId) (j : ProfileId) :
    (s.withNew p byFolder).get? j = if j = ⟨s.nextId⟩ then some p else s.get? j := by
  simp [get?, withNew]

/-- Who has which folder in a store with one more profile. -/
theorem Indexed.has_withNew (h : s.Indexed) (p : Profile)
    (byFolder : Table Folder.Place ProfileId) (j : ProfileId) (place : Folder.Place) :
    (s.withNew p byFolder).Has j place
      ↔ s.Has j place ∨ j = ⟨s.nextId⟩ ∧ p.folder.map Folder.components = some place := by
  unfold Has
  rw [get?_withNew]
  by_cases hj : j = ⟨s.nextId⟩
  · subst hj
    simp [h.get?_next]
  · simp [hj]

/-- The identities of live profiles have been given out, also of the new one. -/
theorem Indexed.given_withNew (h : s.Indexed) (p : Profile)
    (byFolder : Table Folder.Place ProfileId) (j : ProfileId) (q : Profile)
    (hq : (s.withNew p byFolder).get? j = some q) : j.value < s.nextId + 1 := by
  rw [get?_withNew] at hq
  split at hq
  · next hj => exact hj ▸ Nat.lt_succ_self _
  · exact Nat.lt_succ_of_lt (h.given j q hq)

/-- What is found in a store without a profile. -/
theorem get?_without (id : ProfileId) (byFolder : Table Folder.Place ProfileId) (j : ProfileId) :
    (s.without id byFolder).get? j = if j = id then none else s.get? j := by
  simp [get?, without]

/-- Who has which folder in a store without a profile. -/
theorem has_without (id : ProfileId) (byFolder : Table Folder.Place ProfileId) (j : ProfileId)
    (place : Folder.Place) :
    (s.without id byFolder).Has j place ↔ j ≠ id ∧ s.Has j place := by
  unfold Has
  rw [get?_without]
  by_cases hj : j = id <;> simp [hj]

/-- A profile that is made for a folder takes a place in the table that was free. -/
theorem Indexed.founded {folder : String} (h : s.Indexed) (hfind : s.find? folder = none)
    (place : Folder.Place) (j : ProfileId) :
    (s.byFolder.insert (Folder.components folder) ⟨s.nextId⟩).get? place = some j
      ↔ s.Has j place ∨ j = ⟨s.nextId⟩ ∧
        (some folder).map Folder.components = some place := by
  have hfree : ¬ s.Has j (Folder.components folder) := by
    rw [← h.index]
    simpa [find?] using fun hget => nomatch hfind.symm.trans hget
  rw [Table.get?_insert]
  by_cases hplace : place = Folder.components folder
  · subst hplace
    simp [hfree, eq_comm]
  · have hother : ¬ Folder.components folder = place := fun heq => hplace heq.symm
    simp [hplace, hother, h.index]

/-- A profile that goes away takes its own folder out of the table, and no other. -/
theorem Indexed.destroyed {id : ProfileId} {p : Profile} (h : s.Indexed)
    (hlive : s.get? id = some p) (place : Folder.Place) (j : ProfileId) :
    (s.foldersWithout p).get? place = some j ↔ j ≠ id ∧ s.Has j place := by
  unfold foldersWithout
  cases hfolder : p.folder with
  | none =>
    have hnot : ¬ s.Has id place := by
      rintro ⟨q, folder, hq, hqfolder, _⟩
      rw [hlive, Option.some.injEq] at hq
      rw [← hq, hfolder] at hqfolder
      cases hqfolder
    rw [h.index]
    refine ⟨fun hhas => ⟨?_, hhas⟩, fun hhas => hhas.2⟩
    rintro rfl
    exact hnot hhas
  | some folder =>
    have hid : s.byFolder.get? (Folder.components folder) = some id :=
      (h.index _ _).2 ⟨p, folder, hlive, hfolder, rfl⟩
    rw [Table.get?_erase]
    by_cases hplace : place = Folder.components folder
    · subst hplace
      rw [if_pos rfl, ← h.index, hid]
      simp [eq_comm]
    · rw [if_neg hplace, h.index]
      refine ⟨fun hhas => ⟨?_, hhas⟩, fun hhas => hhas.2⟩
      rintro rfl
      obtain ⟨q, folder', hq, hqfolder, hqplace⟩ := hhas
      rw [hlive, Option.some.injEq] at hq
      rw [← hq, hfolder, Option.some.injEq] at hqfolder
      exact hplace (hqfolder ▸ hqplace.symm)

/-- **Every change keeps the two ways to find a profile in step.** -/
theorem Change.indexed {a : Act} {s' : ProfileStore} (hc : s.Change a s') (h : s.Indexed) :
    s'.Indexed := by
  cases hc with
  | idle => exact h
  | touched _ id f hf =>
    refine ⟨fun place j => (h.index place j).trans (has_touch hf place).symm, fun j q hq => ?_⟩
    obtain ⟨p, hp, _⟩ := get?_touch hf hq
    exact h.given j p hp
  | incognito =>
    refine ⟨fun place j => ?_, h.given_withNew _ _⟩
    rw [h.has_withNew]
    exact (h.index place j).trans (by simp)
  | founded folder flags _ hfind =>
    refine ⟨fun place j => ?_, h.given_withNew _ _⟩
    rw [h.has_withNew]
    exact h.founded hfind place j
  | destroyed id p hlive =>
    refine ⟨fun place j => ?_, fun j q hq => ?_⟩
    · rw [has_without]
      exact h.destroyed hlive place j
    · rw [get?_without] at hq
      split at hq
      · cases hq
      · exact h.given j q hq
  | emptied =>
    exact ⟨fun place j => by simp [destroyAll, Has, get?],
      fun j q hq => by simp [destroyAll, get?] at hq⟩

/-- **Every change keeps the profiles what they are.** -/
theorem Change.keeps {a : Act} {s' : ProfileStore} (hc : s.Change a s') : s.Keeps s' := by
  cases hc with
  | idle => exact .refl s
  | touched _ id f hf => exact ⟨Nat.le_refl _, fun j q _ hq => get?_touch hf hq⟩
  | incognito | founded =>
    refine ⟨Nat.le_succ _, fun j q hlt hq => ⟨q, ?_, rfl, rfl⟩⟩
    have hne : j ≠ ⟨s.nextId⟩ := by
      rintro rfl
      exact Nat.lt_irrefl _ hlt
    rwa [get?_withNew, if_neg hne] at hq
  | destroyed id p hlive =>
    refine ⟨Nat.le_refl _, fun j q _ hq => ⟨q, ?_, rfl, rfl⟩⟩
    rw [get?_without] at hq
    split at hq
    · cases hq
    · exact hq
  | emptied =>
    refine ⟨Nat.le_refl _, fun j q _ hq => ?_⟩
    simp [destroyAll, get?] at hq

/-- **A change gives out the next identity or none.** -/
theorem Change.made {a : Act} {s' : ProfileStore} (hc : s.Change a s') :
    (s.made? a = none ∧ s'.nextId = s.nextId) ∨
    (s.made? a = some ⟨s.nextId⟩ ∧ s'.nextId = s.nextId + 1) := by
  cases hc with
  | idle _ hmade | touched _ _ _ _ hmade => exact .inl ⟨hmade, rfl⟩
  | incognito _ _ _ hmade | founded _ _ _ _ hmade => exact .inr ⟨hmade, rfl⟩
  | destroyed | emptied => exact .inl ⟨rfl, rfl⟩

/-- **Nothing else ends a profile** than its own destruction and that of all. -/
theorem Change.live {a : Act} {s' : ProfileStore} {id : ProfileId} (hc : s.Change a s')
    (hall : a ≠ .destroyAll) (hone : a ≠ .destroy id) (hopen : s.closed = false)
    (hlive : (s.get? id).isSome) : s'.closed = false ∧ (s'.get? id).isSome := by
  cases hc with
  | idle => exact ⟨hopen, hlive⟩
  | touched _ j f =>
    refine ⟨hopen, ?_⟩
    simp only [touch, get?, Table.get?_adjust] at hlive ⊢
    split <;> simpa using hlive
  | incognito | founded =>
    refine ⟨hopen, ?_⟩
    rw [get?_withNew]
    split
    · rfl
    · exact hlive
  | destroyed j =>
    have hne : id ≠ j := by
      rintro rfl
      exact hone rfl
    exact ⟨hopen, by rwa [get?_without, if_neg hne]⟩
  | emptied => exact absurd rfl hall

end Steps

/-! ## 5. Runs -/

/-- The store stays in step in every run. -/
theorem Indexed.run {s : ProfileStore} (h : s.Indexed) (acts : List Act) :
    (s.run acts).Indexed := by
  induction acts generalizing s with
  | nil => exact h
  | cons a rest ih => exact ih ((change_act h a).indexed h)

/-- The profiles stay what they are in every run. -/
theorem Indexed.keeps {s : ProfileStore} (h : s.Indexed) (acts : List Act) :
    s.Keeps (s.run acts) := by
  induction acts generalizing s with
  | nil => exact .refl s
  | cons a rest ih =>
    have hc := change_act h a
    exact hc.keeps.trans (ih (hc.indexed h))

/-- **The identities that a run gives out follow on each other.** -/
theorem Indexed.made {s : ProfileStore} (h : s.Indexed) (acts : List Act) :
    s.made acts = (List.range' s.nextId (s.made acts).length).map .mk ∧
      (s.run acts).nextId = s.nextId + (s.made acts).length := by
  induction acts generalizing s with
  | nil => exact ⟨rfl, rfl⟩
  | cons a rest ih =>
    have hc := change_act h a
    obtain ⟨hrest, hnext⟩ := ih (hc.indexed h)
    have hstep : s.run (a :: rest) = (s.act a).run rest := rfl
    rcases hc.made with ⟨hnone, hsame⟩ | ⟨hsome, hmore⟩
    · have hmade : s.made (a :: rest) = (s.act a).made rest := by simp [ProfileStore.made, hnone]
      rw [hmade, hstep]
      exact hsame ▸ ⟨hrest, hnext⟩
    · have hmade : s.made (a :: rest) = ⟨s.nextId⟩ :: (s.act a).made rest := by
        simp [ProfileStore.made, hsome]
      rw [hmade, hstep, hnext, List.length_cons, List.range'_succ, List.map_cons, ← hmore]
      exact ⟨congrArg _ hrest, by omega⟩

/-- A profile that nobody destroys lives through a run. -/
theorem Indexed.live {s : ProfileStore} {id : ProfileId} (h : s.Indexed) {acts : List Act}
    (hacts : ∀ a ∈ acts, a ≠ .destroyAll ∧ a ≠ .destroy id) (hopen : s.closed = false)
    (hlive : (s.get? id).isSome) :
    (s.run acts).closed = false ∧ ((s.run acts).get? id).isSome := by
  induction acts generalizing s with
  | nil => exact ⟨hopen, hlive⟩
  | cons a rest ih =>
    have hc := change_act h a
    obtain ⟨hall, hone⟩ := hacts a List.mem_cons_self
    obtain ⟨hopen', hlive'⟩ := hc.live hall hone hopen hlive
    exact ih (hc.indexed h) (fun b hb => hacts b (List.mem_cons_of_mem _ hb)) hopen' hlive'

/-! ## 6. Obtaining a folder -/

/-- **The profile of a folder in the table is never missing.** -/
theorem Indexed.obtain_ne_unknown {s : ProfileStore} (h : s.Indexed) (folder : String)
    (flags : ProfileFlags) (failure : Option String) (n : Nat) :
    (s.obtain folder flags failure).1 ≠ .error (.unknownProfile n) := by
  unfold ProfileStore.obtain
  split
  · simp
  · split
    · cases failure <;> simp [obtainIncognito, Fault.whileDoing]
    · split
      · next id hfind =>
        obtain ⟨p, hlive⟩ := h.live_of_find hfind
        simp [hlive]
      · cases failure <;> simp [obtainNew, Fault.whileDoing]

/-- What obtaining a folder gives has that folder, and can be given again. -/
theorem Indexed.obtain_folder {s s' : ProfileStore} {folder : String} {flags : ProfileFlags}
    {failure : Option String} {id : ProfileId} (h : s.Indexed) (hfolder : folder ≠ "")
    (hob : s.obtain folder flags failure = (.ok id, s')) :
    s'.closed = false ∧ s'.Has id (Folder.components folder) := by
  have hc := s.obtains folder flags failure
  rw [hob] at hc
  cases hc with
  | shared _ p hopen _ hfind =>
    refine ⟨hopen, ?_⟩
    have hhas : s.Has id (Folder.components folder) := (h.index _ _).1 hfind
    exact (has_touch (f := oneMore) (fun _ => ⟨rfl, rfl⟩) _).2 hhas
  | incognito _ hempty => exact absurd (String.isEmpty_iff.1 hempty) hfolder
  | made hopen => exact ⟨hopen, (h.has_withNew _ _ _ _).2 (.inr ⟨rfl, rfl⟩)⟩

/-- A folder that a live profile has gives that profile. -/
theorem Indexed.obtain_shared {s : ProfileStore} {folder : String} {id : ProfileId}
    (h : s.Indexed) (hopen : s.closed = false) (hfolder : folder ≠ "")
    (hhas : s.Has id (Folder.components folder)) (flags : ProfileFlags)
    (failure : Option String) : (s.obtain folder flags failure).1 = .ok id := by
  have hfind : s.find? folder = some id := (h.index _ _).2 hhas
  obtain ⟨p, hlive⟩ := h.live_of_find hfind
  have hne : folder.isEmpty = false := by simpa [String.isEmpty_iff] using hfolder
  simp [ProfileStore.obtain, hopen, hne, hfind, hlive]

/-- An empty folder gives a new profile that leaves nothing behind. -/
theorem Indexed.obtain_empty {s s' : ProfileStore} {flags : ProfileFlags}
    {failure : Option String} {id : ProfileId} (h : s.Indexed)
    (hob : s.obtain "" flags failure = (.ok id, s')) :
    s.get? id = none ∧ s'.get? id = some { folder := none, flags := {} } := by
  have hc := s.obtains "" flags failure
  rw [hob] at hc
  cases hc with
  | shared _ _ _ hempty | made _ hempty => exact absurd hempty (by decide)
  | incognito =>
    exact ⟨h.get?_next, (get?_withNew _ s.byFolder _).trans (if_pos rfl)⟩

/-! ## 7. Identity -/

/-- **Who the profiles are in the store that a run leads to.** -/
structure Identified (acts : List Act) (s : ProfileStore) : Prop where
  /-- A folder belongs to exactly the live profile that has it. -/
  index : ∀ place id, s.byFolder.get? place = some id ↔ s.Has id place
  /-- No two live profiles have one folder. -/
  apart : ∀ place id id', s.Has id place → s.Has id' place → id = id'
  /-- Obtaining a folder never misses the profile it belongs to. -/
  found : ∀ folder flags failure n,
    (s.obtain folder flags failure).1 ≠ .error (.unknownProfile n)
  /-- New profiles have had the identities from zero on, each of them once. -/
  fresh : made {} acts = (List.range s.nextId).map .mk
  /-- An empty folder gives a new profile without flags, which no folder leads to. -/
  incognito : ∀ flags failure id s', s.obtain "" flags failure = (.ok id, s') →
    s.get? id = none ∧ s'.get? id = some { folder := none, flags := {} } ∧
      ∀ later place, (s'.run later).byFolder.get? place ≠ some id
  /-- One folder gives one profile until that is destroyed, however it is spelled. -/
  shared : ∀ folder flags failure id s' later folder' flags' failure',
    s.obtain folder flags failure = (.ok id, s') → folder ≠ "" → folder' ≠ "" →
    Folder.components folder = Folder.components folder' →
    (∀ a ∈ later, a ≠ .destroyAll ∧ a ≠ .destroy id) →
    ((s'.run later).obtain folder' flags' failure').1 = .ok id
  /-- A profile has the same folder and flags as long as it lives. -/
  lasting : ∀ later id p q, s.get? id = some p → (s.run later).get? id = some q →
    q.folder = p.folder ∧ q.flags = p.flags

/-- A profile that leaves nothing behind is never found by a folder. -/
theorem Indexed.incognito {s : ProfileStore} {id : ProfileId} {p : Profile} (h : s.Indexed)
    (hlive : s.get? id = some p) (hnone : p.folder = none) (later : List Act)
    (place : Folder.Place) : (s.run later).byFolder.get? place ≠ some id := by
  rw [ne_eq, (h.run later).index]
  rintro ⟨q, folder, hq, hfolder, _⟩
  obtain ⟨p', hp', hsame, _⟩ := (h.keeps later).same id q (h.given id p hlive) hq
  rw [hlive, Option.some.injEq] at hp'
  rw [hsame, ← hp', hnone] at hfolder
  cases hfolder

/-- What has a folder has it through every run in which it is not destroyed. -/
theorem Indexed.has_run {s : ProfileStore} {id : ProfileId} {place : Folder.Place}
    (h : s.Indexed) {later : List Act} (hlater : ∀ a ∈ later, a ≠ .destroyAll ∧ a ≠ .destroy id)
    (hopen : s.closed = false) (hhas : s.Has id place) :
    (s.run later).closed = false ∧ (s.run later).Has id place := by
  obtain ⟨p, folder, hp, hfolder, hplace⟩ := hhas
  obtain ⟨hstill, hlive⟩ := h.live hlater hopen (by rw [hp]; rfl)
  obtain ⟨q, hq⟩ := Option.isSome_iff_exists.1 hlive
  obtain ⟨p', hp', hsame, _⟩ := (h.keeps later).same id q (h.given id p hp) hq
  rw [hp, Option.some.injEq] at hp'
  exact ⟨hstill, q, folder, hq, by rw [hsame, ← hp', hfolder], hplace⟩

/-- **Profiles keep their identity in every run** of a store that starts empty. -/
theorem identified_run (acts : List Act) :
    Identified acts (({} : ProfileStore).run acts) := by
  have h : (({} : ProfileStore).run acts).Indexed := Indexed.empty.run acts
  generalize hs : ({} : ProfileStore).run acts = s at h
  refine
    { index := h.index, apart := ?_, found := h.obtain_ne_unknown, fresh := ?_, incognito := ?_,
      shared := ?_, lasting := ?_ }
  · intro place id id' hid hid'
    exact Option.some.inj (((h.index _ _).2 hid).symm.trans ((h.index _ _).2 hid'))
  · obtain ⟨hmade, hnext⟩ := Indexed.empty.made acts
    rw [hs] at hnext
    rw [hmade, hnext, List.range_eq_range', Nat.zero_add]
  · intro flags failure id s' hob
    obtain ⟨hnew, hlive⟩ := h.obtain_empty hob
    have h' : s'.Indexed := by
      have hc := (change_obtain h "" flags failure).indexed h
      rwa [hob] at hc
    exact ⟨hnew, hlive, h'.incognito hlive rfl⟩
  · intro folder flags failure id s' later folder' flags' failure' hob hne hne' hsame hlater
    have h' : s'.Indexed := by
      have hc := (change_obtain h folder flags failure).indexed h
      rwa [hob] at hc
    obtain ⟨hopen, hhas⟩ := h.obtain_folder hne hob
    obtain ⟨hstill, hhas'⟩ := h'.has_run hlater hopen hhas
    exact (h'.run later).obtain_shared hstill hne' (hsame ▸ hhas') flags' failure'
  · intro later id p q hp hq
    obtain ⟨p', hp', hfolder, hflags⟩ := (h.keeps later).same id q (h.given id p hp) hq
    rw [hp, Option.some.injEq] at hp'
    exact hp' ▸ ⟨hfolder, hflags⟩

end ProfileStore

end ControlPlane
