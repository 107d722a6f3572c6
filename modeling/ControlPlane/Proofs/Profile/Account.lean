/-
# The account of a profile store

A store counts, for each profile, the references that somebody holds to it.  Whether the counts
are right can only be said against the holders, so this file speaks of a store and a function
that says how many holders each profile has:

* `ProfileStore.Accounts s holders`: every live profile of `s` counts exactly its holders, and
  identities that are not given out yet have none.

One lemma for each operation says for which holders the store accounts afterwards.  A release is
stated the other way round: a store that accounts for one holder more than `holders` says accounts
for `holders` after the release.  So no lemma subtracts, and a release that found a count of zero
would have no lemma.

`ProfileStore.Obtains` lists what obtaining a folder can come to; all later proofs go by it and
never open `obtain`.
-/
import ControlPlane.Proofs.Table
import ControlPlane.Profile.Route

namespace ControlPlane

namespace ProfileStore

/-! ## 1. What obtaining a folder can come to -/

/-- A profile with one more reference. -/
def oneMore (p : Profile) : Profile := { p with references := p.references + 1 }

/-- **What obtaining a folder can come to.**  A failure changes nothing, whatever its reason. -/
inductive Obtains (s : ProfileStore) (folder : String) (flags : ProfileFlags) :
    Except Fault ProfileId × ProfileStore → Prop
  | failed (e : Fault) : Obtains s folder flags (.error e, s)
  /-- A live profile has the folder, and gets another reference. -/
  | shared (id : ProfileId) (p : Profile) (hopen : s.closed = false)
      (hfolder : folder.isEmpty = false) (hfind : s.find? folder = some id)
      (hlive : s.get? id = some p) :
      Obtains s folder flags (.ok id, { s with profiles := s.profiles.adjust id oneMore })
  /-- A new profile leaves nothing behind. -/
  | incognito (hopen : s.closed = false) (hfolder : folder.isEmpty = true) :
      Obtains s folder flags (.ok ⟨s.nextId⟩, (s.add { folder := none, flags := {} }).2)
  /-- A new profile has the folder from now on. -/
  | made (hopen : s.closed = false) (hfolder : folder.isEmpty = false)
      (hfind : s.find? folder = none) :
      Obtains s folder flags
        (.ok ⟨s.nextId⟩,
          { (s.add { folder := some folder, flags }).2 with
            byFolder := s.byFolder.insert (Folder.components folder) ⟨s.nextId⟩ })

/-- Obtaining a folder comes to one of these. -/
theorem obtains (s : ProfileStore) (folder : String) (flags : ProfileFlags)
    (failure : Option String) : Obtains s folder flags (s.obtain folder flags failure) := by
  unfold obtain
  split
  · exact .failed _
  · next hopen =>
    have hopen : s.closed = false := by simpa using hopen
    split
    · next hfolder =>
      cases failure with
      | some text => exact .failed _
      | none => exact .incognito hopen hfolder
    · next hfolder =>
      have hfolder : folder.isEmpty = false := by simpa using hfolder
      split
      · next id hfind =>
        split
        · next hsome =>
          obtain ⟨p, hlive⟩ := Option.isSome_iff_exists.1 hsome
          exact .shared id p hopen hfolder hfind hlive
        · exact .failed _
      · next hfind =>
        cases failure with
        | some text => exact .failed _
        | none => exact .made hopen hfolder hfind

/-- A hold on a profile that cannot be had changes nothing. -/
theorem obtainRoute_error {s s' : ProfileStore} {r : ProfileRequest} {failure : Option String}
    {e : Fault} (hob : ProfileRoute.obtain s r failure = (.error e, s')) : s' = s := by
  have hcase := s.obtains r.directory ⟨r.diskCache, r.cookies⟩ failure
  unfold ProfileRoute.obtain at hob
  split at hob
  · cases hob
  · next e' store hstore =>
    rw [hstore] at hcase
    simp only [Prod.mk.injEq] at hob
    cases hcase with
    | failed => exact hob.2.symm

/-- A hold on a profile that is had is one on a live profile. -/
theorem obtainRoute_live {s s' : ProfileStore} {q : ProfileRequest} {failure : Option String}
    {r : ProfileRoute} (hob : ProfileRoute.obtain s q failure = (.ok r, s')) :
    ∃ p, s'.get? r.profile = some p := by
  have hcase := s.obtains q.directory ⟨q.diskCache, q.cookies⟩ failure
  unfold ProfileRoute.obtain at hob
  split at hob
  · next id store hstore =>
    rw [hstore] at hcase
    simp only [Prod.mk.injEq, Except.ok.injEq] at hob
    obtain ⟨rfl, rfl⟩ := hob
    cases hcase with
    | shared _ p _ _ _ hlive =>
      have hget : s.profiles.get? id = some p := hlive
      exact ⟨oneMore p, by simp [get?, hget]⟩
    | incognito | made => exact ⟨_, by simp [get?, add]; rfl⟩
  · cases hob

/-! ## 2. Stores that account for their holders -/

/-- The holders of one profile, as a function on all profiles. -/
def one (id : ProfileId) : ProfileId → Nat := fun j => if j = id then 1 else 0

/-- **Every live profile counts exactly its holders.**  `holders` says how many there are. -/
structure Accounts (s : ProfileStore) (holders : ProfileId → Nat) : Prop where
  /-- The count of a live profile is the number of its holders. -/
  exact : ∀ id p, s.get? id = some p → p.references = holders id
  /-- The identities of live profiles have been given out. -/
  given : ∀ id p, s.get? id = some p → id.value < s.nextId
  /-- Nobody holds a profile whose identity is not given out. -/
  unheld : ∀ id, s.nextId ≤ id.value → holders id = 0

/-- A new store accounts for no holder. -/
theorem accounts_empty : Accounts {} fun _ => 0 where
  exact id p h := by simp [get?] at h
  given id p h := by simp [get?] at h
  unheld _ _ := rfl

namespace Accounts

variable {s s' : ProfileStore} {holders : ProfileId → Nat}

/-- The holders matter only as numbers. -/
theorem congr {other : ProfileId → Nat} (h : s.Accounts holders)
    (heq : ∀ id, other id = holders id) : s.Accounts other := by
  have : other = holders := funext heq
  exact this ▸ h

/-- Nobody holds the profile that is made next. -/
theorem holders_next (h : s.Accounts holders) : holders ⟨s.nextId⟩ = 0 :=
  h.unheld _ (Nat.le_refl _)

/-- The identity of the profile that is made next is not that of a live one. -/
theorem get?_next (h : s.Accounts holders) : s.get? ⟨s.nextId⟩ = none := by
  cases hget : s.get? ⟨s.nextId⟩ with
  | none => rfl
  | some p => exact absurd (h.given _ p hget) (Nat.lt_irrefl _)

/-- **A new profile starts with one holder.**  Its folder does not matter. -/
theorem add {p : Profile} (h : s.Accounts holders) (hp : p.references = 1)
    (byFolder : Table Folder.Place ProfileId) :
    ({ (s.add p).2 with byFolder } : ProfileStore).Accounts
      fun j => holders j + one ⟨s.nextId⟩ j where
  exact id q hq := by
    simp only [get?, ProfileStore.add, Table.get?_insert] at hq
    by_cases hid : id = ⟨s.nextId⟩
    · subst hid
      simp at hq
      simp [one, h.holders_next, ← hq, hp]
    · rw [if_neg hid] at hq
      simp [one, hid, h.exact id q hq]
  given id q hq := by
    simp only [get?, ProfileStore.add, Table.get?_insert] at hq ⊢
    by_cases hid : id = ⟨s.nextId⟩
    · subst hid
      exact Nat.lt_succ_self _
    · rw [if_neg hid] at hq
      exact Nat.lt_succ_of_lt (h.given id q hq)
  unheld id hid := by
    have hlt : s.nextId < id.value := hid
    have hne : id ≠ ⟨s.nextId⟩ := by
      rintro rfl
      exact Nat.lt_irrefl _ hlt
    simp [one, hne, h.unheld id (Nat.le_of_lt hlt)]

/-- **A change of one profile that adds `k` to its count** accounts for `k` more holders of it. -/
theorem adjust {id : ProfileId} {f : Profile → Profile} {p : Profile} {k : Nat}
    (h : s.Accounts holders) (hlive : s.get? id = some p)
    (hf : ∀ q, (f q).references = q.references + k) :
    ({ s with profiles := s.profiles.adjust id f } : ProfileStore).Accounts
      fun j => holders j + k * one id j where
  exact j q hq := by
    simp only [get?, Table.get?_adjust] at hq
    by_cases hj : j = id
    · subst hj
      rw [if_pos rfl] at hq
      obtain ⟨r, hr, rfl⟩ := Option.map_eq_some_iff.1 hq
      simp [one, hf, h.exact j r hr]
    · rw [if_neg hj] at hq
      simp [one, hj, h.exact j q hq]
  given j q hq := by
    simp only [get?, Table.get?_adjust] at hq
    by_cases hj : j = id
    · subst hj
      exact h.given j p hlive
    · rw [if_neg hj] at hq
      exact h.given j q hq
  unheld j hj := by
    have hne : j ≠ id := by
      rintro rfl
      exact absurd (h.given j p hlive) (Nat.not_lt.2 hj)
    simp [one, hne, h.unheld j hj]

/-- **Obtaining a folder adds one holder** of the profile it gives. -/
theorem obtain {folder : String} {flags : ProfileFlags} {failure : Option String}
    {id : ProfileId} (h : s.Accounts holders)
    (hob : s.obtain folder flags failure = (.ok id, s')) :
    s'.Accounts fun j => holders j + one id j := by
  have hcase := s.obtains folder flags failure
  rw [hob] at hcase
  cases hcase with
  | shared _ p _ _ _ hlive =>
    exact (h.adjust hlive fun _ => rfl).congr fun j => by simp
  | incognito => exact h.add rfl _
  | made => exact h.add rfl _

/-- A client's hold on a profile adds one holder of it. -/
theorem obtainRoute {r : ProfileRequest} {failure : Option String} {route : ProfileRoute}
    (h : s.Accounts holders) (hob : ProfileRoute.obtain s r failure = (.ok route, s')) :
    s'.Accounts fun j => holders j + one route.profile j := by
  unfold ProfileRoute.obtain at hob
  split at hob
  · next id store hstore =>
    simp only [Prod.mk.injEq, Except.ok.injEq] at hob
    obtain ⟨rfl, rfl⟩ := hob
    exact h.obtain hstore
  · cases hob

/-- An update of the settings changes no holder. -/
theorem update {id : ProfileId} {u : ProfileUpdate} (h : s.Accounts holders)
    (hu : s.update id u = some s') : s'.Accounts holders := by
  unfold ProfileStore.update at hu
  split at hu
  · next p hlive =>
    injection hu with hu
    subst hu
    exact (h.adjust (k := 0) hlive fun q => by simp).congr fun j => by simp
  · cases hu

/-- **Destroying a profile changes no holder**: whoever held it holds a profile that is gone. -/
theorem destroy {id : ProfileId} (h : s.Accounts holders) (hd : s.destroy id = .ok s') :
    s'.Accounts holders := by
  unfold ProfileStore.destroy at hd
  split at hd
  · injection hd with hd
    subst hd
    refine ⟨?_, ?_, h.unheld⟩
    · intro j q hq
      simp only [get?, Table.get?_erase] at hq
      split at hq
      · cases hq
      · exact h.exact j q hq
    · intro j q hq
      simp only [get?, Table.get?_erase] at hq
      split at hq
      · cases hq
      · exact h.given j q hq
  · cases hd

/-- Destroying all profiles changes no holder either. -/
theorem destroyAll (h : s.Accounts holders) : s.destroyAll.Accounts holders where
  exact id p hp := by simp [get?, ProfileStore.destroyAll] at hp
  given id p hp := by simp [get?, ProfileStore.destroyAll] at hp
  unheld := h.unheld

/-! ## 3. Releases -/

/-- A live profile that has a holder counts at least one reference. -/
theorem references_pos {r : ProfileRoute} {p : Profile}
    (h : s.Accounts fun j => holders j + one r.profile j) (hlive : s.get? r.profile = some p) :
    0 < p.references := by
  have hexact := h.exact r.profile p hlive
  simp only [one, if_pos] at hexact
  omega

/-- **A release takes away one holder.**  A profile that is gone has no count to change. -/
theorem release {r : ProfileRoute} (h : s.Accounts fun j => holders j + one r.profile j) :
    (r.release s).Accounts holders := by
  have hunheld : ∀ id, s.nextId ≤ id.value → holders id = 0 := by
    intro id hid
    have hsum : holders id + one r.profile id = 0 := h.unheld id hid
    omega
  have hother : ∀ id p, id ≠ r.profile → s.get? id = some p → p.references = holders id := by
    intro id p hne hp
    have hexact := h.exact id p hp
    simpa [one, hne] using hexact
  cases hlive : s.get? r.profile with
  | none =>
    have hkeep : r.release s = s := by simp [ProfileRoute.release, ProfileStore.release, hlive]
    rw [hkeep]
    refine ⟨?_, h.given, hunheld⟩
    intro id p hp
    refine hother id p ?_ hp
    rintro rfl
    rw [hlive] at hp
    cases hp
  | some q =>
    have hq : q.references = holders r.profile + 1 := by
      simpa [one] using h.exact r.profile q hlive
    have hstep : r.release s = { s with profiles := s.profiles.adjust r.profile fun p =>
        { p with references := p.references - 1 } } := by
      simp [ProfileRoute.release, ProfileStore.release, hlive]
    rw [hstep]
    refine ⟨?_, ?_, hunheld⟩
    · intro id p hp
      simp only [get?, Table.get?_adjust] at hp
      by_cases hid : id = r.profile
      · subst hid
        rw [if_pos rfl] at hp
        obtain ⟨p', hp', rfl⟩ := Option.map_eq_some_iff.1 hp
        have hsame : p' = q := Option.some.inj (hp'.symm.trans hlive)
        simp [hsame, hq]
      · rw [if_neg hid] at hp
        exact hother id p hid hp
    · intro id p hp
      simp only [get?, Table.get?_adjust] at hp
      by_cases hid : id = r.profile
      · subst hid
        exact h.given r.profile q hlive
      · rw [if_neg hid] at hp
        exact h.given id p hp

end Accounts

end ProfileStore

end ControlPlane
