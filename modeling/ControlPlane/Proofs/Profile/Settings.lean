/-
# Who writes the settings of a profile

The settings of a profile are what the updates of it have made of them, in the order in which they
were carried out.  Nothing else that is done to a store touches them: not references that come and
go, and not what becomes of other profiles.

* `Profile.Alike`: two profiles that differ in their references at most;
* `ProfileStore.update_eq`: an update is the update of one profile, and of no other;
* `ProfileStore.settings_run`: a profile that lives through a run has the settings that the run's
  updates of it have made.
-/
import ControlPlane.Proofs.Profile.Identity

namespace ControlPlane

/-! ## 1. Profiles up to their references -/

namespace Profile

/-- **Two profiles differ in their references at most.** -/
def Alike (p q : Profile) : Prop := ∃ n, p = { q with references := n }

namespace Alike

variable {p q r : Profile}

/-- A profile is like itself. -/
theorem refl (p : Profile) : p.Alike p := ⟨p.references, rfl⟩

/-- What is like something that is like a profile is like that profile. -/
theorem trans (h : p.Alike q) (h' : q.Alike r) : p.Alike r := by
  obtain ⟨n, rfl⟩ := h
  obtain ⟨k, rfl⟩ := h'
  exact ⟨n, rfl⟩

/-- An update does the same to both. -/
theorem apply (h : p.Alike q) (u : ProfileUpdate) : (p.apply u).Alike (q.apply u) := by
  obtain ⟨n, rfl⟩ := h
  exact ⟨n, by cases u <;> rfl⟩

end Alike

/-- A profile after some updates, one after the other. -/
def applyAll (p : Profile) (us : List ProfileUpdate) : Profile := us.foldl Profile.apply p

/-- First some updates and then others. -/
theorem applyAll_append (p : Profile) (us vs : List ProfileUpdate) :
    p.applyAll (us ++ vs) = (p.applyAll us).applyAll vs := List.foldl_append ..

/-- Updates do the same to both. -/
theorem Alike.applyAll {p q : Profile} (h : p.Alike q) (us : List ProfileUpdate) :
    (p.applyAll us).Alike (q.applyAll us) := by
  induction us generalizing p q with
  | nil => exact h
  | cons u us ih => exact ih (h.apply u)

end Profile

namespace ProfileStore

/-! ## 2. Updates -/

/-- An update of a profile, if an act is one. -/
def Act.update? : Act → Option (ProfileId × ProfileUpdate)
  | .update id u => some (id, u)
  | _ => none

/-- The updates of one profile. -/
def updatesOf (id : ProfileId) (us : List (ProfileId × ProfileUpdate)) : List ProfileUpdate :=
  us.filterMap fun x => if x.1 = id then some x.2 else none

/-- First some updates and then others. -/
theorem updatesOf_append (id : ProfileId) (us vs : List (ProfileId × ProfileUpdate)) :
    updatesOf id (us ++ vs) = updatesOf id us ++ updatesOf id vs := List.filterMap_append

/-- **An update of a live profile** changes what is found under its identity, and nothing else. -/
theorem update_eq {s : ProfileStore} {id : ProfileId} {p : Profile} (hp : s.get? id = some p)
    (u : ProfileUpdate) :
    s.update id u = some { s with profiles := s.profiles.insert id (p.apply u) } := by
  have hget : s.profiles.get? id = some p := hp
  rw [update, hp, Table.adjust_eq_insert hget]

/-- An update of a profile that is gone changes nothing. -/
theorem update_gone {s : ProfileStore} {id : ProfileId} (hgone : s.get? id = none)
    (u : ProfileUpdate) : s.update id u = none := by
  rw [update, hgone]

/-! ## 3. Runs -/

section Runs

variable {s : ProfileStore} {id : ProfileId} {q : Profile}

/-- A profile with its references changed is like itself, and so is every other one. -/
theorem alike_touch {j : ProfileId} {f : Profile → Profile} (hf : ∀ p, (f p).Alike p)
    (hq : (s.touch j f).get? id = some q) : ∃ p, s.get? id = some p ∧ q.Alike p := by
  simp only [touch, get?, Table.get?_adjust] at hq
  split at hq
  · obtain ⟨p, hp, rfl⟩ := Option.map_eq_some_iff.1 hq
    exact ⟨p, hp, hf p⟩
  · exact ⟨q, hq, .refl q⟩

/-- **An act leaves the settings of a profile alone**, unless it is an update of it. -/
theorem settings_act (hlt : id.value < s.nextId) (a : Act) (hq : (s.act a).get? id = some q) :
    ∃ p, s.get? id = some p ∧ q.Alike (p.applyAll (updatesOf id a.update?.toList)) := by
  have hkept : ∀ {p : Profile}, s.get? id = some p → q.Alike p →
      ∃ p, s.get? id = some p ∧ q.Alike (p.applyAll []) := fun hp halike => ⟨_, hp, halike⟩
  have hnew : ∀ {p : Profile} {byFolder : Table Folder.Place ProfileId},
      (s.withNew p byFolder).get? id = some q → s.get? id = some q := by
    intro p byFolder hq
    have hne : id ≠ ⟨s.nextId⟩ := by
      rintro rfl
      exact Nat.lt_irrefl _ hlt
    rwa [get?_withNew, if_neg hne] at hq
  cases a with
  | obtain folder flags failure =>
    have hcase := s.obtains folder flags failure
    simp only [act] at hq
    generalize s.obtain folder flags failure = x at hcase hq
    cases hcase with
    | failed => exact hkept hq (.refl q)
    | shared j =>
      obtain ⟨p, hp, halike⟩ := alike_touch (f := oneMore) (fun p => ⟨p.references + 1, rfl⟩) hq
      exact hkept hp halike
    | incognito | made => exact hkept (hnew hq) (.refl q)
  | release j =>
    simp only [act, ProfileStore.release] at hq
    cases hj : s.get? j with
    | none =>
      rw [hj] at hq
      exact hkept hq (.refl q)
    | some p' =>
      rw [hj] at hq
      obtain ⟨p, hp, halike⟩ := alike_touch (j := j)
        (f := fun p => { p with references := p.references - 1 })
        (fun p => ⟨p.references - 1, rfl⟩) hq
      exact hkept hp halike
  | destroy j =>
    simp only [act, ProfileStore.destroy] at hq
    cases hj : s.get? j with
    | none =>
      rw [hj] at hq
      exact hkept hq (.refl q)
    | some p =>
      rw [hj] at hq
      have hq' : (s.without j (s.foldersWithout p)).get? id = some q := hq
      rw [get?_without] at hq'
      split at hq'
      · cases hq'
      · exact hkept hq' (.refl q)
  | destroyAll => simp [act, destroyAll, get?] at hq
  | update j u =>
    simp only [act] at hq
    cases hj : s.get? j with
    | none =>
      rw [update_gone hj] at hq
      have hne : j ≠ id := by
        rintro rfl
        rw [Option.getD_none, hj] at hq
        cases hq
      exact ⟨q, hq, by simp [Act.update?, updatesOf, hne, Profile.applyAll, Profile.Alike.refl]⟩
    | some p =>
      rw [update_eq hj] at hq
      simp only [get?, Option.getD_some, Table.get?_insert] at hq
      by_cases hid : id = j
      · subst hid
        simp only [if_true, Option.some.injEq] at hq
        exact ⟨p, hj, by simp [Act.update?, updatesOf, Profile.applyAll, ← hq, Profile.Alike.refl]⟩
      · rw [if_neg hid] at hq
        refine ⟨q, hq, ?_⟩
        simp [Act.update?, updatesOf, Ne.symm hid, Profile.applyAll, Profile.Alike.refl]

/-- **A profile that lives through a run has the settings that the run's updates of it have
made.** -/
theorem settings_run (h : s.Indexed) (hlt : id.value < s.nextId) (acts : List Act)
    (hq : (s.run acts).get? id = some q) :
    ∃ p, s.get? id = some p
      ∧ q.Alike (p.applyAll (updatesOf id (acts.filterMap Act.update?))) := by
  induction acts generalizing s with
  | nil => exact ⟨q, hq, .refl q⟩
  | cons a rest ih =>
    have hc := change_act h a
    obtain ⟨p', hp', halike'⟩ := ih (hc.indexed h) (Nat.lt_of_lt_of_le hlt hc.keeps.next) hq
    obtain ⟨p, hp, halike⟩ := settings_act hlt a hp'
    refine ⟨p, hp, halike'.trans ?_⟩
    have hsplit : (a :: rest).filterMap Act.update?
        = a.update?.toList ++ rest.filterMap Act.update? := by
      rw [List.filterMap_cons]
      cases a.update? <;> rfl
    rw [hsplit, updatesOf_append, Profile.applyAll_append]
    exact halike.applyAll _

end Runs

end ProfileStore

end ControlPlane
