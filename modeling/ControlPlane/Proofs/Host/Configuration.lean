/-
# How profiles come by their settings

A profile is made by one deed, with nothing set, and from then on its settings are what the updates
of it have made of them: by messages to routes that refer to it, whichever client holds them, and by
the application.

* `ProfileStore.unset_run`: a profile that comes up in a run has nothing set;
* `Host.Born`, `exists_born`: the deed that makes a profile;
* `Host.paired_updatesDuring`: corrections that come by messages come in pairs;
* `Host.Configured`, `last_writer_wins`: the settings of a live profile, by the updates since then.

That a profile has nothing set when it comes up does not follow from how it is made alone: the deed
that makes it could also update it.  No deed does (`Host.updates_of_born`).
-/
import ControlPlane.Proofs.Host.Deeds
import ControlPlane.Proofs.Host.Isolation
import ControlPlane.Proofs.Message.Families
import ControlPlane.Proofs.Profile.LastWriter

namespace ControlPlane

open ProfileStore (updatesOf)

/-! ## 1. New profiles -/

namespace ProfileStore

variable {s : ProfileStore} {id : ProfileId} {p : Profile}

/-- **A profile that an act makes has nothing set.** -/
theorem unset_act (h : s.Indexed) (hunborn : s.nextId ≤ id.value) (a : Act)
    (hp : (s.act a).get? id = some p) : p.Unset := by
  have hnone : s.get? id = none := by
    cases hget : s.get? id with
    | none => rfl
    | some q => exact absurd (h.given id q hget) (Nat.not_lt.2 hunborn)
  have hc := change_act h a
  generalize s.act a = s' at hc hp
  cases hc with
  | idle => simp [hnone] at hp
  | touched _ j f =>
    simp only [touch, get?, Table.get?_adjust] at hp hnone
    split at hp <;> simp [hnone] at hp
  | incognito | founded =>
    rw [get?_withNew] at hp
    split at hp
    · cases hp
      exact ⟨rfl, rfl, rfl, rfl⟩
    · simp [hnone] at hp
  | destroyed j =>
    rw [get?_without] at hp
    split at hp
    · cases hp
    · simp [hnone] at hp
  | emptied => simp [destroyAll, get?] at hp

/-- **A profile that comes up in a run has nothing set**, if the run does not update it. -/
theorem unset_run (h : s.Indexed) (hunborn : s.nextId ≤ id.value) {acts : List Act}
    (hp : (s.run acts).get? id = some p)
    (hquiet : updatesOf id (acts.filterMap Act.update?) = []) : p.Unset := by
  induction acts generalizing s with
  | nil => exact absurd (h.given id p hp) (Nat.not_lt.2 hunborn)
  | cons a rest ih =>
    have hindexed := (change_act h a).indexed h
    have hrest : updatesOf id (rest.filterMap Act.update?) = [] := by
      rw [List.filterMap_cons] at hquiet
      split at hquiet
      · exact hquiet
      · rw [← List.singleton_append, updatesOf_append] at hquiet
        exact (List.append_eq_nil_iff.1 hquiet).2
    rcases Nat.lt_or_ge id.value (s.act a).nextId with hborn | hlater
    · obtain ⟨p', hp', halike⟩ := settings_run hindexed hborn rest hp
      rw [hrest] at halike
      exact (unset_act h hunborn a hp').of_alike halike
    · exact ih hindexed hlater hp hrest

end ProfileStore

/-! ## 2. The deed that makes a profile -/

namespace Host

variable {config : HostConfig}

/-- **The deed that makes a profile**: `before` it the identity had not been given out, and after it
the profile is there with nothing set. -/
structure Born (config : HostConfig) (before : List Deed) (d : Deed) (id : ProfileId)
    (p : Profile) : Prop where
  unborn : (after config before).profiles.nextId ≤ id.value
  live : (after config (before ++ [d])).profiles.get? id = some p
  unset : p.Unset

/-- **An update is asked for by the application itself, or by a message to a route of the
profile.** -/
theorem mem_updates {h : Host} {d : Deed} {id : ProfileId} {u : ProfileUpdate}
    (hx : (id, u) ∈ d.updates h) :
    d = .store (.update id u) ∨ ∃ pid m r, h.HasRoute pid m.address r ∧ r.profile = id
      ∧ ProfileUpdate.ofMessage m = .ok (some u) := by
  cases d with
  | store a =>
    cases a with
    | update =>
      cases List.mem_singleton.1 hx
      exact .inl rfl
    | obtain | release | destroy | destroyAll => cases hx
  | move mv =>
    simp only [Deed.updates] at hx
    split at hx
    · next pid m _ =>
      unfold routedUpdate at hx
      split at hx
      · cases hx
      · split at hx
        · next r u hroute hm =>
          cases List.mem_singleton.1 hx
          exact .inr ⟨pid, m, r, Option.bind_eq_some_iff.1 hroute, rfl, hm⟩
        · cases hx
    · cases hx

/-- **No deed updates the profile that it makes.** -/
theorem updates_of_born {before : List Deed} {d : Deed} {id : ProfileId} {p : Profile}
    (hunborn : (after config before).profiles.nextId ≤ id.value)
    (hlive : (after config (before ++ [d])).profiles.get? id = some p) :
    updatesOf id (d.updates (after config before)) = [] := by
  refine List.filterMap_eq_nil_iff.2 fun x hx => if_neg ?_
  rintro rfl
  rcases mem_updates hx with rfl | ⟨pid, m, r, hroute, hprofile, -⟩
  · -- an update gives out no identity, so it makes no profile
    have hgiven := (indexed_after config _).given x.1 p hlive
    have hchange := ProfileStore.change_act (indexed_after config before) (.update x.1 x.2)
    rcases hchange.made with ⟨-, hnext⟩ | ⟨hmade, -⟩
    · rw [after_snoc, perform, hnext] at hgiven
      exact absurd hgiven (Nat.not_lt.2 hunborn)
    · cases hmade
  · have hgiven := given_hasRoute hroute
    rw [hprofile] at hgiven
    exact absurd hgiven (Nat.not_lt.2 hunborn)

/-- **Every live profile was made by a deed.** -/
theorem exists_born {deeds : List Deed} {id : ProfileId} {q : Profile}
    (hq : (after config deeds).profiles.get? id = some q) :
    ∃ before d later p, deeds = before ++ d :: later ∧ Born config before d id p := by
  induction deeds using List.reverseRecOn generalizing q with
  | nil => simp [after, performAll, start, ProfileStore.get?] at hq
  | append_singleton deeds d ih =>
    rcases Nat.lt_or_ge id.value (after config deeds).profiles.nextId with hold | hunborn
    · obtain ⟨q', hq', -⟩ := (keeps_after config deeds [d]).same id q hold hq
      obtain ⟨before, d', later, p, rfl, hborn⟩ := ih hq'
      exact ⟨before, d', later ++ [d], p, by simp, hborn⟩
    · refine ⟨deeds, d, [], q, rfl, hunborn, hq, ?_⟩
      have hquiet := updates_of_born hunborn hq
      obtain ⟨acts, hrun, hupdates⟩ := perform_acts (after config deeds) d
      rw [after_snoc, hrun] at hq
      rw [← hupdates] at hquiet
      exact ProfileStore.unset_run (indexed_after config deeds) hunborn hq hquiet

/-! ## 3. Pairs -/

/-- An update that some deeds ask for is one that a deed of them asks for. -/
theorem mem_updatesDuring {h : Host} {deeds : List Deed} {x : ProfileId × ProfileUpdate}
    (hx : x ∈ h.updatesDuring deeds) : ∃ d ∈ deeds, ∃ h', x ∈ d.updates h' := by
  induction deeds generalizing h with
  | nil => cases hx
  | cons d rest ih =>
    rcases List.mem_append.1 hx with hx | hx
    · exact ⟨d, List.mem_cons_self, h, hx⟩
    · obtain ⟨d', hd', h', hx'⟩ := ih hx
      exact ⟨d', List.mem_cons_of_mem d hd', h', hx'⟩

/-- The application does not update a profile itself, so that all updates of it come by messages. -/
def Undirected (id : ProfileId) (deeds : List Deed) : Prop :=
  ∀ u, Deed.store (.update id u) ∉ deeds

/-- **Corrections that come by messages come in pairs.** -/
theorem paired_updatesDuring {h : Host} {deeds : List Deed} {id : ProfileId}
    (hmessages : Undirected id deeds) {bad good : List String}
    (hu : .addCorrections bad good ∈ updatesOf id (h.updatesDuring deeds)) :
    bad.length = good.length := by
  obtain ⟨⟨j, u⟩, hx, heq⟩ := List.mem_filterMap.1 hu
  split at heq
  · next hj =>
    cases hj
    cases heq
    obtain ⟨d, hd, h', hx⟩ := mem_updatesDuring hx
    rcases mem_updates hx with rfl | ⟨pid, m, r, -, -, hm⟩
    · exact absurd hd (hmessages _)
    · exact Family.paired_of_update hm
  · cases heq

/-! ## 4. The last writers -/

/-- **How a live profile comes by its settings**: `q` is live under `id` after some deeds. -/
structure Configured (config : HostConfig) (deeds : List Deed) (id : ProfileId) (q : Profile) :
    Prop where
  /-- The profile was made by a deed, with nothing set, and its settings are those of the last
  writers among the updates of it that the deeds since then have asked for, by messages to any
  routes that refer to it or directly.  If they all came by messages, each lists all its bad
  words. -/
  lastWriter : ∃ before d later p, deeds = before ++ d :: later ∧ Born config before d id p ∧
    LastWriter (updatesOf id ((after config (before ++ [d])).updatesDuring later)) q ∧
    (Undirected id later → ∀ bad good,
      .addCorrections bad good ∈ updatesOf id ((after config (before ++ [d])).updatesDuring later) →
        bad.length = good.length ∧ (ProfileUpdate.addCorrections bad good).misspellings = bad)
  /-- An update writes its own setting only. -/
  confined : ∀ (p : Profile) (u : ProfileUpdate), p.Confined u
  /-- Lists of words that have nothing in common may change places. -/
  commute : ∀ (p : Profile) (u v : ProfileUpdate), u.isList = true → v.isList = true →
    u.words.Disjoint v.words → u.misspellings.Disjoint v.misspellings →
      (p.apply u).apply v = (p.apply v).apply u

/-- **The last writer wins**: every live profile has the settings that were made last, whatever was
done with the host. -/
theorem last_writer_wins {deeds : List Deed} {id : ProfileId} {q : Profile}
    (hq : (after config deeds).profiles.get? id = some q) : Configured config deeds id q where
  lastWriter := by
    obtain ⟨before, d, later, p, rfl, hborn⟩ := exists_born hq
    refine ⟨before, d, later, p, rfl, hborn, ?_, ?_⟩
    · rw [List.append_cons] at hq
      have halike := settings_after config (before ++ [d]) later hborn.live hq
      exact (lastWriter_applyAll hborn.unset _).of_alike halike
    · intro hmessages bad good hu
      have hpaired := paired_updatesDuring hmessages hu
      exact ⟨hpaired, List.map_fst_zip (Nat.le_of_eq hpaired)⟩
  confined := Profile.confined_apply
  commute := fun p _ _ hu hv hwords hmisspellings => p.apply_comm hu hv hwords hmisspellings

/-- A client has a profile made, and corrects the same word twice in one message. -/
def corrected : List Deed :=
  founding ++ [.move (.event calm ⟨1⟩
    (.message ((ProfileUpdate.addCorrections ["teh", "teh"] ["ten", "the"]).toMessage ⟨0⟩)))]

/-- **The last occurrence counts**, here where the profile was made by a message as well. -/
theorem last_writer_wins_corrected :
    ∃ q, (after {} corrected).profiles.get? ⟨0⟩ = some q ∧ Configured {} corrected ⟨0⟩ q ∧
      q.corrections.get? "teh" = some "the" := by
  have hthe : ((after {} corrected).profiles.get? ⟨0⟩).map (·.corrections.get? "teh")
      = some (some "the") := by decide +kernel
  obtain ⟨q, hq, hteh⟩ := Option.map_eq_some_iff.1 hthe
  exact ⟨q, hq, last_writer_wins hq, hteh⟩

end Host

end ControlPlane
