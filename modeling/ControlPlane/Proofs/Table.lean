/-
# Sums and counts over tables

What the invariants of the host need of `Table` beyond its lookups: the entries are exactly what
is found, a key occurs once, and a sum over the values follows every operation.

* `mem_entries_iff`, `mem_keys_iff`, `nodup_keys`: entries against lookups;
* `ext_get?`: a table is determined by what is found in it;
* `get?_filter`, `get?_map`: lookups behind the two operations on whole tables;
* `eq_empty_iff`, `isEmpty_iff`, `isEmpty_eq_false_iff`: tables in which nothing or something is
  found;
* `values_insert`, `values_erase`: the values behind an operation, in whatever order;
* `total`: the sum of a measure over the values, with `total_insert` and `total_erase`.

The laws of `total` are equations between sums and use no subtraction: what was at the key before
stands on the other side.
-/
import ControlPlane.Table

namespace ControlPlane

/-! ## 1. Entry lists -/

namespace Entries

variable {κ α : Type} [Key κ]

/-- **What is found at a key is the entry with that key.** -/
theorem get?_eq_some_iff {k : κ} {a : α} {l : List (κ × α)} (h : Ascending l) :
    get? k l = some a ↔ (k, a) ∈ l := by
  induction l with
  | nil => simp [get?]
  | cons x rest ih =>
    obtain ⟨l, b⟩ := x
    rw [ascending_cons] at h
    by_cases hk : k = l
    · subst hk
      have hnot : (k, a) ∉ rest := fun hm => Key.irrefl k (h.1 _ hm)
      simp [get?, hnot, eq_comm]
    · simp [get?, hk, ih h.2]

/-- **Ascending entries are determined by what is found in them.** -/
theorem eq_of_get?_eq : ∀ {l l' : List (κ × α)}, Ascending l → Ascending l' →
    (∀ k, get? k l = get? k l') → l = l'
  | [], [], _, _, _ => rfl
  | [], (k, a) :: rest, _, _, h => by simpa [get?] using h k
  | (k, a) :: rest, [], _, _, h => by simpa [get?] using h k
  | (k, a) :: rest, (l, b) :: rest', hl, hl', h => by
    rw [ascending_cons] at hl hl'
    have hk : k = l := by
      rcases Key.total k l with hlt | heq | hlt
      · have hnone : get? k rest' = none :=
          get?_eq_none_of_lt fun e he => Key.trans hlt (hl'.1 e he)
        have hne : k ≠ l := fun e => Key.irrefl l (e ▸ hlt)
        simpa [get?, hne, hnone] using h k
      · exact heq
      · have hnone : get? l rest = none :=
          get?_eq_none_of_lt fun e he => Key.trans hlt (hl.1 e he)
        have hne : l ≠ k := fun e => Key.irrefl k (e ▸ hlt)
        simpa [get?, hne, hnone] using h l
    subst hk
    have hab : a = b := by simpa [get?] using h k
    subst hab
    have hrest : ∀ j, get? j rest = get? j rest' := by
      intro j
      by_cases hj : j = k
      · rw [hj, get?_eq_none_of_lt hl.1, get?_eq_none_of_lt hl'.1]
      · simpa [get?, hj] using h j
    rw [eq_of_get?_eq hl.2 hl'.2 hrest]

/-- The sum of a measure over the values. -/
def total (f : α → Nat) : List (κ × α) → Nat
  | [] => 0
  | (_, a) :: rest => f a + total f rest

/-- **An insertion adds the new value and takes away the one it replaces.** -/
theorem total_insert (f : α → Nat) (k : κ) (a : α) {l : List (κ × α)} (h : Ascending l) :
    total f (insert k a l) + ((get? k l).map f).getD 0 = total f l + f a := by
  induction l with
  | nil => simp [insert, total, get?]
  | cons x rest ih =>
    obtain ⟨l, b⟩ := x
    rw [ascending_cons] at h
    by_cases hk : k = l
    · subst hk
      simp [insert, total, get?]
      omega
    · by_cases hlt : k < l
      · have hnone : get? k rest = none :=
          get?_eq_none_of_lt fun e he => Key.trans hlt (h.1 e he)
        simp [insert, total, get?, hk, hlt, hnone]
        omega
      · have hrest := ih h.2
        simp [insert, total, get?, hk, hlt]
        omega

/-- **An erasure takes away the value it removes.** -/
theorem total_erase (f : α → Nat) (k : κ) (l : List (κ × α)) :
    total f (erase k l) + ((get? k l).map f).getD 0 = total f l := by
  induction l with
  | nil => simp [erase, total, get?]
  | cons x rest ih =>
    obtain ⟨l, b⟩ := x
    by_cases hk : k = l
    · simp [erase, total, get?, hk]
      omega
    · simp [erase, total, get?, hk]
      omega

/-- **An erasure takes one value away**, the one that is found at its key. -/
theorem values_erase (k : κ) (l : List (κ × α)) :
    ((get? k l).toList ++ (erase k l).map (·.2)).Perm (l.map (·.2)) := by
  induction l with
  | nil => simp [erase, get?]
  | cons x rest ih =>
    obtain ⟨l, b⟩ := x
    by_cases hk : k = l
    · simp [erase, get?, hk]
    · simp only [erase, get?, hk, if_false, List.map_cons]
      exact List.perm_middle.trans (ih.cons b)

/-- **An insertion puts one value in the place of another**, if one is found at its key. -/
theorem values_insert (k : κ) (a : α) {l : List (κ × α)} (h : Ascending l) :
    ((get? k l).toList ++ (insert k a l).map (·.2)).Perm (a :: l.map (·.2)) := by
  induction l with
  | nil => simp [insert, get?]
  | cons x rest ih =>
    obtain ⟨l, b⟩ := x
    rw [ascending_cons] at h
    by_cases hk : k = l
    · simp only [insert, get?, hk, if_true, Option.toList_some, List.map_cons, List.cons_append,
        List.nil_append]
      exact List.Perm.swap _ _ _
    · by_cases hlt : k < l
      · have hnone : get? k rest = none :=
          get?_eq_none_of_lt fun e he => Key.trans hlt (h.1 e he)
        simp [insert, get?, hk, hlt, hnone]
      · simp only [insert, get?, hk, hlt, if_false, List.map_cons]
        exact List.perm_middle.trans (((ih h.2).cons b).trans (List.Perm.swap _ _ _))

/-- The value of a key behind a filter. -/
theorem get?_filter {l : List (κ × α)} (h : Ascending l) (p : κ → α → Bool) (k : κ) :
    get? k (l.filter fun e => p e.1 e.2) = (get? k l).filter (p k) := by
  induction l with
  | nil => rfl
  | cons x rest ih =>
    obtain ⟨l, b⟩ := x
    rw [ascending_cons] at h
    have hrest := ih h.2
    by_cases hk : k = l
    · subst hk
      have hnone : get? k rest = none := get?_eq_none_of_lt h.1
      rw [hnone] at hrest
      cases hp : p k b
      · simp [hp, get?, hrest, Option.filter]
      · simp [hp, get?, Option.filter]
    · cases hp : p l b
      · simp [hp, get?, hk, hrest]
      · simp [hp, get?, hk, hrest]

/-- The value of a key behind a map. -/
theorem get?_map {β : Type} (f : κ → α → β) (k : κ) (l : List (κ × α)) :
    get? k (l.map fun e => (e.1, f e.1 e.2)) = (get? k l).map (f k) := by
  induction l with
  | nil => rfl
  | cons x rest ih =>
    obtain ⟨l, b⟩ := x
    by_cases hk : k = l
    · subst hk; simp [get?]
    · simp [get?, hk, ih]

end Entries

/-! ## 2. Tables -/

namespace Table

variable {κ α : Type} [Key κ]

/-- **What is found at a key is the entry with that key.** -/
theorem mem_entries_iff {t : Table κ α} {k : κ} {a : α} :
    (k, a) ∈ t.entries ↔ t.get? k = some a :=
  (Entries.get?_eq_some_iff t.ascending).symm

/-- **A table is determined by what is found in it.** -/
theorem ext_get? {t u : Table κ α} (h : ∀ k, t.get? k = u.get? k) : t = u :=
  ext (Entries.eq_of_get?_eq t.ascending u.ascending h)

/-- A key that is erased and put back is as good as replaced. -/
@[simp] theorem insert_erase (t : Table κ α) (k : κ) (a : α) :
    (t.erase k).insert k a = t.insert k a := by
  refine ext_get? fun j => ?_
  by_cases hj : j = k <;> simp [hj]

/-- Of two insertions at one key the later one counts. -/
@[simp] theorem insert_insert (t : Table κ α) (k : κ) (a b : α) :
    (t.insert k a).insert k b = t.insert k b := by
  refine ext_get? fun j => ?_
  by_cases hj : j = k <;> simp [hj]

/-- An insertion at a key may as well come before an erasure at another one. -/
theorem insert_erase_comm {t : Table κ α} {k j : κ} {a : α} (h : j ≠ k) :
    (t.erase k).insert j a = (t.insert j a).erase k := by
  refine ext_get? fun i => ?_
  by_cases hi : i = j
  · simp [hi, h]
  · simp [hi]

/-- A value put where it is found changes nothing. -/
theorem insert_self {t : Table κ α} {k : κ} {a : α} (h : t.get? k = some a) :
    t.insert k a = t := by
  refine ext_get? fun j => ?_
  by_cases hj : j = k <;> simp [hj, h]

/-- An adjustment is the insertion of the changed value. -/
theorem adjust_eq_insert {t : Table κ α} {k : κ} {a : α} (h : t.get? k = some a) (f : α → α) :
    t.adjust k f = t.insert k (f a) := by
  refine ext_get? fun j => ?_
  by_cases hj : j = k <;> simp [hj, h]

/-- An adjustment at a key where nothing is found changes nothing. -/
theorem adjust_of_none {t : Table κ α} {k : κ} (h : t.get? k = none) (f : α → α) :
    t.adjust k f = t := by
  refine ext_get? fun j => ?_
  by_cases hj : j = k <;> simp [hj, h]

/-- An erasure at a key where nothing is found changes nothing. -/
theorem erase_of_none {t : Table κ α} {k : κ} (h : t.get? k = none) : t.erase k = t := by
  refine ext_get? fun j => ?_
  by_cases hj : j = k <;> simp [hj, h]

/-- A key is listed exactly when something is found at it. -/
theorem mem_keys_iff {t : Table κ α} {k : κ} : k ∈ t.keys ↔ t.contains k = true := by
  simp [keys, contains, mem_entries_iff, Option.isSome_iff_exists]

/-- Nothing is found at a key that the table does not contain. -/
theorem contains_eq_false_iff {t : Table κ α} {k : κ} :
    t.contains k = false ↔ t.get? k = none := by
  simp [contains]

/-- No key is listed twice. -/
theorem nodup_keys (t : Table κ α) : t.keys.Nodup := by
  have h : t.keys.Pairwise (· < ·) := t.ascending
  refine h.imp ?_
  rintro a b hlt rfl
  exact Key.irrefl a hlt

/-- **A key is listed once if it is contained**, else not at all. -/
theorem count_keys [DecidableEq κ] (t : Table κ α) (k : κ) :
    t.keys.count k = (t.contains k).toNat := by
  rw [t.nodup_keys.count]
  cases h : t.contains k <;> simp [mem_keys_iff, h]

/-- The empty table contains no key. -/
@[simp] theorem contains_empty (k : κ) : (empty : Table κ α).contains k = false := rfl

/-- After an insertion its key is contained, and the old ones. -/
@[simp] theorem contains_insert (t : Table κ α) (k k' : κ) (a : α) :
    (t.insert k a).contains k' = (k' = k || t.contains k') := by
  by_cases h : k' = k <;> simp [contains, h]

/-- After an erasure its key is not contained, and the others as before. -/
@[simp] theorem contains_erase (t : Table κ α) (k k' : κ) :
    (t.erase k).contains k' = (k' ≠ k && t.contains k') := by
  by_cases h : k' = k <;> simp [contains, h]

/-- The value of a key behind a filter. -/
@[simp] theorem get?_filter (t : Table κ α) (p : κ → α → Bool) (k : κ) :
    (t.filter p).get? k = (t.get? k).filter (p k) :=
  Entries.get?_filter t.ascending p k

/-- The value of a key behind a map. -/
@[simp] theorem get?_map {β : Type} (t : Table κ α) (f : κ → α → β) (k : κ) :
    (t.map f).get? k = (t.get? k).map (f k) :=
  Entries.get?_map f k t.entries

/-- **An erasure takes one value away**, the one that is found at its key. -/
theorem values_erase (t : Table κ α) (k : κ) :
    ((t.get? k).toList ++ (t.erase k).values).Perm t.values :=
  Entries.values_erase k t.entries

/-- **An insertion puts one value in the place of another**, if one is found at its key. -/
theorem values_insert (t : Table κ α) (k : κ) (a : α) :
    ((t.get? k).toList ++ (t.insert k a).values).Perm (a :: t.values) :=
  Entries.values_insert k a t.ascending

/-- What is found in a table is one of its values. -/
theorem mem_values_iff {t : Table κ α} {a : α} : a ∈ t.values ↔ ∃ k, t.get? k = some a := by
  simp [values, mem_entries_iff]

/-- A table is the empty one when nothing is found in it. -/
theorem eq_empty_iff {t : Table κ α} : t = empty ↔ ∀ k a, t.get? k ≠ some a := by
  constructor
  · rintro rfl k a h
    cases h
  · intro h
    exact ext_get? fun k => Option.eq_none_iff_forall_ne_some.2 (h k)

/-- The empty table is the only one without entries. -/
theorem isEmpty_iff {t : Table κ α} : t.isEmpty = true ↔ t = empty := by
  constructor
  · exact fun h => ext (List.isEmpty_iff.1 h)
  · rintro rfl
    rfl

/-- In every other table something is found. -/
theorem isEmpty_eq_false_iff {t : Table κ α} : t.isEmpty = false ↔ ∃ k a, t.get? k = some a := by
  rw [← Bool.not_eq_true, isEmpty_iff, eq_empty_iff]
  simp

/-- The sum of a measure over the values of a table. -/
def total (t : Table κ α) (f : α → Nat) : Nat := Entries.total f t.entries

/-- The empty table has nothing to sum up. -/
@[simp] theorem total_empty (f : α → Nat) : (empty : Table κ α).total f = 0 := rfl

/-- **An insertion adds the new value and takes away the one it replaces.** -/
theorem total_insert (t : Table κ α) (f : α → Nat) (k : κ) (a : α) :
    (t.insert k a).total f + ((t.get? k).map f).getD 0 = t.total f + f a :=
  Entries.total_insert f k a t.ascending

/-- **An erasure takes away the value it removes.** -/
theorem total_erase (t : Table κ α) (f : α → Nat) (k : κ) :
    (t.erase k).total f + ((t.get? k).map f).getD 0 = t.total f :=
  Entries.total_erase f k t.entries

/-- An insertion of a value that measures as much as the one it replaces keeps the sum. -/
theorem total_insert_of_eq {t : Table κ α} {f : α → Nat} {k : κ} {a b : α}
    (hk : t.get? k = some b) (h : f a = f b) : (t.insert k a).total f = t.total f := by
  have hsum := t.total_insert f k a
  simp [hk, h] at hsum
  exact hsum

/-- An insertion at a free key adds the new value. -/
theorem total_insert_of_free {t : Table κ α} {f : α → Nat} {k : κ} {a : α}
    (hk : t.get? k = none) : (t.insert k a).total f = t.total f + f a := by
  have hsum := t.total_insert f k a
  simp [hk] at hsum
  exact hsum

/-- A value is measured at least once in the sum over its table. -/
theorem le_total {t : Table κ α} {f : α → Nat} {k : κ} {a : α} (hk : t.get? k = some a) :
    f a ≤ t.total f := by
  have hsum := t.total_erase f k
  simp [hk] at hsum
  omega

end Table

end ControlPlane
