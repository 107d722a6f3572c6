/-
# Tables

A finite map that lists its entries with ascending keys.  The order is part of the type, so two
tables with the same entries are equal, and whatever goes through all entries meets them in key
order.

* `get?`, `insert`, `erase`, `adjust`: one key at a time;
* `get?_insert`, `get?_erase`, `get?_adjust`: what each does to every key.
-/
namespace ControlPlane

/-- **Keys that can be listed in order.** -/
class Key (κ : Type) extends LT κ where
  decideLt : DecidableRel (α := κ) (· < ·)
  decideEq : DecidableEq κ
  irrefl (a : κ) : ¬ a < a
  trans {a b c : κ} : a < b → b < c → a < c
  total (a b : κ) : a < b ∨ a = b ∨ b < a

namespace Key

instance (priority := low) {κ : Type} [Key κ] : DecidableEq κ := Key.decideEq

instance (priority := low) {κ : Type} [Key κ] : DecidableRel (α := κ) (· < ·) := Key.decideLt

/-- Keys ordered by a number that determines them. -/
@[reducible] def ofNat {κ : Type} (rank : κ → Nat) (inj : ∀ a b, rank a = rank b → a = b) :
    Key κ where
  lt a b := rank a < rank b
  decideLt a b := inferInstanceAs (Decidable (rank a < rank b))
  decideEq a b := decidable_of_iff (rank a = rank b) ⟨inj a b, fun h => h ▸ rfl⟩
  irrefl _ := Nat.lt_irrefl _
  trans h₁ h₂ := Nat.lt_trans h₁ h₂
  total a b := by
    rcases Nat.lt_trichotomy (rank a) (rank b) with h | h | h
    · exact .inl h
    · exact .inr (.inl (inj a b h))
    · exact .inr (.inr h)

instance : Key UInt64 := ofNat UInt64.toNat fun _ _ => UInt64.toNat.inj

instance : Key String where
  decideLt := inferInstance
  decideEq := inferInstance
  irrefl := String.lt_irrefl
  trans := String.lt_trans
  total a b := by
    rcases Decidable.em (a < b) with h | h
    · exact .inl h
    · rcases Decidable.em (b < a) with h' | h'
      · exact .inr (.inr h')
      · exact .inr (.inl (String.le_antisymm (String.not_lt.1 h') (String.not_lt.1 h)))

end Key

/-! ## 1. Entry lists -/

namespace Entries

variable {κ α : Type} [Key κ]

/-- Entries with strictly ascending keys. -/
def Ascending (l : List (κ × α)) : Prop := (l.map (·.1)).Pairwise (· < ·)

/-- The value at a key. -/
def get? (k : κ) : List (κ × α) → Option α
  | [] => none
  | (l, a) :: rest => if k = l then some a else get? k rest

/-- An entry put at its place, instead of one with the same key. -/
def insert (k : κ) (a : α) : List (κ × α) → List (κ × α)
  | [] => [(k, a)]
  | (l, b) :: rest =>
    if k = l then (k, a) :: rest
    else if k < l then (k, a) :: (l, b) :: rest
    else (l, b) :: insert k a rest

/-- The entries without the one at a key. -/
def erase (k : κ) : List (κ × α) → List (κ × α)
  | [] => []
  | (l, b) :: rest => if k = l then rest else (l, b) :: erase k rest

/-- The entries with the value at a key changed. -/
def adjust (k : κ) (f : α → α) : List (κ × α) → List (κ × α)
  | [] => []
  | (l, b) :: rest => if k = l then (l, f b) :: rest else (l, b) :: adjust k f rest

/-- A list with an entry in front ascends when the rest does, all above that entry. -/
theorem ascending_cons {k : κ} {a : α} {l : List (κ × α)} :
    Ascending ((k, a) :: l) ↔ (∀ e ∈ l, k < e.1) ∧ Ascending l := by
  simp [Ascending]

/-- An entry after an insertion is the new one or was there before. -/
theorem mem_insert {k : κ} {a : α} {e : κ × α} {l : List (κ × α)} (h : e ∈ insert k a l) :
    e = (k, a) ∨ e ∈ l := by
  induction l with
  | nil => simpa [insert] using h
  | cons x rest ih =>
    obtain ⟨l, b⟩ := x
    simp only [insert] at h
    split at h
    · simp only [List.mem_cons] at h ⊢
      rcases h with h | h
      · exact .inl h
      · exact .inr (.inr h)
    · split at h
      · simpa using h
      · simp only [List.mem_cons] at h ⊢
        rcases h with h | h
        · exact .inr (.inl h)
        · rcases ih h with h | h
          · exact .inl h
          · exact .inr (.inr h)

/-- An insertion keeps the order. -/
theorem ascending_insert {k : κ} {a : α} {l : List (κ × α)} (h : Ascending l) :
    Ascending (insert k a l) := by
  induction l with
  | nil => simp [insert, Ascending]
  | cons x rest ih =>
    obtain ⟨l, b⟩ := x
    rw [ascending_cons] at h
    simp only [insert]
    split
    · next hk => subst hk; exact ascending_cons.2 h
    · next hk =>
      split
      · next hlt =>
        refine ascending_cons.2 ⟨?_, ascending_cons.2 h⟩
        intro e he
        rcases List.mem_cons.1 he with rfl | he
        · exact hlt
        · exact Key.trans hlt (h.1 e he)
      · next hlt =>
        have hl : l < k := by
          rcases Key.total k l with h | h | h
          · exact absurd h hlt
          · exact absurd h hk
          · exact h
        refine ascending_cons.2 ⟨?_, ih h.2⟩
        intro e he
        rcases mem_insert he with rfl | he
        · exact hl
        · exact h.1 e he

/-- An entry after an erasure was there before. -/
theorem mem_erase {k : κ} {e : κ × α} {l : List (κ × α)} (h : e ∈ erase k l) : e ∈ l := by
  induction l with
  | nil => simp [erase] at h
  | cons x rest ih =>
    obtain ⟨l, b⟩ := x
    simp only [erase] at h
    split at h
    · exact List.mem_cons_of_mem _ h
    · rcases List.mem_cons.1 h with rfl | h
      · exact List.mem_cons_self
      · exact List.mem_cons_of_mem _ (ih h)

/-- An erasure keeps the order. -/
theorem ascending_erase {k : κ} {l : List (κ × α)} (h : Ascending l) :
    Ascending (erase k l) := by
  induction l with
  | nil => exact h
  | cons x rest ih =>
    obtain ⟨l, b⟩ := x
    rw [ascending_cons] at h
    simp only [erase]
    split
    · exact h.2
    · exact ascending_cons.2 ⟨fun e he => h.1 e (mem_erase he), ih h.2⟩

/-- An adjustment keeps the keys. -/
theorem map_fst_adjust (k : κ) (f : α → α) (l : List (κ × α)) :
    (adjust k f l).map (·.1) = l.map (·.1) := by
  induction l with
  | nil => rfl
  | cons x rest ih =>
    obtain ⟨l, b⟩ := x
    simp only [adjust]
    split
    · rfl
    · simp [ih]

/-- An adjustment keeps the order. -/
theorem ascending_adjust {k : κ} {f : α → α} {l : List (κ × α)} (h : Ascending l) :
    Ascending (adjust k f l) := by
  unfold Ascending
  rw [map_fst_adjust]
  exact h

/-- A key that no entry has is not found. -/
theorem get?_eq_none {k : κ} {l : List (κ × α)} (h : ∀ e ∈ l, k ≠ e.1) : get? k l = none := by
  induction l with
  | nil => rfl
  | cons x rest ih =>
    obtain ⟨l, b⟩ := x
    simp only [get?, if_neg (h (l, b) List.mem_cons_self)]
    exact ih fun e he => h e (List.mem_cons_of_mem _ he)

/-- A key below all entries is not found. -/
theorem get?_eq_none_of_lt {k : κ} {l : List (κ × α)} (h : ∀ e ∈ l, k < e.1) :
    get? k l = none :=
  get?_eq_none fun e he hk => Key.irrefl e.1 (hk ▸ h e he)

/-- After an insertion the new value is found at its key, and the old ones elsewhere. -/
theorem get?_insert (k k' : κ) (a : α) (l : List (κ × α)) :
    get? k' (insert k a l) = if k' = k then some a else get? k' l := by
  induction l with
  | nil => rfl
  | cons x rest ih =>
    obtain ⟨l, b⟩ := x
    simp only [insert]
    split
    · next hk =>
      subst hk
      simp only [get?]
      split <;> rfl
    · split
      · rfl
      · next hk _ =>
        simp only [get?, ih]
        by_cases h₁ : k' = l
        · have : k' ≠ k := fun h => hk (h ▸ h₁)
          simp [h₁]
          intro h; exact absurd (h₁.trans h) this
        · simp [h₁]

/-- After an erasure nothing is found at its key, and the old values elsewhere. -/
theorem get?_erase {l : List (κ × α)} (h : Ascending l) (k k' : κ) :
    get? k' (erase k l) = if k' = k then none else get? k' l := by
  induction l with
  | nil => simp [erase, get?]
  | cons x rest ih =>
    obtain ⟨l, b⟩ := x
    rw [ascending_cons] at h
    simp only [erase]
    split
    · next hk =>
      subst hk
      by_cases h₁ : k' = k
      · subst h₁; simpa using get?_eq_none_of_lt h.1
      · simp [get?, h₁]
    · next hk =>
      simp only [get?, ih h.2]
      by_cases h₁ : k' = l
      · have : k' ≠ k := fun h => hk (h ▸ h₁)
        simp [h₁]
        intro h; exact absurd (h₁.trans h) this
      · simp [h₁]

/-- After an adjustment its key has the changed value, and the others what they had. -/
theorem get?_adjust (k k' : κ) (f : α → α) (l : List (κ × α)) :
    get? k' (adjust k f l) = if k' = k then (get? k' l).map f else get? k' l := by
  induction l with
  | nil => simp [adjust, get?]
  | cons x rest ih =>
    obtain ⟨l, b⟩ := x
    simp only [adjust]
    split
    · next hk =>
      subst hk
      by_cases h₁ : k' = k
      · simp [get?, h₁]
      · simp [get?, h₁]
    · next hk =>
      simp only [get?, ih]
      by_cases h₁ : k' = l
      · have : k' ≠ k := fun h => hk (h ▸ h₁)
        simp [h₁]
        intro h; exact absurd (h₁.trans h) this
      · simp [h₁]

end Entries

/-! ## 2. The table -/

/-- **A finite map** whose entries are listed with their keys ascending. -/
structure Table (κ α : Type) [Key κ] where
  entries : List (κ × α)
  ascending : Entries.Ascending entries

namespace Table

variable {κ α : Type} [Key κ]

/-- The table without entries. -/
def empty : Table κ α := ⟨[], List.Pairwise.nil⟩

instance : Inhabited (Table κ α) := ⟨empty⟩

instance [Repr κ] [Repr α] : Repr (Table κ α) := ⟨fun t n => reprPrec t.entries n⟩

/-- Tables with the same entries are equal. -/
theorem ext {t u : Table κ α} (h : t.entries = u.entries) : t = u := by
  cases t; cases u; simp_all

instance [DecidableEq α] : DecidableEq (Table κ α) := fun t u =>
  decidable_of_iff (t.entries = u.entries) ⟨ext, fun h => h ▸ rfl⟩

/-- The value at a key. -/
def get? (t : Table κ α) (k : κ) : Option α := Entries.get? k t.entries

/-- Whether there is a value at a key. -/
def contains (t : Table κ α) (k : κ) : Bool := (t.get? k).isSome

/-- The table with a value at a key, instead of one that is there. -/
def insert (t : Table κ α) (k : κ) (a : α) : Table κ α :=
  ⟨Entries.insert k a t.entries, Entries.ascending_insert t.ascending⟩

/-- The table without a key. -/
def erase (t : Table κ α) (k : κ) : Table κ α :=
  ⟨Entries.erase k t.entries, Entries.ascending_erase t.ascending⟩

/-- The table with the value at a key changed. -/
def adjust (t : Table κ α) (k : κ) (f : α → α) : Table κ α :=
  ⟨Entries.adjust k f t.entries, Entries.ascending_adjust t.ascending⟩

/-- The number of entries. -/
def size (t : Table κ α) : Nat := t.entries.length

/-- Whether there is no entry. -/
def isEmpty (t : Table κ α) : Bool := t.entries.isEmpty

/-- The keys, ascending. -/
def keys (t : Table κ α) : List κ := t.entries.map (·.1)

/-- The values, by ascending key. -/
def values (t : Table κ α) : List α := t.entries.map (·.2)

/-- The entries that a test keeps. -/
def filter (t : Table κ α) (p : κ → α → Bool) : Table κ α :=
  ⟨t.entries.filter fun e => p e.1 e.2,
    List.Pairwise.sublist (List.filter_sublist.map _) t.ascending⟩

/-- The table with every value changed. -/
def map {β : Type} (t : Table κ α) (f : κ → α → β) : Table κ β :=
  ⟨t.entries.map fun e => (e.1, f e.1 e.2), by
    have h : (t.entries.map fun e => (e.1, f e.1 e.2)).map (·.1) = t.entries.map (·.1) := by simp
    unfold Entries.Ascending
    rw [h]
    exact t.ascending⟩

/-- The table of some entries, the last one of a key winning. -/
def ofList (l : List (κ × α)) : Table κ α := l.foldl (fun t e => t.insert e.1 e.2) empty

/-! ## 3. What the operations do -/

/-- Nothing is found in the empty table. -/
@[simp] theorem get?_empty (k : κ) : (empty : Table κ α).get? k = none := rfl

/-- After an insertion the new value is found at its key, and the old ones elsewhere. -/
@[simp] theorem get?_insert (t : Table κ α) (k k' : κ) (a : α) :
    (t.insert k a).get? k' = if k' = k then some a else t.get? k' :=
  Entries.get?_insert k k' a t.entries

/-- After an erasure nothing is found at its key, and the old values elsewhere. -/
@[simp] theorem get?_erase (t : Table κ α) (k k' : κ) :
    (t.erase k).get? k' = if k' = k then none else t.get? k' :=
  Entries.get?_erase t.ascending k k'

/-- After an adjustment its key has the changed value, and the others what they had. -/
@[simp] theorem get?_adjust (t : Table κ α) (k k' : κ) (f : α → α) :
    (t.adjust k f).get? k' = if k' = k then (t.get? k').map f else t.get? k' :=
  Entries.get?_adjust k k' f t.entries

/-- A map over the values keeps the keys. -/
@[simp] theorem keys_map {β : Type} (t : Table κ α) (f : κ → α → β) :
    (t.map f).keys = t.keys := by
  simp [map, keys]

/-- An adjustment keeps the keys. -/
@[simp] theorem keys_adjust (t : Table κ α) (k : κ) (f : α → α) :
    (t.adjust k f).keys = t.keys :=
  Entries.map_fst_adjust k f t.entries

end Table

end ControlPlane
