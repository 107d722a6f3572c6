/-
# Routes are a map in which the first one wins

What is registered at the ids of a channel is a partial map.  Whatever is done with the routes, in
whatever order, every answer is the one that the map gives: who comes first to an id keeps it until
it is removed, nobody gets the control id, and all that is drained comes by ascending id.

* `Registry`, `Registry.Allows`: partial maps, and what an operation on one answers and leaves;
* `Registry.Allows.functional`: it leaves no choice;
* `Routes.apply`, `Routes.run`: the operations on routes, and runs of them;
* `Routes.allows_apply`, `Routes.runs_run`: every operation does what the map allows;
* `Routes.byId_eq_drain`: in whatever order routes are kept, sorted they are what is drained;
* `ClientPeer.addRoute_eq`, `HostPeer.addRoute_eq`: who comes second is told that the id is taken;
* `HostPeer.handsBack_teardown`: a peer hands every listener back once;
* `routes_first_wins`: all of it together.
-/
import Mathlib.Data.Finset.Card
import ControlPlane.Peer.Client
import ControlPlane.Peer.Host
import ControlPlane.Proofs.Table

namespace ControlPlane

/-! ## 1. Operations and answers -/

namespace Routes

/-- **What can be done with routes.** -/
inductive Op (α : Type) where
  | add (id : RoutingId) (listener : α)
  | remove (id : RoutingId)
  | lookup (id : RoutingId)
  /-- Whoever is found at an id is changed there. -/
  | change (id : RoutingId) (f : α → α)
  | contains (id : RoutingId)
  | size
  | isEmpty
  | drain

/-- **What is answered.** -/
inductive Response (α : Type) where
  | added (result : Except Fault Unit)
  | found (listener : Option α)
  | truth (b : Bool)
  | number (n : Nat)
  | listed (all : List (RoutingId × α))

variable {α : Type}

/-- **One operation**: its answer, and the routes behind it. -/
def apply (r : Routes α) : Op α → Response α × Routes α
  | .add id a =>
    match r.add? id a with
    | some r' => (.added (.ok ()), r')
    | none => (.added (.error (.routeTaken id)), r)
  | .remove id => (.found (r.get? id), r.erase id)
  | .lookup id => (.found (r.get? id), r)
  | .change id f => (.found ((r.adjust id f).get? id), r.adjust id f)
  | .contains id => (.truth (r.contains id), r)
  | .size => (.number r.size, r)
  | .isEmpty => (.truth r.isEmpty, r)
  | .drain => (.listed r.drain.1, r.drain.2)

/-- **Operations one after the other**: their answers, and the routes behind them. -/
def run (r : Routes α) : List (Op α) → List (Response α) × Routes α
  | [] => ([], r)
  | op :: rest =>
    let (answer, r) := r.apply op
    let (answers, r) := run r rest
    (answer :: answers, r)

/-- **Operations that begin with no routes.** -/
def begun (ops : List (Op α)) : List (Response α) × Routes α := run Table.empty ops

end Routes

/-! ## 2. Partial maps -/

/-- **What is registered at which id.** -/
abbrev Registry (α : Type) := RoutingId → Option α

/-- Entries that come by ascending id, none twice. -/
def ByAscendingId {α : Type} (l : List (RoutingId × α)) : Prop :=
  l.Pairwise fun x y => x.1.value.toNat < y.1.value.toNat

/-- No entry comes twice. -/
theorem ByAscendingId.nodup {α : Type} {l : List (RoutingId × α)} (h : ByAscendingId l) :
    l.Nodup := by
  refine h.imp ?_
  rintro x y hlt rfl
  exact Nat.lt_irrefl _ hlt

namespace Registry

open Routes (Op Response)

variable {α : Type}

/-- Nobody is registered. -/
def empty : Registry α := fun _ => none

/-- The map with something else at one id. -/
def update (m : Registry α) (id : RoutingId) (o : Option α) : Registry α :=
  fun j => if j = id then o else m j

/-- **What an operation on a map answers, and the map it leaves.** -/
inductive Allows (m : Registry α) : Op α → Response α → Registry α → Prop
  /-- The control id is nobody's, and who came first stays. -/
  | taken (id : RoutingId) (a : α) (h : id = .control ∨ m id ≠ none) :
      Allows m (.add id a) (.added (.error (.routeTaken id))) m
  | added (id : RoutingId) (a : α) (hid : id ≠ .control) (hfree : m id = none) :
      Allows m (.add id a) (.added (.ok ())) (m.update id (some a))
  /-- Whoever was there is handed back. -/
  | removed (id : RoutingId) (a : α) (h : m id = some a) :
      Allows m (.remove id) (.found (some a)) (m.update id none)
  | unknown (id : RoutingId) (h : m id = none) : Allows m (.remove id) (.found none) m
  | lookedUp (id : RoutingId) : Allows m (.lookup id) (.found (m id)) m
  /-- A change is one of its own id only. -/
  | changed (id : RoutingId) (f : α → α) (a : α) (h : m id = some a) :
      Allows m (.change id f) (.found (some (f a))) (m.update id (some (f a)))
  | unchanged (id : RoutingId) (f : α → α) (h : m id = none) :
      Allows m (.change id f) (.found none) m
  | contained (id : RoutingId) (b : Bool) (h : b = true ↔ m id ≠ none) :
      Allows m (.contains id) (.truth b) m
  | counted (ids : Finset RoutingId) (h : ∀ id, id ∈ ids ↔ m id ≠ none) :
      Allows m .size (.number ids.card) m
  | vacant (b : Bool) (h : b = true ↔ ∀ id, m id = none) : Allows m .isEmpty (.truth b) m
  /-- Everyone is handed back once, by ascending id. -/
  | drained (l : List (RoutingId × α)) (hasc : ByAscendingId l)
      (hall : ∀ id a, (id, a) ∈ l ↔ m id = some a) : Allows m .drain (.listed l) empty

/-- **A run on a map**: the answers, and the map behind it. -/
inductive Runs : Registry α → List (Op α) → List (Response α) → Registry α → Prop
  | nil (m : Registry α) : Runs m [] [] m
  | cons {m m' m'' : Registry α} {op : Op α} {answer : Response α} {ops : List (Op α)}
      {answers : List (Response α)} (h : m.Allows op answer m') (hrest : Runs m' ops answers m'') :
      Runs m (op :: ops) (answer :: answers) m''

/-- Two truth values that say the same are the same. -/
theorem eq_of_iff {b c : Bool} {p : Prop} (hb : b = true ↔ p) (hc : c = true ↔ p) : b = c :=
  Bool.eq_iff_iff.2 (hb.trans hc.symm)

/-- Entries with the same members are the same if both come by ascending id. -/
theorem eq_of_ascending {l l' : List (RoutingId × α)} (hl : ByAscendingId l)
    (hl' : ByAscendingId l') (hmem : ∀ e, e ∈ l ↔ e ∈ l') : l = l' := by
  have hperm : l.Perm l' := (List.perm_ext_iff_of_nodup hl.nodup hl'.nodup).2 hmem
  exact hperm.eq_of_pairwise (fun _ _ _ _ h h' => absurd h (Nat.lt_asymm h')) hl hl'

/-- **The map leaves no choice**: neither of the answer nor of what is left. -/
theorem Allows.functional {m m₁ m₂ : Registry α} {op : Op α} {x₁ x₂ : Response α}
    (h₁ : m.Allows op x₁ m₁) (h₂ : m.Allows op x₂ m₂) : x₁ = x₂ ∧ m₁ = m₂ := by
  cases h₁ with
  | taken id a h =>
    cases h₂ with
    | taken => exact ⟨rfl, rfl⟩
    | added _ _ hid hfree => exact (h.elim hid fun hm => hm hfree).elim
  | added id a hid hfree =>
    cases h₂ with
    | taken _ _ h => exact (h.elim hid fun hm => hm hfree).elim
    | added => exact ⟨rfl, rfl⟩
  | removed id a h =>
    cases h₂ with
    | removed _ b hb =>
      obtain rfl := Option.some.inj (h.symm.trans hb)
      exact ⟨rfl, rfl⟩
    | unknown _ hnone => exact absurd (h.symm.trans hnone) (by simp)
  | unknown id h =>
    cases h₂ with
    | removed _ b hb => exact absurd (h.symm.trans hb) (by simp)
    | unknown => exact ⟨rfl, rfl⟩
  | lookedUp => cases h₂; exact ⟨rfl, rfl⟩
  | changed id f a h =>
    cases h₂ with
    | changed _ _ b hb =>
      obtain rfl := Option.some.inj (h.symm.trans hb)
      exact ⟨rfl, rfl⟩
    | unchanged _ _ hnone => exact absurd (h.symm.trans hnone) (by simp)
  | unchanged id f h =>
    cases h₂ with
    | changed _ _ b hb => exact absurd (h.symm.trans hb) (by simp)
    | unchanged => exact ⟨rfl, rfl⟩
  | contained id b h =>
    cases h₂ with
    | contained _ c h' => exact ⟨by rw [eq_of_iff h h'], rfl⟩
  | counted ids h =>
    cases h₂ with
    | counted ids' h' =>
      have hids : ids = ids' := Finset.ext fun id => (h id).trans (h' id).symm
      exact ⟨by rw [hids], rfl⟩
  | vacant b h =>
    cases h₂ with
    | vacant c h' => exact ⟨by rw [eq_of_iff h h'], rfl⟩
  | drained l hasc hall =>
    cases h₂ with
    | drained l' hasc' hall' =>
      have hl : l = l' :=
        eq_of_ascending hasc hasc' fun ⟨id, a⟩ => (hall id a).trans (hall' id a).symm
      exact ⟨by rw [hl], rfl⟩

/-- **Nor does a run of it.** -/
theorem Runs.functional {m m₁ m₂ : Registry α} {ops : List (Op α)} {xs₁ xs₂ : List (Response α)}
    (h₁ : Runs m ops xs₁ m₁) (h₂ : Runs m ops xs₂ m₂) : xs₁ = xs₂ ∧ m₁ = m₂ := by
  induction h₁ generalizing xs₂ m₂ with
  | nil => cases h₂; exact ⟨rfl, rfl⟩
  | cons h hrest ih =>
    cases h₂ with
    | cons h' hrest' =>
      obtain ⟨rfl, rfl⟩ := h.functional h'
      obtain ⟨rfl, rfl⟩ := ih hrest'
      exact ⟨rfl, rfl⟩

/-- A map that has nobody at the control id goes on like that. -/
theorem Allows.control {m m' : Registry α} {op : Op α} {x : Response α} (h : m.Allows op x m')
    (hm : m .control = none) : m' .control = none := by
  cases h with
  | taken | unknown | lookedUp | unchanged | contained | counted | vacant => exact hm
  | added id a hid hfree => simpa [update, Ne.symm hid] using hm
  | removed id a h => simp [update, hm]
  | changed id f a h =>
    have hid : RoutingId.control ≠ id := fun heq => by simp [← heq, hm] at h
    simpa [update, hid] using hm
  | drained => rfl

/-- Nobody ever gets the control id. -/
theorem Runs.control {m m' : Registry α} {ops : List (Op α)} {xs : List (Response α)}
    (h : Runs m ops xs m') (hm : m .control = none) : m' .control = none := by
  induction h with
  | nil => exact hm
  | cons h _ ih => exact ih (h.control hm)

end Registry

/-! ## 3. Routes -/

namespace Routes

variable {α : Type}

/-- **The map that routes stand for.** -/
def registry (r : Routes α) : Registry α := r.get?

/-- The entries of routes come by ascending id. -/
theorem byAscendingId_entries (r : Routes α) : ByAscendingId r.entries := by
  have hasc : r.entries.Pairwise fun x y => x.1 < y.1 := List.pairwise_map.1 r.ascending
  exact hasc

/-- A listener is added exactly when the id is free and not the control id. -/
theorem add?_eq (r : Routes α) (id : RoutingId) (a : α) :
    Routes.add? r id a =
      if id = .control ∨ r.get? id ≠ none then none else some (r.insert id a) := by
  have htaken : (id.isControl || r.contains id) = true ↔ id = .control ∨ r.get? id ≠ none := by
    simp [RoutingId.isControl, Table.contains, Option.isSome_iff_ne_none]
  rw [add?]
  by_cases h : id = .control ∨ r.get? id ≠ none
  · rw [if_pos (htaken.2 h), if_pos h]
  · rw [if_neg (fun hb => h (htaken.1 hb)), if_neg h]

/-- There are as many routes as ids with a listener. -/
theorem size_eq_card (r : Routes α) : r.size = r.keys.toFinset.card := by
  rw [List.toFinset_card_of_nodup r.nodup_keys]
  simp [Table.size, Table.keys]

/-- **Every operation does what the map allows.** -/
theorem allows_apply (r : Routes α) (op : Op α) :
    r.registry.Allows op (r.apply op).1 (r.apply op).2.registry := by
  cases op with
  | add id a =>
    rw [apply, add?_eq]
    by_cases h : id = .control ∨ r.get? id ≠ none
    · rw [if_pos h]
      exact .taken id a h
    · rw [if_neg h]
      obtain ⟨hid, hfree⟩ := not_or.1 h
      have hmap : registry (r.insert id a) = r.registry.update id (some a) := by
        funext j
        by_cases hj : j = id <;> simp [registry, Registry.update, hj]
      exact hmap ▸ .added id a hid (not_not.1 hfree)
  | remove id =>
    cases h : r.get? id with
    | none =>
      simp only [apply, h, Table.erase_of_none h]
      exact .unknown id h
    | some a =>
      have hmap : registry (r.erase id) = r.registry.update id none := by
        funext j
        by_cases hj : j = id <;> simp [registry, Registry.update, hj]
      simp only [apply, h, hmap]
      exact .removed id a h
  | lookup id => exact .lookedUp id
  | change id f =>
    cases h : r.get? id with
    | none =>
      simp only [apply, Table.adjust_of_none h, h]
      exact .unchanged id f h
    | some a =>
      have hmap : registry (r.adjust id f) = r.registry.update id (some (f a)) := by
        funext j
        by_cases hj : j = id <;> simp [registry, Registry.update, hj, h]
      have hanswer : (r.adjust id f).get? id = some (f a) := by simp [h]
      simp only [apply, hmap, hanswer]
      exact .changed id f a h
  | contains id => exact .contained id _ Option.isSome_iff_ne_none
  | size =>
    rw [apply, size_eq_card]
    refine .counted _ fun id => ?_
    rw [List.mem_toFinset, Table.mem_keys_iff]
    exact Option.isSome_iff_ne_none
  | isEmpty =>
    refine .vacant _ ?_
    rw [Table.isEmpty_iff, Table.eq_empty_iff]
    exact forall_congr' fun id => Option.eq_none_iff_forall_ne_some.symm
  | drain => exact .drained _ r.byAscendingId_entries fun _ _ => Table.mem_entries_iff

/-- **And so does every run of operations.** -/
theorem runs_run (r : Routes α) (ops : List (Op α)) :
    Registry.Runs r.registry ops (r.run ops).1 (r.run ops).2.registry := by
  induction ops generalizing r with
  | nil => exact .nil _
  | cons op rest ih => exact .cons (r.allows_apply op) (ih _)

/-- Entries in the order of their ids. -/
def byId (l : List (RoutingId × α)) : List (RoutingId × α) :=
  l.mergeSort fun x y => x.1.value ≤ y.1.value

/-- **In whatever order the entries of routes are kept, sorted by id they are what is drained.** -/
theorem byId_eq_drain {r : Routes α} {order : List (RoutingId × α)}
    (h : order.Perm r.entries) : byId order = r.drain.1 := by
  have hle : (byId order).Pairwise fun x y => x.1.value ≤ y.1.value := by
    refine (List.pairwise_mergeSort (fun x y z hxy hyz => ?_) (fun x y => ?_) order).imp
      of_decide_eq_true
    · exact decide_eq_true (UInt32.le_trans (of_decide_eq_true hxy) (of_decide_eq_true hyz))
    · rw [Bool.or_eq_true, decide_eq_true_iff, decide_eq_true_iff]
      exact UInt32.le_total _ _
  have hperm : (byId order).Perm r.entries := (List.mergeSort_perm _ _).trans h
  have hentries : r.entries.Pairwise fun x y => x.1.value ≤ y.1.value := by
    refine r.byAscendingId_entries.imp fun hlt => ?_
    exact UInt32.le_iff_toNat_le.2 (Nat.le_of_lt hlt)
  refine hperm.eq_of_pairwise (fun x y hx hy hxy hyx => ?_) hle hentries
  -- two entries of one id are the same entry, since an id has one listener at most
  have hid : x.1 = y.1 := by
    have hvalue : x.1.value = y.1.value := UInt32.le_antisymm hxy hyx
    cases hx1 : x.1; cases hy1 : y.1
    simp_all
  have hfx : r.get? x.1 = some x.2 := Table.mem_entries_iff.1 (hperm.mem_iff.1 hx)
  have hfy : r.get? y.1 = some y.2 := Table.mem_entries_iff.1 hy
  have hlistener : x.2 = y.2 := Option.some.inj (hfx.symm.trans (hid ▸ hfy))
  exact Prod.ext hid hlistener

/-- **What is known of the routes after some operations**, beginning with none. -/
structure FirstWins (ops : List (Op α)) (answers : List (Response α)) (r : Routes α) : Prop where
  /-- The answers, and what is left, are those of the map, -/
  allowed : Registry.Runs Registry.empty ops answers r.registry
  /-- which knows no others. -/
  only : ∀ answers' m, Registry.Runs Registry.empty ops answers' m →
    answers' = answers ∧ m = r.registry
  /-- Nobody is registered at the control id. -/
  control : r.registry .control = none
  /-- The order in which the routes are kept does not matter. -/
  unordered : ∀ order : List (RoutingId × α), order.Perm r.entries → byId order = r.drain.1

/-- **Every run of operations that begins with no routes.** -/
theorem firstWins_run (ops : List (Op α)) :
    FirstWins ops (begun ops).1 (begun ops).2 where
  allowed := runs_run Table.empty ops
  only _ _ h := h.functional (runs_run Table.empty ops)
  control := (runs_run Table.empty ops).control rfl
  unordered _ h := byId_eq_drain h

end Routes

/-! ## 4. Peers -/

/-- **A client registers a listener** exactly where nobody is, and not at the control id. -/
theorem ClientPeer.addRoute_eq {A τ : Type} (p : ClientPeer A τ) (id : RoutingId) (a : A) :
    p.addRoute id a =
      if id = .control ∨ p.routes.registry id ≠ none then .error (.routeTaken id)
      else .ok { p with routes := p.routes.insert id a } := by
  rw [addRoute, Routes.add?_eq, Routes.registry]
  by_cases h : id = .control ∨ p.routes.get? id ≠ none
  · simp only [if_pos h]
  · simp only [if_neg h]

namespace HostPeer

variable {A : Type}

/-- **And so does a host.** -/
theorem addRoute_eq (p : HostPeer A) (id : RoutingId) (a : A) :
    p.addRoute id a =
      if id = .control ∨ p.routes.registry id ≠ none then .error (.routeTaken id)
      else .ok { p with routes := p.routes.insert id (.application a) } := by
  rw [addRoute, Routes.add?_eq, Routes.registry]
  by_cases h : id = .control ∨ p.routes.get? id ≠ none
  · simp only [if_pos h]
  · simp only [if_neg h]

variable [Listener A ProfileStore]

/-- **What the end of a peer does with its routes.** -/
structure HandsBack (p : HostPeer A) (s : ProfileStore) (t : Removal A) : Prop where
  /-- Every listener is told once that its route is gone, by ascending id, and handed back. -/
  each : ∃ l : List (RoutingId × HostListener A), ByAscendingId l ∧
    (∀ id a, (id, a) ∈ l ↔ p.routes.registry id = some a) ∧
    (t.removed, t.profiles) = tellRemoved (l.map (·.2)) s ∧ t.removed.length = l.length
  /-- Nobody is left, and nothing else of the peer has changed. -/
  gone : t.peer = { p with routes := t.peer.routes } ∧ t.peer.routes.registry = Registry.empty
  /-- A second time there is nothing to hand back. -/
  again : ∀ s', t.peer.teardown s' = ⟨[], t.peer, s'⟩

/-- Whoever is told is handed back. -/
theorem length_tellRemoved {B C : Type} [Listener B C] (l : List B) (c : C) :
    (tellRemoved l c).1.length = l.length := by
  induction l generalizing c with
  | nil => rfl
  | cons a rest ih => exact congrArg (· + 1) (ih _)

/-- **A peer that ends hands every listener back once.** -/
theorem handsBack_teardown (p : HostPeer A) (s : ProfileStore) :
    p.HandsBack s (p.teardown s) where
  each := by
    refine ⟨p.routes.entries, p.routes.byAscendingId_entries, fun _ _ => Table.mem_entries_iff,
      rfl, ?_⟩
    have hlength := length_tellRemoved (p.routes.entries.map (·.2)) s
    rwa [List.length_map] at hlength
  gone := ⟨rfl, rfl⟩
  again _ := rfl

end HostPeer

/-- **Routes are a map in which the first one wins**, through every run of operations.  Both peers
register listeners by it, and a peer of the host that ends hands back every listener in it once. -/
theorem routes_first_wins :
    (∀ (α : Type) (ops : List (Routes.Op α)),
      Routes.FirstWins ops (Routes.begun ops).1 (Routes.begun ops).2) ∧
    (∀ (A τ : Type) (p : ClientPeer A τ) (id : RoutingId) (a : A), p.addRoute id a =
      if id = .control ∨ p.routes.registry id ≠ none then .error (.routeTaken id)
      else .ok { p with routes := p.routes.insert id a }) ∧
    (∀ (A : Type) (p : HostPeer A) (id : RoutingId) (a : A), p.addRoute id a =
      if id = .control ∨ p.routes.registry id ≠ none then .error (.routeTaken id)
      else .ok { p with routes := p.routes.insert id (.application a) }) ∧
    (∀ (A : Type) [Listener A ProfileStore] (ops : List (Routes.Op (HostListener A)))
      (p : HostPeer A) (s : ProfileStore),
      { p with routes := (Routes.begun ops).2 }.HandsBack s
        ({ p with routes := (Routes.begun ops).2 }.teardown s)) :=
  ⟨fun _ ops => Routes.firstWins_run ops, fun _ _ p => p.addRoute_eq, fun _ p => p.addRoute_eq,
    fun _ _ ops p s => HostPeer.handsBack_teardown { p with routes := (Routes.begun ops).2 } s⟩

end ControlPlane
