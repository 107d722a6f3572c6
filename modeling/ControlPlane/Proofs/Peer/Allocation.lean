/-
# Ids that are never taken twice

The two ends of a channel take routing ids while messages pass between them and routes come and go.
Each end has a block of its own and goes through it once, from its first id to its last; from then
on it gets no more.

* `Taker`, `Taker.owns`, `Taker.nth`: who takes ids, whose an id is, what the `k`-th request gives;
* `Taker.take?_block`: a block behind `k` requests;
* `HostPeer.Act`, `BothEnds.Move`: what is done with the two ends;
* `BothEnds.at_after`: one move, of which only a request for an id concerns the blocks;
* `BothEnds.answers_run`: the answers of a run, and the blocks behind it;
* `HostPeer.refuses_creation`: an id of the client is refused only where something is registered;
* `BothEnds.allocation_run`, `ids_never_collide`: what follows for every run.
-/
import ControlPlane.Proofs.Peer.Blocks
import ControlPlane.Proofs.Peer.ClientLife

namespace ControlPlane

/-! ## 1. Two blocks -/

/-- The control id is the last of all. -/
theorem RoutingId.isControl_iff (id : RoutingId) :
    id.isControl = true ↔ id.value.toNat = 0xFFFFFFFF := by
  rw [isControl, decide_eq_true_iff]
  constructor
  · rintro rfl
    rfl
  · intro h
    have hvalue : id.value = RoutingId.control.value := UInt32.toNat_inj.1 h
    exact congrArg RoutingId.mk hvalue

/-- **Who takes ids**, each from a block of its own. -/
inductive Taker where
  | client
  | host
  deriving DecidableEq

namespace Taker

/-- The number of the first id of a block. -/
def first : Taker → Nat
  | .client => 0
  | .host => 0x10000

/-- The number behind the last id of a block. -/
def stop : Taker → Nat
  | .client => 0x10000
  | .host => 0xFFFFFFFF

/-- How many ids there are in a block. -/
def size (t : Taker) : Nat := t.stop - t.first

/-- Whether an id lies in a block. -/
def owns : Taker → RoutingId → Bool
  | .client, id => id.isClientAllocated
  | .host, id => id.isHostAllocated

/-- **What the `k`-th request for an id gives**, counted from zero. -/
def nth (t : Taker) (k : Nat) : Except Fault RoutingId :=
  if k < t.size then .ok ⟨UInt32.ofNat (t.first + k)⟩ else .error .idsUsedUp

/-- **The block behind `k` requests.** -/
def block (t : Taker) (k : Nat) : IdBlock :=
  ⟨UInt32.ofNat (t.first + min k t.size), UInt32.ofNat t.stop⟩

/-- A block begins with its first id and ends before the control id. -/
theorem bounds (t : Taker) : t.first + t.size = t.stop ∧ t.stop ≤ 0xFFFFFFFF := by
  cases t <;> decide

/-- A number of 32 bits is itself. -/
theorem toNat_ofNat {n : Nat} (h : n ≤ 0xFFFFFFFF) : (UInt32.ofNat n).toNat = n :=
  UInt32.toNat_ofNat_of_lt' (Nat.lt_succ_of_le h)

/-- An id is one of those between the first id of the block and its end. -/
theorem owns_iff (t : Taker) (id : RoutingId) :
    t.owns id = true ↔ t.first ≤ id.value.toNat ∧ id.value.toNat < t.stop := by
  have hlt := id.value.toNat_lt
  cases t with
  | client =>
    rw [owns, RoutingId.isClientAllocated, decide_eq_true_iff, UInt32.lt_iff_toNat_lt]
    exact ⟨fun h => ⟨Nat.zero_le _, h⟩, And.right⟩
  | host =>
    rw [owns, RoutingId.isHostAllocated, Bool.and_eq_true, Bool.not_eq_true', decide_eq_true_iff,
      UInt32.le_iff_toNat_le, ← Bool.not_eq_true, RoutingId.isControl_iff]
    change id.value.toNat ≠ 0xFFFFFFFF ∧ 0x10000 ≤ id.value.toNat ↔
      0x10000 ≤ id.value.toNat ∧ id.value.toNat < 0xFFFFFFFF
    omega

/-- **Every id is the client's, the host's or the control id**, and only one of these. -/
theorem count_owner (id : RoutingId) :
    [id.isClientAllocated, id.isHostAllocated, id.isControl].count true = 1 := by
  have hlt := id.value.toNat_lt
  have hclient := owns_iff .client id
  have hhost := owns_iff .host id
  have hcontrol := id.isControl_iff
  simp only [owns, first, stop] at hclient hhost
  cases hc : id.isClientAllocated <;> cases hh : id.isHostAllocated <;>
    cases hz : id.isControl <;> simp_all <;> omega

/-- What a request gives is the next id of the block. -/
theorem nth_eq_ok_iff {t : Taker} {k : Nat} {id : RoutingId} :
    t.nth k = .ok id ↔ k < t.size ∧ id.value.toNat = t.first + k := by
  obtain ⟨hsize, hstop⟩ := t.bounds
  unfold nth
  split
  next hlt =>
    have hvalue : (UInt32.ofNat (t.first + k)).toNat = t.first + k :=
      toNat_ofNat (by omega)
    constructor
    · intro h
      rw [← Except.ok.inj h]
      exact ⟨hlt, hvalue⟩
    · rintro ⟨-, hid⟩
      have hsame : UInt32.ofNat (t.first + k) = id.value :=
        UInt32.toNat_inj.1 (hvalue.trans hid.symm)
      rw [hsame]
  next hge => exact ⟨nofun, fun h => absurd h.1 hge⟩

/-- **An id lies in a block exactly when a request gives it.** -/
theorem owns_iff_nth {t : Taker} {id : RoutingId} :
    t.owns id = true ↔ ∃ k, t.nth k = .ok id := by
  obtain ⟨hsize, -⟩ := t.bounds
  simp only [owns_iff, nth_eq_ok_iff]
  constructor
  · rintro ⟨hfirst, hstop⟩
    exact ⟨id.value.toNat - t.first, by omega, by omega⟩
  · rintro ⟨k, hk, hid⟩
    omega

/-- A request gives nothing exactly when the block is used up. -/
theorem nth_eq_error_iff {t : Taker} {k : Nat} {e : Fault} :
    t.nth k = .error e ↔ t.size ≤ k ∧ e = .idsUsedUp := by
  unfold nth
  split
  next hlt => exact ⟨nofun, fun h => absurd hlt (Nat.not_lt.2 h.1)⟩
  next hge =>
    constructor
    · intro h
      exact ⟨Nat.not_lt.1 hge, (Except.error.inj h).symm⟩
    · rintro ⟨-, rfl⟩
      rfl

/-- The last id of the client's block, and none behind it. -/
example : Taker.client.nth 0xFFFF = .ok ⟨0xFFFF⟩ ∧ Taker.client.nth 0x10000 = .error .idsUsedUp :=
  ⟨rfl, rfl⟩

/-- **An id is given to one request only**, by one of the two. -/
theorem nth_injective {t u : Taker} {k l : Nat} {id : RoutingId} (hk : t.nth k = .ok id)
    (hl : u.nth l = .ok id) : t = u ∧ k = l := by
  obtain ⟨hk, hid⟩ := nth_eq_ok_iff.1 hk
  obtain ⟨hl, hid'⟩ := nth_eq_ok_iff.1 hl
  cases t <;> cases u <;> simp only [first, stop, size] at hk hl hid hid' <;> simp <;> omega

/-- What a request gives lies in the block of who asks, and nowhere else. -/
theorem owner_of_nth {t : Taker} {k : Nat} {id : RoutingId} (hk : t.nth k = .ok id) :
    (∀ u, u.owns id = true ↔ u = t) ∧ id.isControl = false := by
  have howns : t.owns id = true := owns_iff_nth.2 ⟨k, hk⟩
  refine ⟨fun u => ⟨fun hu => ?_, fun heq => heq ▸ howns⟩, ?_⟩
  · obtain ⟨l, hl⟩ := owns_iff_nth.1 hu
    exact (nth_injective hl hk).1
  · have hless := ((owns_iff t id).1 howns).2
    have hstop := t.bounds.2
    rw [← Bool.not_eq_true, RoutingId.isControl_iff]
    omega

/-- What is left behind some requests begins at the next id, -/
theorem next_block (t : Taker) (k : Nat) : (t.block k).next.toNat = t.first + min k t.size := by
  obtain ⟨hsize, hstop⟩ := t.bounds
  exact toNat_ofNat (by omega)

/-- and its end does not change. -/
theorem stop_block (t : Taker) (k : Nat) : (t.block k).stop.toNat = t.stop := by
  cases t <;> rfl

/-- **One request more.** -/
theorem take?_block (t : Taker) (k : Nat) :
    (t.block k).take? =
      if k < t.size then some (⟨UInt32.ofNat (t.first + k)⟩, t.block (k + 1)) else none := by
  obtain ⟨hsize, -⟩ := t.bounds
  have hnext := t.next_block k
  have hless : (t.block k).next < (t.block k).stop ↔ k < t.size := by
    rw [UInt32.lt_iff_toNat_lt, hnext, stop_block]
    omega
  rw [IdBlock.take?]
  by_cases hk : k < t.size
  · rw [if_pos (hless.2 hk), if_pos hk]
    have hk' : min k t.size = k := by omega
    have hsucc : min (k + 1) t.size = k + 1 := by omega
    simp only [block, hk', hsucc, Option.some.injEq, Prod.mk.injEq, true_and, IdBlock.mk.injEq,
      and_true]
    rw [← Nat.add_assoc, UInt32.ofNat_add (t.first + k) 1]
    rfl
  · rw [if_neg (fun h => hk (hless.1 h)), if_neg hk]

/-- A block that is used up does not change. -/
theorem block_succ {t : Taker} {k : Nat} (hk : ¬ k < t.size) : t.block (k + 1) = t.block k := by
  have hmin : min (k + 1) t.size = min k t.size := by omega
  rw [block, block, hmin]

end Taker

/-- **A client that asks for an id** gets the next one of its block. -/
theorem ClientPeer.nextId_eq {A τ : Type} {p : ClientPeer A τ} {k : Nat}
    (h : p.ids = Taker.client.block k) :
    p.nextId = (Taker.client.nth k, { p with ids := Taker.client.block (k + 1) }) := by
  rw [nextId, h, Taker.take?_block, Taker.nth]
  by_cases hk : k < Taker.client.size
  · simp only [if_pos hk]
  · simp only [if_neg hk, Taker.block_succ hk, ← h]

/-- **And so does a host.** -/
theorem HostPeer.uniqueId_eq {A : Type} {p : HostPeer A} {k : Nat}
    (h : p.ids = Taker.host.block k) :
    p.uniqueId = (Taker.host.nth k, { p with ids := Taker.host.block (k + 1) }) := by
  rw [uniqueId, h, Taker.take?_block, Taker.nth]
  by_cases hk : k < Taker.host.size
  · simp only [if_pos hk]
  · simp only [if_neg hk, Taker.block_succ hk, ← h]

/-! ## 2. What leaves the blocks alone -/

namespace ClientPeer

variable {A τ : Type} [Listener A Outbox]

/-- Whether a client asks for an id. -/
def Act.takes : Act A τ → Bool
  | .use .takeId => true
  | _ => false

/-- To handle events leaves the ids alone. -/
theorem ids_follow (stop : ClientPeer A τ → Bool) (n : Nat) (p : ClientPeer A τ) :
    (follow stop n p).2.ids = p.ids := by
  induction n generalizing p with
  | zero => rfl
  | succ n ih =>
    simp only [follow]
    split
    · rfl
    · split
      next x hx =>
        obtain ⟨-, rest, channel, routes, -, -, -, hafter⟩ := upcoming?_eq hx
        rw [ih, hafter]
      next => rfl

/-- So does every call that handles them. -/
theorem ids_call {a : Act A τ} (hcall : a.isCall = true) (p : ClientPeer A τ) :
    (p.act a).2.ids = p.ids := by
  obtain ⟨stop, n, hloop⟩ := p.act_call hcall
  rw [hloop]
  exact ids_follow stop n p

/-- **Only a request for an id changes what is left of the block.** -/
theorem ids_act (a : Act A τ) (p : ClientPeer A τ) :
    (p.act a).2.ids = if a.takes then p.nextId.2.ids else p.ids := by
  cases a with
  | happen e =>
    simp only [act, hear]
    split <;> rfl
  | fallSilent => rfl
  | next | wait | run => exact ids_call rfl p
  | use u =>
    cases u with
    | takeId | watch | send | request | channel => rfl
    | addRoute id a =>
      simp only [act, use, addRoute]
      cases p.routes.add? id a <;> rfl
    | removeRoute id =>
      simp only [act, use, removeRoute]
      cases p.routes.get? id with
      | none => rfl
      | some a =>
        simp only [sendAll_eq]
        rfl

end ClientPeer

namespace HostPeer

variable {A S : Type}

/-- **What happens to a host's peer, and what is done with it.** -/
inductive Act (A S : Type) where
  | takeId
  | addRoute (id : RoutingId) (a : A)
  | removeRoute (id : RoutingId) (services : HostServices S)
  /-- Every route is removed. -/
  | teardown (services : HostServices S)
  | arrive (x : Arrival S)
  | connected (pid : UInt32)
  | send (m : Message)
  /-- Its end of the channel does anything. -/
  | channel (f : ChannelEnd Empty → ChannelEnd Empty)

/-- Whether a host asks for an id. -/
def Act.takes : Act A S → Bool
  | .takeId => true
  | _ => false

variable [Listener A ProfileStore]

/-- The peer and its surroundings behind one act. -/
def act (x : HostPeer A × S) : Act A S → HostPeer A × S
  | .takeId => (x.1.uniqueId.2, x.2)
  | .addRoute id a =>
    match x.1.addRoute id a with
    | .ok p => (p, x.2)
    | .error _ => x
  | .removeRoute id services =>
    let r := x.1.removeRoute id (services.profiles x.2)
    (r.peer, services.setProfiles x.2 r.profiles)
  | .teardown services =>
    let r := x.1.teardown (services.profiles x.2)
    (r.peer, services.setProfiles x.2 r.profiles)
  | .arrive y => arrive x y
  | .connected pid => (x.1.connected pid, x.2)
  | .send m => ((x.1.send m).2, x.2)
  | .channel f => ({ x.1 with channel := f x.1.channel }, x.2)

/-- **Only a request for an id changes what is left of the block.** -/
theorem ids_act (a : Act A S) (x : HostPeer A × S) :
    (act x a).1.ids = if a.takes then x.1.uniqueId.2.ids else x.1.ids := by
  cases a with
  | addRoute id a =>
    simp only [act, addRoute]
    cases x.1.routes.add? id (.application a) <;> rfl
  | removeRoute id services => exact x.1.ids_removeRoute id _
  | arrive y =>
    cases y with
    | message m services failure => exact ids_receive services failure x.1 m x.2
    | garbage => rfl
  | takeId | teardown | connected | send | channel => rfl

/-- **A request for a profile at an id of the client** breaks the protocol only where something is
registered. -/
theorem refuses_creation {m : Message} {id : RoutingId} (hm : m.Creates id)
    (hclient : id.isClientAllocated = true) (services : HostServices S) (failure : Option String)
    (p : HostPeer A) (s : S) :
    (receive services failure p m s).outcome.isFault = p.hasRoute id := by
  obtain ⟨hcontrol, r, hcommand, rfl⟩ := hm
  have hhost := HostCommand.ofMessage_profileCommand hcommand
  have houtcome : (receive services failure p m s).outcome
      = (create services failure p m.type r s).outcome := by
    simp only [receive, handle, hcontrol, if_true, control, hhost, hcommand, profileCommand]
  rw [houtcome]
  unfold create
  simp only [hclient, Bool.not_true, Bool.false_eq_true, if_false]
  cases hused : p.hasRoute r.route with
  | true => rfl
  | false =>
    simp only [Bool.false_eq_true, if_false]
    rcases ProfileRoute.obtain (services.profiles s) r failure with ⟨e | route, store⟩
    · rfl
    · simp only
      cases p.routes.add? r.route (.profile route) <;> rfl

end HostPeer

/-! ## 3. Both ends -/

/-- **The two ends of a channel**, with the surroundings of the host's. -/
structure BothEnds (A τ B S : Type) where
  client : ClientPeer A τ
  host : HostPeer B
  state : S

namespace BothEnds

variable {A τ B S : Type}

/-- Two new ends. -/
def start (token : Token) (client : ChannelEnd τ) (peer : PeerId) (host : ChannelEnd Empty)
    (state : S) : BothEnds A τ B S :=
  ⟨.ofChannel client token, { id := peer, channel := host }, state⟩

/-- **What is done at one of the ends.** -/
inductive Move (A τ B S : Type) where
  | client (a : ClientPeer.Act A τ)
  | host (a : HostPeer.Act B S)

/-- Who asks for an id with it, if anyone does. -/
def Move.taker? : Move A τ B S → Option Taker
  | .client a => if a.takes then some .client else none
  | .host a => if a.takes then some .host else none

/-- What is left of a block. -/
def ids (x : BothEnds A τ B S) : Taker → IdBlock
  | .client => x.client.ids
  | .host => x.host.ids

/-- What is answered to whoever asks for an id. -/
def answer (x : BothEnds A τ B S) : Taker → Except Fault RoutingId
  | .client => x.client.nextId.1
  | .host => x.host.uniqueId.1

/-- Both blocks are as they are behind so many requests of each end. -/
def At (x : BothEnds A τ B S) (n : Taker → Nat) : Prop := ∀ t, x.ids t = t.block (n t)

/-- Of two new ends nobody has asked for anything. -/
theorem at_start (token : Token) (client : ChannelEnd τ) (peer : PeerId) (host : ChannelEnd Empty)
    (state : S) : (start token client peer host state : BothEnds A τ B S).At fun _ => 0 := by
  intro t
  cases t <;> rfl

/-- Who asks is given the next id of its block. -/
theorem answer_eq {x : BothEnds A τ B S} {n : Taker → Nat} (h : x.At n) (t : Taker) :
    x.answer t = t.nth (n t) := by
  cases t with
  | client => exact congrArg Prod.fst (ClientPeer.nextId_eq (h .client))
  | host => exact congrArg Prod.fst (HostPeer.uniqueId_eq (h .host))

/-- How often someone asks for an id. -/
def requests (t : Taker) (moves : List (Move A τ B S)) : Nat :=
  moves.countP fun m => m.taker? = some t

/-- The answers that someone gets, in their order. -/
def answersTo (t : Taker) (answers : List (Taker × Except Fault RoutingId)) :
    List (Except Fault RoutingId) :=
  answers.filterMap fun a => if a.1 = t then some a.2 else none

/-- What someone is answered is among all answers. -/
theorem mem_answersTo {t : Taker} {answers : List (Taker × Except Fault RoutingId)}
    {r : Except Fault RoutingId} : r ∈ answersTo t answers ↔ (t, r) ∈ answers := by
  simp only [answersTo, List.mem_filterMap, Option.ite_none_right_eq_some, Option.some.injEq]
  constructor
  · rintro ⟨⟨u, q⟩, hmem, rfl, rfl⟩
    exact hmem
  · intro hmem
    exact ⟨(t, r), hmem, rfl, rfl⟩

/-- **All ids that are given.** -/
def given (answers : List (Taker × Except Fault RoutingId)) : List RoutingId :=
  answers.filterMap fun a => a.2.toOption

/-- An id is given by one of the answers. -/
theorem mem_given {answers : List (Taker × Except Fault RoutingId)} {id : RoutingId} :
    id ∈ given answers ↔ ∃ t, (t, .ok id) ∈ answers := by
  rw [given, List.mem_filterMap]
  constructor
  · rintro ⟨⟨t, e | i⟩, hmem, hid⟩
    · cases hid
    · cases hid
      exact ⟨t, hmem⟩
  · rintro ⟨t, hmem⟩
    exact ⟨_, hmem, rfl⟩

variable [Listener A Outbox] [Listener B ProfileStore]

/-- The two ends behind a move. -/
def after (x : BothEnds A τ B S) : Move A τ B S → BothEnds A τ B S
  | .client a => { x with client := (x.client.act a).2 }
  | .host a =>
    let (host, state) := HostPeer.act (x.host, x.state) a
    { x with host, state }

/-- **Moves one after the other**: all the answers, with who has asked, and the two ends behind. -/
def run (x : BothEnds A τ B S) :
    List (Move A τ B S) → List (Taker × Except Fault RoutingId) × BothEnds A τ B S
  | [] => ([], x)
  | m :: rest =>
    let (more, y) := run (x.after m) rest
    ((m.taker?.map fun t => (t, x.answer t)).toList ++ more, y)

/-! ## 4. Runs -/

variable {x : BothEnds A τ B S} {n : Taker → Nat}

/-- **One move**: a request for an id is one more of who asks, and nothing else touches a block. -/
theorem at_after (h : x.At n) (m : Move A τ B S) :
    (x.after m).At fun t => n t + if m.taker? = some t then 1 else 0 := by
  cases m with
  | client a =>
    rintro (_ | _)
    · have hclient : x.client.ids = Taker.client.block (n .client) := h .client
      have hids := x.client.ids_act a
      rw [ClientPeer.nextId_eq hclient, hclient] at hids
      cases htakes : a.takes <;> simpa [ids, after, Move.taker?, htakes] using hids
    · simpa [ids, after, Move.taker?] using h .host
  | host a =>
    rintro (_ | _)
    · simpa [ids, after, Move.taker?] using h .client
    · have hhost : x.host.ids = Taker.host.block (n .host) := h .host
      have hids := HostPeer.ids_act a (x.host, x.state)
      rw [HostPeer.uniqueId_eq hhost, hhost] at hids
      cases htakes : a.takes <;> simpa [ids, after, Move.taker?, htakes] using hids

/-- **Every run goes through the blocks one id after the other.** -/
theorem answers_run (h : x.At n) (moves : List (Move A τ B S)) :
    (∀ t, answersTo t (x.run moves).1 = (List.range' (n t) (requests t moves)).map t.nth) ∧
      (x.run moves).2.At fun t => n t + requests t moves := by
  induction moves generalizing x n with
  | nil => exact ⟨fun t => rfl, h⟩
  | cons m rest ih =>
    obtain ⟨hrest, hend⟩ := ih (at_after h m)
    have hrequests : ∀ t, requests t (m :: rest)
        = (if m.taker? = some t then 1 else 0) + requests t rest := by
      intro t
      simp [requests, List.countP_cons, Nat.add_comm]
    constructor
    · intro t
      have hanswers : answersTo t (x.run (m :: rest)).1
          = answersTo t (m.taker?.map fun u => (u, x.answer u)).toList
            ++ answersTo t ((x.after m).run rest).1 := List.filterMap_append
      rw [hanswers, hrest, hrequests]
      by_cases htaker : m.taker? = some t
      · simp [htaker, answersTo, answer_eq h, Nat.add_comm 1, List.range'_succ]
      · have hnone : answersTo t (m.taker?.map fun u => (u, x.answer u)).toList = [] := by
          cases hm : m.taker? with
          | none => rfl
          | some u =>
            have hne : u ≠ t := fun heq => htaker (hm.trans (congrArg some heq))
            simp [answersTo, hne]
        simp [htaker, hnone]
    · intro t
      have hsum : n t + requests t (m :: rest)
          = (n t + if m.taker? = some t then 1 else 0) + requests t rest := by
        rw [hrequests, Nat.add_assoc]
      exact (hend t).trans (congrArg t.block hsum.symm)

/-- Whatever is answered in a run is what one of its requests gives. -/
theorem mem_run (h : x.At n) {moves : List (Move A τ B S)} {t : Taker}
    {r : Except Fault RoutingId} :
    (t, r) ∈ (x.run moves).1 ↔ ∃ k, n t ≤ k ∧ k < n t + requests t moves ∧ t.nth k = r := by
  rw [← mem_answersTo, (answers_run h moves).1 t, List.mem_map]
  simp only [List.mem_range'_1, and_assoc]

/-- **No id is given twice.** -/
theorem nodup_given (h : x.At n) (moves : List (Move A τ B S)) :
    (given (x.run moves).1).Nodup := by
  induction moves generalizing x n with
  | nil => exact List.nodup_nil
  | cons m rest ih =>
    have hafter := at_after h m
    have hsplit : given (x.run (m :: rest)).1
        = given (m.taker?.map fun u => (u, x.answer u)).toList
          ++ given ((x.after m).run rest).1 := List.filterMap_append
    rw [hsplit]
    cases htaker : m.taker? with
    | none => exact ih hafter
    | some t =>
      rw [Option.map_some, Option.toList_some]
      cases hanswer : x.answer t with
      | error e => exact ih hafter
      | ok id =>
        refine List.nodup_cons.2 ⟨fun hmem => ?_, ih hafter⟩
        -- the id was the next one of a block, and all that are given later come behind it
        obtain ⟨u, hu⟩ := mem_given.1 hmem
        obtain ⟨k, hk, -, hid⟩ := (mem_run hafter).1 hu
        obtain ⟨rfl, rfl⟩ := Taker.nth_injective ((answer_eq h t).symm.trans hanswer) hid
        rw [if_pos htaker] at hk
        exact Nat.not_succ_le_self _ hk

/-! ## 5. Every run -/

/-- **What is known of the ids behind some moves**, of the answers so far and of all that follow. -/
structure Allocation (moves : List (Move A τ B S))
    (answers : List (Taker × Except Fault RoutingId)) (x : BothEnds A τ B S) : Prop where
  /-- Each end is answered from its own block, one id after the other from the first one on, and
  with a fault from when there are no more. -/
  each : ∀ t, answersTo t answers = (List.range (requests t moves)).map t.nth
  /-- The counters say how many have been given, and go no further than the end of the block. -/
  counter : ∀ t, (x.ids t).next.toNat = t.first + min (requests t moves) t.size ∧
    (x.ids t).stop.toNat = t.stop
  /-- No two answers give the same id. -/
  distinct : (given answers).Nodup
  /-- An id that an end gets lies in its block, not in the other one, and is not the control id. -/
  owned : ∀ t id, (t, .ok id) ∈ answers → (∀ u, u.owns id = true ↔ u = t) ∧ id.isControl = false
  /-- An id that the client gets is good for a profile, unless something is registered there. -/
  accepted : ∀ id, (.client, .ok id) ∈ answers → ∀ m : Message, m.Creates id →
    ∀ (services : HostServices S) (failure : Option String) (p : HostPeer B) (s : S),
      (p.receive services failure m s).outcome.isFault = p.hasRoute id
  /-- An end gets no more ids exactly when it has got all of its block, -/
  exhausted : ∀ t, x.answer t = .error .idsUsedUp ↔ ∀ id, t.owns id = true → (t, .ok id) ∈ answers
  /-- and there is no other reason. -/
  only : ∀ t e, x.answer t = .error e → e = .idsUsedUp
  /-- From then on it never gets one. -/
  forever : ∀ t, x.answer t = .error .idsUsedUp → ∀ (more : List (Move A τ B S)) (r),
    (t, r) ∈ (x.run more).1 → r = .error .idsUsedUp
  /-- **No id comes back**, whatever follows and whatever routes are removed. -/
  fresh : ∀ id ∈ given answers, ∀ more : List (Move A τ B S), id ∉ given (x.run more).1

/-- **Every run that begins with two new ends.** -/
theorem allocation_run (token : Token) (client : ChannelEnd τ) (peer : PeerId)
    (host : ChannelEnd Empty) (state : S) (moves : List (Move A τ B S)) :
    Allocation moves ((start token client peer host state : BothEnds A τ B S).run moves).1
      ((start token client peer host state : BothEnds A τ B S).run moves).2 := by
  have hstart : (start token client peer host state : BothEnds A τ B S).At fun _ => 0 :=
    at_start token client peer host state
  obtain ⟨heach, hend⟩ := answers_run hstart moves
  simp only [Nat.zero_add] at hend
  have hmem : ∀ {t : Taker} {r : Except Fault RoutingId},
      (t, r) ∈ ((start token client peer host state : BothEnds A τ B S).run moves).1 ↔
        ∃ k, k < requests t moves ∧ t.nth k = r := by
    intro t r
    simpa using mem_run hstart
  constructor
  case each =>
    intro t
    rw [heach, List.range_eq_range']
  case counter =>
    intro t
    rw [hend t]
    exact ⟨t.next_block _, t.stop_block _⟩
  case distinct => exact nodup_given hstart moves
  case owned =>
    intro t id hid
    obtain ⟨k, -, hk⟩ := hmem.1 hid
    exact Taker.owner_of_nth hk
  case accepted =>
    intro id hid m hm services failure p s
    obtain ⟨k, -, hk⟩ := hmem.1 hid
    have hclient : Taker.client.owns id = true := Taker.owns_iff_nth.2 ⟨k, hk⟩
    exact HostPeer.refuses_creation hm hclient services failure p s
  case exhausted =>
    intro t
    rw [answer_eq hend, Taker.nth_eq_error_iff]
    constructor
    · rintro ⟨hsize, -⟩ id howns
      obtain ⟨k, hk⟩ := Taker.owns_iff_nth.1 howns
      have hless := (Taker.nth_eq_ok_iff.1 hk).1
      exact hmem.2 ⟨k, Nat.lt_of_lt_of_le hless hsize, hk⟩
    · intro hall
      refine ⟨Nat.not_lt.1 fun hless => ?_, rfl⟩
      -- the next id of the block would have been given before
      have hnext : t.nth (requests t moves) = .ok ⟨UInt32.ofNat (t.first + requests t moves)⟩ :=
        if_pos hless
      obtain ⟨k, hk, hid⟩ := hmem.1 (hall _ (Taker.owns_iff_nth.2 ⟨_, hnext⟩))
      exact Nat.ne_of_lt hk (Taker.nth_injective hid hnext).2
  case only =>
    intro t e he
    rw [answer_eq hend] at he
    exact (Taker.nth_eq_error_iff.1 he).2
  case forever =>
    intro t hnone more r hr
    rw [answer_eq hend, Taker.nth_eq_error_iff] at hnone
    obtain ⟨k, hk, -, rfl⟩ := (mem_run hend).1 hr
    exact Taker.nth_eq_error_iff.2 ⟨Nat.le_trans hnone.1 hk, rfl⟩
  case fresh =>
    intro id hid more hmore
    obtain ⟨t, ht⟩ := mem_given.1 hid
    obtain ⟨u, hu⟩ := mem_given.1 hmore
    obtain ⟨k, hk, hid⟩ := hmem.1 ht
    obtain ⟨l, hl, -, hid'⟩ := (mem_run hend).1 hu
    obtain ⟨rfl, rfl⟩ := Taker.nth_injective hid hid'
    exact Nat.not_lt.2 hl hk

omit [Listener A Outbox] [Listener B ProfileStore] in
/-- **Routing ids never collide and never come back.**  Every id is the client's, the host's or the
control id; each end is given those of its block and no others; and so it is through every run. -/
theorem ids_never_collide :
    (∀ id : RoutingId, [id.isClientAllocated, id.isHostAllocated, id.isControl].count true = 1) ∧
    (∀ (t : Taker) (id : RoutingId), t.owns id = true ↔ ∃ k, t.nth k = .ok id) ∧
    (∀ (A τ B S : Type) [Listener A Outbox] [Listener B ProfileStore] (token : Token)
      (client : ChannelEnd τ) (peer : PeerId) (host : ChannelEnd Empty) (state : S)
      (moves : List (Move A τ B S)),
      Allocation moves ((start token client peer host state : BothEnds A τ B S).run moves).1
        ((start token client peer host state : BothEnds A τ B S).run moves).2) :=
  ⟨Taker.count_owner, fun _ _ => Taker.owns_iff_nth,
    fun _ _ _ _ => allocation_run⟩

end BothEnds

end ControlPlane
