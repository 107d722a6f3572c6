/-
# Routing ids

Many objects share one channel, and each is addressed by an id.  Each end takes new ids from a
block of its own, so that the two never collide:

    [0, 0x10000)              taken by the client
    [0x10000, 0xFFFFFFFF)     taken by the host
    0xFFFFFFFF                the peer itself

An id is never taken twice: a late message for an object that is gone cannot reach a newer one.

* `RoutingId`: an id, and the block it lies in;
* `IdBlock.take?`: the next id of a block;
* `IdBlock.takeUpTo`: several of them in a row.
-/
import ControlPlane.Table

namespace ControlPlane

/-- **The address of an object on a channel.** -/
structure RoutingId where
  value : UInt32
  deriving DecidableEq, Repr, Inhabited

namespace RoutingId

instance : Key RoutingId :=
  Key.ofNat (·.value.toNat) fun a b h => by
    cases a; cases b; simp_all [UInt32.toNat_inj]

/-- The address of the peer itself. -/
def control : RoutingId := ⟨0xFFFFFFFF⟩

/-- The first id of the host's block. -/
def hostBase : RoutingId := ⟨0x10000⟩

/-- Whether an id addresses the peer itself. -/
def isControl (id : RoutingId) : Bool := id = control

/-- Whether an id lies in the host's block. -/
def isHostAllocated (id : RoutingId) : Bool := !id.isControl && hostBase.value ≤ id.value

/-- Whether an id lies in the client's block. -/
def isClientAllocated (id : RoutingId) : Bool := id.value < hostBase.value

/-- The text of an id. -/
def text (id : RoutingId) : String :=
  if id.isControl then "control" else toString id.value.toNat

end RoutingId

/-- **A block of ids** that is being handed out in ascending order. -/
structure IdBlock where
  next : UInt32
  stop : UInt32
  deriving DecidableEq, Repr

namespace IdBlock

/-- The client's block, untouched. -/
def client : IdBlock := ⟨0, RoutingId.hostBase.value⟩

/-- The host's block, untouched. -/
def host : IdBlock := ⟨RoutingId.hostBase.value, RoutingId.control.value⟩

/-- The next id of a block, and what is left; `none` when the block is used up. -/
def take? (b : IdBlock) : Option (RoutingId × IdBlock) :=
  if b.next < b.stop then some (⟨b.next⟩, { b with next := b.next + 1 }) else none

/-- **Takes `n` ids in a row**, or as many as are left: how many, and the block behind them. -/
def takeUpTo (n : Nat) (b : IdBlock) : Nat × IdBlock :=
  let taken := min n (b.stop.toNat - b.next.toNat)
  (taken, { b with next := b.next + UInt32.ofNat taken })

@[simp] theorem takeUpTo_zero (b : IdBlock) : b.takeUpTo 0 = (0, b) := by
  simp [takeUpTo]

/-- Taking ids in a row is taking one after the other. -/
theorem takeUpTo_succ (n : Nat) (b : IdBlock) :
    b.takeUpTo (n + 1) =
      match b.take? with
      | some (_, rest) => ((rest.takeUpTo n).1 + 1, (rest.takeUpTo n).2)
      | none => (0, b) := by
  obtain ⟨next, stop⟩ := b
  have hn := next.toNat_lt
  have hs := stop.toNat_lt
  by_cases h : next < stop
  · have hlt : next.toNat < stop.toNat := UInt32.lt_iff_toNat_lt.1 h
    have hone : (next + 1).toNat = next.toNat + 1 := by
      rw [UInt32.toNat_add]
      exact Nat.mod_eq_of_lt (by simp; omega)
    have hcount : min (n + 1) (stop.toNat - next.toNat)
        = min n (stop.toNat - (next + 1).toNat) + 1 := by omega
    simp only [takeUpTo, take?, h, if_true, hcount, Prod.mk.injEq, true_and]
    congr 1
    rw [UInt32.ofNat_add, UInt32.add_assoc, UInt32.add_comm (UInt32.ofNat _) (UInt32.ofNat 1)]
    rfl
  · have hle : stop.toNat ≤ next.toNat := Nat.le_of_not_lt (h ∘ UInt32.lt_iff_toNat_lt.2)
    have hcount : min (n + 1) (stop.toNat - next.toNat) = 0 := by omega
    simp [takeUpTo, take?, h, hcount]

end IdBlock

/-! ## Routes -/

/-- **What is registered at which id.**  No table holds the control id. -/
abbrev Routes (α : Type) := Table RoutingId α

namespace Routes

variable {α : Type}

/-- Registers a listener; `none` when the id is taken or is the control id. -/
def add? (r : Routes α) (id : RoutingId) (listener : α) : Option (Routes α) :=
  if id.isControl || r.contains id then none else some (r.insert id listener)

/-- Removes every listener: what was registered, by ascending id, and the empty table. -/
def drain (r : Routes α) : List (RoutingId × α) × Routes α := (r.entries, Table.empty)

end Routes

end ControlPlane
