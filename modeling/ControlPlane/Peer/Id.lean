/-
# Peer ids

The identity of one end of a channel inside its process.
-/
import ControlPlane.Table

namespace ControlPlane

/-- **The identity of a peer.**  A host counts its peers from one and uses no identity twice. -/
structure PeerId where
  value : Nat
  deriving DecidableEq, Repr, Inhabited

namespace PeerId

instance : Key PeerId := Key.ofNat (·.value) fun a b h => by cases a; cases b; simp_all

/-- The text of an identity. -/
def text (id : PeerId) : String := "peer-" ++ toString id.value

/-- The identity of the only peer of a client process. -/
def client : PeerId := ⟨0⟩

end PeerId

end ControlPlane
