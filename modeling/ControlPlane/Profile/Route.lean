/-
# Routes to profiles

A host keeps one listener for each profile that a client holds.  The listener holds one reference
to the profile from its creation until its route is removed.
-/
import ControlPlane.Message.Commands
import ControlPlane.Peer.Dispatch
import ControlPlane.Profile.Store

namespace ControlPlane

/-- **A client's hold on a profile.** -/
structure ProfileRoute where
  /-- The address it was made for. -/
  route : RoutingId
  profile : ProfileId
  deriving DecidableEq, Repr

namespace ProfileRoute

/-- **Takes hold of a profile** as a client asks for it. -/
def obtain (s : ProfileStore) (r : ProfileRequest) (failure : Option String) :
    Except Fault ProfileRoute × ProfileStore :=
  match s.obtain r.directory ⟨r.diskCache, r.cookies⟩ failure with
  | (.ok id, s) => (.ok ⟨r.route, id⟩, s)
  | (.error e, s) => (.error e, s)

/-- **An update arrives.**  Its payload is read before the profile is looked for; a profile that
has been destroyed takes no updates. -/
def receive (p : ProfileRoute) (m : Message) (s : ProfileStore) : Outcome × ProfileStore :=
  match ProfileUpdate.ofMessage m with
  | .error e => (.error e, s)
  | .ok none => (.error (.unknownType m.type), s)
  | .ok (some u) =>
    match s.update p.profile u with
    | some s => (.ok .handled, s)
    | none => (.ok .unhandled, s)

/-- **Lets go of the profile**, unless it was destroyed before. -/
def release (p : ProfileRoute) (s : ProfileStore) : ProfileStore :=
  match s.release p.profile with
  | .ok s => s
  | .error _ => s

instance : Listener ProfileRoute ProfileStore where
  receive p m s :=
    let (outcome, s) := p.receive m s
    ⟨outcome, p, s⟩
  removed p s := (p, p.release s)

end ProfileRoute

end ControlPlane
