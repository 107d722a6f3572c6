/-
# Profiles as a client holds them

A client never touches a profile itself.  Each operation on a handle is a message to the route
that the host keeps for it.  The handle's reference goes back when it is destroyed or dropped.

* `ProfileHandle.create`: asks for a profile;
* `ProfileHandle.update`: changes its settings;
* `ProfileHandle.destroy`, `drop`: gives the reference back.
-/
import ControlPlane.Message.Updates
import ControlPlane.Peer.Client
import ControlPlane.Profile.Basic

namespace ControlPlane

/-- **A client's handle on a profile of the host.** -/
structure ProfileHandle where
  route : RoutingId
  /-- The reference has been given back. -/
  destroyed : Bool := false
  deriving DecidableEq, Repr

namespace ProfileHandle

variable {A τ : Type}

/-- **Asks for the profile of a folder**; an empty one means a profile that leaves nothing
behind.  The id stays used up when the channel is over. -/
def create (p : ClientPeer A τ) (folder : String) (flags : ProfileFlags) :
    Except Fault ProfileHandle × ClientPeer A τ :=
  match p.nextId with
  | (.error e, p) => (.error e, p)
  | (.ok route, p) =>
    let request : ProfileRequest := ⟨route, folder, flags.diskCache, flags.cookies⟩
    match p.deliverOrFail (ProfileCommand.create request).toMessage with
    | (.ok _, p) => (.ok { route }, p)
    | (.error e, p) => (.error e, p)

/-- Whether the lists of an update come in pairs. -/
def paired : ProfileUpdate → Except Fault Unit
  | .addCorrections bad good =>
    if bad.length = good.length then .ok ()
    else .error (.badSetting (ProfileUpdate.unpaired bad good))
  | _ => .ok ()

/-- **Changes the settings of a profile.**  Lists that do not come in pairs are not sent. -/
def update (h : ProfileHandle) (p : ClientPeer A τ) (u : ProfileUpdate) :
    Except Fault Unit × ClientPeer A τ :=
  match paired u with
  | .ok _ => p.deliverOrFail (u.toMessage h.route)
  | .error e => (.error e, p)

/-- **Gives the reference back.** -/
def destroy (h : ProfileHandle) (p : ClientPeer A τ) :
    Except Fault Unit × ClientPeer A τ :=
  p.deliverOrFail (ProfileCommand.destroy h.route).toMessage

/-- **Lets go of a handle**, which gives its reference back unless that was done before. -/
def drop (h : ProfileHandle) (p : ClientPeer A τ) : ClientPeer A τ :=
  if h.destroyed then p else (h.destroy p).2

/-- A handle and its channel, for a person to read. -/
def describe (h : ProfileHandle) (p : ClientPeer A τ) : String :=
  "ProfileProxy \x7b routing_id: RoutingId(" ++ toString h.route.value.toNat
    ++ "), sender: " ++ p.channel.describeSender ++ ", destroyed: " ++ toString h.destroyed
    ++ " \x7d"

end ProfileHandle

end ControlPlane
