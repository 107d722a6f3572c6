/-
# Profiles on disk

The folders of profiles in a tree of folders and files.  A folder outlives its profile, except
for the one of a profile that leaves nothing behind.

* `ProfileDisk.prepare`: makes the folder that obtaining a profile needs;
* `ProfileDisk.keepsFolder`: whether the folder a profile had is still there.
-/
import ControlPlane.Message.Commands
import ControlPlane.Profile.Store

namespace ControlPlane.ProfileDisk

/-- **Makes the folder** that obtaining a profile needs: the tree after it, and what goes wrong,
if anything. -/
def prepare (s : ProfileStore) (t : Folder.Tree) (folder : String) :
    Folder.Tree × Option String :=
  if s.makesFolder folder then t.makeAll folder else (t, none)

/-- The folder that a message asks a host for, if it asks for one. -/
def requested? (m : Message) : Option ProfileRequest :=
  if m.isControl then
    match ProfileCommand.ofMessage m with
    | .ok (some (.create r)) => some r
    | _ => none
  else none

/-- Makes the folder that a message needs, if its id would be accepted. -/
def prepareFor (s : ProfileStore) (t : Folder.Tree) (accepts : RoutingId → Bool) (m : Message) :
    Folder.Tree × Option String :=
  match requested? m with
  | some r => if accepts r.route then prepare s t r.directory else (t, none)
  | none => (t, none)

/-- Whether the folder of a profile that was made for `folder` is still there. -/
def keepsFolder (s : ProfileStore) (t : Folder.Tree) (id : ProfileId) (folder : String) : Bool :=
  if folder.isEmpty then (s.get? id).isSome else t.hasFolder folder

end ControlPlane.ProfileDisk
