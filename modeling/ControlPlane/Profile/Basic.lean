/-
# Profiles

The settings that clients share under one identity.  A profile belongs to a folder, or it leaves
nothing behind; it counts the references that clients hold to it.

* `Profile.apply`: what an update does to a profile;
* `references_apply`, `folder_apply`, `flags_apply`: what no update changes.
-/
import ControlPlane.Message.Updates
import ControlPlane.Table

namespace ControlPlane

/-- **What a profile keeps**, fixed when it is made. -/
structure ProfileFlags where
  diskCache : Bool := false
  cookies : Bool := false
  deriving DecidableEq, Repr, Inhabited

/-- **The settings that clients share.** -/
structure Profile where
  /-- The folder as it was first spelled; `none` for a profile that leaves nothing behind. -/
  folder : Option String
  flags : ProfileFlags
  proxy : ProxySetting := .system
  spellCheck : SpellCheck := {}
  /-- The words of the dictionary. -/
  words : Table String Unit := Table.empty
  /-- The good word of each bad word. -/
  corrections : Table String String := Table.empty
  /-- The references that are held. -/
  references : Nat := 1
  deriving DecidableEq, Inhabited

namespace Profile

/-- Whether a profile leaves nothing behind. -/
def isIncognito (p : Profile) : Bool := p.folder.isNone

/-- **What an update does.**  Of a list of words the later ones win. -/
def apply (p : Profile) : ProfileUpdate → Profile
  | .setProxy c => { p with proxy := .custom c }
  | .useSystemProxy => { p with proxy := .system }
  | .setSpellCheck s => { p with spellCheck := s }
  | .addWords ws => { p with words := ws.foldl (fun t w => t.insert w ()) p.words }
  | .removeWords ws => { p with words := ws.foldl (fun t w => t.erase w) p.words }
  | .addCorrections bad good =>
    { p with corrections := (bad.zip good).foldl (fun t e => t.insert e.1 e.2) p.corrections }
  | .removeCorrections bad =>
    { p with corrections := bad.foldl (fun t w => t.erase w) p.corrections }

/-- An update leaves the references as they are. -/
@[simp] theorem references_apply (p : Profile) (u : ProfileUpdate) :
    (p.apply u).references = p.references := by
  cases u <;> rfl

/-- An update leaves the folder as it is. -/
@[simp] theorem folder_apply (p : Profile) (u : ProfileUpdate) :
    (p.apply u).folder = p.folder := by
  cases u <;> rfl

/-- An update leaves the flags as they are. -/
@[simp] theorem flags_apply (p : Profile) (u : ProfileUpdate) :
    (p.apply u).flags = p.flags := by
  cases u <;> rfl

end Profile

end ControlPlane
