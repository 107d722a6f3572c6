/-
# The profiles of a host

All profiles live in one store.  Obtaining a folder that a live profile belongs to gives that
profile; an empty folder always gives a new one that leaves nothing behind.  References are
counted, and only destroying a profile removes it.

* `ProfileStore.obtain`, `release`, `destroy`, `destroyAll`: the life of a profile;
* `ProfileStore.update`: a change of settings.

Making a folder can fail.  The operations that make one take the failure as an argument, `none`
when the system makes the folder.
-/
import ControlPlane.Fault
import ControlPlane.Folder
import ControlPlane.Profile.Basic

namespace ControlPlane

/-- **The identity of a profile.**  Identities count up from zero and are never used again. -/
structure ProfileId where
  value : Nat
  deriving DecidableEq, Repr, Inhabited

namespace ProfileId

instance : Key ProfileId := Key.ofNat (·.value) fun a b h => by cases a; cases b; simp_all

/-- The text of an identity. -/
def text (id : ProfileId) : String := "profile-" ++ toString id.value

end ProfileId

/-- **The profiles of a host.** -/
structure ProfileStore where
  profiles : Table ProfileId Profile := Table.empty
  /-- The profile that each folder belongs to. -/
  byFolder : Table Folder.Place ProfileId := Table.empty
  nextId : Nat := 0
  /-- All profiles have been destroyed for good. -/
  closed : Bool := false
  deriving Inhabited

namespace ProfileStore

/-! ## 1. Looking up -/

/-- The profile with an identity. -/
def get? (s : ProfileStore) (id : ProfileId) : Option Profile := s.profiles.get? id

/-- The profile that a folder belongs to. -/
def find? (s : ProfileStore) (folder : String) : Option ProfileId :=
  s.byFolder.get? (Folder.components folder)

/-- The number of profiles. -/
def size (s : ProfileStore) : Nat := s.profiles.size

/-- Whether obtaining a folder makes it. -/
def makesFolder (s : ProfileStore) (folder : String) : Bool :=
  !s.closed && !folder.isEmpty && (s.find? folder).isNone

/-! ## 2. Obtaining -/

/-- A new profile in the store, and its identity. -/
def add (s : ProfileStore) (p : Profile) : ProfileId × ProfileStore :=
  (⟨s.nextId⟩, { s with profiles := s.profiles.insert ⟨s.nextId⟩ p, nextId := s.nextId + 1 })

/-- A new profile that leaves nothing behind.  Whatever flags were asked for, it keeps none. -/
def obtainIncognito (s : ProfileStore) (failure : Option String) :
    Except Fault ProfileId × ProfileStore :=
  match failure with
  | some text => (.error (.whileDoing "Failed to create incognito directory" text), s)
  | none =>
    let (id, s) := s.add { folder := none, flags := {} }
    (.ok id, s)

/-- A new profile for a folder that belongs to none. -/
def obtainNew (s : ProfileStore) (folder : String) (flags : ProfileFlags)
    (failure : Option String) : Except Fault ProfileId × ProfileStore :=
  match failure with
  | some text =>
    (.error (.whileDoing ("Failed to create profile directory " ++ folder) text), s)
  | none =>
    let (id, s) := s.add { folder := some folder, flags }
    (.ok id, { s with byFolder := s.byFolder.insert (Folder.components folder) id })

/-- **Takes a reference to the profile of a folder**, which is made if there is none.  The flags
of a profile that is there stay as they are. -/
def obtain (s : ProfileStore) (folder : String) (flags : ProfileFlags)
    (failure : Option String) : Except Fault ProfileId × ProfileStore :=
  if s.closed then (.error .profilesDestroyed, s)
  else if folder.isEmpty then s.obtainIncognito failure
  else
    match s.find? folder with
    | some id =>
      if (s.get? id).isSome then
        (.ok id, { s with
          profiles := s.profiles.adjust id fun p => { p with references := p.references + 1 } })
      else (.error (.unknownProfile id.value), s)
    | none => s.obtainNew folder flags failure

/-! ## 3. Releasing and destroying -/

/-- **Gives a reference back.**  The profile stays, also without references. -/
def release (s : ProfileStore) (id : ProfileId) : Except Fault ProfileStore :=
  match s.get? id with
  | some _ =>
    .ok { s with
      profiles := s.profiles.adjust id fun p => { p with references := p.references - 1 } }
  | none => .error (.unknownProfile id.value)

/-- **Destroys a profile.**  Its folder can be obtained again, as another profile. -/
def destroy (s : ProfileStore) (id : ProfileId) : Except Fault ProfileStore :=
  match s.get? id with
  | some p =>
    .ok { s with
      profiles := s.profiles.erase id
      byFolder :=
        match p.folder with
        | some folder => s.byFolder.erase (Folder.components folder)
        | none => s.byFolder }
  | none => .error (.unknownProfile id.value)

/-- **Destroys all profiles for good.** -/
def destroyAll (s : ProfileStore) : ProfileStore :=
  { s with profiles := Table.empty, byFolder := Table.empty, closed := true }

/-- **Changes the settings of a profile**; `none` when there is no such profile. -/
def update (s : ProfileStore) (id : ProfileId) (u : ProfileUpdate) : Option ProfileStore :=
  match s.get? id with
  | some _ => some { s with profiles := s.profiles.adjust id (·.apply u) }
  | none => none

end ProfileStore

end ControlPlane
