/-
# Channel names

A channel is named by the version of the program that made it, a random part and the number of
the socket it listens at, with a point between them.

* `ChannelName.make`: the name of a new channel;
* `ChannelName.isCompatible`: whether a name was made by this version;
* `ChannelName.socket?`: the socket number at the end of a name.
-/
import ControlPlane.Number.Decimal
import ControlPlane.Version

namespace ControlPlane.ChannelName

/-- **The name of a new channel.** -/
def make (nonce : String) (socket : UInt16) : String :=
  binaryVersion ++ String.singleton nameSeparator ++ nonce ++ String.singleton nameSeparator
    ++ toString socket.toNat

/-- The characters behind a beginning, when a text starts with it. -/
def behind? : (beginning : List Char) → List Char → Option (List Char)
  | [], cs => some cs
  | _ :: _, [] => none
  | b :: bs, c :: cs => if b = c then behind? bs cs else none

/-- **A name made by this version**: the version, the separator, and something behind it. -/
def isCompatible (name : String) : Bool :=
  match behind? (binaryVersion.toList ++ [nameSeparator]) name.toList with
  | some rest => !rest.isEmpty
  | none => false

/-- Why a name has no socket number. -/
inductive Fault where
  /-- There is no separator. -/
  | missingSocket
  /-- What follows the last separator is no number of 16 bits. -/
  | badSocket
  deriving DecidableEq, Repr

/-- The wording of a fault. -/
def Fault.message : Fault → String
  | .missingSocket => "missing port"
  | .badSocket => "port is not a number"

/-- The parts of a text around the last occurrence of a character. -/
def splitLast? (c : Char) (cs : List Char) : Option (List Char × List Char) :=
  let rev := cs.reverse
  match rev.dropWhile (· != c) with
  | [] => none
  | _ :: front => some (front.reverse, (rev.takeWhile (· != c)).reverse)

/-- **The socket number at the end of a name.** -/
def socket? (name : String) : Except Fault UInt16 :=
  match splitLast? nameSeparator name.toList with
  | none => .error .missingSocket
  | some (_, tail) =>
    match Decimal.read UInt16.size tail with
    | .ok n => .ok (UInt16.ofNat n)
    | .error _ => .error .badSocket

end ControlPlane.ChannelName
