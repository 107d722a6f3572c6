/-
# Channel tokens

What a spawned process needs in order to join a channel: the channel's name, and the switches it
inherits.  A token is a binary record in base 64, so that it can be passed on a command line.

    [u16 version] [text name] [u32 count] ([text key] [text value])*

where a text is its length in 32 bits and its bytes.

* `Token.encode`, `Token.decode`: the two directions; whatever follows a full record is ignored;
* `Token.switch?`: the value of the first switch with a key.
-/
import ControlPlane.Base64
import ControlPlane.BigEndian
import ControlPlane.Text.Blank
import ControlPlane.Version

namespace ControlPlane

/-- A key with a value, handed down to spawned processes. -/
abbrev Switch := String × String

/-- **What a process needs to join a channel.** -/
structure Token where
  channel : String
  /-- The inherited switches in order. -/
  switches : List Switch
  deriving DecidableEq, Repr, Inhabited

namespace Token

/-! ## 1. Faults -/

/-- **Why a token cannot be read.** -/
inductive Fault where
  /-- It is no base 64, or a text inside is no UTF-8. -/
  | badEncoding
  /-- Its record has another version. -/
  | otherVersion (expected found : UInt16)
  /-- Its record ends early. -/
  | truncated
  deriving DecidableEq, Repr

/-- The wording of a fault. -/
def Fault.message : Fault → String
  | .badEncoding => "token is not valid base64 or contains invalid UTF-8"
  | .otherVersion expected found =>
    "token format version " ++ toString found.toNat ++ " does not match "
      ++ toString expected.toNat
  | .truncated => "token record is truncated"

/-! ## 2. Writing -/

/-- A text with its length. -/
def putText (s : String) : Bytes :=
  BigEndian.word32 (UInt32.ofNat (Text.Utf8.size s)) ++ Text.Utf8.encode s

/-- A switch: its key and its value. -/
def putSwitch (s : Switch) : Bytes := putText s.1 ++ putText s.2

/-- The binary record of a token. -/
def record (t : Token) : Bytes :=
  BigEndian.word16 tokenVersion ++ putText t.channel
    ++ BigEndian.word32 (UInt32.ofNat t.switches.length) ++ t.switches.flatMap putSwitch

/-- **The text of a token.** -/
def encode (t : Token) : String := String.ofList (Base64.encode t.record)

/-! ## 3. Reading -/

/-- A word of 32 bits at the front of some bytes. -/
def takeWord32 : Bytes → Except Fault (UInt32 × Bytes)
  | a :: b :: c :: d :: rest => .ok (BigEndian.ofBytes32 a b c d, rest)
  | _ => .error .truncated

/-- A text at the front of some bytes. -/
def takeText (bs : Bytes) : Except Fault (String × Bytes) := do
  let (n, bs) ← takeWord32 bs
  if bs.length < n.toNat then throw .truncated
  match Text.Utf8.decode? (bs.take n.toNat) with
  | some s => return (s, bs.drop n.toNat)
  | none => throw .badEncoding

/-- A number of switches at the front of some bytes. -/
def takeSwitches : (count : Nat) → Bytes → Except Fault (List Switch)
  | 0, _ => .ok []
  | n + 1, bs => do
    let (key, bs) ← takeText bs
    let (value, bs) ← takeText bs
    return (key, value) :: (← takeSwitches n bs)

/-- The token at the front of a binary record. -/
def ofRecord : Bytes → Except Fault Token
  | a :: b :: bs => do
    let found := BigEndian.ofBytes16 a b
    if found ≠ tokenVersion then throw (.otherVersion tokenVersion found)
    let (channel, bs) ← takeText bs
    let (count, bs) ← takeWord32 bs
    return ⟨channel, ← takeSwitches count.toNat bs⟩
  | _ => .error .truncated

/-- **The token of a text.**  Blanks around it do not matter. -/
def decode (s : String) : Except Fault Token :=
  match Base64.decode? (Text.trim s.toList) with
  | some bs => ofRecord bs
  | none => .error .badEncoding

/-! ## 4. Switches -/

/-- The value of the first switch with a key. -/
def switch? (t : Token) (key : String) : Option String := t.switches.lookup key

end Token

end ControlPlane
