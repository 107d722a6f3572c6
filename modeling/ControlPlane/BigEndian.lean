/-
# Words as bytes

Unsigned words as bytes with the most significant byte first, as lengths and tags are written.
-/
import ControlPlane.Text.Utf8

namespace ControlPlane.BigEndian

/-- The two bytes of a word. -/
def word16 (n : UInt16) : Bytes := [(n >>> 8).toUInt8, n.toUInt8]

/-- The four bytes of a word. -/
def word32 (n : UInt32) : Bytes :=
  [(n >>> 24).toUInt8, (n >>> 16).toUInt8, (n >>> 8).toUInt8, n.toUInt8]

/-- The word of two bytes. -/
def ofBytes16 (a b : UInt8) : UInt16 := a.toUInt16 <<< 8 ||| b.toUInt16

/-- The word of four bytes. -/
def ofBytes32 (a b c d : UInt8) : UInt32 :=
  a.toUInt32 <<< 24 ||| b.toUInt32 <<< 16 ||| c.toUInt32 <<< 8 ||| d.toUInt32

end ControlPlane.BigEndian
