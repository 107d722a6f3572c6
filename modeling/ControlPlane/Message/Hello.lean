/-
# The hello

The first message in either direction.  It says which version of the wire format its sender
speaks, which process it is, and which channel it means.
-/
import ControlPlane.Message.Basic
import ControlPlane.Version

namespace ControlPlane

/-- **The payload of a hello.** -/
structure Hello where
  version : UInt16
  pid : UInt32
  channel : String
  deriving DecidableEq, Repr

namespace Hello

/-- The hello a process sends on a channel. -/
def make (pid : UInt32) (channel : String) : Hello := ⟨protocolVersion, pid, channel⟩

/-- The value of a hello. -/
def toJson (h : Hello) : Json :=
  .object [("channel_id", .string h.channel), ("pid", .ofUInt32 h.pid),
    ("protocol_version", .ofUInt16 h.version)]

/-- A hello that is being read. -/
structure Draft where
  version : Option UInt16 := none
  pid : Option UInt32 := none
  channel : Option String := none

/-- The record of a hello. -/
def shape : Shape Draft Hello :=
  { title := "Hello"
    fields := [
      { name := "protocol_version", optional := false
        put v d := do return { d with version := some (← v.asUInt16) } },
      { name := "pid", optional := false
        put v d := do return { d with pid := some (← v.asUInt32) } },
      { name := "channel_id", optional := false
        put v d := do return { d with channel := some (← v.asText) } }]
    start := {}
    finish d := do
      return ⟨← Shape.require "protocol_version" d.version, ← Shape.require "pid" d.pid,
        ← Shape.require "channel_id" d.channel⟩ }

/-- The hello of a value. -/
def ofJson (v : Json) : Except Mismatch Hello := shape.decode v

/-- **The message of a hello.** -/
def toMessage (h : Hello) : Message := Message.control MessageType.hello h.toJson

end Hello

end ControlPlane
