/-
# What happens on a channel

The events that one end of a channel delivers to the peer that holds it.  A failure is delivered
once at most, and nothing follows it.
-/
import ControlPlane.Message.Basic

namespace ControlPlane

/-- **Why a channel became unusable.** -/
inductive ChannelEnding where
  /-- The other end closed the connection. -/
  | closed
  /-- Nothing could be read from the connection. -/
  | unreadable
  /-- The exchange of hellos failed. -/
  | noHandshake
  /-- Nothing could be written to the connection. -/
  | unwritable
  deriving DecidableEq, Repr

/-- The number of an ending. -/
def ChannelEnding.code : ChannelEnding → Nat
  | .closed => 1
  | .unreadable => 2
  | .noHandshake => 3
  | .unwritable => 4

/-- **An event on a channel.** -/
inductive ChannelEvent where
  /-- The handshake succeeded with this process. -/
  | connected (pid : UInt32)
  /-- A message arrived that is no reply. -/
  | message (m : Message)
  /-- A frame arrived that means nothing.  The channel stays open. -/
  | badMessage (reason : String)
  /-- The channel has become unusable. -/
  | failed (ending : ChannelEnding)
  deriving DecidableEq, Repr

end ControlPlane
