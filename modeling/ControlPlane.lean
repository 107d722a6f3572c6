import ControlPlane.Host.Handle
import ControlPlane.Main
import ControlPlane.Proofs.Channel.Correlation
import ControlPlane.Proofs.Channel.Stream
import ControlPlane.Proofs.Dialogue.Agreement
import ControlPlane.Proofs.Host.References
import ControlPlane.Proofs.Host.Supervision
import ControlPlane.Proofs.Peer.Settlement
import ControlPlane.Proofs.Profile.Identity
import ControlPlane.Proofs.Base64
import ControlPlane.Proofs.Channel.Handshake
import ControlPlane.Proofs.ChannelName
import ControlPlane.Proofs.Token
import ControlPlane.Proofs.Host.Bootstrap
import ControlPlane.Proofs.Host.Deeds
import ControlPlane.Proofs.Host.Isolation
import ControlPlane.Proofs.Channel.Wire
import ControlPlane.Proofs.Host.Attention
import ControlPlane.Proofs.Link.System
import ControlPlane.Proofs.Link.Books
import ControlPlane.Proofs.Link.Hearing
import ControlPlane.Proofs.Link.Answers
import ControlPlane.Proofs.Link.Flush
import ControlPlane.Proofs.Message.RoundTrip
import ControlPlane.Proofs.Message.Families
import ControlPlane.Proofs.Host.Queues
import ControlPlane.Proofs.Host.Departure
import ControlPlane.Proofs.Channel.Admission
import ControlPlane.Proofs.Channel.Intake
import ControlPlane.Proofs.Channel.Gate
import ControlPlane.Proofs.Host.Watched
import ControlPlane.Proofs.LifeCycle
import ControlPlane.Proofs.Host.Shutdown
import ControlPlane.Proofs.Peer.Blocks
import ControlPlane.Proofs.Channel.Limits
import ControlPlane.Proofs.Frame.Reports
import ControlPlane.Proofs.Frame.Cut
import ControlPlane.Proofs.Channel.Closing
import ControlPlane.Proofs.Host.Failure
import ControlPlane.Proofs.Profile.LastWriter
import ControlPlane.Proofs.Host.Configuration
import ControlPlane.Proofs.Polling
import ControlPlane.Proofs.Routes
import ControlPlane.Proofs.Peer.ClientLife
import ControlPlane.Proofs.Peer.Allocation
import ControlPlane.Proofs.Sleep
