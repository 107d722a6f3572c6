/-
# Commands to a peer

The messages that peers handle themselves, in three families: what a client asks of its host,
what a host tells its client, and the beginning and end of a client's profiles.

Each family has `toMessage` and `ofMessage`.  The latter gives `none` for a message of another
family and a fault for a payload of another form.
-/
import ControlPlane.Message.Basic

namespace ControlPlane

/-- The record with one field. -/
def singleShape {α : Type} (title name : String) (item : Json → Except Mismatch α) :
    Shape (Option α) α :=
  { title
    fields := [{ name, optional := false, put := fun v _ => some <$> item v }]
    start := none
    finish := Shape.require name }

/-! ## 1. From client to host -/

/-- **What a client asks of its host.** -/
inductive HostCommand where
  /-- To reply once every earlier message has been handled. -/
  | sync (final : Bool)
  /-- To make a channel that another process can join, within a time in milliseconds. -/
  | openChannel (timeout : UInt32)
  /-- To drop what every client has stored of web pages. -/
  | clearWebCache
  deriving DecidableEq, Repr

namespace HostCommand

/-- The type of `sync`. -/
def syncType : UInt32 := MessageType.make MessageType.controlBlock 1

/-- The type of `openChannel`. -/
def openChannelType : UInt32 := MessageType.make MessageType.controlBlock 2

/-- The type of `clearWebCache`. -/
def clearWebCacheType : UInt32 := MessageType.make MessageType.controlBlock 3

/-- Whether the sender waits for a reply. -/
def isSync : HostCommand → Bool
  | .clearWebCache => false
  | _ => true

/-- The payload of `sync`. -/
def syncShape : Shape (Option Bool) Bool := singleShape "SyncPayload" "is_final_sync" Json.asBool

/-- The payload of `openChannel`. -/
def timeoutShape : Shape (Option UInt32) UInt32 :=
  singleShape "TimeoutPayload" "timeout_ms" Json.asUInt32

/-- **The message of a command.** -/
def toMessage : HostCommand → Message
  | .sync final =>
    (Message.control syncType (.object [("is_final_sync", .bool final)])).asSync
  | .openChannel timeout =>
    (Message.control openChannelType (.object [("timeout_ms", .ofUInt32 timeout)])).asSync
  | .clearWebCache => Message.control clearWebCacheType

/-- **The command of a message.** -/
def ofMessage (m : Message) : Except ProtocolFault (Option HostCommand) :=
  if m.type = syncType then (some ∘ .sync) <$> m.payloadAs syncShape.decode
  else if m.type = openChannelType then
    (some ∘ .openChannel) <$> m.payloadAs timeoutShape.decode
  else if m.type = clearWebCacheType then .ok (some .clearWebCache)
  else .ok none

end HostCommand

/-- The payload of the reply to `HostCommand.openChannel`: the token of the new channel. -/
structure ChannelOffer where
  token : String
  deriving DecidableEq, Repr

namespace ChannelOffer

/-- The value of an offer. -/
def toJson (o : ChannelOffer) : Json := .object [("channel_info", .string o.token)]

/-- The record of an offer. -/
def shape : Shape (Option String) String :=
  singleShape "CreateNewHostChannelReply" "channel_info" Json.asText

/-- The offer of a value. -/
def ofJson (v : Json) : Except Mismatch ChannelOffer := ChannelOffer.mk <$> shape.decode v

end ChannelOffer

/-! ## 2. From host to client -/

/-- **What a host tells its client.** -/
inductive ClientCommand where
  /-- The name of a channel for a worker inside the client. -/
  | nameChannel (name : String)
  deriving DecidableEq, Repr

namespace ClientCommand

/-- The type of `nameChannel`. -/
def nameChannelType : UInt32 := MessageType.make MessageType.controlBlock 16

/-- The payload of `nameChannel`. -/
def nameShape : Shape (Option String) String :=
  singleShape "ChannelNamePayload" "channel_name" Json.asText

/-- **The message of a command.** -/
def toMessage : ClientCommand → Message
  | .nameChannel name =>
    Message.control nameChannelType (.object [("channel_name", .string name)])

/-- **The command of a message.** -/
def ofMessage (m : Message) : Except ProtocolFault (Option ClientCommand) :=
  if m.type = nameChannelType then (some ∘ .nameChannel) <$> m.payloadAs nameShape.decode
  else .ok none

end ClientCommand

/-! ## 3. Profiles of a client -/

/-- The parameters of a new profile.  An empty directory means a profile that leaves nothing
behind. -/
structure ProfileRequest where
  route : RoutingId
  directory : String
  diskCache : Bool
  cookies : Bool
  deriving DecidableEq, Repr

namespace ProfileRequest

/-- The value of the parameters. -/
def toJson (r : ProfileRequest) : Json :=
  .object [("cookie_persistence_enabled", .bool r.cookies), ("data_dir", .string r.directory),
    ("disk_cache_enabled", .bool r.diskCache), ("routing_id", .ofUInt32 r.route.value)]

/-- Parameters that are being read. -/
structure Draft where
  route : Option RoutingId := none
  directory : Option String := none
  diskCache : Option Bool := none
  cookies : Option Bool := none

/-- The record of the parameters. -/
def shape : Shape Draft ProfileRequest :=
  { title := "NewProfileParams"
    fields := [
      { name := "routing_id", optional := false
        put v d := do return { d with route := some ⟨← v.asUInt32⟩ } },
      { name := "data_dir", optional := false
        put v d := do return { d with directory := some (← v.asText) } },
      { name := "disk_cache_enabled", optional := false
        put v d := do return { d with diskCache := some (← v.asBool) } },
      { name := "cookie_persistence_enabled", optional := false
        put v d := do return { d with cookies := some (← v.asBool) } }]
    start := {}
    finish d := do
      return ⟨← Shape.require "routing_id" d.route, ← Shape.require "data_dir" d.directory,
        ← Shape.require "disk_cache_enabled" d.diskCache,
        ← Shape.require "cookie_persistence_enabled" d.cookies⟩ }

/-- The parameters of a value. -/
def ofJson (v : Json) : Except Mismatch ProfileRequest := shape.decode v

end ProfileRequest

/-- **The beginning and end of a client's profile.**  These are messages to the peer itself; the
id they speak of is in the payload. -/
inductive ProfileCommand where
  | create (request : ProfileRequest)
  | destroy (route : RoutingId)
  deriving DecidableEq, Repr

namespace ProfileCommand

/-- The type of `create`. -/
def createType : UInt32 := MessageType.make MessageType.profileBlock 1

/-- The type of `destroy`. -/
def destroyType : UInt32 := MessageType.make MessageType.profileBlock 2

/-- The payload of `destroy`. -/
def destroyShape : Shape (Option UInt32) UInt32 :=
  singleShape "DestroyPayload" "routing_id" Json.asUInt32

/-- **The message of a command.** -/
def toMessage : ProfileCommand → Message
  | .create r => Message.control createType r.toJson
  | .destroy id => Message.control destroyType (.object [("routing_id", .ofUInt32 id.value)])

/-- **The command of a message.** -/
def ofMessage (m : Message) : Except ProtocolFault (Option ProfileCommand) :=
  if m.type = createType then (some ∘ .create) <$> m.payloadAs ProfileRequest.ofJson
  else if m.type = destroyType then
    (fun n => some (.destroy ⟨n⟩)) <$> m.payloadAs destroyShape.decode
  else .ok none

end ProfileCommand

end ControlPlane
