/-
# The client of the shell

A client joins the channel of its token, asks for a profile, sets it up as its switches say, and
leaves: it gives the profile back and waits until the host has seen that.

* `ShellClient.settings`: what the switches say;
* `ShellClient.start`, `arrive`, `answer`: the client from its start to its end;
* `ShellExit`: how a command ends.
-/
import ControlPlane.Number.Decimal
import ControlPlane.Profile.Proxy
import ControlPlane.Shell.Options

namespace ControlPlane

/-- **How a command ends.** -/
structure ShellExit where
  /-- The code that is left behind, if the program lives to leave one. -/
  code : Option Nat
  /-- What is written about it, without a line end. -/
  text : String := ""
  deriving DecidableEq, Repr

namespace ShellExit

/-- The end of a command that did what it had to. -/
def success : ShellExit := ⟨some 0, ""⟩

/-- The end of a command that failed, with what lies behind that. -/
def failure (text : String) (cause : Option String) : ShellExit :=
  ⟨some 1, "Error: " ++ text
    ++ (match cause with
      | some c => "\n\nCaused by:\n    " ++ c
      | none => "")⟩

/-- The end of a command that met a fault. -/
def ofFault (f : Fault) : ShellExit := failure f.message f.cause?

/-- The end of a program that breaks off. -/
def breakdown (text : String) : ShellExit := ⟨some 101, text⟩

/-- The end of a program that is cut down before it can leave a code. -/
def cutDown (text : String) : ShellExit := ⟨none, text⟩

/-- The end of a command line that is refused. -/
def ofRefusal (r : ArgRefusal) : ShellExit := ⟨some 2, r.message⟩

end ShellExit

/-- **A client of the shell.** -/
structure ShellClient where
  peer : ClientPeer Empty Unit
  /-- The profile, while the client holds one. -/
  profile : Option ProfileHandle := none
  /-- The client is waiting for its host to have seen that it leaves. -/
  leaving : Bool := false
  ended : Option ShellExit := none

namespace ShellClient

/-! ## 1. What the switches say -/

/-- The switch with a proxy server. -/
def proxySwitch : String := "proxy-server"

/-- The switch with a language. -/
def languageSwitch : String := "lang"

/-- The host and the socket of a proxy server. -/
def proxyServer (server : String) : Except ShellExit (String × UInt16) :=
  match ChannelName.splitLast? ':' server.toList with
  | none =>
    .error (.failure ("proxy server must be host:port, got " ++ Text.quoted server) none)
  | some (host, socket) =>
    match Decimal.read UInt16.size socket with
    | .ok n => .ok (String.ofList host, UInt16.ofNat n)
    | .error e =>
      .error (.failure ("invalid proxy port in " ++ Text.quoted server) (some e.message))

/-- How the profile is to reach the network. -/
def proxySettings (token : Token) : Except ShellExit ProfileUpdate :=
  match token.switch? proxySwitch with
  | some server => do
    let (host, socket) ← proxyServer server
    return .setProxy (ProxyConfig.ofHttp .http host socket)
  | none => .ok .useSystemProxy

/-- How the profile is to be set up. -/
def settings (token : Token) : Except ShellExit (List ProfileUpdate) := do
  let proxy ← proxySettings token
  return proxy
    :: ((token.switch? languageSwitch).map fun l => .setSpellCheck (SpellCheck.on [l])).toList

/-- The folder of the profile. -/
def folder (token : Token) : String := (token.switch? HostOptions.folderSwitch).getD ""

/-! ## 2. The run -/

/-- The client has come to its end. -/
def exit (c : ShellClient) (e : ShellExit) : ShellClient := { c with ended := some e }

/-- Sends updates one after the other, up to the first that cannot be sent. -/
def sendUpdates (c : ShellClient) (h : ProfileHandle) : List ProfileUpdate → ShellClient
  | [] => c
  | u :: rest =>
    match h.update c.peer u with
    | (.ok _, peer) => sendUpdates { c with peer } h rest
    | (.error f, peer) => { c with peer }.exit (.ofFault f)

/-- Asks the host for a reply, unless the client has come to its end. -/
def sync (c : ShellClient) (final : Bool) : ShellClient :=
  if c.ended.isSome then c
  else
    let (out, peer) := c.peer.sync final ()
    let c := { c with peer }
    match out.answers with
    | [] => c
    | _ :: _ => c.exit (.ofFault .channelClosed)

/-- The handshake succeeded: asks for the profile and sets it up. -/
def setUp (c : ShellClient) : ShellClient :=
  let dir := folder c.peer.token
  match ProfileHandle.create c.peer dir ⟨!dir.isEmpty, !dir.isEmpty⟩ with
  | (.error f, peer) => { c with peer }.exit (.ofFault f)
  | (.ok h, peer) =>
    let c := { c with peer, profile := some h }
    match settings c.peer.token with
    | .error e => c.exit e
    | .ok updates => (c.sendUpdates h updates).sync false

/-- The host has seen the settings: gives the profile back. -/
def leave (c : ShellClient) : ShellClient :=
  match c.profile with
  | none => c
  | some h =>
    match h.destroy c.peer with
    | (.error f, peer) => { c with peer, profile := none }.exit (.ofFault f)
    | (.ok _, peer) => { c with peer, profile := none, leaving := true }.sync true

/-- **A client with a token**, and what it writes first; or how it ends at once. -/
def start (token : String) (pid : UInt32) (dial : UInt16 → Dialling) :
    Except ShellExit (ChannelOutput Unit × ShellClient) :=
  match ClientPeer.connect token pid dial with
  | .ok (out, peer) => .ok (out, { peer := { peer with hasHandler := true } })
  | .error f => .error (.ofFault f)

/-- **Something happened on the channel.**  Until the handshake the client looks at what happens,
and from a channel that fails it is gone at once; later it only waits for replies. -/
def arrive (c : ShellClient) (events : List ChannelEvent) : ShellClient :=
  let c := { c with peer := { c.peer with inbox := c.peer.inbox ++ events } }
  if c.ended.isSome || c.peer.hostPid.isSome then c
  else
    match c.peer.waitConnected with
    | (some (.ok _), peer) => { c with peer }.setUp
    | (some (.error _), peer) => { c with peer }.exit ⟨some 1, ""⟩
    | (none, peer) => { c with peer }

/-- **The host has replied** to what the client waits for. -/
def answer (c : ShellClient) (a : Answer) : ShellClient :=
  if c.ended.isSome then c
  else
    match a with
    | .error f => c.exit (.ofFault f)
    | .ok _ => if c.leaving then c.exit .success else c.leave

/-- The client after what a step of its end of the channel gave out. -/
def after (c : ShellClient) (out : ChannelOutput Unit) : ShellClient :=
  out.answers.foldl (fun c a => c.answer a.2) (c.arrive out.events)

end ShellClient

end ControlPlane
