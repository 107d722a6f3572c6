/-
# The command line

Runs the shell: `host` runs a host and its clients, `client` joins the channel of a token.  The
program opens no sockets.  A host and its clients are joined in memory, and the folders of their
profiles are made below the working folder; a client by itself reaches nobody.
-/
import ControlPlane.Shell.Session

namespace ControlPlane.Shell

/-- The code that stands for a program that was cut down. -/
def cutDownCode : Nat := 134

/-- Writes how a command ended, and gives its code. -/
def finish (e : ShellExit) : IO UInt32 := do
  if !e.text.isEmpty then IO.eprintln e.text
  return UInt32.ofNat (e.code.getD cutDownCode)

/-- Nobody can be reached. -/
def nobody (_ : UInt16) : Dialling := .failed OsError.unreachable.message

/-- Runs a host with its clients. -/
def runHost (o : HostOptions) : IO UInt32 := do
  let (ending, session) := ShellSession.run {} o fun _ => .reached
  for path in o.folder do
    if session.tree.hasFolder path then IO.FS.createDirAll path
  finish ending

/-- Runs a client. -/
def runClient (token : String) : IO UInt32 :=
  match ShellClient.start token ShellSession.pid nobody with
  | .error e => finish e
  | .ok _ => finish (.ofFault .channelClosed)

/-- Carries out a command line. -/
def run (args : List String) : IO UInt32 := do
  match ShellCommand.read args with
  | .error why => finish (.ofRefusal why)
  | .ok .help =>
    IO.println usage
    return 0
  | .ok (.host o) => runHost o
  | .ok (.client token) => runClient token

end ControlPlane.Shell

/-- The entry of the program. -/
def main (args : List String) : IO UInt32 := ControlPlane.Shell.run args
