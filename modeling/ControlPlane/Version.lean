/-
# Versions and limits

The constants that both ends of a channel have to agree on, and the defaults of a host.
-/
namespace ControlPlane

/-- The version of this program.  Channel names start with it. -/
def binaryVersion : String := "0.3.0"

/-- The version of the wire format, exchanged in the hello. -/
def protocolVersion : UInt16 := 1

/-- The version of the record inside a channel token. -/
def tokenVersion : UInt16 := 1

/-- The largest frame that is accepted, in bytes. -/
def maxFrameSize : Nat := 16 * 1024 * 1024

/-- The separator between the parts of a channel name. -/
def nameSeparator : Char := '.'

/-- The address host channels listen on; the system picks the number behind the colon. -/
def listenAddress : String := "127.0.0.1:0"

/-- How long a client waits for a connection, and either end for a hello, in milliseconds. -/
def connectTimeout : Nat := 10000

/-- How long a host waits for a client unless told otherwise, in milliseconds. -/
def defaultHostTimeout : Nat := 30000

/-- How often connected processes are checked, in milliseconds. -/
def defaultPollInterval : Nat := 100

/-- The name of the thread that supervises processes. -/
def watchdogThread : String := "hostlink_watchdog"

/-- The name of the thread that runs a host. -/
def hostThread : String := "hostlink_control"

end ControlPlane
