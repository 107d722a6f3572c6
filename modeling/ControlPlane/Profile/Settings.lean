/-
# Settings of a profile

The settings that messages carry: proxy servers by kind of address, and spell checking.  Each has
a value form (`toJson`, keys ascending, empty parts left out) and is read back by `ofJson`.

* `ProxyConfig.isDirect`: whether every connection goes out directly;
* `ProxyConfig.text`: the text with the parts in their own order.
-/
import ControlPlane.Json.Decode

namespace ControlPlane

/-! ## 1. Proxy servers -/

/-- A kind of proxy server. -/
inductive ProxyKind where
  /-- No proxy; the connection goes out directly. -/
  | direct
  | http
  | socks4
  | socks5
  | https
  deriving DecidableEq, Repr, Inhabited

namespace ProxyKind

/-- The kinds with their names. -/
def names : List (String × ProxyKind) :=
  [("direct", .direct), ("http", .http), ("socks4", .socks4), ("socks5", .socks5),
    ("https", .https)]

/-- The name of a kind. -/
def name : ProxyKind → String
  | .direct => "direct"
  | .http => "http"
  | .socks4 => "socks4"
  | .socks5 => "socks5"
  | .https => "https"

/-- The kind of a value. -/
def ofJson (v : Json) : Except Mismatch ProxyKind := v.asName names

/-- The kind with a name. -/
theorem lookup_name (k : ProxyKind) : names.lookup k.name = some k := by
  cases k <;> decide

end ProxyKind

/-- **A proxy server.** -/
structure ProxyServer where
  kind : ProxyKind
  host : String
  /-- The number of the socket it listens at. -/
  socket : UInt16
  deriving DecidableEq, Repr, Inhabited

namespace ProxyServer

/-- The value of a server. -/
def toJson (s : ProxyServer) : Json :=
  .object [("host", .string s.host), ("kind", .string s.kind.name),
    ("port", .ofUInt16 s.socket)]

/-- The object of a server, its members in the order they are written. -/
def document (s : ProxyServer) : Json :=
  .object [("kind", .string s.kind.name), ("host", .string s.host),
    ("port", .ofUInt16 s.socket)]

/-- A server that is being read. -/
structure Draft where
  kind : Option ProxyKind := none
  host : Option String := none
  socket : Option UInt16 := none

/-- The record of a server. -/
def shape : Shape Draft ProxyServer :=
  { title := "ProxyServer"
    fields := [
      { name := "kind", optional := false
        put v d := do return { d with kind := some (← ProxyKind.ofJson v) } },
      { name := "host", optional := false
        put v d := do return { d with host := some (← v.asText) } },
      { name := "port", optional := false
        put v d := do return { d with socket := some (← v.asUInt16) } }]
    start := {}
    finish d := do
      return ⟨← Shape.require "kind" d.kind, ← Shape.require "host" d.host,
        ← Shape.require "port" d.socket⟩ }

/-- The server of a value. -/
def ofJson (v : Json) : Except Mismatch ProxyServer := shape.decode v

end ProxyServer

/-! ## 2. Proxy configuration -/

/-- **The proxy configuration of a profile.**  The address of a configuration script wins over
the lists; the lists hold the servers to try in order, by kind of address, and `fallback` is for
the other kinds.  The empty configuration means that every connection goes out directly. -/
structure ProxyConfig where
  scriptUrl : Option String := none
  http : List ProxyServer := []
  https : List ProxyServer := []
  ftp : List ProxyServer := []
  fallback : List ProxyServer := []
  /-- Patterns of hosts that are reached without a proxy. -/
  bypass : List String := []
  deriving DecidableEq, Repr, Inhabited

namespace ProxyConfig

/-- Whether every server of a list means a direct connection. -/
def allDirect (servers : List ProxyServer) : Bool := servers.all (·.kind = .direct)

/-- **Whether every connection goes out directly.** -/
def isDirect (c : ProxyConfig) : Bool :=
  c.scriptUrl.isNone && allDirect c.http && allDirect c.https && allDirect c.ftp
    && allDirect c.fallback

/-- The configuration that reaches plain web addresses through one server. -/
def ofHttp (kind : ProxyKind) (host : String) (socket : UInt16) : ProxyConfig :=
  { http := [⟨kind, host, socket⟩] }

/-- A list of servers as a member, left out when it is empty. -/
def servers (item : ProxyServer → Json) (name : String) (l : List ProxyServer) :
    List (String × Json) :=
  if l.isEmpty then [] else [(name, .array (l.map item))]

/-- The address of the script as a member, left out when there is none. -/
def script (c : ProxyConfig) : List (String × Json) :=
  match c.scriptUrl with
  | some url => [("pac_url", .string url)]
  | none => []

/-- The patterns as a member, left out when there are none. -/
def bypassRules (c : ProxyConfig) : List (String × Json) :=
  if c.bypass.isEmpty then [] else [("bypass_rules", .ofStrings c.bypass)]

/-- **The value of a configuration.** -/
def toJson (c : ProxyConfig) : Json :=
  .object
    (c.bypassRules ++ servers ProxyServer.toJson "fallback" c.fallback
      ++ servers ProxyServer.toJson "ftp" c.ftp ++ servers ProxyServer.toJson "http" c.http
      ++ servers ProxyServer.toJson "https" c.https ++ c.script)

/-- The object of a configuration, its members in the order they are written. -/
def document (c : ProxyConfig) : Json :=
  .object
    (c.script ++ servers ProxyServer.document "http" c.http
      ++ servers ProxyServer.document "https" c.https ++ servers ProxyServer.document "ftp" c.ftp
      ++ servers ProxyServer.document "fallback" c.fallback ++ c.bypassRules)

/-- The text of a configuration. -/
def text (c : ProxyConfig) : String := c.document.text

/-- The record of a configuration.  Every part may be absent. -/
def shape : Shape ProxyConfig ProxyConfig :=
  { title := "ProxyConfig"
    fields := [
      { name := "pac_url", optional := true
        put v c := do return { c with scriptUrl := ← v.asOption Json.asText } },
      { name := "http", optional := true
        put v c := do return { c with http := ← v.asList ProxyServer.ofJson } },
      { name := "https", optional := true
        put v c := do return { c with https := ← v.asList ProxyServer.ofJson } },
      { name := "ftp", optional := true
        put v c := do return { c with ftp := ← v.asList ProxyServer.ofJson } },
      { name := "fallback", optional := true
        put v c := do return { c with fallback := ← v.asList ProxyServer.ofJson } },
      { name := "bypass_rules", optional := true
        put v c := do return { c with bypass := ← v.asTexts } }]
    start := {}
    finish c := .ok c }

/-- **The configuration of a value.** -/
def ofJson (v : Json) : Except Mismatch ProxyConfig := shape.decode v

end ProxyConfig

/-- **How a profile reaches the network.** -/
inductive ProxySetting where
  /-- As the system is set up. -/
  | system
  | custom (config : ProxyConfig)
  deriving DecidableEq, Repr, Inhabited

/-! ## 3. Spell checking -/

/-- **The spell checking of a profile.**  The languages have no effect while it is off. -/
structure SpellCheck where
  enabled : Bool := false
  languages : List String := []
  deriving DecidableEq, Repr, Inhabited

namespace SpellCheck

/-- Spell checking in some languages. -/
def on (languages : List String) : SpellCheck := ⟨true, languages⟩

/-- The value of the settings. -/
def toJson (s : SpellCheck) : Json :=
  .object [("enabled", .bool s.enabled), ("languages", .ofStrings s.languages)]

/-- Settings that are being read. -/
structure Draft where
  enabled : Option Bool := none
  languages : Option (List String) := none

/-- The record of the settings. -/
def shape : Shape Draft SpellCheck :=
  { title := "SpellCheckConfig"
    fields := [
      { name := "enabled", optional := false
        put v d := do return { d with enabled := some (← v.asBool) } },
      { name := "languages", optional := true
        put v d := do return { d with languages := some (← v.asTexts) } }]
    start := {}
    finish d := do return ⟨← Shape.require "enabled" d.enabled, d.languages.getD []⟩ }

/-- **The settings of a value.** -/
def ofJson (v : Json) : Except Mismatch SpellCheck := shape.decode v

end SpellCheck

end ControlPlane
