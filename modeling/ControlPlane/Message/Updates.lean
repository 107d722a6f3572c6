/-
# Updates of a profile

The messages that are routed to one profile and change its settings.

* `ProfileUpdate.toMessage`, `ProfileUpdate.ofMessage`: the two directions.  Bad words and good
  words have to come in pairs; removing bad words carries no good words.
-/
import ControlPlane.Message.Basic
import ControlPlane.Profile.Settings

namespace ControlPlane

/-- **A change to the settings of a profile.** -/
inductive ProfileUpdate where
  | setProxy (config : ProxyConfig)
  | useSystemProxy
  | setSpellCheck (settings : SpellCheck)
  | addWords (words : List String)
  | removeWords (words : List String)
  /-- Each bad word is replaced by the good word at the same place. -/
  | addCorrections (bad good : List String)
  | removeCorrections (bad : List String)
  deriving DecidableEq, Repr

namespace ProfileUpdate

/-! ## 1. Types and payloads -/

/-- The type of `setProxy`. -/
def setProxyType : UInt32 := MessageType.make MessageType.profileBlock 16

/-- The type of `useSystemProxy`. -/
def useSystemProxyType : UInt32 := MessageType.make MessageType.profileBlock 17

/-- The type of `setSpellCheck`. -/
def setSpellCheckType : UInt32 := MessageType.make MessageType.profileBlock 18

/-- The type of `addWords`. -/
def addWordsType : UInt32 := MessageType.make MessageType.profileBlock 19

/-- The type of `removeWords`. -/
def removeWordsType : UInt32 := MessageType.make MessageType.profileBlock 20

/-- The type of `addCorrections`. -/
def addCorrectionsType : UInt32 := MessageType.make MessageType.profileBlock 21

/-- The type of `removeCorrections`. -/
def removeCorrectionsType : UInt32 := MessageType.make MessageType.profileBlock 22

/-- The type of an update. -/
def type : ProfileUpdate → UInt32
  | .setProxy _ => setProxyType
  | .useSystemProxy => useSystemProxyType
  | .setSpellCheck _ => setSpellCheckType
  | .addWords _ => addWordsType
  | .removeWords _ => removeWordsType
  | .addCorrections _ _ => addCorrectionsType
  | .removeCorrections _ => removeCorrectionsType

/-- A list of words as a payload. -/
def wordsPayload (words : List String) : Json := .object [("words", .ofStrings words)]

/-- Bad words and good words as a payload. -/
def correctionsPayload (bad good : List String) : Json :=
  .object [("bad_words", .ofStrings bad), ("good_words", .ofStrings good)]

/-- The payload of an update. -/
def payload : ProfileUpdate → Json
  | .setProxy c => c.toJson
  | .useSystemProxy => .null
  | .setSpellCheck s => s.toJson
  | .addWords ws | .removeWords ws => wordsPayload ws
  | .addCorrections bad good => correctionsPayload bad good
  | .removeCorrections bad => correctionsPayload bad []

/-- The record of a list of words. -/
def wordsShape : Shape (Option (List String)) (List String) :=
  { title := "WordsPayload"
    fields := [{ name := "words", optional := false, put := fun v _ => some <$> v.asTexts }]
    start := none
    finish := Shape.require "words" }

/-- Bad words and good words that are being read. -/
structure Corrections where
  bad : Option (List String) := none
  good : Option (List String) := none

/-- The record of bad words and good words, of which the latter may be absent. -/
def correctionsShape : Shape Corrections (List String × List String) :=
  { title := "AutocorrectPayload"
    fields := [
      { name := "bad_words", optional := false
        put v d := do return { d with bad := some (← v.asTexts) } },
      { name := "good_words", optional := true
        put v d := do return { d with good := some (← v.asTexts) } }]
    start := {}
    finish d := do return (← Shape.require "bad_words" d.bad, d.good.getD []) }

/-- The wording for lists that do not come in pairs. -/
def unpaired (bad good : List String) : String :=
  toString bad.length ++ " bad words but " ++ toString good.length ++ " good words"

/-! ## 2. The two directions -/

/-- **The message of an update**, to the route of a profile. -/
def toMessage (u : ProfileUpdate) (route : RoutingId) : Message :=
  { address := route, type := u.type, payload := u.payload }

/-- The corrections of a message, when they come in pairs. -/
def pairsOfMessage (m : Message) : Except ProtocolFault (List String × List String) := do
  let (bad, good) ← m.payloadAs correctionsShape.decode
  if bad.length ≠ good.length then throw (.malformed m.type (unpaired bad good))
  return (bad, good)

/-- **The update of a message.** -/
def ofMessage (m : Message) : Except ProtocolFault (Option ProfileUpdate) :=
  if m.type = setProxyType then (some ∘ .setProxy) <$> m.payloadAs ProxyConfig.ofJson
  else if m.type = useSystemProxyType then .ok (some .useSystemProxy)
  else if m.type = setSpellCheckType then (some ∘ .setSpellCheck) <$> m.payloadAs SpellCheck.ofJson
  else if m.type = addWordsType then (some ∘ .addWords) <$> m.payloadAs wordsShape.decode
  else if m.type = removeWordsType then (some ∘ .removeWords) <$> m.payloadAs wordsShape.decode
  else if m.type = addCorrectionsType then
    (fun p => some (.addCorrections p.1 p.2)) <$> pairsOfMessage m
  else if m.type = removeCorrectionsType then
    (fun p => some (.removeCorrections p.1)) <$> m.payloadAs correctionsShape.decode
  else .ok none

end ProfileUpdate

end ControlPlane
