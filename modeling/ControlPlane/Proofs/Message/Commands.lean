/-
# Commands read back

What one end writes for a command the other end reads as the same command, whatever the arguments
are and whichever number its request has been given.  A reading only depends on the type and the
payload of a message.

* `Shape.decode_object`: the members of an object are put into a draft one after the other;
* `ProxyConfig.ofJson_toJson`, `SpellCheck.ofJson_toJson`: the settings that updates carry;
* `HostCommand.ofMessage_toMessage`, `ProfileCommand.ofMessage_toMessage`,
  `ProfileUpdate.ofMessage_toMessage`: the three families of a client.

An update with bad words and good words is only read back when they come in pairs, and the removal
of bad words when it carries no good words, which is how a client writes it.
-/
import ControlPlane.Message.Commands
import ControlPlane.Message.Updates

namespace ControlPlane

/-! ## 1. Values -/

namespace Json

@[simp] theorem asBool_bool (b : Bool) : (bool b).asBool = .ok b := rfl

@[simp] theorem asText_string (s : String) : (string s).asText = .ok s := rfl

/-- An integer of 32 bits is read as it was written. -/
@[simp] theorem asUInt32_ofUInt32 (n : UInt32) : (ofUInt32 n).asUInt32 = .ok n := by
  have hlt : n.toNat < UInt32.size := n.toNat_lt
  simp [ofUInt32, ofUInt64, asUInt32, Number.asUInt32, Number.below, hlt, Functor.map, Except.map]

/-- An integer of 16 bits is read as it was written. -/
@[simp] theorem asUInt16_ofUInt16 (n : UInt16) : (ofUInt16 n).asUInt16 = .ok n := by
  have hlt : n.toNat < UInt16.size := n.toNat_lt
  simp [ofUInt16, ofUInt64, asUInt16, Number.asUInt16, Number.below, hlt, Functor.map, Except.map]

/-- **A list is read as it was written** if its items are. -/
theorem asList_map {α : Type} {item : Json → Except Mismatch α} {write : α → Json}
    (hitem : ∀ a, item (write a) = .ok a) (l : List α) :
    (array (l.map write)).asList item = .ok l := by
  show (l.map write).mapM item = .ok l
  induction l with
  | nil => rfl
  | cons a l ih =>
    rw [List.map_cons, List.mapM_cons, hitem, ih]
    rfl

/-- A list of texts is read as it was written. -/
@[simp] theorem asTexts_ofStrings (l : List String) : (ofStrings l).asTexts = .ok l :=
  asList_map asText_string l

end Json

/-! ## 2. Records -/

namespace Shape

variable {σ α : Type}

/-- **Members that are put one after the other.** -/
def putMembers (s : Shape σ α) : List (String × Json) → σ → Except Mismatch σ
  | [], d => .ok d
  | m :: ms, d => (s.putMember d m).bind (s.putMembers ms)

/-- Members that are put behind others. -/
theorem putMembers_append (s : Shape σ α) (ms ns : List (String × Json)) (d : σ) :
    s.putMembers (ms ++ ns) d = (s.putMembers ms d).bind (s.putMembers ns) := by
  induction ms generalizing d with
  | nil => rfl
  | cons m ms ih =>
    simp only [List.cons_append, putMembers]
    cases s.putMember d m with
    | error e => rfl
    | ok d' => exact ih d'

/-- The members of an object are put into a draft, and the draft is finished. -/
theorem decode_object (s : Shape σ α) (members : List (String × Json)) :
    s.decode (.object members) = (s.putMembers members s.start).bind s.finish := by
  have hfold : ∀ (ms : List (String × Json)) (d : σ),
      ms.foldlM s.putMember d = s.putMembers ms d := by
    intro ms
    induction ms with
    | nil => exact fun d => rfl
    | cons m ms ih =>
      intro d
      rw [List.foldlM_cons]
      exact congrArg (Except.bind (s.putMember d m)) (funext ih)
  show (members.foldlM s.putMember s.start).bind s.finish = _
  rw [hfold]

end Shape

/-- The one field of a record is read as it was written. -/
theorem singleShape_decode {α : Type} {title name : String} {item : Json → Except Mismatch α}
    {v : Json} {a : α} (hitem : item v = .ok a) :
    (singleShape title name item).decode (.object [(name, v)]) = .ok a := by
  simp [Shape.decode_object, Shape.putMembers, Shape.putMember, singleShape, hitem, Shape.require,
    Except.bind, Functor.map, Except.map]

/-- The parameters of a profile are read as they were written. -/
theorem ProfileRequest.ofJson_toJson (r : ProfileRequest) : ofJson r.toJson = .ok r := by
  simp [ofJson, toJson, Shape.decode_object, Shape.putMembers, Shape.putMember, shape,
    Shape.require, bind, Except.bind, pure, Except.pure]

/-- A kind of proxy server is read as it was written. -/
@[simp] theorem ProxyKind.ofJson_name (k : ProxyKind) : ofJson (.string k.name) = .ok k := by
  simp [ofJson, Json.asName, Json.asName.pick, lookup_name]

/-- A proxy server is read as it was written. -/
theorem ProxyServer.ofJson_toJson (s : ProxyServer) : ofJson s.toJson = .ok s := by
  simp [ofJson, toJson, Shape.decode_object, Shape.putMembers, Shape.putMember, shape,
    Shape.require, bind, Except.bind, pure, Except.pure]

namespace ProxyConfig

/-- **A list of servers is put where it belongs**, also when it is empty and left out. -/
theorem putMembers_servers (name : String) (put : List ProxyServer → ProxyConfig → ProxyConfig)
    (hfield : ∀ v c, shape.putMember c (name, v) = (put · c) <$> v.asList ProxyServer.ofJson)
    (l : List ProxyServer) {c : ProxyConfig} (hempty : put [] c = c) :
    shape.putMembers (servers ProxyServer.toJson name l) c = .ok (put l c) := by
  cases l with
  | nil => rw [hempty]; rfl
  | cons s l =>
    have hlist := Json.asList_map ProxyServer.ofJson_toJson (s :: l)
    simp only [servers, List.isEmpty_cons, Bool.false_eq_true, if_false, Shape.putMembers, hfield,
      hlist]
    rfl

/-- **A proxy configuration is read as it was written.**  What is left out is empty. -/
theorem ofJson_toJson (c : ProxyConfig) : ofJson c.toJson = .ok c := by
  obtain ⟨url, http, https, ftp, fallback, bypass⟩ := c
  have hbypass : shape.putMembers (bypassRules { bypass }) {} = .ok { bypass } := by
    cases bypass with
    | nil => rfl
    | cons rule rules =>
      simp [bypassRules, Shape.putMembers, Shape.putMember, shape, bind, Except.bind, pure,
        Except.pure]
  have hscript : ∀ c : ProxyConfig, c.scriptUrl = none →
      shape.putMembers (script { scriptUrl := url }) c = .ok { c with scriptUrl := url } := by
    intro c hnone
    cases url with
    | none => exact congrArg Except.ok (by rw [← hnone])
    | some url =>
      simp [script, Shape.putMembers, Shape.putMember, shape, Json.asOption, Functor.map,
        Except.map, bind, Except.bind, pure, Except.pure]
  -- the parts are put in the order of their keys
  have hfallback := putMembers_servers "fallback" (fun l c => { c with fallback := l })
    (fun v c => rfl) fallback (c := { bypass }) rfl
  have hftp := putMembers_servers "ftp" (fun l c => { c with ftp := l }) (fun v c => rfl)
    ftp (c := { bypass, fallback }) rfl
  have hhttp := putMembers_servers "http" (fun l c => { c with http := l }) (fun v c => rfl)
    http (c := { bypass, fallback, ftp }) rfl
  have hhttps := putMembers_servers "https" (fun l c => { c with https := l }) (fun v c => rfl)
    https (c := { bypass, fallback, ftp, http }) rfl
  have hmembers : shape.putMembers
      (bypassRules { bypass } ++ servers ProxyServer.toJson "fallback" fallback
        ++ servers ProxyServer.toJson "ftp" ftp ++ servers ProxyServer.toJson "http" http
        ++ servers ProxyServer.toJson "https" https ++ script { scriptUrl := url }) {}
      = .ok { scriptUrl := url, http, https, ftp, fallback, bypass } := by
    simp only [Shape.putMembers_append, hbypass, Except.bind, hfallback, hftp, hhttp, hhttps]
    exact hscript _ rfl
  simp only [ofJson, toJson, Shape.decode_object]
  exact congrArg (Except.bind · shape.finish) hmembers

end ProxyConfig

/-- The settings of spell checking are read as they were written. -/
theorem SpellCheck.ofJson_toJson (s : SpellCheck) : ofJson s.toJson = .ok s := by
  simp [ofJson, toJson, Shape.decode_object, Shape.putMembers, Shape.putMember, shape,
    Shape.require, bind, Except.bind, pure, Except.pure]

/-- A list of words is read as it was written. -/
theorem ProfileUpdate.wordsShape_decode (words : List String) :
    wordsShape.decode (wordsPayload words) = .ok words := by
  simp [wordsPayload, Shape.decode_object, Shape.putMembers, Shape.putMember, wordsShape,
    Shape.require, Except.bind, Functor.map, Except.map]

/-- Bad words and good words are read as they were written. -/
theorem ProfileUpdate.correctionsShape_decode (bad good : List String) :
    correctionsShape.decode (correctionsPayload bad good) = .ok (bad, good) := by
  simp [correctionsPayload, Shape.decode_object, Shape.putMembers, Shape.putMember,
    correctionsShape, Shape.require, bind, Except.bind, pure, Except.pure]

/-! ## 3. Commands -/

/-- A payload that is read as it was written. -/
theorem Message.payloadAs_of_ok {α : Type} {m : Message} {decode : Json → Except Mismatch α}
    {v : Json} {a : α} (hpayload : m.payload = v) (h : decode v = .ok a) :
    m.payloadAs decode = .ok a := by
  simp only [payloadAs, hpayload, h]

/-- **A command to a host is read back.** -/
theorem HostCommand.ofMessage_toMessage {c : HostCommand} {m : Message}
    (htype : m.type = c.toMessage.type) (hpayload : m.payload = c.toMessage.payload) :
    ofMessage m = .ok (some c) := by
  cases c with
  | sync final =>
    have hread : m.payloadAs syncShape.decode = .ok final :=
      m.payloadAs_of_ok hpayload (singleShape_decode (Json.asBool_bool final))
    have htype : m.type = syncType := htype
    rw [ofMessage, if_pos htype, hread]
    rfl
  | openChannel timeout =>
    have hread : m.payloadAs timeoutShape.decode = .ok timeout :=
      m.payloadAs_of_ok hpayload (singleShape_decode (Json.asUInt32_ofUInt32 timeout))
    have htype : m.type = openChannelType := htype
    rw [ofMessage, if_neg (by rw [htype]; decide), if_pos htype, hread]
    rfl
  | clearWebCache =>
    have htype : m.type = clearWebCacheType := htype
    simp +decide only [ofMessage, htype, if_true, if_false]

/-- A command to a host is no command about a profile. -/
theorem ProfileCommand.ofMessage_hostCommand {c : HostCommand} {m : Message}
    (htype : m.type = c.toMessage.type) : ofMessage m = .ok none := by
  have hne : c.toMessage.type ≠ createType ∧ c.toMessage.type ≠ destroyType := by
    cases c <;> exact ⟨ne_of_beq_false rfl, ne_of_beq_false rfl⟩
  rw [ofMessage, if_neg (htype ▸ hne.1), if_neg (htype ▸ hne.2)]

/-- And a command about a profile is no command to a host. -/
theorem HostCommand.ofMessage_profileCommand {c : ProfileCommand} {m : Message}
    (h : ProfileCommand.ofMessage m = .ok (some c)) : ofMessage m = .ok none := by
  unfold ProfileCommand.ofMessage at h
  split at h
  next htype => simp +decide only [ofMessage, htype, if_false]
  next =>
    split at h
    next htype => simp +decide only [ofMessage, htype, if_false]
    next => cases h

/-- **A command about a profile is read back**, and is no command to the host. -/
theorem ProfileCommand.ofMessage_toMessage {c : ProfileCommand} {m : Message}
    (htype : m.type = c.toMessage.type) (hpayload : m.payload = c.toMessage.payload) :
    HostCommand.ofMessage m = .ok none ∧ ofMessage m = .ok (some c) := by
  cases c with
  | create r =>
    have hread := m.payloadAs_of_ok hpayload r.ofJson_toJson
    have htype : m.type = createType := htype
    constructor
    · simp +decide only [HostCommand.ofMessage, htype, if_false]
    · rw [ofMessage, if_pos htype, hread]
      rfl
  | destroy id =>
    have hread : m.payloadAs destroyShape.decode = .ok id.value :=
      m.payloadAs_of_ok hpayload (singleShape_decode (Json.asUInt32_ofUInt32 id.value))
    have htype : m.type = destroyType := htype
    constructor
    · simp +decide only [HostCommand.ofMessage, htype, if_false]
    · rw [ofMessage, if_neg (by rw [htype]; decide), if_pos htype, hread]
      rfl

/-- An update is no command about a profile. -/
theorem ProfileCommand.ofMessage_update {u : ProfileUpdate} {m : Message}
    (htype : m.type = u.type) : ofMessage m = .ok none := by
  cases u <;> simp +decide only [ofMessage, htype, ProfileUpdate.type, if_false]

/-- **An update is read back** if its bad words and good words come in pairs. -/
theorem ProfileUpdate.ofMessage_toMessage {u : ProfileUpdate} {m : Message}
    (hpaired : ∀ bad good, u = .addCorrections bad good → bad.length = good.length)
    (htype : m.type = u.type) (hpayload : m.payload = u.payload) :
    ofMessage m = .ok (some u) := by
  cases u with
  | setProxy c =>
    have hread := m.payloadAs_of_ok hpayload c.ofJson_toJson
    simp +decide only [ofMessage, htype, type, hread, if_true]
    rfl
  | useSystemProxy => simp +decide only [ofMessage, htype, type, if_true, if_false]
  | setSpellCheck s =>
    have hread := m.payloadAs_of_ok hpayload s.ofJson_toJson
    simp +decide only [ofMessage, htype, type, hread, if_true, if_false]
    rfl
  | addWords ws =>
    have hread := m.payloadAs_of_ok hpayload (wordsShape_decode ws)
    simp +decide only [ofMessage, htype, type, hread, if_true, if_false]
    rfl
  | removeWords ws =>
    have hread := m.payloadAs_of_ok hpayload (wordsShape_decode ws)
    simp +decide only [ofMessage, htype, type, hread, if_true, if_false]
    rfl
  | addCorrections bad good =>
    have hread := m.payloadAs_of_ok hpayload (correctionsShape_decode bad good)
    have hpairs : pairsOfMessage m = .ok (bad, good) := by
      simp [pairsOfMessage, hread, hpaired bad good rfl, bind, Except.bind, pure, Except.pure]
    simp +decide only [ofMessage, htype, type, hpairs, if_true, if_false]
    rfl
  | removeCorrections bad =>
    have hread := m.payloadAs_of_ok hpayload (correctionsShape_decode bad [])
    simp +decide only [ofMessage, htype, type, hread, if_true, if_false]
    rfl

end ControlPlane
