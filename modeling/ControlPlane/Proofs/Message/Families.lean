/-
# Four families of messages

Clients and hosts exchange four families of messages: commands to a host, commands to a client,
commands about profiles, and updates of one profile.  Each has a writer and a reader of its own, and
every reader is offered messages of the other families as well.

* `Directive`, `Family`: what a message of any family says, and which family that is;
* `Family.read`: the four readers, with their types in common;
* `Family.read_eq_none_iff`, `Family.eq_of_mem_types`: a reader passes over exactly the types that
  are not of its family, and no type is of two;
* `Directive.Coded`: what is written for a directive, and what the four readers make of it;
* `Directive.coded`: all directives are coded, and whatever is read as one is as good as written.

The lists of bad words and good words are the one place where a writer can write what its own reader
refuses.
-/
import Mathlib.Tactic.SplitIfs
import ControlPlane.Proofs.Message.Commands

namespace ControlPlane

/-! ## 1. Families -/

/-- A family of messages. -/
inductive Family where
  /-- From a client to its host. -/
  | host
  /-- From a host to its client. -/
  | client
  /-- The beginning and end of profiles. -/
  | profile
  /-- To a route, about the settings of its profile. -/
  | update
  deriving DecidableEq

/-- **What a message of some family says.** -/
inductive Directive where
  | host (c : HostCommand)
  | client (c : ClientCommand)
  | profile (c : ProfileCommand)
  | update (u : ProfileUpdate)
  deriving DecidableEq

namespace Directive

/-- The family of a directive. -/
def family : Directive → Family
  | .host _ => .host
  | .client _ => .client
  | .profile _ => .profile
  | .update _ => .update

/-- **The message of a directive.**  Only updates go to a route. -/
def toMessage (route : RoutingId) : Directive → Message
  | .host c => c.toMessage
  | .client c => c.toMessage
  | .profile c => c.toMessage
  | .update u => u.toMessage route

/-- Where the message of a directive goes. -/
def target (route : RoutingId) : Directive → RoutingId
  | .update _ => route
  | .host _ | .client _ | .profile _ => .control

/-- Whether the sender of a directive waits for a reply. -/
def isAwaited : Directive → Bool
  | .host (.sync _) | .host (.openChannel _) => true
  | .host .clearWebCache | .client _ | .profile _ | .update _ => false

/-- Bad words come with as many good words. -/
def Paired : Directive → Prop
  | .update (.addCorrections bad good) => bad.length = good.length
  | _ => True

end Directive

namespace Family

/-- **The reader of a family.** -/
def read (m : Message) : Family → Except ProtocolFault (Option Directive)
  | .host => (Option.map .host) <$> HostCommand.ofMessage m
  | .client => (Option.map .client) <$> ClientCommand.ofMessage m
  | .profile => (Option.map .profile) <$> ProfileCommand.ofMessage m
  | .update => (Option.map .update) <$> ProfileUpdate.ofMessage m

/-- The types of a family. -/
def types : Family → List UInt32
  | .host =>
    [HostCommand.syncType, HostCommand.openChannelType, HostCommand.clearWebCacheType]
  | .client => [ClientCommand.nameChannelType]
  | .profile => [ProfileCommand.createType, ProfileCommand.destroyType]
  | .update =>
    [ProfileUpdate.setProxyType, ProfileUpdate.useSystemProxyType,
      ProfileUpdate.setSpellCheckType, ProfileUpdate.addWordsType, ProfileUpdate.removeWordsType,
      ProfileUpdate.addCorrectionsType, ProfileUpdate.removeCorrectionsType]

/-- **No type is of two families.** -/
theorem eq_of_mem_types {f g : Family} {type : UInt32} (hf : type ∈ f.types)
    (hg : type ∈ g.types) : f = g := by
  have hdisjoint : ∀ f g : Family, f ≠ g → f.types.all (· ∉ g.types) = true := by
    intro f g
    cases f <;> cases g <;> decide
  refine Decidable.byContradiction fun hne => ?_
  have hnot := List.all_eq_true.1 (hdisjoint f g hne) type hf
  exact of_decide_eq_true hnot hg

/-- What comes out of a reading was put there by its last step. -/
theorem map_eq_ok_iff {ε α β : Type} {f : α → β} {x : Except ε α} {b : β} :
    f <$> x = .ok b ↔ ∃ a, x = .ok a ∧ f a = b := by
  cases x <;> simp [Functor.map, Except.map]

/-- **A reader passes over exactly the types that are not of its family**, whatever the payload. -/
theorem read_eq_none_iff {f : Family} {m : Message} :
    f.read m = .ok none ↔ m.type ∉ f.types := by
  have hnone : ∀ {α β : Type} (g : α → β) (x : Except ProtocolFault (Option α)),
      Option.map g <$> x = .ok none ↔ x = .ok none := by
    intro α β g x
    simp [map_eq_ok_iff]
  cases f with
  | host =>
    rw [read, hnone, HostCommand.ofMessage]
    split_ifs <;> simp_all [map_eq_ok_iff, types]
  | client =>
    rw [read, hnone, ClientCommand.ofMessage]
    split_ifs <;> simp_all [map_eq_ok_iff, types]
  | profile =>
    rw [read, hnone, ProfileCommand.ofMessage]
    split_ifs <;> simp_all [map_eq_ok_iff, types]
  | update =>
    rw [read, hnone, ProfileUpdate.ofMessage]
    split_ifs <;> simp_all [map_eq_ok_iff, types]

/-- Bad words that are read come with as many good words. -/
theorem length_of_pairsOfMessage {m : Message} {bad good : List String}
    (h : ProfileUpdate.pairsOfMessage m = .ok (bad, good)) : bad.length = good.length := by
  unfold ProfileUpdate.pairsOfMessage at h
  cases hp : m.payloadAs ProfileUpdate.correctionsShape.decode with
  | error e => rw [hp] at h; cases h
  | ok p =>
    simp only [hp, bind, Except.bind] at h
    split at h
    · cases h
    · next hlength =>
      cases h
      exact Decidable.not_not.1 hlength

/-- **An update that is read is paired.** -/
theorem paired_of_update {m : Message} {u : ProfileUpdate}
    (h : ProfileUpdate.ofMessage m = .ok (some u)) : (Directive.update u).Paired := by
  have hother : ∀ {α : Type} (make : α → ProfileUpdate) {x : Except ProtocolFault α},
      (∀ a, (Directive.update (make a)).Paired) → (some ∘ make) <$> x = .ok (some u) →
        (Directive.update u).Paired := by
    intro α make x hmake hx
    obtain ⟨a, -, ha⟩ := map_eq_ok_iff.1 hx
    rw [Function.comp_apply, Option.some.injEq] at ha
    exact ha ▸ hmake a
  rw [ProfileUpdate.ofMessage] at h
  split_ifs at h
  · exact hother .setProxy (fun _ => trivial) h
  · cases h
    trivial
  · exact hother .setSpellCheck (fun _ => trivial) h
  · exact hother .addWords (fun _ => trivial) h
  · exact hother .removeWords (fun _ => trivial) h
  · obtain ⟨⟨bad, good⟩, hpairs, hu⟩ := map_eq_ok_iff.1 h
    cases hu
    exact length_of_pairsOfMessage hpairs
  · exact hother (α := List String × List String) (fun p => .removeCorrections p.1) (fun _ => trivial)
      h
  · cases h

/-- **What a reader gives is of its family and paired**, and so is the type of the message. -/
theorem of_read {f : Family} {m : Message} {d : Directive} (h : f.read m = .ok (some d)) :
    d.family = f ∧ d.Paired ∧ m.type ∈ f.types := by
  have htype : m.type ∈ f.types := by
    refine Decidable.byContradiction fun hout => ?_
    rw [read_eq_none_iff.2 hout] at h
    cases h
  refine ⟨?_, ?_, htype⟩ <;> cases f <;>
    obtain ⟨c, hc, hd⟩ := map_eq_ok_iff.1 h <;>
    obtain ⟨a, rfl, rfl⟩ := Option.map_eq_some_iff.1 hd
  case refine_1.host | refine_1.client | refine_1.profile | refine_1.update => rfl
  case refine_2.host | refine_2.client | refine_2.profile => trivial
  case refine_2.update => exact paired_of_update hc

end Family

/-! ## 3. What is written -/

/-- A command to a client is read back. -/
theorem ClientCommand.ofMessage_toMessage (c : ClientCommand) :
    ofMessage c.toMessage = .ok (some c) := by
  cases c with
  | nameChannel name =>
    have hread : (toMessage (.nameChannel name)).payloadAs nameShape.decode = .ok name :=
      Message.payloadAs_of_ok rfl (singleShape_decode (Json.asText_string name))
    have htype : (toMessage (.nameChannel name)).type = nameChannelType := rfl
    rw [ofMessage, if_pos htype, hread]
    rfl

/-- **Bad words with fewer or more good words are refused.** -/
theorem ProfileUpdate.ofMessage_unpaired {bad good : List String}
    (hlength : bad.length ≠ good.length) (route : RoutingId) :
    ofMessage ((addCorrections bad good).toMessage route)
      = .error (.malformed addCorrectionsType (unpaired bad good)) := by
  have hread := Message.payloadAs_of_ok (m := (addCorrections bad good).toMessage route) rfl
    (correctionsShape_decode bad good)
  have hpairs : pairsOfMessage ((addCorrections bad good).toMessage route)
      = .error (.malformed addCorrectionsType (unpaired bad good)) := by
    simp only [pairsOfMessage, hread, bind, Except.bind]
    rw [if_pos hlength]
    rfl
  have htype : ((addCorrections bad good).toMessage route).type = addCorrectionsType := rfl
  simp +decide only [ofMessage, htype, hpairs, if_true, if_false]
  rfl

namespace Directive

/-- The type of a directive is of its family. -/
theorem type_mem (d : Directive) (route : RoutingId) :
    (d.toMessage route).type ∈ d.family.types := by
  cases d with
  | host c => cases c <;> simp [toMessage, family, Family.types, HostCommand.toMessage,
      Message.control, Message.asSync]
  | client c => cases c; exact List.mem_cons_self
  | profile c => cases c <;> simp [toMessage, family, Family.types, ProfileCommand.toMessage,
      Message.control]
  | update u => cases u <;> simp [toMessage, family, Family.types, ProfileUpdate.toMessage,
      ProfileUpdate.type]

/-- **A directive is read back by the reader of its family**, if it is paired. -/
theorem read_toMessage {d : Directive} (hpaired : d.Paired) (route : RoutingId) :
    d.family.read (d.toMessage route) = .ok (some d) := by
  cases d with
  | host c =>
    have hread : HostCommand.ofMessage c.toMessage = .ok (some c) :=
      HostCommand.ofMessage_toMessage rfl rfl
    simp only [family, toMessage, Family.read, hread]
    rfl
  | client c =>
    simp only [family, toMessage, Family.read, c.ofMessage_toMessage]
    rfl
  | profile c =>
    have hread : ProfileCommand.ofMessage c.toMessage = .ok (some c) :=
      (ProfileCommand.ofMessage_toMessage rfl rfl).2
    simp only [family, toMessage, Family.read, hread]
    rfl
  | update u =>
    have hread : ProfileUpdate.ofMessage (u.toMessage route) = .ok (some u) := by
      refine ProfileUpdate.ofMessage_toMessage ?_ rfl rfl
      rintro bad good rfl
      exact hpaired
    simp only [family, toMessage, Family.read, hread]
    rfl

/-- **What is written for a directive**, to a route where it is an update. -/
structure Coded (d : Directive) (route : RoutingId) : Prop where
  /-- Its own reader gives it back. -/
  own : d.Paired → d.family.read (d.toMessage route) = .ok (some d)
  /-- Only bad words without as many good words are refused. -/
  refused : ¬ d.Paired → ∃ bad good, d = .update (.addCorrections bad good) ∧
    d.family.read (d.toMessage route)
      = .error (.malformed ProfileUpdate.addCorrectionsType (ProfileUpdate.unpaired bad good))
  /-- The readers of the other families pass it over. -/
  foreign : ∀ f, f ≠ d.family → f.read (d.toMessage route) = .ok none
  /-- Updates go to their route, and all else to the peer itself. -/
  address : (d.toMessage route).address = d.target route
  /-- A reply is owed for two commands to a host, and for nothing else. -/
  sync : (d.toMessage route).sync = d.isAwaited

/-- Every directive is coded. -/
theorem coded (d : Directive) (route : RoutingId) : d.Coded route where
  own hpaired := read_toMessage hpaired route
  refused hpaired := by
    cases d with
    | host | client | profile => exact absurd trivial hpaired
    | update u =>
      cases u with
      | addCorrections bad good =>
        refine ⟨bad, good, rfl, ?_⟩
        simp only [family, toMessage, Family.read, ProfileUpdate.ofMessage_unpaired hpaired]
        rfl
      | setProxy | useSystemProxy | setSpellCheck | addWords | removeWords | removeCorrections =>
        exact absurd trivial hpaired
  foreign f hf :=
    Family.read_eq_none_iff.2 fun hmem => hf (Family.eq_of_mem_types hmem (d.type_mem route))
  address := by
    cases d with
    | host c => cases c <;> rfl
    | client c => cases c; rfl
    | profile c => cases c <;> rfl
    | update => rfl
  sync := by
    cases d with
    | host c => cases c <;> rfl
    | client c => cases c; rfl
    | profile c => cases c <;> rfl
    | update => rfl

end Directive

/-! ## 4. Both directions -/

/-- **The families of messages are coherent.**  What is written for a directive is read back by its
own reader and passed over by the others; and a directive that a reader finds in any message,
whatever else is in there, is of the reader's family, is read back when it is written again, and is
the only one that any reader finds. -/
theorem Family.coherent :
    (∀ (d : Directive) (route : RoutingId), d.Coded route) ∧
    ∀ (f : Family) (m : Message) (d : Directive), f.read m = .ok (some d) →
      d.family = f ∧ (∀ route, f.read (d.toMessage route) = .ok (some d)) ∧
        ∀ g d', g.read m = .ok (some d') → g = f ∧ d' = d := by
  refine ⟨Directive.coded, fun f m d h => ?_⟩
  obtain ⟨rfl, hpaired, htype⟩ := of_read h
  refine ⟨rfl, fun route => Directive.read_toMessage hpaired route, fun g d' h' => ?_⟩
  obtain rfl : g = d.family := eq_of_mem_types (of_read h').2.2 htype
  rw [h, Except.ok.injEq, Option.some.injEq] at h'
  exact ⟨rfl, h'.symm⟩

/-- The removal of a bad word, with a good word beside it and a member that is not known, in a
message to the peer itself that asks for a reply. -/
def stuffed : Message :=
  { address := .control
    type := ProfileUpdate.removeCorrectionsType
    sync := true
    payload := .object [("bad_words", .ofStrings ["teh"]), ("good_words", .ofStrings ["the", "a"]),
      ("why", .null)] }

/-- Such a message is read as the removal, which is read back from the plain message for it. -/
theorem Family.coherent_stuffed :
    Family.update.read stuffed = .ok (some (.update (.removeCorrections ["teh"]))) ∧
      Family.update.read ((Directive.update (.removeCorrections ["teh"])).toMessage ⟨5⟩)
        = .ok (some (.update (.removeCorrections ["teh"]))) := by
  have hread : Family.update.read stuffed = .ok (some (.update (.removeCorrections ["teh"]))) := by
    rfl
  exact ⟨hread, (Family.coherent.2 .update stuffed _ hread).2.1 ⟨5⟩⟩

end ControlPlane
