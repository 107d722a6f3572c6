/-
# Who makes and removes the routes of a host's peer

The ids of routes are split between the two ends of a channel, and each takes its ids from its own
block.  What a client sends bears on the routes of its host's peer in a few ways only: a request for
a profile makes one, in the client's block; a request to destroy one removes it; and a message to a
route changes what the listener there remembers.

* `HostPeer.Arrival`, `receiveAll`: what arrives from a client, message or not;
* `HostPeer.Fate`, `fate_receive`: what one message can do at one id;
* `HostPeer.removed_of_destroys`: a request to destroy a route is carried out at any id;
* `HostPeer.Partition`, `partition_receiveAll`: what everything that arrives has done at an id;
* `HostPeer.destroys_host_route`: a client that removes a route of the host's block.

The id in a request for a profile is checked against the client's block.  The id in a request to
destroy one is not: the host's routes stay as long as no client names them there.
-/
import Mathlib.Data.List.Induction
import Mathlib.Logic.Relation
import ControlPlane.Proofs.Message.Commands
import ControlPlane.Proofs.Peer.Handling

namespace ControlPlane

/-! ## 1. What a message says of an id -/

/-- An id of the host's block is not one of the client's. -/
theorem RoutingId.not_client_of_host {a : RoutingId} (h : a.isHostAllocated = true) :
    a.isClientAllocated = false := by
  simp only [isHostAllocated, Bool.and_eq_true, decide_eq_true_eq] at h
  simp only [isClientAllocated, decide_eq_false_iff_not]
  exact fun hlt => absurd hlt (UInt32.not_lt.2 h.2)

namespace Message

/-- A message asks to make a profile with its route at an id. -/
def Creates (m : Message) (a : RoutingId) : Prop :=
  m.isControl = true ∧
    ∃ r, ProfileCommand.ofMessage m = .ok (some (.create r)) ∧ r.route = a

/-- A message asks to destroy what is at an id. -/
def Destroys (m : Message) (a : RoutingId) : Prop :=
  m.isControl = true ∧ ProfileCommand.ofMessage m = .ok (some (.destroy a))

end Message

namespace HostPeer

variable {A S : Type} [Listener A ProfileStore]

/-! ## 2. What arrives from a client -/

/-- **What arrives from a client.** -/
inductive Arrival (S : Type) where
  /-- A message, with what the peer meets while it handles it. -/
  | message (m : Message) (services : HostServices S) (failure : Option String)
  /-- A frame that is no message. -/
  | garbage

/-- The message that has arrived, if it is one. -/
def Arrival.message? : Arrival S → Option Message
  | .message m _ _ => some m
  | .garbage => none

/-- The peer and its surroundings after something has arrived. -/
def arrive (x : HostPeer A × S) : Arrival S → HostPeer A × S
  | .message m services failure =>
    let t := x.1.receive services failure m x.2
    (t.peer, t.state)
  | .garbage => (x.1.countBad, x.2)

/-- **The peer and its surroundings after everything that has arrived**, one after the other. -/
def receiveAll (x : HostPeer A × S) (arrivals : List (Arrival S)) : HostPeer A × S :=
  arrivals.foldl arrive x

/-- A listener has been given a message to its id. -/
def Given (a : RoutingId) (l l' : HostListener A) : Prop :=
  ∃ (m : Message) (s : ProfileStore), m.isControl = false ∧ m.address = a ∧
    l' = (Listener.receive l m s).settled m

/-- **A listener is the one that was there before**, but for the messages to its id. -/
abbrev Same (a : RoutingId) : HostListener A → HostListener A → Prop :=
  Relation.ReflTransGen (Given a)

/-! ## 3. One message -/

/-- **What a message can do at an id**: from what is registered before to what is afterwards. -/
inductive Fate (m : Message) (a : RoutingId) :
    Option (HostListener A) → Option (HostListener A) → Prop
  | kept (o : Option (HostListener A)) : Fate m a o o
  | created (hm : m.Creates a) (hclient : a.isClientAllocated = true) (r : ProfileRoute) :
      Fate m a none (some (.profile r))
  | destroyed (hm : m.Destroys a) (o : Option (HostListener A)) : Fate m a o none
  | given (l l' : HostListener A) (hl : Given a l l') : Fate m a (some l) (some l')

/-- What is registered after a route was removed. -/
theorem get?_removeRoute (p : HostPeer A) (id a : RoutingId) (s : ProfileStore) :
    (p.removeRoute id s).peer.routes.get? a = if a = id then none else p.routes.get? a := by
  unfold removeRoute
  split
  · by_cases ha : a = id <;> simp [ha]
  · next hnone =>
    split
    · next ha => rw [ha, hnone]
    · rfl

/-- **A message does one of these at every id.** -/
theorem fate_receive (services : HostServices S) (failure : Option String) (p : HostPeer A)
    (m : Message) (s : S) (a : RoutingId) :
    Fate m a (p.routes.get? a) ((receive services failure p m s).peer.routes.get? a) := by
  rw [routes_receive]
  have hway := handles services failure p m s
  generalize handle services failure p m s = t at hway
  cases hway with
  | refused | synced | opened | notOpened | cleared | failed => exact .kept _
  | created r route store hcontrol hm hclient hfree =>
    by_cases ha : a = r.route
    · subst ha
      simp only [Table.get?_insert, if_pos, hfree]
      exact .created ⟨hcontrol, r, hm, rfl⟩ hclient route
    · simp only [Table.get?_insert, if_neg ha]
      exact .kept _
  | destroyed id hcontrol hm =>
    rw [get?_removeRoute]
    by_cases ha : a = id
    · subst ha
      rw [if_pos rfl]
      exact .destroyed ⟨hcontrol, hm⟩ _
    · rw [if_neg ha]
      exact .kept _
  | routed hrouted =>
    simp only [deliver]
    split
    · next l hl =>
      by_cases ha : a = m.address
      · subst ha
        simp only [Table.get?_adjust, if_pos, hl, Option.map_some]
        exact .given l _ ⟨m, services.profiles s, hrouted, rfl, rfl⟩
      · simp only [Table.get?_adjust, if_neg ha]
        exact .kept _
    · exact .kept _

/-- **A request to destroy what is at an id is carried out**, whatever is there and in whichever
block the id lies. -/
theorem removed_of_destroys {m : Message} {a : RoutingId} (hm : m.Destroys a)
    (services : HostServices S) (failure : Option String) (p : HostPeer A) (s : S) :
    (receive services failure p m s).peer.routes.get? a = none := by
  obtain ⟨hcontrol, hcommand⟩ := hm
  have hhost := HostCommand.ofMessage_profileCommand hcommand
  rw [routes_receive]
  simp only [handle, hcontrol, if_true, control, hhost, hcommand, profileCommand]
  rw [get?_removeRoute, if_pos rfl]

/-! ## 4. Everything that arrives -/

/-- The messages among what has arrived. -/
def messages (arrivals : List (Arrival S)) : List Message := arrivals.filterMap Arrival.message?

/-- **What a client has done at an id**, from what was registered there to what is. -/
structure Partition (ms : List Message) (a : RoutingId)
    (before after : Option (HostListener A)) : Prop where
  /-- A route that has come lies in the client's block, and the client has asked for it. -/
  created : before = none → after ≠ none → a.isClientAllocated = true ∧ ∃ m ∈ ms, m.Creates a
  /-- A route that has gone is one that the client has asked to destroy. -/
  removed : before ≠ none → after = none → ∃ m ∈ ms, m.Destroys a
  /-- In the host's block no route comes, -/
  free : a.isHostAllocated = true → before = none → after = none
  /-- and one that the client does not ask to destroy is there as before. -/
  same : a.isHostAllocated = true → (∀ m ∈ ms, ¬ m.Destroys a) →
    ∀ l, before = some l → ∃ l', after = some l' ∧ Same a l l'
  /-- One that it asks to destroy is gone, whoever has made it. -/
  unprotected : a.isHostAllocated = true → (∃ m ∈ ms, m.Destroys a) → after = none

/-- Who has sent nothing has done nothing. -/
theorem Partition.nil (a : RoutingId) (o : Option (HostListener A)) : Partition [] a o o where
  created hbefore hafter := absurd hbefore hafter
  removed hbefore hafter := absurd hafter hbefore
  free _ hbefore := hbefore
  same _ _ l hl := ⟨l, hl, .refl⟩
  unprotected _ h := by simp at h

/-- **One message more**, which does what a message can do and destroys what it asks to. -/
theorem Partition.snoc {ms : List Message} {m : Message} {a : RoutingId}
    {before now after : Option (HostListener A)} (h : Partition ms a before now)
    (hfate : Fate m a now after) (hdestroy : m.Destroys a → after = none) :
    Partition (ms ++ [m]) a before after := by
  have hlast : m ∈ ms ++ [m] := List.mem_append_right _ (List.mem_singleton_self m)
  have hfirst : ∀ {P : Message → Prop}, (∃ n ∈ ms, P n) → ∃ n ∈ ms ++ [m], P n := by
    rintro P ⟨n, hn, hp⟩
    exact ⟨n, List.mem_append_left _ hn, hp⟩
  constructor
  case created =>
    intro hbefore hafter
    cases hfate with
    | kept =>
      obtain ⟨hclient, hasked⟩ := h.created hbefore hafter
      exact ⟨hclient, hfirst hasked⟩
    | created hm hclient => exact ⟨hclient, m, hlast, hm⟩
    | destroyed => exact absurd rfl hafter
    | given l =>
      obtain ⟨hclient, hasked⟩ := h.created hbefore (by simp)
      exact ⟨hclient, hfirst hasked⟩
  case removed =>
    intro hbefore hafter
    cases hfate with
    | kept => exact hfirst (h.removed hbefore hafter)
    | created => cases hafter
    | destroyed hm => exact ⟨m, hlast, hm⟩
    | given => cases hafter
  case free =>
    intro hhost hbefore
    have hnow := h.free hhost hbefore
    cases hfate with
    | kept => exact hnow
    | created _ hclient =>
      rw [RoutingId.not_client_of_host hhost] at hclient
      cases hclient
    | destroyed => rfl
    | given => cases hnow
  case same =>
    intro hhost hnot l hl
    obtain ⟨l', hnow, hsame⟩ :=
      h.same hhost (fun n hn => hnot n (List.mem_append_left _ hn)) l hl
    cases hfate with
    | kept => exact ⟨l', hnow, hsame⟩
    | created => cases hnow
    | destroyed hm => exact absurd hm (hnot m hlast)
    | given k k' hgiven =>
      obtain rfl := Option.some.inj hnow
      exact ⟨k', rfl, hsame.tail hgiven⟩
  case unprotected =>
    rintro hhost ⟨n, hn, hdestroys⟩
    rcases List.mem_append.1 hn with hold | hnew
    · have hnow := h.unprotected hhost ⟨n, hold, hdestroys⟩
      cases hfate with
      | kept => exact hnow
      | created _ hclient =>
        rw [RoutingId.not_client_of_host hhost] at hclient
        cases hclient
      | destroyed => rfl
      | given => cases hnow
    · obtain rfl := List.mem_singleton.1 hnew
      exact hdestroy hdestroys

/-- **What a client can do to the routes of its host's peer**, whatever it sends: the routes of the
host's block stay as they are unless it asks to destroy them, and then they are gone. -/
theorem partition_receiveAll (p : HostPeer A) (s : S) (arrivals : List (Arrival S))
    (a : RoutingId) :
    Partition (messages arrivals) a (p.routes.get? a)
      ((receiveAll (p, s) arrivals).1.routes.get? a) := by
  induction arrivals using List.reverseRecOn with
  | nil => exact .nil a _
  | append_singleton rest x ih =>
    have hstep : receiveAll (p, s) (rest ++ [x]) = arrive (receiveAll (p, s) rest) x :=
      List.foldl_append
    rw [hstep]
    cases x with
    | garbage =>
      have hsame : messages (rest ++ [.garbage]) = messages rest := by
        simp [messages, Arrival.message?]
      rw [hsame]
      exact ih
    | message m services failure =>
      have hmore : messages (rest ++ [.message m services failure]) = messages rest ++ [m] := by
        simp [messages, Arrival.message?]
      rw [hmore]
      exact ih.snoc (fate_receive services failure _ m _ a)
        fun hm => removed_of_destroys hm services failure _ _

/-! ## 5. A route of the host's block -/

/-- A listener that does nothing. -/
instance : Listener Unit ProfileStore where
  receive _ _ s := ⟨.ok .handled, (), s⟩

/-- What surrounds a peer that shares the profiles and nothing else. -/
def profilesOnly : HostServices ProfileStore where
  profiles s := s
  setProfiles _ s := s
  openChannel s _ := (.error .hostStopped, s)
  clearWebCache s := s

/-- A peer with a listener of the application at the first id of the host's block. -/
def hosting : HostPeer Unit :=
  { id := ⟨1⟩, channel := ChannelEnd.listening "",
    routes := Table.empty.insert RoutingId.hostBase (.application ()) }

/-- The client asks to destroy what is there. -/
def intrusion : Message := (ProfileCommand.destroy RoutingId.hostBase).toMessage

/-- **A client removes a route of the host's block**, which the application has registered. -/
theorem destroys_host_route :
    RoutingId.hostBase.isHostAllocated = true ∧
      (HostPeer.addRoute { id := ⟨1⟩, channel := ChannelEnd.listening "" }
        RoutingId.hostBase ()).toOption = some hosting ∧
      hosting.hasRoute RoutingId.hostBase = true ∧
      (receiveAll (hosting, {}) [.message intrusion profilesOnly none]).1.hasRoute
        RoutingId.hostBase = false := by
  refine ⟨by decide, rfl, by decide, ?_⟩
  have hread : intrusion.Destroys RoutingId.hostBase :=
    ⟨rfl, (ProfileCommand.ofMessage_toMessage rfl rfl).2⟩
  exact Table.contains_eq_false_iff.2 (removed_of_destroys hread profilesOnly none hosting {})

end HostPeer

end ControlPlane
