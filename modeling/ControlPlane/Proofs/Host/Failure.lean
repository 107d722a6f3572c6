/-
# Messages that fail

A message to a host's peer fails when it breaks the protocol, or when it means nothing to its
receiver.  Its checks are spread over the readers of messages, the peer's routes and the store of
profiles, and making a profile changes several things once they have passed.  Whatever check it is
that fails, nothing has been changed by then.

* `HostServices.Lends`: surroundings that lend a peer the profiles, as a host does;
* `HostPeer.Refused`, `Unserved`: all the ways in which a message fails;
* `HostPeer.Unscathed`, `unscathed_receive`: what a message that fails leaves as it was;
* `HostPeer.Spared`, `Spared.alike`: messages that fail may as well not have been sent;
* `HostPeer.HarmlessFailures`, `failures_harmless`: all of it, at a peer and in its host.

The reply to a message that fails is queued all the same, and one that breaks the protocol is
counted.  The folders of the file system are not part of this: what the system answers when one has
to be made is given.
-/
import ControlPlane.Proofs.Host.Isolation
import ControlPlane.Proofs.Peer.Blocks
import ControlPlane.Proofs.Peer.Settlement

namespace ControlPlane

/-! ## 1. Surroundings that lend the profiles -/

/-- **Surroundings that lend a peer the profiles**: nothing that it asks for changes them, and what
it makes of them stays. -/
structure HostServices.Lends {S : Type} (services : HostServices S) (view : S → ProfileStore) :
    Prop where
  profiles : services.profiles = view
  setProfiles : ∀ s store, view (services.setProfiles s store) = store
  openChannel : ∀ s timeout, view (services.openChannel s timeout).2 = view s
  clearWebCache : ∀ s, view (services.clearWebCache s) = view s

/-- A host lends its peers its profiles. -/
theorem Host.lends_services (env : Surroundings) : (Host.services env).Lends (·.profiles) where
  profiles := rfl
  setProfiles _ _ := rfl
  openChannel h timeout := h.profiles_openChannel env timeout
  clearWebCache _ := rfl

/-- **A message fails** if it breaks the protocol or means nothing to its receiver. -/
def Outcome.Fails (o : Outcome) : Prop := (∃ e, o = .error e) ∨ o = .ok .unhandled

/-- A message to a profile that fails changes no profile. -/
theorem ProfileRoute.receive_of_fails {r : ProfileRoute} {m : Message} {s : ProfileStore}
    (hfails : Outcome.Fails (r.receive m s).1) : (r.receive m s).2 = s := by
  unfold receive at hfails ⊢
  split
  · rfl
  · rfl
  · next u hm =>
    cases hu : s.update r.profile u with
    | none => rfl
    | some s' => simp [Outcome.Fails, hm, hu] at hfails

namespace HostPeer

variable {A S : Type} [Listener A ProfileStore]

/-- Every listener of a peer is the route of a profile. -/
def OnlyProfiles (p : HostPeer A) : Prop :=
  ∀ a l, p.routes.get? a = some l → ∃ r, l = .profile r

/-! ## 2. The ways to fail -/

/-- **Why a message breaks the protocol.** -/
inductive Refused (p : HostPeer A) (m : Message) : ProtocolFault → Prop
  /-- A command to the host has a payload of another form. -/
  | malformed {e : ProtocolFault} (hcontrol : m.isControl = true)
      (hm : HostCommand.ofMessage m = .error e) : Refused p m e
  /-- A command about the profiles has. -/
  | malformedProfile {e : ProtocolFault} (hcontrol : m.isControl = true)
      (hhost : HostCommand.ofMessage m = .ok none)
      (hm : ProfileCommand.ofMessage m = .error e) : Refused p m e
  | unknownCommand (hcontrol : m.isControl = true) (hhost : HostCommand.ofMessage m = .ok none)
      (hm : ProfileCommand.ofMessage m = .ok none) : Refused p m (.unknownType m.type)
  /-- A profile is asked for at an id that is not one of the client's. -/
  | foreignId {r : ProfileRequest} (hcontrol : m.isControl = true)
      (hhost : HostCommand.ofMessage m = .ok none)
      (hm : ProfileCommand.ofMessage m = .ok (some (.create r)))
      (hforeign : r.route.isClientAllocated = false) :
      Refused p m (.malformed m.type (notClientId r.route))
  /-- A profile is asked for at an id that is in use. -/
  | usedId {r : ProfileRequest} (hcontrol : m.isControl = true)
      (hhost : HostCommand.ofMessage m = .ok none)
      (hm : ProfileCommand.ofMessage m = .ok (some (.create r)))
      (hclient : r.route.isClientAllocated = true) (hused : p.hasRoute r.route = true) :
      Refused p m (.malformed m.type (idInUse r.route))
  /-- An update has a payload of another form, or lists that do not come in pairs. -/
  | malformedUpdate {r : ProfileRoute} {e : ProtocolFault} (hrouted : m.isControl = false)
      (hroute : p.routes.get? m.address = some (.profile r))
      (hm : ProfileUpdate.ofMessage m = .error e) : Refused p m e
  | unknownUpdate {r : ProfileRoute} (hrouted : m.isControl = false)
      (hroute : p.routes.get? m.address = some (.profile r))
      (hm : ProfileUpdate.ofMessage m = .ok none) : Refused p m (.unknownType m.type)

/-- **Why a message means nothing to its receiver.** -/
inductive Unserved (services : HostServices S) (failure : Option String) (p : HostPeer A)
    (m : Message) (s : S) : Prop
  | noRoute (hrouted : m.isControl = false) (hroute : p.routes.get? m.address = none)
  /-- The profile of the route has been destroyed. -/
  | noProfile {r : ProfileRoute} {u : ProfileUpdate} (hrouted : m.isControl = false)
      (hroute : p.routes.get? m.address = some (.profile r))
      (hm : ProfileUpdate.ofMessage m = .ok (some u))
      (hgone : (services.profiles s).get? r.profile = none)
  /-- The profile that is asked for cannot be had. -/
  | notObtained {r : ProfileRequest} {e : Fault} {store : ProfileStore}
      (hcontrol : m.isControl = true) (hhost : HostCommand.ofMessage m = .ok none)
      (hm : ProfileCommand.ofMessage m = .ok (some (.create r)))
      (hclient : r.route.isClientAllocated = true) (hfree : p.hasRoute r.route = false)
      (hob : ProfileRoute.obtain (services.profiles s) r failure = (.error e, store))
  /-- The channel that is asked for cannot be made. -/
  | noChannel {timeout : UInt32} {e : Fault} {s' : S} (hcontrol : m.isControl = true)
      (hm : HostCommand.ofMessage m = .ok (some (.openChannel timeout)))
      (hopen : services.openChannel s timeout = (.error e, s'))

section

variable {services : HostServices S} {failure : Option String} {p : HostPeer A} {m : Message}
  {s : S}

/-- The outcome of a message to the route of a profile. -/
theorem outcome_routed {r : ProfileRoute} (hrouted : m.isControl = false)
    (hroute : p.routes.get? m.address = some (.profile r)) :
    (handle services failure p m s).outcome = (r.receive m (services.profiles s)).1 := by
  simp only [handle, hrouted, Bool.false_eq_true, if_false, routed, deliver_profile hroute]

/-- Where there is a reason the protocol is broken. -/
theorem Refused.outcome {e : ProtocolFault} (h : Refused p m e) :
    (handle services failure p m s).outcome = .error e := by
  cases h with
  | malformed hcontrol hm => simp only [handle, hcontrol, if_true, control, hm]
  | malformedProfile hcontrol hhost hm | unknownCommand hcontrol hhost hm =>
    simp only [handle, hcontrol, if_true, control, hhost, hm]
  | foreignId hcontrol hhost hm hforeign =>
    simp [handle, hcontrol, control, hhost, hm, profileCommand, create, hforeign]
  | usedId hcontrol hhost hm hclient hused =>
    simp [handle, hcontrol, control, hhost, hm, profileCommand, create, hclient, hused]
  | malformedUpdate hrouted hroute hm | unknownUpdate hrouted hroute hm =>
    rw [outcome_routed hrouted hroute]
    simp only [ProfileRoute.receive, hm]

/-- Where there is a reason a message is not handled. -/
theorem Unserved.outcome (h : Unserved services failure p m s) :
    (handle services failure p m s).outcome = .ok .unhandled := by
  cases h with
  | noRoute hrouted hroute =>
    simp only [handle, hrouted, Bool.false_eq_true, if_false, routed, deliver_missing hroute]
  | noProfile hrouted hroute hm hgone =>
    rw [outcome_routed hrouted hroute]
    simp only [ProfileRoute.receive, hm, ProfileStore.update_gone hgone]
  | notObtained hcontrol hhost hm hclient hfree hob =>
    simp [handle, hcontrol, control, hhost, hm, profileCommand, create, hclient, hfree, hob]
  | noChannel hcontrol hm hopen =>
    simp only [handle, hcontrol, if_true, control, hm, command, hopen]

/-- **A message that fails has one of the reasons.** -/
theorem reason_of_fails (hp : p.OnlyProfiles)
    (hfails : (handle services failure p m s).outcome.Fails) :
    (∃ e, Refused p m e) ∨ Unserved services failure p m s := by
  cases hcontrol : m.isControl with
  | false =>
    cases hroute : p.routes.get? m.address with
    | none => exact .inr (.noRoute hcontrol hroute)
    | some l =>
      obtain ⟨r, rfl⟩ := hp _ _ hroute
      rw [outcome_routed hcontrol hroute] at hfails
      rcases hm : ProfileUpdate.ofMessage m with e | _ | u
      · exact .inl ⟨e, .malformedUpdate hcontrol hroute hm⟩
      · exact .inl ⟨_, .unknownUpdate hcontrol hroute hm⟩
      · cases hget : (services.profiles s).get? r.profile with
        | none => exact .inr (.noProfile hcontrol hroute hm hget)
        | some q =>
          simp [ProfileRoute.receive, hm, ProfileStore.update_eq hget, Outcome.Fails] at hfails
  | true =>
    rcases hhost : HostCommand.ofMessage m with e | _ | c
    · exact .inl ⟨e, .malformed hcontrol hhost⟩
    · rcases hm : ProfileCommand.ofMessage m with e | _ | c
      · exact .inl ⟨e, .malformedProfile hcontrol hhost hm⟩
      · exact .inl ⟨_, .unknownCommand hcontrol hhost hm⟩
      · cases c with
        | destroy id =>
          simp [handle, hcontrol, control, hhost, hm, profileCommand, Outcome.Fails] at hfails
        | create r =>
          cases hclient : r.route.isClientAllocated with
          | false => exact .inl ⟨_, .foreignId hcontrol hhost hm hclient⟩
          | true =>
            cases hused : p.hasRoute r.route with
            | true => exact .inl ⟨_, .usedId hcontrol hhost hm hclient hused⟩
            | false =>
              rcases hob : ProfileRoute.obtain (services.profiles s) r failure with
                ⟨e | route, store⟩
              · exact .inr (.notObtained hcontrol hhost hm hclient hused hob)
              · have hfree : p.routes.get? r.route = none := Table.contains_eq_false_iff.1 hused
                simp [handle, hcontrol, control, hhost, hm, profileCommand, create, hclient, hused,
                  hob, Routes.add?_of_free hclient hfree, Outcome.Fails] at hfails
    · cases c with
      | sync final =>
        simp [handle, hcontrol, control, hhost, command, Outcome.Fails] at hfails
      | clearWebCache =>
        simp [handle, hcontrol, control, hhost, command, Outcome.Fails] at hfails
      | openChannel timeout =>
        rcases hopen : services.openChannel s timeout with ⟨e | token, s'⟩
        · exact .inr (.noChannel hcontrol hhost hopen)
        · simp [handle, hcontrol, control, hhost, command, hopen, Outcome.Fails] at hfails

/-- **A message breaks the protocol exactly for one of the reasons.** -/
theorem outcome_error_iff (hp : p.OnlyProfiles) {e : ProtocolFault} :
    (receive services failure p m s).outcome = .error e ↔ Refused p m e := by
  constructor
  · intro houtcome
    have houtcome : (handle services failure p m s).outcome = .error e := houtcome
    rcases reason_of_fails hp (.inl ⟨e, houtcome⟩) with ⟨e', hreason⟩ | hreason
    · have hsame : (handle services failure p m s).outcome = .error e' := hreason.outcome
      rw [houtcome] at hsame
      cases hsame
      exact hreason
    · simp [hreason.outcome] at houtcome
  · exact Refused.outcome

/-- **A message is not handled exactly for one of the reasons.** -/
theorem outcome_unhandled_iff (hp : p.OnlyProfiles) :
    (receive services failure p m s).outcome = .ok .unhandled
      ↔ Unserved services failure p m s := by
  constructor
  · intro houtcome
    have houtcome : (handle services failure p m s).outcome = .ok .unhandled := houtcome
    rcases reason_of_fails hp (.inr houtcome) with ⟨e, hreason⟩ | hreason
    · simp [hreason.outcome] at houtcome
    · exact hreason
  · exact Unserved.outcome

/-! ## 3. What is left as it was -/

/-- Handling a message that fails changes neither the peer nor the profiles. -/
theorem handle_of_fails {view : S → ProfileStore} (hlends : services.Lends view)
    (hp : p.OnlyProfiles) (hfails : (handle services failure p m s).outcome.Fails) :
    (handle services failure p m s).peer = p
      ∧ view (handle services failure p m s).state = view s
      ∧ (handle services failure p m s).removed = [] := by
  have hway := handles services failure p m s
  generalize handle services failure p m s = t at hway hfails
  cases hway with
  | refused => exact ⟨rfl, rfl, rfl⟩
  | synced | opened | cleared | created | destroyed => simp [Outcome.Fails] at hfails
  | notOpened timeout e s' _ _ hopen =>
    have hs' : view s' = view s := by
      rw [← hlends.openChannel s timeout, hopen]
    exact ⟨rfl, hs', rfl⟩
  | failed r e store _ _ hob =>
    have hstore : store = view s := by
      rw [ProfileStore.obtainRoute_error hob, hlends.profiles]
    refine ⟨rfl, ?_, rfl⟩
    rw [hlends.setProfiles, hstore]
  | routed hrouted =>
    simp only at hfails ⊢
    rw [hlends.setProfiles]
    cases hroute : p.routes.get? m.address with
    | none =>
      rw [deliver_missing hroute, hlends.profiles]
      exact ⟨rfl, rfl, trivial⟩
    | some l =>
      obtain ⟨r, rfl⟩ := hp _ _ hroute
      rw [deliver_profile hroute] at hfails ⊢
      rw [ProfileRoute.receive_of_fails hfails, hlends.profiles]
      exact ⟨rfl, rfl, trivial⟩

/-- **A message has left a peer and the profiles as they were**: `t` is what it leaves behind. -/
structure Unscathed (view : S → ProfileStore) (p : HostPeer A) (s : S) (m : Message)
    (t : Turn A S) : Prop where
  routes : t.peer.routes = p.routes
  /-- No id has been taken from the host's block. -/
  ids : t.peer.ids = p.ids
  /-- The profiles, which of them each folder belongs to, and the identity of the next one. -/
  profiles : view t.state = view s
  client : t.peer.id = p.id ∧ t.peer.pid = p.pid
  /-- No listener has lost its route. -/
  removed : t.removed = []
  /-- The channel is the one that it was, with the reply that is owed behind all that was queued. -/
  channel : t.peer.channel = p.channel.queue (replyFor m t.outcome).toList
  /-- It is as open as it was. -/
  phase : t.peer.channel.phase = p.channel.phase

/-- What joins the queue of a channel does not end it. -/
theorem phase_queue {τ : Type} (e : ChannelEnd τ) (ms : List Message) :
    (e.queue ms).phase = e.phase := by
  unfold ChannelEnd.queue ChannelEnd.enqueue
  split <;> rfl

/-- **A message that fails leaves a peer and the profiles as they were.** -/
theorem unscathed_receive {view : S → ProfileStore} (hlends : services.Lends view)
    (hp : p.OnlyProfiles) (hfails : (receive services failure p m s).outcome.Fails) :
    Unscathed view p s m (receive services failure p m s) := by
  obtain ⟨hpeer, hstate, hremoved⟩ := handle_of_fails hlends hp hfails
  have hchannel : (receive services failure p m s).peer.channel
      = p.channel.queue (replyFor m (receive services failure p m s).outcome).toList := by
    simp only [receive, channel_pay, channel_settle, channel_handle]
  have hback : ∃ channel badMessages,
      (receive services failure p m s).peer = { p with channel, badMessages } := by
    simp only [receive, hpeer]
    exact pay_settle p m _
  obtain ⟨channel, badMessages, hback⟩ := hback
  exact
    { routes := by rw [hback]
      ids := by rw [hback]
      profiles := hstate
      client := by rw [hback]; exact ⟨rfl, rfl⟩
      removed := hremoved
      channel := hchannel
      phase := by rw [hchannel, phase_queue] }

/-- A message is counted exactly when it breaks the protocol. -/
theorem badMessages_receive :
    (receive services failure p m s).peer.badMessages
      = p.badMessages + (receive services failure p m s).outcome.isFault.toNat := by
  simp only [receive, badMessages_pay, badMessages_settle, badMessages_handle]

end

/-! ## 4. Messages that may as well not have been sent -/

/-- **Two peers hold the same**: the same routes and ids, over the same profiles. -/
structure Alike (view : S → ProfileStore) (x y : HostPeer A × S) : Prop where
  routes : x.1.routes = y.1.routes
  ids : x.1.ids = y.1.ids
  profiles : view x.2 = view y.2

section

variable {view : S → ProfileStore} {services services' : HostServices S} {p q : HostPeer A}
  {s u : S}

omit [Listener A ProfileStore] in
/-- A command of the client changes neither the peer nor the profiles. -/
theorem command_keeps (hlends : services.Lends view) (p : HostPeer A) (s : S) (c : HostCommand) :
    (command services p s c).peer = p ∧ view (command services p s c).state = view s := by
  cases c with
  | sync => exact ⟨rfl, rfl⟩
  | clearWebCache => exact ⟨rfl, hlends.clearWebCache s⟩
  | openChannel timeout =>
    have hstate := hlends.openChannel s timeout
    simp only [command]
    split <;> next hopen =>
      rw [hopen] at hstate
      exact ⟨rfl, hstate⟩

/-- Removing a route takes as much from either peer. -/
theorem removeRoute_congr (hroutes : p.routes = q.routes) (id : RoutingId) (store : ProfileStore) :
    (p.removeRoute id store).peer.routes = (q.removeRoute id store).peer.routes
      ∧ (p.removeRoute id store).profiles = (q.removeRoute id store).profiles := by
  unfold removeRoute
  rw [hroutes]
  split
  · exact ⟨rfl, rfl⟩
  · exact ⟨hroutes, rfl⟩

omit [Listener A ProfileStore] in
/-- Making a profile adds as much to either peer. -/
theorem create_congr (hlends : services.Lends view) (hlends' : services'.Lends view)
    (hroutes : p.routes = q.routes) (hprofiles : view s = view u) (failure : Option String)
    (type : UInt32) (r : ProfileRequest) :
    (create services failure p type r s).peer.routes
        = (create services' failure q type r u).peer.routes
      ∧ view (create services failure p type r s).state
        = view (create services' failure q type r u).state := by
  have hused : p.hasRoute r.route = q.hasRoute r.route := by rw [hasRoute, hasRoute, hroutes]
  simp only [create, hlends.profiles, hlends'.profiles, hused, hroutes, ← hprofiles]
  split
  · exact ⟨hroutes, hprofiles⟩
  · split
    · exact ⟨hroutes, hprofiles⟩
    · rcases ProfileRoute.obtain (view s) r failure with ⟨e | route, store⟩
      · refine ⟨hroutes, ?_⟩
        rw [hlends.setProfiles, hlends'.setProfiles]
      · simp only
        cases q.routes.add? r.route (.profile route) with
        | none =>
          refine ⟨hroutes, ?_⟩
          rw [hlends.setProfiles, hlends'.setProfiles]
        | some routes =>
          refine ⟨rfl, ?_⟩
          rw [hlends.setProfiles, hlends'.setProfiles]

/-- **What a message does to the routes and the profiles depends on them alone.** -/
theorem handle_congr (hlends : services.Lends view) (hlends' : services'.Lends view)
    (hroutes : p.routes = q.routes) (hprofiles : view s = view u) (failure : Option String)
    (m : Message) :
    (handle services failure p m s).peer.routes = (handle services' failure q m u).peer.routes
      ∧ view (handle services failure p m s).state
        = view (handle services' failure q m u).state := by
  unfold handle
  split
  · unfold control
    rcases HostCommand.ofMessage m with e | _ | c
    · exact ⟨hroutes, hprofiles⟩
    · simp only
      rcases ProfileCommand.ofMessage m with e | _ | c
      · exact ⟨hroutes, hprofiles⟩
      · exact ⟨hroutes, hprofiles⟩
      · cases c with
        | create r => exact create_congr hlends hlends' hroutes hprofiles failure m.type r
        | destroy id =>
          obtain ⟨hrest, hstore⟩ := removeRoute_congr hroutes id (view s)
          simp only [profileCommand, hlends.profiles, hlends'.profiles, hlends.setProfiles,
            hlends'.setProfiles, ← hprofiles]
          exact ⟨hrest, hstore⟩
    · obtain ⟨hpeer, hstate⟩ := command_keeps hlends p s c
      obtain ⟨hpeer', hstate'⟩ := command_keeps hlends' q u c
      simp only [hpeer, hpeer', hstate, hstate']
      exact ⟨hroutes, hprofiles⟩
  · simp only [routed, hlends.profiles, hlends'.profiles, hlends.setProfiles, hlends'.setProfiles,
      hroutes, hprofiles, and_self]

end

/-- **A message leaves a peer with profiles only as one.** -/
theorem OnlyProfiles.receive {p : HostPeer A} (hp : p.OnlyProfiles) (services : HostServices S)
    (failure : Option String) (m : Message) (s : S) :
    (receive services failure p m s).peer.OnlyProfiles := by
  intro a l hl
  have hfate := fate_receive services failure p m s a
  rw [hl] at hfate
  generalize hbefore : p.routes.get? a = o at hfate
  cases hfate with
  | kept => exact hp a l hbefore
  | created _ _ r => exact ⟨r, rfl⟩
  | given k _ hgiven =>
    obtain ⟨r, rfl⟩ := hp a k hbefore
    obtain ⟨m', store, -, -, rfl⟩ := hgiven
    refine ⟨r, ?_⟩
    unfold Received.settled
    split <;> rfl

namespace Arrival

/-- Whether the surroundings in which something arrives lend the profiles. -/
def Lends (view : S → ProfileStore) : Arrival S → Prop
  | .message _ services _ => services.Lends view
  | .garbage => True

/-- **Something that arrives fails**; a frame that is no message always does. -/
def Fails (x : HostPeer A × S) : Arrival S → Prop
  | .message m services failure => (HostPeer.receive services failure x.1 m x.2).outcome.Fails
  | .garbage => True

/-- **The same arrives**, and the system answers the same if a folder has to be made.  The other
surroundings may differ. -/
inductive Same : Arrival S → Arrival S → Prop
  | message (m : Message) (services services' : HostServices S) (failure : Option String) :
      Same (.message m services failure) (.message m services' failure)
  | garbage : Same .garbage .garbage

end Arrival

/-- **Of what arrives some is left out**, all of which would have failed when its turn had come. -/
inductive Spared : HostPeer A × S → List (Arrival S) → List (Arrival S) → Prop
  | nil (x : HostPeer A × S) : Spared x [] []
  | dropped {x : HostPeer A × S} {a : Arrival S} {all kept : List (Arrival S)} (hfails : a.Fails x)
      (hrest : Spared (arrive x a) all kept) : Spared x (a :: all) kept
  | kept {x : HostPeer A × S} {a b : Arrival S} {all kept : List (Arrival S)} (hsame : a.Same b)
      (hrest : Spared (arrive x a) all kept) : Spared x (a :: all) (b :: kept)

section

variable {view : S → ProfileStore} {x y z : HostPeer A × S} {a b : Arrival S}

omit [Listener A ProfileStore] in
theorem Alike.refl (x : HostPeer A × S) : Alike view x x := ⟨rfl, rfl, rfl⟩

omit [Listener A ProfileStore] in
theorem Alike.trans (h : Alike view x y) (h' : Alike view y z) : Alike view x z :=
  ⟨h.routes.trans h'.routes, h.ids.trans h'.ids, h.profiles.trans h'.profiles⟩

/-- What fails leaves the same behind. -/
theorem Alike.of_fails (hx : x.1.OnlyProfiles) (hlends : a.Lends view) (hfails : a.Fails x) :
    Alike view (arrive x a) x := by
  cases a with
  | garbage => exact ⟨rfl, rfl, rfl⟩
  | message m services failure =>
    have hsame := unscathed_receive hlends hx hfails
    exact ⟨hsame.routes, hsame.ids, hsame.profiles⟩

/-- **Peers that hold the same do so after the same has arrived.** -/
theorem Alike.after_arrival (h : Alike view x y) (hlends : a.Lends view) (hlends' : b.Lends view)
    (hsame : a.Same b) : Alike view (arrive x a) (arrive y b) := by
  cases hsame with
  | garbage => exact ⟨h.routes, h.ids, h.profiles⟩
  | message m services services' failure =>
    obtain ⟨hroutes, hprofiles⟩ :=
      handle_congr hlends hlends' h.routes h.profiles failure m
    refine ⟨?_, ?_, hprofiles⟩
    · simp only [arrive, routes_receive]
      exact hroutes
    · simp only [arrive, ids_receive]
      exact h.ids

/-- A peer with profiles only stays one. -/
theorem OnlyProfiles.arrive (hx : x.1.OnlyProfiles) (a : Arrival S) :
    (HostPeer.arrive x a).1.OnlyProfiles := by
  cases a with
  | garbage => exact hx
  | message m services failure => exact hx.receive services failure m x.2

/-- **What fails may as well not have arrived.**  The induction is on what is left out; the peer
that is spared some of it holds the same all along. -/
theorem Spared.alike {all kept : List (Arrival S)} (h : Spared x all kept)
    (hx : x.1.OnlyProfiles) (hall : ∀ a ∈ all, a.Lends view) (hkept : ∀ a ∈ kept, a.Lends view)
    (hxy : Alike view x y) : Alike view (receiveAll x all) (receiveAll y kept) := by
  induction h generalizing y with
  | nil x => exact hxy
  | dropped hfails _ ih =>
    rw [List.forall_mem_cons] at hall
    have hsame := Alike.of_fails hx hall.1 hfails
    exact ih (hx.arrive _) hall.2 hkept (hsame.trans hxy)
  | kept hsame _ ih =>
    rw [List.forall_mem_cons] at hall hkept
    exact ih (hx.arrive _) hall.2 hkept.2 (hxy.after_arrival hall.1 hkept.1 hsame)

end

/-! ## 5. Failures are harmless -/

/-- **What a peer and its profiles have to fear from messages that fail**: nothing. -/
structure HarmlessFailures (view : S → ProfileStore) (p : HostPeer A) (s : S) : Prop where
  /-- A message that breaks the protocol changes nothing, and is counted once. -/
  fault : ∀ (services : HostServices S) (failure : Option String) (m : Message),
    services.Lends view → ∀ e, (receive services failure p m s).outcome = .error e →
    Unscathed view p s m (receive services failure p m s)
      ∧ (receive services failure p m s).peer.badMessages = p.badMessages + 1
  /-- A message that means nothing to its receiver changes nothing, and is not counted. -/
  unhandled : ∀ (services : HostServices S) (failure : Option String) (m : Message),
    services.Lends view → (receive services failure p m s).outcome = .ok .unhandled →
    Unscathed view p s m (receive services failure p m s)
      ∧ (receive services failure p m s).peer.badMessages = p.badMessages
  /-- These are the messages that break the protocol, -/
  refused : ∀ (services : HostServices S) (failure : Option String) (m : Message)
    (e : ProtocolFault), (receive services failure p m s).outcome = .error e ↔ Refused p m e
  /-- and these are those that mean nothing. -/
  unserved : ∀ (services : HostServices S) (failure : Option String) (m : Message),
    (receive services failure p m s).outcome = .ok .unhandled
      ↔ Unserved services failure p m s
  /-- Whatever arrives, leaving out what fails leaves the same routes, ids and profiles. -/
  spared : ∀ all kept : List (Arrival S), (∀ a ∈ all, a.Lends view) → (∀ a ∈ kept, a.Lends view) →
    Spared (p, s) all kept → Alike view (receiveAll (p, s) all) (receiveAll (p, s) kept)

/-- A peer with profiles only has nothing to fear. -/
theorem OnlyProfiles.harmlessFailures {p : HostPeer A} (hp : p.OnlyProfiles)
    (view : S → ProfileStore) (s : S) : HarmlessFailures view p s where
  fault := by
    intro services failure m hlends e houtcome
    refine ⟨unscathed_receive hlends hp (.inl ⟨e, houtcome⟩), ?_⟩
    rw [badMessages_receive, houtcome]
    rfl
  unhandled := by
    intro services failure m hlends houtcome
    refine ⟨unscathed_receive hlends hp (.inr houtcome), ?_⟩
    rw [badMessages_receive, houtcome]
    rfl
  refused services failure m e := outcome_error_iff hp
  unserved services failure m := outcome_unhandled_iff hp
  spared all kept hall hkept h := h.alike hp hall hkept (.refl _)

end HostPeer

namespace Host

/-- The peers of a host have profiles only. -/
theorem onlyProfiles (p : HostPeer Empty) : p.OnlyProfiles := by
  intro a l _
  cases l with
  | profile r => exact ⟨r, rfl⟩
  | application a => exact a.elim

/-- **A host stands as it did** when one of its peers has been given a message: `t` is what the
message has left behind. -/
structure Stands (h : Host) (id : PeerId) (t : HostPeer.Turn Empty Host) (h' : Host) : Prop where
  /-- The peer is still there. -/
  peer : h'.peer? id = some t.peer
  others : ∀ j, j ≠ id → h'.peer? j = h.peer? j
  profiles : h'.profiles = h.profiles
  /-- It is watched as before. -/
  watchdog : h'.watchdog = h.watchdog
  stopped : h'.stopped = h.stopped

/-- Of the rest of a host, a message that fails can use up the identity of a peer only. -/
theorem state_of_fails {h : Host} {env : Surroundings} {id : PeerId} {p : HostPeer Empty}
    {m : Message}
    (hfails : (p.handle (services env) env.folderFailure m (h.without id)).outcome.Fails) :
    ∃ nextPeer profiles, (p.handle (services env) env.folderFailure m (h.without id)).state
      = { h.without id with nextPeer, profiles } := by
  have hway := HostPeer.handles (services env) env.folderFailure p m (h.without id)
  generalize p.handle (services env) env.folderFailure m (h.without id) = t at hway hfails
  cases hway with
  | refused => exact ⟨_, _, rfl⟩
  | synced | opened | cleared | created | destroyed => simp [Outcome.Fails] at hfails
  | failed | routed => exact ⟨_, _, rfl⟩
  | notOpened timeout e s' _ _ hopen =>
    have hs' : s' = ((h.without id).openChannel env timeout.toNat).2 := congrArg Prod.snd hopen.symm
    rcases (h.without id).openChannel_request env timeout with ⟨_, ho⟩ | ⟨_, _, ho⟩ | ⟨_, _, ho⟩
    · rw [hs', ho]
      exact ⟨_, _, rfl⟩
    · rw [hs', ho]
      exact ⟨_, _, rfl⟩
    · simp [services, awaited, ho, Except.map] at hopen

/-- **A host stands as it did after a message that fails.** -/
theorem stands_receive {h : Host} {env : Surroundings} {id : PeerId} {p : HostPeer Empty}
    {m : Message} (hp : h.peer? id = some p)
    (hfails : (p.receive (services env) env.folderFailure m (h.without id)).outcome.Fails) :
    h.Stands id (p.receive (services env) env.folderFailure m (h.without id))
      (h.receive env id m) := by
  have hprofiles := (HostPeer.handle_of_fails (lends_services env) (onlyProfiles p) hfails).2.1
  obtain ⟨nextPeer, profiles, hstate⟩ := state_of_fails hfails
  rw [hstate] at hprofiles
  rw [receive_eq hp, hstate]
  exact
    { peer := by simp [withPeer, peer?]
      others := by
        intro j hj
        simp [withPeer, without, peer?, hj]
      profiles := hprofiles
      watchdog := rfl
      stopped := rfl }

end Host

/-- **Messages that fail are harmless**: to every peer whose listeners are routes of profiles, and
to every host that such a peer belongs to. -/
theorem failures_harmless {A S : Type} [Listener A ProfileStore] (view : S → ProfileStore)
    {p : HostPeer A} (hp : p.OnlyProfiles) (s : S) :
    HostPeer.HarmlessFailures view p s ∧
      ∀ (h : Host) (env : Surroundings) (id : PeerId) (q : HostPeer Empty) (m : Message),
        h.peer? id = some q →
        (q.receive (Host.services env) env.folderFailure m (h.without id)).outcome.Fails →
        h.Stands id (q.receive (Host.services env) env.folderFailure m (h.without id))
          (h.receive env id m) := by
  refine ⟨hp.harmlessFailures view s, ?_⟩
  intro h env id q m hq hfails
  exact Host.stands_receive hq hfails

/-- A peer with a route to a profile that is gone. -/
def stranded : HostPeer Empty :=
  { id := ⟨1⟩, channel := ChannelEnd.listening "",
    routes := Table.empty.insert ⟨0⟩ (.profile ⟨⟨0⟩, ⟨0⟩⟩) }

/-- The client asks for another profile at the id that its first one has. -/
def repeated : Message := (ProfileCommand.create ⟨⟨0⟩, "b", true, true⟩).toMessage

/-- A word for a profile that is gone is lost, and a client that asks for a profile at an id in use
is refused. -/
theorem failures_harmless_stranded :
    (HostPeer.profilesOnly.Lends id ∧
      (stranded.receive HostPeer.profilesOnly none Host.wordy {}).outcome = .ok .unhandled ∧
      HostPeer.Unscathed id stranded {} Host.wordy
        (stranded.receive HostPeer.profilesOnly none Host.wordy {})) ∧
    ∃ q, (Host.after {} Host.founding).peer? ⟨1⟩ = some q ∧
      (q.receive (Host.services Host.calm) none repeated
          ((Host.after {} Host.founding).without ⟨1⟩)).outcome
        = .error (.malformed repeated.type (HostPeer.idInUse ⟨0⟩)) ∧
      ((Host.after {} Host.founding).receive Host.calm ⟨1⟩ repeated).profiles
        = (Host.after {} Host.founding).profiles := by
  have hp : stranded.OnlyProfiles := Host.onlyProfiles stranded
  have hlends : HostPeer.profilesOnly.Lends id :=
    ⟨rfl, fun _ _ => rfl, fun _ _ => rfl, fun _ => rfl⟩
  obtain ⟨hpeer, hhost⟩ := failures_harmless id hp {}
  have hgone : (stranded.receive HostPeer.profilesOnly none Host.wordy {}).outcome
      = .ok .unhandled := by decide +kernel
  refine ⟨⟨hlends, hgone, (hpeer.unhandled _ none Host.wordy hlends hgone).1⟩, ?_⟩
  have hrefused : ((Host.after {} Host.founding).peer? ⟨1⟩).map (fun q =>
      (q.receive (Host.services Host.calm) none repeated
        ((Host.after {} Host.founding).without ⟨1⟩)).outcome)
      = some (.error (.malformed repeated.type (HostPeer.idInUse ⟨0⟩))) := by decide +kernel
  obtain ⟨q, hq, houtcome⟩ := Option.map_eq_some_iff.1 hrefused
  exact ⟨q, hq, houtcome,
    (hhost _ Host.calm ⟨1⟩ q repeated hq (.inl ⟨_, houtcome⟩)).profiles⟩

end ControlPlane
