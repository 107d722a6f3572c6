/-
# Updates stay with the profile of their route

Many clients share the profiles of a host, and their messages arrive in any order.  A message to a
route can do one thing: change the settings of the one profile that was obtained for this route,
just as the application could have done on the store.

* `Host.receive_routed`: what a message to a route leaves behind, in one equation;
* `Host.Isolated`: what this comes to, with nothing left open: what changes when there is a live
  profile to update, and that nothing does in every other case;
* `Host.Blind`: other profiles are not even read;
* `Host.Lasting`: the profile of a route is the one that was obtained for it.  A folder that is
  obtained again after its profile was destroyed belongs to another one;
* `Host.isolated_run`: all this holds for every message in every run of deeds.

The route does not look for its profile by the folder, and identities are never used again
(`Host.keeps_after`); that is why a route whose profile is gone reaches none at all.
-/
import ControlPlane.Proofs.Host.Deeds

namespace ControlPlane

/-! ## 1. What a message to a route leaves behind -/

/-- After a message has been handled, only the channel and a count of the peer have changed. -/
theorem HostPeer.pay_settle {A : Type} (p : HostPeer A) (m : Message) (outcome : Outcome) :
    ∃ channel badMessages,
      (p.settle outcome).pay m outcome = { p with channel, badMessages } := by
  unfold pay
  cases outcome <;> split <;> exact ⟨_, _, rfl⟩

namespace Host

variable {h : Host} {id : PeerId} {p : HostPeer Empty} {m : Message}

/-- A delivery of a message leaves the routes of a peer as they are. -/
theorem routes_deliver (p : HostPeer Empty) (m : Message) (s : ProfileStore) :
    (deliver p.routes m s).routes = p.routes := by
  cases hroute : p.routes.get? m.address with
  | none => rw [deliver_missing hroute]
  | some l =>
    cases l with
    | application a => exact a.elim
    | profile r => rw [deliver_profile hroute]

/-- A peer that has handed a message to a route, counted it and paid the reply. -/
def paid (p : HostPeer Empty) (m : Message) (s : ProfileStore) : HostPeer Empty :=
  (p.settle (deliver p.routes m s).outcome).pay m (deliver p.routes m s).outcome

/-- **A message to a route is delivered to it**, and nothing else is done but what its peer owes. -/
theorem receive_routed (hp : h.peer? id = some p) (env : Surroundings)
    (hrouted : m.isControl = false) :
    h.receive env id m =
      { h with
        profiles := (deliver p.routes m h.profiles).context
        peers := h.peers.insert id (paid p m h.profiles) } := by
  have hhandle : HostPeer.handle (services env) env.folderFailure p m (h.without id)
      = HostPeer.routed (services env) p m (h.without id) := by
    simp [HostPeer.handle, hrouted]
  have hback : (p.receive (services env) env.folderFailure m (h.without id)).peer
      = paid p m h.profiles := by
    simp only [HostPeer.receive, hhandle, HostPeer.routed]
    show (HostPeer.settle { p with routes := (deliver p.routes m h.profiles).routes } _).pay m _
      = _
    rw [routes_deliver]
    rfl
  rw [receive_eq hp, hback, hhandle]
  show { h with
    profiles := (deliver p.routes m h.profiles).context
    peers := (h.peers.erase id).insert id (paid p m h.profiles) } = _
  rw [Table.insert_erase]

/-! ## 2. Isolation -/

/-- A message is an update of a profile that is live, and reaches it. -/
def Reaches (h : Host) (id : PeerId) (m : Message) (r : ProfileRoute) (u : ProfileUpdate)
    (q : Profile) : Prop :=
  h.HasRoute id m.address r ∧ ProfileUpdate.ofMessage m = .ok (some u) ∧
    h.profiles.get? r.profile = some q

/-- **A message to a route stays with the profile of that route**: `h` and `h'` are the host before
and after it. -/
structure Isolated (h : Host) (id : PeerId) (m : Message) (h' : Host) : Prop where
  /-- The message leaves the queue if it was there.  Besides the profiles only the channel of the
  peer has changed, and its count of messages that broke the protocol: no routes, no watchdog and
  no other peer. -/
  frame : ∃ events peers, events <:+ h.events ∧
    h' = { h with events, profiles := h'.profiles, peers } ∧
    (h.peer? id = none → peers = h.peers) ∧
    ∀ p, h.peer? id = some p → ∃ channel badMessages,
      peers = h.peers.insert id { p with channel, badMessages }
  /-- What is updated is updated as if the application had done it. -/
  direct : ∀ r u q, h.Reaches id m r u q →
    h.profiles.update r.profile u = some h'.profiles ∧
      h'.profiles = h.profiles.act (.update r.profile u)
  /-- The settings of the profile change, and neither its references nor its folder or flags. -/
  changed : ∀ r u q, h.Reaches id m r u q →
    h'.profiles.get? r.profile = some (q.apply u) ∧ (q.apply u).references = q.references ∧
      (q.apply u).folder = q.folder ∧ (q.apply u).flags = q.flags
  /-- All other profiles stay as they are, and so does the rest of the store. -/
  others : ∀ r u q, h.Reaches id m r u q →
    (∀ j, j ≠ r.profile → h'.profiles.get? j = h.profiles.get? j) ∧
      h'.profiles = { h.profiles with profiles := h'.profiles.profiles }
  /-- A message that reaches no live profile as an update changes none. -/
  untouched : (∀ r u q, ¬ h.Reaches id m r u q) → h'.profiles = h.profiles

/-- What a route does with a message when there is nothing to update. -/
theorem routeReceive_idle {r : ProfileRoute} {s : ProfileStore}
    (hidle : ∀ u q, ProfileUpdate.ofMessage m = .ok (some u) → s.get? r.profile ≠ some q) :
    (r.receive m s).2 = s := by
  rcases hm : ProfileUpdate.ofMessage m with e | _ | u
  · simp only [ProfileRoute.receive, hm]
  · simp only [ProfileRoute.receive, hm]
  · have hgone : s.get? r.profile = none := by
      cases hq : s.get? r.profile with
      | none => rfl
      | some q => exact absurd hq (hidle u q hm)
    simp only [ProfileRoute.receive, hm, ProfileStore.update_gone hgone]

/-- The route that an update reaches is the one that the message is delivered to. -/
theorem Reaches.deliver {r : ProfileRoute} {u : ProfileUpdate} {q : Profile}
    (hreach : h.Reaches id m r u q) (hp : h.peer? id = some p) :
    some (deliver p.routes m h.profiles).context = h.profiles.update r.profile u := by
  obtain ⟨⟨p', hp', hroute⟩, hm, hq⟩ := hreach
  have hsame : p = p' := Option.some.inj (hp.symm.trans hp')
  subst hsame
  rw [deliver_profile hroute]
  simp only [ProfileRoute.receive, hm, ProfileStore.update_eq hq]

/-- **A message to a route is isolated.** -/
theorem isolated_receive (h : Host) (env : Surroundings) (id : PeerId)
    (hrouted : m.isControl = false) : h.Isolated id m (h.receive env id m) := by
  cases hp : h.peer? id with
  | none =>
    have hsame : h.receive env id m = h := by simp only [receive, hp]
    have hnone : ∀ r u q, ¬ h.Reaches id m r u q := by
      rintro r u q ⟨⟨p, hp', _⟩, _⟩
      rw [hp] at hp'
      cases hp'
    rw [hsame]
    exact
      { frame := ⟨h.events, h.peers, List.suffix_refl _, rfl, fun _ => rfl, by simp [hp]⟩
        direct := fun r u q hr => absurd hr (hnone r u q)
        changed := fun r u q hr => absurd hr (hnone r u q)
        others := fun r u q hr => absurd hr (hnone r u q)
        untouched := fun _ => rfl }
  | some p =>
    have hreceive := receive_routed hp env hrouted
    have hprofiles : (h.receive env id m).profiles = (deliver p.routes m h.profiles).context := by
      rw [hreceive]
    have hupdate : ∀ r u q, h.Reaches id m r u q →
        h.profiles.update r.profile u = some (h.receive env id m).profiles :=
      fun r u q hr => hprofiles ▸ (hr.deliver hp).symm
    -- the store after an update, with its one profile replaced
    have hstore : ∀ r u q, h.Reaches id m r u q → (h.receive env id m).profiles
        = { h.profiles with profiles := h.profiles.profiles.insert r.profile (q.apply u) } := by
      intro r u q hr
      have heq := ProfileStore.update_eq hr.2.2 u
      rw [hupdate r u q hr] at heq
      exact Option.some.inj heq
    refine
      { frame := ⟨h.events, h.peers.insert id (paid p m h.profiles), List.suffix_refl _,
          hreceive.trans ?_, by simp [hp], ?_⟩
        direct := ?_, changed := ?_, others := ?_, untouched := ?_ }
    · rw [hprofiles]
    · intro p' hp'
      have hsame : p = p' := Option.some.inj (hp.symm.trans hp')
      subst hsame
      obtain ⟨channel, badMessages, hpaid⟩ :=
        p.pay_settle m (deliver p.routes m h.profiles).outcome
      exact ⟨channel, badMessages, congrArg (h.peers.insert id) hpaid⟩
    · intro r u q hr
      refine ⟨hupdate r u q hr, ?_⟩
      simp only [ProfileStore.act, hupdate r u q hr, Option.getD_some]
    · intro r u q hr
      refine ⟨?_, q.references_apply u, q.folder_apply u, q.flags_apply u⟩
      rw [hstore r u q hr]
      simp [ProfileStore.get?]
    · intro r u q hr
      rw [hstore r u q hr]
      refine ⟨fun j hj => ?_, rfl⟩
      simp [ProfileStore.get?, hj]
    · intro hnone
      rw [hprofiles]
      cases hroute : p.routes.get? m.address with
      | none => rw [deliver_missing hroute]
      | some l =>
        cases l with
        | application a => exact a.elim
        | profile r =>
          rw [deliver_profile hroute]
          exact routeReceive_idle fun u q hm hq => hnone r u q ⟨⟨p, hp, hroute⟩, hm, hq⟩

/-- What was said of a host without some of the events in its queue is said of the host. -/
theorem Isolated.of_events {events : List (PeerId × ChannelEvent)} {h' : Host}
    (hi : Isolated { h with events } id m h') (hsuffix : events <:+ h.events) :
    h.Isolated id m h' where
  frame := by
    obtain ⟨events', peers, hrest, hframe, hpeers⟩ := hi.frame
    exact ⟨events', peers, hrest.trans hsuffix, hframe, hpeers⟩
  direct := hi.direct
  changed := hi.changed
  others := hi.others
  untouched := hi.untouched

/-! ## 3. What a route reads -/

/-- **A message to a route reads the profile of that route, and no other**: with other profiles in
the store of the host, the peers come to the same, and so does the profile of the route. -/
def Blind (h : Host) (id : PeerId) (m : Message) (step : Host → Host) : Prop :=
  ∀ store : ProfileStore,
    (∀ r, h.HasRoute id m.address r → store.get? r.profile = h.profiles.get? r.profile) →
      (step { h with profiles := store }).peers = (step h).peers ∧
      ∀ r, h.HasRoute id m.address r →
        (step { h with profiles := store }).profiles.get? r.profile
          = (step h).profiles.get? r.profile

/-- What a route does depends on its own profile only. -/
theorem routeReceive_blind {r : ProfileRoute} {s s' : ProfileStore}
    (hsame : s'.get? r.profile = s.get? r.profile) :
    (r.receive m s').1 = (r.receive m s).1 ∧
      (r.receive m s').2.get? r.profile = (r.receive m s).2.get? r.profile := by
  rcases hm : ProfileUpdate.ofMessage m with e | _ | u
  · simp only [ProfileRoute.receive, hm]
    exact ⟨trivial, hsame⟩
  · simp only [ProfileRoute.receive, hm]
    exact ⟨trivial, hsame⟩
  · cases hq : s.get? r.profile with
    | none =>
      have hgone : s'.get? r.profile = none := hsame.trans hq
      simp only [ProfileRoute.receive, hm, ProfileStore.update_gone hq,
        ProfileStore.update_gone hgone, hsame, and_self]
    | some q =>
      have hlive : s'.get? r.profile = some q := hsame.trans hq
      simp only [ProfileRoute.receive, hm, ProfileStore.update_eq hq,
        ProfileStore.update_eq hlive]
      simp [ProfileStore.get?]

/-- **A message to a route reads no other profile.** -/
theorem blind_receive (h : Host) (env : Surroundings) (id : PeerId)
    (hrouted : m.isControl = false) : h.Blind id m (·.receive env id m) := by
  intro store hstore
  cases hp : h.peer? id with
  | none =>
    have hnone : ∀ r, ¬ h.HasRoute id m.address r := by
      rintro r ⟨p, hp', _⟩
      exact nomatch hp.symm.trans hp'
    have hsame : ∀ store, ({ h with profiles := store } : Host).receive env id m
        = { h with profiles := store } := fun store => by
      simp only [receive, peer?] at hp ⊢
      simp only [hp]
    refine ⟨?_, fun r hr => absurd hr (hnone r)⟩
    show (({ h with profiles := store } : Host).receive env id m).peers
      = (({ h with profiles := h.profiles } : Host).receive env id m).peers
    rw [hsame, hsame]
  | some p =>
    have hroute : ∀ {r}, h.HasRoute id m.address r →
        p.routes.get? m.address = some (.profile r) := by
      rintro r ⟨p', hp', hr⟩
      have hsame : p = p' := Option.some.inj (hp.symm.trans hp')
      rw [hsame]
      exact hr
    have hleft := receive_routed (h := { h with profiles := store }) hp env hrouted
    have hright := receive_routed hp env hrouted
    show (({ h with profiles := store } : Host).receive env id m).peers
        = (h.receive env id m).peers ∧ ∀ r, h.HasRoute id m.address r →
          (({ h with profiles := store } : Host).receive env id m).profiles.get? r.profile
            = (h.receive env id m).profiles.get? r.profile
    rw [hleft, hright]
    have hpaid : paid p m store = paid p m h.profiles := by
      cases hget : p.routes.get? m.address with
      | none => simp only [paid, deliver_missing hget]
      | some l =>
        cases l with
        | application a => exact a.elim
        | profile r =>
          simp only [paid, deliver_profile hget, (routeReceive_blind (hstore r ⟨p, hp, hget⟩)).1]
    refine ⟨congrArg (h.peers.insert id) hpaid, fun r hr => ?_⟩
    simp only [deliver_profile (hroute hr)]
    exact (routeReceive_blind (hstore r hr)).2

/-! ## 4. Every run -/

/-- **The profile of a route is the one that was obtained for it.**  The route has its origin in a
deed `d`; whenever its profile was gone since then it is gone now, and a profile that is live now
was live all the time, with the folder and the flags it has. -/
def Lasting (config : HostConfig) (deeds : List Deed) (id : PeerId) (a : RoutingId)
    (r : ProfileRoute) : Prop :=
  ∃ before d rest, deeds = before ++ d :: rest ∧ Origin config before d rest id a r ∧
    ∀ mid, mid <+: rest →
      ((after config (before ++ d :: mid)).profiles.get? r.profile = none →
        (after config deeds).profiles.get? r.profile = none) ∧
      ∀ q, (after config deeds).profiles.get? r.profile = some q →
        ∃ p, (after config (before ++ d :: mid)).profiles.get? r.profile = some p ∧
          q.folder = p.folder ∧ q.flags = p.flags

/-- **Every route keeps to its profile.** -/
theorem lasting_after {config : HostConfig} {deeds : List Deed} {a : RoutingId} {r : ProfileRoute}
    (hr : (after config deeds).HasRoute id a r) : Lasting config deeds id a r := by
  obtain ⟨before, d, rest, rfl, ho⟩ := hasRoute_after hr
  refine ⟨before, d, rest, rfl, ho, ?_⟩
  rintro mid ⟨later, rfl⟩
  have hgiven := given_hasRoute (ho.there mid ⟨later, rfl⟩)
  have hkeeps := keeps_after config (before ++ d :: mid) later
  rw [List.append_assoc, List.cons_append] at hkeeps
  constructor
  · intro hgone
    cases hq : (after config (before ++ d :: (mid ++ later))).profiles.get? r.profile with
    | none => rfl
    | some q =>
      obtain ⟨p, hp, _⟩ := hkeeps.same r.profile q hgiven hq
      exact nomatch hgone.symm.trans hp
  · intro q hq
    exact hkeeps.same r.profile q hgiven hq

/-- **In every run, a message to a route stays with the profile that was obtained for the route**,
whatever was done with the host before, through whatever peers, and whether the message is handled
as it comes or from the queue. -/
theorem isolated_run (config : HostConfig) (deeds : List Deed) (d : Deed) (env : Surroundings)
    (id : PeerId) (m : Message) (hm : d.message? (after config deeds) = some (env, id, m))
    (hrouted : m.isControl = false) :
    (after config deeds).Isolated id m (after config (deeds ++ [d])) ∧
      (after config deeds).Blind id m (·.perform d) ∧
      ∀ r, (after config deeds).HasRoute id m.address r →
        Lasting config deeds id m.address r := by
  refine ⟨?_, ?_, fun r hr => lasting_after hr⟩
  · rw [after_snoc]
    generalize after config deeds = h at hm
    cases d with
    | store a => cases hm
    | move mv =>
      have hsuffix : mv.rest h <:+ h.events := by
        cases mv with
        | takeEvent => exact List.tail_suffix h.events
        | _ => exact List.suffix_refl _
      simp only [perform, move_message hm]
      exact (isolated_receive { h with events := mv.rest h } env id hrouted).of_events hsuffix
  · generalize after config deeds = h at hm
    cases d with
    | store a => cases hm
    | move mv =>
      intro store hstore
      -- which message a move handles does not depend on the profiles, and neither does the queue
      have hm' : mv.message? { h with profiles := store } = some (env, id, m) := by
        rw [← show mv.message? h = some (env, id, m) from hm]
        cases mv <;> rfl
      have hrest : mv.rest { h with profiles := store } = mv.rest h := by
        cases mv <;> rfl
      simp only [perform, move_message hm, move_message hm', hrest]
      exact blind_receive { h with events := mv.rest h } env id hrouted store hstore

/-- Nothing special around a host. -/
def calm : Surroundings := .atStart "n" 9

/-- A client asks for the profile of a folder, at the first id of its block. -/
def founding : List Deed :=
  [.move (.openChannel calm 100),
    .move (.event calm ⟨1⟩ (.message (ProfileCommand.create ⟨⟨0⟩, "a", true, true⟩).toMessage))]

/-- The application ends that profile and obtains its folder again. -/
def refounding : List Deed := founding ++ [.store (.destroy ⟨0⟩), .store (.obtain "a" {} none)]

/-- The client adds a word to its profile. -/
def wordy : Message := (ProfileUpdate.addWords ["w"]).toMessage ⟨0⟩

/-- **A route does not follow its folder**: the word reaches the profile that the folder had when
the client asked, and not the one that has it later. -/
theorem isolated_run_refounding :
    (∃ p q, (after {} founding).profiles.get? ⟨0⟩ = some p
        ∧ (after {} (founding ++ [.move (.event calm ⟨1⟩ (.message wordy))])).profiles.get? ⟨0⟩
          = some q
        ∧ q.words = p.words.insert "w" () ∧ q.references = p.references)
    ∧ (after {} refounding).profiles.find? "a" = some ⟨1⟩
    ∧ (after {} refounding).HasRoute ⟨1⟩ ⟨0⟩ ⟨⟨0⟩, ⟨0⟩⟩
    ∧ (after {} (refounding ++ [.move (.event calm ⟨1⟩ (.message wordy))])).profiles
      = (after {} refounding).profiles := by
  have hroute : ∀ {deeds r},
      ((after {} deeds).peer? ⟨1⟩).bind (·.routes.get? ⟨0⟩) = some (.profile r) →
        (after {} deeds).HasRoute ⟨1⟩ ⟨0⟩ r := fun hget => Option.bind_eq_some_iff.mp hget
  obtain ⟨hlive, _, _⟩ := isolated_run {} founding (.move (.event calm ⟨1⟩ (.message wordy))) calm
    ⟨1⟩ wordy rfl (by decide)
  obtain ⟨hgone, _, _⟩ := isolated_run {} refounding (.move (.event calm ⟨1⟩ (.message wordy))) calm
    ⟨1⟩ wordy rfl (by decide)
  refine ⟨?_, by decide +kernel, hroute (by decide +kernel), hgone.untouched ?_⟩
  · have hp : (after {} founding).profiles.get? ⟨0⟩ =
        some { folder := some "a", flags := ⟨true, true⟩ } := by decide +kernel
    obtain ⟨hq, hcount, _, _⟩ := hlive.changed ⟨⟨0⟩, ⟨0⟩⟩ (.addWords ["w"]) _
      ⟨hroute (by decide +kernel), by decide +kernel, hp⟩
    exact ⟨_, _, hp, hq, rfl, hcount⟩
  · rintro r u q ⟨⟨p, hp, hget⟩, _, hq⟩
    have hsame : ((after {} refounding).peer? ⟨1⟩).bind (·.routes.get? ⟨0⟩) = some (.profile r) :=
      Option.bind_eq_some_iff.mpr ⟨p, hp, hget⟩
    have hfound : ((after {} refounding).peer? ⟨1⟩).bind (·.routes.get? ⟨0⟩)
        = some (.profile ⟨⟨0⟩, ⟨0⟩⟩) := by decide +kernel
    rw [hfound] at hsame
    cases hsame
    have hnone : (after {} refounding).profiles.get? ⟨0⟩ = none := by decide +kernel
    exact nomatch hnone.symm.trans hq

end Host

end ControlPlane
