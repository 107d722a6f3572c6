/-
# The references of a host are exact

A profile counts its references; a host holds the routes that the references belong to, in the
tables of its peers.  The two agree after every run, whatever was asked, sent, destroyed or shut
down, and in whatever order.

* `Host.holders`: the routes of all peers that refer to a profile, counted;
* `Host.Accounted`: the store of the host accounts for exactly these, kept by every change;
* `Host.route?_move`: a route that is there after a move was there before, or the move handled
  the request that obtained its profile;
* `Host.exactReferences_run`: what follows for every run.

The count of a profile is never read by the host, so an error in it would show nowhere else.
-/
import ControlPlane.Proofs.Host.Moves

namespace ControlPlane

open ProfileStore (one)

/-! ## 1. Holders -/

/-- How often a listener refers to a profile. -/
def HostListener.holds (id : ProfileId) : HostListener Empty → Nat
  | .profile r => one r.profile id
  | .application a => a.elim

/-- **How many routes of a peer refer to a profile.** -/
def HostPeer.holders (p : HostPeer Empty) (id : ProfileId) : Nat :=
  p.routes.total (HostListener.holds id)

/-- **How many routes refer to a profile**, over all peers of a host. -/
def Host.holders (h : Host) (id : ProfileId) : Nat := h.peers.total (HostPeer.holders · id)

/-! ## 2. Releases -/

/-- **A route is charged exactly once**: between two stores its own profile has lost one reference,
which it counted, and nothing else has changed.  For a profile that is gone, nothing has. -/
structure ProfileRoute.Charged (r : ProfileRoute) (s s' : ProfileStore) : Prop where
  /-- What is gone stays gone. -/
  gone : ∀ id, s.get? id = none → s'.get? id = none
  /-- What is there changes by its count, which was not zero if there was a reference to take. -/
  counted : ∀ id p, s.get? id = some p →
    ∃ n, s'.get? id = some { p with references := n } ∧ n + one r.profile id = p.references

namespace ProfileStore.Accounts

variable {s : ProfileStore} {holders : ProfileId → Nat}

/-- The release of a route that the store accounts for charges it once. -/
theorem charged {r : ProfileRoute} (h : s.Accounts fun j => holders j + one r.profile j) :
    r.Charged s (r.release s) := by
  cases hlive : s.get? r.profile with
  | none =>
    have hkeep : r.release s = s := by simp [ProfileRoute.release, ProfileStore.release, hlive]
    refine ⟨fun id hid => by rw [hkeep]; exact hid, fun id p hp => ⟨p.references, ?_, ?_⟩⟩
    · rw [hkeep]
      exact hp
    · have hne : id ≠ r.profile := by
        rintro rfl
        rw [hlive] at hp
        cases hp
      simp [one, hne]
  | some q =>
    have hpos : 0 < q.references := h.references_pos hlive
    have hstep : r.release s = { s with profiles := s.profiles.adjust r.profile fun p =>
        { p with references := p.references - 1 } } := by
      simp [ProfileRoute.release, ProfileStore.release, hlive]
    constructor
    · intro id hid
      have hget : s.profiles.get? id = none := hid
      rw [hstep]
      simp [ProfileStore.get?, hget]
    · intro id p hp
      have hget : s.profiles.get? id = some p := hp
      rw [hstep]
      by_cases hid : id = r.profile
      · subst hid
        have hsame : q = p := Option.some.inj (hlive.symm.trans hp)
        subst hsame
        refine ⟨q.references - 1, by simp [ProfileStore.get?, hget], ?_⟩
        simp only [one, if_pos]
        omega
      · exact ⟨p.references, by simp [ProfileStore.get?, hget, hid], by simp [one, hid]⟩

/-- **Listeners that are told of their removal give back what they hold**, and what comes after
them is still held. -/
theorem tellRemoved (first rest : List (RoutingId × HostListener Empty))
    (h : s.Accounts fun j => holders j + Entries.total (HostListener.holds j) (first ++ rest)) :
    (tellRemoved (first.map (·.2)) s).2.Accounts
      fun j => holders j + Entries.total (HostListener.holds j) rest := by
  induction first generalizing s with
  | nil => exact h
  | cons x first ih =>
    obtain ⟨a, l⟩ := x
    cases l with
    | application a => exact a.elim
    | profile r =>
      refine ih (ProfileStore.Accounts.release (r := r) (h.congr fun j => ?_))
      simp only [List.cons_append, Entries.total, HostListener.holds]
      omega

/-- The end of a peer gives back what its routes hold. -/
theorem teardown {p : HostPeer Empty} (h : s.Accounts fun j => holders j + p.holders j) :
    (p.teardown s).profiles.Accounts holders := by
  have hall : s.Accounts fun j =>
      holders j + Entries.total (HostListener.holds j) (p.routes.entries ++ []) :=
    h.congr fun j => by simp [HostPeer.holders, Table.total]
  have htold := tellRemoved p.routes.entries [] hall
  exact htold.congr fun j => by simp [Entries.total]

end ProfileStore.Accounts

/-- Listeners are told in order. -/
theorem tellRemoved_append {A C : Type} [Listener A C] (first rest : List A) (c : C) :
    (tellRemoved (first ++ rest) c).2 = (tellRemoved rest (tellRemoved first c).2).2 := by
  induction first generalizing c with
  | nil => rfl
  | cons a first ih => exact ih _

/-- A peer without the route at an address. -/
theorem HostPeer.removeRoute_profile {p : HostPeer Empty} {a : RoutingId} {r : ProfileRoute}
    (h : p.routes.get? a = some (.profile r)) (s : ProfileStore) :
    p.removeRoute a s = ⟨[.profile r], { p with routes := p.routes.erase a }, r.release s⟩ := by
  simp only [HostPeer.removeRoute, h]
  rfl

/-- A peer without a route at an address keeps what it has. -/
theorem HostPeer.removeRoute_none {p : HostPeer Empty} {a : RoutingId}
    (h : p.routes.get? a = none) (s : ProfileStore) : p.removeRoute a s = ⟨[], p, s⟩ := by
  simp only [HostPeer.removeRoute, h]

/-! ## 3. Every change keeps the account -/

namespace Host

/-- **The store of a host accounts for the routes of its peers.** -/
def Accounted (h : Host) : Prop := h.profiles.Accounts h.holders

/-- What the routes of all peers hold is held by one of them or by the others. -/
theorem holders_erase {h : Host} {id : PeerId} {p : HostPeer Empty} (hp : h.peer? id = some p)
    (j : ProfileId) :
    h.holders j = (h.peers.erase id).total (HostPeer.holders · j) + p.holders j := by
  have hsum := h.peers.total_erase (HostPeer.holders · j) id
  have hget : h.peers.get? id = some p := hp
  simp only [hget, Option.map_some, Option.getD_some] at hsum
  exact hsum.symm

/-- What is held after a peer has changed. -/
theorem holders_insert {h : Host} {id : PeerId} {p : HostPeer Empty} (hp : h.peer? id = some p)
    (p' : HostPeer Empty) (j : ProfileId) :
    (h.peers.insert id p').total (HostPeer.holders · j) + p.holders j =
      h.holders j + p'.holders j := by
  have hsum := h.peers.total_insert (HostPeer.holders · j) id p'
  have hget : h.peers.get? id = some p := hp
  simp only [hget, Option.map_some, Option.getD_some] at hsum
  exact hsum

/-- What is held as long as a peer keeps its routes. -/
theorem holders_insert_of_eq {h : Host} {id : PeerId} {p : HostPeer Empty}
    (hp : h.peer? id = some p) {p' : HostPeer Empty} (hroutes : p'.routes = p.routes)
    (j : ProfileId) :
    (h.peers.insert id p').total (HostPeer.holders · j) = h.holders j :=
  Table.total_insert_of_eq hp (by simp [HostPeer.holders, hroutes])

/-- The end of a peer keeps the account. -/
theorem Accounted.gone {h : Host} {id : PeerId} {p : HostPeer Empty} (ha : h.Accounted)
    (hp : h.peer? id = some p) :
    (p.teardown h.profiles).profiles.Accounts
      fun j => (h.peers.erase id).total (HostPeer.holders · j) :=
  (ha.congr fun j => (holders_erase hp j).symm).teardown

/-- The end of a peer, or of none, keeps the account. -/
theorem Accounted.destroyPeer {h : Host} (ha : h.Accounted) (id : PeerId) :
    (h.destroyPeer id).2.Accounted := by
  unfold Host.destroyPeer
  split
  · next p hp => exact ha.gone hp
  · exact ha

/-- **Every change keeps the account.** -/
theorem Change.accounted {h h' : Host} (hn : h.Numbered) (hc : Change h h')
    (ha : h.Accounted) : h'.Accounted := by
  cases hc with
  | queued | cleared | usedUp | looked | stopping => exact ha
  | opened env timeout =>
    refine ha.congr fun j => ?_
    refine (Table.total_insert_of_free hn.peer?_nextId).trans ?_
    rfl
  | touched id p p' hp _ hroutes => exact ha.congr fun j => holders_insert_of_eq hp hroutes j
  | obtained id p r failure route store hp _ hfree hob =>
    refine (ha.obtainRoute hob).congr fun j => ?_
    have hpeer : HostPeer.holders
        { p with routes := p.routes.insert r.route (.profile route) } j
          = p.holders j + one route.profile j := Table.total_insert_of_free hfree
    have hsum := holders_insert hp
      { p with routes := p.routes.insert r.route (.profile route) } j
    rw [hpeer] at hsum
    show (h.peers.insert id _).total _ = _
    omega
  | dropped id p a hp =>
    cases hroute : p.routes.get? a with
    | none =>
      rw [HostPeer.removeRoute_none hroute]
      exact ha.congr fun j => holders_insert_of_eq hp rfl j
    | some l =>
      cases l with
      | application a => exact a.elim
      | profile r =>
        rw [HostPeer.removeRoute_profile hroute]
        refine ProfileStore.Accounts.release (r := r) (ha.congr fun j => ?_)
        have hpeer : HostPeer.holders { p with routes := p.routes.erase a } j
            + one r.profile j = p.holders j := by
          have hsum := p.routes.total_erase (HostListener.holds j) a
          simp only [hroute, Option.map_some, Option.getD_some] at hsum
          exact hsum
        have hsum := holders_insert hp { p with routes := p.routes.erase a } j
        show (h.peers.insert id { p with routes := p.routes.erase a }).total
          (HostPeer.holders · j) + one r.profile j = h.holders j
        omega
  | updated id p a route u store _ _ hu => exact ha.update hu
  | connected id p pid hp =>
    have hroutes : (p.connected pid).routes = p.routes := rfl
    exact ha.congr fun j => holders_insert_of_eq hp hroutes j
  | gone id p hp => exact ha.gone hp
  | reported r rest =>
    exact Accounted.destroyPeer (h := { h with reports := rest }) ha r.peer
  | forgotten id store hd => exact ha.destroy hd
  | emptied => exact ha.destroyAll

/-- A new host has nothing to account for. -/
theorem accounted_start (config : HostConfig) : (start config).Accounted :=
  ProfileStore.accounts_empty

/-- **After every run the store accounts for the routes.** -/
theorem accounted_run (config : HostConfig) (moves : List Move) :
    ((start config).run moves).Accounted :=
  run_induction (accounted_start config) (fun _ _ hn hc ha => hc.accounted hn ha) moves

/-! ## 4. Where routes come from -/

/-- A peer has a route to a profile at an address. -/
def HasRoute (h : Host) (id : PeerId) (a : RoutingId) (r : ProfileRoute) : Prop :=
  ∃ p, h.peer? id = some p ∧ p.routes.get? a = some (.profile r)

/-- **No route has come.** -/
def NoneNew (h h' : Host) : Prop := ∀ id a r, h'.HasRoute id a r → h.HasRoute id a r

/-- Nothing has come as long as the peers stay. -/
theorem noneNew_of_peers {h h' : Host} (hpeers : h'.peers = h.peers) : h.NoneNew h' := by
  intro id a r hr
  simpa [HasRoute, peer?, hpeers] using hr

/-- First one thing happens and then another. -/
theorem NoneNew.trans {h h' h'' : Host} (hfirst : h.NoneNew h') (hthen : h'.NoneNew h'') :
    h.NoneNew h'' :=
  fun id a r hr => hfirst id a r (hthen id a r hr)

/-- A peer that changes without a new route brings none. -/
theorem noneNew_insert {h h' : Host} {id : PeerId} {p : HostPeer Empty}
    (hp : h.peer? id = some p) (p' : HostPeer Empty) (hpeers : h'.peers = h.peers.insert id p')
    (hroutes : p'.routes = p.routes) : h.NoneNew h' := by
  rintro j a r ⟨q, hq, hr⟩
  rw [peer?, hpeers, Table.get?_insert] at hq
  split at hq
  · next hj =>
    injection hq with hq
    subst hj hq
    exact ⟨p, hp, hroutes ▸ hr⟩
  · exact ⟨q, hq, hr⟩

/-- The end of a peer brings no route. -/
theorem noneNew_destroyPeer (h : Host) (id : PeerId) : h.NoneNew (h.destroyPeer id).2 := by
  unfold destroyPeer
  split
  · rintro j a r ⟨q, hq, hr⟩
    simp only [peer?, Table.get?_erase] at hq
    split at hq
    · cases hq
    · exact ⟨q, hq, hr⟩
  · exact noneNew_of_peers rfl

/-- The end of some peers brings no route. -/
theorem noneNew_destroyPeers (h : Host) (ids : List PeerId) : h.NoneNew (h.destroyPeers ids) := by
  induction ids generalizing h with
  | nil => exact noneNew_of_peers rfl
  | cons id rest ih => exact (noneNew_destroyPeer h id).trans (ih _)

/-- A shutdown brings no route. -/
theorem noneNew_shutdown (h : Host) : h.NoneNew h.shutdown := by
  unfold shutdown
  split
  · exact noneNew_of_peers rfl
  · exact noneNew_destroyPeers { h with stopped := true, watchdog := h.watchdog.shutdown.2 }
      h.peers.keys

/-- The peer of a new channel has no route. -/
theorem noneNew_openChannel (h : Host) (env : Surroundings) (timeout : Nat) :
    h.NoneNew (h.openChannel env timeout).2 := by
  rcases openChannel_cases h env timeout with ⟨e, ho⟩ | ⟨_, e, ho⟩ | ⟨_, _, ho⟩ | ⟨_, _, ho⟩
  · rw [ho]
    exact noneNew_of_peers rfl
  · rw [ho]
    exact noneNew_of_peers rfl
  · rw [ho]
    exact noneNew_shutdown { h with nextPeer := h.nextPeer + 1 }
  · rw [ho]
    rintro j a r ⟨q, hq, hr⟩
    simp only [peer?, withChannel, Table.get?_insert] at hq
    split at hq
    · injection hq with hq
      subst hq
      simp [freshPeer] at hr
    · exact ⟨q, hq, hr⟩

/-- **A message asks for a profile and gets it**: it is the request for the route at `a`, and `r`
is what obtaining its folder gave. -/
def Obtained (h : Host) (env : Surroundings) (m : Message) (a : RoutingId) (r : ProfileRoute) :
    Prop :=
  ∃ q store, ProfileCommand.ofMessage m = .ok (some (.create q)) ∧ q.route = a ∧
    ProfileRoute.obtain h.profiles q env.folderFailure = (.ok r, store)

/-- **Handling a message brings a route only by obtaining a profile for it**, with the store that
this gave. -/
theorem handles_newRoute {S : Type} {services : HostServices S} {failure : Option String}
    {p : HostPeer Empty} {m : Message} {s : S} {t : HostPeer.Turn Empty S}
    (hway : HostPeer.Handles services failure p m s t) {a : RoutingId} {r : ProfileRoute}
    (hr : t.peer.routes.get? a = some (.profile r)) :
    p.routes.get? a = some (.profile r) ∨
      ∃ q store, ProfileCommand.ofMessage m = .ok (some (.create q)) ∧ q.route = a ∧
        ProfileRoute.obtain (services.profiles s) q failure = (.ok r, store) ∧
        t.state = services.setProfiles s store := by
  cases hway with
  | refused | synced | opened | notOpened | cleared | failed => exact .inl hr
  | created req route store _ hm _ _ hob =>
    simp only [Table.get?_insert] at hr
    split at hr
    · next ha =>
      injection hr with hr
      injection hr with hr
      subst hr
      exact .inr ⟨req, store, hm, ha.symm, hob, rfl⟩
    · exact .inl hr
  | destroyed b =>
    simp only [HostPeer.removeRoute] at hr
    split at hr
    · simp only [Table.get?_erase] at hr
      split at hr
      · cases hr
      · exact .inl hr
    · exact .inl hr
  | routed =>
    cases hroute : p.routes.get? m.address with
    | none =>
      rw [deliver_missing hroute] at hr
      exact .inl hr
    | some l =>
      cases l with
      | application b => exact b.elim
      | profile route =>
        rw [deliver_profile hroute] at hr
        exact .inl hr

/-- **A peer has a new route after a message only if that message obtained it**, and no other peer
has one. -/
theorem hasRoute_receive {h : Host} {env : Surroundings} {id j : PeerId} {m : Message}
    {a : RoutingId} {r : ProfileRoute} (hr : (h.receive env id m).HasRoute j a r) :
    h.HasRoute j a r ∨ (j = id ∧ h.Obtained env m a r) := by
  unfold receive at hr
  split at hr
  · next p hp =>
    obtain ⟨q, hq, hr⟩ := hr
    have hway := HostPeer.handles (services env) env.folderFailure p m (h.without id)
    have hothers : ∀ {g : Host}, (h.without id).NoneNew g → j ≠ id → g.peer? j = some q →
        h.HasRoute j a r := by
      intro g hg hne hq
      obtain ⟨q', hq', hr'⟩ := hg j a r ⟨q, hq, hr⟩
      simp only [peer?, without, Table.get?_erase, if_neg hne] at hq'
      exact ⟨q', hq', hr'⟩
    by_cases hj : j = id
    · subst hj
      simp only [peer?, Table.get?_insert, if_pos] at hq
      injection hq with hq
      subst hq
      rw [HostPeer.routes_receive] at hr
      rcases handles_newRoute hway hr with hold | ⟨req, store, hm, ha, hob, _⟩
      · exact .inl ⟨p, hp, hold⟩
      · exact .inr ⟨rfl, req, store, hm, ha, hob⟩
    · left
      simp only [peer?, Table.get?_insert, if_neg hj] at hq
      change (HostPeer.handle (services env) env.folderFailure p m (h.without id)).state.peer? j
        = some q at hq
      generalize HostPeer.handle (services env) env.folderFailure p m (h.without id) = t
        at hway hq
      cases hway with
      | refused | synced | cleared | failed | created | destroyed | routed =>
        exact hothers (noneNew_of_peers rfl) hj hq
      | opened timeout _ s' _ _ hopen | notOpened timeout _ s' _ _ hopen =>
        have hstate : s' = ((h.without id).openChannel env timeout.toNat).2 :=
          congrArg Prod.snd hopen.symm
        subst hstate
        exact hothers (noneNew_openChannel _ env timeout.toNat) hj hq
  · exact .inl hr

/-- The message that a move handles, with the surroundings and the peer, if it handles one. -/
def Move.message? (h : Host) : Move → Option (Surroundings × PeerId × Message)
  | .event env id (.message m) => some (env, id, m)
  | .takeEvent env =>
    match h.events with
    | (id, .message m) :: _ => some (env, id, m)
    | _ => none
  | _ => none

/-- An event that is no message brings no route. -/
theorem noneNew_onEvent (h : Host) (env : Surroundings) (id : PeerId) {e : ChannelEvent}
    (he : ∀ m, e ≠ .message m) : h.NoneNew (h.onEvent env id e) := by
  cases e with
  | connected pid =>
    simp only [onEvent, connect]
    split
    · next p hp => exact noneNew_insert hp _ rfl rfl
    · exact noneNew_of_peers rfl
  | message m => exact absurd rfl (he m)
  | badMessage reason =>
    simp only [onEvent]
    cases hp : h.peer? id with
    | none => exact noneNew_of_peers (Table.adjust_of_none hp _)
    | some p => exact noneNew_insert hp p.countBad (Table.adjust_eq_insert hp _) rfl
  | failed ending => exact noneNew_destroyPeer h id

/-- **A route that is there after a move was there before, or the move handled the request that
obtained its profile.** -/
theorem hasRoute_move {h : Host} {m : Move} {id : PeerId} {a : RoutingId} {r : ProfileRoute}
    (hr : (h.move m).HasRoute id a r) :
    h.HasRoute id a r ∨
      ∃ env msg, m.message? h = some (env, id, msg) ∧ h.Obtained env msg a r := by
  have hquiet : h.NoneNew (h.move m) → h.HasRoute id a r ∨
      ∃ env msg, m.message? h = some (env, id, msg) ∧ h.Obtained env msg a r :=
    fun hnew => .inl (hnew id a r hr)
  cases m with
  | openChannel env timeout => exact hquiet (noneNew_openChannel h env timeout)
  | nameChannel j name =>
    refine hquiet ?_
    simp only [move, nameChannel]
    split
    · next p hp => exact noneNew_insert hp (p.nameChannel name).2 rfl rfl
    · exact noneNew_of_peers rfl
  | event env j e =>
    cases e with
    | message msg =>
      rcases hasRoute_receive hr with hold | ⟨rfl, hob⟩
      · exact .inl hold
      · exact .inr ⟨env, msg, rfl, hob⟩
    | connected | badMessage | failed =>
      exact hquiet (noneNew_onEvent h env j (by simp))
  | takeEvent env =>
    cases hq : h.events with
    | nil =>
      refine hquiet (noneNew_of_peers ?_)
      simp [move, stepChannels?, hq]
    | cons x rest =>
      obtain ⟨j, e⟩ := x
      have hstep : h.move (.takeEvent env) = { h with events := rest }.onEvent env j e := by
        simp [move, stepChannels?, hq]
      rw [hstep] at hr
      cases e with
      | message msg =>
        rcases hasRoute_receive (h := { h with events := rest }) hr with hold | ⟨rfl, hob⟩
        · exact .inl hold
        · exact .inr ⟨env, msg, by simp [Move.message?, hq], hob⟩
      | connected | badMessage | failed =>
        exact .inl (noneNew_onEvent { h with events := rest } env j (by simp) id a r hr)
  | report rep => exact hquiet (noneNew_destroyPeer h rep.peer)
  | takeReport =>
    refine hquiet ?_
    simp only [move, stepWatchdog?]
    split
    · next rep rest _ => exact noneNew_destroyPeer { h with reports := rest } rep.peer
    · exact noneNew_of_peers rfl
  | channel j step =>
    refine hquiet ?_
    simp only [move, onChannel]
    split
    · next p hp =>
      exact noneNew_insert hp { p with channel := (step p.channel).2 } rfl rfl
    · exact noneNew_of_peers rfl
  | look now answers => exact hquiet (noneNew_of_peers rfl)
  | destroyPeer j => exact hquiet (noneNew_destroyPeer h j)
  | destroyProfile j =>
    refine hquiet (noneNew_of_peers ?_)
    simp only [move, destroyProfile]
    split <;> rfl
  | shutdown => exact hquiet (noneNew_shutdown h)

/-! ## 5. Every run -/

/-- A host in the middle of a shutdown, with some of its peers destroyed. -/
def halfShut (h : Host) (ids : List PeerId) : Host :=
  { h with stopped := true, watchdog := h.watchdog.shutdown.2 }.destroyPeers ids

/-- **The references of a host are exact.** -/
structure ExactReferences (h : Host) : Prop where
  /-- The count of a live profile is the number of routes that refer to it. -/
  counted : ∀ id p, h.profiles.get? id = some p → p.references = h.holders id
  /-- The next profile is neither a live one nor one that a route refers to. -/
  fresh : h.profiles.get? ⟨h.profiles.nextId⟩ = none ∧
    ∀ id a r, h.HasRoute id a r → r.profile.value < h.profiles.nextId
  /-- A route that is removed is charged once, and is not there to be removed again. -/
  removed : ∀ id p a r, h.peer? id = some p → p.routes.get? a = some (.profile r) →
    r.Charged h.profiles (p.removeRoute a h.profiles).profiles ∧
      (p.removeRoute a h.profiles).peer.routes.get? a = none
  /-- Each route of a peer that is destroyed is charged once, after those before it. -/
  torn : ∀ id p before a r after, h.peer? id = some p →
    p.routes.entries = before ++ (a, .profile r) :: after →
    r.Charged (tellRemoved (before.map (·.2)) h.profiles).2
      (tellRemoved (before.map (·.2) ++ [.profile r]) h.profiles).2
  /-- A request for a profile brings a route at a free address, or changes neither the profiles
  nor the routes of its peer. -/
  asked : ∀ env id p m q, h.peer? id = some p → m.isControl = true →
    ProfileCommand.ofMessage m = .ok (some (.create q)) →
    (p.routes.get? q.route = none ∧
      ∃ r, (h.receive env id m).HasRoute id q.route r ∧ h.Obtained env m q.route r) ∨
    ((h.receive env id m).profiles = h.profiles ∧
      ∃ p', (h.receive env id m).peer? id = some p' ∧ p'.routes = p.routes)
  /-- An address that a request may use takes the listener of the profile it obtained. -/
  taken : ∀ id p (q : ProfileRequest) r, h.peer? id = some p →
    q.route.isClientAllocated = true → p.hasRoute q.route = false →
    ∃ routes, p.routes.add? q.route (.profile r) = some routes
  /-- A route of the next state is one of this state, or refers to the profile that was obtained
  for it. -/
  obtained : ∀ m id a r, (h.move m).HasRoute id a r → h.HasRoute id a r ∨
    ∃ env msg, m.message? h = some (env, id, msg) ∧ h.Obtained env msg a r

/-- A route counts among the holders of its profile. -/
theorem HasRoute.holders_pos {h : Host} {id : PeerId} {a : RoutingId} {r : ProfileRoute}
    (hr : h.HasRoute id a r) : 0 < h.holders r.profile := by
  obtain ⟨p, hp, hget⟩ := hr
  have hroute : HostListener.holds r.profile (.profile r) ≤ p.holders r.profile :=
    Table.le_total hget
  have hpeer : p.holders r.profile ≤ h.holders r.profile :=
    Table.le_total (f := (HostPeer.holders · r.profile)) hp
  have hone : HostListener.holds r.profile (.profile r) = 1 := by simp [HostListener.holds, one]
  omega

/-- A host without a route at an address holds one reference less. -/
theorem Accounted.route {h : Host} {id : PeerId} {p : HostPeer Empty} {a : RoutingId}
    {r : ProfileRoute} (ha : h.Accounted) (hp : h.peer? id = some p)
    (hr : p.routes.get? a = some (.profile r)) :
    h.profiles.Accounts fun j => ((h.peers.erase id).total (HostPeer.holders · j) +
      (p.routes.erase a).total (HostListener.holds j)) + one r.profile j := by
  refine ha.congr fun j => ?_
  have hroutes := p.routes.total_erase (HostListener.holds j) a
  simp only [hr, Option.map_some, Option.getD_some] at hroutes
  have hpeers := holders_erase hp j
  have hheld : p.holders j = p.routes.total (HostListener.holds j) := rfl
  have hone : HostListener.holds j (.profile r) = one r.profile j := rfl
  omega

/-- What a request for a profile comes to. -/
theorem receive_create {h : Host} {env : Surroundings} {id : PeerId} {p : HostPeer Empty}
    {m : Message} {q : ProfileRequest} (hp : h.peer? id = some p) (hm : m.isControl = true)
    (hq : ProfileCommand.ofMessage m = .ok (some (.create q))) :
    (p.routes.get? q.route = none ∧
      ∃ r, (h.receive env id m).HasRoute id q.route r ∧ h.Obtained env m q.route r) ∨
    ((h.receive env id m).profiles = h.profiles ∧
      ∃ p', (h.receive env id m).peer? id = some p' ∧ p'.routes = p.routes) := by
  have hstate := receive_eq hp env m
  have hroutes := HostPeer.routes_receive (services env) env.folderFailure p m (h.without id)
  have hway := HostPeer.handles (services env) env.folderFailure p m (h.without id)
  have hpeer : (h.receive env id m).peer? id =
      some (p.receive (services env) env.folderFailure m (h.without id)).peer := by
    rw [hstate]
    simp [peer?, withPeer]
  have hprofiles : (h.receive env id m).profiles =
      (HostPeer.handle (services env) env.folderFailure p m (h.without id)).state.profiles := by
    rw [hstate]
    rfl
  generalize HostPeer.handle (services env) env.folderFailure p m (h.without id) = t
    at hway hroutes hprofiles
  have hsame : t.state.profiles = h.profiles → t.peer.routes = p.routes →
      (h.receive env id m).profiles = h.profiles ∧
        ∃ p', (h.receive env id m).peer? id = some p' ∧ p'.routes = p.routes :=
    fun hs hr => ⟨hprofiles.trans hs, _, hpeer, hroutes.trans hr⟩
  cases hway with
  | refused | synced | cleared => exact .inr (hsame rfl rfl)
  | opened timeout _ s' _ _ hopen | notOpened timeout _ s' _ _ hopen =>
    have hs' : s' = ((h.without id).openChannel env timeout.toNat).2 :=
      congrArg Prod.snd hopen.symm
    refine .inr (hsame ?_ rfl)
    rw [hs']
    rcases openChannel_request (h.without id) env timeout with
      ⟨e, ho⟩ | ⟨_, e, ho⟩ | ⟨_, _, ho⟩ <;> rw [ho] <;> rfl
  | failed r e store _ hm' hob =>
    have hstore : store = h.profiles := ProfileStore.obtainRoute_error hob
    exact .inr (hsame hstore rfl)
  | created r route store _ hm' hclient hfree hob =>
    have hreq : r = q := by simpa [hq] using hm'.symm
    subst hreq
    refine .inl ⟨hfree, route, ⟨_, hpeer, ?_⟩, r, store, hq, rfl, hob⟩
    rw [hroutes]
    simp
  | destroyed b _ hm' => simp [hq] at hm'
  | routed hrouted => simp [hm] at hrouted

/-- **A store that accounts for the routes has exact references.** -/
theorem Accounted.exactReferences {h : Host} (ha : h.Accounted) : h.ExactReferences where
  counted := ha.exact
  fresh := by
    refine ⟨ha.get?_next, fun id a r hr => ?_⟩
    rcases Nat.lt_or_ge r.profile.value h.profiles.nextId with hlt | hge
    · exact hlt
    · have hnone : h.holders r.profile = 0 := ha.unheld r.profile hge
      exact absurd hr.holders_pos (by omega)
  removed id p a r hp hr := by
    rw [HostPeer.removeRoute_profile hr]
    exact ⟨(ha.route hp hr).charged, by simp⟩
  torn id p before a r after hp hentries := by
    have hheld : ∀ j, h.holders j = (h.peers.erase id).total (HostPeer.holders · j) +
        Entries.total (HostListener.holds j) (before ++ (a, .profile r) :: after) := by
      intro j
      rw [holders_erase hp j, ← hentries]
      rfl
    have htold := ProfileStore.Accounts.tellRemoved before ((a, .profile r) :: after)
      (ha.congr fun j => (hheld j).symm)
    have hlast : (tellRemoved (before.map (·.2) ++ [HostListener.profile r]) h.profiles).2
        = r.release (tellRemoved (before.map (·.2)) h.profiles).2 := by
      rw [tellRemoved_append]
      rfl
    rw [hlast]
    have hnext : (tellRemoved (before.map (·.2)) h.profiles).2.Accounts fun j =>
        ((h.peers.erase id).total (HostPeer.holders · j) +
          Entries.total (HostListener.holds j) after) + one r.profile j := by
      refine htold.congr fun j => ?_
      simp only [Entries.total, HostListener.holds]
      omega
    exact hnext.charged
  asked env id p m q hp hm hq := receive_create hp hm hq
  taken id p q r _ hclient hfree :=
    ⟨_, Routes.add?_of_free hclient (Table.contains_eq_false_iff.1 hfree)⟩
  obtained m id a r hr := hasRoute_move hr

/-- **After every run the references are exact**, and they stay so while a shutdown destroys one
peer after the other. -/
theorem exactReferences_run (config : HostConfig) (moves : List Move) :
    ((start config).run moves).ExactReferences ∧
      ∀ ids, (((start config).run moves).halfShut ids).ExactReferences := by
  have ha := accounted_run config moves
  have hn := numbered_run config moves
  refine ⟨ha.exactReferences, fun ids => ?_⟩
  have hchanges : Changes ((start config).run moves) (((start config).run moves).halfShut ids) :=
    .head (.stopping _) (destroyPeers_changes _ ids)
  exact (hchanges.keep (fun _ _ hn hc ha => hc.accounted hn ha) hn ha).2.exactReferences

end Host

end ControlPlane
