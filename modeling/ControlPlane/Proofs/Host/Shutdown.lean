/-
# The end of a host

A shutdown stops the watchdog first, then ends every peer and at last every profile.  While the
peers let go of their profiles these are all still there, and afterwards nothing is: no peer, no
profile and nobody who is watched, whatever is done with the host from then on.

* `Host.Operation`, `operate`, `reached`: all that can be done with a host, by its application and
  by what is around it;
* `ProfileStore.Spares`, `Host.GoesOn`: nothing but a destruction ends a profile, and nothing but a
  shutdown stops the host or its watchdog;
* `Host.registered`, `told`, `profiles_stripped`: the peers' ends tell every route once;
* `Host.Finished`, `Finished.operateAll`: a host that has finished stays as it is;
* `Host.shutdown_complete`: what a shutdown does to every host that can be reached.

The application may also use the store of profiles and the watchdog directly.  Neither lets it make
anything after the end, since both have been closed by then.
-/
import Mathlib.Data.List.Nodup
import ControlPlane.Proofs.Host.Deeds
import ControlPlane.Proofs.LifeCycle

namespace ControlPlane

/-! ## 1. Stores in which nothing is destroyed -/

namespace ProfileStore

/-- **Nobody is destroyed on the way from one store to another**: whoever lives goes on living, and
whoever is made lives. -/
structure Spares (s s' : ProfileStore) : Prop where
  next : s.nextId ≤ s'.nextId
  live : ∀ id, (s'.get? id).isSome = true ↔
    (s.get? id).isSome = true ∨ (s.nextId ≤ id.value ∧ id.value < s'.nextId)

namespace Spares

variable {s s' s'' : ProfileStore}

/-- Nothing happens. -/
theorem refl (s : ProfileStore) : s.Spares s where
  next := Nat.le_refl _
  live id := by
    constructor
    · exact .inl
    · rintro (h | h)
      · exact h
      · omega

/-- First one thing happens and then another. -/
theorem trans (h : s.Spares s') (h' : s'.Spares s'') : s.Spares s'' where
  next := Nat.le_trans h.next h'.next
  live id := by
    have hnext := h.next
    have hnext' := h'.next
    rw [h'.live, h.live]
    constructor
    · rintro ((hlive | hnew) | hnew)
      · exact .inl hlive
      · exact .inr (by omega)
      · exact .inr (by omega)
    · rintro (hlive | hnew)
      · exact .inl (.inl hlive)
      · rcases Nat.lt_or_ge id.value s'.nextId with hlt | hge
        · exact .inl (.inr ⟨hnew.1, hlt⟩)
        · exact .inr ⟨hge, hnew.2⟩

/-- A change of one profile. -/
theorem touch (s : ProfileStore) (id : ProfileId) (f : Profile → Profile) :
    s.Spares { s with profiles := s.profiles.adjust id f } where
  next := Nat.le_refl _
  live j := by
    have hsame : (({ s with profiles := s.profiles.adjust id f } : ProfileStore).get? j).isSome
        = (s.get? j).isSome := by
      simp only [get?, Table.get?_adjust]
      split <;> simp
    rw [hsame]
    exact (refl s).live j

/-- A new profile. -/
theorem withNew (s : ProfileStore) (p : Profile) (byFolder : Table Folder.Place ProfileId) :
    s.Spares (s.withNew p byFolder) where
  next := Nat.le_succ _
  live j := by
    rw [get?_withNew]
    show _ ↔ _ ∨ (s.nextId ≤ j.value ∧ j.value < s.nextId + 1)
    by_cases hj : j = ⟨s.nextId⟩
    · subst hj
      simp
    · rw [if_neg hj]
      constructor
      · exact .inl
      · rintro (hlive | hnew)
        · exact hlive
        · refine absurd ?_ hj
          obtain ⟨n⟩ := j
          have hn : n = s.nextId := by
            have hnew' : s.nextId ≤ n ∧ n < s.nextId + 1 := hnew
            omega
          rw [hn]

/-- To obtain a folder destroys nobody. -/
theorem obtain (s : ProfileStore) (folder : String) (flags : ProfileFlags)
    (failure : Option String) : s.Spares (s.obtain folder flags failure).2 := by
  have hcase := s.obtains folder flags failure
  generalize s.obtain folder flags failure = x at hcase
  cases hcase with
  | failed => exact refl s
  | shared id => exact touch s id oneMore
  | incognito => exact withNew s _ s.byFolder
  | made => exact withNew s _ _

/-- To give a reference back destroys nobody. -/
theorem release {s s' : ProfileStore} {id : ProfileId} (h : s.release id = .ok s') :
    s.Spares s' := by
  unfold ProfileStore.release at h
  split at h
  · obtain rfl := Except.ok.inj h
    exact touch s id _
  · cases h

/-- To change settings destroys nobody. -/
theorem update {s s' : ProfileStore} {id : ProfileId} {u : ProfileUpdate}
    (h : s.update id u = some s') : s.Spares s' := by
  unfold ProfileStore.update at h
  split at h
  · obtain rfl := Option.some.inj h
    exact touch s id _
  · cases h

/-- A listener that lets go of its profile destroys nobody. -/
theorem removed (l : HostListener Empty) (s : ProfileStore) :
    s.Spares (Listener.removed l s).2 := by
  cases l with
  | application a => exact a.elim
  | profile r =>
    show s.Spares (r.release s)
    unfold ProfileRoute.release
    split
    · next s' hrel => exact release hrel
    · exact refl s

/-- Neither do several of them. -/
theorem tellRemoved (listeners : List (HostListener Empty)) (s : ProfileStore) :
    s.Spares (tellRemoved listeners s).2 := by
  induction listeners generalizing s with
  | nil => exact refl s
  | cons l rest ih => exact (removed l s).trans (ih _)

/-- A request for a profile destroys nobody. -/
theorem obtainRoute {s s' : ProfileStore} {q : ProfileRequest} {failure : Option String}
    {r : Except Fault ProfileRoute} (h : ProfileRoute.obtain s q failure = (r, s')) :
    s.Spares s' := by
  have hob := obtain s q.directory ⟨q.diskCache, q.cookies⟩ failure
  have hstore : (s.obtain q.directory ⟨q.diskCache, q.cookies⟩ failure).2 = s' := by
    refine Eq.trans ?_ (congrArg Prod.snd h)
    unfold ProfileRoute.obtain
    split <;> next hs => rw [hs]
  exact hstore ▸ hob

end Spares

end ProfileStore

namespace Host

/-! ## 2. What can be done with a host -/

/-- **What is done with a host**, by its application or by what is around it. -/
inductive Operation where
  /-- The application asks for a channel. -/
  | openChannel (env : Surroundings) (timeout : Nat)
  /-- The application tells a client the name of the channel for its worker. -/
  | nameChannel (id : PeerId) (name : String)
  /-- The next event is handled, taken from this queue if it has any. -/
  | next (env : Surroundings) (first : Source)
  | destroyPeer (id : PeerId)
  | shutdown
  /-- The application uses the store of profiles. -/
  | store (a : ProfileStore.Act)
  /-- The application uses the watchdog. -/
  | watch (id : PeerId) (deadline : Nat)
  | markConnected (id : PeerId) (process : ProcessHandle)
  | forget (id : PeerId)
  /-- A peer's end of its channel takes a step. -/
  | channel (id : PeerId) (step : ChannelEnd Empty → ChannelOutput Empty × ChannelEnd Empty)
  /-- An event joins the queue, of a peer that may be gone. -/
  | arrives (id : PeerId) (e : ChannelEvent)
  /-- The watchdog looks at everything it watches. -/
  | look (now : Nat) (answers : PeerId → ProcessHandle.Answers)

/-- The host after an operation. -/
def operate (h : Host) : Operation → Host
  | .openChannel env timeout => (h.openChannel env timeout).2
  | .nameChannel id name => (h.nameChannel id name).2
  | .next env first => (h.step? env first).getD h
  | .destroyPeer id => (h.destroyPeer id).2
  | .shutdown => h.shutdown
  | .store a => { h with profiles := h.profiles.act a }
  | .watch id deadline =>
    match h.watchdog.add id deadline with
    | .ok watchdog => { h with watchdog }
    | .error _ => h
  | .markConnected id process =>
    { h with watchdog := (h.watchdog.markConnected id process).2 }
  | .forget id => { h with watchdog := h.watchdog.forget id }
  | .channel id step => (h.onChannel id step).2
  | .arrives id e => { h with events := h.events ++ [(id, e)] }
  | .look now answers => h.look now answers

/-- A host after some operations, one after the other. -/
def operateAll (h : Host) (os : List Operation) : Host := os.foldl operate h

/-- **A host that can be reached**: from its start by some operations. -/
def reached (config : HostConfig) (os : List Operation) : Host := (start config).operateAll os

/-- The application ends a profile, by itself or with all others. -/
def Operation.Ends (id : ProfileId) : Operation → Prop
  | .store (.destroy j) => j = id
  | .store .destroyAll => True
  | _ => False

/-- The host is told to shut down, or breaks off in the middle of an operation. -/
def Operation.Stops (h : Host) : Operation → Prop
  | .shutdown => True
  | .openChannel env timeout => (h.openChannel env timeout).1 = none
  | _ => False

/-- The event that an operation adds to the queue from outside. -/
def Operation.arrival? : Operation → Option (PeerId × ChannelEvent)
  | .arrives id e => some (id, e)
  | _ => none

/-- One operation more. -/
theorem reached_snoc (config : HostConfig) (os : List Operation) (o : Operation) :
    reached config (os ++ [o]) = (reached config os).operate o := List.foldl_append

/-! ## 3. A host that goes on -/

/-- **A host goes on**: neither it nor its watchdog is stopped, and nobody's profile is
destroyed. -/
structure GoesOn (h h' : Host) : Prop where
  stopped : h'.stopped = h.stopped
  watchdog : h'.watchdog.stopped = h.watchdog.stopped
  spares : h.profiles.Spares h'.profiles

/-- A host with other peers, queues and counters, and whose watchdog has not been stopped. -/
theorem goesOn_of_profiles {h h' : Host} (hstop : h'.stopped = h.stopped)
    (hdog : h'.watchdog.stopped = h.watchdog.stopped) (hprofiles : h'.profiles = h.profiles) :
    h.GoesOn h' :=
  ⟨hstop, hdog, hprofiles ▸ .refl h.profiles⟩

/-- A host whose profiles have changed. -/
theorem goesOn_of_spares {h h' : Host} (hstop : h'.stopped = h.stopped)
    (hdog : h'.watchdog = h.watchdog) (hspares : h.profiles.Spares h'.profiles) :
    h.GoesOn h' :=
  ⟨hstop, hdog ▸ rfl, hspares⟩

/-- A channel is made, or none. -/
theorem goesOn_openChannel {h : Host} {env : Surroundings} {timeout : Nat}
    (hanswer : (h.openChannel env timeout).1 ≠ none) : h.GoesOn (h.openChannel env timeout).2 := by
  rcases openChannel_cases h env timeout with ⟨e, ho⟩ | ⟨_, e, ho⟩ | ⟨_, _, ho⟩ | ⟨_, _, ho⟩
  · rw [ho]
    exact goesOn_of_profiles rfl rfl rfl
  · rw [ho]
    exact goesOn_of_profiles rfl rfl rfl
  · exact absurd (congrArg Prod.fst ho) hanswer
  · rw [ho]
    exact goesOn_of_profiles rfl rfl rfl

/-- A client that asks for a channel has an answer. -/
theorem openChannel_answers (h : Host) (env : Surroundings) (timeout : UInt32) :
    (h.openChannel env timeout.toNat).1 ≠ none := by
  rcases openChannel_request h env timeout with ⟨e, ho⟩ | ⟨_, e, ho⟩ | ⟨_, _, ho⟩ <;>
    simp [ho]

/-- A peer is destroyed. -/
theorem goesOn_destroyPeer (h : Host) (id : PeerId) : h.GoesOn (h.destroyPeer id).2 := by
  unfold destroyPeer
  split
  · exact ⟨rfl, rfl, .tellRemoved _ h.profiles⟩
  · exact goesOn_of_profiles rfl rfl rfl

/-- A route is removed. -/
theorem spares_removeRoute (p : HostPeer Empty) (a : RoutingId) (s : ProfileStore) :
    s.Spares (p.removeRoute a s).profiles := by
  unfold HostPeer.removeRoute
  split
  · next l _ => exact .removed l s
  · exact .refl s

/-- A message is handed to a route. -/
theorem spares_deliver (p : HostPeer Empty) (m : Message) (s : ProfileStore) :
    s.Spares (deliver p.routes m s).context := by
  cases hroute : p.routes.get? m.address with
  | none =>
    rw [deliver_missing hroute]
    exact .refl s
  | some l =>
    cases l with
    | application a => exact a.elim
    | profile r =>
      rw [deliver_profile hroute]
      show s.Spares (r.receive m s).2
      unfold ProfileRoute.receive
      split
      · exact .refl s
      · exact .refl s
      · split
        · next s' hu => exact .update hu
        · exact .refl s

/-- **A message is handled.** -/
theorem goesOn_receive (h : Host) (env : Surroundings) (id : PeerId) (m : Message) :
    h.GoesOn (h.receive env id m) := by
  cases hp : h.peer? id with
  | none =>
    simp only [receive, hp]
    exact goesOn_of_profiles rfl rfl rfl
  | some p =>
    rw [receive_eq hp]
    have hway := HostPeer.handles (services env) env.folderFailure p m (h.without id)
    generalize HostPeer.handle (services env) env.folderFailure p m (h.without id) = t at hway
    cases hway with
    | refused | synced | cleared => exact goesOn_of_profiles rfl rfl rfl
    | opened timeout _ s' _ _ hopen | notOpened timeout _ s' _ _ hopen =>
      have hs' : s' = ((h.without id).openChannel env timeout.toNat).2 :=
        congrArg Prod.snd hopen.symm
      have hgoes := goesOn_openChannel (openChannel_answers (h.without id) env timeout)
      rw [← hs'] at hgoes
      exact ⟨hgoes.stopped, hgoes.watchdog, hgoes.spares⟩
    | failed r e store _ _ hob => exact goesOn_of_spares rfl rfl (.obtainRoute hob)
    | created r route store _ _ _ _ hob => exact goesOn_of_spares rfl rfl (.obtainRoute hob)
    | destroyed a => exact goesOn_of_spares rfl rfl (spares_removeRoute p a h.profiles)
    | routed => exact goesOn_of_spares rfl rfl (spares_deliver p m h.profiles)

/-- Something that happened on a channel is handled. -/
theorem goesOn_onEvent (h : Host) (env : Surroundings) (id : PeerId) (e : ChannelEvent) :
    h.GoesOn (h.onEvent env id e) := by
  cases e with
  | connected pid =>
    simp only [onEvent, connect]
    split
    · exact goesOn_of_profiles rfl (Watchdog.stopped_markConnected ..) rfl
    · exact goesOn_of_profiles rfl rfl rfl
  | message m => exact goesOn_receive h env id m
  | badMessage => exact goesOn_of_profiles rfl rfl rfl
  | failed => exact goesOn_destroyPeer h id

/-- The next event of either queue is handled. -/
theorem goesOn_step? {h h' : Host} {env : Surroundings} {first : Source}
    (hstep : h.step? env first = some h') : h.GoesOn h' := by
  have hchannels : ∀ g, h.stepChannels? env = some g → h.GoesOn g := by
    intro g hg
    unfold stepChannels? at hg
    split at hg
    · next id e rest _ =>
      obtain rfl := Option.some.inj hg
      have hgoes := goesOn_onEvent { h with events := rest } env id e
      exact ⟨hgoes.stopped, hgoes.watchdog, hgoes.spares⟩
    · cases hg
  have hreports : ∀ g, h.stepWatchdog? = some g → h.GoesOn g := by
    intro g hg
    unfold stepWatchdog? at hg
    split at hg
    · next r rest _ =>
      obtain rfl := Option.some.inj hg
      have hgoes := goesOn_destroyPeer { h with reports := rest } r.peer
      exact ⟨hgoes.stopped, hgoes.watchdog, hgoes.spares⟩
    · cases hg
  unfold step? at hstep
  split at hstep
  · cases hstep
  · cases first with
    | channels =>
      cases hc : h.stepChannels? env with
      | some g => exact hchannels h' (by simpa [hc] using hstep)
      | none => exact hreports h' (by simpa [hc] using hstep)
    | watchdog =>
      cases hw : h.stepWatchdog? with
      | some g => exact hreports h' (by simpa [hw] using hstep)
      | none => exact hchannels h' (by simpa [hw] using hstep)

/-- **Every operation lets the host go on**, but one that stops it and the destruction of
profiles. -/
theorem goesOn_operate (h : Host) {o : Operation} (hstops : ¬ o.Stops h)
    (hends : ∀ id, ¬ o.Ends id) : h.GoesOn (h.operate o) := by
  cases o with
  | openChannel env timeout => exact goesOn_openChannel hstops
  | nameChannel id name =>
    simp only [operate, nameChannel]
    split <;> exact goesOn_of_profiles rfl rfl rfl
  | next env first =>
    simp only [operate]
    cases hstep : h.step? env first with
    | none => exact goesOn_of_profiles rfl rfl rfl
    | some h' => exact goesOn_step? hstep
  | destroyPeer id => exact goesOn_destroyPeer h id
  | shutdown => exact absurd trivial hstops
  | store a =>
    refine goesOn_of_spares rfl rfl ?_
    cases a with
    | obtain folder flags failure => exact .obtain h.profiles folder flags failure
    | release id =>
      simp only [operate, ProfileStore.act]
      split
      · next s' hrel => exact .release hrel
      · exact .refl h.profiles
    | destroy id => exact absurd rfl (hends id)
    | destroyAll => exact absurd trivial (hends ⟨0⟩)
    | update id u =>
      simp only [operate, ProfileStore.act]
      cases hu : h.profiles.update id u with
      | none => exact .refl h.profiles
      | some s' => exact .update hu
  | watch id deadline =>
    simp only [operate, Watchdog.add]
    split <;> next hadd =>
      split at hadd
      all_goals
        cases hadd
        try exact goesOn_of_profiles rfl rfl rfl
  | markConnected id process =>
    exact goesOn_of_profiles rfl (Watchdog.stopped_markConnected ..) rfl
  | forget id => exact goesOn_of_profiles rfl rfl rfl
  | channel id step =>
    simp only [operate, onChannel]
    split <;> exact goesOn_of_profiles rfl rfl rfl
  | arrives id e => exact goesOn_of_profiles rfl rfl rfl
  | look now answers => exact goesOn_of_profiles rfl (Watchdog.stopped_pass ..) rfl

/-! ## 4. The ends of the peers -/

/-- A route that is registered with a peer. -/
structure Registered where
  peer : PeerId
  address : RoutingId
  listener : HostListener Empty

/-- The routes of a peer, by ascending address. -/
def routesOf (h : Host) (id : PeerId) : List Registered :=
  match h.peer? id with
  | some p => p.routes.entries.map fun r => ⟨id, r.1, r.2⟩
  | none => []

/-- **The routes that are registered with the peers of a host**, by ascending peer. -/
def registered (h : Host) : List Registered := h.peers.keys.flatMap h.routesOf

/-- **The profiles after some listeners were told that their routes are gone**, each of them
once. -/
def told (rs : List Registered) (s : ProfileStore) : ProfileStore :=
  (tellRemoved (rs.map (·.listener)) s).2

/-- Listeners are told in order. -/
theorem told_append (first rest : List Registered) (s : ProfileStore) :
    told (first ++ rest) s = told rest (told first s) := by
  rw [told, List.map_append, tellRemoved_append]
  rfl

/-- **A route of a peer is one of the registered.** -/
theorem mem_registered {h : Host} {r : Registered} :
    r ∈ h.registered ↔
      ∃ p, h.peer? r.peer = some p ∧ p.routes.get? r.address = some r.listener := by
  simp only [registered, List.mem_flatMap, Table.mem_keys_iff]
  constructor
  · rintro ⟨id, -, hr⟩
    unfold routesOf at hr
    split at hr
    · next p hp =>
      obtain ⟨⟨a, l⟩, hentry, rfl⟩ := List.mem_map.1 hr
      exact ⟨p, hp, Table.mem_entries_iff.1 hentry⟩
    · cases hr
  · rintro ⟨p, hp, hget⟩
    have hp' : h.peers.get? r.peer = some p := hp
    refine ⟨r.peer, by simp [Table.contains, hp'], ?_⟩
    simp only [routesOf, hp]
    exact List.mem_map.2 ⟨(r.address, r.listener), Table.mem_entries_iff.2 hget, rfl⟩

/-- **No route is registered twice.** -/
theorem nodup_registered (h : Host) :
    (h.registered.map fun r => (r.peer, r.address)).Nodup := by
  rw [registered, List.map_flatMap, List.nodup_flatMap]
  constructor
  · intro id _
    unfold routesOf
    split
    · next p _ =>
      have hkeys : p.routes.keys.Nodup := p.routes.nodup_keys
      rw [List.map_map]
      refine List.Nodup.of_map (·.2) ?_
      rw [List.map_map]
      exact hkeys
    · exact List.nodup_nil
  · refine h.peers.nodup_keys.imp_of_mem fun {i j} _ _ hne => ?_
    rintro ⟨k, a⟩ hi hj
    have hpeer : ∀ id, (k, a) ∈ (h.routesOf id).map (fun r => (r.peer, r.address)) → k = id := by
      intro id hmem
      unfold routesOf at hmem
      split at hmem
      · rw [List.map_map] at hmem
        obtain ⟨r, -, heq⟩ := List.mem_map.1 hmem
        exact (congrArg Prod.fst heq).symm
      · cases hmem
    exact hne ((hpeer i hi).symm.trans (hpeer j hj))

/-- The end of a peer tells its routes. -/
theorem profiles_destroyPeer (h : Host) (id : PeerId) :
    (h.destroyPeer id).2.profiles = told (h.routesOf id) h.profiles := by
  cases hp : h.peer? id with
  | none =>
    simp only [destroyPeer, routesOf, hp]
    rfl
  | some p =>
    simp only [destroyPeer, routesOf, hp, told, List.map_map]
    rfl

/-- The end of a peer leaves the others as they are. -/
theorem peer?_destroyPeer (h : Host) (id j : PeerId) :
    (h.destroyPeer id).2.peer? j = if j = id then none else h.peer? j := by
  unfold destroyPeer
  split
  · by_cases hj : j = id <;> simp [peer?, hj]
  · next hnone =>
    split
    · next hj => rw [hj, hnone]
    · rfl

/-- The end of some peers leaves the others as they are. -/
theorem peer?_destroyPeers (h : Host) (ids : List PeerId) (j : PeerId) :
    (h.destroyPeers ids).peer? j = if j ∈ ids then none else h.peer? j := by
  induction ids generalizing h with
  | nil => rfl
  | cons id rest ih =>
    show ((h.destroyPeer id).2.destroyPeers rest).peer? j = _
    rw [ih, peer?_destroyPeer]
    by_cases hj : j = id <;> simp [hj]

/-- **The ends of different peers tell the routes of all of them**, each once and in their
order. -/
theorem profiles_destroyPeers (h : Host) {ids : List PeerId} (hids : ids.Nodup) :
    (h.destroyPeers ids).profiles = told (ids.flatMap h.routesOf) h.profiles := by
  induction ids generalizing h with
  | nil => rfl
  | cons id rest ih =>
    obtain ⟨hnot, hrest⟩ := List.nodup_cons.1 hids
    have hothers : rest.flatMap (h.destroyPeer id).2.routesOf = rest.flatMap h.routesOf := by
      refine List.flatMap_congr fun j hj => ?_
      have hne : j ≠ id := fun heq => hnot (heq ▸ hj)
      simp only [routesOf, peer?_destroyPeer, if_neg hne]
    show ((h.destroyPeer id).2.destroyPeers rest).profiles = _
    rw [ih _ hrest, hothers, profiles_destroyPeer, List.flatMap_cons, told_append]

/-- The end of some peers leaves an idle watchdog as it is. -/
theorem watchdog_destroyPeers {h : Host} (hidle : h.watchdog.Idle) (ids : List PeerId) :
    (h.destroyPeers ids).watchdog = h.watchdog := by
  induction ids generalizing h with
  | nil => rfl
  | cons id rest ih =>
    have hone : (h.destroyPeer id).2.watchdog = h.watchdog := by
      unfold destroyPeer
      split
      · exact Watchdog.forget_of_idle hidle id
      · rfl
    exact (ih (h := (h.destroyPeer id).2) (hone ▸ hidle)).trans hone

/-! ## 5. A shutdown -/

/-- A host that has begun to shut down: nobody is watched any more. -/
def halted (h : Host) : Host := { h with stopped := true, watchdog := h.watchdog.shutdown.2 }

/-- A host that has ended all its peers: what is left are the profiles. -/
def stripped (h : Host) : Host := h.halted.destroyPeers h.peers.keys

/-- **What is left of a host at the end**: nothing. -/
structure Finished (h : Host) : Prop where
  stopped : h.stopped = true
  peers : h.peers = Table.empty
  profiles : h.profiles.profiles = Table.empty
  byFolder : h.profiles.byFolder = Table.empty
  closed : h.profiles.closed = true
  unwatched : h.watchdog.Idle
  watchdog : h.watchdog.stopped = true

/-- A shutdown ends the peers first and the profiles last. -/
theorem shutdown_eq {h : Host} (hrun : h.stopped = false) :
    h.shutdown = { h.stripped with profiles := h.stripped.profiles.destroyAll } := by
  simp [shutdown, hrun, stripped, halted]

/-- **The ends of the peers tell every registered route once.** -/
theorem profiles_stripped (h : Host) : h.stripped.profiles = told h.registered h.profiles :=
  profiles_destroyPeers h.halted h.peers.nodup_keys

/-- **After a shutdown nothing is left.** -/
theorem finished_shutdown {h : Host} (hrun : h.stopped = false)
    (hdog : h.watchdog.stopped = false) : h.shutdown.Finished := by
  have hhalted : h.halted.watchdog.Idle := by
    simp only [halted, Watchdog.shutdown, hdog]
    exact ⟨rfl, rfl⟩
  have hwatchdog : h.stripped.watchdog = h.halted.watchdog := watchdog_destroyPeers hhalted _
  rw [shutdown_eq hrun]
  constructor
  case stopped => exact stopped_destroyPeers h.halted _
  case peers =>
    refine Table.ext_get? fun id => ?_
    show h.stripped.peer? id = none
    rw [stripped, peer?_destroyPeers]
    split
    · rfl
    · next hnot =>
      rw [Table.mem_keys_iff, Bool.not_eq_true, Table.contains_eq_false_iff] at hnot
      exact hnot
  case profiles => rfl
  case byFolder => rfl
  case closed => rfl
  case unwatched =>
    rw [hwatchdog]
    exact hhalted
  case watchdog =>
    show h.stripped.watchdog.stopped = true
    rw [hwatchdog]
    simp [halted, Watchdog.shutdown, hdog]

/-- **So it is after every operation that stops a host.** -/
theorem finished_operate {h : Host} (hrun : h.stopped = false) (hdog : h.watchdog.stopped = false)
    {o : Operation} (hstops : o.Stops h) : (h.operate o).Finished := by
  cases o with
  | shutdown => exact finished_shutdown hrun hdog
  | openChannel env timeout =>
    simp only [operate]
    rcases openChannel_cases h env timeout with ⟨e, ho⟩ | ⟨_, e, ho⟩ | ⟨_, _, ho⟩ | ⟨_, _, ho⟩
    · exact nomatch (congrArg Prod.fst ho).symm.trans hstops
    · exact nomatch (congrArg Prod.fst ho).symm.trans hstops
    · rw [ho]
      exact finished_shutdown (h := { h with nextPeer := h.nextPeer + 1 }) hrun hdog
    · exact nomatch (congrArg Prod.fst ho).symm.trans hstops
  | _ => exact hstops.elim

/-! ## 6. After the end -/

/-- **What a host refuses that has finished**, and what it does not do. -/
structure Refuses (h : Host) : Prop where
  channel : ∀ env timeout, h.openChannel env timeout = (some (.error .hostStopped), h)
  step : ∀ env first, h.step? env first = none
  peer : ∀ id, h.destroyPeer id = (false, h)
  name : ∀ id name, h.nameChannel id name = (false, h)
  again : h.shutdown = h
  obtain : ∀ folder flags failure,
    h.profiles.obtain folder flags failure = (.error .profilesDestroyed, h.profiles)
  release : ∀ id, h.profiles.release id = .error (.unknownProfile id.value)
  destroy : ∀ id, h.profiles.destroy id = .error (.unknownProfile id.value)
  destroyAll : h.profiles.destroyAll = h.profiles
  update : ∀ id u, h.profiles.update id u = none
  find : ∀ folder, h.profiles.find? folder = none
  watch : ∀ id deadline, h.watchdog.add id deadline = .error .watchdogStopped
  markConnected : ∀ id process, h.watchdog.markConnected id process = (false, h.watchdog)
  forget : ∀ id, h.watchdog.forget id = h.watchdog
  unwatched : h.watchdog.peers = [] ∧ ∀ id, h.watchdog.state? id = none
  look : ∀ now answers, h.look now answers = h
  unheard : ∀ id step, h.onChannel id step = ({}, h)

/-- A host that has finished has no peer. -/
theorem Finished.peer? {h : Host} (hf : h.Finished) (id : PeerId) : h.peer? id = none := by
  simp [Host.peer?, hf.peers]

/-- A host that has finished has no profile. -/
theorem Finished.profile? {h : Host} (hf : h.Finished) (id : ProfileId) :
    h.profiles.get? id = none := by
  simp [ProfileStore.get?, hf.profiles]

/-- **A host that has finished refuses everything.** -/
theorem Finished.refuses {h : Host} (hf : h.Finished) : h.Refuses := by
  have hstop := hf.watchdog
  constructor
  case channel => simp [Host.openChannel, hf.stopped]
  case step => simp [Host.step?, hf.stopped]
  case peer => simp [Host.destroyPeer, hf.peer?]
  case name => simp [Host.nameChannel, hf.peer?]
  case again => simp [Host.shutdown, hf.stopped]
  case obtain => simp [ProfileStore.obtain, hf.closed]
  case release => simp [ProfileStore.release, hf.profile?]
  case destroy => simp [ProfileStore.destroy, hf.profile?]
  case destroyAll =>
    have hprofiles := hf.profiles
    have hbyFolder := hf.byFolder
    have hclosed := hf.closed
    generalize h.profiles = s at hprofiles hbyFolder hclosed
    obtain ⟨profiles, byFolder, nextId, closed⟩ := s
    subst hprofiles hbyFolder hclosed
    rfl
  case update => simp [ProfileStore.update, hf.profile?]
  case find => simp [ProfileStore.find?, hf.byFolder]
  case watch => simp [Watchdog.add, hstop]
  case markConnected => simp [Watchdog.markConnected, hstop]
  case forget => exact fun id => Watchdog.forget_of_idle hf.unwatched id
  case unwatched =>
    rw [Watchdog.peers, hf.unwatched.waiting, hf.unwatched.connected]
    refine ⟨List.mergeSort_nil, fun id => ?_⟩
    simp [Watchdog.state?, hf.unwatched.waiting, hf.unwatched.connected]
  case look => simp [Host.look, Watchdog.pass, hstop]
  case unheard => simp [Host.onChannel, hf.peer?]

/-- **Nothing that is done with a host that has finished changes it**, but that events may still
arrive, which nobody handles. -/
theorem Finished.operate {h : Host} (hf : h.Finished) (o : Operation) :
    h.operate o = { h with events := h.events ++ o.arrival?.toList } := by
  have hr := hf.refuses
  have hsame : ({ h with events := h.events ++ [] } : Host) = h := by rw [List.append_nil]
  cases o with
  | arrives id e => rfl
  | store a =>
    refine Eq.trans ?_ hsame.symm
    cases a with
    | obtain folder flags failure =>
      simp [Host.operate, ProfileStore.act, hr.obtain folder flags failure]
    | release id => simp [Host.operate, ProfileStore.act, hr.release id]
    | destroy id => simp [Host.operate, ProfileStore.act, hr.destroy id]
    | destroyAll => simp [Host.operate, ProfileStore.act, hr.destroyAll]
    | update id u => simp [Host.operate, ProfileStore.act, hr.update id u]
  | openChannel env timeout =>
    simp [Host.operate, hr.channel env timeout, Operation.arrival?]
  | nameChannel id name => simp [Host.operate, hr.name id name, Operation.arrival?]
  | next env first => simp [Host.operate, hr.step env first, Operation.arrival?]
  | destroyPeer id => simp [Host.operate, hr.peer id, Operation.arrival?]
  | shutdown => simp [Host.operate, hr.again, Operation.arrival?]
  | watch id deadline => simp [Host.operate, hr.watch id deadline, Operation.arrival?]
  | markConnected id process =>
    simp [Host.operate, hr.markConnected id process, Operation.arrival?]
  | forget id => simp [Host.operate, hr.forget id, Operation.arrival?]
  | channel id step => simp [Host.operate, hr.unheard id step, Operation.arrival?]
  | look now answers => simp [Host.operate, hr.look now answers, Operation.arrival?]

/-- A host that has finished is as good as any with other events in its queue. -/
theorem Finished.withEvents {h : Host} (hf : h.Finished)
    (events : List (PeerId × ChannelEvent)) : Finished { h with events } :=
  ⟨hf.stopped, hf.peers, hf.profiles, hf.byFolder, hf.closed, hf.unwatched, hf.watchdog⟩

/-- **A host that has finished stays as it is in every run**, and the events that arrive wait
forever. -/
theorem Finished.operateAll {h : Host} (hf : h.Finished) (later : List Operation) :
    h.operateAll later
      = { h with events := h.events ++ later.filterMap Operation.arrival? } := by
  induction later generalizing h with
  | nil => simp [Host.operateAll]
  | cons o rest ih =>
    show (h.operate o).operateAll rest = _
    rw [hf.operate o, ih (hf.withEvents _), List.filterMap_cons]
    cases o.arrival? <;> simp

/-! ## 7. The hosts that can be reached -/

/-- A profile that is destroyed is gone, and the others are as before. -/
theorem get?_act_destroy (s : ProfileStore) (j id : ProfileId) :
    (s.act (.destroy j)).nextId = s.nextId ∧
      (s.act (.destroy j)).get? id = if id = j then none else s.get? id := by
  cases hj : s.get? j with
  | none =>
    have hsame : s.act (.destroy j) = s := by simp [ProfileStore.act, ProfileStore.destroy, hj]
    rw [hsame]
    refine ⟨rfl, ?_⟩
    split
    · next heq => rw [heq, hj]
    · rfl
  | some p =>
    simp only [ProfileStore.act, ProfileStore.destroy, hj]
    refine ⟨trivial, ?_⟩
    by_cases heq : id = j <;> simp [ProfileStore.get?, heq]

/-- **A route is new after an operation only if its profile has just been obtained.** -/
theorem hasRoute_operate {h : Host} {o : Operation} {id : PeerId} {a : RoutingId}
    {r : ProfileRoute} (hr : (h.operate o).HasRoute id a r) :
    h.HasRoute id a r ∨ ((h.operate o).profiles.get? r.profile).isSome = true := by
  have hdeed : ∀ d : Deed, h.operate o = h.perform d →
      h.HasRoute id a r ∨ ((h.operate o).profiles.get? r.profile).isSome = true := by
    intro d hd
    rw [hd] at hr ⊢
    rcases hasRoute_perform hr with hold | ⟨-, p, hp⟩
    · exact .inl hold
    · exact .inr (by rw [hp]; rfl)
  have hpeers : (h.operate o).peers = h.peers →
      h.HasRoute id a r ∨ ((h.operate o).profiles.get? r.profile).isSome = true :=
    fun hsame => .inl (noneNew_of_peers hsame id a r hr)
  cases o with
  | openChannel env timeout => exact hdeed (.move (.openChannel env timeout)) rfl
  | nameChannel id name => exact hdeed (.move (.nameChannel id name)) rfl
  | next env first =>
    cases hstep : h.step? env first with
    | none => exact hpeers (by simp [operate, hstep])
    | some h' =>
      obtain ⟨m, hm⟩ := step?_eq_move hstep
      exact hdeed (.move m) (by simp [operate, hstep, perform, hm])
  | destroyPeer id => exact hdeed (.move (.destroyPeer id)) rfl
  | shutdown => exact hdeed (.move .shutdown) rfl
  | store a => exact hdeed (.store a) rfl
  | watch id deadline =>
    refine hpeers ?_
    simp only [operate]
    split <;> rfl
  | channel id step => exact hdeed (.move (.channel id step)) rfl
  | look now answers => exact hdeed (.move (.look now answers)) rfl
  | markConnected | forget | arrives => exact hpeers rfl

/-- **A host that runs**, and what has become of its profiles in the operations so far. -/
structure Runs (os : List Operation) (h : Host) : Prop where
  stopped : h.stopped = false
  watchdog : h.watchdog.stopped = false
  /-- The identities of live profiles have been given out. -/
  given : ∀ id, (h.profiles.get? id).isSome = true → id.value < h.profiles.nextId
  /-- So have those of the profiles that routes refer to. -/
  held : ∀ id a r, h.HasRoute id a r → r.profile.value < h.profiles.nextId
  /-- A profile that was made lives, unless the application has ended it. -/
  live : ∀ id, id.value < h.profiles.nextId → (∀ o ∈ os, ¬ o.Ends id) →
    (h.profiles.get? id).isSome = true

/-- A new host runs. -/
theorem runs_start (config : HostConfig) : Runs [] (start config) where
  stopped := rfl
  watchdog := rfl
  given id h := by simp [start, ProfileStore.get?] at h
  held id a r h := by
    obtain ⟨p, hp, -⟩ := h
    simp [start, peer?] at hp
  live id h := by simp [start] at h

/-- An operation that lets the host go on lets it run. -/
theorem Runs.goesOn {os : List Operation} {h : Host} {o : Operation} (hr : Runs os h)
    (hgoes : h.GoesOn (h.operate o)) : Runs (os ++ [o]) (h.operate o) := by
  have hnext := hgoes.spares.next
  have hgiven : ∀ id, ((h.operate o).profiles.get? id).isSome = true →
      id.value < (h.operate o).profiles.nextId := by
    intro id hlive
    rcases (hgoes.spares.live id).1 hlive with hold | hnew
    · exact Nat.lt_of_lt_of_le (hr.given id hold) hnext
    · exact hnew.2
  constructor
  case stopped => exact hgoes.stopped.trans hr.stopped
  case watchdog => exact hgoes.watchdog.trans hr.watchdog
  case given => exact hgiven
  case held =>
    intro id a r hroute
    rcases hasRoute_operate hroute with hold | hlive
    · exact Nat.lt_of_lt_of_le (hr.held id a r hold) hnext
    · exact hgiven r.profile hlive
  case live =>
    intro id hlt hends
    rw [hgoes.spares.live]
    rcases Nat.lt_or_ge id.value h.profiles.nextId with hold | hnew
    · exact .inl (hr.live id hold fun o ho => hends o (List.mem_append_left _ ho))
    · exact .inr ⟨hnew, hlt⟩

/-- The end of a profile, or of all of them, lets the host run. -/
theorem Runs.ended {os : List Operation} {h : Host} {a : ProfileStore.Act} (hr : Runs os h)
    (hends : ∃ id, (Operation.store a).Ends id) :
    Runs (os ++ [.store a]) (h.operate (.store a)) := by
  have hheld : ∀ id a' r, (h.operate (.store a)).HasRoute id a' r →
      r.profile.value < h.profiles.nextId := fun id a' r hroute => hr.held id a' r hroute
  obtain ⟨j, hj⟩ := hends
  cases a with
  | obtain | release | update => exact absurd hj id
  | destroy k =>
    have hact := get?_act_destroy h.profiles k
    have hnext : (h.operate (.store (.destroy k))).profiles.nextId = h.profiles.nextId :=
      (hact k).1
    constructor
    case stopped => exact hr.stopped
    case watchdog => exact hr.watchdog
    case given =>
      intro id hlive
      have hget := (hact id).2
      rw [hnext]
      refine hr.given id ?_
      change ((h.profiles.act (.destroy k)).get? id).isSome = true at hlive
      rw [hget] at hlive
      split at hlive
      · cases hlive
      · exact hlive
    case held =>
      intro id a' r hroute
      rw [hnext]
      exact hheld id a' r hroute
    case live =>
      intro id hlt hends
      have hne : id ≠ k := fun heq =>
        hends (.store (.destroy k)) (List.mem_append_right _ (List.mem_singleton_self _)) heq.symm
      change ((h.profiles.act (.destroy k)).get? id).isSome = true
      rw [(hact id).2, if_neg hne]
      exact hr.live id (hnext ▸ hlt) fun o ho => hends o (List.mem_append_left _ ho)
  | destroyAll =>
    constructor
    case stopped => exact hr.stopped
    case watchdog => exact hr.watchdog
    case given =>
      intro id hlive
      cases hlive
    case held => exact hheld
    case live =>
      intro id _ hends
      exact absurd trivial (hends _ (List.mem_append_right _ (List.mem_singleton_self _)))

/-- **Every host that can be reached runs or has finished.** -/
theorem runs_or_finished (config : HostConfig) (os : List Operation) :
    Runs os (reached config os) ∨ (reached config os).Finished := by
  induction os using List.reverseRecOn with
  | nil => exact .inl (runs_start config)
  | append_singleton os o ih =>
    rw [reached_snoc]
    rcases ih with hr | hf
    · by_cases hstops : o.Stops (reached config os)
      · exact .inr (finished_operate hr.stopped hr.watchdog hstops)
      · by_cases hends : ∃ id, o.Ends id
        · cases o with
          | store a => exact .inl (hr.ended hends)
          | _ =>
            obtain ⟨id, hid⟩ := hends
            exact absurd hid fun h => h
        · exact .inl (hr.goesOn (goesOn_operate _ hstops fun id hid => hends ⟨id, hid⟩))
    · exact .inr (hf.operate o ▸ hf.withEvents _)

/-! ## 8. The end of every host -/

/-- **How the peers of a host come to their end.** -/
structure Teardown (os : List Operation) (h : Host) : Prop where
  /-- The routes that are told are those that are registered, -/
  registered : ∀ r, r ∈ h.registered ↔
    ∃ p, h.peer? r.peer = some p ∧ p.routes.get? r.address = some r.listener
  /-- each of them once, -/
  once : (h.registered.map fun r => (r.peer, r.address)).Nodup
  told : h.stripped.profiles = told h.registered h.profiles
  /-- and all of them before the profiles are destroyed. -/
  last : h.shutdown = { h.stripped with profiles := h.stripped.profiles.destroyAll }
  /-- Whenever a route is told, all profiles are there that the application has not ended. -/
  live : ∀ before r rest, h.registered = before ++ r :: rest →
    ∀ id, id.value < h.profiles.nextId → (∀ o ∈ os, ¬ o.Ends id) →
      ((Host.told before h.profiles).get? id).isSome = true
  /-- So its reference is given back, unless the application has ended its profile. -/
  releases : ∀ before r rest route, h.registered = before ++ r :: rest →
    r.listener = .profile route → (∀ o ∈ os, ¬ o.Ends route.profile) →
      (Host.told before h.profiles).release route.profile
        = .ok (Host.told (before ++ [r]) h.profiles)

/-- **The peers of a host that runs let go of their profiles while these are there.** -/
theorem Runs.teardown {os : List Operation} {h : Host} (hr : Runs os h) : Teardown os h := by
  have hlive : ∀ before id, id.value < h.profiles.nextId → (∀ o ∈ os, ¬ o.Ends id) →
      ((told before h.profiles).get? id).isSome = true := by
    intro before id hlt hends
    exact ((ProfileStore.Spares.tellRemoved _ h.profiles).live id).2 (.inl (hr.live id hlt hends))
  constructor
  case registered =>
    intro r
    exact mem_registered
  case once => exact nodup_registered h
  case told => exact profiles_stripped h
  case last => exact shutdown_eq hr.stopped
  case live =>
    intro before _ _ _
    exact hlive before
  case releases =>
    intro before r rest route hsplit hroute hends
    have hmem : r ∈ h.registered := by rw [hsplit]; simp
    obtain ⟨p, hp, hget⟩ := mem_registered.1 hmem
    have hlt := hr.held r.peer r.address route ⟨p, hp, hroute ▸ hget⟩
    obtain ⟨q, hq⟩ := Option.isSome_iff_exists.1 (hlive before route.profile hlt hends)
    have hlast : Host.told (before ++ [r]) h.profiles
        = route.release (Host.told before h.profiles) := by
      rw [told_append]
      simp only [Host.told, List.map_cons, List.map_nil, hroute]
      rfl
    rw [hlast, ProfileRoute.release]
    simp [ProfileStore.release, hq]

/-- **What a shutdown does to a host**, after some operations and before any others. -/
structure Ending (os : List Operation) (h : Host) : Prop where
  /-- The first one ends the peers in order. -/
  teardown : h.stopped = false → Teardown os h
  /-- Nothing is left afterwards. -/
  finished : h.shutdown.Finished
  /-- Another one does nothing. -/
  idempotent : h.shutdown.shutdown = h.shutdown
  /-- Whatever is done later, the host stays as it is, but for the events that still arrive. -/
  kept : ∀ later, h.shutdown.operateAll later =
    { h.shutdown with
      events := h.shutdown.events ++ later.filterMap Operation.arrival? }
  /-- It refuses everything from then on. -/
  final : ∀ later, (h.shutdown.operateAll later).Finished ∧
    (h.shutdown.operateAll later).Refuses

/-- **A shutdown is complete, idempotent and final**, for every host that can be reached. -/
theorem shutdown_complete (config : HostConfig) (os : List Operation) :
    Ending os (reached config os) := by
  have hfinished : (reached config os).shutdown.Finished := by
    rcases runs_or_finished config os with hr | hf
    · exact finished_shutdown hr.stopped hr.watchdog
    · rw [hf.refuses.again]
      exact hf
  have hfinal : ∀ later, ((reached config os).shutdown.operateAll later).Finished := by
    intro later
    rw [hfinished.operateAll later]
    exact hfinished.withEvents _
  constructor
  case teardown =>
    intro hrun
    rcases runs_or_finished config os with hr | hf
    · exact hr.teardown
    · rw [hf.stopped] at hrun
      cases hrun
  case finished => exact hfinished
  case idempotent => exact hfinished.refuses.again
  case kept => exact hfinished.operateAll
  case final =>
    intro later
    exact ⟨hfinal later, (hfinal later).refuses⟩

end Host

end ControlPlane
