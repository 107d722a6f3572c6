/-
# What is done with the profiles of a host

Besides the moves of a host there is its application, which holds the store of profiles and may
use it directly.  Each of them, a move or such a use, is a deed; a run of deeds is all that can
happen to a host.

To the store a deed is a run of acts, and the only updates among them are those that were asked
for: by a message to a route of a profile, or by the application (`Host.perform_acts`).  So all that
is known about runs of a store is known about runs of deeds:

* `Host.keeps_after`: identities do not come back, and live profiles stay what they are;
* `Host.settings_after`: the settings of a profile are what the updates have made of them;
* `Host.hasRoute_after`: a route that is there was made by a deed that obtained its profile, and has
  been there ever since.
-/
import Mathlib.Data.List.Induction
import ControlPlane.Proofs.Host.References
import ControlPlane.Proofs.Profile.Settings

namespace ControlPlane

open ProfileStore (updatesOf)

namespace Host

/-! ## 1. Deeds and runs of them -/

/-- **What is done with a host.** -/
inductive Deed where
  /-- A move of the host. -/
  | move (m : Move)
  /-- The application uses the store of profiles. -/
  | store (a : ProfileStore.Act)

/-- The host after a deed. -/
def perform (h : Host) : Deed → Host
  | .move m => h.move m
  | .store a => { h with profiles := h.profiles.act a }

/-- A host after some deeds, one after the other. -/
def performAll (h : Host) (deeds : List Deed) : Host := deeds.foldl perform h

/-- **A host after some deeds**, from its start. -/
def after (config : HostConfig) (deeds : List Deed) : Host := (start config).performAll deeds

/-- First some deeds and then others. -/
theorem after_append (config : HostConfig) (deeds later : List Deed) :
    after config (deeds ++ later) = (after config deeds).performAll later := List.foldl_append ..

/-- One deed more. -/
theorem after_snoc (config : HostConfig) (deeds : List Deed) (d : Deed) :
    after config (deeds ++ [d]) = (after config deeds).perform d := after_append ..

/-- Every deed keeps the peers under their ids. -/
theorem Numbered.perform {h : Host} (hn : h.Numbered) (d : Deed) : (h.perform d).Numbered := by
  cases d with
  | move m =>
    exact ((move_changes hn m).keep (I := fun _ => True) (fun _ _ _ _ _ => trivial) hn trivial).1
  | store a => exact hn

/-- **The peers of every host are stored under their own ids**, whatever was done with it. -/
theorem numbered_after (config : HostConfig) (deeds : List Deed) :
    (after config deeds).Numbered := by
  induction deeds using List.reverseRecOn with
  | nil => exact numbered_start config
  | append_singleton deeds d ih =>
    rw [after_snoc]
    exact ih.perform d

/-! ## 2. The updates of a deed -/

/-- **The update that a message asks for**: it goes to a route of a profile and is read as one. -/
def routedUpdate (h : Host) (id : PeerId) (m : Message) : List (ProfileId × ProfileUpdate) :=
  if m.isControl then []
  else
    match (h.peer? id).bind (·.routes.get? m.address), ProfileUpdate.ofMessage m with
    | some (.profile r), .ok (some u) => [(r.profile, u)]
    | _, _ => []

/-- The message that a deed handles, with the surroundings and the peer, if it handles one. -/
def Deed.message? (h : Host) : Deed → Option (Surroundings × PeerId × Message)
  | .move m => m.message? h
  | .store _ => none

/-- **The updates that a deed asks for.** -/
def Deed.updates (h : Host) : Deed → List (ProfileId × ProfileUpdate)
  | .move m =>
    match m.message? h with
    | some (_, id, msg) => h.routedUpdate id msg
    | none => []
  | .store a => a.update?.toList

/-- The updates that some deeds ask for, one deed after the other. -/
def updatesDuring (h : Host) : List Deed → List (ProfileId × ProfileUpdate)
  | [] => []
  | d :: rest => d.updates h ++ (h.perform d).updatesDuring rest

/-! ## 3. A deed as a run of acts -/

/-- **Acts lead from one store to another**, with these updates among them. -/
def Acts (s s' : ProfileStore) (us : List (ProfileId × ProfileUpdate)) : Prop :=
  ∃ acts : List ProfileStore.Act, s' = s.run acts ∧ acts.filterMap ProfileStore.Act.update? = us

namespace Acts

variable {s s' s'' : ProfileStore} {us vs : List (ProfileId × ProfileUpdate)}

/-- No act. -/
theorem refl (s : ProfileStore) : Acts s s [] := ⟨[], rfl, rfl⟩

/-- One act. -/
theorem one (s : ProfileStore) (a : ProfileStore.Act) : Acts s (s.act a) a.update?.toList := by
  refine ⟨[a], rfl, ?_⟩
  rw [List.filterMap_cons]
  cases a.update? <;> rfl

/-- First some acts and then others. -/
theorem trans (h : Acts s s' us) (h' : Acts s' s'' vs) : Acts s s'' (us ++ vs) := by
  obtain ⟨acts, rfl, rfl⟩ := h
  obtain ⟨acts', rfl, rfl⟩ := h'
  exact ⟨acts ++ acts', (List.foldl_append ..).symm, List.filterMap_append⟩

end Acts

/-- Listeners that are told of their removal release profiles. -/
theorem acts_tellRemoved (listeners : List (HostListener Empty)) (s : ProfileStore) :
    Acts s (tellRemoved listeners s).2 [] := by
  induction listeners generalizing s with
  | nil => exact .refl s
  | cons l rest ih =>
    cases l with
    | application a => exact a.elim
    | profile r => exact (Acts.one s (.release r.profile)).trans (ih _)

/-- The end of a peer releases profiles. -/
theorem acts_destroyPeer (h : Host) (id : PeerId) :
    Acts h.profiles (h.destroyPeer id).2.profiles [] := by
  unfold destroyPeer
  split
  · exact acts_tellRemoved _ h.profiles
  · exact .refl _

/-- So does the end of some peers. -/
theorem acts_destroyPeers (h : Host) (ids : List PeerId) :
    Acts h.profiles (h.destroyPeers ids).profiles [] := by
  induction ids generalizing h with
  | nil => exact .refl _
  | cons id rest ih => exact (acts_destroyPeer h id).trans (ih _)

/-- A shutdown releases and destroys profiles. -/
theorem acts_shutdown (h : Host) : Acts h.profiles h.shutdown.profiles [] := by
  unfold shutdown
  split
  · exact .refl _
  · exact (acts_destroyPeers { h with stopped := true, watchdog := h.watchdog.shutdown.2 }
      h.peers.keys).trans (.one _ .destroyAll)

/-- A request for a channel leaves the profiles alone. -/
theorem profiles_openChannel (h : Host) (env : Surroundings) (timeout : UInt32) :
    (h.openChannel env timeout.toNat).2.profiles = h.profiles := by
  rcases openChannel_request h env timeout with ⟨e, ho⟩ | ⟨_, e, ho⟩ | ⟨_, _, ho⟩
  all_goals
    rw [ho]
    try rfl

/-- So does the application that asks for one, unless the host breaks off and shuts down. -/
theorem acts_openChannel (h : Host) (env : Surroundings) (timeout : Nat) :
    Acts h.profiles (h.openChannel env timeout).2.profiles [] := by
  rcases openChannel_cases h env timeout with ⟨e, ho⟩ | ⟨_, e, ho⟩ | ⟨_, _, ho⟩ | ⟨_, _, ho⟩
  all_goals rw [ho]
  · exact .refl _
  · exact .refl _
  · exact acts_shutdown { h with nextPeer := h.nextPeer + 1 }
  · exact .refl _

/-- The removal of a route releases its profile. -/
theorem acts_removeRoute (p : HostPeer Empty) (a : RoutingId) (s : ProfileStore) :
    Acts s (p.removeRoute a s).profiles [] := by
  cases hroute : p.routes.get? a with
  | none =>
    rw [HostPeer.removeRoute_none hroute]
    exact .refl s
  | some l =>
    cases l with
    | application b => exact b.elim
    | profile r =>
      rw [HostPeer.removeRoute_profile hroute]
      exact Acts.one s (.release r.profile)

/-- **An update that arrives on a route is one of its profile**, and what is no update does
nothing. -/
theorem acts_routeReceive (r : ProfileRoute) (m : Message) (s : ProfileStore) :
    Acts s (r.receive m s).2
      (match ProfileUpdate.ofMessage m with
        | .ok (some u) => [(r.profile, u)]
        | _ => []) := by
  rcases hm : ProfileUpdate.ofMessage m with e | _ | u
  · simp only [ProfileRoute.receive, hm]
    exact .refl s
  · simp only [ProfileRoute.receive, hm]
    exact .refl s
  · have hact := Acts.one s (.update r.profile u)
    simp only [ProfileStore.act] at hact
    simp only [ProfileRoute.receive, hm]
    cases hu : s.update r.profile u with
    | none =>
      rw [hu] at hact
      exact hact
    | some s' =>
      rw [hu] at hact
      exact hact

/-- A request for a profile obtains its folder, or fails. -/
theorem acts_obtain {s s' : ProfileStore} {q : ProfileRequest} {failure : Option String}
    {r : Except Fault ProfileRoute} (hob : ProfileRoute.obtain s q failure = (r, s')) :
    Acts s s' [] := by
  have hact := Acts.one s (.obtain q.directory ⟨q.diskCache, q.cookies⟩ failure)
  have hstore : s.act (.obtain q.directory ⟨q.diskCache, q.cookies⟩ failure) = s' := by
    refine Eq.trans ?_ (congrArg Prod.snd hob)
    simp only [ProfileRoute.obtain, ProfileStore.act]
    split <;> next h => rw [h]
  exact hstore ▸ hact

/-- The profiles after a message are those that its handling left behind. -/
theorem profiles_receive {h : Host} {env : Surroundings} {id : PeerId} {m : Message}
    {p : HostPeer Empty} (hp : h.peer? id = some p) :
    (h.receive env id m).profiles
      = (HostPeer.handle (services env) env.folderFailure p m (h.without id)).state.profiles := by
  rw [receive_eq hp]
  rfl

/-- **What a message asks for is all that it updates.** -/
theorem acts_receive (h : Host) (env : Surroundings) (id : PeerId) (m : Message) :
    Acts h.profiles (h.receive env id m).profiles (h.routedUpdate id m) := by
  cases hp : h.peer? id with
  | none =>
    have hnone : h.routedUpdate id m = [] := by simp [routedUpdate, hp]
    rw [hnone]
    simp only [receive, hp]
    exact .refl _
  | some p =>
    rw [profiles_receive hp]
    have hway := HostPeer.handles (services env) env.folderFailure p m (h.without id)
    have hquiet : m.isControl = true → h.routedUpdate id m = [] :=
      fun hcontrol => by simp [routedUpdate, hcontrol]
    generalize HostPeer.handle (services env) env.folderFailure p m (h.without id) = t at hway
    cases hway with
    | refused e hcontrol | synced final hcontrol | cleared hcontrol =>
      rw [hquiet hcontrol]
      exact .refl _
    | opened timeout _ s' hcontrol _ hopen | notOpened timeout _ s' hcontrol _ hopen =>
      have hs' : s' = ((h.without id).openChannel env timeout.toNat).2 :=
        congrArg Prod.snd hopen.symm
      rw [hquiet hcontrol, hs', profiles_openChannel]
      exact .refl _
    | failed r e store hcontrol _ hob =>
      rw [hquiet hcontrol]
      exact acts_obtain hob
    | created r route store hcontrol _ _ _ hob =>
      rw [hquiet hcontrol]
      exact acts_obtain hob
    | destroyed address hcontrol =>
      rw [hquiet hcontrol]
      exact acts_removeRoute p address h.profiles
    | routed hrouted =>
      cases hroute : p.routes.get? m.address with
      | none =>
        rw [deliver_missing hroute]
        have hnone : h.routedUpdate id m = [] := by simp [routedUpdate, hp, hroute]
        rw [hnone]
        exact .refl _
      | some l =>
        cases l with
        | application a => exact a.elim
        | profile r =>
          rw [deliver_profile hroute]
          simp only [routedUpdate, hrouted, hp, Option.bind_some, hroute, Bool.false_eq_true,
            if_false]
          have hacts := acts_routeReceive r m h.profiles
          rcases hm : ProfileUpdate.ofMessage m with e | _ | u
          all_goals
            rw [hm] at hacts
            exact hacts

/-- An event that is no message updates nothing. -/
theorem acts_onEvent (h : Host) (env : Surroundings) (id : PeerId) {e : ChannelEvent}
    (he : ∀ m, e ≠ .message m) : Acts h.profiles (h.onEvent env id e).profiles [] := by
  cases e with
  | connected pid =>
    simp only [onEvent, connect]
    split <;> exact .refl _
  | message m => exact absurd rfl (he m)
  | badMessage => exact .refl _
  | failed => exact acts_destroyPeer h id

/-- The events of a queue are handled like any others. -/
theorem acts_event (h : Host) (env : Surroundings) (id : PeerId) (e : ChannelEvent) :
    Acts h.profiles (h.onEvent env id e).profiles ((Deed.move (.event env id e)).updates h) := by
  cases e with
  | message m => exact acts_receive h env id m
  | connected | badMessage | failed => exact acts_onEvent h env id (by simp)

/-- **A deed is a run of acts, and the updates among them are those that it asks for.** -/
theorem perform_acts (h : Host) (d : Deed) :
    Acts h.profiles (h.perform d).profiles (d.updates h) := by
  cases d with
  | store a => exact .one h.profiles a
  | move m =>
    cases m with
    | openChannel env timeout => exact acts_openChannel h env timeout
    | nameChannel id name =>
      simp only [perform, move, nameChannel]
      split <;> exact .refl _
    | event env id e => exact acts_event h env id e
    | takeEvent env =>
      cases hq : h.events with
      | nil =>
        simp only [perform, move, stepChannels?, hq, Deed.updates, Move.message?]
        exact .refl _
      | cons x rest =>
        obtain ⟨id, e⟩ := x
        have hupdates : (Deed.move (.takeEvent env)).updates h
            = (Deed.move (.event env id e)).updates { h with events := rest } := by
          simp only [Deed.updates, Move.message?, hq]
          cases e <;> rfl
        have hstep : h.perform (.move (.takeEvent env))
            = { h with events := rest }.onEvent env id e := by
          simp [perform, move, stepChannels?, hq]
        rw [hupdates, hstep]
        exact acts_event { h with events := rest } env id e
    | report r => exact acts_destroyPeer h r.peer
    | takeReport =>
      simp only [perform, move, stepWatchdog?]
      split
      · next r rest _ => exact acts_destroyPeer { h with reports := rest } r.peer
      · exact .refl _
    | channel id step =>
      simp only [perform, move, onChannel]
      split <;> exact .refl _
    | look now answers => exact .refl _
    | destroyPeer id => exact acts_destroyPeer h id
    | destroyProfile id =>
      have hact := Acts.one h.profiles (.destroy id)
      simp only [ProfileStore.act] at hact
      simp only [perform, move, destroyProfile]
      split <;> next hd =>
        rw [hd] at hact
        exact hact
    | shutdown => exact acts_shutdown h

/-- **So are deeds one after the other.** -/
theorem performAll_acts (h : Host) (deeds : List Deed) :
    Acts h.profiles (h.performAll deeds).profiles (h.updatesDuring deeds) := by
  induction deeds generalizing h with
  | nil => exact .refl _
  | cons d rest ih => exact (perform_acts h d).trans (ih _)

/-! ## 4. Profiles through runs of deeds -/

/-- The store of a host is in step, whatever was done with it. -/
theorem indexed_after (config : HostConfig) (deeds : List Deed) :
    (after config deeds).profiles.Indexed := by
  obtain ⟨acts, hrun, _⟩ := performAll_acts (start config) deeds
  rw [after, hrun]
  exact ProfileStore.Indexed.empty.run acts

/-- **Identities do not come back, and live profiles stay what they are.** -/
theorem keeps_after (config : HostConfig) (deeds later : List Deed) :
    (after config deeds).profiles.Keeps (after config (deeds ++ later)).profiles := by
  obtain ⟨acts, hrun, _⟩ := performAll_acts (after config deeds) later
  rw [after_append, hrun]
  exact (indexed_after config deeds).keeps acts

/-- **The settings of a profile are what the updates since then have made of them.** -/
theorem settings_after (config : HostConfig) (deeds later : List Deed) {id : ProfileId}
    {p q : Profile} (hp : (after config deeds).profiles.get? id = some p)
    (hq : (after config (deeds ++ later)).profiles.get? id = some q) :
    q.Alike (p.applyAll (updatesOf id ((after config deeds).updatesDuring later))) := by
  obtain ⟨acts, hrun, hupdates⟩ := performAll_acts (after config deeds) later
  have hindexed := indexed_after config deeds
  rw [after_append, hrun] at hq
  obtain ⟨p', hp', halike⟩ :=
    ProfileStore.settings_run hindexed (hindexed.given id p hp) acts hq
  rw [hp, Option.some.injEq] at hp'
  rw [hp', ← hupdates]
  exact halike

/-! ## 5. Routes through runs of deeds -/

/-- The events that a move leaves in the queue while it handles one. -/
def Move.rest (h : Host) : Move → List (PeerId × ChannelEvent)
  | .takeEvent _ => h.events.tail
  | _ => h.events

/-- A move that handles a message lets it arrive. -/
theorem move_message {h : Host} {mv : Move} {env : Surroundings} {id : PeerId} {m : Message}
    (hm : mv.message? h = some (env, id, m)) :
    h.move mv = { h with events := mv.rest h }.receive env id m := by
  cases mv with
  | event env' id' e =>
    cases e with
    | message m' =>
      simp only [Move.message?, Option.some.injEq, Prod.mk.injEq] at hm
      obtain ⟨rfl, rfl, rfl⟩ := hm
      rfl
    | connected | badMessage | failed => cases hm
  | takeEvent env' =>
    simp only [Move.message?] at hm
    split at hm
    · next id' m' rest hq =>
      simp only [Option.some.injEq, Prod.mk.injEq] at hm
      obtain ⟨rfl, rfl, rfl⟩ := hm
      simp only [move, stepChannels?, Move.rest, hq, List.tail_cons]
      rfl
    · cases hm
  | openChannel | nameChannel | report | takeReport | channel | look | destroyPeer
  | destroyProfile | shutdown => cases hm

/-- A peer has a new route after a message only if that message obtained a profile, which is live
then. -/
theorem live_receive {h : Host} {env : Surroundings} {id : PeerId} {m : Message}
    {a : RoutingId} {r : ProfileRoute} (hr : (h.receive env id m).HasRoute id a r) :
    h.HasRoute id a r ∨ ∃ p, (h.receive env id m).profiles.get? r.profile = some p := by
  cases hp : h.peer? id with
  | none =>
    have hsame : h.receive env id m = h := by simp only [receive, hp]
    rw [hsame] at hr
    exact .inl hr
  | some p =>
    rw [profiles_receive hp]
    obtain ⟨p', hp', hr⟩ := hr
    simp only [receive_eq hp, peer?, withPeer, Table.get?_insert, if_pos, Option.some.injEq] at hp'
    rw [← hp', HostPeer.routes_receive] at hr
    have hway := HostPeer.handles (services env) env.folderFailure p m (h.without id)
    rcases handles_newRoute hway hr with hold | ⟨q, store, _, _, hob, hstate⟩
    · exact .inl ⟨p, hp, hold⟩
    · rw [hstate]
      exact .inr (ProfileStore.obtainRoute_live hob)

/-- **A route that is there after a deed was there before, or the deed handled the request that
obtained its profile**, which is live after it. -/
theorem hasRoute_perform {h : Host} {d : Deed} {id : PeerId} {a : RoutingId} {r : ProfileRoute}
    (hr : (h.perform d).HasRoute id a r) :
    h.HasRoute id a r ∨
      (∃ env m, d.message? h = some (env, id, m) ∧ h.Obtained env m a r) ∧
        ∃ p, (h.perform d).profiles.get? r.profile = some p := by
  cases d with
  | store act => exact .inl hr
  | move mv =>
    rcases hasRoute_move hr with hold | ⟨env, m, hm, hob⟩
    · exact .inl hold
    · simp only [perform, move_message hm] at hr ⊢
      rcases live_receive hr with hold | hlive
      · exact .inl hold
      · exact .inr ⟨⟨env, m, hm, hob⟩, hlive⟩

/-- **Where a route comes from**: between some deeds and the rest there is one that handled the
request for it. -/
structure Origin (config : HostConfig) (before : List Deed) (d : Deed) (rest : List Deed)
    (id : PeerId) (a : RoutingId) (r : ProfileRoute) : Prop where
  /-- The route refers to the profile that was obtained for it. -/
  obtained : ∃ env m, d.message? (after config before) = some (env, id, m) ∧
    (after config before).Obtained env m a r
  /-- That profile is live then. -/
  live : ∃ p, (after config (before ++ [d])).profiles.get? r.profile = some p
  /-- The route has been there ever since. -/
  there : ∀ mid, mid <+: rest → (after config (before ++ d :: mid)).HasRoute id a r

/-- **Every route has an origin.** -/
theorem hasRoute_after {config : HostConfig} {deeds : List Deed} {id : PeerId} {a : RoutingId}
    {r : ProfileRoute} (hr : (after config deeds).HasRoute id a r) :
    ∃ before d rest, deeds = before ++ d :: rest ∧ Origin config before d rest id a r := by
  induction deeds using List.reverseRecOn with
  | nil =>
    obtain ⟨p, hp, _⟩ := hr
    simp [after, performAll, peer?, start] at hp
  | append_singleton deeds d ih =>
    have hafter : (after config (deeds ++ [d])).HasRoute id a r := hr
    rw [after_snoc] at hr
    rcases hasRoute_perform hr with hold | ⟨hob, hlive⟩
    · obtain ⟨before, d', rest, hdeeds, ho⟩ := ih hold
      refine ⟨before, d', rest ++ [d], by simp [hdeeds], ho.obtained, ho.live, fun mid hmid => ?_⟩
      -- a prefix of the longer rest is one of the shorter rest, or all of it
      rcases List.prefix_concat_iff.1 hmid with heq | hshort
      · have hall : before ++ d' :: mid = deeds ++ [d] := by simp [hdeeds, heq]
        rw [hall]
        exact hafter
      · exact ho.there mid hshort
    · rw [← after_snoc] at hlive
      refine ⟨deeds, d, [], rfl, hob, hlive, fun mid hmid => ?_⟩
      rw [List.prefix_nil.1 hmid]
      exact hafter

/-- The identity of the profile of a route has been given out. -/
theorem given_hasRoute {config : HostConfig} {deeds : List Deed} {id : PeerId} {a : RoutingId}
    {r : ProfileRoute} (hr : (after config deeds).HasRoute id a r) :
    r.profile.value < (after config deeds).profiles.nextId := by
  obtain ⟨before, d, rest, rfl, ho⟩ := hasRoute_after hr
  obtain ⟨p, hp⟩ := ho.live
  have hstart := (indexed_after config (before ++ [d])).given _ _ hp
  have hkeeps := keeps_after config (before ++ [d]) rest
  rw [List.append_assoc] at hkeeps
  exact Nat.lt_of_lt_of_le hstart hkeeps.next

end Host

end ControlPlane
