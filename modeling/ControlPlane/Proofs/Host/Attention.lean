/-
# What a host does about one peer

A host has many peers and one queue of events.  Seen from one peer, everything that is done with
the host comes to little: nothing, the end of the peer, messages that are handed to its channel, or
the next of its own events, which it hears unless it is gone.

* `Host.channel?`, `Host.queued`: the channel of a peer, and its events in the queue;
* `Deed.heard?`, `Host.heardDuring`: the event that a peer is given by a deed, and by some deeds;
* `Host.Attends`, `Host.attends`: what a deed comes to for a peer;
* `Host.Awaits`, `Host.awaits_openChannel`: peers that await their clients.

The order of the events of one peer is the order of the queue, whatever stands between them.
-/
import ControlPlane.Proofs.Host.Deeds
import ControlPlane.Proofs.Peer.Settlement

namespace ControlPlane

namespace Host

/-! ## 1. What a peer is given -/

/-- The channel of a peer, if the peer is there. -/
def channel? (h : Host) (id : PeerId) : Option (ChannelEnd Empty) := (h.peer? id).map (·.channel)

/-- The events of a peer in the queue. -/
def queued (h : Host) (id : PeerId) : List ChannelEvent :=
  (h.events.filter (·.1 = id)).map (·.2)

/-- **The event that a peer is given by a deed.**  A peer that is gone is given none. -/
def Deed.heard? (h : Host) (id : PeerId) : Deed → Option ChannelEvent
  | .move (.takeEvent _) =>
    match h.events with
    | (j, e) :: _ => if j = id ∧ (h.peer? id).isSome then some e else none
    | [] => none
  | .move (.event _ j e) => if j = id ∧ (h.peer? id).isSome then some e else none
  | _ => none

/-- **The events that a peer is given by some deeds**, in their order. -/
def heardDuring (h : Host) (id : PeerId) : List Deed → List ChannelEvent
  | [] => []
  | d :: rest => (d.heard? h id).toList ++ (h.perform d).heardDuring id rest

/-- First some deeds and then another one. -/
theorem heardDuring_snoc (h : Host) (id : PeerId) (deeds : List Deed) (d : Deed) :
    h.heardDuring id (deeds ++ [d])
      = h.heardDuring id deeds ++ (d.heard? (h.performAll deeds) id).toList := by
  induction deeds generalizing h with
  | nil => simp [heardDuring, performAll]
  | cons d' rest ih =>
    rw [List.cons_append, heardDuring, ih, heardDuring, List.append_assoc]
    rfl

/-- **What a peer was given it was given by one of the deeds**, with those before it behind it. -/
theorem heardDuring_at {h : Host} {id : PeerId} {deeds : List Deed} {k : Nat} {e : ChannelEvent}
    (hk : (h.heardDuring id deeds)[k]? = some e) :
    ∃ before d rest, deeds = before ++ d :: rest ∧
      d.heard? (h.performAll before) id = some e ∧ (h.heardDuring id before).length = k := by
  induction deeds generalizing h k with
  | nil => simp [heardDuring] at hk
  | cons d rest ih =>
    rw [heardDuring] at hk
    cases hheard : d.heard? h id with
    | none =>
      rw [hheard] at hk
      obtain ⟨before, d', rest', hdeeds, hd', hlength⟩ := ih hk
      refine ⟨d :: before, d', rest', by rw [hdeeds]; rfl, hd', ?_⟩
      rw [heardDuring, hheard]
      exact hlength
    | some e' =>
      rw [hheard] at hk
      cases k with
      | zero =>
        have he : e' = e := by simpa using hk
        exact ⟨[], d, rest, rfl, he ▸ hheard, rfl⟩
      | succ k =>
        obtain ⟨before, d', rest', hdeeds, hd', hlength⟩ := ih (k := k) (by simpa using hk)
        refine ⟨d :: before, d', rest', by rw [hdeeds]; rfl, hd', ?_⟩
        rw [heardDuring, hheard, List.length_append, hlength]
        simp [Nat.add_comm]

/-- **A peer that is given an event is there and handles it.** -/
theorem perform_heard {h : Host} {id : PeerId} {d : Deed} {e : ChannelEvent}
    (hd : d.heard? h id = some e) :
    (h.peer? id).isSome ∧ ∃ env events, h.perform d = { h with events }.onEvent env id e := by
  cases d with
  | store a => cases hd
  | move m =>
    cases m with
    | takeEvent env =>
      simp only [Deed.heard?] at hd
      split at hd
      · next j e' rest hq =>
        split at hd
        · next hhere =>
          obtain ⟨rfl, hthere⟩ := hhere
          cases hd
          exact ⟨hthere, env, rest, by simp [perform, move, stepChannels?, hq]⟩
        · cases hd
      · cases hd
    | event env j e' =>
      simp only [Deed.heard?] at hd
      split at hd
      · next hhere =>
        obtain ⟨rfl, hthere⟩ := hhere
        cases hd
        exact ⟨hthere, env, h.events, rfl⟩
      · cases hd
    | openChannel | nameChannel | report | takeReport | channel | look | destroyPeer
    | destroyProfile | shutdown => cases hd

/-- A deed that leaves the end of a peer's channel alone, and invents no event of the peer. -/
def Deed.leaves (id : PeerId) : Deed → Bool
  | .move (.channel j _) => j ≠ id
  | .move (.event _ j _) => j ≠ id
  | _ => true

/-- **What a deed comes to for a peer.** -/
inductive Attends (h : Host) (id : PeerId) (d : Deed) : Prop
  | same (hafter : (h.perform d).channel? id = h.channel? id)
      (hqueued : (h.perform d).queued id = h.queued id) (hheard : d.heard? h id = none)
  | gone (hafter : (h.perform d).channel? id = none)
      (hqueued : (h.perform d).queued id = h.queued id) (hheard : d.heard? h id = none)
  /-- Messages that are no replies are handed to its channel. -/
  | told (e : ChannelEnd Empty) (ms : List Message) (hbefore : h.channel? id = some e)
      (hafter : (h.perform d).channel? id = some (e.queue ms))
      (hplain : ∀ m ∈ ms, m.reply = false)
      (hqueued : (h.perform d).queued id = h.queued id) (hheard : d.heard? h id = none)
  /-- The next of its events is handled after it is gone. -/
  | missed (event : ChannelEvent) (hbefore : h.channel? id = none)
      (hafter : (h.perform d).channel? id = none)
      (hqueued : h.queued id = event :: (h.perform d).queued id) (hheard : d.heard? h id = none)
  /-- It hears the next of its events.  All that is handed to its channel are replies to that. -/
  | heard (e : ChannelEnd Empty) (event : ChannelEvent) (replies : List Message)
      (hbefore : h.channel? id = some e)
      (hafter : (h.perform d).channel? id = some (e.queue replies) ∨
        (h.perform d).channel? id = none)
      (hreplies : ∀ r ∈ replies, ∃ m, event = .message m ∧ r.request = m.request)
      (hqueued : h.queued id = event :: (h.perform d).queued id)
      (hheard : d.heard? h id = some event)

/-! ## 2. What leaves a peer alone -/

variable {h : Host} {id : PeerId}

/-- The end of a peer leaves the channels of the others alone, and the queue. -/
theorem channel?_destroyPeer (h : Host) (j id : PeerId) :
    (h.destroyPeer j).2.channel? id = (if id = j then none else h.channel? id) ∧
      (h.destroyPeer j).2.events = h.events := by
  unfold destroyPeer
  split
  · refine ⟨?_, rfl⟩
    simp only [channel?, peer?, Table.get?_erase]
    split <;> rfl
  · next hnone =>
    refine ⟨?_, rfl⟩
    split
    · next heq => simp [channel?, heq, hnone]
    · rfl

/-- After the end of some peers, a channel is what it was or gone. -/
theorem channel?_destroyPeers (h : Host) (ids : List PeerId) (id : PeerId) :
    ((h.destroyPeers ids).channel? id = h.channel? id ∨ (h.destroyPeers ids).channel? id = none) ∧
      (h.destroyPeers ids).events = h.events := by
  induction ids generalizing h with
  | nil => exact ⟨.inl rfl, rfl⟩
  | cons j rest ih =>
    obtain ⟨hchannel, hevents⟩ := ih (h.destroyPeer j).2
    obtain ⟨hfirst, hsame⟩ := channel?_destroyPeer h j id
    refine ⟨?_, hevents.trans hsame⟩
    rcases hchannel with hchannel | hchannel
    · rw [hfirst] at hchannel
      split at hchannel
      · exact .inr hchannel
      · exact .inl hchannel
    · exact .inr hchannel

/-- The channel of a peer is what the peer was put in its place with. -/
theorem channel?_insert (h : Host) (j id : PeerId) (p : HostPeer Empty) :
    ({ h with peers := h.peers.insert j p } : Host).channel? id
      = if id = j then some p.channel else h.channel? id := by
  simp only [channel?, peer?, Table.get?_insert]
  split <;> rfl

/-- So it is after a shutdown. -/
theorem channel?_shutdown (h : Host) (id : PeerId) :
    (h.shutdown.channel? id = h.channel? id ∨ h.shutdown.channel? id = none) ∧
      h.shutdown.events = h.events := by
  unfold shutdown
  split
  · exact ⟨.inl rfl, rfl⟩
  · exact channel?_destroyPeers { h with stopped := true, watchdog := h.watchdog.shutdown.2 }
      h.peers.keys id

/-- A new channel leaves the queue alone. -/
theorem events_openChannel (h : Host) (env : Surroundings) (timeout : Nat) :
    (h.openChannel env timeout).2.events = h.events := by
  rcases openChannel_cases h env timeout with ⟨e, ho⟩ | ⟨_, e, ho⟩ | ⟨_, _, ho⟩ | ⟨_, _, ho⟩
  · rw [ho]
  · rw [ho]
  · rw [ho]
    exact (channel?_shutdown { h with nextPeer := h.nextPeer + 1 } h.nextId).2
  · rw [ho]
    rfl

/-- **A message leaves the queue alone**, whatever its peer asks of the host. -/
theorem events_receive (h : Host) (env : Surroundings) (j : PeerId) (m : Message) :
    (h.receive env j m).events = h.events := by
  cases hp : h.peer? j with
  | none => simp only [receive, hp]
  | some p =>
    rw [receive_eq hp]
    have hway := HostPeer.handles (services env) env.folderFailure p m (h.without j)
    show (HostPeer.handle (services env) env.folderFailure p m (h.without j)).state.events = _
    generalize HostPeer.handle (services env) env.folderFailure p m (h.without j) = t at hway
    cases hway with
    | refused | synced | cleared | failed | created | destroyed | routed => rfl
    | opened timeout _ s' _ _ hopen | notOpened timeout _ s' _ _ hopen =>
      rw [show s' = ((h.without j).openChannel env timeout.toNat).2 from
        congrArg Prod.snd hopen.symm]
      exact events_openChannel _ _ _

/-- So does every other event. -/
theorem events_onEvent (h : Host) (env : Surroundings) (j : PeerId) (e : ChannelEvent) :
    (h.onEvent env j e).events = h.events := by
  cases e with
  | connected pid =>
    simp only [onEvent, connect]
    split <;> rfl
  | message m => exact h.events_receive env j m
  | badMessage => rfl
  | failed => exact (channel?_destroyPeer h j j).2

/-- A new channel leaves the other ones alone. -/
theorem channel?_withChannel (hid : id.value < h.nextPeer) (env : Surroundings) (timeout : Nat) :
    (h.withChannel env timeout).channel? id = h.channel? id := by
  have hne : id ≠ h.nextId := by
    rintro rfl
    exact Nat.lt_irrefl _ hid
  simp [channel?, peer?, withChannel, hne]

/-- So does a request for one. -/
theorem channel?_request (hid : id.value < h.nextPeer) (env : Surroundings) (timeout : UInt32) :
    (h.openChannel env timeout.toNat).2.channel? id = h.channel? id := by
  rcases openChannel_request h env timeout with ⟨e, ho⟩ | ⟨_, e, ho⟩ | ⟨_, _, ho⟩
  · rw [ho]
  · rw [ho]
    rfl
  · rw [ho]
    exact channel?_withChannel hid env timeout.toNat

/-- So does the application that asks for one, unless the host breaks off. -/
theorem channel?_openChannel (hid : id.value < h.nextPeer) (env : Surroundings) (timeout : Nat) :
    (h.openChannel env timeout).2.channel? id = h.channel? id ∨
      (h.openChannel env timeout).2.channel? id = none := by
  rcases openChannel_cases h env timeout with ⟨e, ho⟩ | ⟨_, e, ho⟩ | ⟨_, _, ho⟩ | ⟨_, _, ho⟩
  all_goals rw [ho]
  · exact .inl rfl
  · exact .inl rfl
  · exact (channel?_shutdown { h with nextPeer := h.nextPeer + 1 } id).1
  · exact .inl (channel?_withChannel hid env timeout)

/-- **A message of another peer leaves a channel alone.** -/
theorem channel?_receive {j : PeerId} (hj : id ≠ j) (hid : id.value < h.nextPeer)
    (env : Surroundings) (m : Message) : (h.receive env j m).channel? id = h.channel? id := by
  cases hp : h.peer? j with
  | none => simp only [receive, hp]
  | some p =>
    rw [receive_eq hp]
    have hway := HostPeer.handles (services env) env.folderFailure p m (h.without j)
    have hwithout : (h.without j).channel? id = h.channel? id := by
      simp [channel?, peer?, without, hj]
    -- the peer that handles the message comes back beside the others
    have hback : ∀ {g : Host} (q : HostPeer Empty), g.channel? id = h.channel? id →
        (g.withPeer j q).channel? id = h.channel? id := fun q hchannel =>
      (channel?_insert _ j id q).trans ((if_neg hj).trans hchannel)
    generalize HostPeer.handle (services env) env.folderFailure p m (h.without j) = t at hway
    cases hway with
    | refused | synced | cleared | failed | created | destroyed | routed =>
      exact hback _ hwithout
    | opened timeout _ s' _ _ hopen | notOpened timeout _ s' _ _ hopen =>
      rw [show s' = ((h.without j).openChannel env timeout.toNat).2 from
        congrArg Prod.snd hopen.symm]
      exact hback _ ((channel?_request (h := h.without j) hid env timeout).trans hwithout)

/-- **An event of another peer leaves a channel alone.** -/
theorem channel?_onEvent {j : PeerId} (hj : id ≠ j) (hid : id.value < h.nextPeer)
    (env : Surroundings) (e : ChannelEvent) : (h.onEvent env j e).channel? id = h.channel? id := by
  cases e with
  | connected pid =>
    simp only [onEvent, connect]
    split
    · exact (channel?_insert h j id _).trans (if_neg hj)
    · rfl
  | message m => exact channel?_receive hj hid env m
  | badMessage reason => simp [onEvent, channel?, peer?, hj]
  | failed ending => exact (channel?_destroyPeer h j id).1.trans (if_neg hj)

/-! ## 3. What a peer hears -/

/-- **What a peer does about an event**: it hands its replies to its channel, or is gone. -/
theorem channel?_hears {p : HostPeer Empty} (hp : h.peer? id = some p) (env : Surroundings)
    (e : ChannelEvent) :
    ∃ replies, ((h.onEvent env id e).channel? id = some (p.channel.queue replies) ∨
        (h.onEvent env id e).channel? id = none) ∧
      ∀ r ∈ replies, ∃ m, e = .message m ∧ r.request = m.request := by
  have hget : h.peers.get? id = some p := hp
  cases e with
  | connected pid =>
    have hstep : h.onEvent env id (.connected pid) = { h with
        watchdog := (h.watchdog.markConnected id (ProcessHandle.watch pid)).2
        peers := h.peers.insert id (p.connected pid) } := by
      simp only [onEvent, connect, hp]
    rw [hstep]
    refine ⟨[], .inl ?_, by simp⟩
    refine (channel?_insert h id id _).trans ((if_pos rfl).trans ?_)
    rw [ChannelEnd.queue_nil]
    rfl
  | badMessage reason =>
    refine ⟨[], .inl ?_, by simp⟩
    simp [onEvent, channel?, peer?, hget]
    rfl
  | failed ending =>
    exact ⟨[], .inr ((channel?_destroyPeer h id id).1.trans (if_pos rfl)), by simp⟩
  | message m =>
    refine ⟨(replyFor m (HostPeer.handle (services env) env.folderFailure p m
      (h.without id)).outcome).toList, .inl ?_, ?_⟩
    · rw [onEvent, receive_eq hp]
      refine (channel?_insert _ id id _).trans ((if_pos rfl).trans ?_)
      simp only [HostPeer.receive, HostPeer.channel_pay, HostPeer.channel_settle,
        HostPeer.channel_handle]
    · intro r hr
      refine ⟨m, rfl, ?_⟩
      rw [Option.mem_toList] at hr
      unfold replyFor at hr
      split at hr
      · split at hr <;> cases hr <;> rfl
      · cases hr

/-! ## 4. Every deed -/

/-- A deed that leaves a channel alone, and the queue, comes to nothing for its peer. -/
theorem attends_of_same {d : Deed} (hchannel : (h.perform d).channel? id = h.channel? id)
    (hevents : (h.perform d).events = h.events) (hheard : d.heard? h id = none) :
    Attends h id d :=
  .same hchannel (by rw [queued, hevents]; rfl) hheard

/-- A deed that leaves the queue alone, and a channel unless it ends its peer, comes to nothing or to
that end. -/
theorem attends_of_ended {d : Deed} (hchannel : (h.perform d).channel? id = h.channel? id ∨
      (h.perform d).channel? id = none)
    (hevents : (h.perform d).events = h.events) (hheard : d.heard? h id = none) :
    Attends h id d := by
  rcases hchannel with hchannel | hchannel
  · exact attends_of_same hchannel hevents hheard
  · exact .gone hchannel (by rw [queued, hevents]; rfl) hheard

/-- The end of some peer is that of this one, or comes to nothing for it. -/
theorem attends_destroyPeer {d : Deed} {j : PeerId}
    (hd : ∃ reports, h.perform d = ({ h with reports }.destroyPeer j).2)
    (hheard : d.heard? h id = none) : Attends h id d := by
  obtain ⟨reports, hd⟩ := hd
  obtain ⟨hchannel, hevents⟩ := channel?_destroyPeer { h with reports } j id
  rw [← hd] at hchannel hevents
  by_cases hj : id = j
  · rw [if_pos hj] at hchannel
    exact .gone hchannel (by rw [queued, hevents]; rfl) hheard
  · rw [if_neg hj] at hchannel
    exact attends_of_same hchannel hevents hheard

/-- The next event of the queue is one of the peer, which hears it unless it is gone, or comes to
nothing for it. -/
theorem attends_takeEvent (hid : id.value < h.nextPeer) (env : Surroundings) :
    Attends h id (.move (.takeEvent env)) := by
  cases hq : h.events with
  | nil =>
    have hidle : h.perform (.move (.takeEvent env)) = h := by
      simp [perform, move, stepChannels?, hq]
    refine attends_of_same ?_ ?_ ?_
    · rw [hidle]
    · rw [hidle]
    · simp only [Deed.heard?, hq]
  | cons x rest =>
    obtain ⟨j, e⟩ := x
    have hstep : h.perform (.move (.takeEvent env))
        = { h with events := rest }.onEvent env j e := by
      simp [perform, move, stepChannels?, hq]
    have hevents : (h.perform (.move (.takeEvent env))).events = rest := by
      rw [hstep]
      exact events_onEvent _ env j e
    by_cases hj : id = j
    · subst hj
      have hqueued : ∀ {g : Host}, g.events = rest → h.queued id = e :: g.queued id := by
        intro g hg
        simp [queued, hq, hg]
      cases hp : h.peer? id with
      | none =>
        have hgone : ({ h with events := rest } : Host).peer? id = none := hp
        have hsame : { h with events := rest }.onEvent env id e = { h with events := rest } := by
          cases e with
          | connected | message | failed =>
            simp only [onEvent, connect, receive, destroyPeer, hgone]
          | badMessage =>
            have hnone : h.peers.get? id = none := hp
            simp only [onEvent, Table.adjust_of_none hnone]
        have hnone : h.channel? id = none := by simp [channel?, hp]
        refine .missed e hnone ?_ ?_ ?_
        · rw [hstep, hsame]
          exact hnone
        · exact hqueued (by rw [hstep, hsame])
        · simp [Deed.heard?, hq, hp]
      | some p =>
        have hlive : ({ h with events := rest } : Host).peer? id = some p := hp
        obtain ⟨replies, hafter, hreplies⟩ := channel?_hears hlive env e
        rw [← hstep] at hafter
        refine .heard p.channel e replies (by simp [channel?, hp]) hafter hreplies
          (hqueued hevents) ?_
        simp [Deed.heard?, hq, hp]
    · have hchannel := channel?_onEvent (h := { h with events := rest }) hj hid env e
      rw [← hstep] at hchannel
      refine .same hchannel ?_ ?_
      · rw [queued, hevents, queued, hq, List.filter_cons_of_neg (by simpa using Ne.symm hj)]
      · simp [Deed.heard?, hq, Ne.symm hj]

/-- **Every deed that does not speak for a peer comes to one of these for it.** -/
theorem attends (hid : id.value < h.nextPeer) {d : Deed} (hd : d.leaves id = true) :
    Attends h id d := by
  cases d with
  | store a => exact attends_of_same rfl rfl rfl
  | move m =>
    cases m with
    | openChannel env timeout =>
      exact attends_of_ended (channel?_openChannel hid env timeout)
        (h.events_openChannel env timeout) rfl
    | nameChannel j name =>
      cases hp : h.peer? j with
      | none =>
        have hidle : h.perform (.move (.nameChannel j name)) = h := by
          simp [perform, move, nameChannel, hp]
        refine attends_of_same ?_ ?_ rfl <;> rw [hidle]
      | some p =>
        have hstep : h.perform (.move (.nameChannel j name))
            = { h with peers := h.peers.insert j (p.nameChannel name).2 } := by
          simp [perform, move, nameChannel, hp]
        by_cases hj : id = j
        · subst hj
          refine .told p.channel [(ClientCommand.nameChannel name).toMessage] ?_ ?_ ?_ ?_ rfl
          · simp [channel?, hp]
          · rw [hstep, channel?_insert, if_pos rfl, ← ChannelEnd.send_eq_queue]
            rfl
          · intro m hm
            rw [List.mem_singleton.mp hm]
            rfl
          · rw [hstep]
            rfl
        · refine attends_of_same ?_ ?_ rfl
          · rw [hstep, channel?_insert, if_neg hj]
          · rw [hstep]
    | event env j e =>
      have hj : id ≠ j := fun hsame => by simp [Deed.leaves, hsame] at hd
      exact attends_of_same (channel?_onEvent hj hid env e) (h.events_onEvent env j e)
        (by simp [Deed.heard?, hj.symm])
    | takeEvent env => exact attends_takeEvent hid env
    | report r => exact attends_destroyPeer ⟨h.reports, rfl⟩ rfl
    | takeReport =>
      cases hq : h.reports with
      | nil =>
        have hidle : h.perform (.move .takeReport) = h := by
          simp [perform, move, stepWatchdog?, hq]
        refine attends_of_same ?_ ?_ rfl <;> rw [hidle]
      | cons r rest =>
        refine attends_destroyPeer (j := r.peer) ⟨rest, ?_⟩ rfl
        simp [perform, move, stepWatchdog?, hq, onReport]
    | channel j step =>
      have hj : id ≠ j := fun hsame => by simp [Deed.leaves, hsame] at hd
      cases hp : h.peer? j with
      | none =>
        have hidle : h.perform (.move (.channel j step)) = h := by
          simp [perform, move, onChannel, hp]
        refine attends_of_same ?_ ?_ rfl <;> rw [hidle]
      | some p =>
        have hstep : h.perform (.move (.channel j step))
            = { h with
                peers := h.peers.insert j { p with channel := (step p.channel).2 }
                events := h.events ++ (step p.channel).1.events.map fun e => (j, e) } := by
          simp [perform, move, onChannel, hp]
        have hothers : ((step p.channel).1.events.map fun e => (j, e)).filter (·.1 = id) = [] := by
          rw [List.filter_eq_nil_iff]
          intro x hx
          obtain ⟨e, -, rfl⟩ := List.mem_map.mp hx
          simpa using hj.symm
        refine .same ?_ ?_ rfl
        · rw [hstep]
          simp [channel?, peer?, hj]
        · rw [hstep, queued, List.filter_append, hothers, List.append_nil]
          rfl
    | look now answers => exact attends_of_same rfl rfl rfl
    | destroyPeer j => exact attends_destroyPeer ⟨h.reports, rfl⟩ rfl
    | destroyProfile j =>
      refine attends_of_same ?_ ?_ rfl <;> simp only [perform, move, destroyProfile] <;>
        split <;> rfl
    | shutdown =>
      obtain ⟨hchannel, hevents⟩ := channel?_shutdown h id
      exact attends_of_ended hchannel hevents rfl

/-! ## 5. Ids that were given out -/

/-- No id that was given out is given out again. -/
theorem Change.nextPeer_le {h' : Host} (hc : Change h h') : h.nextPeer ≤ h'.nextPeer := by
  cases hc with
  | usedUp | opened => exact Nat.le_succ _
  | reported r rest =>
    unfold destroyPeer
    split <;> exact Nat.le_refl _
  | _ => exact Nat.le_refl _

/-- So it is with every deed. -/
theorem nextPeer_le_perform (hn : h.Numbered) (d : Deed) : h.nextPeer ≤ (h.perform d).nextPeer := by
  cases d with
  | store a => exact Nat.le_refl _
  | move m =>
    exact ((move_changes hn m).keep (I := fun g => h.nextPeer ≤ g.nextPeer)
      (fun _ _ _ hc hle => Nat.le_trans hle hc.nextPeer_le) hn (Nat.le_refl _)).2

/-! ## 6. Peers that await their clients -/

/-- **A peer awaits its client**: its channel has been made, and nothing has happened there. -/
structure Awaits (h : Host) (id : PeerId) : Prop where
  listening : ∃ name, h.channel? id = some (ChannelEnd.listening name)
  quiet : h.queued id = []

/-- Who has no events in a queue has none in a part of it. -/
theorem queued_of_suffix {g : Host} (hsuffix : g.events <:+ h.events) (hq : h.queued id = []) :
    g.queued id = [] := by
  obtain ⟨front, hfront⟩ := hsuffix
  rw [queued, ← hfront, List.filter_append, List.map_append] at hq
  exact (List.append_eq_nil_iff.mp hq).2

/-- **Nobody queues events for a peer that is not there yet.** -/
theorem queued_perform (hn : h.Numbered) (hid : h.nextPeer ≤ id.value) (hq : h.queued id = [])
    (d : Deed) : (h.perform d).queued id = [] := by
  have hsame : ∀ {g : Host}, g.events = h.events → g.queued id = [] := fun hevents =>
    queued_of_suffix (hevents ▸ List.suffix_refl _) hq
  cases d with
  | store a => exact hq
  | move m =>
    cases m with
    | openChannel env timeout => exact hsame (h.events_openChannel env timeout)
    | nameChannel j name =>
      refine hsame ?_
      simp only [perform, move, nameChannel]
      split <;> rfl
    | event env j e => exact hsame (h.events_onEvent env j e)
    | takeEvent env =>
      cases hevents : h.events with
      | nil =>
        refine hsame ?_
        simp only [perform, move, stepChannels?, hevents, Option.getD_none]
      | cons x rest =>
        refine queued_of_suffix ?_ hq
        simp only [perform, move, stepChannels?, hevents, Option.getD_some, events_onEvent]
        exact List.suffix_cons x rest
    | report r => exact hsame (channel?_destroyPeer h r.peer id).2
    | takeReport =>
      refine hsame ?_
      simp only [perform, move, stepWatchdog?]
      split
      · next r rest _ => exact (channel?_destroyPeer { h with reports := rest } r.peer id).2
      · rfl
    | channel j step =>
      simp only [perform, move, onChannel]
      split
      · next p hp =>
        have hj : j ≠ id := fun hsame => Nat.not_lt.mpr hid (hsame ▸ (hn j p hp).2)
        have hothers : ((step p.channel).1.events.map fun e => (j, e)).filter (·.1 = id) = [] := by
          rw [List.filter_eq_nil_iff]
          intro x hx
          obtain ⟨e, -, rfl⟩ := List.mem_map.mp hx
          simpa using hj
        simp only [queued, List.filter_append, hothers, List.append_nil]
        exact hq
      · exact hq
    | look now answers => exact hsame rfl
    | destroyPeer j => exact hsame (channel?_destroyPeer h j id).2
    | destroyProfile j =>
      refine hsame ?_
      simp only [perform, move, destroyProfile]
      split <;> rfl
    | shutdown => exact hsame (channel?_shutdown h id).2

/-- So it is in every host, whatever was done with it. -/
theorem queued_after {config : HostConfig} {deeds : List Deed}
    (hid : (after config deeds).nextPeer ≤ id.value) : (after config deeds).queued id = [] := by
  induction deeds using List.reverseRecOn with
  | nil => rfl
  | append_singleton deeds d ih =>
    have hn := numbered_after config deeds
    rw [after_snoc] at hid ⊢
    have hbefore := Nat.le_trans (nextPeer_le_perform hn d) hid
    exact queued_perform hn hbefore (ih hbefore) d

/-- **The peer of a channel that was just made awaits its client.** -/
theorem awaits_openChannel {config : HostConfig} {deeds : List Deed} {env : Surroundings}
    {timeout : Nat} {o : OpenedChannel} {h' : Host}
    (ho : (after config deeds).openChannel env timeout = (some (.ok o), h')) :
    (after config (deeds ++ [.move (.openChannel env timeout)])).Awaits o.peer := by
  rw [after_snoc]
  have hafter : (after config deeds).perform (.move (.openChannel env timeout)) = h' :=
    congrArg Prod.snd ho
  have hquiet : (after config deeds).queued (after config deeds).nextId = [] :=
    queued_after (Nat.le_refl _)
  rw [hafter]
  obtain ⟨-, -, rfl, rfl⟩ := openChannel_made ho
  refine ⟨⟨ChannelName.make env.nonce env.socket, ?_⟩, hquiet⟩
  simp [channel?, peer?, withChannel, nextOpened, freshPeer]

end Host

end ControlPlane
