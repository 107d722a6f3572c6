/-
# The client's side of a dialogue

A client that writes to its channel only through its handles and through what it asks of its host
itself.  Beside the peer and its handles stands a record of everything that was demanded, in its
order; what of it the channel takes is a question of its own.

* `ClientSide.step`: one operation of the client;
* `ClientSide.change_step`: a demand is made, an id is taken, or nothing is said;
* `Proper`: ids, handles and demands fit together;
* `Proper.deal`: every demand keeps it so.

An id is taken before its profile is demanded and never again, so a lifetime cannot begin twice.
A handle is consumed when it is destroyed or dropped, so a lifetime cannot end twice.
-/
import Mathlib.Data.List.Nodup
import ControlPlane.Proofs.Channel.Turns
import ControlPlane.Proofs.Dialogue.Demand
import ControlPlane.Profile.Proxy

namespace ControlPlane

/-! ## 1. Channels -/

namespace ChannelEnd

variable {τ : Type}

/-- **What the peer has handed over stays as it is**, or the end is over and nothing of it is
left. -/
def Keeps (e e' : ChannelEnd τ) : Prop :=
  (e'.commands = e.commands ∧ e'.isClosed = e.isClosed) ∨
    (e'.commands = [] ∧ e'.isClosed = true)

/-- **It stays as it is whatever happens at the end**, unless the channel ends or something is handed
over or written. -/
theorem keeps_undergo (e : ChannelEnd τ) {t : EndTurn τ} (hsilent : t.speaks = false) :
    e.Keeps (e.undergo t).2 := by
  have houtcome := e.outcome_undergo t
  generalize e.undergo t = x at houtcome ⊢
  cases houtcome with
  | idle | arrived | inputOver => exact .inl ⟨rfl, rfl⟩
  | accepted _ hphase | greeted _ _ _ hphase => exact .inl ⟨rfl, by simp [isClosed, hphase]⟩
  | taken payload rest =>
    exact .inl ⟨(takeFrame_keeps _ payload).2.1, by simp [isClosed, phase_takeFrame]⟩
  | failed | dropped => exact .inr ⟨rfl, rfl⟩
  | queued t _ hcommand | late t _ hcommand =>
    cases t with
    | send | request => cases hsilent
    | _ => cases hcommand
  | wrote | asked => cases hsilent

end ChannelEnd

/-- **A command writes a demand.**  Only a demand that waits for a reply is written as a request. -/
def Command.Writes {τ : Type} (c : Command τ) (d : Demand) : Prop :=
  c.message = d.toMessage ∧ (c.ticket?.isSome = true → d.toMessage.sync = true)

/-- A message writes the demand that it is the message of. -/
theorem Command.writes_send {τ : Type} (d : Demand) :
    (Command.send d.toMessage : Command τ).Writes d :=
  ⟨rfl, nofun⟩

/-- A request writes a demand that waits for a reply. -/
theorem Command.writes_request {τ : Type} {d : Demand} (hsync : d.toMessage.sync = true)
    (ticket : τ) : (Command.request d.toMessage ticket).Writes d :=
  ⟨rfl, fun _ => hsync⟩

/-! ## 2. Ids and messages -/

/-- What is known of the next id of a block. -/
theorem IdBlock.take?_spec {ids ids' : IdBlock} {id : RoutingId} (h : ids.take? = some (id, ids')) :
    id.value = ids.next ∧ ids.next < ids.stop ∧ ids'.stop = ids.stop ∧ ids.next < ids'.next := by
  unfold take? at h
  split at h
  next hlt =>
    simp only [Option.some.injEq, Prod.mk.injEq] at h
    obtain ⟨rfl, rfl⟩ := h
    refine ⟨rfl, hlt, rfl, ?_⟩
    have hstop := ids.stop.toNat_lt
    rw [UInt32.lt_iff_toNat_lt] at hlt ⊢
    rw [UInt32.toNat_add, Nat.mod_eq_of_lt (by simp; omega)]
    simp
  next => cases h

/-- A message that has to be delivered joins the queue. -/
theorem ClientPeer.deliverOrFail_eq {A τ : Type} (p : ClientPeer A τ) (m : Message) :
    p.deliverOrFail m = (if p.channel.isClosed then .error .channelClosed else .ok (),
      { p with channel := p.channel.enqueue [.send m] }) := by
  unfold deliverOrFail send
  rw [ChannelEnd.send_eq_enqueue]
  cases p.channel.isClosed <;> rfl

/-! ## 3. Operations -/

/-- **A client**, the handles it has neither destroyed nor dropped, and all it has demanded. -/
structure ClientSide (A τ : Type) where
  peer : ClientPeer A τ
  handles : List ProfileHandle := []
  demands : List Demand := []

/-- What a client does. -/
inductive ClientAct (A τ : Type) where
  | create (folder : String) (flags : ProfileFlags)
  | update (h : ProfileHandle) (u : ProfileUpdate)
  | destroy (h : ProfileHandle)
  | drop (h : ProfileHandle)
  | sync (final : Bool) (ticket : τ)
  | openChannel (timeout : Nat) (ticket : τ)
  | clearWebCache
  /-- An id is taken for something else. -/
  | takeId
  /-- Something happens at the client's end of the channel, where nothing is handed over or
  written. -/
  | channel (t : EndTurn τ)
  /-- Anything that neither hands something to the channel nor takes an id. -/
  | other (f : ClientPeer A τ → ClientPeer A τ)

namespace ClientSide

variable {A τ : Type}

/-- What an operation demands of the host. -/
def asks (c : ClientSide A τ) : ClientAct A τ → List Demand
  | .create folder flags =>
    c.peer.ids.take?.toList.map fun x =>
      .profile (.create ⟨x.1, folder, flags.diskCache, flags.cookies⟩)
  | .update h u =>
    if h ∈ c.handles ∧ (ProfileHandle.paired u).isOk then [.update h.route u] else []
  | .destroy h | .drop h => if h ∈ c.handles then [.profile (.destroy h.route)] else []
  | .sync final _ => [.command (.sync final)]
  | .openChannel timeout _ =>
    [.command (.openChannel (UInt32.ofNat (min timeout ClientPeer.maxTimeout)))]
  | .clearWebCache => [.command .clearWebCache]
  | .takeId | .channel _ | .other _ => []

/-- What an operation makes of the peer and the handles.  Only handles that are there are used,
and a handle that is destroyed is dropped behind that. -/
def move (c : ClientSide A τ) : ClientAct A τ → ClientPeer A τ × List ProfileHandle
  | .create folder flags =>
    match ProfileHandle.create c.peer folder flags with
    | (.ok h, p) => (p, c.handles ++ [h])
    | (.error _, p) => (p, c.handles)
  | .update h u => (if h ∈ c.handles then (h.update c.peer u).2 else c.peer, c.handles)
  | .destroy h =>
    if h ∈ c.handles then
      ({ h with destroyed := true }.drop (h.destroy c.peer).2, c.handles.erase h)
    else (c.peer, c.handles)
  | .drop h =>
    if h ∈ c.handles then (h.drop c.peer, c.handles.erase h) else (c.peer, c.handles)
  | .sync final ticket => ((c.peer.sync final ticket).2, c.handles)
  | .openChannel timeout ticket => ((c.peer.openChannel timeout ticket).2, c.handles)
  | .clearWebCache => (c.peer.clearWebCache.2, c.handles)
  | .takeId => (c.peer.nextId.2, c.handles)
  | .channel t =>
    if t.speaks then (c.peer, c.handles)
    else
      let (out, channel) := c.peer.channel.undergo t
      ({ c.peer with channel, inbox := c.peer.inbox ++ out.events }, c.handles)
  | .other f => ({ f c.peer with channel := c.peer.channel, ids := c.peer.ids }, c.handles)

/-- **An operation of the client.** -/
def step (c : ClientSide A τ) (a : ClientAct A τ) : ClientSide A τ where
  peer := (c.move a).1
  handles := (c.move a).2
  demands := c.demands ++ c.asks a

/-! ## 4. What an operation changes -/

/-- **A demand, and what it makes of ids and handles.**  A handle on a new profile is only given
out if the channel has taken the demand. -/
inductive Deal (ids : IdBlock) (hs : List ProfileHandle) (taken : Bool) :
    Demand → IdBlock → List ProfileHandle → Prop
  | command (x : HostCommand) : Deal ids hs taken (.command x) ids hs
  | create (r : ProfileRequest) (ids' : IdBlock) (htake : ids.take? = some (r.route, ids')) :
      Deal ids hs taken (.profile (.create r)) ids'
        (if taken then hs ++ [{ route := r.route }] else hs)
  | update (h : ProfileHandle) (u : ProfileUpdate) (hheld : h ∈ hs)
      (hpaired : ProfileHandle.paired u = .ok ()) : Deal ids hs taken (.update h.route u) ids hs
  | release (h : ProfileHandle) (hheld : h ∈ hs) :
      Deal ids hs taken (.profile (.destroy h.route)) ids (hs.erase h)

/-- A demand leaves every handle but the one whose profile it gives back. -/
theorem Deal.keeps {ids ids' : IdBlock} {hs hs' : List ProfileHandle} {taken : Bool} {d : Demand}
    (hdeal : Deal ids hs taken d ids' hs') {x : ProfileHandle} (hx : x ∈ hs)
    (hd : d ≠ .profile (.destroy x.route)) : x ∈ hs' := by
  cases hdeal with
  | command | update => exact hx
  | create r =>
    cases taken with
    | true => exact List.mem_append_left _ hx
    | false => exact hx
  | release h =>
    have hother : x ≠ h := fun hsame => hd (by rw [hsame])
    exact (List.mem_erase_of_ne hother).2 hx

/-- A handle is given out on a profile whose demand the channel has taken. -/
theorem Deal.given {ids ids' : IdBlock} {hs hs' : List ProfileHandle} {d : Demand}
    (hdeal : Deal ids hs true d ids' hs') {id : RoutingId} (hid : d.created? = some id) :
    ∃ h ∈ hs', h.route = id := by
  cases hdeal with
  | create r =>
    exact ⟨{ route := r.route }, by simp, Option.some.inj hid⟩
  | command | update | release => cases hid

/-- **The ways in which an operation changes the client's side.** -/
inductive Change (c : ClientSide A τ) : ClientSide A τ → Prop
  /-- Nothing is said. -/
  | quiet (p : ClientPeer A τ) (hids : p.ids = c.peer.ids)
      (hkeeps : c.peer.channel.Keeps p.channel) : Change c { c with peer := p }
  /-- An id is taken. -/
  | took (p : ClientPeer A τ) (id : RoutingId) (htake : c.peer.ids.take? = some (id, p.ids))
      (hchannel : p.channel = c.peer.channel) : Change c { c with peer := p }
  /-- A demand is made, and handed to the channel. -/
  | asked (p : ClientPeer A τ) (hs : List ProfileHandle) (d : Demand) (x : Command τ)
      (hdeal : Deal c.peer.ids c.handles (!c.peer.channel.isClosed) d p.ids hs)
      (hwrites : x.Writes d) (hchannel : p.channel = c.peer.channel.enqueue [x]) :
      Change c ⟨p, hs, c.demands ++ [d]⟩

/-- An operation that demands nothing, and leaves the queue of the channel as it is. -/
theorem change_of_quiet {c : ClientSide A τ} {a : ClientAct A τ} {p : ClientPeer A τ}
    (hasks : c.asks a = []) (hmove : c.move a = (p, c.handles)) (hids : p.ids = c.peer.ids)
    (hkeeps : c.peer.channel.Keeps p.channel) : c.Change (c.step a) := by
  have hstep : c.step a = { c with peer := p } := by simp [step, hasks, hmove]
  rw [hstep]
  exact .quiet p hids hkeeps

/-- An operation that does nothing. -/
theorem change_of_idle {c : ClientSide A τ} {a : ClientAct A τ} (hasks : c.asks a = [])
    (hmove : c.move a = (c.peer, c.handles)) : c.Change (c.step a) :=
  change_of_quiet hasks hmove rfl (.inl ⟨rfl, rfl⟩)

/-- An operation that makes a demand. -/
theorem change_of_asked {c : ClientSide A τ} {a : ClientAct A τ} {d : Demand} {x : Command τ}
    {p : ClientPeer A τ} {hs : List ProfileHandle} (hasks : c.asks a = [d])
    (hmove : c.move a = (p, hs))
    (hdeal : Deal c.peer.ids c.handles (!c.peer.channel.isClosed) d p.ids hs)
    (hwrites : x.Writes d) (hchannel : p.channel = c.peer.channel.enqueue [x]) :
    c.Change (c.step a) := by
  have hstep : c.step a = ⟨p, hs, c.demands ++ [d]⟩ := by simp [step, hasks, hmove]
  rw [hstep]
  exact .asked p hs d x hdeal hwrites hchannel

/-- An operation that sends the message of a demand. -/
theorem change_of_sent {c : ClientSide A τ} {a : ClientAct A τ} {d : Demand}
    {hs : List ProfileHandle} (hasks : c.asks a = [d])
    (hmove : c.move a = ((c.peer.deliverOrFail d.toMessage).2, hs))
    (hdeal : Deal c.peer.ids c.handles (!c.peer.channel.isClosed) d c.peer.ids hs) :
    c.Change (c.step a) := by
  rw [ClientPeer.deliverOrFail_eq] at hmove
  exact change_of_asked hasks hmove hdeal (Command.writes_send d) rfl

/-- A profile is demanded under the next id, if there is one. -/
theorem change_create (c : ClientSide A τ) (folder : String) (flags : ProfileFlags) :
    c.Change (c.step (.create folder flags)) := by
  cases htake : c.peer.ids.take? with
  | none =>
    refine change_of_idle (by simp [asks, htake]) ?_
    simp [move, ProfileHandle.create, ClientPeer.nextId, htake]
  | some x =>
    obtain ⟨id, ids⟩ := x
    let r : ProfileRequest := ⟨id, folder, flags.diskCache, flags.cookies⟩
    have hdeal : Deal c.peer.ids c.handles (!c.peer.channel.isClosed) (.profile (.create r)) ids
        _ := .create r ids htake
    refine change_of_asked (x := .send (Demand.profile (.create r)).toMessage)
      (p := { c.peer with
        ids, channel := c.peer.channel.enqueue [.send (Demand.profile (.create r)).toMessage] })
      (by simp [asks, htake, r]) ?_ hdeal (Command.writes_send _) rfl
    simp only [move, ProfileHandle.create, ClientPeer.nextId, htake, ClientPeer.deliverOrFail_eq]
    cases c.peer.channel.isClosed <;> rfl

/-- A setting is changed through a handle, if its lists come in pairs. -/
theorem change_update (c : ClientSide A τ) (h : ProfileHandle) (u : ProfileUpdate) :
    c.Change (c.step (.update h u)) := by
  by_cases hheld : h ∈ c.handles
  · cases hpaired : ProfileHandle.paired u with
    | error e =>
      refine change_of_idle (by simp [asks, hpaired, Except.isOk, Except.toBool]) ?_
      simp [move, hheld, ProfileHandle.update, hpaired]
    | ok x =>
      refine change_of_sent (by simp [asks, hheld, hpaired, Except.isOk, Except.toBool]) ?_
        (.update h u hheld hpaired)
      simp [move, hheld, ProfileHandle.update, hpaired, Demand.toMessage]
  · exact change_of_idle (by simp [asks, hheld]) (by simp [move, hheld])

/-- **Every operation is one of the changes**, as long as no handle that is there has been
destroyed before. -/
theorem change_step {c : ClientSide A τ} (hlive : ∀ h ∈ c.handles, h.destroyed = false)
    (a : ClientAct A τ) : c.Change (c.step a) := by
  cases a with
  | create folder flags => exact c.change_create folder flags
  | update h u => exact c.change_update h u
  | destroy h =>
    by_cases hheld : h ∈ c.handles
    · refine change_of_sent (by simp [asks, hheld]) ?_ (.release h hheld)
      simp [move, hheld, ProfileHandle.destroy, ProfileHandle.drop, Demand.toMessage]
    · exact change_of_idle (by simp [asks, hheld]) (by simp [move, hheld])
  | drop h =>
    by_cases hheld : h ∈ c.handles
    · refine change_of_sent (by simp [asks, hheld]) ?_ (.release h hheld)
      simp [move, hheld, ProfileHandle.destroy, ProfileHandle.drop, hlive h hheld,
        Demand.toMessage]
    · exact change_of_idle (by simp [asks, hheld]) (by simp [move, hheld])
  | sync final ticket =>
    exact change_of_asked rfl rfl (.command _) (Command.writes_request rfl ticket)
      (ChannelEnd.request_eq_enqueue ..)
  | openChannel timeout ticket =>
    exact change_of_asked rfl rfl (.command _) (Command.writes_request rfl ticket)
      (ChannelEnd.request_eq_enqueue ..)
  | clearWebCache => exact change_of_sent rfl rfl (.command _)
  | takeId =>
    cases htake : c.peer.ids.take? with
    | none => exact change_of_idle rfl (by simp [move, ClientPeer.nextId, htake])
    | some x =>
      have hstep : c.step .takeId = { c with peer := { c.peer with ids := x.2 } } := by
        simp [step, asks, move, ClientPeer.nextId, htake]
      rw [hstep]
      exact .took _ x.1 htake rfl
  | channel t =>
    cases hspeaks : t.speaks with
    | true => exact change_of_idle rfl (by simp [move, hspeaks])
    | false =>
      refine change_of_quiet (p := { c.peer with
        channel := (c.peer.channel.undergo t).2
        inbox := c.peer.inbox ++ (c.peer.channel.undergo t).1.events }) rfl ?_ rfl
        (ChannelEnd.keeps_undergo _ hspeaks)
      simp [move, hspeaks]
  | other f => exact change_of_quiet rfl rfl rfl (.inl ⟨rfl, rfl⟩)

/-! ## 5. What fits together -/

/-- **Ids, handles and demands fit together.** -/
structure Proper (ids : IdBlock) (hs : List ProfileHandle) (ds : List Demand) : Prop where
  /-- The ids are those of the client's block. -/
  stop : ids.stop = RoutingId.hostBase.value
  /-- No id is used for two profiles. -/
  fresh : (created ds).Nodup
  /-- The ids of profiles lie in the client's block. -/
  client : ∀ id ∈ created ds, id.isClientAllocated = true
  /-- They will not be taken again. -/
  used : ∀ id ∈ created ds, id.value < ids.next
  lives : ∀ id, Lifetime id (about id ds)
  paired : ∀ id u, .update id u ∈ ds → ProfileHandle.paired u = .ok ()
  /-- The profile of a handle has been demanded, and not given back. -/
  held : ∀ h ∈ hs, h.destroyed = false ∧ h.route ∈ created ds ∧
    .profile (.destroy h.route) ∉ ds
  /-- No two handles share an id. -/
  distinct : (hs.map (·.route)).Nodup

namespace Proper

variable {ids ids' : IdBlock} {hs : List ProfileHandle} {ds : List Demand}

/-- Nothing has been demanded yet. -/
theorem start : Proper .client [] [] where
  stop := rfl
  fresh := List.nodup_nil
  client := by simp [created]
  used := by simp [created]
  lives := .nil
  paired := by simp
  held := by simp
  distinct := List.nodup_nil

/-- An id is taken. -/
theorem took (h : Proper ids hs ds) {id : RoutingId} (htake : ids.take? = some (id, ids')) :
    Proper ids' hs ds := by
  obtain ⟨-, -, hstop, hnext⟩ := IdBlock.take?_spec htake
  refine { h with stop := hstop.trans h.stop, used := ?_ }
  intro i hi
  exact UInt32.lt_trans (h.used i hi) hnext

/-- A handle may be missing. -/
theorem fewer (h : Proper ids hs ds) {hs' : List ProfileHandle} (hsub : hs'.Sublist hs) :
    Proper ids hs' ds := by
  refine { h with held := ?_, distinct := h.distinct.sublist (hsub.map _) }
  intro x hx
  exact h.held x (hsub.subset hx)

/-- **A command to the host is demanded.** -/
theorem command (h : Proper ids hs ds) (x : HostCommand) : Proper ids hs (ds ++ [.command x]) := by
  have hcreated : created (ds ++ [.command x]) = created ds := by
    simp [created, Demand.created?]
  refine
    { stop := h.stop
      fresh := hcreated ▸ h.fresh
      client := hcreated ▸ h.client
      used := hcreated ▸ h.used
      lives := ?_, paired := ?_, held := ?_
      distinct := h.distinct }
  · intro id
    simpa [about, Demand.id?] using h.lives id
  · intro id u hu
    exact h.paired id u (by simpa using hu)
  · intro x hx
    simpa [hcreated] using h.held x hx

/-- **A profile is demanded** under the next id. -/
theorem create (h : Proper ids hs ds) {r : ProfileRequest}
    (htake : ids.take? = some (r.route, ids')) :
    Proper ids' (hs ++ [{ route := r.route }]) (ds ++ [.profile (.create r)]) := by
  obtain ⟨hid, hlt, hstop, hnext⟩ := IdBlock.take?_spec htake
  have hcreated : created (ds ++ [.profile (.create r)]) = created ds ++ [r.route] := by
    simp [created, Demand.created?]
  -- nothing has been said about the id so far
  have hfresh : r.route ∉ created ds := fun hused =>
    UInt32.lt_irrefl _ (hid ▸ h.used _ hused)
  have hsilent : ∀ d ∈ ds, d.id? ≠ some r.route := fun d hd hid =>
    hfresh ((h.lives _).mem_created hd hid)
  have hclient : r.route.isClientAllocated = true := by
    simpa [RoutingId.isClientAllocated, hid, h.stop] using hlt
  refine
    { stop := hstop.trans h.stop
      fresh := ?_, client := ?_, used := ?_, lives := ?_, paired := ?_, held := ?_
      distinct := ?_ }
  · rw [hcreated]
    exact h.fresh.append (List.nodup_singleton _) (by simpa using hfresh)
  · intro id hmem
    rw [hcreated, List.mem_append, List.mem_singleton] at hmem
    rcases hmem with hmem | rfl
    · exact h.client id hmem
    · exact hclient
  · intro id hmem
    rw [hcreated, List.mem_append, List.mem_singleton] at hmem
    rcases hmem with hmem | rfl
    · exact UInt32.lt_trans (h.used id hmem) hnext
    · exact hid ▸ hnext
  · intro id
    rw [about_snoc]
    by_cases hsame : r.route = id
    · subst hsame
      have hnil : about r.route ds = [] :=
        List.filter_eq_nil_iff.2 fun d hd => by simpa using hsilent d hd
      simpa [Demand.id?, hnil] using Lifetime.create r
    · simpa [Demand.id?, hsame] using h.lives id
  · intro id u hu
    exact h.paired id u (by simpa using hu)
  · intro x hx
    rcases List.mem_append.1 hx with hx | hx
    · obtain ⟨hlive, hmem, hkept⟩ := h.held x hx
      exact ⟨hlive, by simp [hcreated, hmem], by simpa using hkept⟩
    · rw [List.mem_singleton] at hx
      subst hx
      refine ⟨rfl, by simp [hcreated], ?_⟩
      simpa using fun hgone => hsilent _ hgone rfl
  · rw [List.map_append]
    refine h.distinct.append (List.nodup_singleton _) ?_
    simp only [List.map_cons, List.map_nil, List.disjoint_singleton, List.mem_map]
    rintro ⟨x, hx, hsame⟩
    exact hfresh (hsame ▸ (h.held x hx).2.1)

/-- What has been said about the id of a handle, which is not given back. -/
theorem about_held (h : Proper ids hs ds) {x : ProfileHandle} (hx : x ∈ hs) :
    about x.route ds ≠ [] ∧ .profile (.destroy x.route) ∉ about x.route ds := by
  obtain ⟨-, hmem, hkept⟩ := h.held x hx
  obtain ⟨r, hr, hcreate⟩ := mem_created_iff.1 hmem
  refine ⟨List.ne_nil_of_mem (List.mem_filter.2 ⟨hcreate, by simp [Demand.id?, hr]⟩), ?_⟩
  exact fun hgone => hkept (List.mem_filter.1 hgone).1

/-- **An update is demanded** through a handle. -/
theorem update (h : Proper ids hs ds) {x : ProfileHandle} (hx : x ∈ hs) {u : ProfileUpdate}
    (hpaired : ProfileHandle.paired u = .ok ()) :
    Proper ids hs (ds ++ [.update x.route u]) := by
  have hcreated : created (ds ++ [.update x.route u]) = created ds := by
    simp [created, Demand.created?]
  obtain ⟨hsaid, hlive⟩ := h.about_held hx
  refine
    { stop := h.stop
      fresh := hcreated ▸ h.fresh
      client := hcreated ▸ h.client
      used := hcreated ▸ h.used
      lives := ?_, paired := ?_, held := ?_
      distinct := h.distinct }
  · intro id
    rw [about_snoc]
    by_cases hsame : x.route = id
    · subst hsame
      simpa [Demand.id?] using (h.lives _).update hsaid hlive u
    · simpa [Demand.id?, hsame] using h.lives id
  · intro id v hv
    rcases List.mem_append.1 hv with hv | hv
    · exact h.paired id v hv
    · simp only [List.mem_singleton, Demand.update.injEq] at hv
      exact hv.2 ▸ hpaired
  · intro y hy
    simpa [hcreated] using h.held y hy

/-- **The profile of a handle is given back**, and the handle is gone. -/
theorem release (h : Proper ids hs ds) {x : ProfileHandle} (hx : x ∈ hs) :
    Proper ids (hs.erase x) (ds ++ [.profile (.destroy x.route)]) := by
  have hcreated : created (ds ++ [.profile (.destroy x.route)]) = created ds := by
    simp [created, Demand.created?]
  obtain ⟨hsaid, hlive⟩ := h.about_held hx
  have hfewer := h.fewer (hs.erase_sublist (a := x))
  refine
    { stop := h.stop
      fresh := hcreated ▸ h.fresh
      client := hcreated ▸ h.client
      used := hcreated ▸ h.used
      lives := ?_, paired := ?_, held := ?_
      distinct := hfewer.distinct }
  · intro id
    rw [about_snoc]
    by_cases hsame : x.route = id
    · subst hsame
      simpa [Demand.id?] using (h.lives _).destroy hsaid hlive
    · simpa [Demand.id?, hsame] using h.lives id
  · intro id u hu
    exact h.paired id u (by simpa using hu)
  · intro y hy
    obtain ⟨hy', hmem, hkept⟩ := hfewer.held y hy
    -- another handle has another id
    have hne : y.route ≠ x.route := by
      intro hsame
      obtain ⟨hother, hyhs⟩ := h.distinct.of_map.mem_erase_iff.1 hy
      exact hother (List.inj_on_of_nodup_map h.distinct hyhs hx hsame)
    exact ⟨hy', by simpa [hcreated] using hmem, by simp [hkept, hne]⟩

/-- **Every demand keeps together what fits together.** -/
theorem deal (h : Proper ids hs ds) {taken : Bool} {d : Demand} {hs' : List ProfileHandle}
    (hdeal : Deal ids hs taken d ids' hs') : Proper ids' hs' (ds ++ [d]) := by
  cases hdeal with
  | command x => exact h.command x
  | create r _ htake =>
    refine (h.create htake).fewer ?_
    cases taken with
    | true => exact List.Sublist.refl _
    | false => exact List.sublist_append_left _ _
  | update x u hx hpaired => exact h.update hx hpaired
  | release x hx => exact h.release hx

/-- **Every demand fits behind those before it.** -/
theorem fits (h : Proper ids hs ds) {done : List Demand} {d : Demand}
    (hpart : done ++ [d] <+: ds) : Fits done d := by
  have hd : d ∈ ds := hpart.subset (by simp)
  constructor
  · intro id hid
    exact h.client id ((h.lives id).mem_created hd hid)
  · intro id hid e he hsame
    -- a demand about the id stands behind another demand for a profile under it
    have hdone : done <+: ds := (List.prefix_append done [d]).trans hpart
    have hold : id ∈ created done := ((h.lives id).begun (hdone.filter _)).mem_created he hsame
    have hboth : (created (done ++ [d])).Nodup := h.fresh.sublist (hpart.filterMap _).sublist
    have hsplit : created (done ++ [d]) = created done ++ [id] := by simp [created, hid]
    rw [hsplit, List.nodup_append] at hboth
    exact hboth.2.2 id hold id (by simp) rfl
  · rintro id bad good rfl
    have hpaired := h.paired id (.addCorrections bad good) hd
    by_contra hne
    simp [ProfileHandle.paired, hne] at hpaired

end Proper

/-- **Every change keeps together what fits together.** -/
theorem Change.proper {c c' : ClientSide A τ} (hc : c.Change c')
    (h : Proper c.peer.ids c.handles c.demands) : Proper c'.peer.ids c'.handles c'.demands := by
  cases hc with
  | quiet p hids => exact hids ▸ h
  | took p id htake => exact h.took htake
  | asked p hs d x hdeal => exact h.deal hdeal

end ClientSide

end ControlPlane
