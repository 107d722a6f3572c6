/-
# What handling a message can come to

A host's peer tries the families of commands in turn, asks its surroundings, changes its routes
or hands the message on.  `HostPeer.Handles` lists everything that can come of it, one
constructor for each way through the code, with the peer and the state that are left behind.
Proofs about the handling of messages go by `HostPeer.handles` and name the ways; none of them
opens `handle` again.

* `HostPeer.Handles`, `HostPeer.handles`: the ways, and that there are no others;
* `HostPeer.create_cases`: the ways to make a profile, of which none obtains one in vain;
* `HostServices.Carries`, `HostPeer.receive_carried`: a peer does the same in surroundings that
  differ in nothing it can ask for;
* `deliver_profile`: a delivery to the route of a profile leaves the routes as they are.
-/
import ControlPlane.Peer.Host
import ControlPlane.Proofs.Table

namespace ControlPlane

/-! ## 1. Routes -/

/-- No id of the client's block addresses the peer itself. -/
theorem RoutingId.isControl_of_client {id : RoutingId} (hclient : id.isClientAllocated = true) :
    id.isControl = false := by
  rw [isControl, decide_eq_false_iff_not]
  rintro rfl
  exact absurd hclient (by decide)

/-- No table takes a listener at the control id, and every other table with a free id does. -/
theorem Routes.add?_of_free {α : Type} {r : Routes α} {id : RoutingId} {a : α}
    (hclient : id.isClientAllocated = true) (hfree : r.get? id = none) :
    Routes.add? r id a = some (r.insert id a) := by
  have hcontrol := RoutingId.isControl_of_client hclient
  have hcontains : r.contains id = false := Table.contains_eq_false_iff.2 hfree
  simp [Routes.add?, hcontrol, hcontains]

section Deliver

variable {A : Type} [Listener A ProfileStore]

/-- **A delivery to the route of a profile leaves the routes as they are.** -/
theorem deliver_profile {routes : Routes (HostListener A)} {m : Message} {s : ProfileStore}
    {r : ProfileRoute} (h : routes.get? m.address = some (.profile r)) :
    deliver routes m s = ⟨(r.receive m s).1, routes, (r.receive m s).2⟩ := by
  have hsettled : (Received.mk (r.receive m s).1 (HostListener.profile (A := A) r)
      (r.receive m s).2).settled m = HostListener.profile r := by
    unfold Received.settled
    split <;> rfl
  have hkeep : routes.adjust m.address (fun _ => (Received.mk (r.receive m s).1
      (HostListener.profile (A := A) r) (r.receive m s).2).settled m) = routes := by
    rw [hsettled, Table.adjust_eq_insert h, Table.insert_self h]
  simp only [deliver, h]
  exact congrArg (fun t => Delivered.mk (r.receive m s).1 t (r.receive m s).2) hkeep

/-- A delivery to an address without a route does nothing. -/
theorem deliver_missing {B C : Type} [Listener B C] {routes : Routes B} {m : Message} {c : C}
    (h : routes.get? m.address = none) : deliver routes m c = ⟨.ok .unhandled, routes, c⟩ := by
  simp only [deliver, h]

end Deliver

namespace HostPeer

variable {A S : Type}

/-! ## 2. What does not touch the routes -/

/-- A count of a message that broke the protocol touches nothing else. -/
@[simp] theorem routes_settle (p : HostPeer A) (o : Outcome) : (p.settle o).routes = p.routes := by
  cases o <;> rfl

@[simp] theorem id_settle (p : HostPeer A) (o : Outcome) : (p.settle o).id = p.id := by
  cases o <;> rfl

@[simp] theorem ids_settle (p : HostPeer A) (o : Outcome) : (p.settle o).ids = p.ids := by
  cases o <;> rfl

/-- Handing a message to the channel touches nothing else. -/
@[simp] theorem routes_send (p : HostPeer A) (m : Message) :
    (p.send m).2.routes = p.routes := rfl

@[simp] theorem id_send (p : HostPeer A) (m : Message) : (p.send m).2.id = p.id := rfl

/-- The reply touches the channel only. -/
@[simp] theorem routes_pay (p : HostPeer A) (m : Message) (o : Outcome) :
    (p.pay m o).routes = p.routes := by
  unfold pay
  split <;> rfl

@[simp] theorem id_pay (p : HostPeer A) (m : Message) (o : Outcome) : (p.pay m o).id = p.id := by
  unfold pay
  split <;> rfl

@[simp] theorem ids_pay (p : HostPeer A) (m : Message) (o : Outcome) :
    (p.pay m o).ids = p.ids := by
  unfold pay
  split <;> rfl

/-! ## 3. The ways through the code -/

/-- **The ways to make a profile**: refused, without one, or with a new route.  That the routes
do not take the listener after the profile was obtained cannot be. -/
theorem create_cases (services : HostServices S) (failure : Option String) (p : HostPeer A)
    (type : UInt32) (r : ProfileRequest) (s : S) :
    (∃ e, create services failure p type r s = ⟨.error e, p, s, []⟩) ∨
    (∃ e store, ProfileRoute.obtain (services.profiles s) r failure = (.error e, store) ∧
      create services failure p type r s
        = ⟨.ok .unhandled, p, services.setProfiles s store, []⟩) ∨
    (∃ route store, r.route.isClientAllocated = true ∧ p.routes.get? r.route = none ∧
      ProfileRoute.obtain (services.profiles s) r failure = (.ok route, store) ∧
      create services failure p type r s
        = ⟨.ok .handled, { p with routes := p.routes.insert r.route (.profile route) },
            services.setProfiles s store, []⟩) := by
  unfold create
  cases hclient : r.route.isClientAllocated with
  | false => exact .inl ⟨_, rfl⟩
  | true =>
    cases hused : p.hasRoute r.route with
    | true => exact .inl ⟨_, rfl⟩
    | false =>
      have hfree : p.routes.get? r.route = none := Table.contains_eq_false_iff.1 hused
      rcases hob : ProfileRoute.obtain (services.profiles s) r failure with ⟨e | route, store⟩
      · exact .inr (.inl ⟨e, store, rfl, rfl⟩)
      · refine .inr (.inr ⟨route, store, rfl, hfree, rfl, ?_⟩)
        simp [Routes.add?_of_free hclient hfree]

section Handles

variable [Listener A ProfileStore]

/-- **What handling a message can come to.** -/
inductive Handles (services : HostServices S) (failure : Option String) (p : HostPeer A)
    (m : Message) (s : S) : Turn A S → Prop
  /-- A message to the peer breaks the protocol. -/
  | refused (e : ProtocolFault) (hcontrol : m.isControl = true) :
      Handles services failure p m s ⟨.error e, p, s, []⟩
  /-- The client waits until everything before has been handled. -/
  | synced (final : Bool) (hcontrol : m.isControl = true)
      (hm : HostCommand.ofMessage m = .ok (some (.sync final))) :
      Handles services failure p m s ⟨.ok .handled, p, s, []⟩
  /-- The surroundings make another channel. -/
  | opened (timeout : UInt32) (token : String) (s' : S) (hcontrol : m.isControl = true)
      (hm : HostCommand.ofMessage m = .ok (some (.openChannel timeout)))
      (hopen : services.openChannel s timeout = (.ok token, s')) :
      Handles services failure p m s
        ⟨.ok (.reply (ChannelOffer.mk token).toJson), p, s', []⟩
  /-- The surroundings make no channel. -/
  | notOpened (timeout : UInt32) (e : Fault) (s' : S) (hcontrol : m.isControl = true)
      (hm : HostCommand.ofMessage m = .ok (some (.openChannel timeout)))
      (hopen : services.openChannel s timeout = (.error e, s')) :
      Handles services failure p m s ⟨.ok .unhandled, p, s', []⟩
  /-- The surroundings drop what is stored of web pages. -/
  | cleared (hcontrol : m.isControl = true)
      (hm : HostCommand.ofMessage m = .ok (some .clearWebCache)) :
      Handles services failure p m s ⟨.ok .handled, p, services.clearWebCache s, []⟩
  /-- No profile can be had. -/
  | failed (r : ProfileRequest) (e : Fault) (store : ProfileStore) (hcontrol : m.isControl = true)
      (hm : ProfileCommand.ofMessage m = .ok (some (.create r)))
      (hob : ProfileRoute.obtain (services.profiles s) r failure = (.error e, store)) :
      Handles services failure p m s ⟨.ok .unhandled, p, services.setProfiles s store, []⟩
  /-- A route to a profile is registered at a free id of the client. -/
  | created (r : ProfileRequest) (route : ProfileRoute) (store : ProfileStore)
      (hcontrol : m.isControl = true)
      (hm : ProfileCommand.ofMessage m = .ok (some (.create r)))
      (hclient : r.route.isClientAllocated = true) (hfree : p.routes.get? r.route = none)
      (hob : ProfileRoute.obtain (services.profiles s) r failure = (.ok route, store)) :
      Handles services failure p m s
        ⟨.ok .handled, { p with routes := p.routes.insert r.route (.profile route) },
          services.setProfiles s store, []⟩
  /-- A route is removed, if there is one. -/
  | destroyed (id : RoutingId) (hcontrol : m.isControl = true)
      (hm : ProfileCommand.ofMessage m = .ok (some (.destroy id))) :
      Handles services failure p m s
        ⟨.ok .handled, (p.removeRoute id (services.profiles s)).peer,
          services.setProfiles s (p.removeRoute id (services.profiles s)).profiles,
          (p.removeRoute id (services.profiles s)).removed⟩
  /-- The message is handed to a route. -/
  | routed (hrouted : m.isControl = false) :
      Handles services failure p m s
        ⟨(deliver p.routes m (services.profiles s)).outcome,
          { p with routes := (deliver p.routes m (services.profiles s)).routes },
          services.setProfiles s (deliver p.routes m (services.profiles s)).context, []⟩

/-- Handling a message comes to one of the ways. -/
theorem handles (services : HostServices S) (failure : Option String) (p : HostPeer A)
    (m : Message) (s : S) : Handles services failure p m s (handle services failure p m s) := by
  unfold handle
  cases hcontrol : m.isControl with
  | false => exact .routed hcontrol
  | true =>
    simp only [if_true, control]
    split
    · next e _ => exact .refused e hcontrol
    · next c hm =>
      cases c with
      | sync final => exact .synced final hcontrol hm
      | openChannel timeout =>
        simp only [command]
        split
        · next token s' hopen => exact .opened timeout token s' hcontrol hm hopen
        · next e s' hopen => exact .notOpened timeout e s' hcontrol hm hopen
      | clearWebCache => exact .cleared hcontrol hm
    · split
      · next e _ => exact .refused e hcontrol
      · next c hm =>
        cases c with
        | create r =>
          simp only [profileCommand]
          rcases create_cases services failure p m.type r s with
            ⟨e, h⟩ | ⟨e, store, hob, h⟩ | ⟨route, store, hclient, hfree, hob, h⟩
          · rw [h]; exact .refused e hcontrol
          · rw [h]; exact .failed r e store hcontrol hm hob
          · rw [h]; exact .created r route store hcontrol hm hclient hfree hob
        | destroy id => exact .destroyed id hcontrol hm
      · exact .refused _ hcontrol

/-- The removal of a route touches the routes only. -/
@[simp] theorem id_removeRoute (p : HostPeer A) (id : RoutingId) (s : ProfileStore) :
    (p.removeRoute id s).peer.id = p.id := by
  unfold removeRoute
  split <;> rfl

@[simp] theorem ids_removeRoute (p : HostPeer A) (id : RoutingId) (s : ProfileStore) :
    (p.removeRoute id s).peer.ids = p.ids := by
  unfold removeRoute
  split <;> rfl

/-- After a message has been handled, only the channel and a count change. -/
theorem routes_receive (services : HostServices S) (failure : Option String) (p : HostPeer A)
    (m : Message) (s : S) :
    (receive services failure p m s).peer.routes = (handle services failure p m s).peer.routes :=
  (routes_pay _ _ _).trans (routes_settle _ _)

theorem id_receive (services : HostServices S) (failure : Option String) (p : HostPeer A)
    (m : Message) (s : S) :
    (receive services failure p m s).peer.id = (handle services failure p m s).peer.id :=
  (id_pay _ _ _).trans (id_settle _ _)

/-- No message takes an id from the host's block. -/
theorem ids_receive (services : HostServices S) (failure : Option String) (p : HostPeer A)
    (m : Message) (s : S) : (receive services failure p m s).peer.ids = p.ids := by
  have hids : (receive services failure p m s).peer.ids
      = (handle services failure p m s).peer.ids := (ids_pay _ _ _).trans (ids_settle _ _)
  rw [hids]
  have hway := handles services failure p m s
  generalize handle services failure p m s = t at hway
  cases hway with
  | destroyed id => exact p.ids_removeRoute id _
  | refused | synced | opened | notOpened | cleared | failed | created | routed => rfl

end Handles

end HostPeer

/-! ## 4. What a peer cannot see of its surroundings -/

/-- **A change of the state that no peer can see**: `f` goes together with everything that a peer can
ask of its surroundings. -/
structure HostServices.Carries {S : Type} (services : HostServices S) (f : S → S) : Prop where
  profiles : ∀ s, services.profiles (f s) = services.profiles s
  setProfiles : ∀ s store, services.setProfiles (f s) store = f (services.setProfiles s store)
  openChannel : ∀ s timeout, services.openChannel (f s) timeout
    = ((services.openChannel s timeout).1, f (services.openChannel s timeout).2)
  clearWebCache : ∀ s, services.clearWebCache (f s) = f (services.clearWebCache s)

namespace HostPeer

variable {A S : Type} {services : HostServices S} {f : S → S}

/-- The same with another state. -/
def Turn.carried (t : Turn A S) (f : S → S) : Turn A S := { t with state := f t.state }

/-- A command of the client is carried out in the same way. -/
theorem command_carried (hf : services.Carries f) (p : HostPeer A) (s : S) (c : HostCommand) :
    command services p (f s) c = (command services p s c).carried f := by
  cases c with
  | sync final => rfl
  | openChannel timeout =>
    simp only [command, hf.openChannel]
    rcases services.openChannel s timeout with ⟨_ | _, s'⟩ <;> rfl
  | clearWebCache =>
    simp only [command, hf.clearWebCache]
    rfl

variable [Listener A ProfileStore]

/-- So is one about its profiles. -/
theorem profileCommand_carried (hf : services.Carries f) (failure : Option String)
    (p : HostPeer A) (type : UInt32) (s : S) (c : ProfileCommand) :
    profileCommand services failure p type (f s) c
      = (profileCommand services failure p type s c).carried f := by
  cases c with
  | create r =>
    simp only [profileCommand, create, hf.profiles, hf.setProfiles]
    split
    · rfl
    · split
      · rfl
      · rcases ProfileRoute.obtain (services.profiles s) r failure with ⟨_ | route, store⟩
        · rfl
        · simp only
          cases p.routes.add? r.route (.profile route) <;> rfl
  | destroy id =>
    simp only [profileCommand, hf.profiles, hf.setProfiles]
    rfl

/-- **A message is handled in the same way.** -/
theorem handle_carried (hf : services.Carries f) (failure : Option String) (p : HostPeer A)
    (m : Message) (s : S) :
    handle services failure p m (f s) = (handle services failure p m s).carried f := by
  unfold handle
  split
  · simp only [control]
    rcases HostCommand.ofMessage m with _ | _ | c
    · rfl
    · simp only
      rcases ProfileCommand.ofMessage m with _ | _ | c
      · rfl
      · rfl
      · exact profileCommand_carried hf failure p m.type s c
    · exact command_carried hf p s c
  · simp only [routed, hf.profiles, hf.setProfiles]
    rfl

/-- **A message that arrives leaves the same peer behind.** -/
theorem receive_carried (hf : services.Carries f) (failure : Option String) (p : HostPeer A)
    (m : Message) (s : S) :
    receive services failure p m (f s) = (receive services failure p m s).carried f := by
  simp only [receive, handle_carried hf]
  rfl

end HostPeer

end ControlPlane
