/-
# The host's side of a dialogue

A host that is given the messages of a client, one after the other, while its application goes on
with its own business.  Beside the peer stands a record of what was processed, and of the ids
whose profiles the store could give.

* `HostSide.process`: one message passes the end of the channel and is handled;
* `HostSide.step`: what the application does in between;
* `Obeys`: the routes of the client are those that its demands have left behind;
* `Obeys.process`, `Obeys.step`: every demand, and everything in between, keeps it so.
-/
import ControlPlane.Proofs.Dialogue.Demand
import ControlPlane.Proofs.Message.Commands
import ControlPlane.Proofs.Peer.Settlement

namespace ControlPlane

/-! ## 1. What a host does -/

/-- **The host's end of a client's channel** and what surrounds it. -/
structure HostSide (B S : Type) where
  peer : HostPeer B
  state : S
  /-- The messages that were processed. -/
  processed : List Message := []
  /-- The ids whose profiles the store could give. -/
  served : List RoutingId := []

/-- What the application of a host does. -/
inductive HostAct (B S : Type) where
  | addRoute (id : RoutingId) (b : B)
  | removeRoute (services : HostServices S) (id : RoutingId)
  | uniqueId
  | nameChannel (name : String)
  | connected (pid : UInt32)
  /-- Something happens at the host's end of the channel. -/
  | channel (f : ChannelEnd Empty → ChannelEnd Empty)
  /-- Something happens around the peer; profiles may be destroyed. -/
  | surroundings (f : S → S)

section

variable {B S : Type}

/-- The id whose profile a message asks for, if the store can give one. -/
def HostServices.serves (services : HostServices S) (failure : Option String) (s : S)
    (m : Message) : Option RoutingId :=
  match ProfileCommand.ofMessage m with
  | .ok (some (.create r)) =>
    match ProfileRoute.obtain (services.profiles s) r failure with
    | (.ok _, _) => some r.route
    | (.error _, _) => none
  | _ => none

variable [Listener B ProfileStore]

/-- **The peer hears what its end of the channel reports.** -/
def HostPeer.hear (services : HostServices S) (failure : Option String) (x : HostPeer B × S) :
    ChannelEvent → HostPeer B × S
  | .connected pid => (x.1.connected pid, x.2)
  | .message m =>
    let t := receive services failure x.1 m x.2
    (t.peer, t.state)
  | .badMessage _ => (x.1.countBad, x.2)
  | .failed _ =>
    let r := x.1.teardown (services.profiles x.2)
    (r.peer, services.setProfiles x.2 r.profiles)

namespace HostSide

/-- **A message is processed**: the end of the channel sorts it, and the peer hears of it. -/
def process (h : HostSide B S) (services : HostServices S) (failure : Option String)
    (m : Message) : HostSide B S :=
  let (out, channel) := h.peer.channel.takeMessage m
  let x := out.events.foldl (HostPeer.hear services failure) ({ h.peer with channel }, h.state)
  { peer := x.1
    state := x.2
    processed := h.processed ++ [m]
    served := h.served ++ (services.serves failure h.state m).toList }

/-- **What the application does.**  It leaves the client's block of ids alone. -/
def step (h : HostSide B S) : HostAct B S → HostSide B S
  | .addRoute id b =>
    if id.isClientAllocated then h
    else
      match h.peer.addRoute id b with
      | .ok peer => { h with peer }
      | .error _ => h
  | .removeRoute services id =>
    if id.isClientAllocated then h
    else
      let r := h.peer.removeRoute id (services.profiles h.state)
      { h with peer := r.peer, state := services.setProfiles h.state r.profiles }
  | .uniqueId => { h with peer := h.peer.uniqueId.2 }
  | .nameChannel name => { h with peer := (h.peer.nameChannel name).2 }
  | .connected pid => { h with peer := h.peer.connected pid }
  | .channel f => { h with peer := { h.peer with channel := f h.peer.channel } }
  | .surroundings f => { h with state := f h.state }

end HostSide

end

/-! ## 2. What a host makes of a demand -/

/-- **The routes of the client are those that its demands have left behind**, and nothing broke
the protocol. -/
structure Obeys {B : Type} (p : HostPeer B) (served : List RoutingId) (done : List Demand) :
    Prop where
  faultless : p.badMessages = 0
  /-- Only routes to profiles have ids of the client. -/
  profiles : ∀ id l, id.isClientAllocated = true → p.routes.get? id = some l →
    ∃ r, l = .profile r
  /-- A profile that was served has a route until it is given back. -/
  routes : ∀ id, id.isClientAllocated = true →
    (p.routes.contains id = true ↔ id ∈ served ∧ .profile (.destroy id) ∉ done)
  /-- Only what was demanded was served. -/
  demanded : ∀ id ∈ served, id ∈ created done

namespace Obeys

variable {B S : Type} {p q : HostPeer B} {served : List RoutingId} {done : List Demand}

/-- A new peer has nothing to obey. -/
theorem start (hbad : p.badMessages = 0) (hroutes : p.routes = Table.empty) :
    Obeys p [] [] where
  faultless := hbad
  profiles := by simp [hroutes]
  routes := by simp [hroutes]
  demanded := by simp

/-- What leaves the client's routes alone. -/
theorem of_same (h : Obeys p served done) (hbad : q.badMessages = p.badMessages)
    (hroutes : ∀ id, id.isClientAllocated = true → q.routes.get? id = p.routes.get? id) :
    Obeys q served done where
  faultless := hbad.trans h.faultless
  profiles id l hid hl := h.profiles id l hid (hroutes id hid ▸ hl)
  routes id hid := by
    have hcontains : q.routes.contains id = p.routes.contains id :=
      congrArg Option.isSome (hroutes id hid)
    rw [hcontains]
    exact h.routes id hid
  demanded := h.demanded

/-- A demand that leaves no route behind, and takes none away. -/
theorem heard (h : Obeys p served done) {d : Demand} (hd : ∀ id, d ≠ .profile (.destroy id)) :
    Obeys p served (done ++ [d]) where
  faultless := h.faultless
  profiles := h.profiles
  routes id hid := by
    rw [h.routes id hid]
    simp [(hd id).symm]
  demanded id hid := mem_created_append (h.demanded id hid)

/-- **A profile is served** under an id that nothing was said about. -/
theorem serve (h : Obeys p served done) {r : ProfileRequest} {l : ProfileRoute}
    (hfits : Fits done (.profile (.create r))) :
    Obeys { p with routes := p.routes.insert r.route (.profile l) } (served ++ [r.route])
      (done ++ [.profile (.create r)]) where
  faultless := h.faultless
  profiles id x hid hx := by
    by_cases hsame : id = r.route
    · subst hsame
      simp only [Table.get?_insert, if_true, Option.some.injEq] at hx
      exact ⟨l, hx.symm⟩
    · simp only [Table.get?_insert, hsame, if_false] at hx
      exact h.profiles id x hid hx
  routes id hid := by
    by_cases hsame : id = r.route
    · subst hsame
      have hlive : .profile (.destroy r.route) ∉ done := fun hgone =>
        hfits.fresh _ rfl _ hgone rfl
      simp [hlive]
    · simp [hsame, h.routes id hid]
  demanded id hid := by
    rw [List.mem_append, List.mem_singleton] at hid
    rcases hid with hid | rfl
    · exact mem_created_append (h.demanded id hid)
    · exact mem_created_iff.2 ⟨r, rfl, by simp⟩

/-- **A profile is given back.** -/
theorem release (h : Obeys p served done) {id : RoutingId} (hbad : q.badMessages = p.badMessages)
    (hroutes : q.routes = p.routes.erase id) :
    Obeys q served (done ++ [.profile (.destroy id)]) where
  faultless := hbad.trans h.faultless
  profiles j l hj hl := by
    rw [hroutes, Table.get?_erase] at hl
    split at hl
    · cases hl
    · exact h.profiles j l hj hl
  routes j hj := by
    rw [hroutes, Table.contains_erase, Bool.and_eq_true, h.routes j hj]
    by_cases hsame : j = id <;> simp [hsame]
  demanded j hj := mem_created_append (h.demanded j hj)

/-- Handling a message that breaks nothing leaves behind what its handling leaves behind. -/
theorem receive [Listener B ProfileStore] {services : HostServices S} {failure : Option String}
    {m : Message} {s : S} {o : Dispatch}
    (hok : (HostPeer.handle services failure p m s).outcome = .ok o)
    (h : Obeys (HostPeer.handle services failure p m s).peer served done) :
    Obeys (HostPeer.receive services failure p m s).peer served done := by
  refine h.of_same ?_ fun id _ => by rw [HostPeer.routes_receive]
  simp [HostPeer.receive, HostPeer.badMessages_settle, hok, Outcome.isFault, Except.isOk,
    Except.toBool]

end Obeys

/-! ## 3. Processing -/

section

variable {B S : Type} [Listener B ProfileStore]

/-- The removal of a route leaves the other ones. -/
theorem HostPeer.routes_removeRoute (p : HostPeer B) (id : RoutingId) (s : ProfileStore) :
    (p.removeRoute id s).peer.routes = p.routes.erase id := by
  unfold HostPeer.removeRoute
  split
  · rfl
  · next hnone =>
    refine Table.ext_get? fun j => ?_
    by_cases hj : j = id <;> simp [hj, hnone]

namespace HostSide

variable {h : HostSide B S} {services : HostServices S} {failure : Option String} {m : Message}
  {d : Demand} {done : List Demand}

/-- **The message of a demand reaches the peer** as it is. -/
theorem process_eq (hm : m.Says d) :
    h.process services failure m =
      { peer := (HostPeer.receive services failure h.peer m h.state).peer
        state := (HostPeer.receive services failure h.peer m h.state).state
        processed := h.processed ++ [m]
        served := h.served ++ (services.serves failure h.state m).toList } := by
  have htaken : h.peer.channel.takeMessage m = ({ events := [.message m] }, h.peer.channel) := by
    simp [ChannelEnd.takeMessage, hm.reply, hm.type, d.type_toMessage_ne]
  simp [process, htaken, HostPeer.hear]

/-- A demand that serves no profile, and is obeyed by what its handling leaves behind. -/
theorem obeys_of_handle (hm : m.Says d) {t : HostPeer.Turn B S} {o : Dispatch}
    (hhandle : HostPeer.handle services failure h.peer m h.state = t) (hok : t.outcome = .ok o)
    (hserves : services.serves failure h.state m = none)
    (hobeys : Obeys t.peer h.served (done ++ [d])) :
    Obeys (h.process services failure m).peer (h.process services failure m).served
      (done ++ [d]) := by
  subst hhandle
  simpa [process_eq hm, hserves] using hobeys.receive hok

/-- **A command is carried out.** -/
theorem obeys_command (hobeys : Obeys h.peer h.served done) {c : HostCommand}
    (hm : m.Says (.command c)) :
    Obeys (h.process services failure m).peer (h.process services failure m).served
      (done ++ [.command c]) := by
  have hcontrol : m.isControl = true := by
    rw [Message.isControl, hm.address]
    cases c <;> rfl
  have hserves : services.serves failure h.state m = none := by
    simp only [HostServices.serves, ProfileCommand.ofMessage_hostCommand hm.type]
  have hhandle : HostPeer.handle services failure h.peer m h.state
      = HostPeer.command services h.peer h.state c := by
    simp only [HostPeer.handle, HostPeer.control, hcontrol, if_true,
      HostCommand.ofMessage_toMessage hm.type hm.payload]
  have hdone : Obeys h.peer h.served (done ++ [.command c]) := hobeys.heard (by simp)
  cases c with
  | sync final => exact obeys_of_handle hm hhandle rfl hserves hdone
  | clearWebCache => exact obeys_of_handle hm hhandle rfl hserves hdone
  | openChannel timeout =>
    rcases hopen : services.openChannel h.state timeout with ⟨e | token, s⟩
    · simp only [HostPeer.command, hopen] at hhandle
      exact obeys_of_handle hm hhandle rfl hserves hdone
    · simp only [HostPeer.command, hopen] at hhandle
      exact obeys_of_handle hm hhandle rfl hserves hdone

/-- What the peer makes of a command about a profile. -/
theorem handle_profile {c : ProfileCommand} (hm : m.Says (.profile c)) :
    HostPeer.handle services failure h.peer m h.state
      = HostPeer.profileCommand services failure h.peer m.type h.state c := by
  have hcontrol : m.isControl = true := by
    rw [Message.isControl, hm.address]
    cases c <;> rfl
  obtain ⟨hnone, hread⟩ := ProfileCommand.ofMessage_toMessage hm.type hm.payload
  simp only [HostPeer.handle, HostPeer.control, hcontrol, if_true, hnone, hread]

/-- **A profile is made** if the store can give one. -/
theorem obeys_create (hobeys : Obeys h.peer h.served done) {r : ProfileRequest}
    (hm : m.Says (.profile (.create r))) (hfits : Fits done (.profile (.create r))) :
    Obeys (h.process services failure m).peer (h.process services failure m).served
      (done ++ [.profile (.create r)]) := by
  have hclient : r.route.isClientAllocated = true := hfits.client _ rfl
  have hfree : h.peer.routes.get? r.route = none := by
    rw [← Table.contains_eq_false_iff, Bool.eq_false_iff, Ne, hobeys.routes _ hclient]
    rintro ⟨hserved, -⟩
    obtain ⟨r', hr', hmem⟩ := mem_created_iff.1 (hobeys.demanded _ hserved)
    exact hfits.fresh _ rfl _ hmem (congrArg some hr')
  have hread := (ProfileCommand.ofMessage_toMessage hm.type hm.payload).2
  have hhandle : HostPeer.handle services failure h.peer m h.state
      = HostPeer.create services failure h.peer m.type r h.state := handle_profile hm
  simp only [HostPeer.create, hclient, HostPeer.hasRoute, Table.contains_eq_false_iff.2 hfree,
    Bool.not_true, Bool.false_eq_true, if_false] at hhandle
  rcases hob : ProfileRoute.obtain (services.profiles h.state) r failure with ⟨e | route, store⟩
  · have hserves : services.serves failure h.state m = none := by
      simp only [HostServices.serves, hread, hob]
    simp only [hob] at hhandle
    exact obeys_of_handle hm hhandle rfl hserves (hobeys.heard (by simp))
  · have hserves : services.serves failure h.state m = some r.route := by
      simp only [HostServices.serves, hread, hob]
    simp only [hob, Routes.add?_of_free hclient hfree] at hhandle
    have hserved := hobeys.serve (l := route) hfits
    rw [process_eq hm, hserves]
    exact Obeys.receive (o := .handled) (by rw [hhandle]) (by rw [hhandle]; exact hserved)

/-- **A profile is given back**, also where there is none. -/
theorem obeys_destroy (hobeys : Obeys h.peer h.served done) {id : RoutingId}
    (hm : m.Says (.profile (.destroy id))) :
    Obeys (h.process services failure m).peer (h.process services failure m).served
      (done ++ [.profile (.destroy id)]) := by
  have hread := (ProfileCommand.ofMessage_toMessage hm.type hm.payload).2
  have hserves : services.serves failure h.state m = none := by
    simp only [HostServices.serves, hread]
  refine obeys_of_handle hm (handle_profile hm) rfl hserves ?_
  exact hobeys.release (HostPeer.badMessages_removeRoute ..) (HostPeer.routes_removeRoute ..)

/-- **A profile is updated**, if the store still has it. -/
theorem obeys_update (hobeys : Obeys h.peer h.served done) {id : RoutingId} {u : ProfileUpdate}
    (hm : m.Says (.update id u)) (hfits : Fits done (.update id u)) :
    Obeys (h.process services failure m).peer (h.process services failure m).served
      (done ++ [.update id u]) := by
  have hclient : m.address.isClientAllocated = true := hm.address ▸ hfits.client id rfl
  have hcontrol : m.isControl = false := RoutingId.isControl_of_client hclient
  have hserves : services.serves failure h.state m = none := by
    simp only [HostServices.serves, ProfileCommand.ofMessage_update hm.type]
  have hread : ProfileUpdate.ofMessage m = .ok (some u) :=
    ProfileUpdate.ofMessage_toMessage (fun bad good hu => hfits.paired id bad good (hu ▸ rfl))
      hm.type hm.payload
  have hhandle : HostPeer.handle services failure h.peer m h.state
      = HostPeer.routed services h.peer m h.state := by
    simp only [HostPeer.handle, hcontrol, Bool.false_eq_true, if_false]
  have hdone : Obeys h.peer h.served (done ++ [.update id u]) := hobeys.heard (by simp)
  rw [HostPeer.routed] at hhandle
  cases hroute : h.peer.routes.get? m.address with
  | none =>
    rw [deliver_missing hroute] at hhandle
    exact obeys_of_handle hm hhandle rfl hserves hdone
  | some l =>
    obtain ⟨r, rfl⟩ := hobeys.profiles _ l hclient hroute
    rw [deliver_profile hroute] at hhandle
    obtain ⟨o, hok⟩ : ∃ o, (r.receive m (services.profiles h.state)).1 = .ok o := by
      simp only [ProfileRoute.receive, hread]
      cases (services.profiles h.state).update r.profile u with
      | none => exact ⟨_, rfl⟩
      | some s => exact ⟨_, rfl⟩
    exact obeys_of_handle hm hhandle hok hserves hdone

/-- **Every demand is obeyed** that fits behind those before it. -/
theorem obeys_process (hobeys : Obeys h.peer h.served done) (hm : m.Says d)
    (hfits : Fits done d) :
    Obeys (h.process services failure m).peer (h.process services failure m).served
      (done ++ [d]) := by
  rcases d with c | (r | id) | ⟨id, u⟩
  · exact obeys_command hobeys hm
  · exact obeys_create hobeys hm hfits
  · exact obeys_destroy hobeys hm
  · exact obeys_update hobeys hm hfits

/-- What the application does is not processed. -/
theorem processed_step (h : HostSide B S) (a : HostAct B S) :
    (h.step a).processed = h.processed := by
  cases a with
  | addRoute id b =>
    simp only [step]
    split
    · rfl
    · cases h.peer.addRoute id b <;> rfl
  | removeRoute services id =>
    simp only [step]
    split <;> rfl
  | uniqueId | nameChannel | connected | channel | surroundings => rfl

/-- **What the application does changes nothing about that.** -/
theorem obeys_step (hobeys : Obeys h.peer h.served done) (a : HostAct B S) :
    Obeys (h.step a).peer (h.step a).served done := by
  cases a with
  | addRoute id b =>
    simp only [step]
    split
    · exact hobeys
    next hother =>
      unfold HostPeer.addRoute Routes.add?
      cases htaken : id.isControl || h.peer.routes.contains id with
      | true => simpa using hobeys
      | false =>
        refine hobeys.of_same rfl fun j hj => ?_
        have hne : j ≠ id := fun hsame => hother (hsame ▸ hj)
        simp [hne]
  | removeRoute services id =>
    simp only [step]
    split
    · exact hobeys
    next hother =>
      refine hobeys.of_same (HostPeer.badMessages_removeRoute ..) fun j hj => ?_
      have hne : j ≠ id := fun hsame => hother (hsame ▸ hj)
      simp [HostPeer.routes_removeRoute, hne]
  | uniqueId =>
    refine hobeys.of_same ?_ fun j _ => ?_
    all_goals
      simp only [step, HostPeer.uniqueId]
      split <;> rfl
  | nameChannel name => exact hobeys.of_same rfl fun j _ => rfl
  | connected pid => exact hobeys.of_same rfl fun j _ => rfl
  | channel f => exact hobeys.of_same rfl fun j _ => rfl
  | surroundings f => exact hobeys.of_same rfl fun j _ => rfl

end HostSide

end

end ControlPlane
