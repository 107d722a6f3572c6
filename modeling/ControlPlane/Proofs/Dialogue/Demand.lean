/-
# What a client demands of its host

Everything that the operations of a client write is one of three things: a command to the host, a
command about a profile, or an update of one.

* `Demand`, `Demand.toMessage`: a demand and the message it is written as;
* `Lifetime`: what is said about one id, from the beginning of its profile on;
* `Lifetime.update`, `Lifetime.destroy`: how a lifetime goes on.
-/
import ControlPlane.Channel.End
import ControlPlane.Message.Commands
import ControlPlane.Message.Updates

namespace ControlPlane

/-! ## 1. Demands -/

/-- **What a client demands of its host.** -/
inductive Demand where
  | command (c : HostCommand)
  | profile (c : ProfileCommand)
  | update (id : RoutingId) (u : ProfileUpdate)
  deriving DecidableEq, Repr

namespace Demand

/-- The message of a demand. -/
def toMessage : Demand → Message
  | .command c => c.toMessage
  | .profile c => c.toMessage
  | .update id u => u.toMessage id

/-- The id that a demand is about. -/
def id? : Demand → Option RoutingId
  | .command _ => none
  | .profile (.create r) => some r.route
  | .profile (.destroy id) => some id
  | .update id _ => some id

/-- The id of the profile that a demand asks for. -/
def created? : Demand → Option RoutingId
  | .profile (.create r) => some r.route
  | _ => none

/-- No demand is written as a reply, nor with the number of a request. -/
theorem plain_toMessage (d : Demand) : d.toMessage.reply = false ∧ d.toMessage.request = none := by
  rcases d with (_ | _ | _) | (_ | _) | ⟨_, _⟩ <;> exact ⟨rfl, rfl⟩

/-- No demand is written under the type of a hello. -/
theorem type_toMessage_ne (d : Demand) : d.toMessage.type ≠ MessageType.hello := by
  rcases d with (_ | _ | _) | (_ | _) | ⟨_, _ | _ | _ | _ | _ | _ | _⟩ <;>
    exact ne_of_beq_false rfl

end Demand

/-- A message without the number that the channel has given it. -/
def Message.unnumbered (m : Message) : Message := { m with request := none }

/-- The message of a demand has no number to lose. -/
@[simp] theorem Demand.unnumbered_toMessage (d : Demand) :
    d.toMessage.unnumbered = d.toMessage := by
  have hrequest := d.plain_toMessage.2
  generalize d.toMessage = m at hrequest
  cases m
  simp_all [Message.unnumbered]

/-- A request that waits for a reply gets its number and nothing else. -/
theorem Message.unnumbered_numbered {m : Message} (hsync : m.sync = true) (n : UInt64) :
    (ChannelEnd.numbered m n).unnumbered = m.unnumbered := by
  simp [ChannelEnd.numbered, unnumbered, hsync]

/-- **A message says what a demand says**, whatever number it has been given. -/
structure Message.Says (m : Message) (d : Demand) : Prop where
  address : m.address = d.toMessage.address
  type : m.type = d.toMessage.type
  payload : m.payload = d.toMessage.payload
  reply : m.reply = false

/-- The message of a demand says so with any number. -/
theorem Message.says_of_unnumbered {m : Message} {d : Demand} (h : m.unnumbered = d.toMessage) :
    m.Says d where
  address := by rw [← h]; rfl
  type := by rw [← h]; rfl
  payload := by rw [← h]; rfl
  reply := by rw [← d.plain_toMessage.1, ← h]; rfl

/-- The message that is to be written. -/
def Command.message {τ : Type} : Command τ → Message
  | .send m => m
  | .request m _ => m

/-! ## 2. Lifetimes -/

/-- The demands about an id. -/
def about (id : RoutingId) (ds : List Demand) : List Demand := ds.filter (·.id? = some id)

/-- The ids of the profiles that are asked for. -/
def created (ds : List Demand) : List RoutingId := ds.filterMap Demand.created?

/-- **What is said about an id**: it begins with the demand for a profile, updates follow, and at
last it is given back. -/
def Lifetime (id : RoutingId) (ds : List Demand) : Prop :=
  ∃ (r : ProfileRequest) (us : List ProfileUpdate), r.route = id ∧
    ds <+: .profile (.create r) :: us.map (.update id) ++ [.profile (.destroy id)]

/-- Another demand, which may be about the id. -/
theorem about_snoc (id : RoutingId) (ds : List Demand) (d : Demand) :
    about id (ds ++ [d]) = about id ds ++ if d.id? = some id then [d] else [] := by
  by_cases hid : d.id? = some id <;> simp [about, hid]

/-- An id is asked for exactly when a profile is demanded under it. -/
theorem mem_created_iff {id : RoutingId} {ds : List Demand} :
    id ∈ created ds ↔ ∃ r : ProfileRequest, r.route = id ∧ .profile (.create r) ∈ ds := by
  simp only [created, List.mem_filterMap]
  constructor
  · rintro ⟨d, hd, hid⟩
    rcases d with _ | (r | _) | _ <;> simp only [Demand.created?, reduceCtorEq] at hid
    exact ⟨r, Option.some.inj hid, hd⟩
  · rintro ⟨r, hid, hr⟩
    exact ⟨_, hr, congrArg some hid⟩

/-- An id that is asked for stays so. -/
theorem mem_created_append {id : RoutingId} {ds es : List Demand} (h : id ∈ created ds) :
    id ∈ created (ds ++ es) := by
  obtain ⟨r, hr, hmem⟩ := mem_created_iff.1 h
  exact mem_created_iff.2 ⟨r, hr, List.mem_append_left _ hmem⟩

namespace Lifetime

variable {id : RoutingId} {ds : List Demand}

/-- Nothing has been said yet. -/
theorem nil (id : RoutingId) : Lifetime id [] := ⟨⟨id, "", false, false⟩, [], rfl, List.nil_prefix⟩

/-- The beginning of a lifetime. -/
theorem begun {es : List Demand} (h : Lifetime id ds) (hes : es <+: ds) : Lifetime id es := by
  obtain ⟨r, us, hr, hds⟩ := h
  exact ⟨r, us, hr, hes.trans hds⟩

/-- A lifetime begins with the demand for a profile. -/
theorem create (r : ProfileRequest) : Lifetime r.route [.profile (.create r)] :=
  ⟨r, [], rfl, by simp⟩

/-- What has been said begins with the demand for a profile. -/
theorem head (h : Lifetime id ds) (hds : ds ≠ []) :
    ∃ r : ProfileRequest, r.route = id ∧ .profile (.create r) ∈ ds := by
  obtain ⟨r, us, hr, hds'⟩ := h
  cases ds with
  | nil => exact absurd rfl hds
  | cons d ds =>
    rw [List.cons_append, List.cons_prefix_cons] at hds'
    exact ⟨r, hr, hds'.1 ▸ List.mem_cons_self⟩

/-- **As long as the profile is not given back, only updates follow.** -/
theorem running (h : Lifetime id ds) (hds : ds ≠ []) (hlive : .profile (.destroy id) ∉ ds) :
    ∃ (r : ProfileRequest) (us : List ProfileUpdate), r.route = id ∧
      ds = .profile (.create r) :: us.map (.update id) := by
  obtain ⟨r, us, hr, hds'⟩ := h
  rcases List.prefix_concat_iff.1 hds' with rfl | hbegun
  · exact absurd (by simp) hlive
  · cases ds with
    | nil => exact absurd rfl hds
    | cons d ds =>
      obtain ⟨hd, hupdates⟩ := List.cons_prefix_cons.1 hbegun
      refine ⟨r, us.take ds.length, hr, ?_⟩
      rw [hd, List.map_take, ← List.prefix_iff_eq_take.1 hupdates]

/-- **Another update.** -/
theorem update (h : Lifetime id ds) (hds : ds ≠ []) (hlive : .profile (.destroy id) ∉ ds)
    (u : ProfileUpdate) : Lifetime id (ds ++ [.update id u]) := by
  obtain ⟨r, us, hr, rfl⟩ := h.running hds hlive
  exact ⟨r, us ++ [u], hr, by simp⟩

/-- **The profile is given back.** -/
theorem destroy (h : Lifetime id ds) (hds : ds ≠ []) (hlive : .profile (.destroy id) ∉ ds) :
    Lifetime id (ds ++ [.profile (.destroy id)]) := by
  obtain ⟨r, us, hr, rfl⟩ := h.running hds hlive
  exact ⟨r, us, hr, List.prefix_refl _⟩

/-- A demand about an id stands behind the demand for its profile. -/
theorem mem_created (h : Lifetime id (about id ds)) {d : Demand} (hd : d ∈ ds)
    (hid : d.id? = some id) : id ∈ created ds := by
  have habout : d ∈ about id ds := List.mem_filter.2 ⟨hd, by simpa using hid⟩
  obtain ⟨r, hr, hmem⟩ := h.head (List.ne_nil_of_mem habout)
  exact mem_created_iff.2 ⟨r, hr, (List.mem_filter.1 hmem).1⟩

end Lifetime

/-- **A demand fits behind others**: what a host relies on when it has carried out those. -/
structure Fits (done : List Demand) (d : Demand) : Prop where
  /-- It is about an id of the client's block. -/
  client : ∀ id, d.id? = some id → id.isClientAllocated = true
  /-- A profile is demanded under an id that nothing was said about. -/
  fresh : ∀ id, d.created? = some id → ∀ e ∈ done, e.id? ≠ some id
  /-- Bad words and good words come in pairs. -/
  paired : ∀ id bad good, d = .update id (.addCorrections bad good) → bad.length = good.length

end ControlPlane
