/-
# Client and host agree

A client and the host at the other end of its channel.  The client demands what it likes through
its handles, its channel writes one command after the other, and the host processes what was
written in that order, while both go on with their own business.  Messages pass as they were
written; what becomes of their text on the way is not part of this.

* `Dialogue`: both sides, and what is under way between them;
* `Conveys`: the demands are processed, under way or queued, in their order;
* `Dialogue.agreed_run`: nothing the client writes breaks the protocol, and the routes of the host
  are those of the client's handles.

A channel that has ended takes no demand any more, and those in its queue are lost.  So what was
demanded may exceed what the host will ever be given, and `Dialogue.Heard` says that it does not.
-/
import ControlPlane.Proofs.Dialogue.Client
import ControlPlane.Proofs.Dialogue.Host

namespace ControlPlane

/-! ## 1. Dialogues -/

/-- **A client and its host.** -/
structure Dialogue (A B S τ : Type) where
  client : ClientSide A τ
  /-- What was written and is not processed yet. -/
  wire : List Message := []
  host : HostSide B S

/-- What happens in a dialogue. -/
inductive DialogueAct (A B S τ : Type) where
  | client (a : ClientAct A τ)
  /-- The client's channel writes its next command. -/
  | write
  /-- The host processes the next message; `failure` says what the system answers if a folder has
  to be made. -/
  | process (services : HostServices S) (failure : Option String)
  | host (a : HostAct B S)

namespace Dialogue

variable {A B S τ : Type}

/-- A client that has made its connection, and the host's peer for it. -/
def start (token : Token) (pid : UInt32) (id : PeerId) (s : S) : Dialogue A B S τ where
  client := { peer := ClientPeer.ofChannel (ChannelEnd.connecting token.channel pid).2 token }
  host := { peer := { id, channel := ChannelEnd.listening token.channel }, state := s }

/-- What happens. -/
def step [Listener B ProfileStore] (d : Dialogue A B S τ) : DialogueAct A B S τ → Dialogue A B S τ
  | .client a => { d with client := d.client.step a }
  | .write =>
    match d.client.peer.channel.write? with
    | some x =>
      { d with
        client := { d.client with peer := { d.client.peer with channel := x.2 } }
        wire := d.wire ++ x.1.written }
    | none => d
  | .process services failure =>
    match d.wire with
    | m :: rest => { d with wire := rest, host := d.host.process services failure m }
    | [] => d
  | .host a => { d with host := d.host.step a }

/-- **A run**: whatever happens, in any order. -/
def run [Listener B ProfileStore] (d : Dialogue A B S τ) (acts : List (DialogueAct A B S τ)) :
    Dialogue A B S τ :=
  acts.foldl step d

/-- **The client's outbound stream**: what was processed, what is under way, and what is queued. -/
def outbound (d : Dialogue A B S τ) : List Message :=
  d.host.processed ++ d.wire ++ d.client.peer.channel.commands.map Command.message

/-- **Everything that the client has demanded was processed.** -/
def Heard (d : Dialogue A B S τ) : Prop :=
  d.host.processed.map Message.unnumbered = d.client.demands.map Demand.toMessage

/-! ## 2. What is conveyed -/

/-- **The demands are processed, under way or queued**, in their order. -/
structure Conveys (d : Dialogue A B S τ) (done flying queued : List Demand) : Prop where
  processed : d.host.processed.map Message.unnumbered = done.map Demand.toMessage
  wire : d.wire.map Message.unnumbered = flying.map Demand.toMessage
  queue : List.Forall₂ Command.Writes d.client.peer.channel.commands queued
  part : done ++ (flying ++ queued) <+: d.client.demands
  /-- Nothing is lost before the channel has ended. -/
  whole : d.client.peer.channel.isClosed = false →
    done ++ (flying ++ queued) = d.client.demands
  /-- A profile that was asked for and not given back has its handle. -/
  kept : ∀ id ∈ created (done ++ (flying ++ queued)),
    .profile (.destroy id) ∉ d.client.demands → ∃ h ∈ d.client.handles, h.route = id

/-- A demand that the channel takes goes to the end of its queue. -/
theorem enqueue_writes {e : ChannelEnd τ} {queued : List Demand}
    (hqueue : List.Forall₂ Command.Writes e.commands queued) {x : Command τ} {dem : Demand}
    (hwrites : x.Writes dem) (hopen : e.isClosed = false) :
    List.Forall₂ Command.Writes (e.enqueue [x]).commands (queued ++ [dem]) := by
  simp only [ChannelEnd.enqueue, hopen, Bool.false_eq_true, if_false]
  exact List.rel_append hqueue (.cons hwrites .nil)

namespace Conveys

variable {d : Dialogue A B S τ} {done flying queued : List Demand}

/-- **A demand is made.**  The channel takes it unless it has ended. -/
theorem asked (h : Conveys d done flying queued) {p : ClientPeer A τ} {hs : List ProfileHandle}
    {dem : Demand} {x : Command τ}
    (hdeal : ClientSide.Deal d.client.peer.ids d.client.handles
      (!d.client.peer.channel.isClosed) dem p.ids hs)
    (hwrites : x.Writes dem) (hchannel : p.channel = d.client.peer.channel.enqueue [x]) :
    ∃ queued', Conveys { d with client := ⟨p, hs, d.client.demands ++ [dem]⟩ }
      done flying queued' := by
  have hkept : ∀ id ∈ created (done ++ (flying ++ queued)),
      .profile (.destroy id) ∉ d.client.demands ++ [dem] → ∃ x ∈ hs, x.route = id := by
    intro id hid hlive
    simp only [List.mem_append, List.mem_singleton, not_or] at hlive
    obtain ⟨x, hx, hroute⟩ := h.kept id hid hlive.1
    exact ⟨x, hdeal.keeps hx (by rw [hroute]; exact fun hsame => hlive.2 hsame.symm), hroute⟩
  cases hclosed : d.client.peer.channel.isClosed with
  | true =>
    have hsame : p.channel = d.client.peer.channel := by
      rw [hchannel, ChannelEnd.enqueue, if_pos hclosed]
    exact ⟨queued,
      { processed := h.processed
        wire := h.wire
        queue := by simpa only [hsame] using h.queue
        part := h.part.trans (List.prefix_append _ _)
        whole := fun hopen => by simp [hsame, hclosed] at hopen
        kept := hkept }⟩
  | false =>
    have hall : done ++ (flying ++ (queued ++ [dem])) = d.client.demands ++ [dem] := by
      rw [← h.whole hclosed]
      simp
    refine ⟨queued ++ [dem],
      { processed := h.processed
        wire := h.wire
        queue := by simpa only [hchannel] using enqueue_writes h.queue hwrites hclosed
        part := hall ▸ List.prefix_refl _
        whole := fun _ => hall
        kept := ?_ }⟩
    intro id hid hlive
    rw [hall, created, List.filterMap_append, List.mem_append] at hid
    rcases hid with hid | hid
    · exact hkept id (by rw [h.whole hclosed]; exact hid) hlive
    · rw [hclosed] at hdeal
      exact hdeal.given (by simpa using hid)

/-- **What the client does** leaves the demands conveyed. -/
theorem client (h : Conveys d done flying queued) {c : ClientSide A τ}
    (hc : d.client.Change c) :
    ∃ queued', Conveys { d with client := c } done flying queued' := by
  cases hc with
  | quiet p hids hkeeps =>
    rcases hkeeps with ⟨hcommands, hclosed⟩ | ⟨hcommands, hclosed⟩
    · refine ⟨queued, { h with queue := by simpa only [hcommands] using h.queue, whole := ?_ }⟩
      intro hopen
      exact h.whole (hclosed ▸ hopen)
    · -- what was queued is lost
      have hless : done ++ (flying ++ []) <+: done ++ (flying ++ queued) := by simp
      refine ⟨[], { h with queue := ?_, part := hless.trans h.part, whole := ?_, kept := ?_ }⟩
      · simp only [hcommands]
        exact .nil
      · intro hopen
        exact absurd hclosed (by simp [hopen])
      · intro id hid
        exact h.kept id ((hless.filterMap _).subset hid)
  | took p id htake hchannel =>
    refine ⟨queued, { h with queue := by simpa only [hchannel] using h.queue, whole := ?_ }⟩
    intro hopen
    exact h.whole (hchannel ▸ hopen)
  | asked p hs dem x hdeal hwrites hchannel => exact h.asked hdeal hwrites hchannel

/-- The first demand of the queue goes on its way. -/
theorem shift {dem : Demand} (h : Conveys d done flying (dem :: queued)) {m : Message}
    {e : ChannelEnd τ} (hm : m.unnumbered = dem.toMessage)
    (hqueue : List.Forall₂ Command.Writes e.commands queued)
    (hclosed : e.isClosed = d.client.peer.channel.isClosed) :
    Conveys
      { d with
        client := { d.client with peer := { d.client.peer with channel := e } }
        wire := d.wire ++ [m] } done (flying ++ [dem]) queued := by
  have hshift : done ++ (flying ++ dem :: queued) = done ++ (flying ++ [dem] ++ queued) := by simp
  exact
    { processed := h.processed
      wire := by simp [h.wire, hm]
      queue := hqueue
      part := hshift ▸ h.part
      whole := fun hopen => hshift ▸ h.whole (hclosed ▸ hopen)
      kept := hshift ▸ h.kept }

section

variable [Listener B ProfileStore]

/-- **The next command is written.** -/
theorem write (h : Conveys d done flying queued) :
    ∃ flying' queued', Conveys (d.step .write) done flying' queued' := by
  simp only [step]
  cases hwrite : d.client.peer.channel.write? with
  | none => exact ⟨flying, queued, h⟩
  | some x =>
    unfold ChannelEnd.write? at hwrite
    split at hwrite
    next m commands hopened hcommands =>
      obtain rfl := Option.some.inj hwrite
      obtain _ | ⟨hwrites, hqueue⟩ := hcommands ▸ h.queue
      have hm : m = _ := hwrites.1
      exact ⟨_, _, h.shift (m := m) (by rw [hm, Demand.unnumbered_toMessage]) hqueue rfl⟩
    next m ticket commands hopened hcommands =>
      obtain rfl := Option.some.inj hwrite
      obtain _ | ⟨hwrites, hqueue⟩ := hcommands ▸ h.queue
      have hm : m = _ := hwrites.1
      refine ⟨_, _, h.shift ?_ hqueue rfl⟩
      rw [hm, Message.unnumbered_numbered (hwrites.2 rfl), Demand.unnumbered_toMessage]
    · cases hwrite

/-- **The next message is processed.** -/
theorem process (h : Conveys d done flying queued) {m : Message} {rest : List Message}
    (hwire : d.wire = m :: rest) (services : HostServices S) (failure : Option String) :
    ∃ dem flying', m.Says dem ∧ done ++ [dem] <+: d.client.demands ∧
      Conveys { d with wire := rest, host := d.host.process services failure m }
        (done ++ [dem]) flying' queued := by
  have hfront := h.wire
  rw [hwire] at hfront
  cases flying with
  | nil => simp at hfront
  | cons dem flying =>
    simp only [List.map_cons, List.cons.injEq] at hfront
    have hsays := Message.says_of_unnumbered hfront.1
    have hshift : done ++ (dem :: flying ++ queued) = done ++ [dem] ++ (flying ++ queued) := by
      simp
    refine ⟨dem, flying, hsays, ?_, ?_⟩
    · exact (List.prefix_append (done ++ [dem]) (flying ++ queued)).trans (hshift ▸ h.part)
    · exact
        { processed := by
            rw [HostSide.process_eq hsays, List.map_append, h.processed]
            simp [hfront.1]
          wire := hfront.2
          queue := h.queue
          part := hshift ▸ h.part
          whole := hshift ▸ h.whole
          kept := hshift ▸ h.kept }

/-- **What the host's application does** leaves the demands conveyed. -/
theorem host (h : Conveys d done flying queued) (a : HostAct B S) :
    Conveys { d with host := d.host.step a } done flying queued :=
  { h with processed := by rw [HostSide.processed_step, h.processed] }

end

end Conveys

/-! ## 3. Runs -/

/-- **What holds in a dialogue** in which some demands are done, some under way and some queued. -/
structure Steady (d : Dialogue A B S τ) (done flying queued : List Demand) : Prop where
  proper : ClientSide.Proper d.client.peer.ids d.client.handles d.client.demands
  conveys : Conveys d done flying queued
  obeys : Obeys d.host.peer d.host.served done

/-- Nothing has been said yet. -/
theorem steady_start (token : Token) (pid : UInt32) (id : PeerId) (s : S) :
    Steady (start token pid id s : Dialogue A B S τ) [] [] [] where
  proper := .start
  conveys :=
    { processed := rfl
      wire := rfl
      queue := .nil
      part := List.prefix_refl _
      whole := fun _ => rfl
      kept := by simp [created] }
  obeys := .start rfl rfl

section

variable [Listener B ProfileStore]

/-- The channel writes without the client, and nothing but the channel changes there. -/
theorem client_write (d : Dialogue A B S τ) :
    (d.step .write).client.peer.ids = d.client.peer.ids ∧
      (d.step .write).client.handles = d.client.handles ∧
      (d.step .write).client.demands = d.client.demands ∧ (d.step .write).host = d.host := by
  simp only [step]
  split <;> exact ⟨rfl, rfl, rfl, rfl⟩

/-- **Whatever happens, it holds again.** -/
theorem Steady.step {d : Dialogue A B S τ} {done flying queued : List Demand}
    (h : Steady d done flying queued) (a : DialogueAct A B S τ) :
    ∃ done flying queued, Steady (d.step a) done flying queued := by
  cases a with
  | client a =>
    have hc := ClientSide.change_step (fun x hx => (h.proper.held x hx).1) a
    obtain ⟨queued', hconveys⟩ := h.conveys.client hc
    exact ⟨done, flying, queued', hc.proper h.proper, hconveys, h.obeys⟩
  | write =>
    obtain ⟨flying', queued', hconveys⟩ := h.conveys.write
    obtain ⟨hids, hhandles, hdemands, hhost⟩ := d.client_write
    refine ⟨done, flying', queued', ?_, hconveys, ?_⟩
    · rw [hids, hhandles, hdemands]
      exact h.proper
    · rw [hhost]
      exact h.obeys
  | process services failure =>
    simp only [Dialogue.step]
    split
    next m rest hwire =>
      obtain ⟨dem, flying', hsays, hpart, hconveys⟩ := h.conveys.process hwire services failure
      exact ⟨done ++ [dem], flying', queued, h.proper, hconveys,
        HostSide.obeys_process h.obeys hsays (h.proper.fits hpart)⟩
    · exact ⟨done, flying, queued, h⟩
  | host a =>
    exact ⟨done, flying, queued, h.proper, h.conveys.host a, HostSide.obeys_step h.obeys a⟩

/-- **In every run it holds.** -/
theorem steady_run {d : Dialogue A B S τ} (acts : List (DialogueAct A B S τ))
    (h : ∃ done flying queued, Steady d done flying queued) :
    ∃ done flying queued, Steady (d.run acts) done flying queued := by
  induction acts generalizing d with
  | nil => exact h
  | cons a acts ih =>
    obtain ⟨done, flying, queued, h⟩ := h
    exact ih (h.step a)

end

/-! ## 4. Agreement -/

/-- **Client and host agree on the protocol.** -/
structure Agreed (d : Dialogue A B S τ) : Prop where
  /-- Nothing that was processed broke it. -/
  faultless : d.host.peer.badMessages = 0
  /-- The outbound stream says about each id what a lifetime says, and no two profiles are asked
  for under one id. -/
  stream : ∃ said : List Demand, d.outbound.map Message.unnumbered = said.map Demand.toMessage ∧
    (∀ id, Lifetime id (about id said)) ∧ (created said).Nodup
  /-- On a channel that has not ended, everything was processed when nothing is queued or under
  way. -/
  heard : d.client.peer.channel.isClosed = false → d.client.peer.channel.commands = [] →
    d.wire = [] → d.Heard
  /-- When everything was processed, the routes with ids of the client are those of the handles
  whose profiles could be served. -/
  routes : d.Heard → ∀ id, id.isClientAllocated = true →
    (d.host.peer.hasRoute id = true ↔
      (∃ h ∈ d.client.handles, h.route = id) ∧ id ∈ d.host.served)

/-- The messages of commands that write some demands are the messages of the demands. -/
theorem message_of_writes {cs : List (Command τ)} {ds : List Demand}
    (h : List.Forall₂ Command.Writes cs ds) :
    (cs.map Command.message).map Message.unnumbered = ds.map Demand.toMessage := by
  induction h with
  | nil => rfl
  | cons hwrites _ ih => simp [hwrites.1, ih]

/-- **Where it holds, client and host agree.** -/
theorem Steady.agreed {d : Dialogue A B S τ} {done flying queued : List Demand}
    (h : Steady d done flying queued) : d.Agreed where
  faultless := h.obeys.faultless
  stream := by
    refine ⟨done ++ (flying ++ queued), ?_, fun id => ?_, ?_⟩
    · simp [outbound, h.conveys.processed, h.conveys.wire, message_of_writes h.conveys.queue]
    · exact (h.proper.lives id).begun (h.conveys.part.filter _)
    · exact h.proper.fresh.sublist (h.conveys.part.filterMap _).sublist
  heard hopen hqueue hwire := by
    have hflying : flying = [] := by simpa [hwire] using h.conveys.wire.symm
    have hqueued : queued = [] := by simpa [hqueue] using h.conveys.queue
    have hdone : done = d.client.demands := by
      simpa [hflying, hqueued] using h.conveys.whole hopen
    rw [Heard, h.conveys.processed, hdone]
  routes hheard id hid := by
    have hbegun : done <+: done ++ (flying ++ queued) := List.prefix_append _ _
    -- what was done is all that was demanded
    have hdone : done = d.client.demands := by
      refine (hbegun.trans h.conveys.part).eq_of_length ?_
      have hlength := congrArg List.length (h.conveys.processed.symm.trans hheard)
      simpa using hlength
    rw [HostPeer.hasRoute, h.obeys.routes id hid]
    constructor
    · rintro ⟨hserved, hlive⟩
      have hcreated := (hbegun.filterMap _).subset (h.obeys.demanded id hserved)
      exact ⟨h.conveys.kept id hcreated (hdone ▸ hlive), hserved⟩
    · rintro ⟨⟨x, hx, rfl⟩, hserved⟩
      exact ⟨hserved, hdone ▸ (h.proper.held x hx).2.2⟩

/-- **Client and host agree in every run**, whatever the client demands, however its messages are
written and processed in between, whatever the store answers and whatever becomes of its
profiles. -/
theorem agreed_run [Listener B ProfileStore] (token : Token) (pid : UInt32) (id : PeerId) (s : S)
    (acts : List (DialogueAct A B S τ)) :
    ((start token pid id s : Dialogue A B S τ).run acts).Agreed := by
  have hstart : Steady (start token pid id s : Dialogue A B S τ) [] [] [] :=
    steady_start token pid id s
  obtain ⟨done, flying, queued, h⟩ := steady_run acts ⟨[], [], [], hstart⟩
  exact h.agreed

/-- The surroundings of a host that has only its profiles. -/
def storeServices : HostServices ProfileStore where
  profiles := id
  setProfiles _ s := s
  openChannel s _ := (.error .hostStopped, s)
  clearWebCache := id

/-- The handshake succeeds, two profiles are demanded, of which one is given back, and the host
processes all of it. -/
example :
    let d := (start ⟨"a", []⟩ 5 ⟨1⟩ {} : Dialogue Empty Empty ProfileStore Empty).run
      [.client (.channel (.arrive (Handshake.greeting 7 "a").frame)), .client (.channel .read),
        .client (.create "" {}), .client (.create "work" {}), .client (.destroy { route := ⟨0⟩ }),
        .write, .write, .write, .process storeServices none, .process storeServices none,
        .process storeServices none]
    d.wire = [] ∧ d.host.served = [⟨0⟩, ⟨1⟩] ∧ d.host.peer.hasRoute ⟨0⟩ = false ∧
      d.host.peer.hasRoute ⟨1⟩ = true ∧ d.client.handles = [{ route := ⟨1⟩ }] := by
  decide +kernel

end Dialogue

end ControlPlane
