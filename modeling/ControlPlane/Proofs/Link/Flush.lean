/-
# A sync is a flush

When a `sync` of a client has succeeded, the host has handled everything that the client handed over
before it: its peer was given all that in its order, and what asked for an update of a profile shows
there.  No single part of the way promises this.  It is the order of four queues, and that the host
replies to nothing before it has heard it.

* `Host.settings_routed`: an update that was handled shows in its profile for good, under those that
  were handled later;
* `Link.Flushed`: the host has handled some commands of the client;
* `Link.flushed_run`: what a `sync` that has succeeded stands for, in every run;
* `Link.unflushed_forged`: it stands for less once somebody makes up the number of a request.

Nothing is said of a `sync` that is pending or has failed.
-/
import ControlPlane.Proofs.Host.Isolation
import ControlPlane.Proofs.Link.Answers

namespace ControlPlane

open Host (Deed)
open ProfileStore (updatesOf)

/-! ## 1. Updates that were handled -/

/-- **An update that was handled shows for good.**  If the profile of its route is live later, then
it was live when the message was handled, and has the settings that the update and all that came
after it have made. -/
theorem Host.settings_routed {config : HostConfig} {deeds rest : List Deed} {d : Deed}
    {env : Surroundings} {id : PeerId} {m : Message} {events : List (PeerId × ChannelEvent)}
    (hd : (after config deeds).perform d = { after config deeds with events }.receive env id m)
    (hrouted : m.isControl = false) {r : ProfileRoute}
    (hr : (after config deeds).HasRoute id m.address r) {u : ProfileUpdate}
    (hu : ProfileUpdate.ofMessage m = .ok (some u)) {q' : Profile}
    (hq' : (after config (deeds ++ d :: rest)).profiles.get? r.profile = some q') :
    ∃ q, (after config deeds).profiles.get? r.profile = some q ∧
      q'.Alike ((q.apply u).applyAll
        (updatesOf r.profile ((after config (deeds ++ [d])).updatesDuring rest))) := by
  obtain ⟨q, hq, -⟩ :=
    (keeps_after config deeds (d :: rest)).same r.profile q' (given_hasRoute hr) hq'
  refine ⟨q, hq, ?_⟩
  have hisolated := isolated_receive { after config deeds with events } env id hrouted
  obtain ⟨hafter, -⟩ := hisolated.changed r u q ⟨hr, hu, hq⟩
  rw [← hd, ← after_snoc] at hafter
  have hsplit : deeds ++ d :: rest = deeds ++ [d] ++ rest := by simp
  rw [hsplit] at hq'
  exact settings_after config (deeds ++ [d]) rest hafter hq'

namespace Link

variable {A : Type} {l : Link A} {k : Nat}

/-! ## 2. What a flush is -/

/-- The host after some of the deeds. -/
def hostAfter (l : Link A) (deeds : List Deed) : Host := l.base.performAll deeds

/-- **The peer of a client was given an event** by the deed `d`, behind `n` others: it was there, and
handled the event. -/
structure Gave (l : Link A) (n : Nat) (e : ChannelEvent) (before : List Deed) (d : Deed)
    (rest : List Deed) : Prop where
  deeds : l.deeds = before ++ d :: rest
  place : (l.base.heardDuring l.id before).length = n
  there : ((l.hostAfter before).peer? l.id).isSome
  handled : ∃ env events, l.hostAfter (before ++ [d])
    = { l.hostAfter before with events }.onEvent env l.id e

/-- **A message that the deed `d` has handled shows**: if it is an update, and the profile of its
route is live, then the update is part of the settings of the profile, under those that were handled
after it. -/
def Shows (l : Link A) (m : Message) (before : List Deed) (d : Deed) (rest : List Deed) : Prop :=
  ∀ r u q', m.isControl = false → (l.hostAfter before).HasRoute l.id m.address r →
    ProfileUpdate.ofMessage m = .ok (some u) → l.host.profiles.get? r.profile = some q' →
      ∃ q, (l.hostAfter before).profiles.get? r.profile = some q ∧
        q'.Alike ((q.apply u).applyAll
          (updatesOf r.profile ((l.hostAfter (before ++ [d])).updatesDuring rest)))

/-- **The host has handled some commands of the client**, the first ones. -/
structure Flushed (l : Link A) (earlier : List (Command Nat)) : Prop where
  /-- Behind the handshake the peer was given all that was written for them, in this order: as
  messages, or as what broke the protocol. -/
  consumed : ∃ pid, .connected pid :: (writtenFrom 0 earlier).map Message.noticed <+: l.heard
  /-- It has handled each of them, and those that were updates show. -/
  shown : ∀ j < earlier.length, ∀ e, l.heard[j + 1]? = some e →
    ∃ before d rest, l.Gave (j + 1) e before d rest ∧
      ∀ m, e = .message m → l.Shows m before d rest

/-- The peer was given more than the commands. -/
theorem Flushed.length_lt {earlier : List (Command Nat)} (h : l.Flushed earlier) :
    earlier.length < l.heard.length := by
  obtain ⟨pid, hconsumed⟩ := h.consumed
  have hlength := hconsumed.length_le
  rw [List.length_cons, List.length_map, length_writtenFrom] at hlength
  exact hlength

/-! ## 3. Every run -/

/-- The host after some of the deeds has come from its start. -/
theorem hostAfter_eq (l : Link A) (deeds : List Deed) :
    l.hostAfter deeds = Host.after l.config (l.prior ++ deeds) :=
  (Host.after_append ..).symm

/-- **What a peer was given it was given by one of the deeds**, and an update shows. -/
theorem gave_heard {n : Nat} {e : ChannelEvent} (hn : l.heard[n]? = some e) :
    ∃ before d rest, l.Gave n e before d rest ∧ ∀ m, e = .message m → l.Shows m before d rest := by
  obtain ⟨before, d, rest, hdeeds, hd, hplace⟩ := Host.heardDuring_at hn
  obtain ⟨hthere, env, events, hperform⟩ := Host.perform_heard hd
  have hsnoc : l.hostAfter (before ++ [d]) = (l.hostAfter before).perform d := List.foldl_append ..
  refine ⟨before, d, rest, ⟨hdeeds, hplace, hthere, env, events, hsnoc.trans hperform⟩, ?_⟩
  rintro m rfl r u q' hrouted hr hu hq'
  rw [l.hostAfter_eq before] at hr ⊢
  rw [l.hostAfter_eq (before ++ [d]), ← List.append_assoc]
  rw [l.host_eq, hdeeds, ← List.append_assoc] at hq'
  have hreceive : (Host.after l.config (l.prior ++ before)).perform d
      = { Host.after l.config (l.prior ++ before) with events }.receive env l.id m :=
    l.hostAfter_eq before ▸ hperform
  exact Host.settings_routed hreceive hrouted hr hu hq'

/-- **What was handed over before a request that the host has come to was handled.** -/
theorem Books.flushed (h : l.Books k) (hearing : l.Hearing) {t : Nat} (hreached : l.Reached t) :
    l.Flushed (l.handed.take t) := by
  obtain ⟨-, n, m, hn, hm⟩ := hreached
  refine ⟨?_, fun j _ e he => gave_heard he⟩
  obtain ⟨pid, j, w, hplace, hw, -, hprefix⟩ :=
    hearing.stage.relayed.upto (getElem?_grown hearing.heard hm)
  obtain rfl : n = j := by omega
  refine ⟨pid, ?_⟩
  -- the first `t` commands were written, as one behind them was
  have hlt : n < k := by
    rw [h.wrote, getElem?_writtenFrom, Option.map_eq_some_iff] at hw
    obtain ⟨c, hc, -⟩ := hw
    have hlt := (List.getElem?_eq_some_iff.mp hc).1
    rw [List.length_take] at hlt
    omega
  have hfirst : l.sent.tail.take t = writtenFrom 0 (l.handed.take t) := by
    rw [h.wrote, writtenFrom_take, List.take_take, Nat.min_eq_left (by omega)]
  have hshorter : ChannelEvent.connected pid :: (l.sent.tail.take t).map Message.noticed
      <+: .connected pid :: (l.sent.tail.take (n + 1)).map Message.noticed := by
    rw [List.cons_prefix_cons]
    exact ⟨rfl, (List.take_prefix_take_left (Nat.le_succ_of_le hn)).map _⟩
  rw [← hfirst]
  -- both are what was reported first, and the peer was given more than that
  refine List.prefix_of_prefix_length_le (hshorter.trans hprefix) hearing.heard ?_
  have hlength := (List.getElem?_eq_some_iff.mp hm).1
  have hwritten := List.length_take_le t l.sent.tail
  rw [List.length_cons, List.length_map]
  omega

section

variable [Listener A Outbox]

/-- **Whatever happens, both sides are kept.** -/
theorem keeps_run (hbooks : ∃ k, l.Books k) (hearing : l.Hearing) (hreading : l.Reading)
    (acts : List (LinkAct A)) :
    (∃ k, (l.run acts).Books k) ∧ (l.run acts).Hearing ∧ (l.run acts).Reading := by
  induction acts generalizing l with
  | nil => exact ⟨hbooks, hearing, hreading⟩
  | cons a rest ih =>
    obtain ⟨k, hbooks⟩ := hbooks
    have hc := l.change_step a
    exact ih (hc.books hbooks) (hc.hearing hearing) (hc.reading hbooks hearing hreading)

/-- A run only adds to what there was. -/
theorem later_run (l : Link A) (acts : List (LinkAct A)) : l.Later (l.run acts) := by
  induction acts generalizing l with
  | nil => exact ⟨List.prefix_refl _, List.prefix_refl _, List.prefix_refl _⟩
  | cons a rest ih => exact (l.change_step a).later.trans (ih _)

/-- **A `sync` that has succeeded is a flush**, in every run of a client and the host it has connected
to, whatever was done with that host before and is done with it meanwhile.  Let `l` be the two of them
when the client calls `sync`, and `l'` when the call has come to a success.  From then on the host has
handled all that the client had handed over before the call.

The numbers of requests have to mean what they say: the client has made up none before the call and
there were enough of them, and the application of the host has not used one for a reply of its own. -/
theorem flushed_run {config : HostConfig} {prior : List Deed} {id : PeerId}
    (hawaits : (Host.after config prior).Awaits id) (token : Token) (pid : UInt32)
    (before meanwhile later : List (LinkAct A)) (final : Bool) {l l' : Link A}
    (hl : l = (start config prior id token pid).run before)
    (hl' : l' = (l.step (.sync final)).run meanwhile)
    (hclient : ∀ m, .send m ∈ l.handed → m.reply = false → m.request = none)
    (hfew : asked l.handed + 1 < UInt64.size)
    (hhost : ∀ m ∈ l'.spoken, m.reply = true → m.request = none)
    {a : Answer} (ha : (l.handed.length, a) ∈ l'.results)
    (hok : ClientPeer.syncResult a = .ok ()) : (l'.run later).Flushed l.handed := by
  have hfirst : l.handed = l'.handed.take l.handed.length := by
    have hlater := (l.change_step (.sync final)).later.trans (later_run _ meanwhile)
    exact List.prefix_iff_eq_take.mp (hl' ▸ hlater.handed)
  have hrun : l' = (start config prior id token pid).run (before ++ .sync final :: meanwhile) := by
    rw [hl', hl, run, run, run, List.foldl_append]
    rfl
  obtain ⟨hbooks, hearing, hreading⟩ := keeps_run (l := start config prior id token pid)
    ⟨0, books_start config prior id token pid⟩ (hearing_start hawaits token pid)
    (reading_start config prior id token pid) (before ++ .sync final :: meanwhile)
  rw [← hrun] at hbooks hearing hreading
  rcases hreading.results _ ha with hlost | hreached
  · rw [show a = _ from hlost] at hok
    cases hok
  · have hreached := hreached ⟨hfirst ▸ hclient, hfirst ▸ hfew, hhost⟩
    have hlater := later_run l' later
    obtain ⟨⟨k, hbooks⟩, hearing, -⟩ := keeps_run hbooks hearing hreading later
    have hflushed := hbooks.flushed hearing (hreached.later hlater)
    have hstill : (l'.run later).handed.take l.handed.length = l.handed :=
      (List.prefix_iff_eq_take.mp ((List.prefix_iff_eq_take.mpr hfirst).trans hlater.handed)).symm
    rwa [hstill] at hflushed

end

/-! ## 4. Runs -/

/-- A host makes a channel for a client. -/
def opening : List Deed := [.move (.openChannel Host.calm 100)]

/-- The token for that client. -/
def pass : Token := ⟨ChannelName.make "n" 9, []⟩

/-- The client connects to the channel and does something, and then calls `sync`. -/
def calling (before : List (LinkAct Empty)) : Link Empty :=
  (start {} opening ⟨1⟩ pass 5).run before

/-- What has become of that. -/
def called (before meanwhile : List (LinkAct Empty)) : Link Empty :=
  ((calling before).step (.sync false)).run meanwhile

/-- Both ends say hello. -/
def shaken : List (LinkAct Empty) :=
  [.host (.accept 7), .host (.arrive 1000), .host .read, .client (.arrive 1000), .client .read]

/-- The client asks for the profile of a folder. -/
def folderWish : Message := (ProfileCommand.create ⟨⟨0⟩, "a", true, true⟩).toMessage

/-- The client asks for a profile, and adds a word to it. -/
def wished : List (LinkAct Empty) := shaken ++ [.send folderWish, .send Host.wordy]

/-- The client writes `n` commands, the host reads `reads` of them and handles as many events, and the
hello before them if it reads any; then the next reply comes back. -/
def answered (n reads : Nat) : List (LinkAct Empty) :=
  List.replicate n (.client .write) ++ [.host (.arrive 1000)]
    ++ List.replicate reads (.host .read)
    ++ List.replicate (reads + 1) (.deed (.move (.takeEvent Host.calm)))
    ++ [.host .write, .client (.arrive 1000), .client .read]

/-- The peer awaits its client when it connects. -/
theorem awaits_opening : (Host.after {} opening).Awaits ⟨1⟩ := by
  have ho : (Host.after {} []).openChannel Host.calm 100
      = (some (.ok ((Host.after {} []).nextOpened Host.calm)),
        (Host.after {} []).withChannel Host.calm 100) := rfl
  exact Host.awaits_openChannel ho

/-- A call has succeeded. -/
def Succeeded (l l' : Link Empty) : Prop :=
  ∃ a, (l.handed.length, a) ∈ l'.results ∧ ClientPeer.syncResult a = .ok ()

/-- What a call came to can be looked up. -/
theorem succeeded_of_results {l l' : Link Empty}
    (h : (l'.results.map fun x => (x.1, (ClientPeer.syncResult x.2).toOption))
      = [(l.handed.length, some ())]) : Succeeded l l' := by
  have hmem : (l.handed.length, some ())
      ∈ l'.results.map fun x => (x.1, (ClientPeer.syncResult x.2).toOption) := by
    rw [h]
    exact List.mem_singleton_self _
  obtain ⟨⟨t, a⟩, hx, hsame⟩ := List.mem_map.mp hmem
  rw [Prod.mk.injEq] at hsame
  exact ⟨a, hsame.1 ▸ hx, eq_ok_of_toOption hsame.2⟩

/-- **A word that was added before a `sync` shows when it has succeeded.** -/
theorem flushed_run_wished :
    Succeeded (calling wished) (called wished (answered 3 3)) ∧
      (called wished (answered 3 3)).Flushed (calling wished).handed ∧
      (((called wished (answered 3 3)).host.profiles.get? ⟨0⟩).map fun q => q.words.keys)
        = some ["w"] := by
  have hsucceeded : Succeeded (calling wished) (called wished (answered 3 3)) :=
    succeeded_of_results (by decide +kernel)
  have hplain : ((calling wished).handed.filterMap Command.message?).all
      (fun m => m.reply || m.request.isNone) = true := by decide +kernel
  have hspoken : (called wished (answered 3 3)).spoken.length = 0 := by decide +kernel
  have hfew : asked (calling wished).handed = 0 := by decide +kernel
  obtain ⟨a, ha, hok⟩ := hsucceeded
  have hflushed : ((called wished (answered 3 3)).run []).Flushed (calling wished).handed := by
    refine flushed_run awaits_opening pass 5 wished (answered 3 3) [] false rfl rfl ?_
      (hfew ▸ by decide) ?_ ha hok
    · intro m hm hreply
      have hmem : m ∈ (calling wished).handed.filterMap Command.message? :=
        List.mem_filterMap.mpr ⟨_, hm, rfl⟩
      have hnone := List.all_eq_true.mp hplain m hmem
      rw [hreply, Bool.false_or, Option.isNone_iff_eq_none] at hnone
      exact hnone
    · rw [List.eq_nil_of_length_eq_zero hspoken]
      exact nofun
  have hnow : (called wished (answered 3 3)).run [] = called wished (answered 3 3) :=
    List.foldl_nil
  exact ⟨⟨a, ha, hok⟩, hnow ▸ hflushed, by decide +kernel⟩

/-- A message with the number that the next request will have. -/
def forgery : Message := ChannelEnd.numbered (HostCommand.sync false).toMessage 1

/-- The client sends the forgery between its two messages. -/
def forged : List (LinkAct Empty) :=
  shaken ++ [.send folderWish, .send forgery, .send Host.wordy]

/-- The application of the host answers by itself. -/
def presumed : List (LinkAct Empty) :=
  List.replicate 3 (.client .write)
    ++ [.tell (forgery.replyWith .null), .host .write, .client (.arrive 1000), .client .read]

/-- **A `sync` can succeed before the host has handled what was handed over before it** when somebody
makes up the number of the request: the client itself, and the word does not show; or the application
of the host, and the host has handled nothing at all. -/
theorem unflushed_forged :
    (Succeeded (calling forged) (called forged (answered 4 2)) ∧
      ¬ (called forged (answered 4 2)).Flushed (calling forged).handed ∧
      (((called forged (answered 4 2)).host.profiles.get? ⟨0⟩).map fun q => q.words.keys)
        = some []) ∧
    Succeeded (calling wished) (called wished presumed) ∧
      ¬ (called wished presumed).Flushed (calling wished).handed := by
  have hunheard : ∀ {l : Link Empty} {earlier}, l.heard.length ≤ earlier.length →
      ¬ l.Flushed earlier := fun hshort hflushed =>
    Nat.not_lt.mpr hshort hflushed.length_lt
  refine ⟨⟨succeeded_of_results (by decide +kernel), hunheard (by decide +kernel), by decide +kernel⟩,
    succeeded_of_results (by decide +kernel), hunheard (by decide +kernel)⟩

end Link

end ControlPlane
