/-
# Which streams are let in

The first frame of a stream decides whether the channel opens.  This says which streams are let in by
their bytes and what these mean, without a word about the end that reads them, and then that the end
accepts exactly these.

* `Handshake.Greets`, `Handshake.Admits`: the hello of a process, and the streams that start with it;
* `Handshake.Verdict`: the one event that a stream deserves;
* `Handshake.check_eq_ok_iff`: what is accepted is a hello for this channel, and nothing else is;
* `Handshake.admits_iff`: a stream is let in exactly if its first frame is accepted.
-/
import ControlPlane.Proofs.Channel.Handshake

namespace ControlPlane

namespace Handshake

/-! ## 1. What a stream deserves -/

/-- **A payload is the hello of a process** that means this channel: it is a message, of the type of
hellos, and it holds one that speaks version 1 and names the channel and a single process. -/
def Greets (name : String) (payload : Bytes) (pid : UInt32) : Prop :=
  ∃ m h, Message.parse payload = .ok m ∧ m.type = MessageType.hello ∧
    Hello.ofJson m.payload = .ok h ∧ h.version = 1 ∧ h.channel = name ∧ h.pid = pid ∧
    1 ≤ pid.toNat ∧ pid.toNat ≤ 2 ^ 31 - 1

/-- **A stream is let in for a process**: it starts with a complete frame, of at most 16 MiB, that is
the hello of that process. -/
def Admits (name : String) (stream : Bytes) (pid : UInt32) : Prop :=
  ∃ payload rest, stream = Frame.encode payload ++ rest ∧
    payload.length ≤ 16 * 1024 * 1024 ∧ Greets name payload pid

/-- **What a stream deserves**: the process that it is let in for, or the failure with number 3. -/
inductive Verdict (name : String) (stream : Bytes) : ChannelEvent → Prop
  | admitted (pid : UInt32) (hadmits : Admits name stream pid) :
      Verdict name stream (.connected pid)
  | refused (hnone : ∀ pid, ¬ Admits name stream pid) (ending : ChannelEnding)
      (hcode : ending.code = 3) : Verdict name stream (.failed ending)

/-! ## 2. What an end accepts -/

/-- A process can be watched if its number is that of a single process. -/
theorem isValidPid_iff {pid : UInt32} :
    ProcessHandle.isValidPid pid = true ↔ 1 ≤ pid.toNat ∧ pid.toNat ≤ 2 ^ 31 - 1 := by
  have hzero : pid ≠ 0 ↔ 1 ≤ pid.toNat := by
    rw [ne_eq, ← UInt32.toNat_inj]
    show ¬ pid.toNat = 0 ↔ _
    omega
  rw [ProcessHandle.isValidPid, Bool.and_eq_true, decide_eq_true_iff, decide_eq_true_iff, hzero]
  exact Iff.rfl

/-- **The payloads that are accepted are the hellos for this channel.** -/
theorem check_eq_ok_iff {name : String} {payload : Bytes} {pid : UInt32} :
    check name payload = .ok pid ↔ Greets name payload pid := by
  constructor
  · intro hcheck
    obtain ⟨m, h, hparse, htype, hpayload, rfl, hpid⟩ := of_check hcheck
    have hjson : Hello.ofJson m.payload = .ok (Hello.make pid name) := by
      unfold Message.payloadAs at hpayload
      split at hpayload
      · next h hjson =>
        cases hpayload
        exact hjson
      · cases hpayload
    exact ⟨m, _, hparse, htype, hjson, rfl, rfl, rfl, isValidPid_iff.1 hpid⟩
  · rintro ⟨m, h, hparse, htype, hjson, hversion, hchannel, rfl, hpid⟩
    have hpayload : m.payloadAs Hello.ofJson = .ok h := Message.payloadAs_of_ok rfl hjson
    have hmeant : ¬ (h.version ≠ protocolVersion ∨ h.channel ≠ name) := by
      simp [protocolVersion, hversion, hchannel]
    simp only [check, hparse, checkMessage, htype, ne_eq, not_true_eq_false, if_false, hpayload]
    rw [checkHello, if_neg hmeant, if_pos (isValidPid_iff.2 hpid)]

/-- **A stream is let in for a process exactly if its first frame is accepted for it.** -/
theorem admits_iff {name : String} {stream : Bytes} {pid : UInt32} :
    Admits name stream pid ↔
      ∃ payload rest, Frame.next stream = .frame payload rest ∧ check name payload = .ok pid := by
  constructor
  · rintro ⟨payload, rest, hstream, hfits, hgreets⟩
    exact ⟨payload, rest, Frame.next_eq_frame_iff.2 ⟨hstream, hfits⟩, check_eq_ok_iff.2 hgreets⟩
  · rintro ⟨payload, rest, hnext, hcheck⟩
    obtain ⟨hstream, hfits⟩ := Frame.next_eq_frame_iff.1 hnext
    exact ⟨payload, rest, hstream, hfits, check_eq_ok_iff.1 hcheck⟩

/-- A stream whose first frame is not accepted is not let in. -/
theorem not_admits_of_check {name : String} {stream payload rest : Bytes} {e : Fault}
    (hnext : Frame.next stream = .frame payload rest) (hcheck : check name payload = .error e)
    (pid : UInt32) : ¬ Admits name stream pid := by
  rw [admits_iff]
  rintro ⟨payload', rest', hnext', hcheck'⟩
  rw [hnext, Frame.Arrival.frame.injEq] at hnext'
  rw [← hnext'.1, hcheck] at hcheck'
  cases hcheck'

/-- Nor is one without a first frame. -/
theorem not_admits_of_next {name : String} {stream : Bytes}
    (hnone : ∀ payload rest, Frame.next stream ≠ .frame payload rest) (pid : UInt32) :
    ¬ Admits name stream pid := by
  rw [admits_iff]
  rintro ⟨payload, rest, hnext, -⟩
  exact hnone payload rest hnext

/-- **A stream is let in for one process.** -/
theorem Admits.unique {name : String} {stream : Bytes} {pid pid' : UInt32}
    (h : Admits name stream pid) (h' : Admits name stream pid') : pid = pid' := by
  obtain ⟨payload, rest, hnext, hcheck⟩ := admits_iff.1 h
  obtain ⟨payload', rest', hnext', hcheck'⟩ := admits_iff.1 h'
  rw [hnext, Frame.Arrival.frame.injEq] at hnext'
  rw [← hnext'.1, hcheck, Except.ok.injEq] at hcheck'
  exact hcheck'

end Handshake

end ControlPlane
