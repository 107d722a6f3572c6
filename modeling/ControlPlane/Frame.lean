/-
# Frames

A connection carries frames: the length of a payload in four bytes, and the payload.  A frame
is accepted up to `maxFrameSize` bytes, and a longer one is refused before its payload is read.

* `Frame.encode`: a payload as a frame;
* `Frame.next`: the first frame of what has arrived so far;
* `Frame.read`: the first frame of a stream that has ended;
* `Frame.readAll`: all frames of such a stream, and how it ends.
-/
import ControlPlane.BigEndian
import ControlPlane.Version

namespace ControlPlane.Frame

/-- **A payload as a frame.**  The length is written in 32 bits. -/
def encode (payload : Bytes) : Bytes :=
  BigEndian.word32 (UInt32.ofNat payload.length) ++ payload

/-- Why no frame can be read. -/
inductive Fault where
  /-- The frame has more bytes than are accepted. -/
  | tooLong (length : Nat)
  /-- The stream ends inside the payload. -/
  | cut
  deriving DecidableEq, Repr

/-- The wording of a fault. -/
def Fault.message : Fault → String
  | .tooLong n =>
    "IPC frame size " ++ toString n ++ " exceeds maximum " ++ toString maxFrameSize
  | .cut => "early eof"

/-- What the bytes that have arrived hold. -/
inductive Arrival where
  /-- A whole frame, and the bytes behind it. -/
  | frame (payload rest : Bytes)
  /-- The beginning of a frame, whose length has arrived if `begun`. -/
  | partly (begun : Bool)
  /-- A length that is not accepted. -/
  | tooLong (length : Nat)
  deriving DecidableEq, Repr

/-- **The first frame of what has arrived.** -/
def next : Bytes → Arrival
  | a :: b :: c :: d :: rest =>
    let n := (BigEndian.ofBytes32 a b c d).toNat
    if maxFrameSize < n then .tooLong n
    else if rest.length < n then .partly true
    else .frame (rest.take n) (rest.drop n)
  | _ => .partly false

/-- What reading from a stream gives that has ended. -/
inductive Outcome where
  | frame (payload rest : Bytes)
  /-- The stream is over.  An end inside the four bytes of a length counts as one. -/
  | done
  | failed (fault : Fault)
  deriving DecidableEq, Repr

/-- **The first frame of a stream** that has ended. -/
def read (stream : Bytes) : Outcome :=
  match next stream with
  | .frame payload rest => .frame payload rest
  | .partly true => .failed .cut
  | .partly false => .done
  | .tooLong n => .failed (.tooLong n)

/-- The frames of a stream, `fuel` of them at most, and the fault it ends with, if any. -/
def readUpTo : (fuel : Nat) → Bytes → List Bytes × Option Fault
  | 0, _ => ([], none)
  | fuel + 1, stream =>
    match read stream with
    | .frame payload rest =>
      let (more, fault) := readUpTo fuel rest
      (payload :: more, fault)
    | .done => ([], none)
    | .failed fault => ([], some fault)

/-- **All frames of a stream** that has ended, and the fault it ends with, if any.  Each frame
takes at least four bytes. -/
def readAll (stream : Bytes) : List Bytes × Option Fault := readUpTo (stream.length + 1) stream

end ControlPlane.Frame
