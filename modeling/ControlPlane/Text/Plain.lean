/-
# Plain text

A text for a terminal holds control sequences besides the characters that show, among them those
that set its style.  Plain text is what is left once they are taken out.  The sequences are the
standard ones: an escape character opens an escape sequence, and what follows it may open a
control sequence, a system command or a control string.  A sequence that never ends takes what
follows with it, up to the next escape character.

* `Terminal.next`: where a terminal stands behind a character;
* `plain`: the plain text of a text for a terminal;
* `styled`: a text in a style.
-/
namespace ControlPlane.Text

/-! ## 1. Control sequences -/

/-- **Where a terminal stands** in a text. -/
inductive Terminal where
  /-- Outside any sequence. -/
  | ground
  /-- Behind an escape character. -/
  | escape
  /-- Behind a mark of an escape sequence that goes on. -/
  | escapeMark
  /-- In a control sequence, which ends with a letter. -/
  | control
  /-- In a system command, which ends with a bell. -/
  | command
  /-- At the head of a device control string. -/
  | deviceHead
  /-- In the parameters of a device control string. -/
  | deviceParameters
  /-- Behind the parameters of a device control string. -/
  | deviceMark
  /-- In the body of a control string, which ends with a string terminator. -/
  | body
  deriving DecidableEq, Repr

namespace Terminal

/-- Behind an escape character and the character with this code point. -/
def behindEscape (n : Nat) : Terminal :=
  if n < 0x20 || 0x7E < n then .escape
  else if n < 0x30 then .escapeMark
  else
    match Char.ofNat n with
    | '[' => .control
    | ']' => .command
    | 'P' => .deviceHead
    | 'X' | '^' | '_' => .body
    | _ => .ground

/-- Whether a code point is that of a character that ends a sequence. -/
def isFinal (n : Nat) : Bool := 0x40 ≤ n && n ≤ 0x7E

/-- Whether a code point is that of a mark in front of the end of a sequence. -/
def isMark (n : Nat) : Bool := 0x20 ≤ n && n < 0x30

/-- Whether a character brings the string terminator, which is looked for byte by byte. -/
def endsString (c : Char) : Bool := (String.utf8EncodeChar c).contains 0x9C

/-- **Where a terminal stands behind a character** that does not show. -/
def next (t : Terminal) (c : Char) : Terminal :=
  let n := c.toNat
  if n = 0x18 || n = 0x1A then .ground
  else if n = 0x1B then .escape
  else
    match t with
    | .ground => .ground
    | .escape => behindEscape n
    | .escapeMark => if 0x30 ≤ n && n ≤ 0x7E then .ground else .escapeMark
    | .control => if isFinal n then .ground else .control
    | .command => if n = 0x07 then .ground else .command
    | .deviceHead =>
      if isFinal n then .body
      else if isMark n then .deviceMark
      else if 0x30 ≤ n && n < 0x40 then .deviceParameters
      else .deviceHead
    | .deviceParameters =>
      if isFinal n || 0x3C ≤ n && n < 0x40 then .body
      else if isMark n then .deviceMark
      else .deviceParameters
    | .deviceMark => if 0x30 ≤ n && n ≤ 0x7E then .body else .deviceMark
    | .body => if endsString c then .ground else .body

/-- Whether a character is a control that shows as a gap between others. -/
def isGap (c : Char) : Bool := c = '\t' || c = '\n' || c = '\x0c' || c = '\r'

/-- Whether a character shows.  Gaps do also inside the short sequences, strings show nothing. -/
def shows (t : Terminal) (c : Char) : Bool :=
  match t with
  | .ground => 0x20 ≤ c.toNat && c.toNat ≠ 0x7F || isGap c
  | .escape | .escapeMark | .control => isGap c
  | _ => false

end Terminal

/-! ## 2. Plain text -/

/-- The characters that show.  Once a run of them has begun, it goes on up to a control, wherever
it began; only a character beyond ASCII then makes a terminal forget the sequence around it. -/
def plainChars (t : Terminal) (running : Bool) : List Char → List Char
  | [] => []
  | c :: cs =>
    if (if running then Terminal.ground else t).shows c then
      c :: plainChars (if c.toNat < 0x80 then t else .ground) true cs
    else plainChars (t.next c) false cs

/-- Characters that show outside any sequence are kept. -/
theorem plainChars_ground {cs : List Char} (running : Bool)
    (h : ∀ c ∈ cs, Terminal.ground.shows c = true) : plainChars .ground running cs = cs := by
  induction cs generalizing running with
  | nil => rfl
  | cons c cs ih =>
    have hc := h c (by simp)
    have hcs := ih true fun d hd => h d (by simp [hd])
    cases running <;> simp [plainChars, hc, hcs]

/-- **The plain text** of a text for a terminal. -/
def plain (s : String) : String := String.ofList (plainChars .ground false s.toList)

/-! ## 3. Styles -/

/-- A style of a terminal. -/
inductive Style where
  | bold
  | yellow
  | boldRed
  deriving DecidableEq, Repr

/-- The control sequences that set a style. -/
def Style.opening : Style → String
  | .bold => "\x1b[1m"
  | .yellow => "\x1b[33m"
  | .boldRed => "\x1b[1m\x1b[31m"

/-- **A text in a style**, which ends with it. -/
def styled (style : Style) (s : String) : String := style.opening ++ s ++ "\x1b[0m"

end ControlPlane.Text
