import ClientTraits.Request.Template

/-!
# Templates by byte position

The tokens of a template as slices of its UTF-8 bytes. A machine with three states goes over the
bytes: in literal text, behind a colon, and inside a name. When a byte turns out to end a name or
not to start one, the machine changes its state and looks at the same byte again. All cuts are made
beside bytes of ASCII, so that no character is cut in two.
-/

namespace ClientTraits.Template

/-- A token as the half-open range of its bytes. The colon of a placeholder is outside it. -/
inductive Cut
  | literal (start stop : Nat)
  | placeholder (start stop : Nat)
  deriving DecidableEq, Repr

/-- What the machine is reading. -/
inductive Reading
  | literal
  /-- The byte before was a colon. -/
  | colon
  /-- Inside the name that starts at the given byte. -/
  | name (start : Nat)
  deriving DecidableEq, Repr

/-- A state of the machine. -/
structure Scanner where
  reading : Reading
  /-- Where the literal text begins that is not cut yet. -/
  literalStart : Nat
  position : Nat
  /-- The cuts made so far, the last one first. -/
  cuts : List Cut
  deriving DecidableEq, Repr

namespace Scanner

/-- The state before the first byte. -/
def initial : Scanner := ⟨.literal, 0, 0, []⟩

/-- Bytes of a name behind its first. -/
def isNameByte (b : UInt8) : Bool :=
  (0x30 ≤ b && b ≤ 0x39) || (0x41 ≤ b && b ≤ 0x5A) || (0x61 ≤ b && b ≤ 0x7A) || b == 0x5F

/-- Cut the name that ends at the position, and the literal text before its colon, if any. -/
def cutName (s : Scanner) (start : Nat) : Scanner :=
  let before := if s.literalStart < start - 1 then [Cut.literal s.literalStart (start - 1)] else []
  ⟨.literal, s.position, s.position, .placeholder start s.position :: before ++ s.cuts⟩

/-- One transition on the byte at the position. -/
def step (s : Scanner) (b : UInt8) : Scanner :=
  match s.reading with
  | .literal =>
    { s with reading := if b = 0x3A then .colon else .literal, position := s.position + 1 }
  | .colon =>
    if 0x61 ≤ b ∧ b ≤ 0x7A then { s with reading := .name s.position, position := s.position + 1 }
    else { s with reading := .literal }
  | .name start => if isNameByte b then { s with position := s.position + 1 } else s.cutName start

/-- A transition without a move leads to the literal state, which always moves. -/
def rank (s : Scanner) : Nat :=
  if s.reading = .literal then 0 else 1

theorem step_decreases (s : Scanner) (b : UInt8) (size : Nat) (h : s.position < size) :
    2 * (size - (s.step b).position) + (s.step b).rank < 2 * (size - s.position) + s.rank := by
  unfold step
  split
  · next hr =>
    have h0 : s.rank = 0 := by simp [rank, hr]
    have h1 : ∀ t : Scanner, t.rank ≤ 1 := fun t => by unfold rank; split <;> omega
    have := h1 { s with
      reading := if b = 0x3A then .colon else .literal, position := s.position + 1 }
    simp only at *
    omega
  · next hr =>
    have h0 : s.rank = 1 := by simp [rank, hr]
    split
    · simp only [rank]
      split <;> split <;> omega
    · simp only [rank, hr]
      simp
  · next start hr =>
    have h0 : s.rank = 1 := by simp [rank, hr]
    split
    · simp only [rank, hr]
      simp
      omega
    · simp only [cutName, h0]
      simp [rank]

/-- Cut what is left at the end of the text. -/
def finish (s : Scanner) : List Cut :=
  let s := match s.reading with
    | .name start => s.cutName start
    | _ => s
  if s.literalStart < s.position then .literal s.literalStart s.position :: s.cuts else s.cuts

/-- Run the machine to the end of the bytes. -/
def run (bytes : ByteArray) (s : Scanner) : List Cut :=
  if h : s.position < bytes.size then run bytes (s.step bytes[s.position]) else s.finish
  termination_by 2 * (bytes.size - s.position) + s.rank
  decreasing_by exact step_decreases s _ _ h

end Scanner

/-- The cuts of a template, from left to right. -/
def cuts (template : String) : List Cut :=
  (Scanner.initial.run template.toUTF8).reverse

end ClientTraits.Template
