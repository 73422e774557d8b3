import TapeStudio.Box.Index
import TapeStudio.Text.CodePoint

/-! A box of text with an insertion cursor. Behind the text there is always one newline more, that
can be read but neither removed nor passed. -/
namespace TapeStudio

/-- The character that ends a line. -/
class LineFeed (α : Type) where
  lineFeed : α

instance : LineFeed Char := ⟨'\n'⟩

instance : LineFeed CodePoint := ⟨.ofChar '\n'⟩

structure TextBox (α : Type) where
  content : List α
  cursor : Nat
  deriving DecidableEq, Repr

namespace TextBox

variable {α : Type}

def empty : TextBox α := ⟨[], 0⟩

section Lines

variable [DecidableEq α] [LineFeed α]

def inLine (a : α) : Bool := a ≠ LineFeed.lineFeed

/-- The text from a line on, if there are so many lines. Lines are counted from zero here. -/
def fromLine? : Nat → List α → Option (List α)
  | 0, t => some t
  | n + 1, t =>
    match t.dropWhile inLine with
    | [] => none
    | _ :: rest => fromLine? n rest

/-- The offset of a place in a line, given by the length of that line. Before the first line it is
the start of the text, after the last one the end of the box. -/
def lineOffset (t : List α) (line : Int) (place : Nat → Nat) : Nat :=
  if line < 1 then 0
  else match fromLine? (line - 1).toNat t with
    | none => t.length + 1
    | some rest => t.length - rest.length + place (rest.takeWhile inLine).length

def offset (b : TextBox α) : BoxIndex → Nat
  | .insertion => b.cursor
  | .finish => b.content.length + 1
  | .lastPlace => b.content.length
  | .column line column => lineOffset b.content line (min column)
  | .lineEnd line => lineOffset b.content line id

/-- Line and column of an offset. -/
def lineColumn (t : List α) (offset : Nat) : Nat × Nat :=
  let before := t.take offset
  (before.countP (fun a => !inLine a) + 1, (before.reverse.takeWhile inLine).length)

def cursorPlace (b : TextBox α) : Nat × Nat := lineColumn b.content b.cursor

/-- What stands between two offsets, the closing newline included. -/
def slice (b : TextBox α) (start stop : Nat) : List α :=
  ((b.content ++ [LineFeed.lineFeed]).take stop).drop start

def lineText (b : TextBox α) (line : Int) : List α :=
  b.slice (b.offset (.column line 0)) (b.offset (.lineEnd line))

/-- All the text with the closing newline. -/
def whole (b : TextBox α) : List α := b.slice 0 (b.offset .finish)

@[simp] theorem whole_eq (b : TextBox α) : b.whole = b.content ++ [LineFeed.lineFeed] := by
  simp [whole, slice, offset, List.take_of_length_le]

end Lines

/-- A cursor at the place of insertion, or after it, moves along. -/
def insertAt (b : TextBox α) (offset : Nat) (t : List α) : TextBox α :=
  let place := min offset b.content.length
  ⟨b.content.take place ++ t ++ b.content.drop place,
    if place ≤ b.cursor then b.cursor + t.length else b.cursor⟩

def append (b : TextBox α) (t : List α) : TextBox α := b.insertAt b.content.length t

def typeText (b : TextBox α) (t : List α) : TextBox α := b.insertAt b.cursor t

/-- Removes what stands between two offsets. A cursor after the first of them moves back, at most
to it. -/
def deleteBetween (b : TextBox α) (start stop : Nat) : TextBox α :=
  let start := min start b.content.length
  let stop := min stop b.content.length
  if start < stop then
    ⟨b.content.take start ++ b.content.drop stop,
      if start < b.cursor then max start (b.cursor - (stop - start)) else b.cursor⟩
  else b

def clear (b : TextBox α) : TextBox α := b.deleteBetween 0 b.content.length

theorem clear_eq {b : TextBox α} (h : b.cursor ≤ b.content.length) : b.clear = empty := by
  obtain ⟨content, cursor⟩ := b
  cases content <;> simp_all [clear, deleteBetween, empty]

def backspace (b : TextBox α) (count : Nat) : TextBox α :=
  b.deleteBetween (b.cursor - count) b.cursor

def moveCursor (b : TextBox α) (offset : Nat) : TextBox α :=
  { b with cursor := min offset b.content.length }

end TextBox

end TapeStudio
