import TapeStudio.Program.Instruction
import TapeStudio.Proofs.Balance

/-! The bracket structure of program texts. Every text consists of blocks of matched brackets with
surplus closing brackets and then surplus open ones between them, and in one way only. -/
namespace TapeStudio

/-- The commands that are no brackets. -/
inductive Operation where
  | moveRight | moveLeft | increment | decrement | print | read
  deriving DecidableEq, Repr

namespace Operation

def symbol : Operation → Char
  | .moveRight => '>'
  | .moveLeft => '<'
  | .increment => '+'
  | .decrement => '-'
  | .print => '.'
  | .read => ','

def instruction : Operation → Instruction
  | .moveRight => .moveRight
  | .moveLeft => .moveLeft
  | .increment => .increment
  | .decrement => .decrement
  | .print => .print
  | .read => .read

@[simp] theorem ofChar?_symbol (o : Operation) :
    Instruction.ofChar? o.symbol = some o.instruction := by cases o <;> rfl

theorem symbol_ne_open (o : Operation) : o.symbol ≠ '[' := by cases o <;> decide

theorem symbol_ne_close (o : Operation) : o.symbol ≠ ']' := by cases o <;> decide

end Operation

theorem Instruction.ne_bracket_of_comment {c : Char} (h : Instruction.ofChar? c = none) :
    c ≠ '[' ∧ c ≠ ']' := by
  constructor <;> rintro rfl <;> simp [Instruction.ofChar?] at h

/-- A sequence of commands, comments and matched loops. -/
inductive Block where
  | done
  | command (operation : Operation) (rest : Block)
  | comment (c : Char) (h : Instruction.ofChar? c = none) (rest : Block)
  | loop (body rest : Block)

/-- Blocks with unmatched open brackets between them. -/
inductive Outline where
  | last (block : Block)
  | opening (block : Block) (rest : Outline)

/-- Blocks, with unmatched closing brackets before all unmatched open ones. -/
inductive Layout where
  | outline (outline : Outline)
  | closing (block : Block) (rest : Layout)

namespace Block

def text : Block → Text
  | .done => []
  | .command o rest => o.symbol :: rest.text
  | .comment c _ rest => c :: rest.text
  | .loop body rest => '[' :: (body.text ++ ']' :: rest.text)

def append : Block → Block → Block
  | .done, b => b
  | .command o rest, b => .command o (rest.append b)
  | .comment c h rest, b => .comment c h (rest.append b)
  | .loop body rest, b => .loop body (rest.append b)

@[simp] theorem append_done (b : Block) : b.append .done = b := by
  induction b with
  | done => rfl
  | command o rest ih => rw [append, ih]
  | comment c h rest ih => rw [append, ih]
  | loop body rest _ ih => rw [append, ih]

end Block

def Outline.text : Outline → Text
  | .last b => b.text
  | .opening b rest => b.text ++ '[' :: rest.text

/-- Changes the first block. -/
def Outline.mapFirst (f : Block → Block) : Outline → Outline
  | .last b => .last (f b)
  | .opening b rest => .opening (f b) rest

namespace Layout

def text : Layout → Text
  | .outline o => o.text
  | .closing b rest => b.text ++ ']' :: rest.text

def mapFirst (f : Block → Block) : Layout → Layout
  | .outline o => .outline (o.mapFirst f)
  | .closing b rest => .closing (f b) rest

/-- Puts an open bracket in front. It makes a loop of the first block if that is closed. -/
def enclose : Layout → Layout
  | .outline o => .outline (.opening .done o)
  | .closing b rest => rest.mapFirst (.loop b)

/-- Puts a character in front. -/
def place (c : Char) (l : Layout) : Layout :=
  match h : Instruction.ofChar? c with
  | none => l.mapFirst (.comment c h)
  | some .loopStart => l.enclose
  | some .loopEnd => .closing .done l
  | some .moveRight => l.mapFirst (.command .moveRight)
  | some .moveLeft => l.mapFirst (.command .moveLeft)
  | some .increment => l.mapFirst (.command .increment)
  | some .decrement => l.mapFirst (.command .decrement)
  | some .print => l.mapFirst (.command .print)
  | some .read => l.mapFirst (.command .read)

def ofText : Text → Layout
  | [] => .outline (.last .done)
  | c :: t => place c (ofText t)

theorem mapFirst_comp (f g : Block → Block) (l : Layout) :
    (l.mapFirst g).mapFirst f = l.mapFirst fun b => f (g b) := by
  rcases l with (b | ⟨b, rest⟩) | ⟨b, rest⟩ <;> rfl

theorem text_mapFirst {f : Block → Block} {u : Text} (hf : ∀ b, (f b).text = u ++ b.text)
    (l : Layout) : (l.mapFirst f).text = u ++ l.text := by
  rcases l with (b | ⟨b, rest⟩) | ⟨b, rest⟩ <;>
    simp [mapFirst, Outline.mapFirst, text, Outline.text, hf]

theorem text_enclose (l : Layout) : l.enclose.text = '[' :: l.text := by
  cases l with
  | outline o => rfl
  | closing b rest =>
    rw [enclose, text_mapFirst (u := '[' :: (b.text ++ [']'])) (by simp [Block.text])]
    simp [text]

theorem place_symbol (o : Operation) (l : Layout) :
    place o.symbol l = l.mapFirst (.command o) := by cases o <;> rfl

theorem place_comment {c : Char} (h : Instruction.ofChar? c = none) (l : Layout) :
    place c l = l.mapFirst (.comment c h) := by
  unfold place
  split <;> simp_all

theorem text_place (c : Char) (l : Layout) : (place c l).text = c :: l.text := by
  have hcommand (o : Operation) : (l.mapFirst (.command o)).text = o.symbol :: l.text :=
    text_mapFirst (u := [o.symbol]) (fun _ => rfl) l
  by_cases hc : Instruction.ofChar? c = none
  · rw [place_comment hc]
    exact text_mapFirst (u := [c]) (fun _ => rfl) l
  · -- the eight characters that are no comments
    unfold Instruction.ofChar? at hc
    split at hc
    · exact hcommand .moveRight
    · exact hcommand .moveLeft
    · exact hcommand .increment
    · exact hcommand .decrement
    · exact hcommand .print
    · exact hcommand .read
    · exact text_enclose l
    · rfl
    · contradiction

theorem text_ofText (t : Text) : (ofText t).text = t := by
  induction t with
  | nil => rfl
  | cons c t ih => rw [ofText, text_place, ih]

/-- A block in front of a text becomes part of the first block. -/
theorem ofText_block_append (b : Block) (t : Text) :
    ofText (b.text ++ t) = (ofText t).mapFirst b.append := by
  induction b generalizing t with
  | done =>
    change ofText t = _
    rcases ofText t with (b | ⟨b, rest⟩) | ⟨b, rest⟩ <;> rfl
  | command o rest ih =>
    rw [Block.text, List.cons_append, ofText, place_symbol, ih, mapFirst_comp]
    rfl
  | comment c h rest ih =>
    rw [Block.text, List.cons_append, ofText, place_comment h, ih, mapFirst_comp]
    rfl
  | loop body rest ihb ih =>
    have hclosed : ofText (body.text ++ ']' :: (rest.text ++ t)) =
        .closing body ((ofText t).mapFirst rest.append) := by
      rw [ihb, ofText, ih]
      change closing (body.append .done) _ = _
      rw [Block.append_done]
    have htext : (Block.loop body rest).text ++ t =
        '[' :: (body.text ++ ']' :: (rest.text ++ t)) := by simp [Block.text]
    rw [htext, ofText, hclosed]
    exact mapFirst_comp _ _ _

private theorem ofText_outline_text (o : Outline) : ofText o.text = .outline o := by
  induction o with
  | last b =>
    rw [Outline.text, ← List.append_nil b.text, ofText_block_append]
    change outline (.last (b.append .done)) = _
    rw [Block.append_done]
  | opening b rest ih =>
    rw [Outline.text, ofText_block_append, ofText, ih]
    change outline (.opening (b.append .done) rest) = _
    rw [Block.append_done]

/-- A text has only one layout. -/
theorem ofText_text (l : Layout) : ofText l.text = l := by
  induction l with
  | outline o => exact ofText_outline_text o
  | closing b rest ih =>
    rw [text, ofText_block_append, ofText, ih]
    change closing (b.append .done) rest = _
    rw [Block.append_done]

end Layout

theorem Outline.text_injective {o o' : Outline} (h : o.text = o'.text) : o = o' := by
  have hl := Layout.ofText_text (.outline o)
  rw [Layout.text, h] at hl
  exact Layout.outline.inj (hl.symm.trans (Layout.ofText_text (.outline o')))

namespace Brackets

/-- A block closes exactly what it opens. -/
theorem overclosedAfter_block (b : Block) (depth : Nat) (t : Text) :
    OverclosedAfter depth (b.text ++ t) ↔ OverclosedAfter depth t := by
  induction b generalizing depth t with
  | done => rfl
  | command o rest ih =>
    rw [Block.text, List.cons_append, overclosedAfter_plain o.symbol_ne_open o.symbol_ne_close, ih]
  | comment c h rest ih =>
    obtain ⟨ho, hc⟩ := Instruction.ne_bracket_of_comment h
    rw [Block.text, List.cons_append, overclosedAfter_plain ho hc, ih]
  | loop body rest ihb ih =>
    rw [Block.text, List.cons_append, List.append_assoc, overclosedAfter_open, ihb,
      List.cons_append, overclosedAfter_close_succ, ih]

theorem not_overclosedAfter_outline (o : Outline) (depth : Nat) :
    ¬ OverclosedAfter depth o.text := by
  induction o generalizing depth with
  | last b =>
    rw [Outline.text, ← List.append_nil b.text, overclosedAfter_block]
    exact overclosedAfter_nil depth
  | opening b rest ih =>
    rw [Outline.text, overclosedAfter_block, overclosedAfter_open]
    exact ih (depth + 1)

theorem not_overclosed_outline (o : Outline) : ¬ Overclosed o.text :=
  fun h => not_overclosedAfter_outline o 0 (overclosedAfter_zero.mpr h)

theorem exists_outline {t : Text} (h : ¬ Overclosed t) : ∃ o : Outline, o.text = t := by
  have ht := Layout.text_ofText t
  cases hl : Layout.ofText t with
  | outline o => exact ⟨o, by rwa [hl] at ht⟩
  | closing b rest =>
    rw [hl, Layout.text] at ht
    refine absurd ?_ h
    rw [← ht, ← overclosedAfter_zero, overclosedAfter_block]
    exact overclosedAfter_close_zero _

theorem count_block (b : Block) : b.text.count '[' = b.text.count ']' := by
  induction b with
  | done => rfl
  | command o rest ih =>
    simp only [Block.text, List.count_cons_of_ne o.symbol_ne_open,
      List.count_cons_of_ne o.symbol_ne_close, ih]
  | comment c h rest ih =>
    obtain ⟨ho, hc⟩ := Instruction.ne_bracket_of_comment h
    simp only [Block.text, List.count_cons_of_ne ho, List.count_cons_of_ne hc, ih]
  | loop body rest ihb ih => simp [Block.text, ihb, ih]; omega

theorem balanced_block (b : Block) : Balanced b.text :=
  ⟨count_block b, not_overclosed_outline (.last b)⟩

end Brackets

end TapeStudio
