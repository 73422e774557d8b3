import TapeStudio.Proofs.Effects
import TapeStudio.Proofs.Scanning

/-! Which lines are visited when the whole text is coloured. They are counted in the wide sense, in
which more characters end a line than in the box, and are looked up in the box. A line of the box
that is not empty is always among them. -/
namespace TapeStudio

namespace Text

/-- The characters that end a line in the wide sense. -/
def lineBreaks : List Char :=
  ['\n', '\x0b', '\x0c', '\r', '\x1c', '\x1d', '\x1e', '\u0085', '\u2028', '\u2029']

/-- The lines of a text in the wide sense, without what ends them. A carriage return and a newline
end one line, and nothing follows the end of the last one. -/
def wideLines : Text → List Text
  | [] => []
  | '\r' :: '\n' :: rest => [] :: wideLines rest
  | c :: rest =>
    if c ∈ lineBreaks then [] :: wideLines rest
    else match wideLines rest with
      | [] => [[c]]
      | line :: lines => (c :: line) :: lines

theorem isLineBreak_iff {c : Char} : isLineBreak c = true ↔ c ∈ lineBreaks := by
  simp only [isLineBreak, lineBreaks, List.mem_cons, List.not_mem_nil, or_false, ← Char.toNat_inj,
    Bool.or_eq_true, Bool.and_eq_true, decide_eq_true_eq, Char.reduceToNat]
  omega

/-- The loop over a text counts its lines, and one that has begun before it. -/
theorem countLinesFrom_eq (inside : Bool) (t : Text) :
    countLinesFrom inside t = max inside.toNat (wideLines t).length := by
  fun_induction countLinesFrom inside t with
  | case1 => rfl
  | case2 inside h =>
    obtain rfl : inside = false := by simpa using h
    rfl
  | case3 inside rest ih =>
    rw [ih, wideLines]
    cases inside <;> simp [Nat.add_comm]
  | case4 inside c rest hpair hbreak ih =>
    rw [ih, wideLines.eq_3 c rest hpair, if_pos (isLineBreak_iff.mp hbreak)]
    cases inside <;> simp [Nat.add_comm]
  | case5 inside c rest hpair hbreak ih =>
    rw [ih, wideLines.eq_3 c rest hpair, if_neg (mt isLineBreak_iff.mpr hbreak)]
    cases wideLines rest <;> cases inside <;> simp

theorem countLines_eq (t : Text) : countLines t = (wideLines t).length := by
  rw [countLines, countLinesFrom_eq]
  simp

end Text

namespace Session

variable (s : Session)

theorem addTags_nil : s.addTags [] = s := by simp [addTags]

theorem addTags_addTags (tags more : List Tag) :
    (s.addTags tags).addTags more = s.addTags (tags ++ more) := by simp [addTags]

end Session

namespace Command

open Session

theorem highlightLine_of_highlighter {s : Session} (hs : s.highlighter = true) (line : Int) :
    highlightLine (some line) s = .ok ⟨⟩ (s.addTags (s.editor.lineTags line)) := by
  change (if s.highlighter = true then _ else _ : Command Unit) s = _
  rw [if_pos hs]
  rfl

/-- Lines that are coloured one after the other. -/
theorem forM_highlightLine {s : Session} (hs : s.highlighter = true) (numbers : List Int) :
    (forM numbers fun n => highlightLine (some n)) s =
      .ok ⟨⟩ (s.addTags (numbers.flatMap s.editor.lineTags)) := by
  induction numbers generalizing s with
  | nil =>
    rw [List.flatMap_nil, addTags_nil]
    rfl
  | cons n numbers ih =>
    have hlater := ih (s := s.addTags (s.editor.lineTags n)) hs
    rw [List.forM_cons, bind_of_ok (highlightLine_of_highlighter hs n), hlater, addTags_addTags]
    rfl

end Command

namespace TextBox

variable {b : TextBox Char}

theorem colouredLines_eq (b : TextBox Char) : b.colouredLines =
    (List.range (Text.wideLines b.content).length).map fun i => ((i + 1 : Nat) : Int) := by
  rw [colouredLines, Text.countLines_eq]
  rfl

theorem pairwise_colouredLines (b : TextBox Char) : b.colouredLines.Pairwise (· < ·) := by
  rw [colouredLines, List.pairwise_map]
  refine List.pairwise_lt_range.imp ?_
  intro i j hij
  omega

/-- A line of the box that is not empty is visited. -/
theorem mem_colouredLines {n : Nat} {line : Text}
    (hline : (Text.fields '\n' b.content)[n]? = some line) (hne : line ≠ []) :
    ((n + 1 : Nat) : Int) ∈ b.colouredLines :=
  List.mem_map.mpr ⟨n, List.mem_range.mpr (Text.lt_countLinesFrom hline hne), rfl⟩

end TextBox

/-- Colouring a text visits the lines one to `k`, one after the other and each of them once, where
`k` is the number of lines in the wide sense. What it adds are the tags of these lines in this
order, and there are some of each line. What stands in a line of the box is not passed over. Where
programs cannot be coloured, nothing is visited. -/
theorem lines_with_text_visited (s : Session) :
    let k := (Text.wideLines s.editor.content).length
    let numbers := (List.range k).map fun i => ((i + 1 : Nat) : Int)
    (if s.highlighter then forM numbers fun n => Command.highlightLine (some n)
      else pure () : Command Unit) s = .ok ⟨⟩ s.highlight ∧
      s.highlight.journal.tags = s.journal.tags ++
        (if s.highlighter then numbers.flatMap s.editor.lineTags else []) ∧
      numbers.Pairwise (· < ·) ∧
      (∀ n ∈ numbers, s.editor.lineTags n ≠ [] ∧ ∀ tag ∈ s.editor.lineTags n, tag.line = n) ∧
      ∀ n line, (Text.fields '\n' s.editor.content)[n]? = some line → line ≠ [] →
        s.editor.lineText ((n + 1 : Nat) : Int) = line ∧ ((n + 1 : Nat) : Int) ∈ numbers := by
  intro k numbers
  have hnumbers : s.editor.colouredLines = numbers := s.editor.colouredLines_eq
  rw [← hnumbers]
  refine ⟨?_, ?_, s.editor.pairwise_colouredLines, fun n _ => ?_,
    fun n line hline hne => ⟨?_, ?_⟩⟩
  · unfold Session.highlight
    cases hs : s.highlighter with
    | false => rfl
    | true => exact Command.forM_highlightLine hs _
  · unfold Session.highlight
    cases hs : s.highlighter with
    | false => exact (List.append_nil _).symm
    | true => rfl
  · have htile := s.editor.tile_lineTags n
    refine ⟨fun hnil => ?_, fun tag htag => (htile.nonempty tag htag).1⟩
    have hfirst := htile.first
    simp [hnil] at hfirst
  · rw [TextBox.lineText_eq_getD, hline, Option.getD_some]
  · exact TextBox.mem_colouredLines hline hne

/-- Three lines in the wide sense, and in the box two, of which the second is not empty. -/
example : Text.wideLines "a\x0b\r\n\u2028".toList = [['a'], [], []] ∧
    Text.fields '\n' "a\x0b\r\n\u2028".toList = ["a\x0b\r".toList, ['\u2028']] := by decide

end TapeStudio
