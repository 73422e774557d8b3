import Mathlib.Algebra.Group.Nat.Defs
import Mathlib.Data.Nat.Log
import TapeStudio.Session.Panes

/-! Lines entered at the input box, and what a waiting program gets of them. The line is found from
the first digit of a line number, so it is the right one as long as that number has one digit. -/
namespace TapeStudio

/-- The first digit of a number in decimal. -/
def leadingDigit (n : Nat) : Nat := n / 10 ^ Nat.log 10 n

theorem leadingDigit_of_lt {n : Nat} (h : n < 10) : leadingDigit n = n := by
  simp [leadingDigit, Nat.log_of_lt h]

theorem leadingDigit_div_ten {n : Nat} (h : 10 ≤ n) : leadingDigit (n / 10) = leadingDigit n := by
  rw [leadingDigit, leadingDigit, Nat.log_of_one_lt_of_le (by decide) h, Nat.pow_succ',
    Nat.div_div_eq_div_mul]

theorem leadingDigit_le (n : Nat) : leadingDigit n ≤ n := Nat.div_le_self _ _

theorem leadingDigit_pos {n : Nat} (h : n ≠ 0) : 0 < leadingDigit n :=
  Nat.div_pos (Nat.pow_log_le_self 10 h) (Nat.pow_pos (by decide))

theorem leadingDigit_lt_ten (n : Nat) : leadingDigit n < 10 := by
  apply Nat.div_lt_of_lt_mul
  rw [← Nat.pow_succ]
  exact Nat.lt_pow_succ_log_self (by decide) n

theorem head?_toDigits (n : Nat) :
    (Nat.toDigits 10 n).head? = some (Nat.digitChar (leadingDigit n)) := by
  induction n using Nat.strongRecOn with
  | ind n ih =>
    by_cases h : n < 10
    · rw [Nat.toDigits_of_lt_base h, leadingDigit_of_lt h]
      rfl
    · have hn : 10 ≤ n := Nat.le_of_not_lt h
      rw [Nat.toDigits_of_base_le (by decide) hn, List.head?_append, ih (n / 10) (by omega),
        leadingDigit_div_ten hn]
      rfl

/-- The line with this number, counted from one. There is no text before the first line and after
the last one. -/
def numberedLine (lines : List Text) : Nat → Text
  | 0 => []
  | n + 1 => lines[n]?.getD []

theorem numberedLine_append {before : List Text} {n : Nat} (h : n ≤ before.length)
    (after : List Text) : numberedLine (before ++ after) n = numberedLine before n := by
  cases n with
  | zero => rfl
  | succ n => rw [numberedLine, numberedLine, List.getElem?_append_left (by omega)]

namespace TextBox

section Lines

variable {α : Type} [DecidableEq α] [LineFeed α]

theorem suffix_of_fromLine? {n : Nat} {t rest : List α} (h : fromLine? n t = some rest) :
    rest <:+ t := by
  induction n generalizing t with
  | zero =>
    obtain rfl := Option.some.inj h
    exact List.suffix_rfl
  | succ n ih =>
    rw [fromLine?] at h
    split at h
    · contradiction
    next a tail htail =>
      have hdrop : tail <:+ t.dropWhile inLine := htail ▸ List.suffix_cons a tail
      exact (ih h).trans (hdrop.trans (List.dropWhile_suffix _))

/-- The text of a line goes up to the next newline. -/
theorem lineText_of_fromLine? {b : TextBox α} {n : Nat} {rest : List α}
    (h : fromLine? n b.content = some rest) :
    b.lineText ((n + 1 : Nat) : Int) = rest.takeWhile inLine := by
  obtain ⟨before, hbefore⟩ := suffix_of_fromLine? h
  have hindex : ((n + 1 : Nat) - 1 : Int).toNat = n := by omega
  have hpositive : ¬ ((n + 1 : Nat) : Int) < 1 := by omega
  have hlength : b.content.length - rest.length = before.length := by
    rw [← hbefore, List.length_append]
    omega
  have hprefix : rest.takeWhile inLine <+: rest ++ [LineFeed.lineFeed] :=
    (List.takeWhile_prefix _).trans (List.prefix_append _ _)
  simp only [lineText, offset, lineOffset, hpositive, if_false, hindex, h, hlength, slice]
  rw [← hbefore, Nat.zero_min, Nat.add_zero, List.append_assoc, List.take_append,
    List.take_of_length_le (by simp), Nat.add_sub_cancel_left, List.drop_left]
  exact (List.prefix_iff_eq_take.mp hprefix).symm

theorem lineText_of_fromLine?_eq_none {b : TextBox α} {n : Nat}
    (h : fromLine? n b.content = none) : b.lineText ((n + 1 : Nat) : Int) = [] := by
  have hpositive : ¬ ((n : Int) + 1 < 1) := by omega
  simp [lineText, offset, lineOffset, hpositive, h, slice]

end Lines

/-- The text of lines with a newline after each. -/
def linesText (lines : List Text) : Text := lines.flatMap (· ++ ['\n'])

/-- A box in which lines were entered one after the other. -/
def ofLines (lines : List Text) : TextBox Char := ⟨linesText lines, (linesText lines).length⟩

theorem linesText_append (before after : List Text) :
    linesText (before ++ after) = linesText before ++ linesText after :=
  List.flatMap_append

theorem typeText_ofLines (lines : List Text) (line : Text) :
    (ofLines lines).typeText (line ++ ['\n']) = ofLines (lines ++ [line]) := by
  have hline : linesText [line] = line ++ ['\n'] := by simp [linesText]
  simp [ofLines, typeText, insertAt, linesText_append, hline]

theorem inLine_of_mem {line : Text} (h : '\n' ∉ line) {c : Char} (hc : c ∈ line) :
    inLine c = true := by
  have hne : c ≠ '\n' := fun heq => h (heq ▸ hc)
  simpa [inLine, LineFeed.lineFeed] using hne

theorem cursorPlace_ofLines {lines : List Text} (h : ∀ line ∈ lines, '\n' ∉ line) :
    (ofLines lines).cursorPlace.1 = lines.length + 1 := by
  have hcount : (linesText lines).countP (fun c => !inLine c) = lines.length := by
    induction lines with
    | nil => rfl
    | cons line rest ih =>
      have hline : line.countP (fun c => !inLine c) = 0 := by
        rw [List.countP_eq_zero]
        intro c hc
        simp [inLine_of_mem (h line (by simp)) hc]
      have hrest := ih fun line hmem => h line (List.mem_cons_of_mem _ hmem)
      have hnewline : (['\n'] : Text).countP (fun c => !inLine c) = 1 := by decide
      rw [linesText] at hrest ⊢
      rw [List.flatMap_cons, List.countP_append, List.countP_append, hline, hnewline, hrest,
        List.length_cons]
      omega
  simp [cursorPlace, lineColumn, ofLines, hcount]

theorem takeWhile_line {line : Text} (h : '\n' ∉ line) (rest : Text) :
    (line ++ '\n' :: rest).takeWhile inLine = line := by
  rw [List.takeWhile_append_of_pos fun c hc => inLine_of_mem h hc]
  simp [inLine, LineFeed.lineFeed]

theorem dropWhile_line {line : Text} (h : '\n' ∉ line) (rest : Text) :
    (line ++ '\n' :: rest).dropWhile inLine = '\n' :: rest := by
  rw [List.dropWhile_append_of_pos fun c hc => inLine_of_mem h hc]
  simp [inLine, LineFeed.lineFeed]

theorem fromLine?_linesText {lines : List Text} (h : ∀ line ∈ lines, '\n' ∉ line) (n : Nat) :
    fromLine? n (linesText lines) =
      if n ≤ lines.length then some (linesText (lines.drop n)) else none := by
  induction n generalizing lines with
  | zero => simp [fromLine?]
  | succ n ih =>
    cases lines with
    | nil => simp [fromLine?, linesText]
    | cons line rest =>
      have hcons : linesText (line :: rest) = line ++ '\n' :: linesText rest := by
        simp [linesText]
      rw [fromLine?, hcons, dropWhile_line (h line (by simp))]
      dsimp only
      rw [ih fun line hmem => h line (List.mem_cons_of_mem _ hmem)]
      simp

theorem lineText_ofLines {lines : List Text} (h : ∀ line ∈ lines, '\n' ∉ line) (n : Nat) :
    (ofLines lines).lineText (n : Int) = numberedLine lines n := by
  cases n with
  | zero => simp [lineText, offset, lineOffset, slice, numberedLine]
  | succ n =>
    have hfrom := fromLine?_linesText h n
    by_cases hn : n ≤ lines.length
    · rw [if_pos hn] at hfrom
      rw [lineText_of_fromLine? (b := ofLines lines) hfrom, numberedLine]
      cases hdrop : lines.drop n with
      | nil =>
        have hlast : lines.length ≤ n := List.drop_eq_nil_iff.mp hdrop
        simp [linesText, List.getElem?_eq_none hlast]
      | cons line rest =>
        have hline : lines[n]? = some line := by
          rw [← List.head?_drop, hdrop]
          rfl
        have hmem : line ∈ lines := List.mem_of_getElem? hline
        have hcons : linesText (line :: rest) = line ++ '\n' :: linesText rest := by
          simp [linesText]
        rw [hline, hcons, takeWhile_line (h line hmem)]
        rfl
    · rw [if_neg hn] at hfrom
      rw [lineText_of_fromLine?_eq_none (b := ofLines lines) hfrom, numberedLine,
        List.getElem?_eq_none (by omega)]
      rfl

end TextBox

namespace Session

variable (press type : Text → Session → Session) {s : Session}

theorem enteredLineNumber_eq (box : TextBox Char) :
    enteredLineNumber box = (leadingDigit box.cursorPlace.1 : Int) - 1 := by
  have hhead := head?_toDigits box.cursorPlace.1
  unfold enteredLineNumber
  split
  next c rest hdigits =>
    rw [hdigits] at hhead
    obtain rfl := Option.some.inj hhead
    rw [Nat.toNat_digitChar_of_lt_ten (leadingDigit_lt_ten _)]
    have hzero : '0'.toNat = 48 := rfl
    omega
  next hdigits =>
    rw [hdigits] at hhead
    contradiction

/-- What is taken for the line just entered, when lines were entered one after the other. -/
theorem enteredLine_of_ofLines {lines : List Text} (h : ∀ line ∈ lines, '\n' ∉ line)
    (hs : s.input = .ofLines lines) :
    s.enteredLine = numberedLine lines (leadingDigit (lines.length + 1) - 1) := by
  have hpos : 0 < leadingDigit (lines.length + 1) := leadingDigit_pos (by omega)
  have hnumber : enteredLineNumber s.input =
      ((leadingDigit (lines.length + 1) - 1 : Nat) : Int) := by
    rw [enteredLineNumber_eq, hs, TextBox.cursorPlace_ofLines h]
    omega
  rw [enteredLine, hnumber, hs, TextBox.lineText_ofLines h]

/-- With less than nine lines the line just entered is found. -/
theorem enteredLine_of_length_le {lines : List Text} {line : Text}
    (h : ∀ line' ∈ lines ++ [line], '\n' ∉ line') (hs : s.input = .ofLines (lines ++ [line]))
    (hlength : lines.length < 8) : s.enteredLine = line := by
  have hdigit : leadingDigit ((lines ++ [line]).length + 1) = lines.length + 2 := by
    rw [leadingDigit_of_lt (by simp; omega)]
    simp
  rw [enteredLine_of_ofLines h hs, hdigit]
  simp [numberedLine]

/-- The session after a line was entered in answer to a wait. -/
def answered (s : Session) (line : Text) (later : List Gesture) : Session :=
  { s with script := { s.script with gestures := later } }.enterLine line

theorem awaitLine_of_enterLine {line : Text} {later : List Gesture}
    (h : s.script.gestures = .enterLine line :: later) :
    awaitLine press type s =
      (.line (s.answered line later).enteredLine, s.answered line later) := by
  simp [awaitLine, attend, h, answered, enterLine]

theorem input_answered {lines : List Text} (hs : s.input = .ofLines lines) (line : Text)
    (later : List Gesture) : (s.answered line later).input = .ofLines (lines ++ [line]) := by
  rw [← TextBox.typeText_ofLines, ← hs]
  rfl

/-- What successive waits give. -/
def readings : Nat → Session → List Reading
  | 0, _ => []
  | n + 1, s => (awaitLine press type s).1 :: readings n (awaitLine press type s).2

theorem readings_of_ofLines {before after : List Text}
    (h : ∀ line ∈ before ++ after, '\n' ∉ line) (hinput : s.input = .ofLines before)
    (hgestures : s.script.gestures = after.map .enterLine) :
    readings press type after.length s = (List.range after.length).map fun i =>
      .line (numberedLine (before ++ after) (leadingDigit (before.length + i + 2) - 1)) := by
  induction after generalizing s before with
  | nil => rfl
  | cons line after ih =>
    have hsplit : before ++ line :: after = before ++ [line] ++ after := by simp
    have hbefore : ∀ line' ∈ before ++ [line], '\n' ∉ line' := fun line' hmem =>
      h line' (hsplit ▸ List.mem_append_left _ hmem)
    have hanswered := input_answered hinput line (after.map .enterLine)
    have hread := awaitLine_of_enterLine press type (s := s) hgestures
    have hfirst : (s.answered line (after.map .enterLine)).enteredLine =
        numberedLine (before ++ line :: after) (leadingDigit (before.length + 2) - 1) := by
      have hlength : (before ++ [line]).length + 1 = before.length + 2 := by simp
      have hle := leadingDigit_le (before.length + 2)
      have hwithin : leadingDigit (before.length + 2) - 1 ≤ (before ++ [line]).length := by omega
      rw [enteredLine_of_ofLines hbefore hanswered, hlength, hsplit, numberedLine_append hwithin]
    have hrest := ih (s := s.answered line (after.map .enterLine)) (hsplit ▸ h) hanswered rfl
    rw [List.length_cons, readings, hread, List.range_succ_eq_map, List.map_cons, hrest, hfirst,
      List.map_map, hsplit]
    congr 1
    apply List.map_congr_left
    intro i _
    simp only [Function.comp_apply, List.length_append, List.length_singleton]
    have hindex : before.length + 1 + i + 2 = before.length + i.succ + 2 := by omega
    rw [hindex]

end Session

/-- The user enters lines one after the other at an empty input box, each while the program waits.
The wait with number `i`, counted from zero, gives the line whose number is one less than the first
digit of `i + 2`. So the first eight lines are read as they were entered, and all are exactly if
each later one happens to be the same as the line that is read in its place. -/
theorem waits_give_line_of_leading_digit (press type : Text → Session → Session) {s : Session}
    {lines : List Text} (hlines : ∀ line ∈ lines, '\n' ∉ line) (hinput : s.input = .empty)
    (hgestures : s.script.gestures = lines.map .enterLine) :
    (∀ i < lines.length, (Session.readings press type lines.length s)[i]? =
      some (.line (numberedLine lines (leadingDigit (i + 2) - 1)))) ∧
    (∀ i < lines.length, i < 8 →
      (Session.readings press type lines.length s)[i]? = lines[i]?.map .line) ∧
    (Session.readings press type lines.length s = lines.map .line ↔
      ∀ i < lines.length, 8 ≤ i →
        lines[i]? = some (numberedLine lines (leadingDigit (i + 2) - 1))) := by
  have hentered : ∀ line ∈ [] ++ lines, '\n' ∉ line := hlines
  have hreadings := Session.readings_of_ofLines press type hentered hinput hgestures
  have hget : ∀ i < lines.length, (Session.readings press type lines.length s)[i]? =
      some (.line (numberedLine lines (leadingDigit (i + 2) - 1))) := by
    intro i hi
    rw [hreadings, List.getElem?_map, List.getElem?_range hi]
    simp
  have hearly : ∀ i < lines.length, i < 8 →
      lines[i]? = some (numberedLine lines (leadingDigit (i + 2) - 1)) := by
    intro i hi hi8
    rw [leadingDigit_of_lt (by omega), Nat.add_sub_cancel (n := i + 1) (m := 1), numberedLine,
      List.getElem?_eq_getElem hi]
    rfl
  refine ⟨hget, ?_, ?_⟩
  · intro i hi hi8
    rw [hget i hi, hearly i hi hi8]
    rfl
  · constructor
    · intro hall i hi _
      have hi' := hget i hi
      rw [hall, List.getElem?_map, List.getElem?_eq_getElem hi] at hi'
      rw [List.getElem?_eq_getElem hi]
      simpa using hi'
    · intro hlate
      apply List.ext_getElem?
      intro i
      by_cases hi : i < lines.length
      · have hline : lines[i]? = some (numberedLine lines (leadingDigit (i + 2) - 1)) := by
          by_cases hi8 : i < 8
          · exact hearly i hi hi8
          · exact hlate i hi (by omega)
        rw [hget i hi, List.getElem?_map, hline]
        rfl
      · have hlength : (Session.readings press type lines.length s).length = lines.length := by
          simp [hreadings]
        rw [List.getElem?_eq_none (by omega), List.getElem?_eq_none (by simp; omega)]

/-- Nineteen lines: the last wait gives the first of them. -/
theorem waits_give_line_of_leading_digit_nineteen :
    let lines := "abcdefghijklmnopqrs".toList.map ([·])
    let s := Session.initial .empty { Script.silent with gestures := lines.map .enterLine }
    (Session.readings (fun _ s => s) (fun _ s => s) 19 s)[18]? = some (.line ['a']) := by
  intro lines s
  have hlines : ∀ line ∈ lines, '\n' ∉ line := by decide
  have hdigit : leadingDigit 20 = 2 :=
    (leadingDigit_div_ten (by decide)).symm.trans (leadingDigit_of_lt (by decide))
  have hread := (waits_give_line_of_leading_digit (fun _ s => s) (fun _ s => s) (s := s) hlines
    rfl rfl).1 18 (by decide)
  rw [hdigit] at hread
  exact hread

/-- Nine lines that are all the same: the last wait gives an empty line instead. -/
theorem ninth_line_not_read :
    let lines := List.replicate 9 ['a']
    let s := Session.initial .empty { Script.silent with gestures := lines.map .enterLine }
    (∀ line ∈ lines, '\n' ∉ line) ∧ s.input = .empty ∧
      s.script.gestures = lines.map .enterLine ∧
      Session.readings (fun _ s => s) (fun _ s => s) 9 s =
        List.replicate 8 (.line ['a']) ++ [.line []] ∧
      Session.readings (fun _ s => s) (fun _ s => s) 9 s ≠ lines.map .line := by
  decide

end TapeStudio
