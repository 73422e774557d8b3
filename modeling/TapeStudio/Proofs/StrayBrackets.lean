import TapeStudio.Proofs.LineColours
import TapeStudio.Proofs.StoredText
import TapeStudio.Proofs.TapeInvariant

/-! A text that is refused for its brackets has a line that closes too much by itself, and for that
line a closing bracket is shown as an error. It is shown further to the left than it stands if
characters at the front of the line are not scanned. Lines are scanned one by one, so the converse
holds of a single line only. -/
namespace TapeStudio

open Brackets

namespace Text

variable {t u : Text}

theorem newline_notMem_symbols : '\n' ∉ Instruction.symbols := by simp [Instruction.symbols]

theorem commands_append_newline (t : Text) : commands (t ++ ['\n']) = commands t := by
  rw [commands_append, commands_cons_of_notMem newline_notMem_symbols]
  exact List.append_nil _

theorem commands_dropTrailingNewlines (t : Text) :
    commands (dropTrailingNewlines t) = commands t := by
  induction t using List.reverseRecOn with
  | nil => rfl
  | append_singleton t c ih =>
    by_cases hc : c = '\n'
    · rw [hc, dropTrailingNewlines_append_newline, ih, commands_append_newline]
    · exact congrArg commands (List.rdropWhile_concat_neg _ _ _ (by simpa using hc))

theorem commands_unifyNewlines (t : Text) : commands (unifyNewlines t) = commands t := by
  have hreturn : '\r' ∉ Instruction.symbols := by simp [Instruction.symbols]
  fun_induction unifyNewlines t with
  | case1 => rfl
  | case2 rest ih =>
    rw [commands_cons_of_notMem newline_notMem_symbols, commands_cons_of_notMem hreturn,
      commands_cons_of_notMem newline_notMem_symbols, ih]
  | case3 rest _ ih =>
    rw [commands_cons_of_notMem newline_notMem_symbols, commands_cons_of_notMem hreturn, ih]
  | case4 c rest _ _ ih =>
    by_cases hc : c ∈ Instruction.symbols
    · rw [commands_cons_of_mem hc, commands_cons_of_mem hc, ih]
    · rw [commands_cons_of_notMem hc, commands_cons_of_notMem hc, ih]

end Text

namespace Brackets

variable {t u : Text}

theorem not_overclosed_nil : ¬ Overclosed [] := fun h =>
  overclosedAfter_nil 0 (overclosedAfter_zero.mpr h)

theorem overclosed_congr (h : t.commands = u.commands) : Overclosed t ↔ Overclosed u := by
  rw [← overclosed_commands, h, overclosed_commands]

/-- Two texts that do not close too much do not do so together. -/
theorem overclosed_append (h : Overclosed (t ++ u)) : Overclosed t ∨ Overclosed u := by
  obtain ⟨v, ⟨rest, hv⟩, hlt⟩ := h
  by_cases ht : Overclosed t
  · exact .inl ht
  · rcases List.append_eq_append_iff.mp hv with ⟨w, rfl, -⟩ | ⟨w, rfl, rfl⟩
    · exact absurd ⟨v, List.prefix_append v w, hlt⟩ ht
    · have hle : t.count ']' ≤ t.count '[' := by
        by_contra hnot
        exact ht ⟨t, List.prefix_rfl, by omega⟩
      rw [List.count_append, List.count_append] at hlt
      exact .inr ⟨w, List.prefix_append w rest, by omega⟩

theorem overclosed_joinWith {pieces : List Text} (h : Overclosed (Text.joinWith '\n' pieces)) :
    ∃ piece ∈ pieces, Overclosed piece := by
  fun_induction Text.joinWith '\n' pieces with
  | case1 => exact absurd h not_overclosed_nil
  | case2 piece => exact ⟨piece, List.mem_singleton_self piece, h⟩
  | case3 piece pieces _ ih =>
    rcases overclosed_append h with hpiece | hrest
    · exact ⟨piece, List.mem_cons_self .., hpiece⟩
    · rw [← overclosedAfter_zero, overclosedAfter_plain (by decide) (by decide),
        overclosedAfter_zero] at hrest
      obtain ⟨other, hother, hover⟩ := ih hrest
      exact ⟨other, List.mem_cons_of_mem _ hother, hover⟩

/-- A text that closes too much has a line that does. -/
theorem exists_overclosed_line (h : Overclosed t) :
    ∃ line ∈ Text.fields '\n' t, Overclosed line := by
  rw [← Text.joinWith_fields '\n' t] at h
  exact overclosed_joinWith h

end Brackets

namespace Machine

variable {σ : Type} {c : Console σ} {p : Program} {m m' : Machine} {s s' : σ} {value : Nat}

theorem Stepped.ne_unbalancedBrackets {e? : Option Ending} (h : Stepped c p m s value e? m' s') :
    e? ≠ some .unbalancedBrackets := by
  cases h with
  | completed | comment | stoppedInComment | stopped | gone => simp
  | ended _ _ effect => cases effect <;> simp

/-- On any console, a text is refused for its brackets if and only if it closes too much. -/
theorem ending_execute_iff_overclosed (c : Console σ) (fuel : Nat) (t : Text) (a : σ) :
    (execute c fuel (.ok t) a).ending = .unbalancedBrackets ↔ Overclosed t := by
  constructor
  · intro hending
    by_contra hover
    obtain ⟨p, hp⟩ := Program.exists_ofText? hover
    rw [execute_of_program hp, Outcome.ending_settled] at hending
    rcases run_cases c p fuel initial (c.setSwitches ⟨false, true⟩ a) with
      ⟨k, m, s, e, m', s', -, hpasses, hstep, hrun⟩ | ⟨m, s, -, hrun⟩
    · obtain ⟨value, -, hstepped⟩ := (hpasses.onTape hp onTape_initial).stepped hstep
      rw [hrun] at hending
      exact hstepped.ne_unbalancedBrackets (congrArg some hending)
    · rw [hrun] at hending
      contradiction
  · intro hover
    rw [execute_of_overclosed hover]

end Machine

namespace Brackets

/-- A closing bracket for which no open one waits. -/
def Stray (t : Text) (i : Nat) : Prop := t[i]? = some ']' ∧ ¬ Waits t i

end Brackets

namespace Token

variable {t line : Text} {i : Nat}

/-- The number of characters at the front of a line that are not scanned: a byte order mark, and the
carriage returns that come next. -/
def skipped (line : Text) : Nat :=
  let marks := if line.head? = some byteOrderMark then 1 else 0
  marks + ((line.drop marks).takeWhile (· = '\r')).length

/-- A carriage return inside a line is scanned as a newline. -/
def asScanned (c : Char) : Char := if c = '\r' then '\n' else c

theorem unifyNewlines_eq_map (h : '\n' ∉ t) : Text.unifyNewlines t = t.map asScanned := by
  fun_induction Text.unifyNewlines t with
  | case1 => rfl
  | case2 rest ih => simp at h
  | case3 rest _ ih =>
    rw [ih fun hmem => h (List.mem_cons_of_mem _ hmem)]
    rfl
  | case4 c rest _ hc ih =>
    rw [ih fun hmem => h (List.mem_cons_of_mem _ hmem), List.map_cons, asScanned, if_neg hc]

theorem dropWhile_map_asScanned (h : '\n' ∉ t) :
    (t.map asScanned).dropWhile (· = '\n') = (t.dropWhile (· = '\r')).map asScanned := by
  induction t with
  | nil => rfl
  | cons c t ih =>
    obtain ⟨hc, ht⟩ := not_or.mp (mt List.mem_cons.mpr h)
    by_cases hreturn : c = '\r'
    · simpa [asScanned, hreturn] using ih ht
    · simp [asScanned, hreturn, Ne.symm hc]

theorem dropTrailingNewlines_map_asScanned (h : '\n' ∉ t) :
    Text.dropTrailingNewlines (t.map asScanned) = (t.rdropWhile (· = '\r')).map asScanned := by
  rw [Text.dropTrailingNewlines, Text.dropEndWhile, ← List.map_reverse,
    dropWhile_map_asScanned (by simpa using h), ← List.map_reverse]
  rfl

/-- Of a line without a byte order mark, carriage returns at the ends are not scanned. -/
theorem exists_scanned (h : '\n' ∉ t) : ∃ middle back,
    t = t.takeWhile (· = '\r') ++ (middle ++ back) ∧ (∀ c ∈ back, c = '\r') ∧
      Text.dropTrailingNewlines ((Text.unifyNewlines t).dropWhile (· = '\n')) =
        middle.map asScanned := by
  let rest := t.dropWhile (· = '\r')
  have hrest : '\n' ∉ rest := fun hmem => h ((List.dropWhile_suffix _).subset hmem)
  refine ⟨rest.rdropWhile (· = '\r'), rest.rtakeWhile (· = '\r'), ?_, fun c hc => ?_, ?_⟩
  · rw [List.rdropWhile_append_rtakeWhile, List.takeWhile_append_dropWhile]
  · simpa using List.mem_rtakeWhile_imp hc
  · rw [unifyNewlines_eq_map h, dropWhile_map_asScanned h, dropTrailingNewlines_map_asScanned hrest]

/-- A line is scanned without some characters at its ends, none of which is a bracket. -/
theorem exists_prepare_eq (hnewline : '\n' ∉ line) : ∃ front middle back,
    line = front ++ (middle ++ back) ∧ front.length = skipped line ∧
      (∀ c ∈ front ++ back, c ≠ '[' ∧ c ≠ ']') ∧ prepare line = middle.map asScanned ++ ['\n'] := by
  have hplain {c : Char} (hc : c = byteOrderMark ∨ c = '\r') : c ≠ '[' ∧ c ≠ ']' := by
    rcases hc with rfl | rfl <;> decide
  have hreturns {t : Text} {c : Char} (hc : c ∈ t.takeWhile (· = '\r')) : c = '\r' := by
    simpa using List.mem_takeWhile_imp hc
  by_cases hmark : line.head? = some byteOrderMark
  · obtain ⟨rest, rfl⟩ := List.head?_eq_some_iff.mp hmark
    obtain ⟨middle, back, hsplit, hback, hscanned⟩ :=
      exists_scanned fun hmem => hnewline (List.mem_cons_of_mem _ hmem)
    refine ⟨byteOrderMark :: rest.takeWhile (· = '\r'), middle, back, ?_, ?_, fun c hc => ?_, ?_⟩
    · rw [List.cons_append, ← hsplit]
    · simp [skipped, Nat.add_comm]
    · apply hplain
      rcases List.mem_append.mp hc with hc | hc
      · exact (List.mem_cons.mp hc).imp id hreturns
      · exact .inr (hback c hc)
    · rw [prepare_cons_mark, hscanned]
  · obtain ⟨middle, back, hsplit, hback, hscanned⟩ := exists_scanned hnewline
    refine ⟨line.takeWhile (· = '\r'), middle, back, hsplit, ?_, fun c hc => ?_, ?_⟩
    · simp [skipped, hmark]
    · exact hplain (.inr ((List.mem_append.mp hc).elim hreturns (hback c)))
    · rw [prepare_of_unmarked hmark, hscanned]

theorem classes_append (depth : Nat) (t u : Text) :
    classes depth (t ++ u) = classes depth t ++ classes (t.foldl depthAfter depth) u := by
  induction t generalizing depth with
  | nil => rfl
  | cons c t ih => simp [classes, ih]

theorem length_classes (depth : Nat) (t : Text) : (classes depth t).length = t.length := by
  induction t generalizing depth with
  | nil => rfl
  | cons c t ih => simp [classes, ih]

theorem classes_map_asScanned (depth : Nat) (t : Text) :
    classes depth (t.map asScanned) = classes depth t := by
  induction t generalizing depth with
  | nil => rfl
  | cons c t ih =>
    by_cases hc : c = '\r'
    · subst hc
      exact congrArg (_ :: ·) (ih depth)
    · rw [List.map_cons, asScanned, if_neg hc, classes, classes, ih]

/-- Only a closing bracket is stray. -/
theorem eq_close_of_classIn {depth : Nat} {c : Char} (h : classIn depth c = .stray) : c = ']' := by
  by_contra hc
  by_cases ho : c = '['
  · simp [ho, classIn] at h
  · have hbracket := ofBracket_runClass c
    rw [classIn_plain ho hc] at h
    rw [h] at hbracket
    contradiction

theorem getElem?_classes_eq_stray_iff : (classes 0 t)[i]? = some .stray ↔ Stray t i := by
  rw [getElem?_classes, Option.map_eq_some_iff]
  constructor
  · rintro ⟨c, hc, hclass⟩
    obtain rfl := eq_close_of_classIn hclass
    refine ⟨hc, fun hwaits => ?_⟩
    rw [classIn_close.1 hwaits] at hclass
    contradiction
  · rintro ⟨hc, hwaits⟩
    exact ⟨']', hc, classIn_close.2 hwaits⟩

theorem foldl_depthAfter_of_plain {depth : Nat} (h : ∀ c ∈ t, c ≠ '[' ∧ c ≠ ']') :
    t.foldl depthAfter depth = depth := by
  induction t with
  | nil => rfl
  | cons c t ih =>
    obtain ⟨⟨ho, hc⟩, ht⟩ := List.forall_mem_cons.mp h
    rw [List.foldl_cons, depthAfter_plain ho hc, ih ht]

theorem not_stray_of_plain {depth : Nat} (h : ∀ c ∈ t, c ≠ '[' ∧ c ≠ ']') :
    .stray ∉ classes depth t := by
  intro hmem
  obtain ⟨j, hj⟩ := List.mem_iff_getElem?.mp hmem
  rw [getElem?_classes, Option.map_eq_some_iff] at hj
  obtain ⟨c, hc, hclass⟩ := hj
  exact (h c (List.mem_of_getElem? hc)).2 (eq_close_of_classIn hclass)

/-- A bracket is stray where the line is scanned if it is stray in the line. -/
theorem stray_prepare_iff (hnewline : '\n' ∉ line) :
    Stray (prepare line) i ↔ Stray line (i + skipped line) := by
  obtain ⟨front, middle, back, hline, hlength, hplain, hprepare⟩ := exists_prepare_eq hnewline
  have hfront : ∀ c ∈ front, c ≠ '[' ∧ c ≠ ']' := fun c hc => hplain c (List.mem_append_left _ hc)
  have hback : ∀ c ∈ back, c ≠ '[' ∧ c ≠ ']' := fun c hc => hplain c (List.mem_append_right _ hc)
  have hscanned : classes 0 (prepare line) = classes 0 middle ++ [.comment] := by
    rw [hprepare, classes_append, classes_map_asScanned]
    rfl
  -- no loop is open behind the front of the line, so that the middle is scanned as if it came first
  have hclasses : (classes 0 line)[i + skipped line]? =
      (classes 0 middle ++ classes (middle.foldl depthAfter 0) back)[i]? := by
    rw [← hlength]
    conv_lhs => rw [hline, classes_append, foldl_depthAfter_of_plain hfront, classes_append]
    rw [List.getElem?_append_right (by rw [length_classes]; omega), length_classes,
      Nat.add_sub_cancel]
  rw [← getElem?_classes_eq_stray_iff, ← getElem?_classes_eq_stray_iff, hscanned, hclasses]
  rcases Nat.lt_or_ge i (classes 0 middle).length with hlt | hge
  · rw [List.getElem?_append_left hlt, List.getElem?_append_left hlt]
  · -- behind the middle there is no bracket in either text
    rw [List.getElem?_append_right hge, List.getElem?_append_right hge]
    refine iff_of_false (fun h => ?_) fun h => not_stray_of_plain hback (List.mem_of_getElem? h)
    simpa using List.mem_of_getElem? h

/-- What is not scanned at the front of a line has no bracket. -/
theorem skipped_le_of_stray (hnewline : '\n' ∉ line) (h : Stray line i) : skipped line ≤ i := by
  obtain ⟨front, middle, back, hline, hlength, hplain, -⟩ := exists_prepare_eq hnewline
  by_contra hlt
  have hi := h.1
  rw [hline, List.getElem?_append_left (by omega)] at hi
  exact (hplain _ (List.mem_append_left _ (List.mem_of_getElem? hi))).2 rfl

end Token

theorem Brackets.exists_stray_iff {t : Text} : (∃ i, Stray t i) ↔ Overclosed t := by
  rw [← overclosedAfter_zero, ← Token.stray_mem_classes_iff, List.mem_iff_getElem?]
  simp only [Token.getElem?_classes_eq_stray_iff]

namespace Tag

open Token

variable {b : TextBox Char} {n column : Nat} {tag : Tag}

/-- The tag shows a stray bracket of its line as an error. It is the one in this column, and the tag
lies as far to the left of it as characters at the front of the line are not scanned. -/
structure ShowsStray (b : TextBox Char) (tag : Tag) (column : Nat) : Prop where
  name : tag.kind.name = "Token.Error"
  stray : Stray (b.lineText tag.line) column
  start : tag.start + skipped (b.lineText tag.line) = column
  stop : tag.stop = tag.start + 1

/-- A tag for an error shows a stray bracket. -/
theorem exists_showsStray_of_name (h : tag ∈ b.lineTags ((n + 1 : Nat) : Int))
    (hname : tag.kind.name = "Token.Error") : ∃ column, tag.ShowsStray b column := by
  have hkind : tag.kind = .stray := TokenClass.name_injective hname
  have htile := (b.tile_lineTags _).nonempty tag h
  have hclass := TextBox.getElem?_classes_of_covers h ⟨Nat.le_refl _, htile.2⟩
  rw [hkind, getElem?_classes_eq_stray_iff,
    stray_prepare_iff (b.newline_notMem_lineText n)] at hclass
  refine ⟨_, hname, ?_, rfl, stop_of_ofBracket (wellCut_scan 0 _) h (by rw [hkind]; rfl)⟩
  rw [htile.1]
  exact hclass

/-- Each stray bracket of a line has a tag that shows it. -/
theorem exists_showsStray (h : Stray (b.lineText ((n + 1 : Nat) : Int)) column) :
    ∃ tag ∈ b.lineTags ((n + 1 : Nat) : Int), tag.ShowsStray b column := by
  have hnewline := b.newline_notMem_lineText n
  obtain ⟨i, rfl⟩ := Nat.exists_eq_add_of_le' (skipped_le_of_stray hnewline h)
  have hscanned := (stray_prepare_iff hnewline).mpr h
  obtain ⟨tag, htag, hcovers⟩ :=
    TextBox.exists_covers_lineTags (List.getElem?_eq_some_iff.mp hscanned.1).1
  have hkind : tag.kind = .stray :=
    Option.some.inj ((TextBox.getElem?_classes_of_covers htag hcovers).symm.trans
      (getElem?_classes_eq_stray_iff.mpr hscanned))
  have hstop : tag.stop = tag.start + 1 :=
    stop_of_ofBracket (wellCut_scan 0 _) htag (by rw [hkind]; rfl)
  obtain rfl : tag.start = i := by
    obtain ⟨hle, hlt⟩ := hcovers
    omega
  have hline := ((b.tile_lineTags _).nonempty tag htag).1
  refine ⟨tag, htag, by rw [hkind]; rfl, ?_, by rw [hline], hstop⟩
  rw [hline]
  exact h

end Tag

namespace TextBox

variable {b : TextBox Char} {n column : Nat}

/-- Every line with a bracket is coloured, so no stray one is left out. -/
theorem exists_showsStray (h : Stray (b.lineText ((n + 1 : Nat) : Int)) column) :
    ∃ tag ∈ b.allTags, tag.line = ((n + 1 : Nat) : Int) ∧ tag.ShowsStray b column := by
  obtain ⟨tag, htag, hshows⟩ := Tag.exists_showsStray h
  have hne : b.lineText ((n + 1 : Nat) : Int) ≠ [] := by
    intro hnil
    have hclose := h.1
    rw [hnil] at hclose
    contradiction
  have hline : (Text.fields '\n' b.content)[n]? = some (b.lineText ((n + 1 : Nat) : Int)) := by
    rw [lineText_eq_getD] at hne ⊢
    cases hfield : (Text.fields '\n' b.content)[n]? with
    | none => simp [hfield] at hne
    | some line => rfl
  exact ⟨tag, mem_allTags_iff.mpr ⟨n, Text.lt_countLinesFrom hline hne, htag⟩,
    ((b.tile_lineTags _).nonempty tag htag).1, hshows⟩

theorem exists_showsStray_of_overclosed (h : Overclosed b.content) :
    ∃ tag ∈ b.allTags, ∃ column, tag.ShowsStray b column := by
  obtain ⟨line, hmem, hover⟩ := exists_overclosed_line h
  obtain ⟨n, hn⟩ := List.mem_iff_getElem?.mp hmem
  obtain ⟨column, hstray⟩ := exists_stray_iff.mpr hover
  have htext : b.lineText ((n + 1 : Nat) : Int) = line := by
    rw [lineText_eq_getD, hn, Option.getD_some]
  rw [← htext] at hstray
  obtain ⟨tag, htag, -, hshows⟩ := exists_showsStray hstray
  exact ⟨tag, htag, column, hshows⟩

theorem exists_showsStray_of_name {tag : Tag} (h : tag ∈ b.allTags)
    (hname : tag.kind.name = "Token.Error") : ∃ column, tag.ShowsStray b column := by
  obtain ⟨n, -, htag⟩ := mem_allTags_iff.mp h
  exact Tag.exists_showsStray_of_name htag hname

/-- With one line there is nothing else that could close too much. -/
theorem overclosed_of_name (hnewline : '\n' ∉ b.content) {tag : Tag} (h : tag ∈ b.allTags)
    (hname : tag.kind.name = "Token.Error") : Overclosed b.content := by
  obtain ⟨n, -, htag⟩ := mem_allTags_iff.mp h
  obtain ⟨column, hshows⟩ := Tag.exists_showsStray_of_name htag hname
  have hover := exists_stray_iff.mp ⟨column, hshows.stray⟩
  rw [((b.tile_lineTags _).nonempty tag htag).1, lineText_eq_getD,
    Text.fields_of_notMem hnewline] at hover
  cases n with
  | zero => exact hover
  | succ n => exact absurd hover not_overclosed_nil

end TextBox

theorem Ending.eq_unbalancedBrackets {e : Ending} (h : e.notice? = some "Parse Error") :
    e = .unbalancedBrackets := by
  revert h
  cases e <;> simp [notice?]

/-- A text that was stored in a file is refused for its brackets if it closes too much. -/
theorem Machine.notice_execute_iff {folder folder' : Folder} {name t : Text}
    (hwrite : folder.writeText name t = .ok folder') {σ : Type} (c : Console σ) (fuel : Nat)
    (a : σ) :
    (execute c fuel (folder'.readText name) a).ending.notice? = some "Parse Error" ↔
      Overclosed t := by
  rw [Folder.readText_of_writeText hwrite, ← overclosed_congr (Text.commands_unifyNewlines t),
    ← ending_execute_iff_overclosed c fuel _ a]
  refine ⟨Ending.eq_unbalancedBrackets, fun h => ?_⟩
  rw [h]
  rfl

/-- The colours of the editor show an error for each closing bracket without an open one before it
in its line, and for nothing else. What is shown lies on the bracket, unless characters at the front
of the line are not scanned: then it lies that far to the left. If the text is stored in a file, and
an execution of that file on whatever console refuses it for its brackets, there is such a bracket.
In a text of one line there is one if and only if the brackets cannot be matched. -/
theorem stray_brackets_coloured (s : Session) (hs : s.highlighter = true) :
    s.highlight.journal.tags = s.journal.tags ++ s.editor.allTags ∧
    (∀ tag ∈ s.editor.allTags, tag.kind.name = "Token.Error" →
      ∃ column, tag.ShowsStray s.editor column) ∧
    (∀ n column, Stray (s.editor.lineText ((n + 1 : Nat) : Int)) column →
      ∃ tag ∈ s.editor.allTags, tag.line = ((n + 1 : Nat) : Int) ∧
        tag.ShowsStray s.editor column) ∧
    (∀ (folder folder' : Folder) (name : Text), folder.writeText name s.editor.whole = .ok folder' →
      ∀ (σ : Type) (c : Console σ) (fuel : Nat) (a : σ),
        (Machine.execute c fuel (folder'.readText name) a).ending.notice? = some "Parse Error" →
          ∃ tag ∈ s.editor.allTags, ∃ column, tag.ShowsStray s.editor column) ∧
    ('\n' ∉ s.editor.content →
      ((∃ tag ∈ s.editor.allTags, tag.kind.name = "Token.Error") ↔
        JumpTable.ofText? s.editor.content = none)) := by
  refine ⟨by rw [Session.highlight, if_pos hs]; rfl, fun tag => TextBox.exists_showsStray_of_name,
    fun n column => TextBox.exists_showsStray, ?_, ?_⟩
  · intro folder folder' name hwrite σ c fuel a hnotice
    have hover := (Machine.notice_execute_iff hwrite c fuel a).mp hnotice
    rw [TextBox.whole_eq] at hover
    exact TextBox.exists_showsStray_of_overclosed
      ((overclosed_congr (Text.commands_append_newline _)).mp hover)
  · intro hnewline
    rw [JumpTable.ofText?_eq_none_iff]
    constructor
    · rintro ⟨tag, htag, hname⟩
      exact TextBox.overclosed_of_name hnewline htag hname
    · intro hover
      obtain ⟨tag, htag, column, hshows⟩ := TextBox.exists_showsStray_of_overclosed hover
      exact ⟨tag, htag, hshows.name⟩

/-- The second line closes the loop of the first one, and once more. In one line the first bracket
that it closes with is not stray. -/
theorem stray_brackets_coloured_second_line :
    let s := { Session.initial .empty .silent with editor := ⟨"[\n]]".toList, 0⟩ }
    let r := { s with editor := ⟨"[]]".toList, 0⟩ }
    (∃ folder, s.folder.writeText ['a'] s.editor.whole = .ok folder ∧
      (Machine.execute Terminal.console 0 (folder.readText ['a'])
        (.initial ⟨false, false⟩ [] none none)).ending.notice? = some "Parse Error" ∧
      ∃ tag ∈ s.editor.allTags, ∃ column, tag.ShowsStray s.editor column) ∧
      ((∃ tag ∈ r.editor.allTags, tag.kind.name = "Token.Error") ↔
        JumpTable.ofText? r.editor.content = none) := by
  intro s r
  obtain ⟨folder, hwrite⟩ : ∃ folder, s.folder.writeText ['a'] s.editor.whole = .ok folder :=
    Folder.exists_writeText_of_isOk (by decide +kernel)
  have hover : Overclosed s.editor.whole := (pairs?_eq_none_iff _).mp (by decide +kernel)
  have hnotice := (Machine.notice_execute_iff hwrite Terminal.console 0
    (.initial ⟨false, false⟩ [] none none)).mpr hover
  obtain ⟨-, -, -, hshown, -⟩ := stray_brackets_coloured s rfl
  obtain ⟨-, -, -, -, hone⟩ := stray_brackets_coloured r rfl
  exact ⟨⟨folder, hwrite, hnotice, hshown s.folder folder ['a'] hwrite Terminal Terminal.console 0 _
    hnotice⟩, hone (by decide)⟩

/-- A byte order mark before a stray bracket: the text is refused for the bracket, and no bracket is
shown as an error. The mark is, and the bracket is shown as a comment. -/
theorem bracket_missed_behind_mark :
    let s := { Session.initial .empty .silent with editor := ⟨['\ufeff', ']'], 0⟩ }
    (∃ folder, s.folder.writeText ['a'] s.editor.whole = .ok folder ∧
      (Machine.execute Terminal.console 0 (folder.readText ['a'])
        (.initial ⟨false, false⟩ [] none none)).ending.notice? = some "Parse Error") ∧
      JumpTable.ofText? s.editor.content = none ∧
      s.highlight.journal.tags = [⟨.stray, 1, 0, 1⟩, ⟨.comment, 1, 1, 2⟩] ∧
      ¬ ∃ tag ∈ s.highlight.journal.tags, tag.kind.name = "Token.Error" ∧
        ∃ column, tag.Covers column ∧ (s.editor.lineText tag.line)[column]? = some ']' := by
  intro s
  obtain ⟨folder, hwrite⟩ : ∃ folder, s.folder.writeText ['a'] s.editor.whole = .ok folder :=
    Folder.exists_writeText_of_isOk (by decide +kernel)
  have hover : Overclosed s.editor.whole := (pairs?_eq_none_iff _).mp (by decide +kernel)
  have hnotice := (Machine.notice_execute_iff hwrite Terminal.console 0
    (.initial ⟨false, false⟩ [] none none)).mpr hover
  have htags : s.highlight.journal.tags = [⟨.stray, 1, 0, 1⟩, ⟨.comment, 1, 1, 2⟩] := by
    decide +kernel
  refine ⟨⟨folder, hwrite, hnotice⟩, by decide +kernel, htags, ?_⟩
  rintro ⟨tag, htag, hname, column, ⟨hstart, hstop⟩, hclose⟩
  rw [htags] at htag
  have hmark : (s.editor.lineText 1)[0]? = some '\ufeff' := by decide +kernel
  simp only [List.mem_cons, List.not_mem_nil, or_false] at htag
  rcases htag with rfl | rfl
  · obtain rfl : column = 0 := by
      dsimp only at hstop
      omega
    rw [hmark] at hclose
    contradiction
  · exact absurd hname (by decide)

end TapeStudio
