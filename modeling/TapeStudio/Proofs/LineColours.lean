import TapeStudio.Proofs.Scanning
import TapeStudio.Session.Panes

/-! The colours of a line, column by column. A closing bracket is coloured by whether an open one
waits for it, which is said by the matching of brackets and not by how the line is scanned. -/
namespace TapeStudio

namespace Brackets

variable {t : Text} {i j : Nat}

/-- Some open bracket is not closed by what follows. -/
def Unclosed (t : Text) : Prop := ∃ j, t[j]? = some '[' ∧ ¬ Overclosed (t.drop (j + 1))

theorem unclosed_cons {c : Char} : Unclosed (c :: t) ↔ (c = '[' ∧ ¬ Overclosed t) ∨ Unclosed t := by
  constructor
  · rintro ⟨_ | j, hj, hclosed⟩
    · exact .inl ⟨Option.some.inj hj, hclosed⟩
    · exact .inr ⟨j, hj, hclosed⟩
  · rintro (⟨rfl, hclosed⟩ | ⟨j, hj, hclosed⟩)
    · exact ⟨0, rfl, hclosed⟩
    · exact ⟨j + 1, hj, hclosed⟩

/-- An open bracket waits at a place: it is before it and has no partner before it. -/
def Waits (t : Text) (i : Nat) : Prop := ∃ j < i, t[j]? = some '[' ∧ ∀ k < i, ¬ Matches t j k

/-- A text that closes too much does so at a bracket with as many open ones before it as closed. -/
theorem exists_split_of_overclosedAfter {depth : Nat} (h : OverclosedAfter depth t) :
    ∃ u v, t = u ++ ']' :: v ∧ depth + u.count '[' = u.count ']' ∧ ¬ OverclosedAfter depth u := by
  induction t generalizing depth with
  | nil => exact absurd h (overclosedAfter_nil depth)
  | cons c t ih =>
    by_cases ho : c = '['
    · subst ho
      obtain ⟨u, v, rfl, hcount, hu⟩ := ih ((overclosedAfter_open depth t).mp h)
      refine ⟨'[' :: u, v, rfl, ?_, by simpa using hu⟩
      rw [List.count_cons_self, List.count_cons_of_ne (by decide)]
      omega
    · by_cases hc : c = ']'
      · subst hc
        cases depth with
        | zero => exact ⟨[], t, rfl, rfl, overclosedAfter_nil 0⟩
        | succ depth =>
          obtain ⟨u, v, rfl, hcount, hu⟩ := ih ((overclosedAfter_close_succ depth t).mp h)
          refine ⟨']' :: u, v, rfl, ?_, by simpa using hu⟩
          rw [List.count_cons_self, List.count_cons_of_ne (by decide)]
          omega
      · obtain ⟨u, v, rfl, hcount, hu⟩ := ih ((overclosedAfter_plain ho hc depth t).mp h)
        refine ⟨c :: u, v, rfl, ?_, by rwa [overclosedAfter_plain ho hc]⟩
        rwa [List.count_cons_of_ne ho, List.count_cons_of_ne hc]

/-- An open bracket has a partner before a place if what stands between them closes too much. -/
theorem exists_matches_iff (hji : j < i) (hj : t[j]? = some '[') :
    (∃ k < i, Matches t j k) ↔ Overclosed (between t j i) := by
  constructor
  · rintro ⟨k, hk, hmatches⟩
    refine ⟨between t j k ++ [']'], ?_, ?_⟩
    · rw [between_split hmatches.lt hk hmatches.closes]
      exact ⟨between t k i, by simp⟩
    · have hcount := hmatches.balanced.1
      simp [List.count_append, hcount]
  · intro hover
    obtain ⟨u, v, hsplit, hcount, hu⟩ :=
      exists_split_of_overclosedAfter (overclosedAfter_zero.mpr hover)
    have hbalanced : Balanced u :=
      ⟨by rwa [Nat.zero_add] at hcount, fun h => hu (overclosedAfter_zero.mpr h)⟩
    have ht : t = t.take j ++ '[' :: (u ++ ']' :: (v ++ t.drop i)) := by
      conv_lhs => rw [← List.take_append_drop i t, take_split hji hj, hsplit]
      simp
    have hmatches := matches_of_split ht hbalanced
    rw [List.length_take_of_le (List.getElem?_eq_some_iff.mp hj).1.le] at hmatches
    refine ⟨_, ?_, hmatches⟩
    have hlength := congrArg List.length hsplit
    simp only [between, List.length_drop, List.length_take, List.length_append,
      List.length_cons] at hlength
    omega

theorem waits_iff : Waits t i ↔ Unclosed (t.take i) := by
  constructor
  · rintro ⟨j, hji, hj, hnone⟩
    refine ⟨j, by rwa [List.getElem?_take_of_lt hji], fun hover => ?_⟩
    obtain ⟨k, hk, hmatches⟩ := (exists_matches_iff hji hj).mpr hover
    exact hnone k hk hmatches
  · rintro ⟨j, hj, hclosed⟩
    have hji : j < i := by
      by_contra hle
      rw [List.getElem?_take_eq_none (by omega)] at hj
      contradiction
    rw [List.getElem?_take_of_lt hji] at hj
    refine ⟨j, hji, hj, fun k hk hmatches => hclosed ?_⟩
    exact (exists_matches_iff hji hj).mp ⟨k, hk, hmatches⟩

end Brackets

open Brackets

namespace Token

/-- A text leaves a loop open if it does not close all that were open before, or opens one itself.
-/
theorem foldl_depthAfter_pos_iff (depth : Nat) (t : Text) : 0 < t.foldl depthAfter depth ↔
    (∃ m, m < depth ∧ ¬ OverclosedAfter m t) ∨ Unclosed t := by
  induction t generalizing depth with
  | nil =>
    have hnone : ¬ Unclosed [] := by
      rintro ⟨j, hj, -⟩
      contradiction
    simp only [List.foldl_nil, overclosedAfter_nil, not_false_eq_true, and_true, hnone, or_false]
    constructor
    · intro h
      exact ⟨0, h⟩
    · rintro ⟨m, hm⟩
      omega
  | cons c t ih =>
    rw [List.foldl_cons, ih, unclosed_cons]
    by_cases ho : c = '['
    · subst ho
      -- one loop more is open, and the text itself opened it
      rw [depthAfter, if_pos rfl, Nat.exists_lt_succ_left]
      simp only [overclosedAfter_open, overclosedAfter_zero, true_and, or_assoc, or_left_comm]
    · by_cases hc : c = ']'
      · subst hc
        cases depth with
        | zero => simp [depthAfter]
        | succ depth =>
          rw [depthAfter, if_neg ho, if_pos rfl, Nat.exists_lt_succ_left]
          simp
      · simp only [depthAfter_plain ho hc, overclosedAfter_plain ho hc, ho, false_and, false_or]

/-- A closing bracket has something to close if an open one waits for it. -/
theorem classIn_close {t : Text} {i : Nat} :
    (Waits t i → classIn ((t.take i).foldl depthAfter 0) ']' = .bracket) ∧
      (¬ Waits t i → classIn ((t.take i).foldl depthAfter 0) ']' = .stray) := by
  have hdepth : 0 < (t.take i).foldl depthAfter 0 ↔ Waits t i := by
    rw [foldl_depthAfter_pos_iff, waits_iff]
    simp
  constructor
  · intro h
    have hpos := hdepth.mpr h
    simp [classIn, Nat.pos_iff_ne_zero.mp hpos]
  · intro h
    have hzero : (t.take i).foldl depthAfter 0 = 0 := by
      by_contra hne
      exact h (hdepth.mp (Nat.pos_of_ne_zero hne))
    simp [classIn, hzero]

theorem ofBracket_classIn_iff (depth : Nat) (c : Char) :
    (classIn depth c).ofBracket = true ↔ c = '[' ∨ c = ']' := by
  by_cases ho : c = '['
  · simp [ho, classIn, TokenClass.ofBracket]
  · by_cases hc : c = ']'
    · by_cases hdepth : depth = 0 <;> simp [hc, classIn, hdepth, TokenClass.ofBracket]
    · rw [classIn_plain ho hc, ofBracket_runClass]
      simp [ho, hc]

theorem classIn_of_notMem {c : Char} (h : c ∉ Instruction.symbols) (depth : Nat) :
    classIn depth c = .comment := by
  simp only [Instruction.symbols, List.mem_cons, List.not_mem_nil, or_false, not_or] at h
  simp [classIn, runClass, h]

/-- The class of a column of a line, as it is scanned with a newline behind it. -/
theorem getElem?_classes_line {t : Text} {i : Nat} (hi : i ≤ t.length) :
    (classes 0 (t ++ ['\n']))[i]? =
      some (classIn ((t.take i).foldl depthAfter 0) (t[i]?.getD '\n')) := by
  rw [getElem?_classes, List.take_append_of_le_length hi]
  rcases Nat.lt_or_eq_of_le hi with hlt | rfl
  · simp [List.getElem?_append_left hlt, hlt]
  · simp

end Token

/-- The colour of a column of a line. The newline behind the line takes a column too. -/
inductive Coloured (t : Text) (i : Nat) : String → Prop where
  | io (h : t[i]? = some '.' ∨ t[i]? = some ',') : Coloured t i "Token.Name.Tag"
  | change (h : t[i]? = some '+' ∨ t[i]? = some '-') : Coloured t i "Token.Name.Builtin"
  | move (h : t[i]? = some '<' ∨ t[i]? = some '>') : Coloured t i "Token.Name.Variable"
  | opening (h : t[i]? = some '[') : Coloured t i "Token.Keyword"
  | closing (h : t[i]? = some ']') (hwaits : Waits t i) : Coloured t i "Token.Keyword"
  | stray (h : t[i]? = some ']') (hwaits : ¬ Waits t i) : Coloured t i "Token.Error"
  | comment (h : ∀ c ∈ Instruction.symbols, t[i]? ≠ some c) : Coloured t i "Token.Comment"

namespace Coloured

open Token

variable {t : Text} {i : Nat} {kind : TokenClass} {name : String}

theorem exists_class (h : Coloured t i name) (hi : i ≤ t.length) :
    ∃ kind, (classes 0 (t ++ ['\n']))[i]? = some kind ∧ kind.name = name := by
  rw [getElem?_classes_line hi]
  refine ⟨_, rfl, ?_⟩
  cases h with
  | io h => rcases h with h | h <;> rw [h] <;> rfl
  | change h => rcases h with h | h <;> rw [h] <;> rfl
  | move h => rcases h with h | h <;> rw [h] <;> rfl
  | opening h =>
    rw [h]
    rfl
  | closing h hwaits =>
    rw [h, Option.getD_some, classIn_close.1 hwaits]
    rfl
  | stray h hwaits =>
    rw [h, Option.getD_some, classIn_close.2 hwaits]
    rfl
  | comment h =>
    have hc : t[i]?.getD '\n' ∉ Instruction.symbols := by
      cases hget : t[i]? with
      | none => simp [Instruction.symbols]
      | some c => exact fun hmem => h c hmem hget
    rw [classIn_of_notMem hc]
    rfl

theorem exists_coloured (t : Text) (i : Nat) : ∃ name, Coloured t i name := by
  by_cases hcommand : ∃ c ∈ Instruction.symbols, t[i]? = some c
  · obtain ⟨c, hmem, hget⟩ := hcommand
    simp only [Instruction.symbols, List.mem_cons, List.not_mem_nil, or_false] at hmem
    rcases hmem with rfl | rfl | rfl | rfl | rfl | rfl | rfl | rfl
    · exact ⟨_, .move (.inr hget)⟩
    · exact ⟨_, .move (.inl hget)⟩
    · exact ⟨_, .change (.inl hget)⟩
    · exact ⟨_, .change (.inr hget)⟩
    · exact ⟨_, .io (.inl hget)⟩
    · exact ⟨_, .io (.inr hget)⟩
    · exact ⟨_, .opening hget⟩
    · by_cases hwaits : Waits t i
      · exact ⟨_, .closing hget hwaits⟩
      · exact ⟨_, .stray hget hwaits⟩
  · exact ⟨_, .comment fun c hmem hget => hcommand ⟨c, hmem, hget⟩⟩

/-- A column has the colour of its class. -/
theorem of_class (hi : i ≤ t.length) (h : (classes 0 (t ++ ['\n']))[i]? = some kind) :
    Coloured t i kind.name := by
  obtain ⟨name, hname⟩ := exists_coloured t i
  obtain ⟨kind', hkind', rfl⟩ := hname.exists_class hi
  obtain rfl : kind = kind' := Option.some.inj (h.symm.trans hkind')
  exact hname

/-- A column has one colour only. -/
theorem not_of_class (hi : i ≤ t.length) {kind' : TokenClass}
    (h : (classes 0 (t ++ ['\n']))[i]? = some kind') (hne : kind' ≠ kind) :
    ¬ Coloured t i kind.name := by
  intro hcoloured
  obtain ⟨kind'', hkind'', hname⟩ := hcoloured.exists_class hi
  obtain rfl : kind' = kind'' := Option.some.inj (h.symm.trans hkind'')
  exact hne (TokenClass.name_injective hname)

end Coloured

namespace TextBox

open Token

/-! The tags of a line that is scanned as it stands. -/

variable {b : TextBox Char} {number : Int} {t : Text} {tag : Tag} {i : Nat}

theorem class_of_covers (hprepare : prepare (b.lineText number) = t ++ ['\n'])
    (htag : tag ∈ b.lineTags number) (hi : tag.Covers i) :
    i ≤ t.length ∧ (classes 0 (t ++ ['\n']))[i]? = some tag.kind := by
  have hclass := getElem?_classes_of_covers htag hi
  rw [hprepare] at hclass
  obtain ⟨c, hc, -⟩ := Option.map_eq_some_iff.mp ((getElem?_classes 0 _ i).symm.trans hclass)
  have hlt : i < t.length + 1 := by simpa using (List.getElem?_eq_some_iff.mp hc).1
  exact ⟨Nat.le_of_lt_succ hlt, hclass⟩

/-- The tags of brackets are those that cover brackets. -/
theorem ofBracket_kind_iff (hprepare : prepare (b.lineText number) = t ++ ['\n'])
    (htag : tag ∈ b.lineTags number) (hi : tag.Covers i) :
    tag.kind.ofBracket = true ↔ t[i]? = some '[' ∨ t[i]? = some ']' := by
  obtain ⟨hle, hclass⟩ := class_of_covers hprepare htag hi
  rw [getElem?_classes_line hle] at hclass
  rw [← Option.some.inj hclass, ofBracket_classIn_iff]
  cases t[i]? with
  | none => simp
  | some c => simp

theorem existsUnique_covers (hprepare : prepare (b.lineText number) = t ++ ['\n'])
    (hi : i ≤ t.length) : ∃! tag, tag ∈ b.lineTags number ∧ tag.Covers i := by
  have hlt : i < (prepare (b.lineText number)).length := by
    rw [hprepare, List.length_append]
    exact Nat.lt_succ_of_le hi
  obtain ⟨tag, htag, hcovers⟩ := exists_covers_lineTags hlt
  exact ⟨tag, ⟨htag, hcovers⟩, fun other hother => Tag.eq_of_covers hother.1 htag hother.2 hcovers⟩

theorem exists_tag_of_bracket (hprepare : prepare (b.lineText number) = t ++ ['\n'])
    (hi : t[i]? = some '[' ∨ t[i]? = some ']') :
    ∃ tag ∈ b.lineTags number, tag.start = i ∧ tag.stop = i + 1 := by
  have hlt : i < t.length := by
    rcases hi with h | h <;> exact (List.getElem?_eq_some_iff.mp h).1
  obtain ⟨tag, ⟨htag, hcovers⟩, -⟩ := existsUnique_covers hprepare hlt.le
  have hkind := (ofBracket_kind_iff hprepare htag hcovers).mpr hi
  have hstop : tag.stop = tag.start + 1 := Tag.stop_of_ofBracket (wellCut_scan 0 _) htag hkind
  obtain ⟨hle, hlt⟩ := hcovers
  exact ⟨tag, htag, by omega, by omega⟩

/-- A tag of other characters is a maximal run. -/
theorem maximal_of_plain (hprepare : prepare (b.lineText number) = t ++ ['\n'])
    (htag : tag ∈ b.lineTags number) (hopen : t[tag.start]? ≠ some '[')
    (hclose : t[tag.start]? ≠ some ']') :
    (∀ i, i + 1 = tag.start → ¬ Coloured t i tag.kind.name) ∧
      (tag.stop ≤ t.length → ¬ Coloured t tag.stop tag.kind.name) := by
  have hnonempty := ((b.tile_lineTags number).nonempty tag htag).2
  have hcovers : tag.Covers tag.start := ⟨Nat.le_refl _, hnonempty⟩
  have hle := (class_of_covers hprepare htag hcovers).1
  have hkind : tag.kind.ofBracket = false := by
    rw [Bool.eq_false_iff, Ne, ofBracket_kind_iff hprepare htag hcovers, not_or]
    exact ⟨hopen, hclose⟩
  have hclasses : kinds (scan 0 (prepare (b.lineText number))) = classes 0 (t ++ ['\n']) := by
    rw [kinds_scan, hprepare]
  have hwidth : width (scan 0 (prepare (b.lineText number))) = t.length + 1 := by
    rw [width, flatMap_text_scan, hprepare, List.length_append]
    rfl
  constructor
  · intro i hi
    obtain ⟨kind, hget, hne⟩ := Tag.kind_before (wellCut_scan 0 _) htag hkind hi
    rw [hclasses] at hget
    exact Coloured.not_of_class (by omega) hget hne
  · intro hstop
    obtain ⟨kind, hget, hne⟩ :=
      Tag.kind_after (wellCut_scan 0 _) htag hkind (by rw [hwidth]; omega)
    rw [hclasses] at hget
    exact Coloured.not_of_class hstop hget hne

end TextBox

/-- The tags that colouring a line adds, if the line is there, has no carriage return and does not
start with a byte order mark: they lie side by side from the first column to the one behind the
newline, each column has one of them, with its colour, each bracket has its own, and the others
cannot be made longer. -/
theorem line_colours (s : Session) (hs : s.highlighter = true) (n : Nat) (t : Text)
    (hline : (Text.fields '\n' s.editor.content)[n]? = some t)
    (hmark : t.head? ≠ some Token.byteOrderMark) (hreturn : '\r' ∉ t) :
    let number := ((n + 1 : Nat) : Int)
    let tags := s.editor.lineTags number
    Command.highlightLine (some number) s =
        .ok ⟨⟩ { s with journal := { s.journal with tags := s.journal.tags ++ tags } } ∧
      s.editor.lineText number = t ∧ Tag.Tile number (t.length + 1) tags ∧
      (∀ i ≤ t.length, ∃! tag, tag ∈ tags ∧ tag.Covers i) ∧
      (∀ tag ∈ tags, ∀ i, tag.Covers i → Coloured t i tag.kind.name) ∧
      (∀ i, t[i]? = some '[' ∨ t[i]? = some ']' →
        ∃ tag ∈ tags, tag.start = i ∧ tag.stop = i + 1) ∧
      ∀ tag ∈ tags, t[tag.start]? ≠ some '[' → t[tag.start]? ≠ some ']' →
        (∀ i, i + 1 = tag.start → ¬ Coloured t i tag.kind.name) ∧
        (tag.stop ≤ t.length → ¬ Coloured t tag.stop tag.kind.name) := by
  intro number tags
  have htext : s.editor.lineText number = t := by
    rw [TextBox.lineText_eq_getD, hline, Option.getD_some]
  have hnewline : '\n' ∉ t := htext ▸ s.editor.newline_notMem_lineText n
  have hprepare : Token.prepare (s.editor.lineText number) = t ++ ['\n'] := by
    rw [htext, Token.prepare_eq hmark hnewline hreturn]
  have htile : Tag.Tile number (t.length + 1) tags := by
    have htile := s.editor.tile_lineTags number
    rwa [hprepare, List.length_append] at htile
  refine ⟨?_, htext, htile, fun i hi => TextBox.existsUnique_covers hprepare hi, ?_,
    fun i hi => TextBox.exists_tag_of_bracket hprepare hi,
    fun tag htag hopen hclose => TextBox.maximal_of_plain hprepare htag hopen hclose⟩
  · change (if s.highlighter = true then _ else _ : Command Unit) s = _
    rw [if_pos hs]
    rfl
  · intro tag htag i hi
    obtain ⟨hle, hclass⟩ := TextBox.class_of_covers hprepare htag hi
    exact Coloured.of_class hle hclass

/-- In the second line one of the closing brackets has nothing to close. -/
theorem line_colours_second_line :
    let s := { Session.initial .empty .silent with editor := ⟨"a\n[.]]+".toList, 0⟩ }
    let tags := s.editor.lineTags 2
    tags = [⟨.bracket, 2, 0, 1⟩, ⟨.io, 2, 1, 2⟩, ⟨.bracket, 2, 2, 3⟩, ⟨.stray, 2, 3, 4⟩,
        ⟨.change, 2, 4, 5⟩, ⟨.comment, 2, 5, 6⟩] ∧
      Tag.Tile 2 6 tags ∧ (∃! tag, tag ∈ tags ∧ tag.Covers 3) ∧
      Coloured "[.]]+".toList 3 "Token.Error" ∧
      ¬ Coloured "[.]]+".toList 5 "Token.Name.Builtin" := by
  intro s tags
  have htags : tags = [⟨.bracket, 2, 0, 1⟩, ⟨.io, 2, 1, 2⟩, ⟨.bracket, 2, 2, 3⟩, ⟨.stray, 2, 3, 4⟩,
      ⟨.change, 2, 4, 5⟩, ⟨.comment, 2, 5, 6⟩] := by decide +kernel
  obtain ⟨-, -, htile, hunique, hcolour, -, hmaximal⟩ :=
    line_colours s rfl 1 "[.]]+".toList (by decide +kernel) (by decide +kernel) (by decide +kernel)
  have hstray : (⟨.stray, 2, 3, 4⟩ : Tag) ∈ tags := by simp [htags]
  have hchange : (⟨.change, 2, 4, 5⟩ : Tag) ∈ tags := by simp [htags]
  exact ⟨htags, htile, hunique 3 (by decide),
    hcolour _ hstray 3 ⟨Nat.le_refl 3, Nat.lt_succ_self 3⟩,
    (hmaximal _ hchange (by decide) (by decide)).2 (by decide)⟩

end TapeStudio
