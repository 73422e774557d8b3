import Mathlib.Data.List.Chain
import TapeStudio.Highlight.Tag
import TapeStudio.Proofs.CommandText
import TapeStudio.Proofs.EnteredLines
import TapeStudio.Proofs.Lines

/-! How a line is cut into tokens, by the class of each character; how the tags of the tokens lie
side by side; and which lines of a box are coloured. -/
namespace TapeStudio

/-- The classes whose tokens are single brackets. -/
def TokenClass.ofBracket : TokenClass → Bool
  | .bracket | .stray => true
  | _ => false

theorem TokenClass.name_injective : Function.Injective name := by
  intro kind kind' h
  revert h
  cases kind <;> cases kind' <;> simp [name]

namespace Token

/-- The loops that are open after a character. -/
def depthAfter (depth : Nat) (c : Char) : Nat :=
  if c = '[' then depth + 1 else if c = ']' then depth - 1 else depth

/-- The class of a character inside `depth` loops. -/
def classIn (depth : Nat) (c : Char) : TokenClass :=
  if c = '[' then .bracket
  else if c = ']' then if depth = 0 then .stray else .bracket
  else runClass c

theorem depthAfter_plain {c : Char} (ho : c ≠ '[') (hc : c ≠ ']') (depth : Nat) :
    depthAfter depth c = depth := by simp [depthAfter, ho, hc]

theorem classIn_plain {c : Char} (ho : c ≠ '[') (hc : c ≠ ']') (depth : Nat) :
    classIn depth c = runClass c := by simp [classIn, ho, hc]

theorem ofBracket_runClass (c : Char) : (runClass c).ofBracket = false := by
  unfold runClass
  split
  · rfl
  · split
    · rfl
    · split <;> rfl

/-- The class of each character of a text inside `depth` loops. -/
def classes (depth : Nat) : Text → List TokenClass
  | [] => []
  | c :: rest => classIn depth c :: classes (depthAfter depth c) rest

theorem getElem?_classes (depth : Nat) (t : Text) (i : Nat) :
    (classes depth t)[i]? = t[i]?.map (classIn ((t.take i).foldl depthAfter depth)) := by
  induction t generalizing depth i with
  | nil => rfl
  | cons c t ih =>
    cases i with
    | zero => rfl
    | succ i => exact ih (depthAfter depth c) i

/-- A text has a stray bracket where it closes too much. -/
theorem stray_mem_classes_iff (depth : Nat) (t : Text) :
    .stray ∈ classes depth t ↔ Brackets.OverclosedAfter depth t := by
  induction t generalizing depth with
  | nil => simp [classes]
  | cons c t ih =>
    rw [classes, List.mem_cons, ih]
    by_cases ho : c = '['
    · simp [ho, classIn, depthAfter]
    · by_cases hc : c = ']'
      · cases depth with
        | zero => simp [hc, classIn]
        | succ depth => simp [hc, classIn, depthAfter]
      · have hrun : .stray ≠ runClass c := by
          intro h
          have hbracket := ofBracket_runClass c
          rw [← h] at hbracket
          contradiction
        rw [classIn_plain ho hc, depthAfter_plain ho hc, Brackets.overclosedAfter_plain ho hc]
        simp [hrun]

/-- The classes of the characters of tokens. -/
def kinds (tokens : List Token) : List TokenClass :=
  tokens.flatMap fun t => List.replicate t.text.length t.kind

theorem kinds_extend (kind : TokenClass) (c : Char) (tokens : List Token) :
    kinds (extend kind c tokens) = kind :: kinds tokens := by
  fun_cases extend kind c tokens with
  | case1 => rfl
  | case2 t rest h => simp [kinds, h, List.replicate_succ]
  | case3 t rest h => simp [kinds]

/-- Each character is in a token of its class. -/
theorem kinds_scan (depth : Nat) (t : Text) : kinds (scan depth t) = classes depth t := by
  fun_induction scan depth t with
  | case1 => rfl
  | case2 depth rest ih =>
    rw [classes, depthAfter, if_pos rfl, ← ih]
    rfl
  | case3 rest ih =>
    rw [classes, depthAfter, if_neg (by decide), if_pos rfl, ← ih]
    rfl
  | case4 rest outer ih =>
    rw [classes, depthAfter, if_neg (by decide), if_pos rfl, Nat.succ_sub_one, ← ih]
    rfl
  | case5 depth c rest ho hc ih =>
    rw [kinds_extend, ih, classes, classIn_plain ho hc, depthAfter_plain ho hc]

/-- Brackets have tokens of their own, and what else has the same class is not cut. -/
structure WellCut (tokens : List Token) : Prop where
  nonempty : ∀ t ∈ tokens, t.text ≠ []
  single : ∀ t ∈ tokens, t.kind.ofBracket = true → t.text.length = 1
  apart : tokens.IsChain fun t u => t.kind = u.kind → t.kind.ofBracket = true

namespace WellCut

variable {kind : TokenClass} {c : Char} {tokens : List Token}

theorem cons_bracket (h : WellCut tokens) (hkind : kind.ofBracket = true) :
    WellCut (⟨kind, [c]⟩ :: tokens) where
  nonempty := List.forall_mem_cons.mpr ⟨by simp, h.nonempty⟩
  single := List.forall_mem_cons.mpr ⟨fun _ => rfl, h.single⟩
  apart := List.isChain_cons.mpr ⟨fun _ _ _ => hkind, h.apart⟩

theorem extend (h : WellCut tokens) (hkind : kind.ofBracket = false) :
    WellCut (Token.extend kind c tokens) := by
  fun_cases Token.extend kind c tokens with
  | case1 => exact ⟨by simp, by simp [hkind], by simp⟩
  | case2 t rest hsame =>
    -- the first token grows, and has the same neighbour as before
    obtain ⟨-, hnonempty⟩ := List.forall_mem_cons.mp h.nonempty
    obtain ⟨-, hsingle⟩ := List.forall_mem_cons.mp h.single
    obtain ⟨hfirst, hrest⟩ := List.isChain_cons.mp h.apart
    refine ⟨List.forall_mem_cons.mpr ⟨by simp, hnonempty⟩,
      List.forall_mem_cons.mpr ⟨fun hb => ?_, hsingle⟩, List.isChain_cons.mpr ⟨?_, hrest⟩⟩
    · rw [hkind] at hb
      contradiction
    · intro u hu hku
      have hbracket := hfirst u hu (hsame.trans hku)
      rwa [hsame] at hbracket
  | case3 t rest hother =>
    refine ⟨List.forall_mem_cons.mpr ⟨by simp, h.nonempty⟩,
      List.forall_mem_cons.mpr ⟨fun _ => rfl, h.single⟩, List.isChain_cons.mpr ⟨?_, h.apart⟩⟩
    intro u hu hku
    obtain rfl : t = u := by simpa using hu
    exact absurd hku.symm hother

end WellCut

theorem wellCut_scan (depth : Nat) (t : Text) : WellCut (scan depth t) := by
  fun_induction scan depth t with
  | case1 => exact ⟨by simp, by simp, .nil⟩
  | case2 depth rest ih => exact ih.cons_bracket rfl
  | case3 rest ih => exact ih.cons_bracket rfl
  | case4 rest outer ih => exact ih.cons_bracket rfl
  | case5 depth c rest ho hc ih => exact ih.extend (ofBracket_runClass c)

theorem prepare_of_unmarked {line : Text} (hmark : line.head? ≠ some byteOrderMark) :
    prepare line =
      Text.dropTrailingNewlines ((Text.unifyNewlines line).dropWhile (· = '\n')) ++ ['\n'] := by
  cases line with
  | nil => rfl
  | cons c rest =>
    have hc : c ≠ byteOrderMark := fun hc => hmark (congrArg some hc)
    simp [prepare, hc]

theorem prepare_cons_mark (rest : Text) :
    prepare (byteOrderMark :: rest) =
      Text.dropTrailingNewlines ((Text.unifyNewlines rest).dropWhile (· = '\n')) ++ ['\n'] := by
  simp [prepare]

/-- A line is scanned as it stands, with a newline behind it, if nothing in it is dropped. -/
theorem prepare_eq {line : Text} (hmark : line.head? ≠ some byteOrderMark) (hnewline : '\n' ∉ line)
    (hreturn : '\r' ∉ line) : prepare line = line ++ ['\n'] := by
  have hends (c : Char) (hc : c ∈ line) : decide (c = '\n') = false := by
    simpa using fun heq : c = '\n' => hnewline (heq ▸ hc)
  rw [prepare_of_unmarked hmark, Text.unifyNewlines_of_notMem hreturn,
    Text.dropWhile_of_head? fun c hc => hends c (List.mem_of_head? hc), Text.dropTrailingNewlines,
    Text.dropEndWhile_of_getLast? fun c hc => hends c (List.mem_of_getLast? hc)]

/-- The number of characters in tokens. -/
def width (tokens : List Token) : Nat := (tokens.flatMap text).length

theorem width_cons (t : Token) (tokens : List Token) :
    width (t :: tokens) = t.text.length + width tokens := by simp [width]

theorem length_kinds (tokens : List Token) : (kinds tokens).length = width tokens := by
  simp [kinds, width, List.length_flatMap]

/-- The characters of a token have its class, wherever it stands. -/
theorem getElem?_kinds {before after : List Token} {t : Token} {k : Nat} (hk : k < t.text.length) :
    (kinds (before ++ t :: after))[width before + k]? = some t.kind := by
  have hsplit : kinds (before ++ t :: after) =
      kinds before ++ (List.replicate t.text.length t.kind ++ kinds after) := by
    simp [kinds]
  rw [hsplit, ← length_kinds before, List.getElem?_append_right (by omega), Nat.add_sub_cancel_left,
    List.getElem?_append_left (by simpa using hk)]
  simp [hk]

/-- Each character is in a token. -/
theorem exists_split_at {tokens : List Token} {i : Nat} (hi : i < width tokens) :
    ∃ before t after, tokens = before ++ t :: after ∧ width before ≤ i ∧
      i < width before + t.text.length := by
  induction tokens generalizing i with
  | nil => simp [width] at hi
  | cons t tokens ih =>
    by_cases hfirst : i < t.text.length
    · exact ⟨[], t, tokens, rfl, Nat.zero_le i, by simpa [width] using hfirst⟩
    · rw [width_cons] at hi
      obtain ⟨before, u, after, rfl, hle, hlt⟩ := ih (i := i - t.text.length) (by omega)
      refine ⟨t :: before, u, after, rfl, ?_, ?_⟩
      · rw [width_cons]
        omega
      · rw [width_cons]
        omega

end Token

namespace Tag

open Token

variable {line : Int} {start i : Nat} {tokens : List Token} {tag other : Tag}

def Covers (tag : Tag) (i : Nat) : Prop := tag.start ≤ i ∧ i < tag.stop

/-- A tag is where the tokens before its own one end. -/
theorem mem_layOut_iff : tag ∈ layOut line start tokens ↔ ∃ before t after,
    tokens = before ++ t :: after ∧
      tag = ⟨t.kind, line, start + width before, start + width before + t.text.length⟩ := by
  induction tokens generalizing start with
  | nil => simp [layOut]
  | cons t tokens ih =>
    rw [layOut, List.mem_cons, ih]
    constructor
    · rintro (rfl | ⟨before, u, after, rfl, rfl⟩)
      · exact ⟨[], t, tokens, rfl, rfl⟩
      · exact ⟨t :: before, u, after, rfl, by rw [width_cons, ← Nat.add_assoc]⟩
    · rintro ⟨_ | ⟨first, before⟩, u, after, htokens, rfl⟩
      · obtain ⟨rfl, rfl⟩ := List.cons.inj htokens
        exact .inl rfl
      · obtain ⟨rfl, rfl⟩ := List.cons.inj htokens
        exact .inr ⟨before, u, after, rfl, by rw [width_cons, ← Nat.add_assoc]⟩

theorem exists_covers (hi : i < width tokens) :
    ∃ tag ∈ layOut line start tokens, tag.Covers (start + i) := by
  obtain ⟨before, t, after, htokens, hle, hlt⟩ := exists_split_at hi
  refine ⟨_, mem_layOut_iff.mpr ⟨before, t, after, htokens, rfl⟩, ?_, ?_⟩
  · exact Nat.add_le_add_left hle start
  · dsimp only
    omega

theorem start_le_of_mem_layOut (h : tag ∈ layOut line start tokens) : start ≤ tag.start := by
  obtain ⟨before, t, after, -, rfl⟩ := mem_layOut_iff.mp h
  exact Nat.le_add_right ..

/-- No two tags cover the same column. -/
theorem eq_of_covers (h : tag ∈ layOut line start tokens) (h' : other ∈ layOut line start tokens)
    (hi : tag.Covers i) (hi' : other.Covers i) : tag = other := by
  induction tokens generalizing start with
  | nil => simp [layOut] at h
  | cons t tokens ih =>
    -- the tags after the first one begin where it stops
    have hafter {tag : Tag} (hmem : tag ∈ layOut line (start + t.text.length) tokens)
        (hcovers : tag.Covers i) : ¬ i < start + t.text.length := by
      have hstart := start_le_of_mem_layOut hmem
      have hle := hcovers.1
      omega
    rw [layOut, List.mem_cons] at h h'
    rcases h with rfl | h
    · rcases h' with rfl | h'
      · rfl
      · exact absurd hi.2 (hafter h' hi')
    · rcases h' with rfl | h'
      · exact absurd hi'.2 (hafter h hi)
      · exact ih h h'

/-- The kind of a tag is the class of the characters that it covers. -/
theorem kind_of_covers (h : tag ∈ layOut line start tokens) (hi : tag.Covers (start + i)) :
    (kinds tokens)[i]? = some tag.kind := by
  obtain ⟨before, t, after, rfl, rfl⟩ := mem_layOut_iff.mp h
  obtain ⟨hle, hlt⟩ := hi
  obtain ⟨k, rfl⟩ : ∃ k, i = width before + k := ⟨i - width before, by dsimp only at hle; omega⟩
  exact getElem?_kinds (by dsimp only at hlt; omega)

/-- A bracket takes one column. -/
theorem stop_of_ofBracket (hcut : WellCut tokens) (h : tag ∈ layOut line start tokens)
    (hkind : tag.kind.ofBracket = true) : tag.stop = tag.start + 1 := by
  obtain ⟨before, t, after, rfl, rfl⟩ := mem_layOut_iff.mp h
  have hlength := hcut.single t (by simp) hkind
  dsimp only
  omega

/-- Before a run of plain characters there is another class. -/
theorem kind_before (hcut : WellCut tokens) (h : tag ∈ layOut line 0 tokens)
    (hkind : tag.kind.ofBracket = false) (hi : i + 1 = tag.start) :
    ∃ kind, (kinds tokens)[i]? = some kind ∧ kind ≠ tag.kind := by
  obtain ⟨before, t, after, rfl, rfl⟩ := mem_layOut_iff.mp h
  dsimp only at hi hkind ⊢
  rcases List.eq_nil_or_concat' before with rfl | ⟨before, u, rfl⟩
  · simp [width] at hi
  · rw [List.append_assoc, List.singleton_append] at hcut ⊢
    have hlength : 0 < u.text.length := List.length_pos_iff.mpr (hcut.nonempty u (by simp))
    have hwidth : i = width before + (u.text.length - 1) := by
      simp only [width, List.flatMap_append, List.length_append, List.flatMap_singleton] at hi ⊢
      omega
    refine ⟨u.kind, hwidth ▸ getElem?_kinds (by omega), fun hsame => ?_⟩
    have hbracket := (List.isChain_append_cons_cons.mp hcut.apart).2.1 hsame
    rw [hsame, hkind] at hbracket
    contradiction

/-- After a run of plain characters there is another class. -/
theorem kind_after (hcut : WellCut tokens) (h : tag ∈ layOut line 0 tokens)
    (hkind : tag.kind.ofBracket = false) (hstop : tag.stop < width tokens) :
    ∃ kind, (kinds tokens)[tag.stop]? = some kind ∧ kind ≠ tag.kind := by
  obtain ⟨before, t, after, rfl, rfl⟩ := mem_layOut_iff.mp h
  dsimp only at hkind hstop ⊢
  have hwidth : 0 + width before + t.text.length = width (before ++ [t]) + 0 := by
    simp [width]
  cases after with
  | nil =>
    rw [hwidth, Nat.add_zero] at hstop
    exact absurd hstop (Nat.lt_irrefl _)
  | cons u after =>
    have hlength : 0 < u.text.length := List.length_pos_iff.mpr (hcut.nonempty u (by simp))
    refine ⟨u.kind, ?_, fun hsame => ?_⟩
    · rw [hwidth, ← List.singleton_append, ← List.append_assoc]
      exact getElem?_kinds hlength
    · have hbracket := (List.isChain_append_cons_cons.mp hcut.apart).2.1 hsame.symm
      rw [hkind] at hbracket
      contradiction

/-- The tags lie side by side in a line, from its start up to a column. -/
structure Tile (line : Int) (stop : Nat) (tags : List Tag) : Prop where
  nonempty : ∀ tag ∈ tags, tag.line = line ∧ tag.start < tag.stop
  first : tags.head?.map Tag.start = some 0
  adjacent : tags.IsChain fun tag next => tag.stop = next.start
  last : tags.getLast?.map Tag.stop = some stop

theorem head?_layOut (hne : tokens ≠ []) :
    (layOut line start tokens).head?.map Tag.start = some start := by
  obtain ⟨t, rest, rfl⟩ := List.exists_cons_of_ne_nil hne
  rfl

theorem isChain_layOut (line : Int) (start : Nat) (tokens : List Token) :
    (layOut line start tokens).IsChain fun tag next => tag.stop = next.start := by
  induction tokens generalizing start with
  | nil => exact .nil
  | cons t tokens ih =>
    refine List.isChain_cons.mpr ⟨fun next hnext => ?_, ih _⟩
    cases tokens with
    | nil => simp [layOut] at hnext
    | cons u tokens =>
      obtain rfl := Option.some.inj hnext
      rfl

theorem getLast?_layOut (hne : tokens ≠ []) :
    (layOut line start tokens).getLast?.map Tag.stop = some (start + width tokens) := by
  induction tokens generalizing start with
  | nil => contradiction
  | cons t tokens ih =>
    cases tokens with
    | nil => simp [layOut, width]
    | cons u tokens =>
      rw [width_cons, ← Nat.add_assoc, layOut, layOut, List.getLast?_cons_cons]
      exact ih (by simp)

theorem tile_layOut (hcut : WellCut tokens) (hne : tokens ≠ []) :
    Tile line (width tokens) (layOut line 0 tokens) where
  nonempty tag htag := by
    obtain ⟨before, t, after, rfl, rfl⟩ := mem_layOut_iff.mp htag
    have htext : 0 < t.text.length := List.length_pos_iff.mpr (hcut.nonempty t (by simp))
    exact ⟨rfl, by dsimp only; omega⟩
  first := head?_layOut hne
  adjacent := isChain_layOut line 0 tokens
  last := by rw [getLast?_layOut hne, Nat.zero_add]

end Tag

/-! The lines of a box are the pieces of its text between the newlines. -/

namespace Text

open TextBox

theorem fields_newline (t : Text) : fields '\n' t = t.takeWhile inLine ::
    match t.dropWhile inLine with
    | [] => []
    | _ :: rest => fields '\n' rest := by
  have hline : '\n' ∉ t.takeWhile inLine := by
    intro hmem
    have hin := List.mem_takeWhile_imp hmem
    simp [inLine, LineFeed.lineFeed] at hin
  have hsplit := List.takeWhile_append_dropWhile (p := inLine) (l := t)
  cases hrest : t.dropWhile inLine with
  | nil =>
    rw [hrest, List.append_nil] at hsplit
    rw [hsplit] at hline ⊢
    exact fields_of_notMem hline
  | cons c rest =>
    have hc : inLine c = false := eq_false_of_head?_dropWhile (l := t) (by rw [hrest]; rfl)
    obtain rfl : c = '\n' := by simpa [inLine, LineFeed.lineFeed] using hc
    rw [hrest] at hsplit
    conv_lhs => rw [← hsplit]
    exact fields_append_cons hline rest

theorem getElem?_fields (n : Nat) (t : Text) :
    (fields '\n' t)[n]? = (fromLine? n t).map (List.takeWhile inLine) := by
  induction n generalizing t with
  | zero =>
    rw [fields_newline]
    rfl
  | succ n ih =>
    rw [fields_newline, List.getElem?_cons_succ, fromLine?]
    cases t.dropWhile inLine with
    | nil => rfl
    | cons c rest => exact ih rest

theorem countLinesFrom_true_pos (t : Text) : 0 < countLinesFrom true t := by
  generalize hinside : true = inside
  fun_induction countLinesFrom inside t with
  | case1 => simp
  | case2 inside h => exact absurd hinside.symm h
  | case3 inside rest ih => omega
  | case4 inside c rest _ hbreak ih => omega
  | case5 inside c rest _ hbreak ih => exact ih rfl

/-- A character that is no separator belongs to the first piece. -/
theorem getElem?_fields_cons_succ {separator c : Char} (hc : c ≠ separator) (rest : Text)
    (n : Nat) :
    (fields separator (c :: rest))[n + 1]? = (fields separator rest)[n + 1]? := by
  obtain ⟨piece, pieces, h⟩ := List.exists_cons_of_ne_nil (fields_ne_nil separator rest)
  rw [fields, if_neg hc, h]
  rfl

/-- There are at least as many lines in the wide sense as it takes to reach a line that is not
empty. -/
theorem lt_countLinesFrom {inside : Bool} {t line : Text} {n : Nat}
    (h : (fields '\n' t)[n]? = some line) (hne : line ≠ []) : n < countLinesFrom inside t := by
  fun_induction countLinesFrom inside t generalizing n with
  | case1 | case2 =>
    cases n with
    | zero => exact absurd (Option.some.inj h).symm hne
    | succ n => simp [fields] at h
  | case3 inside rest ih =>
    cases n with
    | zero => omega
    | succ n =>
      rw [getElem?_fields_cons_succ (by decide), fields, if_pos rfl] at h
      have hrest := ih h
      omega
  | case4 inside c rest _ hbreak ih =>
    cases n with
    | zero => omega
    | succ n =>
      by_cases hc : c = '\n'
      · rw [fields, if_pos hc] at h
        have hrest := ih h
        omega
      · rw [getElem?_fields_cons_succ hc] at h
        have hrest := ih h
        omega
  | case5 inside c rest _ hbreak ih =>
    have hc : c ≠ '\n' := by
      rintro rfl
      exact hbreak (by decide)
    cases n with
    | zero => exact countLinesFrom_true_pos rest
    | succ n =>
      rw [getElem?_fields_cons_succ hc] at h
      exact ih h

end Text

namespace TextBox

variable {b : TextBox Char} {n : Nat}

theorem lineText_eq_getD (b : TextBox Char) (n : Nat) :
    b.lineText ((n + 1 : Nat) : Int) = (Text.fields '\n' b.content)[n]?.getD [] := by
  rw [Text.getElem?_fields]
  cases h : fromLine? n b.content with
  | none => exact lineText_of_fromLine?_eq_none h
  | some rest => exact lineText_of_fromLine? h

theorem newline_notMem_lineText (b : TextBox Char) (n : Nat) :
    '\n' ∉ b.lineText ((n + 1 : Nat) : Int) := by
  rw [lineText_eq_getD]
  cases h : (Text.fields '\n' b.content)[n]? with
  | none => simp
  | some line => exact fun hmem => (Text.mem_of_mem_fields (List.mem_of_getElem? h) hmem).1 rfl

/-- The tags of a line lie side by side and cover the line as it is scanned. -/
theorem tile_lineTags (b : TextBox Char) (line : Int) :
    Tag.Tile line (Token.prepare (b.lineText line)).length (b.lineTags line) := by
  have hwidth (t : Text) : Token.width (Token.scan 0 t) = t.length := by simp [Token.width]
  rw [← hwidth]
  refine Tag.tile_layOut (Token.wellCut_scan 0 _) fun hnil => ?_
  have htext := Token.flatMap_text_scan 0 (Token.prepare (b.lineText line))
  rw [show Token.scan 0 (Token.prepare (b.lineText line)) = [] from hnil] at htext
  simp [Token.prepare] at htext

theorem exists_covers_lineTags {b : TextBox Char} {line : Int} {i : Nat}
    (hi : i < (Token.prepare (b.lineText line)).length) :
    ∃ tag ∈ b.lineTags line, tag.Covers i := by
  have hwidth : i < Token.width (Token.scan 0 (Token.prepare (b.lineText line))) := by
    simpa [Token.width] using hi
  obtain ⟨tag, htag, hcovers⟩ : ∃ tag ∈ b.lineTags line, tag.Covers (0 + i) :=
    Tag.exists_covers hwidth
  rw [Nat.zero_add] at hcovers
  exact ⟨tag, htag, hcovers⟩

/-- A tag has the class of what it covers in the line as it is scanned. -/
theorem getElem?_classes_of_covers {b : TextBox Char} {line : Int} {i : Nat} {tag : Tag}
    (h : tag ∈ b.lineTags line) (hi : tag.Covers i) :
    (Token.classes 0 (Token.prepare (b.lineText line)))[i]? = some tag.kind := by
  rw [← Token.kinds_scan]
  exact Tag.kind_of_covers h (by rwa [Nat.zero_add])

theorem mem_allTags_iff {tag : Tag} : tag ∈ b.allTags ↔
    ∃ n < Text.countLines b.content, tag ∈ b.lineTags ((n + 1 : Nat) : Int) := by
  simp [allTags, colouredLines]

end TextBox

end TapeStudio
