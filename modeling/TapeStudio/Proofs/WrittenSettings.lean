import TapeStudio.Proofs.Lines
import TapeStudio.Settings.Reader
import TapeStudio.Settings.Writer

/-! Reading a settings document that was written. The sections, their options and the order of both
are the same as before, and the values up to white space and comments in them. -/
namespace TapeStudio.Settings

open Text

/-- The name of an option that is written at the start of a line and read back from there. -/
structure OptionName (name : Text) : Prop where
  nonempty : name ≠ []
  trimmed : Trimmed name
  plain : ∀ c ∈ name, isDelimiter c = false
  unbroken : Unbroken name
  noComment : isComment name = false
  lower : Text.lower name = name

/-- A line that starts with this name and goes on with this part of a value is no header. -/
def Unheaded (name first : Text) : Prop :=
  name.head? = some '[' → ']' ∉ name.tail.tail ∧ ']' ∉ first

/-- The lines of a value that are read back after they were written. -/
def keptLines (first : Text) (more : List Text) : List Text :=
  trim first :: (more.map trim).filter fun line => !isComment line

def firstLine (value : Text) : Text := (fields '\n' value).headD []

/-- A value as it is read back after it was written. -/
def kept (value : Text) : Text :=
  trimEnd (joinWith '\n' (keptLines (firstLine value) (fields '\n' value).tail))

section Lines

theorem headerName?_eq_none_iff {words : Text} :
    headerName? words = none ↔ ∀ rest, words = '[' :: rest → ']' ∉ rest.tail := by
  have hheader : ∀ rest : Text, headerName? ('[' :: rest) = none ↔
      (rest.reverse.dropWhile (· ≠ ']')).tail = [] := by
    intro rest
    rw [headerName?]
    split
    next hnil => exact iff_of_true rfl hnil
    next hne => exact iff_of_false (by simp) hne
  by_cases hwords : ∃ rest, words = '[' :: rest
  · obtain ⟨rest, rfl⟩ := hwords
    rw [hheader]
    simp only [List.cons.injEq, true_and, forall_eq']
    cases rest with
    | nil => simp
    | cons c rest =>
      -- the bracket at the very front would enclose nothing
      rw [List.reverse_cons, List.dropWhile_append, List.tail_cons]
      split
      next hempty =>
        have hall := List.dropWhile_eq_nil_iff.mp (List.isEmpty_iff.mp hempty)
        have hmem : ']' ∉ rest := fun hmem => by simpa using hall ']' (List.mem_reverse.mpr hmem)
        by_cases hc : c = ']' <;> simp [hc, hmem]
      next hne =>
        have hne' : rest.reverse.dropWhile (· ≠ ']') ≠ [] := by simpa using hne
        obtain ⟨first, others, heq⟩ := List.exists_cons_of_ne_nil hne'
        have hmem : ']' ∈ rest := by
          have hfirst : (decide (first ≠ ']')) = false :=
            eq_false_of_head?_dropWhile (l := rest.reverse) (by rw [heq]; rfl)
          obtain rfl : first = ']' := by simpa using hfirst
          have hsuffix := (List.dropWhile_suffix (l := rest.reverse) (· ≠ ']')).subset
          exact List.mem_reverse.mp (hsuffix (by rw [heq]; exact List.mem_cons_self ..))
        simp [hmem]
  · constructor
    · rintro _ rest rfl
      exact absurd ⟨rest, rfl⟩ hwords
    · intro _
      unfold headerName?
      split
      next rest _ => exact absurd ⟨rest, rfl⟩ hwords
      · rfl

variable {name first : Text}

theorem trim_written (hname : OptionName name) (first : Text) :
    trim (name ++ ' ' :: '=' :: first) = name ++ ' ' :: '=' :: trimEnd first := by
  obtain ⟨c, name, rfl⟩ := List.exists_cons_of_ne_nil hname.nonempty
  have hc : isBlank c = false := hname.trimmed.1 c rfl
  have hsign : isBlank '=' = false := by decide
  have hend := trimEnd_append_cons hsign (c :: name ++ [' ']) first
  rw [List.append_assoc, List.singleton_append, List.append_assoc, List.singleton_append] at hend
  rw [trim, List.cons_append, List.dropWhile_cons_of_neg (by simp [hc])]
  exact hend

theorem optionOf?_written (hname : OptionName name) (first : Text) :
    optionOf? (name ++ ' ' :: '=' :: first) = some (name, trim first) := by
  have hplain : ∀ c ∈ name ++ [' '], (!isDelimiter c) = true := by
    intro c hc
    rcases List.mem_append.mp hc with hc | hc
    · simp [hname.plain c hc]
    · rw [List.mem_singleton.mp hc]
      decide
  have hsign : (!isDelimiter '=') = false := by decide
  have hblank : ∀ c ∈ [' '], isBlank c = true := List.forall_mem_singleton.mpr (by decide)
  have hsplit : name ++ ' ' :: '=' :: first = (name ++ [' ']) ++ '=' :: first := by simp
  rw [optionOf?, hsplit, List.dropWhile_append_of_pos hplain, List.takeWhile_append_of_pos hplain,
    List.dropWhile_cons_of_neg (by simp [hsign]), List.takeWhile_cons_of_neg (by simp [hsign]),
    List.append_nil, trimEnd, dropEndWhile_append_of_all _ hblank,
    dropEndWhile_of_getLast? hname.trimmed.2, hname.lower]

theorem headerName?_written (hname : OptionName name) (hheader : Unheaded name first) :
    headerName? (name ++ ' ' :: '=' :: first) = none := by
  apply headerName?_eq_none_iff.mpr
  intro rest hrest
  obtain ⟨c, name, rfl⟩ := List.exists_cons_of_ne_nil hname.nonempty
  obtain ⟨rfl, rfl⟩ : c = '[' ∧ name ++ ' ' :: '=' :: first = rest := by simpa using hrest
  obtain ⟨hmem, hfirst⟩ := hheader rfl
  cases name with
  | nil => simpa using hfirst
  | cons c name => simpa using ⟨hmem, hfirst⟩

theorem headerName?_section {name : Text} (hname : name ≠ []) :
    headerName? ('[' :: name ++ [']']) = some name := by
  rw [List.cons_append, headerName?, List.reverse_append, List.reverse_singleton,
    List.singleton_append, List.dropWhile_cons_of_neg (by simp), List.tail_cons]
  split
  next hnil => simp [hname] at hnil
  · rw [List.reverse_reverse]

end Lines

/-- All lines of a text, one after the other. -/
def readAll? (d : Draft) (t : Text) : Option Draft := (fields '\n' t).foldlM Draft.readLine? d

theorem readAll?_append {line : Text} (h : '\n' ∉ line) (d : Draft) (t : Text) :
    readAll? d (line ++ '\n' :: t) = (d.readLine? line).bind fun d => readAll? d t := by
  rw [readAll?, fields_append_cons h]
  rfl

/-- A place for options in a draft: `slot options valueOpen indent` is the draft with these options
there. -/
structure IsSlot (slot : DraftOptions → Bool → Nat → Draft) : Prop where
  place (options : DraftOptions) (valueOpen : Bool) (indent : Nat) :
    (slot options valueOpen indent).place ≠ .outside
  current (options : DraftOptions) (valueOpen : Bool) (indent : Nat) :
    (slot options valueOpen indent).current = options
  setCurrent (options : DraftOptions) (valueOpen : Bool) (indent : Nat) (other : DraftOptions) :
    (slot options valueOpen indent).setCurrent other = slot other valueOpen indent
  valueOpen (options : DraftOptions) (valueOpen : Bool) (indent : Nat) :
    (slot options valueOpen indent).valueOpen = valueOpen
  indent (options : DraftOptions) (valueOpen : Bool) (indent : Nat) :
    (slot options valueOpen indent).indent = indent
  openValue (options : DraftOptions) (valueOpen : Bool) (indent : Nat) :
    { slot options valueOpen indent with valueOpen := true } = slot options true indent
  setIndent (options : DraftOptions) (valueOpen : Bool) (indent other : Nat) :
    { slot options valueOpen indent with indent := other } = slot options valueOpen other

theorem isSlot_defaults (sections : List (Text × DraftOptions)) :
    IsSlot fun options valueOpen indent => ⟨options, sections, .defaults, valueOpen, indent⟩ := by
  constructor <;> intros <;> first | rfl | simp

theorem isSlot_section (defaults : DraftOptions) (name : Text)
    (sections : List (Text × DraftOptions)) :
    IsSlot fun options valueOpen indent =>
      ⟨defaults, (name, options) :: sections, .named, valueOpen, indent⟩ := by
  constructor <;> intros <;> first | rfl | simp

namespace IsSlot

variable {slot : DraftOptions → Bool → Nat → Draft} {options : DraftOptions} {name : Text}
  {lines : List Text} {valueOpen : Bool} {indent : Nat}

/-- The line that an option starts on. -/
theorem readLine?_option (h : IsSlot slot) (hname : OptionName name) {first : Text}
    (hheader : Unheaded name first) (hnew : options.lookup name = none) :
    (slot options valueOpen indent).readLine? (name ++ " = ".toList ++ first) =
      some (slot ((name, [trim first]) :: options) true 0) := by
  have hline : name ++ " = ".toList ++ first = name ++ ' ' :: '=' :: ' ' :: first := by simp
  have hwords := trim_written hname (' ' :: first)
  have hheader' : Unheaded name (trimEnd (' ' :: first)) := fun hhead =>
    ⟨(hheader hhead).1, fun hmem =>
      (hheader hhead).2 (by simpa using (List.rdropWhile_prefix _ _).subset hmem)⟩
  obtain ⟨c, rest, hcons⟩ := List.exists_cons_of_ne_nil hname.nonempty
  have hcomment : isComment (name ++ ' ' :: '=' :: trimEnd (' ' :: first)) = false := by
    have hc := hname.noComment
    rw [hcons] at hc ⊢
    exact hc
  have hindent : indentOf (name ++ ' ' :: '=' :: ' ' :: first) = 0 := by
    have hc : isBlank c = false := hname.trimmed.1 c (by rw [hcons]; rfl)
    simp [indentOf, hcons, hc]
  have hvalue : trim (trimEnd (' ' :: first)) = trim first := by
    rw [trim_trimEnd, trim_cons_of_isBlank (by decide)]
  have hstart : (slot options valueOpen 0).startOption? name (trim first) =
      some (slot ((name, [trim first]) :: options) true 0) := by
    rw [Draft.startOption?, h.current, hnew, if_neg (by simp [h.place, hname.nonempty]),
      h.setCurrent, h.openValue]
  rw [hline, Draft.readLine?]
  dsimp only
  rw [hwords, hcomment, if_neg Bool.false_ne_true, if_neg (by simp), hindent,
    if_neg (by simp), headerName?_written hname hheader', optionOf?_written hname, hvalue,
    h.setIndent]
  exact hstart

/-- A further line of the newest value. -/
theorem readLine?_more (h : IsSlot slot) (line : Text) :
    (slot ((name, lines) :: options) true 0).readLine? ('\t' :: line) =
      some (slot ((name, if isComment (trim line) then lines else trim line :: lines) :: options)
        true 0) := by
  have hindent : 0 < indentOf ('\t' :: line) := by
    rw [indentOf, List.takeWhile_cons_of_pos (by decide), List.length_cons]
    exact Nat.succ_pos _
  have hcontinue (words : Text) : (slot ((name, lines) :: options) true 0).continueValue words =
      slot ((name, words :: lines) :: options) true 0 := by
    rw [Draft.continueValue, h.current]
    exact h.setCurrent ..
  rw [Draft.readLine?]
  dsimp only
  rw [trim_cons_of_isBlank (by decide), h.valueOpen, h.indent, hcontinue, hcontinue]
  by_cases hcomment : isComment (trim line) = true
  · rw [if_pos hcomment, if_pos hcomment]
  · rw [if_neg hcomment, if_neg hcomment]
    by_cases hempty : (trim line).isEmpty = true
    · rw [if_pos hempty, List.isEmpty_iff.mp hempty]
      rfl
    · rw [if_neg hempty, if_pos (by simpa using hindent)]

/-- The lines of a value, after the line on which it starts. -/
theorem readAll?_lines (h : IsSlot slot) {d : Draft} {line : Text} {more : List Text}
    (hline : '\n' ∉ line) (hmore : ∀ l ∈ more, '\n' ∉ l)
    (hstart : d.readLine? line = some (slot ((name, lines) :: options) true 0)) (rest : Text) :
    readAll? d (line ++ (more.flatMap fun l => '\n' :: '\t' :: l) ++ '\n' :: rest) =
      readAll? (slot ((name, ((more.map trim).filter fun l => !isComment l).reverse ++ lines) ::
        options) true 0) rest := by
  induction more generalizing d line lines with
  | nil =>
    rw [List.flatMap_nil, List.append_nil, readAll?_append hline, hstart]
    rfl
  | cons l more ih =>
    have hl : '\n' ∉ '\t' :: l := by simpa using hmore l (List.mem_cons_self ..)
    have hsplit : line ++ ((l :: more).flatMap fun l => '\n' :: '\t' :: l) ++ '\n' :: rest =
        line ++ '\n' ::
          ('\t' :: l ++ (more.flatMap fun l => '\n' :: '\t' :: l) ++ '\n' :: rest) := by
      simp
    rw [hsplit, readAll?_append hline, hstart, Option.bind_some,
      ih hl (fun l' hl' => hmore l' (List.mem_cons_of_mem _ hl')) (h.readLine?_more l)]
    by_cases hcomment : isComment (trim l) = true <;> simp [hcomment]

end IsSlot

section Options

theorem indented_of_notMem {t : Text} (h : '\n' ∉ t) : indented t = t := by
  induction t with
  | nil => rfl
  | cons c t ih =>
    rw [List.mem_cons, not_or] at h
    rw [indented, List.flatMap_cons, if_neg (Ne.symm h.1)]
    exact congrArg (c :: ·) (ih h.2)

theorem indented_joinWith {first : Text} {more : List Text} (hfirst : '\n' ∉ first)
    (hmore : ∀ l ∈ more, '\n' ∉ l) :
    indented (joinWith '\n' (first :: more)) =
      first ++ more.flatMap fun l => '\n' :: '\t' :: l := by
  induction more generalizing first with
  | nil => simpa [joinWith] using indented_of_notMem hfirst
  | cons l more ih =>
    have hrest := ih (hmore l (List.mem_cons_self ..))
      fun l' hl' => hmore l' (List.mem_cons_of_mem _ hl')
    have hfirst' := indented_of_notMem hfirst
    unfold indented at hrest hfirst' ⊢
    rw [joinWith, List.flatMap_append, List.flatMap_cons, hrest, hfirst']
    · simp
    · simp

/-- An option as it stands in a draft after it was read. -/
def draftOption (o : Text × Text) : Text × List Text :=
  (o.1, (keptLines (firstLine o.2) (fields '\n' o.2).tail).reverse)

variable {slot : DraftOptions → Bool → Nat → Draft} {options : DraftOptions} {valueOpen : Bool}
  {indent : Nat}

theorem IsSlot.readAll?_option (h : IsSlot slot) {o : Text × Text} (hname : OptionName o.1)
    (hheader : Unheaded o.1 (firstLine o.2)) (hnew : options.lookup o.1 = none) (rest : Text) :
    readAll? (slot options valueOpen indent) (writeOption o ++ rest) =
      readAll? (slot (draftOption o :: options) true 0) rest := by
  obtain ⟨name, value⟩ := o
  dsimp only at hname hheader hnew
  obtain ⟨first, more, hfields⟩ := List.exists_cons_of_ne_nil (fields_ne_nil '\n' value)
  have hunbroken : ∀ l ∈ first :: more, '\n' ∉ l := fun l hl hmem =>
    (mem_of_mem_fields (hfields ▸ hl) hmem).1 rfl
  have hfirst : '\n' ∉ first := hunbroken first (List.mem_cons_self ..)
  have hmore : ∀ l ∈ more, '\n' ∉ l := fun l hl => hunbroken l (List.mem_cons_of_mem _ hl)
  have hvalue : indented value = first ++ more.flatMap fun l => '\n' :: '\t' :: l := by
    rw [← joinWith_fields '\n' value, hfields, indented_joinWith hfirst hmore]
  have hline : '\n' ∉ name ++ " = ".toList ++ first := by
    simp [hname.unbroken.1, hfirst]
  simp only [firstLine, hfields, List.headD_cons] at hheader
  have hstart : (slot options valueOpen indent).readLine? (name ++ " = ".toList ++ first) =
      some (slot ((name, [trim first]) :: options) true 0) :=
    h.readLine?_option hname hheader hnew
  have hread := h.readAll?_lines hline hmore hstart rest
  rw [writeOption, hvalue]
  simp only [draftOption, firstLine, hfields, List.headD_cons, List.tail_cons, keptLines,
    List.reverse_cons]
  simpa using hread

/-- Options that are read back from where they are written. -/
structure Restorable (options : OptionList) : Prop where
  nodup : (options.map (·.1)).Nodup
  name {o : Text × Text} : o ∈ options → OptionName o.1
  unheaded {o : Text × Text} : o ∈ options → Unheaded o.1 (firstLine o.2)
  noReturn {o : Text × Text} : o ∈ options → '\r' ∉ o.2

theorem Restorable.tail {o : Text × Text} {os : OptionList} (h : Restorable (o :: os)) :
    Restorable os where
  nodup := (List.nodup_cons.mp h.nodup).2
  name ho := h.name (List.mem_cons_of_mem _ ho)
  unheaded ho := h.unheaded (List.mem_cons_of_mem _ ho)
  noReturn ho := h.noReturn (List.mem_cons_of_mem _ ho)

theorem lookup_eq_none {α : Type} {l : List (Text × α)} {name : Text}
    (h : name ∉ l.map (·.1)) : l.lookup name = none := by
  apply List.lookup_eq_none_iff.mpr
  intro p hp
  have hne : name ≠ p.1 := fun heq => h (heq ▸ List.mem_map_of_mem hp)
  simpa using hne

theorem IsSlot.readAll?_options (h : IsSlot slot) {os : OptionList} (hos : Restorable os)
    (options : DraftOptions) (hnew : ∀ o ∈ os, o.1 ∉ options.map (·.1)) (valueOpen : Bool)
    (indent : Nat) (rest : Text) :
    ∃ valueOpen' indent',
      readAll? (slot options valueOpen indent) (os.flatMap writeOption ++ rest) =
      readAll? (slot ((os.map draftOption).reverse ++ options) valueOpen' indent') rest := by
  induction os generalizing options valueOpen indent with
  | nil => exact ⟨valueOpen, indent, rfl⟩
  | cons o os ih =>
    have ho := List.mem_cons_self (a := o) (l := os)
    have hnext : ∀ o' ∈ os, o'.1 ∉ (draftOption o :: options).map (·.1) := by
      intro o' ho'
      rw [List.map_cons, List.mem_cons, not_or]
      constructor
      · intro heq
        have hnodup := (List.nodup_cons.mp hos.nodup).1
        exact hnodup (List.mem_map.mpr ⟨o', ho', heq⟩)
      · exact hnew o' (List.mem_cons_of_mem _ ho')
    obtain ⟨valueOpen', indent', hrest⟩ := ih hos.tail (draftOption o :: options) hnext true 0
    refine ⟨valueOpen', indent', ?_⟩
    rw [List.flatMap_cons, List.append_assoc, h.readAll?_option (hos.name ho) (hos.unheaded ho)
      (lookup_eq_none (hnew o ho)), hrest]
    simp

end Options

section Documents

/-- The options as they are read back after they were written. -/
def keptOptions (options : OptionList) : OptionList := options.map fun o => (o.1, kept o.2)

theorem finishOptions_draftOption (os : OptionList) :
    finishOptions (os.map draftOption).reverse = keptOptions os := by
  rw [finishOptions, List.reverse_reverse, List.map_map]
  simp [keptOptions, draftOption, kept, Function.comp_def]

theorem joinWith_concat {lines : List Text} (h : lines ≠ []) (line : Text) :
    joinWith '\n' (lines ++ [line]) = joinWith '\n' lines ++ '\n' :: line := by
  fun_induction joinWith '\n' lines with
  | case1 => contradiction
  | case2 piece => rfl
  | case3 piece pieces hpieces ih =>
    have hne : pieces ≠ [] := by simpa using hpieces
    rw [List.cons_append, joinWith.eq_3, ih hne, List.append_assoc, List.cons_append]
    simp

theorem trimEnd_joinWith_concat_nil (lines : List Text) :
    trimEnd (joinWith '\n' (lines ++ [[]])) = trimEnd (joinWith '\n' lines) := by
  by_cases h : lines = []
  · rw [h]
    rfl
  · rw [joinWith_concat h]
    exact dropEndWhile_append_of_all _ (List.forall_mem_singleton.mpr (by decide))

theorem finishOptions_blank (name : Text) (lines : List Text) (options : DraftOptions) :
    finishOptions ((name, [] :: lines) :: options) = finishOptions ((name, lines) :: options) := by
  simp [finishOptions, trimEnd_joinWith_concat_nil]

/-- Blank lines do not change what is read. -/
theorem finish_continueValue_nil (d : Draft) : (d.continueValue []).finish = d.finish := by
  obtain ⟨defaults, sections, place, valueOpen, indent⟩ := d
  cases place with
  | outside => rfl
  | defaults =>
    cases defaults with
    | nil => rfl
    | cons o defaults =>
      simp [Draft.continueValue, Draft.current, Draft.setCurrent, Draft.finish, finishOptions_blank]
  | named =>
    match sections with
    | [] => rfl
    | (_, []) :: _ => rfl
    | (_, o :: options) :: sections =>
      simp [Draft.continueValue, Draft.current, Draft.setCurrent, Draft.finish, finishOptions_blank]

theorem readLine?_blank (d : Draft) : ∃ d', d.readLine? [] = some d' ∧ d'.finish = d.finish := by
  refine ⟨_, rfl, ?_⟩
  split
  · exact finish_continueValue_nil d
  · rfl

theorem readLine?_header (d : Draft) {name : Text} (hname : name ≠ []) :
    d.readLine? ('[' :: name ++ [']']) = { d with indent := 0 }.startSection? name := by
  have htrim : trim ('[' :: name ++ [']']) = '[' :: name ++ [']'] := by
    refine trim_of_trimmed ⟨by simpa using by decide, fun c hc => ?_⟩
    rw [List.getLast?_concat] at hc
    obtain rfl := Option.some.inj hc
    decide
  have hindent : indentOf ('[' :: name ++ [']']) = 0 := by
    rw [indentOf, List.cons_append, List.takeWhile_cons_of_neg (by decide)]
    rfl
  have hcomment : isComment ('[' :: name ++ [']']) = false := rfl
  rw [Draft.readLine?]
  dsimp only
  rw [htrim, hcomment, if_neg Bool.false_ne_true, if_neg (by simp), hindent, if_neg (by simp),
    headerName?_section hname]

/-- A section, once its header has opened a place for its options. -/
theorem IsSlot.readAll?_section {slot : DraftOptions → Bool → Nat → Draft} (h : IsSlot slot)
    {d : Draft} {name : Text} {os : OptionList} {valueOpen : Bool} {indent : Nat}
    (hname : name ≠ []) (hunbroken : '\n' ∉ name) (hos : Restorable os)
    (hstart : { d with indent := 0 }.startSection? name = some (slot [] valueOpen indent))
    (rest : Text) :
    ∃ d' valueOpen' indent', readAll? d (writeSection name os ++ rest) = readAll? d' rest ∧
      d'.finish = (slot (os.map draftOption).reverse valueOpen' indent').finish := by
  have hheader : '\n' ∉ '[' :: name ++ [']'] := by simpa using hunbroken
  have hsplit : writeSection name os ++ rest =
      ('[' :: name ++ [']']) ++ '\n' :: (os.flatMap writeOption ++ ([] ++ '\n' :: rest)) := by
    simp [writeSection]
  obtain ⟨valueOpen', indent', hoptions⟩ :=
    h.readAll?_options hos [] (by simp) valueOpen indent ([] ++ '\n' :: rest)
  rw [List.append_nil] at hoptions
  obtain ⟨d', hblank, hfinish⟩ :=
    readLine?_blank (slot (os.map draftOption).reverse valueOpen' indent')
  refine ⟨d', valueOpen', indent', ?_, hfinish⟩
  rw [hsplit, readAll?_append hheader, readLine?_header d hname, hstart, Option.bind_some, hoptions,
    readAll?_append (by simp), hblank, Option.bind_some]

/-- The name of a section that is read back from its header. -/
structure SectionName (name : Text) : Prop where
  nonempty : name ≠ []
  unbroken : Unbroken name
  other : name ≠ Document.defaultName

/-- A document that is read back from where it is written. -/
structure WellWritten (d : Document) : Prop where
  defaults : Restorable d.defaults
  nodup : (d.sections.map (·.name)).Nodup
  named {s : Section} : s ∈ d.sections → SectionName s.name
  options {s : Section} : s ∈ d.sections → Restorable s.options

def keptSection (s : Section) : Section := ⟨s.name, keptOptions s.options⟩

theorem readAll?_defaults {os : OptionList} (hos : Restorable os) (rest : Text) :
    ∃ d, readAll? .empty
        ((if os.isEmpty then [] else writeSection Document.defaultName os) ++ rest) =
        readAll? d rest ∧ d.finish = ⟨keptOptions os, []⟩ := by
  by_cases hempty : os.isEmpty = true
  · rw [if_pos hempty, List.isEmpty_iff.mp hempty]
    exact ⟨.empty, rfl, rfl⟩
  · rw [if_neg hempty]
    have hstart : { Draft.empty with indent := 0 }.startSection? Document.defaultName =
        some ⟨[], [], .defaults, false, 0⟩ := rfl
    obtain ⟨d, valueOpen, indent, hread, hfinish⟩ :=
      (isSlot_defaults []).readAll?_section (by decide) (by decide) hos hstart rest
    refine ⟨d, hread, ?_⟩
    rw [hfinish, Draft.finish, finishOptions_draftOption]
    rfl

theorem readAll?_sections {ss : List Section} (d : Draft)
    (hnodup : (d.finish.sections.map (·.name) ++ ss.map (·.name)).Nodup)
    (hnamed : ∀ s ∈ ss, SectionName s.name)
    (hoptions : ∀ s ∈ ss, Restorable s.options) (rest : Text) :
    ∃ d', readAll? d ((ss.flatMap fun s => writeSection s.name s.options) ++ rest) =
        readAll? d' rest ∧
      d'.finish = ⟨d.finish.defaults, d.finish.sections ++ ss.map keptSection⟩ := by
  induction ss generalizing d with
  | nil => exact ⟨d, rfl, by simp⟩
  | cons s ss ih =>
    have hname := hnamed s (List.mem_cons_self ..)
    have hnew : d.sections.lookup s.name = none := by
      apply lookup_eq_none
      have hmem := (List.nodup_append.mp hnodup).2.2
      intro hold
      refine hmem s.name ?_ s.name (List.mem_cons_self ..) rfl
      simpa [Draft.finish] using hold
    have hstart : { d with indent := 0 }.startSection? s.name =
        some ⟨d.defaults, (s.name, []) :: d.sections, .named, false, 0⟩ := by
      rw [Draft.startSection?, if_neg hname.other, hnew]
      rfl
    obtain ⟨d₁, valueOpen, indent, hread, hfinish⟩ :=
      (isSlot_section d.defaults s.name d.sections).readAll?_section hname.nonempty hname.unbroken.1
        (hoptions s (List.mem_cons_self ..)) hstart
        ((ss.flatMap fun s => writeSection s.name s.options) ++ rest)
    have hfinish₁ : d₁.finish = ⟨d.finish.defaults, d.finish.sections ++ [keptSection s]⟩ := by
      rw [hfinish]
      simp [Draft.finish, finishOptions_draftOption, keptSection]
    obtain ⟨d', hread', hfinish'⟩ := ih d₁ (by simpa [hfinish₁, keptSection] using hnodup)
      (fun s' hs' => hnamed s' (List.mem_cons_of_mem _ hs'))
      fun s' hs' => hoptions s' (List.mem_cons_of_mem _ hs')
    refine ⟨d', ?_, ?_⟩
    · rw [List.flatMap_cons, List.append_assoc, hread, hread']
    · rw [hfinish', hfinish₁]
      simp

def keptDocument (d : Document) : Document :=
  ⟨keptOptions d.defaults, d.sections.map keptSection⟩

theorem read?_write {d : Document} (h : WellWritten d) :
    read? (write d) = some (keptDocument d) := by
  obtain ⟨d₁, hread₁, hfinish₁⟩ := readAll?_defaults h.defaults
    ((d.sections.flatMap fun s => writeSection s.name s.options) ++ [])
  obtain ⟨d₂, hread₂, hfinish₂⟩ := readAll?_sections d₁ (by simpa [hfinish₁] using h.nodup)
    (fun _ hs => h.named hs) (fun _ hs => h.options hs) []
  obtain ⟨d₃, hread₃, hfinish₃⟩ := readLine?_blank d₂
  rw [List.append_nil] at hread₁ hread₂
  have hread : readAll? .empty (write d) = some d₃ := by
    rw [write, hread₁, hread₂, readAll?]
    simp [fields, hread₃]
  rw [read?, ← readAll?, hread, Option.map_some, hfinish₃, hfinish₂, hfinish₁]
  rfl

theorem return_notMem_writeSection {name : Text} {os : OptionList} (hname : '\r' ∉ name)
    (hos : Restorable os) : '\r' ∉ writeSection name os := by
  have hindented : ∀ t : Text, '\r' ∈ indented t → '\r' ∈ t := by
    intro t hmem
    obtain ⟨c, hc, hform⟩ := List.mem_flatMap.mp hmem
    split at hform
    · simp at hform
    · rwa [List.mem_singleton.mp hform]
  have hoptions : '\r' ∉ os.flatMap writeOption := by
    intro hmem
    obtain ⟨o, ho, hoption⟩ := List.mem_flatMap.mp hmem
    have hvalue : '\r' ∉ indented o.2 := fun hmem => hos.noReturn ho (hindented _ hmem)
    simp [writeOption, (hos.name ho).unbroken.2, hvalue] at hoption
  simp [writeSection, hname, hoptions]

theorem return_notMem_write {d : Document} (h : WellWritten d) : '\r' ∉ write d := by
  have hdefaults : '\r' ∉ writeSection Document.defaultName d.defaults :=
    return_notMem_writeSection (by decide) h.defaults
  have hsections : '\r' ∉ d.sections.flatMap fun s => writeSection s.name s.options := by
    intro hmem
    obtain ⟨s, hs, hsection⟩ := List.mem_flatMap.mp hmem
    exact return_notMem_writeSection (h.named hs).unbroken.2 (h.options hs) hsection
  rw [write, List.mem_append, not_or]
  refine ⟨?_, hsections⟩
  split
  · simp
  · exact hdefaults

end Documents

end TapeStudio.Settings
