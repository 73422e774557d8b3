import Mathlib.Data.List.Nodup
import TapeStudio.Proofs.SmallLetters
import TapeStudio.Proofs.WrittenSettings

/-! A settings document that was read is restored exactly when it is written and read again. -/
namespace TapeStudio.Settings

open Text

section Values

/-- The lines that a value is made of, oldest first. -/
structure ValueLines (first : Text) (more : List Text) : Prop where
  trimmed : ∀ l ∈ first :: more, Trimmed l
  unbroken : ∀ l ∈ first :: more, Unbroken l
  noComment : ∀ l ∈ more, isComment l = false

variable {first : Text} {more : List Text}

theorem ValueLines.concat (h : ValueLines first more) {line : Text} (htrimmed : Trimmed line)
    (hunbroken : Unbroken line) (hcomment : isComment line = false) :
    ValueLines first (more ++ [line]) := by
  have hall {p : Text → Prop} {lines : List Text} (hlines : ∀ l ∈ lines, p l) (hline : p line) :
      ∀ l ∈ lines ++ [line], p l := by
    intro l hl
    rcases List.mem_append.mp hl with hl | hl
    · exact hlines l hl
    · exact List.mem_singleton.mp hl ▸ hline
  exact ⟨hall h.trimmed htrimmed, hall h.unbroken hunbroken, hall h.noComment hcomment⟩

/-- Only blank lines at the end are lost. -/
theorem exists_fields_value (h : ValueLines first more) :
    ∃ rest, (∀ l ∈ rest, l ∈ more) ∧
      fields '\n' (trimEnd (joinWith '\n' (first :: more))) = first :: rest := by
  induction more using List.reverseRecOn with
  | nil =>
    refine ⟨[], by simp, ?_⟩
    rw [joinWith, trimEnd, dropEndWhile_of_getLast? (h.trimmed first (List.mem_cons_self ..)).2]
    exact fields_of_notMem (h.unbroken first (List.mem_cons_self ..)).1
  | append_singleton more line ih =>
    have hline : line ∈ first :: (more ++ [line]) := by simp
    rw [← List.cons_append]
    by_cases hempty : line = []
    · have hmore : ValueLines first more :=
        ⟨fun l hl => h.trimmed l (by grind), fun l hl => h.unbroken l (by grind),
          fun l hl => h.noComment l (by grind)⟩
      obtain ⟨rest, hrest, hfields⟩ := ih hmore
      refine ⟨rest, fun l hl => List.mem_append_left _ (hrest l hl), ?_⟩
      rw [hempty, trimEnd_joinWith_concat_nil, hfields]
    · refine ⟨more ++ [line], fun l hl => hl, ?_⟩
      have hlast : ∀ c, (joinWith '\n' (first :: more ++ [line])).getLast? = some c →
          isBlank c = false := by
        intro c hc
        rw [joinWith_concat (by simp), List.getLast?_append,
          List.getLast?_cons_of_ne_nil hempty] at hc
        obtain ⟨x, hx⟩ := List.getLast?_isSome.mpr hempty |> Option.isSome_iff_exists.mp
        rw [hx] at hc
        obtain rfl : x = c := by simpa using hc
        exact (h.trimmed line hline).2 x hx
      rw [trimEnd, dropEndWhile_of_getLast? hlast]
      exact fields_joinWith (by simp) fun l hl => (h.unbroken l hl).1

theorem firstLine_value (h : ValueLines first more) :
    firstLine (trimEnd (joinWith '\n' (first :: more))) = first := by
  obtain ⟨rest, -, hfields⟩ := exists_fields_value h
  rw [firstLine, hfields]
  rfl

theorem kept_value (h : ValueLines first more) :
    kept (trimEnd (joinWith '\n' (first :: more))) = trimEnd (joinWith '\n' (first :: more)) := by
  obtain ⟨rest, hrest, hfields⟩ := exists_fields_value h
  have htrim : rest.map trim = rest := by
    have hcongr : rest.map trim = rest.map id := List.map_congr_left fun l hl =>
      trim_of_trimmed (h.trimmed l (List.mem_cons_of_mem _ (hrest l hl)))
    rw [hcongr, List.map_id]
  have hlines : keptLines first rest = first :: rest := by
    rw [keptLines, trim_of_trimmed (h.trimmed first (List.mem_cons_self ..)), htrim,
      List.filter_eq_self.mpr fun l hl => by simp [h.noComment l (hrest l hl)]]
  rw [kept, firstLine, hfields, List.headD_cons, List.tail_cons, hlines, ← hfields, joinWith_fields,
    trimEnd_trimEnd]

theorem return_notMem_value (h : ValueLines first more) :
    '\r' ∉ trimEnd (joinWith '\n' (first :: more)) := by
  have hjoin : ∀ lines : List Text, (∀ l ∈ lines, Unbroken l) → '\r' ∉ joinWith '\n' lines := by
    intro lines hlines
    fun_induction joinWith '\n' lines with
    | case1 => simp
    | case2 line => exact (hlines line (List.mem_cons_self ..)).2
    | case3 line lines _ ih =>
      have hrest := ih fun l hl => hlines l (List.mem_cons_of_mem _ hl)
      simp [(hlines line (List.mem_cons_self ..)).2, hrest]
  exact fun hmem => hjoin _ h.unbroken ((List.rdropWhile_prefix _ _).subset hmem)

end Values

section Names

theorem mem_of_mem_headerName? {words name : Text} (h : headerName? words = some name) :
    name ≠ [] ∧ ∀ c ∈ name, c ∈ words := by
  unfold headerName? at h
  split at h
  next rest =>
    split at h
    · contradiction
    next hne =>
      obtain rfl := Option.some.inj h
      refine ⟨by simpa using hne, fun c hc => List.mem_cons_of_mem _ ?_⟩
      have hsuffix := (List.dropWhile_suffix (l := rest.reverse) (· ≠ ']')).subset
      exact List.mem_reverse.mp (hsuffix (List.mem_of_mem_tail (List.mem_reverse.mp hc)))
  · contradiction

theorem exists_of_optionOf? {words name value : Text} (h : optionOf? words = some (name, value)) :
    ∃ front c rest, words = front ++ c :: rest ∧ (∀ x ∈ front, isDelimiter x = false) ∧
      name = lower (trimEnd front) ∧ value = trim rest := by
  have hsplit := List.takeWhile_append_dropWhile (p := fun c => !isDelimiter c) (l := words)
  unfold optionOf? at h
  split at h
  · contradiction
  next c rest hrest =>
    obtain ⟨rfl, rfl⟩ := Prod.mk.inj (Option.some.inj h)
    refine ⟨_, c, rest, by rw [← hrest]; exact hsplit.symm, fun x hx => ?_, rfl, rfl⟩
    simpa using List.mem_takeWhile_imp hx

variable {words front rest : Text} {c : Char}

/-- The characters that have a meaning in a line. -/
def signs : List Char := ['[', ']', '#', ';', '=', ':', '\n', '\r']

theorem not_isLetter {c : Char} (h : c ∈ signs) : ¬ IsLetter c := by
  have hall : (signs.all fun c => c.toNat < 0x61) = true := by decide
  have hc := List.all_eq_true.mp hall c h
  exact fun hletter => absurd hletter.1 (Nat.not_le.mpr (of_decide_eq_true hc))

theorem head?_of_trimEnd (hwords : words = front ++ c :: rest) {x : Char}
    (hx : (trimEnd front).head? = some x) : words.head? = some x := by
  obtain ⟨blanks, hblanks⟩ : trimEnd front <+: front := List.rdropWhile_prefix _ _
  rw [hwords, ← hblanks, List.head?_append, List.head?_append, hx]
  rfl

theorem isComment_lower (hwords : words = front ++ c :: rest) (hcomment : isComment words = false) :
    isComment (lower (trimEnd front)) = false := by
  cases hname : lower (trimEnd front) with
  | nil => rfl
  | cons x name =>
    apply Bool.eq_false_iff.mpr
    intro hcomment'
    have hsign : x ∈ signs := by
      simp only [isComment, Bool.or_eq_true, decide_eq_true_eq] at hcomment'
      rcases hcomment' with rfl | rfl <;> decide
    -- the sign is no letter, so it stood there before
    have hlowered := lowered_lower (trimEnd front)
    have hx := (hlowered.head? (by rw [hname]; rfl)).resolve_right (not_isLetter hsign)
    obtain ⟨words, rfl⟩ := List.head?_eq_some_iff.mp (head?_of_trimEnd hwords hx)
    have hsame : isComment (x :: words) = isComment (x :: name) := rfl
    rw [hcomment, hcomment'] at hsame
    contradiction

theorem optionName_lower (hwords : words = front ++ c :: rest) (htrimmed : Trimmed words)
    (hunbroken : Unbroken words) (hcomment : isComment words = false)
    (hfront : ∀ x ∈ front, isDelimiter x = false) (hne : lower (trimEnd front) ≠ []) :
    OptionName (lower (trimEnd front)) := by
  have hlowered := lowered_lower (trimEnd front)
  have hmem {x : Char} (hx : x ∈ lower (trimEnd front)) (hsign : x ∈ signs) : x ∈ front :=
    (List.rdropWhile_prefix _ _).subset ((hlowered.mem hx).resolve_right (not_isLetter hsign))
  have htrimmed' : Trimmed (lower (trimEnd front)) := by
    constructor
    · intro x hx
      rcases hlowered.head? hx with hx | hx
      · exact htrimmed.1 x (head?_of_trimEnd hwords hx)
      · exact hx.2
    · intro x hx
      rcases hlowered.getLast? hx with hx | hx
      · exact eq_false_of_getLast?_dropEndWhile hx
      · exact hx.2
  have hplain : ∀ x ∈ lower (trimEnd front), isDelimiter x = false := by
    intro x hx
    apply Bool.eq_false_iff.mpr
    intro hdelimiter
    have hsign : x ∈ signs := by
      simp only [isDelimiter, Bool.or_eq_true, decide_eq_true_eq] at hdelimiter
      rcases hdelimiter with rfl | rfl <;> decide
    rw [hfront x (hmem hx hsign)] at hdelimiter
    contradiction
  have hunbroken' : Unbroken (lower (trimEnd front)) := by
    rw [hwords] at hunbroken
    constructor
    · exact fun hx => hunbroken.1 (List.mem_append_left _ (hmem hx (by decide)))
    · exact fun hx => hunbroken.2 (List.mem_append_left _ (hmem hx (by decide)))
  exact ⟨hne, htrimmed', hplain, hunbroken', isComment_lower hwords hcomment, lower_lower _⟩

theorem unheaded_lower (hwords : words = front ++ c :: rest) (hheader : headerName? words = none) :
    Unheaded (lower (trimEnd front)) (trim rest) := by
  intro hbracket
  have hlowered := lowered_lower (trimEnd front)
  obtain ⟨name, hname⟩ := List.head?_eq_some_iff.mp hbracket
  rw [hname] at hlowered ⊢
  obtain ⟨front', hfront', hrest⟩ := hlowered.exists_cons (not_isLetter (by decide))
  obtain ⟨after, hafter⟩ : trimEnd front <+: front := List.rdropWhile_prefix _ _
  have hnone := headerName?_eq_none_iff.mp hheader (front' ++ after ++ c :: rest) (by
    rw [hwords, ← hafter, hfront']
    simp)
  constructor
  · intro hmem
    have hmem' : ']' ∈ front'.tail := (hrest.mem_tail hmem).resolve_right (not_isLetter (by decide))
    apply hnone
    cases front' with
    | nil => contradiction
    | cons x front' => simpa using .inl hmem'
  · intro hmem
    apply hnone
    have hmem' : ']' ∈ rest := mem_of_mem_trim hmem
    cases h : front' ++ after with
    | nil => simpa using hmem'
    | cons x t => simpa using .inr (.inr hmem')

end Names

section Drafts

structure ReadOption (o : Text × List Text) : Prop where
  name : OptionName o.1
  lines : ∃ first more, o.2.reverse = first :: more ∧ Unheaded o.1 first ∧ ValueLines first more

structure ReadOptions (options : DraftOptions) : Prop where
  nodup : (options.map (·.1)).Nodup
  option {o : Text × List Text} : o ∈ options → ReadOption o

/-- What is true of a draft after any lines. -/
structure ReadDraft (d : Draft) : Prop where
  defaults : ReadOptions d.defaults
  nodup : (d.sections.map (·.1)).Nodup
  named {s : Text × DraftOptions} : s ∈ d.sections → SectionName s.1
  options {s : Text × DraftOptions} : s ∈ d.sections → ReadOptions s.2

theorem readOptions_nil : ReadOptions [] := ⟨List.nodup_nil, fun ho => nomatch ho⟩

theorem ReadOptions.cons {options : DraftOptions} (h : ReadOptions options)
    {o : Text × List Text} (ho : ReadOption o) (hnew : o.1 ∉ options.map (·.1)) :
    ReadOptions (o :: options) where
  nodup := List.nodup_cons.mpr ⟨hnew, h.nodup⟩
  option ho' := by
    rcases List.mem_cons.mp ho' with rfl | ho'
    · exact ho
    · exact h.option ho'

theorem readDraft_empty : ReadDraft .empty where
  defaults := readOptions_nil
  nodup := List.nodup_nil
  named hs := nomatch hs
  options hs := nomatch hs

theorem notMem_of_lookup {α : Type} {l : List (Text × α)} {name : Text}
    (h : ¬ (l.lookup name).isSome = true) : name ∉ l.map (·.1) := by
  intro hmem
  obtain ⟨p, hp, rfl⟩ := List.mem_map.mp hmem
  rw [Option.not_isSome_iff_eq_none] at h
  simpa using List.lookup_eq_none_iff.mp h p hp

namespace ReadDraft

variable {d d' : Draft}

theorem current (h : ReadDraft d) : ReadOptions d.current := by
  unfold Draft.current
  split
  · exact h.defaults
  next hsections => exact h.options (hsections ▸ List.mem_cons_self ..)
  · exact readOptions_nil

theorem setCurrent (h : ReadDraft d) {options : DraftOptions} (hoptions : ReadOptions options) :
    ReadDraft (d.setCurrent options) := by
  unfold Draft.setCurrent
  split
  · exact { h with defaults := hoptions }
  next s rest _ hsections =>
    have hold (s' : Text × DraftOptions) (hs : s' ∈ rest) : s' ∈ d.sections :=
      hsections ▸ List.mem_cons_of_mem _ hs
    refine ⟨h.defaults, ?_, fun hs => ?_, fun hs => ?_⟩
    · simpa [hsections] using h.nodup
    · rcases List.mem_cons.mp hs with rfl | hs
      · exact h.named (s := s) (hsections ▸ List.mem_cons_self ..)
      · exact h.named (hold _ hs)
    · rcases List.mem_cons.mp hs with rfl | hs
      · exact hoptions
      · exact h.options (hold _ hs)
  · exact h

theorem continueValue (h : ReadDraft d) {line : Text} (htrimmed : Trimmed line)
    (hunbroken : Unbroken line) (hcomment : isComment line = false) :
    ReadDraft (d.continueValue line) := by
  unfold Draft.continueValue
  split
  next name lines rest hcurrent =>
    have hoptions := h.current
    rw [hcurrent] at hoptions
    have ho := hoptions.option (List.mem_cons_self ..)
    obtain ⟨first, more, hlines, hheader, hvalue⟩ := ho.lines
    obtain ⟨hnew, hnodup⟩ := List.nodup_cons.mp hoptions.nodup
    have hrest : ReadOptions rest := ⟨hnodup, fun ho => hoptions.option (List.mem_cons_of_mem _ ho)⟩
    refine h.setCurrent (hrest.cons ⟨ho.name, first, more ++ [line], ?_, hheader, ?_⟩ hnew)
    · rw [List.reverse_cons, hlines]
      rfl
    · exact hvalue.concat htrimmed hunbroken hcomment
  · exact h

theorem startSection? (h : ReadDraft d) {name : Text} (hne : name ≠ []) (hunbroken : Unbroken name)
    (hstart : d.startSection? name = some d') : ReadDraft d' := by
  unfold Draft.startSection? at hstart
  split at hstart
  · obtain rfl := Option.some.inj hstart
    exact { h with }
  next hother =>
    split at hstart
    · contradiction
    next hnew =>
      obtain rfl := Option.some.inj hstart
      refine ⟨h.defaults, ?_, fun hs => ?_, fun hs => ?_⟩
      · exact List.nodup_cons.mpr ⟨notMem_of_lookup hnew, h.nodup⟩
      · rcases List.mem_cons.mp hs with rfl | hs
        · exact ⟨hne, hunbroken, hother⟩
        · exact h.named hs
      · rcases List.mem_cons.mp hs with rfl | hs
        · exact readOptions_nil
        · exact h.options hs

theorem startOption? (h : ReadDraft d) {name value : Text} (hname : name ≠ [] → OptionName name)
    (hheader : Unheaded name value) (htrimmed : Trimmed value) (hunbroken : Unbroken value)
    (hstart : d.startOption? name value = some d') : ReadDraft d' := by
  unfold Draft.startOption? at hstart
  split at hstart
  · contradiction
  next hnew =>
    obtain rfl := Option.some.inj hstart
    simp only [Bool.or_eq_true, not_or, decide_eq_true_eq, List.isEmpty_iff] at hnew
    have hvalue : ValueLines value [] :=
      ⟨by simpa using htrimmed, by simpa using hunbroken, by simp⟩
    have ho : ReadOption (name, [value]) := ⟨hname hnew.1.2, value, [], rfl, hheader, hvalue⟩
    exact { h.setCurrent (h.current.cons ho (notMem_of_lookup hnew.2)) with }

theorem readLine? (h : ReadDraft d) {line : Text} (hline : Unbroken line)
    (hread : d.readLine? line = some d') : ReadDraft d' := by
  have htrimmed := trimmed_trim line
  have hunbroken : Unbroken (trim line) := hline.of_subset fun c hc => mem_of_mem_trim hc
  rw [Draft.readLine?] at hread
  dsimp only at hread
  generalize trim line = words at htrimmed hunbroken hread
  split at hread
  · exact Option.some.inj hread ▸ h
  next hcomment =>
    rw [Bool.not_eq_true] at hcomment
    split at hread
    · obtain rfl := Option.some.inj hread
      split
      · exact h.continueValue (by simp [Trimmed]) (by simp [Unbroken]) rfl
      · exact h
    · split at hread
      · exact Option.some.inj hread ▸ h.continueValue htrimmed hunbroken hcomment
      · have h' : ReadDraft { d with indent := indentOf line } := { h with }
        split at hread
        next name hheader =>
          obtain ⟨hne, hmem⟩ := mem_of_mem_headerName? hheader
          exact h'.startSection? hne (hunbroken.of_subset hmem) hread
        next hheader =>
          obtain ⟨⟨name, value⟩, hoption, hstart⟩ := Option.bind_eq_some_iff.mp hread
          obtain ⟨front, c, rest, hwords, hfront, rfl, rfl⟩ := exists_of_optionOf? hoption
          refine h'.startOption? (optionName_lower hwords htrimmed hunbroken hcomment hfront)
            (unheaded_lower hwords hheader) (trimmed_trim rest) (hunbroken.of_subset fun x hx => ?_)
            hstart
          rw [hwords]
          exact List.mem_append_right _ (List.mem_cons_of_mem _ (mem_of_mem_trim hx))

theorem foldlM (h : ReadDraft d) {lines : List Text} (hlines : ∀ l ∈ lines, Unbroken l)
    (hread : lines.foldlM Draft.readLine? d = some d') : ReadDraft d' := by
  induction lines generalizing d with
  | nil => exact Option.some.inj hread ▸ h
  | cons line lines ih =>
    rw [List.foldlM_cons] at hread
    obtain ⟨d₁, hfirst, hrest⟩ := Option.bind_eq_some_iff.mp hread
    exact ih (h.readLine? (hlines line (List.mem_cons_self ..)) hfirst)
      (fun l hl => hlines l (List.mem_cons_of_mem _ hl)) hrest

end ReadDraft

end Drafts

section Finished

/-- Writing and reading again changes nothing. -/
structure Stable (d : Document) : Prop where
  wellWritten : WellWritten d
  kept : keptDocument d = d

theorem exists_of_mem_finishOptions {options : DraftOptions} (h : ReadOptions options)
    {o : Text × Text} (ho : o ∈ finishOptions options) :
    OptionName o.1 ∧ ∃ first more, o.2 = trimEnd (joinWith '\n' (first :: more)) ∧
      Unheaded o.1 first ∧ ValueLines first more := by
  obtain ⟨⟨name, lines⟩, hmem, rfl⟩ := List.mem_map.mp ho
  have ho := h.option (List.mem_reverse.mp hmem)
  obtain ⟨first, more, hlines, hheader, hvalue⟩ := ho.lines
  exact ⟨ho.name, first, more, by rw [← hlines], hheader, hvalue⟩

theorem restorable_finishOptions {options : DraftOptions} (h : ReadOptions options) :
    Restorable (finishOptions options) := by
  refine ⟨?_, fun ho => ?_, fun ho => ?_, fun ho => ?_⟩
  · have hnames : (finishOptions options).map (·.1) = (options.map (·.1)).reverse := by
      simp [finishOptions, Function.comp_def]
    rw [hnames]
    exact List.nodup_reverse.mpr h.nodup
  · exact (exists_of_mem_finishOptions h ho).1
  · obtain ⟨-, first, more, hvalue, hheader, hlines⟩ := exists_of_mem_finishOptions h ho
    rw [hvalue, firstLine_value hlines]
    exact hheader
  · obtain ⟨-, first, more, hvalue, -, hlines⟩ := exists_of_mem_finishOptions h ho
    rw [hvalue]
    exact return_notMem_value hlines

theorem keptOptions_finishOptions {options : DraftOptions} (h : ReadOptions options) :
    keptOptions (finishOptions options) = finishOptions options := by
  have hcongr : keptOptions (finishOptions options) = (finishOptions options).map id := by
    refine List.map_congr_left fun o ho => ?_
    obtain ⟨-, first, more, hvalue, -, hlines⟩ := exists_of_mem_finishOptions h ho
    rw [hvalue, kept_value hlines, ← hvalue]
    rfl
  rw [hcongr, List.map_id]

theorem ReadDraft.stable {d : Draft} (h : ReadDraft d) : Stable d.finish := by
  refine ⟨⟨restorable_finishOptions h.defaults, ?_, fun hs => ?_, fun hs => ?_⟩, ?_⟩
  · have hnames : d.finish.sections.map (·.name) = (d.sections.map (·.1)).reverse := by
      simp [Draft.finish, Function.comp_def]
    rw [hnames]
    exact List.nodup_reverse.mpr h.nodup
  · obtain ⟨s, hmem, rfl⟩ := List.mem_map.mp hs
    exact h.named (List.mem_reverse.mp hmem)
  · obtain ⟨s, hmem, rfl⟩ := List.mem_map.mp hs
    exact restorable_finishOptions (h.options (List.mem_reverse.mp hmem))
  · rw [keptDocument, Draft.finish, keptOptions_finishOptions h.defaults, List.map_map]
    congr 1
    refine List.map_congr_left fun s hs => ?_
    exact congrArg (Section.mk s.1)
      (keptOptions_finishOptions (h.options (List.mem_reverse.mp hs)))

theorem stable_of_read? {t : Text} {d : Document} (hreturn : '\r' ∉ t) (h : read? t = some d) :
    Stable d := by
  obtain ⟨draft, hread, rfl⟩ := Option.map_eq_some_iff.mp h
  refine (readDraft_empty.foldlM (fun l hl => ⟨fun hc => ?_, fun hc => ?_⟩) hread).stable
  · exact (mem_of_mem_fields hl hc).1 rfl
  · exact hreturn (mem_of_mem_fields hl hc).2

end Finished

end TapeStudio.Settings
