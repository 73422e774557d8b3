import Mathlib.Data.List.DropRight
import TapeStudio.Text.Blank
import TapeStudio.Text.Fields

/-! Texts as lines, and lines without white space around them. -/
namespace TapeStudio.Text

section Ends

variable {p : Char → Bool} {t u : Text} {c : Char}

/-- This is the library's function, whose lemmas are used from here on. -/
theorem dropEndWhile_eq_rdropWhile (p : Char → Bool) (t : Text) :
    dropEndWhile p t = t.rdropWhile p := rfl

theorem dropEndWhile_append_of_all (t : Text) (h : ∀ c ∈ u, p c = true) :
    dropEndWhile p (t ++ u) = dropEndWhile p t := by
  induction u using List.reverseRecOn with
  | nil => rw [List.append_nil]
  | append_singleton u c ih =>
    rw [dropEndWhile_eq_rdropWhile, ← List.append_assoc,
      List.rdropWhile_concat_pos _ _ _ (h c (by simp))]
    exact ih fun d hd => h d (List.mem_append_left _ hd)

/-- What comes before a character that stays is kept. -/
theorem dropEndWhile_append_cons (hc : p c = false) (t u : Text) :
    dropEndWhile p (t ++ c :: u) = t ++ c :: dropEndWhile p u := by
  induction u using List.reverseRecOn with
  | nil => exact List.rdropWhile_concat_neg _ _ _ (by simp [hc])
  | append_singleton u d ih =>
    simp only [dropEndWhile_eq_rdropWhile] at ih ⊢
    rw [← List.cons_append, ← List.append_assoc, List.rdropWhile_concat, List.rdropWhile_concat, ih]
    split <;> simp

theorem dropEndWhile_of_getLast? (h : ∀ c, t.getLast? = some c → p c = false) :
    dropEndWhile p t = t :=
  List.rdropWhile_eq_self_iff.mpr fun hl => by simp [h _ (List.getLast?_eq_some_getLast hl)]

theorem eq_false_of_head?_dropWhile {l : Text} (h : (l.dropWhile p).head? = some c) :
    p c = false := by
  have hhead := List.head?_dropWhile_not p l
  rw [h] at hhead
  exact hhead

theorem eq_false_of_getLast?_dropEndWhile (h : (dropEndWhile p t).getLast? = some c) :
    p c = false := by
  have hne : t.rdropWhile p ≠ [] := List.ne_nil_of_mem (List.mem_of_getLast? h)
  obtain rfl : (t.rdropWhile p).getLast hne = c :=
    Option.some.inj ((List.getLast?_eq_some_getLast hne).symm.trans h)
  exact Bool.eq_false_iff.mpr (List.rdropWhile_last_not p t hne)

theorem dropWhile_of_head? (h : ∀ c, t.head? = some c → p c = false) : t.dropWhile p = t := by
  cases t with
  | nil => rfl
  | cons c t => exact List.dropWhile_cons_of_neg (by simp [h c rfl])

end Ends

section Trimmed

variable {t u : Text} {c : Char}

/-- There is no white space at either end. -/
def Trimmed (t : Text) : Prop :=
  (∀ c, t.head? = some c → isBlank c = false) ∧ ∀ c, t.getLast? = some c → isBlank c = false

/-- Without line breaks. -/
def Unbroken (t : Text) : Prop := '\n' ∉ t ∧ '\r' ∉ t

theorem Unbroken.of_subset {u : Text} (h : Unbroken u) (hsub : ∀ c ∈ t, c ∈ u) : Unbroken t :=
  ⟨fun hmem => h.1 (hsub _ hmem), fun hmem => h.2 (hsub _ hmem)⟩

theorem trim_of_trimmed (h : Trimmed t) : trim t = t := by
  rw [trim, dropWhile_of_head? h.1, trimEnd, dropEndWhile_of_getLast? h.2]

theorem trimmed_trim (t : Text) : Trimmed (trim t) := by
  refine ⟨fun c hc => ?_, fun c hc => eq_false_of_getLast?_dropEndWhile hc⟩
  -- the first character that is kept was the first after the white space
  obtain ⟨tail, htail⟩ : trim t <+: t.dropWhile isBlank := List.rdropWhile_prefix _ _
  apply eq_false_of_head?_dropWhile (l := t)
  rw [← htail, List.head?_append, hc]
  rfl

theorem trim_cons_of_isBlank (h : isBlank c = true) (t : Text) : trim (c :: t) = trim t := by
  rw [trim, List.dropWhile_cons_of_pos h, trim]

theorem trimEnd_append_cons (hc : isBlank c = false) (t u : Text) :
    trimEnd (t ++ c :: u) = t ++ c :: trimEnd u :=
  dropEndWhile_append_cons hc t u

theorem trimEnd_trimEnd (t : Text) : trimEnd (trimEnd t) = trimEnd t :=
  List.rdropWhile_idempotent isBlank t

theorem trim_trimEnd (t : Text) : trim (trimEnd t) = trim t := by
  have hblank : ∀ c ∈ t.takeWhile isBlank, isBlank c = true := fun c hc =>
    List.mem_takeWhile_imp hc
  have hsplit := List.takeWhile_append_dropWhile (p := isBlank) (l := t)
  cases hrest : t.dropWhile isBlank with
  | nil =>
    rw [hrest, List.append_nil] at hsplit
    rw [hsplit] at hblank
    have hempty : trimEnd t = [] := dropEndWhile_append_of_all [] hblank
    rw [trim, trim, hrest, hempty]
    rfl
  | cons c rest =>
    -- the text is cut at its first character that is not white space
    have hc : isBlank c = false := eq_false_of_head?_dropWhile (l := t) (by rw [hrest]; rfl)
    rw [hrest] at hsplit
    have hend := trimEnd_append_cons hc [] rest
    have hend' := trimEnd_append_cons hc [] (trimEnd rest)
    rw [List.nil_append, List.nil_append] at hend hend'
    rw [trim, trim, hrest, ← hsplit, trimEnd_append_cons hc, List.dropWhile_append_of_pos hblank,
      List.dropWhile_cons_of_neg (by simp [hc]), hend', hend, trimEnd_trimEnd]

theorem mem_of_mem_trim (h : c ∈ trim t) : c ∈ t :=
  (List.dropWhile_suffix _).subset ((List.rdropWhile_prefix _ _).subset h)

theorem trimmed_of_forall (h : ∀ c ∈ t, isBlank c = false) : Trimmed t :=
  ⟨fun c hc => h c (List.mem_of_head? hc), fun c hc => h c (List.mem_of_getLast? hc)⟩

end Trimmed

section Fields

variable {separator c : Char} {t piece : Text} {pieces : List Text}

theorem fields_append_cons (h : separator ∉ piece) (t : Text) :
    fields separator (piece ++ separator :: t) = piece :: fields separator t := by
  induction piece with
  | nil => simp [fields]
  | cons c piece ih =>
    rw [List.mem_cons, not_or] at h
    rw [List.cons_append, fields, if_neg (Ne.symm h.1), ih h.2]

theorem fields_of_notMem (h : separator ∉ piece) : fields separator piece = [piece] := by
  induction piece with
  | nil => rfl
  | cons c piece ih =>
    rw [List.mem_cons, not_or] at h
    rw [fields, if_neg (Ne.symm h.1), ih h.2]

theorem fields_joinWith (hne : pieces ≠ []) (h : ∀ piece ∈ pieces, separator ∉ piece) :
    fields separator (joinWith separator pieces) = pieces := by
  fun_induction joinWith separator pieces with
  | case1 => contradiction
  | case2 piece => exact fields_of_notMem (h piece (List.mem_cons_self ..))
  | case3 piece pieces hpieces ih =>
    rw [fields_append_cons (h piece (List.mem_cons_self ..)),
      ih (by simpa using hpieces) fun other hother => h other (List.mem_cons_of_mem _ hother)]

theorem mem_of_mem_fields (h : piece ∈ fields separator t) (hc : c ∈ piece) :
    c ≠ separator ∧ c ∈ t := by
  fun_induction fields separator t generalizing piece with
  | case1 =>
    rw [List.mem_singleton.mp h] at hc
    contradiction
  | case2 rest ih =>
    rcases List.mem_cons.mp h with rfl | h
    · contradiction
    · exact (ih h hc).imp_right (List.mem_cons_of_mem _)
  | case3 c rest _ hnil => exact absurd hnil (fields_ne_nil separator rest)
  | case4 first rest hne head tail heq ih =>
    rcases List.mem_cons.mp h with rfl | h
    · rcases List.mem_cons.mp hc with rfl | hc
      · exact ⟨hne, List.mem_cons_self ..⟩
      · exact (ih (heq ▸ List.mem_cons_self ..) hc).imp_right (List.mem_cons_of_mem _)
    · exact (ih (heq ▸ List.mem_cons_of_mem _ h) hc).imp_right (List.mem_cons_of_mem _)

end Fields

end TapeStudio.Text
