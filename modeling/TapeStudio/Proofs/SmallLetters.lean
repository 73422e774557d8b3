import TapeStudio.Text.Blank
import TapeStudio.Text.LowerCase

/-! Lower case. A text in lower case stays as it is when it is put into lower case again, and every
character of it that is not in the text itself is a letter: no white space, and no sign that has a
meaning in a settings document. -/
namespace TapeStudio.Text

/-- A character that lower case leaves alone wherever it stands. -/
def IsSmall (c : Char) : Prop := c.toNat ≠ 0x3A3 ∧ lowerChar c = [c]

/-- A letter, as opposed to white space and to the signs, which come before the small letters. -/
def IsLetter (c : Char) : Prop := 0x61 ≤ c.toNat ∧ isBlank c = false

theorem toNat_ofNat {n : Nat} (h : n.isValidChar) : (Char.ofNat n).toNat = n := by
  rw [Char.ofNat, dif_pos h]
  rfl

/-- Whatever is not a capital is left alone. The capital sigma is one of the capitals. -/
theorem isSmall_of_not_holds {c : Char} (hdotted : c.toNat ≠ 0x130)
    (h : ∀ r ∈ capitalRuns, r.holds c.toNat = false) : IsSmall c := by
  constructor
  · intro hsigma
    have hany : capitalRuns.any (·.holds 0x3A3) = true := by decide
    obtain ⟨r, hr, hholds⟩ := List.any_eq_true.mp hany
    rw [← hsigma, h r hr] at hholds
    contradiction
  · have hnone : capitalRuns.find? (·.holds c.toNat) = none := by simpa using h
    rw [lowerChar, if_neg hdotted, hnone]

namespace CapitalRun

/-- The small letters of a run begin with `small` and end here. -/
def lastSmall (r : CapitalRun) : Nat := r.small + (r.last - r.first)

/-- The small letters of the first run are not among the capitals of the second: they lie apart, or
the two alternate. -/
def apart (r q : CapitalRun) : Bool :=
  r.lastSmall.blt q.first || q.last.blt r.small ||
    ((r.stride = 2 || r.first = r.last) && q.stride = 2 && (r.small + q.first) % 2 = 1)

/-- The small letters of the run are letters, and no capitals of any run. -/
def sound (r : CapitalRun) : Bool :=
  0x61 ≤ r.small && (r.lastSmall < 0x130 || 0x130 < r.small) &&
    (r.lastSmall < 0xD800 || (0xDFFF < r.small && r.lastSmall < 0x110000)) &&
    (blankRanges.all fun b => r.lastSmall.blt b.1 || b.2.blt r.small) && capitalRuns.all r.apart

theorem all_sound : capitalRuns.all sound = true := by decide +kernel

variable {r q : CapitalRun} {n : Nat}

theorem not_holds_of_apart (h : r.apart q = true) (hn : r.holds n = true) :
    q.holds (r.small + (n - r.first)) = false := by
  simp only [apart, Bool.or_eq_true, Bool.and_eq_true, decide_eq_true_eq, Nat.blt_eq] at h
  simp only [holds, Bool.and_eq_true, decide_eq_true_eq, beq_iff_eq] at hn
  apply Bool.eq_false_iff.mpr
  intro hq
  simp only [holds, Bool.and_eq_true, decide_eq_true_eq, beq_iff_eq] at hq
  unfold lastSmall at h
  rcases h with (h | h) | ⟨⟨h | h, hstride⟩, hodd⟩
  · omega
  · omega
  · rw [h] at hn
    rw [hstride] at hq
    omega
  · rw [hstride] at hq
    omega

/-- The small form of a capital is a letter that lower case leaves alone. -/
theorem small_of_holds (hr : r ∈ capitalRuns) (hn : r.holds n = true) :
    IsSmall (Char.ofNat (r.small + (n - r.first))) ∧
      IsLetter (Char.ofNat (r.small + (n - r.first))) := by
  have hsound := List.all_eq_true.mp all_sound r hr
  simp only [sound, Bool.and_eq_true, Bool.or_eq_true, decide_eq_true_eq, List.all_eq_true,
    Nat.blt_eq] at hsound
  obtain ⟨⟨⟨⟨hletter, hdotted⟩, hvalid⟩, hblank⟩, hapart⟩ := hsound
  have hcapital : ∀ q ∈ capitalRuns, q.holds (r.small + (n - r.first)) = false := fun q hq =>
    not_holds_of_apart (hapart q hq) hn
  simp only [holds, Bool.and_eq_true, decide_eq_true_eq] at hn
  unfold lastSmall at hdotted hvalid hblank
  generalize hm : r.small + (n - r.first) = m at hcapital ⊢
  have hchar : (Char.ofNat m).toNat = m := by
    apply toNat_ofNat
    unfold Nat.isValidChar
    omega
  refine ⟨isSmall_of_not_holds ?_ ?_, ?_, ?_⟩
  · omega
  · rw [hchar]
    exact hcapital
  · omega
  · rw [isBlank, inRanges, hchar]
    apply List.any_eq_false.mpr
    intro b hb
    have hapart := hblank b hb
    simp only [Bool.and_eq_true, decide_eq_true_eq]
    omega

end CapitalRun

/-- The few small letters that come from no run. -/
theorem small_of_mem {n : Nat} (h : n ∈ [0x69, 0x307, 0x3C2, 0x3C3]) :
    IsSmall (Char.ofNat n) ∧ IsLetter (Char.ofNat n) := by
  have hcheck : ([0x69, 0x307, 0x3C2, 0x3C3].all fun n => (Char.ofNat n).toNat ≠ 0x130 &&
      capitalRuns.all (!·.holds (Char.ofNat n).toNat) && 0x61 ≤ (Char.ofNat n).toNat &&
      !isBlank (Char.ofNat n)) = true := by
    decide
  have hn := List.all_eq_true.mp hcheck n h
  simp only [Bool.and_eq_true, decide_eq_true_eq, List.all_eq_true, Bool.not_eq_true'] at hn
  exact ⟨isSmall_of_not_holds hn.1.1.1 hn.1.1.2, hn.1.2, hn.2⟩

/-- A character either is its own small form, or its small form consists of small letters. -/
theorem lowerChar_cases (c : Char) :
    lowerChar c = [c] ∨ lowerChar c ≠ [] ∧ ∀ x ∈ lowerChar c, IsSmall x ∧ IsLetter x := by
  unfold lowerChar
  split
  · right
    simpa using ⟨small_of_mem (by decide), small_of_mem (by decide)⟩
  · cases hrun : capitalRuns.find? (·.holds c.toNat) with
    | none => exact .inl rfl
    | some r =>
      right
      have hholds : r.holds c.toNat = true := by simpa using List.find?_some hrun
      simpa using CapitalRun.small_of_holds (List.mem_of_find?_eq_some hrun) hholds

/-- A text beside one with another form for some characters, made of small letters. -/
inductive Lowered : Text → Text → Prop where
  | nil : Lowered [] []
  | same {c : Char} {t u : Text} (small : IsSmall c) (rest : Lowered t u) :
    Lowered (c :: t) (c :: u)
  | other {c : Char} {form t u : Text} (nonempty : form ≠ [])
      (letters : ∀ x ∈ form, IsSmall x ∧ IsLetter x) (rest : Lowered t u) :
      Lowered (c :: t) (form ++ u)

theorem lowered_lowerAfter (before t : Text) : Lowered t (lowerAfter before t) := by
  induction t generalizing before with
  | nil => exact .nil
  | cons c t ih =>
    rw [lowerAfter]
    by_cases hsigma : c.toNat = 0x3A3
    · rw [if_pos hsigma]
      refine .other (by simp) ?_ (ih _)
      split
      · simpa using small_of_mem (by decide)
      · simpa using small_of_mem (by decide)
    · rw [if_neg hsigma]
      rcases lowerChar_cases c with hsame | ⟨hnonempty, hletters⟩
      · rw [hsame]
        exact .same ⟨hsigma, hsame⟩ (ih _)
      · exact .other hnonempty hletters (ih _)

namespace Lowered

variable {t u : Text} {x : Char}

theorem isSmall (h : Lowered t u) (hx : x ∈ u) : IsSmall x := by
  induction h with
  | nil => contradiction
  | same small _ ih =>
    rcases List.mem_cons.mp hx with rfl | hx
    · exact small
    · exact ih hx
  | other _ letters _ ih =>
    rcases List.mem_append.mp hx with hx | hx
    · exact (letters x hx).1
    · exact ih hx

theorem mem (h : Lowered t u) (hx : x ∈ u) : x ∈ t ∨ IsLetter x := by
  induction h with
  | nil => contradiction
  | same _ _ ih =>
    rcases List.mem_cons.mp hx with rfl | hx
    · exact .inl (List.mem_cons_self ..)
    · exact (ih hx).imp_left (List.mem_cons_of_mem _)
  | other _ letters _ ih =>
    rcases List.mem_append.mp hx with hx | hx
    · exact .inr (letters x hx).2
    · exact (ih hx).imp_left (List.mem_cons_of_mem _)

/-- After the first character there is nothing new but letters. -/
theorem mem_tail (h : Lowered t u) (hx : x ∈ u.tail) : x ∈ t.tail ∨ IsLetter x := by
  cases h with
  | nil => contradiction
  | same _ rest => exact rest.mem hx
  | @other c form t u nonempty letters rest =>
    obtain ⟨first, form, rfl⟩ := List.exists_cons_of_ne_nil nonempty
    rcases List.mem_append.mp hx with hx | hx
    · exact .inr (letters x (List.mem_cons_of_mem _ hx)).2
    · exact rest.mem hx

theorem head? (h : Lowered t u) (hx : u.head? = some x) : t.head? = some x ∨ IsLetter x := by
  cases h with
  | nil => contradiction
  | same => exact .inl hx
  | @other c form t u nonempty letters rest =>
    obtain ⟨first, form, rfl⟩ := List.exists_cons_of_ne_nil nonempty
    obtain rfl : first = x := by simpa using hx
    exact .inr (letters first (List.mem_cons_self ..)).2

/-- A sign stood there before. -/
theorem exists_cons (h : Lowered t (x :: u)) (hx : ¬ IsLetter x) :
    ∃ rest, t = x :: rest ∧ Lowered rest u := by
  generalize hv : x :: u = v at h
  cases h with
  | nil => contradiction
  | same small rest =>
    obtain ⟨rfl, rfl⟩ := List.cons.inj hv
    exact ⟨_, rfl, rest⟩
  | @other c form t v nonempty letters rest =>
    obtain ⟨y, form, rfl⟩ := List.exists_cons_of_ne_nil nonempty
    obtain ⟨rfl, -⟩ := List.cons.inj hv
    exact absurd (letters x (List.mem_cons_self ..)).2 hx

theorem eq_nil_iff (h : Lowered t u) : u = [] ↔ t = [] := by
  cases h <;> simp_all

theorem getLast? (h : Lowered t u) (hx : u.getLast? = some x) :
    t.getLast? = some x ∨ IsLetter x := by
  induction h with
  | nil => contradiction
  | @same c t u small rest ih =>
    cases hu : u.getLast? with
    | none =>
      have hu' : u = [] := List.getLast?_eq_none_iff.mp hu
      obtain rfl : t = [] := rest.eq_nil_iff.mp hu'
      left
      simpa [hu'] using hx
    | some y =>
      obtain rfl : y = x := by simpa [List.getLast?_cons, hu] using hx
      exact (ih hu).imp_left fun ht => by simp [List.getLast?_cons, ht]
  | @other c form t u nonempty letters rest ih =>
    cases hu : u.getLast? with
    | none =>
      rw [List.getLast?_eq_none_iff.mp hu, List.append_nil] at hx
      exact .inr (letters x (List.mem_of_getLast? hx)).2
    | some y =>
      obtain rfl : y = x := by simpa [List.getLast?_append, hu] using hx
      exact (ih hu).imp_left fun ht => by simp [List.getLast?_cons, ht]

end Lowered

theorem lowerAfter_of_isSmall (before : Text) {t : Text} (h : ∀ x ∈ t, IsSmall x) :
    lowerAfter before t = t := by
  induction t generalizing before with
  | nil => rfl
  | cons c t ih =>
    obtain ⟨hsigma, hsame⟩ := h c (List.mem_cons_self ..)
    rw [lowerAfter, if_neg hsigma, hsame, ih _ fun x hx => h x (List.mem_cons_of_mem _ hx)]
    rfl

theorem lowered_lower (t : Text) : Lowered t (lower t) := lowered_lowerAfter [] t

/-- A text in lower case stays as it is. -/
theorem lower_lower (t : Text) : lower (lower t) = lower t :=
  lowerAfter_of_isSmall [] fun _ hx => (lowered_lower t).isSmall hx

end TapeStudio.Text
