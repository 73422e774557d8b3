import Mathlib.Algebra.Group.Nat.Defs
import TapeStudio.Proofs.Lines
import TapeStudio.Text.Numeral

/-! Numerals: a number with not too many digits is read back from its decimal text, and no other
number is read at all. -/
namespace TapeStudio.Text

/-- The numbers that have a numeral. -/
def HasNumeral (n : Int) : Prop := n.natAbs < 10 ^ maxDigits

section Written

variable {t : Text}

theorem toNat_of_isDigit {c : Char} (h : c.isDigit = true) : 0x30 ≤ c.toNat ∧ c.toNat ≤ 0x39 := by
  simp only [Char.isDigit, Bool.and_eq_true, decide_eq_true_eq, UInt32.le_iff_toNat_le,
    ge_iff_le] at h
  exact h

theorem digit?_of_isDigit {c : Char} (h : c.isDigit = true) :
    digit? c = some (c.toNat - '0'.toNat) := by
  have hrange := toNat_of_isDigit h
  rw [digit?, digitZeros, List.find?_cons_of_pos (by simp [hrange])]
  rfl

theorem digits?_of_isDigit (h : ∀ c ∈ t, c.isDigit = true) (ht : t ≠ []) :
    digits? t = some (t.map fun c => c.toNat - '0'.toNat) := by
  fun_induction digits? t with
  | case1 => exact absurd rfl ht
  | case2 c => simp [digit?_of_isDigit (h c (List.mem_cons_self ..))]
  | case3 c rest ih =>
    have hunderscore := h '_' (by simp)
    contradiction
  | case4 c rest hrest _ ih =>
    have hc := digit?_of_isDigit (h c (List.mem_cons_self ..))
    rw [hc, ih (fun x hx => h x (List.mem_cons_of_mem _ hx)) hrest]
    rfl

theorem magnitude?_toDigits {n : Nat} (h : n < 10 ^ maxDigits) :
    magnitude? (Nat.toDigits 10 n) = some n := by
  have hdigits : ∀ c ∈ Nat.toDigits 10 n, c.isDigit = true := fun c hc =>
    Nat.isDigit_of_mem_toDigits (by decide) (by decide) hc
  have hlength : (Nat.toDigits 10 n).length ≤ maxDigits :=
    (Nat.length_toDigits_le_iff (by decide) (by decide)).mpr h
  have hvalue : (Nat.toDigits 10 n).foldl (fun m c => 10 * m + (c.toNat - '0'.toNat)) 0 = n :=
    Nat.ofDigitChars_ten_toDigits
  rw [magnitude?, digits?_of_isDigit hdigits Nat.toDigits_ne_nil]
  simp only [Option.bind_eq_bind, Option.bind_some, List.length_map, hlength, if_true,
    List.foldl_map, hvalue]

end Written

section Signed

variable {n : Int} {c : Char}

theorem ofInteger_eq (n : Int) :
    ofInteger n = (if n < 0 then ['-'] else []) ++ Nat.toDigits 10 n.natAbs := by
  cases n with
  | ofNat m =>
    change (Nat.repr m).toList = _
    rw [if_neg (by simp), Nat.toList_repr]
    rfl
  | negSucc m =>
    change ("-" ++ Nat.repr (m + 1)).toList = _
    rw [if_pos (Int.negSucc_lt_zero m), String.toList_append, Nat.toList_repr]
    rfl

theorem mem_ofInteger (h : c ∈ ofInteger n) : c = '-' ∨ c.isDigit = true := by
  rw [ofInteger_eq] at h
  rcases List.mem_append.mp h with h | h
  · left
    split at h
    · exact List.mem_singleton.mp h
    · contradiction
  · exact .inr (Nat.isDigit_of_mem_toDigits (by decide) (by decide) h)

theorem isBlank_of_mem_ofInteger (h : c ∈ ofInteger n) : isBlank c = false := by
  rcases mem_ofInteger h with rfl | hdigit
  · decide
  · have hrange := toNat_of_isDigit hdigit
    simp only [isBlank, inRanges, blankRanges, List.any_eq_false]
    simp
    omega

/-- A number is read back from its decimal text. -/
theorem integer?_ofInteger (h : HasNumeral n) : integer? (ofInteger n) = some n := by
  have hpadding : ∀ c ∈ ofInteger n, isPadding c = false := fun c hc => by
    simp [isPadding, isBlank_of_mem_ofInteger hc]
  rw [integer?, dropWhile_of_head? fun c hc => hpadding c (List.mem_of_head? hc),
    dropEndWhile_of_getLast? fun c hc => hpadding c (List.mem_of_getLast? hc), ofInteger_eq]
  have hvalue := magnitude?_toDigits h
  by_cases hn : n < 0
  · rw [if_pos hn, List.singleton_append]
    simp only [hvalue, Option.bind_eq_bind, Option.bind_some, Option.pure_def, Option.map_some,
      Option.some.injEq]
    omega
  · rw [if_neg hn, List.nil_append]
    have hdigits : ∀ c ∈ Nat.toDigits 10 n.natAbs, c.isDigit = true := fun c hc =>
      Nat.isDigit_of_mem_toDigits (by decide) (by decide) hc
    split
    next rest hminus => exact absurd (hdigits '-' (by simp [hminus])) (by decide)
    next rest hplus => exact absurd (hdigits '+' (by simp [hplus])) (by decide)
    · simp only [hvalue, Option.bind_eq_bind, Option.bind_some, Option.pure_def, Option.map_some,
        Option.some.injEq]
      omega

end Signed

section Read

variable {t : Text}

theorem digit?_lt {c : Char} {d : Nat} (h : digit? c = some d) : d < 10 := by
  obtain ⟨first, hfirst, rfl⟩ := Option.map_eq_some_iff.mp h
  have hrange := List.find?_some hfirst
  simp only [Bool.and_eq_true, decide_eq_true_eq] at hrange
  omega

theorem digits?_lt {ds : List Nat} (h : digits? t = some ds) : ∀ d ∈ ds, d < 10 := by
  fun_induction digits? t generalizing ds with
  | case1 => contradiction
  | case2 c =>
    obtain ⟨d, hd, rfl⟩ := Option.map_eq_some_iff.mp h
    simpa using digit?_lt hd
  | case3 c rest ih =>
    simp only [Option.bind_eq_bind, Option.bind_eq_some_iff, Option.pure_def,
      Option.some.injEq] at h
    obtain ⟨d, hd, ds, hds, rfl⟩ := h
    simpa using ⟨digit?_lt hd, ih hds⟩
  | case4 c rest _ _ ih =>
    simp only [Option.bind_eq_bind, Option.bind_eq_some_iff, Option.pure_def,
      Option.some.injEq] at h
    obtain ⟨d, hd, ds, hds, rfl⟩ := h
    simpa using ⟨digit?_lt hd, ih hds⟩

theorem foldl_digits_lt {ds : List Nat} {n k : Nat} (hn : n < 10 ^ k) (h : ∀ d ∈ ds, d < 10) :
    ds.foldl (fun n d => 10 * n + d) n < 10 ^ (k + ds.length) := by
  induction ds generalizing n k with
  | nil => simpa using hn
  | cons d ds ih =>
    have hd := h d (List.mem_cons_self ..)
    have hnext : 10 * n + d < 10 ^ (k + 1) := by
      rw [Nat.pow_succ]
      omega
    have hrest := ih hnext fun x hx => h x (List.mem_cons_of_mem _ hx)
    rw [List.foldl_cons, List.length_cons]
    rwa [Nat.add_assoc, Nat.add_comm 1] at hrest

theorem magnitude?_lt {n : Nat} (h : magnitude? t = some n) : n < 10 ^ maxDigits := by
  simp only [magnitude?, Option.bind_eq_bind, Option.bind_eq_some_iff] at h
  obtain ⟨ds, hds, h⟩ := h
  split at h
  next hlength =>
    cases h
    have hlt := foldl_digits_lt (n := 0) (k := 0) (by decide) (digits?_lt hds)
    rw [Nat.zero_add] at hlt
    exact Nat.lt_of_lt_of_le hlt (Nat.pow_le_pow_right (by decide) hlength)
  · contradiction

/-- No number is read that has no numeral. -/
theorem hasNumeral_of_integer? {n : Int} (h : integer? t = some n) : HasNumeral n := by
  have hread : ∀ {u : Text} {f : Int → Int}, (∀ m, (f m).natAbs = m.natAbs) →
      Option.map f (do let m ← magnitude? u; pure (m : Int)) = some n → HasNumeral n := by
    intro u f hf hu
    simp only [Option.bind_eq_bind, Option.pure_def, Option.map_eq_some_iff,
      Option.bind_eq_some_iff,
      Option.some.injEq] at hu
    obtain ⟨_, ⟨m, hm, rfl⟩, rfl⟩ := hu
    rw [HasNumeral, hf]
    exact magnitude?_lt hm
  unfold integer? at h
  split at h
  · exact hread Int.natAbs_neg h
  · exact hread (fun _ => rfl) h
  · exact hread (fun _ => rfl) h

end Read

end TapeStudio.Text
