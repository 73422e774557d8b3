import Mathlib.Order.Nat
import TapeStudio.Program.Brackets

/-! Counting brackets: which texts close too much, which are balanced, and which closing bracket
belongs to which open one. -/
namespace TapeStudio.Brackets

/-- Some prefix has more closing brackets than open ones. -/
def Overclosed (t : Text) : Prop := ∃ u, u <+: t ∧ u.count '[' < u.count ']'

def Balanced (t : Text) : Prop := t.count '[' = t.count ']' ∧ ¬ Overclosed t

/-- What stands strictly between two places of a text. -/
def between (t : Text) (i j : Nat) : Text := (t.take j).drop (i + 1)

/-- The closing bracket at `j` closes the open one at `i`. -/
structure Matches (t : Text) (i j : Nat) : Prop where
  lt : i < j
  opens : t[i]? = some '['
  closes : t[j]? = some ']'
  balanced : Balanced (between t i j)

/-- Overclosed behind `depth` open brackets that wait to be closed. -/
def OverclosedAfter (depth : Nat) (t : Text) : Prop :=
  ∃ u, u <+: t ∧ depth + u.count '[' < u.count ']'

theorem overclosedAfter_zero {t : Text} : OverclosedAfter 0 t ↔ Overclosed t := by
  simp [OverclosedAfter, Overclosed]

@[simp] theorem overclosedAfter_nil (depth : Nat) : ¬ OverclosedAfter depth [] := by
  rintro ⟨u, hu, h⟩
  rw [List.prefix_nil.mp hu] at h
  simp at h

theorem overclosedAfter_cons {depth : Nat} {c : Char} {t : Text} :
    OverclosedAfter depth (c :: t) ↔
      ∃ u, u <+: t ∧ depth + (c :: u).count '[' < (c :: u).count ']' := by
  constructor
  · rintro ⟨u, hu, h⟩
    rcases List.prefix_cons_iff.mp hu with rfl | ⟨v, rfl, hv⟩
    · simp at h
    · exact ⟨v, hv, h⟩
  · rintro ⟨u, hu, h⟩
    exact ⟨c :: u, List.prefix_cons_inj c |>.mpr hu, h⟩

@[simp] theorem overclosedAfter_open (depth : Nat) (t : Text) :
    OverclosedAfter depth ('[' :: t) ↔ OverclosedAfter (depth + 1) t := by
  rw [overclosedAfter_cons]
  refine exists_congr fun u => and_congr_right fun _ => ?_
  simp only [List.count_cons_self, List.count_cons_of_ne (show '[' ≠ ']' by decide)]
  omega

@[simp] theorem overclosedAfter_close_zero (t : Text) : OverclosedAfter 0 (']' :: t) :=
  overclosedAfter_cons.mpr ⟨[], List.nil_prefix, by simp⟩

@[simp] theorem overclosedAfter_close_succ (depth : Nat) (t : Text) :
    OverclosedAfter (depth + 1) (']' :: t) ↔ OverclosedAfter depth t := by
  rw [overclosedAfter_cons]
  refine exists_congr fun u => and_congr_right fun _ => ?_
  simp only [List.count_cons_self, List.count_cons_of_ne (show ']' ≠ '[' by decide)]
  omega

theorem overclosedAfter_plain {c : Char} (ho : c ≠ '[') (hc : c ≠ ']') (depth : Nat) (t : Text) :
    OverclosedAfter depth (c :: t) ↔ OverclosedAfter depth t := by
  rw [overclosedAfter_cons]
  simp only [List.count_cons_of_ne ho, List.count_cons_of_ne hc, OverclosedAfter]

/-- The pairs of a text are found unless it closes more than is pending. -/
theorem pairsFrom?_eq_none_iff (position : Nat) (pending : List Nat) (t : Text) :
    pairsFrom? position pending t = none ↔ OverclosedAfter pending.length t := by
  fun_induction pairsFrom? position pending t with
  | case1 => simp
  | case2 position pending rest ih => simpa using ih
  | case3 => simp
  | case4 position rest start outer ih => simpa using ih
  | case5 position pending c rest ho hc ih => rw [ih, overclosedAfter_plain ho hc]

theorem pairs?_eq_none_iff (t : Text) : pairs? t = none ↔ Overclosed t :=
  (pairsFrom?_eq_none_iff 0 [] t).trans overclosedAfter_zero

theorem Balanced.count_prefix_le {t u v : Text} (h : Balanced t) (ht : t = u ++ v) :
    u.count ']' ≤ u.count '[' := by
  by_contra hlt
  exact h.2 ⟨u, ht ▸ List.prefix_append u v, by omega⟩

theorem take_split {t : Text} {k j : Nat} {c : Char} (hkj : k < j) (hk : t[k]? = some c) :
    t.take j = t.take k ++ c :: between t k j := by
  obtain ⟨hlt, hget⟩ := List.getElem?_eq_some_iff.mp hk
  have hdrop : (t.take j).drop k = c :: between t k j := by
    rw [List.drop_eq_getElem_cons (by simp; omega)]
    simp [between, hget]
  have htake : (t.take j).take k = t.take k := by rw [List.take_take, Nat.min_eq_left hkj.le]
  rw [← htake, ← hdrop, List.take_append_drop]

theorem between_split {t : Text} {i k j : Nat} {c : Char} (hik : i < k) (hkj : k < j)
    (hk : t[k]? = some c) : between t i j = between t i k ++ c :: between t k j := by
  have hlt := (List.getElem?_eq_some_iff.mp hk).1
  rw [between, take_split hkj hk, List.drop_append_of_le_length (by simp; omega)]
  rfl

namespace Matches

variable {t : Text} {i j k l : Nat}

/-- An open bracket inside a matched pair that is itself matched closes inside it. -/
theorem lt_of_inside (h : Matches t i j) (h' : Matches t k l) (hik : i < k) (hkj : k < j) :
    l < j := by
  by_contra hjl
  have hout := between_split hik hkj h'.opens
  have hinner : (between t k j).count ']' ≤ (between t k j).count '[' := by
    rcases Nat.eq_or_lt_of_not_lt hjl with rfl | hlt
    · exact h'.balanced.1.ge
    · exact h'.balanced.count_prefix_le (between_split hkj hlt h.closes)
  have hbefore := h.balanced.count_prefix_le hout
  have hcount := h.balanced.1
  rw [hout] at hcount
  simp only [List.count_append, List.count_cons_self,
    List.count_cons_of_ne (show '[' ≠ ']' by decide)] at hcount
  omega

theorem right_unique (h : Matches t i j) (h' : Matches t i k) : j = k := by
  -- the text up to the nearer of two partners would close more than it opens
  have key {a b : Nat} (ha : Matches t i a) (hb : Matches t i b) : ¬ a < b := by
    intro hab
    have hsplit := between_split ha.lt hab ha.closes
    have hle := hb.balanced.count_prefix_le (u := between t i a ++ [']'])
      (v := between t a b) (by simpa using hsplit)
    have hcount := ha.balanced.1
    simp [List.count_append] at hle
    omega
  have h1 := key h h'
  have h2 := key h' h
  omega

theorem left_unique (h : Matches t i k) (h' : Matches t j k) : i = j := by
  have key {a b : Nat} (ha : Matches t a k) (hb : Matches t b k) : ¬ a < b := fun hab =>
    (ha.lt_of_inside hb hab hb.lt).ne rfl
  have h1 := key h h'
  have h2 := key h' h
  omega

end Matches

end TapeStudio.Brackets
