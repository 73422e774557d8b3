import TapeStudio.Machine.Run
import TapeStudio.Proofs.Outline

/-! The jump table of a program leads from every matched bracket to its partner, and from nowhere
else. -/
namespace TapeStudio

open Brackets

namespace Block

/-- The places of the matched brackets, for a block that starts at a position. -/
def pairs : Block → Nat → List (Nat × Nat)
  | .done, _ => []
  | .command _ rest, position => rest.pairs (position + 1)
  | .comment _ _ rest, position => rest.pairs (position + 1)
  | .loop body rest, position =>
    let close := position + 1 + body.text.length
    body.pairs (position + 1) ++ (position, close) :: rest.pairs (close + 1)

end Block

def Outline.pairs : Outline → Nat → List (Nat × Nat)
  | .last b, position => b.pairs position
  | .opening b rest, position =>
    b.pairs position ++ rest.pairs (position + b.text.length + 1)

namespace Brackets

theorem pairsFrom?_plain {c : Char} (ho : c ≠ '[') (hc : c ≠ ']') (position : Nat)
    (pending : List Nat) (t : Text) :
    pairsFrom? position pending (c :: t) = pairsFrom? (position + 1) pending t := by
  rw [pairsFrom?]
  · exact ho
  · exact hc

/-- A block leaves the pending brackets as they are. -/
theorem pairsFrom?_block (b : Block) (position : Nat) (pending : List Nat) (t : Text) :
    pairsFrom? position pending (b.text ++ t) =
      (pairsFrom? (position + b.text.length) pending t).map (b.pairs position ++ ·) := by
  induction b generalizing position pending t with
  | done => simp [Block.text, Block.pairs]
  | command o rest ih =>
    rw [Block.text, List.cons_append, pairsFrom?_plain o.symbol_ne_open o.symbol_ne_close, ih,
      List.length_cons, Block.pairs, Nat.add_assoc, Nat.add_comm 1]
  | comment c h rest ih =>
    obtain ⟨ho, hc⟩ := Instruction.ne_bracket_of_comment h
    rw [Block.text, List.cons_append, pairsFrom?_plain ho hc, ih, List.length_cons, Block.pairs,
      Nat.add_assoc, Nat.add_comm 1]
  | loop body rest ihb ih =>
    have htext : (Block.loop body rest).text ++ t =
        '[' :: (body.text ++ ']' :: (rest.text ++ t)) := by simp [Block.text]
    have hend : position + (Block.loop body rest).text.length =
        position + 1 + body.text.length + 1 + rest.text.length := by
      simp only [Block.text, List.length_cons, List.length_append]
      omega
    rw [htext, hend, pairsFrom?, ihb, pairsFrom?, ih]
    simp [Option.map_map, Function.comp_def, Block.pairs]

theorem pairsFrom?_outline (o : Outline) (position : Nat) (pending : List Nat) :
    pairsFrom? position pending o.text = some (o.pairs position) := by
  induction o generalizing position pending with
  | last b =>
    have h := pairsFrom?_block b position pending []
    rw [List.append_nil, pairsFrom?] at h
    simpa [Outline.text, Outline.pairs] using h
  | opening b rest ih =>
    rw [Outline.text, pairsFrom?_block, pairsFrom?, ih]
    rfl

theorem getElem?_behind (u v : Text) (c : Char) (k : Nat) :
    (u ++ c :: v)[u.length + 1 + k]? = v[k]? := by
  rw [Nat.add_assoc, List.getElem?_append_right (by omega), Nat.add_sub_cancel_left, Nat.add_comm 1,
    List.getElem?_cons_succ]

/-- A balanced text between two brackets makes them partners. -/
theorem matches_of_split {t pre mid post : Text} (ht : t = pre ++ '[' :: (mid ++ ']' :: post))
    (hmid : Balanced mid) : Matches t pre.length (pre.length + 1 + mid.length) where
  lt := by omega
  opens := by simp [ht]
  closes := by
    rw [ht, getElem?_behind]
    simp
  balanced := by
    have htake : t.take (pre.length + 1 + mid.length) = (pre ++ ['[']) ++ mid := by
      rw [ht, show pre ++ '[' :: (mid ++ ']' :: post) = (pre ++ ['['] ++ mid) ++ ']' :: post by
        simp]
      exact List.take_left' (by simp; omega)
    have hbetween : between t pre.length (pre.length + 1 + mid.length) = mid := by
      rw [between, htake]
      exact List.drop_left' (by simp)
    rwa [hbetween]

theorem matches_of_mem_block {t : Text} {b : Block} {i j : Nat} (pre post : Text)
    (ht : t = pre ++ (b.text ++ post)) (h : (i, j) ∈ b.pairs pre.length) : Matches t i j := by
  induction b generalizing pre post with
  | done => simp [Block.pairs] at h
  | command o rest ih =>
    refine ih (pre ++ [o.symbol]) post (by simp [ht, Block.text]) ?_
    simpa [Block.pairs] using h
  | comment c hc rest ih =>
    refine ih (pre ++ [c]) post (by simp [ht, Block.text]) ?_
    simpa [Block.pairs] using h
  | loop body rest ihb ih =>
    have hsplit : t = pre ++ '[' :: (body.text ++ ']' :: (rest.text ++ post)) := by
      simp [ht, Block.text]
    rw [Block.pairs, List.mem_append, List.mem_cons] at h
    rcases h with h | h | h
    · exact ihb (pre ++ ['[']) _ (by simpa using hsplit) (by simpa using h)
    · obtain ⟨rfl, rfl⟩ := Prod.mk.inj h
      exact matches_of_split hsplit (balanced_block body)
    · refine ih (pre ++ '[' :: (body.text ++ [']'])) post (by simpa using hsplit) ?_
      have hlen : (pre ++ '[' :: (body.text ++ [']'])).length =
          pre.length + 1 + body.text.length + 1 := by simp; omega
      rwa [hlen]

theorem matches_of_mem_outline {t : Text} {o : Outline} {i j : Nat} (pre : Text)
    (ht : t = pre ++ o.text) (h : (i, j) ∈ o.pairs pre.length) : Matches t i j := by
  induction o generalizing pre with
  | last b => exact matches_of_mem_block pre [] (by simpa [Outline.text] using ht) h
  | opening b rest ih =>
    rcases List.mem_append.mp h with h | h
    · exact matches_of_mem_block pre _ ht h
    · refine ih (pre ++ b.text ++ ['[']) (by simpa [Outline.text] using ht) ?_
      simpa [Nat.add_assoc] using h

/-- Every closing bracket of a block has its pair. -/
theorem exists_mem_block {b : Block} {k : Nat} (h : b.text[k]? = some ']') (position : Nat) :
    ∃ i, (i, position + k) ∈ b.pairs position := by
  induction b generalizing k position with
  | done => simp [Block.text] at h
  | command o rest ih =>
    cases k with
    | zero => exact absurd (by simpa [Block.text] using h) o.symbol_ne_close
    | succ k =>
      obtain ⟨i, hi⟩ := ih (by simpa [Block.text] using h) (position + 1)
      exact ⟨i, by rwa [Block.pairs, ← Nat.add_assoc, Nat.add_right_comm]⟩
  | comment c hc rest ih =>
    cases k with
    | zero => exact absurd (by simpa [Block.text] using h) (Instruction.ne_bracket_of_comment hc).2
    | succ k =>
      obtain ⟨i, hi⟩ := ih (by simpa [Block.text] using h) (position + 1)
      exact ⟨i, by rwa [Block.pairs, ← Nat.add_assoc, Nat.add_right_comm]⟩
  | loop body rest ihb ih =>
    cases k with
    | zero => simp [Block.text] at h
    | succ k =>
      rw [Block.text, List.getElem?_cons_succ] at h
      rcases Nat.lt_trichotomy k body.text.length with hk | rfl | hk
      · rw [List.getElem?_append_left hk] at h
        obtain ⟨i, hi⟩ := ihb h (position + 1)
        refine ⟨i, List.mem_append_left _ ?_⟩
        rwa [← Nat.add_assoc, Nat.add_right_comm]
      · refine ⟨position, List.mem_append_right _ ?_⟩
        rw [Nat.add_comm body.text.length, ← Nat.add_assoc]
        exact List.mem_cons_self
      · obtain ⟨k, rfl⟩ : ∃ d, k = body.text.length + 1 + d := ⟨k - body.text.length - 1, by omega⟩
        rw [getElem?_behind] at h
        obtain ⟨i, hi⟩ := ih h (position + 1 + body.text.length + 1)
        refine ⟨i, List.mem_append_right _ (List.mem_cons_of_mem _ ?_)⟩
        convert hi using 2
        omega

theorem exists_mem_outline {o : Outline} {k : Nat} (h : o.text[k]? = some ']') (position : Nat) :
    ∃ i, (i, position + k) ∈ o.pairs position := by
  induction o generalizing k position with
  | last b => exact exists_mem_block h position
  | opening b rest ih =>
    rw [Outline.text] at h
    rcases Nat.lt_trichotomy k b.text.length with hk | rfl | hk
    · rw [List.getElem?_append_left hk] at h
      obtain ⟨i, hi⟩ := exists_mem_block h position
      exact ⟨i, List.mem_append_left _ hi⟩
    · simp at h
    · obtain ⟨k, rfl⟩ : ∃ d, k = b.text.length + 1 + d := ⟨k - b.text.length - 1, by omega⟩
      rw [getElem?_behind] at h
      obtain ⟨i, hi⟩ := ih h (position + b.text.length + 1)
      refine ⟨i, List.mem_append_right _ ?_⟩
      convert hi using 2
      omega

theorem exists_outline_of_pairs {t : Text} {ps : List (Nat × Nat)} (h : pairs? t = some ps) :
    ∃ o : Outline, o.text = t ∧ o.pairs 0 = ps := by
  have hclosed : ¬ Overclosed t := by
    rw [← pairs?_eq_none_iff, h]
    simp
  obtain ⟨o, rfl⟩ := exists_outline hclosed
  exact ⟨o, rfl, Option.some.inj ((pairsFrom?_outline o 0 []).symm.trans h)⟩

theorem exists_mem_pairs {t : Text} {ps : List (Nat × Nat)} (h : pairs? t = some ps) {j : Nat}
    (hj : t[j]? = some ']') : ∃ i, (i, j) ∈ ps := by
  obtain ⟨o, rfl, rfl⟩ := exists_outline_of_pairs h
  simpa using exists_mem_outline hj 0

/-- The pairs found in a text are exactly its matching brackets. -/
theorem mem_pairs_iff {t : Text} {ps : List (Nat × Nat)} (h : pairs? t = some ps) {i j : Nat} :
    (i, j) ∈ ps ↔ Matches t i j := by
  have sound {i j : Nat} (hij : (i, j) ∈ ps) : Matches t i j := by
    obtain ⟨o, rfl, rfl⟩ := exists_outline_of_pairs h
    exact matches_of_mem_outline [] rfl hij
  constructor
  · exact sound
  · intro hm
    obtain ⟨i', hi'⟩ := exists_mem_pairs h hm.closes
    rwa [hm.left_unique (sound hi')]

/-- Two brackets that match, in either order. -/
def Partner (t : Text) (i j : Nat) : Prop := Matches t i j ∨ Matches t j i

namespace Partner

variable {t : Text} {i j k l : Nat}

theorem symm (h : Partner t i j) : Partner t j i := Or.symm h

theorem ne (h : Partner t i j) : i ≠ j := by
  rcases h with h | h
  · exact h.lt.ne
  · exact h.lt.ne'

theorem unique (h : Partner t i j) (h' : Partner t i k) : j = k := by
  rcases h with h | h <;> rcases h' with h' | h'
  · exact h.right_unique h'
  · simpa using h.opens.symm.trans h'.closes
  · simpa using h.closes.symm.trans h'.opens
  · exact h.left_unique h'

/-- What lies inside a pair has its partner inside it too. -/
theorem inside (h : Partner t i j) (h' : Partner t k l) (hik : i < k) (hkj : k < j) :
    i < l ∧ l < j := by
  have hij : Matches t i j := by
    rcases h with h | h
    · exact h
    · have := h.lt
      omega
  rcases h' with h' | h'
  · exact ⟨hik.trans h'.lt, hij.lt_of_inside h' hik hkj⟩
  · refine ⟨?_, h'.lt.trans hkj⟩
    by_contra hle
    rcases Nat.eq_or_lt_of_not_lt hle with rfl | hli
    · have := hij.right_unique h'
      omega
    · have := h'.lt_of_inside hij hli hik
      omega

end Partner

end Brackets

namespace JumpTable

theorem getElem?_connect (jumps : JumpTable) (pair : Nat × Nat) (k : Nat) :
    (jumps.connect pair)[k]? =
      if pair.2 = k then some pair.1 else if pair.1 = k then some pair.2 else jumps[k]? := by
  simp [connect, Std.TreeMap.getElem?_insert]

private theorem mem_of_foldl {ps : List (Nat × Nat)} {jumps : JumpTable} {k v : Nat}
    (h : (ps.foldl connect jumps)[k]? = some v) :
    (k, v) ∈ ps ∨ (v, k) ∈ ps ∨ jumps[k]? = some v := by
  induction ps generalizing jumps with
  | nil => exact .inr (.inr h)
  | cons pair ps ih =>
    rcases ih h with h | h | h
    · exact .inl (List.mem_cons_of_mem _ h)
    · exact .inr (.inl (List.mem_cons_of_mem _ h))
    · rw [getElem?_connect] at h
      split_ifs at h with h2 h1
      · obtain rfl := Option.some.inj h
        exact .inr (.inl (by simp [← h2]))
      · obtain rfl := Option.some.inj h
        exact .inl (by simp [← h1])
      · exact .inr (.inr h)

private theorem isSome_foldl {ps : List (Nat × Nat)} (jumps : JumpTable) {k : Nat}
    (h : (∃ v, (k, v) ∈ ps ∨ (v, k) ∈ ps) ∨ jumps[k]?.isSome) :
    (ps.foldl connect jumps)[k]?.isSome := by
  induction ps generalizing jumps with
  | nil => simpa using h
  | cons pair ps ih =>
    apply ih
    rw [getElem?_connect]
    split_ifs with h2 h1
    · exact .inr rfl
    · exact .inr rfl
    · rcases h with ⟨v, h | h⟩ | h
      · rcases List.mem_cons.mp h with rfl | h
        · exact absurd rfl h1
        · exact .inl ⟨v, .inl h⟩
      · rcases List.mem_cons.mp h with rfl | h
        · exact absurd rfl h2
        · exact .inl ⟨v, .inr h⟩
      · exact .inr h

/-- The table of a text leads from each bracket to its partner. -/
theorem getElem?_ofText {t : Text} {jumps : JumpTable} (h : ofText? t = some jumps) {i j : Nat} :
    jumps[i]? = some j ↔ Partner t i j := by
  obtain ⟨ps, hps, rfl⟩ := Option.map_eq_some_iff.mp h
  have sound {j : Nat} (hj : (ofPairs ps)[i]? = some j) : Partner t i j := by
    rcases mem_of_foldl hj with hj | hj | hj
    · exact .inl ((mem_pairs_iff hps).mp hj)
    · exact .inr ((mem_pairs_iff hps).mp hj)
    · simp at hj
  constructor
  · exact sound
  · intro hp
    have hmem : (i, j) ∈ ps ∨ (j, i) ∈ ps := hp.imp (mem_pairs_iff hps).mpr (mem_pairs_iff hps).mpr
    obtain ⟨k, hk⟩ := Option.isSome_iff_exists.mp (isSome_foldl ∅ (.inl ⟨j, hmem⟩))
    rw [hp.unique (sound hk)]
    exact hk

theorem ofText?_eq_none_iff (t : Text) : ofText? t = none ↔ Overclosed t := by
  rw [ofText?, Option.map_eq_none_iff, pairs?_eq_none_iff]

theorem exists_getElem?_of_close {t : Text} {jumps : JumpTable} (h : ofText? t = some jumps)
    {j : Nat} (hj : t[j]? = some ']') : ∃ i, jumps[j]? = some i := by
  obtain ⟨ps, hps, -⟩ := Option.map_eq_some_iff.mp h
  obtain ⟨i, hi⟩ := exists_mem_pairs hps hj
  exact ⟨i, (getElem?_ofText h).mpr (.inr ((mem_pairs_iff hps).mp hi))⟩

theorem getElem?_eq_none_of_open {t : Text} {jumps : JumpTable} (h : ofText? t = some jumps)
    {i : Nat} (hi : t[i]? = some '[') : jumps[i]? = none ↔ ∀ j, ¬ Matches t i j := by
  rw [Option.eq_none_iff_forall_ne_some]
  refine forall_congr' fun j => not_congr ((getElem?_ofText h).trans ?_)
  constructor
  · rintro (hm | hm)
    · exact hm
    · simpa using hi.symm.trans hm.closes
  · exact .inl

end JumpTable

namespace Program

variable {t : Text} {p : Program}

theorem ofText?_eq_none_iff (t : Text) : ofText? t = none ↔ Overclosed t := by
  rw [ofText?, Option.map_eq_none_iff, JumpTable.ofText?_eq_none_iff]

theorem exists_ofText? (h : ¬ Overclosed t) : ∃ p, ofText? t = some p :=
  Option.ne_none_iff_exists'.mp fun hnone => h ((ofText?_eq_none_iff t).mp hnone)

theorem getElem?_code (hp : ofText? t = some p) (k : Nat) : p.code[k]? = t[k]? := by
  obtain ⟨jumps, -, rfl⟩ := Option.map_eq_some_iff.mp hp
  simp

theorem getElem?_jumps (hp : ofText? t = some p) {i j : Nat} :
    p.jumps[i]? = some j ↔ Partner t i j := by
  obtain ⟨jumps, hj, rfl⟩ := Option.map_eq_some_iff.mp hp
  exact JumpTable.getElem?_ofText hj

theorem exists_jump_of_close (hp : ofText? t = some p) {j : Nat} (hj : t[j]? = some ']') :
    ∃ i, p.jumps[j]? = some i := by
  obtain ⟨jumps, hjumps, rfl⟩ := Option.map_eq_some_iff.mp hp
  exact JumpTable.exists_getElem?_of_close hjumps hj

theorem not_matches_of_open (hp : ofText? t = some p) {i : Nat} (hi : t[i]? = some '[')
    (h : p.jumps[i]? = none) (j : Nat) : ¬ Matches t i j := by
  obtain ⟨jumps, hjumps, rfl⟩ := Option.map_eq_some_iff.mp hp
  exact (JumpTable.getElem?_eq_none_of_open hjumps hi).mp h j

end Program

/-- A text is refused, with a notice, exactly if it closes too much. Otherwise the table of its
program matches the brackets: forwards it leads over balanced texts only, it leads back and forth,
its pairs do not cross, and only open brackets without a partner are missing from it. -/
theorem load_matching {σ : Type} (c : Console σ) (t : Text) (s : σ) :
    match Machine.load c t s with
    | .error s' => Overclosed t ∧ s' = c.announce "Parse Error" s
    | .ok p => ¬ Overclosed t ∧ p.code = t.toArray ∧
      (∀ i j : Nat, i < j → (p.jumps[i]? = some j ↔
        t[i]? = some '[' ∧ t[j]? = some ']' ∧ Balanced (between t i j))) ∧
      (∀ i j : Nat, p.jumps[i]? = some j → j ≠ i ∧ p.jumps[j]? = some i) ∧
      (∀ i j k l : Nat, p.jumps[i]? = some j → p.jumps[k]? = some l →
        i < k → k < j → i < l ∧ l < j) ∧
      (∀ j : Nat, t[j]? = some ']' → ∃ i, p.jumps[j]? = some i) ∧
      (∀ i : Nat, t[i]? = some '[' → (p.jumps[i]? = none ↔ ∀ j, ¬ Matches t i j)) := by
  cases hj : JumpTable.ofText? t with
  | none =>
    simp only [Machine.load, Program.ofText?, hj, Option.map_none]
    exact ⟨(JumpTable.ofText?_eq_none_iff t).mp hj, rfl⟩
  | some jumps =>
    have key {i j : Nat} : jumps[i]? = some j ↔ Partner t i j := JumpTable.getElem?_ofText hj
    simp only [Machine.load, Program.ofText?, hj, Option.map_some]
    refine ⟨?_, trivial, ?_, ?_, ?_, fun j => JumpTable.exists_getElem?_of_close hj,
      fun i => JumpTable.getElem?_eq_none_of_open hj⟩
    · rw [← JumpTable.ofText?_eq_none_iff, hj]
      simp
    · intro i j hij
      rw [key]
      constructor
      · rintro (h | h)
        · exact ⟨h.opens, h.closes, h.balanced⟩
        · exact absurd h.lt hij.not_gt
      · rintro ⟨hi, hj, hb⟩
        exact .inl ⟨hij, hi, hj, hb⟩
    · intro i j h
      exact ⟨(key.mp h).ne.symm, key.mpr (key.mp h).symm⟩
    · intro i j k l h h'
      exact (key.mp h).inside (key.mp h')

end TapeStudio
