import TapeStudio.Proofs.Steps

/-! Texts without their comments. Each command keeps its place among the commands, and the brackets
match as before. -/
namespace TapeStudio

open Brackets

/-- The eight characters that are no comments. -/
def Instruction.symbols : List Char := ['>', '<', '+', '-', '.', ',', '[', ']']

theorem Instruction.symbol_mem (i : Instruction) : i.symbol ∈ symbols := by
  cases i <;> simp [symbol, symbols]

theorem Instruction.ofChar?_eq_none_iff {character : Char} :
    ofChar? character = none ↔ character ∉ symbols := by
  constructor
  · intro h hmem
    unfold ofChar? at h
    split at h <;> simp_all [symbols]
  · intro h
    cases hi : ofChar? character with
    | none => rfl
    | some i =>
      rw [ofChar?_eq_some_iff.mp hi] at h
      exact absurd i.symbol_mem h

namespace Text

/-- What is left of a text without its comments. -/
def commands (t : Text) : Text := t.filter (· ∈ Instruction.symbols)

/-- The number of commands before a place. -/
def rank (t : Text) (k : Nat) : Nat := (commands (t.take k)).length

variable {t : Text} {i j k : Nat} {character : Char}

theorem commands_cons_of_mem (h : character ∈ Instruction.symbols) (t : Text) :
    commands (character :: t) = character :: commands t := by simp [commands, h]

theorem commands_cons_of_notMem (h : character ∉ Instruction.symbols) (t : Text) :
    commands (character :: t) = commands t := by simp [commands, h]

theorem commands_append (t u : Text) : commands (t ++ u) = commands t ++ commands u := by
  simp [commands]

theorem rank_of_length_le (h : t.length ≤ k) : rank t k = (commands t).length := by
  rw [rank, List.take_of_length_le h]

theorem rank_succ_of_mem (hk : t[k]? = some character) (h : character ∈ Instruction.symbols) :
    rank t (k + 1) = rank t k + 1 := by
  simp [rank, List.take_add_one, hk, commands, h]

theorem rank_succ_of_notMem (hk : t[k]? = some character) (h : character ∉ Instruction.symbols) :
    rank t (k + 1) = rank t k := by
  simp [rank, List.take_add_one, hk, commands, h]

/-- A command keeps its place among the commands. -/
theorem getElem?_commands (hk : t[k]? = some character) (h : character ∈ Instruction.symbols) :
    (commands t)[rank t k]? = some character := by
  obtain ⟨hlt, hget⟩ := List.getElem?_eq_some_iff.mp hk
  have hsplit : t = t.take k ++ character :: t.drop (k + 1) := by
    rw [← hget, List.getElem_cons_drop, List.take_append_drop]
  have hcommands : commands t = commands (t.take k) ++ character :: commands (t.drop (k + 1)) := by
    rw [← commands_cons_of_mem h, ← commands_append, ← hsplit]
  rw [hcommands, rank]
  simp

theorem getElem?_commands_of_length_le (h : t.length ≤ k) : (commands t)[rank t k]? = none := by
  rw [rank_of_length_le h]
  simp

theorem rank_mono (hij : i ≤ j) : rank t i ≤ rank t j :=
  ((List.take_sublist_take_left hij).filter _).length_le

theorem rank_lt (hij : i < j) (hi : t[i]? = some character)
    (h : character ∈ Instruction.symbols) : rank t i < rank t j := by
  have hsucc := rank_succ_of_mem hi h
  have hmono : rank t (i + 1) ≤ rank t j := rank_mono hij
  omega

theorem rank_inj {character' : Char} (hi : t[i]? = some character)
    (hj : t[j]? = some character') (h : character ∈ Instruction.symbols)
    (h' : character' ∈ Instruction.symbols) (hrank : rank t i = rank t j) : i = j := by
  rcases Nat.lt_trichotomy i j with hlt | heq | hlt
  · have := rank_lt hlt hi h
    omega
  · exact heq
  · have := rank_lt hlt hj h'
    omega

end Text

namespace Brackets

open Text

variable {t : Text} {i j : Nat}

theorem open_mem : '[' ∈ Instruction.symbols := Instruction.symbol_mem .loopStart

theorem close_mem : ']' ∈ Instruction.symbols := Instruction.symbol_mem .loopEnd

/-- The pairs of a text, found in the text without its comments. -/
theorem pairsFrom?_commands (pre rest : Text) (ht : t = pre ++ rest) (pending : List Nat) :
    pairsFrom? (rank t pre.length) (pending.map (rank t)) (commands rest) =
      (pairsFrom? pre.length pending rest).map (List.map (Prod.map (rank t) (rank t))) := by
  induction rest generalizing pre pending with
  | nil => rfl
  | cons character rest ih =>
    have hget : t[pre.length]? = some character := by simp [ht]
    have hnext (pending : List Nat) :
        pairsFrom? (rank t (pre.length + 1)) (pending.map (rank t)) (commands rest) =
          (pairsFrom? (pre.length + 1) pending rest).map
            (List.map (Prod.map (rank t) (rank t))) := by
      simpa using ih (pre ++ [character]) (by simp [ht]) pending
    by_cases hmem : character ∈ Instruction.symbols
    · rw [rank_succ_of_mem hget hmem] at hnext
      rw [commands_cons_of_mem hmem]
      by_cases hopen : character = '['
      · subst hopen
        rw [pairsFrom?, pairsFrom?]
        exact hnext (pre.length :: pending)
      · by_cases hclose : character = ']'
        · subst hclose
          cases pending with
          | nil => rfl
          | cons start outer =>
            rw [List.map_cons, pairsFrom?, pairsFrom?, hnext]
            simp [Option.map_map, Function.comp_def]
        · rw [pairsFrom?_plain hopen hclose, pairsFrom?_plain hopen hclose]
          exact hnext pending
    · rw [rank_succ_of_notMem hget hmem] at hnext
      have hopen : character ≠ '[' := ne_of_mem_of_not_mem open_mem hmem |>.symm
      have hclose : character ≠ ']' := ne_of_mem_of_not_mem close_mem hmem |>.symm
      rw [commands_cons_of_notMem hmem, pairsFrom?_plain hopen hclose]
      exact hnext pending

theorem pairs?_commands (t : Text) :
    pairs? (commands t) = (pairs? t).map (List.map (Prod.map (rank t) (rank t))) :=
  pairsFrom?_commands [] t rfl []

theorem overclosed_commands : Overclosed (commands t) ↔ Overclosed t := by
  rw [← pairs?_eq_none_iff, ← pairs?_eq_none_iff, pairs?_commands, Option.map_eq_none_iff]

/-- Brackets that match do so among the commands, and no others. -/
theorem matches_commands (h : ¬ Overclosed t) {a b : Nat} :
    Matches (commands t) a b ↔ ∃ i j, Matches t i j ∧ rank t i = a ∧ rank t j = b := by
  obtain ⟨ps, hps⟩ := Option.ne_none_iff_exists'.mp fun hnone => h ((pairs?_eq_none_iff t).mp hnone)
  have hcommands : pairs? (commands t) = some (ps.map (Prod.map (rank t) (rank t))) := by
    rw [pairs?_commands, hps, Option.map_some]
  rw [← mem_pairs_iff hcommands, List.mem_map]
  constructor
  · rintro ⟨⟨i, j⟩, hmem, heq⟩
    obtain ⟨rfl, rfl⟩ := Prod.mk.inj heq
    exact ⟨i, j, (mem_pairs_iff hps).mp hmem, rfl, rfl⟩
  · rintro ⟨i, j, hmatch, rfl, rfl⟩
    exact ⟨(i, j), (mem_pairs_iff hps).mpr hmatch, rfl⟩

/-- A place with a partner holds a bracket. -/
theorem Partner.exists_symbol (h : Partner t i j) :
    ∃ character ∈ Instruction.symbols, t[i]? = some character := by
  rcases h with h | h
  · exact ⟨'[', open_mem, h.opens⟩
  · exact ⟨']', close_mem, h.closes⟩

theorem partner_commands (h : ¬ Overclosed t) {character : Char} (hi : t[i]? = some character)
    (hmem : character ∈ Instruction.symbols) {b : Nat} :
    Partner (commands t) (rank t i) b ↔ ∃ j, Partner t i j ∧ rank t j = b := by
  have hplace {i' j' : Nat} (hp : Partner t i' j') (hrank : rank t i' = rank t i) : i' = i := by
    obtain ⟨character', hmem', hi'⟩ := hp.exists_symbol
    exact rank_inj hi' hi hmem' hmem hrank
  constructor
  · rintro (hm | hm)
    · obtain ⟨i', j, hmatch, hi', rfl⟩ := (matches_commands h).mp hm
      obtain rfl := hplace (.inl hmatch) hi'
      exact ⟨j, .inl hmatch, rfl⟩
    · obtain ⟨j, i', hmatch, rfl, hi'⟩ := (matches_commands h).mp hm
      obtain rfl := hplace (.inr hmatch) hi'
      exact ⟨j, .inr hmatch, rfl⟩
  · rintro ⟨j, hm | hm, rfl⟩
    · exact .inl ((matches_commands h).mpr ⟨i, j, hm, rfl, rfl⟩)
    · exact .inr ((matches_commands h).mpr ⟨j, i, hm, rfl, rfl⟩)

end Brackets

open Text in
/-- The jumps of a program lead to the same commands when the comments are gone. -/
theorem Program.jumps_commands {t : Text} {p q : Program} (hp : ofText? t = some p)
    (hq : ofText? (commands t) = some q) {i : Nat} {character : Char}
    (hi : t[i]? = some character) (hmem : character ∈ Instruction.symbols) :
    q.jumps[rank t i]? = p.jumps[i]?.map (rank t) := by
  have hclosed : ¬ Overclosed t := by
    rw [← ofText?_eq_none_iff, hp]
    simp
  ext b
  rw [getElem?_jumps hq, partner_commands hclosed hi hmem, Option.map_eq_some_iff]
  exact exists_congr fun j => and_congr_left fun _ => (getElem?_jumps hp).symm

end TapeStudio
