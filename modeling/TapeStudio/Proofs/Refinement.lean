import TapeStudio.Proofs.BigStep
import TapeStudio.Proofs.Finishing
import TapeStudio.Proofs.Matching

/-! The machine with its position and its jump table does what the structure of the program says:
a simulation in both directions, block by block. -/
namespace TapeStudio

open Brackets Machine

/-- A state of the machine at a terminal without stop requests shows a configuration. The tape has
been built as far as the pointer ever came, and is zero behind that. -/
structure Depicts (x : Configuration) (m : Machine) (s : Terminal) : Prop where
  pointer : m.pointer = x.pointer
  pointer_le : x.pointer ≤ x.reach
  memory : m.memory.toList = (List.range (x.reach + 1)).map x.cells
  beyond : ∀ k, x.reach < k → x.cells k = 0
  lines : s.lines = x.lines
  reads : s.reads = x.reads
  output : s.output = x.output
  noStop : s.switches.stop = false
  noStopOnRead : s.stopOnRead = none
  noStopOnWrite : s.stopOnWrite = none

theorem Terminal.output_write (piece : List CodePoint) (s : Terminal) :
    (Terminal.write piece s).output = s.output ++ piece := by
  simp [Terminal.write, Terminal.output]

theorem Terminal.output_conclude (e : Ending) (s : Terminal) :
    (conclude Terminal.console e s).output = s.output ++ e.printed := by
  unfold conclude Ending.printed
  cases e.notice? with
  | none => simp
  | some message =>
    dsimp only
    rw [← List.append_assoc, ← Terminal.output_write, ← Terminal.output_write]
    rfl

theorem Terminal.reads_conclude (e : Ending) (s : Terminal) :
    (conclude Terminal.console e s).reads = s.reads := by
  unfold conclude
  split <;> rfl

theorem typedOn?_cons (first : Char) (more : Text) (h : first :: more ≠ ['\n']) :
    ∃ rest, typedOn? (first :: more) = some (first :: rest) := by
  simp only [typedOn?, List.isEmpty_cons, Bool.false_eq_true, if_false]
  split_ifs with hlast
  · cases more with
    | nil => exact absurd (by simpa using hlast) h
    | cons second more => exact ⟨(second :: more).dropLast, rfl⟩
  · exact ⟨more, rfl⟩

namespace Depicts

variable {x y : Configuration} {m : Machine} {s : Terminal}

theorem size_memory (h : Depicts x m s) : m.memory.size = x.reach + 1 := by
  simpa using congrArg List.length h.memory

theorem cell? (h : Depicts x m s) : m.cell? = some x.cell := by
  have hle := h.pointer_le
  have hget : m.memory[x.pointer]? = m.memory.toList[x.pointer]? := by simp
  rw [Machine.cell?, h.pointer, if_neg (by omega), Int.toNat_natCast, hget, h.memory]
  simp [Configuration.cell, Nat.lt_succ_of_le hle]

theorem jump (h : Depicts x m s) (k : Nat) : Depicts x (m.jump k) s :=
  { h with }

theorem advance (h : Depicts x m s) : Depicts x m.advance s :=
  h.jump _

theorem store (h : Depicts x m s) (value : Nat) : Depicts (x.write value) (m.store value) s where
  pointer := h.pointer
  pointer_le := h.pointer_le
  memory := by
    rw [Machine.store, h.pointer, Int.toNat_natCast, Array.toList_setIfInBounds, h.memory]
    apply List.ext_getElem
    · simp [Configuration.write]
    · intro k _ _
      simp only [Configuration.write, List.getElem_set, List.getElem_map, List.getElem_range,
        eq_comm (a := x.pointer)]
  beyond k hk := by
    have hne : k ≠ x.pointer := by
      have := h.pointer_le
      have : x.reach < k := hk
      omega
    simpa only [Configuration.write, if_neg hne] using h.beyond k hk
  lines := h.lines
  reads := h.reads
  output := h.output
  noStop := h.noStop
  noStopOnRead := h.noStopOnRead
  noStopOnWrite := h.noStopOnWrite

theorem moveRight (h : Depicts x m s) :
    Depicts { x with pointer := x.pointer + 1, reach := max x.reach (x.pointer + 1) }
      m.moveRight s where
  pointer := by simp [Machine.moveRight, h.pointer]
  pointer_le := Nat.le_max_right _ _
  memory := by
    have hle := h.pointer_le
    simp only [Machine.moveRight, h.pointer, h.size_memory]
    split_ifs with hgrow
    · have hreach : max x.reach (x.pointer + 1) = x.reach + 1 := by omega
      rw [Array.toList_push, h.memory, hreach, List.range_succ (n := x.reach + 1), List.map_append,
        List.map_singleton, h.beyond (x.reach + 1) (by omega)]
    · have hreach : max x.reach (x.pointer + 1) = x.reach := by omega
      rw [h.memory, hreach]
  beyond k hk := h.beyond k (lt_of_le_of_lt (Nat.le_max_left _ _) hk)
  lines := h.lines
  reads := h.reads
  output := h.output
  noStop := h.noStop
  noStopOnRead := h.noStopOnRead
  noStopOnWrite := h.noStopOnWrite

theorem moveLeft (h : Depicts x m s) (hx : x.pointer ≠ 0) :
    Depicts { x with pointer := x.pointer - 1 } m.moveLeft s :=
  { h with
    pointer := by simp only [Machine.moveLeft, h.pointer]; omega
    pointer_le := (Nat.sub_le _ _).trans h.pointer_le }

theorem print (h : Depicts x m s) (piece : List CodePoint) :
    Depicts { x with output := x.output ++ piece } m (s.write piece) :=
  { h with
    output := by rw [Terminal.output_write, h.output]
    noStop := by simpa [Terminal.write, Terminal.stopIf, h.noStopOnWrite] using h.noStop }

theorem takeLine (h : Depicts x m s) : Depicts x.takeLine m s.readLine.2 :=
  { h with
    lines := by simp [Terminal.readLine, Configuration.takeLine, h.lines]
    reads := by simp [Terminal.readLine, Configuration.takeLine, h.reads]
    noStop := by simpa [Terminal.readLine, Terminal.stopIf, h.noStopOnRead] using h.noStop }

/-- A failure on the tape leaves the report of the configuration it happened in. -/
theorem report (h : Depicts x m s) {e : Ending} (he : e ≠ .leftEnd) :
    m.report (conclude Terminal.console e s) e = x.report e := by
  simp only [Machine.report, Configuration.report, Terminal.output_conclude,
    Terminal.reads_conclude, h.output, h.reads, h.pointer, h.memory, if_neg he]

theorem report_leftEnd (h : Depicts x m s) (hx : x.pointer = 0) :
    m.moveLeft.report (conclude Terminal.console .leftEnd s) .leftEnd = x.report .leftEnd := by
  simp [Machine.report, Configuration.report, Terminal.output_conclude, Terminal.reads_conclude,
    h.output, h.reads, h.pointer, hx, h.memory, Machine.moveLeft]

/-- A command that succeeds is performed. -/
theorem perform_go {o : Operation} (h : Depicts x m s) (ho : o.act x = (none, y))
    (jumps : JumpTable) :
    ∃ m' s', perform Terminal.console jumps o.instruction m s = .go m' s' ∧
      m'.position = m.position ∧ Depicts y m' s' := by
  cases o with
  | moveRight =>
    obtain rfl := (Prod.mk.inj ho).2
    exact ⟨_, _, rfl, rfl, h.moveRight⟩
  | moveLeft =>
    by_cases hx : x.pointer = 0
    · simp [Operation.act, hx] at ho
    · rw [Operation.act, if_neg hx] at ho
      obtain rfl := (Prod.mk.inj ho).2
      have hpointer : ¬ m.moveLeft.pointer < 0 := by
        simp only [Machine.moveLeft, h.pointer]
        omega
      exact ⟨m.moveLeft, s, if_neg hpointer, rfl, h.moveLeft hx⟩
  | increment =>
    obtain rfl := (Prod.mk.inj ho).2
    refine ⟨m.store (successor x.cell), s, ?_, rfl, ?_⟩
    · simp only [Operation.instruction, perform, withCell, h.cell?]
    · have hvalue : successor x.cell = if 255 ≤ x.cell then 0 else x.cell + 1 := by
        unfold successor
        split_ifs <;> omega
      exact hvalue ▸ h.store _
  | decrement =>
    obtain rfl := (Prod.mk.inj ho).2
    refine ⟨m.store (predecessor x.cell), s, ?_, rfl, ?_⟩
    · simp only [Operation.instruction, perform, withCell, h.cell?]
    · have hvalue : predecessor x.cell = if x.cell = 0 then 255 else x.cell - 1 := by
        cases x.cell <;> simp [predecessor]
      exact hvalue ▸ h.store _
  | print =>
    obtain rfl := (Prod.mk.inj ho).2
    refine ⟨m, s.write [⟨x.cell⟩], ?_, rfl, h.print _⟩
    simp only [Operation.instruction, perform, withCell, h.cell?]
    rfl
  | read =>
    have hread : Terminal.console.readLine s = (.line (x.lines.head?.getD []), s.readLine.2) := by
      rw [← h.lines]
      rfl
    simp only [Operation.act] at ho
    split at ho
    · simp at ho
    · simp at ho
    · simp at ho
    · rename_i first more rest hne hlines
      obtain rfl := (Prod.mk.inj ho).2
      obtain ⟨typed, htyped⟩ := typedOn?_cons first more (fun hline => by simp_all)
      refine ⟨m.store first.toNat, s.readLine.2, ?_, rfl, h.takeLine.store _⟩
      simp only [Operation.instruction, perform, readCell, hread, hlines, List.head?_cons,
        Option.getD_some, htyped]

/-- A command that fails ends the run, with the report of the configuration it leaves. -/
theorem perform_halt {o : Operation} {e : Ending} (h : Depicts x m s)
    (ho : o.act x = (some e, y)) (jumps : JumpTable) :
    ∃ m' s', perform Terminal.console jumps o.instruction m s = ⟨some e, m', s'⟩ ∧
      e ≠ .unfinished ∧ m'.report s' e = y.report e := by
  cases o with
  | moveLeft =>
    by_cases hx : x.pointer = 0
    · rw [Operation.act, if_pos hx] at ho
      simp only [Prod.mk.injEq, Option.some.injEq] at ho
      obtain ⟨rfl, rfl⟩ := ho
      have hpointer : m.moveLeft.pointer < 0 := by
        simp only [Machine.moveLeft, h.pointer]
        omega
      exact ⟨_, _, if_pos hpointer, by decide, h.report_leftEnd hx⟩
    · simp [Operation.act, hx] at ho
  | read =>
    have hread : Terminal.console.readLine s = (.line (x.lines.head?.getD []), s.readLine.2) := by
      rw [← h.lines]
      rfl
    simp only [Operation.act] at ho
    split at ho
    all_goals simp only [Prod.mk.injEq, Option.some.injEq, reduceCtorEq, false_and] at ho
    all_goals
      rename_i hlines
      obtain ⟨rfl, rfl⟩ := ho
      refine ⟨m, _, ?_, by decide, h.takeLine.report (by decide)⟩
      simp only [Operation.instruction, perform, readCell, hread, hlines]
      rfl
  | moveRight | increment | decrement | print => simp [Operation.act] at ho

end Depicts

section Simulation

variable {t : Text} {p : Program} {x y : Configuration} {m : Machine} {s : Terminal}

/-- A command or a comment in front of a position. -/
theorem Program.getElem?_code_of_split {pre rest : Text} {c : Char}
    (hp : Program.ofText? t = some p) (ht : t = pre ++ c :: rest) (hm : m.position = pre.length) :
    p.code[m.position]? = some c := by
  rw [Program.getElem?_code hp, hm, ht]
  simp

/-- The open bracket at the head of a loop. -/
theorem step_open {pre mid post : Text} (hp : Program.ofText? t = some p)
    (ht : t = pre ++ '[' :: (mid ++ ']' :: post)) (hmid : Balanced mid)
    (hm : m.position = pre.length) (hd : Depicts x m s) :
    step Terminal.console p m s = .go (m.jump (if x.cell = 0 then
      pre.length + 1 + mid.length + 1 else pre.length + 1)) s := by
  have hcode := Program.getElem?_code_of_split hp ht hm
  split_ifs with hx
  · have hjump : p.jumps[m.position]? = some (pre.length + 1 + mid.length) := by
      rw [Program.getElem?_jumps hp, hm]
      exact .inl (matches_of_split ht hmid)
    have hperform : perform Terminal.console p.jumps .loopStart m s =
        .go (m.jump (pre.length + 1 + mid.length)) s := by
      simp only [perform, withCell, hd.cell?, hx, takeJump, hjump, if_true]
    exact step_of_go hcode rfl hperform hd.noStop
  · rw [← hm]
    refine step_of_go hcode rfl ?_ hd.noStop
    simp only [perform, withCell, hd.cell?, hx, if_false]

/-- The closing bracket of a loop does what the open one does. -/
theorem step_close {pre mid post : Text} (hp : Program.ofText? t = some p)
    (ht : t = pre ++ '[' :: (mid ++ ']' :: post)) (hmid : Balanced mid)
    (hm : m.position = pre.length + 1 + mid.length) (hd : Depicts x m s) :
    step Terminal.console p m s = step Terminal.console p (m.jump pre.length) s := by
  have hmatch := matches_of_split ht hmid
  have hcode : p.code[m.position]? = some ']' := by
    rw [Program.getElem?_code hp, hm]
    exact hmatch.closes
  rw [step_open hp ht hmid rfl (hd.jump _)]
  split_ifs with hx
  · rw [← hm]
    refine step_of_go hcode rfl ?_ hd.noStop
    simp only [perform, withCell, hd.cell?, hx, if_true]
  · have hjump : p.jumps[m.position]? = some pre.length := by
      rw [Program.getElem?_jumps hp, hm]
      exact .inr hmatch
    have hperform : perform Terminal.console p.jumps .loopEnd m s =
        .go (m.jump pre.length) s := by
      simp only [perform, withCell, hd.cell?, hx, takeJump, hjump, if_false]
    exact step_of_go hcode rfl hperform hd.noStop

/-- An open bracket before an outline is not matched: the outline closes only what it opens. -/
theorem not_matches_before_outline {pre : Text} {o : Outline} (ht : t = pre ++ '[' :: o.text)
    (j : Nat) : ¬ Matches t pre.length j := by
  intro h
  obtain ⟨k, rfl⟩ : ∃ k, j = pre.length + 1 + k := ⟨j - (pre.length + 1), by have := h.lt; omega⟩
  have hclose : o.text[k]? = some ']' := by
    have := h.closes
    rwa [ht, getElem?_behind] at this
  have hbetween : between t pre.length (pre.length + 1 + k) = o.text.take k := by
    rw [between, List.drop_take, ht, show pre ++ '[' :: o.text = (pre ++ ['[']) ++ o.text by simp,
      List.drop_left' (by simp), Nat.add_sub_cancel_left]
  have hcount := h.balanced.1
  rw [hbetween] at hcount
  refine not_overclosed_outline o ⟨o.text.take (k + 1), List.take_prefix _ _, ?_⟩
  simp [List.take_add_one, hclose, hcount]

theorem step_unmatched {pre : Text} {o : Outline} (hp : Program.ofText? t = some p)
    (ht : t = pre ++ '[' :: o.text) (hm : m.position = pre.length) (hd : Depicts x m s)
    (hx : x.cell = 0) : step Terminal.console p m s =
      ⟨some .unmatchedBracket, m, conclude Terminal.console .unmatchedBracket s⟩ := by
  have hcode := Program.getElem?_code_of_split hp ht hm
  have hjump : p.jumps[m.position]? = none := by
    obtain ⟨jumps, hj, rfl⟩ := Option.map_eq_some_iff.mp hp
    rw [hm, JumpTable.getElem?_eq_none_of_open hj (by simp [ht])]
    exact not_matches_before_outline ht
  refine step_of_halt hcode rfl ?_
  simp only [perform, withCell, hd.cell?, hx, takeJump, hjump, if_true]
  rfl

theorem step_pass {pre rest : Text} (hp : Program.ofText? t = some p)
    (ht : t = pre ++ '[' :: rest) (hm : m.position = pre.length) (hd : Depicts x m s)
    (hx : x.cell ≠ 0) : step Terminal.console p m s = .go m.advance s := by
  refine step_of_go (Program.getElem?_code_of_split hp ht hm) rfl ?_ hd.noStop
  simp only [perform, withCell, hd.cell?, hx, if_false]

/-- The machine goes along with a run of the structure: to the place behind it, or to its
failure. -/
def Follows (p : Program) (m : Machine) (s : Terminal) (stop : Nat) :
    Option Ending → Configuration → Prop
  | none, y => ∃ m' s', m'.position = stop ∧ Depicts y m' s' ∧ Leads Terminal.console p m s m' s'
  | some e, y =>
    ∃ m' s', Ends Terminal.console p m s ⟨e, some m', s'⟩ ∧ m'.report s' e = y.report e

theorem Follows.of_leads {m' : Machine} {s' : Terminal} {stop : Nat} {e : Option Ending}
    (h : Leads Terminal.console p m s m' s') (hf : Follows p m' s' stop e y) :
    Follows p m s stop e y := by
  cases e with
  | none =>
    obtain ⟨n, u, hpos, hd, hl⟩ := hf
    exact ⟨n, u, hpos, hd, h.trans hl⟩
  | some e =>
    obtain ⟨n, u, hends, hr⟩ := hf
    exact ⟨n, u, h.2 _ hends, hr⟩

theorem Block.loop_split {body rest : Block} {pre post : Text}
    (ht : t = pre ++ ((Block.loop body rest).text ++ post)) :
    t = pre ++ '[' :: (body.text ++ ']' :: (rest.text ++ post)) := by
  simp [ht, Block.text]

/-- Whatever a block does by its structure, the machine does from the place where it stands. -/
theorem Block.Runs.follows {b : Block} {e : Option Ending} (h : b.Runs x e y)
    (hp : Program.ofText? t = some p) {stop : Nat} (pre post : Text)
    (ht : t = pre ++ (b.text ++ post)) (hstop : stop = pre.length + b.text.length)
    (hm : m.position = pre.length) (hd : Depicts x m s) : Follows p m s stop e y := by
  induction h generalizing pre post m s stop with
  | done => exact ⟨m, s, by simpa [hstop, Block.text] using hm, hd, .refl m s⟩
  | @command o rest x y z e ho tail ih =>
    obtain ⟨m', s', hperform, hpos, hd'⟩ := hd.perform_go ho p.jumps
    have hcode := Program.getElem?_code_of_split hp (c := o.symbol) ht hm
    have hstep := step_of_go hcode o.ofChar?_symbol hperform hd'.noStop
    refine .of_leads (.of_go hstep) (ih (pre ++ [o.symbol]) post ?_ ?_ ?_ hd'.advance)
    · simp [ht, Block.text]
    · simp [hstop, Block.text]
      omega
    · simp [hpos, hm]
  | @failure o rest x y e ho =>
    obtain ⟨m', s', hperform, hne, hreport⟩ := hd.perform_halt ho p.jumps
    have hcode := Program.getElem?_code_of_split hp (c := o.symbol) ht hm
    have hstep := step_of_halt hcode o.ofChar?_symbol hperform
    exact ⟨m', s', ends_of_halt hstep hne, hreport⟩
  | @comment c hc rest x y e tail ih =>
    have hcode := Program.getElem?_code_of_split hp (c := c) ht hm
    have hstep := step_of_comment (c := Terminal.console) hcode hc hd.noStop
    refine .of_leads (.of_go hstep) (ih (pre ++ [c]) post ?_ ?_ ?_ hd.advance)
    · simp [ht, Block.text]
    · simp [hstop, Block.text]
      omega
    · simp [hm]
  | @skip body rest x y e hx tail ih =>
    have hsplit := Block.loop_split ht
    have hstep := step_open hp hsplit (balanced_block body) hm hd
    rw [if_pos hx] at hstep
    refine .of_leads (.of_go hstep)
      (ih (pre ++ '[' :: (body.text ++ [']'])) post ?_ ?_ ?_ (hd.jump _))
    · simp [ht, Block.text]
    · simp [hstop, Block.text]
      omega
    · simp
      omega
  | @again body rest x y z e hx once more ihb ihm =>
    have hsplit := Block.loop_split ht
    have hstep := step_open hp hsplit (balanced_block body) hm hd
    rw [if_neg hx] at hstep
    obtain ⟨m', s', hpos, hd', hl⟩ := ihb (pre ++ ['[']) (']' :: (rest.text ++ post))
      (by simpa using hsplit) rfl (by simp) (hd.jump (pre.length + 1))
    -- the closing bracket jumps behind the open one, as the open one itself would
    have hclose := step_close hp hsplit (balanced_block body) (by simpa using hpos) hd'
    exact .of_leads ((Leads.of_go hstep).trans (hl.trans (.of_step_eq hclose)))
      (ihm pre post ht hstop rfl (hd'.jump _))
  | @failureInside body rest x y e hx once ihb =>
    have hsplit := Block.loop_split ht
    have hstep := step_open hp hsplit (balanced_block body) hm hd
    rw [if_neg hx] at hstep
    have hfail := ihb (pre ++ ['[']) (']' :: (rest.text ++ post)) (by simpa using hsplit) rfl
      (by simp) (hd.jump (pre.length + 1))
    exact .of_leads (.of_go hstep) hfail

/-- A run of the machine that ends had a structured run in it, for the block it started at. -/
theorem Block.exists_runs {b : Block} {o : Outcome Terminal} {n : Nat}
    (hp : Program.ofText? t = some p) (pre post : Text) (ht : t = pre ++ (b.text ++ post))
    (hm : m.position = pre.length) (hd : Depicts x m s)
    (hends : EndsIn Terminal.console p n m s o) :
    ∃ e y, b.Runs x e y := by
  -- each character takes a step, so the bound on the steps decreases even around a loop
  induction n generalizing b x m s pre post with
  | zero => exact absurd hends (not_endsIn_zero o)
  | succ n ih =>
    cases b with
    | done => exact ⟨none, x, .done⟩
    | command operation rest =>
      rcases hact : operation.act x with ⟨_ | e, y⟩
      · obtain ⟨m', s', hperform, hpos, hd'⟩ := hd.perform_go hact p.jumps
        have hcode := Program.getElem?_code_of_split hp (c := operation.symbol) ht hm
        have hstep := step_of_go hcode operation.ofChar?_symbol hperform hd'.noStop
        have hrest : t = (pre ++ [operation.symbol]) ++ (rest.text ++ post) := by
          simp [ht, Block.text]
        obtain ⟨e, z, htail⟩ := ih _ post hrest (by simp [hpos, hm]) hd'.advance
          ((endsIn_succ_of_go hstep).mp hends)
        exact ⟨e, z, .command hact htail⟩
      · exact ⟨some e, y, .failure hact⟩
    | comment c hc rest =>
      have hcode := Program.getElem?_code_of_split hp (c := c) ht hm
      have hstep := step_of_comment (c := Terminal.console) hcode hc hd.noStop
      have hrest : t = (pre ++ [c]) ++ (rest.text ++ post) := by simp [ht, Block.text]
      obtain ⟨e, z, htail⟩ := ih _ post hrest (by simp [hm]) hd.advance
        ((endsIn_succ_of_go hstep).mp hends)
      exact ⟨e, z, .comment htail⟩
    | loop body rest =>
      have hsplit := Block.loop_split ht
      have hstep := step_open hp hsplit (balanced_block body) hm hd
      have hnext := (endsIn_succ_of_go hstep).mp hends
      by_cases hx : x.cell = 0
      · rw [if_pos hx] at hnext
        have hrest : t = (pre ++ '[' :: (body.text ++ [']'])) ++ (rest.text ++ post) := by
          simpa using hsplit
        obtain ⟨e, z, htail⟩ := ih _ post hrest (by simp; omega) (hd.jump _) hnext
        exact ⟨e, z, .skip hx htail⟩
      · rw [if_neg hx] at hnext
        have hbody : t = (pre ++ ['[']) ++ (body.text ++ ']' :: (rest.text ++ post)) := by
          simpa using hsplit
        obtain ⟨e, y, honce⟩ := ih (pre ++ ['[']) _ hbody (by simp) (hd.jump _) hnext
        cases e with
        | some e => exact ⟨some e, y, .failureInside hx honce⟩
        | none =>
          obtain ⟨m', s', hpos, hd', hl⟩ := honce.follows hp _ _ hbody rfl
            (by simp) (hd.jump (pre.length + 1))
          have hclose := step_close hp hsplit (balanced_block body) (by simpa using hpos) hd'
          have hback := (hl.trans (.of_step_eq hclose)).1 n o hnext
          obtain ⟨e, z, hmore⟩ := ih pre post ht rfl (hd'.jump _) hback
          exact ⟨e, z, .again hx honce hmore⟩

/-- The whole program: the machine ends where its structure ends, with the same report. -/
theorem Outline.Runs.ends {o : Outline} {e : Option Ending} (h : o.Runs x e y)
    (hp : Program.ofText? t = some p) (pre : Text) (ht : t = pre ++ o.text)
    (hm : m.position = pre.length) (hd : Depicts x m s) :
    ∃ m' s', Ends Terminal.console p m s ⟨e.getD .completed, some m', s'⟩ ∧
      m'.report s' (e.getD .completed) = y.report (e.getD .completed) := by
  induction h generalizing pre m s with
  | @last b x y e hb =>
    have hf := hb.follows hp pre [] (by simpa [Outline.text] using ht) rfl hm hd
    cases e with
    | some e => exact hf
    | none =>
      obtain ⟨m', s', hpos, hd', hl⟩ := hf
      have hcode : p.code[m'.position]? = none := by
        rw [Program.getElem?_code hp, hpos, ht]
        simp [Outline.text]
      have hstep := step_of_end (c := Terminal.console) (s := s') hcode
      exact ⟨m', s', hl.2 _ (ends_of_halt hstep (by decide)), hd'.report (by decide)⟩
  | @pass b rest x y z e before hx tail ih =>
    obtain ⟨m', s', hpos, hd', hl⟩ := before.follows hp pre _ ht rfl hm hd
    have hopen : t = (pre ++ b.text) ++ '[' :: rest.text := by simp [ht, Outline.text]
    have hstep := step_pass hp hopen (by simpa using hpos) hd' hx
    obtain ⟨n, u, hends, hr⟩ := ih (pre ++ b.text ++ ['[']) (by simp [ht, Outline.text])
      (by simp [hpos]; omega) hd'.advance
    exact ⟨n, u, (hl.trans (.of_go hstep)).2 _ hends, hr⟩
  | @unmatched b rest x y before hx =>
    obtain ⟨m', s', hpos, hd', hl⟩ := before.follows hp pre _ ht rfl hm hd
    have hopen : t = (pre ++ b.text) ++ '[' :: rest.text := by simp [ht, Outline.text]
    have hstep := step_unmatched hp hopen (by simpa using hpos) hd' hx
    exact ⟨m', _, hl.2 _ (ends_of_halt hstep (by decide)), hd'.report (by decide)⟩
  | @failure b rest x y e before => exact before.follows hp pre _ ht rfl hm hd

theorem Outline.exists_runs {o : Outline} {outcome : Outcome Terminal} {n : Nat}
    (hp : Program.ofText? t = some p) (pre : Text) (ht : t = pre ++ o.text)
    (hm : m.position = pre.length) (hd : Depicts x m s)
    (hends : EndsIn Terminal.console p n m s outcome) : ∃ e y, o.Runs x e y := by
  induction o generalizing pre x m s with
  | last b =>
    obtain ⟨e, y, hb⟩ := Block.exists_runs hp pre [] (by simpa [Outline.text] using ht) hm hd hends
    exact ⟨e, y, .last hb⟩
  | opening b rest ih =>
    obtain ⟨e, y, hb⟩ := Block.exists_runs hp pre _ ht hm hd hends
    cases e with
    | some e => exact ⟨some e, y, .failure hb⟩
    | none =>
      by_cases hx : y.cell = 0
      · exact ⟨_, y, .unmatched hb hx⟩
      · obtain ⟨m', s', hpos, hd', hl⟩ := hb.follows hp pre _ ht rfl hm hd
        have hopen : t = (pre ++ b.text) ++ '[' :: rest.text := by simp [ht, Outline.text]
        have hstep := step_pass hp hopen (by simpa using hpos) hd' hx
        obtain ⟨e, z, htail⟩ := ih (pre ++ b.text ++ ['[']) (by simp [ht, Outline.text])
          (by simp [hpos]; omega) hd'.advance ((hl.trans (.of_go hstep)).1 n _ hends)
        exact ⟨e, z, .pass hb hx htail⟩

end Simulation

/-- A terminal right after an execution has begun. -/
def Terminal.started (lines : List Text) : Terminal := .initial ⟨false, true⟩ lines none none

theorem depicts_initial (lines : List Text) :
    Depicts (.initial lines) Machine.initial (.started lines) where
  pointer := rfl
  pointer_le := Nat.le_refl 0
  memory := rfl
  beyond _ _ := rfl
  lines := rfl
  reads := rfl
  output := rfl
  noStop := rfl
  noStopOnRead := rfl
  noStopOnWrite := rfl

/-- An execution is a run of the machine; switching `running` off at its end changes no report. -/
theorem Terminal.execute_eq_run {t : Text} {p : Program} (hp : Program.ofText? t = some p)
    (switches : Switches) (lines : List Text) (fuel : Nat) :
    ∃ s, Terminal.execute fuel (.ok t) (.initial switches lines none none) =
        { run Terminal.console p fuel Machine.initial (.started lines) with console := s } ∧
      ∀ (m : Machine) (e : Ending), m.report s e =
        m.report (run Terminal.console p fuel Machine.initial (.started lines)).console e := by
  have hstart : Terminal.console.setSwitches ⟨false, true⟩ (.initial switches lines none none) =
      .started lines := rfl
  simp only [Terminal.execute, Machine.execute, runText, load, hp, hstart]
  split_ifs
  · exact ⟨_, rfl, fun _ _ => rfl⟩
  · exact ⟨_, rfl, fun _ _ => rfl⟩

theorem exists_machine_of_run {σ : Type} (c : Console σ) (p : Program) (n : Nat) (m : Machine)
    (s : σ) : ∃ m', (run c p n m s).machine? = some m' := by
  induction n generalizing m s with
  | zero => exact ⟨m, rfl⟩
  | succ n ih =>
    rw [run]
    split
    · exact ⟨_, rfl⟩
    · exact ih _ _

theorem Terminal.yields_iff {t : Text} {p : Program} (hp : Program.ofText? t = some p)
    (switches : Switches) (lines : List Text) (r : Report) :
    Terminal.Yields t switches lines r ↔ ∃ e m s,
      Ends Terminal.console p Machine.initial (.started lines) ⟨e, some m, s⟩ ∧
        m.report s e = r := by
  constructor
  · rintro ⟨fuel, m, hne, hm, hr⟩
    obtain ⟨s, heq, hreport⟩ := Terminal.execute_eq_run hp switches lines fuel
    rw [heq] at hne hm hr
    refine ⟨_, m, _, ⟨fuel, hne, ?_⟩, (hreport m _).symm.trans hr⟩
    dsimp only at hm
    rw [← hm]
  · rintro ⟨e, m, s, ⟨fuel, hne, hrun⟩, hr⟩
    obtain ⟨s', heq, hreport⟩ := Terminal.execute_eq_run hp switches lines fuel
    rw [hrun] at heq hreport
    refine ⟨fuel, m, ?_⟩
    rw [heq]
    exact ⟨hne, rfl, (hreport m e).trans hr⟩

/-- A program whose brackets can be matched is in one way a sequence of commands, comments, loops
and unmatched open brackets, and its execution at a terminal ends with exactly the report that
this structure gives; where the structure gives none, the execution goes on for ever. -/
theorem execute_refines_structure {t : Text} (ht : (JumpTable.ofText? t).isSome)
    (switches : Switches) (lines : List Text) :
    ∃ o : Outline, o.text = t ∧ (∀ o' : Outline, o'.text = t → o' = o) ∧
      (∀ r, Terminal.Yields t switches lines r ↔ o.Yields lines r) ∧
      ((∀ fuel, (Terminal.execute fuel (.ok t) (.initial switches lines none none)).ending =
        .unfinished) ↔ ∀ r, ¬ o.Yields lines r) := by
  obtain ⟨jumps, hj⟩ := Option.isSome_iff_exists.mp ht
  have hclosed : ¬ Overclosed t := by
    rw [← JumpTable.ofText?_eq_none_iff, hj]
    simp
  have hp : Program.ofText? t = some ⟨t.toArray, jumps⟩ := by rw [Program.ofText?, hj]; rfl
  obtain ⟨o, rfl⟩ := exists_outline hclosed
  have hyields (r : Report) : Terminal.Yields o.text switches lines r ↔ o.Yields lines r := by
    rw [Terminal.yields_iff hp]
    constructor
    · rintro ⟨e, m, s, hends, hr⟩
      obtain ⟨n, hn⟩ := hends
      obtain ⟨f, x, hruns⟩ := Outline.exists_runs hp [] rfl rfl (depicts_initial lines) hn
      obtain ⟨m', s', hends', hreport⟩ := hruns.ends hp [] rfl rfl (depicts_initial lines)
      obtain ⟨rfl, rfl, rfl⟩ : f.getD .completed = e ∧ m' = m ∧ s' = s := by
        simpa using hends'.unique ⟨n, hn⟩
      exact ⟨f, x, hruns, hreport.symm.trans hr⟩
    · rintro ⟨f, x, hruns, hr⟩
      obtain ⟨m', s', hends', hreport⟩ := hruns.ends hp [] rfl rfl (depicts_initial lines)
      exact ⟨_, m', s', hends', hreport.trans hr⟩
  refine ⟨o, rfl, fun o' ho' => Outline.text_injective ho', hyields, ?_⟩
  constructor
  · intro hnever r hr
    obtain ⟨fuel, m, hne, -⟩ := (hyields r).mpr hr
    exact hne (hnever fuel)
  · intro hnone fuel
    by_contra hne
    obtain ⟨s, heq, -⟩ := Terminal.execute_eq_run hp switches lines fuel
    obtain ⟨m, hm⟩ := exists_machine_of_run Terminal.console ⟨o.text.toArray, jumps⟩ fuel
      Machine.initial (.started lines)
    refine hnone _ ((hyields _).mp ⟨fuel, m, hne, ?_, rfl⟩)
    rw [heq]
    exact hm

/-- A run that skips nothing: it reads a line, passes one unmatched bracket and fails at another. -/
theorem execute_refines_structure_unmatched : (JumpTable.ofText? ",[[-].[".toList).isSome ∧
    ∃ o : Outline, o.text = ",[[-].[".toList ∧ o.Yields ["\x02".toList]
      ⟨.unmatchedBracket, ⟨0⟩ :: CodePoint.ofText "Key Error\n".toList, 1, 0, [0]⟩ := by
  have ht : (JumpTable.ofText? ",[[-].[".toList).isSome := by decide
  obtain ⟨o, ho, -, hyields, -⟩ := execute_refines_structure ht ⟨false, false⟩ ["\x02".toList]
  refine ⟨ht, o, ho, (hyields _).mp ⟨20, ⟨6, 0, #[0]⟩, ?_⟩⟩
  decide

end TapeStudio
