import TapeStudio.Machine.Basic
import TapeStudio.Machine.Console
import TapeStudio.Machine.Ending
import TapeStudio.Program.Brackets
import TapeStudio.Program.Instruction

/-! Running a program on a console. `step` is one instruction; `run` repeats it with a bound on
the number of steps; `execute` is a whole execution, from the switches to the last notice. -/
namespace TapeStudio

/-- A program text with the jumps of its brackets. -/
structure Program where
  code : Array Char
  jumps : JumpTable

def Program.ofText? (t : Text) : Option Program :=
  (JumpTable.ofText? t).map fun jumps => ⟨t.toArray, jumps⟩

namespace Machine

variable {σ : Type}

/-- The console after the notice that belongs to an ending. -/
def conclude (c : Console σ) (e : Ending) (s : σ) : σ :=
  match e.notice? with
  | some message => c.announce message s
  | none => s

/-- The state after an instruction; with an ending if the execution ends there. -/
structure Turn (σ : Type) where
  ending? : Option Ending
  machine : Machine
  console : σ

def Turn.go (m : Machine) (s : σ) : Turn σ := ⟨none, m, s⟩

def Turn.halt (c : Console σ) (e : Ending) (m : Machine) (s : σ) : Turn σ :=
  ⟨some e, m, conclude c e s⟩

def takeJump (c : Console σ) (jumps : JumpTable) (m : Machine) (s : σ) : Turn σ :=
  match jumps[m.position]? with
  | some target => .go (m.jump target) s
  | none => .halt c .unmatchedBracket m s

@[inline] def withCell (c : Console σ) (m : Machine) (s : σ) (act : Nat → Turn σ) : Turn σ :=
  match m.cell? with
  | some value => act value
  | none => .halt c .offTape m s

def readCell (c : Console σ) (m : Machine) (s : σ) : Turn σ :=
  match c.readLine s with
  | (.interrupted, s) => .halt c .interrupted m s
  | (.line line, s) =>
    match typedOn? line with
    | none => .halt c .endOfInput m s
    | some [] => .halt c .emptyLine m s
    | some (first :: _) => .go (m.store first.toNat) s

/-- The effect of an instruction, before the position moves on. -/
def perform (c : Console σ) (jumps : JumpTable) (i : Instruction) (m : Machine) (s : σ) : Turn σ :=
  match i with
  | .moveRight => .go m.moveRight s
  | .moveLeft =>
    let m := m.moveLeft
    if m.pointer < 0 then .halt c .leftEnd m s else .go m s
  | .increment => withCell c m s fun value => .go (m.store (successor value)) s
  | .decrement => withCell c m s fun value => .go (m.store (predecessor value)) s
  | .print => withCell c m s fun value => .go m (c.write [⟨value⟩] s)
  | .read => readCell c m s
  | .loopStart => withCell c m s fun value => if value = 0 then takeJump c jumps m s else .go m s
  | .loopEnd => withCell c m s fun value => if value = 0 then .go m s else takeJump c jumps m s

/-- One instruction, the look at the stop switch, and the move to the next position. -/
def step (c : Console σ) (p : Program) (m : Machine) (s : σ) : Turn σ :=
  match p.code[m.position]? with
  | none => ⟨some .completed, m, s⟩
  | some character =>
    let turn := match Instruction.ofChar? character with
      | some i => perform c p.jumps i m s
      | none => .go m s
    match turn with
    | ⟨some e, m, s⟩ => ⟨some e, m, s⟩
    | ⟨none, m, s⟩ => if (c.switches s).stop then ⟨some .stopped, m, s⟩ else .go m.advance s

/-- The end of an execution. The machine is absent if the program was not even read. -/
structure Outcome (σ : Type) where
  ending : Ending
  machine? : Option Machine
  console : σ

/-- At most `fuel` steps. -/
def run (c : Console σ) (p : Program) : Nat → Machine → σ → Outcome σ
  | 0, m, s => ⟨.unfinished, some m, s⟩
  | fuel + 1, m, s =>
    match step c p m s with
    | ⟨some e, m, s⟩ => ⟨e, some m, s⟩
    | ⟨none, m, s⟩ => run c p fuel m s

/-- A finished run stays as it is when more steps are allowed. -/
theorem run_of_le {c : Console σ} {p : Program} {n k : Nat} {m : Machine} {s : σ}
    (h : (run c p n m s).ending ≠ .unfinished) (hnk : n ≤ k) : run c p k m s = run c p n m s := by
  induction n generalizing k m s with
  | zero => simp [run] at h
  | succ n ih =>
    obtain ⟨k, rfl⟩ : ∃ j, k = j + 1 := ⟨k - 1, by omega⟩
    rw [run] at h ⊢
    rw [run]
    split <;> rename_i hstep <;> rw [hstep] at h
    exact ih h (by omega)

/-- The program in a text. A text whose brackets are not balanced is refused with a notice. -/
def load (c : Console σ) (t : Text) (s : σ) : Except σ Program :=
  match Program.ofText? t with
  | some p => .ok p
  | none => .error (conclude c .unbalancedBrackets s)

/-- Runs a text from the initial machine. -/
def runText (c : Console σ) (fuel : Nat) (t : Text) (s : σ) : Outcome σ :=
  match load c t s with
  | .ok p => run c p fuel initial s
  | .error s => ⟨.unbalancedBrackets, some initial, s⟩

/-- A whole execution. The switches are set before the program is read, and only an execution
that completes clears `running`. -/
def execute (c : Console σ) (fuel : Nat) (source : Except FileFault Text) (s : σ) : Outcome σ :=
  let s := c.setSwitches ⟨false, true⟩ s
  match source with
  | .error fault => ⟨.unreadable fault, none, s⟩
  | .ok t =>
    let outcome := runText c fuel t s
    if outcome.ending = .completed then
      { outcome with console := c.setRunning false outcome.console }
    else outcome

end Machine

end TapeStudio
