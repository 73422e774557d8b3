import TapeStudio.Proofs.WhileRunning

/-! The same program on two consoles. As long as both give the same lines and hold the same stop
switch, the machine does the same on them; at a line in which they differ the two executions part.
-/
namespace TapeStudio

variable {σ τ : Type}

/-- Related consoles hold the same stop switch and take what is printed alike. -/
structure Console.Agrees (c : Console σ) (d : Console τ) (R : σ → τ → Prop) : Prop where
  stop {s : σ} {t : τ} : R s t → (c.switches s).stop = (d.switches t).stop
  write {s : σ} {t : τ} (piece : List CodePoint) : R s t → R (c.write piece s) (d.write piece t)

/-- Related consoles also give the same reading and stay related; or else they part at the reading,
after which `X` holds of the first and `Y` of the second unless it interrupts the program. -/
structure Console.Tracks (c : Console σ) (d : Console τ) (R : σ → τ → Prop) (X : σ → Prop)
    (Y : τ → Prop) : Prop extends c.Agrees d R where
  read {s : σ} {t : τ} : R s t →
    ((c.readLine s).1 = (d.readLine t).1 ∧ R (c.readLine s).2 (d.readLine t).2) ∨
      (((c.readLine s).1 = .interrupted ∨ X (c.readLine s).2) ∧
        ((d.readLine t).1 = .interrupted ∨ Y (d.readLine t).2))
  first : c.Maintains X fun _ => True
  second : d.Maintains Y fun _ => True

namespace Machine

/-- The same ending and the same machine, on related consoles. -/
structure Turn.Alike (R : σ → τ → Prop) (a : Turn σ) (b : Turn τ) : Prop where
  ending : a.ending? = b.ending?
  machine : a.machine = b.machine
  console : R a.console b.console

structure Outcome.Alike (R : σ → τ → Prop) (a : Outcome σ) (b : Outcome τ) : Prop where
  ending : a.ending = b.ending
  machine : a.machine? = b.machine?
  console : R a.console b.console

/-- Both turns come after the consoles parted. -/
def Turn.Parted (X : σ → Prop) (Y : τ → Prop) (a : Turn σ) (b : Turn τ) : Prop :=
  a.Leaves X (fun _ => True) ∧ b.Leaves Y fun _ => True

def Outcome.Parted (X : σ → Prop) (Y : τ → Prop) (a : Outcome σ) (b : Outcome τ) : Prop :=
  Ending.Leaves X (fun _ => True) (some a.ending) a.console ∧
    Ending.Leaves Y (fun _ => True) (some b.ending) b.console

/-- The look at the stop switch after an instruction, and the move to the next position. -/
def look (c : Console σ) (turn : Turn σ) : Turn σ :=
  match turn with
  | ⟨some e, m, s⟩ => ⟨some e, m, s⟩
  | ⟨none, m, s⟩ => if (c.switches s).stop then ⟨some .stopped, m, s⟩ else .go m.advance s

/-- What has ended stays as it is. -/
theorem look_of_ending {c : Console σ} {turn : Turn σ} {e : Ending} (h : turn.ending? = some e) :
    look c turn = turn := by
  obtain ⟨ending?, m, s⟩ := turn
  obtain rfl : ending? = some e := h
  rfl

end Machine

namespace Console.Maintains

open Machine

variable {c : Console σ} {I : σ → Prop} {s : σ}

/-- A program goes on from a reading, whatever was true before it. -/
theorem readCell_of_readLine (hc : c.Maintains I fun _ => True)
    (h : (c.readLine s).1 = .interrupted ∨ I (c.readLine s).2) (m : Machine) :
    (Machine.readCell c m s).Leaves I fun _ => True := by
  unfold Machine.readCell
  split
  next s' hread => simp [Turn.Leaves, Ending.Leaves, Turn.halt]
  next line s' hread =>
    rw [hread] at h
    have hs' : I s' := by simpa using h
    split
    · exact hc.halt hs' (by simp) m
    · exact hc.halt hs' (by simp) m
    · exact go hs' _

/-- A run goes on from its first step. -/
theorem run_of_step {J : σ → Prop} (hc : c.Maintains I J) {p : Program} {m : Machine}
    (h : (Machine.step c p m s).Leaves I J) (fuel : Nat) :
    Ending.Leaves I J (some (Machine.run c p (fuel + 1) m s).ending)
      (Machine.run c p (fuel + 1) m s).console := by
  rw [Machine.run]
  split
  next e m' s' hturn =>
    rw [hturn] at h
    exact h
  next m' s' hturn =>
    rw [hturn] at h
    have hs' : I s' := by simpa [Turn.Leaves, Ending.Leaves] using h
    exact hc.run hs' p fuel m'

theorem execute_of_runText {J : σ → Prop} (hI : ∀ s, I s → I (c.setRunning false s)) {fuel : Nat}
    {text : Text}
    (h : Ending.Leaves I J
      (some (Machine.runText c fuel text (c.setSwitches ⟨false, true⟩ s)).ending)
      (Machine.runText c fuel text (c.setSwitches ⟨false, true⟩ s)).console) :
    Ending.Leaves I J (some (Machine.execute c fuel (.ok text) s).ending)
      (Machine.execute c fuel (.ok text) s).console := by
  simp only [Machine.execute]
  split
  next hcompleted =>
    have hne : some Ending.completed ≠ some .interrupted := by decide
    rw [hcompleted, Ending.Leaves, if_neg hne] at h
    rw [Ending.Leaves, if_neg (hcompleted ▸ hne)]
    exact hI _ h
  · exact h

end Console.Maintains

namespace Console.Agrees

open Machine

variable {c : Console σ} {d : Console τ} {R : σ → τ → Prop} {s : σ} {t : τ}

theorem go (h : R s t) (m : Machine) : Turn.Alike R (Turn.go m s) (Turn.go m t) :=
  ⟨rfl, rfl, h⟩

theorem conclude (hcd : c.Agrees d R) (h : R s t) (e : Ending) :
    R (Machine.conclude c e s) (Machine.conclude d e t) := by
  unfold Machine.conclude
  split
  · exact hcd.write _ (hcd.write _ h)
  · exact h

theorem halt (hcd : c.Agrees d R) (h : R s t) (e : Ending) (m : Machine) :
    Turn.Alike R (Turn.halt c e m s) (Turn.halt d e m t) :=
  ⟨rfl, rfl, hcd.conclude h e⟩

theorem withCell (hcd : c.Agrees d R) (h : R s t) (m : Machine) {f : Nat → Turn σ}
    {g : Nat → Turn τ} (hfg : ∀ value, Turn.Alike R (f value) (g value)) :
    Turn.Alike R (Machine.withCell c m s f) (Machine.withCell d m t g) := by
  unfold Machine.withCell
  cases m.cell? with
  | some value => exact hfg value
  | none => exact hcd.halt h _ m

theorem takeJump (hcd : c.Agrees d R) (h : R s t) (jumps : JumpTable) (m : Machine) :
    Turn.Alike R (Machine.takeJump c jumps m s) (Machine.takeJump d jumps m t) := by
  unfold Machine.takeJump
  cases jumps[m.position]? with
  | some target => exact go h _
  | none => exact hcd.halt h _ m

/-- What was read goes into the cell, or ends the program. -/
theorem readCell (hcd : c.Agrees d R) (m : Machine)
    (hsame : (c.readLine s).1 = (d.readLine t).1) (h : R (c.readLine s).2 (d.readLine t).2) :
    Turn.Alike R (Machine.readCell c m s) (Machine.readCell d m t) := by
  unfold Machine.readCell
  generalize c.readLine s = first at hsame h ⊢
  generalize d.readLine t = second at hsame h ⊢
  obtain ⟨reading, s'⟩ := first
  obtain ⟨reading', t'⟩ := second
  obtain rfl : reading = reading' := hsame
  cases reading with
  | interrupted => exact hcd.halt h _ m
  | line line =>
    dsimp only
    split
    · exact hcd.halt h _ m
    · exact hcd.halt h _ m
    · exact go h _

/-- Only a reading can tell the two apart. -/
theorem perform (hcd : c.Agrees d R) (h : R s t) (jumps : JumpTable) {i : Instruction}
    (hi : i ≠ .read) (m : Machine) :
    Turn.Alike R (Machine.perform c jumps i m s) (Machine.perform d jumps i m t) := by
  cases i with
  | moveRight => exact go h _
  | moveLeft =>
    unfold Machine.perform
    dsimp only
    split
    · exact hcd.halt h _ _
    · exact go h _
  | increment => exact hcd.withCell h m fun _ => go h _
  | decrement => exact hcd.withCell h m fun _ => go h _
  | print => exact hcd.withCell h m fun value => go (hcd.write [⟨value⟩] h) m
  | read => contradiction
  | loopStart =>
    apply hcd.withCell h m
    intro value
    split
    · exact hcd.takeJump h jumps m
    · exact go h m
  | loopEnd =>
    apply hcd.withCell h m
    intro value
    split
    · exact go h m
    · exact hcd.takeJump h jumps m

theorem look (hcd : c.Agrees d R) {a : Turn σ} {b : Turn τ} (h : Turn.Alike R a b) :
    Turn.Alike R (Machine.look c a) (Machine.look d b) := by
  obtain ⟨ending?, m, s⟩ := a
  obtain ⟨ending?', m', t⟩ := b
  obtain ⟨hending, hmachine, hconsole⟩ := h
  dsimp only at hending hmachine hconsole
  subst hending hmachine
  cases ending? with
  | some e => exact ⟨rfl, rfl, hconsole⟩
  | none =>
    simp only [Machine.look, hcd.stop hconsole]
    split
    · exact ⟨rfl, rfl, hconsole⟩
    · exact go hconsole _

end Console.Agrees

namespace Console.Tracks

open Machine

variable {c : Console σ} {d : Console τ} {R : σ → τ → Prop} {X : σ → Prop} {Y : τ → Prop}
  {s : σ} {t : τ}

theorem perform (hcd : c.Tracks d R X Y) (h : R s t) (jumps : JumpTable) (i : Instruction)
    (m : Machine) :
    Turn.Alike R (Machine.perform c jumps i m s) (Machine.perform d jumps i m t) ∨
      Turn.Parted X Y (Machine.perform c jumps i m s) (Machine.perform d jumps i m t) := by
  by_cases hi : i = .read
  · subst hi
    rcases hcd.read h with ⟨hsame, hrelated⟩ | ⟨hX, hY⟩
    · exact .inl (hcd.readCell m hsame hrelated)
    · exact .inr ⟨hcd.first.readCell_of_readLine hX m, hcd.second.readCell_of_readLine hY m⟩
  · exact .inl (hcd.toAgrees.perform h jumps hi m)

theorem step (hcd : c.Tracks d R X Y) (h : R s t) (p : Program) (m : Machine) :
    Turn.Alike R (Machine.step c p m s) (Machine.step d p m t) ∨
      Turn.Parted X Y (Machine.step c p m s) (Machine.step d p m t) := by
  unfold Machine.step
  cases p.code[m.position]? with
  | none => exact .inl ⟨rfl, rfl, h⟩
  | some character =>
    dsimp only
    cases Instruction.ofChar? character with
    | none => exact .inl (hcd.look (Agrees.go h m))
    | some i =>
      rcases hcd.perform h p.jumps i m with hperform | ⟨hX, hY⟩
      · exact .inl (hcd.look hperform)
      · exact .inr ⟨Maintains.look c _ hX, Maintains.look d _ hY⟩

/-- Along a whole run the two do the same, or have parted. -/
theorem run (hcd : c.Tracks d R X Y) (h : R s t) (p : Program) (fuel : Nat) (m : Machine) :
    Outcome.Alike R (Machine.run c p fuel m s) (Machine.run d p fuel m t) ∨
      Outcome.Parted X Y (Machine.run c p fuel m s) (Machine.run d p fuel m t) := by
  induction fuel generalizing m s t with
  | zero => exact .inl ⟨rfl, rfl, h⟩
  | succ fuel ih =>
    rcases hcd.step h p m with hstep | ⟨hX, hY⟩
    · rw [Machine.run, Machine.run]
      generalize Machine.step c p m s = first at hstep ⊢
      generalize Machine.step d p m t = second at hstep ⊢
      obtain ⟨ending?, m', s'⟩ := first
      obtain ⟨ending?', m'', t'⟩ := second
      obtain ⟨hending, hmachine, hconsole⟩ := hstep
      dsimp only at hending hmachine hconsole
      subst hending hmachine
      cases ending? with
      | some e => exact .inl ⟨rfl, rfl, hconsole⟩
      | none => exact ih hconsole m'
    · exact .inr ⟨hcd.first.run_of_step hX fuel, hcd.second.run_of_step hY fuel⟩

theorem runText (hcd : c.Tracks d R X Y) (h : R s t) (fuel : Nat) (text : Text) :
    Outcome.Alike R (Machine.runText c fuel text s) (Machine.runText d fuel text t) ∨
      Outcome.Parted X Y (Machine.runText c fuel text s) (Machine.runText d fuel text t) := by
  unfold Machine.runText Machine.load
  cases Program.ofText? text with
  | some p => exact hcd.run h p fuel _
  | none => exact .inl ⟨rfl, rfl, hcd.conclude h .unbalancedBrackets⟩

/-- A whole execution does the same on both consoles, or the two have parted. -/
theorem execute (hcd : c.Tracks d R X Y)
    (h : R (c.setSwitches ⟨false, true⟩ s) (d.setSwitches ⟨false, true⟩ t))
    (hR : ∀ s t, R s t → R (c.setRunning false s) (d.setRunning false t))
    (hX : ∀ s, X s → X (c.setRunning false s)) (hY : ∀ t, Y t → Y (d.setRunning false t))
    (fuel : Nat) (source : Except FileFault Text) :
    Outcome.Alike R (Machine.execute c fuel source s) (Machine.execute d fuel source t) ∨
      Outcome.Parted X Y (Machine.execute c fuel source s) (Machine.execute d fuel source t) := by
  cases source with
  | error fault => exact .inl ⟨rfl, rfl, h⟩
  | ok text =>
    rcases hcd.runText h fuel text with hrun | ⟨hrunX, hrunY⟩
    · left
      have hending := hrun.ending
      by_cases hcompleted :
          (Machine.runText d fuel text (d.setSwitches ⟨false, true⟩ t)).ending = .completed
      · simp only [Machine.execute, if_pos hcompleted, if_pos (hending.trans hcompleted)]
        exact ⟨hending, hrun.machine, hR _ _ hrun.console⟩
      · have hcompleted' := fun hc => hcompleted (hending.symm.trans hc)
        simp only [Machine.execute, if_neg hcompleted, if_neg hcompleted']
        exact hrun
    · exact .inr ⟨Maintains.execute_of_runText hX hrunX, Maintains.execute_of_runText hY hrunY⟩

end Console.Tracks

/-- Related consoles always give the same reading. They stay related by `R`, or come to be related
by `S` if it interrupts the program. -/
structure Console.Mirrors (c : Console σ) (d : Console τ) (R S : σ → τ → Prop) : Prop
    extends c.Agrees d R where
  read {s : σ} {t : τ} : R s t → (c.readLine s).1 = (d.readLine t).1 ∧
    if (c.readLine s).1 = .interrupted then S (c.readLine s).2 (d.readLine t).2
    else R (c.readLine s).2 (d.readLine t).2

namespace Console.Mirrors

open Machine

variable {c : Console σ} {d : Console τ} {R S : σ → τ → Prop} {s : σ} {t : τ}

theorem readCell (hcd : c.Mirrors d R S) (h : R s t) (m : Machine) :
    Turn.Alike R (Machine.readCell c m s) (Machine.readCell d m t) ∨
      ((Machine.readCell c m s).ending? = some .interrupted ∧
        Turn.Alike S (Machine.readCell c m s) (Machine.readCell d m t)) := by
  obtain ⟨hsame, hrelated⟩ := hcd.read h
  by_cases hinterrupted : (c.readLine s).1 = .interrupted
  · right
    rw [if_pos hinterrupted] at hrelated
    -- an interruption is not announced, so the consoles are as the reading left them
    have hfirst : Machine.readCell c m s = ⟨some .interrupted, m, (c.readLine s).2⟩ := by
      unfold Machine.readCell
      split <;> simp_all [Turn.halt, Machine.conclude, Ending.notice?]
    have hsecond : Machine.readCell d m t = ⟨some .interrupted, m, (d.readLine t).2⟩ := by
      unfold Machine.readCell
      split <;> simp_all [Turn.halt, Machine.conclude, Ending.notice?]
    rw [hfirst, hsecond]
    exact ⟨rfl, rfl, rfl, hrelated⟩
  · left
    rw [if_neg hinterrupted] at hrelated
    exact hcd.toAgrees.readCell m hsame hrelated

theorem step (hcd : c.Mirrors d R S) (h : R s t) (p : Program) (m : Machine) :
    Turn.Alike R (Machine.step c p m s) (Machine.step d p m t) ∨
      ((Machine.step c p m s).ending? = some .interrupted ∧
        Turn.Alike S (Machine.step c p m s) (Machine.step d p m t)) := by
  unfold Machine.step
  cases p.code[m.position]? with
  | none => exact .inl ⟨rfl, rfl, h⟩
  | some character =>
    dsimp only
    cases Instruction.ofChar? character with
    | none => exact .inl (hcd.look (Agrees.go h m))
    | some i =>
      by_cases hi : i = .read
      · subst hi
        rcases hcd.readCell h m with halike | ⟨hending, halike⟩
        · exact .inl (hcd.look halike)
        · right
          change (Machine.look c (Machine.readCell c m s)).ending? = _ ∧
            Turn.Alike S (Machine.look c (Machine.readCell c m s))
              (Machine.look d (Machine.readCell d m t))
          have hsecond := halike.ending ▸ hending
          rw [look_of_ending hending, look_of_ending hsecond]
          exact ⟨hending, halike⟩
      · exact .inl (hcd.look (hcd.toAgrees.perform h p.jumps hi m))

/-- A whole run does the same on both consoles. -/
theorem run (hcd : c.Mirrors d R S) (h : R s t) (p : Program) (fuel : Nat) (m : Machine) :
    Outcome.Alike R (Machine.run c p fuel m s) (Machine.run d p fuel m t) ∨
      ((Machine.run c p fuel m s).ending = .interrupted ∧
        Outcome.Alike S (Machine.run c p fuel m s) (Machine.run d p fuel m t)) := by
  induction fuel generalizing m s t with
  | zero => exact .inl ⟨rfl, rfl, h⟩
  | succ fuel ih =>
    have hstep := hcd.step h p m
    rw [Machine.run, Machine.run]
    generalize Machine.step c p m s = first at hstep ⊢
    generalize Machine.step d p m t = second at hstep ⊢
    obtain ⟨ending?, m', s'⟩ := first
    obtain ⟨ending?', m'', t'⟩ := second
    rcases hstep with ⟨hending, hmachine, hconsole⟩ | ⟨hended, hending, hmachine, hconsole⟩
    · dsimp only at hending hmachine hconsole
      subst hending hmachine
      cases ending? with
      | some e => exact .inl ⟨rfl, rfl, hconsole⟩
      | none => exact ih hconsole m'
    · dsimp only at hended hending hmachine hconsole
      subst hended hending hmachine
      exact .inr ⟨rfl, rfl, rfl, hconsole⟩

/-- A whole execution does the same on both consoles, which are related by `S` at its end. -/
theorem execute (hcd : c.Mirrors d R S)
    (h : R (c.setSwitches ⟨false, true⟩ s) (d.setSwitches ⟨false, true⟩ t))
    (hS : ∀ s t, R s t → S s t)
    (hcompleted : ∀ s t, R s t → S (c.setRunning false s) (d.setRunning false t))
    (fuel : Nat) (source : Except FileFault Text) :
    Outcome.Alike S (Machine.execute c fuel source s) (Machine.execute d fuel source t) := by
  cases source with
  | error fault => exact ⟨rfl, rfl, hS _ _ h⟩
  | ok text =>
    have hrun : Outcome.Alike R (Machine.runText c fuel text (c.setSwitches ⟨false, true⟩ s))
        (Machine.runText d fuel text (d.setSwitches ⟨false, true⟩ t)) ∨
        ((Machine.runText c fuel text (c.setSwitches ⟨false, true⟩ s)).ending = .interrupted ∧
          Outcome.Alike S (Machine.runText c fuel text (c.setSwitches ⟨false, true⟩ s))
            (Machine.runText d fuel text (d.setSwitches ⟨false, true⟩ t))) := by
      unfold Machine.runText Machine.load
      cases Program.ofText? text with
      | some p => exact hcd.run h p fuel _
      | none => exact .inl ⟨rfl, rfl, hcd.conclude h .unbalancedBrackets⟩
    simp only [Machine.execute]
    generalize Machine.runText c fuel text _ = first at hrun ⊢
    generalize Machine.runText d fuel text _ = second at hrun ⊢
    rcases hrun with ⟨hending, hmachine, hconsole⟩ | ⟨hended, halike⟩
    · by_cases hcomplete : first.ending = .completed
      · rw [if_pos hcomplete, if_pos (hending ▸ hcomplete)]
        exact ⟨hending, hmachine, hcompleted _ _ hconsole⟩
      · rw [if_neg hcomplete, if_neg (hending ▸ hcomplete)]
        exact ⟨hending, hmachine, hS _ _ hconsole⟩
    · have hfirst : first.ending ≠ .completed := by simp [hended]
      have hsecond : second.ending ≠ .completed := halike.ending ▸ hfirst
      rw [if_neg hfirst, if_neg hsecond]
      exact halike

end Console.Mirrors

end TapeStudio
