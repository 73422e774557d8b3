import TapeStudio.Session.Action

/-! Reasoning about commands: what holds of the session after a command, by what held before. A
command that fails has changed the session too, so there is always a second condition for that. -/
namespace TapeStudio

def FileChoice.hasName (name : Text) : FileChoice → Bool
  | .named name' => name' == name
  | .unnamed _ => false

theorem FileChoice.eq_named_of_hasName {file : FileChoice} {name : Text}
    (h : file.hasName name = true) : file = .named name := by
  cases file with
  | named name' => rw [eq_of_beq h]
  | unnamed reply => contradiction

namespace Command

variable {α β : Type} {P I : Session → Prop} {Q : α → Session → Prop} {E : Fault → Session → Prop}

/-- The session after a command, whether it succeeded or not. -/
def after (c : Command α) (s : Session) : Session :=
  match c s with
  | .ok _ s => s
  | .error _ s => s

theorem after_of_ok {c : Command α} {s r : Session} {a : α} (h : c s = .ok a r) :
    after c s = r := by
  rw [after, h]

theorem bind_congr_left {c d : Command α} {s r : Session} (h : c s = d r) (next : α → Command β) :
    (c >>= next) s = (d >>= next) r := by
  change EStateM.bind c next s = EStateM.bind d next r
  rw [EStateM.bind, EStateM.bind, h]

theorem bind_of_ok {c : Command α} {next : α → Command β} {s r : Session} {a : α}
    (h : c s = .ok a r) : (c >>= next) s = next a r := by
  change EStateM.bind c next s = _
  rw [EStateM.bind, h]

theorem bind_of_error {c : Command α} {next : α → Command β} {s r : Session} {fault : Fault}
    (h : c s = .error fault r) : (c >>= next) s = .error fault r := by
  change EStateM.bind c next s = _
  rw [EStateM.bind, h]

/-- The command gives a value. -/
def succeeds (c : Command Unit) (s : Session) : Bool :=
  match c s with
  | .ok _ _ => true
  | .error _ _ => false

theorem succeeds_bind (c next : Command Unit) (s : Session) :
    succeeds (c >>= fun _ => next) s = (succeeds c s && succeeds next (after c s)) := by
  unfold succeeds after
  cases hr : c s with
  | ok _ r => rw [bind_of_ok hr, Bool.true_and]
  | error fault r => rw [bind_of_error hr, Bool.false_and]

theorem eq_ok_of_succeeds {c : Command Unit} {s : Session} (h : succeeds c s = true) :
    c s = .ok ⟨⟩ (after c s) := by
  unfold succeeds at h
  unfold after
  cases hr : c s with
  | ok _ r => rfl
  | error fault r => simp [hr] at h

theorem exists_eq_error_of_succeeds {c : Command Unit} {s : Session} (h : succeeds c s = false) :
    ∃ fault, c s = .error fault (after c s) := by
  unfold succeeds at h
  unfold after
  cases hr : c s with
  | ok _ r => simp [hr] at h
  | error fault r => exact ⟨fault, rfl⟩

/-- From a session with `P` the command gives a value in a session with `Q`, or fails in one
with `E`. -/
def Meets (P : Session → Prop) (c : Command α) (Q : α → Session → Prop)
    (E : Fault → Session → Prop) : Prop :=
  ∀ s, P s → match c s with
    | .ok a s => Q a s
    | .error fault s => E fault s

/-- The command keeps an invariant, also when it fails. -/
def Preserves (I : Session → Prop) (c : Command α) : Prop := Meets I c (fun _ => I) fun _ => I

theorem Meets.after {c : Command α} (h : Meets P c (fun _ => I) fun _ => I) {s : Session}
    (hs : P s) : I (Command.after c s) := by
  have hc := h s hs
  unfold Command.after
  cases hr : c s <;> rw [hr] at hc <;> exact hc

theorem Preserves.after {c : Command α} (h : Preserves I c) {s : Session} (hs : I s) :
    I (Command.after c s) := Meets.after h hs

theorem Meets.weaken {P' : Session → Prop} {Q' : α → Session → Prop} {E' : Fault → Session → Prop}
    {c : Command α} (h : Meets P' c Q' E') (hP : ∀ s, P s → P' s) (hQ : ∀ a s, Q' a s → Q a s)
    (hE : ∀ fault s, E' fault s → E fault s) : Meets P c Q E := by
  intro s hs
  have hc := h s (hP s hs)
  cases hr : c s with
  | ok a s' =>
    rw [hr] at hc
    exact hQ a s' hc
  | error fault s' =>
    rw [hr] at hc
    exact hE fault s' hc

theorem Meets.and {P' : Session → Prop} {Q' : α → Session → Prop} {E' : Fault → Session → Prop}
    {c : Command α} (h : Meets P c Q E) (h' : Meets P' c Q' E') :
    Meets (fun s => P s ∧ P' s) c (fun a s => Q a s ∧ Q' a s)
      fun fault s => E fault s ∧ E' fault s := by
  intro s hs
  have hc := h s hs.1
  have hc' := h' s hs.2
  cases hr : c s <;> rw [hr] at hc hc' <;> exact ⟨hc, hc'⟩

theorem Meets.bind {R : α → Session → Prop} {Q : β → Session → Prop} {c : Command α}
    {next : α → Command β} (h : Meets P c R E) (hnext : ∀ a, Meets (R a) (next a) Q E) :
    Meets P (c >>= next) Q E := by
  intro s hs
  have hc := h s hs
  change match EStateM.bind c next s with | .ok b s => Q b s | .error fault s => E fault s
  unfold EStateM.bind
  cases hr : c s with
  | ok a s' =>
    rw [hr] at hc
    exact hnext a s' hc
  | error fault s' =>
    rw [hr] at hc
    exact hc

theorem meets_pure {a : α} (h : ∀ s, P s → Q a s) : Meets P (pure a) Q E := h

theorem meets_modify {f : Session → Session} {Q : PUnit → Session → Prop}
    (h : ∀ s, P s → Q ⟨⟩ (f s)) : Meets P (modify f) Q E := h

theorem meets_modifyGet {f : Session → α × Session} (h : ∀ s, P s → Q (f s).1 (f s).2) :
    Meets P (modifyGet f) Q E := h

/-- Reading the session and going on from what was read. -/
theorem meets_get_bind {next : Session → Command α}
    (h : ∀ s, P s → Meets (fun s' => s' = s) (next s) Q E) : Meets P (get >>= next) Q E :=
  fun s hs => h s hs s rfl

theorem Meets.get_bind {next : Session → Command α} (h : ∀ s, P s → Meets P (next s) Q E) :
    Meets P (get >>= next) Q E := fun s hs => h s hs s hs

theorem Preserves.bind {c : Command α} {next : α → Command β} (h : Preserves I c)
    (hnext : ∀ a, Preserves I (next a)) : Preserves I (c >>= next) :=
  Meets.bind h hnext

/-- A command that stays within a frame keeps whatever the frame keeps. -/
theorem Preserves.of_frame {R : Session → Session → Prop} {c : Command α} (hR : ∀ s, R s s)
    (h : ∀ s, Preserves (R s) c) (hI : ∀ s s', I s → R s s' → I s') : Preserves I c := by
  intro s hs
  have hc : Meets (fun r => r = s) c (fun _ => I) fun _ => I :=
    (h s).weaken (fun _ hr => hr ▸ hR s) (fun _ s' => hI s s' hs) fun _ s' => hI s s' hs
  exact hc s rfl

theorem preserves_pure (a : α) : Preserves I (pure a) := fun _ h => h

theorem preserves_throw (fault : Fault) : Preserves I (throw fault : Command α) := fun _ h => h

theorem preserves_modify {f : Session → Session} (h : ∀ s, I s → I (f s)) :
    Preserves I (modify f) := h

theorem preserves_modifyGet {f : Session → α × Session} (h : ∀ s, I s → I (f s).2) :
    Preserves I (modifyGet f) := h

theorem preserves_set {s₀ : Session} (h : I s₀) : Preserves I (set s₀) := fun _ _ => h

theorem preserves_get_bind {next : Session → Command α} (h : ∀ s, I s → Preserves I (next s)) :
    Preserves I (get >>= next) := Meets.get_bind h

theorem preserves_ofFile (x : Except FileFault α) : Preserves I (ofFile x) := by
  cases x with
  | ok a => exact preserves_pure a
  | error fault => exact preserves_throw _

theorem preserves_onFolder (h : ∀ s folder, I s → I { s with folder := folder })
    (change : FolderChange) : Preserves I (onFolder change) := by
  intro s hs
  unfold onFolder
  cases change s.folder with
  | ok _ folder => exact h s folder hs
  | error fault folder => exact h s folder hs

theorem preserves_moveCursor (h : ∀ s cursor, I s → I { s with editor.cursor := cursor })
    (index : Text) : Preserves I (moveCursor index) := by
  refine preserves_get_bind fun s _ => Preserves.bind ?_ fun offset =>
    preserves_modify fun s hs => h s _ hs
  unfold resolve
  split
  · exact preserves_pure _
  · exact preserves_throw _

end Command

theorem Session.takeReply_eq (s : Session) (silence : Value) :
    s.takeReply silence = (s.script.replies.headD silence,
      { s with script := { s.script with replies := s.script.replies.tail } }) := by
  cases s
  rename_i script journal
  obtain ⟨replies⟩ := script
  cases replies <;> rfl

theorem Session.takeReply_of_keeps {I : Session → Prop}
    (h : ∀ s replies, I s → I { s with script := { s.script with replies := replies } })
    {s : Session} (hs : I s) (silence : Value) : I (s.takeReply silence).2 := by
  unfold Session.takeReply
  split
  · exact hs
  · exact h s _ hs

theorem Session.guarded_of_preserves {I : Session → Prop} {c : Command Unit} {s : Session}
    (h : Command.Preserves I c) (hlog : ∀ s fault, I s → I (s.log [.callbackFailed fault]))
    (hs : I s) : I (s.guarded c) := by
  have hc := h s hs
  unfold Session.guarded
  cases hr : c s with
  | ok a s' =>
    rw [hr] at hc
    exact hc
  | error fault s' =>
    rw [hr] at hc
    exact hlog s' fault hc

/-- The session after an action, to which the world answers by a script. A program that is started
runs for at most `fuel` steps. -/
def Session.react (s : Session) (fuel : Nat) (action : Action) (script : Script) : Session :=
  Command.after (Command.act fuel action) (s.beginAction script)

/-- The sessions reached from `s₀` by actions. What is allowed can depend on an action and on the
session that it leads to. -/
inductive Reachable (allowed : Action → Session → Prop) (s₀ : Session) : Session → Prop where
  | start : Reachable allowed s₀ s₀
  | act {s : Session} (h : Reachable allowed s₀ s) (fuel : Nat) (action : Action) (script : Script)
      (hallowed : allowed action (s.react fuel action script)) :
      Reachable allowed s₀ (s.react fuel action script)

theorem Reachable.invariant {allowed : Action → Session → Prop} {I : Session → Prop}
    {s₀ s : Session} (h : Reachable allowed s₀ s) (hs₀ : I s₀)
    (hact : ∀ s fuel action script, I s → allowed action (s.react fuel action script) →
      I (s.react fuel action script)) : I s := by
  induction h with
  | start => exact hs₀
  | act _ fuel action script hallowed ih => exact hact _ fuel action script ih hallowed

end TapeStudio
