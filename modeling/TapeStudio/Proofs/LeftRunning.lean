import TapeStudio.Proofs.Invariant

/-! A session in which the switch `running` was left on by a program that is gone. Nothing that is
done in it turns the switch off again, so no program can be started in it and it cannot be
closed. -/
namespace TapeStudio

/-- The switch `running` is on. Since `s₀` no window has gone and the settings have not changed. -/
structure LeftRunning (s₀ s : Session) : Prop where
  running : s.switches.running = true
  windowOpen : s.windowOpen = s₀.windowOpen
  settings : s.settings = s₀.settings
  destroyed : ∀ first, .destroyed first ∈ s.journal.events → .destroyed first ∈ s₀.journal.events

namespace LeftRunning

variable {s₀ s s' : Session}

theorem refl (h : s.switches.running = true) : LeftRunning s s := ⟨h, rfl, rfl, fun _ h => h⟩

theorem trans (h : LeftRunning s₀ s) (h' : LeftRunning s s') : LeftRunning s₀ s' where
  running := h'.running
  windowOpen := h'.windowOpen.trans h.windowOpen
  settings := h'.settings.trans h.settings
  destroyed first hd := h.destroyed first (h'.destroyed first hd)

theorem of_filesOnly (h : LeftRunning s₀ s) (hf : FilesOnly s s') : LeftRunning s₀ s' where
  running := by rw [hf.switches, h.running]
  windowOpen := by rw [hf.windowOpen, h.windowOpen]
  settings := by rw [hf.settings, h.settings]
  destroyed first hd := h.destroyed first (hf.destroyed first hd)

theorem log (h : LeftRunning s₀ s) (events : List Event)
    (he : ∀ first, .destroyed first ∉ events) : LeftRunning s₀ (s.log events) :=
  h.of_filesOnly ((FilesOnly.refl s).log events he)

theorem of_looksOnly (h : LeftRunning s₀ s) (hl : LooksOnly s s') : LeftRunning s₀ s' where
  running := by rw [hl.switches, h.running]
  windowOpen := by rw [hl.windowOpen, h.windowOpen]
  settings := by rw [hl.settings, h.settings]
  destroyed := by
    intro first hd
    obtain ⟨more, hmore, hincidental⟩ := hl.events
    rw [hmore] at hd
    rcases List.mem_append.mp hd with hd | hd
    · exact h.destroyed first hd
    · have := hincidental _ hd
      contradiction

theorem pressStop (h : LeftRunning s₀ s) : LeftRunning s₀ s.pressStop := { h with }

end LeftRunning

namespace Command

variable {s₀ s : Session}

/-- While the switch is on, the command to run does nothing at all. -/
theorem run_of_running (press : Text → Session → Session) (fuel : Nat)
    (h : s.switches.running = true) : run press fuel s = .ok ⟨⟩ s := by
  obtain ⟨_, _, _, _, _, _, ⟨stop, running⟩⟩ := s
  obtain rfl : running = true := h
  rfl

theorem perform_run_of_running (fuel : Nat) (h : s.switches.running = true) :
    perform fuel .run s = .ok ⟨⟩ s := by
  cases fuel with
  | zero => exact run_of_running _ _ h
  | succ fuel => exact run_of_running _ _ h

theorem leftRunning_of_filesOnly {α : Type} {c : Command α} (h : ∀ s, Preserves (FilesOnly s) c) :
    Preserves (LeftRunning s₀) c :=
  .of_frame FilesOnly.refl h fun _ _ => LeftRunning.of_filesOnly

theorem leftRunning_perform (fuel : Nat) (action : KeyAction) :
    Preserves (LeftRunning s₀) (perform fuel action) := by
  cases action with
  | run =>
    intro s h
    rw [perform_run_of_running fuel h.running]
    exact h
  | settings =>
    rw [perform_settings]
    exact preserves_modify fun s h => h.of_looksOnly (LooksOnly.refl s).openSettings
  | newFile =>
    rw [perform_newFile]
    exact leftRunning_of_filesOnly fun _ => filesOnly_newFile
  | openFile =>
    rw [perform_openFile]
    exact leftRunning_of_filesOnly fun _ => filesOnly_openFile
  | save =>
    rw [perform_save]
    exact leftRunning_of_filesOnly fun _ => filesOnly_save
  | saveAs =>
    rw [perform_saveAs]
    exact leftRunning_of_filesOnly fun _ => filesOnly_saveAs

theorem running_execute (n fuel : Nat) (source : Except FileFault Text) (s : Session) :
    let outcome := Machine.execute (Session.console fun keys s => s.pressed n keys) fuel source s
    outcome.ending ≠ .completed → outcome.ending ≠ .interrupted →
      outcome.console.switches.running = true := by
  have hpress : ∀ keys s, s.switches.running = true →
      (Session.pressed s n keys).switches.running = true := fun keys s hs =>
    (Session.pressed_of_preserves (I := LeftRunning s)
      (fun _ _ action => leftRunning_perform _ action) (fun _ _ h => h.log _ (by simp)) keys
      (.refl hs)).running
  have hmaintains : (Session.console fun keys s => s.pressed n keys).Maintains
      (fun s => s.switches.running = true) fun _ => True := by
    have hdetached : Session.Detached fun s => s.switches.running = true :=
      fun _ _ _ _ _ _ _ _ hs => hs
    refine hdetached.keptAtBoxes.maintains hpress ?_ fun _ _ => trivial
    intro t s hs
    rw [((FilesOnly.refl s).typeInEditor 0 t true).switches, hs]
  intro outcome hcompleted hinterrupted
  rcases hmaintains.execute (s := s) rfl fuel source with h | h
  · exact absurd h.1 hcompleted
  · exact h.2.of_ne hinterrupted

/-- A program that was started leaves the switch on, unless it completes or is interrupted while it
waits. -/
theorem run_leaves_running {r : Session} {fuel : Nat} (hs : s.switches.running = false)
    (h : perform fuel .run s = .ok ⟨⟩ r) : ∃ ending, r.journal.endings.getLast? = some ending ∧
      (ending ≠ .completed → ending ≠ .interrupted → r.switches.running = true) := by
  have hrun : Meets (fun s => s.switches.running = false) (perform fuel .run)
      (fun _ r => ∃ ending, r.journal.endings.getLast? = some ending ∧
        (ending ≠ .completed → ending ≠ .interrupted → r.switches.running = true))
      fun _ _ => True := by
    rw [perform_run]
    refine Meets.get_bind fun s hs => ?_
    rw [hs]
    refine Meets.bind (R := fun _ _ => True) ?_ fun _ => Meets.bind (R := fun _ _ => True)
      (meets_modify fun _ _ => trivial) fun _ => meets_modify fun s _ => ?_
    · intro s _
      cases save s <;> trivial
    · exact ⟨_, List.getLast?_concat, running_execute _ _ _ _⟩
  have hr := hrun s hs
  rw [h] at hr
  exact hr

theorem leftRunning_downloadTheme : Preserves (LeftRunning s₀) downloadTheme :=
  meets_downloadTheme (fun _ h => h.log _ (by simp))
    (fun _ _ => LeftRunning.of_looksOnly) fun _ _ h => { h with }

theorem finishClosing_of_running (h : s.switches.running = true) :
    finishClosing s = .ok ⟨⟩ s := by
  obtain ⟨_, _, _, _, _, _, ⟨stop, running⟩⟩ := s
  obtain rfl : running = true := h
  rfl

end Command

/-- The text of `r` was stored in the current file, and nothing else was. -/
def Stored (r s : Session) : Prop :=
  s.dirty = false ∧
    ∃ name, s.file = .named name ∧ r.folder.writeText name r.editor.whole = .ok s.folder

/-- The text and the folder are those of `r`, or else the text was stored once. -/
def AtMostStored (r s : Session) : Prop :=
  (s.folder = r.folder ∧ s.editor = r.editor) ∨ Stored r s

/-- Text that counts as unsaved was not stored yet. -/
theorem AtMostStored.of_dirty {r s : Session} (h : AtMostStored r s) (hs : s.dirty = true) :
    s.folder = r.folder ∧ s.editor = r.editor := by
  rcases h with h | h
  · exact h
  · rw [h.1] at hs
    contradiction

namespace Command

variable {r : Session}

theorem atMostStored_saveNamed :
    Meets (fun s => s.folder = r.folder ∧ s.editor = r.editor) saveNamed
      (fun _ => Stored r) fun _ => AtMostStored r := by
  intro s hs
  cases hfile : s.file with
  | unnamed reply =>
    rw [saveNamed_of_unnamed hfile]
    exact .inl hs
  | named name =>
    rw [saveNamed_of_named hfile]
    cases hw : s.folder.writeText name s.editor.whole with
    | error fault => exact .inl hs
    | ok folder =>
      rw [hs.1, hs.2] at hw
      exact ⟨rfl, name, hfile, hw⟩

theorem atMostStored_saveAs :
    Meets (fun s => s.folder = r.folder ∧ s.editor = r.editor) saveAs
      (fun _ => AtMostStored r) fun _ => AtMostStored r := by
  have hask : Preserves (fun s => s.folder = r.folder ∧ s.editor = r.editor) (askFile .saveAs) :=
    preserves_askFile (fun _ _ hs => hs) fun _ _ hs => hs
  refine Meets.bind (hask.weaken (fun _ hs => hs) (fun _ _ hs => hs) fun _ _ hs => .inl hs)
    fun file? => ?_
  cases file? with
  | none => exact meets_pure fun s hs => .inl hs
  | some file =>
    have hshow : Preserves (Stored r) showFile :=
      preserves_showFile fun _ _ _ _ _ _ hs => hs
    refine Meets.bind (R := fun _ s => s.folder = r.folder ∧ s.editor = r.editor)
      (meets_modify fun s hs => hs) fun _ => Meets.bind atMostStored_saveNamed fun _ => ?_
    exact hshow.weaken (fun _ hs => hs) (fun _ _ => .inr) fun _ _ => .inr

theorem atMostStored_save :
    Meets (fun s => s.folder = r.folder ∧ s.editor = r.editor) save
      (fun _ => AtMostStored r) fun _ => AtMostStored r := by
  refine Meets.get_bind fun s _ => ?_
  split
  · refine atMostStored_saveAs.bind fun _ => meets_modify fun s hs => ?_
    rcases hs with hs | hs
    · exact .inl hs
    · exact .inr ⟨rfl, hs.2⟩
  · exact atMostStored_saveNamed.weaken (fun _ hs => hs) (fun _ _ => .inr) fun _ _ hs => hs

end Command

/-- What closing keeps in such a session: it is still open, and at most its text was stored. -/
def HeldOpen (r s : Session) : Prop := LeftRunning r s ∧ AtMostStored r s

namespace Command

variable {r : Session}

theorem heldOpen_ask (question : Question) : Preserves (HeldOpen r) (ask question) :=
  preserves_ask (fun _ _ h => ⟨{ h.1 with }, h.2⟩) fun _ _ h => ⟨h.1.log _ (by simp), h.2⟩

theorem dirty_ask (question : Question) : Preserves (fun s => s.dirty = true) (ask question) :=
  preserves_ask (fun _ _ h => h) fun _ _ h => h

theorem heldOpen_offerSave {again : Command Unit} (hagain : Preserves (HeldOpen r) again) :
    Preserves (HeldOpen r) (offerSave again) := by
  refine meets_get_bind fun s hs => ?_
  split
  next hdirty =>
    refine Meets.bind (((heldOpen_ask .saveChanges).and (dirty_ask .saveChanges)).weaken ?_
      (fun _ _ h => h) fun _ _ h => h.1) fun reply => ?_
    · rintro _ rfl
      exact ⟨hs, hdirty⟩
    · split
      · have hsave : Meets (fun s => LeftRunning r s ∧ s.folder = r.folder ∧ s.editor = r.editor)
            save (fun _ => HeldOpen r) fun _ => HeldOpen r :=
          Meets.and (leftRunning_of_filesOnly fun _ => filesOnly_save) atMostStored_save
        refine Meets.bind (meets_modify fun s h => ?_) fun _ => hsave.bind fun _ => hagain
        exact ⟨{ h.1.1 with }, h.1.2.of_dirty h.2⟩
      · split
        · refine Meets.bind (meets_modify fun s h => ?_) fun _ => hagain
          exact ⟨{ h.1.1 with }, .inl (h.1.2.of_dirty h.2)⟩
        · exact meets_pure fun s h => h.1
  · exact meets_pure fun s' h => h ▸ hs

theorem heldOpen_close : Preserves (HeldOpen r) close := by
  refine preserves_close fun again hagain => ?_
  have hstop : Preserves (HeldOpen r) (offerStop again) :=
    preserves_offerStop (heldOpen_ask _) (fun s h => ⟨h.1.pressStop, h.2⟩) hagain
  have hfinish : Preserves (HeldOpen r) finishClosing := by
    intro s h
    rw [finishClosing_of_running h.1.running]
    exact h
  exact hstop.bind fun _ => (heldOpen_offerSave hagain).bind fun _ => hfinish

end Command

/-- All actions but throwing the switches from outside. -/
def Action.keepsSwitches : Action → Bool
  | .setSwitches _ _ => false
  | _ => true

namespace Command

variable {s₀ : Session}

theorem leftRunning_close : Preserves (LeftRunning s₀) close := by
  intro s h
  have hclose := heldOpen_close (r := s) s ⟨.refl h.running, .inl ⟨rfl, rfl⟩⟩
  cases hr : close s with
  | ok _ s' =>
    rw [hr] at hclose
    exact h.trans hclose.1
  | error _ s' =>
    rw [hr] at hclose
    exact h.trans hclose.1

theorem leftRunning_act (fuel : Nat) {action : Action} (ha : action.keepsSwitches = true) :
    Preserves (LeftRunning s₀) (act fuel action) := by
  have hfolder : ∀ change, Preserves (LeftRunning s₀) (onFolder change) :=
    preserves_onFolder fun s folder h => { h with }
  cases hu : action.byUser with
  | true =>
    refine preserves_act hu (fun _ _ => LeftRunning.of_looksOnly) (fun _ h => h.pressStop)
      (fun s _ h => { h with }) ?_ (leftRunning_perform fuel) leftRunning_close
      leftRunning_downloadTheme
    intro s backspaces t released _ h
    exact h.of_filesOnly ((FilesOnly.refl s).typeInEditor backspaces t released)
  | false =>
    cases action with
    | writeFile name bytes => exact hfolder _
    | makeFolder name => exact hfolder _
    | removeFile name => exact hfolder _
    | _ => contradiction

end Command

theorem Reachable.leftRunning {s₀ s : Session} (h₀ : s₀.switches.running = true)
    (h : Reachable (fun action _ => action.keepsSwitches = true) s₀ s) :
    s.switches.running = true ∧ s.windowOpen = s₀.windowOpen ∧ s.settings = s₀.settings := by
  refine h.invariant (I := fun s => s.switches.running = true ∧ s.windowOpen = s₀.windowOpen ∧
    s.settings = s₀.settings) ⟨h₀, rfl, rfl⟩ fun s fuel action script hs haction => ?_
  have hact : LeftRunning (s.beginAction script) (s.react fuel action script) :=
    (Command.leftRunning_act fuel haction).after (LeftRunning.refl hs.1)
  exact ⟨hact.running, hact.windowOpen.trans hs.2.1, hact.settings.trans hs.2.2⟩

/-- A program that was started leaves `running` on, unless it completes or is interrupted while it
waits. In whatever session actions lead to from one in which it was left on, it is on. There the
command to run changes nothing; and closing comes to an end, with any replies, but stores the text
of the editor at most: the settings are neither changed nor written, and the window stays. -/
theorem running_absorbs :
    (∀ {s r : Session} {fuel : Nat}, s.switches.running = false →
      Command.perform fuel .run s = .ok ⟨⟩ r →
      ∃ ending, r.journal.endings.getLast? = some ending ∧
        (ending ≠ .completed → ending ≠ .interrupted → r.switches.running = true)) ∧
    ∀ {s₀ s : Session}, s₀.switches.running = true →
      Reachable (fun action _ => action.keepsSwitches = true) s₀ s → ∀ script : Script,
      s.switches.running = true ∧ s.windowOpen = s₀.windowOpen ∧
        let r := s.beginAction script
        (∀ fuel, Command.perform fuel .run r = .ok ⟨⟩ r) ∧
        (∀ turns r', script.replies.length < turns →
          Command.closeWithin turns r ≠ .error .unfinished r') ∧
        let closed := Command.after Command.close r
        closed.switches.running = true ∧ closed.windowOpen = s₀.windowOpen ∧
          (∀ first, .destroyed first ∉ closed.journal.events) ∧ closed.settings = s₀.settings ∧
          (closed.folder = s.folder ∨ ∃ name, closed.file = .named name ∧
            s.folder.writeText name s.editor.whole = .ok closed.folder) := by
  refine ⟨fun hs hrun => Command.run_leaves_running hs hrun, fun {s₀ s} h₀ h script => ?_⟩
  obtain ⟨hrunning, hwindow, hsettings⟩ := h.leftRunning h₀
  refine ⟨hrunning, hwindow, fun fuel => Command.perform_run_of_running fuel hrunning,
    fun turns r' hturns => Command.closeWithin_ne_unfinished hturns, ?_⟩
  have hopen : HeldOpen (s.beginAction script) (s.beginAction script) :=
    ⟨.refl hrunning, .inl ⟨rfl, rfl⟩⟩
  obtain ⟨hleft, hstored⟩ := Command.heldOpen_close.after hopen
  refine ⟨hleft.running, hleft.windowOpen.trans hwindow, fun first hd => ?_,
    hleft.settings.trans hsettings, ?_⟩
  · exact absurd (hleft.destroyed first hd) (by simp [Session.beginAction, Journal.empty])
  · rcases hstored with hsame | hstored
    · exact .inl hsame.1
    · exact .inr hstored.2

/-- A program that is refused for its brackets leaves `running` on; after closing was asked for
once, and again with a yes to ending the program, the window is still there. -/
theorem running_absorbs_refused :
    let idle := { Session.initial .empty .silent with file := .named ['a'], editor := ⟨[']'], 0⟩ }
    let s₀ := Command.after (Command.perform 0 .run) idle
    let s := s₀.react 0 .close .silent
    s₀.journal.endings.getLast? = some .unbalancedBrackets ∧ s₀.switches.running = true ∧
      (Command.after Command.close
        (s.beginAction { Script.silent with replies := [.bool true] })).windowOpen = true := by
  intro idle s₀ s
  obtain ⟨hleaves, habsorbs⟩ := running_absorbs
  have hrun : Command.perform 0 .run idle = .ok ⟨⟩ s₀ :=
    Command.eq_ok_of_succeeds (by decide +kernel)
  have hlast : s₀.journal.endings.getLast? = some .unbalancedBrackets := by decide +kernel
  obtain ⟨ending, hending, hrunning⟩ := hleaves rfl hrun
  obtain rfl := Option.some.inj (hlast.symm.trans hending)
  have hreach : Reachable (fun action _ => action.keepsSwitches = true) s₀ s :=
    .act .start 0 .close .silent rfl
  have hclosed := habsorbs (hrunning (by simp) (by simp)) hreach
    { Script.silent with replies := [.bool true] }
  exact ⟨hlast, hrunning (by simp) (by simp), hclosed.2.2.2.2.2.1.trans (by decide +kernel)⟩

end TapeStudio
