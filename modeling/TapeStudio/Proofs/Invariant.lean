import TapeStudio.Proofs.Closing
import TapeStudio.Proofs.Looks
import TapeStudio.Proofs.WhileRunning

/-! What all parts of a session keep is kept by every key, also by keys that are pressed while a
program runs, and by everything else that a user does. -/
namespace TapeStudio

/-- What a user does at the windows, as opposed to what happens to the folder and the switches from
outside. -/
def Action.byUser : Action → Bool
  | .writeFile _ _ | .makeFolder _ | .removeFile _ | .setSwitches _ _ => false
  | _ => true

namespace Command

variable {I : Session → Prop}

theorem preserves_choose {fuel : Nat} (hlooks : ∀ s s', I s → LooksOnly s s' → I s')
    (hstop : ∀ s, I s → I s.pressStop) (hperform : ∀ action, Preserves I (perform fuel action))
    (hclose : Preserves I close) (action : MenuAction) : Preserves I (choose fuel action) := by
  cases action with
  | key action => exact hperform action
  | close => exact hclose
  | about => exact preserves_modify fun s hs => hlooks s _ hs (LooksOnly.refl s).openAbout
  | wiki => exact preserves_modify fun s hs => hlooks s _ hs (LooksOnly.refl s).openWiki
  | stop => exact preserves_modify hstop

theorem preserves_act {fuel : Nat} {action : Action} (ha : action.byUser = true)
    (hlooks : ∀ s s', I s → LooksOnly s s' → I s') (hstop : ∀ s, I s → I s.pressStop)
    (hcursor : ∀ s cursor, I s → I { s with editor.cursor := cursor })
    (htype : ∀ s backspaces t released, action = .type backspaces t released → I s →
      I (s.typeInEditor backspaces t released))
    (hperform : ∀ action, Preserves I (perform fuel action)) (hclose : Preserves I close)
    (hdownload : Preserves I downloadTheme) : Preserves I (act fuel action) := by
  cases action with
  | menu path =>
    unfold act actWith
    dsimp only
    split
    · exact preserves_choose hlooks hstop hperform hclose _
    · exact preserves_pure _
  | press keys =>
    unfold act actWith pressWith
    dsimp only
    split
    · exact hperform _
    · exact preserves_pure _
  | close => exact hclose
  | type backspaces text released =>
    exact preserves_modify fun s hs => htype s backspaces text released rfl hs
  | moveCursor index => exact preserves_moveCursor hcursor index
  | click caption => exact preserves_click caption hlooks hdownload
  | highlight => exact preserves_modify fun s hs => hlooks s _ hs (LooksOnly.refl s).highlight
  | writeFile name bytes => contradiction
  | makeFolder name => contradiction
  | removeFile name => contradiction
  | setSwitches stop? running? => contradiction

end Command

/-- A property that neither a running program nor the looks nor the commands on files change. -/
structure Durable (I : Session → Prop) : Prop where
  detached : Session.Detached I
  switches (s : Session) (switches : Switches) : I s → I { s with switches := switches }
  endings (s : Session) (endings : List Ending) :
    I s → I { s with journal := { s.journal with endings := endings } }
  looks (s s' : Session) : I s → LooksOnly s s' → I s'
  type (s : Session) (backspaces : Nat) (t : Text) : I s → I (s.typeInEditor backspaces t true)
  save : Command.Preserves I Command.save
  saveAs : Command.Preserves I Command.saveAs
  newFile : Command.Preserves I Command.newFile
  openFile : Command.Preserves I Command.openFile

/-- As before, but the property may depend on the boxes and on what is done at them. -/
structure Lasting (I : Session → Prop) : Prop where
  boxes : Session.KeptAtBoxes I
  clearInput (s : Session) : I s → I s.clearInput
  switches (s : Session) (switches : Switches) : I s → I { s with switches := switches }
  endings (s : Session) (endings : List Ending) :
    I s → I { s with journal := { s.journal with endings := endings } }
  looks (s s' : Session) : I s → LooksOnly s s' → I s'
  type (s : Session) (backspaces : Nat) (t : Text) : I s → I (s.typeInEditor backspaces t true)
  save : Command.Preserves I Command.save
  saveAs : Command.Preserves I Command.saveAs
  newFile : Command.Preserves I Command.newFile
  openFile : Command.Preserves I Command.openFile

/-- As before, but what the property has to do with the boxes is left open. -/
structure Upheld (I : Session → Prop) : Prop where
  console {press : Text → Session → Session} :
    (∀ keys s, I s → I (press keys s)) → (Session.console press).Maintains I I
  clearInput (s : Session) : I s → I s.clearInput
  switches (s : Session) (switches : Switches) : I s → I { s with switches := switches }
  endings (s : Session) (endings : List Ending) :
    I s → I { s with journal := { s.journal with endings := endings } }
  looks (s s' : Session) : I s → LooksOnly s s' → I s'
  save : Command.Preserves I Command.save
  saveAs : Command.Preserves I Command.saveAs
  newFile : Command.Preserves I Command.newFile
  openFile : Command.Preserves I Command.openFile

namespace Upheld

variable {I : Session → Prop}

theorem execute (h : Upheld I) {press : Text → Session → Session}
    (hpress : ∀ keys s, I s → I (press keys s)) (fuel : Nat) {s : Session} (hs : I s) :
    I (s.execute press fuel) := by
  refine h.endings _ _ ?_
  rcases (h.console hpress).execute (h.switches s _ hs) fuel (s.folder.readText s.file.name) with
    ⟨_, s', hs', houtcome⟩ | ⟨_, hleaves⟩
  · rw [houtcome]
    exact h.switches s' _ hs'
  · unfold Ending.Leaves at hleaves
    split at hleaves <;> exact hleaves

theorem run (h : Upheld I) {press : Text → Session → Session}
    (hpress : ∀ keys s, I s → I (press keys s)) (fuel : Nat) :
    Command.Preserves I (Command.run press fuel) := by
  refine Command.preserves_get_bind fun s _ => ?_
  split
  · exact h.save.bind fun _ => (Command.preserves_modify h.clearInput).bind fun _ =>
      Command.preserves_modify fun s hs => h.execute hpress fuel hs
  · exact Command.preserves_pure _

theorem perform (h : Upheld I) (fuel : Nat) (action : KeyAction) :
    Command.Preserves I (Command.perform fuel action) := by
  -- keys that are pressed while a program runs have less fuel than the program
  induction fuel using Nat.strongRecOn generalizing action with
  | ind fuel ih =>
    cases action with
    | run =>
      rw [Command.perform_run]
      refine h.run (fun keys s hs => Session.pressed_of_preserves ih ?_ keys hs) _
      intro s fault hs
      exact h.looks s _ hs ((LooksOnly.refl s).log _ (by simp [Event.isIncidental]))
    | settings =>
      rw [Command.perform_settings]
      exact Command.preserves_modify fun s hs => h.looks s _ hs (LooksOnly.refl s).openSettings
    | newFile =>
      rw [Command.perform_newFile]
      exact h.newFile
    | openFile =>
      rw [Command.perform_openFile]
      exact h.openFile
    | save =>
      rw [Command.perform_save]
      exact h.save
    | saveAs =>
      rw [Command.perform_saveAs]
      exact h.saveAs

/-- Whatever is done in a session, by the user or by others, keeps such a property, if it does not
depend on the folder. -/
theorem act (h : Upheld I) (hfolder : ∀ s folder, I s → I { s with folder := folder })
    (hcursor : ∀ s cursor, I s → I { s with editor.cursor := cursor })
    (htype : ∀ s backspaces t released, I s → I (s.typeInEditor backspaces t released))
    (hfetch : ∀ s, I s → I (s.log [.fetched Session.archiveUrl]))
    (hclose : Command.Preserves I Command.close) (fuel : Nat) (action : Action) :
    Command.Preserves I (Command.act fuel action) := by
  have hchange : ∀ change, Command.Preserves I (Command.onFolder change) :=
    Command.preserves_onFolder hfolder
  cases hu : action.byUser with
  | true =>
    refine Command.preserves_act hu h.looks (fun s => h.switches s _) hcursor ?_ (h.perform fuel)
      hclose (Command.meets_downloadTheme hfetch h.looks hfolder)
    intro s backspaces t released _
    exact htype s backspaces t released
  | false =>
    cases action with
    | writeFile name bytes => exact hchange _
    | makeFolder name => exact hchange _
    | removeFile name => exact hchange _
    | setSwitches stop? running? => exact Command.preserves_modify fun s => h.switches s _
    | _ => contradiction

end Upheld

theorem Lasting.upheld {I : Session → Prop} (h : Lasting I) : Upheld I :=
  { h with
    console := fun hpress =>
      h.boxes.maintains hpress (fun t s hs => h.type s 0 t hs) fun s hs => h.switches s _ hs }

theorem Lasting.perform {I : Session → Prop} (h : Lasting I) (fuel : Nat) (action : KeyAction) :
    Command.Preserves I (Command.perform fuel action) := h.upheld.perform fuel action

theorem Durable.lasting {I : Session → Prop} (h : Durable I) : Lasting I :=
  { h with
    boxes := h.detached.keptAtBoxes
    clearInput := fun s hs => h.detached s _ _ _ _ _ _ _ hs }

end TapeStudio
