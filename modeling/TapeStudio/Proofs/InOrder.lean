import TapeStudio.Proofs.Starting

/-! What is true of the boxes in all sessions that can occur. -/
namespace TapeStudio

namespace TextBox

variable {α : Type} {b : TextBox α}

theorem cursor_insertAt_le (h : b.cursor ≤ b.content.length) (offset : Nat) (t : List α) :
    (b.insertAt offset t).cursor ≤ (b.insertAt offset t).content.length := by
  simp only [insertAt, List.length_append, List.length_take, List.length_drop]
  split <;> omega

end TextBox

namespace Session

/-- The output box is locked, and the cursor of the input box lies in its text. -/
def InOrder (s : Session) : Prop :=
  s.outputLocked = true ∧ s.input.cursor ≤ s.input.content.length

variable {s s' : Session}

theorem InOrder.of_looksOnly (h : s.InOrder) (hl : LooksOnly s s') : s'.InOrder := by
  unfold InOrder
  rw [hl.outputLocked, hl.input]
  exact h

theorem inOrder_keptAtBoxes : KeptAtBoxes InOrder where
  print s piece h := by
    unfold printPiece
    dsimp only
    split
    · exact ⟨rfl, h.2⟩
    · split
      · exact ⟨rfl, h.2⟩
      · exact ⟨rfl, h.2⟩
  wait _ h := h
  gestures _ _ h := h
  enter _ _ h := ⟨h.1, TextBox.cursor_insertAt_le h.2 _ _⟩
  stop _ h := h

end Session

namespace Command

open Session

theorem inOrder_saveNamed : Preserves InOrder saveNamed := by
  apply Preserves.bind
  · exact (preserves_fileName _).bind fun _ => preserves_get_bind fun _ h =>
      (preserves_ofFile _).bind fun _ => preserves_set h
  · intro _
    exact preserves_modify fun _ h => h

theorem inOrder_showFile : Preserves InOrder showFile := by
  have hclear : Preserves InOrder (modify (·.clearEditor)) := preserves_modify fun _ h => h
  refine hclear.bind fun _ => (preserves_fileName _).bind fun name =>
    preserves_get_bind fun s h => ?_
  cases s.folder.readText name with
  | ok content =>
    -- the output box is locked again after it was emptied
    refine preserves_set ⟨rfl, ?_⟩
    dsimp only [clearOutput, insertInEditor, highlight]
    split
    · exact h.2
    · split
      · exact h.2
      · exact h.2
  | error fault =>
    dsimp only
    split
    · exact preserves_throw _
    · exact preserves_pure _

theorem inOrder_askFile (dialog : FileDialog) : Preserves InOrder (askFile dialog) :=
  preserves_askFile (fun _ _ h => h) fun _ _ h => h

theorem inOrder_saveAs : Preserves InOrder saveAs :=
  preserves_saveAs (inOrder_askFile _) (fun _ _ h => h) inOrder_saveNamed inOrder_showFile

theorem inOrder_save : Preserves InOrder save :=
  preserves_save inOrder_saveAs (fun _ h => h) inOrder_saveNamed

theorem inOrder_compare : Preserves InOrder compare := by
  refine (preserves_fileName _).bind fun _ => preserves_get_bind fun s h =>
    (preserves_ofFile _).bind fun content => ?_
  split
  · exact preserves_set h
  · exact preserves_pure _

end Command

namespace Session

theorem InOrder.typeInEditor {s : Session} (h : s.InOrder) (backspaces : Nat) (t : Text)
    (released : Bool) : (s.typeInEditor backspaces t released).InOrder := by
  have hkey : ∀ r : Session, r.InOrder → r.keyReleased.InOrder := by
    intro r hr
    refine InOrder.of_looksOnly ?_ (LooksOnly.refl _).highlight
    split
    · exact guarded_of_preserves Command.inOrder_compare (fun _ _ h => h) hr
    · exact hr
  unfold Session.typeInEditor
  split
  · exact hkey _ h
  · exact h

theorem lasting_inOrder : Lasting InOrder where
  boxes := inOrder_keptAtBoxes
  clearInput s h := by
    refine ⟨h.1, ?_⟩
    rw [clearInput, TextBox.clear_eq h.2]
    exact Nat.le_refl 0
  switches _ _ h := h
  endings _ _ h := h
  looks _ _ := InOrder.of_looksOnly
  type _ backspaces t h := h.typeInEditor backspaces t true
  save := Command.inOrder_save
  saveAs := Command.inOrder_saveAs
  newFile := Command.preserves_newFile Command.inOrder_save (Command.inOrder_askFile _)
    (fun _ _ h => h) (fun _ h => h) Command.inOrder_showFile
  openFile := Command.meets_openFile Command.inOrder_save (Command.inOrder_askFile _)
    (fun _ _ h => h) Command.inOrder_showFile

end Session

namespace Command

open Session

theorem inOrder_close : Preserves InOrder close := by
  have hask : ∀ question, Preserves InOrder (ask question) := fun question =>
    preserves_ask (fun _ _ h => h) fun _ _ h => h
  apply preserves_close
  intro again hagain
  have hstop : Preserves InOrder (offerStop again) :=
    preserves_offerStop (hask _) (fun _ h => h) hagain
  have hsave : Preserves InOrder (offerSave again) :=
    preserves_offerSave (hask _) (fun _ h => h) inOrder_save hagain
  exact hstop.bind fun _ => hsave.bind fun _ =>
    preserves_finishClosing (fun _ _ _ h _ => h) (fun _ _ h => h) fun _ h _ _ => h

theorem inOrder_act (fuel : Nat) (action : Action) : Preserves InOrder (act fuel action) :=
  lasting_inOrder.upheld.act (fun _ _ h => h) (fun _ _ h => h)
    (fun _ backspaces t released h => h.typeInEditor backspaces t released) (fun _ h => h)
    inOrder_close fuel action

theorem inOrder_start : Preserves InOrder start :=
  preserves_start (preserves_loadPreferences fun _ _ _ _ _ h => h) lasting_inOrder.looks
    inOrder_showFile inOrder_save fun _ h => h

end Command

theorem Session.Reached.inOrder {s : Session} (h : s.Reached) : s.InOrder := by
  obtain ⟨folder, script, highlighter, toolkit, s₀, hstart, hreach⟩ := h
  have h₀ := Command.inOrder_start { Session.initial folder script with
    highlighter := highlighter, toolkit := toolkit } ⟨rfl, Nat.le_refl 0⟩
  rw [hstart] at h₀
  apply hreach.invariant h₀
  intro r fuel action script hr _
  exact (Command.inOrder_act fuel action).after (s := r.beginAction script) hr

end TapeStudio
