import TapeStudio.Proofs.FailedClose
import TapeStudio.Proofs.Steps
import TapeStudio.Proofs.Substitution

/-! Text that counts as unsaved always has a file to be saved in: the comparison that finds it
unsaved fails where there is no file, and a session that has a file never loses it. So it makes no
difference what saving does with unsaved text when there is no file. Saving asks for a file at most
once. -/
namespace TapeStudio

namespace Session

/-- Text that counts as unsaved has a file; and there is a file if there is one in `r`. -/
structure Backed (r s : Session) : Prop where
  unsaved : s.dirty = true → s.file.isNoFile = false
  kept : r.file.isNoFile = false → s.file.isNoFile = false

namespace Backed

variable {r s s' : Session}

theorem of_hasFile (h : s.file.isNoFile = false) : Backed r s := ⟨fun _ => h, fun _ => h⟩

theorem of_looksOnly (h : Backed r s) (hl : LooksOnly s s') : Backed r s' := by
  refine ⟨?_, ?_⟩
  · rw [hl.dirty, hl.file]
    exact h.unsaved
  · rw [hl.file]
    exact h.kept

theorem clean (h : Backed r s) : Backed r { s with dirty := false } :=
  ⟨fun hdirty => absurd hdirty Bool.false_ne_true, h.kept⟩

end Backed

end Session

namespace Command

open Session

variable {r : Session}

theorem backed_saveNamed : Preserves (Backed r) saveNamed := by
  refine Preserves.bind ?_ fun _ => preserves_modify fun s h => ⟨h.clean.unsaved, h.kept⟩
  exact (preserves_fileName _).bind fun _ => preserves_get_bind fun s h =>
    (preserves_ofFile _).bind fun _ => preserves_set ⟨h.unsaved, h.kept⟩

theorem backed_showFile : Preserves (Backed r) showFile :=
  preserves_showFile fun _ _ _ _ _ _ h => ⟨h.unsaved, h.kept⟩

theorem backed_choosing {dialog : FileDialog} {next : Command Unit}
    (hnext : Preserves (Backed r) next) : Preserves (Backed r) (choosing dialog next) :=
  meets_choosing (fun _ _ h => ⟨h.unsaved, h.kept⟩) (fun _ _ h => ⟨h.unsaved, h.kept⟩)
    (fun _ _ _ hfile => .of_hasFile hfile) hnext

theorem backed_saveAs : Preserves (Backed r) saveAs :=
  backed_choosing (backed_saveNamed.bind fun _ => backed_showFile)

theorem backed_save : Preserves (Backed r) save :=
  preserves_save backed_saveAs (fun _ h => ⟨h.clean.unsaved, h.kept⟩) backed_saveNamed

theorem backed_newFile : Preserves (Backed r) newFile :=
  backed_save.bind fun _ => backed_choosing ((preserves_modify fun _ h => ⟨h.unsaved, h.kept⟩).bind
    fun _ => backed_save.bind fun _ => backed_showFile)

theorem backed_openFile : Preserves (Backed r) openFile :=
  backed_save.bind fun _ => backed_choosing backed_showFile

/-- Where there is no file, the comparison fails before the text is found unsaved. -/
theorem backed_compare : Preserves (Backed r) compare := by
  refine Meets.bind meets_fileName fun name => Meets.get_bind fun s hs => ?_
  cases hread : s.folder.readText name with
  | error fault => exact fun _ hs => hs.1
  | ok content =>
    have hname : name ≠ [] := by
      rintro rfl
      obtain ⟨bytes, hbytes, -⟩ := Folder.readText_eq_ok_iff.mp hread
      obtain ⟨route, hroute, -⟩ := Folder.readCause_eq_ok_iff.mp hbytes
      simp [route_nil] at hroute
    have hfile : s.file.isNoFile = false := by simp [hs.2, FileChoice.isNoFile, hname]
    refine Meets.bind (R := fun _ s => Backed r s) (meets_pure fun _ hs => hs.1) fun content => ?_
    split
    · exact preserves_set (.of_hasFile hfile)
    · exact preserves_pure _

end Command

namespace Session

variable {r s : Session}

theorem Backed.typeInEditor (h : Backed r s) (backspaces : Nat) (t : Text) (released : Bool) :
    Backed r (s.typeInEditor backspaces t released) := by
  have htyped : Backed r { s with editor := (s.editor.backspace backspaces).typeText t } :=
    ⟨h.unsaved, h.kept⟩
  have hkey (s : Session) (hs : Backed r s) : Backed r s.keyReleased := by
    have hlog : Backed r (s.log [.compareRequested]) := ⟨hs.unsaved, hs.kept⟩
    refine of_looksOnly ?_ (LooksOnly.refl _).highlight
    split
    · exact guarded_of_preserves Command.backed_compare (fun _ _ h => ⟨h.unsaved, h.kept⟩) hlog
    · exact hlog
  unfold Session.typeInEditor
  split
  · exact hkey _ htyped
  · exact htyped

theorem durable_backed : Durable (Backed r) where
  detached _ _ _ _ _ _ _ _ h := ⟨h.unsaved, h.kept⟩
  switches _ _ h := ⟨h.unsaved, h.kept⟩
  endings _ _ h := ⟨h.unsaved, h.kept⟩
  looks _ _ := Backed.of_looksOnly
  type _ backspaces t h := h.typeInEditor backspaces t true
  save := Command.backed_save
  saveAs := Command.backed_saveAs
  newFile := Command.backed_newFile
  openFile := Command.backed_openFile

end Session

namespace Command

open Session

variable {r : Session}

theorem backed_ask (question : Question) : Preserves (Backed r) (ask question) :=
  preserves_ask (fun _ _ h => ⟨h.unsaved, h.kept⟩) fun _ _ h => ⟨h.unsaved, h.kept⟩

theorem backed_offerStop {again : Command Unit} (hagain : Preserves (Backed r) again) :
    Preserves (Backed r) (offerStop again) :=
  preserves_offerStop (backed_ask _) (fun _ h => ⟨h.unsaved, h.kept⟩) hagain

theorem backed_offerSave {again : Command Unit} (hagain : Preserves (Backed r) again) :
    Preserves (Backed r) (offerSave again) :=
  preserves_offerSave (backed_ask _) (fun _ h => h.clean) backed_save hagain

theorem backed_closeWithin (turns : Nat) : Preserves (Backed r) (closeWithin turns) := by
  refine preserves_closeWithin (fun again hagain => ?_) turns
  exact (backed_offerStop hagain).bind fun _ => (backed_offerSave hagain).bind fun _ =>
    preserves_finishClosing (fun _ _ _ h _ => ⟨h.unsaved, h.kept⟩)
      (fun _ _ h => ⟨h.unsaved, h.kept⟩) fun _ h _ _ => ⟨h.unsaved, h.kept⟩

theorem backed_act (fuel : Nat) (action : Action) : Preserves (Backed r) (act fuel action) :=
  durable_backed.lasting.upheld.act (fun _ _ h => ⟨h.unsaved, h.kept⟩)
    (fun _ _ h => ⟨h.unsaved, h.kept⟩)
    (fun _ backspaces t released h => h.typeInEditor backspaces t released)
    (fun _ h => ⟨h.unsaved, h.kept⟩) (preserves_get_bind fun _ _ => backed_closeWithin _) fuel
    action

/-! Nothing counts as unsaved during a start. -/

theorem clean_showFile : Preserves (fun s => s.dirty = false) showFile :=
  preserves_showFile fun _ _ _ _ _ _ h => h

theorem clean_save : Preserves (fun s => s.dirty = false) save := by
  have hnamed : Preserves (fun s => s.dirty = false) saveNamed := by
    refine Preserves.bind ?_ fun _ => preserves_modify fun _ _ => rfl
    exact (preserves_fileName _).bind fun _ => preserves_get_bind fun _ h =>
      (preserves_ofFile _).bind fun _ => preserves_set h
  refine preserves_save ?_ (fun _ _ => rfl) hnamed
  exact preserves_saveAs (preserves_askFile (fun _ _ h => h) fun _ _ h => h) (fun _ _ h => h) hnamed
    clean_showFile

theorem clean_loadPreferences : Preserves (fun s => s.dirty = false) loadPreferences :=
  preserves_loadPreferences fun _ _ _ _ _ h => h

theorem clean_changeAppearance : Preserves (fun s => s.dirty = false) changeAppearance :=
  .of_frame LooksOnly.refl (fun _ => preserves_changeAppearance) fun _ _ h hl => hl.dirty.trans h

theorem clean_start : Preserves (fun s => s.dirty = false) start :=
  preserves_start clean_loadPreferences (fun _ _ h hl => hl.dirty.trans h) clean_showFile clean_save
    fun _ h => h

end Command

namespace Session

variable {r s : Session}

theorem Backed.react (h : Backed r s) (fuel : Nat) (action : Action) (script : Script) :
    Backed r (s.react fuel action script) :=
  (Command.backed_act fuel action).after (s := s.beginAction script) ⟨h.unsaved, h.kept⟩

theorem Backed.of_reachable {allowed : Action → Session → Prop} (h : Backed r s) {s' : Session}
    (hreach : Reachable allowed s s') : Backed r s' :=
  hreach.invariant h fun _ fuel action script hs _ => hs.react fuel action script

theorem Reached.backed (h : s.Reached) : Backed s s := by
  obtain ⟨folder, script, highlighter, toolkit, s₀, hstart, hreach⟩ := h
  have hclean := Command.clean_start { Session.initial folder script with
    highlighter := highlighter, toolkit := toolkit } rfl
  rw [hstart] at hclean
  have hfirst : Backed s₀ s₀ := ⟨fun hdirty => absurd (hclean.symm.trans hdirty) (by simp), id⟩
  exact ⟨(hfirst.of_reachable hreach).unsaved, id⟩

theorem Backed.pressed (h : Backed r s) (fuel : Nat) (keys : Text) :
    Backed r (s.pressed fuel keys) :=
  pressed_of_preserves (fun n _ action => durable_backed.lasting.perform n action)
    (fun _ _ h => ⟨h.unsaved, h.kept⟩) keys h

/-- The sessions while a program runs that was started in `s`: between two steps, and while the user
is at the boxes during a wait for a line. -/
def Meanwhile (fuel : Nat) (s r : Session) : Prop :=
  ∃ t k m r₀, Machine.Visits (console fun keys s => s.pressed fuel keys) t
      (Command.after Command.save s).clearInput k m r₀ ∧
    (r = r₀ ∨ ∃ gestures, r = attend (fun keys s => s.pressed fuel keys) (typeInEditor 0 · true)
      gestures { r₀ with lineEntered := false })

theorem Backed.meanwhile {fuel : Nat} {s' : Session} (h : Backed r s) (hrun : Meanwhile fuel s s') :
    Backed r s' := by
  have hlasting : Lasting (Backed r) := durable_backed.lasting
  have hpress (keys : Text) (s : Session) (hs : Backed r s) : Backed r (s.pressed fuel keys) :=
    hs.pressed fuel keys
  obtain ⟨t, k, m, r₀, ⟨p, -, hpasses⟩, hr₀⟩ := hrun
  have hstart : Backed r (Command.after Command.save s).clearInput :=
    hlasting.clearInput _ (Command.backed_save.after h)
  have hbetween : Backed r r₀ := by
    refine hpasses.invariant (I := fun _ s => Backed r s) (fun {m m' s s'} hs hstep => ?_)
      (hlasting.switches _ _ hstart)
    have hleaves := (hlasting.upheld.console hpress).step hs p m
    rw [hstep] at hleaves
    simpa [Machine.Turn.Leaves, Ending.Leaves, Machine.Turn.go] using hleaves
  rcases hr₀ with rfl | ⟨gestures, rfl⟩
  · exact hbetween
  · exact hlasting.boxes.attend hpress (fun t s hs => hs.typeInEditor 0 t true) gestures
      (hlasting.boxes.wait _ hbetween)

end Session

namespace Command

open Session

section Agreement

/-! Two commands that save alike in all sessions where unsaved text has a file. -/

variable {r : Session} {save' : Command Unit}

theorem agreeOn_choosing {dialog : FileDialog} {next next' : Command Unit}
    (hnext : AgreeOn (Backed r) next next') :
    AgreeOn (Backed r) (choosing dialog next) (choosing dialog next') :=
  AgreeOn.choosing (fun _ _ h => ⟨h.unsaved, h.kept⟩) (fun _ _ h => ⟨h.unsaved, h.kept⟩)
    (fun _ _ _ hfile => .of_hasFile hfile) hnext

theorem agreeOn_saveAsWith (h : AgreeOn (Backed r) save' save) :
    AgreeOn (Backed r) (saveAsWith save') (saveAsWith save) :=
  agreeOn_choosing (h.bind backed_save fun _ => .refl _)

theorem agreeOn_newFileWith (h : AgreeOn (Backed r) save' save) :
    AgreeOn (Backed r) (newFileWith save') (newFileWith save) := by
  have hclear : Preserves (Backed r) (modify (·.clearEditor)) :=
    preserves_modify fun _ h => ⟨h.unsaved, h.kept⟩
  exact h.bind backed_save fun _ => agreeOn_choosing
    ((AgreeOn.refl _).bind hclear fun _ => h.bind backed_save fun _ => .refl _)

theorem agreeOn_openFileWith (h : AgreeOn (Backed r) save' save) :
    AgreeOn (Backed r) (openFileWith save') (openFileWith save) :=
  h.bind backed_save fun _ => .refl _

theorem agreeOn_runWith (h : AgreeOn (Backed r) save' save)
    {press press' : Text → Session → Session}
    (hpress : ∀ keys s, Backed r s → Backed r (press keys s))
    (hsame : ∀ keys s, Backed r s → press' keys s = press keys s) (fuel : Nat) :
    AgreeOn (Backed r) (runWith save' press' fuel) (runWith save press fuel) := by
  have hlasting : Lasting (Backed r) := durable_backed.lasting
  refine AgreeOn.get_bind fun s _ => ?_
  split
  · refine h.bind backed_save fun _ =>
      (AgreeOn.refl _).bind (preserves_modify hlasting.clearInput) fun _ => ?_
    intro s hs
    change EStateM.Result.ok () (s.execute press' fuel) = .ok () (s.execute press fuel)
    rw [execute_congr hlasting hpress hsame fuel hs]
  · exact .refl _

theorem agreeOn_performWith (h : AgreeOn (Backed r) save' save) (fuel : Nat) (action : KeyAction) :
    AgreeOn (Backed r) (performWith save' fuel action) (performWith save fuel action) := by
  have hcalled (fuel : Nat) (action : KeyAction) (hne : action ≠ .run) :
      AgreeOn (Backed r) (performWith save' fuel action) (performWith save fuel action) := by
    unfold performWith
    cases action with
    | settings => exact .refl _
    | newFile => exact agreeOn_newFileWith h
    | openFile => exact agreeOn_openFileWith h
    | save => exact h
    | saveAs => exact agreeOn_saveAsWith h
    | run => contradiction
  -- keys that are pressed while a program runs have less fuel than the program
  induction fuel generalizing action with
  | zero =>
    cases action with
    | run => exact agreeOn_runWith h (fun _ _ hs => hs) (fun _ _ _ => rfl) 0
    | settings | newFile | openFile | save | saveAs => exact hcalled 0 _ (by simp)
  | succ fuel ih =>
    cases action with
    | run =>
      refine agreeOn_runWith h (fun keys s hs => ?_) (fun keys s hs => ?_) fuel
      · exact hs.pressed (fuel + 1) keys
      · cases shortcuts.action? keys with
        | none => rfl
        | some action => exact (ih action).guarded hs
    | settings | newFile | openFile | save | saveAs => exact hcalled (fuel + 1) _ (by simp)

theorem agreeOn_offerSaveWith (h : AgreeOn (Backed r) save' save) {again again' : Command Unit}
    (hagain : AgreeOn (Backed r) again' again) :
    AgreeOn (Backed r) (offerSaveWith save' again') (offerSaveWith save again) := by
  have hclean : Preserves (Backed r) (modify ({ · with dirty := false })) :=
    preserves_modify fun _ h => h.clean
  refine AgreeOn.get_bind fun s _ => ?_
  split
  · refine (AgreeOn.refl _).bind (backed_ask _) fun reply => ?_
    split
    · exact (AgreeOn.refl _).bind hclean fun _ => h.bind backed_save fun _ => hagain
    · split
      · exact (AgreeOn.refl _).bind hclean fun _ => hagain
      · exact .refl _
  · exact .refl _

theorem agreeOn_offerStop {again again' : Command Unit} (hagain : AgreeOn (Backed r) again' again) :
    AgreeOn (Backed r) (offerStop again') (offerStop again) := by
  have hstop : Preserves (Backed r) (modify (·.pressStop)) :=
    preserves_modify fun _ h => ⟨h.unsaved, h.kept⟩
  refine AgreeOn.get_bind fun s _ => ?_
  split
  · refine (AgreeOn.refl _).bind (backed_ask _) fun reply => ?_
    split
    · exact (AgreeOn.refl _).bind hstop fun _ => hagain
    · exact .refl _
  · exact .refl _

theorem agreeOn_closeWithinWith (h : AgreeOn (Backed r) save' save) (turns : Nat) :
    AgreeOn (Backed r) (closeWithinWith save' turns) (closeWithinWith save turns) := by
  induction turns with
  | zero => exact .refl _
  | succ turns ih =>
    have hkept : Preserves (Backed r) (closeWithinWith save turns) := backed_closeWithin turns
    exact (agreeOn_offerStop ih).bind (backed_offerStop hkept) fun _ =>
      (agreeOn_offerSaveWith h ih).bind (backed_offerSave hkept) fun _ => .refl _

theorem agreeOn_closeWith (h : AgreeOn (Backed r) save' save) :
    AgreeOn (Backed r) (closeWith save') (closeWith save) :=
  AgreeOn.get_bind fun _ _ => agreeOn_closeWithinWith h _

theorem agreeOn_actWith (h : AgreeOn (Backed r) save' save) (fuel : Nat) (action : Action) :
    AgreeOn (Backed r) (actWith save' fuel action) (act fuel action) := by
  unfold act actWith
  cases action with
  | menu path =>
    dsimp only
    cases menuBar.find? path with
    | none => exact .refl _
    | some entry =>
      cases entry with
      | key action => exact agreeOn_performWith h fuel action
      | close => exact agreeOn_closeWith h
      | about | wiki | stop => exact .refl _
  | press keys =>
    dsimp only [pressWith]
    cases shortcuts.action? keys with
    | none => exact .refl _
    | some action => exact agreeOn_performWith h fuel action
  | close => exact agreeOn_closeWith h
  | type | moveCursor | click | writeFile | makeFolder | removeFile | setSwitches | highlight =>
    exact .refl _

theorem agreeOn_startWith (h : AgreeOn (fun s => s.dirty = false) save' save) :
    AgreeOn (fun s => s.dirty = false) (startWith save') start :=
  (AgreeOn.refl _).bind (preserves_loadImages _) fun _ =>
    (AgreeOn.refl _).bind clean_loadPreferences fun _ =>
      (AgreeOn.refl _).bind clean_changeAppearance fun _ =>
        (AgreeOn.refl _).bind clean_showFile fun _ => h.bind clean_save fun _ => .refl _

end Agreement

/-! Saving calls saving under another name where there is no file, and that calls saving again. -/

/-- Saving, with calls of itself at most `depth` deep. -/
def saveWithin : Nat → Command Unit
  | 0 => throw .unfinished
  | depth + 1 => do
    if (← get).file.isNoFile then
      saveAsWith (saveWithin depth)
      modify (·.markClean)
    else saveNamed

/-- The second call finds the file that was chosen, so there is no third one. -/
theorem saveWithin_eq (depth : Nat) : saveWithin (depth + 2) = save := by
  have hcalled : saveAsWith (saveWithin (depth + 1)) = saveAs := by
    apply saveAsWith_eq
    intro s hfile
    change (if s.file.isNoFile = true then _ else saveNamed) s = saveNamed s
    rw [hfile]
    rfl
  rw [saveWithin, hcalled]
  rfl

end Command

/-- At most `n` events were noted since `s`. -/
def Session.Noted (n : Nat) (s r : Session) : Prop :=
  ∃ noted, r.journal.events = s.journal.events ++ noted ∧ noted.length ≤ n

namespace Command

open Session

variable {n : Nat} {s : Session}

theorem noted_saveNamed : Preserves (Noted n s) saveNamed := by
  refine Preserves.bind ?_ fun _ => preserves_modify fun _ h => h
  exact (preserves_fileName _).bind fun _ => preserves_get_bind fun _ h =>
    (preserves_ofFile _).bind fun _ => preserves_set h

/-- Only the dialog is noted, and there is one only where there is no file. -/
theorem noted_save (s : Session) : Noted (if s.file.isNoFile then 1 else 0) s (after save s) := by
  have hself (n : Nat) : Noted n s s := ⟨[], (List.append_nil _).symm, Nat.zero_le n⟩
  cases hfile : s.file.isNoFile with
  | false =>
    have hsave : after save s = after saveNamed s := by
      unfold after
      rw [save_of_hasFile hfile]
    rw [hsave]
    exact noted_saveNamed.after (hself _)
  | true =>
    have hdialog : Meets (fun s' => s' = s) (askFile .saveAs) (fun _ => Noted 1 s)
        fun _ => Noted 1 s := by
      rintro _ rfl
      rw [askFile_eq]
      exact ⟨[_], rfl, Nat.le_refl 1⟩
    have hsaveAs : Meets (fun s' => s' = s) saveAs (fun _ => Noted 1 s) fun _ => Noted 1 s := by
      refine hdialog.bind fun file? => ?_
      cases file? with
      | none => exact preserves_pure _
      | some file =>
        have hfile : Preserves (Noted 1 s) (modify ({ · with file := file })) :=
          preserves_modify fun _ h => h
        exact hfile.bind fun _ => noted_saveNamed.bind fun _ =>
          preserves_showFile fun _ _ _ _ _ _ h => h
    have hsave : save s = (saveAs >>= fun _ => modify (·.markClean)) s := by
      change (if s.file.isNoFile = true then _ else _ : Command Unit) s = _
      rw [hfile]
      rfl
    have hafter : Meets (fun s' => s' = s) (saveAs >>= fun _ => modify (·.markClean))
        (fun _ => Noted 1 s) fun _ => Noted 1 s :=
      hsaveAs.bind fun _ => preserves_modify fun _ h => h
    unfold after
    rw [hsave]
    exact hafter.after rfl

end Command

/-- In every session that can occur, also while a program runs in it, text that counts as unsaved
has a file, and a file that was there once stays. So nothing that is done in it, and no start,
depends on what saving does with unsaved text that has no file. The calls of saving by itself are at
most two deep, with one dialog at most, whether it succeeds or not. -/
theorem unsaved_text_has_file :
    (∀ s : Session, s.Reached →
      (∀ r, Reachable (fun _ _ => True) s r → Session.Backed s r) ∧
      ∀ fuel script r, Session.Meanwhile fuel (s.beginAction script) r → Session.Backed s r) ∧
    (∀ save' : Command Unit,
      (∀ r : Session, (r.dirty = true → r.file.isNoFile = false) → save' r = Command.save r) →
      (∀ folder script highlighter toolkit,
        let s := { Session.initial folder script with
          highlighter := highlighter, toolkit := toolkit }
        Command.startWith save' s = Command.start s ∧
          (Command.after Command.start s).dirty = false) ∧
      ∀ s : Session, s.Reached → ∀ fuel action script,
        Command.actWith save' fuel action (s.beginAction script) =
          Command.act fuel action (s.beginAction script)) ∧
    ∀ s : Session,
      (s.file.isNoFile = false → Command.save s = Command.saveNamed s) ∧
      (∀ depth, Command.saveWithin (depth + 2) s = Command.save s) ∧
      (∀ r, Command.save s ≠ .error .unfinished r) ∧
      Session.Noted (if s.file.isNoFile then 1 else 0) s (Command.after Command.save s) := by
  refine ⟨fun s hs => ⟨fun r hr => hs.backed.of_reachable hr, fun fuel script r hr => ?_⟩,
    fun save' hsave => ⟨fun folder script highlighter toolkit => ?_,
      fun s hs fuel action script => ?_⟩,
    fun s => ⟨Command.save_of_hasFile, fun depth => ?_, fun r hr => ?_, Command.noted_save s⟩⟩
  · have hbegin : Session.Backed s (s.beginAction script) := ⟨hs.backed.unsaved, hs.backed.kept⟩
    exact hbegin.meanwhile hr
  · refine ⟨Command.agreeOn_startWith (fun r hr => hsave r fun hdirty => ?_) _ rfl,
      Command.clean_start.after rfl⟩
    simp [hr] at hdirty
  · have hagree : Command.AgreeOn (Session.Backed s) save' Command.save :=
      fun r hr => hsave r hr.unsaved
    exact Command.agreeOn_actWith hagree fuel action _ ⟨hs.backed.unsaved, hs.backed.kept⟩
  · rw [Command.saveWithin_eq]
  · have hsettles := Command.settles_save s trivial
    rw [hr] at hsettles
    exact hsettles rfl

/-- A session starts without a file. A file is chosen, something is typed, and the session is closed
with a saving that fails on unsaved text without a file. -/
theorem unsaved_text_has_file_chosen :
    let folder := Folder.sample [] []
    let s := Session.startedIn folder
    let chosen := s.react 0 (.menu ["File".toList, "Save".toList])
      { Script.silent with replies := [.text ['a']] }
    let typed := chosen.react 0 (.type 0 ['+'] true) .silent
    let refusing : Command Unit := fun r =>
      if r.dirty && r.file.isNoFile then .error .unfinished r else Command.save r
    s.file.isNoFile = true ∧ typed.Reached ∧ typed.dirty = true ∧ typed.file.isNoFile = false ∧
      ∀ script, Command.actWith refusing 0 .close (typed.beginAction script) =
        Command.act 0 .close (typed.beginAction script) := by
  intro folder s chosen typed refusing
  have hfacts : Command.succeeds Command.start (.initial folder .silent) = true ∧
      s.file.isNoFile = true ∧ typed.dirty = true := by
    decide +kernel
  obtain ⟨hok, hnone, hdirty⟩ := hfacts
  have hreached : typed.Reached := ((Session.reached_startedIn hok).react 0 _ _).react 0 _ _
  have hsame (r : Session) (hr : r.dirty = true → r.file.isNoFile = false) :
      refusing r = Command.save r := by
    refine if_neg ?_
    simpa using hr
  obtain ⟨hbacked, hindependent, -⟩ := unsaved_text_has_file
  exact ⟨hnone, hreached, hdirty, ((hbacked typed hreached).1 typed .start).unsaved hdirty,
    (hindependent refusing hsame).2 typed hreached 0 .close⟩

end TapeStudio
