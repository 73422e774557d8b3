import Mathlib.Logic.Relation
import TapeStudio.Proofs.FailedOpen

/-! Which files an action of the user changes. An action is a sequence of moments: the text of the
editor changes in one, the choice of the current file in another, and a file only in those in which
the text of the editor is stored in the current file. Before another file is opened or made, the
text is stored in the one that is current until then. -/
namespace TapeStudio

/-- This text is typed after so many backspaces: by an action of its own, or while a program
waits. -/
def Typed (action : Action) (script : Script) (backspaces : Nat) (t : Text) : Prop :=
  (∃ released, action = .type backspaces t released) ∨ backspaces = 0 ∧ .type t ∈ script.gestures

/-- What can happen at a time to the text of the editor, to the choice of the current file and to
the folder, during an action to which the world answers by a script. -/
inductive Moment (action : Action) (script : Script) : Session → Session → Prop where
  | aside {s s' : Session} (content : s'.editor.content = s.editor.content)
      (file : s'.file = s.file)
      (folder : s'.folder = s.folder) : Moment action script s s'
  | type {s : Session} {backspaces : Nat} {t : Text} (typed : Typed action script backspaces t) :
      Moment action script s { s with editor := (s.editor.backspace backspaces).typeText t }
  | clear (s : Session) : Moment action script s s.clearEditor
  | load {s s' : Session} {name t : Text} (named : s.file = .named name)
      (read : s.folder.readText name = .ok t)
      (content : s'.editor.content = Text.dropTrailingNewlines t) (file : s'.file = s.file)
      (folder : s'.folder = s.folder) : Moment action script s s'
  | choose {s : Session} {reply : Value} {file : FileChoice} (replied : reply ∈ script.replies)
      (chosen : FileChoice.ofReply? reply = some file) :
      Moment action script s { s with file := file }
  | store {s : Session} {name : Text} {folder : Folder} (named : s.file = .named name)
      (write : s.folder.writeText name (s.editor.content ++ ['\n']) = .ok folder) :
      Moment action script s { s with folder := folder }

/-- One moment after the other. -/
def Moments (action : Action) (script : Script) : Session → Session → Prop :=
  Relation.ReflTransGen (Moment action script)

section Changes

variable {action : Action} {script : Script} {s s' : Session}

/-- In a moment nothing changes in the folder, or the text is stored. -/
theorem Moment.folder_cases (h : Moment action script s s') : s'.folder = s.folder ∨
    ∃ name, s.file = .named name ∧
      s.folder.writeText name (s.editor.content ++ ['\n']) = .ok s'.folder := by
  cases h with
  | aside _ _ folder => exact .inl folder
  | type _ => exact .inl rfl
  | clear => exact .inl rfl
  | load _ _ _ _ folder => exact .inl folder
  | choose _ _ => exact .inl rfl
  | store named write => exact .inr ⟨_, named, write⟩

/-- What has changed at a place was stored there, in a moment when the current file was there. -/
theorem Moments.find?_cases (h : Moments action script s s') (p : Path) :
    s'.folder.find? p = s.folder.find? p ∨
      ∃ m name, Moments action script s m ∧ Moments action script m s' ∧ m.file = .named name ∧
        m.folder.place? name = some p ∧
        s'.folder.find? p = some (.file (Text.encode (m.editor.content ++ ['\n']))) := by
  induction h with
  | refl => exact .inl rfl
  | @tail b c hbefore hlast ih =>
    -- the last moment stores at this place, or leaves it alone
    have hlast' : Moments action script b c := .single hlast
    have hkept (hp : c.folder.find? p = b.folder.find? p) : c.folder.find? p = s.folder.find? p ∨
        ∃ m name, Moments action script s m ∧ Moments action script m c ∧ m.file = .named name ∧
          m.folder.place? name = some p ∧
          c.folder.find? p = some (.file (Text.encode (m.editor.content ++ ['\n']))) := by
      rw [hp]
      rcases ih with hsame | ⟨m, name, hsm, hmb, hfile, hplace, hbytes⟩
      · exact .inl hsame
      · exact .inr ⟨m, name, hsm, hmb.trans hlast', hfile, hplace, hbytes⟩
    rcases hlast.folder_cases with hfolder | ⟨name, hfile, hwrite⟩
    · exact hkept (by rw [hfolder])
    · by_cases hplace : b.folder.place? name = some p
      · exact .inr ⟨b, name, hbefore, hlast', hfile, hplace,
          Folder.find?_of_writeText hwrite hplace⟩
      · exact hkept (Folder.find?_of_writeText_of_ne hwrite hplace)

end Changes

/-- A session somewhere in an action that began with `s₀`. What is left of the script is part of
it. -/
structure Along (action : Action) (script : Script) (s₀ s : Session) : Prop where
  moments : Moments action script s₀ s
  replies : s.script.replies ⊆ script.replies
  gestures : s.script.gestures ⊆ script.gestures

namespace Along

variable {action : Action} {script : Script} {s₀ s s' : Session}

theorem start (s : Session) : Along action script (s.beginAction script) (s.beginAction script) :=
  ⟨.refl, List.Subset.refl _, List.Subset.refl _⟩

theorem next (h : Along action script s₀ s) (hm : Moment action script s s')
    (hscript : s'.script = s.script) : Along action script s₀ s' where
  moments := h.moments.tail hm
  replies := hscript ▸ h.replies
  gestures := hscript ▸ h.gestures

theorem aside (h : Along action script s₀ s) (content : s'.editor.content = s.editor.content)
    (file : s'.file = s.file) (folder : s'.folder = s.folder) (hscript : s'.script = s.script) :
    Along action script s₀ s' :=
  h.next (.aside content file folder) hscript

theorem of_looksOnly (h : Along action script s₀ s) (hl : LooksOnly s s') :
    Along action script s₀ s' :=
  h.aside (by rw [hl.editor]) hl.file hl.folder hl.script

/-- Releasing a key compares the text with the file and colours it. -/
theorem keyReleased (h : Along action script s₀ s) : Along action script s₀ s.keyReleased := by
  have hcompare : Command.Preserves (Along action script s₀) Command.compare := by
    refine (Command.preserves_fileName _).bind fun _ => Command.preserves_get_bind fun s hs =>
      (Command.preserves_ofFile _).bind fun content => ?_
    split
    · exact Command.preserves_set (hs.aside rfl rfl rfl rfl)
    · exact Command.preserves_pure _
  have hlog : ∀ (r : Session) events, Along action script s₀ r →
      Along action script s₀ (r.log events) := fun r events hr => hr.aside rfl rfl rfl rfl
  unfold Session.keyReleased
  refine of_looksOnly ?_ (LooksOnly.refl _).highlight
  split
  · exact Session.guarded_of_preserves hcompare (fun r fault hr => hlog r _ hr) (hlog s _ h)
  · exact hlog s _ h

theorem typeInEditor (h : Along action script s₀ s) {backspaces : Nat} {t : Text}
    (typed : Typed action script backspaces t) (released : Bool) :
    Along action script s₀ (s.typeInEditor backspaces t released) := by
  have htyped := h.next (.type typed) rfl
  unfold Session.typeInEditor
  split
  · exact htyped.keyReleased
  · exact htyped

theorem attend {press : Text → Session → Session}
    (hpress : ∀ keys s, Along action script s₀ s → Along action script s₀ (press keys s))
    {gestures : List Gesture} (hgestures : gestures ⊆ script.gestures)
    (h : Along action script s₀ s) :
    Along action script s₀
      (Session.attend press (Session.typeInEditor 0 · true) gestures s) := by
  induction gestures generalizing s with
  | nil => exact h.aside rfl rfl rfl rfl
  | cons gesture rest ih =>
    have hgesture : gesture ∈ script.gestures := hgestures (List.mem_cons_self ..)
    have hrest : rest ⊆ script.gestures := fun _ hmem => hgestures (List.mem_cons_of_mem _ hmem)
    have htaken : Along action script s₀
        { s with script := { s.script with gestures := rest } } :=
      ⟨h.moments.tail (.aside rfl rfl rfl), h.replies, hrest⟩
    cases gesture with
    | enterLine line => exact htaken.aside rfl rfl rfl rfl
    | stop => exact htaken.aside rfl rfl rfl rfl
    | press keys => exact ih hrest (hpress keys _ htaken)
    | type t => exact ih hrest (htaken.typeInEditor (.inr ⟨rfl, hgesture⟩) true)

theorem printPiece (h : Along action script s₀ s) (piece : List CodePoint) :
    Along action script s₀ (s.printPiece piece) := by
  unfold Session.printPiece
  dsimp only
  split
  · exact h.aside rfl rfl rfl rfl
  · split
    · exact h.aside rfl rfl rfl rfl
    · exact h.aside rfl rfl rfl rfl

end Along

namespace Command

variable {action : Action} {script : Script} {s₀ : Session}

/-- A file is chosen by a reply of the script. -/
theorem along_askFile (dialog : FileDialog) :
    Meets (Along action script s₀) (askFile dialog)
      (fun file? s => Along action script s₀ s ∧ ∀ file, file? = some file →
        ∃ reply ∈ script.replies, FileChoice.ofReply? reply = some file)
      fun _ => Along action script s₀ := by
  intro s h
  rw [askFile_eq]
  constructor
  · exact ⟨h.moments.tail (.aside rfl rfl rfl), fun _ hmem => h.replies (List.mem_of_mem_tail hmem),
      h.gestures⟩
  · intro file hfile
    cases hreplies : s.script.replies with
    | nil => simp [hreplies, FileChoice.ofReply?, Value.isYes] at hfile
    | cons reply rest =>
      rw [hreplies] at hfile
      exact ⟨reply, h.replies (by simp [hreplies]), hfile⟩

theorem along_choosing (dialog : FileDialog) {next : FileChoice → Command Unit}
    (hnext : ∀ file, Preserves (Along action script s₀) (next file)) :
    Preserves (Along action script s₀) (do
      match ← askFile dialog with
      | some file =>
        modify ({ · with file := file })
        next file
      | none => pure ()) := by
  refine (along_askFile dialog).bind fun file? => ?_
  cases file? with
  | none => exact meets_pure fun s h => h.1
  | some file =>
    refine Meets.bind (R := fun _ => Along action script s₀) (meets_modify ?_) fun _ => hnext file
    rintro s ⟨h, hchosen⟩
    obtain ⟨reply, hreply, hfile⟩ := hchosen file rfl
    exact h.next (.choose hreply hfile) rfl

theorem along_saveNamed : Preserves (Along action script s₀) saveNamed := by
  intro s h
  cases hfile : s.file with
  | unnamed reply =>
    rw [saveNamed_of_unnamed hfile]
    exact h
  | named name =>
    rw [saveNamed_of_named hfile]
    cases hwrite : s.folder.writeText name s.editor.whole with
    | error fault => exact h
    | ok folder =>
      rw [TextBox.whole_eq] at hwrite
      exact (h.next (.store hfile hwrite) rfl).aside rfl rfl rfl rfl

/-- The editor is emptied, and then the file is put into it. -/
theorem along_showFile : Preserves (Along action script s₀) showFile := by
  refine Meets.bind (R := fun _ s => Along action script s₀ s ∧ s.editor.content = [])
    (meets_modify fun s h => ⟨h.next (.clear s) rfl, TextBox.content_clear _⟩) fun _ => ?_
  refine Meets.bind (meets_fileName.weaken (fun _ h => h) (fun _ _ h => h) fun _ _ h => h.1)
    fun name => meets_get_bind ?_
  rintro s ⟨⟨h, hempty⟩, hfile⟩
  cases hread : s.folder.readText name with
  | ok t =>
    refine fun _ _ => ?_
    cases ht : (Text.dropTrailingNewlines t).isEmpty with
    | true =>
      simp only [ht, if_true]
      have hcontent : s.editor.content = Text.dropTrailingNewlines t := by
        rw [hempty, List.isEmpty_iff.mp ht]
      exact h.next (.load hfile hread hcontent rfl rfl) rfl
    | false =>
      simp only [ht, Bool.false_eq_true, if_false]
      have hloaded : Along action script s₀ { s with
          editor := s.editor.insertAt (s.editor.offset (.column 1 0))
            (Text.dropTrailingNewlines t) } :=
        h.next (.load hfile hread (TextBox.content_insertAt hempty _ _) rfl rfl) rfl
      exact (hloaded.of_looksOnly (LooksOnly.refl _).highlight).aside rfl rfl rfl rfl
  | error fault =>
    dsimp only
    split
    · rintro _ rfl
      exact h
    · exact meets_pure fun _ hs => hs ▸ h

theorem along_saveAs : Preserves (Along action script s₀) saveAs :=
  along_choosing .saveAs fun _ => along_saveNamed.bind fun _ => along_showFile

theorem along_save : Preserves (Along action script s₀) save :=
  preserves_save along_saveAs (fun _ h => h.aside rfl rfl rfl rfl) along_saveNamed

theorem upheld_along : Upheld (Along action script s₀) where
  console hpress := Session.maintains_of_attend (fun _ piece h => h.printPiece piece)
    (fun _ h => Along.attend hpress h.gestures (h.aside rfl rfl rfl rfl))
    fun _ h => h.aside rfl rfl rfl rfl
  clearInput _ h := h.aside rfl rfl rfl rfl
  switches _ _ h := h.aside rfl rfl rfl rfl
  endings _ _ h := h.aside rfl rfl rfl rfl
  looks _ _ := Along.of_looksOnly
  save := along_save
  saveAs := along_saveAs
  newFile := along_save.bind fun _ => along_choosing .create fun _ =>
    (preserves_modify fun s h => h.next (.clear s) rfl).bind fun _ =>
      along_save.bind fun _ => along_showFile
  openFile := along_save.bind fun _ => along_choosing .openFile fun _ => along_showFile

end Command

/-- The action asks for the session to be closed. -/
def Action.closes : Action → Bool
  | .close => true
  | .menu path => Session.menuBar.find? path = some .close
  | _ => false

def Session.Fetched (s : Session) : Prop := ∃ url, .fetched url ∈ s.journal.events

namespace Command

variable {action : Action} {script : Script} {s₀ : Session}

/-- A click changes the looks, unless it fetches the theme. -/
theorem along_click (caption : Text) :
    Preserves (fun s => s.Fetched ∨ Along action script s₀ s) (click caption) := by
  have hlooks : ∀ s s' : Session, s.Fetched → LooksOnly s s' → s'.Fetched := by
    rintro s s' ⟨url, hurl⟩ hl
    obtain ⟨more, hmore, -⟩ := hl.events
    exact ⟨url, hmore ▸ List.mem_append_left _ hurl⟩
  apply preserves_click
  · intro s s' h hl
    exact h.imp (fun h => hlooks s s' h hl) fun h => h.of_looksOnly hl
  · have hfetched : Meets (fun _ => True) downloadTheme (fun _ => Session.Fetched)
        fun _ => Session.Fetched := by
      refine meets_downloadTheme (fun s _ => ?_) hlooks fun _ _ h => h
      exact ⟨_, List.mem_append_right _ (List.mem_singleton_self _)⟩
    exact hfetched.weaken (fun _ _ => trivial) (fun _ _ => .inl) fun _ _ => .inl

theorem along_act (fuel : Nat) (ha : action.byUser = true) (hcloses : action.closes = false) :
    Meets (Along action script s₀) (act fuel action)
      (fun _ s => s.Fetched ∨ Along action script s₀ s)
      fun _ s => s.Fetched ∨ Along action script s₀ s := by
  have hkept {c : Command Unit} (h : Preserves (Along action script s₀) c) :
      Meets (Along action script s₀) c (fun _ s => s.Fetched ∨ Along action script s₀ s)
        fun _ s => s.Fetched ∨ Along action script s₀ s :=
    h.weaken (fun _ h => h) (fun _ _ => .inr) fun _ _ => .inr
  have hlooks {f : Session → Session} (h : ∀ s, LooksOnly s (f s)) :
      Preserves (Along action script s₀) (modify f) :=
    preserves_modify fun s hs => hs.of_looksOnly (h s)
  cases action with
  | menu path =>
    apply hkept
    unfold act actWith
    dsimp only
    cases hpath : Session.menuBar.find? path with
    | none => exact preserves_pure _
    | some entry =>
      cases entry with
      | key key => exact upheld_along.perform fuel key
      | close => simp [Action.closes, hpath] at hcloses
      | about => exact hlooks fun s => (LooksOnly.refl s).openAbout
      | wiki => exact hlooks fun s => (LooksOnly.refl s).openWiki
      | stop => exact preserves_modify fun s h => h.aside rfl rfl rfl rfl
  | press keys =>
    apply hkept
    unfold act actWith pressWith
    dsimp only
    split
    · exact upheld_along.perform fuel _
    · exact preserves_pure _
  | close => contradiction
  | type backspaces t released =>
    exact hkept (preserves_modify fun s h => h.typeInEditor (.inl ⟨released, rfl⟩) released)
  | moveCursor index =>
    exact hkept (preserves_moveCursor (fun s cursor h => h.aside rfl rfl rfl rfl) index)
  | click caption =>
    exact (along_click caption).weaken (fun _ => .inr) (fun _ _ h => h) fun _ _ h => h
  | highlight => exact hkept (hlooks fun s => (LooksOnly.refl s).highlight)
  | writeFile name bytes => contradiction
  | makeFolder name => contradiction
  | removeFile name => contradiction
  | setSwitches stop? running? => contradiction

end Command

theorem FileChoice.eq_text_of_ofReply? {reply : Value} {name : Text}
    (h : ofReply? reply = some (.named name)) : reply = .text name := by
  unfold ofReply? at h
  split at h
  · split at h
    · simpa using h
    · simp at h
  · contradiction

/-- A session that came to another file from `s`, or did not. The only file dialog came after the
text of `s` was stored, which gave `folder`, and only its reply can have become the current file. If
`kept`, then the file `name` still holds the text. -/
structure Switched (s : Session) (name : Text) (dialog : FileDialog) (folder : Folder)
    (kept : Prop) (r : Session) : Prop where
  requests : r.journal.requests =
    s.journal.requests ++ [⟨dialog, s.script.replies.headD (.text []), folder⟩]
  file : r.file = s.file ∨
    FileChoice.ofReply? (s.script.replies.headD (.text [])) = some r.file
  stored : kept → r.folder.readCause name = .ok (Text.encode (s.editor.content ++ ['\n']))

namespace Command

variable {s : Session} {name : Text} {dialog : FileDialog} {folder : Folder} {kept : Prop}

theorem save_of_unnamed {reply : Value} (h : s.file = .unnamed reply) :
    save s = .error (.noName (.ofReply reply)) s := by
  rw [← saveNamed_of_unnamed h]
  obtain ⟨⟩ := s
  subst h
  rfl

theorem switched_showFile : Preserves (Switched s name dialog folder kept) showFile :=
  preserves_showFile fun _ _ _ _ _ _ h => ⟨h.requests, h.file, h.stored⟩

/-- Opening and making a file begin with storing the text, after which a file is asked for. -/
theorem switched_choosing (hfile : s.file = .named name) (hname : name ≠ [])
    (hwrite : s.folder.writeText name (s.editor.content ++ ['\n']) = .ok folder)
    {next : FileChoice → Command Unit}
    (hnext : ∀ file, FileChoice.ofReply? (s.script.replies.headD (.text [])) = some file →
      Meets (fun r => Switched s name dialog folder kept r ∧ r.folder = folder ∧ r.file = file)
        (next file) (fun _ => Switched s name dialog folder kept)
        fun _ => Switched s name dialog folder kept) :
    Meets (fun r => r = s) (do
      save
      match ← askFile dialog with
      | some file =>
        modify ({ · with file := file })
        next file
      | none => pure ()) (fun _ => Switched s name dialog folder kept)
        fun _ => Switched s name dialog folder kept := by
  have hwhole : s.folder.writeText name s.editor.whole = .ok folder := by
    rw [TextBox.whole_eq]
    exact hwrite
  have hsave := save_of_writeText hfile hname hwhole
  refine Meets.bind (R := fun _ r => r = { s with folder := folder }.markClean) ?_ fun _ =>
    Meets.bind (R := fun file? r => Switched s name dialog folder kept r ∧ r.folder = folder ∧
      file? = FileChoice.ofReply? (s.script.replies.headD (.text []))) ?_ fun file? => ?_
  · rintro _ rfl
    rw [hsave]
  · rintro _ rfl
    rw [askFile_eq]
    exact ⟨⟨rfl, .inl rfl, fun _ => Folder.readCause_of_writeText hwrite⟩, rfl, rfl⟩
  · cases file? with
    | none => exact meets_pure fun r h => h.1
    | some file =>
      rintro r ⟨h, hfolder, hchosen⟩
      exact hnext file hchosen.symm { r with file := file }
        ⟨⟨h.requests, .inr hchosen.symm, h.stored⟩, hfolder, rfl⟩

theorem switched_openFile (hfile : s.file = .named name) (hname : name ≠ [])
    (hwrite : s.folder.writeText name (s.editor.content ++ ['\n']) = .ok folder) :
    Switched s name .openFile folder True (after openFile s) := by
  have hopen : Meets (fun r => r = s) openFile (fun _ => Switched s name .openFile folder True)
      fun _ => Switched s name .openFile folder True :=
    switched_choosing hfile hname hwrite fun _ _ =>
      switched_showFile.weaken (fun _ h => h.1) (fun _ _ h => h) fun _ _ h => h
  exact hopen.after rfl

/-- A new file is emptied, which loses the text if it is the same file as before. -/
theorem switched_newFile (hfile : s.file = .named name) (hname : name ≠ [])
    (hwrite : s.folder.writeText name (s.editor.content ++ ['\n']) = .ok folder) :
    Switched s name .create folder
      (∀ other, s.script.replies.headD (.text []) = .text other →
        folder.place? name ≠ folder.place? other) (after newFile s) := by
  let kept := ∀ other, s.script.replies.headD (.text []) = .text other →
    folder.place? name ≠ folder.place? other
  have hnew : Meets (fun r => r = s) newFile (fun _ => Switched s name .create folder kept)
      fun _ => Switched s name .create folder kept := by
    refine switched_choosing hfile hname hwrite fun file hchosen => ?_
    refine Meets.bind (R := fun _ r => Switched s name .create folder kept r ∧
      r.folder = folder ∧ r.file = file) (meets_modify fun r h => ⟨{ h.1 with }, h.2⟩) fun _ =>
        Meets.bind (R := fun _ => Switched s name .create folder kept) ?_ fun _ => switched_showFile
    rintro r ⟨h, hfolder, rfl⟩
    cases hother : r.file with
    | unnamed reply =>
      rw [save_of_unnamed hother]
      exact h
    | named other =>
      rw [hother] at hchosen
      rw [save_of_named hother (FileChoice.nonempty_of_ofReply? hchosen), saveNamed_of_named hother]
      cases hemptied : r.folder.writeText other r.editor.whole with
      | error fault => exact h
      | ok folder' =>
        refine ⟨h.requests, h.file, fun hkept => ?_⟩
        have hapart := hkept other (FileChoice.eq_text_of_ofReply? hchosen)
        exact Folder.readCause_of_writeText_of_ne hemptied (hfolder ▸ hapart) (h.stored hkept)
  exact hnew.after rfl

end Command

/-- In every session: An action of the user, unless it closes the session or fetches the theme, is a
sequence of moments. What has changed at a place of the folder was stored in one of them: the text
that the editor held then, with a newline, in the file that was current then. And when another file
is opened or made while the current one can be written, the text is first stored in the current one,
before a file is asked for; it is still there afterwards, unless that very file was chosen for the
new one. -/
theorem files_hold_text_of_editor (s : Session) :
    (∀ fuel action script, action.byUser = true → action.closes = false →
      let r := s.react fuel action script
      (∀ url, .fetched url ∉ r.journal.events) →
      Moments action script (s.beginAction script) r ∧
      ∀ p, r.folder.find? p ≠ s.folder.find? p →
        ∃ m name, Moments action script (s.beginAction script) m ∧ Moments action script m r ∧
          m.file = .named name ∧ m.folder.place? name = some p ∧
          r.folder.find? p = some (.file (Text.encode (m.editor.content ++ ['\n'])))) ∧
    ∀ fuel name, s.file = .named name → name ≠ [] →
      (∃ folder, s.folder.writeText name [] = .ok folder) →
      ∃ folder, s.folder.writeText name (s.editor.content ++ ['\n']) = .ok folder ∧
        Switched s name .openFile folder True
          (Command.after (Command.perform fuel .openFile) s) ∧
        Switched s name .create folder
          (∀ other, s.script.replies.headD (.text []) = .text other →
            folder.place? name ≠ folder.place? other)
          (Command.after (Command.perform fuel .newFile) s) := by
  constructor
  · intro fuel action script ha hcloses r hfetched
    have hact : r.Fetched ∨ Along action script (s.beginAction script) r :=
      (Command.along_act fuel ha hcloses).after (.start s)
    have hmoments : Moments action script (s.beginAction script) r := by
      rcases hact with ⟨url, hurl⟩ | h
      · exact absurd hurl (hfetched url)
      · exact h.moments
    refine ⟨hmoments, fun p hp => ?_⟩
    exact (hmoments.find?_cases p).resolve_left hp
  · intro fuel name hfile hname hwritable
    obtain ⟨g, hg⟩ := hwritable
    obtain ⟨folder, hwrite⟩ := Folder.exists_writeText hg (s.editor.content ++ ['\n'])
    rw [Command.perform_openFile, Command.perform_newFile]
    exact ⟨folder, hwrite, Command.switched_openFile hfile hname hwrite,
      Command.switched_newFile hfile hname hwrite⟩

/-- A new file is made while the text in the editor differs from the current file. -/
theorem files_hold_text_of_editor_new :
    let folder := Folder.ofFiles [(['a'], Text.encode ['-'])]
    let script := { Script.silent with replies := [.text ['b']] }
    let s := { Session.initial folder script with
      editor := ⟨['+'], 1⟩
      file := .named ['a'] }
    let action := Action.menu ["File".toList, "New".toList]
    let r := s.react 0 action script
    r.folder.readCause ['b'] = .ok (Text.encode ['\n']) ∧
      (∃ m name, Moments action script (s.beginAction script) m ∧ m.file = .named name ∧
        m.folder.place? name = some [['b']] ∧
        r.folder.find? [['b']] = some (.file (Text.encode (m.editor.content ++ ['\n'])))) ∧
      (Command.after (Command.perform 0 .newFile) s).folder.readCause ['a'] =
        .ok (Text.encode ['+', '\n']) := by
  intro folder script s action r
  have hfacts : r.folder.readCause ['b'] = .ok (Text.encode ['\n']) ∧
      (r.folder.find? [['b']]).isSome = true ∧ (s.folder.find? [['b']]).isSome = false ∧
      (r.journal.events.all fun event => match event with | .fetched _ => false | _ => true) =
        true ∧
      (s.folder.writeText ['a'] ['+', '\n']).toOption.map
        (fun folder => (folder.place? ['a'], folder.place? ['b'])) =
          some (some [['a']], some [['b']]) := by
    decide +kernel
  obtain ⟨hread, hsome, hnone, hevents, hplaces⟩ := hfacts
  have hchanged : r.folder.find? [['b']] ≠ s.folder.find? [['b']] := by
    intro hsame
    rw [hsame, hnone] at hsome
    contradiction
  have hfetched : ∀ url, .fetched url ∉ r.journal.events := fun url hurl =>
    absurd (List.all_eq_true.mp hevents _ hurl) (by simp)
  have hwritable : ∃ g, s.folder.writeText ['a'] [] = .ok g :=
    Folder.exists_writeText_of_isOk (by decide +kernel)
  obtain ⟨haction, hswitch⟩ := files_hold_text_of_editor s
  obtain ⟨m, name, hm, -, hfile, hplace, hstored⟩ :=
    (haction 0 action script rfl (by decide +kernel) hfetched).2 [['b']] hchanged
  obtain ⟨g, hwrite, -, hnew⟩ := hswitch 0 ['a'] rfl (by decide) hwritable
  have hkept : ∀ other, s.script.replies.headD (.text []) = .text other →
      g.place? ['a'] ≠ g.place? other := by
    intro other hother
    obtain rfl : ['b'] = other := by simpa [s, script, Session.initial] using hother
    rw [show s.folder.writeText ['a'] ['+', '\n'] = .ok g from hwrite] at hplaces
    obtain ⟨hplace₁, hplace₂⟩ := Prod.mk.inj (Option.some.inj hplaces)
    simp [hplace₁, hplace₂]
  exact ⟨hread, ⟨m, name, hm, hfile, hplace, hstored⟩, hnew.stored hkept⟩

end TapeStudio
