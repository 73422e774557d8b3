import TapeStudio.Proofs.Effects

/-! What the commands on files leave alone. -/
namespace TapeStudio

/-- The second session differs from the first at most in what commands on files are about: the
editor, the output box, the current file and whether it is saved, the folder, and the replies that
are left. No window was destroyed on the way. -/
structure FilesOnly (s₀ s : Session) : Prop where
  input : s.input = s₀.input
  lineEntered : s.lineEntered = s₀.lineEntered
  switches : s.switches = s₀.switches
  darkMode : s.darkMode = s₀.darkMode
  azure : s.azure = s₀.azure
  settings : s.settings = s₀.settings
  appearance : s.appearance = s₀.appearance
  theme : s.theme = s₀.theme
  themes : s.themes = s₀.themes
  controls : s.controls = s₀.controls
  highlighter : s.highlighter = s₀.highlighter
  toolkit : s.toolkit = s₀.toolkit
  comparing : s.comparing = s₀.comparing
  windowOpen : s.windowOpen = s₀.windowOpen
  replies : s.script.replies <:+ s₀.script.replies
  gestures : s.script.gestures = s₀.script.gestures
  online : s.script.online = s₀.script.online
  archive : s.script.archive? = s₀.script.archive?
  stopAfter : s.script.stopAfter = s₀.script.stopAfter
  endings : s.journal.endings = s₀.journal.endings
  windows : s.journal.windows = s₀.journal.windows
  piecesPrinted : s.journal.piecesPrinted = s₀.journal.piecesPrinted
  events : s₀.journal.events ⊆ s.journal.events
  requests : s₀.journal.requests ⊆ s.journal.requests
  destroyed : ∀ first, .destroyed first ∈ s.journal.events → .destroyed first ∈ s₀.journal.events

namespace FilesOnly

variable {s₀ s : Session}

theorem refl (s : Session) : FilesOnly s s :=
  ⟨rfl, rfl, rfl, rfl, rfl, rfl, rfl, rfl, rfl, rfl, rfl, rfl, rfl, rfl, List.suffix_rfl, rfl, rfl,
    rfl, rfl, rfl, rfl, rfl, List.Subset.refl _, List.Subset.refl _, fun _ h => h⟩

theorem log (h : FilesOnly s₀ s) (events : List Event)
    (he : ∀ first, .destroyed first ∉ events) : FilesOnly s₀ (s.log events) :=
  { h with
    events := fun _ hmem => List.mem_append_left _ (h.events hmem)
    destroyed := fun first hf => by
      rcases List.mem_append.mp hf with hf | hf
      · exact h.destroyed first hf
      · exact absurd hf (he first) }

theorem logRequest (h : FilesOnly s₀ s) (dialog : FileDialog) (reply : Value) :
    FilesOnly s₀ (s.logRequest dialog reply) := by
  have hlog : FilesOnly s₀ (s.log [.fileAsked dialog reply]) := h.log _ (by simp)
  exact { hlog with requests := fun _ hmem => List.mem_append_left _ (h.requests hmem) }

theorem takeReply (h : FilesOnly s₀ s) (silence : Value) :
    FilesOnly s₀ (s.takeReply silence).2 := by
  unfold Session.takeReply
  split
  · exact h
  next reply rest hr =>
    have hrest : rest <:+ s.script.replies := hr ▸ List.suffix_cons reply rest
    exact { h with replies := hrest.trans h.replies }

theorem highlight (h : FilesOnly s₀ s) : FilesOnly s₀ s.highlight := by
  unfold Session.highlight
  split
  · exact { h with }
  · exact h

end FilesOnly

theorem FileChoice.nonempty_of_ofReply? {reply : Value} {name : Text}
    (h : ofReply? reply = some (.named name)) : name ≠ [] := by
  unfold ofReply? at h
  split at h
  next hyes =>
    split at h
    · simp only [Option.some.injEq, named.injEq] at h
      subst h
      simpa [Value.isYes] using hyes
    · simp at h
  · contradiction

theorem FileChoice.hasFile_of_ofReply? {reply : Value} {file : FileChoice}
    (h : ofReply? reply = some file) : file.isNoFile = false := by
  cases file with
  | unnamed _ => rfl
  | named name => simpa [isNoFile] using nonempty_of_ofReply? h

namespace Command

variable {s₀ s : Session}

/-- A file dialog takes the next reply, and notes it. -/
theorem askFile_eq (dialog : FileDialog) (s : Session) :
    let reply := s.script.replies.headD (.text [])
    askFile dialog s = .ok (FileChoice.ofReply? reply)
      ({ s with script := { s.script with replies := s.script.replies.tail } }.logRequest dialog
        reply) := by
  change EStateM.Result.ok (FileChoice.ofReply? (s.takeReply (.text [])).1)
    ((s.takeReply (.text [])).2.logRequest dialog (s.takeReply (.text [])).1) = _
  rw [Session.takeReply_eq]

theorem askFile_of_reply {dialog : FileDialog} {reply : Value} {rest : List Value}
    (h : s.script.replies = reply :: rest) :
    askFile dialog s = .ok (FileChoice.ofReply? reply)
      ({ s with script := { s.script with replies := rest } }.logRequest dialog reply) := by
  rw [askFile_eq, h]
  rfl

theorem saveNamed_of_named {name : Text} (h : s.file = .named name) :
    saveNamed s = match s.folder.writeText name s.editor.whole with
      | .ok folder => .ok ⟨⟩ { s with folder := folder }.markClean
      | .error fault => .error (.file fault) s := by
  obtain ⟨⟩ := s
  subst h
  dsimp only [saveNamed, store, fileName, bind, EStateM.bind, get, getThe, MonadStateOf.get,
    EStateM.get, pure, EStateM.pure]
  generalize Folder.writeText _ _ _ = written
  cases written <;> rfl

theorem saveNamed_of_unnamed {reply : Value} (h : s.file = .unnamed reply) :
    saveNamed s = .error (.noName (.ofReply reply)) s := by
  obtain ⟨⟩ := s
  subst h
  rfl

theorem save_of_hasFile (h : s.file.isNoFile = false) : save s = saveNamed s := by
  change (if s.file.isNoFile then saveAs >>= fun _ => modify (·.markClean)
    else saveNamed : Command Unit) s = _
  rw [h]
  rfl

theorem save_of_named {name : Text} (hfile : s.file = .named name) (hname : name ≠ []) :
    save s = saveNamed s :=
  save_of_hasFile (by simp [hfile, FileChoice.isNoFile, hname])

theorem save_of_writeText {name : Text} {folder : Folder} (hfile : s.file = .named name)
    (hname : name ≠ []) (hwrite : s.folder.writeText name s.editor.whole = .ok folder) :
    save s = .ok ⟨⟩ { s with folder := folder }.markClean := by
  rw [save_of_named hfile hname, saveNamed_of_named hfile, hwrite]

theorem preserves_fileName (I : Session → Prop) : Preserves I fileName := by
  refine preserves_get_bind fun s _ => ?_
  cases s.file with
  | named name => exact preserves_pure name
  | unnamed reply => exact preserves_throw _

theorem meets_fileName {P : Session → Prop} :
    Meets P fileName (fun name s => P s ∧ s.file = .named name) fun _ => P := by
  refine meets_get_bind fun s hs => ?_
  cases hfile : s.file with
  | named name =>
    refine meets_pure ?_
    rintro _ rfl
    exact ⟨hs, hfile⟩
  | unnamed reply =>
    rintro _ rfl
    exact hs

theorem preserves_askFile {I : Session → Prop} {dialog : FileDialog}
    (htake : ∀ s replies, I s → I { s with script := { s.script with replies := replies } })
    (hlog : ∀ s reply, I s → I (s.logRequest dialog reply)) : Preserves I (askFile dialog) :=
  (preserves_modifyGet fun _ hs => Session.takeReply_of_keeps htake hs _).bind fun reply =>
    (preserves_modify fun s hs => hlog s reply hs).bind fun _ => preserves_pure _

theorem filesOnly_askFile (dialog : FileDialog) : Preserves (FilesOnly s₀) (askFile dialog) :=
  (preserves_modifyGet fun _ h => h.takeReply _).bind fun _ =>
    (preserves_modify fun _ h => h.logRequest _ _).bind fun _ => preserves_pure _

theorem filesOnly_store : Preserves (FilesOnly s₀) store :=
  (preserves_fileName _).bind fun _ => preserves_get_bind fun _ h =>
    (preserves_ofFile _).bind fun _ => preserves_set { h with }

theorem filesOnly_saveNamed : Preserves (FilesOnly s₀) saveNamed :=
  filesOnly_store.bind fun _ => preserves_modify fun _ h => { h with }

/-- Showing a file changes the editor, the output box and the title. -/
theorem preserves_showFile {I : Session → Prop}
    (h : ∀ s editor output outputLocked title tags, I s → I { s with
      editor := editor
      output := output
      outputLocked := outputLocked
      title := title
      journal := { s.journal with tags := tags } }) : Preserves I showFile := by
  refine (preserves_modify fun s hs => h s _ _ _ _ _ hs).bind fun _ =>
    (preserves_fileName _).bind fun name => preserves_get_bind fun s hs => ?_
  cases s.folder.readText name with
  | ok content =>
    refine preserves_set ?_
    dsimp only [Session.insertInEditor, Session.highlight]
    split
    · exact h s _ _ _ _ _ hs
    · split
      · exact h s _ _ _ _ _ hs
      · exact h s _ _ _ _ _ hs
  | error fault =>
    dsimp only
    split
    · exact preserves_throw _
    · exact preserves_pure _

theorem filesOnly_showFile : Preserves (FilesOnly s₀) showFile :=
  preserves_showFile fun _ _ _ _ _ _ h => { h with }

section Choosing

variable {I : Session → Prop}

/-- Saving under a chosen name saves in a file, whatever it would do without one. -/
theorem saveAsWith_eq {save' : Command Unit}
    (h : ∀ s, s.file.isNoFile = false → save' s = saveNamed s) : saveAsWith save' = saveAs := by
  funext s
  unfold saveAs saveAsWith choosing
  rw [bind_of_ok (askFile_eq .saveAs s), bind_of_ok (askFile_eq .saveAs s)]
  cases hfile : FileChoice.ofReply? (s.script.replies.headD (.text [])) with
  | none => rfl
  | some file => exact bind_congr_left (h _ (FileChoice.hasFile_of_ofReply? hfile)) _

theorem saveAsWith_save : saveAsWith save = saveAs := saveAsWith_eq fun _ => save_of_hasFile

/-! The commands that let the user choose a file keep what their parts keep. -/

theorem preserves_choosing {dialog : FileDialog} {next : Command Unit}
    (hask : Preserves I (askFile dialog)) (hfile : ∀ s file, I s → I { s with file := file })
    (hnext : Preserves I next) : Preserves I (choosing dialog next) := by
  apply hask.bind
  intro file?
  cases file? with
  | none => exact preserves_pure _
  | some file => exact (preserves_modify fun s => hfile s file).bind fun _ => hnext

theorem preserves_saveAs (hask : Preserves I (askFile .saveAs))
    (hfile : ∀ s file, I s → I { s with file := file }) (hsave : Preserves I saveNamed)
    (hshow : Preserves I showFile) : Preserves I saveAs :=
  preserves_choosing hask hfile (hsave.bind fun _ => hshow)

theorem preserves_save (hsaveAs : Preserves I saveAs) (hclean : ∀ s, I s → I s.markClean)
    (hsave : Preserves I saveNamed) : Preserves I save := by
  apply preserves_get_bind
  intro s _
  split
  · exact hsaveAs.bind fun _ => preserves_modify hclean
  · exact hsave

theorem preserves_newFile (hsave : Preserves I save) (hask : Preserves I (askFile .create))
    (hfile : ∀ s file, I s → I { s with file := file }) (hclear : ∀ s, I s → I s.clearEditor)
    (hshow : Preserves I showFile) : Preserves I newFile :=
  hsave.bind fun _ => preserves_choosing hask hfile
    ((preserves_modify hclear).bind fun _ => hsave.bind fun _ => hshow)

theorem meets_openFile {P : Session → Prop} (hsave : Meets P save (fun _ => I) fun _ => I)
    (hask : Preserves I (askFile .openFile)) (hfile : ∀ s file, I s → I { s with file := file })
    (hshow : Preserves I showFile) : Meets P openFile (fun _ => I) fun _ => I :=
  hsave.bind fun _ => preserves_choosing hask hfile hshow

end Choosing

theorem filesOnly_saveAs : Preserves (FilesOnly s₀) saveAs :=
  preserves_saveAs (filesOnly_askFile _) (fun _ _ h => { h with }) filesOnly_saveNamed
    filesOnly_showFile

theorem filesOnly_save : Preserves (FilesOnly s₀) save :=
  preserves_save filesOnly_saveAs (fun _ h => { h with }) filesOnly_saveNamed

theorem filesOnly_newFile : Preserves (FilesOnly s₀) newFile :=
  preserves_newFile filesOnly_save (filesOnly_askFile _) (fun _ _ h => { h with })
    (fun _ h => { h with }) filesOnly_showFile

theorem filesOnly_openFile : Preserves (FilesOnly s₀) openFile :=
  meets_openFile filesOnly_save (filesOnly_askFile _) (fun _ _ h => { h with })
    filesOnly_showFile

theorem filesOnly_compare : Preserves (FilesOnly s₀) compare := by
  refine (preserves_fileName _).bind fun _ => preserves_get_bind fun s h =>
    (preserves_ofFile _).bind fun content => ?_
  split
  · exact preserves_set { h with }
  · exact preserves_pure _

end Command

namespace FilesOnly

variable {s₀ s : Session}

theorem keyReleased (h : FilesOnly s₀ s) : FilesOnly s₀ s.keyReleased := by
  unfold Session.keyReleased
  have hlog : FilesOnly s₀ (s.log [.compareRequested]) := h.log _ (by simp)
  refine highlight ?_
  split
  · exact Session.guarded_of_preserves Command.filesOnly_compare (fun _ _ h => h.log _ (by simp))
      hlog
  · exact hlog

theorem typeInEditor (h : FilesOnly s₀ s) (backspaces : Nat) (t : Text) (released : Bool) :
    FilesOnly s₀ (s.typeInEditor backspaces t released) := by
  unfold Session.typeInEditor
  split
  · exact keyReleased { h with }
  · exact { h with }

end FilesOnly

end TapeStudio
