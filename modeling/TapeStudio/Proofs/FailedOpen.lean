import TapeStudio.Proofs.InOrder
import TapeStudio.Proofs.Settled

/-! Opening a file that cannot be read. The text of the editor was saved before. But by then the
file has become the current one and the editor is empty, so that the next save goes over it. -/
namespace TapeStudio

namespace Folder

variable {f g : Folder} {name : Text}

/-- A text cannot be read where no file can, or where the bytes of the file are no text. -/
theorem readText_eq_error_iff {fault : FileFault} :
    f.readText name = .error fault ↔
      (∃ cause, f.readCause name = .error cause ∧ fault = ⟨name, cause⟩) ∨
      ∃ bytes, f.readCause name = .ok bytes ∧ Text.decode? bytes = none ∧
        fault = ⟨name, .undecodable⟩ := by
  unfold readText readTextCause
  cases f.readCause name with
  | error cause => simp [bind, Except.bind, Except.mapError, eq_comm]
  | ok bytes =>
    cases hdecode : Text.decode? bytes <;>
      simp [bind, Except.bind, Except.mapError, hdecode, eq_comm]

/-- Where a text can be written, there is a file that can be read, or none. -/
theorem eq_missing_of_writeText {t : Text} {cause : FileCause} (hwrite : f.writeText name t = .ok g)
    (h : f.readCause name = .error cause) : cause = .missing := by
  rw [writeText_eq_ok_iff, writeCause_eq_ok_iff] at hwrite
  obtain ⟨r, hroute, hpart, hname, hfolder, _⟩ := hwrite
  cases hfind : f.find? r.place with
  | none =>
    simpa [readCause, lookUp, hroute, hpart, hfind, bind, Except.bind, pure, Except.pure,
      eq_comm] using h
  | some entry =>
    cases entry with
    | folder => contradiction
    | file bytes =>
      have hread := readCause_eq_ok_iff.mpr ⟨r, hroute, hpart, hname, hfind⟩
      rw [hread] at h
      contradiction

end Folder

namespace Command

variable {s r : Session} {name chosen : Text} {fault : Fault}

/-- What is done with the text of the current file, or with the fault of reading it. -/
def showRead (name : Text) : Except FileFault Text → Command Unit
  | .ok content => modify fun s =>
    let t := Text.dropTrailingNewlines content
    { (if t.isEmpty then s else s.insertInEditor (s.editor.offset (.column 1 0)) t).clearOutput with
      title := Session.cleanTitle name }
  | .error fault => if fault.cause ≠ .missing then throw (.file fault) else pure ()

theorem showFile_of_named (hfile : s.file = .named name) :
    showFile s = showRead name (s.folder.readText name) s.clearEditor := by
  have hname : fileName s.clearEditor = .ok name s.clearEditor := fileName_of_named hfile
  change (fileName >>= fun name => _) s.clearEditor = _
  rw [bind_of_ok hname]
  dsimp only [bind, EStateM.bind, get, getThe, MonadStateOf.get, EStateM.get]
  change _ = showRead name (s.clearEditor.folder.readText name) s.clearEditor
  cases s.clearEditor.folder.readText name with
  | ok content => rfl
  | error fault => rfl

/-- A file cannot be shown if reading it fails and it is not just missing. The editor is left
empty then. -/
theorem showFile_eq_error_iff (hfile : s.file = .named name) :
    showFile s = .error fault r ↔ r = s.clearEditor ∧ ∃ cause, cause ≠ .missing ∧
      fault = .file ⟨name, cause⟩ ∧ s.folder.readText name = .error ⟨name, cause⟩ := by
  rw [showFile_of_named hfile]
  constructor
  · intro h
    cases hread : s.folder.readText name with
    | ok content =>
      rw [hread] at h
      contradiction
    | error fault' =>
      have hfault : fault'.name = name := by
        rcases Folder.readText_eq_error_iff.mp hread with ⟨cause, _, rfl⟩ | ⟨bytes, _, _, rfl⟩
        · rfl
        · rfl
      rw [hread, showRead] at h
      split at h
      next hcause =>
        cases h
        exact ⟨rfl, fault'.cause, hcause, by rw [← hfault], by rw [← hfault]⟩
      · contradiction
  · rintro ⟨rfl, cause, hcause, rfl, hread⟩
    rw [hread, showRead, if_pos hcause]
    rfl

/-- Opening begins with a save. The chosen file becomes the current one before it is read. -/
theorem openFile_of_reply {saved : Session} {rest : List Value} (hsave : save s = .ok ⟨⟩ saved)
    (hreply : saved.script.replies = .text chosen :: rest) (hchosen : chosen ≠ []) :
    openFile s = showFile { { saved with
      script := { saved.script with replies := rest } }.logRequest .openFile (.text chosen) with
        file := .named chosen } := by
  have hchoice : FileChoice.ofReply? (.text chosen) = some (.named chosen) := by
    simp [FileChoice.ofReply?, Value.isYes, hchosen]
  unfold openFile openFileWith choosing
  rw [bind_of_ok hsave, bind_of_ok (askFile_of_reply hreply), hchoice]
  rfl

/-- Opening, like saving, goes over the current file, which is not touched afterwards. -/
theorem readCause_openFile {saved : Session} {bytes : ByteArray} (hsave : save s = .ok ⟨⟩ saved)
    (h : saved.folder.readCause name = .ok bytes) :
    (after openFile s).folder.readCause name = .ok bytes := by
  let I (s : Session) : Prop := s.folder.readCause name = .ok bytes
  have hsaved : Meets (fun r => r = s) save (fun _ => I) fun _ => I := by
    rintro _ rfl
    rw [hsave]
    exact h
  have hopen : Meets (fun r => r = s) openFile (fun _ => I) fun _ => I := by
    apply meets_openFile hsaved
    · exact preserves_askFile (fun _ _ hs => hs) fun _ _ hs => hs
    · exact fun _ _ hs => hs
    · exact preserves_showFile fun _ _ _ _ _ _ hs => hs
  exact hopen.after rfl

/-- With an empty editor, a save and also an opening leave a newline in the current file. -/
theorem readCause_of_empty (hfile : s.file = .named name) (hname : name ≠ [])
    (hempty : s.editor.content = []) (h : ∃ g, s.folder.writeText name [] = .ok g) :
    ∀ c ∈ [save, openFile], (after c s).folder.readCause name = .ok (Text.encode ['\n']) := by
  obtain ⟨g, hg⟩ := h
  obtain ⟨folder, hwrite⟩ := Folder.exists_writeText hg s.editor.whole
  have hsave := save_of_writeText hfile hname hwrite
  rw [TextBox.whole_eq, hempty] at hwrite
  have hstored := Folder.readCause_of_writeText hwrite
  intro c hc
  rcases List.mem_pair.mp hc with rfl | rfl
  · rw [after_of_ok hsave]
    exact hstored
  · exact readCause_openFile hsave hstored

end Command

open Command in
/-- A file is chosen for opening, while the current one can be written. The text of the editor is
stored in the current file first. Opening fails exactly if the chosen file cannot be read then, for
another reason than that it is missing. In that case nothing else in the folder has changed, but the
editor is empty and the chosen file has become the current one. If there is a file under the chosen
name, whose bytes are no text then, and it can be written, the next save or the next opening stores
a newline in their place; otherwise the next save fails and changes nothing. -/
theorem failed_open_adopts_file {s : Session} {name chosen : Text} {rest : List Value}
    (hfile : s.file = .named name) (hname : name ≠ [])
    (hwritable : ∃ folder, s.folder.writeText name [] = .ok folder)
    (hreply : s.script.replies = .text chosen :: rest) (hchosen : chosen ≠ []) :
    ∃ folder, s.folder.writeText name (s.editor.content ++ ['\n']) = .ok folder ∧
    ((∃ fault r, openFile s = .error fault r) ↔
      ∃ cause, cause ≠ .missing ∧ folder.readText chosen = .error ⟨chosen, cause⟩) ∧
    ∀ fault r, openFile s = .error fault r →
      (r.folder.readCause name = .ok (Text.encode (s.editor.content ++ ['\n'])) ∧
        ∀ p, s.folder.place? name ≠ some p → r.folder.find? p = s.folder.find? p) ∧
      (r.editor.content = [] ∧ r.file = .named chosen ∧ chosen ≠ name) ∧
      (∀ bytes, r.folder.readCause chosen = .ok bytes →
        fault = .file ⟨chosen, .undecodable⟩ ∧ Text.decode? bytes = none ∧
        ((∃ g, r.folder.writeText chosen [] = .ok g) → ∀ c ∈ [save, openFile],
          (after c r).folder.readCause chosen = .ok (Text.encode ['\n'])) ∧
        ((¬ ∃ g, r.folder.writeText chosen [] = .ok g) →
          ∃ fault', save r = .error fault' r)) ∧
      ∀ cause, r.folder.readCause chosen = .error cause →
        fault = .file ⟨chosen, cause⟩ ∧ ∃ fault', save r = .error fault' r := by
  obtain ⟨g, hg⟩ := hwritable
  obtain ⟨folder, hwrite⟩ := Folder.exists_writeText hg s.editor.whole
  rw [openFile_of_reply (save_of_writeText hfile hname hwrite) hreply hchosen]
  rw [TextBox.whole_eq] at hwrite
  refine ⟨folder, hwrite, ?_, ?_⟩
  · constructor
    · rintro ⟨fault, r, hfailed⟩
      obtain ⟨-, cause, hcause, -, hread⟩ := (showFile_eq_error_iff rfl).mp hfailed
      exact ⟨cause, hcause, hread⟩
    · rintro ⟨cause, hcause, hread⟩
      exact ⟨_, _, (showFile_eq_error_iff rfl).mpr ⟨rfl, cause, hcause, rfl, hread⟩⟩
  intro fault r hfailed
  obtain ⟨rfl, cause, hcause, rfl, hread⟩ := (showFile_eq_error_iff rfl).mp hfailed
  generalize hr : Session.clearEditor _ = r at hfailed ⊢
  have hrfolder : r.folder = folder := by rw [← hr]; rfl
  have hrfile : r.file = .named chosen := by rw [← hr]; rfl
  have hempty : r.editor.content = [] := by
    rw [← hr]
    exact TextBox.content_clear _
  replace hread : r.folder.readText chosen = .error ⟨chosen, cause⟩ := hrfolder ▸ hread
  refine ⟨⟨?_, ?_⟩, ⟨hempty, hrfile, ?_⟩, ?_, ?_⟩
  · rw [hrfolder]
    exact Folder.readCause_of_writeText hwrite
  · intro p hp
    rw [hrfolder]
    exact Folder.find?_of_writeText_of_ne hwrite hp
  · -- the current file holds a text now
    rintro rfl
    rw [hrfolder, Folder.readText_of_writeText hwrite] at hread
    contradiction
  · intro bytes hbytes
    rcases Folder.readText_eq_error_iff.mp hread with ⟨_, hnone, _⟩ | ⟨_, hfound, hdecode, hfault⟩
    · rw [hbytes] at hnone
      contradiction
    · rw [hbytes, Except.ok.injEq] at hfound
      exact ⟨by rw [hfault], hfound ▸ hdecode, readCause_of_empty hrfile hchosen hempty,
        exists_save_eq_error hrfile hchosen⟩
  · intro cause' hcause'
    rcases Folder.readText_eq_error_iff.mp hread with ⟨_, hnone, hfault⟩ | ⟨_, hfound, _⟩
    · rw [hcause', Except.error.injEq] at hnone
      subst hnone
      rw [FileFault.mk.injEq] at hfault
      obtain ⟨_, rfl⟩ := hfault
      refine ⟨rfl, exists_save_eq_error hrfile hchosen ?_⟩
      rintro ⟨g, hg⟩
      exact hcause (Folder.eq_missing_of_writeText hg hcause')
    · rw [hcause'] at hfound
      contradiction

/-- A file that holds one byte, which is no text, is chosen for opening. -/
theorem failed_open_adopts_file_byte :
    let folder := Folder.ofFiles [(['a'], Text.encode ['+']), (['b'], ⟨#[0xff]⟩)]
    let s := { Session.initial folder { Script.silent with replies := [.text ['b']] } with
      file := .named ['a']
      editor := ⟨['-'], 1⟩ }
    let r := Command.after Command.openFile s
    r.folder.readCause ['a'] = .ok (Text.encode ['-', '\n']) ∧ r.editor.content = [] ∧
      r.file = .named ['b'] ∧ r.folder.readCause ['b'] = .ok ⟨#[0xff]⟩ ∧
      (Command.after Command.save r).folder.readCause ['b'] = .ok (Text.encode ['\n']) := by
  intro folder s r
  obtain ⟨fault, hfailed⟩ : ∃ fault, Command.openFile s = .error fault r :=
    Command.exists_eq_error_of_succeeds (by decide +kernel)
  have hwritable : ∃ g, s.folder.writeText ['a'] [] = .ok g :=
    Folder.exists_writeText_of_isOk (by decide +kernel)
  have hwritable' : ∃ g, r.folder.writeText ['b'] [] = .ok g :=
    Folder.exists_writeText_of_isOk (by decide +kernel)
  obtain ⟨folder', -, -, hopen⟩ :=
    failed_open_adopts_file (s := s) rfl (by decide) hwritable rfl (by decide)
  obtain ⟨⟨hstored, -⟩, ⟨hempty, hfile, -⟩, hbytes, -⟩ := hopen fault r hfailed
  have hb : r.folder.readCause ['b'] = .ok ⟨#[0xff]⟩ := by decide +kernel
  exact ⟨hstored, hempty, hfile, hb, (hbytes _ hb).2.2.1 hwritable' _ (List.mem_cons_self ..)⟩

/-- So a file can be lost in a session that was just started: it is chosen for opening, and then
the text is saved. -/
theorem unreadable_file_lost :
    let folder := Folder.sample ['a'] [(['a'], Text.encode ['+']), (['b'], ⟨#[0xff]⟩)]
    let s := Session.startedIn folder
    let opening := s.beginAction { Script.silent with replies := [.text ['b']] }
    let r := Command.after Command.openFile opening
    let saved := Command.after Command.save r
    s.Reached ∧ s.file = .named ['a'] ∧ s.editor.content = ['+'] ∧
      (∃ fault, Command.openFile opening = .error fault r) ∧
      r.file ≠ s.file ∧ r.editor.content ≠ s.editor.content ∧
      s.folder.readCause ['b'] = .ok ⟨#[0xff]⟩ ∧
      saved.folder.readCause ['b'] = .ok (Text.encode ['\n']) := by
  intro folder s opening r saved
  have hfacts : Command.succeeds Command.start (.initial folder .silent) = true ∧
      Command.succeeds Command.openFile opening = false ∧
      s.file.hasName ['a'] = true ∧ s.editor.content = ['+'] ∧ r.file.hasName ['b'] = true ∧
      r.editor.content ≠ s.editor.content ∧ s.folder.readCause ['b'] = .ok ⟨#[0xff]⟩ ∧
      saved.folder.readCause ['b'] = .ok (Text.encode ['\n']) := by
    decide +kernel
  obtain ⟨hok, herror, hsname, hcontent, hrname, hemptied, hbyte, hsaved⟩ := hfacts
  have hsfile : s.file = .named ['a'] := FileChoice.eq_named_of_hasName hsname
  have hrfile : r.file = .named ['b'] := FileChoice.eq_named_of_hasName hrname
  exact ⟨Session.reached_startedIn hok, hsfile, hcontent,
    Command.exists_eq_error_of_succeeds herror, by simp [hsfile, hrfile], hemptied, hbyte, hsaved⟩

end TapeStudio
