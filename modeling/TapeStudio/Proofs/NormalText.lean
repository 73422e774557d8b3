import TapeStudio.Proofs.Comments
import TapeStudio.Proofs.Restart
import TapeStudio.Proofs.StrayBrackets

/-! What loading and saving make of a text. The newlines become of one kind, and there is exactly
one at the end; this happens once, and it is no change for the program in the text. -/
namespace TapeStudio

open Brackets Text

namespace Text

variable {t x : Text} {i : Nat}

/-- What the editor shows of the text of a file. -/
def body (f : Text) : Text := dropTrailingNewlines (unifyNewlines f)

theorem return_notMem_body (f : Text) : '\r' ∉ body f :=
  return_notMem_dropTrailingNewlines (return_notMem_unifyNewlines f)

theorem unifyNewlines_body_append (f : Text) :
    unifyNewlines (body f ++ ['\n']) = body f ++ ['\n'] := by
  apply unifyNewlines_of_notMem
  simpa using return_notMem_body f

/-- The text that was saved is shown like the one that it was made from. -/
theorem body_append_newline (f : Text) : body (body f ++ ['\n']) = body f := by
  rw [body, unifyNewlines_body_append, dropTrailingNewlines_append_newline]
  exact dropTrailingNewlines_idem _

/-- What is not shown has no commands. -/
theorem exists_eq_body_append (f : Text) :
    ∃ rest, unifyNewlines f = body f ++ rest ∧ commands rest = [] := by
  obtain ⟨rest, hrest⟩ : body f <+: unifyNewlines f := List.rdropWhile_prefix _ _
  refine ⟨rest, hrest.symm, ?_⟩
  have hcommands : commands (body f) ++ commands rest = commands (body f) := by
    rw [← commands_append, hrest]
    exact (commands_dropTrailingNewlines _).symm
  exact List.append_right_eq_self.mp hcommands

theorem rank_append (h : i ≤ t.length) (x : Text) : rank (t ++ x) i = rank t i := by
  rw [rank, rank, List.take_append_of_le_length h]

/-- A command stands in the part of a text that has commands. -/
theorem getElem?_of_append {character : Char} (hx : commands x = [])
    (h : character ∈ Instruction.symbols) (hi : (t ++ x)[i]? = some character) :
    t[i]? = some character := by
  rcases Nat.lt_or_ge i t.length with hlt | hge
  · rwa [List.getElem?_append_left hlt] at hi
  · rw [List.getElem?_append_right hge] at hi
    have hcharacter := getElem?_commands hi h
    rw [hx] at hcharacter
    contradiction

end Text

namespace Terminal

open Machine

variable {t u x y : Text} {start s : Terminal} {e : Ending} {m n : Machine} {i j : Nat}

/-- An execution ends alike for another text with the same commands. -/
theorem Finishes.of_commands (h : Finishes t start e m s) (hcommands : commands t = commands u) :
    ∃ n, Finishes u start e n s ∧ m.renumber t = n.renumber u := by
  have hcommon := h.renumber
  rw [hcommands] at hcommon
  obtain ⟨e', n, s', hu⟩ := exists_finishes_of_commands hcommon
  obtain ⟨rfl, hmn, rfl⟩ := hcommon.unique hu.renumber
  exact ⟨n, hu, hmn⟩

theorem Diverges.of_commands (h : Diverges t start) (hcommands : commands t = commands u) :
    Diverges u start := by
  rcases diverges_or_finishes u start with hu | ⟨e, n, s, hu⟩
  · exact hu
  · obtain ⟨m, ht, -⟩ := hu.of_commands hcommands.symm
    exact absurd ht h.not_finishes

/-- Behind the last command of a text, what follows does not move the place of a command. -/
theorem SamePlace.eq_of_append (h : SamePlace (t ++ x) (t ++ y) i j e) (hx : commands x = [])
    (hy : commands y = []) (he : e ≠ .completed) : i = j := by
  have hplace (hrank : rank (t ++ x) i = rank (t ++ y) j)
      (hsymbol : ∃ character ∈ Instruction.symbols, (t ++ x)[i]? = some character ∧
        (t ++ y)[j]? = some character) : i = j := by
    obtain ⟨character, hmem, hi, hj⟩ := hsymbol
    replace hi := getElem?_of_append hx hmem hi
    replace hj := getElem?_of_append hy hmem hj
    have hilt := (List.getElem?_eq_some_iff.mp hi).1
    have hjlt := (List.getElem?_eq_some_iff.mp hj).1
    rw [rank_append hilt.le, rank_append hjlt.le] at hrank
    exact rank_inj hi hj hmem hmem hrank
  cases e with
  | completed => exact absurd rfl he
  | unbalancedBrackets => exact h.1.trans h.2.symm
  | _ => exact hplace h.1 h.2

/-- Two texts that differ only behind their last command. -/
theorem agree_of_append (t : Text) (hx : commands x = []) (hy : commands y = [])
    (start : Terminal) :
    (Diverges (t ++ x) start ∧ Diverges (t ++ y) start) ∨
      ∃ e m n s, Finishes (t ++ x) start e m s ∧ Finishes (t ++ y) start e n s ∧
        m.pointer = n.pointer ∧ m.memory = n.memory ∧
        (e ≠ .completed → m.position = n.position) := by
  have hcommands : commands (t ++ x) = commands (t ++ y) := by
    rw [commands_append, commands_append, hx, hy]
  rcases diverges_or_finishes (t ++ x) start with h | ⟨e, m, s, h⟩
  · exact .inl ⟨h, h.of_commands hcommands⟩
  · obtain ⟨n, hn, hmn⟩ := h.of_commands hcommands
    obtain ⟨hrank, hpointer, hmemory⟩ := Machine.mk.inj hmn
    have hplace := samePlace_of_finishes hcommands h hn hrank
    exact .inr ⟨e, m, n, s, h, hn, hpointer, hmemory, hplace.eq_of_append hx hy⟩

end Terminal

namespace Session

/-- The file is the current one, it can be written and holds the text with a newline behind it, and
the editor shows the text. -/
structure ShowsFile (s : Session) (name t : Text) : Prop where
  file : s.file = .named name
  writable : ∃ g, s.folder.writeText name [] = .ok g
  stored : s.folder.readCause name = .ok (Text.encode (t ++ ['\n']))
  shown : s.editor.content = t

/-- A session after any number of saves, loads of the file and restarts. For a restart a session is
closed, and another one is started in the folder that is left, where the settings name the file and
the file is not the settings file itself. -/
inductive Revisited (name : Text) (s : Session) : Session → Prop where
  | refl : Revisited name s s
  | save {r q : Session} (answers : Script) : Revisited name s r →
    Command.save (r.beginAction answers) = .ok ⟨⟩ q → Revisited name s q
  | load {r q : Session} (answers : Script) : Revisited name s r →
    answers.replies.head? = some (.text name) →
    Command.openFile (r.beginAction answers) = .ok ⟨⟩ q → Revisited name s q
  | restart {r closed q : Session} {p : Preferences} (answers script : Script)
      (highlighter : Bool) (toolkit : Toolkit) :
    Revisited name s r → r.folder.place? name ≠ some [settingsName] →
    Command.close (r.beginAction answers) = .ok ⟨⟩ closed →
    (settingsIn? closed.folder).bind Preferences.ofDocument? = some p → p.file = name →
    Command.start { Session.initial closed.folder script with
      highlighter := highlighter, toolkit := toolkit } = .ok ⟨⟩ q → Revisited name s q

/-- The file can be saved, loaded again, and found again by another session. -/
structure Revisitable (r : Session) (name : Text) : Prop where
  save (answers : Script) : ∃ q, Command.save (r.beginAction answers) = .ok ⟨⟩ q
  load (answers : Script) : answers.replies.head? = some (.text name) →
    ∃ q, Command.openFile (r.beginAction answers) = .ok ⟨⟩ q
  restart {closed : Session} {p : Preferences} (answers script : Script) (highlighter : Bool)
      (toolkit : Toolkit) :
    r.folder.place? name ≠ some [settingsName] →
    Command.close (r.beginAction answers) = .ok ⟨⟩ closed →
    (settingsIn? closed.folder).bind Preferences.ofDocument? = some p → p.file = name →
    ImagesShown toolkit closed.folder → ThemeFound toolkit closed.folder p →
    ∃ q, Command.start { Session.initial closed.folder script with
      highlighter := highlighter, toolkit := toolkit } = .ok ⟨⟩ q

end Session

theorem Folder.ne_nil_of_readCause {f : Folder} {name : Text} {bytes : ByteArray}
    (h : f.readCause name = .ok bytes) : name ≠ [] := by
  rintro rfl
  obtain ⟨r, hroute, -⟩ := readCause_eq_ok_iff.mp h
  rw [Session.route_nil] at hroute
  contradiction

theorem Folder.ne_nil_of_writeText {f g : Folder} {name t : Text}
    (h : f.writeText name t = .ok g) : name ≠ [] := by
  rintro rfl
  obtain ⟨r, hroute, -⟩ := writeCause_eq_ok_iff.mp (writeText_eq_ok_iff.mp h)
  rw [Session.route_nil] at hroute
  contradiction

/-- Writing does not move the place of a file that is there. -/
theorem Folder.place?_of_readCause {f g : Folder} {name other t : Text} {bytes : ByteArray}
    (hread : f.readCause name = .ok bytes) (hwrite : f.writeText other t = .ok g) :
    g.place? name = f.place? name := by
  obtain ⟨r, hroute, -⟩ := readCause_eq_ok_iff.mp hread
  have hplace : f.place? name = some r.place := by rw [place?, hroute]
  rw [place?_of_writeText hwrite hplace, hplace]

namespace Command

open Session

variable {s r : Session} {name f t : Text}

/-- Saving in a file that can be written. -/
theorem exists_save (hfile : s.file = .named name)
    (hwritable : ∃ g, s.folder.writeText name [] = .ok g) :
    ∃ folder, s.folder.writeText name s.editor.whole = .ok folder ∧
      save s = .ok ⟨⟩ { s with folder := folder }.markClean ∧
      ShowsFile { s with folder := folder }.markClean name s.editor.content := by
  obtain ⟨g, hg⟩ := hwritable
  obtain ⟨folder, hwrite⟩ := Folder.exists_writeText hg s.editor.whole
  refine ⟨folder, hwrite, save_of_writeText hfile (Folder.ne_nil_of_writeText hg) hwrite,
    hfile, Folder.exists_writeText_again hwrite [], ?_, rfl⟩
  have hstored := Folder.readCause_of_writeText hwrite
  rwa [TextBox.whole_eq] at hstored

/-- The current file is shown without the newlines at its end, and is not changed. -/
theorem exists_showFile (hfile : s.file = .named name)
    (hread : s.folder.readCause name = .ok (Text.encode f)) :
    ∃ r, showFile s = .ok ⟨⟩ r ∧ r.file = .named name ∧ r.folder = s.folder ∧
      r.editor.content = body f := by
  have hkept : Preserves (fun r => r.file = .named name ∧ r.folder = s.folder) showFile :=
    preserves_showFile fun _ _ _ _ _ _ h => h
  have hshow := showFile_of_named hfile
  rw [Folder.readText_of_readCause hread] at hshow
  have hr := hkept s ⟨hfile, rfl⟩
  rw [hshow] at hr
  refine ⟨_, hshow, hr.1, hr.2, ?_⟩
  have hcleared : s.clearEditor.editor.content = [] := TextBox.content_clear _
  change (if (body f).isEmpty then s.clearEditor else
    s.clearEditor.insertInEditor _ (body f) : Session).editor.content = body f
  cases hempty : (body f).isEmpty with
  | true =>
    rw [if_pos rfl, hcleared]
    exact (List.isEmpty_iff.mp hempty).symm
  | false =>
    rw [if_neg Bool.false_ne_true, insertInEditor, (LooksOnly.refl _).highlight.editor]
    exact TextBox.content_insertAt hcleared _ _

/-- Opening a file, which begins with a save and does nothing to the files after it. -/
theorem exists_openFile {saved : Session} {rest : List Value} (hsave : save s = .ok ⟨⟩ saved)
    (hreply : saved.script.replies = .text name :: rest)
    (hread : saved.folder.readCause name = .ok (Text.encode f)) :
    ∃ r, openFile s = .ok ⟨⟩ r ∧ r.file = .named name ∧ r.folder = saved.folder ∧
      r.editor.content = body f := by
  rw [openFile_of_reply hsave hreply (Folder.ne_nil_of_readCause hread)]
  exact exists_showFile rfl hread

/-- Starting a session whose settings name the file, which is saved at once. -/
theorem exists_start {p : Preferences} (hthemes : s.themes = ["default"])
    (hsettings : (settingsIn? s.folder).bind Preferences.ofDocument? = some p)
    (himages : ImagesShown s.toolkit s.folder) (htheme : ThemeFound s.toolkit s.folder p)
    (hwritable : ∃ g, s.folder.writeText p.file [] = .ok g)
    (hread : s.folder.readCause p.file = .ok (Text.encode f)) :
    ∃ r, start s = .ok ⟨⟩ r ∧ r.ShowsFile p.file (body f) := by
  obtain ⟨d, hd, hp⟩ := Option.bind_eq_some_iff.mp hsettings
  have hload := loadPreferences_of_eq hd hp
  have hlooks : LooksOnly (s.load d p) (after changeAppearance (s.load d p)) :=
    preserves_changeAppearance.after (LooksOnly.refl _)
  have happearance : changeAppearance (s.load d p) =
      .ok ⟨⟩ (after changeAppearance (s.load d p)) := by
    apply eq_ok_of_succeeds
    rw [succeeds_changeAppearance (s := s.load d p) hthemes]
    intro hazure
    obtain ⟨hp, hfolder⟩ := Bool.and_eq_true_iff.mp hazure
    exact htheme hp hfolder
  obtain ⟨r, hshow, hfile, hfolder, hcontent⟩ := exists_showFile (f := f)
    (hlooks.file : _ = FileChoice.named p.file) (by rw [hlooks.folder]; exact hread)
  have hwritable' : ∃ g, r.folder.writeText p.file [] = .ok g := by
    rw [hfolder, hlooks.folder]
    exact hwritable
  obtain ⟨folder, -, hsave, hshows⟩ := exists_save hfile hwritable'
  rw [hcontent] at hshows
  unfold start startWith
  rw [bind_of_ok (loadImages_of_shown himages), bind_of_ok hload, bind_of_ok happearance,
    bind_of_ok hshow, bind_of_ok hsave]
  exact ⟨_, rfl, hshows.file, hshows.writable, hshows.stored, hshows.shown⟩

/-- Closing changes neither the file nor what is shown of it, unless it is the settings file. -/
theorem preserves_close_showsFile (name t : Text) : Preserves
    (fun s => s.ShowsFile name t ∧ s.folder.place? name ≠ some [settingsName]) close := by
  let I (s : Session) : Prop := s.ShowsFile name t ∧ s.folder.place? name ≠ some [settingsName]
  have hsame {s r : Session} (h : I s) (hfile : r.file = s.file) (hfolder : r.folder = s.folder)
      (heditor : r.editor = s.editor) : I r := by
    refine ⟨⟨hfile.trans h.1.file, ?_, ?_, ?_⟩, ?_⟩
    · rw [hfolder]
      exact h.1.writable
    · rw [hfolder, h.1.stored]
    · rw [heditor, h.1.shown]
    · rw [hfolder]
      exact h.2
  have hask (question : Question) : Preserves I (ask question) :=
    preserves_ask (fun _ _ h => hsame h rfl rfl rfl) fun _ _ h => hsame h rfl rfl rfl
  -- a save writes what is there already
  have hsave : Preserves I save := by
    rintro s ⟨hshows, hplace⟩
    obtain ⟨folder, hwrite, hsave, hshows'⟩ := exists_save hshows.file hshows.writable
    rw [hshows.shown] at hshows'
    rw [hsave]
    refine ⟨hshows', ?_⟩
    change folder.place? name ≠ _
    rwa [Folder.place?_of_readCause hshows.stored hwrite]
  have hsettings (s : Session) (u : Text) (folder : Folder) (h : I s)
      (hwrite : s.folder.writeText settingsName u = .ok folder) :
      I { s with folder := folder } := by
    have hne : s.folder.place? name ≠ s.folder.place? settingsName := by
      rw [place?_settingsName]
      exact h.2
    obtain ⟨g, hg⟩ := h.1.writable
    refine ⟨⟨h.1.file, Folder.exists_writeText_of_writeText hwrite hg,
      Folder.readCause_of_writeText_of_ne hwrite hne h.1.stored, h.1.shown⟩, ?_⟩
    change folder.place? name ≠ _
    rw [Folder.place?_of_readCause h.1.stored hwrite]
    exact h.2
  apply preserves_close
  intro again hagain
  have hstop : Preserves I (offerStop again) :=
    preserves_offerStop (hask _) (fun _ h => hsame h rfl rfl rfl) hagain
  have hoffer : Preserves I (offerSave again) :=
    preserves_offerSave (hask _) (fun _ h => hsame h rfl rfl rfl) hsave hagain
  have hfinish : Preserves I finishClosing :=
    preserves_finishClosing hsettings (fun _ _ h => hsame h rfl rfl rfl)
      fun _ h _ _ => hsame h rfl rfl rfl
  exact hstop.bind fun _ => hoffer.bind fun _ => hfinish

end Command

namespace Session

open Command

variable {s r : Session} {name t : Text}

theorem ShowsFile.beginAction (h : s.ShowsFile name t) (answers : Script) :
    (s.beginAction answers).ShowsFile name t := ⟨h.file, h.writable, h.stored, h.shown⟩

theorem ShowsFile.exists_save (h : s.ShowsFile name t) :
    ∃ r, save s = .ok ⟨⟩ r ∧ r.ShowsFile name t ∧ r.script = s.script := by
  obtain ⟨folder, -, hsave, hshows⟩ := Command.exists_save h.file h.writable
  rw [h.shown] at hshows
  exact ⟨_, hsave, hshows, rfl⟩

/-- Opening the current file again. -/
theorem ShowsFile.exists_openFile (h : s.ShowsFile name t) (ht : body (t ++ ['\n']) = t)
    (hreply : s.script.replies.head? = some (.text name)) :
    ∃ r, openFile s = .ok ⟨⟩ r ∧ r.ShowsFile name t := by
  obtain ⟨saved, hsave, hshows, hscript⟩ := h.exists_save
  obtain ⟨rest, hrest⟩ := List.head?_eq_some_iff.mp hreply
  obtain ⟨r, hopen, hfile, hfolder, hcontent⟩ :=
    Command.exists_openFile hsave (by rw [hscript, hrest]) hshows.stored
  refine ⟨r, hopen, hfile, ?_, ?_, hcontent.trans ht⟩
  · rw [hfolder]
    exact hshows.writable
  · rw [hfolder, hshows.stored]

theorem ShowsFile.of_close {closed : Session} (h : s.ShowsFile name t)
    (hplace : s.folder.place? name ≠ some [settingsName]) (hclose : close s = .ok ⟨⟩ closed) :
    closed.ShowsFile name t := by
  have hclosed := preserves_close_showsFile name t s ⟨h, hplace⟩
  rw [hclose] at hclosed
  exact hclosed.1

theorem ShowsFile.revisitable (h : r.ShowsFile name t) (ht : body (t ++ ['\n']) = t) :
    r.Revisitable name where
  save answers := by
    obtain ⟨q, hq, -⟩ := (h.beginAction answers).exists_save
    exact ⟨q, hq⟩
  load answers hreply := by
    obtain ⟨q, hq, -⟩ := (h.beginAction answers).exists_openFile ht hreply
    exact ⟨q, hq⟩
  restart answers script highlighter toolkit hplace hclose hsettings hname himages htheme := by
    subst hname
    have hclosed := (h.beginAction answers).of_close hplace hclose
    obtain ⟨q, hq, -⟩ := exists_start (s := { Session.initial _ script with
      highlighter := highlighter, toolkit := toolkit }) rfl hsettings himages htheme
      hclosed.writable hclosed.stored
    exact ⟨q, hq⟩

/-- Nothing changes from the first time on. -/
theorem ShowsFile.revisited (h : s.ShowsFile name t) (ht : body (t ++ ['\n']) = t)
    (hr : Revisited name s r) : r.ShowsFile name t := by
  induction hr with
  | refl => exact h
  | save answers _ hsave ih =>
    obtain ⟨q, hq, hshows, -⟩ := (ih.beginAction answers).exists_save
    cases hq.symm.trans hsave
    exact hshows
  | load answers _ hreply hload ih =>
    obtain ⟨q, hq, hshows⟩ := (ih.beginAction answers).exists_openFile ht hreply
    cases hq.symm.trans hload
    exact hshows
  | @restart r closed q p answers script highlighter toolkit _ hplace hclose hsettings hname hstart
      ih =>
    have hclosed := (ih.beginAction answers).of_close hplace hclose
    let later : Session := { Session.initial closed.folder script with
      highlighter := highlighter, toolkit := toolkit }
    -- the start went through, so the images were shown and the theme was found
    obtain ⟨himages, p', hsettings', htheme, -⟩ :=
      (succeeds_start rfl).mp (succeeds_of_ok hstart)
    obtain rfl := Option.some.inj (hsettings.symm.trans hsettings')
    subst hname
    obtain ⟨q', hq, hshows⟩ := exists_start (s := later) rfl hsettings himages htheme
      hclosed.writable hclosed.stored
    cases hq.symm.trans hstart
    rwa [ht] at hshows

end Session

open Session

/-- Loading a file normalises its text once. Whatever text is in the file, the editor shows it with
newlines of one kind and without those at its end, both after opening it and after starting with it;
and what is saved, if the file can be written, is that with one newline behind it. From then on, any
number of saves, loads and restarts changes neither the file nor the editor, and they do go through.
The file that is left does in every execution what the first one does, up to the position at which a
completed execution ends. -/
theorem loading_normalises_once (name f : Text) :
    (∀ (s saved : Session) (rest : List Value), Command.save s = .ok ⟨⟩ saved →
      saved.script.replies = .text name :: rest →
      saved.folder.readCause name = .ok (Text.encode f) →
      ∃ opened, Command.openFile s = .ok ⟨⟩ opened ∧ opened.editor.content = body f ∧
        ((∃ g, saved.folder.writeText name [] = .ok g) →
          ∃ r, Command.save opened = .ok ⟨⟩ r ∧ r.ShowsFile name (body f))) ∧
    (∀ (folder : Folder) (script : Script) (highlighter : Bool) (toolkit : Toolkit)
        (p : Preferences),
      (settingsIn? folder).bind Preferences.ofDocument? = some p → p.file = name →
      ImagesShown toolkit folder → ThemeFound toolkit folder p →
      (∃ g, folder.writeText name [] = .ok g) → folder.readCause name = .ok (Text.encode f) →
      ∃ r, Command.start { Session.initial folder script with
        highlighter := highlighter, toolkit := toolkit } = .ok ⟨⟩ r ∧
          r.ShowsFile name (body f)) ∧
    (∀ s r : Session, s.ShowsFile name (body f) → Revisited name s r →
      r.ShowsFile name (body f) ∧ r.Revisitable name) ∧
    ∀ folder folder' : Folder, folder.readCause name = .ok (Text.encode f) →
      folder'.readCause name = .ok (Text.encode (body f ++ ['\n'])) →
      ∃ t u, folder.readText name = .ok t ∧ folder'.readText name = .ok u ∧ ∀ start : Terminal,
        (Terminal.Diverges t start ∧ Terminal.Diverges u start) ∨
          ∃ e m n s, Terminal.Finishes t start e m s ∧ Terminal.Finishes u start e n s ∧
            m.pointer = n.pointer ∧ m.memory = n.memory ∧
            (e ≠ .completed → m.position = n.position) := by
  refine ⟨?_, ?_, ?_, ?_⟩
  · intro s saved rest hsave hreply hread
    obtain ⟨opened, hopen, hfile, hfolder, hcontent⟩ := Command.exists_openFile hsave hreply hread
    refine ⟨opened, hopen, hcontent, fun hwritable => ?_⟩
    rw [← hfolder] at hwritable
    obtain ⟨folder, -, hsaved, hshows⟩ := Command.exists_save hfile hwritable
    rw [hcontent] at hshows
    exact ⟨_, hsaved, hshows⟩
  · rintro folder script highlighter toolkit p hsettings rfl himages htheme hwritable hread
    exact Command.exists_start rfl hsettings himages htheme hwritable hread
  · intro s r hs hr
    have hshows := hs.revisited (body_append_newline f) hr
    exact ⟨hshows, hshows.revisitable (body_append_newline f)⟩
  · intro folder folder' hread hread'
    obtain ⟨rest, hrest, hcommands⟩ := exists_eq_body_append f
    have htext := Folder.readText_of_readCause hread
    have htext' := Folder.readText_of_readCause hread'
    rw [hrest] at htext
    rw [unifyNewlines_body_append] at htext'
    exact ⟨_, _, htext, htext', Terminal.agree_of_append (body f) hcommands rfl⟩

/-- Newlines of three kinds at the end of the file. It is opened and saved in one session; another
session is started with it, closed and started again; and the file is executed before and after. -/
theorem loading_normalises_once_restarted :
    let f := "+\r\n\r\n\n\r".toList
    let folder := Folder.sample ['a'] [(['a'], Text.encode f), (['b'], .empty)]
    let x := { Session.initial folder { Script.silent with replies := [.text ['a']] } with
      file := .named ['b'] }
    let s := startedIn folder
    let closed := Command.after Command.close (s.beginAction .silent)
    let r := startedIn closed.folder
    let terminal := Terminal.initial ⟨false, false⟩ [] none none
    body f = ['+'] ∧
      (∃ opened y, Command.openFile x = .ok ⟨⟩ opened ∧ Command.save opened = .ok ⟨⟩ y ∧
        y.ShowsFile ['a'] (body f)) ∧
      (s.ShowsFile ['a'] (body f) ∧ Revisited ['a'] s r ∧ r.ShowsFile ['a'] (body f)) ∧
      ∃ t u e m n c, folder.readText ['a'] = .ok t ∧ r.folder.readText ['a'] = .ok u ∧ t ≠ u ∧
        Terminal.Finishes t terminal e m c ∧ Terminal.Finishes u terminal e n c ∧
        m.memory = n.memory := by
  intro f folder x s closed r terminal
  have hfacts : body f = ['+'] ∧ ((settingsIn? folder).bind Preferences.ofDocument?).map
        (fun p => (p.azure, p.file)) = some (false, ['a']) ∧
      folder.readCause ['a'] = .ok (Text.encode f) ∧
      (folder.writeText ['a'] []).isOk = true ∧ (folder.writeText ['b'] []).isOk = true ∧
      folder.place? ['a'] ≠ folder.place? ['b'] ∧
      s.folder.place? ['a'] ≠ some [settingsName] ∧
      Command.succeeds Command.close (s.beginAction .silent) = true ∧
      ((settingsIn? closed.folder).bind Preferences.ofDocument?).map (·.file) = some ['a'] ∧
      Command.succeeds Command.start (.initial closed.folder .silent) = true := by
    decide +kernel
  obtain ⟨hbody, hsettings, hread, hwritable, hother, hapart, hplace, hclose, hsettings',
    hstart⟩ := hfacts
  obtain ⟨p, hp, hpair⟩ := Option.map_eq_some_iff.mp hsettings
  obtain ⟨hazure, hfile⟩ := Prod.mk.inj hpair
  obtain ⟨p', hp', hfile'⟩ := Option.map_eq_some_iff.mp hsettings'
  have himages : ImagesShown .plain folder := fun _ _ => rfl
  have htheme : ThemeFound .plain folder p := fun h =>
    absurd (hazure.symm.trans h) Bool.false_ne_true
  obtain ⟨hopens, hstarts, hrevisits, hexecutes⟩ := loading_normalises_once ['a'] f
  obtain ⟨g, hg⟩ := Folder.exists_writeText_of_isOk hwritable
  obtain ⟨saved, hwrite, hsave, -⟩ :=
    Command.exists_save (s := x) rfl (Folder.exists_writeText_of_isOk hother)
  obtain ⟨opened, hopen, -, hsaves⟩ := hopens x _ [] hsave rfl
    (Folder.readCause_of_writeText_of_ne hwrite hapart hread)
  obtain ⟨y, hsaved, hy⟩ := hsaves (Folder.exists_writeText_of_writeText hwrite hg)
  obtain ⟨s', hs', hshows⟩ :=
    hstarts folder .silent true .plain p hp hfile himages htheme ⟨g, hg⟩ hread
  rw [← (Command.after_of_ok hs' : s = s')] at hshows
  have hclosed : Command.close (s.beginAction .silent) = .ok ⟨⟩ closed :=
    Command.eq_ok_of_succeeds hclose
  have hagain := start_eq_startedIn hstart
  have hrevisited : Revisited ['a'] s r :=
    .restart .silent .silent true .plain .refl hplace hclosed hp' hfile' hagain
  have hr := (hrevisits s r hshows hrevisited).1
  obtain ⟨t, u, ht, hu, hagree⟩ := hexecutes folder r.folder hread hr.stored
  obtain rfl := Except.ok.inj (ht.symm.trans (Folder.readText_of_readCause hread))
  obtain rfl := Except.ok.inj (hu.symm.trans (Folder.readText_of_readCause hr.stored))
  have hne : unifyNewlines f ≠ unifyNewlines (body f ++ ['\n']) := by decide
  have hends : (Terminal.execute 9 (.ok (unifyNewlines f)) terminal).ending ≠ .unfinished := by
    decide
  rcases hagree terminal with ⟨hdiverges, -⟩ | ⟨e, m, n, c, hm, hn, -, hmemory, -⟩
  · exact absurd (hdiverges 9) hends
  · exact ⟨hbody, ⟨opened, y, hopen, hsaved, hy⟩, ⟨hshows, hrevisited, hr⟩,
      _, _, e, m, n, c, ht, hu, hne, hm, hn, hmemory⟩

/-- Where the settings file is the current file itself, closing writes over it, and another text is
shown after the restart. -/
theorem settings_file_rewritten :
    let settings := Folder.sampleSettings settingsName
    let folder := Folder.sample settingsName []
    let s := startedIn folder
    let closed := Command.after Command.close (s.beginAction .silent)
    let r := startedIn closed.folder
    s.Reached ∧ s.ShowsFile settingsName (body settings) ∧
      Command.close (s.beginAction .silent) = .ok ⟨⟩ closed ∧
      Command.start (.initial closed.folder .silent) = .ok ⟨⟩ r ∧ r.file = .named settingsName ∧
      closed.folder.readCause settingsName ≠ s.folder.readCause settingsName ∧
      r.editor.content ≠ s.editor.content := by
  intro settings folder s closed r
  have hfacts : Command.succeeds Command.start (.initial folder .silent) = true ∧
      s.file.hasName settingsName = true ∧
      (s.folder.writeText settingsName []).isOk = true ∧
      s.folder.readCause settingsName = .ok (Text.encode (body settings ++ ['\n'])) ∧
      s.editor.content = body settings ∧
      Command.succeeds Command.close (s.beginAction .silent) = true ∧
      Command.succeeds Command.start (.initial closed.folder .silent) = true ∧
      r.file.hasName settingsName = true ∧
      closed.folder.readCause settingsName ≠ s.folder.readCause settingsName ∧
      r.editor.content ≠ s.editor.content := by
    decide +kernel
  obtain ⟨hstart, hfile, hwritable, hstored, hshown, hclose, hstart', hfile', hbytes, hcontent⟩ :=
    hfacts
  exact ⟨reached_startedIn hstart, ⟨FileChoice.eq_named_of_hasName hfile,
      Folder.exists_writeText_of_isOk hwritable, hstored, hshown⟩,
    Command.eq_ok_of_succeeds hclose, Command.eq_ok_of_succeeds hstart',
    FileChoice.eq_named_of_hasName hfile', hbytes, hcontent⟩

end TapeStudio
