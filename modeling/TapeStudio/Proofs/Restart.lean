import TapeStudio.Proofs.FailedOpen
import TapeStudio.Proofs.Persistence

/-! Starting again where a session was closed. It fails if an image cannot be shown, if no
preferences are found in the settings that closing wrote, or if what they name is of no use: a theme
that its script does not make known, or a current file that cannot be written or does not hold a
text. -/
namespace TapeStudio

namespace Session

/-- The script of a theme makes it known to the toolkit. -/
def Known (toolkit : Toolkit) (folder : Folder) (theme : String) : Prop :=
  (toolkit.runScript folder (themePath theme).toList ["default"]).contains theme = true

/-- The theme that is to be used is made known, where there is anything in its place. -/
def ThemeFound (toolkit : Toolkit) (folder : Folder) (p : Preferences) : Prop :=
  p.azure = true → folder.contains themeFolder.toList = true →
    Known toolkit folder (themeName (p.darkMode ≠ 0))

/-- The file can be shown in the editor and saved again. -/
structure Workable (folder : Folder) (name : Text) : Prop where
  writable : ∃ g, folder.writeText name [] = .ok g
  legible {bytes : ByteArray} :
    folder.readCause name = .ok bytes → (Text.decode? bytes).isSome = true

/-- The file can be worked with, or none is named, and then the dialog is answered by nothing or by
a file that can be written. -/
def Startable (folder : Folder) (script : Script) (name : Text) : Prop :=
  if name = [] then
    match FileChoice.ofReply? (script.replies.headD (.text [])) with
    | none => True
    | some (.named chosen) => ∃ g, folder.writeText chosen [] = .ok g
    | some (.unnamed _) => False
  else Workable folder name

end Session

namespace Command

open Session

variable {s : Session} {name : Text}

theorem succeeds_of_ok {c : Command Unit} {r : Session} (h : c s = .ok ⟨⟩ r) :
    succeeds c s = true := by
  rw [succeeds, h]

theorem succeeds_eq_false_iff {c : Command Unit} :
    succeeds c s = false ↔ ∃ fault r, c s = .error fault r := by
  unfold succeeds
  cases hr : c s <;> simp

theorem succeeds_chooseTheme (theme : String) (s : Session) :
    succeeds (chooseTheme theme) s = s.themes.contains theme := by
  change succeeds (if s.themes.contains theme then modify ({ · with theme := theme })
    else throw (.missingTheme theme)) (s.log [.themeChosen theme]) = _
  cases s.themes.contains theme <;> rfl

theorem contains_sourceTheme (hthemes : s.themes = ["default"]) (theme : String) :
    (s.sourceTheme theme).themes.contains theme = true ↔ Known s.toolkit s.folder theme := by
  rw [Known, ← hthemes]
  rfl

theorem succeeds_changeAppearance (hthemes : s.themes = ["default"]) :
    succeeds changeAppearance s = true ↔
      (s.azure = true → Known s.toolkit s.folder (themeName s.isDark)) := by
  let s₁ : Session := { s with appearance := .ofDark s.isDark }.highlight
  have hs₁ : s₁.azure = s.azure ∧ s₁.isDark = s.isDark ∧ s₁.themes = s.themes ∧
      s₁.toolkit = s.toolkit ∧ s₁.folder = s.folder := by
    unfold s₁ Session.highlight
    split <;> exact ⟨rfl, rfl, rfl, rfl, rfl⟩
  obtain ⟨hazure, hdark, hthemes₁, htoolkit, hfolder⟩ := hs₁
  have hbody : succeeds changeAppearance s = if s₁.azure then
      succeeds (chooseTheme (themeName s₁.isDark)) (s₁.sourceTheme (themeName s₁.isDark))
      else true := by
    change succeeds (if s₁.azure then modify (·.sourceTheme (themeName s₁.isDark)) >>= fun _ =>
      chooseTheme (themeName s₁.isDark) else pure ()) s₁ = _
    cases s₁.azure <;> rfl
  have hchoose := contains_sourceTheme (hthemes₁.trans hthemes) (themeName s₁.isDark)
  rw [hbody, succeeds_chooseTheme]
  rw [htoolkit, hfolder, hdark] at hchoose
  rw [hazure, hdark]
  cases s.azure with
  | false => simp
  | true => simpa using hchoose

theorem succeeds_showFile (hfile : s.file = .named name) :
    succeeds showFile s = true ↔
      ∀ cause, s.folder.readText name = .error ⟨name, cause⟩ → cause = .missing := by
  rw [← Bool.not_eq_false, succeeds_eq_false_iff]
  constructor
  · intro h cause hread
    by_cases hcause : cause = .missing
    · exact hcause
    · exact absurd ⟨_, _, (showFile_eq_error_iff hfile).mpr ⟨rfl, cause, hcause, rfl, hread⟩⟩ h
  · rintro h ⟨fault, r, hfailed⟩
    obtain ⟨-, cause, hcause, -, hread⟩ := (showFile_eq_error_iff hfile).mp hfailed
    exact hcause (h cause hread)

theorem succeeds_saveNamed (hfile : s.file = .named name) :
    succeeds saveNamed s = true ↔ ∃ g, s.folder.writeText name [] = .ok g := by
  rw [succeeds, saveNamed_of_named hfile]
  cases hwrite : s.folder.writeText name s.editor.whole with
  | ok folder => simpa using Folder.exists_writeText hwrite []
  | error fault =>
    simp only [Bool.false_eq_true, false_iff]
    rintro ⟨g, hg⟩
    obtain ⟨g', hg'⟩ := Folder.exists_writeText hg s.editor.whole
    rw [hwrite] at hg'
    contradiction

/-- The file that was just saved can be shown. -/
theorem succeeds_saveNamed_showFile (hfile : s.file = .named name) :
    succeeds (saveNamed >>= fun _ => showFile) s = true ↔
      ∃ g, s.folder.writeText name [] = .ok g := by
  rw [succeeds_bind, Bool.and_eq_true, succeeds_saveNamed hfile]
  refine ⟨fun h => h.1, fun h => ⟨h, ?_⟩⟩
  obtain ⟨g, hg⟩ := h
  obtain ⟨folder, hwrite⟩ := Folder.exists_writeText hg s.editor.whole
  have hsave : saveNamed s = .ok ⟨⟩ { s with folder := folder }.markClean := by
    rw [saveNamed_of_named hfile, hwrite]
  rw [after_of_ok hsave]
  have hfile' : ({ s with folder := folder }.markClean).file = .named name := hfile
  apply (succeeds_showFile hfile').mpr
  intro cause hread
  have hstored := Folder.readText_of_writeText hwrite
  change folder.readText name = _ at hread
  rw [hstored] at hread
  contradiction

theorem succeeds_saveAs (s : Session) :
    succeeds saveAs s = true ↔ Startable s.folder s.script [] := by
  have hask := askFile_eq .saveAs s
  dsimp only at hask
  rw [Startable, if_pos rfl, saveAs, saveAsWith, choosing, succeeds, bind_of_ok hask]
  cases FileChoice.ofReply? (s.script.replies.headD (.text [])) with
  | none => exact iff_of_true rfl trivial
  | some file =>
    rw [← succeeds]
    change succeeds (saveNamed >>= fun _ => showFile)
      { Session.logRequest _ _ _ with file := file } = true ↔ _
    cases file with
    | named chosen => exact succeeds_saveNamed_showFile rfl
    | unnamed reply =>
      rw [succeeds, bind_of_error (saveNamed_of_unnamed rfl)]
      exact iff_of_false Bool.false_ne_true id

/-- Showing the current file and saving it again, as at the start of a session. -/
theorem succeeds_showFile_save (hfile : s.file = .named name) :
    succeeds (showFile >>= fun _ => save) s = true ↔ Startable s.folder s.script name := by
  have hshown : (after showFile s).file = .named name ∧ (after showFile s).folder = s.folder ∧
      (after showFile s).script = s.script := by
    have hkeep : Preserves (fun r => r.file = .named name ∧ r.folder = s.folder ∧
        r.script = s.script) showFile := preserves_showFile fun _ _ _ _ _ _ h => h
    exact hkeep.after ⟨hfile, rfl, rfl⟩
  obtain ⟨hfile', hfolder, hscript⟩ := hshown
  rw [succeeds_bind, Bool.and_eq_true, succeeds_showFile hfile]
  generalize after showFile s = r at hfile' hfolder hscript
  by_cases hname : name = []
  · subst hname
    have hsave : succeeds save r = succeeds saveAs r := by
      have hbody : save r = (saveAs >>= fun _ => modify (·.markClean)) r := by
        change (if r.file.isNoFile then saveAs >>= fun _ => modify (·.markClean)
          else saveNamed : Command Unit) r = _
        rw [hfile']
        rfl
      rw [succeeds, hbody, ← succeeds, succeeds_bind]
      exact Bool.and_true _
    rw [hsave, succeeds_saveAs, hfolder, hscript]
    refine ⟨fun h => h.2, fun h => ⟨fun cause hread => ?_, h⟩⟩
    have hcause : s.folder.readCause [] = .error .missing := by
      rw [Folder.readCause, route_nil]
      rfl
    rcases Folder.readText_eq_error_iff.mp hread with ⟨cause', hnone, hfault⟩ |
      ⟨bytes, hfound, -, -⟩
    · rw [hcause, Except.error.injEq] at hnone
      rw [FileFault.mk.injEq] at hfault
      exact hfault.2.trans hnone.symm
    · rw [hcause] at hfound
      contradiction
  · rw [Startable, if_neg hname, succeeds, save_of_named hfile' hname, ← succeeds,
      succeeds_saveNamed hfile', hfolder]
    constructor
    · rintro ⟨hread, hwritable⟩
      refine ⟨hwritable, fun {bytes} hbytes => ?_⟩
      cases hdecode : Text.decode? bytes with
      | some t => rfl
      | none =>
        have hfault := hread .undecodable
          (Folder.readText_eq_error_iff.mpr (.inr ⟨bytes, hbytes, hdecode, rfl⟩))
        contradiction
    · rintro ⟨⟨g, hg⟩, hlegible⟩
      refine ⟨fun cause hread => ?_, g, hg⟩
      rcases Folder.readText_eq_error_iff.mp hread with ⟨cause', hnone, hfault⟩ |
        ⟨bytes, hbytes, hdecode, -⟩
      · rw [FileFault.mk.injEq] at hfault
        rw [hfault.2]
        exact Folder.eq_missing_of_writeText hg hnone
      · have hsome := hlegible hbytes
        rw [hdecode] at hsome
        contradiction

/-- When a session can be started. -/
theorem succeeds_start (hthemes : s.themes = ["default"]) :
    succeeds start s = true ↔ ImagesShown s.toolkit s.folder ∧
      ∃ p, (settingsIn? s.folder).bind Preferences.ofDocument? = some p ∧
        ThemeFound s.toolkit s.folder p ∧ Startable s.folder s.script p.file := by
  by_cases himages : ImagesShown s.toolkit s.folder
  case neg =>
    obtain ⟨message, hfailed⟩ := loadImages_of_not_shown himages
    have hstart : start s = .error (.badImage message) s := bind_of_error hfailed
    exact iff_of_false (by rw [succeeds, hstart]; exact Bool.false_ne_true) fun h => himages h.1
  have hloaded : start s = (loadPreferences >>= fun _ => changeAppearance >>= fun _ =>
      showFile >>= fun _ => save >>= fun _ => modify ({ · with comparing := true })) s :=
    bind_of_ok (loadImages_of_shown himages)
  have hstart : succeeds start s =
      (succeeds loadPreferences s && (succeeds changeAppearance (after loadPreferences s) &&
        succeeds (showFile >>= fun _ => save)
          (after changeAppearance (after loadPreferences s)))) := by
    rw [succeeds, hloaded, ← succeeds]
    simp only [succeeds_bind]
    rw [show succeeds (modify ({ · with comparing := true })) _ = true from rfl, Bool.and_true]
  rw [hstart, Bool.and_eq_true, Bool.and_eq_true, and_iff_right himages]
  cases hp : (settingsIn? s.folder).bind Preferences.ofDocument? with
  | none =>
    have hload : loadPreferences s = .error .badSettings s := loadPreferences_of_none hp
    rw [succeeds, hload]
    simp
  | some p =>
    obtain ⟨d, hd, hdp⟩ := Option.bind_eq_some_iff.mp hp
    have hload := loadPreferences_of_eq hd hdp
    have hlooks : LooksOnly (s.load d p) (after changeAppearance (s.load d p)) :=
      preserves_changeAppearance.after (LooksOnly.refl _)
    have htheme : succeeds changeAppearance (s.load d p) = true ↔
        ThemeFound s.toolkit s.folder p := by
      rw [succeeds_changeAppearance (s := s.load d p) hthemes]
      change ((p.azure && s.hasThemeFolder) = true → _) ↔ _
      rw [Bool.and_eq_true, and_imp]
      rfl
    rw [succeeds_of_ok hload, after_of_ok hload, htheme, succeeds_showFile_save hlooks.file,
      hlooks.folder, hlooks.script]
    constructor
    · rintro ⟨-, hfound⟩
      exact ⟨p, rfl, hfound⟩
    · rintro ⟨_, hsome, hfound⟩
      obtain rfl := Option.some.inj hsome
      exact ⟨rfl, hfound⟩

end Command

end TapeStudio
