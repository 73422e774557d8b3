import TapeStudio.Proofs.Invariant
import TapeStudio.Session.Start

/-! Starting a session: what its parts keep, and the sessions that come of it. -/
namespace TapeStudio

namespace Session

/-- The toolkit shows all images of the windows. -/
def ImagesShown (toolkit : Toolkit) (folder : Folder) : Prop :=
  ∀ name ∈ images, toolkit.imageFault? folder name = none

/-- A session that was started in some folder, after any actions of the user and of others. -/
def Reached (s : Session) : Prop :=
  ∃ folder script highlighter toolkit s₀,
    Command.start { Session.initial folder script with
      highlighter := highlighter, toolkit := toolkit } = .ok ⟨⟩ s₀ ∧
    Reachable (fun _ _ => True) s₀ s

theorem Reached.react {s : Session} (h : s.Reached) (fuel : Nat) (action : Action)
    (script : Script) : (s.react fuel action script).Reached := by
  obtain ⟨folder, script', highlighter, toolkit, s₀, hstart, hreach⟩ := h
  exact ⟨folder, script', highlighter, toolkit, s₀, hstart, hreach.act fuel action script trivial⟩

end Session

namespace Command

open Session

variable {I : Session → Prop} {s : Session}

theorem loadImages_of_shown (h : ImagesShown s.toolkit s.folder) : loadImages s = .ok ⟨⟩ s := by
  have hnone : images.findSome? (s.toolkit.imageFault? s.folder) = none :=
    List.findSome?_eq_none_iff.mpr h
  dsimp only [loadImages, bind, EStateM.bind, get, getThe, MonadStateOf.get, EStateM.get]
  rw [hnone]
  rfl

theorem loadImages_of_not_shown (h : ¬ ImagesShown s.toolkit s.folder) :
    ∃ message, loadImages s = .error (.badImage message) s := by
  have hsome : images.findSome? (s.toolkit.imageFault? s.folder) ≠ none := fun hnone =>
    h (List.findSome?_eq_none_iff.mp hnone)
  obtain ⟨message, hmessage⟩ := Option.ne_none_iff_exists'.mp hsome
  dsimp only [loadImages, bind, EStateM.bind, get, getThe, MonadStateOf.get, EStateM.get]
  rw [hmessage]
  exact ⟨message, rfl⟩

theorem preserves_loadImages (I : Session → Prop) : Preserves I loadImages := by
  refine preserves_get_bind fun s _ => ?_
  split
  · exact preserves_throw _
  · exact preserves_pure _

/-- Loading the preferences changes these, the settings that they are in, and the current file. -/
theorem preserves_loadPreferences (h : ∀ s settings darkMode azure file, I s → I { s with
      settings := settings
      darkMode := darkMode
      azure := azure
      file := file }) : Preserves I loadPreferences := by
  refine preserves_get_bind fun s hs => ?_
  dsimp only
  split
  · exact preserves_throw _
  · exact preserves_set (h s _ _ _ _ hs)

theorem preserves_start (hload : Preserves I loadPreferences)
    (hlooks : ∀ s s', I s → LooksOnly s s' → I s') (hshow : Preserves I showFile)
    (hsave : Preserves I save) (hcomparing : ∀ s, I s → I { s with comparing := true }) :
    Preserves I start := by
  have happearance : Preserves I changeAppearance :=
    .of_frame LooksOnly.refl (fun _ => preserves_changeAppearance) hlooks
  exact (preserves_loadImages I).bind fun _ => hload.bind fun _ => happearance.bind fun _ =>
    hshow.bind fun _ => hsave.bind fun _ => preserves_modify hcomparing

end Command

/-! A small session to try things on. -/

namespace Folder

/-- A folder with these files in it. -/
def ofFiles (files : List (Text × ByteArray)) : Folder where
  entries := files.map fun (name, bytes) => ([name], .file bytes)

/-- Settings that name a current file. -/
def sampleSettings (current : Text) : Text :=
  "[settings]\ndark_mode=0\nuse_azure=0\n[files]\ncurrent=".toList ++ current

/-- A folder with such settings and with other files. -/
def sample (current : Text) (files : List (Text × ByteArray)) : Folder :=
  ofFiles ((Session.settingsName, Text.encode (sampleSettings current)) :: files)

end Folder

namespace Session

/-- The session that is started in a folder. -/
def startedIn (folder : Folder) : Session := Command.after Command.start (.initial folder .silent)

theorem start_eq_startedIn {folder : Folder}
    (h : Command.succeeds Command.start (.initial folder .silent) = true) :
    Command.start { Session.initial folder .silent with
      highlighter := true, toolkit := .plain } = .ok ⟨⟩ (startedIn folder) :=
  Command.eq_ok_of_succeeds h

theorem reached_startedIn {folder : Folder}
    (h : Command.succeeds Command.start (.initial folder .silent) = true) :
    (startedIn folder).Reached :=
  ⟨folder, .silent, true, .plain, _, start_eq_startedIn h, .start⟩

end Session

end TapeStudio
