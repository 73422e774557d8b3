import TapeStudio.Session.Closing
import TapeStudio.Session.Theme

/-! Starting a session. -/
namespace TapeStudio

namespace Session

/-- The settings document in a folder. A file that cannot be opened counts as empty. -/
def settingsIn? (folder : Folder) : Option Document :=
  match folder.readText settingsName with
  | .ok t => Settings.read? t
  | .error fault => if fault.cause = .undecodable then none else some .empty

/-- The images of the windows, in the order in which they are loaded. -/
def images : List Text := ["icon.png".toList, "brainfuck.png".toList]

end Session

namespace Command

/-- Loads the images of the windows, as far as the first one that cannot be shown. -/
def loadImages : Command Unit := do
  let s ← get
  match Session.images.findSome? (s.toolkit.imageFault? s.folder) with
  | some message => throw (.badImage message)
  | none => pure ()

def loadPreferences : Command Unit := do
  let s ← get
  let loaded := do
    let settings ← Session.settingsIn? s.folder
    let p ← Preferences.ofDocument? settings
    pure (settings, p)
  match loaded with
  | none => throw .badSettings
  | some (settings, p) =>
    set { s with
      settings := settings
      darkMode := p.darkMode
      azure := p.azure && s.hasThemeFolder
      file := .named p.file }

/-- Loads the images and the preferences, shows the last file and saves it again (`save`). -/
def startWith (save : Command Unit) : Command Unit := do
  loadImages
  loadPreferences
  changeAppearance
  showFile
  save
  modify ({ · with comparing := true })

def start : Command Unit := startWith save

end Command

end TapeStudio
