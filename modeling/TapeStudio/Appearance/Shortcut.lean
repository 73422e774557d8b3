import TapeStudio.Text.Basic

/-! Keyboard shortcuts, which differ between systems. -/
namespace TapeStudio

/-- An accelerator is shown in a menu, a key sequence is what the keyboard sends. -/
structure Shortcuts where
  newAccelerator : String
  newKeys : String
  openAccelerator : String
  openKeys : String
  saveAccelerator : String
  saveKeys : String
  saveAsAccelerator : String
  saveAsKeys : String
  settingsKeys : String
  quitAccelerator : String

namespace Shortcuts

def command : Shortcuts where
  newAccelerator := "Cmd+N"
  newKeys := "<Command-n>"
  openAccelerator := "Cmd+O"
  openKeys := "<Command-o>"
  saveAccelerator := "Cmd+S"
  saveKeys := "<Command-s>"
  saveAsAccelerator := "Cmd+Shift+S"
  saveAsKeys := "<Command-Shift-S>"
  settingsKeys := "<Command-p>"
  quitAccelerator := "Cmd+W"

def control : Shortcuts where
  newAccelerator := "Ctrl+N"
  newKeys := "<Control-n>"
  openAccelerator := "Ctrl+O"
  openKeys := "<Control-o>"
  saveAccelerator := "Ctrl+S"
  saveKeys := "<Control-s>"
  saveAsAccelerator := "Ctrl+Shift+S"
  saveAsKeys := "<Control-Shift-S>"
  settingsKeys := "<Control-p>"
  quitAccelerator := "Alt+F4"

def forSystem (system : Text) : Shortcuts :=
  if system = "darwin".toList then command else control

end Shortcuts

end TapeStudio
