import TapeStudio.Settings.Interpolation
import TapeStudio.Settings.Reader
import TapeStudio.Settings.Writer
import TapeStudio.Text.Numeral

/-! The preferences kept in the settings document. -/
namespace TapeStudio

structure Preferences where
  darkMode : Int
  azure : Bool
  file : Text
  deriving DecidableEq, Repr

namespace Preferences

def settingsSection : Text := "settings".toList
def filesSection : Text := "files".toList
def darkModeOption : Text := "dark_mode".toList
def azureOption : Text := "use_azure".toList
def fileOption : Text := "current".toList

def ofDocument? (d : Document) : Option Preferences := do
  let darkMode ← Text.integer? (← Settings.value? d settingsSection darkModeOption)
  let azure ← Text.integer? (← Settings.value? d settingsSection azureOption)
  let file ← Settings.value? d filesSection fileOption
  pure ⟨darkMode, azure ≠ 0, file⟩

/-- Where the mode and the use of themes are kept, and their texts. -/
def switchEntries (p : Preferences) : List (Text × Text × Text) :=
  [(settingsSection, darkModeOption, Text.ofInteger p.darkMode),
    (settingsSection, azureOption, if p.azure then ['1'] else ['0'])]

/-- Where the name of the file is kept. -/
def fileEntries (p : Preferences) : List (Text × Text × Text) :=
  [(filesSection, fileOption, p.file)]

/-- Where each preference is kept, and its text, in the order in which they are stored. -/
def entries (p : Preferences) : List (Text × Text × Text) := p.switchEntries ++ p.fileEntries

end Preferences

end TapeStudio
