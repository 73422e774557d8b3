import TapeStudio.Session.Panes

/-! Colours and themes. -/
namespace TapeStudio

namespace Session

def themeFolder : String := "Azure-ttk-theme-main"

/-- The theme that goes with the chosen mode. -/
def themeName (dark : Bool) : String := if dark then "azure-dark" else "azure"

def isDark (s : Session) : Bool := s.darkMode ≠ 0

def hasThemeFolder (s : Session) : Bool := s.folder.contains themeFolder.toList

/-- The name of the script that a theme comes from. -/
def themePath (name : String) : String := s!"{themeFolder}/{name}.tcl"

/-- Runs the script of a theme. What comes of it shows only when the theme is chosen. -/
def sourceTheme (s : Session) (name : String) : Session :=
  { s.log [.themeSourced (themePath name)] with
    themes := s.toolkit.runScript s.folder (themePath name).toList s.themes }

/-- Boxes that a colour is set for. -/
inductive ColouredBox where
  | editor
  | input
  | output
  deriving DecidableEq, Repr

/-- The roles that are set for a box. The output box has no insertion cursor. -/
def ColouredBox.roles : ColouredBox → List Role
  | .editor | .input => [.background, .foreground, .insertion, .selection]
  | .output => [.background, .foreground, .selection]

/-- The role that colours a class of tokens. Stray brackets keep the colour of the text. -/
def tokenRole? : TokenClass → Option Role
  | .bracket => some .brace
  | .change => some .value
  | .io => some .io
  | .move => some .pointer
  | .comment => some .comment
  | .stray => none

end Session

namespace Command

def chooseTheme (name : String) : Command Unit := do
  log (.themeChosen name)
  if (← get).themes.contains name then modify ({ · with theme := name })
  else throw (.missingTheme name)

/-- Applies the chosen mode, and the theme that goes with it if themes are in use. -/
def changeAppearance : Command Unit := do
  modify fun s => { s with appearance := .ofDark s.isDark }.highlight
  let s ← get
  if s.azure then
    let name := Session.themeName s.isDark
    modify (·.sourceTheme name)
    chooseTheme name

end Command

end TapeStudio
