import TapeStudio.Session.Theme

/-! The settings and the about window, and what their controls do. -/
namespace TapeStudio

namespace Session

def repositoryUrl : String := "https://github.com/rdbende/Brainfuck-IDE"
def themeUrl : String := "https://github.com/rdbende/Azure-ttk-theme"
def archiveUrl : String := "https://github.com/rdbende/Azure-ttk-theme/archive/refs/heads/main.zip"
def archiveName : Text := "azure.zip".toList
def wikiUrl : String := "https://en.wikipedia.org/wiki/Brainfuck"

/-- The address that is called to find out whether the network is there. -/
def probeHost : String := "8.8.8.8"
def probeService : Nat := 53

def windowing : Text := "x11".toList

def addWindow (s : Session) (title : String) : Session :=
  { s with journal := { s.journal with windows := s.journal.windows ++ [⟨title, []⟩] } }

/-- Makes a control in the newest window. -/
def addControl (s : Session) (control : Control) : Session :=
  let windows := match s.journal.windows.reverse with
    | [] => []
    | w :: rest => ({ w with controls := w.controls ++ [control] } :: rest).reverse
  { s with
    controls := control :: s.controls
    journal := { s.journal with windows := windows } }

def addControls (s : Session) (controls : List Control) : Session := controls.foldl addControl s

def addLink (s : Session) (caption url : String) : Session :=
  let (link, events) := Link.make windowing
    [(Link.captionOption, .ofString caption), (Link.urlOption, .ofString url)]
  (s.log (events.map .link)).addControl ⟨.link link, caption⟩

def downloadCaption : String := "Download"

def openAbout (s : Session) : Session :=
  ((s.addWindow "About Brainfuck IDE").addControls
    [⟨.label, "Copyright (c) 2021 rdbende"⟩, ⟨.label, "v1.0"⟩]).addLink
      "Visit repo on GitHub" repositoryUrl

/-- The theme can be switched if it is there; if not, and the network is there, it can be
fetched. -/
def openSettings (s : Session) : Session :=
  let s := (s.addWindow "Settings").addControls
    [⟨.group, "UI theme"⟩, ⟨.radio 0, "Light mode"⟩, ⟨.radio 1, "Dark mode"⟩,
      ⟨.label, "Restart needed after changing these options!"⟩]
  if s.hasThemeFolder then s.addControl ⟨.checkbox, "Azure theme"⟩
  else
    let s := s.log [.connected probeHost probeService]
    if s.script.online then
      (s.addControls
        [⟨.group, "Azure theme"⟩,
          ⟨.label, "Download my beautiful Azure theme for Brainfuck IDE"⟩,
          ⟨.button true, downloadCaption⟩]).addLink "Visit it on GitHub" themeUrl
    else s

def openWiki (s : Session) : Session := s.log [.browsed wikiUrl]

/-- The newest control with a caption, changed. -/
def replaceNewest (caption : Text) (f : Control → Control) : List Control → List Control
  | [] => []
  | c :: rest =>
    if c.caption.toList = caption then f c :: rest else c :: replaceNewest caption f rest

def newestControl? (s : Session) (caption : Text) : Option Control :=
  s.controls.find? (·.caption.toList = caption)

def setNewest (s : Session) (caption : Text) (kind : ControlKind) : Session :=
  { s with controls := replaceNewest caption ({ · with kind := kind }) s.controls }

end Session

namespace Command

/-- Fetches the theme and unpacks it in the working folder. -/
def downloadTheme : Command Unit := do
  log (.fetched Session.archiveUrl)
  onFolder (.ofStep (·.write Session.archiveName .empty))
  log (.progressed 20)
  match (← get).script.archive? with
  | none => throw .badArchive
  | some archive =>
    onFolder archive.unpack
    log (.progressed 70)
    onFolder (.remove Session.archiveName)
    log (.progressed 90)
    modify ({ · with azure := true })
    changeAppearance
    log (.progressed 100)

/-- A click on the newest control with this caption. -/
def click (caption : Text) : Command Unit := do
  match (← get).newestControl? caption with
  | none => pure ()
  | some control =>
    match control.kind with
    | .group | .label | .button false => pure ()
    | .radio value =>
      modify ({ · with darkMode := value })
      changeAppearance
    | .checkbox =>
      modify fun s => { s with azure := !s.azure }
      changeAppearance
    | .button true =>
      modify (·.setNewest caption (.button false))
      downloadTheme
    | .link link =>
      let (link, events) := link.click
      modify fun s => (s.setNewest caption (.link link)).log (events.map .link)

end Command

end TapeStudio
