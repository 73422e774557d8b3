import TapeStudio.Session.Files
import TapeStudio.Settings.Preferences

/-! Closing a session. -/
namespace TapeStudio

namespace Session

def settingsName : Text := "settings.ini".toList

def preferences (s : Session) : Preferences := ⟨s.darkMode, s.azure, s.file.name⟩

/-- The window goes; it can go only once. -/
def destroyWindow (s : Session) : Session :=
  { s.log [.destroyed s.windowOpen] with windowOpen := false }

end Session

namespace Command

/-- Sets an option. A value that is not empty must not have a stray percent sign. -/
def setOption (sectionName option value : Text) : Command Unit := do
  match Settings.strayPercent? value with
  | some place => throw (.strayPercent value place)
  | none => modify fun s => { s with settings := s.settings.setRaw sectionName option value }

def setOptions : List (Text × Text × Text) → Command Unit
  | [] => pure ()
  | (sectionName, option, value) :: rest => do
    setOption sectionName option value
    setOptions rest

def writeSettings (t : Text) : Command Unit := do
  let s ← get
  set { s with folder := ← ofFile (s.folder.writeText Session.settingsName t) }

/-- Sets the options of the preferences in order. A file without a name stops it before the last
of them. -/
def setPreferences : Command Unit := do
  let s ← get
  setOptions s.preferences.switchEntries
  match s.file with
  | .named _ => setOptions s.preferences.fileEntries
  | .unnamed _ => throw .noText

/-- Stores the preferences. The settings file is emptied before anything else is done. -/
def storePreferences : Command Unit := do
  writeSettings []
  setPreferences
  writeSettings (Settings.write (← get).settings)

/-- Asks whether a running program is to be ended. A yes throws the stop switch, and closing starts
over (`again`). -/
def offerStop (again : Command Unit) : Command Unit := do
  if (← get).switches.running then
    let reply ← ask .killProgram
    if reply.isYes then
      modify (·.pressStop)
      again

/-- Closes if nothing stands against it. -/
def finishClosing : Command Unit := do
  let s ← get
  if !s.switches.running && !s.dirty then
    storePreferences
    modify (·.destroyWindow)

section Saving

/-! Closing, with the command by which it saves. -/

variable (save : Command Unit)

/-- Asks whether unsaved text is to be saved. After a yes or a no it does not count as unsaved any
more, and closing starts over (`again`). -/
def offerSaveWith (again : Command Unit) : Command Unit := do
  if (← get).dirty then
    let reply ← ask .saveChanges
    if reply.isYes then
      modify ({ · with dirty := false })
      save
      again
    else if reply.isNo then
      modify ({ · with dirty := false })
      again

/-- The questions before closing, and closing. What starts over in a question is followed by the
rest of this turn. -/
def closeTurnWith (again : Command Unit) : Command Unit := do
  offerStop again
  offerSaveWith save again
  finishClosing

/-- At most `turns` turns, one inside the other. -/
def closeWithinWith : Nat → Command Unit
  | 0 => throw .unfinished
  | turns + 1 => closeTurnWith save (closeWithinWith turns)

/-- Each turn after the first follows a reply of the script, so their number is bounded. -/
def closeWith : Command Unit := do
  closeWithinWith save ((← get).script.replies.length + 1)

end Saving

def offerSave : Command Unit → Command Unit := offerSaveWith save

def closeTurn : Command Unit → Command Unit := closeTurnWith save

def closeWithin : Nat → Command Unit := closeWithinWith save

def close : Command Unit := closeWith save

end Command

end TapeStudio
