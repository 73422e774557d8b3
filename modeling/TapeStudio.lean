import TapeStudio.Folder.Lemmas
import TapeStudio.Machine.Terminal
import TapeStudio.Session.Action
import TapeStudio.Widget.Popup
import TapeStudio.Proofs.Matching
import TapeStudio.Proofs.Refinement
import TapeStudio.Proofs.LeftRunning
import TapeStudio.Proofs.SavePrompt
import TapeStudio.Proofs.EnteredLines
import TapeStudio.Proofs.Starting
import TapeStudio.Proofs.InOrder
import TapeStudio.Proofs.Lockstep
import TapeStudio.Proofs.SameAsTerminal
import TapeStudio.Proofs.FailedOpen
import TapeStudio.Proofs.FailedClose
import TapeStudio.Proofs.Isolation
import TapeStudio.Proofs.Moments
import TapeStudio.Proofs.Lines
import TapeStudio.Proofs.Numerals
import TapeStudio.Proofs.SmallLetters
import TapeStudio.Proofs.WrittenSettings
import TapeStudio.Proofs.ReadSettings
import TapeStudio.Proofs.StoredPreferences
import TapeStudio.Proofs.Persistence
import TapeStudio.Proofs.Restart
import TapeStudio.Proofs.TapeInvariant
import TapeStudio.Proofs.Endings
import TapeStudio.Proofs.StopRequest
import TapeStudio.Proofs.CommandText
import TapeStudio.Proofs.Comments
import TapeStudio.Proofs.CellRange
import TapeStudio.Proofs.Substitution
import TapeStudio.Proofs.UnsavedText
import TapeStudio.Proofs.Scanning
import TapeStudio.Proofs.StrayBrackets
import TapeStudio.Proofs.LineColours
import TapeStudio.Proofs.ClosedOnce
import TapeStudio.Proofs.VisitedLines
import TapeStudio.Proofs.NormalText
