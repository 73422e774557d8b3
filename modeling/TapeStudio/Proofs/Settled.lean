import TapeStudio.Proofs.Invariant
import TapeStudio.Proofs.StoredText

/-! When the current file agrees with the editor: what the commands on files need for it, and what
the user must be careful about. -/
namespace TapeStudio

namespace Session

/-- The current file can be the one with this name: it has a name, which does not lead to the
settings file, and it can be written. -/
structure Usable (folder : Folder) (name : Text) : Prop where
  nonempty : name ≠ []
  apart : folder.place? name ≠ folder.place? settingsName
  writable : ∃ g, folder.writeText name [] = .ok g

end Session

/-- A choice that can be kept: the file is usable, and where it is chosen for opening it is there
and holds a text. -/
def FileRequest.Sound (q : FileRequest) : Prop :=
  match FileChoice.ofReply? q.reply with
  | none => True
  | some (.unnamed _) => False
  | some (.named name) => Session.Usable q.folder name ∧
    (q.dialog.forSaving = false → ∃ t, q.folder.readText name = .ok t)

/-- All files were well chosen, no theme was fetched, and the question whether to save was not
answered with a no. -/
def Journal.Careful (j : Journal) : Prop :=
  (∀ q ∈ j.requests, q.Sound) ∧ (∀ url, .fetched url ∉ j.events) ∧
    ∀ reply, .questionAsked .saveChanges reply ∈ j.events → reply.isNo = false

theorem Journal.Careful.of_subset {j j' : Journal} (h : j'.Careful) (hevents : j.events ⊆ j'.events)
    (hrequests : j.requests ⊆ j'.requests) : j.Careful :=
  ⟨fun q hq => h.1 q (hrequests hq), fun url hurl => h.2.1 url (hevents hurl),
    fun reply hreply => h.2.2 reply (hevents hreply)⟩

namespace Session

variable {s s' : Session}

/-- The property holds, provided that the user was careful. -/
def Provided (A : Session → Prop) (s : Session) : Prop := s.journal.Careful → A s

theorem Provided.imp {A B : Session → Prop} (h : Provided A s) (hAB : ∀ s, A s → B s) :
    Provided B s := fun hs => hAB s (h hs)

/-- The current file can be written and read. -/
def Legible (s : Session) : Prop :=
  ∃ name, s.file = .named name ∧ Usable s.folder name ∧ ∃ t, s.folder.readText name = .ok t

/-- The current file can be written and read, and it agrees with the editor unless the text counts
as unsaved. -/
def Settled (s : Session) : Prop :=
  ∃ name, s.file = .named name ∧ Usable s.folder name ∧
    ∃ t, s.folder.readText name = .ok t ∧ (s.dirty = false → Text.Agrees t s.editor.content)

theorem Settled.legible (h : s.Settled) : s.Legible := by
  obtain ⟨name, hfile, husable, t, hread, _⟩ := h
  exact ⟨name, hfile, husable, t, hread⟩

theorem Settled.of_looksOnly (h : s.Settled) (hl : LooksOnly s s') : s'.Settled := by
  unfold Settled
  rw [hl.file, hl.folder, hl.dirty, hl.editor]
  exact h

theorem Settled.insertInEditor {offset : Nat} {t : Text}
    (h : { s with editor := s.editor.insertAt offset t }.Settled) :
    (s.insertInEditor offset t).Settled :=
  h.of_looksOnly (LooksOnly.refl _).highlight

theorem route_settingsName (f : Folder) : f.route settingsName = .ok ⟨[], settingsName⟩ := by
  unfold Folder.route
  rw [if_neg (by decide), if_neg (by decide +kernel), if_neg (by decide)]
  rfl

theorem place?_settingsName (f : Folder) : f.place? settingsName = some [settingsName] := by
  rw [Folder.place?, route_settingsName]
  rfl

/-- Writing a file makes no name unusable. -/
theorem Usable.of_writeText {f g : Folder} {name other t : Text} (h : Usable f name)
    (hw : f.writeText other t = .ok g) : Usable g name := by
  obtain ⟨f', hname⟩ := h.writable
  obtain ⟨p, hp⟩ := Folder.exists_place?_of_writeText hname
  refine ⟨h.nonempty, ?_, Folder.exists_writeText_of_writeText hw hname⟩
  rw [Folder.place?_of_writeText hw hp, place?_settingsName, ← hp, ← place?_settingsName f]
  exact h.apart

end Session

namespace TextBox

variable {α : Type}

theorem content_clear (b : TextBox α) : b.clear.content = [] := by
  unfold clear deleteBetween
  cases hb : b.content <;> simp [hb]

theorem content_insertAt {b : TextBox α} (hb : b.content = []) (offset : Nat) (t : List α) :
    (b.insertAt offset t).content = t := by
  simp [insertAt, hb]

end TextBox

namespace Command

open Session

variable {s : Session}

theorem fileName_of_named {name : Text} (h : s.file = .named name) : fileName s = .ok name s := by
  obtain ⟨⟩ := s
  subst h
  rfl

/-- Where the current file cannot be written, a save fails and changes nothing. -/
theorem exists_save_eq_error {name : Text} (hfile : s.file = .named name) (hname : name ≠ [])
    (h : ¬ ∃ g, s.folder.writeText name [] = .ok g) : ∃ fault, save s = .error fault s := by
  rw [save_of_named hfile hname, saveNamed_of_named hfile]
  cases hwrite : s.folder.writeText name s.editor.whole with
  | ok folder => exact absurd (Folder.exists_writeText hwrite []) h
  | error fault => exact ⟨.file fault, rfl⟩

end Command

namespace Command

open Session

variable {α : Type} {A B E : Session → Prop}

end Command

end TapeStudio
