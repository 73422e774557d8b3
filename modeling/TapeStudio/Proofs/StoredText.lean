import Mathlib.Data.List.DropRight
import TapeStudio.Folder.Lemmas

/-! Texts in files: what is read after a text was written, under the same name or under another
one; and texts that agree up to the newlines at their ends. -/
namespace TapeStudio

namespace Folder

variable {f g : Folder} {name other : Text}

/-- The place that a name leads to. -/
def place? (f : Folder) (name : Text) : Option Path :=
  match f.route name with
  | .ok r => some r.place
  | .error _ => none

theorem writeCause_eq_ok_iff {bytes : ByteArray} :
    f.writeCause name bytes = .ok g ↔ ∃ r, f.route name = .ok r ∧ checkPart r.last = .ok () ∧
      Path.namesFolder name = false ∧ f.find? r.place ≠ some .folder ∧
      f.readOnly r.place = false ∧ g = f.put r.place (.file bytes) := by
  unfold writeCause lookUp
  cases f.route name with
  | error cause => simp [bind, Except.bind]
  | ok r =>
    cases hname : Path.namesFolder name with
    | true => simp [bind, Except.bind]
    | false =>
      cases hpart : checkPart r.last with
      | error cause => simp [bind, Except.bind, hpart]
      | ok _ =>
        cases hfind : f.find? r.place with
        | none =>
          cases hread : f.readOnly r.place <;>
            simp [bind, Except.bind, pure, Except.pure, hpart, hfind, hread, eq_comm (a := g)]
        | some entry =>
          cases entry <;> cases hread : f.readOnly r.place <;>
            simp [bind, Except.bind, pure, Except.pure, hpart, hfind, hread, eq_comm (a := g)]

theorem readCause_eq_ok_iff {bytes : ByteArray} :
    f.readCause name = .ok bytes ↔ ∃ r, f.route name = .ok r ∧ checkPart r.last = .ok () ∧
      Path.namesFolder name = false ∧ f.find? r.place = some (.file bytes) := by
  unfold readCause lookUp
  cases f.route name with
  | error cause => simp [bind, Except.bind]
  | ok r =>
    cases hpart : checkPart r.last with
    | error cause => simp [bind, Except.bind, hpart]
    | ok _ =>
      cases hfind : f.find? r.place with
      | none => simp [bind, Except.bind, pure, Except.pure, hpart, hfind]
      | some entry =>
        cases entry <;> cases hname : Path.namesFolder name <;>
          simp [bind, Except.bind, pure, Except.pure, hpart, hfind]

theorem readText_eq_ok_iff {t : Text} :
    f.readText name = .ok t ↔
      ∃ bytes, f.readCause name = .ok bytes ∧ Text.decode? bytes = some t := by
  unfold readText readTextCause
  cases f.readCause name with
  | error cause => simp [bind, Except.bind, Except.mapError]
  | ok bytes =>
    cases hdecode : Text.decode? bytes <;>
      simp [bind, Except.bind, Except.mapError, hdecode]

theorem writeText_eq_ok_iff {t : Text} :
    f.writeText name t = .ok g ↔ f.writeCause name (Text.encode t) = .ok g := by
  unfold writeText write
  cases f.writeCause name (Text.encode t) <;> simp [Except.mapError]

theorem readCause_of_writeText {t : Text} (h : f.writeText name t = .ok g) :
    g.readCause name = .ok (Text.encode t) :=
  readCause_of_writeCause (writeText_eq_ok_iff.mp h)

theorem readText_of_readCause {t : Text} (h : f.readCause name = .ok (Text.encode t)) :
    f.readText name = .ok (Text.unifyNewlines t) :=
  readText_eq_ok_iff.mpr ⟨_, h, Text.decode?_encode t⟩

theorem readText_of_writeText {t : Text} (h : f.writeText name t = .ok g) :
    g.readText name = .ok (Text.unifyNewlines t) :=
  readText_of_readCause (readCause_of_writeText h)

theorem exists_writeText_of_isOk {t : Text} (h : (f.writeText name t).isOk = true) :
    ∃ g, f.writeText name t = .ok g := by
  cases hwrite : f.writeText name t with
  | ok g => exact ⟨g, rfl⟩
  | error fault =>
    rw [hwrite] at h
    contradiction

/-- Whether a name can be written under does not depend on the text. -/
theorem exists_writeText {t : Text} (h : f.writeText name t = .ok g) (u : Text) :
    ∃ g', f.writeText name u = .ok g' := by
  rw [writeText_eq_ok_iff, writeCause_eq_ok_iff] at h
  obtain ⟨r, hr, hpart, hname, hfind, hread, _⟩ := h
  refine ⟨f.put r.place (.file (Text.encode u)), ?_⟩
  rw [writeText_eq_ok_iff, writeCause_eq_ok_iff]
  exact ⟨r, hr, hpart, hname, hfind, hread, rfl⟩

/-- Writing changes no route. -/
theorem route_of_writeText {t : Text} {r : Route} (h : f.writeText other t = .ok g)
    (hr : f.route name = .ok r) : g.route name = .ok r := by
  rw [writeText_eq_ok_iff, writeCause_eq_ok_iff] at h
  obtain ⟨_, _, _, _, hfind, _, rfl⟩ := h
  exact route_put _ hfind hr

/-- What could be written under a name before a file was written can be written afterwards. -/
theorem exists_writeText_of_writeText {t u : Text} {h : Folder}
    (hother : f.writeText other t = .ok g)
    (hname : f.writeText name u = .ok h) : ∃ h', g.writeText name u = .ok h' := by
  rw [writeText_eq_ok_iff, writeCause_eq_ok_iff] at hname
  obtain ⟨r, hroute, hpart, hends, hfind, hread, -⟩ := hname
  have hroute' := route_of_writeText hother hroute
  rw [writeText_eq_ok_iff, writeCause_eq_ok_iff] at hother
  obtain ⟨r', -, -, -, hfind', -, rfl⟩ := hother
  refine ⟨_, writeText_eq_ok_iff.mpr (writeCause_eq_ok_iff.mpr
    ⟨r, hroute', hpart, hends, ?_, hread, rfl⟩)⟩
  rw [find?_put f (isFixed_of_find?_ne hfind')]
  split
  · simp
  · exact hfind

/-- A file that was just written can be written again. -/
theorem exists_writeText_again {t : Text} (h : f.writeText name t = .ok g) (u : Text) :
    ∃ g', g.writeText name u = .ok g' := by
  obtain ⟨g', hg'⟩ := exists_writeText_of_writeText h h
  exact exists_writeText hg' u

/-- Writing moves no place. -/
theorem place?_of_writeText {t : Text} {p : Path} (h : f.writeText other t = .ok g)
    (hp : f.place? name = some p) : g.place? name = some p := by
  unfold place? at hp ⊢
  cases hroute : f.route name with
  | error cause =>
    rw [hroute] at hp
    contradiction
  | ok r =>
    rw [hroute] at hp
    rw [route_of_writeText h hroute]
    exact hp

theorem exists_place?_of_writeText {t : Text} (h : f.writeText name t = .ok g) :
    ∃ p, f.place? name = some p := by
  rw [writeText_eq_ok_iff, writeCause_eq_ok_iff] at h
  obtain ⟨r, hr, _⟩ := h
  exact ⟨r.place, by rw [place?, hr]⟩

/-- Writing changes nothing at other places. -/
theorem find?_of_writeText_of_ne {t : Text} {p : Path} (h : f.writeText other t = .ok g)
    (hp : f.place? other ≠ some p) : g.find? p = f.find? p := by
  rw [writeText_eq_ok_iff, writeCause_eq_ok_iff] at h
  obtain ⟨r, hroute, _, _, hfind, _, rfl⟩ := h
  have hplace : p ≠ r.place := by
    rintro rfl
    simp [place?, hroute] at hp
  rw [find?_put f (isFixed_of_find?_ne hfind), if_neg hplace]

/-- What is read under a name depends on its route and on what is there. -/
theorem readCause_congr {r : Route} (hf : f.route name = .ok r) (hg : g.route name = .ok r)
    (hfind : g.find? r.place = f.find? r.place) : g.readCause name = f.readCause name := by
  unfold readCause lookUp
  rw [hf, hg]
  simp only [bind, Except.bind, hfind]

/-- What is written at one place is not read at another. -/
theorem readCause_of_writeText_of_ne {t : Text} {bytes : ByteArray}
    (h : f.writeText other t = .ok g)
    (hne : f.place? name ≠ f.place? other) (hr : f.readCause name = .ok bytes) :
    g.readCause name = .ok bytes := by
  obtain ⟨r', hroute', hpart', hname', hfind'⟩ := readCause_eq_ok_iff.mp hr
  have hplace : f.place? name = some r'.place := by rw [place?, hroute']
  have hkept : g.find? r'.place = some (.file bytes) := by
    rw [find?_of_writeText_of_ne h (hplace ▸ hne.symm), hfind']
  rw [writeText_eq_ok_iff, writeCause_eq_ok_iff] at h
  obtain ⟨r, _, _, _, hfind, _, rfl⟩ := h
  exact readCause_eq_ok_iff.mpr ⟨r', route_put _ hfind hroute', hpart', hname', hkept⟩

theorem readText_of_writeText_of_ne {t u : Text} (h : f.writeText other t = .ok g)
    (hne : f.place? name ≠ f.place? other) (hr : f.readText name = .ok u) :
    g.readText name = .ok u := by
  obtain ⟨bytes, hread, hdecode⟩ := readText_eq_ok_iff.mp hr
  exact readText_eq_ok_iff.mpr ⟨bytes, readCause_of_writeText_of_ne h hne hread, hdecode⟩

/-- The text is at the place that the name leads to. -/
theorem find?_of_writeText {t : Text} {p : Path} (h : f.writeText name t = .ok g)
    (hp : f.place? name = some p) : g.find? p = some (.file (Text.encode t)) := by
  rw [writeText_eq_ok_iff, writeCause_eq_ok_iff] at h
  obtain ⟨r, hroute, _, _, hfind, _, rfl⟩ := h
  obtain rfl : r.place = p := by simpa [place?, hroute] using hp
  rw [find?_put f (isFixed_of_find?_ne hfind), if_pos rfl]

end Folder

namespace Text

theorem dropTrailingNewlines_append_newline (t : Text) :
    dropTrailingNewlines (t ++ ['\n']) = dropTrailingNewlines t :=
  List.rdropWhile_concat_pos _ _ _ (by simp)

theorem dropTrailingNewlines_idem (t : Text) :
    dropTrailingNewlines (dropTrailingNewlines t) = dropTrailingNewlines t :=
  List.rdropWhile_idempotent _ t

theorem return_notMem_dropTrailingNewlines {t : Text} (h : '\r' ∉ t) :
    '\r' ∉ dropTrailingNewlines t :=
  fun hmem => h ((List.rdropWhile_prefix _ _).subset hmem)

/-- What a file holds agrees with a text: the two are equal once newlines are unified and those at
the end are dropped. -/
def Agrees (stored t : Text) : Prop :=
  dropTrailingNewlines stored = dropTrailingNewlines (unifyNewlines t)

end Text

theorem Folder.return_notMem_of_readText {f : Folder} {name t : Text}
    (h : f.readText name = .ok t) :
    '\r' ∉ t := by
  obtain ⟨bytes, _, hdecode⟩ := readText_eq_ok_iff.mp h
  obtain ⟨decoded, _, rfl⟩ := Option.map_eq_some_iff.mp hdecode
  exact Text.return_notMem_unifyNewlines _

end TapeStudio
