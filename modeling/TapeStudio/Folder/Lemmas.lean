import TapeStudio.Folder.Access

/-! What was written under a name is read under it. -/
namespace TapeStudio.Folder

private theorem bind_eq_ok {α β : Type} {x : Except FileCause α} {next : α → Except FileCause β}
    {b : β} (h : x >>= next = .ok b) : ∃ a, x = .ok a ∧ next a = .ok b := by
  cases x with
  | error cause => simp [bind, Except.bind] at h
  | ok a => exact ⟨a, rfl, h⟩

private theorem ok_bind {α β : Type} (a : α) (next : α → Except FileCause β) :
    (Except.ok a >>= next) = next a := rfl

theorem isFixed_of_find?_ne {f : Folder} {p : Path} (hp : f.find? p ≠ some .folder) :
    p.isFixed = false := by
  cases hf : p.isFixed with
  | false => rfl
  | true => exact absurd (by simp [find?, hf]) hp

private theorem checkFolder_put {f : Folder} {p q : Path} (e : Entry)
    (hp : f.find? p ≠ some .folder) (h : f.checkFolder q = .ok ()) :
    (f.put p e).checkFolder q = .ok () := by
  have hq : f.find? q = some .folder := by
    unfold checkFolder at h
    split at h <;> simp_all
  have hne : q ≠ p := fun hqp => hp (hqp ▸ hq)
  simp [checkFolder, find?_put f (isFixed_of_find?_ne hp), hne, hq]

private theorem enter_put {f : Folder} {p here q : Path} (e : Entry) {parts : List Text}
    (hp : f.find? p ≠ some .folder) (h : f.enter here parts = .ok q) :
    (f.put p e).enter here parts = .ok q := by
  induction parts generalizing here with
  | nil =>
    obtain ⟨_, hc, hq⟩ := bind_eq_ok h
    rw [enter, checkFolder_put e hp hc, ok_bind, hq]
  | cons part rest ih =>
    obtain ⟨_, hc, h⟩ := bind_eq_ok h
    obtain ⟨_, hpart, h⟩ := bind_eq_ok h
    rw [enter, checkFolder_put e hp hc, ok_bind, hpart, ok_bind, ih h]

/-- Putting something where there is no folder changes no route. -/
theorem route_put {f : Folder} {p : Path} (e : Entry) {name : Text} {r : Route}
    (hp : f.find? p ≠ some .folder) (h : f.route name = .ok r) :
    (f.put p e).route name = .ok r := by
  unfold route at h ⊢
  split at h <;> try contradiction
  split at h <;> try contradiction
  split at h <;> try contradiction
  obtain ⟨q, hq, h⟩ := bind_eq_ok h
  simp_all [enter_put e hp hq]

theorem readCause_of_writeCause {f g : Folder} {name : Text} {bytes : ByteArray}
    (h : f.writeCause name bytes = .ok g) : g.readCause name = .ok bytes := by
  obtain ⟨r, hr, h⟩ := bind_eq_ok h
  split at h
  · contradiction
  next hname =>
    obtain ⟨found, hlook, h⟩ := bind_eq_ok h
    obtain ⟨_, hpart, hfound⟩ := bind_eq_ok hlook
    have hfind : f.find? r.place = found := Except.ok.inj hfound
    have hp : f.find? r.place ≠ some .folder := by
      intro hp
      simp [← hfind, hp] at h
    have hg : g = f.put r.place (.file bytes) := by
      split at h
      · contradiction
      · split at h <;> simp_all
      · split at h <;> simp_all
    subst hg
    rw [readCause, route_put _ hp hr, ok_bind, lookUp, hpart, ok_bind]
    simp [find?_put f (isFixed_of_find?_ne hp), hname, pure, Except.pure, bind, Except.bind]

end TapeStudio.Folder
