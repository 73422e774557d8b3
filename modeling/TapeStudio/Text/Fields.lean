import TapeStudio.Text.Basic

/-! Cutting a text at a separator. -/
namespace TapeStudio.Text

/-- The pieces between the separators, at least one. -/
def fields (separator : Char) : Text → List Text
  | [] => [[]]
  | c :: rest =>
    if c = separator then [] :: fields separator rest
    else match fields separator rest with
      | [] => [[c]]
      | piece :: pieces => (c :: piece) :: pieces

theorem fields_ne_nil (separator : Char) (t : Text) : fields separator t ≠ [] := by
  fun_cases fields separator t <;> simp

/-- The pieces with one separator between two of them. -/
def joinWith (separator : Char) : List Text → Text
  | [] => []
  | [piece] => piece
  | piece :: pieces => piece ++ separator :: joinWith separator pieces

@[simp] theorem joinWith_fields (separator : Char) (t : Text) :
    joinWith separator (fields separator t) = t := by
  fun_induction fields separator t with
  | case1 => rfl
  | case2 rest ih =>
    obtain ⟨piece, pieces, h⟩ := List.exists_cons_of_ne_nil (fields_ne_nil separator rest)
    rw [h] at ih ⊢
    simp [joinWith, ih]
  | case3 c rest _ h => exact absurd h (fields_ne_nil separator rest)
  | case4 c rest _ piece pieces h ih =>
    rw [h] at ih
    cases pieces <;> simp_all [joinWith]

end TapeStudio.Text
