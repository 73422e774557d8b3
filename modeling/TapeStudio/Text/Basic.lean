/-! Texts as lists of characters, and how text files store them. -/
namespace TapeStudio

abbrev Text := List Char

namespace Text

/-- Every carriage return, alone or before a newline, is read as one newline. -/
def unifyNewlines : Text → Text
  | [] => []
  | '\r' :: '\n' :: rest => '\n' :: unifyNewlines rest
  | '\r' :: rest => '\n' :: unifyNewlines rest
  | c :: rest => c :: unifyNewlines rest

theorem unifyNewlines_of_notMem {t : Text} (h : '\r' ∉ t) : unifyNewlines t = t := by
  fun_induction unifyNewlines t with
  | case1 => rfl
  | case2 => simp at h
  | case3 => simp at h
  | case4 c rest _ _ ih => simp_all

theorem return_notMem_unifyNewlines (t : Text) : '\r' ∉ unifyNewlines t := by
  fun_induction unifyNewlines t with
  | case1 => simp
  | case2 rest ih => simpa using ih
  | case3 rest _ ih => simpa using ih
  | case4 c rest _ h ih => simpa [ih] using fun hc : '\r' = c => h hc.symm

def dropEndWhile (p : Char → Bool) (t : Text) : Text := (t.reverse.dropWhile p).reverse

def dropTrailingNewlines (t : Text) : Text := dropEndWhile (· = '\n') t

/-- The text in the bytes of a file, if they are well-formed UTF-8. -/
def decode? (bytes : ByteArray) : Option Text :=
  (String.fromUTF8? bytes).map fun s => unifyNewlines s.toList

def encode (t : Text) : ByteArray := (String.ofList t).toUTF8

private theorem fromUTF8?_toUTF8 (s : String) : String.fromUTF8? s.toUTF8 = some s :=
  dif_pos s.isValidUTF8

@[simp] theorem decode?_encode (t : Text) : decode? (encode t) = some (unifyNewlines t) := by
  rw [decode?, encode, fromUTF8?_toUTF8]
  simp

end Text

end TapeStudio
