import TapeStudio.Text.Basic

/-! Cutting a line of program text into coloured pieces. -/
namespace TapeStudio

inductive TokenClass where
  | bracket
  /-- A closing bracket with nothing to close. -/
  | stray
  | io
  | change
  | move
  | comment
  deriving DecidableEq, Repr

def TokenClass.all : List TokenClass := [.bracket, .stray, .io, .change, .move, .comment]

/-- The name under which a class of tokens is coloured. -/
def TokenClass.name : TokenClass → String
  | .bracket => "Token.Keyword"
  | .stray => "Token.Error"
  | .io => "Token.Name.Tag"
  | .change => "Token.Name.Builtin"
  | .move => "Token.Name.Variable"
  | .comment => "Token.Comment"

structure Token where
  kind : TokenClass
  text : Text
  deriving DecidableEq, Repr

namespace Token

/-- The class of a character that is no bracket; such characters are gathered into runs. -/
def runClass (c : Char) : TokenClass :=
  if c = '.' || c = ',' then .io
  else if c = '+' || c = '-' then .change
  else if c = '<' || c = '>' then .move
  else .comment

/-- Puts a character in front, into the first token if that is a run of the same class. -/
def extend (kind : TokenClass) (c : Char) : List Token → List Token
  | [] => [⟨kind, [c]⟩]
  | t :: rest => if t.kind = kind then ⟨kind, c :: t.text⟩ :: rest else ⟨kind, [c]⟩ :: t :: rest

@[simp] theorem flatMap_text_extend (kind : TokenClass) (c : Char) (tokens : List Token) :
    (extend kind c tokens).flatMap text = c :: tokens.flatMap text := by
  fun_cases extend kind c tokens <;> simp

/-- The tokens of a text inside `depth` loops. -/
def scan (depth : Nat) : Text → List Token
  | [] => []
  | '[' :: rest => ⟨.bracket, ['[']⟩ :: scan (depth + 1) rest
  | ']' :: rest =>
    match depth with
    | 0 => ⟨.stray, [']']⟩ :: scan 0 rest
    | outer + 1 => ⟨.bracket, [']']⟩ :: scan outer rest
  | c :: rest => extend (runClass c) c (scan depth rest)

/-- No character is lost. -/
@[simp] theorem flatMap_text_scan (depth : Nat) (t : Text) : (scan depth t).flatMap text = t := by
  fun_induction scan depth t <;> simp_all

def byteOrderMark : Char := '\ufeff'

/-- A line as it is scanned: without a byte order mark in front, with plain newlines, none of them
at either end but one that closes it. -/
def prepare (line : Text) : Text :=
  let line := match line with
    | c :: rest => if c = byteOrderMark then rest else line
    | [] => []
  Text.dropTrailingNewlines ((Text.unifyNewlines line).dropWhile (· = '\n')) ++ ['\n']

def ofLine (line : Text) : List Token := scan 0 (prepare line)

end Token

end TapeStudio
