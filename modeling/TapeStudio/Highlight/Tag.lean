import TapeStudio.Box.Basic
import TapeStudio.Highlight.Token
import TapeStudio.Text.LineBreak

/-! The columns of each line that take a colour. -/
namespace TapeStudio

structure Tag where
  kind : TokenClass
  line : Int
  start : Nat
  stop : Nat
  deriving DecidableEq, Repr

namespace Tag

/-- Tokens laid side by side from a column on. -/
def layOut (line : Int) (start : Nat) : List Token → List Tag
  | [] => []
  | t :: rest =>
    let stop := start + t.text.length
    ⟨t.kind, line, start, stop⟩ :: layOut line stop rest

def ofLine (line : Int) (t : Text) : List Tag := layOut line 0 (Token.ofLine t)

end Tag

namespace TextBox

/-- The tags of one line of a box. -/
def lineTags (b : TextBox Char) (line : Int) : List Tag := Tag.ofLine line (b.lineText line)

/-- The numbers of the lines that are coloured: as many as the text has lines in the wide sense. -/
def colouredLines (b : TextBox Char) : List Int :=
  (List.range (Text.countLines b.content)).map fun (i : Nat) => (i : Int) + 1

def allTags (b : TextBox Char) : List Tag := b.colouredLines.flatMap b.lineTags

end TextBox

end TapeStudio
