import TapeStudio.Text.Basic
import TapeStudio.Value.Double

/-! Values of no fixed kind: what dialogs reply, and the options of a widget. -/
namespace TapeStudio

/-- A decimal is `digits * 10 ^ exponent` with a sign, and stands for the nearest double. The
doubles that are no finite numbers stand for themselves. -/
inductive Value where
  | null
  | bool (b : Bool)
  | integer (n : Int)
  | decimal (negative : Bool) (digits : Nat) (exponent : Int)
  | infinity (negative : Bool)
  | notNumber
  | text (t : Text)
  | list (items : List Value)
  | record (fields : List (Text × Value))
  deriving Inhabited

namespace Value

def ofString (s : String) : Value := .text s.toList

/-- A value counts as a yes unless it is nothing, no, zero or empty. -/
def isYes : Value → Bool
  | .null => false
  | .bool b => b
  | .integer n => n ≠ 0
  | .decimal negative digits exponent => Double.ofDecimal negative digits exponent != 0
  | .infinity _ | .notNumber => true
  | .text t => !t.isEmpty
  | .list items => !items.isEmpty
  | .record fields => !fields.isEmpty

/-- A plain no, as opposed to no answer at all. -/
def isNo : Value → Bool
  | .bool false => true
  | _ => false

/-- What a value is called in messages. -/
def kindName : Value → String
  | .null => "NoneType"
  | .bool _ => "bool"
  | .integer _ => "int"
  | .decimal _ _ _ | .infinity _ | .notNumber => "float"
  | .text _ => "str"
  | .list _ => "list"
  | .record _ => "dict"

end Value

end TapeStudio
