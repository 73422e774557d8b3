import TapeStudio.Widget.Options

/-! A menu that pops up beside the mouse. -/
namespace TapeStudio

inductive PopupEvent where
  | shown (x y : Int)
  | released
  deriving DecidableEq, Repr

/-- Why a menu did not pop up. -/
inductive PopupFault where
  | text
  | list
  | noNumber (kind : String)
  | infinite
  | undefined
  | refused
  deriving DecidableEq, Repr

def PopupFault.message : PopupFault → String
  | .text => "can only concatenate str (not \"int\") to str"
  | .list => "can only concatenate list (not \"int\") to list"
  | .noNumber kind => s!"unsupported operand type(s) for +: '{kind}' and 'int'"
  | .infinite => "cannot convert float infinity to integer"
  | .undefined => "cannot convert float NaN to integer"
  | .refused => "popup failed"

structure PopupRun where
  events : List PopupEvent
  fault? : Option PopupFault

namespace Popup

def options : Options :=
  [("tearoff".toList, .bool false), ("bd".toList, .integer 0), ("relief".toList, .ofString "flat")]

/-- The distance from the mouse, so that the pointer is not over the menu at once. -/
def gap : Nat := 2

/-- A coordinate moved by the gap and cut to whole pixels. -/
def shift : Value → Except PopupFault Int
  | .integer n => .ok (n + gap)
  | .bool b => .ok (b.toNat + gap)
  | .decimal negative digits exponent =>
    let moved := Double.ofDecimal negative digits exponent + gap.toFloat
    if Double.isFinite moved then .ok (Double.truncate moved) else .error .infinite
  | .infinity _ => .error .infinite
  | .notNumber => .error .undefined
  | .text _ => .error .text
  | .list _ => .error .list
  | other => .error (.noNumber other.kindName)

/-- Shows the menu at a place, unless the display refuses. The grab is released in any case. -/
def popUp (x y : Value) (refused : Bool) : PopupRun :=
  match shift x, shift y with
  | .error fault, _ => ⟨[.released], some fault⟩
  | .ok _, .error fault => ⟨[.released], some fault⟩
  | .ok x, .ok y => ⟨[.shown x y, .released], if refused then some .refused else none⟩

end Popup

end TapeStudio
