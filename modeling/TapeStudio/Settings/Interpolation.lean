import TapeStudio.Settings.Document
import TapeStudio.Text.LowerCase

/-! References from one option to another. `%(name)s` stands for the option of that name and `%%`
for a percent sign. -/
namespace TapeStudio.Settings

inductive ValuePart where
  | char (c : Char)
  | reference (name : Text)
  deriving DecidableEq, Repr

/-- The parts of a text. Inside a reference, `name?` holds what has been read of its name, last
character first. A percent sign must start one of the two forms, and a name may not be empty. -/
def partsFrom? (name? : Option Text) : Text → Option (List ValuePart)
  | [] => if name?.isNone then some [] else none
  | c :: rest =>
    match name? with
    | some name =>
      if c ≠ ')' then partsFrom? (some (c :: name)) rest
      else match rest with
        | 's' :: after =>
          if name.isEmpty then none
          else (partsFrom? none after).map (.reference name.reverse :: ·)
        | _ => none
    | none =>
      if c ≠ '%' then (partsFrom? none rest).map (.char c :: ·)
      else match rest with
        | '%' :: after => (partsFrom? none after).map (.char '%' :: ·)
        | '(' :: after => partsFrom? (some []) after
        | _ => none

def parts? (t : Text) : Option (List ValuePart) := partsFrom? none t

/-- How deep references may lead. -/
def maxDepth : Nat := 10

/-- A value with its references followed, at most `depth` of them one inside the other. A plain
value ends the chain. -/
def expand? (lookup : Text → Option Text) : Nat → Text → Option Text
  | 0, _ => none
  | depth + 1, t => do
    let parts ← parts? t
    let pieces ← parts.mapM fun part =>
      match part with
      | .char c => some [c]
      | .reference name =>
        (lookup (Text.lower name)).bind fun value =>
          if value.contains '%' then expand? lookup depth value else some value
    pure pieces.flatten

/-- The value of an option, references followed. The section must be there. -/
def value? (d : Document) (sectionName option : Text) : Option Text := do
  let s ← d.section? sectionName
  let raw ← d.rawIn s option
  expand? (d.rawIn s) maxDepth raw

/-- The text without doubled percent signs. -/
def dropDoubled : Text → Text
  | '%' :: '%' :: rest => dropDoubled rest
  | c :: rest => c :: dropDoubled rest
  | [] => []

/-- The length of the reference that a text starts with. -/
def referenceLength? : Text → Option Nat
  | '%' :: '(' :: rest =>
    let name := rest.takeWhile (· ≠ ')')
    match rest.drop name.length with
    | ')' :: 's' :: _ => if name.isEmpty then none else some (name.length + 4)
    | _ => none
  | _ => none

/-- The text without its first `skip` characters and without references in what follows. -/
def dropReferencesFrom : Nat → Text → Text
  | _, [] => []
  | skip + 1, _ :: rest => dropReferencesFrom skip rest
  | 0, c :: rest =>
    match referenceLength? (c :: rest) with
    | some n => dropReferencesFrom (n - 1) rest
    | none => c :: dropReferencesFrom 0 rest

def dropReferences (t : Text) : Text := dropReferencesFrom 0 t

/-- The place of a percent sign that belongs to neither form, in the text that is left when both
are taken out. -/
def strayPercent? (value : Text) : Option Nat :=
  (dropReferences (dropDoubled value)).findIdx? (· = '%')

end TapeStudio.Settings
