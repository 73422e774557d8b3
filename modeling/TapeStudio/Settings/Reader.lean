import TapeStudio.Settings.Document
import TapeStudio.Text.Blank
import TapeStudio.Text.Fields
import TapeStudio.Text.LowerCase

/-! Reading a settings document line by line. A value goes on over the lines that are indented
deeper than the line it started on. -/
namespace TapeStudio.Settings

/-- Options being read, newest first; the lines of each value, newest first. -/
abbrev DraftOptions := List (Text × List Text)

inductive Place where
  | outside
  | defaults
  | named
  deriving DecidableEq, Repr

/-- What has been read so far, sections newest first. `valueOpen` says that the newest option may
go on, `indent` is the indentation of the line that last started a section or an option. -/
structure Draft where
  defaults : DraftOptions
  sections : List (Text × DraftOptions)
  place : Place
  valueOpen : Bool
  indent : Nat

namespace Draft

def empty : Draft := ⟨[], [], .outside, false, 0⟩

def current (d : Draft) : DraftOptions :=
  match d.place, d.sections with
  | .defaults, _ => d.defaults
  | .named, s :: _ => s.2
  | _, _ => []

def setCurrent (d : Draft) (options : DraftOptions) : Draft :=
  match d.place, d.sections with
  | .defaults, _ => { d with defaults := options }
  | .named, s :: rest => { d with sections := (s.1, options) :: rest }
  | _, _ => d

/-- One more line of the newest value. -/
def continueValue (d : Draft) (line : Text) : Draft :=
  match d.current with
  | (name, lines) :: rest => d.setCurrent ((name, line :: lines) :: rest)
  | [] => d

/-- The section of defaults may be opened again, any other section only once. -/
def startSection? (d : Draft) (name : Text) : Option Draft :=
  if name = Document.defaultName then some { d with place := .defaults, valueOpen := false }
  else if (d.sections.lookup name).isSome then none
  else some { d with sections := (name, []) :: d.sections, place := .named, valueOpen := false }

def startOption? (d : Draft) (name value : Text) : Option Draft :=
  if d.place = .outside || name.isEmpty || (d.current.lookup name).isSome then none
  else some { d.setCurrent ((name, [value]) :: d.current) with valueOpen := true }

end Draft

def isComment (line : Text) : Bool :=
  match line with
  | c :: _ => c = '#' || c = ';'
  | [] => false

/-- The name in a section header: from the bracket that starts the line to the last one that
closes. What follows it is ignored. -/
def headerName? : Text → Option Text
  | '[' :: rest =>
    match (rest.reverse.dropWhile (· ≠ ']')).tail with
    | [] => none
    | name => some name.reverse
  | _ => none

def isDelimiter (c : Char) : Bool := c = '=' || c = ':'

/-- Name and value on both sides of the first delimiter. Names are in lower case. -/
def optionOf? (line : Text) : Option (Text × Text) :=
  match line.dropWhile fun c => !isDelimiter c with
  | [] => none
  | _ :: value =>
    some (Text.lower (Text.trimEnd (line.takeWhile fun c => !isDelimiter c)), Text.trim value)

def indentOf (line : Text) : Nat := (line.takeWhile Text.isBlank).length

def Draft.readLine? (d : Draft) (line : Text) : Option Draft :=
  let words := Text.trim line
  if isComment words then some d
  else if words.isEmpty then some (if d.valueOpen then d.continueValue [] else d)
  else if d.valueOpen && d.indent < indentOf line then some (d.continueValue words)
  else
    let d := { d with indent := indentOf line }
    match headerName? words with
    | some name => d.startSection? name
    | none => (optionOf? words).bind fun (name, value) => d.startOption? name value

def finishOptions (options : DraftOptions) : OptionList :=
  options.reverse.map fun (name, lines) =>
    (name, Text.trimEnd (Text.joinWith '\n' lines.reverse))

def Draft.finish (d : Draft) : Document :=
  ⟨finishOptions d.defaults,
    d.sections.reverse.map fun (name, options) => ⟨name, finishOptions options⟩⟩

/-- The document in a text, unless some line has no place in it. -/
def read? (t : Text) : Option Document :=
  ((Text.fields '\n' t).foldlM Draft.readLine? .empty).map Draft.finish

end TapeStudio.Settings
