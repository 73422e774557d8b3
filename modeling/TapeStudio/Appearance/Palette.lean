import TapeStudio.Text.Basic

/-! The colours of the two appearances. -/
namespace TapeStudio

inductive Mode where
  | light
  | dark
  deriving DecidableEq, Repr

/-- What a colour is for. -/
inductive Role where
  | background
  | foreground
  | insertion
  | selection
  | io
  | pointer
  | brace
  | value
  | comment
  deriving DecidableEq, Repr

namespace Role

def all : List Role :=
  [.background, .foreground, .insertion, .selection, .io, .pointer, .brace, .value, .comment]

/-- The name of the colour in use. -/
def name : Role → String
  | .background => "bg"
  | .foreground => "fg"
  | .insertion => "insert"
  | .selection => "select"
  | .io => "io"
  | .pointer => "variable"
  | .brace => "brace"
  | .value => "value"
  | .comment => "comment"

/-- The name of the colour within a mode. -/
def shortName : Role → String
  | .pointer => "var"
  | role => role.name

end Role

namespace Mode

def ofDark (dark : Bool) : Mode := if dark then .dark else .light

def name : Mode → String
  | .light => "light"
  | .dark => "dark"

def colour : Mode → Role → String
  | .light, .background => "#eee"
  | .light, .foreground => "#0d1117"
  | .light, .insertion => "#24292e"
  | .light, .selection => "#ccc"
  | .light, .io => "#6f42c1"
  | .light, .pointer => "#d73a49"
  | .light, .brace => "#6f42c1"
  | .light, .value => "#005cc5"
  | .light, .comment => "#0d1117"
  | .dark, .background => "#0d1117"
  | .dark, .foreground => "#eee"
  | .dark, .insertion => "#c9d1d9"
  | .dark, .selection => "#aaa"
  | .dark, .io => "#d2a8ff"
  | .dark, .pointer => "#ff7b72"
  | .dark, .brace => "#d2a8ff"
  | .dark, .value => "#79c0ff"
  | .dark, .comment => "#767d87"

def qualifiedName (mode : Mode) (role : Role) : Text :=
  mode.name.toList ++ '_' :: role.shortName.toList

/-- The colour of this mode with a qualified name such as `light_bg`. -/
def colourNamed? (mode : Mode) (name : Text) : Option String :=
  (Role.all.find? fun role => mode.qualifiedName role = name).map mode.colour

end Mode

namespace Appearance

/-- The colour with a given name: of the mode in use, if one was chosen, or of either mode by its
qualified name. -/
def colourNamed? (current : Option Mode) (name : Text) : Option String :=
  let inUse := do
    let mode ← current
    let role ← Role.all.find? fun role => role.name.toList = name
    pure (mode.colour role)
  inUse <|> Mode.light.colourNamed? name <|> Mode.dark.colourNamed? name

def unknownName (name : Text) : Text :=
  "type object 'Appearance' has no attribute '".toList ++ name ++ ['\'']

end Appearance

end TapeStudio
