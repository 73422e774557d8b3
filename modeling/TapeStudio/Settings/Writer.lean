import TapeStudio.Settings.Document

/-! Writing a settings document. -/
namespace TapeStudio.Settings

/-- The further lines of a value are indented. -/
def indented (value : Text) : Text :=
  value.flatMap fun c => if c = '\n' then ['\n', '\t'] else [c]

def writeOption (o : Text × Text) : Text := o.1 ++ " = ".toList ++ indented o.2 ++ ['\n']

def writeSection (name : Text) (options : OptionList) : Text :=
  '[' :: name ++ [']', '\n'] ++ options.flatMap writeOption ++ ['\n']

/-- The defaults come first, if there are any. -/
def write (d : Document) : Text :=
  (if d.defaults.isEmpty then [] else writeSection Document.defaultName d.defaults) ++
    d.sections.flatMap fun s => writeSection s.name s.options

end TapeStudio.Settings
