import TapeStudio.Session.Execution

/-! The menu bar. -/
namespace TapeStudio

inductive MenuAction where
  | key (action : KeyAction)
  | close
  | about
  | wiki
  | stop
  deriving DecidableEq, Repr

/-- A command that does nothing is shown as disabled. -/
structure MenuCommand where
  label : String
  accelerator? : Option String
  action? : Option MenuAction

inductive MenuEntry where
  | command (command : MenuCommand)
  | separator

inductive MenuItem where
  | command (command : MenuCommand)
  | menu (label : String) (entries : List MenuEntry)

abbrev MenuBar := List MenuItem

namespace MenuBar

def entryAction? (label : Text) : MenuEntry → Option MenuAction
  | .command c => if c.label.toList = label then c.action? else none
  | .separator => none

def itemAction? (path : List Text) : MenuItem → Option MenuAction
  | .command c => if [c.label.toList] = path then c.action? else none
  | .menu label entries =>
    match path with
    | [outer, inner] =>
      if label.toList = outer then entries.findSome? (entryAction? inner) else none
    | _ => none

/-- The action at the end of a path of labels. -/
def find? (bar : MenuBar) (path : List Text) : Option MenuAction := bar.findSome? (itemAction? path)

end MenuBar

namespace Session

def menuBar : MenuBar :=
  [.menu "File"
      [.command ⟨"New", some shortcuts.newAccelerator, some (.key .newFile)⟩,
        .command ⟨"Open", some shortcuts.openAccelerator, some (.key .openFile)⟩,
        .command ⟨"Save", some shortcuts.saveAccelerator, some (.key .save)⟩,
        .command ⟨"Save as", some shortcuts.saveAsAccelerator, some (.key .saveAs)⟩,
        .separator,
        .command ⟨"Exit", some shortcuts.quitAccelerator, some .close⟩],
    .command ⟨"Settings", none, some (.key .settings)⟩,
    .menu "Help"
      [.command ⟨"About", none, some .about⟩,
        .command ⟨"What is Brainfuck?", none, some .wiki⟩],
    .command ⟨"    ", none, none⟩,
    .command ⟨"Run", none, some (.key .run)⟩,
    .command ⟨"Stop", none, some .stop⟩]

end Session

end TapeStudio
