import TapeStudio.Folder.Access

/-! What a session leaves to the window toolkit: showing images, and running the scripts of
themes. -/
namespace TapeStudio

/-- A window toolkit, as far as what it does depends on files. -/
structure Toolkit where
  /-- What stands against showing the image under a name, if anything does. -/
  imageFault? : Folder → Text → Option Text
  /-- The themes that are known once the script under a name was run, whether or not it went
  through, where others were known before. -/
  runScript : Folder → Text → List String → List String

namespace Toolkit

/-- The name of the file at the end of a path, up to the first point in it. -/
def stem (path : Text) : String :=
  String.ofList (((Path.partsOf path).getLast?.getD []).takeWhile (· ≠ '.'))

/-- A toolkit that shows every image, and where a script does nothing but make a theme known, which
has the name of the file. It does not go through if the theme is known. -/
def plain : Toolkit where
  imageFault? _ _ := none
  runScript folder path known :=
    if folder.hasFile path && !known.contains (stem path) then known ++ [stem path] else known

end Toolkit

end TapeStudio
