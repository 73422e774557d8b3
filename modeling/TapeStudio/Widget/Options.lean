import TapeStudio.Value.Basic

/-! Named options of a widget. -/
namespace TapeStudio

abbrev Options := List (Text × Value)

namespace Options

/-- The options with some of them set anew. -/
def update (options changes : Options) : Options :=
  options.filter (fun o => (changes.lookup o.1).isNone) ++ changes

def without (options : Options) (names : List Text) : Options :=
  options.filter fun o => !names.contains o.1

end Options

end TapeStudio
