import Scripting.Dialect.Scripted
import Scripting.Registry

/-!
# The standard registry

The languages that every caller may name: the script dialect in both spellings of its imports.
-/

namespace Scripting

/-- the script dialect over the libraries that come with a host -/
def Dialect.standard (around : Library.Surroundings) (style : Script.Import.Style) : Language :=
  (Dialect.Scripted.mk (Dialect.Engine.standard around) Library.Catalog.standard {} style).language

def Registry.standard (around : Library.Surroundings) : Registry :=
  (Registry.register {} Dialect.scriptedAliases (Dialect.standard around .plain)).register
    Dialect.keywordAliases (Dialect.standard around .keyword)

end Scripting
