import Scripting.Library.Catalog

/-!
# Functions of a catalog

A function is called by the name of its namespace and by its own name, with arguments of the kinds
that it takes.  `Catalog.answer?` is what such a call answers, and `answer?_of_native` finds it.
-/

namespace Scripting.Library

open Script (Value)

/-- what `space::name(args)` answers, where a library of the catalog offers it -/
def Catalog.answer? (c : Catalog) (markup : Markup.Codec) (around : Surroundings)
    (library space name : String) (args : List Value) : Option (Except String Value) := do
  let bundle ← c.get? library
  let members ← Assoc.get? space bundle.spaces
  let native ← members.native? name args
  return native.call markup around args

theorem Catalog.answer?_of_native {c : Catalog} {library space : String} {bundle : Bundle}
    {members : Space} {args : List Value} (markup : Markup.Codec) (around : Surroundings)
    (native : Native) (hb : c.get? library = some bundle)
    (hs : Assoc.get? space bundle.spaces = some members)
    (hn : members.native? native.name args = some native) :
    c.answer? markup around library space native.name args =
      some (native.call markup around args) := by
  rw [answer?, hb, Option.bind_eq_bind, Option.bind_some, hs, Option.bind_eq_bind,
    Option.bind_some, hn]
  rfl

end Scripting.Library
