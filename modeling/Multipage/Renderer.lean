/-
# Multipage.Renderer -- renderers, by name

A factory takes the page body and the path of its file and gives a renderer bound to that
page, or refuses the body.  A registry holds factories by name; registering a name again
replaces what it stood for.  The host supplies the factories; of the two that are there by
default, `raw` is written here and the engine of the templates is the host's.
-/
import Multipage.Context
import Multipage.Text.Quoted

namespace Multipage

set_option autoImplicit false

/-- A content page that is ready to be rendered. -/
abbrev Renderer := Context → Except RenderError Text

/-- Bind a renderer to a page body: the path of the file, then the body. -/
abbrev RendererFactory := Text → Text → Except RenderError Renderer

/-- Factories by name. -/
structure Registry where
  entries : List (Text × RendererFactory) := []

namespace Registry

def empty : Registry := {}

/-- Put a factory under a name. -/
def register (registry : Registry) (name : Text) (factory : RendererFactory) : Registry :=
  ⟨(name, factory) :: registry.entries.filter fun entry => entry.1 != name⟩

def get? (registry : Registry) (name : Text) : Option RendererFactory :=
  registry.entries.lookup name

/-- The registered names in order. -/
def names (registry : Registry) : List Text := Text.sorted (registry.entries.map Prod.fst)

/-- A one-line picture of the registry. -/
def describe (registry : Registry) : Text :=
  "RendererRegistry \x7b names: " ++ Text.quotedList registry.names ++ " \x7d"

end Registry

/-- The page body as it is. -/
def rawFactory : RendererFactory := fun _ body => .ok fun _ => .ok body

/-- The registry that a host starts from, with its engine of templates. -/
def Registry.builtins (template : RendererFactory) : Registry :=
  (Registry.empty.register "raw" rawFactory).register "template" template

end Multipage
