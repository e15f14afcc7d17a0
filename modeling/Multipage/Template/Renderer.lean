/-
# Multipage.Template.Renderer -- the renderer of templates

A page body is read once, when it is bound; what cannot be read is refused then.  Rendering sees
the values of the context and nothing else of it.  Every fault names the file.

This engine has the statements and filters of everyday pages, and is the one that the command line
registers.  Resources are compiled with any registry and so with any other engine.
-/
import Multipage.Renderer
import Multipage.Template.Evaluation
import Multipage.Template.Grammar

namespace Multipage

set_option autoImplicit false

/-- Bind the template renderer to a page body. -/
def templateFactory : RendererFactory := fun location body =>
  match Template.Grammar.statements body with
  | .error fault => .error (.template location fault)
  | .ok statements =>
      .ok fun context =>
        match Template.render location statements context.values with
        | .error fault => .error (.template location fault)
        | .ok t => .ok t

end Multipage
