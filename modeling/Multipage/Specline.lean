/-
# Multipage.Specline -- the first line of a content page

A specline names the media type of its page, and before it, if the default will not do, the
renderer:

    #!renderer media/type
    media/type

The media type is checked before the renderer, whichever is written first.
-/
import Multipage.Media.Type
import Multipage.Renderer
import Multipage.Resource.Error
import Multipage.Text.Blank

namespace Multipage

set_option autoImplicit false

/-- The renderer and the media type of a content page. -/
structure Specline where
  renderer : Text
  mediaType : Text
  deriving DecidableEq

namespace Specline

/-- The renderer that is used where none is named or configured. -/
def defaultRenderer : Text := "template"

/-- A character of a renderer's name. -/
def isRendererChar (c : Char) : Bool := c.isLower || c.isDigit || c == '.' || c == '-'

/-- The name in a reference `#!name`. -/
def rendererName? (reference : Text) : Option Text :=
  match reference with
  | '#' :: '!' :: name => if Text.isRunOf isRendererChar name then some name else none
  | _ => none

/-- The parts of a specline: the reference to a renderer, if any, and the media type. -/
def parts? (line : Text) : Option (Option Text × Text) :=
  match Text.words line with
  | [mediaType] => some (none, mediaType)
  | [reference, mediaType] => some (some reference, mediaType)
  | _ => none

/-- Read a specline. -/
def ofText (fallback line : Text) : Except CompileError Specline :=
  if line.isEmpty then .error .emptySpecline
  else
    match parts? line with
    | none => .error (.speclineParts line)
    | some (reference, mediaType) =>
        if !isMediaType mediaType then .error (.malformedMediaType mediaType line)
        else
          match reference with
          | none => .ok ⟨fallback, mediaType⟩
          | some reference =>
              match rendererName? reference with
              | none => .error (.malformedRenderer reference)
              | some renderer => .ok ⟨renderer, mediaType⟩

/-- The factory of the renderer that the specline names. -/
def resolve (specline : Specline) (registry : Registry) : Except CompileError RendererFactory :=
  match registry.get? specline.renderer with
  | some factory => .ok factory
  | none => .error (.unknownRenderer specline.mediaType specline.renderer)

end Specline
end Multipage
