/-
# Multipage.Resource.Settings -- the host's settings for compiling and serving

All four have a default.  `validate` asks whether the settings can be sent in header fields,
in the order JSON type, JSONP type, charset; it says nothing of the default renderer, which
never leaves the host.
-/
import Multipage.Resource.Error
import Multipage.Media.Type
import Multipage.Specline

namespace Multipage

set_option autoImplicit false

structure Settings where
  /-- The media type of JSON answers. -/
  jsonType : Text := "application/json"
  /-- The media type of JSON answers that are wrapped in a callback. -/
  jsonpType : Text := "application/javascript"
  /-- The renderer of content pages that name none. -/
  defaultRenderer : Text := Specline.defaultRenderer
  /-- The charset of `text/*` answers. -/
  charset : Option Text := some "UTF-8".toList
  deriving DecidableEq

namespace Settings

def jsonTypeField : Text := "media_type_json"
def jsonpTypeField : Text := "media_type_jsonp"
def charsetField : Text := "charset"

/-- The first setting that cannot be sent. -/
def validate (settings : Settings) : Except CompileError Unit :=
  if !isMediaType settings.jsonType then
    .error (.invalidSetting jsonTypeField settings.jsonType)
  else if !isMediaType settings.jsonpType then
    .error (.invalidSetting jsonpTypeField settings.jsonpType)
  else
    match settings.charset with
    | none => .ok ()
    | some charset =>
        if isCharset charset then .ok () else .error (.invalidSetting charsetField charset)

end Settings
end Multipage
