/-
# Multipage.Config.Basic -- the configuration of a site

A configuration says which media types JSON answers have, which renderer a content page gets
that names none, and the charset of text.  Every setting has a default and may be overridden
(`Overrides`): what one set of overrides leaves open, another may fill.

`Config.validate` accepts a configuration whose settings can all be used, and otherwise names
the first that cannot, in the order JSON type, JSONP type, renderer, charset.
-/
import Multipage.File.Fault
import Multipage.Resource.Settings

namespace Multipage

set_option autoImplicit false

/-- Settings to put in the place of others, each of them optional. -/
structure Overrides where
  jsonType : Option Text := none
  jsonpType : Option Text := none
  defaultRenderer : Option Text := none
  charset : Option Text := none
  deriving DecidableEq

structure Config where
  /-- The media type of JSON answers. -/
  jsonType : Text := "application/json"
  /-- The media type of JSON answers that are wrapped in a callback. -/
  jsonpType : Text := "application/javascript"
  /-- The renderer of content pages that name none. -/
  defaultRenderer : Text := Specline.defaultRenderer
  /-- The charset of `text/*` answers. -/
  charset : Text := "UTF-8"
  /-- The file that the configuration was read from. -/
  file : Option Text := none
  deriving DecidableEq

/-- Why there is no configuration. -/
inductive ConfigError where
  | notFound (path : Text)
  | unreadable (fault : FileFault)
  /-- The file is no TOML, or a setting in it is no text. -/
  | malformed
  | empty (field : Text)
  | notMediaType (field value : Text)
  | notToken (field value : Text)
  deriving DecidableEq

namespace ConfigError

def message : ConfigError → Text
  | .notFound path => "Configuration file not found: " ++ path
  | .unreadable fault => "I/O error: " ++ fault.message
  | .malformed => "TOML parse error"
  | .empty field => "Configuration error: " ++ field ++ " cannot be empty"
  | .notMediaType field value =>
      "Configuration error: " ++ field ++ " must be a media type like type/subtype, got " ++ value
  | .notToken field value =>
      "Configuration error: " ++ field ++ " must be a token without spaces or separators, got " ++
        Text.quoted value

end ConfigError

namespace Config

def jsonTypeField : Text := "media_types.json"
def jsonpTypeField : Text := "media_types.jsonp"
def defaultRendererField : Text := "renderers.default"
def charsetField : Text := "response.charset"

/-- Put overrides in the place of settings. -/
def override (config : Config) (overrides : Overrides) : Config :=
  { config with
    jsonType := overrides.jsonType.getD config.jsonType
    jsonpType := overrides.jsonpType.getD config.jsonpType
    defaultRenderer := overrides.defaultRenderer.getD config.defaultRenderer
    charset := overrides.charset.getD config.charset }

def requireText (field value : Text) : Except ConfigError Unit :=
  if value.isEmpty then .error (.empty field) else .ok ()

def requireMediaType (field value : Text) : Except ConfigError Unit :=
  if value.isEmpty then .error (.empty field)
  else if isMediaType value then .ok ()
  else .error (.notMediaType field value)

def requireToken (field value : Text) : Except ConfigError Unit :=
  if value.isEmpty then .error (.empty field)
  else if isCharset value then .ok ()
  else .error (.notToken field value)

/-- Refuse the first setting that cannot be used. -/
def validate (config : Config) : Except ConfigError Unit := do
  requireMediaType jsonTypeField config.jsonType
  requireMediaType jsonpTypeField config.jsonpType
  requireText defaultRendererField config.defaultRenderer
  requireToken charsetField config.charset

/-- The settings that resources are compiled with. -/
def settings (config : Config) : Settings where
  jsonType := config.jsonType
  jsonpType := config.jsonpType
  defaultRenderer := config.defaultRenderer
  charset := some config.charset

end Config
end Multipage
