/-
# Multipage.Config.Load -- the configuration that a run uses

The file is the one that is asked for, or else the nearest entry `sp.toml` above the working
directory, or there is none and the defaults hold.  A file that was found has to be readable,
well formed and valid by itself: no override mends it, and the search goes no further.

The overrides of a run come last, and with them the configuration is validated again.

How a text gives settings is a parameter of `loadWith`; `load` reads TOML.
-/
import Multipage.Config.Toml
import Multipage.File.View
import Multipage.Text.Utf8

namespace Multipage.Config

set_option autoImplicit false

/-- The name of a configuration file that nobody asked for. -/
def fileName : Text := "sp.toml"

/-- How a text gives settings; `none` when it is malformed. -/
abbrev Reader := Text → Option Overrides

/-- The text of a file. -/
def readText (view : FileView) (path : Text) : Except FileFault Text := do
  let content ← view.read path
  match Utf8.decode? content with
  | some text => .ok text
  | none => .error .notText

/-- The configuration in a file. -/
def ofFile (reader : Reader) (view : FileView) (path : Text) : Except ConfigError Config :=
  match readText view path with
  | .error fault => .error (.unreadable fault)
  | .ok text =>
      match reader text with
      | none => .error .malformed
      | some overrides => do
          let config := { Config.override {} overrides with file := some path }
          config.validate
          .ok config

/-- The configuration before the overrides of a run. -/
def find (reader : Reader) (view : FileView) (asked : Option Text) : Except ConfigError Config :=
  match asked with
  | some path =>
      if view.holds path then ofFile reader view path else .error (.notFound path)
  | none =>
      match view.nearest? fileName with
      | some path => ofFile reader view path
      | none => .ok {}

/-- The configuration that a run uses, given the file it asks for and its overrides. -/
def loadWith (reader : Reader) (view : FileView) (asked : Option Text)
    (overrides : Option Overrides) : Except ConfigError Config := do
  let config ← find reader view asked
  match overrides with
  | none => .ok config
  | some overrides => do
      let config := config.override overrides
      config.validate
      .ok config

/-- `loadWith` for TOML. -/
def load : FileView → Option Text → Option Overrides → Except ConfigError Config :=
  loadWith Overrides.ofToml?

end Multipage.Config
