/-
# Multipage.Config.Toml -- settings read from a TOML document

Three sections hold the settings: `media_types` with `json` and `jsonp`, `renderers` with
`default`, and `response` with `charset`.  A section is a table, or an array that gives the
settings in that order.  A setting is a string.

What is not a setting is passed over, provided that its numbers can be represented; only the
items of an array behind the last setting are not looked at.  A date in the place of a section
sets nothing.
-/
import Multipage.Config.Basic
import Multipage.Toml.Document

namespace Multipage.Overrides

set_option autoImplicit false

/-- The string that a setting has to be. -/
def ofSetting? : Toml → Option Text
  | .string t => some t
  | _ => none

/-- The settings of a section: for each of `names` its value, if it has one. -/
def ofSection? (names : List Text) : Toml → Option (List (Option Text))
  | .table members =>
      if members.all fun (name, value) => names.contains name || value.isWithinRange then
        names.mapM fun name =>
          match members.lookup name with
          | none => some none
          | some value => (ofSetting? value).map some
      else none
  | .array items => (items.take names.length).mapM fun item => (ofSetting? item).map some
  | .dateTime _ => some []
  | _ => none

/-- The settings of a section that may be missing; one that is not set is none. -/
def section? (document : List (Text × Toml)) (name : Text) (names : List Text) :
    Option (List (Option Text)) :=
  match document.lookup name with
  | none => some []
  | some value => ofSection? names value

/-- The names of the sections. -/
def sectionNames : List Text := ["media_types", "renderers", "response"]

/-- The settings of a document. -/
def ofDocument? (document : List (Text × Toml)) : Option Overrides := do
  let types ← section? document "media_types" ["json", "jsonp"]
  let renderers ← section? document "renderers" ["default"]
  let response ← section? document "response" ["charset"]
  if document.all fun (name, value) => sectionNames.contains name || value.isWithinRange then
    some {
      jsonType := types[0]?.join
      jsonpType := types[1]?.join
      defaultRenderer := renderers[0]?.join
      charset := response[0]?.join }
  else none

/-- The settings of a text, unless it is no document or sets something to what it cannot be. -/
def ofToml? (t : Text) : Option Overrides := (Toml.ofText? t).bind ofDocument?

end Multipage.Overrides
