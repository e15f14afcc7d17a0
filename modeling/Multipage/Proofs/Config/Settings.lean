/-
# Multipage.Proofs.Config.Settings -- a configuration that is valid has settings that can be sent

A configuration is validated when it is loaded, and the settings it gives are validated once more
when a file is compiled with them.  The two look at the same texts in other shapes: the one asks
for a renderer with a name and takes the charset as it is, the other takes no renderer into account
and has a charset that may be missing.

* `Config.valid_iff_sendable`: but for the name of the renderer they ask for the same.
* `JsonResource.typeHeader_of_isMediaType`: a media type of such settings is a header value.
* `Resource.compile_ne_invalidSetting`, `JsonResource.compile_ne_invalidSetting`: no file is refused
  for such settings, neither by the check nor by the header values.
-/
import Multipage.Proofs.Config.Loading
import Multipage.Proofs.Resource.Blame

namespace Multipage

set_option autoImplicit false

/-! ## Settings that can be sent -/

/-- A media type is a header value, for whichever field it is asked. -/
theorem JsonResource.typeHeader_of_isMediaType {mediaType : Text}
    (isType : isMediaType mediaType = true) (field : Text) :
    ∃ value, typeHeader field mediaType = .ok value ∧ value.bytes = Utf8.encode mediaType := by
  obtain ⟨value, -, bytes⟩ := HeaderValue.exists_of_isMediaType isType
  exact ⟨value, (typeHeader_eq_ok_iff field mediaType value).mpr bytes, bytes⟩

section Sendable

variable {settings : Settings} (sendable : settings.Sendable)
include sendable

/-- With settings that can be sent a JSON resource fails for a content page or not at all. -/
theorem JsonResource.compile_ne_invalidSetting (path : Text) (logicPages contentPages : List Text)
    (field value : Text) :
    compile settings path logicPages contentPages ≠ .error (.invalidSetting field value) := by
  obtain ⟨jsonType, madeJson, -⟩ :=
    typeHeader_of_isMediaType sendable.jsonType Settings.jsonTypeField
  obtain ⟨jsonpType, madeJsonp, -⟩ :=
    typeHeader_of_isMediaType sendable.jsonpType Settings.jsonpTypeField
  intro refused
  rw [compile, madeJson] at refused
  simp only [madeJsonp] at refused
  split at refused
  · cases refused
  · cases refused

/-- Settings that can be sent are never what a file is refused for. -/
theorem Resource.compile_ne_invalidSetting (kind : Kind) (source : Source) (registry : Registry)
    (field value : Text) :
    compile kind source registry settings ≠ .error (.invalidSetting field value) := by
  intro refused
  rcases category_of_compile refused with ⟨structural, -⟩ | blames
  · -- an invalid setting is an error of configuration
    cases structural
  · cases blames with
    | setting fault => exact sendable.not_fault _ fault

end Sendable

/-! ## From a configuration to its settings -/

namespace Config

/-- But for the name of the renderer, a configuration is asked what its settings are asked. -/
theorem valid_iff_sendable (config : Config) :
    config.Valid ↔ config.defaultRenderer ≠ [] ∧ config.settings.Sendable := by
  constructor
  · rintro ⟨jsonType, jsonpType, defaultRenderer, charset⟩
    refine ⟨defaultRenderer, jsonType, jsonpType, ?_⟩
    rintro _ ⟨⟩
    exact charset
  · rintro ⟨defaultRenderer, sendable⟩
    exact ⟨sendable.jsonType, sendable.jsonpType, defaultRenderer, sendable.charset _ rfl⟩

/-- **The two checks agree, so what is loaded can be compiled with.**  A configuration passes its
check exactly when its default renderer has a name and its settings pass theirs.  Whatever is
loaded, from any file and with any overrides, no file of either kind is refused for a setting of it,
whatever is registered, and both its media types are header values. -/
theorem validate_agrees :
    (∀ config : Config, config.validate = .ok () ↔
      config.defaultRenderer ≠ [] ∧ config.settings.validate = .ok ()) ∧
    ∀ reader view asked overrides config, loadWith reader view asked overrides = .ok config →
      (∀ kind source registry field value,
        Resource.compile kind source registry config.settings ≠
          .error (.invalidSetting field value)) ∧
      (∀ path logicPages contentPages field value,
        JsonResource.compile config.settings path logicPages contentPages ≠
          .error (.invalidSetting field value)) ∧
      ∀ mediaType, mediaType = config.jsonType ∨ mediaType = config.jsonpType → ∀ field,
        ∃ value, JsonResource.typeHeader field mediaType = .ok value ∧
          value.bytes = Utf8.encode mediaType := by
  constructor
  · intro config
    rw [validate_eq_ok_iff, Settings.validate_eq_ok_iff]
    exact config.valid_iff_sendable
  · intro reader view asked overrides config loaded
    obtain ⟨-, sendable⟩ := config.valid_iff_sendable.mp (valid_of_loadWith loaded)
    refine ⟨Resource.compile_ne_invalidSetting sendable,
      JsonResource.compile_ne_invalidSetting sendable, ?_⟩
    rintro mediaType (rfl | rfl) field
    · exact JsonResource.typeHeader_of_isMediaType sendable.jsonType field
    · exact JsonResource.typeHeader_of_isMediaType sendable.jsonpType field

/-- A renderer without a name is refused before its settings would be; a charset with a blank is
refused by both; and no file is refused for what was found at the root of the site. -/
theorem validate_agrees_of_site :
    ({ defaultRenderer := [] } : Config).validate ≠ .ok () ∧
    ({ charset := "a b" } : Config).validate ≠ .ok () ∧
    load (siteTree.view ["a".toList, "b".toList]) none
        (some { charset := some "latin1".toList }) = .ok siteConfig ∧
    (∀ kind source registry field value,
      Resource.compile kind source registry siteConfig.settings ≠
        .error (.invalidSetting field value)) ∧
    ∃ value, JsonResource.typeHeader "media_type_json" "application/json" = .ok value ∧
      value.bytes = Utf8.encode "application/json" := by
  obtain ⟨checks, loads⟩ := validate_agrees
  obtain ⟨compiles, -, headers⟩ := loads _ _ _ _ _ load_siteTree
  refine ⟨?_, ?_, load_siteTree, compiles, headers _ (.inl rfl) _⟩
  · rw [ne_eq, checks]
    exact fun accepted => accepted.1 rfl
  · rw [ne_eq, checks]
    rintro ⟨-, accepted⟩
    exact absurd accepted (by decide)

end Config
end Multipage
