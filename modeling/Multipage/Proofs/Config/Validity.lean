/-
# Multipage.Proofs.Config.Validity -- which configurations can be used

A configuration is valid when its media types and its charset can be sent in header fields and its
default renderer has a name (`Config.Valid`).  Of any other the first setting at fault is named, in
the order JSON type, JSONP type, renderer, charset, and an empty setting is told from a malformed
one (`Config.Fault`).  `Config.validate_eq_ok_iff` and `Config.validate_eq_error_iff` say that
validating is exactly that.
-/
import Multipage.Config.Basic

namespace Multipage.Config

set_option autoImplicit false

/-- Every setting can be used. -/
structure Valid (config : Config) : Prop where
  jsonType : isMediaType config.jsonType = true
  jsonpType : isMediaType config.jsonpType = true
  defaultRenderer : config.defaultRenderer ≠ []
  charset : isCharset config.charset = true

/-- What is wrong with the value of a field that has to be well formed. -/
inductive FieldFault (wellFormed : Text → Bool) (malformed : Text → Text → ConfigError)
    (field value : Text) : ConfigError → Prop where
  | empty (nothing : value = []) : FieldFault wellFormed malformed field value (.empty field)
  | malformed (something : value ≠ []) (isMalformed : wellFormed value = false) :
      FieldFault wellFormed malformed field value (malformed field value)

/-- The first setting that cannot be used. -/
inductive Fault (config : Config) : ConfigError → Prop where
  | jsonType {error : ConfigError}
      (fault : FieldFault isMediaType .notMediaType "media_types.json" config.jsonType error) :
      Fault config error
  | jsonpType {error : ConfigError} (jsonType : isMediaType config.jsonType = true)
      (fault : FieldFault isMediaType .notMediaType "media_types.jsonp" config.jsonpType error) :
      Fault config error
  | defaultRenderer (jsonType : isMediaType config.jsonType = true)
      (jsonpType : isMediaType config.jsonpType = true) (nameless : config.defaultRenderer = []) :
      Fault config (.empty "renderers.default")
  | charset {error : ConfigError} (jsonType : isMediaType config.jsonType = true)
      (jsonpType : isMediaType config.jsonpType = true) (named : config.defaultRenderer ≠ [])
      (fault : FieldFault isCharset .notToken "response.charset" config.charset error) :
      Fault config error

/-! ## One field -/

section Field

variable {wellFormed : Text → Bool} {malformed : Text → Text → ConfigError} {field value : Text}

/-- The empty text is well formed in no sense, so a value that is well formed is not empty. -/
theorem ne_nil_of_wellFormed (emptyMalformed : wellFormed [] = false)
    (isWellFormed : wellFormed value = true) : value ≠ [] := by
  rintro rfl
  rw [emptyMalformed] at isWellFormed
  cases isWellFormed

/-- A value is well formed or there is something wrong with it. -/
theorem wellFormed_or_fieldFault (wellFormed : Text → Bool)
    (malformed : Text → Text → ConfigError) (field value : Text) :
    wellFormed value = true ∨ ∃ error, FieldFault wellFormed malformed field value error := by
  cases isWellFormed : wellFormed value with
  | true => exact .inl rfl
  | false =>
      by_cases nothing : value = []
      · exact .inr ⟨_, .empty nothing⟩
      · exact .inr ⟨_, .malformed nothing isWellFormed⟩

end Field

section Require

variable {field value : Text} {error : ConfigError}

theorem requireMediaType_of_isMediaType (isType : isMediaType value = true) :
    requireMediaType field value = .ok () := by
  have something : value ≠ [] := ne_nil_of_wellFormed rfl isType
  rw [requireMediaType, if_neg (by simpa using something), if_pos isType]

theorem requireMediaType_of_fieldFault
    (fault : FieldFault isMediaType .notMediaType field value error) :
    requireMediaType field value = .error error := by
  cases fault with
  | empty nothing => rw [requireMediaType, if_pos (by simp [nothing])]
  | malformed something isMalformed =>
      rw [requireMediaType, if_neg (by simpa using something), if_neg (by simp [isMalformed])]

theorem requireToken_of_isCharset (isToken : isCharset value = true) :
    requireToken field value = .ok () := by
  have something : value ≠ [] := ne_nil_of_wellFormed rfl isToken
  rw [requireToken, if_neg (by simpa using something), if_pos isToken]

theorem requireToken_of_fieldFault (fault : FieldFault isCharset .notToken field value error) :
    requireToken field value = .error error := by
  cases fault with
  | empty nothing => rw [requireToken, if_pos (by simp [nothing])]
  | malformed something isMalformed =>
      rw [requireToken, if_neg (by simpa using something), if_neg (by simp [isMalformed])]

theorem requireText_of_ne_nil (something : value ≠ []) : requireText field value = .ok () := by
  rw [requireText, if_neg (by simpa using something)]

theorem requireText_nil (field : Text) : requireText field [] = .error (.empty field) := rfl

end Require

/-! ## All of them -/

theorem validate_of_valid {config : Config} (valid : config.Valid) : config.validate = .ok () := by
  rw [validate, requireMediaType_of_isMediaType valid.jsonType,
    requireMediaType_of_isMediaType valid.jsonpType, requireText_of_ne_nil valid.defaultRenderer,
    requireToken_of_isCharset valid.charset]
  rfl

theorem validate_of_fault {config : Config} {error : ConfigError} (fault : config.Fault error) :
    config.validate = .error error := by
  cases fault with
  | jsonType fault =>
      have refused : requireMediaType jsonTypeField config.jsonType = .error error :=
        requireMediaType_of_fieldFault fault
      rw [validate, refused]
      rfl
  | jsonpType jsonType fault =>
      have refused : requireMediaType jsonpTypeField config.jsonpType = .error error :=
        requireMediaType_of_fieldFault fault
      rw [validate, requireMediaType_of_isMediaType jsonType, refused]
      rfl
  | defaultRenderer jsonType jsonpType nameless =>
      rw [validate, requireMediaType_of_isMediaType jsonType,
        requireMediaType_of_isMediaType jsonpType, nameless, requireText_nil]
      rfl
  | charset jsonType jsonpType named fault =>
      have refused : requireToken charsetField config.charset = .error error :=
        requireToken_of_fieldFault fault
      rw [validate, requireMediaType_of_isMediaType jsonType,
        requireMediaType_of_isMediaType jsonpType, requireText_of_ne_nil named, refused]
      rfl

/-- A configuration is valid or has a first setting at fault. -/
theorem valid_or_fault (config : Config) : config.Valid ∨ ∃ error, config.Fault error := by
  rcases wellFormed_or_fieldFault isMediaType .notMediaType "media_types.json" config.jsonType with
    jsonType | ⟨error, fault⟩
  case inr => exact .inr ⟨error, .jsonType fault⟩
  rcases wellFormed_or_fieldFault isMediaType .notMediaType "media_types.jsonp"
    config.jsonpType with jsonpType | ⟨error, fault⟩
  case inr => exact .inr ⟨error, .jsonpType jsonType fault⟩
  by_cases nameless : config.defaultRenderer = []
  · exact .inr ⟨_, .defaultRenderer jsonType jsonpType nameless⟩
  rcases wellFormed_or_fieldFault isCharset .notToken "response.charset" config.charset with
    charset | ⟨error, fault⟩
  case inr => exact .inr ⟨error, .charset jsonType jsonpType nameless fault⟩
  exact .inl ⟨jsonType, jsonpType, nameless, charset⟩

theorem validate_eq_ok_iff (config : Config) : config.validate = .ok () ↔ config.Valid := by
  constructor
  · intro accepted
    rcases config.valid_or_fault with valid | ⟨error, fault⟩
    · exact valid
    · rw [validate_of_fault fault] at accepted
      cases accepted
  · exact validate_of_valid

theorem validate_eq_error_iff (config : Config) (error : ConfigError) :
    config.validate = .error error ↔ config.Fault error := by
  constructor
  · intro refused
    rcases config.valid_or_fault with valid | ⟨other, fault⟩
    · rw [validate_of_valid valid] at refused
      cases refused
    · rw [validate_of_fault fault] at refused
      cases refused
      exact fault
  · exact validate_of_fault

/-- The defaults can be used, though no run checks them. -/
theorem valid_default : Valid {} := by
  constructor <;> decide

end Multipage.Config
