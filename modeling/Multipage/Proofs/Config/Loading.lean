/-
# Multipage.Proofs.Config.Loading -- where the settings of a run come from

A setting is looked for in three layers: the overrides of the run, the file, the defaults
(`Config.layered`).  There is one file at most, the one that is asked for or the nearest
(`Config.Uses`), and what is wrong with it is not mended from elsewhere (`Config.Refused`).

`Config.Loads` says from these what a run comes to, for every view of the file system and every way
to read settings from a text; `Config.loadWith_iff_loads` says that loading is exactly that, and
`Config.valid_of_loadWith` that every configuration that is loaded is valid.
-/
import Multipage.Config.Load
import Multipage.Proofs.Config.Validity
import Multipage.Proofs.File.Search
import Multipage.Proofs.Text.Codec

namespace Multipage.Config

set_option autoImplicit false

/-! ## Layers -/

/-- Each setting as the first layer has it, else as the second has it, else the default. -/
def layered (file : Option Text) (first second : Overrides) : Config where
  jsonType := (first.jsonType <|> second.jsonType).getD "application/json"
  jsonpType := (first.jsonpType <|> second.jsonpType).getD "application/javascript"
  defaultRenderer := (first.defaultRenderer <|> second.defaultRenderer).getD "template"
  charset := (first.charset <|> second.charset).getD "UTF-8"
  file

theorem getD_orElse {α : Type} (first second : Option α) (last : α) :
    (first <|> second).getD last = first.getD (second.getD last) := by
  cases first <;> rfl

/-- Overrides are a layer above all that is there. -/
theorem override_layered (file : Option Text) (given own : Overrides) :
    (layered file {} own).override given = layered file given own := by
  simp only [layered, override, getD_orElse]
  rfl

theorem layered_nothing : layered none {} {} = {} := rfl

/-! ## Files -/

/-- The file that a run uses, if any, when it asks for the path `asked` or for none. -/
inductive Uses (view : FileView) : Option Text → Option Text → Prop where
  | asked {path : Text} (there : view.holds path = true) : Uses view (some path) (some path)
  | nearest {above : List Text}
      (nearest :
        FileView.Nearest (view.holdsEntry "sp.toml") view.workingDirectory (some above)) :
      Uses view none (some (FileView.absolutePath (above ++ ["sp.toml".toList])))
  | nothing
      (nowhere : FileView.Nearest (view.holdsEntry "sp.toml") view.workingDirectory none) :
      Uses view none none

/-- The file at `path` can be read and is a text that sets `own`. -/
inductive Sets (reader : Reader) (view : FileView) (path : Text) (own : Overrides) : Prop where
  | intro {content : Bytes} {text : Text} (readable : view.read path = .ok content)
      (encodes : Utf8.encode text = content) (reads : reader text = some own)

/-- Why the file at `path` gives no configuration: it cannot be read, is not a text, is malformed,
or sets something that cannot be used.  Overrides have no part in it. -/
inductive Refused (reader : Reader) (view : FileView) (path : Text) : ConfigError → Prop where
  | unreadable {fault : FileFault} (unreadable : view.read path = .error fault) :
      Refused reader view path (.unreadable fault)
  | notText {content : Bytes} (readable : view.read path = .ok content)
      (illFormed : ¬content.toByteArray.IsValidUTF8) :
      Refused reader view path (.unreadable .notText)
  | malformed {content : Bytes} {text : Text} (readable : view.read path = .ok content)
      (encodes : Utf8.encode text = content) (malformed : reader text = none) :
      Refused reader view path .malformed
  | invalid {own : Overrides} {error : ConfigError} (sets : Sets reader view path own)
      (fault : (layered (some path) {} own).Fault error) : Refused reader view path error

section File

variable {reader : Reader} {view : FileView} {path : Text}

theorem readText_eq_ok_iff (text : Text) :
    readText view path = .ok text ↔ view.read path = .ok (Utf8.encode text) := by
  cases read : view.read path with
  | error fault => simp [readText, read, bind, Except.bind]
  | ok content =>
      simp only [readText, read, bind, Except.bind]
      cases decoded : Utf8.decode? content with
      | none =>
          have illFormed : content ≠ Utf8.encode text := by
            rintro rfl
            rw [(Utf8.decode?_eq_some_iff _ text).mpr rfl] at decoded
            cases decoded
          simp [illFormed]
      | some other =>
          have encodes := (Utf8.decode?_eq_some_iff content other).mp decoded
          rw [← encodes]
          simp [Utf8.encode_injective.eq_iff]

theorem readText_of_unreadable {fault : FileFault} (unreadable : view.read path = .error fault) :
    readText view path = .error fault := by
  rw [readText, unreadable]
  rfl

theorem readText_of_illFormed {content : Bytes} (readable : view.read path = .ok content)
    (illFormed : ¬content.toByteArray.IsValidUTF8) : readText view path = .error .notText := by
  have undecoded : Utf8.decode? content = none := by
    rw [Option.eq_none_iff_forall_ne_some]
    exact fun text decoded => illFormed ((Utf8.isValidUTF8_iff content).mpr ⟨text, decoded⟩)
  simp only [readText, readable, bind, Except.bind, undecoded]

/-- A file is checked by itself, before any override. -/
theorem ofFile_of_sets {own : Overrides} (sets : Sets reader view path own) :
    ofFile reader view path =
      (layered (some path) {} own).validate.map fun _ => layered (some path) {} own := by
  obtain ⟨readable, rfl, reads⟩ := sets
  rw [ofFile, (readText_eq_ok_iff _).mpr readable]
  simp only [reads]
  cases validated : (layered (some path) {} own).validate <;>
    · have same : validate { Config.override {} own with file := some path } = _ := validated
      simp only [same]
      rfl

theorem ofFile_of_refused {error : ConfigError} (refused : Refused reader view path error) :
    ofFile reader view path = .error error := by
  cases refused with
  | unreadable unreadable => rw [ofFile, readText_of_unreadable unreadable]
  | notText readable illFormed => rw [ofFile, readText_of_illFormed readable illFormed]
  | malformed readable encodes malformed =>
      subst encodes
      rw [ofFile, (readText_eq_ok_iff _).mpr readable]
      simp only [malformed]
  | invalid sets fault =>
      rw [ofFile_of_sets sets, validate_of_fault fault]
      rfl

variable (reader view path) in
/-- A file sets something valid or is refused. -/
theorem sets_or_refused :
    (∃ own, Sets reader view path own ∧ (layered (some path) {} own).Valid) ∨
      ∃ error, Refused reader view path error := by
  cases readable : view.read path with
  | error fault => exact .inr ⟨_, .unreadable readable⟩
  | ok content =>
      by_cases wellFormed : content.toByteArray.IsValidUTF8
      case neg => exact .inr ⟨_, .notText readable wellFormed⟩
      obtain ⟨text, decoded⟩ := (Utf8.isValidUTF8_iff content).mp wellFormed
      have encodes := (Utf8.decode?_eq_some_iff content text).mp decoded
      cases reads : reader text with
      | none => exact .inr ⟨_, .malformed readable encodes reads⟩
      | some own =>
          have sets : Sets reader view path own := ⟨readable, encodes, reads⟩
          rcases (layered (some path) {} own).valid_or_fault with valid | ⟨error, fault⟩
          · exact .inl ⟨own, sets, valid⟩
          · exact .inr ⟨error, .invalid sets fault⟩

end File

/-! ## The configuration before the overrides -/

/-- What there is before the overrides of a run: the file that is used and what it sets, or no
file, and nothing set. -/
inductive Found (reader : Reader) (view : FileView) (asked : Option Text) :
    Option Text → Overrides → Prop where
  | file {path : Text} {own : Overrides} (uses : Uses view asked (some path))
      (sets : Sets reader view path own) (valid : (layered (some path) {} own).Valid) :
      Found reader view asked (some path) own
  | defaults (uses : Uses view asked none) : Found reader view asked none {}

section Found

variable {reader : Reader} {view : FileView} {asked : Option Text}

theorem find_of_missing {path : Text} (missing : view.holds path = false) :
    find reader view (some path) = .error (.notFound path) := by
  rw [find]
  simp [missing]

theorem find_of_uses {path : Text} (uses : Uses view asked (some path)) :
    find reader view asked = ofFile reader view path := by
  cases uses with
  | asked there =>
      rw [find]
      simp [there]
  | nearest nearest =>
      have found : view.nearest? fileName = some _ := FileView.nearest?_of_nearest nearest
      simp only [find, found]

theorem find_of_uses_none (uses : Uses view asked none) : find reader view asked = .ok {} := by
  cases uses with
  | nothing nowhere =>
      have found : view.nearest? fileName = none := FileView.nearest?_of_nearest nowhere
      simp only [find, found]

variable (view asked) in
/-- A run uses a file or none, unless it asks for one that is not there. -/
theorem uses_or_missing :
    (∃ file, Uses view asked file) ∨ ∃ path, asked = some path ∧ view.holds path = false := by
  cases asked with
  | some path =>
      cases there : view.holds path with
      | true => exact .inl ⟨_, .asked there⟩
      | false => exact .inr ⟨path, rfl, there⟩
  | none =>
      have nearest := FileView.nearest_find?_upwards (view.holdsEntry "sp.toml")
        view.workingDirectory
      cases found : (FileView.upwards view.workingDirectory).find? (view.holdsEntry "sp.toml") with
      | some above =>
          rw [found] at nearest
          exact .inl ⟨_, .nearest nearest⟩
      | none =>
          rw [found] at nearest
          exact .inl ⟨_, .nothing nearest⟩

theorem find_of_found {file : Option Text} {own : Overrides}
    (found : Found reader view asked file own) :
    find reader view asked = .ok (layered file {} own) := by
  cases found with
  | file uses sets valid =>
      rw [find_of_uses uses, ofFile_of_sets sets, validate_of_valid valid]
      rfl
  | defaults uses => rw [find_of_uses_none uses, layered_nothing]

theorem Found.valid {file : Option Text} {own : Overrides}
    (found : Found reader view asked file own) : (layered file {} own).Valid := by
  cases found with
  | file uses sets valid => exact valid
  | defaults uses => exact valid_default

end Found

/-! ## The configuration of a run -/

/-- What a run comes to that asks for the file `asked`, or for none, and may have overrides. -/
inductive Loads (reader : Reader) (view : FileView) (asked : Option Text)
    (overrides : Option Overrides) : Except ConfigError Config → Prop where
  | missing {path : Text} (asks : asked = some path) (missing : view.holds path = false) :
      Loads reader view asked overrides (.error (.notFound path))
  | refused {path : Text} {error : ConfigError} (uses : Uses view asked (some path))
      (refused : Refused reader view path error) : Loads reader view asked overrides (.error error)
  | spoiled {file : Option Text} {own given : Overrides} {error : ConfigError}
      (found : Found reader view asked file own) (overridden : overrides = some given)
      (fault : (layered file given own).Fault error) :
      Loads reader view asked overrides (.error error)
  | loaded {file : Option Text} {own : Overrides} (found : Found reader view asked file own)
      (valid : ∀ given, overrides = some given → (layered file given own).Valid) :
      Loads reader view asked overrides (.ok (layered file (overrides.getD {}) own))

section Loads

variable {reader : Reader} {view : FileView} {asked : Option Text} {overrides : Option Overrides}

theorem loadWith_of_find_error {error : ConfigError}
    (failed : find reader view asked = .error error) (overrides : Option Overrides) :
    loadWith reader view asked overrides = .error error := by
  rw [loadWith, failed]
  rfl

/-- With overrides, what was found is overridden and checked once more. -/
theorem loadWith_of_found {file : Option Text} {own : Overrides}
    (found : Found reader view asked file own) (given : Overrides) :
    loadWith reader view asked (some given) =
      (layered file given own).validate.map fun _ => layered file given own := by
  rw [loadWith, find_of_found found]
  show (do
    ((layered file {} own).override given).validate
    Except.ok ((layered file {} own).override given)) = _
  rw [override_layered]
  cases (layered file given own).validate <;> rfl

theorem loadWith_of_loads {answer : Except ConfigError Config}
    (loads : Loads reader view asked overrides answer) :
    loadWith reader view asked overrides = answer := by
  cases loads with
  | missing asks missing =>
      subst asks
      exact loadWith_of_find_error (find_of_missing missing) overrides
  | refused uses refused =>
      refine loadWith_of_find_error ?_ overrides
      rw [find_of_uses uses, ofFile_of_refused refused]
  | spoiled found overridden fault =>
      subst overridden
      rw [loadWith_of_found found, validate_of_fault fault]
      rfl
  | loaded found valid =>
      cases overrides with
      | none =>
          rw [loadWith, find_of_found found]
          rfl
      | some given =>
          rw [loadWith_of_found found, validate_of_valid (valid given rfl)]
          rfl

variable (reader view asked overrides) in
theorem exists_loads : ∃ answer, Loads reader view asked overrides answer := by
  have ofFound : ∀ {file own}, Found reader view asked file own →
      ∃ answer, Loads reader view asked overrides answer := by
    intro file own found
    cases overrides with
    | none => exact ⟨_, .loaded found fun given absent => by cases absent⟩
    | some given =>
        rcases (layered file given own).valid_or_fault with valid | ⟨error, fault⟩
        · refine ⟨_, .loaded found fun other same => ?_⟩
          cases same
          exact valid
        · exact ⟨_, .spoiled found rfl fault⟩
  rcases uses_or_missing view asked with ⟨file, uses⟩ | ⟨path, asks, missing⟩
  case inr => exact ⟨_, .missing asks missing⟩
  cases file with
  | none => exact ofFound (.defaults uses)
  | some path =>
      rcases sets_or_refused reader view path with ⟨own, sets, valid⟩ | ⟨error, refused⟩
      · exact ofFound (.file uses sets valid)
      · exact ⟨_, .refused uses refused⟩

theorem loadWith_iff_loads (answer : Except ConfigError Config) :
    loadWith reader view asked overrides = answer ↔ Loads reader view asked overrides answer := by
  obtain ⟨other, loads⟩ := exists_loads reader view asked overrides
  constructor
  · rintro rfl
    rwa [loadWith_of_loads loads]
  · exact loadWith_of_loads

/-- Whatever the layers are, what is loaded can be used. -/
theorem valid_of_loadWith {config : Config}
    (loaded : loadWith reader view asked overrides = .ok config) : config.Valid := by
  cases (loadWith_iff_loads _).mp loaded with
  | loaded found valid =>
      cases overrides with
      | none => exact found.valid
      | some given => exact valid given rfl

end Loads

/-- A tree with a configuration at the root, a place two levels below it, and another place where
the name of the file is that of a directory. -/
def siteTree : FileTree where
  entries := [
    (["sp.toml".toList],
      .file (Utf8.encode "[renderers]\ndefault = 'raw'\n[response]\ncharset = 'ascii'")),
    (["a".toList, "b".toList], .directory),
    (["c".toList, "sp.toml".toList], .directory)]

/-- The configuration at the root with the charset of the run above it. -/
def siteConfig : Config where
  defaultRenderer := "raw"
  charset := "latin1"
  file := some "/sp.toml".toList

/-- Two levels above the place the file is found, and the charset of the run is above it. -/
theorem load_siteTree :
    load (siteTree.view ["a".toList, "b".toList]) none
      (some { charset := some "latin1".toList }) = .ok siteConfig := by
  decide +kernel

end Multipage.Config
