/-
# Multipage.Proofs.Resource.Compilation -- which files compile, and why the others do not

Compiling a negotiated resource goes through its checks in a fixed order: the settings, the
number of pages, then each content page in turn, and in a page its specline, its renderer, the
factory of the renderer, and last whether an earlier page has the same media type.

* `ContentPage.Declares` says what a content page is when its own checks pass, and
  `ContentPage.Fault` why a page is refused after pages of the given media types;
* `ContentPage.compileAll_eq_ok_iff` and `compileAll_eq_error_iff`: the pages compile when each
  declares and the media types differ, and otherwise the first page at fault is reported;
* `Resource.compile_negotiated_outcome`: a file compiles, or is refused for the first cause;
* `Resource.compile_json_eq_ok_iff`: a JSON file compiles to what its two pages and the settings
  declare;
* `NegotiatedResource.wellFormed_of_compile`: what holds of every compiled resource.
-/
import Multipage.Proofs.Media.Declared
import Multipage.Proofs.Specline
import Multipage.Resource.Basic
import Mathlib.Data.List.Forall2

namespace Multipage

set_option autoImplicit false

namespace ContentPage

/-! ## One page -/

/-- `line` is the first line of a page without its margins, and `body` what follows its end. -/
def Parts (text line body : Text) : Prop :=
  ∃ first, text = first ++ '\n' :: body ∧ '\n' ∉ first ∧
    line = Text.trimBy isSpeclineMargin first

theorem split_of_parts {text line body : Text} (parts : Parts text line body) :
    split text = (line, body) := by
  obtain ⟨first, rfl, single, rfl⟩ := parts
  simp [split, Text.splitOnce_append _ _ _ single]

/-- A page is one line without an end, or has parts. -/
theorem parts_of_lineEnd {text : Text} (lineEnd : '\n' ∈ text) :
    ∃ line body, Parts text line body := by
  obtain ⟨first, body, rfl, single⟩ := List.eq_append_cons_of_mem lineEnd
  exact ⟨_, body, first, rfl, single, rfl⟩

section Page

variable (registry : Registry) (fallback path : Text)

/-- What a content page is, when its first line is a specline, the renderer it asks for is
registered, and the factory of that renderer takes the body. -/
inductive Declares (text : Text) : ContentPage → Prop where
  | intro {line body : Text} {specline : Specline} {factory : RendererFactory}
      {render : Renderer} {bareType : HeaderValue} (parts : Parts text line body)
      (reads : Specline.Reads fallback line specline)
      (registered : registry.get? specline.renderer = some factory)
      (made : factory path body = .ok render)
      (bytes : bareType.bytes = Utf8.encode specline.mediaType) :
      Declares text
        { mediaType := specline.mediaType, rendererName := specline.renderer, render, bareType }

/-- Why a content page is refused after pages of the media types `earlier`.  Each cause rests
on the checks before it. -/
inductive Fault (earlier : List Text) (text : Text) : CompileError → Prop where
  | noLineEnd (single : '\n' ∉ text) : Fault earlier text .emptySpecline
  | specline {line body : Text} {error : CompileError} (parts : Parts text line body)
      (fault : Specline.Fault line error) : Fault earlier text error
  | unknownRenderer {line body : Text} {specline : Specline} (parts : Parts text line body)
      (reads : Specline.Reads fallback line specline)
      (unknown : registry.get? specline.renderer = none) :
      Fault earlier text (.unknownRenderer specline.mediaType specline.renderer)
  | renderer {line body : Text} {specline : Specline} {factory : RendererFactory}
      {error : RenderError} (parts : Parts text line body)
      (reads : Specline.Reads fallback line specline)
      (registered : registry.get? specline.renderer = some factory)
      (refused : factory path body = .error error) :
      Fault earlier text (.renderer specline.mediaType specline.renderer error)
  | duplicate {page : ContentPage} (declares : Declares registry fallback path text page)
      (taken : page.mediaType ∈ earlier) : Fault earlier text (.duplicateMediaType page.mediaType)

variable {registry fallback path}

theorem Declares.isMediaType {text : Text} {page : ContentPage}
    (declares : Declares registry fallback path text page) :
    isMediaType page.mediaType = true := by
  cases declares with
  | intro parts reads registered made bytes => exact reads.wellFormed

theorem Declares.bytes {text : Text} {page : ContentPage}
    (declares : Declares registry fallback path text page) :
    page.bareType.bytes = Utf8.encode page.mediaType := by
  cases declares with
  | intro parts reads registered made bytes => exact bytes

theorem compile_of_declares {earlier : List Text} {text : Text} {page : ContentPage}
    (declares : Declares registry fallback path text page) (fresh : page.mediaType ∉ earlier) :
    compile registry fallback path earlier text = .ok page := by
  cases declares with
  | intro parts reads registered made bytes =>
      have header := (HeaderValue.ofText?_eq_some_iff _ _).mpr bytes
      simp [compile, split_of_parts parts, Specline.ofText_of_reads reads, Specline.resolve,
        registered, made, fresh, header]

theorem compile_of_fault {earlier : List Text} {text : Text} {error : CompileError}
    (fault : Fault registry fallback path earlier text error) :
    compile registry fallback path earlier text = .error error := by
  cases fault with
  | noLineEnd single =>
      have cut : split text = ([], text) := by
        simp [split, (Text.splitOnce_eq_none_iff _ _).mpr single, Text.trimBy, Text.trimEndBy,
          Text.trimStartBy]
      simp [compile, cut, Specline.ofText]
  | specline parts fault =>
      simp [compile, split_of_parts parts, Specline.ofText_of_fault fault]
  | unknownRenderer parts reads unknown =>
      simp [compile, split_of_parts parts, Specline.ofText_of_reads reads, Specline.resolve,
        unknown]
  | renderer parts reads registered refused =>
      simp [compile, split_of_parts parts, Specline.ofText_of_reads reads, Specline.resolve,
        registered, refused]
  | duplicate declares taken =>
      cases declares with
      | intro parts reads registered made bytes =>
          simp only at taken
          simp [compile, split_of_parts parts, Specline.ofText_of_reads reads,
            Specline.resolve, registered, made, taken]

variable (registry fallback path) in
/-- A page declares something new or is refused for a reason. -/
theorem declares_or_fault (earlier : List Text) (text : Text) :
    (∃ page, Declares registry fallback path text page ∧ page.mediaType ∉ earlier) ∨
      ∃ error, Fault registry fallback path earlier text error := by
  by_cases lineEnd : '\n' ∈ text
  · obtain ⟨line, body, parts⟩ := parts_of_lineEnd lineEnd
    rcases Specline.reads_or_fault fallback line with ⟨specline, reads⟩ | ⟨error, fault⟩
    · cases registered : registry.get? specline.renderer with
      | none => exact .inr ⟨_, .unknownRenderer parts reads registered⟩
      | some factory =>
          cases made : factory path body with
          | error error => exact .inr ⟨_, .renderer parts reads registered made⟩
          | ok render =>
              obtain ⟨bareType, -, bytes⟩ := HeaderValue.exists_of_isMediaType reads.wellFormed
              have declares : Declares registry fallback path text _ :=
                .intro parts reads registered made bytes
              by_cases taken : specline.mediaType ∈ earlier
              · exact .inr ⟨_, .duplicate declares taken⟩
              · exact .inl ⟨_, declares, taken⟩
    · exact .inr ⟨error, .specline parts fault⟩
  · exact .inr ⟨_, .noLineEnd lineEnd⟩

/-! ## All pages -/

/-- Why the first page at fault among `texts` is refused, the pages before it being declared. -/
def FirstFault (registry : Registry) (fallback path : Text) (earlier texts : List Text)
    (error : CompileError) : Prop :=
  ∃ before text after pages, texts = before ++ text :: after ∧
    List.Forall₂ (Declares registry fallback path) before pages ∧
    (earlier ++ pages.map mediaType).Nodup ∧
    Fault registry fallback path (earlier ++ pages.map mediaType) text error

/-- Compiling goes past pages that declare something new, and takes their media types along. -/
theorem compileAll_append {before : List Text} {pages : List ContentPage} (rest : List Text)
    (declared : List.Forall₂ (Declares registry fallback path) before pages) :
    ∀ {earlier : List Text}, (earlier ++ pages.map mediaType).Nodup →
      compileAll registry fallback path earlier (before ++ rest) =
        (compileAll registry fallback path (earlier ++ pages.map mediaType) rest).map
          (pages ++ ·) := by
  induction declared with
  | nil =>
      intro earlier _
      cases compiled : compileAll registry fallback path earlier rest <;>
        simp [compiled, Except.map]
  | @cons text page texts pages declares _ ih =>
      intro earlier distinct
      have fresh : page.mediaType ∉ earlier := by
        intro mem
        exact (List.nodup_append.mp distinct).2.2 _ mem _ (by simp) rfl
      have next : (earlier ++ [page.mediaType] ++ pages.map mediaType).Nodup := by
        simpa using distinct
      rw [List.cons_append, compileAll, compile_of_declares declares fresh]
      simp only [ih next, List.append_assoc, List.singleton_append, List.map_cons]
      cases compileAll registry fallback path
        (earlier ++ page.mediaType :: pages.map mediaType) rest <;> rfl

theorem compileAll_of_declares {earlier texts : List Text} {pages : List ContentPage}
    (declared : List.Forall₂ (Declares registry fallback path) texts pages)
    (distinct : (earlier ++ pages.map mediaType).Nodup) :
    compileAll registry fallback path earlier texts = .ok pages := by
  have whole := compileAll_append [] declared distinct
  simpa [compileAll, Except.map] using whole

theorem compileAll_of_firstFault {earlier texts : List Text} {error : CompileError}
    (fault : FirstFault registry fallback path earlier texts error) :
    compileAll registry fallback path earlier texts = .error error := by
  obtain ⟨before, text, after, pages, rfl, declared, distinct, fault⟩ := fault
  rw [compileAll_append (text :: after) declared distinct, compileAll, compile_of_fault fault]
  rfl

variable (registry fallback path) in
/-- All pages declare something new, or there is a first page at fault. -/
theorem declare_or_firstFault (texts : List Text) :
    ∀ {earlier : List Text}, earlier.Nodup →
      (∃ pages, List.Forall₂ (Declares registry fallback path) texts pages ∧
        (earlier ++ pages.map mediaType).Nodup) ∨
      ∃ error, FirstFault registry fallback path earlier texts error := by
  induction texts with
  | nil => exact fun distinct => .inl ⟨[], .nil, by simpa using distinct⟩
  | cons text texts ih =>
      intro earlier distinct
      rcases declares_or_fault registry fallback path earlier text with
        ⟨page, declares, fresh⟩ | ⟨error, fault⟩
      · have next : (earlier ++ [page.mediaType]).Nodup := by
          rw [List.nodup_append]
          refine ⟨distinct, by simp, ?_⟩
          rintro t mem u last rfl
          exact fresh (List.mem_singleton.mp last ▸ mem)
        rcases ih next with ⟨pages, declared, distinct⟩ | ⟨error, fault⟩
        · exact .inl ⟨page :: pages, .cons declares declared, by simpa using distinct⟩
        · obtain ⟨before, late, after, pages, rfl, declared, distinct, fault⟩ := fault
          refine .inr ⟨error, text :: before, late, after, page :: pages, rfl,
            .cons declares declared, by simpa using distinct, by simpa using fault⟩
      · exact .inr ⟨error, [], text, texts, [], rfl, .nil, by simpa using distinct,
          by simpa using fault⟩

end Page

/-- The pages compile exactly when each declares something and their media types differ. -/
theorem compileAll_eq_ok_iff (registry : Registry) (fallback path : Text) (texts : List Text)
    (pages : List ContentPage) :
    compileAll registry fallback path [] texts = .ok pages ↔
      List.Forall₂ (Declares registry fallback path) texts pages ∧
        (pages.map mediaType).Nodup := by
  constructor
  · intro compiled
    rcases declare_or_firstFault registry fallback path texts List.nodup_nil with
      ⟨others, declared, distinct⟩ | ⟨error, fault⟩
    · obtain rfl : others = pages :=
        Except.ok.inj ((compileAll_of_declares declared distinct).symm.trans compiled)
      exact ⟨declared, distinct⟩
    · simp [compileAll_of_firstFault fault] at compiled
  · exact fun ⟨declared, distinct⟩ => compileAll_of_declares declared distinct

/-- Otherwise the first page at fault is reported. -/
theorem compileAll_eq_error_iff (registry : Registry) (fallback path : Text)
    (texts : List Text) (error : CompileError) :
    compileAll registry fallback path [] texts = .error error ↔
      FirstFault registry fallback path [] texts error := by
  constructor
  · intro refused
    rcases declare_or_firstFault registry fallback path texts List.nodup_nil with
      ⟨others, declared, distinct⟩ | ⟨other, fault⟩
    · simp [compileAll_of_declares declared distinct] at refused
    · exact Except.error.inj ((compileAll_of_firstFault fault).symm.trans refused) ▸ fault
  · exact compileAll_of_firstFault

end ContentPage

/-! ## Settings -/

namespace Settings

/-- Every setting that goes into a header field can be sent. -/
structure Sendable (settings : Settings) : Prop where
  jsonType : isMediaType settings.jsonType = true
  jsonpType : isMediaType settings.jsonpType = true
  charset : ∀ charset, settings.charset = some charset → isCharset charset = true

/-- The first setting that cannot be sent. -/
inductive Fault (settings : Settings) : CompileError → Prop where
  | jsonType (unsendable : isMediaType settings.jsonType = false) :
      Fault settings (.invalidSetting "media_type_json" settings.jsonType)
  | jsonpType (jsonType : isMediaType settings.jsonType = true)
      (unsendable : isMediaType settings.jsonpType = false) :
      Fault settings (.invalidSetting "media_type_jsonp" settings.jsonpType)
  | charset {charset : Text} (jsonType : isMediaType settings.jsonType = true)
      (jsonpType : isMediaType settings.jsonpType = true) (given : settings.charset = some charset)
      (unsendable : isCharset charset = false) :
      Fault settings (.invalidSetting "charset" charset)

theorem validate_of_sendable {settings : Settings} (sendable : settings.Sendable) :
    settings.validate = .ok () := by
  cases given : settings.charset with
  | none => simp [validate, sendable.jsonType, sendable.jsonpType, given]
  | some charset =>
      simp [validate, sendable.jsonType, sendable.jsonpType, given, sendable.charset charset given]

theorem validate_of_fault {settings : Settings} {error : CompileError}
    (fault : settings.Fault error) : settings.validate = .error error := by
  cases fault with
  | jsonType unsendable =>
      rw [validate, if_pos (by simp [unsendable])]
      rfl
  | jsonpType jsonType unsendable =>
      rw [validate, if_neg (by simp [jsonType]), if_pos (by simp [unsendable])]
      rfl
  | charset jsonType jsonpType given unsendable =>
      rw [validate, if_neg (by simp [jsonType]), if_neg (by simp [jsonpType]), given]
      simp only [unsendable]
      rfl

theorem sendable_or_fault (settings : Settings) :
    settings.Sendable ∨ ∃ error, settings.Fault error := by
  cases jsonType : isMediaType settings.jsonType with
  | false => exact .inr ⟨_, .jsonType jsonType⟩
  | true =>
      cases jsonpType : isMediaType settings.jsonpType with
      | false => exact .inr ⟨_, .jsonpType jsonType jsonpType⟩
      | true =>
          cases given : settings.charset with
          | none => exact .inl ⟨jsonType, jsonpType, by simp [given]⟩
          | some charset =>
              cases sendable : isCharset charset with
              | false => exact .inr ⟨_, .charset jsonType jsonpType given sendable⟩
              | true => exact .inl ⟨jsonType, jsonpType, by simp [given, sendable]⟩

theorem Sendable.not_fault {settings : Settings} (sendable : settings.Sendable)
    (error : CompileError) : ¬settings.Fault error := by
  intro fault
  cases (validate_of_sendable sendable).symm.trans (validate_of_fault fault)

theorem validate_eq_ok_iff (settings : Settings) :
    settings.validate = .ok () ↔ settings.Sendable := by
  constructor
  · intro accepted
    rcases settings.sendable_or_fault with sendable | ⟨error, fault⟩
    · exact sendable
    · rw [validate_of_fault fault] at accepted
      cases accepted
  · exact validate_of_sendable

end Settings

/-! ## Files -/

namespace Resource

/-- `resource` is what the file is, page by page. -/
structure DeclaredBy (source : Source) (registry : Registry) (settings : Settings)
    (resource : NegotiatedResource) : Prop where
  path : resource.path = source.path
  charset : resource.charset = settings.charset
  logicPages : ∃ logic, source.pages.head? = some logic ∧ resource.logicPages = [logic]
  pages : List.Forall₂
    (ContentPage.Declares registry settings.defaultRenderer source.path)
    source.pages.tail resource.pages
  distinct : resource.availableTypes.Nodup

/-- Why a file is no negotiated resource: the settings, else the number of pages, else the
first content page at fault. -/
inductive Refusal (source : Source) (registry : Registry) (settings : Settings) :
    CompileError → Prop where
  | settings {error : CompileError} (fault : settings.Fault error) :
      Refusal source registry settings error
  | pageCount (sendable : settings.Sendable) (few : source.pages.length < 3) :
      Refusal source registry settings
        (.pageCount source.path source.pages.length "negotiated resources need at least 3")
  | page {error : CompileError} (sendable : settings.Sendable)
      (enough : 3 ≤ source.pages.length)
      (fault : ContentPage.FirstFault registry settings.defaultRenderer source.path []
        source.pages.tail error) :
      Refusal source registry settings error

section Outcome

variable {source : Source} {registry : Registry} {settings : Settings}

theorem allows_negotiated_iff (count : Nat) : Kind.negotiated.allows count = true ↔ 3 ≤ count := by
  rw [Kind.allows, Kind.minPages, Kind.maxPages?, Option.all_none, Bool.and_true]
  exact decide_eq_true_iff

/-- Past the settings and the number of pages, compiling is compiling the content pages. -/
theorem compile_negotiated_eq (sendable : settings.Sendable) (enough : 3 ≤ source.pages.length) :
    compile .negotiated source registry settings =
      (ContentPage.compileAll registry settings.defaultRenderer source.path []
        source.pages.tail).map fun pages =>
          .negotiated { path := source.path, logicPages := source.pages.take 1
                        charset := settings.charset, pages } := by
  have allowed := (allows_negotiated_iff _).mpr enough
  simp [compile, Settings.validate_of_sendable sendable, allowed, Kind.logicPages]

theorem compile_of_declaredBy {resource : NegotiatedResource} (sendable : settings.Sendable)
    (enough : 3 ≤ source.pages.length) (declared : DeclaredBy source registry settings resource) :
    compile .negotiated source registry settings = .ok (.negotiated resource) := by
  obtain ⟨samePath, sameCharset, ⟨logic, first, logicPages⟩, pages, distinct⟩ := declared
  have taken : source.pages.take 1 = [logic] := by
    rw [List.head?_eq_some_iff] at first
    obtain ⟨rest, cut⟩ := first
    simp [cut]
  rw [compile_negotiated_eq sendable enough,
    (ContentPage.compileAll_eq_ok_iff ..).mpr ⟨pages, distinct⟩]
  cases resource
  simp_all [Except.map]

theorem compile_of_refusal {error : CompileError}
    (refusal : Refusal source registry settings error) :
    compile .negotiated source registry settings = .error error := by
  cases refusal with
  | settings fault => simp [compile, Settings.validate_of_fault fault]
  | pageCount sendable few =>
      have refused : Kind.negotiated.allows source.pages.length = false := by
        rw [Bool.eq_false_iff, ne_eq, allows_negotiated_iff]
        omega
      simp only [compile, Settings.validate_of_sendable sendable, refused]
      rfl
  | page sendable enough fault =>
      rw [compile_negotiated_eq sendable enough, (ContentPage.compileAll_eq_error_iff ..).mpr fault]
      rfl

/-- Pages that declare different media types make a resource with the logic page before them. -/
theorem exists_declaredBy {pages : List ContentPage} (enough : 3 ≤ source.pages.length)
    (declared : List.Forall₂
      (ContentPage.Declares registry settings.defaultRenderer source.path)
      source.pages.tail pages)
    (distinct : (pages.map ContentPage.mediaType).Nodup) :
    ∃ resource, DeclaredBy source registry settings resource := by
  have nonempty : source.pages ≠ [] := by
    rintro none
    simp [none] at enough
  exact ⟨{ path := source.path, logicPages := [source.pages.head nonempty]
           charset := settings.charset, pages },
    rfl, rfl, ⟨_, List.head?_eq_some_head nonempty, rfl⟩, declared, distinct⟩

/-- A text and a page at one place belong together. -/
theorem DeclaredBy.exists_page {resource : NegotiatedResource}
    (declared : DeclaredBy source registry settings resource) {index : Nat} {text : Text}
    (here : source.pages.tail[index]? = some text) :
    ∃ page, resource.pages[index]? = some page ∧
      ContentPage.Declares registry settings.defaultRenderer source.path text page := by
  obtain ⟨inTexts, rfl⟩ := List.getElem?_eq_some_iff.mp here
  have inPages : index < resource.pages.length := declared.pages.length_eq ▸ inTexts
  exact ⟨_, List.getElem?_eq_getElem inPages, declared.pages.get inTexts inPages⟩

theorem DeclaredBy.exists_text {resource : NegotiatedResource}
    (declared : DeclaredBy source registry settings resource) {index : Nat} {page : ContentPage}
    (there : resource.pages[index]? = some page) :
    ∃ text, source.pages.tail[index]? = some text ∧
      ContentPage.Declares registry settings.defaultRenderer source.path text page := by
  obtain ⟨inPages, rfl⟩ := List.getElem?_eq_some_iff.mp there
  have inTexts : index < source.pages.tail.length := declared.pages.length_eq ▸ inPages
  exact ⟨_, List.getElem?_eq_getElem inTexts, declared.pages.get inTexts inPages⟩

/-- A file is a resource, or is refused for a reason. -/
theorem declaredBy_or_refusal (source : Source) (registry : Registry) (settings : Settings) :
    (settings.Sendable ∧ 3 ≤ source.pages.length ∧
        ∃ resource, DeclaredBy source registry settings resource) ∨
      ∃ error, Refusal source registry settings error := by
  rcases settings.sendable_or_fault with sendable | ⟨error, fault⟩
  · by_cases enough : 3 ≤ source.pages.length
    · cases compiled : ContentPage.compileAll registry settings.defaultRenderer source.path []
          source.pages.tail with
      | error error =>
          exact .inr ⟨error, .page sendable enough
            ((ContentPage.compileAll_eq_error_iff ..).mp compiled)⟩
      | ok pages =>
          obtain ⟨declared, distinct⟩ := (ContentPage.compileAll_eq_ok_iff ..).mp compiled
          exact .inl ⟨sendable, enough, exists_declaredBy enough declared distinct⟩
    · exact .inr ⟨_, .pageCount sendable (by omega)⟩
  · exact .inr ⟨error, .settings fault⟩

theorem compile_negotiated_eq_ok_iff (resource : Resource) :
    compile .negotiated source registry settings = .ok resource ↔
      settings.Sendable ∧ 3 ≤ source.pages.length ∧
        ∃ negotiated, resource = .negotiated negotiated ∧
          DeclaredBy source registry settings negotiated := by
  constructor
  · intro compiled
    rcases declaredBy_or_refusal source registry settings with
      ⟨sendable, enough, negotiated, declared⟩ | ⟨error, refusal⟩
    · refine ⟨sendable, enough, negotiated, ?_, declared⟩
      exact Except.ok.inj (compiled.symm.trans (compile_of_declaredBy sendable enough declared))
    · simp [compile_of_refusal refusal] at compiled
  · rintro ⟨sendable, enough, negotiated, rfl, declared⟩
    exact compile_of_declaredBy sendable enough declared

theorem compile_negotiated_eq_error_iff (error : CompileError) :
    compile .negotiated source registry settings = .error error ↔
      Refusal source registry settings error := by
  constructor
  · intro refused
    rcases declaredBy_or_refusal source registry settings with
      ⟨sendable, enough, negotiated, declared⟩ | ⟨other, refusal⟩
    · simp [compile_of_declaredBy sendable enough declared] at refused
    · exact Except.error.inj ((compile_of_refusal refusal).symm.trans refused) ▸ refusal
  · exact compile_of_refusal

end Outcome
end Resource

/-! ## JSON files -/

/-- `resource` is what a file of two logic pages is. -/
structure JsonResource.DeclaredBy (source : Source) (settings : Settings)
    (resource : JsonResource) : Prop where
  path : resource.path = source.path
  charset : resource.charset = settings.charset
  logicPages : resource.logicPages = source.pages
  mediaType : resource.mediaType = settings.jsonType
  jsonType : resource.jsonType.bytes = Utf8.encode settings.jsonType
  jsonpType : resource.jsonpType.bytes = Utf8.encode settings.jsonpType

theorem JsonResource.typeHeader_eq_ok_iff (field mediaType : Text) (value : HeaderValue) :
    typeHeader field mediaType = .ok value ↔ value.bytes = Utf8.encode mediaType := by
  rw [← HeaderValue.ofText?_eq_some_iff, typeHeader]
  cases HeaderValue.ofText? mediaType <;> simp

theorem JsonResource.compile_eq_ok_iff (settings : Settings) (source : Source)
    (resource : JsonResource) :
    compile settings source.path source.pages [] = .ok resource ↔
      resource.DeclaredBy source settings := by
  have jsonType := typeHeader_eq_ok_iff Settings.jsonTypeField settings.jsonType
  have jsonpType := typeHeader_eq_ok_iff Settings.jsonpTypeField settings.jsonpType
  constructor
  · intro compiled
    rw [compile, List.isEmpty_nil, if_neg (by simp)] at compiled
    split at compiled
    · simp at compiled
    · rename_i json madeJson
      split at compiled
      · simp at compiled
      · rename_i jsonp madeJsonp
        obtain rfl := Except.ok.inj compiled
        exact ⟨rfl, rfl, rfl, rfl, (jsonType json).mp madeJson, (jsonpType jsonp).mp madeJsonp⟩
  · rintro ⟨path, charset, logicPages, mediaType, json, jsonp⟩
    rw [compile, List.isEmpty_nil, if_neg (by simp), (jsonType _).mpr json, (jsonpType _).mpr jsonp]
    cases resource
    simp_all

namespace Resource

theorem allows_json_iff (count : Nat) : Kind.json.allows count = true ↔ count = 2 := by
  rw [Kind.allows, Kind.minPages, Kind.maxPages?, Option.all_some, Bool.and_eq_true,
    decide_eq_true_iff, decide_eq_true_iff]
  omega

theorem compile_json_eq_ok_iff (source : Source) (registry : Registry) (settings : Settings)
    (resource : Resource) :
    compile .json source registry settings = .ok resource ↔
      settings.Sendable ∧ source.pages.length = 2 ∧
        ∃ json, resource = .json json ∧ json.DeclaredBy source settings := by
  rcases settings.sendable_or_fault with sendable | ⟨error, fault⟩
  · by_cases two : source.pages.length = 2
    · have allowed := (allows_json_iff _).mpr two
      simp only [compile, Settings.validate_of_sendable sendable, allowed, Kind.logicPages,
        ← two, List.take_length, List.drop_length]
      simp only [← JsonResource.compile_eq_ok_iff, sendable, true_and]
      cases JsonResource.compile settings source.path source.pages [] <;>
        simp [Except.map, eq_comm]
    · have refused : Kind.json.allows source.pages.length = false := by
        rw [Bool.eq_false_iff, ne_eq, allows_json_iff]
        exact two
      simp [compile, Settings.validate_of_sendable sendable, refused, two]
  · have notSendable : ¬settings.Sendable := fun sendable => sendable.not_fault error fault
    simp [compile, Settings.validate_of_fault fault, notSendable]

/-! ## Any file -/

section Compiled

variable {kind : Kind} {source : Source} {registry : Registry} {settings : Settings}

/-- A file of a kind compiles to a resource of this kind. -/
theorem kind_of_compile {resource : Resource}
    (compiled : compile kind source registry settings = .ok resource) : resource.kind = kind := by
  cases kind with
  | json =>
      obtain ⟨-, -, json, rfl, -⟩ := (compile_json_eq_ok_iff ..).mp compiled
      rfl
  | negotiated =>
      obtain ⟨-, -, negotiated, rfl, -⟩ := (compile_negotiated_eq_ok_iff _).mp compiled
      rfl

theorem jsonDeclaredBy_of_compile {json : JsonResource}
    (compiled : compile kind source registry settings = .ok (.json json)) :
    source.pages.length = 2 ∧ json.DeclaredBy source settings := by
  obtain rfl := kind_of_compile compiled
  obtain ⟨-, two, other, same, declared⟩ := (compile_json_eq_ok_iff ..).mp compiled
  obtain rfl := Resource.json.inj same
  exact ⟨two, declared⟩

theorem declaredBy_of_compile {negotiated : NegotiatedResource}
    (compiled : compile kind source registry settings = .ok (.negotiated negotiated)) :
    3 ≤ source.pages.length ∧ DeclaredBy source registry settings negotiated := by
  obtain rfl := kind_of_compile compiled
  obtain ⟨-, enough, other, same, declared⟩ := (compile_negotiated_eq_ok_iff _).mp compiled
  obtain rfl := Resource.negotiated.inj same
  exact ⟨enough, declared⟩

/-- The first pages of the file are the logic, as many as the kind has. -/
theorem logicPages_of_compile {resource : Resource}
    (compiled : compile kind source registry settings = .ok resource) :
    resource.logicPages = source.pages.take kind.logicPages := by
  cases resource with
  | json json =>
      obtain rfl := kind_of_compile compiled
      obtain ⟨two, declared⟩ := jsonDeclaredBy_of_compile compiled
      rw [logicPages, declared.logicPages, kind, Kind.logicPages, ← two, List.take_length]
  | negotiated negotiated =>
      obtain rfl := kind_of_compile compiled
      obtain ⟨-, declared⟩ := declaredBy_of_compile compiled
      obtain ⟨logic, first, same⟩ := declared.logicPages
      obtain ⟨rest, cut⟩ := List.head?_eq_some_iff.mp first
      rw [logicPages, same, cut]
      rfl

theorem charset_of_compile {resource : Resource}
    (compiled : compile kind source registry settings = .ok resource) :
    resource.charset = settings.charset := by
  cases resource with
  | json json => exact (jsonDeclaredBy_of_compile compiled).2.charset
  | negotiated negotiated => exact (declaredBy_of_compile compiled).2.charset

end Compiled
end Resource

/-- What holds of every compiled resource. -/
structure NegotiatedResource.WellFormed (resource : NegotiatedResource) : Prop where
  declared : ∀ t ∈ resource.availableTypes, isMediaType t = true
  distinct : resource.availableTypes.Nodup
  choice : 2 ≤ resource.availableTypes.length
  bytes : ∀ page ∈ resource.pages, page.bareType.bytes = Utf8.encode page.mediaType

theorem NegotiatedResource.wellFormed_of_compile {kind : Kind} {source : Source}
    {registry : Registry} {settings : Settings} {resource : NegotiatedResource}
    (compiled : Resource.compile kind source registry settings = .ok (.negotiated resource)) :
    resource.WellFormed := by
  obtain ⟨enough, declared⟩ := Resource.declaredBy_of_compile compiled
  have count : resource.pages.length = source.pages.length - 1 := by
    rw [← declared.pages.length_eq, List.length_tail]
  have declares : ∀ page ∈ resource.pages, ∃ text,
      ContentPage.Declares registry settings.defaultRenderer source.path text page := by
    intro page mem
    obtain ⟨index, there⟩ := List.mem_iff_getElem?.mp mem
    obtain ⟨text, -, declares⟩ := declared.exists_text there
    exact ⟨text, declares⟩
  refine ⟨?_, declared.distinct, ?_, ?_⟩
  · intro t mem
    obtain ⟨page, here, rfl⟩ := List.mem_map.mp mem
    obtain ⟨text, page⟩ := declares _ here
    exact page.isMediaType
  · rw [NegotiatedResource.availableTypes, List.length_map]
    omega
  · intro page mem
    obtain ⟨text, page⟩ := declares page mem
    exact page.bytes

/-- The renderer found by its media type is that of the page with this media type. -/
theorem NegotiatedResource.rendererFor?_of_getElem? {resource : NegotiatedResource}
    (distinct : resource.availableTypes.Nodup) {index : Nat} {page : ContentPage}
    (here : resource.pages[index]? = some page) :
    resource.rendererFor? page.mediaType = some page.rendererName := by
  obtain ⟨before, after, cut⟩ := List.append_of_mem (List.mem_of_getElem? here)
  have found : resource.pages.find? (fun other => other.mediaType == page.mediaType) =
      some page := by
    rw [List.find?_eq_some_iff_append]
    refine ⟨beq_self_eq_true _, before, after, cut, ?_⟩
    intro other mem
    rw [NegotiatedResource.availableTypes, cut, List.map_append, List.nodup_append] at distinct
    have differs := distinct.2.2 other.mediaType (List.mem_map_of_mem mem) page.mediaType (by simp)
    simpa using differs
  rw [rendererFor?, found]
  rfl

/-- **A file compiles as a negotiated resource, or is refused for its first fault.**  It
compiles exactly when the settings can be sent, there are three pages or more, every page after
the first declares something, and the declared media types differ.  The resource then has the
first page for its logic, the media types of the others in their order and each once, and for
the media type of a page the renderer of that page.  Otherwise the error is that of the
settings, else of the number of pages, else of the first content page at fault. -/
theorem Resource.compile_negotiated_outcome (source : Source) (registry : Registry)
    (settings : Settings) :
    ((∃ resource, compile .negotiated source registry settings = .ok resource) ↔
      settings.Sendable ∧ 3 ≤ source.pages.length ∧
        ∃ pages, List.Forall₂
            (ContentPage.Declares registry settings.defaultRenderer source.path)
            source.pages.tail pages ∧
          (pages.map ContentPage.mediaType).Nodup) ∧
    (∀ resource, compile .negotiated source registry settings = .ok resource →
      ∃ negotiated, resource = .negotiated negotiated ∧
        DeclaredBy source registry settings negotiated ∧
        negotiated.availableTypes.length = source.pages.tail.length ∧
        ∀ (index : Nat) (text : Text), source.pages.tail[index]? = some text →
          ∃ page, ContentPage.Declares registry settings.defaultRenderer source.path text page ∧
            negotiated.availableTypes[index]? = some page.mediaType ∧
            negotiated.rendererFor? page.mediaType = some page.rendererName) ∧
    ∀ error, compile .negotiated source registry settings = .error error ↔
      Refusal source registry settings error := by
  refine ⟨?_, ?_, compile_negotiated_eq_error_iff⟩
  · simp only [compile_negotiated_eq_ok_iff]
    constructor
    · rintro ⟨resource, sendable, enough, negotiated, -, declared⟩
      exact ⟨sendable, enough, negotiated.pages, declared.pages, declared.distinct⟩
    · rintro ⟨sendable, enough, pages, declared, distinct⟩
      obtain ⟨negotiated, declaredBy⟩ := exists_declaredBy enough declared distinct
      exact ⟨_, sendable, enough, negotiated, rfl, declaredBy⟩
  · intro resource compiled
    obtain ⟨-, -, negotiated, rfl, declared⟩ := (compile_negotiated_eq_ok_iff resource).mp compiled
    refine ⟨negotiated, rfl, declared, ?_, ?_⟩
    · rw [NegotiatedResource.availableTypes, List.length_map, declared.pages.length_eq]
    · intro index text here
      obtain ⟨inTexts, rfl⟩ := List.getElem?_eq_some_iff.mp here
      have inPages : index < negotiated.pages.length := declared.pages.length_eq ▸ inTexts
      have page : negotiated.pages[index]? = some negotiated.pages[index] :=
        List.getElem?_eq_getElem inPages
      refine ⟨_, declared.pages.get inTexts inPages, ?_, ?_⟩
      · rw [NegotiatedResource.availableTypes, List.getElem?_map, page]
        rfl
      · exact NegotiatedResource.rendererFor?_of_getElem? declared.distinct page

/-- Two pages, one of which names its renderer; and a file whose last page repeats a type. -/
theorem Resource.compile_negotiated_outcome_raw :
    let registry := Registry.empty.register "raw" rawFactory
    let settings : Settings := { defaultRenderer := "raw" }
    let page : Text := "text/html\nb"
    (∃ negotiated,
      compile .negotiated ⟨"p", ["", "#!raw text/plain\na", page]⟩ registry settings =
        .ok (.negotiated negotiated) ∧ negotiated.availableTypes.length = 2) ∧
    Refusal ⟨"p", ["", page, page]⟩ registry settings (.duplicateMediaType "text/html") := by
  intro registry settings page
  obtain ⟨-, declared, -⟩ :=
    Resource.compile_negotiated_outcome ⟨"p", ["", "#!raw text/plain\na", page]⟩ registry settings
  obtain ⟨-, -, refused⟩ :=
    Resource.compile_negotiated_outcome ⟨"p", ["", page, page]⟩ registry settings
  refine ⟨?_, (refused _).mp rfl⟩
  obtain ⟨resource, compiled⟩ : ∃ resource,
      compile .negotiated ⟨"p", ["", "#!raw text/plain\na", page]⟩ registry settings =
        .ok resource := ⟨_, rfl⟩
  obtain ⟨negotiated, rfl, -, count, -⟩ := declared resource compiled
  exact ⟨negotiated, compiled, count⟩

end Multipage
