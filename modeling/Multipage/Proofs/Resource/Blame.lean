/-
# Multipage.Proofs.Resource.Blame -- whose fault it is that a file does not compile

A file is refused for what is written in it or for what its host has set up, and the category of
the error tells which.

* `Source.FitFor` is what every host asks of a file of a kind: the number of pages, a specline on
  each content page, and no media type twice.  It speaks of no registry and no settings.
* `Source.fitFor_of_compile`: a file that one host compiles is fit, whatever the renderers are.
* `CompileError.BlamesHost` lists what the host can have done: a setting, a renderer that is
  missing, a factory that refused a body.
* `Resource.category_of_compile`: an error is structural exactly when the file is at fault, and
  of configuration exactly when the host is.

So an error that blames the file comes back from every host, though it may be another one: an
earlier page can fail for a reason of that host (`Resource.compile_blames`).
-/
import Multipage.Proofs.Resource.Compilation

namespace Multipage

set_option autoImplicit false

/-! ## What a page says to every host -/

namespace ContentPage

/-- The first line of the page is a specline that asks for the renderer `name` and declares
`mediaType`.  A line of one word asks for `fallback`. -/
def Asks (fallback text name mediaType : Text) : Prop :=
  ∃ line body, Parts text line body ∧ Specline.Reads fallback line ⟨name, mediaType⟩

theorem Asks.ofText_split {fallback text name mediaType : Text}
    (asks : Asks fallback text name mediaType) :
    Specline.ofText fallback (split text).1 = .ok ⟨name, mediaType⟩ := by
  obtain ⟨line, body, parts, reads⟩ := asks
  rw [split_of_parts parts]
  exact Specline.ofText_of_reads reads

/-- The page declares `mediaType`, whichever the fallback renderer is. -/
def Offers (text mediaType : Text) : Prop := ∃ fallback name, Asks fallback text name mediaType

variable {registry : Registry} {fallback path text : Text} {page : ContentPage}

theorem Declares.offers (declares : Declares registry fallback path text page) :
    Offers text page.mediaType := by
  cases declares with
  | intro parts reads registered made bytes => exact ⟨fallback, _, _, _, parts, reads⟩

/-- A page has one specline. -/
theorem Parts.line_unique {line body other otherBody : Text} (parts : Parts text line body)
    (otherParts : Parts text other otherBody) : line = other :=
  congrArg Prod.fst ((split_of_parts parts).symm.trans (split_of_parts otherParts))

/-- What a page is declared to be does not depend on the fallback renderer. -/
theorem Offers.eq_of_declares {mediaType : Text} (offers : Offers text mediaType)
    (declares : Declares registry fallback path text page) : mediaType = page.mediaType := by
  obtain ⟨otherFallback, name, line, body, parts, reads⟩ := offers
  cases declares with
  | intro pageParts pageReads registered made bytes =>
      obtain rfl := parts.line_unique pageParts
      exact Option.some.inj (reads.getLast?_words.symm.trans pageReads.getLast?_words)

/-- A page whose first line is at fault offers nothing. -/
theorem Offers.not_fault {mediaType line body : Text} {error : CompileError}
    (offers : Offers text mediaType) (parts : Parts text line body) :
    ¬Specline.Fault line error := by
  obtain ⟨otherFallback, name, other, otherBody, otherParts, reads⟩ := offers
  obtain rfl := parts.line_unique otherParts
  intro fault
  have both := (Specline.ofText_of_reads reads).symm.trans (Specline.ofText_of_fault fault)
  simp at both

/-- Of pages that are declared to be of different media types no two offer the same. -/
theorem pairwise_of_declares {texts : List Text} {pages : List ContentPage}
    (declared : List.Forall₂ (Declares registry fallback path) texts pages)
    (distinct : (pages.map mediaType).Nodup) :
    texts.Pairwise fun earlier later =>
      ∀ mediaType, Offers earlier mediaType → ¬Offers later mediaType := by
  induction declared with
  | nil => exact .nil
  | @cons text page texts pages declares later ih =>
      rw [List.map_cons, List.nodup_cons] at distinct
      refine .cons ?_ (ih distinct.2)
      intro other mem mediaType offers again
      obtain ⟨index, inTexts, rfl⟩ := List.getElem_of_mem mem
      have inPages : index < pages.length := later.length_eq ▸ inTexts
      have same : page.mediaType = pages[index].mediaType :=
        (offers.eq_of_declares declares).symm.trans
          (again.eq_of_declares (later.get inTexts inPages))
      exact distinct.1 (same ▸ List.mem_map_of_mem (List.getElem_mem inPages))

theorem Offers.lineEnd_mem {mediaType : Text} (offers : Offers text mediaType) : '\n' ∈ text := by
  obtain ⟨_, _, _, _, ⟨first, rfl, -, -⟩, -⟩ := offers
  simp

end ContentPage

/-- The pages after the logic pages. -/
def Source.contentPages (kind : Kind) (source : Source) : List Text :=
  source.pages.drop kind.logicPages

/-- What every host asks of a file: as many pages as the kind has, a media type on every content
page, and no media type on two of them. -/
structure Source.FitFor (kind : Kind) (source : Source) : Prop where
  count : kind.allows source.pages.length = true
  offers : ∀ text ∈ source.contentPages kind, ∃ mediaType, ContentPage.Offers text mediaType
  distinct : (source.contentPages kind).Pairwise fun earlier later =>
    ∀ mediaType, ContentPage.Offers earlier mediaType → ¬ContentPage.Offers later mediaType

/-! ## What a host can have done -/

/-- `name` is registered, and its factory takes every body. -/
def Registry.Takes (registry : Registry) (name : Text) : Prop :=
  ∃ factory, registry.get? name = some factory ∧
    ∀ location body, ∃ render, factory location body = .ok render

/-- The error lies in a setting, in a renderer that a content page asks for and that is not
registered, or in a factory that refuses the body of such a page. -/
inductive CompileError.BlamesHost (kind : Kind) (source : Source) (registry : Registry)
    (settings : Settings) : CompileError → Prop where
  | setting {error : CompileError} (fault : settings.Fault error) :
      BlamesHost kind source registry settings error
  | unregistered {text name mediaType : Text} (mem : text ∈ source.contentPages kind)
      (asks : ContentPage.Asks settings.defaultRenderer text name mediaType)
      (unknown : registry.get? name = none) :
      BlamesHost kind source registry settings (.unknownRenderer mediaType name)
  | factory {text line body : Text} {specline : Specline} {factory : RendererFactory}
      {error : RenderError} (mem : text ∈ source.contentPages kind)
      (parts : ContentPage.Parts text line body)
      (reads : Specline.Reads settings.defaultRenderer line specline)
      (registered : registry.get? specline.renderer = some factory)
      (refused : factory source.path body = .error error) :
      BlamesHost kind source registry settings
        (.renderer specline.mediaType specline.renderer error)

theorem Settings.Fault.category {settings : Settings} {error : CompileError}
    (fault : settings.Fault error) : error.category = .configuration := by
  cases fault <;> rfl

theorem Specline.Fault.category {line : Text} {error : CompileError}
    (fault : Specline.Fault line error) : error.category = .structural := by
  cases fault <;> rfl

theorem CompileError.BlamesHost.category {kind : Kind} {source : Source} {registry : Registry}
    {settings : Settings} {error : CompileError}
    (blames : BlamesHost kind source registry settings error) :
    error.category = .configuration := by
  cases blames with
  | setting fault => exact fault.category
  | unregistered => rfl
  | factory => rfl

/-- Settings that are valid and renderers that take everything leave the host without blame. -/
theorem CompileError.BlamesHost.not_of_takes {kind : Kind} {source : Source}
    {registry : Registry} {settings : Settings} {error : CompileError}
    (valid : settings.validate = .ok ())
    (takes : ∀ text ∈ source.contentPages kind, ∀ name mediaType,
      ContentPage.Asks settings.defaultRenderer text name mediaType → registry.Takes name) :
    ¬BlamesHost kind source registry settings error := by
  intro blames
  cases blames with
  | setting fault => simp [Settings.validate_of_fault fault] at valid
  | unregistered mem asks unknown =>
      obtain ⟨factory, registered, -⟩ := takes _ mem _ _ asks
      simp [unknown] at registered
  | @factory text line body specline _ _ mem parts reads registered refused =>
      obtain ⟨factory, found, all⟩ :=
        takes text mem specline.renderer specline.mediaType ⟨line, body, parts, reads⟩
      obtain rfl := Option.some.inj (registered.symm.trans found)
      obtain ⟨render, made⟩ := all source.path body
      simp [refused] at made

/-! ## Either kind, one list of causes -/

namespace Resource

variable {kind : Kind} {source : Source} {registry : Registry} {settings : Settings}

/-- A file that compiles has the pages of its kind, and each content page declares a media type
of its own. -/
theorem declares_of_compile {resource : Resource}
    (compiled : compile kind source registry settings = .ok resource) :
    kind.allows source.pages.length = true ∧
      ∃ pages, List.Forall₂
          (ContentPage.Declares registry settings.defaultRenderer source.path)
          (source.contentPages kind) pages ∧
        (pages.map ContentPage.mediaType).Nodup := by
  cases kind with
  | json =>
      obtain ⟨-, two, -⟩ := (compile_json_eq_ok_iff ..).mp compiled
      have none : source.contentPages .json = [] := by
        rw [Source.contentPages, List.drop_eq_nil_iff, two, Kind.logicPages]
      rw [none]
      exact ⟨(allows_json_iff _).mpr two, [], .nil, List.nodup_nil⟩
  | negotiated =>
      obtain ⟨-, enough, negotiated, -, declared⟩ := (compile_negotiated_eq_ok_iff _).mp compiled
      refine ⟨(allows_negotiated_iff _).mpr enough, negotiated.pages, ?_, declared.distinct⟩
      rw [Source.contentPages, Kind.logicPages, List.drop_one]
      exact declared.pages

/-- Two logic pages and settings that can be sent are a JSON resource, whatever is registered. -/
theorem exists_compile_json (registry : Registry) (sendable : settings.Sendable)
    (two : source.pages.length = 2) :
    ∃ resource, compile .json source registry settings = .ok resource := by
  obtain ⟨jsonType, -, jsonBytes⟩ := HeaderValue.exists_of_isMediaType sendable.jsonType
  obtain ⟨jsonpType, -, jsonpBytes⟩ := HeaderValue.exists_of_isMediaType sendable.jsonpType
  let json : JsonResource :=
    { path := source.path, logicPages := source.pages, charset := settings.charset
      mediaType := settings.jsonType, jsonType, jsonpType }
  exact ⟨.json json, (compile_json_eq_ok_iff ..).mpr
    ⟨sendable, two, json, rfl, rfl, rfl, rfl, rfl, jsonBytes, jsonpBytes⟩⟩

/-- The causes of a refusal: the settings, the number of pages, the first content page at
fault. -/
theorem causes_of_compile {error : CompileError}
    (refused : compile kind source registry settings = .error error) :
    settings.Fault error ∨
      (kind.allows source.pages.length = false ∧
        error = .pageCount source.path source.pages.length kind.expectedPages) ∨
      ContentPage.FirstFault registry settings.defaultRenderer source.path []
        (source.contentPages kind) error := by
  rcases settings.sendable_or_fault with sendable | ⟨other, fault⟩
  · cases allowed : kind.allows source.pages.length with
    | false =>
        rw [compile, Settings.validate_of_sendable sendable] at refused
        simp only [allowed, Bool.not_false, ↓reduceIte, Except.error.injEq] at refused
        exact .inr (.inl ⟨rfl, refused.symm⟩)
    | true =>
        cases kind with
        | json =>
            -- two logic pages are all that a JSON file needs
            obtain ⟨resource, compiled⟩ :=
              exists_compile_json registry sendable ((allows_json_iff _).mp allowed)
            simp [compiled] at refused
        | negotiated =>
            cases (compile_negotiated_eq_error_iff _).mp refused with
            | settings fault => exact .inl fault
            | pageCount _ few =>
                have enough := (allows_negotiated_iff _).mp allowed
                omega
            | page _ _ fault =>
                rw [← List.drop_one] at fault
                exact .inr (.inr fault)
  · have same : compile kind source registry settings = .error other := by
      rw [compile, Settings.validate_of_fault fault]
    obtain rfl := Except.error.inj (same.symm.trans refused)
    exact .inl fault

/-- A file that some host compiles is fit. -/
theorem fitFor_of_compile {resource : Resource}
    (compiled : compile kind source registry settings = .ok resource) : source.FitFor kind := by
  obtain ⟨count, pages, declared, distinct⟩ := declares_of_compile compiled
  refine ⟨count, ?_, ?_⟩
  · intro text mem
    obtain ⟨index, inTexts, rfl⟩ := List.getElem_of_mem mem
    exact ⟨_, (declared.get inTexts (declared.length_eq ▸ inTexts)).offers⟩
  · exact ContentPage.pairwise_of_declares declared distinct

/-- The error of a page, seen from the file: the file is not fit, or the host is to blame. -/
theorem unfit_or_blamesHost {error : CompileError}
    (fault : ContentPage.FirstFault registry settings.defaultRenderer source.path []
      (source.contentPages kind) error) :
    (error.category = .structural ∧ ¬source.FitFor kind) ∨
      error.BlamesHost kind source registry settings := by
  obtain ⟨before, text, after, pages, cut, declared, -, fault⟩ := fault
  have mem : text ∈ source.contentPages kind := by simp [cut]
  cases fault with
  | noLineEnd single =>
      refine .inl ⟨rfl, fun fit => ?_⟩
      obtain ⟨mediaType, offers⟩ := fit.offers text mem
      exact single offers.lineEnd_mem
  | specline parts fault =>
      refine .inl ⟨fault.category, fun fit => ?_⟩
      obtain ⟨mediaType, offers⟩ := fit.offers text mem
      exact offers.not_fault parts fault
  | unknownRenderer parts reads unknown =>
      exact .inr (.unregistered mem ⟨_, _, parts, reads⟩ unknown)
  | renderer parts reads registered refused =>
      exact .inr (.factory mem parts reads registered refused)
  | @duplicate page declares taken =>
      refine .inl ⟨rfl, fun fit => ?_⟩
      obtain ⟨other, inPages, same⟩ := List.mem_map.mp taken
      obtain ⟨index, bound, rfl⟩ := List.getElem_of_mem inPages
      have inBefore : index < before.length := declared.length_eq ▸ bound
      have distinct := fit.distinct
      rw [cut, List.pairwise_append] at distinct
      refine distinct.2.2 before[index] (List.getElem_mem inBefore) text (by simp)
        page.mediaType ?_ declares.offers
      exact same ▸ (declared.get inBefore bound).offers

/-- A structural error is the fault of the file, any other that of the host. -/
theorem category_of_compile {error : CompileError}
    (refused : compile kind source registry settings = .error error) :
    (error.category = .structural ∧ ¬source.FitFor kind) ∨
      error.BlamesHost kind source registry settings := by
  rcases causes_of_compile refused with fault | ⟨wrongCount, rfl⟩ | fault
  · exact .inr (.setting fault)
  · refine .inl ⟨rfl, fun fit => ?_⟩
    simp [fit.count] at wrongCount
  · exact unfit_or_blamesHost fault

/-- **A structural error is the file's own fault, and any other error the host's.**  A file that
is refused with a structural error by one host is refused by every host.  A host with valid
settings, whose registry has every renderer that the content pages ask for (the fallback renderer
among them when a page names none) with factories that take every body, compiles the file or
refuses it with a structural error.  An error of configuration names a setting, a renderer that
is missing, or a factory that refused a page. -/
theorem compile_blames (kind : Kind) (source : Source) :
    ((∃ registry settings error, compile kind source registry settings = .error error ∧
        error.category = .structural) →
      ∀ registry settings, ∃ error, compile kind source registry settings = .error error) ∧
    (∀ registry settings, settings.validate = .ok () →
      (∀ text ∈ source.contentPages kind, ∀ name mediaType,
        ContentPage.Asks settings.defaultRenderer text name mediaType → registry.Takes name) →
      (∃ resource, compile kind source registry settings = .ok resource) ∨
        ∃ error, compile kind source registry settings = .error error ∧
          error.category = .structural) ∧
    ∀ registry settings error, compile kind source registry settings = .error error →
      (error.category = .configuration ↔ error.BlamesHost kind source registry settings) := by
  refine ⟨?_, ?_, ?_⟩
  · rintro ⟨registry, settings, error, refused, structural⟩ otherRegistry otherSettings
    have unfit : ¬source.FitFor kind := by
      rcases category_of_compile refused with ⟨-, unfit⟩ | blames
      · exact unfit
      · simp [blames.category] at structural
    cases compiled : compile kind source otherRegistry otherSettings with
    | error other => exact ⟨other, rfl⟩
    | ok resource => exact absurd (fitFor_of_compile compiled) unfit
  · intro registry settings valid takes
    cases compiled : compile kind source registry settings with
    | ok resource => exact .inl ⟨resource, rfl⟩
    | error error =>
        rcases category_of_compile compiled with ⟨structural, -⟩ | blames
        · exact .inr ⟨error, rfl, structural⟩
        · exact absurd blames (CompileError.BlamesHost.not_of_takes valid takes)
  · intro registry settings error refused
    refine ⟨fun configuration => ?_, fun blames => blames.category⟩
    rcases category_of_compile refused with ⟨structural, -⟩ | blames
    · simp [structural] at configuration
    · exact blames

/-- A file with one media type twice is refused by every host; with two, it is not refused by a
host that renders pages as they are; and one without any renderer is to blame for refusing it. -/
theorem compile_blames_each :
    let html : Text := "text/html\nb"
    let twice : Source := ⟨"p", ["", html, html]⟩
    let fit : Source := ⟨"p", ["", html, "#!raw text/plain\na"]⟩
    let settings : Settings := { defaultRenderer := "raw" }
    (∀ registry settings, ∃ error, compile .negotiated twice registry settings = .error error) ∧
    ((∃ resource, compile .negotiated fit (Registry.empty.register "raw" rawFactory) settings =
        .ok resource) ∨
      ∃ error, compile .negotiated fit (Registry.empty.register "raw" rawFactory) settings =
          .error error ∧ error.category = .structural) ∧
    (CompileError.unknownRenderer "text/html" "raw").BlamesHost .negotiated fit .empty
      settings := by
  intro html twice fit settings
  obtain ⟨everywhere, -, -⟩ := compile_blames .negotiated twice
  obtain ⟨-, taken, blamed⟩ := compile_blames .negotiated fit
  refine ⟨everywhere ⟨Registry.empty.register "raw" rawFactory, settings,
    .duplicateMediaType "text/html", rfl, rfl⟩, taken _ settings rfl ?_,
    (blamed .empty settings _ rfl).mp rfl⟩
  have takes : (Registry.empty.register "raw" rawFactory).Takes "raw" :=
    ⟨rawFactory, rfl, fun _ body => ⟨fun _ => .ok body, rfl⟩⟩
  intro text mem name mediaType asks
  have reads := asks.ofText_split
  have pages : fit.contentPages .negotiated = [html, "#!raw text/plain\na".toList] := rfl
  rw [pages, List.mem_cons, List.mem_singleton] at mem
  rcases mem with rfl | rfl
  · have first : Specline.ofText "raw" (ContentPage.split html).1 =
        .ok ⟨"raw", "text/html"⟩ := rfl
    cases first.symm.trans reads
    exact takes
  · have second : Specline.ofText "raw" (ContentPage.split "#!raw text/plain\na".toList).1 =
        .ok ⟨"raw", "text/plain"⟩ := rfl
    cases second.symm.trans reads
    exact takes

end Resource
end Multipage
