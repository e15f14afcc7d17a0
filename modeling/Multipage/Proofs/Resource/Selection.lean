/-
# Multipage.Proofs.Resource.Selection -- the page that serves a request

What a request accepts is said by its parts (`Request.Accepts`): the media type known for the
path extension, else the first Accept field when it is not blank, else nothing.  Which
extensions are known is any function.

* `Request.acceptOf_eq_iff_accepts`: what is looked up for a request is what its parts say;
* `NegotiatedResource.select_eq_iff_selects`: the choice of a compiled resource is the one
  by classes of ranges (`Selects`), for every request, whichever extensions are known;
* `NegotiatedResource.select_acceptsOnly_iff`: a request that accepts one declared type is
  served by the first page whose type is the same but for the case of letters;
* `NegotiatedResource.serves_each_iff`: so every page is served to a request for its own type
  exactly when no two types differ in case alone.  Compiling compares the types letter by
  letter and lets such a pair through (`NegotiatedResource.hidden_page`).
-/
import Multipage.Proofs.Http.Uri
import Multipage.Proofs.Media.Precedence
import Multipage.Proofs.Resource.Compilation
import Multipage.Proofs.Text.Lossy

namespace Multipage

set_option autoImplicit false

/-! ## What a request accepts -/

/-- The first field of a name is the first of its values. -/
theorem Headers.get?_eq_head?_getAll (headers : Headers) (name : HeaderName) :
    headers.get? name = (headers.getAll name).head? := by
  rw [get?, getAll, List.head?_map, List.head?_filter]

namespace Request

/-- `accept` is what the request accepts, if anything. -/
inductive Accepts (known : Text → Option Text) (request : Request) : Option Text → Prop where
  | extension {extension t : Text} (path : request.uri.HasExtension extension)
      (knows : known extension = some t) : Accepts known request (some t)
  | header {value : HeaderValue} {more : List HeaderValue}
      (unknown : ∀ extension, request.uri.HasExtension extension → known extension = none)
      (first : request.headers.getAll .accept = value :: more)
      (solid : ∃ c ∈ Utf8.decodeLossy value.bytes, Text.isBlank c = false) :
      Accepts known request (some (Utf8.decodeLossy value.bytes))
  | nothing
      (unknown : ∀ extension, request.uri.HasExtension extension → known extension = none)
      (blank : ∀ value more, request.headers.getAll .accept = value :: more →
        ∀ c ∈ Utf8.decodeLossy value.bytes, Text.isBlank c = true) :
      Accepts known request none

section Accepts

variable {known : Text → Option Text} {request : Request}

theorem accept?_of_solid {value : HeaderValue} {more : List HeaderValue}
    (first : request.headers.getAll .accept = value :: more)
    (solid : ∃ c ∈ Utf8.decodeLossy value.bytes, Text.isBlank c = false) :
    request.accept? = some (Utf8.decodeLossy value.bytes) := by
  have kept : Text.trim (Utf8.decodeLossy value.bytes) ≠ [] := by
    rw [Text.trim, ne_eq, Text.trimBy_eq_nil_iff]
    simpa using solid
  simp [accept?, Headers.get?_eq_head?_getAll, first, Option.filter, kept]

theorem accept?_of_blank
    (blank : ∀ value more, request.headers.getAll .accept = value :: more →
      ∀ c ∈ Utf8.decodeLossy value.bytes, Text.isBlank c = true) :
    request.accept? = none := by
  rw [accept?, Headers.get?_eq_head?_getAll]
  cases fields : request.headers.getAll .accept with
  | nil => rfl
  | cons value more =>
      have dropped : Text.trim (Utf8.decodeLossy value.bytes) = [] :=
        (Text.trimBy_eq_nil_iff ..).mpr (blank value more fields)
      simp [Option.filter, dropped]

theorem bind_extension?_eq_some_iff (known : Text → Option Text) (request : Request) (t : Text) :
    request.uri.extension?.bind known = some t ↔
      ∃ extension, request.uri.HasExtension extension ∧ known extension = some t := by
  simp only [Option.bind_eq_some_iff, Uri.extension?_eq_some_iff]

theorem bind_extension?_eq_none_iff (known : Text → Option Text) (request : Request) :
    request.uri.extension?.bind known = none ↔
      ∀ extension, request.uri.HasExtension extension → known extension = none := by
  simp only [Option.bind_eq_none_iff, Uri.extension?_eq_some_iff]

theorem acceptOf_of_accepts {accept : Option Text} (accepts : request.Accepts known accept) :
    NegotiatedResource.acceptOf known request = accept := by
  rw [NegotiatedResource.acceptOf]
  cases accepts with
  | extension path knows =>
      rw [(bind_extension?_eq_some_iff ..).mpr ⟨_, path, knows⟩, Option.some_or]
  | header unknown first solid =>
      rw [(bind_extension?_eq_none_iff ..).mpr unknown, Option.none_or,
        accept?_of_solid first solid]
  | nothing unknown blank =>
      rw [(bind_extension?_eq_none_iff ..).mpr unknown, Option.none_or, accept?_of_blank blank]

variable (known request) in
theorem exists_accepts : ∃ accept, request.Accepts known accept := by
  cases found : request.uri.extension?.bind known with
  | some t =>
      obtain ⟨extension, path, knows⟩ := (bind_extension?_eq_some_iff ..).mp found
      exact ⟨_, .extension path knows⟩
  | none =>
      have unknown := (bind_extension?_eq_none_iff ..).mp found
      by_cases solid : ∃ value more, request.headers.getAll .accept = value :: more ∧
          ∃ c ∈ Utf8.decodeLossy value.bytes, Text.isBlank c = false
      · obtain ⟨value, more, first, solid⟩ := solid
        exact ⟨_, .header unknown first solid⟩
      · refine ⟨none, .nothing unknown fun value more first c mem => ?_⟩
        by_contra notBlank
        exact solid ⟨value, more, first, c, mem, Bool.eq_false_iff.mpr notBlank⟩

/-- What a request accepts is what its parts say. -/
theorem acceptOf_eq_iff_accepts (accept : Option Text) :
    NegotiatedResource.acceptOf known request = accept ↔ request.Accepts known accept := by
  obtain ⟨other, accepts⟩ := exists_accepts known request
  constructor
  · rintro rfl
    rwa [acceptOf_of_accepts accepts]
  · exact acceptOf_of_accepts

end Accepts
end Request

/-! ## The choice for a request -/

namespace NegotiatedResource

/-- The answer to a request, by what it accepts: the first page when it accepts anything, else
the preferred page by the classes of the ranges, and no page when every type is refused. -/
inductive Selects (known : Text → Option Text) (resource : NegotiatedResource)
    (request : Request) : Except NotAcceptable Nat → Prop where
  | first (accepts : request.Accepts known none) : Selects known resource request (.ok 0)
  | preferred {accept : Text} {index : Nat} (accepts : request.Accepts known (some accept))
      (preferred :
        PreferredAt resource.availableTypes (MediaRange.listOfAccept accept) index) :
      Selects known resource request (.ok index)
  | refused {accept : Text} (accepts : request.Accepts known (some accept))
      (refused : ∀ t ∈ resource.availableTypes, Refused (MediaRange.listOfAccept accept) t) :
      Selects known resource request (.error ⟨resource.availableTypes⟩)

section Selects

variable {known : Text → Option Text} {resource : NegotiatedResource} {request : Request}

theorem Selects.index_lt (wellFormed : resource.WellFormed) {index : Nat}
    (selects : resource.Selects known request (.ok index)) :
    index < resource.availableTypes.length := by
  cases selects with
  | first => exact lt_of_lt_of_le Nat.zero_lt_two wellFormed.choice
  | preferred accepts preferred =>
      obtain ⟨_, _, ⟨_, _, here, -⟩, -⟩ := preferred
      exact (List.getElem?_eq_some_iff.mp here).1

theorem select_of_selects (wellFormed : resource.WellFormed)
    {answer : Except NotAcceptable Nat} (selects : resource.Selects known request answer) :
    resource.select known request = answer := by
  cases selects with
  | first accepts =>
      have nonempty : resource.availableTypes ≠ [] := by
        intro empty
        simpa [empty] using wellFormed.choice
      simp [select, Request.acceptOf_of_accepts accepts, negotiate, nonempty]
  | preferred accepts preferred =>
      rw [select, Request.acceptOf_of_accepts accepts, negotiate_eq_ok_iff,
        chosenAt_iff_preferredAt wellFormed.declared]
      exact preferred
  | refused accepts refused =>
      rw [select, Request.acceptOf_of_accepts accepts, negotiate_eq_error_iff,
        unacceptable_iff_refused wellFormed.declared]
      exact ⟨rfl, refused⟩

variable (known request) in
/-- The classes give an answer to every request. -/
theorem exists_selects (wellFormed : resource.WellFormed) :
    ∃ answer, resource.Selects known request answer := by
  obtain ⟨_ | accept, accepts⟩ := Request.exists_accepts known request
  · exact ⟨_, .first accepts⟩
  · cases choice : negotiate resource.availableTypes (some accept) with
    | error error =>
        have unacceptable := ((negotiate_eq_error_iff ..).mp choice).2
        exact ⟨_, .refused accepts
          ((unacceptable_iff_refused wellFormed.declared accept).mp unacceptable)⟩
    | ok index =>
        have chosen := (negotiate_eq_ok_iff ..).mp choice
        exact ⟨_, .preferred accepts
          ((chosenAt_iff_preferredAt wellFormed.declared accept index).mp chosen)⟩

/-- **The choice of a compiled resource is the choice by classes.**  For every request, whichever
extensions are known, the answer is the one that `Selects` gives, which is one and only one, and a
page that is chosen is there.  A lone star in a header reads as two. -/
theorem select_eq_iff_selects {kind : Kind} {source : Source} {registry : Registry}
    {settings : Settings}
    (compiled : Resource.compile kind source registry settings = .ok (.negotiated resource))
    (known : Text → Option Text) (request : Request) :
    (∀ answer, resource.select known request = answer ↔
      resource.Selects known request answer) ∧
    (∀ index, resource.select known request = .ok index → index < resource.pages.length) ∧
    ∀ parameters, parameters = [] ∨ parameters.head? = some ';' →
      MediaRange.ofText? ('*' :: parameters) = MediaRange.ofText? ("*/*".toList ++ parameters) := by
  have wellFormed := wellFormed_of_compile compiled
  have agrees : ∀ answer, resource.select known request = answer ↔
      resource.Selects known request answer := by
    intro answer
    constructor
    · rintro rfl
      obtain ⟨other, selects⟩ := exists_selects known request wellFormed
      rwa [select_of_selects wellFormed selects]
    · exact select_of_selects wellFormed
  refine ⟨agrees, fun index chosen => ?_, MediaRange.ofText?_lone_star⟩
  have inTypes := ((agrees _).mp chosen).index_lt wellFormed
  rwa [availableTypes, List.length_map] at inTypes

/-- The first type is refused by name, and two stars and one star admit the second.  On a path with
a known extension the same header does not count, and the first type is served. -/
theorem select_eq_iff_selects_stars :
    let source : Source := ⟨"p", ["", "text/html\na", "text/plain\nb"]⟩
    let registry := Registry.empty.register "raw" rawFactory
    let settings : Settings := { defaultRenderer := "raw" }
    let accept : Text := "text/html;q=0, */*;q=0.1, text/*;q=0.5"
    let value : HeaderValue := ⟨Utf8.encode accept, by decide⟩
    let known : Text → Option Text :=
      fun extension => if extension = "html".toList then some "text/html" else none
    let request : Request := { headers := [(.accept, value)] }
    let named : Request := { request with uri := ⟨"/a.b/x.tar.html", none⟩ }
    ∃ resource,
      Resource.compile .negotiated source registry settings = .ok (.negotiated resource) ∧
        resource.Selects known request (.ok 1) ∧ 1 < resource.pages.length ∧
        named.uri.HasExtension "html" ∧ resource.Selects known named (.ok 0) := by
  intro source registry settings accept value known request named
  obtain ⟨resource, compiled, types⟩ : ∃ resource,
      Resource.compile .negotiated source registry settings = .ok (.negotiated resource) ∧
        resource.availableTypes = ["text/html".toList, "text/plain".toList] := ⟨_, rfl, rfl⟩
  obtain ⟨agrees, there, -⟩ := select_eq_iff_selects compiled known request
  have decoded : Utf8.decodeLossy value.bytes = accept := Utf8.decodeLossy_encode accept
  have accepts : request.Accepts known (some (Utf8.decodeLossy value.bytes)) :=
    .header (fun extension path => absurd path (Uri.root_not_hasExtension extension)) rfl
      ⟨'t', by rw [decoded]; decide, by decide⟩
  have chosen : resource.select known request = .ok 1 := by
    rw [select, Request.acceptOf_of_accepts accepts, types, decoded]
    decide +kernel
  have start : ∀ c ∈ "/a.b/".toList.getLast?, c = '/' := by
    rintro _ ⟨⟩
    rfl
  have hasExtension : named.uri.HasExtension "html" :=
    .intro "/a.b/" "x.tar" rfl start (by decide) (by decide) (by decide) (by decide)
  have byExtension : named.Accepts known (some "text/html") := .extension hasExtension rfl
  obtain ⟨namedAgrees, -, -⟩ := select_eq_iff_selects compiled known named
  have overridden : resource.select known named = .ok 0 := by
    rw [select, Request.acceptOf_of_accepts byExtension, types]
    decide +kernel
  exact ⟨resource, compiled, (agrees _).mp chosen, there _ chosen, hasExtension,
    (namedAgrees _).mp overridden⟩

end Selects
end NegotiatedResource

/-! ## Requests for a declared type -/

/-- The request has no path extension, and its one Accept field is the text `t`. -/
structure Request.AcceptsOnly (request : Request) (t : Text) : Prop where
  noExtension : ∀ extension, ¬request.uri.HasExtension extension
  field : ∃ value, request.headers.getAll .accept = [value] ∧ value.bytes = Utf8.encode t

theorem Request.AcceptsOnly.accepts {known : Text → Option Text} {request : Request}
    {t type subtype : Text} (only : request.AcceptsOnly t) (halves : Halves t type subtype) :
    request.Accepts known (some t) := by
  obtain ⟨value, field, bytes⟩ := only.field
  have decoded : Utf8.decodeLossy value.bytes = t := by
    rw [bytes, Utf8.decodeLossy_encode]
  have solid : ∃ c ∈ Utf8.decodeLossy value.bytes, Text.isBlank c = false := by
    rw [decoded]
    exact ⟨'/', by simp [halves.text], by decide⟩
  rw [← decoded]
  exact .header (fun extension path => absurd path (only.noExtension extension)) field solid

namespace NegotiatedResource

section OwnType

variable {resource : NegotiatedResource} (wellFormed : resource.WellFormed)

include wellFormed

/-- A request for a declared type is served by the first page whose type is alike. -/
theorem select_acceptsOnly_iff (known : Text → Option Text) {request : Request} {t : Text}
    (mem : t ∈ resource.availableTypes) (only : request.AcceptsOnly t) (served : Nat) :
    resource.select known request = .ok served ↔ FirstAlike resource.availableTypes t served := by
  obtain ⟨type, subtype, halves⟩ := (isMediaType_iff t).mp (wellFormed.declared t mem)
  have accepts : request.Accepts known (some t) := only.accepts halves
  rw [select, Request.acceptOf_of_accepts accepts, negotiate_eq_ok_iff,
    chosenAt_iff_preferredAt wellFormed.declared, MediaRange.listOfAccept_of_halves halves,
    preferredAt_plain_iff halves wellFormed.declared]

/-- There is a request for every declared type. -/
theorem exists_acceptsOnly {t : Text} (mem : t ∈ resource.availableTypes) :
    ∃ request : Request, request.AcceptsOnly t := by
  obtain ⟨value, -, bytes⟩ := HeaderValue.exists_of_isMediaType (wellFormed.declared t mem)
  exact ⟨{ headers := [(.accept, value)] }, Uri.root_not_hasExtension, value, rfl, bytes⟩

end OwnType

/-- **A page is served to a request for its own type when no earlier type is alike.**  Otherwise
an earlier page is served to it.  So every page is served to every request for its own type
exactly when no two declared types differ in the case of letters alone. -/
theorem serves_each_iff {kind : Kind} {source : Source} {registry : Registry}
    {settings : Settings} {resource : NegotiatedResource}
    (compiled : Resource.compile kind source registry settings = .ok (.negotiated resource))
    (known : Text → Option Text) :
    (∀ (index : Nat) (t : Text) (request : Request),
      resource.availableTypes[index]? = some t → request.AcceptsOnly t →
        (resource.select known request = .ok index ↔
          ∀ j < index, ∀ u, resource.availableTypes[j]? = some u →
            Text.eqIgnoringCase t u = false) ∧
        ∃ first ≤ index, resource.select known request = .ok first) ∧
    ((∀ (index : Nat) (t : Text) (request : Request),
        resource.availableTypes[index]? = some t → request.AcceptsOnly t →
          resource.select known request = .ok index) ↔
      resource.availableTypes.Pairwise fun t u => Text.eqIgnoringCase t u = false) := by
  have wellFormed := wellFormed_of_compile compiled
  have own : ∀ (index : Nat) (t : Text) (request : Request),
      resource.availableTypes[index]? = some t → request.AcceptsOnly t →
        (resource.select known request = .ok index ↔
          ∀ j < index, ∀ u, resource.availableTypes[j]? = some u →
            Text.eqIgnoringCase t u = false) := by
    intro index t request here only
    rw [select_acceptsOnly_iff wellFormed known (List.mem_of_getElem? here) only]
    constructor
    · rintro ⟨_, -, -, first⟩
      exact first
    · exact fun first => ⟨t, here, Text.eqIgnoringCase_refl t, first⟩
  refine ⟨fun index t request here only => ⟨own index t request here only, ?_⟩, ?_⟩
  · obtain ⟨first, early, alike⟩ := exists_firstAlike here
    exact ⟨first, early,
      (select_acceptsOnly_iff wellFormed known (List.mem_of_getElem? here) only first).mpr alike⟩
  · rw [List.pairwise_iff_getElem]
    constructor
    · intro served i j inFirst inSecond early
      obtain ⟨request, only⟩ := exists_acceptsOnly wellFormed (List.getElem_mem inSecond)
      have here := List.getElem?_eq_getElem inSecond
      rw [Text.eqIgnoringCase_comm]
      exact (own j _ request here only).mp (served j _ request here only) i early _
        (List.getElem?_eq_getElem inFirst)
    · intro apart index t request here only
      rw [own index t request here only]
      intro j early u before
      obtain ⟨inTypes, rfl⟩ := List.getElem?_eq_some_iff.mp here
      obtain ⟨earlier, rfl⟩ := List.getElem?_eq_some_iff.mp before
      rw [Text.eqIgnoringCase_comm]
      exact apart j index earlier inTypes early

/-- Two types that differ in more than case are each served. -/
theorem serves_each_iff_apart :
    let source : Source := ⟨"p", ["", "text/html\na", "TEXT/plain\nb"]⟩
    let registry := Registry.empty.register "raw" rawFactory
    let settings : Settings := { defaultRenderer := "raw" }
    ∃ resource,
      Resource.compile .negotiated source registry settings = .ok (.negotiated resource) ∧
        ∀ (index : Nat) (t : Text) (request : Request),
          resource.availableTypes[index]? = some t → request.AcceptsOnly t →
            resource.select (fun _ => none) request = .ok index := by
  intro source registry settings
  obtain ⟨resource, compiled, types⟩ : ∃ resource,
      Resource.compile .negotiated source registry settings = .ok (.negotiated resource) ∧
        resource.availableTypes = ["text/html".toList, "TEXT/plain".toList] := ⟨_, rfl, rfl⟩
  obtain ⟨-, each⟩ := serves_each_iff compiled (fun _ => none)
  refine ⟨resource, compiled, each.mpr ?_⟩
  rw [types]
  decide

/-- A file compiles whose second page is not served to the request for its own type: the type
of the first page is the same in lower case. -/
theorem hidden_page :
    let source : Source := ⟨"p", ["", "text/plain\na", "TEXT/PLAIN\nb"]⟩
    let registry := Registry.empty.register "raw" rawFactory
    let settings : Settings := { defaultRenderer := "raw" }
    let value : HeaderValue := ⟨Utf8.encode "TEXT/PLAIN", by decide⟩
    let request : Request := { headers := [(.accept, value)] }
    ∃ resource,
      Resource.compile .negotiated source registry settings = .ok (.negotiated resource) ∧
        resource.availableTypes[1]? = some "TEXT/PLAIN".toList ∧
        request.AcceptsOnly "TEXT/PLAIN" ∧ ∀ known,
          resource.select known request = .ok 0 ∧ resource.select known request ≠ .ok 1 := by
  intro source registry settings value request
  obtain ⟨resource, compiled, types⟩ : ∃ resource,
      Resource.compile .negotiated source registry settings = .ok (.negotiated resource) ∧
        resource.availableTypes = ["text/plain".toList, "TEXT/PLAIN".toList] := ⟨_, rfl, rfl⟩
  have only : request.AcceptsOnly "TEXT/PLAIN" := ⟨Uri.root_not_hasExtension, value, rfl, rfl⟩
  refine ⟨resource, compiled, by rw [types]; rfl, only, fun known => ?_⟩
  have served : resource.select known request = .ok 0 := by
    rw [select_acceptsOnly_iff (wellFormed_of_compile compiled) known (by simp [types]) only,
      types]
    exact ⟨_, rfl, by decide, by simp⟩
  rw [served]
  decide

end NegotiatedResource
end Multipage
