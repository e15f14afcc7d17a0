/-
# Multipage.Proofs.Resource.Reordering -- the order of the content pages

A content page is compiled by itself: what it declares depends on its text alone
(`ContentPage.Declares.unique`), and that media types differ is no matter of order.  So the pages of
a file may be put in any order, and each is compiled to what it was
(`Resource.exists_compile_reordered`).

A score does not depend on the place of a type either.  The place counts where two acceptable types
are level, and where a request accepts anything.  When one type scores above all others, its page
serves the request wherever it stands (`Resource.respond_reordered`).
-/
import Mathlib.Data.List.Perm.Basic
import Multipage.Proofs.Media.Order
import Multipage.Proofs.Resource.Agreement

namespace Multipage

set_option autoImplicit false

/-! ## Pages in another order -/

/-- A page declares one thing. -/
theorem ContentPage.Declares.unique {registry : Registry} {fallback path text : Text}
    {page other : ContentPage} (declares : Declares registry fallback path text page)
    (otherDeclares : Declares registry fallback path text other) : page = other := by
  have compiled : compile registry fallback path [] text = .ok page :=
    compile_of_declares declares (by simp)
  have otherCompiled : compile registry fallback path [] text = .ok other :=
    compile_of_declares otherDeclares (by simp)
  exact Except.ok.inj (compiled.symm.trans otherCompiled)

namespace NegotiatedResource

/-- In the file that `resource` is compiled from, the page of the media type has this renderer and
this body. -/
def Maps (resource : NegotiatedResource) (source : Source) (mediaType renderer body : Text) :
    Prop :=
  ∃ (index : Nat) (text line : Text), source.pages.tail[index]? = some text ∧
    ContentPage.Parts text line body ∧ resource.availableTypes[index]? = some mediaType ∧
    resource.rendererFor? mediaType = some renderer

/-- By the pages, and not by their places. -/
theorem maps_iff {source : Source} {registry : Registry} {settings : Settings}
    {resource : NegotiatedResource}
    (declared : Resource.DeclaredBy source registry settings resource)
    (mediaType renderer body : Text) :
    resource.Maps source mediaType renderer body ↔
      ∃ text ∈ source.pages.tail, ∃ page line,
        ContentPage.Declares registry settings.defaultRenderer source.path text page ∧
        ContentPage.Parts text line body ∧ page.mediaType = mediaType ∧
        page.rendererName = renderer := by
  constructor
  · rintro ⟨index, text, line, here, parts, typed, rendered⟩
    obtain ⟨page, there, declares⟩ := declared.exists_page here
    obtain rfl := Option.some.inj ((getElem?_availableTypes there).symm.trans typed)
    have own := rendererFor?_of_getElem? declared.distinct there
    exact ⟨text, List.mem_of_getElem? here, page, line, declares, parts, rfl,
      Option.some.inj (own.symm.trans rendered)⟩
  · rintro ⟨text, mem, page, line, declares, parts, rfl, rfl⟩
    obtain ⟨index, here⟩ := List.mem_iff_getElem?.mp mem
    obtain ⟨own, there, ownDeclares⟩ := declared.exists_page here
    obtain rfl := declares.unique ownDeclares
    exact ⟨index, text, line, here, parts, getElem?_availableTypes there,
      rendererFor?_of_getElem? declared.distinct there⟩

section Reordered

variable {known : Text → Option Text} {resource other : NegotiatedResource}
  (samePages : resource.pages.Perm other.pages)

include samePages

theorem availableTypes_perm : resource.availableTypes.Perm other.availableTypes :=
  samePages.map ContentPage.mediaType

/-- A request that accepts something is refused in one order of the pages when it is in the
other. -/
theorem refused_iff_reordered {request : Request} {accept : Text}
    (accepts : request.Accepts known (some accept)) :
    (∃ error, resource.select known request = .error error) ↔
      ∃ error, other.select known request = .error error := by
  simp only [select, Request.acceptOf_of_accepts accepts, negotiate_eq_error_iff,
    exists_eq_left, unacceptable_perm (availableTypes_perm samePages)]

omit samePages in
theorem select_of_onlyGreatestAt {request : Request} {accept : Text}
    (accepts : request.Accepts known (some accept)) {index : Nat}
    (only : OnlyGreatestAt resource.availableTypes accept index) :
    resource.select known request = .ok index := by
  rw [select, Request.acceptOf_of_accepts accepts]
  exact (negotiate_eq_ok_iff ..).mpr only.chosenAt

/-- The page of the one greatest score answers, wherever it stands. -/
theorem getResponse_reordered (distinct : resource.availableTypes.Nodup) {context : Context}
    {accept : Text} (accepts : context.request.Accepts known (some accept))
    {index : Nat} (only : OnlyGreatestAt resource.availableTypes accept index) :
    other.getResponse known context = resource.getResponse known context := by
  obtain ⟨t, typed⟩ := only.exists_type
  obtain ⟨page, there, rfl⟩ : ∃ page, resource.pages[index]? = some page ∧ page.mediaType = t := by
    rwa [availableTypes, List.getElem?_map, Option.map_eq_some_iff] at typed
  obtain ⟨place, moved⟩ :=
    List.mem_iff_getElem?.mp (samePages.mem_iff.mp (List.mem_of_getElem? there))
  have movedOnly := only.of_perm (availableTypes_perm samePages) distinct typed
    (getElem?_availableTypes moved)
  rw [getResponse_of_selected (select_of_onlyGreatestAt accepts only) there,
    getResponse_of_selected (select_of_onlyGreatestAt accepts movedOnly) moved]

end Reordered
end NegotiatedResource

namespace Resource

section Reordered

variable {source : Source} {registry : Registry} {settings : Settings}
  {resource : NegotiatedResource} {logic : Text} {contents reordered : List Text}

/-- The pages in another order compile, each to what it was. -/
theorem exists_compile_reordered {kind : Kind}
    (compiled : compile kind source registry settings = .ok (.negotiated resource))
    (pages : source.pages = logic :: contents) (perm : contents.Perm reordered) :
    ∃ other, compile kind ⟨source.path, logic :: reordered⟩ registry settings =
        .ok (.negotiated other) ∧
      resource.pages.Perm other.pages ∧ other.logicPages = resource.logicPages ∧
      other.charset = resource.charset := by
  obtain rfl := kind_of_compile compiled
  obtain ⟨sendable, enough, _, same, declared⟩ := (compile_negotiated_eq_ok_iff _).mp compiled
  obtain rfl := Resource.negotiated.inj same
  have contentPages := declared.pages
  rw [pages, List.tail_cons] at contentPages
  obtain ⟨compiledPages, reorderedPages, samePages⟩ :=
    List.perm_comp_forall₂ perm.symm contentPages
  refine ⟨{ resource with pages := compiledPages }, compile_of_declaredBy sendable ?_ ?_,
    samePages.symm, rfl, rfl⟩
  · rw [pages] at enough
    simpa [perm.length_eq] using enough
  · obtain ⟨first, head, logicPages⟩ := declared.logicPages
    rw [pages, List.head?_cons] at head
    exact
      { path := declared.path
        charset := declared.charset
        logicPages := ⟨first, head, logicPages⟩
        pages := reorderedPages
        distinct := ((samePages.map ContentPage.mediaType).nodup_iff).mpr declared.distinct }

/-- The pages in another order have the same renderers and bodies under the same media types. -/
theorem maps_iff_reordered {other : NegotiatedResource}
    (declared : DeclaredBy source registry settings resource)
    (pages : source.pages = logic :: contents) (perm : contents.Perm reordered)
    (otherDeclared : DeclaredBy ⟨source.path, logic :: reordered⟩ registry settings other)
    (mediaType renderer body : Text) :
    resource.Maps source mediaType renderer body ↔
      other.Maps ⟨source.path, logic :: reordered⟩ mediaType renderer body := by
  rw [NegotiatedResource.maps_iff declared, NegotiatedResource.maps_iff otherDeclared, pages]
  simp only [List.tail_cons, perm.mem_iff]

end Reordered

/-! ## Answers -/

section Answers

variable {known : Text → Option Text} {resource other : NegotiatedResource}

/-- Resources with the same logic pages and charset run alike. -/
theorem runLogic_congr (logicPages : other.logicPages = resource.logicPages)
    (charset : other.charset = resource.charset) (runner : Runner) (request : Request) :
    (Resource.negotiated other).runLogic runner request =
      (Resource.negotiated resource).runLogic runner request := by
  simp only [runLogic, initialContext, Resource.logicPages, Resource.charset, logicPages, charset]

/-- Resources that run alike and answer alike from what the logic leaves serve alike. -/
theorem respond_congr {request : Request} {runner : Runner} {run : LogicRun}
    (runs : (Resource.negotiated resource).runLogic runner request = run)
    (otherRuns : (Resource.negotiated other).runLogic runner request = run)
    (answers : other.getResponse known run.context = resource.getResponse known run.context) :
    (Resource.negotiated other).respond known request runner =
      (Resource.negotiated resource).respond known request runner := by
  rw [respond, respond, runs, otherRuns]
  cases stop : run.stop with
  | none =>
      simp only [concludeRun, stop, getResponse]
      exact answers
  | some error => cases error <;> simp only [concludeRun, stop, finishRaised]

end Answers

/-- **The order of the content pages counts for ties and for the default page.**  When a file
compiles, so does the file with its content pages in another order, to the same pages in that
order; every media type has the renderer and the body it had.  The logic runs as it did.  A
request that accepts something, as the logic leaves it and by whichever extensions are known, is
refused by one resource when it is refused by the other; and when one acceptable type has the
greatest score alone, the answers are the same, be they a response or an error. -/
theorem respond_reordered {kind : Kind} {source : Source} {registry : Registry}
    {settings : Settings} {resource : NegotiatedResource}
    (compiled : compile kind source registry settings = .ok (.negotiated resource))
    {logic : Text} {contents reordered : List Text} (pages : source.pages = logic :: contents)
    (perm : contents.Perm reordered) :
    ∃ other,
      compile kind ⟨source.path, logic :: reordered⟩ registry settings = .ok (.negotiated other) ∧
      resource.pages.Perm other.pages ∧
      (∀ mediaType renderer body, resource.Maps source mediaType renderer body ↔
        other.Maps ⟨source.path, logic :: reordered⟩ mediaType renderer body) ∧
      ∀ (request : Request) (runner : Runner),
        let run := (Resource.negotiated resource).runLogic runner request
        (Resource.negotiated other).runLogic runner request = run ∧
        ∀ known accept, run.context.request.Accepts known (some accept) →
          ((∃ error, resource.select known run.context.request = .error error) ↔
            ∃ error, other.select known run.context.request = .error error) ∧
          ((∃ index, OnlyGreatestAt resource.availableTypes accept index) →
            (Resource.negotiated other).respond known request runner =
              (Resource.negotiated resource).respond known request runner) := by
  obtain ⟨other, otherCompiled, samePages, logicPages, charset⟩ :=
    exists_compile_reordered compiled pages perm
  obtain ⟨-, declared⟩ := declaredBy_of_compile compiled
  obtain ⟨-, otherDeclared⟩ := declaredBy_of_compile otherCompiled
  refine ⟨other, otherCompiled, samePages,
    maps_iff_reordered declared pages perm otherDeclared, ?_⟩
  intro request runner run
  have sameRun := runLogic_congr logicPages charset runner request
  refine ⟨sameRun, fun known accept accepts => ⟨?_, ?_⟩⟩
  · exact NegotiatedResource.refused_iff_reordered samePages accepts
  · rintro ⟨index, only⟩
    exact respond_congr rfl sameRun
      (NegotiatedResource.getResponse_reordered samePages declared.distinct accepts only)

/-- Of three types one is refused and one has the greatest score: its page answers whether it
stands last or first.  The extension of the path is not known, so the header counts. -/
theorem respond_reordered_reversed :
    let contents : List Text := ["text/plain\na", "text/html\nb", "text/csv\nc"]
    let registry := Registry.empty.register "raw" rawFactory
    let settings : Settings := { defaultRenderer := "raw" }
    let accept : Text := "text/html;q=0, text/*;q=0.5, text/csv;q=0.2"
    let value : HeaderValue := ⟨Utf8.encode accept, by decide⟩
    let known : Text → Option Text :=
      fun extension => if extension = "html".toList then some "text/html" else none
    let request : Request := { uri := ⟨"/x.avi", none⟩, headers := [(.accept, value)] }
    let runner : Runner := fun _ context => (context.insert "seen" .null, none)
    ∃ resource other response,
      compile .negotiated ⟨"p", "" :: contents⟩ registry settings = .ok (.negotiated resource) ∧
        compile .negotiated ⟨"p", "" :: contents.reverse⟩ registry settings =
          .ok (.negotiated other) ∧
        (Resource.negotiated resource).respond known request runner = .ok response ∧
        (Resource.negotiated other).respond known request runner = .ok response ∧
        response.body = .text "c" := by
  intro contents registry settings accept value known request runner
  obtain ⟨resource, compiled, types, bodies⟩ : ∃ resource,
      compile .negotiated ⟨"p", "" :: contents⟩ registry settings = .ok (.negotiated resource) ∧
        resource.availableTypes = ["text/plain".toList, "text/html".toList, "text/csv".toList] ∧
        ∀ context, resource.pages.map (fun page => page.render context) =
          [.ok "a".toList, .ok "b".toList, .ok "c".toList] := ⟨_, rfl, rfl, fun _ => rfl⟩
  let left : Context :=
    { request, response := { charset := settings.charset }, values := [("seen".toList, .null)] }
  have succeeds : runner "" { request, response := { charset := settings.charset } } =
    (left, none) := rfl
  obtain ⟨-, declared⟩ := declaredBy_of_compile compiled
  have answered := respond_of_succeeds declared rfl succeeds known
  have decoded : Utf8.decodeLossy value.bytes = accept := Utf8.decodeLossy_encode accept
  have accepts : request.Accepts known (some accept) := by
    have unknown : request.uri.extension?.bind known = none := by decide
    rw [← decoded]
    exact .header ((Request.bind_extension?_eq_none_iff ..).mp unknown) rfl
      ⟨'t', by rw [decoded]; decide, by decide⟩
  have only : OnlyGreatestAt resource.availableTypes accept 2 := by
    rw [types]
    decide +kernel
  have selected : resource.select known left.request = .ok 2 :=
    NegotiatedResource.select_of_onlyGreatestAt accepts only
  obtain ⟨page, there, rendered⟩ : ∃ page, resource.pages[2]? = some page ∧
      page.render left = .ok "c".toList := by
    have third := congrArg (fun bodies => bodies[2]?) (bodies left)
    simpa using third
  rw [NegotiatedResource.getResponse_of_selected selected there, rendered] at answered
  obtain ⟨other, otherCompiled, -, -, alike⟩ :=
    respond_reordered compiled rfl (List.reverse_perm contents).symm
  obtain ⟨-, same⟩ := alike request runner
  rw [runLogic_of_runs declared rfl succeeds] at same
  obtain ⟨-, same⟩ := same known accept accepts
  exact ⟨resource, other, _, compiled, otherCompiled, answered, (same ⟨2, only⟩).trans answered,
    NegotiatedResource.body_deliver ..⟩

end Resource
end Multipage
