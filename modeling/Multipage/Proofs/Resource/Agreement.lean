/-
# Multipage.Proofs.Resource.Agreement -- what is announced is what is served

Four look-ups speak of the page that serves a request: the place that negotiation gives, the
media type at this place, the page at this place, and the renderer by the media type.  In a
compiled resource all four hit one page (`NegotiatedResource.Chosen`), so the line that announces
a selection names the page and the renderer that answer the request
(`Resource.respond_agrees_with_select`).

That the other pages are not rendered is said with other renderers: the answer is the same when
they are replaced (`NegotiatedResource.redrawn`).
-/
import Multipage.Command.Negotiate
import Multipage.Proofs.Resource.Selection

namespace Multipage

set_option autoImplicit false

namespace NegotiatedResource

/-! ## One page by every look-up -/

/-- `page` is the one page for the request, by whichever way it is looked up. -/
structure Chosen (known : Text → Option Text) (resource : NegotiatedResource) (request : Request)
    (mediaType : Text) (index : Nat) (page : ContentPage) : Prop where
  selected : resource.select known request = .ok index
  there : resource.pages[index]? = some page
  /-- The media type stands at this place and at no other. -/
  only : ∀ other, resource.availableTypes[other]? = some mediaType ↔ other = index
  renderer : resource.rendererFor? mediaType = some page.rendererName

section Chosen

variable {known : Text → Option Text} {resource : NegotiatedResource} {request : Request}

/-- A place that is selected is in range. -/
theorem index_lt_of_select (wellFormed : resource.WellFormed) {index : Nat}
    (selected : resource.select known request = .ok index) : index < resource.pages.length := by
  obtain ⟨answer, selects⟩ := exists_selects known request wellFormed
  obtain rfl : answer = .ok index :=
    (select_of_selects wellFormed selects).symm.trans selected
  have inTypes := selects.index_lt wellFormed
  rwa [availableTypes, List.length_map] at inTypes

theorem getElem?_availableTypes {index : Nat} {page : ContentPage}
    (there : resource.pages[index]? = some page) :
    resource.availableTypes[index]? = some page.mediaType := by
  rw [availableTypes, List.getElem?_map, there, Option.map_some]

/-- A type that is declared at a place is declared there only. -/
theorem getElem?_availableTypes_iff (distinct : resource.availableTypes.Nodup) {index : Nat}
    {page : ContentPage} (there : resource.pages[index]? = some page) (other : Nat) :
    resource.availableTypes[other]? = some page.mediaType ↔ other = index := by
  have here := getElem?_availableTypes there
  constructor
  · intro again
    obtain ⟨inRange, -⟩ := List.getElem?_eq_some_iff.mp again
    exact (List.getElem?_inj inRange distinct).mp (again.trans here.symm)
  · rintro rfl
    exact here

theorem exists_chosen (wellFormed : resource.WellFormed) {index : Nat}
    (selected : resource.select known request = .ok index) :
    ∃ mediaType page, resource.Chosen known request mediaType index page := by
  have there := List.getElem?_eq_getElem (index_lt_of_select wellFormed selected)
  exact ⟨_, _, selected, there, getElem?_availableTypes_iff wellFormed.distinct there,
    rendererFor?_of_getElem? wellFormed.distinct there⟩

theorem select_eq_error {error : NotAcceptable}
    (refused : resource.select known request = .error error) :
    error = ⟨resource.availableTypes⟩ := by
  simp only [select, negotiate] at refused
  split at refused
  · simp at refused
  · exact (Except.error.inj refused).symm

/-- Nothing but the target and the header fields counts. -/
theorem select_congr (known : Text → Option Text) (resource : NegotiatedResource) {other : Request}
    (sameUri : other.uri = request.uri) (sameHeaders : other.headers = request.headers) :
    resource.select known other = resource.select known request := by
  simp only [select, acceptOf, Request.accept?, sameUri, sameHeaders]

variable {mediaType : Text} {index : Nat} {page : ContentPage}

theorem Chosen.of_same_target (chosen : resource.Chosen known request mediaType index page)
    {other : Request} (sameUri : other.uri = request.uri)
    (sameHeaders : other.headers = request.headers) :
    resource.Chosen known other mediaType index page :=
  { chosen with
    selected := (select_congr known resource sameUri sameHeaders).trans chosen.selected }

theorem Chosen.select (chosen : resource.Chosen known request mediaType index page) :
    (Resource.negotiated resource).select known request = .ok mediaType := by
  simp only [Resource.select, chosen.selected, (chosen.only index).mpr rfl]

theorem Chosen.describeSelection (chosen : resource.Chosen known request mediaType index page) :
    (Resource.negotiated resource).describeSelection known request =
      .ok (mediaType ++ " (renderer: " ++ page.rendererName ++ ")") := by
  rw [Resource.describeSelection, chosen.select]
  simp only [Except.map, chosen.renderer]

end Chosen

section Selection

variable {known : Text → Option Text} {resource : NegotiatedResource}
  (wellFormed : resource.WellFormed)

include wellFormed

theorem select_negotiated_eq_error_iff (request : Request) (error : NotAcceptable) :
    (Resource.negotiated resource).select known request = .error error ↔
      resource.select known request = .error error := by
  cases selected : resource.select known request with
  | error other => simp [Resource.select, selected]
  | ok index =>
      obtain ⟨mediaType, page, chosen⟩ := exists_chosen wellFormed selected
      simp [chosen.select]

theorem select_negotiated_eq_ok_iff (request : Request) (mediaType : Text) :
    (Resource.negotiated resource).select known request = .ok mediaType ↔
      ∃ index page, resource.Chosen known request mediaType index page := by
  constructor
  · intro found
    cases selected : resource.select known request with
    | error other => simp [Resource.select, selected] at found
    | ok index =>
        obtain ⟨other, page, chosen⟩ := exists_chosen wellFormed selected
        obtain rfl := Except.ok.inj (chosen.select.symm.trans found)
        exact ⟨index, page, chosen⟩
  · rintro ⟨index, page, chosen⟩
    exact chosen.select

end Selection

@[simp] theorem body_deliver (page : ContentPage) (body : Text) (response : Response) :
    (deliver page body response).body = .text body := by
  rw [deliver]
  split <;> rfl

/-! ## Other renderers -/

/-- The same resource with other renderers on its pages. -/
def redrawn (resource : NegotiatedResource) (draw : ContentPage → Renderer) :
    NegotiatedResource :=
  { resource with pages := resource.pages.map fun page => { page with render := draw page } }

section Redrawn

variable (resource : NegotiatedResource) (draw : ContentPage → Renderer)

@[simp] theorem availableTypes_redrawn :
    (resource.redrawn draw).availableTypes = resource.availableTypes := by
  simp [redrawn, availableTypes]

@[simp] theorem select_redrawn (known : Text → Option Text) (request : Request) :
    (resource.redrawn draw).select known request = resource.select known request := by
  simp [select]

theorem redrawn_self : resource.redrawn ContentPage.render = resource := by
  simp [redrawn]

end Redrawn

/-! ## Answers -/

section Answers

variable {known : Text → Option Text} {resource : NegotiatedResource} {context : Context}

theorem getResponse_of_error {error : NotAcceptable}
    (refused : resource.select known context.request = .error error) :
    resource.getResponse known context = .error (.raised error.response) := by
  simp only [getResponse, refused]

variable {mediaType : Text} {index : Nat} {page : ContentPage}

/-- The answer is what the renderer of the page at the selected place makes of the context. -/
theorem getResponse_of_selected (selected : resource.select known context.request = .ok index)
    (there : resource.pages[index]? = some page) :
    resource.getResponse known context =
      match page.render context with
      | .error error => .error (.render error)
      | .ok body => .ok (deliver page body context.response) := by
  cases rendered : page.render context <;>
    simp only [NegotiatedResource.getResponse, selected, there, rendered]

theorem Chosen.getResponse (chosen : resource.Chosen known context.request mediaType index page) :
    resource.getResponse known context =
      match page.render context with
      | .error error => .error (.render error)
      | .ok body => .ok (deliver page body context.response) :=
  getResponse_of_selected chosen.selected chosen.there

/-- The renderers of the other pages have no part in it. -/
theorem Chosen.getResponse_redrawn
    (chosen : resource.Chosen known context.request mediaType index page)
    {draw : ContentPage → Renderer} (kept : draw page = page.render) :
    (resource.redrawn draw).getResponse known context = resource.getResponse known context := by
  have there : (resource.redrawn draw).pages[index]? = some page := by
    rw [redrawn, List.getElem?_map, chosen.there, Option.map_some, kept]
  simp only [NegotiatedResource.getResponse, select_redrawn, chosen.selected, there, chosen.there]

end Answers
end NegotiatedResource

/-! ## Announcing and serving -/

namespace Resource

/-- When the logic runs to its end, the answer is made from the context that it left. -/
theorem respond_of_completes (known : Text → Option Text) {resource : Resource}
    {request : Request} {runner : Runner}
    (completes : (resource.runLogic runner request).stop = none) :
    resource.respond known request runner =
      resource.getResponse known (resource.runLogic runner request).context := by
  rw [respond, concludeRun, completes]

section Serving

variable {source : Source} {registry : Registry} {settings : Settings}
  {resource : NegotiatedResource} {request : Request} {runner : Runner} {logic : Text}
  {left : Context}

/-- When the logic page succeeds, the answer is made from the context that it left, whatever the
renderers are. -/
theorem respond_redrawn (declared : DeclaredBy source registry settings resource)
    (first : source.pages.head? = some logic)
    (succeeds :
      runner logic { request, response := { charset := settings.charset } } = (left, none))
    (known : Text → Option Text) (draw : ContentPage → Renderer) :
    (Resource.negotiated (resource.redrawn draw)).respond known request runner =
      (resource.redrawn draw).getResponse known left := by
  obtain ⟨other, head, single⟩ := declared.logicPages
  obtain rfl := Option.some.inj (first.symm.trans head)
  have pages : (Resource.negotiated (resource.redrawn draw)).logicPages = [logic] := single
  have start : (Resource.negotiated (resource.redrawn draw)).initialContext request =
      { request, response := { charset := settings.charset } } := by
    rw [← declared.charset]
    rfl
  rw [respond, runLogic, pages, start, LogicRun.of, succeeds]
  rfl

theorem respond_of_succeeds (declared : DeclaredBy source registry settings resource)
    (first : source.pages.head? = some logic)
    (succeeds :
      runner logic { request, response := { charset := settings.charset } } = (left, none))
    (known : Text → Option Text) :
    (Resource.negotiated resource).respond known request runner =
      resource.getResponse known left := by
  have own := respond_redrawn declared first succeeds known ContentPage.render
  rwa [resource.redrawn_self] at own

/-- The logic page of a file is run once, on what the settings and the request give. -/
theorem runLogic_of_runs (declared : DeclaredBy source registry settings resource)
    (first : source.pages.head? = some logic) {stop : Option RequestError}
    (runs : runner logic { request, response := { charset := settings.charset } } = (left, stop)) :
    (Resource.negotiated resource).runLogic runner request =
      ⟨[⟨logic, { request, response := { charset := settings.charset } }⟩], left, stop⟩ := by
  obtain ⟨own, head, single⟩ := declared.logicPages
  obtain rfl := Option.some.inj (first.symm.trans head)
  rw [← declared.charset] at runs ⊢
  simp only [runLogic, initialContext, Resource.logicPages, Resource.charset, single, LogicRun.of,
    runs]
  cases stop <;> rfl

end Serving

/-- **What is announced is what is served.**  Let the logic page succeed on a request and leave the
context `left`.  When the selection for the request in it fails, the answer is the raised response
of that failure, and no page is rendered.  When it gives a media type, one page is meant by every
look-up, and the answer is what its renderer makes of `left`, text or error, with no other page
rendered.  For every request of that target and those header fields, among them the one that came in
when the logic page has left them alone, the announced line has the type and the renderer of this
page.  A selection without a renderer is never announced.  All this holds whichever extensions are
known. -/
theorem respond_agrees_with_select {kind : Kind} {source : Source} {registry : Registry}
    {settings : Settings} {resource : NegotiatedResource}
    (compiled : compile kind source registry settings = .ok (.negotiated resource))
    {request : Request} {runner : Runner} {logic : Text} {left : Context}
    (first : source.pages.head? = some logic)
    (succeeds :
      runner logic
          { request, values := []
            response :=
              { status := .ok, body := .text [], headers := [], charset := settings.charset } } =
        (left, none))
    (known : Text → Option Text) :
    (∀ error, (Resource.negotiated resource).select known left.request = .error error →
      error = ⟨resource.availableTypes⟩ ∧ error.response.status = .notAcceptable ∧
      (Resource.negotiated resource).respond known request runner =
        .error (.raised error.response) ∧
      ∀ draw, (Resource.negotiated (resource.redrawn draw)).respond known request runner =
        (Resource.negotiated resource).respond known request runner) ∧
    (∀ mediaType, (Resource.negotiated resource).select known left.request = .ok mediaType →
      ∃ index page, resource.Chosen known left.request mediaType index page ∧
        (∀ body, page.render left = .ok body →
          ∃ response, (Resource.negotiated resource).respond known request runner = .ok response ∧
            response.body = .text body) ∧
        (∀ error, page.render left = .error error →
          (Resource.negotiated resource).respond known request runner = .error (.render error)) ∧
        (∀ draw, draw page = page.render →
          (Resource.negotiated (resource.redrawn draw)).respond known request runner =
            (Resource.negotiated resource).respond known request runner) ∧
        ∀ asked : Request, asked.uri = left.request.uri → asked.headers = left.request.headers →
          (Command.reportSelection known (.negotiated resource) asked).lines =
            [mediaType ++ " (renderer: " ++ page.rendererName ++ ")"]) ∧
    ∀ asked mediaType, (Resource.negotiated resource).select known asked = .ok mediaType →
      ∃ renderer, resource.rendererFor? mediaType = some renderer ∧
        (Resource.negotiated resource).describeSelection known asked =
          .ok (mediaType ++ " (renderer: " ++ renderer ++ ")") := by
  have wellFormed := NegotiatedResource.wellFormed_of_compile compiled
  obtain ⟨-, declared⟩ := declaredBy_of_compile compiled
  have answered := respond_of_succeeds declared first succeeds known
  have redrawn := respond_redrawn declared first succeeds known
  refine ⟨?_, ?_, ?_⟩
  · intro error refused
    rw [NegotiatedResource.select_negotiated_eq_error_iff wellFormed] at refused
    have raised := NegotiatedResource.getResponse_of_error refused
    refine ⟨resource.select_eq_error refused, rfl, answered.trans raised, ?_⟩
    intro draw
    rw [redrawn draw, answered, raised]
    exact NegotiatedResource.getResponse_of_error (by rwa [NegotiatedResource.select_redrawn])
  · intro mediaType found
    obtain ⟨index, page, chosen⟩ :=
      (NegotiatedResource.select_negotiated_eq_ok_iff wellFormed ..).mp found
    refine ⟨index, page, chosen, ?_, ?_, ?_, ?_⟩
    · intro body rendered
      rw [answered, chosen.getResponse, rendered]
      exact ⟨_, rfl, NegotiatedResource.body_deliver page body left.response⟩
    · intro error failed
      rw [answered, chosen.getResponse, failed]
    · intro draw kept
      rw [redrawn draw, answered, chosen.getResponse_redrawn kept]
    · intro asked sameUri sameHeaders
      have again := chosen.of_same_target sameUri sameHeaders
      rw [Command.reportSelection, again.describeSelection]
  · intro asked mediaType found
    obtain ⟨index, page, chosen⟩ :=
      (NegotiatedResource.select_negotiated_eq_ok_iff wellFormed ..).mp found
    exact ⟨page.rendererName, chosen.renderer, chosen.describeSelection⟩

/-- The path extension picks the second page, in the announcement and in the answer. -/
theorem respond_agrees_with_select_extension :
    let source : Source := ⟨"p", ["", "text/plain\na", "text/html\nb"]⟩
    let registry := Registry.empty.register "raw" rawFactory
    let settings : Settings := { defaultRenderer := "raw" }
    let known : Text → Option Text :=
      fun extension => if extension = "html".toList then some "text/html" else none
    let request : Request := { uri := ⟨"/x.html", none⟩ }
    let runner : Runner := fun _ context => (context.insert "seen" .null, none)
    ∃ resource response,
      compile .negotiated source registry settings = .ok (.negotiated resource) ∧
        (Resource.negotiated resource).respond known request runner = .ok response ∧
        response.body = .text "b" ∧
        (Command.reportSelection known (.negotiated resource) request).lines =
          ["text/html (renderer: raw)".toList] := by
  intro source registry settings known request runner
  obtain ⟨resource, compiled, types, bodies, named⟩ : ∃ resource,
      compile .negotiated source registry settings = .ok (.negotiated resource) ∧
        resource.availableTypes = ["text/plain".toList, "text/html".toList] ∧
        (∀ context, resource.pages.map (fun page => page.render context) =
          [.ok "a".toList, .ok "b".toList]) ∧
        resource.rendererFor? "text/html" = some "raw".toList := ⟨_, rfl, rfl, fun _ => rfl, rfl⟩
  let left : Context :=
    { request, response := { charset := settings.charset }, values := [("seen".toList, .null)] }
  have succeeds : runner "" { request, response := { charset := settings.charset } } =
    (left, none) := rfl
  have selected : resource.select known request = .ok 1 := by
    rw [NegotiatedResource.select, types]
    decide +kernel
  have found : (Resource.negotiated resource).select known request = .ok "text/html" := by
    simp only [select, selected, types]
    rfl
  obtain ⟨-, serves, -⟩ := respond_agrees_with_select compiled rfl succeeds known
  obtain ⟨index, page, chosen, text, -, -, line⟩ := serves _ found
  obtain rfl : 1 = index := Except.ok.inj (selected.symm.trans chosen.selected)
  have renderer : page.rendererName = "raw".toList :=
    Option.some.inj (chosen.renderer.symm.trans named)
  rw [renderer] at line
  have rendered : page.render left = .ok "b" := by
    have second := congrArg (fun bodies => bodies[1]?) (bodies left)
    simpa [chosen.there] using second
  obtain ⟨response, answered, body⟩ := text _ rendered
  exact ⟨resource, response, compiled, answered, body, line request rfl rfl⟩

end Resource
end Multipage
