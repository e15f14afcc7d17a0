/-
# Multipage.Proofs.Resource.Refusal -- the answer to a request that no page fits

The answer says what there is: a sentence with the media types in it, `, ` between any two, and a
point behind the last.  A media type may hold points and end in one, but no comma, so cutting the
list at `, ` gives the types back (`Text.listed_join`).

* `Response.Refuses`, `NotAcceptable.refuses_response`: what the answer is, field by field.
* `NegotiatedResource.exists_chosen_first`: a request that says nothing of what it accepts is
  served the first page, whatever there is.
* `Resource.getResponse_refuses`: who gets the answer, and what it tells.
-/
import Multipage.Proofs.Resource.Delivery

namespace Multipage

set_option autoImplicit false

/-! ## Lists in a sentence -/

namespace Text

/-- The texts of a list that has `, ` between any two. -/
def listed : Text → List Text
  | [] => [[]]
  | ',' :: ' ' :: rest => [] :: listed rest
  | c :: rest => (listed rest).modifyHead (c :: ·)

theorem listed_cons {c : Char} (noComma : c ≠ ',') (rest : Text) :
    listed (c :: rest) = (listed rest).modifyHead (c :: ·) := by
  rw [listed]
  rintro _ rfl
  exact absurd rfl noComma

theorem listed_append {part : Text} (noComma : ',' ∉ part) (rest : Text) :
    listed (part ++ rest) = (listed rest).modifyHead (part ++ ·) := by
  induction part with
  | nil => exact (congrFun List.modifyHead_id (listed rest)).symm
  | cons c part ih =>
      rw [List.mem_cons, not_or] at noComma
      rw [List.cons_append, listed_cons (Ne.symm noComma.1), ih noComma.2,
        List.modifyHead_modifyHead]
      rfl

/-- Texts without a comma are read back from the list of them. -/
theorem listed_join {parts : List Text} (nonempty : parts ≠ [])
    (noComma : ∀ part ∈ parts, ',' ∉ part) : listed (join ", " parts) = parts := by
  induction parts with
  | nil => exact absurd rfl nonempty
  | cons part rest ih =>
      obtain ⟨first, others⟩ := List.forall_mem_cons.mp noComma
      cases rest with
      | nil =>
          have alone := listed_append first []
          rw [List.append_nil] at alone
          rw [join, List.intercalate_singleton, alone]
          simp [listed]
      | cons next more =>
          have whole : join ", " (part :: next :: more) =
              part ++ ',' :: ' ' :: join ", " (next :: more) := by
            rw [join, List.intercalate_cons_cons, List.append_assoc]
            rfl
          rw [whole, listed_append first, listed, ih (by simp) others]
          simp

end Text

/-! ## The answer -/

/-- `response` refuses a request, and tells `types` as what there is. -/
structure Response.Refuses (types : List Text) (response : Response) : Prop where
  status : response.status.code = 406
  /-- One field, for the type of the text. -/
  headers : ∃ value, response.headers = [(.contentType, value)] ∧
    value.bytes = Utf8.encode "text/plain"
  charset : response.charset = none
  /-- The sentence, and what is left of it without its first words and its last point. -/
  body : ∃ list, response.body =
      .text ("The following media types are available: " ++ list ++ ".") ∧
    Text.listed list = types

theorem NotAcceptable.refuses_response {types : List Text} (some : types ≠ [])
    (noComma : ∀ t ∈ types, ',' ∉ t) : (response ⟨types⟩).Refuses types := by
  exact ⟨rfl, ⟨_, rfl, by decide⟩, rfl, _, rfl, Text.listed_join some noComma⟩

namespace NegotiatedResource

variable {known : Text → Option Text} {resource : NegotiatedResource} {context : Context}

theorem refuses_available (wellFormed : resource.WellFormed) :
    (NotAcceptable.response ⟨resource.availableTypes⟩).Refuses resource.availableTypes := by
  refine NotAcceptable.refuses_response ?_ ?_
  · intro none
    have choice := wellFormed.choice
    rw [none] at choice
    exact absurd choice (by decide)
  · intro t mem
    obtain ⟨type, subtype, halves⟩ := (isMediaType_iff t).mp (wellFormed.declared t mem)
    exact halves.notMem (by decide) (by decide)

/-- A request that says nothing of what it accepts is served the first page. -/
theorem exists_chosen_first (wellFormed : resource.WellFormed) {request : Request}
    (accepts : request.Accepts known none) :
    ∃ mediaType page, resource.availableTypes.head? = some mediaType ∧
      resource.Chosen known request mediaType 0 page := by
  have selected : resource.select known request = .ok 0 :=
    select_of_selects wellFormed (.first accepts)
  obtain ⟨mediaType, page, chosen⟩ := exists_chosen wellFormed selected
  refine ⟨mediaType, page, ?_, chosen⟩
  rw [List.head?_eq_getElem?]
  exact (chosen.only 0).mpr rfl

/-- A page that is chosen may fail, but not for want of a page. -/
theorem Chosen.not_refused {mediaType : Text} {index : Nat} {page : ContentPage}
    (chosen : resource.Chosen known context.request mediaType index page) {error : RequestError}
    (failed : resource.getResponse known context = .error error) :
    error.toResponse.status = .internalServerError := by
  rw [chosen.getResponse] at failed
  cases rendered : page.render context with
  | ok body =>
      rw [rendered] at failed
      cases failed
  | error fault =>
      rw [rendered] at failed
      obtain rfl := Except.error.inj failed
      rfl

end NegotiatedResource

namespace Resource

/-- **A request that no page fits is told what there is.**  It gets a plain text of status 406 and
nothing else, and cutting the list in this text gives the media types of the resource, in order and
each once.  A request that says nothing of what it accepts, neither in a header field nor by an
extension that is known, never gets this answer: the first type is chosen for it. -/
theorem getResponse_refuses {kind : Kind} {source : Source} {registry : Registry}
    {settings : Settings} {resource : Resource}
    (compiled : compile kind source registry settings = .ok resource)
    (known : Text → Option Text) (context : Context) :
    (∀ refusal, resource.select known context.request = .error refusal →
      ∃ error, resource.getResponse known context = .error error ∧
        error.toResponse.Refuses resource.availableTypes ∧ resource.availableTypes.Nodup) ∧
    (context.request.Accepts known none →
      (∃ mediaType, resource.availableTypes.head? = some mediaType ∧
        resource.select known context.request = .ok mediaType) ∧
      ∀ error, resource.getResponse known context = .error error →
        error.toResponse.status.code ≠ 406) := by
  cases resource with
  | json json =>
      -- There is one type, and it is not negotiated.
      refine ⟨?_, fun _ => ⟨⟨json.mediaType, rfl, rfl⟩, ?_⟩⟩
      · rintro _ ⟨⟩
      · rintro _ ⟨⟩
  | negotiated resource =>
      have wellFormed := NegotiatedResource.wellFormed_of_compile compiled
      refine ⟨?_, ?_⟩
      · intro refusal refused
        rw [NegotiatedResource.select_negotiated_eq_error_iff wellFormed] at refused
        exact ⟨_, NegotiatedResource.getResponse_of_refused refused,
          resource.refuses_available wellFormed, wellFormed.distinct⟩
      · intro accepts
        obtain ⟨mediaType, page, first, chosen⟩ := resource.exists_chosen_first wellFormed accepts
        refine ⟨⟨mediaType, first, chosen.select⟩, ?_⟩
        intro error failed
        rw [chosen.not_refused failed]
        decide

/-- Points in the types are not taken for the end of the sentence, and a request with the extension
of an image gets both types back.  The empty request gets the first one. -/
theorem getResponse_refuses_points :
    let source : Source := ⟨"p", ["", "text/x.\nb", "text/x.y\nc"]⟩
    let known : Text → Option Text :=
      fun extension => if extension = "bmp".toList then some "image/bmp" else none
    let image : Request := { uri := ⟨"/x.bmp", none⟩ }
    ∃ resource,
      compile .negotiated source (Registry.empty.register "raw" rawFactory)
        { defaultRenderer := "raw" } = .ok resource ∧
      (∃ error, resource.getResponse known { request := image } = .error error ∧
        error.toResponse.Refuses ["text/x.", "text/x.y"]) ∧
      resource.select known {} = .ok "text/x." := by
  intro source known image
  obtain ⟨resource, compiled, types⟩ : ∃ resource : NegotiatedResource,
      compile .negotiated source (Registry.empty.register "raw" rawFactory)
          { defaultRenderer := "raw" } = .ok (.negotiated resource) ∧
        resource.availableTypes = ["text/x.".toList, "text/x.y".toList] := ⟨_, rfl, rfl⟩
  refine ⟨_, compiled, ?_, ?_⟩
  · have refused : resource.select known image = .error ⟨resource.availableTypes⟩ := by
      rw [NegotiatedResource.select, types]
      decide +kernel
    obtain ⟨refusal, -⟩ := getResponse_refuses compiled known { request := image }
    obtain ⟨error, failed, refuses, -⟩ := refusal ⟨resource.availableTypes⟩
      ((NegotiatedResource.select_negotiated_eq_error_iff
        (NegotiatedResource.wellFormed_of_compile compiled) _ _).mpr refused)
    refine ⟨error, failed, ?_⟩
    rw [← types]
    exact refuses
  · obtain ⟨-, served⟩ := getResponse_refuses compiled known {}
    have unheard : Request.Accepts known {} none :=
      .nothing (fun extension path => absurd path (Uri.root_not_hasExtension extension))
        (by rintro _ _ ⟨⟩)
    obtain ⟨⟨mediaType, first, selected⟩, -⟩ := served unheard
    have head : some "text/x.".toList = some mediaType := by
      rw [← first]
      exact (congrArg List.head? types).symm
    obtain rfl := Option.some.inj head
    exact selected

end Resource
end Multipage
