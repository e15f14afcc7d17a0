/-
# Multipage.Proofs.Resource.Verbatim -- raw pages, from the bytes of the file to the answer

The body of a content page has a place in the file: after the first line end that follows the
page break of this page, and before the next page break or the end (`Source.BodyAt`).  Decoding
keeps the place, since page breaks and line ends are single bytes below 0x80, and so do cutting
and compiling: the page at an index is the piece after as many page breaks and one more
(`Source.bodyAt_of_parts`).  Margins are dropped from the line before the body only.

The raw renderer gives the body that it was bound to.  So when a raw page is selected the body of
the answer, encoded, is this part of the file (`Resource.respond_verbatim`).  What else the registry
holds has no part in it; in the one a host starts from `raw` is this renderer, whichever engine of
templates stands beside it (`Registry.get?_builtins_raw`).
-/
import Multipage.Proofs.Resource.Agreement
import Multipage.Proofs.Source

namespace Multipage

set_option autoImplicit false

namespace Source

/-! ## The place of a body -/

/-- The byte of the line end. -/
def lineEndByte : UInt8 := 0x0A

/-- `body` is what stands in `raw` after the first line end that follows a page break with `index`
page breaks before it, up to the next page break or the end. -/
def BodyAt (raw : Bytes) (index : Nat) (body : Bytes) : Prop :=
  ∃ before line after,
    raw = before ++ pageBreakByte :: (line ++ lineEndByte :: (body ++ after)) ∧
    before.count pageBreakByte = index ∧ lineEndByte ∉ line ∧ pageBreakByte ∉ body ∧
    ∀ b ∈ after.head?, b = pageBreakByte

/-- There is one such part of a file at most. -/
theorem BodyAt.unique {raw body other : Bytes} {index : Nat} (here : BodyAt raw index body)
    (there : BodyAt raw index other) : body = other := by
  obtain ⟨before, line, after, rfl, count, single, unbroken, ends⟩ := here
  obtain ⟨otherBefore, otherLine, otherAfter, same, otherCount, otherSingle, otherUnbroken,
    otherEnds⟩ := there
  obtain ⟨-, pages⟩ := Text.append_cons_inj_of_count same (count.trans otherCount.symm)
  have noLineEnd : line.count lineEndByte = otherLine.count lineEndByte := by
    rw [List.count_eq_zero.mpr single, List.count_eq_zero.mpr otherSingle]
  obtain ⟨-, bodies⟩ := Text.append_cons_inj_of_count pages noLineEnd
  exact Text.append_inj_of_ends bodies unbroken otherUnbroken ends otherEnds

/-- The body of a content page stands in the file where the index of the page says. -/
theorem bodyAt_of_parts {path : Text} {raw : Bytes} {source : Source}
    (made : ofBytes path raw = .ok source) {index : Nat} {text line body : Text}
    (there : source.pages.tail[index]? = some text)
    (parts : ContentPage.Parts text line body) : BodyAt raw index (Utf8.encode body) := by
  obtain ⟨first, rfl, single, -⟩ := parts
  have piece : (raw.splitOn pageBreakByte)[index + 1]? =
      some (Utf8.encode first ++ lineEndByte :: Utf8.encode body) := by
    rw [← encodes_of_ofBytes made, List.getElem?_map, ← List.getElem?_tail, there,
      Option.map_some, Utf8.encode_append, Utf8.encode_cons]
    rfl
  have unbroken := Text.notMem_of_mem_splitOn pageBreakByte (List.mem_of_getElem? piece)
  obtain ⟨before, after, rfl, count, ends⟩ :=
    Text.exists_around_of_getElem?_splitOn pageBreakByte piece
  refine ⟨before, Utf8.encode first, after, by simp, count, ?_, ?_, ends⟩
  · exact Utf8.notMem_encode_of_ascii (by decide) single
  · intro mem
    exact unbroken (by simp [mem])

end Source

/-! ## Raw pages -/

theorem Registry.get?_builtins_raw (template : RendererFactory) :
    (builtins template).get? "raw" = some rawFactory := rfl

/-- A raw page is rendered to its body, whatever the context is. -/
theorem ContentPage.Declares.render_raw {registry : Registry} {fallback path text : Text}
    {page : ContentPage} (declares : Declares registry fallback path text page)
    (registered : registry.get? "raw" = some rawFactory) (raw : page.rendererName = "raw") :
    ∃ line body, Parts text line body ∧ ∀ context, page.render context = .ok body := by
  cases declares with
  | @intro line body specline factory render bareType parts reads own made bytes =>
      have name : specline.renderer = "raw" := raw
      rw [name, registered] at own
      obtain rfl := Option.some.inj own
      obtain rfl := Except.ok.inj made
      exact ⟨line, body, parts, fun _ => rfl⟩

namespace Resource

/-- **A raw page is answered with as it stands in the file.**  When bytes are read, compile with
renderers among which `raw` is the raw one, and the logic succeeds on a request so that a raw page
is selected, the answer is a response, whichever extensions are known.  Its body is the text whose
encoding is the part of the file between the first line end of this page and the next page break or
the end, every byte of it and no other. -/
theorem respond_verbatim {path : Text} {raw : Bytes} {source : Source}
    (made : Source.ofBytes path raw = .ok source) {kind : Kind} {registry : Registry}
    (registered : registry.get? "raw" = some rawFactory) {settings : Settings}
    {resource : NegotiatedResource}
    (compiled : compile kind source registry settings = .ok (.negotiated resource))
    {known : Text → Option Text} {request : Request} {runner : Runner}
    (succeeds : ((Resource.negotiated resource).runLogic runner request).stop = none)
    {index : Nat} {page : ContentPage}
    (selected : resource.select known
      ((Resource.negotiated resource).runLogic runner request).context.request = .ok index)
    (there : resource.pages[index]? = some page) (isRaw : page.rendererName = "raw") :
    ∃ response body, (Resource.negotiated resource).respond known request runner = .ok response ∧
      response.body = .text body ∧
      ∀ bytes, Source.BodyAt raw index bytes ↔ bytes = Utf8.encode body := by
  obtain ⟨-, declared⟩ := declaredBy_of_compile compiled
  obtain ⟨text, here, declares⟩ := declared.exists_text there
  obtain ⟨line, body, parts, renders⟩ := declares.render_raw registered isRaw
  have place := Source.bodyAt_of_parts made here parts
  have answered := respond_of_completes known succeeds
  rw [getResponse, NegotiatedResource.getResponse_of_selected selected there, renders] at answered
  refine ⟨_, body, answered, NegotiatedResource.body_deliver .., ?_⟩
  intro bytes
  constructor
  · intro here
    exact here.unique place
  · rintro rfl
    exact place

/-- Behind a page of templates the second page is raw.  It has a margin around its first line, and a
body that starts with a line end and ends in a blank: all of the body is in the answer. -/
theorem respond_verbatim_blanks :
    let raw : Bytes := Utf8.encode "\x0c#!template text/html\na\x0c text/plain \n\n \u00e9\x0d "
    let template : RendererFactory := fun _ body => .ok fun _ => .ok ('<' :: body)
    let settings : Settings := { defaultRenderer := "raw" }
    let known : Text → Option Text :=
      fun extension => if extension = "txt".toList then some "text/plain" else none
    let request : Request := { uri := ⟨"/x.txt", none⟩ }
    let runner : Runner := fun _ context => (context.insert "seen" .null, none)
    ∃ source resource response body,
      Source.ofBytes "p" raw = .ok source ∧
        compile .negotiated source (.builtins template) settings = .ok (.negotiated resource) ∧
        (Resource.negotiated resource).respond known request runner = .ok response ∧
        response.body = .text body ∧ Utf8.encode body = [0x0A, 0x20, 0xC3, 0xA9, 0x0D, 0x20] := by
  intro raw template settings known request runner
  obtain ⟨source, made, resource, compiled, first, types, names⟩ : ∃ source,
      Source.ofBytes "p" raw = .ok source ∧ ∃ resource,
        compile .negotiated source (.builtins template) settings = .ok (.negotiated resource) ∧
        source.pages.head? = some [] ∧
        resource.availableTypes = ["text/html".toList, "text/plain".toList] ∧
        resource.pages.map ContentPage.rendererName = ["template".toList, "raw".toList] :=
    ⟨_, (Source.ofBytes_eq_ok_iff ..).mpr ⟨_, rfl, rfl⟩, _, rfl, rfl, rfl, rfl⟩
  obtain ⟨-, declared⟩ := declaredBy_of_compile compiled
  let left : Context :=
    { request, response := { charset := settings.charset }, values := [("seen".toList, .null)] }
  have succeeds : runner [] { request, response := { charset := settings.charset } } =
    (left, none) := rfl
  have run := runLogic_of_runs declared first succeeds
  have selected : resource.select known
      ((Resource.negotiated resource).runLogic runner request).context.request = .ok 1 := by
    rw [run, NegotiatedResource.select, types]
    decide +kernel
  obtain ⟨page, there, isRaw⟩ : ∃ page, resource.pages[1]? = some page ∧
      page.rendererName = "raw".toList := by
    have second := congrArg (fun all => all[1]?) names
    simpa using second
  obtain ⟨response, body, answered, text, place⟩ :=
    respond_verbatim made (Registry.get?_builtins_raw template) compiled (by rw [run]) selected
      there isRaw
  have bytes : Source.BodyAt raw 1 [0x0A, 0x20, 0xC3, 0xA9, 0x0D, 0x20] :=
    ⟨Utf8.encode "\x0c#!template text/html\na", Utf8.encode " text/plain ", [], rfl, by decide,
      by decide, by decide, by simp⟩
  exact ⟨source, resource, response, body, made, compiled, answered, text,
    ((place _).mp bytes).symm⟩

end Resource
end Multipage
