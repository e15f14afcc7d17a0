/-
# Multipage.Proofs.Resource.Delivery -- what a rendered page adds to the answer that logic has left

Logic leaves a response of any status, charset and header fields.  A rendered page puts its text
into the body, and gives it a type when no type was left.

* `HeaderValue.CanCarry`, `HeaderValue.exists_ofText?_iff`: a text can be sent in a header field
  when it has no control character but tabs.
* `ContentPage.SentAs`, `ContentPage.contentType_eq_iff`: a page is sent as its media type, with the
  charset behind it when there is one, the type is a text type, and the two can be sent together.
* `Response.Delivered`, `NegotiatedResource.delivered_iff`: what is changed and what stays.
* `NegotiatedResource.getResponse_eq_ok_iff`, `NegotiatedResource.getResponse_eq_error_iff`: which
  page is delivered, and which errors there are.

A request that no page fits is answered from the media types alone
(`NegotiatedResource.getResponse_delivers`).
-/
import Multipage.Proofs.Message
import Multipage.Proofs.Resource.Agreement
import Multipage.Proofs.Text.Codec

namespace Multipage

set_option autoImplicit false

/-! ## Texts that can be sent -/

namespace HeaderValue

/-- The text has no control character but tabs. -/
def CanCarry (t : Text) : Prop := ∀ c ∈ t, c = '\t' ∨ (0x20 ≤ c.toNat ∧ c.toNat ≠ 0x7F)

theorem isHeaderByte_iff (b : UInt8) :
    isHeaderByte b = true ↔ b.toNat = 0x09 ∨ (0x20 ≤ b.toNat ∧ b.toNat ≠ 0x7F) := by
  simp only [isHeaderByte, Bool.or_eq_true, Bool.and_eq_true, beq_iff_eq, bne_iff_ne,
    decide_eq_true_iff, ne_eq, UInt8.le_iff_toNat_le, ← UInt8.toNat_inj, UInt8.reduceToNat]

/-- The legality of the bytes is the legality of the characters: a byte from 0x80 on is legal, and
so is a character from there on. -/
theorem all_isHeaderByte_encode_iff (t : Text) :
    (Utf8.encode t).all isHeaderByte = true ↔ CanCarry t := by
  rw [List.all_eq_true]
  constructor
  · intro legal c mem
    by_cases ascii : c.toNat < 0x80
    · have inBytes : UInt8.ofNat c.toNat ∈ Utf8.encode t := by
        refine List.mem_flatMap.mpr ⟨c, mem, ?_⟩
        rw [Utf8.encodeChar_ascii c ascii]
        exact List.mem_singleton_self _
      have range := (isHeaderByte_iff _).mp (legal _ inBytes)
      rw [Utf8.toNat_ofNat_ascii c ascii] at range
      rcases range with tab | visible
      · exact .inl (Char.toNat_inj.mp tab)
      · exact .inr visible
    · exact .inr (by omega)
  · intro carried b mem
    rw [isHeaderByte_iff]
    by_cases ascii : b.toNat < 0x80
    · have inText : Char.ofNat b.toNat ∈ t := by
        by_contra absent
        exact Utf8.notMem_encode_of_ascii ascii absent mem
      have valid : b.toNat.isValidChar := .inl (by omega)
      have code : (Char.ofNat b.toNat).toNat = b.toNat := by
        rw [Char.ofNat, dif_pos valid]
        rfl
      have range := carried _ inText
      rw [← Char.toNat_inj, code] at range
      exact range
    · exact .inr (by omega)

theorem exists_ofText?_iff (t : Text) : (∃ value, ofText? t = some value) ↔ CanCarry t := by
  rw [← all_isHeaderByte_encode_iff]
  constructor
  · rintro ⟨value, made⟩
    rw [← bytes_of_ofText? made]
    exact value.isLegal
  · intro legal
    exact ⟨⟨Utf8.encode t, legal⟩, (ofText?_eq_some_iff t _).mpr rfl⟩

theorem ofText?_eq_none_iff (t : Text) : ofText? t = none ↔ ¬CanCarry t := by
  rw [← exists_ofText?_iff, Option.eq_none_iff_forall_ne_some, not_exists]

/-- A value is its bytes. -/
theorem eq_of_bytes {value other : HeaderValue} (same : value.bytes = other.bytes) :
    value = other := by
  cases value
  cases other
  cases same
  rfl

end HeaderValue

/-! ## The type of a page -/

namespace ContentPage

/-- The text of the type that a page of `mediaType` is sent with. -/
inductive SentAs (mediaType : Text) (charset : Option Text) : Text → Prop where
  | withCharset {name : Text} (given : charset = some name) (isText : "text/".toList <+: mediaType)
      (canCarry : HeaderValue.CanCarry (mediaType ++ "; charset=" ++ name)) :
      SentAs mediaType charset (mediaType ++ "; charset=" ++ name)
  | bare
      (without : ∀ name, charset = some name → "text/".toList <+: mediaType →
        ¬HeaderValue.CanCarry (mediaType ++ "; charset=" ++ name)) :
      SentAs mediaType charset mediaType

theorem SentAs.unique {mediaType sent other : Text} {charset : Option Text}
    (sentAs : SentAs mediaType charset sent) (otherAs : SentAs mediaType charset other) :
    sent = other := by
  cases sentAs with
  | withCharset given isText canCarry =>
      cases otherAs with
      | withCharset again _ _ =>
          obtain rfl := Option.some.inj (given.symm.trans again)
          rfl
      | bare without => exact absurd canCarry (without _ given isText)
  | bare without =>
      cases otherAs with
      | withCharset given isText canCarry => exact absurd canCarry (without _ given isText)
      | bare _ => rfl

variable {page : ContentPage}

theorem takesCharset_iff (page : ContentPage) :
    page.takesCharset = true ↔ "text/".toList <+: page.mediaType := by
  rw [takesCharset, List.isPrefixOf_iff_prefix]

theorem contentType_sentAs (bytes : page.bareType.bytes = Utf8.encode page.mediaType)
    (charset : Option Text) :
    ∃ text, SentAs page.mediaType charset text ∧
      (page.contentType charset).bytes = Utf8.encode text := by
  cases charset with
  | none => exact ⟨_, .bare (by rintro _ ⟨⟩), bytes⟩
  | some name =>
      by_cases isText : page.takesCharset = true
      · have prefixed := (takesCharset_iff page).mp isText
        cases made : HeaderValue.ofText? (page.typeWithCharset name) with
        | some value =>
            have canCarry := (HeaderValue.exists_ofText?_iff _).mp ⟨value, made⟩
            refine ⟨_, .withCharset rfl prefixed canCarry, ?_⟩
            rw [contentType, if_pos isText, made]
            exact HeaderValue.bytes_of_ofText? made
        | none =>
            have cannot := (HeaderValue.ofText?_eq_none_iff _).mp made
            refine ⟨_, .bare ?_, ?_⟩
            · rintro _ ⟨⟩ _
              exact cannot
            · rw [contentType, if_pos isText, made]
              exact bytes
      · refine ⟨_, .bare ?_, ?_⟩
        · intro _ _ prefixed
          exact absurd ((takesCharset_iff page).mpr prefixed) isText
        · rw [contentType, if_neg isText]
          exact bytes

/-- The value that is sent is the one of the text that the page is sent as. -/
theorem contentType_eq_iff (bytes : page.bareType.bytes = Utf8.encode page.mediaType)
    (charset : Option Text) (value : HeaderValue) :
    page.contentType charset = value ↔
      ∃ text, SentAs page.mediaType charset text ∧ value.bytes = Utf8.encode text := by
  obtain ⟨text, sentAs, sentBytes⟩ := contentType_sentAs bytes charset
  constructor
  · rintro rfl
    exact ⟨text, sentAs, sentBytes⟩
  · rintro ⟨other, otherAs, otherBytes⟩
    obtain rfl := sentAs.unique otherAs
    exact HeaderValue.eq_of_bytes (sentBytes.trans otherBytes.symm)

end ContentPage

/-! ## The whole answer -/

/-- `sent` is the response `left` with the text `body` of a page of `mediaType`. -/
structure Response.Delivered (mediaType body : Text) (left sent : Response) : Prop where
  body : sent.body = .text body
  status : sent.status = left.status
  charset : sent.charset = left.charset
  /-- Fields of other names stay, in their order. -/
  others : sent.headers.filter (fun field => field.1 ≠ .contentType) =
    left.headers.filter fun field => field.1 ≠ .contentType
  /-- Types that were left are kept, each in its place. -/
  kept : left.headers.getAll .contentType ≠ [] → sent.headers = left.headers
  /-- Otherwise there is one, behind all other fields. -/
  typed : left.headers.getAll .contentType = [] →
    ∃ value text, ContentPage.SentAs mediaType left.charset text ∧
      value.bytes = Utf8.encode text ∧
      sent.headers.getAll .contentType = [value] ∧
      sent.headers = left.headers ++ [(.contentType, value)]

namespace NegotiatedResource

section Deliver

variable {page : ContentPage} {body : Text} {left : Response}

theorem deliver_of_typed (some : left.headers.getAll .contentType ≠ []) :
    deliver page body left = { left with body := .text body } := by
  have has : left.headers.has .contentType = true := by
    rw [← Bool.not_eq_false, Headers.has_eq_false_iff]
    exact some
  rw [deliver, if_pos has]

theorem deliver_of_untyped (none : left.headers.getAll .contentType = []) :
    deliver page body left =
      { left with
        body := .text body
        headers := left.headers ++ [(.contentType, page.contentType left.charset)] } := by
  have hasNot : left.headers.has .contentType = false := (Headers.has_eq_false_iff ..).mpr none
  rw [deliver, if_neg (by simp [hasNot]), Response.setHeader, Headers.set_of_getAll_eq_nil _ _ none]

theorem delivered_deliver (bytes : page.bareType.bytes = Utf8.encode page.mediaType)
    (body : Text) (left : Response) :
    left.Delivered page.mediaType body (deliver page body left) := by
  by_cases none : left.headers.getAll .contentType = []
  · obtain ⟨text, sentAs, sentBytes⟩ := ContentPage.contentType_sentAs bytes left.charset
    rw [deliver_of_untyped none]
    refine ⟨rfl, rfl, rfl, ?_, fun some => absurd none some, fun _ => ?_⟩
    · simp
    · refine ⟨_, text, sentAs, sentBytes, ?_, rfl⟩
      rw [← Headers.set_of_getAll_eq_nil _ _ none, Headers.getAll_set_self]
  · rw [deliver_of_typed none]
    exact ⟨rfl, rfl, rfl, rfl, fun _ => rfl, fun missing => absurd missing none⟩

/-- Nothing is left open: what is delivered is one response. -/
theorem delivered_iff (bytes : page.bareType.bytes = Utf8.encode page.mediaType) (body : Text)
    (left sent : Response) :
    left.Delivered page.mediaType body sent ↔ sent = deliver page body left := by
  constructor
  · intro delivered
    obtain ⟨status, sentBody, headers, charset⟩ := sent
    obtain ⟨rfl, rfl, rfl, -, kept, typed⟩ := delivered
    by_cases none : left.headers.getAll .contentType = []
    · obtain ⟨value, text, sentAs, sentBytes, -, rfl⟩ := typed none
      obtain rfl := (ContentPage.contentType_eq_iff bytes _ value).mpr ⟨text, sentAs, sentBytes⟩
      rw [deliver_of_untyped none]
    · obtain rfl := kept none
      rw [deliver_of_typed none]
  · rintro rfl
    exact delivered_deliver bytes body left

end Deliver

section Answers

variable {known : Text → Option Text} {resource : NegotiatedResource}

theorem Chosen.mediaType_eq {request : Request} {mediaType : Text} {index : Nat}
    {page : ContentPage} (chosen : resource.Chosen known request mediaType index page) :
    page.mediaType = mediaType := by
  have here := (chosen.only index).mpr rfl
  rw [getElem?_availableTypes chosen.there] at here
  exact Option.some.inj here

theorem Chosen.bytes {request : Request} {mediaType : Text} {index : Nat} {page : ContentPage}
    (chosen : resource.Chosen known request mediaType index page)
    (wellFormed : resource.WellFormed) :
    page.bareType.bytes = Utf8.encode page.mediaType :=
  wellFormed.bytes page (List.mem_of_getElem? chosen.there)

variable (known) in
/-- One page is chosen for a request, or negotiation fails. -/
theorem chosen_or_refused (wellFormed : resource.WellFormed) (request : Request) :
    (∃ mediaType index page, resource.Chosen known request mediaType index page) ∨
      ∃ refusal, resource.select known request = .error refusal := by
  cases selected : resource.select known request with
  | error refusal => exact .inr ⟨refusal, rfl⟩
  | ok index =>
      obtain ⟨mediaType, page, chosen⟩ := exists_chosen wellFormed selected
      exact .inl ⟨mediaType, index, page, chosen⟩

theorem getResponse_of_refused {context : Context} {refusal : NotAcceptable}
    (refused : resource.select known context.request = .error refusal) :
    resource.getResponse known context =
      .error (.raised (NotAcceptable.response ⟨resource.availableTypes⟩)) := by
  rw [getResponse_of_error refused, resource.select_eq_error refused]

/-- A page is delivered when it is chosen and rendered. -/
theorem getResponse_eq_ok_iff (wellFormed : resource.WellFormed) (context : Context)
    (sent : Response) :
    resource.getResponse known context = .ok sent ↔
      ∃ mediaType index page body, resource.Chosen known context.request mediaType index page ∧
        page.render context = .ok body ∧ context.response.Delivered mediaType body sent := by
  constructor
  · intro answered
    rcases chosen_or_refused known wellFormed context.request with
      ⟨mediaType, index, page, chosen⟩ | ⟨refusal, refused⟩
    · rw [chosen.getResponse] at answered
      cases rendered : page.render context with
      | error fault =>
          rw [rendered] at answered
          cases answered
      | ok body =>
          rw [rendered] at answered
          refine ⟨mediaType, index, page, body, chosen, rendered, ?_⟩
          rw [← chosen.mediaType_eq, delivered_iff (chosen.bytes wellFormed)]
          exact (Except.ok.inj answered).symm
    · rw [getResponse_of_refused refused] at answered
      cases answered
  · rintro ⟨mediaType, index, page, body, chosen, rendered, delivered⟩
    rw [← chosen.mediaType_eq, delivered_iff (chosen.bytes wellFormed)] at delivered
    rw [chosen.getResponse, rendered, delivered]

/-- Otherwise negotiation has failed, or the renderer of the chosen page. -/
theorem getResponse_eq_error_iff (wellFormed : resource.WellFormed) (context : Context)
    (error : RequestError) :
    resource.getResponse known context = .error error ↔
      ((∃ refusal, resource.select known context.request = .error refusal) ∧
        error = .raised (NotAcceptable.response ⟨resource.availableTypes⟩)) ∨
      ∃ mediaType index page fault, resource.Chosen known context.request mediaType index page ∧
        page.render context = .error fault ∧ error = .render fault := by
  constructor
  · intro failed
    rcases chosen_or_refused known wellFormed context.request with
      ⟨mediaType, index, page, chosen⟩ | ⟨refusal, refused⟩
    · rw [chosen.getResponse] at failed
      cases rendered : page.render context with
      | error fault =>
          rw [rendered] at failed
          exact .inr ⟨mediaType, index, page, fault, chosen, rendered,
            (Except.error.inj failed).symm⟩
      | ok body =>
          rw [rendered] at failed
          cases failed
    · rw [getResponse_of_refused refused] at failed
      exact .inl ⟨⟨refusal, refused⟩, (Except.error.inj failed).symm⟩
  · rintro (⟨⟨refusal, refused⟩, rfl⟩ | ⟨mediaType, index, page, fault, chosen, rendered, rfl⟩)
    · exact getResponse_of_refused refused
    · rw [chosen.getResponse, rendered]

/-- **A page is put into what logic has left, and a refusal has nothing of it.**  An answer is the
text of the chosen page in the place of any body, with the status, the charset and the other header
fields that were left.  Types that were left are kept; otherwise the one type is that of the page,
with the charset when it is a text type and the two can be sent together.  When no page fits the
request, what is raised is made of the media types alone, so it is the same for every context.  No
other error comes up but that of the chosen page's renderer.  All this holds whichever extensions
are known. -/
theorem getResponse_delivers {kind : Kind} {source : Source} {registry : Registry}
    {settings : Settings} {resource : NegotiatedResource}
    (compiled : Resource.compile kind source registry settings = .ok (.negotiated resource))
    (known : Text → Option Text) (context : Context) :
    (∀ sent, resource.getResponse known context = .ok sent ↔
      ∃ mediaType index page body, resource.Chosen known context.request mediaType index page ∧
        page.render context = .ok body ∧ context.response.Delivered mediaType body sent) ∧
    ∀ error, resource.getResponse known context = .error error ↔
      ((∃ refusal, resource.select known context.request = .error refusal) ∧
        error = .raised
          { status := .notAcceptable
            body := .text
              ("The following media types are available: " ++
                Text.join ", " resource.availableTypes ++ ".")
            headers := [(.contentType, .plainText)]
            charset := none }) ∨
      ∃ mediaType index page fault, resource.Chosen known context.request mediaType index page ∧
        page.render context = .error fault ∧ error = .render fault := by
  have wellFormed := wellFormed_of_compile compiled
  exact ⟨getResponse_eq_ok_iff wellFormed context, getResponse_eq_error_iff wellFormed context⟩

/-- Whatever is left, the second page is put into it for a request with an extension of its type.  A
charset of one word is sent with this type, and one of two lines is not.  A request with the
extension of an image is refused with the two types, whatever is left. -/
theorem getResponse_delivers_html :
    let source : Source := ⟨"p", ["", "text/plain\na", "text/html\nb"]⟩
    let known : Text → Option Text := fun extension =>
      [("html".toList, "text/html".toList), ("bmp".toList, "image/bmp".toList)].lookup extension
    let html : Request := { uri := ⟨"/x.html", none⟩ }
    let image : Request := { uri := ⟨"/x.bmp", none⟩ }
    ∃ resource,
      Resource.compile .negotiated source (Registry.empty.register "raw" rawFactory)
        { defaultRenderer := "raw" } = .ok (.negotiated resource) ∧
      (∀ left : Response, ∃ sent,
        resource.getResponse known { request := html, response := left } = .ok sent ∧
          left.Delivered "text/html" "b" sent) ∧
      ContentPage.SentAs "text/html" (some "latin1".toList) "text/html; charset=latin1" ∧
      ContentPage.SentAs "text/html" (some "a\nb".toList) "text/html" ∧
      ∀ left values,
        resource.getResponse known { request := image, response := left, values } =
        .error (.raised
          { status := .notAcceptable
            body := .text "The following media types are available: text/plain, text/html."
            headers := [(.contentType, .plainText)]
            charset := none }) := by
  intro source known html image
  obtain ⟨resource, compiled, types, second⟩ : ∃ resource,
      Resource.compile .negotiated source (Registry.empty.register "raw" rawFactory)
          { defaultRenderer := "raw" } = .ok (.negotiated resource) ∧
        resource.availableTypes = ["text/plain".toList, "text/html".toList] ∧
        ∃ page, resource.pages[1]? = some page ∧ ∀ context, page.render context = .ok "b".toList :=
    ⟨_, rfl, rfl, _, rfl, fun _ => rfl⟩
  refine ⟨resource, compiled, ?_, ?_, ?_, ?_⟩
  · intro left
    obtain ⟨page, there, renders⟩ := second
    have selected : resource.select known html = .ok 1 := by
      rw [select, types]
      decide +kernel
    have answered : resource.getResponse known { request := html, response := left } =
        .ok (deliver page "b" left) := by
      rw [getResponse_of_selected selected there, renders]
    obtain ⟨delivers, -⟩ :=
      getResponse_delivers compiled known { request := html, response := left }
    obtain ⟨mediaType, index, other, body, chosen, rendered, delivered⟩ :=
      (delivers _).mp answered
    obtain rfl := Except.ok.inj (selected.symm.trans chosen.selected)
    obtain rfl := Option.some.inj (there.symm.trans chosen.there)
    obtain rfl := Except.ok.inj ((renders _).symm.trans rendered)
    have isHtml : some "text/html".toList = some mediaType := by
      rw [← (chosen.only 1).mpr rfl, types]
      rfl
    obtain rfl := Option.some.inj isHtml
    exact ⟨_, answered, delivered⟩
  · exact .withCharset rfl (by decide)
      ((HeaderValue.all_isHeaderByte_encode_iff _).mp (by decide))
  · refine .bare ?_
    rintro _ ⟨⟩ _ canCarry
    exact absurd (canCarry '\n' (by decide)) (by decide)
  · intro left values
    have refused : resource.select known image = .error ⟨resource.availableTypes⟩ := by
      rw [select, types]
      decide +kernel
    obtain ⟨-, fails⟩ :=
      getResponse_delivers compiled known { request := image, response := left, values }
    refine (fails _).mpr (.inl ⟨⟨_, refused⟩, ?_⟩)
    rw [types]
    rfl

end Answers
end NegotiatedResource
end Multipage
