/-
# Multipage.Proofs.Resource.Charset -- the charset behind a type, and the case of its letters

Two resources that are alike but for the case of letters in their media types
(`NegotiatedResource.Recased`) choose the same place for every request, since negotiation compares
types in letters of any case (`NegotiatedResource.Recased.select`).  Whether a charset goes behind
the type is asked of its first five characters, letter by letter
(`Response.Delivered.carriesCharset_iff`), so the two answers differ there when one type alone
is spelled with a small `text/` (`NegotiatedResource.getResponse_recased`).  A page of the type
`Text/html` is sent without the charset that goes with `text/html`
(`NegotiatedResource.capital_text_drops_charset`).
-/
import Multipage.Proofs.Media.LetterCase
import Multipage.Proofs.Resource.Delivery

namespace Multipage

set_option autoImplicit false

open Text

/-! ## Answers with a charset in their type -/

namespace HeaderValue

theorem canCarry_of_isMediaType {t : Text} (declared : isMediaType t = true) : CanCarry t := by
  obtain ⟨value, made, -⟩ := exists_of_isMediaType declared
  exact (exists_ofText?_iff t).mp ⟨value, made⟩

/-- With a declared type before it, a charset is sent when it can be sent alone. -/
theorem canCarry_withCharset_iff {t : Text} (declared : isMediaType t = true) (name : Text) :
    CanCarry (t ++ "; charset=" ++ name) ↔ CanCarry name := by
  have before : CanCarry (t ++ "; charset=") := by
    refine List.forall_mem_append.mpr ⟨canCarry_of_isMediaType declared, ?_⟩
    exact (all_isHeaderByte_encode_iff _).mp (by decide)
  exact List.forall_mem_append.trans (and_iff_right before)

end HeaderValue

namespace Response

/-- The type of the answer ends in the charset of the answer. -/
def CarriesCharset (sent : Response) : Prop :=
  ∃ name value, sent.charset = some name ∧ sent.headers.getAll .contentType = [value] ∧
    Utf8.encode ("; charset=".toList ++ name) <:+ value.bytes

/-- A declared type has no semicolon, so no charset is read from it alone. -/
theorem charset_not_suffix {t : Text} (declared : isMediaType t = true) (name : Text) :
    ¬Utf8.encode ("; charset=".toList ++ name) <:+ Utf8.encode t := by
  obtain ⟨type, subtype, halves⟩ := (isMediaType_iff t).mp declared
  intro ends
  have semicolon : (0x3B : UInt8) ∈ Utf8.encode ("; charset=".toList ++ name) := by
    rw [Utf8.encode_append]
    exact List.mem_append_left _ (by decide)
  have absent : (0x3B : UInt8) ∉ Utf8.encode t :=
    Utf8.notMem_encode_of_ascii (by decide) (halves.notMem (by decide) (by decide))
  exact absent (ends.subset semicolon)

/-- Where no type was left, the charset goes behind a type that begins with `text/`. -/
theorem Delivered.carriesCharset_iff {mediaType body : Text} {left sent : Response}
    (delivered : left.Delivered mediaType body sent) (declared : isMediaType mediaType = true)
    (untyped : left.headers.getAll .contentType = []) :
    sent.CarriesCharset ↔ ∃ name, left.charset = some name ∧ HeaderValue.CanCarry name ∧
      "text/".toList <+: mediaType := by
  obtain ⟨value, text, sentAs, bytes, field, -⟩ := delivered.typed untyped
  constructor
  · rintro ⟨name, other, -, again, ends⟩
    obtain rfl : value = other := List.singleton_inj.mp (field.symm.trans again)
    rw [bytes] at ends
    cases sentAs with
    | withCharset given isText canCarry =>
        exact ⟨_, given, (HeaderValue.canCarry_withCharset_iff declared _).mp canCarry, isText⟩
    | bare _ => exact absurd ends (charset_not_suffix declared name)
  · rintro ⟨name, given, canCarry, isText⟩
    have whole := (HeaderValue.canCarry_withCharset_iff declared name).mpr canCarry
    obtain rfl := sentAs.unique (.withCharset given isText whole)
    refine ⟨name, value, delivered.charset.trans given, field, ?_⟩
    rw [bytes, List.append_assoc, Utf8.encode_append mediaType]
    exact List.suffix_append ..

end Response

/-! ## Resources that differ in case -/

/-- The same choice is made among types that are the same in letters of any case. -/
theorem negotiate_recased {types others : List Text}
    (declared : ∀ t ∈ types, isMediaType t = true)
    (othersDeclared : ∀ t ∈ others, isMediaType t = true)
    (same : types.map asciiLower = others.map asciiLower) (accept : Option Text) (index : Nat) :
    negotiate types accept = .ok index ↔ negotiate others accept = .ok index := by
  have count : types.isEmpty = others.isEmpty := by
    rw [← List.isEmpty_map, same, List.isEmpty_map]
  have choice : ∀ accept, bestMatch? types accept = bestMatch? others accept := by
    intro accept
    rw [bestMatch?, bestMatch?, acceptableTypes_lowered declared,
      acceptableTypes_lowered othersDeclared, same]
  simp only [negotiate, count, choice]
  cases accept with
  | none => cases others <;> simp
  | some accept => cases found : bestMatch? others accept <;> simp [found]

/-- `other` is the page with letters of other case in its media type.  The header value is that of
the type. -/
structure ContentPage.Recased (page other : ContentPage) : Prop where
  mediaType : asciiLower other.mediaType = asciiLower page.mediaType
  rendererName : other.rendererName = page.rendererName
  render : other.render = page.render

namespace NegotiatedResource

/-- `other` is the resource with letters of other case in its media types. -/
structure Recased (resource other : NegotiatedResource) : Prop where
  path : other.path = resource.path
  logicPages : other.logicPages = resource.logicPages
  charset : other.charset = resource.charset
  pages : List.Forall₂ ContentPage.Recased resource.pages other.pages

section Recased

variable {resource other : NegotiatedResource} (recased : resource.Recased other)
include recased

theorem Recased.availableTypes :
    resource.availableTypes.map asciiLower = other.availableTypes.map asciiLower := by
  rw [NegotiatedResource.availableTypes, NegotiatedResource.availableTypes, List.map_map,
    List.map_map, ← List.forall₂_eq_eq_eq, List.forall₂_map_left_iff, List.forall₂_map_right_iff]
  exact recased.pages.imp fun _ _ page => page.mediaType.symm

theorem Recased.exists_page {index : Nat} {page : ContentPage}
    (there : resource.pages[index]? = some page) :
    ∃ recasedPage, other.pages[index]? = some recasedPage ∧ page.Recased recasedPage := by
  obtain ⟨inPages, rfl⟩ := List.getElem?_eq_some_iff.mp there
  have inOthers : index < other.pages.length := recased.pages.length_eq ▸ inPages
  exact ⟨_, List.getElem?_eq_getElem inOthers, recased.pages.get inPages inOthers⟩

theorem Recased.select (wellFormed : resource.WellFormed) (otherWellFormed : other.WellFormed)
    (known : Text → Option Text) (request : Request) (index : Nat) :
    resource.select known request = .ok index ↔ other.select known request = .ok index :=
  negotiate_recased wellFormed.declared otherWellFormed.declared recased.availableTypes _ index

end Recased

/-- **The charset depends on the case of four letters at most.**  Take two compiled resources that
are alike but for the case of letters in their media types, and a context with no type left in it.
When one resource answers, the other answers with the same text from the same place.  Both answers
have the charset behind their type, or none has, exactly when there is no charset that can be sent
or both types or none of them begin with `text/`, letter by letter. -/
theorem getResponse_recased {kind otherKind : Kind} {source otherSource : Source}
    {registry otherRegistry : Registry} {settings : Settings} {resource other : NegotiatedResource}
    (compiled : Resource.compile kind source registry settings = .ok (.negotiated resource))
    (otherCompiled :
      Resource.compile otherKind otherSource otherRegistry settings = .ok (.negotiated other))
    (recased : resource.Recased other) {known : Text → Option Text} {context : Context}
    (untyped : context.response.headers.getAll .contentType = []) {sent : Response}
    (answered : resource.getResponse known context = .ok sent) :
    ∃ otherSent index t u body, other.getResponse known context = .ok otherSent ∧
      resource.select known context.request = .ok index ∧
      other.select known context.request = .ok index ∧
      resource.availableTypes[index]? = some t ∧ other.availableTypes[index]? = some u ∧
      context.response.Delivered t body sent ∧ context.response.Delivered u body otherSent ∧
      ((sent.CarriesCharset ↔ otherSent.CarriesCharset) ↔
        ∀ name, context.response.charset = some name → HeaderValue.CanCarry name →
          ("text/".toList <+: t ↔ "text/".toList <+: u)) := by
  have wellFormed := wellFormed_of_compile compiled
  have otherWellFormed := wellFormed_of_compile otherCompiled
  obtain ⟨t, index, page, body, chosen, rendered, delivered⟩ :=
    (getResponse_eq_ok_iff wellFormed context sent).mp answered
  obtain ⟨otherPage, otherThere, alike⟩ := recased.exists_page chosen.there
  have otherSelected :=
    (recased.select wellFormed otherWellFormed known context.request index).mp chosen.selected
  have otherRendered : otherPage.render context = .ok body := by
    rw [alike.render, rendered]
  have otherAnswered := getResponse_of_selected otherSelected otherThere
  rw [otherRendered] at otherAnswered
  have otherDelivered : context.response.Delivered otherPage.mediaType body _ :=
    delivered_deliver (otherWellFormed.bytes _ (List.mem_of_getElem? otherThere)) body
      context.response
  have here := (chosen.only index).mpr rfl
  have otherHere := getElem?_availableTypes otherThere
  refine ⟨_, index, t, otherPage.mediaType, body, otherAnswered, chosen.selected, otherSelected,
    here, otherHere, delivered, otherDelivered, ?_⟩
  -- Both answers have the same charset to carry, so only the two types can make a difference.
  rw [delivered.carriesCharset_iff (wellFormed.declared t (List.mem_of_getElem? here)) untyped,
    otherDelivered.carriesCharset_iff
      (otherWellFormed.declared _ (List.mem_of_getElem? otherHere)) untyped]
  cases charset : context.response.charset with
  | none => simp
  | some name => by_cases canCarry : HeaderValue.CanCarry name <;> simp [canCarry]

/-- A page that is shown as it stands. -/
def rawPage (t body : Text) (legal : (Utf8.encode t).all isHeaderByte = true) : ContentPage :=
  { mediaType := t, rendererName := "raw", render := fun _ => .ok body
    bareType := ⟨Utf8.encode t, legal⟩ }

/-- A page of the type `t`, and one of plain text behind it. -/
def rawPair (t : Text) (legal : (Utf8.encode t).all isHeaderByte = true) : NegotiatedResource :=
  { path := "p", logicPages := [[]], charset := some "UTF-8"
    pages := [rawPage t "a" legal, rawPage "text/plain" "b" (by decide)] }

theorem select_rawPair (known : Text → Option Text) {t : Text}
    (legal : (Utf8.encode t).all isHeaderByte = true) :
    (rawPair t legal).select known {} = .ok 0 := rfl

theorem getResponse_rawPair (known : Text → Option Text) {t : Text}
    (legal : (Utf8.encode t).all isHeaderByte = true) (left : Response) :
    (rawPair t legal).getResponse known { response := left } =
      .ok (deliver (rawPage t "a" legal) "a" left) := by
  have there : (rawPair t legal).pages[0]? = some (rawPage t "a" legal) := rfl
  rw [getResponse_of_selected (select_rawPair known legal) there, rawPage]

theorem recased_rawPair {t u : Text} (legal : (Utf8.encode t).all isHeaderByte = true)
    (otherLegal : (Utf8.encode u).all isHeaderByte = true) (same : asciiLower u = asciiLower t) :
    (rawPair t legal).Recased (rawPair u otherLegal) := by
  exact ⟨rfl, rfl, rfl, .cons ⟨same, rfl, rfl⟩ (.cons ⟨rfl, rfl, rfl⟩ .nil)⟩

/-- Both types begin with `text/`, so both answers have the charset. -/
theorem getResponse_recased_html :
    let registry := Registry.empty.register "raw" rawFactory
    let settings : Settings := { defaultRenderer := "raw" }
    let known : Text → Option Text := fun _ => none
    let left : Response := { charset := some "UTF-8" }
    ∃ resource other sent otherSent,
      Resource.compile .negotiated ⟨"p", ["", "text/html\na", "text/plain\nb"]⟩ registry settings =
        .ok (.negotiated resource) ∧
      Resource.compile .negotiated ⟨"p", ["", "text/HTML\na", "text/plain\nb"]⟩ registry settings =
        .ok (.negotiated other) ∧
      resource.Recased other ∧ resource.getResponse known { response := left } = .ok sent ∧
      other.getResponse known { response := left } = .ok otherSent ∧
      (sent.CarriesCharset ↔ otherSent.CarriesCharset) := by
  intro registry settings known left
  have compiled :
      Resource.compile .negotiated ⟨"p", ["", "text/html\na", "text/plain\nb"]⟩ registry settings =
        .ok (.negotiated (rawPair "text/html" (by decide))) := rfl
  have otherCompiled :
      Resource.compile .negotiated ⟨"p", ["", "text/HTML\na", "text/plain\nb"]⟩ registry settings =
        .ok (.negotiated (rawPair "text/HTML" (by decide))) := rfl
  have recased : (rawPair "text/html" (by decide)).Recased (rawPair "text/HTML" (by decide)) :=
    recased_rawPair _ _ (by decide)
  have answered := getResponse_rawPair known (t := "text/html") (by decide) left
  obtain ⟨otherSent, index, t, u, _, otherAnswered, selected, -, here, otherHere, -, -, agrees⟩ :=
    getResponse_recased compiled otherCompiled recased rfl answered
  obtain rfl : 0 = index := Except.ok.inj selected
  obtain rfl : "text/html".toList = t := Option.some.inj here
  obtain rfl : "text/HTML".toList = u := Option.some.inj otherHere
  refine ⟨_, _, _, _, compiled, otherCompiled, recased, answered, otherAnswered, agrees.mpr ?_⟩
  intro _ _ _
  exact iff_of_true (by decide) (by decide)

/-- With the first letter of the type goes the charset, whichever extensions are known. -/
theorem capital_text_drops_charset :
    let registry := Registry.empty.register "raw" rawFactory
    let settings : Settings := { defaultRenderer := "raw" }
    let left : Response := { charset := some "UTF-8" }
    ∃ resource other sent otherSent,
      Resource.compile .negotiated ⟨"p", ["", "text/html\na", "text/plain\nb"]⟩ registry settings =
        .ok (.negotiated resource) ∧
      Resource.compile .negotiated ⟨"p", ["", "Text/html\na", "text/plain\nb"]⟩ registry settings =
        .ok (.negotiated other) ∧
      resource.Recased other ∧ left.headers.getAll .contentType = [] ∧
      (∀ known, resource.select known {} = .ok 0 ∧ other.select known {} = .ok 0 ∧
        resource.getResponse known { response := left } = .ok sent ∧
        other.getResponse known { response := left } = .ok otherSent) ∧
      sent.CarriesCharset ∧ ¬otherSent.CarriesCharset := by
  intro registry settings left
  refine ⟨rawPair "text/html" (by decide), rawPair "Text/html" (by decide), _, _, rfl, rfl,
    recased_rawPair _ _ (by decide), rfl,
    fun known => ⟨select_rawPair known _, select_rawPair known _, getResponse_rawPair known _ left,
      getResponse_rawPair known _ left⟩, ?_, ?_⟩
  · rw [(delivered_deliver rfl "a" left).carriesCharset_iff (by decide) rfl]
    exact ⟨"UTF-8".toList, rfl, (HeaderValue.all_isHeaderByte_encode_iff _).mp (by decide),
      by decide⟩
  · rw [(delivered_deliver rfl "a" left).carriesCharset_iff (by decide) rfl]
    rintro ⟨-, -, -, isText⟩
    exact absurd isText (by decide)

end NegotiatedResource
end Multipage
