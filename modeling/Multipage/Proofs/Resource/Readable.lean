/-
# Multipage.Proofs.Resource.Readable -- the types that are sent can be read

The bytes of a header value need not be text, and a value is read only when it is printable ASCII
and tabs.  So the value of a text of ASCII reads as this text exactly when its characters are of
that kind (`HeaderValue.text?_of_ascii`).

The media types of a specline and of the settings are of that kind, and so is a charset that
settings may have, alone and behind a media type (`HeaderValue.readable_withCharset`).  So a
compiled resource never drops the charset of its settings, and the type of what it answers is read
back as it was declared (`Resource.respond_type_reads_back`).
-/
import Multipage.Proofs.Resource.Charset
import Multipage.Proofs.Resource.Run
import Multipage.Proofs.Resource.Selection

namespace Multipage

set_option autoImplicit false

/-! ## Values that read as text -/

theorem range_of_mem_tokenMarks : ∀ c ∈ tokenMarks, 0x20 < c.toNat ∧ c.toNat < 0x7F := by
  unfold tokenMarks
  simp

/-- A character of a token is printable ASCII, and no space. -/
theorem range_of_isTokenChar {c : Char} (token : isTokenChar c = true) :
    0x20 < c.toNat ∧ c.toNat < 0x7F := by
  unfold isTokenChar at token
  rcases Bool.or_eq_true_iff.mp token with alphanumeric | mark
  · rw [Char.isAlphanum, Bool.or_eq_true, Text.isAlpha_iff, Text.isDigit_iff] at alphanumeric
    omega
  · exact range_of_mem_tokenMarks c (List.contains_iff_mem.mp mark)

namespace HeaderValue

/-- The text is printable ASCII and tabs. -/
def Readable (t : Text) : Prop := ∀ c ∈ t, c = '\t' ∨ (0x20 ≤ c.toNat ∧ c.toNat < 0x7F)

theorem Readable.ascii {t : Text} (readable : Readable t) : ∀ c ∈ t, c.toNat < 128 := by
  intro c mem
  rcases readable c mem with rfl | visible
  · decide
  · omega

theorem Readable.canCarry {t : Text} (readable : Readable t) : CanCarry t := by
  intro c mem
  rcases readable c mem with tab | visible
  · exact .inl tab
  · exact .inr (by omega)

theorem readable_append {t u : Text} (first : Readable t) (second : Readable u) :
    Readable (t ++ u) := List.forall_mem_append.mpr ⟨first, second⟩

theorem isHeaderTextByte_iff (b : UInt8) :
    isHeaderTextByte b = true ↔ b.toNat = 0x09 ∨ (0x20 ≤ b.toNat ∧ b.toNat < 0x7F) := by
  simp only [isHeaderTextByte, Bool.or_eq_true, Bool.and_eq_true, beq_iff_eq,
    decide_eq_true_iff, UInt8.le_iff_toNat_le, UInt8.lt_iff_toNat_lt, ← UInt8.toNat_inj,
    UInt8.reduceToNat]

/-- The byte of a character of ASCII may be read when the character may. -/
theorem isHeaderTextByte_ofNat_iff {c : Char} (ascii : c.toNat < 128) :
    isHeaderTextByte (.ofNat c.toNat) = true ↔
      c = '\t' ∨ (0x20 ≤ c.toNat ∧ c.toNat < 0x7F) := by
  rw [isHeaderTextByte_iff, Utf8.toNat_ofNat_ascii c ascii, ← Char.toNat_inj]
  rfl

/-- The value of a text of ASCII reads as this text exactly when its characters may be read. -/
theorem text?_of_ascii {value : HeaderValue} {t : Text} (ascii : ∀ c ∈ t, c.toNat < 128)
    (bytes : value.bytes = Utf8.encode t) :
    value.text? = some t ↔ Readable t := by
  rw [Utf8.encode_ascii ascii] at bytes
  have back : (value.bytes.map fun b => Char.ofNat b.toNat) = t := by
    rw [bytes, List.map_map]
    refine (List.map_congr_left fun c mem => ?_).trans (List.map_id t)
    rw [Function.comp_apply, Utf8.toNat_ofNat_ascii c (ascii c mem), Char.ofNat_toNat, id]
  have legal : value.bytes.all isHeaderTextByte = true ↔ Readable t := by
    rw [List.all_eq_true, bytes, List.forall_mem_map]
    exact forall₂_congr fun c mem => isHeaderTextByte_ofNat_iff (ascii c mem)
  rw [text?, back, Option.ite_none_right_eq_some, legal]
  exact and_iff_left rfl

theorem readable_of_isMediaType {t : Text} (declared : isMediaType t = true) : Readable t := by
  obtain ⟨type, subtype, halves⟩ := (isMediaType_iff t).mp declared
  intro c mem
  exact .inr (halves.printable mem)

theorem readable_of_isCharset {name : Text} (sendable : isCharset name = true) :
    Readable name := by
  intro c mem
  have range := range_of_isTokenChar (((Text.isRunOf_iff ..).mp sendable).2 c mem)
  exact .inr (by omega)

/-- A charset that settings may have can be read behind a declared type. -/
theorem readable_withCharset {t name : Text} (declared : isMediaType t = true)
    (sendable : isCharset name = true) : Readable (t ++ "; charset=" ++ name) := by
  have link : Readable "; charset=" := by
    simp [Readable]
  exact readable_append (readable_append (readable_of_isMediaType declared) link)
    (readable_of_isCharset sendable)

end HeaderValue

namespace Response

/-- The type of `sent` reads as `mediaType`, with the charset behind it when the type is a text
type and there is one. -/
structure ReadsAs (mediaType : Text) (charset : Option Text) (sent : Response) : Prop where
  withCharset : ∀ name, charset = some name → "text/".toList <+: mediaType →
    sent.contentType? = some (mediaType ++ "; charset=" ++ name)
  bare : charset = none ∨ ¬"text/".toList <+: mediaType → sent.contentType? = some mediaType

/-- The one type of an answer is the one that is read. -/
theorem contentType?_eq_some {sent : Response} {value : HeaderValue} {t : Text}
    (only : sent.headers.getAll .contentType = [value]) (bytes : value.bytes = Utf8.encode t)
    (readable : HeaderValue.Readable t) : sent.contentType? = some t := by
  rw [contentType?, Headers.text?, Headers.get?_eq_head?_getAll, only]
  exact (HeaderValue.text?_of_ascii readable.ascii bytes).mpr readable

/-- Where no type was left, the type of the page is read back from the answer. -/
theorem Delivered.readsAs {mediaType body : Text} {left sent : Response}
    (delivered : left.Delivered mediaType body sent) (declared : isMediaType mediaType = true)
    (sendable : ∀ name, left.charset = some name → isCharset name = true)
    (untyped : left.headers.getAll .contentType = []) :
    sent.ReadsAs mediaType left.charset := by
  obtain ⟨value, text, sentAs, bytes, only, -⟩ := delivered.typed untyped
  constructor
  case withCharset =>
    intro name given isText
    have readable := HeaderValue.readable_withCharset declared (sendable name given)
    obtain rfl := sentAs.unique (.withCharset given isText readable.canCarry)
    exact contentType?_eq_some only bytes readable
  case bare =>
    intro without
    have alone : ContentPage.SentAs mediaType left.charset mediaType := by
      refine .bare fun name given isText => ?_
      rcases without with none | noText
      · simp [none] at given
      · exact absurd isText noText
    obtain rfl := sentAs.unique alone
    exact contentType?_eq_some only bytes (HeaderValue.readable_of_isMediaType declared)

end Response

/-! ## Negotiated answers -/

namespace NegotiatedResource

variable {known : Text → Option Text} {resource : NegotiatedResource}

/-- A charset that settings may have is never dropped. -/
theorem exists_typeWithCharset (wellFormed : resource.WellFormed) {page : ContentPage}
    (mem : page ∈ resource.pages) {name : Text} (sendable : isCharset name = true) :
    ∃ value, HeaderValue.ofText? (page.typeWithCharset name) = some value := by
  apply (HeaderValue.exists_ofText?_iff _).mpr
  have declared := wellFormed.declared page.mediaType (List.mem_map_of_mem mem)
  exact (HeaderValue.readable_withCharset declared sendable).canCarry

theorem level_of_mem_selectEvents (request : Request) {event : Event}
    (mem : event ∈ resource.selectEvents known request) : event.level ≠ .warn := by
  rw [selectEvents, List.mem_append] at mem
  rcases mem with mem | mem
  · split at mem
    · obtain rfl := List.mem_singleton.mp mem
      simp
    · simp at mem
  · split at mem
    · simp at mem
    · obtain rfl := List.mem_singleton.mp mem
      simp

section Left

variable {context : Context}
  (sendable : ∀ name, context.response.charset = some name → isCharset name = true)

include sendable

theorem contentTypeEvents_eq_nil (wellFormed : resource.WellFormed) {page : ContentPage}
    (mem : page ∈ resource.pages) : page.contentTypeEvents context.response.charset = [] := by
  cases charset : context.response.charset with
  | none => rfl
  | some name =>
      obtain ⟨value, made⟩ := exists_typeWithCharset wellFormed mem (sendable name charset)
      simp [ContentPage.contentTypeEvents, made]

/-- So there is nothing to warn of. -/
theorem level_of_mem_responseEvents (wellFormed : resource.WellFormed) {event : Event}
    (mem : event ∈ resource.responseEvents known context) : event.level ≠ .warn := by
  rw [responseEvents, List.mem_append] at mem
  rcases mem with mem | mem
  · exact level_of_mem_selectEvents context.request mem
  · cases selected : resource.select known context.request with
    | error refusal => simp [selected] at mem
    | ok index =>
        obtain ⟨mediaType, page, chosen⟩ := exists_chosen wellFormed selected
        have quiet := contentTypeEvents_eq_nil sendable wellFormed
          (List.mem_of_getElem? chosen.there)
        cases rendered : page.render context <;>
          simp [selected, chosen.there, rendered, quiet] at mem

/-- The type of an answer is read back as the selected one. -/
theorem exists_readsAs (wellFormed : resource.WellFormed)
    (untyped : context.response.headers.getAll .contentType = []) {sent : Response}
    (answered : resource.getResponse known context = .ok sent) :
    ∃ mediaType, (Resource.negotiated resource).select known context.request = .ok mediaType ∧
      sent.ReadsAs mediaType context.response.charset := by
  obtain ⟨mediaType, index, page, body, chosen, -, delivered⟩ :=
    (getResponse_eq_ok_iff wellFormed context sent).mp answered
  have here := List.mem_of_getElem? ((chosen.only index).mpr rfl)
  have declared := wellFormed.declared mediaType here
  exact ⟨mediaType, chosen.select, delivered.readsAs declared sendable untyped⟩

end Left
end NegotiatedResource

/-! ## Any answer -/

namespace JsonResource

/-- Each of the two types is read back from a finished answer. -/
theorem contentType?_finish {source : Source} {settings : Settings} {resource : JsonResource}
    (declared : resource.DeclaredBy source settings) (sendable : settings.Sendable)
    (request : Request) (left : Response) :
    (∀ callback, request.CallsBack callback →
      (resource.finish request left).contentType? = some settings.jsonpType) ∧
    ((∀ callback, ¬request.CallsBack callback) →
      (resource.finish request left).contentType? = some settings.jsonType) := by
  have finished := finished_finish declared request left
  constructor
  · intro callback calls
    obtain ⟨value, only, bytes⟩ := finished.callType callback calls
    exact Response.contentType?_eq_some only bytes
      (HeaderValue.readable_of_isMediaType sendable.jsonpType)
  · intro noCall
    obtain ⟨value, only, bytes⟩ := finished.plainType noCall
    exact Response.contentType?_eq_some only bytes
      (HeaderValue.readable_of_isMediaType sendable.jsonType)

end JsonResource

namespace Resource

/-- Settings that a file compiles with can be sent. -/
theorem sendable_of_compile {kind : Kind} {source : Source} {registry : Registry}
    {settings : Settings} {resource : Resource}
    (compiled : compile kind source registry settings = .ok resource) : settings.Sendable := by
  cases kind with
  | json => exact ((compile_json_eq_ok_iff ..).mp compiled).1
  | negotiated => exact ((compile_negotiated_eq_ok_iff _).mp compiled).1

/-- **What compiles can be sent, and its type is read back.**  Let a run of the logic succeed and
leave the charset of the settings, and no type.  Then the chosen page is sent as soon as it is
rendered, the type that is read from the answer is the selected one, with the charset behind it
when it begins with `text/` and there is a charset, and nothing is warned of: no page of a compiled
resource ever drops a charset of its settings.  A JSON answer, returned or raised, reads as one of
the two types of the settings, whatever the logic has left. -/
theorem respond_type_reads_back {kind : Kind} {source : Source} {registry : Registry}
    {settings : Settings} {resource : Resource}
    (compiled : compile kind source registry settings = .ok resource)
    (known : Text → Option Text) (request : Request) (runner : Runner) :
    let run := resource.runLogic runner request
    (∀ negotiated, resource = .negotiated negotiated →
      (∀ page ∈ negotiated.pages, ∀ name, settings.charset = some name →
        ∃ value, HeaderValue.ofText? (page.typeWithCharset name) = some value) ∧
      (run.stop = none → run.context.response.charset = settings.charset →
        run.context.response.headers.getAll .contentType = [] →
        (∀ mediaType index page body,
          negotiated.Chosen known run.context.request mediaType index page →
          page.render run.context = .ok body →
          ∃ sent, resource.respond known request runner = .ok sent) ∧
        (∀ sent, resource.respond known request runner = .ok sent →
          ∃ mediaType, resource.select known run.context.request = .ok mediaType ∧
            sent.ReadsAs mediaType settings.charset) ∧
        ∀ event ∈ resource.concludeEvents known run, event.level ≠ .warn)) ∧
    ∀ json, resource = .json json →
      (run.stop = none → ∃ sent, resource.respond known request runner = .ok sent) ∧
      ∀ sent, (resource.respond known request runner = .ok sent ∨
          resource.respond known request runner = .error (.raised sent)) →
        (∀ callback, run.context.request.CallsBack callback →
          sent.contentType? = some settings.jsonpType) ∧
        ((∀ callback, ¬run.context.request.CallsBack callback) →
          sent.contentType? = some settings.jsonType) := by
  intro run
  have settingsSendable := sendable_of_compile compiled
  constructor
  · rintro negotiated rfl
    have wellFormed := NegotiatedResource.wellFormed_of_compile compiled
    refine ⟨?_, ?_⟩
    · intro page mem name given
      exact NegotiatedResource.exists_typeWithCharset wellFormed mem
        (settingsSendable.charset name given)
    · intro completes charset untyped
      have sendable : ∀ name, run.context.response.charset = some name → isCharset name = true := by
        rw [charset]
        exact settingsSendable.charset
      have answered : respond known (.negotiated negotiated) request runner =
          negotiated.getResponse known run.context := respond_of_completes known completes
      refine ⟨?_, ?_, ?_⟩
      · intro mediaType index page body chosen rendered
        rw [answered, chosen.getResponse, rendered]
        exact ⟨_, rfl⟩
      · intro sent sends
        rw [answered] at sends
        rw [← charset]
        exact NegotiatedResource.exists_readsAs sendable wellFormed untyped sends
      · intro event mem
        rw [concludeEvents, completes] at mem
        exact NegotiatedResource.level_of_mem_responseEvents sendable wellFormed mem
  · rintro json rfl
    obtain ⟨-, declared⟩ := jsonDeclaredBy_of_compile compiled
    constructor
    · intro completes
      exact ⟨_, respond_of_completes known completes⟩
    · intro sent leaves
      obtain ⟨left, -, rfl⟩ := (answers_concludeRun known (.json json) run).exists_finish leaves
      exact json.contentType?_finish declared settingsSendable run.context.request left

/-- A text page is read with the charset of the settings, an image without it, and a JSON file as
the plain one of its two types. -/
theorem respond_type_reads_back_html :
    let registry := Registry.empty.register "raw" rawFactory
    let settings : Settings := { defaultRenderer := "raw" }
    let known : Text → Option Text := fun _ => none
    let runner : Runner := fun _ context => (context, none)
    ∃ html image json sent imageSent jsonSent,
      compile .negotiated ⟨"p", ["", "text/html\na", "text/plain\nb"]⟩ registry settings =
        .ok html ∧
      compile .negotiated ⟨"p", ["", "image/png\na", "text/plain\nb"]⟩ registry settings =
        .ok image ∧
      compile .json ⟨"p", ["", ""]⟩ registry settings = .ok json ∧
      html.respond known {} runner = .ok sent ∧
      sent.contentType? = some "text/html; charset=UTF-8".toList ∧
      image.respond known {} runner = .ok imageSent ∧
      imageSent.contentType? = some "image/png".toList ∧
      json.respond known {} runner = .ok jsonSent ∧
      jsonSent.contentType? = some "application/json".toList := by
  intro registry settings known runner
  have served : ∀ {source : Source} {t : Text} (legal : (Utf8.encode t).all isHeaderByte = true),
      compile .negotiated source registry settings =
        .ok (.negotiated (NegotiatedResource.rawPair t legal)) →
      ∃ sent, respond known (.negotiated (NegotiatedResource.rawPair t legal)) {} runner =
          .ok sent ∧
        sent.ReadsAs t settings.charset := by
    intro source t legal compiled
    have answered :
        respond known (.negotiated (NegotiatedResource.rawPair t legal)) {} runner = .ok _ :=
      (respond_of_completes known rfl).trans (NegotiatedResource.getResponse_rawPair known legal _)
    obtain ⟨negotiated, -⟩ := respond_type_reads_back compiled known {} runner
    obtain ⟨-, reads⟩ := negotiated _ rfl
    obtain ⟨-, reads, -⟩ := reads rfl rfl rfl
    obtain ⟨mediaType, selected, readsAs⟩ := reads _ answered
    obtain rfl : t = mediaType := Except.ok.inj selected
    exact ⟨_, answered, readsAs⟩
  have html : compile .negotiated ⟨"p", ["", "text/html\na", "text/plain\nb"]⟩ registry settings =
      .ok (.negotiated (NegotiatedResource.rawPair "text/html" (by decide))) := rfl
  have image : compile .negotiated ⟨"p", ["", "image/png\na", "text/plain\nb"]⟩ registry settings =
      .ok (.negotiated (NegotiatedResource.rawPair "image/png" (by decide))) := rfl
  obtain ⟨json, jsonCompiled, completes, request⟩ : ∃ json,
      compile .json ⟨"p", ["", ""]⟩ registry settings = .ok (.json json) ∧
        (runLogic (.json json) runner {}).stop = none ∧
        (runLogic (.json json) runner {}).context.request = {} := ⟨_, rfl, rfl, rfl⟩
  obtain ⟨-, finished⟩ := respond_type_reads_back jsonCompiled known {} runner
  obtain ⟨answers, jsonReads⟩ := finished json rfl
  obtain ⟨sent, answered, reads⟩ := served _ html
  obtain ⟨imageSent, imageAnswered, imageReads⟩ := served _ image
  obtain ⟨jsonSent, jsonAnswered⟩ := answers completes
  refine ⟨_, _, _, _, _, _, html, image, jsonCompiled, answered, ?_, imageAnswered, ?_,
    jsonAnswered, ?_⟩
  · exact reads.withCharset _ rfl (by decide)
  · exact imageReads.bare (.inr (by decide))
  · obtain ⟨-, plain⟩ := jsonReads jsonSent (.inl jsonAnswered)
    apply plain
    intro callback calls
    rw [request] at calls
    exact absurd ((Request.flag_iff ..).mpr calls.enabled) (by decide)

end Resource
end Multipage
