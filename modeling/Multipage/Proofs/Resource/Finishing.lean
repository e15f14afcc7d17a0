/-
# Multipage.Proofs.Resource.Finishing -- the last step of a JSON answer

Every answer of a JSON resource goes through one last step, the returned ones and the raised
ones.  What it does is said by relations between the answer as the logic pages left it and the
answer that is sent:

* `Body.Written`: a structured value is written out, other bodies stay;
* `Body.Called`: a body in the parentheses of a call;
* `Request.CallsBack`: the request asks for such a call, and of a name that may be called;
* `Response.Finished`: the whole answer, field by field;
* `Resource.json_finishes`: the last step of a compiled JSON resource is of that kind.
-/
import Multipage.Proofs.Message
import Multipage.Proofs.Resource.Compilation
import Multipage.Proofs.Text.Codec

namespace Multipage

set_option autoImplicit false

/-! ## Bodies -/

namespace Body

/-- The second body is the first with a structured value written out. -/
inductive Written : Body → Body → Prop where
  | text (t : Text) : Written (.text t) (.text t)
  | bytes (bs : Bytes) : Written (.bytes bs) (.bytes bs)
  | value (v : Json) : Written (.value v) (.text v.compact)

/-- The second body is the first in a call of `callback`. -/
inductive Called (callback : Text) : Body → Body → Prop where
  | text (t : Text) : Called callback (.text t) (.text (callback ++ '(' :: t ++ [')']))
  | bytes (bs : Bytes) :
      Called callback (.bytes bs) (.bytes (Utf8.encode callback ++ 0x28 :: bs ++ [0x29]))

theorem written_iff (body written : Body) :
    Written body written ↔ JsonResource.writtenBody body = written := by
  constructor
  · rintro (_ | _ | _) <;> rfl
  · rintro rfl
    cases body with
    | text t => exact .text t
    | bytes bs => exact .bytes bs
    | value v => exact .value v

variable {body written : Body}

theorem Written.ne_value (isWritten : Written body written) (v : Json) : written ≠ .value v := by
  cases isWritten <;> simp

theorem Called.ne_value {callback : Text} {answer : Body} (called : Called callback written answer)
    (v : Json) : answer ≠ .value v := by
  cases called <;> simp

theorem called_wrap (callback : Text) (isWritten : Written body written) :
    Called callback written (JsonResource.wrap callback written) := by
  cases isWritten with
  | text t =>
      have called : Called callback (.text t) _ := .text t
      simpa [JsonResource.wrap] using called
  | bytes bs =>
      have called : Called callback (.bytes bs) _ := .bytes bs
      simpa [JsonResource.wrap] using called
  | value v =>
      have called : Called callback (.text v.compact) _ := .text v.compact
      simpa [JsonResource.wrap] using called

/-- A call is longer than what it is a call on. -/
theorem Called.ne_self {callback : Text} {answer : Body} (called : Called callback written answer) :
    answer ≠ written := by
  cases called with
  | text t =>
      intro same
      have lengths := congrArg List.length (Body.text.inj same)
      simp at lengths
      omega
  | bytes bs =>
      intro same
      have lengths := congrArg List.length (Body.bytes.inj same)
      simp at lengths
      omega

/-- The name that is called can be read off the call. -/
theorem Called.callback_unique {callback other : Text} {answer : Body}
    (called : Called callback written answer) (again : Called other written answer) :
    callback = other := by
  cases called with
  | text t =>
      generalize whole : Body.text (callback ++ '(' :: t ++ [')']) = answer at again
      cases again with
      | text =>
          have texts := Body.text.inj whole
          rw [List.append_assoc, List.append_assoc] at texts
          exact List.append_cancel_right texts
  | bytes bs =>
      generalize whole :
        Body.bytes (Utf8.encode callback ++ 0x28 :: bs ++ [0x29]) = answer at again
      cases again with
      | bytes =>
          have texts := Body.bytes.inj whole
          rw [List.append_assoc, List.append_assoc] at texts
          exact Utf8.encode_injective (List.append_cancel_right texts)

end Body

/-! ## Callbacks -/

/-- The request asks for its answer in a call of `callback`, and such a call may be made. -/
structure Request.CallsBack (request : Request) (callback : Text) : Prop where
  enabled : request.Enables "enable_jsonp"
  asked : request.Asks "callback" callback
  nonempty : callback ≠ []
  plain : ∀ c ∈ callback, c = '_' ∨ ('A' ≤ c ∧ c ≤ 'Z') ∨ ('a' ≤ c ∧ c ≤ 'z') ∨
    ('0' ≤ c ∧ c ≤ '9')

namespace JsonResource

theorem isCallbackChar_iff (c : Char) :
    isCallbackChar c = true ↔
      c = '_' ∨ ('A' ≤ c ∧ c ≤ 'Z') ∨ ('a' ≤ c ∧ c ≤ 'z') ∨ ('0' ≤ c ∧ c ≤ '9') := by
  simp [isCallbackChar, Char.isAlphanum, Text.isAlpha_iff, Text.isDigit_iff, Char.le_def,
    UInt32.le_iff_toNat_le, or_assoc]

theorem isCallback_iff (t : Text) :
    isCallback t = true ↔ t ≠ [] ∧ ∀ c ∈ t, isCallbackChar c = true := by
  simp [isCallback, Text.isRunOf]

theorem callback?_eq_some_iff (request : Request) (callback : Text) :
    callback? request = some callback ↔ request.CallsBack callback := by
  simp only [callback?, requestedCallback?, Option.filter_eq_some_iff,
    Option.ite_none_right_eq_some, Request.flag_iff, Request.queryParameter?_eq_some_iff,
    isCallback_iff, isCallbackChar_iff]
  constructor
  · rintro ⟨⟨enabled, asked⟩, nonempty, plain⟩
    exact ⟨enabled, asked, nonempty, plain⟩
  · rintro ⟨enabled, asked, nonempty, plain⟩
    exact ⟨⟨enabled, asked⟩, nonempty, plain⟩

theorem callback?_eq_none_iff (request : Request) :
    callback? request = none ↔ ∀ callback, ¬request.CallsBack callback := by
  simp only [← callback?_eq_some_iff, Option.eq_none_iff_forall_ne_some]

end JsonResource

/-! ## The whole answer -/

/-- What becomes of the answer `left` to a request when it is sent as `sent`.  `plain` and
`call` are the media types of a body that is not called and of one that is. -/
structure Response.Finished (plain call : Text) (request : Request) (left sent : Response) :
    Prop where
  /-- The body is written out, and is called when and as the request asks for it. -/
  body : ∃ written, left.body.Written written ∧
    (∀ callback, written.Called callback sent.body ↔ request.CallsBack callback) ∧
    ((∀ callback, ¬request.CallsBack callback) → sent.body = written)
  /-- The type of a called body, which is the only one. -/
  callType : ∀ callback, request.CallsBack callback →
    ∃ type, sent.headers.getAll .contentType = [type] ∧ type.bytes = Utf8.encode call
  /-- The type of any other body, which is the only one. -/
  plainType : (∀ callback, ¬request.CallsBack callback) →
    ∃ type, sent.headers.getAll .contentType = [type] ∧ type.bytes = Utf8.encode plain
  /-- The byte of a star, for every origin. -/
  everyOrigin : request.Enables "enable_cors" →
    ∃ origin, sent.headers.getAll .allowOrigin = [origin] ∧ origin.bytes = [0x2A]
  sameOrigin : ¬request.Enables "enable_cors" →
    sent.headers.getAll .allowOrigin = left.headers.getAll .allowOrigin
  /-- Fields of other names stay, in their order. -/
  others : sent.headers.filter (fun field => field.1 ≠ .contentType ∧ field.1 ≠ .allowOrigin) =
    left.headers.filter fun field => field.1 ≠ .contentType ∧ field.1 ≠ .allowOrigin
  status : sent.status = left.status
  charset : sent.charset = left.charset
  /-- No structured value is sent. -/
  noValue : ∀ v, sent.body ≠ .value v

/-- So the values of every other name are what they were. -/
theorem Response.Finished.getAll_eq {plain call : Text} {request : Request} {left sent : Response}
    (finished : left.Finished plain call request sent) {name : HeaderName}
    (noType : name ≠ .contentType) (noOrigin : name ≠ .allowOrigin) :
    sent.headers.getAll name = left.headers.getAll name := by
  have within : ∀ headers : Headers, headers.getAll name =
      Headers.getAll (headers.filter fun field =>
        field.1 ≠ .contentType ∧ field.1 ≠ .allowOrigin) name := by
    intro headers
    rw [Headers.getAll, Headers.getAll, List.filter_filter]
    congr 1
    refine List.filter_congr fun field _ => ?_
    by_cases same : field.1 = name <;> simp_all
  rw [within sent.headers, within left.headers, finished.others]

namespace JsonResource

section Finish

variable (resource : JsonResource) (request : Request) (left : Response)

@[simp] theorem body_finish :
    (resource.finish request left).body = finishBody request left.body := by
  rw [finish]
  split <;> rfl

@[simp] theorem status_finish : (resource.finish request left).status = left.status := by
  rw [finish]
  split <;> rfl

@[simp] theorem charset_finish : (resource.finish request left).charset = left.charset := by
  rw [finish]
  split <;> rfl

theorem headers_finish :
    (resource.finish request left).headers =
      let typed := left.headers.set .contentType (resource.sentType request)
      if request.flag "enable_cors" then typed.set .allowOrigin .anyOrigin else typed := by
  rw [finish]
  split <;> rfl

theorem getAll_contentType_finish :
    (resource.finish request left).headers.getAll .contentType = [resource.sentType request] := by
  have differ : HeaderName.allowOrigin ≠ HeaderName.contentType := by decide
  rw [headers_finish]
  split
  · rw [Headers.getAll_set_of_ne _ _ differ, Headers.getAll_set_self]
  · rw [Headers.getAll_set_self]

theorem getAll_allowOrigin_finish :
    (resource.finish request left).headers.getAll .allowOrigin =
      if request.flag "enable_cors" then [.anyOrigin] else left.headers.getAll .allowOrigin := by
  have differ : HeaderName.contentType ≠ HeaderName.allowOrigin := by decide
  rw [headers_finish]
  split
  · rw [Headers.getAll_set_self]
  · rw [Headers.getAll_set_of_ne _ _ differ]

/-- Fields of names that finishing does not set stay, in their order. -/
theorem filter_finish (keep : HeaderName → Bool) (noType : keep .contentType = false)
    (noOrigin : keep .allowOrigin = false) :
    (resource.finish request left).headers.filter (fun field => keep field.1) =
      left.headers.filter fun field => keep field.1 := by
  rw [headers_finish]
  split
  · rw [Headers.filter_set _ _ keep noOrigin, Headers.filter_set _ _ keep noType]
  · rw [Headers.filter_set _ _ keep noType]

variable {request}

theorem sentType_of_callsBack {callback : Text} (calls : request.CallsBack callback) :
    resource.sentType request = resource.jsonpType := by
  rw [sentType, (callback?_eq_some_iff ..).mpr calls]
  rfl

theorem sentType_of_noCall (noCall : ∀ callback, ¬request.CallsBack callback) :
    resource.sentType request = resource.jsonType := by
  rw [sentType, (callback?_eq_none_iff _).mpr noCall]
  rfl

end Finish

section Body

variable {request : Request} {body written : Body}

theorem called_finishBody {callback : Text} (isWritten : body.Written written)
    (calls : request.CallsBack callback) : written.Called callback (finishBody request body) := by
  have same := (Body.written_iff body written).mp isWritten
  rw [finishBody, (callback?_eq_some_iff ..).mpr calls]
  simpa only [same] using Body.called_wrap callback isWritten

theorem finishBody_of_noCall (isWritten : body.Written written)
    (noCall : ∀ callback, ¬request.CallsBack callback) : finishBody request body = written := by
  rw [finishBody, (callback?_eq_none_iff _).mpr noCall]
  exact (Body.written_iff body written).mp isWritten

/-- The body is called with the name that the request asks for, and with no other. -/
theorem called_finishBody_iff (isWritten : body.Written written) (callback : Text) :
    written.Called callback (finishBody request body) ↔ request.CallsBack callback := by
  constructor
  · intro called
    by_cases calls : ∃ other, request.CallsBack other
    · obtain ⟨other, calls⟩ := calls
      obtain rfl := called.callback_unique (called_finishBody isWritten calls)
      exact calls
    · have noCall := not_exists.mp calls
      exact absurd (finishBody_of_noCall isWritten noCall) called.ne_self
  · exact called_finishBody isWritten

theorem finishBody_ne_value (isWritten : body.Written written) (v : Json) :
    finishBody request body ≠ .value v := by
  by_cases calls : ∃ callback, request.CallsBack callback
  · obtain ⟨callback, calls⟩ := calls
    exact (called_finishBody isWritten calls).ne_value v
  · rw [finishBody_of_noCall isWritten (not_exists.mp calls)]
    exact isWritten.ne_value v

end Body

/-- The last step does to an answer what `Response.Finished` says. -/
theorem finished_finish {source : Source} {settings : Settings} {resource : JsonResource}
    (declared : resource.DeclaredBy source settings) (request : Request) (left : Response) :
    Response.Finished settings.jsonType settings.jsonpType request left
      (resource.finish request left) := by
  have isWritten : left.body.Written (writtenBody left.body) := (Body.written_iff ..).mpr rfl
  have types := resource.getAll_contentType_finish request left
  have origins := resource.getAll_allowOrigin_finish request left
  constructor
  case body =>
    rw [body_finish]
    exact ⟨_, isWritten, called_finishBody_iff isWritten, finishBody_of_noCall isWritten⟩
  case callType =>
    intro callback calls
    rw [sentType_of_callsBack resource calls] at types
    exact ⟨_, types, declared.jsonpType⟩
  case plainType =>
    intro noCall
    rw [sentType_of_noCall resource noCall] at types
    exact ⟨_, types, declared.jsonType⟩
  case everyOrigin =>
    intro enabled
    rw [if_pos ((request.flag_iff _).mpr enabled)] at origins
    exact ⟨_, origins, rfl⟩
  case sameOrigin =>
    intro notEnabled
    rwa [if_neg (mt (request.flag_iff _).mp notEnabled)] at origins
  case others =>
    exact resource.filter_finish request left
      (fun name => name ≠ .contentType ∧ name ≠ .allowOrigin) (by simp) (by simp)
  case status => exact resource.status_finish request left
  case charset => exact resource.charset_finish request left
  case noValue =>
    intro v
    rw [body_finish]
    exact finishBody_ne_value isWritten v

end JsonResource

namespace Resource

/-- **The last step of a JSON answer, field by field.**  For every request and every answer that
the logic pages leave, whether it is returned or raised, and with whatever values in the context,
the same answer is sent, and `Response.Finished` says what it is.  The type of a body that is not
called is the one that `select` reports. -/
theorem json_finishes {kind : Kind} {source : Source} {registry : Registry} {settings : Settings}
    {json : JsonResource}
    (compiled : compile kind source registry settings = .ok (.json json))
    (known : Text → Option Text) (request : Request) (left : Response) :
    ∃ sent, (Resource.json json).finishRaised request left = sent ∧
      (∀ values,
        (Resource.json json).getResponse known { request, response := left, values } =
          .ok sent) ∧
      (Resource.json json).select known request = .ok settings.jsonType ∧
      left.Finished settings.jsonType settings.jsonpType request sent := by
  obtain ⟨-, declared⟩ := jsonDeclaredBy_of_compile compiled
  refine ⟨_, rfl, fun _ => rfl, ?_, json.finished_finish declared request left⟩
  rw [select, declared.mediaType]

/-- A body of bytes, called by the first of two callbacks with an escape in the name; the two
types that were there give way to one.  A structured value is written out before it is called. -/
theorem json_finishes_called :
    let source : Source := ⟨"p", ["", ""]⟩
    let request : Request :=
      { uri := ⟨['/'], some "c%61llback=go_1&callback=x".toList⟩
        flags := [("enable_jsonp".toList, .integer 1)] }
    let left : Response :=
      { status := .notAcceptable, body := .bytes [0x5B, 0x5D]
        headers := [(.contentType, .plainText), (.accept, .anyOrigin), (.contentType, .anyOrigin)] }
    let value : Json := .object [("a".toList, .array [.null, .string "\n"])]
    ∃ json sent, compile .json source .empty {} = .ok (.json json) ∧
      (Resource.json json).finishRaised request left = sent ∧
      sent.status = .notAcceptable ∧
      sent.body = .bytes [0x67, 0x6F, 0x5F, 0x31, 0x28, 0x5B, 0x5D, 0x29] ∧
      (∃ type, sent.headers.getAll .contentType = [type] ∧
        type.bytes = Utf8.encode "application/javascript") ∧
      sent.headers.getAll .accept = [.anyOrigin] ∧ sent.headers.getAll .allowOrigin = [] ∧
      ((Resource.json json).finishRaised request { left with body := .value value }).body =
        .text "go_1(\x7b\"a\":[null,\"\\n\"]\x7d)" := by
  intro source request left value
  obtain ⟨json, compiled⟩ : ∃ json, compile .json source .empty {} = .ok (.json json) := ⟨_, rfl⟩
  obtain ⟨sent, same, -, -, finished⟩ := json_finishes compiled (fun _ => none) request left
  have calls : request.CallsBack "go_1" :=
    (JsonResource.callback?_eq_some_iff ..).mp (by decide +kernel)
  have noCors : ¬request.Enables "enable_cors" :=
    mt (request.flag_iff _).mpr (by decide)
  obtain ⟨_, isWritten, called, -⟩ := finished.body
  cases isWritten
  have body := (called "go_1").mpr calls
  refine ⟨json, sent, compiled, same, finished.status, ?_, finished.callType _ calls,
    finished.getAll_eq (by decide) (by decide), finished.sameOrigin noCors, ?_⟩
  · generalize sent.body = answer at body
    cases body
    rfl
  · obtain ⟨_, rfl, -, -, structured⟩ :=
      json_finishes compiled (fun _ => none) request { left with body := .value value }
    obtain ⟨_, isWritten, called, -⟩ := structured.body
    cases isWritten
    have body := (called "go_1").mpr calls
    generalize ((Resource.json json).finishRaised request _).body = answer at body ⊢
    cases body
    exact congrArg Body.text (by decide +kernel)

end Resource
end Multipage
