/-
# Multipage.Proofs.Resource.Callback -- a call can be read back

A JSON body that is called stands in parentheses behind the name of its callback.  The name has no
parenthesis, so it ends at the first one, whatever the body is; the body ends before the last
character.  `Body.uncall?` reads a call in this way, and `Body.Called.uncall?_eq` says that it gives
the name and the body that the call was made of.

So a called body tells nothing of the query but the name (`JsonResource.finish_congr`), and two of
them are the same only when names and bodies are (`JsonResource.finish_reads_back`).  A text and its
encoding are called alike (`JsonResource.finishBody_encode`).
-/
import Multipage.Proofs.Resource.Finishing
import Multipage.Proofs.Text.Cut

namespace Multipage

set_option autoImplicit false

/-! ## Reading a call -/

/-- The parts of `whole` around the first `mark`, the second without its last element. -/
def cutCall {α : Type} [DecidableEq α] (mark : α) (whole : List α) : List α × List α :=
  (whole.takeWhile (· ≠ mark), (whole.dropWhile (· ≠ mark)).tail.dropLast)

theorem cutCall_append {α : Type} [DecidableEq α] {mark : α} {name : List α}
    (single : mark ∉ name) (body : List α) (close : α) :
    cutCall mark (name ++ mark :: body ++ [close]) = (name, body) := by
  have passes : ∀ x ∈ name, decide (x ≠ mark) = true := by
    intro x mem
    exact decide_eq_true fun same => single (same ▸ mem)
  rw [cutCall, List.append_assoc, List.takeWhile_append_of_pos passes,
    List.dropWhile_append_of_pos passes]
  simp

namespace Body

/-- The name and the body of a call: what stands before the first parenthesis, and what follows it
without the last character. -/
def uncall? : Body → Option (Text × Body)
  | .text t =>
      let (name, body) := cutCall '(' t
      some (name, .text body)
  | .bytes bs =>
      let (name, body) := cutCall 0x28 bs
      (Utf8.decode? name).map fun name => (name, .bytes body)
  | .value _ => none

/-- A call gives back the name and the body that it was made of. -/
theorem Called.uncall?_eq {callback : Text} {written answer : Body}
    (called : Called callback written answer) (single : '(' ∉ callback) :
    answer.uncall? = some (callback, written) := by
  cases called with
  | text t => rw [uncall?, cutCall_append single]
  | bytes bs =>
      have inBytes : (0x28 : UInt8) ∉ Utf8.encode callback :=
        Utf8.notMem_encode_of_ascii (by decide) single
      have decoded := (Utf8.decode?_eq_some_iff (Utf8.encode callback) callback).mpr rfl
      simp only [uncall?, cutCall_append inBytes, decoded, Option.map_some]

end Body

/-! ## Names -/

namespace Request

theorem CallsBack.unique {request : Request} {callback other : Text}
    (calls : request.CallsBack callback) (again : request.CallsBack other) : callback = other := by
  rw [← JsonResource.callback?_eq_some_iff] at calls again
  exact Option.some.inj (calls.symm.trans again)

/-- No name of a callback has a parenthesis. -/
theorem CallsBack.single {request : Request} {callback : Text}
    (calls : request.CallsBack callback) : '(' ∉ callback := by
  intro mem
  have char := (JsonResource.isCallbackChar_iff '(').mpr (calls.plain '(' mem)
  exact absurd char (by decide)

end Request

/-! ## Finished answers -/

namespace JsonResource

/-- Nothing but the callback and the flag for origins counts. -/
theorem finish_congr (resource : JsonResource) {request other : Request}
    (sameCallback : callback? other = callback? request)
    (sameFlag : other.flag "enable_cors" = request.flag "enable_cors") (left : Response) :
    resource.finish other left = resource.finish request left := by
  simp only [finish, finishBody, sentType, sameCallback, sameFlag]

/-- A body that is not sent as it is written out is called. -/
theorem exists_callsBack_of_ne {request : Request} {body written : Body}
    (isWritten : body.Written written) (wrapped : finishBody request body ≠ written) :
    ∃ callback, request.CallsBack callback ∧ written.Called callback (finishBody request body) := by
  by_cases calls : ∃ callback, request.CallsBack callback
  · obtain ⟨callback, calls⟩ := calls
    exact ⟨callback, calls, called_finishBody isWritten calls⟩
  · exact absurd (finishBody_of_noCall isWritten (not_exists.mp calls)) wrapped

/-- The bytes of a text are sent as the bytes of what is sent for the text. -/
theorem finishBody_encode (request : Request) (t : Text) :
    ∃ out, finishBody request (.text t) = .text out ∧
      finishBody request (.bytes (Utf8.encode t)) = .bytes (Utf8.encode out) := by
  cases callback : callback? request with
  | none => exact ⟨t, by simp [finishBody, callback, writtenBody], by
      simp [finishBody, callback, writtenBody]⟩
  | some name =>
      refine ⟨name ++ "(" ++ t ++ ")", by simp [finishBody, callback, writtenBody, wrap], ?_⟩
      have opening : Utf8.encode "(" = [0x28] := by decide
      have closing : Utf8.encode ")" = [0x29] := by decide
      simp only [finishBody, callback, writtenBody, wrap, Utf8.encode_append, opening, closing]

/-- **A called body is a name, a parenthesis, the body and a parenthesis, and nothing else.**  When
a written body is not sent as it is, the request asks for a callback whose name may be called, and
the name and the body are read back from what is sent.  Of the target of the request only the name
counts.  Two called bodies, of whichever resources and requests, are the same only when both names
and both bodies are; and bytes of a text are sent as the bytes of what is sent for the text. -/
theorem finish_reads_back (resource : JsonResource) {request : Request} {left : Response}
    {written : Body} (isWritten : left.body.Written written)
    (wrapped : (resource.finish request left).body ≠ written) :
    ∃ callback, request.CallsBack callback ∧
      written.Called callback (resource.finish request left).body ∧
      (resource.finish request left).body.uncall? = some (callback, written) ∧
      (∀ uri, { request with uri }.CallsBack callback →
        resource.finish { request with uri } left = resource.finish request left) ∧
      (∀ (other : JsonResource) (otherRequest : Request) (otherLeft : Response)
          (otherWritten : Body),
        otherLeft.body.Written otherWritten →
        (other.finish otherRequest otherLeft).body ≠ otherWritten →
        (other.finish otherRequest otherLeft).body = (resource.finish request left).body →
        otherRequest.CallsBack callback ∧ otherWritten = written) ∧
      ∀ t, ∃ out, (resource.finish request { left with body := .text t }).body = .text out ∧
        (resource.finish request { left with body := .bytes (Utf8.encode t) }).body =
          .bytes (Utf8.encode out) := by
  simp only [body_finish] at wrapped ⊢
  obtain ⟨callback, calls, called⟩ := exists_callsBack_of_ne isWritten wrapped
  have back := called.uncall?_eq calls.single
  refine ⟨callback, calls, called, back, ?_, ?_, finishBody_encode request⟩
  · intro uri again
    rw [← callback?_eq_some_iff] at calls again
    exact resource.finish_congr (again.trans calls.symm) rfl left
  · intro _ otherRequest otherLeft otherWritten otherIsWritten otherWrapped same
    obtain ⟨otherCallback, otherCalls, otherCalled⟩ :=
      exists_callsBack_of_ne otherIsWritten otherWrapped
    have otherBack := otherCalled.uncall?_eq otherCalls.single
    rw [same, back, Option.some_inj, Prod.mk.injEq] at otherBack
    obtain ⟨rfl, rfl⟩ := otherBack
    exact ⟨otherCalls, rfl⟩

/-- A body with parentheses of its own, and a name with an escape; of two callbacks the first one
counts.  The body is read back, and another query with this callback gives the same answer. -/
theorem finish_reads_back_parentheses :
    let resource : JsonResource :=
      { path := "p", logicPages := [], charset := none, mediaType := "application/json"
        jsonType := .plainText, jsonpType := .plainText }
    let request : Request :=
      { uri := ⟨['/'], some "callback=go%5F1&callback=x".toList⟩
        flags := [("enable_jsonp".toList, .bool true)] }
    let uri : Uri := ⟨"/a.json", some "x=)(&callback=go_1".toList⟩
    let left : Response := { body := .text "f(1)" }
    (resource.finish request left).body ≠ .text "f(1)" ∧
      (resource.finish request left).body.uncall? = some ("go_1".toList, .text "f(1)") ∧
      resource.finish { request with uri } left = resource.finish request left ∧
      (resource.finish request { left with body := .bytes (Utf8.encode "f(1)") }).body =
        .bytes (Utf8.encode "go_1(f(1))") := by
  intro resource request uri left
  have isWritten : left.body.Written (.text "f(1)") := .text _
  have calls : request.CallsBack "go_1" := (callback?_eq_some_iff ..).mp (by decide +kernel)
  have also : { request with uri }.CallsBack "go_1" :=
    (callback?_eq_some_iff ..).mp (by decide +kernel)
  have wrapped : (resource.finish request left).body ≠ .text "f(1)" := by
    rw [body_finish]
    exact (called_finishBody isWritten calls).ne_self
  obtain ⟨callback, again, called, back, others, -, bytes⟩ :=
    finish_reads_back resource isWritten wrapped
  obtain rfl := calls.unique again
  obtain ⟨out, text, encoded⟩ := bytes "f(1)"
  refine ⟨wrapped, back, others uri also, ?_⟩
  have same : (resource.finish request left).body = .text out := text
  rw [same] at called
  cases called
  exact encoded

end JsonResource
end Multipage
