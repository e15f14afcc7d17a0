/-
# Multipage.Proofs.Message -- header fields, flags and query parameters, seen from outside

* Setting a header field leaves exactly one field of that name, and all fields of other names in
  their order (`Headers.getAll_set_self`, `Headers.filter_set`); one that was not there comes last
  (`Headers.set_of_getAll_eq_nil`).
* A flag is set when it has a value that is not one of the false ones (`Json.Falsy`,
  `Request.flag_iff`).
* A query parameter is the first pair of that name (`Request.queryParameter?_eq_some_iff`).
-/
import Multipage.Message

namespace Multipage

set_option autoImplicit false

/-! ## Header fields -/

namespace Headers

variable (headers : Headers) (value : HeaderValue)

@[simp] theorem getAll_set_self (name : HeaderName) :
    (headers.set name value).getAll name = [value] := by
  simp [set, getAll, without, List.filter_filter]

/-- Fields of other names stay, in their order. -/
theorem filter_set (keep : HeaderName → Bool) {name : HeaderName} (dropped : keep name = false) :
    (headers.set name value).filter (fun field => keep field.1) =
      headers.filter fun field => keep field.1 := by
  have others : ∀ field : HeaderName × HeaderValue,
      (keep field.1 && field.1 != name) = keep field.1 := by
    intro field
    by_cases same : field.1 = name
    · simp [same, dropped]
    · simp [same]
  simp [set, without, List.filter_filter, others, dropped]

theorem getAll_set_of_ne {name other : HeaderName} (differ : name ≠ other) :
    (headers.set name value).getAll other = headers.getAll other := by
  rw [getAll, filter_set headers value (· == other) (beq_eq_false_iff_ne.mpr differ), getAll]

theorem getAll_eq_nil_iff (name : HeaderName) :
    headers.getAll name = [] ↔ ∀ field ∈ headers, field.1 ≠ name := by
  rw [getAll, List.map_eq_nil_iff, List.filter_eq_nil_iff]
  simp only [beq_iff_eq]

theorem has_eq_false_iff (name : HeaderName) :
    headers.has name = false ↔ headers.getAll name = [] := by
  rw [getAll_eq_nil_iff, has, List.any_eq_false]
  simp only [beq_iff_eq]

/-- A field of a name that was not there comes last. -/
theorem set_of_getAll_eq_nil {name : HeaderName} (missing : headers.getAll name = []) :
    headers.set name value = headers ++ [(name, value)] := by
  have others : headers.without name = headers := by
    rw [without, List.filter_eq_self]
    intro field mem
    exact bne_iff_ne.mpr ((getAll_eq_nil_iff headers name).mp missing field mem)
  rw [set, others]

end Headers

/-! ## Flags -/

/-- The values that count as false. -/
inductive Json.Falsy : Json → Prop where
  | null : Falsy .null
  | false : Falsy (.bool false)
  | integer : Falsy (.integer 0)
  | float (negative : Bool) : Falsy (.float (.finite negative 0))
  | string : Falsy (.string [])
  | array : Falsy (.array [])
  | object : Falsy (.object [])

theorem Json.falsy_iff (v : Json) : v.Falsy ↔ v.isTruthy = false := by
  constructor
  · rintro (_ | _ | _) <;> rfl
  · intro notSet
    cases v with
    | null => exact .null
    | bool b =>
        obtain rfl : b = false := notSet
        exact .false
    | integer i =>
        obtain rfl : i = 0 := by simpa [isTruthy] using notSet
        exact .integer
    | float x =>
        cases x with
        | finite negative units =>
            obtain rfl : units = 0 := by simpa [isTruthy, Binary.isZero] using notSet
            exact .float negative
        | nan | infinite => simp [isTruthy, Binary.isZero] at notSet
    | string t =>
        obtain rfl : t = [] := by simpa [isTruthy] using notSet
        exact .string
    | array items =>
        obtain rfl : items = [] := by simpa [isTruthy] using notSet
        exact .array
    | object members =>
        obtain rfl : members = [] := by simpa [isTruthy] using notSet
        exact .object

namespace Request

/-- The flag has a value, and not one that counts as false. -/
def Enables (request : Request) (name : Text) : Prop :=
  ∃ value, request.flags.get? name = some value ∧ ¬value.Falsy

theorem flag_iff (request : Request) (name : Text) :
    request.flag name = true ↔ request.Enables name := by
  simp [flag, Enables, Option.any_eq_true, Json.falsy_iff]

/-- The query has a pair of that name, and `value` is the value of the first one. -/
def Asks (request : Request) (name value : Text) : Prop :=
  ∃ query before after, request.uri.query = some query ∧
    Query.pairs query = before ++ (name, value) :: after ∧ ∀ pair ∈ before, name ≠ pair.1

theorem queryParameter?_eq_some_iff (request : Request) (name value : Text) :
    request.queryParameter? name = some value ↔ request.Asks name value := by
  simp only [queryParameter?, Query.get?, Option.bind_eq_some_iff, List.lookup_eq_some_iff,
    bne_iff_ne, Asks, exists_and_left]

end Request
end Multipage
