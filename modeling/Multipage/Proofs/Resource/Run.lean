/-
# Multipage.Proofs.Resource.Run -- the logic pages that a request runs, and the answer

What a run comes to is said without the recursion (`LogicRun.Follows`): the first of the pages
in their order, each on the context that the one before it left without an error, and the last
of them either the last page of all or one that ends early.  There is one run like that
(`LogicRun.of_eq_iff_follows`), and it asks the runner about nothing but its own visits
(`LogicRun.Follows.congr`).

The answer is read off the run (`Resource.Answers`), and `Resource.respond_answers` puts both
together for what is compiled, with what it means for JSON: no answer is sent that has not been
finished, and none that has been finished twice.
-/
import Mathlib.Data.List.Chain
import Multipage.Proofs.Resource.Finishing

namespace Multipage

set_option autoImplicit false

/-! ## Runs -/

namespace LogicRun

/-- `run` is what comes of running `pages` from `start`. -/
structure Follows (runner : Runner) (start : Context) (pages : List Text) (run : LogicRun) :
    Prop where
  /-- The first pages are run in their order, each once. -/
  ran : run.visits.map LogicVisit.page <+: pages
  starts : ∀ first ∈ run.visits.head?, first.before = start
  /-- A page is given the context that the one before it left, which was no error. -/
  passes : run.visits.IsChain fun visit next =>
    runner visit.page visit.before = (next.before, none)
  /-- The run ends as its last page does. -/
  ends : ∀ last ∈ run.visits.getLast?, runner last.page last.before = (run.context, run.stop)
  idle : run.visits = [] → run.context = start ∧ run.stop = none
  /-- Without an error no page is left out. -/
  complete : run.stop = none → run.visits.map LogicVisit.page = pages

section Follows

variable {runner : Runner} {start : Context} {run : LogicRun}

theorem follows_nil_iff : run.Follows runner start [] ↔ run = ⟨[], start, none⟩ := by
  constructor
  · intro follows
    have none : run.visits = [] := List.map_eq_nil_iff.mp (List.prefix_nil.mp follows.ran)
    obtain ⟨left, passed⟩ := follows.idle none
    cases run
    simp_all
  · rintro rfl
    exact ⟨by simp, by simp, .nil, by simp, by simp, by simp⟩

/-- A first page that leaves an error is the whole run. -/
theorem Follows.stopped {page : Text} {after : Context} {error : RequestError}
    (ran : runner page start = (after, some error)) (rest : List Text) :
    Follows runner start (page :: rest) ⟨[⟨page, start⟩], after, some error⟩ where
  ran := by simp
  starts := by simp
  passes := .singleton _
  ends := by simp [ran]
  idle := by simp
  complete := by simp

/-- Any other first page hands on to the run of the pages after it. -/
theorem Follows.cons {page : Text} {rest : List Text} {after : Context} {tail : LogicRun}
    (ran : runner page start = (after, none)) (follows : tail.Follows runner after rest) :
    Follows runner start (page :: rest)
      ⟨⟨page, start⟩ :: tail.visits, tail.context, tail.stop⟩ where
  ran := by simpa using follows.ran
  starts := by simp
  passes := by
    refine List.isChain_cons.mpr ⟨fun next first => ?_, follows.passes⟩
    rw [follows.starts next first, ran]
  ends := by
    cases visits : tail.visits with
    | nil =>
        obtain ⟨left, passed⟩ := follows.idle visits
        simp [left, passed, ran]
    | cons next more =>
        have ends := follows.ends
        simpa [visits] using ends
  idle := by simp
  complete := by
    intro passed
    simp [follows.complete passed]

theorem Follows.cases_cons {page : Text} {rest : List Text}
    (follows : run.Follows runner start (page :: rest)) :
    (∃ after error, runner page start = (after, some error) ∧
      run = ⟨[⟨page, start⟩], after, some error⟩) ∨
    ∃ after tail, runner page start = (after, none) ∧ LogicRun.Follows runner after rest tail ∧
      run = ⟨⟨page, start⟩ :: tail.visits, tail.context, tail.stop⟩ := by
  obtain ⟨visits, context, stop⟩ := run
  cases visits with
  | nil =>
      -- An idle run has no error, but has left the page out.
      obtain ⟨-, passed⟩ := follows.idle rfl
      exact absurd (follows.complete passed) (by simp)
  | cons first more =>
      obtain ⟨rfl, ran⟩ : first.page = page ∧ more.map LogicVisit.page <+: rest := by
        simpa using follows.ran
      obtain rfl : first.before = start := by simpa using follows.starts
      obtain ⟨hands, passes⟩ := List.isChain_cons.mp follows.passes
      cases more with
      | nil =>
          have ends : runner first.page first.before = (context, stop) := by
            simpa using follows.ends
          cases stop with
          | some error => exact .inl ⟨context, error, ends, rfl⟩
          | none =>
              have noRest : rest = [] := by simpa using (follows.complete rfl).symm
              refine .inr ⟨context, ⟨[], context, none⟩, ends, ?_, rfl⟩
              rw [noRest, follows_nil_iff]
      | cons next others =>
          refine .inr ⟨next.before, ⟨next :: others, context, stop⟩, hands next rfl, ?_, rfl⟩
          exact
            { ran, passes
              starts := by simp
              ends := by simpa using follows.ends
              idle := by simp
              complete := fun passed => by simpa using follows.complete passed }

/-- The run that is computed is of that kind. -/
theorem follows_of (runner : Runner) (start : Context) (pages : List Text) :
    (of runner start pages).Follows runner start pages := by
  induction pages generalizing start with
  | nil => exact follows_nil_iff.mpr rfl
  | cons page rest ih =>
      rw [of]
      split
      next after error ran => exact .stopped ran rest
      next after ran => exact .cons ran (ih after)

/-- There is one run, the one that is computed. -/
theorem of_eq_iff_follows {pages : List Text} :
    of runner start pages = run ↔ run.Follows runner start pages := by
  constructor
  · rintro rfl
    exact follows_of runner start pages
  · intro follows
    induction pages generalizing start run with
    | nil => exact (follows_nil_iff.mp follows).symm
    | cons page rest ih =>
        rcases follows.cases_cons with ⟨after, error, ran, rfl⟩ | ⟨after, tail, ran, later, rfl⟩
        · rw [of, ran]
        · obtain rfl := ih later
          rw [of, ran]

/-- What follows one runner follows every runner that does the same on the visits. -/
theorem Follows.congr {other : Runner} {pages : List Text}
    (follows : run.Follows runner start pages)
    (agree : ∀ visit ∈ run.visits,
      other visit.page visit.before = runner visit.page visit.before) :
    run.Follows other start pages where
  ran := follows.ran
  starts := follows.starts
  passes := by
    refine follows.passes.imp_of_mem_imp fun visit next here _ passes => ?_
    rw [agree visit here, passes]
  ends := by
    intro last here
    rw [agree last (List.mem_of_getLast? here), follows.ends last here]
  idle := follows.idle
  complete := follows.complete

end Follows
end LogicRun

/-! ## Answers -/

namespace Resource

/-- The answer that a run of logic pages leads to. -/
inductive Answers (known : Text → Option Text) (resource : Resource) (run : LogicRun) :
    Except RequestError Response → Prop where
  /-- All pages have run: the resource answers from the context they left. -/
  | passed (passed : run.stop = none) :
      Answers known resource run (resource.getResponse known run.context)
  /-- A raised JSON answer is finished for the request that the raising page left.  The response
  under construction has no part in it. -/
  | finished {json : JsonResource} {raised : Response} (kind : resource = .json json)
      (stopped : run.stop = some (.raised raised)) :
      Answers known resource run (.error (.raised (json.finish run.context.request raised)))
  | raised {negotiated : NegotiatedResource} {raised : Response}
      (kind : resource = .negotiated negotiated) (stopped : run.stop = some (.raised raised)) :
      Answers known resource run (.error (.raised raised))
  | execution {message : Text} (stopped : run.stop = some (.execution message)) :
      Answers known resource run (.error (.execution message))
  | render {error : RenderError} (stopped : run.stop = some (.render error)) :
      Answers known resource run (.error (.render error))

section Answers

variable {known : Text → Option Text} {resource : Resource} {run : LogicRun}

variable (known resource run) in
theorem answers_concludeRun : resource.Answers known run (resource.concludeRun known run) := by
  rw [concludeRun]
  split
  next passed => exact .passed passed
  next raised stopped =>
    cases resource with
    | json json => exact .finished rfl stopped
    | negotiated negotiated => exact .raised rfl stopped
  next error notRaised stopped =>
    cases error with
    | raised response => exact absurd rfl (notRaised response)
    | execution message => exact .execution stopped
    | render error => exact .render stopped

theorem concludeRun_eq_iff_answers (answer : Except RequestError Response) :
    resource.concludeRun known run = answer ↔ resource.Answers known run answer := by
  constructor
  · rintro rfl
    exact answers_concludeRun known resource run
  · rintro (passed | ⟨rfl, stopped⟩ | ⟨rfl, stopped⟩ | stopped | stopped)
    · rw [concludeRun, passed]
    · rw [concludeRun, stopped]
      rfl
    · rw [concludeRun, stopped]
      rfl
    · rw [concludeRun, stopped]
    · rw [concludeRun, stopped]

/-- A response that leaves a JSON resource is the finished form of one that was returned or
raised. -/
theorem Answers.exists_finish {json : JsonResource} {answer : Except RequestError Response}
    {response : Response} (answers : (Resource.json json).Answers known run answer)
    (leaves : answer = .ok response ∨ answer = .error (.raised response)) :
    ∃ left, (run.stop = none ∧ run.context.response = left ∨ run.stop = some (.raised left)) ∧
      response = json.finish run.context.request left := by
  cases answers with
  | passed passed =>
      refine ⟨_, .inl ⟨passed, rfl⟩, ?_⟩
      simpa [getResponse, eq_comm] using leaves
  | finished kind stopped =>
      obtain rfl := Resource.json.inj kind
      refine ⟨_, .inr stopped, ?_⟩
      simpa [eq_comm] using leaves
  | raised kind => simp at kind
  | execution | render => simp at leaves

end Answers

/-- **A request runs the logic pages in order, up to the first error, and the answer is that of
the run.**  The run starts on the request with no values and an empty answer that carries the
charset of the settings, and nothing that the runner does elsewhere counts.  So every response
that leaves a JSON resource, returned or raised, is one that the pages left, finished once and for
the request as the last page left it. -/
theorem respond_answers {kind : Kind} {source : Source} {registry : Registry} {settings : Settings}
    {resource : Resource} (compiled : compile kind source registry settings = .ok resource)
    (known : Text → Option Text) (request : Request) (runner : Runner) :
    resource.logicPages = source.pages.take kind.logicPages ∧
    ∃ run : LogicRun,
      (∀ other : LogicRun,
        other.Follows runner
            { request, values := []
              response :=
                { status := .ok, body := .text [], headers := [], charset := settings.charset } }
            resource.logicPages ↔
          other = run) ∧
      (∀ answer,
        resource.respond known request runner = answer ↔ resource.Answers known run answer) ∧
      (∀ other : Runner,
        (∀ visit ∈ run.visits,
          other visit.page visit.before = runner visit.page visit.before) →
        resource.respond known request other = resource.respond known request runner) ∧
      ∀ json, resource = .json json → ∀ response,
        (resource.respond known request runner = .ok response ∨
          resource.respond known request runner = .error (.raised response)) →
        ∃ left,
          (run.stop = none ∧ run.context.response = left ∨ run.stop = some (.raised left)) ∧
          response = json.finish run.context.request left ∧
          left.Finished settings.jsonType settings.jsonpType run.context.request response := by
  have charset := charset_of_compile compiled
  refine ⟨logicPages_of_compile compiled, resource.runLogic runner request, ?_, ?_, ?_, ?_⟩
  · intro other
    rw [← charset, ← LogicRun.of_eq_iff_follows, eq_comm]
    rfl
  · intro answer
    rw [respond, concludeRun_eq_iff_answers]
  · intro other agree
    have follows := LogicRun.follows_of runner (resource.initialContext request) resource.logicPages
    have same : resource.runLogic other request = resource.runLogic runner request :=
      LogicRun.of_eq_iff_follows.mpr (follows.congr agree)
    rw [respond, respond, same]
  · rintro json rfl response leaves
    have answers := answers_concludeRun known (.json json) (runLogic (.json json) runner request)
    obtain ⟨left, whence, finished⟩ := answers.exists_finish leaves
    obtain ⟨-, declared⟩ := jsonDeclaredBy_of_compile compiled
    refine ⟨left, whence, finished, ?_⟩
    rw [finished]
    exact json.finished_finish declared _ left

/-- The first page sets a flag, and the second raises: the raised answer is sent with the header
field that the flag asks for. -/
theorem respond_answers_raised :
    let source : Source := ⟨"p", ["set", "raise"]⟩
    let flags : Members := [("enable_cors".toList, .bool true)]
    let raised : Response := { status := .notAcceptable, body := .value .null }
    let runner : Runner := fun page context =>
      if page = "set".toList then ({ context with request := { context.request with flags } }, none)
      else (context, some (.raised raised))
    ∃ resource sent, compile .json source .empty {} = .ok resource ∧
      resource.respond (fun _ => none) {} runner = .error (.raised sent) ∧
      sent.status = .notAcceptable ∧
      sent.body = .text "null" ∧
      ∃ origin, sent.headers.getAll .allowOrigin = [origin] ∧ origin.bytes = [0x2A] := by
  intro source flags raised runner
  obtain ⟨json, compiled⟩ : ∃ json, compile .json source .empty {} = .ok (.json json) := ⟨_, rfl⟩
  obtain ⟨pages, run, unique, answers, -, closed⟩ :=
    respond_answers compiled (fun _ => none) {} runner
  let start : Context := { response := { charset := some "UTF-8".toList } }
  let middle : Context := { start with request := { flags } }
  have first : runner "set".toList start = (middle, none) := rfl
  have second : runner "raise".toList middle = (middle, some (.raised raised)) := rfl
  have follows := LogicRun.Follows.cons first (.stopped second [])
  have same : (Resource.json json).logicPages = ["set".toList, "raise".toList] := pages
  rw [← same] at follows
  obtain rfl := (unique _).mp follows
  have sends := (answers _).mpr (.finished rfl rfl)
  obtain ⟨left, whence, -, finished⟩ := closed json rfl _ (.inr sends)
  obtain rfl : raised = left := by simpa using whence
  have noCall : ∀ callback, ¬middle.request.CallsBack callback := fun callback calls =>
    mt (middle.request.flag_iff _).mpr (by decide) calls.enabled
  have cors : middle.request.Enables "enable_cors" := (middle.request.flag_iff _).mp rfl
  obtain ⟨written, isWritten, -, plain⟩ := finished.body
  refine ⟨_, _, compiled, sends, finished.status, ?_, finished.everyOrigin cors⟩
  rw [plain noCall]
  cases isWritten
  rfl

end Resource
end Multipage
