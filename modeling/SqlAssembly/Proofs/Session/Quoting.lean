import SqlAssembly.Proofs.Session.Cache
import SqlAssembly.Session.Script
import SqlAssembly.Session.Shared

/-! # Quoting by several callers

A cache may answer in place of the backend as long as the backend would say the same.  So it is
assumed that the backend quotes a text in one way whenever it quotes it, in whatever state, and
shown that no caller can tell a shared session with a cache from a session without one, however
the steps of the callers come between each other.  Two of them may both miss a text and both put
it in; the second time nothing happens, and the queue of the cache stays in step with its table.

* `Session.quote_eq_advance` — a request that is alone takes the steps of `Session.quote`.
* `QuoteRequest.IsFaithful`, `SharedSession.IsSound` — the invariant, and what each event keeps.
* `SharedSession.stored` — the literals that events put into the cache.
* `SharedSession.quoting_transparent` — what holds after every sequence of events.
-/

namespace SqlAssembly

deriving instance DecidableEq for QuoteStage, QuoteRequest

variable {State : Type}

/-- Whenever the backend quotes a text it quotes it in one way. -/
def Backend.QuotesAs (backend : Backend State) (quotation : String → String) : Prop :=
  ∀ state text quoted, (backend.quoteLiteral state text).1 = .ok quoted → quoted = quotation text

/-- A scalar as a literal, where a text is quoted in one way. -/
def Scalar.quotedAs (quotation : String → String) : Scalar → String
  | .text s => quotation s
  | other => other.literal

/-! ## One request -/

/-- Three steps of a request, with nothing between them, quote its scalar. -/
theorem Session.quote_eq_advance (s : Session State) (scalar : Scalar) :
    let first := ({ scalar := scalar } : QuoteRequest).advance s
    let second := first.1.advance first.2
    second.1.advance second.2 =
      ({ scalar := scalar, stage := .finished (s.quote scalar).1 }, (s.quote scalar).2) := by
  cases scalar with
  | text text =>
    cases held : s.quotedInCache? text with
    | some quoted => simp [QuoteRequest.advance, quote, quoteText, held]
    | none =>
      rcases asked : s.requestQuote text with ⟨answer, after⟩
      cases answer <;> simp [QuoteRequest.advance, quote, quoteText, held, asked]
  | _ => rfl

namespace QuoteRequest

variable {quotation : String → String}

/-- A request knows the text it is about, and has no quotation but the right one. -/
inductive IsFaithful (quotation : String → String) : QuoteRequest → Prop
  | begun (scalar : Scalar) : IsFaithful quotation ⟨scalar, .begun⟩
  | missed (text : String) : IsFaithful quotation ⟨.text text, .missed text⟩
  | answered (text : String) {quoted : String} :
      quoted = quotation text → IsFaithful quotation ⟨.text text, .answered text quoted⟩
  | quoted (scalar : Scalar) {quoted : String} :
      quoted = scalar.quotedAs quotation → IsFaithful quotation ⟨scalar, .finished (.ok quoted)⟩
  | failed (scalar : Scalar) (e : SessionError) : IsFaithful quotation ⟨scalar, .finished (.error e)⟩

/-- All that a step of a request does to a session: it may ask the backend, and only with an answer
it comes to the cache. -/
structure Touches (request : QuoteRequest) (s s' : Session State) : Prop where
  backend : s'.backend = s.backend
  cache : s'.cache = s.cache ∨
    ∃ text quoted, request.stage = .answered text quoted ∧ s'.cache = s.cache.insert text quoted

theorem touches (request : QuoteRequest) (s : Session State) :
    request.Touches s (request.advance s).2 := by
  obtain ⟨scalar, stage⟩ := request
  cases stage with
  | begun =>
    cases scalar with
    | text text => cases held : s.quotedInCache? text <;> constructor <;> simp [advance, held]
    | _ => exact ⟨rfl, .inl rfl⟩
  | missed text =>
    rcases asked : s.requestQuote text with ⟨answer, after⟩
    have backend : after.backend = s.backend := congrArg (·.2.backend) asked.symm
    have cache : after.cache = s.cache := congrArg (·.2.cache) asked.symm
    cases answer <;> constructor <;> simp [advance, asked, backend, cache]
  | answered text quoted => exact ⟨rfl, .inr ⟨text, quoted, rfl, rfl⟩⟩
  | finished outcome => exact ⟨rfl, .inl rfl⟩

namespace IsFaithful

variable {request : QuoteRequest} {s : Session State}

theorem eq_of_finished (faithful : request.IsFaithful quotation) {quoted : String}
    (finished : request.stage = .finished (.ok quoted)) :
    quoted = request.scalar.quotedAs quotation := by
  cases faithful <;> cases finished
  assumption

theorem eq_of_answered (faithful : request.IsFaithful quotation) {text quoted : String}
    (answered : request.stage = .answered text quoted) : quoted = quotation text := by
  cases faithful <;> cases answered
  assumption

/-- A request stays faithful: it takes its quotation from a backend or a cache that has only the
right ones. -/
theorem advance (faithful : request.IsFaithful quotation) (quotes : s.backend.QuotesAs quotation)
    (sound : s.cache.IsSound quotation) : (request.advance s).1.IsFaithful quotation := by
  cases faithful with
  | begun scalar =>
    cases scalar with
    | text text =>
      cases held : s.quotedInCache? text with
      | some quoted => simpa [QuoteRequest.advance, held] using .quoted _ (sound.eq_of_get? held)
      | none => simpa [QuoteRequest.advance, held] using .missed text
    | _ => exact .quoted _ rfl
  | missed text =>
    rcases asked : s.backend.quoteLiteral s.state text with ⟨answer, after⟩
    cases answer with
    | ok quoted =>
      have right : quoted = quotation text := quotes s.state text quoted (by rw [asked])
      simpa [QuoteRequest.advance, Session.requestQuote, asked, Except.mapError] using .answered text right
    | error cause =>
      simpa [QuoteRequest.advance, Session.requestQuote, asked, Except.mapError] using .failed _ _
  | answered text right => exact .quoted (.text text) right
  | quoted scalar right => exact .quoted scalar right
  | failed scalar e => exact .failed scalar e

theorem isSound_advance (faithful : request.IsFaithful quotation) (sound : s.cache.IsSound quotation) :
    (request.advance s).2.cache.IsSound quotation := by
  rcases (request.touches s).cache with same | ⟨text, quoted, answered, inserted⟩
  · rwa [same]
  · rw [inserted, faithful.eq_of_answered answered]
    exact sound.insert text

end IsFaithful

end QuoteRequest

/-! ## Several requests -/

namespace SharedSession

/-- The backend quotes in one way, and the cache and all requests have no other quotations. -/
structure IsSound (quotation : String → String) (shared : SharedSession State) : Prop where
  quotes : shared.session.backend.QuotesAs quotation
  cache : shared.session.cache.IsSound quotation
  requests : ∀ request ∈ shared.requests, request.IsFaithful quotation

variable {quotation : String → String}

theorem handle_advance {shared : SharedSession State} {index : Nat} {request : QuoteRequest}
    (found : shared.requests[index]? = some request) :
    shared.handle (.advance index) =
      ⟨(request.advance shared.session).2,
        shared.requests.set index (request.advance shared.session).1⟩ := by
  simp only [handle, found]

theorem IsSound.fresh {s : Session State} (quotes : s.backend.QuotesAs quotation)
    (capacity maxBytes : Nat) : (SharedSession.fresh s capacity maxBytes).IsSound quotation where
  quotes := quotes
  cache := .empty quotation capacity maxBytes
  requests _ member := nomatch member

theorem IsSound.handle {shared : SharedSession State} (sound : shared.IsSound quotation)
    (event : SharedEvent State) : (shared.handle event).IsSound quotation := by
  cases event with
  | request scalar =>
    refine ⟨sound.quotes, sound.cache, fun request member => ?_⟩
    rcases List.mem_append.mp member with present | last
    · exact sound.requests request present
    · rw [List.mem_singleton.mp last]
      exact .begun scalar
  -- the cache and the requests know nothing of the state
  | drift state => exact ⟨sound.quotes, sound.cache, sound.requests⟩
  | advance index =>
    cases found : shared.requests[index]? with
    | none => simpa only [SharedSession.handle, found] using sound
    | some request =>
      have faithful := sound.requests request (List.mem_of_getElem? found)
      rw [handle_advance found]
      refine ⟨?_, faithful.isSound_advance sound.cache, fun other member => ?_⟩
      · rw [(request.touches shared.session).backend]
        exact sound.quotes
      · rcases List.mem_or_eq_of_mem_set member with present | rfl
        · exact sound.requests other present
        · exact faithful.advance sound.quotes sound.cache

theorem IsSound.run {shared : SharedSession State} (sound : shared.IsSound quotation)
    (events : List (SharedEvent State)) : (shared.run events).IsSound quotation := by
  induction events generalizing shared with
  | nil => exact sound
  | cons event events inductionHypothesis => exact inductionHypothesis (sound.handle event)

/-! ## The literals that are stored -/

/-- The literal that an event puts into the cache, if it does. -/
def stores? (shared : SharedSession State) : SharedEvent State → Option String
  | .advance index =>
    match shared.requests[index]?.map QuoteRequest.stage with
    | some (.answered text _) => if shared.session.cache.takes text then some text else none
    | _ => none
  | _ => none

/-- The literals that events put into the cache, in order. -/
def stored (shared : SharedSession State) : List (SharedEvent State) → List String
  | [] => []
  | event :: events => (shared.stores? event).toList ++ (shared.handle event).stored events

/-- All that an event can do to the cache. -/
theorem cache_handle (shared : SharedSession State) (event : SharedEvent State) :
    (shared.stores? event = none ∧ (shared.handle event).session.cache = shared.session.cache) ∨
      ∃ text quoted, shared.stores? event = some text ∧ shared.session.cache.takes text = true ∧
        (shared.handle event).session.cache = shared.session.cache.insert text quoted := by
  cases event with
  | request scalar => exact .inl ⟨rfl, rfl⟩
  | drift state => exact .inl ⟨rfl, rfl⟩
  | advance index =>
    cases found : shared.requests[index]? with
    | none => simp [stores?, handle, found]
    | some request =>
      rw [handle_advance found]
      cases stage : request.stage with
      | answered text quoted =>
        have inserted : (request.advance shared.session).2.cache =
            shared.session.cache.insert text quoted := by
          simp only [QuoteRequest.advance, stage]
          rfl
        cases takes : shared.session.cache.takes text with
        | true => exact .inr ⟨text, quoted, by simp [stores?, found, stage, takes], takes, inserted⟩
        | false =>
          refine .inl ⟨by simp [stores?, found, stage, takes], ?_⟩
          rw [inserted, LiteralCache.insert_of_not_takes takes]
      | _ =>
        refine .inl ⟨by simp [stores?, found, stage], ?_⟩
        rcases (request.touches shared.session).cache with same | ⟨text, quoted, answered, -⟩
        · exact same
        · rw [stage] at answered
          cases answered

theorem limits_run (shared : SharedSession State) (events : List (SharedEvent State)) :
    (shared.run events).session.cache.capacity = shared.session.cache.capacity ∧
      (shared.run events).session.cache.maxBytes = shared.session.cache.maxBytes := by
  induction events generalizing shared with
  | nil => exact ⟨rfl, rfl⟩
  | cons event events inductionHypothesis =>
    obtain ⟨capacity, maxBytes⟩ := inductionHypothesis (shared.handle event)
    have step : (shared.handle event).session.cache.capacity = shared.session.cache.capacity ∧
        (shared.handle event).session.cache.maxBytes = shared.session.cache.maxBytes := by
      rcases shared.cache_handle event with ⟨-, same⟩ | ⟨text, quoted, -, -, inserted⟩
      · simp [same]
      · simp [inserted]
    exact ⟨capacity.trans step.1, maxBytes.trans step.2⟩

/-- The queue holds the literals stored last, as many as there is room for: a literal that is stored
comes last, and only the oldest give way. -/
theorem queue_handle {shared : SharedSession State} (sound : shared.IsSound quotation) {past : List String}
    (queue : shared.session.cache.queue = past.rtake shared.session.cache.capacity)
    (event : SharedEvent State) :
    (shared.handle event).session.cache.queue =
      (past ++ (shared.stores? event).toList).rtake shared.session.cache.capacity := by
  rcases shared.cache_handle event with ⟨nothing, same⟩ | ⟨text, quoted, stores, takes, inserted⟩
  · simpa [nothing, same] using queue
  · rw [inserted, sound.cache.insert_of_takes takes, stores, queue]
    exact LiteralCache.rtake_append_singleton past text _

theorem queue_run {shared : SharedSession State} (sound : shared.IsSound quotation) {past : List String}
    (queue : shared.session.cache.queue = past.rtake shared.session.cache.capacity)
    (events : List (SharedEvent State)) :
    (shared.run events).session.cache.queue =
      (past ++ shared.stored events).rtake shared.session.cache.capacity := by
  induction events generalizing shared past with
  | nil => simpa [stored, run] using queue
  | cons event events inductionHypothesis =>
    have capacity : (shared.handle event).session.cache.capacity = shared.session.cache.capacity :=
      (shared.limits_run [event]).1
    have next := queue_handle sound queue event
    rw [← capacity] at next ⊢
    rw [stored, ← List.append_assoc]
    exact inductionHypothesis (sound.handle event) next

/-! ## Finished requests -/

theorem finished_handle {shared : SharedSession State} {index : Nat} {request : QuoteRequest}
    {outcome : Except SessionError String} (found : shared.requests[index]? = some request)
    (finished : request.stage = .finished outcome) (event : SharedEvent State) :
    (shared.handle event).requests[index]? = some request := by
  obtain ⟨within, -⟩ := List.getElem?_eq_some_iff.mp found
  cases event with
  | request scalar =>
    simp only [handle]
    rw [List.getElem?_append_left within, found]
  | drift state => exact found
  | advance other =>
    cases present : shared.requests[other]? with
    | none => simpa only [handle, present] using found
    | some otherRequest =>
      rw [handle_advance present]
      by_cases same : other = index
      · subst same
        cases found.symm.trans present
        rw [List.getElem?_set_self within]
        simp [QuoteRequest.advance, finished]
      · rw [List.getElem?_set_ne same, found]

theorem finished_run {shared : SharedSession State} {index : Nat} {request : QuoteRequest}
    {outcome : Except SessionError String} (found : shared.requests[index]? = some request)
    (finished : request.stage = .finished outcome) (events : List (SharedEvent State)) :
    (shared.run events).requests[index]? = some request := by
  induction events generalizing shared with
  | nil => exact found
  | cons event events inductionHypothesis =>
    exact inductionHypothesis (finished_handle found finished event)

/-- A step of a request that fails in the end leaves the cache alone: the step that comes to the
cache finishes its request with the quotation. -/
theorem cache_of_failed {shared : SharedSession State} {index : Nat} {events : List (SharedEvent State)}
    {request : QuoteRequest} {e : SessionError}
    (found : (shared.run (.advance index :: events)).requests[index]? = some request)
    (failed : request.stage = .finished (.error e)) :
    (shared.handle (.advance index)).session.cache = shared.session.cache := by
  cases present : shared.requests[index]? with
  | none => simp only [handle, present]
  | some before =>
    obtain ⟨within, -⟩ := List.getElem?_eq_some_iff.mp present
    rcases (before.touches shared.session).cache with same | ⟨text, quoted, answered, -⟩
    · rw [handle_advance present, same]
    · have after : (shared.handle (.advance index)).requests[index]? =
          some { before with stage := .finished (.ok quoted) } := by
        rw [handle_advance present, List.getElem?_set_self within]
        simp [QuoteRequest.advance, answered]
      have last := finished_run after rfl events
      cases found.symm.trans last
      cases failed

/-! ## One caller and many -/

theorem run_alone (s : Session State) (scalar : Scalar) :
    (SharedSession.mk s []).run [.request scalar, .advance 0, .advance 0, .advance 0] =
      ⟨(s.quote scalar).2, [{ scalar := scalar, stage := .finished (s.quote scalar).1 }]⟩ := by
  have steps := s.quote_eq_advance scalar
  simp only at steps
  simp [run, handle, steps]

/-- A session quotes as its backend does, whatever its cache holds. -/
theorem eq_of_quote {s : Session State} (quotes : s.backend.QuotesAs quotation)
    (sound : s.cache.IsSound quotation) {scalar : Scalar} {quoted : String}
    (succeeded : (s.quote scalar).1 = .ok quoted) : quoted = scalar.quotedAs quotation := by
  have alone : (SharedSession.mk s []).IsSound quotation := ⟨quotes, sound, by simp⟩
  have after := alone.run [.request scalar, .advance 0, .advance 0, .advance 0]
  rw [run_alone, succeeded] at after
  exact (after.requests _ (List.mem_singleton_self _)).eq_of_finished rfl

/-- **The cache is transparent and bounded.**  Suppose the backend, whenever it quotes a text, quotes
it in one way.  After any events of a shared session, a request that has succeeded has the quotation
that every session without a cache gets if it gets one, and a request that has failed has stored
nothing by any of its steps.  The cache keeps within its bounds, with its queue in step with its table,
and the queue holds the literals stored last, in order. -/
theorem quoting_transparent (s : Session State) (quotes : s.backend.QuotesAs quotation)
    (capacity maxBytes : Nat) (events : List (SharedEvent State)) :
    let start := fresh s capacity maxBytes
    let shared := start.run events
    (∀ request ∈ shared.requests, ∀ quoted, request.stage = .finished (.ok quoted) →
      quoted = request.scalar.quotedAs quotation ∧
        ∀ state answer, ({ s with state := state, cache := .empty 0 0 }.quote request.scalar).1 =
          .ok answer → answer = quoted) ∧
      (∀ before index after request e, events = before ++ .advance index :: after →
        shared.requests[index]? = some request → request.stage = .finished (.error e) →
          (start.run (before ++ [.advance index])).session.cache = (start.run before).session.cache) ∧
      shared.session.cache.capacity = capacity ∧ shared.session.cache.maxBytes = maxBytes ∧
      shared.session.cache.size ≤ capacity ∧ shared.session.cache.IsSound quotation ∧
      shared.session.cache.queue = (start.stored events).rtake capacity := by
  intro start shared
  have begun : start.IsSound quotation := .fresh quotes capacity maxBytes
  have sound := begun.run events
  obtain ⟨capacityKept, maxBytesKept⟩ := start.limits_run events
  refine ⟨fun request member quoted finished => ?_, ?_, capacityKept, maxBytesKept, ?_, sound.cache, ?_⟩
  · have right := (sound.requests request member).eq_of_finished finished
    refine ⟨right, fun state answer succeeded => ?_⟩
    rw [right]
    exact eq_of_quote (s := { s with state := state, cache := .empty 0 0 }) quotes
      (.empty quotation 0 0) succeeded
  · rintro before index after request e rfl found failed
    simp only [shared, run, List.foldl_append] at found
    simp only [run, List.foldl_append]
    exact cache_of_failed found failed
  · exact sound.cache.size_le.trans_eq capacityKept
  · have nothing : start.session.cache.queue = ([] : List String).rtake capacity :=
      (List.rtake_nil capacity).symm
    exact queue_run begun nothing events

/-- Two callers miss the same text and both come to put it in; a third caller's text cannot be quoted,
and a fourth one's takes the place of the first. -/
theorem quoting_transparent_race :
    let s : Session Script :=
      ⟨Script.backend "sqlite", { quotes := [.ok (), .ok (), .error (.statement "gone"), .ok ()] },
        .sqlite, .empty 8 8, none⟩
    let race : List (SharedEvent Script) :=
      [.request (.text "a"), .request (.text "a"), .advance 0, .advance 1, .advance 1, .advance 0,
        .advance 0, .advance 1]
    let others : List (SharedEvent Script) :=
      [.request (.text "b"), .advance 2, .advance 2, .request (.text "c"), .advance 3, .advance 3,
        .advance 3]
    let shared := (fresh s 1 4).run (race ++ others)
    shared.requests.map QuoteRequest.stage =
      [.finished (.ok "<a>"), .finished (.ok "<a>"),
        .finished (.error (.execution "quote literal" [.text "b"] (.statement "gone"))),
        .finished (.ok "<c>")] ∧
      (∀ state answer, ({ s with state := state, cache := .empty 0 0 }.quote (.text "a")).1 =
        .ok answer → answer = "<a>") ∧
      ((fresh s 1 4).run race).session.cache.queue = ["a"] ∧ shared.session.cache.queue = ["c"] := by
  intro s race others shared
  have quotes : s.backend.QuotesAs fun text => "<" ++ text ++ ">" := by
    intro state text quoted succeeded
    simp only [s, Script.backend] at succeeded
    cases answer : (Script.next () state.quotes).1 <;> rw [answer] at succeeded <;> cases succeeded
    rfl
  obtain ⟨-, -, -, -, -, -, first⟩ := quoting_transparent s quotes 1 4 race
  obtain ⟨agree, -, -, -, -, -, last⟩ := quoting_transparent s quotes 1 4 (race ++ others)
  have finished : ⟨.text "a", .finished (.ok "<a>")⟩ ∈ shared.requests := by decide +kernel
  refine ⟨by decide +kernel, (agree _ finished "<a>" rfl).2, ?_, ?_⟩
  · rw [first]
    decide +kernel
  · rw [last]
    decide +kernel

end SharedSession

end SqlAssembly
