import RequestPipeline.Proofs.Serving.Standard

/-!
# The way of a request through a pipeline

A pipeline is a chain of stages around a handler, and each stage decides whether what comes behind it gets the
request.  A `Visit` is a stage that passes a request on, and a `Way` is a row of visits in which every stage gets
exactly what the one before it passed on.

* `process_eq_foldr`   the chain is the nesting of its stages;
* `process_of_way`     along a way a request goes in from the first stage to the last, and the answer comes out from
                       the last to the first;
* `exists_way`         a request comes as far as the handler, or to a stage that answers it;
* `process_nests`      **a pipeline is the nesting of its stages, and a request goes through them in order.**
-/

namespace RequestPipeline

namespace Middleware
variable {m : Middleware} {next : Handler} {start onward : Exchange × Request}

/-- a stage gets a request and comes to its decision -/
def enter (m : Middleware) (start : Exchange × Request) : Run Unit := do
  Run.note (.visited m.name)
  let _ ← m.process start.1 start.2
  pure ()

/-- once a stage has decided, it goes on by its decision -/
theorem around_eq (m : Middleware) (next : Handler) (start : Exchange × Request) :
    m.around next start.1 start.2 = (do
      m.enter start
      match (m.process start.1 start.2).value with
      | .answer state response => pure (state, response)
      | .pass state request back => do
        let (state, response) ← next state request
        back state response) := by
  unfold around enter
  simp only [bind_assoc, pure_bind]
  refine congrArg _ (funext fun _ => ?_)
  exact (Run.bind_value _ _).symm

theorem around_of_answer {answer : Exchange × Response}
    (h : (m.process start.1 start.2).value = .answer answer.1 answer.2) :
    m.around next start.1 start.2 = (do m.enter start; pure answer) := by
  rw [around_eq, h]

theorem around_of_pass {back : Exchange → Response → Run (Exchange × Response)}
    (h : (m.process start.1 start.2).value = .pass onward.1 onward.2 back) :
    m.around next start.1 start.2 = (do
      m.enter start
      let answer ← next onward.1 onward.2
      back answer.1 answer.2) := by
  rw [around_eq, h]

end Middleware

/-! ## ways -/

/-- a stage that passes a request on: what it gets, what it passes on, and how it treats what comes back -/
structure Visit where
  stage : Middleware
  seen : Exchange × Request
  sent : Exchange × Request
  back : Exchange → Response → Run (Exchange × Response)
  passes : (stage.process seen.1 seen.2).value = .pass sent.1 sent.2 back

namespace Visit

def enter (v : Visit) : Run Unit := v.stage.enter v.seen

/-- the answer comes back through the stage -/
def leave (answer : Exchange × Response) (v : Visit) : Run (Exchange × Response) := v.back answer.1 answer.2

end Visit

/-- visits one after the other, from what the first stage gets to what the last one passes on; every stage gets
what the one before it passed on -/
inductive Way : Exchange × Request → List Visit → Exchange × Request → Prop
  | nil (x : Exchange × Request) : Way x [] x
  | cons (v : Visit) {visits : List Visit} {x : Exchange × Request} (way : Way v.sent visits x) :
      Way v.seen (v :: visits) x

namespace Pipeline

theorem process_eq_foldr (p : Pipeline) (handler : Handler) :
    p.process handler = p.foldr Middleware.around handler := by
  induction p with
  | nil => exact process_nil handler
  | cons m ms ih => rw [process_cons, ih, List.foldr_cons]

/-- along a way, the stages enter in order and leave in reverse, around the stages behind -/
theorem process_of_way {start seen : Exchange × Request} {visits : List Visit} (way : Way start visits seen)
    (rest : Pipeline) (handler : Handler) :
    process (visits.map Visit.stage ++ rest) handler start.1 start.2 = (do
      forM visits Visit.enter
      let answer ← process rest handler seen.1 seen.2
      visits.reverse.foldlM Visit.leave answer) := by
  induction way with
  | nil x =>
    rw [List.forM_nil, pure_bind]
    exact (bind_pure _).symm
  | @cons v visits x way ih =>
    calc process ((v :: visits).map Visit.stage ++ rest) handler v.seen.1 v.seen.2
      _ = v.stage.around (process (visits.map Visit.stage ++ rest) handler) v.seen.1 v.seen.2 := by
        rw [List.map_cons, List.cons_append, process_cons]
      _ = (do
          v.enter
          let answer ← process (visits.map Visit.stage ++ rest) handler v.sent.1 v.sent.2
          Visit.leave answer v) := Middleware.around_of_pass v.passes
      _ = (do
          v.enter
          let answer ← (do
            forM visits Visit.enter
            let answer ← process rest handler x.1 x.2
            visits.reverse.foldlM Visit.leave answer)
          Visit.leave answer v) := by rw [ih]
      _ = _ := by
        simp only [List.forM_cons, List.reverse_cons, List.foldlM_append, List.foldlM_cons, List.foldlM_nil,
          bind_assoc, bind_pure]

-- stages that sign what comes back are visited from the first to the last and sign from the last to the first
example :
    let p : Pipeline := ["first", "second", "third"].map fun name =>
      ⟨name, fun state request => .pass state request fun state response =>
        (state, { response with body := response.body ++ Utf8.ofText name })⟩
    let run := p.process (fun state _ => pure (state, ⟨202, [], []⟩)) (.start ⟨7⟩) ⟨"GET", ⟨"/", none⟩, [], []⟩
    run.events = [.visited "first", .visited "second", .visited "third"] ∧
      run.value.2.body = Utf8.ofText "thirdsecondfirst" := ⟨rfl, rfl⟩

/-- a request comes as far as the handler, or to a stage that answers it -/
theorem exists_way (p : Pipeline) (start : Exchange × Request) : ∃ visits seen, Way start visits seen ∧
    (p = visits.map Visit.stage ∨ ∃ m behind, ∃ answer : Exchange × Response,
      p = visits.map Visit.stage ++ m :: behind ∧
        (m.process seen.1 seen.2).value = .answer answer.1 answer.2) := by
  induction p generalizing start with
  | nil => exact ⟨[], start, .nil start, .inl rfl⟩
  | cons m ms ih =>
    cases h : (m.process start.1 start.2).value with
    | answer state response => exact ⟨[], start, .nil start, .inr ⟨m, ms, (state, response), rfl, h⟩⟩
    | pass state request back =>
      let v : Visit := ⟨m, start, (state, request), back, h⟩
      obtain ⟨visits, seen, way, ends⟩ := ih (state, request)
      refine ⟨v :: visits, seen, .cons v way, ?_⟩
      rcases ends with rfl | ⟨m', behind, answer, rfl, answers⟩
      · exact .inl rfl
      · exact .inr ⟨m', behind, answer, rfl, answers⟩

/-- **A pipeline is the nesting of its stages, and a request goes through them in order.** -/
theorem process_nests :
    (∀ (p : Pipeline) (handler : Handler), p.process handler = p.foldr Middleware.around handler) ∧
    (∀ (p : Pipeline) (start : Exchange × Request), ∃ visits seen, Way start visits seen ∧
      -- every stage passes the request on, and the handler gets it once
      ((p = visits.map Visit.stage ∧
        ∀ handler : Handler, p.process handler start.1 start.2 = (do
          forM visits Visit.enter
          let answer ← handler seen.1 seen.2
          visits.reverse.foldlM Visit.leave answer)) ∨
      -- or one of them answers it, and the handler does not get it
      ∃ m behind, ∃ answer : Exchange × Response, p = visits.map Visit.stage ++ m :: behind ∧
        (m.process seen.1 seen.2).value = .answer answer.1 answer.2 ∧
        ∀ handler : Handler, p.process handler start.1 start.2 = (do
          forM visits Visit.enter
          m.enter seen
          visits.reverse.foldlM Visit.leave answer))) ∧
    -- in the standard pipeline a caller who is refused is answered behind the first stage, through which the answer
    -- leaves; the third stage and the handler do not get the request
    (∀ factory authenticator fresh f handler state (request : Request),
      authenticator (factory.correlate fresh request.headers).2 = .error f →
      (standard factory authenticator fresh).process handler state request = (do
        Run.note (.visited "correlation")
        Run.note (.visited "identity")
        pure ({ state with correlationId := (factory.correlate fresh request.headers).1 },
          factory.echo (factory.correlate fresh request.headers).1
            (.failure f (factory.correlate fresh request.headers).1)))) := by
  refine ⟨process_eq_foldr, fun p start => ?_, fun _ _ _ _ _ state _ refused =>
    process_standard_of_refused rfl refused state⟩
  obtain ⟨visits, seen, way, rfl | ⟨m, behind, answer, rfl, answers⟩⟩ := exists_way p start
  · refine ⟨visits, seen, way, .inl ⟨rfl, fun handler => ?_⟩⟩
    have h := process_of_way way [] handler
    rwa [List.append_nil, process_nil] at h
  · refine ⟨visits, seen, way, .inr ⟨m, behind, answer, rfl, answers, fun handler => ?_⟩⟩
    rw [process_of_way way, process_cons, Middleware.around_of_answer answers, bind_assoc]
    simp only [pure_bind]

/-- a request of a caller whose number cannot be read -/
def misnumbered : Request := ⟨"GET", ⟨"/rooms", none⟩, [("x-principal-id", Utf8.ofText "seven")], []⟩

theorem process_nests_misnumbered :
    Authenticator.byHeader (ContextFactory.default.correlate ⟨7⟩ misnumbered.headers).2
      = .error (.unauthorized "malformed principal id") ∧
    (standard .default .byHeader ⟨7⟩).process (fun state _ => pure (state, .json 202 .null)) (.start ⟨8⟩) misnumbered
      = (do
        Run.note (.visited "correlation")
        Run.note (.visited "identity")
        pure (.start ⟨7⟩, ContextFactory.default.echo ⟨7⟩ (.failure (.unauthorized "malformed principal id") ⟨7⟩))) := by
  have refused : Authenticator.byHeader (ContextFactory.default.correlate ⟨7⟩ misnumbered.headers).2
      = .error (.unauthorized "malformed principal id") := rfl
  exact ⟨refused, process_nests.2.2 _ _ _ _ _ _ _ refused⟩

end Pipeline
end RequestPipeline
