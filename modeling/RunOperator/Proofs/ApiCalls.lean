import RunOperator.Api.Calls

/-!
# What calls make of the server's answers

A dialogue is described by its exchanges, which are its requests with their answers
(`Dialogue.exchanges`), and by its result. The calls of a poll have one exchange each, or none when
the run has no name or no namespace that could be asked for. What a call makes of its answer depends
on nothing but the refusal in it (`refusal?`): the same code means different things to different
calls, and each of them has one lemma for answers it can read, and one for all others.
-/

namespace RunOperator.Api

/-- A request and what was answered to it. -/
abbrev Exchange := Request × Option Answer

namespace Dialogue

variable {α β : Type}

/-- The requests of a dialogue with their answers, when the answers are those of a list and none
after it. -/
def exchanges : Dialogue α → List (Option Answer) → List Exchange
  | done _, _ => []
  | ask q next, answers =>
    (q, answers.headD none) :: exchanges (next (answers.headD none)) answers.tail

/-- The result of a dialogue with these answers. -/
def result (d : Dialogue α) (answers : List (Option Answer)) : α := (d.against answers).2

/-- A dialogue that has come to its result makes no more requests. -/
@[simp] theorem against_done (a : α) (answers : List (Option Answer)) :
    (done a).against answers = ([], a) := rfl

private theorem against_ask (q : Request) (next : Option Answer → Dialogue α)
    (answers : List (Option Answer)) :
    (ask q next).against answers =
      (q :: ((next (answers.headD none)).against answers.tail).1,
        (next (answers.headD none)).result answers.tail) := by
  cases answers <;> rfl

/-- A dialogue that has come to its result has it whatever is answered. -/
@[simp] theorem result_done (a : α) (answers : List (Option Answer)) :
    (done a).result answers = a := rfl

/-- A dialogue goes on with the first answer to its request. -/
@[simp] theorem result_ask (q : Request) (next : Option Answer → Dialogue α)
    (answers : List (Option Answer)) :
    (ask q next).result answers = (next (answers.headD none)).result answers.tail := by
  rw [result, against_ask]

/-- A dialogue that has come to its result exchanges nothing more. -/
@[simp] theorem exchanges_done (a : α) (answers : List (Option Answer)) :
    (done a).exchanges answers = [] := rfl

/-- A request is exchanged with the first answer, and then the dialogue goes on. -/
@[simp] theorem exchanges_ask (q : Request) (next : Option Answer → Dialogue α)
    (answers : List (Option Answer)) :
    (ask q next).exchanges answers =
      (q, answers.headD none) :: (next (answers.headD none)).exchanges answers.tail := rfl

/-- The exchanges are about the requests that the dialogue makes. -/
theorem requests_of_exchanges (d : Dialogue α) (answers : List (Option Answer)) :
    (d.exchanges answers).map Prod.fst = (d.against answers).1 := by
  induction d generalizing answers with
  | done a => rfl
  | ask q next ih =>
    rw [against_ask, exchanges_ask, List.map_cons, ih]

end Dialogue

open Dialogue

/-! ### Refusals -/

/-- What the server says about the failure of a request, if its answer is that the request
failed. -/
def refusal? : Option Answer → Option Status
  | none => none
  | some a => if 400 ≤ a.status ∧ a.status < 600 then some (Status.ofAnswer a) else none

/-- The answer is an error of the API with the code. -/
def RefusedWith (answer : Option Answer) (code : Nat) : Prop :=
  ∃ s, refusal? answer = some s ∧ s.code = code

section Decoding

variable {α : Type} {read : Json → Option α} {answer : Option Answer} {a : α} {f : Failure}
  {s : Status} {code : Nat}

/-- Reading an answer gives the refusal if there is one, whatever was to be read. -/
theorem decode_of_refusal? (h : refusal? answer = some s) :
    decode read answer = .error (.refused s) := by
  cases answer with
  | none => cases h
  | some a =>
    by_cases hrange : 400 ≤ a.status ∧ a.status < 600
    · rw [refusal?, if_pos hrange, Option.some.injEq] at h
      rw [decode, if_pos hrange, h]
    · rw [refusal?, if_neg hrange] at h
      cases h

/-- The code of a failed request is that of the refusal. -/
theorem code?_of_decode (h : decode read answer = .error f) :
    f.code? = (refusal? answer).map Status.code := by
  cases hrefusal : refusal? answer with
  | some s =>
    rw [decode_of_refusal? hrefusal] at h
    cases h
    rfl
  | none =>
    cases answer with
    | none =>
      cases h
      rfl
    | some a =>
      have hrange : ¬ (400 ≤ a.status ∧ a.status < 600) := by
        intro hrange
        rw [refusal?, if_pos hrange] at hrefusal
        cases hrefusal
      rw [decode, if_neg hrange] at h
      cases hread : (Json.parse? a.body).bind read with
      | some v =>
        rw [hread] at h
        cases h
      | none =>
        rw [hread] at h
        cases h
        rfl

/-- An answer that can be read is no refusal. -/
theorem refusal?_of_decode (h : decode read answer = .ok a) : refusal? answer = none := by
  cases hrefusal : refusal? answer with
  | none => rfl
  | some s =>
    rw [decode_of_refusal? hrefusal] at h
    cases h

/-- An answer that can be read refuses nothing with any code. -/
theorem not_refusedWith_of_decode (h : decode read answer = .ok a) : ¬ RefusedWith answer code := by
  rintro ⟨s, hs, -⟩
  rw [refusal?_of_decode h] at hs
  cases hs

/-- The code of a failure is the one that the server has refused the request with. -/
theorem code?_eq_iff (h : decode read answer = .error f) :
    f.code? = some code ↔ RefusedWith answer code := by
  rw [code?_of_decode h, Option.map_eq_some_iff]
  rfl

end Decoding

/-! ### The three calls of a poll -/

/-- The request that reads a run. -/
def readRequest (k : RunKey) : Request := .get (runPath k)

/-- The request that lists the pods of a run. -/
def podsRequest (k : RunKey) : Request :=
  { Request.get (podsPath k.ns) with labelSelector := some (Run.nameLabel ++ "=" ++ k.name) }

/-- Asking for pods is not asking for a run. -/
theorem podsRequest_ne_readRequest (k k' : RunKey) : podsRequest k ≠ readRequest k' := by
  intro h
  cases congrArg Request.labelSelector h

/-- Reading a run puts nothing. -/
theorem readRequest_method_ne_put (k : RunKey) : (readRequest k).method ≠ .put := nofun

/-- Asking for pods puts nothing. -/
theorem podsRequest_method_ne_put (k : RunKey) : (podsRequest k).method ≠ .put := nofun

/-- The result of the request for pods: a missing list is an empty one. -/
def podsResult (answer : Option Answer) : Except CallError (List PodPhase) :=
  match decode (readList readPod) answer with
  | .ok pods => .ok pods
  | .error e => if e.code? = some 404 then .ok [] else .error (.failure e)

/-- What a poll does after its pods were listed. -/
def settlePoll : PollStep (Run × RunState) → Dialogue PollResult
  | .finish result => .done result
  | .next (r, target) =>
    (replaceRun r).bind fun answer => .done (Poll.afterWrite target (reported answer))

/-- What a poll does after its run was read. -/
def continuePoll (k : RunKey) (now : Instant) : PollStep (Run × RunState) → Dialogue PollResult
  | .finish result => .done result
  | .next (r, current) =>
    .ask (podsRequest k) fun answer =>
      settlePoll (Poll.afterList r current now (reported (podsResult answer)))

/-- A poll reads its run and goes on with it. -/
theorem poll_eq (k : RunKey) (now : Instant) :
    poll k now =
      (getRun k).bind fun answer => continuePoll k now (Poll.afterRead (reported answer)) := by
  refine congrArg (getRun k).bind (funext fun answer => ?_)
  cases Poll.afterRead (reported answer) <;> rfl

/-- The error of a read: a run that is missing has its own. -/
def readError (k : RunKey) (f : Failure) : ClientError :=
  if f.code? = some 404 then .runNotFound k else .api f.message

/-- The error of a replacement: a run that is missing and a conflict have their own. -/
def replaceError (k : RunKey) (f : Failure) : ClientError :=
  if f.code? = some 404 then .runNotFound k
  else if f.code? = some 409 then .conflict k
  else .api f.message

section Calls

variable {k : RunKey} {r : Run} {answer : Option Answer} {f : Failure} {pods : List PodPhase}

/-- A run that was answered is reported. -/
theorem reported_runResult_of_ok {named : Nat → Option CallError}
    (h : decode Run.ofJson? answer = .ok r) : reported (runResult named answer) = .ok r := by
  rw [runResult, h]
  rfl

private theorem reported_runResult_of_error {named : Nat → Option CallError}
    (h : decode Run.ofJson? answer = .error f) :
    reported (runResult named answer) =
      .error (((f.code?).bind named).getD (.failure f)).toClientError := by
  rw [runResult, h]
  rfl

/-- A failed read is reported by what its code means for a read. -/
theorem reported_read_of_error (h : decode Run.ofJson? answer = .error f) :
    reported (runResult (readMeaning k) answer) = .error (readError k f) := by
  rw [reported_runResult_of_error h, readError]
  cases hcode : f.code? with
  | none => rfl
  | some code =>
    rw [Option.bind_some, readMeaning]
    by_cases hmissing : code = 404 <;> simp [hmissing, CallError.toClientError]

/-- A failed replacement is reported by what its code means for a replacement. -/
theorem reported_replace_of_error (h : decode Run.ofJson? answer = .error f) :
    reported (runResult (replaceMeaning k) answer) = .error (replaceError k f) := by
  rw [reported_runResult_of_error h, replaceError]
  cases hcode : f.code? with
  | none => rfl
  | some code =>
    rw [Option.bind_some, replaceMeaning]
    by_cases hmissing : code = 404
    · simp [hmissing, CallError.toClientError]
    · by_cases hconflict : code = 409 <;> simp [hmissing, hconflict, CallError.toClientError]

/-- Pods that were answered are reported. -/
theorem podsResult_of_ok (h : decode (readList readPod) answer = .ok pods) :
    podsResult answer = .ok pods := by
  rw [podsResult, h]

/-- A missing list of pods is an empty one. -/
theorem podsResult_of_missing (h : RefusedWith answer 404) : podsResult answer = .ok [] := by
  obtain ⟨s, hs, hcode⟩ := h
  rw [podsResult, decode_of_refusal? hs]
  exact if_pos (congrArg some hcode)

/-- A failure to list pods is reported, unless the code says that there are none. -/
theorem podsResult_of_error (h : decode (readList readPod) answer = .error f)
    (hcode : f.code? ≠ some 404) : podsResult answer = .error (.failure f) := by
  rw [podsResult, h]
  exact if_neg hcode

/-- A run is replaced by one request, or the replacement is refused without any. -/
theorem replaceRun_cases (r : Run) :
    (∃ e text, replaceRun r = .done (.error e) ∧ e.toClientError = .api text) ∨
      ∃ q k, q.method = Method.put ∧
        replaceRun r = .ask q fun answer => .done (runResult (replaceMeaning k) answer) := by
  unfold replaceRun
  cases r.metadata.ns with
  | none => exact Or.inl ⟨_, _, rfl, rfl⟩
  | some ns =>
    dsimp only [askForRun]
    by_cases hname : isPathName r.displayName = true
    · rw [if_pos hname]
      exact Or.inr ⟨_, _, rfl, rfl⟩
    · rw [if_neg hname]
      exact Or.inl ⟨_, _, rfl, rfl⟩

/-- A run without a namespace is refused before anything is asked, even credentials. -/
theorem authorized_replaceRun (credentials : Bool) (h : r.metadata.ns = none) :
    authorized credentials (replaceRun r) = .done (.error (.noNamespace r.displayName)) := by
  have hrefused : replaceRun r = .done (.error (.noNamespace r.displayName)) := by
    rw [replaceRun, h]
  rw [hrefused]
  cases credentials <;> rfl

end Calls

end RunOperator.Api
