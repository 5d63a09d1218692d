import RunOperator.Proofs.ApiCalls
import RunOperator.Proofs.RetryAccounting

/-!
# What the server's answers make of a poll

A poll over the API server is a dialogue of at most three requests. The code 404 means different
things in the answers to them: a run that is gone for the two requests about the run itself, and a
run without pods for the listing between them. `Course` lists the ways that such a poll can go, each
with what was asked and answered, and `course_of_poll` says that there are no others.
`polls_report_what_was_answered` reads off it what a poll reports for which answers.
-/

namespace RunOperator.Api

open Dialogue

/-! ### The ways a poll can go -/

/-- What is exchanged after the pods were listed, and the result of the poll. -/
inductive WriteCourse : List Exchange → PollResult → Prop
  /-- The run stays in its state. -/
  | unneeded : WriteCourse [] (.ok .pending)
  /-- The run cannot be replaced, and nothing is asked. -/
  | unsent (text : String) : WriteCourse [] (.error (.client (.api text)))
  /-- The run was not replaced. -/
  | failed (q : Request) (c : Option Answer) (k : RunKey) (f : Failure) (hput : q.method = .put)
      (hwrite : decode Run.ofJson? c = .error f) :
      WriteCourse [(q, c)] (.error (.client (replaceError k f)))
  /-- The run was replaced. -/
  | written (q : Request) (c : Option Answer) (r : Run) (found : PollAnswer)
      (hput : q.method = .put) (hwrite : decode Run.ofJson? c = .ok r) :
      WriteCourse [(q, c)] (.ok found)

/-- What follows the listing of pods is the course of a write. -/
theorem writeCourse_of_settlePoll (r : Run) (current : RunState) (now : Instant)
    (pods : List PodPhase) (answers : List (Option Answer)) :
    WriteCourse ((settlePoll (Poll.afterList r current now (.ok pods))).exchanges answers)
      ((settlePoll (Poll.afterList r current now (.ok pods))).result answers) := by
  rw [Poll.afterList]
  by_cases hstays : evaluate current r.cancelRequested pods = current
  · rw [if_pos hstays]
    exact .unneeded
  · rw [if_neg hstays, settlePoll]
    obtain ⟨e, text, hrefused, htext⟩ | ⟨q, k, hput, hasks⟩ :=
      replaceRun_cases (r.transition current (evaluate current r.cancelRequested pods) now)
    · rw [hrefused]
      change WriteCourse [] (.error (.client e.toClientError))
      rw [htext]
      exact .unsent text
    · rw [hasks]
      simp only [Dialogue.bind, exchanges_ask, exchanges_done, result_ask, result_done]
      cases hwrite : decode Run.ofJson? (answers.headD none) with
      | error f =>
        rw [reported_replace_of_error hwrite]
        exact .failed q _ k f hput hwrite
      | ok written =>
        rw [reported_runResult_of_ok hwrite]
        exact .written q _ written _ hput hwrite

/-- What is exchanged in the course of a poll, and its result. -/
inductive Course (k : RunKey) (now : Instant) (answers : List (Option Answer)) :
    List Exchange → PollResult → Prop
  /-- The name of the run cannot stand in a path. -/
  | unasked : Course k now answers [] (.error (.client (.api Failure.badName.message)))
  /-- The run was not read. -/
  | unread (a : Option Answer) (f : Failure) (hread : decode Run.ofJson? a = .error f) :
      Course k now answers [(readRequest k, a)] (.error (.client (readError k f)))
  /-- The state of the run ends the poll. -/
  | settled (a : Option Answer) (r : Run) (result : PollResult)
      (hread : decode Run.ofJson? a = .ok r) (hrun : Poll.ofRun r = .finish result) :
      Course k now answers [(readRequest k, a)] result
  /-- The pods were not listed, and not because their list is missing. -/
  | unlisted (a b : Option Answer) (r : Run) (f : Failure) (hread : decode Run.ofJson? a = .ok r)
      (hpods : decode (readList readPod) b = .error f) (hcode : f.code? ≠ some 404) :
      Course k now answers [(readRequest k, a), (podsRequest k, b)]
        (.error (.client (.api f.message)))
  /-- The pods were listed, or their list is missing. -/
  | listed (a b : Option Answer) (r : Run) (current : RunState) (pods : List PodPhase)
      (hread : decode Run.ofJson? a = .ok r) (hstate : r.state = .ok current)
      (hlive : current.isFinal = false) (hpods : podsResult b = .ok pods)
      (hrefusal : ∀ s, refusal? b = some s → s.code = 404) :
      Course k now answers
        ((readRequest k, a) :: (podsRequest k, b) ::
          (settlePoll (Poll.afterList r current now (.ok pods))).exchanges (answers.drop 2))
        ((settlePoll (Poll.afterList r current now (.ok pods))).result (answers.drop 2))

/-- There are no other ways. -/
theorem course_of_poll (k : RunKey) (now : Instant) (answers : List (Option Answer)) :
    Course k now answers ((poll k now).exchanges answers) ((poll k now).result answers) := by
  have htail : answers.tail.tail = answers.drop 2 := by
    rw [← List.drop_one, ← List.drop_one, List.drop_drop]
  rw [poll_eq, getRun, askForRun]
  by_cases hname : isPathName k.name = true
  · rw [if_pos hname]
    simp only [Dialogue.bind, exchanges_ask, result_ask]
    cases hread : decode Run.ofJson? (answers.headD none) with
    | error f =>
      rw [reported_read_of_error hread]
      exact .unread _ f hread
    | ok r =>
      rw [reported_runResult_of_ok hread, Poll.afterRead]
      cases hrun : Poll.ofRun r with
      | finish result => exact .settled _ r result hread hrun
      | next what =>
        obtain ⟨hsame, hstate, hlive⟩ := Monitor.ofRun_eq_next hrun
        simp only [continuePoll, exchanges_ask, result_ask, hsame, htail]
        cases hpods : decode (readList readPod) (answers.tail.headD none) with
        | ok pods =>
          rw [podsResult_of_ok hpods]
          refine .listed _ _ r what.2 pods hread hstate hlive (podsResult_of_ok hpods) ?_
          intro s hs
          rw [refusal?_of_decode hpods] at hs
          cases hs
        | error f =>
          by_cases hcode : f.code? = some 404
          · have hmissing := (code?_eq_iff hpods).1 hcode
            rw [podsResult_of_missing hmissing]
            refine .listed _ _ r what.2 [] hread hstate hlive (podsResult_of_missing hmissing) ?_
            intro s hs
            rw [code?_of_decode hpods, hs] at hcode
            exact Option.some.inj hcode
          · rw [podsResult_of_error hpods hcode]
            exact .unlisted _ _ r f hread hpods hcode
  · rw [if_neg hname]
    exact .unasked

/-! ### What is reported -/

/-- The poll is reported as one that did not find its run. -/
def ReportsMissing (result : PollResult) : Prop :=
  ∃ e : PollError, result = .error e ∧ e.isNotFound = true

/-- The poll is reported as one that came into conflict. -/
def ReportsConflict (result : PollResult) : Prop :=
  ∃ k, result = .error (.client (.conflict k))

section Reports

variable {k : RunKey} {now : Instant} {answers : List (Option Answer)} {es : List Exchange}
  {result : PollResult} {f : Failure} {s : Status}

private theorem reportsMissing_client {e : ClientError} :
    ReportsMissing (.error (.client e)) ↔ e.isNotFound = true := by
  constructor
  · rintro ⟨e', heq, hmissing⟩
    cases heq
    exact hmissing
  · exact fun hmissing => ⟨_, rfl, hmissing⟩

private theorem not_reportsMissing_ok {found : PollAnswer} : ¬ ReportsMissing (.ok found) := by
  rintro ⟨e, heq, -⟩
  cases heq

private theorem not_reportsConflict_ok {found : PollAnswer} : ¬ ReportsConflict (.ok found) := by
  rintro ⟨k, heq⟩
  cases heq

private theorem isNotFound_readError : (readError k f).isNotFound = true ↔ f.code? = some 404 := by
  unfold readError
  split <;> simp_all [ClientError.isNotFound]

private theorem isNotFound_replaceError :
    (replaceError k f).isNotFound = true ↔ f.code? = some 404 := by
  unfold replaceError
  repeat' split
  all_goals simp_all [ClientError.isNotFound]

private theorem reportsConflict_readError :
    ¬ ReportsConflict (.error (.client (readError k f))) := by
  rintro ⟨k', heq⟩
  unfold readError at heq
  split at heq <;> cases heq

private theorem reportsConflict_replaceError :
    ReportsConflict (.error (.client (replaceError k f))) ↔ f.code? = some 409 := by
  unfold replaceError ReportsConflict
  repeat' split
  all_goals simp_all

private theorem replaceError_of_refused (hmissing : s.code ≠ 404) (hconflict : s.code ≠ 409) :
    replaceError k (.refused s) = .api s.text := by
  simp [replaceError, Failure.code?, hmissing, hconflict, Failure.message]

private theorem readError_of_refused (hmissing : s.code ≠ 404) :
    readError k (.refused s) = .api s.text := by
  simp [readError, Failure.code?, hmissing, Failure.message]

namespace WriteCourse

/-- The only requests of a write put the run. -/
theorem put (h : WriteCourse es result) {x : Exchange} (hx : x ∈ es) : x.1.method = .put := by
  cases h with
  | unneeded | unsent => cases hx
  | failed q c k f hput | written q c r found hput =>
    rw [List.mem_singleton] at hx
    rw [hx]
    exact hput

/-- A write reports a missing run if and only if it was refused with code 404. -/
theorem reportsMissing_iff (h : WriteCourse es result) :
    ReportsMissing result ↔ ∃ x ∈ es, x.1.method = .put ∧ RefusedWith x.2 404 := by
  cases h with
  | unneeded => simp [not_reportsMissing_ok]
  | unsent text => simp [reportsMissing_client, ClientError.isNotFound]
  | failed q c k f hput hwrite =>
    simp [reportsMissing_client, isNotFound_replaceError, code?_eq_iff hwrite, hput]
  | written q c r found hput hwrite =>
    simp [not_reportsMissing_ok, not_refusedWith_of_decode hwrite]

/-- A write reports a conflict if and only if it was refused with code 409. -/
theorem reportsConflict_iff (h : WriteCourse es result) :
    ReportsConflict result ↔ ∃ x ∈ es, x.1.method = .put ∧ RefusedWith x.2 409 := by
  cases h with
  | unneeded => simp [not_reportsConflict_ok]
  | unsent text => simp [ReportsConflict]
  | failed q c k f hput hwrite =>
    simp [reportsConflict_replaceError, code?_eq_iff hwrite, hput]
  | written q c r found hput hwrite =>
    simp [not_reportsConflict_ok, not_refusedWith_of_decode hwrite]

/-- Any other refusal of a write is reported with the text of the server. -/
theorem result_of_refused (h : WriteCourse es result) {x : Exchange} (hx : x ∈ es)
    (hs : refusal? x.2 = some s) (hmissing : s.code ≠ 404) (hconflict : s.code ≠ 409) :
    result = .error (.client (.api s.text)) := by
  cases h with
  | unneeded | unsent => cases hx
  | failed q c k f hput hwrite =>
    rw [List.mem_singleton] at hx
    rw [hx] at hs
    rw [decode_of_refusal? hs] at hwrite
    cases hwrite
    rw [replaceError_of_refused hmissing hconflict]
  | written q c r found hput hwrite =>
    rw [List.mem_singleton] at hx
    rw [hx, refusal?_of_decode hwrite] at hs
    cases hs

end WriteCourse

namespace Course

/-- A run that was read and a list of pods are not what a run is missed by. -/
theorem reportsMissing_iff (h : Course k now answers es result) :
    ReportsMissing result ↔
      ∃ x ∈ es, (x.1 = readRequest k ∨ x.1.method = .put) ∧ RefusedWith x.2 404 := by
  cases h with
  | unasked => simp [reportsMissing_client, ClientError.isNotFound]
  | unread a f hread => simp [reportsMissing_client, isNotFound_readError, code?_eq_iff hread]
  | settled a r result hread hrun =>
    have hnot : ¬ ReportsMissing result := by
      rintro ⟨e, rfl, hmissing⟩
      cases e with
      | client cause => exact Poll.ofRun_ne_client r cause hrun
      | invalidState | cancelled => cases hmissing
    simp [hnot, not_refusedWith_of_decode hread]
  | unlisted a b r f hread hpods hcode =>
    simp [reportsMissing_client, ClientError.isNotFound, not_refusedWith_of_decode hread,
      podsRequest_ne_readRequest, podsRequest_method_ne_put]
  | listed a b r current pods hread =>
    have hwrite := writeCourse_of_settlePoll r current now pods (answers.drop 2)
    rw [hwrite.reportsMissing_iff, List.exists_mem_cons_iff, List.exists_mem_cons_iff]
    simp only [not_refusedWith_of_decode hread, podsRequest_ne_readRequest,
      podsRequest_method_ne_put, and_false, or_self, false_and, false_or]
    exact exists_congr fun x => and_congr_right fun hx => by simp [hwrite.put hx]

/-- A poll reports a conflict if and only if its replacement was refused with code 409. -/
theorem reportsConflict_iff (h : Course k now answers es result) :
    ReportsConflict result ↔ ∃ x ∈ es, x.1.method = .put ∧ RefusedWith x.2 409 := by
  have hread := readRequest_method_ne_put k
  have hpods := podsRequest_method_ne_put k
  cases h with
  | unasked => simp [ReportsConflict]
  | unread a f => simp [reportsConflict_readError, hread]
  | settled a r result _ hrun =>
    have hnot : ¬ ReportsConflict result := by
      rintro ⟨key, rfl⟩
      exact Poll.ofRun_ne_client r _ hrun
    simp [hnot, hread]
  | unlisted a b r f => simp [ReportsConflict, hread, hpods]
  | listed a b r current pods =>
    have hwrite := writeCourse_of_settlePoll r current now pods (answers.drop 2)
    rw [hwrite.reportsConflict_iff, List.exists_mem_cons_iff, List.exists_mem_cons_iff]
    simp only [hread, hpods, false_and, false_or]

/-- Any other error of the API ends the poll, and is what it reports. -/
theorem result_of_refused (h : Course k now answers es result) {x : Exchange} (hx : x ∈ es)
    (hs : refusal? x.2 = some s) (hmissing : s.code ≠ 404)
    (hconflict : x.1.method = .put → s.code ≠ 409) : result = .error (.client (.api s.text)) := by
  cases h with
  | unasked => cases hx
  | unread a f hread =>
    rw [List.mem_singleton] at hx
    rw [hx] at hs
    rw [decode_of_refusal? hs] at hread
    cases hread
    rw [readError_of_refused hmissing]
  | settled a r result hread hrun =>
    rw [List.mem_singleton] at hx
    rw [hx, refusal?_of_decode hread] at hs
    cases hs
  | unlisted a b r f hread hpods hcode =>
    rcases List.mem_cons.1 hx with rfl | hx
    · rw [refusal?_of_decode hread] at hs
      cases hs
    · rw [List.mem_singleton] at hx
      rw [hx] at hs
      rw [decode_of_refusal? hs] at hpods
      cases hpods
      rfl
  | listed a b r current pods hread _ _ _ hrefusal =>
    have hwrite := writeCourse_of_settlePoll r current now pods (answers.drop 2)
    rcases List.mem_cons.1 hx with rfl | hx
    · rw [refusal?_of_decode hread] at hs
      cases hs
    · rcases List.mem_cons.1 hx with rfl | hx
      · exact absurd (hrefusal s hs) hmissing
      · exact hwrite.result_of_refused hx hs hmissing (hconflict (hwrite.put hx))

/-- When the list of pods is missing, the poll goes on as with no pods. -/
theorem listed_of_missing (h : Course k now answers es result) {b : Option Answer}
    (hb : (podsRequest k, b) ∈ es) (hmissing : RefusedWith b 404) :
    ∃ a r current, decode Run.ofJson? a = .ok r ∧ r.state = .ok current ∧
      current.isFinal = false ∧
      es = (readRequest k, a) :: (podsRequest k, b) ::
        (settlePoll (Poll.afterList r current now (.ok []))).exchanges (answers.drop 2) ∧
      result = (settlePoll (Poll.afterList r current now (.ok []))).result (answers.drop 2) := by
  have hfirst (a : Option Answer) : (podsRequest k, b) ≠ (readRequest k, a) := fun heq =>
    podsRequest_ne_readRequest k k (congrArg Prod.fst heq)
  cases h with
  | unasked => cases hb
  | unread a | settled a => exact absurd (List.mem_singleton.1 hb) (hfirst a)
  | unlisted a b' r f hread hpods hcode =>
    rcases List.mem_cons.1 hb with heq | hb
    · exact absurd heq (hfirst a)
    · cases List.mem_singleton.1 hb
      exact absurd ((code?_eq_iff hpods).2 hmissing) hcode
  | listed a b' r current pods hread hstate hlive hpods =>
    have hwrite := writeCourse_of_settlePoll r current now pods (answers.drop 2)
    rcases List.mem_cons.1 hb with heq | hb
    · exact absurd heq (hfirst a)
    · rcases List.mem_cons.1 hb with heq | hb
      · cases heq
        rw [podsResult_of_missing hmissing] at hpods
        cases hpods
        exact ⟨a, r, current, hread, hstate, hlive, rfl, rfl⟩
      · exact absurd (hwrite.put hb) (podsRequest_method_ne_put k)

end Course

/-- A monitor takes its run for gone after a poll that is reported so, and after no other. -/
theorem exit?_afterPoll_eq_vanished_iff (settings : Settings) (instant : Nat) (m : Monitor) :
    (m.afterPoll settings instant result).exit? = some .vanished ↔ ReportsMissing result := by
  cases result with
  | ok found =>
    cases found <;>
      simp [not_reportsMissing_ok, Monitor.afterPoll, Monitor.sleep, Monitor.exitWith, Monitor.exit?]
  | error e =>
    cases e with
    | client cause =>
      rw [reportsMissing_client, Monitor.afterPoll]
      by_cases hmissing : cause.isNotFound = true
      · simp [hmissing, Monitor.exitWith, Monitor.exit?]
      · rw [if_neg hmissing]
        split <;> simp [hmissing, Monitor.exitWith, Monitor.exit?, Monitor.sleep]
    | invalidState | cancelled =>
      simp [ReportsMissing, PollError.isNotFound, Monitor.afterPoll, Monitor.exitWith,
        Monitor.exit?]

end Reports

/-- What a poll over the API server with these answers reports. -/
structure FaithfulPoll (k : RunKey) (now : Instant) (answers : List (Option Answer)) : Prop where
  /-- The run is reported as missing if and only if the request that reads it or the one that
  replaces it was refused with code 404. -/
  missing_iff : ReportsMissing ((poll k now).result answers) ↔
    ∃ x ∈ (poll k now).exchanges answers, (x.1 = readRequest k ∨ x.1.method = .put) ∧
      RefusedWith x.2 404
  /-- Nothing else makes a monitor give its run up for gone. -/
  vanishes_iff : ∀ (settings : Settings) (instant : Nat) (m : Monitor),
    (m.afterPoll settings instant ((poll k now).result answers)).exit? = some .vanished ↔
      ∃ x ∈ (poll k now).exchanges answers, (x.1 = readRequest k ∨ x.1.method = .put) ∧
        RefusedWith x.2 404
  /-- When the listing of pods is refused with code 404, the poll goes on as with no pods. -/
  no_pods : ∀ b, (podsRequest k, b) ∈ (poll k now).exchanges answers → RefusedWith b 404 →
    ∃ a r current, decode Run.ofJson? a = .ok r ∧ r.state = .ok current ∧
      current.isFinal = false ∧
      (poll k now).exchanges answers = (readRequest k, a) :: (podsRequest k, b) ::
        (settlePoll (Poll.afterList r current now (.ok []))).exchanges (answers.drop 2) ∧
      (poll k now).result answers =
        (settlePoll (Poll.afterList r current now (.ok []))).result (answers.drop 2)
  /-- A conflict is reported if and only if the request that replaces the run was refused with
  code 409. -/
  conflict_iff : ReportsConflict ((poll k now).result answers) ↔
    ∃ x ∈ (poll k now).exchanges answers, x.1.method = .put ∧ RefusedWith x.2 409
  /-- A request that was refused in any other way makes the poll fail with the error that the server
  reported, and the monitor counts it as a failure. -/
  fails : ∀ x ∈ (poll k now).exchanges answers, ∀ s, refusal? x.2 = some s → s.code ≠ 404 →
    (x.1.method = .put → s.code ≠ 409) →
    (poll k now).result answers = .error (.client (.api s.text)) ∧
      ∀ (settings : Settings) (instant : Nat) (m : Monitor),
        m.afterPoll settings instant ((poll k now).result answers) =
          if settings.retryLimit ≤ m.failures + 1 then
            { m.exitWith .retriesExhausted with failures := m.failures + 1 }
          else m.sleep settings instant (m.failures + 1)

/-- **Only a missing run makes a monitor give it up for gone.** Whatever the server answers to the
requests of a poll, the poll is reported as not having found its run exactly if the request that
reads the run or the one that replaces it was refused with code 404. Refusing the list of pods with
that code leaves the run without pods, code 409 is a conflict exactly for the replacement, and every
other error of the API counts towards the retry limit. A run without a namespace cannot be replaced,
with credentials or without, and nothing is asked for it. -/
theorem polls_report_what_was_answered :
    (∀ k now answers, FaithfulPoll k now answers) ∧
    ∀ (credentials : Bool) (r : Run) (answers : List (Option Answer)), r.metadata.ns = none →
      ((authorized credentials (replaceRun r)).against answers).1 = [] ∧
        reported ((authorized credentials (replaceRun r)).result answers) =
          .error (.api ("Run " ++ r.displayName ++ " has no namespace")) := by
  constructor
  · intro k now answers
    have hcourse := course_of_poll k now answers
    constructor
    · exact hcourse.reportsMissing_iff
    · intro settings instant m
      rw [exit?_afterPoll_eq_vanished_iff, hcourse.reportsMissing_iff]
    · intro b hb hmissing
      exact hcourse.listed_of_missing hb hmissing
    · exact hcourse.reportsConflict_iff
    · intro x hx s hs hmissing hconflict
      have hresult := hcourse.result_of_refused hx hs hmissing hconflict
      refine ⟨hresult, fun settings instant m => ?_⟩
      rw [hresult]
      exact Monitor.afterPoll_of_failure rfl
  · intro credentials r answers hns
    rw [authorized_replaceRun credentials hns]
    exact ⟨rfl, rfl⟩

/-- The answer that holds a run on its way whose cancellation was asked for. -/
def cancelledRunAnswer : Answer where
  status := 200
  body := "\x7b\"metadata\":\x7b\"name\":\"a\",\"namespace\":\"ns\",\"annotations\":"
    ++ "\x7b\"aipg.intel.com/cancel-requested\":\"true\"\x7d\x7d,"
    ++ "\"spec\":\x7b\"state\":\"RUNNING\"\x7d\x7d"

/-- The run is read, the list of its pods is missing, and the replacement fails: with a code 404
that only the body of the answer gives, and with a conflict. -/
theorem polls_report_of_failedReplacement :
    ReportsMissing ((poll ⟨"ns", "a"⟩ ⟨0, 0⟩).result [some cancelledRunAnswer, some ⟨404, ""⟩,
        some ⟨500, "\x7b\"status\":\"Failure\",\"code\":404\x7d"⟩]) ∧
      ReportsConflict ((poll ⟨"ns", "a"⟩ ⟨0, 0⟩).result [some cancelledRunAnswer, some ⟨404, ""⟩,
        some ⟨409, ""⟩]) := by
  obtain ⟨hpolls, -⟩ := polls_report_what_was_answered
  have hput (answers : List (Option Answer)) (code : Nat)
      (h : ((poll ⟨"ns", "a"⟩ ⟨0, 0⟩).exchanges answers).any (fun x =>
        x.1.method = .put ∧ (refusal? x.2).map Status.code = some code) = true) :
      ∃ x ∈ (poll ⟨"ns", "a"⟩ ⟨0, 0⟩).exchanges answers, x.1.method = .put ∧
        RefusedWith x.2 code := by
    obtain ⟨x, hx, hfound⟩ := List.any_eq_true.1 h
    rw [decide_eq_true_eq, Option.map_eq_some_iff] at hfound
    exact ⟨x, hx, hfound⟩
  constructor
  · rw [(hpolls _ _ _).missing_iff]
    obtain ⟨x, hx, hmethod, hcode⟩ := hput [some cancelledRunAnswer, some ⟨404, ""⟩,
      some ⟨500, "\x7b\"status\":\"Failure\",\"code\":404\x7d"⟩] 404 (by decide +kernel)
    exact ⟨x, hx, Or.inr hmethod, hcode⟩
  · rw [(hpolls _ _ _).conflict_iff]
    exact hput _ 409 (by decide +kernel)

end RunOperator.Api
