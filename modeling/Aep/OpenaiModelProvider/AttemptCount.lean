import Aep.OpenaiModelProvider.Attempts
import Aep.Library.Result
import Mathlib.Data.List.Induction

namespace Aep.OpenaiModelProvider

open Program Result

/-- The number of attempts that the charge of the budget reads, one where the field is missing or no count. -/
def attemptCount (metadata : Record) : Int :=
  match (metadata.get? "attemptCount").getD (.int 1) with
  | .int value => if 0 ≤ value then value else 1
  | _ => 1

section Counts

theorem attemptCount_of_get? {metadata : Record} {count : Nat} (found : metadata.get? "attemptCount" = some (.int count)) :
    attemptCount metadata = count := by
  simp [attemptCount, found]

theorem addHeaders_get? {texts : TextFunctions} {evidence result : Record} {headers : List (String × String)} {key : String}
    (other : key ∉ headerFields.map Prod.snd) (added : addHeaders texts evidence headers = .ok result) :
    result.get? key = evidence.get? key := by
  induction headers generalizing evidence with
  | nil =>
    cases added
    rfl
  | cons header rest ih =>
    obtain ⟨name, raw⟩ := header
    unfold addHeaders at added
    cases field : headerFields.get? (texts.casefold name) with
    | none =>
      simp only [field] at added
      exact ih added
    | some field' =>
      simp only [field, bind_eq_ok] at added
      obtain ⟨parsed, -, added⟩ := added
      cases parsed with
      | none => exact ih added
      | some value =>
        rw [ih added]
        apply Dict.get?_set_ne
        rintro rfl
        exact other (List.mem_map.mpr ⟨_, Dict.get?_eq_some_mem field, rfl⟩)

theorem get?_carry {key wanted : String} (metadata evidence : Record) (other : key ≠ wanted) :
    Dict.get? (carry key metadata evidence) wanted = evidence.get? wanted := by
  unfold carry
  split
  · exact Dict.get?_set_ne _ _ other
  · rfl

theorem safeRateLimitEvidence_get? {texts : TextFunctions} {response : Option ProviderHttpResponse} {evidence : Record}
    (found : safeRateLimitEvidence texts response = .ok evidence) : evidence.get? "attemptCount" = none := by
  cases response with
  | none =>
    cases found
    rfl
  | some response =>
    simp only [safeRateLimitEvidence, bind_eq_ok] at found
    obtain ⟨added, headers, failure, -, found⟩ := found
    have base : added.get? "attemptCount" = none := by
      rw [addHeaders_get? (by decide) headers]
      unfold retryAfterEvidence
      split
      · rw [Dict.get?_set_ne _ _ (by decide)]
        rfl
      · rfl
    cases failure with
    | none =>
      cases found
      exact base
    | some error =>
      cases found
      rw [get?_carry _ _ (by decide), get?_carry _ _ (by decide)]
      exact base

variable (invocation : Invocation) (attempts : Attempts)

theorem coordinatorUnavailable_count :
    attemptCount (coordinatorUnavailable invocation attempts).providerMetadata = attempts.length :=
  attemptCount_of_get? rfl

theorem deferredMetadata_count {evidence : Record} (source eligible : String)
    (plain : evidence.get? "attemptCount" = none) :
    attemptCount (deferredMetadata invocation attempts evidence source eligible) = attempts.length := by
  apply attemptCount_of_get?
  unfold deferredMetadata
  rw [Dict.get?_update, Dict.get?_update, plain]
  rfl

theorem successMetadata_count (attempt : Nat) (success : Success) {evidence : Record}
    (plain : evidence.get? "attemptCount" = none) :
    attemptCount (successMetadata invocation attempt attempts success evidence) = attempt := by
  apply attemptCount_of_get?
  unfold successMetadata
  rw [Dict.get?_set_ne _ _ (by decide), Dict.get?_update, plain]
  rfl

theorem failedMetadata_count (carried : Record) (id : Option String) (attempt : Nat)
    {httpEvidence evidence decision : Record} (http : httpEvidence.get? "attemptCount" = none)
    (plain : evidence.get? "attemptCount" = none) (final : decision.get? "attemptCount" = none) :
    attemptCount (failedMetadata invocation carried id attempt attempts httpEvidence evidence decision) = attempt := by
  apply attemptCount_of_get?
  unfold failedMetadata
  rw [Dict.get?_update, Dict.get?_update, Dict.get?_update, Dict.get?_update, http, plain, final]
  rfl

end Counts

structure Seen where
  sends : Nat
  clock : ℚ
  outcome : Option Transported
  jitter : Option ℚ
  delayMs : Int

def Seen.start : Seen := ⟨0, 0, none, none, 0⟩

def Seen.observe (seen : Seen) : (call : Call) → call.Answer → Seen
  | .monotonic _, now => { seen with clock := now }
  | .jitter, jitter => { seen with jitter := jitter }
  | .admission .., some decision => { seen with delayMs := decision.delayMs }
  | .revalidate .., some decision => { seen with delayMs := decision.delayMs }
  | .request _, outcome => { seen with sends := seen.sends + 1, outcome := some outcome }
  | _, _ => seen

def Seen.response (seen : Seen) : Option ProviderHttpResponse := seen.outcome.bind responseOf

section Condition

variable (texts : TextFunctions) (invocation : Invocation)

/-- The headers and the body of a response say what they say without an exception of their own. -/
def Evident (response : ProviderHttpResponse) : Prop :=
  ∃ evidence, safeRateLimitEvidence texts (some response) = .ok evidence

def Classifiable (response : ProviderHttpResponse) : Prop :=
  ∃ classified, httpFailure texts response = .ok classified ∧ (classified.isSome = true → Evident texts response)

def Readable (response : ProviderHttpResponse) : Prop :=
  match readSuccess texts invocation.model response with
  | .ok _ => True
  | .error (.model _) => Evident texts response
  | .error (.escaped _) => False

def Seen.retryDelayMs (seen : Seen) : Int :=
  let evidence := (safeRateLimitEvidence texts seen.response).toOption.getD []
  (retryDelay evidence (backoffMs invocation.backoffMs seen.sends seen.jitter)).delayMs

def Tolerable (seen : Seen) : (call : Call) → call.Answer → Prop
  | .monotonic .sending, now =>
    ∃ remaining, remainingMs invocation.deadline now = some remaining ∧ (remaining < 1 → seen.sends = 1)
  | .monotonic .latency, now => (Float64.roundProduct (Float64.sub now invocation.started) 1000).isSome = true
  | .monotonic .observed, _ => ∀ response, seen.response = some response → Readable texts invocation response
  | .request _, outcome => ∀ response, responseOf outcome = some response → Classifiable texts response
  | .wallClock .coordinator, now => (futureTimestamp now seen.delayMs).isSome = true
  | .wallClock .retry, now => (futureTimestamp now (seen.retryDelayMs texts invocation)).isSome = true
  | .observeSuccess .., observed => observed.isSome = true
  | _, _ => True

def Tolerated : Seen → List Environment.Event → Prop
  | _, [] => True
  | seen, event :: rest =>
    Tolerable texts invocation seen event.op event.answer ∧ Tolerated (seen.observe event.op event.answer) rest

def seenAfter : Seen → List Environment.Event → Seen
  | seen, [] => seen
  | seen, event :: rest => seenAfter (seen.observe event.op event.answer) rest

end Condition

def Charges (sends : Nat) : Raised → Prop
  | .model error => attemptCount error.providerMetadata = sends
  | .escaped _ => False

/-- A result charges what was sent, and is a response or an error of the model. -/
def Fits (sends : Nat) : Except Raised ModelResponse → Prop
  | .ok response => attemptCount response.providerMetadata = sends
  | .error raised => Charges sends raised

section Specification

variable {texts : TextFunctions} {invocation : Invocation}

structure Ghost where
  seen : Seen
  fine : Prop

variable (texts invocation) in
def rules : Rules Environment Ghost where
  may ghost call := match call with
    | .request _ => ghost.seen.sends < invocation.maxAttempts ∧ ghost.seen.clock < invocation.deadline
    | _ => True
  next ghost call answer after :=
    after = ⟨ghost.seen.observe call answer, ghost.fine ∧ Tolerable texts invocation ghost.seen call answer⟩

/-- A part of an attempt goes on as it says, and what it raises charges correctly just after tolerable answers. -/
def Goes {α : Type} (good : Ghost → α → Prop) (ghost : Ghost) : Except Raised α → Prop
  | .ok value => good ghost value
  | .error raised => Charges ghost.seen.sends raised ↔ ghost.fine

theorem sat_ask {α : Type} {post : Ghost → Except Raised α → Prop} {ghost : Ghost} {call : Call}
    {next : call.Answer → Adapter α} (allowed : (rules texts invocation).may ghost call)
    (rest : ∀ answer, Sat (rules texts invocation) post (next answer)
      ⟨ghost.seen.observe call answer, ghost.fine ∧ Tolerable texts invocation ghost.seen call answer⟩) :
    Sat (rules texts invocation) post (ask call >>= next) ghost := by
  refine ⟨allowed, fun answer after moved => ?_⟩
  rw [show after = _ from moved]
  exact rest answer

theorem sat_ask_free {α : Type} {post : Ghost → Except Raised α → Prop} {seen : Seen} {call : Call}
    {next : call.Answer → Adapter α} (allowed : (rules texts invocation).may ⟨seen, True⟩ call)
    (free : ∀ answer, Tolerable texts invocation seen call answer)
    (rest : ∀ answer, Sat (rules texts invocation) post (next answer) ⟨seen.observe call answer, True⟩) :
    Sat (rules texts invocation) post (ask call >>= next) ⟨seen, True⟩ := by
  refine sat_ask allowed fun answer => ?_
  rw [show (True ∧ Tolerable texts invocation seen call answer) = True from eq_true ⟨trivial, free answer⟩]
  exact rest answer

theorem goes_bind {α β : Type} {good : Ghost → α → Prop} {better : Ghost → β → Prop} {first : Adapter α}
    {next : α → Adapter β} {ghost : Ghost} (sat : Sat (rules texts invocation) (Goes good) first ghost)
    (rest : ∀ value ghost, good ghost value → Sat (rules texts invocation) (Goes better) (next value) ghost) :
    Sat (rules texts invocation) (Goes better) (first >>= next) ghost := by
  refine sat_bind.mpr (sat.mono fun ghost result went => ?_)
  cases result with
  | ok value => exact rest value ghost went
  | error raised => exact went

theorem goes_raise {α : Type} {good : Ghost → α → Prop} {seen : Seen} {fine : Prop} {error : ModelInvocationError}
    (holds : fine) (count : attemptCount error.providerMetadata = seen.sends) :
    Sat (rules texts invocation) (Goes good) (raiseModel error) ⟨seen, fine⟩ :=
  ⟨fun _ => holds, fun _ => count⟩

theorem goes_escape {α : Type} {good : Ghost → α → Prop} {seen : Seen} {fine : Prop} {exception : Exception}
    (fails : ¬ fine) : Sat (rules texts invocation) (Goes good) (escape exception) ⟨seen, fine⟩ :=
  ⟨False.elim, fails⟩

theorem eligibleAt_goes {deferral : Deferral} {delayMs : Int} {seen : Seen}
    (same : match deferral with
      | .coordinator => delayMs = seen.delayMs
      | .retry => delayMs = seen.retryDelayMs texts invocation) :
    Sat (rules texts invocation) (Goes fun after _ => after = ⟨seen, True⟩) (eligibleAt deferral delayMs)
      ⟨seen, True⟩ := by
  refine sat_ask trivial fun now => ?_
  have tolerable : Tolerable texts invocation seen (.wallClock deferral) now ↔
      (futureTimestamp now delayMs).isSome = true := by
    cases deferral <;> simp only at same <;> rw [same] <;> rfl
  cases found : futureTimestamp now delayMs with
  | none => exact goes_escape (by simp [tolerable, found])
  | some eligible =>
    change (_ : Ghost) = _
    rw [Ghost.mk.injEq]
    exact ⟨rfl, eq_true ⟨trivial, by simp [tolerable, found]⟩⟩

theorem deferAdmission_goes {α : Type} {good : Ghost → α → Prop} {attempts : Attempts} {evidence : Record}
    {source : String} {delayMs : Int} {seen : Seen} (same : delayMs = seen.delayMs)
    (plain : evidence.get? "attemptCount" = none) (count : seen.sends = attempts.length) :
    Sat (rules texts invocation) (Goes good) (deferAdmission invocation attempts evidence source delayMs)
      ⟨seen, True⟩ := by
  refine goes_bind (eligibleAt_goes same) ?_
  rintro eligible _ rfl
  refine goes_raise trivial ?_
  rw [count]
  exact deferredMetadata_count invocation attempts source eligible plain

theorem sleepFor_goes {delayMs : Int} {seen : Seen} :
    Sat (rules texts invocation) (Goes fun after _ => after = ⟨seen, True⟩) (sleepFor delayMs) ⟨seen, True⟩ := by
  unfold sleepFor
  by_cases none : delayMs = 0
  · rw [if_pos none]
    rfl
  · rw [if_neg none]
    exact @sat_ask_free _ _ _ _ _ _ .ret trivial (fun _ => trivial) fun _ => rfl

theorem recheck_goes {attempts : Attempts} {admission : AdmissionDecision} {fuel : Nat} {delayed : Int} {seen : Seen}
    (count : seen.sends = attempts.length) :
    Sat (rules texts invocation) (Goes fun after _ => ∃ seen', after = ⟨seen', True⟩ ∧ seen'.sends = attempts.length)
      (recheck invocation attempts admission fuel delayed) ⟨seen, True⟩ := by
  induction fuel generalizing delayed seen with
  | zero => trivial
  | succ fuel ih =>
    refine sat_ask_free trivial (fun _ => trivial) fun now => ?_
    refine sat_ask_free trivial (fun _ => trivial) fun decision => ?_
    cases decision with
    | none =>
      refine goes_raise trivial ?_
      rw [coordinatorUnavailable_count]
      exact congrArg Nat.cast count.symm
    | some decision =>
      simp only
      by_cases admitted : decision.admitted = true
      · rw [if_neg (not_not.mpr admitted)]
        by_cases none : decision.delayMs = 0
        · rw [if_pos none]
          exact ⟨_, rfl, count⟩
        · rw [if_neg none]
          exact sat_ask_free trivial (fun _ => trivial) fun _ => ih count
      · rw [if_pos admitted]
        exact deferAdmission_goes rfl rfl count

theorem admit_goes {attempts : Attempts} {fuel : Nat} {seen : Seen} (count : seen.sends = attempts.length) :
    Sat (rules texts invocation) (Goes fun after admitted => ∃ seen', after = ⟨seen', True⟩ ∧
        seen'.sends = attempts.length ∧ admitted.2.get? "attemptCount" = none)
      (admitAttempt invocation fuel attempts) ⟨seen, True⟩ := by
  refine sat_ask_free trivial (fun _ => trivial) fun now => ?_
  refine sat_ask_free trivial (fun _ => trivial) fun decision => ?_
  cases decision with
  | none =>
    refine goes_raise trivial ?_
    rw [coordinatorUnavailable_count]
    exact congrArg Nat.cast count.symm
  | some admission =>
    simp only
    by_cases admitted : admission.admitted = true
    · rw [if_neg (not_not.mpr admitted)]
      refine goes_bind sleepFor_goes ?_
      rintro _ _ rfl
      refine goes_bind (recheck_goes count) ?_
      rintro delayed _ ⟨seen', rfl, same⟩
      exact ⟨seen', rfl, same, rfl⟩
    · rw [if_pos admitted]
      exact deferAdmission_goes rfl rfl count

theorem send_goes {seen : Seen} (left : seen.sends < invocation.maxAttempts) :
    Sat (rules texts invocation) (Goes fun after outcome => after.seen.sends = seen.sends + 1 ∧
        after.seen.outcome = some outcome ∧
        (after.fine ↔ ∀ response, responseOf outcome = some response → Classifiable texts response))
      (send invocation) ⟨seen, True⟩ := by
  refine sat_ask trivial fun now => ?_
  have tolerable : Tolerable texts invocation seen (.monotonic .sending) now ↔
      ∃ remaining, remainingMs invocation.deadline now = some remaining ∧ (remaining < 1 → seen.sends = 1) := Iff.rfl
  cases found : remainingMs invocation.deadline now with
  | none => exact goes_escape (by simp [tolerable, found])
  | some remaining =>
    simp only
    by_cases spent : remaining < 1
    · rw [if_pos spent]
      have one : Charges seen.sends (.model timedOut) ↔ seen.sends = 1 := by
        change (1 : Int) = seen.sends ↔ _
        omega
      exact one.trans (by simp [tolerable, found, spent])
    · rw [if_neg spent]
      refine ⟨⟨left, before_deadline found spent⟩, fun outcome after moved => ?_⟩
      rw [show after = _ from moved]
      refine ⟨rfl, rfl, ?_⟩
      have fine : Tolerable texts invocation seen (.monotonic .sending) now :=
        tolerable.mpr ⟨remaining, found, fun less => absurd less spent⟩
      simp only [true_and, fine]
      rfl

theorem successfulResponse_goes {attempt : Nat} {attempts : Attempts} {admission : AdmissionDecision} {evidence : Record}
    {response : ProviderHttpResponse} {latencyMs : Int} {observedAt : ℚ} {ghost : Ghost}
    (plain : evidence.get? "attemptCount" = none) (fine : ghost.fine ↔ Readable texts invocation response) :
    Sat (rules texts invocation) (fun after result => after.seen.sends = ghost.seen.sends ∧
        after.seen.outcome = ghost.seen.outcome ∧ match result with
          | .ok answer => after.fine ∧ attemptCount answer.providerMetadata = attempt
          | .error (.model _) => after.fine ↔ Evident texts response
          | .error (.escaped _) => ¬ after.fine)
      (successfulResponse texts invocation attempt attempts admission evidence response latencyMs observedAt) ghost := by
  unfold successfulResponse
  rw [sat_bind, sat_liftExcept]
  unfold Readable at fine
  cases read : readSuccess texts invocation.model response with
  | ok success =>
    refine sat_ask trivial fun observed => ?_
    rw [read] at fine
    cases observed with
    | none => exact ⟨rfl, rfl, fun ⟨_, tolerable⟩ => by cases tolerable⟩
    | some done =>
      exact ⟨rfl, rfl, ⟨fine.mpr trivial, rfl⟩, successMetadata_count invocation attempts attempt success plain⟩
  | error raised =>
    rw [read] at fine
    cases raised with
    | model error => exact ⟨rfl, rfl, fine⟩
    | escaped exception => exact ⟨rfl, rfl, fine.mp⟩

variable (texts) in
def Classified (attempt : Nat) (outcome : Transported) (after : Ghost) (result : Except ModelInvocationError ModelResponse) :
    Prop :=
  after.seen.sends = attempt ∧ after.seen.outcome = some outcome ∧ match result with
    | .ok response => after.fine ∧ attemptCount response.providerMetadata = attempt
    | .error _ => after.fine ↔ ∀ response, responseOf outcome = some response → Evident texts response

theorem answer_goes {attempt : Nat} {attempts : Attempts} {admission : AdmissionDecision} {evidence : Record}
    {response : ProviderHttpResponse} {seen : Seen} (plain : evidence.get? "attemptCount" = none)
    (sent : seen.sends = attempt) (outcome : seen.outcome = some (.response response)) :
    Sat (rules texts invocation) (Goes (Classified texts attempt (.response response)))
      (answer texts invocation attempt attempts admission evidence response) ⟨seen, True⟩ := by
  refine sat_ask trivial fun now => ?_
  have tolerable : Tolerable texts invocation seen (.monotonic .latency) now ↔
      (Float64.roundProduct (Float64.sub now invocation.started) 1000).isSome = true := Iff.rfl
  cases found : Float64.roundProduct (Float64.sub now invocation.started) 1000 with
  | none => exact goes_escape (by simp [tolerable, found])
  | some latencyMs =>
    refine sat_ask trivial fun observedAt => ?_
    have readable : (True ∧ Tolerable texts invocation seen (.monotonic .latency) now) ∧
        Tolerable texts invocation (seen.observe (.monotonic .latency) now) (.monotonic .observed) observedAt ↔
        Readable texts invocation response := by
      have last : Tolerable texts invocation (seen.observe (.monotonic .latency) now) (.monotonic .observed) observedAt ↔
          ∀ given, seen.outcome.bind responseOf = some given → Readable texts invocation given := Iff.rfl
      rw [last, tolerable, outcome, found]
      simp [responseOf]
    refine sat_bind.mpr (sat_attempt.mpr ((successfulResponse_goes plain readable).mono ?_))
    rintro after result ⟨same, kept, rest⟩
    cases result with
    | ok response => exact ⟨same.trans sent, kept.trans outcome, rest⟩
    | error raised =>
      cases raised with
      | model error => exact ⟨same.trans sent, kept.trans outcome, rest.trans (by simp [responseOf])⟩
      | escaped exception => exact ⟨False.elim, rest⟩

theorem classify_goes {attempt : Nat} {attempts : Attempts} {admission : AdmissionDecision} {evidence : Record}
    {outcome : Transported} {ghost : Ghost} (plain : evidence.get? "attemptCount" = none)
    (sent : ghost.seen.sends = attempt) (seen : ghost.seen.outcome = some outcome)
    (fine : ghost.fine ↔ ∀ response, responseOf outcome = some response → Classifiable texts response) :
    Sat (rules texts invocation) (Goes (Classified texts attempt outcome))
      (classify texts invocation attempt attempts admission evidence outcome) ghost := by
  cases outcome with
  | timeout => exact ⟨sent, seen, fine.trans (by simp [responseOf])⟩
  | unavailable => exact ⟨sent, seen, fine.trans (by simp [responseOf])⟩
  | response response =>
    have classifiable : ghost.fine ↔ Classifiable texts response := fine.trans (by simp [responseOf])
    unfold Classifiable at classifiable
    cases classified : httpFailure texts response with
    | error exception =>
      simp only [classify, classified]
      exact goes_escape (by simp [classifiable, classified])
    | ok error =>
      rw [classified] at classifiable
      simp only [classify, classified]
      cases error with
      | some error => exact ⟨sent, seen, classifiable.trans (by simp [responseOf])⟩
      | none =>
        obtain ⟨seen', fine'⟩ := ghost
        have holds : fine' := classifiable.mpr ⟨none, rfl, fun some => by cases some⟩
        rw [eq_true holds]
        exact answer_goes plain sent seen

theorem retryLater_goes {attempts : Attempts} {evidence httpEvidence attemptEvidence : Record} {id : Option String}
    {error : ModelInvocationError} {seen : Seen} (plain : evidence.get? "attemptCount" = none)
    (http : safeRateLimitEvidence texts seen.response = .ok httpEvidence) (sent : seen.sends = attempts.length + 1)
    (bounded : seen.sends ≤ invocation.maxAttempts) :
    Sat (rules texts invocation) (Goes fun after known => ∃ seen', after = ⟨seen', True⟩ ∧
        seen'.sends = known.length ∧ known.length = attempts.length + 1 ∧ known.length < invocation.maxAttempts)
      (retryLater invocation seen.sends attempts evidence httpEvidence attemptEvidence id error) ⟨seen, True⟩ := by
  refine sat_ask_free trivial (fun _ => trivial) fun jitter => ?_
  refine goes_bind (eligibleAt_goes ?_) ?_
  · change _ = (retryDelay ((safeRateLimitEvidence texts seen.response).toOption.getD []) _).delayMs
    rw [http]
    rfl
  rintro eligible _ rfl
  refine sat_ask_free trivial (fun _ => trivial) fun observedAt => ?_
  refine sat_ask_free trivial (fun _ => trivial) fun observed => ?_
  have evident := safeRateLimitEvidence_get? http
  cases observed with
  | none =>
    refine goes_raise trivial ?_
    rw [coordinatorUnavailable_count]
    simp only [List.length_append, List.length_cons, List.length_nil]
    exact congrArg Nat.cast sent.symm
  | some done =>
    simp only
    by_cases last : seen.sends = invocation.maxAttempts
    · rw [if_pos last]
      exact goes_raise trivial (failedMetadata_count _ _ _ _ _ evident plain rfl)
    · rw [if_neg last]
      split
      · exact goes_raise trivial (failedMetadata_count _ _ _ _ _ evident plain rfl)
      · refine goes_bind sleepFor_goes ?_
        rintro _ _ rfl
        refine ⟨_, rfl, ?_, ?_, ?_⟩ <;> simp only [List.length_append, List.length_cons, List.length_nil]
        · exact sent
        · omega

theorem failed_goes {attempts : Attempts} {evidence : Record} {outcome : Transported} {ghost : Ghost}
    (error : ModelInvocationError) (plain : evidence.get? "attemptCount" = none) (sent : ghost.seen.sends = attempts.length + 1)
    (seen : ghost.seen.outcome = some outcome) (bounded : ghost.seen.sends ≤ invocation.maxAttempts)
    (fine : ghost.fine ↔ ∀ response, responseOf outcome = some response → Evident texts response) :
    Sat (rules texts invocation) (Goes fun after known => ∃ seen', after = ⟨seen', True⟩ ∧
        seen'.sends = known.length ∧ known.length = attempts.length + 1 ∧ known.length < invocation.maxAttempts)
      (failed texts invocation ghost.seen.sends attempts evidence outcome error) ghost := by
  obtain ⟨seen', fine'⟩ := ghost
  have same : seen'.response = responseOf outcome := by
    unfold Seen.response
    rw [seen]
    rfl
  cases http : safeRateLimitEvidence texts (responseOf outcome) with
  | error exception =>
    simp only [failed, http]
    refine goes_escape fun holds => ?_
    cases response : responseOf outcome with
    | none =>
      rw [response] at http
      cases http
    | some given =>
      obtain ⟨evidence', found⟩ := fine.mp holds given response
      rw [response, found] at http
      cases http
  | ok httpEvidence =>
    have holds : fine' := fine.mpr fun response given => ⟨httpEvidence, given ▸ http⟩
    rw [eq_true holds]
    simp only [failed, http]
    by_cases again : error.recoverable = true
    · rw [if_neg (not_not.mpr again)]
      exact retryLater_goes plain (same ▸ http) sent bounded
    · rw [if_pos again]
      exact goes_raise trivial (failedMetadata_count _ _ _ _ _ (safeRateLimitEvidence_get? http) plain rfl)

theorem runAttempt_goes {attempts : Attempts} {fuel : Nat} {seen : Seen} (count : seen.sends = attempts.length)
    (left : attempts.length < invocation.maxAttempts) :
    Sat (rules texts invocation) (Goes fun after result => match result with
        | .inl response => after.fine ∧ attemptCount response.providerMetadata = after.seen.sends
        | .inr known => ∃ seen', after = ⟨seen', True⟩ ∧ seen'.sends = known.length ∧
          known.length = attempts.length + 1 ∧ known.length < invocation.maxAttempts)
      (runAttempt texts invocation fuel (attempts.length + 1) attempts) ⟨seen, True⟩ := by
  refine goes_bind (admit_goes count) ?_
  rintro ⟨admission, evidence⟩ _ ⟨seen', rfl, same, plain⟩
  refine goes_bind (send_goes (same ▸ left)) ?_
  rintro outcome ghost ⟨sent, outcomeSeen, fine⟩
  have whole : ghost.seen.sends = attempts.length + 1 := sent.trans (congrArg (· + 1) same)
  refine goes_bind (classify_goes plain whole outcomeSeen fine) ?_
  rintro result ghost' ⟨sent', outcomeSeen', fine'⟩
  cases result with
  | ok response => exact ⟨fine'.1, fine'.2.trans (congrArg Nat.cast sent'.symm)⟩
  | error error =>
    have bounded : ghost'.seen.sends ≤ invocation.maxAttempts := by omega
    have further := failed_goes error plain sent' outcomeSeen' bounded fine'
    rw [sent'] at further
    exact goes_bind further fun known after known' => known'

theorem runAttempts_goes {attempts : Attempts} {fuel left : Nat} {seen : Seen} (count : seen.sends = attempts.length)
    (total : attempts.length + left = invocation.maxAttempts) (some : 0 < left) :
    Sat (rules texts invocation) (Goes fun after response =>
        after.fine ∧ attemptCount response.providerMetadata = after.seen.sends)
      (runAttempts texts invocation fuel left (attempts.length + 1) attempts) ⟨seen, True⟩ := by
  induction left generalizing attempts seen with
  | zero => omega
  | succ left ih =>
    refine goes_bind (runAttempt_goes count (by omega)) ?_
    intro result ghost reached
    cases result with
    | inl response => exact reached
    | inr known =>
      obtain ⟨seen', rfl, sent, longer, less⟩ := reached
      have next := ih sent (by omega) (by omega)
      rw [longer] at next
      exact next

end Specification

section Runs

variable (texts : TextFunctions) (invocation : Invocation)

def isRequest : Call → Bool
  | .request _ => true
  | _ => false

def sends (events : List Environment.Event) : Nat := events.countP fun event => isRequest event.op

theorem sends_observe (seen : Seen) (call : Call) (answer : call.Answer) :
    (seen.observe call answer).sends = seen.sends + if isRequest call then 1 else 0 := by
  cases call <;> first | rfl | (cases answer <;> rfl)

theorem sends_seenAfter (seen : Seen) (events : List Environment.Event) :
    (seenAfter seen events).sends = seen.sends + sends events := by
  induction events generalizing seen with
  | nil => rfl
  | cons event rest ih =>
    rw [seenAfter, ih, sends_observe]
    unfold sends
    rw [List.countP_cons]
    omega

theorem sends_concat (events : List Environment.Event) (event : Environment.Event) :
    sends (events ++ [event]) = sends events + if isRequest event.op then 1 else 0 := by
  unfold sends
  rw [List.countP_append, List.countP_singleton]

theorem trace_exists (ghost : Ghost) (events : List Environment.Event) :
    ∃ last, (rules texts invocation).Trace ghost events last ∧ last.seen = seenAfter ghost.seen events ∧
      (last.fine ↔ ghost.fine ∧ Tolerated texts invocation ghost.seen events) := by
  induction events generalizing ghost with
  | nil => exact ⟨ghost, .nil ghost, rfl, by simp [Tolerated]⟩
  | cons event rest ih =>
    obtain ⟨last, trace, seen, fine⟩ := ih
      ⟨ghost.seen.observe event.op event.answer, ghost.fine ∧ Tolerable texts invocation ghost.seen event.op event.answer⟩
    exact ⟨last, .cons rfl trace, seen, fine.trans (by simp [Tolerated, and_assoc])⟩

theorem invoke_sat (fuel : Nat) : Sat (rules texts invocation) (Goes fun after response =>
    after.fine ∧ attemptCount response.providerMetadata = after.seen.sends)
    (invoke texts invocation fuel) ⟨.start, True⟩ := by
  have none : Seen.start.sends = ([] : Attempts).length := rfl
  exact runAttempts_goes none (Nat.zero_add _) invocation.positive

theorem request_allowed {fuel : Nat} {before after : List Environment.Event} {timeoutMs : Int} {outcome : Transported}
    {rest : Adapter ModelResponse}
    (leads : Leads (invoke texts invocation fuel) (before ++ ⟨.request timeoutMs, outcome⟩ :: after) rest) :
    sends before < invocation.maxAttempts ∧ (seenAfter .start before).clock < invocation.deadline := by
  obtain ⟨last, trace, seen, -⟩ := trace_exists texts invocation ⟨.start, True⟩ before
  have allowed := (invoke_sat texts invocation fuel).allowed leads trace
  change last.seen.sends < _ ∧ last.seen.clock < _ at allowed
  rw [seen, sends_seenAfter] at allowed
  exact ⟨by simpa [Seen.start] using allowed.1, allowed.2⟩

theorem sends_bounded {fuel : Nat} {events : List Environment.Event} {rest : Adapter ModelResponse}
    (leads : Leads (invoke texts invocation fuel) events rest) : sends events ≤ invocation.maxAttempts := by
  by_contra exceeded
  have bound (taken : List Environment.Event) (within : taken <+: events) : sends taken ≤ invocation.maxAttempts := by
    induction taken using List.reverseRecOn with
    | nil => exact Nat.zero_le _
    | append_singleton init event ih =>
      obtain ⟨tail, same⟩ := within
      have before := ih ⟨event :: tail, by rw [← same]; simp⟩
      rw [sends_concat]
      obtain ⟨op, answer⟩ := event
      cases op with
      | request timeoutMs =>
        rw [← same, List.append_assoc] at leads
        exact (request_allowed texts invocation leads).1
      | monotonic reading => exact before
      | wallClock deferral => exact before
      | jitter => exact before
      | sleep delayMs => exact before
      | admission now deadline input output => exact before
      | revalidate now deadline => exact before
      | observeThrottle now eligibleAt => exact before
      | observeSuccess now reserved input output id => exact before
  exact exceeded (bound events (List.prefix_refl events))

/-- Exactly when a run charges the budget for what it dispatched and ends in an error of the model or a response. -/
theorem invoke_exact (fuel : Nat) :
    (∀ events rest, Leads (invoke texts invocation fuel) events rest → sends events ≤ invocation.maxAttempts ∧
      ∀ before timeoutMs outcome after, events = before ++ ⟨.request timeoutMs, outcome⟩ :: after →
        (seenAfter .start before).clock < invocation.deadline) ∧
    ∀ events result, Finishes (invoke texts invocation fuel) events result →
      (Fits (sends events) result ↔ Tolerated texts invocation .start events) := by
  constructor
  · intro events rest leads
    refine ⟨sends_bounded texts invocation leads, ?_⟩
    rintro before timeoutMs outcome after rfl
    exact (request_allowed texts invocation leads).2
  · intro events result finishes
    obtain ⟨last, trace, seen, fine⟩ := trace_exists texts invocation ⟨.start, True⟩ events
    have went := (invoke_sat texts invocation fuel).finishes finishes trace
    have total : last.seen.sends = sends events := by
      rw [seen, sends_seenAfter]
      exact Nat.zero_add _
    have tolerated : last.fine ↔ Tolerated texts invocation .start events := by simpa using fine
    cases result with
    | ok response =>
      obtain ⟨holds, count⟩ := went
      rw [total] at count
      exact ⟨fun _ => tolerated.mp holds, fun _ => count⟩
    | error raised =>
      rw [← tolerated, ← total]
      exact went

end Runs

section LateRecheck

def noTexts : TextFunctions where
  loadBytes _ := .error .malformed
  loadText _ := .error .malformed
  finiteFloat _ := none
  integer _ := none
  casefold text := text
  strip text := text
  sha256 text := text
  copies _ := true

def secondInvocation : Invocation := ⟨"gpt-5", 1, by decide, 0, none, 1, 0, 1⟩

def admission : AdmissionDecision := ⟨true, 0, 1, 1, some 1⟩

def lateEvents : List Environment.Event := [
  ⟨.monotonic .admitted, (0 : ℚ)⟩, ⟨.admission 0 1 1 0, some admission⟩, ⟨.monotonic .rechecked, (0 : ℚ)⟩,
  ⟨.revalidate 0 1, some ⟨true, 0, 0, 0, none⟩⟩, ⟨.monotonic .sending, (1 : ℚ)⟩]

theorem late_send : Finishes (send secondInvocation) [⟨.monotonic .sending, (1 : ℚ)⟩] (.error (.model timedOut)) := by
  have nothing : remainingMs secondInvocation.deadline 1 = some 0 := by decide +kernel
  unfold Finishes
  refine .call ?_
  simp only [Program.bind, nothing, Int.zero_lt_one, ↓reduceIte]
  exact .refl _

/-- Nothing was sent, and one attempt is charged. -/
theorem late_charged : Finishes (invoke noTexts secondInvocation 1) lateEvents (.error (.model timedOut)) ∧
    ¬ Fits (sends lateEvents) (.error (.model timedOut)) := by
  constructor
  · have admitted : Finishes (admitAttempt secondInvocation 1 []) (lateEvents.take 4)
        (.ok (admission, admissionEvidence secondInvocation admission 0)) :=
      .call (.call (.call (.call (.refl _))))
    exact .bind_error _ (admitted.bind (.bind_error _ late_send))
  · intro charged
    cases (show (1 : Int) = 0 from charged)

end LateRecheck

end Aep.OpenaiModelProvider
