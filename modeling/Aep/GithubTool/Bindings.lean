import Aep.GithubTool.TokenProvider
import Aep.Library.Result

namespace Aep.GithubTool.TokenProvider

variable {platform : TokenPlatform} {config : TokenConfig}

section History

variable {history earlier : List Event} {token : Token}

theorem Issued.later (issued : Issued platform config earlier token) (suffix : earlier <:+ history) :
    Issued platform config history token := by
  obtain ⟨request, response, payload, member, rest⟩ := issued
  exact ⟨request, response, payload, suffix.subset member, rest⟩

theorem allJustified_nil : AllJustified platform config [] := by
  intro thread token recorded cachedAt earlier suffix
  exact absurd (List.suffix_nil.mp suffix) (List.cons_ne_nil _ _)

theorem AllJustified.cons {event : Event} (justified : AllJustified platform config history)
    (new : ∀ thread token recorded cachedAt, event = .returned thread token recorded cachedAt →
      Justified platform config history token recorded cachedAt) :
    AllJustified platform config (event :: history) := by
  intro thread token recorded cachedAt earlier suffix
  rcases List.suffix_cons_iff.mp suffix with same | before
  · obtain ⟨rfl, rfl⟩ := List.cons.inj same
    exact new thread token recorded cachedAt rfl
  · exact justified thread token recorded cachedAt earlier before

end History

section Provider

variable {skew : Nat} {outside : Outside} {provider : Provider}

theorem current_cases {now : Int} {cached : Option Token} {entry : Entry} (found : current skew now cached = .ok entry) :
    entry = .refresh ∨ ∃ token, cached = some token ∧ now + skew < token.expiresAt ∧ entry = .cached token now := by
  unfold current at found
  cases cached with
  | none =>
    cases found
    exact .inl rfl
  | some token =>
    dsimp only at found
    split at found
    · cases found
    · split at found
      · rename_i fresh
        cases found
        exact .inr ⟨token, rfl, by omega, rfl⟩
      · cases found
        exact .inl rfl

theorem entry_cases {deadline : ℚ} {entry : Entry} (found : provider.entry skew outside deadline = .ok entry) :
    provider.refreshing = true ∧ entry = .waiting ∨ provider.refreshing = false ∧ (entry = .refresh ∨
      ∃ token now, provider.token = some token ∧ now + skew < token.expiresAt ∧ entry = .cached token now) := by
  unfold Provider.entry at found
  cases marked : provider.refreshing with
  | true =>
    rw [if_pos marked] at found
    obtain ⟨now, -, found⟩ := Result.bind_eq_ok.mp found
    split at found
    · cases found
    · obtain ⟨⟨⟩, -, found⟩ := Result.bind_eq_ok.mp found
      cases found
      exact .inl ⟨rfl, rfl⟩
  | false =>
    rw [if_neg (by simp [marked])] at found
    obtain ⟨now, -, found⟩ := Result.bind_eq_ok.mp found
    rcases current_cases found with refresh | ⟨token, cached, fresh, same⟩
    · exact .inr ⟨rfl, .inl refresh⟩
    · exact .inr ⟨rfl, .inr ⟨token, now, cached, fresh, same⟩⟩

/-- A thread sets the mark, gets the cached token, waits or fails. -/
inductive Entered (skew : Nat) (before : Provider) : Except Raised Entry → Provider → Prop where
  | refresh (unmarked : before.refreshing = false) :
      Entered skew before (.ok .refresh) { before with refreshing := true }
  | cached (token : Token) (now : Int) (there : before.token = some token) (fresh : now + skew < token.expiresAt) :
      Entered skew before (.ok (.cached token now)) before
  | waiting : Entered skew before (.ok .waiting) before
  | failed (error : Raised) : Entered skew before (.error error) before

theorem entered_enter (deadline : ℚ) :
    Entered skew provider (provider.enter skew outside deadline).1 (provider.enter skew outside deadline).2 := by
  unfold Provider.enter
  cases found : provider.entry skew outside deadline with
  | error error => exact .failed error
  | ok entry =>
    rcases entry_cases found with ⟨-, rfl⟩ | ⟨unmarked, rfl | ⟨token, now, there, fresh, rfl⟩⟩
    · exact .waiting
    · exact .refresh unmarked
    · exact .cached token now there fresh

theorem Entered.installation {entry : Except Raised Entry} {after : Provider} (entered : Entered skew provider entry after) :
    after.installationId = provider.installationId := by
  cases entered <;> rfl

def Drops (before after : Provider) : Prop :=
  after = before ∨ after.refreshing = before.refreshing ∧ after.token = none

theorem drops_record (installation : Int) : Drops provider (provider.record installation) := by
  unfold Provider.record
  split
  · exact .inr ⟨rfl, rfl⟩
  · exact .inl rfl

theorem drops_invalidate (expected : Option Int) : Drops provider (provider.invalidate expected) := by
  unfold Provider.invalidate
  split
  · exact .inr ⟨rfl, rfl⟩
  · exact .inl rfl

theorem drops_discard (value : Option String) : Drops provider (provider.discard value) := by
  unfold Provider.discard
  split
  · split
    · exact .inr ⟨rfl, rfl⟩
    · exact .inl rfl
  · exact .inl rfl

theorem keep_cases (token : Token) :
    (∃ error, provider.keep token = (.error error, provider)) ∨
      provider.installationId = some token.installationId ∧
        provider.keep token = (.ok token.value, { provider with token := some token }) := by
  unfold Provider.keep
  split
  · exact .inl ⟨_, rfl⟩
  · rename_i same
    exact .inr ⟨by simpa using same, rfl⟩

end Provider

section Invariant

variable (platform config) in
/-- At most one refresh is in flight, and it is marked. The cached token is of the recorded installation. -/
structure Bound (world : World) : Prop where
  single : world.active = [] ∧ world.provider.refreshing = false ∨
    ∃ thread, world.active = [thread] ∧ world.provider.refreshing = true
  cached : ∀ token, world.provider.token = some token →
    world.provider.installationId = some token.installationId ∧ Issued platform config world.history token
  justified : AllJustified platform config world.history

variable (platform config) in
/-- What a thread may call. Only the thread whose refresh is in flight may ask for a token. -/
def Permitted (thread : Nat) (world : World) : Call → Prop
  | .enter _ => thread ∉ world.active
  | .clear => thread ∈ world.active
  | .keep token => Issued platform config world.history token
  | .request request => request.method = "POST" → thread ∈ world.active
  | _ => True

variable {world : World} {thread : Nat} {skew : Nat} {outside : Outside}

theorem bound_initial : Bound platform config {} :=
  ⟨.inl ⟨rfl, rfl⟩, (fun _ found => by cases found), allJustified_nil⟩

theorem suffix_move (provider : Provider) : world.history <:+ (world.move provider).history := by
  unfold World.move
  dsimp only
  split
  · exact List.suffix_rfl
  · exact List.suffix_cons _ _

theorem Bound.move (bound : Bound platform config world) {provider : Provider} (drops : Drops world.provider provider) :
    Bound platform config (world.move provider) := by
  have justified : AllJustified platform config (world.move provider).history := by
    unfold World.move
    dsimp only
    split
    · exact bound.justified
    · exact bound.justified.cons fun _ _ _ _ same => by cases same
  rcases drops with rfl | ⟨mark, dropped⟩
  · refine ⟨bound.single, fun token found => ?_, justified⟩
    obtain ⟨recorded, issued⟩ := bound.cached token found
    exact ⟨recorded, issued.later (suffix_move _)⟩
  · refine ⟨?_, fun token found => ?_, justified⟩
    · change _ ∧ provider.refreshing = false ∨ ∃ thread, _ ∧ provider.refreshing = true
      rw [mark]
      exact bound.single
    · change provider.token = some token at found
      rw [dropped] at found
      cases found

theorem Bound.answered (bound : Bound platform config world) (request : HttpRequest) (response : Except Raised HttpResponse) :
    Bound platform config (world.answered request response) := by
  cases response with
  | error error => exact bound
  | ok response =>
    refine ⟨bound.single, fun token found => ?_, bound.justified.cons fun _ _ _ _ same => by cases same⟩
    obtain ⟨recorded, issued⟩ := bound.cached token found
    exact ⟨recorded, issued.later (List.suffix_cons _ _)⟩

theorem Bound.entered (bound : Bound platform config world) {entry : Except Raised Entry} {provider : Provider}
    (entered : Entered config.tokenRefreshSkew world.provider entry provider) :
    Bound platform config (world.entered thread entry provider) := by
  cases entered with
  | refresh unmarked =>
    refine ⟨.inr ⟨thread, ?_, rfl⟩, bound.cached, bound.justified⟩
    rcases bound.single with ⟨none, -⟩ | ⟨other, -, marked⟩
    · change thread :: world.active = [thread]
      rw [none]
    · rw [unmarked] at marked
      cases marked
  | cached token now there fresh =>
    obtain ⟨recorded, issued⟩ := bound.cached token there
    refine ⟨bound.single, fun other found => ?_, bound.justified.cons fun _ _ _ _ same => ?_⟩
    · obtain ⟨same, before⟩ := bound.cached other found
      exact ⟨same, before.later (List.suffix_cons _ _)⟩
    · cases same
      exact ⟨recorded, issued, fun later same => Option.some.inj same ▸ fresh⟩
  | waiting => exact ⟨bound.single, bound.cached, bound.justified⟩
  | failed error => exact bound

theorem Bound.active_eq (bound : Bound platform config world) (active : thread ∈ world.active) :
    world.active = [thread] := by
  rcases bound.single with ⟨none, -⟩ | ⟨other, one, -⟩
  · rw [none] at active
    cases active
  · rw [one, List.mem_singleton] at active
    rw [one, active]

theorem Bound.clear (bound : Bound platform config world) (active : thread ∈ world.active) :
    Bound platform config { world with
      provider := { world.provider with refreshing := false }, active := world.active.erase thread, waiting := [] } := by
  refine ⟨.inl ⟨?_, rfl⟩, bound.cached, bound.justified⟩
  rw [bound.active_eq active]
  simp

theorem Bound.kept (bound : Bound platform config world) {token : Token}
    (issued : Issued platform config world.history token) :
    Bound platform config (world.kept thread token (world.provider.keep token)) := by
  rcases keep_cases token with ⟨error, failed⟩ | ⟨recorded, stored⟩
  · rw [failed]
    exact bound
  · rw [stored]
    refine ⟨bound.single, fun other found => ?_, bound.justified.cons fun _ _ _ _ same => ?_⟩
    · cases found
      exact ⟨recorded, issued.later (List.suffix_cons _ _)⟩
    · cases same
      exact ⟨recorded, issued, fun _ wrong => by cases wrong⟩

theorem Bound.respond (bound : Bound platform config world) {call : Call}
    (permitted : Permitted platform config thread world call) :
    Bound platform config (world.respond config.tokenRefreshSkew outside thread call).2 := by
  cases call with
  | request request => exact bound.answered request outside.response
  | enter deadline => exact bound.entered (entered_enter deadline)
  | record installation => exact bound.move (drops_record installation)
  | invalidate expected => exact bound.move (drops_invalidate expected)
  | clear => exact bound.clear permitted
  | keep token => exact bound.kept permitted
  | discard value => exact bound.move (drops_discard value)
  | _ => exact bound

end Invariant

section Discipline

variable {world next : World} {thread other : Nat} {skew : Nat} {outside : Outside}

theorem suffix_answered (request : HttpRequest) (response : Except Raised HttpResponse) :
    world.history <:+ (world.answered request response).history := by
  cases response with
  | error error => exact List.suffix_rfl
  | ok response => exact List.suffix_cons _ _

theorem active_answered (request : HttpRequest) (response : Except Raised HttpResponse) :
    (world.answered request response).active = world.active := by
  cases response <;> rfl

theorem suffix_respond (call : Call) : world.history <:+ (world.respond skew outside thread call).2.history := by
  cases call with
  | request request => exact suffix_answered request outside.response
  | enter deadline =>
    change _ <:+ (world.entered thread _ _).history
    unfold World.entered
    dsimp only
    split
    · exact List.suffix_cons _ _
    · exact List.suffix_rfl
  | record installation => exact suffix_move _
  | invalidate expected => exact suffix_move _
  | keep token =>
    change _ <:+ (world.kept thread token _).history
    unfold World.kept
    dsimp only
    split
    · exact List.suffix_cons _ _
    · exact List.suffix_rfl
  | discard value => exact suffix_move _
  | _ => exact List.suffix_rfl

theorem active_other (different : other ≠ thread) (call : Call) :
    other ∈ (world.respond skew outside thread call).2.active ↔ other ∈ world.active := by
  cases call with
  | request request =>
    change other ∈ (world.answered request outside.response).active ↔ _
    rw [active_answered]
  | enter deadline =>
    change other ∈ (world.entered thread _ _).active ↔ _
    unfold World.entered
    dsimp only
    split
    · simp [different]
    · rfl
  | clear => exact List.mem_erase_of_ne different
  | _ => rfl

variable (platform config) in
def discipline : Machine.Discipline (machine config.tokenRefreshSkew) where
  invariant := Bound platform config
  permitted := Permitted platform config
  rely thread before after := (thread ∈ after.active ↔ thread ∈ before.active) ∧ before.history <:+ after.history
  rely_refl _ _ := ⟨Iff.rfl, List.suffix_rfl⟩
  rely_trans first second := ⟨second.1.trans first.1, first.2.trans second.2⟩
  invariant_exec := by
    rintro thread world call answer next bound permitted ⟨outside, executed⟩
    have kept := @Bound.respond platform config world thread outside bound call permitted
    rwa [executed] at kept
  invariant_foreign _ moved := moved.elim
  rely_exec := by
    rintro other thread world call answer next different bound permitted ⟨outside, executed⟩
    have active := @active_other world thread other config.tokenRefreshSkew outside different call
    have suffix := @suffix_respond world thread config.tokenRefreshSkew outside call
    rw [executed] at active suffix
    exact ⟨active, suffix⟩
  rely_foreign _ moved := moved.elim

/-- A fact about a thread that holds as long as its refresh begins and ends at no other time. -/
structure Steady (thread : Nat) (fact : World → Prop) : Prop where
  mono : ∀ {before after : World}, (thread ∈ after.active ↔ thread ∈ before.active) →
    before.history <:+ after.history → fact before → fact after

theorem steady_active : Steady thread fun world => thread ∈ world.active :=
  ⟨fun active _ fact => active.mpr fact⟩

theorem steady_idle : Steady thread fun world => thread ∉ world.active :=
  ⟨fun active _ fact => fun there => fact (active.mp there)⟩

theorem Steady.and {fact further : World → Prop} (steady : Steady thread fact) (also : Steady thread further) :
    Steady thread fun world => fact world ∧ further world :=
  ⟨fun active suffix facts => ⟨steady.mono active suffix facts.1, also.mono active suffix facts.2⟩⟩

theorem steady_issued {token : Token} : Steady thread fun world => Issued platform config world.history token :=
  ⟨fun _ suffix issued => issued.later suffix⟩

/-- The calls that ask for nothing but clocks, signatures and the recorded installation, and may forget a token. -/
def Quiet : Call → Prop
  | .request _ | .enter _ | .clear | .keep _ => False
  | _ => True

theorem quiet_permitted {call : Call} (quiet : Quiet call) : Permitted platform config thread world call := by
  cases call <;> trivial

theorem quiet_active {call : Call} (quiet : Quiet call) :
    (world.respond skew outside thread call).2.active = world.active := by
  cases call <;> first | rfl | exact quiet.elim

variable {α : Type} {fact : World → Prop} {program : Prog α}

theorem triple_quiet (steady : Steady thread fact) (only : program.Only Quiet) :
    (discipline platform config).Triple thread fact program fun _ => fact := by
  refine Machine.Discipline.triple_only (fun s t known rely => steady.mono rely.1 rely.2 known)
    (fun s call quiet _ => quiet_permitted quiet) ?_ only
  rintro world call answer next quiet bound ⟨outside, executed⟩ known
  have active := @quiet_active world thread config.tokenRefreshSkew outside call quiet
  have suffix := @suffix_respond world thread config.tokenRefreshSkew outside call
  rw [executed] at active suffix
  exact steady.mono (by rw [active]) suffix known

theorem only_remainingMs (deadline : ℚ) : (remainingMs deadline).Only Quiet := by
  refine Program.only_bind (Program.only_bind ⟨trivial, fun _ => trivial⟩ fun _ => Program.only_liftExcept _) ?_
  intro now
  split
  · trivial
  · split <;> trivial

theorem only_now : now.Only Quiet := Program.only_bind ⟨trivial, fun _ => trivial⟩ fun _ => Program.only_liftExcept _

theorem only_appJwt : appJwt.Only Quiet :=
  Program.only_bind only_now fun _ => Program.only_bind ⟨trivial, fun _ => trivial⟩ fun _ => Program.only_liftExcept _

theorem only_invalidateWhere (condition : Bool) (expected : Option Int) : (invalidateWhere condition expected).Only Quiet := by
  cases condition with
  | true => exact ⟨trivial, fun _ => trivial⟩
  | false => trivial

variable (platform config) in
def Accepted (method path : String) (response : HttpResponse) (world : World) : Prop :=
  ∃ request, .answered request response ∈ world.history ∧ request.method = method ∧
    request.url = platform.rstripSlash config.apiUrl ++ path ∧ 200 ≤ response.status ∧ response.status < 300

theorem accepted_ok {outcome : Except Raised HttpResponse} {response : HttpResponse}
    (found : (outcome.mapError timedOut >>= accepted platform) = .ok response) :
    outcome = .ok response ∧ 200 ≤ response.status ∧ response.status < 300 := by
  obtain ⟨answered, there, found⟩ := Result.bind_eq_ok.mp found
  unfold accepted at found
  split at found
  · obtain ⟨error, -, wrong⟩ := Result.bind_eq_ok.mp found
    cases wrong
  · rename_i within
    cases found
    cases outcome with
    | error error => cases there
    | ok outcome =>
      cases there
      exact ⟨rfl, by omega⟩

variable {method path bearer : String} {body : Option Record} {timeoutMs : Int} {deadline : ℚ}

theorem triple_request (steady : Steady thread fact)
    (posts : ∀ world, fact world → method = "POST" → thread ∈ world.active) :
    (discipline platform config).Triple thread fact (request platform config method path bearer body timeoutMs)
      fun result world => fact world ∧ ∀ response, result = .ok response → Accepted platform config method path response world := by
  refine Machine.Discipline.triple_call (fun outcome world => fact world ∧ ∀ response, outcome = .ok response →
      ∃ request, .answered request response ∈ world.history ∧ request.method = method ∧
        request.url = platform.rstripSlash config.apiUrl ++ path)
    (fun s t known rely => steady.mono rely.1 rely.2 known) (fun t _ known => posts t known) ?_ fun outcome => ?_
  · rintro t outcome u - known ⟨outside, executed⟩ -
    obtain ⟨rfl, rfl⟩ := Prod.mk.inj executed
    refine ⟨steady.mono ?_ (suffix_answered _ _) known, fun response same => ?_⟩
    · rw [active_answered]
    · refine ⟨⟨method, platform.rstripSlash config.apiUrl ++ path, bearer, body, timeoutMs⟩, ?_, rfl, rfl⟩
      change _ ∈ (t.answered _ outside.response).history
      rw [same]
      exact List.mem_cons_self
  · refine Machine.Discipline.triple_liftExcept fun world known => ⟨known.1, fun response found => ?_⟩
    obtain ⟨same, least, below⟩ := accepted_ok found
    obtain ⟨request, answered, isMethod, isUrl⟩ := known.2 response same
    exact ⟨request, answered, isMethod, isUrl, least, below⟩

theorem triple_appRequest (steady : Steady thread fact)
    (posts : ∀ world, fact world → method = "POST" → thread ∈ world.active) :
    (discipline platform config).Triple thread fact (appRequest platform config method path body deadline)
      fun result world => fact world ∧ ∀ response, result = .ok response → Accepted platform config method path response world := by
  refine Machine.Discipline.Triple.bind (triple_quiet steady only_appJwt) (fun bearer => ?_)
    fun error world known => ⟨known, fun _ wrong => by cases wrong⟩
  refine Machine.Discipline.Triple.bind (triple_quiet steady (only_remainingMs deadline)) (fun timeoutMs => ?_)
    fun error world known => ⟨known, fun _ wrong => by cases wrong⟩
  exact triple_request steady posts

theorem triple_resolveInstallation (steady : Steady thread fact) (revalidate : Bool) :
    (discipline platform config).Triple thread fact (resolveInstallation platform config deadline revalidate)
      fun _ => fact := by
  have fetched (previous : Option Int) : (discipline platform config).Triple thread fact
      (fetchInstallation platform config deadline revalidate previous) fun _ => fact := by
    refine Machine.Discipline.Triple.bind_attempt (triple_appRequest steady fun _ _ wrong => by simp at wrong)
      fun outcome => Machine.Discipline.Triple.mono ?_ (fun world known => known.1) fun _ _ known => known
    cases outcome with
    | error error =>
      exact triple_quiet steady (Program.only_bind (only_invalidateWhere _ _) fun _ => trivial)
    | ok response =>
      exact triple_quiet steady (Program.only_bind (Program.only_liftExcept _) fun _ => ⟨trivial, fun _ => trivial⟩)
  have asked : (ask .installation).Only Quiet := ⟨trivial, fun _ => trivial⟩
  refine Machine.Discipline.Triple.bind (triple_quiet steady asked) (fun recorded => ?_) fun error world known => known
  cases recorded with
  | none => exact fetched none
  | some installation =>
    cases revalidate with
    | false => exact Machine.Discipline.triple_ret fun _ known => known
    | true => exact fetched (some installation)

theorem unexpired_ok {token found : Token} {now : Int} (checked : unexpired token now = .ok found) : found = token := by
  unfold unexpired at checked
  split at checked
  · cases checked
  · exact (Except.ok.inj checked).symm

theorem tokenOf_installation {installation : Int} {payload : Record} {token : Token}
    (read : tokenOf platform installation payload = .ok token) : token.installationId = installation := by
  unfold tokenOf at read
  split at read
  · split at read
    · cases read
    · obtain ⟨expiresAt, -, read⟩ := Result.bind_eq_ok.mp read
      cases read
      rfl
  · cases read

theorem triple_fetchToken (installation : Int) :
    (discipline platform config).Triple thread (fun world => thread ∈ world.active)
      (fetchToken platform config deadline installation) fun result world => thread ∈ world.active ∧
        ∀ token, result = .ok token → Issued platform config world.history token := by
  refine Machine.Discipline.Triple.bind_attempt (triple_appRequest steady_active fun _ known _ => known) fun outcome => ?_
  cases outcome with
  | error error =>
    refine Machine.Discipline.Triple.bind ((triple_quiet steady_active (only_invalidateWhere _ _)).mono
      (fun _ known => known.1) fun _ _ known => known) (fun _ => ?_) fun error world known => ?_
    · exact Machine.Discipline.triple_raise fun _ known => ⟨known, fun _ wrong => by cases wrong⟩
    · exact ⟨known, fun _ wrong => by cases wrong⟩
  | ok response =>
    refine Machine.Discipline.triple_lift_bind (fun error _ world known => ⟨known.1, fun _ wrong => by cases wrong⟩)
      fun token read => ?_
    obtain ⟨payload, isObject, read⟩ := Result.bind_eq_ok.mp read
    have issued : ∀ world, Accepted platform config "POST" (accessTokensPath installation) response world →
        Issued platform config world.history token := by
      rintro world ⟨request, answered, isPost, isUrl, least, below⟩
      refine ⟨request, response, payload, answered, isPost, ?_, least, below, isObject, ?_⟩
      · rw [tokenOf_installation read]
        exact isUrl
      · rw [tokenOf_installation read]
        exact read
    have steady : Steady thread fun world => thread ∈ world.active ∧ Issued platform config world.history token :=
      steady_active.and steady_issued
    refine Machine.Discipline.Triple.bind ((triple_quiet steady only_now).mono
      (fun world known => ⟨known.1, issued world (known.2 response rfl)⟩) fun _ _ known => known) (fun now => ?_)
      fun error world known => ⟨known.1, fun _ wrong => by cases wrong⟩
    refine Machine.Discipline.triple_liftExcept fun world known => ⟨known.1, fun found checked => ?_⟩
    rw [unexpired_ok checked]
    exact known.2

theorem triple_refresh : (discipline platform config).Triple thread (fun world => thread ∈ world.active)
    (refresh platform config deadline) fun result world => thread ∈ world.active ∧
      ∀ token, result = .ok token → Issued platform config world.history token :=
  Machine.Discipline.Triple.bind (triple_resolveInstallation steady_active false)
    (fun installation => triple_fetchToken installation) fun error world known => ⟨known, fun _ wrong => by cases wrong⟩

/-- A thread that has ended has no refresh in flight, and a token that it returns is one of the history. -/
def Ended (thread : Nat) (result : Except Raised Reply) (world : World) : Prop :=
  thread ∉ world.active ∧ ∀ value, result = .ok (.token value) → ∃ token recorded cachedAt,
    token.value = value ∧ .returned thread token recorded cachedAt ∈ world.history

theorem ended_of_idle {result : Except Raised Reply} (idle : thread ∉ world.active)
    (other : ∀ value, result ≠ .ok (.token value)) : Ended thread result world :=
  ⟨idle, fun value same => absurd same (other value)⟩

theorem returned_kept {token : Token} {value : String} (kept : (world.provider.keep token).1 = .ok value) :
    ∃ recorded cachedAt, token.value = value ∧ .returned thread token recorded cachedAt ∈
      (world.kept thread token (world.provider.keep token)).history := by
  rcases @keep_cases world.provider token with ⟨error, failed⟩ | ⟨-, stored⟩
  · rw [failed] at kept
    cases kept
  · rw [stored] at kept ⊢
    exact ⟨_, none, Except.ok.inj kept, List.mem_cons_self⟩

theorem triple_keep (token : Token) : (discipline platform config).Triple thread
    (fun world => thread ∉ world.active ∧ Issued platform config world.history token)
    (do
      let value ← obtainAnswer (ask (.keep token))
      return .token value) (Ended thread) := by
  refine Machine.Discipline.triple_call (fun (answer : Except Raised String) world => thread ∉ world.active ∧
      ∀ value, answer = .ok value → ∃ recorded cachedAt, token.value = value ∧
        .returned thread token recorded cachedAt ∈ world.history)
    (fun s t known rely => (steady_idle.and steady_issued).mono rely.1 rely.2 known) (fun t _ known => known.2) ?_ fun answer => ?_
  · rintro t answer u - known ⟨outside, executed⟩ -
    obtain ⟨rfl, rfl⟩ := Prod.mk.inj executed
    exact ⟨known.1, fun value kept => returned_kept kept⟩
  · cases answer with
    | error error => exact Machine.Discipline.triple_raise fun world known => ended_of_idle known.1 fun _ wrong => by cases wrong
    | ok value =>
      refine Machine.Discipline.triple_ret fun world known => ⟨known.1, fun other same => ?_⟩
      cases same
      obtain ⟨recorded, cachedAt, same, returned⟩ := known.2 value rfl
      exact ⟨token, recorded, cachedAt, same, returned⟩

theorem triple_refreshToken : (discipline platform config).Triple thread (fun world => thread ∈ world.active)
    (refreshToken platform config deadline) (Ended thread) := by
  refine Machine.Discipline.Triple.bind_attempt triple_refresh fun outcome => ?_
  refine Machine.Discipline.triple_call (fun _ world => thread ∉ world.active ∧
      ∀ token, outcome = .ok token → Issued platform config world.history token) ?_ (fun t _ known => known.1) ?_ fun _ => ?_
  · exact fun s t known rely => ⟨rely.1.mpr known.1, fun token found => (known.2 token found).later rely.2⟩
  · rintro t answer u bound known ⟨outside, executed⟩ -
    obtain ⟨-, rfl⟩ := Prod.mk.inj executed
    refine ⟨?_, known.2⟩
    change thread ∉ t.active.erase thread
    rw [bound.active_eq known.1]
    simp
  · refine Machine.Discipline.triple_lift_bind (fun error _ world known =>
      ended_of_idle known.1 fun _ wrong => by cases wrong) fun token found => ?_
    exact (triple_keep token).mono (fun world known => ⟨known.1, known.2 token found⟩) fun _ _ ended => ended

def Marks (thread : Nat) : Except Raised Entry → World → Prop
  | .ok .refresh, world => thread ∈ world.active
  | .ok (.cached token _), world => thread ∉ world.active ∧ ∃ recorded cachedAt,
      .returned thread token recorded cachedAt ∈ world.history
  | _, world => thread ∉ world.active

theorem Entered.marks {entry : Except Raised Entry} {provider : Provider} (entered : Entered skew world.provider entry provider)
    (idle : thread ∉ world.active) : Marks thread entry (world.entered thread entry provider) := by
  cases entered with
  | refresh unmarked => exact List.mem_cons_self
  | cached token now there fresh => exact ⟨idle, _, _, List.mem_cons_self⟩
  | waiting => exact idle
  | failed error => exact idle

theorem triple_enter (rounds : Nat) : (discipline platform config).Triple thread (fun world => thread ∉ world.active)
    (enter platform config deadline rounds) (Ended thread) := by
  induction rounds with
  | zero => exact Machine.Discipline.triple_ret fun _ idle => ended_of_idle idle fun _ wrong => by cases wrong
  | succ rounds ih =>
    refine Machine.Discipline.triple_call (Marks thread) (fun s t known rely => steady_idle.mono rely.1 rely.2 known)
      (fun t _ known => known)
      ?_ fun answer => ?_
    · rintro t answer u - idle ⟨outside, executed⟩ -
      obtain ⟨rfl, rfl⟩ := Prod.mk.inj executed
      exact (entered_enter deadline).marks idle
    · cases answer with
      | error error => exact Machine.Discipline.triple_raise fun world known => ended_of_idle known fun _ wrong => by cases wrong
      | ok entry =>
        cases entry with
        | waiting => exact ih
        | refresh => exact triple_refreshToken
        | cached token now =>
          refine Machine.Discipline.triple_ret fun world known => ⟨known.1, fun value same => ?_⟩
          cases same
          obtain ⟨-, recorded, cachedAt, returned⟩ := known
          exact ⟨token, recorded, cachedAt, rfl, returned⟩

theorem only_monotonic : monotonic.Only Quiet :=
  Program.only_bind ⟨trivial, fun _ => trivial⟩ fun _ => Program.only_liftExcept _

theorem triple_deadline {timeoutMs : Int} {rest : ℚ → Prog Reply}
    (ends : ∀ deadline, (discipline platform config).Triple thread (fun world => thread ∉ world.active) (rest deadline)
      (Ended thread)) :
    (discipline platform config).Triple thread (fun world => thread ∉ world.active) (do
      let start ← monotonic
      let deadline ← Program.liftExcept (deadlineOf start timeoutMs)
      rest deadline) (Ended thread) := by
  refine Machine.Discipline.Triple.bind (triple_quiet steady_idle only_monotonic) (fun start => ?_)
    fun error world idle => ended_of_idle idle fun _ wrong => by cases wrong
  exact Machine.Discipline.triple_lift_bind
    (fun error _ world idle => ended_of_idle idle fun _ wrong => by cases wrong) fun deadline _ => ends deadline

theorem triple_program (rounds : Nat) (asked : Asked) :
    (discipline platform config).Triple thread (fun world => thread ∉ world.active)
      (asked.program platform config rounds) (Ended thread) := by
  have refused (error : Raised) : (discipline platform config).Triple thread (fun world => thread ∉ world.active)
      (.raise error) (Ended thread) :=
    Machine.Discipline.triple_raise fun _ idle => ended_of_idle idle fun _ wrong => by cases wrong
  have reported (deadline : ℚ) : (discipline platform config).Triple thread (fun world => thread ∉ world.active) (do
      let installation ← resolveInstallation platform config deadline true
      return .ready (readinessReport config installation)) (Ended thread) :=
    Machine.Discipline.Triple.bind (triple_resolveInstallation steady_idle true)
      (fun _ => Machine.Discipline.triple_ret fun _ idle => ended_of_idle idle fun _ wrong => by cases wrong)
      fun error world idle => ended_of_idle idle fun _ wrong => by cases wrong
  cases asked with
  | token timeoutMs =>
    change (discipline platform config).Triple thread _ (token platform config rounds timeoutMs) _
    unfold token
    split
    · exact refused _
    · exact triple_deadline fun deadline => triple_enter rounds
  | discard value =>
    have discarded : (ask (.discard value)).Only Quiet := ⟨trivial, fun _ => trivial⟩
    exact Machine.Discipline.Triple.bind (triple_quiet steady_idle discarded)
      (fun _ => Machine.Discipline.triple_ret fun _ idle => ended_of_idle idle fun _ wrong => by cases wrong)
      fun error world idle => ended_of_idle idle fun _ wrong => by cases wrong
  | readiness timeoutMs =>
    change (discipline platform config).Triple thread _ (readiness platform config timeoutMs) _
    unfold readiness
    split
    · exact refused _
    · exact triple_deadline reported

end Discipline

end Aep.GithubTool.TokenProvider
