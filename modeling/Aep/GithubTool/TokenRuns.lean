import Aep.GithubTool.Bindings

namespace Aep.GithubTool.TokenProvider

variable {platform : TokenPlatform} {config : TokenConfig}

section Uncut

theorem uncut_obtain {α : Type} {program : Prog (Except Raised α)} (uncut : program.Uncut) : (obtainAnswer program).Uncut :=
  Program.uncut_bind uncut fun answer => Program.uncut_liftExcept answer

theorem uncut_ask (call : Call) : (ask call).Uncut := fun _ => trivial

theorem uncut_monotonic : monotonic.Uncut := uncut_obtain (uncut_ask _)

theorem uncut_now : now.Uncut := uncut_obtain (uncut_ask _)

theorem uncut_remainingMs (deadline : ℚ) : (remainingMs deadline).Uncut := by
  refine Program.uncut_bind uncut_monotonic fun now => ?_
  split
  · trivial
  · split <;> trivial

theorem uncut_appRequest (method path : String) (body : Option Record) (deadline : ℚ) :
    (appRequest platform config method path body deadline).Uncut := by
  have jwt : appJwt.Uncut := Program.uncut_bind uncut_now fun _ => uncut_obtain (uncut_ask _)
  refine Program.uncut_bind jwt fun bearer => Program.uncut_bind (uncut_remainingMs deadline) fun timeoutMs => ?_
  exact Program.uncut_bind (uncut_ask _) fun _ => Program.uncut_liftExcept _

theorem uncut_invalidateWhere (condition : Bool) (expected : Option Int) : (invalidateWhere condition expected).Uncut := by
  cases condition with
  | true => exact fun _ => trivial
  | false => trivial

theorem uncut_resolveInstallation (deadline : ℚ) (revalidate : Bool) :
    (resolveInstallation platform config deadline revalidate).Uncut := by
  have fetched (previous : Option Int) : (fetchInstallation platform config deadline revalidate previous).Uncut := by
    refine Program.uncut_bind (Program.uncut_attempt (uncut_appRequest _ _ _ _)) fun outcome => ?_
    cases outcome with
    | error error => exact Program.uncut_bind (uncut_invalidateWhere _ _) fun _ => trivial
    | ok response => exact Program.uncut_bind (Program.uncut_liftExcept _) fun _ => uncut_ask _
  refine Program.uncut_bind (uncut_ask _) fun recorded => ?_
  cases recorded with
  | none => exact fetched none
  | some installation =>
    cases revalidate with
    | false => trivial
    | true => exact fetched (some installation)

theorem uncut_refresh (deadline : ℚ) : (refresh platform config deadline).Uncut := by
  refine Program.uncut_bind (uncut_resolveInstallation deadline false) fun installation => ?_
  refine Program.uncut_bind (Program.uncut_attempt (uncut_appRequest _ _ _ _)) fun outcome => ?_
  cases outcome with
  | error error => exact Program.uncut_bind (uncut_invalidateWhere _ _) fun _ => trivial
  | ok response =>
    exact Program.uncut_bind (Program.uncut_liftExcept _) fun _ =>
      Program.uncut_bind uncut_now fun _ => Program.uncut_liftExcept _

theorem uncut_enter (deadline : ℚ) (rounds : Nat) : (enter platform config deadline rounds).Uncut := by
  induction rounds with
  | zero => trivial
  | succ rounds ih =>
    refine Program.uncut_bind (uncut_obtain (uncut_ask _)) fun entry => ?_
    cases entry with
    | waiting => exact ih
    | cached token now => trivial
    | refresh =>
      refine Program.uncut_bind (Program.uncut_attempt (uncut_refresh deadline)) fun result => ?_
      refine Program.uncut_bind (uncut_ask _) fun _ => Program.uncut_bind (Program.uncut_liftExcept _) fun token => ?_
      exact Program.uncut_bind (uncut_obtain (uncut_ask _)) fun _ => trivial

theorem uncut_program (rounds : Nat) (asked : Asked) : (asked.program platform config rounds).Uncut := by
  have timed (timeoutMs : Int) (rest : ℚ → Prog Reply) (ends : ∀ deadline, (rest deadline).Uncut) : (do
      let start ← monotonic
      let deadline ← Program.liftExcept (deadlineOf start timeoutMs)
      rest deadline : Prog Reply).Uncut :=
    Program.uncut_bind uncut_monotonic fun _ => Program.uncut_bind (Program.uncut_liftExcept _) ends
  cases asked with
  | token timeoutMs =>
    change (token platform config rounds timeoutMs).Uncut
    unfold token
    split
    · trivial
    · exact timed _ _ fun deadline => uncut_enter deadline rounds
  | discard value => exact fun _ => trivial
  | readiness timeoutMs =>
    change (readiness platform config timeoutMs).Uncut
    unfold readiness
    split
    · trivial
    · exact timed _ _ fun deadline => Program.uncut_bind (uncut_resolveInstallation deadline true) fun _ => trivial

end Uncut

section Runs

variable {rounds : Nat → Nat} {asked : Nat → Asked} {before after : Config}

theorem start_holds : (discipline platform config).Holds (fun thread world result => Ended thread result world)
    (start platform config rounds asked) :=
  ⟨bound_initial, fun thread => triple_program (rounds thread) (asked thread) _ (by simp [start])⟩

theorem ended_stable (thread : Nat) :
    (discipline platform config).Stable thread fun world result => Ended (thread : Nat) result world := by
  rintro s t result ⟨idle, returned⟩ rely
  refine ⟨steady_idle.mono rely.1 rely.2 idle, fun value same => ?_⟩
  obtain ⟨token, recorded, cachedAt, same, member⟩ := returned value same
  exact ⟨token, recorded, cachedAt, same, rely.2.subset member⟩

theorem reached_holds (reaches : Reaches config.tokenRefreshSkew (start platform config rounds asked) after) :
    (discipline platform config).Holds (fun thread world result => Ended thread result world) after :=
  start_holds.reaches ended_stable reaches

theorem respond_ends {world : World} {outside : Outside} {skew thread ended : Nat} {call : Call}
    (active : ended ∈ world.active) (gone : ended ∉ (world.respond skew outside thread call).2.active) :
    (world.respond skew outside thread call).2.provider.refreshing = false ∧
      (world.respond skew outside thread call).2.waiting = [] := by
  cases call with
  | clear => exact ⟨rfl, rfl⟩
  | request request =>
    refine absurd active ?_
    rwa [← active_answered request outside.response]
  | enter deadline =>
    refine absurd ?_ gone
    change ended ∈ (world.entered thread _ _).active
    unfold World.entered
    dsimp only
    split
    · exact List.mem_cons_of_mem _ active
    · exact active
  | _ => exact absurd active gone

theorem respond_changes {world : World} {outside : Outside} {skew thread : Nat} {call : Call}
    (changed : (world.respond skew outside thread call).2.provider.installationId ≠ world.provider.installationId) :
    (world.respond skew outside thread call).2.provider.token = none := by
  have dropped {provider : Provider} (drops : Drops world.provider provider)
      (changed : provider.installationId ≠ world.provider.installationId) : provider.token = none := by
    rcases drops with rfl | ⟨-, none⟩
    · exact absurd rfl changed
    · exact none
  cases call with
  | record installation => exact dropped (drops_record installation) changed
  | invalidate expected => exact dropped (drops_invalidate expected) changed
  | discard value => exact dropped (drops_discard value) changed
  | request request =>
    refine absurd ?_ changed
    change (world.answered request outside.response).provider.installationId = _
    cases outside.response <;> rfl
  | enter deadline =>
    refine absurd ?_ changed
    exact (@entered_enter skew outside world.provider deadline).installation
  | keep token =>
    refine absurd ?_ changed
    change (world.provider.keep token).2.installationId = _
    rcases @keep_cases world.provider token with ⟨error, same⟩ | ⟨-, same⟩ <;> rw [same]
  | _ => exact absurd rfl changed

variable (platform config) in
/-- How tokens and installations belong together at any moment of a run. -/
structure Together (now : Config) : Prop where
  single : now.shared.active.length ≤ 1
  marked : now.shared.provider.refreshing = true ↔ now.shared.active ≠ []
  ends : ∀ thread, (now.threads thread).Uncut
  running : ∀ thread, thread ∈ now.shared.active → ∃ call rest, now.threads thread = .call call rest
  wakes : ∀ next, Step config.tokenRefreshSkew now next → ∀ thread, thread ∈ now.shared.active →
    thread ∉ next.shared.active → next.shared.provider.refreshing = false ∧ next.shared.waiting = []
  posts : ∀ thread request rest, now.threads thread = .call (.request request) rest → request.method = "POST" →
    thread ∈ now.shared.active
  cached : ∀ token, now.shared.provider.token = some token →
    now.shared.provider.installationId = some token.installationId ∧ Issued platform config now.shared.history token
  returned : ∀ thread value, now.threads thread = .ret (.token value) → ∃ token recorded cachedAt earlier,
    token.value = value ∧ .returned thread token recorded cachedAt :: earlier <:+ now.shared.history ∧
      Justified platform config earlier token recorded cachedAt
  forgets : ∀ next, Step config.tokenRefreshSkew now next →
    next.shared.provider.installationId ≠ now.shared.provider.installationId → next.shared.provider.token = none

/-- In every run a token is returned, or kept, for the installation that is recorded at that moment. -/
theorem installation_binding (reaches : Reaches config.tokenRefreshSkew (start platform config rounds asked) after) :
    Together platform config after := by
  have holds := reached_holds reaches
  have ended (thread : Nat) (result : Except Raised Reply) (there : after.threads thread = Program.liftExcept result) :
      Ended thread result after.shared := by
    have sat := holds.2 thread
    rw [there] at sat
    exact Program.sat_liftExcept.mp sat
  have uncut := reaches.uncut fun thread => uncut_program (rounds thread) (asked thread)
  refine ⟨?_, ?_, uncut, fun thread active => ?_, ?_, ?_, holds.1.cached, ?_, ?_⟩
  · rcases holds.1.single with ⟨none, -⟩ | ⟨thread, one, -⟩
    · simp [none]
    · simp [one]
  · rcases holds.1.single with ⟨none, mark⟩ | ⟨thread, one, mark⟩
    · simp [none, mark]
    · simp [one, mark]
  · cases there : after.threads thread with
    | ret reply => exact absurd active (ended thread (.ok reply) there).1
    | raise error => exact absurd active (ended thread (.error error) there).1
    | call call rest => exact ⟨call, rest, rfl⟩
    | cut =>
      have wrong := uncut thread
      rw [there] at wrong
      exact wrong.elim
  · rintro next step thread active gone
    cases step with
    | call running meets executed =>
      obtain ⟨outside, executed⟩ := executed
      have ends := @respond_ends _ outside _ _ _ _ active (by rwa [executed])
      rwa [executed] at ends
    | foreign moved => exact moved.elim
  · intro thread request rest there post
    exact holds.permitted there post
  · intro thread value there
    obtain ⟨token, recorded, cachedAt, same, member⟩ := (ended thread (.ok (.token value)) there).2 value rfl
    obtain ⟨later, earlier, split⟩ := List.append_of_mem member
    have suffix : .returned thread token recorded cachedAt :: earlier <:+ after.shared.history := ⟨later, split.symm⟩
    exact ⟨token, recorded, cachedAt, earlier, same, suffix, holds.1.justified _ _ _ _ _ suffix⟩
  · rintro next step changed
    cases step with
    | call running meets executed =>
      obtain ⟨outside, executed⟩ := executed
      have forgets := @respond_changes _ outside _ _ _ (by rwa [executed])
      rwa [executed] at forgets
    | foreign moved => exact moved.elim

end Runs

section Sample

def samplePlatform : TokenPlatform where
  casefold text := text
  quote text := text
  urlencode _ := ""
  retryMilliseconds _ := .ok none
  rstripSlash text := text
  isRepository _ := true
  violations _ := ""
  expiry _ := .time 1800003600000000
  exits _ := false

def sampleConfig : TokenConfig where
  owner := "octo"
  repository := "demo"
  authorizedBranchPrefix := "aep/execution/"
  baseBranch := "main"
  apiUrl := "https://api.github.com"
  appId := 11
  tokenRefreshSkew := 300000000

def sampleResponse : HttpResponse where
  status := 200
  headers := []
  body := .document (.obj [("id", .int 7), ("token", .str "secret"), ("expires_at", .str "2027-01-15T09:00:00Z")])

def sampleOutside (thread : Nat) : Outside where
  monotonic := .ok 0
  now := .ok 1800000000000000
  wait := .ok ()
  signature := .ok "jwt"
  response := if thread = 1 then .error (.timeout "timed out") else .ok sampleResponse

def sampleRespond (thread : Nat) (world : World) (call : Call) : call.Answer × World :=
  world.respond sampleConfig.tokenRefreshSkew (sampleOutside thread) thread call

def sampleAsked (thread : Nat) : Asked := if thread = 0 then .token 10000 else .readiness 10000

def sampleStart : Config := start samplePlatform sampleConfig (fun _ => 1) sampleAsked

/-- While a token is on its way, one check of the installation fails and another finds it again. -/
def sampleRun : Config := Machine.schedule sampleRespond [(0, 12), (1, 7), (2, 7), (0, 3)] sampleStart

theorem sampleRun_reaches : Reaches sampleConfig.tokenRefreshSkew sampleStart sampleRun := by
  have executed (thread : Nat) (world : World) (call : Call) : (machine sampleConfig.tokenRefreshSkew).exec thread world
      call (sampleRespond thread world call).1 (sampleRespond thread world call).2 := ⟨sampleOutside thread, rfl⟩
  exact Machine.reaches_schedule executed (fun _ _ _ => trivial) _ _

theorem installation_binding_sample :
    sampleRun.threads 0 = .ret (.token "secret") ∧ Together samplePlatform sampleConfig sampleRun := by
  refine ⟨?_, installation_binding sampleRun_reaches⟩
  have returned : (sampleRun.threads 0).value? = some (.token "secret") := by decide +kernel
  exact Program.eq_ret_of_value? returned

end Sample

end Aep.GithubTool.TokenProvider
