import Aep.ToolRuntime.World

namespace Aep.ToolRuntime

open RuntimeStore Machine.Discipline

section Facts

variable (platform : Platform) (tool : Tool) (invocationId : String) (calls : Nat → ToolCall) (i : Nat)

def Untouched (world : World) : Prop := ¬Mine invocationId calls i world ∧ i ∉ world.starts

def Bound (world : World) : Prop :=
  ∃ record, world.store.get invocationId = some record ∧
    record.field "requestFingerprint" = .str (requestFingerprint (calls i) platform tool)

def Own (world : World) : Prop := Mine invocationId calls i world ∧ i ∉ world.starts

def Seen (record : Record) (world : World) : Prop :=
  hasEnded record = true → world.store.get invocationId = some record ∧ ∃ result, Agrees tool result record

/-- What a call may return: the record of the invocation, and the result that it tells. -/
def Settled (returned : Returned) (world : World) : Prop :=
  world.store.get invocationId = some returned.2 ∧ hasEnded returned.2 = true ∧ Agrees tool returned.1 returned.2

def Prepared (call : ToolCall) : Prop :=
  call.request.correlation.taskExecutionId = some call.taskExecutionId ∧
    (tool = .git → call.request.input.get? "expectedRevision" ≠ none)

/-- What a call that has got to the store may raise: the conflict, where the record has another fingerprint. -/
def Refused (error : PyError) (world : World) : Prop :=
  Prepared tool (calls i) → invocationId ≠ "" → ∃ record, world.store.get invocationId = some record ∧
    (record.field "requestFingerprint" ≠ .str (requestFingerprint (calls i) platform tool) →
      error = identityConflict invocationId)

def Post (world : World) : Except PyError Returned → Prop
  | .ok returned => Bound platform tool invocationId calls i world ∧ Settled tool invocationId returned world
  | .error error => Refused platform tool invocationId calls i error world

end Facts

section Stable

variable {platform : Platform} {tool : Tool} {invocationId : String} {calls : Nat → ToolCall} {i : Nat}
  {before after : World} {record : Record}

theorem Untouched.rely (untouched : Untouched invocationId calls i before) (rely : Rely invocationId calls i before after) :
    Untouched invocationId calls i after :=
  ⟨fun mine => untouched.1 (rely.mine mine), fun started => untouched.2 (rely.starts started)⟩

theorem Bound.rely {j : Nat} (bound : Bound platform tool invocationId calls i before)
    (rely : Rely invocationId calls j before after) : Bound platform tool invocationId calls i after := by
  obtain ⟨record, found, fingerprint⟩ := bound
  obtain ⟨later, there, same, -, -⟩ := rely.records record found
  exact ⟨later, there, same.trans fingerprint⟩

theorem Own.rely (own : Own invocationId calls i before) (rely : Rely invocationId calls i before after) :
    Own invocationId calls i after := by
  obtain ⟨⟨record, found, token⟩, unstarted⟩ := own
  obtain ⟨later, there, -, same, -⟩ := rely.records record found
  exact ⟨⟨later, there, same.trans token⟩, fun started => unstarted (rely.starts started)⟩

theorem Settled.rely {returned : Returned} (settled : Settled tool invocationId returned before)
    (rely : Rely invocationId calls i before after) : Settled tool invocationId returned after := by
  obtain ⟨found, ended, agrees⟩ := settled
  obtain ⟨later, there, -, -, same⟩ := rely.records _ found
  obtain rfl := same ended
  exact ⟨there, ended, agrees⟩

theorem Refused.rely {error : PyError} (refused : Refused platform tool invocationId calls i error before)
    (rely : Rely invocationId calls i before after) : Refused platform tool invocationId calls i error after := by
  intro prepared named
  obtain ⟨record, found, conflict⟩ := refused prepared named
  obtain ⟨later, there, same, -, -⟩ := rely.records record found
  exact ⟨later, there, fun other => conflict (same ▸ other)⟩

theorem Bound.refused {error : PyError} (bound : Bound platform tool invocationId calls i before) :
    Refused platform tool invocationId calls i error before := by
  intro _ _
  obtain ⟨record, found, fingerprint⟩ := bound
  exact ⟨record, found, fun other => absurd fingerprint other⟩

variable {distinct : Distinct calls}

theorem post_stable (i : Nat) :
    (discipline platform tool invocationId distinct).Stable i (Post platform tool invocationId calls i) := by
  intro before after result ended rely
  cases result with
  | ok returned => exact ⟨ended.1.rely rely, ended.2.rely rely⟩
  | error error => exact Refused.rely ended rely

theorem persistent_bound : (discipline platform tool invocationId distinct).Persistent i
    (Bound platform tool invocationId calls i) := by
  refine ⟨fun bound rely => Bound.rely bound rely, fun inv permitted executed bound => ?_⟩
  exact bound.rely ((inv_exec distinct inv permitted executed).2 (i + 1) (by omega))

end Stable

def Harmless : Effect → Prop
  | .start _ | .create _ _ | .updateStatus _ _ _ _ => False
  | _ => True

section Programs

variable (platform : Platform) (tool : Tool)

theorem only_ask {effect : Effect} (harmless : Harmless effect) : (ask effect).Only Harmless :=
  ⟨harmless, fun _ => trivial⟩

theorem only_failure (startedAt : Stamp) (startedClock : ℚ) {status : ToolResultStatus} (unsuccessful : status ≠ .succeeded)
    (classification : ToolFailureClass) (message : String) :
    (failure startedAt startedClock status unsuccessful classification message).Only Harmless :=
  Program.only_bind (only_ask trivial) fun _ => Program.only_bind (only_ask trivial) fun _ => trivial

theorem only_stop : stop.Only Harmless := by
  refine Program.only_bind (only_ask trivial) fun answer => ?_
  rcases answer with raised | _
  · trivial
  · refine Program.only_bind (only_ask trivial) fun waited => ?_
    rcases waited with raised | _ | _ | _
    · trivial
    · exact only_ask trivial
    · trivial
    · trivial

theorem only_normalized (request : ToolRequest) (startedAt : Stamp) (startedClock : ℚ) :
    (normalized platform tool request startedAt startedClock).Only Harmless := by
  refine Program.only_bind (only_ask trivial) fun waited => ?_
  rcases waited with raised | _ | result | typeName
  · exact only_failure _ _ _ _ _
  · refine Program.only_bind only_stop fun stopped => ?_
    rcases stopped with raised | _
    · exact only_failure _ _ _ _ _
    · exact only_failure _ _ _ _ _
  · simp only
    split
    · refine Program.only_bind only_stop fun stopped => ?_
      rcases stopped with raised | _
      · exact only_failure _ _ _ _ _
      · trivial
    · split
      · trivial
      · exact only_failure _ _ _ _ _
    · trivial
  · exact only_failure _ _ _ _ _

theorem only_unexpectedFailure (startedAt : Stamp) (failureClass : ToolFailureClass) (raised : Raised) :
    (unexpectedFailure startedAt failureClass raised).Only Harmless :=
  Program.only_bind (only_ask trivial) fun _ => trivial

end Programs

section Triples

variable {platform : Platform} {tool : Tool} {invocationId : String} {calls : Nat → ToolCall} {distinct : Distinct calls}
  {i : Nat} {fact : World → Prop}

theorem triple_harmless {α : Type} {program : Prog α} (only : program.Only Harmless)
    (stable : ∀ s t, fact s → Rely invocationId calls i s t → fact t) :
    (discipline platform tool invocationId distinct).Triple i fact program fun _ => fact := by
  refine triple_only stable (fun world effect harmless _ => ?_)
    (fun world effect answer after harmless _ executed known => ?_) only
  · cases effect <;> trivial
  · cases executed <;> first | exact known | cases harmless

theorem only_execution (request : ToolRequest) (startedAt : Stamp) (startedClock : ℚ) :
    (do
      let result ← normalized platform tool request startedAt startedClock
      match ← ask .cleanup with
      | .error raised => return .ok (result.uncleaned raised)
      | .ok () => return .ok result : Prog (Except Raised ToolResult)).Only Harmless := by
  refine Program.only_bind (only_normalized platform tool request startedAt startedClock) fun result => ?_
  refine Program.only_bind (only_ask trivial) fun cleaned => ?_
  rcases cleaned with raised | _ <;> trivial

theorem only_map {α β : Type} {program : Prog α} (only : program.Only Harmless) (convert : α → β) :
    (convert <$> program).Only Harmless :=
  Program.only_bind only fun _ => trivial

theorem keeps_invokeTool (request : ToolRequest) {authorize : Prog (Except Raised Bool)}
    (only : authorize.Only Harmless) : (discipline platform tool invocationId distinct).Keeps i
      (Own invocationId calls i) (invokeTool platform tool request authorize) := by
  have harmless : ∀ {α : Type} {program : Prog α}, program.Only Harmless →
      (discipline platform tool invocationId distinct).Keeps i (fun _ => True) program :=
    fun only => (triple_harmless only fun _ _ _ _ => trivial).keeps
  have own : ∀ {α : Type} {program : Prog α}, program.Only Harmless →
      (discipline platform tool invocationId distinct).Triple i (Own invocationId calls i) program
        fun _ => Own invocationId calls i :=
    fun only => triple_harmless only fun _ _ known rely => known.rely rely
  refine Triple.bind (own (only_ask trivial)) (fun startedAt => ?_) fun _ _ _ => trivial
  refine Triple.bind (own (only_ask trivial)) (fun startedClock => ?_) fun _ _ _ => trivial
  simp only
  split
  · refine Triple.bind (own only) (fun verdict => ?_) fun _ _ _ => trivial
    rcases verdict with raised | _ | _
    · exact keeps_ret
    · exact (harmless (only_map (only_failure _ _ _ _ _) _)).mono fun _ _ => trivial
    · refine triple_call (fun _ _ => True) (fun _ _ known rely => known.rely rely) (fun _ _ known => known)
        (fun _ _ _ _ _ _ _ => trivial) fun started => ?_
      rcases started with raised | _
      · exact harmless (only_map (only_failure _ _ _ _ _) _)
      · exact harmless (only_execution request startedAt startedClock)
  · exact (harmless (only_map (only_failure _ _ _ _ _) _)).mono fun _ _ => trivial

theorem keeps_ownResult (call : ToolCall) (startedAt : Stamp) {authorize : Prog (Except Raised Bool)}
    (only : authorize.Only Harmless) : (discipline platform tool invocationId distinct).Keeps i
      (Own invocationId calls i) (ownResult platform tool call startedAt authorize) := by
  refine Triple.bind (keeps_invokeTool call.request only) (fun outcome => ?_) fun _ _ _ => trivial
  rcases outcome with raised | result
  · exact (triple_harmless (only_unexpectedFailure startedAt .adapter raised) fun _ _ _ _ => trivial).keeps
  · exact keeps_ret

def Ends (platform : Platform) (tool : Tool) (invocationId : String) (calls : Nat → ToolCall) (i : Nat)
    (result : Except PyError Returned) (world : World) : Prop :=
  Bound platform tool invocationId calls i world ∧
    ∀ returned, result = .ok returned → Settled tool invocationId returned world

theorem Ends.post {result : Except PyError Returned} {world : World}
    (ends : Ends platform tool invocationId calls i result world) : Post platform tool invocationId calls i world result := by
  cases result with
  | ok returned => exact ⟨ends.1, ends.2 returned rfl⟩
  | error error => exact ends.1.refused

theorem triple_raised {error : PyError} : (discipline platform tool invocationId distinct).Triple i
    (Bound platform tool invocationId calls i) (.raise error) (Ends platform tool invocationId calls i) :=
  triple_raise fun _ bound => ⟨bound, fun _ wrong => by cases wrong⟩

theorem triple_replayed {prior : Record} (ended : hasEnded prior = true) :
    (discipline platform tool invocationId distinct).Triple i
      (fun world => Bound platform tool invocationId calls i world ∧ Seen tool invocationId prior world)
      (replayed tool prior) (Ends platform tool invocationId calls i) := by
  unfold replayed
  cases read : tool.resultFromInvocation prior with
  | error error => exact triple_raised.mono (fun _ known => known.1) fun _ _ ends => ends
  | ok result =>
    refine triple_ret fun world ⟨bound, seen⟩ => ⟨bound, fun returned same => ?_⟩
    cases same
    obtain ⟨there, written, agrees⟩ := seen ended
    exact ⟨there, ended, agrees.read read⟩

theorem triple_get {α : Type} {rest : Option Record → Prog α} {post : Except PyError α → World → Prop}
    (next : ∀ answer, (discipline platform tool invocationId distinct).Triple i
      (fun world => Bound platform tool invocationId calls i world ∧
        ∀ prior ∈ answer, Seen tool invocationId prior world) (rest answer) post) :
    (discipline platform tool invocationId distinct).Triple i (Bound platform tool invocationId calls i)
      (ask (.get invocationId) >>= rest) post := by
  refine triple_call _ (fun _ _ bound rely => Bound.rely bound rely) (fun _ _ _ => trivial)
    (fun world answer after inv bound executed _ => ?_) next
  cases executed
  refine ⟨bound, fun prior found ended => ⟨found, ?_⟩⟩
  obtain ⟨-, maker, recorded⟩ := inv.recorded prior found
  exact recorded.agrees ended

theorem triple_poll (deadline : ℚ) (rounds : Nat) :
    (discipline platform tool invocationId distinct).Triple i (Bound platform tool invocationId calls i)
      (poll tool invocationId deadline rounds) fun result world => Bound platform tool invocationId calls i world ∧
        ∀ returned, result = .ok (some returned) → Settled tool invocationId returned world := by
  induction rounds with
  | zero => exact triple_cut
  | succ rounds ih =>
    have bound : ∀ s t, Bound platform tool invocationId calls i s → Rely invocationId calls i s t →
        Bound platform tool invocationId calls i t := fun _ _ known rely => known.rely rely
    refine Triple.bind (triple_harmless (only_ask trivial) bound) (fun now => ?_)
      fun error world known => ⟨known, fun _ wrong => by cases wrong⟩
    split
    · refine triple_get fun answer => ?_
      cases answer with
      | none => exact ih.mono (fun _ known => known.1) fun _ _ ends => ends
      | some prior =>
        simp only
        split
        · rename_i ended
          refine Triple.bind ((triple_replayed ended).mono (fun _ known => ⟨known.1, known.2 prior rfl⟩)
            fun _ _ ends => ends) (fun found => ?_) fun error world ends => ⟨ends.1, fun _ wrong => by cases wrong⟩
          refine triple_ret fun world ends => ⟨ends.1, fun returned same => ?_⟩
          cases same
          exact ends.2 found rfl
        · exact ih.mono (fun _ known => known.1) fun _ _ ends => ends
    · exact triple_ret fun world known => ⟨known, fun _ wrong => by cases wrong⟩

theorem triple_awaitTerminal (waitSeconds : ℚ) (rounds : Nat) :
    (discipline platform tool invocationId distinct).Triple i (Bound platform tool invocationId calls i)
      (awaitTerminal tool invocationId waitSeconds rounds) (Ends platform tool invocationId calls i) := by
  refine Triple.bind (triple_harmless (only_ask trivial) fun _ _ known rely => known.rely rely) (fun now => ?_)
    fun error world known => ⟨known, fun _ wrong => by cases wrong⟩
  refine Triple.bind (triple_poll _ rounds) (fun found => ?_) fun error world ends => ⟨ends.1, fun _ wrong => by cases wrong⟩
  cases found with
  | none => exact triple_raised.mono (fun _ known => known.1) fun _ _ ends => ends
  | some returned =>
    refine triple_ret fun world ends => ⟨ends.1, fun other same => ?_⟩
    cases same
    exact ends.2 returned rfl

theorem triple_update {result : ToolResult} {changes : Record} {status updatedAt : String}
    {rest : Except PyError Record → Prog Returned} (changed : Changed tool result changes)
    (terminal : status = "SUCCEEDED" ∨ status = "FAILED")
    (next : ∀ answer, (discipline platform tool invocationId distinct).Triple i
      (fun world => Bound platform tool invocationId calls i world ∧
        ∀ persisted, answer = .ok persisted → Settled tool invocationId (result, persisted) world)
      (rest answer) (Ends platform tool invocationId calls i)) :
    (discipline platform tool invocationId distinct).Triple i (Bound platform tool invocationId calls i)
      (ask (.updateStatus invocationId status updatedAt changes) >>= rest) (Ends platform tool invocationId calls i) := by
  refine triple_call _ (fun _ _ bound rely => Bound.rely bound rely) (fun _ _ _ => ⟨rfl, terminal, result, changed⟩)
    (fun world answer after inv bound executed _ => ?_) next
  have permitted : Permitted platform tool invocationId calls i world (.updateStatus invocationId status updatedAt changes) :=
    ⟨rfl, terminal, result, changed⟩
  refine ⟨bound.rely ((inv_exec distinct inv permitted executed).2 (i + 1) (by omega)), ?_⟩
  cases executed with
  | failed | lost => exact fun _ wrong => by cases wrong
  | updateStatus _ _ _ clock =>
    intro persisted answered
    rcases update_step live_pending invocationId status updatedAt clock changes world.store with
      ⟨-, error, raised⟩ | ⟨record, now, found, live, -, returned, put⟩
    · cases raised.symm.trans answered
    · have same : withStatus record changes status now = persisted := Except.ok.inj (returned.symm.trans answered)
      subst same
      obtain ⟨-, maker, recorded⟩ := inv.recorded record found
      refine ⟨?_, hasEnded_withStatus terminal, ?_⟩
      · change Store.get (RuntimeStore.updateStatus _ _ _ _ _ _ _).2 _ = _
        rw [put, Store.get_put, if_pos rfl]
      · cases recorded with
        | pending made =>
          obtain ⟨-, timestamp, made⟩ := made
          exact agrees_written made changed _ _
        | ended made changed terminal now =>
          rw [withStatus_status] at live
          rcases terminal with rfl | rfl <;> exact absurd live (by decide)

theorem terminalStatus_cases (result : ToolResult) :
    terminalStatus result = "SUCCEEDED" ∨ terminalStatus result = "FAILED" := by
  unfold terminalStatus
  split
  · exact .inl rfl
  · exact .inr rfl

def Started (platform : Platform) (tool : Tool) (invocationId : String) (calls : Nat → ToolCall) (i : Nat) (world : World) :
    Except PyError Begun → Prop
  | .ok (.owner _) => Bound platform tool invocationId calls i world ∧ Own invocationId calls i world
  | .ok (.other created) => Bound platform tool invocationId calls i world ∧ Seen tool invocationId created world
  | .error error => Refused platform tool invocationId calls i error world

structure Created (platform : Platform) (tool : Tool) (invocationId : String) (calls : Nat → ToolCall) (i : Nat)
    (created : Record) (world : World) : Prop where
  there : ∃ later, world.store.get invocationId = some later ∧
    later.field "requestFingerprint" = created.field "requestFingerprint"
  seen : Seen tool invocationId created world
  own : created.field "ownerToken" = .str (calls i).ownerToken → Own invocationId calls i world

theorem valid_pending {record : Record} (made : Pending platform tool invocationId calls i record)
    (named : invocationId ≠ "") : ValidObject record := by
  obtain ⟨-, timestamp, made⟩ := made
  have kind : record.field "kind" = .str "ToolInvocation" := pending_told made (by decide) (by decide) fun _ => rfl
  unfold ValidObject copyAndValidate
  simp only [Json.asRecord?, pending_id made, kind, if_neg named]
  rfl

theorem key_ne_empty (tool : Tool) (invocationId : String) : tool.key invocationId ≠ "" := by
  intro empty
  cases tool <;> exact absurd (String.append_eq_empty_iff.mp empty).1 (by decide)

theorem created_exec {world : World} (inv : Inv platform tool invocationId calls world)
    (untouched : Untouched invocationId calls i world) {record : Record}
    (made : Pending platform tool invocationId calls i record) :
    let ran := RuntimeStore.create (.obj record) (tool.key invocationId) world.store
    (∀ created, ran.1 = .ok created →
        Created platform tool invocationId calls i created { world with store := ran.2 }) ∧
      (invocationId ≠ "" → ∃ created, ran.1 = .ok created) := by
  intro ran
  refine ⟨fun created answered => ?_, fun named => ?_⟩
  · rcases create_step record (tool.key invocationId) world.store with ⟨same, found⟩ | ⟨answer, added, -, -⟩
    · obtain ⟨id, keyed, there⟩ := found created answered
      obtain rfl := (inv.keyed id keyed).1
      obtain ⟨-, maker, recorded⟩ := inv.recorded created there
      have there : ran.2.get id = some created := (congrArg (·.get id) same).trans there
      refine ⟨⟨created, there, rfl⟩, fun ended => ⟨there, recorded.agrees ended⟩, fun own => ?_⟩
      exact absurd ⟨created, (congrArg (·.get id) same).symm.trans there, own⟩ untouched.1
    · obtain rfl := Except.ok.inj (answer.symm.trans answered)
      have there : ran.2.get invocationId = some record := by
        rw [added.get, if_pos (objectId_pending made)]
      refine ⟨⟨record, there, rfl⟩, fun ended => ?_, fun own => ⟨⟨record, there, own⟩, untouched.2⟩⟩
      rw [made.unended] at ended
      cases ended
  · refine create_succeeds (valid_pending made named) (key_ne_empty tool invocationId) ?_
    cases keyed : world.store.deterministicKeys.get? (tool.key invocationId) with
    | some id =>
      obtain ⟨rfl, saved, found⟩ := inv.keyed id keyed
      exact .inl ⟨id, saved, rfl, found⟩
    | none =>
      refine .inr ⟨rfl, ?_⟩
      rw [objectId_pending made]
      by_contra present
      obtain ⟨saved, found⟩ := Option.ne_none_iff_exists'.mp present
      rw [(inv.recorded saved found).1] at keyed
      cases keyed

theorem bindCorrelation_task {context bound : WorkflowScheduler.CorrelationContext} {taskExecutionId : String}
    {provenance : Record} (agreed : WorkflowScheduler.bindCorrelation context taskExecutionId provenance = .ok bound) :
    context.taskExecutionId = some taskExecutionId := by
  unfold WorkflowScheduler.bindCorrelation at agreed
  split at agreed
  · cases agreed
  · rename_i same
    exact not_not.mp same

theorem triple_begun : (discipline platform tool invocationId distinct).Triple i (Untouched invocationId calls i)
    (begun platform tool invocationId (calls i))
    fun result world => Started platform tool invocationId calls i world result := by
  unfold begun
  refine triple_lift_bind (fun error bound world _ prepared => ?_) fun context agreed => ?_
  · unfold WorkflowScheduler.bindCorrelation at bound
    simp [prepared.1, Dict.field] at bound
  refine triple_call (fun _ => Untouched invocationId calls i) (fun _ _ known rely => known.rely rely)
    (fun _ _ _ => trivial) (fun world answer after inv known executed _ => by cases executed; exact known)
    fun startedAt => triple_lift_bind (fun error made world _ prepared => ?_) fun pending made => ?_
  · cases tool with
    | git =>
      simp only [Tool.pendingRecord, gitPendingRecord] at made
      split at made
      · rename_i missing
        exact absurd missing (prepared.2 rfl)
      · cases made
    | filesystem | docker => cases made
  have made : Pending platform tool invocationId calls i pending := ⟨bindCorrelation_task agreed, _, made⟩
  refine triple_call (fun answer world => (∀ created, answer = .ok created →
      Created platform tool invocationId calls i created world) ∧ (invocationId ≠ "" → ∃ created, answer = .ok created))
    (fun _ _ known rely => known.rely rely) (fun _ _ _ => ⟨made, rfl⟩)
    (fun world answer after inv untouched executed _ => ?_) fun answer =>
      triple_lift_bind (fun error raised world known _ named => ?_) fun created answered => ?_
  · cases executed
    exact created_exec inv untouched made
  · obtain ⟨created, found⟩ := known.2 named
    cases raised.symm.trans found
  · split
    · rename_i other
      refine triple_raise fun world known _ _ => ?_
      obtain ⟨later, there, same⟩ := (known.1 created answered).there
      exact ⟨later, there, fun _ => rfl⟩
    · rename_i same
      have fingerprint := not_not.mp same
      have bound : ∀ world, Created platform tool invocationId calls i created world →
          Bound platform tool invocationId calls i world := by
        intro world known
        obtain ⟨later, there, kept⟩ := known.there
        exact ⟨later, there, kept.trans fingerprint⟩
      split
      · exact triple_ret fun world known =>
          ⟨bound world (known.1 created answered), (known.1 created answered).seen⟩
      · rename_i own
        exact triple_ret fun world known =>
          ⟨bound world (known.1 created answered), (known.1 created answered).own (not_not.mp own)⟩

theorem triple_of_begun {rest : Begun → Prog Returned}
    (owner : ∀ startedAt, (discipline platform tool invocationId distinct).Triple i
      (fun world => Bound platform tool invocationId calls i world ∧ Own invocationId calls i world)
      (rest (.owner startedAt)) (Ends platform tool invocationId calls i))
    (other : ∀ created, (discipline platform tool invocationId distinct).Triple i
      (fun world => Bound platform tool invocationId calls i world ∧ Seen tool invocationId created world)
      (rest (.other created)) (Ends platform tool invocationId calls i)) :
    (discipline platform tool invocationId distinct).Triple i (Untouched invocationId calls i)
      (begun platform tool invocationId (calls i) >>= rest)
      fun result world => Post platform tool invocationId calls i world result := by
  refine Triple.bind triple_begun (fun started => ?_) fun error world refused => refused
  cases started with
  | owner startedAt => exact (owner startedAt).mono (fun _ known => known) fun _ _ ends => ends.post
  | other created => exact (other created).mono (fun _ known => known) fun _ _ ends => ends.post

theorem triple_ownResult (startedAt : Stamp) {authorize : Prog (Except Raised Bool)} (only : authorize.Only Harmless) :
    (discipline platform tool invocationId distinct).Triple i
      (fun world => Bound platform tool invocationId calls i world ∧ Own invocationId calls i world)
      (ownResult platform tool (calls i) startedAt authorize) fun _ => Bound platform tool invocationId calls i :=
  (Triple.frame persistent_bound (keeps_ownResult (calls i) startedAt only)).mono (fun _ known => known)
    fun _ _ ended => ended.1

theorem triple_git (rounds : Nat) : (discipline platform .git invocationId distinct).Triple i
    (Untouched invocationId calls i) (GitTool.invoke platform invocationId (calls i) rounds)
    fun result world => Post platform .git invocationId calls i world result := by
  refine triple_of_begun (fun startedAt => ?_) fun created => ?_
  · refine Triple.bind (triple_ownResult startedAt (only_ask trivial)) (fun result => ?_)
      fun error world bound => ⟨bound, fun _ wrong => by cases wrong⟩
    refine triple_lift_bind (fun error _ world bound => ⟨bound, fun _ wrong => by cases wrong⟩) fun changes changed => ?_
    refine triple_update (terminalChanges_ok changed) (terminalStatus_cases result) fun answer => ?_
    refine triple_lift_bind (fun error _ world known => ⟨known.1, fun _ wrong => by cases wrong⟩) fun persisted answered => ?_
    refine triple_ret fun world known => ⟨known.1, fun returned same => ?_⟩
    cases same
    exact known.2 persisted answered
  · dsimp only
    split
    · rename_i ended
      exact triple_replayed ended
    · exact (triple_awaitTerminal _ rounds).mono (fun _ known => known.1) fun _ _ ends => ends

theorem triple_reread (error : PyError) : (discipline platform .docker invocationId distinct).Triple i
    (Bound platform .docker invocationId calls i) (DockerValidationTool.reread invocationId error)
    (Ends platform .docker invocationId calls i) := by
  unfold DockerValidationTool.reread
  split
  · refine triple_get fun answer => ?_
    cases answer with
    | none => exact triple_raised.mono (fun _ known => known.1) fun _ _ ends => ends
    | some prior =>
      simp only
      split
      · rename_i ended
        exact (triple_replayed ended).mono (fun _ known => ⟨known.1, known.2 prior rfl⟩) fun _ _ ends => ends
      · exact triple_raised.mono (fun _ known => known.1) fun _ _ ends => ends
  · exact triple_raised

theorem triple_persist (result : ToolResult) : (discipline platform .docker invocationId distinct).Triple i
    (Bound platform .docker invocationId calls i) (DockerValidationTool.persist invocationId result)
    (Ends platform .docker invocationId calls i) := by
  refine triple_lift_bind (fun error _ world bound => ⟨bound, fun _ wrong => by cases wrong⟩) fun changes changed => ?_
  refine triple_update (terminalChanges_ok changed) (terminalStatus_cases result) fun answer => ?_
  cases answer with
  | error error => exact (triple_reread error).mono (fun _ known => known.1) fun _ _ ends => ends
  | ok persisted =>
    refine triple_ret fun world known => ⟨known.1, fun returned same => ?_⟩
    cases same
    exact known.2 persisted rfl

theorem triple_docker (grace : DockerValidationTool.Grace) (rounds : Nat) :
    (discipline platform .docker invocationId distinct).Triple i (Untouched invocationId calls i)
      (DockerValidationTool.invoke platform grace invocationId (calls i) rounds)
      fun result world => Post platform .docker invocationId calls i world result := by
  have bound : ∀ s t, Bound platform .docker invocationId calls i s → Rely invocationId calls i s t →
      Bound platform .docker invocationId calls i t := fun _ _ known rely => known.rely rely
  have raised : ∀ (error : PyError) world, Bound platform .docker invocationId calls i world →
      Ends platform .docker invocationId calls i (.error error) world :=
    fun error world known => ⟨known, fun _ wrong => by cases wrong⟩
  refine triple_of_begun (fun startedAt => ?_) fun created => ?_
  · exact Triple.bind (triple_ownResult startedAt (only_ask trivial)) triple_persist raised
  · dsimp only
    split
    · rename_i ended
      exact triple_replayed ended
    · refine Triple.mono ?_ (fun _ known => known.1) fun _ _ ends => ends
      refine Triple.bind (triple_harmless (only_ask trivial) bound) (fun now => ?_) raised
      refine Triple.bind (triple_poll _ rounds) (fun found => ?_) fun error world ends => raised error world ends.1
      cases found with
      | some returned =>
        refine triple_ret fun world ends => ⟨ends.1, fun other same => ?_⟩
        cases same
        exact ends.2 returned rfl
      | none =>
        refine Triple.mono ?_ (fun _ known => known.1) fun _ _ ends => ends
        refine triple_get fun prior => Triple.mono ?_ (fun _ known => known.1) fun _ _ ends => ends
        refine Triple.bind (triple_harmless (only_ask trivial) bound) (fun timestamp => ?_) raised
        exact triple_lift_bind (fun error _ => raised error) fun result _ => triple_persist result

theorem only_authorization (call : ToolCall) (startedAt : Stamp) :
    (FilesystemTool.authorization platform call startedAt).Only Harmless := by
  unfold FilesystemTool.authorization
  split
  · refine Program.only_bind (only_ask trivial) fun verdict => ?_
    rcases verdict with raised | authorized
    · exact only_map (only_unexpectedFailure _ _ _) _
    · trivial
  · trivial

theorem only_preimage (call : ToolCall) (startedAt : Stamp) (authorized : FilesystemTool.Authorized) :
    (FilesystemTool.preimage call startedAt authorized).Only Harmless := by
  unfold FilesystemTool.preimage
  split
  · refine Program.only_bind (only_ask trivial) fun captured => ?_
    rcases captured with restorable | raised | raised | error
    · trivial
    · exact only_map (only_unexpectedFailure _ _ _) _
    · exact only_map (only_unexpectedFailure _ _ _) _
    · trivial
  · trivial

theorem triple_executed (startedAt : Stamp) (authorized : FilesystemTool.Authorized) (before : FilesystemTool.Preimage) :
    (discipline platform .filesystem invocationId distinct).Triple i
      (fun world => Bound platform .filesystem invocationId calls i world ∧ Own invocationId calls i world)
      (FilesystemTool.executed platform (calls i) startedAt authorized before)
      fun _ => Bound platform .filesystem invocationId calls i := by
  unfold FilesystemTool.executed
  split
  · exact triple_ret fun _ known => known.1
  · exact triple_ret fun _ known => known.1
  · exact triple_ownResult startedAt (only_ask trivial)
  · exact triple_ownResult startedAt trivial

theorem triple_unpersisted (call : ToolCall) (result : ToolResult) (error : PyError) (before : FilesystemTool.Preimage) :
    (discipline platform .filesystem invocationId distinct).Triple i (Bound platform .filesystem invocationId calls i)
      (FilesystemTool.unpersisted call result error before) (Ends platform .filesystem invocationId calls i) := by
  unfold FilesystemTool.unpersisted
  split
  · split
    · refine Triple.bind (triple_harmless (only_ask trivial) fun _ _ known rely => known.rely rely) (fun restored => ?_)
        fun error world bound => ⟨bound, fun _ wrong => by cases wrong⟩
      exact triple_lift_bind (fun error _ world bound => ⟨bound, fun _ wrong => by cases wrong⟩) fun _ _ => triple_raised
    · exact triple_raised
  · exact triple_raised

theorem triple_filesystem (rounds : Nat) : (discipline platform .filesystem invocationId distinct).Triple i
    (Untouched invocationId calls i) (FilesystemTool.invoke platform invocationId (calls i) rounds)
    fun result world => Post platform .filesystem invocationId calls i world result := by
  have known : ∀ s t, Bound platform .filesystem invocationId calls i s ∧ Own invocationId calls i s →
      Rely invocationId calls i s t → Bound platform .filesystem invocationId calls i t ∧ Own invocationId calls i t :=
    fun _ _ held rely => ⟨held.1.rely rely, held.2.rely rely⟩
  have raised : ∀ (error : PyError) world, Bound platform .filesystem invocationId calls i world →
      Ends platform .filesystem invocationId calls i (.error error) world :=
    fun error world bound => ⟨bound, fun _ wrong => by cases wrong⟩
  refine triple_of_begun (fun startedAt => ?_) fun created => ?_
  · refine Triple.bind (triple_harmless (only_authorization (calls i) startedAt) known) (fun authorized => ?_)
      fun error world held => raised error world held.1
    refine Triple.bind (triple_harmless (only_preimage (calls i) startedAt authorized) known) (fun before => ?_)
      fun error world held => raised error world held.1
    refine Triple.bind (triple_executed startedAt authorized before) (fun result => ?_) raised
    split
    · exact triple_unpersisted (calls i) result _ before
    · rename_i changes changed
      refine triple_update (terminalChanges_ok changed) (terminalStatus_cases result) fun answer => ?_
      cases answer with
      | error error =>
        exact (triple_unpersisted (calls i) result error before).mono (fun _ known => known.1) fun _ _ ends => ends
      | ok persisted =>
        refine triple_ret fun world known => ⟨known.1, fun returned same => ?_⟩
        cases same
        exact known.2 persisted rfl
  · dsimp only
    split
    · rename_i ended
      exact triple_replayed ended
    · exact (triple_awaitTerminal _ rounds).mono (fun _ known => known.1) fun _ _ ends => ends

theorem triple_invoke (grace : DockerValidationTool.Grace) (rounds : Nat) :
    (discipline platform tool invocationId distinct).Triple i (Untouched invocationId calls i)
      (tool.invoke platform grace invocationId (calls i) rounds)
      fun result world => Post platform tool invocationId calls i world result := by
  cases tool with
  | git => exact triple_git rounds
  | filesystem => exact triple_filesystem rounds
  | docker => exact triple_docker grace rounds

end Triples

end Aep.ToolRuntime
