import Aep.RuntimeStore.Immutability
import Aep.ToolRuntime.Tools

namespace Aep.ToolRuntime

open RuntimeStore

section Reading

theorem resultStatus_read {value : Json} {status : ToolResultStatus} (read : ToolResultStatus.read value = .ok status) :
    value = .str status.value := by
  unfold ToolResultStatus.read at read
  split at read
  · rename_i found
    cases read
    have same := List.find?_some found
    exact (of_decide_eq_true same).symm
  · cases read

theorem failureClass_read {value : Json} {failure : ToolFailureClass} (read : ToolFailureClass.read value = .ok failure) :
    value = .str failure.value := by
  unfold ToolFailureClass.read at read
  split at read
  · rename_i found
    cases read
    have same := List.find?_some found
    exact (of_decide_eq_true same).symm
  · cases read

theorem create_ok {status : ToolResultStatus} {output : Json} {logsRef : Option String} {metrics : ToolMetrics}
    {startedAt completedAt : String} {failureClass : Option ToolFailureClass} {failureMessage : Option String}
    {result : ToolResult} (created : ToolResult.create status output logsRef metrics startedAt completedAt failureClass
      failureMessage = .ok result) :
    result.status = status ∧ result.output = output ∧ result.logsRef = logsRef ∧ result.failureClass = failureClass := by
  unfold ToolResult.create at created
  split at created
  · split at created
    · split at created
      · cases created
        exact ⟨rfl, rfl, rfl, rfl⟩
      · split at created <;> cases created
    · cases created
  · cases created

end Reading

section Agreement

/-- The record keeps the status, the output, the failure class and the logs of the result. -/
structure Agrees (tool : Tool) (result : ToolResult) (record : Record) : Prop where
  status : record.field "resultStatus" = .str result.status.value
  output : record.field "output" = result.output
  failure : record.field "failureClass" = optionalText (result.failureClass.map (·.value))
  logs : result.logsRef = (tool.logs record).asString?

variable {tool : Tool} {record : Record} {written result : ToolResult}

theorem resultFrom_ok {unclassified : Json → Bool} {logs : Record → Json}
    (read : resultFrom unclassified logs record = .ok result) :
    record.field "resultStatus" = .str result.status.value ∧ record.field "output" = result.output ∧
      result.logsRef = (logs record).asString? ∧
      (unclassified (record.field "failureClass") = true ∧ result.failureClass = none ∨
        ∃ failure, record.field "failureClass" = .str failure.value ∧ result.failureClass = some failure) := by
  simp only [resultFrom, Result.bind_eq_ok] at read
  obtain ⟨status, statusRead, metrics, -, startedAt, -, completedAt, -, classified, classRead, created⟩ := read
  obtain ⟨rfl, outputs, logged, rfl⟩ := create_ok created
  refine ⟨?_, outputs.symm, logged, ?_⟩
  · unfold invocationStatus at statusRead
    split at statusRead
    · rename_i value found
      rw [Dict.field_of_get? found]
      exact resultStatus_read statusRead
    · cases statusRead
  · unfold invocationFailureClass at classRead
    split at classRead
    · rename_i none
      exact .inl ⟨none, (Except.ok.inj classRead).symm⟩
    · obtain ⟨failure, found, same⟩ := Result.map_eq_ok.mp classRead
      exact .inr ⟨failure, failureClass_read found, same.symm⟩

theorem unclassified_text (failure : ToolFailureClass) : falsy (.str failure.value) = false := by
  cases failure <;> rfl

theorem Agrees.read (agrees : Agrees tool written record) (read : tool.resultFromInvocation record = .ok result) :
    Agrees tool result record := by
  have told : ∃ unclassified, resultFrom unclassified tool.logs record = .ok result ∧
      unclassified .null = true ∧ ∀ failure : ToolFailureClass, unclassified (.str failure.value) = false := by
    cases tool with
    | git => exact ⟨falsy, read, rfl, unclassified_text⟩
    | filesystem | docker => exact ⟨(decide <| · = .null), read, rfl, fun _ => rfl⟩
  obtain ⟨unclassified, found, null, text⟩ := told
  obtain ⟨status, output, logs, failures⟩ := resultFrom_ok found
  refine ⟨status, output, ?_, logs⟩
  have failure := agrees.failure
  rcases failures with ⟨none, same⟩ | ⟨class_, there, same⟩
  · rw [same]
    cases classified : written.failureClass with
    | none =>
      rw [failure, classified]
    | some other =>
      rw [classified] at failure
      rw [failure] at none
      exact absurd none (by simp [optionalText, text])
  · rw [there, same]
    rfl

end Agreement

section Writing

variable {tool : Tool} {result : ToolResult} {changes : Record}

def Tool.logsKey (tool : Tool) (ref : String) : String :=
  if tool = .git ∧ contentAddressRef ref = false then "adapterLogsRef" else "logsAddress"

/-- The fields that an outcome adds. -/
inductive Changed (tool : Tool) (result : ToolResult) : Record → Prop where
  | succeeded (unclassified : result.failureClass = none) : Changed tool result
      ([("resultStatus", .str result.status.value), ("output", result.output), ("metrics", .obj result.metrics.asRecord),
        ("startedAt", .str result.startedAt)] ++ (result.logsRef.map fun ref => (tool.logsKey ref, Json.str ref)).toList)
  | failed {failure : ToolFailureClass} (classified : result.failureClass = some failure) (told : Json) :
    Changed tool result
      ([("resultStatus", .str result.status.value), ("output", result.output), ("metrics", .obj result.metrics.asRecord),
        ("startedAt", .str result.startedAt)] ++ (result.logsRef.map fun ref => (tool.logsKey ref, Json.str ref)).toList ++
        [("failureClass", .str failure.value), ("failure", told)])

theorem changesOf_ok {classify : ToolFailureClass → Except PyError String} {retryable : List ToolFailureClass}
    (changed : changesOf result tool.logsKey classify retryable = .ok changes) : Changed tool result changes := by
  unfold changesOf at changed
  cases classified : result.failureClass with
  | none =>
    simp only [classified, Result.pure_eq_ok] at changed
    subst changed
    exact .succeeded classified
  | some failure =>
    simp only [classified, Result.bind_eq_ok, Result.pure_eq_ok] at changed
    obtain ⟨runtimeClass, -, rfl⟩ := changed
    exact .failed classified _

theorem terminalChanges_ok (changed : tool.terminalChanges result = .ok changes) : Changed tool result changes := by
  cases tool with
  | git =>
    have same : (fun ref => if contentAddressRef ref then "logsAddress" else "adapterLogsRef") = Tool.git.logsKey := by
      funext ref
      cases told : contentAddressRef ref <;> simp [Tool.logsKey, told]
    simp only [Tool.terminalChanges, gitTerminalChanges, same] at changed
    exact changesOf_ok changed
  | filesystem => exact changesOf_ok changed
  | docker => exact changesOf_ok changed

theorem logsKey_cases (tool : Tool) (ref : String) :
    tool.logsKey ref = "logsAddress" ∨ tool.logsKey ref = "adapterLogsRef" := by
  unfold Tool.logsKey
  split
  · exact .inr rfl
  · exact .inl rfl

theorem Changed.status (changed : Changed tool result changes) :
    changes.get? "resultStatus" = some (.str result.status.value) := by
  cases changed <;> rfl

theorem Changed.output (changed : Changed tool result changes) : changes.get? "output" = some result.output := by
  cases changed <;> rfl

theorem Changed.failureClass (changed : Changed tool result changes) :
    changes.get? "failureClass" = result.failureClass.map (Json.str ·.value) := by
  have apart : ∀ ref, tool.logsKey ref ≠ "failureClass" := by
    intro ref
    rcases logsKey_cases tool ref with same | same <;> rw [same] <;> decide
  cases changed with
  | succeeded unclassified => cases logged : result.logsRef <;> simp [unclassified, Dict.get?_cons, apart]
  | failed classified told => cases logged : result.logsRef <;> simp [classified, Dict.get?_cons, apart]

theorem Changed.unnamed (changed : Changed tool result changes) {key : String}
    (unnamed : key ∉ ["resultStatus", "output", "metrics", "startedAt", "failureClass", "failure"]) :
    changes.get? key = if ∃ ref ∈ result.logsRef, tool.logsKey ref = key then result.logsRef.map Json.str else none := by
  simp only [List.mem_cons, List.not_mem_nil, or_false, not_or] at unnamed
  obtain ⟨status, output, metrics, startedAt, failureClass, failure⟩ := unnamed
  cases changed with
  | succeeded unclassified =>
    cases logged : result.logsRef <;>
      simp [Dict.get?_cons, Ne.symm status, Ne.symm output, Ne.symm metrics, Ne.symm startedAt]
  | failed classified told =>
    cases logged : result.logsRef <;>
      simp [Dict.get?_cons, Ne.symm status, Ne.symm output, Ne.symm metrics, Ne.symm startedAt, Ne.symm failureClass,
        Ne.symm failure]

section Pending

variable {invocationId fingerprint timestamp : String} {call : ToolCall} {pending : Record}

theorem pending_parts (made : tool.pendingRecord invocationId call fingerprint timestamp = .ok pending) :
    ∃ revision, pending = pendingRecord invocationId call fingerprint timestamp revision ++ agentCaller call ++
        policyDecision call ∨
      pending = pendingRecord invocationId call fingerprint timestamp revision ++ policyDecision call := by
  cases tool with
  | git =>
    simp only [Tool.pendingRecord, gitPendingRecord] at made
    split at made
    · cases made
    · cases made
      exact ⟨_, .inl rfl⟩
  | filesystem =>
    cases made
    exact ⟨[], .inl rfl⟩
  | docker =>
    cases made
    exact ⟨[], .inr rfl⟩

theorem pending_get? (made : tool.pendingRecord invocationId call fingerprint timestamp = .ok pending) {key : String}
    (notAgent : key ≠ "agentInvocationId") (notPolicy : key ≠ "policyDecisionId") :
    ∃ revision, pending.get? key = (pendingRecord invocationId call fingerprint timestamp revision).get? key := by
  have agent : (agentCaller call).get? key = none := by
    unfold agentCaller
    split <;> simp [Dict.get?_cons, notAgent.symm]
  have policy : (policyDecision call).get? key = none := by
    unfold policyDecision
    cases call.policyDecisionId <;> simp [Dict.get?_cons, notPolicy.symm]
  obtain ⟨revision, rfl | rfl⟩ := pending_parts made
  · exact ⟨revision, by simp only [Dict.get?_append, agent, policy, Option.or_none]⟩
  · exact ⟨revision, by simp only [Dict.get?_append, policy, Option.or_none]⟩

theorem pending_told (made : tool.pendingRecord invocationId call fingerprint timestamp = .ok pending) {key : String}
    {value : Json} (notAgent : key ≠ "agentInvocationId") (notPolicy : key ≠ "policyDecisionId")
    (told : ∀ revision, (pendingRecord invocationId call fingerprint timestamp revision).get? key = some value) :
    pending.field key = value := by
  obtain ⟨revision, same⟩ := pending_get? made notAgent notPolicy
  exact Dict.field_of_get? (same.trans (told revision))

theorem pending_id (made : tool.pendingRecord invocationId call fingerprint timestamp = .ok pending) :
    pending.field "id" = .str invocationId :=
  pending_told made (by decide) (by decide) fun _ => rfl

theorem pending_status (made : tool.pendingRecord invocationId call fingerprint timestamp = .ok pending) :
    pending.field "status" = .str "PENDING" :=
  pending_told made (by decide) (by decide) fun _ => rfl

theorem pending_fingerprint (made : tool.pendingRecord invocationId call fingerprint timestamp = .ok pending) :
    pending.field "requestFingerprint" = .str fingerprint :=
  pending_told made (by decide) (by decide) fun _ => rfl

theorem pending_owner (made : tool.pendingRecord invocationId call fingerprint timestamp = .ok pending) :
    pending.field "ownerToken" = .str call.ownerToken :=
  pending_told made (by decide) (by decide) fun _ => rfl

theorem pending_unwritten (made : tool.pendingRecord invocationId call fingerprint timestamp = .ok pending) {key : String}
    (added : key ∈ ["resultStatus", "output", "failureClass", "logsAddress", "adapterLogsRef"]) :
    pending.get? key = none := by
  have notAgent : key ≠ "agentInvocationId" := by
    rintro rfl
    revert added
    decide
  have notPolicy : key ≠ "policyDecisionId" := by
    rintro rfl
    revert added
    decide
  obtain ⟨revision, same⟩ := pending_get? made notAgent notPolicy
  rw [same]
  simp only [List.mem_cons, List.not_mem_nil, or_false] at added
  rcases added with rfl | rfl | rfl | rfl | rfl <;> rfl

theorem withStatus_kept (changed : Changed tool result changes) (status now : String) {key : String}
    (kept : key = "requestFingerprint" ∨ key = "ownerToken") (record : Record) :
    (withStatus record changes status now).field key = record.field key := by
  have unmanaged : key ∉ managedFields := by
    rcases kept with rfl | rfl <;> decide
  have unnamed : key ∉ ["resultStatus", "output", "metrics", "startedAt", "failureClass", "failure"] := by
    rcases kept with rfl | rfl <;> decide
  have nowhere : ¬∃ ref ∈ result.logsRef, tool.logsKey ref = key := by
    rintro ⟨ref, -, same⟩
    rcases kept with rfl | rfl <;> rcases logsKey_cases tool ref with other | other <;> rw [other] at same <;>
      revert same <;> decide
  refine Dict.field_congr ?_
  rw [withStatus_get? unmanaged, changed.unnamed unnamed, if_neg nowhere, Option.none_or]

theorem logs_told {record : Record} (address : record.get? "logsAddress" = changes.get? "logsAddress")
    (adapter : record.get? "adapterLogsRef" = changes.get? "adapterLogsRef") (changed : Changed tool result changes) :
    (tool.logs record).asString? = result.logsRef := by
  rw [changed.unnamed (by decide)] at address adapter
  cases logged : result.logsRef with
  | none =>
    simp only [logged, Option.map_none, ite_self] at address adapter
    cases tool <;> simp [Tool.logs, gitLogs, Dict.field, address, adapter, falsy, Json.asString?]
  | some ref =>
    simp only [logged, Option.mem_some, exists_eq_left', Option.map_some] at address adapter
    rcases logsKey_cases tool ref with there | there
    · rw [there] at address adapter
      have named : tool = .git → falsy (.str ref) = false := by
        rintro rfl
        have some_ : ref ≠ "" := by
          rintro rfl
          revert there
          decide
        unfold falsy
        split <;> simp_all
      cases tool with
      | git => simp [Tool.logs, gitLogs, Dict.field, address, named rfl, Json.asString?]
      | filesystem | docker => simp [Tool.logs, Dict.field, address, Json.asString?]
    · rw [there] at address adapter
      cases tool with
      | git => simp [Tool.logs, gitLogs, Dict.field, address, adapter, falsy, Json.asString?]
      | filesystem | docker => exact absurd there (by simp [Tool.logsKey])

theorem agrees_written (made : tool.pendingRecord invocationId call fingerprint timestamp = .ok pending)
    (changed : Changed tool result changes) (status now : String) :
    Agrees tool result (withStatus pending changes status now) := by
  have field : ∀ key ∈ ["resultStatus", "output", "failureClass", "logsAddress", "adapterLogsRef"],
      (withStatus pending changes status now).get? key = changes.get? key := by
    intro key added
    have unmanaged : key ∉ managedFields := by
      simp only [List.mem_cons, List.not_mem_nil, or_false] at added
      rcases added with rfl | rfl | rfl | rfl | rfl <;> decide
    rw [withStatus_get? unmanaged, pending_unwritten made added, Option.or_none]
  refine ⟨?_, ?_, ?_, ?_⟩
  · exact Dict.field_of_get? ((field _ (by decide)).trans changed.status)
  · exact Dict.field_of_get? ((field _ (by decide)).trans changed.output)
  · have told := (field _ (by decide)).trans changed.failureClass
    cases classified : result.failureClass with
    | none =>
      rw [classified] at told
      simp only [Dict.field, told, Option.map_none, optionalText, Option.getD_none]
    | some failure =>
      rw [classified] at told
      exact Dict.field_of_get? told
  · exact (logs_told (field "logsAddress" (by decide)) (field "adapterLogsRef" (by decide)) changed).symm

end Pending

end Writing

end Aep.ToolRuntime
