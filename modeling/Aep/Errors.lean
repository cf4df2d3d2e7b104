import Aep.Library.Json

namespace Aep

/-- The exception classes that the modelled code raises or tells apart. -/
inductive ErrorClass where
  | typeError
  | valueError
  | keyError
  | assertionError
  | overflowError
  | recursionError
  | decimalException
  | permissionError
  | runtimeStoreError
  | runtimeObjectNotFoundError
  | runtimeObjectAlreadyExistsError
  | immutableRuntimeObjectError
  | statusConflictError
  | observabilityContractError
  | invalidTaskTransitionError
  | taskRetryNotAllowedError
  | invalidTaskReferenceError
  | invalidSchedulerInputError
  | invalidWorkflowExecutionInputError
  | approvalError
  | approvalAuthorizationError
  | indexError
  | publicationPolicyContractError
  | publicationPolicyIdentityConflictError
  | evaluationSuiteError
  | agentInvocationContractError
  | replayError
  | inspectionError
  | executionBudgetError
  | executionBudgetExceeded
  | generatedArtifactNotFoundError
  | immutableGeneratedArtifactError
  | generatedArtifactValidationError
  | contentIntegrityError
  | invocationIdentityConflictError
  | invocationInProgressError
  | coordinatorStateError
  | localizedPatchError
  | capabilityPolicyContractError
  | capabilityPolicyIdentityConflictError
  | contextBudgetExceededError
  | buildImplementationPlanContractError
  | analyzeIssueContractError
  | otherException
  deriving DecidableEq

/-- A raised exception: its class, its message and the diagnostic of a store error. -/
structure PyError where
  errorClass : ErrorClass
  message : String
  diagnostic : Record := []
  deriving DecidableEq

namespace PyError

def isRuntimeStoreError (error : PyError) : Bool :=
  match error.errorClass with
  | .runtimeStoreError | .runtimeObjectNotFoundError | .runtimeObjectAlreadyExistsError
  | .immutableRuntimeObjectError | .statusConflictError => true
  | _ => false

def isValueError (error : PyError) : Bool :=
  match error.errorClass with
  | .valueError | .observabilityContractError | .invalidTaskTransitionError | .taskRetryNotAllowedError
  | .invalidTaskReferenceError | .invalidSchedulerInputError | .invalidWorkflowExecutionInputError | .approvalError
  | .publicationPolicyContractError | .publicationPolicyIdentityConflictError | .evaluationSuiteError
  | .agentInvocationContractError | .replayError | .inspectionError | .executionBudgetError
  | .executionBudgetExceeded | .invocationIdentityConflictError | .localizedPatchError
  | .capabilityPolicyContractError | .capabilityPolicyIdentityConflictError
  | .buildImplementationPlanContractError | .analyzeIssueContractError => true
  | _ => false

end PyError

end Aep
