import CovenantRadar.Core.DomainErrors
import CovenantRadar.Python.Scalars

/-!
# Principals

Source `security/permissions.py` and `security/rbac.py`: who calls a service, and with which
permissions.
-/

namespace CovenantRadar

namespace Security

/-- Source `Permission`. -/
inductive Permission where
  | viewQueue | viewBorrower | viewCase | viewMemo | viewCovenant | viewForecast | viewEvidence
  | viewDocument | viewAudit | uploadDocument | runIntake | registerCovenant | approveCovenant
  | recordWaiver | generateMemo | runSimulation | logAction | updateCase | recordDisposition
  | overrideRiskView | proposeThresholds | approveThresholds | manageUsers | manageConnectors
  | manageJobs | assumePersona | approveModelPromotion | resolveQuarantine | correctSourceData
  | ingestData | ingestFinancialStatements | exportEvidence | readPersonalData
  deriving DecidableEq, Repr

/-- `permission.value`. -/
def Permission.value : Permission → String
  | viewQueue => "VIEW_QUEUE"
  | viewBorrower => "VIEW_BORROWER"
  | viewCase => "VIEW_CASE"
  | viewMemo => "VIEW_MEMO"
  | viewCovenant => "VIEW_COVENANT"
  | viewForecast => "VIEW_FORECAST"
  | viewEvidence => "VIEW_EVIDENCE"
  | viewDocument => "VIEW_DOCUMENT"
  | viewAudit => "VIEW_AUDIT"
  | uploadDocument => "UPLOAD_DOCUMENT"
  | runIntake => "RUN_INTAKE"
  | registerCovenant => "REGISTER_COVENANT"
  | approveCovenant => "APPROVE_COVENANT"
  | recordWaiver => "RECORD_WAIVER"
  | generateMemo => "GENERATE_MEMO"
  | runSimulation => "RUN_SIMULATION"
  | logAction => "LOG_ACTION"
  | updateCase => "UPDATE_CASE"
  | recordDisposition => "RECORD_DISPOSITION"
  | overrideRiskView => "OVERRIDE_RISK_VIEW"
  | proposeThresholds => "PROPOSE_THRESHOLDS"
  | approveThresholds => "APPROVE_THRESHOLDS"
  | manageUsers => "MANAGE_USERS"
  | manageConnectors => "MANAGE_CONNECTORS"
  | manageJobs => "MANAGE_JOBS"
  | assumePersona => "ASSUME_PERSONA"
  | approveModelPromotion => "APPROVE_MODEL_PROMOTION"
  | resolveQuarantine => "RESOLVE_QUARANTINE"
  | correctSourceData => "CORRECT_SOURCE_DATA"
  | ingestData => "INGEST_DATA"
  | ingestFinancialStatements => "INGEST_FINANCIAL_STATEMENTS"
  | exportEvidence => "EXPORT_EVIDENCE"
  | readPersonalData => "READ_PERSONAL_DATA"

theorem registerCovenant_ne_approveCovenant :
    Permission.registerCovenant ≠ Permission.approveCovenant := by decide

/-- Source `PrincipalKind`. -/
inductive PrincipalKind where
  | user
  | apiKey
  deriving DecidableEq, Repr

/-- Source `Principal`: an authenticated caller. -/
structure Principal where
  id : Uuid
  permissions : List Permission
  kind : PrincipalKind

/-- Source `Principal.has`. -/
def Principal.has (principal : Principal) (permission : Permission) : Bool :=
  principal.permissions.contains permission

/-- Source `authorize`. -/
def authorize (principal : Principal) (permission : Permission) : Except DomainError Unit :=
  if principal.has permission then .ok ()
  else
    .error (.authorizationError ("Missing permission: ".toList ++ permission.value.toList ++ ['.'])
      "permission")

theorem authorize_eq_ok_iff {principal : Principal} {permission : Permission} :
    authorize principal permission = .ok () ↔ principal.has permission = true := by
  unfold authorize
  by_cases granted : principal.has permission = true <;> simp [granted]

end Security

end CovenantRadar
