import Jiejian.Library.Sorting
import Jiejian.Library.Table
import Jiejian.Protocol.Codec

namespace Jiejian.Protocol.Sources

open Library Library.Document Library.Sorting Codec

abbrev ObjectPath := List String

structure ManagedIdentityClaim where
  identityId : String
  applicationSubjectId : String
  requestPath : String
  subjectPath : ObjectPath
  rolePath : ObjectPath
  applicationRole : String
  tenantPath : Option ObjectPath := none
  deriving DecidableEq, Repr

def ManagedIdentityClaim.dump (claim : ManagedIdentityClaim) : Json :=
  .dict ([("identity_id", .str claim.identityId), ("application_subject_id", .str claim.applicationSubjectId),
    ("request_path", .str claim.requestPath), ("subject_path", strings claim.subjectPath),
    ("role_path", strings claim.rolePath), ("application_role", .str claim.applicationRole)] ++
    optionalField "tenant_path" strings claim.tenantPath)

structure ArtifactManifestReference where
  assetId : String
  sha256 : String
  size : Nat
  deriving DecidableEq, Repr

def ArtifactManifestReference.dump (reference : ArtifactManifestReference) : Json :=
  .dict [("asset_id", .str reference.assetId), ("sha256", .str reference.sha256), ("size", natural reference.size)]

inductive ReferenceOrigin where
  | UPLOAD
  | REFERENCE_CAPTURE
  deriving DecidableEq, Repr

def ReferenceOrigin.value : ReferenceOrigin → String
  | .UPLOAD => "UPLOAD"
  | .REFERENCE_CAPTURE => "REFERENCE_CAPTURE"

/-- The table a SQLite source reads. -/
structure SqliteTable where
  databasePath : String
  table : String
  resourceColumn : String
  ownerColumn : String
  protectedColumn : String
  observedColumns : List String := []
  deriving DecidableEq, Repr

def SqliteTable.fields (table : SqliteTable) : List (String × Json) :=
  [("database_path", .str table.databasePath), ("table", .str table.table),
    ("resource_column", .str table.resourceColumn), ("owner_column", .str table.ownerColumn),
    ("protected_column", .str table.protectedColumn), ("observed_columns", strings table.observedColumns)]

structure FileReference where
  referenceArtifact : Option ArtifactManifestReference := none
  referenceOrigin : Option ReferenceOrigin := none
  referenceResourceId : String
  referenceOwnerIdentityId : String
  asyncExport : Option Json := none

/-- What a source of each kind has beyond the common fields. -/
inductive SourceDetail where
  | MANAGED_TRANSACTION_RECORDS
  | SQLITE_AUDIT (table : SqliteTable)
  | REFERENCE_FILE (file : FileReference)
  | CREATED_OBJECT_RECORDS
  | SQLITE_OBJECTS (table : SqliteTable)
  | DATABASE_AUDIT (databaseCapture : Json) (protectedColumn : String)

def SourceDetail.sourceKind : SourceDetail → String
  | .MANAGED_TRANSACTION_RECORDS => "MANAGED_TRANSACTION_RECORDS"
  | .SQLITE_AUDIT _ => "SQLITE_AUDIT"
  | .REFERENCE_FILE _ => "REFERENCE_FILE"
  | .CREATED_OBJECT_RECORDS => "CREATED_OBJECT_RECORDS"
  | .SQLITE_OBJECTS _ => "SQLITE_OBJECTS"
  | .DATABASE_AUDIT .. => "DATABASE_AUDIT"

def SourceDetail.fields : SourceDetail → List (String × Json)
  | .MANAGED_TRANSACTION_RECORDS => []
  | .SQLITE_AUDIT table => table.fields
  | .REFERENCE_FILE file =>
    [("reference_artifact", nullable (·.dump) file.referenceArtifact),
      ("reference_origin", nullable (fun origin => .str origin.value) file.referenceOrigin),
      ("reference_resource_id", .str file.referenceResourceId),
      ("reference_owner_identity_id", .str file.referenceOwnerIdentityId)] ++
      optionalField "async_export" id file.asyncExport
  | .CREATED_OBJECT_RECORDS => []
  | .SQLITE_OBJECTS table => table.fields
  | .DATABASE_AUDIT databaseCapture protectedColumn =>
    [("database_capture", databaseCapture), ("protected_column", .str protectedColumn)]

/-- `source_kind in {'CREATED_OBJECT_RECORDS', 'SQLITE_OBJECTS'}`. -/
def SourceDetail.observesCreation : SourceDetail → Bool
  | .CREATED_OBJECT_RECORDS | .SQLITE_OBJECTS _ => true
  | _ => false

def mappingsDump (mappings : List (String × ObjectPath)) : Json :=
  .dict (mappings.map fun mapping => (mapping.1, strings mapping.2))

structure ProofSourceConfig where
  actionId : String
  actionRevision : Nat
  effectId : String
  detail : SourceDetail
  observationIdentityId : String
  resourceBindingId : String
  readScopeId : Option String := none
  relativePathTemplate : String
  mappings : List (String × ObjectPath)
  targetOperationPath : ObjectPath
  sourceContractId : String
  identityClaims : List ManagedIdentityClaim
  sourceFiles : List String
  maxResponseBytes : Nat
  timeoutUs : Nat
  collection : String
  targetResourcePath : ObjectPath
  targetOwnerPath : ObjectPath
  targetDataPath : ObjectPath
  protectedProjection : List String
  relationshipMapping : Option Json := none
  stateFieldOptional : Bool := false

/-- The fields that say where and when a source was prepared. -/
def ProofSourceConfig.preparationFields (config : ProofSourceConfig) : List (String × Json) :=
  [("action_id", .str config.actionId), ("action_revision", natural config.actionRevision),
    ("effect_id", .str config.effectId), ("resource_binding_id", .str config.resourceBindingId),
    ("read_scope_id", nullable .str config.readScopeId), ("source_files", strings config.sourceFiles)]

/-- The other fields, without the two lists a reader sorts itself. -/
def ProofSourceConfig.methodFields (config : ProofSourceConfig) : List (String × Json) :=
  [("source_kind", .str config.detail.sourceKind),
    ("observation_identity_id", .str config.observationIdentityId),
    ("relative_path_template", .str config.relativePathTemplate), ("mappings", mappingsDump config.mappings),
    ("target_operation_path", strings config.targetOperationPath),
    ("source_contract_id", .str config.sourceContractId), ("max_response_bytes", natural config.maxResponseBytes),
    ("timeout_us", natural config.timeoutUs), ("collection", .str config.collection),
    ("target_resource_path", strings config.targetResourcePath),
    ("target_owner_path", strings config.targetOwnerPath), ("target_data_path", strings config.targetDataPath)] ++
    optionalField "relationship_mapping" id config.relationshipMapping ++
    (if config.stateFieldOptional then [("state_field_optional", .bool true)] else []) ++ config.detail.fields

/-- `config.model_dump(mode='json')`. -/
def ProofSourceConfig.fields (config : ProofSourceConfig) : List (String × Json) :=
  config.preparationFields ++ config.methodFields ++
    [("identity_claims", .list (config.identityClaims.map (·.dump))),
      ("protected_projection", strings config.protectedProjection)]

structure ProofContractAttestation where
  contractId : String
  implementationProfile : String
  fingerprint : String
  approvedEffectKind : String
  deriving DecidableEq, Repr

def ProofContractAttestation.dump (contract : ProofContractAttestation) : Json :=
  .dict [("contract_id", .str contract.contractId), ("implementation_profile", .str contract.implementationProfile),
    ("fingerprint", .str contract.fingerprint), ("approved_effect_kind", .str contract.approvedEffectKind)]

structure FrozenProofSource where
  sourceId : String
  revision : Nat
  sourceFingerprint : String
  config : ProofSourceConfig
  contract : ProofContractAttestation
  ownerSubjectId : String
  identityRoles : List (String × String)
  adoptionPreflightId : Option String := none

/-- `source.identity_roles.get(identity_id)`. -/
def FrozenProofSource.roleOf (source : FrozenProofSource) (identityId : String) : Option String :=
  (Table.lookup Prod.fst source.identityRoles identityId).map Prod.snd

end Jiejian.Protocol.Sources
