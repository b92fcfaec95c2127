import SiteFabric.Core.Text

/-! The outcome vocabulary and bounded explanations.
Constructors stand in the order of the source, so `ctorIdx` is the value the
canonical encoder writes and the composer's sorts compare. -/

namespace SiteFabric

inductive Status where
  | unknown | ok | accepted | composed | current | published | renewed | granted | unsupported
  | stale | conflicting | incomplete | indeterminate | partialKnowledge | degraded
  | partitioned | refused | cancelled | invalid | malformed | truncated | corrupt | replayed
  | notFound | alreadyExists | alreadyRetired | limitExceeded | capacityOverflow
  | capacityUnderflow | unsupportedFormat | schemaIncompatible | digestMismatch
  | integrityFailure | busy | stopped | notStarted | unauthorized | fencedEpoch
  | fencedIncarnation | fencedGeneration | fencedAttempt | leaseExpired | leaseNotYetValid
  | leaseRevoked | authorityHeldElsewhere | membershipMissing | membershipUnexpected
  | generationMismatch | digestMismatchDeclaration | siteMismatch | epochMismatch
  | ownershipOverlap | accountingConflict | capacityUnknown | failureDomainCycle
  | failureDomainConflict | failureDomainDanglingParent | maintenanceConflict
  | maintenanceUnknown | obligationViolated | obligationIndeterminate | evidenceStale
  | evidenceMissing | evidenceSyntheticOnly | evidenceFuture | connectivityUnknown
  | connectivityDown | connectivityDegraded | expectationMismatch | dependencyInvalidated
  | noAuthoritativeSource
deriving DecidableEq, Inhabited

namespace Status

/-- The stable upper-case token of a status. -/
def token : Status → Text
  | .unknown => ascii "UNKNOWN"
  | .ok => ascii "OK"
  | .accepted => ascii "ACCEPTED"
  | .composed => ascii "COMPOSED"
  | .current => ascii "CURRENT"
  | .published => ascii "PUBLISHED"
  | .renewed => ascii "RENEWED"
  | .granted => ascii "GRANTED"
  | .unsupported => ascii "UNSUPPORTED"
  | .stale => ascii "STALE"
  | .conflicting => ascii "CONFLICTING"
  | .incomplete => ascii "INCOMPLETE"
  | .indeterminate => ascii "INDETERMINATE"
  | .partialKnowledge => ascii "PARTIAL"
  | .degraded => ascii "DEGRADED"
  | .partitioned => ascii "PARTITIONED"
  | .refused => ascii "REFUSED"
  | .cancelled => ascii "CANCELLED"
  | .invalid => ascii "INVALID"
  | .malformed => ascii "MALFORMED"
  | .truncated => ascii "TRUNCATED"
  | .corrupt => ascii "CORRUPT"
  | .replayed => ascii "REPLAYED"
  | .notFound => ascii "NOT_FOUND"
  | .alreadyExists => ascii "ALREADY_EXISTS"
  | .alreadyRetired => ascii "ALREADY_RETIRED"
  | .limitExceeded => ascii "LIMIT_EXCEEDED"
  | .capacityOverflow => ascii "CAPACITY_OVERFLOW"
  | .capacityUnderflow => ascii "CAPACITY_UNDERFLOW"
  | .unsupportedFormat => ascii "UNSUPPORTED_FORMAT"
  | .schemaIncompatible => ascii "SCHEMA_INCOMPATIBLE"
  | .digestMismatch => ascii "DIGEST_MISMATCH"
  | .integrityFailure => ascii "INTEGRITY_FAILURE"
  | .busy => ascii "BUSY"
  | .stopped => ascii "STOPPED"
  | .notStarted => ascii "NOT_STARTED"
  | .unauthorized => ascii "UNAUTHORIZED"
  | .fencedEpoch => ascii "FENCED_EPOCH"
  | .fencedIncarnation => ascii "FENCED_INCARNATION"
  | .fencedGeneration => ascii "FENCED_GENERATION"
  | .fencedAttempt => ascii "FENCED_ATTEMPT"
  | .leaseExpired => ascii "LEASE_EXPIRED"
  | .leaseNotYetValid => ascii "LEASE_NOT_YET_VALID"
  | .leaseRevoked => ascii "LEASE_REVOKED"
  | .authorityHeldElsewhere => ascii "AUTHORITY_HELD_ELSEWHERE"
  | .membershipMissing => ascii "MEMBERSHIP_MISSING"
  | .membershipUnexpected => ascii "MEMBERSHIP_UNEXPECTED"
  | .generationMismatch => ascii "GENERATION_MISMATCH"
  | .digestMismatchDeclaration => ascii "DIGEST_MISMATCH_DECLARATION"
  | .siteMismatch => ascii "SITE_MISMATCH"
  | .epochMismatch => ascii "EPOCH_MISMATCH"
  | .ownershipOverlap => ascii "OWNERSHIP_OVERLAP"
  | .accountingConflict => ascii "ACCOUNTING_CONFLICT"
  | .capacityUnknown => ascii "CAPACITY_UNKNOWN"
  | .failureDomainCycle => ascii "FAILURE_DOMAIN_CYCLE"
  | .failureDomainConflict => ascii "FAILURE_DOMAIN_CONFLICT"
  | .failureDomainDanglingParent => ascii "FAILURE_DOMAIN_DANGLING_PARENT"
  | .maintenanceConflict => ascii "MAINTENANCE_CONFLICT"
  | .maintenanceUnknown => ascii "MAINTENANCE_UNKNOWN"
  | .obligationViolated => ascii "OBLIGATION_VIOLATED"
  | .obligationIndeterminate => ascii "OBLIGATION_INDETERMINATE"
  | .evidenceStale => ascii "EVIDENCE_STALE"
  | .evidenceMissing => ascii "EVIDENCE_MISSING"
  | .evidenceSyntheticOnly => ascii "EVIDENCE_SYNTHETIC_ONLY"
  | .evidenceFuture => ascii "EVIDENCE_FUTURE"
  | .connectivityUnknown => ascii "CONNECTIVITY_UNKNOWN"
  | .connectivityDown => ascii "CONNECTIVITY_DOWN"
  | .connectivityDegraded => ascii "CONNECTIVITY_DEGRADED"
  | .expectationMismatch => ascii "EXPECTATION_MISMATCH"
  | .dependencyInvalidated => ascii "DEPENDENCY_INVALIDATED"
  | .noAuthoritativeSource => ascii "NO_AUTHORITATIVE_SOURCE"

/-- `is_ok`: the positive codes, and the idempotent repeat among the refusals. -/
def isOk : Status → Bool
  | .ok | .accepted | .composed | .current | .published | .renewed | .granted
  | .alreadyExists => true
  | _ => false

end Status

namespace Limits

def maxFactors : Nat := 64

end Limits

/-- A bounded list of explanations; what does not fit is counted, not kept. -/
structure Factors where
  items : List Text := []
  dropped : Nat := 0
deriving DecidableEq, Inhabited

namespace Factors

def push (f : Factors) (factor : Text) : Factors :=
  if f.items.length ≥ Limits.maxFactors then { f with dropped := f.dropped + 1 }
  else { f with items := f.items ++ [factor] }

def add (f : Factors) (label value : Text) : Factors :=
  f.push (label ++ ascii "=" ++ value)

def joinItems (separator : Text) : List Text → Text
  | [] => Text.empty
  | [item] => item
  | item :: next :: rest => item ++ separator ++ joinItems separator (next :: rest)

def join (f : Factors) (separator : Text) : Text :=
  let out := joinItems separator f.items
  if f.dropped ≠ 0 then
    (if out.isEmpty then out else out ++ separator) ++ ascii "dropped=" ++ decimal f.dropped
  else out

end Factors

end SiteFabric
