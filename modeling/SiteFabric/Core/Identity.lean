import SiteFabric.Core.Status

/-! Strongly typed identities, member domain keys and resource keys.
Keys compare by kind first, in declaration order of the kinds, then by the
bytes of the id: the defaulted three-way comparison of the source. -/

namespace SiteFabric

inductive IdTag where
  | site | controller | member | cluster | pod | rack | gateway | link | failureDomain
  | maintenanceZone | obligation | tenant
deriving DecidableEq

/-- `StrongId<Tag>`. An identity may hold any text; `valid` is the check the
decoders and the validator make. -/
structure StrongId (tag : IdTag) where
  value : Text := Text.empty
deriving DecidableEq, Inhabited

namespace StrongId

variable {tag : IdTag}

def isEmpty (id : StrongId tag) : Bool := id.value.isEmpty

def valid (id : StrongId tag) : Bool := isValidIdentifier id.value

theorem value_injective : Function.Injective (value : StrongId tag → Text) := by
  intro a b same
  cases a
  cases b
  simpa using same

instance : LinearOrder (StrongId tag) := LinearOrder.lift' value value_injective

end StrongId

abbrev SiteId := StrongId .site
abbrev MemberId := StrongId .member
abbrev ClusterId := StrongId .cluster
abbrev PodId := StrongId .pod
abbrev RackId := StrongId .rack
abbrev GatewayId := StrongId .gateway
abbrev LinkId := StrongId .link
abbrev FailureDomainId := StrongId .failureDomain
abbrev MaintenanceZoneId := StrongId .maintenanceZone
abbrev ObligationId := StrongId .obligation

inductive MemberDomainKind where
  | unknown | cluster | pod | rack | sharedResource
deriving DecidableEq, Inhabited

namespace MemberDomainKind

def token : MemberDomainKind → Text
  | .unknown => ascii "UNKNOWN"
  | .cluster => ascii "CLUSTER"
  | .pod => ascii "POD"
  | .rack => ascii "RACK"
  | .sharedResource => ascii "SHARED_RESOURCE"

def isValid : MemberDomainKind → Bool
  | .unknown => false
  | _ => true

end MemberDomainKind

structure MemberDomainKey where
  kind : MemberDomainKind := .unknown
  id : Text := Text.empty
deriving DecidableEq, Inhabited

namespace MemberDomainKey

def valid (key : MemberDomainKey) : Bool := key.kind.isValid && isValidIdentifier key.id

def toText (key : MemberDomainKey) : Text := key.kind.token ++ ascii ":" ++ key.id

def rank (key : MemberDomainKey) : Nat ×ₗ Text := toLex (key.kind.ctorIdx, key.id)

theorem rank_injective : Function.Injective rank := by
  intro a b same
  obtain ⟨kind, id⟩ := a
  obtain ⟨kind', id'⟩ := b
  simp only [rank, EmbeddingLike.apply_eq_iff_eq, Prod.mk.injEq] at same
  obtain ⟨kinds, rfl⟩ := same
  cases kind <;> cases kind' <;> simp_all [MemberDomainKind.ctorIdx]

instance : LinearOrder MemberDomainKey := LinearOrder.lift' rank rank_injective

end MemberDomainKey

inductive ResourceKind where
  | unknown | cluster | pod | rack | sharedLink | gateway | capacityPool | failureDomain
  | maintenanceZone | obligation
deriving DecidableEq, Inhabited

namespace ResourceKind

def token : ResourceKind → Text
  | .unknown => ascii "UNKNOWN"
  | .obligation => ascii "OBLIGATION"
  | .cluster => ascii "CLUSTER"
  | .pod => ascii "POD"
  | .rack => ascii "RACK"
  | .sharedLink => ascii "SHARED_LINK"
  | .gateway => ascii "GATEWAY"
  | .capacityPool => ascii "CAPACITY_POOL"
  | .failureDomain => ascii "FAILURE_DOMAIN"
  | .maintenanceZone => ascii "MAINTENANCE_ZONE"

def isValid : ResourceKind → Bool
  | .unknown => false
  | _ => true

end ResourceKind

structure ResourceKey where
  kind : ResourceKind := .unknown
  id : Text := Text.empty
deriving DecidableEq, Inhabited

namespace ResourceKey

def valid (key : ResourceKey) : Bool := key.kind.isValid && isValidIdentifier key.id

def toText (key : ResourceKey) : Text := key.kind.token ++ ascii ":" ++ key.id

def rank (key : ResourceKey) : Nat ×ₗ Text := toLex (key.kind.ctorIdx, key.id)

theorem rank_injective : Function.Injective rank := by
  intro a b same
  obtain ⟨kind, id⟩ := a
  obtain ⟨kind', id'⟩ := b
  simp only [rank, EmbeddingLike.apply_eq_iff_eq, Prod.mk.injEq] at same
  obtain ⟨kinds, rfl⟩ := same
  cases kind <;> cases kind' <;> simp_all [ResourceKind.ctorIdx]

instance : LinearOrder ResourceKey := LinearOrder.lift' rank rank_injective

end ResourceKey

/-- A nonce drawn once per process lifetime. -/
structure BootNonce where
  value : Text := Text.empty
deriving DecidableEq, Inhabited

def BootNonce.valid (boot : BootNonce) : Bool := isValidIdentifier boot.value

end SiteFabric
