import SiteFabric.Core.Declaration
import SiteFabric.Lib.Tagged

/-! Keys as texts. A key is written as the token of its kind, a colon and its id, and is read
back by the first colon: no token holds one, an id may hold many. The key of a capacity claim
joins its owner's text and its scope's token at a bar, which neither holds. -/

namespace SiteFabric

def colon : UInt8 := 58

def bar : UInt8 := 124

def memberDomainKindTokens : Lib.TokenTable MemberDomainKind UInt8 where
  entries :=
    [(.unknown, (ascii "UNKNOWN").bytes),
     (.cluster, (ascii "CLUSTER").bytes),
     (.pod, (ascii "POD").bytes),
     (.rack, (ascii "RACK").bytes),
     (.sharedResource, (ascii "SHARED_RESOURCE").bytes)]
  kinds := by decide
  tokens := by decide +kernel

def resourceKindTokens : Lib.TokenTable ResourceKind UInt8 where
  entries :=
    [(.unknown, (ascii "UNKNOWN").bytes),
     (.obligation, (ascii "OBLIGATION").bytes),
     (.cluster, (ascii "CLUSTER").bytes),
     (.pod, (ascii "POD").bytes),
     (.rack, (ascii "RACK").bytes),
     (.sharedLink, (ascii "SHARED_LINK").bytes),
     (.gateway, (ascii "GATEWAY").bytes),
     (.capacityPool, (ascii "CAPACITY_POOL").bytes),
     (.failureDomain, (ascii "FAILURE_DOMAIN").bytes),
     (.maintenanceZone, (ascii "MAINTENANCE_ZONE").bytes)]
  kinds := by decide
  tokens := by decide +kernel

section Key

variable {κ : Type}

/-- What both parsers do, on the tokens and the valid kinds of their own. -/
def parseKey (table : Lib.TokenTable κ UInt8) (isValid : κ → Bool) (t : Text) :
    Option (κ × Text) :=
  match Lib.splitAtFirst colon t.bytes with
  | none => none
  | some (token, id) =>
    match table.reverseLookup token with
    | none => none
    | some kind =>
      if !isValid kind then none
      else if !isValidIdentifier ⟨id⟩ then none
      else some (kind, ⟨id⟩)

/-- A table gives every kind the token it is written with, and none holds a colon. -/
structure Spells (table : Lib.TokenTable κ UInt8) (token : κ → Text) : Prop where
  listed : ∀ kind, (kind, (token kind).bytes) ∈ table.entries
  plain : ∀ kind, colon ∉ (token kind).bytes

variable {table : Lib.TokenTable κ UInt8} {token : κ → Text} {isValid : κ → Bool}

/-- The first colon of a key's text is the one that was put there. -/
theorem Spells.split (spells : Spells table token) (kind : κ) (id : Text) :
    Lib.splitAtFirst colon (token kind ++ ascii ":" ++ id).bytes =
      some ((token kind).bytes, id.bytes) :=
  Lib.splitAtFirst_iff.mpr ⟨List.append_assoc _ _ _, spells.plain kind⟩

theorem Spells.injective (spells : Spells table token) {kind kind' : κ} {id id' : Text}
    (same : token kind ++ ascii ":" ++ id = token kind' ++ ascii ":" ++ id') :
    kind = kind' ∧ id = id' := by
  have parts := (spells.split kind id).symm.trans (same ▸ spells.split kind' id')
  obtain ⟨tokens, ids⟩ := Prod.mk.inj (Option.some.inj parts)
  refine ⟨?_, congrArg Text.mk ids⟩
  have known := Lib.TokenTable.reverseLookup_iff.mpr (spells.listed kind)
  rw [tokens, Lib.TokenTable.reverseLookup_iff.mpr (spells.listed kind')] at known
  exact (Option.some.inj known).symm

/-- `to_string` of a kind, which looks its token up. -/
theorem Spells.lookup [DecidableEq κ] (spells : Spells table token) (kind : κ) :
    table.lookup (ascii "UNKNOWN").bytes kind = (token kind).bytes :=
  table.lookup_eq (spells.listed kind)

theorem Spells.reads (spells : Spells table token) {kind : κ} {id : Text}
    (valid : (isValid kind && isValidIdentifier id) = true) :
    parseKey table isValid (token kind ++ ascii ":" ++ id) = some (kind, id) := by
  obtain ⟨known, legal⟩ := Bool.and_eq_true_iff.mp valid
  rw [parseKey, spells.split kind id]
  dsimp only
  rw [Lib.TokenTable.reverseLookup_iff.mpr (spells.listed kind)]
  dsimp only
  rw [known, legal]
  rfl

theorem Spells.writes (spells : Spells table token) {t : Text} {kind : κ} {id : Text}
    (parsed : parseKey table isValid t = some (kind, id)) :
    token kind ++ ascii ":" ++ id = t ∧ (isValid kind && isValidIdentifier id) = true := by
  unfold parseKey at parsed
  split at parsed
  · cases parsed
  · next word rest sides =>
    obtain ⟨whole, -⟩ := Lib.splitAtFirst_iff.mp sides
    split at parsed
    · cases parsed
    · next found known =>
      split at parsed
      · cases parsed
      · next usable =>
        split at parsed
        · cases parsed
        · next legal =>
          obtain ⟨rfl, rfl⟩ := Prod.mk.inj (Option.some.inj parsed)
          have entry := Lib.TokenTable.reverseLookup_iff.mp known
          have same := List.inj_on_of_nodup_map table.kinds (spells.listed found) entry rfl
          have tokens : (token found).bytes = word := congrArg Prod.snd same
          refine ⟨?_, by simpa using And.intro usable legal⟩
          calc token found ++ ascii ":" ++ ⟨rest⟩
            _ = ⟨(token found).bytes ++ colon :: rest⟩ :=
              congrArg Text.mk (List.append_assoc _ _ _)
            _ = t := by rw [tokens, ← whole]

/-- A text and its parser agree, and no two keys share a text. -/
structure Unambiguous {κ : Type} (valid : κ → Bool) (toText : κ → Text)
    (parse : Text → Option κ) : Prop where
  reads : ∀ key, valid key = true → parse (toText key) = some key
  writes : ∀ t key, parse t = some key → toText key = t ∧ valid key = true
  apart : Function.Injective toText

/-- Keys that are a kind and an id, whatever the type that holds the two. -/
theorem Spells.unambiguous (spells : Spells table token) {Key : Type} (make : κ → Text → Key)
    (kind : Key → κ) (id : Key → Text) (eta : ∀ key, make (kind key) (id key) = key)
    (kinds : ∀ a b, kind (make a b) = a) (ids : ∀ a b, id (make a b) = b) :
    Unambiguous (fun key => isValid (kind key) && isValidIdentifier (id key))
      (fun key => token (kind key) ++ ascii ":" ++ id key)
      (fun t => (parseKey table isValid t).map fun (a, b) => make a b) where
  reads key valid := by
    rw [spells.reads valid]
    exact congrArg some (eta key)
  writes t key parsed := by
    obtain ⟨⟨a, b⟩, read, rfl⟩ := Option.map_eq_some_iff.mp parsed
    dsimp only
    rw [kinds, ids]
    exact spells.writes read
  apart key key' same := by
    obtain ⟨same_kind, same_id⟩ := spells.injective same
    rw [← eta key, same_kind, same_id, eta]

end Key

theorem memberDomainKindTokens_spells : Spells memberDomainKindTokens MemberDomainKind.token where
  listed kind := by cases kind <;> decide +kernel
  plain kind := by cases kind <;> decide +kernel

theorem resourceKindTokens_spells : Spells resourceKindTokens ResourceKind.token where
  listed kind := by cases kind <;> decide +kernel
  plain kind := by cases kind <;> decide +kernel

namespace MemberDomainKey

def parse (t : Text) : Option MemberDomainKey :=
  (parseKey memberDomainKindTokens MemberDomainKind.isValid t).map fun (kind, id) => ⟨kind, id⟩

theorem unambiguous : Unambiguous valid toText parse :=
  memberDomainKindTokens_spells.unambiguous mk kind id (fun _ => rfl) (fun _ _ => rfl)
    fun _ _ => rfl

/-- The first colon splits. -/
example : parse (ascii "RACK:r1:a") = some ⟨.rack, ascii "r1:a"⟩ := by decide +kernel

end MemberDomainKey

namespace ResourceKey

def parse (t : Text) : Option ResourceKey :=
  (parseKey resourceKindTokens ResourceKind.isValid t).map fun (kind, id) => ⟨kind, id⟩

theorem unambiguous : Unambiguous valid toText parse :=
  resourceKindTokens_spells.unambiguous mk kind id (fun _ => rfl) (fun _ _ => rfl)
    fun _ _ => rfl

theorem bar_notMem {key : ResourceKey} (valid : key.valid = true) : bar ∉ key.toText.bytes := by
  obtain ⟨-, legal⟩ := Bool.and_eq_true_iff.mp valid
  intro held
  rcases List.mem_append.mp held with front | id
  · have plain : ∀ kind : ResourceKind, bar ∉ (kind.token ++ ascii ":").bytes := by
      intro kind
      cases kind <;> decide +kernel
    exact plain key.kind front
  · exact absurd (tail_of_valid legal bar id) (by decide)

end ResourceKey

namespace CapacityContribution

/-- Two claims of valid owners share a key only when they are of one owner and scope. -/
theorem listKey_eq_iff {claim other : CapacityContribution} (valid : claim.owner.valid = true)
    (valid' : other.owner.valid = true) :
    claim.listKey = other.listKey ↔ claim.owner = other.owner ∧ claim.scope = other.scope := by
  have split (c : CapacityContribution) (valid : c.owner.valid = true) :
      Lib.splitAtFirst bar c.listKey.bytes = some (c.owner.toText.bytes, c.scope.token.bytes) :=
    Lib.splitAtFirst_iff.mpr ⟨List.append_assoc _ _ _, ResourceKey.bar_notMem valid⟩
  constructor
  · intro same
    have parts := (split claim valid).symm.trans (same ▸ split other valid')
    obtain ⟨owners, scopes⟩ := Prod.mk.inj (Option.some.inj parts)
    refine ⟨ResourceKey.unambiguous.apart (congrArg Text.mk owners), ?_⟩
    have tokens : Function.Injective CapacityScope.token := by
      intro s s' equal
      cases s <;> cases s' <;> first | rfl | exact absurd equal (by decide +kernel)
    exact tokens (congrArg Text.mk scopes)
  · rintro ⟨owners, scopes⟩
    rw [listKey, listKey, owners, scopes]

end CapacityContribution

/-- Both kinds of key are unambiguous as texts, and so is the key of a capacity claim. -/
theorem key_text_unambiguous :
    Unambiguous MemberDomainKey.valid MemberDomainKey.toText MemberDomainKey.parse ∧
      Unambiguous ResourceKey.valid ResourceKey.toText ResourceKey.parse ∧
      ∀ claim other : CapacityContribution,
        claim.owner.valid = true → other.owner.valid = true →
          (claim.listKey = other.listKey ↔
            claim.owner = other.owner ∧ claim.scope = other.scope) :=
  ⟨MemberDomainKey.unambiguous, ResourceKey.unambiguous,
    fun _ _ => CapacityContribution.listKey_eq_iff⟩

end SiteFabric
