import SiteFabric.Store.Format

/-! The snapshot chain.
The chain keeps the snapshots it accepted, oldest first, and fences a new one
against the last. It numbers what it accepts, and drops from the front what is
above its limit. -/

namespace SiteFabric

open Authority Canonical

namespace Limits

def maxSnapshotHistory : Nat := 4096

end Limits

/-- The snapshot without its state and its own digest. -/
def SiteSnapshot.envelope (s : SiteSnapshot) : List UInt8 :=
  text s.site.value ++ Canonical.epoch s.epoch ++ Canonical.generation s.generation ++
    Canonical.incarnation s.incarnation ++ u64 s.sequence ++ Canonical.digest s.siteDigest ++
    i64 s.publishedAtMs ++ tag s.lifecycle.ctorIdx ++ tag s.status.ctorIdx ++ flag s.complete ++
    sourceSet s.sources ++ Canonical.factors s.factors

def snapshotEnvelopeDigest (s : SiteSnapshot) : Digest := Sha256.digestBytes s.envelope

/-- `recompute_digest`: a digest already there must be the state's. -/
def SiteSnapshot.recomputeDigest (s : SiteSnapshot) : Status × SiteSnapshot :=
  if !s.siteDigest.isZero && composedSiteDigest s.state != s.siteDigest then
    (.integrityFailure, s)
  else
    let s := { s with siteDigest := composedSiteDigest s.state }
    (.ok, { s with snapshotDigest := snapshotEnvelopeDigest s })

structure SnapshotPublishResult where
  status : Status := .unknown
  sequence : UInt64 := 0
  factors : Factors := {}
deriving DecidableEq

def SnapshotPublishResult.accepted (r : SnapshotPublishResult) : Bool :=
  r.status == .ok || r.status == .published || r.status == .alreadyExists

structure SnapshotChain where
  history : List SiteSnapshot := []
  limit : Nat := Limits.defaultSnapshotHistory
deriving DecidableEq

namespace SnapshotChain

def setHistoryLimit (chain : SnapshotChain) (historyLimit : Nat) : SnapshotChain :=
  let limit := if historyLimit = 0 then Limits.defaultSnapshotHistory else historyLimit
  { chain with
    limit := if limit > Limits.maxSnapshotHistory then Limits.maxSnapshotHistory else limit }

def current (chain : SnapshotChain) : Option SiteSnapshot := chain.history.getLast?

def atSequence (chain : SnapshotChain) (sequence : UInt64) : Option SiteSnapshot :=
  chain.history.find? (·.sequence = sequence)

/-- Appends behind a snapshot and drops what is above the limit. -/
def push (chain : SnapshotChain) (snapshot : SiteSnapshot) : SnapshotChain :=
  let history := chain.history ++ [snapshot]
  { chain with history := history.drop (history.length - chain.limit) }

/-- What the last snapshot says to a token and a new snapshot. -/
inductive Fence where
  | refused (status : Status) (factor : Text)
  | republication
  | passed

def fence (last : SiteSnapshot) (token : AuthorityToken) (candidate : SiteSnapshot) : Fence :=
  if token.epoch < last.epoch then .refused .fencedEpoch (ascii "lower_epoch")
  else if token.epoch = last.epoch then
    if token.incarnation ≠ last.incarnation then
      if token.incarnation.sequence < last.incarnation.sequence then
        .refused .fencedIncarnation (ascii "lower_incarnation_sequence")
      else .passed
    else if token.generation < last.generation then
      .refused .fencedGeneration (ascii "lower_generation")
    else if token.generation = last.generation then
      if candidate.siteDigest = last.siteDigest then .republication
      else .refused .fencedGeneration (ascii "same_generation_different_content")
    else .passed
  else .passed

/-- What can be wrong with a snapshot and its token before the chain is asked. -/
def checkOffer (snapshot : SiteSnapshot) (token : AuthorityToken) (nowMs : Int64) :
    Option (Status × Text) :=
  if !snapshot.site.valid || !snapshot.epoch.isSet then some (.invalid, ascii "snapshot_header")
  else if token.site ≠ snapshot.site then some (.siteMismatch, ascii "token_site_differs")
  else if !(token.evaluateAt nowMs).isOk then some (token.evaluateAt nowMs, ascii "token")
  else if snapshot.state.site ≠ snapshot.site then some (.invalid, ascii "state_site_differs")
  else if snapshot.state.epoch ≠ snapshot.epoch ∨
      snapshot.state.generation ≠ snapshot.generation then
    some (.invalid, ascii "state_epoch_or_generation_differs")
  else if !snapshot.siteDigest.isZero &&
      composedSiteDigest snapshot.state != snapshot.siteDigest then
    some (.integrityFailure, ascii "site_digest")
  else none

/-- A snapshot with a number and both digests of its own. -/
def stamp (snapshot : SiteSnapshot) (sequence : UInt64) : SiteSnapshot :=
  let s := { snapshot with sequence, siteDigest := composedSiteDigest snapshot.state }
  { s with snapshotDigest := snapshotEnvelopeDigest s }

def refuse (chain : SnapshotChain) (status : Status) (factor : Text) :
    SnapshotChain × SnapshotPublishResult :=
  (chain, { status, factors := ({} : Factors).push factor })

def publish (chain : SnapshotChain) (snapshot : SiteSnapshot) (token : AuthorityToken)
    (nowMs : Int64) : SnapshotChain × SnapshotPublishResult :=
  match checkOffer snapshot token nowMs with
  | some (status, factor) => chain.refuse status factor
  | none =>
    match chain.current with
    | none =>
      ({ chain with history := [stamp snapshot 1] }, { status := .published, sequence := 1 })
    | some last =>
      let candidate := stamp snapshot (last.sequence + 1)
      match fence last token candidate with
      | .refused status factor => chain.refuse status factor
      | .republication =>
        (chain,
          { status := .alreadyExists, sequence := last.sequence
            factors := ({} : Factors).add (ascii "republication") (ascii "identical") })
      | .passed =>
        (chain.push candidate, { status := .published, sequence := candidate.sequence })

/-- `restore`: a recovered snapshot enters the chain with the number it has. -/
def restore (chain : SnapshotChain) (snapshot : SiteSnapshot) : Status × SnapshotChain :=
  if !snapshot.site.valid || !snapshot.epoch.isSet || snapshot.sequence == 0 then (.invalid, chain)
  else if composedSiteDigest snapshot.state ≠ snapshot.siteDigest then (.integrityFailure, chain)
  else if !snapshot.snapshotDigest.isZero &&
      snapshotEnvelopeDigest snapshot != snapshot.snapshotDigest then
    (.integrityFailure, chain)
  else match chain.current with
    | none => (.ok, chain.push snapshot)
    | some last =>
      if snapshot.sequence = last.sequence then (.alreadyExists, chain)
      else if snapshot.sequence < last.sequence then (.replayed, chain)
      else (.ok, chain.push snapshot)

end SnapshotChain

end SiteFabric
