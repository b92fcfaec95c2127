import SiteFabric.Controller.Chain
import SiteFabric.Lib.Run

/-! The digests of the snapshots a chain holds.
A publication computes both digests of what it puts into the chain. A restore
checks the digest of the state, and the envelope digest only where there is one;
a snapshot that was read has none. -/

namespace SiteFabric

open Lib

/-- Both digests are the snapshot's own. -/
structure SiteSnapshot.Verifies (s : SiteSnapshot) : Prop where
  site : s.siteDigest = composedSiteDigest s.state
  envelope : s.snapshotDigest = snapshotEnvelopeDigest s

instance (s : SiteSnapshot) : Decidable s.Verifies :=
  decidable_of_iff (s.siteDigest = composedSiteDigest s.state ∧
    s.snapshotDigest = snapshotEnvelopeDigest s)
    ⟨fun both => ⟨both.1, both.2⟩, fun verifies => ⟨verifies.site, verifies.envelope⟩⟩

namespace SnapshotChain

inductive ChainCall where
  | publish (snapshot : SiteSnapshot) (token : Authority.AuthorityToken) (nowMs : Int64)
  | restore (snapshot : SiteSnapshot)

def call (chain : SnapshotChain) : ChainCall → SnapshotChain
  | .publish snapshot token nowMs => (chain.publish snapshot token nowMs).1
  | .restore snapshot => (chain.restore snapshot).2

def Verified (chain : SnapshotChain) : Prop := ∀ s ∈ chain.history, s.Verifies

instance (chain : SnapshotChain) : Decidable chain.Verified :=
  inferInstanceAs (Decidable (∀ s ∈ chain.history, s.Verifies))

/-- A snapshot that can stand behind the last of the chain: well formed, with
the digest of its state, and newer. -/
structure Follows (chain : SnapshotChain) (s : SiteSnapshot) : Prop where
  site : s.site.valid = true
  epoch : s.epoch.isSet = true
  numbered : s.sequence ≠ 0
  digest : composedSiteDigest s.state = s.siteDigest
  newer : ∀ last, chain.current = some last → last.sequence < s.sequence

/-- A snapshot that is restored behind the last carries its envelope digest. -/
def Enveloped (chain : SnapshotChain) : ChainCall → Prop
  | .publish _ _ _ => True
  | .restore s => chain.Follows s → s.snapshotDigest.isZero = true →
      s.snapshotDigest = snapshotEnvelopeDigest s

theorem stamp_verifies (s : SiteSnapshot) (sequence : UInt64) : (stamp s sequence).Verifies :=
  ⟨rfl, rfl⟩

theorem push_history (chain : SnapshotChain) (s : SiteSnapshot) :
    (chain.push s).history =
      (chain.history ++ [s]).drop ((chain.history ++ [s]).length - chain.limit) := rfl

theorem mem_push {chain : SnapshotChain} {s other : SiteSnapshot}
    (member : other ∈ (chain.push s).history) : other ∈ chain.history ∨ other = s := by
  have kept := List.mem_of_mem_drop member
  simpa using kept

/-- A snapshot that is pushed stays. -/
theorem mem_push_self {chain : SnapshotChain} (limited : 0 < chain.limit) (s : SiteSnapshot) :
    s ∈ (chain.push s).history := by
  rw [push_history, List.drop_append_of_le_length (by simp; omega)]
  exact List.mem_append_right _ (List.mem_singleton_self s)

theorem setHistoryLimit_pos (chain : SnapshotChain) (historyLimit : Nat) :
    0 < (chain.setHistoryLimit historyLimit).limit := by
  unfold setHistoryLimit
  dsimp only
  split
  · decide
  · split
    · decide
    · omega

/-- Everything a publication can do to a chain. -/
theorem publish_cases (chain : SnapshotChain) (s : SiteSnapshot) (token : Authority.AuthorityToken)
    (nowMs : Int64) :
    (chain.publish s token nowMs).1 = chain ∨
    (chain.publish s token nowMs).1 = { chain with history := [stamp s 1] } ∨
    ∃ sequence, (chain.publish s token nowMs).1 = chain.push (stamp s sequence) := by
  unfold publish
  split
  · exact .inl rfl
  split
  · exact .inr (.inl rfl)
  dsimp only
  split
  · exact .inl rfl
  · exact .inl rfl
  · exact .inr (.inr ⟨_, rfl⟩)

/-- A restore pushes a snapshot that follows and whose envelope digest is its own
or missing, and refuses any other. -/
theorem restore_cases (chain : SnapshotChain) (s : SiteSnapshot) :
    (chain.Follows s ∧ (s.snapshotDigest.isZero = true ∨ s.snapshotDigest = snapshotEnvelopeDigest s) ∧
      chain.restore s = (.ok, chain.push s)) ∨
    (¬ (chain.Follows s ∧
        (s.snapshotDigest.isZero = true ∨ s.snapshotDigest = snapshotEnvelopeDigest s)) ∧
      (chain.restore s).1 ≠ .ok ∧ (chain.restore s).2 = chain) := by
  unfold restore
  split
  · next malformed =>
    refine .inr ⟨fun ⟨follows, _⟩ => ?_, by simp, rfl⟩
    simp only [Bool.or_eq_true, Bool.not_eq_true', beq_iff_eq] at malformed
    rcases malformed with (site | epoch) | unnumbered
    · rw [follows.site] at site
      cases site
    · rw [follows.epoch] at epoch
      cases epoch
    · exact follows.numbered unnumbered
  next formed =>
  split
  · next wrong => exact .inr ⟨fun ⟨follows, _⟩ => wrong follows.digest, by simp, rfl⟩
  next digest =>
  split
  · next wrong =>
    obtain ⟨present, differs⟩ := Bool.and_eq_true_iff.mp wrong
    refine .inr ⟨?_, by simp, rfl⟩
    rintro ⟨-, missing | own⟩
    · rw [missing] at present
      cases present
    · exact bne_iff_ne.mp differs own.symm
  next own =>
  have enveloped : s.snapshotDigest.isZero = true ∨ s.snapshotDigest = snapshotEnvelopeDigest s := by
    cases missing : s.snapshotDigest.isZero with
    | true => exact .inl rfl
    | false =>
      rw [missing, Bool.not_false, Bool.true_and, bne_iff_ne, not_not] at own
      exact .inr own.symm
  simp only [Bool.or_eq_true, Bool.not_eq_true', beq_iff_eq, not_or, Bool.not_eq_false] at formed
  obtain ⟨⟨site, epoch⟩, numbered⟩ := formed
  have sound := of_not_not digest
  split
  · next none =>
    refine .inl ⟨⟨site, epoch, numbered, sound, fun last some => ?_⟩, enveloped, rfl⟩
    rw [none] at some
    cases some
  next last current =>
  split
  · next same =>
    refine .inr ⟨fun ⟨follows, _⟩ => ?_, by simp, rfl⟩
    have newer := follows.newer last current
    rw [same] at newer
    exact absurd newer (UInt64.lt_irrefl _)
  next other =>
  split
  · next older =>
    refine .inr ⟨fun ⟨follows, _⟩ => ?_, by simp, rfl⟩
    exact absurd (follows.newer last current) (UInt64.lt_asymm older)
  next newer =>
  refine .inl ⟨⟨site, epoch, numbered, sound, fun found some => ?_⟩, enveloped, rfl⟩
  obtain rfl := Option.some.inj (current.symm.trans some)
  rw [UInt64.lt_iff_toNat_lt] at newer ⊢
  have apart : s.sequence.toNat ≠ last.sequence.toNat := fun same => other (UInt64.toNat_inj.mp same)
  omega

theorem limit_call (chain : SnapshotChain) (c : ChainCall) : (chain.call c).limit = chain.limit := by
  cases c with
  | publish s token nowMs =>
    rcases chain.publish_cases s token nowMs with same | same | ⟨_, same⟩ <;> rw [call, same]
    rfl
  | restore s =>
    rcases chain.restore_cases s with ⟨-, -, same⟩ | ⟨-, -, same⟩ <;> rw [call, same]
    rfl

/-- A call keeps a verified chain verified exactly when what it restores carries
its envelope digest. -/
theorem call_verified_iff {chain : SnapshotChain} (limited : 0 < chain.limit)
    (verified : chain.Verified) (c : ChainCall) :
    (chain.call c).Verified ↔ chain.Enveloped c := by
  have pushed : ∀ s : SiteSnapshot, (chain.push s).Verified ↔ s.Verifies := fun s => by
    refine ⟨fun all => all s (mem_push_self limited s), fun own other member => ?_⟩
    rcases mem_push member with old | rfl
    · exact verified other old
    · exact own
  cases c with
  | publish s token nowMs =>
    refine iff_of_true ?_ trivial
    rcases chain.publish_cases s token nowMs with same | same | ⟨sequence, same⟩ <;> rw [call, same]
    · exact verified
    · exact fun other member => List.mem_singleton.mp member ▸ stamp_verifies s 1
    · exact (pushed _).mpr (stamp_verifies s sequence)
  | restore s =>
    rcases chain.restore_cases s with ⟨follows, enveloped, same⟩ | ⟨not, -, same⟩
    · rw [call, same, pushed]
      constructor
      · exact fun verifies _ _ => verifies.envelope
      · intro carries
        refine ⟨follows.digest.symm, ?_⟩
        rcases enveloped with missing | own
        · exact carries follows missing
        · exact own
    · rw [call, same]
      exact iff_of_true verified fun follows missing => absurd ⟨follows, .inl missing⟩ not

/-- In every state of a run from an empty chain every snapshot verifies exactly
when each snapshot that was restored behind the last carries its envelope digest. -/
theorem history_verifies_iff (historyLimit : Nat) (calls : List ChainCall) :
    (∀ before, before <+: calls →
        (run call (({} : SnapshotChain).setHistoryLimit historyLimit) before).Verified) ↔
      Guarded call Enveloped (({} : SnapshotChain).setHistoryLimit historyLimit) calls := by
  have empty : (({} : SnapshotChain).setHistoryLimit historyLimit).Verified :=
    fun s member => absurd member List.not_mem_nil
  have limited := setHistoryLimit_pos {} historyLimit
  generalize ({} : SnapshotChain).setHistoryLimit historyLimit = chain at empty limited
  induction calls generalizing chain with
  | nil =>
    refine iff_of_true (fun before none => ?_) trivial
    rw [List.prefix_nil.mp none]
    exact empty
  | cons c calls ih =>
    have next := call_verified_iff limited empty c
    constructor
    · intro all
      have first : (chain.call c).Verified := all [c] ⟨calls, rfl⟩
      refine ⟨next.mp first, (ih _ first (by rwa [limit_call])).mp fun before inside => ?_⟩
      exact all (c :: before) (List.prefix_cons_inj c |>.mpr inside)
    · rintro ⟨carries, later⟩ before inside
      rcases List.prefix_cons_iff.mp inside with rfl | ⟨rest, rfl, more⟩
      · exact empty
      · have first := next.mpr carries
        exact (ih _ first (by rwa [limit_call])).mpr later rest more

end SnapshotChain

/-- A snapshot as a store or a frame yields it. -/
def SiteSnapshot.reread : SiteSnapshot :=
  Codec.snapshotBody.stored (SnapshotChain.stamp
    { site := ⟨ascii "site-1"⟩, epoch := ⟨1⟩, generation := ⟨1⟩
      state := { site := ⟨ascii "site-1"⟩, epoch := ⟨1⟩, generation := ⟨1⟩ } } 1)

/-- A snapshot that was read is restored without the envelope digest of its own. -/
theorem SnapshotChain.restored_snapshot_does_not_verify :
    Codec.snapshotBody.read SiteSnapshot.reread.write = .ok (.reread, []) ∧
      SiteSnapshot.reread ∈ (run SnapshotChain.call (({} : SnapshotChain).setHistoryLimit 0)
        [.restore .reread]).history ∧ ¬ SiteSnapshot.reread.Verifies := by
  decide +kernel

end SiteFabric
