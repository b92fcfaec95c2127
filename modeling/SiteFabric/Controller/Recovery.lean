import SiteFabric.Controller.Replays

/-! What a start makes of a store.
The epoch comes from the snapshot of the highest sequence and from the leases, a
domain's publication is the first of its highest generation, and the acceptance
mark is the highest on file. Compaction picks by rules of its own, so what it
leaves gives the same only where the two agree. -/

namespace SiteFabric

open Lib Authority Store
open Std (ExtTreeMap)

/-! The term. -/

theorem le_raiseEpoch (epoch : Epoch) (leases : List AuthorityToken) :
    epoch ≤ raiseEpoch epoch leases :=
  le_foldl_highest (fun _ _ => rfl) leases epoch

theorem lease_le_raiseEpoch {lease : AuthorityToken} (kind : lease.kind = .siteController)
    {leases : List AuthorityToken} (listed : lease ∈ leases) (epoch : Epoch) :
    lease.epoch ≤ raiseEpoch epoch leases :=
  @value_le_foldl_highest AuthorityToken Epoch _ _ _ _ _ _ (fun lease => lease.kind = .siteController)
    _ (fun lease => lease.epoch) (fun _ _ => rfl) leases lease kind listed epoch

/-- The epoch is the snapshot's, or that of one of the leases. -/
theorem raiseEpoch_cases (epoch : Epoch) (leases : List AuthorityToken) :
    raiseEpoch epoch leases = epoch ∨
      ∃ lease ∈ leases, lease.kind = .siteController ∧ raiseEpoch epoch leases = lease.epoch :=
  foldl_highest_cases (fun _ _ => rfl) leases epoch

/-- The last epoch there is. -/
def Epoch.last : Epoch := ⟨0xFFFFFFFFFFFFFFFF⟩

/-- The next term is above every epoch up to this one but the last. -/
theorem SiteController.lt_nextTerm_iff {c : SiteController} {epoch : Epoch} :
    epoch < c.nextTerm.epoch ↔ epoch ≤ c.epoch ∧ epoch ≠ .last := by
  have lt (a b : Epoch) : a < b ↔ a.value.toNat < b.value.toNat := Iff.rfl
  have le (a b : Epoch) : a ≤ b ↔ a.value.toNat ≤ b.value.toNat := Iff.rfl
  have last : epoch = .last ↔ epoch.value.toNat = 18446744073709551615 := by
    rw [← Epoch.rank_injective.eq_iff]
    rfl
  have own : c.epoch.value = 0xFFFFFFFFFFFFFFFF ↔ c.epoch.value.toNat = 18446744073709551615 := by
    rw [← UInt64.toNat_inj]
    rfl
  have unset : c.epoch.value = 0 ↔ c.epoch.value.toNat = 0 := by
    rw [← UInt64.toNat_inj]
    rfl
  have one : (1 : UInt64).toNat = 1 := rfl
  have bound := c.epoch.value.toNat_lt
  have bound' := epoch.value.toNat_lt
  rw [lt, le, Ne, last]
  unfold nextTerm Epoch.isSet Epoch.next Epoch.initial
  dsimp only
  split
  · split
    · next top =>
      rw [own] at top
      omega
    · next below =>
      rw [own] at below
      have sum : (c.epoch.value + 1).toNat = c.epoch.value.toNat + 1 := by
        rw [UInt64.toNat_add, one]
        exact Nat.mod_eq_of_lt (by omega)
      dsimp only
      omega
  · next zero =>
    rw [bne_iff_ne, not_not, unset] at zero
    rw [one]
    omega

namespace Store

/-- The snapshot a load calls the latest is the last of the history it sorted. -/
structure StoreContents.Gathered (contents : StoreContents) : Prop where
  has : contents.hasSnapshot = !contents.snapshotHistory.isEmpty
  latest : contents.latestSnapshot = contents.snapshotHistory.getLast?.getD {}

variable [StdSort]

theorem gathered_collect (accepted : List Content) (recovery : StoreRecoveryReport) :
    (collect accepted recovery).Gathered := ⟨rfl, rfl⟩

omit [StdSort] in
/-- The latest snapshot is one of the history, or there is none. -/
theorem StoreContents.Gathered.latest_cases {contents : StoreContents}
    (gathered : contents.Gathered) :
    contents.latestSnapshot ∈ contents.snapshotHistory ∧ contents.hasSnapshot = true ∨
      contents.latestSnapshot = {} ∧ contents.hasSnapshot = false := by
  rw [gathered.has, gathered.latest]
  cases last : contents.snapshotHistory.getLast? with
  | none =>
    rw [List.getLast?_eq_none_iff.mp last]
    exact .inr ⟨rfl, rfl⟩
  | some s =>
    have listed := List.mem_of_getLast? last
    refine .inl ⟨listed, ?_⟩
    rw [Bool.not_eq_true', List.isEmpty_eq_false_iff]
    exact List.ne_nil_of_mem listed

/-- The contents a controller loads from a file it opened: those of the scan, or
what a compaction kept of them. -/
theorem openStore_load {config : StoreConfig} {io : Answers} {image : List UInt8} {s : SiteStore}
    (opened : SiteStore.openStore config io (some image) = (.ok, s)) :
    s.load.Gathered ∧ s.load.leases = (scanImage image).1.leases ∧
      ∀ t ∈ s.load.snapshotHistory, ∃ origin ∈ (scanImage image).1.snapshotHistory,
        origin.epoch = t.epoch := by
  obtain ⟨bounded, whole, usable, -, ways⟩ := SiteStore.openStore_ok opened
  obtain ⟨head, segments, recovery, headed, scanned, ends, -⟩ := cutBack_ends usable
  obtain ⟨report, same⟩ := readFile_cutBack headed ends ((length_cutBack_le image).trans whole)
  rcases ways with ⟨-, open_⟩ | ⟨-, -, open_, room⟩
  · have loaded : s.load = collect (accepted segments) report := by
      rw [SiteStore.load, open_.file, same]
    rw [loaded, scanned]
    exact ⟨⟨rfl, rfl⟩, rfl, fun t listed => ⟨t, listed, rfl⟩⟩
  · obtain ⟨clean, scan, -⟩ := SiteStore.scanImage_compacted config segments report same
    rw [SiteStore.load_eq open_.file (room.trans bounded), scan, scanned, same]
    refine ⟨⟨rfl, rfl⟩, leases_byKind .., fun t listed => ?_⟩
    have kept := mem_sort.mp listed
    rw [snapshots_byKind, List.mem_map] at kept
    obtain ⟨origin, among, rfl⟩ := kept
    exact ⟨origin, List.mem_of_mem_drop among, rfl⟩

end Store

namespace SiteController

variable [StdSort]

/-- A controller with a store that has started is one that read the store and
took the next term. -/
theorem start_read {c : SiteController} {io : Moment} {image : List UInt8}
    (persistent : c.config.persistent = true) (ok : (c.start io (some image)).status = .ok) :
    ∃ store recovered, SiteStore.openStore c.storeConfig io.opening (some image) = (.ok, store) ∧
      c.read store = (.ok, recovered) ∧
      { recovered.nextTerm with running := true }.Retains (c.start io (some image)).controller := by
  rcases start_ok ok with ⟨volatile, -⟩ | ⟨-, store, recovered, opened, read, office, same⟩
  · rw [persistent] at volatile
    cases volatile
  · rw [same]
    exact ⟨store, recovered, opened, read, (takeOffice_ok office).1⟩

omit [StdSort] in
/-- The epoch a controller recovers. -/
theorem recover_epoch {c : SiteController} (unset : c.epoch = {}) {contents : StoreContents}
    (gathered : contents.Gathered) (ok : (c.recover contents).1 = .ok) :
    (c.recover contents).2.epoch = raiseEpoch contents.latestSnapshot.epoch contents.leases := by
  unfold recover at ok ⊢
  dsimp only at ok ⊢
  split at ok
  · next refused =>
    rw [ok] at refused
    cases refused
  next taken =>
  rw [if_neg taken]
  refine congrArg (raiseEpoch · contents.leases) ?_
  unfold takeSnapshot at taken ⊢
  dsimp only at taken ⊢
  rcases gathered.latest_cases with ⟨-, has⟩ | ⟨latest, has⟩
  · rw [if_neg (by simp [has])] at taken ⊢
    split at taken
    · next refused => exact absurd refused taken
    next restored => rw [if_neg restored]
  · rw [if_pos (by simp [has]), latest, unset]

end SiteController

/-- When a start takes a new term over what a scan accepted, by what it loads of
the file it opened: the contents it takes over have a snapshot or a lease at the
highest epoch accepted, which is not the last one there is, and contents it does
not take over leave no epoch behind. -/
def Renews (accepted loaded : StoreContents) : Prop :=
  if recovers loaded.recovery.status then
    (∀ s ∈ accepted.snapshotHistory, s.epoch ≠ .last ∧ (s.epoch ≤ loaded.latestSnapshot.epoch ∨
      ∃ lease ∈ accepted.leases, lease.kind = .siteController ∧ s.epoch ≤ lease.epoch)) ∧
    ∀ lease ∈ accepted.leases, lease.kind = .siteController → lease.epoch ≠ .last
  else
    (∀ s ∈ accepted.snapshotHistory, s.epoch.isSet = false) ∧
    ∀ lease ∈ accepted.leases, lease.kind = .siteController → lease.epoch.isSet = false

/-- A start takes a term above every snapshot and every controller lease the scan
of its file accepts exactly under the condition above. -/
theorem restart_renews_term_iff [StdSort] {config : ControllerConfig} {nonce : BootNonce}
    {c : SiteController} (io : Moment) (image : List UInt8)
    (created : SiteController.create config nonce = .ok c)
    (persistent : config.persistent = true) (ok : (c.start io (some image)).status = .ok) :
    ∃ store, SiteStore.openStore c.storeConfig io.opening (some image) = (.ok, store) ∧
      (((∀ s ∈ (scanImage image).1.snapshotHistory,
            s.epoch < (c.start io (some image)).controller.epoch) ∧
          ∀ lease ∈ (scanImage image).1.leases, lease.kind = .siteController →
            lease.epoch < (c.start io (some image)).controller.epoch) ↔
        Renews (scanImage image).1 store.load) := by
  obtain ⟨expectation, fields⟩ := SiteController.create_ok created
  have kept : c.config.persistent = true := by
    rw [fields]
    exact persistent
  have unset : c.epoch = {} := by
    rw [fields]
    rfl
  obtain ⟨store, recovered, opened, read, same⟩ := SiteController.start_read kept ok
  refine ⟨store, opened, ?_⟩
  have term : (c.start io (some image)).controller.epoch = recovered.nextTerm.epoch := same.epoch
  obtain ⟨gathered, leases, origins⟩ := openStore_load opened
  rw [term]
  simp only [SiteController.lt_nextTerm_iff]
  unfold SiteController.read at read
  dsimp only at read
  unfold Renews
  split at read
  · next taken =>
    rw [if_pos taken]
    have ok : (SiteController.recover { c with store := some store, journal := [] } store.load).1 =
        .ok := congrArg Prod.fst read
    have fresh : ({ c with store := some store, journal := [] } : SiteController).epoch = {} := unset
    have raised := SiteController.recover_epoch fresh gathered ok
    rw [read, leases] at raised
    rw [raised]
    constructor
    · rintro ⟨snapshots, controllers⟩
      refine ⟨fun s listed => ⟨(snapshots s listed).2, ?_⟩,
        fun lease listed kind => (controllers lease listed kind).2⟩
      rcases raiseEpoch_cases store.load.latestSnapshot.epoch (scanImage image).1.leases with
        same | ⟨lease, member, kind, same⟩
      · exact .inl (same ▸ (snapshots s listed).1)
      · exact .inr ⟨lease, member, kind, same ▸ (snapshots s listed).1⟩
    · rintro ⟨snapshots, controllers⟩
      refine ⟨fun s listed => ⟨?_, (snapshots s listed).1⟩,
        fun lease listed kind => ⟨lease_le_raiseEpoch kind listed _, controllers lease listed kind⟩⟩
      rcases (snapshots s listed).2 with below | ⟨lease, member, kind, below⟩
      · exact below.trans (le_raiseEpoch _ _)
      · exact below.trans (lease_le_raiseEpoch kind member _)
  · next blank =>
    rw [if_neg blank]
    cases read
    have start (e : Epoch) : (e ≤ c.epoch ∧ e ≠ .last) ↔ e.isSet = false := by
      rw [unset]
      constructor
      · rintro ⟨below, -⟩
        by_contra set
        exact absurd below (not_le.mpr (Epoch.unset_lt_of_isSet (by simpa using set)))
      · intro clear
        have zero : e = {} := by
          have value : e.value = 0 := by simpa [Epoch.isSet] using clear
          exact Epoch.rank_injective (congrArg UInt64.toNat value)
        rw [zero]
        exact ⟨le_rfl, by decide⟩
    simp only [start]

/-- The lease of a controller in its fifth term. -/
def fifthTerm : AuthorityToken where
  kind := .siteController
  holder := ascii "controller-0"
  site := ⟨ascii "site-1"⟩
  epoch := ⟨5⟩
  incarnation := ⟨1, ⟨ascii "boot-0"⟩⟩
  generation := ⟨1⟩
  leaseId := 1

def termed : List UInt8 := makeFileHeader ++ (Content.lease fifthTerm).record

theorem sixth_term_is_taken :
    (SiteController.stored.start .sample (some termed)).status = .ok ∧
      ∀ lease ∈ (scanImage termed).1.leases, lease.kind = .siteController →
        lease.epoch < (SiteController.stored.start .sample (some termed)).controller.epoch := by
  have started : (SiteController.stored.start .sample (some termed)).status = .ok := by
    decide +kernel
  refine ⟨started, ?_⟩
  obtain ⟨store, opened, renews⟩ := restart_renews_term_iff .sample termed
    SiteController.stored_created rfl started
  have same : store = (SiteStore.openStore SiteController.stored.storeConfig
      Moment.sample.opening (some termed)).2 := by rw [opened]
  refine (renews.mpr ?_).2
  rw [same]
  unfold Renews
  decide +kernel

/-- Behind a record that has lost its magic a start begins with the first term
again, whatever terms the file has seen. -/
theorem damaged_tail_repeats_term :
    let image := termed ++ List.replicate 80 0
    (SiteController.stored.start .sample (some image)).status = .ok ∧
      ∃ lease ∈ (scanImage image).1.leases, lease.kind = .siteController ∧
        (SiteController.stored.start .sample (some image)).controller.epoch < lease.epoch := by
  have ran : (SiteController.stored.start .sample
        (some (termed ++ List.replicate 80 0))).status = .ok ∧
      (SiteController.stored.read (SiteStore.openStore SiteController.stored.storeConfig
        Moment.sample.opening (some (termed ++ List.replicate 80 0))).2).2.nextTerm.epoch = ⟨1⟩ ∧
      fifthTerm ∈ (scanImage (termed ++ List.replicate 80 0)).1.leases := by decide +kernel
  obtain ⟨ok, reset, kept⟩ := ran
  obtain ⟨store, recovered, opened, read, same⟩ := SiteController.start_read rfl ok
  have first : recovered.nextTerm.epoch = ⟨1⟩ := by
    have held : store = (SiteStore.openStore SiteController.stored.storeConfig
        Moment.sample.opening (some (termed ++ List.replicate 80 0))).2 := by rw [opened]
    have taken : recovered = (SiteController.stored.read store).2 := by rw [read]
    rw [taken, held]
    exact reset
  refine ⟨ok, fifthTerm, kept, rfl, ?_⟩
  have term : (SiteController.stored.start .sample
    (some (termed ++ List.replicate 80 0))).controller.epoch = _ := same.epoch.trans first
  rw [term]
  decide

end SiteFabric
