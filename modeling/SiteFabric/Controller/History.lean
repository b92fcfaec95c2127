import SiteFabric.Controller.Envelopes
import SiteFabric.Lib.Log

/-! The history of a snapshot chain.
A publication appends under the next number and a restore under the number of
its snapshot, which has to be newer; both drop the oldest entries above the
limit. What a number named once it names at every later moment. -/

namespace SiteFabric

open Lib Authority

/-- The order of publications: the term, the process in it, its generation. -/
def SiteSnapshot.rank (s : SiteSnapshot) : Epoch ×ₗ Nat ×ₗ Generation :=
  toLex (s.epoch, toLex (s.incarnation.sequence.toNat, s.generation))

namespace SnapshotChain

def epoch (chain : SnapshotChain) : Epoch :=
  match chain.current with
  | none => Epoch.unset
  | some last => last.epoch

/-- A token outranks the last snapshot: it carries a newer term, another process
of the term that is no older, or a newer generation. -/
structure Outranks (token : AuthorityToken) (last : SiteSnapshot) : Prop where
  term : last.epoch ≤ token.epoch
  process : token.epoch = last.epoch → token.incarnation ≠ last.incarnation →
    last.incarnation.sequence ≤ token.incarnation.sequence
  generation : token.epoch = last.epoch → token.incarnation = last.incarnation →
    last.generation < token.generation

instance (token : AuthorityToken) (last : SiteSnapshot) : Decidable (Outranks token last) :=
  decidable_of_iff (last.epoch ≤ token.epoch ∧
    (token.epoch = last.epoch → token.incarnation ≠ last.incarnation →
      last.incarnation.sequence ≤ token.incarnation.sequence) ∧
    (token.epoch = last.epoch → token.incarnation = last.incarnation →
      last.generation < token.generation))
    ⟨fun h => ⟨h.1, h.2.1, h.2.2⟩, fun h => ⟨h.term, h.process, h.generation⟩⟩

theorem fence_passed_iff (last : SiteSnapshot) (token : AuthorityToken) (candidate : SiteSnapshot) :
    fence last token candidate = .passed ↔ Outranks token last := by
  unfold fence
  split
  · next lower => exact iff_of_false (by simp) fun outranks => not_lt.mpr outranks.term lower
  next notLower =>
  split
  · next same =>
    split
    · next apart =>
      split
      · next older =>
        exact iff_of_false (by simp) fun outranks =>
          UInt64.not_lt.mpr (outranks.process same apart) older
      · next notOlder =>
        exact iff_of_true rfl ⟨not_lt.mp notLower, fun _ _ => UInt64.not_lt.mp notOlder,
          fun _ equal => absurd equal apart⟩
    · next equal =>
      have equal := not_not.mp equal
      split
      · next older =>
        exact iff_of_false (by simp) fun outranks =>
          (outranks.generation same equal).not_gt older
      next notOlder =>
      split
      · next tie =>
        refine iff_of_false (by split <;> simp) fun outranks => ?_
        exact (outranks.generation same equal).ne tie.symm
      · next apart =>
        exact iff_of_true rfl ⟨not_lt.mp notLower, fun _ other => absurd equal other,
          fun _ _ => lt_of_le_of_ne (not_lt.mp notOlder) (Ne.symm apart)⟩
  · next other =>
    exact iff_of_true rfl ⟨not_lt.mp notLower, fun same => absurd same other,
      fun same => absurd same other⟩

theorem checkOffer_ne_published {s : SiteSnapshot} {token : AuthorityToken} {nowMs : Int64}
    {status : Status} {factor : Text} (refused : checkOffer s token nowMs = some (status, factor)) :
    status ≠ .published := by
  unfold checkOffer AuthorityToken.evaluateAt at refused
  split_ifs at refused <;> cases refused <;> decide

theorem fence_refused_ne_published {last candidate : SiteSnapshot} {token : AuthorityToken}
    {status : Status} {factor : Text}
    (refused : fence last token candidate = .refused status factor) : status ≠ .published := by
  unfold fence at refused
  split_ifs at refused <;> cases refused <;> decide

/-- The number behind the last. -/
def nextSequence (chain : SnapshotChain) : UInt64 :=
  match chain.current with
  | none => 1
  | some last => last.sequence + 1

/-- The chain takes an offer: there is nothing wrong with it, and its token
outranks the last snapshot. -/
structure Takes (chain : SnapshotChain) (s : SiteSnapshot) (token : AuthorityToken)
    (nowMs : Int64) : Prop where
  clear : checkOffer s token nowMs = none
  outranks : ∀ last, chain.current = some last → Outranks token last

theorem push_empty {chain : SnapshotChain} (room : 0 < chain.limit) (empty : chain.current = none)
    (s : SiteSnapshot) : chain.push s = { chain with history := [s] } := by
  rw [current, List.getLast?_eq_none_iff] at empty
  have none : 1 - chain.limit = 0 := by omega
  simp [push, empty, none]

/-- A refusal is a failure. -/
theorem checkOffer_refuses {s : SiteSnapshot} {token : AuthorityToken} {nowMs : Int64}
    {status : Status} {factor : Text} (refused : checkOffer s token nowMs = some (status, factor)) :
    status.isOk = false := by
  unfold checkOffer at refused
  split_ifs at refused with _ _ expired <;> cases refused
  all_goals first | rfl | simpa using expired

theorem fence_refuses {last candidate : SiteSnapshot} {token : AuthorityToken}
    {status : Status} {factor : Text}
    (refused : fence last token candidate = .refused status factor) : status.isOk = false := by
  unfold fence at refused
  split_ifs at refused <;> cases refused <;> decide

/-- An offer that is not taken leaves the chain as it was, and is not answered PUBLISHED. -/
theorem publish_answer (chain : SnapshotChain) (s : SiteSnapshot) (token : AuthorityToken)
    (nowMs : Int64) :
    (¬ chain.Takes s token nowMs ∧ (chain.publish s token nowMs).1 = chain ∧
      ((chain.publish s token nowMs).2.status.isOk = false ∨
        (chain.publish s token nowMs).2.status = .alreadyExists)) ∨
    (chain.Takes s token nowMs ∧ (chain.publish s token nowMs).2.status = .published) := by
  unfold publish
  split
  · next refused =>
    refine .inl ⟨fun takes => ?_, rfl, .inl (checkOffer_refuses refused)⟩
    rw [takes.clear] at refused
    cases refused
  next clear =>
  split
  · next empty =>
    refine .inr ⟨⟨clear, fun last some => ?_⟩, rfl⟩
    rw [empty] at some
    cases some
  next last current =>
  have fenced := fence_passed_iff last token (stamp s (last.sequence + 1))
  have taken : chain.Takes s token nowMs →
      fence last token (stamp s (last.sequence + 1)) = .passed :=
    fun takes => fenced.mpr (takes.outranks last current)
  dsimp only
  split
  · next refused =>
    refine .inl ⟨fun takes => ?_, rfl, .inl (fence_refuses refused)⟩
    cases refused.symm.trans (taken takes)
  · next same =>
    refine .inl ⟨fun takes => ?_, rfl, .inr rfl⟩
    cases same.symm.trans (taken takes)
  · next passed =>
    refine .inr ⟨⟨clear, fun other there => ?_⟩, rfl⟩
    rw [current] at there
    cases there
    exact fenced.mp passed

/-- Every exit of a publication. -/
theorem publish_exits {chain : SnapshotChain} (room : 0 < chain.limit) (s : SiteSnapshot)
    (token : AuthorityToken) (nowMs : Int64) :
    (¬ chain.Takes s token nowMs ∧ (chain.publish s token nowMs).1 = chain ∧
      (chain.publish s token nowMs).2.status ≠ .published) ∨
    (chain.Takes s token nowMs ∧
      chain.publish s token nowMs = (chain.push (stamp s chain.nextSequence),
        { status := .published, sequence := chain.nextSequence })) := by
  unfold publish
  split
  · next refused =>
    refine .inl ⟨fun takes => ?_, rfl, checkOffer_ne_published refused⟩
    rw [takes.clear] at refused
    cases refused
  next clear =>
  split
  · next empty =>
    refine .inr ⟨⟨clear, fun last some => ?_⟩, ?_⟩
    · rw [empty] at some
      cases some
    · rw [nextSequence, empty, push_empty room empty]
  next last current =>
  have fenced := fence_passed_iff last token (stamp s (last.sequence + 1))
  dsimp only
  split
  · next refused =>
    refine .inl ⟨fun takes => ?_, rfl, fence_refused_ne_published refused⟩
    rw [fenced.mpr (takes.outranks last current)] at refused
    cases refused
  · next republished =>
    refine .inl ⟨fun takes => ?_, rfl, by simp⟩
    rw [fenced.mpr (takes.outranks last current)] at republished
    cases republished
  · next passed =>
    refine .inr ⟨⟨clear, fun other some => ?_⟩, by rw [nextSequence, current]; rfl⟩
    rw [← Option.some.inj (current.symm.trans some)]
    exact fenced.mp passed

section Ranks

/-- A snapshot offered for publication. -/
structure Offering where
  snapshot : SiteSnapshot
  token : AuthorityToken
  nowMs : Int64

/-- The offer of an empty site under a token of its own. -/
def Offering.sample (epoch sequence : UInt64) (boot : Text) (generation : UInt64) : Offering where
  snapshot := { site := ⟨ascii "site-1"⟩, epoch := ⟨epoch⟩, generation := ⟨generation⟩
                incarnation := ⟨sequence, ⟨boot⟩⟩
                state := { site := ⟨ascii "site-1"⟩, epoch := ⟨epoch⟩
                           generation := ⟨generation⟩ } }
  token := { kind := .siteController, holder := ascii "controller", site := ⟨ascii "site-1"⟩
             epoch := ⟨epoch⟩, incarnation := ⟨sequence, ⟨boot⟩⟩, generation := ⟨generation⟩
             leaseId := 1, issuedAtMs := 1, expiresAtMs := 10 }
  nowMs := 1

def offer (chain : SnapshotChain) (o : Offering) : SnapshotChain :=
  (chain.publish o.snapshot o.token o.nowMs).1

/-- The snapshots a run publishes, as they enter the chain. -/
def published (chain : SnapshotChain) : List Offering → List SiteSnapshot
  | [] => []
  | o :: rest =>
    let answer := chain.publish o.snapshot o.token o.nowMs
    if answer.2.status = .published then answer.1.current.toList ++ answer.1.published rest
    else answer.1.published rest

/-- The token speaks for the publication its snapshot is. -/
structure Offering.Aligned (o : Offering) : Prop where
  epoch : o.token.epoch = o.snapshot.epoch
  incarnation : o.token.incarnation = o.snapshot.incarnation
  generation : o.token.generation = o.snapshot.generation

/-- No other process with the number of the last one publishes at its term a
generation that is not newer. -/
def Undisputed (chain : SnapshotChain) (o : Offering) : Prop :=
  checkOffer o.snapshot o.token o.nowMs = none → ∀ last, chain.current = some last →
    o.token.epoch = last.epoch → o.token.incarnation.sequence = last.incarnation.sequence →
    o.token.incarnation.boot ≠ last.incarnation.boot → last.generation < o.token.generation

/-- No token of the term of the last snapshot or a newer one outranks it for a
snapshot of an older term. -/
def Forward (chain : SnapshotChain) (o : Offering) : Prop :=
  checkOffer o.snapshot o.token o.nowMs = none → ∀ last, chain.current = some last →
    o.snapshot.epoch < last.epoch → ¬ Outranks o.token last

theorem current_push {chain : SnapshotChain} (room : 0 < chain.limit) (s : SiteSnapshot) :
    (chain.push s).current = some s :=
  getLast?_keepLast room

theorem limit_offer (chain : SnapshotChain) (o : Offering) :
    (chain.offer o).limit = chain.limit :=
  limit_call chain (.publish o.snapshot o.token o.nowMs)

/-- An aligned offer that outranks the last snapshot has a higher rank exactly
when its number is not disputed. -/
theorem rank_lt_iff {o : Offering} (aligned : o.Aligned) {last : SiteSnapshot}
    (outranks : Outranks o.token last) :
    last.rank < o.snapshot.rank ↔ (o.token.epoch = last.epoch →
      o.token.incarnation.sequence = last.incarnation.sequence →
      o.token.incarnation.boot ≠ last.incarnation.boot → last.generation < o.token.generation) := by
  simp only [SiteSnapshot.rank, Prod.Lex.toLex_lt_toLex, ← aligned.epoch, ← aligned.incarnation,
    ← aligned.generation, UInt64.toNat_inj, ← UInt64.lt_iff_toNat_lt]
  constructor
  · rintro (newer | ⟨same, newer | ⟨tie, newer⟩⟩) term sequence apart
    · exact absurd term newer.ne'
    · rw [sequence] at newer
      exact absurd newer (UInt64.lt_irrefl _)
    · exact newer
  · intro undisputed
    rcases outranks.term.lt_or_eq with newer | same
    · exact .inl newer
    refine .inr ⟨same, ?_⟩
    by_cases equal : o.token.incarnation = last.incarnation
    · exact .inr ⟨by rw [equal], outranks.generation same.symm equal⟩
    have older := outranks.process same.symm equal
    by_cases tie : o.token.incarnation.sequence = last.incarnation.sequence
    · refine .inr ⟨tie.symm, undisputed same.symm tie fun boot => equal ?_⟩
      cases here : o.token.incarnation
      cases there : last.incarnation
      simp_all
    · refine .inl ?_
      rw [UInt64.lt_iff_toNat_lt]
      rw [UInt64.le_iff_toNat_le] at older
      have apart : o.token.incarnation.sequence.toNat ≠ last.incarnation.sequence.toNat :=
        fun equal => tie (UInt64.toNat_inj.mp equal)
      omega

/-- The snapshots of a run behind the last of the chain climb in rank exactly
when no offer disputes the number of a process. -/
theorem climbs_iff {chain : SnapshotChain} (room : 0 < chain.limit) {offers : List Offering}
    (aligned : ∀ o ∈ offers, o.Aligned) :
    (chain.current.toList ++ chain.published offers).IsChain (·.rank < ·.rank) ↔
      Guarded offer Undisputed chain offers := by
  induction offers generalizing chain with
  | nil =>
    refine iff_of_true ?_ trivial
    cases current : chain.current <;> simp [published]
  | cons o rest ih =>
    have first := aligned o List.mem_cons_self
    have next := @ih (chain.offer o) ((limit_offer chain o).symm ▸ room)
      fun other later => aligned other (List.mem_cons_of_mem _ later)
    rw [Guarded, ← next]
    have undisputed_of_refused (refused : ¬ chain.Takes o.snapshot o.token o.nowMs) :
        chain.Undisputed o := by
      intro clear last current term sequence apart
      refine absurd ⟨clear, fun other found => ?_⟩ refused
      obtain rfl := Option.some.inj (current.symm.trans found)
      exact ⟨term.ge, fun _ _ => UInt64.le_of_eq sequence.symm,
        fun _ equal => absurd (congrArg Incarnation.boot equal) apart⟩
    rw [published]
    rcases publish_exits room o.snapshot o.token o.nowMs with
      ⟨refused, same, status⟩ | ⟨takes, same⟩
    · rw [if_neg status, offer, same]
      exact (and_iff_right (undisputed_of_refused refused)).symm
    · rw [if_pos (by rw [same]), offer, same]
      dsimp only
      rw [current_push room]
      cases current : chain.current with
      | none =>
        refine (and_iff_right fun _ last found => ?_).symm
        rw [current] at found
        cases found
      | some last =>
        have risen := rank_lt_iff first (takes.outranks last current)
        rw [Option.toList_some, Option.toList_some, List.singleton_append, List.singleton_append,
          List.isChain_cons_cons]
        refine and_congr_left fun _ => risen.trans ⟨fun risen _ other found => ?_, fun risen => ?_⟩
        · obtain rfl := Option.some.inj (current.symm.trans found)
          exact risen
        · exact risen takes.clear last current

/-- Over offers whose tokens speak for their snapshots the ranks of what is
published climb exactly when no offer disputes the number of a process. -/
theorem published_ranks_climb_iff (historyLimit : Nat) (offers : List Offering)
    (aligned : ∀ o ∈ offers, o.Aligned) :
    let start := ({} : SnapshotChain).setHistoryLimit historyLimit
    (start.published offers).Pairwise (·.rank < ·.rank) ↔
      Guarded offer Undisputed start offers := by
  intro start
  rw [← List.isChain_iff_pairwise]
  exact climbs_iff (setHistoryLimit_pos {} historyLimit) aligned

/-- Two processes that bear the number 1. -/
def rivals : List Offering := [.sample 1 1 (ascii "a") 1, .sample 1 1 (ascii "b") 1]

theorem newer_generation_outranks :
    let start := ({} : SnapshotChain).setHistoryLimit 0
    let offers : List Offering := [.sample 1 1 (ascii "a") 1, .sample 1 1 (ascii "a") 2]
    (∀ o ∈ offers, o.Aligned) ∧ ((start.published offers).Pairwise (·.rank < ·.rank) ↔
      Guarded offer Undisputed start offers) := by
  have aligned : ∀ o ∈ [Offering.sample 1 1 (ascii "a") 1, .sample 1 1 (ascii "a") 2],
      o.Aligned := by
    simp only [List.forall_mem_cons, List.not_mem_nil, false_implies, implies_true, and_true]
    exact ⟨⟨rfl, rfl, rfl⟩, ⟨rfl, rfl, rfl⟩⟩
  exact ⟨aligned, published_ranks_climb_iff 0 _ aligned⟩

/-- The second process publishes the generation of the first under the same number. -/
theorem rival_publishes_again :
    let start := ({} : SnapshotChain).setHistoryLimit 0
    (∀ o ∈ rivals, o.Aligned) ∧ (start.published rivals).length = 2 ∧
      ¬ (start.published rivals).Pairwise (·.rank < ·.rank) := by
  refine ⟨?_, by decide +kernel, by decide +kernel⟩
  simp only [rivals, List.forall_mem_cons, List.not_mem_nil, false_implies, implies_true, and_true]
  exact ⟨⟨rfl, rfl, rfl⟩, ⟨rfl, rfl, rfl⟩⟩

theorem offer_forward_iff {chain : SnapshotChain} (room : 0 < chain.limit) (o : Offering) :
    chain.Forward o ↔ chain.epoch ≤ (chain.offer o).epoch := by
  rcases publish_exits room o.snapshot o.token o.nowMs with ⟨refused, same, -⟩ | ⟨takes, same⟩
  · rw [offer, same]
    refine iff_of_true (fun clear last current _ outranks => refused ⟨clear, ?_⟩) le_rfl
    intro other found
    rwa [← Option.some.inj (current.symm.trans found)]
  · rw [offer, same, epoch, epoch, current_push room]
    cases current : chain.current with
    | none =>
      refine iff_of_true (fun _ last found => ?_) (Epoch.unset_le _)
      rw [current] at found
      cases found
    | some last =>
      constructor
      · intro forward
        exact not_lt.mp fun older =>
          forward takes.clear last current older (takes.outranks last current)
      · intro risen _ other found older
        obtain rfl := Option.some.inj (current.symm.trans found)
        exact absurd risen older.not_ge

/-- The term of the chain never goes back exactly when no token outranks the
last snapshot for a snapshot of an older term. -/
theorem epoch_climbs_iff (historyLimit : Nat) (offers : List Offering) :
    let start := ({} : SnapshotChain).setHistoryLimit historyLimit
    (∀ before later, before <+: later → later <+: offers →
        (run offer start before).epoch ≤ (run offer start later).epoch) ↔
      Guarded offer Forward start offers := by
  intro start
  refine (guarded_iff_climbs (r := fun a b : SnapshotChain => a.epoch ≤ b.epoch)
    (fun _ => le_rfl) (fun _ _ _ => le_trans) (fun chain o room _ => ?_)
    (fun chain o room => offer_forward_iff room o) (setHistoryLimit_pos {} historyLimit)
    offers).symm
  rwa [limit_offer]

/-- A snapshot of the first term behind one of the second, under a token of the third. -/
def regressing : List Offering :=
  [.sample 2 1 (ascii "a") 1,
    { Offering.sample 1 1 (ascii "a") 1 with token := (Offering.sample 3 1 (ascii "a") 1).token }]

theorem newer_token_takes_the_term_back :
    let start := ({} : SnapshotChain).setHistoryLimit 0
    ¬ ∀ before later, before <+: later → later <+: regressing →
      (run offer start before).epoch ≤ (run offer start later).epoch := by
  intro start climbs
  have back : ¬ (run offer start (regressing.take 1)).epoch ≤ (run offer start regressing).epoch := by
    decide +kernel
  exact back (climbs _ _ (List.take_prefix ..) List.prefix_rfl)

end Ranks

section Numbers

inductive HistoryCall where
  | publish (snapshot : SiteSnapshot) (token : AuthorityToken) (nowMs : Int64)
  | restore (snapshot : SiteSnapshot)
  | setHistoryLimit (historyLimit : Nat)

def edit (chain : SnapshotChain) : HistoryCall → SnapshotChain
  | .publish snapshot token nowMs => (chain.publish snapshot token nowMs).1
  | .restore snapshot => (chain.restore snapshot).2
  | .setHistoryLimit historyLimit => chain.setHistoryLimit historyLimit

/-- The number of a publication does not wrap around. -/
def Numberable (chain : SnapshotChain) : HistoryCall → Prop
  | .publish .. => ∀ last, chain.current = some last → last.sequence.toNat + 1 < 2 ^ 64
  | .restore _ | .setHistoryLimit _ => True

instance (chain : SnapshotChain) : ∀ c, Decidable (chain.Numberable c)
  | .publish .. => match last : chain.current with
    | none => isTrue fun _ found => by rw [last] at found; cases found
    | some top => decidable_of_iff (top.sequence.toNat + 1 < 2 ^ 64)
        ⟨fun fits other found => by rwa [← Option.some.inj (last.symm.trans found)],
          fun fits => fits top last⟩
  | .restore _ | .setHistoryLimit _ => isTrue trivial

def number (s : SiteSnapshot) : Nat := s.sequence.toNat

/-- The number of the last snapshot; zero without one. -/
def lastNumber (chain : SnapshotChain) : Nat :=
  match chain.current with
  | none => 0
  | some last => number last

/-- One entry is appended, within the limit, and only the oldest entries go. -/
structure Appends (chain next : SnapshotChain) (s : SiteSnapshot) : Prop where
  last : next.current = some s
  bounded : next.history.length ≤ next.limit
  oldest : ∃ dropped, chain.history ++ [s] = dropped ++ next.history ∧
    (dropped = [] ∨ next.history.length = next.limit)

/-- What a call does to the history, by what it answers. -/
def Accounts (chain : SnapshotChain) : HistoryCall → Prop
  | .publish s token nowMs =>
    ((chain.publish s token nowMs).2.status = .published →
      ∃ sequence, chain.Appends (chain.publish s token nowMs).1 (stamp s sequence) ∧
        (chain.publish s token nowMs).2.sequence = sequence ∧
        sequence.toNat = chain.lastNumber + 1) ∧
    ((chain.publish s token nowMs).2.status ≠ .published →
      (chain.publish s token nowMs).1 = chain)
  | .restore s =>
    ((chain.restore s).1 = .ok →
      chain.Appends (chain.restore s).2 s ∧ chain.lastNumber < number s) ∧
    ((chain.restore s).1 ≠ .ok → (chain.restore s).2 = chain)
  | .setHistoryLimit historyLimit => (chain.setHistoryLimit historyLimit).history = chain.history

/-- A chain keeps at least one entry, and its entries in the order of their numbers. -/
structure Ordered (chain : SnapshotChain) : Prop where
  room : 0 < chain.limit
  ascending : Ascending number chain.history

theorem appends_push {chain : SnapshotChain} (room : 0 < chain.limit) (s : SiteSnapshot) :
    chain.Appends (chain.push s) s where
  last := current_push room s
  bounded := length_keepLast ..
  oldest := keepLast_split ..

/-- The last number is the highest. -/
theorem Ordered.le_lastNumber {chain : SnapshotChain} (ordered : chain.Ordered) {s : SiteSnapshot}
    (held : s ∈ chain.history) : number s ≤ chain.lastNumber := by
  unfold lastNumber current
  cases last : chain.history.getLast? with
  | none =>
    rw [List.getLast?_eq_none_iff.mp last] at held
    cases held
  | some top =>
    obtain ⟨before, split⟩ := List.getLast?_eq_some_iff.mp last
    rw [split] at held
    rcases List.mem_append.mp held with earlier | same
    · have ascending := ordered.ascending
      rw [split, Ascending, List.pairwise_append] at ascending
      exact (ascending.2.2 s earlier top (List.mem_singleton_self top)).le
    · rw [List.mem_singleton.mp same]

theorem Ordered.push {chain : SnapshotChain} (ordered : chain.Ordered) {s : SiteSnapshot}
    (above : chain.lastNumber < number s) :
    (chain.push s).Ordered ∧ Succeeds number chain.history (chain.push s).history := by
  have above : ∀ other ∈ chain.history, number other < number s := fun other held =>
    (ordered.le_lastNumber held).trans_lt above
  exact ⟨⟨ordered.room, ordered.ascending.keepLast ordered.room above⟩,
    Succeeds.keepLast ordered.room above⟩

theorem nextSequence_toNat {chain : SnapshotChain}
    (numberable : ∀ last, chain.current = some last → last.sequence.toNat + 1 < 2 ^ 64) :
    chain.nextSequence.toNat = chain.lastNumber + 1 := by
  unfold nextSequence lastNumber
  cases current : chain.current with
  | none => rfl
  | some last =>
    dsimp only
    rw [UInt64.toNat_add, number]
    exact Nat.mod_eq_of_lt (numberable last current)

theorem Follows.above {chain : SnapshotChain} {s : SiteSnapshot} (follows : chain.Follows s) :
    chain.lastNumber < number s := by
  unfold lastNumber
  cases current : chain.current with
  | none =>
    have numbered : s.sequence.toNat ≠ (0 : UInt64).toNat := fun zero =>
      follows.numbered (UInt64.toNat_inj.mp zero)
    exact Nat.pos_of_ne_zero numbered
  | some last => exact UInt64.lt_iff_toNat_lt.mp (follows.newer last current)

/-- One call: it does what it answers, keeps the order, and renames nothing. -/
theorem edit_step {chain : SnapshotChain} (ordered : chain.Ordered) (c : HistoryCall)
    (numberable : chain.Numberable c) :
    chain.Accounts c ∧ (chain.edit c).Ordered ∧
      Succeeds number chain.history (chain.edit c).history := by
  cases c with
  | publish s token nowMs =>
    rw [Accounts, edit]
    rcases publish_exits ordered.room s token nowMs with ⟨-, same, status⟩ | ⟨-, same⟩
    · rw [same]
      exact ⟨⟨fun published => absurd published status, fun _ => rfl⟩, ordered, Succeeds.refl _⟩
    · rw [same]
      have counted := nextSequence_toNat numberable
      refine ⟨⟨fun _ => ⟨_, appends_push ordered.room _, rfl, counted⟩,
        fun refused => absurd rfl refused⟩, ordered.push ?_⟩
      exact counted.ge
  | restore s =>
    rw [Accounts, edit]
    rcases chain.restore_cases s with ⟨follows, -, same⟩ | ⟨-, status, same⟩
    · rw [same]
      exact ⟨⟨fun _ => ⟨appends_push ordered.room s, follows.above⟩,
        fun refused => absurd rfl refused⟩, ordered.push follows.above⟩
    · rw [same]
      exact ⟨⟨fun restored => absurd restored status, fun _ => rfl⟩, ordered, Succeeds.refl _⟩
  | setHistoryLimit historyLimit =>
    exact ⟨rfl, ⟨setHistoryLimit_pos chain historyLimit, ordered.ascending⟩, Succeeds.refl _⟩

/-- A number names one snapshot in any two lookups. -/
def Names (earlier later : SnapshotChain) : Prop :=
  ∀ sequence s s', earlier.atSequence sequence = some s → later.atSequence sequence = some s' →
    s = s'

theorem mem_of_atSequence {chain : SnapshotChain} {sequence : UInt64} {s : SiteSnapshot}
    (found : chain.atSequence sequence = some s) : s ∈ chain.history ∧ s.sequence = sequence :=
  ⟨List.mem_of_find?_eq_some found, by simpa using List.find?_some found⟩

theorem names_of_succeeds {chain later : SnapshotChain} (ordered : chain.Ordered)
    (succeeds : Succeeds number chain.history later.history) : chain.Names later := by
  intro sequence s s' found found'
  obtain ⟨held, numbered⟩ := mem_of_atSequence found
  obtain ⟨held', numbered'⟩ := mem_of_atSequence found'
  exact succeeds.unique ordered.ascending held held' (by rw [number, number, numbered, numbered'])

/-- Along any run the numbers stand in order, every call does what it answers,
and no number is given to a second snapshot. -/
theorem sequences_are_immutable (historyLimit : Nat) (calls : List HistoryCall) :
    let start := ({} : SnapshotChain).setHistoryLimit historyLimit
    Guarded edit Numberable start calls →
      (∀ before, before <+: calls → Ascending number (run edit start before).history) ∧
      (∀ before c, before ++ [c] <+: calls → (run edit start before).Accounts c) ∧
      ∀ before later, before <+: later → later <+: calls →
        (run edit start before).Names (run edit start later) := by
  intro start guarded
  have ordered : start.Ordered := ⟨setHistoryLimit_pos {} historyLimit, List.Pairwise.nil⟩
  have every : ∀ before, before <+: calls → (run edit start before).Ordered := by
    rintro before ⟨rest, rfl⟩
    exact run_invariant Ordered (fun chain c kept met => (edit_step kept c met).2.1) before ordered
      guarded.append_left
  refine ⟨fun before inside => (every before inside).ascending, ?_, ?_⟩
  · rintro before c ⟨rest, rfl⟩
    have kept := every before ⟨[c] ++ rest, by simp⟩
    exact (edit_step kept c guarded.append_left.append_right.1).1
  · rintro before later ⟨more, rfl⟩ ⟨rest, rfl⟩
    have kept := every before ⟨more ++ rest, by simp⟩
    refine names_of_succeeds kept ?_
    rw [run_append]
    refine (run_invariant (fun chain : SnapshotChain => chain.Ordered ∧
        Succeeds number (run edit start before).history chain.history)
      (fun chain c ⟨inner, succeeds⟩ met => ?_) more ⟨kept, Succeeds.refl _⟩
      guarded.append_left.append_right).2
    obtain ⟨-, next, further⟩ := edit_step inner c met
    exact ⟨next, succeeds.trans further⟩

/-- Two publications with a smaller limit between them, and a restore that is refused. -/
def narrowing : List HistoryCall :=
  [.publish (Offering.sample 1 1 (ascii "a") 1).snapshot (Offering.sample 1 1 (ascii "a") 1).token 1,
    .setHistoryLimit 1, .restore {},
    .publish (Offering.sample 1 1 (ascii "a") 2).snapshot (Offering.sample 1 1 (ascii "a") 2).token 1]

theorem narrowing_numbers_are_immutable :
    let start := ({} : SnapshotChain).setHistoryLimit 0
    Guarded edit Numberable start narrowing ∧
      (∀ before, before <+: narrowing → Ascending number (run edit start before).history) ∧
      (∀ before c, before ++ [c] <+: narrowing → (run edit start before).Accounts c) ∧
      ∀ before later, before <+: later → later <+: narrowing →
        (run edit start before).Names (run edit start later) := by
  intro start
  have guarded : Guarded edit Numberable start narrowing := by decide +kernel
  exact ⟨guarded, sequences_are_immutable 0 narrowing guarded⟩

end Numbers

end SnapshotChain

end SiteFabric
