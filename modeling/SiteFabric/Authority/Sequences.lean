import SiteFabric.Authority.Incarnations

/-! Sequences issued to a member domain.
The next sequence is one past the last admitted, whatever is called in between. It rises
for as long as it does not wrap, that is until the last 64-bit sequence is admitted. -/

namespace SiteFabric.Authority

open Lib

namespace Registry

/-- The bids an admission accepts. -/
structure Admits (r : Registry) (domain : MemberDomainKey) (incarnation : Incarnation)
    (nowMs : Int64) : Prop where
  legal : domain.valid = true
  boot : incarnation.boot.valid = true
  begun : 0 < nowMs
  alive : r.tombstoned domain (r.candidate domain incarnation) = false
  ahead : if (r.domainState domain).hasLive = true
    then (r.domainState domain).live.sequence < (r.candidate domain incarnation).sequence
    else (r.domainState domain).nextSequence ≤ (r.candidate domain incarnation).sequence

theorem admit_ok_iff (r : Registry) (domain : MemberDomainKey) (incarnation : Incarnation)
    (nowMs : Int64) :
    (r.admitMemberIncarnation domain incarnation nowMs).2.1 = .ok ↔
      r.Admits domain incarnation nowMs := by
  have touched : { r with domains := r.domains.insert domain (r.domainState domain) }.tombstoned
      domain (r.candidate domain incarnation) =
        r.tombstoned domain (r.candidate domain incarnation) := rfl
  unfold admitMemberIncarnation
  dsimp only
  rw [touched]
  constructor
  · intro admitted
    split at admitted
    · cases admitted
    next good =>
    simp only [Bool.or_eq_true, Bool.not_eq_true', decide_eq_true_eq, not_or, Bool.not_eq_false,
      Int64.not_le] at good
    split_ifs at admitted with dead vacant behind same lower equal
    · refine ⟨good.1.1, good.1.2, good.2, Bool.not_eq_true _ ▸ dead, ?_⟩
      rw [if_neg (by simpa using vacant)]
      exact UInt64.not_lt.mp behind
    · refine ⟨good.1.1, good.1.2, good.2, Bool.not_eq_true _ ▸ dead, ?_⟩
      rw [if_pos (by simpa using vacant)]
      exact UInt64.lt_of_le_of_ne (UInt64.not_lt.mp lower) (Ne.symm equal)
  · rintro ⟨legal, boot, begun, alive, ahead⟩
    rw [legal, boot, alive, if_neg (by simpa using begun), if_neg (by decide)]
    cases live : (r.domainState domain).hasLive with
    | false =>
      rw [live, if_neg (by decide)] at ahead
      rw [if_pos (by decide), if_neg (UInt64.not_lt.mpr ahead)]
    | true =>
      rw [live, if_pos rfl] at ahead
      have apart : (r.domainState domain).live ≠ r.candidate domain incarnation := by
        intro same
        rw [same] at ahead
        exact UInt64.lt_irrefl _ ahead
      rw [if_neg (by decide), if_neg apart, if_neg (UInt64.not_lt.mpr (UInt64.le_of_lt ahead)),
        if_neg (UInt64.ne_of_lt ahead).symm]

/-- The sequence a call admits to a domain, if any. -/
def admittedBy (r : Registry) (domain : MemberDomainKey) : Call → Option UInt64
  | .admitMember other incarnation nowMs =>
    let reply := r.admitMemberIncarnation other incarnation nowMs
    if other = domain ∧ reply.2.1 = .ok then reply.2.2 else none
  | _ => none

theorem admittedBy_iff {r : Registry} {domain : MemberDomainKey} {c : Call} {sequence : UInt64} :
    r.admittedBy domain c = some sequence ↔ ∃ incarnation nowMs,
      c = .admitMember domain incarnation nowMs ∧ r.Admits domain incarnation nowMs ∧
        (r.candidate domain incarnation).sequence = sequence := by
  constructor
  · intro admitted
    cases c with
    | admitMember other incarnation nowMs =>
      simp only [admittedBy, Option.ite_none_right_eq_some] at admitted
      obtain ⟨⟨rfl, ok⟩, wrote⟩ := admitted
      rw [(r.admit_assigned other incarnation nowMs).admitted ok, Option.some.injEq] at wrote
      exact ⟨incarnation, nowMs, rfl, (r.admit_ok_iff ..).mp ok, wrote⟩
    | lease => cases admitted
    | retireMember => cases admitted
    | recordPublication => cases admitted
    | clearDomain => cases admitted
  · rintro ⟨incarnation, nowMs, rfl, admits, rfl⟩
    have ok := (r.admit_ok_iff domain incarnation nowMs).mpr admits
    rw [admittedBy, if_pos ⟨rfl, ok⟩, (r.admit_assigned domain incarnation nowMs).admitted ok]

/-- What a call can do to the sequences of a domain. -/
inductive SequenceStep (r later : Registry) (domain : MemberDomainKey) : Option UInt64 → Prop
  | idle (next : later.nextMemberSequence domain = r.nextMemberSequence domain)
      (live : (later.domainState domain).hasLive = true → (r.domainState domain).hasLive = true ∧
        (later.domainState domain).live = (r.domainState domain).live) :
      SequenceStep r later domain none
  | admitted (sequence : UInt64) (next : later.nextMemberSequence domain = sequence + 1)
      (live : (later.domainState domain).live.sequence = sequence)
      (ahead : if (r.domainState domain).hasLive = true
        then (r.domainState domain).live.sequence < sequence
        else r.nextMemberSequence domain ≤ sequence) :
      SequenceStep r later domain (some sequence)

theorem SequenceStep.of_state {r later : Registry} {domain : MemberDomainKey}
    (same : later.domainState domain = r.domainState domain) : SequenceStep r later domain none :=
  .idle (by rw [nextMemberSequence, same, nextMemberSequence]) fun live =>
    ⟨same ▸ live, by rw [same]⟩

theorem admit_sequence (r : Registry) (domain other : MemberDomainKey) (incarnation : Incarnation)
    (nowMs : Int64) :
    SequenceStep r (r.call (.admitMember other incarnation nowMs)) domain
      (r.admittedBy domain (.admitMember other incarnation nowMs)) := by
  cases wrote : r.admittedBy domain (.admitMember other incarnation nowMs) with
  | some sequence =>
    obtain ⟨_, _, same, admits, chosen⟩ := admittedBy_iff.mp wrote
    cases same
    have ok := (r.admit_ok_iff ..).mpr admits
    have step := r.admit_step domain incarnation nowMs
    simp only [Registry.call]
    generalize r.admitMemberIncarnation domain incarnation nowMs = reply at step ok ⊢
    cases step with
    | refused _ _ _ no => exact absurd ok no
    | admitted later _ _ _ _ _ states =>
      have state := states domain
      rw [if_pos rfl] at state
      refine .admitted sequence ?_ ?_ (chosen ▸ admits.ahead)
      · rw [nextMemberSequence, state, ← chosen]
        rfl
      · rw [state, ← chosen]
        rfl
  | none =>
    have step := r.admit_step other incarnation nowMs
    have assigned := r.admit_assigned other incarnation nowMs
    simp only [admittedBy] at wrote
    simp only [Registry.call]
    generalize r.admitMemberIncarnation other incarnation nowMs = reply at step assigned wrote ⊢
    cases step with
    | refused _ _ _ _ states => exact .of_state (states domain)
    | admitted later _ _ _ _ _ states =>
      have apart : other ≠ domain := by
        rintro rfl
        rw [if_pos ⟨rfl, rfl⟩] at wrote
        cases wrote
      exact .of_state ((states domain).trans (if_neg apart))

theorem retire_sequence (r : Registry) (domain other : MemberDomainKey) (incarnation : Incarnation)
    (nowMs : Int64) :
    SequenceStep r (r.call (.retireMember other incarnation nowMs)) domain none := by
  simp only [Registry.call, retireMemberIncarnation]
  split
  · exact .of_state rfl
  split
  · exact .of_state rfl
  next state found =>
  split
  · have known : r.domainState other = state := by
      rw [domainState, show r.domains[other]? = some state from found, Option.getD_some]
    have later := domainState_insert (r.bury other incarnation) other domain
      { state with hasLive := false, updatedAtMs := nowMs }
    by_cases same : other = domain
    · subst same
      rw [if_pos rfl] at later
      have next := congrArg DomainState.nextSequence later
      have vacant := congrArg DomainState.hasLive later
      refine .idle ?_ fun live => ?_
      · rw [nextMemberSequence, nextMemberSequence, known]
        exact next
      · cases vacant.symm.trans live
    · rw [if_neg same] at later
      exact .of_state later
  · exact .of_state rfl

theorem sequence_step (r : Registry) (domain : MemberDomainKey) (c : Call)
    (kept : c ≠ .clearDomain domain) :
    SequenceStep r (r.call c) domain (r.admittedBy domain c) := by
  cases c with
  | lease call => exact .of_state (by simp only [Registry.call, domainState, (call.members r).1])
  | admitMember other incarnation nowMs => exact r.admit_sequence domain other incarnation nowMs
  | retireMember other incarnation nowMs => exact r.retire_sequence domain other incarnation nowMs
  | recordPublication offer nowMs =>
    simp only [Registry.call, recordPublication]
    split
    · exact .of_state rfl
    · have later := r.domainState_insert offer.domain domain
        { r.domainState offer.domain with
          observedEpoch := offer.epoch, generation := offer.generation, digest := offer.digest
          attempt := offer.attempt, published := true, updatedAtMs := nowMs }
      by_cases same : offer.domain = domain
      · subst same
        rw [if_pos rfl] at later
        have next := congrArg DomainState.nextSequence later
        have lives := congrArg DomainState.hasLive later
        have named := congrArg DomainState.live later
        exact .idle next fun live => ⟨lives.symm.trans live, named⟩
      · exact .of_state (later.trans (if_neg same))
  | clearDomain other =>
    have apart : other ≠ domain := by
      rintro rfl
      exact kept rfl
    exact .of_state ((r.clearDomain_state other domain).trans (if_neg apart))

end Registry

/-- A registry with the sequences it has admitted to one domain, in order. -/
structure Roll where
  registry : Registry := Registry.initial
  admitted : List UInt64 := []

namespace Roll

variable (domain : MemberDomainKey)

def step (roll : Roll) (c : Call) : Roll :=
  { registry := roll.registry.call c
    admitted := roll.admitted ++ (roll.registry.admittedBy domain c).toList }

/-- The roll of a domain after any sequence of calls on a fresh registry. -/
def after (calls : List Call) : Roll := run (step domain) {} calls

/-- Sequences are issued once, in order, and behind the next. -/
structure Forward (roll : Roll) : Prop where
  nonzero : ∀ s ∈ roll.admitted, s ≠ 0
  increasing : roll.admitted.Pairwise (· < ·)
  below : ∀ s ∈ roll.admitted, s < roll.registry.nextMemberSequence domain

/-- The next sequence is one past the last, which is that of whoever is live. -/
structure Linked (roll : Roll) : Prop where
  next : roll.registry.nextMemberSequence domain = roll.admitted.getLast?.getD 0 + 1
  live : (roll.registry.domainState domain).hasLive = true →
    roll.admitted.getLast? = some (roll.registry.domainState domain).live.sequence

/-- The domain stays on file. -/
def Keeps (_ : Roll) (c : Call) : Prop := c ≠ .clearDomain domain

/-- No admission takes the last sequence there is. -/
def Spares (roll : Roll) (c : Call) : Prop :=
  ∀ incarnation nowMs, c = .admitMember domain incarnation nowMs →
    roll.registry.Admits domain incarnation nowMs →
      (roll.registry.candidate domain incarnation).sequence ≠ 18446744073709551615

variable {domain} {roll : Roll} {c : Call}

theorem Linked.step (linked : roll.Linked domain) (kept : Keeps domain roll c) :
    (roll.step domain c).Linked domain := by
  have step := roll.registry.sequence_step domain c kept
  rw [Roll.step]
  generalize roll.registry.admittedBy domain c = wrote at step ⊢
  cases step with
  | idle next live =>
    rw [Option.toList_none, List.append_nil]
    refine ⟨next.trans linked.next, fun now => ?_⟩
    obtain ⟨was, same⟩ := live now
    rw [same]
    exact linked.live was
  | admitted sequence next live =>
    rw [Option.toList_some]
    constructor
    · rw [List.getLast?_concat]
      exact next
    · intro _
      rw [List.getLast?_concat, live]

/-- Behind a roll that has moved forward the next sequence has not wrapped. -/
theorem Linked.last_lt (linked : roll.Linked domain) (forward : roll.Forward domain) :
    roll.admitted.getLast?.getD 0 < roll.registry.nextMemberSequence domain := by
  cases last : roll.admitted.getLast? with
  | none =>
    rw [linked.next, last]
    decide
  | some s => exact forward.below s (List.mem_of_getLast? last)

/-- A call moves a roll forward exactly when it spares the last sequence. -/
theorem forward_step_iff (linked : roll.Linked domain) (forward : roll.Forward domain)
    (kept : Keeps domain roll c) :
    Spares domain roll c ↔ (roll.step domain c).Forward domain := by
  have step := roll.registry.sequence_step domain c kept
  have spares : Spares domain roll c ↔ ∀ s, roll.registry.admittedBy domain c = some s →
      s ≠ 18446744073709551615 := by
    simp only [Registry.admittedBy_iff]
    constructor
    · rintro spares s ⟨incarnation, nowMs, rfl, admits, rfl⟩
      exact spares incarnation nowMs rfl admits
    · intro all incarnation nowMs same admits
      exact all _ ⟨incarnation, nowMs, same, admits, rfl⟩
  rw [spares, Roll.step]
  generalize roll.registry.admittedBy domain c = wrote at step ⊢
  cases step with
  | idle next live =>
    rw [Option.toList_none, List.append_nil]
    refine iff_of_true nofun ⟨forward.nonzero, forward.increasing, fun s listed => ?_⟩
    exact (forward.below s listed).trans_eq next.symm
  | admitted sequence next live ahead =>
    have behind : roll.admitted.getLast?.getD 0 < sequence := by
      split at ahead
      · next was =>
        rw [linked.live was]
        exact ahead
      · exact UInt64.lt_of_lt_of_le (linked.last_lt forward) ahead
    have after : ∀ s ∈ roll.admitted, s < sequence := by
      intro s listed
      have under := forward.below s listed
      have last := linked.last_lt forward
      rw [linked.next] at under last
      rw [UInt64.lt_iff_toNat_lt] at under last behind ⊢
      rw [UInt64.toNat_add] at under last
      have one : (1 : UInt64).toNat = 1 := rfl
      omega
    have wraps : sequence ≠ 18446744073709551615 ↔ sequence < sequence + 1 := by
      rw [UInt64.lt_iff_toNat_lt, UInt64.toNat_add, ne_eq, ← UInt64.toNat_inj]
      have one : (1 : UInt64).toNat = 1 := rfl
      have top : (18446744073709551615 : UInt64).toNat = 18446744073709551615 := rfl
      have bound := sequence.toNat_lt
      omega
    rw [Option.toList_some]
    constructor
    · intro spared
      have rises := wraps.mp (spared sequence rfl)
      refine ⟨?_, ?_, ?_⟩
      · intro s listed
        rcases List.mem_append.mp listed with old | new
        · exact forward.nonzero s old
        · rw [List.mem_singleton.mp new]
          exact (UInt64.ne_of_lt (UInt64.lt_of_le_of_lt (UInt64.zero_le) behind)).symm
      · refine List.pairwise_append.mpr ⟨forward.increasing, List.pairwise_singleton .., ?_⟩
        intro s listed s' new
        rw [List.mem_singleton.mp new]
        exact after s listed
      · intro s listed
        refine UInt64.lt_of_lt_of_le ?_ (UInt64.le_of_eq next.symm)
        rcases List.mem_append.mp listed with old | new
        · exact UInt64.lt_trans (after s old) rises
        · rw [List.mem_singleton.mp new]
          exact rises
    · rintro moved s same
      obtain rfl := Option.some.inj same
      have under := moved.below sequence (List.mem_append_right _ List.mem_cons_self)
      exact wraps.mpr (UInt64.lt_of_lt_of_le under (UInt64.le_of_eq next))

theorem guarded_keeps {calls : List Call} (kept : ∀ c ∈ calls, c ≠ .clearDomain domain)
    (roll : Roll) : Guarded (step domain) (Keeps domain) roll calls := by
  induction calls generalizing roll with
  | nil => trivial
  | cons c rest ih =>
    have later := ih (fun c listed => kept c (List.mem_cons_of_mem _ listed)) (roll.step domain c)
    exact ⟨kept c List.mem_cons_self, later⟩

theorem linked_after {calls : List Call} (kept : ∀ c ∈ calls, c ≠ .clearDomain domain) :
    (after domain calls).Linked domain := by
  refine run_invariant (Linked domain) (fun _ _ linked kept => linked.step kept) calls ⟨?_, ?_⟩
    (guarded_keeps kept {})
  · simp [Registry.nextMemberSequence, Registry.domainState, Registry.initial]
  · intro live
    simp [Registry.domainState, Registry.initial] at live

end Roll

/-- Along every run that keeps a domain on file, the sequences admitted to it move
forward at every point exactly when no admission takes the last 64-bit sequence. -/
theorem sequences_forward_iff (domain : MemberDomainKey) (calls : List Call)
    (kept : ∀ c ∈ calls, c ≠ .clearDomain domain) :
    (∀ before, before <+: calls → (Roll.after domain before).Forward domain) ↔
      Guarded (Roll.step domain) (Roll.Spares domain) {} calls := by
  have empty : (Roll.after domain []).Linked domain := Roll.linked_after (by simp)
  have start : ({} : Roll).Forward domain :=
    ⟨fun _ none => absurd none List.not_mem_nil, .nil, fun _ none => absurd none List.not_mem_nil⟩
  have leads : ∀ (roll : Roll) (c : Call), roll.Linked domain ∧ roll.Forward domain →
      Roll.Keeps domain roll c → (Roll.Spares domain roll c ↔
        (roll.step domain c).Linked domain ∧ (roll.step domain c).Forward domain) :=
    fun roll c good kept => (Roll.forward_step_iff good.1 good.2 kept).trans
      (and_iff_right (good.1.step kept)).symm
  have throughout := guarded_iff_throughout leads (Roll.guarded_keeps kept {})
  constructor
  · intro forward
    refine (throughout.mpr fun before inside => ⟨?_, forward before inside⟩).2
    exact Roll.linked_after fun c listed => kept c (inside.subset listed)
  · intro spared before inside
    exact (throughout.mp ⟨⟨empty, start⟩, spared⟩ before inside).2

/-- A rack is issued its first sequence, names its second and is issued the one behind. -/
theorem rack_sequences_move_forward :
    let rack : MemberDomainKey := ⟨.rack, ascii "r"⟩
    let calls : List Call := [.admitMember rack ⟨0, ⟨ascii "a"⟩⟩ 1,
      .admitMember rack ⟨5, ⟨ascii "b"⟩⟩ 2, .retireMember rack ⟨5, ⟨ascii "b"⟩⟩ 3,
      .admitMember rack ⟨0, ⟨ascii "c"⟩⟩ 4]
    (Roll.after rack calls).admitted = [1, 5, 6] ∧ (Roll.after rack calls).Forward rack := by
  intro rack calls
  refine ⟨by decide +kernel, ?_⟩
  have spared : Guarded (Roll.step rack) (Roll.Spares rack) {} calls := by
    refine ⟨?_, ?_, ?_, ?_, trivial⟩ <;> intro incarnation nowMs same _ <;> cases same <;>
      decide +kernel
  exact (sequences_forward_iff rack calls (by simp [calls])).mpr spared calls (List.prefix_refl _)

/-- Behind the last sequence the next is zero, and zero is issued. -/
theorem last_sequence_wraps :
    let rack : MemberDomainKey := ⟨.rack, ascii "r"⟩
    let last : Incarnation := ⟨18446744073709551615, ⟨ascii "a"⟩⟩
    let calls : List Call := [.admitMember rack last 1, .retireMember rack last 2,
      .admitMember rack ⟨0, ⟨ascii "b"⟩⟩ 3]
    (Roll.after rack calls).admitted = [18446744073709551615, 0] ∧
      ¬ (Roll.after rack calls).Forward rack := by
  intro rack last calls
  have admitted : (Roll.after rack calls).admitted = [18446744073709551615, 0] := by decide +kernel
  refine ⟨admitted, fun forward => ?_⟩
  have issued := forward.nonzero 0 (by rw [admitted]; decide)
  exact issued rfl

end SiteFabric.Authority
