import SiteFabric.Compose.Totality
import SiteFabric.Controller.Acceptance

/-! What accepted requests leave the composer with.
It takes so many publications, retirements and revoked domains and no more, and an
up-count needs a claim it can read. The paths that accept look at neither, so each
request that is taken in its own right may be the one that ends composition. -/

namespace SiteFabric

open Lib Authority

namespace CompositionInput

/-- What `prepare` asks of the header, of the lists and of the expectation. -/
theorem prepare_ok_iff {input : CompositionInput} {expectation : SiteExpectation} :
    input.prepare = .ok expectation ↔
      input.site.valid = true ∧ (input.epoch.isSet = true ∧ input.generation.isSet = true) ∧
        input.incarnation.valid = true ∧ 0 < input.nowMs ∧
        input.publications.length ≤ Limits.maxMemberDomains ∧
        input.retirements.length ≤ Limits.maxMemberDomains ∧
        input.revoked.length ≤ Limits.maxMemberDomains ∧ input.adopted.site = input.site ∧
        input.adopted.canonicalize = .ok expectation := by
  unfold prepare
  repeat' split
  all_goals grind

variable [StdSort] {input : CompositionInput}

/-- An input composes when it is prepared and no up-count is blind. -/
theorem composed_iff_prepared :
    (∃ site, compose input = .composed site) ↔ ∃ expectation, input.prepare = .ok expectation ∧
      ∀ obligation wanted key, ¬ input.Blind expectation obligation wanted key := by
  constructor
  · rintro ⟨site, composed⟩
    obtain ⟨expectation, parts⟩ := compose_composes composed
    have total : compose input ≠ .crashed := fun crash => by
      rw [composed] at crash
      cases crash
    exact ⟨expectation, parts.prepared, (compose_total_iff input).mp total _ parts.prepared⟩
  · rintro ⟨expectation, prepared, sighted⟩
    have total : compose input ≠ .crashed := (compose_total_iff input).mpr fun other same => by
      obtain rfl := Except.ok.inj (prepared.symm.trans same)
      exact sighted
    cases outcome : compose input with
    | composed site => exact ⟨site, rfl⟩
    | crashed => exact (total outcome).elim
    | refused status =>
      unfold compose at outcome
      rw [prepared] at outcome
      dsimp only at outcome
      split at outcome <;> cases outcome

end CompositionInput

namespace SiteController

/-- The part of the controller's inputs that no request changes. -/
structure Headed (c : SiteController) (expectation : SiteExpectation) : Prop where
  site : c.config.site.valid = true
  epoch : c.epoch.isSet = true
  incarnation : c.incarnation.valid = true
  adopted : (c.compositionInput 0).adopted.site = c.config.site
  canonical : (c.compositionInput 0).adopted.canonicalize = .ok expectation

/-- The lists are no longer than the composer takes them. -/
structure Fits (c : SiteController) : Prop where
  publications : c.publications.size ≤ Limits.maxMemberDomains
  retirements : c.retirements.length ≤ Limits.maxMemberDomains
  revoked : c.revoked.length ≤ Limits.maxMemberDomains

section Composition

variable [StdSort] (c : SiteController)

/-- No up-count in force is blind, whatever the clock says. -/
def Legible : Prop :=
  ∀ nowMs, 0 < nowMs → ∀ expectation,
    (c.compositionInput nowMs).adopted.canonicalize = .ok expectation →
      ∀ obligation wanted key, ¬ (c.compositionInput nowMs).Blind expectation obligation wanted key

/-- The controller's inputs compose when the clock says `nowMs`. -/
def Composes (nowMs : Int64) : Prop :=
  ∃ site, compose (c.compositionInput nowMs) = .composed site

/-- They compose whatever the clock says. -/
def Composing : Prop := ∀ nowMs, 0 < nowMs → c.Composes nowMs

variable {c}

omit [StdSort] in
theorem prepare_iff {nowMs : Int64} {expectation : SiteExpectation} :
    (c.compositionInput nowMs).prepare = .ok expectation ↔
      c.Headed expectation ∧ 0 < nowMs ∧ c.Fits := by
  rw [CompositionInput.prepare_ok_iff]
  have length : (c.compositionInput nowMs).publications.length = c.publications.size := by
    rw [compositionInput, List.length_map, Std.ExtTreeMap.length_toList]
  constructor
  · rintro ⟨site, ⟨epoch, -⟩, incarnation, clock, publications, retirements, revoked, adopted,
      canonical⟩
    exact ⟨⟨site, epoch, incarnation, adopted, canonical⟩, clock,
      ⟨length ▸ publications, retirements, revoked⟩⟩
  · rintro ⟨headed, clock, fits⟩
    exact ⟨headed.site, ⟨headed.epoch, Generation.next_isSet _⟩, headed.incarnation, clock,
      length ▸ fits.publications, fits.retirements, fits.revoked, headed.adopted,
      headed.canonical⟩

theorem Composes.headed {nowMs : Int64} (composed : c.Composes nowMs) :
    (∃ expectation, c.Headed expectation) ∧ c.Fits := by
  obtain ⟨expectation, prepared, -⟩ := CompositionInput.composed_iff_prepared.mp composed
  obtain ⟨headed, -, fits⟩ := prepare_iff.mp prepared
  exact ⟨⟨expectation, headed⟩, fits⟩

/-- What composition asks of the lists, once the header is right. -/
theorem Headed.composing_iff {expectation : SiteExpectation} (headed : c.Headed expectation) :
    c.Composing ↔ c.Fits ∧ c.Legible := by
  constructor
  · intro composing
    refine ⟨(composing 1 (by decide)).headed.2, fun nowMs clock other canonical => ?_⟩
    obtain ⟨expectation', prepared, sighted⟩ :=
      CompositionInput.composed_iff_prepared.mp (composing nowMs clock)
    obtain rfl : expectation' = other :=
      Except.ok.inj ((CompositionInput.prepare_ok prepared).2.2.symm.trans canonical)
    exact sighted
  · rintro ⟨fits, legible⟩ nowMs clock
    exact CompositionInput.composed_iff_prepared.mpr
      ⟨expectation, prepare_iff.mpr ⟨headed, clock, fits⟩, legible nowMs clock _ headed.canonical⟩

/-- What persisting and recomposing leave alone composes as before. -/
theorem Retains.composes {later : SiteController} (same : c.Retains later) {nowMs : Int64}
    (composed : c.Composes nowMs) : later.Composes nowMs := by
  have inputs : later.compositionInput nowMs =
      { c.compositionInput nowMs with generation := later.siteGeneration.next } := by
    simp only [compositionInput, same.config, same.epoch, same.incarnation, same.publications,
      same.retirements, same.revoked, same.reconstructed]
  obtain ⟨site, composed⟩ := composed
  have labelled : compose
      { c.compositionInput nowMs with generation := c.siteGeneration.next } = .composed site :=
    composed
  obtain ⟨site', composed', -⟩ := compose_generation (Generation.next_isSet c.siteGeneration)
    (Generation.next_isSet later.siteGeneration) labelled
  exact ⟨site', inputs ▸ composed'⟩

theorem Retains.composing_iff {later : SiteController} (same : c.Retains later) :
    later.Composing ↔ c.Composing :=
  ⟨fun composing nowMs clock => same.symm.composes (composing nowMs clock),
    fun composing nowMs clock => same.composes (composing nowMs clock)⟩

end Composition

/-- A request that changes what is composed. -/
inductive Request where
  | publish (io : Moment) (publisher : MemberId) (incarnation : Incarnation)
      (declaration : MemberDomainDeclaration) (attempt : PublishAttempt)
  | retire (io : Moment) (request : RetireRequest)
  | revoke (io : Moment) (domain : MemberDomainKey)

/-- The requests a list has room for: a domain that is already on it takes none. -/
def Room (c : SiteController) : Request → Prop
  | .publish _ _ _ declaration _ =>
    declaration.domain ∈ c.publications ∨ c.publications.size < Limits.maxMemberDomains
  | .retire _ _ => c.retirements.length < Limits.maxMemberDomains
  | .revoke _ domain => domain ∈ c.revoked ∨ c.revoked.length < Limits.maxMemberDomains

instance (c : SiteController) : DecidablePred c.Room
  | .publish _ _ _ declaration _ => inferInstanceAs (Decidable
    (declaration.domain ∈ c.publications ∨ c.publications.size < Limits.maxMemberDomains))
  | .retire _ _ => inferInstanceAs (Decidable (c.retirements.length < Limits.maxMemberDomains))
  | .revoke _ domain => inferInstanceAs (Decidable
    (domain ∈ c.revoked ∨ c.revoked.length < Limits.maxMemberDomains))

section Requests

variable [StdSort] (c : SiteController)

def take : Request → SiteController
  | .publish io publisher incarnation declaration attempt =>
    (c.publish io publisher incarnation declaration attempt).1
  | .retire io request => (c.retire io request).1
  | .revoke io domain => (c.revokeMember io domain).1

/-- A revocation is taken whenever the domain is valid: what `revokeMember` answers
is how the recomposition went. -/
def Accepted : Request → Prop
  | .publish io publisher incarnation declaration attempt =>
    (c.publish io publisher incarnation declaration attempt).2.status = .accepted
  | .retire io request => (c.retire io request).2.status = .accepted
  | .revoke _ domain => domain.valid = true

instance : DecidablePred c.Accepted
  | .publish io publisher incarnation declaration attempt => inferInstanceAs
    (Decidable ((c.publish io publisher incarnation declaration attempt).2.status = .accepted))
  | .retire io request => inferInstanceAs (Decidable ((c.retire io request).2.status = .accepted))
  | .revoke _ domain => inferInstanceAs (Decidable (domain.valid = true))

/-- The controller with the request on its lists. -/
def entered : Request → SiteController
  | .publish io publisher incarnation declaration attempt =>
    match c.judge io publisher incarnation declaration attempt with
    | .error _ => c
    | .ok record => c.enter io record
  | .retire io request => c.withdraw io (c.retirementOf io request)
  | .revoke _ domain => c.listRevoked domain

/-- There is room for the request, and with it every up-count can still be read. -/
def Admissible (request : Request) : Prop := c.Room request ∧ (c.entered request).Legible

variable {c} {request : Request}

theorem retire_accepted {io : Moment} {request : RetireRequest}
    (accepted : (c.retire io request).2.status = .accepted) :
    (c.withdraw io (c.retirementOf io request)).Retains (c.retire io request).1 := by
  rcases @judgeRetirement_retained _ c io request with
    ⟨refused, -⟩ | ⟨-, entered⟩
  · unfold judgeRetirement at refused
    rw [retire] at accepted
    split at accepted
    · cases accepted
    next valid =>
    rw [if_neg valid] at refused
    split at accepted
    · cases accepted
    next live =>
    rw [if_neg live] at refused
    cases refused
  · exact entered

/-- An accepted request is on the lists, and nothing else about the inputs is new. -/
theorem take_entered (accepted : c.Accepted request) :
    (c.entered request).Retains (c.take request) := by
  cases request with
  | publish io publisher incarnation declaration attempt =>
    obtain ⟨record, judged⟩ := (publish_accepted_iff ..).mp accepted
    simp only [entered, judged]
    exact publish_entered judged
  | retire io request => exact retire_accepted accepted
  | revoke io domain =>
    have valid : domain.valid = true := accepted
    simp only [take, revokeMember, valid, Bool.not_true, Bool.false_eq_true, if_false]
    exact recompose_retains _ io

theorem Headed.entered {expectation : SiteExpectation} (headed : c.Headed expectation) :
    (c.entered request).Headed expectation := by
  obtain ⟨site, epoch, incarnation, adopted, canonical⟩ := headed
  cases request with
  | publish io publisher incarnation declaration attempt =>
    unfold SiteController.entered
    dsimp only
    split <;> exact ⟨site, epoch, by assumption, adopted, canonical⟩
  | retire io request => exact ⟨site, epoch, incarnation, adopted, canonical⟩
  | revoke io domain =>
    unfold SiteController.entered listRevoked
    dsimp only
    split <;> exact ⟨site, epoch, incarnation, adopted, canonical⟩

/-- An accepted request fits exactly where there is room for it. -/
theorem Fits.entered_iff (fits : c.Fits) (accepted : c.Accepted request) :
    (c.entered request).Fits ↔ c.Room request := by
  obtain ⟨publications, retirements, revoked⟩ := fits
  cases request with
  | publish io publisher incarnation declaration attempt =>
    obtain ⟨record, judged⟩ := (publish_accepted_iff ..).mp accepted
    obtain ⟨-, same, -⟩ := judge_ok judged
    have grown : (c.enter io record).publications.size =
        if declaration.domain ∈ c.publications then c.publications.size
        else c.publications.size + 1 := by
      rw [← same]
      exact Std.ExtTreeMap.size_insert
    simp only [entered, judged, Room]
    constructor
    · intro fits
      have bound := fits.publications
      rw [grown] at bound
      split at bound
      · exact .inl ‹_›
      · exact .inr bound
    · intro room
      refine ⟨?_, retirements, revoked⟩
      rw [grown]
      split
      · exact publications
      · exact room.resolve_left ‹_›
  | retire io request =>
    have grown : (c.withdraw io (c.retirementOf io request)).retirements.length =
        c.retirements.length + 1 := List.length_append
    exact ⟨fun fits => grown.ge.trans fits.retirements,
      fun room => ⟨publications, grown.le.trans room, revoked⟩⟩
  | revoke io domain =>
    simp only [entered, Room]
    by_cases listed : domain ∈ c.revoked
    · rw [listRevoked, if_pos listed]
      exact ⟨fun _ => .inl listed, fun _ => ⟨publications, retirements, revoked⟩⟩
    · rw [listRevoked, if_neg listed]
      have grown : (c.revoked ++ [domain]).length = c.revoked.length + 1 := List.length_append
      exact ⟨fun fits => .inr (grown.ge.trans fits.revoked),
        fun room => ⟨publications, retirements, grown.le.trans (room.resolve_left listed)⟩⟩

/-- Without obligations no up-count is in force. -/
theorem legible_of_unobliged (unobliged : ∀ record ∈ c.publications.toList.map Prod.snd,
    ∀ claim ∈ record.claims, claim.obligation? = none) : c.Legible := by
  intro nowMs _ expectation _ obligation wanted key blind
  have held := List.mem_of_getLast? blind.inForce
  obtain ⟨claim, claimed, read⟩ := List.mem_filterMap.mp held
  obtain ⟨record, selected, member, -⟩ := CompositionInput.mem_claimsOn.mp claimed
  rw [unobliged record (bestRecords_mem selected).1 claim member] at read
  cases read

/-- Revocations of domains not on the list yet put them all on it. -/
theorem run_revocations (io : Moment) {domains : List MemberDomainKey}
    (valid : ∀ domain ∈ domains, domain.valid = true) (apart : (c.revoked ++ domains).Nodup) :
    Guarded take Accepted c (domains.map (.revoke io)) ∧
      (run take c (domains.map (.revoke io))).revoked = c.revoked ++ domains := by
  induction domains generalizing c with
  | nil => exact ⟨trivial, (List.append_nil _).symm⟩
  | cons domain rest ih =>
    obtain ⟨legal, others⟩ := List.forall_mem_cons.mp valid
    have absent : domain ∉ c.revoked := fun listed =>
      (List.nodup_append.mp apart).2.2 domain listed domain (by simp) rfl
    have accepted : c.Accepted (.revoke io domain) := legal
    have listed : (c.take (.revoke io domain)).revoked = c.revoked ++ [domain] := by
      rw [(take_entered accepted).revoked, entered, listRevoked, if_neg absent]
    have assoc : c.revoked ++ domain :: rest = (c.revoked ++ [domain]) ++ rest := by simp
    rw [assoc, ← listed] at apart ⊢
    obtain ⟨guarded, all⟩ := ih others apart
    exact ⟨⟨accepted, guarded⟩, all⟩

/-- What one accepted request does to composition. -/
theorem take_composing_iff {expectation : SiteExpectation} (headed : c.Headed expectation)
    (fits : c.Fits) (accepted : c.Accepted request) :
    (c.take request).Composing ↔ c.Admissible request := by
  rw [(take_entered accepted).composing_iff, headed.entered.composing_iff,
    fits.entered_iff accepted, Admissible]

end Requests

end SiteController

section Runs

variable [StdSort]

/-- In a run of accepted requests, composition goes on exactly as long as each of them
finds room on its list and leaves every up-count with a claim to read. -/
theorem accepted_requests_keep_composing {c : SiteController} {startMs : Int64}
    (composed : c.Composes startMs) {requests : List SiteController.Request}
    (accepted : Guarded SiteController.take SiteController.Accepted c requests) :
    (∀ taken, taken <+: requests → (run SiteController.take c taken).Composing) ↔
      c.Legible ∧ Guarded SiteController.take SiteController.Admissible c requests := by
  obtain ⟨⟨expectation, headed⟩, fits⟩ := composed.headed
  have here : c.Composing ↔ c.Legible := headed.composing_iff.trans (and_iff_right fits)
  rw [← here]
  refine (guarded_iff_throughout (fun c request composing accepted => ?_) accepted).symm
  obtain ⟨⟨expectation, headed⟩, fits⟩ := (composing 1 (by decide)).headed
  exact (SiteController.take_composing_iff headed fits accepted).symm

end Runs

namespace SiteController

/-- The rack publishes and retires, and another one is revoked. -/
def comings : List Request :=
  [.publish .sample ⟨ascii "member-1"⟩ ⟨1, ⟨ascii "boot-a"⟩⟩ (.sample (ascii "rack-1")) ⟨1, 1⟩,
    .retire .sample { domain := ⟨.rack, ascii "rack-1"⟩, incarnation := ⟨1, ⟨ascii "boot-a"⟩⟩ },
    .revoke .sample ⟨.rack, ascii "rack-2"⟩]

/-- The first racks by number. -/
def outcasts (n : Nat) : List MemberDomainKey :=
  (List.range n).map fun i => ⟨.rack, ascii "rack-" ++ decimal i⟩

theorem outcasts_nodup (n : Nat) : (outcasts n).Nodup := by
  refine List.nodup_range.map fun a b same => decimal_injective ?_
  have bytes := congrArg (fun key : MemberDomainKey => key.id.bytes) same
  rw [Text.bytes_append, Text.bytes_append] at bytes
  exact congrArg Text.mk (List.append_cancel_left bytes)

theorem isLead_of_mem_decimal {n : Nat} {b : UInt8} (member : b ∈ (decimal n).bytes) :
    isLead b = true ∧ b != 58 ∧ b != 46 ∧ b != 95 ∧ b != 45 := by
  obtain ⟨c, digit, rfl⟩ := List.mem_map.mp member
  have bounds := Nat.isDigit_of_mem_toDigits (by omega) (by omega) digit
  simp only [Char.isDigit, Bool.and_eq_true, decide_eq_true_eq, ge_iff_le,
    UInt32.le_iff_toNat_le] at bounds
  obtain ⟨low, high⟩ : 48 ≤ c.toNat ∧ c.toNat ≤ 57 := bounds
  generalize c.toNat = code at low high
  interval_cases code <;> decide

/-- A literal followed by a number is a legal identity. -/
theorem numbered_valid {n : Nat} (few : n < 10 ^ 4) :
    isValidIdentifier (ascii "rack-" ++ decimal n) = true := by
  have some : (decimal n).bytes ≠ [] := by simp [decimal]
  have short : (decimal n).bytes.length ≤ 4 := by
    rw [decimal, List.length_map]
    exact Nat.toDigits_length 10 n 4 (by decide) few
  have tails : (decimal n).bytes.all isTail = true :=
    List.all_eq_true.mpr fun b member => by simp [isTail, (isLead_of_mem_decimal member).1]
  have last := isLead_of_mem_decimal (List.getLast_mem some)
  have bytes : (ascii "rack-" ++ decimal n).bytes = 114 :: ([97, 99, 107, 45] ++ (decimal n).bytes) :=
    rfl
  have size : (ascii "rack-" ++ decimal n).size ≤ 9 := by
    rw [Text.size, bytes, List.length_cons, List.length_append]
    have letters : [97, 99, 107, (45 : UInt8)].length = 4 := rfl
    omega
  have whole : (114 :: ([97, 99, 107, 45] ++ (decimal n).bytes)).all isTail = true := by
    rw [List.all_cons, List.all_append, tails]
    rfl
  unfold isValidIdentifier
  rw [bytes]
  simp only [whole, not_lt.mpr (size.trans (by decide : 9 ≤ Limits.maxIdentifierBytes))]
  simpa [List.getLast_append_of_ne_nil, some, isLead, and_assoc] using last.2

theorem outcasts_valid {n : Nat} (few : n ≤ Limits.maxMemberDomains + 1) :
    ∀ domain ∈ outcasts n, domain.valid = true := by
  intro domain listed
  obtain ⟨i, inside, rfl⟩ := List.mem_map.mp listed
  have below : i < 4097 := (List.mem_range.mp inside).trans_le few
  exact Bool.and_eq_true_iff.mpr ⟨rfl, numbered_valid (by omega)⟩

end SiteController

theorem comings_keep_composing :
    SiteController.greeted.Composes 2000 ∧
      ∀ taken, taken <+: SiteController.comings →
        (run SiteController.take .greeted taken).Composing := by
  have composed : SiteController.greeted.Composes 2000 := by
    obtain ⟨site, composed, -⟩ := CompositionResult.composed_of_passes
      (show (compose (SiteController.greeted.compositionInput 2000)).passes (fun _ => true) = true
        by decide +kernel)
    exact ⟨site, composed⟩
  have accepted : Guarded SiteController.take SiteController.Accepted .greeted
      SiteController.comings := by decide +kernel
  have room : Guarded SiteController.take SiteController.Room .greeted
      SiteController.comings := by decide +kernel
  obtain ⟨first, second, third, -⟩ := room
  refine ⟨composed, (accepted_requests_keep_composing composed accepted).mpr
    ⟨SiteController.legible_of_unobliged (by decide +kernel), ⟨first, ?_⟩, ⟨second, ?_⟩,
      ⟨third, ?_⟩, trivial⟩⟩ <;>
    exact SiteController.legible_of_unobliged (by decide +kernel)

/-- Each revocation is in order, and after the last of them nothing composes any more. -/
theorem revocations_end_composition :
    SiteServer.sample.controller.Composes 2000 ∧ ∃ requests,
      Guarded SiteController.take SiteController.Accepted SiteServer.sample.controller requests ∧
      ∀ nowMs, ¬ (run SiteController.take SiteServer.sample.controller requests).Composes nowMs := by
  constructor
  · obtain ⟨site, composed, -⟩ := CompositionResult.composed_of_passes
      (show (compose (SiteServer.sample.controller.compositionInput 2000)).passes (fun _ => true) =
        true by decide +kernel)
    exact ⟨site, composed⟩
  · obtain ⟨n, more⟩ : ∃ n, n = Limits.maxMemberDomains + 1 := ⟨_, rfl⟩
    have nobody : SiteServer.sample.controller.revoked = [] := rfl
    have apart : (SiteServer.sample.controller.revoked ++ SiteController.outcasts n).Nodup := by
      rw [nobody, List.nil_append]
      exact SiteController.outcasts_nodup n
    obtain ⟨accepted, revoked⟩ := SiteController.run_revocations .sample
      (SiteController.outcasts_valid more.le) apart
    refine ⟨_, accepted, fun nowMs composed => ?_⟩
    have bound := composed.headed.2.revoked
    rw [revoked, List.length_append, SiteController.outcasts, List.length_map,
      List.length_range] at bound
    omega

end SiteFabric
