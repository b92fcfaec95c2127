import SiteFabric.Compose.Favourable
import SiteFabric.Compose.Sealed

/-! The record that speaks for a domain.
Three keys rank the records of a domain, and the first of those that tie on all of
them is selected. Its header is compared with the input, never with the header of
the declaration it carries. -/

namespace SiteFabric

open Lib

section Selection

variable (records : List MemberPublicationRecord) (domain : MemberDomainKey)

/-- Whatever stands between them and in whatever order they come, the same records of
the domain select the same record. -/
def Positionless : Prop :=
  ∀ others : List MemberPublicationRecord,
    (others.filter (·.domain = domain)).Perm (records.filter (·.domain = domain)) →
      (bestRecords others)[domain]? = (bestRecords records)[domain]?

/-- A usable record that no usable record of its domain outranks. -/
structure Unbeaten (record : MemberPublicationRecord) : Prop where
  listed : record ∈ records
  usable : record.usable = true
  top : ∀ other ∈ records, other.usable = true → other.domain = record.domain →
    other.standing ≤ record.standing

variable {records domain}

theorem leads_iff_foremost {record : MemberPublicationRecord} :
    Leads MemberPublicationRecord.domain MemberPublicationRecord.standing
        (records.filter (·.usable)) domain (some record) ↔
      Unbeaten records record ∧ record.domain = domain := by
  constructor
  · rintro ⟨member, rfl, top⟩
    obtain ⟨listed, usable⟩ := List.mem_filter.mp member
    exact ⟨⟨listed, usable, fun other seen passes => top other
      (List.mem_filter.mpr ⟨seen, passes⟩)⟩, rfl⟩
  · rintro ⟨⟨listed, usable, top⟩, rfl⟩
    refine ⟨List.mem_filter.mpr ⟨listed, usable⟩, rfl, fun other seen => ?_⟩
    exact top other (List.mem_filter.mp seen).1 (List.mem_filter.mp seen).2

/-- An unbeaten record is selected when it comes first. -/
theorem Unbeaten.selected {record : MemberPublicationRecord} (unbeaten : Unbeaten records record) :
    ∃ others, others.Perm records ∧ (bestRecords others)[record.domain]? = some record := by
  obtain ⟨before, after, split⟩ := List.append_of_mem unbeaten.listed
  have perm : (record :: (before ++ after)).Perm records := by
    rw [split]
    exact List.perm_middle.symm
  refine ⟨record :: (before ++ after), perm, ?_⟩
  have leads := leads_iff_foremost.mpr ⟨unbeaten, rfl⟩
  rw [bestRecords_eq, List.filter_cons_of_pos unbeaten.usable]
  have same := perm.filter (·.usable)
  rw [List.filter_cons_of_pos unbeaten.usable] at same
  apply select_head
  exact ⟨List.mem_cons_self, rfl, fun other seen => leads.2.2 other (same.mem_iff.mp seen)⟩

end Selection

/-- The record selected for a domain follows from the records of the domain exactly when
those that tie at the highest generation, attempt and acceptance sequence are one. -/
theorem selection_is_positionless_iff (records : List MemberPublicationRecord)
    (domain : MemberDomainKey) :
    Positionless records domain ↔ ∀ first second, Unbeaten records first →
      Unbeaten records second → first.domain = domain → second.domain = domain →
        first = second := by
  constructor
  · intro positionless first second unbeaten unbeaten' named named'
    have chosen : ∀ record, Unbeaten records record → record.domain = domain →
        (bestRecords records)[domain]? = some record := by
      rintro record unbeaten rfl
      obtain ⟨others, perm, selected⟩ := unbeaten.selected
      exact (positionless others (perm.filter _)).symm.trans selected
    have one := chosen first unbeaten named
    rw [chosen second unbeaten' named'] at one
    exact (Option.some.inj one).symm
  · intro alone others perm
    rw [bestRecords_eq, bestRecords_eq]
    refine select_alone (fun record named => ?_) fun first second leads leads' => ?_
    · have same : record ∈ others ↔ record ∈ records := by
        have mem := perm.mem_iff (a := record)
        rw [List.mem_filter, List.mem_filter] at mem
        simpa [named] using mem
      rw [List.mem_filter, List.mem_filter, same]
    · obtain ⟨unbeaten, named⟩ := leads_iff_foremost.mp leads
      obtain ⟨unbeaten', named'⟩ := leads_iff_foremost.mp leads'
      exact alone first second unbeaten unbeaten' named named'

/-- Two records of one domain with one generation, attempt and acceptance sequence,
over declarations that differ. -/
def tiedRecords : List MemberPublicationRecord :=
  [(MemberDomainDeclaration.sample (ascii "rack-1")).publication,
    (MemberDomainDeclaration.uplinked []).publication]

/-- The first of two tied records is selected, whichever that is. -/
theorem tied_records_are_selected_by_position :
    (∀ record ∈ tiedRecords, Unbeaten tiedRecords record) ∧
      ¬ Positionless tiedRecords ⟨.rack, ascii "rack-1"⟩ := by
  refine ⟨?_, fun positionless => ?_⟩
  · have tied : ∀ record ∈ tiedRecords, record.usable = true ∧
        ∀ other ∈ tiedRecords, other.standing ≤ record.standing := by
      decide +kernel
    exact fun record listed => ⟨listed, (tied record listed).1,
      fun other seen _ _ => (tied record listed).2 other seen⟩
  · have swapped := positionless tiedRecords.reverse ((List.reverse_perm _).filter _)
    revert swapped
    decide +kernel

/-- A record repeats the header of a declaration. -/
structure MemberPublicationRecord.Repeats (record : MemberPublicationRecord)
    (declaration : MemberDomainDeclaration) : Prop where
  domain : record.domain = declaration.domain
  site : record.site = declaration.site
  generation : record.generation = declaration.generation
  schema : record.schema = declaration.schema
  epoch : record.observedEpoch = declaration.observedEpoch

/-- Every member that is CURRENT was selected from a record that repeats the header of
the declaration it carries. -/
def CompositionInput.Speaks (input : CompositionInput) (site : ComposedSite) : Prop :=
  ∀ member ∈ site.members, member.lifecycle = .current →
    ∃ record declaration, input.Selects record ∧ record.domain = member.domain ∧
      record.declaration = some declaration ∧ record.Repeats declaration

/-- The CURRENT members speak for the declarations they carry exactly when every selected
record that does not repeat its declaration's header lacks something the admission asks for. -/
theorem current_members_speak_iff [StdSort] {input : CompositionInput}
    {expectation : SiteExpectation} {site : ComposedSite}
    (prepared : input.prepare = .ok expectation) (composed : compose input = .composed site) :
    input.Speaks site ↔ ∀ record declaration, input.Selects record →
      record.declaration = some declaration → ¬ record.Repeats declaration →
        ¬ Earned input expectation record := by
  obtain ⟨expectation', parts⟩ := CompositionInput.compose_composes composed
  obtain rfl : expectation' = expectation := Except.ok.inj (parts.prepared.symm.trans prepared)
  constructor
  · intro speaks record declaration selected declared apart earned
    have listed := List.mem_of_find?_eq_some (parts.findMember selected)
    obtain ⟨other, declaration', selected', named, declared', repeats⟩ :=
      speaks _ listed ((judge_current_iff ..).mpr earned)
    have same : other = record := by
      have domains : other.domain = record.domain := named
      rw [CompositionInput.Selects, domains, selected] at selected'
      exact (Option.some.inj selected').symm
    rw [same, declared] at declared'
    rw [same, ← Option.some.inj declared'] at repeats
    exact apart repeats
  · intro lacking member listed current
    obtain ⟨record, selected, rfl⟩ := parts.member listed current
    have earned : Earned input expectation' record := (judge_current_iff ..).mp current
    obtain ⟨declaration, declared, -⟩ := earned.declared
    refine ⟨record, declaration, selected, rfl, declared, ?_⟩
    by_contra apart
    exact lacking record declaration selected declared apart earned

/-- A rack whose record was made from its declaration. -/
theorem published_rack_speaks :
    ∃ site, compose (CompositionInput.sample [.sample (ascii "rack-1")]) = .composed site ∧
      (∃ member ∈ site.members, member.lifecycle = .current) ∧
      (CompositionInput.sample [.sample (ascii "rack-1")]).Speaks site := by
  obtain ⟨site, composed, current⟩ := CompositionInput.composed_of_sealed
    (show (composeSealed (CompositionInput.sample [.sample (ascii "rack-1")])).passes (fun site =>
      decide (∃ member ∈ site.members, member.lifecycle = .current)) = true by decide +kernel)
    .sample
  obtain ⟨expectation, parts⟩ := CompositionInput.compose_composes composed
  refine ⟨site, composed, of_decide_eq_true current,
    (current_members_speak_iff parts.prepared composed).mpr ?_⟩
  intro record declaration selected declared apart
  obtain rfl := List.mem_singleton.mp (bestRecords_mem selected).1
  cases declared
  exact absurd ⟨rfl, rfl, rfl, rfl, rfl⟩ apart

/-- A record of one rack over the declaration of another. -/
def MemberPublicationRecord.borrowed : MemberPublicationRecord :=
  { (MemberDomainDeclaration.sample (ascii "rack-1")).publication with
    domain := ⟨.rack, ascii "rack-2"⟩ }

theorem MemberPublicationRecord.borrowed_sealed : borrowed.Sealed :=
  fun declaration declared =>
    (MemberDomainDeclaration.sample (ascii "rack-1")).publication_sealed declaration declared

def CompositionInput.borrowing : CompositionInput :=
  { CompositionInput.sample [.sample (ascii "rack-2")] with publications := [.borrowed] }

/-- The rack is CURRENT on the strength of a declaration of another rack. -/
theorem borrowed_declaration_is_current :
    ∃ site, compose CompositionInput.borrowing = .composed site ∧
      (∃ member ∈ site.members, member.lifecycle = .current) ∧
      ¬ CompositionInput.borrowing.Speaks site := by
  obtain ⟨site, composed, current⟩ := CompositionInput.composed_of_sealed
    (show (composeSealed CompositionInput.borrowing).passes (fun site =>
      decide (∃ member ∈ site.members, member.lifecycle = .current)) = true by decide +kernel)
    (List.forall_mem_singleton.mpr MemberPublicationRecord.borrowed_sealed)
  obtain ⟨member, listed, current⟩ := of_decide_eq_true current
  refine ⟨site, composed, ⟨member, listed, current⟩, fun speaks => ?_⟩
  obtain ⟨record, declaration, selected, -, declared, repeats⟩ := speaks member listed current
  obtain rfl := List.mem_singleton.mp (bestRecords_mem selected).1
  cases declared
  exact absurd repeats.domain (by decide)

end SiteFabric
