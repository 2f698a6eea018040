import LibFred.RegistrableObject.Contact.InfoContactDiff
import LibFred.RegistrableObject.Domain.InfoDomainDiff
import LibFred.RegistrableObject.Keyset.InfoKeysetDiff
import LibFred.RegistrableObject.Nsset.InfoNssetDiff

/-! When the difference of two states of a registrable object tells that they differ. -/
namespace LibFred.RegistrableObject

open Sql Contact Domain Keyset Nsset

/-- The hosts of `rhs` are those of `lhs` in another order and with names in another case. -/
def Respelled (lhs rhs : List DnsHost) : Prop :=
  (lhs.map fun host => (lower host.fqdn, host.inetAddr)).Perm
    (rhs.map fun host => (lower host.fqdn, host.inetAddr))

theorem Respelled.sameHosts {lhs rhs : List DnsHost} (h : Respelled lhs rhs) :
    SameHosts lhs rhs := by
  have hdata : ∀ l : List DnsHost, l.map DnsHost.data =
      (l.map fun host => (lower host.fqdn, host.inetAddr)).map fun d => (d.1, d.2.toFinset) := by
    intro l
    rw [List.map_map]
    rfl
  intro x
  rw [hdata, hdata]
  exact (h.map _).mem_iff

/-- Diffs of keysets, contacts and domains are empty exactly between states that agree, those of
nssets unless nothing but addresses of hosts changed. Order and case make no difference. -/
theorem diff_exact (first second : InfoNssetData) :
    ((((diffNssetData first second).isEmpty ↔ first.Agrees second) ∧
        ((diffNssetData first second).changedFields = ∅ ↔
          (diffNssetData first second).isEmpty)) ↔
      (SameHosts first.dnsHosts second.dnsHosts ∨
        ¬ SameHostNames first.dnsHosts second.dnsHosts ∨ ¬ first.AgreesBesideHosts second)) ∧
    (∀ (data : InfoNssetData) dnsHosts techContacts, Respelled data.dnsHosts dnsHosts →
      data.techContacts.Perm techContacts →
      (diffNssetData data { data with dnsHosts, techContacts }).isEmpty) ∧
    (∀ first second : InfoKeysetData,
      ((diffKeysetData first second).isEmpty ↔ first.Agrees second) ∧
      ((diffKeysetData first second).changedFields = ∅ ↔
        (diffKeysetData first second).isEmpty)) ∧
    (∀ (data : InfoKeysetData) dnsKeys techContacts, data.dnsKeys.Perm dnsKeys →
      data.techContacts.Perm techContacts →
      (diffKeysetData data { data with dnsKeys, techContacts }).isEmpty) ∧
    (∀ first second : InfoContactData,
      ((diffContactData first second).isEmpty ↔ first.Agrees second) ∧
      ((diffContactData first second).changedFields = ∅ ↔
        (diffContactData first second).isEmpty)) ∧
    (∀ first second : InfoDomainData,
      ((diffDomainData first second).isEmpty ↔ first.Agrees second) ∧
      ((diffDomainData first second).changedFields = ∅ ↔
        (diffDomainData first second).isEmpty)) ∧
    ∀ (data : InfoDomainData) adminContacts, data.adminContacts.Perm adminContacts →
      (diffDomainData data { data with adminContacts }).isEmpty := by
  refine ⟨?_, ?_, ?_, ?_, ?_, ?_, ?_⟩
  · rw [and_iff_left Nsset.changedFields_eq_empty]
    exact isEmpty_diffNssetData_iff_agrees
  · intro data dnsHosts techContacts hhosts hcontacts
    refine isEmpty_diffNssetData.mpr ⟨?_, hhosts.sameHosts.sameHostNames⟩
    simp [InfoNssetData.agreesBesideHosts_iff, SameReferences.of_perm hcontacts]
  · exact fun _ _ => ⟨isEmpty_diffKeysetData, Keyset.changedFields_eq_empty⟩
  · intro data dnsKeys techContacts hkeys hcontacts
    refine isEmpty_diffKeysetData.mpr ?_
    simp [InfoKeysetData.agrees_iff, SameReferences.of_perm hcontacts, hkeys.mem_iff]
  · exact fun _ _ => ⟨isEmpty_diffContactData, Contact.changedFields_eq_empty⟩
  · exact fun _ _ => ⟨isEmpty_diffDomainData, Domain.changedFields_eq_empty⟩
  · intro data adminContacts hcontacts
    refine isEmpty_diffDomainData.mpr ?_
    simp [InfoDomainData.agrees_iff, SameReferences.of_perm hcontacts]

/-- An nsset of one host that has one address. -/
def sampleNsset (fqdn : String) (address : IpAddress) : InfoNssetData where
  crhistoryid := 1
  historyid := 2
  historyUuid := 2
  id := 7
  uuid := 7
  deleteTime := none
  handle := "NSS-1"
  roid := "N7-CZ"
  sponsoringRegistrarHandle := "REG-TEST"
  createRegistrarHandle := "REG-TEST"
  updateRegistrarHandle := none
  creationTime := .time 0
  updateTime := none
  transferTime := none
  techCheckLevel := some 0
  dnsHosts := [⟨fqdn, [address]⟩]
  techContacts := []

theorem diff_exact_sampleNsset :
    (diffNssetData (sampleNsset "ns1.cz" (.v4 1))
      { sampleNsset "ns1.cz" (.v4 1) with
        dnsHosts := [⟨"NS1.cz", [.v4 1]⟩], techContacts := [] }).isEmpty :=
  (diff_exact (sampleNsset "ns1.cz" (.v4 1)) (sampleNsset "ns1.cz" (.v4 1))).2.1 _ _ _
    (List.Perm.of_eq (by decide)) (List.Perm.refl _)

/-- A new address of a host leaves the diff empty. -/
theorem not_diff_exact :
    ¬ ∀ first second : InfoNssetData,
      (diffNssetData first second).isEmpty ↔ first.Agrees second := by
  intro h
  have hagrees := (h (sampleNsset "ns1.cz" (.v4 1)) (sampleNsset "ns1.cz" (.v4 2))).mp (by decide)
  have hmem := (hagrees.2 ("ns1.cz", {.v4 1})).mp (by decide)
  exact absurd hmem (by decide)

end LibFred.RegistrableObject
