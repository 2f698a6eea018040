import LibFred.Notifier.Keyset
import LibFred.Notifier.Nsset

/-! When the update of a keyset or an nsset is notified. -/
namespace LibFred.Notifier

open RegistrableObject.Keyset RegistrableObject.Nsset

variable {result : Parameters} {reported differs : Prop}

/-- The flag in the e-mail and the decision to send it. -/
theorem flag_of_gathered (common : CommonContent) (honly : OnlyChanges result)
    (hempty : result = ∅ ↔ ¬ reported) :
    ∃ parameters, gatherEmailContent common (.ok (setChanges result)) = .ok parameters ∧
      (parameters.lookup "changes" = some "1" ↔ reported) ∧
      (isUpdateSent parameters = .ok true ↔ reported) := by
  have honly' : OnlyChanges (setChanges result) := honly.insert (by decide)
  obtain ⟨parameters, hok, hlookup⟩ := gatherEmailContent_ok honly'
  rw [lookup_setChanges] at hlookup
  refine ⟨parameters, hok, ?_, ?_⟩
  · rw [hlookup]
    by_cases h : result = ∅ <;> simp_all
  · rw [isUpdateSent, hlookup]
    by_cases h : result = ∅ <;> simp_all

theorem flag_iff_differs_iff {flag : Prop} (hflag : flag ↔ reported) (h : reported → differs) :
    (flag ↔ differs) ↔ (¬ differs ∨ reported) := by
  rw [hflag]
  tauto

/-- Updates are flagged and notified exactly when the content differs, unless the flags of keys,
the order of keys of one text, the addresses of hosts or contacts of the same handles are all that
differs. -/
theorem changes_flag_exact (common : CommonContent) :
    (∀ sort before after, ∃ parameters,
      gatherEmailContent common (Keyset.gatherKeysetUpdateDataChange sort before after) =
        .ok parameters ∧
      (isUpdateSent parameters = .ok true ↔ parameters.lookup "changes" = some "1") ∧
      ((parameters.lookup "changes" = some "1" ↔ Keyset.ContentDiffers before after) ↔
        (¬ Keyset.ContentDiffers before after ∨ Keyset.Reported sort before after))) ∧
    ∀ ipToString sort before after, ∃ parameters,
      gatherEmailContent common (Nsset.gatherNssetUpdateDataChange ipToString sort before after) =
        .ok parameters ∧
      (isUpdateSent parameters = .ok true ↔ parameters.lookup "changes" = some "1") ∧
      ((parameters.lookup "changes" = some "1" ↔ Nsset.ContentDiffers before after) ↔
        (¬ Nsset.ContentDiffers before after ∨ Nsset.Reported before after)) := by
  constructor
  · intro sort before after
    obtain ⟨result, hgather, honly, hempty⟩ := Keyset.gatherKeysetUpdateDataChange_ok sort before after
    obtain ⟨parameters, hok, hflag, hsent⟩ := flag_of_gathered common honly hempty
    refine ⟨parameters, hgather ▸ hok, hsent.trans hflag.symm, ?_⟩
    exact flag_iff_differs_iff hflag Keyset.Reported.contentDiffers
  · intro ipToString sort before after
    obtain ⟨result, hgather, honly, hempty⟩ :=
      Nsset.gatherNssetUpdateDataChange_ok ipToString sort before after
    obtain ⟨parameters, hok, hflag, hsent⟩ := flag_of_gathered common honly hempty
    refine ⟨parameters, hgather ▸ hok, hsent.trans hflag.symm, ?_⟩
    exact flag_iff_differs_iff hflag Nsset.Reported.contentDiffers

/-- A keyset of one key that has the given flags. -/
def sampleKeyset (flags : UInt16) : InfoKeysetData where
  crhistoryid := 1
  historyid := 2
  historyUuid := 2
  id := 7
  uuid := 7
  deleteTime := none
  handle := "KEY-1"
  roid := "K7-CZ"
  sponsoringRegistrarHandle := "REG-TEST"
  createRegistrarHandle := "REG-TEST"
  updateRegistrarHandle := none
  creationTime := .time 0
  updateTime := none
  transferTime := none
  dnsKeys := [⟨flags, 3, 5, "AwEAAddt2AkL4RJ9Ao6LCWheg8"⟩]
  techContacts := []

def sampleCommon : CommonContent where
  ticket := "ccReg-0000000001"
  registrarName := some "Registrar"
  registrarUrl := none
  handle := "KEY-1"
  type := "4"

/-- New flags of a key are not notified. -/
theorem not_changes_flag_exact :
    ¬ ∀ sort common before after parameters,
      gatherEmailContent common (Keyset.gatherKeysetUpdateDataChange sort before after) =
        .ok parameters →
      (parameters.lookup "changes" = some "1" ↔ Keyset.ContentDiffers before after) := by
  intro h
  let sort : Sorting Keyset.sortByKey := Sorting.byKey DnsKey.key
  obtain ⟨result, hgather, honly, hempty⟩ :=
    Keyset.gatherKeysetUpdateDataChange_ok sort (sampleKeyset 257) (sampleKeyset 256)
  obtain ⟨parameters, hok, hflag, -⟩ := flag_of_gathered sampleCommon honly hempty
  have hdiffers : Keyset.ContentDiffers (sampleKeyset 257) (sampleKeyset 256) := by
    simp [Keyset.ContentDiffers, sampleKeyset]
  rcases hflag.mp ((h _ _ _ _ _ (hgather ▸ hok)).mpr hdiffers) with hcontacts | hkeys
  · exact hcontacts.2 rfl
  · rcases hkeys.2 with hperm | ⟨i, key, key', hfirst, hsecond, -, hparts⟩
    · exact hperm (List.Perm.refl _)
    · cases i with
      | zero =>
        obtain rfl := Option.some.inj hfirst
        obtain rfl := Option.some.inj hsecond
        exact hparts.elim (absurd rfl) (absurd rfl)
      | succ i => cases hfirst

end LibFred.Notifier
