import LibFred.RegistrableObject.Domain.DomainUpdates

/-! The columns that an update of a domain sets. -/
namespace LibFred.RegistrableObject.Domain

open Sql
open LibFred.Db

variable {settings : UpdateSettings} {op : UpdateDomain} {domainId historyId : Nat}
  {db db' s s' : ObjectDatabase} {u : Unit} {e : DomainException} {type : Db.ObjectType}

/-- A handle that is not reported is known. -/
theorem resolveHandle_known {handle : String} {r : Nat × Option String}
    (h : (resolveHandle type handle).run s = .ok r s') (hknown : r.2 = none) :
    objectIdOf s.toDatabase type handle = some r.1 := by
  obtain ⟨found, t, hlookup, h⟩ := run_bind_eq_ok.mp h
  obtain ⟨d, hd, rfl⟩ := run_lift_eq_ok.mp hlookup
  obtain ⟨hid, -, -⟩ := getObjectIdByHandleAndType_ok hd
  cases found with
  | none =>
    obtain ⟨rfl, -⟩ := run_pure_eq_ok.mp h
    cases hknown
  | some id =>
    obtain ⟨rfl, -⟩ := run_pure_eq_ok.mp h
    exact hid.symm

theorem resolveOptional_known {given : Option (Option String)}
    {r : Option (Option Nat) × Option String} (h : (resolveOptional type given).run s = .ok r s')
    (hknown : r.2 = none) : r.1 = given.map (·.bind (objectIdOf s.toDatabase type)) := by
  rcases given with _ | _ | handle
  · obtain ⟨rfl, -⟩ := run_pure_eq_ok.mp h
    rfl
  · obtain ⟨rfl, -⟩ := run_pure_eq_ok.mp h
    rfl
  · obtain ⟨resolved, t, hresolved, h⟩ := run_bind_eq_ok.mp h
    obtain ⟨rfl, -⟩ := run_pure_eq_ok.mp h
    rw [Option.map_some, Option.bind_some, resolveHandle_known hresolved hknown]

namespace UpdateDomain

/-- The values that the columns get, as far as they are known. -/
def columnsOf (op : UpdateDomain) (db : Database) : DomainColumns where
  nsset := op.nsset.map (·.bind (objectIdOf db .nsset))
  keyset := op.keyset.map (·.bind (objectIdOf db .keyset))
  registrant := op.registrant.bind (objectIdOf db .contact)
  exdate := op.expirationDate.bind (·.day?)

theorem resolveRegistrant_known {r : Option Nat × Option String}
    (h : op.resolveRegistrant.run s = .ok r s') (hknown : r.2 = none) :
    r.1 = op.registrant.bind (objectIdOf s.toDatabase .contact) := by
  unfold resolveRegistrant at h
  split at h
  · rename_i hnone
    obtain ⟨rfl, -⟩ := run_pure_eq_ok.mp h
    rw [hnone]
    rfl
  · rename_i handle hgiven
    obtain ⟨resolved, t, hresolved, h⟩ := run_bind_eq_ok.mp h
    obtain ⟨rfl, -⟩ := run_pure_eq_ok.mp h
    rw [hgiven, Option.bind_some, resolveHandle_known hresolved hknown]

theorem set_of_not_changesDomain (h : ¬ op.changesDomain) (d : Db.Domain) :
    (op.columnsOf db.toDatabase).set d = d := by
  simp only [changesDomain, Bool.or_eq_true, not_or, Bool.not_eq_true,
    Option.isSome_eq_false_iff, Option.isNone_iff_eq_none] at h
  simp [DomainColumns.set, columnsOf, h]

/-- Columns that are set are set to what their handles mean. -/
theorem updateColumns_sets (h : (op.updateColumns settings domainId e).run s = .ok u s') :
    s'.domain = s.domain.update (·.id = domainId) (op.columnsOf s.toDatabase).set
      (DomainColumns.key_set _) := by
  unfold updateColumns at h
  split at h
  · obtain ⟨nsset, t₁, hnsset, hrest₁⟩ := run_bind_eq_ok.mp h
    obtain ⟨rfl, -⟩ := resolveOptional_ok hnsset
    obtain ⟨keyset, t₂, hkeyset, hrest₂⟩ := run_bind_eq_ok.mp hrest₁
    obtain ⟨rfl, -⟩ := resolveOptional_ok hkeyset
    obtain ⟨registrant, t₃, hregistrant, hrest₃⟩ := run_bind_eq_ok.mp hrest₂
    obtain ⟨rfl, -⟩ := resolveRegistrant_ok hregistrant
    obtain ⟨_, t₄, hraise, hwrite⟩ := run_bind_eq_ok.mp hrest₃
    obtain ⟨hnothing, rfl⟩ := run_raiseIf_eq_ok.mp hraise
    have hnothing := not_not.mp hnothing
    have hcolumns : (⟨nsset.1, keyset.1, registrant.1, op.expirationDate.bind (·.day?)⟩ :
        DomainColumns) = op.columnsOf t₃.toDatabase := by
      rw [resolveOptional_known hnsset (congrArg DomainException.unknownNssetHandle hnothing),
        resolveOptional_known hkeyset (congrArg DomainException.unknownKeysetHandle hnothing),
        resolveRegistrant_known hregistrant (congrArg DomainException.unknownRegistrantHandle hnothing)]
      rfl
    rw [hcolumns] at hwrite
    simp only [DomainColumns.write, EStateM.run] at hwrite
    split at hwrite <;> cases hwrite
    rfl
  · rename_i hunchanged
    obtain ⟨-, rfl⟩ := run_pure_eq_ok.mp h
    exact ((Table.update_eq_self_iff _).mpr fun d _ _ => set_of_not_changesDomain hunchanged d).symm

/-- An update that was accepted sets the columns that it is given, and no others. -/
theorem domain_of_ok (h : (op.exec settings).run db = .ok historyId db') :
    ∃ found, op.selectDomain db = [found] ∧
      db'.domain = db.domain.update (·.id = found.1) (op.columnsOf db.toDatabase).set
        (DomainColumns.key_set _) := by
  obtain ⟨_, t, hregistrar, h₁⟩ := run_bind_eq_ok.mp h
  obtain rfl := checkRegistrar_ok hregistrar
  obtain ⟨found, t', hdomain, h₂⟩ := run_bind_eq_ok.mp h₁
  obtain ⟨rfl, hfound⟩ := getDomain_ok hdomain
  obtain ⟨_, t, hraise, h₃⟩ := run_bind_eq_ok.mp h₂
  obtain ⟨-, rfl⟩ := run_raiseIf_eq_ok.mp hraise
  obtain ⟨_, t, hraise, h₄⟩ := run_bind_eq_ok.mp h₃
  obtain ⟨-, rfl⟩ := run_raiseIf_eq_ok.mp hraise
  obtain ⟨updated, s₁, hupdated, h₅⟩ := run_bind_eq_ok.mp h₄
  obtain ⟨_, s₂, hcolumns, h₆⟩ := run_bind_eq_ok.mp h₅
  obtain ⟨contacts, s₃, hcontacts, h₇⟩ := run_bind_eq_ok.mp h₆
  obtain ⟨_, t', hraise, h₈⟩ := run_bind_eq_ok.mp h₇
  obtain ⟨hnone, rfl⟩ := run_raiseIf_eq_ok.mp hraise
  obtain ⟨_, s₄, henumval, h₉⟩ := run_bind_eq_ok.mp h₈
  obtain ⟨_, s₅, hcopy, h₁₀⟩ := run_bind_eq_ok.mp h₉
  obtain ⟨rfl, rfl⟩ := run_pure_eq_ok.mp h₁₀
  have hnone := not_not.mp hnone
  obtain ⟨domainId, d, -, -, hrecorded, rfl⟩ := updateObject_known hupdated
    (congrArg DomainException.unknownDomainFqdn hnone)
    (congrArg DomainException.unknownRegistrarHandle hnone)
  have hids : op.columnsOf d = op.columnsOf t'.toDatabase := by
    unfold columnsOf
    simp only [hrecorded.objectIdOf]
  have hdomains := updateColumns_sets hcolumns
  rw [hids] at hdomains
  obtain ⟨links, os, rfl⟩ :=
    ((ContactMap.ends_updateContacts lawful_domainContactMap _ _ _ _ _).ok hcontacts).state
  obtain ⟨enumvals, os', rfl, -⟩ := updateEnumval_ok henumval
  obtain ⟨_, _, _, rfl⟩ := copy_ok hcopy
  exact ⟨found, hfound, hdomains⟩

end UpdateDomain

end LibFred.RegistrableObject.Domain
