import LibFred.Notifier.Contact

/-! When the notification of a contact update tells of every change. -/
namespace LibFred.Notifier.Contact

open RegistrableObject RegistrableObject.Contact

/-- What notifications tell of a contact. -/
inductive NotifiedField
  | name
  | organization
  | place
  | address (type : ContactAddressType)
  | telephone
  | fax
  | email
  | notifyemail
  | identType
  | ident
  | vat
  | disclosename
  | discloseorganization
  | discloseemail
  | discloseaddress
  | disclosenotifyemail
  | discloseident
  | disclosevat
  | disclosetelephone
  | disclosefax

namespace NotifiedField

def key : NotifiedField → String
  | name => "contact.name"
  | organization => "contact.org"
  | place => "contact.address.permanent"
  | address type => "contact.address." ++ toTemplateHandle type
  | telephone => "contact.telephone"
  | fax => "contact.fax"
  | email => "contact.email"
  | notifyemail => "contact.notify_email"
  | identType => "contact.ident_type"
  | ident => "contact.ident"
  | vat => "contact.vat"
  | disclosename => "contact.disclose.name"
  | discloseorganization => "contact.disclose.org"
  | discloseemail => "contact.disclose.email"
  | discloseaddress => "contact.disclose.address"
  | disclosenotifyemail => "contact.disclose.notify_email"
  | discloseident => "contact.disclose.ident"
  | disclosevat => "contact.disclose.vat"
  | disclosetelephone => "contact.disclose.telephone"
  | disclosefax => "contact.disclose.fax"

/-- The text that tells the value of the field. -/
def text (data : InfoContactData) : NotifiedField → String
  | name => data.name.getD ""
  | organization => data.organization.getD ""
  | place => placeText data.place
  | address type => addressText (data.addresses type)
  | telephone => data.telephone.getD ""
  | fax => data.fax.getD ""
  | email => data.email.getD ""
  | notifyemail => data.notifyemail.getD ""
  | identType => translateSsntypes data.personalId
  | ident => personalIdText data.personalId
  | vat => data.vat.getD ""
  | disclosename => boolToString data.disclosename
  | discloseorganization => boolToString data.discloseorganization
  | discloseemail => boolToString data.discloseemail
  | discloseaddress => boolToString data.discloseaddress
  | disclosenotifyemail => boolToString data.disclosenotifyemail
  | discloseident => boolToString data.discloseident
  | disclosevat => boolToString data.disclosevat
  | disclosetelephone => boolToString data.disclosetelephone
  | disclosefax => boolToString data.disclosefax

/-- The two versions differ in the field. -/
def Differs (before after : InfoContactData) : NotifiedField → Prop
  | name => before.name ≠ after.name
  | organization => before.organization ≠ after.organization
  | place => before.place ≠ after.place
  | address type => before.addresses type ≠ after.addresses type
  | telephone => before.telephone ≠ after.telephone
  | fax => before.fax ≠ after.fax
  | email => before.email ≠ after.email
  | notifyemail => before.notifyemail ≠ after.notifyemail
  | identType => before.ssntype ≠ after.ssntype
  | ident => before.ssn ≠ after.ssn
  | vat => before.vat ≠ after.vat
  | disclosename => before.disclosename ≠ after.disclosename
  | discloseorganization => before.discloseorganization ≠ after.discloseorganization
  | discloseemail => before.discloseemail ≠ after.discloseemail
  | discloseaddress => before.discloseaddress ≠ after.discloseaddress
  | disclosenotifyemail => before.disclosenotifyemail ≠ after.disclosenotifyemail
  | discloseident => before.discloseident ≠ after.discloseident
  | disclosevat => before.disclosevat ≠ after.disclosevat
  | disclosetelephone => before.disclosetelephone ≠ after.disclosetelephone
  | disclosefax => before.disclosefax ≠ after.disclosefax

def all : List NotifiedField :=
  [name, organization, place, address .mailing, address .billing, address .shipping,
    address .shipping2, address .shipping3, telephone, fax, email, notifyemail, identType, ident, vat,
    disclosename, discloseorganization, discloseemail, discloseaddress, disclosenotifyemail,
    discloseident, disclosevat, disclosetelephone, disclosefax]

theorem mem_all (field : NotifiedField) : field ∈ all := by
  rcases field with _ | _ | _ | (_ | _ | _ | _ | _) <;> simp [all]

/-- The fields in the order in which they are told. -/
theorem exists_iff {p : NotifiedField → Prop} : (∃ field, p field) ↔
    p name ∨ p organization ∨ p place ∨ (∃ type, p (address type)) ∨ p telephone ∨ p fax ∨ p email ∨
      p notifyemail ∨ (p identType ∨ p ident) ∨ p vat ∨ p disclosename ∨ p discloseorganization ∨
      p discloseemail ∨ p discloseaddress ∨ p disclosenotifyemail ∨ p discloseident ∨ p disclosevat ∨
      p disclosetelephone ∨ p disclosefax := by
  constructor
  · rintro ⟨field, h⟩
    cases field with
    | address type => exact .inr (.inr (.inr (.inl ⟨type, h⟩)))
    | _ => simp only [h, true_or, or_true]
  · intro h
    rcases h with h | h | h | ⟨_, h⟩ | h | h | h | h | (h | h) |
      h | h | h | h | h | h | h | h | h | h <;>
      exact ⟨_, h⟩

def pair (before after : InfoContactData) (field : NotifiedField) : TextPair :=
  ⟨field.key, field.text before, field.text after⟩

end NotifiedField

variable {α : Type} {before after : InfoContactData} {pair : TextPair}

theorem mem_memberPairs {eq : α → α → Bool} {a b : α} {key : String} {text : α → String}
    (heq : eq a b → a = b) :
    pair ∈ memberPairs key text (diffMember eq a b) ∧ pair.old ≠ pair.new ↔
      pair = ⟨key, text a, text b⟩ ∧ pair.old ≠ pair.new := by
  unfold diffMember
  split
  · rename_i h
    obtain rfl := heq h
    refine iff_of_false (fun h => nomatch h.1) ?_
    rintro ⟨rfl, hne⟩
    exact hne rfl
  · simp [memberPairs]

theorem mem_addressPairs {a b : ContactAddressList} :
    pair ∈ addressPairs (diffMember equalAddresses a b) ∧ pair.old ≠ pair.new ↔
      (∃ type, pair = ⟨"contact.address." ++ toTemplateHandle type, addressText (a type),
        addressText (b type)⟩) ∧ pair.old ≠ pair.new := by
  unfold diffMember
  split
  · rename_i h
    obtain rfl := equalAddresses_iff.mp h
    refine iff_of_false (fun h => nomatch h.1) ?_
    rintro ⟨⟨type, rfl⟩, hne⟩
    exact hne rfl
  · simp only [addressPairs, List.mem_map, mem_contactAddressTypes, true_and, eq_comm]

theorem diffContactData_personalId (before after : InfoContactData) :
    (diffContactData before after).personalId =
      if before.ssntype = after.ssntype ∧ before.ssn = after.ssn then none
      else some (before.personalId, after.personalId) := by
  simp only [diffContactData, Bool.or_eq_true, Bool.not_eq_true', ← Bool.not_eq_true, isEqual_iff,
    ← not_and_or, ite_not]

theorem mem_personalIdPairs (before after : InfoContactData) :
    pair ∈ personalIdPairs (diffContactData before after).personalId ∧ pair.old ≠ pair.new ↔
      (pair = NotifiedField.identType.pair before after ∨
        pair = NotifiedField.ident.pair before after) ∧ pair.old ≠ pair.new := by
  rw [diffContactData_personalId]
  split
  · rename_i h
    have hsame : before.personalId = after.personalId := by
      rw [InfoContactData.personalId, InfoContactData.personalId, h.1, h.2]
    refine iff_of_false (fun h => nomatch h.1) ?_
    rintro ⟨rfl | rfl, hne⟩
    · exact hne (congrArg translateSsntypes hsame)
    · exact hne (congrArg personalIdText hsame)
  · simp only [personalIdPairs, List.mem_cons, List.not_mem_nil, or_false]
    rfl

/-- The pairs whose texts differ are those of the fields whose texts differ. -/
theorem mem_pairsOf (before after : InfoContactData) :
    pair ∈ pairsOf (diffContactData before after) ∧ pair.old ≠ pair.new ↔
      (∃ field, pair = NotifiedField.pair before after field) ∧ pair.old ≠ pair.new := by
  have htext : ∀ {a b : Option String}, isEqual (· == ·) a b → a = b := isEqual_iff.mp
  have hplace : ∀ {a b : Option PlaceAddress}, isEqual (· == ·) a b → a = b := isEqual_iff.mp
  have hflag : ∀ {a b : Bool}, (a == b) → a = b := beq_iff_eq.mp
  simp only [pairsOf, List.mem_append, or_and_right, mem_personalIdPairs before after,
    NotifiedField.exists_iff]
  simp only [diffContactData, mem_memberPairs htext, mem_memberPairs hplace, mem_memberPairs hflag,
    mem_addressPairs]
  rfl

theorem sublist_memberPairs {key : String} {text : α → String} {member : DiffMember α}
    {keys keys' : List String} (h : keys.Sublist keys') :
    ((memberPairs key text member).map TextPair.key ++ keys).Sublist (key :: keys') := by
  cases member with
  | none => exact h.cons key
  | some pair => exact h.cons_cons key

theorem sublist_addressPairs {addresses : DiffMember ContactAddressList}
    {keys keys' : List String} (h : keys.Sublist keys') :
    ((addressPairs addresses).map TextPair.key ++ keys).Sublist
      (contactAddressTypes.map (fun type => "contact.address." ++ toTemplateHandle type) ++ keys') := by
  cases addresses with
  | none => exact h.trans (List.sublist_append_right _ _)
  | some pair => exact (List.Sublist.refl _).append h

theorem sublist_personalIdPairs {personalId : DiffMember (Option PersonalIdUnion)}
    {keys keys' : List String} (h : keys.Sublist keys') :
    ((personalIdPairs personalId).map TextPair.key ++ keys).Sublist
      ("contact.ident_type" :: "contact.ident" :: keys') := by
  cases personalId with
  | none => exact (h.cons _).cons _
  | some pair => exact (h.cons_cons _).cons_cons _

theorem keys_sublist (diff : InfoContactDiff) :
    ((pairsOf diff).map TextPair.key).Sublist (NotifiedField.all.map NotifiedField.key) := by
  simp only [pairsOf, List.map_append]
  iterate 3 refine sublist_memberPairs ?_
  refine sublist_addressPairs ?_
  iterate 4 refine sublist_memberPairs ?_
  refine sublist_personalIdPairs ?_
  iterate 9 refine sublist_memberPairs ?_
  rw [← List.append_nil (List.map _ _)]
  exact sublist_memberPairs (List.Sublist.refl [])

theorem keys_nodup : (NotifiedField.all.map NotifiedField.key).Nodup := by
  decide +kernel

theorem keys_plainEnd : ∀ field ∈ NotifiedField.all, PlainEnd field.key := by
  decide +kernel

/-- The content is gathered, and tells of the fields whose texts differ. -/
theorem gatherContactUpdateDataChange_ok (before after : InfoContactData) : ∃ result,
    gatherContactUpdateDataChange before after = .ok (setChanges result) ∧
      Tells result (NotifiedField.all.map (NotifiedField.pair before after)) := by
  have hsublist := keys_sublist (diffContactData before after)
  have hend : ∀ pair ∈ pairsOf (diffContactData before after), PlainEnd pair.key := by
    intro pair hpair
    obtain ⟨field, hfield, hkey⟩ := List.mem_map.mp (hsublist.subset (List.mem_map_of_mem hpair))
    exact hkey ▸ keys_plainEnd field hfield
  obtain ⟨result, hok, htells⟩ := addPairs_ok (keys_nodup.sublist hsublist) hend
  refine ⟨result, ?_, fun k v => (htells k v).trans ?_⟩
  · rw [gatherContactUpdateDataChange_eq, hok]
    rfl
  · simp only [← and_assoc, mem_pairsOf, List.mem_map, NotifiedField.mem_all, true_and, eq_comm]

/-- Whether a member is set that notifications are about. -/
def isNotified (diff : InfoContactDiff) : Bool :=
  isSetAnyOf [diff.name.isSome, diff.organization.isSome, diff.place.isSome, diff.addresses.isSome,
    diff.telephone.isSome, diff.fax.isSome, diff.email.isSome, diff.notifyemail.isSome,
    diff.personalId.isSome, diff.vat.isSome, diff.disclosename.isSome,
    diff.discloseorganization.isSome, diff.discloseemail.isSome, diff.discloseaddress.isSome,
    diff.disclosenotifyemail.isSome, diff.discloseident.isSome, diff.disclosevat.isSome,
    diff.disclosetelephone.isSome, diff.disclosefax.isSome]

theorem isNotified_iff : isNotified (diffContactData before after) ↔
    ∃ field, NotifiedField.Differs before after field := by
  have haddresses : before.addresses ≠ after.addresses ↔
      ∃ type, before.addresses type ≠ after.addresses type := Function.ne_iff
  simp only [NotifiedField.exists_iff, NotifiedField.Differs, ← haddresses]
  simp [isNotified, isSetAnyOf, diffContactData, ← Bool.not_eq_true]

/-- NULL and an empty text are told alike. -/
def NullAndEmpty (a b : Option String) : Prop := a = none ∧ b = some "" ∨ a = some "" ∧ b = none

theorem getD_ne_iff {a b : Option String} :
    (a ≠ b → a.getD "" ≠ b.getD "") ↔ ¬ NullAndEmpty a b := by
  cases a with
  | none =>
    cases b with
    | none => simp [NullAndEmpty]
    | some text => simp [NullAndEmpty, eq_comm]
  | some text =>
    cases b with
    | none => simp [NullAndEmpty]
    | some text' => simp [NullAndEmpty]

theorem boolToString_injective {a b : Bool} (h : a ≠ b) : boolToString a ≠ boolToString b := by
  cases a <;> cases b <;> simp_all [boolToString]

/-- No type of a personal id is told. -/
def NoIdentType (data : InfoContactData) : Prop :=
  data.ssntype = none ∨ data.ssn = none ∨ data.ssntype = some ""

/-- No number of a personal id is told. -/
def NoIdent (data : InfoContactData) : Prop :=
  data.ssntype = none ∨ data.ssn = none ∨ data.ssn = some ""

/-- The types of personal ids that are told by a text of their own. -/
def knownSsntypes : List String := ["PASS", "RC", "OP", "ICO", "MPSV", "BIRTHDAY"]

/-- The type of the personal id is told as an unknown one. -/
def ForeignIdentType (data : InfoContactData) : Prop :=
  data.ssn ≠ none ∧ ∃ type ∈ data.ssntype, type ≠ "" ∧ type ∉ knownSsntypes

/-- The text of a type that is known. -/
def knownText (type : String) : String := if type = "PASS" then "PASSPORT" else type

/-- There are three ways to tell a type. -/
theorem translateSsntypes_cases (data : InfoContactData) :
    (NoIdentType data ∧ translateSsntypes data.personalId = "") ∨
    (ForeignIdentType data ∧ translateSsntypes data.personalId = "UNKNOWN") ∨
    ∃ type ∈ knownSsntypes, data.ssntype = some type ∧
      translateSsntypes data.personalId = knownText type := by
  cases htype : data.ssntype with
  | none => exact .inl ⟨.inl htype, by simp [translateSsntypes, InfoContactData.personalId, htype]⟩
  | some type =>
    cases hssn : data.ssn with
    | none =>
      exact .inl ⟨.inr (.inl hssn), by simp [translateSsntypes, InfoContactData.personalId, htype, hssn]⟩
    | some ssn =>
      have htext : translateSsntypes data.personalId = translateSsntypes (some ⟨type, ssn⟩) := by
        rw [InfoContactData.personalId, htype, hssn]
      rw [htext]
      by_cases hempty : type = ""
      · exact .inl ⟨.inr (.inr (hempty ▸ htype)), by simp [translateSsntypes, hempty]⟩
      · by_cases hknown : type ∈ knownSsntypes
        · refine .inr (.inr ⟨type, hknown, rfl, ?_⟩)
          simp only [knownSsntypes, List.mem_cons, List.not_mem_nil, or_false] at hknown
          rcases hknown with rfl | rfl | rfl | rfl | rfl | rfl <;> simp [translateSsntypes, knownText]
        · refine .inr (.inl ⟨⟨by simp [hssn], type, htype, hempty, hknown⟩, ?_⟩)
          simp only [knownSsntypes, List.mem_cons, List.not_mem_nil, or_false, not_or] at hknown
          simp [translateSsntypes, hempty, hknown]

theorem knownText_injective : ∀ type ∈ knownSsntypes, ∀ type' ∈ knownSsntypes,
    knownText type = knownText type' → type = type' := by
  decide

theorem knownText_ne : ∀ type ∈ knownSsntypes, knownText type ≠ "" ∧ knownText type ≠ "UNKNOWN" := by
  decide

theorem NoIdentType.text {data : InfoContactData} (h : NoIdentType data) :
    translateSsntypes data.personalId = "" := by
  rcases h with htype | hssn | htype
  · simp [translateSsntypes, InfoContactData.personalId, htype]
  · cases htype : data.ssntype <;> simp [translateSsntypes, InfoContactData.personalId, htype, hssn]
  · cases hssn : data.ssn <;> simp [translateSsntypes, InfoContactData.personalId, htype, hssn]

theorem ForeignIdentType.text {data : InfoContactData} (h : ForeignIdentType data) :
    translateSsntypes data.personalId = "UNKNOWN" := by
  obtain ⟨hssn, type, htype, hempty, hforeign⟩ := h
  rcases translateSsntypes_cases data with ⟨hnone | hnone | hnone, -⟩ | ⟨-, htext⟩ |
    ⟨type', hknown, htype', -⟩
  · cases htype.symm.trans hnone
  · exact absurd hnone hssn
  · exact absurd (Option.some.inj (htype.symm.trans hnone)) hempty
  · exact htext
  · obtain rfl := Option.some.inj (htype.symm.trans htype')
    exact absurd hknown hforeign

/-- Different types are told alike if neither is told or both are unknown. -/
theorem identType_ne_iff (before after : InfoContactData) :
    (before.ssntype ≠ after.ssntype →
      translateSsntypes before.personalId ≠ translateSsntypes after.personalId) ↔
    (before.ssntype ≠ after.ssntype → ¬ (NoIdentType before ∧ NoIdentType after) ∧
      ¬ (ForeignIdentType before ∧ ForeignIdentType after)) := by
  constructor
  · intro h hdiffers
    refine ⟨fun hnone => h hdiffers ?_, fun hforeign => h hdiffers ?_⟩
    · rw [hnone.1.text, hnone.2.text]
    · rw [hforeign.1.text, hforeign.2.text]
  · intro h hdiffers heq
    obtain ⟨hnone, hforeign⟩ := h hdiffers
    rcases translateSsntypes_cases before with ⟨hb, htext⟩ | ⟨hb, htext⟩ | ⟨type, hknown, hb, htext⟩ <;>
      rcases translateSsntypes_cases after with ⟨ha, htext'⟩ | ⟨ha, htext'⟩ | ⟨type', hknown', ha, htext'⟩ <;>
      rw [htext, htext'] at heq
    · exact hnone ⟨hb, ha⟩
    · revert heq
      decide
    · exact (knownText_ne type' hknown').1 heq.symm
    · revert heq
      decide
    · exact hforeign ⟨hb, ha⟩
    · exact (knownText_ne type' hknown').2 heq.symm
    · exact (knownText_ne type hknown).1 heq
    · exact (knownText_ne type hknown).2 heq
    · obtain rfl := knownText_injective type hknown type' hknown' heq
      exact hdiffers (hb.trans ha.symm)

theorem personalIdText_cases (data : InfoContactData) :
    (NoIdent data ∧ personalIdText data.personalId = "") ∨
      ∃ ssn, ssn ≠ "" ∧ data.ssn = some ssn ∧ personalIdText data.personalId = ssn := by
  cases htype : data.ssntype with
  | none => exact .inl ⟨.inl htype, by simp [personalIdText, InfoContactData.personalId, htype]⟩
  | some type =>
    cases hssn : data.ssn with
    | none =>
      exact .inl ⟨.inr (.inl hssn), by simp [personalIdText, InfoContactData.personalId, htype, hssn]⟩
    | some ssn =>
      have htext : personalIdText data.personalId = ssn := by
        rw [InfoContactData.personalId, htype, hssn]
        rfl
      by_cases hempty : ssn = ""
      · exact .inl ⟨.inr (.inr (hempty ▸ hssn)), htext.trans hempty⟩
      · exact .inr ⟨ssn, hempty, rfl, htext⟩

theorem NoIdent.text {data : InfoContactData} (h : NoIdent data) :
    personalIdText data.personalId = "" := by
  rcases h with htype | hssn | hssn
  · simp [personalIdText, InfoContactData.personalId, htype]
  · cases htype : data.ssntype <;> simp [personalIdText, InfoContactData.personalId, htype, hssn]
  · cases htype : data.ssntype <;> simp [personalIdText, InfoContactData.personalId, htype, hssn]

/-- Different numbers are told alike only if neither is told. -/
theorem ident_ne_iff (before after : InfoContactData) :
    (before.ssn ≠ after.ssn → personalIdText before.personalId ≠ personalIdText after.personalId) ↔
    (before.ssn ≠ after.ssn → ¬ (NoIdent before ∧ NoIdent after)) := by
  constructor
  · intro h hdiffers hnone
    exact h hdiffers (hnone.1.text.trans hnone.2.text.symm)
  · intro h hdiffers heq
    rcases personalIdText_cases before with ⟨hb, htext⟩ | ⟨ssn, hne, hb, htext⟩ <;>
      rcases personalIdText_cases after with ⟨ha, htext'⟩ | ⟨ssn', hne', ha, htext'⟩ <;>
      rw [htext, htext'] at heq
    · exact h hdiffers ⟨hb, ha⟩
    · exact hne' heq.symm
    · exact hne heq
    · exact hdiffers (by rw [hb, ha, heq])

section Addresses

/-- What ", " divides a text into. -/
def pieces : List Char → List (List Char)
  | [] => [[]]
  | ',' :: ' ' :: cs => [] :: pieces cs
  | c :: cs => (pieces cs).modifyHead (c :: ·)

theorem pieces_ne_nil (text : List Char) : pieces text ≠ [] := by
  fun_induction pieces text <;> simp_all

/-- A text is cut where it is joined, whatever stands on both sides. -/
theorem pieces_append (text rest : List Char) :
    pieces (text ++ ',' :: ' ' :: rest) = pieces text ++ pieces rest := by
  fun_induction pieces text with
  | case1 => rfl
  | case2 cs ih => simp [pieces, ih]
  | case3 c cs hsep ih =>
    have hne : pieces (c :: (cs ++ ',' :: ' ' :: rest)) =
        (pieces (cs ++ ',' :: ' ' :: rest)).modifyHead (c :: ·) := by
      refine pieces.eq_3 _ _ fun cs' hc hcs => ?_
      cases cs with
      | nil => cases hcs
      | cons d ds =>
        obtain ⟨rfl, -⟩ := List.cons.inj hcs
        exact hsep ds hc rfl
    obtain ⟨head, tail, htail⟩ := List.exists_cons_of_ne_nil (pieces_ne_nil cs)
    rw [List.cons_append, hne, ih, htail]
    rfl

theorem intercalate_pieces (text : List Char) : [',', ' '].intercalate (pieces text) = text := by
  fun_induction pieces text with
  | case1 => rfl
  | case2 cs ih =>
    obtain ⟨head, tail, htail⟩ := List.exists_cons_of_ne_nil (pieces_ne_nil cs)
    rw [htail] at ih ⊢
    rw [List.intercalate_cons_cons, ih]
    rfl
  | case3 c cs hsep ih =>
    obtain ⟨head, tail, htail⟩ := List.exists_cons_of_ne_nil (pieces_ne_nil cs)
    rw [htail] at ih ⊢
    cases tail with
    | nil => simpa using ih
    | cons piece tail => simpa [List.intercalate_cons_cons] using ih

theorem pieces_inj {text text' : List Char} : pieces text = pieces text' ↔ text = text' :=
  ⟨fun h => by rw [← intercalate_pieces text, h, intercalate_pieces], congrArg pieces⟩

theorem pieces_intercalate {texts : List (List Char)} (h : texts ≠ []) :
    pieces ([',', ' '].intercalate texts) = texts.flatMap pieces := by
  induction texts with
  | nil => exact absurd rfl h
  | cons text texts ih =>
    cases texts with
    | nil => simp
    | cons text' texts =>
      rw [List.intercalate_cons_cons, List.flatMap_cons, ← ih (List.cons_ne_nil _ _),
        ← pieces_append]
      simp
/-- The parts of a place, in the order of the text. -/
def placeParts : Option PlaceAddress → List String
  | none => []
  | some place => [place.street1, place.street2.getD "", place.street3.getD "",
    place.stateorprovince.getD "", place.postalcode, place.city, place.country]

/-- The parts of an address, the name of the company first. -/
def addressParts : Option ContactAddress → List String
  | none => []
  | some address => address.companyName.getD "" :: placeParts (some address.toPlaceAddress)

/-- What can be told of the parts: those that are not empty, as ", " divides them. -/
def toldPieces (parts : List String) : List (List Char) :=
  (parts.filter (· ≠ "")).flatMap fun part => pieces part.toList

/-- The text that is made of parts. -/
def partsText (parts : List String) : String := ", ".intercalate (parts.filter (· ≠ ""))

theorem partsText_eq_empty {parts : List String} : partsText parts = "" ↔ parts.filter (· ≠ "") = [] := by
  constructor
  · intro h
    cases hparts : parts.filter (· ≠ "") with
    | nil => rfl
    | cons part rest =>
      have hmem : part ∈ parts.filter (· ≠ "") := hparts ▸ List.mem_cons_self
      have hne : part ≠ "" := of_decide_eq_true (List.mem_filter.mp hmem).2
      rw [partsText, hparts] at h
      cases rest with
      | nil => exact absurd h (by simpa using hne)
      | cons part' rest => exact absurd (congrArg String.toList h) (by simp [String.toList_intercalate, hne])
  · intro h
    rw [partsText, h]
    rfl

/-- Parts are told alike exactly if ", " divides them into the same pieces. -/
theorem partsText_eq_iff {parts parts' : List String} :
    partsText parts = partsText parts' ↔ toldPieces parts = toldPieces parts' := by
  have hpieces : ∀ parts : List String, parts.filter (· ≠ "") ≠ [] →
      pieces (partsText parts).toList = toldPieces parts := by
    intro parts h
    have hmap : (parts.filter (· ≠ "")).map String.toList ≠ [] := by simpa using h
    rw [partsText, String.toList_intercalate]
    exact (pieces_intercalate hmap).trans (List.flatMap_map _ _ _)
  have hnone : ∀ parts : List String, toldPieces parts = [] ↔ parts.filter (· ≠ "") = [] := by
    intro parts
    rw [toldPieces, List.flatMap_eq_nil_iff]
    exact ⟨fun h => List.eq_nil_iff_forall_not_mem.mpr fun part hmem => pieces_ne_nil _ (h part hmem),
      fun h part hmem => absurd (h ▸ hmem) List.not_mem_nil⟩
  by_cases h : parts.filter (· ≠ "") = []
  · rw [partsText_eq_empty.mpr h, (hnone parts).mpr h, eq_comm, partsText_eq_empty, ← hnone parts']
    exact eq_comm
  · by_cases h' : parts'.filter (· ≠ "") = []
    · rw [partsText_eq_empty.mpr h', (hnone parts').mpr h', partsText_eq_empty, hnone]
    · rw [← hpieces parts h, ← hpieces parts' h', pieces_inj, String.toList_inj]

theorem nonEmptyParts_eq (parts : List String) : nonEmptyParts parts = parts.filter (· ≠ "") := by
  have hfold : ∀ target : List String,
      parts.foldl aggregateNonempty target = target ++ parts.filter (· ≠ "") := by
    induction parts with
    | nil => simp
    | cons part parts ih =>
      intro target
      by_cases hempty : part = "" <;> simp [aggregateNonempty, ih, hempty]
  exact (hfold []).trans (List.nil_append _)

theorem placeText_eq (place : Option PlaceAddress) : placeText place = partsText (placeParts place) := by
  cases place with
  | none => rfl
  | some place =>
    change placeAddressToString place = _
    rw [placeAddressToString, nonEmptyParts_eq]
    rfl

/-- A text that is made of parts is one part of another text. -/
theorem intercalate_partsText (part : String) (parts : List String) :
    ", ".intercalate ([part, partsText parts].filter (· ≠ "")) = partsText (part :: parts) := by
  have hcons : partsText (part :: parts) =
      ", ".intercalate (if part = "" then parts.filter (· ≠ "") else part :: parts.filter (· ≠ "")) := by
    by_cases hpart : part = "" <;> simp [partsText, hpart]
  rw [hcons]
  by_cases hparts : partsText parts = ""
  · rw [partsText_eq_empty.mp hparts]
    by_cases hpart : part = "" <;> simp [hpart, hparts]
  · have hfilter : [part, partsText parts].filter (· ≠ "") =
        if part = "" then [partsText parts] else [part, partsText parts] := by
      by_cases hpart : part = "" <;> simp [hpart, hparts]
    rw [hfilter]
    by_cases hpart : part = ""
    · rw [if_pos hpart, if_pos hpart]
      rfl
    · obtain ⟨part', rest, hrest⟩ := List.exists_cons_of_ne_nil (mt partsText_eq_empty.mpr hparts)
      rw [if_neg hpart, if_neg hpart, partsText, hrest, String.intercalate_cons_cons,
        String.intercalate_cons_cons]
      simp

theorem addressText_eq (address : Option ContactAddress) :
    addressText address = partsText (addressParts address) := by
  cases address with
  | none => rfl
  | some address =>
    have hplace : placeAddressToString address.toPlaceAddress =
        partsText (placeParts (some address.toPlaceAddress)) := placeText_eq (some _)
    change contactAddressToString address = _
    rw [contactAddressToString, nonEmptyParts_eq, hplace]
    exact intercalate_partsText _ _

end Addresses

/-- No change is lost in the texts: no field goes from NULL to an empty text or back, the parts of
other addresses are other pieces, and what is told of the personal id tells its types and numbers
apart. -/
structure TellsApart (before after : InfoContactData) : Prop where
  name : ¬ NullAndEmpty before.name after.name
  organization : ¬ NullAndEmpty before.organization after.organization
  place : before.place ≠ after.place →
    toldPieces (placeParts before.place) ≠ toldPieces (placeParts after.place)
  address : ∀ type, before.addresses type ≠ after.addresses type →
    toldPieces (addressParts (before.addresses type)) ≠ toldPieces (addressParts (after.addresses type))
  telephone : ¬ NullAndEmpty before.telephone after.telephone
  fax : ¬ NullAndEmpty before.fax after.fax
  email : ¬ NullAndEmpty before.email after.email
  notifyemail : ¬ NullAndEmpty before.notifyemail after.notifyemail
  identType : before.ssntype ≠ after.ssntype → ¬ (NoIdentType before ∧ NoIdentType after) ∧
    ¬ (ForeignIdentType before ∧ ForeignIdentType after)
  ident : before.ssn ≠ after.ssn → ¬ (NoIdent before ∧ NoIdent after)
  vat : ¬ NullAndEmpty before.vat after.vat

theorem placeText_ne_iff {place place' : Option PlaceAddress} :
    placeText place ≠ placeText place' ↔ toldPieces (placeParts place) ≠ toldPieces (placeParts place') := by
  rw [placeText_eq, placeText_eq, Ne, partsText_eq_iff]

theorem addressText_ne_iff {address address' : Option ContactAddress} :
    addressText address ≠ addressText address' ↔
      toldPieces (addressParts address) ≠ toldPieces (addressParts address') := by
  rw [addressText_eq, addressText_eq, Ne, partsText_eq_iff]

theorem tellsApart_iff : TellsApart before after ↔ ∀ field,
    NotifiedField.Differs before after field →
      NotifiedField.text before field ≠ NotifiedField.text after field := by
  constructor
  · intro h field
    cases field with
    | name => exact getD_ne_iff.mpr h.name
    | organization => exact getD_ne_iff.mpr h.organization
    | place => exact fun hdiffers => placeText_ne_iff.mpr (h.place hdiffers)
    | address type => exact fun hdiffers => addressText_ne_iff.mpr (h.address type hdiffers)
    | telephone => exact getD_ne_iff.mpr h.telephone
    | fax => exact getD_ne_iff.mpr h.fax
    | email => exact getD_ne_iff.mpr h.email
    | notifyemail => exact getD_ne_iff.mpr h.notifyemail
    | identType => exact (identType_ne_iff before after).mpr h.identType
    | ident => exact (ident_ne_iff before after).mpr h.ident
    | vat => exact getD_ne_iff.mpr h.vat
    | _ => exact boolToString_injective
  · intro h
    exact
      { name := getD_ne_iff.mp (h .name)
        organization := getD_ne_iff.mp (h .organization)
        place := fun hdiffers => placeText_ne_iff.mp (h .place hdiffers)
        address := fun type hdiffers => addressText_ne_iff.mp (h (.address type) hdiffers)
        telephone := getD_ne_iff.mp (h .telephone)
        fax := getD_ne_iff.mp (h .fax)
        email := getD_ne_iff.mp (h .email)
        notifyemail := getD_ne_iff.mp (h .notifyemail)
        identType := (identType_ne_iff before after).mp (h .identType)
        ident := (ident_ne_iff before after).mp (h .ident)
        vat := getD_ne_iff.mp (h .vat) }

/-- The content says that something was changed exactly if it was, and has a pair of different texts
for each field that was. -/
structure Faithful (before after : InfoContactData) (content : Parameters) : Prop where
  changed : isNotified (diffContactData before after) → content.lookup "changes" = some "1"
  told : ∀ field, NotifiedField.Differs before after field → ∃ old new, old ≠ new ∧
    content.lookup ("changes." ++ field.key ++ ".old") = some old ∧
    content.lookup ("changes." ++ field.key ++ ".new") = some new
  unchanged : (∀ field, ¬ NotifiedField.Differs before after field) →
    content.lookup "changes" = some "0"

theorem lookup_setChanges_of_told {result : Parameters} {k v : String} (h : (k, v) ∈ pair.told) :
    (setChanges result).lookup k = result.lookup k := by
  refine Finmap.lookup_insert_of_ne _ ?_
  rintro rfl
  obtain ⟨ending, -, hk⟩ := ending_of_told h
  have hprefix : "changes.".toList <+: "changes".toList := ⟨_, hk.symm⟩
  revert hprefix
  decide

theorem key_injective {field field' : NotifiedField} (h : field.key = field'.key) : field = field' :=
  List.inj_on_of_nodup_map keys_nodup field.mem_all field'.mem_all h

theorem mem_told (before after : InfoContactData) (field : NotifiedField) :
    ("changes." ++ field.key ++ ".old", field.text before) ∈ (field.pair before after).told ∧
      ("changes." ++ field.key ++ ".new", field.text after) ∈ (field.pair before after).told := by
  simp [TextPair.told, NotifiedField.pair]

theorem text_eq_of_not_differs (h : ∀ field, ¬ NotifiedField.Differs before after field)
    (field : NotifiedField) : field.text before = field.text after := by
  have hpersonalId : before.personalId = after.personalId := by
    rw [InfoContactData.personalId, InfoContactData.personalId, not_not.mp (h .identType),
      not_not.mp (h .ident)]
  cases field with
  | identType => exact congrArg translateSsntypes hpersonalId
  | ident => exact congrArg personalIdText hpersonalId
  | address type => exact congrArg addressText (not_not.mp (h (.address type)))
  | place => exact congrArg placeText (not_not.mp (h .place))
  | name => exact congrArg (·.getD "") (not_not.mp (h .name))
  | organization => exact congrArg (·.getD "") (not_not.mp (h .organization))
  | telephone => exact congrArg (·.getD "") (not_not.mp (h .telephone))
  | fax => exact congrArg (·.getD "") (not_not.mp (h .fax))
  | email => exact congrArg (·.getD "") (not_not.mp (h .email))
  | notifyemail => exact congrArg (·.getD "") (not_not.mp (h .notifyemail))
  | vat => exact congrArg (·.getD "") (not_not.mp (h .vat))
  | disclosename => exact congrArg boolToString (not_not.mp (h .disclosename))
  | discloseorganization => exact congrArg boolToString (not_not.mp (h .discloseorganization))
  | discloseemail => exact congrArg boolToString (not_not.mp (h .discloseemail))
  | discloseaddress => exact congrArg boolToString (not_not.mp (h .discloseaddress))
  | disclosenotifyemail => exact congrArg boolToString (not_not.mp (h .disclosenotifyemail))
  | discloseident => exact congrArg boolToString (not_not.mp (h .discloseident))
  | disclosevat => exact congrArg boolToString (not_not.mp (h .disclosevat))
  | disclosetelephone => exact congrArg boolToString (not_not.mp (h .disclosetelephone))
  | disclosefax => exact congrArg boolToString (not_not.mp (h .disclosefax))

/-- The content has a pair of texts for a field exactly if its texts differ. -/
theorem told_iff {result : Parameters}
    (h : Tells result (NotifiedField.all.map (NotifiedField.pair before after)))
    (field : NotifiedField) :
    (∃ old new, old ≠ new ∧
      (setChanges result).lookup ("changes." ++ field.key ++ ".old") = some old ∧
      (setChanges result).lookup ("changes." ++ field.key ++ ".new") = some new) ↔
    field.text before ≠ field.text after := by
  obtain ⟨hold, hnew⟩ := mem_told before after field
  rw [lookup_setChanges_of_told hold, lookup_setChanges_of_told hnew]
  constructor
  · rintro ⟨old, new, -, hlookup, -⟩
    obtain ⟨pair, hmem, hne, htold⟩ := (h _ _).mp hlookup
    obtain ⟨field', -, rfl⟩ := List.mem_map.mp hmem
    have hkey := key_eq_of_told htold hold (keys_plainEnd field' field'.mem_all)
      (keys_plainEnd field field.mem_all)
    obtain rfl := key_injective hkey
    exact hne
  · intro hne
    have hmem := List.mem_map_of_mem (f := NotifiedField.pair before after) field.mem_all
    exact ⟨_, _, hne, (h _ _).mpr ⟨_, hmem, hne, hold⟩, (h _ _).mpr ⟨_, hmem, hne, hnew⟩⟩

/-- A faithful notification has all changes in its texts. -/
theorem tellsApart_of_faithful {content : Parameters}
    (hok : gatherContactUpdateDataChange before after = .ok content)
    (hfaithful : Faithful before after content) : TellsApart before after := by
  obtain ⟨result, hgathered, htells⟩ := gatherContactUpdateDataChange_ok before after
  obtain rfl := Except.ok.inj (hgathered.symm.trans hok)
  exact tellsApart_iff.mpr fun field hdiffers => (told_iff htells field).mp (hfaithful.told field hdiffers)

/-- The notification of a contact update is faithful exactly if the texts tell all changes apart. -/
theorem contact_changes_told (before after : InfoContactData) :
    (∃ content, gatherContactUpdateDataChange before after = .ok content ∧
      Faithful before after content) ↔ TellsApart before after := by
  constructor
  · rintro ⟨content, hok, hfaithful⟩
    exact tellsApart_of_faithful hok hfaithful
  intro h
  rw [tellsApart_iff] at h
  obtain ⟨result, hok, htells⟩ := gatherContactUpdateDataChange_ok before after
  have hempty : result = ∅ ↔ ∀ field : NotifiedField, field.text before = field.text after := by
    rw [htells.eq_empty_iff]
    constructor
    · exact fun h field => h _ (List.mem_map_of_mem field.mem_all)
    · intro h pair hpair
      obtain ⟨field, -, rfl⟩ := List.mem_map.mp hpair
      exact h field
  refine ⟨_, hok, fun hnotified => ?_, fun field hdiffers => (told_iff htells field).mpr
    (h field hdiffers), fun hsame => ?_⟩
  · obtain ⟨field, hdiffers⟩ := isNotified_iff.mp hnotified
    rw [lookup_setChanges, if_neg fun hnone => h field hdiffers (hempty.mp hnone field)]
  · rw [lookup_setChanges, if_pos (hempty.mpr (text_eq_of_not_differs hsame))]

/-- A contact of whom only the streets of the place matter. -/
def officeAt (street1 : String) (street2 : Option String) : InfoContactData where
  crhistoryid := 1
  historyid := 1
  deleteTime := none
  handle := "OFFICE"
  roid := "C0000000001-CZ"
  sponsoringRegistrarHandle := "REG-A"
  createRegistrarHandle := "REG-A"
  updateRegistrarHandle := none
  creationTime := .time 0
  updateTime := none
  transferTime := none
  name := some "Office"
  organization := none
  place := some ⟨street1, street2, none, "Praha", none, "13000", "CZ"⟩
  telephone := none
  fax := none
  email := none
  notifyemail := none
  vat := none
  ssntype := none
  ssn := none
  disclosename := true
  discloseorganization := true
  discloseaddress := true
  disclosetelephone := false
  disclosefax := false
  discloseemail := false
  disclosevat := false
  discloseident := false
  disclosenotifyemail := false
  id := 1
  uuid := 1
  historyUuid := 1
  addresses := fun _ => none
  warningLetter := none

/-- The house number moves to the second street, and the whole address has the same text. -/
theorem not_contact_changes_told : ¬ ∀ before after : InfoContactData, ∃ content,
    gatherContactUpdateDataChange before after = .ok content ∧ Faithful before after content := by
  intro h
  obtain ⟨content, hok, hfaithful⟩ := h (officeAt "Milady, 1" none) (officeAt "Milady" (some "1"))
  exact (tellsApart_of_faithful hok hfaithful).place (by decide) rfl

end LibFred.Notifier.Contact
