import LibFred.Zone.Zone
import Mathlib.Data.Set.Finite.Lemmas

/-! The zone that the search finds for a domain name. -/
namespace LibFred.Zone

open Cpp (StdString)

variable {domain zone fqdn : StdString} {place : Nat} {zones zones' : List Data} {z : Data}
  {order : LongestFirst}

/-- The name ends with the zone behind a dot, and something stands before that. -/
def LiesIn (domain zone : StdString) : Prop := ∃ p ≠ [], domain = p ++ '.' :: zone

/-- The name lies in the zone and in no longer one. -/
structure IsLongest (zones : List Data) (fqdn : StdString) (z : Data) : Prop where
  mem : z ∈ zones
  liesIn : LiesIn (Cpp.toLowerCopy fqdn) z.name
  longest : ∀ z' ∈ zones, LiesIn (Cpp.toLowerCopy fqdn) z'.name → z'.name.length ≤ z.name.length

/-- For all orders of the table and of zones of one length the search ends the same way: with the
longest zone of the name or, when the name has none, with the exception. -/
def FindsLongest (zones : List Data) (fqdn : StdString) : Prop :=
  ∃ result : Except Exception Data,
    (∀ (order : LongestFirst) (zones' : List Data), zones'.Perm zones →
      findZoneInFqdn order zones' fqdn = result) ∧
    (∀ z, result = .ok z ↔ IsLongest zones fqdn z) ∧
    (result = .error (.unknownZoneInFqdn fqdn) ↔ ¬ ∃ z ∈ zones, LiesIn (Cpp.toLowerCopy fqdn) z.name)

/-- The bytes before the dot of an ending, of which an unsigned number of 32 bits is kept. -/
def keptPlace (domain zone : StdString) : Nat := (domain.length - ('.' :: zone).length) % 2 ^ 32

/-- The number is not one of an int above zero. -/
def Missed (domain zone : StdString) : Prop :=
  LiesIn domain zone ∧ (keptPlace domain zone = 0 ∨ 2 ^ 31 ≤ keptPlace domain zone)

/-- The number is that of an earlier place, and the zone occurs between that and the end. -/
def Strayed (domain zone : StdString) : Prop :=
  ¬ LiesIn domain zone ∧ 1 ≤ keptPlace domain zone ∧ keptPlace domain zone < 2 ^ 31 ∧
    ∃ p q, domain = p ++ '.' :: zone ++ q ∧ keptPlace domain zone ≤ p.length

/-- A longer zone that the search does not miss stands before every zone that would mislead it. -/
def Covered (zones : List Data) (domain : StdString) : Prop :=
  ∀ z ∈ zones, Missed domain z.name ∨ Strayed domain z.name →
    ∃ z' ∈ zones, LiesIn domain z'.name ∧ ¬ Missed domain z'.name ∧
      sqlLength z.name < sqlLength z'.name

/-- A table of zones as the database keeps it. -/
structure ZoneTable (zones : List Data) : Prop where
  nonempty : zones ≠ []
  unique : (zones.map (·.name)).Nodup
  lower : ∀ z ∈ zones, Cpp.toLowerCopy z.name = z.name
  text : ∀ z ∈ zones, ∀ c ∈ z.name.head?, ¬ (0x80 ≤ c.toNat ∧ c.toNat < 0xC0)

/-- The zone that is found is one of the table. -/
theorem mem_of_findZoneInFqdn (h : findZoneInFqdn order zones fqdn = .ok z) : z ∈ zones := by
  unfold findZoneInFqdn at h
  dsimp only at h
  split at h
  · cases h
  split at h
  · split at h
    · rename_i data hdata
      rw [← Except.ok.inj h]
      unfold getZone at hdata
      split at hdata
      · rename_i zone hzone
        rw [← Except.ok.inj hdata]
        exact (List.mem_filter.mp (hzone ▸ List.mem_singleton_self zone)).1
      · cases hdata
    · cases h
  · cases h

theorem searchFrom_eq (h : ('.' :: zone).length ≤ domain.length) :
    searchFrom domain zone =
      if keptPlace domain zone < 2 ^ 31 then (keptPlace domain zone : Int)
      else keptPlace domain zone - 2 ^ 32 := by
  unfold searchFrom Cpp.toInt keptPlace
  rw [Int.bmod_def]
  split <;> split <;> omega

theorem exists_eq_of_find (h : (Cpp.find domain ('.' :: zone) place).isSome) :
    ∃ p q, domain = p ++ '.' :: zone ++ q ∧ place ≤ p.length := by
  obtain ⟨i, hfrom, hi, q, hq⟩ := Cpp.find_isSome.mp h
  refine ⟨domain.take i, q, ?_, ?_⟩
  · rw [List.append_assoc, hq, List.take_append_drop]
  · rw [List.length_take, Nat.min_eq_left hi]
    exact hfrom

theorem find_of_eq {p q : StdString} (h : domain = p ++ '.' :: zone ++ q) (hfrom : place ≤ p.length) :
    (Cpp.find domain ('.' :: zone) place).isSome := by
  refine Cpp.find_isSome.mpr ⟨p.length, hfrom, ?_, q, ?_⟩
  · rw [h]
    simp
  · rw [h, List.append_assoc, List.drop_left]

theorem foundIn_iff : FoundIn domain zone ↔ 1 ≤ keptPlace domain zone ∧ keptPlace domain zone < 2 ^ 31 ∧
    ∃ p q, domain = p ++ '.' :: zone ++ q ∧ keptPlace domain zone ≤ p.length := by
  have hlength {p q : StdString} (h : domain = p ++ '.' :: zone ++ q) :
      ('.' :: zone).length ≤ domain.length := by
    rw [h]
    simp only [List.length_append]
    omega
  unfold FoundIn
  constructor
  · rintro ⟨hpos, hfind⟩
    obtain ⟨p, q, hdomain, hfrom⟩ := exists_eq_of_find hfind
    rw [searchFrom_eq (hlength hdomain)] at hpos hfrom
    split at hpos
    · rename_i hlt
      rw [if_pos hlt, Int.toNat_natCast] at hfrom
      exact ⟨by omega, hlt, p, q, hdomain, hfrom⟩
    · unfold keptPlace at hpos
      omega
  · rintro ⟨hpos, hlt, p, q, hdomain, hfrom⟩
    rw [searchFrom_eq (hlength hdomain), if_pos hlt, Int.toNat_natCast]
    exact ⟨by omega, find_of_eq hdomain hfrom⟩

theorem keptPlace_le : keptPlace domain zone ≤ domain.length - ('.' :: zone).length := Nat.mod_le _ _

theorem LiesIn.foundIn (h : LiesIn domain zone) : FoundIn domain zone ↔ ¬ Missed domain zone := by
  rw [foundIn_iff]
  constructor
  · rintro ⟨hpos, hlt, -⟩ ⟨-, hmissed⟩
    omega
  · intro hnot
    have hplace : ¬ (keptPlace domain zone = 0 ∨ 2 ^ 31 ≤ keptPlace domain zone) := fun hmissed =>
      hnot ⟨h, hmissed⟩
    obtain ⟨p, -, hdomain⟩ := h
    refine ⟨by omega, by omega, p, [], by rw [List.append_nil, hdomain], ?_⟩
    have hle : keptPlace domain zone ≤ domain.length - ('.' :: zone).length := keptPlace_le
    rw [hdomain, List.length_append] at hle
    rw [hdomain]
    omega

theorem strayed_iff : Strayed domain zone ↔ FoundIn domain zone ∧ ¬ LiesIn domain zone := by
  rw [foundIn_iff, Strayed]
  constructor
  · rintro ⟨hnot, hfound⟩
    exact ⟨hfound, hnot⟩
  · rintro ⟨hfound, hnot⟩
    exact ⟨hnot, hfound⟩

theorem LiesIn.suffix {a b : StdString} (ha : LiesIn domain a) (hb : LiesIn domain b)
    (hle : a.length ≤ b.length) : a <:+ b := by
  obtain ⟨p, -, hp⟩ := ha
  obtain ⟨q, -, hq⟩ := hb
  have ha : a <:+ domain := ⟨p ++ ['.'], by rw [hp, List.append_assoc, List.singleton_append]⟩
  have hb : b <:+ domain := ⟨q ++ ['.'], by rw [hq, List.append_assoc, List.singleton_append]⟩
  exact List.suffix_of_suffix_length_le ha hb hle

/-- What is put before a text with at least one character makes it longer. -/
theorem sqlLength_lt {a b : StdString} (h : a <:+ b) (hne : a ≠ b)
    (htext : ∀ c ∈ b.head?, ¬ (0x80 ≤ c.toNat ∧ c.toNat < 0xC0)) : sqlLength a < sqlLength b := by
  obtain ⟨q, rfl⟩ := h
  cases q with
  | nil => exact absurd rfl hne
  | cons c q =>
    have hc := htext c rfl
    unfold sqlLength
    rw [List.cons_append, List.countP_cons, if_pos (decide_eq_true hc), List.countP_append]
    omega

namespace ZoneTable

variable (table : ZoneTable zones)

include table

theorem eq_of_name (hz : z ∈ zones) {z' : Data} (hz' : z' ∈ zones) (h : z.name = z'.name) : z = z' :=
  List.inj_on_of_nodup_map table.unique hz hz' h

theorem sqlLength_lt (hz : z ∈ zones) {z' : Data} (hlies : LiesIn domain z'.name)
    (hlies' : LiesIn domain z.name) (hlt : z'.name.length < z.name.length) :
    sqlLength z'.name < sqlLength z.name := by
  refine Zone.sqlLength_lt (hlies.suffix hlies' hlt.le) ?_ (table.text z hz)
  intro h
  rw [h] at hlt
  exact lt_irrefl _ hlt

/-- Of two zones of one name the one that has no fewer characters is not the shorter one. -/
theorem length_le (hz : z ∈ zones) {z' : Data} (hlies : LiesIn domain z'.name)
    (hlies' : LiesIn domain z.name) (hle : sqlLength z.name ≤ sqlLength z'.name) :
    z.name.length ≤ z'.name.length := by
  by_contra hnot
  have hlt := table.sqlLength_lt hz hlies hlies' (not_le.mp hnot)
  omega

theorem getZone_eq (hperm : zones'.Perm zones) (hz : z ∈ zones) : getZone zones' z.name = .ok z := by
  have hfilter : zones'.filter (fun z' => z'.name = Cpp.toLowerCopy z.name) = [z] := by
    rw [table.lower z hz]
    have hnodup : zones'.Nodup := (hperm.nodup_iff.mpr table.unique.of_map)
    have hcongr : zones'.filter (fun z' => z'.name = z.name) = zones'.filter (· = z) := by
      refine List.filter_congr fun z' hz' => decide_eq_decide.mpr ⟨fun hname => ?_, fun heq => by rw [heq]⟩
      exact table.eq_of_name (hperm.mem_iff.mp hz') hz hname
    rw [hcongr, List.filter_eq, List.count_eq_one_of_mem hnodup (hperm.mem_iff.mpr hz),
      List.replicate_one]
  unfold getZone
  rw [hfilter]
  rfl

/-- The search ends with the zone of the first name that it finds, also in an order that tells more
names apart than their lengths do. -/
theorem findZoneInFqdn_eq {lt : StdString → StdString → Bool} (order : Sorting lt)
    (hlt : ∀ a b, decide (sqlLength b < sqlLength a) = true → lt a b = true)
    (hperm : zones'.Perm zones) :
    (∃ z ∈ zones, FoundIn (Cpp.toLowerCopy fqdn) z.name ∧
        findZoneInFqdn (order.coarsen hlt) zones' fqdn = .ok z ∧
        ∀ z' ∈ zones, FoundIn (Cpp.toLowerCopy fqdn) z'.name → z'.name ≠ z.name →
          ¬ lt z'.name z.name = true) ∨
      (∀ z ∈ zones, ¬ FoundIn (Cpp.toLowerCopy fqdn) z.name) ∧
        findZoneInFqdn (order.coarsen hlt) zones' fqdn = .error (.unknownZoneInFqdn fqdn) := by
  have hsort : (order.coarsen hlt).sort (zones'.map (·.name)) = order.sort (zones'.map (·.name)) := rfl
  have hnames (name : StdString) : name ∈ zones'.map (·.name) ↔ ∃ z ∈ zones, z.name = name := by
    rw [List.mem_map]
    simp only [hperm.mem_iff]
  have hne : order.sort (zones'.map (·.name)) ≠ [] := by
    obtain ⟨z, hz⟩ := List.exists_mem_of_ne_nil _ table.nonempty
    have hmem := order.mem_sort.mpr ((hnames z.name).mpr ⟨z, hz, rfl⟩)
    exact List.ne_nil_of_mem hmem
  unfold findZoneInFqdn
  dsimp only
  rw [hsort, if_neg hne]
  cases hfind : (order.sort (zones'.map (·.name))).find?
      fun name => FoundIn (Cpp.toLowerCopy fqdn) name with
  | none =>
    refine .inr ⟨fun z hz hfound => ?_, rfl⟩
    have hmem := order.mem_sort.mpr ((hnames z.name).mpr ⟨z, hz, rfl⟩)
    exact List.find?_eq_none.mp hfind z.name hmem (decide_eq_true hfound)
  | some name =>
    obtain ⟨hmem, hfound, hfirst⟩ := order.of_find?_eq_some hfind
    obtain ⟨z, hz, rfl⟩ := (hnames name).mp hmem
    refine .inl ⟨z, hz, of_decide_eq_true hfound, ?_, fun z' hz' hfound' => ?_⟩
    · dsimp only
      rw [table.getZone_eq hperm hz]
      rfl
    · exact hfirst z'.name ((hnames z'.name).mpr ⟨z', hz', rfl⟩) (decide_eq_true hfound')

theorem findZoneInFqdn_cases (order : LongestFirst) (hperm : zones'.Perm zones) :
    (∃ z ∈ zones, FoundIn (Cpp.toLowerCopy fqdn) z.name ∧ findZoneInFqdn order zones' fqdn = .ok z ∧
        ∀ z' ∈ zones, FoundIn (Cpp.toLowerCopy fqdn) z'.name → sqlLength z'.name ≤ sqlLength z.name) ∨
      (∀ z ∈ zones, ¬ FoundIn (Cpp.toLowerCopy fqdn) z.name) ∧
        findZoneInFqdn order zones' fqdn = .error (.unknownZoneInFqdn fqdn) := by
  refine (table.findZoneInFqdn_eq order (fun _ _ h => h) hperm).imp_left ?_
  rintro ⟨z, hz, hfound, heq, hfirst⟩
  refine ⟨z, hz, hfound, heq, fun z' hz' hfound' => ?_⟩
  by_cases hname : z'.name = z.name
  · rw [hname]
  · have hnot := hfirst z' hz' hfound' hname
    rw [decide_eq_true_iff] at hnot
    exact not_lt.mp hnot

omit table in
theorem exists_isLongest (h : ∃ z ∈ zones, LiesIn (Cpp.toLowerCopy fqdn) z.name) :
    ∃ z, IsLongest zones fqdn z := by
  have hfinite : {z | z ∈ zones ∧ LiesIn (Cpp.toLowerCopy fqdn) z.name}.Finite :=
    zones.finite_toSet.subset fun _ hz => hz.1
  obtain ⟨z, ⟨hz, hlies⟩, hlongest⟩ := Set.exists_max_image _ (fun z => z.name.length) hfinite h
  exact ⟨z, hz, hlies, fun z' hz' hlies' => hlongest z' ⟨hz', hlies'⟩⟩

theorem isLongest_unique {z' : Data} (h : IsLongest zones fqdn z) (h' : IsLongest zones fqdn z') :
    z = z' := by
  have hlength := le_antisymm (h'.longest z h.mem h.liesIn) (h.longest z' h'.mem h'.liesIn)
  refine table.eq_of_name h.mem h'.mem ?_
  exact (h.liesIn.suffix h'.liesIn hlength.le).eq_of_length hlength

theorem isLongest_iff (h : IsLongest zones fqdn z) {z' : Data} (hz' : z' ∈ zones)
    (hlies : LiesIn (Cpp.toLowerCopy fqdn) z'.name) :
    z' = z ↔ ¬ sqlLength z'.name < sqlLength z.name := by
  constructor
  · rintro rfl
    exact lt_irrefl _
  · intro hnot
    have hle := table.length_le h.mem hlies h.liesIn (not_lt.mp hnot)
    refine table.isLongest_unique ⟨hz', hlies, fun z₁ hz₁ hlies₁ => ?_⟩ h
    exact (h.longest z₁ hz₁ hlies₁).trans hle

theorem sqlLength_le (h : IsLongest zones fqdn z) {z' : Data} (hz' : z' ∈ zones)
    (hlies : LiesIn (Cpp.toLowerCopy fqdn) z'.name) : sqlLength z'.name ≤ sqlLength z.name := by
  by_cases heq : z' = z
  · rw [heq]
  · exact (not_not.mp (mt (table.isLongest_iff h hz' hlies).mpr heq)).le

/-- Where nothing misleads it the search ends with the longest zone. -/
theorem findsLongest_of_covered (hcovered : Covered zones (Cpp.toLowerCopy fqdn)) :
    FindsLongest zones fqdn := by
  by_cases hexists : ∃ z ∈ zones, LiesIn (Cpp.toLowerCopy fqdn) z.name
  · obtain ⟨z, hz⟩ := exists_isLongest hexists
    refine ⟨.ok z, fun order zones' hperm => ?_, fun z' => ?_, ?_⟩
    · have hfound : FoundIn (Cpp.toLowerCopy fqdn) z.name := by
        refine hz.liesIn.foundIn.mpr fun hmissed => ?_
        obtain ⟨z', hz', hlies, -, hlt⟩ := hcovered z hz.mem (.inl hmissed)
        exact absurd (table.sqlLength_le hz hz' hlies) (not_le.mpr hlt)
      rcases table.findZoneInFqdn_cases order hperm with ⟨z', hz', hfound', heq, hfirst⟩ | ⟨hnone, -⟩
      · have hle := hfirst z hz.mem hfound
        have hlies : LiesIn (Cpp.toLowerCopy fqdn) z'.name := by
          by_contra hnot
          obtain ⟨z₁, hz₁, hlies₁, -, hlt⟩ := hcovered z' hz' (.inr (strayed_iff.mpr ⟨hfound', hnot⟩))
          have hle₁ := table.sqlLength_le hz hz₁ hlies₁
          omega
        have hlongest := (table.isLongest_iff hz hz' hlies).mpr (not_lt.mpr hle)
        rw [hlongest] at heq
        exact heq
      · exact absurd hfound (hnone z hz.mem)
    · constructor
      · intro h
        cases h
        exact hz
      · intro h
        rw [table.isLongest_unique hz h]
    · exact ⟨nofun, fun h => absurd hexists h⟩
  · refine ⟨.error (.unknownZoneInFqdn fqdn), fun order zones' hperm => ?_, fun z => ?_, ?_⟩
    · rcases table.findZoneInFqdn_cases order hperm with ⟨z, hz, hfound, -⟩ | ⟨-, heq⟩
      · have hnot : ¬ LiesIn (Cpp.toLowerCopy fqdn) z.name := fun hlies => hexists ⟨z, hz, hlies⟩
        obtain ⟨z', hz', hlies, -⟩ := hcovered z hz (.inr (strayed_iff.mpr ⟨hfound, hnot⟩))
        exact absurd ⟨z', hz', hlies⟩ hexists
      · exact heq
    · exact ⟨nofun, fun h => absurd ⟨z, h.mem, h.liesIn⟩ hexists⟩
    · exact ⟨fun _ => hexists, fun _ => rfl⟩

/-- The less the earlier: the longest name first and, among the names of one length, a given one. -/
def preference (name a : StdString) : Int := (if a = name then 0 else 1) - 2 * sqlLength a

theorem covered_of_findsLongest (h : FindsLongest zones fqdn) :
    Covered zones (Cpp.toLowerCopy fqdn) := by
  obtain ⟨result, hresult, hok, herror⟩ := h
  intro z hz hmisled
  have hlt (a b : StdString) (h : decide (sqlLength b < sqlLength a) = true) :
      decide (preference z.name a < preference z.name b) = true := by
    rw [decide_eq_true_iff] at h ⊢
    unfold preference
    split <;> split <;> omega
  rcases table.findZoneInFqdn_eq (Sorting.byKey (preference z.name)) hlt (.refl _) with
    ⟨z', hz', hfound, heq, hfirst⟩ | ⟨hnone, hno⟩
  · rw [hresult _ _ (.refl _)] at heq
    have hlongest := (hok z').mp heq
    have hnotMissed := hlongest.liesIn.foundIn.mp hfound
    refine ⟨z', hz', hlongest.liesIn, hnotMissed, ?_⟩
    have hne : z.name ≠ z'.name := by
      intro hname
      rw [hname] at hmisled
      exact hmisled.elim hnotMissed fun hstrayed => hstrayed.1 hlongest.liesIn
    rcases hmisled with hmissed | hstrayed
    · have hle := table.sqlLength_le hlongest hz hmissed.1
      have heq := table.isLongest_iff hlongest hz hmissed.1
      refine not_not.mp (mt heq.mpr fun heq => hne (by rw [heq]))
    · have hnot := hfirst z hz (strayed_iff.mp hstrayed).1 hne
      rw [decide_eq_true_iff] at hnot
      unfold preference at hnot
      rw [if_pos rfl, if_neg hne.symm] at hnot
      omega
  · rw [hresult _ _ (.refl _), herror] at hno
    rcases hmisled with hmissed | hstrayed
    · exact absurd ⟨z, hz, hmissed.1⟩ hno
    · exact absurd (strayed_iff.mp hstrayed).1 (hnone z hz)

end ZoneTable

theorem of_getZone_eq_ok {name : StdString} (h : getZone zones name = .ok z) :
    z ∈ zones ∧ z.name = Cpp.toLowerCopy name := by
  unfold getZone at h
  split at h
  · rename_i zone hfilter
    cases h
    have hmem : z ∈ zones.filter fun z => z.name = Cpp.toLowerCopy name := by
      rw [hfilter]
      exact List.mem_singleton_self z
    rwa [List.mem_filter, decide_eq_true_iff] at hmem
  · cases h

/-- Also of a table that has a name twice the search takes no other zone than one that it found. -/
theorem findZoneInFqdn_outcome (order : LongestFirst) (hne : zones ≠ [])
    (hlower : ∀ z ∈ zones, Cpp.toLowerCopy z.name = z.name) (fqdn : StdString) :
    (∃ z ∈ zones, FoundIn (Cpp.toLowerCopy fqdn) z.name ∧ findZoneInFqdn order zones fqdn = .ok z) ∨
      findZoneInFqdn order zones fqdn = .error (.unknownZoneInFqdn fqdn) := by
  have hsort : order.sort (zones.map (·.name)) ≠ [] := by
    intro hnil
    have hperm := order.perm (zones.map (·.name))
    rw [hnil] at hperm
    exact hne (List.map_eq_nil_iff.mp hperm.nil_eq.symm)
  unfold findZoneInFqdn
  dsimp only
  rw [if_neg hsort]
  cases hfind : (order.sort (zones.map (·.name))).find?
      fun name => FoundIn (Cpp.toLowerCopy fqdn) name with
  | none => exact .inr rfl
  | some name =>
    obtain ⟨hmem, hfound, -⟩ := order.of_find?_eq_some hfind
    cases hzone : getZone zones name with
    | error e =>
      refine .inr ?_
      dsimp only
      rw [hzone]
      rfl
    | ok z =>
      obtain ⟨hz, hname⟩ := of_getZone_eq_ok hzone
      obtain ⟨z', hz', rfl⟩ := List.mem_map.mp hmem
      rw [hlower z' hz'] at hname
      rw [← hname] at hfound
      refine .inl ⟨z, hz, of_decide_eq_true hfound, ?_⟩
      dsimp only
      rw [hzone]
      rfl

/-- In a name that an int can measure the search finds what the name ends with. -/
theorem foundIn_iff_liesIn (hshort : domain.length ≤ 2 ^ 31) :
    FoundIn domain zone ↔ LiesIn domain zone := by
  have hle : keptPlace domain zone ≤ domain.length - ('.' :: zone).length := keptPlace_le
  have hkept {p q : StdString} (h : domain = p ++ '.' :: zone ++ q) :
      keptPlace domain zone = p.length + q.length := by
    unfold keptPlace
    rw [h] at hshort ⊢
    simp only [List.length_append, List.length_cons] at hshort ⊢
    rw [Nat.mod_eq_of_lt (by omega)]
    omega
  rw [foundIn_iff]
  constructor
  · rintro ⟨hpos, -, p, q, hdomain, hplace⟩
    rw [hkept hdomain] at hpos hplace
    have hq : q = [] := List.length_eq_zero_iff.mp (by omega)
    subst hq
    refine ⟨p, ?_, by rw [hdomain, List.append_nil]⟩
    rintro rfl
    simp at hpos
  · rintro ⟨p, hne, hdomain⟩
    have hdomain' : domain = p ++ '.' :: zone ++ [] := by rw [hdomain, List.append_nil]
    have hpos := List.length_pos_iff.mpr hne
    have hlength : domain.length = p.length + (zone.length + 1) := by rw [hdomain, List.length_append]; rfl
    rw [hkept hdomain']
    exact ⟨hpos, by rw [List.length_nil]; omega, p, [], hdomain', le_rfl⟩

theorem covered_of_short (hshort : domain.length ≤ 2 ^ 31) : Covered zones domain := by
  rintro z - (hmissed | hstrayed)
  · exact absurd hmissed (hmissed.1.foundIn.mp ((foundIn_iff_liesIn hshort).mpr hmissed.1))
  · obtain ⟨hfound, hnot⟩ := strayed_iff.mp hstrayed
    exact absurd ((foundIn_iff_liesIn hshort).mp hfound) hnot

/-- The search finds the longest zone exactly when the int that it narrows a place to leads it to no
other one, which no name of up to 2^31 bytes does. -/
theorem finds_longest_zone (zones : List Data) (fqdn : StdString) (table : ZoneTable zones) :
    (FindsLongest zones fqdn ↔ Covered zones (Cpp.toLowerCopy fqdn)) ∧
      (fqdn.length ≤ 2 ^ 31 → Covered zones (Cpp.toLowerCopy fqdn)) := by
  refine ⟨⟨table.covered_of_findsLongest, table.findsLongest_of_covered⟩, fun hshort => ?_⟩
  exact covered_of_short (by rwa [Cpp.length_toLowerCopy])

def exampleZone : Data where
  id := 1
  isEnum := false
  name := ['c', 'z']
  dotsMax := 1
  exPeriodMin := 12
  exPeriodMax := 120
  enumValidationPeriod := 0

theorem zoneTable_example : ZoneTable [exampleZone] where
  nonempty := by decide
  unique := by decide
  lower := by decide
  text := by
    intro z hz c hc
    rw [List.mem_singleton.mp hz] at hc
    cases hc
    decide

/-- A zone in the other one. -/
def innerZone : Data :=
  { exampleZone with
    id := 2
    name := ['c', 'o', '.', 'c', 'z'] }

theorem zoneTable_nested : ZoneTable [exampleZone, innerZone] where
  nonempty := by decide
  unique := by decide
  lower := by decide
  text := by
    intro z hz c hc
    have hname : z.name.head? = some 'c' := by
      rcases List.mem_pair.mp hz with rfl | rfl <;> rfl
    rw [hname] at hc
    cases hc
    decide

/-- A name lies in the inner zone, whose own name lies in the outer one. -/
theorem finds_longest_zone_nested :
    FindsLongest [exampleZone, innerZone] ['A', '.', 'c', 'o', '.', 'C', 'Z'] ∧
      findZoneInFqdn stableOrder [exampleZone, innerZone] ['A', '.', 'c', 'o', '.', 'C', 'Z'] =
        .ok innerZone ∧
      FindsLongest [exampleZone, innerZone] innerZone.name ∧
      findZoneInFqdn stableOrder [exampleZone, innerZone] innerZone.name = .ok exampleZone := by
  obtain ⟨hname, hcovered⟩ :=
    finds_longest_zone _ ['A', '.', 'c', 'o', '.', 'C', 'Z'] zoneTable_nested
  obtain ⟨hinner, hcovered'⟩ := finds_longest_zone _ innerZone.name zoneTable_nested
  exact ⟨hname.mpr (hcovered (by decide)), by decide +kernel, hinner.mpr (hcovered' (by decide)),
    by decide +kernel⟩

/-- A label of 2^31 letters before the zone. -/
theorem not_finds_longest_zone : ZoneTable [exampleZone] ∧
    ¬ FindsLongest [exampleZone] (List.replicate (2 ^ 31) 'a' ++ ['.', 'c', 'z']) := by
  refine ⟨zoneTable_example, fun h => ?_⟩
  have hlower : Cpp.toLowerCopy (List.replicate (2 ^ 31) 'a' ++ ['.', 'c', 'z']) =
      List.replicate (2 ^ 31) 'a' ++ ['.', 'c', 'z'] := by
    rw [Cpp.toLowerCopy, List.map_append, List.map_replicate]
    rfl
  have hcovered := zoneTable_example.covered_of_findsLongest h
  rw [hlower] at hcovered
  have hmissed : Missed (List.replicate (2 ^ 31) 'a' ++ ['.', 'c', 'z']) exampleZone.name := by
    refine ⟨⟨List.replicate (2 ^ 31) 'a', ?_, rfl⟩, .inr ?_⟩
    · rw [ne_eq, List.replicate_eq_nil_iff]
      omega
    · have hlength : ('.' :: exampleZone.name).length = 3 := rfl
      rw [keptPlace, List.length_append, List.length_replicate, hlength]
      simp
  obtain ⟨z, hz, -, -, hlt⟩ := hcovered exampleZone List.mem_cons_self (.inl hmissed)
  rw [List.mem_singleton.mp hz] at hlt
  exact lt_irrefl _ hlt

end LibFred.Zone
