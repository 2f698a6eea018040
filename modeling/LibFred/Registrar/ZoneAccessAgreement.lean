import LibFred.Registrar.ZoneAccessHistory
import LibFred.Registrar.ZoneAccessPeriods

/-! The access check over a history and the one over the table give the same answers. -/
namespace LibFred.ZoneAccess

open Sql

variable {history : RegistrarZoneAccessHistory} {dir : Directory}
  {s : Accesses} {rows : List HistoryRow} {row : HistoryRow} {ri : RegistrarInvoice} {r : Registrar}
  {z : Zone} {registrarHandle fqdn : String} {day : Int}

/-- The interval does not end before it begins. -/
def TimeInterval.Forward (i : TimeInterval) : Prop := ∀ t ∈ i.toDate, i.fromDate ≤ t

/-- Between forward intervals the comparator is transitive, and each of them equals itself. -/
theorem orders_compareByTime : StdMap.Orders compareByTime TimeInterval.Forward where
  irrefl a ha := by
    rintro ⟨t, ht, hlt⟩
    exact absurd (ha t ht) (not_le.mpr hlt)
  trans a b c hb := by
    rintro ⟨t, ht, hlt⟩ ⟨u, hu, hlt'⟩
    exact ⟨t, ht, hlt.trans_le ((hb u hu).trans hlt'.le)⟩

/-- The map of a zone, which is made when it is first needed. -/
def RegistrarZoneAccessHistory.invoices (history : RegistrarZoneAccessHistory) (fqdn : String) :
    InvoiceIdByDate :=
  (history.invoicesByZone fqdn).getD .nil

/-- The invoices that the rows add to the map of a folded domain name. -/
def invoicesAt (rows : List HistoryRow) (fqdn : String) : List RegistrarInvoice :=
  rows.filterMap fun row => if lower row.zoneFqdn = fqdn then row.invoice else none

/-- One of the intervals is over before the other begins. -/
def Separate (a b : TimeInterval × Nat) : Prop := compareByTime a.1 b.1 ∨ compareByTime b.1 a.1

theorem Separate.symm {a b : TimeInterval × Nat} (h : Separate a b) : Separate b a := Or.symm h

theorem invoicesAt_cons (fqdn : String) :
    invoicesAt (row :: rows) fqdn = invoicesAt [row] fqdn ++ invoicesAt rows fqdn := by
  rw [invoicesAt, ← List.singleton_append, List.filterMap_append, invoicesAt, invoicesAt]

/-- The maps are sorted, and the intervals in them are forward ones. -/
def Sorted (history : RegistrarZoneAccessHistory) : Prop :=
  ∀ fqdn, StdMap.Sorted compareByTime TimeInterval.Forward (history.invoices fqdn)

/-- A row is added when its access shares no day with those of the zone so far. -/
theorem addRow_eq_ok (balance : StdMap.Balance) (hsorted : Sorted history)
    (hforward : ∀ ri ∈ row.invoice, (invoiceOf ri).1.Forward)
    (hsep : ∀ ri ∈ row.invoice, ∀ a ∈ StdMap.toList (history.invoices (lower row.zoneFqdn)),
      Separate a (invoiceOf ri)) :
    ∃ history', addRow balance history row = .ok history' ∧ Sorted history' ∧
      ∀ fqdn, (StdMap.toList (history'.invoices fqdn)).Perm
        (StdMap.toList (history.invoices fqdn) ++ (invoicesAt [row] fqdn).map invoiceOf) := by
  cases hri : row.invoice with
  | none =>
    refine ⟨history, by simp only [addRow, hri]; rfl, hsorted, fun fqdn => ?_⟩
    simp [invoicesAt, hri]
  | some ri =>
    obtain ⟨t', ht', hsorted', hperm⟩ := StdMap.insert_eq_some balance orders_compareByTime
      (hsorted (lower row.zoneFqdn)) (hforward ri hri) (hsep ri hri)
    let history' : RegistrarZoneAccessHistory := { history with
      invoicesByZone := Function.update history.invoicesByZone (lower row.zoneFqdn) (some t') }
    have hhere : history'.invoices (lower row.zoneFqdn) = t' := by
      simp [history', RegistrarZoneAccessHistory.invoices]
    have helse : ∀ fqdn, fqdn ≠ lower row.zoneFqdn →
        history'.invoices fqdn = history.invoices fqdn := by
      intro fqdn hne
      simp [history', RegistrarZoneAccessHistory.invoices, Function.update_of_ne hne]
    refine ⟨history', ?_, fun fqdn => ?_, fun fqdn => ?_⟩
    · simp only [addRow, hri]
      rw [RegistrarZoneAccessHistory.invoices] at ht'
      rw [ht']
      rfl
    · by_cases hf : fqdn = lower row.zoneFqdn
      · rw [hf, hhere]
        exact hsorted'
      · rw [helse fqdn hf]
        exact hsorted fqdn
    · by_cases hf : fqdn = lower row.zoneFqdn
      · rw [hf, hhere]
        refine hperm.trans ?_
        simpa [invoicesAt, hri] using (List.perm_append_singleton _ _).symm
      · rw [helse fqdn hf]
        simp [invoicesAt, Ne.symm hf]

/-- The loop succeeds and adds every invoice, whatever the order of the rows. -/
theorem foldlM_addRow_eq_ok (balance : StdMap.Balance) (hsorted : Sorted history)
    (hforward : ∀ row ∈ rows, ∀ ri ∈ row.invoice, (invoiceOf ri).1.Forward)
    (hsep : ∀ fqdn, (StdMap.toList (history.invoices fqdn) ++
      (invoicesAt rows fqdn).map invoiceOf).Pairwise Separate) :
    ∃ history', rows.foldlM (addRow balance) history = .ok history' ∧ Sorted history' ∧
      ∀ fqdn, (StdMap.toList (history'.invoices fqdn)).Perm
        (StdMap.toList (history.invoices fqdn) ++ (invoicesAt rows fqdn).map invoiceOf) := by
  induction rows generalizing history with
  | nil => exact ⟨history, rfl, hsorted, fun fqdn => by simp [invoicesAt]⟩
  | cons row rows ih =>
    have hat : ∀ fqdn, invoicesAt (row :: rows) fqdn = invoicesAt [row] fqdn ++ invoicesAt rows fqdn :=
      fun fqdn => invoicesAt_cons fqdn
    simp only [hat, List.map_append, ← List.append_assoc] at hsep ⊢
    have hrow : ∀ ri ∈ row.invoice, ∀ a ∈ StdMap.toList (history.invoices (lower row.zoneFqdn)),
        Separate a (invoiceOf ri) := by
      intro ri hri a ha
      have hpair := (List.pairwise_append.mp (hsep (lower row.zoneFqdn))).1
      refine (List.pairwise_append.mp hpair).2.2 a ha (invoiceOf ri) ?_
      simp [invoicesAt, Option.mem_def.mp hri]
    obtain ⟨history₁, hadd, hsorted₁, hperm₁⟩ :=
      addRow_eq_ok balance hsorted (hforward row List.mem_cons_self) hrow
    obtain ⟨history', hfold, hsorted', hperm'⟩ := ih hsorted₁
      (fun row' hrow' => hforward row' (List.mem_cons_of_mem _ hrow'))
      (fun fqdn => (((hperm₁ fqdn).append_right _).pairwise_iff Separate.symm).mpr (hsep fqdn))
    refine ⟨history', ?_, hsorted', fun fqdn => ?_⟩
    · rw [List.foldlM_cons, hadd]
      exact hfold
    · exact (hperm' fqdn).trans ((hperm₁ fqdn).append_right _)

/-- The invoices of a registrar for one zone. -/
def invoicesOf (s : Accesses) (z : Zone) (r : Registrar) : List RegistrarInvoice :=
  s.registrarinvoice.select fun ri => ri.zone = z.id ∧ ri.registrarid = r.id

theorem invoicesAt_invoiceRows : invoicesAt (invoiceRows s z r) fqdn =
    if lower z.fqdn = fqdn then invoicesOf s z r else [] := by
  unfold invoiceRows
  split
  · rename_i hnil
    simp [invoicesAt, invoicesOf, hnil]
  · simp only [invoicesAt, List.filterMap_map, invoicesOf]
    by_cases hf : lower z.fqdn = fqdn <;> simp [hf]

theorem flatMap_ite {α β : Type} (l : List α) (p : α → Prop) [DecidablePred p] (g : α → List β) :
    l.flatMap (fun a => if p a then g a else []) = (l.filter (p ·)).flatMap g := by
  induction l with
  | nil => rfl
  | cons a l ih => by_cases ha : p a <;> simp [ha, ih]

/-- The rows of a registrar give each domain name the invoices of its one zone. -/
theorem invoicesAt_historyRows
    (hr : registrarsByHandle dir.toRegistry registrarHandle = [r]) :
    invoicesAt (historyRows dir s registrarHandle) fqdn =
      (dir.zone.select (lower ·.fqdn = fqdn)).flatMap (invoicesOf s · r) := by
  have hrows : ∀ z : Zone, (List.flatMap (invoiceRows s z) [r]).filterMap
      (fun row => if lower row.zoneFqdn = fqdn then row.invoice else none) =
      if lower z.fqdn = fqdn then invoicesOf s z r else [] := by
    intro z
    rw [List.flatMap_singleton]
    exact invoicesAt_invoiceRows
  rw [invoicesAt, historyRows]
  simp only [hr, List.filterMap_flatMap, hrows]
  exact flatMap_ite dir.zone.rows (lower ·.fqdn = fqdn) (invoicesOf s · r)

theorem select_fqdn_eq_singleton (hz : z ∈ dir.zone) :
    dir.zone.select (lower ·.fqdn = lower z.fqdn) = [z] :=
  Table.select_eq_of_unique dir.zoneOfFqdn hz rfl

theorem registrarsByHandle_eq_singleton (hr : r ∈ dir.registrar)
    (hhandle : r.handle = upper registrarHandle) :
    registrarsByHandle dir.toRegistry registrarHandle = [r] :=
  Table.select_eq_of_unique dir.registrarOfHandle hr hhandle

/-- Accesses of a well-formed table that share zone and registrar are separate. -/
theorem pairwise_invoicesOf (hs : WellFormed s) :
    ((invoicesOf s z r).map invoiceOf).Pairwise Separate := by
  rw [List.pairwise_map]
  have hnodup : (invoicesOf s z r).Nodup := s.registrarinvoice.nodup_rows.filter _
  refine hnodup.imp_of_mem fun {a b} ha hb hne => ?_
  obtain ⟨ha, hza, hra⟩ := Table.mem_select.mp ha
  obtain ⟨hb, hzb, hrb⟩ := Table.mem_select.mp hb
  have hkey : a.id ≠ b.id := fun h => hne (Table.eq_of_key_eq ha hb h)
  have hdisj := hs.2 a ha b hb hkey (hra.trans hrb.symm) (hza.trans hzb.symm)
  exact (Span.disjoint_icc_iff (hs.1 a ha) (hs.1 b hb)).mp hdisj

theorem registrarId_of_mem_historyRows
    (hr : registrarsByHandle dir.toRegistry registrarHandle = [r])
    (hrow : row ∈ historyRows dir s registrarHandle) :
    row.registrarId = some r.id ∧ ∀ ri ∈ row.invoice, ri ∈ s.registrarinvoice := by
  simp only [historyRows, hr, List.flatMap_singleton, List.mem_flatMap] at hrow
  obtain ⟨z, -, hrow⟩ := hrow
  unfold invoiceRows at hrow
  split at hrow
  · obtain rfl := List.mem_singleton.mp hrow
    exact ⟨rfl, nofun⟩
  · rename_i hinv
    obtain ⟨ri, hri, rfl⟩ := List.mem_map.mp hrow
    refine ⟨rfl, fun ri' hri' => ?_⟩
    obtain rfl : ri = ri' := Option.some.inj hri'
    exact (Table.mem_select.mp hri).1

/-- The history of an existing registrar is read, and has the accesses of every zone. -/
theorem GetZoneAccessHistory.exec_eq_ok (balance : StdMap.Balance) (hs : WellFormed s)
    (hr : registrarsByHandle dir.toRegistry registrarHandle = [r])
    (hrows : rows.Perm (historyRows dir s registrarHandle)) :
    ∃ history, GetZoneAccessHistory.exec balance registrarHandle rows = .ok history ∧
      Sorted history ∧ ∀ z ∈ dir.zone,
        (StdMap.toList (history.invoices (lower z.fqdn))).Perm
          ((invoicesOf s z r).map invoiceOf) := by
  have hrow : ∀ row ∈ rows, row.registrarId = some r.id ∧
      ∀ ri ∈ row.invoice, ri ∈ s.registrarinvoice :=
    fun row hrow => registrarId_of_mem_historyRows hr (hrows.mem_iff.mp hrow)
  have hat : ∀ fqdn, ((invoicesAt rows fqdn).map invoiceOf).Perm
      (((dir.zone.select (lower ·.fqdn = fqdn)).flatMap (invoicesOf s · r)).map invoiceOf) := by
    intro fqdn
    rw [← invoicesAt_historyRows hr]
    exact (hrows.filterMap _).map _
  have hsep : ∀ fqdn, ((invoicesAt rows fqdn).map invoiceOf).Pairwise Separate := by
    intro fqdn
    refine ((hat fqdn).pairwise_iff Separate.symm).mpr ?_
    rcases Table.select_eq_nil_or_singleton (t := dir.zone) (p := (lower ·.fqdn = fqdn))
      fun z hz z' hz' h h' => dir.zoneOfFqdn z hz z' hz' (h.trans h'.symm) with hz | ⟨z, hz⟩
    · simp [hz]
    · simpa [hz] using pairwise_invoicesOf hs
  have hempty : Sorted ⟨registrarHandle, fun _ => none⟩ := fun _ => StdMap.sorted_nil
  obtain ⟨history, hfold, hsorted, hperm⟩ := foldlM_addRow_eq_ok balance hempty
    (fun row hmem ri hri => hs.1 ri ((hrow row hmem).2 ri hri)) hsep
  refine ⟨history, ?_, hsorted, fun z hz => ?_⟩
  · unfold GetZoneAccessHistory.exec
    split
    · have hnone := (hrow _ List.mem_cons_self).1
      cases hnone
    · exact hfold
  · refine (hperm (lower z.fqdn)).trans ((hat _).trans ?_)
    rw [select_fqdn_eq_singleton hz]
    simp

/-- The probing interval of one day equals those that the day lies in. -/
theorem hasAccess_iff (hsorted : Sorted history) : hasAccess history fqdn day ↔
    ∃ e ∈ StdMap.toList (history.invoices (lower fqdn)),
      e.1.fromDate ≤ day ∧ ∀ t ∈ e.1.toDate, day ≤ t := by
  have hfind := StdMap.isSome_find_iff (k := ⟨day, some day⟩) orders_compareByTime
    (hsorted (lower fqdn))
  have hsame : hasAccess history fqdn day =
      (StdMap.find compareByTime ⟨day, some day⟩ (history.invoices (lower fqdn))).isSome := by
    unfold hasAccess RegistrarZoneAccessHistory.invoices
    cases history.invoicesByZone (lower fqdn) <;> rfl
  rw [hsame, hfind]
  refine exists_congr fun e => and_congr_right fun _ => ?_
  simp only [compareByTime, Option.mem_some_iff, exists_eq_left', not_lt, not_exists, not_and]
  exact and_comm

@[simp] theorem holds_accessOn {registrarId zoneId : Nat} :
    (accessOn registrarId zoneId day ri).holds ↔ ri.registrarid = registrarId ∧ ri.zone = zoneId ∧
      ri.fromdate ≤ day ∧ ∀ t ∈ ri.todate, day ≤ t := by
  obtain ⟨id, registrarid, zone, fromdate, todate⟩ := ri
  cases todate <;> simp [accessOn, and_assoc, eq_comm]

theorem isZoneAccessibleByRegistrar_eq_ok (hr : r ∈ dir.registrar)
    (hsystem : (dir.system r.id).getD false = false) :
    ∃ accessible, isZoneAccessibleByRegistrar dir s r.id z.id day = .ok accessible ∧
      (accessible ↔ ∃ ri ∈ s.registrarinvoice, ri.registrarid = r.id ∧
        ri.zone = z.id ∧ ri.fromdate ≤ day ∧ ∀ t ∈ ri.todate, day ≤ t) := by
  have hlookup : dir.registrar.lookup r.id = some r := Table.lookup_eq_some.mpr ⟨hr, rfl⟩
  refine ⟨_, by rw [isZoneAccessibleByRegistrar, hlookup]; simp only [hsystem]; rfl, ?_⟩
  rw [decide_eq_true_iff, ← Nat.pos_iff_ne_zero, List.length_pos_iff_exists_mem]
  simp only [Table.mem_select, holds_accessOn]

/-- For every registrar that is not a system one, every zone and every day the checks agree, and
tell whether some access is in force. -/
def Agree (s : Accesses) : Prop :=
  ∀ (balance : StdMap.Balance) (dir : Directory) (registrarHandle fqdn : String)
    (rows : List HistoryRow) (day : Int), ∀ r ∈ dir.registrar, ∀ z ∈ dir.zone,
    r.handle = upper registrarHandle → lower z.fqdn = lower fqdn →
    (dir.system r.id).getD false = false → rows.Perm (historyRows dir s registrarHandle) →
    ∃ history, GetZoneAccessHistory.exec balance registrarHandle rows = .ok history ∧
      isZoneAccessibleByRegistrar dir s r.id z.id day = .ok (hasAccess history fqdn day) ∧
      (hasAccess history fqdn day ↔ ∃ ri ∈ s.registrarinvoice, ri.registrarid = r.id ∧
        ri.zone = z.id ∧ ri.fromdate ≤ day ∧ ∀ t ∈ ri.todate, day ≤ t)

theorem WellFormed.agree (hs : WellFormed s) : Agree s := by
  intro balance dir registrarHandle fqdn rows day r hr z hz hhandle hfqdn hsystem hrows
  obtain ⟨history, hexec, hsorted, hperm⟩ := GetZoneAccessHistory.exec_eq_ok balance hs
    (registrarsByHandle_eq_singleton hr hhandle) hrows
  obtain ⟨accessible, hok, haccessible⟩ := isZoneAccessibleByRegistrar_eq_ok (s := s) (z := z)
    hr hsystem
  have hiff : hasAccess history fqdn day ↔ ∃ ri ∈ s.registrarinvoice, ri.registrarid = r.id ∧
      ri.zone = z.id ∧ ri.fromdate ≤ day ∧ ∀ t ∈ ri.todate, day ≤ t := by
    rw [hasAccess_iff hsorted, ← hfqdn]
    simp only [(hperm z hz).mem_iff, List.mem_map, invoicesOf, Table.mem_select]
    constructor
    · rintro ⟨-, ⟨ri, ⟨hri, hzone, hreg⟩, rfl⟩, hfrom, hto⟩
      exact ⟨ri, hri, hreg, hzone, hfrom, hto⟩
    · rintro ⟨ri, hri, hreg, hzone, hfrom, hto⟩
      exact ⟨invoiceOf ri, ⟨ri, ⟨hri, hzone, hreg⟩, rfl⟩, hfrom, hto⟩
  have hsame : accessible = hasAccess history fqdn day :=
    Bool.eq_iff_iff.mpr (haccessible.trans hiff.symm)
  exact ⟨history, hexec, hsame ▸ hok, hiff⟩

/-- The two checks agree after every run whose successful Adds are asked for forward intervals. -/
theorem access_checks_agree (h : Reached (fun c s => c.Succeeds s → c.Forward) s) : Agree s :=
  WellFormed.agree ⟨reached_ordered h, reached_disjunct h⟩

/-- One registrar and one zone. -/
def sampleDirectory : Directory where
  toRegistry := sampleRegistry
  system := fun _ => some false
  registrarOfHandle := by
    intro r hr r' hr' _
    exact (List.mem_singleton.mp hr).trans (List.mem_singleton.mp hr').symm
  zoneOfFqdn := by
    intro z hz z' hz' _
    exact (List.mem_singleton.mp hz).trans (List.mem_singleton.mp hz').symm

def sampleBalance : StdMap.Balance := ⟨fun t => t, fun _ => rfl⟩

theorem access_checks_agree_sampleAdd : ∃ history,
    GetZoneAccessHistory.exec sampleBalance "reg-test"
      (historyRows sampleDirectory ((sampleAdd 5 10).next ⟨∅, 1⟩) "reg-test") = .ok history ∧
    hasAccess history "cz" 7 := by
  have hreached : Reached (fun c s => c.Succeeds s → c.Forward) ((sampleAdd 5 10).next ⟨∅, 1⟩) :=
    .step _ (.init rfl) fun _ => by
      simp [sampleAdd, Call.Forward, AddRegistrarZoneAccess.Forward, Date.day?]
  have hagree := access_checks_agree hreached
  obtain ⟨history, hexec, -, hiff⟩ := hagree sampleBalance sampleDirectory "reg-test" "cz" _ 7
    ⟨1, "REG-TEST"⟩ (List.mem_singleton.mpr rfl) ⟨1, "cz"⟩ (List.mem_singleton.mpr rfl) rfl rfl rfl
    (List.Perm.refl _)
  exact ⟨history, hexec, hiff.mpr ⟨⟨1, 1, 1, 5, some 10⟩, List.mem_singleton.mpr rfl, by simp⟩⟩

/-- The access from day 10 to day 5 hides the one from day 6 to day 8. -/
def sampleHidden : Accesses := (sampleAdd 6 8).next ((sampleAdd 10 5).next ⟨∅, 1⟩)

theorem not_access_checks_agree : ¬ ∀ s, Reached (fun _ _ => True) s → Agree s := by
  intro h
  have hagree := h sampleHidden (.step _ (.step _ (.init rfl) trivial) trivial)
  obtain ⟨history, hexec, hok, -⟩ := hagree sampleBalance sampleDirectory "reg-test" "cz" _ 7
    ⟨1, "REG-TEST"⟩ (List.mem_singleton.mpr rfl) ⟨1, "cz"⟩ (List.mem_singleton.mpr rfl) rfl rfl rfl
    (List.Perm.refl _)
  have haccessible : isZoneAccessibleByRegistrar sampleDirectory sampleHidden 1 1 7 = .ok true := rfl
  have hhidden : (GetZoneAccessHistory.exec sampleBalance "reg-test"
      (historyRows sampleDirectory sampleHidden "reg-test")).map (hasAccess · "cz" 7) =
    .ok false := rfl
  rw [hexec] at hhidden
  rw [haccessible] at hok
  have htrue : true = hasAccess history "cz" 7 := Except.ok.inj hok
  have hfalse : hasAccess history "cz" 7 = false := Except.ok.inj hhidden
  exact absurd (htrue.trans hfalse) (by decide)

end LibFred.ZoneAccess
