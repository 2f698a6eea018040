import Mathlib.Data.Finset.Max
import Mathlib.Order.Lattice

/-! Spells in which something is present, and what is told of them when an end always wins. -/

/-- A spell goes on from `start` until `stop`; a missing `stop` is no limit. -/
structure Spell (T : Type*) where
  start : T
  stop : Option T

namespace Spell

variable {T : Type*} [LinearOrder T] {spells : List (Spell T)} {s e t : T}

def Covers (p : Spell T) (t : T) : Prop := p.start ≤ t ∧ ∀ u ∈ p.stop, t < u

/-- Some spell has started and none has ended since. -/
def Told (spells : List (Spell T)) (t : T) : Prop :=
  ∃ p ∈ spells, p.start ≤ t ∧ ∀ q ∈ spells, ∀ u ∈ q.stop, p.start ≤ u → ¬ u ≤ t

/-- From `s` on and before `e` an end hides another spell that goes on, and no start between
the end and `s` tells of one again. -/
def Hidden (spells : List (Spell T)) (s e : T) : Prop :=
  ∃ p ∈ spells, ∃ q ∈ spells, ∃ u ∈ q.stop, p.start ≤ u ∧ max u s < e ∧
    (∀ v ∈ p.stop, max u s < v) ∧ ∀ r ∈ spells, u < r.start → ¬ r.start ≤ s

/-- From `s` on and before `e` a spell that ended before it started is told of. -/
def Stale (spells : List (Spell T)) (s e : T) : Prop :=
  ∃ p ∈ spells, (∃ u ∈ p.stop, u < p.start) ∧ max p.start s < e ∧
    (∀ q ∈ spells, ∀ u ∈ q.stop, p.start ≤ u → ¬ u ≤ max p.start s) ∧
    ∀ q ∈ spells, ¬ q.Covers (max p.start s)

@[simp] theorem not_hidden_nil : ¬ Hidden [] s e := by
  rintro ⟨p, hp, -⟩
  cases hp

@[simp] theorem not_stale_nil : ¬ Stale [] s e := by
  rintro ⟨p, hp, -⟩
  cases hp

theorem Hidden.untold (h : Hidden spells s e) :
    ∃ t, s ≤ t ∧ t < e ∧ (∃ p ∈ spells, p.Covers t) ∧ ¬ Told spells t := by
  obtain ⟨p, hp, q, hq, u, hu, hpu, hue, hgoes, hno⟩ := h
  refine ⟨max u s, le_max_right _ _, hue, ⟨p, hp, hpu.trans (le_max_left _ _), hgoes⟩, ?_⟩
  rintro ⟨r, hr, hrt, hnone⟩
  have hru : r.start ≤ u := by
    by_contra hlt
    rcases le_max_iff.mp hrt with h | h
    · exact hlt h
    · exact hno r hr (not_le.mp hlt) h
  exact hnone q hq u hu hru (le_max_left _ _)

theorem Stale.told (h : Stale spells s e) :
    ∃ t, s ≤ t ∧ t < e ∧ (¬ ∃ p ∈ spells, p.Covers t) ∧ Told spells t := by
  obtain ⟨p, hp, -, hpe, hnone, hcover⟩ := h
  refine ⟨max p.start s, le_max_right _ _, hpe, ?_, p, hp, le_max_left _ _, hnone⟩
  rintro ⟨q, hq, hcovers⟩
  exact hcover q hq hcovers

/-- The latest end up to an instant. -/
theorem exists_latest_stop {q : Spell T} {u : T} (hq : q ∈ spells) (hu : u ∈ q.stop)
    (hut : u ≤ t) : ∃ q ∈ spells, ∃ v ∈ q.stop, u ≤ v ∧ v ≤ t ∧
      ∀ r ∈ spells, ∀ w ∈ r.stop, w ≤ t → w ≤ v := by
  let stops := ((spells.filterMap (·.stop)).filter (· ≤ t)).toFinset
  have hmem : ∀ w, w ∈ stops ↔ (∃ r ∈ spells, w ∈ r.stop) ∧ w ≤ t := by
    intro w
    simp [stops]
  have hne : stops.Nonempty := ⟨u, (hmem u).mpr ⟨⟨q, hq, hu⟩, hut⟩⟩
  obtain ⟨v, hv, hmax⟩ := stops.exists_max_image id hne
  obtain ⟨⟨q', hq', hv'⟩, hvt⟩ := (hmem v).mp hv
  refine ⟨q', hq', v, hv', hmax u ((hmem u).mpr ⟨⟨q, hq, hu⟩, hut⟩), hvt, ?_⟩
  intro r hr w hw hwt
  exact hmax w ((hmem w).mpr ⟨⟨r, hr, hw⟩, hwt⟩)

theorem hidden_of_untold (hst : s ≤ t) (hte : t < e) {p : Spell T} (hp : p ∈ spells)
    (hcovers : p.Covers t) (huntold : ¬ Told spells t) : Hidden spells s e := by
  have hended : ∀ r ∈ spells, r.start ≤ t → ∃ q ∈ spells, ∃ u ∈ q.stop, r.start ≤ u ∧ u ≤ t := by
    intro r hr hrt
    by_contra hnone
    refine huntold ⟨r, hr, hrt, fun q hq u hu hru hut => hnone ⟨q, hq, u, hu, hru, hut⟩⟩
  obtain ⟨q, hq, u, hu, hpu, hut⟩ := hended p hp hcovers.1
  obtain ⟨q', hq', v, hv, huv, hvt, hmax⟩ := exists_latest_stop hq hu hut
  have hle : max v s ≤ t := max_le hvt hst
  refine ⟨p, hp, q', hq', v, hv, hpu.trans huv, hle.trans_lt hte, ?_, ?_⟩
  · intro w hw
    exact hle.trans_lt (hcovers.2 w hw)
  · intro r hr hvr hrs
    obtain ⟨q'', hq'', w, hw, hrw, hwt⟩ := hended r hr (hrs.trans hst)
    exact absurd (hmax q'' hq'' w hw hwt) (not_le.mpr (hvr.trans_le hrw))

theorem stale_of_told (hst : s ≤ t) (hte : t < e) (htold : Told spells t)
    (hcover : ¬ ∃ p ∈ spells, p.Covers t) : Stale spells s e := by
  obtain ⟨p, hp, hpt, hnone⟩ := htold
  have hstop : ∃ u ∈ p.stop, u ≤ t := by
    by_contra hno
    refine hcover ⟨p, hp, hpt, fun u hu => ?_⟩
    by_contra hut
    exact hno ⟨u, hu, not_lt.mp hut⟩
  obtain ⟨u, hu, hut⟩ := hstop
  have hup : u < p.start := by
    by_contra hle
    exact hnone p hp u hu (not_lt.mp hle) hut
  have hle : max p.start s ≤ t := max_le hpt hst
  refine ⟨p, hp, ⟨u, hu, hup⟩, hle.trans_lt hte, ?_, ?_⟩
  · intro q hq v hv hpv hvm
    exact hnone q hq v hv hpv (hvm.trans hle)
  · rintro q hq ⟨hqm, hqv⟩
    refine hcover ⟨q, hq, hqm.trans hle, fun v hv => ?_⟩
    by_contra hvt
    have hpv : p.start ≤ v := (le_max_left p.start s).trans (hqv v hv).le
    exact hnone q hq v hv hpv (not_lt.mp hvt)

/-- What is told is right from `s` on and before `e` exactly when nothing is hidden or stale. -/
theorem told_iff_covered :
    (∀ t, s ≤ t → t < e → (Told spells t ↔ ∃ p ∈ spells, p.Covers t)) ↔
      ¬ Hidden spells s e ∧ ¬ Stale spells s e := by
  constructor
  · intro h
    constructor
    · intro hhidden
      obtain ⟨t, hst, hte, hcovered, huntold⟩ := hhidden.untold
      exact huntold ((h t hst hte).mpr hcovered)
    · intro hstale
      obtain ⟨t, hst, hte, hcovered, htold⟩ := hstale.told
      exact hcovered ((h t hst hte).mp htold)
  · rintro ⟨hhidden, hstale⟩ t hst hte
    constructor
    · intro htold
      by_contra hcovered
      exact hstale (stale_of_told hst hte htold hcovered)
    · rintro ⟨p, hp, hcovers⟩
      by_contra huntold
      exact hhidden (hidden_of_untold hst hte hp hcovers huntold)

/-- Every instant is covered when the first one is and every end has a spell that goes on. -/
theorem covered_throughout_iff :
    (∀ t, s ≤ t → t < e → ∃ p ∈ spells, p.Covers t) ↔
      (s < e → ∃ p ∈ spells, p.Covers s) ∧
        ∀ q ∈ spells, ∀ u ∈ q.stop, s ≤ u → u < e → ∃ p ∈ spells, p.Covers u := by
  constructor
  · intro h
    exact ⟨fun hse => h s le_rfl hse, fun q _ u _ hsu hue => h u hsu hue⟩
  · rintro ⟨hfirst, hstops⟩ t hst hte
    by_contra hno
    have hstopped : ∀ p ∈ spells, p.start ≤ t → ∃ u ∈ p.stop, u ≤ t := by
      intro p hp hpt
      by_contra hgoes
      exact hno ⟨p, hp, hpt, fun u hu => not_le.mp fun hut => hgoes ⟨u, hu, hut⟩⟩
    obtain ⟨p, hp, hps, hpgoes⟩ := hfirst (hst.trans_lt hte)
    obtain ⟨u, hu, hut⟩ := hstopped p hp (hps.trans hst)
    -- the spell that goes on at the latest end has to end before it
    obtain ⟨q, hq, v, hv, huv, hvt, hmax⟩ := exists_latest_stop hp hu hut
    have hsv : s ≤ v := (hpgoes u hu).le.trans huv
    obtain ⟨r, hr, hrv, hrgoes⟩ := hstops q hq v hv hsv (hvt.trans_lt hte)
    obtain ⟨w, hw, hwt⟩ := hstopped r hr (hrv.trans hvt)
    exact absurd (hmax r hr w hw hwt) (not_le.mpr (hrgoes w hw))

end Spell
