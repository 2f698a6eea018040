import Mathlib.Data.Set.Basic
import Mathlib.Order.Defs.Unbundled

/-! Stores that keep a version of every state that their objects come to. -/
namespace Versioning

variable {σ ι V D : Type*}

/-- What can be read of a store: the objects as they are, the version that each of them is in, what
the versions have kept, and which versions have been given out. A version that has not been given
out yet is blank. -/
structure Store (σ ι V D : Type*) where
  current : σ → ι → Option D
  version : σ → ι → Option V
  kept : σ → V → D
  used : σ → Set V
  blank : D

namespace Store

variable (store : Store σ ι V D) {s s' s'' : σ} {i : ι} {d : D}

/-- Every object is in a version that has kept it as it is. -/
def Complete (s : σ) : Prop :=
  ∀ i d, store.current s i = some d →
    ∃ v ∈ store.used s, store.version s i = some v ∧ store.kept s v = d

def Blank (s : σ) : Prop := ∀ v ∉ store.used s, store.kept s v = store.blank

/-- The object is as it was before. -/
def Same (s s' : σ) (i : ι) : Prop :=
  store.current s' i = store.current s i ∧ store.version s' i = store.version s i

/-- The object has been given a new version, which keeps what it is now. -/
def Renewed (s s' : σ) (i : ι) : Prop :=
  ∃ v ∈ store.used s', v ∉ store.used s ∧ store.version s' i = some v ∧
    store.current s' i = some (store.kept s' v)

/-- A change that records itself: no version that was given out is touched, and every object that
has changed is gone or in a new version. -/
structure Records (s s' : σ) : Prop where
  used : store.used s ⊆ store.used s'
  kept : ∀ v ∈ store.used s, store.kept s' v = store.kept s v
  blank : ∀ v ∉ store.used s', store.kept s' v = store.kept s v
  object : ∀ i, store.current s' i = none ∨ store.Same s s' i ∨ store.Renewed s s' i

variable {store}

theorem Records.refl (s : σ) : store.Records s s where
  used := subset_rfl
  kept _ _ := rfl
  blank _ _ := rfl
  object _ := .inr (.inl ⟨rfl, rfl⟩)

theorem Records.trans (h : store.Records s s') (h' : store.Records s' s'') :
    store.Records s s'' where
  used := h.used.trans h'.used
  kept v hv := (h'.kept v (h.used hv)).trans (h.kept v hv)
  blank v hv := (h'.blank v hv).trans (h.blank v fun hv' => hv (h'.used hv'))
  object i := by
    rcases h'.object i with hgone | hsame' | ⟨v, hv, hnew, hversion, hcurrent⟩
    · exact .inl hgone
    · rcases h.object i with hgone | hsame | ⟨v, hv, hnew, hversion, hcurrent⟩
      · exact .inl (hsame'.1.trans hgone)
      · exact .inr (.inl ⟨hsame'.1.trans hsame.1, hsame'.2.trans hsame.2⟩)
      · refine .inr (.inr ⟨v, h'.used hv, hnew, hsame'.2.trans hversion, ?_⟩)
        rw [hsame'.1, hcurrent, h'.kept v hv]
    · exact .inr (.inr ⟨v, hv, fun hv' => hnew (h.used hv'), hversion, hcurrent⟩)

theorem Records.keeps_blank (h : store.Records s s') (hs : store.Blank s) : store.Blank s' :=
  fun v hv => (h.blank v hv).trans (hs v fun hv' => hv (h.used hv'))

theorem Complete.records (hs : store.Complete s) (h : store.Records s s') : store.Complete s' := by
  intro i d hd
  rcases h.object i with hgone | hsame | ⟨v, hv, -, hversion, hcurrent⟩
  · rw [hgone] at hd
    cases hd
  · obtain ⟨v, hv, hversion, hkept⟩ := hs i d (hsame.1.symm.trans hd)
    exact ⟨v, h.used hv, hsame.2.trans hversion, (h.kept v hv).trans hkept⟩
  · exact ⟨v, hv, hversion, Option.some.inj (hcurrent.symm.trans hd)⟩

/-- What an object was can be read from its version at any time afterwards. -/
theorem Complete.past (hs : store.Complete s) (h : store.Records s s')
    (hd : store.current s i = some d) :
    ∃ v, store.version s i = some v ∧ store.kept s' v = d := by
  obtain ⟨v, hv, hversion, hkept⟩ := hs i d hd
  exact ⟨v, hversion, (h.kept v hv).trans hkept⟩

end Store

end Versioning
