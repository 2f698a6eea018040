import LibFred.Util.Db.ParamQuery
import Mathlib.Data.List.Induction
import Mathlib.Data.Set.Function

/-! What the text and the list of a composed query say together. -/
namespace LibFred.Database

variable {ι κ : Type}

/-- A part of the text that is generated: a text as it is, or a placeholder. -/
inductive Segment
  | text (s : String)
  | placeholder (n : Nat) (type : String)

/-- A part of what a query means: a text as it is, or a value of a type. -/
inductive Piece
  | text (s : String)
  | value (val : QueryParam) (type : String)

/-- A parameter that is added at one place only, or a reusable one. -/
inductive Owner (ι : Type)
  | oneOff (place : Nat)
  | reusable (lid : ι)

def Segment.render : Segment → String
  | .text s => s
  | .placeholder n type => "$" ++ toString n ++ "::" ++ type

/-- Places of the list are counted from 1. -/
def Segment.replace (params : List QueryParam) : Segment → Option Piece
  | .text s => some (.text s)
  | .placeholder 0 _ => none
  | .placeholder (k + 1) type => params[k]?.map (.value · type)

def Element.piece : Element ι → Piece
  | .string val => .text val
  | .param val pgTypname => .value val pgTypname
  | .paramRepeatable val pgTypname _ => .value val pgTypname

def Element.owner (place : Nat) : Element ι → Option (Owner ι)
  | .string _ => none
  | .param _ _ => some (.oneOff place)
  | .paramRepeatable _ _ lid => some (.reusable lid)

/-- The segments of the text stand for the parts of a query: each is replaced by its part, every
entry of the list is referenced, and placeholders are the same where their parameters are. -/
structure Composes (parts : ParamQuery ι) (query : Query) (segments : List Segment) : Prop where
  text : query.text = String.join (segments.map Segment.render)
  replaced : segments.map (·.replace query.params) = parts.map (some ·.piece)
  referenced : ∀ k < query.params.length, ∃ type, .placeholder (k + 1) type ∈ segments
  shared : ∀ {i j m n : Nat} {type type' : String} {part part' : Element ι},
    parts[i]? = some part → parts[j]? = some part' →
    segments[i]? = some (.placeholder m type) → segments[j]? = some (.placeholder n type') →
      (m = n ↔ part.owner i = part'.owner j)

/-- Reusable parameters of one identification are alike. -/
def Valued (value : ι → QueryParam × String) (e : Element ι) : Prop :=
  ∀ val type lid, e = .paramRepeatable val type lid → value lid = (val, type)

/-- The text is that of the segments; each placeholder is for the owner of an entry. -/
structure Rendered (parts : ParamQuery ι) (query : Query) (segments : List Segment)
    (owners : List (Owner ι)) : Prop where
  text : query.text = String.join (segments.map Segment.render)
  replaced : segments.map (·.replace query.params) = (parts.map Element.piece).map some
  owned : ∀ {i n : Nat} {type : String}, segments[i]? = some (.placeholder n type) →
    ∃ k part o, n = k + 1 ∧ parts[i]? = some part ∧ part.owner i = some o ∧ owners[k]? = some o

variable {value : ι → QueryParam × String} {parts : ParamQuery ι} {query : Query}
  {segments : List Segment} {owners : List (Owner ι)} {e : Element ι} {o : Owner ι}

theorem replace_append {params : List QueryParam} {segment : Segment} {piece : Piece}
    (val : QueryParam) (h : segment.replace params = some piece) :
    segment.replace (params ++ [val]) = some piece := by
  cases segment with
  | text s => exact h
  | placeholder n type =>
    cases n with
    | zero => cases h
    | succ k =>
      obtain ⟨p, hp, hpiece⟩ := Option.map_eq_some_iff.mp h
      obtain ⟨hk, -⟩ := List.getElem?_eq_some_iff.mp hp
      rw [Segment.replace, List.getElem?_append_left hk]
      exact h

/-- What a placeholder stood for it stands for when the list gets longer. -/
theorem map_replace_append {params : List QueryParam} {pieces : List Piece} (val : QueryParam)
    (h : segments.map (·.replace params) = pieces.map some) :
    segments.map (·.replace (params ++ [val])) = pieces.map some := by
  induction segments generalizing pieces with
  | nil => exact h
  | cons segment segments ih =>
    cases pieces with
    | nil => cases h
    | cons piece pieces =>
      rw [List.map_cons, List.map_cons, List.cons.injEq] at h ⊢
      exact ⟨replace_append val h.1, ih h.2⟩

theorem getElem?_concat {α : Type} {l : List α} {a c : α} {i : Nat} :
    (l ++ [a])[i]? = some c ↔ l[i]? = some c ∨ i = l.length ∧ c = a := by
  rw [List.getElem?_append]
  split
  · rename_i hlt
    exact ⟨.inl, fun h => h.elim id fun h => absurd h.1 (Nat.ne_of_lt hlt)⟩
  · rename_i hle
    rw [List.getElem?_eq_none (Nat.not_lt.mp hle), List.getElem?_singleton]
    split
    · rename_i hzero
      have hlength : i = l.length := by omega
      simp [hlength, eq_comm]
    · rename_i hpos
      have hlength : i ≠ l.length := by omega
      simp [hlength]

theorem join_append_singleton (l : List String) (s : String) :
    String.join (l ++ [s]) = String.join l ++ s := by
  simp [String.join]

theorem Rendered.length_eq (h : Rendered parts query segments owners) :
    segments.length = parts.length := by
  simpa using congrArg List.length h.replaced

theorem Rendered.string (h : Rendered parts query segments owners) (val : String) :
    Rendered (parts ++ [.string val]) { query with text := query.text ++ val }
      (segments ++ [.text val]) owners where
  text := by
    rw [List.map_append, List.map_singleton, join_append_singleton, ← h.text]
    rfl
  replaced := by
    rw [List.map_append, List.map_append, List.map_append, h.replaced]
    rfl
  owned hi := by
    obtain hi | ⟨-, hseg⟩ := getElem?_concat.mp hi
    · obtain ⟨k, part, o, hn, hpart, howner⟩ := h.owned hi
      exact ⟨k, part, o, hn, getElem?_concat.mpr (.inl hpart), howner⟩
    · cases hseg

/-- An entry with another owner is put at the end of the list. -/
theorem Rendered.grow (h : Rendered parts query segments owners) (o : Owner ι) (val : QueryParam) :
    Rendered parts { query with params := query.params ++ [val] } segments (owners ++ [o]) where
  text := h.text
  replaced := map_replace_append val h.replaced
  owned hi := by
    obtain ⟨k, part, o, hn, hpart, howner, hk⟩ := h.owned hi
    exact ⟨k, part, o, hn, hpart, howner, getElem?_concat.mpr (.inl hk)⟩

/-- A placeholder for the entry of its owner is put behind the text. -/
theorem Rendered.refer {k : Nat} {val : QueryParam} {type : String}
    (h : Rendered parts query segments owners) (howner : e.owner parts.length = some o)
    (hk : owners[k]? = some o) (hpiece : e.piece = .value val type)
    (hval : query.params[k]? = some val) :
    Rendered (parts ++ [e])
      { query with text := query.text ++ "$" ++ toString (k + 1) ++ "::" ++ type }
      (segments ++ [.placeholder (k + 1) type]) owners where
  text := by
    rw [List.map_append, List.map_singleton, join_append_singleton, ← h.text]
    simp only [Segment.render, String.append_assoc]
  replaced := by
    rw [List.map_append, List.map_append, List.map_append, h.replaced]
    simp [Segment.replace, hval, hpiece]
  owned hi := by
    obtain hi | ⟨rfl, hseg⟩ := getElem?_concat.mp hi
    · obtain ⟨k', part, o', hn, hpart, howner'⟩ := h.owned hi
      exact ⟨k', part, o', hn, getElem?_concat.mpr (.inl hpart), howner'⟩
    · obtain ⟨rfl, rfl⟩ := Segment.placeholder.inj hseg
      rw [h.length_eq]
      exact ⟨k, e, o, rfl, getElem?_concat.mpr (.inr ⟨rfl, rfl⟩), howner, hk⟩

theorem eq_of_owner_eq_oneOff {place place' : Nat} (h : e.owner place = some (.oneOff place')) :
    place = place' := by
  cases e with
  | string val => cases h
  | param val type => exact Owner.oneOff.inj (Option.some.inj h)
  | paramRepeatable val type lid => cases h

section Loop

variable [LinearOrder ι]

/-- The state of the loop; each entry of the list has an owner. -/
structure Built (value : ι → QueryParam × String) (parts : ParamQuery ι) (b : Building ι)
    (segments : List Segment) (owners : List (Owner ι)) : Prop where
  rendered : Rendered parts b.toQuery segments owners
  nodup : owners.Nodup
  length : owners.length = b.params.length
  places : ∀ {place : Nat}, .oneOff place ∈ owners → place < parts.length
  referenced : ∀ k < owners.length, ∃ type, .placeholder (k + 1) type ∈ segments
  positions : ∀ {lid : ι} {pos : String}, OrderedMap.find lid b.paramLidPosition = some pos ↔
    ∃ k, owners[k]? = some (.reusable lid) ∧ pos = toString (k + 1)
  values : ∀ {lid : ι} {k : Nat}, owners[k]? = some (.reusable lid) →
    b.params[k]? = some (value lid).1

variable {b : Building ι}

theorem built_nil : Built value ([] : ParamQuery ι) ⟨⟨"", []⟩, []⟩ [] [] where
  rendered := ⟨rfl, rfl, fun h => by cases h⟩
  nodup := List.nodup_nil
  length := rfl
  places h := by cases h
  referenced k h := absurd h (Nat.not_lt_zero k)
  positions := by simp [OrderedMap.find]
  values h := by cases h

/-- A segment that needs no new entry leaves the list as it is. -/
theorem Built.extend {text : String} {segment : Segment} (h : Built value parts b segments owners)
    (hrendered : Rendered (parts ++ [e]) { b.toQuery with text := text } (segments ++ [segment])
      owners) :
    Built value (parts ++ [e]) { b with text := text } (segments ++ [segment]) owners where
  rendered := hrendered
  nodup := h.nodup
  length := h.length
  places hmem := by
    have hplace := h.places hmem
    rw [List.length_append]
    omega
  referenced k hk := by
    obtain ⟨type, hmem⟩ := h.referenced k hk
    exact ⟨type, List.mem_append_left _ hmem⟩
  positions := h.positions
  values := h.values

theorem Built.string (h : Built value parts b segments owners) (val : String) :
    Built value (parts ++ [.string val]) { b with text := b.text ++ val }
      (segments ++ [.text val]) owners :=
  h.extend (h.rendered.string val)

/-- A parameter whose entry is in the list is referred to. -/
theorem Built.refer {k : Nat} {val : QueryParam} {type : String}
    (h : Built value parts b segments owners) (howner : e.owner parts.length = some o)
    (hk : owners[k]? = some o) (hpiece : e.piece = .value val type)
    (hval : b.params[k]? = some val) :
    Built value (parts ++ [e]) (b.refer (toString (k + 1)) type)
      (segments ++ [.placeholder (k + 1) type]) owners :=
  h.extend (h.rendered.refer howner hk hpiece hval)

/-- A parameter that is not in the list yet gets an entry at its end. -/
theorem Built.enter {val : QueryParam} {type : String} {positions : List (ι × String)}
    (h : Built value parts b segments owners) (howner : e.owner parts.length = some o)
    (hnew : o ∉ owners) (hpiece : e.piece = .value val type)
    (hpositions : ∀ {lid : ι} {pos : String}, OrderedMap.find lid positions = some pos ↔
      ∃ k, (owners ++ [o])[k]? = some (.reusable lid) ∧ pos = toString (k + 1))
    (hvalue : ∀ lid, o = .reusable lid → val = (value lid).1) :
    Built value (parts ++ [e])
      ({ (b.add val).1 with paramLidPosition := positions }.refer (b.add val).2 type)
      (segments ++ [.placeholder (owners.length + 1) type]) (owners ++ [o]) := by
  have hlast : (owners ++ [o])[owners.length]? = some o := List.getElem?_concat_length
  have hlastValue : (b.params ++ [val])[owners.length]? = some val := by
    rw [h.length]
    exact List.getElem?_concat_length
  have hrendered := (h.rendered.grow o val).refer howner hlast hpiece hlastValue
  refine ⟨?_, ?_, ?_, ?_, ?_, hpositions, ?_⟩
  · rw [h.length] at hrendered ⊢
    exact hrendered
  · refine List.nodup_append.mpr ⟨h.nodup, List.pairwise_singleton _ _, fun a ha b hb => ?_⟩
    rw [List.mem_singleton.mp hb]
    exact fun heq => hnew (heq ▸ ha)
  · change (owners ++ [o]).length = (b.params ++ [val]).length
    rw [List.length_append, List.length_append, h.length]
    rfl
  · intro place hmem
    rw [List.length_append, List.length_singleton]
    obtain hmem | hmem := List.mem_append.mp hmem
    · have hplace := h.places hmem
      omega
    · rw [← List.mem_singleton.mp hmem] at howner
      have hplace := eq_of_owner_eq_oneOff howner
      omega
  · intro k hk
    rw [List.length_append, List.length_singleton] at hk
    by_cases hlt : k < owners.length
    · obtain ⟨type', hmem⟩ := h.referenced k hlt
      exact ⟨type', List.mem_append_left _ hmem⟩
    · obtain rfl : k = owners.length := by omega
      exact ⟨type, List.mem_append_right _ List.mem_cons_self⟩
  · intro lid k hk
    change (b.params ++ [val])[k]? = _
    obtain hk | ⟨rfl, ho⟩ := getElem?_concat.mp hk
    · exact getElem?_concat.mpr (.inl (h.values hk))
    · exact getElem?_concat.mpr (.inr ⟨h.length, (hvalue lid ho.symm).symm⟩)

/-- One step of the loop, by the kinds of elements. -/
theorem Built.addElement (h : Built value parts b segments owners) (hvalued : Valued value e) :
    ∃ b' segments' owners', b.addElement e = .ok b' ∧
      Built value (parts ++ [e]) b' segments' owners' := by
  cases e with
  | string val => exact ⟨_, _, _, rfl, h.string val⟩
  | param val type =>
    have hnew : .oneOff parts.length ∉ owners := fun hmem => Nat.lt_irrefl _ (h.places hmem)
    refine ⟨_, _, _, rfl, h.enter rfl hnew rfl ?_ fun lid ho => by cases ho⟩
    intro lid pos
    rw [h.positions]
    refine exists_congr fun k => and_congr_left' ?_
    rw [getElem?_concat]
    simp
  | paramRepeatable val type lid =>
    have hval : val = (value lid).1 := by rw [hvalued val type lid rfl]
    cases hfind : OrderedMap.find lid b.paramLidPosition with
    | some pos =>
      obtain ⟨k, hk, rfl⟩ := h.positions.mp hfind
      refine ⟨b.refer (toString (k + 1)) type, _, _, ?_, h.refer rfl hk rfl ?_⟩
      · simp only [Building.addElement, hfind]
      · rw [h.values hk, hval]
    | none =>
      have hnew : .reusable lid ∉ owners := by
        intro hmem
        obtain ⟨k, hk⟩ := List.getElem?_of_mem hmem
        rw [h.positions.mpr ⟨k, hk, rfl⟩] at hfind
        cases hfind
      have hinsert : insertPosition lid (b.add val).2 b.paramLidPosition =
          some (OrderedMap.set lid (b.add val).2 b.paramLidPosition) := by
        rw [insertPosition, hfind]
        rfl
      have hpositions {lid' : ι} {pos : String} :
          OrderedMap.find lid' (OrderedMap.set lid (b.add val).2 b.paramLidPosition) = some pos ↔
            ∃ k, (owners ++ [.reusable lid])[k]? = some (.reusable lid') ∧
              pos = toString (k + 1) := by
        rw [OrderedMap.find_set]
        split
        · rename_i heq
          subst heq
          constructor
          · intro hpos
            refine ⟨owners.length, List.getElem?_concat_length, ?_⟩
            rw [← Option.some.inj hpos, h.length]
            rfl
          · rintro ⟨k, hk, rfl⟩
            obtain hk | ⟨rfl, -⟩ := getElem?_concat.mp hk
            · exact absurd (List.mem_of_getElem? hk) hnew
            · rw [Building.add, h.length]
        · rename_i hne
          rw [h.positions]
          refine exists_congr fun k => and_congr_left' ?_
          rw [getElem?_concat]
          refine ⟨.inl, fun hk => hk.elim id fun hk => ?_⟩
          exact absurd (Owner.reusable.inj hk.2).symm hne
      refine ⟨_, _, _, ?_, h.enter rfl hnew rfl hpositions fun lid' ho => ?_⟩
      · simp only [Building.addElement, hfind, hinsert]
      · rw [hval, Owner.reusable.inj ho]

/-- The whole loop, by induction on the elements from the last one. -/
theorem exists_built (hvalued : ∀ e ∈ parts, Valued value e) : ∃ b segments owners,
    ParamQuery.build parts = .ok b ∧ Built value parts b segments owners := by
  induction parts using List.reverseRecOn with
  | nil => exact ⟨_, _, _, rfl, built_nil⟩
  | append_singleton parts e ih =>
    obtain ⟨b, segments, owners, hbuild, hbuilt⟩ :=
      ih fun e he => hvalued e (List.mem_append_left _ he)
    obtain ⟨b', segments', owners', hstep, hbuilt'⟩ :=
      hbuilt.addElement (hvalued e (List.mem_append_right _ List.mem_cons_self))
    refine ⟨b', segments', owners', ?_, hbuilt'⟩
    unfold ParamQuery.build at hbuild ⊢
    rw [List.foldlM_append, hbuild]
    change List.foldlM Building.addElement b [e] = _
    rw [List.foldlM_cons, hstep]
    rfl

theorem Built.composes (h : Built value parts b segments owners) :
    Composes parts b.toQuery segments where
  text := h.rendered.text
  replaced := by
    rw [h.rendered.replaced, List.map_map]
    rfl
  referenced k hk := h.referenced k (h.length ▸ hk)
  shared hi hj hm hn := by
    obtain ⟨k, part, o, rfl, hpart, howner, hk⟩ := h.rendered.owned hm
    obtain ⟨k', part', o', rfl, hpart', howner', hk'⟩ := h.rendered.owned hn
    rw [hi] at hpart
    rw [hj] at hpart'
    obtain rfl := Option.some.inj hpart
    obtain rfl := Option.some.inj hpart'
    rw [howner, howner']
    constructor
    · intro heq
      obtain rfl := Nat.succ.inj heq
      exact hk.symm.trans hk'
    · intro heq
      obtain rfl := Option.some.inj heq
      obtain ⟨hlt, -⟩ := List.getElem?_eq_some_iff.mp hk
      rw [(List.getElem?_inj hlt h.nodup).mp (hk.trans hk'.symm)]

end Loop

section Renaming

variable {f : ι → κ} {o : Objects ι} {p : ReusableParameter ι} {statement : Statement} {lid : ι}

def Element.map (f : ι → κ) : Element ι → Element κ
  | .string val => .string val
  | .param val pgTypname => .param val pgTypname
  | .paramRepeatable val pgTypname lid => .paramRepeatable val pgTypname (f lid)

def ReusableParameter.map (f : ι → κ) (p : ReusableParameter ι) : ReusableParameter κ :=
  ⟨p.value, p.type, f p.lid⟩

def Objects.map (f : ι → κ) (o : Objects ι) : Objects κ where
  parameters x := (o.parameters x).map (·.map f)
  queries q := (o.queries q).map (·.map (·.map f))

theorem map_setParameter (x : Nat) (p : Option (ReusableParameter ι)) :
    (o.setParameter x p).map f = (o.map f).setParameter x (p.map (·.map f)) := by
  simp only [Objects.setParameter, Objects.map, Objects.mk.injEq, and_true]
  funext y
  split <;> rfl

theorem map_setQuery (q : Nat) (query : Option (ParamQuery ι)) :
    (o.setQuery q query).map f = (o.map f).setQuery q (query.map (·.map (·.map f))) := by
  simp only [Objects.setQuery, Objects.map, Objects.mk.injEq, true_and]
  funext r
  split <;> rfl

theorem parameters_map (x : Nat) : (o.map f).parameters x = (o.parameters x).map (·.map f) := rfl

theorem queries_map (q : Nat) : (o.map f).queries q = (o.queries q).map (·.map (·.map f)) := rfl

/-- Statements do not look at identifications. -/
theorem step_map : statement.step (f lid) (o.map f) = (statement.step lid o).map (·.map f) := by
  cases statement with
  | reusableParameter x value type => simp [Statement.step, map_setParameter, ReusableParameter.map]
  | copyParameter x y =>
    rw [Statement.step, Statement.step, parameters_map]
    cases o.parameters y <;> simp [map_setParameter]
  | dropParameter x => simp [Statement.step, map_setParameter]
  | paramQuery q => simp [Statement.step, map_setQuery]
  | paramQueryOf q val => simp [Statement.step, map_setQuery, ParamQuery.ofString, Element.map]
  | copyQuery q r =>
    rw [Statement.step, Statement.step, queries_map]
    cases o.queries r <;> simp [map_setQuery]
  | dropQuery q => simp [Statement.step, map_setQuery]
  | addQuery q r =>
    rw [Statement.step, Statement.step, queries_map, queries_map]
    split
    · rfl
    · cases o.queries q <;> cases o.queries r <;> simp [map_setQuery, ParamQuery.addQuery]
  | addString q val =>
    rw [Statement.step, Statement.step, queries_map]
    cases o.queries q <;> simp [map_setQuery, ParamQuery.addString, Element.map]
  | param q val type =>
    rw [Statement.step, Statement.step, queries_map]
    cases o.queries q <;> simp [map_setQuery, ParamQuery.param, Element.map]
  | paramReusable q x =>
    rw [Statement.step, Statement.step, queries_map, parameters_map]
    cases o.queries q <;> cases o.parameters x <;>
      simp [map_setQuery, ParamQuery.paramReusable, Element.map, ReusableParameter.map]

theorem holds_setParameter {x : Nat} {p' : Option (ReusableParameter ι)}
    (h : (o.setParameter x p').Holds p) : o.Holds p ∨ p' = some p := by
  obtain ⟨y, hy⟩ | hquery := h
  · simp only [Objects.setParameter] at hy
    split at hy
    · exact .inr hy
    · exact .inl (.inl ⟨y, hy⟩)
  · exact .inl (.inr hquery)

theorem holds_setQuery {q : Nat} {query : ParamQuery ι}
    (h : (o.setQuery q (some query)).Holds p) :
    o.Holds p ∨ .paramRepeatable p.value p.type p.lid ∈ query := by
  obtain hparameter | ⟨r, es, hes, hmem⟩ := h
  · exact .inl (.inl hparameter)
  · simp only [Objects.setQuery] at hes
    split at hes
    · obtain rfl := Option.some.inj hes
      exact .inr hmem
    · exact .inl (.inr ⟨r, es, hes, hmem⟩)

theorem holds_dropQuery {q : Nat} (h : (o.setQuery q none).Holds p) : o.Holds p := by
  obtain hparameter | ⟨r, es, hes, hmem⟩ := h
  · exact .inl hparameter
  · simp only [Objects.setQuery] at hes
    split at hes
    · cases hes
    · exact .inr ⟨r, es, hes, hmem⟩

/-- Only a parameter that is constructed is not there before. -/
theorem holds_step {o' : Objects ι} (h : statement.step lid o = some o') (hp : o'.Holds p) :
    o.Holds p ∨ ∃ x, statement = .reusableParameter x p.value p.type ∧ p.lid = lid := by
  cases statement with
  | reusableParameter x value type =>
    obtain rfl := Option.some.inj h
    refine (holds_setParameter hp).imp_right fun hnew => ?_
    obtain rfl := Option.some.inj hnew
    exact ⟨x, rfl, rfl⟩
  | copyParameter x y =>
    obtain ⟨p', hp', rfl⟩ := Option.map_eq_some_iff.mp h
    refine .inl ((holds_setParameter hp).elim id fun hnew => .inl ⟨y, ?_⟩)
    rw [hp', Option.some.inj hnew]
  | dropParameter x =>
    obtain rfl := Option.some.inj h
    exact .inl ((holds_setParameter hp).elim id fun hnew => by cases hnew)
  | paramQuery q =>
    obtain rfl := Option.some.inj h
    exact .inl ((holds_setQuery hp).elim id fun hmem => by cases hmem)
  | paramQueryOf q val =>
    obtain rfl := Option.some.inj h
    exact .inl ((holds_setQuery hp).elim id fun hmem => by simp [ParamQuery.ofString] at hmem)
  | copyQuery q r =>
    obtain ⟨query, hquery, rfl⟩ := Option.map_eq_some_iff.mp h
    exact .inl ((holds_setQuery hp).elim id fun hmem => .inr ⟨r, query, hquery, hmem⟩)
  | dropQuery q =>
    obtain rfl := Option.some.inj h
    exact .inl (holds_dropQuery hp)
  | addQuery q r =>
    rw [Statement.step] at h
    split at h
    · cases h
    · obtain ⟨query, hquery, h'⟩ := Option.bind_eq_some_iff.mp h
      obtain ⟨val, hval, rfl⟩ := Option.map_eq_some_iff.mp h'
      refine .inl ((holds_setQuery hp).elim id fun hmem => ?_)
      obtain hmem | hmem := List.mem_append.mp hmem
      · exact .inr ⟨q, query, hquery, hmem⟩
      · exact .inr ⟨r, val, hval, hmem⟩
  | addString q val =>
    obtain ⟨query, hquery, rfl⟩ := Option.map_eq_some_iff.mp h
    refine .inl ((holds_setQuery hp).elim id fun hmem => .inr ⟨q, query, hquery, ?_⟩)
    simpa [ParamQuery.addString] using hmem
  | param q val type =>
    obtain ⟨query, hquery, rfl⟩ := Option.map_eq_some_iff.mp h
    refine .inl ((holds_setQuery hp).elim id fun hmem => .inr ⟨q, query, hquery, ?_⟩)
    simpa [ParamQuery.param] using hmem
  | paramReusable q x =>
    obtain ⟨query, hquery, h'⟩ := Option.bind_eq_some_iff.mp h
    obtain ⟨p', hp', rfl⟩ := Option.map_eq_some_iff.mp h'
    refine .inl ((holds_setQuery hp).elim id fun hmem => ?_)
    obtain hmem | hmem := List.mem_append.mp hmem
    · exact .inr ⟨q, query, hquery, hmem⟩
    · obtain ⟨hvalue, htype, hlid⟩ := Element.paramRepeatable.inj (List.mem_singleton.mp hmem)
      exact .inl ⟨x, hp'.trans (congrArg some (ReusableParameter.ext hvalue htype hlid).symm)⟩

theorem holds_map (h : o.Holds p) : (o.map f).Holds (p.map f) := by
  obtain ⟨x, hx⟩ | ⟨q, query, hquery, hmem⟩ := h
  · refine .inl ⟨x, ?_⟩
    rw [parameters_map, hx]
    rfl
  · refine .inr ⟨q, query.map (·.map f), ?_, List.mem_map.mpr ⟨_, hmem, rfl⟩⟩
    rw [queries_map, hquery]
    rfl

theorem ReusableParameter.map_congr {g : ι → κ} (h : f p.lid = g p.lid) : p.map f = p.map g := by
  rw [ReusableParameter.map, ReusableParameter.map, h]

theorem Element.map_congr {g : ι → κ} {e : Element ι}
    (h : ∀ val type lid, e = .paramRepeatable val type lid → f lid = g lid) : e.map f = e.map g := by
  cases e with
  | string val => rfl
  | param val type => rfl
  | paramRepeatable val type lid => rw [Element.map, Element.map, h val type lid rfl]

/-- Identifications of other parameters do not matter. -/
theorem Objects.map_congr {g : ι → κ} (h : ∀ p, o.Holds p → f p.lid = g p.lid) :
    o.map f = o.map g := by
  simp only [Objects.map, Objects.mk.injEq]
  constructor
  · funext x
    refine Option.map_congr fun p hp => ReusableParameter.map_congr (h p (.inl ⟨x, hp⟩))
  · funext q
    refine Option.map_congr fun query hquery => List.map_congr_left fun e he => ?_
    refine Element.map_congr fun val type lid heq => ?_
    exact h ⟨val, type, lid⟩ (.inr ⟨q, query, hquery, heq ▸ he⟩)

/-- Parts that are told apart before they are renamed are told apart afterwards. -/
theorem Composes.of_map {parts : ParamQuery ι} {query : Query} {segments : List Segment}
    (hinj : ∀ val type val' type' lid lid', .paramRepeatable val type lid ∈ parts →
      .paramRepeatable val' type' lid' ∈ parts → f lid = f lid' → lid = lid')
    (h : Composes (parts.map (·.map f)) query segments) : Composes parts query segments where
  text := h.text
  replaced := by
    rw [h.replaced, List.map_map]
    refine List.map_congr_left fun e _ => ?_
    cases e <;> rfl
  referenced := h.referenced
  shared {i j m n type type' part part'} hi hj hm hn := by
    have hi' : (parts.map (·.map f))[i]? = some (part.map f) := by rw [List.getElem?_map, hi]; rfl
    have hj' : (parts.map (·.map f))[j]? = some (part'.map f) := by rw [List.getElem?_map, hj]; rfl
    rw [h.shared hi' hj' hm hn]
    cases part with
    | string val => cases part' <;> simp [Element.map, Element.owner]
    | param val type => cases part' <;> simp [Element.map, Element.owner]
    | paramRepeatable val type lid =>
      cases part' with
      | string val' => simp [Element.map, Element.owner]
      | param val' type' => simp [Element.map, Element.owner]
      | paramRepeatable val' type' lid' =>
        have hlid := hinj val type val' type' lid lid' (List.mem_of_getElem? hi)
          (List.mem_of_getElem? hj)
        simp only [Element.map, Element.owner, Option.some.injEq, Owner.reusable.injEq]
        exact ⟨hlid, congrArg f⟩

end Renaming

/-- Addresses tell the parameters of a process apart as the statements that constructed them do. -/
structure Refines (n : Nat) (f : Construction → Address)
    (value : Construction → QueryParam × String) (a : Objects Construction) (o : Objects Address) :
    Prop where
  map : o = a.map f
  apart : ∀ p p', a.Holds p → a.Holds p' → f p.lid = f p'.lid → p.lid = p'.lid
  constructed : ∀ p, a.Holds p → p.lid < n
  valued : ∀ p, a.Holds p → value p.lid = (p.value, p.type)

theorem not_holds_empty {p : ReusableParameter ι} : ¬ Objects.empty.Holds p := by
  rintro (⟨x, hx⟩ | ⟨q, query, hquery, -⟩)
  · cases hx
  · cases hquery

theorem meaning_concat (program : List Statement) (statement : Statement) :
    meaning (program ++ [statement]) = (meaning program).bind (statement.step program.length) := by
  simp [meaning, List.zipIdx_append, List.foldlM_append]

/-- What a reusable parameter that a statement constructs is made of. -/
theorem exists_constructed (statement : Statement) : ∃ made : QueryParam × String,
    ∀ x value type, statement = .reusableParameter x value type → made = (value, type) := by
  by_cases h : ∃ x value type, statement = .reusableParameter x value type
  · obtain ⟨x, value, type, rfl⟩ := h
    refine ⟨(value, type), fun x' value' type' heq => ?_⟩
    obtain ⟨-, rfl, rfl⟩ := Statement.reusableParameter.inj heq
    rfl
  · exact ⟨(⟨false, true, ""⟩, ""), fun x value type heq => absurd ⟨x, value, type, heq⟩ h⟩

/-- An address that is free stands for the parameter that is constructed next. -/
theorem Refines.step {n : Nat} {f : Construction → Address}
    {value : Construction → QueryParam × String} {a : Objects Construction}
    {o o' : Objects Address} {statement : Statement} {address : Address}
    (h : Refines n f value a o) (hfree : ∀ p, o.Holds p → p.lid ≠ address)
    (hstep : statement.step address o = some o') : ∃ f' value' a',
    statement.step n a = some a' ∧ Refines (n + 1) f' value' a' o' := by
  have hne {p : ReusableParameter Construction} (hp : a.Holds p) : p.lid ≠ n :=
    Nat.ne_of_lt (h.constructed p hp)
  have hfree' {p : ReusableParameter Construction} (hp : a.Holds p) : f p.lid ≠ address := by
    have hmapped : (a.map f).Holds (p.map f) := holds_map hp
    rw [← h.map] at hmapped
    exact hfree _ hmapped
  have hold_lid {p : ReusableParameter Construction} (hp : a.Holds p) :
      Function.update f n address p.lid = f p.lid := Function.update_of_ne (hne hp) _ _
  have hnew_lid : Function.update f n address n = address := Function.update_self n _ f
  have hmap : o = a.map (Function.update f n address) :=
    h.map.trans (Objects.map_congr fun p hp => (hold_lid hp).symm)
  have hstep' : statement.step (Function.update f n address n)
      (a.map (Function.update f n address)) = some o' := by
    rw [hnew_lid, ← hmap]
    exact hstep
  rw [step_map] at hstep'
  obtain ⟨a', ha', rfl⟩ := Option.map_eq_some_iff.mp hstep'
  obtain ⟨made, hmade⟩ := exists_constructed statement
  refine ⟨Function.update f n address, Function.update value n made, a', ha', rfl, ?_, ?_, ?_⟩
  · intro p p' hp hp' heq
    obtain hold | ⟨-, -, hlid⟩ := holds_step ha' hp
    · obtain hold' | ⟨-, -, hlid'⟩ := holds_step ha' hp'
      · rw [hold_lid hold, hold_lid hold'] at heq
        exact h.apart p p' hold hold' heq
      · rw [hold_lid hold, hlid', hnew_lid] at heq
        exact absurd heq (hfree' hold)
    · obtain hold' | ⟨-, -, hlid'⟩ := holds_step ha' hp'
      · rw [hold_lid hold', hlid, hnew_lid] at heq
        exact absurd heq.symm (hfree' hold')
      · rw [hlid, hlid']
  · intro p hp
    obtain hold | ⟨-, -, hlid⟩ := holds_step ha' hp
    · exact Nat.lt_succ_of_lt (h.constructed p hold)
    · rw [hlid]
      exact Nat.lt_succ_self n
  · intro p hp
    obtain hold | ⟨x, hstatement, hlid⟩ := holds_step ha' hp
    · rw [Function.update_of_ne (hne hold)]
      exact h.valued p hold
    · rw [hlid, Function.update_self]
      exact hmade x p.value p.type hstatement

/-- Every run has a meaning, in which the parameters are those that the addresses stand for. -/
theorem Reached.refines {program : List Statement} {o : Objects Address} (h : Reached program o) :
    ∃ f value a, meaning program = some a ∧ Refines program.length f value a o := by
  induction h with
  | start =>
    refine ⟨id, fun _ => (⟨false, true, ""⟩, ""), .empty, rfl, rfl, ?_, ?_, ?_⟩
    · exact fun p p' hp => absurd hp not_holds_empty
    · exact fun p hp => absurd hp not_holds_empty
    · exact fun p hp => absurd hp not_holds_empty
  | @next program o o' statement address h hfree hstep ih =>
    obtain ⟨f, value, a, hmeaning, hrefines⟩ := ih
    obtain ⟨f', value', a', hstep', hrefines'⟩ := hrefines.step hfree hstep
    refine ⟨f', value', a', ?_, ?_⟩
    · rw [meaning_concat, hmeaning]
      exact hstep'
    · rw [List.length_append]
      exact hrefines'

/-- A program that has a meaning can be run, each parameter at an address of its own. -/
theorem reached_of_meaning {program : List Statement} {a : Objects Construction}
    (h : meaning program = some a) : Reached program a := by
  suffices hreached : Reached program a ∧ ∀ p, a.Holds p → p.lid < program.length from hreached.1
  induction program using List.reverseRecOn generalizing a with
  | nil =>
    obtain rfl := Option.some.inj h
    exact ⟨.start, fun p hp => absurd hp not_holds_empty⟩
  | append_singleton program statement ih =>
    rw [meaning_concat] at h
    obtain ⟨before, hbefore, hstep⟩ := Option.bind_eq_some_iff.mp h
    obtain ⟨hreached, hconstructed⟩ := ih hbefore
    refine ⟨hreached.next (fun p hp => Nat.ne_of_lt (hconstructed p hp)) hstep, fun p hp => ?_⟩
    rw [List.length_append, List.length_singleton]
    obtain hold | ⟨-, -, hlid⟩ := holds_step hstep hp
    · exact Nat.lt_succ_of_lt (hconstructed p hold)
    · rw [hlid]
      exact Nat.lt_succ_self _

def Objects.lids (o : Objects ι) : Set ι := { lid | ∃ p, o.Holds p ∧ p.lid = lid }

/-- The addresses of a query have the values of the parameters that they stand for. -/
theorem Refines.exists_valued {n : Nat} {f : Construction → Address}
    {value : Construction → QueryParam × String} {a : Objects Construction} {o : Objects Address}
    {q : Nat} {parts : ParamQuery Construction} (h : Refines n f value a o)
    (hparts : a.queries q = some parts) :
    ∃ value', ∀ e ∈ parts.map (·.map f), Valued value' e := by
  have hheld {val : QueryParam} {type : String} {lid : Construction}
      (hmem : .paramRepeatable val type lid ∈ parts) : a.Holds ⟨val, type, lid⟩ :=
    .inr ⟨q, parts, hparts, hmem⟩
  have hinj : Set.InjOn f a.lids := by
    rintro lid ⟨p, hp, rfl⟩ lid' ⟨p', hp', rfl⟩ heq
    exact h.apart p p' hp hp' heq
  refine ⟨value ∘ Function.invFunOn f a.lids, fun e he val type address heq => ?_⟩
  subst heq
  obtain ⟨part, hpart, hmap⟩ := List.mem_map.mp he
  cases part with
  | string s => cases hmap
  | param v t => cases hmap
  | paramRepeatable val' type' lid =>
    obtain ⟨rfl, rfl, rfl⟩ := Element.paramRepeatable.inj hmap
    have hlid : lid ∈ a.lids := ⟨_, hheld hpart, rfl⟩
    rw [Function.comp_apply, hinj.leftInvOn_invFunOn hlid]
    exact h.valued _ (hheld hpart)

/-- Every query of a process is composed of its parts, with one entry of the list for each reusable
parameter however often it was added. -/
theorem get_query_composes {program : List Statement} {o : Objects Address} {q : Nat}
    {query : ParamQuery Address} (h : Reached program o) (hquery : o.queries q = some query) :
    ∃ a parts built segments, meaning program = some a ∧ a.queries q = some parts ∧
      query.getQuery = .ok built ∧ Composes parts built segments := by
  obtain ⟨f, value, a, hmeaning, hrefines⟩ := h.refines
  rw [hrefines.map, queries_map] at hquery
  obtain ⟨parts, hparts, rfl⟩ := Option.map_eq_some_iff.mp hquery
  obtain ⟨value', hvalued⟩ := hrefines.exists_valued hparts
  obtain ⟨b, segments, owners, hbuild, hbuilt⟩ := exists_built hvalued
  refine ⟨a, parts, b.toQuery, segments, hmeaning, hparts, ?_, hbuilt.composes.of_map ?_⟩
  · rw [ParamQuery.getQuery, hbuild]
    rfl
  · intro val type val' type' lid lid' hmem hmem'
    exact hrefines.apart ⟨val, type, lid⟩ ⟨val', type', lid'⟩ (.inr ⟨q, parts, hparts, hmem⟩)
      (.inr ⟨q, parts, hparts, hmem'⟩)

/-- A parameter is added twice, once in a query that is then added to the other one. -/
def sampleProgram : List Statement :=
  [.reusableParameter 0 ⟨false, false, "7"⟩ "bigint", .paramQueryOf 0 "SELECT ",
    .paramReusable 0 0, .paramQueryOf 1 " + ", .paramBigint 1 ⟨false, false, "1"⟩,
    .addString 1 " + ", .paramReusable 1 0, .addQuery 0 1]

def sampleQuery : ParamQuery Address :=
  [.string "SELECT ", .paramRepeatable ⟨false, false, "7"⟩ "bigint" 0, .string " + ",
    .param ⟨false, false, "1"⟩ "bigint", .string " + ",
    .paramRepeatable ⟨false, false, "7"⟩ "bigint" 0]

theorem get_query_composes_sampleProgram : ∃ a parts built segments,
    meaning sampleProgram = some a ∧ a.queries 0 = some parts ∧
      sampleQuery.getQuery = .ok built ∧ Composes parts built segments :=
  get_query_composes (reached_of_meaning rfl) rfl

example : sampleQuery.getQuery = .ok ⟨"SELECT $1::bigint + $2::bigint + $1::bigint",
    [⟨false, false, "7"⟩, ⟨false, false, "1"⟩]⟩ := rfl

end LibFred.Database
