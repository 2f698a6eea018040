import LibFred.Sql.Table
import Mathlib.Data.List.Basic
import Mathlib.Data.List.Forall2
import Mathlib.Data.List.Induction
import Mathlib.Data.List.Nodup

/-! UPDATE statements whose SET list is put together part by part, with numbered parameters. -/
namespace Sql

/-- What a column is set to: an expression of the form, around a parameter. -/
structure SetPart (Column Form Param : Type) where
  column : Column
  form : Form
  param : Param

/-- A part as it stands in the list, where a number stands for its parameter. -/
structure SetItem (Column Form : Type) where
  column : Column
  form : Form
  number : Nat

/-- The statement as far as it is put together. -/
structure SetList (Column Form Param : Type) where
  params : List Param
  items : List (SetItem Column Form)

namespace SetList

variable {Column Form Param Row : Type} {q : SetList Column Form Param} {params : List Param}
  {parts : List (SetPart Column Form Param)} {part : SetPart Column Form Param}
  {render : SetItem Column Form → String}

/-- The parameter of a number, which are counted from one. -/
def param? (q : SetList Column Form Param) : Nat → Option Param
  | 0 => none
  | n + 1 => q.params[n]?

/-- The number of an item is the size of the list of parameters once its own is added. -/
def push (q : SetList Column Form Param) (part : SetPart Column Form Param) :
    SetList Column Form Param where
  params := q.params ++ [part.param]
  items := q.items ++ [⟨part.column, part.form, q.params.length + 1⟩]

def ofParts (params : List Param) (parts : List (SetPart Column Form Param)) :
    SetList Column Form Param :=
  parts.foldl push ⟨params, []⟩

/-- The text as it is written item by item, each with a comma behind it. -/
def text (render : SetItem Column Form → String) (q : SetList Column Form Param) : String :=
  String.join (q.items.map fun item => render item ++ ",")

/-- `substr(0, length() - 1)` -/
def withoutLast (s : String) : String := String.ofList s.toList.dropLast

/-- What the database makes of the statement: every value is computed from the row before the
update, and a column that is assigned twice or a parameter that is missing is an error. -/
def run [DecidableEq Column] (assign : Column → Form → Param → Row → Row → Option Row)
    (q : SetList Column Form Param) (old : Row) : Option Row :=
  if (q.items.map SetItem.column).Nodup then
    q.items.foldlM (fun row item => (q.param? item.number).bind fun p =>
      assign item.column item.form p old row) old
  else none

/-- The item stands for the part. -/
def StandsFor (q : SetList Column Form Param) (part : SetPart Column Form Param)
    (item : SetItem Column Form) : Prop :=
  item.column = part.column ∧ item.form = part.form ∧ q.param? item.number = some part.param

theorem param?_push {n : Nat} {p : Param} (h : q.param? n = some p) :
    (q.push part).param? n = some p := by
  cases n with
  | zero => cases h
  | succ n =>
    change q.params[n]? = some p at h
    change (q.params ++ [part.param])[n]? = some p
    obtain ⟨hlt, -⟩ := List.getElem?_eq_some_iff.mp h
    rw [List.getElem?_append_left hlt]
    exact h

theorem StandsFor.push {item : SetItem Column Form} {part' : SetPart Column Form Param}
    (h : q.StandsFor part item) : (q.push part').StandsFor part item :=
  ⟨h.1, h.2.1, param?_push h.2.2⟩

/-- The induction is on the parts from the last one; the numbers given before stay valid. -/
theorem forall₂_ofParts (params : List Param) (parts : List (SetPart Column Form Param)) :
    List.Forall₂ (ofParts params parts).StandsFor parts (ofParts params parts).items := by
  induction parts using List.reverseRecOn with
  | nil => exact .nil
  | append_singleton parts part ih =>
    have hpush : ofParts params (parts ++ [part]) = (ofParts params parts).push part := by
      simp [ofParts]
    rw [hpush]
    refine List.rel_append (ih.imp fun _ _ h => h.push) (.cons ⟨rfl, rfl, ?_⟩ .nil)
    exact List.getElem?_concat_length

theorem map_column_of_forall₂ {items : List (SetItem Column Form)}
    (h : List.Forall₂ q.StandsFor parts items) :
    items.map SetItem.column = parts.map SetPart.column := by
  induction h with
  | nil => rfl
  | cons hitem _ ih => rw [List.map_cons, List.map_cons, hitem.1, ih]

theorem foldlM_of_forall₂ [DecidableEq Column]
    {assign : Column → Form → Param → Row → Row → Option Row} {items : List (SetItem Column Form)}
    {old : Row} (h : List.Forall₂ q.StandsFor parts items) (row : Row) :
    items.foldlM (fun row item => (q.param? item.number).bind fun p =>
        assign item.column item.form p old row) row =
      parts.foldlM (fun row part => assign part.column part.form part.param old row) row := by
  induction h generalizing row with
  | nil => rfl
  | cons hitem _ ih =>
    obtain ⟨hcolumn, hform, hparam⟩ := hitem
    rw [List.foldlM_cons, List.foldlM_cons, hcolumn, hform, hparam]
    exact congrArg _ (funext ih)

/-- Numbers do not matter for what the statement does. -/
theorem run_ofParts [DecidableEq Column] (assign : Column → Form → Param → Row → Row → Option Row)
    (old : Row) : (ofParts params parts).run assign old =
      if (parts.map SetPart.column).Nodup then
        parts.foldlM (fun row part => assign part.column part.form part.param old row) old
      else none := by
  have h := forall₂_ofParts params parts
  rw [run, map_column_of_forall₂ h, foldlM_of_forall₂ h]

/-- The database accepts the statement: something is set, no column twice, and every number is that
of a parameter. -/
structure WellFormed (q : SetList Column Form Param) : Prop where
  nonempty : q.items ≠ []
  once : (q.items.map SetItem.column).Nodup
  bound : ∀ item ∈ q.items, ∃ p, q.param? item.number = some p

theorem wellFormed_ofParts : (ofParts params parts).WellFormed ↔
    parts ≠ [] ∧ (parts.map SetPart.column).Nodup := by
  have h := forall₂_ofParts params parts
  have hcolumns := map_column_of_forall₂ h
  constructor
  · intro hq
    refine ⟨?_, hcolumns ▸ hq.once⟩
    rintro rfl
    exact hq.nonempty (List.forall₂_nil_left_iff.mp h)
  · rintro ⟨hne, honce⟩
    refine ⟨?_, hcolumns ▸ honce, fun item hitem => ?_⟩
    · intro hempty
      rw [hempty] at h
      exact hne (List.forall₂_nil_right_iff.mp h)
    · obtain ⟨part, -, hpart⟩ := exists_of_forall₂ h hitem
      exact ⟨part.param, hpart.2.2⟩

/-- Without its last comma the text is the items with commas between them. -/
theorem withoutLast_text (render : SetItem Column Form → String) (q : SetList Column Form Param) :
    withoutLast (q.text render) = ",".intercalate (q.items.map render) := by
  rw [← String.toList_inj, withoutLast, String.toList_ofList, text, String.toList_join,
    String.toList_intercalate, List.map_map]
  induction q.items with
  | nil => rfl
  | cons item items ih =>
    cases items with
    | nil => simp
    | cons next items =>
      simp only [List.map_cons, List.flatMap_cons] at ih ⊢
      rw [List.dropLast_append_of_ne_nil (by simp), ih]
      simp [List.intercalate]

end SetList

end Sql
