import LibFred.Cpp.OrderedMap

/-! Queries that are composed of texts, parameters and other queries. -/
namespace LibFred.Database

structure QueryParam where
  binary : Bool
  null : Bool
  buffer : String
  deriving DecidableEq

/-- A parameter that may be added repeatedly. It is known by its identification only. -/
@[ext] structure ReusableParameter (ι : Type) where
  value : QueryParam
  type : String
  lid : ι

/-- Each element of a query has one of these tags. -/
inductive Element (ι : Type)
  | string (val : String)
  | param (val : QueryParam) (pgTypname : String)
  | paramRepeatable (val : QueryParam) (pgTypname : String) (lid : ι)

abbrev ParamQuery (ι : Type) := List (Element ι)

variable {ι : Type}

namespace ParamQuery

def ofString (val : String) : ParamQuery ι := [.string val]

def addQuery (query val : ParamQuery ι) : ParamQuery ι := query ++ val

def addString (query : ParamQuery ι) (val : String) : ParamQuery ι := query ++ [.string val]

def param (query : ParamQuery ι) (val : QueryParam) (pgTypname : String) : ParamQuery ι :=
  query ++ [.param val pgTypname]

def paramReusable (query : ParamQuery ι) (p : ReusableParameter ι) : ParamQuery ι :=
  query ++ [.paramRepeatable p.value p.type p.lid]

end ParamQuery

structure Query where
  text : String
  params : List QueryParam

section

/-- The query so far and the positions of the reusable parameters that are in its list. -/
structure Building (ι : Type) extends Query where
  paramLidPosition : List (ι × String)

variable [LinearOrder ι]

def insertPosition (lid : ι) (pos : String) (positions : List (ι × String)) :
    Option (List (ι × String)) :=
  if (OrderedMap.find lid positions).isSome then none else some (OrderedMap.set lid pos positions)

/-- Puts a value at the end of the list and tells its position, beginning from 1. -/
def Building.add (b : Building ι) (val : QueryParam) : Building ι × String :=
  ({ b with params := b.params ++ [val] }, toString (b.params.length + 1))

def Building.refer (b : Building ι) (pos type : String) : Building ι :=
  { b with text := b.text ++ "$" ++ pos ++ "::" ++ type }

def Building.addElement (b : Building ι) : Element ι → Except String (Building ι)
  | .string val => .ok { b with text := b.text ++ val }
  | .param val pgTypname => .ok ((b.add val).1.refer (b.add val).2 pgTypname)
  | .paramRepeatable val pgTypname lid =>
    match OrderedMap.find lid b.paramLidPosition with
    | some pos => .ok (b.refer pos pgTypname)
    | none =>
      match insertPosition lid (b.add val).2 b.paramLidPosition with
      | none => .error "ParamQuery::Element::PQE_PARAM_REPETABLE insert failed"
      | some positions =>
        .ok ({ (b.add val).1 with paramLidPosition := positions }.refer (b.add val).2 pgTypname)

def ParamQuery.build (query : ParamQuery ι) : Except String (Building ι) :=
  query.foldlM Building.addElement ⟨⟨"", []⟩, []⟩

def ParamQuery.getQuery (query : ParamQuery ι) : Except String Query := do
  let b ← query.build
  return b.toQuery

end

/-- The parameters and the queries of a process, by their names. -/
structure Objects (ι : Type) where
  parameters : Nat → Option (ReusableParameter ι)
  queries : Nat → Option (ParamQuery ι)

namespace Objects

def empty : Objects ι := ⟨fun _ => none, fun _ => none⟩

def setParameter (o : Objects ι) (x : Nat) (p : Option (ReusableParameter ι)) : Objects ι :=
  { o with parameters := fun y => if y = x then p else o.parameters y }

def setQuery (o : Objects ι) (q : Nat) (query : Option (ParamQuery ι)) : Objects ι :=
  { o with queries := fun r => if r = q then query else o.queries r }

end Objects

/-- What a process does with queries and their parameters. -/
inductive Statement
  | reusableParameter (x : Nat) (value : QueryParam) (type : String)
  | copyParameter (x y : Nat)
  | dropParameter (x : Nat)
  | paramQuery (q : Nat)
  | paramQueryOf (q : Nat) (val : String)
  | copyQuery (q r : Nat)
  | dropQuery (q : Nat)
  | addQuery (q r : Nat)
  | addString (q : Nat) (val : String)
  | param (q : Nat) (val : QueryParam) (pgTypname : String)
  | paramReusable (q x : Nat)

namespace Statement

def paramBigint (q : Nat) (val : QueryParam) : Statement := .param q val "bigint"
def paramUuid (q : Nat) (val : QueryParam) : Statement := .param q val "uuid"
def paramNumeric (q : Nat) (val : QueryParam) : Statement := .param q val "numeric"
def paramText (q : Nat) (val : QueryParam) : Statement := .param q val "text"
def paramTimestamp (q : Nat) (val : QueryParam) : Statement := .param q val "timestamp"
def paramDate (q : Nat) (val : QueryParam) : Statement := .param q val "date"
def paramBool (q : Nat) (val : QueryParam) : Statement := .param q val "bool"

/-- A reusable parameter that is constructed gets the identification `lid`. -/
def step (lid : ι) : Statement → Objects ι → Option (Objects ι)
  | .reusableParameter x value type, o => some (o.setParameter x (some ⟨value, type, lid⟩))
  | .copyParameter x y, o => (o.parameters y).map fun p => o.setParameter x (some p)
  | .dropParameter x, o => some (o.setParameter x none)
  | .paramQuery q, o => some (o.setQuery q (some []))
  | .paramQueryOf q val, o => some (o.setQuery q (some (.ofString val)))
  | .copyQuery q r, o => (o.queries r).map fun query => o.setQuery q (some query)
  | .dropQuery q, o => some (o.setQuery q none)
  | .addQuery q r, o =>
    -- A vector must not be inserted into itself.
    if q = r then none
    else (o.queries q).bind fun query => (o.queries r).map fun val =>
      o.setQuery q (some (query.addQuery val))
  | .addString q val, o => (o.queries q).map fun query => o.setQuery q (some (query.addString val))
  | .param q val pgTypname, o =>
    (o.queries q).map fun query => o.setQuery q (some (query.param val pgTypname))
  | .paramReusable q x, o => (o.queries q).bind fun query => (o.parameters x).map fun p =>
      o.setQuery q (some (query.paramReusable p))

end Statement

/-- The parameter, or a copy of it, is in the process. -/
def Objects.Holds (o : Objects ι) (p : ReusableParameter ι) : Prop :=
  (∃ x, o.parameters x = some p) ∨
    ∃ q query, o.queries q = some query ∧ .paramRepeatable p.value p.type p.lid ∈ query

/-- Identifications are addresses, which are free again when no copy of a parameter is left. -/
abbrev Address := Nat

inductive Reached : List Statement → Objects Address → Prop
  | start : Reached [] .empty
  | next {program : List Statement} {o o' : Objects Address} {statement : Statement}
      {address : Address} (h : Reached program o) (hfree : ∀ p, o.Holds p → p.lid ≠ address)
      (hstep : statement.step address o = some o') : Reached (program ++ [statement]) o'

/-- The statement, by its place in the program, that constructed a parameter. -/
abbrev Construction := Nat

/-- What the queries of a process are composed of. -/
def meaning (program : List Statement) : Option (Objects Construction) :=
  program.zipIdx.foldlM (fun o statement => statement.1.step statement.2 o) .empty

end LibFred.Database
