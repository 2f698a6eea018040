import LibFred.Cpp.StdString
import Mathlib.Data.Finset.Dedup

/-! Passwords that are generated, and their own rules. -/
namespace LibFred.Object

open Cpp (StdString)

/-- The string literal. -/
def allowedChars : StdString := "ABCDEFGHJKLMNPQRSTUVWXYZabcdefghjkmnpqrstuvwxyz23456789".toList

/-- The array that holds the literal; it ends with a zero. -/
def getCharsAllowedInGeneratedAuthinfopw : List Char := allowedChars ++ [Cpp.nul]

inductive PasswordException
  | invalidGeneratedAuthInfoPassword
  | invalidArgument (what : String)
  deriving DecidableEq

namespace GeneratedAuthInfoPassword

def minLength : Nat := 8

def maxLength : Nat := 300

/-- The set of all elements of the array. -/
def getAllowedChars : Finset Char := getCharsAllowedInGeneratedAuthinfopw.toFinset

/-- What the constructor checks. -/
def Valid (password : StdString) : Prop :=
  ¬ (password.length < minLength ∨ maxLength < password.length) ∧ ∀ c ∈ password, c ∈ getAllowedChars

instance (password : StdString) : Decidable (Valid password) := by
  unfold Valid
  infer_instance

end GeneratedAuthInfoPassword

structure GeneratedAuthInfoPassword where
  password : StdString
  valid : GeneratedAuthInfoPassword.Valid password

/-- The constructor. -/
def GeneratedAuthInfoPassword.new (password : StdString) :
    Except PasswordException GeneratedAuthInfoPassword :=
  if h : Valid password then return ⟨password, h⟩ else throw .invalidGeneratedAuthInfoPassword

/-- std::uniform_int_distribution on a random engine with states of `σ`. -/
structure RandomEngine (σ : Type) where
  uniformInt (min max : Nat) : min ≤ max → σ → {n : Nat // min ≤ n ∧ n ≤ max} × σ

/-- UniformDistribution. -/
structure UniformDistribution where
  min : Nat
  max : Nat
  interval : min ≤ max

def UniformDistribution.new (min max : Nat) : Except PasswordException UniformDistribution :=
  if h : min ≤ max then return ⟨min, max, h⟩ else throw (.invalidArgument "incorrect bounds order")

theorem UniformDistribution.new_eq_ok {min max : Nat} {d : UniformDistribution}
    (h : UniformDistribution.new min max = .ok d) : d.max = max := by
  unfold UniformDistribution.new at h
  split at h
  · cases h
    rfl
  · cases h

/-- RandomElementSelector; of an array of characters it does not select the last one. -/
structure RandomElementSelector where
  src : List Char
  offsetGenerator : UniformDistribution
  bound : offsetGenerator.max < src.length

/-- The arrays have two elements at least. -/
def RandomElementSelector.new (sourceSet : List Char) (h : 1 < sourceSet.length) :
    Except PasswordException RandomElementSelector :=
  match hd : UniformDistribution.new 0 (sourceSet.length - 2) with
  | .ok d => return ⟨sourceSet, d, by rw [UniformDistribution.new_eq_ok hd]; omega⟩
  | .error e => throw e

variable {σ : Type} (engine : RandomEngine σ)

def RandomElementSelector.select (selector : RandomElementSelector) : StateM σ Char := fun s =>
  let drawn := engine.uniformInt selector.offsetGenerator.min selector.offsetGenerator.max
    selector.offsetGenerator.interval s
  (selector.src.get ⟨drawn.1.1, lt_of_le_of_lt drawn.1.2.2 selector.bound⟩, drawn.2)

/-- SequenceGenerator. -/
def RandomElementSelector.sequence (selector : RandomElementSelector) : Nat → StateM σ StdString
  | 0 => return []
  | n + 1 => do
    let c ← selector.select engine
    let rest ← selector.sequence n
    return c :: rest

theorem one_lt_length_allowed : 1 < getCharsAllowedInGeneratedAuthinfopw.length := by decide

/-- What the random engine yields together with its next state. -/
def generateAuthinfoPw (s : σ) : Except PasswordException (GeneratedAuthInfoPassword × σ) := do
  let authinfoPwLength := 8
  let selector ← RandomElementSelector.new getCharsAllowedInGeneratedAuthinfopw one_lt_length_allowed
  let drawn := selector.sequence engine authinfoPwLength s
  let password ← GeneratedAuthInfoPassword.new drawn.1
  return (password, drawn.2)

/-- A password of the rules: 8 to 300 visible letters and digits. -/
def IsGenerated (password : StdString) : Prop :=
  8 ≤ password.length ∧ password.length ≤ 300 ∧ ∀ c ∈ password, c ∈ allowedChars

theorem mem_getAllowedChars {c : Char} :
    c ∈ GeneratedAuthInfoPassword.getAllowedChars ↔ c ∈ allowedChars ∨ c = Cpp.nul := by
  simp only [GeneratedAuthInfoPassword.getAllowedChars, getCharsAllowedInGeneratedAuthinfopw,
    List.mem_toFinset, List.mem_append, List.mem_singleton]

/-- The set of the characters has the zero at the end of the array as well. -/
theorem valid_iff {password : StdString} : GeneratedAuthInfoPassword.Valid password ↔
    8 ≤ password.length ∧ password.length ≤ 300 ∧ ∀ c ∈ password, c ∈ allowedChars ∨ c = Cpp.nul := by
  unfold GeneratedAuthInfoPassword.Valid GeneratedAuthInfoPassword.minLength
    GeneratedAuthInfoPassword.maxLength
  simp only [mem_getAllowedChars]
  constructor
  · rintro ⟨hlength, hchars⟩
    exact ⟨by omega, by omega, hchars⟩
  · rintro ⟨hmin, hmax, hchars⟩
    exact ⟨by omega, hchars⟩

theorem nul_notMem_allowedChars : Cpp.nul ∉ allowedChars := by decide

theorem IsGenerated.valid {password : StdString} (h : IsGenerated password) :
    GeneratedAuthInfoPassword.Valid password := by
  obtain ⟨hmin, hmax, hchars⟩ := h
  exact valid_iff.mpr ⟨hmin, hmax, fun c hc => .inl (hchars c hc)⟩

theorem new_eq_ok {password : StdString} :
    (∃ p, GeneratedAuthInfoPassword.new password = .ok p) ↔ GeneratedAuthInfoPassword.Valid password := by
  unfold GeneratedAuthInfoPassword.new
  split
  · rename_i h
    exact ⟨fun _ => h, fun _ => ⟨_, rfl⟩⟩
  · rename_i h
    exact ⟨nofun, fun hv => (h hv).elim⟩

/-- A selector of this array never selects its last element. -/
theorem exists_selector : ∃ selector : RandomElementSelector,
    RandomElementSelector.new getCharsAllowedInGeneratedAuthinfopw one_lt_length_allowed = .ok selector ∧
      selector.src = getCharsAllowedInGeneratedAuthinfopw ∧
      selector.offsetGenerator.max < allowedChars.length :=
  ⟨⟨_, ⟨0, _, Nat.zero_le _⟩, by decide⟩, rfl, rfl, by decide⟩

theorem select_mem {selector : RandomElementSelector}
    (hsrc : selector.src = getCharsAllowedInGeneratedAuthinfopw)
    (hmax : selector.offsetGenerator.max < allowedChars.length) (s : σ) :
    (selector.select engine s).1 ∈ allowedChars := by
  obtain ⟨src, d, hbound⟩ := selector
  dsimp only at hsrc hmax
  subst hsrc
  have hdrawn := (engine.uniformInt d.min d.max d.interval s).1.2.2
  have hlt : (engine.uniformInt d.min d.max d.interval s).1.1 < allowedChars.length := by omega
  simp only [RandomElementSelector.select, List.get_eq_getElem, getCharsAllowedInGeneratedAuthinfopw]
  rw [List.getElem_append_left hlt]
  exact List.getElem_mem hlt

theorem sequence_spec {selector : RandomElementSelector}
    (hsrc : selector.src = getCharsAllowedInGeneratedAuthinfopw)
    (hmax : selector.offsetGenerator.max < allowedChars.length) (n : Nat) (s : σ) :
    (selector.sequence engine n s).1.length = n ∧
      ∀ c ∈ (selector.sequence engine n s).1, c ∈ allowedChars := by
  induction n generalizing s with
  | zero => exact ⟨rfl, nofun⟩
  | succ n ih =>
    obtain ⟨hlength, hchars⟩ := ih (selector.select engine s).2
    refine ⟨congrArg (· + 1) hlength, fun c hc => ?_⟩
    rcases List.mem_cons.mp hc with rfl | hc
    · exact select_mem engine hsrc hmax s
    · exact hchars c hc

/-- Whatever the random engine yields, a password is generated. -/
theorem generateAuthinfoPw_spec (s : σ) :
    ∃ p s', generateAuthinfoPw engine s = .ok (p, s') ∧ IsGenerated p.password := by
  obtain ⟨selector, hselector, hsrc, hmax⟩ := exists_selector
  obtain ⟨hlength, hchars⟩ := sequence_spec engine hsrc hmax 8 s
  have hgenerated : IsGenerated (selector.sequence engine 8 s).1 :=
    ⟨hlength.ge, by rw [hlength]; decide, hchars⟩
  have hnew : GeneratedAuthInfoPassword.new (selector.sequence engine 8 s).1 =
      .ok ⟨_, hgenerated.valid⟩ := dif_pos hgenerated.valid
  refine ⟨⟨_, hgenerated.valid⟩, (selector.sequence engine 8 s).2, ?_, hgenerated⟩
  unfold generateAuthinfoPw
  rw [hselector]
  simp only [bind, Except.bind, pure, Except.pure, hnew]

/-- The constructor takes the password exactly when the rules allow it, and what is generated
follows the rules. -/
def FollowsRules (password : StdString) : Prop :=
  ((∃ p, GeneratedAuthInfoPassword.new password = .ok p) ↔ IsGenerated password) ∧
    ∀ (σ : Type) (engine : RandomEngine σ) (s : σ),
      ∃ p s', generateAuthinfoPw engine s = .ok (p, s') ∧ IsGenerated p.password

/-- The constructor also takes zeros among the allowed characters. -/
theorem generated_password_rules (password : StdString) :
    FollowsRules password ↔
      ¬ (8 ≤ password.length ∧ password.length ≤ 300 ∧ Cpp.nul ∈ password ∧
        ∀ c ∈ password, c ≠ Cpp.nul → c ∈ allowedChars) := by
  unfold FollowsRules
  rw [and_iff_left fun σ engine s => generateAuthinfoPw_spec engine s, new_eq_ok, valid_iff]
  constructor
  · rintro h ⟨hmin, hmax, hnul, hchars⟩
    have hvalid : ∀ c ∈ password, c ∈ allowedChars ∨ c = Cpp.nul := by
      intro c hc
      by_cases hz : c = Cpp.nul
      · exact .inr hz
      · exact .inl (hchars c hc hz)
    exact nul_notMem_allowedChars ((h.mp ⟨hmin, hmax, hvalid⟩).2.2 _ hnul)
  · intro h
    refine ⟨fun ⟨hmin, hmax, hchars⟩ => ⟨hmin, hmax, fun c hc => ?_⟩,
      fun ⟨hmin, hmax, hchars⟩ => ⟨hmin, hmax, fun c hc => .inl (hchars c hc)⟩⟩
    rcases hchars c hc with hallowed | rfl
    · exact hallowed
    · exact (h ⟨hmin, hmax, hc, fun c hc hz => (hchars c hc).resolve_right hz⟩).elim

/-- Seven letters and a zero. -/
theorem not_generated_password_rules : ¬ ∀ password : StdString, FollowsRules password := by
  intro h
  have hvalid : GeneratedAuthInfoPassword.Valid ("AAAAAAA".toList ++ [Cpp.nul]) :=
    valid_iff.mpr (by decide)
  have hgenerated := (h _).1.mp (new_eq_ok.mpr hvalid)
  exact nul_notMem_allowedChars (hgenerated.2.2 _ (by decide))

end LibFred.Object
