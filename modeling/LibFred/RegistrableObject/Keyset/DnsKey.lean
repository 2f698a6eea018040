import LibFred.Cpp.StdSet
import LibFred.Util.Printable
import Mathlib.Data.String.Basic

/-! DNSKEY records of keysets. -/
namespace LibFred.RegistrableObject.Keyset

open Util

structure DnsKey where
  flags : UInt16
  protocol : UInt16
  alg : UInt16
  key : String
  deriving DecidableEq

namespace DnsKey

variable {lhs rhs : DnsKey}

def isspace (c : Char) : Bool := c = ' ' || ('\t' ≤ c && c ≤ '\r')

/-- The constructor, which erases spaces in the key. -/
def new (flags protocol alg : UInt16) (key : String) : DnsKey :=
  ⟨flags, protocol, alg, String.ofList (key.toList.filter (!isspace ·))⟩

def toString (k : DnsKey) : String :=
  formatDataStructure "DnsKey"
    [("flags", k.flags.toNat.repr), ("protocol", k.protocol.toNat.repr),
      ("alg", k.alg.toNat.repr), ("key", k.key)]

/-- operator==. -/
def equal (lhs rhs : DnsKey) : Bool :=
  lhs.flags == rhs.flags && lhs.protocol == rhs.protocol && lhs.alg == rhs.alg &&
    lhs.key == rhs.key

/-- operator<, which compares the printed records. -/
def less (lhs rhs : DnsKey) : Bool := lhs.toString < rhs.toString

theorem toList_toString (k : DnsKey) :
    k.toString.toList = (" " ++ "DnsKey").toList ++ ' ' :: ("flags".toList ++ ':' :: ' ' ::
      (Nat.toDigits 10 k.flags.toNat ++ ' ' :: ("protocol".toList ++ ':' :: ' ' ::
        (Nat.toDigits 10 k.protocol.toNat ++ ' ' :: ("alg".toList ++ ':' :: ' ' ::
          (Nat.toDigits 10 k.alg.toNat ++ ' ' :: ("key".toList ++ ':' :: valueText k.key))))))) := by
  simp only [toString, formatDataStructure, List.foldl_cons, List.foldl_nil]
  rw [toList_addPair (by decide), toList_addPair (by decide), toList_addPair (by decide),
    toList_addPair (by decide)]
  simp only [valueText_repr, List.append_assoc, List.cons_append]

/-- Different records are printed differently. -/
theorem toString_injective (h : lhs.toString = rhs.toString) : lhs = rhs := by
  have hsep : ¬ ' '.isDigit := by decide
  have hlist := congrArg String.toList h
  rw [toList_toString, toList_toString] at hlist
  simp only [List.append_cancel_left_eq, List.cons.injEq, true_and] at hlist
  obtain ⟨hflags, hlist⟩ := toDigits_append_inj hsep hlist
  simp only [List.append_cancel_left_eq, List.cons.injEq, true_and] at hlist
  obtain ⟨hprotocol, hlist⟩ := toDigits_append_inj hsep hlist
  simp only [List.append_cancel_left_eq, List.cons.injEq, true_and] at hlist
  obtain ⟨halg, hlist⟩ := toDigits_append_inj hsep hlist
  simp only [List.append_cancel_left_eq, List.cons.injEq, true_and] at hlist
  have hkey := valueText_injective hlist
  cases lhs
  cases rhs
  simp_all [UInt16.toNat_inj]

theorem equal_iff (lhs rhs : DnsKey) : equal lhs rhs ↔ lhs.toString = rhs.toString := by
  constructor
  · intro h
    simp only [equal, Bool.and_eq_true, beq_iff_eq] at h
    cases lhs; cases rhs
    simp_all
  · intro h
    cases toString_injective h
    simp [equal]

theorem less_iff (lhs rhs : DnsKey) : less lhs rhs ↔ lhs.toString < rhs.toString := by
  simp [less]

end DnsKey

/-- Comparison of the std::sets of the keys of two lists. -/
def equalAsSets (lhs rhs : List DnsKey) : Bool :=
  StdSet.beq DnsKey.equal (StdSet.ofList DnsKey.less lhs) (StdSet.ofList DnsKey.less rhs)

@[simp] theorem equalAsSets_iff {lhs rhs : List DnsKey} :
    equalAsSets lhs rhs ↔ ∀ key, key ∈ lhs ↔ key ∈ rhs := by
  rw [equalAsSets, StdSet.beq_ofList_iff DnsKey.less_iff DnsKey.equal_iff]
  have hmem : ∀ (l : List DnsKey) (key : DnsKey), key.toString ∈ l.map DnsKey.toString ↔ key ∈ l :=
    fun l key => List.mem_map_of_injective fun _ _ => DnsKey.toString_injective
  constructor
  · intro h key
    rw [← hmem lhs, ← hmem rhs, h]
  · intro h x
    simp only [List.mem_map, h]

end LibFred.RegistrableObject.Keyset
