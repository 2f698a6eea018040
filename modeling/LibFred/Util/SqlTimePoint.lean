import LibFred.Cpp.StdString

/-! Time points of std::chrono as the texts that they are written to the database as. -/
namespace LibFred.SqlConvert

open Cpp

/-- What a signed number of 64 bits keeps. -/
def toInt64 (n : Int) : Int :=
  (n + 9223372036854775808) % 18446744073709551616 - 9223372036854775808

def InInt64 (n : Int) : Prop := -9223372036854775808 ≤ n ∧ n ≤ 9223372036854775807

theorem toInt64_range (n : Int) : InInt64 (toInt64 n) := by
  unfold InInt64 toInt64
  omega

theorem toInt64_of_inInt64 {n : Int} (h : InInt64 n) : toInt64 n = n := by
  unfold InInt64 at h
  unfold toInt64
  omega

/-- A std::chrono::time_point of the system clock, in nanoseconds since 1970. -/
@[ext] structure TimePoint where
  count : Int
  inInt64 : InInt64 count
  deriving DecidableEq

namespace TimePoint

def min : TimePoint := ⟨-9223372036854775808, by unfold InInt64; omega⟩

def max : TimePoint := ⟨9223372036854775807, by unfold InInt64; omega⟩

def ofNanoseconds (n : Int) : TimePoint := ⟨toInt64 n, toInt64_range n⟩

end TimePoint

/-- Formatting and parsing of posix times, which are counted in microseconds since 1970. -/
structure PosixTime where
  toIsoExtendedString : Int → StdString
  timeFromString : StdString → Option Int

def replaceFirst (c d : Char) : StdString → StdString
  | [] => []
  | a :: s => if a = c then d :: s else a :: replaceFirst c d s

def replaceLast (c d : Char) (s : StdString) : StdString := (replaceFirst c d s.reverse).reverse

/-- SqlConvert<boost::posix_time::ptime>::to. -/
def ptimeTo (boost : PosixTime) (ticks : Int) : StdString :=
  replaceLast ',' '.' (replaceFirst 'T' ' ' (boost.toIsoExtendedString ticks))

/-- SqlConvert<boost::posix_time::ptime>::from. -/
def ptimeFrom (boost : PosixTime) (src : StdString) : Option Int := boost.timeFromString src

def hours (n : Int) : Int := n * 3600000000

def seconds (n : Int) : Int := n * 1000000

def microseconds (n : Int) : Int := n

def convertFromTimePoint (src : TimePoint) : Int :=
  let secPartLong := src.count.tdiv 1000000000
  let secPart := secPartLong.tmod 3600
  let hourPart := secPartLong.tdiv 3600
  let nsecPart := src.count.tmod 1000000000
  hours hourPart + seconds secPart + microseconds ((nsecPart + 500).tdiv 1000)

def convertToTimePoint (ticks : Int) : TimePoint :=
  let totalNanoseconds := toInt64 (ticks * 1000)
  let secPart := totalNanoseconds.tdiv 1000000000 * 1000000000
  let nsecPart := totalNanoseconds.tmod 1000000000
  .ofNanoseconds (secPart + nsecPart)

/-- SqlConvert<time_point>::from; a text that is no time raises ConversionError. -/
def timePointFrom (boost : PosixTime) (src : StdString) : Option TimePoint :=
  if src = "-infinity".toList then some .min
  else if src = "infinity".toList then some .max
  else (ptimeFrom boost src).map convertToTimePoint

/-- SqlConvert<time_point>::to. -/
def timePointTo (boost : PosixTime) (src : TimePoint) : StdString :=
  if src = .min then "-infinity".toList
  else if src = .max then "infinity".toList
  else ptimeTo boost (convertFromTimePoint src)

/-- The years 1400 to 9999. -/
def InCalendar (ticks : Int) : Prop := -17987443200000000 ≤ ticks ∧ ticks ≤ 253402300799999999

/-- Times are formatted and parsed exactly, and their texts begin with a digit of the year. -/
structure PosixTime.Exact (boost : PosixTime) : Prop where
  parse : ∀ ticks, InCalendar ticks → ptimeFrom boost (ptimeTo boost ticks) = some ticks
  digit : ∀ ticks, InCalendar ticks → ∃ c s, ptimeTo boost ticks = c :: s ∧ c.isDigit

/-- The timestamps of the database. -/
inductive Timestamp
  | negInfinity
  | finite (ticks : Int)
  | infinity
  deriving DecidableEq

def Timestamp.le : Timestamp → Timestamp → Prop
  | .negInfinity, _ => True
  | _, .infinity => True
  | .finite ticks, .finite ticks' => ticks ≤ ticks'
  | _, _ => False

instance : LE Timestamp := ⟨Timestamp.le⟩

/-- The timestamp that a text means to the database. -/
def sqlValue (boost : PosixTime) (src : StdString) : Option Timestamp :=
  if src = "-infinity".toList then some .negInfinity
  else if src = "infinity".toList then some .infinity
  else (ptimeFrom boost src).map .finite

/-- No other microsecond is nearer. -/
def Nearest (ticks nanoseconds : Int) : Prop :=
  ∀ ticks' : Int, (ticks * 1000 - nanoseconds).natAbs ≤ (ticks' * 1000 - nanoseconds).natAbs

/-- A time point before 1970 is rounded well when half a microsecond at most is missing to a whole
second, or when it is halfway between two microseconds. -/
def RoundsWell (t : TimePoint) : Prop :=
  t = .min ∨ t = .max ∨ -500 ≤ t.count.tmod 1000000000 ∨ (t.count.tmod 1000000000).tmod 1000 = -500

/-- What becomes of a time point on its way to the database and back. -/
structure SurvivesRoundTrip (boost : PosixTime) (t : TimePoint) : Prop where
  roundTrip : 1000 ∣ t.count → timePointFrom boost (timePointTo boost t) = some t
  monotone : ∀ u : TimePoint, t.count ≤ u.count → ∃ a b,
    sqlValue boost (timePointTo boost t) = some a ∧ sqlValue boost (timePointTo boost u) = some b ∧ a ≤ b
  nearest : t ≠ .min → t ≠ .max → ∃ ticks : Int,
    sqlValue boost (timePointTo boost t) = some (.finite ticks) ∧
      Nearest ticks t.count
  min : timePointTo boost .min = "-infinity".toList ∧
    timePointFrom boost "-infinity".toList = some .min
  max : timePointTo boost .max = "infinity".toList ∧
    timePointFrom boost "infinity".toList = some .max

variable {boost : PosixTime} {t u : TimePoint} {n ticks : Int}

/-- Quotient and remainder of a truncating division have the sign of the number. -/
theorem tdiv_tmod (n : Int) {k : Int} (hk : 0 < k) : n = k * n.tdiv k + n.tmod k ∧
    (0 ≤ n → 0 ≤ n.tmod k ∧ n.tmod k < k) ∧ (n ≤ 0 → -k < n.tmod k ∧ n.tmod k ≤ 0) := by
  refine ⟨(Int.mul_tdiv_add_tmod n k).symm, fun hn => ?_, fun hn => ?_⟩
  · exact ⟨Int.tmod_nonneg k hn, Int.tmod_lt_of_pos n hk⟩
  · have hneg : (-n).tmod k = -n.tmod k := Int.neg_tmod n k
    have hnonneg := Int.tmod_nonneg k (a := -n) (by omega)
    have hlt := Int.tmod_lt_of_pos (-n) hk
    omega

/-- Hours and seconds make up the whole seconds. -/
theorem convertFromTimePoint_eq (t : TimePoint) : convertFromTimePoint t =
    t.count.tdiv 1000000000 * 1000000 + (t.count.tmod 1000000000 + 500).tdiv 1000 := by
  obtain ⟨hsec, -, -⟩ := tdiv_tmod (t.count.tdiv 1000000000) (k := 3600) (by omega)
  unfold convertFromTimePoint hours seconds microseconds
  simp only
  omega

theorem nearest_iff : Nearest ticks n ↔ (ticks * 1000 - n).natAbs ≤ 500 := by
  constructor
  · intro h
    have hbest := h ((n + 500) / 1000)
    omega
  · intro h ticks'
    omega

/-- Times before 1970 are rounded up by a whole microsecond too much. -/
theorem nearest_convertFromTimePoint : Nearest (convertFromTimePoint t) t.count ↔
    -500 ≤ t.count.tmod 1000000000 ∨ (t.count.tmod 1000000000).tmod 1000 = -500 := by
  rw [nearest_iff, convertFromTimePoint_eq]
  obtain ⟨hcount, -, -⟩ := tdiv_tmod t.count (k := 1000000000) (by omega)
  generalize t.count.tmod 1000000000 = nsec at *
  obtain ⟨hround, hpos, hneg⟩ := tdiv_tmod (nsec + 500) (k := 1000) (by omega)
  obtain ⟨hhalf, hpos', hneg'⟩ := tdiv_tmod nsec (k := 1000) (by omega)
  by_cases hsmall : -500 ≤ nsec
  · have hrem := hpos (by omega)
    omega
  · have hrem := hneg (by omega)
    have hrem' := hneg' (by omega)
    omega

theorem convertToTimePoint_of_eq (h : ticks * 1000 = t.count) : convertToTimePoint ticks = t := by
  have hparts : t.count.tdiv 1000000000 * 1000000000 + t.count.tmod 1000000000 = t.count :=
    Int.tdiv_mul_add_tmod t.count 1000000000
  apply TimePoint.ext
  change toInt64 (_ + _) = t.count
  rw [h, toInt64_of_inInt64 t.inInt64, hparts, toInt64_of_inInt64 t.inInt64]

theorem inCalendar_convertFromTimePoint (t : TimePoint) : InCalendar (convertFromTimePoint t) := by
  have hrange := t.inInt64
  rw [convertFromTimePoint_eq]
  obtain ⟨hcount, hpos, hneg⟩ := tdiv_tmod t.count (k := 1000000000) (by omega)
  obtain ⟨hround, hpos', hneg'⟩ :=
    tdiv_tmod (t.count.tmod 1000000000 + 500) (k := 1000) (by omega)
  unfold InInt64 at hrange
  unfold InCalendar
  omega

/-- Within a second the rounding is monotone, and it does not leave the second. -/
theorem convertFromTimePoint_mono (h : t.count ≤ u.count) :
    convertFromTimePoint t ≤ convertFromTimePoint u := by
  rw [convertFromTimePoint_eq, convertFromTimePoint_eq]
  obtain ⟨hcount, hpos, hneg⟩ := tdiv_tmod t.count (k := 1000000000) (by omega)
  obtain ⟨hcount', hpos', hneg'⟩ := tdiv_tmod u.count (k := 1000000000) (by omega)
  obtain ⟨hround, hpos₁, hneg₁⟩ :=
    tdiv_tmod (t.count.tmod 1000000000 + 500) (k := 1000) (by omega)
  obtain ⟨hround', hpos₁', hneg₁'⟩ :=
    tdiv_tmod (u.count.tmod 1000000000 + 500) (k := 1000) (by omega)
  omega

theorem timePointTo_min : timePointTo boost .min = "-infinity".toList := if_pos rfl

theorem timePointTo_max : timePointTo boost .max = "infinity".toList := by
  rw [timePointTo, if_neg (by decide), if_pos rfl]

theorem timePointFrom_min : timePointFrom boost "-infinity".toList = some .min := if_pos rfl

theorem timePointFrom_max : timePointFrom boost "infinity".toList = some .max := by
  rw [timePointFrom, if_neg (by decide), if_pos rfl]

theorem sqlValue_min : sqlValue boost (timePointTo boost .min) = some .negInfinity := by
  rw [timePointTo_min]
  exact if_pos rfl

theorem sqlValue_max : sqlValue boost (timePointTo boost .max) = some .infinity := by
  rw [timePointTo_max, sqlValue, if_neg (by decide), if_pos rfl]

section Exact

variable (h : boost.Exact)

include h

/-- The text of a time is not one of those for the infinities. -/
theorem timePointTo_ne (hmin : t ≠ .min) (hmax : t ≠ .max) :
    timePointTo boost t = ptimeTo boost (convertFromTimePoint t) ∧
      timePointTo boost t ≠ "-infinity".toList ∧ timePointTo boost t ≠ "infinity".toList := by
  have htext : timePointTo boost t = ptimeTo boost (convertFromTimePoint t) := by
    rw [timePointTo, if_neg hmin, if_neg hmax]
  obtain ⟨c, s, hcs, hdigit⟩ := h.digit _ (inCalendar_convertFromTimePoint t)
  rw [htext, hcs]
  refine ⟨rfl, fun he => ?_, fun he => ?_⟩
  · obtain ⟨rfl, -⟩ := List.cons.inj he
    exact absurd hdigit (by decide)
  · obtain ⟨rfl, -⟩ := List.cons.inj he
    exact absurd hdigit (by decide)

theorem ptimeFrom_timePointTo (hmin : t ≠ .min) (hmax : t ≠ .max) :
    ptimeFrom boost (timePointTo boost t) = some (convertFromTimePoint t) := by
  rw [(timePointTo_ne h hmin hmax).1]
  exact h.parse _ (inCalendar_convertFromTimePoint t)

theorem sqlValue_timePointTo (hmin : t ≠ .min) (hmax : t ≠ .max) :
    sqlValue boost (timePointTo boost t) =
      some (.finite (convertFromTimePoint t)) := by
  obtain ⟨-, hneg, hpos⟩ := timePointTo_ne h hmin hmax
  rw [sqlValue, if_neg hneg, if_neg hpos, ptimeFrom_timePointTo h hmin hmax, Option.map_some]

theorem timePointFrom_timePointTo (hmin : t ≠ .min) (hmax : t ≠ .max) :
    timePointFrom boost (timePointTo boost t) =
      some (convertToTimePoint (convertFromTimePoint t)) := by
  obtain ⟨-, hneg, hpos⟩ := timePointTo_ne h hmin hmax
  rw [timePointFrom, if_neg hneg, if_neg hpos, ptimeFrom_timePointTo h hmin hmax, Option.map_some]

theorem exists_sqlValue (t : TimePoint) : ∃ a, sqlValue boost (timePointTo boost t) = some a := by
  by_cases hmin : t = .min
  · rw [hmin]
    exact ⟨_, sqlValue_min⟩
  · by_cases hmax : t = .max
    · rw [hmax]
      exact ⟨_, sqlValue_max⟩
    · exact ⟨_, sqlValue_timePointTo h hmin hmax⟩

/-- A later time point is not written as an earlier time. -/
theorem timePointTo_mono (hle : t.count ≤ u.count) : ∃ a b,
    sqlValue boost (timePointTo boost t) = some a ∧
      sqlValue boost (timePointTo boost u) = some b ∧ a ≤ b := by
  obtain ⟨a, ha⟩ := exists_sqlValue h t
  obtain ⟨b, hb⟩ := exists_sqlValue h u
  refine ⟨a, b, ha, hb, ?_⟩
  by_cases htmin : t = .min
  · rw [htmin, sqlValue_min] at ha
    rw [← Option.some.inj ha]
    exact trivial
  by_cases humax : u = .max
  · rw [humax, sqlValue_max] at hb
    rw [← Option.some.inj hb]
    cases a <;> exact trivial
  have hut := t.inInt64
  have huu := u.inInt64
  have htmax : t ≠ .max := by
    rintro rfl
    apply humax
    apply TimePoint.ext
    change 9223372036854775807 ≤ u.count at hle
    change u.count = 9223372036854775807
    unfold InInt64 at huu
    omega
  have humin : u ≠ .min := by
    rintro rfl
    apply htmin
    apply TimePoint.ext
    change t.count ≤ -9223372036854775808 at hle
    change t.count = -9223372036854775808
    unfold InInt64 at hut
    omega
  rw [sqlValue_timePointTo h htmin htmax] at ha
  rw [sqlValue_timePointTo h humin humax] at hb
  rw [← Option.some.inj ha, ← Option.some.inj hb]
  exact convertFromTimePoint_mono hle

/-- Whole microseconds come back once they are rounded to themselves. -/
theorem timePoint_roundTrip (hmin : t ≠ .min) (hmax : t ≠ .max) (hwhole : 1000 ∣ t.count)
    (hnearest : Nearest (convertFromTimePoint t) t.count) :
    timePointFrom boost (timePointTo boost t) = some t := by
  have heq : convertFromTimePoint t * 1000 = t.count := by
    have hbest := hnearest (t.count / 1000)
    omega
  rw [timePointFrom_timePointTo h hmin hmax, convertToTimePoint_of_eq heq]

/-- Time points survive the way to the database and back unless they are before 1970 and not rounded
well. -/
theorem survives_round_trip_iff (t : TimePoint) : SurvivesRoundTrip boost t ↔ RoundsWell t := by
  constructor
  · intro hs
    by_cases hmin : t = .min
    · exact .inl hmin
    by_cases hmax : t = .max
    · exact .inr (.inl hmax)
    obtain ⟨ticks, hticks, hnearest⟩ := hs.nearest hmin hmax
    rw [sqlValue_timePointTo h hmin hmax] at hticks
    have hsame := Timestamp.finite.inj (Option.some.inj hticks)
    rw [← hsame] at hnearest
    exact .inr (.inr (nearest_convertFromTimePoint.mp hnearest))
  · intro hr
    have hnearest (hmin : t ≠ .min) (hmax : t ≠ .max) :
        Nearest (convertFromTimePoint t) t.count := by
      rcases hr with hr | hr | hr
      · exact absurd hr hmin
      · exact absurd hr hmax
      · exact nearest_convertFromTimePoint.mpr hr
    refine ⟨fun hwhole => ?_, fun u => timePointTo_mono h, fun hmin hmax => ?_,
      ⟨timePointTo_min, timePointFrom_min⟩, ⟨timePointTo_max, timePointFrom_max⟩⟩
    · have hmin : t ≠ .min := by
        rintro rfl
        exact absurd hwhole (by decide)
      have hmax : t ≠ .max := by
        rintro rfl
        exact absurd hwhole (by decide)
      exact timePoint_roundTrip h hmin hmax hwhole (hnearest hmin hmax)
    · exact ⟨_, sqlValue_timePointTo h hmin hmax, hnearest hmin hmax⟩

end Exact

/-- The first two microseconds of 1970 are written as texts of boost, other times in a simpler way. -/
def sampleTime : PosixTime where
  toIsoExtendedString ticks :=
    if ticks = 0 then "1970-01-01T00:00:00".toList
    else if ticks = 1 then "1970-01-01T00:00:00.000001".toList
    else if 0 < ticks then '0' :: '+' :: List.replicate ticks.natAbs '0'
    else '0' :: '-' :: List.replicate ticks.natAbs '0'
  timeFromString s :=
    if s = "1970-01-01 00:00:00".toList then some 0
    else if s = "1970-01-01 00:00:00.000001".toList then some 1
    else match s with
      | '0' :: '+' :: digits => some digits.length
      | '0' :: '-' :: digits => some (-digits.length)
      | _ => none

theorem replaceFirst_of_notMem {c d : Char} {s : StdString} (h : c ∉ s) : replaceFirst c d s = s := by
  induction s with
  | nil => rfl
  | cons a s ih =>
    rw [List.mem_cons, not_or] at h
    rw [replaceFirst, if_neg (Ne.symm h.1), ih h.2]

theorem replaceLast_of_notMem {c d : Char} {s : StdString} (h : c ∉ s) : replaceLast c d s = s := by
  have hreverse : c ∉ s.reverse := fun hmem => h (List.mem_reverse.mp hmem)
  rw [replaceLast, replaceFirst_of_notMem hreverse, List.reverse_reverse]

theorem ptimeTo_of_notMem (hT : 'T' ∉ boost.toIsoExtendedString ticks)
    (hcomma : ',' ∉ boost.toIsoExtendedString ticks) :
    ptimeTo boost ticks = boost.toIsoExtendedString ticks := by
  rw [ptimeTo, replaceFirst_of_notMem hT, replaceLast_of_notMem hcomma]

theorem sampleTime_simple {sign : Char} (hsign : sign = '+' ∨ sign = '-')
    (h : sampleTime.toIsoExtendedString ticks = '0' :: sign :: List.replicate ticks.natAbs '0') :
    ptimeTo sampleTime ticks = '0' :: sign :: List.replicate ticks.natAbs '0' := by
  have hnot {c : Char} (hc : c ≠ '0') (hc' : c ≠ '+' ∧ c ≠ '-') :
      c ∉ sampleTime.toIsoExtendedString ticks := by
    rw [h, List.mem_cons, List.mem_cons, List.mem_replicate]
    rcases hsign with rfl | rfl
    · simp [hc, hc'.1]
    · simp [hc, hc'.2]
  rw [ptimeTo_of_notMem (hnot (by decide) (by decide)) (hnot (by decide) (by decide)), h]

theorem exact_sampleTime : sampleTime.Exact := by
  have hcases (ticks : Int) : ptimeFrom sampleTime (ptimeTo sampleTime ticks) = some ticks ∧
      ∃ c s, ptimeTo sampleTime ticks = c :: s ∧ c.isDigit := by
    by_cases hzero : ticks = 0
    · subst hzero
      exact ⟨by decide, '1', "970-01-01 00:00:00".toList, by decide, by decide⟩
    by_cases hone : ticks = 1
    · subst hone
      exact ⟨by decide, '1', "970-01-01 00:00:00.000001".toList, by decide, by decide⟩
    by_cases hpos : 0 < ticks
    · have htext := sampleTime_simple (.inl rfl)
        (((if_neg hzero).trans (if_neg hone)).trans (if_pos hpos) :
          sampleTime.toIsoExtendedString ticks = _)
      refine ⟨?_, '0', _, htext, by decide⟩
      rw [htext]
      change some ((List.replicate ticks.natAbs '0').length : Int) = some ticks
      rw [List.length_replicate]
      congr 1
      omega
    · have htext := sampleTime_simple (.inr rfl)
        (((if_neg hzero).trans (if_neg hone)).trans (if_neg hpos) :
          sampleTime.toIsoExtendedString ticks = _)
      refine ⟨?_, '0', _, htext, by decide⟩
      rw [htext]
      change some (-(List.replicate ticks.natAbs '0').length : Int) = some ticks
      rw [List.length_replicate]
      congr 1
      omega
  exact ⟨fun ticks _ => (hcases ticks).1, fun ticks _ => (hcases ticks).2⟩

/-- One microsecond after the beginning of 1970. -/
def microsecondAfter : TimePoint := ⟨1000, by unfold InInt64; omega⟩

/-- One microsecond before the beginning of 1970. -/
def microsecondBefore : TimePoint := ⟨-1000, by unfold InInt64; omega⟩

theorem survives_round_trip_iff_after :
    SurvivesRoundTrip sampleTime microsecondAfter ↔ RoundsWell microsecondAfter :=
  survives_round_trip_iff exact_sampleTime microsecondAfter

/-- The last microsecond of 1969 is written as the beginning of 1970. -/
theorem not_survives_round_trip :
    ¬ ∀ (boost : PosixTime) (t : TimePoint), boost.Exact → 1000 ∣ t.count →
      timePointFrom boost (timePointTo boost t) = some t := by
  intro h
  have hread := h sampleTime microsecondBefore exact_sampleTime ⟨-1, rfl⟩
  have hzero : timePointFrom sampleTime (timePointTo sampleTime microsecondBefore) =
      some ⟨0, by unfold InInt64; omega⟩ := by decide
  rw [hzero] at hread
  have hcount := congrArg TimePoint.count (Option.some.inj hread)
  exact absurd hcount (by decide)

end LibFred.SqlConvert
