import BusEndpoint.Text.Unsigned
/-!
Spans of time with nanosecond resolution. The longest one has 2^64 - 1 whole
seconds and 999999999 nanoseconds; a product that would be longer is cut down
to it.
-/

namespace BusEndpoint

/-- The length of the longest duration in nanoseconds. -/
def maxNanoseconds : Nat := UInt64.size * 1000000000 - 1

structure Duration where
  nanoseconds : Nat
  nanoseconds_le : nanoseconds ≤ maxNanoseconds
deriving DecidableEq

namespace Duration

/-- The longest duration. -/
def longest : Duration := ⟨maxNanoseconds, Nat.le_refl _⟩

/-- A number of nanoseconds, cut down to the longest duration. -/
def ofNanoseconds (n : Nat) : Duration := ⟨min n maxNanoseconds, Nat.min_le_right _ _⟩

/-- Whole seconds of a 64-bit counter always fit. -/
def ofSeconds (s : UInt64) : Duration := ofNanoseconds (s.toNat * 1000000000)

/-- The whole seconds. -/
def seconds (d : Duration) : Nat := d.nanoseconds / 1000000000

/-- What is left beside the whole seconds, in nanoseconds. -/
def subsecond (d : Duration) : Nat := d.nanoseconds % 1000000000

/-- The duration taken `k` times, at most the longest duration. -/
def times (d : Duration) (k : Nat) : Duration := ofNanoseconds (k * d.nanoseconds)

theorem nanoseconds_ofNanoseconds (n : Nat) :
    (ofNanoseconds n).nanoseconds = min n maxNanoseconds := rfl

theorem nanoseconds_ofSeconds (s : UInt64) :
    (ofSeconds s).nanoseconds = s.toNat * 1000000000 := by
  have := s.toNat_lt
  simp only [ofSeconds, nanoseconds_ofNanoseconds, maxNanoseconds, UInt64.size]
  omega

theorem nanoseconds_times (d : Duration) (k : Nat) :
    (d.times k).nanoseconds = min (k * d.nanoseconds) maxNanoseconds := rfl

theorem ext_nanoseconds {d e : Duration} (h : d.nanoseconds = e.nanoseconds) : d = e := by
  cases d
  cases e
  simp_all

theorem seconds_lt (d : Duration) : d.seconds < UInt64.size := by
  have := d.nanoseconds_le
  simp only [seconds, maxNanoseconds, UInt64.size] at *
  omega

/-- Decimal places behind the point, without the zeros at the end. -/
def fractionText (places fraction : Nat) : String :=
  if fraction = 0 then "" else
    let digits := (Text.decimal fraction).toList
    let padded := List.replicate (places - digits.length) '0' ++ digits
    "." ++ String.ofList (padded.reverse.dropWhile (· == '0')).reverse

/-- The duration in the largest of the units s, ms, µs and ns in which it is
at least one, with as many decimal places as it needs. -/
def text (d : Duration) : String :=
  let n := d.nanoseconds
  if 1000000000 ≤ n then
    Text.decimal (n / 1000000000) ++ fractionText 9 (n % 1000000000) ++ "s"
  else if 1000000 ≤ n then
    Text.decimal (n / 1000000) ++ fractionText 6 (n % 1000000) ++ "ms"
  else if 1000 ≤ n then
    Text.decimal (n / 1000) ++ fractionText 3 (n % 1000) ++ "µs"
  else Text.decimal n ++ "ns"

end Duration

end BusEndpoint
