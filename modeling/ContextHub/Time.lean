/-!
# Time

Instants and durations are numbers of nanoseconds. The hub's clock has 64 bits: an instant never
passes `Nanos.last`, and sums stop there instead of wrapping around. A duration may exceed the
clock's range; `Nanos.clamp` is what the clock sees of it.
-/

namespace ContextHub

namespace Nanos

/-- The last instant of the clock. -/
def last : Nat := 18446744073709551615

def perSecond : Nat := 1000000000

def clamp (d : Nat) : Nat := min d last

/-- The instant `d` after `t`, or the last one. -/
def after (t d : Nat) : Nat := min (t + d) last

def ofMillis (ms : Nat) : Nat := ms * 1000000

def ofSeconds (s : Nat) : Nat := s * perSecond

theorem le_after {t : Nat} (h : t ≤ last) (d : Nat) : t ≤ after t d := by
  simp only [after, last] at *; omega

theorem after_le_last (t d : Nat) : after t d ≤ last := Nat.min_le_right _ _

/-! ## Text -/

/-- The digits of `frac`, of which there are `width`, without zeros at the end. -/
def fraction (width frac : Nat) : String :=
  let ds := Nat.toDigits 10 frac
  let padded := List.replicate (width - ds.length) '0' ++ ds
  let kept := (padded.reverse.dropWhile (· == '0')).reverse
  match kept with
  | [] => ""
  | _ => "." ++ String.ofList kept

/-- The largest unit of which the duration holds at least one, with decimals. -/
def text (d : Nat) : String :=
  if perSecond ≤ d then toString (d / perSecond) ++ fraction 9 (d % perSecond) ++ "s"
  else if 1000000 ≤ d then toString (d / 1000000) ++ fraction 6 (d % 1000000) ++ "ms"
  else if 1000 ≤ d then toString (d / 1000) ++ fraction 3 (d % 1000) ++ "µs"
  else toString d ++ "ns"

end Nanos

end ContextHub
