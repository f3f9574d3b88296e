import ContextHub.Binary64
import ContextHub.Random
import ContextHub.Request.ErrorCode
/-!
# Faults

Seeded faults for the radios that answer by themselves: a request may be refused with a
recoverable code, or its completion may be lost. A chance is a threshold for a 64-bit draw;
certainty takes no draw at all, and a chance that is not a number cannot be tried.
-/

namespace ContextHub

/-- A probability. -/
inductive Chance where
  | always
  | below (threshold : Nat)
  | notANumber
  deriving DecidableEq, Repr

namespace Chance

def never : Chance := below 0

def half : Chance := below 9223372036854775808

/-- The chance of `num / den`, cut to the range from nothing to certainty. -/
def ofRatio (num den : Nat) : Chance :=
  if den ≤ num then always else below (num * 18446744073709551616 / den)

/-- The chance that a double stands for; values outside the range count as its nearer end. -/
def ofBinary64 : Binary64 → Chance
  | .notANumber => notANumber
  | .infinite negative => if negative then never else always
  | .finite true _ _ => never
  | .finite false m e => let (num, den) := Binary64.scaled 2 m e; ofRatio num den

/-- What is wrong with a chance that is not a number. -/
def fault : String := "p=NaN is outside range [0.0, 1.0]"

/-- Tries the chance. -/
def draw (c : Chance) (r : Random) : Except String (Bool × Random) :=
  match c with
  | always => .ok (true, r)
  | below t => .ok (decide (r.next64.1 < t), r.next64.2)
  | notANumber => .error fault

end Chance

structure ChaosConfig where
  nack : Chance := .never
  drop : Chance := .never
  deriving DecidableEq, Repr

namespace ChaosConfig

def disabled : ChaosConfig := {}

/-- A fifth of the requests refused, a twentieth of the completions lost; the thresholds are those
of the nearest double-precision numbers. -/
def moderate : ChaosConfig :=
  { nack := .below 3689348814741910528, drop := .below 922337203685477632 }

end ChaosConfig

inductive Mishap where
  | none
  | nack (code : ErrorCode)
  | drop
  deriving DecidableEq, Repr

/-- What befalls a request, in the protocol's words. -/
def Mishap.name : Mishap → String
  | none => "none"
  | nack code => s!"nack:{code.raw}"
  | drop => "drop"

structure Chaos where
  random : Random
  config : ChaosConfig
  deriving DecidableEq, Repr

namespace Chaos

def ofSeed (seed : UInt64) (config : ChaosConfig) : Chaos := ⟨.ofSeed seed, config⟩

/-- Decides what befalls the next request. -/
def nextMishap (c : Chaos) : Except String (Mishap × Chaos) := do
  let (refused, r) ← c.config.nack.draw c.random
  if refused then
    let (busy, r) ← Chance.half.draw r
    return (.nack (if busy then .busy else .rejectedRateLimit), { c with random := r })
  let (lost, r) ← c.config.drop.draw r
  return (if lost then .drop else .none, { c with random := r })

/-- The next `n` mishaps, and why the series broke off if it did. -/
def mishaps : Nat → Chaos → Except String (List Mishap)
  | 0, _ => .ok []
  | n + 1, c => do
    let (f, c) ← c.nextMishap
    return f :: (← mishaps n c)

end Chaos

end ContextHub
