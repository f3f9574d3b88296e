import ContextHub.Ids
/-!
# Positioning data

Fixes and raw measurements of a satellite radio. Single-precision values are kept as their bit
patterns: the hub passes them on and never computes with them.
-/

namespace ContextHub

structure GnssLocation where
  timestamp : Nat := 0
  latitudeE7 : Int := 0
  longitudeE7 : Int := 0
  accuracyBits : Nat := 0
  deriving DecidableEq, Repr

structure GnssMeasurement where
  svid : Int
  cn0Bits : Nat
  deriving DecidableEq, Repr

structure GnssData where
  timestamp : Nat := 0
  measurements : List GnssMeasurement := []
  deriving DecidableEq, Repr

inductive GnssReport where
  | locationStatus (enabled : Bool) (code : Nat)
  | location (location : GnssLocation)
  | measurementStatus (enabled : Bool) (code : Nat)
  | data (data : GnssData)
  deriving DecidableEq, Repr

end ContextHub
