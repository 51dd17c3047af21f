set_option autoImplicit false

namespace Census.Toml

structure Decimal where
  mantissa : Nat
  exponent : Int
  deriving DecidableEq, Repr

namespace Decimal

/-- Halfway between the greatest double and the power of two that would come next. -/
def limit : Nat := 18014398509481983 <<< 970

def reaches (bound : Nat) (d : Decimal) : Bool :=
  bound * Nat.pow 10 (-d.exponent).toNat ≤ d.mantissa * Nat.pow 10 d.exponent.toNat

def places (d : Decimal) : Int :=
  (Nat.toDigits 10 d.mantissa).length + d.exponent

def overflows (d : Decimal) : Bool :=
  -- Powers of ten are taken only where the places tie.
  d.mantissa ≠ 0 && (309 < d.places || (d.places = 309 && d.reaches limit))

end Decimal

end Census.Toml
