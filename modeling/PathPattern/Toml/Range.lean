import PathPattern.Toml.Scalar

namespace PathPattern.Toml

-- Half a unit of the last place above the greatest finite number of double precision; from there on numbers round
-- to infinity.
def overflowBound : Nat := Nat.pow 2 1024 - Nat.pow 2 970

def Decimal.isFinite (decimal : Decimal) : Bool :=
  let significant := decimal.digits.dropWhile (· = '0')
  let power := decimal.exponent - decimal.places
  let magnitude := power + significant.length
  if significant = [] || magnitude < 300 then true
  else if magnitude > 320 then false
  else
    let value := digitsValue 10 significant
    if power ≥ 0 then value * Nat.pow 10 power.toNat < overflowBound
    else value < overflowBound * Nat.pow 10 (-power).toNat

mutual
def Value.isHeld : Value → Bool
  | .integer value => if value < 0 then value.natAbs ≤ Nat.pow 2 127 else value.natAbs < Nat.pow 2 128
  | .real (some size) => size.isFinite
  | .array _ items => itemsAreHeld items
  | .table _ entries => entriesAreHeld entries
  | _ => true

def itemsAreHeld : List Value → Bool
  | [] => true
  | value :: rest => value.isHeld && itemsAreHeld rest

def entriesAreHeld : Entries → Bool
  | [] => true
  | (_, value) :: rest => value.isHeld && entriesAreHeld rest
end

end PathPattern.Toml
