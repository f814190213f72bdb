import PathPattern.Text

namespace PathPattern.Toml

-- How a table came to be decides whether it may still grow.
inductive Origin where
  | header
  | passed
  | dotted
  | inline
deriving DecidableEq, Repr

-- `digits`, of which `places` stand behind the point, times ten to the power `exponent`.
structure Decimal where
  digits : Text
  places : Nat
  exponent : Int
deriving DecidableEq, Repr

inductive Value where
  | text (value : Text)
  | boolean (value : Bool)
  | integer (value : Int)
  | real (size : Option Decimal)
  | moment (written : Text)
  | array (tables : Bool) (items : List Value)
  | table (origin : Origin) (entries : List (Text × Value))
deriving Repr, Inhabited

abbrev Entries := List (Text × Value)

namespace Entries

def get? (entries : Entries) (key : Text) : Option Value :=
  (entries.find? fun (other, _) => other = key).map Prod.snd

def replace (entries : Entries) (key : Text) (value : Value) : Entries :=
  entries.map fun (other, old) => (other, if other = key then value else old)

def add? (entries : Entries) (key : Text) (value : Value) : Option Entries :=
  match entries.get? key with
  | some _ => none
  | none => some (entries ++ [(key, value)])

def remove (entries : Entries) (key : Text) : Entries := entries.filter fun (other, _) => other ≠ key

def alter? (change : Entries → Option Entries) (entries : Entries) : List Text → Option Entries
  | [] => change entries
  | key :: path =>
      match entries.get? key with
      | none => (alter? change [] path).map fun inner => entries ++ [(key, .table .passed inner)]
      | some (.table .inline _) => none
      | some (.table origin inner) =>
          (alter? change inner path).map fun inner => entries.replace key (.table origin inner)
      | some (.array true items) =>
          match items.getLast? with
          | some (.table origin inner) =>
              (alter? change inner path).map fun inner =>
                entries.replace key (.array true (items.dropLast ++ [.table origin inner]))
          | _ => none
      | some _ => none

def put? (last : Text) (value : Value) (dotted : Bool) (entries : Entries) : List Text → Option Entries
  | [] => if dotted then entries.add? last value else none
  | key :: path =>
      match entries.get? key with
      | none => (put? last value true [] path).map fun inner => entries ++ [(key, .table .dotted inner)]
      | some (.table .dotted inner) =>
          (put? last value true inner path).map fun inner => entries.replace key (.table .dotted inner)
      | some (.table .passed inner) =>
          (put? last value false inner path).map fun inner => entries.replace key (.table .passed inner)
      | some _ => none

def assign? (entries : Entries) (key : List Text) (value : Value) : Option Entries :=
  match key.reverse with
  | [] => none
  | [last] => entries.add? last value
  | last :: before => put? last value false entries before.reverse

end Entries
end PathPattern.Toml
