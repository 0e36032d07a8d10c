import Spreadsheet.Formula.Value

/-! The functions that formulas can call. Those over many numbers skip what is no number inside a range, but
not in an argument of its own; a fault anywhere is the answer, except to counting. -/
namespace Spreadsheet.Formula

inductive Arg
  | single (v : Value)
  | range (vs : List Value)

inductive Builtin
  | sum
  | average
  | min
  | max
  | count
  | abs
  | round
  deriving DecidableEq, Repr

namespace Builtin

def ofName? : String → Option Builtin
  | "SUM" => some sum
  | "AVERAGE" => some average
  | "AVG" => some average
  | "MIN" => some min
  | "MAX" => some max
  | "COUNT" => some count
  | "ABS" => some abs
  | "ROUND" => some round
  | _ => none

def numbersOf : Arg → Except Fault (List Float)
  | .single .empty => .ok []
  | .single v => do return [← v.toNumber]
  | .range vs => do
    let found ← vs.mapM fun v => match v with
      | .number x => .ok [x]
      | .fault f => .error f
      | _ => .ok []
    return found.flatten

def numbers (args : List Arg) : Except Fault (List Float) := do return (← args.mapM numbersOf).flatten

/-- How many of the values are numbers; what is at fault is none. -/
def numberCount : Arg → Nat
  | .single v => if v.isNumber then 1 else 0
  | .range vs => vs.countP Value.isNumber

def countNumbers (args : List Arg) : Nat := args.foldl (fun n a => n + numberCount a) 0

def scalar : Arg → Except Fault Float
  | .single v => v.toNumber
  | .range _ => .error .value

/-- What is not a number loses against any number. -/
def lesser (x y : Float) : Float := if x.isNaN || y < x then y else x

def greater (x y : Float) : Float := if x.isNaN || x < y then y else x

/-- The sum of no numbers is negative zero: that is the zero to which every number, either zero included, can be
added and stays what it is. -/
def total (xs : List Float) : Float := xs.foldl (· + ·) (-0.0)

def extreme (pick : Float → Float → Float) : List Float → Float
  | [] => 0
  | x :: xs => xs.foldl pick x

/-- `acc` times a power of the base, by repeated squaring from the lowest bit of the exponent. -/
def powerFrom (acc base : Float) (n : Nat) : Float :=
  if n = 0 then acc else powerFrom (if n % 2 = 1 then acc * base else acc) (base * base) (n / 2)
termination_by n

def tenPower (n : Int) : Float :=
  let power := powerFrom 1 10 n.natAbs
  if n < 0 then 1 / power else power

def roundTo (x : Float) (digits : Int) : Float :=
  let factor := tenPower digits
  (x * factor).round / factor

def compute : Builtin → List Arg → Except Fault Float
  | sum, args => do return total (← numbers args)
  | average, args => do
    let xs ← numbers args
    if xs.isEmpty then throw .divZero else return total xs / Float.ofNat xs.length
  | min, args => do return extreme lesser (← numbers args)
  | max, args => do return extreme greater (← numbers args)
  | count, args => .ok (Float.ofNat (countNumbers args))
  | abs, [a] => do return (← scalar a).abs
  | round, [a] => do return roundTo (← scalar a) 0
  | round, [a, digits] => do return roundTo (← scalar a) (← scalar digits).toInt32.toInt
  | _, _ => .error .value

end Builtin

/-- The value of a call; an unknown name is a fault. -/
def call (name : String) (args : List Arg) : Value :=
  match Builtin.ofName? name with
  | some b => .ofNumber (b.compute args)
  | none => .fault .name

end Spreadsheet.Formula
