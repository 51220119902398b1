import Fieldwise.Decimal.Numeral
import Fieldwise.Schema
import Fieldwise.Text.Casing
import Fieldwise.Text.Quoted

/-!
# Combinators

Named functions on values, which schema documents refer to in place of code. The built-in ones
join texts, map case, and add and multiply numbers: exactly while all arguments are integers, and
as decimals once one of them is not.
-/

namespace Fieldwise

/-- A function on arguments that may refuse with a reason. -/
abbrev Combinator := List Value → Except String Value

namespace Combinator

/-- The texts of all arguments, one after the other. -/
def concat : Combinator := fun args ↦ .ok (.string (String.join (args.map Value.textOrEmpty)))

/-- The texts of all arguments but the first, with the first between them. -/
def join : Combinator
  | [] => .error "join requires a separator argument"
  | separator :: rest =>
    match separator.text? with
    | none => .error "join separator must be a scalar"
    | some separator => .ok (.string (String.intercalate separator (rest.map Value.textOrEmpty)))

/-- A function of the text of a single scalar; the absent value stays absent. -/
def onText (name : String) (f : String → String) : Combinator
  | [.null] => .ok .null
  | [value] =>
    match value.text? with
    | some text => .ok (.string (f text))
    | none => .error s!"{name} requires a scalar argument"
  | _ => .error s!"{name} requires 1 argument"

/-- An operation on numbers: its name, its neutral element, and its form on integers and on
decimals. -/
structure Arithmetic where
  name : String
  neutral : Int
  onIntegers : Int → Int → Int
  onDecimals : Decimal → Decimal → Decimal

namespace Arithmetic

/-- Addition. -/
def sum : Arithmetic := ⟨"add", 0, (· + ·), Decimal.add⟩

/-- Multiplication. -/
def product : Arithmetic := ⟨"multiply", 1, (· * ·), Decimal.mul⟩

/-- The range of integer values. -/
def inRange (i : Int) : Bool := Int64.minValue.toInt ≤ i && i ≤ Int64.maxValue.toInt

/-- The arguments as integers, if all of them are. -/
def integers? : List Value → Option (List Int)
  | [] => some []
  | .integer i :: rest => (integers? rest).map (i.toInt :: ·)
  | _ :: _ => none

/-- Fold integers; every step must stay in range. -/
def foldIntegers (op : Arithmetic) (acc : Int) : List Int → Option Int
  | [] => some acc
  | i :: rest =>
    let next := op.onIntegers acc i
    if inRange next then foldIntegers op next rest else none

/-- An argument as a decimal. -/
def decimal (op : Arithmetic) (index : Nat) : Value → Except String Decimal
  | .integer i => .ok (.ofInt i.toInt)
  | .decimal d => .ok d
  | .string text =>
    match Decimal.ofNumeral? text with
    | some d => .ok d
    | none => .error s!"Cannot parse argument {index} of {op.name} as number"
  | _ => .error s!"Invalid argument {index} type for {op.name}"

/-- Fold arguments as decimals, counted from `index`. -/
def foldDecimals (op : Arithmetic) (index : Nat) (acc : Decimal) :
    List Value → Except String Decimal
  | [] => .ok acc
  | value :: rest => do
    let d ← op.decimal index value
    op.foldDecimals (index + 1) (op.onDecimals acc d) rest

/-- The operation on all arguments. -/
def combinator (op : Arithmetic) : Combinator := fun args ↦
  if args.isEmpty then .error s!"{op.name} requires at least 1 argument"
  else match integers? args with
    | some items =>
      match op.foldIntegers op.neutral items with
      | some total => .ok (.integer (Int64.ofInt total))
      | none => .error s!"{op.name} overflowed"
    | none => (op.foldDecimals 0 (.ofInt op.neutral) args).map .decimal

end Arithmetic

end Combinator

/-- Combinators by name, names ascending. -/
abbrev Combinators := Table Combinator

namespace Combinators

/-- No combinators. -/
def none : Combinators := []

/-- The built-in combinators. -/
def builtin : Combinators := [
  ("add", Combinator.Arithmetic.sum.combinator),
  ("concat", Combinator.concat),
  ("join", Combinator.join),
  ("lower", Combinator.onText "lower" Text.lower),
  ("multiply", Combinator.Arithmetic.product.combinator),
  ("upper", Combinator.onText "upper" Text.upper)]

/-- Add a combinator or replace the one of its name. -/
def register (cs : Combinators) (name : String) (f : Combinator) : Combinators :=
  Table.place cs name f

/-- Run a combinator by name. -/
def call (cs : Combinators) (name : String) (args : List Value) : Except String Value :=
  match Table.find? cs name with
  | some f => f args
  | Option.none =>
    let available := Text.quotedList (Table.names cs)
    .error s!"Combinator '{name}' not found, available combinators: {available}"

/-- The method body that runs a combinator on its arguments. -/
def body? (cs : Combinators) (name : String) : Option Body :=
  (Table.find? cs name).map fun f ↦ .native fun _ args ↦ f args

/-- A one-line account of the combinators. -/
def summary (cs : Combinators) : String :=
  "CombinatorRegistry \x7b functions: " ++ Text.quotedList (Table.names cs) ++ " \x7d"

end Combinators

end Fieldwise
