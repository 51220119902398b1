import Mathlib
import Fieldwise.Combinator
import Fieldwise.Proofs.Outcome

/-!
# Sums and products are exact

The built-in operations on numbers never wrap. Of integers they make the mathematical sum or
product, or refuse as soon as a sum or product on the way leaves the range of integers; so the order
of the arguments may decide whether there is a result, but not which. One argument that is not an
integer turns the whole operation to decimals, and then only an argument that stands for no number
is refused, the first of them by its index.
-/

namespace Fieldwise

open Outcome

/-- A value that stands for no number. -/
inductive Value.NoNumber : Value → Prop
  | null : NoNumber .null
  | boolean (b : Bool) : NoNumber (.boolean b)
  | string {text : String} (unread : Decimal.ofNumeral? text = none) : NoNumber (.string text)
  | list (items : List Value) : NoNumber (.list items)
  | map (entries : List (String × Value)) : NoNumber (.map entries)
  | record (schema : String) (fields : List (String × Value)) : NoNumber (.record schema fields)

namespace Combinator.Arithmetic

variable {op : Arithmetic}

/-- An integer value can hold the number. -/
def Fits (i : Int) : Prop := -2 ^ 63 ≤ i ∧ i < 2 ^ 63

instance : DecidablePred Fits := fun _ ↦ inferInstanceAs (Decidable (_ ∧ _))

/-- The test for the range of integers is exact. -/
theorem inRange_iff {i : Int} : inRange i = true ↔ Fits i := by
  have least : Int64.minValue.toInt = -2 ^ 63 := rfl
  have greatest : Int64.maxValue.toInt = 2 ^ 63 - 1 := rfl
  rw [inRange, Bool.and_eq_true, decide_eq_true_iff, decide_eq_true_iff, least, greatest, Fits]
  omega

/-- The numbers of a list of integers are those integers. -/
theorem integers?_map (items : List Int64) :
    integers? (items.map .integer) = some (items.map Int64.toInt) := by
  induction items with
  | nil => rfl
  | cons i rest ih => rw [List.map_cons, integers?, ih, List.map_cons, Option.map_some]

/-- Arguments are not all integers when one of them is not. -/
theorem integers?_eq_none {args : List Value} {arg : Value} (member : arg ∈ args)
    (other : ∀ i, arg ≠ .integer i) : integers? args = none := by
  induction args with
  | nil => cases member
  | cons first rest ih =>
    cases first with
    | integer i =>
      have later : arg ∈ rest := List.mem_of_ne_of_mem (other i) member
      rw [integers?, ih later, Option.map_none]
    | _ => rfl

/-- Folding integers gives the exact result when every result on the way can be held, and nothing
otherwise. -/
theorem foldIntegers_eq_some_iff {acc total : Int} (fits : Fits acc) {items : List Int} :
    op.foldIntegers acc items = some total ↔
      (∀ part, part <+: items → Fits (part.foldl op.onIntegers acc)) ∧
        total = items.foldl op.onIntegers acc := by
  induction items generalizing acc with
  | nil =>
    simp only [foldIntegers, List.prefix_nil, forall_eq, List.foldl_nil, fits, true_and,
      Option.some.injEq]
    exact eq_comm
  | cons i rest ih =>
    simp only [foldIntegers, List.prefix_cons_iff, List.foldl_cons]
    by_cases next : inRange (op.onIntegers acc i) = true
    · rw [if_pos next, ih (inRange_iff.mp next)]
      apply and_congr_left'
      constructor
      · rintro parts part (rfl | ⟨tail, rfl, within⟩)
        · exact fits
        · exact parts tail within
      · intro parts tail within
        exact parts (i :: tail) (.inr ⟨tail, rfl, within⟩)
    · rw [if_neg next]
      simp only [reduceCtorEq, false_iff, not_and]
      intro parts
      exact absurd (inRange_iff.mpr (parts [i] (.inr ⟨[], rfl, List.nil_prefix⟩))) next

/-- What is said of an argument that stands for no number. -/
def complaint (name : String) (index : Nat) : Value → String
  | .string _ => s!"Cannot parse argument {index} of {name} as number"
  | _ => s!"Invalid argument {index} type for {name}"

/-- An argument that stands for no number is refused. -/
theorem decimal_of_noNumber {arg : Value} (h : arg.NoNumber) (index : Nat) :
    op.decimal index arg = .error (complaint op.name index arg) := by
  cases h with
  | string unread =>
    rw [decimal, unread]
    rfl
  | _ => rfl

/-- An argument is refused exactly when it stands for no number. -/
theorem decimal_eq_error_iff {index : Nat} {arg : Value} {e : String} :
    op.decimal index arg = .error e ↔ arg.NoNumber ∧ e = complaint op.name index arg := by
  constructor
  · intro refused
    have noNumber : arg.NoNumber := by
      cases arg with
      | integer i => cases refused
      | decimal d => cases refused
      | string text =>
        rw [decimal] at refused
        split at refused
        · cases refused
        · next unread => exact .string unread
      | null => exact .null
      | boolean b => exact .boolean b
      | list items => exact .list items
      | map entries => exact .map entries
      | record schema fields => exact .record schema fields
    exact ⟨noNumber, Except.error.inj (refused.symm.trans (decimal_of_noNumber noNumber index))⟩
  · rintro ⟨noNumber, rfl⟩
    exact decimal_of_noNumber noNumber index

/-- An argument that is not refused is read as a decimal. -/
theorem exists_decimal_iff {index : Nat} {arg : Value} :
    (∃ d, op.decimal index arg = .ok d) ↔ ¬ arg.NoNumber := by
  cases read : op.decimal index arg with
  | ok d =>
    simp only [Except.ok.injEq, exists_eq', true_iff]
    intro noNumber
    cases read.symm.trans (decimal_eq_error_iff.mpr ⟨noNumber, rfl⟩)
  | error e => simp [(decimal_eq_error_iff.mp read).1]

/-- Folding decimals is refused for the first argument that stands for no number. -/
theorem foldDecimals_eq_error_iff {index : Nat} {acc : Decimal} {args : List Value} {e : String} :
    op.foldDecimals index acc args = .error e ↔
      FirstAt (¬ ·.1.NoNumber) (fun a ↦ a.1.NoNumber ∧ e = complaint op.name a.2 a.1)
        (args.zipIdx index) := by
  induction args generalizing index acc with
  | nil => simp [foldDecimals, FirstAt]
  | cons arg rest ih =>
    rw [foldDecimals, bind_eq_error, List.zipIdx_cons, firstAt_cons, decimal_eq_error_iff,
      ← @exists_decimal_iff op index]
    simp only [ih, exists_and_right]

/-- Folding decimals is refused exactly if some argument stands for no number. -/
theorem exists_error_of_foldDecimals_iff {index : Nat} {acc : Decimal} {args : List Value} :
    (∃ e, op.foldDecimals index acc args = .error e) ↔ ∃ arg ∈ args, arg.NoNumber := by
  induction args generalizing index acc with
  | nil => simp [foldDecimals]
  | cons arg rest ih =>
    rw [List.exists_mem_cons_iff, foldDecimals]
    cases read : op.decimal index arg with
    | error e =>
      have noNumber : arg.NoNumber := (decimal_eq_error_iff.mp read).1
      exact ⟨fun _ ↦ .inl noNumber, fun _ ↦ ⟨e, rfl⟩⟩
    | ok d =>
      have number : ¬ arg.NoNumber := exists_decimal_iff.mp ⟨d, read⟩
      rw [or_iff_right number]
      exact ih

/-- What an operation makes of integers, whether or not an integer value can hold it. -/
def total (op : Arithmetic) (items : List Int) : Int := items.foldl op.onIntegers op.neutral

/-- Of integers an operation makes the exact result if every result on the way can be held. -/
theorem combinator_integers {items : List Int64} (given : items ≠ [])
    (fits : ∀ part, part <+: items.map Int64.toInt → Fits (op.total part)) :
    op.combinator (items.map .integer) =
      .ok (.integer (Int64.ofInt (op.total (items.map Int64.toInt)))) := by
  have start : Fits op.neutral := fits [] List.nil_prefix
  have folds : op.foldIntegers op.neutral (items.map Int64.toInt) =
      some (op.total (items.map Int64.toInt)) :=
    (foldIntegers_eq_some_iff start).mpr ⟨fits, rfl⟩
  rw [combinator, if_neg (by simpa using given), integers?_map]
  simp only [folds]

/-- Integers are refused if a result on the way cannot be held. -/
theorem combinator_integers_of_overflow {items : List Int64} (given : items ≠ [])
    (start : Fits op.neutral)
    (overflows : ¬ ∀ part, part <+: items.map Int64.toInt → Fits (op.total part)) :
    op.combinator (items.map .integer) = .error s!"{op.name} overflowed" := by
  have stops : op.foldIntegers op.neutral (items.map Int64.toInt) = none := by
    rw [Option.eq_none_iff_forall_ne_some]
    intro total folds
    exact overflows ((foldIntegers_eq_some_iff start).mp folds).1
  rw [combinator, if_neg (by simpa using given), integers?_map]
  simp only [stops]

/-- What is made of integers is the exact result. -/
theorem eq_of_combinator_integers {items : List Int64} (start : Fits op.neutral) {v : Value}
    (h : op.combinator (items.map .integer) = .ok v) :
    v = .integer (Int64.ofInt (op.total (items.map Int64.toInt))) := by
  have given : items ≠ [] := by
    rintro rfl
    cases h
  by_cases fits : ∀ part, part <+: items.map Int64.toInt → Fits (op.total part)
  · rw [combinator_integers given fits] at h
    exact (Except.ok.inj h).symm
  · rw [combinator_integers_of_overflow given start fits] at h
    cases h

/-- With an argument that is not an integer, all arguments are taken for decimals. -/
theorem combinator_of_other {args : List Value} {arg : Value} (member : arg ∈ args)
    (other : ∀ i, arg ≠ .integer i) :
    op.combinator args = (op.foldDecimals 0 (.ofInt op.neutral) args).map .decimal := by
  rw [combinator, if_neg (by simpa using List.ne_nil_of_mem member),
    integers?_eq_none member other]

end Combinator.Arithmetic

namespace Combinators

open Combinator.Arithmetic (Fits complaint inRange_iff)

/-- The built-in operations on numbers, and what they are to make of integers. -/
inductive Computes : String → (List Int → Int) → Prop
  | add : Computes "add" List.sum
  | multiply : Computes "multiply" List.prod

variable {name : String} {total : List Int → Int}

/-- A built-in operation is run under its own name, and does on integers what it is to do. -/
theorem Computes.exists_arithmetic (h : Computes name total) :
    ∃ op : Combinator.Arithmetic, op.name = name ∧ op.total = total ∧ Fits op.neutral ∧
      ∀ args, builtin.call name args = op.combinator args := by
  cases h with
  | add =>
    refine ⟨.sum, rfl, funext fun items ↦ ?_, inRange_iff.mp rfl, fun args ↦ rfl⟩
    exact List.sum_eq_foldl.symm
  | multiply =>
    refine ⟨.product, rfl, funext fun items ↦ ?_, inRange_iff.mp rfl, fun args ↦ rfl⟩
    exact List.prod_eq_foldl.symm

/-- The order of integers makes no difference to what is to be made of them. -/
theorem Computes.eq_of_perm (h : Computes name total) {items others : List Int}
    (perm : items.Perm others) : total items = total others := by
  cases h with
  | add => exact perm.sum_eq
  | multiply => exact perm.prod_eq

/-- The built-in sums and products are exact. Of integers, of which there must be one, they make the
mathematical result if every sum or product of the first of them fits, and otherwise they overflow;
so orders of the same integers that do not overflow make the same. If an argument is not an integer,
the result never is: it is a decimal, unless an argument stands for no number, and then the first
such argument is named. -/
theorem integers_stay_exact (computes : Computes name total) :
    builtin.call name [] = .error s!"{name} requires at least 1 argument" ∧
      (∀ items : List Int64, items ≠ [] →
        ((∀ part, part <+: items.map Int64.toInt → Fits (total part)) →
            ∃ x : Int64, builtin.call name (items.map .integer) = .ok (.integer x) ∧
              x.toInt = total (items.map Int64.toInt)) ∧
          ((¬ ∀ part, part <+: items.map Int64.toInt → Fits (total part)) →
            builtin.call name (items.map .integer) = .error s!"{name} overflowed")) ∧
      (∀ items others : List Int64, items.Perm others → ∀ v w,
        builtin.call name (items.map .integer) = .ok v →
          builtin.call name (others.map .integer) = .ok w → v = w) ∧
      ∀ args : List Value, (∃ arg ∈ args, ∀ i, arg ≠ .integer i) →
        (∀ v, builtin.call name args = .ok v → ∃ d, v = .decimal d) ∧
          ((∃ e, builtin.call name args = .error e) ↔ ∃ arg ∈ args, arg.NoNumber) ∧
          ∀ e, builtin.call name args = .error e ↔
            FirstAt (¬ ·.1.NoNumber) (fun a ↦ a.1.NoNumber ∧ e = complaint name a.2 a.1)
              args.zipIdx := by
  obtain ⟨op, rfl, rfl, neutral, runs⟩ := computes.exists_arithmetic
  simp only [runs]
  refine ⟨rfl, fun items given ↦ ⟨fun fits ↦ ?_, ?_⟩, ?_, ?_⟩
  · refine ⟨_, Combinator.Arithmetic.combinator_integers given fits, ?_⟩
    have held := fits _ List.prefix_rfl
    exact Int64.toInt_ofInt_of_le held.1 held.2
  · exact Combinator.Arithmetic.combinator_integers_of_overflow given neutral
  · intro items others perm v w first second
    rw [Combinator.Arithmetic.eq_of_combinator_integers neutral first,
      Combinator.Arithmetic.eq_of_combinator_integers neutral second,
      computes.eq_of_perm (perm.map Int64.toInt)]
  · rintro args ⟨arg, member, other⟩
    rw [Combinator.Arithmetic.combinator_of_other member other]
    simp only [map_eq_ok, map_eq_error]
    refine ⟨?_, ?_, fun e ↦ Combinator.Arithmetic.foldDecimals_eq_error_iff⟩
    · rintro v ⟨d, -, rfl⟩
      exact ⟨d, rfl⟩
    · exact Combinator.Arithmetic.exists_error_of_foldDecimals_iff

/-- A sum that would fit overflows on the way, and does not in another order; a factor of zero
comes too late. Beside a numeral, the first argument that stands for no number is named. -/
theorem integers_stay_exact_limits :
    Computes "add" List.sum ∧ Computes "multiply" List.prod ∧
      builtin.call "add" [.integer Int64.maxValue, .integer 1, .integer (-1)] =
        .error "add overflowed" ∧
      builtin.call "add" [.integer Int64.maxValue, .integer (-1), .integer 1] =
        .ok (.integer Int64.maxValue) ∧
      builtin.call "multiply" [.integer Int64.maxValue, .integer 2, .integer 0] =
        .error "multiply overflowed" ∧
      builtin.call "multiply" [.integer 2, .string "2.5", .null, .boolean true] =
        .error "Invalid argument 2 type for multiply" := by
  obtain ⟨-, sums, -, -⟩ := integers_stay_exact .add
  obtain ⟨-, products, -, mixed⟩ := integers_stay_exact .multiply
  have fit : ∀ part ∈ [Int64.maxValue.toInt, -1, 1].inits, Fits part.sum := by decide
  refine ⟨.add, .multiply, ?_, ?_, ?_, ?_⟩
  · apply (sums [Int64.maxValue, 1, -1] (by simp)).2
    intro fits
    exact absurd (fits [Int64.maxValue.toInt, 1] (by decide)) (by decide)
  · obtain ⟨x, made, same⟩ := (sums [Int64.maxValue, -1, 1] (by simp)).1 fun part within ↦
      fit part ((List.mem_inits _ _).mpr within)
    obtain rfl : x = Int64.maxValue := Int64.toInt_inj.mp same
    exact made
  · apply (products [Int64.maxValue, 2, 0] (by simp)).2
    intro fits
    exact absurd (fits [Int64.maxValue.toInt, 2] (by decide)) (by decide)
  · apply ((mixed _ ⟨.null, by simp, nofun⟩).2.2 _).mpr
    have number : (Decimal.ofNumeral? "2.5").isSome = true := by decide +kernel
    refine ⟨[(.integer 2, 0), (.string "2.5", 1)], (.null, 2), [(.boolean true, 3)], rfl, ?_,
      .null, rfl⟩
    simp only [List.forall_mem_cons]
    refine ⟨nofun, ?_, nofun⟩
    intro noNumber
    cases noNumber with
    | string unread => simp [unread] at number

end Combinators

end Fieldwise
