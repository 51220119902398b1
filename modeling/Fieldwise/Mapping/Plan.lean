import Fieldwise.Json
import Fieldwise.Mapping

/-!
# Plans

A plan is the account of a mapping: it names the schemas, fields and methods, without the methods
themselves. Mappings count as equal when their plans are.
-/

namespace Fieldwise

mutual

/-- The account of one binding. -/
inductive Step where
  | mk (field : String) (kind : Binding.Kind) (readers : List String) (combinator : Option String)
      (writer : Option String) (chained : Option Plan)

/-- The account of a mapping. -/
inductive Plan where
  | mk (target source : String) (defaults : List String) (steps : List Step)

end

mutual

/-- The account of a mapping. -/
def Mapping.plan : Mapping → Plan
  | .mk target source defaults bindings =>
    .mk target.name source defaults.fields (Mapping.steps bindings)

/-- The accounts of bindings, in order. -/
def Mapping.steps : List (String × Binding) → List Step
  | [] => []
  | (_, binding) :: rest => Binding.step binding :: Mapping.steps rest

/-- The account of a binding, under its own field. -/
def Binding.step : Binding → Step
  | .direct field reader writer =>
    .mk field .direct [reader.name] none (writer.map Method.name) none
  | .chained field reader writer nested =>
    .mk field .chained [reader.name] none (writer.map Method.name) (some nested.plan)
  | .synthetic field combinator readers writer =>
    .mk field .synthetic (readers.map Method.name) (some combinator.name)
      (writer.map Method.name) none

end

mutual

/-- Equality of plans. -/
def Plan.agrees : Plan → Plan → Bool
  | .mk t s d steps, .mk t' s' d' steps' =>
    t == t' && s == s' && d == d' && Plan.agreesSteps steps steps'

/-- Equality of rows of steps. -/
def Plan.agreesSteps : List Step → List Step → Bool
  | [], [] => true
  | a :: as, b :: bs => Step.agrees a b && Plan.agreesSteps as bs
  | _, _ => false

/-- Equality of steps. -/
def Step.agrees : Step → Step → Bool
  | .mk f k r c w chained, .mk f' k' r' c' w' chained' =>
    f == f' && k == k' && r == r' && c == c' && w == w' &&
      match chained, chained' with
      | none, none => true
      | some p, some q => Plan.agrees p q
      | _, _ => false

end

instance : BEq Plan := ⟨Plan.agrees⟩

/-- An entry of an object that is left out when it has no value. -/
private def optionalEntry (key : String) (value : Option String) : List (String × Json) :=
  match value with
  | some text => [(key, .string text)]
  | none => []

mutual

/-- The document of a plan; an empty default filter is left out. -/
def Plan.toJson : Plan → Json
  | .mk target source defaults steps =>
    .object <|
      [("target", .string target), ("source", .string source)] ++
        (if defaults.isEmpty then [] else [("default_filter", .ofStrings defaults)]) ++
        [("bindings", .array (Plan.stepsToJson steps))]

/-- The documents of steps. -/
def Plan.stepsToJson : List Step → List Json
  | [] => []
  | step :: rest => Step.toJson step :: Plan.stepsToJson rest

/-- The document of a step; what it does not have is left out. -/
def Step.toJson : Step → Json
  | .mk field kind readers combinator writer chained =>
    .object <|
      [("field", .string field), ("kind", .string kind.label), ("readers", .ofStrings readers)] ++
        optionalEntry "combinator" combinator ++ optionalEntry "writer" writer ++
        match chained with
        | some plan => [("chained", Plan.toJson plan)]
        | none => []

end

end Fieldwise
