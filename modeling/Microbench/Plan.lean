import Microbench.Failure
import Microbench.Registry

/-!
# Plans

Which suites to run, in which order: the requested ones as requested, repeats kept, or without a
request the registered ones that are selected. A plan can be carried out if every suite of it has
the properties that it requires.
-/

namespace Microbench

/-- Why a plan cannot be made or carried out. -/
inductive PlanError where
  | unknownSuites (ids : List String)
  | missingProperties (missing : List (String × List String))
  deriving DecidableEq, Repr

/-- The text of the error. -/
def PlanError.message : PlanError → String
  | unknownSuites ids => "Unknown suite(s): " ++ commaSeparated ids
  | missingProperties missing =>
    "Missing required properties: " ++
      String.intercalate "; " (missing.map fun (suite, keys) =>
        suite ++ " needs " ++ commaSeparated keys)

/-- The suites to run, in order. -/
structure Plan (κ : Type) : Type 1 where
  suites : List (Definition κ)

namespace Plan

variable {κ : Type}

/-- The identifiers in order. -/
def ids (p : Plan κ) : List String := p.suites.map (·.id)

/-- The plan for what is requested, or for what is selected if nothing is. -/
def make (r : Registry κ) (requested : List String) (selects : String → Bool) :
    Except PlanError (Plan κ) :=
  if requested.isEmpty then .ok ⟨r.definitions.filter fun d => selects d.id⟩
  else
    let unknown := requested.filter fun id => (r.get? id).isNone
    if unknown.isEmpty then .ok ⟨requested.filterMap r.get?⟩ else .error (.unknownSuites unknown)

/-- The suites that lack properties, with what they lack. -/
def missing (p : Plan κ) (properties : Properties) : List (String × List String) :=
  (p.suites.map fun d => (d.id, d.missing properties)).filter fun (_, keys) => !keys.isEmpty

/-- Whether every suite has the properties that it requires. -/
def check (p : Plan κ) (properties : Properties) : Except PlanError Unit :=
  match p.missing properties with
  | [] => .ok ()
  | missing => .error (.missingProperties missing)

end Plan

end Microbench
