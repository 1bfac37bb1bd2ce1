/-
# DottedQuery.Engine -- queries from specification to result

An engine has a catalog, an executor that answers plans, and a choice about labels. A query
that cannot be planned never reaches the executor.
-/
import DottedQuery.Result

namespace DottedQuery

/-- Whatever answers a plan with rows, or fails in its own way. -/
abbrev Executor (ε : Type) := Plan → Except ε (List NativeRow)

/-- Why a query has no result. -/
inductive RunError (ε : Type) where
  | plan (cause : PlanError)
  | storage (cause : ε)
  | width (cause : WidthError)

/-- Plans a query, has the plan answered and shapes the rows. What answers the plan may do more than
that; what it does is left to the monad. -/
def Catalog.serve {m : Type → Type} [Monad m] {ε α : Type} (c : Catalog)
    (answer : Plan → m (Except ε (List NativeRow)))
    (shape : Plan → List NativeRow → Except WidthError α) (spec : QuerySpec) :
    m (Except (RunError ε) α) :=
  match c.plan spec with
  | .error cause => pure (.error (.plan cause))
  | .ok plan => do
    let rows ← answer plan
    pure do (shape plan (← rows.mapError .storage)).mapError .width

/-- What runs queries. -/
structure Engine (ε : Type) where
  catalog : Catalog
  executor : Executor ε
  /-- Whether labels leave out a trailing `_id`. -/
  stripIdSuffix : Bool := true

namespace Engine

variable {ε α : Type}

/-- Serves a query with the answers of the executor. -/
def result (e : Engine ε) (shape : Plan → List NativeRow → Except WidthError α)
    (spec : QuerySpec) : Except (RunError ε) α :=
  Id.run (e.catalog.serve (fun plan => pure (e.executor plan)) shape spec)

/-- The result of a query under the names of columns. -/
def runRaw (e : Engine ε) (spec : QuerySpec) : Except (RunError ε) (List (Dict Value)) :=
  e.result Plan.rawRows spec

/-- The result of a query under dotted paths, with labels. -/
def run (e : Engine ε) (spec : QuerySpec) : Except (RunError ε) Interpreted :=
  e.result (fun plan => plan.interpret e.stripIdSuffix) spec

end Engine

end DottedQuery
