import Vigil.Chain.Kind
import Vigil.Request.Execution

/-!
# Running a chain

The requests of a chain are carried out one after the other, each with the variables that were
there before it; the variables of a request that succeeds are added for the next. What comes out
is an `Outcome`.
-/

set_option autoImplicit false

namespace Vigil

/-- A request that failed, and why. -/
structure StepFailure where
  request : String
  failure : Failure
  deriving DecidableEq

/-- What comes out of a chain. -/
structure Outcome where
  /-- The variables after the last request. -/
  store : Store
  /-- The first request that failed. -/
  firstFailure : Option StepFailure := none
  /-- The number of requests carried out, well or not. -/
  executed : Nat := 0
  /-- The number of requests that failed. -/
  failed : Nat := 0
  /-- The number of requests not attempted. -/
  skipped : Nat := 0
  deriving DecidableEq

namespace Outcome

/-- Whether no request failed. -/
def isSuccess (o : Outcome) : Bool := o.firstFailure.isNone

/-- The outcome after one more request that succeeded. -/
def succeed (o : Outcome) (vs : List Variable) : Outcome :=
  { o with store := o.store.extend vs, executed := o.executed + 1 }

/-- The outcome after one more request that failed. -/
def fail (o : Outcome) (request : String) (f : Failure) : Outcome :=
  { o with
    firstFailure := o.firstFailure.orElse fun _ => some ⟨request, f⟩
    executed := o.executed + 1
    failed := o.failed + 1 }

end Outcome

namespace ChainKind

/-- Carries out requests in order, starting from the outcome of those before. -/
def steps (kind : ChainKind) (client : Client) (server : Server) :
    List RequestSpec → Outcome → Journal → Outcome × Journal
  | [], o, j => (o, j)
  | s :: rest, o, j =>
    match s.execute client server o.store (j.report (.executing kind s.name)) with
    | (.ok vs, j) =>
      kind.steps client server rest (o.succeed vs)
        (j.report (.succeeded kind s.name vs.length))
    | (.error f, j) =>
      let o := o.fail s.name f
      let j := j.report (.failed kind s.name f)
      if kind.stopsOnFailure then (o, j) else kind.steps client server rest o j

/-- Carries out a chain, starting with the variables of `store`. -/
def run (kind : ChainKind) (client : Client) (server : Server) (specs : List RequestSpec)
    (store : Store) (j : Journal) : Outcome × Journal :=
  match kind.steps client server specs { store } j with
  | (o, j) =>
    let skipped := specs.length - o.executed
    ({ o with skipped }, if 0 < skipped then j.report (.skipping kind skipped) else j)

end ChainKind

end Vigil
