import DocumentQuery.Compile.Query

/-!
What a call to compile reports while it runs, in order: what it was asked, that an order of
results is left aside, each property that is found, and the rejection if there is one.
-/

namespace DocumentQuery

inductive TraceEvent where
  | asked (filter : String) (fulltextDisabled : Bool)
  | orderIgnored (terms : Nat)
  | found (resolution : Resolution)
  | rejected (rejection : Rejection)
  deriving DecidableEq

def Stop.traceEvents : Stop → List TraceEvent
  | .rejected rejection => [.rejected rejection]
  | .aborted => []

def Attempt.traceEvents {Result : Type} (attempt : Attempt Result) : List TraceEvent :=
  attempt.resolutions.map .found ++
    match attempt.outcome with
    | .ok _ => []
    | .error reason => reason.traceEvents

def Compiler.trace (compiler : Compiler) (query : Query) : List TraceEvent :=
  .asked query.filter.display compiler.settings.fulltextSearchDisabled ::
    (if query.order.isEmpty then [] else [.orderIgnored query.order.length])
    ++ (compiler.compile query).traceEvents

end DocumentQuery
