import Mathlib.Data.List.Sort
import ClusterAgent.Lib.Effect

/-!
# Cluster agent — the port verifier as a reconcile pass sees it

A pass never dials: it reads the answers the verifier's workers left, and lines
up the next dial. `Verifier` is the state the pass's calls read and write, and
each method is one atomic step on it; the workers move it between passes.
-/

namespace ClusterAgent.PortCheck

structure PortResult where
  port : Int
  «open» : Bool
  deriving DecidableEq, Repr

structure Result where
  ports : List PortResult := []
  deriving DecidableEq, Repr

namespace Result

def allOpen (r : Result) : Bool := r.ports.all PortResult.open

def closedPorts (r : Result) : List Int :=
  ((r.ports.filter fun p => !p.open).map PortResult.port).insertionSort (· ≤ ·)

def message (r : Result) : String :=
  let closed := r.closedPorts
  if closed.length = 0 then "all declared ports are listening"
  else
    let verified := r.ports.map fun p => toString p.port ++ (if p.open then " open" else " refused")
    let plural := if 1 < closed.length then "ports" else "port"
    "readiness check failed: nothing listening on " ++ plural ++ " " ++
      String.intercalate ", " (closed.map toString) ++
      " (ports verified: [" ++ String.intercalate ", " verified ++ "]). " ++
      "If your app listens on a different port, update the port in your stack definition. " ++
      "If it listens on 127.0.0.1, change it to 0.0.0.0."

end Result

/-- Results are stored per namespace and name, with the revision alongside. -/
structure Key where
  ns : String
  name : String
  revision : String
  deriving DecidableEq, Repr

def Key.nameKey (k : Key) : String × String := (k.ns, k.name)

structure StoredResult where
  revision : String
  result : Result
  deriving DecidableEq, Repr

structure DialJob where
  key : Key
  podIP : String
  ports : List Int
  deriving DecidableEq, Repr

def queueDepth : Nat := 512

structure Verifier where
  queue : List DialJob := []
  results : List ((String × String) × StoredResult) := []
  pending : List (String × String) := []
  deriving DecidableEq, Repr

instance lawfulNames : LawfulBEq (String × String) := inferInstance

namespace Verifier

def get (v : Verifier) (key : Key) : Option Result :=
  match v.results.lookup key.nameKey with
  | none => none
  | some stored => if stored.revision ≠ key.revision then none else some stored.result

def isPending (v : Verifier) (key : Key) : Bool := decide (key.nameKey ∈ v.pending)

/-- Schedule a check; a duplicate, answered or unqueueable request is dropped. -/
def enqueue (v : Verifier) (key : Key) (podIP : String) (ports : List Int) : Bool × Verifier :=
  if (v.get key).isSome || v.isPending key then (false, v)
  else if v.queue.length < queueDepth then
    (true, { v with
      queue := v.queue ++ [{ key := key, podIP := podIP, ports := ports }]
      pending := key.nameKey :: v.pending })
  else
    -- the pending marker set for a job that did not fit is cleared again
    (false, v)

def forget (v : Verifier) (key : Key) : Verifier :=
  match v.get key with
  | none => v
  | some _ => { v with results := v.results.filter fun e => decide (e.1 ≠ key.nameKey) }

end Verifier

end ClusterAgent.PortCheck
