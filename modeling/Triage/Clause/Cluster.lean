import Triage.Clause.Basic
import Triage.Cluster.Objects
import Triage.Cluster.PodSummary

/-!
# Clauses over cluster objects

Container runtimes, counts of replicas, jobs, and the states of pods.
-/

namespace Triage.Clause

open Cluster

/-- `op name`: whether some node has the runtime, or none has. -/
def runtime (clause : String) (runtimes : List String) : Answer := do
  let (op, expected) ← Condition.parseUnselected clause
  match op.ofEquality? (runtimes.any (sameToken · expected)) with
  | some answer => return answer
  | none => throw (.unorderedRuntimes op)

/-- `succeeded op n` or `failed op n`. -/
def job (clause : String) (job : Job) : Answer := do
  let (selector, op, operand) ← Condition.parseSelected clause
  match selector with
  | "succeeded" => integer op operand job.status.succeeded
  | "failed" => integer op operand job.status.failed
  | _ => throw (.unknownJobSelector selector)

/-- The word for a clause that asks whether an object is missing. -/
def absent : String := "absent"

/-- A number of replicas; an object that is there is not absent. -/
def replicas (clause : String) (ready : Int) : Answer :=
  if clause == absent then .ok false else count clause ready

/-- What a clause asks of a pod. -/
inductive PodTest where
  | always
  | healthy (negated : Bool)
  | state (negated : Bool) (token : String)
  deriving DecidableEq, Repr

/-- Why a clause asks nothing of a pod. -/
inductive PodTestError where
  | tooShort (clause : String)
  | unordered (operator : Comparison)
  | unreadable (error : ConditionError)
  deriving DecidableEq, Repr

def PodTestError.message : PodTestError → String
  | tooShort clause => s!"invalid when-clause '{clause}'"
  | unordered op => s!"operator {op.symbol} is not supported for pods"
  | unreadable error => (AnalysisError.condition error).message

namespace PodTest

/-- `op state`, where what follows does not count; nothing at all always holds. -/
def parse (clause : String) : Except PodTestError PodTest :=
  match wordsOf clause with
  | [] => .ok always
  | [_] => .error (.tooShort clause)
  | symbol :: token :: _ => do
    let op ← (Comparison.parse symbol).mapError .unreadable
    let negated ← match op with
      | .equal => pure false
      | .notEqual => pure true
      | op => throw (.unordered op)
    return if sameToken token "Healthy" then healthy negated else state negated token

def holds (pod : Pod) : PodTest → Bool
  | always => true
  | healthy negated => pod.isUnhealthy == negated
  | state negated token =>
    (sameToken token pod.status.phase || sameToken token pod.status.reason) != negated

end PodTest

end Triage.Clause
