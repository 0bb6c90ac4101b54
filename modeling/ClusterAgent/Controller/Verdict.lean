import Mathlib.Data.List.Basic

/-!
# Cluster agent — verdicts and sub-reconciler results

What a sub-reconciler tells the chain it runs in. A `VerdictCollector` belongs
to one reconcile pass and keeps the first report of each kind; nothing can
retract a verdict. A `SubReconcilerResult` says how the chain proceeds.

* `failed_collect` — after any sequence of reports the collector holds the first
  terminal one, whatever was reported in between;
* `VerdictCollector.Le` — a pass only ever extends its collector.
-/

namespace ClusterAgent

/-! ## The collector -/

structure Verdict where
  reason : String
  message : String
  deriving DecidableEq, Repr

structure VerdictCollector where
  notReady : Option Verdict := none
  failed : Option Verdict := none
  deriving DecidableEq, Repr

namespace VerdictCollector

/-- Record a retriable not-ready verdict, unless there is one already. -/
def reportNotReady (c : VerdictCollector) (reason msg : String) : VerdictCollector :=
  match c.notReady with
  | none => { c with notReady := some ⟨reason, msg⟩ }
  | some _ => c

/-- Record a terminal failure, unless there is one already. -/
def reportFailed (c : VerdictCollector) (reason msg : String) : VerdictCollector :=
  match c.failed with
  | none => { c with failed := some ⟨reason, msg⟩ }
  | some _ => c

def Empty (c : VerdictCollector) : Prop := c.notReady = none ∧ c.failed = none

instance (c : VerdictCollector) : Decidable c.Empty := inferInstanceAs (Decidable (_ ∧ _))

/-- `d` extends `c`: every verdict of `c` is still there. -/
structure Le (c d : VerdictCollector) : Prop where
  notReady : ∀ v, c.notReady = some v → d.notReady = some v
  failed : ∀ v, c.failed = some v → d.failed = some v

theorem Le.refl (c : VerdictCollector) : c.Le c := ⟨fun _ h => h, fun _ h => h⟩

theorem Le.trans {c d e : VerdictCollector} (h : c.Le d) (h' : d.Le e) : c.Le e :=
  ⟨fun v hv => h'.notReady v (h.notReady v hv), fun v hv => h'.failed v (h.failed v hv)⟩

theorem Le.not_empty {c d : VerdictCollector} (h : c.Le d) (hc : ¬ c.Empty) : ¬ d.Empty := by
  rintro ⟨hn, hf⟩
  apply hc
  refine ⟨?_, ?_⟩
  · cases hcn : c.notReady with
    | none => rfl
    | some v => rw [h.notReady v hcn] at hn; cases hn
  · cases hcf : c.failed with
    | none => rfl
    | some v => rw [h.failed v hcf] at hf; cases hf

theorem le_reportNotReady {c : VerdictCollector} {reason msg : String} :
    c.Le (c.reportNotReady reason msg) := by
  unfold reportNotReady
  split
  · next h =>
    refine ⟨fun v hv => ?_, fun _ hv => hv⟩
    rw [h] at hv
    cases hv
  · exact Le.refl c

theorem le_reportFailed {c : VerdictCollector} {reason msg : String} :
    c.Le (c.reportFailed reason msg) := by
  unfold reportFailed
  split
  · next h =>
    refine ⟨fun _ hv => hv, fun v hv => ?_⟩
    rw [h] at hv
    cases hv
  · exact Le.refl c

theorem notReady_reportNotReady (c : VerdictCollector) (reason msg : String) :
    (c.reportNotReady reason msg).notReady = some (c.notReady.getD ⟨reason, msg⟩) := by
  unfold reportNotReady
  split
  · next h => simp [h]
  · next v h => simp [h]

theorem failed_reportFailed (c : VerdictCollector) (reason msg : String) :
    (c.reportFailed reason msg).failed = some (c.failed.getD ⟨reason, msg⟩) := by
  unfold reportFailed
  split
  · next h => simp [h]
  · next v h => simp [h]

@[simp] theorem failed_reportNotReady {c : VerdictCollector} {reason msg : String} :
    (c.reportNotReady reason msg).failed = c.failed := by
  unfold reportNotReady
  split <;> rfl

@[simp] theorem notReady_reportFailed {c : VerdictCollector} {reason msg : String} :
    (c.reportFailed reason msg).notReady = c.notReady := by
  unfold reportFailed
  split <;> rfl

theorem reportNotReady_not_empty {c : VerdictCollector} {reason msg : String} :
    ¬ (c.reportNotReady reason msg).Empty := by
  rintro ⟨h, -⟩
  rw [notReady_reportNotReady] at h
  cases h

theorem reportFailed_not_empty {c : VerdictCollector} {reason msg : String} :
    ¬ (c.reportFailed reason msg).Empty := by
  rintro ⟨-, h⟩
  rw [failed_reportFailed] at h
  cases h

end VerdictCollector

/-! ## Sequences of reports -/

inductive VerdictReport where
  | notReady (v : Verdict)
  | failed (v : Verdict)
  deriving DecidableEq, Repr

def VerdictReport.failed? : VerdictReport → Option Verdict
  | .failed v => some v
  | .notReady _ => none

def VerdictCollector.report (c : VerdictCollector) : VerdictReport → VerdictCollector
  | .notReady v => c.reportNotReady v.reason v.message
  | .failed v => c.reportFailed v.reason v.message

def VerdictCollector.collect (reports : List VerdictReport) : VerdictCollector :=
  reports.foldl VerdictCollector.report {}

namespace VerdictCollector

theorem failed_foldl_report (reports : List VerdictReport) (c : VerdictCollector) :
    (reports.foldl report c).failed = c.failed.or (reports.findSome? VerdictReport.failed?) := by
  induction reports generalizing c with
  | nil => simp
  | cons r rest ih =>
    rw [List.foldl_cons, ih, List.findSome?_cons]
    cases r with
    | notReady v => simp [report, VerdictReport.failed?]
    | failed v =>
      rw [report, failed_reportFailed]
      cases c.failed <;> simp [VerdictReport.failed?]

theorem failed_collect (reports : List VerdictReport) :
    (collect reports).failed = reports.findSome? VerdictReport.failed? := by
  rw [collect, failed_foldl_report]
  rfl

end VerdictCollector

/-! ## How the chain proceeds -/

/-- A sub-reconciler's signal to the chain. Durations are in nanoseconds. -/
inductive SubReconcilerResult where
  | nil
  | stop
  | requeue
  | requeueAfter (t : Int)
  | deferredRequeue (t : Int)
  deriving DecidableEq, Repr

def SubReconcilerResult.EndsChain : SubReconcilerResult → Prop
  | .stop | .requeue | .requeueAfter _ => True
  | .nil | .deferredRequeue _ => False

structure ReconcileResult where
  requeue : Bool := false
  requeueAfter : Int := 0
  deriving DecidableEq, Repr

end ClusterAgent
