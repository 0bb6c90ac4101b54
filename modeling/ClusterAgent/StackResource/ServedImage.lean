import ClusterAgent.StackResource.JobPass
import ClusterAgent.StackResource.RestartPass

/-!
# Cluster agent — the image in the pod template

Every kind of workload has a pod template, and its main container runs the image
of the resource: the one in the spec, or the recorded image of the current build.
A pass puts no other image into any of them.

* `workloadTemplates` — the templates stored under the resource's key;
* `AllTemplates` — a property of all of them;
* `templates_kind` — the workload step keeps a property that templates with the
  resource's image have.
-/

namespace ClusterAgent.StackResourceController

open Pass Effect
open Workload (imageFor)

/-! ## Templates -/

def workloadTemplates (ns name : String) (c : Cluster) : List PodTemplateSpec :=
  ((lookup .deployment c ns name).map fun o => o.spec.template).toList ++
    ((lookup .statefulSet c ns name).map fun o => o.spec.template).toList ++
    ((lookup .cronJob c ns name).map fun o => o.spec.jobTemplate.template).toList ++
    (jobsOf ns name c).map fun o => o.spec.template

structure AllTemplates (ns name : String) (P : PodTemplateSpec → Prop) (c : Cluster) : Prop where
  deployment : ∀ o, lookup .deployment c ns name = some o → P o.spec.template
  statefulSet : ∀ o, lookup .statefulSet c ns name = some o → P o.spec.template
  cronJob : ∀ o, lookup .cronJob c ns name = some o → P o.spec.jobTemplate.template
  jobs : ∀ o ∈ jobsOf ns name c, P o.spec.template

theorem allTemplates_iff {ns name : String} {P : PodTemplateSpec → Prop} {c : Cluster} :
    AllTemplates ns name P c ↔ ∀ t ∈ workloadTemplates ns name c, P t := by
  unfold workloadTemplates
  simp only [List.mem_append, Option.mem_toList, Option.map_eq_some_iff, List.mem_map]
  constructor
  · rintro h t (((⟨o, ho, rfl⟩ | ⟨o, ho, rfl⟩) | ⟨o, ho, rfl⟩) | ⟨o, ho, rfl⟩)
    · exact h.deployment o ho
    · exact h.statefulSet o ho
    · exact h.cronJob o ho
    · exact h.jobs o ho
  · intro h
    exact
      { deployment := fun o ho => h _ (Or.inl (Or.inl (Or.inl ⟨o, ho, rfl⟩)))
        statefulSet := fun o ho => h _ (Or.inl (Or.inl (Or.inr ⟨o, ho, rfl⟩)))
        cronJob := fun o ho => h _ (Or.inl (Or.inr ⟨o, ho, rfl⟩))
        jobs := fun o ho => h _ (Or.inr ⟨o, ho, rfl⟩) }

section

variable {ns name : String} {P : PodTemplateSpec → Prop} {fp : Footprint} {w w' : World}

theorem AllTemplates.of_touches (h : AllTemplates ns name P w.cluster) (hTouches : Touches fp w w')
    (hDeployment : .deployment ∉ fp.objects ∨
      ∀ o, lookup .deployment w'.cluster ns name = some o → P o.spec.template)
    (hStatefulSet : .statefulSet ∉ fp.objects ∨
      ∀ o, lookup .statefulSet w'.cluster ns name = some o → P o.spec.template)
    (hCronJob : .cronJob ∉ fp.objects ∨
      ∀ o, lookup .cronJob w'.cluster ns name = some o → P o.spec.jobTemplate.template)
    (hJob : .job ∉ fp.objects ∨ ∀ o ∈ jobsOf ns name w'.cluster, P o.spec.template) :
    AllTemplates ns name P w'.cluster := by
  refine ⟨hDeployment.elim (fun hNot o ho => h.deployment o ?_) id,
    hStatefulSet.elim (fun hNot o ho => h.statefulSet o ?_) id,
    hCronJob.elim (fun hNot o ho => h.cronJob o ?_) id,
    hJob.elim (fun hNot o ho => h.jobs o ?_) id⟩
  · exact (lookup_same .deployment (hTouches.objects _ hNot)).symm.trans ho
  · exact (lookup_same .statefulSet (hTouches.objects _ hNot)).symm.trans ho
  · exact (lookup_same .cronJob (hTouches.objects _ hNot)).symm.trans ho
  · exact jobsOf_eq_of_jobs (hTouches.objects .job hNot) ns name ▸ ho

end

section

variable (env : Env)

/-! ## The workload step -/

variable {ns name : String} {P : PodTemplateSpec → Prop} {w : World}

def TemplatesMeet (ns name : String) (P : PodTemplateSpec → Prop) (w : World) : Prop :=
  AllTemplates ns name P w.cluster

theorem TemplatesMeet.outside {fp : Footprint} {w' : World} (h : TemplatesMeet ns name P w)
    (hTouches : Touches fp w w') (hDeployment : .deployment ∉ fp.objects)
    (hStatefulSet : .statefulSet ∉ fp.objects) (hCronJob : .cronJob ∉ fp.objects)
    (hJob : .job ∉ fp.objects) : TemplatesMeet ns name P w' :=
  AllTemplates.of_touches h hTouches (Or.inl hDeployment) (Or.inl hStatefulSet) (Or.inl hCronJob)
    (Or.inl hJob)

variable (hResource : isResource ns name w.resource = true)
  (hOld : TemplatesMeet ns name P w)
  (hNew : ∀ image, imageFor env w.resource w.cluster = some image →
    ∀ t, templateImages t = [image] → P t)

include hResource hOld hNew

theorem templates_attempted {S T : Type} {kind : Kind S T} {template : S → PodTemplateSpec}
    {M : S → Prop} (hM : ∀ spec, M spec → RunsImage env w (template spec))
    (hThere : ∀ o, lookup kind w.cluster ns name = some o → P (template o.spec)) {w' : World}
    (h : Attempted kind M w w') :
    ∀ o, lookup kind w'.cluster ns name = some o → P (template o.spec) := by
  intro o ho
  obtain ⟨rfl, rfl⟩ := isResource_iff.mp hResource
  rcases h with hGet | hWrote
  · exact hThere o ((lookup_congr hGet).symm.trans ho)
  · obtain ⟨o', hLookup, -, hSpec⟩ := hWrote.stored
    obtain rfl : o' = o := Option.some.inj (hLookup.symm.trans ho)
    obtain ⟨image, hImage, hRuns⟩ := hM _ hSpec
    exact hNew image hImage _ hRuns

omit hResource in
theorem templates_jobs {c : Cluster} (h : JobWrites env w c) :
    ∀ o ∈ jobsOf ns name c, P o.spec.template := by
  intro o ho
  obtain ⟨hMem, hKey⟩ := List.mem_filter.mp ho
  cases h with
  | kept hKept =>
    obtain ⟨x, hx, hSame, -⟩ := hKept o hMem
    rw [hSame.spec]
    exact hOld.jobs x (List.mem_filter.mpr ⟨hx, hSame.hasKey ns name ▸ hKey⟩)
  | created job _ hJobs _ hTemplate _ _ =>
    rw [hJobs] at hMem
    rcases List.mem_append.mp hMem with hThere | hCreated
    · exact hOld.jobs o (List.mem_filter.mpr ⟨hThere, hKey⟩)
    · rw [List.mem_singleton.mp hCreated]
      obtain ⟨image, hImage, hRuns⟩ := hTemplate
      exact hNew image hImage _ hRuns

omit hResource hOld hNew in
theorem templates_step {m : Pass SubReconcilerResult} {fp : Footprint} {X : World → Prop}
    (hm : Ensures (· = w) m X) (hHas : Has fp m)
    (hAll : ∀ w', X w' → Touches fp w w' → TemplatesMeet ns name P w') :
    Ensures (· = w) m (TemplatesMeet ns name P) :=
  (hm.and (hHas.leads (.refl _ w))).conseq (fun _ w' h => hAll w' h.1 h.2)
    fun w' h => hAll w' h.1 h.2

/-- **The workload step.** Whatever the kind and the outcome, templates that were not there
before have the image of the resource. -/
theorem templates_kind :
    Ensures (· = w) (Workload.reconcileKind env w.resource.spec.workloadType)
      (TemplatesMeet ns name P) := by
  -- three types have a Deployment
  have hDeployment : w.resource.spec.workloadType ≠ .statefulService →
      Ensures (· = w) (Workload.reconcileDeployment env) (TemplatesMeet ns name P) := by
    intro hNot
    refine templates_step ((reconcileDeployment_applied env hNot).post fun _ _ h => h.attempted)
      Workload.has_reconcileDeployment fun w' h hTouches => AllTemplates.of_touches hOld hTouches
        (Or.inr ?_) (Or.inl (by decide)) (Or.inl (by decide)) (Or.inl (by decide))
    exact templates_attempted env hResource hOld hNew (fun _ => Serves.runsImage env)
      hOld.deployment h
  -- each kind writes its own object; those of the other kinds are outside its footprint
  cases hType : w.resource.spec.workloadType with
  | unset => exact hDeployment (by rw [hType]; decide)
  | service => exact hDeployment (by rw [hType]; decide)
  | worker => exact hDeployment (by rw [hType]; decide)
  | statefulService =>
    refine templates_step ((reconcileStatefulSet_applied env hType).post fun _ _ h => h.attempted)
      Workload.has_reconcileStatefulSet fun w' h hTouches => AllTemplates.of_touches hOld hTouches
        (Or.inl (by decide)) (Or.inr ?_) (Or.inl (by decide)) (Or.inl (by decide))
    exact templates_attempted env hResource hOld hNew (fun _ => Serves.runsImage env)
      hOld.statefulSet h
  | cronJob =>
    refine templates_step ((reconcileCronJob_wrote env).post fun _ _ => Or.inr)
      Workload.has_reconcileCronJob fun w' h hTouches => AllTemplates.of_touches hOld hTouches
        (Or.inl (by decide)) (Or.inl (by decide)) (Or.inr ?_) (Or.inl (by decide))
    exact templates_attempted env hResource hOld hNew (fun _ h => h) hOld.cronJob h
  | job =>
    refine templates_step ((reconcileJob_step env hResource).conseq (fun _ _ h => h.1)
      fun _ h => h.1)
      Workload.has_reconcileJob fun w' h hTouches => AllTemplates.of_touches hOld hTouches
        (Or.inl (by decide)) (Or.inl (by decide)) (Or.inl (by decide)) (Or.inr ?_)
    exact templates_jobs env hOld hNew h
  -- an unknown type is an error before any call
  | unknown name =>
    refine .err ?_
    exact hOld

end

end ClusterAgent.StackResourceController
