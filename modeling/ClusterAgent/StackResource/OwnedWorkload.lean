import ClusterAgent.StackResource.JobPass

/-!
# Cluster agent — the workload object of a pass

Every workload type has one kind of object behind it, stored under the
resource's own name. A pass writes objects of that kind only, and of these only
the one under that name; a pass that ends without a verdict leaves it there. A
Job is the exception to the last part: one that is found under the name is
judged as it is, whoever controls it.

* `kindOf` — the kind behind a workload type;
* `WorkloadGains` — what a pass may add to the workload objects, also when it
  fails;
* `workloadPass_kind` — the reconciler of every kind keeps to it.
-/

namespace ClusterAgent.StackResourceController

open Pass Effect

inductive WorkloadKind where
  | deployment
  | statefulSet
  | job
  | cronJob
  deriving DecidableEq, Repr

def kindOf : WorkloadType → Option WorkloadKind
  | .unset | .service | .worker => some .deployment
  | .statefulService => some .statefulSet
  | .job => some .job
  | .cronJob => some .cronJob
  | .unknown _ => none

def WorkloadKind.objectKind : WorkloadKind → ObjectKind
  | .deployment => .deployment
  | .statefulSet => .statefulSet
  | .job => .job
  | .cronJob => .cronJob

def workloadTags : WorkloadKind → Cluster → List OwnerTag
  | .deployment => tags .deployment
  | .statefulSet => tags .statefulSet
  | .job => tags .job
  | .cronJob => tags .cronJob

theorem workloadTags_congr {k : WorkloadKind} {c c' : Cluster} (h : c.Same c' k.objectKind) :
    workloadTags k c' = workloadTags k c := by
  cases k with
  | deployment => exact congrArg (List.map fun o : Deployment => ownerTag o.metadata) h
  | statefulSet => exact congrArg (List.map fun o : StatefulSet => ownerTag o.metadata) h
  | job => exact congrArg (List.map fun o : Job => ownerTag o.metadata) h
  | cronJob => exact congrArg (List.map fun o : CronJob => ownerTag o.metadata) h

/-! ## What a pass may do -/

def WorkloadGains (w₀ w : World) : Prop :=
  ∀ k, ∀ t ∈ workloadTags k w.cluster, t ∈ workloadTags k w₀.cluster ∨
    (kindOf w₀.resource.spec.workloadType = some k ∧ t = ownTag w₀.resource.metadata)

/-- There is an object of the kind under the resource's name; but for Jobs it is the
resource's own. -/
def HasWorkload (k : WorkloadKind) (owner : ObjectMeta) (c : Cluster) : Prop :=
  ∃ t ∈ workloadTags k c, (t.ns = owner.ns ∧ t.name = owner.name) ∧
    (k = .job ∨ t = ownTag owner)

/-- The only new workload object is the resource's own, and without a verdict it is there. -/
def WorkloadPass (w₀ w : World) : Prop :=
  WorkloadGains w₀ w ∧ (w.verdicts.Empty →
    ∃ k, kindOf w₀.resource.spec.workloadType = some k ∧
      HasWorkload k w₀.resource.metadata w.cluster)

section

variable {w₀ w w' : World} {fp : Footprint}

def BesideWorkload (fp : Footprint) : Prop := ∀ k : WorkloadKind, k.objectKind ∉ fp.objects

theorem besideWorkload_outside : BesideWorkload outsideFootprint := by
  intro k
  cases k <;> decide

theorem workloadTags_of_touches (hfp : BesideWorkload fp) (h : Touches fp w w')
    (k : WorkloadKind) : workloadTags k w'.cluster = workloadTags k w.cluster :=
  workloadTags_congr (h.objects _ (hfp k))

theorem WorkloadGains.of_touches (hfp : BesideWorkload fp) (h : Touches fp w₀ w) :
    WorkloadGains w₀ w := by
  intro k t ht
  rw [workloadTags_of_touches hfp h] at ht
  exact Or.inl ht

theorem WorkloadGains.after_touches (hfp : BesideWorkload fp) (h : Touches fp w₀ w)
    (hGains : WorkloadGains w w') : WorkloadGains w₀ w' := by
  intro k t ht
  have hNew := hGains k t ht
  rw [workloadTags_of_touches hfp h, h.spec, h.metadata] at hNew
  exact hNew

theorem HasWorkload.of_touches {k : WorkloadKind} {owner : ObjectMeta} (hfp : BesideWorkload fp)
    (h : Touches fp w w') (hHas : HasWorkload k owner w.cluster) :
    HasWorkload k owner w'.cluster := by
  unfold HasWorkload
  rw [workloadTags_of_touches hfp h]
  exact hHas

theorem workloadFrame : KindFrame WorkloadPass WorkloadGains where
  fail h := h.1
  before h h' := by
    refine ⟨h'.1.after_touches besideWorkload_outside h, fun hEmpty => ?_⟩
    have hHas := h'.2 hEmpty
    rw [h.spec, h.metadata] at hHas
    exact hHas
  before_fail h h' := h'.after_touches besideWorkload_outside h
  after {w₀ w w'} h h' := by
    refine ⟨fun k t ht => ?_, fun hEmpty => ?_⟩
    · rw [workloadTags_of_touches besideWorkload_outside h'] at ht
      exact h.1 k t ht
    · obtain ⟨k, hKind, hHas⟩ := h.2 (Classical.byContradiction fun hn =>
        h'.verdicts.not_empty hn hEmpty)
      exact ⟨k, hKind, hHas.of_touches besideWorkload_outside h'⟩
  stopped h hVerdict := ⟨.of_touches besideWorkload_outside h, fun hEmpty => absurd hEmpty hVerdict⟩
  failed h := .of_touches besideWorkload_outside h

end

/-! ## The reconcilers of the kinds -/

section

variable (env : Env) {w : World} {S T : Type} {kind : Kind S T}

/-- `m` adds the resource's own object only, and leaves it there unless it ends the chain. -/
def GainsOwn (kind : Kind S T) (k : WorkloadKind) (w : World) (m : Pass SubReconcilerResult) :
    Prop :=
  Triple (· = w) m
    (fun r w' => Gains kind (ownTag w.resource.metadata) w w' ∧
      (¬ r.EndsChain → HasWorkload k w.resource.metadata w'.cluster))
    (Gains kind (ownTag w.resource.metadata) w)

theorem workloadPass_of_gains (k : WorkloadKind) {m : Pass SubReconcilerResult} {fp : Footprint}
    (hKind : kindOf w.resource.spec.workloadType = some k)
    (hTags : ∀ c, workloadTags k c = tags kind c) (hHas : Has fp m)
    (hOther : ∀ k' : WorkloadKind, k'.objectKind ∈ fp.objects → k' = k)
    (hJudged : Workload.Judged m) (hGains : GainsOwn kind k w m) :
    Triple (· = w) m (fun _ => WorkloadPass w) (WorkloadGains w) := by
  have hAll : ∀ w', Touches fp w w' → Gains kind (ownTag w.resource.metadata) w w' →
      WorkloadGains w w' := by
    intro w' hTouches hNew k' t ht
    by_cases hSame : k' = k
    · subst hSame
      rw [hTags] at ht ⊢
      exact (hNew t ht).imp_right fun h => ⟨hKind, h⟩
    · rw [workloadTags_congr (hTouches.objects _ (mt (hOther k') hSame))] at ht
      exact Or.inl ht
  refine ((hGains.and (hHas.leads (.refl fp w))).and (hJudged.pre fun _ _ => trivial)).conseq ?_
    fun w' h => hAll w' h.1.2 h.1.1
  rintro r w' ⟨⟨⟨hNew, hThere⟩, hTouches⟩, hEnds, -⟩
  exact ⟨hAll w' hTouches hNew, fun hEmpty =>
    ⟨k, hKind, hThere fun hr => hEnds hr hEmpty⟩⟩

theorem gains_of_attempted {M : S → Prop} {w' : World} (h : Attempted kind M w w') :
    Gains kind (ownTag w.resource.metadata) w w' := by
  rcases h with hSame | hWrote
  · exact .of_get hSame
  · exact hWrote.only

theorem hasWorkload_of_wrote {M : S → Prop} {w' : World} {k : WorkloadKind}
    (hTags : ∀ c, workloadTags k c = tags kind c)
    (h : Wrote kind (ownTag w.resource.metadata) M w w') :
    HasWorkload k w.resource.metadata w'.cluster :=
  ⟨ownTag w.resource.metadata, hTags _ ▸ h.mem_tags, ⟨rfl, rfl⟩, Or.inr rfl⟩

theorem gainsOwn_of_applied {k : WorkloadKind} {template : S → PodTemplateSpec}
    {m : Pass SubReconcilerResult} (hTags : ∀ c, workloadTags k c = tags kind c)
    (h : Triple (· = w) m (Applied env w kind template)
      (Attempted kind (fun spec => Serves env w (template spec)) w)) : GainsOwn kind k w m := by
  refine h.conseq (fun r w' hr => ⟨gains_of_attempted hr.attempted, fun hNot => ?_⟩)
    fun _ => gains_of_attempted
  cases hr with
  | rejected _ _ hEnds => exact absurd hEnds hNot
  | stored hWrote _ _ => exact hasWorkload_of_wrote hTags hWrote

end

section

variable {env : Env} {w : World}

theorem gains_of_jobWrites {w' : World} (h : JobWrites env w w'.cluster) :
    Gains .job (ownTag w.resource.metadata) w w' := by
  intro t ht
  obtain ⟨job', hJob', rfl⟩ := List.mem_map.mp ht
  cases h with
  | kept hKept =>
    obtain ⟨job, hJob, hSame, hRefs⟩ := hKept job' hJob'
    exact Or.inl (List.mem_map.mpr ⟨job, hJob, (ownerTag_of_sameContent hSame hRefs).symm⟩)
  | created job _ hJobs hTag _ _ _ =>
    rw [show Kind.job.get w'.cluster = w.cluster.jobs ++ [job] from hJobs] at hJob'
    rcases List.mem_append.mp hJob' with hOld | hNew
    · exact Or.inl (List.mem_map.mpr ⟨job', hOld, rfl⟩)
    · rw [List.mem_singleton.mp hNew]
      exact Or.inr hTag

theorem job_gains : GainsOwn .job .job w (Workload.reconcileJob env) := by
  have hKey : isResource w.resource.metadata.ns w.resource.metadata.name w.resource = true :=
    isResource_iff.mpr ⟨rfl, rfl⟩
  refine (reconcileJob_step env hKey).conseq (fun r w' h => ⟨gains_of_jobWrites h.1,
    fun hNot => ?_⟩)
    fun w' h => gains_of_jobWrites h.1
  obtain ⟨job, hJob⟩ := List.exists_mem_of_ne_nil _ (h.2.2 hNot)
  obtain ⟨hMem, hKey⟩ := List.mem_filter.mp hJob
  exact ⟨ownerTag job.metadata, List.mem_map.mpr ⟨job, hMem, rfl⟩, hasKey_iff.mp hKey, Or.inl rfl⟩

theorem cronJob_gains : GainsOwn .cronJob .cronJob w (Workload.reconcileCronJob env) :=
  (reconcileCronJob_wrote env).conseq
    (fun _ _ h => ⟨h.only, fun _ => hasWorkload_of_wrote (fun _ => rfl) h⟩)
    fun _ => gains_of_attempted

theorem workloadPass_kind :
    Triple (· = w) (Workload.reconcileKind env w.resource.spec.workloadType)
      (fun _ => WorkloadPass w) (WorkloadGains w) := by
  have hDeployment : kindOf w.resource.spec.workloadType = some .deployment →
      Triple (· = w) (Workload.reconcileDeployment env) (fun _ => WorkloadPass w)
        (WorkloadGains w) := by
    intro hKind
    refine workloadPass_of_gains .deployment hKind (fun _ => rfl)
      Workload.has_reconcileDeployment (by rintro ⟨⟩ <;> decide)
      Workload.judged_reconcileDeployment (gainsOwn_of_applied env (fun _ => rfl)
        (reconcileDeployment_applied env fun hType => ?_))
    rw [hType] at hKind
    cases hKind
  cases hType : w.resource.spec.workloadType with
  | unset => exact hDeployment (by rw [hType]; rfl)
  | service => exact hDeployment (by rw [hType]; rfl)
  | worker => exact hDeployment (by rw [hType]; rfl)
  | statefulService =>
    exact workloadPass_of_gains .statefulSet (by rw [hType]; rfl) (fun _ => rfl)
      Workload.has_reconcileStatefulSet (by rintro ⟨⟩ <;> decide)
      Workload.judged_reconcileStatefulSet
      (gainsOwn_of_applied env (fun _ => rfl) (reconcileStatefulSet_applied env hType))
  | job =>
    exact workloadPass_of_gains .job (by rw [hType]; rfl) (fun _ => rfl)
      Workload.has_reconcileJob (by rintro ⟨⟩ <;> decide)
      Workload.judged_reconcileJob job_gains
  | cronJob =>
    exact workloadPass_of_gains .cronJob (by rw [hType]; rfl) (fun _ => rfl)
      Workload.has_reconcileCronJob (by rintro ⟨⟩ <;> decide)
      Workload.judged_reconcileCronJob cronJob_gains
  | unknown name => exact .throw fun _ hw => hw ▸ fun _ _ ht => Or.inl ht

end

end ClusterAgent.StackResourceController
