import ClusterAgent.Controller.OwnerTags
import ClusterAgent.Workload.Reconciler

/-!
# Cluster agent — what the workload step stores

Every kind of workload has a pod template, built from scratch in every pass. The
step writes one object, under the resource's own name and controller reference,
and its main container runs the image of the resource: the one in the spec, or the
recorded image of the current build.

* `podTemplate` — the template of a Deployment or StatefulSet as a function of the
  spec, of what is looked up (image, volumes, pull secret) and of the restart stamp;
* `Applied` — what applying and judging one of these kinds leaves;
* `reconcileWorkload_applied`, `reconcileCronJob_wrote` — the step, kind by kind.
-/

namespace ClusterAgent.StackResourceController

open Pass Effect
open Workload (requiresRestart imageFor)

/-! ## The pod template -/

structure TemplateInputs where
  image : String
  volumes : Workload.VolumeInfo
  pullSecret : Option String

def servingRestartPolicy : WorkloadType → String
  | .statefulService => "Always"
  | _ => ""

def podTemplate (r : StackResource) (inputs : TemplateInputs) (stamp : Option String) :
    PodTemplateSpec :=
  let tmpl := Workload.basePodTemplateSpec
    { resource := r, image := inputs.image, envVars := Workload.buildEnvVars r
      probes := (Workload.buildProbes r).toOption.getD {}
      volumeMountInfo := inputs.volumes
      restartPolicy := servingRestartPolicy r.spec.workloadType }
  { tmpl with
    annotations := (stamp.map fun time => (restartResourceAnnotationKey, time)).toList
    spec.imagePullSecrets := inputs.pullSecret.toList }

def templateImages (t : PodTemplateSpec) : List String := t.spec.containers.map Container.image

theorem templateImages_podTemplate {r : StackResource} {inputs : TemplateInputs}
    {stamp : Option String} : templateImages (podTemplate r inputs stamp) = [inputs.image] := by
  unfold templateImages podTemplate Workload.basePodTemplateSpec Workload.applySecurityDefaults
  dsimp only
  split
  · rfl
  · rfl

def restartClock (w : World) : Option Timestamp :=
  w.resource.status.lastRestartRequestProcessedAt

variable (env : Env)

def stampFor (r : StackResource) : Option String :=
  if requiresRestart r then some (env.timeString env.clock.wall) else none

theorem imagePullSecrets_buildPodTemplateSpec (cfg : Workload.PodTemplateConfig) :
    (Workload.buildPodTemplateSpec env cfg).spec.imagePullSecrets = [] := by
  unfold Workload.buildPodTemplateSpec Workload.basePodTemplateSpec Workload.applySecurityDefaults
  dsimp only
  split
  · split <;> rfl
  · split <;> rfl

theorem templateImages_buildPodTemplateSpec {cfg : Workload.PodTemplateConfig} :
    templateImages (Workload.buildPodTemplateSpec env cfg) = [cfg.image] := by
  unfold templateImages Workload.buildPodTemplateSpec Workload.basePodTemplateSpec
    Workload.applySecurityDefaults
  dsimp only
  split
  · split <;> rfl
  · split <;> rfl

theorem buildPodTemplateSpec_eq {r : StackResource} {image : String}
    {volumes : Workload.VolumeInfo} {probes : Workload.ProbeSet}
    (hProbes : Workload.buildProbes r = .ok probes) {secret : Option String} :
    { Workload.buildPodTemplateSpec env
        { resource := r, image := image, envVars := Workload.buildEnvVars r, probes := probes
          volumeMountInfo := volumes
          restartPolicy := servingRestartPolicy r.spec.workloadType
          needsRestart := requiresRestart r } with
      spec.imagePullSecrets := secret.toList } =
      podTemplate r ⟨image, volumes, secret⟩ (stampFor env r) := by
  unfold Workload.buildPodTemplateSpec podTemplate stampFor
  rw [hProbes]
  cases requiresRestart r with
  | true => rfl
  | false => rfl

def Serves (w : World) (t : PodTemplateSpec) : Prop :=
  ∃ inputs, imageFor env w.resource w.cluster = some inputs.image ∧
    t = podTemplate w.resource inputs (stampFor env w.resource)

def RunsImage (w : World) (t : PodTemplateSpec) : Prop :=
  ∃ image, imageFor env w.resource w.cluster = some image ∧ templateImages t = [image]

theorem Serves.runsImage {w : World} {t : PodTemplateSpec} (h : Serves env w t) :
    RunsImage env w t := by
  obtain ⟨inputs, hImage, rfl⟩ := h
  exact ⟨inputs.image, hImage, templateImages_podTemplate⟩

/-! ## Writing it -/

theorem resolveAndSetImagePullSecret_spec (r : StackResource) (cfg : Workload.PodTemplateConfig)
    (w : World) :
    Triple (Reads w)
      (Workload.resolveAndSetImagePullSecret env r (Workload.buildPodTemplateSpec env cfg))
      (fun tmpl w' => (∃ secret : Option String, tmpl = { Workload.buildPodTemplateSpec env cfg with
        spec.imagePullSecrets := secret.toList }) ∧ Reads w w')
      (Reads w) := by
  have hReads := (Workload.reads_resolveAndSetImagePullSecret env r
    (Workload.buildPodTemplateSpec env cfg)).continues w
  have hValue : Returns (Reads w)
      (Workload.resolveAndSetImagePullSecret env r (Workload.buildPodTemplateSpec env cfg))
      (fun tmpl _ => ∃ secret : Option String, tmpl =
        { Workload.buildPodTemplateSpec env cfg with
          spec.imagePullSecrets := secret.toList }) := by
    unfold Workload.resolveAndSetImagePullSecret
    split
    · exact .bind_any fun secretName => .pure fun _ _ => ⟨some secretName, rfl⟩
    · refine .pure fun _ _ => ⟨none, ?_⟩
      show _ = { Workload.buildPodTemplateSpec env cfg with spec.imagePullSecrets := [] }
      rw [← imagePullSecrets_buildPodTemplateSpec env cfg]
  exact (hValue.and hReads).onError fun _ h => h.2

section

variable {w : World} {S T : Type} {kind : Kind S T} {emptySpec : S} {emptyStatus : T}
  {applySpec : StackResource → PodTemplateSpec → Object S T → Object S T}
  {template : S → PodTemplateSpec}
  (hKey : ∀ r t o ns name, hasKey ns name (applySpec r t o) = hasKey ns name o)
  (hTemplate : ∀ r t o, template (applySpec r t o).spec = t)
  (hStatus : ∀ r t o, (applySpec r t o).status = o.status)

include hKey hTemplate hStatus

/-- The mutation puts the built template into the object, and ends with the controller
reference. -/
theorem mutate_own {cfg : Workload.PodTemplateConfig} {o : Object S T}
    (ho : hasKey w.resource.metadata.ns w.resource.metadata.name o = true) :
    Triple (Reads w)
      (do
        let tmpl ← Workload.resolveAndSetImagePullSecret env w.resource
          (Workload.buildPodTemplateSpec env cfg)
        controlled (applySpec w.resource tmpl o))
      (fun o' w' => (ownerTag o'.metadata = ownTag w.resource.metadata ∧
        (∃ secret : Option String, template o'.spec = { Workload.buildPodTemplateSpec env cfg with
          spec.imagePullSecrets := secret.toList }) ∧ o'.status = o.status) ∧ Reads w w')
      (Reads w) := by
  refine .bind (resolveAndSetImagePullSecret_spec env w.resource cfg w) fun tmpl => .of_each ?_
  rintro w1 ⟨⟨secret, rfl⟩, hw1⟩
  refine ((controlled_spec _ w).and (controlled_ownerTag w)).mono (fun _ h => h ▸ hw1) ?_
    fun _ h => h.1
  rintro o' w' ⟨⟨hSame, hReads⟩, hTag, -⟩
  obtain ⟨hNs, hName⟩ := hasKey_iff.mp ((hKey w.resource _ o _ _).trans ho)
  refine ⟨⟨?_, ⟨secret, ?_⟩, hSame.status.trans (hStatus _ _ _)⟩, hReads⟩
  · rw [hTag, hNs, hName]
    rfl
  · rw [hSame.spec, hTemplate]

variable [DecidableEq S] [DecidableEq T]

theorem createOrUpdate_own {w1 : World} (hw1 : Reads w w1) {cfg : Workload.PodTemplateConfig}
    {M : S → Prop}
    (hM : ∀ (secret : Option String) spec, template spec =
      { Workload.buildPodTemplateSpec env cfg with spec.imagePullSecrets := secret.toList } →
        M spec) :
    Triple (· = w1)
      (createOrUpdate env kind
        { metadata :=
            { name := Workload.getWorkloadNameForResource w.resource, ns := w.resource.metadata.ns }
          spec := emptySpec
          status := emptyStatus } fun o => do
        let tmpl ← Workload.resolveAndSetImagePullSecret env w.resource
          (Workload.buildPodTemplateSpec env cfg)
        controlled (applySpec w.resource tmpl o))
      (fun _ => Wrote kind (ownTag w.resource.metadata) M w) (Reads w) := by
  obtain ⟨calls, rfl⟩ := hw1
  refine (createOrUpdate_wrote (w := { w with calls := calls }) env rfl rfl fun o ho =>
    (mutate_own (w := { w with calls := calls }) env hKey hTemplate hStatus ho).post ?_).conseq
      (fun _ w' h => ⟨h.stored, h.only⟩) fun _ h => trans_of Reads ⟨calls, rfl⟩ h
  rintro o' w' ⟨⟨hTag, ⟨secret, hTmpl⟩, hSame⟩, hReads⟩
  exact ⟨⟨hTag, hM secret _ hTmpl, hSame⟩, hReads⟩

/-- What `applyWorkload` stores: the template of the spec, stamped if a restart is due. A
rejected spec and a failed call store nothing. -/
theorem applyWorkload_wrote :
    Triple (· = w)
      (Workload.applyWorkload env kind emptySpec emptyStatus
        (servingRestartPolicy w.resource.spec.workloadType) applySpec)
      (fun applied w' =>
        (applied = none ∧ w'.cluster = w.cluster) ∨
        (∃ x, applied = some (x, requiresRestart w.resource)) ∧
          Wrote kind (ownTag w.resource.metadata) (fun spec => Serves env w (template spec)) w w')
      (Reads w) := by
  refine bind_resource (.pre (P := Reads w) ?_ fun _ hw => hw ▸ refl_of Reads w)
  refine .bind ((Workload.reads_getVolumeMountInfoMap env).continues w) fun volumes =>
    .bind (Workload.getImageForResource_spec env _ w) fun image => ?_
  split
  · refine .bind (R := fun _ w' => w'.cluster = w.cluster) (.modify ?_) fun _ =>
      .pure fun _ h => Or.inl ⟨rfl, h⟩
    rintro _ ⟨-, calls, rfl⟩
    rfl
  · next probes hProbes =>
    refine .of_each fun w1 ⟨hImage, hw1⟩ =>
      .bind (createOrUpdate_own env hKey hTemplate hStatus hw1 fun secret spec hTmpl => ?_) fun x =>
        .pure fun w' h => Or.inr ⟨⟨x, rfl⟩, h⟩
    exact ⟨⟨image, volumes, secret⟩, hImage, hTmpl.trans (buildPodTemplateSpec_eq env hProbes)⟩

omit hKey hTemplate hStatus [DecidableEq S] [DecidableEq T]

def Attempted (kind : Kind S T) (M : S → Prop) (w w' : World) : Prop :=
  kind.get w'.cluster = kind.get w.cluster ∨ Wrote kind (ownTag w.resource.metadata) M w w'

variable (kind template w) in
/-- What applying and judging the object leaves. A rejected spec changes nothing, and a
restart ends the chain. -/
inductive Applied (r : SubReconcilerResult) (w' : World) : Prop
  | rejected (hSame : kind.get w'.cluster = kind.get w.cluster)
      (hClock : restartClock w' = restartClock w) (hEnds : r.EndsChain)
  | stored
      (hWrote : Wrote kind (ownTag w.resource.metadata) (fun spec => Serves env w (template spec))
        w w')
      (hClock : restartClock w' =
        if requiresRestart w.resource then some { wall := env.clock.wall } else restartClock w)
      (hEnds : requiresRestart w.resource = true → r.EndsChain)

theorem Applied.attempted {r : SubReconcilerResult} {w' : World}
    (h : Applied env w kind template r w') :
    Attempted kind (fun spec => Serves env w (template spec)) w w' := by
  cases h with
  | rejected hSame _ _ => exact Or.inl hSame
  | stored hWrote _ _ => exact Or.inr hWrote

include hKey hTemplate hStatus in
theorem reconcileWorkload_applied [DecidableEq S] [DecidableEq T] {fp : Footprint}
    {evaluate : Object S T → Pass SubReconcilerResult} {restartPolicy : String}
    (hPolicy : restartPolicy = servingRestartPolicy w.resource.spec.workloadType)
    (hBeside : kind.id ∉ fp.objects) (hRestart : fp.restart = false)
    (hEvaluate : ∀ x, Has fp (evaluate x)) {reason msg : String} :
    Triple (· = w)
      (Workload.reconcileWorkload env
        (Workload.applyWorkload env kind emptySpec emptyStatus restartPolicy applySpec)
        reason msg evaluate)
      (Applied env w kind template)
      (Attempted kind (fun spec => Serves env w (template spec)) w) := by
  subst hPolicy
  have hHas : Has { objects := [kind.id], fails := true }
      (Workload.applyWorkload env kind emptySpec emptyStatus
        (servingRestartPolicy w.resource.spec.workloadType) applySpec) :=
    Workload.has_applyWorkload List.mem_cons_self rfl
  refine .bind (((applyWorkload_wrote env hKey hTemplate hStatus).and
    (hHas.leads (.refl _ w))).onError
    fun w' h => Or.inl (by rw [cluster_of_reads h.1])) fun applied => .of_each ?_
  -- the API server rejected the object, or it is stored
  rintro w1 ⟨⟨rfl, hCluster⟩ | ⟨⟨x, rfl⟩, hWrote⟩, hTouches⟩
  · refine .ret ?_
    exact .rejected (by rw [hCluster]) (hTouches.restart rfl) trivial
  · have hClock : restartClock w1 = restartClock w := hTouches.restart rfl
    dsimp only
    -- with a restart due the chain ends here, the clock noted
    cases hDue : requiresRestart w.resource with
    | true =>
      rintro _ rfl
      exact .stored (hWrote.of_get rfl) (by rw [hDue]; rfl) fun _ => trivial
    | false =>
      -- judging the status leaves the object
      have hGet := fun w' (h : Touches fp w1 w') => kind.get_same _ _ (h.objects _ hBeside)
      refine ((hEvaluate x).leads (.refl _ w1)).conseq (fun r w' h => .stored ?_ ?_ ?_)
        fun w' h => Or.inr (hWrote.of_get (hGet w' h))
      · exact hWrote.of_get (hGet w' h)
      · rw [hDue]
        exact (h.restart hRestart).trans hClock
      · intro hSet
        cases hDue.symm.trans hSet

end

section

variable {w : World}

theorem reconcileDeployment_applied (hType : w.resource.spec.workloadType ≠ .statefulService) :
    Triple (· = w) (Workload.reconcileDeployment env)
      (Applied env w .deployment DeploymentSpec.template)
      (Attempted .deployment (fun spec => Serves env w spec.template) w) := by
  have hPolicy : "" = servingRestartPolicy w.resource.spec.workloadType := by
    unfold servingRestartPolicy
    split
    · contradiction
    · rfl
  refine reconcileWorkload_applied env ?_ ?_ ?_ hPolicy (by decide) rfl
    Workload.has_evaluateDeploymentStatus
  · exact fun _ _ _ _ _ => rfl
  · exact fun _ _ _ => rfl
  · exact fun _ _ _ => rfl

theorem reconcileStatefulSet_applied (hType : w.resource.spec.workloadType = .statefulService) :
    Triple (· = w) (Workload.reconcileStatefulSet env)
      (Applied env w .statefulSet StatefulSetSpec.template)
      (Attempted .statefulSet (fun spec => Serves env w spec.template) w) := by
  have hPolicy : "Always" = servingRestartPolicy w.resource.spec.workloadType := by
    rw [hType]
    rfl
  refine reconcileWorkload_applied env ?_ ?_ ?_ hPolicy (by decide) rfl
    Workload.has_evaluateStatefulSetStatus
  · exact fun _ _ _ _ _ => rfl
  · exact fun _ _ _ => rfl
  · exact fun _ _ _ => rfl

def cronJobTemplate (spec : CronJobSpec) : PodTemplateSpec := spec.jobTemplate.template

theorem reconcileCronJob_wrote :
    Triple (· = w) (Workload.reconcileCronJob env)
      (fun _ => Wrote .cronJob (ownTag w.resource.metadata)
        (fun spec => RunsImage env w (cronJobTemplate spec)) w)
      (Attempted .cronJob (fun spec => RunsImage env w (cronJobTemplate spec)) w) := by
  have hApply : Triple (· = w) (Workload.applyCronJob env)
      (fun _ => Wrote .cronJob (ownTag w.resource.metadata)
        (fun spec => RunsImage env w (cronJobTemplate spec)) w) (Reads w) := by
    refine bind_resource (.pre (P := Reads w) ?_ fun _ hw => hw ▸ refl_of Reads w)
    refine .bind ((Workload.reads_getVolumeMountInfoMap env).continues w) fun volumes =>
      .bind (Workload.getImageForResource_spec env _ w) fun image => .of_each ?_
    rintro w1 ⟨hImage, hw1⟩
    have hTemplate : ∀ r t o, cronJobTemplate (Workload.applyCronJobSpec r t o).spec = t :=
      fun _ _ _ => rfl
    -- the template is set by the mutation, and no later mutation changes it
    refine createOrUpdate_own env ?_ hTemplate ?_ hw1 fun secret spec hTmpl => ?_
    · exact fun _ _ _ _ _ => rfl
    · exact fun _ _ _ => rfl
    · refine ⟨image, hImage, ?_⟩
      rw [hTmpl]
      exact templateImages_buildPodTemplateSpec env
  refine .bind (hApply.onError fun w' h => Or.inl (by rw [cluster_of_reads h])) fun cj =>
    .of_each fun w1 hWrote => ?_
  -- looking at the runs leaves the object
  have hKept : ∀ w', Touches { Workload.cronJobFootprint with objects := [] } w1 w' →
      Wrote .cronJob (ownTag w.resource.metadata)
        (fun spec => RunsImage env w (cronJobTemplate spec)) w w' :=
    fun w' h => hWrote.of_get (h.objects .cronJob nofun)
  exact ((Workload.has_evaluateCronJobStatus cj).leads (.refl _ w1)).conseq
    (fun _ => hKept) fun w' h => Or.inr (hKept w' h)

end

end ClusterAgent.StackResourceController
