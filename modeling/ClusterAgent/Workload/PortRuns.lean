import ClusterAgent.Lib.Runs
import ClusterAgent.Controller.ObjectPass
import ClusterAgent.Workload.Diagnosis

/-!
# Cluster agent — port checks over whole runs

The verdict on a declared port is spread over passes: a refusal starts a clock on
status, the answer is dropped, the next dial is lined up, and the workload is
condemned once the clock has outlived the grace period. What a pass makes of the
record depends on the record and on what the verifier has to say, nothing else.

* `PortAnswer`, `nextRecord`, `condemns` — the check as a state machine on the record;
* `checkPorts_spec` — the code follows it, and never fails;
* `PortRun`, `portStep` — runs of checks of one resource, with the answers judged so
  far as history. Between two checks everything but the stored record may change:
  pods, the verifier and all it holds (a restart of the agent empties it), the spec
  and the failure details. A pass may lose its status write: its answer is judged,
  and the record stays what it was.

Main results: `records_sound`, `condemned_past_grace`.
-/

namespace ClusterAgent.Workload

open Pass Effect
open ObjectPass (quietEnv)

/-! ## The check as a state machine -/

inductive PortAnswer where
  /-- A crash detail owns the diagnosis. -/
  | barred
  /-- There is no verifier, or no port is declared. -/
  | disabled
  | unanswered
  | allOpen
  | closed (ports : List Int)
  deriving DecidableEq, Repr

def portKey (resource : StackResource) (revision : String) : PortCheck.Key :=
  { ns := resource.metadata.ns, name := resource.name, revision := revision }

def answerOf (w : World) (revision : String) : PortAnswer :=
  if portDiagnosisAllowed w.resource then
    match w.verifier with
    | none => .disabled
    | some verifier =>
      if w.resource.spec.ports.length = 0 then .disabled
      else
        match verifier.get (portKey w.resource revision) with
        | none => .unanswered
        | some result => if result.allOpen then .allOpen else .closed result.closedPorts
  else .barred

section

variable (env : Env)

/-- When the clock of a closed answer started: it runs already, or starts now. -/
def clockStart (record : Option PortCheckStatus) (revision : String) : Timestamp :=
  (graceClockStart record revision).getD env.clock.now

def nextRecord (record : Option PortCheckStatus) (revision : String) :
    PortAnswer → Option PortCheckStatus
  | .barred | .disabled => none
  | .unanswered => record
  | .allOpen => some { revision := revision, status := .success }
  | .closed ports =>
    some
      { revision := revision
        status := .failure
        failingPortNumbers := ports
        failingSince := some (clockStart env record revision) }

def condemns (record : Option PortCheckStatus) (revision : String) : PortAnswer → Bool
  | .barred | .disabled | .allOpen => false
  | .unanswered => portAlreadyFailed env record revision
  | .closed _ => decide (portCheckGrace env ≤ timeSince env (clockStart env record revision))

variable {record : Option PortCheckStatus} {revision : String} {w : World}

theorem portAlreadyFailed_iff :
    portAlreadyFailed env record revision = true ↔
      ∃ pc started, record = some pc ∧ pc.revision = revision ∧ pc.failingSince = some started ∧
        0 < pc.failingPortNumbers.length ∧ portCheckGrace env ≤ timeSince env started := by
  unfold portAlreadyFailed graceClockStart
  cases record with
  | none => simp
  | some pc =>
    by_cases hRev : pc.revision = revision
    · cases hSince : pc.failingSince with
      | none => simp [hRev, hSince]
      | some started => simp [hRev, hSince]
    · simp [hRev]

theorem portCheckGrace_pos : 0 < portCheckGrace env := by
  unfold portCheckGrace
  split
  · decide
  · omega

/-- A clock that starts now condemns nobody: the one that does is on the record already. -/
theorem running_of_condemns_closed {ports : List Int}
    (h : condemns env record revision (.closed ports) = true) :
    graceClockStart record revision = some (clockStart env record revision) := by
  have hGrace : portCheckGrace env ≤ timeSince env (clockStart env record revision) :=
    of_decide_eq_true h
  have hPos := portCheckGrace_pos env
  unfold clockStart at *
  cases hStart : graceClockStart record revision with
  | some started => rfl
  | none =>
    rw [hStart] at hGrace
    unfold timeSince Clock.now at hGrace
    simp only [Option.getD_none] at hGrace
    omega

theorem record_of_graceClockStart {started : Timestamp}
    (h : graceClockStart record revision = some started) :
    ∃ pc, record = some pc ∧ pc.revision = revision ∧ pc.failingSince = some started := by
  unfold graceClockStart at h
  cases record with
  | none => cases h
  | some pc =>
    dsimp only at h
    split at h
    · cases h
    · next hRev => exact ⟨pc, rfl, not_not.mp hRev, h⟩

/-- A workload is condemned on a record of its revision whose grace is over: one that is
there before the check, and whose clock the check takes over. -/
theorem record_of_condemns {answer : PortAnswer} (h : condemns env record revision answer = true) :
    ∃ started, portCheckGrace env ≤ timeSince env started ∧
      (∃ pc, record = some pc ∧ pc.revision = revision ∧ pc.failingSince = some started) ∧
      ∃ pc, nextRecord env record revision answer = some pc ∧ pc.revision = revision ∧
        pc.failingSince = some started := by
  cases answer with
  | barred => cases h
  | disabled => cases h
  | allOpen => cases h
  | unanswered =>
    obtain ⟨pc, started, hRecord, hRev, hSince, -, hGrace⟩ := (portAlreadyFailed_iff env).mp h
    exact ⟨started, hGrace, ⟨pc, hRecord, hRev, hSince⟩, pc, hRecord, hRev, hSince⟩
  | closed ports =>
    exact ⟨_, of_decide_eq_true h,
      record_of_graceClockStart (running_of_condemns_closed env h), _, rfl, rfl, rfl⟩

/-! ## The code follows the machine -/

/-- Only the verifier and the number of API calls differ. -/
def Dials (w w' : World) : Prop :=
  ∃ calls verifier, w' = { w with calls := calls, verifier := verifier }

theorem Dials.of_reads {w' : World} (h : Reads w w') : Dials w w' := by
  obtain ⟨calls, rfl⟩ := h
  exact ⟨calls, w.verifier, rfl⟩

theorem Dials.trans {w' w'' : World} (h : Dials w w') (h' : Dials w' w'') : Dials w w'' := by
  obtain ⟨calls, verifier, rfl⟩ := h
  obtain ⟨calls', verifier', rfl⟩ := h'
  exact ⟨calls', verifier', rfl⟩

theorem onVerifier_spec {α : Type} {f : PortCheck.Verifier → α × PortCheck.Verifier} {default : α}
    (w : World) : Achieves (· = w) (onVerifier f default) (fun _ => Dials w) := by
  rintro w rfl
  unfold onVerifier
  cases hVerifier : w.verifier with
  | none => exact ⟨w.calls, w.verifier, rfl⟩
  | some v => exact ⟨w.calls, some (f v).2, rfl⟩

theorem attempt_reads {α : Type} {m : Pass α} (h : ReadsOnly m) (w : World) :
    Achieves (· = w) (attempt m) (fun _ => Dials w) := by
  refine ((h.leads w).attempt).post fun r w' hr => ?_
  cases r with
  | ok a => exact .of_reads hr
  | error e => exact .of_reads hr

theorem representativePodIP_spec (resource : StackResource) (revision : String) (w : World) :
    Achieves (· = w) (representativePodIP env resource revision) (fun _ => Dials w) := by
  have hSame : ∀ w', w' = w → Dials w w' := fun w' h => ⟨w.calls, w.verifier, h⟩
  unfold representativePodIP
  split
  · unfold statefulSetPodIP
    split
    · exact .pure hSame
    · refine .bind (attempt_reads reads_listObjects w) fun r => ?_
      cases r with
      | ok pods => exact .skip
      | error e => exact .skip
  · refine .bind (attempt_reads reads_replicaSetPods w) fun r => ?_
    split
    · exact .skip
    · exact .skip
    · exact .skip

theorem schedulePortCheck_spec {resource : StackResource} {key : PortCheck.Key} (w : World) :
    Achieves (· = w) (schedulePortCheck env resource key) (fun _ => Dials w) := by
  refine .bind (representativePodIP_spec env resource key.revision w) fun podIP => ?_
  cases podIP with
  | none => exact .skip
  | some ip =>
    refine .of_each fun w1 hw1 => .bind (onVerifier_spec w1) fun _ => ?_
    exact .pure fun _ h => hw1.trans h

/-- The world after a check of the record: besides it, only the verifier has moved. -/
def Recorded (w : World) (record : Option PortCheckStatus) (w' : World) : Prop :=
  ∃ calls verifier, w' =
    { w with
      calls := calls
      verifier := verifier
      resource.status.portCheck := record }

theorem judgeClosedPorts_spec {key : PortCheck.Key} (result : PortCheck.Result) (w : World) :
    Achieves (· = w) (judgeClosedPorts env key result)
      (fun r w' =>
        r.1 = condemns env w.resource.status.portCheck key.revision
          (.closed result.closedPorts) ∧
        Recorded w (nextRecord env w.resource.status.portCheck key.revision
          (.closed result.closedPorts)) w') := by
  refine bind_resource (.after rfl ?_)
  refine .bind (onVerifier_spec _) fun _ => .of_each ?_
  rintro _ ⟨calls, verifier, rfl⟩
  split
  · next hInside =>
    refine .ret ?_
    exact ⟨(decide_eq_false (not_le.mpr hInside)).symm, calls, verifier, rfl⟩
  · next hPast =>
    refine .ret ?_
    exact ⟨(decide_eq_true (not_lt.mp hPast)).symm, calls, verifier, rfl⟩

theorem verifyPorts_spec (revision : String) (hAllowed : portDiagnosisAllowed w.resource = true) :
    Achieves (· = w) (verifyPorts env revision)
      (fun r w' =>
        r.1 = condemns env w.resource.status.portCheck revision (answerOf w revision) ∧
        Recorded w (nextRecord env w.resource.status.portCheck revision (answerOf w revision))
          w') := by
  refine bind_resource (.after (a := w) rfl ?_)
  unfold answerOf
  rw [if_pos hAllowed]
  -- without a verifier, or without ports, no record is kept
  cases hVerifier : w.verifier with
  | none =>
    rintro w rfl
    exact ⟨rfl, w.calls, w.verifier, rfl⟩
  | some verifier =>
    dsimp only
    split
    · rintro w rfl
      exact ⟨rfl, w.calls, w.verifier, rfl⟩
    · change Triple _ (match verifier.get (portKey w.resource revision) with
        | none => _ | some result => _) _ _
      -- no answer yet: a dial is scheduled, and the record stays
      cases verifier.get (portKey w.resource revision) with
      | none =>
        refine .bind (schedulePortCheck_spec env w) fun found => .pure ?_
        rintro _ ⟨calls, verifier', rfl⟩
        exact ⟨rfl, calls, verifier', rfl⟩
      | some result =>
        dsimp only
        -- an open answer clears the record; a closed one is judged by the clock
        cases result.allOpen with
        | true =>
          rintro w rfl
          exact ⟨rfl, w.calls, w.verifier, rfl⟩
        | false => exact judgeClosedPorts_spec env result w

def failingPorts (record : Option PortCheckStatus) : List Int :=
  (record.map PortCheckStatus.failingPortNumbers).getD []

def nextDetails (resource : StackResource) (record : Option PortCheckStatus) (failed : Bool) :
    PortAnswer → List LastFailureDetail
  | .barred => resource.status.lastFailureDetails
  | _ => if failed then [portFailureDetail resource (failingPorts record)] else []

/-- What a check leaves of the record, the failure details and the verdicts. -/
structure Checked (w : World) (revision : String) (w' : World) : Prop where
  record : w'.resource.status.portCheck =
    nextRecord env w.resource.status.portCheck revision (answerOf w revision)
  details : w'.resource.status.lastFailureDetails =
    nextDetails w.resource w'.resource.status.portCheck
      (condemns env w.resource.status.portCheck revision (answerOf w revision))
      (answerOf w revision)
  verdicts : w'.verdicts =
    if condemns env w.resource.status.portCheck revision (answerOf w revision) then
      w.verdicts.reportFailed reasonPortNotListening
        (portFailureDetail w.resource
          (failingPorts w'.resource.status.portCheck)).lastTerminationMessage
    else w.verdicts

theorem nextDetails_of_allowed {resource : StackResource} {record : Option PortCheckStatus}
    {failed : Bool} {answer : PortAnswer} (h : answer ≠ .barred) :
    nextDetails resource record failed answer =
      if failed then [portFailureDetail resource (failingPorts record)] else [] := by
  cases answer with
  | barred => exact absurd rfl h
  | disabled => rfl
  | unanswered => rfl
  | allOpen => rfl
  | closed ports => rfl

theorem answerOf_barred_iff :
    answerOf w revision = .barred ↔ portDiagnosisAllowed w.resource = false := by
  unfold answerOf
  cases portDiagnosisAllowed w.resource with
  | false => simp
  | true =>
    simp only [if_true, reduceCtorEq, iff_false]
    split
    · nofun
    · split
      · nofun
      · split
        · nofun
        · split <;> nofun

theorem recordPortFailure_eq {pc : PortCheckStatus} (h : w.resource.status.portCheck = some pc) :
    recordPortFailure w =
      .ok (portFailureDetail w.resource pc.failingPortNumbers).lastTerminationMessage
        { w with
          resource.status.lastFailureDetails :=
            [portFailureDetail w.resource pc.failingPortNumbers] } := by
  unfold recordPortFailure
  refine (bind_of_ok rfl).trans ?_
  rw [h]
  rfl

theorem checkPorts_spec (revision : String) (serving : Bool) (w : World) :
    Achieves (· = w) (checkPorts env revision serving) (fun _ => Checked env w revision) := by
  refine bind_resource ?_
  cases hAllowed : portDiagnosisAllowed w.resource with
  | false =>
    rintro w rfl
    have hBarred : answerOf w revision = .barred := answerOf_barred_iff.mpr hAllowed
    refine ⟨?_, ?_, ?_⟩
    · rw [hBarred]; rfl
    · rw [hBarred]; rfl
    · rw [hBarred]; rfl
  | true =>
    have hOpen : answerOf w revision ≠ .barred := fun h => by
      rw [answerOf_barred_iff.mp h] at hAllowed
      cases hAllowed
    refine .bind (verifyPorts_spec env revision hAllowed) fun r => .of_each ?_
    rintro w1 ⟨hFailed, calls, verifier, rfl⟩
    obtain ⟨failed, wait⟩ := r
    dsimp only at hFailed ⊢
    cases failed with
    | false =>
      rintro _ rfl
      refine ⟨rfl, ?_, ?_⟩
      · rw [nextDetails_of_allowed hOpen, ← hFailed]
        rfl
      · rw [← hFailed]
        rfl
    | true =>
      -- the record a failed verdict is rendered from is there
      obtain ⟨started, -, -, pc, hRecord, -⟩ := record_of_condemns env hFailed.symm
      refine .after (recordPortFailure_eq hRecord) (.after rfl (bind_resource ?_))
      suffices hLeft : ∀ w', w' = _ → Checked env w revision w' by
        split
        · exact .pure hLeft
        · exact .pure hLeft
      rintro _ rfl
      refine ⟨rfl, ?_, ?_⟩
      · rw [nextDetails_of_allowed hOpen, ← hFailed, hRecord]
        rfl
      · rw [← hFailed, hRecord]
        rfl

end

/-! ## Runs -/

/-- One pass that reaches the port check, with everything the check reads but the record. -/
structure PortPass where
  clock : Clock
  fault : Nat → Option GoError := fun _ => none
  cluster : Cluster := {}
  verifier : Option PortCheck.Verifier
  resource : StackResource
  revision : String
  serving : Bool
  /-- Whether the status of the pass is stored. -/
  stored : Bool := true

/-- An answer a check judged: when, since when its ports were closed, if they were, and
whether the status of the pass was stored. -/
structure JudgedAnswer where
  revision : String
  time : Int
  closedSince : Option Int
  stored : Bool
  deriving DecidableEq, Repr

/-- The stored record, and the answers judged so far, the newest first. -/
structure PortRun where
  record : Option PortCheckStatus := none
  judged : List JudgedAnswer := []
  deriving DecidableEq, Repr

def PortPass.world (p : PortPass) (record : Option PortCheckStatus) : World where
  cluster := p.cluster
  verifier := p.verifier
  resource := { p.resource with status.portCheck := record }

def PortPass.answer (p : PortPass) : PortAnswer := answerOf (p.world none) p.revision

theorem answerOf_world (p : PortPass) (record : Option PortCheckStatus) :
    answerOf (p.world record) p.revision = p.answer := rfl

section

variable (env : Env) {record : Option PortCheckStatus} {revision : String} {w : World} {s : PortRun}

def PortPass.envAt (p : PortPass) : Env := { env with clock := p.clock, fault := p.fault }

def PortPass.after (p : PortPass) (record : Option PortCheckStatus) : World :=
  finalState (checkPorts (p.envAt env) p.revision p.serving (p.world record))

def PortPass.reports (p : PortPass) (record : Option PortCheckStatus) : Bool :=
  decide ((p.after env record).verdicts.failed.map Verdict.reason = some reasonPortNotListening)

/-- The answer a pass judges, if the verifier has one for it. -/
def PortPass.judges (p : PortPass) (record : Option PortCheckStatus) : Option JudgedAnswer :=
  match p.answer with
  | .barred | .disabled | .unanswered => none
  | .allOpen =>
    some { revision := p.revision, time := p.clock.wall, closedSince := none, stored := p.stored }
  | .closed _ =>
    some
      { revision := p.revision
        time := p.clock.wall
        closedSince := some (clockStart (p.envAt env) record p.revision).wall
        stored := p.stored }

/-- One pass of a run. The answer it judges goes on the list also when its status is not stored;
the record on status then is the one before. -/
def portStep (s : PortRun) (p : PortPass) : PortRun where
  record := if p.stored then (p.after env s.record).resource.status.stored.portCheck else s.record
  judged := (p.judges env s.record).toList ++ s.judged

theorem checked_after (p : PortPass) (record : Option PortCheckStatus) :
    Checked (p.envAt env) (p.world record) p.revision (p.after env record) :=
  ((checkPorts_spec (p.envAt env) p.revision p.serving (p.world record)).onError
    fun _ h => h.elim).reached rfl

theorem reports_eq (p : PortPass) (record : Option PortCheckStatus) :
    p.reports env record = condemns (p.envAt env) record p.revision p.answer := by
  unfold PortPass.reports
  rw [(checked_after env p record).verdicts]
  split
  · next hCond =>
    exact (decide_eq_true rfl).trans hCond.symm
  · next hCond =>
    exact (decide_eq_false nofun).trans (Bool.eq_false_iff.mpr hCond).symm

/-- A record after a round trip through the API server. -/
def storedRecord (record : Option PortCheckStatus) : Option PortCheckStatus :=
  record.map fun pc => { pc with failingSince := pc.failingSince.map Timestamp.stored }

theorem record_portStep (s : PortRun) (p : PortPass) :
    (portStep env s p).record =
      if p.stored then storedRecord (nextRecord (p.envAt env) s.record p.revision p.answer)
      else s.record := by
  unfold portStep
  dsimp only
  split
  · exact congrArg storedRecord (checked_after env p s.record).record
  · rfl

/-! ## What the record says -/

/-- A success names no port and no time; a failure names its ports, ascending, and a time. -/
def WellFormed (pc : PortCheckStatus) : Prop :=
  match pc.status with
  | .success => pc.failingPortNumbers = [] ∧ pc.failingSince = none
  | .failure => pc.failingPortNumbers ≠ [] ∧ pc.failingPortNumbers.Pairwise (· ≤ ·) ∧
      pc.failingSince.isSome = true

theorem closedPorts_ne_nil {result : PortCheck.Result} (h : result.allOpen = false) :
    result.closedPorts ≠ [] := by
  intro hNil
  have hLength := congrArg List.length hNil
  simp only [PortCheck.Result.closedPorts, List.length_insertionSort, List.length_map,
    List.length_nil, List.length_eq_zero_iff, List.filter_eq_nil_iff] at hLength
  unfold PortCheck.Result.allOpen at h
  obtain ⟨port, hMem, hClosed⟩ := List.all_eq_false.mp h
  refine hLength port hMem ?_
  cases hOpen : port.open with
  | true => exact absurd hOpen hClosed
  | false => rfl

theorem ports_of_closed {ports : List Int} (h : answerOf w revision = .closed ports) :
    ports ≠ [] ∧ ports.Pairwise (· ≤ ·) := by
  unfold answerOf at h
  split at h
  · split at h
    · cases h
    · split at h
      · cases h
      · split at h
        · cases h
        · next result _ =>
          split at h
          · cases h
          · next hClosed =>
            cases h
            refine ⟨closedPorts_ne_nil (Bool.eq_false_iff.mpr hClosed), ?_⟩
            exact List.pairwise_insertionSort (· ≤ ·) _
  · cases h

/-- What holds of every record on status. -/
structure Kept (record : Option PortCheckStatus) : Prop where
  wellFormed : ∀ pc ∈ record, WellFormed pc
  stored : storedRecord record = record

theorem wellFormed_nextRecord (h : ∀ pc ∈ record, WellFormed pc) (p : PortPass) :
    ∀ pc ∈ nextRecord (p.envAt env) record p.revision p.answer, WellFormed pc := by
  intro pc hpc
  cases hAnswer : p.answer with
  | barred =>
    rw [hAnswer] at hpc
    cases hpc
  | disabled =>
    rw [hAnswer] at hpc
    cases hpc
  | unanswered =>
    rw [hAnswer] at hpc
    exact h pc hpc
  | allOpen =>
    rw [hAnswer] at hpc
    cases hpc
    exact ⟨rfl, rfl⟩
  | closed ports =>
    rw [hAnswer] at hpc
    cases hpc
    obtain ⟨hSome, hSorted⟩ := ports_of_closed hAnswer
    exact ⟨hSome, hSorted, rfl⟩

theorem wellFormed_stored (h : ∀ pc ∈ record, WellFormed pc) :
    ∀ pc ∈ storedRecord record, WellFormed pc := by
  rintro _ hpc
  obtain ⟨pc, hRecord, rfl⟩ := Option.map_eq_some_iff.mp hpc
  have hOld := h pc hRecord
  unfold WellFormed at *
  dsimp only
  cases hStatus : pc.status with
  | success =>
    rw [hStatus] at hOld
    exact ⟨hOld.1, by rw [hOld.2]; rfl⟩
  | failure =>
    rw [hStatus] at hOld
    exact ⟨hOld.1, hOld.2.1, by rw [Option.isSome_map]; exact hOld.2.2⟩

theorem storedRecord_storedRecord {record : Option PortCheckStatus} :
    storedRecord (storedRecord record) = storedRecord record := by
  cases record with
  | none => rfl
  | some pc => simp [storedRecord, Function.comp_def]

theorem kept_portStep (h : Kept s.record) (p : PortPass) :
    Kept (portStep env s p).record := by
  rw [record_portStep]
  split
  · exact ⟨wellFormed_stored (wellFormed_nextRecord env h.wellFormed p), storedRecord_storedRecord⟩
  · exact h

/-- What a check does to the record and the details of a run. -/
structure SoundCheck (s : PortRun) (p : PortPass) : Prop where
  /-- The check comes to its end. -/
  ends : ∃ wait, checkPorts (p.envAt env) p.revision p.serving (p.world s.record) =
    .ok wait (p.after env s.record)
  wellFormed : ∀ pc ∈ (portStep env s p).record, WellFormed pc
  /-- The clock of a failing revision does not move. -/
  clock : ∀ old ∈ s.record, ∀ new ∈ (portStep env s p).record, old.status = .failure →
    new.status = .failure → new.revision = old.revision → new.failingSince = old.failingSince
  reported : p.reports env s.record = true → ∃ pc ∈ (portStep env s p).record,
    pc.status = .failure ∧ pc.revision = p.revision ∧
      ∃ since ∈ pc.failingSince, portCheckGrace (p.envAt env) ≤ timeSince (p.envAt env) since
  /-- A crash keeps the failure details. Its type may be left empty: only details of a
  readiness failure are the port check's own. -/
  crash : ∀ d rest, p.resource.status.lastFailureDetails = d :: rest →
    d.type ≠ failureTypeReadinessFailure →
    (p.after env s.record).resource.status.lastFailureDetails = d :: rest

theorem stored_of_clock (hStored : storedRecord record = record) {started : Timestamp}
    (h : graceClockStart record revision = some started) :
    started.stored = started := by
  obtain ⟨pc, rfl, -, hClock⟩ := record_of_graceClockStart h
  have hSince : pc.failingSince.map Timestamp.stored = pc.failingSince :=
    congrArg PortCheckStatus.failingSince (Option.some.inj hStored)
  rw [hClock] at hSince
  exact Option.some.inj hSince

theorem graceClockStart_self (pc : PortCheckStatus) :
    graceClockStart (some pc) pc.revision = pc.failingSince :=
  if_neg (not_not_intro rfl)

theorem clock_portStep (h : Kept s.record) (p : PortPass) {old new : PortCheckStatus}
    (hOld : s.record = some old) (hNew : (portStep env s p).record = some new)
    (hFailed : old.status = .failure) (hFails : new.status = .failure)
    (hRev : new.revision = old.revision) : new.failingSince = old.failingSince := by
  rw [record_portStep] at hNew
  split at hNew
  case isFalse =>
    rw [hOld] at hNew
    rw [Option.some.inj hNew]
  cases hAnswer : p.answer with
  | barred =>
    rw [hAnswer] at hNew
    cases hNew
  | disabled =>
    rw [hAnswer] at hNew
    cases hNew
  | unanswered =>
    rw [hAnswer] at hNew
    have hSame : storedRecord s.record = some new := hNew
    rw [h.stored, hOld] at hSame
    rw [Option.some.inj hSame]
  | allOpen =>
    rw [hAnswer] at hNew
    cases hNew
    cases hFails
  | closed ports =>
    rw [hAnswer] at hNew
    cases hNew
    -- a failure has a clock, so the running one is taken over as it is
    have hWell := h.wellFormed old hOld
    unfold WellFormed at hWell
    rw [hFailed] at hWell
    obtain ⟨started, hSince⟩ := Option.isSome_iff_exists.mp hWell.2.2
    have hClock : graceClockStart s.record p.revision = some started := by
      have hRevision : p.revision = old.revision := hRev
      rw [hRevision, hOld, graceClockStart_self, hSince]
    change (some (clockStart (p.envAt env) s.record p.revision)).map Timestamp.stored = _
    unfold clockStart
    rw [hClock, hSince, Option.getD_some, Option.map_some, stored_of_clock h.stored hClock]

theorem WellFormed.failure {pc : PortCheckStatus} (h : WellFormed pc) {since : Timestamp}
    (hSince : pc.failingSince = some since) : pc.status = .failure := by
  unfold WellFormed at h
  cases hStatus : pc.status with
  | failure => rfl
  | success =>
    rw [hStatus, hSince] at h
    cases h.2

theorem reported_portStep (h : Kept s.record) (p : PortPass)
    (hReports : p.reports env s.record = true) :
    ∃ pc ∈ (portStep env s p).record, pc.status = .failure ∧ pc.revision = p.revision ∧
      ∃ since ∈ pc.failingSince, portCheckGrace (p.envAt env) ≤ timeSince (p.envAt env) since := by
  rw [reports_eq] at hReports
  obtain ⟨started, hGrace, ⟨old, hOld, hOldRev, hOldSince⟩, new, hNew, hRev, hSince⟩ :=
    record_of_condemns _ hReports
  rw [record_portStep]
  split
  · -- the clock that condemns was on status before the check, so storing keeps it
    have hClock : graceClockStart s.record old.revision = some started := by
      rw [hOld, graceClockStart_self, hOldSince]
    have hStored := stored_of_clock h.stored hClock
    have hFailure := (wellFormed_nextRecord env h.wellFormed p new hNew).failure hSince
    refine ⟨{ new with failingSince := new.failingSince.map Timestamp.stored }, ?_, hFailure, hRev,
      started, ?_, hGrace⟩
    · rw [hNew]
      rfl
    · change new.failingSince.map Timestamp.stored = some started
      rw [hSince, Option.map_some, hStored]
  · exact ⟨old, hOld, (h.wellFormed old hOld).failure hOldSince, hOldRev, started, hOldSince,
      hGrace⟩

theorem sound_portStep (h : Kept s.record) (p : PortPass) : SoundCheck env s p where
  ends := by
    have hSpec := checkPorts_spec (p.envAt env) p.revision p.serving (p.world s.record) _ rfl
    unfold PortPass.after
    cases hRun : checkPorts (p.envAt env) p.revision p.serving (p.world s.record) with
    | ok wait w => exact ⟨wait, rfl⟩
    | error e w =>
      rw [hRun] at hSpec
      exact hSpec.elim
  wellFormed := (kept_portStep env h p).wellFormed
  clock _ hOld _ hNew := clock_portStep env h p hOld hNew
  reported := reported_portStep env h p
  crash d rest hDetails hCrash := by
    have hBarred : p.answer = .barred := by
      refine answerOf_barred_iff.mpr ?_
      have hWorld : (p.world none).resource.status.lastFailureDetails = d :: rest := hDetails
      simp [portDiagnosisAllowed, hWorld, hCrash]
    rw [(checked_after env p s.record).details, answerOf_world, hBarred]
    exact hDetails

/-- **The record on status.** In every run of port checks that starts without a record, each
check comes to its end and leaves a well-formed record: a success without ports and time, a
failure with its ports in ascending order and the time its clock started, which no later
failure of the revision moves. A workload is only condemned on a stored failure of its
revision whose clock has outlived the grace period, and the details of a crash, of the
explicit type or of none, stay. -/
theorem records_sound (passes : List PortPass) :
    Runs.Admitted (portStep env) (SoundCheck env) {} passes := by
  refine Runs.admitted_of_invariant (A := fun _ _ => True) (I := fun s => Kept s.record)
    (fun s p _ hs => ⟨kept_portStep env hs p, sound_portStep env hs p⟩)
    (Runs.admitted_of_forall fun _ _ => trivial) ⟨nofun, rfl⟩

/-! ## Why a workload is condemned -/

/-- The answers for the revision whose passes were stored, back to the last open one. -/
def refusals (judged : List JudgedAnswer) (revision : String) : List JudgedAnswer :=
  (judged.filter fun j => j.stored && decide (j.revision = revision)).takeWhile
    fun j => j.closedSince.isSome

/-- A check that reports the failure finds a failure of its revision on status, at least the
grace period old, and its clock was started by a refusal stored then, since which no open
answer for the revision was stored. -/
def Grounded (s : PortRun) (p : PortPass) : Prop :=
  p.reports env s.record = true → ∃ pc ∈ s.record, pc.status = .failure ∧
    pc.revision = p.revision ∧ ∃ since ∈ pc.failingSince,
      portCheckGrace (p.envAt env) ≤ timeSince (p.envAt env) since ∧
        ∃ j ∈ refusals s.judged p.revision, since.wall = storedTime j.time

/-- Every clock on status was started by such a refusal. -/
def Clocked (s : PortRun) : Prop :=
  ∀ pc ∈ s.record, ∀ since ∈ pc.failingSince,
    ∃ j ∈ refusals s.judged pc.revision, since.wall = storedTime j.time

theorem refusals_lost {j : JudgedAnswer} (hLost : j.stored = false) (judged : List JudgedAnswer)
    (revision : String) : refusals (j :: judged) revision = refusals judged revision := by
  simp [refusals, hLost]

theorem refusals_closed {j : JudgedAnswer} (hStored : j.stored = true)
    (hClosed : j.closedSince.isSome = true) (judged : List JudgedAnswer) :
    refusals (j :: judged) j.revision = j :: refusals judged j.revision := by
  simp [refusals, hStored, hClosed]

theorem refusals_portStep_lost {p : PortPass} (hLost : p.stored = false) (revision : String) :
    refusals (portStep env s p).judged revision = refusals s.judged revision := by
  unfold portStep PortPass.judges
  cases p.answer with
  | barred => rfl
  | disabled => rfl
  | unanswered => rfl
  | allOpen => exact refusals_lost hLost _ _
  | closed ports => exact refusals_lost hLost _ _

/-- **One step.** A stored refusal takes the running clock over, or starts one of its own. -/
theorem clocked_portStep (h : Kept s.record) (hs : Clocked s) (p : PortPass) :
    Clocked (portStep env s p) := by
  intro pc hpc since hSince
  rw [record_portStep] at hpc
  -- a pass whose status is lost leaves the stored record
  cases hStored : p.stored with
  | false =>
    rw [hStored] at hpc
    obtain ⟨j, hj, hTime⟩ := hs pc hpc since hSince
    exact ⟨j, (refusals_portStep_lost env hStored _).symm ▸ hj, hTime⟩
  | true =>
    rw [hStored, if_pos rfl] at hpc
    unfold portStep PortPass.judges
    -- only a closed answer leaves a clock, or an unanswered pass the one there was
    cases hAnswer : p.answer with
    | barred =>
      rw [hAnswer] at hpc
      cases hpc
    | disabled =>
      rw [hAnswer] at hpc
      cases hpc
    | unanswered =>
      rw [hAnswer] at hpc
      have hSame : storedRecord s.record = some pc := hpc
      rw [h.stored] at hSame
      exact hs pc hSame since hSince
    | allOpen =>
      rw [hAnswer] at hpc
      cases hpc
      cases hSince
    | closed ports =>
      rw [hAnswer] at hpc
      cases hpc
      cases hSince
      have hCons := refusals_closed
        (j := ⟨p.revision, p.clock.wall, some (clockStart (p.envAt env) s.record p.revision).wall,
          p.stored⟩) hStored rfl s.judged
      change ∃ j ∈ refusals (_ :: s.judged) p.revision, _
      rw [hCons]
      -- the clock starts with this refusal, or it ran and an earlier one had started it
      cases hClock : graceClockStart s.record p.revision with
      | none =>
        refine ⟨_, List.mem_cons_self, ?_⟩
        unfold clockStart
        rw [hClock]
        rfl
      | some started =>
        obtain ⟨old, hOld, hRev, hOldSince⟩ := record_of_graceClockStart hClock
        obtain ⟨j, hj, hTime⟩ := hs old hOld started hOldSince
        refine ⟨j, List.mem_cons_of_mem _ (hRev ▸ hj), ?_⟩
        unfold clockStart
        rw [hClock, Option.getD_some, stored_of_clock h.stored hClock]
        exact hTime

theorem grounded_portStep (h : Kept s.record) (hs : Clocked s) (p : PortPass) :
    Grounded env s p := by
  intro hReports
  rw [reports_eq] at hReports
  obtain ⟨started, hGrace, ⟨pc, hRecord, hRev, hSince⟩, -⟩ := record_of_condemns _ hReports
  obtain ⟨j, hj, hTime⟩ := hs pc hRecord started hSince
  exact ⟨pc, hRecord, (h.wellFormed pc hRecord).failure hSince, hRev, started, hSince, hGrace, j,
    hRev ▸ hj, hTime⟩

/-- **Condemned past the grace period.** In every run of port checks from no record, whatever
the dials answer, the agent restarts and status writes are lost: a check that reports the
failure of a revision finds a failure of it on status that is at least the grace period old,
whose time is that of a refusal stored then, with no open answer stored since. -/
theorem condemned_past_grace (passes : List PortPass) :
    Runs.Admitted (portStep env) (Grounded env) {} passes := by
  refine Runs.admitted_of_invariant (A := fun _ _ => True)
    (I := fun s => Kept s.record ∧ Clocked s) (fun s p _ hs => ?_)
    (Runs.admitted_of_forall fun _ _ => trivial) ⟨⟨nofun, rfl⟩, nofun⟩
  exact ⟨⟨kept_portStep env hs.1 p, clocked_portStep env hs.1 hs.2 p⟩,
    grounded_portStep env hs.1 hs.2 p⟩

/-! ## What a report does not need -/

/-- The answer was closed, at least the grace period after its clock started. -/
def JudgedAnswer.pastGrace (j : JudgedAnswer) : Bool :=
  match j.closedSince with
  | none => false
  | some since => decide (portCheckGrace env ≤ j.time - since)

/-- Since the last open answer for the revision, a closed one was judged past the grace
period. -/
def judgedPastGrace (judged : List JudgedAnswer) (revision : String) : Bool :=
  ((judged.filter fun j => decide (j.revision = revision)).takeWhile fun j =>
    j.closedSince.isSome).any (JudgedAnswer.pastGrace env)

/-- A check that reports the failure has a closed answer past the grace period to show for
it, and refusals inside the grace window never make it do so. -/
structure Justified (s : PortRun) (p : PortPass) : Prop where
  judged : p.reports env s.record = true →
    judgedPastGrace env (portStep env s p).judged p.revision = true
  inside : (∀ j ∈ (portStep env s p).judged, j.revision = p.revision → j.pastGrace env = false) →
    p.reports env s.record = false

instance (s : PortRun) (p : PortPass) : Decidable (Justified env s p) :=
  decidable_of_iff (_ ∧ _) ⟨fun h => ⟨h.1, h.2⟩, fun h => ⟨h.1, h.2⟩⟩

end

/-- A pass over a workload with one port, on its first revision: the seconds on the clock and
what the verifier has to say. -/
def portPassAt (seconds : Int) (answer : Option Bool) : PortPass where
  clock := { wall := seconds * second, monotonic := seconds * second }
  verifier := some
    { results := (answer.map fun isOpen =>
        (("apps", "web"), { revision := "1", result := { ports := [⟨8080, isOpen⟩] } })).toList }
  resource :=
    { metadata := { ns := "apps", name := "web" }
      spec := { ports := [{ name := "http", number := 8080 }] } }
  revision := "1"
  serving := true

/-- The only refusal is judged when the clock starts; the agent is down while the grace
period passes, and its first pass, without an answer, condemns the workload. -/
theorem unanswered_pass_condemns :
    ¬ ∀ (env : Env) (passes : List PortPass),
      Runs.Admitted (portStep env) (Justified env) {} passes := by
  intro h
  have hRun := h quietEnv [portPassAt 0 (some false), portPassAt 200 none]
  revert hRun
  decide +kernel

end ClusterAgent.Workload
