import ClusterAgent.Lib.Keyed
import ClusterAgent.Lib.Runs
import ClusterAgent.Controller.PortCheck

/-!
# Cluster agent — the port verifier under concurrency

`Enqueue` marks a resource as pending in one critical section, leaves the lock and
only then offers the job to the channel; if the channel is full it takes the lock
again to remove its mark. Meanwhile workers receive jobs, dial, and store answers.
This module has the verifier as its callers and workers share it: every critical
section and every channel operation is one step, and any number of `Enqueue` and
`Forget` calls and workers interleave. `Get` and `Pending` only read, so what they
can return is what the states say.

* `Pool`, `poolStep` — the shared state, each `Enqueue` call's and each worker's
  position, and two histories: the jobs sent, and the answers stored and forgotten;
* `PoolMoves` — what one step does, by cases;
* `OneHolder`, `SentByCall`, `FromSent`, `AsLogged` — the invariants, each kept by every
  move.

Main result: `verifier_sound`.
-/

namespace ClusterAgent.PortCheck

/-! ## Critical sections and channel operations -/

namespace Verifier

/-- The first critical section of `Enqueue`: refuse, or mark the resource as pending. -/
def mark (v : Verifier) (key : Key) : Option Verifier :=
  if (v.get key).isSome || v.isPending key then none
  else some { v with pending := key.nameKey :: v.pending }

/-- The send of `Enqueue`, which a full channel refuses. -/
def offer (v : Verifier) (job : DialJob) : Option Verifier :=
  if v.queue.length < queueDepth then some { v with queue := v.queue ++ [job] } else none

/-- The second critical section of `Enqueue`, for a job that did not fit. -/
def unmark (v : Verifier) (key : Key) : Verifier :=
  { v with pending := v.pending.filter fun k => decide (k ≠ key.nameKey) }

/-- The critical section of a worker that has dialed. -/
def store (v : Verifier) (job : DialJob) (result : Result) : Verifier :=
  { v with
    results := (job.key.nameKey, { revision := job.key.revision, result := result }) ::
      v.results.filter fun e => decide (e.1 ≠ job.key.nameKey)
    pending := v.pending.filter fun k => decide (k ≠ job.key.nameKey) }

@[simp] theorem queue_forget (v : Verifier) (key : Key) : (v.forget key).queue = v.queue := by
  unfold forget
  split <;> rfl

@[simp] theorem pending_forget (v : Verifier) (key : Key) :
    (v.forget key).pending = v.pending := by
  unfold forget
  split <;> rfl

end Verifier

/-! ## The pool -/

inductive EnqueueCall where
  | marked (job : DialJob)
  /-- The channel was full; the mark is still to be removed. -/
  | refused (job : DialJob)
  | returned (job : DialJob) (accepted : Bool)
  deriving DecidableEq, Repr

/-- The job of a call that has set its mark and neither sent the job nor removed the mark. -/
def EnqueueCall.holds : EnqueueCall → Option DialJob
  | .marked job | .refused job => some job
  | .returned _ _ => none

inductive LogEntry where
  | completed (job : DialJob) (result : Result)
  | forgot (key : Key)
  deriving DecidableEq, Repr

structure Pool where
  verifier : Verifier := {}
  /-- The `Enqueue` calls so far, in the order of their first critical section. -/
  calls : List EnqueueCall := []
  workers : List (Option DialJob)
  sent : List (Nat × DialJob) := []
  log : List LogEntry := []
  deriving DecidableEq, Repr

/-- One atomic step of a caller or a worker; calls and workers by number. -/
inductive PoolEvent where
  | enqueue (job : DialJob)
  | send (call : Nat)
  | clear (call : Nat)
  | receive (worker : Nat)
  | finish (worker : Nat) (result : Result)
  | forget (key : Key)
  deriving DecidableEq, Repr

def poolStep (s : Pool) : PoolEvent → Pool
  | .enqueue job =>
    match s.verifier.mark job.key with
    | none => { s with calls := s.calls ++ [.returned job false] }
    | some v => { s with verifier := v, calls := s.calls ++ [.marked job] }
  | .send i =>
    match s.calls[i]? with
    | some (.marked job) =>
      match s.verifier.offer job with
      | some v =>
        { s with
          verifier := v
          calls := s.calls.set i (.returned job true)
          sent := (i, job) :: s.sent }
      | none => { s with calls := s.calls.set i (.refused job) }
    | _ => s
  | .clear i =>
    match s.calls[i]? with
    | some (.refused job) =>
      { s with
        verifier := s.verifier.unmark job.key
        calls := s.calls.set i (.returned job false) }
    | _ => s
  | .receive i =>
    match s.workers[i]?, s.verifier.queue with
    | some none, job :: rest =>
      { s with verifier.queue := rest, workers := s.workers.set i (some job) }
    | _, _ => s
  | .finish i result =>
    match s.workers[i]? with
    | some (some job) =>
      { s with
        verifier := s.verifier.store job result
        workers := s.workers.set i none
        log := .completed job result :: s.log }
    | _ => s
  | .forget key =>
    { s with verifier := s.verifier.forget key, log := .forgot key :: s.log }

def Pool.start (workers : Nat) : Pool := { workers := List.replicate workers none }

inductive PoolMoves (s : Pool) : Pool → Prop where
  | stays : PoolMoves s s
  | refuses (job : DialJob) : PoolMoves s { s with calls := s.calls ++ [.returned job false] }
  | marks (job : DialJob) (hFree : job.key.nameKey ∉ s.verifier.pending) :
    PoolMoves s
      { s with
        verifier.pending := job.key.nameKey :: s.verifier.pending
        calls := s.calls ++ [.marked job] }
  | sends (i : Nat) (job : DialJob) (hCall : s.calls[i]? = some (.marked job)) :
    PoolMoves s
      { s with
        verifier.queue := s.verifier.queue ++ [job]
        calls := s.calls.set i (.returned job true)
        sent := (i, job) :: s.sent }
  | overflows (i : Nat) (job : DialJob) (hCall : s.calls[i]? = some (.marked job)) :
    PoolMoves s { s with calls := s.calls.set i (.refused job) }
  | clears (i : Nat) (job : DialJob) (hCall : s.calls[i]? = some (.refused job)) :
    PoolMoves s
      { s with
        verifier := s.verifier.unmark job.key
        calls := s.calls.set i (.returned job false) }
  | receives (i : Nat) (job : DialJob) (rest : List DialJob) (hIdle : s.workers[i]? = some none)
      (hQueue : s.verifier.queue = job :: rest) :
    PoolMoves s { s with verifier.queue := rest, workers := s.workers.set i (some job) }
  | finishes (i : Nat) (job : DialJob) (result : Result)
      (hDials : s.workers[i]? = some (some job)) :
    PoolMoves s
      { s with
        verifier := s.verifier.store job result
        workers := s.workers.set i none
        log := .completed job result :: s.log }
  | forgets (key : Key) :
    PoolMoves s { s with verifier := s.verifier.forget key, log := .forgot key :: s.log }

theorem poolStep_moves (s : Pool) (e : PoolEvent) : PoolMoves s (poolStep s e) := by
  -- one case per event; a caller or worker that is not where the event needs it stays
  cases e with
  | enqueue job =>
    dsimp only [poolStep, Verifier.mark]
    split
    · exact .refuses job
    · next v hMark =>
      split at hMark
      · cases hMark
      · next hFree =>
        -- neither answered nor marked: the call gets the mark
        cases hMark
        simp only [Verifier.isPending, Bool.or_eq_true, decide_eq_true_eq, not_or] at hFree
        exact .marks job hFree.2
  | send i =>
    dsimp only [poolStep]
    split
    · next job hCall =>
      dsimp only [Verifier.offer]
      split
      · next v hOffer =>
        split at hOffer
        · cases hOffer
          exact .sends i job hCall
        · cases hOffer
      · exact .overflows i job hCall
    · exact .stays
  | clear i =>
    dsimp only [poolStep]
    split
    · next job hCall => exact .clears i job hCall
    · exact .stays
  | receive i =>
    dsimp only [poolStep]
    split
    · next job rest hIdle hQueue => exact .receives i job rest hIdle hQueue
    · exact .stays
  | finish i result =>
    dsimp only [poolStep]
    split
    · next job hDials => exact .finishes i job result hDials
    · exact .stays
  | forget key => exact .forgets key

/-! ## One holder for each mark -/

def isFor (k : String × String) (job : DialJob) : Bool := decide (job.key.nameKey = k)

def Pool.jobs (s : Pool) (k : String × String) : Nat :=
  s.verifier.queue.countP (isFor k) + s.workers.countP fun w => w.any (isFor k)

/-- The `Enqueue` calls for a resource that stand between their mark and its use. -/
def Pool.callers (s : Pool) (k : String × String) : Nat :=
  s.calls.countP fun c => c.holds.any (isFor k)

/-- A mark stands for one job or one call, and the other way round. -/
def OneHolder (s : Pool) : Prop :=
  ∀ k, s.jobs k + s.callers k = if k ∈ s.verifier.pending then 1 else 0

variable {k : String × String} {s s' : Pool} {i : Nat}

theorem mem_unmarked {k' : String × String} {pending : List (String × String)} :
    k ∈ pending.filter (fun x => decide (x ≠ k')) ↔ k ∈ pending ∧ k ≠ k' := by
  rw [List.mem_filter, decide_eq_true_eq]

theorem countP_job (k : String × String) (job : DialJob) (rest : List DialJob) :
    (job :: rest).countP (isFor k) = rest.countP (isFor k) + (isFor k job).toNat := by
  rw [List.countP_cons]
  cases isFor k job <;> rfl

theorem holder_unmarked (job : DialJob) {pending : List (String × String)} {n m : Nat}
    (hHeld : n = if k ∈ pending then 1 else 0) (hGone : m + (isFor k job).toNat = n) :
    m = if k ∈ pending.filter (fun x => decide (x ≠ job.key.nameKey)) then 1 else 0 := by
  by_cases hKey : job.key.nameKey = k
  · have hOut : k ∉ pending.filter fun x => decide (x ≠ job.key.nameKey) :=
      fun h => (mem_unmarked.mp h).2 hKey.symm
    have hMine : isFor k job = true := decide_eq_true hKey
    rw [if_neg hOut]
    rw [hMine, Bool.toNat_true] at hGone
    split at hHeld
    · omega
    · omega
  · have hOther : isFor k job = false := decide_eq_false hKey
    have hMem : (k ∈ pending.filter fun x => decide (x ≠ job.key.nameKey)) ↔ k ∈ pending := by
      rw [mem_unmarked]
      exact ⟨And.left, fun h => ⟨h, fun he => hKey he.symm⟩⟩
    rw [hOther, Bool.toNat_false, Nat.add_zero] at hGone
    rw [hGone, hHeld]
    simp only [hMem]

theorem oneHolder_moves (h : OneHolder s) (hMove : PoolMoves s s') :
    OneHolder s' := by
  intro k
  have hk := h k
  unfold Pool.jobs Pool.callers at *
  -- each case balances one side of the equation against the other
  cases hMove with
  | stays => exact hk
  | refuses job =>
    dsimp only
    rw [List.countP_append]
    exact hk
  | marks job hFree =>
    dsimp only
    rw [List.countP_append, List.countP_singleton]
    change _ + (_ + if isFor k job = true then 1 else 0) = _
    -- the resource of the job gets a mark and a caller; all others stay
    by_cases hKey : job.key.nameKey = k
    · subst hKey
      have hMine : isFor job.key.nameKey job = true := decide_eq_true rfl
      rw [if_neg hFree] at hk
      rw [if_pos hMine, if_pos List.mem_cons_self]
      omega
    · have hMem : k ∈ job.key.nameKey :: s.verifier.pending ↔ k ∈ s.verifier.pending := by
        rw [List.mem_cons]
        exact or_iff_right (Ne.symm hKey)
      have hOther : ¬ isFor k job = true := fun h => hKey (of_decide_eq_true h)
      rw [if_neg hOther, Nat.add_zero, hk]
      simp only [hMem]
  | sends i job hCall =>
    -- the caller gives its job to the queue
    have hSet := Keyed.countP_set (fun c => c.holds.any (isFor k)) (.returned job true) hCall
    change _ + (isFor k job).toNat = _ + 0 at hSet
    dsimp only
    rw [List.countP_append, countP_job, List.countP_nil]
    omega
  | overflows i job hCall =>
    -- a caller that is refused still holds its job, until it clears the mark
    have hSet := Keyed.countP_set (fun c => c.holds.any (isFor k)) (.refused job) hCall
    change _ + (isFor k job).toNat = _ + (isFor k job).toNat at hSet
    dsimp only
    omega
  | clears i job hCall =>
    have hSet := Keyed.countP_set (fun c => c.holds.any (isFor k)) (.returned job false) hCall
    change _ + (isFor k job).toNat = _ + 0 at hSet
    refine holder_unmarked job hk ?_
    dsimp only [Verifier.unmark]
    omega
  | receives i job rest hIdle hQueue =>
    -- a job goes from the queue to a worker
    have hSet := Keyed.countP_set (fun w => w.any (isFor k)) (some job) hIdle
    change _ + 0 = _ + (isFor k job).toNat at hSet
    rw [hQueue, countP_job] at hk
    dsimp only
    omega
  | finishes i job result hDials =>
    -- the worker is done, and the mark goes with its job
    have hSet := Keyed.countP_set (fun w => w.any (isFor k)) none hDials
    change _ + (isFor k job).toNat = _ + 0 at hSet
    refine holder_unmarked job hk ?_
    dsimp only [Verifier.store]
    omega
  | forgets key =>
    dsimp only
    rw [Verifier.queue_forget, Verifier.pending_forget]
    exact hk

/-! ## Jobs and the calls that sent them -/

structure SentByCall (s : Pool) : Prop where
  once : (s.sent.map Prod.fst).Nodup
  iff : ∀ i job, (i, job) ∈ s.sent ↔ s.calls[i]? = some (.returned job true)

theorem SentByCall.not_sent (h : SentByCall s) {c : EnqueueCall} (hCall : s.calls[i]? = some c)
    (hc : ∀ job, c ≠ .returned job true) :
    i ∉ s.sent.map Prod.fst := by
  intro hMem
  obtain ⟨⟨i, job⟩, hSent, rfl⟩ := List.mem_map.mp hMem
  rw [(h.iff i job).mp hSent] at hCall
  exact hc job (Option.some.inj hCall).symm

theorem SentByCall.set (h : SentByCall s) {c c' : EnqueueCall} (hCall : s.calls[i]? = some c)
    (hc : ∀ job, c ≠ .returned job true) (hc' : ∀ job, c' ≠ .returned job true) (j : Nat)
    (job : DialJob) :
    (j, job) ∈ s.sent ↔ (s.calls.set i c')[j]? = some (.returned job true) := by
  have hLt : i < s.calls.length := (List.getElem?_eq_some_iff.mp hCall).1
  by_cases hij : i = j
  · subst hij
    rw [List.getElem?_set_self hLt]
    refine iff_of_false (fun hSent => ?_) fun he => hc' job (Option.some.inj he)
    exact h.not_sent hCall hc (List.mem_map_of_mem (f := Prod.fst) hSent)
  · rw [List.getElem?_set_ne hij]
    exact h.iff j job

theorem SentByCall.append (h : SentByCall s) {c : EnqueueCall}
    (hc : ∀ job, c ≠ .returned job true) (j : Nat) (job : DialJob) :
    (j, job) ∈ s.sent ↔ (s.calls ++ [c])[j]? = some (.returned job true) := by
  rw [h.iff j job, List.getElem?_append]
  split
  · rfl
  · next hGe =>
    rw [List.getElem?_eq_none (Nat.le_of_not_lt hGe)]
    refine iff_of_false nofun fun he => ?_
    rw [List.getElem?_singleton] at he
    split at he
    · exact hc job (Option.some.inj he)
    · cases he

theorem sentByCall_moves (h : SentByCall s) (hMove : PoolMoves s s') :
    SentByCall s' := by
  cases hMove with
  | stays => exact h
  | refuses job => exact ⟨h.once, h.append nofun⟩
  | marks job hFree => exact ⟨h.once, h.append nofun⟩
  | sends i job hCall =>
    have hLt : i < s.calls.length := (List.getElem?_eq_some_iff.mp hCall).1
    refine ⟨List.nodup_cons.mpr ⟨h.not_sent hCall nofun, h.once⟩, fun j job' => ?_⟩
    dsimp only
    rw [List.mem_cons, Prod.mk.injEq]
    by_cases hij : i = j
    · subst hij
      rw [List.getElem?_set_self hLt]
      have hNot : (i, job') ∉ s.sent := fun hSent =>
        h.not_sent hCall nofun (List.mem_map_of_mem (f := Prod.fst) hSent)
      simp [hNot, eq_comm]
    · rw [List.getElem?_set_ne hij, ← h.iff j job']
      exact or_iff_right fun he => hij he.1.symm
  | overflows i job hCall => exact ⟨h.once, h.set hCall nofun nofun⟩
  | clears i job hCall => exact ⟨h.once, h.set hCall nofun nofun⟩
  | receives i job rest hIdle hQueue => exact ⟨h.once, h.iff⟩
  | finishes i job result hDials => exact ⟨h.once, h.iff⟩
  | forgets key => exact ⟨h.once, h.iff⟩

structure FromSent (s : Pool) : Prop where
  queued : ∀ job ∈ s.verifier.queue, ∃ i, (i, job) ∈ s.sent
  dialed : ∀ job, some job ∈ s.workers → ∃ i, (i, job) ∈ s.sent
  completed : ∀ job result, .completed job result ∈ s.log → ∃ i, (i, job) ∈ s.sent

theorem fromSent_moves (h : FromSent s) (hMove : PoolMoves s s') : FromSent s' := by
  -- jobs come in by `sends` only, and only move from then on
  cases hMove with
  | stays => exact h
  | refuses job => exact ⟨h.queued, h.dialed, h.completed⟩
  | marks job hFree => exact ⟨h.queued, h.dialed, h.completed⟩
  | sends i job hCall =>
    have hMore : ∀ job', (∃ j, (j, job') ∈ s.sent) → ∃ j, (j, job') ∈ (i, job) :: s.sent :=
      fun job' ⟨j, hj⟩ => ⟨j, List.mem_cons_of_mem _ hj⟩
    refine ⟨fun job' hJob => ?_, fun job' hJob => hMore job' (h.dialed job' hJob),
      fun job' result hJob => hMore job' (h.completed job' result hJob)⟩
    rcases List.mem_append.mp hJob with hOld | hNew
    · exact hMore job' (h.queued job' hOld)
    · rw [List.mem_singleton.mp hNew]
      exact ⟨i, List.mem_cons_self⟩
  | overflows i job hCall => exact ⟨h.queued, h.dialed, h.completed⟩
  | clears i job hCall => exact ⟨h.queued, h.dialed, h.completed⟩
  | receives i job rest hIdle hQueue =>
    have hQueued := h.queued
    rw [hQueue] at hQueued
    refine ⟨fun job' hJob => hQueued job' (List.mem_cons_of_mem _ hJob), fun job' hJob => ?_,
      h.completed⟩
    rcases List.mem_or_eq_of_mem_set hJob with hOld | hNew
    · exact h.dialed job' hOld
    · cases hNew
      exact hQueued job List.mem_cons_self
  | finishes i job result hDials =>
    refine ⟨h.queued, fun job' hJob => ?_, fun job' result' hJob => ?_⟩
    · rcases List.mem_or_eq_of_mem_set hJob with hOld | hNew
      · exact h.dialed job' hOld
      · cases hNew
    · rcases List.mem_cons.mp hJob with hNew | hOld
      · cases hNew
        exact h.dialed job (List.mem_of_getElem? hDials)
      · exact h.completed job' result' hOld
  | forgets key =>
    refine ⟨?_, h.dialed, fun job result hJob => ?_⟩
    · dsimp only
      rw [Verifier.queue_forget]
      exact h.queued
    · rcases List.mem_cons.mp hJob with hNew | hOld
      · cases hNew
      · exact h.completed job result hOld

/-! ## Answers -/

structure Completion where
  job : DialJob
  result : Result
  forgotten : Bool := false
  deriving DecidableEq, Repr

def lastCompleted (k : String × String) : List LogEntry → Option Completion
  | [] => none
  | .completed job result :: rest =>
    if job.key.nameKey = k then some { job := job, result := result } else lastCompleted k rest
  | .forgot key :: rest =>
    (lastCompleted k rest).map fun c => if c.job.key = key then { c with forgotten := true } else c

def expected (k : String × String) (log : List LogEntry) : Option StoredResult :=
  (lastCompleted k log).bind fun c =>
    if c.forgotten then none else some { revision := c.job.key.revision, result := c.result }

/-- What is stored is what the log says. -/
def AsLogged (s : Pool) : Prop := ∀ k, s.verifier.results.lookup k = expected k s.log

theorem lastCompleted_some {log : List LogEntry} {c : Completion}
    (h : lastCompleted k log = some c) :
    c.job.key.nameKey = k ∧ .completed c.job c.result ∈ log := by
  induction log generalizing c with
  | nil => cases h
  | cons e rest ih =>
    cases e with
    | completed job result =>
      unfold lastCompleted at h
      split at h
      · next hKey =>
        cases h
        exact ⟨hKey, List.mem_cons_self⟩
      · obtain ⟨hKey, hMem⟩ := ih h
        exact ⟨hKey, List.mem_cons_of_mem _ hMem⟩
    | forgot key =>
      obtain ⟨c', hLast, hc⟩ := Option.map_eq_some_iff.mp h
      obtain ⟨hKey, hMem⟩ := ih hLast
      have hSame : c.job = c'.job ∧ c.result = c'.result := by
        rw [← hc]
        split
        · exact ⟨rfl, rfl⟩
        · exact ⟨rfl, rfl⟩
      rw [hSame.1, hSame.2]
      exact ⟨hKey, List.mem_cons_of_mem _ hMem⟩

theorem Key.eq_iff {a b : Key} : a = b ↔ a.nameKey = b.nameKey ∧ a.revision = b.revision := by
  cases a
  cases b
  simp only [Key.nameKey, Key.mk.injEq, Prod.mk.injEq, and_assoc]

theorem expected_forgot (k : String × String) (key : Key) (log : List LogEntry) :
    expected k (.forgot key :: log) =
      if (lastCompleted k log).any (fun c => decide (c.job.key = key)) then none
      else expected k log := by
  unfold expected
  cases hLast : lastCompleted k log with
  | none => simp [lastCompleted, hLast]
  | some c =>
    by_cases hKey : c.job.key = key
    · simp [lastCompleted, hLast, hKey]
    · simp [lastCompleted, hLast, hKey]

theorem Verifier.get_eq_some_iff {v : Verifier} {key : Key} {result : Result} :
    v.get key = some result ↔
      v.results.lookup key.nameKey = some { revision := key.revision, result := result } := by
  unfold Verifier.get
  cases v.results.lookup key.nameKey with
  | none => simp
  | some stored =>
    cases stored with
    | mk revision result' =>
      by_cases hRev : revision = key.revision
      · simp [hRev]
      · simp [hRev]

theorem Verifier.lookup_forget (v : Verifier) (key : Key) (k : String × String) :
    (v.forget key).results.lookup k =
      if (v.get key).isSome ∧ k = key.nameKey then none else v.results.lookup k := by
  unfold Verifier.forget
  cases v.get key with
  | none => simp
  | some result =>
    dsimp only
    rw [Keyed.lookup_without]
    simp

theorem AsLogged.last (h : AsLogged s) {key : Key} {result : Result}
    (hGet : s.verifier.get key = some result) :
    ∃ c, lastCompleted key.nameKey s.log = some c ∧ c.job.key = key ∧ c.result = result := by
  have hExpected := (h key.nameKey).symm.trans (Verifier.get_eq_some_iff.mp hGet)
  obtain ⟨c, hLast, hc⟩ := Option.bind_eq_some_iff.mp hExpected
  split at hc
  · cases hc
  · injection Option.some.inj hc with hRev hResult
    exact ⟨c, hLast, Key.eq_iff.mpr ⟨(lastCompleted_some hLast).1, hRev⟩, hResult⟩

theorem asLogged_forget (h : AsLogged s) (key : Key) (k : String × String) :
    (s.verifier.forget key).results.lookup k = expected k (.forgot key :: s.log) := by
  rw [expected_forgot, ← h k, Verifier.lookup_forget]
  cases hGet : s.verifier.get key with
  | some result =>
    obtain ⟨c, hLast, hKey, -⟩ := h.last hGet
    by_cases hName : k = key.nameKey
    · subst hName
      rw [if_pos ⟨rfl, rfl⟩, hLast, Option.any_some, if_pos (decide_eq_true hKey)]
    · rw [if_neg fun hs => hName hs.2, if_neg]
      intro hAny
      obtain ⟨c', hLast', hKey'⟩ := (Option.any_eq_true _ _).mp hAny
      rw [← (lastCompleted_some hLast').1, of_decide_eq_true hKey'] at hName
      exact hName rfl
  | none =>
    rw [if_neg fun hs => Bool.noConfusion hs.1]
    split
    · next hAny =>
      -- the last answer is already gone, or `Get` would have seen it
      obtain ⟨c, hLast, hKey⟩ := (Option.any_eq_true _ _).mp hAny
      have hSame := of_decide_eq_true hKey
      have hName := (lastCompleted_some hLast).1
      rw [h k]
      unfold expected
      rw [hLast, Option.bind_some]
      cases hGone : c.forgotten with
      | true => rfl
      | false =>
        have hSome : s.verifier.get key = some c.result := by
          rw [Verifier.get_eq_some_iff, h, ← hSame, hName]
          unfold expected
          rw [hLast, Option.bind_some, hGone]
          rfl
        rw [hSome] at hGet
        cases hGet
    · rfl

theorem asLogged_moves (h : AsLogged s) (hMove : PoolMoves s s') : AsLogged s' := by
  cases hMove with
  | stays => exact h
  | refuses job => exact h
  | marks job hFree => exact h
  | sends i job hCall => exact h
  | overflows i job hCall => exact h
  | clears i job hCall => exact h
  | receives i job rest hIdle hQueue => exact h
  | finishes i job result hDials =>
    intro k
    dsimp only [Verifier.store]
    unfold expected lastCompleted
    rw [List.lookup_cons]
    by_cases hName : job.key.nameKey = k
    · subst hName
      rw [beq_self_eq_true, if_pos rfl]
      rfl
    · rw [beq_false_of_ne (Ne.symm hName), if_neg hName, Keyed.lookup_without,
        if_neg (Ne.symm hName)]
      exact h k
  | forgets key => exact asLogged_forget h key

/-- What holds in every state of the verifier. -/
structure VerifierSound (s : Pool) : Prop where
  /-- At most one job of a resource is queued or being dialed. -/
  oneJob : ∀ k, s.jobs k ≤ 1
  /-- A mark is set exactly while there is such a job, or a call that has set it and neither
  sent its job nor, the channel being full, removed it. -/
  marker : ∀ key, s.verifier.isPending key = true ↔ 0 < s.jobs key.nameKey ∨
    ∃ c ∈ s.calls, ∃ job ∈ c.holds, job.key.nameKey = key.nameKey
  /-- A call returns true if it sent one job, its own, and false if it sent none. -/
  admission : ∀ i job accepted, s.calls[i]? = some (.returned job accepted) →
    s.sent.filter (fun e => decide (e.1 = i)) = if accepted then [(i, job)] else []
  /-- An answer is that of a completed job, which a call sent for exactly this key. -/
  answer : ∀ key result, s.verifier.get key = some result → ∃ job, job.key = key ∧
    .completed job result ∈ s.log ∧ .returned job true ∈ s.calls
  /-- The stored answer is that of the last completed job, unless it was forgotten since. -/
  latest : ∀ k, s.verifier.results.lookup k = expected k s.log

structure PoolInv (s : Pool) : Prop where
  holder : OneHolder s
  byCall : SentByCall s
  fromSent : FromSent s
  logged : AsLogged s

theorem poolInv_start (workers : Nat) : PoolInv (Pool.start workers) where
  holder k := by
    simp [Pool.jobs, Pool.callers, Pool.start, List.countP_replicate]
  byCall := ⟨List.nodup_nil, fun i job => by simp [Pool.start]⟩
  fromSent := ⟨nofun, fun job h => absurd (List.mem_replicate.mp h).2 nofun, nofun⟩
  logged k := rfl

theorem poolInv_step (h : PoolInv s) (e : PoolEvent) : PoolInv (poolStep s e) :=
  have hMove := poolStep_moves s e
  ⟨oneHolder_moves h.holder hMove, sentByCall_moves h.byCall hMove, fromSent_moves h.fromSent hMove,
    asLogged_moves h.logged hMove⟩

theorem Pool.callers_pos_iff :
    0 < s.callers k ↔ ∃ c ∈ s.calls, ∃ job ∈ c.holds, job.key.nameKey = k := by
  unfold Pool.callers
  rw [List.countP_pos_iff]
  refine exists_congr fun c => and_congr_right fun _ => ?_
  rw [Option.any_eq_true]
  simp only [isFor, decide_eq_true_eq, Option.mem_def]

theorem PoolInv.marker (h : PoolInv s) (key : Key) :
    s.verifier.isPending key = true ↔ 0 < s.jobs key.nameKey ∨
      ∃ c ∈ s.calls, ∃ job ∈ c.holds, job.key.nameKey = key.nameKey := by
  have hHolder := h.holder key.nameKey
  rw [← Pool.callers_pos_iff]
  unfold Verifier.isPending
  rw [decide_eq_true_eq]
  split at hHolder
  · next hMem => exact iff_of_true hMem (by omega)
  · next hMem => exact iff_of_false hMem (by omega)

theorem filter_fst_eq {α : Type} {l : List (Nat × α)} (hOnce : (l.map Prod.fst).Nodup) {a : α}
    (hMem : (i, a) ∈ l) : l.filter (fun e => decide (e.1 = i)) = [(i, a)] := by
  induction l with
  | nil => cases hMem
  | cons e rest ih =>
    rw [List.map_cons, List.nodup_cons] at hOnce
    rcases List.mem_cons.mp hMem with rfl | hRest
    · rw [List.filter_cons_of_pos (by simp)]
      refine congrArg _ (List.filter_eq_nil_iff.mpr fun e he hi => hOnce.1 ?_)
      have hFst : e.1 ∈ rest.map Prod.fst := List.mem_map_of_mem he
      rw [of_decide_eq_true hi] at hFst
      exact hFst
    · have hOther : e.1 ≠ i := fun he => hOnce.1 (he ▸ List.mem_map_of_mem (f := Prod.fst) hRest)
      rw [List.filter_cons_of_neg (by simpa using hOther)]
      exact ih hOnce.2 hRest

theorem SentByCall.admission (h : SentByCall s) {job : DialJob} {accepted : Bool}
    (hCall : s.calls[i]? = some (.returned job accepted)) :
    s.sent.filter (fun e => decide (e.1 = i)) = if accepted then [(i, job)] else [] := by
  cases accepted with
  | false =>
    refine List.filter_eq_nil_iff.mpr fun e he hi => h.not_sent hCall nofun ?_
    exact of_decide_eq_true hi ▸ List.mem_map_of_mem he
  | true => exact filter_fst_eq h.once ((h.iff i job).mpr hCall)

/-- **The verifier is single-flight.** Whatever calls and workers do, and in whatever order:
a resource has at most one job queued or being dialed, its mark is set exactly while there is
one or a call holds it, a call returns true exactly if it sent its job, and what is stored for
a resource is the answer of its last completed job, unless it was forgotten since. -/
theorem verifier_sound (workers : Nat) (events : List PoolEvent) :
    VerifierSound (Runs.run poolStep (Pool.start workers) events) := by
  have h : PoolInv (Runs.run poolStep (Pool.start workers) events) :=
    Runs.run_invariant (I := PoolInv) (fun s e hs => poolInv_step hs e) (poolInv_start workers)
      events
  refine ⟨fun k => ?_, h.marker, fun i job accepted => h.byCall.admission,
    fun key result hGet => ?_,
    h.logged⟩
  · have hHolder := h.holder k
    split at hHolder
    · omega
    · omega
  · obtain ⟨c, hLast, rfl, rfl⟩ := h.logged.last hGet
    have hLogged := (lastCompleted_some hLast).2
    obtain ⟨i, hSent⟩ := h.fromSent.completed _ _ hLogged
    exact ⟨c.job, rfl, hLogged, List.mem_of_getElem? ((h.byCall.iff i c.job).mp hSent)⟩

end ClusterAgent.PortCheck
