import AgentFabric.Proof.Cloud.LeaseDiscipline

namespace AgentFabric.Cloud
open Transition MemoryJobQueue

section Lists

variable {Item : Type*}

/-- Two lists of distinct items commute exactly when one of them is empty. -/
theorem append_comm_iff_of_nodup {first second : List Item} (distinct : (first ++ second).Nodup) :
    first ++ second = second ++ first ↔ first = [] ∨ second = [] := by
  constructor
  · intro same
    cases first with
    | nil => exact .inl rfl
    | cons head rest =>
        cases second with
        | nil => exact .inr rfl
        | cons other later =>
            obtain ⟨equal, _⟩ := List.cons.inj same
            have apart := (List.nodup_append.mp distinct).2.2 head (.head _) other
              List.mem_cons_self
            exact absurd equal apart
  · rintro (rfl | rfl) <;> simp

/-- A list with an accepted item has a first one. -/
theorem exists_first (accepts : Item → Prop) {items : List Item}
    (found : ∃ item ∈ items, accepts item) :
    ∃ before item after, items = before ++ item :: after ∧ (∀ skipped ∈ before, ¬ accepts skipped) ∧
      accepts item := by
  classical
  cases hit : items.find? fun item => accepts item with
  | none =>
      obtain ⟨item, member, accepted⟩ := found
      have missed := List.find?_eq_none.mp hit item member
      exact absurd accepted (by simpa using missed)
  | some item =>
      obtain ⟨accepted, before, after, split, skipped⟩ := List.find?_eq_some_iff_append.mp hit
      exact ⟨before, item, after, split, fun other member => by simpa using skipped other member,
        by simpa using accepted⟩

end Lists

namespace MemoryJobQueue

/-- A job is queued under its own id. -/
def Waits (jobs : Dict String RuntimeJob) (job : RuntimeJob) : Prop :=
  jobs.get? job.jobId = some job ∧ job.status = .queued

section Loop

variable {jobs : Dict String RuntimeJob} {tenantId : Option String}

/-- The loop moves the waiting jobs that the filter rejects to the end of the deque. -/
theorem dequeueLoop_rotates (skipped : List RuntimeJob) (rounds : Nat) (rest : List String)
    (waits : ∀ job ∈ skipped, Waits jobs job) (rejects : ∀ job ∈ skipped, ¬ Accepts tenantId job) :
    dequeueLoop jobs tenantId (skipped.length + rounds) (skipped.map RuntimeJob.jobId ++ rest) =
      dequeueLoop jobs tenantId rounds (rest ++ skipped.map RuntimeJob.jobId) := by
  induction skipped generalizing rest with
  | nil => simp
  | cons job others ih =>
      obtain ⟨stored, queued⟩ := waits job (.head _)
      have rejected : tenantId.isSome ∧ some job.tenantId ≠ tenantId :=
        (not_accepts_iff tenantId job).mpr (rejects job (.head _))
      have size : (job :: others).length + rounds = (others.length + rounds) + 1 := by
        rw [List.length_cons]
        omega
      rw [size, List.map_cons, List.cons_append, dequeueLoop, stored]
      dsimp only
      rw [if_neg (not_not.mpr queued), if_pos rejected, List.append_assoc,
        ih _ (fun later member => waits later (.tail _ member))
          (fun later member => rejects later (.tail _ member)), List.append_assoc]
      rfl

/-- The loop returns the first waiting job that the filter accepts and puts the jobs before it behind
the jobs after it. -/
theorem dequeueLoop_first (before after : List RuntimeJob) (job : RuntimeJob)
    (waits : ∀ waiting ∈ before ++ job :: after, Waits jobs waiting)
    (rejects : ∀ skipped ∈ before, ¬ Accepts tenantId skipped) (accepted : Accepts tenantId job) :
    dequeueLoop jobs tenantId (before ++ job :: after).length
        ((before ++ job :: after).map RuntimeJob.jobId) =
      (some (job.jobId, job), (after ++ before).map RuntimeJob.jobId) := by
  obtain ⟨stored, queued⟩ := waits job (List.mem_append_right _ (.head _))
  have kept : ¬ (tenantId.isSome ∧ some job.tenantId ≠ tenantId) := by
    rw [not_accepts_iff]
    exact not_not.mpr accepted
  rw [List.length_append, List.map_append, dequeueLoop_rotates before _ _
    (fun waiting member => waits waiting (List.mem_append_left _ member)) rejects,
    List.length_cons, List.map_cons, List.cons_append, dequeueLoop, stored]
  dsimp only
  rw [if_neg (not_not.mpr queued), if_neg kept, List.map_append]

/-- A loop without an accepted job ends with the deque that it began with. -/
theorem dequeueLoop_none (waiting : List RuntimeJob) (waits : ∀ job ∈ waiting, Waits jobs job)
    (rejects : ∀ job ∈ waiting, ¬ Accepts tenantId job) :
    dequeueLoop jobs tenantId waiting.length (waiting.map RuntimeJob.jobId) =
      (none, waiting.map RuntimeJob.jobId) := by
  have rotated := dequeueLoop_rotates waiting 0 [] waits rejects
  rw [Nat.add_zero, List.append_nil, List.nil_append] at rotated
  rw [rotated, dequeueLoop]

end Loop

end MemoryJobQueue

/-- A queue with the jobs that were enqueued and leased so far, each in the order of its calls. -/
structure QueueHistory where
  queue : MemoryJobQueue
  enqueued : List RuntimeJob
  leased : List RuntimeJob

namespace QueueHistory

def initial : QueueHistory := ⟨MemoryJobQueue.empty, [], []⟩

/-- A call of the queue adds the job that it enqueued or leased to the history. -/
def observe (history : QueueHistory) (call : QueueCall) : Unit × QueueHistory :=
  match call, history.queue.step call with
  | .enqueue _ _, (.ok (some job), next) =>
      ((), { history with queue := next, enqueued := history.enqueued ++ [job] })
  | .dequeue _ _ _, (.ok (some job), next) =>
      ((), { history with queue := next, leased := history.leased ++ [job] })
  | _, (_, next) => ((), { history with queue := next })

theorem observe_enqueue (history : QueueHistory) (job : RuntimeJob) (now : UtcTime) :
    (observe history (.enqueue job now)).2 =
      match job.validate with
      | .error _ => history
      | .ok _ => { history with
          queue := history.queue.filed (queuedForm job now)
          enqueued := history.enqueued ++ [queuedForm job now] } := by
  simp only [observe, MemoryJobQueue.step, enqueue_eq]
  cases job.validate <;> rfl

theorem observe_dequeue (history : QueueHistory) (tenantId : Option String) (queueName : String)
    (now : UtcTime) :
    (observe history (.dequeue tenantId queueName now)).2 =
      match dequeueLoop history.queue.jobs tenantId
          (history.queue.deque queueName).length (history.queue.deque queueName) with
      | (none, rest) => { history with queue := { history.queue with
          queues := history.queue.queues.set queueName rest } }
      | (some (jobId, job), rest) => { history with
          queue := { history.queue with
            jobs := history.queue.jobs.set jobId (lease job now)
            queues := history.queue.queues.set queueName rest }
          leased := history.leased ++ [lease job now] } := by
  simp only [observe, MemoryJobQueue.step, MemoryJobQueue.dequeue]
  generalize dequeueLoop history.queue.jobs tenantId
    (history.queue.deque queueName).length (history.queue.deque queueName) = result
  obtain ⟨answer, rest⟩ := result
  cases answer <;> rfl

/-- The tenant of a job with its id. -/
def owner (job : RuntimeJob) : String × String := (job.tenantId, job.jobId)

variable (tenantId : String) (jobs : List RuntimeJob)

/-- The ids of one tenant among some jobs. -/
def ofTenant : List (String × String) :=
  (jobs.map owner).filter fun job => job.1 = tenantId

/-- The leased jobs of each tenant are the first of its enqueued jobs, in their order. -/
def InOrder (history : QueueHistory) : Prop :=
  ∀ tenantId, ofTenant tenantId history.leased <+: ofTenant tenantId history.enqueued

/-- The jobs that wait in a deque. -/
def waiting (queueName : String) (history : QueueHistory) : List RuntimeJob :=
  (history.queue.deque queueName).filterMap history.queue.jobs.get?

/-- A run of dequeues without a filter. -/
def drain (queueName : String) (times : List UtcTime) : List QueueCall :=
  times.map fun now => .dequeue none queueName now

/-- The leases are in order and stay so however far the deque is drained. -/
def DrainsInOrder (queueName : String) (history : QueueHistory) : Prop :=
  ∀ times, InOrder (run observe history (drain queueName times))

/-- A dequeue for one tenant leaves no other tenant with jobs before and after the leased one. -/
def KeepsOrder (queueName : String) (history : QueueHistory) : QueueCall → Prop
  | .dequeue (some tenantId) _ _ => ∀ before job after,
      history.waiting queueName = before ++ job :: after → job.tenantId = tenantId →
      (∀ skipped ∈ before, skipped.tenantId ≠ tenantId) →
        ∀ skipped ∈ before, ∀ later ∈ after, skipped.tenantId ≠ later.tenantId
  | _ => True

/-- An enqueue or a dequeue on one queue. -/
def OnQueue (queueName : String) : QueueCall → Prop
  | .enqueue job _ => job.queueName = queueName
  | .dequeue _ name _ => name = queueName
  | _ => False

/-- The id that a call enqueues. -/
def enqueuedId : QueueCall → Option String
  | .enqueue job _ => some job.jobId
  | _ => none

/-- The deque holds distinct waiting jobs, and the leased and the waiting jobs are the enqueued ones. -/
structure Consistent (queueName : String) (history : QueueHistory) : Prop where
  filed : ∃ jobs : List RuntimeJob, history.queue.deque queueName = jobs.map RuntimeJob.jobId ∧
    ∀ job ∈ jobs, MemoryJobQueue.Waits history.queue.jobs job
  known : ∀ jobId job, history.queue.jobs.get? jobId = some job →
    jobId ∈ history.enqueued.map RuntimeJob.jobId
  distinct : (history.enqueued.map RuntimeJob.jobId).Nodup
  complete : ((history.leased ++ history.waiting queueName).map owner).Perm (history.enqueued.map owner)

variable {queueName : String} {history : QueueHistory}

/-- The waiting jobs are those whose ids the deque holds. -/
theorem waiting_eq {jobs : List RuntimeJob}
    (filed : history.queue.deque queueName = jobs.map RuntimeJob.jobId)
    (waits : ∀ job ∈ jobs, MemoryJobQueue.Waits history.queue.jobs job) :
    history.waiting queueName = jobs := by
  rw [waiting, filed, List.filterMap_map]
  have stored : ∀ part : List RuntimeJob, (∀ job ∈ part, job ∈ jobs) →
      part.filterMap (history.queue.jobs.get? ∘ RuntimeJob.jobId) = part := by
    intro part
    induction part with
    | nil => exact fun _ => rfl
    | cons job rest ih =>
        intro inside
        have present := (waits job (inside job (.head _))).1
        rw [List.filterMap_cons, Function.comp_apply, present]
        exact congrArg _ (ih fun later member => inside later (.tail _ member))
  exact stored jobs fun _ member => member

theorem Consistent.deque (consistent : Consistent queueName history) :
    history.queue.deque queueName = (history.waiting queueName).map RuntimeJob.jobId ∧
      ∀ job ∈ history.waiting queueName, MemoryJobQueue.Waits history.queue.jobs job := by
  obtain ⟨jobs, filed, waits⟩ := consistent.filed
  rw [waiting_eq filed waits]
  exact ⟨filed, waits⟩

/-- The ids of the leased and the waiting jobs are distinct. -/
theorem Consistent.nodup (consistent : Consistent queueName history) :
    ((history.leased ++ history.waiting queueName).map RuntimeJob.jobId).Nodup := by
  have ids := consistent.complete.map Prod.snd
  rw [List.map_map, List.map_map] at ids
  exact ids.nodup_iff.mpr consistent.distinct

/-- What a call on the queue does to the waiting, the leased and the enqueued jobs. -/
inductive Moves (queueName : String) (history next : QueueHistory) : QueueCall → Prop
  | same (call : QueueCall) (waiting : next.waiting queueName = history.waiting queueName)
      (leased : next.leased = history.leased) (enqueued : next.enqueued = history.enqueued)
      (missed : ∀ tenantId name now, call = .dequeue tenantId name now →
        ∀ job ∈ history.waiting queueName, ¬ Accepts tenantId job) : Moves queueName history next call
  | enqueued (job queued : RuntimeJob) (now : UtcTime) (same : owner queued = owner job)
      (waiting : next.waiting queueName = history.waiting queueName ++ [queued])
      (leased : next.leased = history.leased)
      (enqueued : next.enqueued = history.enqueued ++ [queued]) :
      Moves queueName history next (.enqueue job now)
  | leased (tenantId : Option String) (name : String) (now : UtcTime) (before after : List RuntimeJob)
      (job taken : RuntimeJob) (same : owner taken = owner job)
      (split : history.waiting queueName = before ++ job :: after)
      (rejects : ∀ skipped ∈ before, ¬ Accepts tenantId skipped) (accepted : Accepts tenantId job)
      (waiting : next.waiting queueName = after ++ before)
      (leased : next.leased = history.leased ++ [taken])
      (enqueued : next.enqueued = history.enqueued) :
      Moves queueName history next (.dequeue tenantId name now)

section

variable (consistent : Consistent queueName history)
include consistent

/-- An enqueue of a new id adds its job to the waiting ones or fails. -/
theorem Consistent.enqueue {job : RuntimeJob}
    {now : UtcTime} (onQueue : job.queueName = queueName)
    (fresh : job.jobId ∉ history.enqueued.map RuntimeJob.jobId) :
    Consistent queueName (observe history (.enqueue job now)).2 ∧
      Moves queueName history (observe history (.enqueue job now)).2 (.enqueue job now) := by
  obtain ⟨filed, waits⟩ := consistent.deque
  rw [observe_enqueue]
  cases job.validate with
  | error error =>
      exact ⟨⟨consistent.filed, consistent.known, consistent.distinct, consistent.complete⟩,
        .same _ rfl rfl rfl fun _ _ _ other => by cases other⟩
  | ok valid =>
      obtain ⟨queued, shape⟩ : ∃ queued, queuedForm job now = queued := ⟨_, rfl⟩
      dsimp only
      rw [shape]
      have same : owner queued = owner job := by rw [← shape]; rfl
      have name : queued.queueName = queueName := by rw [← shape]; exact onQueue
      have ready : queued.status = .queued := by rw [← shape]; rfl
      have newId : queued.jobId ∉ history.enqueued.map RuntimeJob.jobId := by
        rw [← shape]
        exact fresh
      let next : QueueHistory :=
        { history with queue := history.queue.filed queued, enqueued := history.enqueued ++ [queued] }
      have deque : next.queue.deque queueName =
          (history.waiting queueName ++ [queued]).map RuntimeJob.jobId := by
        show MemoryJobQueue.deque ⟨_, _, _⟩ queueName = _
        rw [MemoryJobQueue.deque_set, name, if_pos rfl, filed, List.map_append, List.map_singleton]
      have stored : ∀ waiting ∈ history.waiting queueName ++ [queued],
          MemoryJobQueue.Waits next.queue.jobs waiting := by
        intro waiting member
        rcases List.mem_append.mp member with old | new
        · obtain ⟨present, status⟩ := waits waiting old
          have different : waiting.jobId ≠ queued.jobId := fun equal =>
            newId (equal ▸ consistent.known waiting.jobId waiting present)
          exact ⟨(Dict.get?_set_of_ne _ _ different).trans present, status⟩
        · rw [List.mem_singleton.mp new]
          exact ⟨Dict.get?_set_self _ _ _, ready⟩
      have list : next.waiting queueName = history.waiting queueName ++ [queued] :=
        waiting_eq deque stored
      refine ⟨⟨⟨_, deque, stored⟩, ?_, ?_, ?_⟩, .enqueued job queued now same list rfl rfl⟩
      · intro jobId other present
        show jobId ∈ (history.enqueued ++ [queued]).map RuntimeJob.jobId
        rw [List.map_append, List.mem_append, List.map_singleton, List.mem_singleton]
        by_cases own : jobId = queued.jobId
        · exact .inr own
        · exact .inl (consistent.known jobId other ((Dict.get?_set_of_ne _ _ own).symm.trans present))
      · show ((history.enqueued ++ [queued]).map RuntimeJob.jobId).Nodup
        rw [List.map_append, List.nodup_append]
        refine ⟨consistent.distinct, List.nodup_singleton _, ?_⟩
        rintro earlier member last own rfl
        rw [List.map_singleton, List.mem_singleton] at own
        exact newId (own ▸ member)
      · rw [list, ← List.append_assoc]
        show ((history.leased ++ history.waiting queueName ++ [queued]).map owner).Perm
          ((history.enqueued ++ [queued]).map owner)
        have longer : (history.enqueued ++ [queued]).map owner =
            history.enqueued.map owner ++ [queued].map owner := List.map_append
        rw [List.map_append, longer]
        exact consistent.complete.append_right _

/-- A dequeue leases the first waiting job that its filter accepts. -/
theorem Consistent.dequeue (tenantId : Option String) (now : UtcTime) :
    Consistent queueName (observe history (.dequeue tenantId queueName now)).2 ∧
      Moves queueName history (observe history (.dequeue tenantId queueName now)).2
        (.dequeue tenantId queueName now) := by
  obtain ⟨filed, waits⟩ := consistent.deque
  have size : (history.queue.deque queueName).length = (history.waiting queueName).length := by
    rw [filed, List.length_map]
  rw [observe_dequeue]
  by_cases rejects : ∀ job ∈ history.waiting queueName, ¬ Accepts tenantId job
  · have loop := dequeueLoop_none (history.waiting queueName) waits rejects
    rw [← filed, ← size] at loop
    rw [loop]
    have deque : (MemoryJobQueue.deque ⟨history.queue.jobs, history.queue.queues.set queueName
        (history.queue.deque queueName), history.queue.dead⟩ queueName) =
        (history.waiting queueName).map RuntimeJob.jobId := by
      rw [MemoryJobQueue.deque_set, if_pos rfl, filed]
    let next : QueueHistory := { history with queue := ⟨history.queue.jobs, history.queue.queues.set
      queueName (history.queue.deque queueName), history.queue.dead⟩ }
    have list : next.waiting queueName = history.waiting queueName := waiting_eq deque waits
    refine ⟨⟨⟨_, deque, waits⟩, consistent.known, consistent.distinct, ?_⟩,
      .same _ list rfl rfl fun _ _ _ own => ?_⟩
    · rw [list]
      exact consistent.complete
    · obtain ⟨rfl, _, _⟩ := QueueCall.dequeue.inj own
      exact rejects
  · push Not at rejects
    obtain ⟨before, job, after, split, skipped, accepted⟩ := exists_first (Accepts tenantId) rejects
    rw [split] at waits size
    have loop := dequeueLoop_first before after job waits skipped accepted
    rw [← size, ← split, ← filed] at loop
    rw [loop]
    let taken := lease job now
    have same : owner taken = owner job := rfl
    let next : QueueHistory := { history with
      queue := { history.queue with
        jobs := history.queue.jobs.set job.jobId taken
        queues := history.queue.queues.set queueName ((after ++ before).map RuntimeJob.jobId) }
      leased := history.leased ++ [taken] }
    have deque : next.queue.deque queueName = (after ++ before).map RuntimeJob.jobId := by
      show MemoryJobQueue.deque ⟨_, _, _⟩ queueName = _
      rw [MemoryJobQueue.deque_set, if_pos rfl]
    have ids := consistent.nodup
    rw [split, List.map_append, List.map_append, List.map_cons] at ids
    have apart := List.nodup_middle.mp (List.nodup_append.mp ids).2.1
    have stored : ∀ waiting ∈ after ++ before, MemoryJobQueue.Waits next.queue.jobs waiting := by
      intro waiting member
      have inside : waiting ∈ before ++ after := by
        rw [List.mem_append] at member ⊢
        exact member.symm
      have different : waiting.jobId ≠ job.jobId := by
        intro equal
        apply (List.nodup_cons.mp apart).1
        rw [← List.map_append, ← equal]
        exact List.mem_map_of_mem inside
      have listed : waiting ∈ before ++ job :: after := by
        rcases List.mem_append.mp inside with first | last
        · exact List.mem_append_left _ first
        · exact List.mem_append_right _ (.tail _ last)
      obtain ⟨present, status⟩ := waits waiting listed
      exact ⟨(Dict.get?_set_of_ne _ _ different).trans present, status⟩
    have list : next.waiting queueName = after ++ before := waiting_eq deque stored
    refine ⟨⟨⟨_, deque, stored⟩, ?_, consistent.distinct, ?_⟩,
      .leased tenantId queueName now before after job taken same split skipped accepted list rfl rfl⟩
    · intro jobId other present
      by_cases own : jobId = job.jobId
      · rw [own]
        exact consistent.known job.jobId job (waits job (List.mem_append_right _ (.head _))).1
      · exact consistent.known jobId other ((Dict.get?_set_of_ne _ _ own).symm.trans present)
    · rw [list]
      refine List.Perm.trans ?_ consistent.complete
      rw [split]
      show ((history.leased ++ [taken] ++ (after ++ before)).map owner).Perm _
      have moved : (job :: (after ++ before)).Perm (before ++ job :: after) :=
        (List.perm_append_comm.cons job).trans List.perm_middle.symm
      have shown : (history.leased ++ [taken] ++ (after ++ before)).map owner =
          (history.leased ++ job :: (after ++ before)).map owner := by
        simp only [List.map_append, List.map_cons, same, List.append_assoc, List.cons_append,
          List.nil_append]
      rw [shown]
      exact (moved.append_left history.leased).map owner

/-- A call of a queue that does not enqueue an id twice keeps the history consistent. -/
theorem Consistent.call {call : QueueCall} (onQueue : OnQueue queueName call)
    (fresh : ∀ jobId, enqueuedId call = some jobId → jobId ∉ history.enqueued.map RuntimeJob.jobId) :
    Consistent queueName (observe history call).2 ∧
      Moves queueName history (observe history call).2 call := by
  cases call with
  | enqueue job now => exact consistent.enqueue onQueue (fresh job.jobId rfl)
  | dequeue tenantId name now =>
      cases onQueue
      exact consistent.dequeue tenantId now
  | put job => exact absurd onQueue not_false
  | deadLetter job now => exact absurd onQueue not_false

end

/-- The leased jobs of each tenant and then its waiting ones are its enqueued ones in their order. -/
def Ordered (queueName : String) (history : QueueHistory) : Prop :=
  ∀ tenantId, ofTenant tenantId (history.leased ++ history.waiting queueName) =
    ofTenant tenantId history.enqueued

theorem ofTenant_append (first second : List RuntimeJob) :
    ofTenant tenantId (first ++ second) = ofTenant tenantId first ++ ofTenant tenantId second := by
  rw [ofTenant, List.map_append, List.filter_append]
  rfl

theorem ofTenant_congr {tenantId : String} {first second : List RuntimeJob}
    (same : first.map owner = second.map owner) : ofTenant tenantId first = ofTenant tenantId second := by
  rw [ofTenant, same]
  rfl

theorem ofTenant_nil_iff : ofTenant tenantId jobs = [] ↔ ∀ job ∈ jobs, job.tenantId ≠ tenantId := by
  rw [ofTenant, List.filter_eq_nil_iff, List.forall_mem_map]
  refine forall_congr' fun job => imp_congr_right fun _ => ?_
  rw [decide_eq_true_eq]
  rfl

/-- An ordered history has its leases in order. -/
theorem Ordered.inOrder (ordered : Ordered queueName history) : InOrder history := by
  intro tenantId
  rw [← ordered tenantId, ofTenant_append]
  exact List.prefix_append _ _

variable {next : QueueHistory}

/-- A dequeue without a filter takes the first waiting job. -/
theorem Moves.unfiltered {name : String} {now : UtcTime}
    (moves : Moves queueName history next (.dequeue none name now)) :
    (next.leased ++ next.waiting queueName).map owner =
        (history.leased ++ history.waiting queueName).map owner ∧
      next.enqueued = history.enqueued ∧ next.waiting queueName = (history.waiting queueName).tail := by
  cases moves with
  | same call waiting leased enqueued missed =>
      have empty : history.waiting queueName = [] := by
        apply List.eq_nil_iff_forall_not_mem.mpr
        exact fun job member => missed none name now rfl job member (.inl rfl)
      rw [waiting, leased, empty]
      exact ⟨rfl, enqueued, rfl⟩
  | leased tenantId name now before after job taken same split rejects accepted waiting leased enqueued =>
      have none : before = [] := by
        apply List.eq_nil_iff_forall_not_mem.mpr
        exact fun skipped member => rejects skipped member (.inl rfl)
      subst none
      rw [waiting, leased, split]
      refine ⟨?_, enqueued, List.append_nil after⟩
      simp only [List.map_append, List.map_cons, same, List.append_nil, List.append_assoc,
        List.cons_append, List.nil_append]

/-- A drained queue has leased its waiting jobs in their order. -/
theorem Consistent.drain (consistent : Consistent queueName history) (times : List UtcTime) :
    ((run observe history (drain queueName times)).leased ++
        (run observe history (drain queueName times)).waiting queueName).map owner =
        (history.leased ++ history.waiting queueName).map owner ∧
      (run observe history (drain queueName times)).enqueued = history.enqueued ∧
      (run observe history (drain queueName times)).waiting queueName =
        (history.waiting queueName).drop times.length := by
  induction times generalizing history with
  | nil => exact ⟨rfl, rfl, rfl⟩
  | cons now times ih =>
      obtain ⟨next, moves⟩ := consistent.dequeue none now
      obtain ⟨jobs, enqueued, waiting⟩ := moves.unfiltered
      obtain ⟨laterJobs, laterEnqueued, laterWaiting⟩ := ih next
      refine ⟨laterJobs.trans jobs, laterEnqueued.trans enqueued, ?_⟩
      rw [List.length_cons, Nat.add_comm, ← List.drop_drop, List.drop_one, ← waiting]
      exact laterWaiting

/-- The leases stay in order under every drain exactly when the history is ordered. -/
theorem Consistent.drainsInOrder_iff (consistent : Consistent queueName history) :
    DrainsInOrder queueName history ↔ Ordered queueName history := by
  constructor
  · intro drains tenantId
    let times := List.replicate (history.waiting queueName).length UtcTime.first
    obtain ⟨jobs, enqueued, waiting⟩ := consistent.drain times
    rw [List.length_replicate, List.drop_length] at waiting
    have order := drains times tenantId
    rw [waiting, List.append_nil] at jobs
    rw [enqueued, ofTenant_congr jobs] at order
    apply order.eq_of_length
    exact (consistent.complete.filter _).length_eq
  · intro ordered times
    obtain ⟨jobs, enqueued, _⟩ := consistent.drain times
    refine @Ordered.inOrder queueName _ ?_
    intro tenantId
    rw [ofTenant_congr jobs, enqueued]
    exact ordered tenantId

/-- A list has one split at the first item of a kind. -/
theorem first_unique {Item : Type*} (accepts : Item → Prop) {before other after later : List Item}
    {item first : Item} (same : before ++ item :: after = other ++ first :: later)
    (skipped : ∀ value ∈ before, ¬ accepts value) (accepted : accepts item)
    (missed : ∀ value ∈ other, ¬ accepts value) (taken : accepts first) :
    before = other ∧ after = later := by
  induction before generalizing other with
  | nil =>
      cases other with
      | nil => exact ⟨rfl, (List.cons.inj same).2⟩
      | cons head rest =>
          obtain ⟨rfl, _⟩ := List.cons.inj same
          exact absurd accepted (missed item (.head _))
  | cons head rest ih =>
      cases other with
      | nil =>
          obtain ⟨rfl, _⟩ := List.cons.inj same
          exact absurd taken (skipped head (.head _))
      | cons next others =>
          obtain ⟨rfl, tail⟩ := List.cons.inj same
          obtain ⟨first, last⟩ := ih tail
            (fun value member => skipped value (.tail _ member))
            (fun value member => missed value (.tail _ member))
          exact ⟨by rw [first], last⟩

/-- The rotation of a dequeue keeps the order of a tenant that has no jobs on both sides of it. -/
theorem rotation_iff {before after : List RuntimeJob} {job : RuntimeJob}
    (distinct : ((before ++ job :: after).map RuntimeJob.jobId).Nodup)
    (rejects : ∀ skipped ∈ before, skipped.tenantId ≠ job.tenantId) :
    (∀ tenantId, ofTenant tenantId (job :: (after ++ before)) =
      ofTenant tenantId (before ++ job :: after)) ↔
        ∀ skipped ∈ before, ∀ later ∈ after, skipped.tenantId ≠ later.tenantId := by
  have single (tenantId : String) : ofTenant tenantId [job] =
      if job.tenantId = tenantId then [owner job] else [] := by
    by_cases mine : job.tenantId = tenantId <;> simp [ofTenant, owner, mine]
  have front (tenantId : String) : ofTenant tenantId (job :: (after ++ before)) =
      ofTenant tenantId [job] ++ (ofTenant tenantId after ++ ofTenant tenantId before) := by
    rw [← ofTenant_append, ← ofTenant_append]
    rfl
  have back (tenantId : String) : ofTenant tenantId (before ++ job :: after) =
      ofTenant tenantId before ++ (ofTenant tenantId [job] ++ ofTenant tenantId after) := by
    rw [← ofTenant_append, ← ofTenant_append]
    rfl
  have apart (tenantId : String) : (ofTenant tenantId after ++ ofTenant tenantId before).Nodup := by
    rw [← ofTenant_append, ofTenant]
    apply List.Nodup.filter
    apply List.Nodup.of_map Prod.snd
    rw [List.map_map]
    have others := (List.nodup_cons.mp (List.nodup_middle.mp (by simpa using distinct))).2
    rw [← List.map_append] at others
    exact (List.perm_append_comm.map RuntimeJob.jobId).nodup_iff.mp others
  have own : ofTenant job.tenantId before = [] := (ofTenant_nil_iff _ _).mpr rejects
  constructor
  · intro same skipped first later last equal
    have moved := same skipped.tenantId
    rw [front, back, single, if_neg (rejects skipped first).symm, List.nil_append, List.nil_append,
      append_comm_iff_of_nodup (apart _), ofTenant_nil_iff, ofTenant_nil_iff] at moved
    rcases moved with none | none
    · exact none later last equal.symm
    · exact none skipped first rfl
  · intro apartTenants tenantId
    rw [front, back]
    by_cases mine : job.tenantId = tenantId
    · rw [← mine, own, List.append_nil, List.nil_append]
    · rw [single, if_neg mine, List.nil_append, List.nil_append,
        append_comm_iff_of_nodup (apart _), ofTenant_nil_iff, ofTenant_nil_iff]
      by_cases none : ∀ skipped ∈ before, skipped.tenantId ≠ tenantId
      · exact .inr none
      · push Not at none
        obtain ⟨skipped, first, rfl⟩ := none
        exact .inl fun later last => (apartTenants skipped first later last).symm

/-- A call keeps an ordered history ordered exactly when it meets the condition. -/
theorem Consistent.ordered_iff (consistent : Consistent queueName history)
    (ordered : Ordered queueName history) {call : QueueCall}
    (moves : Moves queueName history next call) :
    Ordered queueName next ↔ KeepsOrder queueName history call := by
  cases moves with
  | same call waiting leased enqueued missed =>
      refine iff_of_true ?_ ?_
      · intro tenantId
        rw [waiting, leased, enqueued]
        exact ordered tenantId
      · cases call with
        | dequeue filter name now =>
            cases filter with
            | none => trivial
            | some tenantId =>
                intro before job after split own _
                have member : job ∈ history.waiting queueName := by
                  rw [split]
                  exact List.mem_append_right _ (.head _)
                exact absurd (.inr (congrArg some own.symm)) (missed _ name now rfl job member)
        | _ => trivial
  | enqueued job queued now same waiting leased enqueued =>
      refine iff_of_true ?_ trivial
      intro tenantId
      rw [waiting, leased, enqueued, ← List.append_assoc, ofTenant_append, ordered tenantId,
        ← ofTenant_append]
  | leased filter name now before after job taken same split rejects accepted waiting leased enqueued =>
      have moved : Ordered queueName next ↔ ∀ tenantId, ofTenant tenantId (job :: (after ++ before)) =
          ofTenant tenantId (before ++ job :: after) := by
        apply forall_congr'
        intro tenantId
        have one : ofTenant tenantId ([taken] ++ (after ++ before)) =
            ofTenant tenantId (job :: (after ++ before)) := by
          apply ofTenant_congr
          simp only [List.map_append, List.map_cons, same, List.cons_append, List.nil_append]
        rw [waiting, leased, enqueued, ← ordered tenantId, split, List.append_assoc,
          ofTenant_append _ history.leased, ofTenant_append _ history.leased, one,
          List.append_cancel_left_eq]
      rw [moved]
      have distinct : ((before ++ job :: after).map RuntimeJob.jobId).Nodup := by
        have ids := consistent.nodup
        rw [split, List.map_append] at ids
        exact (List.nodup_append.mp ids).2.1
      cases filter with
      | none =>
          have none : before = [] := by
            apply List.eq_nil_iff_forall_not_mem.mpr
            exact fun skipped member => rejects skipped member (.inl rfl)
          subst none
          refine iff_of_true ?_ trivial
          intro tenantId
          rw [List.append_nil, List.nil_append]
      | some tenantId =>
          have own : job.tenantId = tenantId := by
            rcases accepted with missing | found
            · cases missing
            · exact (Option.some.inj found).symm
          have others (skipped : RuntimeJob) (member : skipped ∈ before) :
              skipped.tenantId ≠ tenantId := fun equal =>
            rejects skipped member (.inr (congrArg some equal.symm))
          rw [rotation_iff distinct (by rw [own]; exact others)]
          constructor
          · intro apart before' job' after' split' own' others'
            obtain ⟨rfl, rfl⟩ := first_unique (fun value : RuntimeJob => value.tenantId = tenantId)
              (split.symm.trans split') others own others' own'
            exact apart
          · exact fun keeps => keeps before job after split own others

theorem initial_consistent (queueName : String) : Consistent queueName initial where
  filed := ⟨[], rfl, fun _ member => absurd member List.not_mem_nil⟩
  known := fun _ _ present => by cases present
  distinct := List.nodup_nil
  complete := List.Perm.nil

/-- A call on one queue with an id that was not enqueued before. -/
def Fresh (queueName : String) (history : QueueHistory) (call : QueueCall) : Prop :=
  OnQueue queueName call ∧ ∀ jobId, enqueuedId call = some jobId →
    jobId ∉ history.enqueued.map RuntimeJob.jobId

/-- Calls with distinct ids enqueue no id twice. -/
theorem Consistent.guarded_fresh (consistent : Consistent queueName history) (calls : List QueueCall)
    (onQueue : ∀ call ∈ calls, OnQueue queueName call)
    (distinct : (calls.filterMap enqueuedId).Nodup)
    (new : ∀ jobId ∈ calls.filterMap enqueuedId, jobId ∉ history.enqueued.map RuntimeJob.jobId) :
    Guarded observe (Fresh queueName) history calls := by
  induction calls generalizing history with
  | nil => trivial
  | cons call rest ih =>
      have here := onQueue call (.head _)
      have fresh (jobId : String) (own : enqueuedId call = some jobId) :
          jobId ∉ history.enqueued.map RuntimeJob.jobId := by
        apply new
        rw [List.filterMap_cons, own]
        exact .head _
      obtain ⟨next, moves⟩ := consistent.call here fresh
      refine ⟨⟨here, fresh⟩, ih next (fun later member => onQueue later (.tail _ member))
        ?_ ?_⟩
      · cases own : enqueuedId call with
        | none => rwa [List.filterMap_cons_none own] at distinct
        | some jobId =>
            rw [List.filterMap_cons_some own] at distinct
            exact (List.nodup_cons.mp distinct).2
      · intro jobId member
        have old : jobId ∉ history.enqueued.map RuntimeJob.jobId := by
          apply new
          cases own : enqueuedId call with
          | none => rwa [List.filterMap_cons_none own]
          | some first =>
              rw [List.filterMap_cons_some own]
              exact .tail _ member
        cases moves with
        | same call waiting leased enqueued missed => rwa [enqueued]
        | leased filter name now before after job taken same split rejects accepted waiting leased
            enqueued => rwa [enqueued]
        | enqueued job queued now same waiting leased enqueued =>
            have id : queued.jobId = job.jobId := congrArg Prod.snd same
            rw [enqueued, List.map_append, List.mem_append, List.map_singleton, List.mem_singleton, id]
            rintro (earlier | rfl)
            · exact old earlier
            · have own : enqueuedId (.enqueue job now) = some job.jobId := rfl
              rw [List.filterMap_cons_some own] at distinct
              exact (List.nodup_cons.mp distinct).1 member

/-- After every part of a run on one queue with distinct ids the leases of each tenant are in the order
of its enqueues, however the queue is then drained, exactly when no dequeue for one tenant takes a job
between two jobs of another tenant. -/
theorem leases_inOrder_iff (queueName : String) (calls : List QueueCall)
    (onQueue : ∀ call ∈ calls, OnQueue queueName call)
    (distinct : (calls.filterMap enqueuedId).Nodup) :
    (∀ done rest, calls = done ++ rest → DrainsInOrder queueName (run observe initial done)) ↔
      Guarded observe (KeepsOrder queueName) initial calls := by
  have start := initial_consistent queueName
  have ordered : Ordered queueName initial := fun _ => rfl
  apply forall_parts_iff_guarded_of_guarded observe (Fresh queueName) (KeepsOrder queueName)
    (fun history _ => Consistent queueName history) (fun history _ => DrainsInOrder queueName history)
    _ initial [] calls start (start.drainsInOrder_iff.mpr ordered)
    (start.guarded_fresh calls onQueue distinct fun _ _ => List.not_mem_nil)
  rintro history past call consistent drains ⟨here, fresh⟩
  obtain ⟨next, moves⟩ := consistent.call here fresh
  refine ⟨next, ?_⟩
  rw [next.drainsInOrder_iff]
  exact consistent.ordered_iff (consistent.drainsInOrder_iff.mp drains) moves

/-- A job of a tenant on the default queue. -/
def jobOf (tenantId jobId : String) : RuntimeJob := { agentRun jobId with tenantId }

/-- A dequeue for another tenant makes the second job of a tenant leave before its first one. -/
theorem leases_not_inOrder :
    ¬ InOrder (run observe initial [
      .enqueue (jobOf "tenant-a" "job-1") .first, .enqueue (jobOf "tenant-b" "job-2") .first,
      .enqueue (jobOf "tenant-a" "job-3") .first, .dequeue (some "tenant-b") "default" .first,
      .dequeue none "default" .first, .dequeue none "default" .first]) := by
  intro order
  have leased := order "tenant-a"
  have second : ofTenant "tenant-a" (run observe initial [
      .enqueue (jobOf "tenant-a" "job-1") .first, .enqueue (jobOf "tenant-b" "job-2") .first,
      .enqueue (jobOf "tenant-a" "job-3") .first, .dequeue (some "tenant-b") "default" .first,
      .dequeue none "default" .first, .dequeue none "default" .first]).leased =
        [("tenant-a", "job-3"), ("tenant-a", "job-1")] := by rfl
  have enqueued : ofTenant "tenant-a" (run observe initial [
      .enqueue (jobOf "tenant-a" "job-1") .first, .enqueue (jobOf "tenant-b" "job-2") .first,
      .enqueue (jobOf "tenant-a" "job-3") .first, .dequeue (some "tenant-b") "default" .first,
      .dequeue none "default" .first, .dequeue none "default" .first]).enqueued =
        [("tenant-a", "job-1"), ("tenant-a", "job-3")] := by rfl
  rw [second, enqueued] at leased
  exact absurd leased (by decide)

/-- A job of one tenant, then two jobs of another. -/
def threeEnqueues : List QueueCall := [
  .enqueue (jobOf "tenant-a" "job-1") .first, .enqueue (jobOf "tenant-b" "job-2") .first,
  .enqueue (jobOf "tenant-b" "job-3") .first]

/-- A dequeue for the second tenant passes the first job, and two more empty the queue. -/
def passingRun : List QueueCall :=
  threeEnqueues ++ [.dequeue (some "tenant-b") "default" .first, .dequeue none "default" .first,
    .dequeue none "default" .first]

/-- A job as it waits in the deque. -/
def waitingJob (tenantId jobId : String) : RuntimeJob :=
  (jobOf tenantId jobId).withUpdate .first fun job => { job with status := .queued }

theorem passingRun_keepsOrder : Guarded observe (KeepsOrder "default") initial passingRun := by
  refine ⟨trivial, trivial, trivial, ?_, trivial, trivial, trivial⟩
  intro before job after split own others
  have waiting : (run observe initial threeEnqueues).waiting "default" =
      [waitingJob "tenant-a" "job-1"] ++ waitingJob "tenant-b" "job-2" ::
        [waitingJob "tenant-b" "job-3"] := rfl
  have first (skipped : RuntimeJob) (passed : skipped ∈ [waitingJob "tenant-a" "job-1"]) :
      skipped.tenantId ≠ "tenant-b" := by
    rw [List.mem_singleton.mp passed]
    show "tenant-a" ≠ "tenant-b"
    decide
  obtain ⟨rfl, rfl⟩ := first_unique (fun job : RuntimeJob => job.tenantId = "tenant-b")
    (split.symm.trans waiting) others own first rfl
  intro skipped passed later kept
  rw [List.mem_singleton.mp kept]
  exact first skipped passed

/-- A dequeue past a job of the other tenant keeps the order, however the run is cut. -/
theorem leases_inOrder_passing : Guarded observe (KeepsOrder "default") initial passingRun ∧
    ∀ done rest, passingRun = done ++ rest →
      DrainsInOrder "default" (run observe initial done) := by
  refine ⟨passingRun_keepsOrder,
    (leases_inOrder_iff "default" passingRun ?_ ?_).mpr passingRun_keepsOrder⟩
  · intro call member
    simp only [passingRun, threeEnqueues, List.cons_append, List.nil_append, List.mem_cons,
      List.not_mem_nil, or_false] at member
    rcases member with rfl | rfl | rfl | rfl | rfl | rfl
    all_goals rfl
  · decide

end QueueHistory

end AgentFabric.Cloud
