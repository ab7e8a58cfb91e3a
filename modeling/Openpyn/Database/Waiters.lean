import Openpyn.Database.Connections

/-!
# Who waits for a connection

A waiter is stuck if nothing in the pool could be given to it. In an open pool every
waiter in the queue is stuck, unless a connection has leaked and nobody has looked yet: no
wake-up is lost. A request goes into the queue behind those that are as important, waiters do not
change places, and nobody is overtaken by a request that takes what it could have used.
-/

namespace Openpyn.Database

open Foundation Java

/-! ## Stuck waiters -/

/-- The primary connection is acquired. -/
def PrimaryBlocked (pool : SQLiteConnectionPool) : Prop :=
  pool.mAvailablePrimaryConnection = none ∧
    ∃ entry ∈ pool.mAcquiredConnections, entry.1.mIsPrimaryConnection = true

/-- No other connection is free and the pool is full. -/
def NonPrimaryBlocked (pool : SQLiteConnectionPool) : Prop :=
  pool.mAvailableNonPrimaryConnections = [] ∧ pool.mMaxConnectionPoolSize ≤
    pool.mAcquiredConnections.length + pool.mAvailablePrimaryConnection.toList.length

def Stuck (pool : SQLiteConnectionPool) (waiter : ConnectionWaiter) : Prop :=
  PrimaryBlocked pool ∧ (waiter.mWantPrimaryConnection = true ∨ NonPrimaryBlocked pool)

/-- A connection or an exception has come. -/
def IsAnswered (waiter : ConnectionWaiter) : Prop :=
  waiter.mAssignedConnection.isSome ∨ waiter.mException.isSome

/-- The first waiter is more important than the second one, or it came in an earlier
millisecond. -/
def Precedes (first second : ConnectionWaiter) : Prop :=
  second.mPriority < first.mPriority ∨
    second.mPriority = first.mPriority ∧ first.mStartTime < second.mStartTime

/-- The first waiter is ahead of the second one in a queue, in which no thread is twice. -/
def Ahead (queue : List ConnectionWaiter) (first second : ConnectionWaiter) : Prop :=
  [first.mThread, second.mThread].Sublist (queue.map (·.mThread))

/-- What may become of a queue: waiters leave it, or one comes and goes behind those that are as
important and ahead of the others. -/
def KeepsOrder (queue after : List ConnectionWaiter) : Prop :=
  after.Sublist queue ∨ ∃ ahead waiter behind, queue = ahead ++ behind ∧
    after = ahead ++ waiter :: behind ∧ (∀ other ∈ ahead, waiter.mPriority ≤ other.mPriority) ∧
    ∀ other ∈ behind, other.mPriority < waiter.mPriority

section Blocked

variable {pool : SQLiteConnectionPool} {around : Surroundings}

open SQLiteConnectionPool

theorem givesNone_acquireOpened (primaryConnection : Bool) (connectionFlags : BitVec 32) :
    givesNone (pool.acquireOpened around primaryConnection connectionFlags).2 = false := by
  simp only [acquireOpened, SQLiteConnectionPool.openConnectionLocked]
  cases around.opens pool.mNextConnectionId <;> rfl

theorem primaryBlocked_of_givesNone {connectionFlags : BitVec 32}
    (nothing : givesNone (pool.tryAcquirePrimaryConnectionLocked around connectionFlags).2 =
      true) : PrimaryBlocked pool := by
  unfold tryAcquirePrimaryConnectionLocked at nothing
  split at nothing
  case h_1 => cases nothing
  case h_2 missing =>
    split at nothing
    case isTrue acquired =>
      obtain ⟨entry, member, isPrimary⟩ := List.any_eq_true.mp acquired
      exact ⟨missing, entry, member, isPrimary⟩
    case isFalse =>
      rw [givesNone_acquireOpened] at nothing
      cases nothing

theorem nonPrimaryBlocked_of_givesNone {sql : Option JString} {connectionFlags : BitVec 32}
    (nothing : givesNone (pool.tryAcquireNonPrimaryConnectionLocked around sql
      connectionFlags).2 = true) : NonPrimaryBlocked pool := by
  simp only [tryAcquireNonPrimaryConnectionLocked] at nothing
  split at nothing
  case h_1 => cases nothing
  case h_2 missing =>
    split at nothing
    case isTrue full => exact ⟨getElem?_preferredIndex around missing, full⟩
    case isFalse =>
      rw [givesNone_acquireOpened] at nothing
      cases nothing

theorem PrimaryBlocked.outcome {result : SQLiteConnectionPool × PoolAnswer}
    (blocked : PrimaryBlocked pool) (outcome : Outcome pool result) :
    PrimaryBlocked result.1 := by
  obtain ⟨missing, entry, member, isPrimary⟩ := blocked
  cases outcome with
  | nothing => exact ⟨missing, entry, member, isPrimary⟩
  | failed => exact ⟨missing, entry, member, isPrimary⟩
  | primary connection connectionFlags present => cases missing.symm.trans present
  | nonPrimary index connection connectionFlags present =>
      exact ⟨missing, entry, List.mem_append_left _ member, isPrimary⟩
  | opened primaryConnection connectionFlags alone room =>
      exact ⟨missing, entry, List.mem_append_left _ member, isPrimary⟩

/-- A full pool stays full, and gives its primary connection only. -/
theorem NonPrimaryBlocked.outcome {result : SQLiteConnectionPool × PoolAnswer}
    (blocked : NonPrimaryBlocked pool) (outcome : Outcome pool result) :
    NonPrimaryBlocked result.1 := by
  obtain ⟨empty, full⟩ := blocked
  cases outcome with
  | nothing => exact ⟨empty, full⟩
  | failed => exact ⟨empty, full⟩
  | primary connection connectionFlags present =>
      refine ⟨empty, ?_⟩
      simp only [finishAcquireConnectionLocked, List.length_append, present,
        Option.toList_some, Option.toList_none, List.length_singleton, List.length_nil] at full ⊢
      omega
  | nonPrimary index connection connectionFlags present =>
      rw [empty, List.getElem?_nil] at present
      cases present
  | opened primaryConnection connectionFlags alone room =>
      refine ⟨empty, ?_⟩
      simp only [finishAcquireConnectionLocked, List.length_append, List.length_singleton]
      omega

theorem Stuck.outcome {waiter : ConnectionWaiter} {result : SQLiteConnectionPool × PoolAnswer}
    (stuck : Stuck pool waiter) (outcome : Outcome pool result) : Stuck result.1 waiter :=
  ⟨stuck.1.outcome outcome, stuck.2.imp_right (·.outcome outcome)⟩

/-- The primary connection is not among the others. -/
def OthersApart (pool : SQLiteConnectionPool) : Prop :=
  ∀ connection ∈ pool.mAvailableNonPrimaryConnections, connection.mIsPrimaryConnection = false

theorem OthersApart.outcome {result : SQLiteConnectionPool × PoolAnswer}
    (apart : OthersApart pool) (outcome : Outcome pool result) : OthersApart result.1 := by
  cases outcome with
  | nothing | failed | primary | opened => exact apart
  | nonPrimary =>
      exact fun connection member => apart connection (List.mem_of_mem_eraseIdx member)

/-- While a waiter is stuck, what others are given is of no use to it. -/
theorem Stuck.given {waiter : ConnectionWaiter} {result : SQLiteConnectionPool × PoolAnswer}
    {connection : SQLiteConnection} (stuck : Stuck pool waiter) (apart : OthersApart pool)
    (outcome : Outcome pool result) (gives : result.2 = .ok (some connection)) :
    waiter.mWantPrimaryConnection = true ∧ connection.mIsPrimaryConnection = false := by
  obtain ⟨⟨missing, entry, member, isPrimary⟩, wants⟩ := stuck
  cases outcome with
  | nothing => cases gives
  | failed => cases gives
  | primary connection connectionFlags present => cases missing.symm.trans present
  | nonPrimary index free connectionFlags present =>
      obtain ⟨bound, rfl⟩ := List.getElem?_eq_some_iff.mp present
      have isOther := apart _ (List.getElem_mem bound)
      rw [← Option.some.inj (Except.ok.inj gives)]
      refine ⟨wants.resolve_right fun blocked => ?_, isOther⟩
      rw [blocked.1] at bound
      exact Nat.not_lt_zero _ bound
  | opened primaryConnection connectionFlags alone room =>
      rw [← Option.some.inj (Except.ok.inj gives)]
      cases primaryConnection with
      | false =>
          exact ⟨wants.resolve_right fun blocked =>
            Nat.not_lt.mpr blocked.2 (room rfl).2, rfl⟩
      | true => cases ((alone rfl).2 entry member).symm.trans isPrimary

end Blocked

/-! ## A walk through the queue -/

/-- What a walk takes to be gone is gone. -/
def Walk.Knows (walk : Walk) : Prop :=
  (walk.primaryConnectionNotAvailable = true → PrimaryBlocked walk.pool) ∧
    (walk.nonPrimaryConnectionNotAvailable = true → NonPrimaryBlocked walk.pool)

theorem Walk.knows_start (pool : SQLiteConnectionPool) : Walk.Knows ⟨pool, false, false⟩ :=
  ⟨fun noted => absurd noted Bool.false_ne_true, fun noted => absurd noted Bool.false_ne_true⟩

section Walking

variable {walk : Walk} {around : Surroundings}

theorem knows_attemptNonPrimary (around : Surroundings) (knows : walk.Knows)
    (wantPrimaryConnection : Bool) (sql : Option JString) (connectionFlags : BitVec 32) :
    let result := walk.attemptNonPrimary around wantPrimaryConnection sql connectionFlags
    result.1.Knows ∧ (givesNone result.2 = true →
      wantPrimaryConnection = true ∨ NonPrimaryBlocked result.1.pool) := by
  simp only [Walk.attemptNonPrimary]
  split
  case isTrue =>
    have outcome := outcome_tryAcquireNonPrimary walk.pool around connectionFlags sql
    have gone : givesNone (walk.pool.tryAcquireNonPrimaryConnectionLocked around sql
        connectionFlags).2 = true → NonPrimaryBlocked
          (walk.pool.tryAcquireNonPrimaryConnectionLocked around sql connectionFlags).1 := by
      intro nothing
      rw [outcome.eq_of_givesNone nothing]
      exact nonPrimaryBlocked_of_givesNone nothing
    exact ⟨⟨fun known => (knows.1 known).outcome outcome, gone⟩, fun nothing =>
      .inr (gone nothing)⟩
  case isFalse skipped =>
    refine ⟨knows, fun _ => ?_⟩
    cases wantPrimaryConnection with
    | true => exact .inl rfl
    | false => exact .inr (knows.2 (by simpa using skipped))

theorem knows_attemptPrimary (around : Surroundings) (knows : walk.Knows)
    (connectionFlags : BitVec 32) :
    let result := walk.attemptPrimary around connectionFlags
    result.1.Knows ∧ (givesNone result.2 = true → PrimaryBlocked result.1.pool) ∧
      (NonPrimaryBlocked walk.pool → NonPrimaryBlocked result.1.pool) := by
  simp only [Walk.attemptPrimary]
  split
  case isTrue =>
    have outcome := outcome_tryAcquirePrimary walk.pool around connectionFlags
    have gone : givesNone (walk.pool.tryAcquirePrimaryConnectionLocked around
        connectionFlags).2 = true → PrimaryBlocked (walk.pool.tryAcquirePrimaryConnectionLocked
          around connectionFlags).1 := by
      intro nothing
      rw [outcome.eq_of_givesNone nothing]
      exact primaryBlocked_of_givesNone nothing
    exact ⟨⟨gone, fun known => (knows.2 known).outcome outcome⟩, gone, (·.outcome outcome)⟩
  case isFalse skipped => exact ⟨knows, fun _ => knows.1 (by simpa using skipped), id⟩

theorem knows_attempt (walk : Walk) (around : Surroundings) (knows : walk.Knows)
    (waiter : ConnectionWaiter) :
    let result := walk.attempt around waiter.mWantPrimaryConnection waiter.mSql
      waiter.mConnectionFlags
    result.1.Knows ∧ (givesNone result.2 = true → Stuck result.1.pool waiter) := by
  obtain ⟨first, wants⟩ := knows_attemptNonPrimary around knows
    waiter.mWantPrimaryConnection waiter.mSql waiter.mConnectionFlags
  simp only [Walk.attempt]
  split
  case isTrue nothing =>
    obtain ⟨second, blocked, still⟩ := knows_attemptPrimary around first
      waiter.mConnectionFlags
    exact ⟨second, fun none => ⟨blocked none, (wants nothing).imp_right still⟩⟩
  case isFalse something => exact ⟨first, fun nothing => absurd nothing something⟩

theorem Stuck.wakeLoop {waiter : ConnectionWaiter} (stuck : Stuck walk.pool waiter)
    (queue : List ConnectionWaiter) :
    Stuck (Walk.wakeLoop around walk queue).pool waiter :=
  wakeLoop_invariant (Stuck · waiter) (fun _ _ stuck outcome => stuck.outcome outcome) around
    walk stuck queue

/-- Who stays in the queue is stuck. -/
theorem wakeLoop_stuck (walk : Walk) (knows : walk.Knows) (queue : List ConnectionWaiter) :
    ∀ waiter ∈ (Walk.wakeLoop around walk queue).staying,
      Stuck (Walk.wakeLoop around walk queue).pool waiter := by
  induction queue generalizing walk with
  | nil => exact fun _ member => absurd member List.not_mem_nil
  | cons first successor inductionHypothesis =>
      obtain ⟨next, stuck⟩ := knows_attempt walk around knows first
      unfold Walk.wakeLoop
      simp only at next stuck ⊢
      generalize walk.attempt around first.mWantPrimaryConnection first.mSql
        first.mConnectionFlags = result at next stuck ⊢
      split
      · exact inductionHypothesis walk knows
      · match result with
        | (after, .error _) => exact inductionHypothesis after next
        | (after, .ok (some _)) => exact inductionHypothesis after next
        | (after, .ok none) =>
            simp only
            split
            case isTrue both =>
              rw [Bool.and_eq_true] at both
              exact fun waiter _ => ⟨next.1 both.2, .inr (next.2 both.1)⟩
            case isFalse =>
              rintro waiter (_ | ⟨_, later⟩)
              · exact (stuck rfl).wakeLoop successor
              · exact inductionHypothesis after next waiter later

/-- Who leaves the queue of an open pool has an answer. -/
theorem wakeLoop_answered (isOpen : walk.pool.mIsOpen = true) (queue : List ConnectionWaiter) :
    ∀ waiter ∈ (Walk.wakeLoop around walk queue).leaving, IsAnswered waiter := by
  induction queue generalizing walk with
  | nil => exact fun _ member => absurd member List.not_mem_nil
  | cons first successor inductionHypothesis =>
      have same := (outcome_attempt around first.mConnectionFlags walk
        first.mWantPrimaryConnection first.mSql).sameQueue
      have stillOpen := same.mIsOpen.trans isOpen
      unfold Walk.wakeLoop
      simp only at stillOpen ⊢
      generalize walk.attempt around first.mWantPrimaryConnection first.mSql
        first.mConnectionFlags = result at stillOpen ⊢
      split
      case isTrue shut => simp [isOpen] at shut
      case isFalse =>
        match result with
        | (_, .error _) =>
            rintro waiter (_ | ⟨_, later⟩)
            · exact .inr rfl
            · exact inductionHypothesis stillOpen waiter later
        | (_, .ok (some _)) =>
            rintro waiter (_ | ⟨_, later⟩)
            · exact .inl rfl
            · exact inductionHypothesis stillOpen waiter later
        | (_, .ok none) =>
            simp only
            split
            · exact fun _ member => absurd member List.not_mem_nil
            · exact inductionHypothesis stillOpen

/-- A walk loses no thread. -/
theorem wakeLoop_threads (walk : Walk) (around : Surroundings) (queue : List ConnectionWaiter) :
    let sorted := Walk.wakeLoop around walk queue
    ((sorted.staying ++ sorted.leaving).map (·.mThread)).Perm (queue.map (·.mThread)) := by
  induction queue generalizing walk with
  | nil => exact List.Perm.refl []
  | cons first successor inductionHypothesis =>
      have leave : ∀ (sorted : Walk.Sorted) (answered : ConnectionWaiter),
          answered.mThread = first.mThread →
          ((sorted.staying ++ sorted.leaving).map (·.mThread)).Perm
            (successor.map (·.mThread)) →
          (((sorted.leave answered).staying ++ (sorted.leave answered).leaving).map
            (·.mThread)).Perm ((first :: successor).map (·.mThread)) := by
        intro sorted answered same permuted
        have moved := (@List.perm_middle _ answered sorted.staying sorted.leaving).map
          (·.mThread)
        rw [List.map_cons, same] at moved
        exact moved.trans (permuted.cons first.mThread)
      unfold Walk.wakeLoop
      simp only
      split
      · exact leave _ first rfl (inductionHypothesis walk)
      · split
        · exact leave _ _ rfl (inductionHypothesis _)
        · exact leave _ _ rfl (inductionHypothesis _)
        · split
          · rw [List.append_nil]
          · exact (inductionHypothesis _).cons first.mThread

/-- While a waiter is stuck, a walk through the rest of the queue gives others only what is of no
use to it. -/
theorem Stuck.wakeLoop_given {waiter : ConnectionWaiter} (stuck : Stuck walk.pool waiter)
    (apart : OthersApart walk.pool) {queue : List ConnectionWaiter}
    (unassigned : Unassigned queue) :
    ∀ served ∈ (Walk.wakeLoop around walk queue).leaving,
      ∀ connection ∈ served.mAssignedConnection,
        waiter.mWantPrimaryConnection = true ∧ connection.mIsPrimaryConnection = false := by
  induction queue generalizing walk with
  | nil => exact fun _ member => absurd member List.not_mem_nil
  | cons first successor inductionHypothesis =>
      have nothing := unassigned first List.mem_cons_self
      have later : Unassigned successor :=
        fun other member => unassigned other (List.mem_cons_of_mem _ member)
      have outcome := outcome_attempt around first.mConnectionFlags walk
        first.mWantPrimaryConnection first.mSql
      unfold Walk.wakeLoop
      simp only at outcome ⊢
      generalize walk.attempt around first.mWantPrimaryConnection first.mSql
        first.mConnectionFlags = result at outcome ⊢
      have next := stuck.outcome outcome
      have nextApart := apart.outcome outcome
      split
      · rintro served (_ | ⟨_, behind⟩) connection assigned
        · cases nothing.symm.trans assigned
        · exact inductionHypothesis stuck apart later served behind connection assigned
      · match result with
        | (after, .error _) =>
            rintro served (_ | ⟨_, behind⟩) connection assigned
            · cases nothing.symm.trans assigned
            · exact inductionHypothesis next nextApart later served behind connection assigned
        | (after, .ok (some given)) =>
            rintro served (_ | ⟨_, behind⟩) connection assigned
            · obtain rfl : given = connection := Option.mem_some_iff.mp assigned
              exact stuck.given apart outcome rfl
            · exact inductionHypothesis next nextApart later served behind connection assigned
        | (after, .ok none) =>
            simp only
            split
            · exact fun served behind => absurd behind List.not_mem_nil
            · exact inductionHypothesis next nextApart later

theorem Ahead.tail {first waiter served : ConnectionWaiter} {queue : List ConnectionWaiter}
    (elsewhere : first.mThread ≠ waiter.mThread) (ahead : Ahead (first :: queue) waiter served) :
    Ahead queue waiter served := by
  rcases List.sublist_cons_iff.mp ahead with rest | ⟨_, same, -⟩
  · exact rest
  · exact absurd (List.cons.inj same).1.symm elsewhere

/-- Two waiters stay one ahead of the other when a third one leaves. -/
theorem Ahead.eraseP {queue : List ConnectionWaiter} {waiter served : ConnectionWaiter}
    {thread : Nat} (ahead : Ahead queue waiter served) (distinct : (queue.map (·.mThread)).Nodup)
    (waits : waiter.mThread ∈ (queue.eraseP (·.mThread = thread)).map (·.mThread))
    (left : served.mThread ∈ (queue.eraseP (·.mThread = thread)).map (·.mThread)) :
    Ahead (queue.eraseP (·.mThread = thread)) waiter served := by
  have threads : (queue.eraseP (·.mThread = thread)).map (·.mThread) =
      (queue.map (·.mThread)).erase thread := by
    rw [List.erase_eq_eraseP', List.eraseP_map]
    rfl
  rw [threads, distinct.mem_erase_iff] at waits left
  have kept : [waiter.mThread, served.mThread].erase thread = [waiter.mThread, served.mThread] := by
    refine List.erase_of_not_mem fun member => ?_
    rcases List.mem_pair.mp member with same | same
    · exact waits.1 same.symm
    · exact left.1 same.symm
  rw [Ahead, threads, ← kept]
  exact List.Sublist.erase thread ahead

/-- Who stays is overtaken only by those who are given what it could not use. -/
theorem wakeLoop_overtaken (walk : Walk) (knows : walk.Knows) (apart : OthersApart walk.pool)
    {queue : List ConnectionWaiter} (unassigned : Unassigned queue)
    (distinct : (queue.map (·.mThread)).Nodup) :
    ∀ waiter ∈ (Walk.wakeLoop around walk queue).staying,
      ∀ served ∈ (Walk.wakeLoop around walk queue).leaving, Ahead queue waiter served →
        ∀ connection ∈ served.mAssignedConnection,
          waiter.mWantPrimaryConnection = true ∧ connection.mIsPrimaryConnection = false := by
  induction queue generalizing walk with
  | nil => exact fun _ member => absurd member List.not_mem_nil
  | cons first successor inductionHypothesis =>
      obtain ⟨firstOnce, restDistinct⟩ : first.mThread ∉ successor.map (·.mThread) ∧
          (successor.map (·.mThread)).Nodup := List.nodup_cons.mp distinct
      have later : Unassigned successor :=
        fun other member => unassigned other (List.mem_cons_of_mem _ member)
      obtain ⟨next, stuck⟩ := knows_attempt walk around knows first
      have outcome := outcome_attempt around first.mConnectionFlags walk
        first.mWantPrimaryConnection first.mSql
      -- Those that stay of the rest are other threads, and the first one is not behind them.
      have tail : ∀ {after : Walk} {waiter served : ConnectionWaiter},
          waiter ∈ (Walk.wakeLoop around after successor).staying →
          Ahead (first :: successor) waiter served → Ahead successor waiter served := by
        intro after waiter served stays
        refine Ahead.tail fun same => firstOnce ?_
        rw [same]
        exact List.mem_map_of_mem ((wakeLoop_staying around after successor).subset stays)
      have notBehind : ∀ {after : Walk} {waiter served : ConnectionWaiter},
          waiter ∈ (Walk.wakeLoop around after successor).staying →
          served.mThread = first.mThread → ¬ Ahead (first :: successor) waiter served := by
        intro after waiter served stays same before
        refine firstOnce ?_
        rw [← same]
        exact (tail stays before).subset (List.mem_cons_of_mem _ List.mem_cons_self)
      unfold Walk.wakeLoop
      simp only at next stuck outcome ⊢
      generalize walk.attempt around first.mWantPrimaryConnection first.mSql
        first.mConnectionFlags = result at next stuck outcome ⊢
      have nextApart := apart.outcome outcome
      split
      · rintro waiter stays served (_ | ⟨_, behind⟩) before
        · exact absurd before (notBehind stays rfl)
        · exact inductionHypothesis walk knows apart later restDistinct waiter stays served behind
            (tail stays before)
      · match result with
        | (after, .error _) =>
            rintro waiter stays served (_ | ⟨_, behind⟩) before
            · exact absurd before (notBehind stays rfl)
            · exact inductionHypothesis after next nextApart later restDistinct waiter stays served
                behind (tail stays before)
        | (after, .ok (some _)) =>
            rintro waiter stays served (_ | ⟨_, behind⟩) before
            · exact absurd before (notBehind stays rfl)
            · exact inductionHypothesis after next nextApart later restDistinct waiter stays served
                behind (tail stays before)
        | (after, .ok none) =>
            simp only
            split
            · exact fun waiter _ served behind => absurd behind List.not_mem_nil
            · rintro waiter (_ | ⟨_, stays⟩) served behind before
              · exact (stuck rfl).wakeLoop_given nextApart later served behind
              · exact inductionHypothesis after next nextApart later restDistinct waiter stays
                  served behind (tail stays before)

end Walking

/-! ## What the methods do to the waiters -/

namespace SQLiteConnectionPool

/-- How many requests of a thread the pool keeps. -/
def waitersOf (pool : SQLiteConnectionPool) (thread : Nat) : Nat :=
  ((pool.mConnectionWaiterQueue ++ pool.unparked).map (·.mThread)).count thread

end SQLiteConnectionPool

/-- No waiter is added, and in an open pool the queue is left with an answer. -/
structure Served (pool after : SQLiteConnectionPool) : Prop where
  stillOpen : after.mIsOpen = true → pool.mIsOpen = true
  unleaked : after.mConnectionLeaked = false → pool.mConnectionLeaked = false
  queue : after.mConnectionWaiterQueue.Sublist pool.mConnectionWaiterQueue
  threads : ∀ thread, after.waitersOf thread ≤ pool.waitersOf thread
  answered : after.mIsOpen = true →
    ∀ waiter ∈ after.unparked, waiter ∈ pool.unparked ∨ IsAnswered waiter

/-- A waiter that leaves the queue is given only what those that stay ahead of it cannot use. -/
def Fair (pool after : SQLiteConnectionPool) : Prop :=
  ∀ waiter ∈ after.mConnectionWaiterQueue, ∀ served ∈ after.unparked, served ∉ pool.unparked →
    Ahead pool.mConnectionWaiterQueue waiter served →
      ∀ connection ∈ served.mAssignedConnection,
        waiter.mWantPrimaryConnection = true ∧ connection.mIsPrimaryConnection = false

def AllStuck (pool : SQLiteConnectionPool) : Prop :=
  ∀ waiter ∈ pool.mConnectionWaiterQueue, Stuck pool waiter

section Methods

variable {pool before after : SQLiteConnectionPool}

open SQLiteConnectionPool

theorem Served.rfl : Served pool pool :=
  ⟨id, id, List.Sublist.refl _, fun _ => Nat.le_refl _, fun _ _ member => .inl member⟩

theorem Served.trans (first : Served pool before) (second : Served before after) :
    Served pool after where
  stillOpen isOpen := first.stillOpen (second.stillOpen isOpen)
  unleaked unleaked := first.unleaked (second.unleaked unleaked)
  queue := second.queue.trans first.queue
  threads thread := Nat.le_trans (second.threads thread) (first.threads thread)
  answered isOpen waiter member := by
    rcases second.answered isOpen waiter member with earlier | answered
    · exact first.answered (second.stillOpen isOpen) waiter earlier
    · exact .inr answered

theorem served_wake (pool : SQLiteConnectionPool) (around : Surroundings) :
    Served pool (pool.wakeConnectionWaitersLocked around) := by
  have same := SameQueue.wakeLoop around ⟨pool, false, false⟩ pool.mConnectionWaiterQueue
  refine ⟨fun isOpen => same.mIsOpen ▸ isOpen, fun unleaked => same.mConnectionLeaked ▸ unleaked,
    wakeLoop_staying around _ _, fun thread => ?_, fun isOpen waiter member => ?_⟩
  · have counted := (wakeLoop_threads ⟨pool, false, false⟩ around
      pool.mConnectionWaiterQueue).count_eq thread
    simp only [List.map_append, List.count_append] at counted
    simp only [waitersOf, wakeConnectionWaitersLocked, List.map_append, List.count_append]
    omega
  · rcases List.mem_append.mp member with earlier | now
    · exact .inl earlier
    · exact .inr (wakeLoop_answered (same.mIsOpen ▸ isOpen) _ waiter now)

/-- Waiters are woken after the connections of the pool were changed. -/
theorem served_wakeSame (around : Surroundings) (same : SameWaiters pool before) :
    Served pool (before.wakeConnectionWaitersLocked around) := by
  refine Served.trans ⟨fun isOpen => same.mIsOpen ▸ isOpen,
    fun unleaked => same.mConnectionLeaked ▸ unleaked, ?_, fun thread => ?_,
    fun _ _ member => .inl (same.unparked ▸ member)⟩ (served_wake before around)
  · rw [same.mConnectionWaiterQueue]
  · rw [waitersOf, waitersOf, same.mConnectionWaiterQueue, same.unparked]

theorem served_forget (pool : SQLiteConnectionPool) (thread : Nat) :
    Served pool (pool.forget thread) := by
  refine ⟨id, id, List.eraseP_sublist, fun other => ?_, fun _ waiter member =>
    .inl (List.mem_of_mem_eraseP member)⟩
  have queue := (List.eraseP_sublist (p := (·.mThread = thread))
    (l := pool.mConnectionWaiterQueue)).map (·.mThread)
  have unparked := (List.eraseP_sublist (p := (·.mThread = thread))
    (l := pool.unparked)).map (·.mThread)
  simp only [waitersOf, SQLiteConnectionPool.forget, List.map_append]
  exact (queue.append unparked).count_le other

theorem served_checkWaiter (pool : SQLiteConnectionPool) (thread : Nat) :
    Served pool (pool.checkWaiter thread).1 := by
  have forgotten := served_forget pool thread
  simp only [SQLiteConnectionPool.checkWaiter]
  split
  · exact forgotten
  split
  · exact Served.rfl
  split
  · exact forgotten
  · exact forgotten
  · exact Served.rfl

theorem served_cancelWaiter (pool : SQLiteConnectionPool) (around : Surroundings)
    (thread : Nat) : Served pool (pool.cancelConnectionWaiter around thread).1 := by
  simp only [SQLiteConnectionPool.cancelConnectionWaiter]
  split
  · split <;> exact Served.rfl
  · split
    case h_1 => exact Served.rfl
    case h_2 waiter found =>
      refine Served.trans ?_ (served_wake _ around)
      refine ⟨id, id, ?_, fun other => ?_, fun _ other member => ?_⟩
      · exact List.eraseP_sublist
      · have counted := ((perm_eraseP found).map (·.mThread)).count_eq other
        simp only [List.map_cons, List.count_cons] at counted
        simp only [waitersOf, List.map_append, List.map_cons, List.map_nil, List.count_append,
          List.count_cons, List.count_nil]
        omega
      · rcases List.mem_append.mp member with earlier | now
        · exact .inl earlier
        · rw [List.mem_singleton.mp now]
          exact .inr (.inr rfl)

theorem served_releaseConnection {connectionId : Nat}
    {entry : SQLiteConnection × AcquiredConnectionStatus}
    (found : pool.acquiredEntry connectionId = some entry) (around : Surroundings) :
    Served pool (pool.releaseConnection around connectionId).1 := by
  obtain ⟨connection, status⟩ := entry
  have released := released_releaseConnection around found
  generalize (pool.releaseConnection around connectionId).1 = after at released ⊢
  cases released with
  | unnoticed =>
      exact ⟨id, id, List.Sublist.refl pool.mConnectionWaiterQueue, fun _ => Nat.le_refl _,
        fun _ _ member => .inl member⟩
  | closed => exact served_wakeSame around ⟨rfl, rfl, rfl, rfl⟩
  | primary => exact served_wakeSame around ⟨rfl, rfl, rfl, rfl⟩
  | other => exact served_wakeSame around ⟨rfl, rfl, rfl, rfl⟩

theorem served_reconfigure (pool : SQLiteConnectionPool) (around : Surroundings)
    (configuration : SQLiteDatabaseConfiguration) :
    Served pool (pool.reconfigure around configuration).1 := by
  have reconfigured := reconfigured_reconfigure pool around configuration
  generalize (pool.reconfigure around configuration).1 = after at reconfigured ⊢
  cases reconfigured with
  | refused => exact Served.rfl
  | failed =>
      exact ⟨id, id, List.Sublist.refl pool.mConnectionWaiterQueue, fun _ => Nat.le_refl _,
        fun _ _ member => .inl member⟩
  | failedEmpty =>
      exact ⟨id, id, List.Sublist.refl pool.mConnectionWaiterQueue, fun _ => Nat.le_refl _,
        fun _ _ member => .inl member⟩
  | done _ before same _ => exact served_wakeSame around same

theorem served_close (pool : SQLiteConnectionPool) (around : Surroundings) :
    Served pool (pool.close around).1 := by
  simp only [SQLiteConnectionPool.close]
  split
  case isTrue => exact Served.rfl
  case isFalse =>
    have shut : Served pool { pool with mIsOpen := false } :=
      ⟨fun isOpen => absurd isOpen Bool.false_ne_true, id,
        List.Sublist.refl pool.mConnectionWaiterQueue, fun _ => Nat.le_refl _,
        fun _ _ member => .inl member⟩
    exact shut.trans (served_wakeSame around (sameWaiters_closeAvailable _))

/-! ### Nobody waits for what is free -/

theorem AllStuck.wake (pool : SQLiteConnectionPool) (around : Surroundings) :
    AllStuck (pool.wakeConnectionWaitersLocked around) :=
  wakeLoop_stuck ⟨pool, false, false⟩ (Walk.knows_start pool) pool.mConnectionWaiterQueue

theorem AllStuck.acquireConnection (stuck : AllStuck pool) (around : Surroundings)
    (thread now : Nat) (sql : Option JString) (connectionFlags : BitVec 32) (canceled : Bool) :
    AllStuck (pool.acquireConnection around thread now sql connectionFlags canceled).1 := by
  simp only [SQLiteConnectionPool.acquireConnection]
  split
  · exact stuck
  split
  · exact stuck
  have attempted := outcome_attempt around connectionFlags ⟨pool, false, false⟩
    (decide (connectionFlags &&& connectionFlagPrimaryConnectionAffinity ≠ 0)) sql
  have queue := attempted.sameQueue.mConnectionWaiterQueue
  have earlier : ∀ other ∈ pool.mConnectionWaiterQueue, Stuck _ other :=
    fun other member => (stuck other member).outcome attempted
  split
  case isTrue nothing =>
    intro other member
    rcases mem_enqueue member with rfl | waits
    · exact (knows_attempt ⟨pool, false, false⟩ around (Walk.knows_start pool)
        ⟨thread, now, 0, decide (connectionFlags &&& connectionFlagPrimaryConnectionAffinity ≠ 0),
          sql, connectionFlags, none, none⟩).2 nothing
    · exact earlier other (queue ▸ waits)
  case isFalse => exact fun other member => earlier other (queue ▸ member)

theorem AllStuck.checkWaiter (stuck : AllStuck pool) (thread : Nat) :
    AllStuck (pool.checkWaiter thread).1 := by
  have forgotten : AllStuck (pool.forget thread) :=
    fun waiter member => stuck waiter (List.mem_of_mem_eraseP member)
  simp only [SQLiteConnectionPool.checkWaiter]
  split
  · exact forgotten
  split
  · exact stuck
  split
  · exact forgotten
  · exact forgotten
  · exact stuck

theorem AllStuck.cancelWaiter (stuck : AllStuck pool) (around : Surroundings) (thread : Nat) :
    AllStuck (pool.cancelConnectionWaiter around thread).1 := by
  simp only [SQLiteConnectionPool.cancelConnectionWaiter]
  split
  · split <;> exact stuck
  · split
    · exact stuck
    · exact AllStuck.wake _ around

/-- The release of a connection that nobody could use leaves the primary one acquired. -/
theorem Stuck.releaseOther {waiter : ConnectionWaiter} {connectionId : Nat}
    {connection : SQLiteConnection} {status : AcquiredConnectionStatus}
    (stuck : Stuck pool waiter)
    (found : pool.acquiredEntry connectionId = some (connection, status))
    (isOther : connection.mIsPrimaryConnection = false)
    (full : pool.mMaxConnectionPoolSize - 1 ≤ pool.mAvailableNonPrimaryConnections.length) :
    Stuck ((pool.removeAcquired connectionId).closeConnections [connection]) waiter := by
  obtain ⟨⟨missing, entry, member, isPrimary⟩, wants⟩ := stuck
  have remains : entry ∈ (pool.removeAcquired connectionId).mAcquiredConnections := by
    rcases List.mem_cons.mp ((perm_eraseP found).mem_iff.mp member) with rfl | rest
    · cases isOther.symm.trans isPrimary
    · exact rest
  refine ⟨⟨missing, entry, remains, isPrimary⟩, wants.imp_right fun blocked => ⟨blocked.1, ?_⟩⟩
  rw [blocked.1, List.length_nil] at full
  have counted := List.length_pos_of_mem remains
  simp only [SQLiteConnectionPool.closeConnections, removeAcquired] at counted ⊢
  omega

theorem AllStuck.releaseConnection {connectionId : Nat}
    {entry : SQLiteConnection × AcquiredConnectionStatus} (stuck : AllStuck pool)
    (orderly : Orderly pool) (found : pool.acquiredEntry connectionId = some entry)
    (around : Surroundings) : AllStuck (pool.releaseConnection around connectionId).1 := by
  obtain ⟨connection, status⟩ := entry
  have released := released_releaseConnection around found
  generalize (pool.releaseConnection around connectionId).1 = after at released ⊢
  cases released with
  | unnoticed useless =>
      intro waiter member
      rcases useless with shut | ⟨isOther, full⟩
      · have none : waiter ∈ pool.mConnectionWaiterQueue := member
        rw [(orderly.empty shut).2] at none
        cases none
      · exact (stuck waiter member).releaseOther found isOther full
  | closed => exact AllStuck.wake _ around
  | primary => exact AllStuck.wake _ around
  | other => exact AllStuck.wake _ around

theorem AllStuck.reconfigure (stuck : AllStuck pool) (around : Surroundings)
    (configuration : SQLiteDatabaseConfiguration) :
    AllStuck (pool.reconfigure around configuration).1 := by
  have reconfigured := reconfigured_reconfigure pool around configuration
  generalize (pool.reconfigure around configuration).1 = after at reconfigured ⊢
  cases reconfigured with
  | refused => exact stuck
  | failed => exact stuck
  | failedEmpty _ unused =>
      -- With no connection acquired nobody can have waited.
      intro waiter member
      obtain ⟨⟨_, entry, acquired, _⟩, _⟩ := stuck waiter member
      rw [unused] at acquired
      cases acquired
  | done => exact AllStuck.wake _ around

theorem AllStuck.close (stuck : AllStuck pool) (around : Surroundings) :
    AllStuck (pool.close around).1 := by
  simp only [SQLiteConnectionPool.close]
  split
  · exact stuck
  · exact AllStuck.wake _ around

/-! ### Nobody is overtaken -/

theorem Fair.of_same (kept : ∀ served ∈ after.unparked, served ∈ pool.unparked) :
    Fair pool after :=
  fun _ _ served member isNew => absurd (kept served member) isNew

/-- The waiters that are woken were in the queue before, one ahead of the other as they are now. -/
theorem fair_wake (around : Surroundings) (apart : OthersApart before)
    (unassigned : Unassigned before.mConnectionWaiterQueue)
    (distinct : (before.mConnectionWaiterQueue.map (·.mThread)).Nodup)
    (sameOrder : ∀ {waiter served}, waiter ∈ before.mConnectionWaiterQueue →
      served.mThread ∈ before.mConnectionWaiterQueue.map (·.mThread) →
      Ahead pool.mConnectionWaiterQueue waiter served →
      Ahead before.mConnectionWaiterQueue waiter served)
    (kept : ∀ served ∈ before.unparked, served ∉ pool.unparked →
      served.mAssignedConnection = none) :
    Fair pool (before.wakeConnectionWaitersLocked around) := by
  intro waiter stays served member isNew ahead connection assigned
  rcases List.mem_append.mp member with earlier | now
  · cases (kept served earlier isNew).symm.trans assigned
  · have waits := (wakeLoop_staying around _ _).subset stays
    have left : served.mThread ∈ before.mConnectionWaiterQueue.map (·.mThread) :=
      (wakeLoop_threads _ around _).subset
        (List.mem_map_of_mem (List.mem_append_right _ now))
    exact wakeLoop_overtaken ⟨before, false, false⟩ (Walk.knows_start before) apart unassigned
      distinct waiter stays served now (sameOrder waits left ahead) connection assigned

/-- Who waits, in what order and since when. -/
structure Waiting (pool : SQLiteConnectionPool) (now : Nat) : Prop where
  threads : ∀ thread, pool.waitersOf thread ≤ 1
  inOrder : pool.mConnectionWaiterQueue.Pairwise fun first second => ¬ Precedes second first
  started : ∀ waiter ∈ pool.mConnectionWaiterQueue, waiter.mStartTime ≤ now
  answered : pool.mIsOpen = true → ∀ waiter ∈ pool.unparked, IsAnswered waiter

theorem Waiting.served {now : Nat} (waiting : Waiting pool now) (served : Served pool after) :
    Waiting after now where
  threads thread := Nat.le_trans (served.threads thread) (waiting.threads thread)
  inOrder := waiting.inOrder.sublist served.queue
  started waiter member := waiting.started waiter (served.queue.subset member)
  answered isOpen waiter member := by
    rcases served.answered isOpen waiter member with earlier | answered
    · exact waiting.answered (served.stillOpen isOpen) waiter earlier
    · exact answered

/-- In the queue no thread is twice. -/
theorem Waiting.distinct {now : Nat} (waiting : Waiting pool now) :
    (pool.mConnectionWaiterQueue.map (·.mThread)).Nodup := by
  refine List.nodup_iff_count_le_one.mpr fun thread => ?_
  have once := waiting.threads thread
  rw [waitersOf, List.map_append, List.count_append] at once
  omega

/-- A request goes behind those that are as important. -/
theorem enqueue_eq (waiter : ConnectionWaiter) {queue : List ConnectionWaiter}
    (inOrder : queue.Pairwise fun first second => ¬ Precedes second first) :
    ∃ ahead behind, queue = ahead ++ behind ∧ enqueue waiter queue = ahead ++ waiter :: behind ∧
      (∀ other ∈ ahead, waiter.mPriority ≤ other.mPriority) ∧
      ∀ other ∈ behind, other.mPriority < waiter.mPriority := by
  induction queue with
  | nil => exact ⟨[], [], rfl, rfl, List.forall_mem_nil _, List.forall_mem_nil _⟩
  | cons first rest inductionHypothesis =>
      obtain ⟨firstInOrder, restInOrder⟩ := List.pairwise_cons.mp inOrder
      by_cases important : waiter.mPriority ≤ first.mPriority
      · obtain ⟨ahead, behind, split, joined, higher, lower⟩ := inductionHypothesis restInOrder
        refine ⟨first :: ahead, behind, congrArg _ split, ?_,
          List.forall_mem_cons.mpr ⟨important, higher⟩, lower⟩
        rw [List.cons_append, ← joined]
        simp only [enqueue, List.takeWhile_cons, important, decide_true, if_true,
          List.length_cons, List.drop_succ_cons, List.cons_append]
      · refine ⟨[], first :: rest, rfl, ?_, List.forall_mem_nil _,
          List.forall_mem_cons.mpr ⟨Nat.lt_of_not_le important, fun other member => ?_⟩⟩
        · simp only [enqueue, List.takeWhile_cons, important, decide_false, Bool.false_eq_true,
            if_false, List.length_nil, List.drop_zero, List.nil_append]
        · have notBefore := firstInOrder other member
          unfold Precedes at notBefore
          omega

/-- The queue stays in order: nobody in it came later than a request that comes now. -/
theorem pairwise_enqueue {waiter : ConnectionWaiter} {queue : List ConnectionWaiter}
    (inOrder : queue.Pairwise fun first second => ¬ Precedes second first)
    (latest : ∀ other ∈ queue, other.mStartTime ≤ waiter.mStartTime) :
    (enqueue waiter queue).Pairwise fun first second => ¬ Precedes second first := by
  obtain ⟨ahead, behind, rfl, joined, higher, lower⟩ := enqueue_eq waiter inOrder
  obtain ⟨aheadInOrder, behindInOrder, across⟩ := List.pairwise_append.mp inOrder
  rw [joined, List.pairwise_append, List.pairwise_cons]
  refine ⟨aheadInOrder, ⟨fun other member => ?_, behindInOrder⟩,
    fun first before second after => ?_⟩
  · have less := lower other member
    unfold Precedes
    omega
  · rcases List.mem_cons.mp after with rfl | later
    · have started := latest first (List.mem_append_left _ before)
      have more := higher first before
      unfold Precedes
      omega
    · exact across first before second later

theorem count_enqueue (waiter : ConnectionWaiter) (queue : List ConnectionWaiter)
    (thread : Nat) :
    ((enqueue waiter queue).map (·.mThread)).count thread =
      (queue.map (·.mThread)).count thread + if waiter.mThread = thread then 1 else 0 := by
  have permuted : (enqueue waiter queue).Perm (waiter :: queue) := by
    have ahead := List.prefix_iff_eq_append.mp
      (List.takeWhile_prefix (l := queue) (waiter.mPriority ≤ ·.mPriority))
    refine List.perm_middle.trans (List.Perm.cons waiter ?_)
    rw [ahead]
  rw [(permuted.map (·.mThread)).count_eq thread, List.map_cons, List.count_cons]
  simp only [beq_iff_eq]

/-- A thread that is not waiting has no request in the pool. -/
theorem waitersOf_of_not_isWaiting {thread : Nat} (free : ¬ pool.isWaiting thread = true) :
    pool.waitersOf thread = 0 := by
  simp only [isWaiting, Bool.or_eq_true, not_or, Bool.not_eq_true, Option.isSome_eq_false_iff,
    Option.isNone_iff_eq_none, unparkedWaiter, queuedWaiter, List.find?_eq_none,
    decide_eq_true_eq] at free
  rw [waitersOf, List.count_eq_zero]
  intro member
  obtain ⟨waiter, waits, same⟩ := List.mem_map.mp member
  rcases List.mem_append.mp waits with queued | unparked
  · exact free.2 waiter queued same
  · exact free.1 waiter unparked same

/-- A request leaves the leak flag and the waiters out of the queue alone. -/
theorem same_acquireConnection (pool : SQLiteConnectionPool) (around : Surroundings)
    (thread now : Nat) (sql : Option JString) (connectionFlags : BitVec 32) (canceled : Bool) :
    let after := (pool.acquireConnection around thread now sql connectionFlags canceled).1
    after.mConnectionLeaked = pool.mConnectionLeaked ∧ after.unparked = pool.unparked := by
  simp only [SQLiteConnectionPool.acquireConnection]
  split
  · exact ⟨rfl, rfl⟩
  split
  · exact ⟨rfl, rfl⟩
  have same := (outcome_attempt around connectionFlags ⟨pool, false, false⟩
    (decide (connectionFlags &&& connectionFlagPrimaryConnectionAffinity ≠ 0)) sql).sameQueue
  split <;> exact ⟨same.mConnectionLeaked, same.unparked⟩

theorem Waiting.acquireConnection {thread now : Nat} (waiting : Waiting pool now)
    (free : ¬ pool.isWaiting thread = true) (around : Surroundings) (sql : Option JString)
    (connectionFlags : BitVec 32) (canceled : Bool) :
    Waiting (pool.acquireConnection around thread now sql connectionFlags canceled).1 now := by
  simp only [SQLiteConnectionPool.acquireConnection]
  split
  · exact waiting
  split
  · exact waiting
  have same := (outcome_attempt around connectionFlags ⟨pool, false, false⟩
    (decide (connectionFlags &&& connectionFlagPrimaryConnectionAffinity ≠ 0)) sql).sameQueue
  generalize Walk.attempt ⟨pool, false, false⟩ around
    (decide (connectionFlags &&& connectionFlagPrimaryConnectionAffinity ≠ 0)) sql
    connectionFlags = result at same ⊢
  have attempted : Waiting result.1.pool now := by
    refine waiting.served ⟨fun isOpen => same.mIsOpen ▸ isOpen,
      fun unleaked => same.mConnectionLeaked ▸ unleaked, ?_, fun other => ?_,
      fun _ _ member => .inl (same.unparked ▸ member)⟩
    · rw [same.mConnectionWaiterQueue]
    · rw [waitersOf, waitersOf, same.mConnectionWaiterQueue, same.unparked]
  split
  case isFalse => exact attempted
  case isTrue =>
    refine ⟨fun other => ?_, pairwise_enqueue attempted.inOrder attempted.started,
      fun other member => ?_, attempted.answered⟩
    · have earlier := attempted.threads other
      have none := waitersOf_of_not_isWaiting free
      rw [waitersOf, ← same.mConnectionWaiterQueue, ← same.unparked] at none
      simp only [waitersOf, List.map_append, List.count_append, count_enqueue] at earlier none ⊢
      split
      case isTrue named =>
        rw [← named]
        omega
      case isFalse => exact earlier
    · rcases mem_enqueue member with rfl | queued
      · exact Nat.le_refl _
      · exact attempted.started other queued

theorem KeepsOrder.rfl {queue : List ConnectionWaiter} : KeepsOrder queue queue :=
  .inl (List.Sublist.refl queue)

theorem keepsOrder_acquireConnection {now : Nat} (waiting : Waiting pool now)
    (around : Surroundings) (thread : Nat) (sql : Option JString) (connectionFlags : BitVec 32)
    (canceled : Bool) :
    KeepsOrder pool.mConnectionWaiterQueue
      (pool.acquireConnection around thread now sql connectionFlags
        canceled).1.mConnectionWaiterQueue := by
  simp only [SQLiteConnectionPool.acquireConnection]
  split
  · exact KeepsOrder.rfl
  split
  · exact KeepsOrder.rfl
  have same := (outcome_attempt around connectionFlags ⟨pool, false, false⟩
    (decide (connectionFlags &&& connectionFlagPrimaryConnectionAffinity ≠ 0)) sql).sameQueue
  have inOrder := waiting.inOrder
  rw [← same.mConnectionWaiterQueue] at inOrder ⊢
  split
  · obtain ⟨ahead, behind, parts, joined, higher, lower⟩ := enqueue_eq _ inOrder
    exact .inr ⟨ahead, _, behind, parts, joined, higher, lower⟩
  · exact KeepsOrder.rfl

theorem fair_checkWaiter (pool : SQLiteConnectionPool) (thread : Nat) :
    Fair pool (pool.checkWaiter thread).1 := by
  apply Fair.of_same
  have forgotten : ∀ served ∈ (pool.forget thread).unparked, served ∈ pool.unparked :=
    fun served member => List.mem_of_mem_eraseP member
  simp only [SQLiteConnectionPool.checkWaiter]
  split
  · exact forgotten
  split
  · exact fun _ => id
  split
  · exact forgotten
  · exact forgotten
  · exact fun _ => id

theorem fair_cancelWaiter {now : Nat} (apart : OthersApart pool) (orderly : Orderly pool)
    (waiting : Waiting pool now) (around : Surroundings) (thread : Nat) :
    Fair pool (pool.cancelConnectionWaiter around thread).1 := by
  simp only [SQLiteConnectionPool.cancelConnectionWaiter]
  split
  · split <;> exact Fair.of_same fun _ => id
  · split
    case h_1 => exact Fair.of_same fun _ => id
    case h_2 waiter found =>
      have nothing := orderly.unassigned waiter (List.mem_of_find?_eq_some found)
      have distinct := waiting.distinct
      apply fair_wake
      · exact apart
      · exact fun other member => orderly.unassigned other (List.mem_of_mem_eraseP member)
      · exact distinct.sublist (List.eraseP_sublist.map _)
      · exact fun waits left ahead => ahead.eraseP distinct (List.mem_map_of_mem waits) left
      · intro served member isNew
        rcases List.mem_append.mp member with earlier | now
        · exact absurd earlier isNew
        · rw [List.mem_singleton.mp now]
          exact nothing

/-- The waiters are woken after nothing but connections was changed. -/
theorem fair_wakeSame {now : Nat} (same : SameWaiters pool before) (apart : OthersApart before)
    (orderly : Orderly pool) (waiting : Waiting pool now) (around : Surroundings) :
    Fair pool (before.wakeConnectionWaitersLocked around) := by
  refine fair_wake around apart ?_ ?_ (fun _ _ ahead => ?_) fun served member isNew => ?_
  · rw [same.mConnectionWaiterQueue]
    exact orderly.unassigned
  · rw [same.mConnectionWaiterQueue]
    exact waiting.distinct
  · rw [same.mConnectionWaiterQueue]
    exact ahead
  · rw [same.unparked] at member
    exact absurd member isNew

theorem fair_releaseConnection {now connectionId : Nat}
    {entry : SQLiteConnection × AcquiredConnectionStatus} (apart : OthersApart pool)
    (orderly : Orderly pool) (waiting : Waiting pool now)
    (found : pool.acquiredEntry connectionId = some entry) (around : Surroundings) :
    Fair pool (pool.releaseConnection around connectionId).1 := by
  obtain ⟨connection, status⟩ := entry
  have released := released_releaseConnection around found
  generalize (pool.releaseConnection around connectionId).1 = after at released ⊢
  cases released with
  | unnoticed => exact Fair.of_same fun _ member => member
  | closed =>
      refine fair_wakeSame ?_ ?_ orderly waiting around
      · exact ⟨rfl, rfl, rfl, rfl⟩
      · exact apart
  | primary =>
      refine fair_wakeSame ?_ ?_ orderly waiting around
      · exact ⟨rfl, rfl, rfl, rfl⟩
      · exact apart
  | other _ isOther =>
      refine fair_wakeSame ?_ (fun other member => ?_) orderly waiting around
      · exact ⟨rfl, rfl, rfl, rfl⟩
      rcases List.mem_append.mp member with earlier | now
      · exact apart other earlier
      · rw [List.mem_singleton.mp now]
        exact isOther

theorem fair_reconfigure {now : Nat} (apart : OthersApart pool) (orderly : Orderly pool)
    (waiting : Waiting pool now) (around : Surroundings)
    (configuration : SQLiteDatabaseConfiguration) :
    Fair pool (pool.reconfigure around configuration).1 := by
  have reconfigured := reconfigured_reconfigure pool around configuration
  generalize (pool.reconfigure around configuration).1 = after at reconfigured ⊢
  cases reconfigured with
  | refused => exact Fair.of_same fun _ => id
  | failed => exact Fair.of_same fun _ member => member
  | failedEmpty => exact Fair.of_same fun _ member => member
  | done _ before same fewer =>
      exact fair_wakeSame same (fun other member => apart other (fewer member)) orderly waiting
        around

theorem fair_close {now : Nat} (orderly : Orderly pool) (waiting : Waiting pool now)
    (around : Surroundings) : Fair pool (pool.close around).1 := by
  simp only [SQLiteConnectionPool.close]
  split
  · exact Fair.of_same fun _ => id
  · refine fair_wake around (fun _ member => absurd member List.not_mem_nil) orderly.unassigned
      waiting.distinct (fun _ _ => id) fun served member isNew => absurd member isNew

/-- While others wait that are stuck, a request is given at once only what they cannot use. -/
theorem AllStuck.given {connection : SQLiteConnection} (stuck : AllStuck pool)
    (apart : OthersApart pool) {around : Surroundings} {thread now : Nat} {sql : Option JString}
    {connectionFlags : BitVec 32} {canceled : Bool}
    (gives : (pool.acquireConnection around thread now sql connectionFlags canceled).2 =
      .ok (some connection)) :
    ∀ waiter ∈ pool.mConnectionWaiterQueue,
      waiter.mWantPrimaryConnection = true ∧ connection.mIsPrimaryConnection = false := by
  intro waiter member
  simp only [SQLiteConnectionPool.acquireConnection] at gives
  split at gives
  · cases gives
  split at gives
  · cases gives
  have attempted := outcome_attempt around connectionFlags ⟨pool, false, false⟩
    (decide (connectionFlags &&& connectionFlagPrimaryConnectionAffinity ≠ 0)) sql
  split at gives
  · exact (stuck waiter member).given apart attempted gives
  · exact (stuck waiter member).given apart attempted gives

end Methods

/-! ## Every run -/

namespace PoolSystem

/-- The requests of a system are kept in order, and none is forgotten. -/
structure Attended (system : PoolSystem) : Prop where
  waiting : Waiting system.pool system.uptimeMillis
  quiet : system.pool.mConnectionLeaked = false → system.wakers = 0 → AllStuck system.pool

variable {system : PoolSystem}

/-- A method that adds no request. -/
theorem Attended.served (attended : system.Attended) {next : PoolSystem}
    (served : Served system.pool next.pool) (wakers : next.wakers = system.wakers)
    (uptimeMillis : next.uptimeMillis = system.uptimeMillis)
    (stuck : AllStuck system.pool → AllStuck next.pool) : next.Attended where
  waiting := uptimeMillis ▸ attended.waiting.served served
  quiet unleaked none := stuck (attended.quiet (served.unleaked unleaked) (wakers ▸ none))

theorem Attended.step (attended : system.Attended) (sound : system.Sound) (event : PoolEvent) :
    (system.step event).1.Attended := by
  have waiting := attended.waiting
  have orderly := sound.orderly
  cases event with
  | acquireConnection thread sql connectionFlags canceled around =>
      simp only [PoolSystem.step]
      split
      case isTrue => exact attended
      case isFalse free =>
        refine ⟨waiting.acquireConnection free around sql connectionFlags canceled,
          fun unleaked none => ?_⟩
        have same := (same_acquireConnection system.pool around thread system.uptimeMillis sql
          connectionFlags canceled).1
        exact (attended.quiet (same ▸ unleaked) none).acquireConnection around thread
          system.uptimeMillis sql connectionFlags canceled
  | checkWaiter thread =>
      simp only [PoolSystem.step]
      split
      case isFalse => exact attended
      case isTrue =>
        exact attended.served (served_checkWaiter system.pool thread) rfl rfl
          (·.checkWaiter thread)
  | cancelWaiter thread around =>
      exact attended.served (served_cancelWaiter system.pool around thread) rfl rfl
        (·.cancelWaiter around thread)
  | releaseConnection thread connectionId around =>
      simp only [PoolSystem.step]
      split
      case isFalse => exact attended
      case isTrue holds =>
        obtain ⟨entry, found, -⟩ := (sound.balanced.of_perm (perm_heldIds holds)).found
        exact attended.served (served_releaseConnection found around) rfl rfl
          (·.releaseConnection orderly found around)
  | reconfigure configuration around =>
      exact attended.served (served_reconfigure system.pool around configuration) rfl rfl
        (·.reconfigure around configuration)
  | close around =>
      exact attended.served (served_close system.pool around) rfl rfl (·.close around)
  | loseConnection thread connectionId =>
      simp only [PoolSystem.step]
      split
      case isFalse => exact attended
      case isTrue => exact ⟨⟨waiting.threads, waiting.inOrder, waiting.started,
        waiting.answered⟩, fun quiet => absurd quiet.symm Bool.false_ne_true⟩
  | noticeLeak =>
      simp only [PoolSystem.step]
      split
      case isFalse => exact attended
      case isTrue => exact ⟨⟨waiting.threads, waiting.inOrder, waiting.started,
        waiting.answered⟩, fun _ none => absurd none (Nat.succ_ne_zero _)⟩
  | wakeAfterLeak around =>
      simp only [PoolSystem.step]
      split
      case isFalse => exact attended
      case isTrue =>
        exact ⟨waiting.served (served_wake system.pool around), fun _ _ => AllStuck.wake _ around⟩
  | elapse millis =>
      exact ⟨⟨waiting.threads, waiting.inOrder, fun waiter member =>
        Nat.le_trans (waiting.started waiter member) (Nat.le_add_right _ _), waiting.answered⟩,
        attended.quiet⟩

/-- No event makes waiters change places. -/
theorem Attended.keepsOrder_step (attended : system.Attended) (sound : system.Sound)
    (event : PoolEvent) :
    KeepsOrder system.pool.mConnectionWaiterQueue
      (system.step event).1.pool.mConnectionWaiterQueue := by
  cases event with
  | acquireConnection thread sql connectionFlags canceled around =>
      simp only [PoolSystem.step]
      split
      · exact KeepsOrder.rfl
      · exact keepsOrder_acquireConnection attended.waiting around thread sql connectionFlags
          canceled
  | checkWaiter thread =>
      simp only [PoolSystem.step]
      split
      · exact .inl (served_checkWaiter system.pool thread).queue
      · exact KeepsOrder.rfl
  | cancelWaiter thread around => exact .inl (served_cancelWaiter system.pool around thread).queue
  | releaseConnection thread connectionId around =>
      simp only [PoolSystem.step]
      split
      case isFalse => exact KeepsOrder.rfl
      case isTrue holds =>
        obtain ⟨entry, found, -⟩ := (sound.balanced.of_perm (perm_heldIds holds)).found
        exact .inl (served_releaseConnection found around).queue
  | reconfigure configuration around =>
      exact .inl (served_reconfigure system.pool around configuration).queue
  | close around => exact .inl (served_close system.pool around).queue
  | loseConnection thread connectionId =>
      simp only [PoolSystem.step]
      split <;> exact KeepsOrder.rfl
  | noticeLeak =>
      simp only [PoolSystem.step]
      split <;> exact KeepsOrder.rfl
  | wakeAfterLeak around =>
      simp only [PoolSystem.step]
      split
      · exact .inl (served_wake system.pool around).queue
      · exact KeepsOrder.rfl
  | elapse millis => exact KeepsOrder.rfl

/-- No event lets a waiter be given what one ahead of it could use. -/
theorem Attended.fair_step (attended : system.Attended) (sound : system.Sound) (event : PoolEvent) :
    Fair system.pool (system.step event).1.pool := by
  have waiting := attended.waiting
  have orderly := sound.orderly
  have apart : OthersApart system.pool := sound.bounded.others
  cases event with
  | acquireConnection thread sql connectionFlags canceled around =>
      simp only [PoolSystem.step]
      split
      · exact Fair.of_same fun _ => id
      · apply Fair.of_same
        intro served member
        exact (same_acquireConnection system.pool around thread system.uptimeMillis sql
          connectionFlags canceled).2 ▸ member
  | checkWaiter thread =>
      simp only [PoolSystem.step]
      split
      · exact fair_checkWaiter system.pool thread
      · exact Fair.of_same fun _ => id
  | cancelWaiter thread around => exact fair_cancelWaiter apart orderly waiting around thread
  | releaseConnection thread connectionId around =>
      simp only [PoolSystem.step]
      split
      case isFalse => exact Fair.of_same fun _ => id
      case isTrue holds =>
        obtain ⟨entry, found, -⟩ := (sound.balanced.of_perm (perm_heldIds holds)).found
        exact fair_releaseConnection apart orderly waiting found around
  | reconfigure configuration around =>
      exact fair_reconfigure apart orderly waiting around configuration
  | close around => exact fair_close orderly waiting around
  | loseConnection thread connectionId =>
      simp only [PoolSystem.step]
      split <;> exact Fair.of_same fun _ member => member
  | noticeLeak =>
      simp only [PoolSystem.step]
      split <;> exact Fair.of_same fun _ member => member
  | wakeAfterLeak around =>
      simp only [PoolSystem.step]
      split
      · exact fair_wakeSame ⟨rfl, rfl, rfl, rfl⟩ apart orderly waiting around
      · exact Fair.of_same fun _ => id
  | elapse millis => exact Fair.of_same fun _ => id

theorem attended_after {around : Surroundings} {hasCodec : Bool}
    {configuration : SQLiteDatabaseConfiguration} {pool : SQLiteConnectionPool}
    (opened : SQLiteConnectionPool.open around hasCodec configuration = .ok pool)
    (events : List PoolEvent) :
    let system := machine.after (start pool) events
    system.Sound ∧ system.Attended := by
  have first : (start pool).Attended := by
    simp only [SQLiteConnectionPool.open, SQLiteConnectionPool.openConnectionLocked] at opened
    split at opened
    · cases opened
    case h_2 fresh connection same =>
      rw [← Except.ok.inj opened]
      split at same
      · rw [← (Prod.mk.inj same).1]
        have none : ∀ waiter : ConnectionWaiter, waiter ∉ [] := fun _ => List.not_mem_nil
        exact ⟨⟨fun _ => Nat.zero_le 1, List.Pairwise.nil,
          fun waiter member => absurd member (none waiter),
          fun _ waiter member => absurd member (none waiter)⟩,
          fun _ _ waiter member => absurd member (none waiter)⟩
      · cases (Prod.mk.inj same).2
  exact Machine.invariant (fun system : PoolSystem => system.Sound ∧ system.Attended)
    (fun _ event both => ⟨both.1.step event, both.2.step both.1 event⟩)
    ⟨sound_start opened, first⟩ events

/-- Whatever the threads do, no wake-up is lost: once leaks are dealt with, nothing in the pool
could be given to a request in the queue, and a request that has left the queue of an open pool
has its answer. A thread never has two requests, and cancelling fails in a closed pool only. -/
theorem stuck_after {around : Surroundings} {hasCodec : Bool}
    {configuration : SQLiteDatabaseConfiguration} {pool : SQLiteConnectionPool}
    (opened : SQLiteConnectionPool.open around hasCodec configuration = .ok pool)
    (events : List PoolEvent) :
    let system := machine.after (start pool) events
    (system.pool.mConnectionLeaked = false → system.wakers = 0 →
        ∀ waiter ∈ system.pool.mConnectionWaiterQueue, Stuck system.pool waiter) ∧
      (∀ thread, system.pool.waitersOf thread ≤ 1) ∧
      (system.pool.mIsOpen = true →
        (∀ waiter ∈ system.pool.unparked, IsAnswered waiter) ∧
        ∀ thread around, (system.pool.cancelConnectionWaiter around thread).2 = .ok ()) := by
  obtain ⟨sound, attended⟩ := attended_after opened events
  have answered := attended.waiting.answered
  refine ⟨attended.quiet, attended.waiting.threads, fun isOpen => ⟨answered isOpen, ?_⟩⟩
  intro thread around
  simp only [SQLiteConnectionPool.cancelConnectionWaiter]
  split
  case h_1 waiter found =>
    rw [if_pos]
    exact Bool.or_eq_true_iff.mpr (answered isOpen waiter (List.mem_of_find?_eq_some found))
  case h_2 => split <;> rfl

/-- A thread waits for the primary connection although another connection is free. -/
theorem stuck_after_requests :
    let system := machine.after (start walPool)
      [.acquireConnection 1 none connectionFlagPrimaryConnectionAffinity false smoothly,
        .acquireConnection 2 none 0 false smoothly, .releaseConnection 2 1 smoothly,
        .acquireConnection 3 none connectionFlagPrimaryConnectionAffinity false smoothly]
    (∀ waiter ∈ system.pool.mConnectionWaiterQueue, Stuck system.pool waiter) ∧
      system.pool.mConnectionWaiterQueue.map (·.mThread) = [3] ∧
      system.pool.availableIds = [1] :=
  ⟨(@stuck_after smoothly false walConfiguration walPool rfl _).1 (by decide +kernel)
    (by decide +kernel), by decide +kernel⟩

/-- Whatever the threads do, the queue is in order of importance and arrival, a request goes behind
those that are as important, and waiters do not change places. A waiter is given a connection before
one ahead of it only if that one wants the primary connection and it is another. So it is with a
request that is given a connection at once, unless a leak has been reported and the waiters have not
been woken for it yet. -/
theorem fair_after {around : Surroundings} {hasCodec : Bool}
    {configuration : SQLiteDatabaseConfiguration} {pool : SQLiteConnectionPool}
    (opened : SQLiteConnectionPool.open around hasCodec configuration = .ok pool)
    (events : List PoolEvent) :
    let system := machine.after (start pool) events
    system.pool.mConnectionWaiterQueue.Pairwise (fun first second => ¬ Precedes second first) ∧
      (∀ event, KeepsOrder system.pool.mConnectionWaiterQueue
        (system.step event).1.pool.mConnectionWaiterQueue) ∧
      (∀ event, Fair system.pool (system.step event).1.pool) ∧
      (system.pool.mConnectionLeaked = false → system.wakers = 0 →
        ∀ thread sql connectionFlags canceled around connection,
          (system.step (.acquireConnection thread sql connectionFlags canceled around)).2 =
              .ok (some connection) →
            ∀ waiter ∈ system.pool.mConnectionWaiterQueue,
              waiter.mWantPrimaryConnection = true ∧ connection.mIsPrimaryConnection = false) := by
  obtain ⟨sound, attended⟩ := attended_after opened events
  refine ⟨attended.waiting.inOrder, attended.keepsOrder_step sound, attended.fair_step sound,
    fun unleaked none thread sql connectionFlags canceled around connection gives => ?_⟩
  simp only [PoolSystem.step] at gives
  split at gives
  · cases gives
  · exact (attended.quiet unleaked none).given sound.bounded.others gives

/-- The third thread is given a connection while the second one waits for the primary one. -/
theorem fair_after_requests :
    let system := machine.after (start walPool)
      [.acquireConnection 1 none connectionFlagPrimaryConnectionAffinity false smoothly,
        .acquireConnection 2 none connectionFlagPrimaryConnectionAffinity false smoothly]
    system.pool.mConnectionWaiterQueue.map (·.mThread) = [2] ∧
      (system.step (.acquireConnection 3 none 0 false smoothly)).2 = .ok (some ⟨1, false, false⟩) ∧
      ∀ waiter ∈ system.pool.mConnectionWaiterQueue, waiter.mWantPrimaryConnection = true ∧
        (⟨1, false, false⟩ : SQLiteConnection).mIsPrimaryConnection = false :=
  ⟨by decide +kernel, by decide +kernel,
    (@fair_after smoothly false walConfiguration walPool rfl _).2.2.2 (by decide +kernel)
      (by decide +kernel) 3 none 0 false smoothly ⟨1, false, false⟩ (by decide +kernel)⟩

end PoolSystem

end Openpyn.Database
