import Mathlib.Data.List.Nodup
import Openpyn.Database.PoolSize

/-!
# Where the connections of a pool are

Threads acquire, wait, cancel and release in any order, while the pool is closed or
reconfigured. At every moment each connection ever opened is in one place: free in the
pool, acquired, closed, or lost by its holder. An acquired connection belongs to one thread.
-/

namespace Openpyn.Database

open Foundation Java

/-! ## The threads around a pool -/

/-- A pool and what the threads around it hold. A waiter that gives up with a connection assigned
to it abandons the connection. A waker has seen that a connection leaked and is about to
walk through the queue. -/
structure PoolSystem where
  pool : SQLiteConnectionPool
  held : List (Nat × Nat)
  abandoned : List Nat
  leaked : List Nat
  wakers : Nat
  uptimeMillis : Nat
deriving DecidableEq

/-- What a thread, the collector or the clock does next. -/
inductive PoolEvent where
  | acquireConnection (thread : Nat) (sql : Option JString) (connectionFlags : BitVec 32)
      (canceled : Bool) (around : Surroundings)
  | checkWaiter (thread : Nat)
  | cancelWaiter (thread : Nat) (around : Surroundings)
  | releaseConnection (thread connectionId : Nat) (around : Surroundings)
  | reconfigure (configuration : SQLiteDatabaseConfiguration) (around : Surroundings)
  | close (around : Surroundings)
  | loseConnection (thread connectionId : Nat)
  | noticeLeak
  | wakeAfterLeak (around : Surroundings)
  | elapse (millis : Nat)

namespace SQLiteConnectionPool

def availableIds (pool : SQLiteConnectionPool) : List Nat :=
  (pool.mAvailablePrimaryConnection.toList ++ pool.mAvailableNonPrimaryConnections).map
    (·.mConnectionId)

def acquiredIds (pool : SQLiteConnectionPool) : List Nat :=
  pool.mAcquiredConnections.map (·.1.mConnectionId)

def isWaiting (pool : SQLiteConnectionPool) (thread : Nat) : Bool :=
  (pool.unparkedWaiter thread).isSome || (pool.queuedWaiter thread).isSome

end SQLiteConnectionPool

/-- The connection assigned to a waiter. -/
def assignedId (waiter : ConnectionWaiter) : Option Nat :=
  waiter.mAssignedConnection.map (·.mConnectionId)

def assignedIds (waiters : List ConnectionWaiter) : List Nat := waiters.filterMap assignedId

/-- What a thread leaves behind that stops waiting without a connection. -/
def SQLiteConnectionPool.givenUp (pool : SQLiteConnectionPool) (thread : Nat) :
    PoolAnswer → List Nat
  | .error _ => ((pool.unparkedWaiter thread).bind assignedId).toList
  | .ok _ => []

namespace PoolSystem

def start (pool : SQLiteConnectionPool) : PoolSystem := ⟨pool, [], [], [], 0, 0⟩

def heldIds (system : PoolSystem) : List Nat := system.held.map (·.2)

/-- A thread goes on with the connection it was given. -/
def receive (system : PoolSystem) (thread : Nat) (result : SQLiteConnectionPool × PoolAnswer) :
    PoolSystem × PoolAnswer :=
  let given := match result.2 with
    | .ok (some connection) => [(thread, connection.mConnectionId)]
    | _ => []
  ({ system with pool := result.1, held := given ++ system.held }, result.2)

/-- A method that gives no connection. -/
def finish (system : PoolSystem) (result : SQLiteConnectionPool × Except PoolException Unit) :
    PoolSystem × PoolAnswer :=
  ({ system with pool := result.1 }, result.2.map fun _ => none)

/-- One event. A thread waits for one connection at a time, and it releases
only what it holds. -/
def step (system : PoolSystem) : PoolEvent → PoolSystem × PoolAnswer
  | .acquireConnection thread sql connectionFlags canceled around =>
      if system.pool.isWaiting thread then (system, .ok none)
      else
        system.receive thread <| system.pool.acquireConnection around thread
          system.uptimeMillis sql connectionFlags canceled
  | .checkWaiter thread =>
      if system.pool.isWaiting thread then
        let result := system.pool.checkWaiter thread
        let abandoned := system.pool.givenUp thread result.2 ++ system.abandoned
        { system with abandoned := abandoned }.receive thread result
      else (system, .ok none)
  | .cancelWaiter thread around =>
      system.finish (system.pool.cancelConnectionWaiter around thread)
  | .releaseConnection thread connectionId around =>
      if (thread, connectionId) ∈ system.held then
        { system with held := system.held.erase (thread, connectionId) }.finish
          (system.pool.releaseConnection around connectionId)
      else (system, .ok none)
  | .reconfigure configuration around =>
      system.finish (system.pool.reconfigure around configuration)
  | .close around => system.finish (system.pool.close around)
  | .loseConnection thread connectionId =>
      if (thread, connectionId) ∈ system.held then
        ({ system with
            pool := { system.pool.removeAcquired connectionId with mConnectionLeaked := true }
            held := system.held.erase (thread, connectionId)
            leaked := connectionId :: system.leaked },
          .ok none)
      else (system, .ok none)
  | .noticeLeak =>
      if system.pool.mConnectionLeaked then
        ({ system with
            pool := { system.pool with mConnectionLeaked := false }
            wakers := system.wakers + 1 },
          .ok none)
      else (system, .ok none)
  | .wakeAfterLeak around =>
      if 0 < system.wakers then
        ({ system with
            pool := system.pool.wakeConnectionWaitersLocked around
            wakers := system.wakers - 1 },
          .ok none)
      else (system, .ok none)
  | .elapse millis =>
      ({ system with uptimeMillis := system.uptimeMillis + millis }, .ok none)

def machine : Machine PoolSystem PoolEvent PoolAnswer where
  step := step

end PoolSystem

/-! ## Counting connections -/

/-- Every connection that was opened is counted once: free, acquired, closed or elsewhere. An
acquired one is out with a thread or assigned to a waiter that has not looked yet. -/
structure Balanced (pool : SQLiteConnectionPool) (out elsewhere : List Nat) : Prop where
  once : ∀ id, pool.opened.count id ≤ 1
  old : ∀ id ∈ pool.opened, id < pool.mNextConnectionId
  places : ∀ id, pool.opened.count id = pool.availableIds.count id + pool.acquiredIds.count id +
    pool.closed.count id + elsewhere.count id
  owners : ∀ id, pool.acquiredIds.count id =
    out.count id + (assignedIds pool.unparked).count id

/-- The connection in an answer. -/
def answeredIds : PoolAnswer → List Nat
  | .ok (some connection) => [connection.mConnectionId]
  | _ => []

section Balance

variable {pool : SQLiteConnectionPool} {out elsewhere : List Nat}

open SQLiteConnectionPool

theorem Balanced.closeConnections {connections : List SQLiteConnection}
    (balanced : Balanced pool out (connections.map (·.mConnectionId) ++ elsewhere)) :
    Balanced (pool.closeConnections connections) out elsewhere where
  once := balanced.once
  old := balanced.old
  places id := by
    have places := balanced.places id
    simp only [List.count_append] at places
    simp only [SQLiteConnectionPool.closeConnections, availableIds, acquiredIds,
      List.count_append] at places ⊢
    omega
  owners := balanced.owners

/-- A new connection has a new number. -/
theorem Balanced.opening (balanced : Balanced pool out elsewhere) :
    Balanced { pool with
        mNextConnectionId := pool.mNextConnectionId + 1
        opened := pool.opened ++ [pool.mNextConnectionId] } out
      (pool.mNextConnectionId :: elsewhere) := by
  have unused : pool.opened.count pool.mNextConnectionId = 0 :=
    List.count_eq_zero.mpr fun member => Nat.lt_irrefl _ (balanced.old _ member)
  refine ⟨fun id => ?_, fun id member => ?_, fun id => ?_, balanced.owners⟩
  · have once := balanced.once id
    simp only [List.count_append, List.count_singleton]
    split
    case isTrue same =>
      rw [beq_iff_eq] at same
      rw [← same, unused]
    case isFalse => exact once
  · rcases List.mem_append.mp member with earlier | now
    · exact Nat.lt_succ_of_lt (balanced.old id earlier)
    · rw [List.mem_singleton.mp now]
      exact Nat.lt_succ_self _
  · have places := balanced.places id
    simp only [availableIds, acquiredIds, List.count_append, List.count_cons, List.count_nil]
      at places ⊢
    omega

theorem Balanced.openConnectionLocked (balanced : Balanced pool out elsewhere)
    (around : Surroundings) (primaryConnection : Bool) :
    Balanced (pool.openConnectionLocked around primaryConnection).1 out
      (((pool.openConnectionLocked around primaryConnection).2.toOption.toList.map
        (·.mConnectionId)) ++ elsewhere) := by
  simp only [SQLiteConnectionPool.openConnectionLocked]
  split
  · exact balanced.opening
  · exact ⟨balanced.once, fun id member => Nat.lt_succ_of_lt (balanced.old id member),
      balanced.places, balanced.owners⟩

/-- An attempt keeps the count, with the connection it gives among those that are out. -/
def Keeps (out elsewhere : List Nat) (result : SQLiteConnectionPool × PoolAnswer) : Prop :=
  Balanced result.1 (answeredIds result.2 ++ out) elsewhere

theorem Balanced.finishAcquire (connection : SQLiteConnection)
    (balanced : Balanced pool out (connection.mConnectionId :: elsewhere))
    (connectionFlags : BitVec 32) :
    Keeps out elsewhere (pool.finishAcquireConnectionLocked connection connectionFlags) where
  once := balanced.once
  old := balanced.old
  places id := by
    have places := balanced.places id
    simp only [finishAcquireConnectionLocked, availableIds, acquiredIds, List.map_append,
      List.map_cons, List.map_nil, List.count_append, List.count_cons, List.count_nil]
      at places ⊢
    omega
  owners id := by
    have owners := balanced.owners id
    simp only [finishAcquireConnectionLocked, acquiredIds, answeredIds, List.map_append,
      List.map_cons, List.map_nil, List.cons_append, List.nil_append, List.count_append,
      List.count_cons, List.count_nil] at owners ⊢
    omega

theorem Balanced.takePrimary {connection : SQLiteConnection}
    (balanced : Balanced pool out elsewhere)
    (present : pool.mAvailablePrimaryConnection = some connection) :
    Balanced { pool with mAvailablePrimaryConnection := none } out
      (connection.mConnectionId :: elsewhere) where
  once := balanced.once
  old := balanced.old
  places id := by
    have places := balanced.places id
    simp only [availableIds, acquiredIds, present, Option.toList, List.nil_append,
      List.cons_append, List.map_cons, List.count_cons] at places ⊢
    omega
  owners := balanced.owners

theorem Balanced.takeNonPrimary {connection : SQLiteConnection} {index : Nat}
    (balanced : Balanced pool out elsewhere)
    (present : pool.mAvailableNonPrimaryConnections[index]? = some connection) :
    Balanced { pool with
        mAvailableNonPrimaryConnections :=
          pool.mAvailableNonPrimaryConnections.eraseIdx index } out
      (connection.mConnectionId :: elsewhere) := by
  obtain ⟨bound, rfl⟩ := List.getElem?_eq_some_iff.mp present
  have permuted := (List.getElem_cons_eraseIdx_perm bound).map (·.mConnectionId)
  refine ⟨balanced.once, balanced.old, fun id => ?_, balanced.owners⟩
  have places := balanced.places id
  have counted := permuted.count_eq id
  simp only [availableIds, acquiredIds, List.map_append, List.map_cons, List.count_append,
    List.count_cons] at places counted ⊢
  omega

theorem Balanced.outcome {result : SQLiteConnectionPool × PoolAnswer}
    (balanced : Balanced pool out elsewhere) (outcome : Outcome pool result) :
    Keeps out elsewhere result := by
  have newer := fun id member => Nat.lt_succ_of_lt (balanced.old id member)
  cases outcome with
  | nothing => exact balanced
  | failed => exact ⟨balanced.once, newer, balanced.places, balanced.owners⟩
  | primary connection connectionFlags present =>
      exact (balanced.takePrimary present).finishAcquire connection connectionFlags
  | nonPrimary index connection connectionFlags present =>
      exact (balanced.takeNonPrimary present).finishAcquire connection connectionFlags
  | opened primaryConnection connectionFlags alone room =>
      have opened := balanced.opening
      exact Balanced.finishAcquire ⟨_, primaryConnection, false⟩ opened connectionFlags

theorem Balanced.of_perm {others : List Nat} (balanced : Balanced pool out elsewhere)
    (permuted : out.Perm others) : Balanced pool others elsewhere where
  once := balanced.once
  old := balanced.old
  places := balanced.places
  owners id := by rw [balanced.owners id, permuted.count_eq id]

/-- No connection is assigned to a waiter that is still in the queue. -/
def Unassigned (queue : List ConnectionWaiter) : Prop :=
  ∀ waiter ∈ queue, waiter.mAssignedConnection = none

/-- A walk through the queue keeps the count: what it assigns is with the waiters that leave. -/
theorem Balanced.wakeLoop (walk : Walk) (balanced : Balanced walk.pool out elsewhere)
    (around : Surroundings) {queue : List ConnectionWaiter} (unassigned : Unassigned queue) :
    let sorted := Walk.wakeLoop around walk queue
    Balanced sorted.pool (assignedIds sorted.leaving ++ out) elsewhere := by
  induction queue generalizing walk out with
  | nil => exact balanced
  | cons waiter successor inductionHypothesis =>
      have later : Unassigned successor :=
        fun other member => unassigned other (List.mem_cons_of_mem _ member)
      have nothing : assignedId waiter = none := by
        rw [assignedId, unassigned waiter List.mem_cons_self, Option.map_none]
      have attempted := balanced.outcome (outcome_attempt around waiter.mConnectionFlags walk
        waiter.mWantPrimaryConnection waiter.mSql)
      unfold Walk.wakeLoop
      simp only at attempted ⊢
      generalize walk.attempt around waiter.mWantPrimaryConnection waiter.mSql
        waiter.mConnectionFlags = result at attempted ⊢
      split
      · have rest := inductionHypothesis walk balanced later
        simpa only [Walk.Sorted.leave, assignedIds, List.filterMap_cons, nothing] using rest
      · match result with
        | (after, .error exception) =>
            have rest := inductionHypothesis after attempted later
            simpa only [Walk.Sorted.leave, assignedIds, List.filterMap_cons, assignedId,
              unassigned waiter List.mem_cons_self, Option.map_none, answeredIds,
              List.nil_append] using rest
        | (after, .ok (some connection)) =>
            have rest := inductionHypothesis after attempted later
            refine rest.of_perm ?_
            exact List.perm_middle
        | (after, .ok none) =>
            have rest := inductionHypothesis after attempted later
            simp only
            split
            · exact attempted
            · exact rest

theorem Balanced.wake (balanced : Balanced pool out elsewhere) (around : Surroundings)
    (unassigned : Unassigned pool.mConnectionWaiterQueue) :
    Balanced (pool.wakeConnectionWaitersLocked around) out elsewhere := by
  have walked := Balanced.wakeLoop ⟨pool, false, false⟩ balanced around unassigned
  have same := SameQueue.wakeLoop around ⟨pool, false, false⟩ pool.mConnectionWaiterQueue
  refine ⟨walked.once, walked.old, walked.places, fun id => ?_⟩
  have owners := walked.owners id
  rw [same.unparked, List.count_append] at owners
  simp only [wakeConnectionWaitersLocked, assignedIds, List.filterMap_append,
    List.count_append] at owners ⊢
  exact owners.trans (by omega)

theorem Balanced.closeAvailableNonPrimary (balanced : Balanced pool out elsewhere) :
    Balanced pool.closeAvailableNonPrimaryConnectionsLocked out elsewhere where
  once := balanced.once
  old := balanced.old
  places id := by
    have places := balanced.places id
    simp only [closeAvailableNonPrimaryConnectionsLocked, SQLiteConnectionPool.closeConnections,
      availableIds, acquiredIds, List.map_append, List.append_nil,
      List.count_append] at places ⊢
    omega
  owners := balanced.owners

theorem Balanced.closeAvailable (balanced : Balanced pool out elsewhere) :
    Balanced pool.closeAvailableConnectionsLocked out elsewhere where
  once := balanced.once
  old := balanced.old
  places id := by
    have places := balanced.closeAvailableNonPrimary.places id
    simp only [closeAvailableConnectionsLocked, SQLiteConnectionPool.closeConnections,
      availableIds, acquiredIds, List.map_append, Option.toList_none, List.nil_append,
      List.count_append] at places ⊢
    omega
  owners := balanced.owners

theorem Balanced.closeExcess (balanced : Balanced pool out elsewhere) :
    Balanced pool.closeExcessConnectionsLocked out elsewhere where
  once := balanced.once
  old := balanced.old
  places id := by
    have places := balanced.places id
    have split := congrArg (fun connections => (connections.map (·.mConnectionId)).count id)
      (List.take_append_drop (pool.mMaxConnectionPoolSize - 1)
        pool.mAvailableNonPrimaryConnections)
    simp only [closeExcessConnectionsLocked, SQLiteConnectionPool.closeConnections,
      availableIds, acquiredIds, List.map_append, List.map_reverse, List.count_append,
      List.count_reverse] at places split ⊢
    omega
  owners := balanced.owners

theorem acquiredIds_mark (pool : SQLiteConnectionPool) (status : AcquiredConnectionStatus) :
    (pool.markAcquiredConnectionsLocked status).acquiredIds = pool.acquiredIds := by
  simp only [acquiredIds, markAcquiredConnectionsLocked, List.map_map]
  rfl

theorem Balanced.markAcquired (balanced : Balanced pool out elsewhere)
    (status : AcquiredConnectionStatus) :
    Balanced (pool.markAcquiredConnectionsLocked status) out elsewhere where
  once := balanced.once
  old := balanced.old
  places id := by
    rw [acquiredIds_mark]
    exact balanced.places id
  owners id := by
    rw [acquiredIds_mark]
    exact balanced.owners id

theorem count_filter_split (connections : List SQLiteConnection)
    (kept : SQLiteConnection → Bool) (id : Nat) :
    (connections.map (·.mConnectionId)).count id =
      ((connections.filter kept).map (·.mConnectionId)).count id +
        ((connections.filter (!kept ·)).map (·.mConnectionId)).count id := by
  have counted := ((List.filter_append_perm kept connections).map (·.mConnectionId)).count_eq id
  rw [List.map_append, List.count_append] at counted
  exact counted.symm

theorem Balanced.reconfigureAll (balanced : Balanced pool out elsewhere)
    (around : Surroundings) :
    Balanced (pool.reconfigureAllConnectionsLocked around) out elsewhere := by
  unfold reconfigureAllConnectionsLocked
  apply Balanced.markAcquired
  refine ⟨balanced.once, balanced.old, fun id => ?_, balanced.owners⟩
  have places := balanced.places id
  have split := count_filter_split
    (pool.mAvailablePrimaryConnection.toList ++ pool.mAvailableNonPrimaryConnections)
    (around.reconfigures ·.mConnectionId) id
  simp only [SQLiteConnectionPool.closeConnections, availableIds, acquiredIds,
    List.count_append, List.filter_append, List.map_append, Option.toList_filter]
    at places split ⊢
  omega

theorem Balanced.update (balanced : Balanced pool out elsewhere)
    (configuration : SQLiteDatabaseConfiguration) :
    Balanced (pool.updateParametersFrom configuration) out elsewhere :=
  ⟨balanced.once, balanced.old, balanced.places, balanced.owners⟩

theorem Balanced.putPrimary (connection : SQLiteConnection)
    (balanced : Balanced pool out (connection.mConnectionId :: elsewhere))
    (missing : pool.mAvailablePrimaryConnection = none) :
    Balanced { pool with mAvailablePrimaryConnection := some connection } out elsewhere where
  once := balanced.once
  old := balanced.old
  places id := by
    have places := balanced.places id
    simp only [availableIds, acquiredIds, missing, Option.toList, List.nil_append,
      List.cons_append, List.map_cons, List.count_cons] at places ⊢
    omega
  owners := balanced.owners

theorem Balanced.reopen (balanced : Balanced pool out elsewhere) (around : Surroundings)
    (configuration : SQLiteDatabaseConfiguration)
    (unassigned : Unassigned pool.mConnectionWaiterQueue) :
    Balanced (pool.reopen around configuration).1 out elsewhere := by
  have opened := balanced.openConnectionLocked around true
  have same : (pool.openConnectionLocked around true).1.mConnectionWaiterQueue =
      pool.mConnectionWaiterQueue := by
    simp only [SQLiteConnectionPool.openConnectionLocked]
    split <;> rfl
  unfold SQLiteConnectionPool.reopen
  generalize pool.openConnectionLocked around true = result at opened same ⊢
  cases result with | mk after connection =>
  cases connection with
  | error exception => exact opened
  | ok newPrimaryConnection =>
      have replaced := (opened.closeAvailable.markAcquired .discard).putPrimary
        newPrimaryConnection rfl
      refine (replaced.update configuration).wake around ?_
      rw [← same] at unassigned
      simp only [SQLiteConnectionPool.updateParametersFrom,
        SQLiteConnectionPool.markAcquiredConnectionsLocked,
        SQLiteConnectionPool.closeAvailableConnectionsLocked,
        SQLiteConnectionPool.closeAvailableNonPrimaryConnectionsLocked,
        SQLiteConnectionPool.closeConnections]
      exact unassigned

theorem Balanced.reconfigure (balanced : Balanced pool out elsewhere) (around : Surroundings)
    (configuration : SQLiteDatabaseConfiguration)
    (unassigned : Unassigned pool.mConnectionWaiterQueue) :
    Balanced (pool.reconfigure around configuration).1 out elsewhere := by
  simp only [SQLiteConnectionPool.reconfigure]
  split
  · exact balanced
  split
  · exact balanced
  split
  · exact balanced
  split
  · refine Balanced.reopen ?_ around configuration ?_
    · split
      · exact balanced.closeAvailable
      · exact balanced
    · split <;> exact unassigned
  · exact (((balanced.update configuration).closeExcess).reconfigureAll around).wake around
      unassigned

theorem Balanced.close (balanced : Balanced pool out elsewhere) (around : Surroundings)
    (unassigned : Unassigned pool.mConnectionWaiterQueue) :
    Balanced (pool.close around).1 out elsewhere := by
  simp only [SQLiteConnectionPool.close]
  split
  · exact balanced
  · have shut : Balanced { pool with mIsOpen := false } out elsewhere :=
      ⟨balanced.once, balanced.old, balanced.places, balanced.owners⟩
    exact shut.closeAvailable.wake around unassigned

theorem Balanced.found {connectionId : Nat}
    (balanced : Balanced pool (connectionId :: out) elsewhere) :
    ∃ entry, pool.acquiredEntry connectionId = some entry ∧
      entry.1.mConnectionId = connectionId := by
  have owned := balanced.owners connectionId
  rw [List.count_cons_self] at owned
  have present : connectionId ∈ pool.acquiredIds := List.count_pos_iff.mp (by omega)
  obtain ⟨entry, member, same⟩ := List.mem_map.mp present
  have some : (pool.acquiredEntry connectionId).isSome :=
    List.find?_isSome.mpr ⟨entry, member, decide_eq_true same⟩
  obtain ⟨first, found⟩ := Option.isSome_iff_exists.mp some
  have named := List.find?_some found
  exact ⟨first, found, of_decide_eq_true named⟩

/-- A connection that was out is taken from the acquired ones. -/
theorem Balanced.takeAcquired {connectionId : Nat}
    (balanced : Balanced pool (connectionId :: out) elsewhere) :
    Balanced (pool.removeAcquired connectionId) out (connectionId :: elsewhere) := by
  obtain ⟨entry, found, same⟩ := balanced.found
  have counted := fun id => ((perm_eraseP found).map (·.1.mConnectionId)).count_eq id
  refine ⟨balanced.once, balanced.old, fun id => ?_, fun id => ?_⟩
  · have places := balanced.places id
    have counted := counted id
    simp only [removeAcquired, availableIds, acquiredIds, List.map_cons, same, List.count_cons]
      at places counted ⊢
    omega
  · have owners := balanced.owners id
    have counted := counted id
    simp only [removeAcquired, acquiredIds, List.map_cons, same, List.count_cons]
      at owners counted ⊢
    omega

theorem Balanced.putNonPrimary {connection : SQLiteConnection}
    (balanced : Balanced pool out (connection.mConnectionId :: elsewhere)) :
    Balanced { pool with
        mAvailableNonPrimaryConnections :=
          pool.mAvailableNonPrimaryConnections ++ [connection] } out elsewhere where
  once := balanced.once
  old := balanced.old
  places id := by
    have places := balanced.places id
    simp only [availableIds, acquiredIds, List.map_append, List.map_cons, List.map_nil,
      List.count_append, List.count_cons, List.count_nil] at places ⊢
    omega
  owners := balanced.owners

theorem Balanced.releaseConnection {connectionId : Nat} (primaryOut : PrimaryOut pool)
    (balanced : Balanced pool (connectionId :: out) elsewhere) (around : Surroundings)
    (unassigned : Unassigned pool.mConnectionWaiterQueue) :
    Balanced (pool.releaseConnection around connectionId).1 out elsewhere := by
  obtain ⟨⟨connection, status⟩, found, rfl⟩ := balanced.found
  have taken := balanced.takeAcquired
  have released := released_releaseConnection around found
  generalize (pool.releaseConnection around connection.mConnectionId).1 = after at released ⊢
  cases released with
  | unnoticed => exact Balanced.closeConnections taken
  | closed => exact Balanced.wake (Balanced.closeConnections taken) around unassigned
  | primary _ isPrimary alive =>
      have missing := primaryOut _ (List.mem_of_find?_eq_some found) isPrimary alive
      exact Balanced.wake (taken.putPrimary connection missing) around unassigned
  | other => exact Balanced.wake taken.putNonPrimary around unassigned

theorem Balanced.forget (balanced : Balanced pool out elsewhere) (thread : Nat) :
    Balanced (pool.forget thread)
      (((pool.unparkedWaiter thread).bind assignedId).toList ++ out) elsewhere := by
  refine ⟨balanced.once, balanced.old, balanced.places, fun id => ?_⟩
  have owners := balanced.owners id
  simp only [SQLiteConnectionPool.forget, unparkedWaiter, acquiredIds, assignedIds] at owners ⊢
  cases found : pool.unparked.find? (·.mThread = thread) with
  | none =>
      have absent : ∀ waiter ∈ pool.unparked, ¬(decide (waiter.mThread = thread)) = true :=
        List.find?_eq_none.mp found
      rw [List.eraseP_of_forall_not absent]
      exact owners
  | some waiter =>
      have counted := ((perm_eraseP found).filterMap assignedId).count_eq id
      rw [List.filterMap_cons] at counted
      rw [Option.bind_some, List.count_append]
      cases assigned : assignedId waiter with
      | none =>
          simp only [assigned] at counted
          simp only [Option.toList_none, List.count_nil]
          omega
      | some connectionId =>
          simp only [assigned, List.count_cons] at counted
          simp only [Option.toList_some, List.count_cons, List.count_nil]
          omega

theorem Balanced.acquireConnection (balanced : Balanced pool out elsewhere)
    (around : Surroundings) (thread now : Nat) (sql : Option JString)
    (connectionFlags : BitVec 32) (canceled : Bool) :
    Keeps out elsewhere
      (pool.acquireConnection around thread now sql connectionFlags canceled) := by
  simp only [SQLiteConnectionPool.acquireConnection]
  split
  · exact balanced
  split
  · exact balanced
  have attempted := balanced.outcome (outcome_attempt around connectionFlags
    ⟨pool, false, false⟩
    (decide (connectionFlags &&& connectionFlagPrimaryConnectionAffinity ≠ 0)) sql)
  split
  · exact ⟨attempted.once, attempted.old, attempted.places, attempted.owners⟩
  · exact attempted

/-- A thread that stops waiting without a connection gives up the one assigned to it. -/
theorem Balanced.checkWaiter (balanced : Balanced pool out elsewhere) (thread : Nat) :
    let result := pool.checkWaiter thread
    let givenUp := pool.givenUp thread result.2
    Balanced result.1 (answeredIds result.2 ++ (givenUp ++ out)) elsewhere ∧
      (pool.mIsOpen = true → givenUp = []) := by
  have forgotten := balanced.forget thread
  simp only [SQLiteConnectionPool.checkWaiter, SQLiteConnectionPool.givenUp]
  split
  case isTrue shut => exact ⟨forgotten, fun isOpen => by simp [isOpen] at shut⟩
  case isFalse =>
    split
    case h_1 => exact ⟨balanced, fun _ => rfl⟩
    case h_2 waiter found =>
      rw [found, Option.bind_some] at forgotten
      split
      case h_1 connection assigned =>
        simp only [assignedId, assigned] at forgotten
        exact ⟨forgotten, fun _ => rfl⟩
      case h_2 exception assigned _ =>
        simp only [assignedId, assigned] at forgotten
        simp only [found, Option.bind_some, assignedId, assigned]
        exact ⟨forgotten, fun _ => rfl⟩
      case h_3 => exact ⟨balanced, fun _ => rfl⟩

theorem Balanced.cancelWaiter (balanced : Balanced pool out elsewhere) (around : Surroundings)
    (thread : Nat) (unassigned : Unassigned pool.mConnectionWaiterQueue) :
    Balanced (pool.cancelConnectionWaiter around thread).1 out elsewhere := by
  simp only [SQLiteConnectionPool.cancelConnectionWaiter]
  split
  · split <;> exact balanced
  · split
    case h_1 => exact balanced
    case h_2 waiter found =>
      have nothing := unassigned waiter (List.mem_of_find?_eq_some found)
      apply Balanced.wake
      · refine ⟨balanced.once, balanced.old, balanced.places, fun id => ?_⟩
        have owners := balanced.owners id
        simpa [acquiredIds, assignedIds, assignedId, nothing, List.filterMap_cons] using owners
      · exact fun other member => unassigned other (List.mem_of_mem_eraseP member)

end Balance

/-! ## Every run -/

/-- A closed pool has nothing to give and nobody in its queue. -/
structure Orderly (pool : SQLiteConnectionPool) : Prop where
  unassigned : Unassigned pool.mConnectionWaiterQueue
  empty : pool.mIsOpen = false → pool.availableIds = [] ∧ pool.mConnectionWaiterQueue = []

section Order

variable {pool : SQLiteConnectionPool}

open SQLiteConnectionPool

theorem Orderly.of_isOpen (unassigned : Unassigned pool.mConnectionWaiterQueue)
    (isOpen : pool.mIsOpen = true) : Orderly pool :=
  ⟨unassigned, fun shut => by cases isOpen.symm.trans shut⟩

theorem Unassigned.wake (unassigned : Unassigned pool.mConnectionWaiterQueue)
    (around : Surroundings) :
    Unassigned (pool.wakeConnectionWaitersLocked around).mConnectionWaiterQueue :=
  fun waiter member => unassigned waiter ((wakeLoop_staying around _ _).subset member)

theorem mIsOpen_wake (pool : SQLiteConnectionPool) (around : Surroundings) :
    (pool.wakeConnectionWaitersLocked around).mIsOpen = pool.mIsOpen :=
  (SameQueue.wakeLoop around ⟨pool, false, false⟩ pool.mConnectionWaiterQueue).mIsOpen

theorem mIsOpen_acquireConnection (pool : SQLiteConnectionPool) (around : Surroundings)
    (thread now : Nat) (sql : Option JString) (connectionFlags : BitVec 32) (canceled : Bool) :
    (pool.acquireConnection around thread now sql connectionFlags canceled).1.mIsOpen =
      pool.mIsOpen := by
  simp only [SQLiteConnectionPool.acquireConnection]
  split
  · rfl
  split
  · rfl
  have same := (outcome_attempt around connectionFlags ⟨pool, false, false⟩
    (decide (connectionFlags &&& connectionFlagPrimaryConnectionAffinity ≠ 0)) sql).sameQueue
  split <;> exact same.mIsOpen

theorem mIsOpen_checkWaiter (pool : SQLiteConnectionPool) (thread : Nat) :
    (pool.checkWaiter thread).1.mIsOpen = pool.mIsOpen := by
  simp only [SQLiteConnectionPool.checkWaiter]
  split
  · rfl
  split
  · rfl
  split <;> rfl

theorem mIsOpen_cancelWaiter (pool : SQLiteConnectionPool) (around : Surroundings)
    (thread : Nat) : (pool.cancelConnectionWaiter around thread).1.mIsOpen = pool.mIsOpen := by
  simp only [SQLiteConnectionPool.cancelConnectionWaiter]
  split
  · split <;> rfl
  · split
    · rfl
    · simp only [mIsOpen_wake]

theorem mIsOpen_releaseConnection {connectionId : Nat}
    {entry : SQLiteConnection × AcquiredConnectionStatus}
    (found : pool.acquiredEntry connectionId = some entry) (around : Surroundings) :
    (pool.releaseConnection around connectionId).1.mIsOpen = pool.mIsOpen := by
  obtain ⟨connection, status⟩ := entry
  have released := released_releaseConnection around found
  generalize (pool.releaseConnection around connectionId).1 = after at released ⊢
  cases released <;> simp only [mIsOpen_wake, removeAcquired, SQLiteConnectionPool.closeConnections]

theorem mIsOpen_reconfigure (pool : SQLiteConnectionPool) (around : Surroundings)
    (configuration : SQLiteDatabaseConfiguration) :
    (pool.reconfigure around configuration).1.mIsOpen = pool.mIsOpen := by
  have reconfigured := reconfigured_reconfigure pool around configuration
  generalize (pool.reconfigure around configuration).1 = after at reconfigured ⊢
  cases reconfigured with
  | refused | failed | failedEmpty => rfl
  | done _ before same _ => rw [mIsOpen_wake, same.mIsOpen]

theorem mIsOpen_close (pool : SQLiteConnectionPool) (around : Surroundings) :
    (pool.close around).1.mIsOpen = false := by
  simp only [SQLiteConnectionPool.close]
  split
  case isTrue shut => simpa using shut
  case isFalse => rw [mIsOpen_wake, (sameWaiters_closeAvailable _).mIsOpen]

/-- After waiters were woken the queue of a closed pool is empty. -/
theorem Orderly.wake (unassigned : Unassigned pool.mConnectionWaiterQueue)
    (empty : pool.mIsOpen = false → pool.availableIds = []) (around : Surroundings) :
    Orderly (pool.wakeConnectionWaitersLocked around) := by
  refine ⟨unassigned.wake around, fun shut => ?_⟩
  rw [mIsOpen_wake] at shut
  have walked := wakeLoop_closed around ⟨pool, false, false⟩ shut
    pool.mConnectionWaiterQueue
  unfold wakeConnectionWaitersLocked
  rw [walked]
  exact ⟨empty shut, rfl⟩

theorem mem_enqueue {waiter other : ConnectionWaiter} {queue : List ConnectionWaiter}
    (member : other ∈ enqueue waiter queue) : other = waiter ∨ other ∈ queue := by
  rw [enqueue, List.mem_append, List.mem_cons] at member
  rcases member with ahead | rfl | behind
  · exact .inr (List.takeWhile_subset _ ahead)
  · exact .inl rfl
  · exact .inr (List.mem_of_mem_drop behind)

theorem Orderly.acquireConnection (orderly : Orderly pool) (around : Surroundings)
    (thread now : Nat) (sql : Option JString) (connectionFlags : BitVec 32) (canceled : Bool) :
    Orderly (pool.acquireConnection around thread now sql connectionFlags canceled).1 := by
  simp only [SQLiteConnectionPool.acquireConnection]
  split
  case isTrue => exact orderly
  case isFalse isOpen =>
    have isOpen : pool.mIsOpen = true := by simpa using isOpen
    split
    · exact orderly
    have same := (outcome_attempt around connectionFlags ⟨pool, false, false⟩
      (decide (connectionFlags &&& connectionFlagPrimaryConnectionAffinity ≠ 0)) sql).sameQueue
    have stillOpen := same.mIsOpen.trans isOpen
    have queue := same.mConnectionWaiterQueue
    split
    · refine Orderly.of_isOpen (fun other member => ?_) stillOpen
      rcases mem_enqueue member with rfl | earlier
      · rfl
      · exact orderly.unassigned other (queue ▸ earlier)
    · refine Orderly.of_isOpen (fun other member => ?_) stillOpen
      exact orderly.unassigned other (queue ▸ member)

theorem Orderly.forget (orderly : Orderly pool) (thread : Nat) : Orderly (pool.forget thread) :=
  ⟨fun waiter member => orderly.unassigned waiter (List.mem_of_mem_eraseP member), fun shut =>
    ⟨(orderly.empty shut).1, by
      rw [SQLiteConnectionPool.forget, (orderly.empty shut).2, List.eraseP_nil]⟩⟩

theorem Orderly.checkWaiter (orderly : Orderly pool) (thread : Nat) :
    Orderly (pool.checkWaiter thread).1 := by
  simp only [SQLiteConnectionPool.checkWaiter]
  split
  · exact orderly.forget thread
  split
  · exact orderly
  split
  · exact orderly.forget thread
  · exact orderly.forget thread
  · exact orderly

theorem Orderly.cancelWaiter (orderly : Orderly pool) (around : Surroundings) (thread : Nat) :
    Orderly (pool.cancelConnectionWaiter around thread).1 := by
  simp only [SQLiteConnectionPool.cancelConnectionWaiter]
  split
  · split <;> exact orderly
  · split
    · exact orderly
    · apply Orderly.wake
      · exact fun other member => orderly.unassigned other (List.mem_of_mem_eraseP member)
      · exact fun shut => (orderly.empty shut).1

theorem Orderly.releaseConnection {connectionId : Nat}
    {entry : SQLiteConnection × AcquiredConnectionStatus} (orderly : Orderly pool)
    (found : pool.acquiredEntry connectionId = some entry) (around : Surroundings) :
    Orderly (pool.releaseConnection around connectionId).1 := by
  obtain ⟨connection, status⟩ := entry
  have released := released_releaseConnection around found
  generalize (pool.releaseConnection around connectionId).1 = after at released ⊢
  cases released with
  | unnoticed => exact ⟨orderly.unassigned, orderly.empty⟩
  | closed isOpen =>
      apply Orderly.wake
      · exact orderly.unassigned
      · exact fun shut => by cases isOpen.symm.trans shut
  | primary isOpen =>
      apply Orderly.wake
      · exact orderly.unassigned
      · exact fun shut => by cases isOpen.symm.trans shut
  | other isOpen =>
      apply Orderly.wake
      · exact orderly.unassigned
      · exact fun shut => by cases isOpen.symm.trans shut

theorem Orderly.reconfigure (orderly : Orderly pool) (around : Surroundings)
    (configuration : SQLiteDatabaseConfiguration) :
    Orderly (pool.reconfigure around configuration).1 := by
  have reconfigured := reconfigured_reconfigure pool around configuration
  generalize (pool.reconfigure around configuration).1 = after at reconfigured ⊢
  cases reconfigured with
  | refused => exact orderly
  | failed isOpen => exact Orderly.of_isOpen orderly.unassigned isOpen
  | failedEmpty isOpen => exact Orderly.of_isOpen orderly.unassigned isOpen
  | done isOpen before same _ =>
      apply Orderly.wake
      · exact same.mConnectionWaiterQueue ▸ orderly.unassigned
      · exact fun shut => by cases (same.mIsOpen.trans isOpen).symm.trans shut

theorem Orderly.close (orderly : Orderly pool) (around : Surroundings) :
    Orderly (pool.close around).1 := by
  simp only [SQLiteConnectionPool.close]
  split
  · exact orderly
  · apply Orderly.wake
    · exact orderly.unassigned
    · exact fun _ => rfl

end Order

namespace PoolSystem

/-- What holds between events: every connection is counted, the pool keeps to its size, and
connections are abandoned only when the pool is closed. -/
structure Sound (system : PoolSystem) : Prop where
  balanced : Balanced system.pool (system.heldIds ++ system.abandoned) system.leaked
  bounded : Bounded system.pool
  orderly : Orderly system.pool
  abandonedClosed : system.pool.mIsOpen = true → system.abandoned = []

variable {system : PoolSystem}

theorem perm_heldIds {thread connectionId : Nat} (holds : (thread, connectionId) ∈ system.held) :
    (system.heldIds ++ system.abandoned).Perm
      (connectionId :: ((system.held.erase (thread, connectionId)).map (·.2) ++
        system.abandoned)) := by
  have permuted := (List.perm_cons_erase holds).map fun entry : Nat × Nat => entry.2
  exact permuted.append_right system.abandoned

theorem heldIds_receive (system : PoolSystem) (thread : Nat)
    (result : SQLiteConnectionPool × PoolAnswer) :
    (system.receive thread result).1.heldIds = answeredIds result.2 ++ system.heldIds := by
  match result with
  | (_, .error _) => rfl
  | (_, .ok none) => rfl
  | (_, .ok (some _)) => rfl

/-- A method that hands out no connection leaves what the threads hold alone. -/
theorem Sound.finish (sound : system.Sound)
    (result : SQLiteConnectionPool × Except PoolException Unit)
    (balanced : Balanced result.1 (system.heldIds ++ system.abandoned) system.leaked)
    (bounded : Bounded result.1) (orderly : Orderly result.1)
    (stillOpen : result.1.mIsOpen = true → system.pool.mIsOpen = true) :
    (system.finish result).1.Sound :=
  ⟨balanced, bounded, orderly, fun isOpen => sound.abandonedClosed (stillOpen isOpen)⟩

theorem Sound.step (sound : system.Sound) (event : PoolEvent) : (system.step event).1.Sound := by
  have balanced := sound.balanced
  have bounded := sound.bounded
  have orderly := sound.orderly
  cases event with
  | acquireConnection thread sql connectionFlags canceled around =>
      simp only [PoolSystem.step]
      split
      case isTrue => exact sound
      case isFalse =>
        have kept := balanced.acquireConnection around thread system.uptimeMillis sql
          connectionFlags canceled
        have isOpen := mIsOpen_acquireConnection system.pool around thread system.uptimeMillis
          sql connectionFlags canceled
        refine ⟨?_, bounded.acquireConnection around thread system.uptimeMillis sql
          connectionFlags canceled, orderly.acquireConnection around thread system.uptimeMillis
          sql connectionFlags canceled, fun stillOpen => ?_⟩
        · rw [heldIds_receive, List.append_assoc]
          exact kept
        · exact sound.abandonedClosed (isOpen ▸ stillOpen)
  | checkWaiter thread =>
      simp only [PoolSystem.step]
      split
      case isFalse => exact sound
      case isTrue =>
        obtain ⟨kept, nothing⟩ := balanced.checkWaiter thread
        have isOpen := mIsOpen_checkWaiter system.pool thread
        refine ⟨?_, bounded.checkWaiter thread, orderly.checkWaiter thread, fun stillOpen => ?_⟩
        · rw [heldIds_receive]
          refine kept.of_perm ?_
          rw [List.append_assoc]
          exact List.Perm.append_left _ (List.perm_append_comm_assoc _ _ _)
        · have wasOpen := isOpen ▸ stillOpen
          exact List.append_eq_nil_iff.mpr ⟨nothing wasOpen, sound.abandonedClosed wasOpen⟩
  | cancelWaiter thread around =>
      exact sound.finish _ (balanced.cancelWaiter around thread orderly.unassigned)
        (bounded.cancelWaiter around thread) (orderly.cancelWaiter around thread)
        fun isOpen => mIsOpen_cancelWaiter system.pool around thread ▸ isOpen
  | releaseConnection thread connectionId around =>
      simp only [PoolSystem.step]
      split
      case isFalse => exact sound
      case isTrue holds =>
        have owned := balanced.of_perm (perm_heldIds holds)
        obtain ⟨entry, found, -⟩ := owned.found
        have released := owned.releaseConnection bounded.primaryOut around orderly.unassigned
        exact ⟨released, bounded.releaseConnection found around,
          orderly.releaseConnection found around, fun isOpen =>
            sound.abandonedClosed (mIsOpen_releaseConnection found around ▸ isOpen)⟩
  | reconfigure configuration around =>
      exact sound.finish _ (balanced.reconfigure around configuration orderly.unassigned)
        (bounded.reconfigure around configuration) (orderly.reconfigure around configuration)
        fun isOpen => mIsOpen_reconfigure system.pool around configuration ▸ isOpen
  | close around =>
      exact sound.finish _ (balanced.close around orderly.unassigned) (bounded.close around)
        (orderly.close around) fun isOpen => by
          cases (mIsOpen_close system.pool around).symm.trans isOpen
  | loseConnection thread connectionId =>
      simp only [PoolSystem.step]
      split
      case isFalse => exact sound
      case isTrue holds =>
        have owned := balanced.of_perm (perm_heldIds holds)
        obtain ⟨entry, found, -⟩ := owned.found
        have taken := owned.takeAcquired
        exact ⟨⟨taken.once, taken.old, taken.places, taken.owners⟩,
          (bounded.takeAcquired found).1.congr rfl rfl rfl rfl rfl rfl,
          ⟨orderly.unassigned, orderly.empty⟩, sound.abandonedClosed⟩
  | noticeLeak =>
      simp only [PoolSystem.step]
      split
      case isFalse => exact sound
      case isTrue =>
        exact ⟨⟨balanced.once, balanced.old, balanced.places, balanced.owners⟩,
          bounded.congr rfl rfl rfl rfl rfl rfl, ⟨orderly.unassigned, orderly.empty⟩,
          sound.abandonedClosed⟩
  | wakeAfterLeak around =>
      simp only [PoolSystem.step]
      split
      case isFalse => exact sound
      case isTrue =>
        exact ⟨balanced.wake around orderly.unassigned, bounded.wake around,
          Orderly.wake orderly.unassigned (fun shut => (orderly.empty shut).1) around,
          fun isOpen => sound.abandonedClosed (mIsOpen_wake system.pool around ▸ isOpen)⟩
  | elapse millis => exact ⟨balanced, bounded, orderly, sound.abandonedClosed⟩

/-- A pool that has just been opened has one primary connection, the first. -/
theorem sound_start {around : Surroundings} {hasCodec : Bool}
    {configuration : SQLiteDatabaseConfiguration} {pool : SQLiteConnectionPool}
    (opened : SQLiteConnectionPool.open around hasCodec configuration = .ok pool) :
    (start pool).Sound := by
  simp only [SQLiteConnectionPool.open, SQLiteConnectionPool.openConnectionLocked] at opened
  cases opens : around.opens
      (SQLiteConnectionPool.create hasCodec configuration).mNextConnectionId with
  | false => simp only [opens, Bool.false_eq_true, if_false, reduceCtorEq] at opened
  | true =>
      simp only [opens, if_true, Except.ok.injEq] at opened
      have nothing : Balanced (SQLiteConnectionPool.create hasCodec configuration) [] [] :=
        ⟨fun _ => Nat.zero_le 1, fun _ member => absurd member List.not_mem_nil, fun _ => rfl,
          fun _ => rfl⟩
      have first := nothing.opening.putPrimary ⟨0, true, false⟩ rfl
      have size := one_le_maxConnectionPoolSize hasCodec configuration
      rw [← opened]
      refine ⟨⟨first.once, first.old, first.places, first.owners⟩,
        ⟨rfl, fun connection member => ?_, fun _ member => absurd member List.not_mem_nil,
          Nat.le_refl 1, Nat.zero_le _⟩,
        ⟨fun _ member => absurd member List.not_mem_nil,
          fun shut => absurd shut.symm Bool.false_ne_true⟩, fun _ => rfl⟩
      cases member
      rfl

theorem sound_after {around : Surroundings} {hasCodec : Bool}
    {configuration : SQLiteDatabaseConfiguration} {pool : SQLiteConnectionPool}
    (opened : SQLiteConnectionPool.open around hasCodec configuration = .ok pool)
    (events : List PoolEvent) : (machine.after (start pool) events).Sound :=
  Machine.invariant Sound (fun _ event sound => sound.step event) (sound_start opened) events

/-- Whatever the threads do, each connection ever opened is in one place, and each acquired
one belongs to one thread or to one waiter, unless the pool was closed while it was
assigned. In a closed pool no connection is free and nobody is in the queue. -/
theorem places_after {around : Surroundings} {hasCodec : Bool}
    {configuration : SQLiteDatabaseConfiguration} {pool : SQLiteConnectionPool}
    (opened : SQLiteConnectionPool.open around hasCodec configuration = .ok pool)
    (events : List PoolEvent) :
    let system := machine.after (start pool) events
    system.pool.opened.Nodup ∧
      system.pool.opened.Perm (system.pool.availableIds ++ system.pool.acquiredIds ++
        system.pool.closed ++ system.leaked) ∧
      system.pool.acquiredIds.Perm (system.heldIds ++ system.abandoned ++
        assignedIds system.pool.unparked) ∧
      (system.pool.mIsOpen = true → system.abandoned = []) ∧
      (system.pool.mIsOpen = false →
        system.pool.availableIds = [] ∧ system.pool.mConnectionWaiterQueue = []) := by
  have sound := sound_after opened events
  refine ⟨List.nodup_iff_count_le_one.mpr sound.balanced.once, List.perm_iff_count.mpr fun id => ?_,
    List.perm_iff_count.mpr fun id => ?_, sound.abandonedClosed, sound.orderly.empty⟩
  · rw [sound.balanced.places id, List.count_append, List.count_append, List.count_append]
  · rw [sound.balanced.owners id, ← List.count_append]

/-- A configuration with write-ahead logging, and surroundings where nothing fails. -/
def walConfiguration : SQLiteDatabaseConfiguration := ⟨enableWriteAheadLogging, true⟩

def smoothly : Surroundings := ⟨fun _ => true, fun _ => true, fun _ _ => false⟩

/-- Such a pool when it has just been opened. -/
def walPool : SQLiteConnectionPool :=
  { SQLiteConnectionPool.create false walConfiguration with
    mNextConnectionId := 1
    opened := [0]
    mAvailablePrimaryConnection := some ⟨0, true, false⟩
    mIsOpen := true }

/-- Two threads hold a connection each and a third one is waiting when the pool is closed. -/
theorem places_after_close :
    let system := machine.after (start walPool)
      [.acquireConnection 1 none connectionFlagPrimaryConnectionAffinity false smoothly,
        .acquireConnection 2 none 0 false smoothly,
        .acquireConnection 3 none connectionFlagPrimaryConnectionAffinity false smoothly,
        .releaseConnection 1 0 smoothly, .close smoothly, .checkWaiter 3,
        .releaseConnection 2 1 smoothly]
    system.pool.opened.Perm (system.pool.availableIds ++ system.pool.acquiredIds ++
        system.pool.closed ++ system.leaked) ∧
      system.pool.opened = [0, 1] ∧ system.pool.closed = [1] ∧ system.abandoned = [0] :=
  ⟨(@places_after smoothly false walConfiguration walPool rfl _).2.1, by decide +kernel⟩

/-- Whatever the threads do, a pool has one primary connection at most and no more others than
its size, apart from acquired ones that will be closed on their return. -/
theorem size_after {around : Surroundings} {hasCodec : Bool}
    {configuration : SQLiteDatabaseConfiguration} {pool : SQLiteConnectionPool}
    (opened : SQLiteConnectionPool.open around hasCodec configuration = .ok pool)
    (events : List PoolEvent) :
    let after := (machine.after (start pool) events).pool
    livePrimaries after ≤ 1 ∧
      liveOthers after ≤ maxConnectionPoolSize after.hasCodec after.mConfiguration := by
  have bounded := (sound_after opened events).bounded
  exact ⟨bounded.onePrimary, bounded.size ▸ bounded.fewOthers⟩

/-- All five connections that a pool of four can have at a time: a primary one is opened beside
four others after the first primary one could not be reconfigured. -/
theorem size_after_reconfigure :
    let broken := { smoothly with reconfigures := fun _ => false }
    let after := (machine.after (start walPool)
      [.reconfigure ⟨enableWriteAheadLogging, false⟩ broken,
        .acquireConnection 1 none 0 false smoothly, .acquireConnection 2 none 0 false smoothly,
        .acquireConnection 3 none 0 false smoothly, .acquireConnection 4 none 0 false smoothly,
        .acquireConnection 5 none 0 false smoothly]).pool
    (livePrimaries after ≤ 1 ∧
      liveOthers after ≤ maxConnectionPoolSize after.hasCodec after.mConfiguration) ∧
      livePrimaries after = 1 ∧ liveOthers after = 4 :=
  ⟨@size_after smoothly false walConfiguration walPool rfl _,
    by decide +kernel⟩

end PoolSystem

end Openpyn.Database
