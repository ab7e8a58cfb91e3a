import Mathlib.Data.List.Perm.Basic
import Openpyn.Database.SQLiteConnectionPool

/-!
# The size of a connection pool

A connection may be primary or not, and one that is acquired may be marked to be discarded.
Of those that can go back to the pool, one is primary at most, and the others are no
more than the size of the pool.
-/

namespace Openpyn.Database

open Foundation Java

/-- The connection may go back to the pool as its primary one. -/
def isLivePrimary (entry : SQLiteConnection × AcquiredConnectionStatus) : Bool :=
  entry.1.mIsPrimaryConnection && entry.2 != .discard

/-- The connection may go back to the pool as another one. -/
def isLiveOther (entry : SQLiteConnection × AcquiredConnectionStatus) : Bool :=
  !entry.1.mIsPrimaryConnection && entry.2 != .discard

def livePrimaries (pool : SQLiteConnectionPool) : Nat :=
  pool.mAvailablePrimaryConnection.toList.length + pool.mAcquiredConnections.countP isLivePrimary

def liveOthers (pool : SQLiteConnectionPool) : Nat :=
  pool.mAvailableNonPrimaryConnections.length + pool.mAcquiredConnections.countP isLiveOther

/-- There is one primary connection at most, and no more others than the size of the pool. -/
structure Bounded (pool : SQLiteConnectionPool) : Prop where
  size : pool.mMaxConnectionPoolSize = maxConnectionPoolSize pool.hasCodec pool.mConfiguration
  primaries : ∀ connection ∈ pool.mAvailablePrimaryConnection, connection.mIsPrimaryConnection
  others : ∀ connection ∈ pool.mAvailableNonPrimaryConnections,
    connection.mIsPrimaryConnection = false
  onePrimary : livePrimaries pool ≤ 1
  fewOthers : liveOthers pool ≤ pool.mMaxConnectionPoolSize

section Bounds

variable {pool : SQLiteConnectionPool}

open SQLiteConnectionPool

/-- No primary connection is available while one is acquired that may return to the pool. -/
def PrimaryOut (pool : SQLiteConnectionPool) : Prop :=
  ∀ entry ∈ pool.mAcquiredConnections, entry.1.mIsPrimaryConnection → entry.2 ≠ .discard →
    pool.mAvailablePrimaryConnection = none

theorem one_le_maxConnectionPoolSize (hasCodec : Bool)
    (configuration : SQLiteDatabaseConfiguration) :
    1 ≤ maxConnectionPoolSize hasCodec configuration := by
  unfold maxConnectionPoolSize walConnectionPoolSize
  split <;> omega

theorem Bounded.primaryOut (bounded : Bounded pool) : PrimaryOut pool := by
  intro entry member isPrimary alive
  have live : isLivePrimary entry = true := by simp [isLivePrimary, isPrimary, alive]
  have counted := List.countP_pos_iff.mpr ⟨entry, member, live⟩
  have onePrimary := bounded.onePrimary
  unfold livePrimaries at onePrimary
  cases present : pool.mAvailablePrimaryConnection with
  | none => rfl
  | some connection =>
      simp only [present, Option.toList_some, List.length_singleton] at onePrimary
      omega

theorem livePrimaries_finishAcquire (connection : SQLiteConnection)
    (connectionFlags : BitVec 32) :
    livePrimaries (pool.finishAcquireConnectionLocked connection connectionFlags).1 =
      livePrimaries pool + if connection.mIsPrimaryConnection then 1 else 0 := by
  simp [livePrimaries, finishAcquireConnectionLocked, List.countP_append, List.countP_cons,
    isLivePrimary, Nat.add_assoc]

theorem liveOthers_finishAcquire (connection : SQLiteConnection)
    (connectionFlags : BitVec 32) :
    liveOthers (pool.finishAcquireConnectionLocked connection connectionFlags).1 =
      liveOthers pool + if connection.mIsPrimaryConnection then 0 else 1 := by
  cases kind : connection.mIsPrimaryConnection <;>
    simp [liveOthers, finishAcquireConnectionLocked, List.countP_append, isLiveOther, kind,
      Nat.add_assoc]

theorem Bounded.outcome {result : SQLiteConnectionPool × PoolAnswer} (bounded : Bounded pool)
    (outcome : Outcome pool result) : Bounded result.1 := by
  have same := outcome.sameQueue
  have onePrimary := bounded.onePrimary
  have fewOthers := bounded.fewOthers
  cases outcome with
  | nothing => exact bounded
  | failed =>
      exact ⟨bounded.size, bounded.primaries, bounded.others, onePrimary, fewOthers⟩
  | primary connection connectionFlags present =>
      have isPrimary := bounded.primaries connection present
      refine ⟨bounded.size, nofun, bounded.others, ?_, ?_⟩
      · rw [livePrimaries_finishAcquire, isPrimary]
        simpa [livePrimaries, present, Nat.add_comm] using onePrimary
      · rw [liveOthers_finishAcquire, isPrimary]
        exact fewOthers
  | nonPrimary index connection connectionFlags present =>
      obtain ⟨bound, rfl⟩ := List.getElem?_eq_some_iff.mp present
      have isOther := bounded.others _ (List.getElem_mem bound)
      refine ⟨bounded.size, bounded.primaries,
        fun other member => bounded.others other (List.mem_of_mem_eraseIdx member), ?_, ?_⟩
      · rw [livePrimaries_finishAcquire, isOther]
        exact onePrimary
      · rw [liveOthers_finishAcquire, isOther]
        simp only [liveOthers, List.length_eraseIdx_of_lt bound, finishAcquireConnectionLocked,
          Bool.false_eq_true, if_false] at fewOthers ⊢
        omega
  | opened primaryConnection connectionFlags alone room =>
      refine ⟨bounded.size, bounded.primaries, bounded.others, ?_, ?_⟩
      · rw [livePrimaries_finishAcquire]
        cases primaryConnection with
        | false => exact onePrimary
        | true =>
            obtain ⟨missing, absent⟩ := alone rfl
            have none : pool.mAcquiredConnections.countP isLivePrimary = 0 :=
              List.countP_eq_zero.mpr fun entry member => by
                simp [isLivePrimary, absent entry member]
            simp [livePrimaries, missing, none]
      · rw [liveOthers_finishAcquire]
        cases primaryConnection with
        | true => exact fewOthers
        | false =>
            obtain ⟨empty, room⟩ := room rfl
            have counted := List.countP_le_length (p := isLiveOther)
              (l := pool.mAcquiredConnections)
            simp only [liveOthers, empty, List.length_nil, finishAcquireConnectionLocked,
              Bool.false_eq_true, if_false]
            omega

/-- What a pool is bounded by are its connections, its size and its configuration. -/
theorem Bounded.congr {other : SQLiteConnectionPool} (bounded : Bounded pool)
    (hasCodec : other.hasCodec = pool.hasCodec)
    (mConfiguration : other.mConfiguration = pool.mConfiguration)
    (mMaxConnectionPoolSize : other.mMaxConnectionPoolSize = pool.mMaxConnectionPoolSize)
    (primary : other.mAvailablePrimaryConnection = pool.mAvailablePrimaryConnection)
    (others : other.mAvailableNonPrimaryConnections = pool.mAvailableNonPrimaryConnections)
    (acquired : other.mAcquiredConnections = pool.mAcquiredConnections) : Bounded other := by
  refine ⟨?_, ?_, ?_, ?_, ?_⟩
  · rw [mMaxConnectionPoolSize, hasCodec, mConfiguration, bounded.size]
  · rw [primary]
    exact bounded.primaries
  · rw [others]
    exact bounded.others
  · rw [livePrimaries, primary, acquired]
    exact bounded.onePrimary
  · rw [liveOthers, others, acquired, mMaxConnectionPoolSize]
    exact bounded.fewOthers

theorem Bounded.wake (bounded : Bounded pool) (around : Surroundings) :
    Bounded (pool.wakeConnectionWaitersLocked around) :=
  (wakeLoop_invariant Bounded (fun _ _ bounded outcome => bounded.outcome outcome) around
    ⟨pool, false, false⟩ bounded pool.mConnectionWaiterQueue).congr
    rfl rfl rfl rfl rfl rfl

theorem Bounded.closeAvailable (bounded : Bounded pool) :
    Bounded pool.closeAvailableConnectionsLocked := by
  refine ⟨bounded.size, nofun, nofun, ?_, ?_⟩
  · exact Nat.le_trans (Nat.add_le_add_right (Nat.zero_le _) _) bounded.onePrimary
  · exact Nat.le_trans (Nat.add_le_add_right (Nat.zero_le _) _) bounded.fewOthers

theorem perm_eraseP {α : Type} {selects : α → Bool} {items : List α} {item : α}
    (found : items.find? selects = some item) : items.Perm (item :: items.eraseP selects) := by
  induction items with
  | nil => cases found
  | cons first rest inductionHypothesis =>
      cases selected : selects first with
      | true =>
          rw [List.find?_cons_of_pos selected] at found
          rw [List.eraseP_cons_of_pos selected, Option.some.inj found]
      | false =>
          rw [List.find?_cons_of_neg (by simp [selected])] at found
          rw [List.eraseP_cons_of_neg (by simp [selected])]
          exact ((inductionHypothesis found).cons first).trans (List.Perm.swap _ _ _)

theorem countP_mark (counts : SQLiteConnection × AcquiredConnectionStatus → Bool)
    (acquired : List (SQLiteConnection × AcquiredConnectionStatus))
    (status : AcquiredConnectionStatus)
    (dies : ∀ entry, counts (entry.1, if entry.2 = .discard then entry.2 else status) = true →
      counts entry = true) :
    (acquired.map fun (connection, oldStatus) =>
      (connection, if oldStatus = .discard then oldStatus else status)).countP counts ≤
        acquired.countP counts := by
  rw [List.countP_map]
  exact List.countP_mono_left fun entry _ => dies entry

theorem Bounded.markAcquired (bounded : Bounded pool) (status : AcquiredConnectionStatus) :
    Bounded (pool.markAcquiredConnectionsLocked status) := by
  have primaries := countP_mark isLivePrimary pool.mAcquiredConnections status
    fun (connection, oldStatus) live => by
      cases oldStatus <;> simp_all [isLivePrimary]
  have others := countP_mark isLiveOther pool.mAcquiredConnections status
    fun (connection, oldStatus) live => by
      cases oldStatus <;> simp_all [isLiveOther]
  exact ⟨bounded.size, bounded.primaries, bounded.others,
    Nat.le_trans (Nat.add_le_add_left primaries _) bounded.onePrimary,
    Nat.le_trans (Nat.add_le_add_left others _) bounded.fewOthers⟩

theorem Bounded.reconfigureAll (bounded : Bounded pool) (around : Surroundings) :
    Bounded (pool.reconfigureAllConnectionsLocked around) := by
  unfold reconfigureAllConnectionsLocked
  apply Bounded.markAcquired
  have onePrimary := bounded.onePrimary
  have fewOthers := bounded.fewOthers
  refine ⟨bounded.size, ?_, ?_, ?_, ?_⟩
  · exact fun connection member => bounded.primaries connection
      (Option.mem_filter_iff.mp member).1
  · exact fun connection member => bounded.others connection (List.mem_filter.mp member).1
  · have fewer := List.length_filter_le (around.reconfigures ·.mConnectionId)
      pool.mAvailablePrimaryConnection.toList
    simp only [livePrimaries, Option.toList_filter] at onePrimary ⊢
    exact Nat.le_trans (Nat.add_le_add_right fewer _) onePrimary
  · have fewer := List.length_filter_le (around.reconfigures ·.mConnectionId)
      pool.mAvailableNonPrimaryConnections
    simp only [liveOthers] at fewOthers ⊢
    exact Nat.le_trans (Nat.add_le_add_right fewer _) fewOthers

theorem Bounded.reopen (bounded : Bounded pool) (around : Surroundings)
    (configuration : SQLiteDatabaseConfiguration) :
    Bounded (pool.reopen around configuration).1 := by
  unfold SQLiteConnectionPool.reopen SQLiteConnectionPool.openConnectionLocked
  simp only
  cases around.opens pool.mNextConnectionId with
  | false => exact bounded.congr rfl rfl rfl rfl rfl rfl
  | true =>
      -- Whatever is acquired will be discarded.
      have dead : ∀ counts : SQLiteConnection × AcquiredConnectionStatus → Bool,
          (∀ connection, counts (connection, .discard) = false) →
          (pool.mAcquiredConnections.map fun (connection, oldStatus) =>
            (connection, if oldStatus = .discard then oldStatus else .discard)).countP counts =
              0 := by
        intro counts never
        rw [List.countP_map, List.countP_eq_zero]
        rintro ⟨connection, oldStatus⟩ -
        cases oldStatus <;> simp [never connection]
      apply Bounded.wake
      refine ⟨rfl, fun connection member => ?_, nofun, ?_, ?_⟩
      · cases member
        rfl
      · exact Nat.le_of_eq (congrArg (1 + ·) (dead isLivePrimary fun _ => by simp [isLivePrimary]))
      · refine Nat.le_trans (Nat.le_of_eq ?_)
          (Nat.zero_le (maxConnectionPoolSize pool.hasCodec configuration))
        exact congrArg (0 + ·) (dead isLiveOther fun _ => by simp [isLiveOther])

theorem Bounded.reconfigure (bounded : Bounded pool) (around : Surroundings)
    (configuration : SQLiteDatabaseConfiguration) :
    Bounded (pool.reconfigure around configuration).1 := by
  simp only [SQLiteConnectionPool.reconfigure]
  split
  · exact bounded
  split
  · exact bounded
  split
  · exact bounded
  split
  · refine Bounded.reopen ?_ around configuration
    split
    · exact bounded.closeAvailable
    · exact bounded
  case isFalse same =>
    have size : maxConnectionPoolSize pool.hasCodec configuration =
        pool.mMaxConnectionPoolSize := by
      rw [bounded.size, maxConnectionPoolSize, maxConnectionPoolSize, not_not.mp same]
    apply Bounded.wake
    apply Bounded.reconfigureAll
    refine ⟨rfl, bounded.primaries, fun connection member =>
      bounded.others connection (List.mem_of_mem_take member), bounded.onePrimary, ?_⟩
    have fewOthers := bounded.fewOthers
    simp only [liveOthers, closeExcessConnectionsLocked, SQLiteConnectionPool.closeConnections,
      updateParametersFrom, size] at fewOthers ⊢
    exact Nat.le_trans (Nat.add_le_add_right (List.length_take_le' _ _) _) fewOthers

theorem Bounded.close (bounded : Bounded pool) (around : Surroundings) :
    Bounded (pool.close around).1 := by
  simp only [SQLiteConnectionPool.close]
  split
  · exact bounded
  · apply Bounded.wake
    apply Bounded.closeAvailable
    exact bounded.congr rfl rfl rfl rfl rfl rfl

/-- The pool without an acquired connection. -/
theorem Bounded.takeAcquired {connectionId : Nat}
    {entry : SQLiteConnection × AcquiredConnectionStatus} (bounded : Bounded pool)
    (found : pool.acquiredEntry connectionId = some entry) :
    let taken := pool.removeAcquired connectionId
    Bounded taken ∧ livePrimaries taken + (if isLivePrimary entry then 1 else 0) ≤ 1 ∧
      liveOthers taken + (if isLiveOther entry then 1 else 0) ≤
        pool.mMaxConnectionPoolSize := by
  have counted := fun counts => (perm_eraseP found).countP_eq counts
  have onePrimary : livePrimaries (pool.removeAcquired connectionId) +
      (if isLivePrimary entry then 1 else 0) ≤ 1 := by
    have primaries := counted isLivePrimary
    have onePrimary := bounded.onePrimary
    rw [List.countP_cons] at primaries
    simp only [livePrimaries, removeAcquired] at onePrimary ⊢
    omega
  have fewOthers : liveOthers (pool.removeAcquired connectionId) +
      (if isLiveOther entry then 1 else 0) ≤ pool.mMaxConnectionPoolSize := by
    have others := counted isLiveOther
    have fewOthers := bounded.fewOthers
    rw [List.countP_cons] at others
    simp only [liveOthers, removeAcquired] at fewOthers ⊢
    omega
  exact ⟨⟨bounded.size, bounded.primaries, bounded.others,
    Nat.le_trans (Nat.le_add_right _ _) onePrimary,
    Nat.le_trans (Nat.le_add_right _ _) fewOthers⟩, onePrimary, fewOthers⟩

theorem Bounded.releaseConnection {connectionId : Nat}
    {entry : SQLiteConnection × AcquiredConnectionStatus} (bounded : Bounded pool)
    (found : pool.acquiredEntry connectionId = some entry) (around : Surroundings) :
    Bounded (pool.releaseConnection around connectionId).1 := by
  obtain ⟨connection, status⟩ := entry
  obtain ⟨taken, onePrimary, fewOthers⟩ := bounded.takeAcquired found
  have primaryOut := bounded.primaryOut
  have released := released_releaseConnection around found
  generalize (pool.releaseConnection around connectionId).1 = after at released ⊢
  cases released with
  | unnoticed => exact taken.congr rfl rfl rfl rfl rfl rfl
  | closed =>
      apply Bounded.wake
      exact taken.congr rfl rfl rfl rfl rfl rfl
  | primary _ isPrimary alive =>
      have missing := primaryOut _ (List.mem_of_find?_eq_some found) isPrimary alive
      apply Bounded.wake
      refine ⟨taken.size, fun other member => ?_, taken.others, ?_, taken.fewOthers⟩
      · cases member
        exact isPrimary
      · simp only [livePrimaries, removeAcquired, missing, isLivePrimary, isPrimary, alive,
          bne_iff_ne, ne_eq, not_false_eq_true, Bool.true_and, if_true,
          Option.toList_none, Option.toList_some, List.length_nil, List.length_singleton]
          at onePrimary ⊢
        omega
  | other _ isOther alive =>
      apply Bounded.wake
      refine ⟨taken.size, taken.primaries, fun other member => ?_, taken.onePrimary, ?_⟩
      · rcases List.mem_append.mp member with earlier | now
        · exact bounded.others other earlier
        · rw [List.mem_singleton.mp now]
          exact isOther
      · simp only [liveOthers, removeAcquired, isLiveOther, isOther, alive, bne_iff_ne, ne_eq,
          not_false_eq_true, Bool.not_false, Bool.true_and, if_true, List.length_append,
          List.length_singleton] at fewOthers ⊢
        omega

theorem Bounded.acquireConnection (bounded : Bounded pool) (around : Surroundings)
    (thread now : Nat) (sql : Option JString) (connectionFlags : BitVec 32) (canceled : Bool) :
    Bounded (pool.acquireConnection around thread now sql connectionFlags canceled).1 := by
  simp only [SQLiteConnectionPool.acquireConnection]
  split
  · exact bounded
  split
  · exact bounded
  have attempted := bounded.outcome (outcome_attempt around connectionFlags
    ⟨pool, false, false⟩
    (decide (connectionFlags &&& connectionFlagPrimaryConnectionAffinity ≠ 0)) sql)
  split
  · exact attempted.congr rfl rfl rfl rfl rfl rfl
  · exact attempted

theorem Bounded.checkWaiter (bounded : Bounded pool) (thread : Nat) :
    Bounded (pool.checkWaiter thread).1 := by
  have forgotten : Bounded (pool.forget thread) := bounded.congr rfl rfl rfl rfl rfl rfl
  simp only [SQLiteConnectionPool.checkWaiter]
  split
  · exact forgotten
  split
  · exact bounded
  split
  · exact forgotten
  · exact forgotten
  · exact bounded

theorem Bounded.cancelWaiter (bounded : Bounded pool) (around : Surroundings) (thread : Nat) :
    Bounded (pool.cancelConnectionWaiter around thread).1 := by
  simp only [SQLiteConnectionPool.cancelConnectionWaiter]
  split
  · split <;> exact bounded
  · split
    · exact bounded
    · apply Bounded.wake
      exact bounded.congr rfl rfl rfl rfl rfl rfl

end Bounds

end Openpyn.Database
