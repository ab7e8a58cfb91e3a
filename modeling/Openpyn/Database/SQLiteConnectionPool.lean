import Openpyn.Foundation.Machine
import Openpyn.Java.Text

/-!
# The connection pool of a database

A pool keeps one primary connection and, with write-ahead logging, a few others. A
request that finds none free waits in a queue. Every method holds the lock of the pool, so
what threads do is a sequence of steps. Opening a connection and reconfiguring one
may fail; each step is told how they end. Log messages and timeouts are left out.
-/

namespace Openpyn.Database

open Foundation Java

/-! ## Data -/

/-- The exceptions that a pool raises or hands on. -/
inductive PoolException where
  | illegalStateException (message : JString)
  | nullPointerException
  | operationCanceledException
  /-- Opening the connection with this number failed. -/
  | sqliteException (connectionId : Nat)
deriving DecidableEq

/-- A connection, under the number it was opened with. -/
structure SQLiteConnection where
  mConnectionId : Nat
  mIsPrimaryConnection : Bool
  mOnlyAllowReadOnlyOperations : Bool
deriving DecidableEq

/-- What is done with an acquired connection when it returns. -/
inductive AcquiredConnectionStatus where
  | normal
  | reconfigure
  | discard
deriving DecidableEq

/-- The parameters of a database that the pool looks at. -/
structure SQLiteDatabaseConfiguration where
  openFlags : BitVec 32
  foreignKeyConstraintsEnabled : Bool
deriving DecidableEq

/-- A request that waits. Its thread waits for nothing else. -/
structure ConnectionWaiter where
  mThread : Nat
  mStartTime : Nat
  mPriority : Nat
  mWantPrimaryConnection : Bool
  mSql : Option JString
  mConnectionFlags : BitVec 32
  mAssignedConnection : Option SQLiteConnection
  mException : Option PoolException
deriving DecidableEq

/-- How the calls of a step that leave the pool end. -/
structure Surroundings where
  opens : Nat → Bool
  reconfigures : Nat → Bool
  isPreparedStatementInCache : Nat → JString → Bool

/-- A pool. The numbers of the connections it has opened and closed are kept, and the
waiters that have left the queue while their threads have not looked yet. -/
structure SQLiteConnectionPool where
  hasCodec : Bool
  mConfiguration : SQLiteDatabaseConfiguration
  mMaxConnectionPoolSize : Nat
  mIsOpen : Bool
  mNextConnectionId : Nat
  mConnectionLeaked : Bool
  mConnectionWaiterQueue : List ConnectionWaiter
  mAvailableNonPrimaryConnections : List SQLiteConnection
  mAvailablePrimaryConnection : Option SQLiteConnection
  mAcquiredConnections : List (SQLiteConnection × AcquiredConnectionStatus)
  unparked : List ConnectionWaiter
  opened : List Nat
  closed : List Nat
deriving DecidableEq

/-- The answer to a request: an exception, a connection, or neither. -/
abbrev PoolAnswer := Except PoolException (Option SQLiteConnection)

def connectionFlagReadOnly : BitVec 32 := 1
def connectionFlagPrimaryConnectionAffinity : BitVec 32 := 1 <<< 1
def connectionFlagInteractive : BitVec 32 := 1 <<< 2
def enableWriteAheadLogging : BitVec 32 := 0x20000000

/-- `SQLiteGlobal.getWALConnectionPoolSize`. -/
def walConnectionPoolSize : Nat := 4

def getPriority (connectionFlags : BitVec 32) : Nat :=
  if connectionFlags &&& connectionFlagInteractive ≠ 0 then 1 else 0

/-- The size of a pool with this configuration: `setMaxConnectionPoolSizeLocked`. -/
def maxConnectionPoolSize (hasCodec : Bool) (configuration : SQLiteDatabaseConfiguration) : Nat :=
  if !hasCodec ∧ configuration.openFlags &&& enableWriteAheadLogging ≠ 0 then
    walConnectionPoolSize
  else 1

def closedMessage : JString :=
  lit "Cannot perform this operation because the connection pool has been closed."

def notAcquiredMessage : JString :=
  lit ("Cannot perform this operation because the specified connection was not acquired " ++
    "from this pool or has already been released.")

def walModeMessage : JString :=
  lit ("Write Ahead Logging (WAL) mode cannot be enabled or disabled while there are " ++
    "transactions in progress.  Finish all transactions and release all active database " ++
    "connections first.")

def foreignKeyMessage : JString :=
  lit ("Foreign Key Constraints cannot be enabled or disabled while there are transactions in " ++
    "progress.  Finish all transactions and release all active database connections first.")

namespace SQLiteConnectionPool

/-! ## Opening and closing connections -/

/-- Connections are closed; `closeConnectionAndLogExceptionsLocked` swallows failures. -/
def closeConnections (pool : SQLiteConnectionPool) (connections : List SQLiteConnection) :
    SQLiteConnectionPool :=
  { pool with closed := pool.closed ++ connections.map (·.mConnectionId) }

def openConnectionLocked (pool : SQLiteConnectionPool) (around : Surroundings)
    (primaryConnection : Bool) :
    SQLiteConnectionPool × Except PoolException SQLiteConnection :=
  let connectionId := pool.mNextConnectionId
  if around.opens connectionId then
    ({ pool with
        mNextConnectionId := connectionId + 1
        opened := pool.opened ++ [connectionId] },
      .ok ⟨connectionId, primaryConnection, false⟩)
  else
    ({ pool with mNextConnectionId := connectionId + 1 }, .error (.sqliteException connectionId))

def closeAvailableNonPrimaryConnectionsLocked (pool : SQLiteConnectionPool) :
    SQLiteConnectionPool :=
  { pool.closeConnections pool.mAvailableNonPrimaryConnections with
      mAvailableNonPrimaryConnections := [] }

def closeAvailableConnectionsLocked (pool : SQLiteConnectionPool) : SQLiteConnectionPool :=
  let pool := pool.closeAvailableNonPrimaryConnectionsLocked
  { pool.closeConnections pool.mAvailablePrimaryConnection.toList with
      mAvailablePrimaryConnection := none }

/-- The last connections go, until the rest and a primary one fit into the pool. -/
def closeExcessConnectionsLocked (pool : SQLiteConnectionPool) : SQLiteConnectionPool :=
  let kept := pool.mMaxConnectionPoolSize - 1
  { pool.closeConnections (pool.mAvailableNonPrimaryConnections.drop kept).reverse with
      mAvailableNonPrimaryConnections := pool.mAvailableNonPrimaryConnections.take kept }

/-! ## Acquiring -/

/-- The connection goes to the caller. -/
def finishAcquireConnectionLocked (pool : SQLiteConnectionPool) (connection : SQLiteConnection)
    (connectionFlags : BitVec 32) : SQLiteConnectionPool × PoolAnswer :=
  let readOnly := decide (connectionFlags &&& connectionFlagReadOnly ≠ 0)
  let connection := { connection with mOnlyAllowReadOnlyOperations := readOnly }
  ({ pool with
      mAcquiredConnections := pool.mAcquiredConnections ++ [(connection, .normal)] },
    .ok (some connection))

/-- The end of both `tryAcquire` methods: a new connection is opened for the request. -/
def acquireOpened (pool : SQLiteConnectionPool) (around : Surroundings) (primaryConnection : Bool)
    (connectionFlags : BitVec 32) : SQLiteConnectionPool × PoolAnswer :=
  match pool.openConnectionLocked around primaryConnection with
  | (pool, .error exception) => (pool, .error exception)
  | (pool, .ok connection) => pool.finishAcquireConnectionLocked connection connectionFlags

def tryAcquirePrimaryConnectionLocked (pool : SQLiteConnectionPool) (around : Surroundings)
    (connectionFlags : BitVec 32) : SQLiteConnectionPool × PoolAnswer :=
  match pool.mAvailablePrimaryConnection with
  | some connection =>
      { pool with mAvailablePrimaryConnection := none }
        |>.finishAcquireConnectionLocked connection connectionFlags
  | none =>
      if pool.mAcquiredConnections.any (·.1.mIsPrimaryConnection) then (pool, .ok none)
      else pool.acquireOpened around true connectionFlags

/-- The index of the available connection to take: one that has the statement in its cache, if
there is a choice, else the last. -/
def preferredIndex (around : Surroundings) (available : List SQLiteConnection)
    (sql : Option JString) : Nat :=
  let found := sql.bind fun sql => available.findIdx? fun connection =>
    around.isPreparedStatementInCache connection.mConnectionId sql
  if 1 < available.length then found.getD (available.length - 1) else available.length - 1

def tryAcquireNonPrimaryConnectionLocked (pool : SQLiteConnectionPool) (around : Surroundings)
    (sql : Option JString) (connectionFlags : BitVec 32) : SQLiteConnectionPool × PoolAnswer :=
  let available := pool.mAvailableNonPrimaryConnections
  let index := preferredIndex around available sql
  match available[index]? with
  | some connection =>
      { pool with mAvailableNonPrimaryConnections := available.eraseIdx index }
        |>.finishAcquireConnectionLocked connection connectionFlags
  | none =>
      let openConnections :=
        pool.mAcquiredConnections.length + pool.mAvailablePrimaryConnection.toList.length
      if pool.mMaxConnectionPoolSize ≤ openConnections then (pool, .ok none)
      else pool.acquireOpened around false connectionFlags

end SQLiteConnectionPool

/-! ## Waiting -/

/-- No connection and no exception. -/
def givesNone : PoolAnswer → Bool
  | .ok none => true
  | _ => false

/-- A pool, and what a walk through its queue has found out so far. -/
structure Walk where
  pool : SQLiteConnectionPool
  primaryConnectionNotAvailable : Bool
  nonPrimaryConnectionNotAvailable : Bool

namespace Walk

/-- A connection other than the primary one is tried, unless the primary one is wanted or it is
known to fail. -/
def attemptNonPrimary (walk : Walk) (around : Surroundings) (wantPrimaryConnection : Bool)
    (sql : Option JString) (connectionFlags : BitVec 32) :
    Walk × PoolAnswer :=
  if !wantPrimaryConnection && !walk.nonPrimaryConnectionNotAvailable then
    let (pool, result) :=
      walk.pool.tryAcquireNonPrimaryConnectionLocked around sql connectionFlags
    ({ walk with pool := pool, nonPrimaryConnectionNotAvailable := givesNone result }, result)
  else (walk, .ok none)

/-- The primary connection is tried, unless it is known to fail. -/
def attemptPrimary (walk : Walk) (around : Surroundings) (connectionFlags : BitVec 32) :
    Walk × PoolAnswer :=
  if !walk.primaryConnectionNotAvailable then
    let (pool, result) := walk.pool.tryAcquirePrimaryConnectionLocked around connectionFlags
    ({ walk with pool := pool, primaryConnectionNotAvailable := givesNone result }, result)
  else (walk, .ok none)

/-- The two attempts for a request, the second one if the first gives nothing. -/
def attempt (walk : Walk) (around : Surroundings) (wantPrimaryConnection : Bool)
    (sql : Option JString) (connectionFlags : BitVec 32) :
    Walk × PoolAnswer :=
  let (walk, result) := walk.attemptNonPrimary around wantPrimaryConnection sql connectionFlags
  if givesNone result then walk.attemptPrimary around connectionFlags else (walk, result)

/-- The waiters that stay in the queue and those that leave it. -/
structure Sorted where
  pool : SQLiteConnectionPool
  staying : List ConnectionWaiter
  leaving : List ConnectionWaiter

def Sorted.leave (sorted : Sorted) (waiter : ConnectionWaiter) : Sorted :=
  { sorted with leaving := waiter :: sorted.leaving }

def Sorted.stay (sorted : Sorted) (waiter : ConnectionWaiter) : Sorted :=
  { sorted with staying := waiter :: sorted.staying }

/-- The loop of `wakeConnectionWaitersLocked` over the rest of the queue. -/
def wakeLoop (around : Surroundings) : Walk → List ConnectionWaiter → Sorted
  | walk, [] => ⟨walk.pool, [], []⟩
  | walk, waiter :: successor =>
      if !walk.pool.mIsOpen then (wakeLoop around walk successor).leave waiter
      else
        let (walk, result) :=
          walk.attempt around waiter.mWantPrimaryConnection waiter.mSql waiter.mConnectionFlags
        match result with
        | .error exception =>
            (wakeLoop around walk successor).leave { waiter with mException := some exception }
        | .ok (some connection) =>
            (wakeLoop around walk successor).leave
              { waiter with mAssignedConnection := some connection }
        | .ok none =>
            -- Both kinds are gone: the rest of the queue is not looked at.
            if walk.nonPrimaryConnectionNotAvailable && walk.primaryConnectionNotAvailable then
              ⟨walk.pool, waiter :: successor, []⟩
            else (wakeLoop around walk successor).stay waiter

end Walk

namespace SQLiteConnectionPool

def wakeConnectionWaitersLocked (pool : SQLiteConnectionPool) (around : Surroundings) :
    SQLiteConnectionPool :=
  let sorted := Walk.wakeLoop around ⟨pool, false, false⟩ pool.mConnectionWaiterQueue
  { sorted.pool with
    mConnectionWaiterQueue := sorted.staying
    unparked := pool.unparked ++ sorted.leaving }

/-- A waiter is put into the queue in front of the first one of a lower priority. -/
def enqueue (waiter : ConnectionWaiter) (queue : List ConnectionWaiter) : List ConnectionWaiter :=
  let ahead := queue.takeWhile fun successor => waiter.mPriority ≤ successor.mPriority
  ahead ++ waiter :: queue.drop ahead.length

/-- `waitForConnection` up to where the thread waits: a connection, an exception, or none
if the thread has to wait. -/
def acquireConnection (pool : SQLiteConnectionPool) (around : Surroundings) (thread now : Nat)
    (sql : Option JString) (connectionFlags : BitVec 32) (canceled : Bool) :
    SQLiteConnectionPool × PoolAnswer :=
  let wantPrimaryConnection :=
    decide (connectionFlags &&& connectionFlagPrimaryConnectionAffinity ≠ 0)
  if !pool.mIsOpen then (pool, .error (.illegalStateException closedMessage))
  else if canceled then (pool, .error .operationCanceledException)
  else
    let (walk, result) := Walk.attempt ⟨pool, false, false⟩ around wantPrimaryConnection sql
      connectionFlags
    if givesNone result then
      let waiter := ⟨thread, now, getPriority connectionFlags, wantPrimaryConnection, sql,
        connectionFlags, none, none⟩
      ({ walk.pool with
          mConnectionWaiterQueue := enqueue waiter walk.pool.mConnectionWaiterQueue }, result)
    else (walk.pool, result)

/-- The waiter of a thread, if it has left the queue. -/
def unparkedWaiter (pool : SQLiteConnectionPool) (thread : Nat) : Option ConnectionWaiter :=
  pool.unparked.find? (·.mThread = thread)

/-- The waiter of a thread, if it is in the queue. -/
def queuedWaiter (pool : SQLiteConnectionPool) (thread : Nat) : Option ConnectionWaiter :=
  pool.mConnectionWaiterQueue.find? (·.mThread = thread)

/-- The thread is done with its waiter, which is recycled or dropped. -/
def forget (pool : SQLiteConnectionPool) (thread : Nat) : SQLiteConnectionPool :=
  { pool with
    mConnectionWaiterQueue := pool.mConnectionWaiterQueue.eraseP (·.mThread = thread)
    unparked := pool.unparked.eraseP (·.mThread = thread) }

/-- The check a waiting thread makes each time it wakes up: it goes on waiting, or it is done with a
connection or an exception. -/
def checkWaiter (pool : SQLiteConnectionPool) (thread : Nat) :
    SQLiteConnectionPool × PoolAnswer :=
  if !pool.mIsOpen then
    (pool.forget thread, .error (.illegalStateException closedMessage))
  else
    match pool.unparkedWaiter thread with
    | none => (pool, .ok none)
    | some waiter =>
        match waiter.mAssignedConnection, waiter.mException with
        | some connection, _ => (pool.forget thread, .ok (some connection))
        | none, some exception => (pool.forget thread, .error exception)
        | none, none => (pool, .ok none)

/-- `onCancel` of a waiting thread, run by the thread that cancels. The walk through the
queue that `cancelConnectionWaiterLocked` makes ends in nothing if the waiter is not there. -/
def cancelConnectionWaiter (pool : SQLiteConnectionPool) (around : Surroundings) (thread : Nat) :
    SQLiteConnectionPool × Except PoolException Unit :=
  match pool.unparkedWaiter thread with
  | some waiter =>
      if waiter.mAssignedConnection.isSome || waiter.mException.isSome then (pool, .ok ())
      else (pool, .error .nullPointerException)
  | none =>
      match pool.queuedWaiter thread with
      | none => (pool, .ok ())
      | some waiter =>
          let waiter := { waiter with mException := some .operationCanceledException }
          let pool := { pool with
            mConnectionWaiterQueue :=
              pool.mConnectionWaiterQueue.eraseP (·.mThread = thread)
            unparked := pool.unparked ++ [waiter] }
          (pool.wakeConnectionWaitersLocked around, .ok ())

/-! ## Releasing -/

/-- Whether a returned connection can be used again. If not, it is closed. -/
def recycleConnectionLocked (pool : SQLiteConnectionPool) (around : Surroundings)
    (connection : SQLiteConnection) (status : AcquiredConnectionStatus) :
    SQLiteConnectionPool × Bool :=
  let status :=
    if status = .reconfigure ∧ !around.reconfigures connection.mConnectionId then .discard
    else status
  if status = .discard then (pool.closeConnections [connection], false) else (pool, true)

/-- The entry of an acquired connection, which is known by its number. -/
def acquiredEntry (pool : SQLiteConnectionPool) (connectionId : Nat) :
    Option (SQLiteConnection × AcquiredConnectionStatus) :=
  pool.mAcquiredConnections.find? (·.1.mConnectionId = connectionId)

def removeAcquired (pool : SQLiteConnectionPool) (connectionId : Nat) : SQLiteConnectionPool :=
  { pool with
    mAcquiredConnections :=
      pool.mAcquiredConnections.eraseP (·.1.mConnectionId = connectionId) }

def releaseConnection (pool : SQLiteConnectionPool) (around : Surroundings)
    (connectionId : Nat) : SQLiteConnectionPool × Except PoolException Unit :=
  match pool.acquiredEntry connectionId with
  | none => (pool, .error (.illegalStateException notAcquiredMessage))
  | some (connection, status) =>
      let pool := pool.removeAcquired connectionId
      if !pool.mIsOpen then (pool.closeConnections [connection], .ok ())
      else if connection.mIsPrimaryConnection then
        let (pool, recycled) := pool.recycleConnectionLocked around connection status
        let pool :=
          if recycled then { pool with mAvailablePrimaryConnection := some connection } else pool
        (pool.wakeConnectionWaitersLocked around, .ok ())
      else if pool.mMaxConnectionPoolSize - 1 ≤ pool.mAvailableNonPrimaryConnections.length then
        (pool.closeConnections [connection], .ok ())
      else
        let (pool, recycled) := pool.recycleConnectionLocked around connection status
        let pool :=
          if recycled then
            { pool with
              mAvailableNonPrimaryConnections :=
                pool.mAvailableNonPrimaryConnections ++ [connection] }
          else pool
        (pool.wakeConnectionWaitersLocked around, .ok ())

/-! ## Opening, closing and reconfiguring the pool -/

/-- A pool before it is opened. -/
def create (hasCodec : Bool) (configuration : SQLiteDatabaseConfiguration) :
    SQLiteConnectionPool where
  hasCodec := hasCodec
  mConfiguration := configuration
  mMaxConnectionPoolSize := maxConnectionPoolSize hasCodec configuration
  mIsOpen := false
  mNextConnectionId := 0
  mConnectionLeaked := false
  mConnectionWaiterQueue := []
  mAvailableNonPrimaryConnections := []
  mAvailablePrimaryConnection := none
  mAcquiredConnections := []
  unparked := []
  opened := []
  closed := []

/-- `SQLiteConnectionPool.open`: there is no pool if its first connection cannot be opened. -/
def «open» (around : Surroundings) (hasCodec : Bool)
    (configuration : SQLiteDatabaseConfiguration) : Except PoolException SQLiteConnectionPool :=
  match (create hasCodec configuration).openConnectionLocked around true with
  | (_, .error exception) => .error exception
  | (pool, .ok connection) =>
      .ok { pool with mAvailablePrimaryConnection := some connection, mIsOpen := true }

def close (pool : SQLiteConnectionPool) (around : Surroundings) :
    SQLiteConnectionPool × Except PoolException Unit :=
  if !pool.mIsOpen then (pool, .error (.illegalStateException closedMessage))
  else
    let pool := { pool with mIsOpen := false }.closeAvailableConnectionsLocked
    (pool.wakeConnectionWaitersLocked around, .ok ())

/-- What is marked to be discarded stays so. -/
def markAcquiredConnectionsLocked (pool : SQLiteConnectionPool)
    (status : AcquiredConnectionStatus) : SQLiteConnectionPool :=
  { pool with
    mAcquiredConnections := pool.mAcquiredConnections.map fun (connection, oldStatus) =>
      (connection, if oldStatus = .discard then oldStatus else status) }

/-- Available connections that cannot be reconfigured are closed, the primary one first. -/
def reconfigureAllConnectionsLocked (pool : SQLiteConnectionPool) (around : Surroundings) :
    SQLiteConnectionPool :=
  let reconfigured (connection : SQLiteConnection) := around.reconfigures connection.mConnectionId
  let failed :=
    (pool.mAvailablePrimaryConnection.toList ++ pool.mAvailableNonPrimaryConnections).filter
      (!reconfigured ·)
  { pool.closeConnections failed with
      mAvailablePrimaryConnection := pool.mAvailablePrimaryConnection.filter reconfigured
      mAvailableNonPrimaryConnections :=
        pool.mAvailableNonPrimaryConnections.filter reconfigured }
    |>.markAcquiredConnectionsLocked .reconfigure

/-- The configuration is taken over, and the size of the pool that goes with it. -/
def updateParametersFrom (pool : SQLiteConnectionPool)
    (configuration : SQLiteDatabaseConfiguration) : SQLiteConnectionPool :=
  { pool with
    mConfiguration := configuration
    mMaxConnectionPoolSize := maxConnectionPoolSize pool.hasCodec configuration }

/-- The primary connection is opened anew and every other connection goes. -/
def reopen (pool : SQLiteConnectionPool) (around : Surroundings)
    (configuration : SQLiteDatabaseConfiguration) :
    SQLiteConnectionPool × Except PoolException Unit :=
  match pool.openConnectionLocked around true with
  | (pool, .error exception) => (pool, .error exception)
  | (pool, .ok newPrimaryConnection) =>
      let pool := pool.closeAvailableConnectionsLocked.markAcquiredConnectionsLocked .discard
      let pool := { pool with mAvailablePrimaryConnection := some newPrimaryConnection }
      ((pool.updateParametersFrom configuration).wakeConnectionWaitersLocked around, .ok ())

def reconfigure (pool : SQLiteConnectionPool) (around : Surroundings)
    (configuration : SQLiteDatabaseConfiguration) :
    SQLiteConnectionPool × Except PoolException Unit :=
  let walModeChanged := decide
    ((configuration.openFlags ^^^ pool.mConfiguration.openFlags) &&& enableWriteAheadLogging ≠ 0)
  let foreignKeyModeChanged := configuration.foreignKeyConstraintsEnabled !=
    pool.mConfiguration.foreignKeyConstraintsEnabled
  let inUse := !pool.mAcquiredConnections.isEmpty
  if !pool.mIsOpen then (pool, .error (.illegalStateException closedMessage))
  else if walModeChanged && inUse then (pool, .error (.illegalStateException walModeMessage))
  else if foreignKeyModeChanged && inUse then
    (pool, .error (.illegalStateException foreignKeyMessage))
  else if pool.mConfiguration.openFlags ≠ configuration.openFlags then
    -- There may be only one connection while the journal mode changes.
    let pool := if walModeChanged then pool.closeAvailableConnectionsLocked else pool
    pool.reopen around configuration
  else
    let pool := (pool.updateParametersFrom configuration).closeExcessConnectionsLocked
    let pool := pool.reconfigureAllConnectionsLocked around
    (pool.wakeConnectionWaitersLocked around, .ok ())

end SQLiteConnectionPool

/-! ## What an attempt can do -/

/-- The ways an attempt to acquire a connection ends. A new connection is opened only if
there is no other of its kind to take. -/
inductive Outcome (pool : SQLiteConnectionPool) : SQLiteConnectionPool × PoolAnswer → Prop where
  | nothing : Outcome pool (pool, .ok none)
  | failed :
      Outcome pool ({ pool with mNextConnectionId := pool.mNextConnectionId + 1 },
        .error (.sqliteException pool.mNextConnectionId))
  | primary (connection : SQLiteConnection) (connectionFlags : BitVec 32)
      (present : pool.mAvailablePrimaryConnection = some connection) :
      Outcome pool ({ pool with mAvailablePrimaryConnection := none }
        |>.finishAcquireConnectionLocked connection connectionFlags)
  | nonPrimary (index : Nat) (connection : SQLiteConnection) (connectionFlags : BitVec 32)
      (present : pool.mAvailableNonPrimaryConnections[index]? = some connection) :
      Outcome pool ({ pool with
          mAvailableNonPrimaryConnections :=
            pool.mAvailableNonPrimaryConnections.eraseIdx index }
        |>.finishAcquireConnectionLocked connection connectionFlags)
  | opened (primaryConnection : Bool) (connectionFlags : BitVec 32)
      (alone : primaryConnection = true → pool.mAvailablePrimaryConnection = none ∧
        ∀ entry ∈ pool.mAcquiredConnections, entry.1.mIsPrimaryConnection = false)
      (room : primaryConnection = false → pool.mAvailableNonPrimaryConnections = [] ∧
        pool.mAcquiredConnections.length + pool.mAvailablePrimaryConnection.toList.length <
          pool.mMaxConnectionPoolSize) :
      Outcome pool ({ pool with
          mNextConnectionId := pool.mNextConnectionId + 1
          opened := pool.opened ++ [pool.mNextConnectionId] }
        |>.finishAcquireConnectionLocked ⟨pool.mNextConnectionId, primaryConnection, false⟩
          connectionFlags)

section Outcomes

variable (pool : SQLiteConnectionPool) (around : Surroundings) (connectionFlags : BitVec 32)

theorem outcome_acquireOpened {primaryConnection : Bool}
    (alone : primaryConnection = true → pool.mAvailablePrimaryConnection = none ∧
      ∀ entry ∈ pool.mAcquiredConnections, entry.1.mIsPrimaryConnection = false)
    (room : primaryConnection = false → pool.mAvailableNonPrimaryConnections = [] ∧
      pool.mAcquiredConnections.length + pool.mAvailablePrimaryConnection.toList.length <
        pool.mMaxConnectionPoolSize) :
    Outcome pool (pool.acquireOpened around primaryConnection connectionFlags) := by
  simp only [SQLiteConnectionPool.acquireOpened, SQLiteConnectionPool.openConnectionLocked]
  cases around.opens pool.mNextConnectionId with
  | true => exact .opened primaryConnection connectionFlags alone room
  | false => exact .failed

theorem outcome_tryAcquirePrimary :
    Outcome pool (pool.tryAcquirePrimaryConnectionLocked around connectionFlags) := by
  unfold SQLiteConnectionPool.tryAcquirePrimaryConnectionLocked
  split
  case h_1 connection present => exact .primary connection connectionFlags present
  case h_2 missing =>
    split
    case isTrue => exact .nothing
    case isFalse absent =>
      refine outcome_acquireOpened pool around connectionFlags (fun _ => ⟨missing, ?_⟩) nofun
      simpa using absent

/-- The index is one of the list, unless the list is empty. -/
theorem getElem?_preferredIndex {available : List SQLiteConnection} {sql : Option JString}
    (nothing : available[SQLiteConnectionPool.preferredIndex around available sql]? = none) :
    available = [] := by
  by_contra nonempty
  have positive := List.length_pos_iff.mpr nonempty
  have outside := List.getElem?_eq_none_iff.mp nothing
  unfold SQLiteConnectionPool.preferredIndex at outside
  cases sql with
  | none => simp only [Option.bind_none, Option.getD_none, ite_self] at outside; omega
  | some sql =>
      cases found : available.findIdx? fun connection =>
          around.isPreparedStatementInCache connection.mConnectionId sql with
      | none => simp only [Option.bind_some, found, Option.getD_none, ite_self] at outside; omega
      | some index =>
          have inside := List.findIdx?_eq_some_iff_getElem.mp found
          simp only [Option.bind_some, found, Option.getD_some] at outside
          obtain ⟨bound, _⟩ := inside
          split at outside <;> omega

theorem outcome_tryAcquireNonPrimary (sql : Option JString) :
    Outcome pool (pool.tryAcquireNonPrimaryConnectionLocked around sql connectionFlags) := by
  simp only [SQLiteConnectionPool.tryAcquireNonPrimaryConnectionLocked]
  split
  case h_1 connection present => exact .nonPrimary _ connection connectionFlags present
  case h_2 nothing =>
    split
    case isTrue => exact .nothing
    case isFalse room =>
      exact outcome_acquireOpened pool around connectionFlags nofun
        fun _ => ⟨getElem?_preferredIndex around nothing, Nat.lt_of_not_le room⟩

theorem Outcome.eq_of_givesNone {pool : SQLiteConnectionPool}
    {result : SQLiteConnectionPool × PoolAnswer} (outcome : Outcome pool result)
    (none : givesNone result.2 = true) : result.1 = pool := by
  cases outcome with
  | nothing => rfl
  | failed | primary | nonPrimary | opened => cases none

theorem outcome_attempt (walk : Walk) (wantPrimaryConnection : Bool) (sql : Option JString) :
    let result := walk.attempt around wantPrimaryConnection sql connectionFlags
    Outcome walk.pool (result.1.pool, result.2) := by
  have first : Outcome walk.pool
      ((walk.attemptNonPrimary around wantPrimaryConnection sql connectionFlags).1.pool,
        (walk.attemptNonPrimary around wantPrimaryConnection sql connectionFlags).2) := by
    unfold Walk.attemptNonPrimary
    split
    · exact outcome_tryAcquireNonPrimary walk.pool around connectionFlags sql
    · exact .nothing
  have second : ∀ walk : Walk, Outcome walk.pool
      ((walk.attemptPrimary around connectionFlags).1.pool,
        (walk.attemptPrimary around connectionFlags).2) := by
    intro walk
    unfold Walk.attemptPrimary
    split
    · exact outcome_tryAcquirePrimary walk.pool around connectionFlags
    · exact .nothing
  simp only [Walk.attempt]
  split
  case isTrue none =>
    -- The first attempt has given nothing, so it has changed nothing.
    rw [← first.eq_of_givesNone none]
    exact second _
  case isFalse => exact first

end Outcomes

/-- The ways an acquired connection goes back. It is closed, or it is free again; and unless
no waiter could use it, the waiters are woken. -/
inductive Released (pool : SQLiteConnectionPool) (around : Surroundings) (connectionId : Nat)
    (connection : SQLiteConnection) (status : AcquiredConnectionStatus) :
    SQLiteConnectionPool → Prop where
  | unnoticed
      (useless : pool.mIsOpen = false ∨ connection.mIsPrimaryConnection = false ∧
        pool.mMaxConnectionPoolSize - 1 ≤ pool.mAvailableNonPrimaryConnections.length) :
      Released pool around connectionId connection status
        ((pool.removeAcquired connectionId).closeConnections [connection])
  | closed (isOpen : pool.mIsOpen = true) :
      Released pool around connectionId connection status
        (((pool.removeAcquired connectionId).closeConnections
          [connection]).wakeConnectionWaitersLocked around)
  | primary (isOpen : pool.mIsOpen = true) (isPrimary : connection.mIsPrimaryConnection = true)
      (alive : status ≠ .discard) :
      Released pool around connectionId connection status
        ({ pool.removeAcquired connectionId with mAvailablePrimaryConnection := some connection }
          |>.wakeConnectionWaitersLocked around)
  | other (isOpen : pool.mIsOpen = true) (isOther : connection.mIsPrimaryConnection = false)
      (alive : status ≠ .discard) :
      Released pool around connectionId connection status
        ({ pool.removeAcquired connectionId with
            mAvailableNonPrimaryConnections :=
              pool.mAvailableNonPrimaryConnections ++ [connection] }
          |>.wakeConnectionWaitersLocked around)

theorem recycleConnectionLocked_cases (pool : SQLiteConnectionPool) (around : Surroundings)
    (connection : SQLiteConnection) (status : AcquiredConnectionStatus) :
    let result := pool.recycleConnectionLocked around connection status
    result = (pool.closeConnections [connection], false) ∨
      status ≠ .discard ∧ result = (pool, true) := by
  have marked : status = .discard → (if status = .reconfigure ∧
      (!around.reconfigures connection.mConnectionId) = true then .discard else status) =
        AcquiredConnectionStatus.discard := by
    rintro rfl
    rfl
  simp only [SQLiteConnectionPool.recycleConnectionLocked]
  generalize (if status = .reconfigure ∧ (!around.reconfigures connection.mConnectionId) = true
    then AcquiredConnectionStatus.discard else status) = final at marked ⊢
  split
  case isTrue => exact .inl rfl
  case isFalse kept => exact .inr ⟨fun discarded => kept (marked discarded), rfl⟩

theorem released_releaseConnection {pool : SQLiteConnectionPool} (around : Surroundings)
    {connectionId : Nat} {connection : SQLiteConnection} {status : AcquiredConnectionStatus}
    (found : pool.acquiredEntry connectionId = some (connection, status)) :
    Released pool around connectionId connection status
      (pool.releaseConnection around connectionId).1 := by
  simp only [SQLiteConnectionPool.releaseConnection, found]
  have recycled := recycleConnectionLocked_cases (pool.removeAcquired connectionId) around
    connection status
  generalize (pool.removeAcquired connectionId).recycleConnectionLocked around connection status =
    result at recycled ⊢
  split
  case isTrue shut => exact .unnoticed (.inl (Bool.not_eq_true' _ ▸ shut))
  case isFalse isOpen =>
    have isOpen : pool.mIsOpen = true := by
      rw [Bool.not_eq_true', Bool.not_eq_false] at isOpen
      exact isOpen
    split
    case isTrue isPrimary =>
      rcases recycled with rfl | ⟨alive, rfl⟩
      · exact .closed isOpen
      · exact .primary isOpen isPrimary alive
    case isFalse isOther =>
      have isOther : connection.mIsPrimaryConnection = false := by simpa using isOther
      split
      case isTrue full => exact .unnoticed (.inr ⟨isOther, full⟩)
      case isFalse =>
        rcases recycled with rfl | ⟨alive, rfl⟩
        · exact .closed isOpen
        · exact .other isOpen isOther alive

/-- The pools have the same waiters, and look the same to them. -/
structure SameWaiters (before after : SQLiteConnectionPool) : Prop where
  mIsOpen : after.mIsOpen = before.mIsOpen
  mConnectionLeaked : after.mConnectionLeaked = before.mConnectionLeaked
  mConnectionWaiterQueue : after.mConnectionWaiterQueue = before.mConnectionWaiterQueue
  unparked : after.unparked = before.unparked

theorem SameWaiters.trans {pool middle last : SQLiteConnectionPool}
    (first : SameWaiters pool middle) (second : SameWaiters middle last) :
    SameWaiters pool last :=
  ⟨second.mIsOpen.trans first.mIsOpen, second.mConnectionLeaked.trans first.mConnectionLeaked,
    second.mConnectionWaiterQueue.trans first.mConnectionWaiterQueue,
    second.unparked.trans first.unparked⟩

/-- The pools differ in their connections only. -/
structure SameQueue (before after : SQLiteConnectionPool) : Prop extends
    SameWaiters before after where
  hasCodec : after.hasCodec = before.hasCodec
  mConfiguration : after.mConfiguration = before.mConfiguration
  mMaxConnectionPoolSize : after.mMaxConnectionPoolSize = before.mMaxConnectionPoolSize

theorem SameQueue.rfl {pool : SQLiteConnectionPool} : SameQueue pool pool :=
  ⟨⟨Eq.refl _, Eq.refl _, Eq.refl _, Eq.refl _⟩, Eq.refl _, Eq.refl _, Eq.refl _⟩

theorem SameQueue.trans {pool middle last : SQLiteConnectionPool}
    (first : SameQueue pool middle) (second : SameQueue middle last) : SameQueue pool last :=
  ⟨first.toSameWaiters.trans second.toSameWaiters, second.hasCodec.trans first.hasCodec,
    second.mConfiguration.trans first.mConfiguration,
    second.mMaxConnectionPoolSize.trans first.mMaxConnectionPoolSize⟩

theorem Outcome.sameQueue {pool : SQLiteConnectionPool}
    {result : SQLiteConnectionPool × PoolAnswer} (outcome : Outcome pool result) :
    SameQueue pool result.1 := by
  cases outcome <;> exact ⟨⟨rfl, rfl, rfl, rfl⟩, rfl, rfl, rfl⟩

/-- The ways a reconfiguration ends. Unless it is done, no waiter is woken. -/
inductive Reconfigured (pool : SQLiteConnectionPool) (around : Surroundings) :
    SQLiteConnectionPool → Prop where
  | refused : Reconfigured pool around pool
  | failed (isOpen : pool.mIsOpen = true) :
      Reconfigured pool around { pool with mNextConnectionId := pool.mNextConnectionId + 1 }
  | failedEmpty (isOpen : pool.mIsOpen = true) (unused : pool.mAcquiredConnections = []) :
      Reconfigured pool around { pool.closeAvailableConnectionsLocked with
        mNextConnectionId := pool.mNextConnectionId + 1 }
  | done (isOpen : pool.mIsOpen = true) (before : SQLiteConnectionPool)
      (same : SameWaiters pool before)
      (fewer : before.mAvailableNonPrimaryConnections ⊆ pool.mAvailableNonPrimaryConnections) :
      Reconfigured pool around (before.wakeConnectionWaitersLocked around)

section Frames

variable (pool : SQLiteConnectionPool)

open SQLiteConnectionPool

theorem sameWaiters_closeAvailable :
    SameWaiters pool pool.closeAvailableConnectionsLocked := ⟨rfl, rfl, rfl, rfl⟩

theorem sameWaiters_closeExcess :
    SameWaiters pool pool.closeExcessConnectionsLocked := ⟨rfl, rfl, rfl, rfl⟩

theorem sameWaiters_markAcquired (status : AcquiredConnectionStatus) :
    SameWaiters pool (pool.markAcquiredConnectionsLocked status) := ⟨rfl, rfl, rfl, rfl⟩

theorem sameWaiters_reconfigureAll (around : Surroundings) :
    SameWaiters pool (pool.reconfigureAllConnectionsLocked around) := ⟨rfl, rfl, rfl, rfl⟩

theorem sameWaiters_update (configuration : SQLiteDatabaseConfiguration) :
    SameWaiters pool (pool.updateParametersFrom configuration) := ⟨rfl, rfl, rfl, rfl⟩

/-- The new primary connection opens or not. -/
theorem reopen_cases (around : Surroundings) (configuration : SQLiteDatabaseConfiguration) :
    (pool.reopen around configuration).1 =
        { pool with mNextConnectionId := pool.mNextConnectionId + 1 } ∨
      ∃ before, SameWaiters pool before ∧ before.mAvailableNonPrimaryConnections = [] ∧
        (pool.reopen around configuration).1 = before.wakeConnectionWaitersLocked around := by
  unfold SQLiteConnectionPool.reopen SQLiteConnectionPool.openConnectionLocked
  simp only
  cases around.opens pool.mNextConnectionId with
  | false => exact .inl rfl
  | true =>
      refine .inr ⟨_, ?_, rfl, rfl⟩
      refine SameWaiters.trans ?_ (sameWaiters_update _ configuration)
      have opened : SameWaiters pool { pool with
          mNextConnectionId := pool.mNextConnectionId + 1
          opened := pool.opened ++ [pool.mNextConnectionId] } := ⟨rfl, rfl, rfl, rfl⟩
      have marked := (opened.trans (sameWaiters_closeAvailable _)).trans
        (sameWaiters_markAcquired _ .discard)
      exact ⟨marked.1, marked.2, marked.3, marked.4⟩

end Frames

theorem reconfigured_reconfigure (pool : SQLiteConnectionPool) (around : Surroundings)
    (configuration : SQLiteDatabaseConfiguration) :
    Reconfigured pool around (pool.reconfigure around configuration).1 := by
  simp only [SQLiteConnectionPool.reconfigure]
  split
  case isTrue => exact .refused
  case isFalse isOpen =>
    have isOpen : pool.mIsOpen = true := by simpa using isOpen
    split
    case isTrue => exact .refused
    case isFalse unused =>
      split
      case isTrue => exact .refused
      case isFalse =>
        split
        case isTrue =>
          split
          case isTrue walModeChanged =>
            rw [walModeChanged, Bool.true_and, Bool.not_eq_true', Bool.not_eq_false,
              List.isEmpty_iff] at unused
            rcases reopen_cases pool.closeAvailableConnectionsLocked around configuration with
              failed | ⟨before, same, none, done⟩
            · rw [failed]
              exact .failedEmpty isOpen unused
            · rw [done]
              exact .done isOpen before ((sameWaiters_closeAvailable pool).trans same)
                (none ▸ List.nil_subset _)
          case isFalse =>
            rcases reopen_cases pool around configuration with
              failed | ⟨before, same, none, done⟩
            · rw [failed]
              exact .failed isOpen
            · rw [done]
              exact .done isOpen before same (none ▸ List.nil_subset _)
        case isFalse =>
          refine .done isOpen _ (((sameWaiters_update pool configuration).trans
            (sameWaiters_closeExcess _)).trans (sameWaiters_reconfigureAll _ around)) ?_
          exact fun connection member => List.mem_of_mem_take (List.mem_filter.mp member).1

/-- What attempts keep, a walk through the queue keeps. -/
theorem wakeLoop_invariant (Inv : SQLiteConnectionPool → Prop)
    (kept : ∀ pool result, Inv pool → Outcome pool result → Inv result.1)
    (around : Surroundings) (walk : Walk) (holds : Inv walk.pool)
    (queue : List ConnectionWaiter) : Inv (Walk.wakeLoop around walk queue).pool := by
  induction queue generalizing walk with
  | nil => exact holds
  | cons waiter successor inductionHypothesis =>
      have attempted := outcome_attempt around waiter.mConnectionFlags walk
        waiter.mWantPrimaryConnection waiter.mSql
      unfold Walk.wakeLoop
      simp only at attempted ⊢
      generalize walk.attempt around waiter.mWantPrimaryConnection waiter.mSql
        waiter.mConnectionFlags = result at attempted ⊢
      have next : Inv result.1.pool := kept _ _ holds attempted
      split
      · exact inductionHypothesis walk holds
      · match result with
        | (after, .error _) => exact inductionHypothesis after next
        | (after, .ok (some _)) => exact inductionHypothesis after next
        | (after, .ok none) =>
            simp only
            split
            · exact next
            · exact inductionHypothesis after next

theorem SameQueue.wakeLoop (around : Surroundings) (walk : Walk)
    (queue : List ConnectionWaiter) :
    SameQueue walk.pool (Walk.wakeLoop around walk queue).pool :=
  wakeLoop_invariant (SameQueue walk.pool)
    (fun _ _ same outcome => same.trans outcome.sameQueue) around walk SameQueue.rfl queue

theorem wakeLoop_staying (around : Surroundings) (walk : Walk) (queue : List ConnectionWaiter) :
    (Walk.wakeLoop around walk queue).staying.Sublist queue := by
  induction queue generalizing walk with
  | nil => exact List.Sublist.refl []
  | cons waiter successor inductionHypothesis =>
      unfold Walk.wakeLoop
      simp only
      split
      · exact (inductionHypothesis walk).cons waiter
      · split
        · exact (inductionHypothesis _).cons waiter
        · exact (inductionHypothesis _).cons waiter
        · split
          · exact List.Sublist.refl _
          · exact (inductionHypothesis _).cons_cons waiter

/-- In a closed pool every waiter leaves the queue, with nothing. -/
theorem wakeLoop_closed (around : Surroundings) (walk : Walk) (shut : walk.pool.mIsOpen = false)
    (queue : List ConnectionWaiter) :
    Walk.wakeLoop around walk queue = ⟨walk.pool, [], queue⟩ := by
  induction queue with
  | nil => rfl
  | cons waiter successor inductionHypothesis =>
      rw [Walk.wakeLoop, if_pos (by simp [shut]), inductionHypothesis]
      rfl

end Openpyn.Database
