import Openpyn.Database.SQLiteConnectionPool
import Openpyn.Foundation.Effects
import Openpyn.Foundation.Machine
import Openpyn.Java.Double

/-!
# A session of a thread

A session takes a connection from the pool when it needs one and keeps it as long as a
transaction is open. Transactions nest: only the outermost one is known to the database, and it is
committed if it and all those inside were marked successful. The pool, the connection and the
listeners are called from outside; every call is written down, and may throw.
Listeners that call the session themselves are left out.
-/

namespace Openpyn.Database

open Foundation Java

/-! ## Kinds of statements -/

inductive SQLiteStatementType where
  | select
  | update
  | attach
  | begin
  | commit
  | abort
  | pragma
  | ddl
  | unprepared
  | other
deriving DecidableEq

/-- The kinds of statements by their first letters. -/
def statementPrefixes : List (JString × SQLiteStatementType) :=
  [(lit "SEL", .select), (lit "INS", .update), (lit "UPD", .update), (lit "REP", .update),
    (lit "DEL", .update), (lit "ATT", .attach), (lit "COM", .commit), (lit "END", .commit),
    (lit "ROL", .abort), (lit "BEG", .begin), (lit "PRA", .pragma), (lit "CRE", .ddl),
    (lit "DRO", .ddl), (lit "ALT", .ddl), (lit "ANA", .unprepared), (lit "DET", .unprepared)]

/-- The letters are compared in upper case, which a table not modelled here gives. -/
def getSqlStatementType (toUpperCase : JString → JString) (sql : JString) : SQLiteStatementType :=
  let sql := Double.trim sql
  if sql.length < 3 then .other
  else (statementPrefixes.lookup (toUpperCase (sql.take 3))).getD .other

/-! ## Data -/

def transactionModeExclusive : Int := 2

structure Transaction where
  mMode : Int
  mListener : Option Nat
  mMarkedSuccessful : Bool
  mChildFailed : Bool
deriving DecidableEq

/-- A session. The parent of a transaction is the next one on the stack. -/
structure SQLiteSession where
  mConnection : Option Nat
  mConnectionFlags : BitVec 32
  mConnectionUseCount : Int
  mTransactionStack : List Transaction
deriving DecidableEq

/-- The methods of a connection that run a statement. -/
inductive StatementMethod where
  | execute
  | executeForLong
  | executeForString
  | executeForBlobFileDescriptor
  | executeForChangedRowCount
  | executeForLastInsertedRowId
  | executeForCursorWindow
deriving DecidableEq

/-- What a session asks of its connection. -/
inductive Command where
  | begin (transactionMode : Int)
  | commit
  | rollback
  | prepare (sql : JString)
  | statement (method : StatementMethod) (sql : JString)
deriving DecidableEq

inductive ListenerMethod where
  | onBegin
  | onCommit
  | onRollback
deriving DecidableEq

/-- A call that leaves the session, and whether it returns. -/
inductive OutsideCall where
  | throwIfCanceled (returns : Bool)
  | acquireConnection (sql : Option JString) (connectionFlags : BitVec 32)
      (connection : Option Nat)
  | releaseConnection (connection : Nat) (returns : Bool)
  | execute (connection : Nat) (command : Command) (returns : Bool)
  | shouldYieldConnection (connection : Nat) (connectionFlags : BitVec 32) (answer : Option Bool)
  | listener (listener : Nat) (method : ListenerMethod) (returns : Bool)
deriving DecidableEq

/-- What a statement does to the transaction of its connection by itself. As a rule it keeps it. But
`SAVEPOINT` may open one and `RELEASE` commit it, and some errors roll it back. -/
inductive TransactionChange where
  | keeps
  | opens
  | commits
  | rollsBack
deriving DecidableEq

/-- How the calls end, by their number, and what statements do by themselves. -/
structure Outside where
  returns : Nat → Bool
  connection : Nat → Nat
  shouldYield : Nat → Bool
  changes : Nat → TransactionChange
  toUpperCase : JString → JString

/-- A session and the calls it has made, the last one first. -/
structure SessionWorld where
  session : SQLiteSession
  calls : List OutsideCall
deriving DecidableEq

inductive SessionException where
  | illegalStateException (message : JString)
  | nullPointerException
  /-- The exception of the call with this number. -/
  | outside (call : Nat)
  /-- An exception that the caller of the session throws. -/
  | caller
deriving DecidableEq

/-- A method of a session. -/
abbrev SessionMethod (α : Type) := Effect SessionWorld SessionException α

def noTransactionMessage : JString :=
  lit "Cannot perform this operation because there is no current transaction."

def markedSuccessfulMessage : JString :=
  lit ("Cannot perform this operation because the transaction has already been marked " ++
    "successful.  The only thing you can do now is call endTransaction().")

def nestedTransactionMessage : JString :=
  lit "Cannot perform this operation because a nested transaction is in progress."

namespace SQLiteSession

open Effect

/-- A session before its first call. -/
def create : SQLiteSession := ⟨none, 0, 0, []⟩

def hasTransaction (session : SQLiteSession) : Bool := !session.mTransactionStack.isEmpty

def hasNestedTransaction (session : SQLiteSession) : Bool := 1 < session.mTransactionStack.length

def hasConnection (session : SQLiteSession) : Bool := session.mConnection.isSome

def isMarkedSuccessful (session : SQLiteSession) : Bool :=
  session.mTransactionStack.head?.any (·.mMarkedSuccessful)

def hasFailedChild (session : SQLiteSession) : Bool :=
  session.mTransactionStack.head?.any (·.mChildFailed)

/-! ## Calls that leave the session -/

section Methods

variable (outside : Outside)

/-- A call is written down and throws or not. -/
def calling (call : Bool → OutsideCall) : SessionMethod Unit := fun world =>
  let number := world.calls.length
  let returns := outside.returns number
  (if returns then .ok () else .error (.outside number),
    { world with calls := call returns :: world.calls })

/-- The check of a signal, if there is one. -/
def throwIfCanceled (cancellationSignal : Bool) : SessionMethod Unit :=
  when cancellationSignal (calling outside .throwIfCanceled)

/-- A call on the connection of the session. -/
def onConnection (method : Nat → SessionMethod α) : SessionMethod α := do
  match ← reading (·.session.mConnection) with
  | none => throwing .nullPointerException
  | some connection => method connection

def executing (command : Command) : SessionMethod Unit :=
  onConnection fun connection => calling outside (.execute connection command)

/-- `mConnectionPool.acquireConnection`. -/
def poolAcquireConnection (sql : Option JString) (connectionFlags : BitVec 32) :
    SessionMethod Nat := fun world =>
  let number := world.calls.length
  if outside.returns number then
    let connection := outside.connection number
    (.ok connection, { world with
      calls := .acquireConnection sql connectionFlags (some connection) :: world.calls })
  else
    (.error (.outside number), { world with
      calls := .acquireConnection sql connectionFlags none :: world.calls })

/-- `mConnectionPool.shouldYieldConnection`. -/
def poolShouldYieldConnection (connection : Nat) (connectionFlags : BitVec 32) :
    SessionMethod Bool := fun world =>
  let number := world.calls.length
  if outside.returns number then
    let answer := outside.shouldYield number
    (.ok answer, { world with
      calls := .shouldYieldConnection connection connectionFlags (some answer) :: world.calls })
  else
    (.error (.outside number), { world with
      calls := .shouldYieldConnection connection connectionFlags none :: world.calls })

/-- `mConnectionPool.releaseConnection`, which does not know an absent connection. -/
def poolReleaseConnection (connection : Option Nat) : SessionMethod Unit :=
  match connection with
  | none => throwing (.illegalStateException notAcquiredMessage)
  | some connection => calling outside (.releaseConnection connection)

/-! ## Connections -/

def changeSession (change : SQLiteSession → SQLiteSession) : SessionMethod Unit :=
  changing fun world => { world with session := change world.session }

def acquireConnection (sql : Option JString) (connectionFlags : BitVec 32) :
    SessionMethod Unit := do
  when (← reading (!·.session.hasConnection)) do
    let connection ← poolAcquireConnection outside sql connectionFlags
    changeSession fun session =>
      { session with mConnection := some connection, mConnectionFlags := connectionFlags }
  changeSession fun session =>
    { session with mConnectionUseCount := session.mConnectionUseCount + 1 }

def releaseConnection : SessionMethod Unit := do
  changeSession fun session =>
    { session with mConnectionUseCount := session.mConnectionUseCount - 1 }
  when (← reading fun world => decide (world.session.mConnectionUseCount = 0)) do
    ensuring (poolReleaseConnection outside (← reading (·.session.mConnection)))
      (changeSession fun session => { session with mConnection := none })

/-! ## Transactions -/

def throwIf (condition : SQLiteSession → Bool) (message : JString) : SessionMethod Unit := do
  when (← reading fun world => condition world.session) do
    throwing (.illegalStateException message)

def throwIfNoTransaction : SessionMethod Unit :=
  throwIf (!·.hasTransaction) noTransactionMessage

def throwIfTransactionMarkedSuccessful : SessionMethod Unit :=
  throwIf isMarkedSuccessful markedSuccessfulMessage

def throwIfNestedTransaction : SessionMethod Unit :=
  throwIf hasNestedTransaction nestedTransactionMessage

/-- The call of a listener, if there is one. -/
def notifying (transactionListener : Option Nat) (method : ListenerMethod) :
    SessionMethod Unit :=
  match transactionListener with
  | none => pure ()
  | some listener => calling outside (.listener listener method)

def pushTransaction (transactionMode : Int) (transactionListener : Option Nat) :
    SessionMethod Unit :=
  changeSession fun session =>
    { session with
      mTransactionStack :=
        ⟨transactionMode, transactionListener, false, false⟩ :: session.mTransactionStack }

def beginTransactionUnchecked (transactionMode : Int) (transactionListener : Option Nat)
    (connectionFlags : BitVec 32) (cancellationSignal : Bool) : SessionMethod Unit := do
  throwIfCanceled outside cancellationSignal
  when (← reading (!·.session.hasTransaction)) (acquireConnection outside none connectionFlags)
  ensuring
    (do
      when (← reading (!·.session.hasTransaction)) (executing outside (.begin transactionMode))
      catching (notifying outside transactionListener .onBegin) fun exception => do
        when (← reading (!·.session.hasTransaction)) (executing outside .rollback)
        throwing exception
      pushTransaction transactionMode transactionListener)
    (do when (← reading (!·.session.hasTransaction)) (releaseConnection outside))

def beginTransaction (transactionMode : Int) (transactionListener : Option Nat)
    (connectionFlags : BitVec 32) (cancellationSignal : Bool) : SessionMethod Unit := do
  throwIfTransactionMarkedSuccessful
  beginTransactionUnchecked outside transactionMode transactionListener connectionFlags
    cancellationSignal

/-- The transaction on top of the stack is changed. -/
def changeTop (change : Transaction → Transaction) : SessionMethod Unit :=
  changeSession fun session =>
    { session with mTransactionStack := session.mTransactionStack.modifyHead change }

def setTransactionSuccessful : SessionMethod Unit := do
  throwIfNoTransaction
  throwIfTransactionMarkedSuccessful
  changeTop ({ · with mMarkedSuccessful := true })

/-- The transaction on top of the stack. -/
def topTransaction : SessionMethod Transaction := do
  match ← reading (·.session.mTransactionStack) with
  | [] => throwing .nullPointerException
  | top :: _ => pure top

/-- The listener is told how the transaction ends. An exception of it makes the transaction
unsuccessful and is thrown at the end. -/
def notifyingEnd (listener : Option Nat) (successful : Bool) :
    SessionMethod (Bool × Option SessionException) :=
  catching
    (do
      notifying outside listener (if successful then .onCommit else .onRollback)
      pure (successful, none))
    fun exception => pure (false, some exception)

/-- After a transaction was taken off the stack: its parent learns of a failure, or the
outermost one is ended in the database. -/
def settleTransaction (successful : Bool) : SessionMethod Unit := do
  if ← reading (·.session.hasTransaction) then
    when (!successful) (changeTop ({ · with mChildFailed := true }))
  else
    ensuring (executing outside (if successful then .commit else .rollback))
      (releaseConnection outside)

/-- A listener's exception is thrown when all is done. -/
def throwListenerException (listenerException : Option SessionException) : SessionMethod Unit :=
  match listenerException with
  | none => pure ()
  | some exception => throwing exception

/-- The end of the transaction on top of the stack, after the check of the signal. -/
def endTopTransaction (yielding : Bool) : SessionMethod Unit := do
  let top ← topTransaction
  let (successful, listenerException) ← notifyingEnd outside top.mListener
    ((top.mMarkedSuccessful || yielding) && !top.mChildFailed)
  changeSession fun session =>
    { session with mTransactionStack := session.mTransactionStack.tail }
  settleTransaction outside successful
  throwListenerException listenerException

def endTransactionUnchecked (cancellationSignal yielding : Bool) : SessionMethod Unit := do
  throwIfCanceled outside cancellationSignal
  endTopTransaction outside yielding

def endTransaction (cancellationSignal : Bool) : SessionMethod Unit := do
  throwIfNoTransaction
  endTransactionUnchecked outside cancellationSignal false

def yieldTransactionUnchecked (cancellationSignal : Bool) : SessionMethod Bool := do
  throwIfCanceled outside cancellationSignal
  let connectionFlags ← reading (·.session.mConnectionFlags)
  let shouldYield ← onConnection fun connection =>
    poolShouldYieldConnection outside connection connectionFlags
  if shouldYield then
    let top ← topTransaction
    endTransactionUnchecked outside cancellationSignal true
    beginTransactionUnchecked outside top.mMode top.mListener connectionFlags cancellationSignal
    pure true
  else pure false

/-- The pause between the two transactions is left out. -/
def yieldTransaction (throwIfUnsafe cancellationSignal : Bool) : SessionMethod Bool := do
  when throwIfUnsafe do
    throwIfNoTransaction
    throwIfTransactionMarkedSuccessful
    throwIfNestedTransaction
  let session ← reading (·.session)
  if !session.hasTransaction || session.isMarkedSuccessful || session.hasNestedTransaction ||
      session.hasFailedChild then
    pure false
  else yieldTransactionUnchecked outside cancellationSignal

/-! ## Statements -/

def executeSpecial (sql : JString) (connectionFlags : BitVec 32) (cancellationSignal : Bool) :
    SessionMethod Bool := do
  throwIfCanceled outside cancellationSignal
  match getSqlStatementType outside.toUpperCase sql with
  | .begin =>
      beginTransaction outside transactionModeExclusive none connectionFlags cancellationSignal
      pure true
  | .commit =>
      setTransactionSuccessful
      endTransaction outside cancellationSignal
      pure true
  | .abort =>
      endTransaction outside cancellationSignal
      pure true
  | _ => pure false

/-- A command on a connection that is held for it at least. -/
def withConnection (sql : JString) (connectionFlags : BitVec 32) (command : Command) :
    SessionMethod Unit := do
  acquireConnection outside (some sql) connectionFlags
  ensuring (executing outside command) (releaseConnection outside)

def prepare (sql : JString) (connectionFlags : BitVec 32) (cancellationSignal : Bool) :
    SessionMethod Unit := do
  throwIfCanceled outside cancellationSignal
  withConnection outside sql connectionFlags (.prepare sql)

/-- The methods that run a statement. What the connection returns is left out, and what they
return for a statement that controls transactions is nothing. -/
def runStatement (method : StatementMethod) (sql : JString) (connectionFlags : BitVec 32)
    (cancellationSignal : Bool) : SessionMethod Unit := do
  let special ← executeSpecial outside sql connectionFlags cancellationSignal
  when (!special) (withConnection outside sql connectionFlags (.statement method sql))

def execute := runStatement outside .execute
def executeForLong := runStatement outside .executeForLong
def executeForString := runStatement outside .executeForString
def executeForBlobFileDescriptor := runStatement outside .executeForBlobFileDescriptor
def executeForChangedRowCount := runStatement outside .executeForChangedRowCount
def executeForLastInsertedRowId := runStatement outside .executeForLastInsertedRowId
def executeForCursorWindow := runStatement outside .executeForCursorWindow

/-- What a thread asks of its session. -/
inductive Request where
  | beginTransaction (transactionMode : Int) (transactionListener : Option Nat)
      (connectionFlags : BitVec 32) (cancellationSignal : Bool)
  | setTransactionSuccessful
  | endTransaction (cancellationSignal : Bool)
  | yieldTransaction (throwIfUnsafe cancellationSignal : Bool)
  | prepare (sql : JString) (connectionFlags : BitVec 32) (cancellationSignal : Bool)
  | runStatement (method : StatementMethod) (sql : JString) (connectionFlags : BitVec 32)
      (cancellationSignal : Bool)

def Request.perform : Request → SessionMethod Unit
  | .beginTransaction transactionMode transactionListener connectionFlags cancellationSignal =>
      SQLiteSession.beginTransaction outside transactionMode transactionListener connectionFlags
        cancellationSignal
  | .setTransactionSuccessful => SQLiteSession.setTransactionSuccessful
  | .endTransaction cancellationSignal => SQLiteSession.endTransaction outside cancellationSignal
  | .yieldTransaction throwIfUnsafe cancellationSignal => do
      let _ ← SQLiteSession.yieldTransaction outside throwIfUnsafe cancellationSignal
      pure ()
  | .prepare sql connectionFlags cancellationSignal =>
      SQLiteSession.prepare outside sql connectionFlags cancellationSignal
  | .runStatement method sql connectionFlags cancellationSignal =>
      SQLiteSession.runStatement outside method sql connectionFlags cancellationSignal

/-- The session as a machine: the result of every request is its answer. -/
def machine : Machine SessionWorld Request (Except SessionException Unit) where
  step world request :=
    let (result, next) := (request.perform outside).run world
    (next, result)

end Methods

end SQLiteSession

end Openpyn.Database
