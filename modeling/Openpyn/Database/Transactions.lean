import Mathlib.Logic.Function.Basic
import Openpyn.Database.SQLiteSession

/-!
# What transactions come to

From the calls a session makes follows which connection it has and what the database has made
of its statements. A session acquires one connection at a time, uses no other and releases
it, and a transaction is open in the database exactly while the session has one. This is so as long
as every commit and rollback succeeds and no statement opens or ends a transaction by itself.
-/

namespace Openpyn.Database

open Foundation Java Effect

/-! ## The calls of a session -/

/-- The connection that was acquired and not released. -/
def heldConnection : List OutsideCall → Option Nat
  | [] => none
  | .acquireConnection _ _ (some connection) :: _ => some connection
  | .releaseConnection _ _ :: _ => none
  | _ :: past => heldConnection past

/-- A call is about the connection that is held, or acquires one while none is. -/
def OutsideCall.AllowedBy (held : Option Nat) : OutsideCall → Prop
  | .acquireConnection _ _ _ => held = none
  | .releaseConnection connection _ => held = some connection
  | .execute connection _ _ => held = some connection
  | .shouldYieldConnection connection _ _ => held = some connection
  | .throwIfCanceled _ => True
  | .listener _ _ _ => True

def Disciplined : List OutsideCall → Prop
  | [] => True
  | call :: past => call.AllowedBy (heldConnection past) ∧ Disciplined past

/-- The call is no commit and no rollback that has failed, which leaves a transaction open, and no
statement that opens or ends one by itself. -/
def OutsideCall.settles (change : TransactionChange) : OutsideCall → Bool
  | .execute _ .commit returned => returned
  | .execute _ .rollback returned => returned
  | .execute _ (.statement _ _) _ => change = .keeps
  | _ => true

/-- Nothing but the session has controlled its transactions, and it has never failed to. -/
def Settled (outside : Outside) : List OutsideCall → Prop
  | [] => True
  | call :: past => call.settles (outside.changes past.length) = true ∧ Settled outside past

instance decidableSettled (outside : Outside) : DecidablePred (Settled outside)
  | [] => isTrue trivial
  | _ :: past => @instDecidableAnd _ _ _ (decidableSettled outside past)

/-- The statements that were executed, in order. -/
def executedOf : List OutsideCall → List JString
  | [] => []
  | .execute _ (.statement _ sql) true :: past => executedOf past ++ [sql]
  | _ :: past => executedOf past

/-- One of the calls with these numbers has thrown. -/
def Fails (outside : Outside) (first last : Nat) : Prop :=
  ∃ number, first ≤ number ∧ number < last ∧ outside.returns number = false

/-- What one connection sees: the statements that will last, and those of an open
transaction. -/
structure Store where
  durable : List JString
  pending : Option (List JString)

/-- A transaction is begun in the database, unless one is open. -/
def Store.begun (store : Store) : Store := ⟨store.durable, some (store.pending.getD [])⟩

def Store.committed (store : Store) : Store := ⟨store.durable ++ store.pending.getD [], none⟩

def Store.rolledBack (store : Store) : Store := ⟨store.durable, none⟩

def Store.change (store : Store) : TransactionChange → Store
  | .keeps => store
  | .opens => store.begun
  | .commits => store.committed
  | .rollsBack => store.rolledBack

/-- A statement outside transactions lasts at once. -/
def Store.write (store : Store) (sql : JString) : Store :=
  match store.pending with
  | some statements => ⟨store.durable, some (statements ++ [sql])⟩
  | none => ⟨store.durable ++ [sql], none⟩

/-- What a command makes of a store if it returns or throws. -/
def Store.apply (store : Store) (command : Command) (returned : Bool)
    (change : TransactionChange) : Store :=
  match command with
  | .begin _ => if returned then store.begun else store
  | .commit => if returned then store.committed else store
  | .rollback => if returned then store.rolledBack else store
  | .prepare _ => store
  | .statement _ sql => (if returned then store.write sql else store).change change

/-- What a command makes of a store that returns and does nothing to the transaction by itself. -/
def Store.after (store : Store) (command : Command) : Store := store.apply command true .keeps

/-- What all connections have come to. -/
structure Ledger where
  durable : List JString
  pending : Nat → Option (List JString)

def Ledger.view (ledger : Ledger) (connection : Nat) : Store :=
  ⟨ledger.durable, ledger.pending connection⟩

def Ledger.apply (ledger : Ledger) (connection : Nat) (command : Command) (returned : Bool)
    (change : TransactionChange) : Ledger :=
  let store := (ledger.view connection).apply command returned change
  ⟨store.durable, Function.update ledger.pending connection store.pending⟩

/-- What the database has made of the calls. -/
def ledgerOf (outside : Outside) : List OutsideCall → Ledger
  | [] => ⟨[], fun _ => none⟩
  | .execute connection command returned :: past =>
      (ledgerOf outside past).apply connection command returned (outside.changes past.length)
  | _ :: past => ledgerOf outside past

/-- What is remembered of the calls: the statements that were executed, and whether a call has
thrown since the one with this number. -/
structure Past where
  executed : List JString
  since : Nat
  failed : Bool

def Past.execute (past : Past) (statements : List JString) : Past :=
  { past with executed := past.executed ++ statements }

def Past.fail (past : Past) : Past := { past with failed := true }

@[simp] theorem Past.execute_nil (past : Past) : past.execute [] = past := by
  rw [Past.execute, List.append_nil]

/-- A session that uses its connection so often, and what it has done so far. -/
structure At (outside : Outside) (past : Past) (uses : Nat) (store : Store)
    (stack : List Transaction) (world : SessionWorld) : Prop where
  stack : world.session.mTransactionStack = stack
  holds : heldConnection world.calls = world.session.mConnection
  disciplined : Disciplined world.calls
  count : world.session.mConnectionUseCount = uses
  held : world.session.mConnection.isSome = decide (0 < uses)
  idle : uses = 0 → store.pending = none
  executed : executedOf world.calls = past.executed
  since : past.since ≤ world.calls.length
  failed : past.failed = true → Fails outside past.since world.calls.length
  durable : Settled outside world.calls → (ledgerOf outside world.calls).durable = store.durable
  pending : Settled outside world.calls → ∀ connection,
    (ledgerOf outside world.calls).pending connection =
      if world.session.mConnection = some connection then store.pending else none

/-! ## What the steps of a method do -/

section Steps

variable {outside : Outside} {past : Past} {uses : Nat} {store : Store}
  {stack : List Transaction}

open SQLiteSession

/-- A call that has thrown stays so when others follow. -/
theorem Fails.later {first last later : Nat} (fails : Fails outside first last)
    (longer : last ≤ later) : Fails outside first later := by
  obtain ⟨number, since, before, threw⟩ := fails
  exact ⟨number, since, Nat.lt_of_lt_of_le before longer, threw⟩

/-- The last call has thrown. -/
theorem Fails.last {first number : Nat} (since : first ≤ number)
    (threw : outside.returns number = false) : Fails outside first (number + 1) :=
  ⟨number, since, Nat.lt_succ_self number, threw⟩

/-- A call that changes nothing in the database and acquires or releases nothing. -/
theorem At.neutral {world : SessionWorld} (here : At outside past uses store stack world)
    {call : OutsideCall}
    (keepsConnection : heldConnection (call :: world.calls) = heldConnection world.calls)
    (allowed : call.AllowedBy (heldConnection world.calls))
    (keepsExecuted : executedOf (call :: world.calls) = executedOf world.calls)
    (keepsLedger : ledgerOf outside (call :: world.calls) = ledgerOf outside world.calls) :
    At outside past uses store stack { world with calls := call :: world.calls } where
  stack := here.stack
  holds := keepsConnection.trans here.holds
  disciplined := ⟨allowed, here.disciplined⟩
  count := here.count
  held := here.held
  idle := here.idle
  executed := keepsExecuted.trans here.executed
  since := Nat.le_succ_of_le here.since
  failed failed := (here.failed failed).later (Nat.le_succ _)
  durable settled := keepsLedger ▸ here.durable settled.2
  pending settled := keepsLedger ▸ here.pending settled.2

/-- It is remembered that the last call has thrown. -/
theorem At.threw {calls : List OutsideCall} {call : OutsideCall} {session : SQLiteSession}
    (here : At outside past uses store stack ⟨session, call :: calls⟩)
    (since : past.since ≤ calls.length) (threw : outside.returns calls.length = false) :
    At outside past.fail uses store stack ⟨session, call :: calls⟩ :=
  { here with failed := fun _ => Fails.last since threw }

theorem holds_calling {before : SessionWorld → Prop} {call : Bool → OutsideCall}
    {after : Except SessionException Unit → SessionWorld → Prop}
    (returned : ∀ world, before world →
      after (.ok ()) { world with calls := call true :: world.calls })
    (threw : ∀ world error, before world → outside.returns world.calls.length = false →
      after (.error error) { world with calls := call false :: world.calls }) :
    Holds before (calling outside call) after := by
  intro world known
  simp only [Effect.run, calling]
  cases ends : outside.returns world.calls.length with
  | true => exact returned world known
  | false => exact threw world _ known ends

/-- A call that changes nothing is made. -/
theorem holds_neutral {call : Bool → OutsideCall}
    (neutral : ∀ world returned, At outside past uses store stack world →
      At outside past uses store stack { world with calls := call returned :: world.calls }) :
    Holds (At outside past uses store stack) (calling outside call)
      (OnEnd (At outside past uses store stack) (At outside past.fail uses store stack)) :=
  holds_calling (fun world here => neutral world true here)
    fun world _ here ends => (neutral world false here).threw here.since ends

theorem holds_throwIfCanceled (cancellationSignal : Bool) :
    Holds (At outside past uses store stack) (throwIfCanceled outside cancellationSignal)
      (OnEnd (At outside past uses store stack) (At outside past.fail uses store stack)) :=
  holds_when (fun _ => holds_neutral fun _ _ here => here.neutral rfl trivial rfl rfl)
    fun _ _ here => here

theorem holds_notifying (transactionListener : Option Nat) (method : ListenerMethod) :
    Holds (At outside past uses store stack) (notifying outside transactionListener method)
      (OnEnd (At outside past uses store stack) (At outside past.fail uses store stack)) := by
  cases transactionListener with
  | none => exact fun _ here => here
  | some listener => exact holds_neutral fun _ _ here => here.neutral rfl trivial rfl rfl

/-- A session that uses a connection has one. -/
theorem At.connection {world : SessionWorld}
    (here : At outside past (uses + 1) store stack world) :
    ∃ connection, world.session.mConnection = some connection :=
  Option.isSome_iff_exists.mp (here.held.trans (decide_eq_true (Nat.succ_pos uses)))

theorem At.view {world : SessionWorld} {connection : Nat}
    (here : At outside past uses store stack world)
    (held : world.session.mConnection = some connection) (settled : Settled outside world.calls) :
    (ledgerOf outside world.calls).view connection = store := by
  have pending := here.pending settled connection
  rw [if_pos held] at pending
  rw [Ledger.view, here.durable settled, pending]

/-- The statement a command executes. -/
def Command.executes : Command → List JString
  | .statement _ sql => [sql]
  | _ => []

/-- A command that settles and returns does nothing to the transaction by itself. -/
theorem Store.apply_of_settles {connection : Nat} {command : Command} {change : TransactionChange}
    (settles : OutsideCall.settles change (.execute connection command true) = true)
    (store : Store) : store.apply command true change = store.after command := by
  cases command with
  | statement method sql =>
      obtain rfl := of_decide_eq_true settles
      rfl
  | begin | commit | rollback | prepare => rfl

/-- A command that settles and throws does nothing. -/
theorem Store.apply_false_of_settles {connection : Nat} {command : Command}
    {change : TransactionChange}
    (settles : OutsideCall.settles change (.execute connection command false) = true)
    (store : Store) : store.apply command false change = store := by
  cases command with
  | statement method sql =>
      obtain rfl := of_decide_eq_true settles
      rfl
  | begin | commit | rollback | prepare => rfl

/-- A command on the connection of the session makes a new store of the old one, if it settles. -/
theorem At.executed_call {world : SessionWorld} {connection : Nat} {command : Command}
    (here : At outside past (uses + 1) store stack world)
    (held : world.session.mConnection = some connection) {returned : Bool} {next : Past}
    {left : Store}
    (since : next.since = past.since) (failed : next.failed = true →
      Fails outside past.since (world.calls.length + 1))
    (executed : executedOf (.execute connection command returned :: world.calls) = next.executed)
    (settles : ∀ change,
      OutsideCall.settles change (.execute connection command returned) = true →
        store.apply command returned change = left) :
    At outside next (uses + 1) left stack
      { world with calls := .execute connection command returned :: world.calls } := by
  refine ⟨here.stack, here.holds, ⟨here.holds.trans held, here.disciplined⟩, here.count,
    here.held, nofun, executed, since ▸ Nat.le_succ_of_le here.since, since ▸ failed,
    fun settled => ?_, fun settled other => ?_⟩
  · have applied := settles _ settled.1
    simp only [ledgerOf, Ledger.apply, here.view held settled.2, applied]
  · have applied := settles _ settled.1
    have pending := here.pending settled.2 other
    simp only [ledgerOf, Ledger.apply, here.view held settled.2, held, applied,
      Option.some.injEq] at pending ⊢
    by_cases same : connection = other
    · rw [same, Function.update_self, if_pos rfl]
    · rw [if_neg same, Function.update_of_ne (Ne.symm same), pending, if_neg same]

/-- A command is executed or it throws. -/
theorem holds_executing (command : Command) (left : Store)
    {after : Except SessionException Unit → SessionWorld → Prop}
    (settles : ∀ connection change,
      OutsideCall.settles change (.execute connection command false) = true → store = left)
    (returned : ∀ world, At outside (past.execute command.executes) (uses + 1)
      (store.after command) stack world → after (.ok ()) world)
    (threw : ∀ world error, At outside past.fail (uses + 1) left stack world →
      after (.error error) world) :
    Holds (At outside past (uses + 1) store stack) (executing outside command) after := by
  intro world here
  obtain ⟨connection, held⟩ := here.connection
  simp only [Effect.run, executing, onConnection, bind, Effect.bind, reading, held, calling]
  cases ends : outside.returns world.calls.length with
  | true =>
      refine returned _ (here.executed_call held rfl (fun failed => ?_) ?_ fun change settled =>
        Store.apply_of_settles settled store)
      · exact (here.failed failed).later (Nat.le_succ _)
      · cases command with
        | statement method sql => exact congrArg (· ++ [sql]) here.executed
        | begin | commit | rollback | prepare =>
            exact here.executed.trans (List.append_nil past.executed).symm
  | false =>
      refine threw _ _ (here.executed_call held rfl (fun _ => ?_) ?_ fun change settled =>
        (Store.apply_false_of_settles settled store).trans (settles connection change settled))
      · exact Fails.last here.since ends
      · cases command <;> exact here.executed

theorem holds_changeSession {before : SessionWorld → Prop}
    {after : Except SessionException Unit → SessionWorld → Prop}
    {change : SQLiteSession → SQLiteSession}
    (known : ∀ world, before world →
      after (.ok ()) { world with session := change world.session }) :
    Holds before (changeSession change) after := known

/-- A session that uses no connection has none. -/
theorem At.missing {world : SessionWorld} (here : At outside past 0 store stack world) :
    world.session.mConnection = none := by
  have held : world.session.mConnection.isSome = false := here.held
  rwa [Option.isSome_eq_false_iff, Option.isNone_iff_eq_none] at held

/-- A connection is acquired. It has no open transaction. -/
theorem At.acquired {world : SessionWorld} (here : At outside past 0 store stack world)
    (sql : Option JString) (connectionFlags : BitVec 32) (connection : Nat) :
    At outside past 1 store stack
      { session := { world.session with
          mConnection := some connection
          mConnectionFlags := connectionFlags
          mConnectionUseCount := world.session.mConnectionUseCount + 1 }
        calls := .acquireConnection sql connectionFlags (some connection) :: world.calls } := by
  refine ⟨here.stack, rfl, ⟨here.holds.trans here.missing, here.disciplined⟩, ?_, rfl, nofun,
    here.executed, Nat.le_succ_of_le here.since,
    fun failed => (here.failed failed).later (Nat.le_succ _),
    fun settled => here.durable settled.2, fun settled other => ?_⟩
  · simp only [here.count]
    rfl
  · have pending := here.pending settled.2 other
    rw [here.idle rfl, ite_self] at pending ⊢
    exact pending

/-- The connection is used once more. -/
theorem At.again {world : SessionWorld} (here : At outside past (uses + 1) store stack world) :
    At outside past (uses + 2) store stack
      { world with session := { world.session with
          mConnectionUseCount := world.session.mConnectionUseCount + 1 } } where
  stack := here.stack
  holds := here.holds
  disciplined := here.disciplined
  count := by
    simp only [here.count]
    rfl
  held := by
    rw [here.held]
    simp
  idle := nofun
  executed := here.executed
  since := here.since
  failed := here.failed
  durable := here.durable
  pending := here.pending

theorem holds_acquireConnection (sql : Option JString) (connectionFlags : BitVec 32) :
    Holds (At outside past uses store stack) (acquireConnection outside sql connectionFlags)
      (OnEnd (At outside past (uses + 1) store stack)
        (At outside past.fail uses store stack)) := by
  unfold acquireConnection
  cases uses with
  | zero =>
      refine holds_known true (fun world here => ?_) fun world here => ?_
      · rw [hasConnection, here.missing]
        rfl
      · simp only [Effect.run, when, if_true, poolAcquireConnection, changeSession, changing, bind,
          Effect.bind]
        cases ends : outside.returns world.calls.length with
        | true => exact here.acquired sql connectionFlags _
        | false =>
            have kept : At outside past 0 store stack { world with
                calls := .acquireConnection sql connectionFlags none :: world.calls } :=
              here.neutral rfl (here.holds.trans here.missing) rfl rfl
            exact kept.threw here.since ends
  | succ uses =>
      refine holds_known false (fun world here => ?_) fun world here => ?_
      · obtain ⟨connection, held⟩ := here.connection
        rw [hasConnection, held]
        rfl
      · exact here.again

/-- The last use of a connection ends with its release, even if the pool throws. -/
theorem holds_releaseConnection (idle : uses = 0 → store.pending = none) :
    Holds (At outside past (uses + 1) store stack) (releaseConnection outside)
      (OnEnd (At outside past uses store stack) (At outside past.fail uses store stack)) := by
  intro world here
  obtain ⟨connection, held⟩ := here.connection
  cases uses with
  | zero =>
      have last : world.session.mConnectionUseCount - 1 = 0 := by
        rw [here.count]
        rfl
      have released : ∀ returned, At outside past 0 store stack
          { session := { world.session with
              mConnection := none
              mConnectionUseCount := 0 }
            calls := .releaseConnection connection returned :: world.calls } := by
        intro returned
        refine ⟨here.stack, rfl, ⟨here.holds.trans held, here.disciplined⟩, rfl, rfl, idle,
          here.executed, Nat.le_succ_of_le here.since,
          fun failed => (here.failed failed).later (Nat.le_succ _),
          fun settled => here.durable settled.2, fun settled other => ?_⟩
        have pending := here.pending settled.2 other
        rw [idle rfl, ite_self] at pending ⊢
        exact pending
      simp only [Effect.run, releaseConnection, changeSession, changing, reading, when, last,
        decide_true, if_true, ensuring, held, poolReleaseConnection, calling, bind, Effect.bind]
      cases ends : outside.returns world.calls.length with
      | true => exact released true
      | false => exact (released false).threw here.since ends
  | succ uses =>
      have more : world.session.mConnectionUseCount - 1 = ((uses + 1 : Nat) : Int) := by
        rw [here.count]
        omega
      have positive : ¬ ((uses + 1 : Nat) : Int) = 0 := by omega
      have stillHeld : world.session.mConnection.isSome = decide (0 < uses + 1) := by
        rw [here.held]
        simp
      simp only [Effect.run, releaseConnection, changeSession, changing, reading, when, more,
        positive, decide_false, Bool.false_eq_true, if_false, bind, Effect.bind]
      exact ⟨here.stack, here.holds, here.disciplined, rfl, stillHeld,
        fun unused => absurd unused uses.succ_ne_zero, here.executed, here.since, here.failed,
        here.durable, here.pending⟩

end Steps

/-! ## Between the methods -/

/-- A session between two calls of its methods: it has a connection, with a transaction open on it,
exactly while there are transactions on its stack. -/
inductive Between (outside : Outside) (past : Past) :
    Store → List Transaction → SessionWorld → Prop where
  | outside {durable : List JString} {world : SessionWorld}
      (here : At outside past 0 ⟨durable, none⟩ [] world) :
      Between outside past ⟨durable, none⟩ [] world
  | inside {durable pending : List JString} {top : Transaction} {rest : List Transaction}
      {world : SessionWorld}
      (here : At outside past 1 ⟨durable, some pending⟩ (top :: rest) world) :
      Between outside past ⟨durable, some pending⟩ (top :: rest) world

section Methods

variable {outside : Outside} {past : Past} {uses : Nat} {store : Store}
  {stack : List Transaction}

open SQLiteSession

theorem At.not_hasTransaction {world : SessionWorld} (here : At outside past uses store [] world) :
    (!world.session.hasTransaction) = true := by
  rw [hasTransaction, here.stack]
  rfl

theorem At.hasTransaction {world : SessionWorld} {top : Transaction} {rest : List Transaction}
    (here : At outside past uses store (top :: rest) world) :
    (!world.session.hasTransaction) = false := by
  rw [SQLiteSession.hasTransaction, here.stack]
  rfl

/-- The stack of a session is replaced. -/
theorem At.withStack {world : SessionWorld} (here : At outside past uses store stack world)
    (change : List Transaction → List Transaction) :
    At outside past uses store (change stack)
      { world with session := { world.session with
          mTransactionStack := change world.session.mTransactionStack } } where
  stack := congrArg change here.stack
  holds := here.holds
  disciplined := here.disciplined
  count := here.count
  held := here.held
  idle := here.idle
  executed := here.executed
  since := here.since
  failed := here.failed
  durable := here.durable
  pending := here.pending

theorem holds_beginOutside {durable : List JString} (transactionMode : Int)
    (transactionListener : Option Nat) (connectionFlags : BitVec 32)
    (cancellationSignal : Bool) :
    Holds (At outside past 0 ⟨durable, none⟩ [])
      (beginTransactionUnchecked outside transactionMode transactionListener connectionFlags
        cancellationSignal)
      (OnEnd (Between outside past ⟨durable, some []⟩
          [⟨transactionMode, transactionListener, false, false⟩])
        (Between outside past.fail ⟨durable, none⟩ [])) := by
  unfold beginTransactionUnchecked
  refine holds_bind (fun _ => At outside past 0 ⟨durable, none⟩ []) ?_ fun _ => ?_
  · exact (holds_throwIfCanceled cancellationSignal).either (fun _ _ here => here)
      fun _ _ here => .outside here
  refine holds_known true (fun _ here => here.not_hasTransaction) ?_
  refine holds_bind (fun _ => At outside past 1 ⟨durable, none⟩ []) ?_ fun _ => ?_
  · exact (holds_acquireConnection none connectionFlags).either (fun _ _ here => here)
      fun _ _ here => .outside here
  -- The transaction is on the stack if the body returns, and closed again if it throws.
  refine holds_ensuring (OnEnd (At outside past 1 ⟨durable, some []⟩
    [⟨transactionMode, transactionListener, false, false⟩])
    (At outside past.fail 1 ⟨durable, none⟩ [])) ?_ fun result => ?_
  · refine holds_known true (fun _ here => here.not_hasTransaction) ?_
    refine holds_bind (fun _ => At outside past 1 ⟨durable, some []⟩ []) ?_ fun _ => ?_
    · exact holds_executing (.begin transactionMode) _ (fun _ _ _ => rfl)
        (fun _ here => past.execute_nil ▸ here) fun _ _ here => here
    refine holds_bind (fun _ => At outside past 1 ⟨durable, some []⟩ []) ?_ fun _ => ?_
    · refine holds_catching (fun _ => At outside past.fail 1 ⟨durable, some []⟩ []) ?_
        fun exception => ?_
      · exact (holds_notifying transactionListener .onBegin).either (fun _ _ here => here)
          fun _ _ here => here
      refine holds_known true (fun _ here => here.not_hasTransaction) ?_
      refine holds_bind (fun _ => At outside past.fail 1 ⟨durable, none⟩ []) ?_ fun _ => ?_
      · exact holds_executing .rollback ⟨durable, none⟩ nofun
          (fun _ here => past.fail.execute_nil ▸ here) fun _ _ here => here
      · exact fun _ here => here
    · exact holds_changeSession fun _ here => here.withStack (_ :: ·)
  · cases result with
    | ok value =>
        refine holds_known false (fun _ here => here.hasTransaction) ?_
        exact fun _ here => .inside here
    | error exception =>
        refine holds_known true (fun _ here => here.not_hasTransaction) ?_
        exact (holds_releaseConnection fun _ => rfl).either (fun _ _ here => .outside here)
          fun _ _ here => .outside here

theorem holds_beginInside {durable pending : List JString} {top : Transaction}
    {rest : List Transaction} (transactionMode : Int) (transactionListener : Option Nat)
    (connectionFlags : BitVec 32) (cancellationSignal : Bool) :
    Holds (At outside past 1 ⟨durable, some pending⟩ (top :: rest))
      (beginTransactionUnchecked outside transactionMode transactionListener connectionFlags
        cancellationSignal)
      (OnEnd (Between outside past ⟨durable, some pending⟩
          (⟨transactionMode, transactionListener, false, false⟩ :: top :: rest))
        (Between outside past.fail ⟨durable, some pending⟩ (top :: rest))) := by
  unfold beginTransactionUnchecked
  refine holds_bind (fun _ => At outside past 1 ⟨durable, some pending⟩ (top :: rest)) ?_
    fun _ => ?_
  · exact (holds_throwIfCanceled cancellationSignal).either (fun _ _ here => here)
      fun _ _ here => .inside here
  refine holds_known false (fun _ here => here.hasTransaction) ?_
  refine holds_bind (fun _ => At outside past 1 ⟨durable, some pending⟩ (top :: rest)) ?_
    fun _ => ?_
  · exact fun _ here => here
  refine holds_ensuring (OnEnd (At outside past 1 ⟨durable, some pending⟩
    (⟨transactionMode, transactionListener, false, false⟩ :: top :: rest))
    (At outside past.fail 1 ⟨durable, some pending⟩ (top :: rest))) ?_ fun result => ?_
  · refine holds_known false (fun _ here => here.hasTransaction) ?_
    refine holds_bind (fun _ => At outside past 1 ⟨durable, some pending⟩ (top :: rest)) ?_
      fun _ => ?_
    · exact fun _ here => here
    refine holds_bind (fun _ => At outside past 1 ⟨durable, some pending⟩ (top :: rest)) ?_
      fun _ => ?_
    · refine holds_catching (fun _ => At outside past.fail 1 ⟨durable, some pending⟩ (top :: rest))
        ?_ fun exception => ?_
      · exact (holds_notifying transactionListener .onBegin).either (fun _ _ here => here)
          fun _ _ here => here
      refine holds_known false (fun _ here => here.hasTransaction) ?_
      exact fun _ here => here
    · exact holds_changeSession fun _ here => here.withStack (_ :: ·)
  · cases result with
    | ok value =>
        refine holds_known false (fun _ here => here.hasTransaction) ?_
        exact fun _ here => .inside here
    | error exception =>
        refine holds_known false (fun _ here => here.hasTransaction) ?_
        exact fun _ here => .inside here

theorem holds_beginTransactionUnchecked (transactionMode : Int)
    (transactionListener : Option Nat) (connectionFlags : BitVec 32)
    (cancellationSignal : Bool) :
    Holds (Between outside past store stack)
      (beginTransactionUnchecked outside transactionMode transactionListener connectionFlags
        cancellationSignal)
      (OnEnd (Between outside past store.begun
          (⟨transactionMode, transactionListener, false, false⟩ :: stack))
        (Between outside past.fail store stack)) := by
  intro world between
  cases between with
  | outside here =>
      exact holds_beginOutside transactionMode transactionListener connectionFlags
        cancellationSignal world here
  | inside here =>
      exact holds_beginInside transactionMode transactionListener connectionFlags
        cancellationSignal world here

/-! ### The end of a transaction -/

/-- The statements of the outermost transaction last if it is successful. -/
def Store.ended (store : Store) (successful : Bool) : List Transaction → Store
  | [] => if successful then store.committed else store.rolledBack
  | _ :: _ => store

/-- The parent of an unsuccessful transaction learns of it. -/
def informed (successful : Bool) (parents : List Transaction) : List Transaction :=
  if successful then parents else parents.modifyHead ({ · with mChildFailed := true })

/-- What is remembered after a method that had this result. -/
def Past.left (past : Past) : Except SessionException Unit → Past
  | .ok _ => past
  | .error _ => past.fail

/-- A second failure is nothing new. -/
theorem Past.fail_left {result : Except SessionException Unit} (past : Past)
    (threw : result ≠ .ok ()) : past.fail.left result = past.left result := by
  cases result with
  | ok value => exact absurd rfl threw
  | error exception => rfl

/-- The listener, if there is one, returns from the call with this number. -/
def Told (outside : Outside) (listener : Option Nat) (number : Nat) : Bool :=
  listener.isNone || outside.returns number

theorem holds_topTransaction {before : SessionWorld → Prop} {top : Transaction}
    {rest : List Transaction}
    (known : ∀ world, before world → world.session.mTransactionStack = top :: rest) :
    Holds before topTransaction
      (OnOk (fun found world => found = top ∧ before world)
        fun (_ : Except SessionException Unit) _ => False) := by
  unfold topTransaction
  refine holds_known (top :: rest) known ?_
  exact fun _ here => ⟨rfl, here⟩

/-- The listener has returned, or what it threw is kept and the transaction is unsuccessful. -/
def Notified (outside : Outside) (past : Past) (uses : Nat) (store : Store)
    (stack : List Transaction) (told successful : Bool)
    (found : Bool × Option SessionException) (world : SessionWorld) : Prop :=
  told = true ∧ found = (successful, none) ∧ At outside past uses store stack world ∨
    told = false ∧ (∃ exception, found = (false, some exception)) ∧
      At outside past.fail uses store stack world

theorem holds_notifyingEnd (listener : Option Nat) (successful : Bool) (number : Nat) :
    Holds (fun world => world.calls.length = number ∧ At outside past uses store stack world)
      (notifyingEnd outside listener successful)
      (OnOk (Notified outside past uses store stack (Told outside listener number) successful)
        fun (_ : Except SessionException Unit) _ => False) := by
  rintro world ⟨rfl, here⟩
  cases listener with
  | none => exact .inl ⟨rfl, rfl, here⟩
  | some listener =>
      have kept : ∀ method returned, At outside past uses store stack
          { world with calls := .listener listener method returned :: world.calls } :=
        fun _ _ => here.neutral rfl trivial rfl rfl
      simp only [Effect.run, notifyingEnd, catching, notifying, calling, bind, Effect.bind, Told,
        Option.isNone_some, Bool.false_or]
      cases ends : outside.returns world.calls.length with
      | true => exact .inl ⟨rfl, rfl, kept _ true⟩
      | false => exact .inr ⟨rfl, ⟨_, rfl⟩, (kept _ false).threw here.since ends⟩

/-- The connection is released after a command that has ended the transaction, or should have. -/
theorem holds_releasing {lasting : List JString} {command : Command}
    (ends : Holds (At outside past 1 store []) (executing outside command)
      (OnEnd (At outside past 1 ⟨lasting, none⟩ []) (At outside past.fail 1 ⟨lasting, none⟩ []))) :
    Holds (At outside past 1 store [])
      (ensuring (executing outside command) (releaseConnection outside))
      fun result => Between outside (past.left result) ⟨lasting, none⟩ [] := by
  refine holds_ensuring _ ends fun result => ?_
  cases result with
  | ok value =>
      exact (holds_releaseConnection fun _ => rfl).either (fun _ _ here => .outside here)
        fun _ _ here => .outside here
  | error exception =>
      exact (holds_releaseConnection fun _ => rfl).either (fun _ _ here => .outside here)
        fun _ _ here => .outside here

theorem holds_settleTransaction {durable pending : List JString} {rest : List Transaction}
    (successful : Bool) :
    Holds (At outside past 1 ⟨durable, some pending⟩ rest) (settleTransaction outside successful)
      fun result => Between outside (past.left result)
        (Store.ended ⟨durable, some pending⟩ successful rest) (informed successful rest) := by
  unfold settleTransaction
  cases rest with
  | nil =>
      refine holds_known false (fun _ here => by simpa using here.not_hasTransaction) ?_
      cases successful with
      | true =>
          exact holds_releasing (holds_executing .commit ⟨durable ++ pending, none⟩ nofun
            (fun _ here => past.execute_nil ▸ here) fun _ _ here => here)
      | false =>
          exact holds_releasing (holds_executing .rollback ⟨durable, none⟩ nofun
            (fun _ here => past.execute_nil ▸ here) fun _ _ here => here)
  | cons parent rest =>
      refine holds_known true (fun _ here => by simpa using here.hasTransaction) ?_
      cases successful with
      | true => exact fun _ here => .inside here
      | false =>
          intro world here
          exact Between.inside (here.withStack (List.modifyHead ({ · with mChildFailed := true })))

/-- A transaction is taken off the stack and settled. What its listener threw, which is remembered
as a failure, is thrown in the end. -/
theorem holds_finish {durable pending : List JString} {top : Transaction}
    {rest : List Transaction} (successful : Bool) (listenerException : Option SessionException)
    (remembered : listenerException ≠ none → past.fail = past) :
    Holds (At outside past 1 ⟨durable, some pending⟩ (top :: rest))
      (do
        changeSession fun session =>
          { session with mTransactionStack := session.mTransactionStack.tail }
        settleTransaction outside successful
        throwListenerException listenerException)
      fun result world => (result = .ok () → listenerException = none) ∧
        Between outside (past.left result) (Store.ended ⟨durable, some pending⟩ successful rest)
          (informed successful rest) world := by
  refine holds_bind (fun _ => At outside past 1 ⟨durable, some pending⟩ rest) ?_ fun _ => ?_
  · exact holds_changeSession fun _ here => here.withStack List.tail
  refine holds_bind (fun _ => Between outside past (Store.ended ⟨durable, some pending⟩
    successful rest) (informed successful rest)) ?_ fun _ => ?_
  · refine (holds_settleTransaction successful).weaken (fun _ => id) fun result world ended => ?_
    cases result with
    | ok value => exact ended
    | error thrown => exact ⟨nofun, ended⟩
  · intro world between
    cases listenerException with
    | none => exact ⟨fun _ => rfl, between⟩
    | some exception =>
        refine ⟨nofun, ?_⟩
        show Between outside past.fail _ _ world
        rwa [remembered (Option.some_ne_none exception)]

/-- A transaction has ended, and its listener has been told or not. If nothing is thrown it has. -/
def Ended (outside : Outside) (past : Past) (store : Store) (parents : List Transaction)
    (successful told : Bool) (result : Except SessionException Unit) (world : SessionWorld) :
    Prop :=
  (result = .ok () → told = true) ∧
    Between outside (past.left result) (store.ended (successful && told) parents)
      (informed (successful && told) parents) world

theorem holds_endTopTransaction {durable pending : List JString} {top : Transaction}
    {rest : List Transaction} (yielding : Bool) (number : Nat) :
    Holds (fun world => world.calls.length = number ∧
        At outside past 1 ⟨durable, some pending⟩ (top :: rest) world)
      (endTopTransaction outside yielding)
      (Ended outside past ⟨durable, some pending⟩ rest
        ((top.mMarkedSuccessful || yielding) && !top.mChildFailed)
        (Told outside top.mListener number)) := by
  unfold endTopTransaction
  refine holds_bind (fun found world => found = top ∧ world.calls.length = number ∧
    At outside past 1 ⟨durable, some pending⟩ (top :: rest) world) ?_ fun found => ?_
  · exact (holds_topTransaction fun _ known => known.2.stack).weaken (fun _ => id)
      fun result world known => by
        cases result with
        | ok found => exact known
        | error exception => exact known.elim
  rintro world ⟨rfl, known⟩
  generalize ((found.mMarkedSuccessful || yielding) && !found.mChildFailed) = successful
  revert world
  refine holds_bind (Notified outside past 1 ⟨durable, some pending⟩ (found :: rest)
    (Told outside found.mListener number) successful) ?_ fun told => ?_
  · exact (holds_notifyingEnd found.mListener successful number).weaken (fun _ => id)
      fun result world known => by
        cases result with
        | ok told => exact known
        | error exception => exact known.elim
  rintro world (⟨told, rfl, here⟩ | ⟨untold, ⟨exception, rfl⟩, here⟩)
  · obtain ⟨-, between⟩ :=
      holds_finish successful none (fun some => absurd rfl some) world here
    refine ⟨fun _ => told, ?_⟩
    rwa [told, Bool.and_true]
  · obtain ⟨threw, between⟩ :=
      holds_finish false (some exception) (fun _ => rfl) world here
    rw [Ended, untold, Bool.and_false]
    have notOk := mt threw (Option.some_ne_none exception)
    rw [Past.fail_left past notOk] at between
    exact ⟨fun returned => (notOk returned).elim, between⟩

/-- A transaction has ended, or its end was canceled before anything happened. -/
def EndedOrCanceled (outside : Outside) (past : Past) (store : Store) (top : Transaction)
    (rest : List Transaction) (cancellationSignal yielding : Bool) (number : Nat)
    (result : Except SessionException Unit) (world : SessionWorld) : Prop :=
  (∃ told, (cancellationSignal = false → told = Told outside top.mListener number) ∧
    Ended outside past store rest ((top.mMarkedSuccessful || yielding) && !top.mChildFailed) told
      result world) ∨
    cancellationSignal = true ∧ (∃ exception, result = .error exception) ∧
      Between outside past.fail store (top :: rest) world

theorem holds_endTransactionUnchecked {top : Transaction} {rest : List Transaction}
    (cancellationSignal yielding : Bool) (number : Nat) :
    Holds (fun world => world.calls.length = number ∧
        Between outside past store (top :: rest) world)
      (endTransactionUnchecked outside cancellationSignal yielding)
      (EndedOrCanceled outside past store top rest cancellationSignal yielding number) := by
  have general : ∀ durable pending, Holds (fun world => world.calls.length = number ∧
        At outside past 1 ⟨durable, some pending⟩ (top :: rest) world)
      (endTransactionUnchecked outside cancellationSignal yielding)
      (EndedOrCanceled outside past ⟨durable, some pending⟩ top rest cancellationSignal yielding
        number) := by
    intro durable pending
    unfold endTransactionUnchecked
    cases cancellationSignal with
    | false =>
        intro world known
        exact .inl ⟨_, fun _ => rfl, holds_endTopTransaction yielding number world known⟩
    | true =>
        refine holds_bind (fun _ => At outside past 1 ⟨durable, some pending⟩ (top :: rest)) ?_
          fun _ world here => ?_
        · refine ((holds_throwIfCanceled true).either (fun _ _ here => here)
            fun exception _ here => ?_).weaken (fun _ known => known.2) fun _ _ => id
          exact .inr ⟨rfl, ⟨exception, rfl⟩, .inside here⟩
        · exact .inl ⟨_, nofun, holds_endTopTransaction yielding _ world ⟨rfl, here⟩⟩
  rintro world ⟨numbered, between⟩
  cases between with
  | inside here => exact general _ _ world ⟨numbered, here⟩

/-! ### Statements -/

/-- A command that leaves the transactions alone has been executed, if nothing is thrown. -/
def Executed (outside : Outside) (past : Past) (store : Store) (stack : List Transaction)
    (command : Command) (result : Except SessionException Unit) (world : SessionWorld) : Prop :=
  Between outside past.fail store stack world ∧ (∃ exception, result = .error exception) ∨
    Between outside ((past.execute command.executes).left result) (store.after command) stack
      world

/-- The command is no part of the control of transactions. -/
def Command.IsPlain : Command → Prop
  | .prepare _ => True
  | .statement _ _ => True
  | _ => False

theorem holds_withConnection (sql : JString) (connectionFlags : BitVec 32) (command : Command)
    (plain : command.IsPlain) :
    Holds (Between outside past store stack)
      (withConnection outside sql connectionFlags command)
      (Executed outside past store stack command) := by
  -- The connection may be in use already, or it is acquired for this command alone.
  have general : ∀ uses, (uses = 0 → store.pending = none) →
      (∀ past world, At outside past uses store stack world →
        Between outside past store stack world) →
      (∀ past world, At outside past uses (store.after command) stack world →
        Between outside past (store.after command) stack world) →
      (uses = 0 → (store.after command).pending = none) →
      Holds (At outside past uses store stack)
        (withConnection outside sql connectionFlags command)
        (Executed outside past store stack command) := by
    intro uses idle unchanged changed idleAfter
    unfold withConnection
    refine holds_bind (fun _ => At outside past (uses + 1) store stack) ?_ fun _ => ?_
    · exact (holds_acquireConnection (some sql) connectionFlags).either (fun _ _ here => here)
        fun exception _ here => .inl ⟨unchanged _ _ here, exception, rfl⟩
    refine holds_ensuring (OnEnd
      (At outside (past.execute command.executes) (uses + 1) (store.after command) stack)
      (At outside past.fail (uses + 1) store stack)) ?_ fun result => ?_
    · exact holds_executing command store (fun _ _ _ => rfl) (fun _ here => here)
        fun _ _ here => here
    · cases result with
      | ok value =>
          exact (holds_releaseConnection idleAfter).either
            (fun _ _ here => .inr (changed _ _ here)) fun _ _ here => .inr (changed _ _ here)
      | error exception =>
          exact (holds_releaseConnection idle).either
            (fun _ _ here => .inl ⟨unchanged _ _ here, exception, rfl⟩)
            fun replaced _ here => .inl ⟨unchanged _ _ here, replaced, rfl⟩
  intro world between
  cases between with
  | outside here =>
      refine general 0 (fun _ => rfl) (fun _ _ => .outside) ?_ ?_ world here
      · cases command with
        | prepare | statement => exact fun _ _ => .outside
        | begin | commit | rollback => exact plain.elim
      · cases command with
        | prepare | statement => exact fun _ => rfl
        | begin | commit | rollback => exact plain.elim
  | inside here =>
      refine general 1 nofun (fun _ _ => .inside) ?_ nofun world here
      cases command with
      | prepare | statement => exact fun _ _ => .inside
      | begin | commit | rollback => exact plain.elim

/-! ## Every run -/

/-- A session between two requests. -/
def Steady (outside : Outside) (world : SessionWorld) : Prop :=
  ∃ past store stack, Between outside past store stack world

theorem Between.neutral {world : SessionWorld}
    (between : Between outside past store stack world)
    {call : OutsideCall}
    (keepsConnection : heldConnection (call :: world.calls) = heldConnection world.calls)
    (allowed : call.AllowedBy (heldConnection world.calls))
    (keepsExecuted : executedOf (call :: world.calls) = executedOf world.calls)
    (keepsLedger : ledgerOf outside (call :: world.calls) = ledgerOf outside world.calls) :
    Between outside past store stack { world with calls := call :: world.calls } := by
  cases between with
  | outside here =>
      exact .outside (here.neutral keepsConnection allowed keepsExecuted keepsLedger)
  | inside here =>
      exact .inside (here.neutral keepsConnection allowed keepsExecuted keepsLedger)

theorem Between.mTransactionStack {world : SessionWorld}
    (between : Between outside past store stack world) :
    world.session.mTransactionStack = stack := by
  cases between with
  | outside here => exact here.stack
  | inside here => exact here.stack

theorem Between.hasTransaction {world : SessionWorld}
    (between : Between outside past store stack world) :
    world.session.hasTransaction = !stack.isEmpty := by
  cases between with
  | outside here => rw [SQLiteSession.hasTransaction, here.stack]
  | inside here => rw [SQLiteSession.hasTransaction, here.stack]

theorem holds_throwIf {before : SessionWorld → Prop} (condition : SQLiteSession → Bool)
    (message : JString) :
    Holds before (throwIf condition message)
      (OnEnd (fun world => before world ∧ condition world.session = false) before) := by
  intro world known
  simp only [Effect.run, throwIf, reading, when, bind, Effect.bind]
  cases refused : condition world.session with
  | true => exact known
  | false => exact ⟨known, refused⟩

theorem holds_canceling {before : SessionWorld → Prop} (cancellationSignal : Bool)
    (kept : ∀ world returns, before world →
      before { world with calls := .throwIfCanceled returns :: world.calls }) :
    Holds before (throwIfCanceled outside cancellationSignal) fun _ => before :=
  holds_when (fun _ => holds_calling (fun world => kept world true)
    fun world _ known _ => kept world false known) fun _ _ known => known

theorem Steady.neutral {world : SessionWorld} (steady : Steady outside world) (returns : Bool) :
    Steady outside { world with calls := .throwIfCanceled returns :: world.calls } := by
  obtain ⟨past, store, stack, between⟩ := steady
  exact ⟨past, store, stack, between.neutral rfl trivial rfl rfl⟩

theorem steady_throwIfCanceled (cancellationSignal : Bool) :
    Holds (Steady outside) (throwIfCanceled outside cancellationSignal) fun _ => Steady outside :=
  holds_canceling cancellationSignal fun _ returns steady => steady.neutral returns

theorem steady_beginTransactionUnchecked (transactionMode : Int)
    (transactionListener : Option Nat) (connectionFlags : BitVec 32)
    (cancellationSignal : Bool) :
    Holds (Steady outside) (beginTransactionUnchecked outside transactionMode transactionListener
      connectionFlags cancellationSignal) fun _ => Steady outside := by
  rintro world ⟨past, store, stack, between⟩
  have known : Holds (Between outside past store stack) (beginTransactionUnchecked outside
      transactionMode transactionListener connectionFlags cancellationSignal)
      fun _ => Steady outside :=
    (holds_beginTransactionUnchecked _ _ _ _).either (fun _ _ began => ⟨_, _, _, began⟩)
      fun _ _ kept => ⟨_, _, _, kept⟩
  exact known world between

theorem steady_beginTransaction (transactionMode : Int) (transactionListener : Option Nat)
    (connectionFlags : BitVec 32) (cancellationSignal : Bool) :
    Holds (Steady outside) (beginTransaction outside transactionMode transactionListener
      connectionFlags cancellationSignal) fun _ => Steady outside := by
  unfold beginTransaction
  refine holds_bind (fun _ => Steady outside) ?_ fun _ => ?_
  · exact (holds_throwIf _ _).either (fun _ _ known => known.1) fun _ _ known => known
  · exact steady_beginTransactionUnchecked transactionMode transactionListener connectionFlags
      cancellationSignal

theorem steady_changeTop (change : Transaction → Transaction) :
    Holds (Steady outside) (changeTop change) fun _ => Steady outside := by
  rintro world ⟨past, store, stack, between⟩
  cases between with
  | outside here => exact ⟨_, _, _, .outside (here.withStack (List.modifyHead change))⟩
  | inside here => exact ⟨_, _, _, .inside (here.withStack (List.modifyHead change))⟩

theorem steady_throwIf (condition : SQLiteSession → Bool) (message : JString) :
    Holds (Steady outside) (throwIf condition message) fun _ => Steady outside :=
  (holds_throwIf condition message).either (fun _ _ known => known.1) fun _ _ known => known

theorem steady_setTransactionSuccessful :
    Holds (Steady outside) setTransactionSuccessful fun _ => Steady outside := by
  unfold setTransactionSuccessful
  refine holds_bind (fun _ => Steady outside) ?_ fun _ => ?_
  · exact (steady_throwIf _ _).anyway (fun _ _ => id) fun _ _ => id
  refine holds_bind (fun _ => Steady outside) ?_ fun _ => ?_
  · exact (steady_throwIf _ _).anyway (fun _ _ => id) fun _ _ => id
  · exact steady_changeTop _

theorem steady_of_inside {top : Transaction} {rest : List Transaction}
    (cancellationSignal yielding : Bool) :
    Holds (Between outside past store (top :: rest))
      (endTransactionUnchecked outside cancellationSignal yielding) fun _ => Steady outside := by
  intro world between
  rcases holds_endTransactionUnchecked cancellationSignal yielding _ world ⟨rfl, between⟩ with
    ⟨told, -, -, ended⟩ | ⟨-, -, same⟩
  · exact ⟨_, _, _, ended⟩
  · exact ⟨_, _, _, same⟩

theorem steady_endTransactionUnchecked (cancellationSignal yielding : Bool) :
    Holds (fun world => Steady outside world ∧ (!world.session.hasTransaction) = false)
      (endTransactionUnchecked outside cancellationSignal yielding) fun _ => Steady outside := by
  rintro world ⟨⟨past, store, stack, between⟩, nonempty⟩
  rw [between.hasTransaction, Bool.not_not] at nonempty
  cases stack with
  | nil => exact nomatch nonempty
  | cons top rest => exact steady_of_inside cancellationSignal yielding world between

theorem steady_endTransaction (cancellationSignal : Bool) :
    Holds (Steady outside) (endTransaction outside cancellationSignal) fun _ => Steady outside := by
  unfold endTransaction
  refine holds_bind
    (fun _ world => Steady outside world ∧ (!world.session.hasTransaction) = false) ?_
    fun _ => steady_endTransactionUnchecked cancellationSignal false
  exact (holds_throwIf _ _).either (fun _ _ known => known) fun _ _ known => known

/-- The pool is asked about the connection that it has given out. -/
theorem holds_shouldYield {top : Transaction} {rest : List Transaction}
    (connectionFlags : BitVec 32) :
    Holds (Between outside past store (top :: rest))
      (onConnection fun connection =>
        poolShouldYieldConnection outside connection connectionFlags)
      fun _ => Between outside past store (top :: rest) := by
  intro world between
  have given : ∃ connection, world.session.mConnection = some connection ∧
      heldConnection world.calls = some connection := by
    cases between with
    | inside here =>
        obtain ⟨connection, held⟩ := here.connection
        exact ⟨connection, held, here.holds.trans held⟩
  obtain ⟨connection, held, known⟩ := given
  simp only [Effect.run, onConnection, bind, Effect.bind, reading, held,
    poolShouldYieldConnection]
  cases outside.returns world.calls.length with
  | true => exact between.neutral rfl known rfl rfl
  | false => exact between.neutral rfl known rfl rfl

theorem steady_yieldTransactionUnchecked (cancellationSignal : Bool) {top : Transaction}
    {rest : List Transaction} :
    Holds (Between outside past store (top :: rest))
      (yieldTransactionUnchecked outside cancellationSignal) fun _ => Steady outside := by
  unfold yieldTransactionUnchecked
  refine holds_bind (fun _ => Between outside past store (top :: rest)) ?_ fun _ => ?_
  · exact (holds_canceling cancellationSignal fun _ _ between =>
      between.neutral rfl trivial rfl rfl).anyway (fun _ _ => id) fun _ _ kept => ⟨_, _, _, kept⟩
  refine holds_bind (fun _ => Between outside past store (top :: rest)) ?_ fun connectionFlags => ?_
  · exact holds_reading fun _ => id
  refine holds_bind (fun _ => Between outside past store (top :: rest)) ?_ fun shouldYield => ?_
  · exact (holds_shouldYield connectionFlags).anyway (fun _ _ => id)
      fun _ _ kept => ⟨_, _, _, kept⟩
  cases shouldYield with
  | false => exact fun _ kept => ⟨_, _, _, kept⟩
  | true =>
      refine holds_bind (fun _ => Between outside past store (top :: rest)) ?_ fun found => ?_
      · refine (holds_topTransaction fun world between => between.mTransactionStack).weaken
          (fun _ => id) fun result world known => ?_
        cases result with
        | ok found => exact known.2
        | error exception => exact known.elim
      refine holds_bind (fun _ => Steady outside) ?_ fun _ => ?_
      · exact (steady_of_inside cancellationSignal true).anyway (fun _ _ => id) fun _ _ => id
      refine holds_bind (fun _ => Steady outside) ?_ fun _ => fun _ => id
      exact (steady_beginTransactionUnchecked _ _ _ _).anyway (fun _ _ => id) fun _ _ => id

theorem steady_yieldTransaction (throwIfUnsafe cancellationSignal : Bool) :
    Holds (Steady outside) (yieldTransaction outside throwIfUnsafe cancellationSignal)
      fun _ => Steady outside := by
  unfold yieldTransaction
  refine holds_bind (fun _ => Steady outside) ?_ fun _ => ?_
  · refine (holds_when (fun _ => ?_) fun _ _ => id :
      Holds (Steady outside) _ fun _ => Steady outside).anyway (fun _ _ => id) fun _ _ => id
    refine holds_bind (fun _ => Steady outside) ?_ fun _ => ?_
    · exact (steady_throwIf _ _).anyway (fun _ _ => id) fun _ _ => id
    refine holds_bind (fun _ => Steady outside) ?_ fun _ => steady_throwIf _ _
    exact (steady_throwIf _ _).anyway (fun _ _ => id) fun _ _ => id
  refine holds_bind (fun session world => session = world.session ∧ Steady outside world) ?_
    fun session => ?_
  · exact holds_reading fun _ steady => ⟨rfl, steady⟩
  rintro world ⟨rfl, executed, store, stack, between⟩
  cases stack with
  | nil =>
      rw [between.hasTransaction]
      exact ⟨_, _, _, between⟩
  | cons top rest =>
      split
      · exact ⟨_, _, _, between⟩
      · exact steady_yieldTransactionUnchecked cancellationSignal world between

theorem steady_withConnection (sql : JString) (connectionFlags : BitVec 32) {command : Command}
    (plain : command.IsPlain) :
    Holds (Steady outside) (withConnection outside sql connectionFlags command)
      fun _ => Steady outside := by
  rintro world ⟨past, store, stack, between⟩
  rcases holds_withConnection sql connectionFlags command plain world between with ⟨kept, _⟩ | done
  · exact ⟨_, _, _, kept⟩
  · exact ⟨_, _, _, done⟩

theorem steady_executeSpecial (sql : JString) (connectionFlags : BitVec 32)
    (cancellationSignal : Bool) :
    Holds (Steady outside) (executeSpecial outside sql connectionFlags cancellationSignal)
      fun _ => Steady outside := by
  unfold executeSpecial
  refine holds_bind (fun _ => Steady outside) ?_ fun _ => ?_
  · exact (steady_throwIfCanceled _).anyway (fun _ _ => id) fun _ _ => id
  cases getSqlStatementType outside.toUpperCase sql with
  | begin =>
      refine holds_bind (fun _ => Steady outside) ?_ fun _ => fun _ => id
      exact (steady_beginTransaction _ _ _ _).anyway (fun _ _ => id) fun _ _ => id
  | commit =>
      refine holds_bind (fun _ => Steady outside) ?_ fun _ => ?_
      · exact steady_setTransactionSuccessful.anyway (fun _ _ => id) fun _ _ => id
      refine holds_bind (fun _ => Steady outside) ?_ fun _ => fun _ => id
      exact (steady_endTransaction _).anyway (fun _ _ => id) fun _ _ => id
  | abort =>
      refine holds_bind (fun _ => Steady outside) ?_ fun _ => fun _ => id
      exact (steady_endTransaction _).anyway (fun _ _ => id) fun _ _ => id
  | select | update | attach | pragma | ddl | unprepared | other => exact fun _ => id

theorem steady_perform (request : Request) :
    Holds (Steady outside) (request.perform outside) fun _ => Steady outside := by
  cases request with
  | beginTransaction transactionMode transactionListener connectionFlags cancellationSignal =>
      exact steady_beginTransaction _ _ _ _
  | setTransactionSuccessful => exact steady_setTransactionSuccessful
  | endTransaction cancellationSignal => exact steady_endTransaction _
  | yieldTransaction throwIfUnsafe cancellationSignal =>
      refine holds_bind (fun _ => Steady outside) ?_ fun _ => fun _ => id
      exact (steady_yieldTransaction _ _).anyway (fun _ _ => id) fun _ _ => id
  | prepare sql connectionFlags cancellationSignal =>
      refine holds_bind (fun _ => Steady outside) ?_ fun _ => steady_withConnection _ _ trivial
      exact (steady_throwIfCanceled _).anyway (fun _ _ => id) fun _ _ => id
  | runStatement method sql connectionFlags cancellationSignal =>
      refine holds_bind (fun _ => Steady outside) ?_ fun special => ?_
      · exact (steady_executeSpecial _ _ _).anyway (fun _ _ => id) fun _ _ => id
      · exact holds_when (fun _ => steady_withConnection _ _ trivial) fun _ _ => id

theorem steady_after (requests : List Request) :
    Steady outside ((machine outside).after ⟨create, []⟩ requests) := by
  refine Machine.invariant (Steady outside) (fun world request steady =>
    steady_perform request world steady) ?_ requests
  exact ⟨⟨[], 0, false⟩, ⟨[], none⟩, [], .outside ⟨rfl, rfl, trivial, rfl, rfl, fun _ => rfl, rfl,
    Nat.le_refl 0, nofun, fun _ => rfl, fun _ _ => rfl⟩⟩

/-- Whatever is asked of a session and whatever fails, it acquires a connection only when it has
none, uses and releases only the one it has, and has one exactly while a transaction is open. As
long as no commit and no rollback has failed and no statement has opened or ended a transaction by
itself, one is open in the database on that connection and on no other. -/
theorem discipline_after (outside : Outside) (requests : List Request) :
    let world := (machine outside).after ⟨create, []⟩ requests
    Disciplined world.calls ∧
      heldConnection world.calls = world.session.mConnection ∧
      world.session.hasConnection = world.session.hasTransaction ∧
      world.session.mConnectionUseCount = (if world.session.hasTransaction then 1 else 0) ∧
      (Settled outside world.calls → ∀ connection,
        ((ledgerOf outside world.calls).pending connection).isSome =
          decide (world.session.mConnection = some connection)) := by
  have steady : Steady outside ((machine outside).after ⟨create, []⟩ requests) :=
    steady_after requests
  generalize (machine outside).after ⟨create, []⟩ requests = world at steady
  obtain ⟨past, store, stack, between⟩ := steady
  cases between with
  | outside here =>
      have transaction : world.session.hasTransaction = false := by simpa using
        here.not_hasTransaction
      refine ⟨here.disciplined, here.holds, ?_, ?_, fun settled connection => ?_⟩
      · rw [hasConnection, here.held, transaction]
        rfl
      · rw [here.count, transaction]
        rfl
      · rw [here.pending settled connection, ite_self, here.missing]
        rfl
  | inside here =>
      have transaction : world.session.hasTransaction = true := by simpa using
        here.hasTransaction
      refine ⟨here.disciplined, here.holds, ?_, ?_, fun settled connection => ?_⟩
      · rw [hasConnection, here.held, transaction]
        rfl
      · rw [here.count, transaction]
        rfl
      · rw [here.pending settled connection]
        split
        case isTrue held => rw [decide_eq_true held]; rfl
        case isFalse other => rw [decide_eq_false other]; rfl

end Methods

end Openpyn.Database
