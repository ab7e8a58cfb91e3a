import Openpyn.Database.Transactions

/-!
# Transactions are all or nothing

A program opens a transaction, marks it successful if nothing is thrown inside, and ends it in any
case. Transactions may be nested and exceptions may be caught anywhere. `Inside` and
`Outermost` say what a program means without a session: the statements it executes and those that
last. Every run of a session has such a meaning.
-/

namespace Openpyn.Database

open Foundation Java Effect

/-! ## Programs -/

/-- What the callers of a session are made of. -/
inductive Program where
  | skip
  | statement (method : StatementMethod) (sql : JString)
  | fail
  | sequence (first second : Program)
  /-- `try … catch` with an empty handler. -/
  | attempt (body : Program)
  /-- `beginTransaction`, and `setTransactionSuccessful` after the body and `endTransaction` in
  `finally`. -/
  | transaction (transactionMode : Int) (transactionListener : Option Nat) (body : Program)

/-- The statement is no way to begin or to end a transaction. -/
def SQLiteStatementType.leavesTransactions : SQLiteStatementType → Bool
  | .begin => false
  | .commit => false
  | .abort => false
  | _ => true

/-- Transactions are controlled by the methods of the session alone. -/
def Program.IsPlain (toUpperCase : JString → JString) : Program → Prop
  | .skip => True
  | .statement _ sql => (getSqlStatementType toUpperCase sql).leavesTransactions = true
  | .fail => True
  | .sequence first second => first.IsPlain toUpperCase ∧ second.IsPlain toUpperCase
  | .attempt body => body.IsPlain toUpperCase
  | .transaction _ _ body => body.IsPlain toUpperCase

/-- A program on a session. -/
def Program.run (outside : Outside) (connectionFlags : BitVec 32) : Program → SessionMethod Unit
  | .skip => pure ()
  | .statement method sql => SQLiteSession.runStatement outside method sql connectionFlags false
  | .fail => throwing .caller
  | .sequence first second => do
      first.run outside connectionFlags
      second.run outside connectionFlags
  | .attempt body => catching (body.run outside connectionFlags) fun _ => pure ()
  | .transaction transactionMode transactionListener body => do
      SQLiteSession.beginTransaction outside transactionMode transactionListener connectionFlags
        false
      ensuring
        (do
          body.run outside connectionFlags
          SQLiteSession.setTransactionSuccessful)
        (SQLiteSession.endTransaction outside false)

/-! ## Their meaning -/

/-- A transaction returns if its body has returned and its listener does. Otherwise it throws, and
if the body has returned then because a call has thrown from the one of the listener on. -/
structure Ends (outside : Outside) (transactionListener : Option Nat) (stop last : Nat)
    (bodyReturned returned : Bool) : Prop where
  order : stop ≤ last
  returns : returned = true → bodyReturned = true ∧ Told outside transactionListener stop = true
  throws : returned = false → bodyReturned = false ∨ Fails outside stop last

/-- What a program means inside a transaction: the numbers of the calls it begins and ends with, the
statements it executes, whether all transactions in it are successful, and whether it returns. -/
inductive Inside (outside : Outside) : Program → Nat → Nat → List JString → Bool → Bool → Prop where
  | skip (number : Nat) : Inside outside .skip number number [] true true
  | executed (method : StatementMethod) (sql : JString) {first last : Nat} {returned : Bool}
      (fails : returned = false → Fails outside first last) :
      Inside outside (.statement method sql) first last [sql] true returned
  | refused (method : StatementMethod) (sql : JString) {first last : Nat}
      (fails : Fails outside first last) :
      Inside outside (.statement method sql) first last [] true false
  | fail (number : Nat) : Inside outside .fail number number [] true false
  | sequence {first second : Program} {start middle last : Nat} {statements others : List JString}
      {clean otherClean returned : Bool}
      (begins : Inside outside first start middle statements clean true)
      (goesOn : Inside outside second middle last others otherClean returned) :
      Inside outside (.sequence first second) start last (statements ++ others)
        (clean && otherClean) returned
  | stopped {first : Program} (second : Program) {start last : Nat} {statements : List JString}
      {clean : Bool} (begins : Inside outside first start last statements clean false) :
      Inside outside (.sequence first second) start last statements clean false
  | attempt {body : Program} {first last : Nat} {statements : List JString} {clean returned : Bool}
      (tried : Inside outside body first last statements clean returned) :
      Inside outside (.attempt body) first last statements clean true
  | notBegun (transactionMode : Int) (transactionListener : Option Nat) (body : Program)
      {first last : Nat} (fails : Fails outside first last) :
      Inside outside (.transaction transactionMode transactionListener body) first last [] true
        false
  /-- The listener of the transaction is told of the end as soon as the body has ended. -/
  | transaction (transactionMode : Int) (transactionListener : Option Nat) {body : Program}
      {first start stop last : Nat} {statements : List JString} {clean bodyReturned returned : Bool}
      (begun : first ≤ start)
      (within : Inside outside body start stop statements clean bodyReturned)
      (ended : Ends outside transactionListener stop last bodyReturned returned) :
      Inside outside (.transaction transactionMode transactionListener body) first last statements
        (clean && bodyReturned && Told outside transactionListener stop) returned

/-- What a program means with no transaction open: the numbers of the calls it begins and ends with,
the statements it executes, those of them that last, and whether it returns. -/
inductive Outermost (outside : Outside) :
    Program → Nat → Nat → List JString → List JString → Bool → Prop where
  | skip (number : Nat) : Outermost outside .skip number number [] [] true
  | executed (method : StatementMethod) (sql : JString) {first last : Nat} {returned : Bool}
      (fails : returned = false → Fails outside first last) :
      Outermost outside (.statement method sql) first last [sql] [sql] returned
  | refused (method : StatementMethod) (sql : JString) {first last : Nat}
      (fails : Fails outside first last) :
      Outermost outside (.statement method sql) first last [] [] false
  | fail (number : Nat) : Outermost outside .fail number number [] [] false
  | sequence {first second : Program} {start middle last : Nat}
      {statements others lasting otherLasting : List JString} {returned : Bool}
      (begins : Outermost outside first start middle statements lasting true)
      (goesOn : Outermost outside second middle last others otherLasting returned) :
      Outermost outside (.sequence first second) start last (statements ++ others)
        (lasting ++ otherLasting) returned
  | stopped {first : Program} (second : Program) {start last : Nat}
      {statements lasting : List JString}
      (begins : Outermost outside first start last statements lasting false) :
      Outermost outside (.sequence first second) start last statements lasting false
  | attempt {body : Program} {first last : Nat} {statements lasting : List JString}
      {returned : Bool} (tried : Outermost outside body first last statements lasting returned) :
      Outermost outside (.attempt body) first last statements lasting true
  | notBegun (transactionMode : Int) (transactionListener : Option Nat) (body : Program)
      {first last : Nat} (fails : Fails outside first last) :
      Outermost outside (.transaction transactionMode transactionListener body) first last [] []
        false
  /-- All statements last or none, whatever happens after the listener was told of the end. -/
  | transaction (transactionMode : Int) (transactionListener : Option Nat) {body : Program}
      {first start stop last : Nat} {statements : List JString} {clean bodyReturned returned : Bool}
      (begun : first ≤ start)
      (within : Inside outside body start stop statements clean bodyReturned)
      (ended : Ends outside transactionListener stop last bodyReturned returned) :
      Outermost outside (.transaction transactionMode transactionListener body) first last
        statements
        (if clean && bodyReturned && Told outside transactionListener stop then statements else [])
        returned

/-! ## Runs have a meaning -/

/-- Whether a method returns. -/
def returns : Except SessionException Unit → Bool
  | .ok _ => true
  | .error _ => false

section Runs

variable {outside : Outside} {connectionFlags : BitVec 32} {past : Past}
  {executed : List JString} {number : Nat} {store : Store} {stack : List Transaction}

open SQLiteSession

/-- A session that has made so many calls. No failure is remembered. -/
def Now (outside : Outside) (executed : List JString) (number : Nat) (store : Store)
    (stack : List Transaction) (world : SessionWorld) : Prop :=
  world.calls.length = number ∧ Between outside ⟨executed, number, false⟩ store stack world

/-- What is remembered of failures is forgotten. -/
theorem Between.now {world : SessionWorld} (between : Between outside past store stack world) :
    Now outside past.executed world.calls.length store stack world := by
  cases between with
  | outside here =>
      exact ⟨rfl, .outside { here with since := Nat.le_refl _, failed := nofun }⟩
  | inside here =>
      exact ⟨rfl, .inside { here with since := Nat.le_refl _, failed := nofun }⟩

theorem Between.since {world : SessionWorld} (between : Between outside past store stack world) :
    past.since ≤ world.calls.length := by
  cases between with
  | outside here => exact here.since
  | inside here => exact here.since

theorem Between.fails {world : SessionWorld}
    (between : Between outside past.fail store stack world) :
    Fails outside past.since world.calls.length := by
  cases between with
  | outside here => exact here.failed rfl
  | inside here => exact here.failed rfl

/-- The transaction has learned whether all transactions inside it were successful. -/
def Transaction.heard (transaction : Transaction) (clean : Bool) : Transaction :=
  { transaction with mChildFailed := transaction.mChildFailed || !clean }

@[simp] theorem Transaction.heard_true (transaction : Transaction) :
    transaction.heard true = transaction := by
  simp [Transaction.heard]

/-- What is known after a program that ran inside a transaction. -/
def RanInside (outside : Outside) (program : Program) (executed : List JString) (first : Nat)
    (durable pending : List JString) (top : Transaction) (rest : List Transaction)
    (result : Except SessionException Unit) (world : SessionWorld) : Prop :=
  ∃ last statements clean, Inside outside program first last statements clean (returns result) ∧
    Now outside (executed ++ statements) last ⟨durable, some (pending ++ statements)⟩
      (top.heard clean :: rest) world

/-- A program that makes no calls. -/
theorem RanInside.nothing {program : Program} {first : Nat} {durable pending : List JString}
    {top : Transaction} {rest : List Transaction} {result : Except SessionException Unit}
    {world : SessionWorld} (meaning : Inside outside program first first [] true (returns result))
    (now : Now outside executed first ⟨durable, some pending⟩ (top :: rest) world) :
    RanInside outside program executed first durable pending top rest result world := by
  refine ⟨first, [], true, meaning, ?_⟩
  rwa [List.append_nil, List.append_nil, Transaction.heard_true]

/-- What is known after a program that began with no transaction. -/
def RanOutermost (outside : Outside) (program : Program) (executed : List JString) (first : Nat)
    (durable : List JString) (result : Except SessionException Unit) (world : SessionWorld) :
    Prop :=
  ∃ last statements lasting,
    Outermost outside program first last statements lasting (returns result) ∧
    Now outside (executed ++ statements) last ⟨durable ++ lasting, none⟩ [] world

theorem RanOutermost.nothing {program : Program} {first : Nat} {durable : List JString}
    {result : Except SessionException Unit} {world : SessionWorld}
    (meaning : Outermost outside program first first [] [] (returns result))
    (now : Now outside executed first ⟨durable, none⟩ [] world) :
    RanOutermost outside program executed first durable result world := by
  refine ⟨first, [], [], meaning, ?_⟩
  rwa [List.append_nil, List.append_nil]

end Runs

end Openpyn.Database
