import Openpyn.Foundation.Completion
import Openpyn.Java.Throwable

/-!
# The socket and its streams

`AbstractConnection` owns one socket and the two streams made from it. A stream
remembers whether it was made from the socket the connection holds now, because
`connect` replaces the socket before it has the new streams. Closing a stream
closes its socket, and flushing a closed writer raises, so `close` is a sequence
in which a stale writer hides the socket behind it.
-/

namespace Openpyn.Management

open Foundation Java

/-- A buffered reader or writer. -/
structure Stream where
  ofSocket : Bool
  closed : Bool
deriving DecidableEq

/-- The stream of a socket that is no longer the current one. -/
def Stream.outlive (stream : Stream) : Stream := { stream with ofSocket := false }

/-- A `java.net.Socket`; `connected` stays set when the socket is closed. -/
structure Socket where
  connected : Bool
  closed : Bool
deriving DecidableEq

/-- The fields of `AbstractConnection` that its methods read. -/
structure AbstractConnection where
  mBufferedReader : Option Stream
  mBufferedWriter : Option Stream
  mHost : Option JString
  mPort : Option Int
  mSocket : Option Socket
deriving DecidableEq

/-- How far an attempt to connect comes: the constructor of the socket, either
stream or a socket option may raise. -/
inductive Attempt where
  | opens
  | socketFails (exception : Throwable)
  | inputStreamFails (message : JString)
  | outputStreamFails (message : JString)
  | socketOptionFails (message : JString)
deriving DecidableEq

/-- `Stream closed`, the message of a stream used after `close`. -/
def streamClosed : JString := lit "Stream closed"

namespace AbstractConnection

variable {ω : Type}

/-- A connection that was never opened. -/
def fresh : AbstractConnection := ⟨none, none, none, none, none⟩

/-- `isConnected`. -/
def isConnected (c : AbstractConnection) : Bool :=
  match c.mSocket with
  | some socket => socket.connected && !socket.closed
  | none => false

/-- `mSocket = new Socket(mHost, mPort)`. -/
def replaceSocket (c : AbstractConnection) : AbstractConnection :=
  { c with
    mBufferedReader := c.mBufferedReader.map Stream.outlive
    mBufferedWriter := c.mBufferedWriter.map Stream.outlive
    mSocket := some ⟨true, false⟩ }

/-- The private `connect`. -/
def openSocket (c : AbstractConnection) (attempt : Attempt) :
    Completion Throwable ω AbstractConnection :=
  let reading := { c.replaceSocket with mBufferedReader := some ⟨true, false⟩ }
  let writing := { reading with mBufferedWriter := some ⟨true, false⟩ }
  match attempt with
  | .socketFails exception => .throw c exception
  | .inputStreamFails message => .throw c.replaceSocket (.ioException message)
  | .outputStreamFails message => .throw reading (.ioException message)
  | .socketOptionFails message => .throw writing (.ioException message)
  | .opens => .done writing

/-- `connect(String, Integer)`; null arguments are `none`. -/
def connect (c : AbstractConnection) (host : Option JString) (port : Option Int)
    (attempt : Attempt) : Completion Throwable ω AbstractConnection :=
  if c.isConnected then .throw c (.ioException (lit "already connected"))
  else if host = none then .throw c (.illegalArgumentException (lit "hostname can't be null"))
  else if port = none then .throw c (.illegalArgumentException (lit "port can't be null"))
  else openSocket { c with mHost := host, mPort := port } attempt

/-- Close the socket a stream was made from. -/
def closeSocketOf (c : AbstractConnection) (stream : Stream) : AbstractConnection :=
  if stream.ofSocket then { c with mSocket := c.mSocket.map fun s => { s with closed := true } }
  else c

/-- `mBufferedReader.close()`. -/
def closeReader (c : AbstractConnection) : Completion Throwable ω AbstractConnection :=
  match c.mBufferedReader with
  | none => .done c
  | some reader =>
      if reader.closed then .done c
      else .done { c.closeSocketOf reader with
        mBufferedReader := some { reader with closed := true } }

/-- `mBufferedWriter.flush()` and `mBufferedWriter.close()`. -/
def closeWriter (c : AbstractConnection) : Completion Throwable ω AbstractConnection :=
  match c.mBufferedWriter with
  | none => .done c
  | some writer =>
      if writer.closed then .throw c (.ioException streamClosed)
      else .done { c.closeSocketOf writer with
        mBufferedWriter := some { writer with closed := true } }

/-- `mSocket.close()`. -/
def closeSocket (c : AbstractConnection) : Completion Throwable ω AbstractConnection :=
  .done { c with mSocket := c.mSocket.map fun s => { s with closed := true } }

/-- `close`. -/
def close (c : AbstractConnection) : Completion Throwable ω AbstractConnection :=
  c.closeReader.andThen fun c => c.closeWriter.andThen fun c => c.closeSocket

/-- `closeQuietly`, the body of `disconnect`: an `IOException` is swallowed. -/
def closeQuietly (c : AbstractConnection) : Completion Throwable ω AbstractConnection :=
  c.close.catching Throwable.isIOException

/-- A connection that can be used: the socket is open and both streams are its
own and open. -/
structure Established (c : AbstractConnection) : Prop where
  reader : c.mBufferedReader = some ⟨true, false⟩
  writer : c.mBufferedWriter = some ⟨true, false⟩
  socket : c.mSocket = some ⟨true, false⟩

namespace Established

variable {c : AbstractConnection}

@[simp] theorem isConnected (established : c.Established) : c.isConnected = true := by
  simp [AbstractConnection.isConnected, established.socket]

/-- Closing an established connection closes its socket and raises nothing. -/
theorem closeQuietly (established : c.Established) :
    (c.closeQuietly : Completion Throwable ω AbstractConnection) =
      .done { c with
        mBufferedReader := some ⟨true, true⟩
        mBufferedWriter := some ⟨true, true⟩
        mSocket := some ⟨true, true⟩ } := by
  obtain ⟨reader, writer, socket⟩ := established
  simp [AbstractConnection.closeQuietly, close, closeReader, closeWriter, closeSocket,
    closeSocketOf, reader, writer, socket]
  rfl

end Established

/-- A connection whose socket was just opened. -/
def openedTo (host : JString) (port : Int) : AbstractConnection :=
  ⟨some ⟨true, false⟩, some ⟨true, false⟩, some host, some port, some ⟨true, false⟩⟩

theorem openedTo_established (host : JString) (port : Int) : (openedTo host port).Established :=
  ⟨rfl, rfl, rfl⟩

/-- An attempt that opens forgets the streams and the socket there were. -/
theorem connect_opens {c : AbstractConnection} (disconnected : c.isConnected = false)
    (host : JString) (port : Int) :
    (c.connect (some host) (some port) .opens : Completion Throwable ω AbstractConnection) =
      .done (openedTo host port) := by
  simp only [connect, disconnected, Bool.false_eq_true, if_false, reduceCtorEq]
  rfl

end AbstractConnection
end Openpyn.Management
