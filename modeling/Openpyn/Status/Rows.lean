import Openpyn.Java.HashSet
import Openpyn.Java.Number

/-!
# Rows of the status output

A client row has five columns and a route row four; one of them is a real address
and a port joined by a colon. The constructors turn the failures of the library
into `OpenVpnParseException`, each with the text of its step. Only the failure of
`new InetSocketAddress` is of a type they do not catch, so an int that is no port
leaves them as it is.
-/

namespace Openpyn.Status

open Java

/-- The library functions behind a row. Host lookup and the date format are partial
functions on strings; an empty text is no date. -/
structure Platform (Address Date : Type) where
  address : JString → Option Address
  date : JString → Option Date
  addressHash : Address → UInt32
  dateHash : Date → UInt32
  date_empty : date [] = none

/-- A host address with a port; no other port can be built. -/
structure InetSocketAddress (Address : Type) where
  address : Address
  port : Fin 65536
deriving DecidableEq

/-- A parsed client row. A calendar is the date it was set to. -/
structure OpenVpnClient (Address Date : Type) where
  connectedSince : Date
  commonName : JString
  ipAddress : InetSocketAddress Address
  receivedBytes : Int
  sentBytes : Int
deriving DecidableEq

/-- A parsed route row. -/
structure OpenVpnRoute (Address Date : Type) where
  commonName : JString
  lastRef : Date
  realIpAddress : InetSocketAddress Address
  virtualIpAddress : Address
deriving DecidableEq

namespace Constants

def cannotParseDate : JString := lit "Cannot Parse date."
def cannotParseHostname : JString := lit "Cannot parse hostname."
def cannotParsePortNumber : JString := lit "Cannot parse port number."

/-- `MALFORMED_REAL_CONNECTION_STRING` with its argument filled in. -/
def malformedRealConnectionString (shown : JString) : JString :=
  lit "Malformed real connection string! " ++ shown ++
    lit " Need to have 2 sections separated by colon"

/-- `MALFORMED_ROUTE_STRING` with its arguments filled in. -/
def malformedRouteString (shown : JString) (sections : Nat) : JString :=
  lit "Malformed route string! " ++ shown ++ lit " Need to have " ++ lit (toString sections) ++
    lit " sections separated by commas"

end Constants

section

variable {Address Date : Type}

/-- `InetAddress.getByName(String)`. -/
def getByName (platform : Platform Address Date) (host : JString) : Except Throwable Address :=
  match platform.address host with
  | some address => .ok address
  | none => .error .unknownHostException

/-- `SimpleDateFormat.parse(String)` for the date format of the status output. -/
def parseDate (platform : Platform Address Date) (text : JString) : Except Throwable Date :=
  match platform.date text with
  | some date => .ok date
  | none => .error .parseException

/-- `new InetSocketAddress(InetAddress, int)`. -/
def inetSocketAddress (address : Address) (port : Int) :
    Except Throwable (InetSocketAddress Address) :=
  if valid : 0 ≤ port ∧ port < 65536 then .ok ⟨address, ⟨port.toNat, by omega⟩⟩
  else .error (.illegalArgumentException (lit "port out of range:" ++ lit (toString port)))

/-- The lines of both constructors that build the address of the peer. -/
def realIpSocket (platform : Platform Address Date) (host number : JString) :
    Except Throwable (InetSocketAddress Address) := do
  let realAddress ← getByName platform host
  let port ← parseInt number
  inetSocketAddress realAddress port

/-- The `catch` clauses that both constructors end with. -/
def rethrown : Throwable → Throwable
  | .numberFormatException => .openVpnParseException Constants.cannotParsePortNumber
  | .parseException => .openVpnParseException Constants.cannotParseDate
  | .unknownHostException => .openVpnParseException Constants.cannotParseHostname
  | other => other

/-- The constructor of `OpenVpnClient`. -/
def openVpnClient (platform : Platform Address Date) (s : JString) :
    Except Throwable (OpenVpnClient Address Date) :=
  match split s (chr ',') 0 with
  | [commonName, real, received, sent, since] =>
      Except.mapError rethrown <|
        match split real (chr ':') 0 with
        | [host, number] => do
            let realIpSocket ← realIpSocket platform host number
            let parsedDate ← parseDate platform since
            let rb ← parseLong received
            let sb ← parseLong sent
            return ⟨parsedDate, commonName, realIpSocket, rb, sb⟩
        -- The text shows the third column, not the address that was split.
        | _ => .error (.openVpnParseException (Constants.malformedRealConnectionString received))
  | _ => .error (.openVpnParseException (Constants.malformedRouteString s 5))

/-- The constructor of `OpenVpnRoute`. -/
def openVpnRoute (platform : Platform Address Date) (s : JString) :
    Except Throwable (OpenVpnRoute Address Date) :=
  match split s (chr ',') 0 with
  | [virtual, commonName, real, last] =>
      Except.mapError rethrown <|
        match split real (chr ':') 0 with
        | [host, number] => do
            let virtualAddress ← getByName platform virtual
            let realIpSocket ← realIpSocket platform host number
            let parsedDate ← parseDate platform last
            return ⟨commonName, parsedDate, realIpSocket, virtualAddress⟩
        | _ => .error (.openVpnParseException (Constants.malformedRealConnectionString real))
  | _ => .error (.openVpnParseException (Constants.malformedRouteString s 4))

/-- A constructor succeeds or fails with `OpenVpnParseException`. -/
def Settled {α : Type} (result : Except Throwable α) : Prop :=
  ∀ exception, result = .error exception → exception.isOpenVpnParseException = true

/-- The address resolves and its port is an `int`, but not a port. -/
def strayPort (platform : Platform Address Date) (real : JString) : Bool :=
  match split real (chr ':') 0 with
  | [host, number] =>
      (platform.address host).isSome &&
        match parseInt number with
        | .ok port => port < 0 || 65536 ≤ port
        | .error _ => false
  | _ => false

/-- A client row that is read as far as an address with a stray port. -/
def strayClient (platform : Platform Address Date) (s : JString) : Bool :=
  match split s (chr ',') 0 with
  | [_, real, _, _, _] => strayPort platform real
  | _ => false

/-- A route row that is read as far as an address with a stray port. -/
def strayRoute (platform : Platform Address Date) (s : JString) : Bool :=
  match split s (chr ',') 0 with
  | [virtual, _, real, _] => (platform.address virtual).isSome && strayPort platform real
  | _ => false

theorem getByName_eq_ok_iff {platform : Platform Address Date} {host : JString}
    {address : Address} :
    getByName platform host = .ok address ↔ platform.address host = some address := by
  unfold getByName
  cases platform.address host with
  | none => simp
  | some found => simp

theorem getByName_translated {platform : Platform Address Date} {host : JString}
    {exception : Throwable} (failed : getByName platform host = .error exception) :
    (rethrown exception).isOpenVpnParseException = true := by
  unfold getByName at failed
  split at failed
  · cases failed
  · injection failed with same
    rw [← same]
    rfl

theorem parseDate_translated {platform : Platform Address Date} {text : JString}
    {exception : Throwable} (failed : parseDate platform text = .error exception) :
    (rethrown exception).isOpenVpnParseException = true := by
  unfold parseDate at failed
  split at failed
  · cases failed
  · injection failed with same
    rw [← same]
    rfl

theorem parseInt_translated {text : JString} {exception : Throwable}
    (failed : parseInt text = .error exception) :
    (rethrown exception).isOpenVpnParseException = true := by
  rw [parseInt_error failed]
  rfl

theorem parseLong_translated {text : JString} {exception : Throwable}
    (failed : parseLong text = .error exception) :
    (rethrown exception).isOpenVpnParseException = true := by
  rw [parseLong_error failed]
  rfl

theorem inetSocketAddress_of_valid (address : Address) {port : Int}
    (valid : 0 ≤ port ∧ port < 65536) :
    inetSocketAddress address port = .ok ⟨address, ⟨port.toNat, by omega⟩⟩ := by
  rw [inetSocketAddress, dif_pos valid]

theorem inetSocketAddress_of_stray (address : Address) {port : Int}
    (stray : port < 0 ∨ 65536 ≤ port) :
    inetSocketAddress address port =
      .error (.illegalArgumentException (lit "port out of range:" ++ lit (toString port))) := by
  have invalid : ¬(0 ≤ port ∧ port < 65536) := by omega
  rw [inetSocketAddress, dif_neg invalid]

namespace Settled

variable {α β : Type}

theorem ok (value : α) : Settled (.ok value) := by
  rintro exception ⟨⟩

theorem parse (message : JString) :
    Settled (.error (.openVpnParseException message) : Except Throwable α) := by
  rintro exception ⟨⟩
  rfl

/-- One step of a constructor's `try` block: its own failures are translated, and
what follows its value settles. -/
theorem step {first : Except Throwable α} {next : α → Except Throwable β}
    (translated : ∀ exception, first = .error exception →
      (rethrown exception).isOpenVpnParseException = true)
    (later : ∀ value, first = .ok value → Settled ((next value).mapError rethrown)) :
    Settled ((first >>= next).mapError rethrown) := by
  cases first with
  | error failure =>
      rintro exception ⟨⟩
      exact translated failure rfl
  | ok value => exact later value rfl

end Settled

/-- Without a stray port the address of the peer fails in translated ways only. -/
theorem realIpSocket_translated {platform : Platform Address Date} {real host number : JString}
    (sections : split real (chr ':') 0 = [host, number])
    (notStray : strayPort platform real = false) {exception : Throwable}
    (failed : realIpSocket platform host number = .error exception) :
    (rethrown exception).isOpenVpnParseException = true := by
  unfold realIpSocket at failed
  cases resolved : getByName platform host with
  | error unknown =>
      rw [resolved] at failed
      cases failed
      exact getByName_translated resolved
  | ok address =>
      rw [resolved] at failed
      cases parsed : parseInt number with
      | error malformed =>
          rw [parsed] at failed
          cases failed
          exact parseInt_translated parsed
      | ok port =>
          have known : (platform.address host).isSome = true := by
            rw [getByName_eq_ok_iff.mp resolved]
            rfl
          have valid : 0 ≤ port ∧ port < 65536 := by
            simp only [strayPort, sections, known, parsed, Bool.true_and, Bool.or_eq_false_iff,
              decide_eq_false_iff_not] at notStray
            omega
          rw [parsed] at failed
          have built := inetSocketAddress_of_valid address valid
          cases built.symm.trans failed

/-- With a stray port the address of the peer fails in an untranslated way. -/
theorem realIpSocket_of_strayPort {platform : Platform Address Date} {real : JString}
    (stray : strayPort platform real = true) :
    ∃ host number message, split real (chr ':') 0 = [host, number] ∧
      realIpSocket platform host number = .error (.illegalArgumentException message) := by
  unfold strayPort at stray
  split at stray
  · rename_i host number sections
    rw [Bool.and_eq_true] at stray
    obtain ⟨known, outside⟩ := stray
    obtain ⟨address, found⟩ := Option.isSome_iff_exists.mp known
    have resolved := getByName_eq_ok_iff.mpr found
    split at outside
    · rename_i port parsed
      have range : port < 0 ∨ 65536 ≤ port := by simpa using outside
      refine ⟨host, number, lit "port out of range:" ++ lit (toString port), sections, ?_⟩
      rw [realIpSocket, resolved, parsed]
      exact inetSocketAddress_of_stray address range
    · cases outside
  · cases stray

/-- A failure that is not translated leaves a constructor as it is. -/
theorem not_settled_of_illegalArgument {α β : Type} {first : Except Throwable α}
    {message : JString} (failed : first = .error (.illegalArgumentException message))
    (next : α → Except Throwable β) : ¬Settled ((first >>= next).mapError rethrown) := by
  intro settled
  rw [failed] at settled
  have handled := settled (.illegalArgumentException message) rfl
  cases handled

/-- Client rows settle, except for stray ports. -/
theorem openVpnClient_settled_iff (platform : Platform Address Date) (s : JString) :
    Settled (openVpnClient platform s) ↔ strayClient platform s = false := by
  unfold openVpnClient strayClient
  split
  · rename_i commonName real received sent since columns
    constructor
    · intro settled
      rw [Bool.eq_false_iff]
      intro stray
      obtain ⟨host, number, message, sections, failed⟩ := realIpSocket_of_strayPort stray
      rw [sections] at settled
      exact not_settled_of_illegalArgument failed _ settled
    · intro notStray
      split
      · rename_i host number sections
        apply Settled.step
        · exact fun exception failed => realIpSocket_translated sections notStray failed
        intro socket built
        apply Settled.step
        · exact fun exception failed => parseDate_translated failed
        intro date parsed
        apply Settled.step
        · exact fun exception failed => parseLong_translated failed
        intro rb receivedParsed
        apply Settled.step
        · exact fun exception failed => parseLong_translated failed
        intro sb sentParsed
        exact Settled.ok _
      · exact Settled.parse _
  · exact ⟨fun _ => rfl, fun _ => Settled.parse _⟩

/-- Route rows settle, except for stray ports; an unknown virtual address is found
out before the port is looked at. -/
theorem openVpnRoute_settled_iff (platform : Platform Address Date) (s : JString) :
    Settled (openVpnRoute platform s) ↔ strayRoute platform s = false := by
  unfold openVpnRoute strayRoute
  split
  · rename_i virtual commonName real last columns
    constructor
    · intro settled
      rw [Bool.eq_false_iff]
      intro stray
      rw [Bool.and_eq_true] at stray
      obtain ⟨known, stray⟩ := stray
      obtain ⟨address, found⟩ := Option.isSome_iff_exists.mp known
      have resolved := getByName_eq_ok_iff.mpr found
      obtain ⟨host, number, message, sections, failed⟩ := realIpSocket_of_strayPort stray
      rw [sections] at settled
      simp only [resolved] at settled
      exact not_settled_of_illegalArgument failed _ settled
    · intro notStray
      split
      · rename_i host number sections
        apply Settled.step
        · exact fun exception failed => getByName_translated failed
        intro address resolved
        have known : (platform.address virtual).isSome = true := by
          rw [getByName_eq_ok_iff.mp resolved]
          rfl
        rw [known, Bool.true_and] at notStray
        apply Settled.step
        · exact fun exception failed => realIpSocket_translated sections notStray failed
        intro socket built
        apply Settled.step
        · exact fun exception failed => parseDate_translated failed
        intro date parsed
        exact Settled.ok _
      · exact Settled.parse _
  · exact ⟨fun _ => rfl, fun _ => Settled.parse _⟩

end

/-! ## A platform without name lookup -/

/-- One number of a dotted address. -/
def octet (text : JString) : Option Nat := (unsignedValue text).filter (· < 256)

/-- `InetAddress.getByName(String)` on IPv4 literals. -/
def ipv4Address (host : JString) : Option (List Nat) :=
  match split host (chr '.') (-1) with
  | [first, second, third, fourth] => [first, second, third, fourth].mapM octet
  | _ => none

/-- The dates of a recorded output, as milliseconds of a clock set to UTC. -/
def recordedDates : List (JString × Nat) :=
  [(lit "Wed Feb 11 00:07:24 2015", 1423613244000),
    (lit "Tue Feb 10 23:30:46 2015", 1423611046000),
    (lit "Tue Feb 10 23:30:52 2015", 1423611052000)]

/-- A device that knows IPv4 literals and the recorded dates. -/
def Platform.recorded : Platform (List Nat) Nat where
  address := ipv4Address
  date := fun text => (recordedDates.find? fun entry => entry.1 = text).map Prod.snd
  addressHash := fun address => address.foldl (fun hash octet => 256 * hash + UInt32.ofNat octet) 0
  dateHash := fun time => UInt32.ofNat (time ^^^ (time >>> 32))
  date_empty := by decide

end Openpyn.Status
