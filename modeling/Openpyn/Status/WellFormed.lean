import Openpyn.Status.Rows

/-!
# Well-formed rows

A well-formed row is its columns together with the values they stand for. Its
text is the comma-separated line of the server, and the constructors read the
values back from it.
-/

namespace Openpyn.Status

open Java

variable {Address Date : Type}

/-- No decimal text has a character that is not a digit. -/
theorem notMem_of_isDecimal {text : JString} (decimal : IsDecimal text) {ch : JChar}
    (other : ¬IsDigit ch) : ch ∉ text :=
  fun member => other (decimal.2 ch member)

/-- The address column: a known host, a colon and a port. -/
structure Peer (platform : Platform Address Date) where
  host : JString
  port : JString
  address : Address
  host_noComma : chr ',' ∉ host
  host_noColon : chr ':' ∉ host
  host_known : platform.address host = some address
  port_decimal : IsDecimal port
  port_valid : decimalValue port < 65536

namespace Peer

variable {platform : Platform Address Date}

def text (peer : Peer platform) : JString := [chr ':'].intercalate [peer.host, peer.port]

def socket (peer : Peer platform) : InetSocketAddress Address :=
  ⟨peer.address, ⟨decimalValue peer.port, peer.port_valid⟩⟩

theorem text_eq (peer : Peer platform) : peer.text = peer.host ++ chr ':' :: peer.port := by
  simp [text]

theorem text_noComma (peer : Peer platform) : chr ',' ∉ peer.text := by
  have port : chr ',' ∉ peer.port := notMem_of_isDecimal peer.port_decimal (by decide)
  have colon : chr ',' ≠ chr ':' := by decide
  simp [text_eq, peer.host_noComma, port, colon]

theorem split_text (peer : Peer platform) :
    split peer.text (chr ':') 0 = [peer.host, peer.port] := by
  apply split_row (List.cons_ne_nil _ _)
  · intro column member
    rcases List.mem_pair.mp member with rfl | rfl
    · exact peer.host_noColon
    · exact notMem_of_isDecimal peer.port_decimal (by decide)
  · exact peer.port_decimal.1

theorem realIpSocket_peer (peer : Peer platform) :
    realIpSocket platform peer.host peer.port = .ok peer.socket := by
  have resolved := getByName_eq_ok_iff.mpr peer.host_known
  have parsed : parseInt peer.port = .ok (decimalValue peer.port : Int) :=
    parseInt_of_isDecimal peer.port_decimal (by have := peer.port_valid; omega)
  have valid : (0 : Int) ≤ decimalValue peer.port ∧ (decimalValue peer.port : Int) < 65536 := by
    have := peer.port_valid
    omega
  have built : inetSocketAddress peer.address (decimalValue peer.port : Int) =
      .ok peer.socket := by
    rw [inetSocketAddress_of_valid peer.address valid]
    simp [socket]
  simp only [realIpSocket, resolved, parsed, bind, Except.bind, built]

end Peer

/-- A byte counter within `long`. -/
structure Counter where
  text : JString
  decimal : IsDecimal text
  long : decimalValue text < 2 ^ 63

def Counter.value (counter : Counter) : Int := decimalValue counter.text

theorem Counter.parseLong_text (counter : Counter) : parseLong counter.text = .ok counter.value :=
  parseLong_of_isDecimal counter.decimal counter.long

theorem Counter.text_noComma (counter : Counter) : chr ',' ∉ counter.text :=
  notMem_of_isDecimal counter.decimal (by decide)

/-- A date column. -/
structure Moment (platform : Platform Address Date) where
  text : JString
  date : Date
  noComma : chr ',' ∉ text
  known : platform.date text = some date

theorem Moment.text_ne_nil {platform : Platform Address Date} (moment : Moment platform) :
    moment.text ≠ [] := by
  intro empty
  have known := moment.known
  rw [empty, platform.date_empty] at known
  cases known

theorem Moment.parseDate_text {platform : Platform Address Date} (moment : Moment platform) :
    parseDate platform moment.text = .ok moment.date := by
  rw [parseDate, moment.known]

/-- A well-formed client row. -/
structure ClientRow (platform : Platform Address Date) where
  commonName : JString
  peer : Peer platform
  received : Counter
  sent : Counter
  since : Moment platform
  commonName_noComma : chr ',' ∉ commonName

namespace ClientRow

variable {platform : Platform Address Date}

def text (row : ClientRow platform) : JString :=
  [chr ','].intercalate
    [row.commonName, row.peer.text, row.received.text, row.sent.text, row.since.text]

def client (row : ClientRow platform) : OpenVpnClient Address Date where
  connectedSince := row.since.date
  commonName := row.commonName
  ipAddress := row.peer.socket
  receivedBytes := row.received.value
  sentBytes := row.sent.value

theorem split_text (row : ClientRow platform) :
    split row.text (chr ',') 0 =
      [row.commonName, row.peer.text, row.received.text, row.sent.text, row.since.text] := by
  apply split_row (List.cons_ne_nil _ _)
  · simp [row.commonName_noComma, row.peer.text_noComma, row.received.text_noComma,
      row.sent.text_noComma, row.since.noComma]
  · exact row.since.text_ne_nil

/-- Every column is read back into its field. -/
theorem openVpnClient_text (row : ClientRow platform) :
    openVpnClient platform row.text = .ok row.client := by
  simp only [openVpnClient, row.split_text, row.peer.split_text, row.peer.realIpSocket_peer,
    row.since.parseDate_text, row.received.parseLong_text, row.sent.parseLong_text]
  rfl

end ClientRow

/-- A well-formed route row. -/
structure RouteRow (platform : Platform Address Date) where
  virtual : JString
  virtualAddress : Address
  commonName : JString
  peer : Peer platform
  last : Moment platform
  virtual_noComma : chr ',' ∉ virtual
  virtual_known : platform.address virtual = some virtualAddress
  commonName_noComma : chr ',' ∉ commonName

namespace RouteRow

variable {platform : Platform Address Date}

def text (row : RouteRow platform) : JString :=
  [chr ','].intercalate [row.virtual, row.commonName, row.peer.text, row.last.text]

def route (row : RouteRow platform) : OpenVpnRoute Address Date where
  commonName := row.commonName
  lastRef := row.last.date
  realIpAddress := row.peer.socket
  virtualIpAddress := row.virtualAddress

/-- Virtual address, common name and real address. -/
def triple (row : RouteRow platform) : Address × JString × InetSocketAddress Address :=
  (row.virtualAddress, row.commonName, row.peer.socket)

theorem split_text (row : RouteRow platform) :
    split row.text (chr ',') 0 = [row.virtual, row.commonName, row.peer.text, row.last.text] := by
  apply split_row (List.cons_ne_nil _ _)
  · simp [row.virtual_noComma, row.commonName_noComma, row.peer.text_noComma, row.last.noComma]
  · exact row.last.text_ne_nil

theorem openVpnRoute_text (row : RouteRow platform) :
    openVpnRoute platform row.text = .ok row.route := by
  have resolved := getByName_eq_ok_iff.mpr row.virtual_known
  simp only [openVpnRoute, row.split_text, row.peer.split_text, resolved,
    row.peer.realIpSocket_peer, row.last.parseDate_text]
  rfl

end RouteRow

end Openpyn.Status
