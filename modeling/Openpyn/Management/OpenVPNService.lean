import Openpyn.Foundation.Machine
import Openpyn.Management.Reading

/-!
# State notifications

The Android service is a state listener that shows each state it is told of. A
report has two required fields; servers of different versions add up to seven
optional ones. `stateOf` reads an absent field as empty, and `shownText` is the
text meant for the notification. `processState_shows_iff` says for which reports
that notification is shown: both the reading of the fields and the formatting of
the address lose some.
-/

namespace Openpyn.Management

open Foundation Java StringUtils

variable {L : Type}

/-! ## The service -/

/-- The string resources naming a state. -/
inductive StringResource where
  | stateConnecting
  | stateWait
  | stateAuth
  | stateGetConfig
  | stateAssignIp
  | stateAddRoutes
  | stateConnected
  | stateDisconnected
  | stateReconnecting
  | stateExiting
  | stateResolve
  | stateTcpConnect
  | stateAuthPending
  | stateAuthFailed
  | unknownState
deriving DecidableEq

/-- The translated texts; `notificationTitle` has one argument. -/
structure Resources where
  getString : StringResource → JString
  notificationTitle : JString → JString

/-- The texts of the default locale. -/
def Resources.default : Resources where
  getString
    | .stateConnecting => lit "Connecting"
    | .stateWait => lit "Waiting for server reply"
    | .stateAuth => lit "Authenticating"
    | .stateGetConfig => lit "Getting client configuration"
    | .stateAssignIp => lit "Assigning IP addresses"
    | .stateAddRoutes => lit "Adding routes"
    | .stateConnected => lit "Connected"
    | .stateDisconnected => lit "Disconnected"
    | .stateReconnecting => lit "Reconnecting"
    | .stateExiting => lit "Exiting"
    | .stateResolve => lit "Resolving host names"
    | .stateTcpConnect => lit "Connecting (TCP)"
    | .stateAuthPending => lit "Authentication pending"
    | .stateAuthFailed => lit "Authentication failed"
    | .unknownState => lit "Unknown state"
  notificationTitle state := lit "OpenVPN: " ++ state

/-- The icons of a notification. -/
inductive Drawable where
  | icStatVpn
  | icStatVpnEmptyHalo
  | icStatVpnOffline
  | icStatVpnOutline
deriving DecidableEq

/-- What a notification is built from, as far as the service decides it. -/
structure Notification where
  contentText : JString
  contentTitle : JString
  smallIcon : Drawable
  ticker : Option JString
  lowPriority : Bool
  usesChronometer : Bool
  when : Option Int
deriving DecidableEq

/-- The calls that show a notification. -/
inductive NotificationCall where
  | notify (notificationId : UInt32) (notification : Notification)
  | startForeground (notificationId : UInt32) (notification : Notification)
deriving DecidableEq

/-- The notification a call is about. -/
def NotificationCall.notification : NotificationCall → Notification
  | .notify _ notification => notification
  | .startForeground _ notification => notification

/-- The fields of `OpenVPNService`. -/
structure OpenVPNService where
  mConnectTime : Int
  mDisplayByteCount : Bool
  mNotificationAlwaysVisible : Bool
deriving DecidableEq

namespace OpenVPNService

def notificationChannelBgId : JString := lit "openvpn_bg"
def notificationChannelNewStatusId : JString := lit "openvpn_newstat"

/-- `getIconByConnectionStatus`. -/
def getIconByConnectionStatus : ConnectionStatus → Drawable
  | .levelAuthFailed => .icStatVpnOutline
  | .levelNotConnected => .icStatVpnOffline
  | .levelConnectingNoServerReplyYet => .icStatVpnEmptyHalo
  | .levelConnectingServerReplied => .icStatVpnEmptyHalo
  | .levelConnected => .icStatVpn
  | .unknownLevel => .icStatVpn

/-- The names `getLocalizedState` knows. -/
def localizedStates : List (JString × StringResource) :=
  [(VpnStatus.connecting, .stateConnecting), (VpnStatus.wait, .stateWait),
   (VpnStatus.auth, .stateAuth), (VpnStatus.getConfig, .stateGetConfig),
   (VpnStatus.assignIp, .stateAssignIp), (VpnStatus.addRoutes, .stateAddRoutes),
   (VpnStatus.connected, .stateConnected), (VpnStatus.disconnected, .stateDisconnected),
   (VpnStatus.reconnecting, .stateReconnecting), (VpnStatus.exiting, .stateExiting),
   (VpnStatus.resolve, .stateResolve), (VpnStatus.tcpConnect, .stateTcpConnect),
   (VpnStatus.authPending, .stateAuthPending), (VpnStatus.authFailed, .stateAuthFailed)]

/-- `getLocalizedState`. -/
def getLocalizedState (state : JString) : StringResource :=
  (localizedStates.lookup state).getD .unknownState

/-- `showNotification`. -/
def showNotification (title text : JString) (tickerText : Option JString) (channel : JString)
    (when : Int) (status : ConnectionStatus) : List NotificationCall :=
  let notification : Notification :=
    { contentText := text
      contentTitle := title
      smallIcon := getIconByConnectionStatus status
      ticker := tickerText.filter fun tickerText => !tickerText.isEmpty
      lowPriority := channel = notificationChannelBgId
      usesChronometer := channel = notificationChannelBgId
      when := if when = 0 then none else some when }
  [.notify (hashCode channel) notification, .startForeground (hashCode channel) notification]

/-- The text before an address. It stays null for an empty port; `processState`
never passes a port that is null itself. -/
def addressPrefix (port : JString) : Option JString :=
  if port ≠ [] then some ((if port = lit "1194" then lit "UDP" else lit "TCP") ++ lit ": ")
  else none

/-- `prefix + address`, where a null prefix is spelled out. -/
def concatenate (start : Option JString) (address : JString) : JString :=
  start.getD (lit "null") ++ address

/-- The states that are shown with the address of the server. -/
def ShowsAddress (state : State) : Prop :=
  (state.name = VpnStatus.assignIp ∨ state.name = VpnStatus.connected) ∧
    isBlank state.remoteAddress = false

instance (state : State) : Decidable (ShowsAddress state) :=
  inferInstanceAs (Decidable (_ ∧ _))

/-- `onStateChanged`, called at time `now`. -/
def onStateChanged (resources : Resources) (service : OpenVPNService) (now : Int)
    (state : State) : OpenVPNService × List NotificationCall :=
  let level := VpnStatus.getLevel state.name state.message
  if service.mNotificationAlwaysVisible then
    let service :=
      if level = .levelConnected then
        { service with mDisplayByteCount := true, mConnectTime := now }
      else { service with mDisplayByteCount := false }
    let tickerText := resources.getString (getLocalizedState state.name)
    let title := resources.notificationTitle tickerText
    let text :=
      if ShowsAddress state then
        concatenate (addressPrefix state.remotePort) state.remoteAddress
      else state.message
    (service, showNotification title text (some tickerText) notificationChannelNewStatusId 0 level)
  else (service, [])

/-- The service while it is told of states. -/
def machine (resources : Resources) :
    Machine OpenVPNService (Int × State) (List NotificationCall) :=
  ⟨fun service report => service.onStateChanged resources report.1 report.2⟩

/-- The states one listener is told of at time `now`. -/
def reports [DecidableEq L] (listener : L) (now : Int) (events : List (Event L)) :
    List (Int × State) :=
  (events.filterMap Event.stateDelivery).filterMap fun delivery =>
    if delivery.1 = listener then some (now, delivery.2) else none

end OpenVPNService

/-! ## Reports -/

/-- The argument of a `STATE` message: its fields, joined by commas. -/
def stateArgument (date name : JString) (optional : List JString) : JString :=
  [chr ','].intercalate (date :: name :: optional)

/-- The state a report stands for; an absent field is empty. -/
def stateOf (date name : JString) (optional : List JString) : State where
  date := date
  name := name
  message := optional[0]?.getD []
  localAddress := optional[1]?.getD []
  remoteAddress := optional[2]?.getD []
  remotePort := optional[3]?.getD []

/-- The text meant for the notification of a state. -/
def shownText (state : State) : JString :=
  if OpenVPNService.ShowsAddress state then
    (if state.remotePort = [] then []
      else if state.remotePort = lit "1194" then lit "UDP: "
      else lit "TCP: ") ++ state.remoteAddress
  else state.message

/-- The report is delivered to every listener, and the service, as one of them,
shows one notification with the text meant for it. -/
structure ShowsReport [DecidableEq L] (resources : Resources) (c : ManagementConnection L)
    (listener : L) (service : OpenVPNService) (now : Int) (argument : JString) (state : State) :
    Prop where
  returned : (c.processState argument).thrown = none
  delivered : (c.processState argument).emitted =
    c.mStateManager.toList.map fun listener => .onStateChanged listener state
  shown : ∃ notificationId notification,
    (OpenVPNService.machine resources).outputs service
        (OpenVPNService.reports listener now (c.processState argument).emitted) =
      [[.notify notificationId notification, .startForeground notificationId notification]] ∧
    notification.contentText = shownText state

/-- A report has one comma less than fields. -/
theorem count_stateArgument {date name : JString} {optional : List JString}
    (free : ∀ field ∈ date :: name :: optional, chr ',' ∉ field) :
    (stateArgument date name optional).count (chr ',') = optional.length + 1 := by
  have cut : split (stateArgument date name optional) (chr ',') (-1) =
      date :: name :: optional := by
    simpa [split, stateArgument] using
      List.splitOn_intercalate (chr ',') free (List.cons_ne_nil date (name :: optional))
  have size := length_split_all (stateArgument date name optional) (chr ',')
  rw [cut] at size
  simpa using size.symm

/-- With four optional fields the report is read as the state it stands for. -/
theorem readState_stateArgument {date name : JString} {optional : List JString}
    (free : ∀ field ∈ date :: name :: optional, chr ',' ∉ field) (four : 4 ≤ optional.length) :
    ManagementConnection.readState (stateArgument date name optional) =
      .ok (stateOf date name optional) := by
  match optional, four with
  | message :: localAddress :: remoteAddress :: remotePort :: rest, _ =>
      exact ManagementConnection.readState_fields (List.cons_ne_nil _ _) free rfl

/-- With fewer than four it is not read at all. -/
theorem readState_short {date name : JString} {optional : List JString}
    (free : ∀ field ∈ date :: name :: optional, chr ',' ∉ field) (few : optional.length < 4) :
    ManagementConnection.readState (stateArgument date name optional) =
      .error .arrayIndexOutOfBoundsException := by
  rcases ManagementConnection.readState_cases (stateArgument date name optional) with
    ⟨enough, -⟩ | ⟨-, short⟩
  · rw [count_stateArgument free] at enough
    omega
  · exact short

/-- A listener is told of the states delivered to it. -/
theorem reports_cons [DecidableEq L] (listener other : L) (now : Int) (state : State)
    (events : List (Event L)) :
    OpenVPNService.reports listener now (.onStateChanged other state :: events) =
      if other = listener then (now, state) :: OpenVPNService.reports listener now events
      else OpenVPNService.reports listener now events := by
  unfold OpenVPNService.reports
  rw [List.filterMap_cons]
  by_cases same : other = listener
  · simp [Event.stateDelivery, same]
  · simp [Event.stateDelivery, same]

/-- A registered listener is told of a delivered state once. -/
theorem reports_delivered [DecidableEq L] (listener : L) {listeners : List L}
    (distinct : listeners.Nodup) (now : Int) (state : State) :
    OpenVPNService.reports listener now
        (listeners.map fun listener => .onStateChanged listener state) =
      if listener ∈ listeners then [(now, state)] else [] := by
  induction listeners with
  | nil => rfl
  | cons other rest inductionHypothesis =>
      obtain ⟨absent, distinctRest⟩ := List.nodup_cons.mp distinct
      rw [List.map_cons, reports_cons, inductionHypothesis distinctRest]
      by_cases same : other = listener
      · subst same
        simp [absent]
      · simp [same, Ne.symm same]

/-- A visible service shows one notification for a state, with this text. -/
theorem onStateChanged_visible (resources : Resources) {service : OpenVPNService}
    (visible : service.mNotificationAlwaysVisible = true) (now : Int) (state : State) :
    ∃ notificationId notification, (service.onStateChanged resources now state).2 =
        [.notify notificationId notification, .startForeground notificationId notification] ∧
      notification.contentText =
        if OpenVPNService.ShowsAddress state then
          OpenVPNService.concatenate (OpenVPNService.addressPrefix state.remotePort)
            state.remoteAddress
        else state.message := by
  simp only [OpenVPNService.onStateChanged, visible, if_true]
  exact ⟨_, _, rfl, rfl⟩

/-- The address line is the one that is meant unless there is no port. -/
theorem concatenate_eq_iff (port address : JString) :
    OpenVPNService.concatenate (OpenVPNService.addressPrefix port) address =
        (if port = [] then [] else if port = lit "1194" then lit "UDP: " else lit "TCP: ") ++
          address ↔
      port ≠ [] := by
  unfold OpenVPNService.concatenate OpenVPNService.addressPrefix
  by_cases empty : port = []
  · have spelled : lit "null" ++ address ≠ address := by
      intro same
      have sizes := congrArg List.length same
      rw [List.length_append] at sizes
      have letters : (lit "null").length = 4 := rfl
      omega
    simpa [empty] using spelled
  · rw [if_pos empty, if_neg empty]
    by_cases standard : port = lit "1194"
    · have udp : lit "UDP" ++ lit ": " = lit "UDP: " := rfl
      simp only [if_pos standard, udp, Option.getD_some, ne_eq, empty, not_false_eq_true]
    · have tcp : lit "TCP" ++ lit ": " = lit "TCP: " := rfl
      simp only [if_neg standard, tcp, Option.getD_some, ne_eq, empty, not_false_eq_true]

/-- The text of a notification is the one that is meant unless it lacks a port. -/
theorem notificationText_eq_iff (state : State) :
    (if OpenVPNService.ShowsAddress state then
        OpenVPNService.concatenate (OpenVPNService.addressPrefix state.remotePort)
          state.remoteAddress
      else state.message) = shownText state ↔
      ¬(OpenVPNService.ShowsAddress state ∧ state.remotePort = []) := by
  rw [shownText]
  by_cases address : OpenVPNService.ShowsAddress state
  · rw [if_pos address, if_pos address, concatenate_eq_iff]
    simp [address]
  · simp [address]

/-- A report with enough fields is delivered to every state listener. -/
theorem processState_stateArgument (c : ManagementConnection L) {date name : JString}
    {optional : List JString} (free : ∀ field ∈ date :: name :: optional, chr ',' ∉ field)
    (four : 4 ≤ optional.length)
    (kept : ¬ManagementConnection.isIgnored c.mLastLevel (stateOf date name optional)) :
    c.processState (stateArgument date name optional) =
      ⟨{ c with mLastLevel := (stateOf date name optional).level },
        c.mStateManager.toList.map fun listener =>
          .onStateChanged listener (stateOf date name optional), none⟩ := by
  rw [ManagementConnection.processState_eq, readState_stateArgument free four]
  exact if_neg kept

/-- A report is shown as it is meant exactly when it has at least four optional
fields and does not lack the port of an address it shows. -/
theorem processState_shows_iff [DecidableEq L] (resources : Resources)
    (c : ManagementConnection L) {listener : L} (registered : listener ∈ c.mStateManager.toList)
    {service : OpenVPNService} (visible : service.mNotificationAlwaysVisible = true) (now : Int)
    {date name : JString} {optional : List JString}
    (free : ∀ field ∈ date :: name :: optional, chr ',' ∉ field)
    (kept : ¬ManagementConnection.isIgnored c.mLastLevel (stateOf date name optional)) :
    ShowsReport resources c listener service now (stateArgument date name optional)
        (stateOf date name optional) ↔
      4 ≤ optional.length ∧
        ¬(OpenVPNService.ShowsAddress (stateOf date name optional) ∧
          (stateOf date name optional).remotePort = []) := by
  rcases Nat.lt_or_ge optional.length 4 with few | four
  · constructor
    · rintro ⟨returned, -, -⟩
      rw [ManagementConnection.processState_eq, readState_short free few] at returned
      cases returned
    · rintro ⟨four, -⟩
      omega
  · have processed := processState_stateArgument c free four kept
    have told : OpenVPNService.reports listener now
        (c.processState (stateArgument date name optional)).emitted =
          [(now, stateOf date name optional)] := by
      rw [processed, reports_delivered listener c.mStateManager.nodup, if_pos registered]
    generalize stateOf date name optional = state at *
    obtain ⟨notificationId, notification, calls, content⟩ :=
      onStateChanged_visible resources visible now state
    have outputs : (OpenVPNService.machine resources).outputs service
        (OpenVPNService.reports listener now
          (c.processState (stateArgument date name optional)).emitted) =
        [[.notify notificationId notification,
          .startForeground notificationId notification]] := by
      rw [told, ← calls]
      rfl
    rw [← notificationText_eq_iff, ← content]
    constructor
    · rintro ⟨-, -, otherId, other, shown, text⟩
      rw [outputs] at shown
      have same : notification = other :=
        (NotificationCall.notify.inj (List.cons.inj (List.cons.inj shown).1).1).2
      exact ⟨four, same ▸ text⟩
    · rintro ⟨-, text⟩
      exact ⟨by rw [processed], by rw [processed], notificationId, notification, outputs, text⟩

theorem oneListener_nodup : ([0] : List Nat).Nodup := List.pairwise_singleton _ 0

/-- A connection with one state listener. -/
def observed : ManagementConnection Nat :=
  { ManagementConnection.opened (lit "127.0.0.1") 23 with
    mStateManager := ⟨[0], oneListener_nodup⟩ }

/-- A service that always shows notifications. -/
def visibleService : OpenVPNService := ⟨0, false, true⟩

theorem processState_shows_connected :
    ShowsReport .default observed 0 visibleService 1577836800
      (stateArgument (lit "1577836800") (lit "CONNECTED")
        [lit "SUCCESS", lit "10.8.0.2", lit "203.0.113.7", lit "1194"])
      (stateOf (lit "1577836800") (lit "CONNECTED")
        [lit "SUCCESS", lit "10.8.0.2", lit "203.0.113.7", lit "1194"]) :=
  (processState_shows_iff .default observed (by decide) rfl 1577836800 (by decide)
    (by decide)).mpr ⟨by decide, by decide⟩

/-- A report of three fields raises an exception, and an address without a port
is shown after the word null. -/
theorem observed_misses :
    ¬ShowsReport .default observed 0 visibleService 1577836800
        (stateArgument (lit "1577836800") (lit "CONNECTED") [lit "SUCCESS"])
        (stateOf (lit "1577836800") (lit "CONNECTED") [lit "SUCCESS"]) ∧
      ¬ShowsReport .default observed 0 visibleService 1577836800
        (stateArgument (lit "1577836800") (lit "CONNECTED")
          [lit "SUCCESS", lit "10.8.0.2", lit "203.0.113.7", []])
        (stateOf (lit "1577836800") (lit "CONNECTED")
          [lit "SUCCESS", lit "10.8.0.2", lit "203.0.113.7", []]) := by
  constructor
  · rintro ⟨returned, -, -⟩
    exact absurd returned (by decide)
  · rintro ⟨-, -, notificationId, notification, calls, content⟩
    have texts := congrArg
      (fun answers : List (List NotificationCall) =>
        answers.map fun answer => answer.map fun call => call.notification.contentText) calls
    simp only [List.map_cons, List.map_nil, NotificationCall.notification, content] at texts
    revert texts
    decide

end Openpyn.Management
