import Openpyn.Foundation.Machine
import Openpyn.Foundation.Since

/-!
# Network availability

`NetworkInfo` is told of networks that become available and of networks that are
lost, and keeps one boolean that every callback overwrites. A posted value is
applied before the next callback. `truthful_iff` says for which sequences of
callbacks the boolean tells whether some network is up: a loss must not leave
another network behind. Debug output is left out.
-/

namespace Openpyn.Connection

open Foundation

/-- What happens to the singleton; `reachable` is the answer of the host check. -/
inductive NetworkCall (N K : Type) where
  | onAvailable (network : N) (reachable : Bool)
  | onLost (network : N)
  | addListener (listener : K)
  | removeListener (listener : K)
deriving DecidableEq

/-- The value of the `LiveData`, missing until the first post, and the listeners in
the order in which they were added. -/
structure NetworkInfo (K : Type) where
  value : Option Bool
  listeners : List K
deriving DecidableEq

namespace NetworkInfo

variable {N K : Type}

/-- The singleton before the first callback. -/
def fresh : NetworkInfo K := ⟨none, []⟩

/-- `isOnline`. -/
def isOnline (info : NetworkInfo K) : Bool := info.value.getD false

/-- `postValue`. -/
def postValue (info : NetworkInfo K) (value : Bool) : NetworkInfo K :=
  { info with value := some value }

/-- `notifyNetworkChangeToAll`: the calls of `networkStatusChange`. -/
def notifyNetworkChangeToAll (info : NetworkInfo K) (network : N) : List (K × N) :=
  info.listeners.map fun listener => (listener, network)

/-- `onAvailable`. -/
def onAvailable (info : NetworkInfo K) (network : N) (hostAvailable : Bool) :
    NetworkInfo K × List (K × N) :=
  let info := if hostAvailable then info.postValue true else info.postValue false
  (info, info.notifyNetworkChangeToAll network)

/-- `onLost`. -/
def onLost (info : NetworkInfo K) (network : N) : NetworkInfo K × List (K × N) :=
  let info := info.postValue false
  (info, info.notifyNetworkChangeToAll network)

/-- `addListener`, on a set that keeps the order of insertion. -/
def addListener [DecidableEq K] (info : NetworkInfo K) (listener : K) : NetworkInfo K :=
  if listener ∈ info.listeners then info
  else { info with listeners := info.listeners ++ [listener] }

/-- `removeListener`. -/
def removeListener [DecidableEq K] (info : NetworkInfo K) (listener : K) : NetworkInfo K :=
  { info with listeners := info.listeners.erase listener }

/-- The singleton as a machine. -/
def machine (N K : Type) [DecidableEq K] :
    Machine (NetworkInfo K) (NetworkCall N K) (List (K × N)) where
  step info
    | .onAvailable network reachable => info.onAvailable network reachable
    | .onLost network => info.onLost network
    | .addListener listener => (info.addListener listener, [])
    | .removeListener listener => (info.removeListener listener, [])

end NetworkInfo

variable {N K : Type}

namespace NetworkCall

/-- The callback that makes a network available. -/
def Announces (network : N) : NetworkCall N K → Prop
  | .onAvailable other _ => other = network
  | _ => False

/-- The callback that ends it. -/
def Loses (network : N) : NetworkCall N K → Prop
  | .onLost other => other = network
  | _ => False

/-- The network of the callback passes the host check. -/
def Passes : NetworkCall N K → Prop
  | .onAvailable _ reachable => reachable = true
  | _ => True

end NetworkCall

/-- The network has become available and has not since been lost. -/
def IsUp (calls : List (NetworkCall N K)) (network : N) : Prop :=
  Since (NetworkCall.Announces network) (NetworkCall.Loses network) calls

/-- `isOnline` tells whether a network is up. -/
def Truthful [DecidableEq K] (calls : List (NetworkCall N K)) : Prop :=
  ((NetworkInfo.machine N K).after .fresh calls).isOnline = true ↔
    ∃ network, IsUp calls network

/-- If the callback reports a loss, no other network is up. -/
def LosesLast (calls : List (NetworkCall N K)) : NetworkCall N K → Prop
  | .onLost network => ∀ other, IsUp calls other → other = network
  | _ => True

/-! ## One callback -/

/-- An available network is up. -/
theorem isUp_onAvailable (calls : List (NetworkCall N K)) (network : N) (reachable : Bool) :
    IsUp (calls ++ [.onAvailable network reachable]) network :=
  since_concat.mpr (.inl rfl)

/-- After a loss the other networks are up as before. -/
theorem isUp_onLost (calls : List (NetworkCall N K)) (network other : N) :
    IsUp (calls ++ [.onLost network]) other ↔ IsUp calls other ∧ other ≠ network := by
  rw [IsUp, since_concat]
  simp only [NetworkCall.Announces, NetworkCall.Loses, false_or]
  exact and_congr_right fun _ => ne_comm

/-- Listeners concern no network. -/
theorem isUp_listener (calls : List (NetworkCall N K)) (call : NetworkCall N K)
    (neutral : ∀ network, ¬call.Announces network ∧ ¬call.Loses network) (network : N) :
    IsUp (calls ++ [call]) network ↔ IsUp calls network := by
  refine since_append_of_neutral fun event member => ?_
  rw [List.mem_singleton.mp member]
  exact neutral network

variable [DecidableEq K]

/-- What one more callback makes of the truth. -/
theorem truthful_concat {calls : List (NetworkCall N K)} (truthful : Truthful calls)
    {call : NetworkCall N K} (passes : call.Passes) :
    Truthful (calls ++ [call]) ↔ LosesLast calls call := by
  unfold Truthful at truthful ⊢
  rw [Machine.after_append, Machine.after_cons, Machine.after_nil]
  generalize (NetworkInfo.machine N K).after .fresh calls = info at *
  cases call with
  | onAvailable network reachable =>
      have checked : reachable = true := passes
      subst checked
      have online : ((NetworkInfo.machine N K).step info (.onAvailable network true)).1.isOnline =
          true := rfl
      simp only [online, LosesLast, true_iff, iff_true]
      exact ⟨network, isUp_onAvailable calls network true⟩
  | onLost network =>
      have offline : ((NetworkInfo.machine N K).step info (.onLost network)).1.isOnline = false :=
        rfl
      simp only [offline, Bool.false_eq_true, false_iff, not_exists, LosesLast, isUp_onLost,
        not_and, not_not]
  | addListener listener =>
      have same : ((NetworkInfo.machine N K).step info (.addListener listener)).1.isOnline =
          info.isOnline := by
        simp only [NetworkInfo.machine, NetworkInfo.addListener]
        split_ifs <;> rfl
      simp only [same, LosesLast, iff_true,
        isUp_listener calls (.addListener listener) fun _ => ⟨id, id⟩]
      exact truthful
  | removeListener listener =>
      have same : ((NetworkInfo.machine N K).step info (.removeListener listener)).1.isOnline =
          info.isOnline := rfl
      simp only [same, LosesLast, iff_true,
        isUp_listener calls (.removeListener listener) fun _ => ⟨id, id⟩]
      exact truthful

/-! ## All callbacks -/

/-- `isOnline` is truthful after every callback of a run exactly when every loss is
one of the only network that is up. -/
theorem truthful_iff {calls : List (NetworkCall N K)} (passing : ∀ call ∈ calls, call.Passes) :
    Throughout Truthful calls ↔ Always LosesLast calls := by
  induction calls using List.reverseRecOn with
  | nil => simp [throughout_nil, Truthful, IsUp, NetworkInfo.fresh, NetworkInfo.isOnline]
  | append_singleton past call inductionHypothesis =>
      have earlier := inductionHypothesis fun other member =>
        passing other (List.mem_append_left _ member)
      have passes := passing call (by simp)
      rw [throughout_concat, always_concat, ← earlier]
      exact and_congr_right fun throughout => truthful_concat throughout.last passes

theorem truthful_oneByOne :
    Throughout Truthful
      ([.onAvailable 1 true, .onLost 1, .onAvailable 2 true] : List (NetworkCall Nat Nat)) := by
  refine (truthful_iff ?_).mpr ?_
  · simp [NetworkCall.Passes]
  · simp [LosesLast, IsUp, NetworkCall.Announces, NetworkCall.Loses]

/-- A handover announces the new network before the old one is lost. -/
theorem handover_misleads :
    ¬Truthful
      ([.onAvailable 1 true, .onAvailable 2 true, .onLost 1] : List (NetworkCall Nat Nat)) := by
  intro truthful
  have up : IsUp ([.onAvailable 1 true, .onAvailable 2 true, .onLost 1] :
      List (NetworkCall Nat Nat)) 2 := by
    simp [IsUp, NetworkCall.Announces, NetworkCall.Loses]
  exact absurd (truthful.mpr ⟨2, up⟩) (by decide)

end Openpyn.Connection
