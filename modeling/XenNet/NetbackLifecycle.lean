import XenNet.BackendBooks
import XenNet.RunTotals

/-!
The life of a backend: it is probed, follows its frontend and the hotplug scripts, and is removed,
while the administrator brings the interface up and down and packets go through it. The changes
of the xenbus are handled one after the other; in between the device may be opened and closed.
-/

namespace XenNet.NetbackLifecycle

open XenNet.TransitionSystem
open XenNet.RunTotals
open XenNet.InterruptLines
open XenNet.KernelScan
open XenNet.StateDiagram
open XenNet.NetbackConnect (KthreadAnswer)
open XenNet.NetbackInterface
open XenNet.InterfaceBooks
open XenNet.InterfaceConnect
open XenNet.NetbackXenbus
open XenNet.NetbackStates
open XenNet.BackendBooks

/-- What happens to the interface of a backend: `rogue` is its thread that turns the carrier off,
`notify` and `netmapIrq` are a delivery of the switch and a round of the netmap thread. -/
inductive VifEvent where
  | openDev
  | closeDev
  | changeMtu (mtu : Nat)
  | updateFeatures (wanted : Features)
  | rogue
  | notify
  | netmapIrq

inductive Event where
  | frontendChanged (state : Int) (online : Bool) (call : ConnectCall)
  | hotplugStatus (status : Except Errno (List Char))
  | vif (event : VifEvent)
  | remove (call : ConnectCall)

def vifStep (s : Interface) : VifEvent → Option Interface
  | .openDev => if s.vif.dev.running then none else some (xenvifOpen s)
  | .closeDev => if s.vif.dev.running then some (xenvifClose s) else none
  | .changeMtu mtu =>
      match xenvifChangeMtu s.vif mtu with
      | some vif => some ⟨s.kernel, vif⟩
      | none => some s
  | .updateFeatures wanted => some ⟨s.kernel, netdevUpdateFeatures s.vif wanted⟩
  | .rogue =>
      if s.vif.task = some .xenvifKthread ∧ s.vif.dev.carrierOk = true then
        some (xenvifCarrierOff s)
      else none
  | .notify => some (notifyRx s)
  | .netmapIrq =>
      if s.vif.task = some .xenvifNetmapKthread then some (notifyTx s) else none

/-- A stopped kernel and a device without a backend do nothing. -/
def step : System → Event → Option System
  | .bound be, .frontendChanged state online call => some (frontendChanged be state online call)
  | .bound be, .hotplugStatus status =>
      if be.haveHotplugStatusWatch then some (.bound (hotplugStatusChanged be status)) else none
  | .bound be, .vif event =>
      match be.vif with
      | some vif => (vifStep ⟨be.kernel, vif⟩ event).map fun s => .bound (withInterface be s)
      | none => none
  | .bound be, .remove call => some (netbackRemove be call)
  | .free _, _ => none
  | .halted _, _ => none

def Sound : System → Prop
  | .bound be => BackendOk be
  | .free kernel => Idle kernel
  | .halted _ => False

/-- One for an interface, which holds a reference on the module and an array. -/
def vifCount (be : Backend) : Int :=
  if be.vif.isSome then 1 else 0

def misuses : System → Nat
  | .bound be => be.kernel.misuses
  | .free kernel => kernel.misuses
  | .halted _ => 0

/-- The references on the module that no interface accounts for. -/
def refBalance : System → Int
  | .bound be => be.kernel.moduleRefs - vifCount be
  | .free kernel => kernel.moduleRefs
  | .halted _ => 0

/-- The arrays of copy operations that no interface accounts for. -/
def opsBalance : System → Int
  | .bound be => be.kernel.copyOps - vifCount be
  | .free kernel => kernel.copyOps
  | .halted _ => 0

/-- In this step the backend enters the state `Connected`, and `P` holds at its call of
`xenvif_connect`. -/
def EntersAt (P : Bool → UInt32 → UInt32 → ConnectAnswers → Prop) : System → Event → Prop
  | .bound be, .frontendChanged state _ call =>
      XenbusState.ofInt state = some .connected ∧ Entering P be .connected call
  | _, _ => False

instance EntersAt.decidable (P : Bool → UInt32 → UInt32 → ConnectAnswers → Prop)
    [∀ netmap tx rx call, Decidable (P netmap tx rx call)] :
    (sys : System) → (e : Event) → Decidable (EntersAt P sys e)
  | .bound _, .frontendChanged _ _ _ => inferInstanceAs (Decidable (_ ∧ _))
  | .bound _, .hotplugStatus _ => isFalse id
  | .bound _, .vif _ => isFalse id
  | .bound _, .remove _ => isFalse id
  | .free _, _ => isFalse id
  | .halted _, _ => isFalse id

/-- What handling an event makes of a backend: what it adds to the misuses and to the references. -/
structure Handled (be : Backend) (twice : Nat) (refs : Int) (sys : System) : Prop where
  sound : Sound sys
  misuses : misuses sys = be.kernel.misuses + twice
  refBalance : refBalance sys = be.kernel.moduleRefs - vifCount be + refs
  opsBalance : opsBalance sys = be.kernel.copyOps - vifCount be

section Callbacks

variable {be : Backend}

theorem vifCount_congr {be' : Backend} (hvif : be'.vif.isSome = be.vif.isSome) :
    vifCount be' = vifCount be := by
  rw [vifCount, vifCount, hvif]

theorem Handled.after {be' : Backend} {goal : XenbusState} {call : ConnectCall} {sys : System}
    (hsettled : Settled be goal call be') {twice : Nat} {refs : Int}
    (hhandled : Handled be' twice refs sys) :
    Handled be ((if Entering UnbindsTwice be goal call then 1 else 0) + twice)
      ((if Entering ConnectFails be goal call then -1 else 0) + refs) sys where
  sound := hhandled.sound
  misuses := by rw [hhandled.misuses, hsettled.misuses, Nat.add_assoc]
  refBalance := by
    rw [hhandled.refBalance, hsettled.moduleRefs, vifCount_congr hsettled.hasVif]
    omega
  opsBalance := by rw [hhandled.opsBalance, hsettled.copyOps, vifCount_congr hsettled.hasVif]

theorem handled_bound (hok : BackendOk be) : Handled be 0 0 (.bound be) :=
  ⟨hok, rfl, (Int.add_zero _).symm, rfl⟩

theorem handled_settleThen (hok : BackendOk be) {goal : XenbusState} (hgoal : Live goal)
    (call : ConnectCall) {next : Backend → System} {twice : Nat} {refs : Int}
    (hnext : ∀ be', Settled be goal call be' → Handled be' twice refs (next be')) :
    Handled be ((if Entering UnbindsTwice be goal call then 1 else 0) + twice)
      ((if Entering ConnectFails be goal call then -1 else 0) + refs)
      (settleThen be goal call next) := by
  obtain ⟨be', hset, hsettled⟩ := setBackendState_spec hok hgoal call
  rw [settleThen, hset]
  exact Handled.after hsettled (hnext be' hsettled)

theorem not_entering_of_ne {P : Bool → UInt32 → UInt32 → ConnectAnswers → Prop}
    {goal : XenbusState} {call : ConnectCall} (hgoal : goal ≠ .connected) :
    ¬Entering P be goal call :=
  fun hentering => hgoal hentering.2.1

theorem handled_settleThen_of_ne (hok : BackendOk be) {goal : XenbusState} (hgoal : Live goal)
    (hne : goal ≠ .connected) (call : ConnectCall) {next : Backend → System}
    (hnext : ∀ be', Settled be goal call be' → Handled be' 0 0 (next be')) :
    Handled be 0 0 (settleThen be goal call next) := by
  have hhandled := handled_settleThen hok hgoal call hnext
  rw [if_neg (not_entering_of_ne hne), if_neg (not_entering_of_ne hne)] at hhandled
  exact hhandled

theorem handled_netbackRemove (hok : BackendOk be) (call : ConnectCall) :
    Handled be 0 0 (netbackRemove be call) := by
  have hfree : ∀ be', Settled be .closed call be' →
      Handled be' 0 0
        (match be'.vif with
          | some vif => .free (xenvifFree ⟨be'.kernel, vif⟩)
          | none => .free be'.kernel) := by
    intro be' hsettled
    have hapart := hsettled.ok.apart (by simp [hsettled.state])
    cases hvif : be'.vif with
    | none =>
        exact
          { sound := (heldBy_none hvif).mp hapart
            misuses := rfl
            refBalance := by simp [refBalance, vifCount, hvif]
            opsBalance := by simp [opsBalance, vifCount, hvif] }
    | some vif =>
        have hdis := (heldBy_some hvif).mp hapart
        have hidle := hdis.idle
        dsimp only
        rw [xenvifFree_eq hdis]
        exact
          { sound := ⟨hidle.lines, hidle.threads⟩
            misuses := rfl
            refBalance := by simp [refBalance, vifCount, hvif]
            opsBalance := by simp [opsBalance, vifCount, hvif] }
  exact handled_settleThen_of_ne hok .closed (by decide) call hfree

theorem handled_frontendGone (hok : BackendOk be) (call : ConnectCall) :
    Handled be 0 0 (frontendGone be call) :=
  handled_settleThen_of_ne hok .closed (by decide) call fun _ hsettled =>
    handled_netbackRemove hsettled.ok call

theorem backendOk_devFatal (hok : BackendOk be) (err : Int) (message : String) :
    BackendOk (xenbusDevFatal be err message) where
  live := hok.live
  history := hok.history
  held := (heldBy_congr rfl rfl).mpr hok.held
  apart := fun hne => (heldBy_congr rfl rfl).mpr (hok.apart hne)
  shown := by
    unfold ShownOk
    split
    · exact XenbusState.noConfusion
    · exact Or.inr rfl

theorem handled_devFatal (hok : BackendOk be) (err : Int) (message : String) :
    Handled be 0 0 (.bound (xenbusDevFatal be err message)) :=
  ⟨backendOk_devFatal hok err message, rfl, (Int.add_zero _).symm, rfl⟩

theorem handled_frontendChanged_of_ne (hok : BackendOk be) {state : Int}
    (hne : XenbusState.ofInt state ≠ some .connected) (online : Bool) (call : ConnectCall) :
    Handled be 0 0 (frontendChanged be state online call) := by
  have hbound : ∀ {goal : XenbusState} be', Settled be goal call be' →
      Handled be' 0 0 (.bound be') := fun be' hsettled => handled_bound hsettled.ok
  unfold frontendChanged
  split
  · exact handled_settleThen_of_ne hok .initWait (by decide) call hbound
  · exact handled_bound hok
  · rename_i hstate
    exact absurd hstate hne
  · exact handled_settleThen_of_ne hok .closing (by decide) call hbound
  · refine handled_settleThen_of_ne hok .closed (by decide) call fun be' hsettled => ?_
    cases online with
    | true => exact handled_bound hsettled.ok
    | false => exact handled_frontendGone hsettled.ok call
  · exact handled_frontendGone hok call
  · exact handled_devFatal hok _ _

theorem handled_frontendChanged (hok : BackendOk be) (state : Int) (online : Bool)
    (call : ConnectCall) :
    Handled be
      (if EntersAt UnbindsTwice (.bound be) (.frontendChanged state online call) then 1 else 0)
      (if EntersAt ConnectFails (.bound be) (.frontendChanged state online call) then -1 else 0)
      (frontendChanged be state online call) := by
  by_cases hconnected : XenbusState.ofInt state = some .connected
  · have henters : ∀ P, EntersAt P (.bound be) (.frontendChanged state online call) ↔
        Entering P be .connected call := fun P => and_iff_right hconnected
    have hsettle := handled_settleThen hok .connected call fun be' hsettled =>
      handled_bound hsettled.ok
    simp only [henters]
    unfold frontendChanged
    rw [hconnected]
    rw [Nat.add_zero, Int.add_zero] at hsettle
    exact hsettle
  · have hnot : ∀ P, ¬EntersAt P (.bound be) (.frontendChanged state online call) :=
      fun P henters => hconnected henters.1
    rw [if_neg (hnot _), if_neg (hnot _)]
    exact handled_frontendChanged_of_ne hok hconnected online call

theorem handled_hotplugStatusChanged (hok : BackendOk be) (status : Except Errno (List Char)) :
    Handled be 0 0 (.bound (hotplugStatusChanged be status)) := by
  unfold hotplugStatusChanged
  split
  · exact handled_bound hok
  · split
    · refine ⟨?_, rfl, (Int.add_zero _).symm, rfl⟩
      exact
        { live := hok.live
          history := hok.history
          held := (heldBy_congr rfl rfl).mpr hok.held
          apart := fun hne => (heldBy_congr rfl rfl).mpr (hok.apart hne)
          shown := Or.inl rfl }
    · exact handled_bound hok

theorem maintained_vifStep {s t : Interface} {event : VifEvent} (hbooks : Books s)
    (hstep : vifStep s event = some t) : Maintained s t := by
  have hself : Maintained s s := ⟨hbooks, SameCounts.refl _, rfl⟩
  cases event with
  | openDev =>
      rw [vifStep, Option.ite_none_left_eq_some, Bool.not_eq_true] at hstep
      obtain ⟨hstopped, ht⟩ := hstep
      exact Option.some.inj ht ▸ maintained_xenvifOpen hbooks hstopped
  | closeDev =>
      rw [vifStep, Option.ite_none_right_eq_some] at hstep
      obtain ⟨hrunning, ht⟩ := hstep
      exact Option.some.inj ht ▸ maintained_xenvifClose hbooks hrunning
  | changeMtu mtu =>
      rw [vifStep] at hstep
      split at hstep
      · rename_i vif hchange
        exact Option.some.inj hstep ▸ maintained_xenvifChangeMtu hbooks hchange
      · exact Option.some.inj hstep ▸ hself
  | updateFeatures wanted =>
      exact Option.some.inj hstep ▸ maintained_netdevUpdateFeatures hbooks wanted
  | rogue =>
      rw [vifStep, Option.ite_none_right_eq_some] at hstep
      obtain ⟨hcarrier, ht⟩ := hstep
      exact Option.some.inj ht ▸ maintained_xenvifCarrierOff hbooks hcarrier.2
  | notify =>
      obtain rfl := Option.some.inj hstep
      unfold notifyRx
      split
      · rename_i hnotify
        exact maintained_notify hbooks (hbooks.carrier hnotify.1) (Or.inr rfl)
      · exact hself
  | netmapIrq =>
      rw [vifStep, Option.ite_none_right_eq_some] at hstep
      obtain ⟨-, ht⟩ := hstep
      obtain rfl := Option.some.inj ht
      unfold notifyTx
      split
      · rename_i htx
        exact maintained_notify hbooks htx (Or.inl rfl)
      · exact hself

theorem handled_withInterface (hok : BackendOk be) {vif : Xenvif} (hvif : be.vif = some vif)
    {s : Interface} (hmaintained : Maintained ⟨be.kernel, vif⟩ s) :
    Handled be 0 0 (.bound (withInterface be s)) where
  sound :=
    { live := hok.live
      history := hok.history
      held := hmaintained.books
      apart := fun hne =>
        { toBooks := hmaintained.books
          txIrq := hmaintained.txIrq.trans ((heldBy_some hvif).mp (hok.apart hne)).txIrq }
      shown := hok.shown }
  misuses := hmaintained.counts.misuses
  refBalance := by
    have hrefs : s.kernel.moduleRefs = be.kernel.moduleRefs := hmaintained.counts.moduleRefs
    simp [refBalance, vifCount, withInterface, hvif, hrefs]
  opsBalance := by
    have hops : s.kernel.copyOps = be.kernel.copyOps := hmaintained.counts.copyOps
    simp [opsBalance, vifCount, withInterface, hvif, hops]

end Callbacks

/-- What one step does to the invariant and the measures. -/
structure StepSpec (sys : System) (e : Event) (sys' : System) : Prop where
  sound : Sound sys'
  misuses : misuses sys' = misuses sys + if EntersAt UnbindsTwice sys e then 1 else 0
  refBalance : refBalance sys' = refBalance sys + if EntersAt ConnectFails sys e then -1 else 0
  opsBalance : opsBalance sys' = opsBalance sys

theorem stepSpec_of_handled {be : Backend} {e : Event} {sys : System}
    (hnot : ∀ P, ¬EntersAt P (.bound be) e) (hhandled : Handled be 0 0 sys) :
    StepSpec (.bound be) e sys where
  sound := hhandled.sound
  misuses := by
    rw [if_neg (hnot _)]
    exact hhandled.misuses
  refBalance := by
    rw [if_neg (hnot _)]
    exact hhandled.refBalance
  opsBalance := hhandled.opsBalance

theorem step_spec {sys sys' : System} {e : Event} (hsound : Sound sys)
    (hstep : step sys e = some sys') : StepSpec sys e sys' := by
  cases sys with
  | free kernel => contradiction
  | halted fault => contradiction
  | bound be =>
      cases e with
      | frontendChanged state online call =>
          obtain rfl := Option.some.inj hstep
          have hhandled := handled_frontendChanged hsound state online call
          exact ⟨hhandled.sound, hhandled.misuses, hhandled.refBalance, hhandled.opsBalance⟩
      | hotplugStatus status =>
          rw [step, Option.ite_none_right_eq_some] at hstep
          obtain rfl := Option.some.inj hstep.2
          exact stepSpec_of_handled (fun _ => id) (handled_hotplugStatusChanged hsound status)
      | vif event =>
          rw [step] at hstep
          split at hstep
          · rename_i vif hvif
            obtain ⟨s, hs, rfl⟩ := Option.map_eq_some_iff.mp hstep
            have hmaintained := maintained_vifStep ((heldBy_some hvif).mp hsound.held) hs
            exact stepSpec_of_handled (fun _ => id) (handled_withInterface hsound hvif hmaintained)
          · contradiction
      | remove call =>
          obtain rfl := Option.some.inj hstep
          exact stepSpec_of_handled (fun _ => id) (handled_netbackRemove hsound call)

theorem sound_run {sys sys' : System} {es : List Event} (hsound : Sound sys)
    (hrun : run step sys es = some sys') : Sound sys' :=
  invariant_of_run (fun _ _ _ hs hstep => (step_spec hs hstep).sound) hsound hrun

/-- The device gets an array of copy operations but cannot be registered. -/
def LeaksCopyOps (dev : XenbusDevice) (call : ProbeCall) : Prop :=
  (xenbusScanf (scanS 0) call.store dev.nodename "handle").isOk = true ∧
    call.alloc.netdev = true ∧ call.alloc.copyOps = true ∧ call.alloc.register ≠ 0

instance (dev : XenbusDevice) (call : ProbeCall) : Decidable (LeaksCopyOps dev call) :=
  inferInstanceAs (Decidable (_ ∧ _ ∧ _ ∧ _))

/-- A backend as a successful probe leaves it, for the kernel that it was probed in. -/
structure Probed (kernel : Kernel) (leak : Int) (be : Backend) : Prop where
  ok : BackendOk be
  state : be.state = .initWait
  misuses : be.kernel.misuses = kernel.misuses
  refBalance : refBalance (.bound be) = kernel.moduleRefs
  opsBalance : opsBalance (.bound be) = kernel.copyOps + leak

section Probe

variable {dev : XenbusDevice} {kernel : Kernel}

/-- The backend when its interface is created. -/
def waiting (dev : XenbusDevice) (kernel : Kernel) : Backend :=
  { xenbusSwitchState (newBackend dev kernel) .initWait with state := .initWait }

theorem probed_fatal (kernel' : Kernel) (hidle : Idle kernel)
    (hlines : kernel'.lines = kernel.lines)
    (hthreads : kernel'.threads = kernel.threads) (hmisuses : kernel'.misuses = kernel.misuses)
    (hrefs : kernel'.moduleRefs = kernel.moduleRefs) {leak : Int}
    (hops : kernel'.copyOps = kernel.copyOps + leak) (err : Int) (message : String) :
    Probed kernel leak
      (xenbusDevFatal { waiting dev kernel with kernel := kernel' } err message) where
  ok :=
    { live := .initWait
      history := rfl
      held := ⟨hlines.trans hidle.lines, hthreads.trans hidle.threads⟩
      apart := fun _ => ⟨hlines.trans hidle.lines, hthreads.trans hidle.threads⟩
      shown := Or.inr rfl }
  state := rfl
  misuses := hmisuses
  refBalance := (Int.sub_zero _).trans hrefs
  opsBalance := (Int.sub_zero _).trans hops

theorem xenvifAlloc_cases (kernel : Kernel) (domid : UInt16) (handle : UInt32)
    (call : AllocAnswers) :
    (¬(call.netdev = true ∧ call.copyOps = true) ∧
      xenvifAlloc kernel domid handle call = (kernel, .error enomem)) ∨
    (call.netdev = true ∧ call.copyOps = true ∧ call.register ≠ 0 ∧
      xenvifAlloc kernel domid handle call =
        ({ kernel with copyOps := kernel.copyOps + 1 }, .error call.register)) ∨
    (call.register = 0 ∧
      xenvifAlloc kernel domid handle call =
        ({ kernel with copyOps := kernel.copyOps + 1, moduleRefs := kernel.moduleRefs + 1 },
          .ok (netdevUpdateFeatures (newXenvif domid handle) hwFeatures))) := by
  unfold xenvifAlloc
  cases hnetdev : call.netdev with
  | false => exact Or.inl ⟨by simp, rfl⟩
  | true =>
      cases hops : call.copyOps with
      | false => exact Or.inl ⟨by simp, rfl⟩
      | true =>
          by_cases hregister : call.register = 0
          · refine Or.inr (Or.inr ⟨hregister, ?_⟩)
            simp [hregister]
          · refine Or.inr (Or.inl ⟨rfl, rfl, hregister, ?_⟩)
            simp [hregister]

theorem backendCreateXenvif_unread {be : Backend} {store : Xenstore} {alloc : AllocAnswers}
    {e : Errno} (hhandle : xenbusScanf (scanS 0) store be.dev.nodename "handle" = .error e) :
    backendCreateXenvif be store alloc = xenbusDevFatal be e.err "reading handle" := by
  rw [backendCreateXenvif, hhandle]

theorem backendCreateXenvif_failed {be : Backend} {store : Xenstore} {alloc : AllocAnswers}
    {handle : UInt64} {err : Int}
    (hhandle : xenbusScanf (scanS 0) store be.dev.nodename "handle" = .ok handle)
    (halloc : xenvifAlloc be.kernel be.dev.otherendId handle.toUInt32 alloc =
      (kernel, .error err)) :
    backendCreateXenvif be store alloc =
      xenbusDevFatal { be with kernel := kernel } err "creating interface" := by
  rw [backendCreateXenvif, hhandle]
  dsimp only
  rw [halloc]

theorem backendCreateXenvif_created {be : Backend} {store : Xenstore} {alloc : AllocAnswers}
    {handle : UInt64} {vif : Xenvif}
    (hhandle : xenbusScanf (scanS 0) store be.dev.nodename "handle" = .ok handle)
    (halloc : xenvifAlloc be.kernel be.dev.otherendId handle.toUInt32 alloc = (kernel, .ok vif)) :
    backendCreateXenvif be store alloc = { be with kernel := kernel, vif := some vif } := by
  rw [backendCreateXenvif, hhandle]
  dsimp only
  rw [halloc]

theorem probed_backendCreateXenvif (hidle : Idle kernel) (call : ProbeCall) :
    Probed kernel (if LeaksCopyOps dev call then 1 else 0)
      (backendCreateXenvif (waiting dev kernel) call.store call.alloc) := by
  cases hhandle : xenbusScanf (scanS 0) call.store dev.nodename "handle" with
  | error e =>
      have hleak : ¬LeaksCopyOps dev call := fun hleak => by
        rw [LeaksCopyOps, hhandle] at hleak
        exact Bool.false_ne_true hleak.1
      rw [if_neg hleak, backendCreateXenvif_unread hhandle]
      exact probed_fatal kernel hidle rfl rfl rfl rfl (Int.add_zero _).symm _ _
  | ok handle =>
      have hleak : LeaksCopyOps dev call ↔
          call.alloc.netdev = true ∧ call.alloc.copyOps = true ∧ call.alloc.register ≠ 0 := by
        rw [LeaksCopyOps, hhandle]
        exact and_iff_right rfl
      rcases xenvifAlloc_cases kernel dev.otherendId handle.toUInt32 call.alloc with
        ⟨hnot, halloc⟩ | ⟨hnetdev, hops, hregister, halloc⟩ | ⟨hregister, halloc⟩
      · rw [backendCreateXenvif_failed hhandle halloc,
          if_neg fun h => hnot ⟨(hleak.mp h).1, (hleak.mp h).2.1⟩]
        exact probed_fatal kernel hidle rfl rfl rfl rfl (Int.add_zero _).symm _ _
      · rw [backendCreateXenvif_failed hhandle halloc,
          if_pos (hleak.mpr ⟨hnetdev, hops, hregister⟩)]
        exact probed_fatal { kernel with copyOps := kernel.copyOps + 1 } hidle rfl rfl rfl rfl rfl
          _ _
      · rw [backendCreateXenvif_created hhandle halloc, if_neg fun h => (hleak.mp h).2.2 hregister]
        have hdis : Disconnected
            ⟨{ kernel with copyOps := kernel.copyOps + 1, moduleRefs := kernel.moduleRefs + 1 },
              netdevUpdateFeatures (newXenvif dev.otherendId handle.toUInt32) hwFeatures⟩ :=
          disconnected_newXenvif hidle.lines hidle.threads
        exact
          { ok :=
              { live := .initWait
                history := rfl
                held := hdis.toBooks
                apart := fun _ => hdis
                shown := Or.inl rfl }
            state := rfl
            misuses := rfl
            refBalance := Int.add_sub_cancel _ _
            opsBalance := (Int.add_sub_cancel _ _).trans (Int.add_zero _).symm }

theorem ne_zero_of_probeTransaction {attempts : List Attempt} {nodes : List (String × String)}
    {err : Int} {message : String}
    (htrans : probeTransaction attempts = some (nodes, some (err, message))) :
    err ≠ 0 ∧ nodes = [] := by
  induction attempts with
  | nil => contradiction
  | cons attempt attempts ih =>
      rw [probeTransaction] at htrans
      split at htrans
      · rename_i hstart
        simp only [Option.some.injEq, Prod.mk.injEq] at htrans
        exact ⟨htrans.2.1 ▸ hstart, htrans.1.symm⟩
      · split at htrans
        · rename_i node hfind
          have hprintf := List.find?_some hfind
          simp only [Option.some.injEq, Prod.mk.injEq] at htrans
          exact ⟨htrans.2.1 ▸ bne_iff_ne.mp hprintf, htrans.1.symm⟩
        · split at htrans
          · exact ih htrans
          · split at htrans
            · rename_i hfinish
              simp only [Option.some.injEq, Prod.mk.injEq] at htrans
              exact ⟨htrans.2.1 ▸ hfinish, htrans.1.symm⟩
            · simp at htrans

theorem nodes_of_probeTransaction {attempts : List Attempt} {nodes : List (String × String)}
    (htrans : probeTransaction attempts = some (nodes, none)) : nodes = probeFeatures := by
  induction attempts with
  | nil => contradiction
  | cons attempt attempts ih =>
      rw [probeTransaction] at htrans
      split at htrans
      · simp at htrans
      · split at htrans
        · simp at htrans
        · split at htrans
          · exact ih htrans
          · split at htrans
            · simp at htrans
            · exact (Prod.mk.inj (Option.some.inj htrans)).1.symm

theorem netbackRemove_unknown {be : Backend} (hstate : be.state = .unknown)
    (call : ConnectCall) : netbackRemove be call = .halted .bug := by
  have hset : setBackendState be .closed call = .error .bug := by
    simp [setBackendState, maxRounds, backendLoop, backendRound, hstate]
  rw [netbackRemove, hset]

theorem probed_of_netbackProbe (hidle : Idle kernel) {separateTxRxIrq : Bool} {call : ProbeCall}
    {remove : ConnectCall} {be : Backend} {nodes : List (String × String)} {ret : Int}
    (hprobe : netbackProbe dev kernel separateTxRxIrq call remove = some ⟨.bound be, nodes, ret⟩) :
    Probed kernel (if LeaksCopyOps dev call then 1 else 0) be := by
  unfold netbackProbe at hprobe
  split at hprobe
  · simp at hprobe
  · dsimp only at hprobe
    split at hprobe
    · contradiction
    · rw [netbackRemove_unknown rfl] at hprobe
      simp at hprobe
    · split at hprobe
      · rw [netbackRemove_unknown rfl] at hprobe
        simp at hprobe
      · simp only [Option.some.injEq, ProbeResult.mk.injEq, System.bound.injEq] at hprobe
        rw [← hprobe.1]
        exact probed_backendCreateXenvif hidle call

/-- What a probe comes to: without memory nothing is done; after any other failure the removal of
the backend stops the kernel; otherwise the backend waits for its frontend. The features are
written all or none. -/
theorem netbackProbe_outcome (dev : XenbusDevice) (hidle : Idle kernel) (separateTxRxIrq : Bool)
    (call : ProbeCall) (remove : ConnectCall) {result : ProbeResult}
    (hprobe : netbackProbe dev kernel separateTxRxIrq call remove = some result) :
    (call.kzalloc = false ∧ result = ⟨.free kernel, [], enomem⟩) ∨
    (result.ret ≠ 0 ∧ result.system = .halted .bug ∧
      (result.nodes = [] ∨ probeFeatures <+: result.nodes)) ∨
    (result.ret = 0 ∧ probeFeatures <+: result.nodes ∧ ∃ be, result.system = .bound be ∧
      BackendOk be ∧ be.state = .initWait) := by
  have hnodes : ∀ nodes, nodes = probeFeatures →
      probeFeatures <+: (if call.splitPrintf = 0 then
        nodes ++ [("feature-split-event-channels", if separateTxRxIrq then "1" else "0")]
        else nodes) := by
    rintro nodes rfl
    split
    · exact List.prefix_append _ _
    · exact List.prefix_refl _
  unfold netbackProbe at hprobe
  split at hprobe
  · rename_i hmemory
    refine Or.inl ⟨by simpa using hmemory, (Option.some.inj hprobe).symm⟩
  · dsimp only at hprobe
    split at hprobe
    · contradiction
    · rename_i nodes err message htrans
      obtain rfl := Option.some.inj hprobe
      obtain ⟨herr, hempty⟩ := ne_zero_of_probeTransaction htrans
      have hhalted : netbackRemove (xenbusDevFatal (newBackend dev kernel) err message) remove =
          .halted .bug := netbackRemove_unknown rfl remove
      exact Or.inr (Or.inl ⟨herr, hhalted, Or.inl hempty⟩)
    · rename_i nodes htrans
      have hwritten := hnodes nodes (nodes_of_probeTransaction htrans)
      split at hprobe
      · rename_i hswitch
        obtain rfl := Option.some.inj hprobe
        have hhalted : netbackRemove (newBackend dev kernel) remove = .halted .bug :=
          netbackRemove_unknown rfl remove
        exact Or.inr (Or.inl ⟨hswitch, hhalted, Or.inr hwritten⟩)
      · obtain rfl := Option.some.inj hprobe
        have hprobed : Probed kernel _ (backendCreateXenvif (waiting dev kernel) _ _) :=
          probed_backendCreateXenvif hidle call
        exact Or.inr (Or.inr ⟨rfl, hwritten, _, rfl, hprobed.ok, hprobed.state⟩)

end Probe

def sampleKernel : Kernel := ⟨unbound, [], 1, 0, 0⟩

def sampleDev : XenbusDevice := ⟨"backend", "frontend", 1⟩

/-- Every node reads as `1`, as a flag of netmap mode, as both event channels and as an address. -/
def sampleStore : Xenstore := fun _ _ => .ok "1:1:1:1:1:1".toList

def sampleProbe : ProbeCall where
  kzalloc := true
  attempts := [⟨0, fun _ => 0, eagain.err⟩, ⟨0, fun _ => 0, 0⟩]
  splitPrintf := 0
  switchState := 0
  store := sampleStore
  alloc := ⟨true, true, 0⟩

def sampleConnect (kthread : KthreadAnswer) : ConnectCall where
  store := sampleStore
  stack := (0, 0)
  connect :=
    { map := 0
      txBind := ⟨5, by decide⟩
      rxBind := ⟨6, by decide⟩
      kthread := kthread
      wanted := hwFeatures
      ne_irq := Or.inl (by decide) }
  watch := none

def sampleBackend : Backend :=
  backendCreateXenvif (waiting sampleDev sampleKernel) sampleStore ⟨true, true, 0⟩

def sampleNodes : List (String × String) :=
  probeFeatures ++ [("feature-split-event-channels", "1")]

theorem netbackProbe_sample :
    netbackProbe sampleDev sampleKernel true sampleProbe (sampleConnect .thread) =
      some ⟨.bound sampleBackend, sampleNodes, 0⟩ := rfl

theorem netbackProbe_outcome_sample :
    ∃ be, System.bound sampleBackend = .bound be ∧ BackendOk be ∧ be.state = .initWait := by
  rcases netbackProbe_outcome sampleDev ⟨rfl, rfl⟩ true sampleProbe (sampleConnect .thread)
    netbackProbe_sample with ⟨hmemory, -⟩ | ⟨hret, -⟩ | ⟨-, -, hbound⟩
  · exact absurd hmemory (by decide)
  · exact absurd rfl hret
  · exact hbound

/-- The device is opened, and the frontend connects. -/
def sampleStart (kthread : KthreadAnswer) : List Event :=
  [.vif .openDev, .frontendChanged 4 true (sampleConnect kthread)]

/-- The frontend closes again, and the device is removed. -/
def sampleLife (kthread : KthreadAnswer) : List Event :=
  sampleStart kthread ++
    [.frontendChanged 6 true (sampleConnect kthread), .remove (sampleConnect kthread)]

section Run

variable {dev : XenbusDevice} {kernel : Kernel} {separateTxRxIrq : Bool} {call : ProbeCall}
  {remove : ConnectCall} {be : Backend} {nodes : List (String × String)} {ret : Int}
  {es : List Event} {sys : System}

/-- What the backend holds of the kernel: nothing is left over where it is not connected, and
nothing at all once it is removed. -/
def Accounted : System → Prop
  | .bound be =>
      HeldBy Books be ∧
        (be.state ≠ .connected → be.kernel.lines = unbound ∧ be.kernel.threads = [])
  | .free kernel => kernel.lines = unbound ∧ kernel.threads = []
  | .halted _ => False

theorem accounted_of_sound (hsound : Sound sys) : Accounted sys := by
  cases sys with
  | bound be =>
      refine ⟨hsound.held, fun hne => ?_⟩
      have hapart := hsound.apart hne
      cases hvif : be.vif with
      | none => exact ⟨((heldBy_none hvif).mp hapart).lines, ((heldBy_none hvif).mp hapart).threads⟩
      | some vif =>
          have hdis := (heldBy_some hvif).mp hapart
          exact ⟨hdis.lines_eq, hdis.threads_eq⟩
  | free kernel => exact ⟨hsound.lines, hsound.threads⟩
  | halted fault => exact hsound

/-- Throughout the life of a backend its books are right, and no `BUG` is met. -/
theorem accounted_lifecycle (hidle : Idle kernel)
    (hprobe : netbackProbe dev kernel separateTxRxIrq call remove = some ⟨.bound be, nodes, ret⟩)
    (hrun : run step (.bound be) es = some sys) : Accounted sys := by
  have hstart : Sound (.bound be) := (probed_of_netbackProbe hidle hprobe).ok
  exact accounted_of_sound (sound_run hstart hrun)

theorem accounted_sample :
    ∃ sys, run step (.bound sampleBackend) (sampleLife .thread) = some sys ∧ Accounted sys := by
  obtain ⟨sys, hrun⟩ :
      ∃ sys, run step (.bound sampleBackend) (sampleLife .thread) = some sys := ⟨_, rfl⟩
  exact ⟨sys, hrun, accounted_lifecycle ⟨rfl, rfl⟩ netbackProbe_sample hrun⟩

/-- Lines are misused exactly once for every call of `xenvif_connect` that bound one event channel
for both directions and got no thread. -/
theorem misuses_lifecycle (hidle : Idle kernel)
    (hprobe : netbackProbe dev kernel separateTxRxIrq call remove = some ⟨.bound be, nodes, ret⟩)
    (hrun : run step (.bound be) es = some sys) :
    misuses sys = kernel.misuses +
      total step (fun s e => if EntersAt UnbindsTwice s e then 1 else 0) (.bound be) es := by
  have hprobed := probed_of_netbackProbe hidle hprobe
  have hsound : Sound (.bound be) := hprobed.ok
  rw [measure_run (fun s e t hs hstep => (step_spec hs hstep).sound)
    (fun s e t hs hstep => (step_spec hs hstep).misuses) hsound hrun]
  exact congrArg (· + _) hprobed.misuses

theorem misuses_sample :
    ∃ sys, run step (.bound sampleBackend) (sampleLife (.errPtr 11)) = some sys ∧
      misuses sys = 0 +
        total step (fun s e => if EntersAt UnbindsTwice s e then 1 else 0)
          (.bound sampleBackend) (sampleLife (.errPtr 11)) := by
  obtain ⟨sys, hrun⟩ :
      ∃ sys, run step (.bound sampleBackend) (sampleLife (.errPtr 11)) = some sys := ⟨_, rfl⟩
  exact ⟨sys, hrun, misuses_lifecycle ⟨rfl, rfl⟩ netbackProbe_sample hrun⟩

example : total step (fun s e => if EntersAt UnbindsTwice s e then 1 else 0)
    (.bound sampleBackend) (sampleLife (.errPtr 11)) = 1 := by rfl

/-- The module loses one reference for every call of `xenvif_connect` that fails, over and above
the reference of the interface; the array of an interface that cannot be registered is lost. -/
theorem references_lifecycle (hidle : Idle kernel)
    (hprobe : netbackProbe dev kernel separateTxRxIrq call remove = some ⟨.bound be, nodes, ret⟩)
    (hrun : run step (.bound be) es = some sys) :
    refBalance sys = kernel.moduleRefs +
      total step (fun s e => if EntersAt ConnectFails s e then -1 else 0) (.bound be) es ∧
    opsBalance sys = kernel.copyOps + if LeaksCopyOps dev call then 1 else 0 := by
  have hprobed := probed_of_netbackProbe hidle hprobe
  have hsound : Sound (.bound be) := hprobed.ok
  constructor
  · rw [measure_run (fun s e t hs hstep => (step_spec hs hstep).sound)
      (fun s e t hs hstep => (step_spec hs hstep).refBalance) hsound hrun, hprobed.refBalance]
  · have hops := invariant_of_run
      (I := fun s => Sound s ∧ opsBalance s = opsBalance (.bound be))
      (fun s e t hs hstep =>
        ⟨(step_spec hs.1 hstep).sound, (step_spec hs.1 hstep).opsBalance.trans hs.2⟩)
      ⟨hsound, rfl⟩ hrun
    exact hops.2.trans hprobed.opsBalance

theorem references_sample :
    ∃ sys, run step (.bound sampleBackend) (sampleLife (.errPtr 11)) = some sys ∧
      refBalance sys = 1 +
        total step (fun s e => if EntersAt ConnectFails s e then -1 else 0)
          (.bound sampleBackend) (sampleLife (.errPtr 11)) := by
  obtain ⟨sys, hrun⟩ :
      ∃ sys, run step (.bound sampleBackend) (sampleLife (.errPtr 11)) = some sys := ⟨_, rfl⟩
  exact ⟨sys, hrun, (references_lifecycle ⟨rfl, rfl⟩ netbackProbe_sample hrun).1⟩

/-- The states that a backend goes through follow the diagram from `InitWait` on, and every state
of the diagram is reached from the present one in a shortest way. -/
theorem history_lifecycle (hidle : Idle kernel)
    (hprobe : netbackProbe dev kernel separateTxRxIrq call remove = some ⟨.bound be, nodes, ret⟩)
    {be' : Backend} (hrun : run step (.bound be) es = some (.bound be')) :
    Leads Allowed .initWait be'.state be'.log ∧
      ∀ goal change, Live goal → ∃ next path, setBackendState be' goal change = .ok next ∧
        next.state = goal ∧ next.log = be'.log ++ path ∧
        Shortest Allowed be'.state goal path := by
  have hstart : Sound (.bound be) := (probed_of_netbackProbe hidle hprobe).ok
  have hok : BackendOk be' := sound_run hstart hrun
  refine ⟨hok.history, fun goal change hgoal => ?_⟩
  obtain ⟨next, hset, hsettled⟩ := setBackendState_spec hok hgoal change
  exact ⟨next, way be'.state goal, hset, hsettled.state, hsettled.log,
    shortest_way hok.live hgoal⟩

theorem history_sample :
    ∃ be, run step (.bound sampleBackend) (sampleStart .thread) = some (.bound be) ∧
      Leads Allowed .initWait be.state be.log := by
  obtain ⟨be, hrun⟩ :
      ∃ be, run step (.bound sampleBackend) (sampleStart .thread) = some (.bound be) := ⟨_, rfl⟩
  exact ⟨be, hrun, (history_lifecycle ⟨rfl, rfl⟩ netbackProbe_sample hrun).1⟩

/-- `Connected` is shown only in the state `Connected`, and only when no hotplug script is waited
for; otherwise what is shown is the state, or `Closing` after an error. -/
theorem shown_lifecycle (hidle : Idle kernel)
    (hprobe : netbackProbe dev kernel separateTxRxIrq call remove = some ⟨.bound be, nodes, ret⟩)
    {be' : Backend} (hrun : run step (.bound be) es = some (.bound be')) :
    (be'.shown = .connected →
      be'.state = .connected ∧ be'.haveHotplugStatusWatch = false) ∧
    (be'.haveHotplugStatusWatch = false → be'.shown = be'.state ∨ be'.shown = .closing) := by
  have hstart : Sound (.bound be) := (probed_of_netbackProbe hidle hprobe).ok
  have hok : BackendOk be' := sound_run hstart hrun
  have hshown := hok.shown
  unfold ShownOk at hshown
  cases hwatch : be'.haveHotplugStatusWatch with
  | true =>
      rw [if_pos hwatch] at hshown
      exact ⟨fun hconnected => absurd hconnected hshown, fun hfalse => absurd hfalse (by decide)⟩
  | false =>
      rw [hwatch, if_neg Bool.false_ne_true] at hshown
      refine ⟨fun hconnected => ⟨?_, rfl⟩, fun _ => hshown⟩
      rcases hshown with hshown | hshown
      · exact hshown.symm.trans hconnected
      · exact absurd (hshown.symm.trans hconnected) (by decide)

theorem shown_sample :
    ∃ be, run step (.bound sampleBackend) (sampleStart .thread) = some (.bound be) ∧
      be.shown ≠ .connected := by
  obtain ⟨be, hrun, hwait⟩ : ∃ be,
      run step (.bound sampleBackend) (sampleStart .thread) = some (.bound be) ∧
        be.haveHotplugStatusWatch = true := ⟨_, rfl, rfl⟩
  refine ⟨be, hrun, fun hconnected => ?_⟩
  have hdone := ((shown_lifecycle ⟨rfl, rfl⟩ netbackProbe_sample hrun).1 hconnected).2
  exact absurd (hwait.symm.trans hdone) (by decide)

theorem settled_of_settleThen {be be' : Backend} (hok : BackendOk be) {goal : XenbusState}
    (hgoal : Live goal) {change : ConnectCall}
    (hsettle : settleThen be goal change .bound = .bound be') : Settled be goal change be' := by
  obtain ⟨next, hset, hsettled⟩ := setBackendState_spec hok hgoal change
  rw [settleThen, hset] at hsettle
  exact System.bound.inj hsettle ▸ hsettled

theorem netbackRemove_ne_bound (be be' : Backend) (change : ConnectCall) :
    netbackRemove be change ≠ .bound be' := by
  unfold netbackRemove
  split
  · exact System.noConfusion
  · dsimp only
    split <;> exact System.noConfusion

theorem frontendGone_ne_bound (be be' : Backend) (change : ConnectCall) :
    frontendGone be change ≠ .bound be' := by
  unfold frontendGone settleThen
  split
  · exact System.noConfusion
  · exact netbackRemove_ne_bound _ be' change

theorem deferred_frontendChanged {be be' : Backend} (hok : BackendOk be)
    (hwait : be.haveHotplugStatusWatch = true) {state : Int} {online : Bool}
    {change : ConnectCall} (hchanged : frontendChanged be state online change = .bound be')
    (hwait' : be'.haveHotplugStatusWatch = true) :
    be'.shown = be.shown ∨ be'.shown = .closing := by
  unfold frontendChanged at hchanged
  split at hchanged
  · exact (settled_of_settleThen hok .initWait hchanged).deferred hwait hwait'
  · exact Or.inl (congrArg Backend.shown (System.bound.inj hchanged).symm)
  · exact (settled_of_settleThen hok .connected hchanged).deferred hwait hwait'
  · exact (settled_of_settleThen hok .closing hchanged).deferred hwait hwait'
  · cases online with
    | true => exact (settled_of_settleThen hok .closed hchanged).deferred hwait hwait'
    | false =>
        unfold settleThen at hchanged
        split at hchanged
        · contradiction
        · exact absurd hchanged (frontendGone_ne_bound _ be' change)
  · exact absurd hchanged (frontendGone_ne_bound be be' change)
  · exact Or.inr (congrArg Backend.shown (System.bound.inj hchanged).symm)

/-- A backend that goes through the step waits for a script afterwards. -/
def StillWaits (sys : System) (e : Event) : Prop :=
  match step sys e with
  | some (.bound be) => be.haveHotplugStatusWatch = true
  | some (.free _) => True
  | some (.halted _) => True
  | none => True

theorem deferred_step {be : Backend} {e : Event} (hok : BackendOk be)
    (hwait : be.haveHotplugStatusWatch = true) {be' : Backend}
    (hstep : step (.bound be) e = some (.bound be'))
    (hwait' : be'.haveHotplugStatusWatch = true) :
    be'.shown = be.shown ∨ be'.shown = .closing := by
  cases e with
  | frontendChanged state online change =>
      exact deferred_frontendChanged hok hwait (Option.some.inj hstep) hwait'
  | hotplugStatus status =>
      rw [step, if_pos hwait] at hstep
      obtain rfl := System.bound.inj (Option.some.inj hstep)
      unfold hotplugStatusChanged at hwait' ⊢
      split at hwait'
      · exact Or.inl rfl
      · split at hwait'
        · exact absurd hwait' Bool.false_ne_true
        · rename_i hne
          rw [if_neg hne]
          exact Or.inl rfl
  | vif event =>
      rw [step] at hstep
      split at hstep
      · obtain ⟨s, -, hs⟩ := Option.map_eq_some_iff.mp hstep
        exact Or.inl (congrArg Backend.shown (System.bound.inj hs)).symm
      · contradiction
  | remove change => exact absurd (Option.some.inj hstep) (netbackRemove_ne_bound be be' change)

/-- As long as a script is waited for, the xenbus shows what it showed when the wait began, or
`Closing` after an error, whatever the frontend does meanwhile. -/
theorem deferred_lifecycle (hidle : Idle kernel)
    (hprobe : netbackProbe dev kernel separateTxRxIrq call remove = some ⟨.bound be, nodes, ret⟩)
    {before waiting : List Event} {be₁ be₂ : Backend}
    (hbefore : run step (.bound be) before = some (.bound be₁))
    (hwait : be₁.haveHotplugStatusWatch = true)
    (hstill : Along step StillWaits (.bound be₁) waiting)
    (hwaiting : run step (.bound be₁) waiting = some (.bound be₂)) :
    be₂.shown = be₁.shown ∨ be₂.shown = .closing := by
  have hstart : Sound (.bound be) := (probed_of_netbackProbe hidle hprobe).ok
  have hsound : Sound (.bound be₁) := sound_run hstart hbefore
  let I : System → Prop := fun s =>
    Sound s ∧ ∀ b, s = .bound b →
      b.haveHotplugStatusWatch = true ∧ (b.shown = be₁.shown ∨ b.shown = .closing)
  have hinit : I (.bound be₁) := by
    refine ⟨hsound, fun b hb => ?_⟩
    obtain rfl := System.bound.inj hb
    exact ⟨hwait, Or.inl rfl⟩
  have hkeep : ∀ s e t, I s → StillWaits s e → step s e = some t → I t := by
    rintro s e t ⟨hs, hshown⟩ hstill hstep
    refine ⟨(step_spec hs hstep).sound, fun b hb => ?_⟩
    subst hb
    have hwait' : b.haveHotplugStatusWatch = true := by
      rw [StillWaits, hstep] at hstill
      exact hstill
    refine ⟨hwait', ?_⟩
    cases s with
    | free kernel => contradiction
    | halted fault => contradiction
    | bound b' =>
        obtain ⟨hwaits, hshown⟩ := hshown b' rfl
        rcases deferred_step hs hwaits hstep hwait' with heq | hclosing
        · rw [heq]
          exact hshown
        · exact Or.inr hclosing
  exact ((invariant_of_along hkeep hinit hstill hwaiting).2 be₂ rfl).2

theorem deferred_sample :
    ∃ be₁ be₂, run step (.bound sampleBackend) (sampleStart .thread) = some (.bound be₁) ∧
      run step (.bound be₁) [.frontendChanged 5 true (sampleConnect .thread), .vif .closeDev] =
        some (.bound be₂) ∧
      (be₂.shown = be₁.shown ∨ be₂.shown = .closing) := by
  obtain ⟨be₁, be₂, hbefore, hwait, hstill, hwaiting⟩ : ∃ be₁ be₂,
      run step (.bound sampleBackend) (sampleStart .thread) = some (.bound be₁) ∧
      be₁.haveHotplugStatusWatch = true ∧
      Along step StillWaits (.bound be₁)
        [.frontendChanged 5 true (sampleConnect .thread), .vif .closeDev] ∧
      run step (.bound be₁) [.frontendChanged 5 true (sampleConnect .thread), .vif .closeDev] =
        some (.bound be₂) := by
    refine ⟨_, _, rfl, rfl, ⟨rfl, fun t ht => ?_⟩, rfl⟩
    obtain rfl := Option.some.inj ht
    exact ⟨rfl, fun _ _ => trivial⟩
  exact ⟨be₁, be₂, hbefore, hwaiting,
    deferred_lifecycle ⟨rfl, rfl⟩ netbackProbe_sample hbefore hwait hstill hwaiting⟩

end Run

end XenNet.NetbackLifecycle
