import XenNet.InterfaceConnect
import XenNet.NetbackStates

namespace XenNet.BackendBooks

open XenNet.KernelScan
open XenNet.StateDiagram
open XenNet.NetbackInterface
open XenNet.InterfaceBooks
open XenNet.InterfaceConnect
open XenNet.NetbackXenbus
open XenNet.NetbackStates

/-- The interface of the backend is as `P` says; a backend without one holds nothing. -/
def HeldBy (P : Interface → Prop) (be : Backend) : Prop :=
  match be.vif with
  | some vif => P ⟨be.kernel, vif⟩
  | none => Idle be.kernel

/-- What the xenbus shows: never `Connected` while a script is waited for, and otherwise the
state, or `Closing` after an error. -/
def ShownOk (be : Backend) : Prop :=
  if be.haveHotplugStatusWatch then be.shown ≠ .connected
  else be.shown = be.state ∨ be.shown = .closing

/-- The books of a backend; the states that it went through follow the diagram. -/
structure BackendOk (be : Backend) : Prop where
  live : Live be.state
  history : Leads Allowed .initWait be.state be.log
  held : HeldBy Books be
  apart : be.state ≠ .connected → HeldBy Disconnected be
  shown : ShownOk be

theorem HeldBy.mono {P Q : Interface → Prop} {be : Backend} (himp : ∀ s, P s → Q s)
    (hheld : HeldBy P be) : HeldBy Q be := by
  unfold HeldBy at hheld ⊢
  split at hheld
  · exact himp _ hheld
  · exact hheld

theorem heldBy_some {P : Interface → Prop} {be : Backend} {vif : Xenvif}
    (hvif : be.vif = some vif) : HeldBy P be ↔ P ⟨be.kernel, vif⟩ := by
  rw [HeldBy, hvif]

theorem heldBy_none {P : Interface → Prop} {be : Backend} (hvif : be.vif = none) :
    HeldBy P be ↔ Idle be.kernel := by
  rw [HeldBy, hvif]

theorem heldBy_congr {P : Interface → Prop} {be be' : Backend} (hkernel : be'.kernel = be.kernel)
    (hvif : be'.vif = be.vif) : HeldBy P be' ↔ HeldBy P be := by
  rw [HeldBy, HeldBy, hkernel, hvif]

/-- The fields of a vif on which the books rest are as before. -/
structure SameHoldings (vif vif' : Xenvif) : Prop where
  txIrq : vif'.txIrq = vif.txIrq
  task : vif'.task = vif.task
  carrierOk : vif'.dev.carrierOk = vif.dev.carrierOk
  mtu : vif'.dev.mtu = vif.dev.mtu
  napiEnabled : vif'.napiEnabled = vif.napiEnabled
  ringsMapped : vif'.ringsMapped = vif.ringsMapped

theorem SameHoldings.refl (vif : Xenvif) : SameHoldings vif vif :=
  ⟨rfl, rfl, rfl, rfl, rfl, rfl⟩

theorem SameHoldings.trans {vif vif' vif'' : Xenvif} (h : SameHoldings vif vif')
    (h' : SameHoldings vif' vif'') : SameHoldings vif vif'' :=
  ⟨h'.txIrq.trans h.txIrq, h'.task.trans h.task, h'.carrierOk.trans h.carrierOk,
    h'.mtu.trans h.mtu, h'.napiEnabled.trans h.napiEnabled, h'.ringsMapped.trans h.ringsMapped⟩

theorem disconnected_of_sameHoldings {kernel : Kernel} {vif vif' : Xenvif}
    (hdis : Disconnected ⟨kernel, vif⟩) (hsame : SameHoldings vif vif') :
    Disconnected ⟨kernel, vif'⟩ := by
  have htx : vif'.txIrq = 0 := hsame.txIrq.trans hdis.txIrq
  have htask : vif'.task = none := hsame.task.trans hdis.task_eq
  have hoff : vif'.dev.carrierOk = false := hsame.carrierOk.trans hdis.carrier_eq
  have hdown : isUp vif' = false := by rw [isUp, hoff, Bool.and_false]
  exact
    { lines := hdis.lines_eq.trans (linesOf_of_eq_zero htx).symm
      threads := by
        show kernel.threads = vif'.task.toList
        rw [htask]
        exact hdis.threads_eq
      task := htask.trans (if_pos htx).symm
      rxIrq := fun hne => absurd htx hne
      carrier := fun hcarrier => absurd (hcarrier.symm.trans hoff) (by decide)
      mapped := by
        show vif'.ringsMapped = (decide (vif'.txIrq ≠ 0) && !vif'.netmap)
        rw [hsame.ringsMapped, htx]
        exact hdis.ringsMapped_eq
      mtuMax := hsame.mtu.trans_le hdis.mtuMax
      mtu := fun hcarrier => absurd (hcarrier.symm.trans hoff) (by decide)
      features := fun hcarrier => absurd (hcarrier.symm.trans hoff) (by decide)
      napi := by
        show vif'.napiEnabled = (isUp vif' && !vif'.netmap)
        rw [hsame.napiEnabled, hdown, Bool.false_and]
        exact hdis.napi_eq
      netmapRings := fun hup => absurd (hup.symm.trans hdown) (by decide)
      txIrq := htx }

section Reads

variable {store : Xenstore} {otherend : String} {vif : Xenvif}

theorem sameHoldings_readQueue : SameHoldings vif (readQueue store otherend vif) := by
  unfold readQueue
  split
  · split <;> exact ⟨rfl, rfl, rfl, rfl, rfl, rfl⟩
  · exact SameHoldings.refl vif

theorem sameHoldings_readFeatures :
    SameHoldings vif (readFeatures store otherend vif).1 := by
  have hqueue : SameHoldings vif (readQueue store otherend vif) := sameHoldings_readQueue
  have hgso : SameHoldings vif (readGso store otherend (readQueue store otherend vif)) :=
    hqueue.trans ⟨rfl, rfl, rfl, rfl, rfl, rfl⟩
  unfold readFeatures
  split
  · exact SameHoldings.refl vif
  · exact SameHoldings.refl vif
  · dsimp only
    split
    · exact hgso
    · exact hgso.trans ⟨rfl, rfl, rfl, rfl, rfl, rfl⟩

theorem Errno.ne_zero (e : Errno) : e.err ≠ 0 :=
  Int.ne_of_lt e.neg

theorem ne_zero_of_readFeatures {vif' : Xenvif} {fatal : Option (Int × String)} {err : Int}
    (hread : readFeatures store otherend vif = (vif', some (fatal, err))) : err ≠ 0 := by
  unfold readFeatures at hread
  split at hread
  · rename_i e _
    simp only [Prod.mk.injEq, Option.some.injEq] at hread
    exact hread.2.2 ▸ Errno.ne_zero e
  · simp only [Prod.mk.injEq, Option.some.injEq] at hread
    exact hread.2.2 ▸ Errno.ne_zero eopnotsupp
  · dsimp only at hread
    split at hread
    · simp only [Prod.mk.injEq, Option.some.injEq] at hread
      exact hread.2.2 ▸ Errno.ne_zero eopnotsupp
    · simp at hread

theorem sameHoldings_prepareRings (dev : XenbusDevice) (vif : Xenvif) (call : ConnectCall) :
    (∃ vif' fatal err, prepareRings dev vif call = .error (vif', fatal, err) ∧
      SameHoldings vif vif' ∧ err ≠ 0) ∨
    (∃ setup, prepareRings dev vif call = .ok setup ∧ SameHoldings vif setup.vif) := by
  unfold prepareRings
  generalize hnext : { vif with
    netmap := readFlag call.store dev.nodename "feature-netmap" } = vif'
  have hsame : SameHoldings vif vif' := by
    rw [← hnext]
    exact ⟨rfl, rfl, rfl, rfl, rfl, rfl⟩
  obtain ⟨err, refs⟩ := xenbusGather (scanU 10) call.store dev.otherend "tx-ring-ref" "rx-ring-ref"
    call.stack
  dsimp only
  split
  · exact Or.inl ⟨_, _, _, rfl, hsame, Errno.ne_zero _⟩
  · cases readEvtchns call.store dev.otherend with
    | error e => exact Or.inl ⟨_, _, _, rfl, hsame, Errno.ne_zero e⟩
    | ok evtchns =>
        dsimp only
        split
        · exact Or.inr ⟨_, rfl, hsame⟩
        · have hfeatures : SameHoldings vif' (readFeatures call.store dev.otherend vif').1 :=
            sameHoldings_readFeatures
          cases hread : readFeatures call.store dev.otherend vif' with
          | mk vif'' failure =>
              rw [hread] at hfeatures
              cases failure with
              | none => exact Or.inr ⟨_, rfl, hsame.trans hfeatures⟩
              | some failure =>
                  exact Or.inl ⟨_, _, _, rfl, hsame.trans hfeatures, ne_zero_of_readFeatures hread⟩

end Reads

/-- What the backend would call `xenvif_connect` with. -/
def setupOf (be : Backend) (call : ConnectCall) : Option RingSetup :=
  be.vif.bind fun vif => (prepareRings be.dev vif call).toOption

/-- The backend gets to `xenvif_connect`, and `P` holds of what it is called with: netmap mode,
the event channels and the answers. -/
def AtConnect (P : Bool → UInt32 → UInt32 → ConnectAnswers → Prop) (be : Backend)
    (call : ConnectCall) : Prop :=
  ∃ setup ∈ setupOf be call, P setup.vif.netmap setup.evtchns.1 setup.evtchns.2 call.connect

instance (P : Bool → UInt32 → UInt32 → ConnectAnswers → Prop)
    [∀ netmap tx rx call, Decidable (P netmap tx rx call)] (be : Backend) (call : ConnectCall) :
    Decidable (AtConnect P be call) :=
  inferInstanceAs (Decidable (∃ setup ∈ setupOf be call, _))

theorem atConnect_congr {P : Bool → UInt32 → UInt32 → ConnectAnswers → Prop} {be be' : Backend}
    (hdev : be'.dev = be.dev) (hvif : be'.vif = be.vif) (call : ConnectCall) :
    AtConnect P be' call ↔ AtConnect P be call := by
  rw [AtConnect, AtConnect, setupOf, setupOf, hdev, hvif]

/-- What connecting leaves alone, and how it changes the counters of the kernel. -/
structure Connecting (be : Backend) (call : ConnectCall) (be' : Backend) : Prop where
  dev : be'.dev = be.dev
  state : be'.state = be.state
  log : be'.log = be.log
  shown : be'.shown = be.shown ∨ be'.shown = .closing
  hasVif : be'.vif.isSome = be.vif.isSome
  held : HeldBy Books be'
  copyOps : be'.kernel.copyOps = be.kernel.copyOps
  misuses : be'.kernel.misuses =
    be.kernel.misuses + if AtConnect UnbindsTwice be call then 1 else 0
  moduleRefs : be'.kernel.moduleRefs =
    be.kernel.moduleRefs + if AtConnect ConnectFails be call then -1 else 0

section Connecting

variable {be : Backend} {vif : Xenvif}

theorem Connecting.devFatal {be be' : Backend} {call : ConnectCall}
    (hconn : Connecting be call be') (err : Int) (message : String) :
    Connecting be call (xenbusDevFatal be' err message) :=
  { hconn with
    shown := Or.inr rfl
    held := (heldBy_congr rfl rfl).mpr hconn.held }

theorem Connecting.report {be be' : Backend} {call : ConnectCall}
    (hconn : Connecting be call be') (fatal : Option (Int × String)) :
    Connecting be call (report be' fatal) := by
  cases fatal with
  | none => exact hconn
  | some failure => exact hconn.devFatal failure.1 failure.2

theorem Connecting.watch {be be' : Backend} {call : ConnectCall}
    (hconn : Connecting be call be') (watch : Bool) :
    Connecting be call { be' with haveHotplugStatusWatch := watch } :=
  { hconn with held := (heldBy_congr rfl rfl).mpr hconn.held }

theorem atConnect_of_ok {P : Bool → UInt32 → UInt32 → ConnectAnswers → Prop} {call : ConnectCall}
    {setup : RingSetup} (hvif : be.vif = some vif)
    (hprepare : prepareRings be.dev vif call = .ok setup) :
    AtConnect P be call ↔
      P setup.vif.netmap setup.evtchns.1 setup.evtchns.2 call.connect := by
  have hsetup : setupOf be call = some setup := by
    rw [setupOf, hvif, Option.bind_some, hprepare]
    rfl
  simp [AtConnect, hsetup]

theorem not_atConnect_of_none {P : Bool → UInt32 → UInt32 → ConnectAnswers → Prop}
    {call : ConnectCall} (hsetup : setupOf be call = none) : ¬AtConnect P be call := by
  simp [AtConnect, hsetup]

theorem not_atConnect_of_error {P : Bool → UInt32 → UInt32 → ConnectAnswers → Prop}
    {call : ConnectCall} {failure : Xenvif × Option (Int × String) × Int}
    (hvif : be.vif = some vif) (hprepare : prepareRings be.dev vif call = .error failure) :
    ¬AtConnect P be call := by
  refine not_atConnect_of_none ?_
  rw [setupOf, hvif, Option.bind_some, hprepare]
  rfl

/-- `connect_rings` on an interface that is not connected. -/
theorem connectRings_spec (hvif : be.vif = some vif) (hdis : Disconnected ⟨be.kernel, vif⟩)
    (call : ConnectCall) :
    ∃ be' err, connectRings be vif call = .ok (be', err) ∧ Connecting be call be' := by
  unfold connectRings
  rcases sameHoldings_prepareRings be.dev vif call with
    ⟨vif', fatal, err, hprepare, hsame, -⟩ | ⟨setup, hprepare, hsame⟩
  · rw [hprepare]
    refine ⟨_, _, rfl, Connecting.report ?_ fatal⟩
    have hdis' := disconnected_of_sameHoldings hdis hsame
    exact
      { dev := rfl
        state := rfl
        log := rfl
        shown := Or.inl rfl
        hasVif := by rw [hvif]; rfl
        held := hdis'.toBooks
        copyOps := rfl
        misuses := by
          rw [if_neg (not_atConnect_of_error hvif hprepare)]
          rfl
        moduleRefs := by
          rw [if_neg (not_atConnect_of_error hvif hprepare), Int.add_zero]
          rfl }
  · have hdis' := disconnected_of_sameHoldings hdis hsame
    obtain ⟨t, ret, hconnect, hspec⟩ :=
      xenvifConnect_spec hdis' setup.evtchns.1 setup.evtchns.2 call.connect
    have hconn : Connecting be call (withInterface be t) :=
      { dev := rfl
        state := rfl
        log := rfl
        shown := Or.inl rfl
        hasVif := by rw [hvif]; rfl
        held := hspec.books
        copyOps := hspec.copyOps
        misuses := by
          simp only [atConnect_of_ok hvif hprepare]
          exact hspec.misuses
        moduleRefs := by
          simp only [atConnect_of_ok hvif hprepare]
          split
          · rename_i hfails
            exact (hspec.failed hfails).2.2
          · rename_i hfails
            exact (hspec.connected hfails).2.2.trans (Int.add_zero _).symm }
    rw [hprepare]
    dsimp only
    rw [hconnect]
    dsimp only
    split
    · exact ⟨_, _, rfl, hconn.devFatal _ _⟩
    · exact ⟨_, _, rfl, hconn⟩

theorem books_settings {kernel : Kernel} {vif : Xenvif} (hbooks : Books ⟨kernel, vif⟩)
    (mac : List UInt8) (bytes usec remaining : UInt64) :
    Books ⟨kernel,
      { vif with
        feDevAddr := mac
        creditBytes := bytes
        creditUsec := usec
        remainingCredit := remaining }⟩ :=
  { threads := hbooks.threads
    task := hbooks.task
    rxIrq := hbooks.rxIrq
    carrier := hbooks.carrier
    mapped := hbooks.mapped
    mtuMax := hbooks.mtuMax
    mtu := hbooks.mtu
    features := hbooks.features
    lines := hbooks.lines
    napi := hbooks.napi
    netmapRings := hbooks.netmapRings }

theorem connect_spec (hvif : be.vif = some vif) (hdis : Disconnected ⟨be.kernel, vif⟩)
    (call : ConnectCall) :
    ∃ be', connect be vif call = .ok be' ∧ Connecting be call be' := by
  obtain ⟨be', err, hrings, hconn⟩ := connectRings_spec hvif hdis call
  have hsome : be'.vif.isSome = true := by rw [hconn.hasVif, hvif]; rfl
  obtain ⟨vif', hvif'⟩ := Option.isSome_iff_exists.mp hsome
  have hbooks := (heldBy_some hvif').mp hconn.held
  -- The settings that `connect` reads into the vif of `be'`.
  have hset : ∀ (mac : List UInt8) (bytes usec remaining : UInt64),
      Connecting be call
        (withVif be'
          { vif' with
            feDevAddr := mac
            creditBytes := bytes
            creditUsec := usec
            remainingCredit := remaining }) := fun mac bytes usec remaining =>
    { hconn with
      hasVif := by rw [← hconn.hasVif, hvif']; rfl
      held := books_settings hbooks mac bytes usec remaining }
  unfold connect
  rw [hrings]
  dsimp only
  split
  · exact ⟨_, rfl, hconn⟩
  · rw [hvif']
    dsimp only
    split
    · exact ⟨_, rfl, (hset _ vif'.creditBytes vif'.creditUsec vif'.remainingCredit).devFatal _ _⟩
    · refine ⟨_, rfl, ?_⟩
      unfold watchHotplugStatus
      split
      · exact (hset _ _ _ _).watch true
      · exact Connecting.devFatal ((hset _ _ _ _).watch false) _ _

theorem backendConnect_spec (hapart : HeldBy Disconnected be) (call : ConnectCall) :
    ∃ be', backendConnect be call = .ok be' ∧ Connecting be call be' := by
  unfold backendConnect
  cases hvif : be.vif with
  | some vif => exact connect_spec hvif ((heldBy_some hvif).mp hapart) call
  | none =>
      have hnot : ∀ P, ¬AtConnect P be call := fun P =>
        not_atConnect_of_none (by rw [setupOf, hvif, Option.bind_none])
      refine ⟨be, rfl, ?_⟩
      exact
        { dev := rfl
          state := rfl
          log := rfl
          shown := Or.inl rfl
          hasVif := rfl
          held := hapart.mono fun s hdis => hdis.toBooks
          copyOps := rfl
          misuses := by rw [if_neg (hnot _), Nat.add_zero]
          moduleRefs := by rw [if_neg (hnot _), Int.add_zero] }

end Connecting

section Settling

variable {be : Backend}

/-- A walk changes the state, the log and what is shown. -/
structure Walked (be : Backend) (path : List XenbusState) (be' : Backend) : Prop where
  dev : be'.dev = be.dev
  kernel : be'.kernel = be.kernel
  vif : be'.vif = be.vif
  state : be'.state = path.getLastD be.state
  log : be'.log = be.log ++ path
  shown : ShownOk be → ShownOk be'
  watch : be'.haveHotplugStatusWatch = be.haveHotplugStatusWatch
  deferred : be.haveHotplugStatusWatch = true → be'.shown = be.shown

theorem shownOk_backendSwitchState (state : XenbusState)
    (hshown : be.haveHotplugStatusWatch = true → be.shown ≠ .connected) :
    ShownOk (backendSwitchState be state) := by
  unfold backendSwitchState xenbusSwitchState ShownOk
  cases hwatch : be.haveHotplugStatusWatch with
  | true => simpa [hwatch] using hshown
  | false => simp

theorem walked_backendSwitchState (be : Backend) (state : XenbusState) :
    Walked be [state] (backendSwitchState be state) := by
  have hshown : ShownOk be → ShownOk (backendSwitchState be state) := fun hshown =>
    shownOk_backendSwitchState state fun hwatch => by rwa [ShownOk, if_pos hwatch] at hshown
  unfold backendSwitchState xenbusSwitchState at hshown ⊢
  cases hwatch : be.haveHotplugStatusWatch with
  | true => exact ⟨rfl, rfl, rfl, rfl, rfl, by simpa [hwatch] using hshown,
      hwatch.symm, fun _ => rfl⟩
  | false =>
      exact ⟨rfl, rfl, rfl, rfl, rfl, by simpa [hwatch] using hshown, hwatch.symm,
        fun hwait => absurd (hwatch.symm.trans hwait) Bool.false_ne_true⟩

theorem walked_walked (be : Backend) (path : List XenbusState) :
    Walked be path (walked be path) := by
  induction path generalizing be with
  | nil => exact ⟨rfl, rfl, rfl, rfl, (List.append_nil _).symm, id, rfl, fun _ => rfl⟩
  | cons state path ih =>
      have hswitch := walked_backendSwitchState be state
      have hrest := ih (backendSwitchState be state)
      exact
        { dev := hrest.dev.trans hswitch.dev
          kernel := hrest.kernel.trans hswitch.kernel
          vif := hrest.vif.trans hswitch.vif
          state := by
            show (walked (backendSwitchState be state) path).state = _
            rw [hrest.state, hswitch.state, List.getLastD_cons, List.getLastD_cons]
            rfl
          log := by
            show (walked (backendSwitchState be state) path).log = _
            rw [hrest.log, hswitch.log, List.append_assoc, List.singleton_append]
          shown := fun hshown => hrest.shown (hswitch.shown hshown)
          watch := hrest.watch.trans hswitch.watch
          deferred := fun hwatch =>
            (hrest.deferred (hswitch.watch.trans hwatch)).trans (hswitch.deferred hwatch) }

/-- The interface is disconnected when the state `Connected` is left. -/
structure Left (be be' : Backend) : Prop where
  dev : be'.dev = be.dev
  state : be'.state = be.state
  log : be'.log = be.log
  hasVif : be'.vif.isSome = be.vif.isSome
  apart : HeldBy Disconnected be'
  counts : SameCounts be.kernel be'.kernel
  shownOk : ShownOk be'
  shown : be'.shown = be.shown
  watch : be'.haveHotplugStatusWatch = be.haveHotplugStatusWatch

theorem left_leave (hok : BackendOk be) : Left be (leave be) := by
  unfold leave
  split
  · rename_i hstate
    unfold backendDisconnect
    split
    · rename_i vif hvif
      obtain ⟨hdis, hcounts⟩ := disconnected_xenvifDisconnect ((heldBy_some hvif).mp hok.held)
      exact ⟨rfl, rfl, rfl, by rw [hvif]; rfl, hdis, hcounts, hok.shown, rfl, rfl⟩
    · rename_i hvif
      have hidle := (heldBy_none hvif).mp hok.held
      exact ⟨rfl, rfl, rfl, rfl, (heldBy_none hvif).mpr hidle, SameCounts.refl _, hok.shown, rfl,
        rfl⟩
  · rename_i hstate
    exact ⟨rfl, rfl, rfl, rfl, hok.apart hstate, SameCounts.refl _, hok.shown, rfl, rfl⟩

theorem leave_of_ne (hstate : be.state ≠ .connected) : leave be = be :=
  if_neg hstate

/-- The state `Connected` is entered, and `P` holds at the call of `xenvif_connect`. -/
def Entering (P : Bool → UInt32 → UInt32 → ConnectAnswers → Prop) (be : Backend)
    (goal : XenbusState) (call : ConnectCall) : Prop :=
  be.state ≠ .connected ∧ goal = .connected ∧ AtConnect P be call

instance (P : Bool → UInt32 → UInt32 → ConnectAnswers → Prop)
    [∀ netmap tx rx call, Decidable (P netmap tx rx call)] (be : Backend) (goal : XenbusState)
    (call : ConnectCall) : Decidable (Entering P be goal call) :=
  inferInstanceAs (Decidable (_ ∧ _ ∧ _))

/-- What settling a state does. -/
structure Settled (be : Backend) (goal : XenbusState) (call : ConnectCall) (be' : Backend) :
    Prop where
  ok : BackendOk be'
  dev : be'.dev = be.dev
  state : be'.state = goal
  log : be'.log = be.log ++ way be.state goal
  hasVif : be'.vif.isSome = be.vif.isSome
  copyOps : be'.kernel.copyOps = be.kernel.copyOps
  misuses : be'.kernel.misuses =
    be.kernel.misuses + if Entering UnbindsTwice be goal call then 1 else 0
  moduleRefs : be'.kernel.moduleRefs =
    be.kernel.moduleRefs + if Entering ConnectFails be goal call then -1 else 0
  deferred : be.haveHotplugStatusWatch = true → be'.haveHotplugStatusWatch = true →
    be'.shown = be.shown ∨ be'.shown = .closing

theorem settled_self (hok : BackendOk be) {goal : XenbusState} (call : ConnectCall)
    (hstate : be.state = goal) : Settled be goal call be := by
  have hnot : ∀ P, ¬Entering P be goal call := fun P hentering =>
    hentering.1 (hstate.trans hentering.2.1)
  exact
    { ok := hok
      dev := rfl
      state := hstate
      log := by rw [way, if_pos hstate, List.append_nil]
      hasVif := rfl
      copyOps := rfl
      misuses := by rw [if_neg (hnot _), Nat.add_zero]
      moduleRefs := by rw [if_neg (hnot _), Int.add_zero]
      deferred := fun _ _ => Or.inl rfl }

theorem getLastD_walk {s goal : XenbusState} (hs : Live s) (hgoal : Live goal) (hne : s ≠ goal) :
    (walk s goal).getLastD s = if goal = .connected then .initWait else goal := by
  cases hs <;> cases hgoal <;> first | rfl | contradiction

theorem settled_walked (hok : BackendOk be) {goal : XenbusState} (call : ConnectCall)
    (hgoal : Live goal) (hne : be.state ≠ goal) (hnot : goal ≠ .connected) :
    Settled be goal call (walked (leave be) (walk be.state goal)) := by
  have hleft := left_leave hok
  have hwalked := walked_walked (leave be) (walk be.state goal)
  have hapart : HeldBy Disconnected (walked (leave be) (walk be.state goal)) :=
    (heldBy_congr hwalked.kernel hwalked.vif).mpr hleft.apart
  have hstate : (walked (leave be) (walk be.state goal)).state = goal := by
    rw [hwalked.state, hleft.state, getLastD_walk hok.live hgoal hne, if_neg hnot]
  have hlog : (walked (leave be) (walk be.state goal)).log = be.log ++ way be.state goal := by
    rw [hwalked.log, hleft.log, way, if_neg hne, if_neg hnot]
  have hentering : ∀ P, ¬Entering P be goal call := fun P hentering => hnot hentering.2.1
  exact
    { ok :=
        { live := by rw [hstate]; exact hgoal
          history := by
            rw [hstate, hlog]
            exact hok.history.append (shortest_way hok.live hgoal).1
          held := hapart.mono fun s hdis => hdis.toBooks
          apart := fun _ => hapart
          shown := hwalked.shown hleft.shownOk }
      dev := hwalked.dev.trans hleft.dev
      state := hstate
      log := hlog
      hasVif := by rw [hwalked.vif, hleft.hasVif]
      copyOps := by rw [hwalked.kernel, hleft.counts.copyOps]
      misuses := by rw [hwalked.kernel, hleft.counts.misuses, if_neg (hentering _), Nat.add_zero]
      moduleRefs := by
        rw [hwalked.kernel, hleft.counts.moduleRefs, if_neg (hentering _), Int.add_zero]
      deferred := fun hwatch _ =>
        Or.inl ((hwalked.deferred (hleft.watch.trans hwatch)).trans hleft.shown) }

theorem shown_ne_connected (hshown : ShownOk be) (hstate : be.state = .initWait) :
    be.shown ≠ .connected := by
  unfold ShownOk at hshown
  split at hshown
  · exact hshown
  · rw [hstate] at hshown
    rcases hshown with hshown | hshown <;> simp [hshown]

theorem settled_enter (hok : BackendOk be) (call : ConnectCall) (hne : be.state ≠ .connected) :
    ∃ be', enter (walked be (walk be.state .connected)) .connected call = .ok be' ∧
      Settled be .connected call be' := by
  have hwalked := walked_walked be (walk be.state .connected)
  have hstate : (walked be (walk be.state .connected)).state = .initWait := by
    rw [hwalked.state, getLastD_walk hok.live .connected hne, if_pos rfl]
  have hapart : HeldBy Disconnected (walked be (walk be.state .connected)) :=
    (heldBy_congr hwalked.kernel hwalked.vif).mpr (hok.apart hne)
  obtain ⟨be', hconnect, hconn⟩ := backendConnect_spec hapart call
  have hswitch := walked_backendSwitchState be' .connected
  have hnotShown : be'.shown ≠ .connected := by
    rcases hconn.shown with hshown | hshown
    · rw [hshown]
      exact shown_ne_connected (hwalked.shown hok.shown) hstate
    · simp [hshown]
  have hlog : (backendSwitchState be' .connected).log = be.log ++ way be.state .connected := by
    rw [hswitch.log, hconn.log, hwalked.log, way, if_neg hne, if_pos rfl, List.append_assoc]
  have hentering : ∀ P, Entering P be .connected call ↔
      AtConnect P (walked be (walk be.state .connected)) call := fun P =>
    ⟨fun hentering => (atConnect_congr hwalked.dev hwalked.vif call).mpr hentering.2.2,
      fun hat => ⟨hne, rfl, (atConnect_congr hwalked.dev hwalked.vif call).mp hat⟩⟩
  refine ⟨backendSwitchState be' .connected, ?_, ?_⟩
  · rw [enter, if_pos rfl, hconnect]
  · exact
      { ok :=
          { live := by rw [hswitch.state]; exact .connected
            history := by
              rw [hswitch.state, hlog]
              exact hok.history.append (shortest_way hok.live .connected).1
            held := (heldBy_congr hswitch.kernel hswitch.vif).mpr hconn.held
            apart := fun hapart => absurd hswitch.state hapart
            shown := shownOk_backendSwitchState _ fun _ => hnotShown }
        dev := (hswitch.dev.trans hconn.dev).trans hwalked.dev
        state := hswitch.state
        log := hlog
        hasVif := by rw [hswitch.vif, hconn.hasVif, hwalked.vif]
        copyOps := by rw [hswitch.kernel, hconn.copyOps, hwalked.kernel]
        misuses := by
          simp only [hentering]
          rw [hswitch.kernel, hconn.misuses, hwalked.kernel]
        moduleRefs := by
          simp only [hentering]
          rw [hswitch.kernel, hconn.moduleRefs, hwalked.kernel]
        deferred := fun hwatch hwatch' => by
          rw [hswitch.deferred (hswitch.watch.symm.trans hwatch'), ← hwalked.deferred hwatch]
          exact hconn.shown }

/-- `set_backend_state` settles every state of the diagram. -/
theorem setBackendState_spec (hok : BackendOk be) {goal : XenbusState} (hgoal : Live goal)
    (call : ConnectCall) :
    ∃ be', setBackendState be goal call = .ok be' ∧ Settled be goal call be' := by
  rw [setBackendState_eq call hok.live hgoal]
  by_cases hstate : be.state = goal
  · rw [if_pos hstate]
    exact ⟨be, rfl, settled_self hok call hstate⟩
  · rw [if_neg hstate]
    by_cases hgoal' : goal = .connected
    · subst hgoal'
      rw [leave_of_ne hstate]
      exact settled_enter hok call hstate
    · rw [enter, if_neg hgoal']
      exact ⟨_, rfl, settled_walked hok call hgoal hstate hgoal'⟩

end Settling

end XenNet.BackendBooks
