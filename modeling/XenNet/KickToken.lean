import XenNet.SplitDriver

/-!
The transmit kick as a token. The guest gives it to the host with a kick and gets it back
with the completion notification. `netfront_netmap_attach` sends one notification more,
while the guest keeps the token.
-/

namespace XenNet.KickToken

open XenNet.TransitionSystem
open XenNet.NetmapKernel
open XenNet.NetmapReference
open XenNet.NetfrontModel
open XenNet.NetfrontTransmit
open XenNet.NetfrontReceive
open XenNet.ReceiveLoop
open XenNet.NetbackModel
open XenNet.SplitDriver

/-- Four places, of which one holds the token, and at start-up the first one and another. -/
def Counted (startup guest kick host done : Bool) : Prop :=
  (startup = false → [guest, kick, host, done].count true = 1) ∧
    (startup = true → guest = true ∧ [guest, kick, host, done].count true = 2)

instance (startup guest kick host done : Bool) :
    Decidable (Counted startup guest kick host done) :=
  inferInstanceAs (Decidable (_ ∧ _))

namespace Counted

theorem alone : ∀ {kick host done : Bool}, Counted false true kick host done →
    kick = false ∧ host = false := by
  decide

theorem attach : ∀ {kick host done : Bool}, Counted false true kick host done →
    Counted true true true host done := by
  decide

theorem send : ∀ {startup kick host done : Bool}, Counted startup true kick host done →
    host = false → done = false → Counted false false true host done := by
  decide

theorem record : ∀ {startup guest host done : Bool}, Counted startup guest true host done →
    host = false ∧ Counted startup guest false true done := by
  decide

theorem drop : ∀ {startup host done : Bool}, Counted startup true true host done →
    startup = true ∧ Counted false true false host done := by
  decide

theorem complete : ∀ {startup guest kick done : Bool}, Counted startup guest kick true done →
    kick = false ∧ Counted startup guest kick false true := by
  decide

theorem giveBack : ∀ {startup guest kick host : Bool}, Counted startup guest kick host true →
    Counted false true kick host false := by
  decide

theorem one_le : ∀ {startup guest kick host done : Bool},
    Counted startup guest kick host done → 1 ≤ [guest, kick, host, done].count true := by
  decide

end Counted

def guestHolds (s : Driver) : Bool :=
  s.stat.hostNeedTxkick

def kickInFlight (s : Driver) : Bool :=
  s.np.naPriv.txIrq.pending

/-- The host has recorded the kick or its thread is still busy with it. -/
def hostHolds (s : Driver) : Bool :=
  s.vif.guestNeedTxkick || s.pc == .txSynced || s.pc == .txCleared

def completionInFlight (s : Driver) : Bool :=
  s.vif.txEvtchn.pending

def holders (s : Driver) : Nat :=
  [guestHolds s, kickInFlight s, hostHolds s, completionInFlight s].count true

def TxQuiet (s : Driver) : Prop :=
  kickInFlight s = false ∧ hostHolds s = false ∧ completionInFlight s = false

instance (s : Driver) : Decidable (TxQuiet s) :=
  inferInstanceAs (Decidable (_ ∧ _ ∧ _))

/-- A kick that arrives while the port is not attached to a bridge finds the guest with
the token, so that only a notification of `netfront_netmap_attach` is dropped. -/
def KickArrives (s : Driver) : DriverEvent → Prop
  | .txKick => s.vif.naBdg = true ∨ guestHolds s = true
  | _ => True

/-- No packet is accepted while the host serves the notification of
`netfront_netmap_attach` or its completion is in flight. -/
def WaitsForStartup (nm : NetmapApi) (s : Driver) : DriverEvent → Prop
  | .xmit mem buf len =>
      (netfrontNetmapXmit nm s.np.naPriv mem buf len).2 = true → guestHolds s = true →
        hostHolds s = false ∧ completionInFlight s = false
  | _ => True

instance (s : Driver) : (e : DriverEvent) → Decidable (KickArrives s e)
  | .txKick => inferInstanceAs (Decidable (_ ∨ _))
  | .attach | .xmit _ _ _ | .txInterrupt | .rxInterrupt | .rxsync _ _ _ | .rxKick
  | .deliver _ _ _ _ | .kthread | .bridge _ => isTrue trivial

instance (nm : NetmapApi) (s : Driver) : (e : DriverEvent) → Decidable (WaitsForStartup nm s e)
  | .xmit _ _ _ => inferInstanceAs (Decidable (_ → _ → _ ∧ _))
  | .attach | .txKick | .txInterrupt | .rxInterrupt | .rxsync _ _ _ | .rxKick
  | .deliver _ _ _ _ | .kthread | .bridge _ => isTrue trivial

structure SameTx (s t : Driver) : Prop where
  carrierOk : t.np.carrierOk = s.np.carrierOk
  hostCarrierOk : t.vif.carrierOk = s.vif.carrierOk
  txIrq : t.vif.txIrq = s.vif.txIrq
  attached : t.attached = s.attached
  guest : guestHolds t = guestHolds s
  kick : kickInFlight t = kickInFlight s
  need : t.vif.guestNeedTxkick = s.vif.guestNeedTxkick
  synced : (t.pc == .txSynced) = (s.pc == .txSynced)
  cleared : (t.pc == .txCleared) = (s.pc == .txCleared)
  completion : completionInFlight t = completionInFlight s
  startup : t.startup = s.startup
  published : t.published = s.published
  seen : t.seen = s.seen

theorem wakeUp_beq {pc : Kthread} (pc' : Kthread) (hchecking : pc' ≠ .checking)
    (hasleep : pc' ≠ .asleep) : (wakeUp pc == pc') = (pc == pc') := by
  cases pc <;> cases pc' <;> first | rfl | contradiction

theorem irqsched_rx_vif (vif : Xenvif) (pc : Kthread) :
    (xenvifNetmapIrqsched vif pc false).1 = vif ∧
      ((xenvifNetmapIrqsched vif pc false).2.1 = pc ∨
        (xenvifNetmapIrqsched vif pc false).2.1 = wakeUp pc) := by
  unfold xenvifNetmapIrqsched
  split
  · exact ⟨rfl, Or.inl rfl⟩
  · split
    · exact ⟨rfl, Or.inl rfl⟩
    · exact ⟨rfl, Or.inr rfl⟩

theorem notifyGuestRx_tx (vif : Xenvif) :
    (notifyGuestRx vif).carrierOk = vif.carrierOk ∧ (notifyGuestRx vif).txIrq = vif.txIrq ∧
      (notifyGuestRx vif).guestNeedTxkick = vif.guestNeedTxkick ∧
      (notifyGuestRx vif).txEvtchn = vif.txEvtchn := by
  unfold notifyGuestRx
  split <;> exact ⟨rfl, rfl, rfl, rfl⟩

theorem sameTx_of_rx {nm : NetmapApi} {s t : Driver} {e : DriverEvent}
    (hstep : driverStep nm s e = some t)
    (he : match e with
      | .rxInterrupt | .rxsync _ _ _ | .rxKick | .deliver _ _ _ _ | .bridge _ => True
      | _ => False) : SameTx s t := by
  cases e with
  | rxInterrupt =>
      simp only [driverStep, Option.ite_none_right_eq_some, Option.some.injEq] at hstep
      obtain ⟨_, rfl⟩ := hstep
      have hnp : (netfrontRxInterrupt s.np).carrierOk = s.np.carrierOk ∧
          (netfrontRxInterrupt s.np).naPriv.stat.hostNeedTxkick =
            s.np.naPriv.stat.hostNeedTxkick ∧
          (netfrontRxInterrupt s.np).naPriv.txIrq = s.np.naPriv.txIrq := by
        unfold netfrontRxInterrupt
        split <;> exact ⟨rfl, rfl, rfl⟩
      exact ⟨hnp.1, rfl, rfl, rfl, hnp.2.1, congrArg EventChannel.pending hnp.2.2, rfl, rfl,
        rfl, rfl, rfl, rfl, rfl⟩
  | rxsync head cur flags =>
      simp only [driverStep] at hstep
      split at hstep
      · rename_i call hcall
        obtain rfl := Option.some.inj hstep
        have hnp : call.np.carrierOk = s.np.carrierOk ∧
            call.np.naPriv.stat.hostNeedTxkick = s.np.naPriv.stat.hostNeedTxkick ∧
            call.np.naPriv.txIrq = s.np.naPriv.txIrq := by
          rcases rxsync_np_cases nm s.np s.mem flags hcall with hnp | ⟨st, _, hnp⟩ <;> rw [hnp]
          · exact ⟨rfl, rfl, rfl⟩
          · unfold publishRx
            split <;> exact ⟨rfl, rfl, rfl⟩
        exact ⟨hnp.1, rfl, rfl, rfl, hnp.2.1, congrArg EventChannel.pending hnp.2.2, rfl,
          rfl, rfl, rfl, rfl, rfl, rfl⟩
      · contradiction
  | rxKick =>
      simp only [driverStep, Option.ite_none_right_eq_some, Option.some.injEq] at hstep
      obtain ⟨_, rfl⟩ := hstep
      obtain ⟨hvif, hpc⟩ := irqsched_rx_vif s.vif s.pc
      refine ⟨rfl, congrArg Xenvif.carrierOk hvif, congrArg Xenvif.txIrq hvif, rfl, rfl, rfl,
        congrArg Xenvif.guestNeedTxkick hvif, ?_, ?_,
        congrArg (fun vif => vif.txEvtchn.pending) hvif, rfl, rfl, rfl⟩
      · rcases hpc with hpc | hpc
        · exact congrArg (· == Kthread.txSynced) hpc
        · exact (congrArg (· == Kthread.txSynced) hpc).trans
            (wakeUp_beq _ (by decide) (by decide))
      · rcases hpc with hpc | hpc
        · exact congrArg (· == Kthread.txCleared) hpc
        · exact (congrArg (· == Kthread.txCleared) hpc).trans
            (wakeUp_beq _ (by decide) (by decide))
  | deliver k slot bufs tryget =>
      obtain ⟨vif, rfl, rfl | ⟨kring, rfl⟩⟩ := driverStep_deliver_cases hstep
      · exact ⟨rfl, rfl, rfl, rfl, rfl, rfl, rfl, rfl, rfl, rfl, rfl, rfl, rfl⟩
      · obtain ⟨hcarrier, hirq, hneed, hevtchn⟩ := notifyGuestRx_tx
          { deliverPackets s.hostView k slot with rxKring := kring }
        exact ⟨rfl, hcarrier, hirq, rfl, rfl, rfl, hneed, rfl, rfl,
          congrArg EventChannel.pending hevtchn, rfl, rfl, rfl⟩
  | bridge naBdg =>
      obtain rfl := Option.some.inj hstep
      exact ⟨rfl, rfl, rfl, rfl, rfl, rfl, rfl, rfl, rfl, rfl, rfl, rfl, rfl⟩
  | _ => exact absurd he id

structure TokenKept (s : Driver) : Prop where
  carrierOk : s.np.carrierOk = true
  hostCarrierOk : s.vif.carrierOk = true
  txIrq_ne : s.vif.txIrq ≠ 0
  counted : Counted s.startup (guestHolds s) (kickInFlight s) (hostHolds s)
    (completionInFlight s)
  cleared : s.pc = .txCleared → s.vif.guestNeedTxkick = false
  fresh : s.attached = false → s.startup = false ∧ guestHolds s = true
  seen_startup : s.startup = true → s.seen = s.published
  seen : s.seen = s.published ∨ kickInFlight s = true ∨
    s.vif.guestNeedTxkick = true ∧ s.pc ≠ .txSynced

theorem SameTx.hostHolds {s t : Driver} (hsame : SameTx s t) : hostHolds t = hostHolds s := by
  unfold KickToken.hostHolds
  rw [hsame.need, hsame.synced, hsame.cleared]

theorem TokenKept.of_same {s t : Driver} (hkept : TokenKept s) (hsame : SameTx s t) :
    TokenKept t where
  carrierOk := hsame.carrierOk.trans hkept.carrierOk
  hostCarrierOk := hsame.hostCarrierOk.trans hkept.hostCarrierOk
  txIrq_ne := by
    rw [hsame.txIrq]
    exact hkept.txIrq_ne
  counted := by
    rw [hsame.startup, hsame.guest, hsame.kick, hsame.hostHolds, hsame.completion]
    exact hkept.counted
  cleared := fun hpc => by
    have hpc' : s.pc = .txCleared := by
      have hbeq := hsame.cleared
      rw [hpc] at hbeq
      exact eq_of_beq hbeq.symm
    rw [hsame.need]
    exact hkept.cleared hpc'
  fresh := fun hattached => by
    rw [hsame.startup, hsame.guest]
    exact hkept.fresh (hsame.attached ▸ hattached)
  seen_startup := fun hstartup => by
    rw [hsame.seen, hsame.published]
    exact hkept.seen_startup (hsame.startup ▸ hstartup)
  seen := by
    have hpc : t.pc ≠ .txSynced ↔ s.pc ≠ .txSynced := by
      rw [← beq_eq_false_iff_ne, ← beq_eq_false_iff_ne, hsame.synced]
    rw [hsame.seen, hsame.published, hsame.kick, hsame.need, hpc]
    exact hkept.seen

theorem tokenKept_start {s : Driver} (hstart : DriverStart s) : TokenKept s := by
  obtain ⟨hcarrier, hhostCarrier, htxIrq, _, hstat, hreg, ⟨htx, _, hdone, _⟩, hidle, _,
    _, hstartup, hseen⟩ := hstart
  have hguest : guestHolds s = true := by
    unfold guestHolds
    rw [hstat]
    rfl
  have hneed : s.vif.guestNeedTxkick = false := by
    rw [← hreg]
    rfl
  have hhost : hostHolds s = false := by
    unfold hostHolds
    rw [hneed]
    rcases hidle with hpc | hpc <;> rw [hpc] <;> rfl
  refine ⟨hcarrier, hhostCarrier, htxIrq, ?_, fun _ => hneed, fun _ => ⟨hstartup, hguest⟩, ?_,
    Or.inl hseen.symm⟩
  · rw [hstartup, hguest, hhost]
    unfold kickInFlight completionInFlight
    rw [htx, hdone]
    decide
  · intro hon
    rw [hstartup] at hon
    contradiction

theorem TokenKept.attach {nm : NetmapApi} {s t : Driver} (hkept : TokenKept s)
    (hstep : driverStep nm s .attach = some t) : TokenKept t := by
  simp only [driverStep] at hstep
  split at hstep
  · contradiction
  · rename_i hattached
    obtain rfl := Option.some.inj hstep
    have hcounted := hkept.counted
    obtain ⟨hstartup, hguest⟩ := hkept.fresh (by simpa using hattached)
    rw [hstartup, hguest] at hcounted
    obtain ⟨hkick, hhost⟩ := hcounted.alone
    have hneed : s.vif.guestNeedTxkick = false := by
      unfold hostHolds at hhost
      simp only [Bool.or_eq_false_iff] at hhost
      exact hhost.1.1
    have hseen : s.seen = s.published := by
      rcases hkept.seen with hseen | hsent | ⟨hrecorded, _⟩
      · exact hseen
      · rw [hkick] at hsent
        contradiction
      · rw [hneed] at hrecorded
        contradiction
    refine ⟨hkept.carrierOk, hkept.hostCarrierOk, hkept.txIrq_ne, ?_, hkept.cleared,
      fun hnone => by simp at hnone, fun _ => hseen, Or.inl hseen⟩
    change Counted true (guestHolds s) true (hostHolds s) (completionInFlight s)
    rw [hguest]
    exact hcounted.attach

theorem sameTx_of_xmit {nm : NetmapApi} {s t : Driver} {mem : Nat → UInt8} {buf len : Nat}
    (hstep : driverStep nm s (.xmit mem buf len) = some t)
    (hnone : (netfrontNetmapXmit nm s.np.naPriv mem buf len).2 = false ∨
      guestHolds s = false) : SameTx s t := by
  simp only [driverStep, Option.ite_none_right_eq_some, Option.some.injEq] at hstep
  obtain ⟨_, rfl⟩ := hstep
  have hflag : ((netfrontNetmapXmit nm s.np.naPriv mem buf len).2 &&
      s.stat.hostNeedTxkick) = false := by
    rcases hnone with hrefused | hguest
    · rw [hrefused]
      rfl
    · rw [show s.stat.hostNeedTxkick = false from hguest, Bool.and_false]
  have hni : (netfrontNetmapXmit nm s.np.naPriv mem buf len).1.stat.hostNeedTxkick =
        s.np.naPriv.stat.hostNeedTxkick ∧
      (netfrontNetmapXmit nm s.np.naPriv mem buf len).1.txIrq.pending =
        s.np.naPriv.txIrq.pending := by
    rcases xmit_cases s.np.naPriv mem buf len nm with hxmit | hxmit <;> rw [hxmit]
    · exact ⟨rfl, rfl⟩
    · have hguest : s.np.naPriv.stat.hostNeedTxkick = false := by
        rw [hxmit] at hnone
        exact hnone.resolve_left Bool.noConfusion
      simp [hguest]
  refine ⟨rfl, rfl, rfl, rfl, hni.1, hni.2, rfl, rfl, rfl, rfl, ?_, ?_, rfl⟩
  · simp [hflag]
  · simp [hflag]

theorem TokenKept.xmit {nm : NetmapApi} {s t : Driver} {mem : Nat → UInt8} {buf len : Nat}
    (hkept : TokenKept s) (hwaits : WaitsForStartup nm s (.xmit mem buf len))
    (hstep : driverStep nm s (.xmit mem buf len) = some t) : TokenKept t := by
  by_cases hnone : (netfrontNetmapXmit nm s.np.naPriv mem buf len).2 = false ∨
      guestHolds s = false
  · exact hkept.of_same (sameTx_of_xmit hstep hnone)
  · simp only [not_or, Bool.not_eq_false] at hnone
    obtain ⟨haccepted, hguest⟩ := hnone
    obtain ⟨hhost, hdone⟩ := hwaits haccepted hguest
    simp only [driverStep, Option.ite_none_right_eq_some, Option.some.injEq] at hstep
    obtain ⟨hattached, rfl⟩ := hstep
    have hxmit : netfrontNetmapXmit nm s.np.naPriv mem buf len =
        (acceptTx s.np.naPriv mem buf len, true) := by
      rcases xmit_cases s.np.naPriv mem buf len nm with hxmit | hxmit
      · rw [hxmit] at haccepted
        contradiction
      · exact hxmit
    have hflag : s.np.naPriv.stat.hostNeedTxkick = true := hguest
    have hcounted := hkept.counted
    rw [hguest] at hcounted
    simp only [hxmit, Driver.stat, hflag, Bool.and_true, Bool.not_true, Bool.and_false]
    refine ⟨hkept.carrierOk, hkept.hostCarrierOk, hkept.txIrq_ne, ?_, hkept.cleared, ?_, ?_, ?_⟩
    · change Counted false (acceptTx s.np.naPriv mem buf len).stat.hostNeedTxkick
        (acceptTx s.np.naPriv mem buf len).txIrq.pending (hostHolds s) (completionInFlight s)
      rw [acceptTx_hostNeedTxkick, acceptTx_txIrq_pending, hflag]
      exact hcounted.send hhost hdone
    · intro hfresh
      rw [hattached] at hfresh
      contradiction
    · intro hstartup
      contradiction
    · refine Or.inr (Or.inl ?_)
      change (acceptTx s.np.naPriv mem buf len).txIrq.pending = true
      rw [acceptTx_txIrq_pending, hflag]
      rfl

theorem TokenKept.txInterrupt {nm : NetmapApi} {s t : Driver} (hkept : TokenKept s)
    (hstep : driverStep nm s .txInterrupt = some t) : TokenKept t := by
  simp only [driverStep, Option.ite_none_right_eq_some, Option.some.injEq] at hstep
  obtain ⟨hdone, rfl⟩ := hstep
  have hcounted := hkept.counted
  rw [show completionInFlight s = true from hdone] at hcounted
  rw [netfrontTxInterrupt_of_carrier hkept.carrierOk]
  exact ⟨hkept.carrierOk, hkept.hostCarrierOk, hkept.txIrq_ne, hcounted.giveBack,
    hkept.cleared, fun _ => ⟨rfl, rfl⟩, fun hstartup => Bool.noConfusion hstartup,
    hkept.seen⟩

theorem irqsched_tx (vif : Xenvif) (pc : Kthread) (hcarrier : vif.carrierOk = true) :
    xenvifNetmapIrqsched vif pc true =
      if vif.naBdg then ({ vif with guestNeedTxkick := true }, wakeUp pc, 0)
      else (vif, pc, 1) := by
  unfold xenvifNetmapIrqsched
  rw [hcarrier]
  cases vif.naBdg <;> rfl

theorem TokenKept.txKick {nm : NetmapApi} {s t : Driver} (hkept : TokenKept s)
    (harrives : KickArrives s .txKick) (hstep : driverStep nm s .txKick = some t) :
    TokenKept t := by
  simp only [driverStep, Option.ite_none_right_eq_some, Option.some.injEq] at hstep
  obtain ⟨hkick, rfl⟩ := hstep
  have hcounted := hkept.counted
  rw [show kickInFlight s = true from hkick] at hcounted
  rw [irqsched_tx s.vif s.pc hkept.hostCarrierOk]
  cases hbdg : s.vif.naBdg with
  | true =>
      obtain ⟨hhost, hafter⟩ := hcounted.record
      unfold hostHolds at hhost
      simp only [Bool.or_eq_false_iff, beq_eq_false_iff_ne] at hhost
      obtain ⟨⟨_, hsynced⟩, hcleared⟩ := hhost
      have hawake : wakeUp s.pc ≠ .txSynced ∧ wakeUp s.pc ≠ .txCleared := by
        revert hsynced hcleared
        cases s.pc <;> decide
      refine ⟨hkept.carrierOk, hkept.hostCarrierOk, hkept.txIrq_ne, ?_, ?_, ?_, ?_, ?_⟩
      · change Counted (s.startup && true) (guestHolds s) false
          (true || wakeUp s.pc == .txSynced || wakeUp s.pc == .txCleared)
          (completionInFlight s)
        rw [Bool.and_true, Bool.true_or, Bool.true_or]
        exact hafter
      · intro hpc
        exact absurd hpc hawake.2
      · intro hfresh
        obtain ⟨hstartup, hguest⟩ := hkept.fresh hfresh
        refine ⟨?_, hguest⟩
        change (s.startup && true) = false
        rw [hstartup]
        rfl
      · intro hstartup
        change (s.startup && true) = true at hstartup
        rw [Bool.and_true] at hstartup
        exact hkept.seen_startup hstartup
      · exact Or.inr (Or.inr ⟨rfl, hawake.1⟩)
  | false =>
      have hguest : guestHolds s = true := by
        rcases harrives with hattached | hguest
        · rw [hbdg] at hattached
          contradiction
        · exact hguest
      rw [hguest] at hcounted
      obtain ⟨hstartup, hafter⟩ := hcounted.drop
      refine ⟨hkept.carrierOk, hkept.hostCarrierOk, hkept.txIrq_ne, ?_, hkept.cleared, ?_, ?_,
        Or.inl (hkept.seen_startup hstartup)⟩
      · change Counted (s.startup && false) (guestHolds s) false (hostHolds s)
          (completionInFlight s)
        rw [Bool.and_false, hguest]
        exact hafter
      · exact fun _ => ⟨Bool.and_false _, hguest⟩
      · exact fun hstill => by simp at hstill

def afterThread (s : Driver) (vif : Xenvif) (pc : Kthread) : Driver :=
  { s.afterHost vif with
    pc := pc
    seen := if s.pc = .txBranch ∧ txWorkTodo s.vif = true then s.published else s.seen }

theorem driverStep_kthread {nm : NetmapApi} {s t : Driver}
    (hstep : driverStep nm s .kthread = some t) :
    ∃ vif pc slots, kthreadStep nm s.hostView s.pc = some (vif, pc, slots) ∧
      t = afterThread s vif pc := by
  simp only [driverStep] at hstep
  split at hstep
  · rename_i vif pc slots hthread
    exact ⟨vif, pc, slots, hthread, (Option.some.inj hstep).symm⟩
  · contradiction

theorem sameTx_afterThread {s : Driver} {vif : Xenvif} {pc : Kthread}
    (hno : ¬ (s.pc = .txBranch ∧ txWorkTodo s.vif = true))
    (hcarrier : vif.carrierOk = s.vif.carrierOk) (hirq : vif.txIrq = s.vif.txIrq)
    (hneed : vif.guestNeedTxkick = s.vif.guestNeedTxkick)
    (hevtchn : vif.txEvtchn = s.vif.txEvtchn)
    (hsynced : (pc == .txSynced) = (s.pc == .txSynced))
    (hcleared : (pc == .txCleared) = (s.pc == .txCleared)) :
    SameTx s (afterThread s vif pc) :=
  ⟨rfl, hcarrier, hirq, rfl, rfl, rfl, hneed, hsynced, hcleared,
    congrArg EventChannel.pending hevtchn, rfl, rfl, if_neg hno⟩

theorem kthread_cases {nm : NetmapApi} {s t : Driver}
    (hstep : driverStep nm s .kthread = some t) :
    SameTx s t ∨
      (s.pc = .txBranch ∧ txWorkTodo s.vif = true ∧
        t = afterThread s (irqTxsync nm s.hostView).1 .txSynced) ∨
      (s.pc = .txSynced ∧ t = afterThread s (irqClearTxkick s.hostView) .txCleared) ∨
      (s.pc = .txCleared ∧ t = afterThread s (irqNotifyTx s.hostView) .rxBranch) := by
  obtain ⟨vif, pc, slots, hthread, rfl⟩ := driverStep_kthread hstep
  -- outside the transmit branch the count of seen batches stands
  have hother {q : Kthread} (hpc : s.pc = q) (hne : q ≠ .txBranch) :
      ¬ (s.pc = .txBranch ∧ txWorkTodo s.vif = true) :=
    fun hbranch => hne (hpc.symm.trans hbranch.1)
  cases kthreadStep_cases hthread with
  | work hpc _ =>
      exact Or.inl (sameTx_afterThread (hother hpc (by decide)) rfl rfl rfl rfl
        (by rw [hpc]; rfl) (by rw [hpc]; rfl))
  | sleep hpc _ _ =>
      exact Or.inl (sameTx_afterThread (hother hpc (by decide)) rfl rfl rfl rfl
        (by rw [hpc]; rfl) (by rw [hpc]; rfl))
  | txsync hpc htodo => exact Or.inr (Or.inl ⟨hpc, htodo, rfl⟩)
  | skipTx hpc hnone =>
      have hno : ¬ (s.pc = .txBranch ∧ txWorkTodo s.vif = true) :=
        fun hbranch => Bool.false_ne_true (hnone.symm.trans hbranch.2)
      exact Or.inl (sameTx_afterThread hno rfl rfl rfl rfl (by rw [hpc]; rfl) (by rw [hpc]; rfl))
  | clearTx hpc => exact Or.inr (Or.inr (Or.inl ⟨hpc, rfl⟩))
  | notifyTx hpc => exact Or.inr (Or.inr (Or.inr ⟨hpc, rfl⟩))
  | rxsync hpc _ =>
      exact Or.inl (sameTx_afterThread (hother hpc (by decide)) rfl rfl rfl rfl
        (by rw [hpc]; rfl) (by rw [hpc]; rfl))
  | skipRx hpc _ =>
      exact Or.inl (sameTx_afterThread (hother hpc (by decide)) rfl rfl rfl rfl
        (by rw [hpc]; rfl) (by rw [hpc]; rfl))
  | armRx hpc =>
      exact Or.inl (sameTx_afterThread (hother hpc (by decide)) rfl rfl rfl rfl
        (by rw [hpc]; rfl) (by rw [hpc]; rfl))

theorem TokenKept.startSync {nm : NetmapApi} {s : Driver} (hkept : TokenKept s)
    (hpc : s.pc = .txBranch) (htodo : txWorkTodo s.vif = true) :
    TokenKept (afterThread s (irqTxsync nm s.hostView).1 .txSynced) := by
  have hneed : s.vif.guestNeedTxkick = true := htodo
  have hcounted := hkept.counted
  have hhost : hostHolds s = true := by
    unfold hostHolds
    rw [hneed]
    rfl
  have hseen : (afterThread s (irqTxsync nm s.hostView).1 .txSynced).seen = s.published :=
    if_pos ⟨hpc, htodo⟩
  refine ⟨hkept.carrierOk, hkept.hostCarrierOk, hkept.txIrq_ne, ?_,
    fun hcleared => Kthread.noConfusion hcleared, hkept.fresh, fun _ => hseen, Or.inl hseen⟩
  change Counted s.startup (guestHolds s) (kickInFlight s)
    (s.vif.guestNeedTxkick || true || false) (completionInFlight s)
  rw [Bool.or_true, Bool.true_or, ← hhost]
  exact hcounted

/-- The flag is cleared after the sync; no kick can have come in between. -/
theorem TokenKept.clear {s : Driver} (hkept : TokenKept s) (hpc : s.pc = .txSynced) :
    TokenKept (afterThread s (irqClearTxkick s.hostView) .txCleared) := by
  have hcounted := hkept.counted
  have hhost : hostHolds s = true := by
    unfold hostHolds
    rw [hpc, beq_self_eq_true, Bool.or_true, Bool.true_or]
  rw [hhost] at hcounted
  have hkick := hcounted.complete.1
  have hno : ¬ (s.pc = .txBranch ∧ txWorkTodo s.vif = true) := by
    rw [hpc]
    exact fun hbranch => Kthread.noConfusion hbranch.1
  have hseen : s.seen = s.published := by
    rcases hkept.seen with hseen | hsent | ⟨_, hnot⟩
    · exact hseen
    · rw [hkick] at hsent
      contradiction
    · exact absurd hpc hnot
  have hsame : (afterThread s (irqClearTxkick s.hostView) .txCleared).seen = s.seen :=
    if_neg hno
  exact ⟨hkept.carrierOk, hkept.hostCarrierOk, hkept.txIrq_ne, hcounted, fun _ => rfl,
    hkept.fresh, fun _ => hsame.trans hseen, Or.inl (hsame.trans hseen)⟩

theorem TokenKept.notify {s : Driver} (hkept : TokenKept s) (hpc : s.pc = .txCleared) :
    TokenKept (afterThread s (irqNotifyTx s.hostView) .rxBranch) := by
  have hcounted := hkept.counted
  have hhost : hostHolds s = true := by
    unfold hostHolds
    rw [hpc, beq_self_eq_true, Bool.or_true]
  rw [hhost] at hcounted
  have hneed := hkept.cleared hpc
  have hno : ¬ (s.pc = .txBranch ∧ txWorkTodo s.vif = true) := by
    rw [hpc]
    exact fun hbranch => Kthread.noConfusion hbranch.1
  have hseen : (afterThread s (irqNotifyTx s.hostView) .rxBranch).seen = s.seen := if_neg hno
  have hbound : s.hostView.txIrq ≠ 0 := hkept.txIrq_ne
  rw [irqNotifyTx_of_bound hbound] at hseen ⊢
  refine ⟨hkept.carrierOk, hkept.hostCarrierOk, hkept.txIrq_ne, ?_,
    fun hcleared => Kthread.noConfusion hcleared, hkept.fresh,
    fun hstartup => hseen.trans (hkept.seen_startup hstartup), ?_⟩
  · change Counted s.startup (guestHolds s) (kickInFlight s)
      (s.vif.guestNeedTxkick || false || false) true
    rw [hneed]
    exact hcounted.complete.2
  · refine Or.inl (hseen.trans ?_)
    rcases hkept.seen with hseen | hsent | ⟨hrecorded, _⟩
    · exact hseen
    · rw [hcounted.complete.1] at hsent
      contradiction
    · rw [hneed] at hrecorded
      contradiction

theorem TokenKept.kthread {nm : NetmapApi} {s t : Driver} (hkept : TokenKept s)
    (hstep : driverStep nm s .kthread = some t) : TokenKept t := by
  rcases kthread_cases hstep with hsame | ⟨hpc, htodo, rfl⟩ | ⟨hpc, rfl⟩ | ⟨hpc, rfl⟩
  · exact hkept.of_same hsame
  · exact hkept.startSync hpc htodo
  · exact hkept.clear hpc
  · exact hkept.notify hpc

theorem tokenKept_step (nm : NetmapApi) (s : Driver) (e : DriverEvent) (t : Driver)
    (hkept : TokenKept s) (hcond : KickArrives s e ∧ WaitsForStartup nm s e)
    (hstep : driverStep nm s e = some t) : TokenKept t := by
  cases e with
  | attach => exact hkept.attach hstep
  | xmit mem buf len => exact hkept.xmit hcond.2 hstep
  | txInterrupt => exact hkept.txInterrupt hstep
  | txKick => exact hkept.txKick hcond.1 hstep
  | kthread => exact hkept.kthread hstep
  | rxInterrupt => exact hkept.of_same (sameTx_of_rx hstep trivial)
  | rxsync head cur flags => exact hkept.of_same (sameTx_of_rx hstep trivial)
  | rxKick => exact hkept.of_same (sameTx_of_rx hstep trivial)
  | deliver k slot bufs tryget => exact hkept.of_same (sameTx_of_rx hstep trivial)
  | bridge naBdg => exact hkept.of_same (sameTx_of_rx hstep trivial)

/-- The token is somewhere, also when the host serves two notifications at once. -/
structure TokenThere (s : Driver) : Prop where
  carrierOk : s.np.carrierOk = true
  hostCarrierOk : s.vif.carrierOk = true
  txIrq_ne : s.vif.txIrq ≠ 0
  there : guestHolds s = true ∨ kickInFlight s = true ∨ hostHolds s = true ∨
    completionInFlight s = true

theorem TokenThere.of_same {s t : Driver} (hthere : TokenThere s) (hsame : SameTx s t) :
    TokenThere t := by
  refine ⟨hsame.carrierOk.trans hthere.carrierOk,
    hsame.hostCarrierOk.trans hthere.hostCarrierOk, ?_, ?_⟩
  · rw [hsame.txIrq]
    exact hthere.txIrq_ne
  · rw [hsame.guest, hsame.kick, hsame.hostHolds, hsame.completion]
    exact hthere.there

theorem tokenThere_step (nm : NetmapApi) (s : Driver) (e : DriverEvent) (t : Driver)
    (hthere : TokenThere s) (harrives : KickArrives s e)
    (hstep : driverStep nm s e = some t) : TokenThere t := by
  obtain ⟨hcarrier, hhostCarrier, htxIrq, _⟩ := id hthere
  cases e with
  | attach =>
      simp only [driverStep] at hstep
      split at hstep
      · contradiction
      · obtain rfl := Option.some.inj hstep
        exact ⟨hcarrier, hhostCarrier, htxIrq, Or.inr (Or.inl rfl)⟩
  | xmit mem buf len =>
      by_cases hnone : (netfrontNetmapXmit nm s.np.naPriv mem buf len).2 = false ∨
          guestHolds s = false
      · exact hthere.of_same (sameTx_of_xmit hstep hnone)
      · simp only [not_or, Bool.not_eq_false] at hnone
        simp only [driverStep, Option.ite_none_right_eq_some, Option.some.injEq] at hstep
        obtain ⟨_, rfl⟩ := hstep
        refine ⟨hcarrier, hhostCarrier, htxIrq, Or.inr (Or.inl ?_)⟩
        change (netfrontNetmapXmit nm s.np.naPriv mem buf len).1.txIrq.pending = true
        rcases xmit_cases s.np.naPriv mem buf len nm with hxmit | hxmit
        · rw [hxmit] at hnone
          exact absurd hnone.1 Bool.false_ne_true
        · have hflag : s.np.naPriv.stat.hostNeedTxkick = true := hnone.2
          rw [hxmit, acceptTx_txIrq_pending, hflag]
          rfl
  | txInterrupt =>
      simp only [driverStep, Option.ite_none_right_eq_some, Option.some.injEq] at hstep
      obtain ⟨_, rfl⟩ := hstep
      rw [netfrontTxInterrupt_of_carrier hcarrier]
      exact ⟨hcarrier, hhostCarrier, htxIrq, Or.inl rfl⟩
  | txKick =>
      simp only [driverStep, Option.ite_none_right_eq_some, Option.some.injEq] at hstep
      obtain ⟨_, rfl⟩ := hstep
      rw [irqsched_tx s.vif s.pc hhostCarrier]
      cases hbdg : s.vif.naBdg with
      | true => exact ⟨hcarrier, hhostCarrier, htxIrq, Or.inr (Or.inr (Or.inl rfl))⟩
      | false =>
          refine ⟨hcarrier, hhostCarrier, htxIrq, Or.inl ?_⟩
          rcases harrives with hattached | hguest
          · rw [hbdg] at hattached
            contradiction
          · exact hguest
  | kthread =>
      rcases kthread_cases hstep with hsame | ⟨_, _, rfl⟩ | ⟨_, rfl⟩ | ⟨_, rfl⟩
      · exact hthere.of_same hsame
      · refine ⟨hcarrier, hhostCarrier, htxIrq, Or.inr (Or.inr (Or.inl ?_))⟩
        change (s.vif.guestNeedTxkick || true || false) = true
        rw [Bool.or_true, Bool.true_or]
      · exact ⟨hcarrier, hhostCarrier, htxIrq, Or.inr (Or.inr (Or.inl rfl))⟩
      · have hbound : s.hostView.txIrq ≠ 0 := htxIrq
        rw [irqNotifyTx_of_bound hbound]
        exact ⟨hcarrier, hhostCarrier, htxIrq, Or.inr (Or.inr (Or.inr rfl))⟩
  | rxInterrupt => exact hthere.of_same (sameTx_of_rx hstep trivial)
  | rxsync head cur flags => exact hthere.of_same (sameTx_of_rx hstep trivial)
  | rxKick => exact hthere.of_same (sameTx_of_rx hstep trivial)
  | deliver k slot bufs tryget => exact hthere.of_same (sameTx_of_rx hstep trivial)
  | bridge naBdg => exact hthere.of_same (sameTx_of_rx hstep trivial)

theorem TokenThere.one_le {s : Driver} (hthere : TokenThere s) : 1 ≤ holders s := by
  unfold holders
  refine List.count_pos_iff.mpr ?_
  rcases hthere.there with hplace | hplace | hplace | hplace <;> simp [hplace]

/-- The token is never lost, and it is in one place only, from the end of the start-up
notification on. Then every publication was seen by a sync when all is quiet. -/
theorem tx_kick_token (nm : NetmapApi) {s t : Driver} (hstart : DriverStart s)
    {es : List DriverEvent} (harrives : Along (driverStep nm) KickArrives s es)
    (hrun : run (driverStep nm) s es = some t) :
    1 ≤ holders t ∧
      (Along (driverStep nm) (WaitsForStartup nm) s es →
        (t.startup = false → holders t = 1) ∧
        (t.startup = true → guestHolds t = true ∧ holders t = 2) ∧
        (TxQuiet t → t.seen = t.published)) := by
  have hstartKept := tokenKept_start hstart
  constructor
  · have hguest : guestHolds s = true := (hstartKept.fresh hstart.attached_eq).2
    exact (invariant_of_along (tokenThere_step nm) ⟨hstartKept.carrierOk,
      hstartKept.hostCarrierOk, hstartKept.txIrq_ne, Or.inl hguest⟩ harrives hrun).one_le
  · intro hwaits
    have hkept := invariant_of_along (tokenKept_step nm) hstartKept (harrives.and hwaits) hrun
    refine ⟨hkept.counted.1, hkept.counted.2, ?_⟩
    rintro ⟨hkick, hhost, _⟩
    rcases hkept.seen with hseen | hsent | ⟨hrecorded, _⟩
    · exact hseen
    · rw [hkick] at hsent
      contradiction
    · unfold hostHolds at hhost
      rw [hrecorded] at hhost
      contradiction

def kickRun : List DriverEvent :=
  [.attach, .txKick, .kthread, .kthread, .kthread, .kthread, .txInterrupt,
    .xmit (fun _ => 7) 0 1, .txKick, .kthread, .kthread]

theorem tx_kick_token_one_packet :
    ∃ t, run (driverStep netmapHeaders) (freshDriver 4) kickRun = some t ∧
      t.startup = false ∧ holders t = 1 := by
  obtain ⟨t, hrun, hstartup⟩ := (Option.any_eq_true _ _).mp
    (show (run (driverStep netmapHeaders) (freshDriver 4) kickRun).any
      (fun t : Driver => !t.startup) = true by decide)
  have hended : t.startup = false := by simpa using hstartup
  exact ⟨t, hrun, hended, ((tx_kick_token netmapHeaders (freshDriver_start 4) (by decide)
    hrun).2 (by decide)).1 hended⟩

/-- Where the token is not in one place: `netfront_netmap_attach` adds a notification, a
port that is not attached drops a kick, and a kick that arrives after the sync for the
start-up notification is cleared with it. -/
theorem tx_kick_token_fails :
    (¬ ∀ s, DriverStart s → ∀ es t, run (driverStep netmapHeaders) s es = some t →
      holders t = 1 ∧ (TxQuiet t → t.seen = t.published)) ∧
    (run (driverStep netmapHeaders) (freshDriver 4) [.attach]).any
      (fun t : Driver => holders t == 2) = true ∧
    (run (driverStep netmapHeaders) (freshDriver 4)
      [.attach, .bridge false, .txKick, .xmit (fun _ => 7) 0 1, .txKick]).any
      (fun t : Driver => holders t == 0) = true ∧
    (run (driverStep netmapHeaders) (freshDriver 4)
      [.attach, .txKick, .kthread, .kthread, .xmit (fun _ => 7) 0 1, .txKick, .kthread,
        .kthread, .txInterrupt]).any
      (fun t : Driver => decide (TxQuiet t ∧ t.seen ≠ t.published)) = true := by
  have htwo : (run (driverStep netmapHeaders) (freshDriver 4) [.attach]).any
      (fun t : Driver => holders t == 2) = true := by
    decide
  refine ⟨fun halways => ?_, htwo, by decide, by decide⟩
  obtain ⟨t, hrun, hbad⟩ := (Option.any_eq_true _ _).mp htwo
  have hone := (halways (freshDriver 4) (freshDriver_start 4) [.attach] t hrun).1
  rw [hone] at hbad
  contradiction

end XenNet.KickToken
