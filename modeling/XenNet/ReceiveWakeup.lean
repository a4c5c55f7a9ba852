import XenNet.SplitDriver

namespace XenNet.ReceiveWakeup

open XenNet.TransitionSystem
open XenNet.NetmapKernel
open XenNet.NetmapReference
open XenNet.NetfrontModel
open XenNet.NetfrontTransmit
open XenNet.NetfrontReceive
open XenNet.ReceiveLoop
open XenNet.NetbackModel
open XenNet.SplitDriver

def Drained (s : Driver) : Prop :=
  s.np.naPriv.rxRings.cur = s.np.naPriv.rxRings.tail

def rxInFlight (s : Driver) : Bool :=
  s.vif.rxEvtchn.pending || s.np.naPriv.rxIrq.pending

/-- The guest may import, or a notification about received packets is under way. -/
def GuestAware (s : Driver) : Prop :=
  s.stat.hostNeedRxkick = true ∨ rxInFlight s = true

/-- Packets that are left in the ring are not forgotten by both sides. -/
def NoLostWakeup (s : Driver) : Prop :=
  ¬ Drained s → GuestAware s ∨ s.pc ≠ .asleep

instance (s : Driver) : Decidable (Drained s) :=
  inferInstanceAs (Decidable (_ = _))

instance (s : Driver) : Decidable (GuestAware s) :=
  inferInstanceAs (Decidable (_ ∨ _))

instance (s : Driver) : Decidable (NoLostWakeup s) :=
  inferInstanceAs (Decidable (_ → _ ∨ _))

def LosesNoWakeup (nm : NetmapApi) (s : Driver) (e : DriverEvent) : Prop :=
  ∀ t, driverStep nm s e = some t → NoLostWakeup t

/-- The guest's acknowledgements arrive while the port is attached to a bridge. -/
def AckArrives (s : Driver) : DriverEvent → Prop
  | .rxKick => s.vif.naBdg = true
  | _ => True

/-- The condition on a step: the thread arms `guest_need_rxkick` when the ring is
drained. -/
def ArmsDrained (s : Driver) : DriverEvent → Prop
  | .kthread => s.pc = .rxSynced → Drained s
  | _ => True

/-- The thread goes to sleep over packets that are left only when the guest is aware of
them. -/
def SleepsAware (s : Driver) : DriverEvent → Prop
  | .kthread =>
      s.pc = .checking → rxWorkTodo s.vif = false → txWorkTodo s.vif = false →
        Drained s ∨ GuestAware s
  | _ => True

instance (s : Driver) : (e : DriverEvent) → Decidable (AckArrives s e)
  | .rxKick => inferInstanceAs (Decidable (_ = _))
  | .attach | .xmit _ _ _ | .txInterrupt | .rxInterrupt | .rxsync _ _ _ | .txKick
  | .deliver _ _ _ _ | .kthread | .bridge _ => isTrue trivial

instance (s : Driver) : (e : DriverEvent) → Decidable (ArmsDrained s e)
  | .kthread => inferInstanceAs (Decidable (_ → _))
  | .attach | .xmit _ _ _ | .txInterrupt | .rxInterrupt | .rxsync _ _ _ | .txKick | .rxKick
  | .deliver _ _ _ _ | .bridge _ => isTrue trivial

structure RxLinks (s : Driver) : Prop where
  carrierOk : s.np.carrierOk = true
  hostCarrierOk : s.vif.carrierOk = true
  rxIrq_ne : s.vif.rxIrq ≠ 0

theorem RxLinks.of_eq {s t : Driver} (hlinks : RxLinks s)
    (hcarrier : t.np.carrierOk = s.np.carrierOk)
    (hhostCarrier : t.vif.carrierOk = s.vif.carrierOk) (hirq : t.vif.rxIrq = s.vif.rxIrq) :
    RxLinks t :=
  ⟨hcarrier.trans hlinks.carrierOk, hhostCarrier.trans hlinks.hostCarrierOk,
    hirq ▸ hlinks.rxIrq_ne⟩

structure SameRx (s t : Driver) : Prop where
  cur : t.np.naPriv.rxRings.cur = s.np.naPriv.rxRings.cur
  tail : t.np.naPriv.rxRings.tail = s.np.naPriv.rxRings.tail
  kick : t.stat.hostNeedRxkick = s.stat.hostNeedRxkick
  inFlight : rxInFlight t = rxInFlight s

theorem SameRx.drained {s t : Driver} (hsame : SameRx s t) : Drained t ↔ Drained s := by
  unfold Drained
  rw [hsame.cur, hsame.tail]

theorem SameRx.guestAware {s t : Driver} (hsame : SameRx s t) :
    GuestAware t ↔ GuestAware s := by
  unfold GuestAware
  rw [hsame.kick, hsame.inFlight]

/-- All that a step can do to the receive side. -/
inductive RxChange (s : Driver) (e : DriverEvent) (t : Driver) : Prop where
  /-- Nothing, except that the thread may wake up. -/
  | same (hsame : SameRx s t) (harmed : t.vif.guestNeedRxkick = s.vif.guestNeedRxkick)
      (hpc : t.pc = .asleep → s.pc = .asleep)
  /-- The guest is aware of what is in the ring. -/
  | aware (hdrained : Drained s → Drained t)
      (harmed : t.vif.guestNeedRxkick = s.vif.guestNeedRxkick) (haware : GuestAware t)
  /-- The thread is awake. -/
  | awake (hdrained : Drained s → Drained t)
      (harmed : t.vif.guestNeedRxkick = s.vif.guestNeedRxkick) (hpc : t.pc ≠ .asleep)
  /-- The host has put packets into the ring and notifies the guest. -/
  | told (harmed : t.vif.guestNeedRxkick = false) (haware : GuestAware t)
  /-- The host has put packets into the ring and need not notify the guest. -/
  | more (hbefore : s.vif.guestNeedRxkick = false) (harmed : t.vif.guestNeedRxkick = false)
      (haware : GuestAware t ↔ GuestAware s) (hpc : t.pc = s.pc)
  /-- The thread arms the flag. -/
  | armed (he : e = .kthread) (hbefore : s.pc = .rxSynced) (hsame : SameRx s t)
      (hpc : t.pc ≠ .asleep)
  /-- The thread goes to sleep. -/
  | slept (he : e = .kthread) (hbefore : s.pc = .checking)
      (hrx : rxWorkTodo s.vif = false) (htx : txWorkTodo s.vif = false) (hsame : SameRx s t)
      (harmed : t.vif.guestNeedRxkick = s.vif.guestNeedRxkick)

theorem xmit_rx (nm : NetmapApi) (ni : NetmapInfo) (mem : Nat → UInt8) (buf len : Nat) :
    (netfrontNetmapXmit nm ni mem buf len).1.rxRings = ni.rxRings ∧
      (netfrontNetmapXmit nm ni mem buf len).1.rxIrq = ni.rxIrq ∧
      (netfrontNetmapXmit nm ni mem buf len).1.stat.hostNeedRxkick =
        ni.stat.hostNeedRxkick := by
  rcases xmit_cases ni mem buf len nm with hxmit | hxmit <;> rw [hxmit]
  · exact ⟨rfl, rfl, rfl⟩
  · exact acceptTx_rx ni mem buf len

theorem irqsched_pc (vif : Xenvif) (pc : Kthread) (tx : Bool) :
    (xenvifNetmapIrqsched vif pc tx).2.1 = .asleep → pc = .asleep := by
  unfold xenvifNetmapIrqsched
  split
  · exact id
  · split
    · exact id
    · exact fun hasleep => absurd hasleep (wakeUp_ne_asleep pc)

theorem irqsched_rx (vif : Xenvif) (pc : Kthread) (tx : Bool) :
    (xenvifNetmapIrqsched vif pc tx).1.guestNeedRxkick = vif.guestNeedRxkick ∧
      (xenvifNetmapIrqsched vif pc tx).1.rxEvtchn = vif.rxEvtchn ∧
      (xenvifNetmapIrqsched vif pc tx).1.carrierOk = vif.carrierOk ∧
      (xenvifNetmapIrqsched vif pc tx).1.rxIrq = vif.rxIrq := by
  unfold xenvifNetmapIrqsched
  cases tx <;> split <;> first | exact ⟨rfl, rfl, rfl, rfl⟩ | skip
  all_goals split <;> exact ⟨rfl, rfl, rfl, rfl⟩

theorem importLoop_of_empty {nm : NetmapApi} {ni : NetmapInfo} {slotFlags : UInt16}
    {stop lim fuel : Nat} {st st' : RxImport} (hj : st.j = 0)
    (hloop : importLoop nm ni slotFlags stop lim fuel st = some (false, st')) : st' = st := by
  cases fuel with
  | zero => simp [importLoop] at hloop
  | succ fuel =>
      simp only [importLoop, hj] at hloop
      split at hloop
      · exact (Prod.mk.inj (Option.some.inj hloop)).2.symm
      · split at hloop
        · exact absurd (Prod.mk.inj (Option.some.inj hloop)).1 (by decide)
        · rw [if_pos (by simp)] at hloop
          exact (Prod.mk.inj (Option.some.inj hloop)).2.symm

theorem nmRingSpace_of_drained {ring : NetmapRing} (hdrained : ring.cur = ring.tail) :
    nmRingSpace ring = 0 := by
  simp [nmRingSpace, hdrained]

theorem rxChange_rxsync {nm : NetmapApi} {s t : Driver} {head cur : Nat} {flags : UInt32}
    (hlinks : RxLinks s) (hstep : driverStep nm s (.rxsync head cur flags) = some t) :
    RxLinks t ∧ RxChange s (.rxsync head cur flags) t := by
  simp only [driverStep] at hstep
  split at hstep
  · rename_i call hcall
    obtain rfl := Option.some.inj hstep
    rcases rxsync_np_cases nm s.np s.mem flags hcall with hnp | ⟨st, hloop, hnp⟩
    · rw [hnp]
      exact ⟨hlinks.of_eq rfl rfl rfl, .same ⟨rfl, rfl, rfl, rfl⟩ rfl id⟩
    · cases hkick : s.np.naPriv.stat.hostNeedRxkick with
      | false =>
          have hsame : publishRx s.np.naPriv st.n st.cur = s.np.naPriv := by
            simp [publishRx, hkick]
          rw [hnp, hsame]
          exact ⟨hlinks.of_eq rfl rfl rfl, .same ⟨rfl, rfl, rfl, rfl⟩ rfl id⟩
      | true =>
          have hpublish : publishRx s.np.naPriv st.n st.cur =
              { s.np.naPriv with
                rxRings := if st.n ≠ 0 then
                    { s.np.naPriv.rxRings with head := st.cur, cur := st.cur }
                  else s.np.naPriv.rxRings
                stat := { s.np.naPriv.stat with hostNeedRxkick := false }
                rxIrq := s.np.naPriv.rxIrq.notifyRemoteViaIrq } := if_pos hkick
          rw [hnp, hpublish]
          refine ⟨hlinks.of_eq rfl rfl rfl,
            .aware (fun hdrained => ?_) rfl (Or.inr (Bool.or_true _))⟩
          have hnone := importLoop_of_empty (nmRingSpace_of_drained hdrained) hloop
          change (if st.n ≠ 0 then _ else _ : NetmapRing).cur =
            (if st.n ≠ 0 then _ else _ : NetmapRing).tail
          rw [hnone]
          exact hdrained
  · contradiction

theorem rxChange_deliver {nm : NetmapApi} {s t : Driver} {k : Nat} {slot : Nat → NetmapSlot}
    {bufs : Nat → UInt8} {tryget : Bool} (hlinks : RxLinks s)
    (hstep : driverStep nm s (.deliver k slot bufs tryget) = some t) :
    RxLinks t ∧ RxChange s (.deliver k slot bufs tryget) t := by
  have hirq := hlinks.rxIrq_ne
  obtain ⟨vif, rfl, rfl | ⟨kring, rfl⟩⟩ := driverStep_deliver_cases hstep
  · exact ⟨hlinks.of_eq rfl rfl rfl, .same ⟨rfl, rfl, rfl, rfl⟩ rfl id⟩
  · cases harmed : s.vif.guestNeedRxkick with
    | true =>
        have hnotified : notifyGuestRx
            { deliverPackets s.hostView k slot with rxKring := kring } =
              { deliverPackets s.hostView k slot with
                rxKring := kring
                guestNeedRxkick := false
                rxEvtchn := s.vif.rxEvtchn.notifyRemoteViaIrq } := by
          have hview : (deliverPackets s.hostView k slot).guestNeedRxkick = true := harmed
          have hbound : (deliverPackets s.hostView k slot).rxIrq ≠ 0 := hirq
          unfold notifyGuestRx
          simp only [hview, if_true, if_pos hbound]
          rfl
        rw [hnotified]
        exact ⟨hlinks.of_eq rfl rfl rfl, .told rfl (Or.inr rfl)⟩
    | false =>
        have hnotified : notifyGuestRx
            { deliverPackets s.hostView k slot with rxKring := kring } =
              { deliverPackets s.hostView k slot with rxKring := kring } := by
          have hview : (deliverPackets s.hostView k slot).guestNeedRxkick = false := harmed
          simp [notifyGuestRx, hview]
        rw [hnotified]
        exact ⟨hlinks.of_eq rfl rfl rfl, .more harmed harmed Iff.rfl rfl⟩

theorem irqNotifyTx_rx (vif : Xenvif) :
    (irqNotifyTx vif).guestNeedRxkick = vif.guestNeedRxkick ∧
      (irqNotifyTx vif).rxEvtchn = vif.rxEvtchn ∧
      (irqNotifyTx vif).rxKring = vif.rxKring ∧
      (irqNotifyTx vif).carrierOk = vif.carrierOk ∧ (irqNotifyTx vif).rxIrq = vif.rxIrq := by
  unfold irqNotifyTx
  split <;> exact ⟨rfl, rfl, rfl, rfl, rfl⟩

theorem rxChange_kthread {nm : NetmapApi} {s t : Driver} (hlinks : RxLinks s)
    (hstep : driverStep nm s .kthread = some t) : RxLinks t ∧ RxChange s .kthread t := by
  simp only [driverStep] at hstep
  split at hstep
  · rename_i vif pc slots hthread
    obtain rfl := Option.some.inj hstep
    cases kthreadStep_cases hthread with
    | work _ _ => exact ⟨hlinks.of_eq rfl rfl rfl, .awake id rfl Kthread.noConfusion⟩
    | sleep hpc hrx htx =>
        exact ⟨hlinks.of_eq rfl rfl rfl, .slept rfl hpc hrx htx ⟨rfl, rfl, rfl, rfl⟩ rfl⟩
    | txsync _ _ => exact ⟨hlinks.of_eq rfl rfl rfl, .awake id rfl Kthread.noConfusion⟩
    | skipTx _ _ => exact ⟨hlinks.of_eq rfl rfl rfl, .awake id rfl Kthread.noConfusion⟩
    | clearTx _ => exact ⟨hlinks.of_eq rfl rfl rfl, .awake id rfl Kthread.noConfusion⟩
    | notifyTx _ =>
        obtain ⟨harmed, _, hkring, hcarrier, hirq⟩ := irqNotifyTx_rx s.hostView
        refine ⟨hlinks.of_eq rfl hcarrier hirq,
          .awake (fun hdrained => ?_) harmed Kthread.noConfusion⟩
        change (irqNotifyTx s.hostView).rxKring.ring.cur =
          (irqNotifyTx s.hostView).rxKring.ring.tail
        rw [hkring]
        exact hdrained
    | rxsync _ _ => exact ⟨hlinks.of_eq rfl rfl rfl, .awake id rfl Kthread.noConfusion⟩
    | skipRx _ _ => exact ⟨hlinks.of_eq rfl rfl rfl, .awake id rfl Kthread.noConfusion⟩
    | armRx hpc =>
        exact ⟨hlinks.of_eq rfl rfl rfl, .armed rfl hpc ⟨rfl, rfl, rfl, rfl⟩ Kthread.noConfusion⟩
  · contradiction

theorem rxChange_of_step {nm : NetmapApi} {s t : Driver} {e : DriverEvent}
    (hlinks : RxLinks s) (hack : AckArrives s e) (hstep : driverStep nm s e = some t) :
    RxLinks t ∧ RxChange s e t := by
  cases e with
  | attach =>
      simp only [driverStep] at hstep
      split at hstep
      · contradiction
      · obtain rfl := Option.some.inj hstep
        exact ⟨hlinks.of_eq rfl rfl rfl,
          .aware id rfl (Or.inr (Bool.or_true _))⟩
  | xmit mem buf len =>
      simp only [driverStep, Option.ite_none_right_eq_some, Option.some.injEq] at hstep
      obtain ⟨_, rfl⟩ := hstep
      obtain ⟨hring, hirq, hkick⟩ := xmit_rx nm s.np.naPriv mem buf len
      exact ⟨hlinks.of_eq rfl rfl rfl,
        .same ⟨congrArg NetmapRing.cur hring, congrArg NetmapRing.tail hring, hkick,
          congrArg (fun evtchn => s.vif.rxEvtchn.pending || EventChannel.pending evtchn)
            hirq⟩ rfl id⟩
  | txInterrupt =>
      simp only [driverStep, Option.ite_none_right_eq_some, Option.some.injEq] at hstep
      obtain ⟨_, rfl⟩ := hstep
      rw [netfrontTxInterrupt_of_carrier hlinks.carrierOk]
      exact ⟨hlinks.of_eq rfl rfl rfl,
        .same ⟨rfl, rfl, rfl, rfl⟩ rfl id⟩
  | rxInterrupt =>
      simp only [driverStep, Option.ite_none_right_eq_some, Option.some.injEq] at hstep
      obtain ⟨_, rfl⟩ := hstep
      have hnp : netfrontRxInterrupt s.np = { s.np with naPriv := { s.np.naPriv with
          stat := { s.np.naPriv.stat with
            hostNeedRxkick := true, guestNeedRxkick := false } } } :=
        if_pos hlinks.carrierOk
      rw [hnp]
      exact ⟨hlinks.of_eq rfl rfl rfl,
        .aware id rfl (Or.inl rfl)⟩
  | rxsync head cur flags => exact rxChange_rxsync hlinks hstep
  | txKick =>
      simp only [driverStep, Option.ite_none_right_eq_some, Option.some.injEq] at hstep
      obtain ⟨_, rfl⟩ := hstep
      obtain ⟨harmed, hevtchn, hcarrier, hirq⟩ := irqsched_rx s.vif s.pc true
      exact ⟨hlinks.of_eq rfl hcarrier hirq,
        .same ⟨rfl, rfl, rfl, congrArg (fun evtchn => EventChannel.pending evtchn ||
          s.np.naPriv.rxIrq.pending) hevtchn⟩ harmed (irqsched_pc s.vif s.pc true)⟩
  | rxKick =>
      simp only [driverStep, Option.ite_none_right_eq_some, Option.some.injEq] at hstep
      obtain ⟨_, rfl⟩ := hstep
      have hscheduled : xenvifNetmapIrqsched s.vif s.pc false = (s.vif, wakeUp s.pc, 0) := by
        have hattached : s.vif.naBdg = true := hack
        simp [xenvifNetmapIrqsched, hlinks.hostCarrierOk, hattached]
      rw [hscheduled]
      exact ⟨hlinks.of_eq rfl rfl rfl,
        .awake id rfl (wakeUp_ne_asleep s.pc)⟩
  | deliver k slot bufs tryget => exact rxChange_deliver hlinks hstep
  | kthread => exact rxChange_kthread hlinks hstep
  | bridge naBdg =>
      obtain rfl := Option.some.inj hstep
      exact ⟨hlinks.of_eq rfl rfl rfl,
        .same ⟨rfl, rfl, rfl, rfl⟩ rfl id⟩

structure RxAlert (s : Driver) : Prop where
  links : RxLinks s
  aware : s.pc = .asleep → s.vif.guestNeedRxkick = false → GuestAware s

theorem rxAlert_start {s : Driver} (hstart : DriverStart s) : RxAlert s := by
  refine ⟨⟨hstart.carrierOk, hstart.hostCarrierOk, hstart.rxIrq_ne⟩, fun _ hnot => ?_⟩
  rw [← hstart.reg_eq] at hnot
  contradiction

theorem rxAlert_step (nm : NetmapApi) (s : Driver) (e : DriverEvent) (t : Driver)
    (halert : RxAlert s) (hack : AckArrives s e) (hstep : driverStep nm s e = some t) :
    RxAlert t := by
  obtain ⟨hlinks, hchange⟩ := rxChange_of_step halert.links hack hstep
  refine ⟨hlinks, fun hasleep hnot => ?_⟩
  cases hchange with
  | same hsame harmed hpc =>
      exact hsame.guestAware.mpr (halert.aware (hpc hasleep) (harmed ▸ hnot))
  | aware _ _ haware => exact haware
  | awake _ _ hpc => exact absurd hasleep hpc
  | told _ haware => exact haware
  | more hbefore _ haware hpc => exact haware.mpr (halert.aware (hpc ▸ hasleep) hbefore)
  | armed _ _ _ hpc => exact absurd hasleep hpc
  | slept _ _ hrx _ _ harmed =>
      -- the thread sleeps only when the flag is armed
      rw [harmed] at hnot
      simp [rxWorkTodo, hnot] at hrx

theorem noLostWakeup_step {nm : NetmapApi} {s t : Driver} {e : DriverEvent}
    (halert : RxAlert s) (hno : NoLostWakeup s) (hack : AckArrives s e)
    (hsleeps : SleepsAware s e) (hstep : driverStep nm s e = some t) : NoLostWakeup t := by
  obtain ⟨_, hchange⟩ := rxChange_of_step halert.links hack hstep
  intro hleft
  by_cases hasleep : t.pc = .asleep
  · refine Or.inl ?_
    cases hchange with
    | same hsame _ hpc =>
        refine hsame.guestAware.mpr ((hno fun hdrained => hleft ?_).resolve_right ?_)
        · exact hsame.drained.mpr hdrained
        · exact not_not_intro (hpc hasleep)
    | aware _ _ haware => exact haware
    | awake _ _ hpc => exact absurd hasleep hpc
    | told _ haware => exact haware
    | more hbefore _ haware hpc => exact haware.mpr (halert.aware (hpc ▸ hasleep) hbefore)
    | armed _ _ _ hpc => exact absurd hasleep hpc
    | slept he hbefore hrx htx hsame _ =>
        subst he
        rcases hsleeps hbefore hrx htx with hdrained | haware
        · exact absurd (hsame.drained.mpr hdrained) hleft
        · exact hsame.guestAware.mpr haware
  · exact Or.inr hasleep

theorem sleepsAware_of_losesNoWakeup {nm : NetmapApi} {s : Driver} {e : DriverEvent}
    (hloses : LosesNoWakeup nm s e) : SleepsAware s e := by
  cases e with
  | kthread =>
      intro hpc hrx htx
      by_cases hleft : Drained s
      · exact Or.inl hleft
      · refine Or.inr ?_
        have hrx' : rxWorkTodo s.hostView = false := hrx
        have htx' : txWorkTodo s.hostView = false := htx
        have hstep : driverStep nm s .kthread = some
            { s.afterHost s.hostView with
              pc := .asleep
              seen := if s.pc = .txBranch ∧ txWorkTodo s.vif = true then s.published
                else s.seen } := by
          simp [driverStep, hpc, kthreadStep, hrx', htx']
        exact (hloses _ hstep hleft).resolve_right (not_not_intro rfl)
  | _ => trivial

/-- While the flag is armed there is nothing in the ring, if it is armed over a drained
ring only. -/
theorem drained_step {nm : NetmapApi} {s t : Driver} {e : DriverEvent} (halert : RxAlert s)
    (hdrained : s.vif.guestNeedRxkick = true → Drained s) (hack : AckArrives s e)
    (harms : ArmsDrained s e) (hstep : driverStep nm s e = some t) :
    t.vif.guestNeedRxkick = true → Drained t := by
  obtain ⟨_, hchange⟩ := rxChange_of_step halert.links hack hstep
  intro hon
  cases hchange with
  | same hsame harmed _ => exact hsame.drained.mpr (hdrained (harmed ▸ hon))
  | aware hkeeps harmed _ => exact hkeeps (hdrained (harmed ▸ hon))
  | awake hkeeps harmed _ => exact hkeeps (hdrained (harmed ▸ hon))
  | told harmed _ =>
      rw [harmed] at hon
      contradiction
  | more _ harmed _ _ =>
      rw [harmed] at hon
      contradiction
  | armed he hbefore hsame _ =>
      subst he
      exact hsame.drained.mpr (harms hbefore)
  | slept _ _ _ _ hsame harmed => exact hsame.drained.mpr (hdrained (harmed ▸ hon))

/-- No wake-up is lost in the runs whose thread arms the flag over a drained ring. In
general none is lost as long as the thread does not go to sleep over packets of which the
guest is not aware. -/
theorem rx_no_lost_wakeup (nm : NetmapApi) {s : Driver} (hstart : DriverStart s)
    {es : List DriverEvent} (hack : Along (driverStep nm) AckArrives s es) :
    (Along (driverStep nm) ArmsDrained s es →
      ∀ t, run (driverStep nm) s es = some t → NoLostWakeup t) ∧
    (Along (driverStep nm) (LosesNoWakeup nm) s es ↔
      Along (driverStep nm) SleepsAware s es) := by
  have hempty : Drained s := hstart.empty
  have hno : NoLostWakeup s := fun hleft => absurd hempty hleft
  constructor
  · intro harms t hrun
    refine (invariant_of_along (I := fun u => RxAlert u ∧
      (u.vif.guestNeedRxkick = true → Drained u) ∧ NoLostWakeup u) ?_
      ⟨rxAlert_start hstart, fun _ => hempty, hno⟩ (hack.and harms) hrun).2.2
    rintro u e v ⟨halert, hdrained, hnone⟩ ⟨hackStep, harmsStep⟩ hstep
    refine ⟨rxAlert_step nm u e v halert hackStep hstep,
      drained_step halert hdrained hackStep harmsStep hstep,
      noLostWakeup_step halert hnone hackStep ?_ hstep⟩
    cases e with
    | kthread =>
        intro _ hrx _
        refine Or.inl (hdrained ?_)
        simpa [rxWorkTodo] using hrx
    | _ => trivial
  · constructor
    · intro hloses
      exact Along.mono (I := fun _ => True) (fun _ _ _ _ _ _ => trivial)
        (fun _ _ _ hlosesStep => sleepsAware_of_losesNoWakeup hlosesStep) trivial hloses
    · intro hsleeps
      refine Along.mono (G := fun u e => AckArrives u e ∧ SleepsAware u e)
        (I := fun u => RxAlert u ∧ NoLostWakeup u) ?_ ?_ ⟨rxAlert_start hstart, hno⟩
        (hack.and hsleeps)
      · rintro u e v ⟨halert, hnone⟩ ⟨hackStep, hsleepsStep⟩ hstep
        exact ⟨rxAlert_step nm u e v halert hackStep hstep,
          noLostWakeup_step halert hnone hackStep hsleepsStep hstep⟩
      · rintro u e ⟨halert, hnone⟩ ⟨hackStep, hsleepsStep⟩ v hstep
        exact noLostWakeup_step halert hnone hackStep hsleepsStep hstep

def wakeupRun : List DriverEvent :=
  [.deliver 1 (fun _ => ⟨0, 1, 0, 0⟩) (fun _ => 0) false, .rxInterrupt, .rxsync 0 0 0,
    .rxKick, .kthread, .kthread, .kthread, .kthread, .kthread]

theorem rx_no_lost_wakeup_one_packet :
    ∃ t, run (driverStep netmapHeaders) (freshDriver 4) wakeupRun = some t ∧
      NoLostWakeup t := by
  obtain ⟨t, hrun⟩ := Option.isSome_iff_exists.mp
    (show (run (driverStep netmapHeaders) (freshDriver 4) wakeupRun).isSome = true by decide)
  exact ⟨t, hrun, (rx_no_lost_wakeup netmapHeaders (freshDriver_start 4) (by decide)).1
    (by decide) t hrun⟩

/-- A second packet comes after the import of the first and before the flag is armed. -/
def forgottenRun : List DriverEvent :=
  [.deliver 1 (fun _ => ⟨0, 1, 0, 0⟩) (fun _ => 0) false, .rxInterrupt, .rxsync 0 0 0,
    .deliver 1 (fun _ => ⟨0, 1, 0, 0⟩) (fun _ => 0) false, .rxKick,
    .kthread, .kthread, .kthread, .kthread, .kthread]

theorem rx_no_lost_wakeup_fails :
    ¬ ∀ s, DriverStart s → ∀ es, Along (driverStep netmapHeaders) AckArrives s es →
      ∀ t, run (driverStep netmapHeaders) s es = some t → NoLostWakeup t := by
  intro halways
  have hforgotten : (run (driverStep netmapHeaders) (freshDriver 4) forgottenRun).any
      (fun t : Driver => decide (¬ NoLostWakeup t)) = true := by
    decide
  obtain ⟨t, hrun, hbad⟩ := (Option.any_eq_true _ _).mp hforgotten
  exact of_decide_eq_true hbad
    (halways (freshDriver 4) (freshDriver_start 4) forgottenRun (by decide) t hrun)

end XenNet.ReceiveWakeup
