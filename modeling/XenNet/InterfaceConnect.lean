import XenNet.InterfaceBooks

namespace XenNet.InterfaceConnect

open XenNet.InterruptLines
open XenNet.NetbackConnect (HandlerFn BindAnswer KthreadAnswer)
open XenNet.NetbackInterface
open XenNet.InterfaceBooks

variable {s : Interface} {txEvtchn rxEvtchn : UInt32} {call : ConnectAnswers}

/-- One event channel for both directions is bound. -/
def BindsOne (txEvtchn rxEvtchn : UInt32) (call : ConnectAnswers) : Prop :=
  txEvtchn = rxEvtchn ∧ 0 ≤ call.txBind.err

instance (txEvtchn rxEvtchn : UInt32) (call : ConnectAnswers) :
    Decidable (BindsOne txEvtchn rxEvtchn call) :=
  inferInstanceAs (Decidable (_ ∧ _))

/-- An event channel cannot be bound. -/
def BindFails (txEvtchn rxEvtchn : UInt32) (call : ConnectAnswers) : Prop :=
  call.txBind.err < 0 ∨ txEvtchn ≠ rxEvtchn ∧ call.rxBind.err < 0

instance (txEvtchn rxEvtchn : UInt32) (call : ConnectAnswers) :
    Decidable (BindFails txEvtchn rxEvtchn call) :=
  inferInstanceAs (Decidable (_ ∨ _ ∧ _))

theorem BindsOne.not_bindFails (hone : BindsOne txEvtchn rxEvtchn call) :
    ¬BindFails txEvtchn rxEvtchn call := by
  rintro (hfail | ⟨hne, -⟩)
  · exact absurd hfail (Int.not_lt.mpr hone.2)
  · exact hne hone.1

def withIrqs (vif : Xenvif) (txIrq rxIrq : Nat) : Xenvif :=
  { vif with txIrq := txIrq, rxIrq := rxIrq }

/-- The interface with its lines bound and disabled. -/
def boundIrqs (s : Interface) (txIrq rxIrq : Nat) : Interface :=
  ⟨{ s.kernel with lines := linesOf (withIrqs s.vif txIrq rxIrq) 1 }, withIrqs s.vif txIrq rxIrq⟩

theorem boundIrqs_one {irq : Nat} (hirq : irq ≠ 0) :
    boundIrqs s irq irq =
      ⟨{ s.kernel with lines := withLine unbound irq .xenvifInterrupt 1 },
        withIrqs s.vif irq irq⟩ := by
  have hlines : linesOf (withIrqs s.vif irq irq) 1 = withLine unbound irq .xenvifInterrupt 1 :=
    linesOf_one hirq rfl
  rw [boundIrqs, hlines]

theorem boundIrqs_two {txIrq rxIrq : Nat} (hirq : txIrq ≠ 0) (hne : txIrq ≠ rxIrq) :
    boundIrqs s txIrq rxIrq =
      ⟨{ s.kernel with
          lines := twoLines txIrq rxIrq .xenvifTxInterrupt .xenvifRxInterrupt 1 },
        withIrqs s.vif txIrq rxIrq⟩ := by
  have hlines : linesOf (withIrqs s.vif txIrq rxIrq) 1 =
      twoLines txIrq rxIrq .xenvifTxInterrupt .xenvifRxInterrupt 1 :=
    linesOf_two hirq hne
  rw [boundIrqs, hlines]

/-- Two event channels have the interrupts that their bindings returned. -/
def SplitIrqs (txEvtchn rxEvtchn : UInt32) (call : ConnectAnswers) (txIrq rxIrq : Nat) : Prop :=
  txEvtchn ≠ rxEvtchn → txIrq = call.txBind.err.toNat ∧ rxIrq = call.rxBind.err.toNat

theorem bindEvtchns_cases (txEvtchn rxEvtchn : UInt32) (call : ConnectAnswers)
    (hlines : s.kernel.lines = unbound) (htx : s.vif.txIrq = 0) :
    (∃ err, err < 0 ∧ BindFails txEvtchn rxEvtchn call ∧
      bindEvtchns s txEvtchn rxEvtchn call = .error (errUnmap s, err)) ∨
    (∃ txIrq rxIrq, txIrq ≠ 0 ∧ rxIrq ≠ 0 ∧ ¬BindFails txEvtchn rxEvtchn call ∧
      (txIrq = rxIrq ↔ BindsOne txEvtchn rxEvtchn call) ∧
      SplitIrqs txEvtchn rxEvtchn call txIrq rxIrq ∧
      bindEvtchns s txEvtchn rxEvtchn call = .ok (boundIrqs s txIrq rxIrq)) := by
  have hfree : ∀ irq, s.kernel.lines irq = none := fun irq => by rw [hlines, unbound_apply]
  unfold bindEvtchns
  simp only
  by_cases hone : txEvtchn = rxEvtchn
  · rw [if_pos hone]
    by_cases hfail : call.txBind.err < 0
    · rw [if_pos hfail]
      exact Or.inl ⟨_, hfail, Or.inl hfail, rfl⟩
    · have hne := BindAnswer.toNat_ne_zero hfail
      rw [if_neg hfail, bindDisabled_of_free (hfree _), hlines]
      have hbinds : BindsOne txEvtchn rxEvtchn call := ⟨hone, Int.not_lt.mp hfail⟩
      refine Or.inr ⟨_, _, hne, hne, hbinds.not_bindFails, iff_of_true rfl hbinds,
        fun hsplit => absurd hone hsplit, ?_⟩
      exact congrArg Except.ok (boundIrqs_one hne).symm
  · have hnot : ¬BindsOne txEvtchn rxEvtchn call := fun hbinds => hone hbinds.1
    rw [if_neg hone]
    by_cases hfail : call.txBind.err < 0
    · rw [if_pos hfail]
      exact Or.inl ⟨_, hfail, Or.inl hfail, rfl⟩
    · have hneTx := BindAnswer.toNat_ne_zero hfail
      rw [if_neg hfail, bindDisabled_of_free (hfree _), hlines]
      by_cases hfailRx : call.rxBind.err < 0
      · rw [if_pos hfailRx]
        refine Or.inl ⟨_, hfailRx, Or.inr ⟨hone, hfailRx⟩, ?_⟩
        rw [errTxUnbind, Kernel.unbindFromIrqhandler, unbind_withLine rfl, request_some]
        simp only
        rw [← hlines, ← htx]
      · have hneRx := BindAnswer.toNat_ne_zero hfailRx
        have hne : call.txBind.err.toNat ≠ call.rxBind.err.toNat := by
          have hirq := call.ne_irq.resolve_right hfailRx
          omega
        rw [if_neg hfailRx, bindDisabled_of_free (withLine_of_ne hne.symm)]
        have hnone : ¬BindFails txEvtchn rxEvtchn call :=
          not_or.mpr ⟨hfail, fun hboth => hfailRx hboth.2⟩
        refine Or.inr ⟨_, _, hneTx, hneRx, hnone, iff_of_false hne hnot, fun _ => ⟨rfl, rfl⟩, ?_⟩
        exact congrArg Except.ok (boundIrqs_two hneTx hne).symm

theorem errRxUnbind_eq {depth : Nat} (htx : s.vif.txIrq ≠ 0)
    (hlines : s.kernel.lines = linesOf s.vif depth) :
    errRxUnbind s =
      errUnmap
        ⟨{ s.kernel with
            lines := unbound
            misuses := s.kernel.misuses + if s.vif.txIrq = s.vif.rxIrq then 1 else 0 },
          withIrqs s.vif 0 0⟩ := by
  unfold errRxUnbind errTxUnbind
  refine congrArg errUnmap (congrArg₂ Interface.mk ?_ rfl)
  rcases eq_or_ne s.vif.txIrq s.vif.rxIrq with heq | hne
  · have hfirst : s.kernel.unbindFromIrqhandler s.vif.rxIrq =
        { s.kernel with lines := unbound } := by
      rw [← heq, Kernel.unbindFromIrqhandler, hlines, linesOf_one htx heq, unbind_withLine rfl,
        request_some]
    simp only [hfirst, if_pos heq]
    rw [Kernel.unbindFromIrqhandler, unbind_of_eq_none rfl, request_none]
  · have hfirst : s.kernel.unbindFromIrqhandler s.vif.rxIrq =
        { s.kernel with lines := withLine unbound s.vif.txIrq .xenvifTxInterrupt depth } := by
      rw [Kernel.unbindFromIrqhandler, hlines, linesOf_two htx hne, twoLines,
        unbind_withLine (withLine_of_ne hne.symm), request_some]
    simp only [hfirst, if_neg hne]
    rw [Kernel.unbindFromIrqhandler, unbind_withLine rfl, request_some]
    rfl

theorem capMtu_eq {vif : Xenvif} (hmax : vif.dev.mtu ≤ 65535 - vlanEthHlen) :
    ∃ mtu, mtu ≤ maxMtu vif ∧ capMtu vif = { vif with dev := { vif.dev with mtu := mtu } } := by
  unfold capMtu
  split
  · rename_i hcap
    have hsg : vif.canSg = false := by
      rw [Bool.and_eq_true, Bool.not_eq_true'] at hcap
      exact hcap.1
    have hle : ethDataLen ≤ maxMtu vif := by
      rw [maxMtu, hsg, if_neg Bool.false_ne_true]
    refine ⟨ethDataLen, hle, ?_⟩
    rw [xenvifChangeMtu, if_neg (Nat.not_lt.mpr hle), Option.getD_some]
  · rename_i hcap
    refine ⟨vif.dev.mtu, ?_, rfl⟩
    unfold maxMtu
    cases hsg : vif.canSg with
    | true => exact hmax
    | false =>
        rw [hsg, Bool.not_false, Bool.true_and, decide_eq_true_iff, Nat.not_lt] at hcap
        exact hcap

theorem books_carrierOn {wanted : Features} (hheld : Holdings s) (htx : s.vif.txIrq ≠ 0)
    (hlines : s.kernel.lines = linesOf s.vif 1) (hnapi : s.vif.napiEnabled = false) :
    Books (carrierOn s wanted) ∧ (carrierOn s wanted).vif.netmap = s.vif.netmap ∧
      (carrierOn s wanted).vif.dev.carrierOk = true ∧
      SameCounts s.kernel (carrierOn s wanted).kernel := by
  obtain ⟨mtu, hmtu, hcap⟩ := capMtu_eq hheld.mtuMax
  unfold carrierOn
  simp only [hcap]
  generalize hnext : setCarrier _ true = t
  have hkernel : t.kernel = s.kernel := by rw [← hnext]; rfl
  have hcounts : SameCounts s.kernel t.kernel := by
    rw [hkernel]
    exact SameCounts.refl _
  have htx' : t.vif.txIrq = s.vif.txIrq := by rw [← hnext]; rfl
  have hnetmap : t.vif.netmap = s.vif.netmap := by rw [← hnext]; rfl
  have hcarrier : t.vif.dev.carrierOk = true := by rw [← hnext]; rfl
  have hlines' : t.kernel.lines = linesOf t.vif 1 := by
    rw [hkernel, hlines, ← hnext]
    rfl
  have hnapi' : t.vif.napiEnabled = false := by
    rw [← hnext]
    exact hnapi
  have hheld' : Holdings t := by
    rw [← hnext]
    exact
      { threads := hheld.threads
        task := hheld.task
        rxIrq := hheld.rxIrq
        carrier := fun _ => htx
        mapped := hheld.mapped
        mtuMax := hmtu.trans (maxMtu_le s.vif)
        mtu := fun _ => hmtu
        features := fun _ => (xenvifFixFeatures_idem s.vif wanted).symm }
  cases hrunning : t.vif.dev.running with
  | true =>
      have hup : isUp t.vif = true := by rw [isUp, hrunning, hcarrier, Bool.and_true]
      have hraised := hheld'.books_raised fun _ => hnapi'
      rw [maskDepth, hup] at hraised
      rw [if_pos rfl, xenvifUp_eq (htx'.trans_ne htx) hlines' fun _ => hnapi']
      exact ⟨hraised, hnetmap, hcarrier, hcounts.moduleRefs, hcounts.copyOps, hcounts.misuses⟩
  | false =>
      have hdown : isUp t.vif = false := by rw [isUp, hrunning, Bool.false_and]
      rw [if_neg Bool.false_ne_true]
      refine ⟨?_, hnetmap, hcarrier, hcounts⟩
      exact
        { toHoldings := hheld'
          lines := by rw [hlines', maskDepth, hdown]; rfl
          napi := by rw [hnapi', hdown, Bool.false_and]
          netmapRings := fun hup => absurd (hup.symm.trans hdown) (by decide) }

theorem carrierOn_irqs (s : Interface) (wanted : Features) :
    (carrierOn s wanted).vif.txIrq = s.vif.txIrq ∧
      (carrierOn s wanted).vif.rxIrq = s.vif.rxIrq := by
  have hup : ∀ s : Interface,
      (xenvifUp s).vif.txIrq = s.vif.txIrq ∧ (xenvifUp s).vif.rxIrq = s.vif.rxIrq := by
    intro s
    unfold xenvifUp
    split
    · exact ⟨rfl, rfl⟩
    · unfold napiSet
      dsimp only
      split <;> exact ⟨rfl, rfl⟩
  have hcap : (capMtu s.vif).txIrq = s.vif.txIrq ∧ (capMtu s.vif).rxIrq = s.vif.rxIrq := by
    unfold capMtu
    split
    · unfold xenvifChangeMtu
      split <;> exact ⟨rfl, rfl⟩
    · exact ⟨rfl, rfl⟩
  unfold carrierOn
  dsimp only
  split
  · exact ⟨(hup _).1.trans hcap.1, (hup _).2.trans hcap.2⟩
  · exact hcap

/-- The calls that unbind the interrupt of a single event channel twice. -/
def UnbindsTwice (netmap : Bool) (txEvtchn rxEvtchn : UInt32) (call : ConnectAnswers) : Prop :=
  (netmap = true ∨ 0 ≤ call.map) ∧ BindsOne txEvtchn rxEvtchn call ∧ call.kthread ≠ .thread

instance (netmap : Bool) (txEvtchn rxEvtchn : UInt32) (call : ConnectAnswers) :
    Decidable (UnbindsTwice netmap txEvtchn rxEvtchn call) :=
  inferInstanceAs (Decidable (_ ∧ _ ∧ _))

def ConnectFails (netmap : Bool) (txEvtchn rxEvtchn : UInt32) (call : ConnectAnswers) : Prop :=
  (netmap = false ∧ call.map < 0) ∨ BindFails txEvtchn rxEvtchn call ∨ call.kthread ≠ .thread

instance (netmap : Bool) (txEvtchn rxEvtchn : UInt32) (call : ConnectAnswers) :
    Decidable (ConnectFails netmap txEvtchn rxEvtchn call) :=
  inferInstanceAs (Decidable ((_ ∧ _) ∨ _ ∨ _))

/-- What a call of `xenvif_connect` leaves of an interface that was not connected. -/
structure ConnectSpec (s : Interface) (txEvtchn rxEvtchn : UInt32) (call : ConnectAnswers)
    (t : Interface) (ret : Int) : Prop where
  books : Books t
  copyOps : t.kernel.copyOps = s.kernel.copyOps
  misuses : t.kernel.misuses =
    s.kernel.misuses + if UnbindsTwice s.vif.netmap txEvtchn rxEvtchn call then 1 else 0
  netmap : t.vif.netmap = s.vif.netmap
  failed : ConnectFails s.vif.netmap txEvtchn rxEvtchn call →
    ret ≠ 0 ∧ t.vif.txIrq = 0 ∧ t.kernel.moduleRefs = s.kernel.moduleRefs - 1
  connected : ¬ConnectFails s.vif.netmap txEvtchn rxEvtchn call →
    ret = 0 ∧ t.vif.dev.carrierOk = true ∧ t.kernel.moduleRefs = s.kernel.moduleRefs
  irqs : ¬ConnectFails s.vif.netmap txEvtchn rxEvtchn call →
    SplitIrqs txEvtchn rxEvtchn call t.vif.txIrq t.vif.rxIrq

/-- What a failed call leaves of an interface that was not connected. -/
def failed (s : Interface) (rxIrq misuses : Nat) : Interface :=
  ⟨{ s.kernel with moduleRefs := s.kernel.moduleRefs - 1, misuses := misuses },
    { s.vif with rxIrq := rxIrq }⟩

theorem disconnected_failed (hdis : Disconnected s) (rxIrq misuses : Nat) :
    Disconnected (failed s rxIrq misuses) where
  lines := by
    have htx : (failed s rxIrq misuses).vif.txIrq = 0 := hdis.txIrq
    rw [linesOf_of_eq_zero htx]
    exact hdis.lines_eq
  threads := hdis.threads
  task := hdis.task
  rxIrq := fun htx => absurd hdis.txIrq htx
  carrier := hdis.carrier
  mapped := hdis.mapped
  mtuMax := hdis.mtuMax
  mtu := hdis.mtu
  features := hdis.features
  napi := hdis.napi
  netmapRings := hdis.netmapRings
  txIrq := hdis.txIrq

theorem errUnmap_eq_failed (hdis : Disconnected s) (mapped : Bool) (rxIrq misuses : Nat) :
    errUnmap
        ⟨{ s.kernel with lines := unbound, misuses := misuses },
          { s.vif with ringsMapped := mapped, txIrq := 0, rxIrq := rxIrq }⟩ =
      failed s rxIrq misuses := by
  unfold errUnmap errConnect failed
  refine congrArg₂ Interface.mk ?_ ?_
  · dsimp only
    rw [hdis.lines_eq]
  · dsimp only
    rw [hdis.txIrq, hdis.ringsMapped_eq]

theorem connectSpec_failed (hdis : Disconnected s) (rxIrq : Nat) {misuses : Nat} {err : Int}
    (herr : err < 0) (hfails : ConnectFails s.vif.netmap txEvtchn rxEvtchn call)
    (hmisuses : misuses = s.kernel.misuses +
      if UnbindsTwice s.vif.netmap txEvtchn rxEvtchn call then 1 else 0) :
    ConnectSpec s txEvtchn rxEvtchn call (failed s rxIrq misuses) err where
  books := (disconnected_failed hdis rxIrq misuses).toBooks
  copyOps := rfl
  misuses := hmisuses
  netmap := rfl
  failed := fun _ => ⟨Int.ne_of_lt herr, hdis.txIrq, rfl⟩
  connected := fun hnot => absurd hfails hnot
  irqs := fun hnot => absurd hfails hnot

/-- The rings are mapped unless they are netmap's. -/
def mappedRings (s : Interface) : Interface :=
  { s with vif := { s.vif with ringsMapped := !s.vif.netmap } }

/-- The thread of the interface is created. -/
def withTask (s : Interface) : Interface :=
  ⟨{ s.kernel with threads := threadFn s.vif :: s.kernel.threads },
    { s.vif with task := some (threadFn s.vif) }⟩

theorem connectSpec_connected (hdis : Disconnected s) {txIrq rxIrq : Nat} (htx : txIrq ≠ 0)
    (hrx : rxIrq ≠ 0) (hthread : call.kthread = .thread)
    (hsplit : SplitIrqs txEvtchn rxEvtchn call txIrq rxIrq)
    (hnone : ¬ConnectFails s.vif.netmap txEvtchn rxEvtchn call) :
    ConnectSpec s txEvtchn rxEvtchn call
      (carrierOn (withTask (boundIrqs (mappedRings s) txIrq rxIrq)) call.wanted) 0 := by
  have hheld : Holdings (withTask (boundIrqs (mappedRings s) txIrq rxIrq)) :=
    { threads := congrArg _ hdis.threads_eq
      task := (if_neg htx).symm
      rxIrq := fun _ => hrx
      carrier := fun _ => htx
      mapped := by
        have htrue : decide (txIrq ≠ 0) = true := decide_eq_true htx
        show (!s.vif.netmap) = (decide (txIrq ≠ 0) && !s.vif.netmap)
        rw [htrue, Bool.true_and]
      mtuMax := hdis.mtuMax
      mtu := hdis.mtu
      features := hdis.features }
  have hnot : ¬UnbindsTwice s.vif.netmap txEvtchn rxEvtchn call := fun htwice => htwice.2.2 hthread
  obtain ⟨hbooks, hnetmap, hcarrier, hcounts⟩ :=
    books_carrierOn hheld htx rfl hdis.napi_eq
  exact
    { books := hbooks
      copyOps := hcounts.copyOps
      misuses := by
        rw [if_neg hnot]
        exact hcounts.misuses
      netmap := hnetmap
      failed := fun hfails => absurd hfails hnone
      connected := fun _ => ⟨rfl, hcarrier, hcounts.moduleRefs⟩
      irqs := fun _ hne => by
        have hirqs := carrierOn_irqs (withTask (boundIrqs (mappedRings s) txIrq rxIrq)) call.wanted
        exact ⟨hirqs.1.trans (hsplit hne).1, hirqs.2.trans (hsplit hne).2⟩ }

theorem connectSpec_errRxUnbind (hdis : Disconnected s) {txIrq rxIrq : Nat} {err : Int}
    (htx : txIrq ≠ 0) (herr : err < 0)
    (hmap : s.vif.netmap = true ∨ 0 ≤ call.map)
    (hone : txIrq = rxIrq ↔ BindsOne txEvtchn rxEvtchn call) (hthread : call.kthread ≠ .thread) :
    ConnectSpec s txEvtchn rxEvtchn call (errRxUnbind (boundIrqs (mappedRings s) txIrq rxIrq))
      err := by
  have hcount : (if txIrq = rxIrq then 1 else 0) =
      if UnbindsTwice s.vif.netmap txEvtchn rxEvtchn call then 1 else 0 := by
    refine if_congr ?_ rfl rfl
    exact hone.trans ⟨fun hbinds => ⟨hmap, hbinds, hthread⟩, fun htwice => htwice.2.1⟩
  have heq : errRxUnbind (boundIrqs (mappedRings s) txIrq rxIrq) =
      failed s 0 (s.kernel.misuses + if txIrq = rxIrq then 1 else 0) := by
    rw [errRxUnbind_eq htx rfl]
    exact errUnmap_eq_failed hdis _ 0 _
  rw [heq]
  exact connectSpec_failed hdis 0 herr (Or.inr (Or.inr hthread)) (by rw [hcount])

/-- What `xenvif_connect` does with an interface that is not connected. -/
theorem xenvifConnect_spec (hdis : Disconnected s) (txEvtchn rxEvtchn : UInt32)
    (call : ConnectAnswers) :
    ∃ t ret, xenvifConnect s txEvtchn rxEvtchn call = .ok (t, ret) ∧
      ConnectSpec s txEvtchn rxEvtchn call t ret := by
  have hnoTask : ¬s.vif.task.isSome := by simp [hdis.task_eq]
  have hmapped : (if s.vif.netmap then s else
      { s with vif := { s.vif with ringsMapped := true } }) = mappedRings s := by
    unfold mappedRings
    obtain ⟨kernel, vif⟩ := s
    cases hnetmap : vif.netmap with
    | false => simp
    | true =>
        have hnot : vif.ringsMapped = false := hdis.ringsMapped_eq
        simp only [if_true, Bool.not_true]
        rw [← hnot]
  unfold xenvifConnect
  rw [if_neg (not_not.mpr hdis.txIrq), if_neg hnoTask]
  by_cases hfail : (!s.vif.netmap && decide (call.map < 0)) = true
  · have hmap : s.vif.netmap = false ∧ call.map < 0 := by simpa using hfail
    have hnot : ¬UnbindsTwice s.vif.netmap txEvtchn rxEvtchn call := by
      rintro ⟨hnetmap | hmap', -⟩
      · exact absurd (hnetmap.symm.trans hmap.1) (by decide)
      · omega
    rw [if_pos hfail]
    refine ⟨_, _, rfl, connectSpec_failed hdis s.vif.rxIrq hmap.2 (Or.inl hmap) ?_⟩
    rw [if_neg hnot, Nat.add_zero]
  · have hmap : s.vif.netmap = true ∨ 0 ≤ call.map := by
      cases hnetmap : s.vif.netmap with
      | true => exact Or.inl rfl
      | false => exact Or.inr (by simpa [hnetmap] using hfail)
    rw [if_neg hfail]
    simp only [hmapped]
    rcases bindEvtchns_cases (s := mappedRings s) txEvtchn rxEvtchn call
        hdis.lines_eq hdis.txIrq with
      ⟨err, herr, hfails, hbind⟩ | ⟨txIrq, rxIrq, htx, hrx, hnone, hone, hsplit, hbind⟩
    · have hnot : ¬UnbindsTwice s.vif.netmap txEvtchn rxEvtchn call :=
        fun htwice => htwice.2.1.not_bindFails hfails
      have heq : errUnmap (mappedRings s) = failed s s.vif.rxIrq s.kernel.misuses := by
        unfold errUnmap errConnect failed mappedRings
        dsimp only
        rw [hdis.ringsMapped_eq]
      rw [hbind, heq]
      refine ⟨_, _, rfl, connectSpec_failed hdis _ herr (Or.inr (Or.inl hfails)) ?_⟩
      rw [if_neg hnot, Nat.add_zero]
    · rw [hbind]
      cases hthread : call.kthread with
      | errPtr errno =>
          refine ⟨_, _, rfl, connectSpec_errRxUnbind hdis htx (by omega) hmap hone ?_⟩
          rw [hthread]
          exact KthreadAnswer.noConfusion
      | thread =>
          refine ⟨_, _, rfl, connectSpec_connected hdis htx hrx hthread hsplit ?_⟩
          rintro (hmap' | hfails | hkthread)
          · rcases hmap with hnetmap | hmap
            · exact absurd (hnetmap.symm.trans hmap'.1) (by decide)
            · exact absurd hmap'.2 (Int.not_lt.mpr hmap)
          · exact hnone hfails
          · exact hkthread hthread

end XenNet.InterfaceConnect
