import XenNet.NetmapReference
import XenNet.TransitionSystem
import XenNet.NetbackModel

namespace XenNet.NetbackForward

open XenNet.CyclicIndex
open XenNet.TransitionSystem
open XenNet.NetmapKernel
open XenNet.NetmapReference
open XenNet.NetbackModel

/-- The last two fields record what went to the bridge and what `nr_hwcur` has passed; no step
looks at them. -/
structure TxPort where
  vif : Xenvif
  pc : Kthread
  forwarded : List Nat
  passed : List Nat

/-- The guest publishes, an interrupt of either kind arrives, the bridge notifies the
port, the thread takes its next step, a carrier or the bridge port changes. -/
inductive TxPortEvent where
  | guestPublish (head cur : Nat)
  | irqsched (tx : Bool)
  | notify (ringNr : Nat) (tx : Txrx) (tryget : Bool)
  | kthread
  | link (carrierOk portCarrierOk naBdg : Bool)

def guestPublish (kring : NetmapKring) (head cur : Nat) : NetmapKring :=
  { kring with ring := { kring.ring with head := head, cur := cur } }

namespace TxPort

def kring (s : TxPort) : NetmapKring :=
  s.vif.txKring

def afterKthread (s : TxPort) (vif : Xenvif) (pc : Kthread) (slots : List Nat) : TxPort where
  vif := vif
  pc := pc
  forwarded := s.forwarded ++ slots
  passed := s.passed ++ span s.kring.nkrNumSlots s.kring.nrHwcur
    (distance s.kring.nkrNumSlots s.kring.nrHwcur vif.txKring.nrHwcur)

end TxPort

def txPortStep (nm : NetmapApi) (s : TxPort) : TxPortEvent → Option TxPort
  | .guestPublish head cur =>
      some { s with vif := { s.vif with txKring := guestPublish s.kring head cur } }
  | .irqsched tx =>
      let scheduled := xenvifNetmapIrqsched s.vif s.pc tx
      some { s with vif := scheduled.1, pc := scheduled.2.1 }
  | .notify ringNr tx tryget =>
      match xenvifNotify nm s.vif ringNr tx tryget with
      | some (vif, _) => some { s with vif := vif }
      | none => none
  | .kthread =>
      match kthreadStep nm s.vif s.pc with
      | some (vif, pc, slots) => some (s.afterKthread vif pc slots)
      | none => none
  | .link carrierOk portCarrierOk naBdg =>
      some { s with vif := { s.vif with
        carrierOk := carrierOk, portCarrierOk := portCarrierOk, naBdg := naBdg } }

structure TxPortWellFormed (s : TxPort) : Prop where
  hwcur_lt : s.kring.nrHwcur < s.kring.nkrNumSlots
  rhead_lt : s.kring.rhead < s.kring.nkrNumSlots

structure TxPortStart (s : TxPort) : Prop where
  wellFormed : TxPortWellFormed s
  forwarded_eq : s.forwarded = []
  passed_eq : s.passed = []

def freshTxPort (n : Nat) : TxPort where
  vif := freshXenvif n
  pc := .checking
  forwarded := []
  passed := []

theorem freshTxPort_start {n : Nat} (hn : 0 < n) : TxPortStart (freshTxPort n) :=
  ⟨⟨hn, hn⟩, rfl, rfl⟩

/-- The condition on a step: a receive branch that has work finds the shared head of the
transmit ring at `nr_hwcur`, if the check of receive heads lets it through at all. -/
def NothingPublished (nm : NetmapApi) (s : TxPort) : TxPortEvent → Prop
  | .kthread =>
      s.pc = .rxBranch → rxWorkTodo s.vif = true →
        (nm.nmRxsyncPrologue s.kring).2 < s.kring.nkrNumSlots →
          s.kring.ring.head = s.kring.nrHwcur
  | _ => True

instance (nm : NetmapApi) (s : TxPort) : (e : TxPortEvent) → Decidable (NothingPublished nm s e)
  | .kthread => inferInstanceAs (Decidable (_ → _ → _ → _))
  | .guestPublish _ _ => isTrue trivial
  | .irqsched _ => isTrue trivial
  | .notify _ _ _ => isTrue trivial
  | .link _ _ _ => isTrue trivial

theorem irqTxsync_spec (nm : NetmapApi) {vif : Xenvif}
    (hcur : vif.txKring.nrHwcur < vif.txKring.nkrNumSlots)
    (hrhead : vif.txKring.rhead < vif.txKring.nkrNumSlots) :
    (irqTxsync nm vif).1.txKring.nkrNumSlots = vif.txKring.nkrNumSlots ∧
      (irqTxsync nm vif).1.txKring.rhead < vif.txKring.nkrNumSlots ∧
      ∃ sent, sent < vif.txKring.nkrNumSlots ∧
        (irqTxsync nm vif).2 =
          span vif.txKring.nkrNumSlots vif.txKring.nrHwcur sent ∧
        (irqTxsync nm vif).1.txKring.nrHwcur =
          advance vif.txKring.nkrNumSlots vif.txKring.nrHwcur sent := by
  have hkeeps := nm.nmTxsyncPrologue_keeps vif.txKring
  have hhead : (nm.nmTxsyncPrologue vif.txKring).1.rhead < vif.txKring.nkrNumSlots := by
    rcases nm.nmTxsyncPrologue_rhead vif.txKring with ⟨hlt, hsame, hnew⟩ | ⟨_, hold⟩
    · rw [hnew, ← hsame]
      exact hlt
    · rw [hold]
      exact hrhead
  obtain ⟨sent, hsent, hslots, hcur', hrhead'⟩ :=
    nm.netmapVpTxsync_forwards (nm.nmTxsyncPrologue vif.txKring).1
      (by rw [hkeeps.nrHwcur, hkeeps.nkrNumSlots]; exact hcur)
      (by rw [hkeeps.nkrNumSlots]; exact hhead)
  rw [hkeeps.nkrNumSlots, hkeeps.nrHwcur] at hsent hslots hcur'
  refine ⟨(nm.netmapVpTxsync_nkrNumSlots _).trans hkeeps.nkrNumSlots, ?_, sent, ?_, hslots,
    hcur'⟩
  · change (nm.netmapVpTxsync _).1.rhead < _
    rw [hrhead']
    exact hhead
  · exact Nat.lt_of_le_of_lt hsent (distance_lt (Nat.zero_lt_of_lt hcur) _ _)

theorem irqRxsync_spec (nm : NetmapApi) {vif : Xenvif}
    (hcur : vif.txKring.nrHwcur < vif.txKring.nkrNumSlots)
    (hrhead : vif.txKring.rhead < vif.txKring.nkrNumSlots) :
    (irqRxsync nm vif).txKring.nkrNumSlots = vif.txKring.nkrNumSlots ∧
      (irqRxsync nm vif).txKring.rhead < vif.txKring.nkrNumSlots ∧
      (irqRxsync nm vif).txKring.nrHwcur < vif.txKring.nkrNumSlots ∧
      (irqRxsync nm vif).txKring.nrHwcur =
        if (nm.nmRxsyncPrologue vif.txKring).2 < vif.txKring.nkrNumSlots then
          vif.txKring.ring.head
        else vif.txKring.nrHwcur := by
  have hcur' := nm.netmapVpRxsync_nrHwcur vif.txKring
  refine ⟨nm.netmapVpRxsync_nkrNumSlots _, nm.netmapVpRxsync_rhead_lt _ hcur hrhead, ?_, ?_⟩
  · change (nm.netmapVpRxsync vif.txKring).nrHwcur < _
    rw [hcur']
    split_ifs with haccepted
    · exact haccepted
    · exact hcur
  · change (nm.netmapVpRxsync vif.txKring).nrHwcur = _
    rw [hcur']
    split_ifs with haccepted
    · exact (nm.nmRxsyncPrologue_sound vif.txKring haccepted).1
    · rfl

/-- What one step adds to the two records. -/
structure StepRecord (nm : NetmapApi) (s t : TxPort) (e : TxPortEvent)
    (sent moved : List Nat) : Prop where
  wellFormed : TxPortWellFormed t
  nkrNumSlots : t.kring.nkrNumSlots = s.kring.nkrNumSlots
  forwarded : t.forwarded = s.forwarded ++ sent
  passed : t.passed = s.passed ++ moved
  moved_eq : moved = span s.kring.nkrNumSlots s.kring.nrHwcur
    (distance s.kring.nkrNumSlots s.kring.nrHwcur t.kring.nrHwcur)
  sent_eq : NothingPublished nm s e → sent = moved
  lost : ¬ NothingPublished nm s e → sent = [] ∧ moved ≠ []

theorem StepRecord.of_same {nm : NetmapApi} {s t : TxPort} {e : TxPortEvent}
    (hwf : TxPortWellFormed s) (hslots : t.kring.nkrNumSlots = s.kring.nkrNumSlots)
    (hcur : t.kring.nrHwcur = s.kring.nrHwcur) (hrhead : t.kring.rhead = s.kring.rhead)
    (hforwarded : t.forwarded = s.forwarded) (hpassed : t.passed = s.passed)
    (hnothing : NothingPublished nm s e) : StepRecord nm s t e [] [] := by
  refine ⟨⟨?_, ?_⟩, hslots, by simpa using hforwarded, by simpa using hpassed, ?_,
    fun _ => rfl, fun hpublished => absurd hnothing hpublished⟩
  · rw [hslots, hcur]
    exact hwf.hwcur_lt
  · rw [hslots, hrhead]
    exact hwf.rhead_lt
  · rw [hcur, distance_self hwf.hwcur_lt, span_zero]

theorem StepRecord.of_kthread {nm : NetmapApi} {s : TxPort} {vif : Xenvif} {pc : Kthread}
    (hwf : TxPortWellFormed s) (hkring : vif.txKring = s.kring)
    (hnothing : NothingPublished nm s .kthread) :
    StepRecord nm s (s.afterKthread vif pc []) .kthread [] [] := by
  refine StepRecord.of_same hwf ?_ ?_ ?_ ?_ ?_ hnothing
  · exact congrArg NetmapKring.nkrNumSlots hkring
  · exact congrArg NetmapKring.nrHwcur hkring
  · exact congrArg NetmapKring.rhead hkring
  · simp [TxPort.afterKthread]
  · simp [TxPort.afterKthread, hkring, distance_self hwf.hwcur_lt]

theorem stepRecord_txsync {nm : NetmapApi} {s : TxPort} (hwf : TxPortWellFormed s)
    (hpc : s.pc = .txBranch) :
    StepRecord nm s (s.afterKthread (irqTxsync nm s.vif).1 .txSynced (irqTxsync nm s.vif).2)
      .kthread (irqTxsync nm s.vif).2 (irqTxsync nm s.vif).2 := by
  obtain ⟨hslots, hrhead, sent, hsent, hsentEq, hcur⟩ :=
    irqTxsync_spec nm hwf.hwcur_lt hwf.rhead_lt
  have hmoved : (irqTxsync nm s.vif).2 = span s.kring.nkrNumSlots s.kring.nrHwcur
      (distance s.kring.nkrNumSlots s.kring.nrHwcur
        (irqTxsync nm s.vif).1.txKring.nrHwcur) := by
    rw [hcur, hsentEq]
    exact congrArg (span _ _) (distance_advance hwf.hwcur_lt hsent).symm
  have hnothing : NothingPublished nm s .kthread := fun hrx => by
    rw [hpc] at hrx
    contradiction
  refine ⟨⟨?_, ?_⟩, hslots, rfl, ?_, hmoved, fun _ => rfl,
    fun hpublished => absurd hnothing hpublished⟩
  · change (irqTxsync nm s.vif).1.txKring.nrHwcur < (irqTxsync nm s.vif).1.txKring.nkrNumSlots
    rw [hcur, hslots]
    exact advance_lt (Nat.zero_lt_of_lt hwf.hwcur_lt) _ _
  · change (irqTxsync nm s.vif).1.txKring.rhead < (irqTxsync nm s.vif).1.txKring.nkrNumSlots
    rw [hslots]
    exact hrhead
  · change s.passed ++ _ = _
    rw [← hmoved]

theorem stepRecord_rxsync (nm : NetmapApi) {s : TxPort} (hwf : TxPortWellFormed s)
    (hpc : s.pc = .rxBranch) (htodo : rxWorkTodo s.vif = true) :
    ∃ moved, StepRecord nm s (s.afterKthread (irqRxsync nm s.vif) .rxSynced []) .kthread []
      moved := by
  obtain ⟨hslots, hrhead, hcurLt, hcur⟩ := irqRxsync_spec nm hwf.hwcur_lt hwf.rhead_lt
  have hn := Nat.zero_lt_of_lt hwf.hwcur_lt
  refine ⟨_, ⟨?_, ?_⟩, hslots, by simp [TxPort.afterKthread], rfl, rfl, ?_, ?_⟩
  · change (irqRxsync nm s.vif).txKring.nrHwcur < (irqRxsync nm s.vif).txKring.nkrNumSlots
    rw [hslots]
    exact hcurLt
  · change (irqRxsync nm s.vif).txKring.rhead < (irqRxsync nm s.vif).txKring.nkrNumSlots
    rw [hslots]
    exact hrhead
  · intro hnothing
    have hstays : (irqRxsync nm s.vif).txKring.nrHwcur = s.kring.nrHwcur := by
      rw [hcur]
      split_ifs with haccepted
      · exact hnothing hpc htodo haccepted
      · rfl
    rw [hstays, distance_self hwf.hwcur_lt, span_zero]
  · intro hpublished
    refine ⟨rfl, fun hempty => hpublished fun _ _ haccepted => ?_⟩
    have hlength := congrArg List.length hempty
    rw [length_span, List.length_nil, hcur.trans (if_pos haccepted)] at hlength
    have hheadLt : s.kring.ring.head < s.kring.nkrNumSlots := by
      rw [← (nm.nmRxsyncPrologue_sound s.kring haccepted).1]
      exact haccepted
    exact ((distance_eq_zero_iff hwf.hwcur_lt hheadLt).mp hlength).symm

theorem nothingPublished_of_ne (nm : NetmapApi) {s : TxPort} (hpc : s.pc ≠ .rxBranch) :
    NothingPublished nm s .kthread :=
  fun hrx => absurd hrx hpc

theorem txPortStep_record {nm : NetmapApi} {s t : TxPort} {e : TxPortEvent}
    (hwf : TxPortWellFormed s) (hstep : txPortStep nm s e = some t) :
    ∃ sent moved, StepRecord nm s t e sent moved := by
  cases e with
  | guestPublish head cur =>
      rw [← Option.some.inj hstep]
      exact ⟨[], [], StepRecord.of_same hwf rfl rfl rfl rfl rfl trivial⟩
  | irqsched tx =>
      have hkring : t.kring = s.kring := by
        rw [← Option.some.inj hstep]
        change (xenvifNetmapIrqsched s.vif s.pc tx).1.txKring = s.vif.txKring
        unfold xenvifNetmapIrqsched
        cases tx <;> split_ifs <;> rfl
      refine ⟨[], [], StepRecord.of_same hwf (by rw [hkring]) (by rw [hkring])
        (by rw [hkring]) ?_ ?_ trivial⟩ <;> rw [← Option.some.inj hstep]
  | notify ringNr tx tryget =>
      simp only [txPortStep] at hstep
      split at hstep
      · rename_i vif error hnotify
        obtain rfl := Option.some.inj hstep
        have hkring : vif.txKring = s.kring := by
          rcases xenvifNotify_cases hnotify with rfl | ⟨kring, rfl⟩
          · rfl
          · exact notifyGuestRx_txKring _
        refine ⟨[], [], StepRecord.of_same hwf ?_ ?_ ?_ rfl rfl trivial⟩
        · exact congrArg NetmapKring.nkrNumSlots hkring
        · exact congrArg NetmapKring.nrHwcur hkring
        · exact congrArg NetmapKring.rhead hkring
      · contradiction
  | kthread =>
      simp only [txPortStep] at hstep
      split at hstep
      · rename_i vif pc slots hthread
        obtain rfl := Option.some.inj hstep
        have hnothing {q : Kthread} (hpc : s.pc = q) (hne : q ≠ .rxBranch) :=
          nothingPublished_of_ne nm (s := s) (hpc ▸ hne)
        cases kthreadStep_cases hthread with
        | work hpc _ =>
            exact ⟨[], [], StepRecord.of_kthread hwf rfl (hnothing hpc (by decide))⟩
        | sleep hpc _ _ =>
            exact ⟨[], [], StepRecord.of_kthread hwf rfl (hnothing hpc (by decide))⟩
        | txsync hpc _ => exact ⟨_, _, stepRecord_txsync hwf hpc⟩
        | skipTx hpc _ =>
            exact ⟨[], [], StepRecord.of_kthread hwf rfl (hnothing hpc (by decide))⟩
        | clearTx hpc =>
            exact ⟨[], [], StepRecord.of_kthread hwf rfl (hnothing hpc (by decide))⟩
        | notifyTx hpc =>
            exact ⟨[], [], StepRecord.of_kthread hwf (irqNotifyTx_txKring s.vif)
              (hnothing hpc (by decide))⟩
        | rxsync hpc htodo =>
            obtain ⟨moved, hrecord⟩ := stepRecord_rxsync nm hwf hpc htodo
            exact ⟨[], moved, hrecord⟩
        | skipRx _ hnone =>
            exact ⟨[], [], StepRecord.of_kthread hwf rfl
              fun _ htodo => absurd (hnone.symm.trans htodo) Bool.false_ne_true⟩
        | armRx hpc =>
            exact ⟨[], [], StepRecord.of_kthread hwf rfl (hnothing hpc (by decide))⟩
      · contradiction
  | link carrierOk portCarrierOk naBdg =>
      rw [← Option.some.inj hstep]
      exact ⟨[], [], StepRecord.of_same hwf rfl rfl rfl rfl rfl trivial⟩

theorem passed_in_order {nm : NetmapApi} {s t : TxPort} {es : List TxPortEvent}
    (hwf : TxPortWellFormed s) (hrun : run (txPortStep nm) s es = some t) :
    ∃ k, t.passed = s.passed ++ span s.kring.nkrNumSlots s.kring.nrHwcur k ∧
      t.kring.nrHwcur = advance s.kring.nkrNumSlots s.kring.nrHwcur k := by
  induction es generalizing s with
  | nil =>
      obtain rfl : s = t := by simpa using hrun
      exact ⟨0, by simp, (advance_zero hwf.hwcur_lt).symm⟩
  | cons e es ih =>
      obtain ⟨u, hstep, hrest⟩ := run_cons_eq_some.mp hrun
      obtain ⟨sent, moved, hrecord⟩ := txPortStep_record hwf hstep
      obtain ⟨k, hpassed, hcur⟩ := ih hrecord.wellFormed hrest
      have hcurLt := hrecord.wellFormed.hwcur_lt
      rw [hrecord.nkrNumSlots] at hcurLt hpassed hcur
      have hjoin := advance_distance hwf.hwcur_lt hcurLt
      refine ⟨distance s.kring.nkrNumSlots s.kring.nrHwcur u.kring.nrHwcur + k, ?_, ?_⟩
      · rw [hpassed, hrecord.passed, hrecord.moved_eq, span_add, hjoin, List.append_assoc]
      · rw [hcur, ← advance_advance, hjoin]

/-- A slot that was passed without being sent is missing from then on. -/
theorem nothingPublished_of_forwarded {nm : NetmapApi} {s t : TxPort}
    {es : List TxPortEvent} (hwf : TxPortWellFormed s)
    (hle : s.forwarded.length ≤ s.passed.length)
    (hrun : run (txPortStep nm) s es = some t)
    (hall : t.forwarded.length = t.passed.length) :
    s.forwarded.length = s.passed.length ∧ Along (txPortStep nm) (NothingPublished nm) s es := by
  induction es generalizing s with
  | nil =>
      obtain rfl : s = t := by simpa using hrun
      exact ⟨hall, trivial⟩
  | cons e es ih =>
      obtain ⟨u, hstep, hrest⟩ := run_cons_eq_some.mp hrun
      obtain ⟨sent, moved, hrecord⟩ := txPortStep_record hwf hstep
      have hforwarded := congrArg List.length hrecord.forwarded
      have hpassed := congrArg List.length hrecord.passed
      rw [List.length_append] at hforwarded hpassed
      have hshort : sent.length ≤ moved.length := by
        by_cases hnothing : NothingPublished nm s e
        · exact Nat.le_of_eq (congrArg List.length (hrecord.sent_eq hnothing))
        · rw [(hrecord.lost hnothing).1]
          exact Nat.zero_le _
      obtain ⟨hlength, hrestNothing⟩ := ih hrecord.wellFormed (by omega) hrest
      have hnothing : NothingPublished nm s e := by
        by_contra hpublished
        obtain ⟨hsent, hmoved⟩ := hrecord.lost hpublished
        have hpos := List.length_pos_of_ne_nil hmoved
        rw [hsent, List.length_nil] at hforwarded
        omega
      refine ⟨?_, hnothing, fun u' hu' => ?_⟩
      · rw [hrecord.sent_eq hnothing] at hforwarded
        omega
      · rw [hstep] at hu'
        exact Option.some.inj hu' ▸ hrestNothing

/-- The slots of the ring are passed in order, and they are sent to the bridge in exactly
the runs whose receive branches find nothing published. -/
theorem tx_forwarding (nm : NetmapApi) {s t : TxPort} (hstart : TxPortStart s)
    {es : List TxPortEvent} (hrun : run (txPortStep nm) s es = some t) :
    (t.forwarded = t.passed ↔ Along (txPortStep nm) (NothingPublished nm) s es) ∧
      ∃ k, t.passed = span s.kring.nkrNumSlots s.kring.nrHwcur k ∧
        t.kring.nrHwcur = advance s.kring.nkrNumSlots s.kring.nrHwcur k := by
  obtain ⟨hwf, hforwarded, hpassed⟩ := hstart
  refine ⟨⟨fun hall => ?_, fun hnothing => ?_⟩, ?_⟩
  · refine (nothingPublished_of_forwarded hwf ?_ hrun (congrArg List.length hall)).2
    exact Nat.le_of_eq (congrArg List.length (hforwarded.trans hpassed.symm))
  · refine (invariant_of_along (I := fun u => TxPortWellFormed u ∧ u.forwarded = u.passed)
      ?_ ⟨hwf, hforwarded.trans hpassed.symm⟩ hnothing hrun).2
    rintro u e v ⟨hu, hsame⟩ he hstep
    obtain ⟨sent, moved, hrecord⟩ := txPortStep_record hu hstep
    exact ⟨hrecord.wellFormed,
      by rw [hrecord.forwarded, hrecord.passed, hsame, hrecord.sent_eq he]⟩
  · obtain ⟨k, hk, hcur⟩ := passed_in_order hwf hrun
    exact ⟨k, by simpa [hpassed] using hk, hcur⟩

def kickedRun : List TxPortEvent :=
  [.guestPublish 2 2, .irqsched true, .kthread, .kthread, .kthread, .kthread, .kthread]

theorem tx_forwarding_two_slots :
    ∃ t, run (txPortStep netmapHeaders) (freshTxPort 4) kickedRun = some t ∧
      t.passed = [0, 1] ∧ t.forwarded = t.passed := by
  obtain ⟨t, hrun, hpassed⟩ := (Option.any_eq_true _ _).mp
    (show (run (txPortStep netmapHeaders) (freshTxPort 4) kickedRun).any
      (fun t : TxPort => decide (t.passed = [0, 1])) = true by decide)
  exact ⟨t, hrun, of_decide_eq_true hpassed,
    (tx_forwarding netmapHeaders (freshTxPort_start (by decide)) hrun).1.mpr (by decide)⟩

/-- The thread serves a receive event, and between its two branches the guest publishes a
slot. -/
def skippedRun : List TxPortEvent :=
  [.notify 0 .nrRx false, .irqsched false, .kthread, .kthread, .guestPublish 1 1, .kthread]

theorem tx_forwarding_fails :
    ¬ ∀ s, TxPortStart s → ∀ es t,
      run (txPortStep netmapHeaders) s es = some t → t.forwarded = t.passed := by
  intro halways
  have hskipped : (run (txPortStep netmapHeaders) (freshTxPort 4) skippedRun).any
      (fun t : TxPort => decide (t.passed = [0]) && decide (t.forwarded = [])) = true := by
    decide
  obtain ⟨t, hrun, hbad⟩ := (Option.any_eq_true _ _).mp hskipped
  simp only [Bool.and_eq_true, decide_eq_true_eq] at hbad
  have hsame := halways (freshTxPort 4) (freshTxPort_start (by decide)) skippedRun t hrun
  rw [hbad.1, hbad.2] at hsame
  contradiction

end XenNet.NetbackForward
