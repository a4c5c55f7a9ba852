import XenNet.NetmapReference
import XenNet.TransitionSystem
import XenNet.NetbackModel

namespace XenNet.NetbackReceive

open XenNet.CyclicIndex
open XenNet.TransitionSystem
open XenNet.NetmapKernel
open XenNet.NetmapReference
open XenNet.ReleasedSlots
open XenNet.NetbackModel

/-- The last two fields record the slots that were filled and released; no step looks at them. -/
structure RxPort where
  vif : Xenvif
  filled : List Nat
  released : List Nat

inductive RxPortEvent where
  | guestWrite (head : Nat)
  | deliver (k : Nat)
  | notify (ringNr : Nat) (tx : Txrx) (tryget : Bool)
  | rxsync
  | carrier (up : Bool)

namespace RxPort

def kring (s : RxPort) : NetmapKring :=
  s.vif.rxKring

def pending (s : RxPort) : Nat :=
  distance s.kring.nkrNumSlots s.kring.nrHwcur s.kring.nrHwtail

def afterSync (s : RxPort) (vif : Xenvif) : RxPort :=
  { s with
    vif := vif
    released := s.released ++ span s.kring.nkrNumSlots s.kring.nrHwcur
      (distance s.kring.nkrNumSlots s.kring.nrHwcur vif.rxKring.nrHwcur) }

end RxPort

def guestWriteHead (kring : NetmapKring) (head : Nat) : NetmapKring :=
  { kring with ring := { kring.ring with head := head } }

def rxPortStep (nm : NetmapApi) (s : RxPort) : RxPortEvent → Option RxPort
  | .guestWrite head =>
      some { s with vif := { s.vif with rxKring := guestWriteHead s.kring head } }
  | .deliver k =>
      if s.pending + k < s.kring.nkrNumSlots then
        some
          { s with
            vif := { s.vif with rxKring := { s.kring with
              nrHwtail := advance s.kring.nkrNumSlots s.kring.nrHwtail k } }
            filled := s.filled ++ span s.kring.nkrNumSlots s.kring.nrHwtail k }
      else none
  | .notify ringNr tx tryget =>
      match xenvifNotify nm s.vif ringNr tx tryget with
      | some (vif, _) => some (s.afterSync vif)
      | none => none
  | .rxsync =>
      match xenvifNetmapRxsync nm s.vif.portCarrierOk s.kring with
      | some (kring, _) => some (s.afterSync { s.vif with rxKring := kring })
      | none => none
  | .carrier up => some { s with vif := { s.vif with portCarrierOk := up } }

/-- The slots released so far and then those that hold a packet are the slots filled so
far, in ring order: no slot is released twice or before it was filled. -/
def ReleasedOnce (s : RxPort) : Prop :=
  s.filled = s.released ++ span s.kring.nkrNumSlots s.kring.nrHwcur s.pending

structure RxPortWellFormed (s : RxPort) : Prop where
  hwcur_lt : s.kring.nrHwcur < s.kring.nkrNumSlots
  hwtail_lt : s.kring.nrHwtail < s.kring.nkrNumSlots

structure RxPortStart (s : RxPort) : Prop where
  wellFormed : RxPortWellFormed s
  released_eq : s.released = []
  filled_eq : s.filled = span s.kring.nkrNumSlots s.kring.nrHwcur s.pending

def freshRxPort (n : Nat) : RxPort where
  vif := freshXenvif n
  filled := []
  released := []

theorem freshRxPort_start {n : Nat} (hn : 0 < n) : RxPortStart (freshRxPort n) := by
  refine ⟨⟨hn, hn⟩, rfl, ?_⟩
  change [] = span n 0 (distance n 0 0)
  rw [distance_self hn, span_zero]

/-- Whether an event calls `xenvif_netmap_rxsync`. -/
def syncs (s : RxPort) : RxPortEvent → Bool
  | .notify ringNr tx tryget => !notifyIgnored s.vif ringNr tx tryget
  | .rxsync => true
  | _ => false

/-- A call leaves `nr_hwcur` between its old value and `nr_hwtail`, so that no slot is
added to those that hold a packet. -/
def StaysInside (nm : NetmapApi) (s : RxPort) (e : RxPortEvent) : Prop :=
  syncs s e = true →
    ∃ t, rxPortStep nm s e = some t ∧ t.kring.nrHwtail = s.kring.nrHwtail ∧
      distance s.kring.nkrNumSlots s.kring.nrHwcur t.kring.nrHwcur ≤ s.pending ∧
      t.pending ≤ s.pending

/-- The condition on a step: a call with the carrier up finds a head beyond the ring, or
one that lies between `nr_hwcur` and `nr_hwtail`. -/
def HeadInside (s : RxPort) (e : RxPortEvent) : Prop :=
  syncs s e = true → s.vif.portCarrierOk = true →
    s.kring.ring.head < s.kring.nkrNumSlots →
      distance s.kring.nkrNumSlots s.kring.nrHwcur s.kring.ring.head ≤ s.pending

instance (s : RxPort) (e : RxPortEvent) : Decidable (HeadInside s e) :=
  inferInstanceAs (Decidable (_ → _ → _ → _))

theorem xenvifNetmapRxsync_of_lt (nm : NetmapApi) {kring : NetmapKring}
    (hcur : kring.nrHwcur < kring.nkrNumSlots) (hhead : kring.ring.head < kring.nkrNumSlots) :
    xenvifNetmapRxsync nm true kring =
      some (nm.nmRxsyncFinalize { kring with
        nrHwcur := kring.ring.head
        ring := releasedRing nm kring.nkrNumSlots kring.nrHwcur kring.ring.head kring.ring },
          0) := by
  have hin : ¬ kring.nkrNumSlots - 1 < kring.ring.head := by omega
  have hloop := releaseLoop_eq nm hhead kring.nkrNumSlots kring.nrHwcur kring.ring hcur
    (distance_lt (Nat.zero_lt_of_lt hhead) _ _)
  simp [xenvifNetmapRxsync, hin, hloop]

theorem xenvifNetmapRxsync_of_le (nm : NetmapApi) {kring : NetmapKring}
    (hcur : kring.nrHwcur < kring.nkrNumSlots) (hhead : kring.nkrNumSlots ≤ kring.ring.head) :
    xenvifNetmapRxsync nm true kring = some ((nm.netmapRingReinit kring).1, 0) := by
  have hout : kring.nkrNumSlots - 1 < kring.ring.head := by omega
  simp only [xenvifNetmapRxsync, hout]
  rfl

theorem xenvifNetmapRxsync_spec (nm : NetmapApi) (carrierOk : Bool) {kring : NetmapKring}
    (hcur : kring.nrHwcur < kring.nkrNumSlots) :
    ∃ kring', xenvifNetmapRxsync nm carrierOk kring = some (kring', 0) ∧
      kring'.nkrNumSlots = kring.nkrNumSlots ∧ kring'.nrHwtail = kring.nrHwtail ∧
      kring'.nrHwcur =
        if carrierOk = true ∧ kring.ring.head < kring.nkrNumSlots then kring.ring.head
        else kring.nrHwcur := by
  cases carrierOk with
  | false => exact ⟨kring, by simp [xenvifNetmapRxsync], rfl, rfl, by simp⟩
  | true =>
      rcases Nat.lt_or_ge kring.ring.head kring.nkrNumSlots with hhead | hhead
      · have hkeeps := nm.nmRxsyncFinalize_keeps { kring with
          nrHwcur := kring.ring.head
          ring := releasedRing nm kring.nkrNumSlots kring.nrHwcur kring.ring.head kring.ring }
        refine ⟨_, xenvifNetmapRxsync_of_lt nm hcur hhead, hkeeps.nkrNumSlots,
          hkeeps.nrHwtail, ?_⟩
        rw [hkeeps.nrHwcur, if_pos ⟨rfl, hhead⟩]
      · refine ⟨_, xenvifNetmapRxsync_of_le nm hcur hhead, nm.netmapRingReinit_nkrNumSlots kring,
          nm.netmapRingReinit_nrHwtail kring, ?_⟩
        rw [nm.netmapRingReinit_nrHwcur, if_neg fun hin => Nat.not_lt_of_le hhead hin.2]

/-- A call with the carrier up passes the slots from `nr_hwcur` up to the head, each once, and
changes nothing but `nr_hwcur` and the flag of these slots. A head outside the ring leaves
the positions as they are. -/
theorem rxsync_release_exact (nm : NetmapApi) {kring : NetmapKring}
    (hcur : kring.nrHwcur < kring.nkrNumSlots) :
    (kring.ring.head < kring.nkrNumSlots →
      (∀ fuel, distance kring.nkrNumSlots kring.nrHwcur kring.ring.head < fuel →
        releaseRounds nm kring.ring.head (kring.nkrNumSlots - 1) fuel kring.nrHwcur 0 kring.ring =
          some (distance kring.nkrNumSlots kring.nrHwcur kring.ring.head,
            releasedRing nm kring.nkrNumSlots kring.nrHwcur kring.ring.head kring.ring)) ∧
      ∃ kring', xenvifNetmapRxsync nm true kring = some (kring', 0) ∧
        kring'.nrHwcur = kring.ring.head ∧ kring'.nrHwtail = kring.nrHwtail ∧
        ∀ i, kring'.ring.slot i =
          if i < kring.nkrNumSlots ∧
              Within kring.nkrNumSlots kring.nrHwcur kring.ring.head i then
            { kring.ring.slot i with
              flags := (kring.ring.slot i).flags &&& ~~~nm.nsBufChanged }
          else kring.ring.slot i) ∧
    (kring.nkrNumSlots ≤ kring.ring.head →
      ∃ kring', xenvifNetmapRxsync nm true kring = some (kring', 0) ∧
        kring'.nrHwcur = kring.nrHwcur ∧ kring'.nrHwtail = kring.nrHwtail) := by
  refine ⟨fun hhead => ⟨fun fuel hfuel => ?_, ?_⟩, fun hhead => ?_⟩
  · rw [releaseRounds_eq nm hhead fuel kring.nrHwcur 0 kring.ring hcur hfuel, Nat.zero_add]
  · have hkeeps := nm.nmRxsyncFinalize_keeps { kring with
      nrHwcur := kring.ring.head
      ring := releasedRing nm kring.nkrNumSlots kring.nrHwcur kring.ring.head kring.ring }
    refine ⟨_, xenvifNetmapRxsync_of_lt nm hcur hhead, hkeeps.nrHwcur, hkeeps.nrHwtail,
      fun i => ?_⟩
    rw [hkeeps.slot]
    rfl
  · exact ⟨_, xenvifNetmapRxsync_of_le nm hcur hhead, nm.netmapRingReinit_nrHwcur kring,
      nm.netmapRingReinit_nrHwtail kring⟩

theorem rxsync_release_exact_wrapped :
    let kring : NetmapKring :=
      { (freshRxPort 4).kring with
        nrHwcur := 3
        ring := { (freshRxPort 4).kring.ring with head := 1 } }
    ∃ kring', xenvifNetmapRxsync netmapHeaders true kring = some (kring', 0) ∧
      kring'.nrHwcur = 1 ∧ distance 4 3 1 = 2 := by
  intro kring
  obtain ⟨kring', hsync, hcur, _⟩ :=
    ((rxsync_release_exact netmapHeaders
      (show kring.nrHwcur < kring.nkrNumSlots by decide)).1 (by decide)).2
  exact ⟨kring', hsync, hcur, by decide⟩

theorem rxPortStep_syncs (nm : NetmapApi) {s : RxPort} {e : RxPortEvent}
    (hcur : s.kring.nrHwcur < s.kring.nkrNumSlots) (hsyncs : syncs s e = true) :
    ∃ vif, rxPortStep nm s e = some (s.afterSync vif) ∧
      vif.rxKring.nkrNumSlots = s.kring.nkrNumSlots ∧
      vif.rxKring.nrHwtail = s.kring.nrHwtail ∧
      vif.rxKring.nrHwcur =
        if s.vif.portCarrierOk = true ∧ s.kring.ring.head < s.kring.nkrNumSlots then
          s.kring.ring.head
        else s.kring.nrHwcur := by
  obtain ⟨kring, hsync, hkring⟩ := xenvifNetmapRxsync_spec nm s.vif.portCarrierOk hcur
  cases e with
  | notify ringNr tx tryget =>
      have hheard : notifyIgnored s.vif ringNr tx tryget = false := by
        simpa [syncs] using hsyncs
      refine ⟨notifyGuestRx { s.vif with rxKring := kring }, ?_, by simpa using hkring⟩
      simp only [rxPortStep, xenvifNotify, hheard, Bool.false_eq_true, if_false]
      rw [show s.vif.rxKring = s.kring from rfl, hsync]
  | rxsync => exact ⟨{ s.vif with rxKring := kring }, by simp only [rxPortStep, hsync], hkring⟩
  | guestWrite head => simp [syncs] at hsyncs
  | deliver k => simp [syncs] at hsyncs
  | carrier up => simp [syncs] at hsyncs

theorem rxPortStep_not_syncs (nm : NetmapApi) {s t : RxPort} {e : RxPortEvent}
    (hwf : RxPortWellFormed s) (hsyncs : syncs s e = false)
    (hstep : rxPortStep nm s e = some t) :
    t.kring.nkrNumSlots = s.kring.nkrNumSlots ∧ t.kring.nrHwcur = s.kring.nrHwcur ∧
      t.released = s.released ∧ ∃ k, s.pending + k < s.kring.nkrNumSlots ∧
        t.kring.nrHwtail = advance s.kring.nkrNumSlots s.kring.nrHwtail k ∧
        t.filled = s.filled ++ span s.kring.nkrNumSlots s.kring.nrHwtail k := by
  obtain ⟨hcur, htail⟩ := hwf
  have hnone : s.pending + 0 < s.kring.nkrNumSlots :=
    distance_lt (Nat.zero_lt_of_lt hcur) _ _
  have hsame : s.kring.nrHwtail = advance s.kring.nkrNumSlots s.kring.nrHwtail 0 :=
    (advance_zero htail).symm
  have hnothing : s.filled = s.filled ++ span s.kring.nkrNumSlots s.kring.nrHwtail 0 := by
    simp
  cases e with
  | guestWrite head =>
      rw [← Option.some.inj hstep]
      exact ⟨rfl, rfl, rfl, 0, hnone, hsame, hnothing⟩
  | deliver k =>
      simp only [rxPortStep, Option.ite_none_right_eq_some, Option.some.injEq] at hstep
      obtain ⟨hroom, rfl⟩ := hstep
      exact ⟨rfl, rfl, rfl, k, hroom, rfl, rfl⟩
  | notify ringNr tx tryget =>
      have hignored : notifyIgnored s.vif ringNr tx tryget = true := by
        simpa [syncs] using hsyncs
      simp only [rxPortStep, xenvifNotify, hignored, if_true, Option.some.injEq] at hstep
      rw [← hstep]
      refine ⟨rfl, rfl, ?_, 0, hnone, hsame, hnothing⟩
      change s.released ++ span s.kring.nkrNumSlots s.kring.nrHwcur
        (distance s.kring.nkrNumSlots s.kring.nrHwcur s.kring.nrHwcur) = s.released
      rw [distance_self hcur]
      simp
  | rxsync => simp [syncs] at hsyncs
  | carrier up =>
      rw [← Option.some.inj hstep]
      exact ⟨rfl, rfl, rfl, 0, hnone, hsame, hnothing⟩

theorem rxPortWellFormed_step (nm : NetmapApi) (s : RxPort) (e : RxPortEvent) (t : RxPort)
    (hwf : RxPortWellFormed s) (hstep : rxPortStep nm s e = some t) :
    RxPortWellFormed t := by
  have hn := Nat.zero_lt_of_lt hwf.hwcur_lt
  cases hsyncs : syncs s e with
  | true =>
      obtain ⟨vif, hvif, hslots, htail, hcur⟩ := rxPortStep_syncs nm hwf.hwcur_lt hsyncs
      rw [hstep] at hvif
      obtain rfl := Option.some.inj hvif
      constructor
      · change vif.rxKring.nrHwcur < vif.rxKring.nkrNumSlots
        rw [hcur, hslots]
        split_ifs with hhead
        · exact hhead.2
        · exact hwf.hwcur_lt
      · change vif.rxKring.nrHwtail < vif.rxKring.nkrNumSlots
        rw [htail, hslots]
        exact hwf.hwtail_lt
  | false =>
      obtain ⟨hslots, hcur, _, k, _, htail, _⟩ := rxPortStep_not_syncs nm hwf hsyncs hstep
      constructor
      · rw [hslots, hcur]
        exact hwf.hwcur_lt
      · rw [hslots, htail]
        exact advance_lt hn _ _

theorem staysInside_iff (nm : NetmapApi) (s : RxPort) (e : RxPortEvent)
    (hwf : RxPortWellFormed s) : StaysInside nm s e ↔ HeadInside s e := by
  obtain ⟨hcur, htail⟩ := hwf
  cases hsyncs : syncs s e with
  | false => simp [StaysInside, HeadInside, hsyncs]
  | true =>
      obtain ⟨vif, hvif, hslots, htailEq, hcurEq⟩ := rxPortStep_syncs nm hcur hsyncs
      constructor
      · intro hinside _ hcarrier hhead
        obtain ⟨t, ht, _, hle, _⟩ := hinside hsyncs
        rw [hvif] at ht
        obtain rfl := Option.some.inj ht
        change distance _ _ vif.rxKring.nrHwcur ≤ _ at hle
        rwa [hcurEq, if_pos ⟨hcarrier, hhead⟩] at hle
      · intro hhead _
        have hle : distance s.kring.nkrNumSlots s.kring.nrHwcur vif.rxKring.nrHwcur ≤
            s.pending := by
          rw [hcurEq]
          split_ifs with htaken
          · exact hhead hsyncs htaken.1 htaken.2
          · rw [distance_self hcur]
            exact Nat.zero_le _
        have hcurLt : vif.rxKring.nrHwcur < s.kring.nkrNumSlots := by
          rw [hcurEq]
          split_ifs with htaken
          · exact htaken.2
          · exact hcur
        have hsplit := distance_add_distance hcur hcurLt htail hle
        refine ⟨_, hvif, htailEq, hle, ?_⟩
        change distance vif.rxKring.nkrNumSlots vif.rxKring.nrHwcur vif.rxKring.nrHwtail ≤
          distance s.kring.nkrNumSlots s.kring.nrHwcur s.kring.nrHwtail
        rw [hslots, htailEq]
        omega

theorem ReleasedOnce.step {nm : NetmapApi} {s t : RxPort} {e : RxPortEvent}
    (hwf : RxPortWellFormed s) (honce : ReleasedOnce s) (hhead : HeadInside s e)
    (hstep : rxPortStep nm s e = some t) : ReleasedOnce t := by
  have hn := Nat.zero_lt_of_lt hwf.hwcur_lt
  unfold ReleasedOnce RxPort.pending at *
  cases hsyncs : syncs s e with
  | true =>
      obtain ⟨u, hu, htail, hle, _⟩ := (staysInside_iff nm s e hwf).mpr hhead hsyncs
      rw [hstep] at hu
      obtain rfl := Option.some.inj hu
      obtain ⟨vif, hvif, hslots, _, _⟩ := rxPortStep_syncs nm hwf.hwcur_lt hsyncs
      rw [hstep] at hvif
      obtain rfl := Option.some.inj hvif
      have hwf' := rxPortWellFormed_step nm s e _ hwf hstep
      have hslots' : (s.afterSync vif).kring.nkrNumSlots = s.kring.nkrNumSlots := hslots
      have hcur' := hwf'.hwcur_lt
      rw [hslots'] at hcur' ⊢
      have hsplit := distance_add_distance hwf.hwcur_lt hcur' hwf.hwtail_lt hle
      change s.filled = s.released ++ span s.kring.nkrNumSlots s.kring.nrHwcur
        (distance s.kring.nkrNumSlots s.kring.nrHwcur (s.afterSync vif).kring.nrHwcur) ++ _
      rw [honce, htail, ← hsplit, span_add, advance_distance hwf.hwcur_lt hcur',
        List.append_assoc]
  | false =>
      obtain ⟨hslots, hcur, hreleased, k, hroom, htail, hfilled⟩ :=
        rxPortStep_not_syncs nm hwf hsyncs hstep
      rw [hfilled, honce, hreleased, hslots, hcur, htail,
        distance_advance_right hwf.hwcur_lt hwf.hwtail_lt hroom, span_add,
        advance_distance hwf.hwcur_lt hwf.hwtail_lt, List.append_assoc]

/-- The kring stays in order in exactly the runs whose calls find a head between
`nr_hwcur` and `nr_hwtail`, and there every slot is filled before it is released. -/
theorem rx_kring_confined (nm : NetmapApi) {s : RxPort} (hstart : RxPortStart s)
    (es : List RxPortEvent) :
    (Along (rxPortStep nm) (StaysInside nm) s es ↔ Along (rxPortStep nm) HeadInside s es) ∧
      (Along (rxPortStep nm) HeadInside s es →
        ∀ t, run (rxPortStep nm) s es = some t → RxPortWellFormed t ∧ ReleasedOnce t) := by
  constructor
  · exact along_iff (I := RxPortWellFormed)
      (fun t e u hwf _ hstep => rxPortWellFormed_step nm t e u hwf hstep)
      (staysInside_iff nm) hstart.wellFormed
  · intro hheads t hrun
    have honce : ReleasedOnce s := by
      unfold ReleasedOnce
      rw [hstart.filled_eq, hstart.released_eq]
      rfl
    exact invariant_of_along (I := fun t => RxPortWellFormed t ∧ ReleasedOnce t)
      (fun t e u ht hhead hstep => ⟨rxPortWellFormed_step nm t e u ht.1 hstep,
        ht.2.step ht.1 hhead hstep⟩)
      ⟨hstart.wellFormed, honce⟩ hheads hrun

theorem rx_kring_confined_two_slots :
    Along (rxPortStep netmapHeaders) (StaysInside netmapHeaders) (freshRxPort 4)
      [.deliver 2, .guestWrite 1, .notify 0 .nrRx false, .guestWrite 9, .rxsync] :=
  (rx_kring_confined netmapHeaders (freshRxPort_start (by decide)) _).1.mpr (by decide)

/-- One slot is filled, and the guest writes a head two slots behind it. -/
theorem rx_kring_confined_fails :
    ¬ ∀ s, RxPortStart s → ∀ es,
      Along (rxPortStep netmapHeaders) (StaysInside netmapHeaders) s es := by
  intro halways
  have hgrows : (run (rxPortStep netmapHeaders) (freshRxPort 4)
      [.deliver 1, .guestWrite 3]).any (fun s : RxPort =>
        (rxPortStep netmapHeaders s (.notify 0 .nrRx false)).all (fun t : RxPort =>
          decide (s.pending < t.pending)) &&
        syncs s (.notify 0 .nrRx false)) = true := by
    decide
  obtain ⟨s, hrun, hbad⟩ := (Option.any_eq_true _ _).mp hgrows
  rw [Bool.and_eq_true] at hbad
  have hinside := (halways (freshRxPort 4) (freshRxPort_start (by decide))
    ([.deliver 1, .guestWrite 3] ++ [.notify 0 .nrRx false])).last hrun hbad.2
  obtain ⟨t, ht, _, _, hle⟩ := hinside
  rw [ht] at hbad
  simp only [Option.all_some, decide_eq_true_eq] at hbad
  omega

end XenNet.NetbackReceive
