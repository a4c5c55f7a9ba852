import XenNet.NetmapReference
import XenNet.TransmitSystem

namespace XenNet.TransmitPublication

open XenNet.CyclicIndex
open XenNet.TransitionSystem
open XenNet.NetmapKernel
open XenNet.NetmapReference
open XenNet.NetfrontModel
open XenNet.NetfrontTransmit
open XenNet.TransmitSystem

def AllPublished (s : TxSystem) : Prop :=
  s.ring.cur = s.stat.txcur.toNat ∧ s.ring.head = s.stat.txcur.toNat

/-- What was accepted before a step from `s` to `t` that found the kick flag set is
published after it: the shared indices stand where the next packet went at that time,
or one slot further. -/
def BacklogPublished (s t : TxSystem) : Prop :=
  s.stat.hostNeedTxkick = true → t.ring.head = t.ring.cur ∧
    (t.ring.cur = s.stat.txcur.toNat ∨
      t.ring.cur = (UInt16.ofNat (netmapRingNext s.ring s.stat.txcur.toNat)).toNat)

/-- A call of `netfront_netmap_txsync` with the carrier up strands no packet. -/
def StrandsNothing (nm : NetmapApi) (s : TxSystem) : TxEvent → Prop
  | .txsync user flags =>
      s.np.carrierOk = true → user.rhead < s.kring.nkrNumSlots →
        ∃ t, txStep nm s (.txsync user flags) = some t ∧
          (t.stat.hostNeedTxkick = false ∨ AllPublished t) ∧ BacklogPublished s t
  | _ => True

/-- The condition on a step: a call finds a kick outstanding, or nothing to publish, or
a packet to send and the ring not empty. -/
def KickOrPacket (s : TxSystem) : TxEvent → Prop
  | .txsync user _ =>
      s.np.carrierOk = true → user.rhead < s.kring.nkrNumSlots →
        s.stat.hostNeedTxkick = false ∨ AllPublished s ∨
          s.pending user ≠ 0 ∧ s.ring.cur ≠ s.ring.tail
  | _ => True

instance (s : TxSystem) : Decidable (AllPublished s) :=
  inferInstanceAs (Decidable (_ ∧ _))

instance (s : TxSystem) : (e : TxEvent) → Decidable (KickOrPacket s e)
  | .txsync _ _ => inferInstanceAs (Decidable (_ → _ → _))
  | .txInterrupt => isTrue trivial
  | .host _ _ => isTrue trivial
  | .carrier _ => isTrue trivial

/-- Either no packet was accepted yet, or the first one has published all before it. -/
def FirstPublishes (ni₀ : NetmapInfo) (p₀ p : Nat) (ni : NetmapInfo) : Prop :=
  (ni = ni₀ ∧ p = p₀) ∨
    (ni.stat.hostNeedTxkick = false ∧
      (ni₀.stat.hostNeedTxkick = true →
        ni.txRings.head = ni.txRings.cur ∧ ni.txRings.cur =
          (UInt16.ofNat (netmapRingNext ni₀.txRings ni₀.stat.txcur.toNat)).toNat))

theorem FirstPublishes.acceptTx {ni₀ ni : NetmapInfo} {p₀ p : Nat}
    (mem : Nat → UInt8) (buf len : Nat) (hfirst : FirstPublishes ni₀ p₀ (p + 1) ni) :
    FirstPublishes ni₀ p₀ p (acceptTx ni mem buf len) := by
  refine Or.inr ⟨acceptTx_hostNeedTxkick ni mem buf len, fun hkick => ?_⟩
  rcases hfirst with ⟨rfl, _⟩ | ⟨hnone, hpublished⟩
  · obtain ⟨hcur, hhead⟩ := acceptTx_of_kick ni mem buf len hkick
    rw [hhead, hcur, acceptTx_txcur]
    exact ⟨rfl, rfl⟩
  · obtain ⟨hcur, hhead⟩ := acceptTx_of_no_kick ni mem buf len hnone
    rw [hhead, hcur]
    exact hpublished hkick

theorem strandsNothing_of_kickOrPacket (nm : NetmapApi) (s : TxSystem) (e : TxEvent)
    (hcur : s.kring.nrHwcur < s.kring.nkrNumSlots) (hcond : KickOrPacket s e) :
    StrandsNothing nm s e := by
  cases e with
  | txsync user flags =>
      intro hcarrier hhead
      obtain ⟨t, ht, _, _, _, _, _, houtcome⟩ :=
        txStep_txsync nm flags hcarrier hcur hhead (L := fun _ => True)
          (Q := fun p ni _ => FirstPublishes s.np.naPriv (s.pending user) p ni)
          (fun _ _ _ buf len _ hfirst _ => hfirst.acceptTx user.mem buf len)
          (fun _ _ => trivial) (Or.inl ⟨rfl, rfl⟩)
      refine ⟨t, ht, ?_⟩
      rcases houtcome.holds with ⟨hsame, hp⟩ | ⟨hnone, hpublished⟩
      · have hstat : t.stat = s.stat := congrArg NetmapInfo.stat hsame
        have hring : t.ring = s.ring := congrArg NetmapInfo.txRings hsame
        have hall : t.stat.hostNeedTxkick = false ∨ AllPublished t := by
          unfold AllPublished
          rw [hstat, hring]
          rcases hcond hcarrier hhead with hnone | hall | ⟨hsome, hroom⟩
          · exact Or.inl hnone
          · exact Or.inr hall
          · -- a batch of which nothing was taken ended at an empty ring
            have hleft : t.kring.nrHwcur ≠ user.rhead := by
              intro heq
              rw [heq, distance_self hhead] at hp
              exact hsome hp.symm
            have hempty := houtcome.stopped hleft
            rw [hsame] at hempty
            exact absurd hempty hroom
        refine ⟨hall, fun hkick => ?_⟩
        rcases hall with hnone | ⟨hcurEq, hheadEq⟩
        · rw [hstat, hkick] at hnone
          contradiction
        · refine ⟨hheadEq.trans hcurEq.symm, Or.inl ?_⟩
          rw [hcurEq, hstat]
      · refine ⟨Or.inl hnone, fun hkick => ?_⟩
        obtain ⟨hheadEq, hcurEq⟩ := hpublished hkick
        exact ⟨hheadEq, Or.inr hcurEq⟩
  | txInterrupt => trivial
  | host consume free => trivial
  | carrier up => trivial

theorem kickOrPacket_of_strandsNothing (nm : NetmapApi) (s : TxSystem) (e : TxEvent)
    (hcur : s.kring.nrHwcur < s.kring.nkrNumSlots) (hstrands : StrandsNothing nm s e) :
    KickOrPacket s e := by
  cases e with
  | txsync user flags =>
      intro hcarrier hhead
      obtain ⟨t, ht, hall, _⟩ := hstrands hcarrier hhead
      by_contra hcond
      simp only [not_or, not_and, not_not] at hcond
      obtain ⟨hkick, hbacklog, hnone⟩ := hcond
      -- no packet is accepted, so the call leaves the flags and indices as they are
      obtain ⟨t', ht', _, _, _, _, _, houtcome⟩ :=
        txStep_txsync nm flags hcarrier hcur hhead (L := fun _ => True)
          (Q := fun p ni _ => ni = s.np.naPriv ∧
            (p ≠ 0 → ni.txRings.cur = ni.txRings.tail))
          (fun p ni _ _ _ _ hsame hroom => absurd (hsame.2 (by omega)) hroom)
          (fun _ _ => trivial) ⟨rfl, hnone⟩
      rw [ht] at ht'
      obtain rfl := Option.some.inj ht'
      have hsame := houtcome.holds.1
      have hstat : t.stat = s.stat := congrArg NetmapInfo.stat hsame
      have hring : t.ring = s.ring := congrArg NetmapInfo.txRings hsame
      unfold AllPublished at hall
      rw [hstat, hring] at hall
      rcases hall with hoff | hpublished
      · exact hkick hoff
      · exact hbacklog hpublished
  | txInterrupt => trivial
  | host consume free => trivial
  | carrier up => trivial

/-- No packet is stranded in exactly the runs whose calls find a kick outstanding, or
nothing to publish, or a packet to send. -/
theorem tx_publication (nm : NetmapApi) {s : TxSystem} (hstart : TxStart s)
    (es : List TxEvent) :
    Along (txStep nm) (StrandsNothing nm) s es ↔ Along (txStep nm) KickOrPacket s es := by
  refine (along_iff (I := fun t => t.kring.nrHwcur < t.kring.nkrNumSlots) ?_ ?_
    hstart.hwcur_lt).symm
  · intro t e u hcur _ hstep
    exact txStep_hwcur_lt hcur hstep
  · intro t e hcur
    exact ⟨strandsNothing_of_kickOrPacket nm t e hcur,
      kickOrPacket_of_strandsNothing nm t e hcur⟩

theorem tx_publication_two_batches :
    Along (txStep netmapHeaders) (StrandsNothing netmapHeaders) (freshTx 4)
      [.txsync (sampleUser 1 2) 0, .host 1 1, .txInterrupt, .txsync (sampleUser 1 3) 0] :=
  (tx_publication netmapHeaders (freshTx_start (by decide)) _).mpr (by decide)

/-- Of two packets only the first is published. The interrupt and an empty call leave the
second one behind with no kick outstanding. -/
theorem tx_publication_fails :
    ¬ ∀ s, TxStart s → ∀ es,
      Along (txStep netmapHeaders) (StrandsNothing netmapHeaders) s es := by
  intro halways
  have hstranded : (run (txStep netmapHeaders) (freshTx 4)
      [.txsync (sampleUser 1 2) 0, .host 1 1, .txInterrupt]).any
      (fun t => decide ((sampleUser 1 2).rhead < t.kring.nkrNumSlots) && t.np.carrierOk &&
        (txStep netmapHeaders t (.txsync (sampleUser 1 2) 0)).all (fun u =>
          u.stat.hostNeedTxkick && !decide (AllPublished u))) = true := by
    decide
  obtain ⟨t, hrun, hbad⟩ := (Option.any_eq_true _ _).mp hstranded
  simp only [Bool.and_eq_true, decide_eq_true_eq] at hbad
  obtain ⟨⟨hhead, hcarrier⟩, hafter⟩ := hbad
  have hstrands := (halways (freshTx 4) (freshTx_start (by decide))
    ([.txsync (sampleUser 1 2) 0, .host 1 1, .txInterrupt] ++
      [.txsync (sampleUser 1 2) 0])).last hrun
  obtain ⟨u, hu, hall, _⟩ := hstrands hcarrier hhead
  rw [hu] at hafter
  simp only [Option.all_some, Bool.and_eq_true, Bool.not_eq_true',
    decide_eq_false_iff_not] at hafter
  rcases hall with hoff | hpublished
  · rw [hoff] at hafter
    exact Bool.false_ne_true hafter.1
  · exact hafter.2 hpublished

end XenNet.TransmitPublication
