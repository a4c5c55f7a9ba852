import XenNet.NetmapKernel

namespace XenNet.ReleasedSlots

open XenNet.CyclicIndex
open XenNet.NetmapKernel

/-- The loop over the released slots, from `nmI` to `head`. -/
def releaseLoop (nm : NetmapApi) (head lim : Nat) : Nat → Nat → NetmapRing → Option NetmapRing
  | 0, _, _ => none
  | fuel + 1, nmI, ring =>
      if nmI = head then some ring
      else
        releaseLoop nm head lim fuel (nm.nmNext nmI lim)
          (ring.setSlot nmI { ring.slot nmI with
            flags := (ring.slot nmI).flags &&& ~~~nm.nsBufChanged })

/-- The same loop with its counter. -/
def releaseRounds (nm : NetmapApi) (head lim : Nat) :
    Nat → Nat → Nat → NetmapRing → Option (Nat × NetmapRing)
  | 0, _, _, _ => none
  | fuel + 1, nmI, rounds, ring =>
      if nmI = head then some (rounds, ring)
      else
        releaseRounds nm head lim fuel (nm.nmNext nmI lim) (rounds + 1)
          (ring.setSlot nmI { ring.slot nmI with
            flags := (ring.slot nmI).flags &&& ~~~nm.nsBufChanged })

theorem releaseLoop_eq_map (nm : NetmapApi) (head lim fuel nmI rounds : Nat)
    (ring : NetmapRing) :
    releaseLoop nm head lim fuel nmI ring =
      (releaseRounds nm head lim fuel nmI rounds ring).map Prod.snd := by
  induction fuel generalizing nmI rounds ring with
  | zero => rfl
  | succ fuel ih =>
      rw [releaseLoop, releaseRounds]
      split
      · rfl
      · exact ih _ _ _

/-- The ring after the slots from `lo` up to `hi` were passed. -/
def releasedRing (nm : NetmapApi) (n lo hi : Nat) (ring : NetmapRing) : NetmapRing :=
  { ring with
    slot := fun i =>
      if i < n ∧ Within n lo hi i then
        { ring.slot i with flags := (ring.slot i).flags &&& ~~~nm.nsBufChanged }
      else ring.slot i }

theorem releasedRing_self (nm : NetmapApi) {n lo : Nat} (hlo : lo < n) (ring : NetmapRing) :
    releasedRing nm n lo lo ring = ring := by
  simp [releasedRing, Within, distance_self hlo]

theorem releasedRing_setSlot (nm : NetmapApi) {n lo hi : Nat} (hlo : lo < n) (hhi : hi < n)
    (hne : lo ≠ hi) (ring : NetmapRing) :
    releasedRing nm n (advance n lo 1) hi (ring.setSlot lo { ring.slot lo with
        flags := (ring.slot lo).flags &&& ~~~nm.nsBufChanged }) =
      releasedRing nm n lo hi ring := by
  have hfirst : Within n lo hi lo := by
    rw [Within, distance_self hlo]
    exact distance_pos_of_ne hlo hhi hne
  simp only [releasedRing, NetmapRing.setSlot, NetmapRing.mk.injEq, true_and]
  funext i
  by_cases hi' : i < n
  · simp only [within_advance_one_iff hlo hhi hi' hne, hi', true_and]
    by_cases hsame : i = lo
    · subst hsame
      simp [hfirst]
    · simp [hsame]
  · have hsame : i ≠ lo := by omega
    simp [hi', hsame]

theorem releaseRounds_eq (nm : NetmapApi) {n head : Nat} (hhead : head < n)
    (fuel nmI rounds : Nat) (ring : NetmapRing) (hnmI : nmI < n)
    (hfuel : distance n nmI head < fuel) :
    releaseRounds nm head (n - 1) fuel nmI rounds ring =
      some (rounds + distance n nmI head, releasedRing nm n nmI head ring) := by
  induction fuel generalizing nmI rounds ring with
  | zero => omega
  | succ fuel ih =>
      rw [releaseRounds]
      by_cases hdone : nmI = head
      · rw [if_pos hdone, hdone, releasedRing_self nm hhead, distance_self hhead, Nat.add_zero]
      · have hpos := distance_pos_of_ne hnmI hhead hdone
        have hdist := distance_advance_left hnmI hhead (k := 1) hpos
        have hcount : rounds + 1 + distance n (advance n nmI 1) head =
            rounds + distance n nmI head := by
          omega
        rw [if_neg hdone, nm.nmNext_eq_advance hnmI,
          ih _ _ _ (advance_lt (by omega) _ _) (by omega),
          releasedRing_setSlot nm hnmI hhead hdone, hcount]

theorem releaseLoop_eq (nm : NetmapApi) {n head : Nat} (hhead : head < n) (fuel nmI : Nat)
    (ring : NetmapRing) (hnmI : nmI < n) (hfuel : distance n nmI head < fuel) :
    releaseLoop nm head (n - 1) fuel nmI ring = some (releasedRing nm n nmI head ring) := by
  rw [releaseLoop_eq_map nm head (n - 1) fuel nmI 0,
    releaseRounds_eq nm hhead fuel nmI 0 ring hnmI hfuel]
  rfl

structure SamePackets (ring ring' : NetmapRing) : Prop where
  head : ring'.head = ring.head
  cur : ring'.cur = ring.cur
  bufIdx : ∀ i, (ring'.slot i).bufIdx = (ring.slot i).bufIdx
  len : ∀ i, (ring'.slot i).len = (ring.slot i).len

theorem samePackets_releasedRing (nm : NetmapApi) (n lo hi : Nat) (ring : NetmapRing) :
    SamePackets ring (releasedRing nm n lo hi ring) := by
  refine ⟨rfl, rfl, fun i => ?_, fun i => ?_⟩
  · simp only [releasedRing]
    split <;> rfl
  · simp only [releasedRing]
    split <;> rfl

theorem releaseLoop_spec (nm : NetmapApi) {n head : Nat} (hhead : head < n) (fuel nmI : Nat)
    (ring : NetmapRing) (hnmI : nmI < n) (hfuel : distance n nmI head < fuel) :
    ∃ ring', releaseLoop nm head (n - 1) fuel nmI ring = some ring' ∧
      SamePackets ring ring' :=
  ⟨_, releaseLoop_eq nm hhead fuel nmI ring hnmI hfuel, samePackets_releasedRing nm n nmI head ring⟩

end XenNet.ReleasedSlots
