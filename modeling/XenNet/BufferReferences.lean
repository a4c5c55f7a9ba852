import XenNet.BufferAddressing
import XenNet.GrantConfinement

namespace XenNet.BufferReferences

open XenNet.NetmapKernel
open XenNet.NetfrontModel
open XenNet.RunHeads
open XenNet.GrantRing
open XenNet.NetfrontGrant
open XenNet.BufferAddressing
open XenNet.GrantConfinement

/-- The guest's array holds the references of the slots in order, all of them in the entries
that it allocated, and they are those of the backend. -/
structure HoldsGrefs (granted : GrantedRing) (guest : NetmapGnt) : Prop where
  fits : guest.nrBufsGrefs ≤ granted.ring.numSlots / 2
  slotOrder : (List.range guest.nrBufsGrefs).map guest.bufsGrefs =
    ((List.range granted.ring.numSlots).filter fun i => vifgref granted.ring i ≠ 0).map
      fun i => (vifgref granted.ring i).toUInt32
  collected : (List.range guest.nrBufsGrefs).map guest.bufsGrefs =
    (List.range guest.nrBufsGrefs).map fun k => (granted.gnt.bufRef k).toUInt32

/-- The buffer of slot `i` lies on the page of the buffer before it, or it is the first one and
the backend's new array holds its page by chance. -/
def SharesPage (stale : Nat → Option Nat) (page : Nat → Nat) (i : Nat) : Prop :=
  if i = 0 then stale 0 = some (page 0) else page i = page (i - 1)

instance (stale : Nat → Option Nat) (page : Nat → Nat) :
    DecidablePred (SharesPage stale page) :=
  fun i => inferInstanceAs (Decidable (if i = 0 then _ else _))

def HalfSharePages (lut : UInt32 → Nat) (ring : NetmapRing) (stale : Nat → Option Nat) : Prop :=
  ring.numSlots ≤ 2 * Nat.count (SharesPage stale (bufPage lut ring)) ring.numSlots

/-- Two buffers make a page. -/
def HalfPageBufs (lut : UInt32 → Nat) (ring : NetmapRing) : Prop :=
  ∀ i, i < ring.numSlots → bufAddr lut ring i % netfrontBufSize = 0

/-- The slots come in pairs with the two buffers of one page. -/
def PairsSharePages (lut : UInt32 → Nat) (ring : NetmapRing) : Prop :=
  ring.numSlots % 2 = 0 ∧
    ∀ k, 2 * k + 1 < ring.numSlots →
      bufPage lut ring (2 * k + 1) = bufPage lut ring (2 * k)

theorem sharesPage_iff (stale : Nat → Option Nat) (page : Nat → Nat) (i : Nat) :
    SharesPage stale page i ↔ ¬Marks stale page i := by
  unfold SharesPage
  cases i with
  | zero => rw [if_pos rfl, marks_zero_iff, not_not]
  | succ i =>
      rw [if_neg (Nat.succ_ne_zero i), marks_iff_of_pos (Nat.succ_pos i), isHead_succ_iff,
        not_not, Nat.add_sub_cancel]

variable {lut : UInt32 → Nat} {ring : NetmapRing} {stale : Nat → Option Nat}

theorem count_marks_le_half_iff :
    Nat.count (Marks stale (bufPage lut ring)) ring.numSlots ≤ ring.numSlots / 2 ↔
      HalfSharePages lut ring stale := by
  have hall := count_add_count (sharesPage_iff stale (bufPage lut ring)) ring.numSlots
  unfold HalfSharePages
  omega

theorem isHead_of_two (hdistinct : DistinctBufs lut ring) (hbufs : HalfPageBufs lut ring)
    {i : Nat} (hi : i + 1 < ring.numSlots) :
    IsHead (bufPage lut ring) i ∨ IsHead (bufPage lut ring) (i + 1) := by
  cases i with
  | zero => exact Or.inl (isHead_zero _)
  | succ i =>
      by_contra hneither
      rw [not_or] at hneither
      have hfirst := eq_of_not_isHead hneither.1
      have hsecond := eq_of_not_isHead hneither.2
      have h₀ := hbufs i (by omega)
      have h₁ := hbufs (i + 1) (by omega)
      have h₂ := hbufs (i + 1 + 1) hi
      have hapart : ∀ k l, k < l → l < ring.numSlots →
          bufAddr lut ring k ≠ bufAddr lut ring l := by
        intro k l hkl hl heq
        exact Nat.ne_of_lt hkl (hdistinct k l (by omega) hl heq)
      have h₀₁ := hapart i (i + 1) (by omega) (by omega)
      have h₀₂ := hapart i (i + 1 + 1) (by omega) hi
      have h₁₂ := hapart (i + 1) (i + 1 + 1) (by omega) hi
      unfold bufPage virtToPage at hfirst hsecond
      unfold pageSize netfrontBufSize at *
      omega

theorem halfSharePages_iff_pairs (hfresh : stale 0 ≠ some (bufPage lut ring 0))
    (hdistinct : DistinctBufs lut ring) (hbufs : HalfPageBufs lut ring) :
    HalfSharePages lut ring stale ↔ PairsSharePages lut ring := by
  rw [← count_marks_le_half_iff, count_marks_eq hfresh]
  exact count_isHead_le_half_iff fun i hi => isHead_of_two hdistinct hbufs hi

section Read

variable {gref : Nat → Int32} {domid : UInt16} {bufPg : Nat → PageEntry}
  {marked : NetmapRing} {mark : Nat → Prop} [DecidablePred mark] {n : Nat} {host : BufGrants}

theorem vifgref_ne_zero_iff (hgrants : BufGrantsAfter gref domid bufPg marked mark n n host)
    (hrefs : ∀ k, k < n → gref k ≠ 0) {i : Nat} (hi : i < n) :
    vifgref host.ring i ≠ 0 ↔ mark i := by
  rw [hgrants.granted i hi]
  by_cases hmark : mark i
  · rw [if_pos hmark]
    have hbelow := Nat.count_strict_mono hmark hi
    have href := refPtr_ne_zero (hrefs _ (Nat.lt_of_lt_of_le hbelow (Nat.count_le _)))
    exact ⟨fun _ => hmark, fun _ => href⟩
  · simp [hmark]

theorem holdsGrefs_iff (hgrants : BufGrantsAfter gref domid bufPg marked mark n n host)
    (hslots : host.ring.numSlots = n) (hrefs : ∀ k, k < n → gref k ≠ 0)
    (bufsGrefs : Nat → UInt32) (rdesc : NetmapGnt) {granted : GrantedRing}
    (hring : granted.ring = host.ring) (hbufRef : granted.gnt.bufRef = host.bufRef) :
    HoldsGrefs granted (xenbusReadBufsGrefs granted.ring bufsGrefs rdesc) ↔
      Nat.count mark n ≤ n / 2 := by
  have hread := xenbusReadBufsGrefs_spec gref mark host.ring bufsGrefs rdesc
    (fun k hk => hrefs k (Nat.lt_of_lt_of_le (hslots ▸ hk) (Nat.count_le _)))
    (fun i hi => hgrants.granted i (hslots ▸ hi))
  rw [hslots] at hread
  obtain ⟨hcount, hgrefs⟩ := hread
  rw [hring]
  constructor
  · intro hholds
    have hfits := hholds.fits
    rwa [hcount, hring, hslots] at hfits
  · intro hhalf
    refine ⟨?_, ?_, ?_⟩
    · rwa [hcount, hring, hslots]
    · have hfilter : ((List.range n).filter fun i => vifgref host.ring i ≠ 0) =
          (List.range n).filter mark :=
        List.filter_congr fun i hi =>
          decide_eq_decide.mpr (vifgref_ne_zero_iff hgrants hrefs (List.mem_range.mp hi))
      rw [hcount, hring, hslots, hfilter]
      refine map_range_count fun i hi hmark => ?_
      have hbelow := Nat.count_strict_mono hmark hi
      rw [hgrefs _ hbelow, hgrants.granted i hi, if_pos hmark, toUInt32_refPtr]
    · rw [hcount, hbufRef]
      apply List.map_congr_left
      intro k hk
      rw [hgrefs k (List.mem_range.mp hk), hgrants.bufRef k (List.mem_range.mp hk)]

end Read

/-- The guest's array holds every reference exactly when at least half of the slots have their
buffer on the page of the slot before. With a new array of the backend that does not hold
slot 0's page, these are the rings whose slots come in pairs. -/
theorem bufs_grefs_iff (layout : RingLayout) (lut : UInt32 → Nat) (gref : Nat → Int32)
    (ringAddr : Nat) (ring : NetmapRing) (domid : UInt16) (stale : VmallocContents)
    (hdistinct : DistinctBufs lut ring) (hbufs : HalfPageBufs lut ring)
    (hrefs : ∀ k, k < ring.numSlots → gref k ≠ 0) (bufsGrefs : Nat → UInt32)
    (rdesc : NetmapGnt) :
    ∃ granted, xenvifGrantRing layout lut gref ringAddr ring ring.numSlots domid stale =
        some granted ∧
      (HoldsGrefs granted (xenbusReadBufsGrefs granted.ring bufsGrefs rdesc) ↔
        HalfSharePages lut ring stale.bufPg) ∧
      (stale.bufPg 0 ≠ some (bufPage lut ring 0) →
        (HalfSharePages lut ring stale.bufPg ↔ PairsSharePages lut ring)) := by
  have hafter := nmBufPages_spec lut ring ring.numSlots stale.bufPg
  have hgrants := hafter.grantBufs gref domid stale.bufRef
  have hslots := hgrants.numSlots.trans hafter.numSlots
  unfold xenvifGrantRing
  rw [nmRingPages_eq]
  refine ⟨_, rfl, ?_, fun hfresh => halfSharePages_iff_pairs hfresh hdistinct hbufs⟩
  rw [← count_marks_le_half_iff]
  exact holdsGrefs_iff hgrants hslots hrefs bufsGrefs rdesc rfl rfl

theorem bufs_grefs_four_slots :
    ∃ granted, xenvifGrantRing sampleLayout sampleLut sampleGref 8192 (sampleRing 4) 4 1
        nullArrays = some granted ∧
      HoldsGrefs granted (xenbusReadBufsGrefs granted.ring (fun _ => 0) noGnt) := by
  have hbufs : HalfPageBufs sampleLut (sampleRing 4) := by
    intro i _
    exact Nat.mul_mod_left _ _
  have hrefs : ∀ k, k < (sampleRing 4).numSlots → sampleGref k ≠ 0 := by
    decide
  have hhalf : HalfSharePages sampleLut (sampleRing 4) nullArrays.bufPg := by
    unfold HalfSharePages
    decide
  obtain ⟨granted, hcall, hiff, _⟩ := bufs_grefs_iff sampleLayout sampleLut sampleGref 8192
    (sampleRing 4) 1 nullArrays distinctBufs_sample hbufs hrefs (fun _ => 0) noGnt
  exact ⟨granted, hcall, hiff.mpr hhalf⟩

/-- Two slots with buffers on pages of their own. -/
def apartRing : NetmapRing where
  numSlots := 2
  head := 0
  cur := 0
  tail := 0
  slot i := ⟨UInt32.ofNat (2 * i + 2), 2048, 0, 0⟩

/-- The guest allocates one entry for them and stores to two. -/
theorem bufs_grefs_overrun :
    ¬ ∀ (layout : RingLayout) (lut : UInt32 → Nat) (gref : Nat → Int32) (ringAddr : Nat)
      (ring : NetmapRing) (domid : UInt16) (stale : VmallocContents), 2 ≤ ring.numSlots →
      DistinctBufs lut ring → HalfPageBufs lut ring →
      (∀ k, k < ring.numSlots → gref k ≠ 0) →
      ∀ (bufsGrefs : Nat → UInt32) (rdesc : NetmapGnt), ∃ granted,
        xenvifGrantRing layout lut gref ringAddr ring ring.numSlots domid stale = some granted ∧
          HoldsGrefs granted (xenbusReadBufsGrefs granted.ring bufsGrefs rdesc) := by
  intro halways
  have hdistinct : DistinctBufs sampleLut apartRing := by
    intro i j hi hj heq
    simp only [bufAddr, sampleLut, apartRing, UInt32.toNat_ofNat'] at hi hj heq
    omega
  have hbufs : HalfPageBufs sampleLut apartRing := by
    intro i _
    exact Nat.mul_mod_left _ _
  obtain ⟨granted, hcall, hholds⟩ := halways sampleLayout sampleLut sampleGref 8192 apartRing 1
    nullArrays (by decide) hdistinct hbufs (by decide) (fun _ => 0) noGnt
  have htwo : (xenvifGrantRing sampleLayout sampleLut sampleGref 8192 apartRing 2 1
      nullArrays).all (fun granted => decide (granted.ring.numSlots / 2 <
        (xenbusReadBufsGrefs granted.ring (fun _ => 0) noGnt).nrBufsGrefs)) = true := by
    decide
  change xenvifGrantRing sampleLayout sampleLut sampleGref 8192 apartRing 2 1 nullArrays =
    some granted at hcall
  rw [hcall] at htwo
  exact Nat.not_lt_of_le hholds.fits (of_decide_eq_true htwo)

end XenNet.BufferReferences
