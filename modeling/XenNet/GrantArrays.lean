import XenNet.BufferAddressing
import XenNet.GrantLifecycle

namespace XenNet.GrantArrays

open XenNet.NetmapKernel
open XenNet.RunHeads
open XenNet.TransitionSystem
open XenNet.GrantRing
open XenNet.BufferAddressing
open XenNet.GrantConfinement
open XenNet.GrantLifecycle

/-- `RING_NR_PAGES`. `ringSize` is `sizeof(struct netmap_ring)`. -/
def ringNrPages (layout : RingLayout) (ringSize desc : Nat) : Nat :=
  (ringSize + desc * layout.slotSize) / pageSize

/-- `BUFS_NR_PAGES`. The product is taken in `uint32_t`. -/
def bufsNrPages (ring : NetmapRing) : Nat :=
  ((ring.slot 0).len.toNat * ring.numSlots) % 2 ^ 32 / pageSize

inductive GrantArray where
  | ringPg
  | bufPg
  | ringRef
  | bufRef
  deriving DecidableEq, Repr

/-- How many elements `xenvif_grant_ring` allocates for an array. -/
def nrElements (layout : RingLayout) (ringSize : Nat) (ring : NetmapRing) (numDesc : Nat) :
    GrantArray → Nat
  | .ringPg | .ringRef => ringNrPages layout ringSize numDesc + 1
  | .bufPg | .bufRef => bufsNrPages ring + 1

structure ArrayAccess where
  array : GrantArray
  index : Nat
  deriving DecidableEq, Repr

def ringPagesAccesses (pageRingEnd : Nat) : Nat → Nat → Nat → List ArrayAccess
  | 0, _, _ => []
  | fuel + 1, pageIdx, ringRefs =>
      if pageIdx ≤ pageRingEnd then
        ⟨.ringPg, ringRefs⟩ ::
          ringPagesAccesses pageRingEnd fuel (pageIdx + 1) (ringRefs + 1)
      else []

/-- What one round of the loop of `nm_buf_pages` reads and stores to. -/
def bufPagesAccesses (lut : UInt32 → Nat) (s : BufPages) (i : Nat) : List ArrayAccess :=
  ⟨.bufPg, s.bufsRefs⟩ ::
    if (s.pages s.bufsRefs).page ≠ some (bufPage lut s.ring i) then
      [⟨.bufPg, if i = 0 then s.bufsRefs else s.bufsRefs + 1⟩]
    else []

/-- What one round of the first loop of `xenvif_grant_ring` reads and stores to. -/
def grantBufsAccesses (bufPg : Nat → PageEntry) (s : BufGrants) (i : Nat) :
    List ArrayAccess :=
  if vifgref s.ring i = 1 then
    ⟨.bufPg, s.j⟩ ::
      if (bufPg s.j).page ≠ none then [⟨.bufPg, s.j⟩, ⟨.bufRef, s.j⟩, ⟨.bufRef, s.j⟩] else []
  else []

/-- The accesses of a call of `xenvif_grant_ring`, in order. -/
def xenvifGrantRingAccesses (layout : RingLayout) (lut : UInt32 → Nat) (gref : Nat → Int32)
    (ringAddr : Nat) (ring : NetmapRing) (numDesc : Nat) (domid : UInt16)
    (stale : VmallocContents) : List ArrayAccess :=
  let pageRingStart := virtToPage ringAddr
  let pageRingEnd := virtToPage (layout.slotAddr ringAddr (numDesc - 1))
  let bufPages := (nmBufPages lut ring numDesc (vmallocPages stale.bufPg)).1
  ringPagesAccesses pageRingEnd (pageRingEnd - pageRingStart + 2) pageRingStart 0 ++
    (loopTrace (bufPagesStep lut) (bufPagesAccesses lut) ⟨ring, vmallocPages stale.bufPg, 0⟩
        numDesc ++
      (loopTrace (grantBufsStep gref domid bufPages.pages) (grantBufsAccesses bufPages.pages)
          ⟨bufPages.ring, stale.bufRef, 0, []⟩ numDesc ++
        (List.range ((UInt16.ofNat (pageRingEnd - pageRingStart + 1)).toNat + 1)).flatMap
          fun i => [⟨.ringPg, i⟩, ⟨.ringRef, i⟩]))

/-- The accesses of a call of `xenvif_revoke_ring`. -/
def xenvifRevokeRingAccesses (gnt : NmGrantRing) : List ArrayAccess :=
  (List.range (gnt.nrRingPgs.toNat + 1)).map (fun i => ⟨.ringRef, i⟩) ++
    (List.range (gnt.nrBufPgs.toNat + 1)).map fun i => ⟨.bufRef, i⟩

def InBounds (layout : RingLayout) (ringSize : Nat) (ring : NetmapRing) (numDesc : Nat)
    (accesses : List ArrayAccess) : Prop :=
  ∀ x, x ∈ accesses → x.index < nrElements layout ringSize ring numDesc x.array

/-- `RING_NR_PAGES` counts the pages of the ring. The number that `nm_ring_pages` returns has
16 bits. -/
def RingPagesCounted (layout : RingLayout) (ringSize ringAddr numDesc : Nat) : Prop :=
  ringPageCount layout ringAddr numDesc ≤ ringNrPages layout ringSize numDesc ∨
    65536 ≤ ringPageCount layout ringAddr numDesc ∧
      ringPageCount layout ringAddr numDesc ≤ ringNrPages layout ringSize numDesc + 1

/-- From slot to slot the buffers change their page at most `BUFS_NR_PAGES` times. -/
def BufPagesCounted (lut : UInt32 → Nat) (ring : NetmapRing) (numDesc : Nat) : Prop :=
  bufPageCount lut ring numDesc ≤ bufsNrPages ring + 1

theorem inBounds_append {layout : RingLayout} {ringSize : Nat} {ring : NetmapRing}
    {numDesc : Nat} {first second : List ArrayAccess} :
    InBounds layout ringSize ring numDesc (first ++ second) ↔
      InBounds layout ringSize ring numDesc first ∧
        InBounds layout ringSize ring numDesc second :=
  List.forall_mem_append

theorem mem_ringPagesAccesses {pageRingEnd fuel pageIdx ringRefs : Nat}
    (hfuel : pageRingEnd + 1 - pageIdx < fuel) {x : ArrayAccess} :
    x ∈ ringPagesAccesses pageRingEnd fuel pageIdx ringRefs ↔
      ∃ k, pageIdx + k ≤ pageRingEnd ∧ x = ⟨.ringPg, ringRefs + k⟩ := by
  induction fuel generalizing pageIdx ringRefs with
  | zero => omega
  | succ fuel ih =>
      by_cases hmore : pageIdx ≤ pageRingEnd
      · rw [ringPagesAccesses, if_pos hmore, List.mem_cons, ih (by omega)]
        constructor
        · rintro (rfl | ⟨k, hk, rfl⟩)
          · exact ⟨0, hmore, rfl⟩
          · exact ⟨k + 1, by omega, by rw [Nat.add_assoc, Nat.add_comm 1 k]⟩
        · rintro ⟨k, hk, rfl⟩
          cases k with
          | zero => exact Or.inl rfl
          | succ k => exact Or.inr ⟨k, by omega, by rw [Nat.add_assoc, Nat.add_comm 1 k]⟩
      · rw [ringPagesAccesses, if_neg hmore]
        constructor
        · intro hmem
          contradiction
        · rintro ⟨k, hk, _⟩
          omega

section Bounds

variable {layout : RingLayout} {ringSize : Nat} {lut : UInt32 → Nat} {ringAddr : Nat}
  {ring : NetmapRing} {numDesc : Nat}

theorem ringAccesses_inBounds_iff :
    InBounds layout ringSize ring numDesc
        (ringPagesAccesses (virtToPage (layout.slotAddr ringAddr (numDesc - 1)))
          (virtToPage (layout.slotAddr ringAddr (numDesc - 1)) - virtToPage ringAddr + 2)
          (virtToPage ringAddr) 0) ↔
      ringPageCount layout ringAddr numDesc ≤ ringNrPages layout ringSize numDesc + 1 := by
  have horder : virtToPage ringAddr ≤ virtToPage (layout.slotAddr ringAddr (numDesc - 1)) :=
    Nat.div_le_div_right (by unfold RingLayout.slotAddr; omega)
  unfold InBounds ringPageCount
  constructor
  · intro hall
    have hlast := hall
      ⟨.ringPg, virtToPage (layout.slotAddr ringAddr (numDesc - 1)) - virtToPage ringAddr⟩
      ((mem_ringPagesAccesses (by omega)).mpr ⟨_, Nat.le_of_eq (Nat.add_sub_cancel' horder),
        by rw [Nat.zero_add]⟩)
    exact hlast
  · intro hcount x hx
    obtain ⟨k, hk, rfl⟩ := (mem_ringPagesAccesses (by omega)).mp hx
    change 0 + k < ringNrPages layout ringSize numDesc + 1
    omega

theorem grantRingAccesses_inBounds_iff (nrRingPgs : UInt16) :
    InBounds layout ringSize ring numDesc
        ((List.range (nrRingPgs.toNat + 1)).flatMap fun i => [⟨.ringPg, i⟩, ⟨.ringRef, i⟩]) ↔
      nrRingPgs.toNat ≤ ringNrPages layout ringSize numDesc := by
  unfold InBounds
  simp only [List.mem_flatMap, List.mem_range, List.mem_cons, List.not_mem_nil, or_false]
  constructor
  · intro hall
    have hlast := hall ⟨.ringPg, nrRingPgs.toNat⟩
      ⟨nrRingPgs.toNat, Nat.lt_succ_self _, Or.inl rfl⟩
    exact Nat.le_of_lt_succ hlast
  · rintro hcount x ⟨i, hi, rfl | rfl⟩
    · exact Nat.lt_of_lt_of_le hi (Nat.succ_le_succ hcount)
    · exact Nat.lt_of_lt_of_le hi (Nat.succ_le_succ hcount)

theorem bufPagesAccesses_round {stale : Nat → Option Nat} {i : Nat} {s : BufPages}
    (hafter : BufPagesAfter lut ring stale i s) :
    InBounds layout ringSize ring numDesc (bufPagesAccesses lut s i) ↔
      Nat.count (IsHead (bufPage lut ring)) (i + 1) ≤ bufsNrPages ring + 1 := by
  have hread : nrElements layout ringSize ring numDesc .bufPg = bufsNrPages ring + 1 := rfl
  unfold InBounds bufPagesAccesses
  rw [hafter.bufPage_eq, Nat.count_succ]
  by_cases hmark : Marks stale (bufPage lut ring) i
  · rw [if_pos (hafter.current_ne_iff.mpr hmark), hafter.nextRef, if_pos hmark.1]
    simp only [List.forall_mem_cons, List.not_mem_nil, false_implies, implies_true, and_true,
      hread, hafter.bufsRefs]
    omega
  · rw [if_neg (mt hafter.current_ne_iff.mp hmark)]
    simp only [List.forall_mem_cons, List.not_mem_nil, false_implies, implies_true, and_true,
      hread, hafter.bufsRefs]
    rcases Nat.eq_zero_or_pos i with rfl | hpos
    · rw [Nat.count_zero]
      split <;> omega
    · rw [if_neg fun hhead => hmark ((marks_iff_of_pos hpos).mpr hhead)]
      omega

theorem bufPagesAccesses_inBounds_iff (hdesc : 1 ≤ numDesc) (stale : Nat → Option Nat) :
    InBounds layout ringSize ring numDesc
        (loopTrace (bufPagesStep lut) (bufPagesAccesses lut) ⟨ring, vmallocPages stale, 0⟩
          numDesc) ↔ BufPagesCounted lut ring numDesc := by
  have hround : ∀ i, InBounds layout ringSize ring numDesc (bufPagesAccesses lut
      ((List.range i).foldl (bufPagesStep lut) ⟨ring, vmallocPages stale, 0⟩) i) ↔
        Nat.count (IsHead (bufPage lut ring)) (i + 1) ≤ bufsNrPages ring + 1 :=
    fun i => bufPagesAccesses_round (nmBufPages_spec lut ring i stale)
  unfold InBounds at hround ⊢
  rw [forall_mem_loopTrace_iff]
  constructor
  · intro hall
    obtain ⟨m, rfl⟩ := Nat.exists_eq_add_of_le' hdesc
    exact (hround m).mp (hall m (Nat.lt_succ_self m))
  · intro hcount i hi
    have hmono := Nat.count_monotone (IsHead (bufPage lut ring)) (Nat.succ_le_of_lt hi)
    exact (hround i).mpr (Nat.le_trans hmono hcount)

theorem grantBufsAccesses_inBounds (gref : Nat → Int32) (domid : UInt16)
    {stale : VmallocContents} {s : BufPages}
    (hafter : BufPagesAfter lut ring stale.bufPg numDesc s)
    (hcount : BufPagesCounted lut ring numDesc) :
    InBounds layout ringSize ring numDesc
      (loopTrace (grantBufsStep gref domid s.pages) (grantBufsAccesses s.pages)
        ⟨s.ring, stale.bufRef, 0, []⟩ numDesc) := by
  unfold InBounds
  rw [forall_mem_loopTrace_iff]
  intro i hi x hx
  have hgrants : BufGrantsAfter gref domid s.pages s.ring
      (Marks stale.bufPg (bufPage lut ring)) numDesc i
      ((List.range i).foldl (grantBufsStep gref domid s.pages) ⟨s.ring, stale.bufRef, 0, []⟩) :=
    grantBufs_after gref domid stale.bufRef (fun _ hk => hafter.page_ne_none hk)
      hafter.vifgref (Nat.le_of_lt hi)
  generalize (List.range i).foldl (grantBufsStep gref domid s.pages)
    ⟨s.ring, stale.bufRef, 0, []⟩ = t at hx hgrants
  unfold grantBufsAccesses at hx
  split at hx
  · rename_i hone
    have hmark : Marks stale.bufPg (bufPage lut ring) i := by
      by_contra hunmarked
      rw [hgrants.ahead i (Nat.le_refl i) hi, if_neg hunmarked] at hone
      exact absurd hone (by decide)
    have hj : t.j < bufsNrPages ring + 1 := by
      have hbelow := Nat.count_strict_mono hmark hi
      have hle := count_marks_le stale.bufPg (bufPage lut ring) numDesc
      unfold BufPagesCounted bufPageCount at hcount
      rw [hgrants.j]
      omega
    rcases List.mem_cons.mp hx with rfl | hx
    · exact hj
    · split at hx
      · simp only [List.mem_cons, List.not_mem_nil, or_false] at hx
        rcases hx with rfl | rfl | rfl <;> exact hj
      · contradiction
  · contradiction

theorem xenvifRevokeRingAccesses_inBounds {gnt : NmGrantRing}
    (hring : gnt.nrRingPgs.toNat ≤ ringNrPages layout ringSize numDesc)
    (hbuf : gnt.nrBufPgs.toNat ≤ bufsNrPages ring) :
    InBounds layout ringSize ring numDesc (xenvifRevokeRingAccesses gnt) := by
  refine inBounds_append.mpr ⟨?_, ?_⟩
  · intro x hx
    obtain ⟨i, hi, rfl⟩ := List.mem_map.mp hx
    exact Nat.lt_of_lt_of_le (List.mem_range.mp hi) (Nat.succ_le_succ hring)
  · intro x hx
    obtain ⟨i, hi, rfl⟩ := List.mem_map.mp hx
    exact Nat.lt_of_lt_of_le (List.mem_range.mp hi) (Nat.succ_le_succ hbuf)

theorem ringPagesCounted_iff :
    RingPagesCounted layout ringSize ringAddr numDesc ↔
      ringPageCount layout ringAddr numDesc ≤ ringNrPages layout ringSize numDesc + 1 ∧
        (UInt16.ofNat (ringPageCount layout ringAddr numDesc)).toNat ≤
          ringNrPages layout ringSize numDesc := by
  have hcount : (UInt16.ofNat (ringPageCount layout ringAddr numDesc)).toNat =
      ringPageCount layout ringAddr numDesc % 65536 := by
    simp
  unfold RingPagesCounted
  omega

end Bounds

/-- The loops of `xenvif_grant_ring` and of the `xenvif_revoke_ring` after it stay inside the
arrays exactly when `RING_NR_PAGES` counts the pages that the ring lies on and
`BUFS_NR_PAGES` the changes of page from buffer to buffer. -/
theorem grant_arrays_iff (layout : RingLayout) (ringSize : Nat) (lut : UInt32 → Nat)
    (gref : Nat → Int32) (ringAddr : Nat) (ring : NetmapRing) (hslots : 1 ≤ ring.numSlots)
    (domid : UInt16) (stale : VmallocContents) :
    ∃ granted, xenvifGrantRing layout lut gref ringAddr ring ring.numSlots domid stale =
        some granted ∧
      (InBounds layout ringSize ring ring.numSlots
          (xenvifGrantRingAccesses layout lut gref ringAddr ring ring.numSlots domid stale ++
            xenvifRevokeRingAccesses granted.gnt) ↔
        RingPagesCounted layout ringSize ringAddr ring.numSlots ∧
          BufPagesCounted lut ring ring.numSlots) := by
  have hafter := nmBufPages_spec lut ring ring.numSlots stale.bufPg
  unfold xenvifGrantRing
  rw [nmRingPages_eq]
  refine ⟨_, rfl, ?_⟩
  simp only [xenvifGrantRingAccesses, inBounds_append]
  rw [ringAccesses_inBounds_iff, bufPagesAccesses_inBounds_iff hslots,
    grantRingAccesses_inBounds_iff, ringPagesCounted_iff]
  constructor
  · rintro ⟨⟨hpages, hbufs, _, hgrants⟩, _⟩
    exact ⟨⟨hpages, hgrants⟩, hbufs⟩
  · rintro ⟨⟨hpages, hgrants⟩, hbufs⟩
    refine ⟨⟨hpages, hbufs, ?_, hgrants⟩, ?_⟩
    · exact grantBufsAccesses_inBounds gref domid hafter hbufs
    · refine xenvifRevokeRingAccesses_inBounds hgrants ?_
      have hwraps : (UInt16.ofNat (Nat.count (IsHead (bufPage lut ring)) ring.numSlots -
          1)).toNat ≤ Nat.count (IsHead (bufPage lut ring)) ring.numSlots - 1 := by
        rw [UInt16.toNat_ofNat']
        exact Nat.mod_le _ _
      unfold BufPagesCounted bufPageCount at hbufs
      change (UInt16.ofNat (nmBufPages lut ring ring.numSlots
        (vmallocPages stale.bufPg)).1.bufsRefs).toNat ≤ _
      rw [hafter.bufsRefs]
      omega

theorem grant_arrays_four_slots :
    ∃ granted, xenvifGrantRing sampleLayout sampleLut sampleGref 4064 (sampleRing 4) 4 1
        nullArrays = some granted ∧
      (InBounds sampleLayout 256 (sampleRing 4) 4
          (xenvifGrantRingAccesses sampleLayout sampleLut sampleGref 4064 (sampleRing 4) 4 1
            nullArrays ++ xenvifRevokeRingAccesses granted.gnt) ↔
        RingPagesCounted sampleLayout 256 4064 4 ∧ BufPagesCounted sampleLut (sampleRing 4) 4) :=
  grant_arrays_iff sampleLayout 256 sampleLut sampleGref 4064 (sampleRing 4) (by decide) 1
    nullArrays

/-- A ring of four slots on one page has arrays of one element, and the loops take two. -/
theorem grant_arrays_overrun :
    ¬ ∀ (layout : RingLayout) (ringSize : Nat) (lut : UInt32 → Nat) (gref : Nat → Int32)
      (ringAddr : Nat) (ring : NetmapRing) (domid : UInt16) (stale : VmallocContents),
      layout.slotOfs ≤ ringSize → 1 ≤ ring.numSlots → (ring.slot 0).len = 2048 →
      DistinctBufs lut ring →
      InBounds layout ringSize ring ring.numSlots
        (xenvifGrantRingAccesses layout lut gref ringAddr ring ring.numSlots domid stale) := by
  intro halways
  have hbounds := halways sampleLayout 256 sampleLut sampleGref 8192 (sampleRing 4) 1 nullArrays
    (by decide) (by decide) rfl distinctBufs_sample
  have hbehind := hbounds ⟨.ringRef, 1⟩ (by decide)
  exact absurd hbehind (by decide)

end XenNet.GrantArrays
