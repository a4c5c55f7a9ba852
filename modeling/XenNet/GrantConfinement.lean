import XenNet.GrantRing

namespace XenNet.GrantConfinement

open XenNet.NetmapKernel
open XenNet.RunHeads
open XenNet.GrantRing

/-- Page `p` holds part of the ring, from its header to its last slot. -/
def HoldsRing (layout : RingLayout) (ringAddr numDesc p : Nat) : Prop :=
  ∃ addr, ringAddr ≤ addr ∧ addr < layout.slotAddr ringAddr numDesc ∧ virtToPage addr = p

def HoldsBuffer (lut : UInt32 → Nat) (ring : NetmapRing) (numDesc p : Nat) : Prop :=
  ∃ i, i < numDesc ∧ p = bufPage lut ring i

/-- An entry that was filled, with a page of the ring or of its buffers. -/
def Confined (layout : RingLayout) (lut : UInt32 → Nat) (ringAddr : Nat) (ring : NetmapRing)
    (numDesc : Nat) (entry : PageEntry) : Prop :=
  entry.filled = true ∧ ∃ p, entry.page = some p ∧
    (HoldsRing layout ringAddr numDesc p ∨ HoldsBuffer lut ring numDesc p)

def GrantConfined (layout : RingLayout) (lut : UInt32 → Nat) (ringAddr : Nat)
    (ring : NetmapRing) (numDesc : Nat) (granted : GrantedRing) : Prop :=
  ∀ g, g ∈ granted.grants → Confined layout lut ringAddr ring numDesc g.entry

/-- The ring takes so many pages that their number does not fit in 16 bits. -/
def RingCountWraps (layout : RingLayout) (ringAddr numDesc : Nat) : Prop :=
  65536 ≤ ringPageCount layout ringAddr numDesc

/-- The new array for the buffers' pages does not hold the page of slot 0 by chance, or that
is the only page. -/
def BufArrayFresh (lut : UInt32 → Nat) (ring : NetmapRing) (numDesc : Nat)
    (stale : VmallocContents) : Prop :=
  stale.bufPg 0 ≠ some (bufPage lut ring 0) ∨
    ∀ i, i < numDesc → bufPage lut ring i = bufPage lut ring 0

variable {layout : RingLayout} {lut : UInt32 → Nat} {ringAddr : Nat} {ring : NetmapRing}
  {numDesc : Nat} {stale : VmallocContents}

theorem holdsRing_of_lt_count (hdesc : 1 ≤ numDesc) {k : Nat}
    (hk : k < ringPageCount layout ringAddr numDesc) :
    HoldsRing layout ringAddr numDesc (virtToPage ringAddr + k) := by
  have hsize := layout.slotSize_pos
  have hend : layout.slotAddr ringAddr numDesc =
      layout.slotAddr ringAddr (numDesc - 1) + layout.slotSize := by
    obtain ⟨m, rfl⟩ := Nat.exists_eq_add_of_le' hdesc
    simp [RingLayout.slotAddr, Nat.add_mul, Nat.add_assoc]
  unfold ringPageCount at hk
  rcases Nat.eq_zero_or_pos k with rfl | hpos
  · refine ⟨ringAddr, Nat.le_refl _, ?_, rfl⟩
    rw [hend]
    unfold RingLayout.slotAddr
    omega
  · refine ⟨(virtToPage ringAddr + k) * pageSize, ?_, ?_, ?_⟩
    · unfold virtToPage pageSize at *
      omega
    · rw [hend]
      unfold virtToPage pageSize at *
      omega
    · exact Nat.mul_div_cancel _ (by decide)

theorem ringEntries_confined_iff (lut : UInt32 → Nat) (ring : NetmapRing)
    (stale : VmallocContents) (hdesc : 1 ≤ numDesc) :
    (∀ k, k < (UInt16.ofNat (ringPageCount layout ringAddr numDesc)).toNat + 1 →
        Confined layout lut ringAddr ring numDesc
          (if k < ringPageCount layout ringAddr numDesc then
            ⟨some (virtToPage ringAddr + k), true⟩ else vmallocPages stale.ringPg k)) ↔
      RingCountWraps layout ringAddr numDesc := by
  have hcount : (UInt16.ofNat (ringPageCount layout ringAddr numDesc)).toNat =
      ringPageCount layout ringAddr numDesc % 65536 := by
    simp
  unfold RingCountWraps
  constructor
  · intro hall
    by_contra hsmall
    have hlast := hall (ringPageCount layout ringAddr numDesc) (by omega)
    rw [if_neg (Nat.lt_irrefl _)] at hlast
    exact Bool.false_ne_true hlast.1
  · intro hwraps k hk
    have hfilled : k < ringPageCount layout ringAddr numDesc := by omega
    rw [if_pos hfilled]
    exact ⟨rfl, _, rfl, Or.inl (holdsRing_of_lt_count hdesc hfilled)⟩

theorem bufEntries_confined_iff (layout : RingLayout) (ringAddr : Nat)
    (hdesc : 1 ≤ numDesc) {s : BufPages}
    (hafter : BufPagesAfter lut ring stale.bufPg numDesc s) :
    (∀ k, k < Nat.count (Marks stale.bufPg (bufPage lut ring)) numDesc →
        Confined layout lut ringAddr ring numDesc (s.pages k)) ↔
      BufArrayFresh lut ring numDesc stale := by
  have hle := count_marks_le stale.bufPg (bufPage lut ring) numDesc
  unfold BufArrayFresh
  constructor
  · intro hall
    by_contra hstale
    push Not at hstale
    obtain ⟨hstale, hmany⟩ := hstale
    obtain ⟨i, hpos, hi, hhead⟩ := exists_isHead_iff.mpr fun hconst =>
      hmany.elim fun i hi => hi.2 (hconst i hi.1)
    have hmark : Marks stale.bufPg (bufPage lut ring) i := (marks_iff_of_pos hpos).mpr hhead
    have hgranted := Nat.count_strict_mono hmark hi
    have hfirst := hafter.entry 0 (by omega) (isHead_zero _)
    rw [Nat.count_zero] at hfirst
    have hfilled := (hall 0 (by omega)).1
    rw [hfirst] at hfilled
    exact marks_zero_iff.mp (of_decide_eq_true hfilled) hstale
  · intro hfresh k hk
    obtain ⟨p, hp, hhead, hcount⟩ := exists_of_lt_count (Nat.lt_of_lt_of_le hk hle)
    have hentry := hcount ▸ hafter.entry p hp hhead
    have hmark : Marks stale.bufPg (bufPage lut ring) p := by
      refine ⟨hhead, fun hzero => ?_⟩
      rcases hfresh with hfresh | hconst
      · exact hfresh
      · -- a single page is granted only when slot 0 is marked
        obtain ⟨q, hq, hmark, _⟩ := exists_of_lt_count hk
        rcases Nat.eq_zero_or_pos q with rfl | hpos
        · exact marks_zero_iff.mp hmark
        · exact absurd hconst (exists_isHead_iff.mp ⟨q, hpos, hq, hmark.1⟩)
    rw [hentry]
    exact ⟨decide_eq_true hmark, _, rfl, Or.inr ⟨p, hp, rfl⟩⟩

theorem xenvifGrantRing_entries (layout : RingLayout) (lut : UInt32 → Nat)
    (gref : Nat → Int32) (ringAddr : Nat) (ring : NetmapRing) (numDesc : Nat) (domid : UInt16)
    (stale : VmallocContents) :
    ∃ granted s, xenvifGrantRing layout lut gref ringAddr ring numDesc domid stale =
        some granted ∧
      BufPagesAfter lut ring stale.bufPg numDesc s ∧
      granted.grants.map Grant.entry =
        (List.range (Nat.count (Marks stale.bufPg (bufPage lut ring)) numDesc)).map s.pages ++
        (List.range ((UInt16.ofNat (ringPageCount layout ringAddr numDesc)).toNat + 1)).map
          fun k => if k < ringPageCount layout ringAddr numDesc then
            ⟨some (virtToPage ringAddr + k), true⟩ else vmallocPages stale.ringPg k := by
  have hafter := nmBufPages_spec lut ring numDesc stale.bufPg
  have hgrants := hafter.grantBufs gref domid stale.bufRef
  unfold xenvifGrantRing
  rw [nmRingPages_eq]
  refine ⟨_, _, rfl, hafter, ?_⟩
  dsimp only
  rw [grantRingPages_grants, hgrants.grants]
  simp [Function.comp_def]

/-- `xenvif_grant_ring` confines the guest to the ring and its buffers exactly when the
number of the ring's pages wraps around and the entry of slot 0's page was filled in. -/
theorem grant_confinement (layout : RingLayout) (lut : UInt32 → Nat) (gref : Nat → Int32)
    (ringAddr : Nat) (ring : NetmapRing) {numDesc : Nat} (hdesc : 1 ≤ numDesc)
    (domid : UInt16) (stale : VmallocContents) :
    ∃ granted, xenvifGrantRing layout lut gref ringAddr ring numDesc domid stale =
        some granted ∧
      (GrantConfined layout lut ringAddr ring numDesc granted ↔
        RingCountWraps layout ringAddr numDesc ∧ BufArrayFresh lut ring numDesc stale) := by
  obtain ⟨granted, s, hcall, hafter, hentries⟩ :=
    xenvifGrantRing_entries layout lut gref ringAddr ring numDesc domid stale
  refine ⟨granted, hcall, ?_⟩
  calc GrantConfined layout lut ringAddr ring numDesc granted
      ↔ ∀ entry, entry ∈ granted.grants.map Grant.entry →
          Confined layout lut ringAddr ring numDesc entry := by
        simp [GrantConfined]
    _ ↔ _ := by
        rw [hentries]
        simp only [List.mem_append, List.mem_map, List.mem_range]
        rw [← ringEntries_confined_iff lut ring stale hdesc,
          ← bufEntries_confined_iff layout ringAddr hdesc hafter]
        constructor
        · intro hall
          exact ⟨fun k hk => hall _ (Or.inr ⟨k, hk, rfl⟩),
            fun k hk => hall _ (Or.inl ⟨k, hk, rfl⟩)⟩
        · rintro ⟨hrings, hbufs⟩ entry (⟨k, hk, rfl⟩ | ⟨k, hk, rfl⟩)
          · exact hbufs k hk
          · exact hrings k hk

def sampleLayout : RingLayout where
  slotOfs := 256
  slotSize := 16
  slotSize_pos := by decide

def nullArrays : VmallocContents where
  ringPg _ := none
  bufPg _ := none
  ringRef _ := 0
  bufRef _ := 0

theorem grant_confinement_four_slots :
    ∃ granted, xenvifGrantRing sampleLayout sampleLut sampleGref 8192 (sampleRing 4) 4 1
        nullArrays = some granted ∧
      (GrantConfined sampleLayout sampleLut 8192 (sampleRing 4) 4 granted ↔
        RingCountWraps sampleLayout 8192 4 ∧
          BufArrayFresh sampleLut (sampleRing 4) 4 nullArrays) :=
  grant_confinement sampleLayout sampleLut sampleGref 8192 (sampleRing 4) (by decide) 1
    nullArrays

/-- A ring of four slots on one page: the entry after the ring's only page is granted as
well. -/
theorem grant_confinement_fails :
    ¬ ∀ (layout : RingLayout) (lut : UInt32 → Nat) (gref : Nat → Int32) (ringAddr : Nat)
      (ring : NetmapRing) (numDesc : Nat), 1 ≤ numDesc →
      ∀ (domid : UInt16) (stale : VmallocContents), ∃ granted,
        xenvifGrantRing layout lut gref ringAddr ring numDesc domid stale = some granted ∧
          GrantConfined layout lut ringAddr ring numDesc granted := by
  intro halways
  obtain ⟨granted, hcall, hconfined⟩ :=
    halways sampleLayout sampleLut sampleGref 8192 (sampleRing 4) 4 (by decide) 1 nullArrays
  have hunfilled : (xenvifGrantRing sampleLayout sampleLut sampleGref 8192 (sampleRing 4) 4 1
      nullArrays).any (fun granted => granted.grants.any fun g => !g.entry.filled) = true := by
    decide
  rw [hcall] at hunfilled
  obtain ⟨g, hg, hempty⟩ := List.any_eq_true.mp hunfilled
  rw [(hconfined g hg).1] at hempty
  exact Bool.false_ne_true hempty

end XenNet.GrantConfinement
