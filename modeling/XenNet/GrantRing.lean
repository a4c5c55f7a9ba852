import XenNet.NetmapKernel
import XenNet.RunHeads
import XenNet.TransitionSystem

namespace XenNet.GrantRing

open XenNet.NetmapKernel
open XenNet.RunHeads
open XenNet.TransitionSystem

def pageSize : Nat := 4096

/-- `virt_to_page`. A page is given by its number. -/
def virtToPage (addr : Nat) : Nat :=
  addr / pageSize

/-- The layout of `struct netmap_ring`: where `slot[0]` is and what a slot takes. -/
structure RingLayout where
  slotOfs : Nat
  slotSize : Nat
  slotSize_pos : 0 < slotSize

/-- The address of slot `i` of the ring at address `ring`. -/
def RingLayout.slotAddr (layout : RingLayout) (ring i : Nat) : Nat :=
  ring + layout.slotOfs + i * layout.slotSize

def vifgref (ring : NetmapRing) (i : Nat) : UInt64 :=
  (ring.slot i).ptr

def setVifgref (ring : NetmapRing) (i : Nat) (ref : UInt64) : NetmapRing :=
  ring.setSlot i { ring.slot i with ptr := ref }

@[simp] theorem setVifgref_numSlots (ring : NetmapRing) (i : Nat) (ref : UInt64) :
    (setVifgref ring i ref).numSlots = ring.numSlots := rfl

theorem setVifgref_bufIdx (ring : NetmapRing) (i : Nat) (ref : UInt64) (k : Nat) :
    ((setVifgref ring i ref).slot k).bufIdx = (ring.slot k).bufIdx := by
  unfold setVifgref
  by_cases hsame : k = i
  · rw [hsame, NetmapRing.setSlot_slot_self]
  · rw [NetmapRing.setSlot_slot_of_ne _ _ _ hsame]

theorem vifgref_setVifgref (ring : NetmapRing) (i : Nat) (ref : UInt64) (k : Nat) :
    vifgref (setVifgref ring i ref) k = if k = i then ref else vifgref ring k := by
  unfold vifgref setVifgref
  split
  · rename_i hsame
    rw [hsame, NetmapRing.setSlot_slot_self]
  · rename_i hne
    rw [NetmapRing.setSlot_slot_of_ne _ _ _ hne]

/-- An entry of an array of pages. `filled` tells whether it was stored to since the
array was allocated. -/
structure PageEntry where
  page : Option Nat
  filled : Bool
deriving DecidableEq, Repr

def vmallocPages (stale : Nat → Option Nat) : Nat → PageEntry :=
  fun k => ⟨stale k, false⟩

def storePage (pages : Nat → PageEntry) (i page : Nat) : Nat → PageEntry :=
  fun k => if k = i then ⟨some page, true⟩ else pages k

/-- The loop of `nm_ring_pages`, from page `pageIdx` and entry `ringRefs` on. -/
def ringPagesLoop (pageRingEnd : Nat) : Nat → Nat → Nat → (Nat → PageEntry) →
    Option (Nat → PageEntry)
  | 0, _, _, _ => none
  | fuel + 1, pageIdx, ringRefs, pages =>
      if pageIdx ≤ pageRingEnd then
        ringPagesLoop pageRingEnd fuel (pageIdx + 1) (ringRefs + 1)
          (storePage pages ringRefs pageIdx)
      else some pages

/-- `nm_ring_pages`, for a ring at address `ring` -/
def nmRingPages (layout : RingLayout) (ring ndesc : Nat) (pages : Nat → PageEntry) :
    Option ((Nat → PageEntry) × UInt16) :=
  let pageRingStart := virtToPage ring
  let pageRingEnd := virtToPage (layout.slotAddr ring (ndesc - 1))
  (ringPagesLoop pageRingEnd (pageRingEnd - pageRingStart + 2) pageRingStart 0 pages).map
    fun pages => (pages, UInt16.ofNat (pageRingEnd - pageRingStart + 1))

def bufAddr (lut : UInt32 → Nat) (ring : NetmapRing) (i : Nat) : Nat :=
  lut (ring.slot i).bufIdx

def bufPage (lut : UInt32 → Nat) (ring : NetmapRing) (i : Nat) : Nat :=
  virtToPage (bufAddr lut ring i)

structure BufPages where
  ring : NetmapRing
  pages : Nat → PageEntry
  bufsRefs : Nat

/-- The body of the loop of `nm_buf_pages`. `lut` gives the address of a buffer. -/
def bufPagesStep (lut : UInt32 → Nat) (s : BufPages) (i : Nat) : BufPages :=
  let pageIdx := bufPage lut s.ring i
  let ring := setVifgref s.ring i 0
  if (s.pages s.bufsRefs).page ≠ some pageIdx then
    let bufsRefs := if i = 0 then s.bufsRefs else s.bufsRefs + 1
    { ring := setVifgref ring i 1
      pages := storePage s.pages bufsRefs pageIdx
      bufsRefs := bufsRefs }
  else { s with ring := ring }

/-- `nm_buf_pages`. Its value is the difference of the two pointers in `uint16_t`. -/
def nmBufPages (lut : UInt32 → Nat) (ring : NetmapRing) (ndesc : Nat)
    (pages : Nat → PageEntry) : BufPages × UInt16 :=
  let s := (List.range ndesc).foldl (bufPagesStep lut) ⟨ring, pages, 0⟩
  (s, UInt16.ofNat s.bufsRefs)

/-- A call of `gnttab_grant_foreign_access`: the entry whose page it grants, and the
reference that it returns. -/
structure Grant where
  domid : UInt16
  entry : PageEntry
  ref : Int32

/-- The conversion of a reference to the type of a slot's `ptr`. -/
def refPtr (ref : Int32) : UInt64 :=
  ref.toInt64.toUInt64

structure BufGrants where
  ring : NetmapRing
  bufRef : Nat → Int32
  j : Nat
  grants : List Grant

/-- The body of the first loop of `xenvif_grant_ring`. `gref k` is what call number `k` of
`gnttab_grant_foreign_access` returns. -/
def grantBufsStep (gref : Nat → Int32) (domid : UInt16) (bufPg : Nat → PageEntry)
    (s : BufGrants) (i : Nat) : BufGrants :=
  if vifgref s.ring i = 1 ∧ (bufPg s.j).page ≠ none then
    let ref := gref s.grants.length
    { ring := setVifgref s.ring i (refPtr ref)
      bufRef := fun k => if k = s.j then ref else s.bufRef k
      j := s.j + 1
      grants := s.grants ++ [⟨domid, bufPg s.j, ref⟩] }
  else s

def grantBufs (gref : Nat → Int32) (domid : UInt16) (bufPg : Nat → PageEntry)
    (numDesc : Nat) (ring : NetmapRing) (bufRef : Nat → Int32) : BufGrants :=
  (List.range numDesc).foldl (grantBufsStep gref domid bufPg) ⟨ring, bufRef, 0, []⟩

/-- The body of the second loop of `xenvif_grant_ring`. -/
def grantRingStep (gref : Nat → Int32) (domid : UInt16) (ringPg : Nat → PageEntry)
    (s : (Nat → Int32) × List Grant) (i : Nat) : (Nat → Int32) × List Grant :=
  let ref := gref s.2.length
  (fun k => if k = i then ref else s.1 k, s.2 ++ [⟨domid, ringPg i, ref⟩])

/-- The second loop of `xenvif_grant_ring`, up to and including `nrRingPgs`. -/
def grantRingPages (gref : Nat → Int32) (domid : UInt16) (ringPg : Nat → PageEntry)
    (nrRingPgs : UInt16) (ringRef : Nat → Int32) (grants : List Grant) :
    (Nat → Int32) × List Grant :=
  (List.range (nrRingPgs.toNat + 1)).foldl (grantRingStep gref domid ringPg) (ringRef, grants)

structure NmGrantRing where
  ringPg : Nat → PageEntry
  bufPg : Nat → PageEntry
  ringRef : Nat → Int32
  bufRef : Nat → Int32
  nrBufPgs : UInt16
  nrRingPgs : UInt16

/-- What the arrays that `xenvif_grant_ring` allocates hold at first. -/
structure VmallocContents where
  ringPg : Nat → Option Nat
  bufPg : Nat → Option Nat
  ringRef : Nat → Int32
  bufRef : Nat → Int32

/-- A ring granted to the guest: the descriptor, the ring with its references, and the
calls of `gnttab_grant_foreign_access` in order. -/
structure GrantedRing where
  gnt : NmGrantRing
  ring : NetmapRing
  grants : List Grant

/-- `xenvif_grant_ring`, for a ring at address `ringAddr`. The arrays have no end: what is
stored past an array's end is read back as it was stored. -/
def xenvifGrantRing (layout : RingLayout) (lut : UInt32 → Nat) (gref : Nat → Int32)
    (ringAddr : Nat) (ring : NetmapRing) (numDesc : Nat) (domid : UInt16)
    (stale : VmallocContents) : Option GrantedRing :=
  (nmRingPages layout ringAddr numDesc (vmallocPages stale.ringPg)).map fun ringPages =>
    let bufPages := nmBufPages lut ring numDesc (vmallocPages stale.bufPg)
    let bufs := grantBufs gref domid bufPages.1.pages numDesc bufPages.1.ring stale.bufRef
    let rings := grantRingPages gref domid ringPages.1 ringPages.2 stale.ringRef bufs.grants
    { gnt :=
        { ringPg := ringPages.1
          bufPg := bufPages.1.pages
          ringRef := rings.1
          bufRef := bufs.bufRef
          nrBufPgs := bufPages.2
          nrRingPgs := ringPages.2 }
      ring := bufs.ring
      grants := rings.2 }

/-- How many pages the ring takes, from the page of its header to the page in which its
last slot begins. -/
def ringPageCount (layout : RingLayout) (ring ndesc : Nat) : Nat :=
  virtToPage (layout.slotAddr ring (ndesc - 1)) - virtToPage ring + 1

theorem ringPagesLoop_eq (pageRingEnd fuel pageIdx ringRefs : Nat) (pages : Nat → PageEntry)
    (hfuel : pageRingEnd + 1 - pageIdx < fuel) :
    ringPagesLoop pageRingEnd fuel pageIdx ringRefs pages =
      some fun k =>
        if ringRefs ≤ k ∧ pageIdx + (k - ringRefs) ≤ pageRingEnd then
          ⟨some (pageIdx + (k - ringRefs)), true⟩
        else pages k := by
  induction fuel generalizing pageIdx ringRefs pages with
  | zero => omega
  | succ fuel ih =>
      by_cases hmore : pageIdx ≤ pageRingEnd
      · rw [ringPagesLoop, if_pos hmore, ih _ _ _ (by omega)]
        congr 1
        funext k
        rcases Nat.lt_trichotomy k ringRefs with hlt | rfl | hgt
        · simp [storePage, show ¬ ringRefs + 1 ≤ k by omega, show ¬ ringRefs ≤ k by omega,
            show k ≠ ringRefs by omega]
        · simp [storePage, hmore]
        · have hshift : pageIdx + 1 + (k - (ringRefs + 1)) = pageIdx + (k - ringRefs) := by omega
          simp [storePage, hshift, show ringRefs + 1 ≤ k by omega, show ringRefs ≤ k by omega,
            show k ≠ ringRefs by omega]
      · rw [ringPagesLoop, if_neg hmore]
        congr 1
        funext k
        rw [if_neg (by omega)]

theorem nmRingPages_eq (layout : RingLayout) (ring ndesc : Nat) (pages : Nat → PageEntry) :
    nmRingPages layout ring ndesc pages =
      some (fun k => if k < ringPageCount layout ring ndesc then
          ⟨some (virtToPage ring + k), true⟩ else pages k,
        UInt16.ofNat (ringPageCount layout ring ndesc)) := by
  have horder : virtToPage ring ≤ virtToPage (layout.slotAddr ring (ndesc - 1)) :=
    Nat.div_le_div_right (by unfold RingLayout.slotAddr; omega)
  unfold nmRingPages ringPageCount
  dsimp only
  rw [ringPagesLoop_eq _ _ _ _ _ (by omega)]
  simp only [Option.map_some, Nat.zero_le, Nat.sub_zero, true_and]
  congr 2
  funext k
  exact if_congr (by omega) rfl rfl

/-- Slot `i` is marked by `nm_buf_pages`: a page starts there, and for slot 0 the array did
not hold that page by chance. -/
def Marks (stale : Nat → Option Nat) (page : Nat → Nat) (i : Nat) : Prop :=
  IsHead page i ∧ (i = 0 → stale 0 ≠ some (page 0))

instance (stale : Nat → Option Nat) (page : Nat → Nat) : DecidablePred (Marks stale page) :=
  fun _ => inferInstanceAs (Decidable (_ ∧ _))

theorem marks_iff_of_pos {stale : Nat → Option Nat} {page : Nat → Nat} {i : Nat} (hi : 0 < i) :
    Marks stale page i ↔ IsHead page i :=
  ⟨fun h => h.1, fun h => ⟨h, fun hzero => absurd hzero (by omega)⟩⟩

theorem marks_zero_iff {stale : Nat → Option Nat} {page : Nat → Nat} :
    Marks stale page 0 ↔ stale 0 ≠ some (page 0) :=
  ⟨fun h => h.2 rfl, fun h => ⟨isHead_zero page, fun _ => h⟩⟩

theorem count_marks_le (stale : Nat → Option Nat) (page : Nat → Nat) (n : Nat) :
    Nat.count (Marks stale page) n ≤ Nat.count (IsHead page) n :=
  Nat.count_mono_left fun _ _ h => h.1

theorem marks_iff_isHead {stale : Nat → Option Nat} {page : Nat → Nat}
    (hfresh : stale 0 ≠ some (page 0)) (i : Nat) : Marks stale page i ↔ IsHead page i :=
  ⟨fun h => h.1, fun h => ⟨h, fun _ => hfresh⟩⟩

theorem count_marks_eq {stale : Nat → Option Nat} {page : Nat → Nat}
    (hfresh : stale 0 ≠ some (page 0)) (n : Nat) :
    Nat.count (Marks stale page) n = Nat.count (IsHead page) n := by
  apply Nat.le_antisymm
  · exact count_marks_le stale page n
  · exact Nat.count_mono_left fun i _ => (marks_iff_isHead hfresh i).mpr

structure BufPagesAfter (lut : UInt32 → Nat) (ring : NetmapRing) (stale : Nat → Option Nat)
    (i : Nat) (s : BufPages) : Prop where
  numSlots : s.ring.numSlots = ring.numSlots
  bufIdx : ∀ k, (s.ring.slot k).bufIdx = (ring.slot k).bufIdx
  vifgref : ∀ k, k < i →
    vifgref s.ring k = if Marks stale (bufPage lut ring) k then 1 else 0
  bufsRefs : s.bufsRefs = Nat.count (IsHead (bufPage lut ring)) i - 1
  untouched : i = 0 → s.pages = vmallocPages stale
  current : 0 < i → (s.pages s.bufsRefs).page = some (bufPage lut ring (i - 1))
  entry : ∀ k, k < i → IsHead (bufPage lut ring) k →
    s.pages (Nat.count (IsHead (bufPage lut ring)) k) =
      ⟨some (bufPage lut ring k), decide (Marks stale (bufPage lut ring) k)⟩

theorem bufPagesAfter_zero (lut : UInt32 → Nat) (ring : NetmapRing)
    (stale : Nat → Option Nat) :
    BufPagesAfter lut ring stale 0 ⟨ring, vmallocPages stale, 0⟩ where
  numSlots := rfl
  bufIdx _ := rfl
  vifgref k hk := absurd hk (Nat.not_lt_zero k)
  bufsRefs := by simp
  untouched _ := rfl
  current h := absurd h (Nat.lt_irrefl 0)
  entry k hk := absurd hk (Nat.not_lt_zero k)

variable {lut : UInt32 → Nat} {ring : NetmapRing} {stale : Nat → Option Nat} {i : Nat}
  {s : BufPages}

theorem BufPagesAfter.bufPage_eq (h : BufPagesAfter lut ring stale i s) (k : Nat) :
    bufPage lut s.ring k = bufPage lut ring k := by
  unfold bufPage bufAddr
  rw [h.bufIdx]

theorem BufPagesAfter.current_ne_iff (h : BufPagesAfter lut ring stale i s) :
    (s.pages s.bufsRefs).page ≠ some (bufPage lut ring i) ↔
      Marks stale (bufPage lut ring) i := by
  rcases Nat.eq_zero_or_pos i with rfl | hpos
  · rw [h.untouched rfl, h.bufsRefs, marks_zero_iff]
    simp [vmallocPages]
  · obtain ⟨m, rfl⟩ := Nat.exists_eq_add_of_lt hpos
    rw [h.current hpos, marks_iff_of_pos hpos]
    simp [isHead_succ_iff, eq_comm]

theorem BufPagesAfter.nextRef (h : BufPagesAfter lut ring stale i s) :
    (if i = 0 then s.bufsRefs else s.bufsRefs + 1) =
      Nat.count (IsHead (bufPage lut ring)) i := by
  rw [h.bufsRefs]
  split
  · rename_i hzero
    simp [hzero]
  · rename_i hpos
    have hcount := count_isHead_pos (bufPage lut ring) (Nat.pos_of_ne_zero hpos)
    omega

theorem BufPagesAfter.step_of_marks (h : BufPagesAfter lut ring stale i s)
    (hmark : Marks stale (bufPage lut ring) i) :
    bufPagesStep lut s i =
      { ring := setVifgref (setVifgref s.ring i 0) i 1
        pages := storePage s.pages (Nat.count (IsHead (bufPage lut ring)) i)
          (bufPage lut ring i)
        bufsRefs := Nat.count (IsHead (bufPage lut ring)) i } := by
  unfold bufPagesStep
  dsimp only
  rw [h.bufPage_eq, if_congr h.current_ne_iff rfl rfl, h.nextRef, if_pos hmark]

theorem BufPagesAfter.step_of_not_marks (h : BufPagesAfter lut ring stale i s)
    (hmark : ¬ Marks stale (bufPage lut ring) i) :
    bufPagesStep lut s i = { s with ring := setVifgref s.ring i 0 } := by
  unfold bufPagesStep
  dsimp only
  rw [h.bufPage_eq, if_congr h.current_ne_iff rfl rfl, if_neg hmark]

theorem bufPagesAfter_marked (h : BufPagesAfter lut ring stale i s)
    (hmark : Marks stale (bufPage lut ring) i) :
    BufPagesAfter lut ring stale (i + 1) (bufPagesStep lut s i) := by
  have hcount : Nat.count (IsHead (bufPage lut ring)) (i + 1) =
      Nat.count (IsHead (bufPage lut ring)) i + 1 := by
    rw [Nat.count_succ, if_pos hmark.1]
  rw [h.step_of_marks hmark]
  refine ⟨h.numSlots, ?_, ?_, ?_, fun hzero => by omega, ?_, ?_⟩
  · intro k
    rw [setVifgref_bufIdx, setVifgref_bufIdx, h.bufIdx]
  · intro k hk
    simp only [vifgref_setVifgref]
    by_cases hlast : k = i
    · rw [if_pos hlast, hlast, if_pos hmark]
    · rw [if_neg hlast, if_neg hlast, h.vifgref k (by omega)]
  · rw [hcount]
    rfl
  · intro _
    simp [storePage]
  · intro k hk hhead
    rcases Nat.lt_succ_iff_lt_or_eq.mp hk with hlt | rfl
    · have hbelow := Nat.count_strict_mono hhead hlt
      exact (if_neg (Nat.ne_of_lt hbelow)).trans (h.entry k hlt hhead)
    · simp [storePage, hmark]

theorem bufPagesAfter_unmarked (h : BufPagesAfter lut ring stale i s)
    (hmark : ¬ Marks stale (bufPage lut ring) i) :
    BufPagesAfter lut ring stale (i + 1) (bufPagesStep lut s i) := by
  have hcount : Nat.count (IsHead (bufPage lut ring)) (i + 1) - 1 =
      Nat.count (IsHead (bufPage lut ring)) i - 1 := by
    rcases Nat.eq_zero_or_pos i with rfl | hpos
    · simp [Nat.count_succ, isHead_zero]
    · rw [Nat.count_succ, if_neg fun hhead => hmark ((marks_iff_of_pos hpos).mpr hhead)]
      rfl
  have hsame : (s.pages s.bufsRefs).page = some (bufPage lut ring i) := by
    by_contra hne
    exact hmark (h.current_ne_iff.mp hne)
  rw [h.step_of_not_marks hmark]
  refine ⟨h.numSlots, ?_, ?_, ?_, fun hzero => by omega, fun _ => hsame, ?_⟩
  · intro k
    rw [setVifgref_bufIdx, h.bufIdx]
  · intro k hk
    simp only [vifgref_setVifgref]
    by_cases hlast : k = i
    · rw [if_pos hlast, hlast, if_neg hmark]
    · rw [if_neg hlast, h.vifgref k (by omega)]
  · rw [hcount]
    exact h.bufsRefs
  · intro k hk hhead
    rcases Nat.lt_succ_iff_lt_or_eq.mp hk with hlt | rfl
    · exact h.entry k hlt hhead
    · -- only slot 0 is a head that is not marked, and its entry is still the stale one
      obtain rfl : k = 0 := by
        by_contra hne
        exact hmark ((marks_iff_of_pos (Nat.pos_of_ne_zero hne)).mpr hhead)
      rw [h.bufsRefs, h.untouched rfl] at hsame
      rw [h.untouched rfl]
      simp only [Nat.count_zero, Nat.zero_sub] at hsame ⊢
      simpa [vmallocPages, hmark] using hsame

/-- `nm_buf_pages` marks the slots at which a page starts and lists those pages. -/
theorem nmBufPages_spec (lut : UInt32 → Nat) (ring : NetmapRing) (ndesc : Nat)
    (stale : Nat → Option Nat) :
    BufPagesAfter lut ring stale ndesc (nmBufPages lut ring ndesc (vmallocPages stale)).1 := by
  refine foldl_range_invariant (I := BufPagesAfter lut ring stale)
    (bufPagesAfter_zero lut ring stale) ?_
  intro i s _ hafter
  by_cases hmark : Marks stale (bufPage lut ring) i
  · exact bufPagesAfter_marked hafter hmark
  · exact bufPagesAfter_unmarked hafter hmark

theorem BufPagesAfter.exists_entry (h : BufPagesAfter lut ring stale i s) {k : Nat}
    (hk : k < Nat.count (IsHead (bufPage lut ring)) i) :
    ∃ p, p < i ∧ Nat.count (IsHead (bufPage lut ring)) p = k ∧
      s.pages k = ⟨some (bufPage lut ring p), decide (Marks stale (bufPage lut ring) p)⟩ := by
  obtain ⟨p, hp, hhead, hcount⟩ := exists_of_lt_count hk
  exact ⟨p, hp, hcount, hcount ▸ h.entry p hp hhead⟩

theorem BufPagesAfter.page_ne_none (h : BufPagesAfter lut ring stale i s) {k : Nat}
    (hk : k < Nat.count (Marks stale (bufPage lut ring)) i) : (s.pages k).page ≠ none := by
  obtain ⟨p, _, _, hentry⟩ := h.exists_entry (Nat.lt_of_lt_of_le hk (count_marks_le _ _ _))
  rw [hentry]
  exact Option.some_ne_none _

/-- What the first loop of `xenvif_grant_ring` has done after `i` slots, when the slots
that satisfy `mark` are marked. -/
structure BufGrantsAfter (gref : Nat → Int32) (domid : UInt16) (bufPg : Nat → PageEntry)
    (ring : NetmapRing) (mark : Nat → Prop) [DecidablePred mark] (numDesc i : Nat)
    (s : BufGrants) : Prop where
  numSlots : s.ring.numSlots = ring.numSlots
  bufIdx : ∀ k, (s.ring.slot k).bufIdx = (ring.slot k).bufIdx
  granted : ∀ k, k < i →
    vifgref s.ring k = if mark k then refPtr (gref (Nat.count mark k)) else 0
  ahead : ∀ k, i ≤ k → k < numDesc → vifgref s.ring k = if mark k then 1 else 0
  j : s.j = Nat.count mark i
  bufRef : ∀ k, k < Nat.count mark i → s.bufRef k = gref k
  grants : s.grants = (List.range (Nat.count mark i)).map fun k => ⟨domid, bufPg k, gref k⟩

theorem bufGrantsAfter_marked {gref : Nat → Int32} {domid : UInt16} {bufPg : Nat → PageEntry}
    {ring : NetmapRing} {mark : Nat → Prop} [DecidablePred mark] {numDesc i : Nat}
    {s : BufGrants} (hpage : ∀ k, k < Nat.count mark numDesc → (bufPg k).page ≠ none)
    (hi : i < numDesc) (h : BufGrantsAfter gref domid bufPg ring mark numDesc i s)
    (hmark : mark i) :
    BufGrantsAfter gref domid bufPg ring mark numDesc (i + 1)
      (grantBufsStep gref domid bufPg s i) := by
  have hhere := h.ahead i (Nat.le_refl i) hi
  rw [if_pos hmark] at hhere
  have hlength : s.grants.length = Nat.count mark i := by
    simp [h.grants]
  have hcount : Nat.count mark (i + 1) = Nat.count mark i + 1 := by
    rw [Nat.count_succ, if_pos hmark]
  have hentry : (bufPg s.j).page ≠ none := by
    rw [h.j]
    exact hpage _ (Nat.count_strict_mono hmark hi)
  unfold grantBufsStep
  rw [if_pos ⟨hhere, hentry⟩]
  dsimp only
  rw [hlength, h.j]
  refine ⟨h.numSlots, ?_, ?_, ?_, hcount.symm, ?_, ?_⟩
  · intro k
    rw [setVifgref_bufIdx, h.bufIdx]
  · intro k hk
    rw [vifgref_setVifgref]
    by_cases hlast : k = i
    · rw [if_pos hlast, hlast, if_pos hmark]
    · rw [if_neg hlast, h.granted k (by omega)]
  · intro k hk hlt
    rw [vifgref_setVifgref, if_neg (by omega), h.ahead k (by omega) hlt]
  · intro k hk
    by_cases hlast : k = Nat.count mark i
    · simp [hlast]
    · simpa [hlast] using h.bufRef k (by omega)
  · rw [hcount, List.range_succ, List.map_append, ← h.grants]
    rfl

theorem bufGrantsAfter_unmarked {gref : Nat → Int32} {domid : UInt16}
    {bufPg : Nat → PageEntry} {ring : NetmapRing} {mark : Nat → Prop} [DecidablePred mark]
    {numDesc i : Nat} {s : BufGrants} (hi : i < numDesc)
    (h : BufGrantsAfter gref domid bufPg ring mark numDesc i s) (hmark : ¬ mark i) :
    BufGrantsAfter gref domid bufPg ring mark numDesc (i + 1)
      (grantBufsStep gref domid bufPg s i) := by
  have hhere := h.ahead i (Nat.le_refl i) hi
  rw [if_neg hmark] at hhere
  have hcount : Nat.count mark (i + 1) = Nat.count mark i := by
    rw [Nat.count_succ, if_neg hmark]
    rfl
  unfold grantBufsStep
  rw [if_neg (by simp [hhere])]
  refine ⟨h.numSlots, h.bufIdx, ?_, ?_, by rw [hcount, h.j], by rw [hcount]; exact h.bufRef,
    by rw [hcount, h.grants]⟩
  · intro k hk
    by_cases hlast : k = i
    · rw [hlast, hhere, if_neg hmark]
    · exact h.granted k (by omega)
  · intro k hk hlt
    exact h.ahead k (by omega) hlt

theorem grantBufs_after (gref : Nat → Int32) (domid : UInt16) {bufPg : Nat → PageEntry}
    {ring : NetmapRing} {mark : Nat → Prop} [DecidablePred mark] {numDesc : Nat}
    (bufRef : Nat → Int32)
    (hpage : ∀ k, k < Nat.count mark numDesc → (bufPg k).page ≠ none)
    (hmarked : ∀ k, k < numDesc → vifgref ring k = if mark k then 1 else 0) {i : Nat}
    (hi : i ≤ numDesc) :
    BufGrantsAfter gref domid bufPg ring mark numDesc i
      (grantBufs gref domid bufPg i ring bufRef) := by
  refine foldl_range_invariant (I := BufGrantsAfter gref domid bufPg ring mark numDesc) ?_ ?_
  · refine ⟨rfl, fun _ => rfl, fun k hk => absurd hk (Nat.not_lt_zero k),
      fun k _ => hmarked k, by simp, fun k hk => ?_, by simp⟩
    simp at hk
  · intro k s hk hafter
    by_cases hmark : mark k
    · exact bufGrantsAfter_marked hpage (by omega) hafter hmark
    · exact bufGrantsAfter_unmarked (by omega) hafter hmark

/-- The first loop of `xenvif_grant_ring` grants one page for every marked slot, in order,
and leaves the references in these slots. -/
theorem grantBufs_spec (gref : Nat → Int32) (domid : UInt16) {bufPg : Nat → PageEntry}
    {ring : NetmapRing} {mark : Nat → Prop} [DecidablePred mark] {numDesc : Nat}
    (bufRef : Nat → Int32)
    (hpage : ∀ k, k < Nat.count mark numDesc → (bufPg k).page ≠ none)
    (hmarked : ∀ k, k < numDesc → vifgref ring k = if mark k then 1 else 0) :
    BufGrantsAfter gref domid bufPg ring mark numDesc numDesc
      (grantBufs gref domid bufPg numDesc ring bufRef) :=
  grantBufs_after gref domid bufRef hpage hmarked (Nat.le_refl numDesc)

theorem BufPagesAfter.grantBufs (h : BufPagesAfter lut ring stale i s) (gref : Nat → Int32)
    (domid : UInt16) (bufRef : Nat → Int32) :
    BufGrantsAfter gref domid s.pages s.ring (Marks stale (bufPage lut ring)) i i
      (GrantRing.grantBufs gref domid s.pages i s.ring bufRef) :=
  grantBufs_spec gref domid bufRef (fun _ hk => h.page_ne_none hk) h.vifgref

theorem grantRingPages_grants (gref : Nat → Int32) (domid : UInt16) (ringPg : Nat → PageEntry)
    (nrRingPgs : UInt16) (ringRef : Nat → Int32) (grants : List Grant) :
    (grantRingPages gref domid ringPg nrRingPgs ringRef grants).2 =
      grants ++ (List.range (nrRingPgs.toNat + 1)).map fun i =>
        ⟨domid, ringPg i, gref (grants.length + i)⟩ := by
  refine foldl_range_invariant
    (I := fun i (s : (Nat → Int32) × List Grant) => s.2 = grants ++ (List.range i).map fun i =>
      ⟨domid, ringPg i, gref (grants.length + i)⟩) ?_ ?_
  · simp
  · intro i s _ hbefore
    simp [grantRingStep, hbefore, List.range_succ]

def sampleRing (n : Nat) : NetmapRing where
  numSlots := n
  head := 0
  cur := 0
  tail := 0
  slot i := ⟨UInt32.ofNat (i + 2), 2048, 0, 0⟩

def sampleLut (bufIdx : UInt32) : Nat :=
  bufIdx.toNat * 2048

def sampleGref (k : Nat) : Int32 :=
  Int32.ofNat (k + 8)

end XenNet.GrantRing
