import XenNet.GrantRing
import XenNet.NetfrontModel

namespace XenNet.NetfrontGrant

open XenNet.NetmapKernel
open XenNet.GrantRing
open XenNet.TransitionSystem

def gntstOkay : Int16 := 0

def gntmapHostMap : UInt32 := 2

def einval : Int := 22

structure GnttabMapGrantRef where
  hostAddr : Nat
  flags : UInt32
  ref : UInt32
  dom : UInt16
  status : Int16
  handle : UInt32

structure GnttabMapEntry where
  hostAddr : Nat
  handle : UInt32

structure NetmapGnt where
  ringGrefs : Nat → UInt32
  bufsGrefs : Nat → UInt32
  ringMap : Nat → GnttabMapGrantRef
  ringGnt : Nat → GnttabMapEntry
  bufsMap : Nat → GnttabMapGrantRef
  bufsGnt : Nat → GnttabMapEntry
  nrRingGrefs : Nat
  nrBufsGrefs : Nat
  bufsBase : Nat

/-- `HYPERVISOR_grant_table_op` for `GNTTABOP_map_grant_ref` on the first `count` operations:
the value that it returns, and the status and the handle that it stores in each of them. -/
def MapGrantRef :=
  (Nat → GnttabMapGrantRef) → Nat → Int × (Nat → Int16 × UInt32)

/-- The arrays that `map_ops_new` allocates, as they are before the first store, and the
address of the pages that it allocates. -/
structure MapOps where
  addr : Nat
  op : Nat → GnttabMapGrantRef
  pte : Nat → GnttabMapEntry

/-- The operations that `gnttab_map` fills in. The domain is always 0. -/
def fillOps (grefs : Nat → UInt32) (nrGrefs : Nat) (new : MapOps) : Nat → GnttabMapGrantRef :=
  fun i =>
    if i < nrGrefs then
      { new.op i with
        ref := grefs i
        dom := 0
        flags := gntmapHostMap
        hostAddr := new.addr + pageSize * i }
    else new.op i

def completeOps (op : Nat → GnttabMapGrantRef) (nrGrefs : Nat)
    (results : Nat → Int16 × UInt32) : Nat → GnttabMapGrantRef :=
  fun i =>
    if i < nrGrefs then { op i with status := (results i).1, handle := (results i).2 }
    else op i

/-- The entries that `gnttab_map` stores, those of the operations that succeeded. -/
def mapEntries (op : Nat → GnttabMapGrantRef) (nrGrefs : Nat) (pte : Nat → GnttabMapEntry) :
    Nat → GnttabMapEntry :=
  fun i =>
    if i < nrGrefs ∧ (op i).status = gntstOkay then ⟨(op i).hostAddr, (op i).handle⟩ else pte i

/-- What both kinds of `gnttab_map` do with their references: the operations, the entries
and the value that it returns. -/
def mapGrefs (mapGrantRef : MapGrantRef) (new : MapOps) (grefs : Nat → UInt32)
    (nrGrefs : Nat) : (Nat → GnttabMapGrantRef) × (Nat → GnttabMapEntry) × Int :=
  let op := fillOps grefs nrGrefs new
  let hypercall := mapGrantRef op nrGrefs
  let done := completeOps op nrGrefs hypercall.2
  if hypercall.1 ≠ 0 then (done, new.pte, -einval)
  else (done, mapEntries done nrGrefs new.pte, 0)

/-- `gnttab_map`. It leaves out the last reference of a ring, which has at least one. -/
def gnttabMap (mapGrantRef : MapGrantRef) (new : MapOps) (rdesc : NetmapGnt) (ring : Bool) :
    NetmapGnt × Int :=
  if !ring then
    let mapped := mapGrefs mapGrantRef new rdesc.ringGrefs (rdesc.nrRingGrefs - 1)
    ({ rdesc with ringMap := mapped.1, ringGnt := mapped.2.1 }, mapped.2.2)
  else
    let mapped := mapGrefs mapGrantRef new rdesc.bufsGrefs rdesc.nrBufsGrefs
    ({ rdesc with bufsMap := mapped.1, bufsGnt := mapped.2.1 }, mapped.2.2)

/-- The body of the loop of `xenbus_read_bufs_grefs`. The state is `bufs_grefs` and `j`. -/
def readBufsStep (ring : NetmapRing) (s : (Nat → UInt32) × Nat) (i : Nat) :
    (Nat → UInt32) × Nat :=
  if vifgref ring i ≠ 0 then
    (fun k => if k = s.2 then (vifgref ring i).toUInt32 else s.1 k, s.2 + 1)
  else s

/-- `xenbus_read_bufs_grefs`, with what the array that it allocates holds at first. -/
def xenbusReadBufsGrefs (ring : NetmapRing) (bufsGrefs : Nat → UInt32) (rdesc : NetmapGnt) :
    NetmapGnt :=
  let s := (List.range ring.numSlots).foldl (readBufsStep ring) (bufsGrefs, 0)
  { rdesc with bufsGrefs := s.1, nrBufsGrefs := s.2 }

/-- The steps of `setup_netfront_netmap` that map the buffers of one ring. -/
def setupBufs (mapGrantRef : MapGrantRef) (new : MapOps) (bufsGrefs : Nat → UInt32)
    (ring : NetmapRing) (rdesc : NetmapGnt) : NetmapGnt :=
  let rdesc := (gnttabMap mapGrantRef new (xenbusReadBufsGrefs ring bufsGrefs rdesc) true).1
  { rdesc with bufsBase := (rdesc.bufsGnt 0).hostAddr }

/-- The hypervisor accepts the operations and maps every page. -/
def MapsEveryPage (mapGrantRef : MapGrantRef) : Prop :=
  ∀ op count, (mapGrantRef op count).1 = 0 ∧
    ∀ i, i < count → ((mapGrantRef op count).2 i).1 = gntstOkay

theorem toUInt32_refPtr (ref : Int32) : (refPtr ref).toUInt32 = ref.toUInt32 := by
  have hbits : (refPtr ref).toBitVec = ref.toBitVec.signExtend 64 := rfl
  apply UInt32.toBitVec_inj.mp
  apply BitVec.eq_of_getLsbD_eq
  intro i hi
  rw [UInt64.toBitVec_toUInt32, hbits, Int32.toBitVec_toUInt32, BitVec.getLsbD_setWidth,
    BitVec.getLsbD_signExtend]
  simp [hi, show i < 64 by omega]

theorem toUInt32_injective {ref ref' : Int32} (heq : ref.toUInt32 = ref'.toUInt32) :
    ref = ref' := by
  cases ref
  cases ref'
  exact congrArg Int32.ofUInt32 heq

theorem refPtr_ne_zero {ref : Int32} (href : ref ≠ 0) : refPtr ref ≠ 0 := by
  intro hzero
  have hnarrow := toUInt32_refPtr ref
  rw [hzero] at hnarrow
  exact href (toUInt32_injective hnarrow.symm)

/-- What `xenbus_read_bufs_grefs` has done after the first `i` slots, when the slots that
satisfy `mark` carry the references in order. -/
structure GrefsAfter (gref : Nat → Int32) (mark : Nat → Prop) [DecidablePred mark] (i : Nat)
    (s : (Nat → UInt32) × Nat) : Prop where
  j : s.2 = Nat.count mark i
  bufsGrefs : ∀ k, k < Nat.count mark i → s.1 k = (gref k).toUInt32

theorem grefsAfter_succ {gref : Nat → Int32} {mark : Nat → Prop} [DecidablePred mark]
    {ring : NetmapRing} {i : Nat} {s : (Nat → UInt32) × Nat}
    (href : mark i → gref (Nat.count mark i) ≠ 0)
    (hslot : vifgref ring i = if mark i then refPtr (gref (Nat.count mark i)) else 0)
    (h : GrefsAfter gref mark i s) : GrefsAfter gref mark (i + 1) (readBufsStep ring s i) := by
  unfold readBufsStep
  by_cases hmark : mark i
  · have hcount : Nat.count mark (i + 1) = Nat.count mark i + 1 := by
      rw [Nat.count_succ, if_pos hmark]
    rw [if_pos hmark] at hslot
    rw [hslot, if_pos (refPtr_ne_zero (href hmark)), toUInt32_refPtr, h.j]
    refine ⟨hcount.symm, ?_⟩
    intro k hk
    by_cases hlast : k = Nat.count mark i
    · simp [hlast]
    · simpa [hlast] using h.bufsGrefs k (by omega)
  · have hcount : Nat.count mark (i + 1) = Nat.count mark i := by
      rw [Nat.count_succ, if_neg hmark]
      rfl
    rw [if_neg hmark] at hslot
    rw [hslot, if_neg (by simp)]
    exact ⟨by rw [hcount, h.j], by rw [hcount]; exact h.bufsGrefs⟩

theorem xenbusReadBufsGrefs_spec (gref : Nat → Int32) (mark : Nat → Prop)
    [DecidablePred mark] (ring : NetmapRing) (bufsGrefs : Nat → UInt32) (rdesc : NetmapGnt)
    (href : ∀ k, k < Nat.count mark ring.numSlots → gref k ≠ 0)
    (hslot : ∀ i, i < ring.numSlots →
      vifgref ring i = if mark i then refPtr (gref (Nat.count mark i)) else 0) :
    (xenbusReadBufsGrefs ring bufsGrefs rdesc).nrBufsGrefs = Nat.count mark ring.numSlots ∧
      ∀ k, k < Nat.count mark ring.numSlots →
        (xenbusReadBufsGrefs ring bufsGrefs rdesc).bufsGrefs k = (gref k).toUInt32 := by
  have hafter : GrefsAfter gref mark ring.numSlots
      ((List.range ring.numSlots).foldl (readBufsStep ring) (bufsGrefs, 0)) := by
    refine foldl_range_invariant (I := GrefsAfter gref mark) ?_ ?_
    · exact ⟨by simp, fun k hk => by simp at hk⟩
    · intro i s hi h
      exact grefsAfter_succ (fun hmark => href _ (Nat.count_strict_mono hmark hi))
        (hslot i hi) h
  exact ⟨hafter.j, hafter.bufsGrefs⟩

theorem mapGrefs_spec {mapGrantRef : MapGrantRef} (hmaps : MapsEveryPage mapGrantRef)
    (new : MapOps) (grefs : Nat → UInt32) {nrGrefs i : Nat} (hi : i < nrGrefs) :
    let mapped := mapGrefs mapGrantRef new grefs nrGrefs
    (mapped.1 i).ref = grefs i ∧ (mapped.1 i).hostAddr = new.addr + pageSize * i ∧
      (mapped.1 i).status = gntstOkay ∧ (mapped.2.1 i).hostAddr = new.addr + pageSize * i := by
  obtain ⟨hreturn, hokay⟩ := hmaps (fillOps grefs nrGrefs new) nrGrefs
  unfold mapGrefs
  dsimp only
  rw [if_neg (not_not_intro hreturn)]
  simp [completeOps, mapEntries, fillOps, hi, hokay i hi]

end XenNet.NetfrontGrant
