import XenNet.GrantMapping

namespace XenNet.PageOrder

open XenNet.GrantRing
open XenNet.NetfrontGrant
open XenNet.GrantMapping

/-- The loop of `pow2`. -/
def pow2Loop : Nat → UInt32 → UInt32
  | 0, val => val
  | t + 1, val => pow2Loop t (val * 2)

def pow2 (order : UInt16) : UInt32 :=
  let t := order.toUInt32
  if t = 0 then 1 else pow2Loop t.toNat 1

/-- The kernel's `ilog2` of a positive number. -/
def ilog2 (n : Int32) : Int32 :=
  Int32.ofNat (Nat.log2 n.toUInt32.toNat)

/-- The loop of `order`. It compares with `nr_grefs` as an unsigned number. -/
def orderLoop (nrGrefs : Int32) : Nat → Int32 → Option Int32
  | 0, _ => none
  | fuel + 1, pgo =>
      if pow2 pgo.toUInt32.toUInt16 < nrGrefs.toUInt32 then orderLoop nrGrefs fuel (pgo + 1)
      else some pgo

def order (fuel : Nat) (nrGrefs : Int32) : Option Int32 :=
  orderLoop nrGrefs fuel (ilog2 nrGrefs)

/-- `map_ops_new`. `getFreePages` is where `__get_free_pages` puts a block of the order. -/
def mapOpsNew (fuel : Nat) (getFreePages : Int32 → Nat) (op : Nat → GnttabMapGrantRef)
    (pte : Nat → GnttabMapEntry) (nrefs : Int32) : Option MapOps :=
  (order fuel nrefs).map fun k => { addr := getFreePages k, op := op, pte := pte }

/-- The number of references of the kind that the last argument of `gnttab_map` selects. -/
def nrGrefs (rdesc : NetmapGnt) (ring : Bool) : Nat :=
  if !ring then rdesc.nrRingGrefs else rdesc.nrBufsGrefs

/-- `gnttab_map` with its allocations, which are made before the last reference of a ring is
left out. -/
def gnttabMapNew (fuel : Nat) (getFreePages : Int32 → Nat) (op : Nat → GnttabMapGrantRef)
    (pte : Nat → GnttabMapEntry) (mapGrantRef : MapGrantRef) (rdesc : NetmapGnt)
    (ring : Bool) : Option (NetmapGnt × Int) :=
  (mapOpsNew fuel getFreePages op pte (Int32.ofNat (nrGrefs rdesc ring))).map fun new =>
    gnttabMap mapGrantRef new rdesc ring

theorem toNat_pow2Loop (t : Nat) (val : UInt32) :
    (pow2Loop t val).toNat = val.toNat * 2 ^ t % 2 ^ 32 := by
  induction t generalizing val with
  | zero =>
      rw [pow2Loop, Nat.pow_zero, Nat.mul_one]
      exact (Nat.mod_eq_of_lt val.toNat_lt).symm
  | succ t ih =>
      have htwo : (val * 2).toNat = val.toNat * 2 % 2 ^ 32 := UInt32.toNat_mul val 2
      have hpow : 2 ^ (t + 1) = 2 * 2 ^ t := Nat.pow_succ'
      rw [pow2Loop, ih, htwo, Nat.mod_mul_mod, hpow, Nat.mul_assoc]

theorem toNat_pow2 (order : UInt16) : (pow2 order).toNat = 2 ^ order.toNat % 2 ^ 32 := by
  have hwide : order.toUInt32.toNat = order.toNat := UInt16.toNat_toUInt32 order
  unfold pow2
  dsimp only
  split
  · rename_i hzero
    rw [← hwide, hzero]
    rfl
  · rw [toNat_pow2Loop, hwide]
    exact congrArg (· % 2 ^ 32) (Nat.one_mul _)

theorem toNat_pow2_ofNat {k : Nat} (hk : k < 32) :
    (pow2 (Int32.ofNat k).toUInt32.toUInt16).toNat = 2 ^ k := by
  have hshort : (Int32.ofNat k).toUInt32.toUInt16.toNat = k := by
    have hbits : (Int32.ofNat k).toUInt32 = UInt32.ofNat k := rfl
    rw [hbits, UInt32.toNat_toUInt16, UInt32.toNat_ofNat']
    omega
  have hpow : 2 ^ k < 2 ^ 32 := Nat.pow_lt_pow_right (by decide) hk
  rw [toNat_pow2, hshort, Nat.mod_eq_of_lt hpow]

section Order

variable {nr : Nat}

theorem toNat_ofNat_grefs (hnr : nr < 2 ^ 31) : (Int32.ofNat nr).toUInt32.toNat = nr :=
  UInt32.toNat_ofNat_of_lt' (by simp only [UInt32.size]; omega)

theorem orderLoop_of_lt (hnr : nr < 2 ^ 31) {k fuel : Nat} (hk : k < 32) (hmore : 2 ^ k < nr) :
    orderLoop (Int32.ofNat nr) (fuel + 1) (Int32.ofNat k) =
      orderLoop (Int32.ofNat nr) fuel (Int32.ofNat (k + 1)) := by
  have hless : pow2 (Int32.ofNat k).toUInt32.toUInt16 < (Int32.ofNat nr).toUInt32 := by
    rw [UInt32.lt_iff_toNat_lt, toNat_pow2_ofNat hk, toNat_ofNat_grefs hnr]
    exact hmore
  have hnext : Int32.ofNat k + 1 = Int32.ofNat (k + 1) := (Int32.ofNat_add k 1).symm
  rw [orderLoop, if_pos hless, hnext]

theorem orderLoop_of_le (hnr : nr < 2 ^ 31) {k fuel : Nat} (hk : k < 32) (henough : nr ≤ 2 ^ k) :
    orderLoop (Int32.ofNat nr) (fuel + 1) (Int32.ofNat k) = some (Int32.ofNat k) := by
  have hnot : ¬ pow2 (Int32.ofNat k).toUInt32.toUInt16 < (Int32.ofNat nr).toUInt32 := by
    rw [UInt32.lt_iff_toNat_lt, toNat_pow2_ofNat hk, toNat_ofNat_grefs hnr]
    exact Nat.not_lt_of_le henough
  rw [orderLoop, if_neg hnot]

theorem order_spec (hpos : 1 ≤ nr) (hnr : nr < 2 ^ 31) :
    ∃ k, k < 32 ∧ nr ≤ 2 ^ k ∧ (∀ j, nr ≤ 2 ^ j → k ≤ j) ∧
      ∀ fuel, 2 ≤ fuel → order fuel (Int32.ofNat nr) = some (Int32.ofNat k) := by
  have hne : nr ≠ 0 := Nat.one_le_iff_ne_zero.mp hpos
  have hle : 2 ^ nr.log2 ≤ nr := Nat.log2_self_le hne
  have hlt : nr < 2 ^ (nr.log2 + 1) := Nat.lt_log2_self
  have hlog : nr.log2 < 31 := (Nat.log2_lt hne).mpr hnr
  have hstart : ilog2 (Int32.ofNat nr) = Int32.ofNat nr.log2 := by
    rw [ilog2, toNat_ofNat_grefs hnr]
  rcases Nat.eq_or_lt_of_le hle with heq | hmore
  · refine ⟨nr.log2, by omega, heq.ge, fun j hj => ?_, fun fuel hfuel => ?_⟩
    · rw [← heq] at hj
      exact (Nat.pow_le_pow_iff_right (by decide)).mp hj
    · obtain ⟨fuel, rfl⟩ := Nat.exists_eq_add_of_le' hfuel
      rw [order, hstart]
      exact orderLoop_of_le hnr (by omega) heq.ge
  · refine ⟨nr.log2 + 1, by omega, hlt.le, fun j hj => ?_, fun fuel hfuel => ?_⟩
    · exact (Nat.pow_lt_pow_iff_right (by decide)).mp (hmore.trans_le hj)
    · obtain ⟨fuel, rfl⟩ := Nat.exists_eq_add_of_le' hfuel
      rw [order, hstart, orderLoop_of_lt hnr (by omega) hmore]
      exact orderLoop_of_le hnr (by omega) hlt.le

end Order

theorem hostAddr_gnttabMap (mapGrantRef : MapGrantRef) (new : MapOps) (rdesc : NetmapGnt)
    (ring : Bool) {i : Nat} (hi : i < nrMapped rdesc ring) :
    (tableMap (gnttabMap mapGrantRef new rdesc ring).1 ring i).hostAddr =
      new.addr + pageSize * i := by
  rw [(gnttabMap_tables mapGrantRef new rdesc ring).1]
  unfold mapGrefs
  dsimp only
  split <;> simp [completeOps, fillOps, hi]

theorem nrMapped_le (rdesc : NetmapGnt) (ring : Bool) :
    nrMapped rdesc ring ≤ nrGrefs rdesc ring := by
  cases ring with
  | false => exact Nat.sub_le _ _
  | true => exact Nat.le_refl _

theorem virtToPage_add (addr i : Nat) :
    virtToPage (addr + pageSize * i) = virtToPage addr + i :=
  Nat.add_mul_div_left addr i (by decide)

/-- The address is that of page `i` of the block of `2 ^ k` pages at `addr`, and lies in the
block. As long as the block lies in the address space, the sum in `unsigned long` is the
address. -/
structure MappedInBlock (addr k i hostAddr : Nat) : Prop where
  eq : hostAddr = addr + pageSize * i
  inside : hostAddr + pageSize ≤ addr + pageSize * 2 ^ k
  unsignedLong : addr + pageSize * 2 ^ k ≤ 2 ^ 64 →
    (UInt64.ofNat addr + UInt64.ofNat pageSize * UInt64.ofNat i).toNat = hostAddr

theorem mappedInBlock_page (addr : Nat) {k i : Nat} (hi : i < 2 ^ k) :
    MappedInBlock addr k i (addr + pageSize * i) := by
  refine ⟨rfl, ?_, fun hblock => ?_⟩
  · have hroom : pageSize * (i + 1) ≤ pageSize * 2 ^ k := Nat.mul_le_mul_left pageSize hi
    rw [Nat.mul_succ] at hroom
    omega
  · rw [← UInt64.ofNat_mul, ← UInt64.ofNat_add]
    apply UInt64.toNat_ofNat_of_lt'
    simp only [UInt64.size, pageSize] at hblock ⊢
    omega

/-- `order` returns the least order of a block that has room for the references, and every
page is mapped to a page of its own in the block of this order. -/
theorem mappedPages_in_block {nr : Nat} (hpos : 1 ≤ nr) (hnr : nr < 2 ^ 31) :
    ∃ k, nr ≤ 2 ^ k ∧ (∀ j, nr ≤ 2 ^ j → k ≤ j) ∧ ∀ fuel, 2 ≤ fuel →
      order fuel (Int32.ofNat nr) = some (Int32.ofNat k) ∧
      ∀ (getFreePages : Int32 → Nat) (op : Nat → GnttabMapGrantRef)
        (pte : Nat → GnttabMapEntry) (mapGrantRef : MapGrantRef) (rdesc : NetmapGnt)
        (ring : Bool), nrGrefs rdesc ring = nr →
        ∃ mapped, gnttabMapNew fuel getFreePages op pte mapGrantRef rdesc ring = some mapped ∧
          ∀ i, i < nrMapped rdesc ring →
            MappedInBlock (getFreePages (Int32.ofNat k)) k i
                (tableMap mapped.1 ring i).hostAddr ∧
              ∀ j, j < nrMapped rdesc ring → i ≠ j →
                virtToPage (tableMap mapped.1 ring i).hostAddr ≠
                  virtToPage (tableMap mapped.1 ring j).hostAddr := by
  obtain ⟨k, _, henough, hleast, horder⟩ := order_spec hpos hnr
  refine ⟨k, henough, hleast, fun fuel hfuel => ⟨horder fuel hfuel, ?_⟩⟩
  intro getFreePages op pte mapGrantRef rdesc ring hcount
  have hnew : gnttabMapNew fuel getFreePages op pte mapGrantRef rdesc ring =
      some (gnttabMap mapGrantRef ⟨getFreePages (Int32.ofNat k), op, pte⟩ rdesc ring) := by
    rw [gnttabMapNew, mapOpsNew, hcount, horder fuel hfuel]
    rfl
  refine ⟨_, hnew, fun i hi => ?_⟩
  have hmapped := nrMapped_le rdesc ring
  rw [hostAddr_gnttabMap mapGrantRef _ rdesc ring hi]
  refine ⟨mappedInBlock_page _ (by omega), fun j hj hne => ?_⟩
  rw [hostAddr_gnttabMap mapGrantRef _ rdesc ring hj, virtToPage_add, virtToPage_add]
  omega

theorem mappedPages_in_block_five_refs :
    order 2 5 = some 3 ∧ ∃ k mapped,
      gnttabMapNew 2 (fun _ => 65536) twoRefs.ringMap twoRefs.ringGnt (refuseRef 0)
        { twoRefs with nrRingGrefs := 5 } false = some mapped ∧
      MappedInBlock 65536 k 3 (mapped.1.ringMap 3).hostAddr := by
  obtain ⟨k, _, _, hblock⟩ :=
    mappedPages_in_block (show 1 ≤ 5 by decide) (show 5 < 2 ^ 31 by decide)
  obtain ⟨mapped, hmapped, hpages⟩ := (hblock 2 (Nat.le_refl 2)).2 (fun _ => 65536)
    twoRefs.ringMap twoRefs.ringGnt (refuseRef 0) { twoRefs with nrRingGrefs := 5 } false rfl
  exact ⟨by decide, k, mapped, hmapped, (hpages 3 (by decide)).1⟩

end XenNet.PageOrder
