import XenNet.NetfrontGrant

namespace XenNet.GrantMapping

open XenNet.NetfrontGrant
open XenNet.TransitionSystem

/-- The references of the kind that the last argument of `gnttab_map` selects. -/
def tableGrefs (rdesc : NetmapGnt) (ring : Bool) : Nat → UInt32 :=
  if !ring then rdesc.ringGrefs else rdesc.bufsGrefs

def tableMap (rdesc : NetmapGnt) (ring : Bool) : Nat → GnttabMapGrantRef :=
  if !ring then rdesc.ringMap else rdesc.bufsMap

def tableGnt (rdesc : NetmapGnt) (ring : Bool) : Nat → GnttabMapEntry :=
  if !ring then rdesc.ringGnt else rdesc.bufsGnt

/-- How many pages `gnttab_map` asks the hypervisor to map. -/
def nrMapped (rdesc : NetmapGnt) (ring : Bool) : Nat :=
  if !ring then rdesc.nrRingGrefs - 1 else rdesc.nrBufsGrefs

/-- Entry `i` holds the address and the handle of a page that was mapped for reference `i`. -/
structure HoldsMap (rdesc : NetmapGnt) (ring : Bool) (i : Nat) : Prop where
  lt : i < nrMapped rdesc ring
  ref : (tableMap rdesc ring i).ref = tableGrefs rdesc ring i
  status : (tableMap rdesc ring i).status = gntstOkay
  entry : tableGnt rdesc ring i =
    ⟨(tableMap rdesc ring i).hostAddr, (tableMap rdesc ring i).handle⟩

/-- A call that returns 0 leaves nothing but mapped pages in the entries that are used:
entry 0, which `setup_netfront_netmap` reads, and those of the pages that were asked for. -/
def MapReported (result : NetmapGnt × Int) (ring : Bool) : Prop :=
  (result.2 = 0 → ∀ i, i = 0 ∨ i < nrMapped result.1 ring → HoldsMap result.1 ring i) ∧
    (result.2 ≠ 0 → result.2 < 0)

section Map

variable (mapGrantRef : MapGrantRef) (new : MapOps) (rdesc : NetmapGnt) (ring : Bool)

/-- What the hypervisor answers to a call of `gnttab_map`. -/
def mapAnswers : Int × (Nat → Int16 × UInt32) :=
  mapGrantRef (fillOps (tableGrefs rdesc ring) (nrMapped rdesc ring) new) (nrMapped rdesc ring)

/-- The hypercall succeeds and maps every page. -/
def MapsAll : Prop :=
  (mapAnswers mapGrantRef new rdesc ring).1 = 0 ∧ ∀ i, i < nrMapped rdesc ring →
    ((mapAnswers mapGrantRef new rdesc ring).2 i).1 = gntstOkay

theorem gnttabMap_tables :
    tableMap (gnttabMap mapGrantRef new rdesc ring).1 ring =
        (mapGrefs mapGrantRef new (tableGrefs rdesc ring) (nrMapped rdesc ring)).1 ∧
      tableGnt (gnttabMap mapGrantRef new rdesc ring).1 ring =
        (mapGrefs mapGrantRef new (tableGrefs rdesc ring) (nrMapped rdesc ring)).2.1 ∧
      (gnttabMap mapGrantRef new rdesc ring).2 =
        (mapGrefs mapGrantRef new (tableGrefs rdesc ring) (nrMapped rdesc ring)).2.2 := by
  cases ring with
  | false => exact ⟨rfl, rfl, rfl⟩
  | true => exact ⟨rfl, rfl, rfl⟩

@[simp] theorem tableGrefs_gnttabMap :
    tableGrefs (gnttabMap mapGrantRef new rdesc ring).1 ring = tableGrefs rdesc ring := by
  cases ring <;> rfl

@[simp] theorem nrMapped_gnttabMap :
    nrMapped (gnttabMap mapGrantRef new rdesc ring).1 ring = nrMapped rdesc ring := by
  cases ring <;> rfl

theorem gnttabMap_ret :
    (gnttabMap mapGrantRef new rdesc ring).2 =
      if (mapAnswers mapGrantRef new rdesc ring).1 ≠ 0 then -einval else 0 := by
  rw [(gnttabMap_tables mapGrantRef new rdesc ring).2.2]
  unfold mapGrefs mapAnswers
  dsimp only
  split <;> rfl

variable {mapGrantRef new rdesc ring}

theorem gnttabMap_entry (hreturn : (mapAnswers mapGrantRef new rdesc ring).1 = 0) {i : Nat}
    (hi : i < nrMapped rdesc ring) :
    tableMap (gnttabMap mapGrantRef new rdesc ring).1 ring i =
        { fillOps (tableGrefs rdesc ring) (nrMapped rdesc ring) new i with
          status := ((mapAnswers mapGrantRef new rdesc ring).2 i).1
          handle := ((mapAnswers mapGrantRef new rdesc ring).2 i).2 } ∧
      tableGnt (gnttabMap mapGrantRef new rdesc ring).1 ring i =
        if ((mapAnswers mapGrantRef new rdesc ring).2 i).1 = gntstOkay then
          ⟨(tableMap (gnttabMap mapGrantRef new rdesc ring).1 ring i).hostAddr,
            (tableMap (gnttabMap mapGrantRef new rdesc ring).1 ring i).handle⟩
        else new.pte i := by
  obtain ⟨hmap, hgnt, _⟩ := gnttabMap_tables mapGrantRef new rdesc ring
  unfold mapAnswers at hreturn ⊢
  rw [hmap, hgnt]
  unfold mapGrefs
  dsimp only
  rw [if_neg (not_not_intro hreturn)]
  simp [completeOps, mapEntries, hi]

theorem holdsMap_of_okay (hreturn : (mapAnswers mapGrantRef new rdesc ring).1 = 0) {i : Nat}
    (hi : i < nrMapped rdesc ring)
    (hokay : ((mapAnswers mapGrantRef new rdesc ring).2 i).1 = gntstOkay) :
    HoldsMap (gnttabMap mapGrantRef new rdesc ring).1 ring i := by
  obtain ⟨hmap, hgnt⟩ := gnttabMap_entry hreturn hi
  rw [if_pos hokay] at hgnt
  refine ⟨?_, ?_, ?_, hgnt⟩
  · rw [nrMapped_gnttabMap]
    exact hi
  · rw [hmap, tableGrefs_gnttabMap]
    simp [fillOps, hi]
  · rw [hmap]
    exact hokay

theorem HoldsMap.okay (hreturn : (mapAnswers mapGrantRef new rdesc ring).1 = 0) {i : Nat}
    (hholds : HoldsMap (gnttabMap mapGrantRef new rdesc ring).1 ring i) :
    ((mapAnswers mapGrantRef new rdesc ring).2 i).1 = gntstOkay := by
  have hi := hholds.lt
  have hstatus := hholds.status
  rw [nrMapped_gnttabMap] at hi
  rw [(gnttabMap_entry hreturn hi).1] at hstatus
  exact hstatus

end Map

/-- A descriptor with two references of either kind. -/
def twoRefs : NetmapGnt where
  ringGrefs := fun i => UInt32.ofNat (8 + i)
  bufsGrefs := fun i => UInt32.ofNat (16 + i)
  ringMap := fun _ => ⟨0, 0, 0, 0, 0, 0⟩
  ringGnt := fun _ => ⟨0, 0⟩
  bufsMap := fun _ => ⟨0, 0, 0, 0, 0, 0⟩
  bufsGnt := fun _ => ⟨0, 0⟩
  nrRingGrefs := 2
  nrBufsGrefs := 2
  bufsBase := 0

def newMapOps (addr : Nat) : MapOps where
  addr := addr
  op := fun _ => ⟨0, 0, 0, 0, 0, 0⟩
  pte := fun _ => ⟨0, 0⟩

/-- The hypervisor maps every page but those with the given reference. -/
def refuseRef (ref : UInt32) : MapGrantRef :=
  fun op _ => (0, fun i => (if (op i).ref = ref then -1 else 0, UInt32.ofNat (100 + i)))

structure GnttabUnmapGrantRef where
  hostAddr : Nat
  devBusAddr : UInt64
  handle : UInt32
  deriving Repr, DecidableEq

def unmapOp (entry : GnttabMapEntry) : GnttabUnmapGrantRef where
  hostAddr := entry.hostAddr
  devBusAddr := 0
  handle := entry.handle

/-- The body of the loops of `gnttab_unmap`. The state is `op` and `j`. -/
def unmapStep (gnt : Nat → GnttabMapEntry) (s : (Nat → GnttabUnmapGrantRef) × Nat) (i : Nat) :
    (Nat → GnttabUnmapGrantRef) × Nat :=
  (fun k => if k = s.2 then unmapOp (gnt i) else s.1 k, s.2 + 1)

/-- The operations that `gnttab_unmap` hands to the hypervisor, with what its array holds at
first. -/
def gnttabUnmap (op : Nat → GnttabUnmapGrantRef) (rdesc : NetmapGnt) :
    List GnttabUnmapGrantRef :=
  let s := (List.range rdesc.nrRingGrefs).foldl (unmapStep rdesc.ringGnt) (op, 0)
  let s := (List.range rdesc.nrBufsGrefs).foldl (unmapStep rdesc.bufsGnt) s
  (List.range (rdesc.nrRingGrefs + rdesc.nrBufsGrefs)).map s.1

/-- What a loop of `gnttab_unmap` has done after `i` rounds, when it starts at operation `j`. -/
structure UnmapAfter (gnt : Nat → GnttabMapEntry) (op : Nat → GnttabUnmapGrantRef) (j i : Nat)
    (s : (Nat → GnttabUnmapGrantRef) × Nat) : Prop where
  next : s.2 = j + i
  kept : ∀ k, k < j → s.1 k = op k
  filled : ∀ k, k < i → s.1 (j + k) = unmapOp (gnt k)

theorem unmapAfter_succ {gnt : Nat → GnttabMapEntry} {op : Nat → GnttabUnmapGrantRef} {j i : Nat}
    {s : (Nat → GnttabUnmapGrantRef) × Nat} (h : UnmapAfter gnt op j i s) :
    UnmapAfter gnt op j (i + 1) (unmapStep gnt s i) := by
  refine ⟨?_, ?_, ?_⟩
  · change s.2 + 1 = j + (i + 1)
    rw [h.next]
    rfl
  · intro k hk
    have hne : k ≠ s.2 := by
      rw [h.next]
      omega
    exact (if_neg hne).trans (h.kept k hk)
  · intro k hk
    rcases Nat.lt_succ_iff_lt_or_eq.mp hk with hlt | rfl
    · have hne : j + k ≠ s.2 := by
        rw [h.next]
        omega
      exact (if_neg hne).trans (h.filled k hlt)
    · exact if_pos h.next.symm

theorem unmapLoop_spec (gnt : Nat → GnttabMapEntry) (op : Nat → GnttabUnmapGrantRef)
    (j n : Nat) :
    UnmapAfter gnt op j n ((List.range n).foldl (unmapStep gnt) (op, j)) :=
  foldl_range_invariant (I := UnmapAfter gnt op j)
    ⟨rfl, fun _ _ => rfl, fun _ hk => absurd hk (Nat.not_lt_zero _)⟩
    (fun _ _ _ h => unmapAfter_succ h)

theorem gnttabUnmap_eq (op : Nat → GnttabUnmapGrantRef) (rdesc : NetmapGnt) :
    gnttabUnmap op rdesc =
      ((List.range rdesc.nrRingGrefs).map rdesc.ringGnt ++
        (List.range rdesc.nrBufsGrefs).map rdesc.bufsGnt).map unmapOp := by
  have hring := unmapLoop_spec rdesc.ringGnt op 0 rdesc.nrRingGrefs
  unfold gnttabUnmap
  generalize (List.range rdesc.nrRingGrefs).foldl (unmapStep rdesc.ringGnt) (op, 0) = s at hring ⊢
  obtain ⟨op', j⟩ := s
  obtain rfl : j = rdesc.nrRingGrefs := hring.next.trans (Nat.zero_add _)
  have hbufs := unmapLoop_spec rdesc.bufsGnt op' rdesc.nrRingGrefs rdesc.nrBufsGrefs
  rw [List.range_add, List.map_append, List.map_append, List.map_map, List.map_map,
    List.map_map]
  congr 1
  · apply List.map_congr_left
    intro k hk
    rw [List.mem_range] at hk
    have hfilled := hring.filled k hk
    rw [Nat.zero_add] at hfilled
    exact (hbufs.kept k hk).trans hfilled
  · apply List.map_congr_left
    intro k hk
    exact hbufs.filled k (List.mem_range.mp hk)

/-- The addresses and the handles of the maps that a call of `gnttab_map` obtained. -/
def obtained (rdesc : NetmapGnt) (ring : Bool) : List GnttabMapEntry :=
  (List.range (nrMapped rdesc ring)).map fun i =>
    ⟨(tableMap rdesc ring i).hostAddr, (tableMap rdesc ring i).handle⟩

/-- One operation for each map of the descriptor, and no other one. -/
def UnmapsExactly (ops : List GnttabUnmapGrantRef) (rdesc : NetmapGnt) : Prop :=
  ops.Perm ((obtained rdesc false ++ obtained rdesc true).map unmapOp)

/-- The descriptor after the map of its ring, with the references of the buffers. -/
def ringMapped (mapRing : MapGrantRef) (newRing : MapOps) (rdesc : NetmapGnt)
    (bufsGrefs : Nat → UInt32) (nrBufsGrefs : Nat) : NetmapGnt :=
  { (gnttabMap mapRing newRing rdesc false).1 with
    bufsGrefs := bufsGrefs
    nrBufsGrefs := nrBufsGrefs }

theorem tableGnt_eq_obtained {mapGrantRef : MapGrantRef} {new : MapOps} {rdesc : NetmapGnt}
    {ring : Bool} (hmaps : MapsAll mapGrantRef new rdesc ring) :
    (List.range (nrMapped rdesc ring)).map
        (tableGnt (gnttabMap mapGrantRef new rdesc ring).1 ring) =
      obtained (gnttabMap mapGrantRef new rdesc ring).1 ring := by
  obtain ⟨hreturn, hokay⟩ := hmaps
  unfold obtained
  rw [nrMapped_gnttabMap]
  apply List.map_congr_left
  intro i hi
  rw [List.mem_range] at hi
  exact (holdsMap_of_okay hreturn hi (hokay i hi)).entry

theorem tableGnt_of_le (mapGrantRef : MapGrantRef) (new : MapOps) (rdesc : NetmapGnt)
    (ring : Bool) {i : Nat} (hi : nrMapped rdesc ring ≤ i) :
    tableGnt (gnttabMap mapGrantRef new rdesc ring).1 ring i = new.pte i := by
  rw [(gnttabMap_tables mapGrantRef new rdesc ring).2.1]
  unfold mapGrefs
  dsimp only
  split
  · rfl
  · exact if_neg fun hboth => Nat.not_lt_of_le hi hboth.1

section Unmap

variable (mapRing mapBufs : MapGrantRef) (newRing newBufs : MapOps) (rdesc : NetmapGnt)
  (bufsGrefs : Nat → UInt32) (nrBufsGrefs : Nat)

/-- The descriptor after both maps. -/
def bothMapped : NetmapGnt :=
  (gnttabMap mapBufs newBufs (ringMapped mapRing newRing rdesc bufsGrefs nrBufsGrefs) true).1

theorem gnttabUnmap_bothMapped (op : Nat → GnttabUnmapGrantRef) (href : 1 ≤ rdesc.nrRingGrefs)
    (hring : MapsAll mapRing newRing rdesc false)
    (hbufs : MapsAll mapBufs newBufs
      (ringMapped mapRing newRing rdesc bufsGrefs nrBufsGrefs) true) :
    let mapped := bothMapped mapRing mapBufs newRing newBufs rdesc bufsGrefs nrBufsGrefs
    gnttabUnmap op mapped =
      (obtained mapped false ++ newRing.pte (rdesc.nrRingGrefs - 1) ::
        obtained mapped true).map unmapOp := by
  intro mapped
  have hobtained : (List.range (rdesc.nrRingGrefs - 1)).map mapped.ringGnt =
      obtained mapped false :=
    tableGnt_eq_obtained hring
  have hlast : mapped.ringGnt (rdesc.nrRingGrefs - 1) = newRing.pte (rdesc.nrRingGrefs - 1) :=
    tableGnt_of_le mapRing newRing rdesc false (Nat.le_refl _)
  have hringEntries : (List.range rdesc.nrRingGrefs).map mapped.ringGnt =
      obtained mapped false ++ [newRing.pte (rdesc.nrRingGrefs - 1)] := by
    obtain ⟨n, hn⟩ := Nat.exists_eq_add_of_le' href
    rw [hn, Nat.add_sub_cancel] at hobtained hlast ⊢
    rw [List.range_succ, List.map_append, hobtained, List.map_singleton, hlast]
  have hbufsEntries : (List.range nrBufsGrefs).map mapped.bufsGnt = obtained mapped true :=
    tableGnt_eq_obtained hbufs
  have hcounts : mapped.nrRingGrefs = rdesc.nrRingGrefs ∧ mapped.nrBufsGrefs = nrBufsGrefs :=
    ⟨rfl, rfl⟩
  rw [gnttabUnmap_eq, hcounts.1, hcounts.2, hringEntries, hbufsEntries, List.append_assoc,
    List.singleton_append]

/-- `gnttab_unmap` takes every map back, and always hands the hypervisor one operation more:
that of the entry that `gnttab_map` leaves out. -/
theorem gnttabUnmap_never_exact (op : Nat → GnttabUnmapGrantRef) (href : 1 ≤ rdesc.nrRingGrefs)
    (hring : MapsAll mapRing newRing rdesc false)
    (hbufs : MapsAll mapBufs newBufs
      (ringMapped mapRing newRing rdesc bufsGrefs nrBufsGrefs) true) :
    let mapped := bothMapped mapRing mapBufs newRing newBufs rdesc bufsGrefs nrBufsGrefs
    ¬ UnmapsExactly (gnttabUnmap op mapped) mapped ∧
      (gnttabUnmap op mapped).Perm (unmapOp (newRing.pte (rdesc.nrRingGrefs - 1)) ::
        (obtained mapped false ++ obtained mapped true).map unmapOp) := by
  intro mapped
  have hperm : (gnttabUnmap op mapped).Perm (unmapOp (newRing.pte (rdesc.nrRingGrefs - 1)) ::
      (obtained mapped false ++ obtained mapped true).map unmapOp) := by
    rw [gnttabUnmap_bothMapped mapRing mapBufs newRing newBufs rdesc bufsGrefs nrBufsGrefs op
      href hring hbufs, ← List.map_cons]
    exact List.perm_middle.map unmapOp
  refine ⟨fun hexact => ?_, hperm⟩
  have hlength := (hperm.symm.trans hexact).length_eq
  simp at hlength

end Unmap

theorem gnttabUnmap_never_exact_two_refs :
    let mapped := bothMapped (refuseRef 0) (refuseRef 0) (newMapOps 4096) (newMapOps 65536) twoRefs
      twoRefs.bufsGrefs 1
    ¬ UnmapsExactly (gnttabUnmap (fun _ => ⟨0, 0, 0⟩) mapped) mapped ∧
      gnttabUnmap (fun _ => ⟨0, 0, 0⟩) mapped =
        [⟨4096, 0, 100⟩, ⟨0, 0, 0⟩, ⟨65536, 0, 100⟩] := by
  refine ⟨(gnttabUnmap_never_exact (refuseRef 0) (refuseRef 0) (newMapOps 4096)
    (newMapOps 65536) twoRefs twoRefs.bufsGrefs 1 (fun _ => ⟨0, 0, 0⟩) (by decide)
    ⟨rfl, ?_⟩ ⟨rfl, ?_⟩).1, by decide⟩
  · intro i hi
    obtain rfl : i = 0 := Nat.lt_one_iff.mp hi
    decide
  · intro i hi
    obtain rfl : i = 0 := Nat.lt_one_iff.mp hi
    decide

/-- The operation too many, of an entry that was never stored to. -/
theorem gnttabUnmap_exact_fails :
    ¬ ∀ (mapRing mapBufs : MapGrantRef) (newRing newBufs : MapOps) (rdesc : NetmapGnt)
      (bufsGrefs : Nat → UInt32) (nrBufsGrefs : Nat) (op : Nat → GnttabUnmapGrantRef),
      1 ≤ rdesc.nrRingGrefs → MapsAll mapRing newRing rdesc false →
      MapsAll mapBufs newBufs (ringMapped mapRing newRing rdesc bufsGrefs nrBufsGrefs) true →
      UnmapsExactly
        (gnttabUnmap op (bothMapped mapRing mapBufs newRing newBufs rdesc bufsGrefs nrBufsGrefs))
        (bothMapped mapRing mapBufs newRing newBufs rdesc bufsGrefs nrBufsGrefs) := by
  intro halways
  have hexact := halways (refuseRef 0) (refuseRef 0) (newMapOps 4096) (newMapOps 65536) twoRefs
    twoRefs.bufsGrefs 0 (fun _ => ⟨0, 0, 0⟩) (by decide)
    ⟨rfl, fun i hi => by obtain rfl : i = 0 := Nat.lt_one_iff.mp hi; decide⟩
    ⟨rfl, fun i hi => absurd hi (Nat.not_lt_zero i)⟩
  exact absurd hexact.length_eq (by decide)

end XenNet.GrantMapping
