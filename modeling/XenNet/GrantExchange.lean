import Mathlib.Data.Nat.Find
import XenNet.LastWrite
import XenNet.NumberedName
import XenNet.BufferAddressing

/-!
How the references of a ring's pages reach the guest: the backend writes one numbered key
for each into xenstore, and their number; the guest reads the number and the keys, and maps
all but the last. The backend's buffer for a key has room for a number of two digits.
-/

namespace XenNet.GrantExchange

open XenNet.LastWrite
open XenNet.NumberedName
open XenNet.GrantRing
open XenNet.NetfrontGrant
open XenNet.BufferAddressing

/-- The keys of the node that both sides use. -/
abbrev XenStore := List Char → Option (List Char)

def xenbusPrintf (store : XenStore) (name value : List Char) : XenStore :=
  Function.update store name (some value)

def xenbusScanf (store : XenStore) (name : List Char) : Option Int :=
  (store name).bind scanDecimal

/-- The names that differ between the rings. -/
structure RingNames where
  ringRef : List Char
  ringRefs : List Char
  length_ringRef : ringRef.length = 11
  ringRefs_eq : ringRefs = ringRef ++ ['s']

def txNames : RingNames where
  ringRef := "tx-ring-ref".toList
  ringRefs := "tx-ring-refs".toList
  length_ringRef := by decide
  ringRefs_eq := by decide

def rxNames : RingNames where
  ringRef := "rx-ring-ref".toList
  ringRefs := "rx-ring-refs".toList
  length_ringRef := by decide
  ringRefs_eq := by decide

/-- The key of reference `i` as the backend prints it. -/
def RingNames.refKey (names : RingNames) (i : Nat) : List Char :=
  snprintf (names.ringRef.length + 1 + 2) (numbered names.ringRef i)

def refText (ref : Int32) : List Char :=
  decimal ref.toUInt32.toNat

def writeRefStep (names : RingNames) (ringRef : Nat → Int32) (store : XenStore) (i : Nat) :
    XenStore :=
  xenbusPrintf store (names.refKey i) (refText (ringRef i))

def writeRingGrefs (names : RingNames) (gnt : NmGrantRing) (store : XenStore) : XenStore :=
  let nrName := snprintf ("rx-ring-refs".toList.length + 1 + 2) names.ringRefs
  let store := (List.range (gnt.nrRingPgs.toNat + 1)).foldl (writeRefStep names gnt.ringRef) store
  xenbusPrintf store nrName (decimal (gnt.nrRingPgs.toNat + 1))

/-- `xenbus_write_grefs`, when every write succeeds. -/
def xenbusWriteGrefs (nmtx nmrx : NmGrantRing) (store : XenStore) : XenStore :=
  writeRingGrefs rxNames nmrx (writeRingGrefs txNames nmtx store)

/-- What `%d` stores into 32 bits. -/
def intCell (v : Int) : UInt32 :=
  UInt32.ofBitVec (BitVec.ofInt 32 v)

def readRefStep (names : RingNames) (store : XenStore) (grefs : Nat → UInt32) (i : Nat) :
    Nat → UInt32 :=
  match xenbusScanf store (snprintf 256 (numbered names.ringRef i)) with
  | some v => Function.update grefs i (intCell v)
  | none => grefs

def readRingGrefs (names : RingNames) (store : XenStore) (stale : Nat → UInt32)
    (rdesc : NetmapGnt) : NetmapGnt :=
  let nrRingGrefs :=
    match xenbusScanf store names.ringRefs with
    | some v => (intCell v).toInt32.toInt.toNat
    | none => rdesc.nrRingGrefs
  { rdesc with
    nrRingGrefs := nrRingGrefs
    ringGrefs := (List.range nrRingGrefs).foldl (readRefStep names store) stale }

/-- `xenbus_read_ring_grefs`, with what the arrays that it allocates hold at first. -/
def xenbusReadRingGrefs (store : XenStore) (staleTx staleRx : Nat → UInt32)
    (txd rxd : NetmapGnt) : NetmapGnt × NetmapGnt :=
  (readRingGrefs txNames store staleTx txd, readRingGrefs rxNames store staleRx rxd)

/-- The references of the operations of `gnttab_map` for a ring, in order. -/
def mappedRefs (mapGrantRef : MapGrantRef) (new : MapOps) (rdesc : NetmapGnt) : List UInt32 :=
  (List.range (rdesc.nrRingGrefs - 1)).map fun i =>
    ((gnttabMap mapGrantRef new rdesc false).1.ringMap i).ref

/-- The last of the indices up to `c` whose number is that of `i` when it is cut to two
digits. -/
def lastCut (c i : Nat) : Nat :=
  Nat.findGreatest (fun j => (decimal j).take 2 = decimal i) c

/-- Each of the first `c` entries reaches the guest: its key has two digits and is not
written again with another reference, or the guest's array holds the reference by chance. -/
def EntriesKept (c : Nat) (ringRef : Nat → Int32) (stale : Nat → UInt32) : Prop :=
  ∀ i, i < c → (i < 100 → ringRef (lastCut c i) = ringRef i) ∧
    (100 ≤ i → stale i = (ringRef i).toUInt32)

theorem lastCut_spec {c i : Nat} (hi : i ≤ c) (hsmall : i < 100) :
    lastCut c i ≤ c ∧ (decimal (lastCut c i)).take 2 = decimal i ∧
      ∀ j, lastCut c i < j → j ≤ c → (decimal j).take 2 ≠ decimal i := by
  refine ⟨Nat.findGreatest_le c, ?_, fun j hj hjc => Nat.findGreatest_is_greatest hj hjc⟩
  exact Nat.findGreatest_spec (P := fun j => (decimal j).take 2 = decimal i) hi
    (take_decimal_of_lt (by decide) hsmall)

theorem lastCut_of_lt {c i : Nat} (hi : i ≤ c) (hc : c < 100) : lastCut c i = i := by
  obtain ⟨hle, hcut, _⟩ := lastCut_spec hi (Nat.lt_of_le_of_lt hi hc)
  rw [take_decimal_of_lt (by decide) (Nat.lt_of_le_of_lt hle hc)] at hcut
  exact decimal_injective hcut

theorem entriesKept_of_lt {c : Nat} (hc : c < 100) (ringRef : Nat → Int32)
    (stale : Nat → UInt32) : EntriesKept c ringRef stale := by
  intro i hi
  constructor
  · intro _
    rw [lastCut_of_lt (Nat.le_of_lt hi) hc]
  · omega

theorem entriesKept_iff_of_injOn {c : Nat} {ringRef : Nat → Int32}
    (hdistinct : ∀ i j, i ≤ c → j ≤ c → ringRef i = ringRef j → i = j)
    (stale : Nat → UInt32) : EntriesKept c ringRef stale ↔ c < 100 := by
  constructor
  · intro hkept
    by_contra hlarge
    obtain ⟨hle, _, hlast⟩ := lastCut_spec (c := c) (i := 10) (by omega) (by decide)
    have hsame := (hkept 10 (by omega)).1 (by decide)
    have hten := hdistinct _ _ hle (by omega) hsame
    exact hlast 100 (by omega) (by omega) (by decide)
  · intro hc
    exact entriesKept_of_lt hc ringRef stale

section Store

variable (names : RingNames)

theorem refKey_eq (i : Nat) : names.refKey i = names.ringRef ++ (decimal i).take 2 :=
  snprintf_numbered (by omega) i

theorem refKey_eq_iff {i j : Nat} :
    names.refKey j = numbered names.ringRef i ↔ (decimal j).take 2 = decimal i := by
  rw [refKey_eq, numbered, List.append_cancel_left_eq]

theorem nrName_eq : snprintf ("rx-ring-refs".toList.length + 1 + 2) names.ringRefs =
    names.ringRefs := by
  apply snprintf_of_lt
  rw [names.ringRefs_eq, List.length_append, names.length_ringRef]
  decide

theorem numbered_ne_ringRefs (i : Nat) : numbered names.ringRef i ≠ names.ringRefs := by
  rw [numbered, names.ringRefs_eq]
  intro heq
  have hmem : 's' ∈ decimal i := by
    rw [List.append_cancel_left heq]
    exact List.mem_cons_self
  exact absurd (isDigit_of_mem_decimal hmem) (by decide)

theorem readName_eq {i : Nat} (hi : i < 100000) :
    snprintf 256 (numbered names.ringRef i) = numbered names.ringRef i := by
  have hdigits := (length_decimal_le_iff (k := 5) (by decide)).mpr hi
  apply snprintf_of_lt
  rw [numbered, List.length_append, names.length_ringRef]
  omega

theorem take_refKey (i : Nat) : (names.refKey i).take 11 = names.ringRef := by
  rw [refKey_eq, ← names.length_ringRef, List.take_left]

theorem take_numbered (i : Nat) : (numbered names.ringRef i).take 11 = names.ringRef := by
  rw [numbered, ← names.length_ringRef, List.take_left]

theorem take_ringRefs : names.ringRefs.take 11 = names.ringRef := by
  rw [names.ringRefs_eq, ← names.length_ringRef, List.take_left]

/-- What the backend writes for entry `j` under a key. -/
def refWrite (ringRef : Nat → Int32) (key : List Char) (j : Nat) : Option (Option (List Char)) :=
  if names.refKey j = key then some (some (refText (ringRef j))) else none

theorem writeRingGrefs_eq (gnt : NmGrantRing) (store : XenStore) (key : List Char) :
    writeRingGrefs names gnt store key =
      if key = names.ringRefs then some (decimal (gnt.nrRingPgs.toNat + 1))
      else (lastWrite (refWrite names gnt.ringRef key)
        (List.range (gnt.nrRingPgs.toNat + 1))).getD (store key) := by
  have hloop := read_foldl (writeRefStep names gnt.ringRef)
    (fun store : XenStore => store key) (refWrite names gnt.ringRef key) ?_ store
    (List.range (gnt.nrRingPgs.toNat + 1))
  · simp only [writeRingGrefs, xenbusPrintf, nrName_eq, Function.update_apply, ← hloop]
  · intro store j
    simp only [writeRefStep, xenbusPrintf, Function.update_apply, refWrite, eq_comm]
    split <;> rfl

theorem writeRingGrefs_unwritten (gnt : NmGrantRing) (store : XenStore) {key : List Char}
    (hcount : key ≠ names.ringRefs) (hkey : ∀ j, names.refKey j ≠ key) :
    writeRingGrefs names gnt store key = store key := by
  have hnone : lastWrite (refWrite names gnt.ringRef key)
      (List.range (gnt.nrRingPgs.toNat + 1)) = none := by
    apply lastWrite_eq_none_iff.mpr
    intro j _
    exact if_neg (hkey j)
  rw [writeRingGrefs_eq, if_neg hcount, hnone, Option.getD_none]

theorem writeRingGrefs_of_ne (gnt : NmGrantRing) (store : XenStore) {key : List Char}
    (hkey : key.take 11 ≠ names.ringRef) : writeRingGrefs names gnt store key = store key := by
  apply writeRingGrefs_unwritten
  · rintro rfl
    exact hkey (take_ringRefs names)
  · rintro j rfl
    exact hkey (take_refKey names j)

/-- What the guest finds of a ring. -/
structure RingStored (gnt : NmGrantRing) (store : XenStore) : Prop where
  count : store names.ringRefs = some (decimal (gnt.nrRingPgs.toNat + 1))
  small : ∀ i, i ≤ gnt.nrRingPgs.toNat → i < 100 →
    store (numbered names.ringRef i) =
      some (refText (gnt.ringRef (lastCut gnt.nrRingPgs.toNat i)))
  large : ∀ i, 100 ≤ i → i < gnt.nrRingPgs.toNat → store (numbered names.ringRef i) = none

theorem ringStored_write (gnt : NmGrantRing) {store : XenStore}
    (hfresh : ∀ i, 100 ≤ i → i < gnt.nrRingPgs.toNat → store (numbered names.ringRef i) = none) :
    RingStored names gnt (writeRingGrefs names gnt store) := by
  constructor
  · rw [writeRingGrefs_eq, if_pos rfl]
  · intro i hi hsmall
    obtain ⟨hle, hcut, hlast⟩ := lastCut_spec hi hsmall
    rw [writeRingGrefs_eq, if_neg (numbered_ne_ringRefs names i), lastWrite_range
      (Nat.lt_succ_of_le hle) (if_pos ((refKey_eq_iff names).mpr hcut)), Option.getD_some]
    intro j hj hjc
    exact if_neg fun heq => hlast j hj (Nat.le_of_lt_succ hjc) ((refKey_eq_iff names).mp heq)
  · intro i hlarge hi
    rw [writeRingGrefs_unwritten names gnt store (numbered_ne_ringRefs names i),
      hfresh i hlarge hi]
    intro j heq
    exact take_decimal_ne (by decide) hlarge j ((refKey_eq_iff names).mp heq)

theorem RingStored.write_other {names other : RingNames} {gnt : NmGrantRing}
    {store : XenStore} (hstored : RingStored names gnt store)
    (hother : names.ringRef ≠ other.ringRef) (gnt' : NmGrantRing) :
    RingStored names gnt (writeRingGrefs other gnt' store) := by
  have hsame : ∀ key, key.take 11 = names.ringRef →
      writeRingGrefs other gnt' store key = store key := by
    intro key hkey
    apply writeRingGrefs_of_ne
    rw [hkey]
    exact hother
  constructor
  · rw [hsame _ (take_ringRefs names)]
    exact hstored.count
  · intro i hi hsmall
    rw [hsame _ (take_numbered names i)]
    exact hstored.small i hi hsmall
  · intro i hlarge hi
    rw [hsame _ (take_numbered names i)]
    exact hstored.large i hlarge hi

end Store

theorem intCell_natCast (n : Nat) : intCell (n : Int) = UInt32.ofNat n := by
  rw [intCell, BitVec.ofInt_natCast]
  rfl

theorem scan_refText (ref : Int32) {store : XenStore} {name : List Char}
    (hstore : store name = some (refText ref)) :
    (xenbusScanf store name).map intCell = some ref.toUInt32 := by
  rw [xenbusScanf, hstore, Option.bind_some, refText, scanDecimal_decimal, Option.map_some,
    intCell_natCast, UInt32.ofNat_toNat]

theorem toNat_intCell_count {n : Nat} (hn : n < 2 ^ 31) :
    (intCell (n : Int)).toInt32.toInt.toNat = n := by
  have hvalue : (UInt32.ofNat n).toInt32.toInt = n := Int32.toInt_ofNat_of_lt hn
  rw [intCell_natCast, hvalue, Int.toNat_natCast]

theorem readRefs_eq (names : RingNames) (store : XenStore) (stale : Nat → UInt32) (n i : Nat) :
    (List.range n).foldl (readRefStep names store) stale i =
      if i < n then
        ((xenbusScanf store (snprintf 256 (numbered names.ringRef i))).map intCell).getD (stale i)
      else stale i := by
  induction n with
  | zero => rfl
  | succ n ih =>
      rw [List.range_succ, List.foldl_append, List.foldl_cons, List.foldl_nil, readRefStep]
      cases hscan : xenbusScanf store (snprintf 256 (numbered names.ringRef n)) with
      | none =>
          simp only [ih]
          rcases eq_or_ne i n with rfl | hin
          · simp [hscan]
          · have hiff : i < n + 1 ↔ i < n := by omega
            simp only [hiff]
      | some v =>
          rcases eq_or_ne i n with rfl | hin
          · simp [hscan]
          · have hiff : i < n + 1 ↔ i < n := by omega
            simp only [Function.update_of_ne hin, ih, hiff]

theorem completeOps_ref (op : Nat → GnttabMapGrantRef) (nrGrefs : Nat)
    (results : Nat → Int16 × UInt32) (i : Nat) :
    (completeOps op nrGrefs results i).ref = (op i).ref := by
  rw [completeOps]
  split <;> rfl

theorem mapGrefs_ref (mapGrantRef : MapGrantRef) (new : MapOps) (grefs : Nat → UInt32)
    {nrGrefs i : Nat} (hi : i < nrGrefs) :
    ((mapGrefs mapGrantRef new grefs nrGrefs).1 i).ref = grefs i := by
  have hfill : (fillOps grefs nrGrefs new i).ref = grefs i := by
    rw [fillOps, if_pos hi]
  rw [mapGrefs]
  split
  · exact (completeOps_ref _ _ _ i).trans hfill
  · exact (completeOps_ref _ _ _ i).trans hfill

theorem mappedRefs_eq (mapGrantRef : MapGrantRef) (new : MapOps) (rdesc : NetmapGnt) :
    mappedRefs mapGrantRef new rdesc =
      (List.range (rdesc.nrRingGrefs - 1)).map rdesc.ringGrefs := by
  apply List.map_congr_left
  intro i hi
  exact mapGrefs_ref mapGrantRef new rdesc.ringGrefs (List.mem_range.mp hi)

/-- The guest maps the references of the ring's pages, in order. -/
def Exchanged (mapGrantRef : MapGrantRef) (new : MapOps) (gnt : NmGrantRing)
    (rdesc : NetmapGnt) : Prop :=
  mappedRefs mapGrantRef new rdesc =
    (List.range gnt.nrRingPgs.toNat).map fun i => (gnt.ringRef i).toUInt32

theorem exchanged_iff {names : RingNames} {gnt : NmGrantRing} {store : XenStore}
    (hstored : RingStored names gnt store) (mapGrantRef : MapGrantRef) (new : MapOps)
    (stale : Nat → UInt32) (rdesc : NetmapGnt) :
    Exchanged mapGrantRef new gnt (readRingGrefs names store stale rdesc) ↔
      EntriesKept gnt.nrRingPgs.toNat gnt.ringRef stale := by
  have hbound : gnt.nrRingPgs.toNat < 65536 := gnt.nrRingPgs.toNat_lt
  have hcount : (readRingGrefs names store stale rdesc).nrRingGrefs =
      gnt.nrRingPgs.toNat + 1 := by
    simp only [readRingGrefs, xenbusScanf, hstored.count, Option.bind_some,
      scanDecimal_decimal]
    exact toNat_intCell_count (by omega)
  have hrefs : ∀ i, i < gnt.nrRingPgs.toNat →
      (readRingGrefs names store stale rdesc).ringGrefs i =
        if i < 100 then (gnt.ringRef (lastCut gnt.nrRingPgs.toNat i)).toUInt32
        else stale i := by
    intro i hi
    have hread : (readRingGrefs names store stale rdesc).ringGrefs i = _ :=
      readRefs_eq names store stale (readRingGrefs names store stale rdesc).nrRingGrefs i
    rw [hread, hcount, if_pos (by omega), readName_eq names (by omega)]
    split
    · rename_i hsmall
      rw [scan_refText _ (hstored.small i (Nat.le_of_lt hi) hsmall), Option.getD_some]
    · rename_i hlarge
      rw [xenbusScanf, hstored.large i (by omega) hi]
      rfl
  rw [Exchanged, mappedRefs_eq, hcount, Nat.add_sub_cancel, List.map_inj_left]
  refine forall_congr' fun i => ?_
  rw [List.mem_range]
  refine imp_congr_right fun hi => ?_
  rw [hrefs i hi]
  split
  · rename_i hsmall
    constructor
    · intro heq
      exact ⟨fun _ => toUInt32_injective heq, fun hlarge => by omega⟩
    · intro hkept
      rw [hkept.1 hsmall]
  · rename_i hlarge
    constructor
    · intro heq
      exact ⟨fun hsmall => absurd hsmall hlarge, fun _ => heq⟩
    · intro hkept
      exact hkept.2 (by omega)

theorem xenbusWriteGrefs_stored {nmtx nmrx : NmGrantRing} {store : XenStore}
    (htx : ∀ i, 100 ≤ i → i < nmtx.nrRingPgs.toNat →
      store (numbered txNames.ringRef i) = none)
    (hrx : ∀ i, 100 ≤ i → i < nmrx.nrRingPgs.toNat →
      store (numbered rxNames.ringRef i) = none) :
    RingStored txNames nmtx (xenbusWriteGrefs nmtx nmrx store) ∧
      RingStored rxNames nmrx (xenbusWriteGrefs nmtx nmrx store) := by
  have hother : txNames.ringRef ≠ rxNames.ringRef := by decide
  constructor
  · exact (ringStored_write txNames nmtx htx).write_other hother nmrx
  · apply ringStored_write
    intro i hlarge hi
    rw [writeRingGrefs_of_ne txNames nmtx store (by rw [take_numbered]; exact hother.symm)]
    exact hrx i hlarge hi

/-- When the guest maps the references that the backend granted: always with fewer than 100
pages, and only then if the references differ. -/
theorem ring_refs_exchange (mapGrantRef : MapGrantRef) (newTx newRx : MapOps)
    (nmtx nmrx : NmGrantRing) {store : XenStore}
    (hfresh : ∀ i, store (numbered txNames.ringRef i) = none ∧
      store (numbered rxNames.ringRef i) = none)
    (staleTx staleRx : Nat → UInt32) (txd rxd : NetmapGnt) :
    let read := xenbusReadRingGrefs (xenbusWriteGrefs nmtx nmrx store) staleTx staleRx txd rxd
    (Exchanged mapGrantRef newTx nmtx read.1 ↔
      EntriesKept nmtx.nrRingPgs.toNat nmtx.ringRef staleTx) ∧
    (Exchanged mapGrantRef newRx nmrx read.2 ↔
      EntriesKept nmrx.nrRingPgs.toNat nmrx.ringRef staleRx) ∧
    ∀ c ringRef stale, (c < 100 → EntriesKept c ringRef stale) ∧
      ((∀ i j, i ≤ c → j ≤ c → ringRef i = ringRef j → i = j) →
        (EntriesKept c ringRef stale ↔ c < 100)) := by
  obtain ⟨htx, hrx⟩ : RingStored txNames nmtx (xenbusWriteGrefs nmtx nmrx store) ∧
      RingStored rxNames nmrx (xenbusWriteGrefs nmtx nmrx store) :=
    xenbusWriteGrefs_stored (fun i _ _ => (hfresh i).1) fun i _ _ => (hfresh i).2
  refine ⟨exchanged_iff htx mapGrantRef newTx staleTx txd,
    exchanged_iff hrx mapGrantRef newRx staleRx rxd, fun c ringRef stale => ⟨?_, ?_⟩⟩
  · intro hc
    exact entriesKept_of_lt hc ringRef stale
  · intro hdistinct
    exact entriesKept_iff_of_injOn hdistinct stale

def sampleGrants (nrRingPgs : UInt16) : NmGrantRing where
  ringPg _ := ⟨none, false⟩
  bufPg _ := ⟨none, false⟩
  ringRef := sampleGref
  bufRef _ := 0
  nrBufPgs := 0
  nrRingPgs := nrRingPgs

theorem ring_refs_exchange_five_pages :
    Exchanged mapsAll sampleOps (sampleGrants 5)
      (xenbusReadRingGrefs (xenbusWriteGrefs (sampleGrants 5) (sampleGrants 5) fun _ => none)
        (fun _ => 0) (fun _ => 0) noGnt noGnt).1 :=
  (ring_refs_exchange mapsAll sampleOps sampleOps (sampleGrants 5) (sampleGrants 5)
    (fun _ => ⟨rfl, rfl⟩) (fun _ => 0) (fun _ => 0) noGnt noGnt).1.mpr
    (entriesKept_of_lt (by decide) _ _)

theorem sampleGref_inj {i j : Nat} (hi : i ≤ 100) (hj : j ≤ 100)
    (heq : sampleGref i = sampleGref j) : i = j := by
  have hvalue := congrArg Int32.toInt heq
  rw [sampleGref, sampleGref, Int32.toInt_ofNat_of_lt (by omega),
    Int32.toInt_ofNat_of_lt (by omega)] at hvalue
  omega

/-- With 100 pages the last key, number 100, is written over key 10. -/
theorem ring_refs_exchange_fails :
    ¬ ∀ (nmtx nmrx : NmGrantRing), 1 ≤ nmtx.nrRingPgs.toNat → 1 ≤ nmrx.nrRingPgs.toNat →
      ∀ stale txd rxd, Exchanged mapsAll sampleOps nmtx
        (xenbusReadRingGrefs (xenbusWriteGrefs nmtx nmrx fun _ => none) stale stale txd
          rxd).1 := by
  intro halways
  have hexchanged := halways (sampleGrants 100) (sampleGrants 100) (by decide) (by decide)
    (fun _ => 0) noGnt noGnt
  have hstored : RingStored txNames (sampleGrants 100)
      (xenbusWriteGrefs (sampleGrants 100) (sampleGrants 100) fun _ => none) :=
    (xenbusWriteGrefs_stored (fun _ _ _ => rfl) fun _ _ _ => rfl).1
  have hkept := (exchanged_iff hstored mapsAll sampleOps _ noGnt).mp hexchanged
  have hsmall := (entriesKept_iff_of_injOn (fun i j => sampleGref_inj) _).mp hkept
  exact absurd hsmall (by decide)

end XenNet.GrantExchange
