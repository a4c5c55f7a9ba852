import Mathlib.Logic.Function.Basic
import XenNet.BridgeKernel
import XenNet.LastWrite

namespace XenNet.LsbLearning

open XenNet.ByteMemory
open XenNet.LastWrite
open XenNet.BridgeKernel

abbrev HashTable := Fin nmBdgHash → NmHashEnt

def zeroTable : HashTable := fun _ => ⟨0, 0⟩

def lsbIndex (lsb : UInt8) : Fin nmBdgHash :=
  ⟨lsb.toNat, Nat.lt_trans lsb.toNat_lt (by decide)⟩

theorem lsbIndex_inj {lsb lsb' : UInt8} : lsbIndex lsb = lsbIndex lsb' ↔ lsb = lsb' := by
  rw [lsbIndex, lsbIndex, Fin.mk.injEq, UInt8.toNat_inj]

/-- A frame and the port on which it enters the bridge. -/
structure BridgeFrame where
  buf : Nat → UInt8
  bdgPort : UInt32

def lsbLearning (nodst : UInt32) (ht : HashTable) (frame : BridgeFrame) : LookupCall HashTable :=
  let buf := frame.buf
  let mysrc := frame.bdgPort
  let ht :=
    if buf 6 &&& 1 = 0 then
      let s := pointer buf 6
      let sh := lsbIndex (s 5)
      let smac := le64 (pointer buf 4) >>> 16
      Function.update ht sh { mac := smac, ports := mysrc.toUInt64 }
    else ht
  let dst :=
    if buf 0 &&& 1 = 0 then
      let dh := lsbIndex (buf 5)
      let dmac := le64 buf &&& 0xffffffffffff
      if (ht dh).mac = dmac then (ht dh).ports.toUInt32 else nodst
    else nodst
  { dst := dst, dstRing := 0, rt := ht }

def afterFrames (nodst : UInt32) (ht : HashTable) (frames : List BridgeFrame) : HashTable :=
  frames.foldl (fun ht frame => (lsbLearning nodst ht frame).rt) ht

/-- The frame, when its source is a station whose address ends in `lsb`. -/
def sourceFrame (lsb : UInt8) (frame : BridgeFrame) : Option BridgeFrame :=
  if frame.buf 6 &&& 1 = 0 ∧ frame.buf 11 = lsb then some frame else none

def lastSource (lsb : UInt8) (frames : List BridgeFrame) : Option BridgeFrame :=
  lastWrite (sourceFrame lsb) frames

def BridgeFrame.learned (frame : BridgeFrame) : NmHashEnt where
  mac := le64 (pointer frame.buf 4) >>> 16
  ports := frame.bdgPort.toUInt64

theorem lsbLearning_entry (nodst : UInt32) (ht : HashTable) (frame : BridgeFrame)
    (lsb : UInt8) :
    (lsbLearning nodst ht frame).rt (lsbIndex lsb) =
      ((sourceFrame lsb frame).map BridgeFrame.learned).getD (ht (lsbIndex lsb)) := by
  unfold sourceFrame
  simp only [lsbLearning]
  by_cases hsrc : frame.buf 6 &&& 1 = 0
  · rw [if_pos hsrc]
    rcases eq_or_ne (frame.buf 11) lsb with rfl | hlsb
    · rw [if_pos ⟨hsrc, rfl⟩]
      exact Function.update_self _ _ _
    · rw [if_neg fun hboth => hlsb hboth.2]
      exact Function.update_of_ne (fun hindex => hlsb (lsbIndex_inj.mp hindex).symm) _ _
  · rw [if_neg hsrc, if_neg fun hboth => hsrc hboth.1]
    rfl

theorem afterFrames_entry (nodst : UInt32) (ht : HashTable) (frames : List BridgeFrame)
    (lsb : UInt8) :
    afterFrames nodst ht frames (lsbIndex lsb) =
      ((lastSource lsb frames).map BridgeFrame.learned).getD (ht (lsbIndex lsb)) := by
  rw [lastSource, ← lastWrite_map]
  exact read_foldl _ (fun ht : HashTable => ht (lsbIndex lsb))
    (fun frame => (sourceFrame lsb frame).map BridgeFrame.learned)
    (fun ht frame => lsbLearning_entry nodst ht frame lsb) ht frames

theorem learned_mac_eq_iff (frame : BridgeFrame) (buf : Nat → UInt8) :
    frame.learned.mac = le64 buf &&& 0xffffffffffff ↔
      bytes frame.buf 6 6 = bytes buf 0 6 := by
  rw [BridgeFrame.learned, ← UInt64.toNat_inj, toNat_le64_shift, toNat_le64_and,
    macValue_eq_iff, bytes_pointer, bytes_pointer]

theorem zero_mac_eq_iff (buf : Nat → UInt8) :
    (0 : UInt64) = le64 buf &&& 0xffffffffffff ↔ bytes buf 0 6 = List.replicate 6 0 := by
  have hzero : macValue (fun _ => 0) = 0 := rfl
  rw [← UInt64.toNat_inj, toNat_le64_and, UInt64.toNat_zero, ← hzero, macValue_eq_iff, eq_comm]
  rfl

/-- The port of the destination, when the last station learned with its last byte is the
destination itself. -/
def learnedPort (nodst : UInt32) (frames : List BridgeFrame) (buf : Nat → UInt8) : UInt32 :=
  if buf 0 &&& 1 = 0 then
    match lastSource (buf 5) frames with
    | some frame => if bytes frame.buf 6 6 = bytes buf 0 6 then frame.bdgPort else nodst
    | none => nodst
  else nodst

theorem lsbLearning_dst (nodst : UInt32) (frames : List BridgeFrame) (frame : BridgeFrame) :
    (lsbLearning nodst (afterFrames nodst zeroTable frames) frame).dst =
      if frame.buf 0 &&& 1 = 0 then
        let entry := ((lastSource (frame.buf 5) (frames ++ [frame])).map
          BridgeFrame.learned).getD ⟨0, 0⟩
        if entry.mac = le64 frame.buf &&& 0xffffffffffff then entry.ports.toUInt32 else nodst
      else nodst := by
  have hentry := afterFrames_entry nodst zeroTable (frames ++ [frame]) (frame.buf 5)
  rw [afterFrames, List.foldl_append] at hentry
  simp only [← show zeroTable (lsbIndex (frame.buf 5)) = ⟨0, 0⟩ from rfl, ← hentry]
  rfl

/-- The bridge forwards to learned stations only, except that address `0` counts as learned
at port `0` until a station whose address ends in `0` is. -/
theorem lsbLearning_iff (nodst : UInt32) (frames : List BridgeFrame) (frame : BridgeFrame) :
    (lsbLearning nodst (afterFrames nodst zeroTable frames) frame).dst =
        learnedPort nodst (frames ++ [frame]) frame.buf ↔
      (bytes frame.buf 0 6 = List.replicate 6 0 → lastSource 0 (frames ++ [frame]) = none →
        nodst = 0) := by
  have hbyte : ∀ k, k < 6 → bytes frame.buf 0 6 = List.replicate 6 0 → frame.buf k = 0 := by
    intro k hk hzero
    rw [← Nat.zero_add k]
    exact bytes_eq_replicate_iff.mp hzero k hk
  rw [lsbLearning_dst, learnedPort]
  by_cases hunicast : frame.buf 0 &&& 1 = 0
  · rw [if_pos hunicast, if_pos hunicast]
    cases hlast : lastSource (frame.buf 5) (frames ++ [frame]) with
    | some source =>
        have hport : source.learned.ports.toUInt32 = source.bdgPort :=
          UInt32.toUInt32_toUInt64 source.bdgPort
        simp only [Option.map_some, Option.getD_some, learned_mac_eq_iff, hport, true_iff]
        intro hzero hnone
        rw [hbyte 5 (by omega) hzero, hnone] at hlast
        contradiction
    | none =>
        simp only [Option.map_none, Option.getD_none, zero_mac_eq_iff]
        constructor
        · intro hdst hzero _
          rw [if_pos hzero] at hdst
          exact hdst.symm
        · intro hnodst
          split
          · rename_i hzero
            rw [hbyte 5 (by omega) hzero] at hlast
            exact (hnodst hzero hlast).symm
          · rfl
  · rw [if_neg hunicast, if_neg hunicast]
    refine ⟨fun _ hzero => ?_, fun _ => rfl⟩
    rw [hbyte 0 (by omega) hzero] at hunicast
    contradiction

def stationFrame (dst src : Vector UInt8 6) (bdgPort : UInt32) : BridgeFrame where
  buf := ofList (dst.toList ++ src.toList) 0
  bdgPort := bdgPort

/-- A frame for address `0` that no station has sent from goes out on port `0`. -/
theorem lsbLearning_fails :
    (¬ ∀ frames frame,
      (lsbLearning netmapBdg.nmBdgBroadcast
        (afterFrames netmapBdg.nmBdgBroadcast zeroTable frames) frame).dst =
        learnedPort netmapBdg.nmBdgBroadcast (frames ++ [frame]) frame.buf) ∧
    (lsbLearning netmapBdg.nmBdgBroadcast zeroTable
      (stationFrame #v[0, 0, 0, 0, 0, 0] #v[2, 0, 0, 0, 0, 1] 3)).dst = 0 := by
  refine ⟨fun halways => ?_, by decide⟩
  exact absurd (halways [] (stationFrame #v[0, 0, 0, 0, 0, 0] #v[2, 0, 0, 0, 0, 1] 3))
    (by decide)

end XenNet.LsbLearning
