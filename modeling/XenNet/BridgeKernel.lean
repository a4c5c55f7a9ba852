import Mathlib.Data.Nat.Bitwise
import XenNet.ByteMemory

namespace XenNet.BridgeKernel

open XenNet.ByteMemory

/-- `NM_BDG_MAXPORTS` of netmap. The switch keeps its port numbers in bytes. -/
structure BdgApi where
  nmBdgMaxports : Nat
  nmBdgMaxports_le : nmBdgMaxports ≤ 254

/-- The value of netmap's header. -/
def netmapBdg : BdgApi where
  nmBdgMaxports := 254
  nmBdgMaxports_le := Nat.le_refl _

def BdgApi.nmBdgBroadcast (api : BdgApi) : UInt32 :=
  UInt32.ofNat api.nmBdgMaxports

def BdgApi.nmBdgNoport (api : BdgApi) : UInt32 :=
  UInt32.ofNat (api.nmBdgMaxports + 1)

theorem BdgApi.toNat_nmBdgNoport (api : BdgApi) :
    api.nmBdgNoport.toNat = api.nmBdgMaxports + 1 := by
  have hmax := api.nmBdgMaxports_le
  exact UInt32.toNat_ofNat_of_lt' (by simp only [UInt32.size]; omega)

def nmBdgHash : Nat := 1024

structure NmHashEnt where
  mac : UInt64
  ports : UInt64
  deriving Repr, DecidableEq

/-- The value that `le64toh` gives of the eight bytes at the pointer. -/
def le64 (buf : Nat → UInt8) : UInt64 :=
  UInt64.ofNat ((buf 0).toNat + 2 ^ 8 * (buf 1).toNat + 2 ^ 16 * (buf 2).toNat +
    2 ^ 24 * (buf 3).toNat + 2 ^ 32 * (buf 4).toNat + 2 ^ 40 * (buf 5).toNat +
    2 ^ 48 * (buf 6).toNat + 2 ^ 56 * (buf 7).toNat)

/-- The four bytes at the pointer as a little-endian machine reads them. -/
def le32 (buf : Nat → UInt8) : UInt32 :=
  UInt32.ofNat ((buf 0).toNat + 2 ^ 8 * (buf 1).toNat + 2 ^ 16 * (buf 2).toNat +
    2 ^ 24 * (buf 3).toNat)

/-- The number that six bytes of a station address stand for. -/
def macValue (addr : Nat → UInt8) : Nat :=
  (addr 0).toNat + 2 ^ 8 * (addr 1).toNat + 2 ^ 16 * (addr 2).toNat +
    2 ^ 24 * (addr 3).toNat + 2 ^ 32 * (addr 4).toNat + 2 ^ 40 * (addr 5).toNat

theorem eight_bytes_lt (buf : Nat → UInt8) :
    (buf 0).toNat < 256 ∧ (buf 1).toNat < 256 ∧ (buf 2).toNat < 256 ∧ (buf 3).toNat < 256 ∧
      (buf 4).toNat < 256 ∧ (buf 5).toNat < 256 ∧ (buf 6).toNat < 256 ∧ (buf 7).toNat < 256 := by
  refine ⟨?_, ?_, ?_, ?_, ?_, ?_, ?_, ?_⟩ <;> exact UInt8.toNat_lt _

theorem macValue_div (addr : Nat → UInt8) {k : Nat} (hk : k < 6) :
    macValue addr / 2 ^ (8 * k) % 2 ^ 8 = (addr k).toNat := by
  have hlt := eight_bytes_lt addr
  simp only [macValue]
  obtain rfl | rfl | rfl | rfl | rfl | rfl :
    k = 0 ∨ k = 1 ∨ k = 2 ∨ k = 3 ∨ k = 4 ∨ k = 5 := by omega
  all_goals omega

theorem macValue_eq_iff {addr addr' : Nat → UInt8} :
    macValue addr = macValue addr' ↔ bytes addr 0 6 = bytes addr' 0 6 := by
  rw [bytes_eq_iff]
  constructor
  · intro hvalue k hk
    rw [Nat.zero_add, ← UInt8.toNat_inj, ← macValue_div addr hk, ← macValue_div addr' hk, hvalue]
  · intro hbytes
    have hsame : ∀ k, k < 6 → addr k = addr' k := by simpa using hbytes
    simp only [macValue]
    rw [hsame 0 (by omega), hsame 1 (by omega), hsame 2 (by omega), hsame 3 (by omega),
      hsame 4 (by omega), hsame 5 (by omega)]

theorem toNat_le64_and (buf : Nat → UInt8) :
    (le64 buf &&& 0xffffffffffff).toNat = macValue buf := by
  have hlt := eight_bytes_lt buf
  have hmask : (0xffffffffffff : UInt64).toNat = 2 ^ 48 - 1 := rfl
  rw [UInt64.toNat_and, hmask, Nat.and_two_pow_sub_one_eq_mod, le64, UInt64.toNat_ofNat']
  simp only [macValue]
  omega

theorem toNat_le64_shift (buf : Nat → UInt8) :
    (le64 buf >>> 16).toNat = macValue (pointer buf 2) := by
  have hlt := eight_bytes_lt buf
  have hshift : (16 : UInt64).toNat % 64 = 16 := rfl
  rw [UInt64.toNat_shiftRight, hshift, Nat.shiftRight_eq_div_pow, le64, UInt64.toNat_ofNat']
  change _ = (buf 2).toNat + 2 ^ 8 * (buf 3).toNat + 2 ^ 16 * (buf 4).toNat +
    2 ^ 24 * (buf 5).toNat + 2 ^ 32 * (buf 6).toNat + 2 ^ 40 * (buf 7).toNat
  omega

def mix (a b c : UInt32) : UInt32 × UInt32 × UInt32 :=
  let a := (a - b - c) ^^^ (c >>> 13)
  let b := (b - c - a) ^^^ (a <<< 8)
  let c := (c - a - b) ^^^ (b >>> 13)
  let a := (a - b - c) ^^^ (c >>> 12)
  let b := (b - c - a) ^^^ (a <<< 16)
  let c := (c - a - b) ^^^ (b >>> 5)
  let a := (a - b - c) ^^^ (c >>> 3)
  let b := (b - c - a) ^^^ (a <<< 10)
  let c := (c - a - b) ^^^ (b >>> 15)
  (a, b, c)

def nmBridgeRthash (addr : Nat → UInt8) : UInt32 :=
  let a : UInt32 := 0x9e3779b9
  let b : UInt32 := 0x9e3779b9
  let c : UInt32 := 0
  let b := b + (addr 5).toUInt32 <<< 8
  let b := b + (addr 4).toUInt32
  let a := a + (addr 3).toUInt32 <<< 24
  let a := a + (addr 2).toUInt32 <<< 16
  let a := a + (addr 1).toUInt32 <<< 8
  let a := a + (addr 0).toUInt32
  (mix a b c).2.2 &&& 1023

theorem nmBridgeRthash_lt (addr : Nat → UInt8) : (nmBridgeRthash addr).toNat < nmBdgHash := by
  have hmask : (1023 : UInt32).toNat = 2 ^ 10 - 1 := rfl
  rw [nmBridgeRthash, UInt32.toNat_and, hmask, Nat.and_two_pow_sub_one_eq_mod]
  exact Nat.mod_lt _ (by decide)

theorem nmBridgeRthash_congr {addr addr' : Nat → UInt8}
    (hbytes : bytes addr 0 6 = bytes addr' 0 6) :
    nmBridgeRthash addr = nmBridgeRthash addr' := by
  have hsame : ∀ k, k < 6 → addr k = addr' k := by simpa using bytes_eq_iff.mp hbytes
  simp only [nmBridgeRthash]
  rw [hsame 0 (by omega), hsame 1 (by omega), hsame 2 (by omega), hsame 3 (by omega),
    hsame 4 (by omega), hsame 5 (by omega)]

/-- The bucket of an address. -/
def rthashIndex (addr : Nat → UInt8) : Fin nmBdgHash :=
  ⟨(nmBridgeRthash addr).toNat, nmBridgeRthash_lt addr⟩

theorem rthashIndex_eq_iff {addr addr' : Nat → UInt8} :
    rthashIndex addr = rthashIndex addr' ↔ nmBridgeRthash addr = nmBridgeRthash addr' := by
  rw [rthashIndex, rthashIndex, Fin.mk.injEq, UInt32.toNat_inj]

theorem rthashIndex_congr {addr addr' : Nat → UInt8}
    (hbytes : bytes addr 0 6 = bytes addr' 0 6) : rthashIndex addr = rthashIndex addr' := by
  simp only [rthashIndex, nmBridgeRthash_congr hbytes]

/-- What a lookup function returns and writes, and the tables after it. -/
structure LookupCall (τ : Type) where
  dst : UInt32
  dstRing : UInt8
  rt : τ

/-- What `bdgfnreg` returns when `netmap_bdg_ctl` returns `err`. -/
def bdgfnreg (err : Int) : Int :=
  if err > 0 then -22 else 0

end XenNet.BridgeKernel
