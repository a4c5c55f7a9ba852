import XenNet.ByteMemory
import XenNet.NetmapKernel

namespace XenNet.NetfrontModel

open XenNet.CyclicIndex
open XenNet.NetmapKernel

def netfrontBufSize : Nat :=
  2048

/-- `NETFRONT_BUF`: the address of buffer `index` in a mapping that starts at `t`. The product in C
has 32 bits, and is this one for every `index` below `2 ^ 21`. -/
def netfrontBuf (t index : Nat) : Nat :=
  t + index * netfrontBufSize

def netmapRingNext (r : NetmapRing) (i : Nat) : Nat :=
  if i + 1 = r.numSlots then 0 else i + 1

def nmRingSpace (ring : NetmapRing) : Nat :=
  let ret : Int := ring.tail - ring.cur
  if ret < 0 then (ret + ring.numSlots).toNat else ret.toNat

theorem netmapRingNext_eq_advance {r : NetmapRing} {i : Nat} (hi : i < r.numSlots) :
    netmapRingNext r i = advance r.numSlots i 1 := by
  rw [advance_one hi]
  rfl

theorem netmapRingNext_lt {r : NetmapRing} {i : Nat} (hi : i < r.numSlots) :
    netmapRingNext r i < r.numSlots := by
  unfold netmapRingNext
  split_ifs <;> omega

theorem nmRingSpace_eq_distance {ring : NetmapRing} (hcur : ring.cur < ring.numSlots)
    (htail : ring.tail < ring.numSlots) :
    nmRingSpace ring = distance ring.numSlots ring.cur ring.tail := by
  rw [distance_eq_ite hcur htail]
  simp only [nmRingSpace]
  split_ifs <;> omega

theorem netfrontBuf_disjoint {t i j : Nat} (hne : i ≠ j) :
    netfrontBuf t i + netfrontBufSize ≤ netfrontBuf t j ∨
      netfrontBuf t j + netfrontBufSize ≤ netfrontBuf t i := by
  unfold netfrontBuf netfrontBufSize
  omega

/-- An event channel, seen from the sending side. A notification that is sent before
the last one was delivered is absorbed by it. -/
structure EventChannel where
  pending : Bool
  sent : Nat
deriving DecidableEq, Repr

namespace EventChannel

def notifyRemoteViaIrq (channel : EventChannel) : EventChannel :=
  { pending := true, sent := channel.sent + 1 }

def deliver (channel : EventChannel) : EventChannel :=
  { channel with pending := false }

@[simp] theorem notifyRemoteViaIrq_pending (channel : EventChannel) :
    channel.notifyRemoteViaIrq.pending = true := rfl

@[simp] theorem deliver_pending (channel : EventChannel) :
    channel.deliver.pending = false := rfl

end EventChannel

structure NetfrontCsb where
  txcur : UInt16
  txhead : UInt16
  guestNeedTxkick : Bool
  guestNeedRxkick : Bool
  hostNeedRxkick : Bool
  hostNeedTxkick : Bool
deriving DecidableEq, Repr

/-- `struct netmap_info`. `bufs` is the memory behind the granted buffer pages, where
`txd.bufs_base` and `rxd.bufs_base` point. -/
structure NetmapInfo where
  txRings : NetmapRing
  rxRings : NetmapRing
  txdBufsBase : Nat
  rxdBufsBase : Nat
  bufs : Nat → UInt8
  stat : NetfrontCsb
  txIrq : EventChannel
  rxIrq : EventChannel

/-- The device: its carrier and the private data of the netmap mode. -/
structure NetfrontInfo where
  carrierOk : Bool
  naPriv : NetmapInfo

/-- The counters and flags as `setup_netfront_netmap` leaves them. -/
def setupNetfrontCsb (txRings : NetmapRing) : NetfrontCsb where
  txcur := UInt16.ofNat txRings.cur
  txhead := UInt16.ofNat txRings.head
  guestNeedTxkick := false
  guestNeedRxkick := true
  hostNeedRxkick := false
  hostNeedTxkick := true

def NetmapInfo.txPacket (ni : NetmapInfo) (i : Nat) : List UInt8 :=
  ByteMemory.bytes ni.bufs (netfrontBuf ni.txdBufsBase i) (ni.txRings.slot i).len.toNat

def NetmapInfo.rxPacket (ni : NetmapInfo) (i : Nat) : List UInt8 :=
  ByteMemory.bytes ni.bufs (netfrontBuf ni.rxdBufsBase i) (ni.rxRings.slot i).len.toNat

end XenNet.NetfrontModel
