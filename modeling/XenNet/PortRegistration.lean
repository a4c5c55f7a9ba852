import XenNet.GrantLifecycle

namespace XenNet.PortRegistration

open XenNet.NetmapKernel
open XenNet.GrantRing
open XenNet.GrantLifecycle

/-- `struct netmap_vpwrap_adapter` -/
structure VpwrapAdapter where
  guestNeedRxkick : Bool
  guestNeedTxkick : Bool
deriving DecidableEq, Repr

/-- The port: its grants, the rings that netmap placed, netmap mode, and the flag blocks that
were allocated so far with the one that `na_private` designates. -/
structure VifPort where
  vif : VifGrants
  rings : PortRings
  netmapOn : Bool
  vwna : Nat → VpwrapAdapter
  allocated : Nat
  naPrivate : Option Nat

structure RegResult where
  port : VifPort
  grants : List Grant
  error : Int

/-- `xenvif_netmap_reg`, with the grants that it makes and the value that it returns. The
allocation succeeds. -/
def xenvifNetmapReg (layout : RingLayout) (port : VifPort) (flags : UInt32) (onoff : Bool)
    (call : MapCall) : Option RegResult :=
  if downCheck flags then some ⟨port, [], einval⟩
  else if onoff then
    (xenvifNetmapMap layout port.vif port.rings call).map fun mapped =>
      { port :=
          { vif := mapped.info
            rings := mapped.na
            netmapOn := true
            vwna := fun b => if b = port.allocated then ⟨true, false⟩ else port.vwna b
            allocated := port.allocated + 1
            naPrivate := some port.allocated }
        grants := mapped.grants
        error := 0 }
  else some ⟨{ port with netmapOn := false }, [], 0⟩

/-- `xenvif_netmap_detach`, with the references that it ends. The device leaves netmap mode. -/
def xenvifNetmapDetach (port : VifPort) : VifPort × List Int32 :=
  ({ port with vif := (xenvifNetmapUnmap port.vif).1, netmapOn := false },
    (xenvifNetmapUnmap port.vif).2)

/-- What a successful registration leaves behind: the rings are mapped, and the port has a
new block of kick flags. -/
structure Registered (layout : RingLayout) (port : VifPort) (call : MapCall)
    (result : RegResult) (mapped : MapResult) : Prop where
  map : xenvifNetmapMap layout port.vif port.rings call = some mapped
  grants : result.grants = mapped.grants
  error : result.error = 0
  vif : result.port.vif = mapped.info
  rings : result.port.rings = mapped.na
  netmapOn : result.port.netmapOn = true
  newBlock : result.port.vwna port.allocated = ⟨true, false⟩
  otherBlocks : ∀ b, b ≠ port.allocated → result.port.vwna b = port.vwna b
  allocated : result.port.allocated = port.allocated + 1
  naPrivate : result.port.naPrivate = some port.allocated

theorem xenvifNetmapReg_cases {layout : RingLayout} {port : VifPort} {flags : UInt32}
    {onoff : Bool} {call : MapCall} {result : RegResult}
    (hreg : xenvifNetmapReg layout port flags onoff call = some result) :
    (flags = 0 ∧ result = ⟨port, [], einval⟩) ∨
    (flags ≠ 0 ∧ onoff = false ∧ result = ⟨{ port with netmapOn := false }, [], 0⟩) ∨
    (flags ≠ 0 ∧ onoff = true ∧ ∃ mapped, Registered layout port call result mapped) := by
  unfold xenvifNetmapReg at hreg
  split at hreg
  · rename_i hdown
    exact Or.inl ⟨downCheck_iff.mp hdown, (Option.some.inj hreg).symm⟩
  · rename_i hup
    have hflags : flags ≠ 0 := fun hzero => hup (downCheck_iff.mpr hzero)
    cases onoff with
    | false => exact Or.inr (Or.inl ⟨hflags, rfl, (Option.some.inj hreg).symm⟩)
    | true =>
        rw [if_pos rfl, Option.map_eq_some_iff] at hreg
        obtain ⟨mapped, hmap, rfl⟩ := hreg
        refine Or.inr (Or.inr ⟨hflags, rfl, mapped, ?_⟩)
        exact
          { map := hmap
            grants := rfl
            error := rfl
            vif := rfl
            rings := rfl
            netmapOn := rfl
            newBlock := if_pos rfl
            otherBlocks := fun b hb => if_neg hb
            allocated := rfl
            naPrivate := rfl }

theorem exists_xenvifNetmapReg (layout : RingLayout) (port : VifPort) (flags : UInt32)
    (onoff : Bool) (call : MapCall) :
    ∃ result, xenvifNetmapReg layout port flags onoff call = some result := by
  obtain ⟨mapped, hmap⟩ := exists_xenvifNetmapMap layout port.vif port.rings call
  unfold xenvifNetmapReg
  split
  · exact ⟨_, rfl⟩
  · split
    · rw [hmap]
      exact ⟨_, rfl⟩
    · exact ⟨_, rfl⟩

end XenNet.PortRegistration
