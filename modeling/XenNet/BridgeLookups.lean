import XenNet.IpStatic
import XenNet.NumberedName

namespace XenNet.BridgeLookups

open XenNet.TransitionSystem
open XenNet.BridgeKernel
open XenNet.RouteTable
open XenNet.MacStatic
open XenNet.IpStatic
open XenNet.NumberedName

inductive BdgLookupFn where
  | bdgLearning
  | lsbLearning
  | lookup2
  | lookup3
  deriving Repr, DecidableEq

/-- The bridges of netmap and `NETMAP_BDG_LOOKUP_REG` of `netmap_bdg_ctl`, which installs the
function on the named bridge and is refused when there is none. -/
structure BdgSwitch (σ : Type) where
  lookup : σ → List Char → Option BdgLookupFn
  netmapBdgCtl : σ → List Char → BdgLookupFn → Int × σ
  refused_iff : ∀ s name func, 0 < (netmapBdgCtl s name func).1 ↔ lookup s name = none
  lookup_ctl : ∀ s name func name', lookup (netmapBdgCtl s name func).2 name' =
    if name' = name then (lookup s name').map fun _ => func else lookup s name'

def ifnamsiz : Nat := 16

/-- `nr_name` of a request for the bridge. -/
def bridgeName (bdgIdx : UInt32) : List Char :=
  snprintf ifnamsiz (numbered ['v', 'a', 'l', 'e'] bdgIdx.toNat ++ [':'])

theorem bridgeName_eq (bdgIdx : UInt32) :
    bridgeName bdgIdx = numbered ['v', 'a', 'l', 'e'] bdgIdx.toNat ++ [':'] := by
  have hlt : bdgIdx.toNat < 10 ^ 10 := Nat.lt_trans bdgIdx.toNat_lt (by decide)
  have hlength := (length_decimal_le_iff (by decide)).mpr hlt
  apply snprintf_of_lt
  simp only [numbered, ifnamsiz, List.length_append, List.length_cons, List.length_nil]
  omega

theorem bridgeName_inj {bdgIdx bdgIdx' : UInt32} :
    bridgeName bdgIdx = bridgeName bdgIdx' ↔ bdgIdx = bdgIdx' := by
  rw [bridgeName_eq, bridgeName_eq, List.append_left_inj, numbered, numbered,
    List.append_right_inj, decimal_injective.eq_iff, UInt32.toNat_inj]

section Switch

variable {σ : Type} (net : BdgSwitch σ)

/-- `bdgfnreg`: what it returns, and the bridges after it. -/
def bdgfnregOn (s : σ) (bdgIdx : UInt32) (func : BdgLookupFn) : Int × σ :=
  let (err, s) := net.netmapBdgCtl s (bridgeName bdgIdx) func
  (bdgfnreg err, s)

def Exists (s : σ) (bdgIdx : UInt32) : Prop :=
  (net.lookup s (bridgeName bdgIdx)).isSome

theorem bdgfnregOn_eq_zero_iff (s : σ) (bdgIdx : UInt32) (func : BdgLookupFn) :
    (bdgfnregOn net s bdgIdx func).1 = 0 ↔ Exists net s bdgIdx := by
  have hrefused := net.refused_iff s (bridgeName bdgIdx) func
  rw [Exists, Option.isSome_iff_ne_none, ne_eq, ← hrefused]
  simp only [bdgfnregOn, bdgfnreg]
  split
  · rename_i hpos
    simp [hpos]
  · rename_i hpos
    simp [hpos]

section Requests

variable {bridges buckets : Nat} (ops : RouteModule buckets) (func : BdgLookupFn)

/-- `bdgctl` of a module whose lookup function is `func`. -/
def bdgctlOn (st : σ × Routes bridges buckets) (io : BdgIoctl) :
    Option (σ × BdgctlCall bridges buckets) :=
  match io.cmd with
  | .reg =>
      let (err, s) := net.netmapBdgCtl st.1 (bridgeName io.breq.bdgIdx) func
      (bdgctl ops st.2 { io with err := err }).map fun call => (s, call)
  | .list | .addif | .info => (bdgctl ops st.2 io).map fun call => (st.1, call)

def moduleStep (st : σ × Routes bridges buckets) (io : BdgIoctl) :
    Option (σ × Routes bridges buckets) :=
  (bdgctlOn net ops func st io).map fun result => (result.1, result.2.rt)

def lookupStep (s : σ) (io : BdgIoctl) : σ :=
  if io.cmd = .reg then (bdgfnregOn net s io.breq.bdgIdx func).2 else s

theorem moduleStep_lookups {st st' : σ × Routes bridges buckets} {io : BdgIoctl}
    (hstep : moduleStep net ops func st io = some st') :
    st'.1 = lookupStep net func st.1 io := by
  unfold moduleStep bdgctlOn at hstep
  obtain ⟨result, hresult, rfl⟩ := Option.map_eq_some_iff.mp hstep
  unfold lookupStep
  cases hcmd : io.cmd with
  | reg =>
      rw [hcmd] at hresult
      obtain ⟨call, _, rfl⟩ := Option.map_eq_some_iff.mp hresult
      rfl
  | list | addif | info =>
      rw [hcmd] at hresult
      obtain ⟨call, _, rfl⟩ := Option.map_eq_some_iff.mp hresult
      rfl

theorem run_lookups {st st' : σ × Routes bridges buckets} {ios : List BdgIoctl}
    (hrun : run (moduleStep net ops func) st ios = some st') :
    st'.1 = ios.foldl (lookupStep net func) st.1 := by
  induction ios generalizing st with
  | nil =>
      obtain rfl := Option.some.inj hrun
      rfl
  | cons io ios ih =>
      obtain ⟨u, hu, hrest⟩ := run_cons_eq_some.mp hrun
      rw [ih hrest, moduleStep_lookups net ops func hu]
      rfl

end Requests

/-- The request registers the function of its module on the named bridge. -/
def Registers (name : List Char) (io : BdgIoctl) : Prop :=
  io.cmd = .reg ∧ bridgeName io.breq.bdgIdx = name

instance (name : List Char) (io : BdgIoctl) : Decidable (Registers name io) :=
  inferInstanceAs (Decidable (_ ∧ _))

theorem lookup_lookupStep (func : BdgLookupFn) (s : σ) (io : BdgIoctl) (name : List Char) :
    net.lookup (lookupStep net func s io) name =
      if Registers name io then (net.lookup s name).map fun _ => func
      else net.lookup s name := by
  unfold lookupStep
  by_cases hregisters : Registers name io
  · obtain ⟨hcmd, hname⟩ := hregisters
    rw [if_pos hcmd, if_pos ⟨hcmd, hname⟩]
    simp only [bdgfnregOn, net.lookup_ctl, hname, if_true]
  · rw [if_neg hregisters]
    split
    · rename_i hcmd
      simp only [bdgfnregOn, net.lookup_ctl]
      exact if_neg fun hname => hregisters ⟨hcmd, hname.symm⟩
    · rfl

theorem lookup_foldl (func : BdgLookupFn) (s : σ) (ios : List BdgIoctl) (name : List Char) :
    net.lookup (ios.foldl (lookupStep net func) s) name =
      if ∃ io ∈ ios, Registers name io then (net.lookup s name).map fun _ => func
      else net.lookup s name := by
  induction ios generalizing s with
  | nil => simp
  | cons io ios ih =>
      rw [List.foldl_cons, ih, lookup_lookupStep]
      simp only [List.mem_cons, exists_eq_or_imp]
      by_cases hio : Registers name io
      · simp [hio, Function.comp_def]
      · simp [hio]

def macStaticExit (s : σ) : σ :=
  (bdgfnregOn net s 0 .bdgLearning).2

def ipStaticExit (s : σ) : σ :=
  (bdgfnregOn net s 0 .bdgLearning).2

theorem exit_clears_iff {func : BdgLookupFn} (hfunc : func ≠ .bdgLearning) {s : σ}
    (hs : ∀ name, net.lookup s name ≠ some func) (ios : List BdgIoctl) :
    (∀ name, net.lookup (bdgfnregOn net (ios.foldl (lookupStep net func) s) 0
        .bdgLearning).2 name ≠ some func) ↔
      ∀ io ∈ ios, io.cmd = .reg → Exists net s io.breq.bdgIdx → io.breq.bdgIdx = 0 := by
  simp only [bdgfnregOn, net.lookup_ctl, lookup_foldl]
  constructor
  · intro hclear io hio hreg hexists
    obtain ⟨old, hold⟩ := Option.isSome_iff_exists.mp hexists
    by_contra hidx
    apply hclear (bridgeName io.breq.bdgIdx)
    rw [if_neg fun heq => hidx (bridgeName_inj.mp heq), if_pos ⟨io, hio, hreg, rfl⟩, hold]
    rfl
  · intro hzero name hname
    split at hname
    · obtain ⟨_, _, heq⟩ := Option.map_eq_some_iff.mp hname
      exact hfunc heq.symm
    · rename_i hne
      split at hname
      · rename_i hregistered
        obtain ⟨io, hio, hreg, rfl⟩ := hregistered
        obtain ⟨old, hold, _⟩ := Option.map_eq_some_iff.mp hname
        apply hne
        rw [hzero io hio hreg (Option.isSome_iff_exists.mpr ⟨old, hold⟩)]
      · exact hs name hname

/-- An exit leaves no bridge with the function of the module exactly when the module was
registered on no bridge but bridge `0`. The bridges are those after a run of the module's
requests, whatever its tables held. -/
theorem static_exit_iff (api : BdgApi) {s : σ}
    (hmac : ∀ name, net.lookup s name ≠ some .lookup2)
    (hip : ∀ name, net.lookup s name ≠ some .lookup3) (ios : List BdgIoctl) :
    (((∀ name, net.lookup (macStaticExit net (ios.foldl (lookupStep net .lookup2) s)) name ≠
          some .lookup2) ↔
        ∀ io ∈ ios, io.cmd = .reg → Exists net s io.breq.bdgIdx → io.breq.bdgIdx = 0) ∧
      ∀ (rt : MacRoutes) st, run (moduleStep net macStatic .lookup2) (s, rt) ios = some st →
        st.1 = ios.foldl (lookupStep net .lookup2) s) ∧
    ((∀ name, net.lookup (ipStaticExit net (ios.foldl (lookupStep net .lookup3) s)) name ≠
          some .lookup3) ↔
        ∀ io ∈ ios, io.cmd = .reg → Exists net s io.breq.bdgIdx → io.breq.bdgIdx = 0) ∧
      ∀ (rt : IpRoutes) st, run (moduleStep net (ipStatic api) .lookup3) (s, rt) ios = some st →
        st.1 = ios.foldl (lookupStep net .lookup3) s :=
  ⟨⟨exit_clears_iff net (by decide) hmac ios, fun _ _ hrun => run_lookups net macStatic _ hrun⟩,
    exit_clears_iff net (by decide) hip ios, fun _ _ hrun => run_lookups net (ipStatic api) _ hrun⟩

end Switch

/-- The bridges of netmap by their names. -/
def netmapSwitch : BdgSwitch (List Char → Option BdgLookupFn) where
  lookup := fun s name => s name
  netmapBdgCtl := fun s name func =>
    (if s name = none then 22 else 0, Function.update s name ((s name).map fun _ => func))
  refused_iff := by
    intro s name func
    split
    · rename_i hnone
      simp [hnone]
    · rename_i hsome
      simp [hsome]
  lookup_ctl := by
    intro s name func name'
    rcases eq_or_ne name' name with rfl | hne
    · rw [if_pos rfl]
      exact Function.update_self _ _ _
    · rw [if_neg hne]
      exact Function.update_of_ne hne _ _

def twoBridges : List Char → Option BdgLookupFn :=
  fun name => if name = bridgeName 0 ∨ name = bridgeName 1 then some .bdgLearning else none

theorem static_exit_two_bridges :
    ((∀ name, netmapSwitch.lookup (macStaticExit netmapSwitch
        ([regBridge 0 1].foldl (lookupStep netmapSwitch .lookup2) twoBridges)) name ≠
          some .lookup2) ∧
      (∀ name, netmapSwitch.lookup (ipStaticExit netmapSwitch
        ([regBridge 0 1].foldl (lookupStep netmapSwitch .lookup3) twoBridges)) name ≠
          some .lookup3)) := by
  have hfresh : ∀ func, func ≠ .bdgLearning →
      ∀ name, netmapSwitch.lookup twoBridges name ≠ some func := by
    intro func hfunc name hname
    simp only [netmapSwitch, twoBridges] at hname
    split at hname
    · exact hfunc (Option.some.inj hname).symm
    · contradiction
  obtain ⟨⟨hmac, _⟩, hip, _⟩ := static_exit_iff netmapSwitch netmapBdg
    (hfresh .lookup2 (by decide)) (hfresh .lookup3 (by decide)) [regBridge 0 1]
  exact ⟨hmac.mpr (by simp [regBridge]), hip.mpr (by simp [regBridge])⟩

/-- The exit function does not look beyond bridge `0`. -/
theorem static_exit_fails :
    (¬ ∀ (ios : List BdgIoctl) name, netmapSwitch.lookup (macStaticExit netmapSwitch
        (ios.foldl (lookupStep netmapSwitch .lookup2) twoBridges)) name ≠ some .lookup2) ∧
    (¬ ∀ (ios : List BdgIoctl) name, netmapSwitch.lookup (ipStaticExit netmapSwitch
        (ios.foldl (lookupStep netmapSwitch .lookup3) twoBridges)) name ≠ some .lookup3) := by
  constructor
  · intro halways
    exact halways [regBridge 1 1] (bridgeName 1) (by decide)
  · intro halways
    exact halways [regBridge 1 1] (bridgeName 1) (by decide)

end XenNet.BridgeLookups
