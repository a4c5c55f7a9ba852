import XenNet.BridgeLookups
import XenNet.LearningBridges
import XenNet.OwnedReferences

/-!
The modules `learn.c`, `mac-static.c` and `ip-static.c` on the bridges of netmap, as they are
loaded and unloaded under the traffic. A bridge calls the function that was registered last, and
each module registers code of its own: `bdg_learning` too, which is in the header, is a part of
every module that gives it back to bridge `0` on its exit.
-/

namespace XenNet.BridgeModules

open XenNet.TransitionSystem
open XenNet.OwnedReferences
open XenNet.BridgeKernel
open XenNet.RouteTable
open XenNet.MacStatic
open XenNet.IpStatic
open XenNet.LsbLearning
open XenNet.LearningBridges
open XenNet.BridgeLookups

inductive BdgModule where
  | learn
  | macStatic
  | ipStatic
  deriving Repr, DecidableEq

/-- The loaded modules with the functions that the bridges call, the learning table of every
bridge, and the routes of the two static modules. -/
structure Bridges where
  code : Registry UInt32 BdgModule BdgLookupFn
  ht : UInt32 → HashTable
  mac : MacRoutes
  ip : IpRoutes

/-- No module is loaded, and there is no bridge. -/
def noBridges : Bridges where
  code := Registry.empty
  ht := fun _ => zeroTable
  mac := fun _ => zeroRoute nmBdgHash
  ip := ipStaticInit

section Modules

variable (s : Bridges)

/-- `bdgfnreg`, called by the module with a function of its own. -/
def bdgfnregBy (m : BdgModule) (bdgIdx : UInt32) (func : BdgLookupFn) : Int × Bridges :=
  let err := if s.code.slot bdgIdx = none then 22 else 0
  (bdgfnreg err, { s with code := s.code.assign bdgIdx m func })

/-- The kernel loads the module, before it calls the module's init function. -/
def insmod (m : BdgModule) : Bridges :=
  { s with code := s.code.enroll m }

/-- The kernel drops the module, after it has called the module's exit function. -/
def rmmod (m : BdgModule) : Bridges :=
  { s with code := s.code.retire m }

def macLsbInit (type : UInt32) : Bridges :=
  let func := .bdgLearning
  let func := if type ≠ 0 then .lsbLearning else func
  (bdgfnregBy s .learn 0 func).2

def macLsbExit : Bridges :=
  (bdgfnregBy s .learn 0 .bdgLearning).2

def initMacStatic (api : BdgApi) : Bridges :=
  { s with mac := macStaticInit api }

def exitMacStatic : Bridges :=
  (bdgfnregBy s .macStatic 0 .bdgLearning).2

def initIpStatic : Bridges :=
  { s with ip := ipStaticInit }

def exitIpStatic : Bridges :=
  (bdgfnregBy s .ipStatic 0 .bdgLearning).2

def moduleExit : BdgModule → Bridges
  | .learn => macLsbExit s
  | .macStatic => exitMacStatic s
  | .ipStatic => exitIpStatic s

/-- What `netmap_bdg_ctl` answers to the request, and the bridges when it has. -/
def registered (m : BdgModule) (func : BdgLookupFn) (io : BdgIoctl) : Bridges × BdgIoctl :=
  if io.cmd = .reg then
    let err := if s.code.slot io.breq.bdgIdx = none then 22 else 0
    ((bdgfnregBy s m io.breq.bdgIdx func).2, { io with err := err })
  else (s, io)

/-- `bdgctl` of `mac-static.c`. -/
def bdgctlMac (io : BdgIoctl) : Option Bridges :=
  let (s, io) := registered s .macStatic .lookup2 io
  (bdgctlStep macStatic s.mac io).map fun mac => { s with mac := mac }

/-- `bdgctl` of `ip-static.c`. -/
def bdgctlIp (api : BdgApi) (io : BdgIoctl) : Option Bridges :=
  let (s, io) := registered s .ipStatic .lookup3 io
  (bdgctlStep (ipStatic api) s.ip io).map fun ip => { s with ip := ip }

/-- The destination of a frame on the bridge, by the function. -/
def lookupBy (api : BdgApi) (bdgIdx : UInt32) (frame : BridgeFrame) :
    BdgLookupFn → UInt32 × Bridges
  | .bdgLearning =>
      let call := bdgLearning api (s.ht bdgIdx) frame
      (call.dst, { s with ht := Function.update s.ht bdgIdx call.rt })
  | .lsbLearning =>
      let call := lsbLearning api.nmBdgBroadcast (s.ht bdgIdx) frame
      (call.dst, { s with ht := Function.update s.ht bdgIdx call.rt })
  | .lookup2 => ((lookup2 s.mac frame.buf).dst, s)
  | .lookup3 => ((lookup3 api s.mac s.ip frame.buf).dst, s)

/-- A module can go that no loaded module uses: `ip-static.c` calls `lookup2`. -/
def CanUnload (m : BdgModule) : Prop :=
  s.code.present m = true ∧ (m = .macStatic → s.code.present .ipStatic = false)

instance (m : BdgModule) : Decidable (CanUnload s m) :=
  inferInstanceAs (Decidable (_ ∧ (_ → _)))

end Modules

inductive BridgeEvent where
  | create (bdgIdx : UInt32)
  | destroy (bdgIdx : UInt32)
  | loadLearn (type : UInt32)
  | loadMacStatic
  | loadIpStatic
  | unload (m : BdgModule)
  | bdgctlMac (io : BdgIoctl)
  | bdgctlIp (io : BdgIoctl)
  | frame (bdgIdx : UInt32) (frame : BridgeFrame)

/-- One event. Netmap makes a bridge with its own learning function and an empty table; a frame
on a bridge whose function has gone is an access to memory that is free. -/
def step (api : BdgApi) (s : Bridges) : BridgeEvent → Option Bridges
  | .create bdgIdx =>
      if s.code.slot bdgIdx = none then
        some { s with code := s.code.insert bdgIdx .bdgLearning
                      ht := Function.update s.ht bdgIdx zeroTable }
      else none
  | .destroy bdgIdx => some { s with code := s.code.erase bdgIdx }
  | .loadLearn type =>
      if s.code.present .learn = false then some (macLsbInit (insmod s .learn) type) else none
  | .loadMacStatic =>
      if s.code.present .macStatic = false then some (initMacStatic (insmod s .macStatic) api)
      else none
  | .loadIpStatic =>
      if s.code.present .ipStatic = false ∧ s.code.present .macStatic = true then
        some (initIpStatic (insmod s .ipStatic))
      else none
  | .unload m => if CanUnload s m then some (rmmod (moduleExit s m) m) else none
  | .bdgctlMac io => if s.code.present .macStatic = true then bdgctlMac s io else none
  | .bdgctlIp io => if s.code.present .ipStatic = true then bdgctlIp s api io else none
  | .frame bdgIdx frame =>
      match s.code.slot bdgIdx with
      | some func =>
          if s.code.Live func then some (lookupBy s api bdgIdx frame func.target).2 else none
      | none => none

section Code

variable (c : Registry UInt32 BdgModule BdgLookupFn)

/-- What an event needs of the code. -/
def Possible : BridgeEvent → Prop
  | .create bdgIdx => c.slot bdgIdx = none
  | .destroy _ => True
  | .loadLearn _ => c.present .learn = false
  | .loadMacStatic => c.present .macStatic = false
  | .loadIpStatic => c.present .ipStatic = false ∧ c.present .macStatic = true
  | .unload m => c.present m = true ∧ (m = .macStatic → c.present .ipStatic = false)
  | .bdgctlMac _ => c.present .macStatic = true
  | .bdgctlIp _ => c.present .ipStatic = true
  | .frame bdgIdx _ => ∃ func, c.slot bdgIdx = some func ∧ c.Live func

/-- What an event makes of the code. -/
def codeAfter : BridgeEvent → Registry UInt32 BdgModule BdgLookupFn
  | .create bdgIdx => c.insert bdgIdx .bdgLearning
  | .destroy bdgIdx => c.erase bdgIdx
  | .loadLearn type =>
      (c.enroll .learn).assign 0 .learn (if type ≠ 0 then .lsbLearning else .bdgLearning)
  | .loadMacStatic => c.enroll .macStatic
  | .loadIpStatic => c.enroll .ipStatic
  | .unload m => (c.assign 0 m .bdgLearning).retire m
  | .bdgctlMac io =>
      if io.cmd = .reg then c.assign io.breq.bdgIdx .macStatic .lookup2 else c
  | .bdgctlIp io =>
      if io.cmd = .reg then c.assign io.breq.bdgIdx .ipStatic .lookup3 else c
  | .frame _ _ => c

end Code

theorem code_registered (s : Bridges) (m : BdgModule) (func : BdgLookupFn) (io : BdgIoctl) :
    (registered s m func io).1.code =
      if io.cmd = .reg then s.code.assign io.breq.bdgIdx m func else s.code := by
  unfold registered
  split <;> rfl

theorem code_moduleExit (s : Bridges) (m : BdgModule) :
    (moduleExit s m).code = s.code.assign 0 m .bdgLearning := by
  cases m <;> rfl

theorem code_lookupBy (s : Bridges) (api : BdgApi) (bdgIdx : UInt32) (frame : BridgeFrame)
    (func : BdgLookupFn) : (lookupBy s api bdgIdx frame func).2.code = s.code := by
  cases func <;> rfl

theorem step_code {api : BdgApi} {s t : Bridges} {e : BridgeEvent}
    (hstep : step api s e = some t) : Possible s.code e ∧ t.code = codeAfter s.code e := by
  cases e with
  | create bdgIdx | loadLearn type | loadMacStatic | loadIpStatic =>
      obtain ⟨hguard, heq⟩ := Option.ite_none_right_eq_some.mp hstep
      cases heq
      exact ⟨hguard, rfl⟩
  | destroy bdgIdx =>
      cases hstep
      exact ⟨trivial, rfl⟩
  | unload m =>
      obtain ⟨hguard, heq⟩ := Option.ite_none_right_eq_some.mp hstep
      cases heq
      refine ⟨hguard, ?_⟩
      rw [codeAfter, ← code_moduleExit]
      rfl
  | bdgctlMac io =>
      obtain ⟨hguard, hcall⟩ := Option.ite_none_right_eq_some.mp hstep
      obtain ⟨mac, -, rfl⟩ := Option.map_eq_some_iff.mp hcall
      exact ⟨hguard, code_registered s .macStatic .lookup2 io⟩
  | bdgctlIp io =>
      obtain ⟨hguard, hcall⟩ := Option.ite_none_right_eq_some.mp hstep
      obtain ⟨ip, -, rfl⟩ := Option.map_eq_some_iff.mp hcall
      exact ⟨hguard, code_registered s .ipStatic .lookup3 io⟩
  | frame bdgIdx frame =>
      simp only [step] at hstep
      split at hstep
      · rename_i func hslot
        obtain ⟨hlive, heq⟩ := Option.ite_none_right_eq_some.mp hstep
        cases heq
        exact ⟨⟨func, hslot, hlive⟩, code_lookupBy s api bdgIdx frame func.target⟩
      · contradiction

theorem dated_step {api : BdgApi} {s t : Bridges} {e : BridgeEvent} (hdated : s.code.Dated)
    (hstep : step api s e = some t) : t.code.Dated := by
  rw [(step_code hstep).2]
  cases e with
  | create bdgIdx => exact hdated.insert bdgIdx _
  | destroy bdgIdx => exact hdated.erase bdgIdx
  | loadLearn type => exact (hdated.enroll .learn).assign 0 .learn _
  | loadMacStatic => exact hdated.enroll .macStatic
  | loadIpStatic => exact hdated.enroll .ipStatic
  | unload m => exact (hdated.assign 0 m _).retire m
  | bdgctlMac io | bdgctlIp io =>
      rw [codeAfter]
      split
      · exact hdated.assign io.breq.bdgIdx _ _
      · exact hdated
  | frame bdgIdx frame => exact hdated

theorem dated_noBridges : noBridges.code.Dated := Registry.allSlots_empty

theorem allLive_noBridges : noBridges.code.AllLive := Registry.allSlots_empty

theorem dated_run {api : BdgApi} {s : Bridges} {es : List BridgeEvent}
    (hrun : run (step api) noBridges es = some s) : s.code.Dated :=
  invariant_of_run (fun _ _ _ => dated_step) dated_noBridges hrun

/-- An exit that leaves nothing behind: no bridge `0` is there for it to write to, and no bridge
calls the module. -/
def LeavesNothing (s : Bridges) : BridgeEvent → Prop
  | .unload m => CanUnload s m → s.code.slot 0 = none ∧ s.code.Unused m
  | .create _ | .destroy _ | .loadLearn _ | .loadMacStatic | .loadIpStatic | .bdgctlMac _
  | .bdgctlIp _ | .frame _ _ => True

/-- After the event no bridge calls code that is gone. -/
def StaysLive (api : BdgApi) (s : Bridges) (e : BridgeEvent) : Prop :=
  ∀ t, step api s e = some t → t.code.AllLive

theorem staysLive_iff {api : BdgApi} {s : Bridges} (hlive : s.code.AllLive) (e : BridgeEvent) :
    StaysLive api s e ↔ LeavesNothing s e := by
  cases e with
  | unload m =>
      have hafter (hcan : CanUnload s m) :
          (codeAfter s.code (.unload m)).AllLive ↔ s.code.slot 0 = none ∧ s.code.Unused m :=
        (Registry.allLive_retire_iff (hlive.assign 0 hcan.1 .bdgLearning)).trans
          Registry.unused_assign_iff
      constructor
      · intro hall hcan
        have hstep : step api s (.unload m) = some (rmmod (moduleExit s m) m) := if_pos hcan
        have hnext := hall _ hstep
        rw [(step_code hstep).2] at hnext
        exact (hafter hcan).mp hnext
      · intro hleaves t hstep
        obtain ⟨hcan, hcode⟩ := step_code hstep
        rw [hcode]
        exact (hafter hcan).mpr (hleaves hcan)
  | create bdgIdx =>
      refine iff_of_true (fun t hstep => ?_) trivial
      rw [(step_code hstep).2]
      exact hlive.insert bdgIdx _
  | destroy bdgIdx =>
      refine iff_of_true (fun t hstep => ?_) trivial
      rw [(step_code hstep).2]
      exact hlive.erase bdgIdx
  | loadLearn type =>
      refine iff_of_true (fun t hstep => ?_) trivial
      obtain ⟨habsent, hcode⟩ := step_code hstep
      rw [hcode]
      exact (hlive.enroll habsent).assign 0 ((Registry.present_enroll ..).trans (if_pos rfl)) _
  | loadMacStatic =>
      refine iff_of_true (fun t hstep => ?_) trivial
      obtain ⟨habsent, hcode⟩ := step_code hstep
      rw [hcode]
      exact hlive.enroll habsent
  | loadIpStatic =>
      refine iff_of_true (fun t hstep => ?_) trivial
      obtain ⟨habsent, hcode⟩ := step_code hstep
      rw [hcode]
      exact hlive.enroll habsent.1
  | bdgctlMac io | bdgctlIp io =>
      refine iff_of_true (fun t hstep => ?_) trivial
      obtain ⟨hpresent, hcode⟩ := step_code hstep
      rw [hcode, codeAfter]
      split
      · exact hlive.assign io.breq.bdgIdx hpresent _
      · exact hlive
  | frame bdgIdx frame =>
      refine iff_of_true (fun t hstep => ?_) trivial
      rw [(step_code hstep).2]
      exact hlive

theorem frame_isSome {api : BdgApi} {s : Bridges} (hlive : s.code.AllLive) {bdgIdx : UInt32}
    (hbridge : (s.code.slot bdgIdx).isSome) (frame : BridgeFrame) :
    (step api s (.frame bdgIdx frame)).isSome := by
  obtain ⟨func, hfunc⟩ := Option.isSome_iff_exists.mp hbridge
  simp only [step, hfunc, if_pos (hlive bdgIdx func hfunc), Option.isSome_some]

/-- The bridges never call a module that is gone in exactly those runs in which every exit
leaves nothing behind; in them every frame on a bridge is forwarded. -/
theorem lookups_live_iff (api : BdgApi) (es : List BridgeEvent) :
    (Along (step api) (StaysLive api) noBridges es ↔
      Along (step api) LeavesNothing noBridges es) ∧
    (Along (step api) LeavesNothing noBridges es → ∀ s, run (step api) noBridges es = some s →
      ∀ bdgIdx frame, (s.code.slot bdgIdx).isSome →
        (step api s (.frame bdgIdx frame)).isSome) := by
  have hkeeps : ∀ s e t, s.code.AllLive → StaysLive api s e → step api s e = some t →
      t.code.AllLive := fun _ _ t _ hstays hstep => hstays t hstep
  have hiff : Along (step api) (StaysLive api) noBridges es ↔
      Along (step api) LeavesNothing noBridges es :=
    along_iff hkeeps (fun _ e hlive => staysLive_iff hlive e) allLive_noBridges
  refine ⟨hiff, fun hleaves s hrun bdgIdx frame hbridge => ?_⟩
  have hlive : s.code.AllLive :=
    invariant_of_along hkeeps allLive_noBridges (hiff.mpr hleaves) hrun
  exact frame_isSome hlive hbridge frame

/-- The event gives the bridge a function, or takes the bridge away. An exit is not one. -/
def SetsFunction (bdgIdx : UInt32) : BridgeEvent → Prop
  | .create bdgIdx' | .destroy bdgIdx' => bdgIdx' = bdgIdx
  | .loadLearn _ => bdgIdx = 0
  | .bdgctlMac io | .bdgctlIp io => io.cmd = .reg ∧ io.breq.bdgIdx = bdgIdx
  | .loadMacStatic | .loadIpStatic | .unload _ | .frame _ _ => False

instance (bdgIdx : UInt32) : (e : BridgeEvent) → Decidable (SetsFunction bdgIdx e)
  | .create bdgIdx' | .destroy bdgIdx' => inferInstanceAs (Decidable (bdgIdx' = bdgIdx))
  | .loadLearn _ => inferInstanceAs (Decidable (bdgIdx = 0))
  | .bdgctlMac io | .bdgctlIp io =>
      inferInstanceAs (Decidable (io.cmd = .reg ∧ io.breq.bdgIdx = bdgIdx))
  | .loadMacStatic | .loadIpStatic | .unload _ | .frame _ _ => isFalse id

theorem dangling_step {api : BdgApi} {s t : Bridges} {e : BridgeEvent} {bdgIdx : UInt32}
    (hdated : s.code.Dated) (hdangling : s.code.Dangling bdgIdx)
    (hother : ¬SetsFunction bdgIdx e) (hstep : step api s e = some t) :
    t.code.Dangling bdgIdx := by
  rw [(step_code hstep).2]
  cases e with
  | create bdgIdx' => exact hdangling.insert (fun h => hother h.symm) _
  | destroy bdgIdx' => exact hdangling.erase fun h => hother h.symm
  | loadLearn type => exact (hdangling.enroll hdated .learn).assign hother .learn _
  | loadMacStatic => exact hdangling.enroll hdated .macStatic
  | loadIpStatic => exact hdangling.enroll hdated .ipStatic
  | unload m =>
      rcases eq_or_ne bdgIdx 0 with rfl | hne
      · obtain ⟨func, hslot, -⟩ := hdangling
        exact Registry.dangling_assign_retire (Option.isSome_iff_exists.mpr ⟨func, hslot⟩) m _
      · exact (hdangling.assign hne m _).retire m
  | bdgctlMac io | bdgctlIp io =>
      rw [codeAfter]
      split
      · rename_i hreg
        exact hdangling.assign (fun h => hother ⟨hreg, h.symm⟩) _ _
      · exact hdangling
  | frame bdgIdx' frame => exact hdangling

theorem dangling_run {api : BdgApi} {s t : Bridges} {es : List BridgeEvent} {bdgIdx : UInt32}
    (hdated : s.code.Dated) (hdangling : s.code.Dangling bdgIdx)
    (hother : ∀ e ∈ es, ¬SetsFunction bdgIdx e) (hrun : run (step api) s es = some t) :
    t.code.Dangling bdgIdx := by
  induction es generalizing s with
  | nil =>
      obtain rfl : s = t := by simpa using hrun
      exact hdangling
  | cons e es ih =>
      obtain ⟨u, hu, hrest⟩ := run_cons_eq_some.mp hrun
      exact ih (dated_step hdated hu)
        (dangling_step hdated hdangling (hother e List.mem_cons_self) hu)
        (fun e' he' => hother e' (List.mem_cons_of_mem _ he')) hrest

theorem frame_of_dangling {api : BdgApi} {s : Bridges} {bdgIdx : UInt32}
    (hdangling : s.code.Dangling bdgIdx) (frame : BridgeFrame) :
    step api s (.frame bdgIdx frame) = none := by
  obtain ⟨func, hslot, hdead⟩ := hdangling
  simp only [step, hslot, if_neg hdead]

/-- Whichever module goes, and whatever went on before, bridge `0` is left with code that is
gone, and stays so, also when modules are loaded again and others go, until a function is
registered there. -/
theorem exit_dangles {api : BdgApi} {es : List BridgeEvent} {s t : Bridges} {m : BdgModule}
    (hrun : run (step api) noBridges es = some s) (hbridge : (s.code.slot 0).isSome)
    (hexit : step api s (.unload m) = some t) {es' : List BridgeEvent} {u : Bridges}
    (hother : ∀ e ∈ es', ¬SetsFunction 0 e) (hrun' : run (step api) t es' = some u) :
    u.code.Dangling 0 ∧ ∀ frame, step api u (.frame 0 frame) = none := by
  have hdated : s.code.Dated := dated_run hrun
  have hdangling : t.code.Dangling 0 := by
    rw [(step_code hexit).2]
    exact Registry.dangling_assign_retire hbridge m .bdgLearning
  have hlast : u.code.Dangling 0 := dangling_run (dated_step hdated hexit) hdangling hother hrun'
  exact ⟨hlast, frame_of_dangling hlast⟩

theorem exit_dangles_reload :
    ∃ u : Bridges, u.code.present .macStatic = true ∧ u.code.Dangling 0 ∧
      ∀ frame, step netmapBdg u (.frame 0 frame) = none := by
  obtain ⟨s, hs, hbridge⟩ : ∃ s, run (step netmapBdg) noBridges
      [.create 0, .loadMacStatic, .bdgctlMac (regBridge 0 1)] = some s ∧
        (s.code.slot 0).isSome := ⟨_, rfl, rfl⟩
  obtain ⟨t, ht, hgone⟩ : ∃ t, step netmapBdg s (.unload .macStatic) = some t ∧
      t.code.present .macStatic = false := by
    cases hs
    exact ⟨_, rfl, rfl⟩
  have hu : run (step netmapBdg) t [.loadMacStatic] =
      some (initMacStatic (insmod t .macStatic) netmapBdg) := by
    simp only [run, step, if_pos hgone]
  have hloaded : (t.code.enroll .macStatic).present .macStatic = true := by
    rw [Registry.present_enroll, if_pos rfl]
  exact ⟨_, hloaded, exit_dangles hs hbridge ht (by decide) hu⟩

end XenNet.BridgeModules
