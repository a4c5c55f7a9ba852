import XenNet.BridgeTraffic

namespace XenNet.BridgeNames

open XenNet.TransitionSystem
open XenNet.OwnedReferences
open XenNet.BridgeKernel
open XenNet.LsbLearning
open XenNet.LearningBridges
open XenNet.BridgeLookups
open XenNet.BridgeModules
open XenNet.BridgeTraffic

/-- The bridges of netmap by their names, as they come and go, with their learning tables. Netmap
makes a bridge with its own learning function and an empty table. -/
structure BdgBridges (σ : Type) extends BdgSwitch σ where
  table : σ → List Char → HashTable
  create : σ → List Char → σ
  destroy : σ → List Char → σ
  setTable : σ → List Char → HashTable → σ
  lookup_create : ∀ s name name', lookup s name = none → lookup (create s name) name' =
    if name' = name then some .bdgLearning else lookup s name'
  lookup_destroy : ∀ s name name', lookup (destroy s name) name' =
    if name' = name then none else lookup s name'
  lookup_setTable : ∀ s name ht name', lookup (setTable s name ht) name' = lookup s name'
  table_create : ∀ s name name', lookup s name = none → table (create s name) name' =
    if name' = name then zeroTable else table s name'
  table_destroy : ∀ s name name', name' ≠ name → table (destroy s name) name' = table s name'
  table_ctl : ∀ s name func name', table (netmapBdgCtl s name func).2 name' = table s name'
  table_setTable : ∀ s name ht name', lookup s name ≠ none → table (setTable s name ht) name' =
    if name' = name then ht else table s name'

/-- What a lookup function makes of the table of its bridge. -/
def tableAfter (api : BdgApi) (ht : HashTable) (frame : BridgeFrame) : BdgLookupFn → HashTable
  | .bdgLearning => (bdgLearning api ht frame).rt
  | .lsbLearning => (lsbLearning api.nmBdgBroadcast ht frame).rt
  | .lookup2 | .lookup3 => ht

section Switch

variable {σ : Type} (net : BdgBridges σ) (api : BdgApi)

/-- The share of netmap in an event. -/
def netStep (names : σ) : BridgeEvent → σ
  | .create bdgIdx => net.create names (bridgeName bdgIdx)
  | .destroy bdgIdx => net.destroy names (bridgeName bdgIdx)
  | .loadLearn type =>
      (bdgfnregOn net.toBdgSwitch names 0 (if type ≠ 0 then .lsbLearning else .bdgLearning)).2
  | .loadMacStatic | .loadIpStatic => names
  | .unload _ => (bdgfnregOn net.toBdgSwitch names 0 .bdgLearning).2
  | .bdgctlMac io => lookupStep net.toBdgSwitch .lookup2 names io
  | .bdgctlIp io => lookupStep net.toBdgSwitch .lookup3 names io
  | .frame bdgIdx frame =>
      match net.lookup names (bridgeName bdgIdx) with
      | some func =>
          net.setTable names (bridgeName bdgIdx)
            (tableAfter api (net.table names (bridgeName bdgIdx)) frame func)
      | none => names

/-- The switch has the bridges, with the functions that they call and their tables. -/
structure Shows (names : σ) (s : Bridges) : Prop where
  lookup : ∀ bdgIdx, net.lookup names (bridgeName bdgIdx) =
    (s.code.slot bdgIdx).map Reference.target
  table : ∀ bdgIdx, (s.code.slot bdgIdx).isSome →
    net.table names (bridgeName bdgIdx) = s.ht bdgIdx

variable {net api} {names : σ} {s t : Bridges} {e : BridgeEvent}

theorem lookup_bdgfnregOn (hshows : Shows net names s) (m : BdgModule) (bdgIdx : UInt32)
    (func : BdgLookupFn) (bdgIdx' : UInt32) :
    net.lookup (bdgfnregOn net.toBdgSwitch names bdgIdx func).2 (bridgeName bdgIdx') =
      ((s.code.assign bdgIdx m func).slot bdgIdx').map Reference.target := by
  simp only [bdgfnregOn, net.lookup_ctl, bridgeName_inj, hshows.lookup bdgIdx',
    Registry.slot_assign]
  split
  · rw [Option.map_map, Option.map_map]
    rfl
  · rfl

theorem table_bdgfnregOn (names : σ) (bdgIdx : UInt32) (func : BdgLookupFn) (name : List Char) :
    net.table (bdgfnregOn net.toBdgSwitch names bdgIdx func).2 name = net.table names name :=
  net.table_ctl ..

/-- `bdgfnreg` on the bridges answers as `bdgfnreg` does on their names. -/
theorem bdgfnregOn_answer (hshows : Shows net names s) (m : BdgModule) (bdgIdx : UInt32)
    (func : BdgLookupFn) :
    (bdgfnregOn net.toBdgSwitch names bdgIdx func).1 = 0 ↔
      (bdgfnregBy s m bdgIdx func).1 = 0 := by
  rw [bdgfnregOn_eq_zero_iff, BridgeLookups.Exists, hshows.lookup bdgIdx, Option.isSome_map]
  simp only [bdgfnregBy]
  cases s.code.slot bdgIdx with
  | none => decide
  | some func => simp [bdgfnreg]

theorem lookup_netStep (hshows : Shows net names s) (hstep : step api s e = some t)
    (bdgIdx : UInt32) :
    net.lookup (netStep net api names e) (bridgeName bdgIdx) =
      (t.code.slot bdgIdx).map Reference.target := by
  obtain ⟨hpossible, hcode⟩ := step_code hstep
  rw [hcode]
  cases e with
  | create bdgIdx' =>
      have hnone : net.lookup names (bridgeName bdgIdx') = none := by
        rw [hshows.lookup, hpossible]
        rfl
      simp only [netStep, codeAfter, net.lookup_create _ _ _ hnone, bridgeName_inj,
        Registry.slot_insert]
      split
      · rfl
      · exact hshows.lookup bdgIdx
  | destroy bdgIdx' =>
      simp only [netStep, codeAfter, net.lookup_destroy, bridgeName_inj, Registry.slot_erase]
      split
      · rfl
      · exact hshows.lookup bdgIdx
  | loadLearn type =>
      have hloaded : Shows net names (insmod s .learn) := ⟨hshows.lookup, hshows.table⟩
      exact lookup_bdgfnregOn hloaded .learn 0 _ bdgIdx
  | loadMacStatic | loadIpStatic => exact hshows.lookup bdgIdx
  | unload m => exact lookup_bdgfnregOn hshows m 0 .bdgLearning bdgIdx
  | bdgctlMac io | bdgctlIp io =>
      simp only [netStep, codeAfter, lookupStep]
      split
      · exact lookup_bdgfnregOn hshows _ _ _ bdgIdx
      · exact hshows.lookup bdgIdx
  | frame bdgIdx' frame =>
      simp only [netStep, codeAfter]
      split
      · exact (net.lookup_setTable ..).trans (hshows.lookup bdgIdx)
      · exact hshows.lookup bdgIdx

theorem ht_lookupBy (s : Bridges) (api : BdgApi) (bdgIdx : UInt32) (frame : BridgeFrame)
    (func : BdgLookupFn) :
    (lookupBy s api bdgIdx frame func).2.ht =
      Function.update s.ht bdgIdx (tableAfter api (s.ht bdgIdx) frame func) := by
  cases func with
  | bdgLearning | lsbLearning => rfl
  | lookup2 | lookup3 => exact (Function.update_eq_self bdgIdx s.ht).symm

theorem table_netStep_of_leaves (hshows : Shows net names s) (hstep : step api s e = some t)
    (hother : ¬TouchesTables e) {bdgIdx : UInt32} (hsome : (t.code.slot bdgIdx).isSome) :
    net.table (netStep net api names e) (bridgeName bdgIdx) = t.ht bdgIdx := by
  rw [(leaves_step hstep).ht hother]
  rw [(step_code hstep).2] at hsome
  have hbefore : (s.code.slot bdgIdx).isSome :=
    (isSome_codeAfter hsome).resolve_right fun h => hother (h ▸ trivial)
  refine Eq.trans ?_ (hshows.table bdgIdx hbefore)
  cases e with
  | create bdgIdx' | frame bdgIdx' frame => exact absurd trivial hother
  | destroy bdgIdx' =>
      have hne : bridgeName bdgIdx ≠ bridgeName bdgIdx' := by
        rw [Ne, bridgeName_inj]
        rintro rfl
        rw [codeAfter, Registry.slot_erase, if_pos rfl] at hsome
        contradiction
      exact net.table_destroy _ _ _ hne
  | loadLearn type | unload m => exact table_bdgfnregOn ..
  | loadMacStatic | loadIpStatic => rfl
  | bdgctlMac io | bdgctlIp io =>
      simp only [netStep, lookupStep]
      split
      · exact table_bdgfnregOn ..
      · rfl

theorem table_netStep (hshows : Shows net names s) (hstep : step api s e = some t)
    {bdgIdx : UInt32} (hsome : (t.code.slot bdgIdx).isSome) :
    net.table (netStep net api names e) (bridgeName bdgIdx) = t.ht bdgIdx := by
  obtain ⟨hpossible, hcode⟩ := step_code hstep
  rw [hcode] at hsome
  cases e with
  | create bdgIdx' =>
      have hnone : net.lookup names (bridgeName bdgIdx') = none := by
        rw [hshows.lookup, hpossible]
        rfl
      obtain ⟨-, heq⟩ := Option.ite_none_right_eq_some.mp hstep
      cases heq
      simp only [netStep, net.table_create _ _ _ hnone, bridgeName_inj, Function.update_apply]
      split
      · rfl
      · rename_i hne
        refine hshows.table bdgIdx ((isSome_codeAfter hsome).resolve_right fun h => hne ?_)
        exact (BridgeEvent.create.inj h).symm
  | frame bdgIdx' frame =>
      obtain ⟨func, hfunc, hlive⟩ := hpossible
      have heq : t = (lookupBy s api bdgIdx' frame func.target).2 := by
        simp only [step, hfunc, if_pos hlive] at hstep
        exact (Option.some.inj hstep).symm
      have hname : net.lookup names (bridgeName bdgIdx') = some func.target := by
        rw [hshows.lookup, hfunc]
        rfl
      have hexists : net.lookup names (bridgeName bdgIdx') ≠ none := by
        rw [hname]
        exact Option.some_ne_none _
      have htable := hshows.table bdgIdx' (Option.isSome_iff_exists.mpr ⟨func, hfunc⟩)
      simp only [netStep, hname, net.table_setTable _ _ _ _ hexists, bridgeName_inj, htable, heq,
        ht_lookupBy, Function.update_apply]
      split
      · rfl
      · exact hshows.table bdgIdx hsome
  | destroy bdgIdx' | loadLearn type | loadMacStatic | loadIpStatic | unload m | bdgctlMac io
  | bdgctlIp io => exact table_netStep_of_leaves hshows hstep id (hcode ▸ hsome)

theorem shows_step (hshows : Shows net names s) (hstep : step api s e = some t) :
    Shows net (netStep net api names e) t where
  lookup := lookup_netStep hshows hstep
  table _ hsome := table_netStep hshows hstep hsome

theorem shows_run {es : List BridgeEvent} (hshows : Shows net names s)
    (hrun : run (step api) s es = some t) : Shows net (es.foldl (netStep net api) names) t := by
  induction es generalizing s names with
  | nil =>
      obtain rfl : s = t := by simpa using hrun
      exact hshows
  | cons e es ih =>
      obtain ⟨u, hu, hrest⟩ := run_cons_eq_some.mp hrun
      exact ih (shows_step hshows hu) hrest

theorem shows_noBridges (hnone : ∀ name, net.lookup names name = none) :
    Shows net names noBridges where
  lookup _ := hnone _
  table _ hsome := absurd hsome Bool.false_ne_true

/-- Whatever modules, bridges and frames come and go, a switch that does what is expected of
netmap's calls the functions, and keeps the tables, that the bridges have. -/
theorem switch_shows {es : List BridgeEvent} (hnone : ∀ name, net.lookup names name = none)
    (hrun : run (step api) noBridges es = some s) :
    Shows net (es.foldl (netStep net api) names) s :=
  shows_run (shows_noBridges hnone) hrun

end Switch

theorem map_update_of_kept {α β : Type*} (s : List Char → Option α) (name : List Char)
    (f : α → α) (part : α → β) (hkept : ∀ a, part (f a) = part a) (name' : List Char) :
    (Function.update s name ((s name).map f) name').map part = (s name').map part := by
  rw [Function.update_apply]
  split
  · rename_i hname
    rw [hname, Option.map_map]
    exact congrArg (fun g => (s name).map g) (funext hkept)
  · rfl

/-- The bridges with their functions and tables. -/
def netmapBridges : BdgBridges (List Char → Option (BdgLookupFn × HashTable)) where
  lookup s name := (s name).map Prod.fst
  netmapBdgCtl s name func :=
    (if s name = none then 22 else 0,
      Function.update s name ((s name).map fun bridge => (func, bridge.2)))
  refused_iff s name func := by
    rw [Option.map_eq_none_iff]
    split
    · rename_i hnone
      simp [hnone]
    · rename_i hsome
      simp [hsome]
  lookup_ctl s name func name' := by
    dsimp only
    rw [Function.update_apply]
    split
    · rename_i hname
      rw [hname]
      cases s name <;> rfl
    · rfl
  table s name := ((s name).map Prod.snd).getD zeroTable
  create s name := Function.update s name (some (.bdgLearning, zeroTable))
  destroy s name := Function.update s name none
  setTable s name ht := Function.update s name ((s name).map fun bridge => (bridge.1, ht))
  lookup_create s name name' _ := by
    rw [Function.update_apply]
    split <;> rfl
  lookup_destroy s name name' := by
    rw [Function.update_apply]
    split <;> rfl
  lookup_setTable s name ht :=
    map_update_of_kept s name (fun bridge => (bridge.1, ht)) Prod.fst fun _ => rfl
  table_create s name name' _ := by
    rw [Function.update_apply]
    split <;> rfl
  table_destroy s name name' hne := by
    rw [Function.update_of_ne hne]
  table_ctl s name func name' :=
    congrArg (fun table => table.getD zeroTable)
      (map_update_of_kept s name (fun bridge => (func, bridge.2)) Prod.snd (fun _ => rfl) name')
  table_setTable s name ht name' hexists := by
    obtain ⟨bridge, hbridge⟩ :=
      Option.ne_none_iff_exists'.mp (mt Option.map_eq_none_iff.mpr hexists)
    rw [Function.update_apply, hbridge]
    split <;> rfl

/-- The learning function by the module `learn.c` on `vale0:`. -/
example : netmapBridges.lookup (switchRun.foldl (netStep netmapBridges netmapBdg) fun _ => none)
    ['v', 'a', 'l', 'e', '0', ':'] = some .lsbLearning := by
  rfl

end XenNet.BridgeNames
