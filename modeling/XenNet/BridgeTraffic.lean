import XenNet.BridgeModules
import XenNet.RunTotals

namespace XenNet.BridgeTraffic

open XenNet.ByteMemory
open XenNet.TransitionSystem
open XenNet.RunTotals
open XenNet.LastWrite
open XenNet.OwnedReferences
open XenNet.BridgeKernel
open XenNet.RouteTable
open XenNet.MacStatic
open XenNet.IpStatic
open XenNet.LsbLearning
open XenNet.LearningBridges
open XenNet.BridgeLookups
open XenNet.BridgeModules

/-- The bucket of a station, for a function that learns. -/
def bucketOf : BdgLookupFn → Option ((Nat → UInt8) → Fin nmBdgHash)
  | .bdgLearning => some rthashIndex
  | .lsbLearning => some fun addr => lsbIndex (addr 5)
  | .lookup2 | .lookup3 => none

/-- A frame whose source was put in a bucket. -/
structure Sighting where
  bucket : Fin nmBdgHash
  frame : BridgeFrame

def sighting (func : BdgLookupFn) (frame : BridgeFrame) : List Sighting :=
  match bucketOf func with
  | some bucket =>
      if frame.buf 6 &&& 1 = 0 then [⟨bucket (pointer frame.buf 6), frame⟩] else []
  | none => []

/-- The sightings on the bridge since it was made. -/
def noteSighting (bdgIdx : UInt32) (s : Bridges) (e : BridgeEvent) (seen : List Sighting) :
    List Sighting :=
  match e with
  | .create bdgIdx' => if bdgIdx' = bdgIdx then [] else seen
  | .frame bdgIdx' frame =>
      if bdgIdx' = bdgIdx then
        match s.code.slot bdgIdx with
        | some func => seen ++ sighting func.target frame
        | none => seen
      else seen
  | .destroy _ | .loadLearn _ | .loadMacStatic | .loadIpStatic | .unload _ | .bdgctlMac _
  | .bdgctlIp _ => seen

def sightings (api : BdgApi) (bdgIdx : UInt32) (es : List BridgeEvent) : List Sighting :=
  record (step api) (noteSighting bdgIdx) noBridges [] es

/-- The frame of the last sighting in the bucket. -/
def lastSeen (bucket : Fin nmBdgHash) (seen : List Sighting) : Option BridgeFrame :=
  lastWrite (fun sight => if sight.bucket = bucket then some sight.frame else none) seen

/-- The table holds what was seen last in each bucket. -/
def Remembers (ht : HashTable) (seen : List Sighting) : Prop :=
  ∀ bucket, ht bucket = ((lastSeen bucket seen).map BridgeFrame.learned).getD ⟨0, 0⟩

theorem remembers_zeroTable : Remembers zeroTable [] := fun _ => rfl

theorem Remembers.learn {bucket : (Nat → UInt8) → Fin nmBdgHash} {func : BdgLookupFn}
    (hbucket : bucketOf func = some bucket) {ht : HashTable} {seen : List Sighting}
    (hseen : Remembers ht seen) (nodst : UInt32) (frame : BridgeFrame) :
    Remembers (learn bucket nodst ht frame).rt (seen ++ sighting func frame) := by
  intro j
  simp only [LearningBridges.learn, sighting, hbucket]
  by_cases hsource : frame.buf 6 &&& 1 = 0
  · rw [if_pos hsource, if_pos hsource, lastSeen, lastWrite_concat]
    rcases eq_or_ne (bucket (pointer frame.buf 6)) j with rfl | hne
    · rw [if_pos rfl]
      exact Function.update_self ..
    · rw [if_neg hne, Option.none_or]
      exact (Function.update_of_ne hne.symm ..).trans (hseen j)
  · rw [if_neg hsource, if_neg hsource, List.append_nil]
    exact hseen j

/-- The port of the destination, when the station seen last in its bucket is the destination. -/
def seenPort (nodst : UInt32) (bucket : (Nat → UInt8) → Fin nmBdgHash) (seen : List Sighting)
    (buf : Nat → UInt8) : UInt32 :=
  if buf 0 &&& 1 = 0 then
    match lastSeen (bucket buf) seen with
    | some frame => if bytes frame.buf 6 6 = bytes buf 0 6 then frame.bdgPort else nodst
    | none => if bytes buf 0 6 = List.replicate 6 0 then 0 else nodst
  else nodst

theorem learn_dst {bucket : (Nat → UInt8) → Fin nmBdgHash} {nodst : UInt32} {ht : HashTable}
    {frame : BridgeFrame} {seen : List Sighting}
    (hseen : Remembers (learn bucket nodst ht frame).rt seen) :
    (learn bucket nodst ht frame).dst = seenPort nodst bucket seen frame.buf := by
  have hentry := hseen (bucket frame.buf)
  simp only [learn] at hentry ⊢
  rw [hentry, seenPort]
  by_cases hunicast : frame.buf 0 &&& 1 = 0
  · rw [if_pos hunicast, if_pos hunicast]
    cases lastSeen (bucket frame.buf) seen with
    | some source =>
        have hport : source.learned.ports.toUInt32 = source.bdgPort :=
          UInt32.toUInt32_toUInt64 source.bdgPort
        simp only [Option.map_some, Option.getD_some, learned_mac_eq_iff, hport]
    | none =>
        simp only [Option.map_none, Option.getD_none, zero_mac_eq_iff]
        rfl
  · rw [if_neg hunicast, if_neg hunicast]

theorem lookupBy_of_learns {api : BdgApi} {s : Bridges} {bdgIdx : UInt32} {frame : BridgeFrame}
    {func : BdgLookupFn} {bucket : (Nat → UInt8) → Fin nmBdgHash}
    (hbucket : bucketOf func = some bucket) :
    lookupBy s api bdgIdx frame func =
      ((learn bucket api.nmBdgBroadcast (s.ht bdgIdx) frame).dst,
        { s with ht := Function.update s.ht bdgIdx
                   (learn bucket api.nmBdgBroadcast (s.ht bdgIdx) frame).rt }) := by
  cases func with
  | bdgLearning | lsbLearning =>
      cases hbucket
      rfl
  | lookup2 | lookup3 => contradiction

theorem lookupBy_of_static {api : BdgApi} {s : Bridges} {bdgIdx : UInt32} {frame : BridgeFrame}
    {func : BdgLookupFn} (hstatic : bucketOf func = none) :
    (lookupBy s api bdgIdx frame func).2 = s := by
  cases func with
  | bdgLearning | lsbLearning => contradiction
  | lookup2 | lookup3 => rfl

theorem isSome_codeAfter {c : Registry UInt32 BdgModule BdgLookupFn} {e : BridgeEvent}
    {bdgIdx : UInt32} (hsome : ((codeAfter c e).slot bdgIdx).isSome) :
    (c.slot bdgIdx).isSome ∨ e = .create bdgIdx := by
  cases e with
  | create bdgIdx' =>
      rw [codeAfter, Registry.slot_insert] at hsome
      split at hsome
      · rename_i hk
        exact .inr (congrArg _ hk.symm)
      · exact .inl hsome
  | destroy bdgIdx' =>
      rw [codeAfter, Registry.slot_erase] at hsome
      split at hsome
      · contradiction
      · exact .inl hsome
  | loadLearn type =>
      rw [codeAfter, Registry.isSome_assign] at hsome
      exact .inl hsome
  | unload m => exact .inl ((Registry.isSome_assign ..).symm.trans hsome)
  | bdgctlMac io | bdgctlIp io =>
      rw [codeAfter] at hsome
      split at hsome
      · exact .inl ((Registry.isSome_assign ..).symm.trans hsome)
      · exact .inl hsome
  | loadMacStatic | loadIpStatic | frame bdgIdx' frame => exact .inl hsome

theorem ht_registered (s : Bridges) (m : BdgModule) (func : BdgLookupFn) (io : BdgIoctl) :
    (registered s m func io).1.ht = s.ht := by
  unfold registered
  split <;> rfl

theorem mac_registered (s : Bridges) (m : BdgModule) (func : BdgLookupFn) (io : BdgIoctl) :
    (registered s m func io).1.mac = s.mac := by
  unfold registered
  split <;> rfl

theorem ip_registered (s : Bridges) (m : BdgModule) (func : BdgLookupFn) (io : BdgIoctl) :
    (registered s m func io).1.ip = s.ip := by
  unfold registered
  split <;> rfl

theorem bdgctlMac_eq_some {s t : Bridges} {io : BdgIoctl} (hcall : bdgctlMac s io = some t) :
    bdgctlStep macStatic s.mac (registered s .macStatic .lookup2 io).2 = some t.mac ∧
      t.ht = s.ht ∧ t.ip = s.ip := by
  have hmap : bdgctlMac s io =
      (bdgctlStep macStatic (registered s .macStatic .lookup2 io).1.mac
        (registered s .macStatic .lookup2 io).2).map fun mac =>
          { (registered s .macStatic .lookup2 io).1 with mac := mac } := rfl
  rw [hmap, mac_registered] at hcall
  obtain ⟨mac, hmac, rfl⟩ := Option.map_eq_some_iff.mp hcall
  exact ⟨hmac, ht_registered .., ip_registered ..⟩

theorem bdgctlIp_eq_some {s t : Bridges} {api : BdgApi} {io : BdgIoctl}
    (hcall : bdgctlIp s api io = some t) :
    bdgctlStep (ipStatic api) s.ip (registered s .ipStatic .lookup3 io).2 = some t.ip ∧
      t.ht = s.ht ∧ t.mac = s.mac := by
  have hmap : bdgctlIp s api io =
      (bdgctlStep (ipStatic api) (registered s .ipStatic .lookup3 io).1.ip
        (registered s .ipStatic .lookup3 io).2).map fun ip =>
          { (registered s .ipStatic .lookup3 io).1 with ip := ip } := rfl
  rw [hmap, ip_registered] at hcall
  obtain ⟨ip, hip, rfl⟩ := Option.map_eq_some_iff.mp hcall
  exact ⟨hip, ht_registered .., mac_registered ..⟩

/-- The events that reach the learning tables. -/
def TouchesTables : BridgeEvent → Prop
  | .create _ | .frame _ _ => True
  | .destroy _ | .loadLearn _ | .loadMacStatic | .loadIpStatic | .unload _ | .bdgctlMac _
  | .bdgctlIp _ => False

/-- The events that reach the routes of a static module. -/
def TouchesRoutes : BdgModule → BridgeEvent → Prop
  | .macStatic, .loadMacStatic | .macStatic, .bdgctlMac _ => True
  | .ipStatic, .loadIpStatic | .ipStatic, .bdgctlIp _ => True
  | _, _ => False

/-- What the events leave alone. -/
structure Leaves (s t : Bridges) (e : BridgeEvent) : Prop where
  ht : ¬TouchesTables e → t.ht = s.ht
  mac : ¬TouchesRoutes .macStatic e → t.mac = s.mac
  ip : ¬TouchesRoutes .ipStatic e → t.ip = s.ip

theorem leaves_step {api : BdgApi} {s t : Bridges} {e : BridgeEvent}
    (hstep : step api s e = some t) : Leaves s t e := by
  cases e with
  | destroy bdgIdx =>
      cases hstep
      exact ⟨fun _ => rfl, fun _ => rfl, fun _ => rfl⟩
  | create bdgIdx =>
      obtain ⟨-, heq⟩ := Option.ite_none_right_eq_some.mp hstep
      cases heq
      exact ⟨fun hother => absurd trivial hother, fun _ => rfl, fun _ => rfl⟩
  | loadLearn type =>
      obtain ⟨-, heq⟩ := Option.ite_none_right_eq_some.mp hstep
      cases heq
      exact ⟨fun _ => rfl, fun _ => rfl, fun _ => rfl⟩
  | loadMacStatic =>
      obtain ⟨-, heq⟩ := Option.ite_none_right_eq_some.mp hstep
      cases heq
      exact ⟨fun _ => rfl, fun hother => absurd trivial hother, fun _ => rfl⟩
  | loadIpStatic =>
      obtain ⟨-, heq⟩ := Option.ite_none_right_eq_some.mp hstep
      cases heq
      exact ⟨fun _ => rfl, fun _ => rfl, fun hother => absurd trivial hother⟩
  | unload m =>
      obtain ⟨-, heq⟩ := Option.ite_none_right_eq_some.mp hstep
      cases heq
      cases m <;> exact ⟨fun _ => rfl, fun _ => rfl, fun _ => rfl⟩
  | bdgctlMac io =>
      obtain ⟨-, hht, hip⟩ := bdgctlMac_eq_some (Option.ite_none_right_eq_some.mp hstep).2
      exact ⟨fun _ => hht, fun hother => absurd trivial hother, fun _ => hip⟩
  | bdgctlIp io =>
      obtain ⟨-, hht, hmac⟩ := bdgctlIp_eq_some (Option.ite_none_right_eq_some.mp hstep).2
      exact ⟨fun _ => hht, fun _ => hmac, fun hother => absurd trivial hother⟩
  | frame bdgIdx frame =>
      simp only [step] at hstep
      split at hstep
      · rename_i func hslot
        obtain ⟨-, heq⟩ := Option.ite_none_right_eq_some.mp hstep
        cases heq
        refine ⟨fun hother => absurd trivial hother, fun _ => ?_, fun _ => ?_⟩ <;>
          cases func.target <;> rfl
      · contradiction

/-- The table of the bridge, if there is one, holds what was seen there. -/
def Known (bdgIdx : UInt32) (s : Bridges) (seen : List Sighting) : Prop :=
  (s.code.slot bdgIdx).isSome → Remembers (s.ht bdgIdx) seen

theorem known_frame {api : BdgApi} {s t : Bridges} {bdgIdx bdgIdx' : UInt32}
    {seen : List Sighting} {frame : BridgeFrame} (hknown : Known bdgIdx s seen)
    (hstep : step api s (.frame bdgIdx' frame) = some t) :
    Known bdgIdx t (noteSighting bdgIdx s (.frame bdgIdx' frame) seen) := by
  intro hsome
  rw [(step_code hstep).2] at hsome
  have hseen := hknown hsome
  simp only [step] at hstep
  split at hstep
  · rename_i func hslot
    obtain ⟨-, heq⟩ := Option.ite_none_right_eq_some.mp hstep
    cases heq
    simp only [noteSighting]
    cases hbucket : bucketOf func.target with
    | none =>
        rw [lookupBy_of_static hbucket]
        split
        · rename_i hk
          rw [← hk, hslot]
          simp only [sighting, hbucket, List.append_nil]
          exact hk ▸ hseen
        · exact hseen
    | some bucket =>
        rw [lookupBy_of_learns hbucket]
        split
        · rename_i hk
          subst hk
          dsimp only
          rw [hslot, Function.update_self]
          exact hseen.learn hbucket api.nmBdgBroadcast frame
        · rename_i hk
          dsimp only
          rw [Function.update_of_ne fun h => hk h.symm]
          exact hseen
  · contradiction

theorem known_step {api : BdgApi} {bdgIdx : UInt32} {s : Bridges} {seen : List Sighting}
    {e : BridgeEvent} {t : Bridges} (hknown : Known bdgIdx s seen)
    (hstep : step api s e = some t) : Known bdgIdx t (noteSighting bdgIdx s e seen) := by
  cases e with
  | frame bdgIdx' frame => exact known_frame hknown hstep
  | create bdgIdx' =>
      intro hsome
      obtain ⟨-, heq⟩ := Option.ite_none_right_eq_some.mp hstep
      rw [(step_code hstep).2] at hsome
      cases heq
      simp only [noteSighting]
      split
      · rename_i hk
        rw [hk, Function.update_self]
        exact remembers_zeroTable
      · rename_i hk
        rw [Function.update_of_ne fun h => hk h.symm]
        refine hknown ((isSome_codeAfter hsome).resolve_right fun h => hk ?_)
        exact BridgeEvent.create.inj h
  | destroy bdgIdx' | loadLearn type | loadMacStatic | loadIpStatic | unload m | bdgctlMac io
  | bdgctlIp io =>
      intro hsome
      rw [(step_code hstep).2] at hsome
      rw [(leaves_step hstep).ht id]
      exact hknown ((isSome_codeAfter hsome).resolve_right BridgeEvent.noConfusion)

theorem known_run {api : BdgApi} {bdgIdx : UInt32} {es : List BridgeEvent} {s : Bridges}
    (hrun : run (step api) noBridges es = some s) : Known bdgIdx s (sightings api bdgIdx es) :=
  record_run (fun _ _ _ _ => known_step) (fun hsome => absurd hsome Bool.false_ne_true) hrun

theorem lookupBy_dst {api : BdgApi} {s : Bridges} {bdgIdx : UInt32} {sights : List Sighting}
    (hknown : Remembers (s.ht bdgIdx) sights) {func : BdgLookupFn}
    {bucket : (Nat → UInt8) → Fin nmBdgHash} (hbucket : bucketOf func = some bucket)
    (frame : BridgeFrame) :
    (lookupBy s api bdgIdx frame func).1 =
      seenPort api.nmBdgBroadcast bucket (sights ++ sighting func frame) frame.buf := by
  rw [lookupBy_of_learns hbucket]
  exact learn_dst (hknown.learn hbucket api.nmBdgBroadcast frame)

/-- A function that learns sends a frame to the port of its destination exactly when the
destination was the last station that was seen in the bucket, since the bridge was made and under
whichever functions. -/
theorem learning_dst {api : BdgApi} {es : List BridgeEvent} {s : Bridges}
    (hrun : run (step api) noBridges es = some s) {bdgIdx : UInt32}
    (hbridge : (s.code.slot bdgIdx).isSome) {func : BdgLookupFn}
    {bucket : (Nat → UInt8) → Fin nmBdgHash} (hbucket : bucketOf func = some bucket)
    (frame : BridgeFrame) :
    (lookupBy s api bdgIdx frame func).1 =
      seenPort api.nmBdgBroadcast bucket (sightings api bdgIdx es ++ sighting func frame)
        frame.buf :=
  lookupBy_dst (known_run hrun hbridge) hbucket frame

/-- A station is seen on port `3`, and then `lsb_learning` comes. -/
def switchRun : List BridgeEvent :=
  [.create 0, .frame 0 (stationFrame #v[2, 0, 0, 0, 0, 7] #v[2, 0, 0, 0, 0, 6] 3), .loadLearn 1]

/-- A frame for that station. -/
def answer : BridgeFrame :=
  stationFrame #v[2, 0, 0, 0, 0, 6] #v[2, 0, 0, 0, 0, 7] 1

theorem learning_dst_switch :
    ∃ s, run (step netmapBdg) noBridges switchRun = some s ∧
      (lookupBy s netmapBdg 0 answer .lsbLearning).1 =
        seenPort netmapBdg.nmBdgBroadcast (fun addr => lsbIndex (addr 5))
          (sightings netmapBdg 0 switchRun ++ sighting .lsbLearning answer) answer.buf := by
  obtain ⟨s, hs, hbridge⟩ : ∃ s, run (step netmapBdg) noBridges switchRun = some s ∧
    (s.code.slot 0).isSome := ⟨_, rfl, rfl⟩
  exact ⟨s, hs, learning_dst hs hbridge rfl answer⟩

/-- The station was put in another bucket. -/
example : seenPort netmapBdg.nmBdgBroadcast (fun addr => lsbIndex (addr 5))
    (sightings netmapBdg 0 switchRun ++ sighting .lsbLearning answer) answer.buf = 254 := by
  decide

/-- The requests to `mac-static.c` since it was loaded, with the answers of netmap. -/
def noteMac (s : Bridges) (e : BridgeEvent) (ios : List BdgIoctl) : List BdgIoctl :=
  match e with
  | .loadMacStatic => []
  | .bdgctlMac io => ios ++ [(registered s .macStatic .lookup2 io).2]
  | .create _ | .destroy _ | .loadLearn _ | .loadIpStatic | .unload _ | .bdgctlIp _
  | .frame _ _ => ios

/-- The requests to `ip-static.c` since it was loaded, with the answers of netmap. -/
def noteIp (s : Bridges) (e : BridgeEvent) (ios : List BdgIoctl) : List BdgIoctl :=
  match e with
  | .loadIpStatic => []
  | .bdgctlIp io => ios ++ [(registered s .ipStatic .lookup3 io).2]
  | .create _ | .destroy _ | .loadLearn _ | .loadMacStatic | .unload _ | .bdgctlMac _
  | .frame _ _ => ios

def macRequests (api : BdgApi) (es : List BridgeEvent) : List BdgIoctl :=
  record (step api) noteMac noBridges [] es

def ipRequests (api : BdgApi) (es : List BridgeEvent) : List BdgIoctl :=
  record (step api) noteIp noBridges [] es

def Loads (m : BdgModule) : BridgeEvent → Prop
  | .loadLearn _ => m = .learn
  | .loadMacStatic => m = .macStatic
  | .loadIpStatic => m = .ipStatic
  | .create _ | .destroy _ | .unload _ | .bdgctlMac _ | .bdgctlIp _ | .frame _ _ => False

theorem present_of_enroll {c : Registry UInt32 BdgModule BdgLookupFn} {m m' : BdgModule}
    (hpresent : (c.enroll m').present m = true) : c.present m = true ∨ m = m' := by
  rw [Registry.present_enroll] at hpresent
  split at hpresent
  · rename_i hm
    exact .inr hm
  · exact .inl hpresent

theorem present_codeAfter {c : Registry UInt32 BdgModule BdgLookupFn} {e : BridgeEvent}
    {m : BdgModule} (hpresent : (codeAfter c e).present m = true) :
    c.present m = true ∨ Loads m e := by
  cases e with
  | loadLearn type => exact present_of_enroll hpresent
  | loadMacStatic => exact present_of_enroll hpresent
  | loadIpStatic => exact present_of_enroll hpresent
  | unload m' =>
      rw [codeAfter, Registry.present_retire] at hpresent
      split at hpresent
      · contradiction
      · exact .inl hpresent
  | bdgctlMac io | bdgctlIp io =>
      rw [codeAfter] at hpresent
      split at hpresent <;> exact .inl hpresent
  | create bdgIdx | destroy bdgIdx | frame bdgIdx frame => exact .inl hpresent

/-- The routes of a loaded `mac-static.c` are those of the requests. -/
def MacRouted (api : BdgApi) (s : Bridges) (ios : List BdgIoctl) : Prop :=
  s.code.present .macStatic = true → run macStep (macStaticInit api) ios = some s.mac

/-- The routes of a loaded `ip-static.c` are those of the requests. -/
def IpRouted (api : BdgApi) (s : Bridges) (ios : List BdgIoctl) : Prop :=
  s.code.present .ipStatic = true → run (ipStep api) ipStaticInit ios = some s.ip

theorem macRouted_step {api : BdgApi} {s : Bridges} {ios : List BdgIoctl} {e : BridgeEvent}
    {t : Bridges} (hrouted : MacRouted api s ios) (hstep : step api s e = some t) :
    MacRouted api t (noteMac s e ios) := by
  intro hpresent
  rw [(step_code hstep).2] at hpresent
  have hbefore := present_codeAfter hpresent
  have hleaves := (leaves_step hstep).mac
  cases e with
  | loadMacStatic =>
      obtain ⟨-, heq⟩ := Option.ite_none_right_eq_some.mp hstep
      cases heq
      rfl
  | bdgctlMac io =>
      obtain ⟨hloaded, hcall⟩ := Option.ite_none_right_eq_some.mp hstep
      exact run_concat (hrouted hloaded) (bdgctlMac_eq_some hcall).1
  | create bdgIdx | destroy bdgIdx | loadLearn type | loadIpStatic | unload m | bdgctlIp io
  | frame bdgIdx frame =>
      rw [hleaves id]
      exact hrouted (hbefore.resolve_right nofun)

theorem ipRouted_step {api : BdgApi} {s : Bridges} {ios : List BdgIoctl} {e : BridgeEvent}
    {t : Bridges} (hrouted : IpRouted api s ios) (hstep : step api s e = some t) :
    IpRouted api t (noteIp s e ios) := by
  intro hpresent
  rw [(step_code hstep).2] at hpresent
  have hbefore := present_codeAfter hpresent
  have hleaves := (leaves_step hstep).ip
  cases e with
  | loadIpStatic =>
      obtain ⟨-, heq⟩ := Option.ite_none_right_eq_some.mp hstep
      cases heq
      rfl
  | bdgctlIp io =>
      obtain ⟨hloaded, hcall⟩ := Option.ite_none_right_eq_some.mp hstep
      exact run_concat (hrouted hloaded) (bdgctlIp_eq_some hcall).1
  | create bdgIdx | destroy bdgIdx | loadLearn type | loadMacStatic | unload m | bdgctlMac io
  | frame bdgIdx frame =>
      rw [hleaves id]
      exact hrouted (hbefore.resolve_right nofun)

theorem macRouted_run {api : BdgApi} {es : List BridgeEvent} {s : Bridges}
    (hrun : run (step api) noBridges es = some s) : MacRouted api s (macRequests api es) :=
  record_run (fun _ _ _ _ => macRouted_step) (fun h => absurd h Bool.false_ne_true) hrun

theorem ipRouted_run {api : BdgApi} {es : List BridgeEvent} {s : Bridges}
    (hrun : run (step api) noBridges es = some s) : IpRouted api s (ipRequests api es) :=
  record_run (fun _ _ _ _ => ipRouted_step) (fun h => absurd h Bool.false_ne_true) hrun

/-- `lookup2` and `lookup3` are each in one module. -/
def OwnFunction (r : Reference BdgModule BdgLookupFn) : Prop :=
  match r.target with
  | .lookup2 => ∃ g, r.owner = some (.macStatic, g)
  | .lookup3 => ∃ g, r.owner = some (.ipStatic, g)
  | .bdgLearning | .lsbLearning => True

/-- The bridges get the static functions from the modules that have them, and `ip-static.c` is
never without `mac-static.c`. -/
structure Coupled (c : Registry UInt32 BdgModule BdgLookupFn) : Prop where
  own : c.AllSlots OwnFunction
  depends : c.present .ipStatic = true → c.present .macStatic = true

theorem coupled_step {api : BdgApi} {s t : Bridges} {e : BridgeEvent}
    (hcoupled : Coupled s.code) (hstep : step api s e = some t) : Coupled t.code := by
  obtain ⟨hpossible, hcode⟩ := step_code hstep
  obtain ⟨hown, hdepends⟩ := hcoupled
  rw [hcode]
  cases e with
  | create bdgIdx => exact ⟨hown.insert bdgIdx trivial, hdepends⟩
  | destroy bdgIdx => exact ⟨hown.erase bdgIdx, hdepends⟩
  | loadLearn type =>
      refine ⟨Registry.AllSlots.assign (t := s.code.enroll .learn) hown 0 ?_, hdepends⟩
      split <;> trivial
  | loadMacStatic =>
      refine ⟨hown, fun _ => ?_⟩
      rw [codeAfter, Registry.present_enroll, if_pos rfl]
  | loadIpStatic =>
      refine ⟨hown, fun _ => ?_⟩
      rw [codeAfter, Registry.present_enroll, if_neg (by decide)]
      exact hpossible.2
  | unload m =>
      refine ⟨hown.assign 0 trivial, fun hip => ?_⟩
      rw [codeAfter, Registry.present_retire] at hip ⊢
      cases m with
      | learn => exact hdepends hip
      | macStatic => exact absurd (hip.symm.trans (hpossible.2 rfl)) (by decide)
      | ipStatic =>
          rw [if_pos rfl] at hip
          contradiction
  | bdgctlMac io | bdgctlIp io =>
      rw [codeAfter]
      split
      · exact ⟨hown.assign io.breq.bdgIdx ⟨_, rfl⟩, hdepends⟩
      · exact ⟨hown, hdepends⟩
  | frame bdgIdx frame => exact ⟨hown, hdepends⟩

theorem coupled_run {api : BdgApi} {es : List BridgeEvent} {s : Bridges}
    (hrun : run (step api) noBridges es = some s) : Coupled s.code :=
  invariant_of_run (fun _ _ _ => coupled_step)
    ⟨Registry.allSlots_empty, fun h => absurd h Bool.false_ne_true⟩ hrun

/-- The request is for port `dst` on bridge `0`, whatever the registration of the function came to. -/
def Asks (dst : UInt32) (io : BdgIoctl) : Prop :=
  io.breq.bdgIdx = 0 ∧
    (io.cmd = .reg ∧ io.breq.bdgPort = dst ∨ io.cmd = .addif ∧ io.breq.nrDst = dst)

theorem mem_bridgeRequests_zero {ios : List BdgIoctl} {io : BdgIoctl} :
    io ∈ bridgeRequests 0 ios ↔ io ∈ ios ∧ io.breq.bdgIdx = 0 := by
  rw [bridgeRequests, List.mem_filter, onBridge, beq_iff_eq, ← UInt32.toNat_inj]
  rfl

theorem macRoute_asked (api : BdgApi) (ios : List BdgIoctl) (buf : Nat → UInt8) :
    macRoute api (bridgeRequests 0 ios) buf = api.nmBdgNoport ∨
      ∃ io ∈ ios, Asks (macRoute api (bridgeRequests 0 ios) buf) io := by
  refine (macRoute_iff api (P := fun dst => dst = api.nmBdgNoport ∨ ∃ io ∈ ios, Asks dst io)
    (.inl rfl) buf _).mpr ⟨?_, ?_⟩
  · rintro - breq hlast
    obtain ⟨io, hmem, hwrite⟩ := exists_of_lastWrite hlast
    obtain ⟨hio, hbridge⟩ := mem_bridgeRequests_zero.mp hmem
    obtain ⟨⟨hcmd, -⟩, hbreq⟩ := Option.ite_none_right_eq_some.mp hwrite
    cases hbreq
    exact .inr ⟨io, hio, hbridge, .inr ⟨hcmd, rfl⟩⟩
  · rintro - breq hlast
    obtain ⟨io, hmem, hwrite⟩ := exists_of_lastWrite hlast
    obtain ⟨hio, hbridge⟩ := mem_bridgeRequests_zero.mp hmem
    obtain ⟨hcmd, hbreq⟩ := Option.ite_none_right_eq_some.mp hwrite
    cases hbreq
    exact .inr ⟨io, hio, hbridge, .inl ⟨hcmd, rfl⟩⟩

/-- No bridge registration has filled the routes of bridge `0`. -/
def Unfilled (ios : List BdgIoctl) : Prop :=
  ∀ io ∈ ios, io.breq.bdgIdx = 0 → io.cmd ≠ .reg

theorem entryPort_asked (ios : List BdgIoctl) (addr : Nat → UInt8) :
    (∃ io ∈ ios, Asks (entryPort addr (bridgeRequests 0 ios)) io) ∨
      entryPort addr (bridgeRequests 0 ios) = 0 ∧ Unfilled ios := by
  unfold entryPort
  cases hlast : lastWrite (portsWrite (iphashIndex addr)) (bridgeRequests 0 ios) with
  | none =>
      refine .inr ⟨rfl, fun io hio hbridge hreg => ?_⟩
      have hmem := mem_bridgeRequests_zero.mpr ⟨hio, hbridge⟩
      have hnone := lastWrite_eq_none_iff.mp hlast io hmem
      rw [portsWrite, hreg] at hnone
      contradiction
  | some port =>
      obtain ⟨io, hmem, hwrite⟩ := exists_of_lastWrite hlast
      obtain ⟨hio, hbridge⟩ := mem_bridgeRequests_zero.mp hmem
      refine .inl ⟨io, hio, hbridge, ?_⟩
      unfold portsWrite at hwrite
      split at hwrite
      · rename_i hcmd
        exact .inl ⟨hcmd, Option.some.inj hwrite⟩
      · rename_i hcmd
        exact .inr ⟨hcmd, Option.some.inj (Option.ite_none_right_eq_some.mp hwrite).2⟩
      · contradiction
      · contradiction

/-- Where the answer of `ip-static.c` alone can come from. -/
def IpExplained (api : BdgApi) (ios : List BdgIoctl) (dst : UInt32) : Prop :=
  dst = api.nmBdgNoport ∨ (∃ io ∈ ios, Asks dst io) ∨ dst = 0 ∧ Unfilled ios

theorem ipRoute_asked (api : BdgApi) (ios : List BdgIoctl) (buf : Nat → UInt8) :
    IpExplained api ios (ipRoute api api.nmBdgNoport (bridgeRequests 0 ios) buf) := by
  refine (ipRoute_iff api (P := IpExplained api ios) (.inl rfl) buf _).mpr ?_
  intro saddr daddr _
  exact ⟨fun _ => .inr (entryPort_asked ios daddr), fun _ => .inr (entryPort_asked ios saddr)⟩

/-- A sighting of the station that the frame is for. -/
def Sights (buf : Nat → UInt8) (dst : UInt32) (sight : Sighting) : Prop :=
  bytes sight.frame.buf 6 6 = bytes buf 0 6 ∧ sight.frame.bdgPort = dst

/-- Where a destination can come from, by the function that gave it. -/
def Explained (api : BdgApi) (es : List BridgeEvent) (bdgIdx : UInt32) (frame : BridgeFrame)
    (dst : UInt32) (func : BdgLookupFn) : Prop :=
  match func with
  | .bdgLearning | .lsbLearning =>
      dst = api.nmBdgBroadcast ∨
        (∃ sight ∈ sightings api bdgIdx es ++ sighting func frame,
          Sights frame.buf dst sight) ∨
        dst = 0 ∧ bytes frame.buf 0 6 = List.replicate 6 0
  | .lookup2 => dst = api.nmBdgNoport ∨ ∃ io ∈ macRequests api es, Asks dst io
  | .lookup3 =>
      (∃ io ∈ macRequests api es, Asks dst io) ∨ IpExplained api (ipRequests api es) dst

theorem seenPort_sighted (nodst : UInt32) (bucket : (Nat → UInt8) → Fin nmBdgHash)
    (seen : List Sighting) (buf : Nat → UInt8) :
    seenPort nodst bucket seen buf = nodst ∨
      (∃ sight ∈ seen, Sights buf (seenPort nodst bucket seen buf) sight) ∨
      seenPort nodst bucket seen buf = 0 ∧ bytes buf 0 6 = List.replicate 6 0 := by
  unfold seenPort
  split
  · cases hlast : lastSeen (bucket buf) seen with
    | some source =>
        dsimp only
        split
        · rename_i hsame
          obtain ⟨sight, hsight, hwrite⟩ := exists_of_lastWrite hlast
          obtain ⟨-, hframe⟩ := Option.ite_none_right_eq_some.mp hwrite
          cases hframe
          exact .inr (.inl ⟨sight, hsight, hsame, rfl⟩)
        · exact .inl rfl
    | none =>
        dsimp only
        split
        · rename_i hzero
          exact .inr (.inr ⟨rfl, hzero⟩)
        · exact .inl rfl
  · exact .inl rfl

/-- However modules and bridges come and go, a frame goes to a port where its station was seen or
that a request named, if it does not go to all ports or to none; the exceptions are an address and
a table that are zero. -/
theorem destinations_explained {api : BdgApi} {es : List BridgeEvent} {s : Bridges}
    (hrun : run (step api) noBridges es = some s) {bdgIdx : UInt32}
    {func : Reference BdgModule BdgLookupFn} (hfunc : s.code.slot bdgIdx = some func)
    (hlive : s.code.Live func) (frame : BridgeFrame) :
    Explained api es bdgIdx frame (lookupBy s api bdgIdx frame func.target).1 func.target := by
  have hbridge : (s.code.slot bdgIdx).isSome := Option.isSome_iff_exists.mpr ⟨func, hfunc⟩
  have hown := (coupled_run hrun).own bdgIdx func hfunc
  obtain ⟨target, owner⟩ := func
  cases target with
  | bdgLearning =>
      have hbucket : bucketOf .bdgLearning = some rthashIndex := rfl
      rw [lookupBy_dst (known_run hrun hbridge) hbucket]
      exact seenPort_sighted ..
  | lsbLearning =>
      have hbucket : bucketOf .lsbLearning = some fun addr => lsbIndex (addr 5) := rfl
      rw [lookupBy_dst (known_run hrun hbridge) hbucket]
      exact seenPort_sighted ..
  | lookup2 =>
      obtain ⟨g, howner⟩ := hown
      have hmac := macRouted_run hrun ((Registry.live_iff howner).mp hlive).1
      simp only [Explained, lookupBy, lookup2_dst api hmac]
      exact macRoute_asked ..
  | lookup3 =>
      obtain ⟨g, howner⟩ := hown
      have hloaded := ((Registry.live_iff howner).mp hlive).1
      have hip := ipRouted_run hrun hloaded
      have hmac := macRouted_run hrun ((coupled_run hrun).depends hloaded)
      simp only [Explained, lookupBy, lookup3_dst api _ hip, lookup2_dst api hmac]
      rcases eq_or_ne (macRoute api (bridgeRequests 0 (macRequests api es)) frame.buf)
        api.nmBdgNoport with hfirst | hfirst
      · rw [hfirst]
        exact .inr (ipRoute_asked ..)
      · rw [ipRoute, if_pos hfirst]
        exact .inl ((macRoute_asked ..).resolve_left hfirst)

theorem destinations_explained_switch :
    ∃ s func, run (step netmapBdg) noBridges switchRun = some s ∧
      s.code.slot 0 = some func ∧
      Explained netmapBdg switchRun 0 answer (lookupBy s netmapBdg 0 answer func.target).1
        func.target := by
  obtain ⟨s, func, hs, hfunc, hlive⟩ : ∃ s func,
    run (step netmapBdg) noBridges switchRun = some s ∧ s.code.slot 0 = some func ∧
      s.code.Live func := ⟨_, _, rfl, rfl, rfl, rfl⟩
  exact ⟨s, func, hs, hfunc, destinations_explained hs hfunc hlive answer⟩

end XenNet.BridgeTraffic
