import XenNet.LsbLearning

namespace XenNet.LearningBridges

open XenNet.ByteMemory
open XenNet.BridgeKernel
open XenNet.LsbLearning

def bdgLearning (api : BdgApi) (ht : HashTable) (frame : BridgeFrame) : LookupCall HashTable :=
  let buf := frame.buf
  let mysrc := frame.bdgPort
  let dmac := le64 buf &&& 0xffffffffffff
  let smac := le64 (pointer buf 4) >>> 16
  let ht :=
    if buf 6 &&& 1 = 0 then
      let sh := rthashIndex (pointer buf 6)
      Function.update ht sh { mac := smac, ports := mysrc.toUInt64 }
    else ht
  let dst :=
    if buf 0 &&& 1 = 0 then
      let dh := rthashIndex buf
      if (ht dh).mac = dmac then (ht dh).ports.toUInt32 else api.nmBdgBroadcast
    else api.nmBdgBroadcast
  { dst := dst, dstRing := 0, rt := ht }

/-- The destinations that a lookup function returns for the frames, one after the other. -/
def forward {τ : Type} (lookup : τ → BridgeFrame → LookupCall τ) :
    τ → List BridgeFrame → List UInt32
  | _, [] => []
  | rt, frame :: frames =>
      (lookup rt frame).dst :: forward lookup (lookup rt frame).rt frames

theorem forward_eq_of_simulation {τ τ' : Type} (lookup : τ → BridgeFrame → LookupCall τ)
    (lookup' : τ' → BridgeFrame → LookupCall τ') (R : τ → τ' → Prop)
    (frames : List BridgeFrame)
    (hstep : ∀ frame ∈ frames, ∀ rt rt', R rt rt' →
      (lookup rt frame).dst = (lookup' rt' frame).dst ∧
        R (lookup rt frame).rt (lookup' rt' frame).rt)
    {rt : τ} {rt' : τ'} (hR : R rt rt') :
    forward lookup rt frames = forward lookup' rt' frames := by
  induction frames generalizing rt rt' with
  | nil => rfl
  | cons frame frames ih =>
      obtain ⟨hdst, hnext⟩ := hstep frame List.mem_cons_self rt rt' hR
      rw [forward, forward, hdst,
        ih (fun later hlater => hstep later (List.mem_cons_of_mem _ hlater)) hnext]

section Bucket

variable {ι : Type} [DecidableEq ι] (bucket : (Nat → UInt8) → ι)

/-- A learning bridge over the buckets `ι`. -/
def learn (nodst : UInt32) (ht : ι → NmHashEnt) (frame : BridgeFrame) :
    LookupCall (ι → NmHashEnt) :=
  let ht :=
    if frame.buf 6 &&& 1 = 0 then
      Function.update ht (bucket (pointer frame.buf 6)) frame.learned
    else ht
  let dst :=
    if frame.buf 0 &&& 1 = 0 then
      if (ht (bucket frame.buf)).mac = le64 frame.buf &&& 0xffffffffffff then
        (ht (bucket frame.buf)).ports.toUInt32
      else nodst
    else nodst
  { dst := dst, dstRing := 0, rt := ht }

theorem lsbLearning_eq_learn (nodst : UInt32) :
    lsbLearning nodst = learn (fun addr => lsbIndex (addr 5)) nodst :=
  rfl

theorem bdgLearning_eq_learn (api : BdgApi) :
    bdgLearning api = learn rthashIndex api.nmBdgBroadcast :=
  rfl

/-- The addresses of the frame that are not multicast. -/
def stations (frame : BridgeFrame) : List (Nat → UInt8) :=
  (if frame.buf 6 &&& 1 = 0 then [pointer frame.buf 6] else []) ++
    (if frame.buf 0 &&& 1 = 0 then [frame.buf] else [])

theorem source_mem_stations {frame : BridgeFrame} (hsource : frame.buf 6 &&& 1 = 0) :
    pointer frame.buf 6 ∈ stations frame := by
  rw [stations, if_pos hsource]
  exact List.mem_append_left _ (List.mem_singleton.mpr rfl)

theorem dest_mem_stations {frame : BridgeFrame} (hdest : frame.buf 0 &&& 1 = 0) :
    frame.buf ∈ stations frame := by
  rw [stations, if_pos hdest]
  exact List.mem_append_right _ (List.mem_singleton.mpr rfl)

/-- The bucket tells the addresses of the list apart, and nothing else. -/
def Separates (addrs : List (Nat → UInt8)) : Prop :=
  ∀ addr ∈ addrs, ∀ addr' ∈ addrs,
    bucket addr = bucket addr' ↔ bytes addr 0 6 = bytes addr' 0 6

/-- Every address of the list has the same entry in both tables. -/
def SameEntries {κ : Type} (bucket' : (Nat → UInt8) → κ) (addrs : List (Nat → UInt8))
    (ht : ι → NmHashEnt) (ht' : κ → NmHashEnt) : Prop :=
  ∀ addr ∈ addrs, ht (bucket addr) = ht' (bucket' addr)

variable {bucket}
variable {κ : Type} [DecidableEq κ] {bucket' : (Nat → UInt8) → κ}
variable {addrs : List (Nat → UInt8)}

theorem sameEntries_update (hbucket : Separates bucket addrs) (hbucket' : Separates bucket' addrs)
    {ht : ι → NmHashEnt} {ht' : κ → NmHashEnt} (hsame : SameEntries bucket bucket' addrs ht ht')
    {source : Nat → UInt8} (hsource : source ∈ addrs) (ent : NmHashEnt) :
    SameEntries bucket bucket' addrs (Function.update ht (bucket source) ent)
      (Function.update ht' (bucket' source) ent) := by
  intro addr haddr
  by_cases hstation : bytes addr 0 6 = bytes source 0 6
  · rw [(hbucket addr haddr source hsource).mpr hstation,
      (hbucket' addr haddr source hsource).mpr hstation, Function.update_self,
      Function.update_self]
  · have hne : bucket addr ≠ bucket source :=
      fun h => hstation ((hbucket addr haddr source hsource).mp h)
    have hne' : bucket' addr ≠ bucket' source :=
      fun h => hstation ((hbucket' addr haddr source hsource).mp h)
    rw [Function.update_of_ne hne, Function.update_of_ne hne']
    exact hsame addr haddr

/-- Two bridges that agree on every station forward the next frame to the same port, and
agree afterwards. -/
theorem learn_step (hbucket : Separates bucket addrs) (hbucket' : Separates bucket' addrs)
    (nodst : UInt32) {frame : BridgeFrame} (haddrs : ∀ addr ∈ stations frame, addr ∈ addrs)
    {ht : ι → NmHashEnt} {ht' : κ → NmHashEnt}
    (hsame : SameEntries bucket bucket' addrs ht ht') :
    (learn bucket nodst ht frame).dst = (learn bucket' nodst ht' frame).dst ∧
      SameEntries bucket bucket' addrs (learn bucket nodst ht frame).rt
        (learn bucket' nodst ht' frame).rt := by
  have hnext : SameEntries bucket bucket' addrs (learn bucket nodst ht frame).rt
      (learn bucket' nodst ht' frame).rt := by
    simp only [learn]
    by_cases hsource : frame.buf 6 &&& 1 = 0
    · rw [if_pos hsource, if_pos hsource]
      exact sameEntries_update hbucket hbucket' hsame
        (haddrs _ (source_mem_stations hsource)) frame.learned
    · rw [if_neg hsource, if_neg hsource]
      exact hsame
  refine ⟨?_, hnext⟩
  by_cases hdest : frame.buf 0 &&& 1 = 0
  · have hentry := hnext frame.buf (haddrs _ (dest_mem_stations hdest))
    simp only [learn] at hentry ⊢
    rw [if_pos hdest, if_pos hdest, hentry]
  · simp only [learn]
    rw [if_neg hdest, if_neg hdest]

theorem forward_learn (nodst : UInt32) (frames : List BridgeFrame)
    (hbucket : Separates bucket (frames.flatMap stations))
    (hbucket' : Separates bucket' (frames.flatMap stations))
    {ht : ι → NmHashEnt} {ht' : κ → NmHashEnt}
    (hsame : SameEntries bucket bucket' (frames.flatMap stations) ht ht') :
    forward (learn bucket nodst) ht frames = forward (learn bucket' nodst) ht' frames := by
  refine forward_eq_of_simulation _ _
    (SameEntries bucket bucket' (frames.flatMap stations)) frames ?_ hsame
  intro frame hframe ht ht' hsame
  exact learn_step hbucket hbucket' nodst
    (fun addr haddr => List.mem_flatMap.mpr ⟨frame, hframe, haddr⟩) hsame

end Bucket

/-- No two stations of the frames share their last byte or their hash. -/
def NoCollisions (frames : List BridgeFrame) : Prop :=
  ∀ addr ∈ frames.flatMap stations, ∀ addr' ∈ frames.flatMap stations,
    bytes addr 0 6 ≠ bytes addr' 0 6 →
      addr 5 ≠ addr' 5 ∧ nmBridgeRthash addr ≠ nmBridgeRthash addr'

theorem NoCollisions.separates_lsb {frames : List BridgeFrame} (hframes : NoCollisions frames) :
    Separates (fun addr => lsbIndex (addr 5)) (frames.flatMap stations) := by
  intro addr haddr addr' haddr'
  rw [lsbIndex_inj]
  constructor
  · intro hlsb
    by_contra hbytes
    exact (hframes addr haddr addr' haddr' hbytes).1 hlsb
  · intro hbytes
    simpa using bytes_eq_iff.mp hbytes 5 (by omega)

theorem NoCollisions.separates_rthash {frames : List BridgeFrame}
    (hframes : NoCollisions frames) :
    Separates rthashIndex (frames.flatMap stations) := by
  intro addr haddr addr' haddr'
  refine ⟨fun hindex => ?_, rthashIndex_congr⟩
  by_contra hbytes
  exact (hframes addr haddr addr' haddr' hbytes).2 (rthashIndex_eq_iff.mp hindex)

/-- Where no addresses collide, the two learning bridges send every frame to the same port. -/
theorem forward_lsbLearning (api : BdgApi) (frames : List BridgeFrame)
    (hframes : NoCollisions frames) :
    forward (lsbLearning api.nmBdgBroadcast) zeroTable frames =
      forward (bdgLearning api) zeroTable frames := by
  rw [lsbLearning_eq_learn, bdgLearning_eq_learn]
  exact forward_learn api.nmBdgBroadcast frames hframes.separates_lsb hframes.separates_rthash
    fun _ _ => rfl

/-- Two stations that find each other, one that moves, and a frame to a group. -/
def talk : List BridgeFrame :=
  [stationFrame #v[2, 0, 0, 0, 0, 2] #v[2, 0, 0, 0, 0, 1] 0,
    stationFrame #v[2, 0, 0, 0, 0, 1] #v[2, 0, 0, 0, 0, 2] 1,
    stationFrame #v[1, 0, 94, 0, 0, 1] #v[2, 0, 0, 0, 0, 1] 3,
    stationFrame #v[2, 0, 0, 0, 0, 1] #v[2, 0, 0, 0, 0, 2] 1]

theorem forward_lsbLearning_talk :
    forward (lsbLearning netmapBdg.nmBdgBroadcast) zeroTable talk =
        forward (bdgLearning netmapBdg) zeroTable talk ∧
      forward (bdgLearning netmapBdg) zeroTable talk = [254, 0, 254, 3] :=
  ⟨forward_lsbLearning netmapBdg talk (by unfold NoCollisions; decide), by decide⟩

end XenNet.LearningBridges
