import Mathlib.Data.List.Basic
import Mathlib.Logic.Function.Basic
import MonsterMesh.Mesh.Packet

/-! The route that a traceroute collects on its way, and what a node learns from it. -/
namespace MonsterMesh

/-- `ROUTE_SIZE` -/
def routeSize : ℕ := 8

/-- `INT8_MIN` -/
def unknownSnr : Int8 := -128

/-- The nodes of one direction, and the signal-to-noise ratios of its links in quarters of a decibel. -/
structure RouteLists where
  route : List UInt32
  snr : List Int8
deriving DecidableEq

structure RouteDiscovery where
  (towards back : RouteLists)
deriving DecidableEq

/-- A node with the `next_hop` of each node in its database. -/
structure TraceNode where
  nodeNum : UInt32
  nextHop : UInt32 → Option UInt8

namespace RouteDiscovery

variable (r : RouteDiscovery)

def lists (isTowardsDestination : Bool) : RouteLists := if isTowardsDestination then r.towards else r.back

def setLists (isTowardsDestination : Bool) (l : RouteLists) : RouteDiscovery :=
  if isTowardsDestination then { r with towards := l } else { r with back := l }

end RouteDiscovery

namespace TraceRoute

variable {α : Type}

/-- An element is added to an array, unless that is full. -/
def put (l : List α) (a : α) : List α := if l.length < routeSize then l ++ [a] else l

def pad (a : α) : ℕ → List α → List α
  | 0, l => l
  | n + 1, l => pad a n (put l a)

/-- How often a loop runs up to `int8_t diff = a - b`. -/
def rounds (a b : ℕ) : ℕ := (Int8.ofInt (a - b)).toInt.toNat

def insertUnknownHops (p : MeshPacket) (l : RouteLists) : RouteLists :=
  if p.hopStart ≠ 0 ∧ p.hopLimit ≤ p.hopStart then
    let route := pad nodenumBroadcast (rounds (p.hopStart - p.hopLimit).toNat l.route.length) l.route
    { route := route, snr := pad unknownSnr (rounds route.length l.snr.length) l.snr }
  else l

def appendMyIDandSNR (nodeNum : UInt32) (snr : Int8) (snrOnly : Bool) (l : RouteLists) : RouteLists :=
  { route := if snrOnly then l.route else put l.route nodeNum, snr := put l.snr snr }

def maybeSetNextHop (nextHopByte : UInt8) (n : TraceNode) (target : UInt32) : TraceNode :=
  if target = nodenumBroadcast then n
  else { n with nextHop := Function.update n.nextHop target ((n.nextHop target).map fun _ => nextHopByte) }

/-- Where the route goes on from this node. -/
def nextHopIndex (n : TraceNode) (p : MeshPacket) (route : List UInt32) : Option ℕ :=
  if p.isToUs n.nodeNum then some 0 else (route.idxOf? n.nodeNum).map (· + 1)

def updateNextHops (n : TraceNode) (p : MeshPacket) (r : RouteDiscovery) : TraceNode :=
  match nextHopIndex n p r.towards.route with
  | none => n
  | some i =>
    let nextHop := r.towards.route[i]?.getD p.from'
    if nextHop = nodenumBroadcast then n
    else (r.towards.route.drop i ++ [p.from']).foldl (maybeSetNextHop (lastByteOfNodeNum nextHop)) n

/-- The node and the route after a packet was heard with a signal-to-noise ratio of `snr`. -/
def alterReceivedProtobuf (n : TraceNode) (snr : Int8) (p : MeshPacket) (incoming : Data)
    (r : RouteDiscovery) : TraceNode × RouteDiscovery :=
  let isTowardsDestination : Bool := incoming.requestId = 0
  let l := insertUnknownHops p (r.lists isTowardsDestination)
  (if incoming.requestId ≠ 0 then updateNextHops n p r else n,
    r.setLists isTowardsDestination (appendMyIDandSNR n.nodeNum snr (p.isToUs n.nodeNum) l))

/-! ### Travel -/

/-- A node on the way, what it hears the packet with, and whether it can decode it. -/
structure Hop where
  node : TraceNode
  snr : Int8
  decodes : Bool

/-- A packet on its way. -/
structure Traced where
  packet : MeshPacket
  incoming : Data
  r : RouteDiscovery

def Traced.heard (x : Traced) (h : Hop) : RouteDiscovery :=
  if h.decodes then (alterReceivedProtobuf h.node h.snr x.packet x.incoming x.r).2 else x.r

/-- The packet as a relay sends it on. -/
def Traced.relayed (x : Traced) (h : Hop) : Traced :=
  { x with packet := { x.packet with hopLimit := x.packet.hopLimit - 1 }, r := x.heard h }

def Traced.isTowards (x : Traced) : Bool := x.incoming.requestId = 0

/-- What the destination makes of a packet that came over the relays. -/
def Traced.arrived (x : Traced) (relays : List Hop) (last : Hop) : RouteDiscovery :=
  (relays.foldl Traced.relayed x).heard last

/-! ### What is true of a path -/

/-- How a relay is entered in the route. -/
def Hop.entry (h : Hop) : UInt32 := if h.decodes then h.node.nodeNum else nodenumBroadcast

def Hop.snrEntry (h : Hop) : Int8 := if h.decodes then h.snr else unknownSnr

/-- The nodes from one end to the other. -/
def numbers (p : MeshPacket) (relays : List Hop) : List UInt32 :=
  p.from' :: relays.map (·.node.nodeNum) ++ [p.to']

/-- A path of at most eight links that the packet has hops for. -/
structure Path (p : MeshPacket) (relays : List Hop) (last : Hop) : Prop where
  short : relays.length + 1 ≤ 8
  hops : p.hopLimit = p.hopStart ∧ relays.length ≤ p.hopStart.toNat
  arrives : p.to' = last.node.nodeNum ∧ last.decodes
  distinct : (numbers p relays).Nodup
  numbered : ∀ n ∈ numbers p relays, n ≠ nodenumBroadcast

theorem numbered_of_all {p : MeshPacket} {relays : List Hop}
    (h : (numbers p relays).all (· ≠ nodenumBroadcast) = true) : ∀ n ∈ numbers p relays, n ≠ nodenumBroadcast :=
  fun n hn => of_decide_eq_true (List.all_eq_true.mp h n hn)

/-- Whether the node that comes next took part; the destination always does. -/
def known (rest : List Hop) : Bool := rest.head?.all (·.decodes)

/-- The node that comes next on the path. -/
def successor (rest : List Hop) (dest : UInt32) : UInt32 := (rest.head?.map (·.node.nodeNum)).getD dest

/-- What a node should know of the way to a target after the rest of the path was traced. -/
def learns (n : TraceNode) (rest : List Hop) (dest t : UInt32) : Option UInt8 :=
  if known rest ∧ (t = dest ∨ ∃ h ∈ rest, h.decodes ∧ h.node.nodeNum = t) then
    (n.nextHop t).map fun _ => lastByteOfNodeNum (successor rest dest)
  else n.nextHop t

/-! ### Lists that others left short -/

variable {x start : Traced} {relays done pre silent rest : List Hop} {h last : Hop} {l : List α} {a : α} {n m : ℕ}
  {p : MeshPacket} {k : TraceNode}

theorem put_eq (h : l.length < 8) : put l a = l ++ [a] := if_pos h

theorem pad_eq (h : l.length + n ≤ 8) : pad a n l = l ++ List.replicate n a := by
  induction n generalizing l with
  | zero => exact (List.append_nil l).symm
  | succ n ih =>
    have hl : (l ++ [a]).length + n ≤ 8 := by
      rw [List.length_append, List.length_singleton]
      omega
    unfold pad
    rw [put_eq (by omega), ih hl, List.append_assoc, List.singleton_append]
    rfl

theorem rounds_eq (hle : m ≤ n) (hn : n < 128) : rounds n m = n - m := by
  unfold rounds
  rw [Int8.toInt_ofInt_of_le (by omega) (by omega)]
  omega

theorem silent_entries (hs : ∀ h ∈ silent, h.decodes = false) :
    silent.map Hop.entry = List.replicate silent.length nodenumBroadcast ∧
      silent.map Hop.snrEntry = List.replicate silent.length unknownSnr := by
  refine ⟨List.map_eq_replicate_iff.mpr fun h hh => ?_, List.map_eq_replicate_iff.mpr fun h hh => ?_⟩
  · unfold Hop.entry
    rw [hs h hh, if_neg Bool.false_ne_true]
  · unfold Hop.snrEntry
    rw [hs h hh, if_neg Bool.false_ne_true]

/-- The lists stop at the last relay that took part. -/
structure Collected (done : List Hop) (l : RouteLists) : Prop where
  stops : ∃ pre silent, done = pre ++ silent ∧ (∀ h ∈ silent, h.decodes = false) ∧
    l = ⟨pre.map Hop.entry, pre.map Hop.snrEntry⟩

/-- The unknown hops fill the lists up. -/
theorem insertUnknownHops_eq {l : RouteLists} (hc : Collected done l)
    (hdone : done.length ≤ 7) (hhops : p.hopLimit.toNat + done.length = p.hopStart.toNat) :
    insertUnknownHops p l = ⟨done.map Hop.entry, done.map Hop.snrEntry⟩ := by
  obtain ⟨pre, silent, rfl, hsilent, rfl⟩ := hc.stops
  obtain ⟨hentry, hsnr⟩ := silent_entries hsilent
  rw [List.length_append] at hdone hhops
  have hle : p.hopLimit ≤ p.hopStart := UInt8.le_iff_toNat_le.mpr (by omega)
  have htaken : (p.hopStart - p.hopLimit).toNat = pre.length + silent.length := by
    rw [UInt8.toNat_sub_of_le _ _ hle]
    omega
  unfold insertUnknownHops
  by_cases hstart : p.hopStart ≠ 0
  · rw [if_pos ⟨hstart, hle⟩, htaken]
    dsimp only
    have hroute : pad nodenumBroadcast (rounds (pre.length + silent.length) (pre.map Hop.entry).length)
        (pre.map Hop.entry) = (pre ++ silent).map Hop.entry := by
      rw [List.length_map, rounds_eq (by omega) (by omega), Nat.add_sub_cancel_left,
        pad_eq (by rw [List.length_map]; omega), List.map_append, hentry]
    rw [hroute, List.length_map, List.length_map, List.length_append, rounds_eq (by omega) (by omega),
      Nat.add_sub_cancel_left, pad_eq (by rw [List.length_map]; omega), ← hsnr, ← List.map_append]
  · rw [not_not.mp hstart] at hhops
    have hzero : (0 : UInt8).toNat = 0 := rfl
    have hnone : silent = [] := List.length_eq_zero_iff.mp (by omega)
    rw [if_neg fun hc => hstart hc.1, hnone, List.append_nil]

/-! ### Along the path -/

theorem lists_setLists (r : RouteDiscovery) (b : Bool) (l : RouteLists) : (r.setLists b l).lists b = l := by
  cases b <;> rfl

theorem lists_setLists_not (r : RouteDiscovery) (b : Bool) (l : RouteLists) :
    (r.setLists b l).lists (!b) = r.lists (!b) := by
  cases b <;> rfl

/-- A packet after the relays that it has passed. -/
structure Passed (start : Traced) (done : List Hop) (x : Traced) : Prop where
  collected : Collected done (x.r.lists x.isTowards)
  others : x.r.lists (!x.isTowards) = start.r.lists (!start.isTowards)
  incoming : x.incoming = start.incoming
  packet : x.packet = { start.packet with hopLimit := x.packet.hopLimit }
  hops : x.packet.hopLimit.toNat + done.length = x.packet.hopStart.toNat

theorem heard_others : (x.heard h).lists (!x.isTowards) = x.r.lists (!x.isTowards) := by
  unfold Traced.heard
  split
  · exact lists_setLists_not x.r x.isTowards _
  · rfl

/-- Whoever can decode the packet first fills the lists up. -/
theorem heard_lists (hp : Passed start done x) (hdone : done.length ≤ 7) (hdec : h.decodes = true) :
    (x.heard h).lists x.isTowards = appendMyIDandSNR h.node.nodeNum h.snr (x.packet.isToUs h.node.nodeNum)
      ⟨done.map Hop.entry, done.map Hop.snrEntry⟩ := by
  unfold Traced.heard
  rw [if_pos hdec, ← insertUnknownHops_eq hp.collected hdone hp.hops]
  exact lists_setLists x.r x.isTowards _

/-- A relay that takes part enters itself and its link. -/
theorem heard_relay (hp : Passed start done x) (hdone : done.length ≤ 7) (hdec : h.decodes = true)
    (hother : h.node.nodeNum ≠ x.packet.to') :
    (x.heard h).lists x.isTowards = ⟨(done ++ [h]).map Hop.entry, (done ++ [h]).map Hop.snrEntry⟩ := by
  have hus : x.packet.isToUs h.node.nodeNum = false := decide_eq_false fun he => hother he.symm
  have hentry : h.entry = h.node.nodeNum := if_pos hdec
  have hsnr : h.snrEntry = h.snr := if_pos hdec
  rw [heard_lists hp hdone hdec, hus, List.map_append, List.map_append]
  unfold appendMyIDandSNR
  rw [if_neg Bool.false_ne_true, put_eq (by rw [List.length_map]; omega),
    put_eq (by rw [List.length_map]; omega), ← hentry, ← hsnr]
  rfl

theorem collected_relay (hp : Passed start done x) (hdone : done.length ≤ 7)
    (hother : h.node.nodeNum ≠ x.packet.to') : Collected (done ++ [h]) ((x.heard h).lists x.isTowards) := by
  by_cases hdec : h.decodes = true
  · refine ⟨done ++ [h], [], (List.append_nil _).symm, fun _ hn => absurd hn List.not_mem_nil, ?_⟩
    exact heard_relay hp hdone hdec hother
  · obtain ⟨pre, silent, hd, hsilent, hl⟩ := hp.collected.stops
    refine ⟨pre, silent ++ [h], by rw [hd, List.append_assoc], fun g hg => ?_, ?_⟩
    · rcases List.mem_append.mp hg with hg | hg
      · exact hsilent g hg
      · rw [List.mem_singleton.mp hg]
        exact Bool.eq_false_iff.mpr hdec
    · unfold Traced.heard
      rw [if_neg hdec]
      exact hl

theorem passed_relay (hp : Passed start done x) (hdone : done.length ≤ 7)
    (hhops : done.length < start.packet.hopStart.toNat) (hother : h.node.nodeNum ≠ start.packet.to') :
    Passed start (done ++ [h]) (x.relayed h) := by
  have hstart : x.packet.hopStart = start.packet.hopStart := by rw [hp.packet]
  have hto : x.packet.to' = start.packet.to' := by rw [hp.packet]
  have hhop := hp.hops
  have hone : (1 : UInt8).toNat = 1 := rfl
  rw [hstart] at hhop
  have hle : (1 : UInt8) ≤ x.packet.hopLimit := UInt8.le_iff_toNat_le.mpr (by omega)
  refine ⟨?_, ?_, hp.incoming, ?_, ?_⟩
  · exact collected_relay hp hdone (by rw [hto]; exact hother)
  · exact heard_others.trans hp.others
  · change { x.packet with hopLimit := x.packet.hopLimit - 1 } = _
    rw [hp.packet]
    rfl
  · change (x.packet.hopLimit - 1).toNat + (done ++ [h]).length = x.packet.hopStart.toNat
    rw [UInt8.toNat_sub_of_le _ _ hle, List.length_append, List.length_singleton, hstart]
    omega

theorem passed_relays (hp : Passed start done x) (hshort : (done ++ relays).length ≤ 7)
    (hhops : (done ++ relays).length ≤ start.packet.hopStart.toNat)
    (hother : ∀ h ∈ relays, h.node.nodeNum ≠ start.packet.to') :
    Passed start (done ++ relays) (relays.foldl Traced.relayed x) := by
  induction relays generalizing done x with
  | nil =>
    rw [List.append_nil]
    exact hp
  | cons h relays ih =>
    rw [List.append_cons] at hshort hhops ⊢
    rw [List.length_append, List.length_append, List.length_singleton] at hshort hhops
    refine ih (passed_relay hp (by omega) (by omega) (hother h List.mem_cons_self)) ?_ ?_
      fun g hg => hother g (List.mem_cons_of_mem h hg)
    all_goals
      rw [List.length_append, List.length_append, List.length_singleton]
      omega

theorem passed_start (hhops : x.packet.hopLimit = x.packet.hopStart) (hfresh : x.r.lists x.isTowards = ⟨[], []⟩) :
    Passed x [] x :=
  ⟨⟨[], [], rfl, fun _ hn => absurd hn List.not_mem_nil, hfresh⟩, rfl, rfl, rfl, by rw [hhops]; rfl⟩

theorem Path.relay_ne (hpath : Path p relays last) (hh : h ∈ relays) : h.node.nodeNum ≠ p.to' := by
  intro heq
  have hd := (List.nodup_append.mp hpath.distinct).2.2
  exact hd _ (List.mem_cons_of_mem _ (List.mem_map_of_mem hh)) _ List.mem_cons_self heq

/-- No node comes twice on a path. -/
theorem Path.apart (hpath : Path p (pre ++ h :: rest) last) :
    p.from' ≠ h.node.nodeNum ∧ ∀ g ∈ pre, g.node.nodeNum ≠ h.node.nodeNum := by
  have hdistinct := hpath.distinct
  unfold numbers at hdistinct
  rw [List.map_append, List.map_cons] at hdistinct
  obtain ⟨hout, hrelays, -⟩ := List.nodup_append.mp hdistinct
  obtain ⟨hfirst, hrelays⟩ := List.nodup_cons.mp hout
  refine ⟨fun he => hfirst (List.mem_append_right _ (List.mem_cons.mpr (.inl he))), fun g hg => ?_⟩
  exact (List.nodup_append.mp hrelays).2.2 _ (List.mem_map_of_mem hg) _ List.mem_cons_self

/-- Wherever the packet is on its way, it has passed the relays before. -/
theorem Path.passed (hpath : Path x.packet relays last) (hfresh : x.r.lists x.isTowards = ⟨[], []⟩)
    (hway : relays = done ++ rest) : Passed x done (done.foldl Traced.relayed x) := by
  subst hway
  have hshort := hpath.short
  have hhops := hpath.hops.2
  rw [List.length_append] at hshort hhops
  refine passed_relays (passed_start hpath.hops.1 hfresh) (by rw [List.nil_append]; omega)
    (by rw [List.nil_append]; omega) fun h hh => ?_
  exact hpath.relay_ne (List.mem_append_left rest hh)

/-- The destination finds one entry for each relay and one ratio for each link. -/
theorem Path.arrived (hpath : Path x.packet relays last) (hfresh : x.r.lists x.isTowards = ⟨[], []⟩) :
    (x.arrived relays last).lists x.isTowards =
        ⟨relays.map Hop.entry, relays.map Hop.snrEntry ++ [last.snr]⟩ ∧
      (x.arrived relays last).lists (!x.isTowards) = x.r.lists (!x.isTowards) := by
  have hp := hpath.passed hfresh (List.append_nil relays).symm
  have hshort := hpath.short
  have hdirection : (relays.foldl Traced.relayed x).isTowards = x.isTowards := by
    unfold Traced.isTowards
    rw [hp.incoming]
  have hus : (relays.foldl Traced.relayed x).packet.isToUs last.node.nodeNum = true := by
    rw [hp.packet]
    exact decide_eq_true hpath.arrives.1
  have hlists := heard_lists hp (by omega) hpath.arrives.2
  have hothers := (heard_others (h := last)).trans hp.others
  rw [hdirection] at hlists hothers
  refine ⟨hlists.trans ?_, hothers⟩
  unfold appendMyIDandSNR
  rw [hus, if_pos rfl, put_eq (by rw [List.length_map]; omega)]

/-! ### Next hops -/

theorem maybeSetNextHop_nextHop (b : UInt8) (t u : UInt32) :
    (maybeSetNextHop b k u).nextHop t =
      if t ≠ nodenumBroadcast ∧ t = u then (k.nextHop t).map fun _ => b else k.nextHop t := by
  unfold maybeSetNextHop
  by_cases hu : u = nodenumBroadcast
  · rw [if_pos hu, if_neg fun hc => hc.1 (hc.2.trans hu)]
  · rw [if_neg hu]
    by_cases ht : t = u
    · subst ht
      rw [if_pos ⟨hu, rfl⟩]
      exact Function.update_self _ _ _
    · rw [if_neg fun hc => ht hc.2]
      exact Function.update_of_ne ht _ _

theorem foldl_maybeSetNextHop (b : UInt8) (us : List UInt32) (t : UInt32) :
    (us.foldl (maybeSetNextHop b) k).nextHop t =
      if t ≠ nodenumBroadcast ∧ t ∈ us then (k.nextHop t).map fun _ => b else k.nextHop t := by
  induction us generalizing k with
  | nil => exact (if_neg fun hc => List.not_mem_nil hc.2).symm
  | cons u us ih =>
    rw [List.foldl_cons, ih, maybeSetNextHop_nextHop]
    by_cases hu : t ≠ nodenumBroadcast ∧ t = u
    · rw [if_pos hu, Option.map_map, if_pos (c := t ≠ nodenumBroadcast ∧ t ∈ u :: us)
        ⟨hu.1, List.mem_cons.mpr (.inl hu.2)⟩]
      split <;> rfl
    · rw [if_neg hu]
      refine if_congr (and_congr_right fun hb => ?_) rfl rfl
      rw [List.mem_cons, or_iff_right fun he => hu ⟨hb, he⟩]

/-- An entry of the route stands for the node that it names, if that is not the unknown one. -/
theorem mem_entries {t : UInt32} (ht : t ≠ nodenumBroadcast) :
    t ∈ rest.map Hop.entry ↔ ∃ h ∈ rest, h.decodes ∧ h.node.nodeNum = t := by
  rw [List.mem_map]
  refine exists_congr fun h => and_congr_right fun _ => ?_
  unfold Hop.entry
  by_cases hdec : h.decodes = true
  · rw [if_pos hdec, and_iff_right hdec]
  · rw [if_neg hdec]
    exact ⟨fun he => absurd he.symm ht, fun hc => absurd hc.1 hdec⟩

/-- The next entry of the route, or the destination behind the last. -/
theorem next_entry (hnum : ∀ h ∈ rest, h.node.nodeNum ≠ nodenumBroadcast) {dest : UInt32}
    (hdest : dest ≠ nodenumBroadcast) :
    ((rest.map Hop.entry).head?.getD dest = nodenumBroadcast ↔ known rest = false) ∧
      (known rest = true → (rest.map Hop.entry).head?.getD dest = successor rest dest) := by
  cases rest with
  | nil => exact ⟨⟨fun he => absurd he hdest, fun hf => absurd hf Bool.true_eq_false.mp⟩, fun _ => rfl⟩
  | cons h rest =>
    change (h.entry = nodenumBroadcast ↔ h.decodes = false) ∧ (h.decodes = true → h.entry = h.node.nodeNum)
    have hh := hnum h List.mem_cons_self
    unfold Hop.entry
    by_cases hdec : h.decodes = true
    · rw [if_pos hdec, hdec]
      exact ⟨⟨fun he => absurd he hh, fun hf => absurd hf.symm Bool.false_ne_true⟩, fun _ => rfl⟩
    · rw [if_neg hdec]
      exact ⟨⟨fun _ => Bool.eq_false_iff.mpr hdec, fun _ => rfl⟩, fun ht => absurd ht hdec⟩

/-- A node that the route goes on from learns the way to the rest of it. -/
theorem updateNextHops_learns {r : RouteDiscovery} {i : ℕ} (hi : nextHopIndex k p r.towards.route = some i)
    (hrest : r.towards.route.drop i = rest.map Hop.entry)
    (hnum : ∀ h ∈ rest, h.node.nodeNum ≠ nodenumBroadcast) (hdest : p.from' ≠ nodenumBroadcast) (t : UInt32) :
    (updateNextHops k p r).nextHop t = learns k rest p.from' t := by
  obtain ⟨hunknown, hknown⟩ := next_entry hnum hdest
  have hnext : r.towards.route[i]? = (rest.map Hop.entry).head? := by rw [← hrest, List.head?_drop]
  unfold updateNextHops learns
  rw [hi]
  dsimp only
  rw [hnext, hrest]
  by_cases hk : known rest = true
  · have hne := fun he => Bool.false_ne_true ((hunknown.mp he).symm.trans hk)
    rw [if_neg hne, foldl_maybeSetNextHop, hknown hk]
    refine if_congr ⟨fun hc => ⟨hk, ?_⟩, fun hc => ?_⟩ rfl rfl
    · rcases List.mem_append.mp hc.2 with hm | hm
      · exact .inr ((mem_entries hc.1).mp hm)
      · exact .inl (List.mem_singleton.mp hm)
    · rcases hc.2 with rfl | ⟨h, hh, hdec, rfl⟩
      · exact ⟨hdest, List.mem_append_right _ List.mem_cons_self⟩
      · exact ⟨hnum h hh, List.mem_append_left _ ((mem_entries (hnum h hh)).mpr ⟨h, hh, hdec, rfl⟩)⟩
  · rw [if_pos (hunknown.mpr (Bool.eq_false_iff.mpr hk)), if_neg fun hc => hk hc.1]

theorem idxOf?_middle [DecidableEq α] {pre rest : List α} (ha : a ∉ pre) :
    (pre ++ a :: rest).idxOf? a = some pre.length := by
  induction pre with
  | nil => rw [List.nil_append, List.idxOf?_cons, if_pos (beq_self_eq_true a)]; rfl
  | cons b pre ih =>
    have hb : ¬ (b == a) = true := fun he => ha (List.mem_cons.mpr (.inl (eq_of_beq he).symm))
    rw [List.cons_append, List.idxOf?_cons, if_neg hb, ih fun hm => ha (List.mem_cons_of_mem b hm)]
    rfl

theorem nextHopIndex_origin {route : List UInt32} (hto : p.to' = k.nodeNum) :
    nextHopIndex k p route = some 0 :=
  if_pos (decide_eq_true hto)

/-- A relay finds itself in the route where it entered itself. -/
theorem nextHopIndex_relay {route : List UInt32} (hroute : route = (pre ++ h :: rest).map Hop.entry)
    (hto : p.to' ≠ k.nodeNum) (hdec : h.decodes = true) (hk : k.nodeNum = h.node.nodeNum)
    (hne : k.nodeNum ≠ nodenumBroadcast) (hfirst : ∀ g ∈ pre, g.node.nodeNum ≠ k.nodeNum) :
    nextHopIndex k p route = some (pre.length + 1) := by
  have hentry : h.entry = k.nodeNum := (if_pos hdec).trans hk.symm
  have hpre : k.nodeNum ∉ pre.map Hop.entry := by
    intro hm
    obtain ⟨g, hg, -, he⟩ := (mem_entries hne).mp hm
    exact hfirst g hg he
  have hus : ¬ p.isToUs k.nodeNum = true := fun hc => hto (of_decide_eq_true hc)
  have hindex : route.idxOf? k.nodeNum = some pre.length := by
    rw [hroute, List.map_append, List.map_cons, hentry, idxOf?_middle hpre, List.length_map]
  unfold nextHopIndex
  rw [if_neg hus, hindex]
  rfl

/-! ### There and back -/

section RoundTrip

variable {request reply : Traced} {back : List Hop} {dest origin : Hop}

/-- A reply to a request that came over a path, and the path that it takes back. -/
structure Answers (request : Traced) (relays : List Hop) (dest : Hop) (reply : Traced) (back : List Hop)
    (origin : Hop) : Prop where
  there : Path request.packet relays dest
  home : Path reply.packet back origin
  asks : request.incoming.requestId = 0 ∧ request.r = ⟨⟨[], []⟩, ⟨[], []⟩⟩
  answers : reply.incoming.requestId ≠ 0 ∧ reply.r = request.arrived relays dest
  ends : reply.packet.from' = request.packet.to' ∧ reply.packet.to' = request.packet.from'

variable (ha : Answers request relays dest reply back origin)
include ha

theorem Answers.isTowards : request.isTowards = true ∧ reply.isTowards = false :=
  ⟨decide_eq_true ha.asks.1, decide_eq_false ha.answers.1⟩

/-- The request carries the path that it came. -/
theorem Answers.requested :
    request.arrived relays dest = ⟨⟨relays.map Hop.entry, relays.map Hop.snrEntry ++ [dest.snr]⟩, ⟨[], []⟩⟩ := by
  have htowards := ha.isTowards.1
  have hfresh : request.r.lists request.isTowards = ⟨[], []⟩ := by rw [ha.asks.2, htowards]; rfl
  obtain ⟨hlists, hothers⟩ := ha.there.arrived hfresh
  rw [htowards] at hlists hothers
  rw [ha.asks.2] at hothers
  exact congrArg₂ RouteDiscovery.mk hlists hothers

theorem Answers.fresh : reply.r.lists reply.isTowards = ⟨[], []⟩ := by
  rw [ha.answers.2, ha.requested, ha.isTowards.2]
  rfl

/-- The reply keeps that path and adds its own. -/
theorem Answers.replied :
    reply.arrived back origin = ⟨⟨relays.map Hop.entry, relays.map Hop.snrEntry ++ [dest.snr]⟩,
      ⟨back.map Hop.entry, back.map Hop.snrEntry ++ [origin.snr]⟩⟩ := by
  obtain ⟨hlists, hothers⟩ := ha.home.arrived ha.fresh
  rw [ha.isTowards.2] at hlists hothers
  rw [ha.answers.2, ha.requested] at hothers
  exact congrArg₂ RouteDiscovery.mk hothers hlists

/-- Wherever the reply is, it shows the path of the request. -/
theorem Answers.shown {done rest : List Hop} (hway : back = done ++ rest) :
    (done.foldl Traced.relayed reply).packet.from' = request.packet.to' ∧
      (done.foldl Traced.relayed reply).packet.to' = request.packet.from' ∧
      (done.foldl Traced.relayed reply).r.towards.route = relays.map Hop.entry := by
  have hp := ha.home.passed ha.fresh hway
  have hothers := hp.others
  have hdirection : (done.foldl Traced.relayed reply).isTowards = false := by
    unfold Traced.isTowards
    rw [hp.incoming]
    exact ha.isTowards.2
  rw [hdirection, ha.isTowards.2, ha.answers.2, ha.requested] at hothers
  rw [hp.packet]
  exact ⟨ha.ends.1, ha.ends.2, congrArg RouteLists.route hothers⟩

theorem Answers.numbered (hh : h ∈ relays) : h.node.nodeNum ≠ nodenumBroadcast :=
  ha.there.numbered _ (List.mem_append_left _ (List.mem_cons_of_mem _ (List.mem_map_of_mem hh)))

theorem Answers.numbered_dest : request.packet.to' ≠ nodenumBroadcast :=
  ha.there.numbered _ (List.mem_append_right _ List.mem_cons_self)

/-- The one who asked learns the whole path. -/
theorem Answers.learns_origin {done rest : List Hop} (hway : back = done ++ rest)
    (hk : k.nodeNum = request.packet.from') (t : UInt32) :
    (updateNextHops k (done.foldl Traced.relayed reply).packet (done.foldl Traced.relayed reply).r).nextHop t =
      learns k relays request.packet.to' t := by
  obtain ⟨hfrom, hto, hroute⟩ := ha.shown hway
  rw [← hfrom]
  refine updateNextHops_learns (nextHopIndex_origin (hto.trans hk.symm)) hroute (fun h hh => ha.numbered hh) ?_ t
  rw [hfrom]
  exact ha.numbered_dest

/-- A relay that took part learns what lies behind it. -/
theorem Answers.learns_relay {done rest pre after : List Hop} (hway : back = done ++ rest)
    (hrelays : relays = pre ++ h :: after) (hdec : h.decodes = true) (hk : k.nodeNum = h.node.nodeNum)
    (t : UInt32) :
    (updateNextHops k (done.foldl Traced.relayed reply).packet (done.foldl Traced.relayed reply).r).nextHop t =
      learns k after request.packet.to' t := by
  obtain ⟨hfrom, hto, hroute⟩ := ha.shown hway
  subst hrelays
  obtain ⟨hsource, hbefore⟩ := ha.there.apart
  have hbehind : ∀ g ∈ h :: after, g.node.nodeNum ≠ nodenumBroadcast :=
    fun g hg => ha.numbered (List.mem_append_right pre hg)
  have hindex := nextHopIndex_relay hroute (by rw [hto, hk]; exact hsource) hdec hk
    (by rw [hk]; exact hbehind h List.mem_cons_self) (by rw [hk]; exact hbefore)
  have hafter : (done.foldl Traced.relayed reply).r.towards.route.drop (pre.length + 1) =
      after.map Hop.entry := by
    rw [hroute, ← List.map_drop, List.append_cons, List.drop_left' (by rw [List.length_append]; rfl)]
  rw [← hfrom]
  refine updateNextHops_learns hindex hafter (fun g hg => hbehind g (List.mem_cons_of_mem h hg)) ?_ t
  rw [hfrom]
  exact ha.numbered_dest

end RoundTrip

/-- A traceroute reports the true path: a request arrives with one entry for each relay and one ratio for
each link, with the unknown markers where a node took no part; its reply collects its own path in the same
way and leaves those alone; and whoever is named in the path learns only the true way to the rest of it. -/
theorem traceroute_reports {request reply : Traced} {relays back : List Hop} {dest origin : Hop}
    (ha : Answers request relays dest reply back origin) :
    request.arrived relays dest = ⟨⟨relays.map Hop.entry, relays.map Hop.snrEntry ++ [dest.snr]⟩, ⟨[], []⟩⟩ ∧
      reply.arrived back origin = ⟨(request.arrived relays dest).towards,
        ⟨back.map Hop.entry, back.map Hop.snrEntry ++ [origin.snr]⟩⟩ ∧
      ∀ done rest, back = done ++ rest → ∀ (k : TraceNode) (t : UInt32),
        let x := done.foldl Traced.relayed reply
        (k.nodeNum = request.packet.from' →
          (updateNextHops k x.packet x.r).nextHop t = learns k relays request.packet.to' t) ∧
        ∀ pre h after, relays = pre ++ h :: after → h.decodes → k.nodeNum = h.node.nodeNum →
          (updateNextHops k x.packet x.r).nextHop t = learns k after request.packet.to' t := by
  refine ⟨ha.requested, ?_, fun done rest hway k t => ⟨fun hk => ha.learns_origin hway hk t, ?_⟩⟩
  · rw [ha.requested]
    exact ha.replied
  · intro pre h after hrelays hdec hk
    exact ha.learns_relay hway hrelays hdec hk t

/-- A node without knowledge of the others' next hops. -/
def Hop.of (num : UInt32) (snr : Int8) (decodes : Bool) : Hop := ⟨⟨num, fun _ => some 0⟩, snr, decodes⟩

/-- Behind the first relay is one that cannot decode the packet. -/
theorem traceroute_throughSilence :
    let relays := [Hop.of 0x22 20 true, Hop.of 0x33 (-8) false]
    let request : Traced :=
      { packet := { MeshPacket.zero with from' := 0x11, to' := 0x44, hopLimit := 3, hopStart := 3 }
        incoming := Data.zero, r := ⟨⟨[], []⟩, ⟨[], []⟩⟩ }
    let reply : Traced :=
      { packet := { MeshPacket.zero with from' := 0x44, to' := 0x11, hopLimit := 3, hopStart := 3 }
        incoming := { Data.zero with requestId := 7 }, r := request.arrived relays (Hop.of 0x44 12 true) }
    reply.arrived relays.reverse (Hop.of 0x11 16 true) =
      ⟨⟨[0x22, nodenumBroadcast], [20, unknownSnr, 12]⟩, ⟨[nodenumBroadcast, 0x22], [unknownSnr, 20, 16]⟩⟩ := by
  intro relays request reply
  have hthere : Path request.packet relays (Hop.of 0x44 12 true) :=
    ⟨by decide, by decide, by decide, by decide +kernel, numbered_of_all (by decide +kernel)⟩
  have hhome : Path reply.packet relays.reverse (Hop.of 0x11 16 true) :=
    ⟨by decide, by decide, by decide, by decide +kernel, numbered_of_all (by decide +kernel)⟩
  have ha : Answers request relays (Hop.of 0x44 12 true) reply relays.reverse (Hop.of 0x11 16 true) :=
    ⟨hthere, hhome, ⟨rfl, rfl⟩, ⟨by decide, rfl⟩, ⟨rfl, rfl⟩⟩
  have hreports := traceroute_reports ha
  rw [hreports.2.1, hreports.1]
  rfl

end TraceRoute
end MonsterMesh
