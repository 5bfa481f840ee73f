import MonsterMesh.Lib.Buckets
import MonsterMesh.Mesh.Rehydrated

/-! The number and the size that the packet cache keeps of its entries. -/
namespace MonsterMesh

open Buckets Walk

namespace PacketCache

/-- What the entries held add up to. -/
def held (c : PacketCache) (f : PacketCacheEntry → ℕ) : ℕ := weight (fun x => f x.2) c.buckets

/-- Every entry is in the bucket of its hash. -/
def Placed (c : PacketCache) : Prop := ∀ b, ∀ x ∈ c.buckets b, x.2.bucket = b

variable {c : PacketCache} {f : PacketCacheEntry → ℕ} {e : PacketCacheEntry} {addr k : ℕ}

theorem held_insert : (c.insert addr e).held f = c.held f + f e := weight_push

theorem insert_placed (h : c.Placed) : (c.insert addr e).Placed := by
  refine home_update h fun x hx => ?_
  rcases List.mem_cons.mp hx with rfl | hx
  · rfl
  · exact h _ x hx

/-- The entries held and what is kept of them: `k` bytes are counted that no entry has. -/
structure Sized (c : PacketCache) (k : ℕ) : Prop where
  placed : c.Placed
  count : c.numEntries = c.held fun _ => 1
  size : c.size = c.held PacketCacheEntry.len + k

theorem empty_sized : empty.Sized 0 := by
  have h0 : ∀ f, empty.held f = 0 := fun f => by
    unfold held empty
    exact weight_empty
  refine ⟨fun _ _ hx => absurd hx List.not_mem_nil, ?_, ?_⟩
  · rw [h0]
    rfl
  · rw [h0]
    rfl

/-- An entry whose size was counted is put in. -/
theorem insert_sized {n : ℕ} (h : c.Sized k) :
    ({ c with size := c.size + e.len, heap := n }.insert addr e).Sized k := by
  refine ⟨insert_placed h.placed, ?_, ?_⟩
  · rw [held_insert]
    exact congrArg (· + 1) h.count
  · rw [held_insert]
    have hs := h.size
    show c.size + e.len = c.held _ + e.len + k
    omega

/-- The entries of a load, whose sizes were counted before. -/
theorem insertAll_sized {es : List PacketCacheEntry} (h : c.Sized k) :
    ({ c with size := c.size + (es.map PacketCacheEntry.len).sum }.insertAll es).Sized k := by
  induction es generalizing c with
  | nil => exact h
  | cons e es ih =>
    have hi := ih (@insert_sized _ e c.heap _ (c.heap + 1) h)
    have heq : { c with size := c.size + ((e :: es).map PacketCacheEntry.len).sum }.insertAll (e :: es) =
        { ({ c with size := c.size + e.len, heap := c.heap + 1 }.insert c.heap e) with
          size := c.size + e.len + (es.map PacketCacheEntry.len).sum }.insertAll es := by
      rw [List.map_cons, List.sum_cons, ← Nat.add_assoc]
      rfl
    rw [heq]
    exact hi

/-- What is released is no longer held. -/
theorem held_release (he : c.entry addr = some e) (hp : c.Placed) (f : PacketCacheEntry → ℕ) :
    (c.release addr).held f + f e = c.held f := by
  unfold release
  rw [he]
  obtain ⟨⟨a, e'⟩, hf, rfl⟩ := Option.map_eq_some_iff.mp he
  exact weight_erase (f := fun x : ℕ × PacketCacheEntry => f x.2)
    (find_bucket (fun b x hx => hp b x hx) hf)

theorem release_sized (h : c.Sized k) : (c.release addr).Sized k := by
  cases he : c.entry addr with
  | none =>
    unfold release
    rw [he]
    exact h
  | some e =>
    have hw := held_release he h.placed
    unfold release at hw ⊢
    rw [he] at hw ⊢
    dsimp only at hw ⊢
    refine ⟨home_update h.placed fun x hx => h.placed _ x (List.mem_of_mem_eraseP hx), ?_, ?_⟩
    · have h1 := hw fun _ => 1
      have hc := h.count
      dsimp only at h1 ⊢
      omega
    · have h1 := hw PacketCacheEntry.len
      have hs := h.size
      dsimp only
      omega

/-- The bytes that a call counts for an entry it does not put in. -/
def Call.lost : Call → ℕ
  | .load src n (some i) => (((entriesOf n src)[i.val]?).map PacketCacheEntry.len).getD 0
  | _ => 0

theorem length_entriesOf (n : ℕ) (bs : List UInt8) : (entriesOf n bs).length = n := by
  induction n generalizing bs with
  | zero => rfl
  | succ n ih => rw [entriesOf, List.length_cons, ih]

theorem step_sized (h : c.Sized k) (call : Call) : (c.step call).Sized (k + call.lost) := by
  cases call with
  | cache p preserveMetadata malloc =>
    unfold step cache
    dsimp only
    split_ifs
    · cases p.cacheEntry preserveMetadata with
      | none => exact h
      | some e => exact insert_sized h
    · exact h
  | load src n fails =>
    cases fails with
    | none => exact insertAll_sized h
    | some i =>
      have hi : i.val < (entriesOf n src).length := by
        rw [length_entriesOf]
        exact i.isLt
      refine ⟨h.placed, h.count, ?_⟩
      have hs := h.size
      have hlost : Call.lost (.load src n (some i)) = ((entriesOf n src)[i.val]).len := by
        unfold Call.lost
        dsimp only
        rw [List.getElem?_eq_getElem hi]
        rfl
      rw [hlost]
      unfold step load
      dsimp only
      rw [List.take_succ_eq_append_getElem hi, List.map_append, List.sum_append]
      show c.size + (_ + _) - _ = c.held _ + _
      rw [List.map_singleton, List.sum_singleton]
      omega
  | release addr => exact release_sized h

theorem run_sized (h : c.Sized k) (calls : List Call) :
    (run step c calls).Sized (k + (calls.map Call.lost).sum) := by
  induction calls generalizing c k with
  | nil => exact h
  | cons call calls ih =>
    rw [run_cons, List.map_cons, List.sum_cons, ← Nat.add_assoc]
    exact ih (step_sized h call)

/-- What the cache keeps is the number and the total length of the entries held. -/
def Accounted (c : PacketCache) : Prop :=
  c.numEntries = c.held (fun _ => 1) ∧ c.size = c.held PacketCacheEntry.len

/-- A load that runs out of memory before its last entry is copied. -/
def Call.RunsOut : Call → Prop
  | .load _ _ fails => fails.isSome
  | _ => False

theorem len_ne_zero (e : PacketCacheEntry) : e.len ≠ 0 := by
  unfold PacketCacheEntry.len sizeofPacketCacheEntry
  omega

theorem lost_eq_zero_iff (call : Call) : call.lost = 0 ↔ ¬ call.RunsOut := by
  cases call with
  | cache p preserveMetadata malloc => exact ⟨fun _ h => h, fun _ => rfl⟩
  | release addr => exact ⟨fun _ h => h, fun _ => rfl⟩
  | load src n fails =>
    cases fails with
    | none => exact ⟨fun _ h => Bool.noConfusion h, fun _ => rfl⟩
    | some i =>
      have hi : i.val < (entriesOf n src).length := by
        rw [length_entriesOf]
        exact i.isLt
      refine ⟨fun h => ?_, fun h => absurd rfl h⟩
      unfold Call.lost at h
      dsimp only at h
      rw [List.getElem?_eq_getElem hi, Option.map_some, Option.getD_some] at h
      exact (len_ne_zero _ h).elim

theorem accounted_iff (h : c.Sized k) : c.Accounted ↔ k = 0 := by
  have hs := h.size
  constructor
  · rintro ⟨_, hsize⟩
    omega
  · rintro rfl
    exact ⟨h.count, hs.trans (Nat.add_zero _)⟩

/-- The counts are right throughout a run exactly if no load in it runs out of memory. -/
theorem accounted_run_iff (calls : List Call) :
    (∀ n, (run step empty (calls.take n)).Accounted) ↔ ∀ call ∈ calls, ¬ call.RunsOut := by
  have hsum : ∀ l : List Call, (run step empty l).Accounted ↔ (l.map Call.lost).sum = 0 := fun l => by
    rw [accounted_iff (run_sized empty_sized l), Nat.zero_add]
  have hzero : ∀ l : List Call, (l.map Call.lost).sum = 0 ↔ ∀ call ∈ l, ¬ call.RunsOut := fun l => by
    rw [List.sum_eq_zero_iff]
    simp only [List.forall_mem_map, lost_eq_zero_iff]
  constructor
  · intro h
    have hall := h calls.length
    rwa [List.take_length, hsum, hzero] at hall
  · intro h n
    rw [hsum, hzero]
    exact fun call hc => h call (List.mem_of_mem_take hc)

/-! ### The whole cache -/

/-- What is asked of the cache: a packet comes back from its entry, and from its entry after a dump is
loaded into an empty cache; and the counts are right throughout a run. -/
structure Faithful (packets : List MeshPacket) (calls : List Call) : Prop where
  cached : ∀ p ∈ packets, ∃ e, (empty.cache p true true).1 = some e ∧ p.SameAs e.rehydrate
  dumped : ∀ entries : List (UInt32 × PacketCacheEntry),
    packets.map (·.cacheEntry true) = entries.map (fun x => some x.2) →
      ∃ loaded, (empty.load (dump entries) entries.length none).1 = some loaded ∧
        List.Forall₂ (fun p e => p.SameAs e.rehydrate) packets loaded
  accounted : ∀ n, (run step empty (calls.take n)).Accounted

/-- The entries of packets that fit hold them whole and give each of them back. -/
theorem rehydrates_all {packets : List MeshPacket} {entries : List (UInt32 × PacketCacheEntry)}
    (h : ∀ p ∈ packets, p.InDomain) (hfits : ∀ p ∈ packets, p.Fits)
    (hentries : packets.map (·.cacheEntry true) = entries.map (fun x => some x.2)) :
    (∀ x ∈ entries, x.2.Whole) ∧
      List.Forall₂ (fun p e => p.SameAs e.rehydrate) packets (entries.map Prod.snd) := by
  induction packets generalizing entries with
  | nil =>
    rw [List.map_nil, eq_comm, List.map_eq_nil_iff] at hentries
    subst hentries
    exact ⟨fun _ hx => absurd hx List.not_mem_nil, List.Forall₂.nil⟩
  | cons p packets ih =>
    cases entries with
    | nil => cases hentries
    | cons x entries =>
      rw [List.map_cons, List.map_cons, List.cons.injEq] at hentries
      obtain ⟨e, he, hwhole, hiff⟩ := cacheEntry_rehydrates (h p (List.mem_cons_self ..))
      obtain rfl : e = x.2 := Option.some.inj (he.symm.trans hentries.1)
      obtain ⟨hw, hs⟩ := ih (fun q hq => h q (List.mem_cons_of_mem p hq))
        (fun q hq => hfits q (List.mem_cons_of_mem p hq)) hentries.2
      exact ⟨List.forall_mem_cons.mpr ⟨hwhole, hw⟩,
        List.Forall₂.cons (hiff.mpr (hfits p (List.mem_cons_self ..))) hs⟩

/-- The cache does what is asked of it exactly if every packet fits the metadata and no load runs out
of memory. -/
theorem faithful_iff {packets : List MeshPacket} {calls : List Call} (h : ∀ p ∈ packets, p.InDomain) :
    Faithful packets calls ↔ (∀ p ∈ packets, p.Fits) ∧ ∀ call ∈ calls, ¬ call.RunsOut := by
  constructor
  · intro hf
    refine ⟨fun p hp => ?_, (accounted_run_iff calls).mp hf.accounted⟩
    obtain ⟨e, he, _, hiff⟩ := cacheEntry_rehydrates (h p hp)
    obtain ⟨e', he', hsame⟩ := hf.cached p hp
    unfold cache at he'
    rw [if_pos rfl, he] at he'
    cases he'
    exact hiff.mp hsame
  · rintro ⟨hfits, hcalls⟩
    refine ⟨fun p hp => ?_, fun entries hentries => ?_, (accounted_run_iff calls).mpr hcalls⟩
    · obtain ⟨e, he, _, hiff⟩ := cacheEntry_rehydrates (h p hp)
      refine ⟨e, ?_, hiff.mpr (hfits p hp)⟩
      unfold cache
      rw [if_pos rfl, he]
    · obtain ⟨hwhole, hsame⟩ := rehydrates_all h hfits hentries
      exact ⟨entries.map Prod.snd, congrArg some (entriesOf_dump hwhole), hsame⟩

/-- A text message that is not an answer. -/
def textMessage : MeshPacket :=
  { MeshPacket.zero with variant := .decoded { Data.zero with portnum := 1, payload := [104, 105] } }

theorem faithful_textMessage : textMessage.InDomain ∧ Faithful [textMessage] [.cache textMessage true true] := by
  have hin : textMessage.InDomain := ⟨by decide, by decide, by decide, by decide⟩
  refine ⟨hin, (faithful_iff (List.forall_mem_singleton.mpr hin)).mpr
    ⟨List.forall_mem_singleton.mpr ⟨by decide, ⟨by decide, Or.inl rfl, rfl⟩⟩,
      List.forall_mem_singleton.mpr id⟩⟩

/-- The answer to request 5. -/
def response : MeshPacket :=
  { MeshPacket.zero with variant := .decoded { Data.zero with portnum := 3, requestId := 5 } }

/-- The request that a response answers comes back as a reply. -/
theorem response_not_faithful : response.InDomain ∧ ¬ Faithful [response] [] := by
  refine ⟨⟨by decide, by decide, by decide, by decide⟩, fun h => ?_⟩
  obtain ⟨e, he, hsame⟩ := h.cached response (List.mem_singleton_self _)
  cases he
  exact absurd hsame.variant.requestId (by decide)

end PacketCache
end MonsterMesh
