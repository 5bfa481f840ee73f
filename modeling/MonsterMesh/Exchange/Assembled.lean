import MonsterMesh.Exchange.Receivers

/-! What the receivers put together is the party of the session. -/
namespace MonsterMesh

open Chunks

/-- The bytes of a `Gen1Party`. -/
structure PartyImage where
  bytes : List UInt8
  length_eq : bytes.length = sizeofGen1Party

/-- The chunks of `size` a party is sent in. -/
def parts (size : ℕ) : ℕ := (sizeofGen1Party + size - 1) / size

/-- The chunk is one of those the party is sent in. -/
def Chunk.IsOf (size : ℕ) (p : PartyImage) (c : Chunk) : Prop :=
  c.partTotal = UInt8.ofNat (parts size) ∧ c.data = part size p.bytes c.partIdx.toNat

instance (size : ℕ) (p : PartyImage) (c : Chunk) : Decidable (c.IsOf size p) :=
  inferInstanceAs (Decidable (_ ∧ _))

/-- Chunk `i` as it is sent. -/
def chunkPayload (size : ℕ) (p : PartyImage) (i : ℕ) : List UInt8 :=
  UInt8.ofNat i :: UInt8.ofNat (parts size) :: part size p.bytes i

namespace Assembly

variable {size cap : ℕ} {p : PartyImage} {a : Assembly} {c : Chunk}

/-- What has come is of the party. -/
def Of (size : ℕ) (p : PartyImage) (a : Assembly) : Prop :=
  ∀ i, has a.mask i = true → Holds size p.bytes a.cells i

theorem of_mask (h : a.mask = 0) : a.Of size p := by
  intro i hi
  rw [h, has_zero] at hi
  cases hi

theorem fits_idx (hf : c.Fits size cap) : c.partIdx.toNat < 8 := by
  obtain ⟨-, htotal, hidx, -⟩ := hf
  have ht : c.partTotal.toNat ≤ 8 := UInt8.le_iff_toNat_le.mp htotal
  have hi : c.partIdx.toNat < c.partTotal.toNat := UInt8.lt_iff_toNat_lt.mp hidx
  omega

theorem Of.add (h : a.Of size p) (hf : c.Fits size cap) (hc : c.IsOf size p) :
    (a.add size c).Of size p := by
  intro j hj
  change has (a.mask ||| (1 <<< c.partIdx)) j = true at hj
  rw [has_set (fits_idx hf), Bool.or_eq_true, decide_eq_true_eq] at hj
  change Holds size p.bytes (put a.cells (c.partIdx.toNat * size) c.data) j
  rw [hc.2]
  by_cases hji : j = c.partIdx.toNat
  · subst hji
    exact holds_put
  · exact (h j (hj.resolve_right hji)).put hji part_length

theorem Of.party (h : (a.add size c).Of size p) (hsize : 0 < size) (hparts : parts size ≤ 8)
    (hc : c.IsOf size p) (hfull : (a.add size c).Full) : (a.add size c).party = p.bytes := by
  have htotal : (a.add size c).total.toNat = parts size := by
    change c.partTotal.toNat = _
    rw [hc.1, UInt8.toNat_ofNat']
    omega
  have hcover : sizeofGen1Party ≤ parts size * size := by
    have hdiv := Nat.div_add_mod (sizeofGen1Party + size - 1) size
    have hmod := Nat.mod_lt (sizeofGen1Party + size - 1) hsize
    have hcomm : parts size * size = size * ((sizeofGen1Party + size - 1) / size) := Nat.mul_comm ..
    omega
  have hhas : ∀ i < parts size, has (a.add size c).mask i = true := by
    intro i hi
    rw [← htotal] at hi hparts
    exact has_of_full hparts hfull hi
  unfold Assembly.party
  rw [← p.length_eq]
  refine contents_of_holds (fun i hi => h i (hhas i hi)) ?_
  rw [p.length_eq]
  exact hcover

end Assembly

/-! ### The peer's party -/

namespace Mmb

variable {sent : ℕ → PartyImage} {s : Mmb} {e : MmbEvent}

/-- What a chunk that is taken in a session meets. -/
def Takes (ok : ℕ → Chunk → Prop) (s : Mmb) : MmbEvent → Prop
  | .chunk sender _ payload hasParty =>
    let s := s.selfArm arm sender hasParty
    ∀ c ∈ s.accepted sender payload, ok s.sessions c
  | _ => True

instance (ok : ℕ → Chunk → Prop) [∀ k c, Decidable (ok k c)] (s : Mmb) (e : MmbEvent) :
    Decidable (s.Takes ok e) := by
  unfold Takes
  split <;> infer_instance

/-- A chunk that is taken is one of the party sent for the session. -/
def InSession (sent : ℕ → PartyImage) (k : ℕ) (c : Chunk) : Prop := c.IsOf mmbChunk (sent k)

instance (sent : ℕ → PartyImage) (k : ℕ) (c : Chunk) : Decidable (InSession sent k c) :=
  inferInstanceAs (Decidable (c.IsOf mmbChunk (sent k)))

/-- Outside an exchange nothing is collected, what has been collected is the session's, and so is
what has been put together. -/
structure Whole (sent : ℕ → PartyImage) (s : Mmb) : Prop where
  idle : s.rxFrom = 0 → s.quiet = true → s.chunks.mask = 0
  collected : s.chunks.Of mmbChunk (sent s.sessions)
  assembled : ∀ p ∈ s.assembled, p.2 = (sent p.1).bytes

theorem whole_init : Whole sent init where
  idle _ _ := rfl
  collected := Assembly.of_mask rfl
  assembled := nofun

/-- Whatever clears the mask keeps what has been put together. -/
theorem Whole.cleared {t : Mmb} (h : Whole sent s) (hmask : t.chunks.mask = 0)
    (hkeep : t.assembled = s.assembled) : Whole sent t where
  idle _ _ := hmask
  collected := Assembly.of_mask hmask
  assembled := hkeep ▸ h.assembled

/-- Whatever leaves the exchange alone and does not come to rest. -/
theorem Whole.kept {t : Mmb} (h : Whole sent s) (hidle : t.rxFrom = 0 → t.quiet = true →
      s.rxFrom = 0 ∧ s.quiet = true)
    (hchunks : t.chunks = s.chunks) (hsessions : t.sessions = s.sessions)
    (hkeep : t.assembled = s.assembled) : Whole sent t where
  idle hrx hq := hchunks ▸ h.idle (hidle hrx hq).1 (hidle hrx hq).2
  collected := by
    rw [hchunks, hsessions]
    exact h.collected
  assembled := hkeep ▸ h.assembled

section Arming

variable {sender : UInt32} {hasParty : Bool} {begun : Mmb → UInt32 → Mmb}

/-- A receiver at rest has nothing collected, so that no arming need clear it. -/
theorem Whole.selfArm (hmask : ∀ s : Mmb, s.chunks.mask = 0 → (begun s sender).chunks.mask = 0)
    (hkeep : ∀ s : Mmb, (begun s sender).assembled = s.assembled) (h : Whole sent s) :
    Whole sent (s.selfArm begun sender hasParty) := by
  have hreceiver : Whole sent (s.armReceiver begun sender) := by
    unfold armReceiver
    split
    · rename_i hc
      exact h.cleared (hmask s (h.idle hc.1 hc.2.2)) (hkeep s)
    · exact h
  unfold Mmb.selfArm armInitiator
  split
  · rename_i hc
    exact hreceiver.cleared (hmask _ (hreceiver.idle hc.1 hc.2.2.1)) (hkeep _)
  · exact hreceiver

/-- A receiver that takes chunks and has not been armed is not at rest. -/
theorem selfArm_expects (hx : (s.selfArm Mmb.arm sender hasParty).Expects sender)
    (hrx : (s.selfArm Mmb.arm sender hasParty).rxFrom = 0) :
    (s.selfArm Mmb.arm sender hasParty).quiet = false := by
  have hnonzero : ∀ {t : Mmb}, t.Expects sender → t.rxFrom = 0 → sender ≠ 0 ∧ t.challenger = sender := by
    intro t ht h0
    rcases ht with ⟨hne, -⟩ | ⟨hne, hfrom⟩
    · exact absurd h0 hne
    · exact ⟨hfrom ▸ hne, hfrom.symm⟩
  obtain ⟨hsender, hchallenger⟩ := hnonzero hx hrx
  by_cases hfirst : s.rxFrom = 0 ∧ s.challenger = sender ∧ s.quiet
  · have ht : (s.armReceiver Mmb.arm sender).rxFrom = sender := by
      unfold armReceiver
      rw [if_pos hfirst]
      rfl
    have hkept : s.selfArm Mmb.arm sender hasParty = s.armReceiver Mmb.arm sender := by
      unfold Mmb.selfArm armInitiator
      exact if_neg fun hc => hsender (ht.symm.trans hc.1)
    rw [hkept, ht] at hrx
    exact absurd hrx hsender
  · have ht : s.armReceiver Mmb.arm sender = s := if_neg hfirst
    unfold Mmb.selfArm at hrx hchallenger ⊢
    rw [ht] at hrx hchallenger ⊢
    by_cases hsecond : s.rxFrom = 0 ∧ s.awaitingReply = sender ∧ s.quiet ∧ hasParty
    · unfold armInitiator at hrx
      rw [if_pos hsecond] at hrx
      exact absurd hrx hsender
    · have hkept : s.armInitiator Mmb.arm sender hasParty = s := if_neg hsecond
      rw [hkept] at hrx hchallenger ⊢
      exact Bool.eq_false_iff.mpr fun hq => hfirst ⟨hrx, hchallenger, hq⟩

end Arming

theorem accepted_eq_some {sender : UInt32} {payload : List UInt8} {c : Chunk}
    (h : s.accepted sender payload = some c) :
    s.Expects sender ∧ c.Fits mmbChunk mmbPartyChunksBytes := by
  unfold accepted at h
  split at h
  · rename_i hx
    exact ⟨hx, by simpa using (Option.filter_eq_some_iff.mp h).2⟩
  · cases h

theorem Whole.takeChunk {c : Chunk} (h : Whole sent s) (hf : c.Fits mmbChunk mmbPartyChunksBytes)
    (hc : c.IsOf mmbChunk (sent s.sessions)) (hbusy : s.rxFrom = 0 → s.quiet = false) :
    Whole sent (s.takeChunk c) := by
  have hof := h.collected.add hf hc
  unfold Mmb.takeChunk
  dsimp only
  split
  · rename_i hfull
    refine ⟨fun _ _ => rfl, Assembly.of_mask rfl, ?_⟩
    intro p hp
    rcases List.mem_cons.mp hp with rfl | hp
    · exact hof.party (by decide) (by decide) hc hfull
    · exact h.assembled p hp
  · refine ⟨?_, hof, h.assembled⟩
    intro hrx hq
    rw [show s.quiet = true from hq] at hbusy
    cases hbusy hrx

theorem Whole.step (h : Whole sent s) (hc : s.Takes (InSession sent) e) : Whole sent (s.step e) := by
  cases e with
  | battleOpened => exact h.kept (fun _ hq => by cases hq) rfl rfl rfl
  | challengeDm sender =>
    dsimp only [Mmb.step]
    split
    · exact h.kept (fun hrx hq => ⟨hrx, hq⟩) rfl rfl rfl
    · exact h
  | challenge peer =>
    dsimp only [Mmb.step]
    unfold onChallenge
    dsimp only
    split
    · exact h.cleared rfl rfl
    · exact h.kept (fun hrx hq => ⟨hrx, hq⟩) rfl rfl rfl
  | reply sender yes =>
    dsimp only [Mmb.step]
    unfold onReply
    split
    · split
      · exact h.cleared rfl rfl
      · exact h.kept (fun hrx hq => ⟨hrx, hq⟩) rfl rfl rfl
    · exact h
  | replyDrained hasParty =>
    dsimp only [Mmb.step]
    unfold onReplyDrained
    split
    · split
      · refine h.kept (fun _ hq => ?_) rfl rfl rfl
        simp [Mmb.quiet] at hq
      · exact h.kept (fun hrx hq => ⟨hrx, hq⟩) rfl rfl rfl
    · exact h
  | localYes expired =>
    dsimp only [Mmb.step]
    unfold onLocalYReply
    split
    · exact h
    · exact h.cleared rfl rfl
  | start sender stale =>
    dsimp only [Mmb.step]
    unfold onStart
    split
    · exact h
    · split
      · exact h.cleared rfl rfl
      · split
        · exact h.cleared rfl rfl
        · exact h
  | partyMin sender party hasParty =>
    dsimp only [Mmb.step]
    have harmed : Whole sent (s.selfArm armMin sender hasParty) :=
      h.selfArm (fun _ hm => hm) fun _ => rfl
    unfold onPartyMin
    dsimp only
    split
    · split
      · exact harmed.cleared rfl rfl
      · exact harmed
    · exact harmed
  | chunk sender session payload hasParty =>
    dsimp only [Mmb.step]
    have harmed : Whole sent (s.selfArm Mmb.arm sender hasParty) :=
      h.selfArm (fun _ _ => rfl) fun _ => rfl
    unfold onChunk
    dsimp only
    split
    · rename_i c htaken
      obtain ⟨hx, hf⟩ := accepted_eq_some htaken
      exact harmed.takeChunk hf (hc c htaken) fun hrx => selfArm_expects hx hrx
    · exact harmed
  | txGivenUp => exact h.kept (fun hrx hq => ⟨hrx, hq⟩) rfl rfl rfl
  | janitor stale =>
    dsimp only [Mmb.step]
    unfold onJanitor
    split
    · exact h.cleared rfl rfl
    · exact h
  | launch hasParty =>
    dsimp only [Mmb.step]
    unfold onLaunch
    split
    · exact h.cleared rfl rfl
    · exact h
  | battleEnded => exact h.cleared rfl rfl

theorem Whole.run {es : List MmbEvent} (h : Walk.Along Mmb.step (Takes (InSession sent)) init es) :
    Whole sent (Walk.run Mmb.step init es) :=
  Walk.run_invariant (fun _ _ hs hc => hs.step hc) whole_init h

end Mmb

/-! ### The gym's party -/

namespace Bbs

variable {sent : ℕ → PartyImage} {s : Bbs} {e : BbsEvent}

/-- What a chunk that is taken for a request meets. -/
def Takes (ok : ℕ → Chunk → Prop) (s : Bbs) : BbsEvent → Prop
  | .chunk sender _ payload => ∀ c ∈ s.accepted sender payload, ok s.sessions c
  | _ => True

instance (ok : ℕ → Chunk → Prop) [∀ k c, Decidable (ok k c)] (s : Bbs) (e : BbsEvent) :
    Decidable (s.Takes ok e) := by
  unfold Takes
  split <;> infer_instance

/-- A chunk that is taken is one of the party sent for the request. -/
def InSession (sent : ℕ → PartyImage) (k : ℕ) (c : Chunk) : Prop := c.IsOf bbsChunk (sent k)

instance (sent : ℕ → PartyImage) (k : ℕ) (c : Chunk) : Decidable (InSession sent k c) :=
  inferInstanceAs (Decidable (c.IsOf bbsChunk (sent k)))

/-- A trainer yet to be asked for has nothing collected. -/
structure Whole (sent : ℕ → PartyImage) (s : Bbs) : Prop where
  pending : s.requestPending = true → s.awaitParty = false ∧ s.chunks.mask = 0
  collected : s.chunks.Of bbsChunk (sent s.sessions)
  assembled : ∀ p ∈ s.assembled, p.2 = (sent p.1).bytes

theorem whole_init : Whole sent init where
  pending := nofun
  collected := Assembly.of_mask rfl
  assembled := nofun

theorem accepted_eq_some {sender : UInt32} {payload : List UInt8} {c : Chunk}
    (h : s.accepted sender payload = some c) :
    s.awaitParty = true ∧ c.Fits bbsChunk bbsPartyChunksBytes := by
  unfold accepted at h
  split at h
  · rename_i hx
    exact ⟨hx.1, by simpa using (Option.filter_eq_some_iff.mp h).2⟩
  · cases h

theorem Whole.takeChunk {c : Chunk} (h : Whole sent s) (hf : c.Fits bbsChunk bbsPartyChunksBytes)
    (hc : c.IsOf bbsChunk (sent s.sessions)) (hawait : s.awaitParty = true) :
    Whole sent (s.takeChunk c) := by
  have hof := h.collected.add hf hc
  have hrequest : s.requestPending = true → False := by
    intro hp
    rw [(h.pending hp).1] at hawait
    cases hawait
  unfold Bbs.takeChunk
  dsimp only
  split
  · rename_i hfull
    refine ⟨fun hp => (hrequest hp).elim, hof, ?_⟩
    intro p hp
    rcases List.mem_cons.mp hp with rfl | hp
    · exact hof.party (by decide) (by decide) hc hfull
    · exact h.assembled p hp
  · exact ⟨fun hp => (hrequest hp).elim, hof, h.assembled⟩

theorem Whole.step (h : Whole sent s) (hc : s.Takes (InSession sent) e) : Whole sent (s.step e) := by
  cases e with
  | request gym =>
    dsimp only [Bbs.step]
    unfold onRequest
    split
    · exact h
    · exact ⟨nofun, Assembly.of_mask rfl, h.assembled⟩
  | chunk sender session payload =>
    dsimp only [Bbs.step]
    unfold onChunk
    split
    · rename_i c htaken
      obtain ⟨hawait, hf⟩ := accepted_eq_some htaken
      exact h.takeChunk hf (hc c htaken) hawait
    · exact h
  | started => exact ⟨h.pending, h.collected, h.assembled⟩
  | bulkStarted => exact ⟨h.pending, h.collected, h.assembled⟩
  | trainerBeaten => exact ⟨fun _ => ⟨rfl, rfl⟩, Assembly.of_mask rfl, h.assembled⟩
  | requestSent =>
    dsimp only [Bbs.step]
    unfold onRequestSent
    split
    · rename_i hsend
      exact ⟨nofun, Assembly.of_mask (h.pending hsend.1).2, h.assembled⟩
    · exact h
  | ended => exact ⟨fun _ => ⟨rfl, rfl⟩, Assembly.of_mask rfl, h.assembled⟩

theorem Whole.run {es : List BbsEvent} (h : Walk.Along Bbs.step (Takes (InSession sent)) init es) :
    Whole sent (Walk.run Bbs.step init es) :=
  Walk.run_invariant (fun _ _ hs hc => hs.step hc) whole_init h

end Bbs

/-! ### Both receivers -/

/-- A party all of whose bytes are `b`. -/
def PartyImage.plain (b : UInt8) : PartyImage :=
  ⟨List.replicate sizeofGen1Party b, List.length_replicate⟩

/-- While every chunk a receiver takes is one of the party sent for the session in progress, every
party it puts together is that party. -/
theorem assembled_whole (sent sent' : ℕ → PartyImage) {ms : List MmbEvent} {bs : List BbsEvent}
    (hm : Walk.Along Mmb.step (Mmb.Takes (Mmb.InSession sent)) .init ms)
    (hb : Walk.Along Bbs.step (Bbs.Takes (Bbs.InSession sent')) .init bs) :
    (∀ p ∈ (Walk.run Mmb.step .init ms).assembled, p.2 = (sent p.1).bytes) ∧
      ∀ p ∈ (Walk.run Bbs.step .init bs).assembled, p.2 = (sent' p.1).bytes :=
  ⟨(Mmb.Whole.run hm).assembled, (Bbs.Whole.run hb).assembled⟩

/-- The chunks in any order, one of them twice. -/
def mmbExchange (p : PartyImage) (sender : UInt32) : List MmbEvent :=
  .start sender false ::
    [4, 0, 2, 0, 3, 1].map fun i => .chunk sender 1 (chunkPayload mmbChunk p i) true

def bbsExchange (p : PartyImage) (gym : UInt32) : List BbsEvent :=
  .request gym :: [2, 0, 0, 1].map fun i => .chunk gym 1 (chunkPayload bbsChunk p i)

theorem assembled_whole_shuffled :
    (∀ p ∈ (Walk.run Mmb.step .init (mmbExchange (.plain 1) 9)).assembled,
      p.2 = (PartyImage.plain 1).bytes) ∧
      ∀ p ∈ (Walk.run Bbs.step .init (bbsExchange (.plain 2) 7)).assembled,
        p.2 = (PartyImage.plain 2).bytes :=
  assembled_whole (fun _ => .plain 1) (fun _ => .plain 2) (by decide +kernel) (by decide +kernel)

/-! ### A chunk that is left over -/

/-- A chunk of a party that was sent, for this session or for an earlier one. -/
def EverSent (size : ℕ) (sent : ℕ → PartyImage) (k : ℕ) (c : Chunk) : Prop :=
  ∃ j ≤ k, c.IsOf size (sent j)

instance (size : ℕ) (sent : ℕ → PartyImage) (k : ℕ) (c : Chunk) :
    Decidable (EverSent size sent k c) :=
  inferInstanceAs (Decidable (∃ j ≤ k, _))

/-- The party sent for session `k` has `k` in all its bytes. -/
def numbered (k : ℕ) : PartyImage := .plain (UInt8.ofNat k)

/-- The exchange of session 1 is given up by the janitor; its second chunk comes in session 2. -/
def mmbLate : List MmbEvent :=
  [.start 9 false, .janitor true, .start 9 false,
    .chunk 9 1 (chunkPayload mmbChunk (numbered 1) 1) true] ++
    [0, 2, 3, 4].map fun i => .chunk 9 2 (chunkPayload mmbChunk (numbered 2) i) true

/-- The fight of request 1 is over when its second chunk comes. -/
def bbsLate : List BbsEvent :=
  [.request 7, .bulkStarted, .ended, .request 7,
    .chunk 7 1 (chunkPayload bbsChunk (numbered 1) 1)] ++
    [0, 2].map fun i => .chunk 7 2 (chunkPayload bbsChunk (numbered 2) i)

/-- Two different bytes are never of one session's party. -/
theorem exists_unsent {l : List (ℕ × List UInt8)} {i j : ℕ}
    (h : (l.map fun p => (p.2[i]?, p.2[j]?)) = [(some 2, some 1)]) :
    ∃ p ∈ l, ∀ k, p.2 ≠ (numbered k).bytes := by
  have hmem : (some 2, some 1) ∈ l.map fun p => (p.2[i]?, p.2[j]?) := by
    rw [h]
    exact List.mem_singleton_self _
  obtain ⟨p, hp, hbytes⟩ := List.mem_map.mp hmem
  obtain ⟨hi, hj⟩ := Prod.mk.inj hbytes
  refine ⟨p, hp, ?_⟩
  intro k hk
  rw [hk] at hi hj
  have h2 : (2 : UInt8) = UInt8.ofNat k := List.eq_of_mem_replicate (List.mem_of_getElem? hi)
  have h1 : (1 : UInt8) = UInt8.ofNat k := List.eq_of_mem_replicate (List.mem_of_getElem? hj)
  exact absurd (h2.trans h1.symm) (by decide)

/-- With a chunk that was left over from the session before, both receivers put together a party
nobody sent. -/
theorem parties_mixed :
    Walk.Along Mmb.step (Mmb.Takes (EverSent mmbChunk numbered)) .init mmbLate ∧
      Walk.Along Bbs.step (Bbs.Takes (EverSent bbsChunk numbered)) .init bbsLate ∧
      (∃ p ∈ (Walk.run Mmb.step .init mmbLate).assembled, ∀ k, p.2 ≠ (numbered k).bytes) ∧
      ∃ p ∈ (Walk.run Bbs.step .init bbsLate).assembled, ∀ k, p.2 ≠ (numbered k).bytes := by
  refine ⟨by decide +kernel, by decide +kernel, ?_, ?_⟩
  · have hparties : ((Walk.run Mmb.step .init mmbLate).assembled.map
        fun p => (p.2[0]?, p.2[199]?)) = [(some 2, some 1)] := by decide +kernel
    exact exists_unsent hparties
  · have hparties : ((Walk.run Bbs.step .init bbsLate).assembled.map
        fun p => (p.2[0]?, p.2[199]?)) = [(some 2, some 1)] := by decide +kernel
    exact exists_unsent hparties

end MonsterMesh
