import MonsterMesh.Gym.Ladders
import MonsterMesh.Lib.Walk

/-! Who becomes the leader: the wins behind a promotion, over any sequence of battle packets. -/
namespace MonsterMesh

open Gauntlet

/-- A battle packet as it comes in; `out` is what the reply buffer holds before it is filled. -/
structure Received where
  env : GymEnv
  fromId : UInt32
  packet : Packet
  out : Gen1Party

def Received.event (r : Received) : GymEvent := .battle r.fromId r.packet r.out

/-- A gym with the times of each node's wins since its last loss, promotion or removal from the ring,
newest first. -/
structure WatchedLadders where
  gym : Gauntlet
  wins : UInt32 → List ℕ

namespace WatchedLadders

def step (w : WatchedLadders) (r : Received) : WatchedLadders where
  gym := w.gym.step r.env r.event
  wins :=
    let left (x : UInt32) : List ℕ :=
      if w.gym.Enrolled x ∧ ¬(w.gym.step r.env r.event).Enrolled x then [] else w.wins x
    match r.event.result with
    | none => left
    | some (_, won) =>
      Function.update left r.fromId
        (if won && !w.gym.promotes r.env r.fromId won then r.env.now :: left r.fromId else [])

/-- A gym after a boot. -/
def booted (env : GymEnv) (g : Gauntlet) : WatchedLadders := ⟨g.boot env, fun _ => []⟩

/-- Each time at most `LADDER_IDLE_MS` after the one before it. -/
def Prompt (times : List ℕ) : Prop :=
  times.IsChain fun later earlier => later ≤ earlier + ladderIdleMs.toNat

/-- The ring has an entry with progress that has been idle for too long. -/
def Stale (w : WatchedLadders) (env : GymEnv) : Prop :=
  ∃ i, (w.gym.ladders i).nodeNum ≠ 0 ∧ (w.gym.ladders i).ladderIdx ≠ 0 ∧
    ladderIdleMs < env.millis - (w.gym.ladders i).lastSeenMs

/-- No win of node 0, no win long after the win before it, and no newcomer's result while an entry
with progress is idle. -/
structure InTime (w : WatchedLadders) (r : Received) : Prop where
  numbered : r.event.result ≠ some (0, true)
  prompt : r.event.result = some (r.fromId, true) →
    ∀ t ∈ (w.wins r.fromId).head?, r.env.now ≤ t + ladderIdleMs.toNat
  active : r.event.result ≠ none → w.gym.Enrolled r.fromId ∨ ¬w.Stale r.env

/-- How far a node has got. -/
def progress (w : WatchedLadders) (x : UInt32) : ℕ :=
  ((w.gym.lookupLadder x).map fun i => (w.gym.ladders i).ladderIdx.toNat).getD 0

/-- A leader made by the packet is its sender, behind four wins in a row. -/
def LeaderEarned (w : WatchedLadders) (r : Received) : Prop :=
  (w.step r).gym.state.leader ≠ w.gym.state.leader →
    r.event.result = some (r.fromId, true) ∧ (w.step r).gym.state.leader.nodeNum = r.fromId ∧
      (w.wins r.fromId).length = 4 ∧ Prompt (r.env.now :: w.wins r.fromId)

/-- A result leaves the progress of the other nodes, but for one it evicts from a full ring. -/
def OthersKept (w : WatchedLadders) (r : Received) : Prop :=
  r.event.result ≠ none → ∀ x ≠ r.fromId, (w.step r).progress x = w.progress x ∨
    ((∀ i, (w.gym.ladders i).nodeNum ≠ 0) ∧ ¬(w.step r).gym.Enrolled x)

/-! ### What the ring and the wins have to do with each other -/

/-- Every entry counts the wins of its node. -/
structure Tracked (w : WatchedLadders) : Prop where
  ring : w.gym.WellLaddered
  known : ∀ i, (w.gym.ladders i).nodeNum ≠ 0 →
    (w.wins (w.gym.ladders i).nodeNum).length = (w.gym.ladders i).ladderIdx.toNat
  unknown : ∀ x, ¬w.gym.Enrolled x → w.wins x = []

variable {w : WatchedLadders} {r : Received} {won : Bool}

theorem booted_ladders (env : GymEnv) (g : Gauntlet) : (g.boot env).ladders = fun _ => ⟨0, 0, 0⟩ := by
  unfold boot
  dsimp only
  split <;> rfl

theorem tracked_booted (env : GymEnv) (g : Gauntlet) : (booted env g).Tracked := by
  have hl : (booted env g).gym.ladders = fun _ => ⟨0, 0, 0⟩ := booted_ladders env g
  refine ⟨⟨fun i j hi => ?_, fun i => ?_⟩, fun i hi => ?_, fun x _ => rfl⟩
  · rw [hl] at hi
    exact absurd rfl hi
  · rw [hl]
    exact Nat.zero_le 4
  · rw [hl] at hi
    exact absurd rfl hi

/-- The times kept for the nodes the packet is not from. -/
def left (w : WatchedLadders) (g' : Gauntlet) (x : UInt32) : List ℕ :=
  if w.gym.Enrolled x ∧ ¬g'.Enrolled x then [] else w.wins x

theorem left_of_enrolled {g' : Gauntlet} {x : UInt32} (h : g'.Enrolled x) : w.left g' x = w.wins x :=
  if_neg fun hn => hn.2 h

theorem left_of_unknown {g' : Gauntlet} {x : UInt32} (hw : w.Tracked) (h : ¬g'.Enrolled x) :
    w.left g' x = [] := by
  unfold left
  split
  · rfl
  · rename_i hn
    exact hw.unknown x fun he => hn ⟨he, h⟩

theorem step_wins : (w.step r).wins =
    match r.event.result with
    | none => w.left (w.step r).gym
    | some (_, won) => Function.update (w.left (w.step r).gym) r.fromId
        (if won && !w.gym.promotes r.env r.fromId won then
          r.env.now :: w.left (w.step r).gym r.fromId else []) := rfl

section placed

variable {env : GymEnv} {fromId : UInt32} {i : Fin 8} {L : Fin 8 → GauntletLadderProgress}
  {idx k : UInt8} {t : UInt32}

/-- The entry a packet finds or makes counts the wins of its node. -/
theorem Tracked.wins_length (hw : w.Tracked) (hf : fromId ≠ 0)
    (hp : Placed w.gym env fromId i L idx) : (w.wins fromId).length = idx.toNat := by
  cases hp with
  | found h =>
    have hk := hw.known i (h ▸ hf)
    rwa [h] at hk
  | inserted h =>
    rw [hw.unknown _ h]
    rfl

/-- The ring and the wins stay together when one entry is written. -/
theorem Tracked.write {w' : WatchedLadders} (hw : w.Tracked) (hf : fromId ≠ 0)
    (hp : Placed w.gym env fromId i L idx)
    (hl : w'.gym.ladders = Function.update L i ⟨fromId, k, t⟩) (hk : k.toNat ≤ 4)
    (hself : (w'.wins fromId).length = k.toNat)
    (hother : ∀ x ≠ fromId, w'.wins x = w.left w'.gym x) : w'.Tracked := by
  have hself' : (w'.gym.ladders i).nodeNum = fromId := by rw [hl, Function.update_self]
  refine ⟨hp.wellLaddered hw.ring hf hk hl, fun j hj => ?_, fun x hx => ?_⟩
  · by_cases hji : j = i
    · rw [hji, hself', hself, hl, Function.update_self]
    · have hL : w'.gym.ladders j = L j := by rw [hl, Function.update_of_ne hji]
      have hne : (L j).nodeNum ≠ fromId := fun he => hji (hp.alone hw.ring hf he)
      have hsame := hp.other (hL ▸ hj)
      rw [hother _ (hL ▸ hne), left_of_enrolled ⟨j, rfl⟩, hL, hsame]
      exact hw.known j (hsame ▸ hL ▸ hj)
  · have hne : x ≠ fromId := fun he => hx ⟨i, he ▸ hself'⟩
    rw [hother x hne]
    exact left_of_unknown hw hx

/-- They do so too when no entry is. -/
theorem Tracked.still {w' : WatchedLadders} (hw : w.Tracked) (hl : w'.gym.ladders = w.gym.ladders)
    (hother : ∀ x ≠ 0, w'.wins x = w.left w'.gym x) (hzero : w'.wins 0 = [] ∨ w'.wins 0 = w.left w'.gym 0) :
    w'.Tracked := by
  have hring : w'.gym.WellLaddered := ⟨by rw [hl]; exact hw.ring.distinct, by rw [hl]; exact hw.ring.low⟩
  refine ⟨hring, fun j hj => ?_, fun x hx => ?_⟩
  · rw [hother _ hj, left_of_enrolled ⟨j, rfl⟩, hl]
    rw [hl] at hj
    exact hw.known j hj
  · by_cases hx₀ : x = 0
    · subst hx₀
      rcases hzero with h | h <;> rw [h]
      exact left_of_unknown hw hx
    · rw [hother x hx₀]
      exact left_of_unknown hw hx

end placed

theorem result_from {f : UInt32} (h : r.event.result = some (f, won)) : f = r.fromId := by
  change (if r.packet.type = bbsFightResult then _ else _) = _ at h
  split at h
  · obtain ⟨_, -, he⟩ := Option.map_eq_some_iff.mp h
    exact (Prod.mk.inj he).1.symm
  · cases h

/-- A win that does not promote is one below the leader. -/
theorem advance_toNat {g : Gauntlet} {env : GymEnv} {fromId : UInt32}
    (h : (won && !g.promotes env fromId won) = true) :
    (g.trainerOf env fromId + 1).toNat = (g.trainerOf env fromId).toNat + 1 ∧
      (g.trainerOf env fromId).toNat < 4 := by
  unfold promotes at h
  rw [Bool.and_eq_true_iff, Bool.not_and, Bool.not_not, Bool.or_eq_true_iff] at h
  obtain ⟨rfl, h⟩ := h
  have hlt : (g.trainerOf env fromId).toNat < 4 :=
    UInt8.lt_iff_toNat_lt.mp (of_decide_eq_true (h.resolve_left nofun))
  refine ⟨?_, hlt⟩
  rw [UInt8.toNat_add]
  change (_ + 1) % 256 = _
  omega

/-- What a packet does to the ring: nothing, or it writes the entry of its sender, whose trainer then
counts the wins the sender has left. -/
theorem step_ring (hw : w.Tracked) :
    ((w.step r).gym.ladders = w.gym.ladders ∧
      ((w.step r).wins = w.left (w.step r).gym ∨
        r.fromId = 0 ∧ (w.step r).wins = Function.update (w.left (w.step r).gym) 0 [])) ∨
    (r.fromId ≠ 0 ∧ ∃ i L k, Placed w.gym r.env r.fromId i L (w.gym.trainerOf r.env r.fromId) ∧
      (w.step r).gym.ladders = Function.update L i ⟨r.fromId, k, r.env.millis⟩ ∧ k.toNat ≤ 4 ∧
      ((w.step r).wins r.fromId).length = k.toNat ∧
      ∀ x ≠ r.fromId, (w.step r).wins x = w.left (w.step r).gym x) := by
  have hwrite (hf : r.fromId ≠ 0) {k : UInt8}
      (hl : (w.step r).gym.ladders = w.gym.movedLadders r.env r.fromId k) :
      ∃ i L, Placed w.gym r.env r.fromId i L (w.gym.trainerOf r.env r.fromId) ∧
        (w.step r).gym.ladders = Function.update L i ⟨r.fromId, k, r.env.millis⟩ ∧
        w.left (w.step r).gym r.fromId = w.wins r.fromId := by
    obtain ⟨i, L, hp, hm⟩ := placed w.gym r.env hf
    rw [hm] at hl
    exact ⟨i, L, hp, hl, left_of_enrolled ⟨i, by rw [hl, Function.update_self]⟩⟩
  have htrainer (hf : r.fromId ≠ 0) : (w.gym.trainerOf r.env r.fromId).toNat ≤ 4 ∧
      (w.wins r.fromId).length = (w.gym.trainerOf r.env r.fromId).toNat := by
    obtain ⟨i, L, hp, -⟩ := placed w.gym r.env hf
    exact ⟨hp.idx_low hw.ring, hw.wins_length hf hp⟩
  cases h : r.event.result with
  | none =>
    have hwins : (w.step r).wins = w.left (w.step r).gym := by rw [step_wins, h]
    rcases battle_quiet w.gym r.env h with hq | hq
    · exact .inl ⟨congrArg ladders hq, .inl hwins⟩
    · have hl : (w.step r).gym.ladders =
          w.gym.movedLadders r.env r.fromId (w.gym.trainerOf r.env r.fromId) := by
        change (w.gym.handleBattlePacket _ _ _ _).2.ladders = _
        rw [hq]
      by_cases hf : r.fromId = 0
      · rw [hf, placed_zero.2] at hl
        exact .inl ⟨hl, .inl hwins⟩
      · obtain ⟨i, L, hp, hl, hleft⟩ := hwrite hf hl
        refine .inr ⟨hf, i, L, _, hp, hl, (htrainer hf).1, ?_, fun x _ => by rw [hwins]⟩
        rw [hwins, hleft]
        exact (htrainer hf).2
  | some p =>
    obtain ⟨f, won⟩ := p
    obtain rfl := result_from h
    have hl := result_ladders w.gym r.env h
    have hwins : (w.step r).wins = Function.update (w.left (w.step r).gym) r.fromId
        (if won && !w.gym.promotes r.env r.fromId won then
          r.env.now :: w.left (w.step r).gym r.fromId else []) := by rw [step_wins, h]
    by_cases hf : r.fromId = 0
    · rw [hf, placed_zero.2] at hl
      refine .inl ⟨hl, .inr ⟨hf, ?_⟩⟩
      rw [hwins, hf, if_neg]
      unfold promotes
      rw [placed_zero.1]
      cases won <;> decide
    · obtain ⟨i, L, hp, hl, hleft⟩ := hwrite hf hl
      refine .inr ⟨hf, i, L, _, hp, hl, ?_, ?_, fun x hx => by rw [hwins, Function.update_of_ne hx]⟩
      · split
        · rename_i hadv
          have hup := advance_toNat hadv
          omega
        · exact Nat.zero_le 4
      · rw [hwins, Function.update_self]
        split
        · rename_i hadv
          rw [List.length_cons, hleft, (htrainer hf).2, (advance_toNat hadv).1]
        · rfl

theorem tracked_step (hw : w.Tracked) (r : Received) : (w.step r).Tracked := by
  rcases step_ring (r := r) hw with ⟨hl, h⟩ | ⟨hf, i, L, k, hp, hl, hk, hself, hother⟩
  · refine hw.still hl (fun x hx => ?_) ?_
    · rcases h with h | ⟨-, h⟩
      · rw [h]
      · rw [h, Function.update_of_ne hx]
    · rcases h with h | ⟨-, h⟩
      · exact .inr (by rw [h])
      · exact .inl (by rw [h, Function.update_self])
  · exact hw.write hf hp hl hk hself hother

/-! ### The wins in time -/

theorem prompt_left {g' : Gauntlet} {x : UInt32} (h : Prompt (w.wins x)) : Prompt (w.left g' x) := by
  unfold left
  split
  · exact List.IsChain.nil
  · exact h

theorem prompt_cons {now : ℕ} {times : List ℕ} (h : Prompt times)
    (hnow : ∀ t ∈ times.head?, now ≤ t + ladderIdleMs.toNat) : Prompt (now :: times) :=
  List.isChain_cons.mpr ⟨hnow, h⟩

theorem prompt_step (h : ∀ x, Prompt (w.wins x)) (hr : w.InTime r) (x : UInt32) :
    Prompt ((w.step r).wins x) := by
  rw [step_wins]
  cases he : r.event.result with
  | none => exact prompt_left (h x)
  | some p =>
    obtain ⟨f, won⟩ := p
    obtain rfl := result_from he
    dsimp only
    by_cases hx : x = r.fromId
    · rw [hx, Function.update_self]
      split
      · rename_i hadv
        obtain rfl : won = true := (Bool.and_eq_true_iff.mp hadv).1
        refine prompt_cons (prompt_left (h _)) fun t ht => hr.prompt he t ?_
        unfold left at ht
        split at ht
        · cases ht
        · exact ht
      · exact List.IsChain.nil
    · rw [Function.update_of_ne hx]
      exact prompt_left (h x)

/-! ### The leader, and the others -/

theorem leader_earned (hw : w.Tracked) (hp : ∀ x, Prompt (w.wins x)) (hr : w.InTime r) :
    w.LeaderEarned r := by
  intro hl
  cases he : r.event.result with
  | none =>
    refine absurd ?_ hl
    have hq := battle_quiet w.gym r.env he
    change (w.gym.handleBattlePacket _ _ _ _).2.state.leader = _
    rcases hq with hq | hq <;> rw [hq]
  | some p =>
    obtain ⟨f, won⟩ := p
    obtain rfl := result_from he
    obtain ⟨hpromotes, hnode⟩ := result_leader w.gym r.env he hl
    obtain ⟨rfl, hnot⟩ := Bool.and_eq_true_iff.mp hpromotes
    have hf : r.fromId ≠ 0 := fun h => hr.numbered (h ▸ he)
    obtain ⟨i, L, hplace, -⟩ := placed w.gym r.env hf
    have hlow := hplace.idx_low hw.ring
    have htop : ¬(w.gym.trainerOf r.env r.fromId).toNat < 4 := fun h =>
      absurd (UInt8.lt_iff_toNat_lt.mpr h) (by simpa using hnot)
    refine ⟨rfl, ?_, ?_, prompt_cons (hp _) (hr.prompt he)⟩
    · exact hnode.trans (if_neg hf)
    · rw [hw.wins_length hf hplace]
      omega

theorem progress_of_entry (hg : w.gym.WellLaddered) {x : UInt32} (hx : x ≠ 0) {i : Fin 8}
    (hi : (w.gym.ladders i).nodeNum = x) : w.progress x = (w.gym.ladders i).ladderIdx.toNat := by
  unfold progress
  rcases lookupLadder_cases (g := w.gym) hx with ⟨j, hl, hj⟩ | ⟨-, hn⟩
  · rw [hl, hg.distinct i j (hi ▸ hx) (hi.trans hj.symm)]
    rfl
  · exact absurd ⟨i, hi⟩ hn

theorem progress_of_none {x : UInt32} (hx : ¬w.gym.Enrolled x) : w.progress x = 0 := by
  unfold progress
  by_cases h : x = 0
  · subst h
    rfl
  · rcases lookupLadder_cases (g := w.gym) h with ⟨j, -, hj⟩ | ⟨hl, -⟩
    · exact absurd ⟨j, hj⟩ hx
    · rw [hl]
      rfl

theorem others_kept (hw : w.Tracked) (hr : w.InTime r) : w.OthersKept r := by
  intro he x hx
  have hw' : (w.step r).Tracked := tracked_step hw r
  by_cases hx₀ : x = 0
  · left
    rw [hx₀]
    unfold progress lookupLadder
    rfl
  rcases step_ring (r := r) hw with ⟨hl, -⟩ | ⟨-, i, L, k, hp, hl, -, -, -⟩
  · left
    unfold progress lookupLadder
    rw [hl]
  -- an entry of `x` after the packet is one from before it
  have hback {j : Fin 8} (hj : ((w.step r).gym.ladders j).nodeNum = x) :
      j ≠ i ∧ (w.step r).gym.ladders j = w.gym.ladders j := by
    have hji : j ≠ i := by
      rintro rfl
      rw [hl, Function.update_self] at hj
      exact hx hj.symm
    refine ⟨hji, ?_⟩
    rw [hl, Function.update_of_ne hji] at hj ⊢
    exact hp.other (hj ▸ hx₀)
  by_cases hbefore : w.gym.Enrolled x
  · obtain ⟨j, hj⟩ := hbefore
    by_cases hafter : (w.step r).gym.Enrolled x
    · obtain ⟨j', hj'⟩ := hafter
      left
      rw [progress_of_entry hw'.ring hx₀ hj', progress_of_entry hw.ring hx₀ hj, (hback hj').2]
      rw [(hback hj').2] at hj'
      rw [hw.ring.distinct j j' (hj ▸ hx₀) (hj.trans hj'.symm)]
    · generalize w.gym.trainerOf r.env r.fromId = idx at hp
      cases hp with
      | found h =>
        have hji : j ≠ i := by
          rintro rfl
          exact hx (hj.symm.trans h)
        exact absurd ⟨j, by rw [hl, Function.update_of_ne hji]; exact hj⟩ hafter
      | inserted hnew hfull =>
        have hfresh := (hr.active he).resolve_left hnew
        rcases expire_cases w.gym r.env j with hsame | ⟨-, hidle, -, -⟩
        · right
          refine ⟨fun m hm => ?_, hafter⟩
          have hji : j = i := by
            by_contra hji
            exact hafter ⟨j, by rw [hl, Function.update_of_ne hji, hsame]; exact hj⟩
          subst hji
          rcases hfull with hfree | hfull
          · rw [hsame, hj] at hfree
            exact hx₀ hfree
          · rcases expire_cases w.gym r.env m with hm' | ⟨hm', -, -, -⟩
            · exact hfull m (hm' ▸ hm)
            · exact hm' hm
        · left
          rw [progress_of_none hafter, progress_of_entry hw.ring hx₀ hj]
          by_contra hne
          refine hfresh ⟨j, hj ▸ hx₀, fun hz => hne ?_, hidle⟩
          rw [hz]
          rfl
  · left
    rw [progress_of_none hbefore, progress_of_none]
    rintro ⟨j, hj⟩
    exact hbefore ⟨j, (hback hj).2 ▸ hj⟩

/-- Over any sequence of battle packets the ring stays in order; and while the wins of each node come
in time, a leader is made by five wins in a row, and no node loses its progress to another but by
eviction. -/
theorem leader_by_full_ladder (env : GymEnv) (g : Gauntlet) (l : List Received) :
    (Walk.run step (booted env g) l).gym.WellLaddered ∧
      (Walk.Along step InTime (booted env g) l → ∀ r, (Walk.run step (booted env g) l).InTime r →
        (Walk.run step (booted env g) l).LeaderEarned r ∧
          (Walk.run step (booted env g) l).OthersKept r) := by
  have htracked : (Walk.run step (booted env g) l).Tracked :=
    Walk.run_keeps (fun w r hw => tracked_step hw r) (tracked_booted env g)
  refine ⟨htracked.ring, fun hl r hr => ?_⟩
  have hnone (x : UInt32) : Prompt ((booted env g).wins x) := List.IsChain.nil
  have hprompt := Walk.run_invariant (fun w r hw hc => prompt_step (w := w) (r := r) hw hc) hnone hl
  exact ⟨leader_earned htracked hprompt hr, others_kept htracked hr⟩

/-- A win that node 7 reports at the given time. -/
def winAt (now : ℕ) : Received :=
  ⟨.plain now, 7, ⟨bbsFightResult, 0, 0, [1, 0]⟩, .zero⟩

instance (w : WatchedLadders) (env : GymEnv) : Decidable (w.Stale env) :=
  Fintype.decidableExistsFintype

instance (w : WatchedLadders) (r : Received) : Decidable (w.InTime r) :=
  decidable_of_iff (r.event.result ≠ some (0, true) ∧
      (r.event.result = some (r.fromId, true) →
        ∀ t ∈ (w.wins r.fromId).head?, r.env.now ≤ t + ladderIdleMs.toNat) ∧
      (r.event.result ≠ none → w.gym.Enrolled r.fromId ∨ ¬w.Stale r.env))
    ⟨fun h => ⟨h.1, h.2.1, h.2.2⟩, fun h => ⟨h.numbered, h.prompt, h.active⟩⟩

/-- Five wins a minute apart make node 7 the leader. -/
theorem leader_by_full_ladder_fiveWins :
    let w := Walk.run step (booted (.plain 0) (blank (.plain 0)))
      [winAt 60000, winAt 120000, winAt 180000, winAt 240000]
    w.LeaderEarned (winAt 300000) ∧ w.OthersKept (winAt 300000) :=
  (leader_by_full_ladder _ _ _).2 (by decide +kernel) _ (by decide +kernel)

/-- Node 7 is silent for two hours behind its first win, and is the leader four wins later. -/
theorem silence_not_reset : ¬(Walk.run step
    (booted (.plain 0) (blank (.plain 0)))
      [winAt 60000, winAt 7260000, winAt 7320000, winAt 7380000]).LeaderEarned (winAt 7440000) := by
  intro h
  have hled := h fun he => absurd (congrArg GauntletTrainer.nodeNum he) (by decide +kernel)
  have hwins : (Walk.run step
      (booted (.plain 0) (blank (.plain 0)))
      [winAt 60000, winAt 7260000, winAt 7320000, winAt 7380000]).wins 7 =
        [7380000, 7320000, 7260000, 60000] := by decide +kernel
  have hchain := hled.2.2.2
  change Prompt (7440000 :: wins _ 7) at hchain
  rw [hwins] at hchain
  exact absurd hchain (by unfold Prompt; decide)

end WatchedLadders
end MonsterMesh
