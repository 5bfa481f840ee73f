import MonsterMesh.Mesh.Channels

/-! One primary channel, true hashes and a key for every channel: when the channel table keeps them. -/
namespace MonsterMesh

open Fallible

namespace Channels

variable {c c' : Channels} {stack : ℕ} {i p q : Fin 8} {k : CryptoKey} {h : ℤ}

/-! ### Keys -/

/-- The key that a channel has by itself, unless it takes the primary's. -/
def ownKey (ch : Channel) : Option CryptoKey :=
  if ch.hasSettings = false ∨ ch.role = .disabled then some none
  else if ch.settings.psk = [] ∧ ch.role = .secondary then none
  else some (some (expandPsk ch.settings.psk))

theorem getKey_succ : c.getKey (stack + 1) i = match ownKey (c.channels i) with
    | some k => .ok k
    | none => c.getKey stack c.primaryIndex := by
  unfold ownKey
  rw [getKey]
  split_ifs <;> rfl

/-- A primary index that leads to a channel without a key of its own leads nowhere. -/
theorem getKey_endless (hown : ownKey (c.channels c.primaryIndex) = none) :
    c.getKey stack c.primaryIndex = .error .stackOverflow := by
  induction stack with
  | zero => rfl
  | succ stack ih => rw [getKey_succ, hown, ih]

/-- The key of channel `i` when `p` is taken for the primary one. -/
def keyUnder (t : Fin 8 → Channel) (p i : Fin 8) : Option CryptoKey :=
  match ownKey (t i) with
  | some k => some k
  | none => ownKey (t p)

theorem getKey_iff : c.getKey (stack + 2) i = .ok k ↔ keyUnder c.channels c.primaryIndex i = some k := by
  unfold keyUnder
  rw [getKey_succ]
  cases hi : ownKey (c.channels i) with
  | some k' =>
    dsimp only
    rw [Except.ok.injEq, Option.some.injEq]
  | none =>
    dsimp only
    cases hp : ownKey (c.channels c.primaryIndex) with
    | some k' =>
      rw [getKey_succ, hp]
      dsimp only
      rw [Except.ok.injEq, Option.some.injEq]
    | none =>
      rw [getKey_endless hp]
      exact ⟨fun he => (error_ne_ok he).elim, fun he => by cases he⟩

theorem keyUnder_congr {t t' : Fin 8 → Channel} (ht : ∀ j, ownKey (t j) = ownKey (t' j)) :
    keyUnder t p i = keyUnder t' p i := by
  unfold keyUnder
  rw [ht i, ht p]

/-- The hash of channel `i` when `p` is taken for the primary one. -/
def hashUnder (lora : LoraConfig) (t : Fin 8 → Channel) (p i : Fin 8) : Option ℤ :=
  (keyUnder t p i).map (hashOf ({ zero with lora := lora, channels := t }.getName i))

theorem generateHash_iff : c.generateHash (stack + 2) i = .ok h ↔
    hashUnder c.lora c.channels c.primaryIndex i = some h := by
  unfold generateHash hashUnder
  rw [map_eq_ok, Option.map_eq_some_iff]
  exact exists_congr fun k => and_congr_left fun _ => getKey_iff

/-- What the key adds to a hash. -/
def keyHash (k : CryptoKey) : Option UInt8 := k.map xorHash

theorem hashOf_eq_iff {name : Text.Str} {k k' : CryptoKey} :
    hashOf name k = hashOf name k' ↔ keyHash k = keyHash k' := by
  unfold hashOf keyHash
  cases k with
  | none =>
    cases k' with
    | none => exact ⟨fun _ => rfl, fun _ => rfl⟩
    | some b' => exact ⟨fun he => by dsimp only at he; omega, fun he => by cases he⟩
  | some b =>
    cases k' with
    | none => exact ⟨fun he => by dsimp only at he; omega, fun he => by cases he⟩
    | some b' =>
      dsimp only
      rw [Nat.cast_inj, UInt8.toNat_inj, UInt8.xor_right_inj, Option.map_some, Option.map_some,
        Option.some.injEq]

/-! ### The rounds of `onConfigChanged` -/

theorem fixed_own (ch : Channel) : ownKey (fixed i ch) = ownKey ch := by
  unfold fixed ownKey
  cases hs : ch.hasSettings with
  | true => rfl
  | false => rfl

theorem fixed_primary {ch : Channel} :
    (fixed i ch).role = .primary ↔ ch.hasSettings = true ∧ ch.role = .primary := by
  unfold fixed
  cases hs : ch.hasSettings with
  | true => exact ⟨fun hr => ⟨rfl, hr⟩, fun hr => hr.2⟩
  | false => exact ⟨fun hr => ChannelRole.noConfusion hr, fun hr => Bool.noConfusion hr.1⟩

/-- The table when every channel is fixed. -/
def fixedAll (t : Fin 8 → Channel) (i : Fin 8) : Channel := fixed i (t i)

/-- The hash of a channel that is fixed does not depend on which others are. -/
theorem hashUnder_congr {lora : LoraConfig} {t t' : Fin 8 → Channel}
    (ht : ∀ j, ownKey (t j) = ownKey (t' j)) (hi : t i = t' i) :
    hashUnder lora t p i = hashUnder lora t' p i := by
  unfold hashUnder getName
  dsimp only
  rw [keyUnder_congr ht, hi]

/-- The state after a round, for a channel whose hash is `h`. -/
def round (c : Channels) (i : Fin 8) (h : ℤ) : Channels := ((c.fixChannel i).setHash i h).notePrimary i

theorem onChannelChanged_iff : c.onChannelChanged (stack + 2) i = .ok c' ↔
    ∃ h, hashUnder c.lora (c.fixChannel i).channels c.primaryIndex i = some h ∧ c.round i h = c' := by
  unfold onChannelChanged fixupChannel
  rw [map_eq_ok]
  constructor
  · rintro ⟨c₁, hfix, rfl⟩
    obtain ⟨h, hgen, rfl⟩ := map_eq_ok.mp hfix
    exact ⟨h, generateHash_iff.mp hgen, rfl⟩
  · rintro ⟨h, hh, rfl⟩
    exact ⟨_, map_eq_ok.mpr ⟨h, generateHash_iff.mpr hh, rfl⟩, rfl⟩

theorem round_channels (c : Channels) (i : Fin 8) (h : ℤ) :
    (c.round i h).channels = Function.update c.channels i (fixed i (c.channels i)) := by
  unfold round notePrimary
  split_ifs <;> rfl

theorem round_hashes (c : Channels) (i : Fin 8) (h : ℤ) :
    (c.round i h).hashes = Function.update c.hashes i h := by
  unfold round notePrimary
  split_ifs <;> rfl

theorem round_lora (c : Channels) (i : Fin 8) (h : ℤ) : (c.round i h).lora = c.lora := by
  unfold round notePrimary
  split_ifs <;> rfl

theorem round_primaryIndex (c : Channels) (i : Fin 8) (h : ℤ) : (c.round i h).primaryIndex =
    if (fixed i (c.channels i)).role = .primary then i else c.primaryIndex := by
  have hself : ((c.fixChannel i).setHash i h).channels i = fixed i (c.channels i) :=
    Function.update_self ..
  unfold round notePrimary
  rw [hself]
  split_ifs <;> rfl

theorem round_own (c : Channels) (i j : Fin 8) (h : ℤ) :
    ownKey ((c.round i h).channels j) = ownKey (c.channels j) := by
  rw [round_channels]
  rcases eq_or_ne j i with rfl | hne
  · rw [Function.update_self, fixed_own]
  · rw [Function.update_of_ne hne]

/-- The primary index that the round of `i` finds, when `q` is the primary channel of the rounds `l`. -/
def primaryAt (l : List (Fin 8)) (p q i : Fin 8) : Fin 8 := if q ∈ l ∧ q < i then q else p

/-- Once the channel `a` is past, the rounds of `l` find what they found. -/
theorem primaryAt_cons {l : List (Fin 8)} {a : Fin 8} (ha : ∀ i ∈ l, a < i) (hi : i ∈ l) :
    primaryAt l (if a = q then a else p) q i = primaryAt (a :: l) p q i := by
  unfold primaryAt
  have hai := ha i hi
  by_cases haq : a = q
  · subst haq
    rw [if_pos rfl, ite_self, if_pos ⟨List.mem_cons_self .., hai⟩]
  · rw [if_neg haq]
    simp only [List.mem_cons, Ne.symm haq, false_or]

theorem primaryAt_head {l : List (Fin 8)} {a : Fin 8} (ha : ∀ i ∈ l, a < i) :
    primaryAt (a :: l) p q a = p := by
  unfold primaryAt
  refine if_neg ?_
  rintro ⟨hq, hqa⟩
  rcases List.mem_cons.mp hq with rfl | hq
  · exact lt_irrefl q hqa
  · exact lt_asymm hqa (ha q hq)

/-- What rounds over ascending channels leave, when `q` is the one that turns out primary. -/
structure Rounds (c : Channels) (l : List (Fin 8)) (q : Fin 8) (c' : Channels) : Prop where
  lora : c'.lora = c.lora
  primaryIndex : c'.primaryIndex = if q ∈ l then q else c.primaryIndex
  channels : ∀ i, c'.channels i = if i ∈ l then fixed i (c.channels i) else c.channels i
  hashes : ∀ i ∈ l, hashUnder c.lora (fixedAll c.channels) (primaryAt l c.primaryIndex q i) i =
    some (c'.hashes i)
  others : ∀ i, i ∉ l → c'.hashes i = c.hashes i

theorem fixChannel_own (c : Channels) (i j : Fin 8) :
    ownKey ((c.fixChannel i).channels j) = ownKey (fixedAll c.channels j) := by
  unfold fixChannel fixedAll
  rw [fixed_own]
  dsimp only
  rcases eq_or_ne j i with rfl | hne
  · rw [Function.update_self, fixed_own]
  · rw [Function.update_of_ne hne]

/-- The hash that a round computes is the one of the fixed table. -/
theorem hashUnder_fixChannel (c : Channels) (i : Fin 8) :
    hashUnder c.lora (c.fixChannel i).channels p i = hashUnder c.lora (fixedAll c.channels) p i :=
  hashUnder_congr (fixChannel_own c i) (Function.update_self ..)

theorem hashUnder_round {j : Fin 8} (hne : i ≠ j) :
    hashUnder (c.round j h).lora (fixedAll (c.round j h).channels) p i =
      hashUnder c.lora (fixedAll c.channels) p i := by
  rw [round_lora]
  refine hashUnder_congr (fun k => ?_) ?_
  · unfold fixedAll
    rw [fixed_own, fixed_own, round_own]
  · unfold fixedAll
    rw [round_channels, Function.update_of_ne hne]

theorem rounds_ok {l : List (Fin 8)} (hl : l.Pairwise (· < ·))
    (hq : ∀ i ∈ l, (fixed i (c.channels i)).role = .primary ↔ i = q)
    (hr : l.foldlM (fun c i => c.onChannelChanged (stack + 2) i) c = .ok c') : Rounds c l q c' := by
  induction l generalizing c with
  | nil =>
    rw [List.foldlM_nil] at hr
    cases hr
    exact ⟨rfl, rfl, fun _ => rfl, fun i hi => absurd hi List.not_mem_nil, fun _ _ => rfl⟩
  | cons a l ih =>
    obtain ⟨ha, hl⟩ := List.pairwise_cons.mp hl
    rw [List.foldlM_cons, bind_eq_ok] at hr
    obtain ⟨c₁, hround, hr⟩ := hr
    obtain ⟨h, hh, rfl⟩ := onChannelChanged_iff.mp hround
    have hne : ∀ i ∈ l, i ≠ a := fun i hi => ne_of_gt (ha i hi)
    have hsame : ∀ i ∈ l, (c.round a h).channels i = c.channels i := fun i hi => by
      rw [round_channels, Function.update_of_ne (hne i hi)]
    have hal : a ∉ l := fun hm => hne a hm rfl
    have hp : (c.round a h).primaryIndex = if a = q then a else c.primaryIndex := by
      rw [round_primaryIndex]
      simp only [hq a (List.mem_cons_self ..)]
    have hrest := ih hl (fun i hi => by rw [hsame i hi]; exact hq i (List.mem_cons_of_mem a hi)) hr
    refine ⟨hrest.lora.trans (round_lora ..), ?_, fun i => ?_, fun i hi => ?_, fun i hi => ?_⟩
    · rw [hrest.primaryIndex, hp]
      by_cases haq : a = q
      · subst haq
        rw [if_neg hal, if_pos rfl, if_pos (List.mem_cons_self ..)]
      · rw [if_neg haq]
        simp only [List.mem_cons, Ne.symm haq, false_or]
    · rw [hrest.channels i, round_channels]
      rcases eq_or_ne i a with rfl | hia
      · rw [if_neg hal, if_pos (List.mem_cons_self ..), Function.update_self]
      · rw [Function.update_of_ne hia]
        simp only [List.mem_cons, hia, false_or]
    · rcases List.mem_cons.mp hi with rfl | hi
      · rw [primaryAt_head ha, hrest.others i hal, round_hashes, Function.update_self,
          ← hashUnder_fixChannel]
        exact hh
      · rw [← hrest.hashes i hi, hashUnder_round (hne i hi), hp, primaryAt_cons ha hi]
    · rw [List.mem_cons, not_or] at hi
      rw [hrest.others i hi.2, round_hashes, Function.update_of_ne hi.1]

/-- The rounds go through if each finds a key. -/
theorem rounds_total {l : List (Fin 8)} (hl : l.Pairwise (· < ·))
    (hq : ∀ i ∈ l, (fixed i (c.channels i)).role = .primary ↔ i = q)
    (hk : ∀ i ∈ l, (keyUnder c.channels (primaryAt l c.primaryIndex q i) i).isSome) :
    ∃ c', l.foldlM (fun c i => c.onChannelChanged (stack + 2) i) c = .ok c' := by
  induction l generalizing c with
  | nil => exact ⟨c, rfl⟩
  | cons a l ih =>
    obtain ⟨ha, hl⟩ := List.pairwise_cons.mp hl
    have hkey := hk a (List.mem_cons_self ..)
    rw [primaryAt_head ha] at hkey
    obtain ⟨k, hkey⟩ := Option.isSome_iff_exists.mp hkey
    have hfix : keyUnder (c.fixChannel a).channels c.primaryIndex a = some k := by
      rw [← hkey]
      exact keyUnder_congr fun j => (fixChannel_own c a j).trans (fixed_own _)
    have hround := (@onChannelChanged_iff _ _ stack _).mpr ⟨_, by
      unfold hashUnder
      rw [hfix]
      rfl, rfl⟩
    rw [List.foldlM_cons, hround, bind_ok]
    have hne : ∀ i ∈ l, i ≠ a := fun i hi => ne_of_gt (ha i hi)
    refine ih hl (fun i hi => ?_) fun i hi => ?_
    · rw [round_channels, Function.update_of_ne (hne i hi)]
      exact hq i (List.mem_cons_of_mem a hi)
    · rw [@keyUnder_congr _ _ _ c.channels fun j => round_own .., round_primaryIndex]
      simp only [hq a (List.mem_cons_self ..)]
      rw [primaryAt_cons ha hi]
      exact hk i (List.mem_cons_of_mem a hi)

/-! ### The table before `onConfigChanged` -/

/-- Every channel knows its index, and at most one is primary. -/
structure Ordered (t : Fin 8 → Channel) : Prop where
  index : ∀ i, (t i).index = i
  unique : ∀ i j, (t i).role = .primary → (t j).role = .primary → i = j

/-- What `ensureLicensedOperation` makes of a channel. -/
def licensed (ch : Channel) : Channel :=
  if ch.hasSettings = false then ch
  else if isAdmin ch then { ch with role := .disabled, settings := { ch.settings with psk := [] } }
  else { ch with settings := { ch.settings with psk := [] } }

theorem licensed_index (ch : Channel) : (licensed ch).index = ch.index := by
  unfold licensed
  split_ifs <;> rfl

theorem licensed_primary {ch : Channel} : (licensed ch).role = .primary ↔
    ch.role = .primary ∧ ¬ (ch.hasSettings = true ∧ isAdmin ch = true) := by
  unfold licensed
  cases hs : ch.hasSettings with
  | false => exact ⟨fun hr => ⟨hr, fun ha => Bool.noConfusion ha.1⟩, fun hr => hr.1⟩
  | true =>
    cases ha : isAdmin ch with
    | true => exact ⟨fun hr => ChannelRole.noConfusion hr, fun hr => absurd ⟨rfl, rfl⟩ hr.2⟩
    | false => exact ⟨fun hr => ⟨hr, fun h => Bool.noConfusion h.2⟩, fun hr => hr.1⟩

theorem ordered_licensed {t : Fin 8 → Channel} (ht : Ordered t) (i : Fin 8) :
    Ordered (Function.update t i (licensed (t i))) := by
  have hrole : ∀ j, (Function.update t i (licensed (t i)) j).role = .primary → (t j).role = .primary := by
    intro j hj
    rcases eq_or_ne j i with rfl | hne
    · rw [Function.update_self] at hj
      exact (licensed_primary.mp hj).1
    · rwa [Function.update_of_ne hne] at hj
  refine ⟨fun j => ?_, fun j k hj hk => ht.unique j k (hrole j hj) (hrole k hk)⟩
  rcases eq_or_ne j i with rfl | hne
  · rw [Function.update_self, licensed_index, ht.index]
  · rw [Function.update_of_ne hne, ht.index]

/-- A channel that is set in its own place, in a table where no other is primary. -/
theorem setChannel_own {ch : Channel} (ht : Ordered c.channels) (hi : ch.index = i)
    (hr : ch.role = .primary → (c.channels i).role = .primary) :
    c.setChannel ch = { c with channels := Function.update c.channels i ch } := by
  unfold setChannel
  rw [hi]
  by_cases hp : ch.role = .primary
  · rw [if_pos hp]
    refine congrArg (fun t => { c with channels := t }) (funext fun j => ?_)
    rcases eq_or_ne j i with rfl | hne
    · rw [Function.update_self, Function.update_self]
    · rw [Function.update_of_ne hne, Function.update_of_ne hne]
      exact if_neg fun hj => hne (ht.unique j i hj (hr hp))
  · rw [if_neg hp]

theorem ensureLicensed_eq (ht : Ordered c.channels) (i : Fin 8) : c.ensureLicensed i =
    { c with channels := Function.update c.channels i (licensed (c.channels i)) } := by
  unfold ensureLicensed licensed
  dsimp only
  have hi := ht.index i
  split_ifs with hs ha hpsk
  · rw [Function.update_eq_self]
  · exact setChannel_own ht hi fun hr => ChannelRole.noConfusion hr
  · exact setChannel_own ht hi id
  · rw [not_not] at hpsk
    have hsame : { c.channels i with settings := { (c.channels i).settings with psk := [] } } =
        c.channels i := by
      rw [← hpsk]
    rw [hsame, Function.update_eq_self]

theorem ensureLicensed_fold {l : List (Fin 8)} (hl : l.Nodup) (ht : Ordered c.channels) :
    l.foldl ensureLicensed c =
      { c with channels := fun i => if i ∈ l then licensed (c.channels i) else c.channels i } := by
  induction l generalizing c with
  | nil => rfl
  | cons a l ih =>
    obtain ⟨ha, hl⟩ := List.nodup_cons.mp hl
    rw [List.foldl_cons, ensureLicensed_eq ht a, ih hl (ordered_licensed ht a)]
    refine congrArg (fun t => { c with channels := t }) (funext fun i => ?_)
    dsimp only
    rcases eq_or_ne i a with rfl | hne
    · rw [if_neg ha, if_pos (List.mem_cons_self ..), Function.update_self]
    · simp only [Function.update_of_ne hne, List.mem_cons, hne, false_or]

theorem ensureLicensedOperation_eq (ht : Ordered c.channels) : c.ensureLicensedOperation =
    { c with channels := fun i => licensed (c.channels i) } := by
  unfold ensureLicensedOperation
  rw [ensureLicensed_fold (List.nodup_finRange 8) ht]
  simp only [List.mem_finRange, if_true]

/-! ### The message -/

def licensedIf (isLicensed : Bool) (ch : Channel) : Channel := if isLicensed then licensed ch else ch

/-- What a message has `onConfigChanged` find as channel `i`. -/
def put (c : Channels) (r : SetChannel) (i : Fin 8) : Channel :=
  licensedIf r.isLicensed (if i = r.channel.index then r.channel
    else if r.role = .primary then demoted (c.channels i) else c.channels i)

/-- One primary channel, which the primary index names; hashes as they would be computed now; and a
key for every channel, which is the primary's for a secondary channel without one. -/
structure Sound (stack : ℕ) (c : Channels) : Prop where
  settled : ∀ i, (c.channels i).index = i ∧ (c.channels i).hasSettings = true
  primary : ∀ i, (c.channels i).role = .primary ↔ i = c.primaryIndex
  hashes : ∀ i, c.generateHash stack i = .ok (c.hashes i)
  keys : ∀ i, ∃ k, c.getKey stack i = .ok k ∧
    ((c.channels i).role = .secondary ∧ (c.channels i).settings.psk = [] →
      k = some (expandPsk (c.channels c.primaryIndex).settings.psk))

/-- The condition on a message: it leaves a primary channel, and where another channel becomes primary
the channels before it that take the primary's key find one with the same hash at the old index. -/
def Keeps (c : Channels) (r : SetChannel) : Prop :=
  r.index < 0 ∨ 8 ≤ r.index ∨
    if r.role = .primary then
      r.hasSettings = true ∧ ¬ (r.isLicensed = true ∧ isAdmin r.channel = true) ∧
        ∀ j < r.channel.index, ownKey (c.put r j) = none →
          (ownKey (c.put r c.primaryIndex)).map keyHash = (ownKey (c.put r r.channel.index)).map keyHash
    else r.channel.index ≠ c.primaryIndex ∧
      ¬ (r.isLicensed = true ∧ isAdmin (c.channels c.primaryIndex) = true)

/-! ### A message keeps the table sound exactly under its condition -/

theorem own_primary {ch : Channel} (hr : ch.role = .primary) (hs : ch.hasSettings = true) :
    ownKey ch = some (some (expandPsk ch.settings.psk)) := by
  unfold ownKey
  rw [hr, hs]
  simp

theorem own_eq_none {ch : Channel} (hs : ch.hasSettings = true) :
    ownKey ch = none ↔ ch.role = .secondary ∧ ch.settings.psk = [] := by
  unfold ownKey
  rw [hs]
  cases hr : ch.role <;> simp

theorem hashUnder_of_own {lora : LoraConfig} {t : Fin 8 → Channel} (hi : ownKey (t i) = some k) :
    hashUnder lora t p i = hashUnder lora t q i := by
  unfold hashUnder keyUnder
  rw [hi]

theorem hashUnder_eq_iff {lora : LoraConfig} {t : Fin 8 → Channel} (hi : ownKey (t i) = none) :
    hashUnder lora t p i = hashUnder lora t q i ↔
      (ownKey (t p)).map keyHash = (ownKey (t q)).map keyHash := by
  unfold hashUnder keyUnder
  rw [hi]
  dsimp only
  cases ownKey (t p) with
  | none => cases ownKey (t q) <;> exact ⟨fun he => by cases he <;> rfl, fun he => by cases he <;> rfl⟩
  | some k =>
    cases ownKey (t q) with
    | none => exact ⟨fun he => (by cases he), fun he => (by cases he)⟩
    | some k' =>
      rw [Option.map_some, Option.map_some, Option.map_some, Option.map_some, Option.some.injEq,
        Option.some.injEq]
      exact hashOf_eq_iff

theorem fixed_settled (i : Fin 8) (ch : Channel) :
    (fixed i ch).index = i ∧ (fixed i ch).hasSettings = true := by
  unfold fixed
  cases ch.hasSettings with
  | true => exact ⟨rfl, rfl⟩
  | false => exact ⟨rfl, rfl⟩

theorem sorted_finRange : (List.finRange 8).Pairwise (· < ·) := List.pairwise_lt_finRange 8

/-- With one channel that turns out primary, the table is sound afterwards exactly if the channels
before it are not misled by the old index. -/
theorem onConfigChanged_sound_iff (hq : ∀ i, (fixedAll c.channels i).role = .primary ↔ i = q) :
    Total (c.onConfigChanged (stack + 2)) (Sound (stack + 2)) ↔
      ∀ j < q, ownKey (c.channels j) = none →
        (ownKey (c.channels c.primaryIndex)).map keyHash = (ownKey (c.channels q)).map keyHash := by
  have hown : ∀ i, ownKey (fixedAll c.channels i) = ownKey (c.channels i) := fun i => fixed_own _
  have hprimary : (fixedAll c.channels q).role = .primary := (hq q).mpr rfl
  have hkq := own_primary hprimary (fixed_settled q _).2
  have hrounds : ∀ c', c.onConfigChanged (stack + 2) = .ok c' → Rounds c (List.finRange 8) q c' :=
    fun c' hok => rounds_ok sorted_finRange (fun i _ => hq i) hok
  have hat : ∀ i, primaryAt (List.finRange 8) c.primaryIndex q i =
      if q < i then q else c.primaryIndex := fun i => by
    unfold primaryAt
    simp only [List.mem_finRange, true_and]
  constructor
  · rintro ⟨c', hok, hs⟩ j hj hnone
    have hr := hrounds c' hok
    have htable : c'.channels = fixedAll c.channels := funext fun i => by
      rw [hr.channels i, if_pos (List.mem_finRange i)]
      rfl
    have hthen := hr.hashes j (List.mem_finRange j)
    rw [hat, if_neg (lt_asymm hj)] at hthen
    have hnow := generateHash_iff.mp (hs.hashes j)
    rw [hr.lora, htable, hr.primaryIndex, if_pos (List.mem_finRange q), ← hthen] at hnow
    have heq := (hashUnder_eq_iff ((hown j).trans hnone)).mp hnow.symm
    rwa [hown, hown] at heq
  · intro hcond
    have hnone : ∀ i, ownKey (c.channels i) = none → ¬ q < i →
        (ownKey (c.channels c.primaryIndex)).map keyHash = (ownKey (c.channels q)).map keyHash := by
      intro i hi hqi
      refine hcond i (lt_of_le_of_ne (not_lt.mp hqi) ?_) hi
      rintro rfl
      rw [hown, hi] at hkq
      cases hkq
    obtain ⟨c', hok⟩ := @rounds_total _ stack q _ sorted_finRange (fun i _ => hq i)
      fun i _ => by
        rw [hat]
        unfold keyUnder
        cases hi : ownKey (c.channels i) with
        | some k => rfl
        | none =>
          dsimp only
          rw [hown] at hkq
          split_ifs with hqi
          · rw [hkq]
            rfl
          · have heq := hnone i hi hqi
            rw [hkq] at heq
            obtain ⟨k, hk, _⟩ := Option.map_eq_some_iff.mp heq
            rw [hk]
            rfl
    have hr := hrounds c' hok
    have htable : c'.channels = fixedAll c.channels := funext fun i => by
      rw [hr.channels i, if_pos (List.mem_finRange i)]
      rfl
    have hindex : c'.primaryIndex = q := hr.primaryIndex.trans (if_pos (List.mem_finRange q))
    refine ⟨c', hok, fun i => ?_, fun i => ?_, fun i => ?_, fun i => ?_⟩
    · rw [htable]
      exact fixed_settled i _
    · rw [htable, hindex]
      exact hq i
    · rw [generateHash_iff, hr.lora, htable, hindex, ← hr.hashes i (List.mem_finRange i), hat]
      split_ifs with hqi
      · rfl
      · cases hi : ownKey (c.channels i) with
        | some k => exact hashUnder_of_own ((hown i).trans hi)
        | none =>
          refine ((hashUnder_eq_iff ((hown i).trans hi)).mpr ?_).symm
          rw [hown, hown]
          exact hnone i hi hqi
    · simp only [getKey_iff]
      rw [htable, hindex]
      unfold keyUnder
      cases hi : ownKey (fixedAll c.channels i) with
      | some k =>
        refine ⟨k, rfl, fun hdefer => ?_⟩
        exact absurd (((own_eq_none (fixed_settled i _).2).mpr hdefer).symm.trans hi).symm
          (Option.some_ne_none k)
      | none => exact ⟨_, hkq, fun _ => rfl⟩

theorem onConfigChanged_channels (hnone : ∀ i, (fixedAll c.channels i).role ≠ .primary)
    (hok : c.onConfigChanged (stack + 2) = .ok c') : ∀ i, (c'.channels i).role ≠ .primary := by
  intro i
  -- No round finds a primary channel: the index 0 is as good as any once it is left out.
  have hfold : ∀ (l : List (Fin 8)) (c : Channels), (∀ j, (c.channels j).role ≠ .primary ∨
      (j ∈ l ∧ (fixedAll c.channels j).role ≠ .primary)) →
      l.foldlM (fun c i => c.onChannelChanged (stack + 2) i) c = .ok c' →
        (c'.channels i).role ≠ .primary := by
    intro l
    induction l with
    | nil =>
      intro c h hr
      rw [List.foldlM_nil] at hr
      cases hr
      exact (h i).resolve_right fun hm => absurd hm.1 List.not_mem_nil
    | cons a l ih =>
      intro c h hr
      rw [List.foldlM_cons, bind_eq_ok] at hr
      obtain ⟨c₁, hround, hr⟩ := hr
      obtain ⟨hh, _, rfl⟩ := onChannelChanged_iff.mp hround
      refine ih _ (fun j => ?_) hr
      unfold fixedAll
      rw [round_channels]
      rcases eq_or_ne j a with rfl | hne
      · rw [Function.update_self]
        refine Or.inl fun hp => ?_
        rcases h j with hj | hj
        · exact hj (fixed_primary.mp hp).2
        · exact hj.2 hp
      · rw [Function.update_of_ne hne]
        exact (h j).imp_right fun hj => ⟨(List.mem_cons.mp hj.1).resolve_left hne, hj.2⟩
  exact hfold _ c (fun j => Or.inr ⟨List.mem_finRange j, hnone j⟩) hok

theorem setChannel_channels (r : SetChannel) (i : Fin 8) : (c.setChannel r.channel).channels i =
    if i = r.channel.index then r.channel
    else if r.role = .primary then demoted (c.channels i) else c.channels i := by
  unfold setChannel
  dsimp only
  rw [Function.update_apply]
  show (if i = r.channel.index then r.channel else
    (if r.role = .primary then fun i => demoted (c.channels i) else c.channels) i) = _
  split_ifs <;> rfl

theorem demoted_role (ch : Channel) : (demoted ch).role ≠ .primary := by
  unfold demoted
  split_ifs with h
  · exact fun hr => ChannelRole.noConfusion hr
  · exact h

theorem demoted_index (ch : Channel) : (demoted ch).index = ch.index := by
  unfold demoted
  split_ifs <;> rfl

theorem setChannel_ordered {r : SetChannel} (hs : c.Sound stack) :
    Ordered (c.setChannel r.channel).channels := by
  have hrole : ∀ i, ((c.setChannel r.channel).channels i).role = .primary →
      i = if r.role = .primary then r.channel.index else c.primaryIndex := by
    intro i hi
    rw [setChannel_channels] at hi
    by_cases hp : r.role = .primary
    · rw [if_pos hp]
      by_contra hidx
      rw [if_neg hidx, if_pos hp] at hi
      exact demoted_role _ hi
    · rw [if_neg hp]
      by_cases hidx : i = r.channel.index
      · rw [if_pos hidx] at hi
        exact absurd hi hp
      · rw [if_neg hidx, if_neg hp] at hi
        exact (hs.primary i).mp hi
  refine ⟨fun i => ?_, fun i j hi hj => (hrole i hi).trans (hrole j hj).symm⟩
  rw [setChannel_channels]
  split_ifs with hidx
  · exact hidx.symm
  · rw [demoted_index, (hs.settled i).1]
  · exact (hs.settled i).1

/-- `onConfigChanged` is called on the table that the message puts there. -/
theorem handleSetChannel_eq {r : SetChannel} (hs : c.Sound stack) :
    c.handleSetChannel stack r.isLicensed r.channel =
      { c with channels := c.put r }.onConfigChanged stack := by
  have hset : (c.setChannel r.channel) = { c with channels := (c.setChannel r.channel).channels } := rfl
  unfold handleSetChannel
  dsimp only
  refine congrArg (fun c' : Channels => c'.onConfigChanged stack) ?_
  unfold put licensedIf
  cases r.isLicensed with
  | true =>
    rw [if_pos rfl, ensureLicensedOperation_eq (setChannel_ordered hs)]
    simp only [setChannel_channels, if_true]
    rfl
  | false =>
    rw [if_neg Bool.false_ne_true, hset, funext (setChannel_channels r)]
    simp only [Bool.false_eq_true, if_false]

theorem licensedIf_primary {l : Bool} {ch : Channel} :
    ((licensedIf l ch).hasSettings = true ∧ (licensedIf l ch).role = .primary) ↔
      ch.role = .primary ∧ ch.hasSettings = true ∧ ¬ (l = true ∧ isAdmin ch = true) := by
  unfold licensedIf
  cases l with
  | false => simp [and_comm]
  | true =>
    rw [if_pos rfl, licensed_primary]
    unfold licensed
    cases hs : ch.hasSettings <;> cases ha : isAdmin ch <;> simp [hs]

theorem put_primary {r : SetChannel} (hs : c.Sound stack) (i : Fin 8) :
    (fixedAll (c.put r) i).role = .primary ↔
      if r.role = .primary then
        i = r.channel.index ∧ r.hasSettings = true ∧ ¬ (r.isLicensed = true ∧ isAdmin r.channel = true)
      else i = c.primaryIndex ∧ r.channel.index ≠ c.primaryIndex ∧
        ¬ (r.isLicensed = true ∧ isAdmin (c.channels c.primaryIndex) = true) := by
  unfold fixedAll put
  rw [fixed_primary, licensedIf_primary]
  by_cases hp : r.role = .primary
  · simp only [if_pos hp]
    by_cases hi : i = r.channel.index
    · simp only [if_pos hi]
      exact and_congr (iff_of_true hp hi) Iff.rfl
    · simp only [if_neg hi]
      exact iff_of_false (fun h => demoted_role _ h.1) fun h => hi h.1
  · simp only [if_neg hp]
    by_cases hi : i = r.channel.index
    · simp only [if_pos hi]
      exact iff_of_false (fun h => hp h.1) fun h => h.2.1 (hi.symm.trans h.1)
    · simp only [if_neg hi]
      rw [hs.primary i]
      constructor
      · rintro ⟨rfl, _, ha⟩
        exact ⟨rfl, fun he => hi he.symm, ha⟩
      · rintro ⟨rfl, _, ha⟩
        exact ⟨rfl, (hs.settled _).2, ha⟩

/-- A table that is left without a primary channel is not sound. -/
theorem unsound_of_none {r : SetChannel} (hnone : ∀ i, (fixedAll (c.put r) i).role ≠ .primary) :
    ¬ Total ({ c with channels := c.put r }.onConfigChanged (stack + 2)) (Sound (stack + 2)) := by
  rintro ⟨c', hok, hs⟩
  exact onConfigChanged_channels hnone hok _ ((hs.primary _).mpr rfl)

/-- A message keeps the table sound exactly under its condition. -/
theorem handleReceived_sound_iff {r : SetChannel} (hs : c.Sound (stack + 2)) :
    c.Keeps r ↔ Total (c.handleReceived (stack + 2) r) (Sound (stack + 2)) := by
  unfold handleReceived Keeps
  by_cases hidx : r.index < 0 ∨ 8 ≤ r.index
  · rw [if_pos hidx, ← or_assoc]
    exact iff_of_true (Or.inl hidx) (Total.ok hs)
  rw [if_neg hidx, ← or_assoc, or_iff_right hidx, handleSetChannel_eq hs]
  have hprimary := put_primary (r := r) hs
  by_cases hp : r.role = .primary
  · simp only [if_pos hp] at hprimary ⊢
    by_cases hok : r.hasSettings = true ∧ ¬ (r.isLicensed = true ∧ isAdmin r.channel = true)
    · rw [onConfigChanged_sound_iff fun i => (hprimary i).trans (and_iff_left hok)]
      exact ⟨fun h => h.2.2, fun h => ⟨hok.1, hok.2, h⟩⟩
    · exact iff_of_false (fun h => hok ⟨h.1, h.2.1⟩)
        (unsound_of_none fun i hi => hok ((hprimary i).mp hi).2)
  · simp only [if_neg hp] at hprimary ⊢
    by_cases hok : r.channel.index ≠ c.primaryIndex ∧
        ¬ (r.isLicensed = true ∧ isAdmin (c.channels c.primaryIndex) = true)
    · rw [onConfigChanged_sound_iff fun i => (hprimary i).trans (and_iff_left hok)]
      exact iff_of_true hok fun _ _ _ => rfl
    · exact iff_of_false hok (unsound_of_none fun i hi => hok ((hprimary i).mp hi).2)

/-! ### Runs -/

/-- Channels without settings are fixed without a key. -/
theorem blank_fold {l : List (Fin 8)} (hl : l.Nodup) (hb : ∀ i ∈ l, (c.channels i).hasSettings = false) :
    ∃ c', l.foldlM (fun c i => c.fixupChannel (stack + 1) i) c = .ok c' ∧
      ∀ i, c'.channels i = if i ∈ l then fixed i (c.channels i) else c.channels i := by
  induction l generalizing c with
  | nil => exact ⟨c, rfl, fun _ => rfl⟩
  | cons a l ih =>
    obtain ⟨ha, hl⟩ := List.nodup_cons.mp hl
    have hown : ownKey ((c.fixChannel a).channels a) = some none := by
      rw [fixChannel_own]
      unfold fixedAll
      rw [fixed_own]
      exact if_pos (Or.inl (hb a (List.mem_cons_self ..)))
    have hfix : c.fixupChannel (stack + 1) a = .ok ((c.fixChannel a).setHash a (-1)) := by
      unfold fixupChannel generateHash
      rw [getKey_succ, hown]
      rfl
    have hne : ∀ i ∈ l, i ≠ a := fun i hi he => ha (he ▸ hi)
    obtain ⟨c', hok, hc'⟩ := ih (c := (c.fixChannel a).setHash a (-1)) hl fun i hi => by
      show (Function.update c.channels a _ i).hasSettings = false
      rw [Function.update_of_ne (hne i hi)]
      exact hb i (List.mem_cons_of_mem a hi)
    rw [List.foldlM_cons, hfix, bind_ok]
    refine ⟨c', hok, fun i => (hc' i).trans ?_⟩
    show (if i ∈ l then fixed i (Function.update c.channels a _ i) else
      Function.update c.channels a _ i) = _
    rcases eq_or_ne i a with rfl | hia
    · rw [if_neg ha, if_pos (List.mem_cons_self ..), Function.update_self]
    · rw [Function.update_of_ne hia]
      simp only [List.mem_cons, hia, false_or]

theorem resetRadioConfig_sound (stack : ℕ) :
    Total (resetRadioConfig (stack + 2)) (Sound (stack + 2)) := by
  obtain ⟨c', hok, hc'⟩ := @blank_fold zero (stack + 1) _ (List.nodup_finRange 8)
    fun _ _ => rfl
  have hinit : zero.initDefaults (stack + 2) =
      .ok ({ c' with lora := initDefaultLoraConfig }.initDefaultChannel (Fin.ofNat 8 0)) := by
    unfold initDefaults
    rw [hok]
    rfl
  unfold resetRadioConfig
  rw [hinit, bind_ok]
  refine (onConfigChanged_sound_iff (q := Fin.ofNat 8 0) fun i => ?_).mpr
    fun j hj => absurd hj (Nat.not_lt_zero j.val)
  unfold fixedAll
  rw [fixed_primary]
  unfold initDefaultChannel
  dsimp only
  rw [Function.update_apply]
  by_cases hi : i = Fin.ofNat 8 0
  · simp only [if_pos hi]
    exact iff_of_true ⟨trivial, if_pos rfl⟩ hi
  · simp only [if_neg hi]
    rw [hc' i, if_pos (List.mem_finRange i)]
    exact iff_of_false (fun h => ChannelRole.noConfusion h.2) hi

/-- From the defaults on, the table is sound after every message exactly if every message meets its
condition. -/
theorem sound_run_iff (stack : ℕ) (rs : List SetChannel) :
    (∀ n, Total (resetRadioConfig (stack + 2) >>= fun c =>
      play (fun c r => c.handleReceived (stack + 2) r) c (rs.take n)) (Sound (stack + 2))) ↔
    ∀ c, resetRadioConfig (stack + 2) = .ok c →
      Along (fun c r => c.handleReceived (stack + 2) r) Keeps c rs := by
  obtain ⟨c, hok, hs⟩ := resetRadioConfig_sound stack
  rw [hok]
  simp only [bind_ok]
  have hiff : Along (fun c r => c.handleReceived (stack + 2) r) Keeps c rs ↔ _ :=
    along_iff (fun c r hs => handleReceived_sound_iff hs) hs
  rw [← hiff]
  exact ⟨fun h c' hc' => Except.ok.inj hc' ▸ h, fun h => h c rfl⟩

/-- A message about a channel with the default key. -/
def messageFor (index : ℤ) (role : ChannelRole) (psk : List UInt8) : SetChannel :=
  { index := index, hasSettings := true, settings := ⟨psk, []⟩, role := role, isLicensed := false }

/-- The only primary channel is made a secondary one, and none is left; or encryption is switched off
on the primary channel and another one made primary, and `getKey` does not come back. -/
theorem primary_lost : ¬ Total (resetRadioConfig 2 >>= fun c =>
      play (fun c r => c.handleReceived 2 r) c [messageFor 0 .secondary [1]]) (Sound 2) ∧
    (resetRadioConfig 100 >>= fun c => play (fun c r => c.handleReceived 100 r) c
      [messageFor 0 .primary [], messageFor 1 .primary [1]]).toOption.isNone := by
  have hnone : ((resetRadioConfig 2 >>= fun c => play (fun c r => c.handleReceived 2 r) c
      [messageFor 0 .secondary [1]]).toOption.map fun c =>
        decide (∃ i, (c.channels i).role = .primary)) = some false := by decide +kernel
  refine ⟨?_, by decide +kernel⟩
  rintro ⟨c, hok, hs⟩
  rw [hok] at hnone
  exact of_decide_eq_false (Option.some.inj hnone) ⟨_, (hs.primary _).mpr rfl⟩

end Channels
end MonsterMesh
