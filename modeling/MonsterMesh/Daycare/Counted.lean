import MonsterMesh.Daycare.Counters

/-! When the daycare has counted each event once. -/
namespace MonsterMesh.DaycareEventGen

variable {d : DaycareData} {s : Scene} {b : Daybook} {c : Counter} {i : ℕ}

/-! ### One cycle -/

namespace Daybook

/-- The counter of the mon in a slot. -/
def count (b : Daybook) (i : ℕ) (c : Counter) : ℕ := (b.record.pokemon i).count c

/-- The generator moves the counter in the cycle. -/
def Moves (d : DaycareData) (s : Scene) (b : Daybook) (i : ℕ) (c : Counter) : Prop :=
  i = (b.event d s).evt.targetSpeciesIdx.toNat ∧ (b.event d s).moves c = true

/-- The words of the event move the counter in the cycle. -/
def Mentions (d : DaycareData) (s : Scene) (b : Daybook) (i : ℕ) (c : Counter) : Prop :=
  i = (b.event d s).evt.targetSpeciesIdx.toNat ∧ (b.event d s).evt.targetSpeciesIdx < b.partyCount ∧
    (b.event d s).mentions (b.record.pokemon i).speciesDex c = true

instance : Decidable (b.Moves d s i c) := inferInstanceAs (Decidable (_ ∧ _))

instance : Decidable (b.Mentions d s i c) := inferInstanceAs (Decidable (_ ∧ _))

theorem cycle_total : (b.runEventCycle d s).totalEvents = b.totalEvents + 1 + 1 := rfl

theorem generate_count : (b.addHour.generate d s).2.count i c =
    if b.Moves d s i c then (b.count i c + 1) % c.width else b.count i c := by
  change ((DaycareRecord.generated _ (b.event d s).outcome).pokemon i).count c = _
  rw [generated_eq, setPokemon_count, bump_count]
  have hhour : (b.addHour.record.pokemon i).count c = b.count i c := addHour_count
  rw [hhour]
  by_cases hm : b.Moves d s i c
  · rw [if_pos hm, if_pos hm.1, if_pos hm.2]
  · rw [if_neg hm]
    by_cases hi : i = (b.event d s).evt.targetSpeciesIdx.toNat
    · rw [if_pos hi, if_neg fun h => hm ⟨hi, h⟩]
    · rw [if_neg hi]

/-- What a cycle does to a counter: the generator may move it, and then the words may. -/
theorem cycle_count : (b.runEventCycle d s).count i c =
    let n := if b.Moves d s i c then (b.count i c + 1) % c.width else b.count i c
    if b.Mentions d s i c then (n + 1) % c.width else n := by
  dsimp only
  rw [← generate_count]
  have haward (evt : DaycareEvent) (k : EventKind) :
      (((b.addHour.generate d s).2.record.award b.partyCount evt k).pokemon i).count c =
        (b.addHour.generate d s).2.count i c := award_count
  have hspecies (evt : DaycareEvent) (k : EventKind) :
      (((b.addHour.generate d s).2.record.award b.partyCount evt k).pokemon i).speciesDex =
        (b.record.pokemon i).speciesDex := by
    rw [award_species]
    change ((DaycareRecord.generated _ (b.event d s).outcome).pokemon i).speciesDex = _
    rw [generated_eq, setPokemon_species (f := fun p => p.bump (b.event d s).moves) fun p => rfl]
    exact addHour_species
  change ((DaycareRecord.updateEventCounters _ _ (b.event d s).outcome).pokemon i).count c = _
  rw [updateEventCounters_eq]
  by_cases hm : b.Mentions d s i c
  · rw [if_pos hm, if_neg (UInt8.not_le.mpr hm.2.1), setPokemon_count, if_pos hm.1, bump_count, haward, hspecies,
      if_pos hm.2.2]
  · rw [if_neg hm]
    by_cases hn : b.partyCount ≤ (b.event d s).evt.targetSpeciesIdx
    · rw [if_pos hn, haward]
    · rw [if_neg hn, setPokemon_count, bump_count, haward, hspecies]
      by_cases hi : i = (b.event d s).evt.targetSpeciesIdx.toNat
      · rw [if_pos hi, if_neg fun h => hm ⟨hi, UInt8.not_le.mp hn, h⟩]
      · rw [if_neg hi]

end Daybook

/-! ### Runs -/

/-- What comes to the daycare. -/
inductive DaycareStep where
  | cycle (s : Scene)
  | arrival (now : Instant) (newcomer : DaycareBeacon) (m : Meeting) (evt : DaycareEvent)
  | checkIn (count : UInt8) (info : ℕ → DaycarePartyInfo) (nickname : ℕ → Text.Str)

/-- The daycare, with the number of events generated, and of those of each category for the mon in each slot. -/
structure Chronicle where
  book : Daybook
  events : ℕ
  made : ℕ → Counter → ℕ

namespace Chronicle

/-- A daycare that has counted right so far. -/
def start (b : Daybook) : Chronicle := ⟨b, b.totalEvents.toNat, b.count⟩

/-- A mon of another species in the slot is a new one. -/
def New (b : Daybook) (count : UInt8) (info : ℕ → DaycarePartyInfo) (i : ℕ) : Prop :=
  i < count.toNat ∧ (b.record.pokemon i).speciesDex ≠ (info i).dexNum

instance (b : Daybook) (count : UInt8) (info : ℕ → DaycarePartyInfo) (i : ℕ) : Decidable (New b count info i) :=
  inferInstanceAs (Decidable (_ ∧ _))

/-- The event is one of the category, for the mon in the slot. -/
def Made (d : DaycareData) (s : Scene) (b : Daybook) (i : ℕ) (c : Counter) : Prop :=
  i = (b.event d s).evt.targetSpeciesIdx.toNat ∧ (b.event d s).origin.counter = some c

instance : Decidable (Made d s b i c) := inferInstanceAs (Decidable (_ ∧ _))

def step (d : DaycareData) (l : Chronicle) : DaycareStep → Chronicle
  | .cycle s =>
    { book := l.book.runEventCycle d s
      events := l.events + 1
      made := fun i c => if Made d s l.book i c then l.made i c + 1 else l.made i c }
  | .arrival now newcomer m evt =>
    { l with
      book := l.book.triggerArrivalEvent now newcomer m evt
      events := if l.book.Meets newcomer then l.events + 1 else l.events }
  | .checkIn count info nickname =>
    { l with
      book := l.book.checkIn count info nickname
      made := fun i c => if New l.book count info i then 0 else l.made i c }

/-- The total is the number of events. -/
def TotalRight (l : Chronicle) : Prop := l.book.totalEvents.toNat = l.events

/-- The counter of the mon in the slot is the number of its events of the category. -/
def CountRight (i : ℕ) (c : Counter) (l : Chronicle) : Prop := l.book.count i c = l.made i c

/-- The step is no event cycle, and the total can count an arrival. -/
def TotalKept (l : Chronicle) : DaycareStep → Prop
  | .cycle _ => False
  | .arrival _ newcomer _ _ => l.book.Meets newcomer → l.book.totalEvents.toNat + 1 < 2 ^ 32
  | .checkIn .. => True

/-- In the step, no words for the counter come up with the mon, and it can count an event of the category. -/
def CountKept (d : DaycareData) (i : ℕ) (c : Counter) (l : Chronicle) : DaycareStep → Prop
  | .cycle s => ¬ l.book.Mentions d s i c ∧ (Made d s l.book i c → l.book.count i c + 1 < c.width)
  | _ => True

/-- The generator counts the events of the category. -/
theorem made_iff : Made d s b i c ↔ b.Moves d s i c := by
  have hcounts : (b.event d s).counted = (b.event d s).origin.counter := draw_counts _
  unfold Made Daybook.Moves Generated.moves
  rw [← hcounts, decide_eq_true_eq]

theorem total_step (l : Chronicle) (a : DaycareStep) (h : l.TotalRight) :
    (l.step d a).TotalRight ↔ l.TotalKept a := by
  unfold TotalRight at h ⊢
  cases a with
  | cycle s =>
    refine iff_of_false (fun hright => ?_) id
    change (l.book.runEventCycle d s).totalEvents.toNat = l.events + 1 at hright
    rw [Daybook.cycle_total, UInt32.toNat_add, UInt32.toNat_add, h] at hright
    have hone : (1 : UInt32).toNat = 1 := rfl
    have hlt := l.book.totalEvents.toNat_lt
    omega
  | arrival now newcomer m evt =>
    change (l.book.triggerArrivalEvent now newcomer m evt).totalEvents.toNat = _ ↔ _
    unfold TotalKept Daybook.triggerArrivalEvent
    dsimp only [step]
    by_cases hm : l.book.Meets newcomer
    · rw [if_pos hm, if_pos hm]
      change (l.book.totalEvents + 1).toNat = _ ↔ _
      have hone : (1 : UInt32).toNat = 1 := rfl
      have hlt := l.book.totalEvents.toNat_lt
      rw [UInt32.toNat_add, hone, h]
      rw [h] at hlt
      refine ⟨fun hright _ => ?_, fun hroom => Nat.mod_eq_of_lt (hroom hm)⟩
      by_contra hfull
      rw [show l.events + 1 = 2 ^ 32 by omega, Nat.mod_self] at hright
      omega
    · rw [if_neg hm, if_neg hm]
      exact iff_of_true h fun hc => absurd hc hm
  | checkIn count info nickname => exact iff_of_true h trivial

section
variable {x y w : ℕ}

theorem succ_mod (hx : x < w) : (x + 1) % w = if x + 1 = w then 0 else x + 1 := by
  split_ifs with he
  · rw [he, Nat.mod_self]
  · exact Nat.mod_eq_of_lt (by omega)

theorem succ_mod_iff (hx : x < w) : (x + 1) % w = x + 1 ↔ x + 1 < w := by
  rw [succ_mod hx]
  by_cases he : x + 1 = w
  · rw [if_pos he]
    exact iff_of_false (Nat.succ_ne_zero x).symm (by omega)
  · rw [if_neg he]
    exact iff_of_true rfl (by omega)

theorem succ_mod_ne (hw : 1 < w) (hx : x < w) : (x + 1) % w ≠ x := by
  rw [succ_mod hx]
  split_ifs <;> omega

theorem succ_succ_mod_ne (hw : 1 < w) (hx : x < w) : ((x + 1) % w + 1) % w ≠ x + 1 := by
  rw [succ_mod (Nat.mod_lt _ (by omega)), succ_mod hx]
  split_ifs <;> omega

/-- A counter that was right stays right just if no words move it, and it can count the event if it is of its category. -/
theorem moved_iff {moves mentions : Prop} [Decidable moves] [Decidable mentions] (hw : 1 < w) (hx : x < w) (h : x = y) :
    let n := if moves then (x + 1) % w else x
    (if mentions then (n + 1) % w else n) = (if moves then y + 1 else y) ↔ ¬ mentions ∧ (moves → x + 1 < w) := by
  dsimp only
  subst h
  by_cases hn : mentions
  · rw [if_pos hn]
    refine iff_of_false ?_ fun h => h.1 hn
    by_cases hm : moves
    · rw [if_pos hm, if_pos hm]
      exact succ_succ_mod_ne hw hx
    · rw [if_neg hm, if_neg hm]
      exact succ_mod_ne hw hx
  · rw [if_neg hn]
    by_cases hm : moves
    · rw [if_pos hm, if_pos hm, succ_mod_iff hx]
      exact ⟨fun h => ⟨hn, fun _ => h⟩, fun h => h.2 hm⟩
    · rw [if_neg hm, if_neg hm]
      exact iff_of_true rfl ⟨hn, fun h => absurd h hm⟩

end

theorem checkIn_count {count : UInt8} {info : ℕ → DaycarePartyInfo} {nickname : ℕ → Text.Str} :
    (b.checkIn count info nickname).count i c = if New b count info i then 0 else b.count i c := by
  have hslot : (b.checkIn count info nickname).record.pokemon i =
      if i < count.toNat then (b.record.pokemon i).checkIn (info i) else b.record.pokemon i := rfl
  unfold Daybook.count
  rw [hslot]
  by_cases hi : i < count.toNat
  · rw [if_pos hi]
    unfold DaycareResident.checkIn
    by_cases hs : (b.record.pokemon i).speciesDex ≠ (info i).dexNum
    · have hnew : New b count info i := ⟨hi, hs⟩
      rw [if_pos hs, if_pos hnew]
      cases c <;> rfl
    · rw [if_neg hs, if_neg fun h : New b count info i => hs h.2]
      cases c <;> rfl
  · rw [if_neg hi, if_neg fun h : New b count info i => hi h.1]

theorem count_step (l : Chronicle) (a : DaycareStep) (h : CountRight i c l) :
    CountRight i c (l.step d a) ↔ l.CountKept d i c a := by
  unfold CountRight at h ⊢
  cases a with
  | cycle s =>
    change (l.book.runEventCycle d s).count i c = (if Made d s l.book i c then l.made i c + 1 else l.made i c) ↔ _
    rw [Daybook.cycle_count]
    have hw : 1 < c.width := by cases c <;> decide
    have hmade := made_iff (d := d) (s := s) (b := l.book) (i := i) (c := c)
    rw [if_congr hmade rfl rfl]
    change _ ↔ ¬ l.book.Mentions d s i c ∧ (Made d s l.book i c → l.book.count i c + 1 < c.width)
    rw [hmade]
    exact moved_iff hw count_lt h
  | arrival now newcomer m evt =>
    refine iff_of_true ?_ trivial
    change (l.book.triggerArrivalEvent now newcomer m evt).count i c = l.made i c
    rw [← h]
    unfold Daybook.triggerArrivalEvent
    split_ifs
    · exact award_count
    · rfl
  | checkIn count info nickname =>
    refine iff_of_true ?_ trivial
    change (l.book.checkIn count info nickname).count i c = if New l.book count info i then 0 else l.made i c
    rw [← h]
    exact checkIn_count

end Chronicle

open Chronicle Walk

/-- The total of a daycare is right at all times just if it only ever has arrivals that it can count; the counter of the
mon in a slot, if none of the words that it goes by comes up with the mon and it can count the events of its category. -/
theorem counters_iff (d : DaycareData) (b : Daybook) (steps : List DaycareStep) :
    (Along (Chronicle.step d) TotalKept (Chronicle.start b) steps ↔
      ∀ n, (run (Chronicle.step d) (Chronicle.start b) (steps.take n)).TotalRight) ∧
    ∀ i c, Along (Chronicle.step d) (CountKept d i c) (Chronicle.start b) steps ↔
      ∀ n, CountRight i c (run (Chronicle.step d) (Chronicle.start b) (steps.take n)) := by
  refine ⟨along_iff (fun l a h => (total_step l a h).symm) rfl, fun i c => ?_⟩
  exact along_iff (fun l a h => (count_step l a h).symm) rfl
/-! ### Dreams -/

open Text Draw

theorem format_nil (t : Str) : format t [] = t := by
  match t with
  | [] => rfl
  | [_] => rfl
  | _ :: _ :: _ => rfl

theorem contains_right {l t key : Str} (h : contains t key = true) : contains (l ++ t) key = true := by
  obtain ⟨u, hu, hkey⟩ := List.any_eq_true.mp h
  refine List.any_eq_true.mpr ⟨u, ?_, hkey⟩
  rw [List.mem_tails] at hu ⊢
  exact hu.trans (List.suffix_append l t)

theorem rngRange_lt {max : UInt8} (h : max ≠ 0) : Gives (rngRange max) (· < max) := by
  unfold rngRange
  refine gives_ite (fun h0 => absurd h0 h) fun _ => gives_any fun x => gives_pure ?_
  have hpos : max.toNat ≠ 0 := fun he => h (UInt8.toNat_inj.mp he)
  have hmax := max.toNat_lt
  have hlt := Nat.mod_lt x.toNat (Nat.pos_of_ne_zero hpos)
  rw [UInt8.lt_iff_toNat_lt, UInt32.toNat_toUInt8, UInt32.toNat_mod, UInt8.toNat_toUInt32]
  omega

theorem pick_mem {pool : List Str} (hne : pool ≠ []) (hlen : pool.length < 256) : Gives (pick pool) (· ∈ pool) := by
  have hpos := List.length_pos_iff.mpr hne
  have hnat : (UInt8.ofNat pool.length).toNat = pool.length := UInt8.toNat_ofNat_of_lt' hlen
  have hmax : UInt8.ofNat pool.length ≠ 0 := by
    intro h
    rw [h] at hnat
    change 0 = _ at hnat
    omega
  refine gives_bind (rngRange_lt hmax) fun k hk => gives_pure ?_
  have hlt : k.toNat < pool.length := hnat ▸ UInt8.lt_iff_toNat_lt.mp hk
  rw [List.getElem?_eq_getElem hlt]
  exact List.getElem_mem hlt

/-- The dreams: every one is called so after the name. -/
theorem dreamTemplates_dream : ∀ t ∈ dreamTemplates ++ foreshadowDreams,
    t.take 7 = lit "Your %s" ∧ contains (t.drop 7) (lit "dream") = true ∧ t.length ≤ 100 := by
  decide +kernel

theorem localName_length (idx : UInt8) : (localName d b idx).length ≤ 47 := by
  unfold localName formatted
  dsimp only
  split_ifs <;> exact List.length_take_le _ _

theorem dream_worded : Gives (generateDream d b) fun g => Counter.dream.worded g.message = true := by
  unfold generateDream
  refine gives_any fun idx => gives_any fun foreshadow => ?_
  have hpick : Gives (pick (if foreshadow = true then foreshadowDreams else dreamTemplates))
      (· ∈ dreamTemplates ++ foreshadowDreams) := by
    cases foreshadow with
    | true => exact fun rng => List.mem_append_right _ (pick_mem (by decide) (by decide) rng)
    | false => exact fun rng => List.mem_append_left _ (pick_mem (by decide) (by decide) rng)
  refine gives_bind hpick fun t ht => gives_pure ?_
  obtain ⟨hhead, htail, hlen⟩ := dreamTemplates_dream t ht
  have hname := localName_length (d := d) (b := b) idx
  -- the name goes between the first word and the rest, and the buffer holds them all
  have htext : format t [localName d b idx] = lit "Your " ++ localName d b idx ++ t.drop 7 := by
    have hsplit : t = lit "Your %s" ++ t.drop 7 := by rw [← hhead, List.take_append_drop]
    conv_lhs => rw [hsplit]
    change lit "Your " ++ (localName d b idx ++ format (t.drop 7) []) = _
    rw [format_nil, List.append_assoc]
  have hfits : (format t [localName d b idx]).length ≤ 199 := by
    have hword : (lit "Your ").length = 5 := rfl
    rw [htext, List.length_append, List.length_append, List.length_drop, hword]
    omega
  have hdream : contains (formatted 200 t [localName d b idx]) (lit "dream") = true := by
    unfold formatted
    rw [List.take_of_length_le hfits, htext]
    exact contains_right htail
  exact List.any_eq_true.mpr ⟨lit "dream", List.mem_cons_self .., hdream⟩

theorem draw_worded : Gives (draw d s b) fun r => r.1.origin = .dream → Counter.dream.worded r.1.message = true := by
  refine draw_gives (P := fun g => g.origin = .dream → Counter.dream.worded g.message = true) ?_ ?_ ?_ ?_ ?_ ?_
  · exact visitor_spec.mono fun g h hd => absurd (h.1.symm.trans hd) (by decide)
  · exact dream_worded.mono fun g h _ => h
  · exact escape_spec.mono fun g h g' hg hd => absurd ((h g' hg).1.symm.trans hd) (by decide)
  · exact weather_spec.mono fun g h hd => absurd (h.1.symm.trans hd) (by decide)
  · refine flat_spec.mono fun g h g' hg hd => ?_
    obtain ⟨dex, horigin, -⟩ := h g' hg
    cases horigin.symm.trans hd
  · refine compositional_spec.mono fun r h hd => ?_
    rcases h with ⟨horigin, -⟩ | ⟨cat, horigin, -⟩
    · cases horigin.symm.trans hd
    · cases horigin.symm.trans hd

/-- Every dream of a mon of the party is counted twice: the generator counts it, and then its words are counted. -/
theorem dream_twice (h : (b.event d s).origin = .dream) (hparty : (b.event d s).evt.targetSpeciesIdx < b.partyCount) :
    let i := (b.event d s).evt.targetSpeciesIdx.toNat
    b.Moves d s i .dream ∧ b.Mentions d s i .dream := by
  have hworded : Counter.dream.worded (b.event d s).message = true := draw_worded _ h
  refine ⟨made_iff.mp ⟨rfl, by rw [h]; rfl⟩, rfl, hparty, ?_⟩
  unfold Generated.mentions
  rw [hworded]
  rfl

/-! ### A night -/

/-- What the tables say of Pikachu. -/
def pikachuData : DaycareData where
  speciesNames _ := lit "Pikachu"
  getSpecies dex := if dex = 25 then some ⟨11, 11, [84, 98]⟩ else none
  moveNames _ := lit "Thunder Shock"

def pikachuBook : Daybook where
  partyCount := 1
  nickname _ := []
  record := DaycareRecord.init.setPokemon 0 fun p => { p with speciesDex := 25 }
  relationships := ⟨fun _ => ⟨0, 0, 0, 0, 0, 0, ⟨0, 0⟩, 0⟩, 0⟩
  totalEvents := 0

def night : Scene := ⟨⟨0, 2⟩, [], .none, true, 0⟩

/-- A dream is one event, but two of the total, and two dreams of the mon. -/
theorem night_twice :
    let l := run (Chronicle.step pikachuData) (Chronicle.start pikachuBook) [.cycle night]
    ¬ l.TotalRight ∧ ¬ CountRight 0 .dream l := by
  have horigin : (pikachuBook.event pikachuData night).origin = .dream := by decide +kernel
  have hparty : (pikachuBook.event pikachuData night).evt.targetSpeciesIdx = 0 := by decide +kernel
  have htwice := (dream_twice horigin (by rw [hparty]; decide)).2
  rw [hparty] at htwice
  refine ⟨fun h => (total_step (start pikachuBook) (.cycle night) rfl).mp h, fun h => ?_⟩
  exact ((count_step (start pikachuBook) (.cycle night) rfl).mp h).1 htwice

end MonsterMesh.DaycareEventGen
