import Mathlib.Data.List.Basic
import MonsterMesh.Lib.Text
import MonsterMesh.Lib.Walk

/-! The word puzzle of the dungeon: a secret word, six guesses, and a tile for each letter of a guess. -/
namespace MonsterMesh

open Text

def wordleMaxGuesses : ℕ := 6

/-- The longest word with its terminator. -/
def wordleMaxLen : ℕ := 8

inductive WordleTile where
  | unknown | grey | yellow | green
deriving DecidableEq

structure WordleGuess where
  word : Str
  tiles : List WordleTile
deriving DecidableEq

/-- A session; `guesses` are the rows played so far, so that `guessCount` is their number. -/
structure WordleSession where
  secretWord : Str
  wordLen : ℕ
  guesses : List WordleGuess
  (solved failed : Bool)
  hintCount : ℕ
deriving DecidableEq

namespace WordleSession

def init (word : Str) (wisScore : UInt8) : WordleSession :=
  let secretWord := (word.take (wordleMaxLen - 1)).map toUpper
  { secretWord, wordLen := secretWord.length, guesses := [], solved := false, failed := false
    hintCount := if 17 ≤ wisScore then 2 else if 14 ≤ wisScore then 1 else 0 }

/-- Pass 1: which positions of the guess and of the secret agree. -/
def locked (guess secret : Str) : List Bool := List.zipWith (fun g s => g = s) guess secret

/-- The first letter `c` of the secret that is not used yet becomes used. -/
def useLetter (c : UInt8) : List (UInt8 × Bool) → Option (List (UInt8 × Bool))
  | [] => none
  | (s, used) :: pool => if !used && c = s then some ((s, true) :: pool) else (useLetter c pool).map ((s, used) :: ·)

/-- Pass 2: yellows and greys for the remaining positions, from the left. -/
def mark : List (UInt8 × Bool) → List (UInt8 × Bool) → List WordleTile
  | [], _ => []
  | (_, true) :: rest, pool => .green :: mark rest pool
  | (c, false) :: rest, pool =>
    match useLetter c pool with
    | some pool => .yellow :: mark rest pool
    | none => .grey :: mark rest pool

def tilesOf (guess secret : Str) : List WordleTile :=
  let used := locked guess secret
  mark (guess.zip used) (secret.zip used)

variable (s : WordleSession)

/-- Whether the guess is accepted, and the session afterwards. -/
def submitGuess (rawGuess : Str) : Bool × WordleSession :=
  if s.solved || s.failed || wordleMaxGuesses ≤ s.guesses.length then (false, s)
  else
    let guess := (rawGuess.take s.wordLen).map toUpper
    if guess = [] ∧ rawGuess.head? = some 32 then (false, s)
    else if guess.length ≠ s.wordLen then (false, s)
    else
      let tiles := tilesOf guess s.secretWord
      let s := { s with guesses := s.guesses ++ [⟨guess, tiles⟩] }
      if tiles.all (· = .green) then (true, { s with solved := true })
      else if wordleMaxGuesses ≤ s.guesses.length then (true, { s with failed := true })
      else (true, s)

/-- The session after a guess. -/
def step (rawGuess : Str) : WordleSession := (s.submitGuess rawGuess).2

end WordleSession
end MonsterMesh

/-! The tiles of a guess follow the rule of the puzzle, letter by letter. -/
namespace MonsterMesh.WordleSession

open Text

variable {c d : UInt8} {rows pool pool' : List (UInt8 × Bool)} {guess secret word raw : Str} {s : WordleSession}
  {tiles : List WordleTile}

/-! ### The pool of the secret's letters -/

/-- The letters that are not used. -/
def free (pool : List (UInt8 × Bool)) : List UInt8 := (pool.filter fun p => !p.2).map Prod.fst

@[simp] theorem free_used (x : UInt8) : free ((x, true) :: pool) = free pool := rfl

@[simp] theorem free_unused (x : UInt8) : free ((x, false) :: pool) = x :: free pool := rfl

theorem useLetter_some (h : useLetter c pool = some pool') (d : UInt8) :
    c ∈ free pool ∧ (free pool).count d = (free pool').count d + if d = c then 1 else 0 := by
  induction pool generalizing pool' with
  | nil => cases h
  | cons p pool ih =>
    obtain ⟨x, used⟩ := p
    unfold useLetter at h
    split_ifs at h with hx
    · cases h
      rw [Bool.and_eq_true, Bool.not_eq_true', decide_eq_true_eq] at hx
      obtain ⟨rfl, rfl⟩ := hx
      rw [free_used, free_unused, List.count_cons]
      refine ⟨List.mem_cons_self .., ?_⟩
      by_cases hd : d = c
      · subst hd
        simp
      · have hd' : ¬ c = d := fun he => hd he.symm
        simp [hd, hd']
    · obtain ⟨rest, hrest, rfl⟩ := Option.map_eq_some_iff.mp h
      obtain ⟨hmem, hcount⟩ := ih hrest
      cases used with
      | true => exact ⟨hmem, hcount⟩
      | false =>
        rw [free_unused, free_unused, List.count_cons, List.count_cons, hcount]
        exact ⟨List.mem_cons_of_mem _ hmem, by omega⟩

theorem useLetter_none (h : useLetter c pool = none) : c ∉ free pool := by
  induction pool with
  | nil => exact List.not_mem_nil
  | cons p pool ih =>
    obtain ⟨x, used⟩ := p
    unfold useLetter at h
    split_ifs at h with hx
    have hrest := ih (Option.map_eq_none_iff.mp h)
    cases used with
    | true => exact hrest
    | false =>
      have hne : c ≠ x := by simpa using hx
      rw [free_unused, List.mem_cons, not_or]
      exact ⟨hne, hrest⟩

/-! ### The marks of one guess -/

theorem mark_length : (mark rows pool).length = rows.length := by
  induction rows generalizing pool with
  | nil => rfl
  | cons r rows ih =>
    obtain ⟨x, used⟩ := r
    unfold mark
    cases used with
    | true => exact congrArg (· + 1) ih
    | false =>
      dsimp only
      split <;> exact congrArg (· + 1) ih

/-- A position is green where it was locked, and no position is left out. -/
theorem mark_green (i : ℕ) : ((mark rows pool)[i]? = some .green ↔ (rows[i]?).map Prod.snd = some true) ∧
    (mark rows pool)[i]? ≠ some .unknown := by
  induction rows generalizing pool i with
  | nil => simp [mark]
  | cons r rows ih =>
    obtain ⟨x, used⟩ := r
    unfold mark
    cases used with
    | true =>
      cases i with
      | zero => simp
      | succ i => simpa using ih i
    | false =>
      dsimp only
      split
      · cases i with
        | zero => simp
        | succ i => simpa using ih i
      · cases i with
        | zero => simp
        | succ i => simpa using ih i

/-- The yellow tiles of a letter: as many as the guess and the free letters of the secret have in common. -/
theorem mark_yellow (c : UInt8) : (rows.zip (mark rows pool)).countP (fun p => p.1.1 = c && p.2 = .yellow) =
    min ((free rows).count c) ((free pool).count c) := by
  induction rows generalizing pool with
  | nil => simp [free]
  | cons r rows ih =>
    obtain ⟨x, used⟩ := r
    unfold mark
    cases used with
    | true =>
      rw [List.zip_cons_cons, List.countP_cons_of_neg (by simp), ih, free_used]
    | false =>
      rw [free_unused, List.count_cons]
      dsimp only
      split
      · rename_i rest hrest
        have hcount := (useLetter_some hrest c).2
        rw [List.zip_cons_cons, List.countP_cons, ih, hcount]
        by_cases hx : x = c
        · subst hx
          simp
        · have hx' : ¬ c = x := fun he => hx he.symm
          simp [hx, hx']
      · rename_i hnone
        have hmem := useLetter_none hnone
        rw [List.zip_cons_cons, List.countP_cons_of_neg (by simp), ih]
        by_cases hx : x = c
        · subst hx
          rw [List.count_eq_zero.mpr hmem]
          simp
        · simp [hx]

/-- The letters that are used. -/
def taken (pool : List (UInt8 × Bool)) : List UInt8 := (pool.filter Prod.snd).map Prod.fst

@[simp] theorem taken_used (x : UInt8) : taken ((x, true) :: pool) = x :: taken pool := rfl

@[simp] theorem taken_unused (x : UInt8) : taken ((x, false) :: pool) = taken pool := rfl

variable (pool) in
theorem taken_free (c : UInt8) : (pool.map Prod.fst).count c = (taken pool).count c + (free pool).count c := by
  induction pool with
  | nil => rfl
  | cons p pool ih =>
    obtain ⟨x, used⟩ := p
    rw [List.map_cons, List.count_cons, ih]
    cases used with
    | true =>
      rw [taken_used, free_used, List.count_cons]
      dsimp only
      omega
    | false =>
      rw [taken_unused, free_unused, List.count_cons]
      dsimp only
      omega

variable (rows pool) in
/-- The tiles of a letter that are not grey: the locked ones and the yellow ones. -/
theorem mark_count (c : UInt8) :
    (rows.zip (mark rows pool)).countP (fun p => p.1.1 = c && (p.2 = .green || p.2 = .yellow)) =
      (taken rows).count c + (rows.zip (mark rows pool)).countP (fun p => p.1.1 = c && p.2 = .yellow) := by
  induction rows generalizing pool with
  | nil => rfl
  | cons r rows ih =>
    obtain ⟨x, used⟩ := r
    unfold mark
    cases used with
    | true =>
      rw [List.zip_cons_cons, List.countP_cons, List.countP_cons_of_neg (by simp), ih, taken_used, List.count_cons]
      simp
      omega
    | false =>
      rw [taken_unused]
      dsimp only
      split <;> rw [List.zip_cons_cons, List.countP_cons, List.countP_cons, ih] <;> simp [Nat.add_assoc]

/-- Once a letter of the guess finds none free, no later one does. -/
theorem mark_exhausted (h : c ∉ free pool) : ∀ p ∈ rows.zip (mark rows pool), p.1.1 = c → p.2 ≠ .yellow := by
  have hzero : (rows.zip (mark rows pool)).countP (fun p => p.1.1 = c && p.2 = .yellow) = 0 := by
    rw [mark_yellow, List.count_eq_zero.mpr h, Nat.min_zero]
  intro p hp hc hy
  exact List.countP_eq_zero.mp hzero p hp (by simp [hc, hy])

/-- The yellow tiles of a letter stand before its grey ones. -/
theorem mark_leftmost : (rows.zip (mark rows pool)).Pairwise fun p q =>
    p.1.1 = q.1.1 → q.2 = .yellow → p.2 ≠ .grey := by
  induction rows generalizing pool with
  | nil => exact List.Pairwise.nil
  | cons r rows ih =>
    obtain ⟨x, used⟩ := r
    unfold mark
    cases used with
    | true => exact List.Pairwise.cons (fun q _ _ _ => by simp) ih
    | false =>
      dsimp only
      split
      · exact List.Pairwise.cons (fun q _ _ _ => by simp) ih
      · rename_i hnone
        refine List.Pairwise.cons (fun q hq he hy => ?_) ih
        exact absurd hy (mark_exhausted (useLetter_none hnone) q hq he.symm)

/-! ### The rule -/

/-- The tiles that the rule of the puzzle gives a guess. -/
structure Scored (secret guess : Str) (tiles : List WordleTile) : Prop where
  length : tiles.length = guess.length
  played : ∀ t ∈ tiles, t ≠ .unknown
  green : ∀ i < guess.length, tiles[i]? = some .green ↔ guess[i]? = secret[i]?
  count : ∀ c, (guess.zip tiles).countP (fun p => p.1 = c && (p.2 = .green || p.2 = .yellow)) =
    min (guess.count c) (secret.count c)
  leftmost : (guess.zip tiles).Pairwise fun p q => p.1 = q.1 → q.2 = .yellow → p.2 ≠ .grey

theorem locked_length (h : guess.length = secret.length) : (locked guess secret).length = guess.length := by
  rw [locked, List.length_zipWith, h, Nat.min_self]

/-- The locked letters are the same in the guess and in the secret. -/
theorem taken_locked (h : guess.length = secret.length) :
    taken (guess.zip (locked guess secret)) = taken (secret.zip (locked guess secret)) := by
  induction guess generalizing secret with
  | nil =>
    rw [List.length_nil] at h
    rw [List.eq_nil_of_length_eq_zero h.symm]
  | cons g guess ih =>
    cases secret with
    | nil => cases h
    | cons x secret =>
      have hrest := ih (Nat.succ.inj h)
      unfold locked at hrest ⊢
      rw [List.zipWith_cons_cons, List.zip_cons_cons, List.zip_cons_cons]
      by_cases hg : g = x
      · rw [hg, decide_eq_true rfl, taken_used, taken_used, hrest]
      · rw [decide_eq_false hg, taken_unused, taken_unused, hrest]

theorem zip_letters (h : guess.length = secret.length) :
    guess.zip tiles = ((guess.zip (locked guess secret)).zip tiles).map fun p => (p.1.1, p.2) := by
  have hmap : (guess.zip (locked guess secret)).map Prod.fst = guess :=
    List.map_fst_zip (Nat.le_of_eq (locked_length h).symm)
  conv_lhs => rw [← hmap]
  rw [List.zip_map_left]
  rfl

theorem tilesOf_scored (h : guess.length = secret.length) : Scored secret guess (tilesOf guess secret) where
  length := by
    rw [tilesOf, mark_length, List.length_zip, locked_length h, Nat.min_self]
  played := by
    intro t ht
    obtain ⟨i, hi⟩ := List.mem_iff_getElem?.mp ht
    rintro rfl
    exact (mark_green i).2 hi
  green := by
    intro i hi
    have hsecret : i < secret.length := h ▸ hi
    rw [tilesOf, (mark_green i).1, List.getElem?_eq_getElem hi, List.getElem?_eq_getElem hsecret]
    have hrow : (guess.zip (locked guess secret))[i]? = some (guess[i], decide (guess[i] = secret[i])) := by
      rw [List.getElem?_zip_eq_some, List.getElem?_eq_getElem hi, locked, List.getElem?_zipWith,
        List.getElem?_eq_getElem hi, List.getElem?_eq_getElem hsecret]
      exact ⟨rfl, rfl⟩
    rw [hrow, Option.map_some, Option.some.injEq, decide_eq_true_eq, Option.some.injEq]
  count := by
    intro c
    rw [zip_letters h, List.countP_map]
    have hcount := mark_count (guess.zip (locked guess secret)) (secret.zip (locked guess secret)) c
    rw [mark_yellow] at hcount
    have hguess := taken_free (guess.zip (locked guess secret)) c
    have hsecret := taken_free (secret.zip (locked guess secret)) c
    rw [List.map_fst_zip (Nat.le_of_eq (locked_length h).symm)] at hguess
    rw [List.map_fst_zip (Nat.le_of_eq (h ▸ (locked_length h).symm)), ← taken_locked h] at hsecret
    refine Eq.trans hcount ?_
    omega
  leftmost := by
    rw [zip_letters h, List.pairwise_map]
    exact mark_leftmost

/-! ### Whole sessions -/

/-- Neither solved nor failed. -/
def Open (s : WordleSession) : Prop := s.solved = false ∧ s.failed = false

instance : Decidable s.Open := inferInstanceAs (Decidable (_ ∧ _))

/-- What the rule makes of one guess at the word. -/
structure Ruled (word : Str) (s : WordleSession) (raw : Str) : Prop where
  accepts : (s.submitGuess raw).1 = true ↔ s.Open ∧ raw.length = word.length
  rejected : (s.submitGuess raw).1 = false → s.step raw = s
  scored : (s.submitGuess raw).1 = true → ∃ tiles, Scored (word.map toUpper) (raw.map toUpper) tiles ∧
    (s.step raw).guesses = s.guesses ++ [⟨raw.map toUpper, tiles⟩] ∧
    ((s.step raw).solved = true ↔ ∀ t ∈ tiles, t = .green) ∧
    ((s.step raw).failed = true ↔ (¬ ∀ t ∈ tiles, t = .green) ∧ (s.step raw).guesses.length = wordleMaxGuesses)

/-- A guess at an open session is not longer than the word. -/
def Short (word : Str) (s : WordleSession) (raw : Str) : Prop := s.Open → raw.length ≤ word.length

instance (word : Str) : ∀ s raw, Decidable (Short word s raw) :=
  fun s raw => inferInstanceAs (Decidable (s.Open → raw.length ≤ word.length))

/-- A session for the word, which is over after its last guess. -/
structure Sound (word : Str) (s : WordleSession) : Prop where
  secret : s.secretWord = word.map toUpper
  wordLen : s.wordLen = word.length
  guesses : s.Open → s.guesses.length < wordleMaxGuesses

theorem init_sound (wisScore : UInt8) (h : word.length ≤ 7) : Sound word (init word wisScore) where
  secret := congrArg (List.map toUpper) (List.take_of_length_le h)
  wordLen := by
    have htake : word.take (wordleMaxLen - 1) = word := List.take_of_length_le h
    unfold init
    rw [htake]
    exact List.length_map _
  guesses _ := (by decide : 0 < wordleMaxGuesses)

/-- A guess that is turned away, and one that is played. -/
theorem submitGuess_cases (hs : Sound word s) (hpos : 0 < word.length) (raw : Str) :
    ((¬ s.Open ∨ raw.length < word.length) ∧ s.submitGuess raw = (false, s)) ∨
    (s.Open ∧ word.length ≤ raw.length ∧ ∃ solved failed, ∃ tiles,
      Scored (word.map toUpper) ((raw.take word.length).map toUpper) tiles ∧
      s.submitGuess raw = (true, { s with
        guesses := s.guesses ++ [⟨(raw.take word.length).map toUpper, tiles⟩], solved := solved, failed := failed }) ∧
      (solved = true ↔ ∀ t ∈ tiles, t = .green) ∧
      (failed = true ↔ (¬ ∀ t ∈ tiles, t = .green) ∧ s.guesses.length + 1 = wordleMaxGuesses)) := by
  by_cases hopen : s.Open
  · have hroom := hs.guesses hopen
    have hgo : ¬ (s.solved || s.failed || wordleMaxGuesses ≤ s.guesses.length) = true := by
      simp [hopen.1, hopen.2, hroom]
    by_cases hlen : raw.length < word.length
    · refine .inl ⟨.inr hlen, ?_⟩
      unfold submitGuess
      dsimp only
      have hne : ((raw.take s.wordLen).map toUpper).length ≠ s.wordLen := by
        rw [hs.wordLen, List.length_map, List.length_take]
        omega
      rw [if_neg hgo, if_pos hne]
      exact ite_self _
    · have hle : word.length ≤ raw.length := Nat.le_of_not_lt hlen
      have htake : ((raw.take word.length).map toUpper).length = word.length := by
        rw [List.length_map, List.length_take, Nat.min_eq_left hle]
      have hscored : Scored (word.map toUpper) ((raw.take word.length).map toUpper)
          (tilesOf ((raw.take word.length).map toUpper) s.secretWord) := by
        rw [hs.secret]
        exact tilesOf_scored (by rw [htake, List.length_map])
      have hnil : (raw.take word.length).map toUpper ≠ [] := by
        intro he
        rw [he, List.length_nil] at htake
        omega
      refine .inr ⟨hopen, hle, ?_⟩
      unfold submitGuess
      dsimp only
      rw [if_neg hgo, hs.wordLen, if_neg fun h => hnil h.1, if_neg fun h => h htake]
      generalize tilesOf ((raw.take word.length).map toUpper) s.secretWord = tiles at hscored
      have hall : tiles.all (fun t => t = .green) = true ↔ ∀ t ∈ tiles, t = .green := by simp
      by_cases hgreen : ∀ t ∈ tiles, t = .green
      · refine ⟨true, s.failed, tiles, hscored, if_pos (hall.mpr hgreen), ⟨fun _ => hgreen, fun _ => rfl⟩, ?_⟩
        exact ⟨fun h => absurd (hopen.2.symm.trans h) Bool.false_ne_true, fun h => absurd hgreen h.1⟩
      · rw [if_neg fun h => hgreen (hall.mp h), List.length_append, List.length_singleton]
        by_cases hlast : wordleMaxGuesses ≤ s.guesses.length + 1
        · refine ⟨s.solved, true, tiles, hscored, if_pos hlast, ?_, ?_⟩
          · simp [hopen.1, hgreen]
          · simp only [hgreen, true_iff, not_false_eq_true, true_and]
            omega
        · refine ⟨s.solved, s.failed, tiles, hscored, if_neg hlast, ?_, ?_⟩
          · simp [hopen.1, hgreen]
          · simp only [hopen.2, Bool.false_eq_true, false_iff, not_and]
            intro _
            omega
  · refine .inl ⟨.inl hopen, if_pos ?_⟩
    unfold Open at hopen
    rw [not_and_or, Bool.not_eq_false, Bool.not_eq_false] at hopen
    obtain h | h := hopen <;> simp [h]

theorem step_sound (hs : Sound word s) (hpos : 0 < word.length) (raw : Str) : Sound word (s.step raw) := by
  unfold step
  obtain ⟨-, he⟩ | ⟨hopen, -, solved, failed, tiles, -, he, hsolved, hfailed⟩ := submitGuess_cases hs hpos raw
  · rw [he]
    exact hs
  · rw [he]
    refine ⟨hs.secret, hs.wordLen, fun ho => ?_⟩
    have hroom := hs.guesses hopen
    obtain ⟨h₁, h₂⟩ : solved = false ∧ failed = false := ho
    rw [h₁, Bool.false_eq_true, false_iff] at hsolved
    rw [h₂, Bool.false_eq_true, false_iff, not_and] at hfailed
    have hlast := hfailed hsolved
    change (s.guesses ++ [_]).length < _
    rw [List.length_append, List.length_singleton]
    omega

/-- The rule holds of a guess exactly when it is not too long for an open session. -/
theorem ruled_iff (hs : Sound word s) (hpos : 0 < word.length) (raw : Str) : Ruled word s raw ↔ Short word s raw := by
  obtain ⟨hwhy, he⟩ | ⟨hopen, hle, solved, failed, tiles, hscored, he, hsolved, hfailed⟩ :=
    submitGuess_cases hs hpos raw
  · have hrule : Ruled word s raw := by
      refine ⟨?_, fun _ => congrArg Prod.snd he, fun h => ?_⟩
      · rw [he]
        refine ⟨fun h => absurd h Bool.false_ne_true, fun ⟨ho, hl⟩ => ?_⟩
        obtain hno | hlt := hwhy
        · exact absurd ho hno
        · omega
      · rw [he] at h
        exact absurd h Bool.false_ne_true
    refine ⟨fun _ ho => ?_, fun _ => hrule⟩
    obtain hno | hlt := hwhy
    · exact absurd ho hno
    · omega
  · constructor
    · intro h _
      have hacc := h.accepts.mp (by rw [he])
      omega
    · intro h
      have hlen : raw.length = word.length := Nat.le_antisymm (h hopen) hle
      have htake : raw.take word.length = raw := List.take_of_length_le (Nat.le_of_eq hlen)
      rw [htake] at hscored he
      refine ⟨?_, fun hr => ?_, fun _ => ⟨tiles, hscored, ?_⟩⟩
      · rw [he]
        exact ⟨fun _ => ⟨hopen, hlen⟩, fun _ => rfl⟩
      · rw [he] at hr
        exact absurd hr.symm Bool.false_ne_true
      · unfold step
        rw [he]
        refine ⟨rfl, hsolved, ?_⟩
        change failed = true ↔ _ ∧ (s.guesses ++ [_]).length = _
        rw [List.length_append, List.length_singleton]
        exact hfailed

/-- A session follows the rule, guess after guess, exactly as long as no guess is longer than the word. -/
theorem submitGuess_ruled (word : Str) (wisScore : UInt8) (hpos : 0 < word.length) (hlen : word.length ≤ 7)
    (guesses : List Str) : Walk.Along step (Ruled word) (init word wisScore) guesses ↔
      Walk.Along step (Short word) (init word wisScore) guesses := by
  have hs := init_sound wisScore hlen
  constructor
  · exact Walk.Along.trade (fun s raw hs _ => step_sound hs hpos raw) (fun s raw hs h => (ruled_iff hs hpos raw).mp h) hs
  · exact Walk.Along.trade (fun s raw hs _ => step_sound hs hpos raw) (fun s raw hs h => (ruled_iff hs hpos raw).mpr h) hs

theorem submitGuess_ruled_dungeon : Walk.Along step (Ruled (lit "DUNGEON")) (init (lit "DUNGEON") 17)
    [lit "cat", lit "gnomons", lit "dungeon", lit "dungeons"] :=
  (submitGuess_ruled (lit "DUNGEON") 17 (by decide) (by decide) _).mpr (by decide)

/-- A guess that is longer than the word is accepted for the letters it begins with. -/
theorem longGuess_accepted : ¬ Ruled (lit "ROGUE") (init (lit "ROGUE") 10) (lit "rogues") ∧
    ((init (lit "ROGUE") 10).submitGuess (lit "rogues")).1 = true ∧
    ((init (lit "ROGUE") 10).step (lit "rogues")).solved = true :=
  ⟨fun h => absurd (h.accepts.mp (by decide)).2 (by decide), by decide, by decide⟩

end MonsterMesh.WordleSession
