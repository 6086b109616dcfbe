import Ratatosk.Engine.SortedSets

/-!
# `ZADD`

`cmd_zadd` of `ratatosk-engine/src/command/cmd_sorted_set.rs`, without `INCR`, which it does not
take.

* `ZaddFlags`, `parseZadd`, `zaddStep`, `cmdZadd` — the flags, the arguments, one pair, the handler.
  A missing key gets its pairs by a loop of its own, which looks at no flag but `XX`.
* `zadd_list_iff` — **a list of pairs is added as the pairs one by one, unless the key is missing
  and a member is repeated**: then the last of its scores has to be the one the flags would have
  kept, and under `CH` no score may have changed (`KeepsLast`). Of the scores given for a member
  `NX` keeps the first, `GT` the greatest and `LT` the least (`history_fst`).
-/

namespace Ratatosk.Engine

open Lib Keyspace Resp List Option Finmap

/-! ## Arguments -/

/-- Source: `cmd_sorted_set.rs` `cmd_zadd` -/
structure ZaddFlags where
  nx : Bool
  xx : Bool
  gt : Bool
  lt : Bool
  ch : Bool
  deriving Repr, DecidableEq

/-- No flag. -/
def ZaddFlags.none : ZaddFlags := ⟨false, false, false, false, false⟩

/-- The flags with the one that a word names, if it names one. -/
def ZaddFlags.set (f : ZaddFlags) (word : Bytes) : Option ZaddFlags :=
  let upper := toUppercase word
  if upper = ascii "NX" then some { f with nx := true }
  else if upper = ascii "XX" then some { f with xx := true }
  else if upper = ascii "GT" then some { f with gt := true }
  else if upper = ascii "LT" then some { f with lt := true }
  else if upper = ascii "CH" then some { f with ch := true }
  else Option.none

/-- The loop over the flags: the flags, and the arguments after them. -/
def zaddFlags : List Bytes → ZaddFlags → ZaddFlags × List Bytes
  | [], f => (f, [])
  | word :: rest, f =>
    match f.set word with
    | some f => zaddFlags rest f
    | none => (f, word :: rest)

/-- The flags that are refused, with the text. -/
def ZaddFlags.conflict (f : ZaddFlags) : Option Bytes :=
  if f.nx && f.xx then some (ascii "ERR XX and NX options at the same time are not compatible")
  else if f.nx && (f.gt || f.lt) then
    some (ascii "ERR GT, LT, and NX options at the same time are not compatible")
  else Option.none

section arguments

variable (parseFloat : Bytes → Option Score)

/-- A score that is a number.
Source: `object.rs` `parse_f64`, and the check of `cmd_zadd` for NaN -/
def parseScore (raw : Bytes) : Option Score :=
  if validUtf8 raw then (parseFloat raw).filter (!·.isNan) else none

/-- The loop over the pairs. -/
def zaddPairs : List Bytes → Option (List (Score × Bytes))
  | scoreRaw :: member :: rest =>
    match parseScore parseFloat scoreRaw with
    | none => none
    | some score => (zaddPairs rest).map ((score, member) :: ·)
  | _ => some []

/-- The arguments after the key.
Source: `cmd_sorted_set.rs` `cmd_zadd` -/
def parseZadd (args : List Bytes) : Except Bytes (ZaddFlags × List (Score × Bytes)) :=
  let (f, rest) := zaddFlags args ZaddFlags.none
  if rest = [] then .error (wrongArityText (ascii "zadd"))
  else match f.conflict with
    | some text => .error text
    | none =>
      if rest.length % 2 ≠ 0 then .error (wrongArityText (ascii "zadd"))
      else match zaddPairs parseFloat rest with
        | none => .error (ascii "ERR value is not a valid float")
        | some pairs => .ok (f, pairs)

end arguments

/-! ## The handler -/

/-- The flags let the score of a member change. For equal bits the difference of the scores is zero
or NaN, and never above `f64::EPSILON`. -/
def ZaddFlags.rescores (f : ZaddFlags) (old new : Score) : Bool :=
  !f.nx && !(f.gt && new.leValue old) && !(f.lt && old.leValue new) && new != old

/-- A sorted set, the members added to it and the members added or changed. -/
structure ZaddState where
  scores : Finmap fun _ : Bytes => Score
  added : Nat
  changed : Nat

/-- One pair, when the key is there.
Source: `cmd_sorted_set.rs` `cmd_zadd` -/
def zaddStep (f : ZaddFlags) (s : ZaddState) (pair : Score × Bytes) : ZaddState :=
  match s.scores.lookup pair.2 with
  | some old =>
    if f.rescores old pair.1 then
      { s with scores := s.scores.insert pair.2 pair.1, changed := s.changed + 1 }
    else s
  | none =>
    if f.xx then s
    else ⟨s.scores.insert pair.2 pair.1, s.added + 1, s.changed + 1⟩

/-- The loop over the pairs, when the key is there. -/
def zaddAll (f : ZaddFlags) (pairs : List (Score × Bytes))
    (scores : Finmap fun _ : Bytes => Score) : ZaddState :=
  pairs.foldl (zaddStep f) ⟨scores, 0, 0⟩

/-- One pair, when the key is missing.
Source: `cmd_sorted_set.rs` `cmd_zadd` -/
def zaddFresh (s : (Finmap fun _ : Bytes => Score) × Nat) (pair : Score × Bytes) :
    (Finmap fun _ : Bytes => Score) × Nat :=
  (s.1.insert pair.2 pair.1, if (s.1.lookup pair.2).isSome then s.2 else s.2 + 1)

/-- The number that is replied. -/
def ZaddState.count (f : ZaddFlags) (s : ZaddState) : Nat := if f.ch then s.changed else s.added

/-- The handler, after its arguments are read.
Source: `cmd_sorted_set.rs` `cmd_zadd` -/
def zaddRun (f : ZaddFlags) (pairs : List (Score × Bytes)) (key : Bytes) (now : Int64) (db : Db) :
    Db × RespFrame :=
  let db := purgeExpiredKey db key now
  match db.lookup key with
  | none =>
    if f.xx then (db, .integer 0)
    else
      let (scores, added) := pairs.foldl zaddFresh (∅, 0)
      (db.insert key (newEntry (.sortedSet scores) none), sizeReply added)
  | some entry =>
    match entry.value with
    | .sortedSet scores =>
      let s := zaddAll f pairs scores
      (db.insert key { entry with value := .sortedSet s.scores }, sizeReply (s.count f))
    | _ => (db, wrongtype)

/-- Source: `cmd_sorted_set.rs` `cmd_zadd` -/
def cmdZadd (parseFloat : Bytes → Option Score) (err : Bytes → RespFrame) (args : List Bytes)
    (now : Int64) (db : Db) : Db × RespFrame :=
  match args with
  | key :: first :: second :: rest =>
    match parseZadd parseFloat (first :: second :: rest) with
    | .error text => (db, err text)
    | .ok (f, pairs) => zaddRun f pairs key now db
  | _ => (db, err (wrongArityText (ascii "zadd")))

/-! ## A list of pairs, and the pairs one by one -/

/-- Pairs with the scores as numbers. -/
def scoredPairs (parseFloat : Bytes → Option Score) (pairs : List (Bytes × Bytes)) :
    List (Score × Bytes) :=
  pairs.filterMap fun pair => (parseScore parseFloat pair.1).map (·, pair.2)

/-- A call whose arguments are accepted. -/
structure ZaddCall (parseFloat : Bytes → Option Score) where
  key : Bytes
  words : List Bytes
  pairs : List (Bytes × Bytes)
  pairs_ne_nil : pairs ≠ []
  /-- The words are flags. -/
  words_set : ∀ word ∈ words, (ZaddFlags.none.set word).isSome
  /-- The flags go together. -/
  compatible : (zaddFlags words ZaddFlags.none).1.conflict = none
  /-- The scores are numbers, and no number is a flag. -/
  scores_parse : ∀ pair ∈ pairs, (parseScore parseFloat pair.1).isSome ∧
    ZaddFlags.none.set pair.1 = none
  /-- The arguments fit in memory. -/
  size : pairs.length < 2 ^ 63

namespace ZaddCall

variable {parseFloat : Bytes → Option Score} (call : ZaddCall parseFloat)

/-- Its flags. -/
def flags : ZaddFlags := (zaddFlags call.words ZaddFlags.none).1

/-- Its pairs, with the scores as numbers. -/
def scored : List (Score × Bytes) := scoredPairs parseFloat call.pairs

/-- The arguments of the call with some of the pairs. -/
def args (pairs : List (Bytes × Bytes)) : List Bytes :=
  call.key :: (call.words ++ pairs.flatMap fun pair => [pair.1, pair.2])

end ZaddCall

/-- The number in a reply. -/
def integerOf : RespFrame → Int
  | .integer n => n.toInt
  | _ => 0

/-- One call for each pair, in order: the database, and the sum of the replies. -/
def zaddOneByOne {parseFloat : Bytes → Option Score} (err : Bytes → RespFrame)
    (call : ZaddCall parseFloat) (now : Int64) : List (Bytes × Bytes) → Db → Db × Int
  | [], db => (db, 0)
  | pair :: pairs, db =>
    let (db, reply) := cmdZadd parseFloat err (call.args [pair]) now db
    let (db, sum) := zaddOneByOne err call now pairs db
    (db, integerOf reply + sum)

/-- One call with all the pairs leaves the same database, and replies the sum of the replies. -/
def AddsOneByOne {parseFloat : Bytes → Option Score} (err : Bytes → RespFrame)
    (call : ZaddCall parseFloat) (now : Int64) (db : Db) : Prop :=
  (cmdZadd parseFloat err (call.args call.pairs) now db).1 =
      (zaddOneByOne err call now call.pairs db).1 ∧
    integerOf (cmdZadd parseFloat err (call.args call.pairs) now db).2 =
      (zaddOneByOne err call now call.pairs db).2

/-- The scores given for a member. -/
def given (pairs : List (Score × Bytes)) (member : Bytes) : List Score :=
  (pairs.filter (·.2 = member)).map (·.1)

/-- The next score given for a member: the score it has then, and how often it changed. -/
def historyStep (f : ZaddFlags) : Option (Score × Nat) → Score → Option (Score × Nat)
  | none, score => some (score, 0)
  | some (old, changes), score =>
    if f.rescores old score then some (score, changes + 1) else some (old, changes)

/-- What the flags make of the scores given for a member. -/
def history (f : ZaddFlags) (scores : List Score) : Option (Score × Nat) :=
  scores.foldl (historyStep f) none

/-- How often the score of a member changes after it was given first. -/
def changes (f : ZaddFlags) (scores : List Score) : Nat := ((history f scores).map (·.2)).getD 0

/-- The score that the flags keep of those given for a member: the first, the first of the greatest,
the first of the least or the last. -/
def ZaddFlags.kept (f : ZaddFlags) (scores : List Score) : Option Score :=
  if f.nx || (f.gt && f.lt) then scores.head?
  else if f.gt then scores.argmax Score.place
  else if f.lt then scores.argmin Score.place
  else scores.getLast?

/-- For each member the flags keep the last score given for it, and under `CH` none of the scores
given for it takes the place of the first. -/
def KeepsLast (f : ZaddFlags) (pairs : List (Score × Bytes)) : Prop :=
  ∀ member, f.kept (given pairs member) = (given pairs member).getLast? ∧
    (f.ch = true → ∀ first ∈ (given pairs member).head?, ∀ score ∈ given pairs member,
      f.rescores first score = false)

/-! ## Arguments are read as they were written -/

section parsing

variable {parseFloat : Bytes → Option Score}

lemma isSome_set (f g : ZaddFlags) (word : Bytes) : (f.set word).isSome = (g.set word).isSome := by
  unfold ZaddFlags.set
  dsimp only
  split_ifs <;> rfl

lemma zaddFlags_of_set {f g : ZaddFlags} {word : Bytes} (h : f.set word = some g)
    (rest : List Bytes) : zaddFlags (word :: rest) f = zaddFlags rest g := by
  rw [zaddFlags, h]

/-- The flags end where an argument names none. -/
lemma zaddFlags_append {words : List Bytes}
    (hwords : ∀ word ∈ words, (ZaddFlags.none.set word).isSome) {arg : Bytes}
    (harg : ZaddFlags.none.set arg = none) (rest : List Bytes) (f : ZaddFlags) :
    zaddFlags (words ++ arg :: rest) f = ((zaddFlags words f).1, arg :: rest) := by
  induction words generalizing f with
  | nil =>
    have hnone : f.set arg = none := by
      rw [← not_isSome_iff_eq_none, isSome_set f ZaddFlags.none, harg]
      exact Bool.false_ne_true
    simp only [nil_append, zaddFlags, hnone]
  | cons word words ih =>
    obtain ⟨g, hg⟩ : ∃ g, f.set word = some g := by
      rw [← isSome_iff_exists, isSome_set f ZaddFlags.none]
      exact hwords word mem_cons_self
    rw [cons_append, zaddFlags_of_set hg, zaddFlags_of_set hg]
    exact ih (fun w hw => hwords w (mem_cons_of_mem _ hw)) g

lemma zaddPairs_flatMap {pairs : List (Bytes × Bytes)}
    (hpairs : ∀ pair ∈ pairs, (parseScore parseFloat pair.1).isSome) :
    zaddPairs parseFloat (pairs.flatMap fun pair => [pair.1, pair.2]) =
      some (scoredPairs parseFloat pairs) := by
  induction pairs with
  | nil => rfl
  | cons pair pairs ih =>
    obtain ⟨score, hscore⟩ := isSome_iff_exists.mp (hpairs pair mem_cons_self)
    have hrest := ih fun p hp => hpairs p (mem_cons_of_mem _ hp)
    rw [flatMap_cons, cons_append, cons_append, nil_append, zaddPairs, hscore,
      hrest, scoredPairs, scoredPairs, filterMap_cons, hscore]
    rfl

/-- A call with some of the pairs runs its flags and these pairs. -/
lemma cmdZadd_args (call : ZaddCall parseFloat) (err : Bytes → RespFrame) (now : Int64) (db : Db)
    {pairs : List (Bytes × Bytes)} (hsub : pairs ⊆ call.pairs) (hne : pairs ≠ []) :
    cmdZadd parseFloat err (call.args pairs) now db =
      zaddRun call.flags (scoredPairs parseFloat pairs) call.key now db := by
  obtain ⟨head, tail, rfl⟩ := exists_cons_of_ne_nil hne
  have hscores := fun pair hpair => call.scores_parse pair (hsub hpair)
  have hparse : parseZadd parseFloat
      (call.words ++ (head :: tail).flatMap fun pair => [pair.1, pair.2]) =
        .ok (call.flags, scoredPairs parseFloat (head :: tail)) := by
    have hflags := zaddFlags_append call.words_set (hscores head mem_cons_self).2
      (head.2 :: tail.flatMap fun pair => [pair.1, pair.2]) ZaddFlags.none
    have heven :
        (head.1 :: head.2 :: tail.flatMap fun pair => [pair.1, pair.2]).length % 2 = 0 := by
      rw [length_cons, length_cons, length_flatMap]
      simp
      omega
    have hpairs := zaddPairs_flatMap fun pair hpair => (hscores pair hpair).1
    have hcompatible : (zaddFlags call.words ZaddFlags.none).1.conflict = none := call.compatible
    rw [parseZadd, flatMap_cons, cons_append, cons_append, nil_append, hflags]
    dsimp only
    rw [if_neg (cons_ne_nil _ _), hcompatible]
    dsimp only
    rw [if_neg (not_not.mpr heven)]
    rw [flatMap_cons, cons_append, cons_append, nil_append] at hpairs
    rw [hpairs]
    rfl
  rw [ZaddCall.args]
  generalize hwords : call.words = words at hparse
  cases words with
  | nil =>
    rw [flatMap_cons, cons_append, cons_append, nil_append,
      nil_append] at hparse ⊢
    rw [cmdZadd, hparse]
  | cons word words =>
    rw [cons_append] at hparse ⊢
    cases words with
    | nil =>
      rw [flatMap_cons, cons_append, nil_append] at hparse ⊢
      rw [cmdZadd, hparse]
    | cons word' words =>
      rw [cons_append] at hparse ⊢
      rw [cmdZadd, hparse]

end parsing

/-! ## Runs -/

section running

variable {f : ZaddFlags} {key : Bytes} {now : Int64} {db : Db}
  {scores : Finmap fun _ : Bytes => Score} {expireAtMs : Option Int64}

lemma zaddStep_of_some {s : ZaddState} {pair : Score × Bytes} {old : Score}
    (h : s.scores.lookup pair.2 = some old) : zaddStep f s pair =
      if f.rescores old pair.1 then
        { s with scores := s.scores.insert pair.2 pair.1, changed := s.changed + 1 }
      else s := by
  rw [zaddStep, h]

lemma zaddStep_of_none {s : ZaddState} {pair : Score × Bytes}
    (h : s.scores.lookup pair.2 = none) : zaddStep f s pair =
      if f.xx then s else ⟨s.scores.insert pair.2 pair.1, s.added + 1, s.changed + 1⟩ := by
  rw [zaddStep, h]

/-- The counts start where they start. -/
lemma foldl_zaddStep_eq (pairs : List (Score × Bytes)) (s : ZaddState) :
    pairs.foldl (zaddStep f) s =
      ⟨(zaddAll f pairs s.scores).scores, s.added + (zaddAll f pairs s.scores).added,
        s.changed + (zaddAll f pairs s.scores).changed⟩ := by
  induction pairs generalizing s with
  | nil => rfl
  | cons pair pairs ih =>
    have hstep : zaddStep f s pair =
        ⟨(zaddStep f ⟨s.scores, 0, 0⟩ pair).scores,
          s.added + (zaddStep f ⟨s.scores, 0, 0⟩ pair).added,
          s.changed + (zaddStep f ⟨s.scores, 0, 0⟩ pair).changed⟩ := by
      cases hold : s.scores.lookup pair.2 with
      | none =>
        rw [zaddStep_of_none hold, zaddStep_of_none (s := ⟨s.scores, 0, 0⟩) hold]
        split_ifs <;> simp
      | some old =>
        rw [zaddStep_of_some hold, zaddStep_of_some (s := ⟨s.scores, 0, 0⟩) hold]
        split_ifs <;> simp
    rw [zaddAll, foldl_cons, foldl_cons, ih (zaddStep f s pair),
      ih (zaddStep f ⟨s.scores, 0, 0⟩ pair), hstep]
    simp only [ZaddState.mk.injEq, true_and]
    omega

lemma scores_cons (f : ZaddFlags) (pair : Score × Bytes) (pairs : List (Score × Bytes))
    (scores : Finmap fun _ : Bytes => Score) :
    (zaddAll f (pair :: pairs) scores).scores =
      (zaddAll f pairs (zaddAll f [pair] scores).scores).scores := by
  rw [zaddAll, foldl_cons, foldl_zaddStep_eq]
  rfl

lemma count_cons (f : ZaddFlags) (pair : Score × Bytes) (pairs : List (Score × Bytes))
    (scores : Finmap fun _ : Bytes => Score) :
    (zaddAll f (pair :: pairs) scores).count f =
      (zaddAll f [pair] scores).count f +
        (zaddAll f pairs (zaddAll f [pair] scores).scores).count f := by
  rw [zaddAll, foldl_cons, foldl_zaddStep_eq]
  simp only [ZaddState.count]
  split <;> rfl

lemma count_le (f : ZaddFlags) (pairs : List (Score × Bytes))
    (scores : Finmap fun _ : Bytes => Score) : (zaddAll f pairs scores).count f ≤ pairs.length := by
  induction pairs generalizing scores with
  | nil => simp [zaddAll, ZaddState.count]
  | cons pair pairs ih =>
    have hone : (zaddAll f [pair] scores).count f ≤ 1 := by
      rw [zaddAll, foldl_cons, foldl_nil, ZaddState.count]
      cases hold : scores.lookup pair.2 with
      | none =>
        rw [zaddStep_of_none (s := ⟨scores, 0, 0⟩) hold]
        split_ifs <;> simp
      | some old =>
        rw [zaddStep_of_some (s := ⟨scores, 0, 0⟩) hold]
        split_ifs <;> simp
    have hrest := ih (zaddAll f [pair] scores).scores
    rw [count_cons, length_cons]
    omega

lemma integerOf_sizeReply {n : Nat} (h : n < 2 ^ 63) : integerOf (sizeReply n) = n :=
  Int64.toInt_ofNat_of_lt h

lemma purgeExpiredKey_of_found {entry : Entry} (h : liveLookup now db key = some entry) :
    purgeExpiredKey db key now = db := by
  refine purgeExpiredKey_of_live ?_
  rw [isExpired, (filter_eq_some_iff.mp h).1, any_some]
  exact any_of_live h

/-- The pairs are added to a sorted set that is there. -/
lemma zaddRun_stored (pairs : List (Score × Bytes))
    (h : liveLookup now db key = some ⟨.sortedSet scores, expireAtMs⟩) :
    zaddRun f pairs key now db =
      (db.insert key ⟨.sortedSet (zaddAll f pairs scores).scores, expireAtMs⟩,
        sizeReply ((zaddAll f pairs scores).count f)) := by
  rw [zaddRun, purgeExpiredKey_of_found h, (filter_eq_some_iff.mp h).1]

variable {parseFloat : Bytes → Option Score}

lemma exists_scored (call : ZaddCall parseFloat) {pair : Bytes × Bytes}
    (hpair : pair ∈ call.pairs) :
    ∃ score, ∀ pairs, scoredPairs parseFloat (pair :: pairs) =
      (score, pair.2) :: scoredPairs parseFloat pairs := by
  obtain ⟨score, hscore⟩ := isSome_iff_exists.mp (call.scores_parse pair hpair).1
  refine ⟨score, fun pairs => ?_⟩
  rw [scoredPairs, scoredPairs, filterMap_cons, hscore]
  rfl

/-- One after the other they are added in the same way. -/
lemma zaddOneByOne_stored (call : ZaddCall parseFloat) (err : Bytes → RespFrame)
    {pairs : List (Bytes × Bytes)} (hsub : pairs ⊆ call.pairs)
    (h : liveLookup now db call.key = some ⟨.sortedSet scores, expireAtMs⟩) :
    zaddOneByOne err call now pairs db =
      (db.insert call.key
        ⟨.sortedSet (zaddAll call.flags (scoredPairs parseFloat pairs) scores).scores, expireAtMs⟩,
        ((zaddAll call.flags (scoredPairs parseFloat pairs) scores).count call.flags : Int)) := by
  induction pairs generalizing db scores with
  | nil =>
    have hsame : db.insert call.key ⟨.sortedSet scores, expireAtMs⟩ = db :=
      FiniteMap.insert_eq_self (filter_eq_some_iff.mp h).1
    exact Prod.ext hsame.symm (by simp [zaddOneByOne, ZaddState.count, scoredPairs, zaddAll])
  | cons pair pairs ih =>
    have hpair : pair ∈ call.pairs := hsub mem_cons_self
    obtain ⟨score, hscored⟩ := exists_scored call hpair
    have hlive : expireAtMs.any (· ≤ now) = false := any_of_live h
    have hone := count_le call.flags [(score, pair.2)] scores
    have hnil : scoredPairs parseFloat [] = [] := rfl
    rw [zaddOneByOne, cmdZadd_args call err now db (by simpa using hpair)
      (cons_ne_nil _ _), hscored, hscored, hnil, zaddRun_stored _ h]
    dsimp only
    rw [ih (subset_of_cons_subset hsub) (liveLookup_insert _ _ hlive), insert_insert,
      integerOf_sizeReply (by rw [length_singleton] at hone; omega),
      scores_cons call.flags (score, pair.2) (scoredPairs parseFloat pairs),
      count_cons call.flags (score, pair.2) (scoredPairs parseFloat pairs), Nat.cast_add]

/-! ### A missing key -/

lemma zaddRun_missing_xx (pairs : List (Score × Bytes)) (h : liveLookup now db key = none)
    (hxx : f.xx = true) :
    zaddRun f pairs key now db = (purgeExpiredKey db key now, .integer 0) := by
  rw [zaddRun, lookup_purgeExpiredKey_self, h]
  exact if_pos hxx

lemma zaddRun_missing (pairs : List (Score × Bytes)) (h : liveLookup now db key = none)
    (hxx : f.xx = false) :
    zaddRun f pairs key now db =
      ((purgeExpiredKey db key now).insert key
        ⟨.sortedSet (pairs.foldl zaddFresh (∅, 0)).1, none⟩,
        sizeReply (pairs.foldl zaddFresh (∅, 0)).2) := by
  rw [zaddRun, lookup_purgeExpiredKey_self, h]
  exact if_neg (by simp [hxx])

lemma zaddOneByOne_missing_xx (call : ZaddCall parseFloat) (err : Bytes → RespFrame)
    {pairs : List (Bytes × Bytes)} (hsub : pairs ⊆ call.pairs)
    (h : liveLookup now db call.key = none) (hxx : call.flags.xx = true) (hne : pairs ≠ []) :
    zaddOneByOne err call now pairs db = (purgeExpiredKey db call.key now, 0) := by
  induction pairs generalizing db with
  | nil => exact absurd rfl hne
  | cons pair pairs ih =>
    have hpair : pair ∈ call.pairs := hsub mem_cons_self
    have hpurged : liveLookup now (purgeExpiredKey db call.key now) call.key = none := by
      rw [liveEq_purgeExpiredKey now db call.key call.key, h]
    have hagain : purgeExpiredKey (purgeExpiredKey db call.key now) call.key now =
        purgeExpiredKey db call.key now :=
      purgeExpiredKey_of_live (isExpired_purgeExpiredKey db call.key now)
    rw [zaddOneByOne, cmdZadd_args call err now db (by simpa using hpair)
      (cons_ne_nil _ _), zaddRun_missing_xx _ h hxx]
    dsimp only
    cases pairs with
    | nil => rfl
    | cons next pairs =>
      rw [ih (subset_of_cons_subset hsub) hpurged (cons_ne_nil _ _), hagain]
      rfl

lemma zaddOneByOne_missing (call : ZaddCall parseFloat) (err : Bytes → RespFrame)
    (h : liveLookup now db call.key = none) (hxx : call.flags.xx = false) :
    zaddOneByOne err call now call.pairs db =
      ((purgeExpiredKey db call.key now).insert call.key
        ⟨.sortedSet (zaddAll call.flags call.scored ∅).scores, none⟩,
        ((zaddAll call.flags call.scored ∅).count call.flags : Int)) := by
  rw [ZaddCall.scored]
  obtain ⟨pair, pairs, hpairs⟩ := exists_cons_of_ne_nil call.pairs_ne_nil
  have hsub : pair :: pairs ⊆ call.pairs := by
    rw [hpairs]
    exact List.Subset.refl _
  obtain ⟨score, hscored⟩ := exists_scored call (hsub mem_cons_self)
  have hnil : scoredPairs parseFloat [] = [] := rfl
  have hfresh : [(score, pair.2)].foldl zaddFresh (∅, 0) =
      ((zaddAll call.flags [(score, pair.2)] ∅).scores, 1) ∧
        (zaddAll call.flags [(score, pair.2)] ∅).count call.flags = 1 := by
    have hstep : zaddStep call.flags ⟨∅, 0, 0⟩ (score, pair.2) =
        ⟨Finmap.insert pair.2 score ∅, 1, 1⟩ := by
      rw [zaddStep_of_none (lookup_empty _), hxx, if_neg Bool.false_ne_true]
    rw [zaddAll, foldl_cons, foldl_nil, foldl_cons, foldl_nil, hstep]
    refine ⟨rfl, ?_⟩
    rw [ZaddState.count]
    split <;> rfl
  rw [hpairs, zaddOneByOne, cmdZadd_args call err now db (by simpa using hsub mem_cons_self)
    (cons_ne_nil _ _), hscored, hscored, hnil, zaddRun_missing _ h hxx, hfresh.1]
  dsimp only
  rw [zaddOneByOne_stored call err (subset_of_cons_subset hsub)
    (liveLookup_insert _ _ rfl), insert_insert, integerOf_sizeReply (by decide),
    scores_cons call.flags (score, pair.2) (scoredPairs parseFloat pairs),
    count_cons call.flags (score, pair.2) (scoredPairs parseFloat pairs), hfresh.2, Nat.cast_add]

end running

/-! ## The two loops -/

section loops

variable {f : ZaddFlags}

lemma given_append_of_eq (pairs : List (Score × Bytes)) (pair : Score × Bytes) :
    given (pairs ++ [pair]) pair.2 = given pairs pair.2 ++ [pair.1] := by
  simp [given]

lemma given_append_of_ne (pairs : List (Score × Bytes)) {pair : Score × Bytes} {member : Bytes}
    (h : member ≠ pair.2) : given (pairs ++ [pair]) member = given pairs member := by
  simp [given, h.symm]

/-- Without a look at the flags a member ends with the last score given for it. -/
lemma lookup_fresh (pairs : List (Score × Bytes)) (member : Bytes) :
    (pairs.foldl zaddFresh (∅, 0)).1.lookup member = (given pairs member).getLast? := by
  induction pairs using List.reverseRecOn with
  | nil => exact lookup_empty member
  | append_singleton pairs pair ih =>
    rw [List.foldl_append, foldl_cons, foldl_nil, zaddFresh]
    by_cases hmember : member = pair.2
    · rw [hmember, lookup_insert, given_append_of_eq, getLast?_concat]
    · rw [lookup_insert_of_ne _ hmember, given_append_of_ne pairs hmember, ih]

lemma history_append (scores : List Score) (score : Score) :
    history f (scores ++ [score]) = historyStep f (history f scores) score := by
  rw [history, List.foldl_append]
  rfl

lemma zaddAll_append (pairs : List (Score × Bytes)) (pair : Score × Bytes) :
    zaddAll f (pairs ++ [pair]) ∅ = zaddStep f (zaddAll f pairs ∅) pair := by
  rw [zaddAll, List.foldl_append]
  rfl

/-- The flags let a score take the place of another by their places, if both are numbers. -/
lemma rescores_iff {old new : Score} (hold : old.isNan = false) (hnew : new.isNan = false) :
    f.rescores old new = true ↔ f.nx = false ∧ (f.gt = true → old.place < new.place) ∧
      (f.lt = true → new.place < old.place) ∧ new ≠ old := by
  simp only [ZaddFlags.rescores, Bool.and_eq_true, Bool.not_eq_true', bne_iff_ne,
    ← Bool.not_eq_true, leValue_iff hnew hold, leValue_iff hold hnew]
  cases f.gt <;> cases f.lt <;> simp [and_assoc]

/-- One more score, and what the flags keep then. -/
lemma kept_append {scores : List Score} {score : Score} (hscore : score.isNan = false)
    (hscores : ∀ s ∈ scores, s.isNan = false) :
    f.kept (scores ++ [score]) = (f.kept scores).elim (some score) fun old =>
      if f.rescores old score then some score else some old := by
  unfold ZaddFlags.kept
  split_ifs with hfirst hgt hlt
  · cases scores with
    | nil => rfl
    | cons old rest =>
      have hkeep : ¬ f.rescores old score = true := by
        rw [rescores_iff (hscores old mem_cons_self) hscore]
        rintro ⟨hnx, hgt, hlt, -⟩
        rw [hnx, Bool.false_or, Bool.and_eq_true] at hfirst
        exact absurd (hgt hfirst.1) (hlt hfirst.2).not_gt
      rw [cons_append, head?_cons, head?_cons, Option.elim_some, if_neg hkeep]
  · rw [argmax_concat]
    obtain ⟨hnx, hlt⟩ : f.nx = false ∧ f.lt = false := by simpa [hgt] using hfirst
    cases hmax : scores.argmax Score.place with
    | none => rfl
    | some old =>
      have hrescores : f.rescores old score = true ↔ old.place < score.place := by
        rw [rescores_iff (hscores old (argmax_mem hmax)) hscore, hnx, hgt, hlt]
        exact ⟨fun h => h.2.1 rfl, fun h =>
          ⟨rfl, fun _ => h, fun hlt => absurd hlt Bool.false_ne_true, fun heq => (heq ▸ h).false⟩⟩
      simp only [Option.elim_some, hrescores]
  · rw [argmin_concat]
    have hnx : f.nx = false := by simp_all
    cases hmin : scores.argmin Score.place with
    | none => rfl
    | some old =>
      have hrescores : f.rescores old score = true ↔ score.place < old.place := by
        rw [rescores_iff (hscores old (argmin_mem hmin)) hscore, hnx, hlt]
        exact ⟨fun h => h.2.2.1 rfl, fun h =>
          ⟨rfl, fun hgt' => absurd hgt' hgt, fun _ => h, fun heq => (heq ▸ h).false⟩⟩
      simp only [Option.elim_some, hrescores]
  · rw [getLast?_concat]
    cases hlast : scores.getLast? with
    | none => rfl
    | some old =>
      have hrescores : f.rescores old score = true ↔ score ≠ old := by
        rw [rescores_iff (hscores old (mem_of_mem_getLast? hlast)) hscore]
        simp_all
      rw [Option.elim_some]
      split_ifs with hnew
      · rfl
      · rw [hrescores, not_not] at hnew
        rw [hnew]

/-- What the rounds over the scores of a member end with is what the flags keep. -/
lemma history_fst {scores : List Score} (hscores : ∀ s ∈ scores, s.isNan = false) :
    (history f scores).map (·.1) = f.kept scores := by
  induction scores using List.reverseRecOn with
  | nil =>
    unfold ZaddFlags.kept
    split_ifs <;> rfl
  | append_singleton scores score ih =>
    rw [forall_mem_append, forall_mem_singleton] at hscores
    rw [kept_append hscores.2 hscores.1, ← ih hscores.1, history_append]
    rcases history f scores with _ | ⟨old, changes⟩
    · rfl
    · rw [historyStep, Option.map_some, Option.elim_some]
      split_ifs <;> rfl

/-- The rounds that change a score, from the score that a member has. -/
lemma foldl_historyStep (rest : List Score) (old : Score) (n : Nat) :
    ∃ score m, rest.foldl (historyStep f) (some (old, n)) = some (score, m) ∧ n ≤ m ∧
      (m = n ↔ ∀ score ∈ rest, f.rescores old score = false) := by
  induction rest generalizing old n with
  | nil => exact ⟨old, n, rfl, le_rfl, by simp⟩
  | cons next rest ih =>
    rw [foldl_cons, historyStep]
    split_ifs with hnext
    · obtain ⟨score, m, hfold, hle, -⟩ := ih next (n + 1)
      refine ⟨score, m, hfold, by omega, iff_of_false (by omega) fun h => ?_⟩
      rw [h next mem_cons_self] at hnext
      cases hnext
    · obtain ⟨score, m, hfold, hle, hiff⟩ := ih old n
      refine ⟨score, m, hfold, hle, hiff.trans ?_⟩
      simp [hnext]

/-- No round changes the score exactly if no score given takes the place of the first. -/
lemma changes_eq_zero_iff (scores : List Score) :
    changes f scores = 0 ↔
      ∀ first ∈ scores.head?, ∀ score ∈ scores, f.rescores first score = false := by
  cases scores with
  | nil => simp [changes, history]
  | cons first rest =>
    obtain ⟨score, m, hfold, -, hiff⟩ := foldl_historyStep rest first 0 (f := f)
    have hchanges : changes f (first :: rest) = m := by
      rw [changes, history, foldl_cons, historyStep, hfold]
      rfl
    have hself : f.rescores first first = false := by simp [ZaddFlags.rescores]
    rw [hchanges, hiff]
    simp [hself]

/-- Under the flags it ends with the score that they keep. -/
lemma lookup_zaddAll (hxx : f.xx = false) (pairs : List (Score × Bytes)) (member : Bytes) :
    (zaddAll f pairs ∅).scores.lookup member = (history f (given pairs member)).map (·.1) := by
  induction pairs using List.reverseRecOn generalizing member with
  | nil => exact lookup_empty member
  | append_singleton pairs pair ih =>
    have hother : member ≠ pair.2 →
        (zaddStep f (zaddAll f pairs ∅) pair).scores.lookup member =
          (zaddAll f pairs ∅).scores.lookup member := by
      intro hne
      rw [zaddStep]
      split <;> split_ifs <;> first | rfl | exact lookup_insert_of_ne _ hne
    rw [zaddAll_append]
    by_cases hmember : member = pair.2
    · subst hmember
      have hold := ih pair.2
      rw [given_append_of_eq, history_append]
      cases hhistory : history f (given pairs pair.2) with
      | none =>
        rw [hhistory, map_none] at hold
        rw [zaddStep_of_none hold, hxx, if_neg Bool.false_ne_true, lookup_insert]
        rfl
      | some last =>
        rw [hhistory, map_some] at hold
        rw [zaddStep_of_some hold, historyStep]
        split_ifs
        · rw [lookup_insert]
          rfl
        · exact hold
    · rw [hother hmember, given_append_of_ne pairs hmember, ih]

lemma isSome_history (scores : List Score) :
    (history f scores).isSome = scores.getLast?.isSome := by
  induction scores using List.reverseRecOn with
  | nil => rfl
  | append_singleton scores score ih =>
    rw [history_append, getLast?_concat]
    cases history f scores with
    | none => rfl
    | some last =>
      rw [historyStep]
      split_ifs <;> rfl

/-- The loops add the same members. -/
lemma added_fresh (hxx : f.xx = false) (pairs : List (Score × Bytes)) :
    (pairs.foldl zaddFresh (∅, 0)).2 = (zaddAll f pairs ∅).added := by
  induction pairs using List.reverseRecOn with
  | nil => rfl
  | append_singleton pairs pair ih =>
    have hsome : ((pairs.foldl zaddFresh (∅, 0)).1.lookup pair.2).isSome =
        ((zaddAll f pairs ∅).scores.lookup pair.2).isSome := by
      rw [lookup_fresh, lookup_zaddAll hxx, isSome_map, isSome_history]
    rw [zaddAll_append, List.foldl_append, foldl_cons, foldl_nil, zaddFresh]
    dsimp only
    rw [hsome, ih]
    cases hold : (zaddAll f pairs ∅).scores.lookup pair.2 with
    | none =>
      rw [zaddStep_of_none hold, hxx]
      rfl
    | some old =>
      rw [zaddStep_of_some hold, isSome_some, if_pos rfl]
      split_ifs <;> rfl

/-- Under the flags no more is changed than added if no score changes after it was given first. -/
lemma changed_eq_added_iff (hxx : f.xx = false) (pairs : List (Score × Bytes)) :
    (zaddAll f pairs ∅).added ≤ (zaddAll f pairs ∅).changed ∧
      ((zaddAll f pairs ∅).added = (zaddAll f pairs ∅).changed ↔
        ∀ member, changes f (given pairs member) = 0) := by
  induction pairs using List.reverseRecOn with
  | nil => exact ⟨le_rfl, iff_of_true rfl fun _ => rfl⟩
  | append_singleton pairs pair ih =>
    obtain ⟨hle, hiff⟩ := ih
    have hlookup := lookup_zaddAll hxx pairs pair.2
    -- only the member of the pair has a new score in its history
    have hnew : changes f (given (pairs ++ [pair]) pair.2) =
        ((historyStep f (history f (given pairs pair.2)) pair.1).map (·.2)).getD 0 := by
      rw [changes, given_append_of_eq, history_append]
    have hsame : changes f (given (pairs ++ [pair]) pair.2) = changes f (given pairs pair.2) →
        ((∀ member, changes f (given (pairs ++ [pair]) member) = 0) ↔
          ∀ member, changes f (given pairs member) = 0) := by
      intro hkept
      refine forall_congr' fun member => ?_
      by_cases hmember : member = pair.2
      · rw [hmember, hkept]
      · rw [given_append_of_ne pairs hmember]
    rw [zaddAll_append]
    cases hhistory : history f (given pairs pair.2) with
    | none =>
      rw [hhistory, map_none] at hlookup
      rw [hhistory] at hnew
      rw [hsame (by rw [hnew, changes, hhistory]; rfl), ← hiff, zaddStep_of_none hlookup, hxx]
      simp only [Bool.false_eq_true, if_false]
      omega
    | some last =>
      rw [hhistory, map_some] at hlookup
      rw [hhistory, historyStep] at hnew
      rw [zaddStep_of_some hlookup]
      by_cases hrescores : f.rescores last.1 pair.1 = true
      · rw [if_pos hrescores] at hnew ⊢
        refine ⟨Nat.le_succ_of_le hle, iff_of_false (by dsimp only; omega) fun hzero => ?_⟩
        exact absurd (hnew.symm.trans (hzero pair.2)) (Nat.succ_ne_zero _)
      · rw [if_neg hrescores] at hnew ⊢
        rw [hsame (by rw [hnew, changes, hhistory]), ← hiff]
        exact ⟨hle, Iff.rfl⟩

/-- The loops agree, in the sorted set and in what is counted, if the last scores are kept. -/
lemma loops_agree_iff (hxx : f.xx = false) (pairs : List (Score × Bytes))
    (hpairs : ∀ pair ∈ pairs, pair.1.isNan = false) :
    ((pairs.foldl zaddFresh (∅, 0)).1 = (zaddAll f pairs ∅).scores ∧
        (pairs.foldl zaddFresh (∅, 0)).2 = (zaddAll f pairs ∅).count f) ↔ KeepsLast f pairs := by
  have hscores : (pairs.foldl zaddFresh (∅, 0)).1 = (zaddAll f pairs ∅).scores ↔
      ∀ member, f.kept (given pairs member) = (given pairs member).getLast? := by
    have hgiven : ∀ member, ∀ score ∈ given pairs member, score.isNan = false := by
      intro member score hscore
      obtain ⟨pair, hpair, rfl⟩ := mem_map.mp hscore
      exact hpairs pair (mem_of_mem_filter hpair)
    constructor
    · intro h member
      rw [← lookup_fresh, ← history_fst (hgiven member), ← lookup_zaddAll hxx, h]
    · intro h
      refine ext_lookup fun member => ?_
      rw [lookup_fresh, lookup_zaddAll hxx, history_fst (hgiven member), h]
  have hcount : (pairs.foldl zaddFresh (∅, 0)).2 = (zaddAll f pairs ∅).count f ↔
      (f.ch = true → ∀ member, changes f (given pairs member) = 0) := by
    rw [added_fresh hxx, ZaddState.count]
    split_ifs with hch
    · rw [(changed_eq_added_iff hxx pairs).2]
      simp [hch]
    · simp [hch]
  simp only [changes_eq_zero_iff] at hcount
  rw [hscores, hcount, KeepsLast, forall_and]
  exact and_congr_right fun _ => forall_comm

end loops

/-! ## A list is added as its pairs one by one -/

section main

variable {parseFloat : Bytes → Option Score} {err : Bytes → RespFrame} {now : Int64} {db : Db}

/-- The key holds a sorted set, or is missing. -/
def SortedSetOrMissing (now : Int64) (db : Db) (key : Bytes) : Prop :=
  ∀ entry, liveLookup now db key = some entry → ∃ scores, entry.value = .sortedSet scores

lemma length_scored (call : ZaddCall parseFloat) : call.scored.length < 2 ^ 63 :=
  (length_filterMap_le _ _).trans_lt call.size

/-- The scores of an accepted call are numbers. -/
lemma isNan_scored (call : ZaddCall parseFloat) : ∀ pair ∈ call.scored, pair.1.isNan = false := by
  intro pair hpair
  obtain ⟨raw, -, hraw⟩ := mem_filterMap.mp hpair
  obtain ⟨score, hscore, rfl⟩ := Option.map_eq_some_iff.mp hraw
  unfold parseScore at hscore
  split_ifs at hscore
  simpa using (Option.filter_eq_some_iff.mp hscore).2

lemma cmdZadd_pairs (call : ZaddCall parseFloat) :
    cmdZadd parseFloat err (call.args call.pairs) now db =
      zaddRun call.flags call.scored call.key now db :=
  cmdZadd_args call err now db (List.Subset.refl _) call.pairs_ne_nil

/-- To a missing key the list is added as the pairs one by one if the two loops agree. -/
lemma addsOneByOne_missing_iff (call : ZaddCall parseFloat)
    (h : liveLookup now db call.key = none) (hxx : call.flags.xx = false) :
    AddsOneByOne err call now db ↔ KeepsLast call.flags call.scored := by
  have hcount := (count_le call.flags call.scored ∅).trans_lt (length_scored call)
  have hadded : (call.scored.foldl zaddFresh (∅, 0)).2 < 2 ^ 63 := by
    rw [added_fresh hxx]
    refine lt_of_le_of_lt ?_ hcount
    rw [ZaddState.count]
    split
    · exact (changed_eq_added_iff hxx call.scored).1
    · exact le_rfl
  rw [← loops_agree_iff hxx _ (isNan_scored call), AddsOneByOne, cmdZadd_pairs, zaddRun_missing _ h hxx,
    zaddOneByOne_missing call err h hxx]
  dsimp only
  rw [integerOf_sizeReply hadded, Nat.cast_inj]
  refine and_congr_left fun _ => ?_
  constructor
  · intro hdb
    have hentry := congrArg (Finmap.lookup call.key) hdb
    rw [lookup_insert, lookup_insert] at hentry
    simpa using hentry
  · intro hscores
    rw [hscores]

/-- **A list of pairs is added as the pairs one by one, unless the key is missing and the loop for
it leaves another score or counts less than the flags would.** -/
theorem zadd_list_iff (call : ZaddCall parseFloat) (hkey : SortedSetOrMissing now db call.key) :
    AddsOneByOne err call now db ↔
      ¬ (liveLookup now db call.key = none ∧ call.flags.xx = false ∧
        ¬ KeepsLast call.flags call.scored) := by
  cases hlive : liveLookup now db call.key with
  | none =>
    cases hxx : call.flags.xx with
    | false =>
      rw [addsOneByOne_missing_iff call hlive hxx]
      simp
    | true =>
      have hone := zaddOneByOne_missing_xx call err (List.Subset.refl _) hlive hxx
        call.pairs_ne_nil
      rw [AddsOneByOne, cmdZadd_pairs, zaddRun_missing_xx _ hlive hxx, hone]
      simp [integerOf]
  | some entry =>
    obtain ⟨value, expireAtMs⟩ := entry
    obtain ⟨scores, rfl⟩ := hkey _ hlive
    have hcount := (count_le call.flags call.scored scores).trans_lt (length_scored call)
    have hone := zaddOneByOne_stored call err (List.Subset.refl _) hlive
    rw [AddsOneByOne, cmdZadd_pairs, zaddRun_stored _ hlive, hone]
    dsimp only
    rw [integerOf_sizeReply hcount]
    simp [ZaddCall.scored]

/-- The numbers one and two. -/
def parseOneTwo (raw : Bytes) : Option Score :=
  if raw = ascii "1" then some 0x3FF0000000000000
  else if raw = ascii "2" then some 0x4000000000000000
  else none

/-- `ZADD k flag 1 a 2 a`. -/
def repeatCall (flag : Bytes) (hflag : (ZaddFlags.none.set flag).isSome)
    (hcompatible : (zaddFlags [flag] ZaddFlags.none).1.conflict = none) : ZaddCall parseOneTwo where
  key := ascii "k"
  words := [flag]
  pairs := [(ascii "1", ascii "a"), (ascii "2", ascii "a")]
  pairs_ne_nil := cons_ne_nil _ _
  words_set := by simpa using hflag
  compatible := hcompatible
  scores_parse := by decide +kernel
  size := by decide

/-- `ZADD k NX 1 a 2 a` on a missing key leaves the score 2, which `NX` would not have let in. -/
theorem zadd_nx_repeated :
    ¬ AddsOneByOne .error (repeatCall (ascii "NX") (by decide) (by decide)) 0 ∅ := by
  rw [addsOneByOne_missing_iff _ rfl (by decide)]
  intro hkeeps
  exact absurd (hkeeps (ascii "a")).1 (by decide +kernel)

/-- `ZADD k GT 1 a 2 a` leaves the score 2 in either way. -/
theorem zadd_gt_repeated :
    AddsOneByOne .error (repeatCall (ascii "GT") (by decide) (by decide)) 0 ∅ := by
  refine (zadd_list_iff _ ?_).mpr ?_
  · intro entry hentry
    cases hentry
  · rintro ⟨-, -, hloses⟩
    refine hloses fun member => ⟨?_, fun hch => absurd hch (by decide)⟩
    by_cases hmember : member = ascii "a"
    · rw [hmember]
      decide +kernel
    · have hscored : (repeatCall (ascii "GT") (by decide) (by decide)).scored =
          [(0x3FF0000000000000, ascii "a"), (0x4000000000000000, ascii "a")] := by
        decide +kernel
      have hnone : given (repeatCall (ascii "GT") (by decide) (by decide)).scored member = [] := by
        rw [hscored, given]
        simp [Ne.symm hmember]
      rw [hnone]
      rfl

end main

end Ratatosk.Engine
