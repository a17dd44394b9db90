import Mapsmith.Proofs.Pass
import Mathlib.Data.Finset.Card
import Mathlib.Data.List.DropRight

/-!
# What a cache remembers

A cache of bounded size is to be told from the history of its calls alone. What has been used, stored
or found, stands in the order of its last use (`Mapsmith.PlanCache.usedKeys` without repetitions, the
last one of every key kept), and the cache holds the end of that order, as long as it has room. So one
step keeps `Mapsmith.PlanCache.Reflects`, which says just this, and a run of calls keeps it with it.

The position of a key in the order is the number of other keys that were used after it, whatever was
forgotten and stored again in the meantime. Hence a key is there exactly if it was stored and fewer
others than there is room for were used since (`Mapsmith.PlanCache.least_recently_used`).
-/

namespace Mapsmith.PlanCache

/-! ### The end of a row -/

section Lists

variable {α : Type} [DecidableEq α] {l : List α} {k : α} {n : Nat}

/-- Something that comes in at the end takes the place of what it was before. -/
theorem dedup_concat (l : List α) (k : α) :
    (l ++ [k]).dedup = l.dedup.filter (· ≠ k) ++ [k] := by
  induction l with
  | nil => rfl
  | cons x l ih =>
    by_cases hx : x ∈ l ++ [k]
    · rw [List.cons_append, List.dedup_cons_of_mem hx, ih]
      by_cases hmem : x ∈ l
      · rw [List.dedup_cons_of_mem hmem]
      · obtain rfl : x = k := by simpa [hmem] using hx
        rw [List.dedup_cons_of_notMem hmem, List.filter_cons_of_neg (by simp)]
    · have hne : x ∉ l ∧ x ≠ k := by simpa using hx
      rw [List.cons_append, List.dedup_cons_of_notMem hx, ih, List.dedup_cons_of_notMem hne.1,
        List.filter_cons_of_pos (by simp [hne.2]), List.cons_append]

/-- Where nothing is repeated, one element is taken out at most. -/
theorem length_le_filter_ne (h : l.Nodup) (k : α) : l.length ≤ (l.filter (· ≠ k)).length + 1 := by
  have herase : l.filter (· ≠ k) = l.erase k := by
    rw [h.erase_eq_filter]
    exact List.filter_congr fun x _ => by by_cases hx : x = k <;> simp [hx]
  rw [herase, List.length_erase]
  split <;> omega

omit [DecidableEq α] in
theorem rtake_append_of_le {a b : List α} (h : n ≤ b.length) : (a ++ b).rtake n = b.rtake n := by
  have hpast : (a ++ b).length - n = a.length + (b.length - n) := by
    rw [List.length_append]
    omega
  rw [List.rtake, List.rtake, hpast, ← List.drop_drop, List.drop_left]

/-- **The end of the order after a use** shows in the end of the order before it. -/
theorem rtake_use (h : l.Nodup) (k : α) :
    ((l.rtake n).filter (· ≠ k) ++ [k]).rtake n = (l.filter (· ≠ k) ++ [k]).rtake n := by
  by_cases hlong : l.length ≤ n
  · rw [show l.rtake n = l by rw [List.rtake, Nat.sub_eq_zero_of_le hlong, List.drop_zero]]
  · have hend : (l.rtake n).length = n := by
      rw [List.rtake, List.length_drop]
      omega
    have hnodup : (l.rtake n).Nodup := h.sublist (List.drop_sublist _ _)
    -- what the use leaves of the end, and the new element, are enough
    have henough : n ≤ ((l.rtake n).filter (· ≠ k) ++ [k]).length := by
      have hleft := length_le_filter_ne hnodup k
      rw [List.length_append, List.length_singleton]
      omega
    have hsplit : l.filter (· ≠ k) ++ [k] =
        (l.take (l.length - n)).filter (· ≠ k) ++ ((l.rtake n).filter (· ≠ k) ++ [k]) := by
      rw [← List.append_assoc, ← List.filter_append, List.rtake, List.take_append_drop]
    rw [hsplit, rtake_append_of_le henough]

omit [DecidableEq α] in
/-- Where nothing is repeated, what stands near the end has few others after it. -/
theorem mem_rtake_append {first last : List α} (h : (first ++ k :: last).Nodup) :
    k ∈ (first ++ k :: last).rtake n ↔ last.length < n := by
  obtain ⟨-, hrest, hdisjoint⟩ := List.nodup_append.1 h
  have hfirst : k ∉ first := fun hmem => hdisjoint k hmem k List.mem_cons_self rfl
  have hlast : k ∉ last := (List.nodup_cons.1 hrest).1
  constructor
  · intro hmem
    by_contra hlong
    have hle : n ≤ last.length := by omega
    rw [← List.singleton_append, ← List.append_assoc, rtake_append_of_le hle] at hmem
    exact hlast (List.mem_of_mem_drop hmem)
  · intro hlt
    have hle : (first ++ k :: last).length - n ≤ first.length := by
      rw [List.length_append, List.length_cons]
      omega
    rw [List.rtake, List.drop_append_of_le_length hle]
    exact List.mem_append_right _ List.mem_cons_self

/-- **The place of an element in the order** is the number of others after its last use. -/
theorem mem_rtake_dedup :
    k ∈ l.dedup.rtake n ↔ k ∈ l ∧ (l.rtakeWhile (· ≠ k)).toFinset.card < n := by
  by_cases hk : k ∈ l
  · obtain ⟨before, after, rfl, hafter⟩ : ∃ before after, l = before ++ k :: after ∧ k ∉ after := by
      obtain ⟨after, before, hsplit, hafter⟩ := List.eq_append_cons_of_mem (List.mem_reverse.2 hk)
      refine ⟨before.reverse, after.reverse, ?_, by rwa [List.mem_reverse]⟩
      rw [← List.reverse_reverse l, hsplit]
      simp
    have hsince : (before ++ k :: after).rtakeWhile (· ≠ k) = after := by
      have hall : ∀ x ∈ after.reverse, decide (x ≠ k) = true := by
        intro x hx
        refine decide_eq_true ?_
        rintro rfl
        exact hafter (List.mem_reverse.1 hx)
      rw [List.rtakeWhile, List.reverse_append, List.reverse_cons, List.append_assoc,
        List.takeWhile_append_of_pos hall]
      simp
    obtain ⟨first, -, hfirst⟩ := List.sublist_suffix_of_union before (k :: after.dedup)
    have horder : (before ++ k :: after).dedup = first ++ k :: after.dedup := by
      rw [List.dedup_append, List.dedup_cons_of_notMem hafter, hfirst]
    have hnodup : (first ++ k :: after.dedup).Nodup := horder ▸ List.nodup_dedup _
    rw [hsince, horder, mem_rtake_append hnodup, List.card_toFinset]
    exact (and_iff_right hk).symm
  · have hnot : k ∉ l.dedup.rtake n := fun h => hk (List.mem_dedup.1 (List.mem_of_mem_drop h))
    exact iff_of_false hnot fun h => hk h.1

end Lists

/-! ### Histories -/

variable {κ ν : Type}

/-- A call of a cache. -/
inductive Call (κ ν : Type)
  /-- A key is looked up. -/
  | get (key : κ)
  /-- A value is stored under a key. -/
  | put (key : κ) (value : ν)
  /-- Everything is forgotten. -/
  | clear

/-- What a call comes to. -/
inductive Event (κ ν : Type)
  /-- A key was looked up, with this answer. -/
  | got (key : κ) (answer : Option ν)
  /-- A value was stored under a key. -/
  | stored (key : κ) (value : ν)
  /-- Everything was forgotten. -/
  | cleared

namespace Event

/-- The key that is used: one that is stored, or looked up and found. -/
def used : Event κ ν → Option κ
  | got key (some _) | stored key _ => some key
  | got _ none | cleared => none

/-- The value that is stored under a key. -/
def value? [DecidableEq κ] (key : κ) : Event κ ν → Option ν
  | stored k value => if k = key then some value else none
  | got _ _ | cleared => none

/-- Was everything forgotten? -/
def isClear : Event κ ν → Bool
  | cleared => true
  | got _ _ | stored _ _ => false

/-- Was a key looked up and found? -/
def isHit : Event κ ν → Bool
  | got _ (some _) => true
  | got _ none | stored _ _ | cleared => false

/-- Was a key looked up in vain? -/
def isMiss : Event κ ν → Bool
  | got _ none => true
  | got _ (some _) | stored _ _ | cleared => false

/-- Was a key looked up? -/
def isLookup : Event κ ν → Bool
  | got _ _ => true
  | stored _ _ | cleared => false

end Event

/-- What has happened since everything was forgotten for the last time. -/
def sinceClear (history : List (Event κ ν)) : List (Event κ ν) :=
  history.rtakeWhile fun e => !e.isClear

/-- The keys that were used, in order. -/
def usedKeys (history : List (Event κ ν)) : List κ :=
  history.filterMap Event.used

section Histories

variable [DecidableEq κ]

/-- What a call of a cache comes to, and the cache that it leaves. -/
def step (cache : PlanCache κ ν) : Call κ ν → Event κ ν × PlanCache κ ν
  | .get key => (.got key (cache.get key).1, (cache.get key).2)
  | .put key value => (.stored key value, cache.put key value)
  | .clear => (.cleared, cache.clear)

/-- What calls one after another come to, and the cache that they leave. -/
def run (cache : PlanCache κ ν) : List (Call κ ν) → List (Event κ ν) × PlanCache κ ν
  | [] => ([], cache)
  | call :: calls =>
    let (event, next) := cache.step call
    let (events, last) := next.run calls
    (event :: events, last)

/-- The other keys that were used after the last use of a key. -/
def othersSince (history : List (Event κ ν)) (key : κ) : Finset κ :=
  ((history.rtakeWhile fun e => e.used.all (· ≠ key)).filterMap Event.used).toFinset

/-- The value that was stored last under a key. -/
def lastStored (history : List (Event κ ν)) (key : κ) : Option ν :=
  history.reverse.findSome? (·.value? key)

/-- **Does a cache remember of a history what was used least long ago?** It holds a key that was
stored, if fewer other keys than it has room for were used since its last use, and under the key the
value that was stored last. It holds no more entries than it has room for, and counts what it was
asked. -/
structure Remembers (n : Nat) (history : List (Event κ ν)) (cache : PlanCache κ ν) : Prop where
  contains_iff : ∀ key, cache.contains key = true ↔
    (∃ value, .stored key value ∈ history) ∧ (othersSince history key).card < n
  get_eq : ∀ key, (cache.get key).1 =
    if cache.contains key = true then lastStored history key else none
  size_le : cache.size ≤ n
  counts : cache.hits + cache.misses = history.countP Event.isLookup

end Histories

/-! ### The cache as the end of the order of use -/

section Reflects

variable [DecidableEq κ] {cache : PlanCache κ ν} {history past : List (Event κ ν)}
  {entries : List (κ × ν)} {key : κ} {value : ν} {n : Nat}

theorem othersSince_eq (history : List (Event κ ν)) (key : κ) :
    othersSince history key = ((usedKeys history).rtakeWhile (· ≠ key)).toFinset := by
  rw [othersSince, usedKeys, List.rtakeWhile, List.rtakeWhile, ← List.filterMap_reverse,
    List.takeWhile_filterMap, List.filterMap_reverse]

omit [DecidableEq κ] in
theorem usedKeys_concat (history : List (Event κ ν)) (e : Event κ ν) :
    usedKeys (history ++ [e]) = usedKeys history ++ e.used.toList := by
  rw [usedKeys, List.filterMap_append]
  cases h : e.used <;> simp [usedKeys, h]

theorem lastStored_concat (history : List (Event κ ν)) (e : Event κ ν) (key : κ) :
    lastStored (history ++ [e]) key = (e.value? key).or (lastStored history key) := by
  rw [lastStored, List.reverse_append, List.findSome?_append]
  simp [lastStored]

theorem exists_stored_of_lastStored (h : lastStored history key = some value) :
    .stored key value ∈ history := by
  obtain ⟨e, he, hvalue⟩ := List.exists_of_findSome?_eq_some h
  cases e with
  | stored k v =>
    rw [Event.value?] at hvalue
    split at hvalue
    next hk =>
      cases hvalue
      exact hk ▸ List.mem_reverse.1 he
    · cases hvalue
  | got => cases hvalue
  | cleared => cases hvalue

omit [DecidableEq κ] in
theorem countP_hits_misses (history : List (Event κ ν)) :
    history.countP Event.isHit + history.countP Event.isMiss = history.countP Event.isLookup := by
  induction history with
  | nil => rfl
  | cons e history ih =>
    simp only [List.countP_cons, ← ih]
    rcases e with ⟨key, _ | value⟩ | ⟨key, value⟩ | _ <;>
      simp [Event.isHit, Event.isMiss, Event.isLookup] <;> omega

theorem map_without (entries : List (κ × ν)) (key : κ) :
    (without entries key).map (·.1) = (entries.map (·.1)).filter (· ≠ key) := by
  rw [without, List.filter_map]
  rfl

/-- **Is a cache the end of the order of use?** Its keys are the last ones in the order of their last use
in a history, with the values that were stored last, and it counts what was found and what was not. -/
structure Reflects (n : Nat) (history : List (Event κ ν)) (cache : PlanCache κ ν) : Prop where
  capacity : cache.capacity = n
  keys : cache.entries.map (·.1) = (usedKeys history).dedup.rtake n
  values : ∀ e ∈ cache.entries, lastStored history e.1 = some e.2
  hits : cache.hits = history.countP Event.isHit
  misses : cache.misses = history.countP Event.isMiss

theorem reflects_new (n : Nat) : Reflects n [] ({ capacity := n } : PlanCache κ ν) :=
  ⟨rfl, by simp [usedKeys], nofun, rfl, rfl⟩

/-- A used key comes to the end of the order, and so does its entry. -/
theorem keys_use (h : entries.map (·.1) = (usedKeys history).dedup.rtake n) (key : κ) (value : ν) :
    ((without entries key ++ [(key, value)]).map (·.1)).rtake n =
      (usedKeys history ++ [key]).dedup.rtake n := by
  rw [List.map_append, map_without, h, dedup_concat]
  exact rtake_use (List.nodup_dedup _) key

theorem Reflects.length_le (h : Reflects n history cache) : cache.entries.length ≤ n := by
  have hlength := congrArg List.length h.keys
  rw [List.length_map, List.rtake, List.length_drop] at hlength
  omega

theorem Reflects.get (h : Reflects n history cache) (key : κ) :
    Reflects n (history ++ [.got key (cache.get key).1]) (cache.get key).2 := by
  have hvalues : ∀ answer, ∀ e ∈ (cache.get key).2.entries,
      lastStored (history ++ [.got key answer]) e.1 = some e.2 := by
    intro answer e he
    rw [lastStored_concat, Event.value?, Option.none_or]
    exact h.values e (mem_of_mem_get he)
  cases hpeek : cache.peek key with
  | none =>
    have hget : cache.get key = (none, { cache with misses := cache.misses + 1 }) := by
      rw [PlanCache.get, hpeek]
    rw [hget] at hvalues ⊢
    refine ⟨h.capacity, ?_, hvalues none, ?_, ?_⟩
    · rw [usedKeys_concat, Event.used, Option.toList_none, List.append_nil]
      exact h.keys
    · simp [h.hits, Event.isHit]
    · simp [h.misses, Event.isMiss]
  | some value =>
    have hget : cache.get key = (some value, { cache with
        entries := without cache.entries key ++ [(key, value)], hits := cache.hits + 1 }) := by
      rw [PlanCache.get, hpeek]
    rw [hget] at hvalues ⊢
    refine ⟨h.capacity, ?_, hvalues (some value), ?_, ?_⟩
    · -- the entry moves, so there is still room for all of them
      have hfewer : (without cache.entries key).length < cache.entries.length :=
        List.length_filter_lt_length_iff_exists.2 ⟨_, peek_eq_some hpeek, by simp⟩
      have hroom : ((without cache.entries key ++ [(key, value)]).map (·.1)).length ≤ n := by
        have hle := h.length_le
        rw [List.length_map, List.length_append, List.length_singleton]
        omega
      have hend := keys_use h.keys key value
      rw [List.rtake, Nat.sub_eq_zero_of_le hroom, List.drop_zero] at hend
      rw [usedKeys_concat]
      exact hend
    · simp [h.hits, Event.isHit]
    · simp [h.misses, Event.isMiss]

theorem Reflects.put (h : Reflects n history cache) (key : κ) (value : ν) :
    Reflects n (history ++ [.stored key value]) (cache.put key value) := by
  by_cases hn : cache.capacity = 0
  · have hput : cache.put key value = cache := if_pos hn
    have hnone : n = 0 := h.capacity.symm.trans hn
    have hempty : cache.entries = [] :=
      List.eq_nil_of_length_eq_zero (Nat.le_zero.1 (hnone ▸ h.length_le))
    rw [hput]
    refine ⟨h.capacity, by simp [hempty, hnone], by simp [hempty], ?_, ?_⟩
    · simp [h.hits, Event.isHit]
    · simp [h.misses, Event.isMiss]
  · have hput : cache.put key value = { cache with
        entries := (without cache.entries key ++ [(key, value)]).rtake n } := by
      rw [PlanCache.put, if_neg hn, h.capacity, List.rtake]
    rw [hput]
    refine ⟨h.capacity, ?_, fun e he => ?_, ?_, ?_⟩
    · have hend := keys_use h.keys key value
      rw [List.rtake, ← List.map_drop, List.length_map] at hend
      rw [usedKeys_concat]
      exact hend
    · rw [lastStored_concat]
      rcases List.mem_append.1 (List.mem_of_mem_drop he) with he | he
      · -- an entry of another key stands for what was stored before
        have hne : e.1 ≠ key := by simpa using (List.mem_filter.1 he).2
        rw [Event.value?, if_neg (Ne.symm hne), Option.none_or]
        exact h.values e (mem_of_mem_without he)
      · obtain rfl := List.mem_singleton.1 he
        rw [Event.value?, if_pos rfl, Option.some_or]
    · simp [h.hits, Event.isHit]
    · simp [h.misses, Event.isMiss]

theorem Reflects.clear (h : Reflects n history cache) : Reflects n [] cache.clear :=
  ⟨h.capacity, by simp [usedKeys, PlanCache.clear], nofun, rfl, rfl⟩

/-- **One step keeps a cache the end of the order of use.** -/
theorem Reflects.step (h : Reflects n (sinceClear past) cache) (call : Call κ ν) :
    Reflects n (sinceClear (past ++ [(cache.step call).1])) (cache.step call).2 := by
  rw [sinceClear, List.rtakeWhile_concat]
  cases call with
  | get key => exact h.get key
  | put key value => exact h.put key value
  | clear => exact h.clear

/-- **A run of calls keeps a cache the end of the order of use.** -/
theorem Reflects.run (h : Reflects n (sinceClear past) cache) (calls : List (Call κ ν)) :
    Reflects n (sinceClear (past ++ (cache.run calls).1)) (cache.run calls).2 := by
  induction calls generalizing past cache with
  | nil => simpa [PlanCache.run] using h
  | cons call calls ih =>
    have hrest := ih (h.step call)
    rw [List.append_assoc, List.singleton_append] at hrest
    exact hrest

theorem contains_iff_mem_keys : cache.contains key = true ↔ key ∈ cache.entries.map (·.1) := by
  rw [contains, peek, Option.isSome_map, List.find?_isSome]
  simp

/-- A cache that is the end of the order of use remembers what was used least long ago. -/
theorem Reflects.remembers (h : Reflects n history cache) : Remembers n history cache := by
  have hvalue : ∀ key value, cache.peek key = some value → lastStored history key = some value :=
    fun key value hpeek => h.values _ (peek_eq_some hpeek)
  have hpeek : ∀ key, cache.contains key = true → ∃ value, cache.peek key = some value :=
    fun key hkey => Option.isSome_iff_exists.1 hkey
  refine ⟨fun key => ?_, fun key => ?_, h.length_le, ?_⟩
  · have hplace : cache.contains key = true ↔
        key ∈ usedKeys history ∧ (othersSince history key).card < n := by
      rw [contains_iff_mem_keys, h.keys, mem_rtake_dedup, othersSince_eq]
    constructor
    · intro hkey
      obtain ⟨value, hvalued⟩ := hpeek key hkey
      exact ⟨⟨value, exists_stored_of_lastStored (hvalue key value hvalued)⟩, (hplace.1 hkey).2⟩
    · rintro ⟨⟨value, hstored⟩, hfew⟩
      exact hplace.2 ⟨List.mem_filterMap.2 ⟨_, hstored, rfl⟩, hfew⟩
  · rw [get_fst]
    split
    next hkey =>
      obtain ⟨value, hvalued⟩ := hpeek key hkey
      rw [hvalued, hvalue key value hvalued]
    next hkey => exact Option.not_isSome_iff_eq_none.1 hkey
  · rw [h.hits, h.misses, countP_hits_misses]

/-- **A cache is exactly what its history says.** Whatever calls are made of a new cache, a key is in it
at the end exactly if it was stored since everything was forgotten for the last time, and fewer other
keys than there is room for were stored or found since it was itself; then looking it up gives the
value that was stored last, and otherwise nothing. There are never more entries than there is room
for, so none at all without room, and what was found and not found adds up to what was looked up. -/
theorem least_recently_used (n : Nat) (calls : List (Call κ ν)) :
    let (history, cache) := ({ capacity := n } : PlanCache κ ν).run calls
    Remembers n (sinceClear history) cache ∧ (n = 0 → ∀ key, cache.contains key = false) := by
  have hnew : Reflects n (sinceClear []) ({ capacity := n } : PlanCache κ ν) := reflects_new n
  have hreflects : Reflects n (sinceClear (({ capacity := n } : PlanCache κ ν).run calls).1)
      (({ capacity := n } : PlanCache κ ν).run calls).2 := hnew.run calls
  refine ⟨hreflects.remembers, fun hn key => ?_⟩
  rw [← Bool.not_eq_true, hreflects.remembers.contains_iff, hn]
  exact fun h => Nat.not_lt_zero _ h.2

-- what is found stays, and what was stored after it makes room
example : let cache := (({ capacity := 2 } : PlanCache String Nat).run
      [.put "A" 1, .put "B" 2, .get "A", .put "C" 3]).2
    cache.contains "A" = true ∧ cache.contains "B" = false ∧ cache.hits = 1 := by
  decide

end Reflects

end Mapsmith.PlanCache
