import Mapsmith.Proofs.Places

/-!
# Renames bind their targets

A source type gains a member that declares a target name for its own, and the members of the two types are
matched again. The new member comes first at the target members of that name
(`Mapsmith.Matching.outcome_of_named`). Anywhere else it shows only if the graph's own type of that name gains
it too: a type with members of its own type is then flattened into with the new member inside, and there it
goes by its own name, since renames are declared for the members of a mapping and not for those inside them
(`Mapsmith.Matching.outcome_of_not_named`).

Two results are compared in this way, entry by entry: at the target members of the declared name the new one
consists of what the new member feeds, and at all others it is the old one
(`Mapsmith.Matching.rename_binds_only`). Nothing is asked of the new member's own name, be it one that a
target member would be found by.
-/

namespace Mapsmith

open Matching

/-! ### One more member -/

section Gains

variable {α : Type} {x : α} {xs ys : List α} {p : α → Bool}

/-- Is a list another one with one more element somewhere? -/
def Gains (x : α) (xs ys : List α) : Prop :=
  ∃ before after, xs = before ++ after ∧ ys = before ++ x :: after

namespace Gains

theorem mem (h : Gains x xs ys) : x ∈ ys := by
  obtain ⟨before, after, -, rfl⟩ := h
  exact List.mem_append_cons_self

theorem filter_of_pos (h : Gains x xs ys) (hx : p x = true) : Gains x (xs.filter p) (ys.filter p) := by
  obtain ⟨before, after, rfl, rfl⟩ := h
  refine ⟨before.filter p, after.filter p, List.filter_append .., ?_⟩
  rw [List.filter_append, List.filter_cons_of_pos hx]

theorem filter_of_neg (h : Gains x xs ys) (hx : p x = false) : ys.filter p = xs.filter p := by
  obtain ⟨before, after, rfl, rfl⟩ := h
  rw [List.filter_append, List.filter_append, List.filter_cons_of_neg (Bool.eq_false_iff.1 hx)]

/-- The first element that passes a test is the same, unless the new one passes and comes before. -/
theorem find?_eq_or (h : Gains x xs ys) : ys.find? p = xs.find? p ∨ p x = true ∧ ys.find? p = some x := by
  obtain ⟨before, after, rfl, rfl⟩ := h
  rw [List.find?_append, List.find?_append]
  cases hbefore : before.find? p with
  | some y => exact .inl rfl
  | none =>
    cases hx : p x with
    | true => exact .inr ⟨rfl, by rw [Option.none_or, List.find?_cons_of_pos hx]⟩
    | false => exact .inl (by rw [List.find?_cons_of_neg (Bool.eq_false_iff.1 hx)])

theorem eq_singleton (h : Gains x [] ys) : ys = [x] := by
  obtain ⟨before, after, hnil, rfl⟩ := h
  obtain ⟨rfl, rfl⟩ := List.append_eq_nil_iff.1 hnil.symm
  rfl

/-- With one more element there are several, unless there was none. -/
theorem exists_two (h : Gains x xs ys) (hne : xs ≠ []) : ∃ a b rest, ys = a :: b :: rest := by
  obtain ⟨before, after, rfl, rfl⟩ := h
  cases before with
  | nil =>
    cases after with
    | nil => exact absurd rfl hne
    | cons b rest => exact ⟨x, b, rest, rfl⟩
  | cons a before =>
    cases before with
    | nil => exact ⟨a, x, after, rfl⟩
    | cons b rest => exact ⟨a, b, rest ++ x :: after, rfl⟩

end Gains

end Gains

/-- A type with one more member, at a position. -/
def TypeDescriptor.withMember (t : TypeDescriptor) (i : Nat) (r : Member) : TypeDescriptor :=
  { t with members := t.members.take i ++ r :: t.members.drop i }

/-- A type with one more member if it goes by a name, and else as it is. -/
def TypeDescriptor.withMemberAt (name : String) (i : Nat) (r : Member) (t : TypeDescriptor) :
    TypeDescriptor :=
  if t.qualifiedName = name then t.withMember i r else t

namespace TypeDescriptor

variable {t : TypeDescriptor} {name : String} {i : Nat} {r : Member}

theorem gains_withMember : Gains r t.members (t.withMember i r).members :=
  ⟨t.members.take i, t.members.drop i, (List.take_append_drop i _).symm, rfl⟩

@[simp] theorem qualifiedName_withMemberAt :
    (t.withMemberAt name i r).qualifiedName = t.qualifiedName := by
  unfold withMemberAt
  split <;> rfl

@[simp] theorem name_withMemberAt : (t.withMemberAt name i r).name = t.name := by
  unfold withMemberAt
  split <;> rfl

@[simp] theorem module_withMemberAt : (t.withMemberAt name i r).module = t.module := by
  unfold withMemberAt
  split <;> rfl

@[simp] theorem kind_withMemberAt : (t.withMemberAt name i r).kind = t.kind := by
  unfold withMemberAt
  split <;> rfl

@[simp] theorem ancestors_withMemberAt : (t.withMemberAt name i r).ancestors = t.ancestors := by
  unfold withMemberAt
  split <;> rfl

end TypeDescriptor

namespace TypeGraph

variable {g : TypeGraph} {n name base : String} {i : Nat} {r : Member}

/-- The graph in which the type of a name has one more member. -/
def withMember (g : TypeGraph) (name : String) (i : Nat) (r : Member) : TypeGraph where
  types := g.types.map (·.withMemberAt name i r)
  nodup := by
    simp only [List.map_map, Function.comp_def, TypeDescriptor.qualifiedName_withMemberAt]
    exact g.nodup

theorem get?_withMember :
    (g.withMember name i r).get? n = (g.get? n).map (·.withMemberAt name i r) := by
  simp only [get?, withMember, List.find?_map, Function.comp_def,
    TypeDescriptor.qualifiedName_withMemberAt]

theorem isSubclass_withMember : (g.withMember name i r).isSubclass n base = g.isSubclass n base := by
  simp only [isSubclass, get?_withMember, Option.any_map, TypeDescriptor.ancestors_withMemberAt]

end TypeGraph

/-- The entries of a result for the target members whose names pass a test. -/
def MatchResult.entriesAt (res : MatchResult) (P : String → Bool) : MatchResult where
  mappings := res.mappings.filter (P ·.targetMember)
  unmatched := res.unmatched.filter P
  unconvertible := res.unconvertible.filter (P ·.targetMember)
  ambiguous := res.ambiguous.filter (P ·.targetMember)

namespace Matching

variable {g g' : TypeGraph} {o : Options} {source target : TypeDescriptor} {r t outer : Member} {i : Nat}
  {p name : String}

/-! ### Searching with one more member -/

theorem needOf_withMember : needOf (g.withMember name i r) = needOf g := by
  funext a b
  refine needOf_congr (fun n _ base => TypeGraph.isSubclass_withMember) fun n _ => ?_
  simp only [TypeGraph.get?_withMember, Option.any_map, TypeDescriptor.kind_withMemberAt]

theorem directAnswer_withMember : directAnswer (g.withMember name i r) = directAnswer g := by
  funext request
  simp only [directAnswer, TypeGraph.get?_withMember]
  cases g.get? request.source with
  | none => rfl
  | some s =>
    cases g.get? request.target with
    | none => rfl
    | some t => simp

/-- Inside a member there is nothing new, unless it is of the type that has one more member. -/
theorem innerMembers_withMember (hreads : o.Reads r) :
    innerMembers (g.withMember name i r) o outer = innerMembers g o outer ∨
      outer.type.name = name ∧
        Gains r (innerMembers g o outer) (innerMembers (g.withMember name i r) o outer) := by
  unfold innerMembers
  split
  · rw [TypeGraph.get?_withMember]
    cases hnested : g.get? outer.type.name with
    | none => exact .inl rfl
    | some nested =>
      rw [Option.map_some]
      simp only [TypeDescriptor.kind_withMemberAt]
      split
      · by_cases hname : nested.qualifiedName = name
        · refine .inr ⟨(TypeGraph.qualifiedName_of_get? hnested).symm.trans hname, ?_⟩
          rw [TypeDescriptor.withMemberAt, if_pos hname]
          obtain ⟨hreadable, hignored, hadmits⟩ := hreads
          exact TypeDescriptor.gains_withMember.filter_of_pos (by simp [hreadable, hignored, hadmits])
        · rw [TypeDescriptor.withMemberAt, if_neg hname]
          exact .inl rfl
      · exact .inl rfl
  · exact .inl rfl

/-- **What becomes of a graph when a source type gains a member**, and for which target members the new one
is then found inside another member. -/
inductive Follows (g : TypeGraph) (o : Options) (source : TypeDescriptor) (i : Nat) (r : Member) :
    TypeGraph → (Member → Prop) → Prop
  /-- The graph stays as it is. -/
  | unchanged : Follows g o source i r g fun _ => False
  /-- The type of that name in the graph gains the member as well. Where members are read from inside
  others, the new one is found inside a member of that very type, by the joined name. -/
  | grown : Follows g o source i r (g.withMember source.qualifiedName i r) fun t =>
      o.flatten = true ∧ ∃ outer ∈ plainMembers o source, outer.type.name = source.qualifiedName ∧
        r ∈ innerMembers (g.withMember source.qualifiedName i r) o outer ∧
        joinedFeeds o outer r t = true

section Search

variable {exposed : Member → Prop}

namespace Follows

theorem needOf_eq (h : Follows g o source i r g' exposed) : needOf g' = needOf g := by
  cases h with
  | unchanged => rfl
  | grown => exact needOf_withMember

theorem directAnswer_eq (h : Follows g o source i r g' exposed) : directAnswer g' = directAnswer g := by
  cases h with
  | unchanged => rfl
  | grown => exact directAnswer_withMember

theorem findingWith_eq (h : Follows g o source i r g' exposed) :
    findingWith g' (directAnswer g') = findingWith g (directAnswer g) := by
  funext t out
  simp only [findingWith, conversionWith, h.needOf_eq, h.directAnswer_eq]

/-- In a source type without members of its own type nothing is found inside another member. -/
theorem not_exposed (h : Follows g o source i r g' exposed)
    (hself : ∀ outer ∈ plainMembers o source, outer.type.name ≠ source.qualifiedName) : ¬ exposed t := by
  cases h with
  | unchanged => exact id
  | grown =>
    rintro ⟨-, outer, houter, hname, -⟩
    exact hself outer houter hname

end Follows

/-- A search that finds the same in every place, or in some what has a property, finds the same or what
has the property. -/
theorem findSome?_eq_or {α β : Type} {f f' : α → Option β} {P : Prop} {Q : β → Prop} {xs : List α}
    (h : ∀ x ∈ xs, f' x = f x ∨ P ∧ ∃ b, f' x = some b ∧ Q b) :
    xs.findSome? f' = xs.findSome? f ∨ P ∧ ∃ b, xs.findSome? f' = some b ∧ Q b := by
  induction xs with
  | nil => exact .inl rfl
  | cons x xs ih =>
    obtain ⟨hx, hxs⟩ := List.forall_mem_cons.1 h
    rw [List.findSome?_cons, List.findSome?_cons]
    rcases hx with hsame | ⟨hP, b, hb, hQ⟩
    · rw [hsame]
      cases f x with
      | some b => exact .inl rfl
      | none => exact ih hxs
    · rw [hb]
      exact .inr ⟨hP, b, rfl, hQ⟩

theorem plainMembers_withMember (hreads : o.Reads r) (hrename : r.rename? = some p) :
    plainMembers o (source.withMember i r) = plainMembers o source := by
  obtain ⟨hreadable, hignored, hadmits⟩ := hreads
  have hmembers : Gains r (sourceMembers o source) (sourceMembers o (source.withMember i r)) :=
    TypeDescriptor.gains_withMember.filter_of_pos (by rw [hreadable, hadmits, Bool.and_self])
  exact hmembers.filter_of_neg (by rw [hrename, Option.isNone_some, Bool.false_and])

theorem gains_renamedMembers (hreads : o.Reads r) (hrename : r.rename? = some p) :
    Gains r (renamedMembers o source) (renamedMembers o (source.withMember i r)) := by
  obtain ⟨hreadable, hignored, hadmits⟩ := hreads
  have hmembers : Gains r (sourceMembers o source) (sourceMembers o (source.withMember i r)) :=
    TypeDescriptor.gains_withMember.filter_of_pos (by rw [hreadable, hadmits, Bool.and_self])
  exact hmembers.filter_of_pos (by rw [hrename, hignored]; rfl)

/-- Inside other members nothing else is found, unless the new member is. -/
theorem Follows.flattenedBinding_eq_or (h : Follows g o source i r g' exposed) (hreads : o.Reads r)
    (hrename : r.rename? = some p) (hflatten : o.flatten = true) :
    flattenedBinding g' o (source.withMember i r) t = flattenedBinding g o source t ∨
      exposed t ∧ ∃ b, flattenedBinding g' o (source.withMember i r) t = some b ∧ b.read = r := by
  unfold flattenedBinding
  rw [plainMembers_withMember hreads hrename]
  cases h with
  | unchanged => exact .inl rfl
  | grown =>
    refine findSome?_eq_or fun outer houter => ?_
    have hinner : innerMembers (g.withMember source.qualifiedName i r) o outer = innerMembers g o outer ∨ _ :=
      innerMembers_withMember hreads
    rcases hinner with hsame | ⟨hname, hgains⟩
    · rw [hsame]
      exact .inl rfl
    · rcases hgains.find?_eq_or (p := fun inner => joinedFeeds o outer inner t) with hfind | ⟨hr, hfind⟩
      · rw [hfind]
        exact .inl rfl
      · rw [hfind]
        exact .inr ⟨⟨hflatten, outer, houter, hname, hgains.mem, hr⟩, _, rfl, rfl⟩

/-- Does a member that may be read declare a name for its own, up to case? -/
def Options.declares (o : Options) (name : String) (s : Member) : Bool :=
  s.readable && o.admits s && !s.ignored &&
    s.rename?.any fun rename => Text.casefold rename = Text.casefold name

theorem declares_congr (h : Text.casefold p = Text.casefold name) : o.declares p = o.declares name := by
  funext s
  rw [Options.declares, Options.declares, h]

/-- The first tier finds the members that declare the name of the target member. -/
theorem declaredHits_eq : declaredHits o source t = source.members.filter (o.declares t.name) := by
  simp only [declaredHits, renamedMembers, sourceMembers, List.filter_filter]
  refine List.filter_congr fun s _ => ?_
  rw [Bool.eq_iff_iff]
  simp only [Options.declares, Bool.and_eq_true, NamingStrategy.agree_identity]
  cases hrename : s.rename? with
  | none => simp
  | some rename =>
    rw [getD_renameTo hrename]
    simp only [Option.isSome_some, Option.any_some, decide_eq_true_eq, true_and]
    tauto

theorem declares_of_rename (hreads : o.Reads r) (hrename : r.rename? = some p) :
    o.declares name r = decide (Text.casefold p = Text.casefold name) := by
  obtain ⟨hreadable, hignored, hadmits⟩ := hreads
  rw [Options.declares, hreadable, hignored, hadmits, hrename]
  rfl

/-- The new member is declared for the target members of its name only. -/
theorem declaredHits_withMember (hreads : o.Reads r) (hrename : r.rename? = some p) :
    (Text.casefold p = Text.casefold t.name →
      Gains r (declaredHits o source t) (declaredHits o (source.withMember i r) t)) ∧
    (Text.casefold p ≠ Text.casefold t.name →
      declaredHits o (source.withMember i r) t = declaredHits o source t) := by
  rw [declaredHits_eq, declaredHits_eq]
  refine ⟨fun hname => ?_, fun hname => ?_⟩
  · refine TypeDescriptor.gains_withMember.filter_of_pos ?_
    rw [declares_of_rename hreads hrename, decide_eq_true hname]
  · refine TypeDescriptor.gains_withMember.filter_of_neg ?_
    rw [declares_of_rename hreads hrename, decide_eq_false hname]

/-- The binding of a member by its rename. -/
def byRename (r : Member) : Binding :=
  ⟨r, .directive, [], false⟩

/-- At a target member of the declared name, the new member comes before everything but other members that
declare the name. -/
theorem outcome_of_named (hreads : o.Reads r) (hrename : r.rename? = some p)
    (hname : Text.casefold p = Text.casefold t.name) (hignored : t.ignored = false) :
    outcome g' o (source.withMember i r) t =
      if source.members.filter (o.declares p) = [] then .bound (byRename r)
      else .ambiguous (((source.withMember i r).members.filter (o.declares p)).map (·.name)) := by
  have hgains : Gains r (declaredHits o source t) (declaredHits o (source.withMember i r) t) :=
    (declaredHits_withMember hreads hrename).1 hname
  rw [declares_congr hname, ← declaredHits_eq, ← declaredHits_eq]
  unfold outcome hits
  rw [if_neg (Bool.eq_false_iff.1 hignored)]
  by_cases hnone : declaredHits o source t = []
  · rw [hnone] at hgains
    rw [if_pos hnone, hgains.eq_singleton]
    rfl
  · obtain ⟨a, b, rest, htwo⟩ := hgains.exists_two hnone
    rw [if_neg hnone, htwo]

/-- At any other target member the outcome is the same, unless the new member is found inside another
one. -/
theorem outcome_of_not_named (h : Follows g o source i r g' exposed) (hreads : o.Reads r)
    (hrename : r.rename? = some p) (hname : Text.casefold p ≠ Text.casefold t.name) :
    outcome g' o (source.withMember i r) t = outcome g o source t ∨
      exposed t ∧ ∃ b, outcome g' o (source.withMember i r) t = .bound b ∧ b.read = r := by
  have hdeclared : declaredHits o (source.withMember i r) t = declaredHits o source t :=
    (declaredHits_withMember hreads hrename).2 hname
  have hhits : hits o (source.withMember i r) t = hits o source t := by
    unfold hits inverseHits namedHits
    rw [hdeclared, plainMembers_withMember hreads hrename]
  unfold outcome
  rw [hhits]
  cases hignored : t.ignored with
  | true => exact .inl rfl
  | false =>
    rw [if_neg Bool.false_ne_true, if_neg Bool.false_ne_true]
    obtain ⟨found, kind⟩ := hits o source t
    cases found with
    | cons s ss =>
      cases ss with
      | nil => exact .inl rfl
      | cons s' ss => exact .inl rfl
    | nil =>
      dsimp only
      by_cases hflatten : o.flatten = true
      · rw [if_pos hflatten, if_pos hflatten]
        rcases h.flattenedBinding_eq_or hreads hrename hflatten with hsame | ⟨hexposed, b, hb, hread⟩
        · rw [hsame]
          exact .inl rfl
        · rw [hb]
          exact .inr ⟨hexposed, b, rfl, hread⟩
      · rw [if_neg hflatten, if_neg hflatten]
        exact .inl rfl

end Search

/-! ### Entries by target member -/

section Entries

variable {α β : Type} {fs : List (Member × Finding)} {P : String → Bool}

theorem filter_filterMap_of_name {f : α → Option β} {keep : α → Bool} {pass : β → Bool} {xs : List α}
    (h : ∀ x ∈ xs, ∀ y, f x = some y → pass y = keep x) :
    (xs.filterMap f).filter pass = (xs.filter keep).filterMap f := by
  rw [List.filter_filterMap, List.filterMap_filter]
  refine List.filterMap_congr fun x hx => ?_
  cases hf : f x with
  | none => simp
  | some y => simp [Option.filter_some, h x hx y hf]

/-- Entries stand for findings, member by member. -/
theorem entriesAt_assemble (hfs : Findings g o source target fs) :
    (assemble o source target fs).entriesAt P =
      { assemble o source target (fs.filter fun e => P e.1.name) with
        ignored := [], danglingRenames := [] } := by
  have hbound : ∀ e ∈ fs, ∀ c, e.2 = .bound c → c.targetMember = e.1.name :=
    fun e he c hc => (hc ▸ hfs.settles e he).bound_name
  have hmappings : ((assemble o source target fs).mappings.filter (P ·.targetMember)) =
      (assemble o source target (fs.filter fun e => P e.1.name)).mappings := by
    refine filter_filterMap_of_name fun e he c hc => ?_
    rw [hbound e he c (Finding.mapping?_eq_some.1 hc).2]
  have hunconvertible : ((assemble o source target fs).unconvertible.filter (P ·.targetMember)) =
      (assemble o source target (fs.filter fun e => P e.1.name)).unconvertible := by
    refine filter_filterMap_of_name fun e he u hu => ?_
    obtain ⟨c, -, hc, rfl⟩ := Finding.unconvertible?_eq_some.1 hu
    rw [asUnconvertible, hbound e he c hc]
  have hunmatched : (assemble o source target fs).unmatched.filter P =
      (assemble o source target (fs.filter fun e => P e.1.name)).unmatched := by
    refine filter_filterMap_of_name fun e he name hname => ?_
    dsimp only at hname
    split at hname
    · cases hname
      rfl
    · cases hname
  have hambiguous : ((assemble o source target fs).ambiguous.filter (P ·.targetMember)) =
      (assemble o source target (fs.filter fun e => P e.1.name)).ambiguous := by
    refine filter_filterMap_of_name fun e he a ha => ?_
    dsimp only at ha
    split at ha
    · cases ha
      rfl
    · cases ha
  rw [MatchResult.entriesAt, hmappings, hunconvertible, hunmatched, hambiguous]

/-- The entries for members that are left out or bound. -/
theorem assemble_bound {ts : List Member} {c : Member → PropertyMapping} :
    { assemble o source target (ts.map fun t => (t, if t.ignored then .ignored else .bound (c t))) with
      ignored := [], danglingRenames := [] } =
    { mappings := ((ts.filter (!·.ignored)).map c).filter (·.conversion.kind ≠ .unconvertible)
      unconvertible := (((ts.filter (!·.ignored)).map c).filter
        (·.conversion.kind = .unconvertible)).map asUnconvertible : MatchResult } := by
  induction ts with
  | nil => rfl
  | cons t ts ih =>
    simp only [assemble, MatchResult.mk.injEq, true_and] at ih ⊢
    cases hignored : t.ignored with
    | true => simpa [hignored, Finding.mapping?, Finding.unconvertible?] using ih
    | false =>
      by_cases hkind : (c t).conversion.kind = .unconvertible
      · simpa [hignored, hkind, Finding.mapping?, Finding.unconvertible?, asUnconvertible] using ih
      · simpa [hignored, hkind, Finding.mapping?, Finding.unconvertible?] using ih

/-- The entries for members that are left out or ambiguous. -/
theorem assemble_ambiguous {ts : List Member} {sources : List String} :
    { assemble o source target (ts.map fun t => (t, if t.ignored then .ignored else .ambiguous sources)) with
      ignored := [], danglingRenames := [] } =
    { ambiguous := (ts.filter (!·.ignored)).map fun t => ⟨t.name, sources⟩ : MatchResult } := by
  induction ts with
  | nil => rfl
  | cons t ts ih =>
    simp only [assemble, MatchResult.mk.injEq, true_and] at ih ⊢
    cases hignored : t.ignored with
    | true => simpa [hignored, Finding.mapping?, Finding.unconvertible?] using ih
    | false => simpa [hignored, Finding.mapping?, Finding.unconvertible?] using ih

end Entries

/-! ### Two results -/

section Results

variable {exposed : Member → Prop} {res res' : MatchResult}

/-- The target members that may be filled and answer to a name. -/
def claimed (o : Options) (target : TypeDescriptor) (p : String) : List Member :=
  (targetMembers o target).filter fun t => !t.ignored && Text.casefold p = Text.casefold t.name

/-- What is found for a target member that the new member feeds. -/
def claim (g : TypeGraph) (r t : Member) : PropertyMapping :=
  (byRename r).toMapping t (conversionWith g (directAnswer g) r.type t.type)

/-- **A rename binds its target and disturbs nothing else**: what becomes of a result when the source type
gains a member `r` that declares the name `p`. -/
structure BindsOnly (g : TypeGraph) (o : Options) (source target : TypeDescriptor) (i : Nat) (r : Member)
    (p : String) (exposed : Member → Prop) (res res' : MatchResult) : Prop where
  /-- Nothing changes elsewhere. -/
  elsewhere : ∀ P : String → Bool, (∀ t ∈ target.members,
    Text.casefold p = Text.casefold t.name ∨ exposed t → P t.name = false) →
      res'.entriesAt P = res.entriesAt P
  /-- Where nothing was declared for the name, the new member is bound by its rename. -/
  bound : source.members.filter (o.declares p) = [] →
    res'.entriesAt (fun name => Text.casefold p = Text.casefold name) =
      { mappings := ((claimed o target p).map (claim g r)).filter (·.conversion.kind ≠ .unconvertible)
        unconvertible := (((claimed o target p).map (claim g r)).filter
          (·.conversion.kind = .unconvertible)).map asUnconvertible }
  /-- Where something was, the two are ambiguous. -/
  ambiguous : source.members.filter (o.declares p) ≠ [] →
    res'.entriesAt (fun name => Text.casefold p = Text.casefold name) =
      { ambiguous := (claimed o target p).map fun t =>
          ⟨t.name, ((source.withMember i r).members.filter (o.declares p)).map (·.name)⟩ }
  /-- The same members are left out. -/
  ignored : res'.ignored = res.ignored
  /-- Only the new rename can lead nowhere that did not before, and does if no target member has the
  name. -/
  dangling : ∃ before after, res.danglingRenames = before ++ after ∧ res'.danglingRenames = before ++
    ((if ∃ t ∈ target.members, Text.casefold p = Text.casefold t.name then [] else [⟨r.name, p⟩]) ++ after)

/-- The entries of a result under settled answers come from the outcomes for the members of their names. -/
theorem entriesAt_resultWith {answer : Request → Option RoutineRef} {P : String → Bool} :
    (resultWith g answer o source target).entriesAt P =
      { assemble o source target (((targetMembers o target).filter fun t => P t.name).map fun t =>
          (t, findingWith g answer t (outcome g o source t))) with
        ignored := [], danglingRenames := [] } := by
  rw [resultWith, entriesAt_assemble findings_settled, outcomes, List.map_map, List.filter_map]
  rfl

theorem entriesAt_elsewhere (h : Follows g o source i r g' exposed) (hreads : o.Reads r)
    (hrename : r.rename? = some p) {P : String → Bool}
    (hP : ∀ t ∈ target.members, Text.casefold p = Text.casefold t.name ∨ exposed t → P t.name = false) :
    (resultWith g' (directAnswer g') o (source.withMember i r) target).entriesAt P =
      (resultWith g (directAnswer g) o source target).entriesAt P := by
  have hsame : ∀ t ∈ (targetMembers o target).filter fun t => P t.name,
      outcome g' o (source.withMember i r) t = outcome g o source t := by
    intro t ht
    obtain ⟨ht, hpass⟩ := List.mem_filter.1 ht
    have hfree : ¬ (Text.casefold p = Text.casefold t.name ∨ exposed t) := by
      intro htouched
      rw [hP t (List.mem_filter.1 ht).1 htouched] at hpass
      cases hpass
    obtain ⟨hname, hhidden⟩ := not_or.1 hfree
    rcases outcome_of_not_named (t := t) h hreads hrename hname with hsame | ⟨hexposed, -⟩
    · exact hsame
    · exact absurd hexposed hhidden
  rw [entriesAt_resultWith, entriesAt_resultWith, h.findingWith_eq]
  have hfindings := List.map_congr_left fun t ht =>
    congrArg (fun out => (t, findingWith g (directAnswer g) t out)) (hsame t ht)
  rw [hfindings]
  rfl

/-- What is found for the target members of the declared name. -/
theorem entriesAt_named (h : Follows g o source i r g' exposed) (hreads : o.Reads r)
    (hrename : r.rename? = some p) :
    (resultWith g' (directAnswer g') o (source.withMember i r) target).entriesAt
        (fun name => Text.casefold p = Text.casefold name) =
      if source.members.filter (o.declares p) = [] then
        { mappings := ((claimed o target p).map (claim g r)).filter (·.conversion.kind ≠ .unconvertible)
          unconvertible := (((claimed o target p).map (claim g r)).filter
            (·.conversion.kind = .unconvertible)).map asUnconvertible }
      else
        { ambiguous := (claimed o target p).map fun t =>
            ⟨t.name, ((source.withMember i r).members.filter (o.declares p)).map (·.name)⟩ } := by
  have hclaimed : claimed o target p = ((targetMembers o target).filter fun t =>
      Text.casefold p = Text.casefold t.name).filter (!·.ignored) := by
    rw [List.filter_filter]
    rfl
  have hnamed : ∀ t ∈ (targetMembers o target).filter fun t => Text.casefold p = Text.casefold t.name,
      (t, findingWith g' (directAnswer g') t (outcome g' o (source.withMember i r) t)) =
        (t, if t.ignored then Finding.ignored
          else if source.members.filter (o.declares p) = [] then .bound (claim g r t)
          else .ambiguous (((source.withMember i r).members.filter (o.declares p)).map (·.name))) := by
    intro t ht
    have hname := of_decide_eq_true (List.mem_filter.1 ht).2
    rw [h.findingWith_eq]
    cases hignored : t.ignored with
    | true =>
      rw [outcome, hignored]
      rfl
    | false =>
      rw [outcome_of_named hreads hrename hname hignored]
      split
      · rfl
      · rfl
  rw [entriesAt_resultWith, List.map_congr_left hnamed, hclaimed]
  split
  · exact assemble_bound
  · exact assemble_ambiguous

theorem outcome_eq_ignored : outcome g o source t = .ignored ↔ t.ignored = true := by
  unfold outcome
  cases t.ignored with
  | true => exact iff_of_true rfl rfl
  | false =>
    refine iff_of_false (fun h => ?_) Bool.false_ne_true
    rw [if_neg Bool.false_ne_true] at h
    split at h
    · cases h
    · cases h
    · split at h
      · split at h
        · cases h
        · cases h
      · cases h

/-- Which members are left out is a matter of theirs alone. -/
theorem ignored_resultWith {answer : Request → Option RoutineRef} :
    (resultWith g answer o source target).ignored =
      ((sourceMembers o source).filter (·.ignored)).map (·.name) ++
        ((targetMembers o target).filter (·.ignored)).map (·.name) := by
  have hfinding : ∀ t, findingWith g answer t (outcome g o source t) = .ignored ↔ t.ignored = true := by
    intro t
    refine Iff.trans ?_ (outcome_eq_ignored : outcome g o source t = .ignored ↔ _)
    cases outcome g o source t with
    | ignored => exact iff_of_true rfl rfl
    | ambiguous | unmatched | bound => exact iff_of_false nofun nofun
  rw [resultWith, assemble]
  refine congrArg (((sourceMembers o source).filter (·.ignored)).map (·.name) ++ ·) ?_
  rw [outcomes, List.map_map, List.filterMap_map, ← List.filterMap_eq_map, List.filterMap_filter]
  refine List.filterMap_congr fun t _ => ?_
  simp only [Function.comp_apply, hfinding]

/-- The new rename leads nowhere if no target member has the name, and the others lead where they did. -/
theorem danglingRenames_withMember (hreads : o.Reads r) (hrename : r.rename? = some p) :
    ∃ before after, danglingRenames o source target = before ++ after ∧
      danglingRenames o (source.withMember i r) target = before ++
        ((if ∃ t ∈ target.members, Text.casefold p = Text.casefold t.name then [] else [⟨r.name, p⟩]) ++
          after) := by
  obtain ⟨before, after, hsource, hnew⟩ :
      Gains r (renamedMembers o source) (renamedMembers o (source.withMember i r)) :=
    gains_renamedMembers hreads hrename
  have hanswers : Text.casefold p ∈ target.members.map (fun t => Text.casefold t.name) ↔
      ∃ t ∈ target.members, Text.casefold p = Text.casefold t.name := by
    simp only [List.mem_map, eq_comm]
  unfold danglingRenames
  rw [hsource, hnew, List.filterMap_append, List.filterMap_append, List.filterMap_cons]
  refine ⟨_, _, rfl, congrArg _ ?_⟩
  simp only [getD_renameTo hrename, hanswers]
  split
  next hnone =>
    split at hnone
    next hnamed => rw [if_pos hnamed, List.nil_append]
    next => cases hnone
  next d hsome =>
    split at hsome
    next => cases hsome
    next hnamed =>
      cases hsome
      rw [if_neg hnamed, List.singleton_append]

/-- **A rename binds its target and disturbs nothing else.** A source type gains a member that may be read
and declares a target name. If the members of the two types were matched before, and the new member can be
compared with those that it is then bound to, they are matched again, and the new result differs from the
old one at the target members of the declared name only: these are bound to the new member, by its rename,
where nothing was declared for the name, and ambiguous otherwise. The graph may stay as it is. If its own
type of that name gains the member too, the target members have to be left aside that the new member feeds
from inside a member of that very type. -/
theorem rename_binds_only (hreads : o.Reads r) (hrename : r.rename? = some p)
    (hfollows : Follows g o source i r g' exposed)
    (hrun : (matchMembers g (directSupplier g) o source target).run () = .ok (res, ()))
    (hcompared : ∀ t ∈ targetMembers o target, t.ignored = false →
      Text.casefold p = Text.casefold t.name ∧ source.members.filter (o.declares p) = [] ∨ exposed t →
        ∃ need, needOf g r.type t.type = .ok need) :
    ∃ res', (matchMembers g' (directSupplier g') o (source.withMember i r) target).run () = .ok (res', ()) ∧
      BindsOnly g o source target i r p exposed res res' := by
  obtain ⟨hneeds, rfl⟩ := matchMembers_direct.1 hrun
  refine ⟨_, matchMembers_direct.2 ⟨fun t ht b hb => ?_, rfl⟩, ?_⟩
  · rw [hfollows.needOf_eq]
    cases hignored : t.ignored with
    | true =>
      rw [outcome_eq_ignored.2 hignored] at hb
      cases hb
    | false =>
      by_cases hname : Text.casefold p = Text.casefold t.name
      · rw [outcome_of_named hreads hrename hname hignored] at hb
        split at hb
        next hnone =>
          cases hb
          exact hcompared t ht hignored (.inl ⟨hname, hnone⟩)
        next => cases hb
      · rcases outcome_of_not_named (t := t) hfollows hreads hrename hname with
          hsame | ⟨hexposed, b', hb', hread⟩
        · exact hneeds t ht b (hsame.symm.trans hb)
        · obtain rfl : b' = b := Outcome.bound.inj (hb'.symm.trans hb)
          rw [hread]
          exact hcompared t ht hignored (.inr hexposed)
  · refine ⟨fun P hP => entriesAt_elsewhere hfollows hreads hrename hP, fun hnone => ?_, fun hsome => ?_, ?_,
      danglingRenames_withMember hreads hrename⟩
    · rw [entriesAt_named hfollows hreads hrename, if_pos hnone]
    · rw [entriesAt_named hfollows hreads hrename, if_neg hsome]
    · have hsource : (sourceMembers o (source.withMember i r)).filter (·.ignored) =
          (sourceMembers o source).filter (·.ignored) := by
        simp only [sourceMembers, List.filter_filter]
        refine TypeDescriptor.gains_withMember.filter_of_neg ?_
        rw [hreads.2.1, Bool.false_and]
      rw [ignored_resultWith, ignored_resultWith, hsource]

end Results

/-- A remark on an order, for the note of its counterpart. -/
def remark : Member :=
  { name := "remark", type := .mk "str" .scalar [] none false, renameTo := some "Note" }

/-- With a remark on every order, in the graph as well, the note is no longer missing. Nothing is found
inside another order, since there is none in an order. -/
theorem rename_binds_only_orders : ∃ res res' exposed, (∀ t, ¬ exposed t) ∧
    (matchMembers orders (directSupplier orders) { flatten := true } order orderDto).run () = .ok (res, ()) ∧
    BindsOnly orders { flatten := true } order orderDto 2 remark "Note" exposed res res' ∧
    "note" ∈ res.unmatched ∧ res'.unmatched = [] := by
  obtain ⟨⟨res, _⟩, hrun, hunmatched⟩ :
      ∃ x, (matchMembers orders (directSupplier orders) { flatten := true } order orderDto).run () =
        .ok x ∧ "note" ∈ x.1.unmatched := Steps.exists_of_any (by decide +kernel)
  have hfollows : Follows orders { flatten := true } order 2 remark _ _ := .grown
  have hcompared : ∀ t ∈ targetMembers { flatten := true } orderDto,
      (needOf orders remark.type t.type).toOption.any (fun _ => decide True) = true := by
    decide +kernel
  have hreads : ({ flatten := true } : Options).Reads remark :=
    ⟨by decide +kernel, by decide +kernel, by decide +kernel⟩
  obtain ⟨res', hrun', hbinds⟩ := rename_binds_only (p := "Note") hreads (by decide +kernel) hfollows hrun
    fun t ht _ _ => (Steps.exists_of_any (hcompared t ht)).imp fun need h => h.1
  obtain ⟨⟨_, _⟩, hagain, hmatched⟩ : ∃ x, (matchMembers (orders.withMember "shop.Order" 2 remark)
      (directSupplier (orders.withMember "shop.Order" 2 remark)) { flatten := true }
      (order.withMember 2 remark) orderDto).run () = .ok x ∧ x.1.unmatched = [] :=
    Steps.exists_of_any (by decide +kernel)
  obtain rfl : res' = _ := congrArg Prod.fst (Except.ok.inj (hrun'.symm.trans hagain))
  exact ⟨res, _, _, fun t => hfollows.not_exposed (by decide +kernel), hrun, hbinds, hunmatched, hmatched⟩

/-- Trees, each with the tree that it branches off from. -/
def tree : TypeDescriptor :=
  { name := "Tree", module := "shop", kind := .cls
    members := [{ name := "parent", type := .mk "shop.Tree" .object [] none false }] }

/-- What they are mapped to. -/
def treeDto : TypeDescriptor :=
  { name := "TreeDto", module := "dto", kind := .cls
    members := [
      { name := "label", type := .mk "str" .scalar [] none false },
      { name := "parent_code", type := .mk "str" .scalar [] none false },
      { name := "tags", type := .mk "list" .collection [.mk "str" .scalar [] none false] (some .list) false }] }

/-- The two of them. -/
def trees : TypeGraph :=
  { types := [tree, treeDto], nodup := by decide +kernel }

/-- A code that is mapped to the label. -/
def code : Member :=
  { name := "code", type := .mk "str" .scalar [] none false, renameTo := some "label" }

/-- Marks that are mapped to the tags, of which it is not known what they are. -/
def marks : Member :=
  { name := "marks", type := .mk "list" .collection [] (some .list) false, renameTo := some "tags" }

/-- **A rename can disturb more, or bind nothing**: with a code on every tree, the code of the parent is
found for a member of another name; and marks that cannot be compared with tags leave no result. -/
theorem not_rename_binds_only : ∃ res res',
    (matchMembers trees (directSupplier trees) { flatten := true } tree treeDto).run () = .ok (res, ()) ∧
    (matchMembers (trees.withMember "shop.Tree" 1 code) (directSupplier (trees.withMember "shop.Tree" 1 code))
      { flatten := true } (tree.withMember 1 code) treeDto).run () = .ok (res', ()) ∧
    Text.casefold "label" ≠ Text.casefold "parent_code" ∧
    "parent_code" ∈ res.unmatched ∧ "parent_code" ∈ res'.mappings.map (·.targetMember) ∧
    (matchMembers trees (directSupplier trees) { flatten := true } (tree.withMember 1 marks) treeDto).run () =
      .error .missingElement := by
  obtain ⟨⟨res, _⟩, hrun, hunmatched⟩ :
      ∃ x, (matchMembers trees (directSupplier trees) { flatten := true } tree treeDto).run () =
        .ok x ∧ "parent_code" ∈ x.1.unmatched := Steps.exists_of_any (by decide +kernel)
  obtain ⟨⟨res', _⟩, hrun', hmapped⟩ : ∃ x, (matchMembers (trees.withMember "shop.Tree" 1 code)
      (directSupplier (trees.withMember "shop.Tree" 1 code)) { flatten := true } (tree.withMember 1 code)
      treeDto).run () = .ok x ∧ "parent_code" ∈ x.1.mappings.map (·.targetMember) :=
    Steps.exists_of_any (by decide +kernel)
  exact ⟨res, res', hrun, hrun', by decide +kernel, hunmatched, hmapped, by decide +kernel⟩

end Matching

end Mapsmith
