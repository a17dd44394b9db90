import Mapsmith.Proofs.Accounting
import Mapsmith.Proofs.Nullability
import Mathlib.Data.List.Nodup

/-!
# There and back

The way back of a two-way mapping is matched anew: with the two types in each other's place, under
the strategy of the declared direction, and with the renames of the source read backwards. A member
that was found by a rename is therefore found again. One that was found by its name is found again
exactly if the name on the other side, respelled by the same strategy, gives it back; a strategy
that is no involution need not do that, and neither does the keyword of a constructor. Nothing else
can come between: a member that two others would feed is an error, so what is found is found alone
(`Mapsmith.Generation.there_and_back`).
-/

namespace Mapsmith

/-! ### Respelling without loss -/

namespace NamingStrategy

variable {a b : String}

theorem agree_identity : identity.agree a b = true ↔ Text.casefold a = Text.casefold b := by
  rw [agree, convert, convertChars, String.ofList_toList, beq_iff_eq]

theorem agree_identity_comm : identity.agree a b = identity.agree b a := by
  rw [Bool.eq_iff_iff, agree_identity, agree_identity, eq_comm]

/-- Lowering a character of the basic alphabet changes its case only. -/
theorem flatMap_foldChar_lower {c : Char} (h : c.toNat < 0x80) :
    (Text.lower [c]).flatMap Text.foldChar = Text.foldChar c := by
  have hall : ∀ n < 0x80, (Text.lower [Char.ofNat n]).flatMap Text.foldChar =
      Text.foldChar (Char.ofNat n) := by decide +kernel
  have hc := hall c.toNat h
  rwa [Char.ofNat_toNat] at hc

/-- Does a name begin with a character of the basic alphabet, if with any? -/
def BeginsPlainly (name : String) : Prop :=
  ∀ c ∈ name.toList.head?, c.toNat < 0x80

theorem casefold_lowerFirst (h : BeginsPlainly a) :
    Text.casefold (lowerFirst.convert a) = Text.casefold a := by
  unfold Text.casefold convert
  rw [String.toList_ofList]
  unfold BeginsPlainly at h
  cases hcs : a.toList with
  | nil => rfl
  | cons c cs =>
    rw [hcs] at h
    rw [convertChars, List.flatMap_append, List.flatMap_cons, flatMap_foldChar_lower (h c rfl)]

/-- Names that agree when the first is left as it is, or only its first letter lowered, also agree
the other way round. -/
theorem agree_back {strategy : NamingStrategy} (h : strategy.agree a b = true)
    (hmild : strategy = identity ∨ strategy = lowerFirst ∧ BeginsPlainly a ∧ BeginsPlainly b) :
    strategy.agree b a = true := by
  rcases hmild with rfl | ⟨rfl, ha, hb⟩
  · rwa [agree_identity_comm]
  · rw [agree, beq_iff_eq, casefold_lowerFirst ha] at h
    rw [agree, beq_iff_eq, casefold_lowerFirst hb, h]

end NamingStrategy

/-- **Does a correspondence join two members**, the one read as it is and not inside another? -/
structure PropertyMapping.Joins (c : PropertyMapping) (s t : Member) : Prop where
  source : c.sourceMember = s.name
  target : c.targetMember = t.name
  sourceType : c.sourceType = s.type
  targetType : c.targetType = t.type
  plain : c.flattenedPath = []

instance (c : PropertyMapping) (s t : Member) : Decidable (c.Joins s t) :=
  decidable_of_iff (c.sourceMember = s.name ∧ c.targetMember = t.name ∧ c.sourceType = s.type ∧
      c.targetType = t.type ∧ c.flattenedPath = [])
    ⟨fun ⟨hs, ht, hst, htt, hp⟩ => ⟨hs, ht, hst, htt, hp⟩,
      fun h => ⟨h.source, h.target, h.sourceType, h.targetType, h.plain⟩⟩

namespace Matching

variable {g : TypeGraph} {answer : Request → Option RoutineRef} {o : Options}
  {source target : TypeDescriptor} {s t : Member} {b : Binding} {c : PropertyMapping}

/-- Values of one type are copied. -/
theorem conversionWith_of_sameType {a b : TypeRef} (h : a.sameType b = true) :
    conversionWith g answer a b = .direct := by
  rw [conversionWith, needOf_of_sameType h]
  rfl

/-! ### Finds outside other members -/

/-- A find that does not stand inside another member is the only one of its tier. -/
theorem hits_of_bound (h : outcome g o source t = .bound b) (hpath : b.path = []) :
    t.ignored = false ∧ ∃ kind, hits o source t = ([b.read], kind) ∧ b = ⟨b.read, kind, [], false⟩ := by
  unfold outcome at h
  split at h
  · cases h
  next hignored =>
    refine ⟨Bool.eq_false_iff.2 hignored, ?_⟩
    split at h
    next s kind hhits =>
      cases h
      exact ⟨kind, hhits, rfl⟩
    · cases h
    · split at h
      · split at h
        next hflat =>
          cases h
          obtain ⟨outer, -, hinner⟩ := List.exists_of_findSome?_eq_some hflat
          obtain ⟨inner, -, rfl⟩ := Option.map_eq_some_iff.1 hinner
          cases hpath
        · cases h
      · cases h

/-- What a tier finds is bound, unless it finds several. -/
theorem bound_of_mem_hits (hignored : t.ignored = false) (hs : s ∈ (hits o source t).1)
    (halone : ∀ sources, outcome g o source t ≠ .ambiguous sources) :
    ∃ kind, outcome g o source t = .bound ⟨s, kind, [], false⟩ := by
  unfold outcome at halone ⊢
  rw [if_neg (Bool.eq_false_iff.1 hignored)] at halone ⊢
  cases hhits : hits o source t with
  | mk found kind =>
    rw [hhits] at hs
    simp only [hhits] at halone ⊢
    cases found with
    | nil => cases hs
    | cons s' rest =>
      cases rest with
      | nil =>
        obtain rfl := List.mem_singleton.1 hs
        exact ⟨kind, rfl⟩
      | cons s'' rest => exact absurd rfl (halone _)

/-! ### The tiers -/

theorem mem_plainMembers : s ∈ plainMembers o source ↔
    s ∈ sourceMembers o source ∧ s.rename? = none ∧ s.ignored = false := by
  simp [plainMembers]

theorem getD_renameTo {rename : String} (h : s.rename? = some rename) : s.renameTo.getD "" = rename := by
  rw [Member.rename?, Option.filter_eq_some_iff] at h
  rw [h.1, Option.getD_some]

theorem mem_declaredHits : s ∈ declaredHits o source t ↔
    s ∈ sourceMembers o source ∧ s.ignored = false ∧
      ∃ rename, s.rename? = some rename ∧
        NamingStrategy.identity.agree rename t.name = true := by
  have hrename : ∀ rename, s.rename? = some rename → s.renameTo.getD "" = rename :=
    fun _ => getD_renameTo
  simp only [declaredHits, renamedMembers, List.mem_filter, Bool.and_eq_true, Bool.not_eq_true',
    Option.isSome_iff_exists]
  constructor
  · rintro ⟨⟨hs, ⟨rename, h⟩, hignored⟩, hagree⟩
    rw [hrename rename h] at hagree
    exact ⟨hs, hignored, rename, h, hagree⟩
  · rintro ⟨hs, hignored, rename, h, hagree⟩
    rw [← hrename rename h] at hagree
    exact ⟨⟨hs, ⟨rename, h⟩, hignored⟩, hagree⟩

theorem mem_namedHits : s ∈ namedHits o source t ↔
    s ∈ plainMembers o source ∧ feeds o.strategy s.name t = true :=
  List.mem_filter

theorem mem_inverseHits : s ∈ inverseHits o source t ↔ o.inverseRenames = true ∧
    s ∈ plainMembers o source ∧
      ∃ rename, t.rename? = some rename ∧ NamingStrategy.identity.agree s.name rename = true := by
  unfold inverseHits
  split
  next rename hinverse hrename => simp [hinverse, hrename]
  next hnone =>
    simp only [List.not_mem_nil, false_iff, not_and, not_exists]
    exact fun hinverse _ rename hrename => absurd hrename (hnone rename hinverse)

theorem cases_of_mem_hits (h : s ∈ (hits o source t).1) :
    s ∈ declaredHits o source t ∨ s ∈ inverseHits o source t ∨ s ∈ namedHits o source t := by
  unfold hits at h
  split at h
  next hdeclared =>
    rw [hdeclared]
    exact .inl h
  · split at h
    next hinverse =>
      rw [hinverse]
      exact .inr (.inl h)
    · exact .inr (.inr h)

/-- Whatever is found may be read, and is not left out. -/
theorem mem_sourceMembers_of_mem_hits (h : s ∈ (hits o source t).1) :
    s ∈ sourceMembers o source ∧ s.ignored = false := by
  rcases cases_of_mem_hits h with h | h | h
  · obtain ⟨hs, hignored, -⟩ := mem_declaredHits.1 h
    exact ⟨hs, hignored⟩
  · obtain ⟨hs, -, hignored⟩ := mem_plainMembers.1 (mem_inverseHits.1 h).2.1
    exact ⟨hs, hignored⟩
  · obtain ⟨hs, -, hignored⟩ := mem_plainMembers.1 (mem_namedHits.1 h).1
    exact ⟨hs, hignored⟩

/-! ### The way back -/

section Back

variable (hrename : ∀ t ∈ target.members, t.rename? = none)
include hrename

theorem declaredHits_back : declaredHits o target s = [] := by
  refine List.eq_nil_iff_forall_not_mem.2 fun t ht => ?_
  obtain ⟨hmem, -, rename, hsome, -⟩ := mem_declaredHits.1 ht
  rw [hrename t (List.mem_filter.1 hmem).1] at hsome
  cases hsome

/-- What the way back finds was renamed in the declared direction, or feeds the member by its name. -/
theorem feeds_of_mem_hits_back (h : t ∈ (hits o target s).1) :
    s.rename?.isSome = true ∨ feeds o.strategy t.name s = true := by
  rcases cases_of_mem_hits h with h | h | h
  · rw [declaredHits_back hrename] at h
    cases h
  · obtain ⟨-, -, rename, hsome, -⟩ := mem_inverseHits.1 h
    exact .inl (hsome ▸ rfl)
  · exact .inr (mem_namedHits.1 h).2

/-- **What the declared direction finds, the way back finds again** if it was renamed there, or if
its name feeds the member by which it was found. -/
theorem mem_hits_back {o' : Options} (hinverse : o.inverseRenames = false)
    (hback : o'.inverseRenames = true) (hs : s ∈ (hits o source t).1) (ht : t ∈ plainMembers o' target)
    (hfeeds : s.rename?.isSome = true ∨ feeds o'.strategy t.name s = true) :
    t ∈ (hits o' target s).1 := by
  have hdeclared : declaredHits o' target s = [] := declaredHits_back hrename
  unfold hits
  rw [hdeclared]
  cases hsome : s.rename? with
  | some rename =>
    -- a renamed member was found by its rename, which names `t`
    have hagree : NamingStrategy.identity.agree t.name rename = true := by
      rcases cases_of_mem_hits hs with h | h | h
      · obtain ⟨-, -, rename', hsome', hagree⟩ := mem_declaredHits.1 h
        obtain rfl := Option.some.inj (hsome.symm.trans hsome')
        rwa [NamingStrategy.agree_identity_comm]
      · rw [(mem_inverseHits.1 h).1] at hinverse
        cases hinverse
      · rw [(mem_plainMembers.1 (mem_namedHits.1 h).1).2.1] at hsome
        cases hsome
    have hmem : t ∈ inverseHits o' target s := mem_inverseHits.2 ⟨hback, ht, rename, hsome, hagree⟩
    cases hfound : inverseHits o' target s with
    | nil =>
      rw [hfound] at hmem
      cases hmem
    | cons t' rest =>
      rw [hfound] at hmem
      exact hmem
  | none =>
    have hnone : inverseHits o' target s = [] := by
      refine List.eq_nil_iff_forall_not_mem.2 fun t' ht' => ?_
      obtain ⟨-, -, rename, hsome', -⟩ := mem_inverseHits.1 ht'
      rw [hsome] at hsome'
      cases hsome'
    rw [hnone]
    rw [hsome] at hfeeds
    exact mem_namedHits.2 ⟨ht, hfeeds.resolve_left nofun⟩

end Back

end Matching

namespace Planning

open Matching

variable {p : Planning} {home : String} {inverse : Bool} {d : Directive} {routine : RoutineRef}
  {source target : TypeDescriptor} {c : PropertyMapping} {s t : Member}

/-! ### Correspondences -/

/-- Where no member is fed by several, none is ambiguous. -/
theorem not_ambiguous_of_noFanIn {m : Member} {sources : List String}
    (h : Validation.noFanIn (p.mappingWith home inverse d routine source target) = [])
    (hmatchable : ¬ Unmatchable source target) (hm : m ∈ targetMembers (options inverse d) target) :
    outcome p.graph (options inverse d) source m ≠ .ambiguous sources := by
  intro hout
  have hmem : (⟨m.name, sources⟩ : Ambiguity) ∈
      (p.mappingWith home inverse d routine source target).result.ambiguous := by
    unfold mappingWith
    rw [if_neg hmatchable]
    have hresult : (⟨m.name, sources⟩ : Ambiguity) ∈ (resultWith p.graph (p.answer home d.strategy)
        (options inverse d) source target).ambiguous := by
      refine List.mem_filterMap.2 ⟨(m, .ambiguous sources), ?_, rfl⟩
      refine List.mem_map.2 ⟨(m, .ambiguous sources), ?_, rfl⟩
      exact List.mem_map.2 ⟨m, hm, by rw [hout]⟩
    cases inverse <;> exact hresult
  rw [Validation.noFanIn, List.map_eq_nil_iff] at h
  rw [h] at hmem
  cases hmem

/-- A correspondence outside other members joins what was found to the member it was found for. -/
theorem exists_joins (hc : c ∈ (p.mappingWith home inverse d routine source target).mappings)
    (hplain : c.flattenedPath = []) :
    ∃ s t, c.Joins s t ∧ t ∈ targetMembers (options inverse d) target ∧ t.ignored = false ∧
      s ∈ (hits (options inverse d) source t).1 := by
  obtain ⟨-, t, b, hout, rfl, -⟩ := mem_mappings_mappingWith.1 hc
  obtain ⟨t', ht', heq⟩ := List.mem_map.1 hout
  obtain ⟨rfl, hbound⟩ := Prod.mk.injEq .. ▸ heq
  obtain ⟨hignored, kind, hhits, hb⟩ := hits_of_bound hbound hplain
  have hpath : b.path = [] := hplain
  refine ⟨b.read, t', ⟨?_, rfl, rfl, rfl, hplain⟩, ht', hignored, ?_⟩
  · simp only [Binding.toMapping, hpath, List.headD_nil]
  · rw [hhits]
    exact List.mem_singleton_self _

/-- A member that is found for another one of the same type is copied into it. -/
theorem exists_joins_of_mem_hits (hmatchable : ¬ Unmatchable source target)
    (hfree : Validation.noFanIn (p.mappingWith home inverse d routine source target) = [])
    (ht : t ∈ targetMembers (options inverse d) target) (hignored : t.ignored = false)
    (hs : s ∈ (hits (options inverse d) source t).1) (hsame : s.type.sameType t.type = true) :
    ∃ c ∈ (p.mappingWith home inverse d routine source target).mappings, c.Joins s t ∧
      c.conversion = .direct := by
  obtain ⟨kind, hbound⟩ := bound_of_mem_hits hignored hs fun sources =>
    not_ambiguous_of_noFanIn hfree hmatchable ht
  have hdirect : conversionWith p.graph (p.answer home d.strategy) s.type t.type = .direct :=
    conversionWith_of_sameType hsame
  refine ⟨_, mem_mappings_mappingWith.2 ⟨hmatchable, t, ⟨s, kind, [], false⟩,
    List.mem_map.2 ⟨t, ht, by rw [hbound]⟩, rfl, ?_⟩, ⟨rfl, rfl, rfl, rfl, rfl⟩, hdirect⟩
  simp [Binding.toMapping, hdirect, Conversion.kind, Conversion.direct]

/-! ### Both directions of a plan -/

/-- **Is a member found again on the way back**: by its own rename, or because the name of the other
one feeds it? -/
def FoundBack (strategy : NamingStrategy) (s t : Member) : Prop :=
  s.rename?.isSome = true ∨ feeds strategy t.name s = true

instance (strategy : NamingStrategy) (s t : Member) : Decidable (FoundBack strategy s t) :=
  inferInstanceAs (Decidable (_ ∨ _))

theorem foundBack_of_agree {strategy : NamingStrategy} (h : strategy.agree s.name t.name = true)
    (hmild : strategy = .identity ∨ strategy = .lowerFirst ∧
      NamingStrategy.BeginsPlainly s.name ∧ NamingStrategy.BeginsPlainly t.name) :
    FoundBack strategy s t :=
  .inr (Bool.or_eq_true_iff.2 (.inl (NamingStrategy.agree_back h hmild)))

/-- The way back is between the same types, under the same strategy. -/
theorem reverse_eq_some {reverse : ObjectMapping}
    (h : p.reverseMapping? d source target = some reverse) :
    ¬ Unmatchable target source ∧ reverse = p.mappingWith target.module true d.reversed
      (routineBetween target source target.module) target source := by
  unfold reverseMapping? at h
  split at h
  next hback =>
    obtain ⟨hobjects, hsource⟩ := Bool.and_eq_true_iff.1 hback
    obtain ⟨-, htarget⟩ := Bool.and_eq_true_iff.1 hobjects
    refine ⟨?_, (Option.some.inj h).symm⟩
    unfold Unmatchable
    cases hkind : target.kind <;> simp_all [TypeKind.isObject]
  · cases h

end Planning

namespace Generation

open Planning Matching

variable {config : Config} {g : TypeGraph} {cache : Cache} {r : PassResult}
  {forward reverse : ObjectMapping} {helpers : List Mapping}

/-- The way back of a plan in a result feeds no member from several. -/
theorem noFanIn_reverse {s : Setting} {d : Directive}
    (h : Accepted s d (.object forward (some reverse) helpers)) :
    Validation.noFanIn reverse = [] := by
  obtain ⟨-, hrest⟩ := Validation.anyError_andThen.1 h.free
  obtain ⟨hback, -⟩ := Validation.anyError_andThen.1 hrest
  rw [Option.toList_some, List.flatMap_singleton, Validation.anyError_run] at hback
  have hrule := hback Validation.noFanIn (by simp [Validation.structuralRules])
  exact Validation.eq_nil_of_anyError_eq_false hrule Validation.reports_noFanIn.error

/-- **There and back.** If nothing of the target is renamed, then whatever a plan reads from a
member of the source as it stands, and puts into one of the target, comes from a member `s` for a
member `t`. If both have one type, `s` can be filled and `t` can be read, then `t` is copied back
into `s` exactly if `s` is found back: if it is renamed, or the name of `t`, respelled by the
strategy of the plan, is that of `s` or its keyword. A member that was found by its name is found
back wherever the strategy leaves the names as they are or lowers a letter of the basic alphabet. -/
theorem there_and_back (hcache : Used cache) (h : (runPass config g cache).1 = .ok r)
    (hplan : .object forward (some reverse) helpers ∈ r.plans)
    (hrename : ∀ t ∈ forward.target.members, t.rename? = none) {c : PropertyMapping}
    (hc : c ∈ forward.mappings) (hplain : c.flattenedPath = []) :
    ∃ s ∈ forward.source.members, ∃ t ∈ forward.target.members, c.Joins s t ∧
      (s.type.sameType t.type = true → s.writable = true → t.readable = true →
        (FoundBack forward.directive.strategy s t →
          ∃ c' ∈ reverse.mappings, c'.Joins t s ∧ c'.conversion = .direct) ∧
        ((forward.source.members.map (·.name)).Nodup → (∃ c' ∈ reverse.mappings, c'.Joins t s) →
          FoundBack forward.directive.strategy s t)) ∧
      (forward.directive.strategy.agree s.name t.name = true →
        forward.directive.strategy = .identity ∨ forward.directive.strategy = .lowerFirst ∧
          NamingStrategy.BeginsPlainly s.name ∧ NamingStrategy.BeginsPlainly t.name →
        FoundBack forward.directive.strategy s t) := by
  have haccepted := accepted_of_mem hcache h hplan
  obtain ⟨source, target, hof⟩ := haccepted.planOf
  have hfree := noFanIn_reverse haccepted
  have hkind : source.kind ≠ .enum := fun henum => by
    obtain ⟨_, _, hmapping⟩ := hof.enum henum
    cases hmapping
  obtain ⟨entries, _, -, hparts⟩ := (hof.object hkind).parts
  generalize hd : (Plan.object forward (some reverse) helpers).directive = d at hparts hof
  have hsource : forward.source = source := hof.source_eq
  have htarget : forward.target = target := hof.target_eq
  have hdirective : forward.directive = d := hd
  injection hparts with hforward hreverse
  obtain ⟨hmatchable, rfl⟩ := reverse_eq_some hreverse.symm
  rw [hforward] at hc
  rw [hsource, htarget, hdirective]
  rw [htarget] at hrename
  obtain ⟨s, t, hjoins, ht, hignored, hs⟩ := exists_joins hc hplain
  obtain ⟨hsource, hsignored⟩ := mem_sourceMembers_of_mem_hits hs
  obtain ⟨hsmem, hread⟩ := List.mem_filter.1 hsource
  obtain ⟨htmem, hfilled⟩ := List.mem_filter.1 ht
  -- both directions admit the same members
  have hsadmitted := (Bool.and_eq_true_iff.1 hread).2
  have htadmitted := (Bool.and_eq_true_iff.1 hfilled).2
  refine ⟨s, hsmem, t, htmem, hjoins, fun hsame hwritable hreadable =>
    ⟨fun hfound => ?_, fun hnodup => ?_⟩, foundBack_of_agree⟩
  · have hsback : s ∈ targetMembers (options true d.reversed) source :=
      List.mem_filter.2 ⟨hsmem, Bool.and_eq_true_iff.2 ⟨hwritable, hsadmitted⟩⟩
    have htback : t ∈ plainMembers (options true d.reversed) target :=
      mem_plainMembers.2 ⟨List.mem_filter.2 ⟨htmem, Bool.and_eq_true_iff.2 ⟨hreadable, htadmitted⟩⟩,
        hrename t htmem, hignored⟩
    refine exists_joins_of_mem_hits hmatchable hfree hsback hsignored
      (mem_hits_back hrename rfl rfl hs htback hfound) ?_
    rw [TypeRef.sameType_comm, hsame]
  · rintro ⟨c', hc', hjoins'⟩
    obtain ⟨t', s', hfrom, hs', -, ht'⟩ := exists_joins hc' hjoins'.plain
    obtain rfl : s' = s := List.inj_on_of_nodup_map hnodup (List.mem_filter.1 hs').1 hsmem
      (hfrom.target.symm.trans hjoins'.target)
    have hname : t'.name = t.name := hfrom.source.symm.trans hjoins'.source
    have hfound := feeds_of_mem_hits_back hrename ht'
    rwa [hname] at hfound

/-- **Does a plan lose nothing**, there and back, of what can come back? -/
def Returns (forward reverse : ObjectMapping) : Prop :=
  ∀ c ∈ forward.mappings, ∀ s ∈ forward.source.members, ∀ t ∈ forward.target.members, c.Joins s t →
    s.type.sameType t.type = true → s.writable = true → t.readable = true →
    ∃ c' ∈ reverse.mappings, c'.Joins t s

instance (forward reverse : ObjectMapping) : Decidable (Returns forward reverse) :=
  inferInstanceAs (Decidable (∀ c ∈ forward.mappings, _))

/-- Users with a name, and with an address that goes by another name on the other side. They are
mapped both ways, their names spelled by words or with a small letter. -/
def spelledUsers (byWords : Bool) : TypeGraph :=
  let text (name : String) : Member := { name, type := .mk "str" .scalar [] none false }
  { types := [
      { name := "User", module := "shop", kind := .cls
        members := [text "FirstName", { text "email" with renameTo := some "mail" }]
        directives := [{ source := "shop.User", target := "dto.UserDto", bidirectional := ⟨.bool true⟩
                         strategy := if byWords then .underscore else .lowerFirst }] },
      { name := "UserDto", module := "dto", kind := .cls
        members := [text (if byWords then "first_name" else "firstName"), text "mail"] }]
    nodup := by cases byWords <;> decide +kernel }

/-- The two directions of the plans of a result that have both. -/
def twoWay (r : PassResult) : List (ObjectMapping × ObjectMapping) :=
  r.plans.filterMap fun
    | .object forward (some reverse) _ => some (forward, reverse)
    | _ => none

theorem mem_twoWay : (forward, reverse) ∈ twoWay r ↔
    ∃ helpers, .object forward (some reverse) helpers ∈ r.plans := by
  rw [twoWay, List.mem_filterMap]
  constructor
  · rintro ⟨plan, hplan, hpair⟩
    split at hpair
    · cases hpair
      exact ⟨_, hplan⟩
    · cases hpair
  · rintro ⟨helpers, hplan⟩
    exact ⟨_, hplan, rfl⟩

/-- With a small letter, both members come back. -/
theorem there_and_back_users : Used { capacity := 1 } ∧
    ∃ r, (runPass {} (spelledUsers false) { capacity := 1 }).1 = .ok r ∧
      ∃ forward reverse, (forward, reverse) ∈ twoWay r ∧
        (∀ t ∈ forward.target.members, t.rename? = none) ∧
        (forward.mappings.map (·.sourceMember)) = ["FirstName", "email"] ∧
        ∀ c ∈ forward.mappings, c.flattenedPath = [] ∧ ∃ c' ∈ reverse.mappings,
          c'.sourceMember = c.targetMember ∧ c'.targetMember = c.sourceMember ∧
            c'.conversion = .direct := by
  obtain ⟨r, h, ⟨forward, reverse⟩, hmem, hrename, hnames, hplain, hback⟩ :
      ∃ r, (runPass {} (spelledUsers false) { capacity := 1 }).1 = .ok r ∧ ∃ pair ∈ twoWay r,
        (∀ t ∈ pair.1.target.members, t.rename? = none) ∧
        pair.1.mappings.map (·.sourceMember) = ["FirstName", "email"] ∧
        (∀ c ∈ pair.1.mappings, c.flattenedPath = []) ∧
        ∀ c ∈ pair.1.mappings, ∀ s ∈ pair.1.source.members, ∀ t ∈ pair.1.target.members, c.Joins s t →
          s.type.sameType t.type = true ∧ s.writable = true ∧ t.readable = true ∧
            FoundBack pair.1.directive.strategy s t :=
    Steps.exists_of_any (by decide +kernel)
  obtain ⟨helpers, hplan⟩ := mem_twoWay.1 hmem
  refine ⟨.new 1, r, h, forward, reverse, hmem, hrename, hnames, fun c hc => ⟨hplain c hc, ?_⟩⟩
  obtain ⟨s, hs, t, ht, hjoins, hcopied, -⟩ := there_and_back (.new 1) h hplan hrename hc (hplain c hc)
  obtain ⟨hsame, hwritable, hreadable, hfound⟩ := hback c hc s hs t ht hjoins
  obtain ⟨c', hc', hjoins', hdirect⟩ := (hcopied hsame hwritable hreadable).1 hfound
  exact ⟨c', hc', hjoins'.source.trans hjoins.target.symm,
    hjoins'.target.trans hjoins.source.symm, hdirect⟩

/-- By words, the name does not come back, and nothing is reported. -/
theorem not_returns_users : ∃ r, generate {} (spelledUsers true) = .ok r ∧ r.diagnostics = [] ∧
    ∃ forward reverse, (forward, reverse) ∈ twoWay r ∧
      (∀ t ∈ forward.target.members, t.rename? = none) ∧ ¬ Returns forward reverse := by
  obtain ⟨r, h, hsilent, ⟨forward, reverse⟩, hmem, hrename, hlost⟩ :
      ∃ r, generate {} (spelledUsers true) = .ok r ∧ r.diagnostics = [] ∧ ∃ pair ∈ twoWay r,
        (∀ t ∈ pair.1.target.members, t.rename? = none) ∧ ¬ Returns pair.1 pair.2 :=
    Steps.exists_of_any (by decide +kernel)
  exact ⟨r, h, hsilent, forward, reverse, hmem, hrename, hlost⟩

end Generation

end Mapsmith
