import Mapsmith.Proofs.Importable
import Mapsmith.Proofs.RoutineNames
import Mapsmith.Proofs.Statements

/-!
# Names in a unit

A unit binds names of many kinds: those of its imports, its type variables and its routines, and inside
routines those of variables (`Mapsmith.Emission.Scope`). Classes must not take any of the others, and not each
other's, or else a reference would mean something that it was not rendered for.

Import tables see to this by giving a class whose own name is reserved, or not the only one of its kind, a
name that is made from its module's. So nothing can go wrong with a class under its own name but for what is
not reserved, the packages of other units and the variables of nested collections; and what is made from a
module's name is not looked at again. `Mapsmith.Emission.Scope.Spared` says that none of this happens in a
unit, and `Mapsmith.Generation.names_apart` that names belong to one thing each exactly then, for the units of
every pass. In such a unit references mean what they are rendered for (`Mapsmith.Emission.Scope.Resolves`).
The one name left out is what the first line of a unit binds, as all others are bound after it.
-/

namespace Mapsmith

namespace Emission

open Generation

/-! ### Scopes -/

/-- **The scope of a unit**: everything that binds a name in it. -/
structure Scope where
  /-- Its imports. -/
  imports : ImportTable
  /-- Its type variables. -/
  parameters : List GenericParameter
  /-- Its routines. -/
  routines : List Routine

namespace Scope

variable (s : Scope)

/-- The packages that imports of whole modules bind. -/
def packages : List String :=
  s.imports.modules.map firstPart

/-- The variables that routines bind. -/
def locals : List String :=
  s.routines.flatMap (·.locals)

/-- The name that the support module goes by, if it is imported. -/
def supportNames : List String :=
  (s.imports.runtime.map (·.2)).toList

/-- The names of everything but classes. -/
def others : List String :=
  s.routines.map (·.name) ++ s.parameters.map (·.name) ++ s.supportNames ++ s.packages ++ s.locals

/-- **Does every name in a scope belong to one thing?** The names of classes are different from each other
and from all others, and no package of a module is hidden by a variable. -/
structure Unambiguous : Prop where
  classes : (s.imports.classes.map s.imports.localName).Nodup
  others : ∀ c ∈ s.imports.classes, s.imports.localName c ∉ s.others
  packages : ∀ package ∈ s.packages, package ∉ s.locals

instance : Decidable s.Unambiguous :=
  decidable_of_iff ((s.imports.classes.map s.imports.localName).Nodup ∧
      (∀ c ∈ s.imports.classes, s.imports.localName c ∉ s.others) ∧
      ∀ package ∈ s.packages, package ∉ s.locals)
    ⟨fun ⟨hclasses, hothers, hpackages⟩ => ⟨hclasses, hothers, hpackages⟩,
      fun h => ⟨h.classes, h.others, h.packages⟩⟩

end Scope

/-- The scope of the unit of a namespace. -/
def unitScope (config : Config) (graph : Option TypeGraph) (ns : String) (plans : List Plan) :
    Except EmissionError Scope := do
  let table ← importTable graph (renderedMappings plans)
  let routines ← unitRoutines ⟨config, ns⟩ plans
  let parameters := typeVariables (renderedMappings plans)
  return ⟨completeImports config table routines parameters, parameters, routines⟩

/-- **Is this the scope of a unit of some plans?** The unit is written from it. -/
structure ScopeOf (config : Config) (graph : Option TypeGraph) (plans : List Plan) (u : GeneratedUnit)
    (s : Scope) : Prop where
  made : unitScope config graph u.ns plans = .ok s
  written : u.source = Layout.render (preamble config u.ns s.imports s.parameters u.routines) ++
    Layout.render (s.routines.flatMap (·.layout fun cls => (s.imports.ref? cls).getD cls))

variable {config : Config} {graph : Option TypeGraph} {g : TypeGraph} {ns : String} {plans : List Plan}
  {units : List GeneratedUnit} {u : GeneratedUnit} {table table' : ImportTable} {s : Scope}
  {c : ImportedClass} {ms : List Mapping}

/-! ### Import tables -/

/-- Does a table hold what it held before, but for classes, each of them once? -/
structure Extends (table table' : ImportTable) : Prop where
  reserved_eq : table'.reserved = table.reserved
  modules_eq : table'.modules = table.modules
  runtime_eq : table'.runtime = table.runtime
  nodup : (table.classes.map (·.qualified)).Nodup → (table'.classes.map (·.qualified)).Nodup

theorem extends_addClass (h : table.addClass c = .ok table') : Extends table table' := by
  unfold ImportTable.addClass at h
  split at h
  · cases h
  · split at h
    · cases h
      exact ⟨rfl, rfl, rfl, id⟩
    next hnew =>
      cases h
      refine ⟨rfl, rfl, rfl, fun hnodup => ?_⟩
      rw [List.map_append, List.map_singleton]
      refine List.nodup_append.2 ⟨hnodup, List.nodup_singleton _, ?_⟩
      rintro name hname other hother rfl
      obtain ⟨c', hc', hsame⟩ := List.mem_map.1 hname
      refine hnew (List.any_eq_true.2 ⟨c', hc', ?_⟩)
      rw [hsame, List.mem_singleton.1 hother]
      exact beq_self_eq_true _

theorem extends_addClasses {classes : List ImportedClass}
    (h : classes.foldlM (fun table c => table.addClass c) table = .ok table') : Extends table table' := by
  induction classes generalizing table with
  | nil =>
    cases h
    exact ⟨rfl, rfl, rfl, id⟩
  | cons c classes ih =>
    rw [List.foldlM_cons] at h
    obtain ⟨next, hnext, h⟩ := Steps.bind_eq_ok.1 h
    have hfirst := extends_addClass hnext
    have hrest := ih h
    exact ⟨hrest.reserved_eq.trans hfirst.reserved_eq, hrest.modules_eq.trans hfirst.modules_eq,
      hrest.runtime_eq.trans hfirst.runtime_eq, fun hnodup => hrest.nodup (hfirst.nodup hnodup)⟩

/-- **A closed import table** of some mappings: it reserves their names, and imports no modules yet. -/
structure Opened (ms : List Mapping) (table : ImportTable) : Prop where
  closed : table.closed = true
  reserved_eq : table.reserved = commonReserved ++ ms.flatMap reservedBy
  modules_eq : table.modules = []
  runtime_eq : table.runtime = none
  nodup : (table.classes.map (·.qualified)).Nodup

theorem opened_importTable {graph : Option TypeGraph} (h : importTable graph ms = .ok table) :
    Opened ms table := by
  obtain ⟨types, -, h⟩ := Steps.bind_eq_ok.1 h
  obtain ⟨table', hfold, h⟩ := Steps.bind_eq_ok.1 h
  cases h
  have hextends := extends_addClasses hfold
  exact ⟨rfl, hextends.reserved_eq, hextends.modules_eq, hextends.runtime_eq, hextends.nodup .nil⟩

/-- Adding modules to a table adds nothing else. -/
theorem exists_addModules (table : ImportTable) (modules : List String) :
    ∃ all, modules.foldl (fun t m => t.addModule m) table = { table with modules := all } ∧
      ∀ module, module ∈ all ↔ module ∈ table.modules ∨ module ∈ modules := by
  induction modules generalizing table with
  | nil => exact ⟨table.modules, rfl, by simp⟩
  | cons m modules ih =>
    obtain ⟨all, hall, hmem⟩ := ih (table.addModule m)
    rw [List.foldl_cons, hall]
    unfold ImportTable.addModule at hmem ⊢
    by_cases hm : m ∈ table.modules
    · rw [if_pos hm] at hmem ⊢
      refine ⟨all, rfl, fun module => (hmem module).trans ?_⟩
      grind
    · rw [if_neg hm] at hmem ⊢
      refine ⟨all, rfl, fun module => (hmem module).trans ?_⟩
      grind

/-- **What the imports of a unit are**: those of the table, with the modules that its routines go through
and the support module if they need it. -/
theorem exists_completeImports (config : Config) (table : ImportTable) (routines : List Routine)
    (parameters : List GenericParameter) :
    ∃ all, completeImports config table routines parameters =
        { table with
          modules := all
          runtime := if needsSupport routines then some (config.runtimeModule, runtimeAlias)
            else table.runtime } ∧
      ∀ module, module ∈ all ↔ module ∈ table.modules ∨ module ∈ neededModules routines parameters := by
  obtain ⟨all, hall, hmem⟩ := exists_addModules table (neededModules routines parameters)
  refine ⟨all, ?_, hmem⟩
  unfold completeImports
  simp only [hall]
  split
  · rfl
  · rfl

theorem exists_scopeOf (h : generateUnits config graph plans = .ok units) (hu : u ∈ units) :
    ∃ s, ScopeOf config graph (plansOf plans u.ns) u s := by
  obtain ⟨ns, -, hunit⟩ := Steps.exists_of_mem_right (Steps.mapM_eq_ok.1 h) hu
  obtain ⟨table, htable, hunit⟩ := Steps.bind_eq_ok.1 hunit
  obtain ⟨rss, hrss, hunit⟩ := Steps.bind_eq_ok.1 hunit
  have hroutines : unitRoutines ⟨config, ns⟩ (plansOf plans ns) = .ok rss.flatten :=
    Steps.bind_eq_ok.2 ⟨rss, hrss, rfl⟩
  have hns : u.ns = ns := by
    cases hunit
    rfl
  rw [hns]
  let parameters := typeVariables (renderedMappings (plansOf plans ns))
  let s : Scope := ⟨completeImports config table rss.flatten parameters, parameters, rss.flatten⟩
  -- completing the imports leaves the names of classes alone
  have hnames : (fun cls => (s.imports.ref? cls).getD cls) = fun cls => (table.ref? cls).getD cls := by
    obtain ⟨all, hall, -⟩ := exists_completeImports config table rss.flatten parameters
    simp only [s, hall]
    rfl
  refine ⟨s, ?_, ?_⟩
  · rw [hns]
    exact Steps.bind_eq_ok.2 ⟨table, htable, Steps.bind_eq_ok.2 ⟨rss.flatten, hroutines, rfl⟩⟩
  · rw [hnames]
    cases hunit
    rfl

/-! ### What a scope holds -/

/-- **What the scope of a unit holds**: classes once, with the names of routines and type variables reserved,
the modules that its routines go through, and all classes that its mappings refer to. -/
structure Scope.Formed (site : Site) (ms : List Mapping) (s : Scope) : Prop where
  closed : s.imports.closed = true
  reserved_eq : s.imports.reserved = commonReserved ++ ms.flatMap reservedBy
  nodup : (s.imports.classes.map (·.qualified)).Nodup
  support : ∀ name ∈ s.supportNames, name = runtimeAlias
  parameters_eq : s.parameters = typeVariables ms
  modules : ∀ module, module ∈ s.imports.modules ↔ module ∈ neededModules s.routines s.parameters
  routines : ∀ r ∈ s.routines, ∃ m ∈ ms, r.InPlace site m
  referred : ∀ m ∈ ms, ∀ cls, m.RefersTo cls → ∃ c ∈ s.imports.classes, c.qualified = cls

/-- The classes that the routines of a mapping name are those of the types that it refers to, once these are
imported. -/
theorem exists_refers {m : Mapping} {cls : String} (h : importTable (some g) ms = .ok table) (hm : m ∈ ms)
    (hcls : m.RefersTo cls) : ∃ t, Refers g m t ∧ t.qualifiedName = cls := by
  rcases hcls with rfl | rfl | ⟨entry, hentry, rfl⟩
  · exact ⟨m.source, .inl rfl, rfl⟩
  · exact ⟨m.target, .inr (.inl rfl), rfl⟩
  · obtain ⟨types, htypes, -⟩ := Steps.bind_eq_ok.1 h
    obtain ⟨ts, -, hts⟩ := Steps.exists_of_mem_left (Steps.mapM_eq_ok.1 htypes) hm
    obtain ⟨derived, hderived, -⟩ := Steps.bind_eq_ok.1 hts
    obtain ⟨t, -, ht⟩ := Steps.exists_of_mem_left (Steps.mapM_eq_ok.1 hderived) hentry
    have hget := dispatchType_eq_ok.1 ht
    exact ⟨t, .inr (.inr ⟨entry, hentry, hget⟩), TypeGraph.qualifiedName_of_get? hget⟩

theorem formed_of_unitScope (h : unitScope config (some g) ns plans = .ok s) :
    s.Formed ⟨config, ns⟩ (renderedMappings plans) := by
  obtain ⟨table, htable, h⟩ := Steps.bind_eq_ok.1 h
  obtain ⟨routines, hroutines, h⟩ := Steps.bind_eq_ok.1 h
  cases h
  have hopened := opened_importTable htable
  obtain ⟨all, hall, hmem⟩ := exists_completeImports config table routines
    (typeVariables (renderedMappings plans))
  rw [hall]
  refine ⟨hopened.closed, hopened.reserved_eq, hopened.nodup, fun name hname => ?_, rfl, fun module => ?_,
    fun r hr => ?_, fun m hm cls hcls => ?_⟩
  · simp only [Scope.supportNames, hopened.runtime_eq] at hname
    split at hname
    · exact List.mem_singleton.1 hname
    · cases hname
  · rw [hmem, hopened.modules_eq]
    simp
  · obtain ⟨rss, hrss, heq⟩ := Steps.bind_eq_ok.1 hroutines
    cases heq
    obtain ⟨rs, hrs, hr⟩ := List.mem_flatten.1 hr
    obtain ⟨⟨isPublic, m⟩, hm, hrs⟩ := Steps.exists_of_mem_right (Steps.mapM_eq_ok.1 hrss) hrs
    exact ⟨m, List.mem_map_of_mem hm, (madeFor_of_mem hrs hr).inPlace⟩
  · obtain ⟨t, ht, rfl⟩ := exists_refers htable hm hcls
    exact (classes_importTable htable).2 m hm t ht

section Formed

variable {site : Site} (h : s.Formed site ms)
include h

theorem isLocal_of_mem {name : String} (hname : name ∈ s.locals) : IsLocal name := by
  obtain ⟨r, hr, hname⟩ := List.mem_flatMap.1 hname
  obtain ⟨m, -, hplace⟩ := h.routines r hr
  exact hplace.locals name hname

/-- The modules that conversions between scalars and type variables need. -/
theorem enters_of_mem {module : String} (hmodule : module ∈ s.imports.modules) :
    module = "typing" ∨ site.Enters module := by
  rw [h.modules, neededModules, List.mem_append] at hmodule
  rcases hmodule with hmodule | hmodule
  · split at hmodule
    · cases hmodule
    · exact .inl (List.mem_singleton.1 hmodule)
  · obtain ⟨r, hr, hmodule⟩ := List.mem_flatMap.1 hmodule
    obtain ⟨m, -, hplace⟩ := h.routines r hr
    exact .inr (hplace.modules module hmodule)

theorem localName_eq (c : ImportedClass) :
    s.imports.localName c = if s.imports.clashes c then c.alias else c.name := by
  rw [ImportTable.localName, h.closed, Bool.true_and]

/-- The names of type variables are reserved. -/
theorem parameter_reserved {q : GenericParameter} (hq : q ∈ s.parameters) :
    q.name ∈ s.imports.reserved := by
  rw [h.parameters_eq, typeVariables, Text.mem_sortByKey] at hq
  rcases @Text.mem_of_mem_addFirsts _ (fun q : GenericParameter => q.name) _ _ _ hq with hq | hq
  · cases hq
  · obtain ⟨m, hm, hq⟩ := List.mem_flatMap.1 hq
    rw [h.reserved_eq]
    refine List.mem_append_right _ (List.mem_flatMap.2 ⟨m, hm, ?_⟩)
    cases m with
    | object o => exact List.mem_cons_of_mem _ (List.mem_append_right _ (List.mem_map_of_mem hq))
    | enum e => cases hq

end Formed

/-- A class that does not clash is the only one of its name. -/
theorem eq_of_not_clashes {c' : ImportedClass} (hc : c ∈ table.classes) (hc' : c' ∈ table.classes)
    (hown : table.clashes c = false) (hname : c'.name = c.name) : c' = c := by
  by_contra hne
  have hcount : table.classes.countP (·.name == c.name) ≤ 1 := by
    rw [ImportTable.clashes, Bool.or_eq_false_iff, decide_eq_false_iff_not] at hown
    omega
  have hpair : [c, c'].Subperm table.classes :=
    List.subperm_of_subset (by simpa using Ne.symm hne) (by simp [hc, hc'])
  have htwo := hpair.countP_le (·.name == c.name)
  simp [hname] at htwo
  omega

theorem not_reserved_of_not_clashes (hown : table.clashes c = false) : c.name ∉ table.reserved := by
  rw [ImportTable.clashes, Bool.or_eq_false_iff] at hown
  simpa using hown.2

/-! ### Names that can be taken twice -/

/-- **Is a scope spared what can go wrong?** A name made from a module's belongs to one class only, no
package of another unit is hidden by a variable or bears the name of a class, and neither does a variable of
nested collections. -/
structure Scope.Spared (config : Config) (s : Scope) : Prop where
  aliases : ∀ c ∈ s.imports.classes, s.imports.clashes c = true →
    c.alias ∉ s.others ∧ ∀ c' ∈ s.imports.classes, s.imports.localName c' = c.alias → c' = c
  packages : ∀ home, unitModule config home ∈ s.imports.modules →
    firstPart (unitModule config home) ∉ s.locals ∧
      ∀ c ∈ s.imports.classes, s.imports.clashes c = false → c.name ≠ firstPart (unitModule config home)
  items : ∀ depth, Site.itemName (depth + 1) ∈ s.locals →
    ∀ c ∈ s.imports.classes, s.imports.clashes c = false → c.name ≠ Site.itemName (depth + 1)

/-- The names of variables are reserved but for those of elements inside other collections. -/
theorem common_of_isLocal {name : String} (h : IsLocal name) :
    name ∈ commonReserved ∨ ∃ depth, name = Site.itemName (depth + 1) := by
  rcases h with h | ⟨depth, rfl⟩
  · left
    revert name
    decide
  · cases depth with
    | zero => exact .inl (by decide)
    | succ depth => exact .inr ⟨depth, rfl⟩

theorem head?_itemName (depth : Nat) : (Site.itemName depth).toList.head? = some 'i' := by
  unfold Site.itemName
  split
  · decide
  · simp [String.toList_append]

/-- Does a name begin as those of routines do, and that of the support module? -/
def BeginsAsRoutine (name : String) : Prop :=
  ∃ ch ∈ ['m', 'u', 'p', '_'], name.toList.head? = some ch

/-- No variable begins as routines do. -/
theorem BeginsAsRoutine.not_isLocal {name : String} (h : BeginsAsRoutine name) : ¬ IsLocal name := by
  obtain ⟨ch, hch, hhead⟩ := h
  rintro (hfixed | ⟨depth, rfl⟩)
  · simp only [List.mem_cons, List.not_mem_nil, or_false] at hfixed
    rcases hfixed with rfl | rfl | rfl <;>
      · cases hhead
        exact absurd hch (by decide)
  · rw [head?_itemName] at hhead
    cases hhead
    exact absurd hch (by decide)

/-- The modules that code may need for its own sake. -/
def ownModules : List String :=
  ["typing", "decimal", "uuid", "datetime"]

section Formed

variable {site : Site} (h : s.Formed site ms)
include h

/-- A package is that of a module that code needs for its own sake, or of a unit. -/
theorem package_cases {package : String} (hpackage : package ∈ s.packages) :
    package ∈ ownModules ∨ ∃ home, unitModule site.config home ∈ s.imports.modules ∧
      package = firstPart (unitModule site.config home) := by
  have hown : ∀ module ∈ ownModules, firstPart module = module := by decide +kernel
  obtain ⟨module, hmodule, rfl⟩ := List.mem_map.1 hpackage
  rcases enters_of_mem h hmodule with rfl | hstandard | ⟨home, -, rfl⟩
  · exact .inl (by decide +kernel)
  · have hmem : module ∈ ownModules := List.mem_cons_of_mem _ hstandard
    rw [hown module hmem]
    exact .inl hmem
  · exact .inr ⟨home, hmodule, rfl⟩

/-- What code needs for its own sake is reserved, and no variable is called so. -/
theorem ownModules_reserved {package : String} (hpackage : package ∈ ownModules) :
    package ∈ s.imports.reserved ∧ package ∉ s.locals := by
  have hcommon : ∀ package ∈ ownModules, package ∈ commonReserved := by decide
  have hfixed : ∀ package ∈ ownModules, package ∉ ["source", "target", "exc"] := by decide
  have hheads : ∀ package ∈ ownModules, package.toList.head? ≠ some 'i' := by decide
  refine ⟨?_, fun hlocal => ?_⟩
  · rw [h.reserved_eq]
    exact List.mem_append_left _ (hcommon package hpackage)
  · rcases isLocal_of_mem h hlocal with hmem | ⟨depth, rfl⟩
    · exact hfixed package hpackage hmem
    · exact hheads _ hpackage (head?_itemName depth)

/-- **A class under its own name** is not called as anything else but what a scope may not be spared. -/
theorem name_not_mem_others (hspared : s.Spared site.config)
    (hnames : ∀ r ∈ s.routines, r.name ∈ s.imports.reserved) (hc : c ∈ s.imports.classes)
    (hown : s.imports.clashes c = false) : c.name ∉ s.others := by
  have hfree := not_reserved_of_not_clashes hown
  have hcommon : c.name ∉ commonReserved := fun hmem => by
    rw [h.reserved_eq] at hfree
    exact hfree (List.mem_append_left _ hmem)
  intro hmem
  simp only [Scope.others, List.mem_append, List.mem_map, or_assoc] at hmem
  rcases hmem with ⟨r, hr, hname⟩ | ⟨q, hq, hname⟩ | hsupport | hpackage | hlocal
  · exact hfree (hname ▸ hnames r hr)
  · exact hfree (hname ▸ parameter_reserved h hq)
  · rw [h.support _ hsupport] at hcommon
    exact hcommon (by decide)
  · rcases package_cases h hpackage with hpackage | ⟨home, hmodule, hname⟩
    · exact hfree (ownModules_reserved h hpackage).1
    · exact (hspared.packages home hmodule).2 c hc hown hname
  · rcases common_of_isLocal (isLocal_of_mem h hlocal) with hreserved | ⟨depth, hname⟩
    · exact hcommon hreserved
    · exact hspared.items depth (hname ▸ hlocal) c hc hown hname

/-- **Names belong to one thing each exactly if the scope is spared what can go wrong.** -/
theorem unambiguous_iff_spared (hnames : ∀ r ∈ s.routines, r.name ∈ s.imports.reserved) :
    s.Unambiguous ↔ s.Spared site.config := by
  have hclasses : s.imports.classes.Nodup := h.nodup.of_map _
  have halias : ∀ {c}, s.imports.clashes c = true → s.imports.localName c = c.alias := fun hc => by
    rw [localName_eq h, if_pos hc]
  have hname : ∀ {c}, s.imports.clashes c = false → s.imports.localName c = c.name := fun hc => by
    rw [localName_eq h, hc]
    rfl
  constructor
  · intro hone
    have hinj := List.inj_on_of_nodup_map hone.classes
    refine ⟨fun c hc hclash => ⟨?_, fun c' hc' hsame => ?_⟩,
      fun home hmodule => ⟨?_, fun c hc hown heq => ?_⟩, fun depth hlocal c hc hown heq => ?_⟩
    · rw [← halias hclash]
      exact hone.others c hc
    · exact hinj hc' hc (hsame.trans (halias hclash).symm)
    · exact hone.packages _ (List.mem_map_of_mem hmodule)
    · refine hone.others c hc ?_
      rw [hname hown, heq]
      exact List.mem_append_left _ (List.mem_append_right _ (List.mem_map_of_mem hmodule))
    · refine hone.others c hc ?_
      rw [hname hown, heq]
      exact List.mem_append_right _ hlocal
  · intro hspared
    refine ⟨(List.nodup_map_iff_inj_on hclasses).2 fun c hc c' hc' hsame => ?_, fun c hc => ?_,
      fun package hpackage => ?_⟩
    · cases hclash : s.imports.clashes c with
      | true =>
        rw [halias hclash] at hsame
        exact ((hspared.aliases c hc hclash).2 c' hc' hsame.symm).symm
      | false =>
        cases hclash' : s.imports.clashes c' with
        | true =>
          rw [halias hclash'] at hsame
          exact (hspared.aliases c' hc' hclash').2 c hc hsame
        | false =>
          rw [hname hclash, hname hclash'] at hsame
          exact eq_of_not_clashes hc' hc hclash' hsame
    · cases hclash : s.imports.clashes c with
      | true =>
        rw [halias hclash]
        exact (hspared.aliases c hc hclash).1
      | false =>
        rw [hname hclash]
        exact name_not_mem_others h hspared hnames hc hclash
    · rcases package_cases h hpackage with hown | ⟨home, hmodule, rfl⟩
      · exact (ownModules_reserved h hown).2
      · exact (hspared.packages home hmodule).1

end Formed

/-! ### What names mean -/

/-- What a name means in a unit. -/
inductive Meaning
  /-- A class. -/
  | cls (qualified : String)
  /-- A package. -/
  | package (name : String)
  /-- The support module. -/
  | support (module : String)
  /-- A type variable. -/
  | typeVariable (name : String)
  /-- A routine. -/
  | routine (name : String)
  /-- The list of what is offered. -/
  | offered
  deriving DecidableEq, Repr

namespace Scope

/-- What a unit binds at its top level, in order: its imports, kind by kind, its type variables, the list
of what it offers, and its routines. Inside a kind the order does not matter where names are not shared. -/
def bindings (s : Scope) : List (String × Meaning) :=
  s.imports.modules.map (fun module => (firstPart module, .package (firstPart module)))
    ++ s.imports.runtime.toList.map (fun (module, name) => (name, .support module))
    ++ s.imports.classes.map (fun c => (s.imports.localName c, .cls c.qualified))
    ++ s.parameters.map (fun q => (q.name, .typeVariable q.name))
    ++ [("__all__", .offered)]
    ++ s.routines.map fun r => (r.name, .routine r.name)

/-- What a name means inside a routine, unless it is that of a variable. What is bound last counts. -/
def resolve (s : Scope) (r : Routine) (name : String) : Option Meaning :=
  if name ∈ r.locals then none else s.bindings.reverse.lookup name

/-- **Do references mean what they are rendered for?** Classes and routines do, apart from a class that goes
by the name of the list of what is offered; modules do unless what stands below their imports bears their
names. -/
structure Resolves (s : Scope) : Prop where
  classes : ∀ r ∈ s.routines, ∀ cls ∈ r.classes, ∃ name, s.imports.ref? cls = some name ∧
    (name ≠ "__all__" → s.resolve r name = some (.cls cls))
  routines : ∀ r ∈ s.routines, ∀ r' ∈ s.routines, s.resolve r r'.name = some (.routine r'.name)
  modules : ∀ r ∈ s.routines, ∀ module ∈ r.body.flatMap (·.modules),
    firstPart module ∉
        s.supportNames ++ s.parameters.map (·.name) ++ ["__all__"] ++ s.routines.map (·.name) →
      s.resolve r (firstPart module) = some (.package (firstPart module))
  support : ∀ r ∈ s.routines, ∀ module name, s.imports.runtime = some (module, name) →
    name ∉ s.packages ++ s.parameters.map (·.name) ++ s.routines.map (·.name) →
      s.resolve r name = some (.support module)

end Scope

/-- What is bound last under a name, if all that is bound from somewhere on agrees. -/
theorem lookup_reverse (before : List (String × Meaning)) {after : List (String × Meaning)}
    {name : String} {x : Meaning} (hmem : (name, x) ∈ after) (hall : ∀ y, (name, y) ∈ after → y = x) :
    (before ++ after).reverse.lookup name = some x := by
  have hsome : after.reverse.lookup name = some x := by
    have hmem' : (name, x) ∈ after.reverse := List.mem_reverse.2 hmem
    have hall' : ∀ y, (name, y) ∈ after.reverse → y = x := fun y hy => hall y (List.mem_reverse.1 hy)
    generalize after.reverse = l at hmem' hall'
    induction l with
    | nil => cases hmem'
    | cons entry l ih =>
      obtain ⟨key, y⟩ := entry
      by_cases hkey : name = key
      · obtain rfl := hkey
        rw [List.lookup_cons_self, hall' y List.mem_cons_self]
      · rw [List.lookup_cons, beq_eq_false_iff_ne.2 hkey]
        refine ih ((List.mem_cons.1 hmem').resolve_left fun heq => hkey (Prod.mk.inj heq).1) fun y hy => ?_
        exact hall' y (List.mem_cons_of_mem _ hy)
  rw [List.reverse_append, List.lookup_append, hsome]
  rfl

/-- What a name is bound to, and what it is then the name of. -/
theorem binding_cases {name : String} {x : Meaning} (h : (name, x) ∈ s.bindings) :
    (x = .package name ∧ name ∈ s.packages) ∨
      (∃ module, x = .support module ∧ s.imports.runtime = some (module, name)) ∨
      (∃ c ∈ s.imports.classes, s.imports.localName c = name ∧ x = .cls c.qualified) ∨
      (x = .typeVariable name ∧ name ∈ s.parameters.map (·.name)) ∨
      (x = .offered ∧ name = "__all__") ∨
      x = .routine name ∧ name ∈ s.routines.map (·.name) := by
  simp only [Scope.bindings, List.mem_append, List.mem_map, Prod.mk.injEq, or_assoc,
    List.mem_singleton] at h
  rcases h with ⟨module, hmodule, rfl, rfl⟩ | ⟨⟨module, support⟩, hruntime, rfl, rfl⟩ | ⟨c, hc, rfl, rfl⟩ |
    ⟨q, hq, rfl, rfl⟩ | ⟨rfl, rfl⟩ | ⟨r, hr, rfl, rfl⟩
  · exact .inl ⟨rfl, List.mem_map_of_mem hmodule⟩
  · exact .inr (.inl ⟨module, rfl, Option.mem_toList.1 hruntime⟩)
  · exact .inr (.inr (.inl ⟨c, hc, rfl, rfl⟩))
  · exact .inr (.inr (.inr (.inl ⟨rfl, List.mem_map_of_mem hq⟩)))
  · exact .inr (.inr (.inr (.inr (.inl ⟨rfl, rfl⟩))))
  · exact .inr (.inr (.inr (.inr (.inr ⟨rfl, List.mem_map_of_mem hr⟩))))

theorem resolve_eq_some {r : Routine} {name : String} {x : Meaning} (hr : r ∈ s.routines)
    (hlocal : name ∉ s.locals) (hmem : (name, x) ∈ s.bindings)
    (hall : ∀ y, (name, y) ∈ s.bindings → y = x) : s.resolve r name = some x := by
  rw [Scope.resolve, if_neg fun hmem => hlocal (List.mem_flatMap.2 ⟨r, hr, hmem⟩)]
  exact lookup_reverse [] hmem hall

theorem find?_qualified (hnodup : (table.classes.map (·.qualified)).Nodup) (hc : c ∈ table.classes) :
    table.classes.find? (·.qualified == c.qualified) = some c := by
  obtain ⟨found, hfound⟩ := Option.isSome_iff_exists.1
    (List.find?_isSome.2 ⟨c, hc, beq_self_eq_true c.qualified⟩ :
      (table.classes.find? (·.qualified == c.qualified)).isSome = true)
  have hsame : found.qualified = c.qualified := by simpa using List.find?_some hfound
  rw [hfound, List.inj_on_of_nodup_map hnodup (List.mem_of_find?_eq_some hfound) hc hsame]

section Resolves

variable {r : Routine}

/-- A class that is unlike all others by its name is what the name means. -/
theorem resolve_localName (hone : s.Unambiguous) (hr : r ∈ s.routines) (hc : c ∈ s.imports.classes)
    (hoffered : s.imports.localName c ≠ "__all__") :
    s.resolve r (s.imports.localName c) = some (.cls c.qualified) := by
  have hothers := hone.others c hc
  simp only [Scope.others, List.mem_append, not_or] at hothers
  obtain ⟨⟨⟨⟨hroutine, hparameter⟩, hsupport⟩, hpackage⟩, hlocal⟩ := hothers
  refine resolve_eq_some hr hlocal ?_ fun y hy => ?_
  · simp only [Scope.bindings, List.mem_append]
    exact .inl (.inl (.inl (.inr (List.mem_map_of_mem hc))))
  · rcases binding_cases hy with ⟨-, hmem⟩ | ⟨module, -, hruntime⟩ | ⟨c', hc', hname, rfl⟩ | ⟨-, hmem⟩ |
      ⟨-, hname⟩ | ⟨-, hmem⟩
    · exact absurd hmem hpackage
    · exact absurd (by simp [Scope.supportNames, hruntime]) hsupport
    · rw [List.inj_on_of_nodup_map hone.classes hc' hc hname]
    · exact absurd hmem hparameter
    · exact absurd hname hoffered
    · exact absurd hmem hroutine

/-- A package is what its name means, unless something below the imports of modules is called so. -/
theorem resolve_package (hone : s.Unambiguous) (hr : r ∈ s.routines) {package : String}
    (hpackage : package ∈ s.packages) (hfree : package ∉ s.supportNames ++ s.parameters.map (·.name) ++
      ["__all__"] ++ s.routines.map (·.name)) : s.resolve r package = some (.package package) := by
  simp only [List.mem_append, not_or, List.mem_singleton] at hfree
  obtain ⟨⟨⟨hsupport, hparameter⟩, hoffered⟩, hroutine⟩ := hfree
  refine resolve_eq_some hr (hone.packages _ hpackage) ?_ fun y hy => ?_
  · obtain ⟨module, hmodule, rfl⟩ := List.mem_map.1 hpackage
    simp only [Scope.bindings, List.mem_append]
    exact .inl (.inl (.inl (.inl (.inl (List.mem_map.2 ⟨module, hmodule, rfl⟩)))))
  · rcases binding_cases hy with ⟨rfl, -⟩ | ⟨_, -, hruntime⟩ | ⟨c', hc', hname, rfl⟩ | ⟨-, hmem⟩ |
      ⟨-, hname⟩ | ⟨-, hmem⟩
    · rfl
    · exact absurd (by simp [Scope.supportNames, hruntime]) hsupport
    · refine absurd ?_ (hone.others c' hc')
      rw [hname]
      exact List.mem_append_left _ (List.mem_append_right _ hpackage)
    · exact absurd hmem hparameter
    · exact absurd hname hoffered
    · exact absurd hmem hroutine

variable {site : Site} (h : s.Formed site ms)
include h

/-- The support module is what its name means, unless something else that is no class is called so. -/
theorem resolve_support (hone : s.Unambiguous) (hr : r ∈ s.routines) {module name : String}
    (hruntime : s.imports.runtime = some (module, name))
    (hfree : name ∉ s.packages ++ s.parameters.map (·.name) ++ s.routines.map (·.name)) :
    s.resolve r name = some (.support module) := by
  have hsupport : name ∈ s.supportNames := by simp [Scope.supportNames, hruntime]
  have halias : name = runtimeAlias := h.support name hsupport
  simp only [List.mem_append, not_or] at hfree
  obtain ⟨⟨hpackage, hparameter⟩, hroutine⟩ := hfree
  have hbegins : BeginsAsRoutine name := ⟨'_', by decide, by rw [halias]; decide⟩
  have hlocal : name ∉ s.locals := fun hmem => hbegins.not_isLocal (isLocal_of_mem h hmem)
  refine resolve_eq_some hr hlocal ?_ fun y hy => ?_
  · simp only [Scope.bindings, List.mem_append, hruntime]
    exact .inl (.inl (.inl (.inl (.inr List.mem_cons_self))))
  · rcases binding_cases hy with ⟨-, hmem⟩ | ⟨module', rfl, hruntime'⟩ | ⟨c', hc', hname, rfl⟩ |
      ⟨-, hmem⟩ | ⟨-, hname⟩ | ⟨-, hmem⟩
    · exact absurd hmem hpackage
    · rw [hruntime] at hruntime'
      cases hruntime'
      rfl
    · refine absurd ?_ (hone.others c' hc')
      rw [hname]
      exact List.mem_append_left _ (List.mem_append_left _ (List.mem_append_right _ hsupport))
    · exact absurd hmem hparameter
    · rw [halias] at hname
      exact absurd hname (by decide)
    · exact absurd hmem hroutine

/-- Routines stand last, and no variable begins as they do, so that they are what their names mean. -/
theorem resolve_routine (hbegins : ∀ r ∈ s.routines, BeginsAsRoutine r.name) (hr : r ∈ s.routines)
    {r' : Routine} (hr' : r' ∈ s.routines) : s.resolve r r'.name = some (.routine r'.name) := by
  have hlocal : r'.name ∉ r.locals := fun hmem =>
    (hbegins r' hr').not_isLocal (isLocal_of_mem h (List.mem_flatMap.2 ⟨r, hr, hmem⟩))
  rw [Scope.resolve, if_neg hlocal, Scope.bindings]
  refine lookup_reverse _ (List.mem_map_of_mem hr') fun y hy => ?_
  obtain ⟨q, -, hq⟩ := List.mem_map.1 hy
  obtain ⟨hname, rfl⟩ := Prod.mk.inj hq
  rw [hname]

end Resolves

/-- **In an unambiguous scope, references mean what they are rendered for.** -/
theorem resolves_of_unambiguous {site : Site} (h : s.Formed site ms)
    (hbegins : ∀ r ∈ s.routines, BeginsAsRoutine r.name) (hone : s.Unambiguous) : s.Resolves := by
  refine ⟨fun r hr cls hcls => ?_, fun r hr r' hr' => resolve_routine h hbegins hr hr',
    fun r hr module hmodule hfree => ?_, fun r hr module name => resolve_support h hone hr⟩
  · obtain ⟨m, hm, hplace⟩ := h.routines r hr
    obtain ⟨c, hc, rfl⟩ := h.referred m hm cls (hplace.classes cls hcls)
    have hfind : s.imports.ref? c.qualified = some (s.imports.localName c) := by
      rw [ImportTable.ref?, if_pos h.closed, find?_qualified h.nodup hc]
      rfl
    exact ⟨_, hfind, resolve_localName hone hr hc⟩
  · have hmem : module ∈ s.imports.modules :=
      (h.modules module).2 (List.mem_append_right _ (List.mem_flatMap.2 ⟨r, hr, hmodule⟩))
    exact resolve_package hone hr (List.mem_map_of_mem hmem) hfree

theorem routines_of_unitScope (h : unitScope config graph ns plans = .ok s) :
    s.routines.map (·.name) = unitNames plans := by
  obtain ⟨table, -, h⟩ := Steps.bind_eq_ok.1 h
  obtain ⟨routines, hroutines, h⟩ := Steps.bind_eq_ok.1 h
  cases h
  obtain ⟨rss, hrss, heq⟩ := Steps.bind_eq_ok.1 hroutines
  cases heq
  exact (mapM_routines hrss).1

/-- The names of the routines of a mapping are reserved, if there are any letters in them. -/
theorem mem_reservedBy {isPublic : Bool} {m : Mapping} {name : String} (h : name ∈ definedNames isPublic m)
    (hne : name ≠ "") : name ∈ reservedBy m := by
  cases m with
  | enum m => exact h
  | object m =>
    rcases List.mem_cons.1 h with rfl | h
    · exact List.mem_cons_self
    · refine List.mem_cons_of_mem _ (List.mem_append_left _ (List.mem_filter.2 ⟨?_, by simpa using hne⟩))
      split at h
      · exact h
      · cases h

end Emission

namespace Generation

open Emission Planning

variable {config : Config} {g : TypeGraph} {cache : Cache} {r : PassResult} {ns : String} {s : Scope}

/-- **The routines of a unit begin as no variable does, and their names are reserved.** -/
theorem reserved_of_mem (hcache : Used cache) (h : (runPass config g cache).1 = .ok r)
    (hs : unitScope config (some g) ns (plansOf r.plans ns) = .ok s) {q : Routine} (hq : q ∈ s.routines) :
    q.name ∈ s.imports.reserved ∧ BeginsAsRoutine q.name := by
  have hname : q.name ∈ unitNames (plansOf r.plans ns) := by
    rw [← routines_of_unitScope hs]
    exact List.mem_map_of_mem hq
  have hplan : ∀ p ∈ plansOf r.plans ns,
      ∃ d source target, PlanOf (settingOf config g).planning d source target p :=
    fun p hp => ⟨_, (accepted_of_mem hcache h (mem_plansOf.1 hp).1).planOf⟩
  -- a mapping of the unit defines the name, which begins as those of its kind do
  obtain ⟨isPublic, m, hm, hdefined, hbegins⟩ : ∃ isPublic, ∃ m ∈ renderedMappings (plansOf r.plans ns),
      q.name ∈ definedNames isPublic m ∧ BeginsAsRoutine q.name := by
    rw [unitNames_eq, List.mem_append, mem_publicNames] at hname
    rcases hname with ⟨p, hp, m, hm, hdefined⟩ | hprivate
    · obtain ⟨d, source, target, hof⟩ := hplan p hp
      obtain ⟨ch, hch, hhead⟩ := head?_of_mem_publicMappings hof (List.mem_flatMap.2 ⟨m, hm, hdefined⟩)
      exact ⟨true, m, mem_renderedMappings.2 (.inl ⟨p, hp, hm⟩), hdefined, ch,
        List.mem_append_left ['_'] hch, hhead⟩
    · obtain ⟨m, hm, hname⟩ := List.mem_map.1 hprivate
      obtain ⟨p, hp, hhelper⟩ := mem_of_mem_helperMappings hm
      obtain ⟨d, source, target, hof⟩ := hplan p (Text.mem_sortByKey.1 hp)
      rw [← hname]
      exact ⟨false, m, mem_renderedMappings.2 (.inr hm), routine_name_mem_definedNames, '_', by decide,
        head?_of_mem_helpers hof hhelper⟩
  refine ⟨?_, hbegins⟩
  have hne : q.name ≠ "" := fun hempty => by
    obtain ⟨ch, -, hhead⟩ := hbegins
    rw [hempty] at hhead
    cases hhead
  rw [(formed_of_unitScope hs).reserved_eq]
  exact List.mem_append_right _ (List.mem_flatMap.2 ⟨m, hm, mem_reservedBy hdefined hne⟩)

/-- **Names in a unit.** Classes that go by their own names are not called alike, nor as a routine, a type
variable, the support module, a module that code needs for its own sake or a variable outside nested
collections. All names belong to one thing each exactly if the unit is spared what nobody looks at: a name
made from a module's that is taken already, a package of another unit that is called like a class or a
variable, and a variable of nested collections that is called like a class. References then mean what they
are rendered for. -/
theorem names_apart (hcache : Used cache) (h : (runPass config g cache).1 = .ok r) :
    ∀ u ∈ r.units, ∃ s, ScopeOf config (some g) (plansOf r.plans u.ns) u s ∧
      (∀ c ∈ s.imports.classes, s.imports.clashes c = false → s.imports.localName c = c.name ∧
        (∀ c' ∈ s.imports.classes, c'.name = c.name → c' = c) ∧
        c.name ∉ commonReserved ++ s.routines.map (·.name) ++ s.parameters.map (·.name)) ∧
      (s.Unambiguous ↔ s.Spared config) ∧ (s.Unambiguous → s.Resolves) := by
  intro u hu
  obtain ⟨s, hs⟩ := exists_scopeOf (units_eq hcache h) hu
  have hformed := formed_of_unitScope hs.made
  have hreserved := fun q hq => reserved_of_mem hcache h hs.made (q := q) hq
  refine ⟨s, hs, fun c hc hown => ⟨?_, fun c' hc' => eq_of_not_clashes hc hc' hown, fun hmem => ?_⟩,
    unambiguous_iff_spared hformed fun q hq => (hreserved q hq).1,
    resolves_of_unambiguous hformed fun q hq => (hreserved q hq).2⟩
  · rw [localName_eq hformed, hown]
    rfl
  · refine not_reserved_of_not_clashes hown ?_
    simp only [List.mem_append, List.mem_map, or_assoc] at hmem
    rcases hmem with hcommon | ⟨q, hq, hname⟩ | ⟨q, hq, hname⟩
    · rw [hformed.reserved_eq]
      exact List.mem_append_left _ hcommon
    · exact hname ▸ (hreserved q hq).1
    · exact hname ▸ parameter_reserved hformed hq

/-- Orders with a line, for which there is a routine in the unit of a package. The two classes of orders
go by one name, or else one of them goes by the name of the package. -/
def salesOrders (named : Bool) : TypeGraph :=
  let text : TypeRef := .mk "str" .scalar [] none false
  let object (name : String) : TypeRef := .mk name .object [] none false
  { types := [
      { name := "Entry", module := "crm", kind := .cls, members := [{ name := "label", type := text }]
        directives := [{ source := "crm.Entry", target := "order.lines.Line" }] },
      { name := "Line", module := "order.lines", kind := .cls
        members := [{ name := "label", type := text }] },
      { name := if named then "order" else "Order", module := "sales", kind := .cls
        members := [{ name := "line", type := object "crm.Entry" }]
        directives := [
          { source := if named then "sales.order" else "sales.Order", target := "dto.Order" }] },
      { name := "Order", module := "dto", kind := .cls
        members := [{ name := "line", type := object "order.lines.Line" }] }]
    nodup := by cases named <;> decide +kernel }

theorem names_apart_orders : Used { capacity := 0 } ∧
    ∃ r, (runPass {} (salesOrders false) { capacity := 0 }).1 = .ok r ∧ ∃ u ∈ r.units, ∃ s,
      ScopeOf {} (some (salesOrders false)) (plansOf r.plans u.ns) u s ∧ s.packages = ["order"] ∧
      s.imports.classes.map s.imports.localName = ["sales_Order", "dto_Order"] ∧
      s.Spared {} ∧ s.Resolves := by
  let scope (u : GeneratedUnit) (r : PassResult) :=
    (unitScope {} (some (salesOrders false)) u.ns (plansOf r.plans u.ns)).toOption
  obtain ⟨r, hr, u, hu, hscope⟩ : ∃ r, (runPass {} (salesOrders false) { capacity := 0 }).1 = .ok r ∧
      ∃ u ∈ r.units, ((scope u r).any fun s => decide (s.packages = ["order"] ∧
        s.imports.classes.map s.imports.localName = ["sales_Order", "dto_Order"] ∧ s.Unambiguous)) = true :=
    Steps.exists_of_any (by decide +kernel)
  obtain ⟨s', hs', hpackages, hclasses, hone⟩ := Steps.exists_of_any hscope
  obtain ⟨s, hs, -, hspared, hresolves⟩ := names_apart (.new 0) hr u hu
  obtain rfl : s = s' := Except.ok.inj (hs.made.symm.trans hs')
  exact ⟨.new 0, r, hr, u, hu, s, hs, hpackages, hclasses, hspared.1 hone, hresolves hone⟩

/-- A class that is called like the package of another unit hides it, and nothing is reported. -/
theorem not_names_apart_orders : ∃ r, (runPass {} (salesOrders true) { capacity := 0 }).1 = .ok r ∧
    r.diagnostics = [] ∧ ∃ u ∈ r.units, ∃ s,
      ScopeOf {} (some (salesOrders true)) (plansOf r.plans u.ns) u s ∧ ¬ s.Unambiguous ∧
      ∃ q ∈ s.routines, ∃ module ∈ q.body.flatMap (·.modules),
        s.resolve q (firstPart module) = some (.cls "sales.order") := by
  let scope (u : GeneratedUnit) (r : PassResult) :=
    (unitScope {} (some (salesOrders true)) u.ns (plansOf r.plans u.ns)).toOption
  obtain ⟨r, hr, hdiagnostics, u, hu, hscope⟩ :
      ∃ r, (runPass {} (salesOrders true) { capacity := 0 }).1 = .ok r ∧ r.diagnostics = [] ∧
        ∃ u ∈ r.units, ((scope u r).any fun s => decide (¬ s.Unambiguous ∧
          ∃ q ∈ s.routines, ∃ module ∈ q.body.flatMap (·.modules),
            s.resolve q (firstPart module) = some (.cls "sales.order"))) = true :=
    Steps.exists_of_any (by decide +kernel)
  obtain ⟨s', hs', hcapture⟩ := Steps.exists_of_any hscope
  obtain ⟨s, hs⟩ := exists_scopeOf (units_eq (.new 0) hr) hu
  obtain rfl : s = s' := Except.ok.inj (hs.made.symm.trans hs')
  exact ⟨r, hr, hdiagnostics, u, hu, s, hs, hcapture⟩

end Generation

end Mapsmith
