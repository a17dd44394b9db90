import Mapsmith.Proofs.ReadTypes

/-!
# Graphs that are read from programs

Reading starts with chosen classes and takes one step for each class that it finds. A step describes
a class and finds those that it brings in, so whatever is described or found has a reason, and in
the end every class that is found is described (`Mapsmith.Program.Read.Explored`). A class is found
by its name, and its descriptor bears the name that it has later on: a graph is closed under what
its members name if classes have names of their own, and keep them while the program is read
(`Mapsmith.Program.Read.wellFormed`).
-/

namespace Mapsmith.Program

namespace Read

variable {r r' start : Reader} {c : ClassRef} {m : Memory} {d : Description}
  {roots found more : List ClassRef} {described : List Description} {g : TypeGraph}

/-! ### Finding classes -/

theorem prefix_withFound : found <+: withFound found more := by
  induction more generalizing found with
  | nil => exact List.prefix_refl _
  | cons c more ih =>
    rw [withFound, List.foldl_cons]
    split
    · exact ih
    · exact (List.prefix_append _ _).trans ih

theorem mem_of_mem_withFound (h : c ∈ withFound found more) : c ∈ found ∨ c ∈ more := by
  induction more generalizing found with
  | nil => exact .inl h
  | cons a more ih =>
    rw [withFound, List.foldl_cons] at h
    rcases ih h with h | h
    · split at h
      · exact .inl h
      · rcases List.mem_append.1 h with h | h
        · exact .inl h
        · exact .inr (List.mem_singleton.1 h ▸ List.mem_cons_self)
    · exact .inr (List.mem_cons_of_mem _ h)

/-- A class that is brought in has its name found. -/
theorem exists_withFound (h : c ∈ more) : ∃ c' ∈ withFound found more, c'.name = c.name := by
  induction more generalizing found with
  | nil => cases h
  | cons a more ih =>
    rw [withFound, List.foldl_cons]
    rcases List.mem_cons.1 h with rfl | h
    · split
      next hany =>
        obtain ⟨c', hc', hname⟩ := List.any_eq_true.1 hany
        exact ⟨c', prefix_withFound.subset hc', of_decide_eq_true hname⟩
      · exact ⟨c, prefix_withFound.subset (List.mem_append_right _ (List.mem_singleton_self c)), rfl⟩
    · exact ih h

/-! ### What reading has come to -/

/-- **What reading has come to**: descriptions are those of the first classes that are found, every
class that is chosen or brought in by a description is found by its name, and no other class is. -/
structure Explored (roots found : List ClassRef) (described : List Description) : Prop where
  ids : described.map (·.id) <+: found.map (·.id)
  rooted : ∀ c ∈ roots, ∃ c' ∈ found, c'.name = c.name
  brought : ∀ d ∈ described, ∀ c ∈ d.mentions, ∃ c' ∈ found, c'.name = c.name
  origin : ∀ c ∈ found, c ∈ roots ∨ ∃ d ∈ described, c ∈ d.mentions

theorem explored_start : Explored roots (withFound [] roots) [] where
  ids := List.nil_prefix
  rooted _ := exists_withFound
  brought _ hd := absurd hd List.not_mem_nil
  origin _ hc := .inl ((mem_of_mem_withFound hc).resolve_left List.not_mem_nil)

/-- **A step keeps what reading has come to in order.** -/
theorem Explored.step (h : Explored roots r.found r.described) (hof : StepOf r c m d r') :
    Explored roots r'.found r'.described := by
  have hkept : ∀ {name : String}, (∃ c' ∈ r.found, c'.name = name) →
      ∃ c' ∈ withFound r.found d.mentions, c'.name = name :=
    fun ⟨c', hc', hname⟩ => ⟨c', prefix_withFound.subset hc', hname⟩
  rw [hof.described_eq, hof.found_eq]
  refine ⟨?_, fun c hc => hkept (h.rooted c hc), fun e he c hc => ?_, fun c hc => ?_⟩
  · refine List.IsPrefix.trans ?_ (prefix_withFound.map _)
    obtain ⟨rest, hrest⟩ := h.ids
    have hnext : (r.found.map (·.id))[r.described.length]? = some c.id := by
      rw [List.getElem?_map, hof.next, Option.map_some]
    rw [← hrest, List.getElem?_append_right (Nat.le_of_eq (List.length_map _)), List.length_map,
      Nat.sub_self] at hnext
    cases rest with
    | nil => cases hnext
    | cons a rest =>
      refine ⟨rest, ?_⟩
      rw [List.map_append, List.map_singleton, hof.described.id_eq, ← Option.some.inj hnext, ← hrest,
        List.append_assoc, List.singleton_append]
  · rcases List.mem_append.1 he with he | he
    · exact hkept (h.brought e he c hc)
    · rw [List.mem_singleton.1 he] at hc
      exact exists_withFound hc
  · rcases mem_of_mem_withFound hc with hc | hc
    · exact (h.origin c hc).imp_right fun ⟨e, he, hmention⟩ =>
        ⟨e, List.mem_append_left _ he, hmention⟩
    · exact .inr ⟨d, List.mem_append_right _ (List.mem_singleton_self d), hc⟩

/-- **So does every run of steps.** -/
theorem Explored.steps (hsteps : Relation.ReflTransGen Step start r)
    (h : Explored roots start.found start.described) : Explored roots r.found r.described := by
  induction hsteps with
  | refl => exact h
  | tail _ hstep ih =>
    obtain ⟨c, m, d, hof⟩ := hstep.exists
    exact ih.step hof

/-! ### What is read in the end -/

/-- **Do classes stay apart**: does every class go by one name and count as one thing, and does no
other class go by its name? -/
def Apart (cs : List ClassRef) : Prop :=
  ∀ a ∈ cs, ∀ b ∈ cs, a.id = b.id ∨ a.name = b.name →
    a.id = b.id ∧ a.name = b.name ∧ a.isEnum = b.isEnum

instance (cs : List ClassRef) : Decidable (Apart cs) :=
  inferInstanceAs (Decidable (∀ a ∈ cs, _))

/-- **Do classes keep their names**: is every class known by one name, whenever it is met? -/
def NamesKept (cs : List ClassRef) : Prop :=
  ∀ a ∈ cs, ∀ b ∈ cs, a.id = b.id → a.name = b.name

instance (cs : List ClassRef) : Decidable (NamesKept cs) :=
  inferInstanceAs (Decidable (∀ a ∈ cs, _))

/-- The classes that reading has met, as they were when they were found, mentioned or described. -/
def met (r : Reader) : List ClassRef :=
  r.found ++ r.described.flatMap fun d => d.ref :: d.mentions

theorem mem_met_of_mem_found (hc : c ∈ r.found) : c ∈ met r :=
  List.mem_append_left _ hc

theorem ref_mem_met (hd : d ∈ r.described) : d.ref ∈ met r :=
  List.mem_append_right _ (List.mem_flatMap.2 ⟨d, hd, List.mem_cons_self⟩)

theorem mem_met_of_mem_mentions (hd : d ∈ r.described) (hc : c ∈ d.mentions) : c ∈ met r :=
  List.mem_append_right _ (List.mem_flatMap.2 ⟨d, hd, List.mem_cons_of_mem _ hc⟩)

section Complete

variable (h : Explored roots r.found r.described) (hcomplete : r.found.length ≤ r.described.length)
include h hcomplete

/-- In the end, descriptions are those of the classes that are found. -/
theorem Explored.ids_eq : r.described.map (·.id) = r.found.map (·.id) :=
  h.ids.eq_of_length_le (by rwa [List.length_map, List.length_map])

/-- **In the end, every class that is found is described.** -/
theorem Explored.exists_of_found (hc : c ∈ r.found) : ∃ d ∈ r.described, d.ref.id = c.id := by
  have hid : c.id ∈ r.described.map (·.id) := by
    rw [h.ids_eq hcomplete]
    exact List.mem_map_of_mem hc
  exact List.mem_map.1 hid

/-- A class that a description brings in is described under its name, if classes keep their names. -/
theorem Explored.exists_named (hkept : NamesKept (met r)) (hd : d ∈ r.described)
    (hc : c ∈ d.mentions) : ∃ e ∈ r.described, e.ref.name = c.name := by
  obtain ⟨c', hc', hname⟩ := h.brought d hd c hc
  obtain ⟨e, he, hid⟩ := h.exists_of_found hcomplete hc'
  exact ⟨e, he, (hkept _ (ref_mem_met he) _ (mem_met_of_mem_found hc') hid).trans hname⟩

variable (hapart : Apart (met r))
include hapart

/-- Where classes stay apart, a class that is found is described under its name and as what it is. -/
theorem Explored.exists_described (hc : c ∈ r.found) :
    ∃ d ∈ r.described, d.ref.name = c.name ∧ d.ref.isEnum = c.isEnum := by
  obtain ⟨d, hd, hdc⟩ := h.exists_of_found hcomplete hc
  exact ⟨d, hd, (hapart _ (ref_mem_met hd) _ (mem_met_of_mem_found hc) (.inl hdc)).2⟩

/-- So is every class that a description brings in. -/
theorem Explored.exists_described_of_mentions (hd : d ∈ r.described) (hc : c ∈ d.mentions) :
    ∃ e ∈ r.described, e.ref.name = c.name ∧ e.ref.isEnum = c.isEnum := by
  obtain ⟨c', hc', hname⟩ := h.brought d hd c hc
  obtain ⟨e, he, hename, heenum⟩ := h.exists_described hcomplete hapart hc'
  obtain ⟨-, -, henum⟩ :=
    hapart _ (mem_met_of_mem_found hc') _ (mem_met_of_mem_mentions hd hc) (.inr hname)
  exact ⟨e, he, hename.trans hname, heenum.trans henum⟩

/-- **Every class that is described is chosen, or brought in by a description.** -/
theorem Explored.origin_of_described (hd : d ∈ r.described) :
    (∃ c ∈ roots, c.name = d.ref.name) ∨ ∃ e ∈ r.described, ∃ c ∈ e.mentions, c.name = d.ref.name := by
  have hid : d.id ∈ r.found.map (·.id) := by
    rw [← h.ids_eq hcomplete]
    exact List.mem_map_of_mem hd
  obtain ⟨c, hc, hcd⟩ := List.mem_map.1 hid
  obtain ⟨-, hname, -⟩ := hapart _ (mem_met_of_mem_found hc) _ (ref_mem_met hd) (.inl hcd)
  rcases h.origin c hc with hroot | ⟨e, he, hmention⟩
  · exact .inl ⟨c, hroot, hname⟩
  · exact .inr ⟨e, he, c, hmention, hname⟩

end Complete

/-! ### Graphs -/

/-- Is something named as an enum or an object in the type of a member? -/
def Names (x : Member) (name : String) : Prop :=
  ∃ q : TypeRef, q.Part x.type ∧ (q.kind = .enum ∨ q.kind = .object) ∧ q.name = name

/-- **Does the description of a class refer to another class**: is it named in the type of a member,
or of a property that a member hides, or passed to a decorator? -/
def Refers (d : Description) (name : String) : Prop :=
  (∃ x ∈ d.data ++ d.properties, Names x.member name) ∨ ∃ c ∈ d.passed, c.name = name

/-- A class that is brought in is one that the description refers to. -/
theorem refers_of_mentions (hsound : ∀ x ∈ d.data ++ d.properties, x.Sound) (hc : c ∈ d.mentions) :
    Refers d c.name := by
  rcases List.mem_append.1 hc with hc | hc
  · obtain ⟨x, hx, hc⟩ := List.mem_flatMap.1 hc
    obtain ⟨q, hq, hname, hkind⟩ := (hsound x hx).apt.exists_part hc
    refine .inl ⟨x, hx, q, (hsound x hx).type_eq ▸ hq, ?_, hname⟩
    rw [hkind]
    split
    · exact .inl rfl
    · exact .inr rfl
  · exact .inr ⟨c, hc, rfl⟩

/-- What a member names is what its shape has classes for, and its description brings these in. -/
theorem exists_shape {id : ClassId} (h : Describing.Described m id d) {x : Member}
    (hx : x ∈ d.type.members) :
    ∃ s : Shape, s.Apt ∧ x.type = s.ref ∧ ∀ c ∈ s.classes, c ∈ d.mentions := by
  obtain ⟨y, hy, rfl⟩ := h.exists_member hx
  have hsound := h.sound y hy
  exact ⟨y.shape, hsound.apt, hsound.type_eq, fun c hc =>
    List.mem_append_left _ (List.mem_flatMap.2 ⟨y, hy, hc⟩)⟩

/-- **What is read is well formed**, given the classes to start with and the reader that has found
these and nothing else. -/
structure WellFormed (roots : List ClassRef) (start read : Reader) (g : TypeGraph) : Prop where
  /-- Its types are those of the descriptions. -/
  types_eq : g.types = read.types
  /-- An enum in the type of a member names an enum of the graph, an object names a type that is none.
  -/
  named : ∀ t ∈ g.types, ∀ x ∈ t.members, ∀ q : TypeRef, q.Part x.type →
    q.kind = .enum ∨ q.kind = .object →
      ∃ u ∈ g.types, u.qualifiedName = q.name ∧ (u.kind = .enum ↔ q.kind = .enum)
  /-- A collection in the type of a member has one element type and a container. -/
  whole : ∀ t ∈ g.types, ∀ x ∈ t.members, ∀ q : TypeRef, q.Part x.type →
    q.kind = .collection → q.IsWhole
  /-- The members of a type have different names, unless it is a tuple that lists one of them twice
  when it is read. -/
  distinct : ∀ d ∈ read.described, (d.type.members.map (·.name)).Nodup ∨
    ∃ r m, Relation.ReflTransGen Step start r ∧ LookedUp r d.id m ∧ Describing.ListsTwice m d.id
  /-- A class that is passed to a decorator of a described class is described. -/
  passed : ∀ d ∈ read.described, ∀ c ∈ d.passed, ∃ u ∈ g.types, u.qualifiedName = c.name
  /-- Every type is one to start with, or a described class refers to it. -/
  wanted : ∀ t ∈ g.types, (∃ c ∈ roots, c.name = t.qualifiedName) ∨
    ∃ d ∈ read.described, Refers d t.qualifiedName

/-- What is chosen to read a program: classes, or modules with the classes that they declare. -/
inductive Choice
  | classes (chosen : List Object)
  | modules (names : List String)

/-- The objects that are chosen. -/
def Choice.objects : Choice → Read (List Object)
  | classes chosen => return chosen
  | modules names => return (← run (names.mapM Run.classesOf)).flatten

/-- The graph of what is chosen. -/
def Choice.graph (choice : Choice) : Read TypeGraph := do
  graphOf (← choice.objects)

theorem graph_classes (chosen : List Object) : (Choice.classes chosen).graph = graphOf chosen :=
  pure_bind _ _

theorem graph_modules (names : List String) : (Choice.modules names).graph = ofModules names := by
  simp only [Choice.graph, Choice.objects, ofModules, bind_assoc, pure_bind]

/-- Choosing modules finds no classes yet. -/
theorem like_objects {choice : Choice} {chosen : List Object}
    (h : choice.objects r = (.ok chosen, r')) : Like r r' := by
  have hkeeps : Keeps (Like r) (fun _ => True) choice.objects := by
    cases choice with
    | classes chosen => exact keeps_pure trivial
    | modules names => exact (like_run (keeps_true _)).bind fun _ _ => keeps_pure trivial
  exact (keeps_eq hkeeps ⟨rfl, rfl⟩ h).2

/-- **Reading takes its course and comes to an end**: every type is described in one of the steps. -/
theorem exists_explored {memory : Memory} {choice : Choice} {read : Reader}
    (h : choice.graph { memory } = (.ok g, read)) :
    ∃ chosen r start, choice.objects { memory } = (.ok chosen, r) ∧ Course chosen r start read g ∧
      Explored (rootsOf r.memory chosen) read.found read.described ∧
      ∀ d ∈ read.described, ∃ s m, Relation.ReflTransGen Step start s ∧ LookedUp s d.id m ∧
        Describing.Described m d.id d := by
  obtain ⟨chosen, r, hchosen, hgraph⟩ := bind_eq_ok h
  obtain ⟨hfound, hdescribed⟩ := like_objects hchosen
  obtain ⟨start, hcourse⟩ := exists_course hgraph
  refine ⟨chosen, r, start, hchosen, hcourse, ?_, fun d hd => ?_⟩
  · refine Explored.steps hcourse.steps ?_
    rw [hcourse.found_eq, hcourse.described_eq, hfound, hdescribed]
    exact explored_start
  · refine (exists_stepOf hcourse.steps hd).resolve_left fun hstart => ?_
    rw [hcourse.described_eq, hdescribed] at hstart
    cases hstart

/-- **A graph is closed under what its members name**, if classes keep their names while the program is
read. -/
theorem has_of_part {memory : Memory} {choice : Choice} {read : Reader}
    (h : choice.graph { memory } = (.ok g, read)) (hkept : NamesKept (met read)) {t : TypeDescriptor}
    (ht : t ∈ g.types) {x : Member} (hx : x ∈ t.members) {q : TypeRef} (hq : q.Part x.type)
    (hkind : q.kind = .enum ∨ q.kind = .object) : g.has q.name = true := by
  obtain ⟨chosen, r, start, -, hcourse, hexplored, hdescription⟩ := exists_explored h
  rw [hcourse.types_eq] at ht
  obtain ⟨d, hd, rfl⟩ := List.mem_map.1 ht
  obtain ⟨_, _, -, -, hd'⟩ := hdescription d hd
  obtain ⟨s, hs, htype_eq, hclasses⟩ := exists_shape hd' hx
  obtain ⟨c, hc, hnamed⟩ := hs.exists_class (htype_eq ▸ hq) hkind
  obtain ⟨e, he, hname⟩ := hexplored.exists_named hcourse.complete hkept hd (hclasses c hc)
  rw [TypeGraph.has_iff_mem, hcourse.types_eq, hnamed.1, ← hname]
  exact List.mem_map_of_mem (List.mem_map_of_mem he)

/-- **Whatever is chosen of a program, the graph that is read is well formed**, if classes stay
apart. -/
theorem wellFormed {memory : Memory} {choice : Choice} {read : Reader}
    (h : choice.graph { memory } = (.ok g, read)) (hapart : Apart (met read)) :
    ∃ chosen r start, choice.objects { memory } = (.ok chosen, r) ∧
      chosen.forM choose r = (.ok (), start) ∧ WellFormed (rootsOf r.memory chosen) start read g := by
  obtain ⟨chosen, r, start, hchosen, hcourse, hexplored, hdescription⟩ := exists_explored h
  refine ⟨chosen, r, start, hchosen, hcourse.chosen_eq, ?_⟩
  have htype : ∀ {d}, d ∈ read.described → d.type ∈ g.types := fun hd => by
    rw [hcourse.types_eq]
    exact List.mem_map_of_mem hd
  have hof : ∀ {t}, t ∈ g.types → ∃ d ∈ read.described, d.type = t := fun ht => by
    rw [hcourse.types_eq] at ht
    exact List.mem_map.1 ht
  have hshape : ∀ {t}, t ∈ g.types → ∀ x ∈ t.members, ∃ d ∈ read.described, ∃ s : Shape,
      s.Apt ∧ x.type = s.ref ∧ ∀ c ∈ s.classes, c ∈ d.mentions := by
    intro t ht x hx
    obtain ⟨d, hd, rfl⟩ := hof ht
    obtain ⟨_, _, -, -, hd'⟩ := hdescription d hd
    exact ⟨d, hd, exists_shape hd' hx⟩
  constructor
  case types_eq => exact hcourse.types_eq
  case named =>
    intro t ht x hx q hq hkind
    obtain ⟨d, hd, s, hs, htype_eq, hclasses⟩ := hshape ht x hx
    obtain ⟨c, hc, hnamed⟩ := hs.exists_class (htype_eq ▸ hq) hkind
    obtain ⟨e, he, hname, henum⟩ :=
      hexplored.exists_described_of_mentions hcourse.complete hapart hd (hclasses c hc)
    refine ⟨e.type, htype he, hname.trans hnamed.1.symm, ?_⟩
    rw [hnamed.kind_eq_enum_iff, ← henum]
    exact beq_iff_eq.symm
  case whole =>
    intro t ht x hx q hq hkind
    obtain ⟨d, hd, s, hs, htype_eq, -⟩ := hshape ht x hx
    exact hs.isWhole (htype_eq ▸ hq) hkind
  case distinct =>
    intro d hd
    obtain ⟨s, m, hsteps, hlooked, hd'⟩ := hdescription d hd
    exact hd'.nodup.imp_right fun hlists => ⟨s, m, hsteps, hlooked, hlists⟩
  case passed =>
    intro d hd c hc
    obtain ⟨e, he, hname, -⟩ := hexplored.exists_described_of_mentions hcourse.complete hapart hd
      (List.mem_append_right _ hc)
    exact ⟨e.type, htype he, hname⟩
  case wanted =>
    intro t ht
    obtain ⟨d, hd, rfl⟩ := hof ht
    refine (hexplored.origin_of_described hcourse.complete hapart hd).imp_right ?_
    rintro ⟨e, he, c, hc, hname⟩
    obtain ⟨_, _, -, -, he'⟩ := hdescription e he
    have hrefers := refers_of_mentions he'.sound hc
    rw [hname] at hrefers
    exact ⟨e, he, hrefers⟩

/-! ### An archive -/

/-- An archive with a shelf of boxes of one kind. A box inherits the property of its owner and hides
it by a text, and a pair is a tuple that lists one field twice. -/
def archive : Memory :=
  let text : Object := .cls (.library .text)
  let made : String × Attribute := ("__init__", .function { module := 0 })
  let declared (path : String) (index : Nat) (inherited : List ClassId) : ClassObject :=
    { module := "archive", path, line := .program index :: inherited ++ [.library (.builtin "object")]
      isProtocol := some false }
  let tuple (path : String) (index : Nat) (inherited : List ClassId) (fields : List String) :
      ClassObject :=
    { declared path index (inherited ++ [.library .tuple]) with
      attributes := [("_fields", .object (.row (fields.map .text))),
        ("_field_defaults", .object (.row []))] }
  let record (path : String) (index : Nat) (fields : List (String × DataclassField))
      (nodup : (fields.map (·.1)).Nodup) : ClassObject :=
    { declared path index [] with
      annotations := fields.map fun (name, f) => (name, f.type)
      dataclass := some { fields, frozen := false, nodup } }
  { classes := [
      tuple "Row" 0 [] ["left"],
      tuple "Pair" 1 [.program 0] ["left", "left"],
      record "Owner" 2 [] List.nodup_nil,
      { declared "Owned" 3 [] with
        attributes := [made,
          ("owner", .property (some { module := 0, result := some (.cls (.program 2)) }) false)] },
      { declared "Box" 4 [.program 3] with attributes := [made], annotations := [("owner", text)] },
      record "Shelf" 5 [("kind", { type := .cls (.program 6) }),
        ("boxes", { type := .formed (.subscripted (.library (.builtin "list"))) [.cls (.program 4)] })]
        (by decide),
      { declared "Kind" 6 [] with metaclass := .enum, values := [("WOOD", .constant (.int 1))] }]
    modules := [{ name := "archive" }]
    registry := [("archive", 0)]
    typeVariables := [] }

/-- The pair and the shelf of an archive. -/
def pairAndShelf : Choice :=
  .classes [.cls (.program 1), .cls (.program 5)]

theorem eq_of_fst {result : Except Fault TypeGraph × Reader} (h : result.1 = .ok g) :
    result = (.ok g, result.2) :=
  Prod.ext h rfl

theorem wellFormed_archive : ∃ g read, pairAndShelf.graph { memory := archive } = (.ok g, read) ∧
    g.types.map (·.qualifiedName) =
      ["archive.Pair", "archive.Shelf", "archive.Kind", "archive.Box", "archive.Owner"] ∧
    Apart (met read) ∧ ∃ chosen r start, pairAndShelf.objects { memory := archive } = (.ok chosen, r) ∧
      chosen.forM choose r = (.ok (), start) ∧ WellFormed (rootsOf r.memory chosen) start read g := by
  obtain ⟨g, hg, hnames, hapart⟩ : ∃ g, (pairAndShelf.graph { memory := archive }).1 = .ok g ∧
      g.types.map (·.qualifiedName) =
        ["archive.Pair", "archive.Shelf", "archive.Kind", "archive.Box", "archive.Owner"] ∧
      Apart (met (pairAndShelf.graph { memory := archive }).2) :=
    Steps.exists_of_any (by decide +kernel)
  have hread := eq_of_fst hg
  exact ⟨g, _, hread, hnames, hapart, wellFormed hread hapart⟩

/-- A box with a label, of a class that gets another name when the type of its text is looked up. -/
def relabelled : Memory :=
  let declared (path : String) (index : Nat) (member : String) (type : Object) : ClassObject :=
    { module := "archive", path, line := [.program index, .library (.builtin "object")]
      isProtocol := some false
      annotations := [(member, type)] }
  { classes := [
      declared "Label" 0 "text" (.text "setattr(Label, '__qualname__', 'Tag') or str"),
      declared "Box" 1 "label" (.cls (.program 0))]
    modules := [{ name := "archive", names := [("Label", .cls (.program 0))] }]
    registry := [("archive", 0)]
    typeVariables := [] }

/-- The pair of an archive has two members of one name, and its owner is read for a property that no
type has. A box names its label as it was called before. -/
theorem not_tight :
    (∃ g read, pairAndShelf.graph { memory := archive } = (.ok g, read) ∧
      Apart (met read) ∧
      ¬ (∀ t ∈ g.types, (t.members.map (·.name)).Nodup) ∧
      ¬ ∀ t ∈ g.types,
        (∃ c ∈ rootsOf archive [.cls (.program 1), .cls (.program 5)], c.name = t.qualifiedName) ∨
          ∃ d ∈ read.described,
            (∃ x ∈ d.type.members, Names x t.qualifiedName) ∨
              ∃ c ∈ d.passed, c.name = t.qualifiedName) ∧
    ∃ g read, (Choice.classes [.cls (.program 1)]).graph { memory := relabelled } = (.ok g, read) ∧
      (relabelled.classes.map (·.qualifiedName)).Nodup ∧
      ¬ ∀ t ∈ g.types, ∀ x ∈ t.members, ∀ q : TypeRef, q.Part x.type → q.kind = .object →
        ∃ u ∈ g.types, u.qualifiedName = q.name := by
  constructor
  case left =>
    obtain ⟨g, hg, hapart, htwice, hunnamed⟩ :
        ∃ g, (pairAndShelf.graph { memory := archive }).1 = .ok g ∧
          Apart (met (pairAndShelf.graph { memory := archive }).2) ∧
          (∃ t ∈ g.types, ¬ (t.members.map (·.name)).Nodup) ∧
          ∃ t ∈ g.types,
            (∀ c ∈ rootsOf archive [.cls (.program 1), .cls (.program 5)],
              c.name ≠ t.qualifiedName) ∧
              ∀ d ∈ (pairAndShelf.graph { memory := archive }).2.described,
                (∀ x ∈ d.type.members, t.qualifiedName ∉ x.type.names) ∧
                  ∀ c ∈ d.passed, c.name ≠ t.qualifiedName :=
      Steps.exists_of_any (by decide +kernel)
    refine ⟨g, _, eq_of_fst hg, hapart, fun hall => ?_, fun hall => ?_⟩
    · obtain ⟨t, ht, hnot⟩ := htwice
      exact hnot (hall t ht)
    · obtain ⟨t, ht, hroots, hdescribed⟩ := hunnamed
      rcases hall t ht with ⟨c, hc, hname⟩ | ⟨d, hd, ⟨x, hx, q, hq, -, hname⟩ | ⟨c, hc, hname⟩⟩
      · exact hroots c hc hname
      · exact (hdescribed d hd).1 x hx (hname ▸ hq.name_mem)
      · exact (hdescribed d hd).2 c hc hname
  case right =>
    obtain ⟨g, hg, t, ht, x, hx, hkind, hunnamed⟩ :
        ∃ g, ((Choice.classes [.cls (.program 1)]).graph { memory := relabelled }).1 = .ok g ∧
          ∃ t ∈ g.types, ∃ x ∈ t.members,
            x.type.kind = .object ∧ ∀ u ∈ g.types, u.qualifiedName ≠ x.type.name :=
      Steps.exists_of_any (by decide +kernel)
    refine ⟨g, _, eq_of_fst hg, by decide, fun hall => ?_⟩
    obtain ⟨u, hu, hname⟩ := hall t ht x hx x.type .whole hkind
    exact hunnamed u hu hname

end Read

end Mapsmith.Program
