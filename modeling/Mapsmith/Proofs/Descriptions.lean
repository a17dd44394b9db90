import Mapsmith.Program.Description
import Mapsmith.Proofs.Shapes
import Mathlib.Data.List.Nodup

/-!
# Descriptions of classes

Fields of dataclasses and models have different names, so have the members of plain classes, and a
property has no member of its name beside it. Two members of one class have one name only if it is a
named tuple that lists a field twice (`Mapsmith.Program.Describing.Described.nodup`). Even then they
agree on how they are written: whether the constructor takes them, under which keyword, and whether
they can be assigned. The types of members are references of shapes, so every collection among them
has an element type and a container.
-/

namespace Mapsmith

/-- Do members of one name agree on how they are written? -/
def Agree (ms : List Member) : Prop :=
  ∀ a ∈ ms, ∀ b ∈ ms, a.name = b.name →
    a.init = b.init ∧ a.keyword = b.keyword ∧ a.settable = b.settable

/-- Has a type, if it is a collection, an element type and a container, and so on for its elements? -/
inductive TypeRef.Complete : TypeRef → Prop
  /-- A type that is no collection. -/
  | single {name kind args container nullable} (h : kind ≠ .collection) :
    Complete (.mk name kind args container nullable)
  /-- A collection. -/
  | collection {name element args container nullable} (h : Complete element) :
    Complete (.mk name .collection (element :: args) (some container) nullable)

theorem TypeRef.Complete.orMissing {t : TypeRef} (h : t.Complete) : t.orMissing.Complete := by
  cases h with
  | single h => exact .single h
  | collection h => exact .collection h

/-- Are members in order: do those of one name agree, and is every type complete? -/
structure Orderly (ms : List Member) : Prop where
  agree : Agree ms
  complete : ∀ m ∈ ms, m.type.Complete

namespace Program

/-- The reference of a shape is complete. -/
theorem Shape.complete_ref : ∀ s : Shape, s.ref.Complete
  | scalar _ | parameter _ | verbatim _ | enum _ | object .. => .single nofun
  | collection _ element => .collection (complete_ref element)
  | nullable inner => (complete_ref inner).orMissing

/-! ### Outcomes of parts of a run -/

section Outcomes

variable {σ α β : Type} {I : σ → Prop} {P Q : α → Prop}

/-- Does a part of a run keep an invariant of what it changes, and does what it comes to have a
property, unless it fails? -/
def Keeps (I : σ → Prop) (P : α → Prop) (x : ExceptT Fault (StateM σ) α) : Prop :=
  ∀ s, I s → ∀ a, (x.run.run s).1 = .ok a → P a ∧ I (x.run.run s).2

theorem keeps_pure {a : α} (h : P a) : Keeps I P (pure a) := by
  rintro s hs b ⟨⟩
  exact ⟨h, hs⟩

theorem keeps_throw (e : Fault) : Keeps I P (throw e) :=
  fun _ _ _ h => by cases h

theorem keeps_get : Keeps I I get := by
  rintro s hs b ⟨⟩
  exact ⟨hs, hs⟩

theorem keeps_modify {f : σ → σ} (h : ∀ s, I s → I (f s)) :
    Keeps I (fun _ => True) (modify f : ExceptT Fault (StateM σ) PUnit) := by
  rintro s hs b -
  exact ⟨trivial, h s hs⟩

theorem run_bind (x : ExceptT Fault (StateM σ) α) (f : α → ExceptT Fault (StateM σ) β) (s : σ) :
    (x >>= f).run.run s = match x.run.run s with
      | (.ok a, s') => (f a).run.run s'
      | (.error e, s') => (.error e, s') := by
  rw [ExceptT.run_bind, StateT.run_bind]
  show (match x.run.run s with | (r, s') => _) = _
  rcases x.run.run s with ⟨e | a, s'⟩
  · rfl
  · rfl

/-- Parts that succeed together succeed one after the other. -/
theorem run_bind_eq_ok {x : ExceptT Fault (StateM σ) α} {f : α → ExceptT Fault (StateM σ) β} {s : σ}
    {b : β} (h : ((x >>= f).run.run s).1 = .ok b) :
    ∃ a, (x.run.run s).1 = .ok a ∧ (x >>= f).run.run s = (f a).run.run (x.run.run s).2 := by
  rcases hx : x.run.run s with ⟨e | a, s'⟩
  · rw [run_bind, hx] at h
    cases h
  · rw [run_bind, hx]
    exact ⟨a, rfl, rfl⟩

theorem Keeps.bind {R : β → Prop} {x : ExceptT Fault (StateM σ) α}
    {f : α → ExceptT Fault (StateM σ) β} (hx : Keeps I P x) (hf : ∀ a, P a → Keeps I R (f a)) :
    Keeps I R (x >>= f) := by
  intro s hs b hb
  obtain ⟨a, ha, hrun⟩ := run_bind_eq_ok hb
  obtain ⟨hP, hI⟩ := hx s hs a ha
  rw [hrun] at hb ⊢
  exact hf a hP _ hI b hb

theorem Keeps.imp {x : ExceptT Fault (StateM σ) α} (hx : Keeps I P x) (h : ∀ a, P a → Q a) :
    Keeps I Q x :=
  fun s hs a ha => (hx s hs a ha).imp_left (h a)

theorem keeps_mapM {R : α → β → Prop} {f : α → ExceptT Fault (StateM σ) β}
    (h : ∀ a, Keeps I (R a) (f a)) (xs : List α) :
    Keeps I (List.Forall₂ R xs) (xs.mapM f) := by
  induction xs with
  | nil => exact keeps_pure .nil
  | cons x xs ih =>
    rw [List.mapM_cons]
    exact (h x).bind fun y hy => ih.bind fun ys hys => keeps_pure (.cons hy hys)

/-- A part of a run about which nothing is asked. -/
theorem keeps_true (x : ExceptT Fault (StateM σ) α) : Keeps (fun _ => True) (fun _ => True) x :=
  fun _ _ _ _ => ⟨trivial, trivial⟩

theorem keeps_throw_bind (e : Fault) (f : β → ExceptT Fault (StateM σ) α) :
    Keeps I P (throw e >>= f) := by
  have hthrow : Keeps I (fun _ : β => False) (throw e) := keeps_throw e
  exact hthrow.bind fun _ h => h.elim

end Outcomes

/-- Does what a part of a run comes to have a property, unless it fails? -/
abbrev Gives {α : Type} (P : α → Prop) (x : Run α) : Prop :=
  Keeps (fun _ => True) P x

/-- Does what a part of reading comes to, which begins with what the program holds, have a property?
-/
def GivesAt {α : Type} (m : Memory) (P : α → Prop) (x : Run α) : Prop :=
  ∀ a, (x.run.run m).1 = .ok a → P a

theorem givesAt_get_bind {β : Type} {P : β → Prop} {m : Memory} {f : Memory → Run β}
    (h : GivesAt m P (f m)) : GivesAt m P (get >>= f) :=
  h

/-- Is the type of a member the reference of its shape, and does that tell enums from other classes?
-/
structure DescribedMember.Sound (d : DescribedMember) : Prop where
  type_eq : d.member.type = d.shape.ref
  apt : d.shape.Apt

theorem DescribedMember.Sound.complete {d : DescribedMember} (h : d.Sound) : d.member.type.Complete :=
  h.type_eq ▸ d.shape.complete_ref

namespace Describing

variable {packages : List String} {c : ClassId} {hints : List (String × Object)}

/-! ### Members -/

/-- Is a member one of a name and a shape, as it is written unless the kind of its class tells
otherwise? -/
structure Fresh (name : String) (shape : Shape) (m : Member) : Prop where
  name_eq : m.name = name
  initName_eq : m.initName = name
  init : m.init = true
  settable : m.settable = true
  type_eq : m.type = shape.ref

/-- A member is described anew, and written as the kind of its class tells. -/
theorem gives_member (name : String) (type : Object) (elsewhere : List Directive.Marker)
    (metadata : Value) (access : Member → Member) :
    Gives (fun d => d.shape.Apt ∧ ∃ m, Fresh name d.shape m ∧ d.member = access m)
      (member packages c name type elsewhere metadata access) := by
  unfold member
  refine (keeps_true _).bind fun m _ => ?_
  split
  next shape hshape =>
    simp only [pure_bind]
    split
    · exact keeps_throw_bind _ _
    · exact keeps_pure ⟨Surroundings.apt_shape hshape, _, ⟨rfl, rfl, rfl, rfl, rfl⟩, rfl⟩
  · simp only
    split
    · exact keeps_throw_bind _ _
    · exact keeps_throw_bind _ _

/-- Is a member one of a name, with the type of its shape? -/
def Named (name : String) (d : DescribedMember) : Prop :=
  d.member.name = name ∧ d.Sound

theorem gives_named {name : String} {type : Object} {elsewhere : List Directive.Marker}
    {metadata : Value} {access : Member → Member} (hname : ∀ m, (access m).name = m.name)
    (htype : ∀ m, (access m).type = m.type) :
    Gives (Named name) (member packages c name type elsewhere metadata access) := by
  refine Keeps.imp (gives_member _ _ _ _ _) ?_
  rintro d ⟨hapt, m, hm, hd⟩
  refine ⟨?_, ?_, hapt⟩
  · rw [hd, hname, hm.name_eq]
  · rw [hd, htype, hm.type_eq]

/-- Have all members of a list different names, and the types of their shapes? -/
structure Distinct (ds : List DescribedMember) : Prop where
  nodup : (ds.map (·.member.name)).Nodup
  sound : ∀ d ∈ ds, d.Sound

theorem distinct_of_forall₂ {names : List String} {ds : List DescribedMember} (hnames : names.Nodup)
    (h : List.Forall₂ Named names ds) : Distinct ds := by
  have heq : ds.map (·.member.name) = names := by
    refine List.forall₂_eq_eq_eq ▸ ?_
    rw [List.forall₂_map_left_iff]
    exact h.flip.imp fun _ _ hd => hd.1
  refine ⟨heq ▸ hnames, fun d hd => ?_⟩
  obtain ⟨x, -, hx⟩ := Steps.exists_of_mem_right h hd
  exact hx.2

/-- Entries that have different names give members that do. -/
theorem distinct_of_entries {α : Type} {xs : List (String × α)} {ds : List DescribedMember}
    (hxs : (xs.map (·.1)).Nodup) (h : List.Forall₂ (fun x d => Named x.1 d) xs ds) : Distinct ds :=
  distinct_of_forall₂ hxs (List.forall₂_map_left_iff.2 h)

theorem gives_dataclassMembers (shape : DataclassShape) :
    Gives Distinct (dataclassMembers packages c hints shape) := by
  unfold dataclassMembers
  refine Keeps.imp (keeps_mapM ?_ _) fun ds =>
    distinct_of_entries (shape.nodup.sublist (List.filter_sublist.map _))
  rintro ⟨name, f⟩
  exact gives_named (fun _ => rfl) fun _ => rfl

theorem gives_modelMembers (shape : ModelShape) :
    Gives Distinct (modelMembers packages c hints shape) := by
  unfold modelMembers
  refine Keeps.imp (keeps_mapM ?_ _) fun ds => distinct_of_entries shape.nodup
  rintro ⟨name, f⟩
  exact gives_named (fun _ => rfl) fun _ => rfl

/-- The names of a plain class are those of its annotations and what else its constructor takes. -/
theorem gives_plainMembers (hhints : (hints.map (·.1)).Nodup) :
    Gives Distinct (plainMembers packages c hints) := by
  have hmade : ∀ (taken : List (String × Parameter Object)) (types : List (String × Object)),
      (taken.map (·.1)).Nodup → ∀ annotated : List String, annotated.Nodup →
      Gives Distinct ((annotated ++ (taken.map (·.1)).filter (· ∉ annotated)).mapM fun name =>
        member packages c name (typeOf types name) [] .null fun m =>
          { m with init := (taken.lookup name).isSome
                   required := (taken.lookup name).any fun p => !p.hasDefault }) := by
    intro taken types htaken annotated hannotated
    have hnames : (annotated ++ (taken.map (·.1)).filter (· ∉ annotated)).Nodup := by
      refine List.nodup_append.2 ⟨hannotated, htaken.filter _, ?_⟩
      rintro a ha b hb rfl
      exact of_decide_eq_true (List.mem_filter.1 hb).2 ha
    refine Keeps.imp (keeps_mapM ?_ _) fun ds => distinct_of_forall₂ hnames
    intro name
    exact gives_named (fun _ => rfl) fun _ => rfl
  have hdict : ∀ changes : List (String × Parameter Object),
      ((setEntries [] changes).map (·.1)).Nodup :=
    fun _ => nodup_setEntries List.nodup_nil
  unfold plainMembers
  refine (keeps_true _).bind fun m _ => ?_
  split
  · simp only [pure_bind]
    split
    · exact (keeps_true _).bind fun ownHints _ =>
        hmade _ _ (hdict _) _ (hhints.sublist (List.filter_sublist.map _))
    · exact hmade _ _ (hdict _) _ (hhints.sublist (List.filter_sublist.map _))
  · exact keeps_throw_bind _ _

theorem gives_propertyMembers : Gives Distinct (propertyMembers packages c) := by
  unfold propertyMembers
  refine (keeps_true _).bind fun m _ => ?_
  refine Keeps.imp (keeps_mapM ?_ _) fun ds => distinct_of_entries (nodup_setEntries List.nodup_nil)
  rintro ⟨name, getter, hasSetter⟩
  exact (keeps_true _).bind fun type _ => gives_named (fun _ => rfl) fun _ => rfl

/-! ### Members of named tuples -/

/-- Is a member fixed at construction, and one of a text? -/
structure Fixed (o : Object) (d : DescribedMember) : Prop where
  text_eq : o.text? = some d.member.name
  initName : d.member.initName = d.member.name
  init : d.member.init = true
  settable : d.member.settable = false
  sound : d.Sound

theorem gives_noMember {α : Type} {P : α → Prop} (o : Object) (name : String) :
    Gives P (Run.noMember o name) :=
  (keeps_true get).bind fun _ _ => keeps_throw _

theorem gives_tupleMember (defaults? : Option Object) (o : Object) :
    Gives (Fixed o) (tupleMember packages c hints defaults? o) := by
  have hmade : ∀ (isOptional : Bool) (name : String), o.text? = some name → Gives (Fixed o)
      (member packages c name (typeOf hints name) [] .null fun m =>
        { m with settable := false, required := !isOptional }) := by
    intro isOptional name htext
    refine Keeps.imp (gives_member _ _ _ _ _) ?_
    rintro d ⟨hapt, m, hm, hd⟩
    refine ⟨?_, ?_, ?_, ?_, ?_, hapt⟩
    · rw [htext, hd, hm.name_eq]
    · rw [hd, hm.initName_eq, hm.name_eq]
    · rw [hd, hm.init]
    · rw [hd]
    · rw [hd, hm.type_eq]
  unfold tupleMember
  refine (keeps_true _).bind fun _ _ => ?_
  simp only [pure_bind]
  split
  · refine (keeps_true _).bind fun isOptional _ => ?_
    split
    next name htext => exact hmade isOptional name htext
    · exact gives_noMember o _
  · split
    next name htext => exact hmade false name htext
    · exact gives_noMember o _

/-- **Does a class list a field twice**, as a tuple with named members and as the program holds it? -/
def ListsTwice (m : Memory) (c : ClassId) : Prop :=
  m.isNamedTuple c = true ∧
    ∃ os, ((tupleFields c).run.run m).1 = .ok os ∧ ¬ (os.map Object.text?).Nodup

/-- What holds of the members that a class has by its shape, as the program holds it. -/
structure Data (m : Memory) (c : ClassId) (ds : List DescribedMember) : Prop where
  /-- Those of one name agree, and types are complete. -/
  orderly : Orderly (ds.map (·.member))
  /-- Types are those of shapes. -/
  sound : ∀ d ∈ ds, d.Sound
  /-- Names are different, unless a tuple lists one twice. -/
  nodup : (ds.map (·.member.name)).Nodup ∨ ListsTwice m c

theorem orderly_of_distinct {ds : List DescribedMember} (h : Distinct ds) :
    Orderly (ds.map (·.member)) := by
  have hnames : ((ds.map (·.member)).map (·.name)).Nodup := by
    rw [List.map_map]
    exact h.nodup
  refine ⟨?_, List.forall_mem_map.2 fun d hd => (h.sound d hd).complete⟩
  intro a ha b hb hab
  obtain rfl := List.inj_on_of_nodup_map hnames ha hb hab
  exact ⟨rfl, rfl, rfl⟩

theorem data_of_distinct {m : Memory} {ds : List DescribedMember} (h : Distinct ds) : Data m c ds :=
  ⟨orderly_of_distinct h, h.sound, .inl h.nodup⟩

/-- Members that are fixed at construction agree, whatever their names. -/
theorem orderly_of_fixed {os : List Object} {ds : List DescribedMember}
    (h : List.Forall₂ Fixed os ds) : Orderly (ds.map (·.member)) := by
  have hall : ∀ d ∈ ds, ∃ o, Fixed o d := fun d hd =>
    (Steps.exists_of_mem_right h hd).imp fun _ ho => ho.2
  refine ⟨?_, List.forall_mem_map.2 fun d hd => (hall d hd).elim fun _ ho => ho.sound.complete⟩
  intro a ha b hb hab
  obtain ⟨d, hd, rfl⟩ := List.mem_map.1 ha
  obtain ⟨e, he, rfl⟩ := List.mem_map.1 hb
  obtain ⟨o, ho⟩ := hall d hd
  obtain ⟨o', ho'⟩ := hall e he
  refine ⟨?_, ?_, ?_⟩
  · rw [ho.init, ho'.init]
  · simp only [Member.keyword, ho.initName, ho'.initName, hab]
  · rw [ho.settable, ho'.settable]

/-- The members of a named tuple are those that it lists. -/
theorem data_tupleMembers {m : Memory} (htuple : m.isNamedTuple c = true) :
    GivesAt m (Data m c) (tupleMembers packages c hints) := by
  unfold tupleMembers
  refine givesAt_get_bind fun ds hds => ?_
  obtain ⟨os, hos, hrun⟩ := run_bind_eq_ok hds
  rw [hrun] at hds
  have hfixed : List.Forall₂ Fixed os ds :=
    (keeps_mapM (gives_tupleMember _) os _ trivial ds hds).1
  refine ⟨orderly_of_fixed hfixed, fun d hd => ?_, or_iff_not_imp_right.2 fun hlists => ?_⟩
  · obtain ⟨o, -, ho⟩ := Steps.exists_of_mem_right hfixed hd
    exact ho.sound
  · have hnames : os.map Object.text? = (ds.map (·.member.name)).map some := by
      refine List.forall₂_eq_eq_eq ▸ ?_
      rw [List.map_map, List.forall₂_map_left_iff, List.forall₂_map_right_iff]
      exact hfixed.imp fun _ _ h => h.text_eq
    have hnodup : (os.map Object.text?).Nodup := by
      by_contra hnot
      exact hlists ⟨htuple, os, hos, hnot⟩
    rw [hnames] at hnodup
    exact hnodup.of_map

/-- The members that a class has by its shape. -/
theorem data_byShape (hhints : (hints.map (·.1)).Nodup) (m : Memory) : GivesAt m (Data m c)
    (match m.dataclass? c, m.model? c with
      | some shape, _ => dataclassMembers packages c hints shape
      | none, some shape => match heldFields? m c with
        | some (.constant (.dict [])) => return []
        | some o => Run.noMember o "items"
        | none => modelMembers packages c hints shape
      | none, none =>
        if m.isNamedTuple c then tupleMembers packages c hints
        else plainMembers packages c hints) := by
  have hdistinct : ∀ x : Run (List DescribedMember), Gives Distinct x → GivesAt m (Data m c) x :=
    fun x hx ds hds => data_of_distinct (hx m trivial ds hds).1
  split
  · exact hdistinct _ (gives_dataclassMembers _)
  · split
    · exact hdistinct _ (keeps_pure ⟨List.nodup_nil, fun _ h => absurd h List.not_mem_nil⟩)
    · exact hdistinct _ (gives_noMember _ _)
    · exact hdistinct _ (gives_modelMembers _)
  · split
    next htuple => exact data_tupleMembers htuple
    · exact hdistinct _ (gives_plainMembers hhints)

/-- **The members that a class has by its fields, names and constructor are in order.** -/
theorem data_dataMembers (hhints : (hints.map (·.1)).Nodup) (m : Memory) :
    GivesAt m (Data m c) (dataMembers packages c hints) := by
  unfold dataMembers
  refine givesAt_get_bind ?_
  simp only
  split
  · intro ds hds
    obtain ⟨_, hthrow, -⟩ := run_bind_eq_ok hds
    have hnever : Gives (fun _ : PUnit => False) (Run.noMember (.cls c) "frozen") := gives_noMember _ _
    exact (hnever m trivial _ hthrow).1.elim
  · exact data_byShape hhints m

/-- Members and properties that they do not hide. -/
theorem orderly_visible {data properties : List DescribedMember}
    (hdata : Orderly (data.map (·.member))) (hproperties : Distinct properties) :
    Orderly (visible data properties) := by
  have hown := orderly_of_distinct hproperties
  refine ⟨fun a ha b hb hab => ?_, fun m hm => ?_⟩
  · simp only [visible, List.mem_append, List.mem_filter, decide_eq_true_eq] at ha hb
    rcases ha with ha | ⟨ha, hhidden⟩ <;> rcases hb with hb | ⟨hb, hhidden'⟩
    · exact hdata.agree a ha b hb hab
    · exact absurd (hab ▸ List.mem_map_of_mem ha) hhidden'
    · exact absurd (hab ▸ List.mem_map_of_mem hb) hhidden
    · exact hown.agree a ha b hb hab
  · rcases List.mem_append.1 hm with hm | hm
    · exact hdata.complete m hm
    · exact hown.complete m (List.mem_filter.1 hm).1

/-- A property that is visible shares its name with no other member. -/
theorem nodup_visible {data properties : List DescribedMember}
    (hdata : (data.map (·.member.name)).Nodup) (hproperties : Distinct properties) :
    ((visible data properties).map (·.name)).Nodup := by
  have hown : ((properties.map (·.member)).map (·.name)).Nodup := by
    rw [List.map_map]
    exact hproperties.nodup
  rw [visible, List.map_append, List.map_map]
  refine List.nodup_append.2 ⟨hdata, hown.sublist (List.filter_sublist.map _), ?_⟩
  rintro a ha b hb rfl
  obtain ⟨p, hp, rfl⟩ := List.mem_map.1 hb
  exact of_decide_eq_true (List.mem_filter.1 hp).2 ha

/-! ### Descriptions -/

/-- **What holds of the description of a class** whose members are read while the program holds `m`.
-/
structure Described (m : Memory) (c : ClassId) (d : Description) : Prop where
  id_eq : d.id = c
  members_eq : d.type.members = visible d.data d.properties
  data : Data m c d.data
  properties : Distinct d.properties

theorem described_describeObject (hhints : (hints.map (·.1)).Nodup) (kind : TypeKind) (m : Memory) :
    GivesAt m (Described m c) (describeObject packages c kind hints) := by
  intro d hd
  unfold describeObject at hd
  obtain ⟨data, hdata, hrun⟩ := run_bind_eq_ok hd
  have hrest : Gives (fun d => Described m c d) (do
      checkModules (← get) c
      let properties ← propertyMembers packages c
      let m ← get
      let genericParameters ← genericParametersOf m c
      return {
        id := c
        type := { outline m c kind with members := visible data properties, genericParameters }
        data, properties
        passed := passedTo m c }) := by
    refine (keeps_true _).bind fun _ _ => (keeps_true _).bind fun _ _ => ?_
    refine gives_propertyMembers.bind fun properties hproperties => ?_
    refine (keeps_true _).bind fun m _ => (keeps_true _).bind fun parameters _ => ?_
    exact keeps_pure ⟨rfl, rfl, data_dataMembers hhints _ data hdata, hproperties⟩
  rw [hrun] at hd
  exact (hrest _ trivial d hd).1

theorem described_describeEnum (m : Memory) : Gives (Described m c) (describeEnum c) := by
  have hnone : Distinct [] := ⟨List.nodup_nil, fun _ h => absurd h List.not_mem_nil⟩
  unfold describeEnum
  refine (keeps_true _).bind fun _ _ => (keeps_true _).bind fun _ _ => ?_
  exact keeps_pure ⟨rfl, rfl, data_of_distinct hnone, hnone⟩

namespace Described

variable {m : Memory} {d : Description}

theorem orderly (h : Described m c d) : Orderly d.type.members :=
  h.members_eq ▸ orderly_visible h.data.orderly h.properties

theorem nodup (h : Described m c d) : (d.type.members.map (·.name)).Nodup ∨ ListsTwice m c :=
  h.members_eq ▸ h.data.nodup.imp_left fun hdata => nodup_visible hdata h.properties

theorem sound (h : Described m c d) : ∀ x ∈ d.data ++ d.properties, x.Sound := by
  intro x hx
  rcases List.mem_append.1 hx with hx | hx
  · exact h.data.sound x hx
  · exact h.properties.sound x hx

/-- Every member of the descriptor is described, as a member of data or a property. -/
theorem exists_member (h : Described m c d) {x : Member} (hx : x ∈ d.type.members) :
    ∃ y ∈ d.data ++ d.properties, y.member = x := by
  rw [h.members_eq, visible] at hx
  rcases List.mem_append.1 hx with hx | hx
  · obtain ⟨y, hy, rfl⟩ := List.mem_map.1 hx
    exact ⟨y, List.mem_append_left _ hy, rfl⟩
  · obtain ⟨y, hy, rfl⟩ := List.mem_map.1 (List.mem_filter.1 hx).1
    exact ⟨y, List.mem_append_right _ hy, rfl⟩

end Described

end Describing

/-! ### Types of annotated names -/

theorem run_tryCatch {α : Type} (x : Run α) (handle : Fault → Run α) (m : Memory) :
    (tryCatch x handle).run.run m = match x.run.run m with
      | (.ok a, m') => (.ok a, m')
      | (.error e, m') => (handle e).run.run m' := by
  show StateT.run (ExceptT.run (ExceptT.tryCatch x handle)) m = _
  rw [ExceptT.tryCatch, ExceptT.run_mk, StateT.run_bind]
  rcases h : x.run.run m with ⟨e | a, m'⟩
  · rw [show StateT.run x m = _ from h]
    rfl
  · rw [show StateT.run x m = _ from h]
    rfl

theorem gives_tryCatch {α : Type} {P : α → Prop} {x : Run α} {handle : Fault → Run α} (hx : Gives P x)
    (hhandle : ∀ e, Gives P (handle e)) : Gives P (tryCatch x handle) := by
  intro m _ a ha
  rw [run_tryCatch] at ha
  split at ha
  next b m' hb =>
    cases ha
    exact ⟨(hx m trivial _ (congrArg Prod.fst hb)).1, trivial⟩
  next e m' _ => exact ⟨(hhandle e m' trivial a ha).1, trivial⟩

/-- Every annotated name of a class has one type. -/
theorem gives_classHintsOrRaw (ev : Evaluator) (c : ClassId) :
    Gives (fun found => (found.1.map (·.1)).Nodup) (Run.classHintsOrRaw ev c) := by
  have hdict : ∀ changes : List (String × Object), ((setEntries [] changes).map (·.1)).Nodup :=
    fun _ => nodup_setEntries List.nodup_nil
  have hhints : Gives (fun hints => (hints.map (·.1)).Nodup) (Run.classHints ev c) := by
    unfold Run.classHints
    exact (keeps_true _).bind fun _ _ => (keeps_true _).bind fun hints _ => keeps_pure (hdict _)
  have hraw : ∀ m, Gives (fun hints => (hints.map (·.1)).Nodup) (Run.rawHints m c) := by
    intro m
    unfold Run.rawHints
    exact (keeps_true _).bind fun hints _ => keeps_pure (hdict _)
  unfold Run.classHintsOrRaw
  refine gives_tryCatch (hhints.bind fun hints h => keeps_pure h) fun e => ?_
  split
  · exact (keeps_true _).bind fun m _ => (hraw m).bind fun hints h => keeps_pure h
  · exact keeps_throw _

end Program

end Mapsmith
