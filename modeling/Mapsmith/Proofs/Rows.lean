import Mapsmith.Projection
import Mapsmith.Proofs.Steps
import Mathlib.Data.List.Nodup

/-!
# Rows and objects

A projection reads an object along the paths of its fields, or a row under their columns. What it makes
of the values is the same from there on, so a row that holds under every column what is read along the
path builds what the object builds, or fails with the same conversion
(`Mapsmith.Projection.mapOne_eq_apply`).

There need not be such a row. A column is a path with its attributes joined by two low lines, and these
do not tell where one attribute ends: `a` and `b__c` make the column of `a__b` and `c`. Two fields whose
paths share a column ask one place of the row for two values, and some object has two of them
(`Mapsmith.Projection.exists_spine`). So every object has its row exactly if columns are distinct, which
distinct paths are enough for where no attribute holds the separator or ends with half of it
(`Mapsmith.Projection.path_eq_of_column_eq`).
-/

namespace Mapsmith

/-! ### Columns -/

namespace Text

/-- Can a name be told from what follows it after two low lines? It holds no two of them in a row, and
does not end with one. -/
def Separates (name : List Char) : Prop :=
  ¬ ['_', '_'] <:+: name ++ ['_']

instance (name : List Char) : Decidable (Separates name) :=
  inferInstanceAs (Decidable (¬ _))

theorem Separates.tail {c : Char} {name : List Char} (h : Separates (c :: name)) : Separates name :=
  fun hinfix => h (List.infix_cons hinfix)

/-- Does a text stand at the end of a path, or before a separator? -/
def Breaks (rest : List Char) : Prop :=
  rest = [] ∨ ∃ others, rest = '_' :: '_' :: others

/-- A name that separates ends before the first separator. -/
theorem Separates.not_breaks {name : List Char} (h : Separates name) (hne : name ≠ [])
    (rest : List Char) : ¬ Breaks (name ++ rest) := by
  rintro (hnil | ⟨others, hsplit⟩)
  · exact hne (List.append_eq_nil_iff.1 hnil).1
  · match name, hne with
    | [c], _ =>
      -- one low line is followed by another one, or by nothing
      rw [List.singleton_append, List.cons.injEq] at hsplit
      obtain ⟨rfl, -⟩ := hsplit
      exact h (List.infix_refl _)
    | c :: d :: name, _ =>
      simp only [List.cons_append, List.cons.injEq] at hsplit
      obtain ⟨rfl, rfl, -⟩ := hsplit
      exact h ⟨[], name ++ ['_'], rfl⟩

/-- Names that separate are read back from what they begin. -/
theorem Separates.append_inj {a b u v : List Char} (ha : Separates a) (hb : Separates b)
    (hu : Breaks u) (hv : Breaks v) (h : a ++ u = b ++ v) : a = b ∧ u = v := by
  induction a generalizing b with
  | nil =>
    by_cases hnil : b = []
    · subst hnil
      exact ⟨rfl, h⟩
    · exact absurd (h ▸ hu : Breaks (b ++ v)) (hb.not_breaks hnil v)
  | cons c a ih =>
    cases b with
    | nil => exact absurd (h ▸ hv : Breaks (c :: a ++ u)) (ha.not_breaks (List.cons_ne_nil _ _) u)
    | cons d b =>
      rw [List.cons_append, List.cons_append, List.cons.injEq] at h
      obtain ⟨hab, huv⟩ := ih ha.tail hb.tail h.2
      exact ⟨by rw [h.1, hab], huv⟩

/-- Names, each after a separator. -/
def joinedRest : List (List Char) → List Char
  | [] => []
  | name :: names => '_' :: '_' :: (name ++ joinedRest names)

theorem breaks_joinedRest (names : List (List Char)) : Breaks (joinedRest names) := by
  cases names with
  | nil => exact .inl rfl
  | cons name names => exact .inr ⟨_, rfl⟩

theorem intercalate_eq (name : List Char) (names : List (List Char)) :
    ['_', '_'].intercalate (name :: names) = name ++ joinedRest names := by
  induction names generalizing name with
  | nil => rw [List.intercalate_singleton, joinedRest, List.append_nil]
  | cons next names ih =>
    rw [List.intercalate_cons_cons, ih, joinedRest, List.append_assoc]
    rfl

theorem joinedRest_inj {xs ys : List (List Char)} (hx : ∀ x ∈ xs, Separates x)
    (hy : ∀ y ∈ ys, Separates y) (h : joinedRest xs = joinedRest ys) : xs = ys := by
  induction xs generalizing ys with
  | nil =>
    cases ys with
    | nil => rfl
    | cons y ys => cases h
  | cons x xs ih =>
    cases ys with
    | nil => cases h
    | cons y ys =>
      simp only [joinedRest, List.cons.injEq, true_and] at h
      obtain ⟨hx, hxs⟩ := List.forall_mem_cons.1 hx
      obtain ⟨hy, hys⟩ := List.forall_mem_cons.1 hy
      obtain ⟨rfl, hrest⟩ :=
        hx.append_inj hy (breaks_joinedRest xs) (breaks_joinedRest ys) h
      rw [ih hxs hys hrest]

/-- **Names that separate can be joined**: what they are joined to tells them. -/
theorem intercalate_inj {xs ys : List (List Char)} (hxs : xs ≠ []) (hys : ys ≠ [])
    (hx : ∀ x ∈ xs, Separates x) (hy : ∀ y ∈ ys, Separates y)
    (h : ['_', '_'].intercalate xs = ['_', '_'].intercalate ys) : xs = ys := by
  refine joinedRest_inj hx hy ?_
  obtain ⟨x, xs, rfl⟩ := List.exists_cons_of_ne_nil hxs
  obtain ⟨y, ys, rfl⟩ := List.exists_cons_of_ne_nil hys
  rw [joinedRest, joinedRest, ← intercalate_eq, ← intercalate_eq, h]

end Text

namespace Projection

variable {p : Projection} {object : Value} {row : List (String × Value)} {f g : ProjectedField}

/-- Are all attributes of a path told apart by two low lines between them? -/
def Separable (path : List String) : Prop :=
  path ≠ [] ∧ ∀ name ∈ path, Text.Separates name.toList

instance (path : List String) : Decidable (Separable path) :=
  inferInstanceAs (Decidable (_ ∧ _))

/-- **Paths that are separable have columns of their own.** -/
theorem path_eq_of_column_eq (hf : Separable f.path) (hg : Separable g.path)
    (h : f.column = g.column) : f.path = g.path := by
  have hjoin : ∀ f : ProjectedField,
      f.column.toList = ['_', '_'].intercalate (f.path.map String.toList) := fun f => by
    rw [ProjectedField.column, String.toList_intercalate]
    rfl
  have hnames : ∀ {path : List String}, Separable path →
      ∀ name ∈ path.map String.toList, Text.Separates name := by
    rintro path ⟨-, hpath⟩ name hname
    obtain ⟨text, htext, rfl⟩ := List.mem_map.1 hname
    exact hpath text htext
  have hmap : f.path.map String.toList = g.path.map String.toList := by
    refine Text.intercalate_inj ?_ ?_ (hnames hf) (hnames hg) ?_
    · simpa using hf.1
    · simpa using hg.1
    · rw [← hjoin, ← hjoin, h]
  exact List.map_injective_iff.2 (fun _ _ => String.toList_inj.1) hmap

/-! ### Rows that stand for objects -/

/-- Can everything that a projection selects be read from an object? -/
def Readable (p : Projection) (object : Value) : Prop :=
  ∀ f ∈ p.fields, ∃ raw, follow object f.path = .ok raw

/-- **Does a row stand for an object?** Under the column of every field it holds what is read along the
path of the field. -/
def RowOf (p : Projection) (object : Value) (row : List (String × Value)) : Prop :=
  ∀ f ∈ p.fields, ∃ raw, follow object f.path = .ok raw ∧ row.lookup f.column = some raw

theorem collect_congr {read read' : ProjectedField → Except ProjectionError Value}
    {fs : List ProjectedField} (h : ∀ f ∈ fs, read f = read' f) (values : List (String × Value)) :
    collect read fs values = collect read' fs values := by
  induction fs generalizing values with
  | nil => rfl
  | cons f fs ih =>
    obtain ⟨hf, hfs⟩ := List.forall_mem_cons.1 h
    rw [collect, collect, hf]
    simp only [ih hfs]

/-- A row that stands for an object lacks no column. -/
theorem missingColumns_eq (h : p.RowOf object row) : p.missingColumns (.dict row) = .ok [] := by
  have hnone : ∀ columns : List String, (∀ c ∈ columns, ∃ raw, row.lookup c = some raw) →
      columns.filterAuxM (fun c => do return !(← holdsColumn (.dict row) c)) [] =
        (.ok [] : Except ProjectionError (List String)) := by
    intro columns hcolumns
    induction columns with
    | nil => rfl
    | cons c columns ih =>
      obtain ⟨⟨raw, hraw⟩, hrest⟩ := List.forall_mem_cons.1 hcolumns
      have hheld : row.any (·.1 = c) = true := by
        obtain ⟨before, after, rfl, -⟩ := List.lookup_eq_some_iff.1 hraw
        simp
      rw [List.filterAuxM]
      simp only [holdsColumn, hheld]
      exact ih hrest
  have hcolumns : ∀ c ∈ p.columns, ∃ raw, row.lookup c = some raw := by
    intro c hc
    obtain ⟨f, hf, rfl⟩ := List.mem_map.1 hc
    obtain ⟨raw, -, hraw⟩ := h f hf
    exact ⟨raw, hraw⟩
  rw [missingColumns, List.filterM, hnone p.columns hcolumns]
  rfl

/-- **A row that stands for an object builds what the object builds.** -/
theorem mapOne_eq_apply (h : p.RowOf object row) : p.mapOne (.dict row) = p.apply object := by
  have hread : ∀ f ∈ p.fields, cell (.dict row) f.column = follow object f.path := by
    intro f hf
    obtain ⟨raw, hfollow, hraw⟩ := h f hf
    rw [cell, hraw, hfollow]
    rfl
  rw [mapOne, missingColumns_eq h, apply, select]
  simp only [collect_congr hread]
  rfl

/-- **Rows that stand for objects, one by one,** build what the objects build. -/
theorem mapMany_eq {objects : List Value} {rows : List (List (String × Value))}
    (h : List.Forall₂ p.RowOf objects rows) :
    p.mapMany (.list (rows.map .dict)) = objects.mapM p.apply := by
  have heq : (rows.map Value.dict).mapM p.mapOne = objects.mapM p.apply := by
    induction h with
    | nil => rfl
    | cons hrow _ ih => rw [List.map_cons, List.mapM_cons, List.mapM_cons, mapOne_eq_apply hrow, ih]
  rw [mapMany, rowsOf]
  exact heq

/-! ### Objects that no row stands for -/

/-- An object that has something along a path, all names as attributes on the way and at its end, and
nothing else. -/
def spine (names : List String) : List String → Value
  | [] => .dict (names.map fun name => (name, .null))
  | next :: path => .dict (names.map fun name => (name, if name = next then spine names path else .null))

theorem readAttribute_map {names : List String} {name : String} (h : name ∈ names)
    (value : String → Value) :
    readAttribute (.dict (names.map fun n => (n, value n))) name = .ok (value name) := by
  obtain ⟨n, hfind⟩ := Option.isSome_iff_exists.1
    (List.find?_isSome.2 ⟨name, List.mem_reverse.2 h, beq_self_eq_true name⟩ :
      (names.reverse.find? (· == name)).isSome = true)
  have hname : n = name := by simpa using List.find?_some hfind
  replace hfind : names.reverse.find? ((·.1 == name) ∘ fun n => (n, value n)) = some n := hfind
  rw [readAttribute, Value.get?, ← List.map_reverse, List.find?_map, hfind, hname]
  rfl

theorem follow_null (path : List String) : follow .null path = .ok .null := by
  cases path <;> rfl

/-- What is read from such an object is what is left of it, or nothing beside the path. -/
theorem follow_spine {names path along : List String} (h : ∀ name ∈ path, name ∈ names) :
    follow (spine names along) path =
      .ok (if path <+: along then spine names (along.drop path.length) else .null) := by
  induction path generalizing along with
  | nil => simp [follow]
  | cons name path ih =>
    obtain ⟨hname, hpath⟩ := List.forall_mem_cons.1 h
    cases along with
    | nil =>
      have hnot : ¬ name :: path <+: [] := by simp
      rw [spine, follow, readAttribute_map hname fun _ => .null, if_neg hnot]
      · exact follow_null path
      · exact nofun
    | cons next along =>
      rw [spine, follow, readAttribute_map hname fun n => if n = next then spine names along else .null]
      · by_cases hnext : name = next
        · simp only [hnext, if_true, List.cons_prefix_cons, true_and, List.length_cons,
            List.drop_succ_cons, ← ih hpath]
          rfl
        · have hnot : ¬ name :: path <+: next :: along := fun hprefix =>
            hnext (List.cons_prefix_cons.1 hprefix).1
          rw [if_neg hnext, if_neg hnot]
          exact follow_null path
      · exact nofun

/-- **Different paths can be told apart by an object** from which everything can be read. -/
theorem exists_spine (hf : f ∈ p.fields) (hg : g ∈ p.fields) (hne : f.path ≠ g.path) :
    ∃ object, p.Readable object ∧ follow object f.path ≠ follow object g.path := by
  have hnames : ∀ f ∈ p.fields, ∀ name ∈ f.path, name ∈ p.fields.flatMap (·.path) :=
    fun f hf name hname => List.mem_flatMap.2 ⟨f, hf, hname⟩
  have hreadable : ∀ along, p.Readable (spine (p.fields.flatMap (·.path)) along) :=
    fun along f hf => ⟨_, follow_spine (hnames f hf)⟩
  -- along a path that does not begin with another one, only the other one leads to nothing
  have hapart : ∀ f ∈ p.fields, ∀ g ∈ p.fields, ¬ g.path <+: f.path →
      follow (spine (p.fields.flatMap (·.path)) f.path) f.path ≠
        follow (spine (p.fields.flatMap (·.path)) f.path) g.path := by
    intro f hf g hg hnot heq
    rw [follow_spine (hnames f hf), follow_spine (hnames g hg), if_pos (List.prefix_refl _),
      if_neg hnot, List.drop_length, spine] at heq
    cases heq
  by_cases hprefix : g.path <+: f.path
  · have hnot : ¬ f.path <+: g.path := fun hback =>
      hne (hback.eq_of_length_le hprefix.length_le)
    exact ⟨_, hreadable g.path, (hapart g hg f hf hnot).symm⟩
  · exact ⟨_, hreadable f.path, hapart f hf g hg hprefix⟩

/-! ### Projections whose rows stand for objects -/

/-- Where columns are distinct, an object that can be read has a row that stands for it. -/
theorem exists_rowOf (hcolumns : p.columns.Nodup) (h : p.Readable object) : ∃ row, p.RowOf object row := by
  let raw (f : ProjectedField) : Value := (follow object f.path).toOption.getD .null
  have hlookup : ∀ fs : List ProjectedField, (fs.map (·.column)).Nodup → ∀ f ∈ fs,
      (fs.map fun f => (f.column, raw f)).lookup f.column = some (raw f) := by
    intro fs hnodup f hf
    induction fs with
    | nil => cases hf
    | cons g fs ih =>
      obtain ⟨hnot, hnodup⟩ := List.nodup_cons.1 hnodup
      rcases List.mem_cons.1 hf with rfl | hf
      · exact List.lookup_cons_self
      · have hne : (f.column == g.column) = false := by
          rw [beq_eq_false_iff_ne]
          exact fun heq => hnot (List.mem_map.2 ⟨f, hf, heq⟩)
        rw [List.map_cons, List.lookup_cons, hne]
        exact ih hnodup hf
  refine ⟨p.fields.map fun f => (f.column, raw f), fun f hf => ⟨raw f, ?_, hlookup p.fields hcolumns f hf⟩⟩
  obtain ⟨value, hvalue⟩ := h f hf
  simp only [raw, hvalue]
  rfl

/-- Where paths are distinct and fields of one column have one path, columns are distinct. -/
theorem nodup_columns (hpaths : (p.fields.map (·.path)).Nodup)
    (h : ∀ f ∈ p.fields, ∀ g ∈ p.fields, f.column = g.column → f.path = g.path) : p.columns.Nodup := by
  have hmap : p.columns = (p.fields.map (·.path)).map ("__".intercalate ·) := by
    rw [List.map_map]
    rfl
  rw [hmap]
  refine List.Nodup.map_on (fun a ha b hb heq => ?_) hpaths
  obtain ⟨f, hf, rfl⟩ := List.mem_map.1 ha
  obtain ⟨g, hg, rfl⟩ := List.mem_map.1 hb
  exact h f hf g hg heq

/-- **Rows and objects project alike.** A row that holds under the column of every field what an object has
at its path, among whatever else, builds the target that the object builds, with the same arguments and
the same assignments in order, or fails as the object does; and so do rows for objects, one by one. If
the paths of a projection are distinct, then every object that can be read has such a row exactly if its
columns are distinct, too; and these are if no attribute on a path holds two low lines in a row or ends
with one. -/
theorem rows_and_objects (p : Projection) (hpaths : (p.fields.map (·.path)).Nodup) :
    (∀ object row, p.RowOf object row → p.mapOne (.dict row) = p.apply object) ∧
    (∀ objects rows, List.Forall₂ p.RowOf objects rows →
      p.mapMany (.list (rows.map .dict)) = objects.mapM p.apply) ∧
    ((∀ object, p.Readable object → ∃ row, p.RowOf object row) ↔ p.columns.Nodup) ∧
    ((∀ f ∈ p.fields, Separable f.path) → p.columns.Nodup) := by
  refine ⟨fun _ _ => mapOne_eq_apply, fun _ _ => mapMany_eq, ⟨fun h => ?_, fun h _ => exists_rowOf h⟩, ?_⟩
  · refine nodup_columns hpaths fun f hf g hg hcolumn => ?_
    by_contra hne
    obtain ⟨object, hreadable, happart⟩ := exists_spine hf hg hne
    obtain ⟨row, hrow⟩ := h object hreadable
    obtain ⟨raw, hfollow, hraw⟩ := hrow f hf
    obtain ⟨raw', hfollow', hraw'⟩ := hrow g hg
    rw [hcolumn, hraw'] at hraw
    exact happart (by rw [hfollow, hfollow', Option.some.inj hraw])
  · exact fun h => nodup_columns hpaths fun f hf g hg => path_eq_of_column_eq (h f hf) (h g hg)

/-- The title and the city of a venue, the city being one that need not be known. -/
def venueFields : Projection :=
  { source := "Venue", target := "VenueRow"
    fields := [{ targetMember := "title", keyword := "title", path := ["title"] },
      { targetMember := "city", keyword := "city", path := ["city", "name"] }] }

theorem rows_and_objects_venues :
    (venueFields.fields.map (·.path)).Nodup ∧
    venueFields.mapMany (.list [
        .dict [("title", .str "Hall"), ("city__name", .null), ("seats", .int 80)],
        .dict [("city__name", .str "Oslo"), ("title", .str "Barn")]]) =
      [.dict [("title", .str "Hall"), ("city", .null)],
        .dict [("title", .str "Barn"), ("city", .dict [("name", .str "Oslo")])]].mapM venueFields.apply ∧
    venueFields.columns.Nodup := by
  have hpaths : (venueFields.fields.map (·.path)).Nodup := by decide
  obtain ⟨-, hmany, -, hseparable⟩ := rows_and_objects venueFields hpaths
  have hhall : venueFields.RowOf (.dict [("title", .str "Hall"), ("city", .null)])
      [("title", .str "Hall"), ("city__name", .null), ("seats", .int 80)] :=
    List.forall_mem_cons.2 ⟨⟨_, rfl, rfl⟩, List.forall_mem_singleton.2 ⟨_, rfl, rfl⟩⟩
  have hbarn : venueFields.RowOf (.dict [("title", .str "Barn"), ("city", .dict [("name", .str "Oslo")])])
      [("city__name", .str "Oslo"), ("title", .str "Barn")] :=
    List.forall_mem_cons.2 ⟨⟨_, rfl, rfl⟩, List.forall_mem_singleton.2 ⟨_, rfl, rfl⟩⟩
  exact ⟨hpaths, hmany _ [_, _] (.cons hhall (.cons hbarn .nil)), hseparable (by decide)⟩

/-- The name of a city that is stored with a home, and that of the city of a home. -/
def cityFields : Projection :=
  { source := "Person", target := "PersonRow"
    fields := [{ targetMember := "stored", keyword := "stored", path := ["home", "city__name"] },
      { targetMember := "looked_up", keyword := "looked_up", path := ["home__city", "name"] }] }

/-- A person in whom the two differ. -/
def mover : Value :=
  .dict [("home", .dict [("city__name", .str "Oslo")]), ("home__city", .dict [("name", .str "Rome")])]

/-- Though members, keywords and paths are distinct, and everything can be read, no row at all builds
what the object builds. -/
theorem not_rows_and_objects :
    (cityFields.fields.map (·.targetMember)).Nodup ∧ (cityFields.fields.map (·.keyword)).Nodup ∧
    (cityFields.fields.map (·.path)).Nodup ∧ cityFields.Readable mover ∧
    ∀ row, cityFields.mapOne row ≠ cityFields.apply mover := by
  refine ⟨by decide, by decide, by decide,
    List.forall_mem_cons.2 ⟨⟨_, rfl⟩, List.forall_mem_singleton.2 ⟨_, rfl⟩⟩, fun row heq => ?_⟩
  have happly : cityFields.apply mover =
      .ok { arguments := [("stored", .str "Oslo"), ("looked_up", .str "Rome")], assigned := [] } := rfl
  rw [happly, mapOne] at heq
  obtain ⟨missing, -, heq⟩ := Steps.bind_eq_ok.1 heq
  split at heq
  · obtain ⟨values, hvalues, heq⟩ := Steps.bind_eq_ok.1 heq
    obtain ⟨raw, hraw, hvalues⟩ := Steps.bind_eq_ok.1 hvalues
    obtain ⟨value, hvalue, hvalues⟩ := Steps.bind_eq_ok.1 hvalues
    obtain ⟨raw', hraw', hvalues⟩ := Steps.bind_eq_ok.1 hvalues
    obtain ⟨value', hvalue', hvalues⟩ := Steps.bind_eq_ok.1 hvalues
    cases hvalues
    -- both fields read the one place of the row that their column names
    obtain rfl : raw = raw' := Except.ok.inj (hraw.symm.trans hraw')
    obtain rfl : value = value' := by
      cases raw <;> exact Except.ok.inj (hvalue.symm.trans hvalue')
    have hargs : [("stored", value), ("looked_up", value)] =
        [("stored", .str "Oslo"), ("looked_up", .str "Rome")] :=
      congrArg BuiltTarget.arguments (Except.ok.inj heq)
    simp only [List.cons.injEq, Prod.mk.injEq, true_and, and_true] at hargs
    obtain ⟨hoslo, hrome⟩ := hargs
    exact absurd (hoslo.symm.trans hrome) (by simp)
  · cases heq

end Projection

end Mapsmith
