import Mapsmith.Proofs.FileTrees

/-!
# Writing units

Units are written unless their files read as their texts, and they are stale if their files do not.
The two agree as long as the files are at different places: what a run of writing writes is what was
stale before it, since writing one file changes nothing for the others
(`Mapsmith.FileTree.staleUnits_of_writeUnits`).

A file is written as the text is, but read with every line break as a line feed. A text with a
carriage return is therefore not what its file reads as, right after it was written. Such units stay
stale, every run writes them again, and they are the only ones (`Mapsmith.FileTree.Settled.isStale`).
-/

namespace Mapsmith

/-! ### Names of units -/

namespace Emission.GeneratedUnit

theorem splitOn_dot (s : String) : s.splitOn "." = (s.toList.splitOn '.').map String.ofList :=
  Text.splitOn_singleton s '.'

/-- The name of a unit does not step back. -/
theorem notMem_fileName {u : GeneratedUnit} {n : PathName} (h : u.fileName = .ok n) :
    ".." ∉ n.parts := by
  unfold fileName nameOf at h
  simp only at h
  split at h
  next name hname =>
    cases h
    rintro hmem
    rcases List.mem_append.1 hmem with hmem | hmem
    · rcases PathName.mem_parts_foldl ((List.dropLast_subset _) hmem) with h | ⟨m, hm, h⟩
      · cases h
      · -- the part is of a piece between two dots
        obtain ⟨piece, hpiece, rfl⟩ := List.mem_map.1 hm
        rw [splitOn_dot] at hpiece
        obtain ⟨cs, hcs, rfl⟩ := List.mem_map.1 hpiece
        have hdot : '.' ∈ cs := by
          simpa using PathName.mem_parts_ofText h (by decide : '.' ∈ "..".toList)
        exact (Text.mem_splitOn hcs).1 hdot
    · have hlast := congrArg String.toList (List.mem_singleton.1 hmem)
      rw [String.toList_append] at hlast
      have hp : 'p' ∈ "..".toList := by
        rw [hlast]
        exact List.mem_append_right _ (by decide)
      exact absurd hp (by decide)
  next => cases h

/-- The name of a unit begins at the output directory if the name of its module holds no slash. -/
theorem lead_fileName {u : GeneratedUnit} {n : PathName} (hslash : '/' ∉ u.module.toList)
    (h : u.fileName = .ok n) : n.lead = "" := by
  have hnames : ∀ m ∈ (u.module.splitOn ".").map PathName.ofText, m.lead = "" := by
    rw [splitOn_dot]
    rintro m hm
    obtain ⟨piece, hpiece, rfl⟩ := List.mem_map.1 hm
    obtain ⟨cs, hcs, rfl⟩ := List.mem_map.1 hpiece
    refine PathName.lead_ofText fun hmem => hslash ?_
    rw [String.toList_ofList] at hmem
    exact (Text.mem_splitOn hcs).2 hmem
  have hwhole := PathName.lead_foldl (n := {}) hnames
  unfold fileName nameOf at h
  simp only at h
  split at h
  next name hname =>
    cases h
    exact hwhole
  next => cases h

/-- A module without dots and slashes in its name has its file right below the directory. -/
theorem fileName_of_plain {u : GeneratedUnit} (hne : u.module ≠ "") (hdot : '.' ∉ u.module.toList)
    (hslash : '/' ∉ u.module.toList) : u.fileName = .ok ⟨"", [u.module ++ ".py"]⟩ := by
  have hself : u.module ≠ "." := by
    intro h
    rw [h] at hdot
    exact hdot (by decide)
  have hparts : (PathName.ofText u.module).parts = [u.module] := by
    rw [PathName.ofText, PathName.splitOn_slash, List.splitOn_eq_singleton hslash]
    simp [hne, hself]
  have htext : PathName.ofText u.module = ⟨"", [u.module]⟩ := by
    rw [← hparts, ← PathName.lead_ofText hslash]
  rw [fileName, nameOf, splitOn_dot, List.splitOn_eq_singleton hdot, List.map_singleton,
    List.map_singleton, String.ofList_toList, htext]
  rfl

end Emission.GeneratedUnit

namespace FileTree

open Emission Steps

variable {tree tree' : FileTree} {root n : PathName} {u : GeneratedUnit} {us : List GeneratedUnit}

/-! ### Stale units -/

/-- A unit is found stale or not: its file is read, or its name leads nowhere. -/
theorem isStale_eq_ok {b : Bool} (hn : u.fileName = .ok n) : tree.isStale root u = .ok b ↔
    (∃ t, tree.lookup (root ++ n) = .ok (.file t) ∧ b = (readBack t != u.source)) ∨
      b = true ∧ ∃ e, e ≠ .nameTooLong ∧ tree.lookup (root ++ n) = .error e := by
  unfold isStale
  simp only [hn, bind, Except.bind, readsAs, isPresent]
  cases hlookup : tree.lookup (root ++ n) with
  | error e => cases e <;> simp [pure, Except.pure, eq_comm]
  | ok node =>
    cases node with
    | file t => simp [readFile, hlookup, bind, Except.bind, pure, Except.pure, bne, eq_comm]
    | directory => simp [readFile, hlookup, bind, Except.bind]

/-- A unit whose file is reached is found as stale before a change elsewhere as after it. -/
theorem Changes.isStale_before {places : Set FilePath} {b : Bool} (h : Changes places tree tree')
    (hn : u.fileName = .ok n) (hplace : (root ++ n).destination ∉ places)
    (hreached : tree.IsReached (root ++ n)) (hstale : tree'.isStale root u = .ok b) :
    tree.isStale root u = .ok b := by
  rw [isStale_eq_ok hn] at hstale ⊢
  rcases hstale with ⟨t, hlookup, rfl⟩ | ⟨rfl, e, he, hlookup⟩
  · obtain ⟨hlocate, hnode⟩ := lookup_eq_ok.1 hlookup
    obtain ⟨hcheck, hfollow⟩ := locate_eq_ok.1 hlocate
    have hbefore := (h.node?_file hplace).1 hnode
    have hfound := hreached (by simp [hbefore]) (size_of_follow hfollow)
    exact .inl ⟨t, lookup_eq_ok.2 ⟨locate_eq_ok.2 ⟨hcheck, hfound⟩, hbefore⟩, rfl⟩
  · refine .inr ⟨rfl, ?_⟩
    rcases h.lookup_eq_or hplace with heq | heq | heq
    · exact ⟨e, he, heq ▸ hlookup⟩
    · exact ⟨_, by simp, heq⟩
    · exact ⟨_, by simp, heq⟩

/-! ### Writing units -/

/-- Where a unit's file is. -/
def placeOf (root : PathName) (u : GeneratedUnit) : Except FileError FilePath :=
  u.fileName.map fun n => (root ++ n).destination

/-- The name that a unit's file is written under. -/
def nameBelow (root : PathName) (u : GeneratedUnit) : Except FileError PathName :=
  u.fileName.map (root ++ ·)

/-- Is the unit's file there, with the unit's text or one that reads as it? -/
def Settled (tree : FileTree) (root : PathName) (u : GeneratedUnit) : Prop :=
  ∃ n t, u.fileName = .ok n ∧ tree.lookup (root ++ n) = .ok (.file t) ∧
    (t = u.source ∨ readBack t = u.source)

theorem placeOf_eq (hn : u.fileName = .ok n) : placeOf root u = .ok (root ++ n).destination := by
  rw [placeOf, hn]
  rfl

/-- Units of different names have their files at different places, unless the name of a module leads
to the top of the file system. -/
theorem nodup_placeOf (hnames : (us.map GeneratedUnit.fileName).Nodup)
    (hslash : ∀ u ∈ us, '/' ∉ u.module.toList) : (us.map (placeOf root)).Nodup := by
  -- the name can be told from the place
  have hname {u} (hu : u ∈ us) : u.fileName =
      (placeOf root u).map fun p => ⟨"", p.drop root.destination.length⟩ := by
    cases hn : u.fileName with
    | error e => rw [placeOf, hn]; rfl
    | ok n =>
      have hlead := GeneratedUnit.lead_fileName (hslash u hu) hn
      rw [placeOf_eq hn, PathName.destination_append _ _ hlead,
        foldl_enter (GeneratedUnit.notMem_fileName hn), Except.map, List.drop_left, ← hlead]
  refine List.pairwise_map.2 ((List.pairwise_map.1 hnames).imp_of_mem ?_)
  intro u v hu hv hne heq
  exact hne (by rw [hname hu, hname hv, heq])

namespace Settled

/-- **A unit that was written is stale** exactly if its text does not read as it is. -/
theorem isStale (h : tree.Settled root u) :
    tree.isStale root u = .ok (decide ('\r' ∈ u.source.toList)) := by
  obtain ⟨n, t, hn, hlookup, htext⟩ := h
  refine (isStale_eq_ok hn).2 (.inl ⟨t, hlookup, ?_⟩)
  have hreturn : '\r' ∈ u.source.toList ↔ readBack t ≠ u.source := by
    rcases htext with rfl | htext
    · rw [ne_eq, readBack_eq_self_iff, not_not]
    · refine iff_of_false ?_ (not_not.2 htext)
      rw [← htext, ← readBack_eq_self_iff]
      exact readBack_readBack
  rw [Bool.eq_iff_iff, decide_eq_true_eq, bne_iff_ne]
  exact hreturn

theorem mono {places : Set FilePath} (h : tree.Settled root u)
    (hchanges : Changes places tree tree') (hplace : ∀ p ∈ places, placeOf root u ≠ .ok p) :
    tree'.Settled root u := by
  obtain ⟨n, t, hn, hlookup, htext⟩ := h
  have hother : (root ++ n).destination ∉ places := fun hmem => hplace _ hmem (placeOf_eq hn)
  exact ⟨n, t, hn, hchanges.lookup_of_eq_ok hother hlookup, htext⟩

theorem isReached (h : tree.Settled root u) (hn : u.fileName = .ok n) :
    tree.IsReached (root ++ n) := by
  obtain ⟨n', t, hn', hlookup, -⟩ := h
  rw [hn] at hn'
  cases hn'
  exact fun _ _ => (locate_eq_ok.1 (lookup_eq_ok.1 hlookup).1).2

end Settled

variable {mid : FileTree} {first : Option PathName} {written : List PathName}

theorem writeUnit_eq_ok : tree.writeUnit root u = .ok (mid, first) ↔ ∃ n, u.fileName = .ok n ∧
    (tree.isStale root u = .ok true ∧ tree.write (root ++ n) u.source = .ok mid ∧
        first = some (root ++ n) ∨
      tree.isStale root u = .ok false ∧ mid = tree ∧ first = none) := by
  unfold writeUnit
  rw [bind_eq_ok]
  refine exists_congr fun n => and_congr_right fun _ => ?_
  rw [bind_eq_ok]
  constructor
  · rintro ⟨stale, hstale, h⟩
    cases stale with
    | true =>
      rw [if_pos rfl] at h
      obtain ⟨tree', hwrite, h⟩ := bind_eq_ok.1 h
      cases h
      exact .inl ⟨hstale, hwrite, rfl⟩
    | false =>
      rw [if_neg Bool.false_ne_true] at h
      cases h
      exact .inr ⟨hstale, rfl, rfl⟩
  · rintro (⟨hstale, hwrite, rfl⟩ | ⟨hstale, rfl, rfl⟩)
    · exact ⟨true, hstale, by rw [if_pos rfl, hwrite]; rfl⟩
    · exact ⟨false, hstale, rfl⟩

theorem writeUnit_changes (h : tree.writeUnit root u = .ok (mid, first)) :
    Changes {p | placeOf root u = .ok p} tree mid := by
  obtain ⟨n, hn, ⟨-, hwrite, -⟩ | ⟨-, rfl, -⟩⟩ := writeUnit_eq_ok.1 h
  · refine (write_changes hwrite).mono ?_
    rintro p rfl
    exact placeOf_eq hn
  · exact .refl _ _

theorem settled_of_writeUnit (h : tree.writeUnit root u = .ok (mid, first)) :
    mid.Settled root u := by
  obtain ⟨n, hn, ⟨-, hwrite, -⟩ | ⟨hstale, rfl, -⟩⟩ := writeUnit_eq_ok.1 h
  · exact ⟨n, u.source, hn, lookup_of_write hwrite, .inl rfl⟩
  · obtain ⟨t, hlookup, hread⟩ | ⟨hfalse, -⟩ := (isStale_eq_ok hn).1 hstale
    · exact ⟨n, t, hn, hlookup, .inr (by simpa using hread)⟩
    · cases hfalse

/-- A unit whose file is there can be written again. -/
theorem Settled.exists_writeUnit (h : tree.Settled root u) :
    ∃ mid first, tree.writeUnit root u = .ok (mid, first) := by
  have hstale := h.isStale
  obtain ⟨n, t, hn, hlookup, -⟩ := h
  by_cases hreturn : '\r' ∈ u.source.toList
  · rw [decide_eq_true hreturn] at hstale
    obtain ⟨mid, hwrite⟩ := exists_write_of_lookup hlookup
    exact ⟨mid, _, writeUnit_eq_ok.2 ⟨n, hn, .inl ⟨hstale, hwrite, rfl⟩⟩⟩
  · rw [decide_eq_false hreturn] at hstale
    exact ⟨tree, none, writeUnit_eq_ok.2 ⟨n, hn, .inr ⟨hstale, rfl, rfl⟩⟩⟩

theorem writeUnits_cons_eq_ok : tree.writeUnits root (u :: us) = (tree', .ok written) ↔
    ∃ mid first rest, tree.writeUnit root u = .ok (mid, first) ∧
      mid.writeUnits root us = (tree', .ok rest) ∧ written = first.toList ++ rest := by
  rw [writeUnits]
  cases hunit : tree.writeUnit root u with
  | error e => simp
  | ok pair =>
    obtain ⟨mid, first⟩ := pair
    cases hrest : mid.writeUnits root us with
    | mk last outcome =>
      cases outcome with
      | error e => simp [hrest, Except.map]
      | ok rest => simp [hrest, Except.map, eq_comm]

theorem staleUnits_cons_eq_ok : tree.staleUnits root (u :: us) = .ok written ↔
    ∃ n stale rest, u.fileName = .ok n ∧ tree.isStale root u = .ok stale ∧
      tree.staleUnits root us = .ok rest ∧
      written = if stale then (root ++ n) :: rest else rest := by
  rw [staleUnits]
  simp only [bind_eq_ok, pure_eq_ok]
  constructor
  · rintro ⟨n, hn, stale, hstale, rest, hrest, h⟩
    exact ⟨n, stale, rest, hn, hstale, hrest, h.symm⟩
  · rintro ⟨n, stale, rest, hn, hstale, hrest, h⟩
    exact ⟨n, hn, stale, hstale, rest, hrest, h.symm⟩

/-- A run of writing leaves a tree proper, even if it fails. -/
theorem IsProper.writeUnits (h : tree.IsProper) : (tree.writeUnits root us).1.IsProper := by
  induction us generalizing tree with
  | nil => exact h
  | cons u us ih =>
    rw [FileTree.writeUnits]
    cases hunit : tree.writeUnit root u with
    | error e => exact h
    | ok pair =>
      obtain ⟨n, -, ⟨-, hwrite, -⟩ | ⟨-, hsame, -⟩⟩ := writeUnit_eq_ok.1 hunit
      · exact ih (h.write hwrite)
      · exact ih (hsame ▸ h)

/-- Writing units changes their files at most, even if it fails. -/
theorem writeUnits_changes (tree : FileTree) (root : PathName) (us : List GeneratedUnit) :
    Changes {p | ∃ u ∈ us, placeOf root u = .ok p} tree (tree.writeUnits root us).1 := by
  induction us generalizing tree with
  | nil => exact .refl _ _
  | cons u us ih =>
    rw [writeUnits]
    cases hunit : tree.writeUnit root u with
    | error e => exact .refl _ _
    | ok pair =>
      obtain ⟨mid, first⟩ := pair
      have hhead := (writeUnit_changes hunit).mono
        (fun p hp => ⟨u, List.mem_cons_self, hp⟩ : _ ⊆ {p | ∃ v ∈ u :: us, placeOf root v = .ok p})
      exact hhead.trans ((ih mid).mono fun p ⟨v, hv, hp⟩ => ⟨v, List.mem_cons_of_mem u hv, hp⟩)

section Distinct

variable (hplaces : (us.map (placeOf root)).Nodup)
include hplaces

/-- **What is written was stale** before anything was, if files that are there are reached. -/
theorem staleUnits_of_writeUnits {places : Set FilePath} {start : FileTree}
    (hchanges : Changes places start tree) (hapart : ∀ u ∈ us, ∀ p ∈ places, placeOf root u ≠ .ok p)
    (hreached : ∀ u ∈ us, ∀ n, u.fileName = .ok n → start.IsReached (root ++ n))
    (h : tree.writeUnits root us = (tree', .ok written)) :
    start.staleUnits root us = .ok written := by
  induction us generalizing tree places written with
  | nil =>
    cases h
    rfl
  | cons u us ih =>
    obtain ⟨mid, first, rest, hunit, hrest, rfl⟩ := writeUnits_cons_eq_ok.1 h
    obtain ⟨hnew, hdistinct⟩ := List.nodup_cons.1 hplaces
    obtain ⟨hfirst, hothers⟩ := List.forall_mem_cons.1 hapart
    obtain ⟨hreach, hreaches⟩ := List.forall_mem_cons.1 hreached
    have hboth : Changes (places ∪ {p | placeOf root u = .ok p}) start mid :=
      (hchanges.mono Set.subset_union_left).trans
        ((writeUnit_changes hunit).mono Set.subset_union_right)
    have hrestStale := ih hdistinct hboth (fun v hv p hp => hp.elim (hothers v hv p) fun hu heq =>
      hnew (List.mem_map.2 ⟨v, hv, heq.trans hu.symm⟩)) hreaches hrest
    obtain ⟨n, hn, hcase⟩ := writeUnit_eq_ok.1 hunit
    have hplace : (root ++ n).destination ∉ places := fun hmem => hfirst _ hmem (placeOf_eq hn)
    obtain ⟨hstale, -, rfl⟩ | ⟨hstale, -, rfl⟩ := hcase
    · have hbefore := hchanges.isStale_before hn hplace (hreach n hn) hstale
      exact staleUnits_cons_eq_ok.2 ⟨n, true, rest, hn, hbefore, hrestStale, rfl⟩
    · have hbefore := hchanges.isStale_before hn hplace (hreach n hn) hstale
      exact staleUnits_cons_eq_ok.2 ⟨n, false, rest, hn, hbefore, hrestStale, rfl⟩

/-- After a run that succeeds, the file of every unit is there. -/
theorem settled_of_writeUnits (h : tree.writeUnits root us = (tree', .ok written)) :
    ∀ u ∈ us, tree'.Settled root u := by
  induction us generalizing tree written with
  | nil => exact fun u hu => absurd hu List.not_mem_nil
  | cons u us ih =>
    obtain ⟨mid, first, rest, hunit, hrest, -⟩ := writeUnits_cons_eq_ok.1 h
    obtain ⟨hnew, hdistinct⟩ := List.nodup_cons.1 hplaces
    have hafter := writeUnits_changes mid root us
    rw [hrest] at hafter
    refine List.forall_mem_cons.2 ⟨?_, ih hdistinct hrest⟩
    refine (settled_of_writeUnit hunit).mono hafter ?_
    rintro p ⟨v, hv, hp⟩ heq
    exact hnew (List.mem_map.2 ⟨v, hv, hp.trans heq.symm⟩)

/-- Units whose files are there can be written again. -/
theorem exists_writeUnits_of_settled (h : ∀ u ∈ us, tree.Settled root u) :
    ∃ tree' written, tree.writeUnits root us = (tree', .ok written) := by
  induction us generalizing tree with
  | nil => exact ⟨tree, [], rfl⟩
  | cons u us ih =>
    obtain ⟨hnew, hdistinct⟩ := List.nodup_cons.1 hplaces
    obtain ⟨hu, hothers⟩ := List.forall_mem_cons.1 h
    obtain ⟨mid, first, hunit⟩ := hu.exists_writeUnit
    obtain ⟨tree', rest, hrest⟩ := ih hdistinct fun v hv =>
      (hothers v hv).mono (writeUnit_changes hunit) fun p hp heq =>
        hnew (List.mem_map.2 ⟨v, hv, heq.trans hp.symm⟩)
    exact ⟨tree', _, writeUnits_cons_eq_ok.2 ⟨mid, first, rest, hunit, hrest, rfl⟩⟩

end Distinct

/-- Of units whose files are there, those are stale whose texts hold a carriage return. -/
theorem staleUnits_of_settled (h : ∀ u ∈ us, tree.Settled root u) :
    ∃ again, (us.filter fun u => '\r' ∈ u.source.toList).mapM (nameBelow root) = .ok again ∧
      tree.staleUnits root us = .ok again := by
  induction us with
  | nil => exact ⟨[], rfl, rfl⟩
  | cons u us ih =>
    obtain ⟨hu, hothers⟩ := List.forall_mem_cons.1 h
    obtain ⟨again, hnames, hstale⟩ := ih hothers
    have hunit := hu.isStale
    obtain ⟨n, -, hn, -⟩ := hu
    have hname : nameBelow root u = .ok (root ++ n) := by
      rw [nameBelow, hn]
      rfl
    refine ⟨_, ?_, staleUnits_cons_eq_ok.2 ⟨n, _, again, hn, hunit, hstale, rfl⟩⟩
    rw [mapM_eq_ok] at hnames ⊢
    rw [List.filter_cons]
    split
    · exact .cons hname hnames
    · exact hnames

/-- **What writing leaves stale.** If the units have their files at different places and none of them
fails to be written, what is written is what was stale before. Afterwards those units are stale whose
texts hold a carriage return, and the next run writes them again; so nothing is stale exactly if there
are none. All other files stay as they are. -/
theorem writing_leaves_stale {root : PathName} {tree tree' : FileTree} {us : List GeneratedUnit}
    {written : List PathName} (htree : tree.IsProper) (hroot : tree.IsReached root)
    (hplaces : (us.map (placeOf root)).Nodup)
    (hwrite : tree.writeUnits root us = (tree', .ok written)) :
    tree.staleUnits root us = .ok written ∧
      (∃ again, (us.filter fun u => '\r' ∈ u.source.toList).mapM (nameBelow root) = .ok again ∧
        tree'.staleUnits root us = .ok again ∧ (tree'.writeUnits root us).2 = .ok again ∧
        (again = [] ↔ ∀ u ∈ us, '\r' ∉ u.source.toList)) ∧
      ∀ p, (∀ u ∈ us, placeOf root u ≠ .ok p) → tree'.files.lookup p = tree.files.lookup p := by
  have hsettled := settled_of_writeUnits hplaces hwrite
  refine ⟨?_, ?_, fun p hp => ?_⟩
  · refine staleUnits_of_writeUnits hplaces (.refl ∅ tree) (fun _ _ _ hp => hp.elim) ?_ hwrite
    exact fun u _ n hn => htree.isReached_append hroot (GeneratedUnit.notMem_fileName hn)
  · obtain ⟨again, hnames, hstale⟩ := staleUnits_of_settled hsettled
    obtain ⟨tree'', rewritten, hrewrite⟩ := exists_writeUnits_of_settled hplaces hsettled
    -- the second run is a run of writing, too, so it writes what is stale before it
    have hsame : tree'.staleUnits root us = .ok rewritten :=
      staleUnits_of_writeUnits hplaces (.refl ∅ tree') (fun _ _ _ hp => hp.elim)
        (fun u hu _ hn => (hsettled u hu).isReached hn) hrewrite
    obtain rfl : again = rewritten := Except.ok.inj (hstale.symm.trans hsame)
    refine ⟨again, hnames, hstale, by rw [hrewrite], ?_⟩
    have hlength := (mapM_eq_ok.1 hnames).length_eq
    rw [← List.length_eq_zero_iff, ← hlength, List.length_eq_zero_iff, List.filter_eq_nil_iff]
    simp
  · have hchanges := writeUnits_changes tree root us
    rw [hwrite] at hchanges
    exact hchanges.file p fun ⟨u, hu, hplace⟩ => hp u hu hplace

/-- A file that reads as the unit's text beside one that is missing and will not read as it is. -/
theorem writing_leaves_stale_beside :
    let us : List GeneratedUnit := [⟨"a", "a", "x\n", []⟩, ⟨"b", "b", "y\r\n", []⟩]
    let tree : FileTree := { files := [(["out", "a.py"], "x\r\n")], directories := [["out"]] }
    let tree' : FileTree := { tree with files := tree.files ++ [(["out", "b.py"], "y\r\n")] }
    tree.writeUnits ⟨"", ["out"]⟩ us = (tree', .ok [⟨"", ["out", "b.py"]⟩]) ∧
      tree.staleUnits ⟨"", ["out"]⟩ us = .ok [⟨"", ["out", "b.py"]⟩] ∧
      tree'.staleUnits ⟨"", ["out"]⟩ us = .ok [⟨"", ["out", "b.py"]⟩] ∧
      (tree'.writeUnits ⟨"", ["out"]⟩ us).2 = .ok [⟨"", ["out", "b.py"]⟩] := by
  intro us tree tree'
  have ha : GeneratedUnit.fileName ⟨"a", "a", "x\n", []⟩ = .ok ⟨"", ["a.py"]⟩ :=
    GeneratedUnit.fileName_of_plain (by decide) (by decide) (by decide)
  have hb : GeneratedUnit.fileName ⟨"b", "b", "y\r\n", []⟩ = .ok ⟨"", ["b.py"]⟩ :=
    GeneratedUnit.fileName_of_plain (by decide) (by decide) (by decide)
  have htree : tree.IsProper := isProper_empty.write
    (rfl : FileTree.write {} ⟨"", ["out", "a.py"]⟩ "x\r\n" = .ok tree)
  have hplaces : (us.map (placeOf ⟨"", ["out"]⟩)).Nodup := by
    refine nodup_placeOf ?_ (by decide)
    simp [us, ha, hb]
  have hfirst : tree.writeUnit ⟨"", ["out"]⟩ ⟨"a", "a", "x\n", []⟩ = .ok (tree, none) :=
    writeUnit_eq_ok.2 ⟨_, ha, .inr
      ⟨(isStale_eq_ok ha).2 (.inl ⟨"x\r\n", rfl, by decide⟩), rfl, rfl⟩⟩
  have hsecond : tree.writeUnit ⟨"", ["out"]⟩ ⟨"b", "b", "y\r\n", []⟩ =
      .ok (tree', some ⟨"", ["out", "b.py"]⟩) :=
    writeUnit_eq_ok.2 ⟨_, hb, .inl
      ⟨(isStale_eq_ok hb).2 (.inr ⟨rfl, .notFound, by decide, rfl⟩), rfl, rfl⟩⟩
  have hwrite : tree.writeUnits ⟨"", ["out"]⟩ us = (tree', .ok [⟨"", ["out", "b.py"]⟩]) :=
    writeUnits_cons_eq_ok.2 ⟨_, _, _, hfirst,
      writeUnits_cons_eq_ok.2 ⟨_, _, [], hsecond, rfl, rfl⟩, rfl⟩
  obtain ⟨hstale, ⟨again, hnames, hstale', hwrite', -⟩, -⟩ :=
    writing_leaves_stale htree (htree.isReached (by decide)) hplaces hwrite
  have hname : nameBelow ⟨"", ["out"]⟩ ⟨"b", "b", "y\r\n", []⟩ = .ok ⟨"", ["out", "b.py"]⟩ := by
    rw [nameBelow, hb]
    rfl
  have hagain : (us.filter fun u => '\r' ∈ u.source.toList).mapM (nameBelow ⟨"", ["out"]⟩) =
      .ok [⟨"", ["out", "b.py"]⟩] := mapM_eq_ok.2 (.cons hname .nil)
  obtain rfl : again = [⟨"", ["out", "b.py"]⟩] := Except.ok.inj (hnames.symm.trans hagain)
  exact ⟨hwrite, hstale, hstale', hwrite'⟩

/-- **A unit can be stale right after it was written**: a text with a carriage return is stored as it
is, but does not read as it is. -/
theorem stale_after_writing :
    let us : List GeneratedUnit := [⟨"a_mappings", "a", "x = 1\r\n", []⟩]
    ∃ tree',
      FileTree.writeUnits {} ⟨"", ["out"]⟩ us = (tree', .ok [⟨"", ["out", "a_mappings.py"]⟩]) ∧
      tree'.staleUnits ⟨"", ["out"]⟩ us = .ok [⟨"", ["out", "a_mappings.py"]⟩] ∧
      tree'.writeUnits ⟨"", ["out"]⟩ us = (tree', .ok [⟨"", ["out", "a_mappings.py"]⟩]) := by
  intro us
  have hn : GeneratedUnit.fileName ⟨"a_mappings", "a", "x = 1\r\n", []⟩ =
      .ok ⟨"", ["a_mappings.py"]⟩ :=
    GeneratedUnit.fileName_of_plain (by decide) (by decide) (by decide)
  let tree' : FileTree :=
    { files := [(["out", "a_mappings.py"], "x = 1\r\n")], directories := [["out"]] }
  have hbefore : FileTree.isStale {} ⟨"", ["out"]⟩ ⟨"a_mappings", "a", "x = 1\r\n", []⟩ = .ok true :=
    (isStale_eq_ok hn).2 (.inr ⟨rfl, .notFound, by decide, rfl⟩)
  have hafter : tree'.isStale ⟨"", ["out"]⟩ ⟨"a_mappings", "a", "x = 1\r\n", []⟩ = .ok true :=
    (isStale_eq_ok hn).2 (.inl ⟨"x = 1\r\n", rfl, by decide⟩)
  refine ⟨tree', ?_, staleUnits_cons_eq_ok.2 ⟨_, _, [], hn, hafter, rfl, rfl⟩, ?_⟩
  · have hunit := writeUnit_eq_ok.2 ⟨_, hn, .inl ⟨hbefore, rfl, rfl⟩⟩
    exact writeUnits_cons_eq_ok.2 ⟨tree', _, [], hunit, rfl, rfl⟩
  · have hunit := writeUnit_eq_ok.2 ⟨_, hn, .inl ⟨hafter, rfl, rfl⟩⟩
    exact writeUnits_cons_eq_ok.2 ⟨tree', _, [], hunit, rfl, rfl⟩

end FileTree

end Mapsmith
