import Mapsmith.FileTree
import Mapsmith.Proofs.Steps
import Mathlib.Data.Set.Basic
import Mathlib.Data.String.Basic

/-!
# Proper trees and what writing changes

A tree is proper if whatever stands in it is in a directory (`Mapsmith.FileTree.IsProper`). The empty
tree is, and writing a file keeps a tree proper (`Mapsmith.FileTree.IsProper.write`). In a proper tree
a name without steps back finds what stands where it leads. A name with one need not: it leads nowhere
as long as a directory on its way is missing, although the step back leaves that directory again
(`Mapsmith.FileTree.IsReached`).

Writing a file makes directories and removes none, and all other files stay as they are
(`Mapsmith.FileTree.Changes`). So a name that leads to something keeps leading to it, unless it is the
one that is written; a name that leads nowhere may come to lead somewhere
(`Mapsmith.FileTree.Changes.lookup_eq_or`).
-/

namespace Mapsmith

/-! ### Splitting at a character -/

namespace Text

open String

theorem splitOnAux_singleton (c : Char) (l m r : List Char) (acc : List String) :
    splitOnAux (ofList (l ++ m ++ r)) (singleton c) ⟨utf8Len l⟩ ⟨utf8Len l + utf8Len m⟩ 0 acc =
      acc.reverse ++ (List.splitOnPPrepend (· == c) r m.reverse).map ofList := by
  have hget : Pos.Raw.get (singleton c) 0 = c := by
    simpa using get_of_valid [] [c]
  have hnext : Pos.Raw.next (singleton c) 0 = ⟨c.utf8Size⟩ := by
    simpa using next_of_valid [] c []
  have hend : Pos.Raw.atEnd (singleton c) ⟨c.utf8Size⟩ = true := by
    simpa using (atEnd_of_valid [c] []).2 rfl
  have hback (n k : Nat) : (⟨n + k⟩ : Pos.Raw).unoffsetBy ⟨k⟩ = ⟨n⟩ := by
    simp [Pos.Raw.unoffsetBy]
  unfold splitOnAux
  cases r with
  | nil =>
    have hatEnd : Pos.Raw.atEnd (ofList (l ++ m ++ [])) ⟨utf8Len l + utf8Len m⟩ = true := by
      simpa using (atEnd_of_valid (l ++ m) []).2 rfl
    rw [if_pos hatEnd]
    simpa using extract_of_valid l m []
  | cons d r =>
    have hatEnd : ¬ Pos.Raw.atEnd (ofList (l ++ m ++ d :: r)) ⟨utf8Len l + utf8Len m⟩ = true := by
      rw [← utf8Len_append, atEnd_of_valid]
      exact List.cons_ne_nil d r
    have hhead : Pos.Raw.get (ofList (l ++ m ++ d :: r)) ⟨utf8Len l + utf8Len m⟩ = d := by
      rw [← utf8Len_append, get_of_valid]
      rfl
    have hstep : Pos.Raw.next (ofList (l ++ m ++ d :: r)) ⟨utf8Len l + utf8Len m⟩ =
        ⟨utf8Len l + utf8Len m + d.utf8Size⟩ := by
      rw [← utf8Len_append, next_of_valid]
    rw [if_neg hatEnd, hhead, hget, List.splitOnPPrepend_cons_eq_if]
    by_cases hd : d = c
    · subst hd
      have ih := splitOnAux_singleton d (l ++ m ++ [d]) [] r (ofList m :: acc)
      simp only [utf8Len_append, utf8Len_cons, utf8Len_nil, Nat.zero_add, Nat.add_zero,
        List.append_assoc, List.append_nil, List.singleton_append] at ih
      simp only [beq_self_eq_true, if_true, hstep, hnext, hend, hback, extract_of_valid]
      simpa [Nat.add_assoc] using ih
    · have ih := splitOnAux_singleton c l (m ++ [d]) r acc
      simp only [utf8Len_append, utf8Len_cons, utf8Len_nil, Nat.zero_add, List.append_assoc,
        List.singleton_append] at ih
      have hback' : (⟨utf8Len l + utf8Len m⟩ : Pos.Raw).unoffsetBy 0 = ⟨utf8Len l + utf8Len m⟩ :=
        hback _ 0
      simp only [beq_iff_eq, hd, if_false, hback', hstep]
      rw [List.append_assoc, Nat.add_assoc, ih, List.reverse_append]
      rfl

/-- Splitting a text at a character splits its characters there. -/
theorem splitOn_singleton (s : String) (c : Char) :
    s.splitOn (singleton c) = (s.toList.splitOn c).map ofList := by
  have hne : ¬ ((singleton c == "") = true) := by
    rw [beq_iff_eq]
    intro h
    exact absurd (congrArg String.length h) (by simp)
  have h := splitOnAux_singleton c [] [] s.toList []
  rw [splitOn, if_neg hne, List.splitOn_eq_splitOnP, List.splitOnP_eq_splitOnPPrepend]
  rw [List.nil_append, List.nil_append, ofList_toList] at h
  exact h

/-- The pieces of a list hold its elements, but not the one that it is split at. -/
theorem mem_splitOn {cs piece : List Char} {c : Char} (h : piece ∈ cs.splitOn c) :
    c ∉ piece ∧ piece ⊆ cs := by
  induction cs generalizing piece with
  | nil =>
    rw [List.splitOn_nil, List.mem_singleton] at h
    simp [h]
  | cons d cs ih =>
    rw [List.splitOn_cons_eq_if_modifyHead] at h
    split at h
    · rcases List.mem_cons.1 h with rfl | h
      · simp
      · exact ⟨(ih h).1, List.subset_cons_of_subset d (ih h).2⟩
    next hd =>
      cases hsplit : cs.splitOn c with
      | nil => exact (List.splitOn_ne_nil _ _ hsplit).elim
      | cons first rest =>
        rw [hsplit, List.modifyHead_cons] at h
        rcases List.mem_cons.1 h with rfl | h
        · obtain ⟨hnot, hsub⟩ := ih (hsplit ▸ List.mem_cons_self)
          refine ⟨?_, List.cons_subset_cons d hsub⟩
          rw [List.mem_cons, not_or]
          exact ⟨fun heq => hd (by simp [heq]), hnot⟩
        · obtain ⟨hnot, hsub⟩ := ih (hsplit ▸ List.mem_cons_of_mem first h)
          exact ⟨hnot, List.subset_cons_of_subset d hsub⟩

end Text

/-! ### Names -/

namespace PathName

theorem destination_append (n : PathName) (m : PathName) (hm : m.lead = "") :
    (n ++ m).destination = m.parts.foldl FilePath.enter n.destination := by
  show (n.append m).destination = _
  rw [append, if_pos hm, destination, List.foldl_append]
  rfl

theorem splitOn_slash (s : String) : s.splitOn "/" = (s.toList.splitOn '/').map String.ofList :=
  Text.splitOn_singleton s '/'

/-- A text without slashes spells a name that begins where it is used. -/
theorem lead_ofText {s : String} (h : '/' ∉ s.toList) : (ofText s).lead = "" := by
  have hlead : s.toList.takeWhile (· = '/') = [] := by
    cases hchars : s.toList with
    | nil => rfl
    | cons c cs =>
      have hc : c ≠ '/' := fun heq => h (by simp [hchars, heq])
      simp [hc]
  simp only [ofText, hlead, List.length_nil]

theorem mem_parts_ofText {s part : String} (h : part ∈ (ofText s).parts) :
    part.toList ⊆ s.toList := by
  obtain ⟨hpart, -⟩ := List.mem_filter.1 h
  rw [splitOn_slash] at hpart
  obtain ⟨piece, hpiece, rfl⟩ := List.mem_map.1 hpart
  rw [String.toList_ofList]
  exact (Text.mem_splitOn hpiece).2

theorem mem_parts_foldl {names : List PathName} {n : PathName} {part : String}
    (h : part ∈ (names.foldl append n).parts) : part ∈ n.parts ∨ ∃ m ∈ names, part ∈ m.parts := by
  induction names generalizing n with
  | nil => exact .inl h
  | cons m names ih =>
    rcases ih h with h | ⟨m', hm', h⟩
    · unfold append at h
      split at h
      · rcases List.mem_append.1 h with h | h
        · exact .inl h
        · exact .inr ⟨m, List.mem_cons_self, h⟩
      · exact .inr ⟨m, List.mem_cons_self, h⟩
    · exact .inr ⟨m', List.mem_cons_of_mem m hm', h⟩

theorem lead_foldl {names : List PathName} {n : PathName} (h : ∀ m ∈ names, m.lead = "") :
    (names.foldl append n).lead = n.lead := by
  induction names generalizing n with
  | nil => rfl
  | cons m names ih =>
    obtain ⟨hm, hnames⟩ := List.forall_mem_cons.1 h
    rw [List.foldl_cons, ih hnames, append, if_pos hm]

/-- The name of a directory begins the names of what is in it. -/
theorem text_parent (n : PathName) : n.parent.text = "." ∨ ∃ s, n.text = n.parent.text ++ s := by
  rcases n.parts.eq_nil_or_concat with hparts | ⟨parts, part, hparts⟩
  · refine .inr ⟨"", ?_⟩
    simp [text, parent, hparts]
  · cases parts with
    | nil =>
      by_cases hlead : n.lead = ""
      · exact .inl (by simp [text, parent, hparts, hlead])
      · exact .inr ⟨part, by simp [text, parent, hparts, hlead]⟩
    | cons first parts =>
      refine .inr ⟨"/" ++ part, ?_⟩
      have hjoin : "/".intercalate (first :: parts ++ [part]) =
          "/".intercalate (first :: parts) ++ "/" ++ part := by
        rw [String.intercalate_append_of_ne_nil (by simp) (by simp), String.intercalate_singleton]
      rw [List.concat_eq_append] at hparts
      simp only [text, parent, hparts, List.dropLast_concat, hjoin]
      simp [String.append_assoc]

end PathName

namespace FileTree

open Steps

variable {tree tree' : FileTree} {n : PathName} {p q place : FilePath} {part text : String}
  {parts : List String}

/-! ### Reading back -/

theorem notMem_unifyBreaks (cs : List Char) : '\r' ∉ unifyBreaks cs := by
  induction cs using unifyBreaks.induct with
  | case1 rest ih => simpa [unifyBreaks] using ih
  | case2 rest hrest ih =>
    rw [unifyBreaks]
    · simpa using ih
    · exact hrest
  | case3 c rest hcrlf hcr ih =>
    rw [unifyBreaks]
    · simpa [eq_comm] using ⟨fun heq => hcr heq, ih⟩
    · exact hcrlf
    · exact hcr
  | case4 => simp [unifyBreaks]

theorem unifyBreaks_of_notMem {cs : List Char} (h : '\r' ∉ cs) : unifyBreaks cs = cs := by
  induction cs with
  | nil => rfl
  | cons c cs ih =>
    obtain ⟨hc, hcs⟩ := not_or.1 (mt List.mem_cons.2 h)
    rw [unifyBreaks, ih hcs]
    · rintro rest rfl -
      exact hc rfl
    · rintro rfl
      exact hc rfl

/-- A text reads as it is exactly if it holds no carriage return. -/
theorem readBack_eq_self_iff : readBack text = text ↔ '\r' ∉ text.toList := by
  constructor
  · intro h
    rw [← h, readBack, String.toList_ofList]
    exact notMem_unifyBreaks _
  · intro h
    rw [readBack, unifyBreaks_of_notMem h, String.ofList_toList]

theorem readBack_readBack : readBack (readBack text) = readBack text := by
  rw [readBack_eq_self_iff, readBack, String.toList_ofList]
  exact notMem_unifyBreaks _

/-! ### What stands where -/

theorem node?_eq_file_iff :
    tree.node? p = some (.file text) ↔ p.isSurrounding = false ∧ tree.files.lookup p = some text := by
  grind [node?]

theorem node?_eq_directory_iff : tree.node? p = some .directory ↔
    p.isSurrounding = true ∨ tree.files.lookup p = none ∧ p ∈ tree.directories := by
  grind [node?]

theorem node?_eq_none_iff : tree.node? p = none ↔
    p.isSurrounding = false ∧ tree.files.lookup p = none ∧ p ∉ tree.directories := by
  grind [node?]

theorem node?_start : tree.node? n.start = some .directory := by
  refine node?_eq_directory_iff.2 (.inl ?_)
  unfold PathName.start
  split <;> rfl

/-- The parts of a name can be followed exactly if they lead through directories, and none is too
long. -/
theorem follow_cons_eq_ok : tree.follow p (part :: parts) = .ok q ↔
    tree.node? p = some .directory ∧ part.utf8ByteSize ≤ maxPartSize ∧
      tree.follow (p.enter part) parts = .ok q := by
  rw [follow]
  cases tree.node? p with
  | none => simp
  | some node =>
    cases node with
    | file t => simp
    | directory =>
      by_cases hsize : part.utf8ByteSize > maxPartSize
      · simp [hsize]
      · simp [hsize, Nat.le_of_not_gt hsize]

theorem eq_of_follow (h : tree.follow p parts = .ok q) : q = parts.foldl FilePath.enter p := by
  induction parts generalizing p with
  | nil =>
    cases h
    rfl
  | cons part parts ih => exact ih (follow_cons_eq_ok.1 h).2.2

theorem size_of_follow (h : tree.follow p parts = .ok q) :
    ∀ part ∈ parts, part.utf8ByteSize ≤ maxPartSize := by
  induction parts generalizing p with
  | nil => exact fun part hpart => absurd hpart List.not_mem_nil
  | cons part parts ih =>
    obtain ⟨-, hsize, hrest⟩ := follow_cons_eq_ok.1 h
    exact List.forall_mem_cons.2 ⟨hsize, ih hrest⟩

theorem exists_of_follow_concat (h : tree.follow p (parts ++ [part]) = .ok q) :
    ∃ p', tree.node? p' = some .directory ∧ q = p'.enter part := by
  induction parts generalizing p with
  | nil =>
    obtain ⟨hp, -, hq⟩ := follow_cons_eq_ok.1 h
    cases hq
    exact ⟨p, hp, rfl⟩
  | cons next parts ih => exact ih (follow_cons_eq_ok.1 h).2.2

theorem follow_append_eq_ok {parts' : List String} (h : tree.follow p parts = .ok q) :
    tree.follow p (parts ++ parts') = tree.follow q parts' := by
  induction parts generalizing p with
  | nil =>
    cases h
    rfl
  | cons part parts ih =>
    obtain ⟨hp, hsize, hrest⟩ := follow_cons_eq_ok.1 h
    rw [List.cons_append, follow, hp]
    simp only [Nat.not_lt.2 hsize, if_false]
    exact ih hrest

theorem locate_eq_ok : tree.locate n = .ok p ↔
    checkName n = .ok () ∧ tree.follow n.start n.parts = .ok p := by
  unfold locate
  rw [bind_eq_ok]
  exact ⟨fun ⟨_, hcheck, hfollow⟩ => ⟨hcheck, hfollow⟩,
    fun ⟨hcheck, hfollow⟩ => ⟨_, hcheck, hfollow⟩⟩

theorem lookup_eq_ok {node : FileNode} : tree.lookup n = .ok node ↔
    tree.locate n = .ok n.destination ∧ tree.node? n.destination = some node := by
  unfold lookup
  rw [bind_eq_ok]
  constructor
  · rintro ⟨q, hq, hnode⟩
    obtain rfl : q = n.destination := eq_of_follow (locate_eq_ok.1 hq).2
    refine ⟨hq, ?_⟩
    split at hnode
    next node' hnode' =>
      cases hnode
      exact hnode'
    next => cases hnode
  · rintro ⟨hq, hnode⟩
    refine ⟨_, hq, ?_⟩
    rw [hnode]

/-! ### Proper trees -/

/-- Is whatever stands in the tree in a directory? -/
def IsProper (tree : FileTree) : Prop :=
  ∀ (p : FilePath) (part : String), tree.node? (p ++ [part]) ≠ none → tree.node? p = some .directory

/-- Is what stands where a name leads found under the name? It need not be if the name steps back out
of a directory that is not there. -/
def IsReached (tree : FileTree) (n : PathName) : Prop :=
  tree.node? n.destination ≠ none → (∀ part ∈ n.parts, part.utf8ByteSize ≤ maxPartSize) →
    tree.follow n.start n.parts = .ok n.destination

theorem isProper_empty : IsProper {} := by
  intro p part hnode
  refine node?_eq_directory_iff.2 (.inl ?_)
  unfold node? at hnode
  split at hnode
  next hsurrounding =>
    unfold FilePath.isSurrounding at hsurrounding ⊢
    rw [Bool.or_eq_true] at hsurrounding ⊢
    rcases hsurrounding with hall | htop
    · rw [List.all_append, Bool.and_eq_true] at hall
      exact .inl hall.1
    · refine .inl ?_
      have hlength := congrArg List.length (of_decide_eq_true htop)
      rw [List.length_append] at hlength
      rw [List.length_eq_zero_iff.1 (Nat.succ.inj hlength : p.length = 0)]
      rfl
  next => simp at hnode

theorem IsProper.node?_of_append (h : tree.IsProper) (hne : parts ≠ [])
    (hnode : tree.node? (p ++ parts) ≠ none) : tree.node? p = some .directory := by
  induction parts generalizing p with
  | nil => exact absurd rfl hne
  | cons part parts ih =>
    cases parts with
    | nil => exact h p part hnode
    | cons part' parts =>
      have hnext : tree.node? (p ++ [part]) = some .directory :=
        ih (List.cons_ne_nil _ _) (by rwa [List.append_assoc])
      exact h p part (by simp [hnext])

theorem foldl_enter (h : ".." ∉ parts) : parts.foldl FilePath.enter p = p ++ parts := by
  induction parts generalizing p with
  | nil => rw [List.append_nil, List.foldl_nil]
  | cons part parts ih =>
    obtain ⟨hpart, hparts⟩ := not_or.1 (mt List.mem_cons.2 h)
    rw [List.foldl_cons, ih hparts, FilePath.enter, if_pos (Ne.symm hpart), List.append_assoc]
    rfl

/-- Parts that do not step back lead to what stands there. -/
theorem IsProper.follow_eq_ok (h : tree.IsProper) (hback : ".." ∉ parts)
    (hsize : ∀ part ∈ parts, part.utf8ByteSize ≤ maxPartSize)
    (hnode : tree.node? (p ++ parts) ≠ none) : tree.follow p parts = .ok (p ++ parts) := by
  induction parts generalizing p with
  | nil => rw [List.append_nil, follow]
  | cons part parts ih =>
    obtain ⟨hpart, hparts⟩ := not_or.1 (mt List.mem_cons.2 hback)
    obtain ⟨hfits, hrest⟩ := List.forall_mem_cons.1 hsize
    have henter : p.enter part = p ++ [part] := if_pos (Ne.symm hpart)
    have hsplit : p ++ part :: parts = p ++ [part] ++ parts := by
      rw [List.append_assoc]
      rfl
    refine follow_cons_eq_ok.2 ⟨h.node?_of_append (List.cons_ne_nil _ _) hnode, hfits, ?_⟩
    rw [henter, hsplit]
    exact ih hparts hrest (hsplit ▸ hnode)

theorem IsProper.isReached (h : tree.IsProper) (hback : ".." ∉ n.parts) : tree.IsReached n := by
  intro hnode hsize
  rw [PathName.destination, foldl_enter hback] at hnode ⊢
  exact h.follow_eq_ok hback hsize hnode

/-- A name that does not step back is reached below one that is. -/
theorem IsProper.isReached_append {m : PathName} (h : tree.IsProper) (hn : tree.IsReached n)
    (hback : ".." ∉ m.parts) : tree.IsReached (n ++ m) := by
  by_cases hlead : m.lead = ""
  · intro hnode hsize
    have happend : n ++ m = { n with parts := n.parts ++ m.parts } := if_pos hlead
    rw [PathName.destination_append n m hlead, foldl_enter hback] at hnode ⊢
    rw [happend] at hsize ⊢
    obtain ⟨hfront, hrest⟩ := List.forall_mem_append.1 hsize
    have hdestination : tree.node? n.destination ≠ none := by
      by_cases hm : m.parts = []
      · rwa [hm, List.append_nil] at hnode
      · rw [h.node?_of_append hm hnode]
        simp
    exact (follow_append_eq_ok (hn hdestination hfront)).trans (h.follow_eq_ok hback hrest hnode)
  · have happend : n ++ m = m := if_neg hlead
    rw [happend]
    exact h.isReached hback

/-! ### What writing changes -/

/-- One tree after another that differs at some places only: directories stay, and so do files
elsewhere. -/
structure Changes (places : Set FilePath) (tree tree' : FileTree) : Prop where
  directory : ∀ p, tree.node? p = some .directory → tree'.node? p = some .directory
  file : ∀ p ∉ places, tree'.files.lookup p = tree.files.lookup p

namespace Changes

variable {places places' : Set FilePath} {tree'' : FileTree}

theorem refl (places : Set FilePath) (tree : FileTree) : Changes places tree tree :=
  ⟨fun _ h => h, fun _ _ => rfl⟩

theorem trans (h : Changes places tree tree') (h' : Changes places tree' tree'') :
    Changes places tree tree'' :=
  ⟨fun p hp => h'.directory p (h.directory p hp), fun p hp => (h'.file p hp).trans (h.file p hp)⟩

theorem mono (h : Changes places tree tree') (hsub : places ⊆ places') :
    Changes places' tree tree' :=
  ⟨h.directory, fun p hp => h.file p fun hmem => hp (hsub hmem)⟩

theorem node?_file (h : Changes places tree tree') (hp : p ∉ places) :
    tree'.node? p = some (.file text) ↔ tree.node? p = some (.file text) := by
  rw [node?_eq_file_iff, node?_eq_file_iff, h.file p hp]

/-- What can be followed before the change is followed alike after it, and fails alike for length. -/
theorem follow_eq_or (h : Changes places tree tree') : tree'.follow p parts = tree.follow p parts ∨
    tree.follow p parts = .error .notFound ∨ tree.follow p parts = .error .notADirectory := by
  induction parts generalizing p with
  | nil => exact .inl rfl
  | cons part parts ih =>
    rw [follow, follow]
    cases hnode : tree.node? p with
    | none => exact .inr (.inl rfl)
    | some node =>
      cases node with
      | file t => exact .inr (.inr rfl)
      | directory =>
        rw [h.directory p hnode]
        by_cases hsize : part.utf8ByteSize > maxPartSize
        · simp only [hsize, if_true, true_or]
        · simpa only [hsize, if_false] using ih

theorem locate_eq_or (h : Changes places tree tree') : tree'.locate n = tree.locate n ∨
    tree.locate n = .error .notFound ∨ tree.locate n = .error .notADirectory := by
  unfold locate
  cases checkName n with
  | error e => exact .inl rfl
  | ok _ => exact h.follow_eq_or

theorem locate_of_eq_ok (h : Changes places tree tree') (hq : tree.locate n = .ok q) :
    tree'.locate n = .ok q := by
  have hor := h.locate_eq_or (n := n)
  rwa [hq, or_iff_left (by simp)] at hor

/-- **What a name elsewhere leads to** before the change it leads to after it. -/
theorem lookup_eq_or (h : Changes places tree tree') (hn : n.destination ∉ places) :
    tree'.lookup n = tree.lookup n ∨
      tree.lookup n = .error .notFound ∨ tree.lookup n = .error .notADirectory := by
  unfold lookup
  rcases h.locate_eq_or (n := n) with heq | heq | heq
  · rw [heq]
    cases hlocate : tree.locate n with
    | error e => exact .inl rfl
    | ok q =>
      obtain rfl : q = n.destination := eq_of_follow (locate_eq_ok.1 hlocate).2
      simp only [bind, Except.bind]
      cases hnode : tree.node? n.destination with
      | none => exact .inr (.inl rfl)
      | some node =>
        cases node with
        | file t => rw [(h.node?_file hn).2 hnode]; exact .inl rfl
        | directory => rw [h.directory _ hnode]; exact .inl rfl
  · rw [heq]
    exact .inr (.inl rfl)
  · rw [heq]
    exact .inr (.inr rfl)

theorem lookup_of_eq_ok (h : Changes places tree tree') (hn : n.destination ∉ places)
    {node : FileNode} (hnode : tree.lookup n = .ok node) : tree'.lookup n = .ok node := by
  have hor := h.lookup_eq_or hn
  rwa [hnode, or_iff_left (by simp)] at hor

end Changes

/-! ### Writing a file -/

theorem addDirectory_changes (tree : FileTree) (p : FilePath) :
    Changes ∅ tree { tree with directories := tree.directories ++ [p] } := by
  refine ⟨fun q hq => ?_, fun q _ => rfl⟩
  rw [node?_eq_directory_iff] at hq ⊢
  exact hq.imp_right fun ⟨hnone, hmem⟩ => ⟨hnone, List.mem_append_left _ hmem⟩

theorem makeWithin_changes {made : Bool} (h : tree.makeWithin made p parts = .ok tree') :
    Changes ∅ tree tree' := by
  induction parts generalizing tree made p with
  | nil =>
    cases h
    exact .refl _ _
  | cons part parts ih =>
    rw [makeWithin] at h
    split at h
    · cases h
    · split at h
      · exact ih h
      · cases h
      · exact (addDirectory_changes tree _).trans (ih h)

/-- Making directories on a way that can be followed leaves the tree as it is. -/
theorem makeWithin_of_follow {made : Bool} (h : tree.follow p (parts ++ [part]) = .ok q) :
    tree.makeWithin made p parts = .ok tree := by
  induction parts generalizing p with
  | nil => rfl
  | cons next parts ih =>
    obtain ⟨-, hsize, hrest⟩ := follow_cons_eq_ok.1 h
    have hnode : tree.node? (p.enter next) = some .directory := by
      cases parts with
      | nil => exact (follow_cons_eq_ok.1 hrest).1
      | cons _ _ => exact (follow_cons_eq_ok.1 hrest).1
    rw [makeWithin, if_neg (Nat.not_lt.2 hsize), hnode]
    exact ih hrest

theorem lookup_map_set (files : List (FilePath × String)) :
    (files.map fun f => if f.1 = q then (q, text) else f).lookup p =
      if p = q ∧ files.any (·.1 == q) then some text else files.lookup p := by
  induction files with
  | nil => simp
  | cons f files ih =>
    obtain ⟨key, t⟩ := f
    rw [List.map_cons, List.any_cons]
    by_cases hkey : key = q
    · subst hkey
      by_cases hp : p = key
      · simp [hp]
      · have hne : (p == key) = false := beq_eq_false_iff_ne.2 hp
        simp [hp, hne, List.lookup_cons, ih]
    · have hother : (key == q) = false := beq_eq_false_iff_ne.2 hkey
      by_cases hp : p = key
      · simp [hp, hkey]
      · have hne : (p == key) = false := beq_eq_false_iff_ne.2 hp
        rw [hother, Bool.false_or]
        simp [hkey, hne, List.lookup_cons, ih]

theorem lookup_setFile : (tree.setFile q text).files.lookup p =
    if p = q then some text else tree.files.lookup p := by
  unfold setFile
  split
  next hany => simp [lookup_map_set, hany]
  next hnone =>
    simp only [List.lookup_append, List.lookup_cons]
    by_cases hp : p = q
    · have hlookup : tree.files.lookup q = none := by
        rw [List.lookup_eq_none_iff]
        intro f hf
        rw [bne_iff_ne]
        rintro rfl
        exact hnone (List.any_eq_true.2 ⟨f, hf, beq_self_eq_true _⟩)
      simp [hp, hlookup]
    · have hne : (p == q) = false := beq_eq_false_iff_ne.2 hp
      simp [hp, hne]

theorem directories_setFile : (tree.setFile q text).directories = tree.directories := by
  unfold setFile
  split <;> rfl

theorem setFile_changes (h : tree.node? q ≠ some .directory) :
    Changes {q} tree (tree.setFile q text) := by
  have hfile : ∀ p ∉ ({q} : Set FilePath),
      (tree.setFile q text).files.lookup p = tree.files.lookup p :=
    fun p hp => lookup_setFile.trans (if_neg hp)
  refine ⟨fun p hp => ?_, hfile⟩
  have hne : p ≠ q := by
    rintro rfl
    exact h hp
  rw [node?_eq_directory_iff] at hp ⊢
  rwa [hfile p hne, directories_setFile]

theorem write_eq_ok : tree.write n text = .ok tree' ↔
    ∃ made, tree.makeDirectory n.parent = .ok made ∧ made.locate n = .ok n.destination ∧
      made.node? n.destination ≠ some .directory ∧ tree' = made.setFile n.destination text := by
  unfold write writeFile
  rw [bind_eq_ok]
  refine exists_congr fun made => and_congr_right fun _ => ?_
  rw [bind_eq_ok]
  constructor
  · rintro ⟨q, hq, hset⟩
    obtain rfl : q = n.destination := eq_of_follow (locate_eq_ok.1 hq).2
    split at hset
    · cases hset
    next hnode => exact ⟨hq, hnode, (pure_eq_ok.1 hset).symm⟩
  · rintro ⟨hq, hnode, rfl⟩
    exact ⟨_, hq, by rw [if_neg hnode]; rfl⟩

theorem makeDirectory_eq_ok : tree.makeDirectory n = .ok tree' ↔
    checkName n = .ok () ∧ tree.makeWithin false n.start n.parts = .ok tree' := by
  unfold makeDirectory
  rw [bind_eq_ok]
  exact ⟨fun ⟨_, hcheck, hmake⟩ => ⟨hcheck, hmake⟩, fun ⟨hcheck, hmake⟩ => ⟨_, hcheck, hmake⟩⟩

theorem write_changes (h : tree.write n text = .ok tree') : Changes {n.destination} tree tree' := by
  obtain ⟨made, hmake, -, hnode, rfl⟩ := write_eq_ok.1 h
  have hmade := makeWithin_changes (makeDirectory_eq_ok.1 hmake).2
  exact (hmade.mono (Set.empty_subset _)).trans (setFile_changes hnode)

/-- What was written is what the name leads to. -/
theorem lookup_of_write (h : tree.write n text = .ok tree') : tree'.lookup n = .ok (.file text) := by
  obtain ⟨made, -, hlocate, hnode, rfl⟩ := write_eq_ok.1 h
  refine lookup_eq_ok.2 ⟨(setFile_changes hnode).locate_of_eq_ok hlocate, ?_⟩
  refine node?_eq_file_iff.2 ⟨?_, lookup_setFile.trans (if_pos rfl)⟩
  by_contra hsurrounding
  exact hnode (node?_eq_directory_iff.2 (.inl (by simpa using hsurrounding)))

theorem checkName_eq_ok :
    checkName n = .ok () ↔ '\x00' ∉ n.text.toList ∧ n.text.utf8ByteSize ≤ maxNameSize := by
  unfold checkName
  split
  · simp [*]
  · split
    · simp [*]
    · simp [*, Nat.le_of_not_gt]

theorem checkName_parent (h : checkName n = .ok ()) : checkName n.parent = .ok () := by
  obtain ⟨hnull, hsize⟩ := checkName_eq_ok.1 h
  refine checkName_eq_ok.2 ?_
  rcases n.text_parent with hdot | ⟨s, htext⟩
  · rw [hdot]
    decide
  · rw [htext, String.toList_append, List.mem_append, not_or] at hnull
    rw [htext, String.utf8ByteSize_append] at hsize
    exact ⟨hnull.1, by omega⟩

/-- A file that is there can be written. -/
theorem exists_write_of_lookup {t : String} (h : tree.lookup n = .ok (.file t)) :
    ∃ tree', tree.write n text = .ok tree' := by
  obtain ⟨hlocate, hnode⟩ := lookup_eq_ok.1 h
  obtain ⟨hcheck, hfollow⟩ := locate_eq_ok.1 hlocate
  rcases n.parts.eq_nil_or_concat with hparts | ⟨parts, part, hparts⟩
  · rw [PathName.destination, hparts] at hnode
    simp [node?_start] at hnode
  · rw [hparts] at hfollow
    have hmake : tree.makeDirectory n.parent = .ok tree := by
      refine makeDirectory_eq_ok.2 ⟨checkName_parent hcheck, ?_⟩
      rw [PathName.parent, hparts, List.concat_eq_append, List.dropLast_concat]
      exact makeWithin_of_follow (List.concat_eq_append ▸ hfollow)
    exact ⟨_, write_eq_ok.2 ⟨tree, hmake, hlocate, by simp [hnode], rfl⟩⟩

/-! ### Proper trees stay proper -/

namespace IsProper

/-- Where there is no directory one step from a directory, the step leads into it. -/
theorem enter_eq (h : tree.IsProper) (hp : tree.node? p = some .directory)
    (hnode : tree.node? (p.enter part) ≠ some .directory) : p.enter part = p ++ [part] := by
  unfold FilePath.enter at hnode ⊢
  split
  · rfl
  next hpart =>
    rw [if_neg hpart] at hnode
    split at hnode
    · exact absurd hp hnode
    split at hnode
    next hdots =>
      refine absurd (node?_eq_directory_iff.2 (.inl ?_)) hnode
      rw [FilePath.isSurrounding, List.all_append, hdots]
      rfl
    next hdots =>
      rcases p.eq_nil_or_concat with rfl | ⟨parents, last, rfl⟩
      · exact absurd rfl hdots
      · rw [List.concat_eq_append] at hp hnode
        rw [List.dropLast_concat] at hnode
        exact absurd (h parents last (by simp [hp])) hnode

/-- A tree stays proper if something new comes into a directory. -/
theorem of_changes {places : Set FilePath} (h : tree.IsProper)
    (hchanges : Changes places tree tree') (hp : tree.node? p = some .directory)
    (hplace : place = p ++ [part])
    (hnone : ∀ q ≠ place, tree.node? q = none → tree'.node? q = none) : tree'.IsProper := by
  intro q part' hnode
  by_cases hq : q ++ [part'] = place
  · rw [(List.append_inj' (hq.trans hplace) rfl).1]
    exact hchanges.directory p hp
  · exact hchanges.directory q (h q part' fun hempty => hnode (hnone _ hq hempty))

theorem makeWithin {made : Bool} (h : tree.IsProper) (hp : tree.node? p = some .directory)
    (hmake : tree.makeWithin made p parts = .ok tree') : tree'.IsProper := by
  induction parts generalizing tree made p with
  | nil =>
    cases hmake
    exact h
  | cons part parts ih =>
    rw [FileTree.makeWithin] at hmake
    split at hmake
    · cases hmake
    · split at hmake
      next hnode => exact ih h hnode hmake
      · cases hmake
      next hnode =>
        have henter := h.enter_eq hp (by simp [hnode] : tree.node? (p.enter part) ≠ _)
        refine ih (h.of_changes (addDirectory_changes tree _) hp henter fun q hq hempty => ?_) ?_
          hmake
        · rw [node?_eq_none_iff] at hempty ⊢
          obtain ⟨hinside, hfile, hdirectory⟩ := hempty
          refine ⟨hinside, hfile, fun hmem => ?_⟩
          rcases List.mem_append.1 hmem with hmem | hmem
          · exact hdirectory hmem
          · exact hq (List.mem_singleton.1 hmem)
        · refine node?_eq_directory_iff.2 (.inr ⟨(node?_eq_none_iff.1 hnode).2.1, ?_⟩)
          exact List.mem_append_right _ (List.mem_singleton_self _)

theorem setFile (h : tree.IsProper) (hlocate : tree.locate n = .ok q)
    (hnode : tree.node? q ≠ some .directory) : (tree.setFile q text).IsProper := by
  obtain ⟨-, hfollow⟩ := locate_eq_ok.1 hlocate
  rcases n.parts.eq_nil_or_concat with hparts | ⟨parts, part, hparts⟩
  · rw [hparts] at hfollow
    cases hfollow
    exact absurd node?_start hnode
  · rw [hparts, List.concat_eq_append] at hfollow
    obtain ⟨p, hp, rfl⟩ := exists_of_follow_concat hfollow
    refine h.of_changes (setFile_changes hnode) hp (h.enter_eq hp hnode) fun q hq hempty => ?_
    rw [node?_eq_none_iff] at hempty ⊢
    rwa [lookup_setFile, if_neg hq, directories_setFile]

/-- **Writing a file leaves a tree proper.** -/
theorem write (h : tree.IsProper) (hwrite : tree.write n text = .ok tree') : tree'.IsProper := by
  obtain ⟨made, hmake, hlocate, hnode, rfl⟩ := write_eq_ok.1 hwrite
  have hmade := h.makeWithin node?_start (makeDirectory_eq_ok.1 hmake).2
  exact hmade.setFile hlocate hnode

end IsProper

end FileTree

end Mapsmith
