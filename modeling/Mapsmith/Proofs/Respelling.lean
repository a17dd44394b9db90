import Mapsmith.Naming

/-!
# Respelling once is enough

A name that has been respelled by a strategy is respelled to itself. All that this asks of letter case
is that what lowering gives is low: every character of it lowers to itself, wherever it stands, and no
capital letter of the basic alphabet is left, so that no word begins in it any more. The table of lower
case has the first property since no run of it maps a character onto one that a run maps
(`Mapsmith.Text.lowerChar_of_mem`), and the capital sigma, the one letter whose lower case depends on
its place, is never the lower case of anything. What respelling a name of the basic alphabet by words
changes, beside case, is separators only (`Mapsmith.NamingStrategy.letters_convertChars`).
-/

namespace Mapsmith

namespace Text

/-! ### Runs of a case table -/

/-- The least image of a run. -/
def CaseRun.low (r : CaseRun) : Nat :=
  (Int.ofNat r.first + r.shift).toNat

/-- The greatest image of a run. -/
def CaseRun.high (r : CaseRun) : Nat :=
  (Int.ofNat r.last + r.shift).toNat

/-- **Does a run map nothing onto what another one maps?** Its images lie ahead of the other run, behind
it, or in the gaps that the other one leaves. -/
def CaseRun.misses (r s : CaseRun) : Bool :=
  Nat.blt r.high s.first || Nat.blt s.last r.low ||
    ((r.first == r.last || r.step % s.step == 0) && r.low % s.step != s.first % s.step)

/-- Does a run map to characters only, and to none that is lowered for another reason: a capital letter
of the basic alphabet or the dotted capital I? -/
def CaseRun.isLow (r : CaseRun) : Bool :=
  0x5B ≤ r.low && (r.high < 0xD800 || 0xE000 ≤ r.low && r.high < 0x110000) &&
    (r.high < 0x130 || 0x130 < r.low)

section Runs

variable {r s : CaseRun} {n : Nat}

theorem CaseRun.covers_iff :
    r.covers n = true ↔ r.first ≤ n ∧ n ≤ r.last ∧ (n - r.first) % r.step = 0 := by
  simp [covers, and_assoc]

/-- The images of a run keep the distances. -/
theorem CaseRun.shifted_eq (hlow : 0 < r.low) (hn : r.first ≤ n) :
    (Int.ofNat n + r.shift).toNat = r.low + (n - r.first) := by
  unfold low at hlow ⊢
  simp only [Int.ofNat_eq_natCast] at hlow ⊢
  omega

theorem CaseRun.shifted_le (hlow : 0 < r.low) (hn : r.covers n = true) :
    r.low + (n - r.first) ≤ r.high := by
  obtain ⟨hfirst, hlast, -⟩ := covers_iff.1 hn
  unfold low at hlow ⊢
  unfold high
  simp only [Int.ofNat_eq_natCast] at hlow ⊢
  omega

theorem CaseRun.not_covers_of_misses (hlow : 0 < r.low) (hn : r.covers n = true)
    (h : r.misses s = true) : s.covers (r.low + (n - r.first)) = false := by
  have hhigh := shifted_le hlow hn
  obtain ⟨hfirst, hlast, hstep⟩ := covers_iff.1 hn
  rw [← Bool.not_eq_true, covers_iff]
  rintro ⟨hfirst', hlast', hstep'⟩
  simp only [misses, Bool.or_eq_true, Nat.blt_eq, Bool.and_eq_true, beq_iff_eq, bne_iff_ne] at h
  rcases h with (hahead | hbehind) | ⟨hgaps, hresidue⟩
  · omega
  · omega
  · -- all images have the residue of the least one, and what the other run maps has another residue
    have hdistance : s.step ∣ n - r.first := by
      rcases hgaps with hone | hdvd
      · have hzero : n - r.first = 0 := by omega
        rw [hzero]
        exact Nat.dvd_zero _
      · exact Nat.dvd_trans (Nat.dvd_of_mod_eq_zero hdvd) (Nat.dvd_of_mod_eq_zero hstep)
    have hmod : (r.low + (n - r.first)) % s.step = r.low % s.step := by
      obtain ⟨k, hk⟩ := hdistance
      rw [hk, Nat.add_mul_mod_self_left]
    have hmod' : (r.low + (n - r.first)) % s.step = s.first % s.step := by
      obtain ⟨k, hk⟩ := Nat.dvd_of_mod_eq_zero hstep'
      have hsum : r.low + (n - r.first) = s.first + s.step * k := by omega
      rw [hsum, Nat.add_mul_mod_self_left]
    exact hresidue (hmod.symm.trans hmod')

end Runs

/-! ### Lower case -/

theorem isLow_lowerRuns : lowerRuns.all CaseRun.isLow = true := by decide +kernel

/-- No run of the table maps anything onto what a run of it maps. -/
theorem misses_lowerRuns : (lowerRuns.all fun r => lowerRuns.all r.misses) = true := by decide +kernel

theorem toNat_ofNat {n : Nat} (h : n.isValidChar) : (Char.ofNat n).toNat = n := by
  rw [Char.ofNat, dif_pos h]
  rfl

/-- A property of characters that those of the basic alphabet have, checked one by one. -/
theorem forall_basic {p : Char → Prop} (hall : ∀ n < 0x80, p (Char.ofNat n)) {c : Char}
    (h : c.toNat < 0x80) : p c :=
  Char.ofNat_toNat c ▸ hall c.toNat h

theorem toLower_toLower {c : Char} (h : c.toNat < 0x80) :
    c.toLower.toLower = c.toLower ∧ c.toLower.toNat < 0x80 :=
  forall_basic (p := fun c => c.toLower.toLower = c.toLower ∧ c.toLower.toNat < 0x80) (by decide) h

theorem toLower_eq_self {c : Char} (h : c.toNat < 0x80) (hbehind : 0x5B ≤ c.toNat) : c.toLower = c :=
  forall_basic (p := fun c => 0x5B ≤ c.toNat → c.toLower = c) (by decide) h hbehind

/-- What a run of the table maps to lowers to itself. -/
theorem lowerChar_image {r : CaseRun} {n : Nat} (hr : r ∈ lowerRuns) (hn : r.covers n = true) :
    lowerChar (Char.ofNat (Int.ofNat n + r.shift).toNat) =
      [Char.ofNat (Int.ofNat n + r.shift).toNat] := by
  have hlow := List.all_eq_true.1 isLow_lowerRuns r hr
  simp only [CaseRun.isLow, Bool.and_eq_true, Bool.or_eq_true, decide_eq_true_eq] at hlow
  obtain ⟨⟨hbasic, hvalid⟩, hdotted⟩ := hlow
  have hpos : 0 < r.low := by omega
  have hhigh := CaseRun.shifted_le hpos hn
  rw [CaseRun.shifted_eq hpos (CaseRun.covers_iff.1 hn).1]
  have hnone : lowerRuns.find? (·.covers (r.low + (n - r.first))) = none := by
    rw [List.find?_eq_none]
    intro s hs
    rw [CaseRun.not_covers_of_misses hpos hn
      (List.all_eq_true.1 (List.all_eq_true.1 misses_lowerRuns r hr) s hs)]
    exact Bool.false_ne_true
  generalize hm : r.low + (n - r.first) = m at hhigh hnone ⊢
  have hchar : (Char.ofNat m).toNat = m := toNat_ofNat <| by
    rw [Nat.isValidChar]
    omega
  rw [lowerChar, hchar]
  split
  next h =>
    rw [toLower_eq_self (hchar.symm ▸ h) (by rw [hchar]; omega)]
  next h =>
    have hother : Char.ofNat m ≠ 'İ' := by
      intro heq
      have hcode : m = 0x130 := by rw [← hchar, heq]; rfl
      omega
    rw [if_neg hother, shiftBy, hnone]

/-- **What lowering a character gives lowers to itself.** -/
theorem lowerChar_of_mem {c d : Char} (h : d ∈ lowerChar c) : lowerChar d = [d] := by
  unfold lowerChar at h
  split at h
  next hbasic =>
    obtain rfl := List.mem_singleton.1 h
    obtain ⟨hfixed, hbasic⟩ := toLower_toLower hbasic
    rw [lowerChar, if_pos hbasic, hfixed]
  · split at h
    · rcases List.mem_cons.1 h with rfl | h
      · decide +kernel
      · obtain rfl := List.mem_singleton.1 h
        decide +kernel
    next hbasic hdotted =>
      obtain rfl := List.mem_singleton.1 h
      unfold shiftBy
      split
      next r hfind =>
        have hcovers : r.covers c.toNat = true :=
      List.find?_some (p := fun r : CaseRun => r.covers c.toNat) hfind
        exact lowerChar_image (List.mem_of_find?_eq_some hfind) hcovers
      next hfind =>
        rw [Char.ofNat_toNat, lowerChar, if_neg hbasic, if_neg hdotted, shiftBy, hfind, Char.ofNat_toNat]

/-- Are all characters of a text such that they lower to themselves? -/
def IsLowered (cs : List Char) : Prop :=
  ∀ c ∈ cs, lowerChar c = [c]

/-- A small letter of Greek that stands for a capital sigma lowers to itself as well. -/
theorem isLowered_lowerAfter (cs : List Char) : ∀ before, IsLowered (lowerAfter before cs) := by
  induction cs with
  | nil => exact fun _ => List.forall_mem_nil _
  | cons c cs ih =>
    intro before
    rw [lowerAfter]
    refine List.forall_mem_append.2 ⟨?_, ih (c :: before)⟩
    split
    · refine List.forall_mem_singleton.2 ?_
      split <;> decide +kernel
    · exact fun d => lowerChar_of_mem

/-- **What is lowered is low.** -/
theorem isLowered_lower (cs : List Char) : IsLowered (lower cs) :=
  isLowered_lowerAfter cs []

theorem lowerChar_ne_nil (c : Char) : lowerChar c ≠ [] := by
  unfold lowerChar
  split
  · exact List.cons_ne_nil _ _
  · split <;> exact List.cons_ne_nil _ _

theorem lower_ne_nil {cs : List Char} (h : cs ≠ []) : lower cs ≠ [] := by
  cases cs with
  | nil => exact absurd rfl h
  | cons c cs =>
    rw [lower, lowerAfter]
    split
    · exact List.cons_ne_nil _ _
    · exact List.append_ne_nil_of_left_ne_nil (lowerChar_ne_nil c) _

/-- **What is low stays as it is**, wherever its characters stand. -/
theorem lower_eq_self {cs : List Char} (h : IsLowered cs) : lower cs = cs := by
  have hafter : ∀ before, lowerAfter before cs = cs := by
    induction cs with
    | nil => exact fun _ => rfl
    | cons c cs ih =>
      obtain ⟨hc, hcs⟩ := List.forall_mem_cons.1 h
      intro before
      have hsigma : c ≠ 'Σ' := by
        rintro rfl
        exact absurd hc (by decide +kernel)
      rw [lowerAfter, if_neg hsigma, hc, ih hcs, List.singleton_append]
  exact hafter []

theorem basic_of_isUpper {c : Char} (h : c.isUpper = true) : c.toNat < 0x80 := by
  have hle : c.val ≤ 'Z'.val := (of_decide_eq_true h).2
  rw [UInt32.le_iff_toNat_le] at hle
  exact Nat.lt_of_le_of_lt hle (by decide)

/-- What is low holds no capital letter of the basic alphabet. -/
theorem isUpper_eq_false {c : Char} (h : lowerChar c = [c]) : c.isUpper = false := by
  rw [← Bool.not_eq_true]
  intro hupper
  have hbasic := basic_of_isUpper hupper
  rw [lowerChar, if_pos hbasic, List.singleton_inj] at h
  exact forall_basic (p := fun c => c.isUpper = true → c.toLower ≠ c) (by decide) hbasic hupper h

/-- Lowering a text of the basic alphabet lowers its characters one by one. -/
theorem lower_eq_map {cs : List Char} (h : ∀ c ∈ cs, c.toNat < 0x80) :
    lower cs = cs.map Char.toLower := by
  have hafter : ∀ before, lowerAfter before cs = cs.map Char.toLower := by
    induction cs with
    | nil => exact fun _ => rfl
    | cons c cs ih =>
      obtain ⟨hc, hcs⟩ := List.forall_mem_cons.1 h
      intro before
      have hsigma : c ≠ 'Σ' := by
        rintro rfl
        exact absurd hc (by decide)
      rw [lowerAfter, if_neg hsigma, lowerChar, if_pos hc, ih hcs, List.singleton_append, List.map_cons]
  exact hafter []

end Text

/-! ### Words -/

theorem separateWords_eq_self {separator : Char} {cs : List Char} (h : ∀ c ∈ cs, c.isUpper = false) :
    separateWords separator cs = cs := by
  induction cs using separateWords.induct with
  | case1 a b rest hbegins =>
    have hb : b.isUpper = false := h b (by simp)
    rw [beginsWord, hb] at hbegins
    cases hbegins
  | case2 a b rest hnot ih =>
    rw [separateWords, if_neg hnot, ih (List.forall_mem_cons.1 h).2]
  | case3 cs hshort => rw [separateWords]; exact hshort

theorem mem_separateWords {separator c : Char} {cs : List Char} (h : c ∈ separateWords separator cs) :
    c = separator ∨ c ∈ cs := by
  induction cs using separateWords.induct with
  | case1 a b rest hbegins ih =>
    rw [separateWords, if_pos hbegins] at h
    rcases List.mem_cons.1 h with rfl | h
    · exact .inr List.mem_cons_self
    · rcases List.mem_cons.1 h with rfl | h
      · exact .inl rfl
      · exact (ih h).imp_right (List.mem_cons_of_mem a)
  | case2 a b rest hnot ih =>
    rw [separateWords, if_neg hnot] at h
    rcases List.mem_cons.1 h with rfl | h
    · exact .inr List.mem_cons_self
    · exact (ih h).imp_right (List.mem_cons_of_mem a)
  | case3 cs hshort =>
    rw [separateWords] at h
    · exact .inr h
    · exact hshort

/-- Separating words adds separators only. -/
theorem filter_separateWords {separator : Char} {p : Char → Bool} (hp : p separator = false)
    (cs : List Char) : (separateWords separator cs).filter p = cs.filter p := by
  induction cs using separateWords.induct with
  | case1 a b rest hbegins ih =>
    rw [separateWords, if_pos hbegins, List.filter_cons, List.filter_cons_of_neg (by simp [hp]), ih,
      List.filter_cons (x := a)]
  | case2 a b rest hnot ih =>
    rw [separateWords, if_neg hnot, List.filter_cons, ih, List.filter_cons (x := a)]
  | case3 cs hshort =>
    rw [separateWords]
    exact hshort

/-- A text in lower case is one word. -/
theorem lowerWords_eq_self {separator : Char} {cs : List Char} (h : Text.IsLowered cs) :
    lowerWords separator cs = cs := by
  rw [lowerWords, separateWords_eq_self fun c hc => Text.isUpper_eq_false (h c hc), Text.lower_eq_self h]

/-- The characters of a text that separate no words. -/
def letters (cs : List Char) : List Char :=
  cs.filter fun c => c ≠ '_' && c ≠ '-'

/-- Respelling by words changes, beside case, separators only. -/
theorem letters_lowerWords {separator : Char} {cs : List Char} (h : ∀ c ∈ cs, c.toNat < 0x80)
    (hseparator : separator = '_' ∨ separator = '-') :
    letters (lowerWords separator cs) = letters (Text.lower cs) := by
  have hbasic : ∀ c ∈ separateWords separator cs, c.toNat < 0x80 := by
    intro c hc
    rcases mem_separateWords hc with rfl | hc
    · rcases hseparator with rfl | rfl <;> decide
    · exact h c hc
  have hkept : ∀ c : Char, c.toNat < 0x80 →
      (c.toLower ≠ '_' && c.toLower ≠ '-') = (c ≠ '_' && c ≠ '-') := fun c =>
    Text.forall_basic (p := fun c => (c.toLower ≠ '_' && c.toLower ≠ '-') = (c ≠ '_' && c ≠ '-'))
      (by decide)
  calc letters (lowerWords separator cs)
      = letters ((separateWords separator cs).map Char.toLower) := by
        rw [lowerWords, Text.lower_eq_map hbasic]
    _ = (letters (separateWords separator cs)).map Char.toLower := by
        rw [letters, List.filter_map, letters]
        exact congrArg _ (List.filter_congr fun c hc => hkept c (hbasic c hc))
    _ = (letters cs).map Char.toLower := by
        rw [letters, filter_separateWords (by rcases hseparator with rfl | rfl <;> decide), letters]
    _ = letters (cs.map Char.toLower) := by
        rw [letters, letters, List.filter_map]
        exact congrArg _ (List.filter_congr fun c hc => (hkept c (h c hc)).symm)
    _ = letters (Text.lower cs) := by rw [Text.lower_eq_map h]

/-! ### Strategies -/

namespace NamingStrategy

theorem isLowered_hyphens {cs : List Char} (h : Text.IsLowered cs) :
    Text.IsLowered (cs.map fun c => if c = '_' then '-' else c) := by
  intro d hd
  obtain ⟨c, hc, rfl⟩ := List.mem_map.1 hd
  split
  · decide +kernel
  · exact h c hc

/-- Words that are respelled are in lower case. -/
theorem isLowered_convertChars {s : NamingStrategy} (hs : s = underscore ∨ s = hyphen) (cs : List Char) :
    Text.IsLowered (s.convertChars cs) := by
  rcases hs with rfl | rfl
  · exact Text.isLowered_lower _
  · exact isLowered_hyphens (Text.isLowered_lower _)

/-- **Respelling twice is respelling once.** -/
theorem convertChars_convertChars (s : NamingStrategy) (cs : List Char) :
    s.convertChars (s.convertChars cs) = s.convertChars cs := by
  cases s with
  | identity => rfl
  | lowerFirst =>
    cases cs with
    | nil => rfl
    | cons c cs =>
      rw [convertChars]
      cases hlow : Text.lower [c] with
      | nil => exact absurd hlow (Text.lower_ne_nil (List.cons_ne_nil c []))
      | cons d ds =>
        have hd : Text.IsLowered [d] :=
          List.forall_mem_singleton.2 (Text.isLowered_lower [c] d (hlow ▸ List.mem_cons_self))
        rw [List.cons_append, convertChars, Text.lower_eq_self hd, List.singleton_append]
  | underscore => exact lowerWords_eq_self (isLowered_convertChars (.inl rfl) cs)
  | hyphen =>
    rw [convertChars, lowerWords_eq_self (isLowered_convertChars (.inr rfl) cs), convertChars, List.map_map]
    refine List.map_congr_left fun c _ => ?_
    by_cases hc : c = '_'
    · simp [hc]
    · simp [hc]

theorem letters_hyphens (cs : List Char) :
    letters (cs.map fun c => if c = '_' then '-' else c) = letters cs := by
  induction cs with
  | nil => rfl
  | cons c cs ih =>
    rw [letters] at ih ⊢
    by_cases hc : c = '_'
    · simpa [hc, letters] using ih
    · rw [List.map_cons, if_neg hc, List.filter_cons, ih, letters, letters, List.filter_cons]

theorem letters_convertChars {s : NamingStrategy} (hs : s = underscore ∨ s = hyphen) {cs : List Char}
    (h : ∀ c ∈ cs, c.toNat < 0x80) : letters (s.convertChars cs) = letters (Text.lower cs) := by
  rcases hs with rfl | rfl
  · exact letters_lowerWords h (.inl rfl)
  · rw [convertChars, letters_hyphens, letters_lowerWords h (.inr rfl)]

/-- **A respelled name is respelled to itself**, by every strategy. A strategy that cuts words leaves no
capital letter of the basic alphabet, and in a name of that alphabet nothing changes but case and
separators. So the fragments that names of routines are made of stay as they are when types are called
by them. -/
theorem respelled_once (s : NamingStrategy) (x : String) :
    s.convert (s.convert x) = s.convert x ∧
    (s = underscore ∨ s = hyphen → (∀ c ∈ (s.convert x).toList, c.isUpper = false) ∧
      ((∀ c ∈ x.toList, c.toNat < 0x80) →
        letters (s.convert x).toList = letters (Text.lower x.toList))) ∧
    RoutineName.fragment (RoutineName.fragment x) = RoutineName.fragment x := by
  have hstable (s : NamingStrategy) : s.convert (s.convert x) = s.convert x := by
    rw [convert, convert, String.toList_ofList, convertChars_convertChars]
  refine ⟨hstable s, fun hs => ?_, hstable underscore⟩
  rw [convert, String.toList_ofList]
  exact ⟨fun c hc => Text.isUpper_eq_false (isLowered_convertChars hs x.toList c hc),
    letters_convertChars hs⟩

/-- Words of all kinds: an acronym ahead of a word, digits, separators that stand there already, and at
the end a capital sigma, whose lower case depends on its place. -/
theorem respelled_once_server :
    hyphen.convert "HTTPServer_v2Go-ΟΔΟΣ" = "http-server-v2-go-οδος" ∧
    hyphen.convert (hyphen.convert "HTTPServer_v2Go-ΟΔΟΣ") = hyphen.convert "HTTPServer_v2Go-ΟΔΟΣ" ∧
    letters (underscore.convert "HTTPServer_v2Go").toList =
      letters (Text.lower "HTTPServer_v2Go".toList) :=
  ⟨by decide +kernel, (respelled_once hyphen _).1,
    ((respelled_once underscore "HTTPServer_v2Go").2.1 (.inl rfl)).2 (by simp)⟩

end NamingStrategy

end Mapsmith
