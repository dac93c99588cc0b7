/-
  PlotTypes.Proofs.Python.ClassName — which names have the same class name, and which class
  names Python takes.

  The derivation cuts a name into words and joins them with a capital each, so it forgets
  where words were cut and how they began. What it forgets is said without it: `Respelling` has
  one rule for each way to bring a name closer to its class name, and two names are
  `SpeltAlike` when both can be respelt into a third one.
  - `className_eq_iff`: two names have one class name exactly when they are spelt alike.
  - `underscore_mem_of_speltAlike`: where the lower case of two words that are spelt alike tells
    them apart, one of them has an underscore.
  - `isKeyword_className_iff`: three keywords have a capital, and only names that are spelt like
    one of them give a keyword.
  - `isWord_className_iff`: the class name of a word is a word exactly when a letter comes first.
-/

import Mathlib.Logic.Relation
import PlotTypes.Proofs.Python.Word

namespace PlotTypes.Python

open PlotTypes.Text

variable {x y w : String}

/-! ## Letters -/

/-- Where words are cut, there is no capital. -/
theorem upperChar_of_isWordBreak {c : Char} (h : isWordBreak c = true) : upperChar c = [c] := by
  have hc : c = '_' ∨ c = '-' := by simpa [isWordBreak] using h
  rcases hc with rfl | rfl
  · decide
  · decide

theorem isWordBreak_of_ge {d : Char} (h : 65 ≤ d.toNat ∧ d.toNat ≠ 95) : isWordBreak d = false := by
  cases hd : isWordBreak d with
  | false => rfl
  | true =>
    have hc : d = '_' ∨ d = '-' := by simpa [isWordBreak] using hd
    rcases hc with rfl | rfl
    · exact absurd rfl h.2
    · exact absurd h.1 (by decide)

/-- No word is cut by giving it a capital. -/
theorem isWordBreak_of_mem_upperChar {c : Char} (h : isWordBreak c = false) :
    ∀ d ∈ upperChar c, isWordBreak d = false := by
  intro d hd
  rcases upperChar_stays c with ⟨hascii, hupper⟩ | ⟨-, hself⟩ | ⟨-, hstay⟩
  · have hc : c.toNat < 128 := by simpa [isAscii] using hascii
    rw [hupper, List.mem_singleton] at hd
    rw [hd]
    exact forall_ascii (P := fun c => isWordBreak c = false → isWordBreak c.toUpper = false) (by decide +kernel) hc h
  · rw [hself, List.mem_singleton] at hd
    rw [hd, h]
  · rcases (hstay d hd).2 with hcode | hcode
    · exact isWordBreak_of_ge (by omega)
    · exact isWordBreak_of_ge (by omega)

/-- What changes of a character in a word when it becomes a capital, and what does not. -/
structure Letter (c : Char) : Prop where
  notHyphen : c ≠ '-'
  upper : upperChar c = [c.toUpper]
  continues : continuesIdentifier c.toUpper = true
  isAlpha : c.toUpper.isAlpha = c.isAlpha
  lower : c.toUpper.toLower = c.toLower

theorem letter_of_continuesIdentifier {c : Char} (h : continuesIdentifier c = true) : Letter c where
  notHyphen := by
    rintro rfl
    exact absurd h (by decide)
  upper := by
    unfold upperChar isAscii
    rw [if_pos (by simpa using lt_of_continuesIdentifier h)]
  continues :=
    forall_ascii (P := fun c => continuesIdentifier c = true → continuesIdentifier c.toUpper = true) (by decide +kernel)
      (lt_of_continuesIdentifier h) h
  isAlpha :=
    forall_ascii (P := fun c => c.toUpper.isAlpha = c.isAlpha) (by decide +kernel) (lt_of_continuesIdentifier h)
  lower :=
    forall_ascii (P := fun c => c.toUpper.toLower = c.toLower) (by decide +kernel) (lt_of_continuesIdentifier h)

/-! ## One pass -/

/-- The words of a text joined in one pass; `start` says that a word starts here. -/
def joined : Bool → List Char → List Char
  | _, [] => []
  | start, c :: r => if isWordBreak c then joined true r else (if start then upperChar c else [c]) ++ joined false r

theorem joined_break (start : Bool) {c : Char} (hc : isWordBreak c = true) (r : List Char) :
    joined start (c :: r) = joined true r := by
  rw [joined, if_pos hc]

theorem joined_first {c : Char} (hc : isWordBreak c = false) (r : List Char) :
    joined true (c :: r) = upperChar c ++ joined false r := by
  rw [joined, if_neg (by simp [hc]), if_pos rfl]

theorem joined_later {c : Char} (hc : isWordBreak c = false) (r : List Char) :
    joined false (c :: r) = c :: joined false r := by
  rw [joined, if_neg (by simp [hc]), if_neg (by decide), List.singleton_append]

/-- The first word is capitalized with the others, or it is the rest of one that has its capital. -/
theorem flatMap_capitalized_pieces (l : List Char) :
    (pieces isWordBreak l).flatMap capitalized = joined true l ∧
      ∃ first others, pieces isWordBreak l = first :: others ∧
        first ++ others.flatMap capitalized = joined false l := by
  induction l with
  | nil => exact ⟨rfl, [], [], rfl, rfl⟩
  | cons c r ih =>
    obtain ⟨hall, first, others, hpieces, hrest⟩ := ih
    rw [pieces]
    cases hc : isWordBreak c with
    | true =>
      rw [if_pos rfl, joined_break true hc, joined_break false hc]
      exact ⟨hall, [], pieces isWordBreak r, rfl, hall⟩
    | false =>
      rw [if_neg (by decide), hpieces, joined_first hc, joined_later hc, ← hrest]
      refine ⟨?_, c :: first, others, rfl, rfl⟩
      rw [List.flatMap_cons, capitalized, List.append_assoc]

theorem toList_className (x : String) : (className x).toList = joined true x.toList := by
  rw [className, String.toList_ofList, (flatMap_capitalized_pieces x.toList).1]

/-! ## Respelling -/

/-- One step from a name towards its class name. -/
inductive Respelling : List Char → List Char → Prop
  /-- The first letter becomes a capital. -/
  | capital (c : Char) (r : List Char) : Respelling (c :: r) (upperChar c ++ r)
  /-- An underscore or a hyphen goes, and what comes after it becomes a capital. -/
  | join (before : List Char) (b c : Char) (after : List Char) : isWordBreak b = true →
      Respelling (before ++ b :: c :: after) (before ++ (upperChar c ++ after))
  /-- One at the end goes. -/
  | close (before : List Char) (b : Char) : isWordBreak b = true → Respelling (before ++ [b]) before

def SpeltAlike (x y : String) : Prop := Relation.Join (Relation.ReflTransGen Respelling) x.toList y.toList

/-- Without breaks, a text goes on as it is. -/
theorem joined_append_of_no_break {l : List Char} (h : ∀ c ∈ l, isWordBreak c = false) (r : List Char) :
    joined false (l ++ r) = l ++ joined false r := by
  induction l with
  | nil => rfl
  | cons c t ih =>
    obtain ⟨hc, ht⟩ := List.forall_mem_cons.mp h
    rw [List.cons_append, joined_later hc, ih ht, List.cons_append]

/-- A capital stands for itself and for the start of a word. -/
theorem joined_upperChar_append (start : Bool) (c : Char) (r : List Char) :
    joined start (upperChar c ++ r) = joined true (c :: r) := by
  cases hc : isWordBreak c with
  | true =>
    rw [upperChar_of_isWordBreak hc, List.singleton_append, joined_break start hc, joined_break true hc]
  | false =>
    obtain ⟨d, ds, hupper, hstable⟩ := upperChar_stable c
    have hbreaks := isWordBreak_of_mem_upperChar hc
    rw [hupper] at hbreaks
    obtain ⟨hd, hds⟩ := List.forall_mem_cons.mp hbreaks
    have hfirst : joined start (d :: (ds ++ r)) = d :: joined false (ds ++ r) := by
      cases start with
      | true => rw [joined_first hd, hstable, List.singleton_append]
      | false => rw [joined_later hd]
    rw [joined_first hc, hupper, List.cons_append, hfirst, joined_append_of_no_break hds, List.cons_append]

theorem joined_append_congr {l m : List Char} (h : ∀ start, joined start l = joined start m) (before : List Char)
    (start : Bool) : joined start (before ++ l) = joined start (before ++ m) := by
  induction before generalizing start with
  | nil => exact h start
  | cons c r ih => rw [List.cons_append, List.cons_append, joined, joined, ih true, ih false]

/-- A step does not change what comes out at the end. -/
theorem joined_eq_of_respelling {l m : List Char} (h : Respelling l m) : joined true l = joined true m := by
  cases h with
  | capital c r => exact (joined_upperChar_append true c r).symm
  | join before b c after hb =>
    refine joined_append_congr (fun start => ?_) before true
    rw [joined_break start hb, joined_upperChar_append]
  | close _ b hb =>
    have hend := joined_append_congr (l := [b]) (m := []) (fun start => joined_break start hb []) m true
    rwa [List.append_nil] at hend

theorem joined_eq_of_respellings {l m : List Char} (h : Relation.ReflTransGen Respelling l m) :
    joined true l = joined true m := by
  induction h with
  | refl => rfl
  | tail _ hstep ih => rw [ih, joined_eq_of_respelling hstep]

/-- Behind the first word, a text can be respelt until no break is left; so can one that starts with a break. -/
theorem respells_after (before l : List Char) :
    Relation.ReflTransGen Respelling (before ++ l) (before ++ joined false l) ∧
      ∀ b, isWordBreak b = true → Relation.ReflTransGen Respelling (before ++ b :: l) (before ++ joined true l) := by
  induction l generalizing before with
  | nil =>
    refine ⟨.refl, fun b hb => .single ?_⟩
    have hclose := Respelling.close before b hb
    rwa [show joined true [] = [] from rfl, List.append_nil]
  | cons c r ih =>
    cases hc : isWordBreak c with
    | true =>
      rw [joined_break false hc, joined_break true hc]
      refine ⟨(ih before).2 c hc, fun b hb => .head (.join before b c r hb) ?_⟩
      rw [upperChar_of_isWordBreak hc]
      exact (ih before).2 c hc
    | false =>
      rw [joined_later hc, joined_first hc]
      constructor
      · have hr := (ih (before ++ [c])).1
        rwa [List.append_assoc, List.append_assoc, List.singleton_append, List.singleton_append] at hr
      · intro b hb
        have hr := (ih (before ++ upperChar c)).1
        rw [List.append_assoc, List.append_assoc] at hr
        exact .head (.join before b c r hb) hr

theorem respells_joined (l : List Char) : Relation.ReflTransGen Respelling l (joined true l) := by
  cases l with
  | nil => exact .refl
  | cons c r =>
    cases hc : isWordBreak c with
    | true =>
      rw [joined_break true hc]
      exact (respells_after [] r).2 c hc
    | false =>
      rw [joined_first hc]
      exact .head (.capital c r) (respells_after (upperChar c) r).1

theorem speltAlike_iff : SpeltAlike x y ↔ joined true x.toList = joined true y.toList := by
  constructor
  · rintro ⟨l, hx, hy⟩
    rw [joined_eq_of_respellings hx, joined_eq_of_respellings hy]
  · intro h
    exact ⟨_, respells_joined x.toList, h ▸ respells_joined y.toList⟩

instance (x y : String) : Decidable (SpeltAlike x y) := decidable_of_iff _ speltAlike_iff.symm

/-- Two names have one class name exactly when they are spelt alike. -/
theorem className_eq_iff : className x = className y ↔ SpeltAlike x y := by
  rw [speltAlike_iff, ← toList_className, ← toList_className, String.toList_inj]

example : SpeltAlike "error_x" "errorX" ∧ ¬SpeltAlike "error_x" "errorx" := by decide +kernel

theorem validatorName_eq_iff : validatorName x = validatorName y ↔ SpeltAlike x y := by
  rw [validatorName, validatorName, String.append_left_inj, className_eq_iff]

/-- A class name that is its own is met by what is spelt like it. -/
theorem className_eq_iff_of_fixed (hfixed : className w = w) : className x = w ↔ SpeltAlike x w := by
  rw [← className_eq_iff, hfixed]

/-! ## Breaks -/

theorem mem_joined (start : Bool) (l : List Char) : ∀ c ∈ joined start l, isWordBreak c = false := by
  induction l generalizing start with
  | nil => nofun
  | cons c r ih =>
    cases hc : isWordBreak c with
    | true =>
      rw [joined_break start hc]
      exact ih true
    | false =>
      cases start with
      | true =>
        rw [joined_first hc]
        exact List.forall_mem_append.mpr ⟨isWordBreak_of_mem_upperChar hc, ih false⟩
      | false =>
        rw [joined_later hc]
        exact List.forall_mem_cons.mpr ⟨hc, ih false⟩

/-- No class name has an underscore. -/
theorem underscore_not_mem_className (x : String) : '_' ∉ (className x).toList := by
  rw [toList_className]
  intro hmem
  exact absurd (mem_joined true x.toList '_' hmem) (by decide)

theorem isWordBreak_eq_false {l : List Char} (h : ∀ c ∈ l, continuesIdentifier c = true) (hno : '_' ∉ l) :
    ∀ c ∈ l, isWordBreak c = false := by
  intro c hc
  have hunderscore : c ≠ '_' := by
    rintro rfl
    exact hno hc
  simp [isWordBreak, hunderscore, (letter_of_continuesIdentifier (h c hc)).notHyphen]

/-- A word without underscores is joined by giving it its capital. -/
theorem map_toLower_joined {l : List Char} (h : ∀ c ∈ l, continuesIdentifier c = true) (hno : '_' ∉ l) :
    (joined true l).map Char.toLower = l.map Char.toLower := by
  have hbreaks := isWordBreak_eq_false h hno
  cases l with
  | nil => rfl
  | cons c r =>
    obtain ⟨hc, hr⟩ := List.forall_mem_cons.mp hbreaks
    have hletter := letter_of_continuesIdentifier (h c List.mem_cons_self)
    have hrest : joined false r = r := by
      have happend := joined_append_of_no_break hr []
      rwa [List.append_nil, show joined false [] = [] from rfl, List.append_nil] at happend
    rw [joined_first hc, hletter.upper, hrest, List.singleton_append, List.map_cons, List.map_cons, hletter.lower]

theorem parameterName_eq (h : WordText x) : parameterName x = String.ofList (x.toList.map Char.toLower) := by
  have hsame : x.toList.map underscored = x.toList := by
    refine (List.map_congr_left fun c hc => ?_).trans (List.map_id x.toList)
    rw [underscored, if_neg (by simpa using (letter_of_continuesIdentifier (h c hc)).notHyphen)]
    rfl
  rw [parameterName, hsame, lower_ascii]
  intro c hc
  simpa [isAscii] using lt_of_continuesIdentifier (h c hc)

/-- Where words are spelt alike and parameters differ, one has an underscore. -/
theorem underscore_mem_of_speltAlike (hx : WordText x) (hy : WordText y) (h : SpeltAlike x y)
    (hne : parameterName x ≠ parameterName y) : '_' ∈ x.toList ∨ '_' ∈ y.toList := by
  by_cases hnx : '_' ∈ x.toList
  · exact .inl hnx
  by_cases hny : '_' ∈ y.toList
  · exact .inr hny
  refine absurd ?_ hne
  rw [parameterName_eq hx, parameterName_eq hy, ← map_toLower_joined hx hnx, speltAlike_iff.mp h,
    map_toLower_joined hy hny]

/-! ## Identifiers -/

/-- The class name starts with the first letter of a name. -/
theorem joined_true_eq (l : List Char) :
    joined true l = match l.dropWhile isWordBreak with
      | [] => []
      | c :: r => upperChar c ++ joined false r := by
  induction l with
  | nil => rfl
  | cons c r ih =>
    cases hc : isWordBreak c with
    | true => rw [joined_break true hc, ih, List.dropWhile_cons_of_pos hc]
    | false => rw [List.dropWhile_cons_of_neg (by simp [hc]), joined_first hc]

def capitalKeywords : List String := ["False", "None", "True"]

/-- A class name is a keyword only for names that are spelt like one with a capital. -/
theorem isKeyword_className_iff (x : String) :
    isKeyword (className x) = true ↔ ∃ w ∈ capitalKeywords, SpeltAlike x w := by
  have hfixed : ∀ w ∈ capitalKeywords, className w = w ∧ isKeyword w = true := by decide +kernel
  constructor
  · intro hk
    have hcapitals : ∀ w ∈ keywords, w.toList.head?.map upperChar = w.toList.head?.map ([·]) → w ∈ capitalKeywords := by
      decide +kernel
    have hcapital : (className x).toList.head?.map upperChar = (className x).toList.head?.map ([·]) := by
      rw [toList_className, joined_true_eq]
      cases x.toList.dropWhile isWordBreak with
      | nil => rfl
      | cons c r =>
        obtain ⟨d, ds, hupper, hstable⟩ := upperChar_stable c
        simp [hupper, hstable]
    have hw := hcapitals _ (List.contains_iff_mem.mp hk) hcapital
    exact ⟨_, hw, (className_eq_iff_of_fixed (hfixed _ hw).1).mp rfl⟩
  · rintro ⟨w, hw, halike⟩
    obtain ⟨hself, hkeyword⟩ := hfixed w hw
    rwa [(className_eq_iff_of_fixed hself).mpr halike]

/-- A class name is an identifier exactly when it has the shape of one, and the name is not spelt like one of the
    keywords with a capital. -/
theorem isIdentifier_className_iff (x : String) :
    isIdentifier (className x) = true ↔
      isWord (className x).toList = true ∧ ∀ w ∈ capitalKeywords, ¬SpeltAlike x w := by
  have hkeyword : isKeyword (className x) = false ↔ ∀ w ∈ capitalKeywords, ¬SpeltAlike x w := by
    rw [← Bool.not_eq_true, isKeyword_className_iff]
    simp only [not_exists, not_and]
  rw [isIdentifier, Bool.and_eq_true, Bool.not_eq_true', hkeyword]

/-- A letter is the first of a name that is no break. -/
def startsWithLetter (s : String) : Bool :=
  match s.toList.dropWhile isWordBreak with
  | [] => false
  | c :: _ => c.isAlpha

theorem continuesIdentifier_of_mem_joined {l : List Char} (h : ∀ c ∈ l, continuesIdentifier c = true) (start : Bool) :
    ∀ c ∈ joined start l, continuesIdentifier c = true := by
  induction l generalizing start with
  | nil => nofun
  | cons c r ih =>
    obtain ⟨hc, hr⟩ := List.forall_mem_cons.mp h
    cases hb : isWordBreak c with
    | true =>
      rw [joined_break start hb]
      exact ih hr true
    | false =>
      cases start with
      | true =>
        have hletter := letter_of_continuesIdentifier hc
        rw [joined_first hb, hletter.upper]
        exact List.forall_mem_cons.mpr ⟨hletter.continues, ih hr false⟩
      | false =>
        rw [joined_later hb]
        exact List.forall_mem_cons.mpr ⟨hc, ih hr false⟩

/-- The class name of a word has the shape of an identifier exactly when a letter comes first. -/
theorem isWord_className_iff (h : WordText x) : isWord (className x).toList = startsWithLetter x := by
  have hword := continuesIdentifier_of_mem_joined h true
  have hbreaks := mem_joined true x.toList
  rw [toList_className]
  rw [joined_true_eq] at hword hbreaks ⊢
  unfold startsWithLetter
  cases hd : x.toList.dropWhile isWordBreak with
  | nil => rfl
  | cons c r =>
    have hc : c ∈ x.toList := (List.dropWhile_sublist _).subset (hd ▸ List.mem_cons_self)
    have hletter := letter_of_continuesIdentifier (h c hc)
    rw [hd] at hword hbreaks
    simp only [hletter.upper, List.singleton_append] at hword hbreaks ⊢
    obtain ⟨hbreak, -⟩ := List.forall_mem_cons.mp hbreaks
    have hunderscore : (c.toUpper == '_') = false := by
      simp only [isWordBreak, Bool.or_eq_false_iff] at hbreak
      exact hbreak.1
    have hrest : (joined false r).all continuesIdentifier = true :=
      List.all_eq_true.mpr (List.forall_mem_cons.mp hword).2
    rw [isWord, hrest, Bool.and_true, startsIdentifier, hunderscore, Bool.false_or, hletter.isAlpha]

end PlotTypes.Python
