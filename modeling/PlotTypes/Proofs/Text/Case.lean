/-
  PlotTypes.Proofs.Text.Case — upper case is stable.

  What a character becomes in upper case starts with a character that stays as it is. For ASCII
  this is checked character by character. Beyond, it is a fact about two tables: nothing that a
  row or a listed expansion leads to is led on by another one (`landsApart`). It is enough to
  check rows against rows, by their ends, so the tables are never spelt out.
  - `upperChar_cases`: the four ways in which a character is mapped.
  - `upperChar_stable`: all of them end at something stable.
  - `upperChar_stays`: beyond ASCII, what comes out is the character itself, or capitals and
    characters beyond ASCII that stay.
-/

import PlotTypes.Text.Case

namespace PlotTypes.Text

/-- What holds of the first 128 characters holds of ASCII. -/
theorem forall_ascii {P : Char → Prop} (h : ∀ i : Fin 128, P (Char.ofNat i)) {c : Char} (hc : c.toNat < 128) : P c := by
  have := h ⟨c.toNat, hc⟩
  rwa [Char.ofNat_toNat] at this

/-! ## Rows -/

def Shift.covers (t : Shift) (n : Nat) : Bool := t.first ≤ n && n ≤ t.last && (n - t.first) % t.step == 0

theorem Shift.covers_iff {t : Shift} {n : Nat} :
    t.covers n = true ↔ (t.first ≤ n ∧ n ≤ t.last) ∧ (n - t.first) % t.step = 0 := by
  simp [covers]

def Shift.low (t : Shift) : Nat := ((t.first : Int) + t.delta).toNat

def Shift.high (t : Shift) : Nat := ((t.last : Int) + t.delta).toNat

/-- The row maps none of every `step`-th code point from `low` to `high`. -/
def missesRow (low high step : Nat) (t : Shift) : Bool :=
  high.blt t.first || t.last.blt low || (low == high && (low - t.first) % t.step != 0) ||
    (step == 2 && t.step == 2 && low % 2 != t.first % 2)

/-- None of them is `n`. -/
def missesCode (low high step n : Nat) : Bool :=
  high.blt n || n.blt low || (step == 2 && low % 2 != n % 2)

/-- All of them are characters beyond ASCII that stay as they are in upper case. -/
def landsApart (low high step : Nat) : Bool :=
  (Nat.ble 128 low && (high.blt 0xD800 || (Nat.blt 0xDFFF low && high.blt 0x110000))) &&
    upperShifts.all (missesRow low high step) && upperExpansions.all fun e => missesCode low high step e.1

variable {low high step m : Nat}

theorem not_covers_of_missesRow {t : Shift} (h : missesRow low high step t = true) (hlow : low ≤ m) (hhigh : m ≤ high)
    (hstep : (m - low) % step = 0) : t.covers m = false := by
  rw [← Bool.not_eq_true, Shift.covers_iff]
  rintro ⟨⟨hfirst, hlast⟩, hmod⟩
  simp only [missesRow, Bool.or_eq_true, Bool.and_eq_true, Nat.blt_eq, beq_iff_eq, bne_iff_ne] at h
  rcases h with ((h | h) | ⟨rfl, h⟩) | ⟨⟨rfl, htwo⟩, h⟩
  · omega
  · omega
  · have heq : m = low := by omega
    rw [heq] at hmod
    exact h hmod
  · rw [htwo] at hmod
    omega

theorem ne_of_missesCode {n : Nat} (h : missesCode low high step n = true) (hlow : low ≤ m) (hhigh : m ≤ high)
    (hstep : (m - low) % step = 0) : m ≠ n := by
  rintro rfl
  simp only [missesCode, Bool.or_eq_true, Bool.and_eq_true, Nat.blt_eq, beq_iff_eq, bne_iff_ne] at h
  rcases h with (h | h) | ⟨rfl, h⟩
  · omega
  · omega
  · omega

/-! ## Characters that stay -/

theorem shifted?_eq (table : List Shift) (c : Char) :
    shifted? table c = (table.find? (·.covers c.toNat)).map fun t => Char.ofNat ((c.toNat : Int) + t.delta).toNat := rfl

/-- A character beyond ASCII that no row and no expansion maps stays as it is. -/
theorem upperChar_eq_self {c : Char} (hc : 128 ≤ c.toNat) (hrows : ∀ t ∈ upperShifts, t.covers c.toNat = false)
    (hcodes : ∀ e ∈ upperExpansions, c.toNat ≠ e.1) : upperChar c = [c] := by
  have hascii : isAscii c = false := by
    unfold isAscii
    simpa using hc
  have hshifted : shifted? upperShifts c = none := by
    rw [shifted?_eq, List.find?_eq_none.mpr fun t ht => by simp [hrows t ht]]
    rfl
  have hlookup : upperExpansions.lookup c.toNat = none := by
    rw [List.lookup_eq_none_iff]
    intro e he
    simpa using hcodes e he
  unfold upperChar
  rw [hascii, if_neg (by decide), mapped, hshifted]
  simp only [hlookup]

theorem toNat_ofNat (h : m.isValidChar) : (Char.ofNat m).toNat = m := by
  unfold Char.ofNat
  rw [dif_pos h]
  rfl

theorem upperChar_of_landsApart (h : landsApart low high step = true) (hlow : low ≤ m) (hhigh : m ≤ high)
    (hstep : (m - low) % step = 0) :
    upperChar (Char.ofNat m) = [Char.ofNat m] ∧ 128 ≤ (Char.ofNat m).toNat := by
  simp only [landsApart, Bool.and_eq_true, Bool.or_eq_true, Nat.ble_eq, Nat.blt_eq, List.all_eq_true] at h
  obtain ⟨⟨⟨hascii, hvalid⟩, hrows⟩, hcodes⟩ := h
  have hcode : (Char.ofNat m).toNat = m := toNat_ofNat (by unfold Nat.isValidChar; omega)
  refine ⟨upperChar_eq_self ?_ ?_ ?_, ?_⟩
  · omega
  · intro t ht
    rw [hcode]
    exact not_covers_of_missesRow (hrows t ht) hlow hhigh hstep
  · intro e he
    rw [hcode]
    exact ne_of_missesCode (hcodes e he) hlow hhigh hstep
  · omega

/-- A capital of ASCII stays as it is. -/
theorem upperChar_capital (h : 65 ≤ m ∧ m ≤ 90) : upperChar (Char.ofNat m) = [Char.ofNat m] := by
  have hall : ∀ k < 26, upperChar (Char.ofNat (65 + k)) = [Char.ofNat (65 + k)] := by decide +kernel
  have hm := hall (m - 65) (by omega)
  rwa [show 65 + (m - 65) = m by omega] at hm

/-! ## What characters become -/

def Stays (d : Char) : Prop := upperChar d = [d] ∧ (128 ≤ d.toNat ∨ (65 ≤ d.toNat ∧ d.toNat ≤ 90))

/-- What the rows and the expansions lead to. A row that leads into ASCII is a single one. -/
theorem rows_stay :
    (upperShifts.all fun t => landsApart t.low t.high t.step ||
      (t.first == t.last && Nat.ble 65 t.low && Nat.ble t.low 90)) = true := by
  decide +kernel

theorem expansions_stay :
    (upperExpansions.all fun e =>
      !e.2.isEmpty && e.2.all fun d => landsApart d d 1 || (Nat.ble 65 d && Nat.ble d 90)) = true := by
  decide +kernel

theorem stays_of_landsApart (h : landsApart low high step = true) (hlow : low ≤ m) (hhigh : m ≤ high)
    (hstep : (m - low) % step = 0) : Stays (Char.ofNat m) := by
  obtain ⟨hself, hcode⟩ := upperChar_of_landsApart h hlow hhigh hstep
  exact ⟨hself, .inl hcode⟩

theorem stays_capital (h : 65 ≤ m ∧ m ≤ 90) : Stays (Char.ofNat m) := by
  have hcode : (Char.ofNat m).toNat = m := toNat_ofNat (by unfold Nat.isValidChar; omega)
  exact ⟨upperChar_capital h, .inr (by omega)⟩

theorem stays_of_covers {t : Shift} (ht : t ∈ upperShifts) {n : Nat} (hn : t.covers n = true) :
    Stays (Char.ofNat ((n : Int) + t.delta).toNat) := by
  obtain ⟨⟨hfirst, hlast⟩, hmod⟩ := Shift.covers_iff.mp hn
  have hrow := List.all_eq_true.mp rows_stay t ht
  simp only [Bool.or_eq_true, Bool.and_eq_true, Nat.ble_eq, beq_iff_eq] at hrow
  rcases hrow with hrow | ⟨⟨hsingle, hlow⟩, hhigh⟩
  · have hbeyond : 128 ≤ t.low := by
      simp only [landsApart, Bool.and_eq_true, Nat.ble_eq] at hrow
      exact hrow.1.1.1
    have hsame : ((n : Int) + t.delta).toNat - t.low = n - t.first := by
      unfold Shift.low at hbeyond ⊢
      omega
    refine stays_of_landsApart hrow ?_ ?_ (by rw [hsame]; exact hmod)
    · unfold Shift.low at hbeyond ⊢
      omega
    · unfold Shift.high
      omega
  · have hn : n = t.first := by omega
    subst hn
    exact stays_capital ⟨hlow, hhigh⟩

/-- A character is ASCII, or mapped by a row, or listed, or left alone. -/
theorem upperChar_cases (c : Char) :
    (isAscii c = true ∧ upperChar c = [c.toUpper]) ∨
      (128 ≤ c.toNat ∧ ((∃ t ∈ upperShifts, t.covers c.toNat = true ∧
          upperChar c = [Char.ofNat ((c.toNat : Int) + t.delta).toNat]) ∨
        (∃ e ∈ upperExpansions, upperChar c = e.2.map Char.ofNat) ∨ upperChar c = [c])) := by
  unfold upperChar
  cases hascii : isAscii c with
  | true => exact .inl ⟨rfl, by rw [if_pos rfl]⟩
  | false =>
    have hcode : 128 ≤ c.toNat := by
      unfold isAscii at hascii
      simpa using hascii
    refine .inr ⟨hcode, ?_⟩
    rw [if_neg (by decide), mapped, shifted?_eq]
    cases hfind : upperShifts.find? (·.covers c.toNat) with
    | some t => exact .inl ⟨t, List.mem_of_find?_eq_some hfind, by simpa using List.find?_some hfind, rfl⟩
    | none =>
      cases hlookup : upperExpansions.lookup c.toNat with
      | some ds =>
        obtain ⟨before, after, hlist, -⟩ := List.lookup_eq_some_iff.mp hlookup
        exact .inr (.inl ⟨(c.toNat, ds), by simp [hlist], rfl⟩)
      | none => exact .inr (.inr rfl)

/-- The characters of a listed expansion, of which there is one at least. -/
theorem stays_of_mem_expansion {e : Nat × List Nat} (he : e ∈ upperExpansions) :
    e.2 ≠ [] ∧ ∀ d ∈ e.2, Stays (Char.ofNat d) := by
  have hall := List.all_eq_true.mp expansions_stay e he
  simp only [Bool.and_eq_true, List.all_eq_true, Bool.or_eq_true, Nat.ble_eq] at hall
  refine ⟨by simpa using hall.1, fun d hd => ?_⟩
  rcases hall.2 d hd with hrow | hcapital
  · exact stays_of_landsApart hrow (Nat.le_refl d) (Nat.le_refl d) (by simp)
  · exact stays_capital hcapital

/-- What a character becomes is not nothing, and all of it stays, unless the character is ASCII or stays itself. -/
theorem upperChar_stays (c : Char) :
    isAscii c = true ∧ upperChar c = [c.toUpper] ∨ 128 ≤ c.toNat ∧ upperChar c = [c] ∨
      upperChar c ≠ [] ∧ ∀ d ∈ upperChar c, Stays d := by
  rcases upperChar_cases c with hascii | ⟨hcode, ⟨t, ht, hcovers, hupper⟩ | ⟨e, he, hupper⟩ | hself⟩
  · exact .inl hascii
  · refine .inr (.inr ?_)
    rw [hupper]
    refine ⟨List.cons_ne_nil _ _, fun d hd => ?_⟩
    obtain rfl := List.mem_singleton.mp hd
    exact stays_of_covers ht hcovers
  · obtain ⟨hne, hstay⟩ := stays_of_mem_expansion he
    refine .inr (.inr ?_)
    rw [hupper]
    refine ⟨fun hnil => hne (List.map_eq_nil_iff.mp hnil), fun d hd => ?_⟩
    obtain ⟨code, hmem, rfl⟩ := List.mem_map.mp hd
    exact hstay code hmem
  · exact .inr (.inl ⟨hcode, hself⟩)

/-- In upper case, a character starts with one that is its own upper case. -/
theorem upperChar_stable (c : Char) : ∃ d ds, upperChar c = d :: ds ∧ upperChar d = [d] := by
  rcases upperChar_stays c with ⟨hascii, hupper⟩ | ⟨-, hself⟩ | ⟨hne, hstay⟩
  · have hc : c.toNat < 128 := by simpa [isAscii] using hascii
    refine ⟨c.toUpper, [], hupper, ?_⟩
    exact forall_ascii (P := fun c => upperChar c.toUpper = [c.toUpper]) (by decide +kernel) hc
  · exact ⟨c, [], hself, hself⟩
  · obtain ⟨d, ds, hupper⟩ := List.exists_cons_of_ne_nil hne
    exact ⟨d, ds, hupper, (hstay d (hupper ▸ List.mem_cons_self)).1⟩

end PlotTypes.Text
