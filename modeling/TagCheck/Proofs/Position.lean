import TagCheck.Source
import TagCheck.Proofs.Declarations
import Mathlib.Algebra.Ring.Nat
import Mathlib.Data.List.DropRight
import Mathlib.Data.Prod.Lex

/-!
# Lines and columns

The line of a position is found by halving the list of line starts.  Whatever the list, the search ends at a start that
is not behind the position (`SourceFile.lineStart_le`); in an increasing list it ends at the last such start
(`isLastWhere_narrow`).  The starts of a text increase as long as its positions have numbers of 32 bits, so the line
counts the newlines before the position and the column counts the bytes since the last of them
(`SourceFile.lineIndex_eq_count` and `SourceFile.toNat_lineStart`).  Lines and columns together order the positions
(`SourceFile.lt_iff_lineCol_lt`).
-/

namespace TagCheck

/-! ### Halving -/

section Search

variable {values : Array UInt32} {value : UInt32}

theorem narrow_lt (values : Array UInt32) (value : UInt32) (base : Nat) {size : Nat} (h : 0 < size) :
    narrow values value base size < base + size := by
  fun_induction narrow values value base size with
  | case1 base size hsize => omega
  | case2 base size hsize middle hlt ih =>
    have := ih (by omega)
    omega
  | case3 base size hsize middle hle ih =>
    have := ih (by omega)
    omega

/-- From a value that is not too large the search never goes to one that is, whatever the order of the values. -/
theorem narrow_le {base : Nat} (size : Nat) (h : values.getD base 0 ≤ value) :
    values.getD (narrow values value base size) 0 ≤ value := by
  fun_induction narrow values value base size with
  | case1 base size hsize => exact h
  | case2 base size hsize middle hlt ih => exact ih h
  | case3 base size hsize middle hle ih => exact ih (UInt32.not_lt.1 hle)

private theorem getElem?_eq_some_getD {xs : List UInt32} {i : Nat} (h : i < xs.length) :
    xs[i]? = some (xs.toArray.getD i 0) := by
  simp [List.getElem?_eq_getElem h]

/-- In an increasing list the search ends at the last value that is not too large, if there is none of them behind the
places that it looks at. -/
theorem isLastWhere_narrow {xs : List UInt32} (hxs : xs.Pairwise (· < ·)) {base size : Nat} (hsize : 0 < size)
    (hlength : base + size ≤ xs.length) (hbase : xs.toArray.getD base 0 ≤ value)
    (hend : ∀ k x, base + size ≤ k → xs[k]? = some x → value < x) :
    IsLastWhere (· ≤ value) xs (narrow xs.toArray value base size) := by
  fun_induction narrow xs.toArray value base size with
  | case1 base size hone =>
    refine ⟨⟨_, getElem?_eq_some_getD (by omega), hbase⟩, ?_⟩
    intro k x hk hx
    exact UInt32.not_le.2 (hend k x (by omega) hx)
  | case2 base size hone middle hlt ih =>
    -- all that stands behind the middle is larger still
    have hmiddle := getElem?_eq_some_getD (show middle < xs.length by omega)
    refine ih (by omega) (by omega) hbase ?_
    intro k x hk hx
    obtain ⟨hk', rfl⟩ := List.getElem?_eq_some_iff.1 hx
    obtain ⟨hmiddle', hvalue⟩ := List.getElem?_eq_some_iff.1 hmiddle
    rw [← hvalue] at hlt
    rcases Nat.eq_or_lt_of_le (show middle ≤ k by omega) with rfl | hbehind
    · exact hlt
    · exact UInt32.lt_trans hlt (List.pairwise_iff_getElem.1 hxs middle k hmiddle' hk' hbehind)
  | case3 base size hone middle hle ih =>
    exact ih (by omega) (by omega) (UInt32.not_lt.1 hle) fun k x hk hx => hend k x (by omega) hx

end Search

theorem IsLastWhere.unique {α : Type} {p : α → Prop} {xs : List α} {n k : Nat} (hn : IsLastWhere p xs n)
    (hk : IsLastWhere p xs k) : n = k := by
  obtain ⟨⟨x, hx, hpx⟩, hafter⟩ := hn
  obtain ⟨⟨y, hy, hpy⟩, hafter'⟩ := hk
  rcases Nat.lt_trichotomy n k with h | h | h
  · exact absurd hpy (hafter k y h hy)
  · exact h
  · exact absurd hpx (hafter' n x h hx)

/-! ### Where lines start -/

/-- The number of bytes up to the last newline and with it, or zero if there is no newline. -/
def afterLastNewline (bs : List UInt8) : Nat :=
  (bs.rdropWhile (· != newline)).length

theorem length_startsAfterNewlines (pos : UInt32) (bs : List UInt8) :
    (startsAfterNewlines pos bs).length = bs.count newline := by
  induction bs generalizing pos with
  | nil => rfl
  | cons b bs ih =>
    rw [startsAfterNewlines, List.count_cons]
    split <;> simp [ih]

theorem startsAfterNewlines_append (pos : UInt32) (bs cs : List UInt8) :
    startsAfterNewlines pos (bs ++ cs) =
      startsAfterNewlines pos bs ++ startsAfterNewlines (pos + UInt32.ofNat bs.length) cs := by
  induction bs generalizing pos with
  | nil => simp [startsAfterNewlines]
  | cons b bs ih =>
    have hnext : pos + 1 + UInt32.ofNat bs.length = pos + UInt32.ofNat (b :: bs).length := by
      rw [List.length_cons, UInt32.ofNat_add, UInt32.add_assoc, UInt32.add_comm (UInt32.ofNat bs.length)]
      rfl
    rw [List.cons_append, startsAfterNewlines, startsAfterNewlines, ih, hnext]
    split <;> rfl

/-- A start of a text whose positions have numbers lies behind the start of the text and not behind its end. -/
theorem bounds_of_mem_startsAfterNewlines {pos start : UInt32} {bs : List UInt8} (h : pos.toNat + bs.length < 2 ^ 32)
    (hstart : start ∈ startsAfterNewlines pos bs) : pos.toNat < start.toNat ∧ start.toNat ≤ pos.toNat + bs.length := by
  induction bs generalizing pos with
  | nil => cases hstart
  | cons b bs ih =>
    rw [List.length_cons] at h ⊢
    have hnext : (pos + 1).toNat = pos.toNat + 1 := by
      rw [UInt32.toNat_add, UInt32.toNat_one]
      omega
    have hrest : start ∈ startsAfterNewlines (pos + 1) bs →
        pos.toNat < start.toNat ∧ start.toNat ≤ pos.toNat + (bs.length + 1) := by
      intro hstart
      have := ih (by omega) hstart
      omega
    rw [startsAfterNewlines] at hstart
    split at hstart
    · rcases List.mem_cons.1 hstart with rfl | hstart
      · omega
      · exact hrest hstart
    · exact hrest hstart

theorem pairwise_startsAfterNewlines {pos : UInt32} {bs : List UInt8} (h : pos.toNat + bs.length < 2 ^ 32) :
    (startsAfterNewlines pos bs).Pairwise (· < ·) := by
  induction bs generalizing pos with
  | nil => exact .nil
  | cons b bs ih =>
    rw [List.length_cons] at h
    have hnext : (pos + 1).toNat = pos.toNat + 1 := by
      rw [UInt32.toNat_add, UInt32.toNat_one]
      omega
    have hrest : (startsAfterNewlines (pos + 1) bs).Pairwise (· < ·) := ih (by omega)
    rw [startsAfterNewlines]
    split
    · refine .cons ?_ hrest
      intro start hstart
      exact UInt32.lt_iff_toNat_lt.2 (bounds_of_mem_startsAfterNewlines (by omega) hstart).1
    · exact hrest

/-- The last line of a text starts behind its last newline. -/
theorem getLastD_startsAfterNewlines {bs : List UInt8} (h : bs.length < 2 ^ 32) :
    ((startsAfterNewlines 0 bs).getLastD 0).toNat = afterLastNewline bs := by
  induction bs using List.reverseRecOn with
  | nil => rfl
  | append_singleton bs b ih =>
    rw [List.length_append, List.length_singleton] at h
    have hbefore : (UInt32.ofNat bs.length).toNat = bs.length := by
      rw [UInt32.toNat_ofNat', Nat.mod_eq_of_lt (by omega)]
    rw [startsAfterNewlines_append, UInt32.zero_add, afterLastNewline, List.rdropWhile_concat]
    by_cases hb : b = newline
    · have hlast : startsAfterNewlines (UInt32.ofNat bs.length) [b] = [UInt32.ofNat bs.length + 1] := by
        simp [startsAfterNewlines, hb]
      rw [hlast, List.getLastD_concat, UInt32.toNat_add, hbefore, UInt32.toNat_one]
      simp [hb]
      omega
    · have hnone : startsAfterNewlines (UInt32.ofNat bs.length) [b] = [] := by
        simp [startsAfterNewlines, hb]
      rw [hnone, List.append_nil, ih (by omega)]
      simp [hb, afterLastNewline]

theorem afterLastNewline_le (bs : List UInt8) : afterLastNewline bs ≤ bs.length :=
  (List.rdropWhile_prefix _ bs).length_le

private theorem getElem?_length_cons_append (starts rest : List UInt32) :
    (0 :: (starts ++ rest))[starts.length]? = some (starts.getLastD 0) := by
  induction starts using List.reverseRecOn with
  | nil => rfl
  | append_singleton starts start _ => simp

namespace SourceFile

variable (f : SourceFile) (pos : UInt32)

theorem length_bytes : f.bytes.length = f.text.utf8ByteSize :=
  Array.length_toList

theorem size_lineStarts : f.lineStarts.size = f.bytes.count newline + 1 := by
  simp [lineStarts, length_startsAfterNewlines]

/-- The search for a position ends at its line, be the position the start of the line or not. -/
theorem lineIndex_eq_narrow : f.lineIndex pos = narrow f.lineStarts pos 0 f.lineStarts.size := by
  have hlt := narrow_lt f.lineStarts pos 0 (show 0 < f.lineStarts.size by simp [size_lineStarts])
  have hle : f.lineStarts.getD (narrow f.lineStarts pos 0 f.lineStarts.size) 0 ≤ pos :=
    narrow_le _ UInt32.zero_le
  unfold lineIndex search
  generalize narrow f.lineStarts pos 0 f.lineStarts.size = i at hlt hle
  have hget : f.lineStarts[i]? = some (f.lineStarts.getD i 0) := by
    simp [Array.getElem?_eq_getElem (show i < f.lineStarts.size by omega)]
  dsimp only
  rw [hget]
  dsimp only
  by_cases heq : f.lineStarts.getD i 0 = pos
  · rw [if_pos heq]
  · rw [if_neg heq, if_pos (UInt32.lt_of_le_of_ne hle heq)]
    rfl

theorem lineIndex_lt : f.lineIndex pos < f.lineStarts.size := by
  have h := narrow_lt f.lineStarts pos 0 (show 0 < f.lineStarts.size by simp [size_lineStarts])
  rwa [lineIndex_eq_narrow, Nat.zero_add] at *

theorem lineIndex_le_length : f.lineIndex pos ≤ f.bytes.length := by
  have hlt := f.lineIndex_lt pos
  have hcount := List.count_le_length (a := newline) (l := f.bytes)
  rw [size_lineStarts] at hlt
  omega

/-- No line starts behind a position that it holds, however long the text. -/
theorem lineStart_le : f.lineStart pos ≤ pos := by
  rw [lineStart, lineIndex_eq_narrow]
  exact narrow_le _ UInt32.zero_le

/-- The starts of a text are those before a position, and then those of the rest. -/
theorem startsAfterNewlines_bytes :
    startsAfterNewlines 0 f.bytes = startsAfterNewlines 0 (f.bytes.take pos.toNat) ++
      startsAfterNewlines (UInt32.ofNat (f.bytes.take pos.toNat).length) (f.bytes.drop pos.toNat) := by
  conv => lhs; rw [← List.take_append_drop pos.toNat f.bytes]
  rw [startsAfterNewlines_append, UInt32.zero_add]

theorem getElem?_count :
    (0 :: startsAfterNewlines 0 f.bytes)[(f.bytes.take pos.toNat).count newline]? =
      some ((startsAfterNewlines 0 (f.bytes.take pos.toNat)).getLastD 0) := by
  rw [f.startsAfterNewlines_bytes pos, ← length_startsAfterNewlines 0]
  exact getElem?_length_cons_append _ _

variable {f}

theorem isLastWhere_lineIndex (h : f.bytes.length < 2 ^ 32) :
    IsLastWhere (· ≤ pos) (0 :: startsAfterNewlines 0 f.bytes) (f.lineIndex pos) := by
  have hsorted : (0 :: startsAfterNewlines 0 f.bytes).Pairwise (· < ·) := by
    refine .cons ?_ (pairwise_startsAfterNewlines (by simpa using h))
    intro start hstart
    exact UInt32.lt_iff_toNat_lt.2 (bounds_of_mem_startsAfterNewlines (by simpa using h) hstart).1
  rw [lineIndex_eq_narrow]
  refine isLastWhere_narrow hsorted (by simp [lineStarts]) (by simp [lineStarts]) UInt32.zero_le ?_
  intro k start hk hstart
  have hlt := (List.getElem?_eq_some_iff.1 hstart).1
  simp only [lineStarts, List.size_toArray] at hk
  omega

theorem isLastWhere_count (h : f.bytes.length < 2 ^ 32) :
    IsLastWhere (· ≤ pos) (0 :: startsAfterNewlines 0 f.bytes) ((f.bytes.take pos.toNat).count newline) := by
  have hbefore := f.bytes.length_take (i := pos.toNat)
  have hafter := f.bytes.length_drop (i := pos.toNat)
  have hlength : (UInt32.ofNat (f.bytes.take pos.toNat).length).toNat = (f.bytes.take pos.toNat).length := by
    rw [UInt32.toNat_ofNat', Nat.mod_eq_of_lt (by omega)]
  refine ⟨⟨_, f.getElem?_count pos, ?_⟩, ?_⟩
  · -- the last line that starts before the position
    have := afterLastNewline_le (f.bytes.take pos.toNat)
    refine UInt32.le_iff_toNat_le.2 ?_
    rw [getLastD_startsAfterNewlines (by omega)]
    omega
  · -- what comes after it starts in the rest of the text, if there is a rest
    intro k start hk hget
    rw [← length_startsAfterNewlines 0] at hk
    obtain ⟨k, rfl⟩ : ∃ k', k = k' + 1 := ⟨k - 1, by omega⟩
    rw [f.startsAfterNewlines_bytes pos, List.getElem?_cons_succ, List.getElem?_append_right (by omega)] at hget
    have hmem := List.mem_of_getElem? hget
    have hbounds := bounds_of_mem_startsAfterNewlines (by omega) hmem
    have hrest : (f.bytes.drop pos.toNat).length ≠ 0 := by
      intro hnil
      rw [List.length_eq_zero_iff.1 hnil] at hmem
      cases hmem
    exact UInt32.not_le.2 (UInt32.lt_iff_toNat_lt.2 (by omega))

/-- The lines before that of a position are those that a newline before the position ends. -/
theorem lineIndex_eq_count (h : f.bytes.length < 2 ^ 32) :
    f.lineIndex pos = (f.bytes.take pos.toNat).count newline :=
  (isLastWhere_lineIndex pos h).unique (isLastWhere_count pos h)

/-- The line of a position starts behind the last newline before the position. -/
theorem toNat_lineStart (h : f.bytes.length < 2 ^ 32) :
    (f.lineStart pos).toNat = afterLastNewline (f.bytes.take pos.toNat) := by
  have hstart : f.lineStarts[f.lineIndex pos]? = some ((startsAfterNewlines 0 (f.bytes.take pos.toNat)).getLastD 0) := by
    rw [lineIndex_eq_count pos h, lineStarts, List.getElem?_toArray]
    exact f.getElem?_count pos
  have hlength := f.bytes.length_take (i := pos.toNat)
  rw [lineStart, Array.getD_eq_getD_getElem?, hstart, Option.getD_some, getLastD_startsAfterNewlines (by omega)]

/-! ### Lines and columns of positions -/

/-- The number of a line wraps around where there are too many lines. -/
theorem toNat_line : (f.lineCol pos).1.toNat = (f.lineIndex pos + 1) % 2 ^ 32 := by
  rw [lineCol, Nat.toUInt32_eq, UInt32.toNat_add, UInt32.toNat_ofNat', UInt32.toNat_one, Nat.mod_add_mod]

/-- The number of a column wraps around at the last position of all on the first line. -/
theorem toNat_column :
    (f.lineCol pos).2.toNat = (pos.toNat - (f.lineStart pos).toNat + 1) % 2 ^ 32 := by
  rw [lineCol, UInt32.toNat_add, UInt32.toNat_sub_of_le _ _ (f.lineStart_le pos), UInt32.toNat_one]

theorem toNat_line_of_short (h : f.bytes.length < 2 ^ 32 - 1) : (f.lineCol pos).1.toNat = f.lineIndex pos + 1 := by
  have hle := f.lineIndex_le_length pos
  rw [toNat_line, Nat.mod_eq_of_lt (by omega)]

theorem toNat_column_of_lt (h : pos.toNat < 2 ^ 32 - 1) :
    (f.lineCol pos).2.toNat + (f.lineStart pos).toNat = pos.toNat + 1 := by
  have hle := UInt32.le_iff_toNat_le.1 (f.lineStart_le pos)
  rw [toNat_column, Nat.mod_eq_of_lt (by omega)]
  omega

/-- A place with the numbers of the line and the column that a position has, as one counts them in the text: the line
after the newlines before the position, and the column after the bytes since the last of them. -/
structure IsPlace (f : SourceFile) (pos : Nat) (place : UInt32 × UInt32) : Prop where
  line : place.1.toNat = 1 + (f.bytes.take pos).count newline
  column : place.2.toNat + afterLastNewline (f.bytes.take pos) = 1 + pos

/-- The position at a line and a column. -/
def position (f : SourceFile) (place : UInt32 × UInt32) : UInt32 :=
  f.lineStarts.getD (place.1.toNat - 1) 0 + (place.2 - 1)

theorem isPlace_lineCol (h : f.bytes.length < 2 ^ 32 - 1) (hpos : pos.toNat < 2 ^ 32 - 1) :
    f.IsPlace pos.toNat (f.lineCol pos) where
  line := by rw [toNat_line_of_short pos h, lineIndex_eq_count pos (by omega), Nat.add_comm]
  column := by rw [← toNat_lineStart pos (by omega), toNat_column_of_lt pos hpos, Nat.add_comm]

theorem position_lineCol (h : f.bytes.length < 2 ^ 32 - 1) : f.position (f.lineCol pos) = pos := by
  have hstart : f.lineStarts.getD ((f.lineCol pos).1.toNat - 1) 0 = f.lineStart pos := by
    rw [toNat_line_of_short pos h, Nat.add_sub_cancel, lineStart]
  rw [position, hstart, lineCol, UInt32.add_sub_cancel, UInt32.add_comm, UInt32.sub_add_cancel]

variable {pos} {pos' : UInt32}

theorem lineIndex_le_lineIndex (h : f.bytes.length < 2 ^ 32) (hle : pos ≤ pos') :
    f.lineIndex pos ≤ f.lineIndex pos' := by
  rw [lineIndex_eq_count pos h, lineIndex_eq_count pos' h]
  exact (List.take_sublist_take_left (UInt32.le_iff_toNat_le.1 hle)).count_le newline

/-- A later position is on a later line, or on the same line in a later column. -/
theorem lineCol_lt_lineCol (h : f.bytes.length < 2 ^ 32 - 1) (hpos' : pos'.toNat < 2 ^ 32 - 1) (hlt : pos < pos') :
    toLex (f.lineCol pos) < toLex (f.lineCol pos') := by
  have hltn := UInt32.lt_iff_toNat_lt.1 hlt
  have hline := toNat_line_of_short (f := f) pos h
  have hline' := toNat_line_of_short (f := f) pos' h
  rw [Prod.Lex.toLex_lt_toLex]
  rcases Nat.lt_or_eq_of_le (lineIndex_le_lineIndex (f := f) (by omega) (UInt32.le_of_lt hlt)) with hindex | hindex
  · exact .inl (UInt32.lt_iff_toNat_lt.2 (by omega))
  · -- two positions of one line are as far apart as their columns
    have hstart : f.lineStart pos = f.lineStart pos' := by rw [lineStart, lineStart, hindex]
    have hcolumn := toNat_column_of_lt (f := f) pos (by omega)
    have hcolumn' := toNat_column_of_lt (f := f) pos' hpos'
    rw [← hstart] at hcolumn'
    exact .inr ⟨UInt32.toNat_inj.1 (by omega), UInt32.lt_iff_toNat_lt.2 (by omega)⟩

theorem lt_iff_lineCol_lt (h : f.bytes.length < 2 ^ 32 - 1) (hpos : pos.toNat < 2 ^ 32 - 1)
    (hpos' : pos'.toNat < 2 ^ 32 - 1) : pos < pos' ↔ toLex (f.lineCol pos) < toLex (f.lineCol pos') := by
  refine ⟨lineCol_lt_lineCol h hpos', ?_⟩
  intro hplace
  rw [Prod.Lex.toLex_lt_toLex] at hplace
  simp only [UInt32.lt_iff_toNat_lt, ← UInt32.toNat_inj] at hplace ⊢
  by_contra hge
  rcases Nat.eq_or_lt_of_le (Nat.le_of_not_lt hge) with heq | hlt
  · rw [UInt32.toNat_inj.1 heq] at hplace
    omega
  · have hback := lineCol_lt_lineCol h hpos (UInt32.lt_iff_toNat_lt.2 hlt)
    rw [Prod.Lex.toLex_lt_toLex] at hback
    simp only [UInt32.lt_iff_toNat_lt, ← UInt32.toNat_inj] at hback
    omega

end SourceFile

/-- In a text that is not too long every position but the very last has the line and the column that one counts in the
text, before, on and after the end of a line and of the text.  They tell the position, and they come in its order. -/
theorem SourceMap.lineCol_isPlace (sources : SourceMap) (file : UInt32) (f : SourceFile)
    (hfile : sources.file? file = some f) (hlength : f.text.utf8ByteSize < 2 ^ 32 - 1) :
    (∀ pos : UInt32, pos.toNat < 2 ^ 32 - 1 →
      f.IsPlace pos.toNat (sources.lineCol file pos) ∧ f.position (sources.lineCol file pos) = pos) ∧
    ∀ pos pos' : UInt32, pos.toNat < 2 ^ 32 - 1 → pos'.toNat < 2 ^ 32 - 1 →
      (pos < pos' ↔ toLex (sources.lineCol file pos) < toLex (sources.lineCol file pos')) := by
  have hlineCol : ∀ pos, sources.lineCol file pos = f.lineCol pos := by
    intro pos
    rw [SourceMap.lineCol, hfile]
  rw [← f.length_bytes] at hlength
  simp only [hlineCol]
  refine ⟨?_, ?_⟩
  · intro pos hpos
    exact ⟨SourceFile.isPlace_lineCol pos hlength hpos, SourceFile.position_lineCol pos hlength⟩
  · intro pos pos' hpos hpos'
    exact SourceFile.lt_iff_lineCol_lt hlength hpos hpos'

/-- A text with an empty line in its middle and no newline at its end. -/
def blankLine : SourceFile :=
  ⟨"a.rb", "ab\n\nc"⟩

/-- On a newline, right after it, at the end of the text and past it. -/
theorem SourceMap.lineCol_isPlace_blankLine :
    [2, 3, 4, 5, 9].map (SourceMap.lineCol ⟨[blankLine]⟩ 0) = [(1, 3), (2, 1), (3, 1), (3, 2), (3, 6)] ∧
    blankLine.IsPlace 9 (3, 6) ∧ blankLine.position (3, 6) = 9 ∧
    ((3 : UInt32) < 9 ↔ toLex (SourceMap.lineCol ⟨[blankLine]⟩ 0 3) < toLex (SourceMap.lineCol ⟨[blankLine]⟩ 0 9)) := by
  have hplaces : [2, 3, 4, 5, 9].map (SourceMap.lineCol ⟨[blankLine]⟩ 0) =
      [(1, 3), (2, 1), (3, 1), (3, 2), (3, 6)] := by
    decide +kernel
  have hlast : SourceMap.lineCol ⟨[blankLine]⟩ 0 9 = (3, 6) := by
    decide +kernel
  obtain ⟨hplace, horder⟩ := SourceMap.lineCol_isPlace ⟨[blankLine]⟩ 0 blankLine rfl (by decide)
  have hnine := hplace 9 (by decide)
  rw [hlast] at hnine
  exact ⟨hplaces, hnine.1, hnine.2, horder 3 9 (by decide) (by decide)⟩

end TagCheck
