import TagCheck.Report.Problem
import TagCheck.Proofs.Position

/-!
# The arithmetic of showing a problem

A position becomes a line and a column of 32 bits, and the column becomes a number of blanks of 64 bits.  The position is
never before the start of its line, and the bounds on the number of carets are always in order.  What is left are the
two numbers that count from one.  The line has one unless the text has more lines than there are numbers.  The column
has one unless it is the last position of all on a line that starts with the file (`SourceMap.OffScale`); there the
column is zero, the blanks before it are more than a text can have, and the problem cannot be shown
(`Problem.render?_eq_none_iff`).
-/

namespace TagCheck

/-! ### Numbers that wrap around -/

namespace SourceMap

variable (sources : SourceMap)

/-- The number of lines before that of a position. -/
def lineIndex (file pos : UInt32) : Nat :=
  (sources.file? file).elim 0 (·.lineIndex pos)

/-- The position where the line of a position starts. -/
def lineStart (file pos : UInt32) : UInt32 :=
  (sources.file? file).elim 0 (·.lineStart pos)

theorem lineStart_le (file pos : UInt32) : sources.lineStart file pos ≤ pos := by
  unfold lineStart
  cases sources.file? file with
  | none => exact UInt32.zero_le
  | some f => exact f.lineStart_le pos

/-- No number wraps around on the way from a span to its line, its column and the blanks before the column. -/
structure Unwrapped (span : Span) : Prop where
  lineStart_le : sources.lineStart span.file span.start ≤ span.start
  line : (sources.lineCol span.file span.start).1.toNat = sources.lineIndex span.file span.start + 1
  column : (sources.lineCol span.file span.start).2.toNat =
    span.start.toNat - (sources.lineStart span.file span.start).toNat + 1
  blanks : ((sources.lineCol span.file span.start).2.toUInt64 - 1).toNat =
    span.start.toNat - (sources.lineStart span.file span.start).toNat

/-- The span starts at the last position of all and its line at the first, so that the column would be one more than
there are numbers for. -/
def OffScale (span : Span) : Prop :=
  span.start.toNat = 2 ^ 32 - 1 ∧ sources.lineStart span.file span.start = 0

theorem toNat_line (file pos : UInt32) :
    (sources.lineCol file pos).1.toNat = (sources.lineIndex file pos + 1) % 2 ^ 32 := by
  unfold lineCol lineIndex
  cases sources.file? file with
  | none => rfl
  | some f => exact SourceFile.toNat_line pos

theorem toNat_column (file pos : UInt32) :
    (sources.lineCol file pos).2.toNat = (pos.toNat - (sources.lineStart file pos).toNat + 1) % 2 ^ 32 := by
  unfold lineCol lineStart
  cases sources.file? file with
  | none => exact UInt32.toNat_add pos 1
  | some f => exact SourceFile.toNat_column pos

theorem column_eq_zero_iff (span : Span) :
    (sources.lineCol span.file span.start).2 = 0 ↔ sources.OffScale span := by
  have hlt := span.start.toNat_lt
  rw [OffScale, ← UInt32.toNat_inj, ← UInt32.toNat_inj, toNat_column, UInt32.toNat_zero]
  omega

/-- The blanks before a column wrap around for the column zero only. -/
theorem toNat_blanks (column : UInt32) :
    (column.toUInt64 - 1).toNat = if column = 0 then 2 ^ 64 - 1 else column.toNat - 1 := by
  split
  · subst column
    rfl
  · have hne : column.toNat ≠ 0 := by
      rwa [Ne, ← UInt32.toNat_zero, UInt32.toNat_inj]
    have hle : (1 : UInt64) ≤ column.toUInt64 := by
      rw [UInt64.le_iff_toNat_le, UInt32.toNat_toUInt64, UInt64.toNat_one]
      omega
    rw [UInt64.toNat_sub_of_le _ _ hle, UInt32.toNat_toUInt64, UInt64.toNat_one]

theorem unwrapped_iff (span : Span) :
    sources.Unwrapped span ↔ sources.lineIndex span.file span.start < 2 ^ 32 - 1 ∧ ¬ sources.OffScale span := by
  have hline := sources.toNat_line span.file span.start
  have hcolumn := sources.toNat_column span.file span.start
  have hzero := sources.column_eq_zero_iff span
  constructor
  · intro h
    refine ⟨?_, ?_⟩
    · have := h.line
      omega
    · intro hoff
      have := h.column
      rw [hzero.2 hoff, UInt32.toNat_zero] at this
      omega
  · rintro ⟨hindex, hoff⟩
    have hne : (sources.lineCol span.file span.start).2.toNat ≠ 0 := by
      rwa [← UInt32.toNat_zero, Ne, UInt32.toNat_inj, hzero]
    have hlt := span.start.toNat_lt
    have hexact : (sources.lineCol span.file span.start).2.toNat =
        span.start.toNat - (sources.lineStart span.file span.start).toNat + 1 := by
      omega
    refine ⟨sources.lineStart_le _ _, by omega, hexact, ?_⟩
    rw [toNat_blanks, if_neg (mt hzero.1 hoff), hexact, Nat.add_sub_cancel]

end SourceMap

/-! ### Carets and blanks -/

/-- The bounds on the number of carets are in order, whatever the span, the line and the column. -/
theorem caretCount?_eq_some (spanLength lineLength indent : Nat) :
    ∃ width, caretCount? spanLength lineLength indent = some width ∧ 1 ≤ width ∧ width ≤ max 1 spanLength := by
  exact ⟨_, if_pos (Nat.le_max_left ..), by omega, by omega⟩

theorem copies?_eq_none_iff {c : Char} {n : Nat} : copies? c n = none ↔ textCapacity < n * c.utf8Size := by
  simp [copies?]

namespace Problem

theorem excerpt?_eq_none_iff {styled : Bool} {line column : UInt32} {spanLength : Nat} {text : String}
    (h : spanLength < 2 ^ 32) : excerpt? styled line column spanLength text = none ↔ column = 0 := by
  have hlt := column.toNat_lt
  have hblanks := SourceMap.toNat_blanks column
  obtain ⟨width, hwidth, -, hle⟩ :=
    caretCount?_eq_some spanLength text.utf8ByteSize (column.toUInt64 - 1).toNat
  have hcarets : copies? '^' width ≠ none := by
    rw [Ne, copies?_eq_none_iff]
    simp [textCapacity, Char.utf8Size]
    omega
  obtain ⟨carets, hcarets⟩ := Option.ne_none_iff_exists'.1 hcarets
  have hspaces : copies? ' ' (column.toUInt64 - 1).toNat = none ↔ column = 0 := by
    rw [copies?_eq_none_iff, hblanks]
    split <;> simp [textCapacity, Char.utf8Size, *]
    omega
  rw [← hspaces]
  unfold excerpt?
  dsimp only
  rw [hwidth]
  cases copies? ' ' (column.toUInt64 - 1).toNat with
  | none => simp
  | some blanks => simp [hcarets]

theorem body?_eq_none_iff (p : Problem) (styled : Bool) (sources : SourceMap) :
    p.body? styled sources = none ↔ sources.OffScale p.location.span ∧
      (shownLine? sources p.location.span.file
        (sources.lineCol p.location.span.file p.location.span.start).1).isSome := by
  have hlength : p.location.span.length < 2 ^ 32 := by
    have := p.location.span.stop.toNat_lt
    unfold Span.length
    omega
  rw [← SourceMap.column_eq_zero_iff]
  unfold body?
  dsimp only
  cases shownLine? sources p.location.span.file (sources.lineCol p.location.span.file p.location.span.start).1 with
  | none => simp
  | some text => simp [excerpt?_eq_none_iff hlength]

/-- A problem cannot be shown if and only if its column has no number and a line of text is to be shown with it. -/
theorem render?_eq_none_iff (p : Problem) (styled : Bool) (sources : SourceMap) :
    p.render? styled sources = none ↔ sources.OffScale p.location.span ∧
      (shownLine? sources p.location.span.file
        (sources.lineCol p.location.span.file p.location.span.start).1).isSome := by
  rw [← body?_eq_none_iff p styled sources]
  exact Option.map_eq_none_iff

end Problem

/-! ### Texts whose positions have numbers -/

theorem afterLastNewline_eq_zero_iff {bs : List UInt8} : afterLastNewline bs = 0 ↔ newline ∉ bs := by
  rw [afterLastNewline, List.length_eq_zero_iff, List.rdropWhile_eq_nil_iff]
  refine ⟨?_, ?_⟩
  · intro h hmem
    simpa using h _ hmem
  · rintro h b hb
    exact bne_iff_ne.2 fun heq => h (heq ▸ hb)

theorem linesFrom_ne_nil {line cs : List Char} (h : line ≠ [] ∨ cs ≠ []) : linesFrom line cs ≠ [] := by
  induction cs generalizing line with
  | nil => simpa [linesFrom] using h
  | cons c cs ih =>
    rw [linesFrom]
    split
    · exact List.cons_ne_nil _ _
    · exact ih (.inl (List.cons_ne_nil _ _))

/-- Every text but the empty one has a first line. -/
theorem SourceFile.isSome_lines_zero (f : SourceFile) : f.lines[0]?.isSome ↔ f.text ≠ "" := by
  have hlines : linesFrom [] f.text.toList ≠ [] ↔ f.text.toList ≠ [] := by
    refine ⟨?_, fun h => linesFrom_ne_nil (.inr h)⟩
    rintro h hempty
    rw [hempty] at h
    exact h rfl
  rw [Ne, ← String.toList_eq_nil_iff, ← Ne, ← hlines, SourceFile.lines]
  simp [List.length_pos_iff]

namespace SourceMap

variable {sources : SourceMap} {span : Span}

theorem lineIndex_lt_of_short (h : ∀ f, sources.file? span.file = some f → f.text.utf8ByteSize < 2 ^ 32 - 1) :
    sources.lineIndex span.file span.start < 2 ^ 32 - 1 := by
  unfold lineIndex
  cases hfile : sources.file? span.file with
  | none => simp
  | some f =>
    have hlength := h f hfile
    rw [← SourceFile.length_bytes] at hlength
    exact Nat.lt_of_le_of_lt (f.lineIndex_le_length span.start) hlength

/-- The last position of all is on the first line, if there is no second. -/
theorem offScale_iff_of_short (h : ∀ f, sources.file? span.file = some f → f.text.utf8ByteSize < 2 ^ 32 - 1) :
    sources.OffScale span ↔
      span.start.toNat = 2 ^ 32 - 1 ∧ ∀ f, sources.file? span.file = some f → newline ∉ f.bytes := by
  refine and_congr_right ?_
  intro hlast
  unfold lineStart
  cases hfile : sources.file? span.file with
  | none => simp
  | some f =>
    have hlength := h f hfile
    rw [← SourceFile.length_bytes] at hlength
    have hall : f.bytes.take span.start.toNat = f.bytes := List.take_of_length_le (by omega)
    rw [Option.elim_some, ← UInt32.toNat_inj, SourceFile.toNat_lineStart _ (by omega), hall, UInt32.toNat_zero,
      afterLastNewline_eq_zero_iff]
    simp

end SourceMap

theorem Problem.render?_eq_none_iff_of_short {p : Problem} {styled : Bool} {sources : SourceMap}
    (h : ∀ f, sources.file? p.location.span.file = some f → f.text.utf8ByteSize < 2 ^ 32 - 1) :
    p.render? styled sources = none ↔ p.location.span.start.toNat = 2 ^ 32 - 1 ∧
      ∃ f, sources.file? p.location.span.file = some f ∧ newline ∉ f.bytes ∧ f.text ≠ "" := by
  rw [render?_eq_none_iff, SourceMap.offScale_iff_of_short h, and_assoc]
  refine and_congr_right ?_
  intro hlast
  unfold shownLine?
  cases hfile : sources.file? p.location.span.file with
  | none => simp
  | some f =>
    have hlength := h f hfile
    rw [← SourceFile.length_bytes] at hlength
    -- without a newline the first line is the only one
    have hline : newline ∉ f.bytes →
        (sources.lineCol p.location.span.file p.location.span.start).1.toNat - 1 = 0 := by
      intro hnone
      rw [SourceMap.lineCol, hfile]
      dsimp only
      rw [SourceFile.toNat_line_of_short _ hlength, SourceFile.lineIndex_eq_count _ (by omega),
        List.count_eq_zero_of_not_mem fun hmem => hnone (List.mem_of_mem_take hmem)]
    constructor
    · rintro ⟨hnone, hshown⟩
      rw [Option.bind_some, hline (hnone f rfl), f.isSome_lines_zero] at hshown
      exact ⟨f, rfl, hnone f rfl, hshown⟩
    · rintro ⟨f', hf', hnone, hne⟩
      obtain rfl := Option.some.inj hf'
      rw [Option.bind_some, hline hnone, f.isSome_lines_zero]
      refine ⟨?_, hne⟩
      intro f' hf'
      obtain rfl := Option.some.inj hf'
      exact hnone

/-- Showing a problem, whatever its span and the texts.  The position is not before the start of its line.  The numbers
are exact unless there are too many lines or the column is off the scale, the bounds of the carets are in order, and only
a line of text whose column is off the scale cannot be shown.  In a text that is not too long that is the last position
of all in a text of one line. -/
theorem Problem.rendering_exact (sources : SourceMap) (p : Problem) (styled : Bool) :
    sources.lineStart p.location.span.file p.location.span.start ≤ p.location.span.start ∧
    (sources.Unwrapped p.location.span ↔
      sources.lineIndex p.location.span.file p.location.span.start < 2 ^ 32 - 1 ∧
        ¬ sources.OffScale p.location.span) ∧
    (∀ lineLength indent, ∃ width,
      caretCount? p.location.span.length lineLength indent = some width ∧
        1 ≤ width ∧ width ≤ max 1 p.location.span.length) ∧
    (p.render? styled sources = none ↔ sources.OffScale p.location.span ∧
      (shownLine? sources p.location.span.file
        (sources.lineCol p.location.span.file p.location.span.start).1).isSome) ∧
    ((∀ f, sources.file? p.location.span.file = some f → f.text.utf8ByteSize < 2 ^ 32 - 1) →
      (sources.Unwrapped p.location.span ↔ ¬(p.location.span.start.toNat = 2 ^ 32 - 1 ∧
        ∀ f, sources.file? p.location.span.file = some f → newline ∉ f.bytes)) ∧
      (p.render? styled sources = none ↔ p.location.span.start.toNat = 2 ^ 32 - 1 ∧
        ∃ f, sources.file? p.location.span.file = some f ∧ newline ∉ f.bytes ∧ f.text ≠ "")) := by
  refine ⟨sources.lineStart_le _ _, sources.unwrapped_iff _, caretCount?_eq_some _,
    p.render?_eq_none_iff styled sources, ?_⟩
  intro hshort
  refine ⟨?_, Problem.render?_eq_none_iff_of_short hshort⟩
  rw [sources.unwrapped_iff, ← SourceMap.offScale_iff_of_short hshort]
  exact and_iff_right (SourceMap.lineIndex_lt_of_short hshort)

/-- A problem at a span of the first file. -/
def problemAt (start stop : UInt32) : Problem where
  kind := .mismatch
  severity := .error
  message := "m"
  code := "Y0001"
  location := ⟨.assignment 0, ⟨start, stop, 0⟩⟩

/-- A problem at the last position of all. -/
def farProblem : Problem :=
  problemAt 4294967295 4294967295

/-- Behind a newline the last position of all has a column, and without one it has none. -/
theorem rendering_exact_farProblem :
    SourceMap.Unwrapped ⟨[⟨"a.rb", "x\n"⟩]⟩ farProblem.location.span ∧
    farProblem.render? false ⟨[⟨"a.rb", "x\n"⟩]⟩ ≠ none ∧
    ¬ SourceMap.Unwrapped ⟨[⟨"a.rb", "x"⟩]⟩ farProblem.location.span ∧
    farProblem.render? false ⟨[⟨"a.rb", "x"⟩]⟩ = none := by
  have hshort : ∀ f : SourceFile, f.text.utf8ByteSize < 2 ^ 32 - 1 →
      ∀ f', SourceMap.file? ⟨[f]⟩ farProblem.location.span.file = some f' → f'.text.utf8ByteSize < 2 ^ 32 - 1 := by
    rintro f hf f' hf'
    rwa [← Option.some.inj hf']
  obtain ⟨-, -, -, -, hlines⟩ := Problem.rendering_exact ⟨[⟨"a.rb", "x\n"⟩]⟩ farProblem false
  obtain ⟨-, -, -, -, hline⟩ := Problem.rendering_exact ⟨[⟨"a.rb", "x"⟩]⟩ farProblem false
  have hmem : newline ∈ SourceFile.bytes ⟨"a.rb", "x\n"⟩ := by decide +kernel
  have hnone : newline ∉ SourceFile.bytes ⟨"a.rb", "x"⟩ := by decide +kernel
  have hlines := hlines (hshort _ (by decide))
  have hline := hline (hshort _ (by decide))
  refine ⟨hlines.1.2 ?_, mt hlines.2.1 ?_, mt hline.1.1 ?_, hline.2.2 ⟨rfl, _, rfl, hnone, by decide⟩⟩
  · rintro ⟨-, hall⟩
    exact hall _ rfl hmem
  · rintro ⟨-, f, hf, hnot, -⟩
    rw [← Option.some.inj hf] at hnot
    exact hnot hmem
  · rw [not_not]
    refine ⟨rfl, ?_⟩
    rintro f hf
    rwa [← Option.some.inj hf]

/-- The column of the last position of all is zero in a text without a newline, and the problem cannot be shown. -/
theorem farProblem_wraps :
    SourceMap.lineCol ⟨[⟨"a.rb", "x"⟩]⟩ 0 4294967295 = (1, 0) ∧
      farProblem.render? false ⟨[⟨"a.rb", "x"⟩]⟩ = none := by
  decide +kernel

end TagCheck
