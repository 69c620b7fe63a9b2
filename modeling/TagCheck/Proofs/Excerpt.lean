import TagCheck.Proofs.Rendering

/-!
# The line that is shown

The line of a position is found in two ways: its number by searching the positions where lines start, which counts
bytes, and its text by cutting the characters of the source at newlines.  Both mean the same line.  A newline is one byte
that no other character has in it (`newline_mem_utf8EncodeChar_iff`), so what starts behind a newline in the bytes
starts behind one in the characters (`exists_split_of_utf8`), and the lines before are as many as the newlines
(`SourceFile.map_getElem?_lines`).  Only behind the last newline of a text, or in an empty one, there is a position and
no line.

Below the line stand blanks up to the column and carets (`Problem.exists_excerpt`).  The rows of an excerpt start with a
margin of three characters, but the number of the line takes more if it has four digits, and then the carets stand too
far to the left (`Excerpt.pointsAt_iff`).
-/

namespace TagCheck

/-! ### Bytes of characters -/

/-- The bytes of some characters. -/
def utf8 (cs : List Char) : List UInt8 :=
  cs.flatMap String.utf8EncodeChar

theorem utf8_cons (c : Char) (cs : List Char) : utf8 (c :: cs) = String.utf8EncodeChar c ++ utf8 cs :=
  List.flatMap_cons

theorem utf8_append (cs ds : List Char) : utf8 (cs ++ ds) = utf8 cs ++ utf8 ds :=
  List.flatMap_append

theorem SourceFile.bytes_eq_utf8 (f : SourceFile) : f.bytes = utf8 f.text.toList := by
  have hbytes : f.text.toUTF8 = (utf8 f.text.toList).toByteArray := String.utf8Encode_toList.symm
  rw [SourceFile.bytes, hbytes, List.data_toByteArray]

/-- The byte that may stand before a newline and is then no part of the line. -/
def carriageReturn : UInt8 :=
  13

/-- The byte of an ASCII character is in the bytes of no other character. -/
private theorem ascii_mem_utf8EncodeChar_iff {c : Char} (d : Char) (hd : d.toNat < 128) :
    UInt8.ofNat d.toNat ∈ String.utf8EncodeChar c ↔ c = d := by
  have hchar : c = d ↔ c.val.toNat = d.toNat := by
    rw [Char.ext_iff, ← UInt32.toNat_inj]
    rfl
  rw [hchar]
  -- the bytes of a longer encoding are all beyond 127
  fun_cases String.utf8EncodeChar c <;>
    simp only [List.mem_cons, List.not_mem_nil, or_false, ← UInt8.toNat_inj, UInt8.toNat_ofNat'] <;> omega

theorem newline_mem_utf8EncodeChar_iff {c : Char} : newline ∈ String.utf8EncodeChar c ↔ c = '\n' :=
  ascii_mem_utf8EncodeChar_iff '\n' (by decide)

theorem carriageReturn_mem_utf8EncodeChar_iff {c : Char} : carriageReturn ∈ String.utf8EncodeChar c ↔ c = '\r' :=
  ascii_mem_utf8EncodeChar_iff '\r' (by decide)

theorem newline_mem_utf8_iff {cs : List Char} : newline ∈ utf8 cs ↔ '\n' ∈ cs := by
  simp [utf8, List.mem_flatMap, newline_mem_utf8EncodeChar_iff]

theorem utf8_eq_nil_iff {cs : List Char} : utf8 cs = [] ↔ cs = [] := by
  cases cs <;> simp [utf8, String.utf8EncodeChar_ne_nil]

theorem count_utf8 (cs : List Char) : (utf8 cs).count newline = cs.count '\n' := by
  induction cs with
  | nil => rfl
  | cons c cs ih =>
    rw [utf8_cons, List.count_append, ih, List.count_cons, Nat.add_comm]
    by_cases hc : c = '\n'
    · subst hc
      rfl
    · rw [List.count_eq_zero_of_not_mem (mt newline_mem_utf8EncodeChar_iff.1 hc)]
      simp [hc]

/-- Where the bytes have a newline, the characters have one. -/
theorem exists_split_of_utf8 {cs : List Char} {before after : List UInt8} (h : utf8 cs = before ++ newline :: after) :
    ∃ front back, cs = front ++ '\n' :: back ∧ utf8 front = before ∧ utf8 back = after := by
  induction cs generalizing before with
  | nil => simp [utf8] at h
  | cons c cs ih =>
    rw [utf8_cons, List.append_eq_append_iff] at h
    have hinner : ∀ before', before = String.utf8EncodeChar c ++ before' → utf8 cs = before' ++ newline :: after →
        ∃ front back, c :: cs = front ++ '\n' :: back ∧ utf8 front = before ∧ utf8 back = after := by
      rintro before' rfl hrest
      obtain ⟨front, back, rfl, rfl, rfl⟩ := ih hrest
      exact ⟨c :: front, back, rfl, utf8_cons c front, rfl⟩
    rcases h with ⟨before', hbefore, hrest⟩ | ⟨bytes, hc, hrest⟩
    · exact hinner before' hbefore hrest
    · cases bytes with
      | nil => exact hinner [] (by simpa using hc.symm) hrest.symm
      | cons b bytes =>
        -- the newline is a byte of this character, and so it is all of it
        obtain ⟨rfl, hafter⟩ := List.cons.inj hrest
        obtain rfl : c = '\n' := newline_mem_utf8EncodeChar_iff.1 (hc ▸ List.mem_append_right _ List.mem_cons_self)
        obtain ⟨rfl, rfl⟩ : before = [] ∧ bytes = [] := by
          have hlength := congrArg List.length hc
          rw [List.length_append, List.length_cons] at hlength
          have hone : (String.utf8EncodeChar '\n').length = 1 := rfl
          constructor <;> rw [← List.length_eq_zero_iff] <;> omega
        exact ⟨[], cs, rfl, rfl, hafter.symm⟩

/-! ### Lines -/

theorem linesFrom_of_notMem {line cs : List Char} (h : '\n' ∉ cs) :
    linesFrom line cs = if line = [] ∧ cs = [] then [] else [line.reverse ++ cs] := by
  induction cs generalizing line with
  | nil => simp [linesFrom]
  | cons c cs ih =>
    obtain ⟨hc, hcs⟩ := not_or.1 (mt List.mem_cons.2 h)
    have hne : (c == '\n') = false := beq_false_of_ne (Ne.symm hc)
    rw [linesFrom, if_neg (by simp [hne]), ih hcs]
    simp

theorem linesFrom_segment {line segment : List Char} (rest : List Char) (h : '\n' ∉ segment) :
    linesFrom line (segment ++ '\n' :: rest) = (dropReturn (segment.reverse ++ line)).reverse :: linesFrom [] rest := by
  induction segment generalizing line with
  | nil => rfl
  | cons c segment ih =>
    obtain ⟨hc, hsegment⟩ := not_or.1 (mt List.mem_cons.2 h)
    have hne : (c == '\n') = false := beq_false_of_ne (Ne.symm hc)
    rw [List.cons_append, linesFrom, if_neg (by simp [hne]), ih hsegment]
    simp

/-- What comes behind a newline is cut into lines for itself. -/
theorem linesFrom_append (line front back : List Char) :
    linesFrom line (front ++ '\n' :: back) = linesFrom line (front ++ ['\n']) ++ linesFrom [] back := by
  induction front generalizing line with
  | nil => rfl
  | cons c front ih =>
    simp only [List.cons_append, linesFrom]
    split
    · rw [ih, List.cons_append]
    · rw [ih]

theorem length_linesFrom (line front : List Char) :
    (linesFrom line (front ++ ['\n'])).length = (front ++ ['\n']).count '\n' := by
  induction front generalizing line with
  | nil => rfl
  | cons c front ih =>
    simp only [List.cons_append, linesFrom, List.count_cons]
    split <;> simp [ih]

/-- The first line of a text: what comes before the first newline, without a carriage return directly before it, or all
of the text if there is no newline. -/
def firstLine (bs : List UInt8) : List UInt8 :=
  let line := bs.takeWhile (· != newline)
  if newline ∈ bs ∧ line.getLast? = some carriageReturn then line.dropLast else line

example : firstLine [97, 13, 13, 10, 98] = [97, 13] := by decide

private theorem utf8_dropReturn (segment : List Char) :
    utf8 (dropReturn segment.reverse).reverse =
      if (utf8 segment).getLast? = some carriageReturn then (utf8 segment).dropLast else utf8 segment := by
  induction segment using List.reverseRecOn with
  | nil => rfl
  | append_singleton segment c _ =>
    rw [List.reverse_concat, utf8_append]
    by_cases hc : c = '\r'
    · subst hc
      have hbyte : utf8 ['\r'] = [carriageReturn] := rfl
      rw [hbyte, if_pos List.getLast?_concat, List.dropLast_concat, dropReturn, List.reverse_reverse]
    · have hlast : (utf8 segment ++ utf8 [c]).getLast? ≠ some carriageReturn := by
        intro hlast
        have hmem : carriageReturn ∈ utf8 [c] := by
          rw [List.getLast?_append_of_ne_nil _ (mt utf8_eq_nil_iff.1 (List.cons_ne_nil c []))] at hlast
          exact List.mem_of_getLast? hlast
        exact hc (carriageReturn_mem_utf8EncodeChar_iff.1 (by simpa [utf8] using hmem))
      rw [if_neg hlast, dropReturn.eq_2 _ (by simp [hc])]
      simp [utf8]

private theorem head?_linesFrom (cs : List Char) :
    (linesFrom [] cs).head?.map utf8 = if utf8 cs = [] then none else some (firstLine (utf8 cs)) := by
  by_cases hnewline : '\n' ∈ cs
  · obtain ⟨segment, rest, rfl, hsegment⟩ := List.eq_append_cons_of_mem hnewline
    have hbytes : utf8 (segment ++ '\n' :: rest) = utf8 segment ++ newline :: utf8 rest := by
      rw [utf8_append, utf8_cons]
      rfl
    have hline : (utf8 segment ++ newline :: utf8 rest).takeWhile (· != newline) = utf8 segment := by
      rw [List.takeWhile_append_of_pos, List.takeWhile_cons_of_neg (by simp), List.append_nil]
      intro b hb
      exact bne_iff_ne.2 fun heq => hsegment (newline_mem_utf8_iff.1 (heq ▸ hb))
    have hne : utf8 segment ++ newline :: utf8 rest ≠ [] := by simp
    rw [linesFrom_segment rest hsegment, List.head?_cons, Option.map_some, List.append_nil, utf8_dropReturn, hbytes,
      if_neg hne, firstLine, hline]
    simp
  · rw [linesFrom_of_notMem hnewline]
    by_cases hcs : cs = []
    · simp [hcs, utf8]
    · have hnone : newline ∉ utf8 cs := mt newline_mem_utf8_iff.1 hnewline
      have hall : (utf8 cs).takeWhile (· != newline) = utf8 cs := by
        rw [List.takeWhile_eq_self_iff]
        intro b hb
        exact bne_iff_ne.2 fun heq => hnone (heq ▸ hb)
      simp [hcs, utf8_eq_nil_iff, firstLine, hall, hnone]

namespace SourceFile

variable {f : SourceFile}

/-- The line after some bytes, where these end with a newline or are none: as many lines come before it as the bytes have
newlines. -/
theorem map_getElem?_lines {before after : List UInt8} (h : f.bytes = before ++ after)
    (hbefore : before = [] ∨ before.getLast? = some newline) :
    f.lines[before.count newline]?.map (utf8 ·.toList) = if after = [] then none else some (firstLine after) := by
  have hlines : ∀ n : Nat, f.lines[n]?.map (utf8 ·.toList) = (linesFrom [] f.text.toList)[n]?.map utf8 := by
    intro n
    rw [lines, List.getElem?_map, Option.map_map]
    congr 1
    funext cs
    rw [Function.comp_apply, String.toList_ofList]
  rw [hlines]
  rw [bytes_eq_utf8] at h
  rcases hbefore with rfl | hlast
  · rw [List.nil_append] at h
    rw [List.count_nil, ← List.head?_eq_getElem?, head?_linesFrom, h]
  · obtain ⟨bytes, rfl⟩ := List.getLast?_eq_some_iff.1 hlast
    rw [List.append_assoc, List.singleton_append] at h
    obtain ⟨front, back, hchars, rfl, rfl⟩ := exists_split_of_utf8 h
    have hcount : (utf8 front ++ [newline]).count newline = (linesFrom [] (front ++ ['\n'])).length := by
      rw [length_linesFrom, ← count_utf8, utf8_append]
      rfl
    rw [hchars, linesFrom_append, hcount, List.getElem?_append_right (Nat.le_refl _), Nat.sub_self,
      ← List.head?_eq_getElem?, head?_linesFrom]

/-! ### Lines of positions -/

private theorem take_afterLastNewline (bs : List UInt8) :
    bs.take (afterLastNewline bs) = bs.rdropWhile (· != newline) :=
  (List.prefix_iff_eq_take.1 (List.rdropWhile_prefix _ bs)).symm

private theorem count_rdropWhile (bs : List UInt8) : (bs.rdropWhile (· != newline)).count newline = bs.count newline := by
  induction bs using List.reverseRecOn with
  | nil => rfl
  | append_singleton bs b ih =>
    rw [List.rdropWhile_concat]
    by_cases hb : b = newline
    · simp [hb]
    · simp [hb, ih, List.count_append]

private theorem getLast?_rdropWhile (bs : List UInt8) :
    bs.rdropWhile (· != newline) = [] ∨ (bs.rdropWhile (· != newline)).getLast? = some newline := by
  by_cases hne : bs.rdropWhile (· != newline) = []
  · exact Or.inl hne
  · refine Or.inr ?_
    have hlast := List.rdropWhile_last_not (· != newline) bs hne
    rw [List.getLast?_eq_some_getLast hne]
    simpa using hlast

/-- The position is at the end of the text, in an empty text or behind a newline. -/
def AtEmptyEnd (f : SourceFile) (pos : Nat) : Prop :=
  pos = f.bytes.length ∧ (f.bytes = [] ∨ f.bytes.getLast? = some newline)

/-- Nothing comes behind the start of a line only where the line is empty and the last one. -/
theorem drop_eq_nil_iff {pos : Nat} (h : pos ≤ f.bytes.length) :
    f.bytes.drop (afterLastNewline (f.bytes.take pos)) = [] ↔ f.AtEmptyEnd pos := by
  have hle := afterLastNewline_le (f.bytes.take pos)
  rw [List.length_take] at hle
  rw [List.drop_eq_nil_iff, AtEmptyEnd]
  constructor
  · intro hall
    have hpos : pos = f.bytes.length := by omega
    refine ⟨hpos, ?_⟩
    have hself : f.bytes.rdropWhile (· != newline) = f.bytes := by
      rw [hpos, List.take_length] at hall
      rw [← take_afterLastNewline, List.take_of_length_le hall]
    rw [← hself]
    exact getLast?_rdropWhile f.bytes
  · rintro ⟨rfl, hend⟩
    rw [List.take_length]
    rcases hend with hempty | hlast
    · simp [hempty]
    · obtain ⟨bytes, hbytes⟩ := List.getLast?_eq_some_iff.1 hlast
      rw [hbytes, afterLastNewline, List.rdropWhile_concat_neg]
      simp

/-- The line whose number a position has is the line that the position is on. -/
theorem map_shownLine? {pos : UInt32} (hlength : f.bytes.length < 2 ^ 32 - 1) (hpos : pos.toNat ≤ f.bytes.length) :
    f.lines[(f.lineCol pos).1.toNat - 1]?.map (utf8 ·.toList) =
      if f.bytes.drop (f.lineStart pos).toNat = [] then none
      else some (firstLine (f.bytes.drop (f.lineStart pos).toNat)) := by
  have hbefore : f.bytes.take (f.lineStart pos).toNat = (f.bytes.take pos.toNat).rdropWhile (· != newline) := by
    have hle := afterLastNewline_le (f.bytes.take pos.toNat)
    rw [List.length_take] at hle
    rw [← take_afterLastNewline, List.take_take, toNat_lineStart pos (by omega)]
    congr 1
    omega
  have hcount : (f.lineCol pos).1.toNat - 1 = (f.bytes.take (f.lineStart pos).toNat).count newline := by
    rw [toNat_line_of_short pos hlength, lineIndex_eq_count pos (by omega), hbefore, count_rdropWhile, Nat.add_sub_cancel]
  rw [hcount]
  refine map_getElem?_lines (List.take_append_drop _ _).symm ?_
  rw [hbefore]
  exact getLast?_rdropWhile _

end SourceFile

/-! ### Excerpts -/

/-- A line of source text by its number, with blanks and carets below it. -/
structure Excerpt where
  number : UInt32
  source : String
  indent : Nat
  carets : Nat

namespace Excerpt

/-- What stands before the pipe in the row of the source line. -/
def margin (e : Excerpt) : String :=
  padRight 3 (toString e.number)

/-- A row of an excerpt: a margin, a pipe and what comes behind it. -/
def row (styled : Bool) (margin content : String) : String :=
  margin ++ bold styled (some .blue) (padRight 3 "|") ++ content ++ "\n"

/-- The three rows of an excerpt. -/
def text (e : Excerpt) (styled : Bool) : String :=
  row styled "   " "" ++ row styled (bold styled (some .blue) e.margin) e.source ++
    row styled "   " (String.ofList (List.replicate e.indent ' ') ++
      bold styled (some .red) (String.ofList (List.replicate e.carets '^')))

/-- The first caret stands under the given column of the source line: as many bytes come before it in its row as before
that column in the row above.  A margin has a byte for each character, and codes for styles take no room. -/
def PointsAt (e : Excerpt) (column : Nat) : Prop :=
  ("   " ++ padRight 3 "|").length + e.indent = (e.margin ++ padRight 3 "|").length + (column - 1)

theorem text_ne_empty (e : Excerpt) (styled : Bool) : e.text styled ≠ "" := by
  simp [text, row]

theorem length_padRight (width : Nat) (text : String) : (padRight width text).length = max width text.length := by
  rw [padRight, String.length_append, String.length_ofList, List.length_replicate]
  omega

/-- The margin of the source line is as wide as that of the carets up to three digits. -/
theorem pointsAt_iff {e : Excerpt} {column : Nat} (h : e.indent + 1 = column) :
    e.PointsAt column ↔ e.number.toNat < 1000 := by
  have hdigits : (toString e.number).length ≤ 3 ↔ e.number.toNat < 1000 :=
    Nat.length_repr_le_iff (n := e.number.toNat) (by decide)
  have hcarets : "   ".length = 3 := rfl
  rw [PointsAt, margin, String.length_append, String.length_append, length_padRight 3 (toString e.number), hcarets,
    ← hdigits]
  omega

end Excerpt

theorem copies?_eq_some {c : Char} {n : Nat} (h : n * c.utf8Size ≤ textCapacity) :
    copies? c n = some (String.ofList (List.replicate n c)) :=
  if_pos h

/-- The carets stay on the line, except for the one that there is at least. -/
theorem add_le_of_caretCount? {spanLength lineLength indent width : Nat}
    (h : caretCount? spanLength lineLength indent = some width) : indent + width ≤ max lineLength (indent + 1) := by
  rw [caretCount?, clamp?, if_pos (Nat.le_max_left ..)] at h
  have := Option.some.inj h
  omega

namespace Problem

/-- An excerpt can be shown at every column, however long the span. -/
theorem exists_excerpt (styled : Bool) (line : UInt32) (text : String) {column : UInt32} {spanLength : Nat}
    (hcolumn : column ≠ 0) (hspan : spanLength < 2 ^ 32) :
    ∃ e : Excerpt, excerpt? styled line column spanLength text = some (e.text styled) ∧ e.number = line ∧
      e.source = text ∧ e.indent + 1 = column.toNat ∧ 1 ≤ e.carets ∧
      e.indent + e.carets ≤ max text.utf8ByteSize column.toNat := by
  have hlt := column.toNat_lt
  have hpos : column.toNat ≠ 0 := by
    rwa [Ne, ← UInt32.toNat_zero, UInt32.toNat_inj]
  have hindent := SourceMap.toNat_blanks column
  rw [if_neg hcolumn] at hindent
  obtain ⟨width, hwidth, hone, hle⟩ := caretCount?_eq_some spanLength text.utf8ByteSize (column.toNat - 1)
  have hend := add_le_of_caretCount? hwidth
  have hcarets : copies? '^' width = some (String.ofList (List.replicate width '^')) := by
    have hsize : '^'.utf8Size = 1 := by decide
    refine copies?_eq_some ?_
    rw [hsize, textCapacity]
    omega
  have hblanks : copies? ' ' (column.toNat - 1) = some (String.ofList (List.replicate (column.toNat - 1) ' ')) := by
    have hsize : ' '.utf8Size = 1 := by decide
    refine copies?_eq_some ?_
    rw [hsize, textCapacity]
    omega
  refine ⟨⟨line, text, column.toNat - 1, width⟩, ?_, rfl, rfl, by dsimp only; omega, hone, by dsimp only; omega⟩
  unfold excerpt?
  simp only [hindent, hwidth, hcarets, hblanks, Option.bind_eq_bind, Option.bind_some, Option.pure_def, Excerpt.text,
    Excerpt.row, Excerpt.margin, String.append_assoc, String.append_empty]

theorem body?_eq {p : Problem} {styled : Bool} {sources : SourceMap} {f : SourceFile} {line column : UInt32}
    (hfile : sources.file? p.location.span.file = some f)
    (hplace : sources.lineCol p.location.span.file p.location.span.start = (line, column)) :
    p.body? styled sources = f.lines[line.toNat - 1]?.elim (some (placeRow styled f.path line column)) fun text =>
      (excerpt? styled line column p.location.span.length text).map (placeRow styled f.path line column ++ ·) := by
  unfold body?
  simp only [hplace, shownLine?, hfile, Option.bind_some, Option.elim_some]
  cases f.lines[line.toNat - 1]? <;> rfl

/-- Showing a problem in a text that is not too long, where the span starts in the text or at its end.  The source line is
left out exactly where the span starts on no line, at the end of an empty text or behind the last newline.  Otherwise it
is the line that starts `column - 1` bytes before the span.  The carets come behind `column - 1` blanks; there is one at
least, and but for it they are no longer than the line.  They stand under the column as long as the number of the line
has no more than three digits. -/
theorem body?_shows_line (sources : SourceMap) (p : Problem) (styled : Bool) (f : SourceFile) (line column : UInt32)
    (hfile : sources.file? p.location.span.file = some f) (hlength : f.text.utf8ByteSize < 2 ^ 32 - 1)
    (hstart : p.location.span.start.toNat ≤ f.text.utf8ByteSize)
    (hplace : sources.lineCol p.location.span.file p.location.span.start = (line, column)) :
    (p.body? styled sources = some (placeRow styled f.path line column) ↔
      f.AtEmptyEnd p.location.span.start.toNat) ∧
    (¬ f.AtEmptyEnd p.location.span.start.toNat → ∃ e : Excerpt,
      p.body? styled sources = some (placeRow styled f.path line column ++ e.text styled) ∧
      e.number = line ∧
      utf8 e.source.toList = firstLine (f.bytes.drop (p.location.span.start.toNat - (column.toNat - 1))) ∧
      e.indent + 1 = column.toNat ∧ 1 ≤ e.carets ∧
      e.indent + e.carets ≤ max e.source.utf8ByteSize column.toNat ∧
      (e.PointsAt column.toNat ↔ line.toNat < 1000)) := by
  rw [← f.length_bytes] at hlength hstart
  have hlineCol : f.lineCol p.location.span.start = (line, column) := by
    rwa [SourceMap.lineCol, hfile] at hplace
  have hle := UInt32.le_iff_toNat_le.1 (f.lineStart_le p.location.span.start)
  have hcolumn := SourceFile.toNat_column_of_lt (f := f) p.location.span.start (by omega)
  have hshown := SourceFile.map_shownLine? hlength hstart
  have hempty := SourceFile.drop_eq_nil_iff hstart
  rw [← SourceFile.toNat_lineStart _ (by omega)] at hempty
  rw [hlineCol] at hcolumn hshown
  dsimp only at hcolumn hshown
  have hstarts : p.location.span.start.toNat - (column.toNat - 1) = (f.lineStart p.location.span.start).toNat := by
    omega
  rw [body?_eq hfile hplace, hstarts]
  by_cases hend : f.AtEmptyEnd p.location.span.start.toNat
  · rw [if_pos (hempty.2 hend), Option.map_eq_none_iff] at hshown
    rw [hshown]
    exact ⟨iff_of_true rfl hend, fun hnot => absurd hend hnot⟩
  · rw [if_neg (mt hempty.1 hend), Option.map_eq_some_iff] at hshown
    obtain ⟨text, htext, hbytes⟩ := hshown
    have hzero : column ≠ 0 := by
      rintro rfl
      rw [UInt32.toNat_zero] at hcolumn
      omega
    have hspan : p.location.span.length < 2 ^ 32 := by
      have := p.location.span.stop.toNat_lt
      unfold Span.length
      omega
    obtain ⟨e, hexcerpt, rfl, rfl, hindent, hone, hwidth⟩ := exists_excerpt styled line text hzero hspan
    rw [htext, Option.elim_some, hexcerpt, Option.map_some]
    refine ⟨iff_of_false ?_ hend, fun _ => ⟨e, rfl, rfl, hbytes, hindent, hone, hwidth, e.pointsAt_iff hindent⟩⟩
    simp [e.text_ne_empty]

end Problem

/-- A text with a character of two bytes, a carriage return and a newline at its end. -/
def twoLines : SourceFile :=
  ⟨"a.rb", "é\r\nxyz\n"⟩

/-- On the first newline of the text the carets stand behind the end of the line, and behind the last one there is no
line. -/
theorem body?_shows_line_twoLines :
    (problemAt 3 6).body? false ⟨[twoLines]⟩ = some "  --> a.rb:1:4\n   |  \n1  |  é\n   |     ^\n" ∧
      (∃ e : Excerpt,
        (problemAt 3 6).body? false ⟨[twoLines]⟩ = some (Problem.placeRow false "a.rb" 1 4 ++ e.text false) ∧
        utf8 e.source.toList = firstLine (twoLines.bytes.drop 0) ∧ e.indent = 3 ∧ 1 ≤ e.carets ∧ e.PointsAt 4) ∧
      twoLines.AtEmptyEnd 8 ∧
      (problemAt 8 9).body? false ⟨[twoLines]⟩ = some (Problem.placeRow false "a.rb" 3 1) := by
  have hshown : (problemAt 3 6).body? false ⟨[twoLines]⟩ = some "  --> a.rb:1:4\n   |  \n1  |  é\n   |     ^\n" := by
    decide +kernel
  have hlines : twoLines.bytes.length = 8 := by decide +kernel
  have hlast : twoLines.AtEmptyEnd 8 := ⟨hlines.symm, .inr (by decide +kernel)⟩
  have hfirst : ¬ twoLines.AtEmptyEnd 3 := fun h => absurd (h.1.trans hlines) (by decide)
  obtain ⟨-, hline⟩ := Problem.body?_shows_line ⟨[twoLines]⟩ (problemAt 3 6) false twoLines 1 4 rfl (by decide)
    (by decide) (by decide +kernel)
  obtain ⟨hnone, -⟩ := Problem.body?_shows_line ⟨[twoLines]⟩ (problemAt 8 9) false twoLines 3 1 rfl (by decide)
    (by decide) (by decide +kernel)
  obtain ⟨e, hbody, -, hsource, hindent, hone, -, hpoints⟩ := hline hfirst
  exact ⟨hshown, ⟨e, hbody, hsource, Nat.succ.inj hindent, hone, hpoints.2 (by decide)⟩, hlast, hnone.2 hlast⟩

/-- A text with a number of empty lines and a last line that is not empty. -/
def emptyLines (n : Nat) : SourceFile :=
  ⟨"a.rb", String.ofList (List.replicate n '\n' ++ ['x'])⟩

private theorem linesFrom_replicate (n : Nat) :
    linesFrom [] (List.replicate n '\n' ++ ['x']) = List.replicate n [] ++ [['x']] := by
  induction n with
  | zero => rfl
  | succ n ih =>
    rw [List.replicate_succ, List.cons_append, linesFrom, ih]
    rfl

private theorem getElem?_lines_emptyLines (n : Nat) : (emptyLines n).lines[n]? = some "x" := by
  rw [SourceFile.lines, emptyLines, String.toList_ofList, linesFrom_replicate]
  simp

private theorem bytes_emptyLines (n : Nat) : (emptyLines n).bytes = List.replicate n newline ++ [120] := by
  rw [SourceFile.bytes_eq_utf8, emptyLines, String.toList_ofList, utf8_append]
  congr 1
  induction n with
  | zero => rfl
  | succ n ih =>
    rw [List.replicate_succ, utf8_cons, ih]
    rfl

private theorem lineCol_emptyLines (pos : UInt32) (h : pos.toNat < 2 ^ 32 - 2) :
    (emptyLines pos.toNat).lineCol pos = (pos + 1, 1) := by
  have htake : (emptyLines pos.toNat).bytes.take pos.toNat = List.replicate pos.toNat newline := by
    rw [bytes_emptyLines, List.take_left' List.length_replicate]
  have hlength : (emptyLines pos.toNat).bytes.length = pos.toNat + 1 := by
    rw [bytes_emptyLines, List.length_append, List.length_replicate, List.length_singleton]
  have hall : (List.replicate pos.toNat newline).rdropWhile (· != newline) = List.replicate pos.toNat newline := by
    rw [List.rdropWhile_eq_self_iff]
    intro hne
    simp
  obtain ⟨hline, hcolumn⟩ := SourceFile.isPlace_lineCol (f := emptyLines pos.toNat) pos (by omega) (by omega)
  rw [htake, List.count_replicate_self] at hline
  rw [htake, afterLastNewline, hall, List.length_replicate] at hcolumn
  refine Prod.ext (UInt32.toNat_inj.1 ?_) (UInt32.toNat_inj.1 ?_)
  · rw [hline, UInt32.toNat_add, UInt32.toNat_one]
    omega
  · rw [UInt32.toNat_one]
    omega

/-- On the line of number 1000 the caret stands before the first column. -/
theorem emptyLines_caret_astray :
    SourceMap.lineCol ⟨[emptyLines 999]⟩ 0 999 = (1000, 1) ∧
      (problemAt 999 1000).body? false ⟨[emptyLines 999]⟩ =
        some (Problem.placeRow false "a.rb" 1000 1 ++ Excerpt.text ⟨1000, "x", 0, 1⟩ false) ∧
      Excerpt.text ⟨1000, "x", 0, 1⟩ false = "   |  \n1000|  x\n   |  ^\n" ∧
      ¬ Excerpt.PointsAt ⟨1000, "x", 0, 1⟩ 1 := by
  have hplace : (emptyLines 999).lineCol 999 = (1000, 1) := lineCol_emptyLines 999 (by decide)
  have hfile : SourceMap.file? ⟨[emptyLines 999]⟩ (problemAt 999 1000).location.span.file = some (emptyLines 999) := rfl
  have hexcerpt : Problem.excerpt? false 1000 1 1 "x" = some (Excerpt.text ⟨1000, "x", 0, 1⟩ false) := by decide +kernel
  have hline : (emptyLines 999).lines[(1000 : UInt32).toNat - 1]? = some "x" := getElem?_lines_emptyLines 999
  have hspan : (problemAt 999 1000).location.span.length = 1 := rfl
  refine ⟨hplace, ?_, by decide +kernel, ?_⟩
  · rw [Problem.body?_eq hfile hplace, hline, hspan, Option.elim_some, hexcerpt]
    rfl
  · rw [Excerpt.pointsAt_iff rfl]
    decide

end TagCheck
