import TagCheck.DocType.Token

/-!
# Texts and tokens

`Spells cs ts` says that the characters `cs` write the tokens `ts`, with blank characters anywhere between them.  A name
is a run of name characters that does not go on after its end, and a mark is written with its own characters.  Scanning
finds the tokens that a text spells (`Spells.scan_eq`), and a text that spells nothing has a stray character among
its tokens (`spells_scan`).
-/

namespace TagCheck

/-! ### Classes of characters -/

theorem CharClass.exists_of_covers {n : Nat} {ranges : List (Nat × Nat)} (h : covers n ranges = true) :
    ∃ r ∈ ranges, r.1 ≤ n ∧ n ≤ r.2 := by
  induction ranges with
  | nil => simp [covers] at h
  | cons r ranges ih =>
    obtain ⟨lo, hi⟩ := r
    unfold covers at h
    split at h
    · simp at h
    · rename_i hlo
      by_cases hhi : n ≤ hi
      · exact ⟨(lo, hi), by simp, by omega, hhi⟩
      · obtain ⟨r, hr, hn⟩ := ih (by simpa [hhi] using h)
        exact ⟨r, List.mem_cons_of_mem _ hr, hn⟩

/-- No blank character is a letter or a numeral. -/
theorem not_alphanumeric_of_isBlank {c : Char} (h : isBlank c = true) :
    CharClass.alphanumeric.contains c = false := by
  have hpoints : ∀ r ∈ CharClass.blank.ranges, ∀ k ∈ List.range (r.2 - r.1 + 1),
      CharClass.covers (r.1 + k) CharClass.alphanumeric.ranges = false := by
    decide +kernel
  obtain ⟨r, hr, hlo, hhi⟩ := CharClass.exists_of_covers h
  have hk := hpoints r hr (c.toNat - r.1) (by rw [List.mem_range]; omega)
  rwa [show r.1 + (c.toNat - r.1) = c.toNat by omega] at hk

theorem not_isNameChar_of_isBlank {c : Char} (h : isBlank c = true) : isNameChar c = false := by
  have hne : ∀ d, isBlank d = false → c ≠ d := by
    rintro d hd rfl
    simp [h] at hd
  have h1 := hne '_' (by decide)
  have h2 := hne ':' (by decide)
  have h3 := hne '#' (by decide)
  simp [isNameChar, not_alphanumeric_of_isBlank h, h1, h2, h3]

/-! ### Trimming -/

/-- `core` is what is left of a text without the blank characters around it. -/
structure TrimsTo (cs core : List Char) : Prop where
  around : ∃ before after, cs = before ++ core ++ after ∧ (∀ c ∈ before, isBlank c = true) ∧
    ∀ c ∈ after, isBlank c = true
  head : ∀ c ∈ core.head?, isBlank c = false
  last : ∀ c ∈ core.getLast?, isBlank c = false

theorem dropWhile_isBlank_append {before cs : List Char} (h : ∀ c ∈ before, isBlank c = true)
    (hcs : ∀ c ∈ cs.head?, isBlank c = false) : (before ++ cs).dropWhile isBlank = cs := by
  rw [List.dropWhile_append_of_pos h]
  cases cs with
  | nil => rfl
  | cons c cs => exact List.dropWhile_cons_of_neg (by simp [hcs c rfl])

theorem dropWhile_isBlank_spec (cs : List Char) :
    (∃ before, cs = before ++ cs.dropWhile isBlank ∧ ∀ c ∈ before, isBlank c = true) ∧
      ∀ c ∈ (cs.dropWhile isBlank).head?, isBlank c = false := by
  refine ⟨⟨cs.takeWhile isBlank, List.takeWhile_append_dropWhile.symm, ?_⟩, ?_⟩
  · exact List.all_eq_true.1 List.all_takeWhile
  · intro c hc
    have hnot := List.head?_dropWhile_not isBlank cs
    rw [Option.mem_def] at hc
    simpa [hc] using hnot

theorem trimsTo_trimChars (cs : List Char) : TrimsTo cs (trimChars cs) := by
  obtain ⟨⟨before, hcs, hbefore⟩, hhead⟩ := dropWhile_isBlank_spec cs
  obtain ⟨⟨after, hrest, hafter⟩, hlast⟩ := dropWhile_isBlank_spec (cs.dropWhile isBlank).reverse
  have hfront : cs.dropWhile isBlank = trimChars cs ++ after.reverse := by
    rw [trimChars, ← List.reverse_append, ← hrest, List.reverse_reverse]
  refine ⟨⟨before, after.reverse, ?_, hbefore, by simpa using hafter⟩, ?_, ?_⟩
  · rw [List.append_assoc, ← hfront]
    exact hcs
  · intro c hc
    apply hhead c
    rw [hfront, List.head?_append, Option.mem_def.1 hc]
    rfl
  · intro c hc
    apply hlast c
    rwa [trimChars, List.getLast?_reverse] at hc

theorem TrimsTo.trimChars_eq {cs core : List Char} (h : TrimsTo cs core) : trimChars cs = core := by
  obtain ⟨⟨before, after, rfl, hbefore, hafter⟩, hhead, hlast⟩ := h
  have hback : (core ++ after).reverse.dropWhile isBlank = core.reverse := by
    rw [List.reverse_append]
    exact dropWhile_isBlank_append (by simpa using hafter) (by simpa using hlast)
  cases core with
  | nil =>
    have hall : ∀ c ∈ before ++ after, isBlank c = true := by
      simpa [or_imp, forall_and] using And.intro hbefore hafter
    have hnil : (before ++ after ++ []).dropWhile isBlank = [] := dropWhile_isBlank_append hall (by simp)
    rw [List.append_nil] at hnil
    simp [trimChars, hnil]
  | cons c core =>
    rw [trimChars, List.append_assoc, dropWhile_isBlank_append hbefore (by simpa using hhead), hback,
      List.reverse_reverse]

theorem trimsTo_nil_iff {cs : List Char} : TrimsTo cs [] ↔ ∀ c ∈ cs, isBlank c = true := by
  constructor
  · rintro ⟨⟨before, after, rfl, hbefore, hafter⟩, -, -⟩
    simpa [or_imp, forall_and] using And.intro hbefore hafter
  · intro h
    exact ⟨⟨cs, [], by simp, h, by simp⟩, by simp, by simp⟩

/-! ### Spelling -/

namespace Token

/-- The characters of a mark. -/
def mark? : Token → Option (List Char)
  | .comma => some [',']
  | .bar => some ['|']
  | .less => some ['<']
  | .greater => some ['>']
  | .leftBrace => some ['\x7b']
  | .arrow => some ['=', '>']
  | .rightBrace => some ['\x7d']
  | .leftParen => some ['(']
  | .rightParen => some [')']
  | .question => some ['?']
  | .name _ | .stray _ => none

end Token

/-- The characters write the tokens one after the other. -/
inductive Spells : List Char → List Token → Prop where
  | nil : Spells [] []
  | blank {c : Char} {cs : List Char} {ts : List Token} (hc : isBlank c = true) (rest : Spells cs ts) :
      Spells (c :: cs) ts
  | name {run cs : List Char} {ts : List Token} (hrun : run ≠ []) (hname : ∀ c ∈ run, isNameChar c = true)
      (hend : ∀ c ∈ cs.head?, isNameChar c = false) (rest : Spells cs ts) :
      Spells (run ++ cs) (.name (String.ofList run) :: ts)
  | mark {t : Token} {text cs : List Char} {ts : List Token} (hmark : t.mark? = some text) (rest : Spells cs ts) :
      Spells (text ++ cs) (t :: ts)

/-! ### Scanning -/

namespace Token

variable {run cs : List Char} {c : Char} {t : Token}

theorem pending_nil : pending [] = [] := rfl

theorem pending_of_ne_nil (h : run ≠ []) : pending run = [.name (String.ofList run.reverse)] := by
  simp [pending, h]

theorem scanFrom_of_isNameChar (h : isNameChar c = true) : scanFrom run (c :: cs) = scanFrom (c :: run) cs := by
  have hne : c ≠ '=' := by
    rintro rfl
    revert h
    decide
  rw [scanFrom, if_pos h]
  simp [hne]

theorem scanFrom_of_isBlank (h : isBlank c = true) : scanFrom run (c :: cs) = pending run ++ scanFrom [] cs := by
  have hne : c ≠ '=' := by
    rintro rfl
    revert h
    decide
  rw [scanFrom, if_neg (by simp [not_isNameChar_of_isBlank h]), if_pos h]
  simp [hne]

private theorem scanFrom_ofMark (hne : c ≠ '=') (hname : isNameChar c = false) (hblank : isBlank c = false) :
    scanFrom run (c :: cs) = pending run ++ ofMark c :: scanFrom [] cs := by
  rw [scanFrom, if_neg (by simp [hname]), if_neg (by simp [hblank])]
  simp [hne]

theorem scanFrom_mark {text : List Char} (h : t.mark? = some text) :
    scanFrom run (text ++ cs) = pending run ++ t :: scanFrom [] cs := by
  cases t with
  | name | stray => simp [mark?] at h
  | arrow =>
    obtain rfl := Option.some.inj h
    simp [scanFrom]
  | _ =>
    obtain rfl := Option.some.inj h
    exact scanFrom_ofMark (by decide) (by decide) (by decide)

/-- A name ends where no name character follows. -/
theorem scanFrom_of_head? (h : ∀ c ∈ cs.head?, isNameChar c = false) :
    scanFrom run cs = pending run ++ scanFrom [] cs := by
  fun_cases scanFrom run cs with
  | case1 => simp [scanFrom, pending_nil]
  | case2 cs => simp [scanFrom, pending_nil]
  | case3 c cs _ hc => simp [hc] at h
  | case4 c cs hne hc hb => rw [scanFrom_of_isBlank hb, pending_nil, List.nil_append]
  | case5 c cs hne hc hb =>
    rw [scanFrom, if_neg hc, if_neg hb, pending_nil, List.nil_append]
    exact hne

theorem scanFrom_append (h : ∀ c ∈ run, isNameChar c = true) (before : List Char) :
    scanFrom before (run ++ cs) = scanFrom (run.reverse ++ before) cs := by
  induction run generalizing before with
  | nil => rfl
  | cons c run ih =>
    rw [List.forall_mem_cons] at h
    rw [List.cons_append, scanFrom_of_isNameChar h.1, ih h.2, List.reverse_cons, List.append_assoc,
      List.singleton_append]

end Token

theorem Spells.scan_eq {cs : List Char} {ts : List Token} (h : Spells cs ts) : Token.scan cs = ts := by
  induction h with
  | nil => rfl
  | blank hc _ ih => exact (Token.scanFrom_of_isBlank hc).trans ih
  | name hrun hname hend _ ih =>
    rw [Token.scan, Token.scanFrom_append hname, List.append_nil, Token.scanFrom_of_head? hend,
      Token.pending_of_ne_nil (by simpa using hrun), List.reverse_reverse, List.singleton_append]
    exact congrArg _ ih
  | mark hmark _ ih =>
    rw [Token.scan, Token.scanFrom_mark hmark, Token.pending_nil, List.nil_append]
    exact congrArg _ ih

private theorem Spells.pending {run cs : List Char} {ts : List Token} (h : Spells cs ts)
    (hrun : ∀ c ∈ run, isNameChar c = true) (hend : ∀ c ∈ cs.head?, isNameChar c = false) :
    Spells (run.reverse ++ cs) (Token.pending run ++ ts) := by
  by_cases hr : run = []
  · subst hr
    exact h
  · rw [Token.pending_of_ne_nil hr, List.singleton_append]
    exact .name (by simpa using hr) (by simpa using hrun) hend h

private theorem Token.mark?_ofMark {c : Char} (h : Token.ofMark c ≠ .stray c) :
    (Token.ofMark c).mark? = some [c] := by
  unfold Token.ofMark at h ⊢
  split <;> simp_all [Token.mark?]

private theorem spells_scanFrom {run cs : List Char} (hrun : ∀ c ∈ run, isNameChar c = true)
    (hstray : ∀ c, Token.stray c ∉ Token.scanFrom run cs) :
    Spells (run.reverse ++ cs) (Token.scanFrom run cs) := by
  fun_induction Token.scanFrom run cs with
  | case1 run =>
    have hnil : Spells [] [] := .nil
    simpa using hnil.pending hrun (by simp)
  | case2 run cs ih =>
    simp only [List.mem_append, List.mem_cons, not_or] at hstray
    have hcs : Spells cs (Token.scanFrom [] cs) := ih (by simp) fun c => (hstray c).2.2
    have hmark : Token.arrow.mark? = some ['=', '>'] := rfl
    exact (Spells.mark hmark hcs).pending hrun (by simp; decide)
  | case3 run c cs _ hc ih =>
    have := ih (by simpa [hc] using hrun) hstray
    simpa using this
  | case4 run c cs _ hc hb ih =>
    simp only [List.mem_append, not_or] at hstray
    have hcs : Spells cs (Token.scanFrom [] cs) := ih (by simp) fun d => (hstray d).2
    exact (Spells.blank hb hcs).pending hrun (by simpa using hc)
  | case5 run c cs _ hc hb ih =>
    simp only [List.mem_append, List.mem_cons, not_or] at hstray
    have hcs : Spells cs (Token.scanFrom [] cs) := ih (by simp) fun d => (hstray d).2.2
    have hmark := Token.mark?_ofMark (Ne.symm (hstray c).2.1)
    exact (Spells.mark hmark hcs).pending hrun (by simpa using hc)

/-- A text spells the tokens that scanning finds, unless a character is stray. -/
theorem spells_scan {cs : List Char} (h : ∀ c, Token.stray c ∉ Token.scan cs) : Spells cs (Token.scan cs) :=
  @spells_scanFrom [] cs (by simp) h

end TagCheck
