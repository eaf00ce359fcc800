import Abacus.Text.Quoted
import Mathlib.Algebra.Group.Nat.Defs
import Mathlib.Data.List.Basic

/-!
# Quotations — what stands between quotes

A quoted text begins and ends with a mark, and inside it the mark and all that is not printed stand as
escapes.  An escape can be told from what follows it, so the text can be read back, and so can a list of
quoted texts:

* `Text.quote_of_printable` — most texts stand between single quotes as they are;
* `Text.readChar?_quoteChar` — a character is read back, whatever follows;
* `Text.quoteChars_append_inj` — characters end at the mark behind them;
* `Text.quote_append_inj`, `Text.quoteList_injective` — quoted texts, and lists of them.
-/

namespace Abacus

namespace Text

/-! ## Hexadecimal numbers -/

def hexDigitValue (c : Char) : Nat := if c.isDigit then c.toNat - 48 else c.toNat - 87

def hexValue (cs : List Char) : Nat := cs.foldl (fun n c => 16 * n + hexDigitValue c) 0

theorem hexDigitValue_digitChar {d : Nat} (h : d < 16) : hexDigitValue d.digitChar = d := by
  have hall : (List.range 16).all (fun d => hexDigitValue d.digitChar == d) = true := by decide
  exact eq_of_beq (List.all_eq_true.1 hall d (List.mem_range.2 h))

theorem hexValue_append_singleton (cs : List Char) (c : Char) :
    hexValue (cs ++ [c]) = 16 * hexValue cs + hexDigitValue c := by
  rw [hexValue, List.foldl_append]
  rfl

theorem hexValue_toDigits (n : Nat) : hexValue (Nat.toDigits 16 n) = n := by
  induction n using Nat.strongRecOn with
  | ind n ih =>
      by_cases h : n < 16
      · rw [Nat.toDigits_of_lt_base h]
        have hdigit : hexValue [n.digitChar] = 16 * 0 + hexDigitValue n.digitChar := rfl
        rw [hdigit, hexDigitValue_digitChar h, Nat.mul_zero, Nat.zero_add]
      · have hfront := ih (n / 16) (by omega)
        rw [Nat.toDigits_of_base_le (by decide) (Nat.not_lt.1 h), hexValue_append_singleton, hfront,
          hexDigitValue_digitChar (Nat.mod_lt n (by decide))]
        exact Nat.div_add_mod n 16

/-- Zeros in front do not count. -/
theorem hexValue_hexadecimal (width n : Nat) : hexValue (hexadecimal width n) = n := by
  have hzeros (k : Nat) : (List.replicate k '0').foldl (fun n c => 16 * n + hexDigitValue c) 0 = 0 := by
    induction k with
    | zero => rfl
    | succ k ih => exact ih
  have hvalue := hexValue_toDigits n
  rw [hexadecimal, hexValue, List.foldl_append, hzeros]
  exact hvalue

theorem length_hexadecimal {width n : Nat} (hwidth : 0 < width) (h : n < 16 ^ width) :
    (hexadecimal width n).length = width := by
  have hdigits := (Nat.length_toDigits_le_iff (by decide : 1 < 16) hwidth).2 h
  rw [hexadecimal, List.length_append, List.length_replicate]
  omega

/-! ## Characters -/

/-- A number of fixed length, and what follows it. -/
def readHex (width : Nat) (cs : List Char) : Char × List Char :=
  (Char.ofNat (hexValue (cs.take width)), cs.drop width)

/-- The first character of a quoted text, and what follows it. -/
def readChar? : List Char → Option (Char × List Char)
  | '\\' :: 'n' :: rest => some ('\n', rest)
  | '\\' :: 'r' :: rest => some ('\r', rest)
  | '\\' :: 't' :: rest => some ('\t', rest)
  | '\\' :: 'x' :: rest => some (readHex 2 rest)
  | '\\' :: 'u' :: rest => some (readHex 4 rest)
  | '\\' :: 'U' :: rest => some (readHex 8 rest)
  | '\\' :: c :: rest => some (c, rest)
  | c :: rest => some (c, rest)
  | [] => none

theorem readHex_hexadecimal {width : Nat} (hwidth : 0 < width) {c : Char}
    (h : c.toNat < 16 ^ width) (rest : List Char) :
    readHex width (hexadecimal width c.toNat ++ rest) = (c, rest) := by
  have hlength := length_hexadecimal hwidth h
  rw [readHex, List.take_left' hlength, List.drop_left' hlength, hexValue_hexadecimal,
    Char.ofNat_toNat]

theorem readChar?_of_ne {c : Char} (h : c ≠ '\\') (rest : List Char) :
    readChar? (c :: rest) = some (c, rest) := by
  unfold readChar?
  split <;> simp_all

theorem readChar?_escapeCode (c : Char) (rest : List Char) :
    readChar? (escapeCode c ++ rest) = some (c, rest) := by
  unfold escapeCode
  dsimp only
  split
  · rename_i hshort
    exact congrArg some (readHex_hexadecimal (by decide) hshort rest)
  · split
    · rename_i hmiddle
      exact congrArg some (readHex_hexadecimal (by decide) hmiddle rest)
    · have hlong : c.toNat < 16 ^ 8 := c.val.toNat_lt
      exact congrArg some (readHex_hexadecimal (by decide) hlong rest)

/-- The marks that a text is quoted with. -/
def quoteMarks : List Char := ['\'', '"']

theorem quoteMark_mem (cs : List Char) : quoteMark cs ∈ quoteMarks := by
  unfold quoteMark
  split <;> decide

variable {mark : Char}

theorem readChar?_quoteChar (hmark : mark ∈ quoteMarks) (c : Char) (rest : List Char) :
    readChar? (quoteChar mark c ++ rest) = some (c, rest) := by
  unfold quoteChar
  split
  · rename_i hescaped
    -- No mark is one of the letters that stand for something else.
    have hmarks : ∀ c ∈ '\\' :: quoteMarks, readChar? ('\\' :: c :: rest) = some (c, rest) := by
      simp [quoteMarks, readChar?]
    rcases hescaped with rfl | rfl
    · exact hmarks c (List.mem_cons_of_mem _ hmark)
    · exact hmarks '\\' List.mem_cons_self
  · rename_i hplain
    split
    · rename_i hc
      rw [hc]
      rfl
    · split
      · rename_i hc
        rw [hc]
        rfl
      · split
        · rename_i hc
          rw [hc]
          rfl
        · split
          · exact readChar?_of_ne (fun h => hplain (Or.inr h)) rest
          · exact readChar?_escapeCode c rest

/-- No quoted character begins with the mark. -/
theorem quoteChar_ne_mark (hmark : mark ∈ quoteMarks) (c : Char) (rest rest' : List Char) :
    quoteChar mark c ++ rest ≠ mark :: rest' := by
  have hslash : mark ≠ '\\' := by
    rintro rfl
    revert hmark
    decide
  intro h
  have hread := congrArg readChar? h
  rw [readChar?_quoteChar hmark, readChar?_of_ne hslash] at hread
  obtain ⟨rfl, -⟩ := Prod.mk.inj (Option.some.inj hread)
  -- Only the mark is read as the mark, and it is escaped.
  rw [quoteChar, if_pos (Or.inl rfl)] at h
  exact hslash (List.cons_eq_cons.1 h).1.symm

/-! ## Texts -/

/-- Quoted characters end at the first mark behind them. -/
theorem quoteChars_append_inj (hmark : mark ∈ quoteMarks) {cs ds rest rest' : List Char}
    (h : cs.flatMap (quoteChar mark) ++ mark :: rest = ds.flatMap (quoteChar mark) ++ mark :: rest') :
    cs = ds ∧ rest = rest' := by
  induction cs generalizing ds with
  | nil =>
      cases ds with
      | nil =>
          exact ⟨rfl, (List.cons_eq_cons.1 h).2⟩
      | cons d ds =>
          rw [List.flatMap_cons, List.append_assoc] at h
          exact absurd h.symm (quoteChar_ne_mark hmark d _ _)
  | cons c cs ih =>
      cases ds with
      | nil =>
          rw [List.flatMap_cons, List.append_assoc] at h
          exact absurd h (quoteChar_ne_mark hmark c _ _)
      | cons d ds =>
          rw [List.flatMap_cons, List.flatMap_cons, List.append_assoc, List.append_assoc] at h
          have hread := congrArg readChar? h
          rw [readChar?_quoteChar hmark, readChar?_quoteChar hmark] at hread
          obtain ⟨rfl, hrest⟩ := Prod.mk.inj (Option.some.inj hread)
          obtain ⟨rfl, hrest'⟩ := ih hrest
          exact ⟨rfl, hrest'⟩

/-- A quoted text can be told from what follows it. -/
theorem quote_append_inj {text other : String} {rest rest' : List Char}
    (h : (quote text).toList ++ rest = (quote other).toList ++ rest') :
    text = other ∧ rest = rest' := by
  rw [toList_quote, toList_quote, List.cons_append, List.cons_append, List.append_assoc,
    List.append_assoc] at h
  obtain ⟨hmark, hchars⟩ := List.cons_eq_cons.1 h
  rw [← hmark] at hchars
  obtain ⟨htext, hrest⟩ := quoteChars_append_inj (quoteMark_mem _) hchars
  exact ⟨String.toList_inj.1 htext, hrest⟩

theorem quote_of_printable {text : String}
    (h : ∀ c ∈ text.toList, isPrintable c = true ∧ c ≠ '\'' ∧ c ≠ '\\') :
    quote text = "'" ++ text ++ "'" := by
  have hmark : quoteMark text.toList = '\'' := by
    refine if_neg ?_
    simp only [Bool.and_eq_true, List.contains_iff_mem, not_and]
    intro hquote
    exact absurd rfl (h '\'' hquote).2.1
  have hplain : text.toList.flatMap (quoteChar '\'') = text.toList := by
    refine (List.flatMap_congr ?_).trans (List.flatMap_singleton' _)
    intro c hc
    obtain ⟨hprintable, hquote, hslash⟩ := h c hc
    have hcontrol : c ≠ '\n' ∧ c ≠ '\r' ∧ c ≠ '\t' := by
      refine ⟨?_, ?_, ?_⟩ <;> · rintro rfl; revert hprintable; decide
    simp [quoteChar, hquote, hslash, hcontrol, hprintable]
  rw [← String.toList_inj, toList_quote, hmark, hplain]
  simp

/-! ## Lists -/

/-- What follows the first text of a list: each text behind a comma, and the closing bracket. -/
def quotedTail (texts : List String) : List Char :=
  texts.flatMap (fun text => ',' :: ' ' :: (quote text).toList) ++ [']']

theorem quotedTail_nil : quotedTail [] = [']'] := rfl

theorem quotedTail_cons (text : String) (texts : List String) :
    quotedTail (text :: texts) = ',' :: ' ' :: ((quote text).toList ++ quotedTail texts) := by
  rw [quotedTail, List.flatMap_cons, List.append_assoc]
  rfl

theorem toList_quoteList_cons (text : String) (texts : List String) :
    (quoteList (text :: texts)).toList =
      '[' :: ((quote text).toList ++ quotedTail texts) := by
  have hjoined (text : String) (texts : List String) :
      (", ".intercalate ((text :: texts).map quote)).toList ++ [']'] =
        (quote text).toList ++ quotedTail texts := by
    induction texts generalizing text with
    | nil =>
        rw [List.map_cons, List.map_nil, String.intercalate_singleton, quotedTail_nil]
    | cons other texts ih =>
        have hcomma : ", ".toList = [',', ' '] := rfl
        have hrest := ih other
        rw [List.map_cons, String.intercalate_cons_of_ne_nil (by simp), String.toList_append,
          String.toList_append, List.append_assoc, hrest, List.append_assoc, hcomma, quotedTail_cons]
        rfl
  rw [quoteList, String.toList_append, String.toList_append, ← hjoined, List.append_assoc]
  rfl

theorem quotedTail_injective : Function.Injective quotedTail := by
  intro texts others h
  induction texts generalizing others with
  | nil =>
      cases others with
      | nil => rfl
      | cons other others =>
          rw [quotedTail_nil, quotedTail_cons] at h
          cases (List.cons_eq_cons.1 h).1
  | cons text texts ih =>
      cases others with
      | nil =>
          rw [quotedTail_nil, quotedTail_cons] at h
          cases (List.cons_eq_cons.1 h).1
      | cons other others =>
          rw [quotedTail_cons, quotedTail_cons] at h
          obtain ⟨rfl, hrest⟩ := quote_append_inj
            (List.cons_eq_cons.1 (List.cons_eq_cons.1 h).2).2
          rw [ih hrest]

/-- A list of quoted texts tells the texts and their order. -/
theorem quoteList_injective : Function.Injective quoteList := by
  have hempty (text : String) (texts : List String) : quoteList [] ≠ quoteList (text :: texts) := by
    intro h
    have hchars := congrArg String.toList h
    have hmark := quoteMark_mem text.toList
    rw [toList_quoteList_cons, toList_quote] at hchars
    have hnil : (quoteList []).toList = ['[', ']'] := by decide
    rw [hnil, List.cons_append] at hchars
    have hclosing := (List.cons_eq_cons.1 (List.cons_eq_cons.1 hchars).2).1
    rw [← hclosing] at hmark
    revert hmark
    decide
  intro texts others h
  -- An empty list has no quote behind its bracket.
  cases texts with
  | nil =>
      cases others with
      | nil => rfl
      | cons other others => exact absurd h (hempty other others)
  | cons text texts =>
      cases others with
      | nil => exact absurd h.symm (hempty text texts)
      | cons other others =>
          have hchars := congrArg String.toList h
          rw [toList_quoteList_cons, toList_quoteList_cons] at hchars
          obtain ⟨rfl, hrest⟩ := quote_append_inj (List.cons_eq_cons.1 hchars).2
          rw [quotedTail_injective hrest]

end Text

end Abacus
