/-
Lines and words of a text, as the standard library cuts them.

- `lines_unlines`: lines without line feeds, each ended by one, are cut apart again.
- `splitWhitespace_unwords`: so are words without white space.
-/
import WfbLink.Core.Text

namespace WfbLink.Core

/-- a part that was read, unless there is nothing in it -/
def readPart (part : List Char) : List (List Char) := if part = [] then [] else [part]

/-! ## Lines -/

/-- a line without the carriage return that ends it -/
def chompCr (line : List Char) : List Char := if line.getLast? = some '\r' then line.dropLast else line

/-- the lines of a text behind `line`; the last one may end with the text, and keeps its carriage return then -/
def linesFrom : List Char → List Char → List (List Char)
  | line, [] => readPart line
  | line, c :: text => if c = '\n' then chompCr line :: linesFrom [] text else linesFrom (line ++ [c]) text

/-- `str::lines` -/
def lines (text : List Char) : List (List Char) := linesFrom [] text

/-- each line, with the line feed that ends it -/
def unlines (lines : List (List Char)) : List Char := lines.flatMap fun line => line ++ ['\n']

theorem linesFrom_line {line : List Char} (h : '\n' ∉ line) (read text : List Char) :
    linesFrom read (line ++ '\n' :: text) = chompCr (read ++ line) :: lines text := by
  induction line generalizing read with
  | nil =>
    rw [List.nil_append, List.append_nil]
    exact if_pos rfl
  | cons c line ih =>
    have hc : c ≠ '\n' := fun hc => h (hc ▸ List.mem_cons_self)
    rw [List.cons_append, linesFrom, if_neg hc, ih (fun hmem => h (List.mem_cons_of_mem c hmem)), List.append_assoc]
    rfl

/-- a carriage return before the line feed belongs to the end of the line -/
theorem chompCr_return (line : List Char) : chompCr (line ++ ['\r']) = line := by
  rw [chompCr, if_pos List.getLast?_concat, List.dropLast_concat]

theorem chompCr_of_ne {line : List Char} (h : line.getLast? ≠ some '\r') : chompCr line = line := if_neg h

/-- **Lines.** Nothing is lost but a carriage return at the end of a line. -/
theorem lines_unlines {all : List (List Char)} (h : ∀ line ∈ all, '\n' ∉ line) :
    lines (unlines all) = all.map chompCr := by
  induction all with
  | nil => rfl
  | cons line all ih =>
    rw [unlines, List.flatMap_cons, List.append_assoc, List.singleton_append, lines,
      linesFrom_line (h line List.mem_cons_self), List.nil_append, List.map_cons]
    congr 1
    exact ih fun other hmem => h other (List.mem_cons_of_mem line hmem)

/-! ## Words -/

/-- the words of a text behind `word` -/
def wordsFrom : List Char → List Char → List (List Char)
  | word, [] => readPart word
  | word, c :: text => if isWhitespace c then readPart word ++ wordsFrom [] text else wordsFrom (word ++ [c]) text

/-- `str::split_whitespace` -/
def splitWhitespace (text : List Char) : List (List Char) := wordsFrom [] text

/-- something, without white space in it -/
def IsWord (word : List Char) : Prop := word ≠ [] ∧ ∀ c ∈ word, isWhitespace c = false

/-- words, with a blank between them -/
def unwords (words : List (List Char)) : List Char := [' '].intercalate words

theorem unwords_cons_cons (word next : List Char) (words : List (List Char)) :
    unwords (word :: next :: words) = word ++ ' ' :: unwords (next :: words) := by
  simp [unwords, List.intercalate_cons_cons]

theorem wordsFrom_solid {word : List Char} (h : ∀ c ∈ word, isWhitespace c = false) (read text : List Char) :
    wordsFrom read (word ++ text) = wordsFrom (read ++ word) text := by
  induction word generalizing read with
  | nil => rw [List.nil_append, List.append_nil]
  | cons c word ih =>
    have hc := h c List.mem_cons_self
    rw [List.cons_append, wordsFrom, if_neg (by rw [hc]; decide), ih fun d hd => h d (List.mem_cons_of_mem c hd),
      List.append_assoc]
    rfl

/-- **Words.** -/
theorem splitWhitespace_unwords {words : List (List Char)} (h : ∀ word ∈ words, IsWord word) :
    splitWhitespace (unwords words) = words := by
  induction words with
  | nil => rfl
  | cons word words ih =>
    obtain ⟨hne, hsolid⟩ := h word List.mem_cons_self
    cases words with
    | nil =>
      have hword : unwords [word] = word ++ [] := by rw [unwords, List.intercalate_singleton, List.append_nil]
      rw [hword, splitWhitespace, wordsFrom_solid hsolid, List.nil_append]
      exact if_neg hne
    | cons next words =>
      have hblank : isWhitespace ' ' = true := by decide
      rw [unwords_cons_cons, splitWhitespace, wordsFrom_solid hsolid, List.nil_append, wordsFrom, if_pos hblank,
        readPart, if_neg hne, List.singleton_append]
      congr 1
      exact ih fun other hmem => h other (List.mem_cons_of_mem word hmem)

theorem unwords_head {word : List Char} {words : List (List Char)} (hword : IsWord word) :
    ∃ c text, unwords (word :: words) = c :: text ∧ c ∈ word.head? := by
  obtain ⟨hne, -⟩ := hword
  obtain ⟨c, rest, rfl⟩ := List.exists_cons_of_ne_nil hne
  cases words with
  | nil => exact ⟨c, rest, by rw [unwords, List.intercalate_singleton], rfl⟩
  | cons next words => exact ⟨c, _, unwords_cons_cons _ next words, rfl⟩

theorem unwords_last {words : List (List Char)} (hne : words ≠ []) (h : ∀ word ∈ words, IsWord word) :
    ∃ text c, unwords words = text ++ [c] ∧ isWhitespace c = false := by
  induction words with
  | nil => exact absurd rfl hne
  | cons word words ih =>
    obtain ⟨hword, hsolid⟩ := h word List.mem_cons_self
    cases words with
    | nil =>
      refine ⟨word.dropLast, word.getLast hword, ?_, hsolid _ (List.getLast_mem hword)⟩
      rw [unwords, List.intercalate_singleton, List.dropLast_concat_getLast]
    | cons next words =>
      obtain ⟨text, c, hlast, hc⟩ := ih (List.cons_ne_nil next words) fun other hmem =>
        h other (List.mem_cons_of_mem word hmem)
      refine ⟨word ++ ' ' :: text, c, ?_, hc⟩
      rw [unwords_cons_cons, hlast, List.append_assoc, List.cons_append]

theorem trim_of_ends {text : List Char} {c d : Char} (hfirst : c ∈ text.head?) (hlast : d ∈ text.getLast?)
    (hc : isWhitespace c = false) (hd : isWhitespace d = false) : trim text = text := by
  have hdrop : text.dropWhile isWhitespace = text := by
    obtain ⟨rest, rfl⟩ := List.head?_eq_some_iff.mp hfirst
    exact List.dropWhile_cons_of_neg (by rw [hc]; decide)
  rw [trim, hdrop, List.rdropWhile_eq_self_iff]
  intro hne
  have hd' : text.getLast hne = d := by
    rw [List.getLast?_eq_getLast_of_ne_nil hne] at hlast
    exact Option.some.inj hlast
  rw [hd', hd]
  decide

/-- words in a row have no white space around them -/
theorem trim_unwords {words : List (List Char)} (hne : words ≠ []) (h : ∀ word ∈ words, IsWord word) :
    trim (unwords words) = unwords words := by
  obtain ⟨word, words, rfl⟩ := List.exists_cons_of_ne_nil hne
  obtain ⟨c, text, hfirst, hc⟩ := @unwords_head word words (h word List.mem_cons_self)
  obtain ⟨front, d, hlast, hd⟩ := unwords_last hne h
  refine trim_of_ends (c := c) (d := d) ?_ ?_ ((h word List.mem_cons_self).2 c (List.mem_of_mem_head? hc)) hd
  · rw [hfirst]
    rfl
  · rw [hlast]
    exact List.getLast?_concat

/-- nor a carriage return at the end -/
theorem chompCr_unwords {words : List (List Char)} (hne : words ≠ []) (h : ∀ word ∈ words, IsWord word) :
    chompCr (unwords words) = unwords words := by
  obtain ⟨text, c, hlast, hc⟩ := unwords_last hne h
  refine chompCr_of_ne fun hreturn => ?_
  rw [hlast, List.getLast?_concat] at hreturn
  obtain rfl := Option.some.inj hreturn
  exact absurd hc (by decide)

/-- nor a line feed anywhere -/
theorem newline_notMem_unwords {words : List (List Char)} (h : ∀ word ∈ words, IsWord word) : '\n' ∉ unwords words := by
  induction words with
  | nil => exact List.not_mem_nil
  | cons word words ih =>
    have hword : '\n' ∉ word := fun hmem => absurd ((h word List.mem_cons_self).2 '\n' hmem) (by decide)
    cases words with
    | nil => rwa [unwords, List.intercalate_singleton]
    | cons next words =>
      have hrest := ih fun other hmem => h other (List.mem_cons_of_mem word hmem)
      rw [unwords_cons_cons, List.mem_append, List.mem_cons]
      rintro (hmem | hmem | hmem)
      · exact hword hmem
      · exact absurd hmem (by decide)
      · exact hrest hmem

end WfbLink.Core
