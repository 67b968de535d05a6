import Mathlib.Data.List.Basic

/-!
# Words in quotation marks

A line of words is split at its separators, unless they stand between quotation marks. An
escape before a quotation mark takes away its meaning, a pair of escapes before one is an
escape, and an escape elsewhere is itself. A word written in quotation marks, with the
escapes doubled that come before one, is read back as it was.
-/

/-- The characters that have a meaning. -/
structure Quotation (α : Type*) where
  separates : α → Bool
  quote : α
  escape : α
  quote_ne_escape : quote ≠ escape
  quote_separates : separates quote = false
  escape_separates : separates escape = false

namespace Quotation

variable {α : Type*} [DecidableEq α] (q : Quotation α)

/-- The words of a line, given the word under way, the escapes just read and whether
a quotation mark is open. -/
def words : (word : Option (List α)) → (escapes : ℕ) → (quoted : Bool) → List α → List (List α)
  | word, escapes, _, [] => (word.map (· ++ List.replicate escapes q.escape)).toList
  | word, escapes, quoted, c :: rest =>
    if c = q.escape then words (some (word.getD [])) (escapes + 1) quoted rest
    else if c = q.quote then
      if escapes % 2 = 1 then
        words (some (word.getD [] ++ List.replicate (escapes / 2) q.escape ++ [q.quote])) 0
          quoted rest
      else
        words (some (word.getD [] ++ List.replicate (escapes / 2) q.escape)) 0 (!quoted) rest
    else if q.separates c && !quoted then
      (word.map (· ++ List.replicate escapes q.escape)).toList ++ words none 0 false rest
    else words (some (word.getD [] ++ List.replicate escapes q.escape ++ [c])) 0 quoted rest

def split (line : List α) : List (List α) := q.words none 0 false line

/-- The rest of a word and its closing mark, after some escapes. -/
def close : (escapes : ℕ) → List α → List α
  | escapes, [] => List.replicate (escapes * 2) q.escape ++ [q.quote]
  | escapes, c :: rest =>
    if c = q.escape then close (escapes + 1) rest
    else if c = q.quote then
      List.replicate (escapes * 2 + 1) q.escape ++ q.quote :: close 0 rest
    else List.replicate escapes q.escape ++ c :: close 0 rest

/-- No character of the word has a meaning of its own. -/
def Bare (word : List α) : Prop := ∀ c ∈ word, q.separates c = false ∧ c ≠ q.quote

/-- A word that is written bare where it can be, and in quotation marks elsewhere. -/
def Written (word text : List α) : Prop :=
  q.Bare word ∧ text = word ∨ text = q.quote :: q.close 0 word

/-- A line that is over, or goes on with a separator. -/
def Ended (line : List α) : Prop := ∀ c ∈ line.head?, q.separates c = true

variable {q} {word text line rest : List α} {escapes : ℕ} {quoted : Bool} {c : α}

omit [DecidableEq α] in
theorem ne_quote (hseparates : q.separates c = true) : c ≠ q.quote := by
  rintro rfl
  rw [q.quote_separates] at hseparates
  cases hseparates

omit [DecidableEq α] in
theorem ne_escape (hseparates : q.separates c = true) : c ≠ q.escape := by
  rintro rfl
  rw [q.escape_separates] at hseparates
  cases hseparates

theorem words_escape (word : Option (List α)) :
    q.words word escapes quoted (q.escape :: rest) =
      q.words (some (word.getD [])) (escapes + 1) quoted rest := by
  rw [words, if_pos rfl]

theorem words_escapes (count : ℕ) :
    q.words (some word) escapes quoted (List.replicate count q.escape ++ rest) =
      q.words (some word) (escapes + count) quoted rest := by
  induction count generalizing escapes with
  | zero => rfl
  | succ count ih =>
    rw [List.replicate_succ, List.cons_append, words_escape, Option.getD_some, ih,
      Nat.add_right_comm, Nat.add_assoc]

theorem words_toggle (hescapes : escapes % 2 = 0) (word : Option (List α)) :
    q.words word escapes quoted (q.quote :: rest) =
      q.words (some (word.getD [] ++ List.replicate (escapes / 2) q.escape)) 0 (!quoted) rest := by
  rw [words, if_neg q.quote_ne_escape, if_pos rfl, if_neg (by rw [hescapes]; exact Nat.zero_ne_one)]

theorem words_mark (hescapes : escapes % 2 = 1) (word : Option (List α)) :
    q.words word escapes quoted (q.quote :: rest) =
      q.words (some (word.getD [] ++ List.replicate (escapes / 2) q.escape ++ [q.quote])) 0
        quoted rest := by
  rw [words, if_neg q.quote_ne_escape, if_pos rfl, if_pos hescapes]

theorem words_plain (hescape : c ≠ q.escape) (hquote : c ≠ q.quote)
    (hplain : q.separates c = false ∨ quoted = true) (word : Option (List α)) :
    q.words word escapes quoted (c :: rest) =
      q.words (some (word.getD [] ++ List.replicate escapes q.escape ++ [c])) 0 quoted rest := by
  rw [words, if_neg hescape, if_neg hquote, if_neg]
  rcases hplain with hplain | hplain <;> simp [hplain]

theorem words_separator (hseparates : q.separates c = true) :
    q.words none 0 false (c :: rest) = q.words none 0 false rest := by
  rw [words, if_neg (ne_escape hseparates), if_neg (ne_quote hseparates),
    if_pos (by rw [hseparates]; rfl)]
  rfl

/-- A word ends with the line or at a separator. -/
theorem words_ended (hended : q.Ended line) :
    q.words (some word) escapes false line =
      (word ++ List.replicate escapes q.escape) :: q.words none 0 false line := by
  cases line with
  | nil => rfl
  | cons c rest =>
    have hseparates := hended c rfl
    rw [words_separator hseparates, words, if_neg (ne_escape hseparates),
      if_neg (ne_quote hseparates), if_pos (by rw [hseparates]; rfl)]
    rfl

/-- Between quotation marks the word is read up to its closing mark. -/
theorem words_close (text : List α) :
    q.words (some word) 0 true (q.close escapes text ++ rest) =
      q.words (some (word ++ List.replicate escapes q.escape ++ text)) 0 false rest := by
  induction text generalizing word escapes with
  | nil =>
    have heven : (0 + escapes * 2) % 2 = 0 := by omega
    have hhalf : (0 + escapes * 2) / 2 = escapes := by omega
    rw [close, List.append_assoc, words_escapes, List.singleton_append, words_toggle heven, hhalf,
      Option.getD_some, List.append_nil, Bool.not_true]
  | cons c text ih =>
    rw [close]
    split_ifs with hescape hquote
    · rw [ih, hescape, List.replicate_succ', List.append_assoc, List.append_assoc,
        List.append_assoc]
      rfl
    · have hodd : (0 + (escapes * 2 + 1)) % 2 = 1 := by omega
      have hhalf : (0 + (escapes * 2 + 1)) / 2 = escapes := by omega
      rw [List.append_assoc, words_escapes, List.cons_append, words_mark hodd, hhalf,
        Option.getD_some, ih, hquote, List.replicate_zero, List.append_nil, List.append_assoc]
      rfl
    · rw [List.append_assoc, words_escapes, Nat.zero_add, List.cons_append,
        words_plain hescape hquote (Or.inr rfl), Option.getD_some, ih, List.replicate_zero,
        List.append_nil, List.append_assoc _ [c]]
      rfl

/-- A bare word is read as it stands. -/
theorem words_bare (hbare : q.Bare text) (hended : q.Ended line) :
    q.words (some word) escapes false (text ++ line) =
      (word ++ List.replicate escapes q.escape ++ text) :: q.words none 0 false line := by
  induction text generalizing word escapes with
  | nil => rw [List.nil_append, words_ended hended, List.append_nil]
  | cons c text ih =>
    have hrest : q.Bare text := fun d hd => hbare d (List.mem_cons_of_mem _ hd)
    obtain ⟨hseparates, hquote⟩ := hbare c List.mem_cons_self
    rw [List.cons_append]
    by_cases hescape : c = q.escape
    · rw [hescape, words_escape, Option.getD_some, ih hrest, List.replicate_succ',
        List.append_assoc, List.append_assoc, List.append_assoc]
      rfl
    · rw [words_plain hescape hquote (Or.inl hseparates), Option.getD_some, ih hrest,
        List.replicate_zero, List.append_nil, List.append_assoc _ [c]]
      rfl

/-- A bare word that has a character opens without a quotation mark. -/
theorem words_bare_cons (hbare : q.Bare (c :: text)) :
    q.words none 0 false (c :: text ++ line) = q.words (some []) 0 false (c :: text ++ line) := by
  obtain ⟨hseparates, hquote⟩ := hbare c List.mem_cons_self
  rw [List.cons_append]
  by_cases hescape : c = q.escape
  · rw [hescape, words_escape, words_escape, Option.getD_none, Option.getD_some]
  · rw [words_plain hescape hquote (Or.inl hseparates),
      words_plain hescape hquote (Or.inl hseparates), Option.getD_none, Option.getD_some]

/-- A written word is read back, unless nothing was written. -/
theorem words_written (hwritten : q.Written word text) (hended : q.Ended line) :
    q.words none 0 false (text ++ line) =
      if text = [] then q.words none 0 false line else word :: q.words none 0 false line := by
  rcases hwritten with ⟨hbare, rfl⟩ | rfl
  · cases text with
    | nil => rw [List.nil_append, if_pos rfl]
    | cons c text =>
      rw [words_bare_cons hbare, words_bare hbare hended, if_neg (List.cons_ne_nil _ _)]
      rfl
  · rw [List.cons_append, words_toggle rfl, Option.getD_none, Bool.not_false, words_close,
      words_ended hended, if_neg (List.cons_ne_nil _ _)]
    simp

theorem written_ne_nil (hwritten : q.Written word text) (hword : word ≠ []) : text ≠ [] := by
  rcases hwritten with ⟨-, rfl⟩ | rfl
  · exact hword
  · exact List.cons_ne_nil _ _

/-- The words of a line that starts each with a separator are the words written, without
those for which nothing was written. -/
theorem split_written {write : List α → List α} {separator : α}
    (hwrite : ∀ word, q.Written word (write word)) (hseparator : q.separates separator = true)
    (words : List (List α)) :
    q.split (words.flatMap fun word => separator :: write word) =
      words.filter fun word => write word ≠ [] := by
  induction words with
  | nil => rfl
  | cons word words ih =>
    have hended : q.Ended (words.flatMap fun word => separator :: write word) := by
      intro c hc
      cases words with
      | nil => cases hc
      | cons next words =>
        cases hc
        exact hseparator
    rw [List.flatMap_cons, List.cons_append, split, words_separator hseparator,
      words_written (hwrite word) hended]
    rw [split] at ih
    by_cases htext : write word = []
    · rw [if_pos htext, ih, List.filter_cons_of_neg (by simpa using htext)]
    · rw [if_neg htext, ih, List.filter_cons_of_pos (by simpa using htext)]

end Quotation
