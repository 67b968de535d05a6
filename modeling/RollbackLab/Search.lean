import RollbackLab.Json

/-!
# Searching in a text

Where the occurrences of a pattern in a text start, and which members of a written object
a search for a key and the beginning of a value finds.
-/

namespace Search

variable {α : Type*} {pattern before rest : List α} {c d : α}

/-- An occurrence of the pattern starts in the first text when the second one follows it. -/
def Starts (pattern : List α) : List α → List α → Prop
  | [], _ => False
  | c :: before, rest => pattern <+: c :: (before ++ rest) ∨ Starts pattern before rest

theorem starts_append (pattern before between rest : List α) :
    Starts pattern (before ++ between) rest ↔
      Starts pattern before (between ++ rest) ∨ Starts pattern between rest := by
  induction before with
  | nil => simp [Starts]
  | cons c before ih =>
    rw [List.cons_append, Starts, Starts, ih, List.append_assoc, or_assoc]

theorem infix_append_iff (pattern before rest : List α) :
    pattern <:+: before ++ rest ↔ Starts pattern before rest ∨ pattern <:+: rest := by
  induction before with
  | nil => simp [Starts]
  | cons c before ih =>
    rw [List.cons_append, List.infix_cons_iff, ih, Starts, or_assoc]

theorem infix_iff (hne : pattern ≠ []) (whole : List α) : pattern <:+: whole ↔ Starts pattern whole [] := by
  have h := infix_append_iff pattern whole []
  rw [List.append_nil, List.infix_nil] at h
  rw [h, or_iff_left hne]

theorem not_starts_of_not_mem (h : c ∉ before) : ¬Starts (c :: pattern) before rest := by
  induction before with
  | nil => exact id
  | cons d before ih =>
    rw [List.mem_cons, not_or] at h
    rintro (hhead | htail)
    · exact h.1 (List.cons_prefix_cons.mp hhead).1
    · exact ih h.2 htail

/-- A pattern starts nowhere when its second letter is not there to follow the first. -/
theorem not_starts_of_second {e : α} (h : d ∉ before) (he : d ≠ e) :
    ¬Starts (c :: d :: pattern) before (e :: rest) := by
  induction before with
  | nil => exact id
  | cons a before ih =>
    rw [List.mem_cons, not_or] at h
    rintro (hhead | htail)
    · obtain ⟨-, hsecond⟩ := List.cons_prefix_cons.mp hhead
      cases before with
      | nil => exact he (List.cons_prefix_cons.mp hsecond).1
      | cons b before =>
        exact h.2 (List.mem_cons.mpr (Or.inl (List.cons_prefix_cons.mp hsecond).1))
    · exact ih h.2 htail

/-- A pattern without the letter behind a text is looked for in the text only. -/
theorem prefix_append_cons (h : c ∉ pattern) : pattern <+: before ++ c :: rest ↔ pattern <+: before := by
  induction pattern generalizing before with
  | nil => simp
  | cons d pattern ih =>
    rw [List.mem_cons, not_or] at h
    cases before with
    | nil =>
      rw [List.nil_append, List.cons_prefix_cons, List.prefix_nil]
      exact iff_of_false (fun hfirst => h.1 hfirst.1.symm) (List.cons_ne_nil _ _)
    | cons a before => rw [List.cons_append, List.cons_prefix_cons, List.cons_prefix_cons, ih h.2]

/-- A pattern with a letter in it, and a text up to the first such letter. -/
theorem isPrefix_separated {key others : List UInt8} {c : UInt8} {value rest : List UInt8} (hkey : c ∉ key)
    (hothers : c ∉ others) :
    key ++ c :: value <+: others ++ c :: rest ↔ key = others ∧ value <+: rest := by
  constructor
  · rintro ⟨tail, htail⟩
    rw [List.append_assoc, List.cons_append, Numeral.separated_inj hkey hothers] at htail
    exact ⟨htail.1, tail, htail.2⟩
  · rintro ⟨rfl, tail, rfl⟩
    exact ⟨tail, by rw [List.append_assoc, List.cons_append]⟩

end Search

/-! ## Searching for a member -/

namespace Json

open Search

/-- What may stand behind a value. -/
def isStop (c : UInt8) : Bool := c == comma || c == closeBrace || isSpace c

/-- Whether a pattern starts in a value does not depend on what stands behind it. -/
def Finds (pattern value : List UInt8) (found : Prop) : Prop :=
  ∀ c rest, isStop c = true → (Starts pattern value (c :: rest) ↔ found)

theorem Finds.of_iff {pattern value : List UInt8} {found known : Prop} (h : Finds pattern value found)
    (hiff : found ↔ known) : Finds pattern value known :=
  fun c rest hc => (h c rest hc).trans hiff

theorem finds_of_not_mem {c : UInt8} {pattern value : List UInt8} (h : c ∉ value) :
    Finds (c :: pattern) value False :=
  fun _ _ _ => iff_false_intro (not_starts_of_not_mem h)

theorem isStop_append {closing : List UInt8} (h : Spaces closing) (rest : List UInt8) :
    ∃ c others, closing ++ closeBrace :: rest = c :: others ∧ isStop c = true := by
  cases closing with
  | nil => exact ⟨closeBrace, rest, rfl, rfl⟩
  | cons c closing =>
    refine ⟨c, closing ++ closeBrace :: rest, rfl, ?_⟩
    rw [isStop, h c List.mem_cons_self, Bool.or_true]

theorem not_mem_spaces {c : UInt8} (hc : isSpace c = false) {spaces : List UInt8} (h : Spaces spaces) :
    c ∉ spaces := by
  intro hmem
  rw [h c hmem] at hc
  exact absurd hc (by decide)

section Members

variable {first : UInt8} {pattern spaces closing : List UInt8}
  {found : List UInt8 × List UInt8 → Prop} {fields : List (List UInt8 × List UInt8)}

/-- A pattern that begins with no mark between members starts in some member. -/
theorem starts_membersText (hfirst : isStop first = false) (hspaces : Spaces spaces)
    (hclosing : Spaces closing)
    (h : ∀ field ∈ fields, Finds (first :: pattern) (memberText field) (found field))
    (rest : List UInt8) : Starts (first :: pattern) (membersText spaces closing fields) rest ↔
      ∃ field ∈ fields, found field := by
  have hmarks : first ≠ comma ∧ first ≠ closeBrace ∧ isSpace first = false := by
    simpa [isStop, and_assoc] using hfirst
  obtain ⟨hcomma, hbrace, hspace⟩ := hmarks
  have hclose : first ∉ closing ++ [closeBrace] := by
    rw [List.mem_append, List.mem_singleton, not_or]
    exact ⟨not_mem_spaces hspace hclosing, hbrace⟩
  induction fields with
  | nil =>
    rw [membersText, iff_false_intro (not_starts_of_not_mem hclose)]
    simp
  | cons field fields ih =>
    have hfield := h field List.mem_cons_self
    cases fields with
    | nil =>
      obtain ⟨c, others, heq, hc⟩ := isStop_append hclosing rest
      rw [membersText, starts_append, or_iff_left (not_starts_of_not_mem hclose), List.append_assoc,
        List.singleton_append, heq, hfield c others hc]
      simp
    | cons next fields =>
      have hgap : first ∉ comma :: spaces := by
        rw [List.mem_cons, not_or]
        exact ⟨hcomma, not_mem_spaces hspace hspaces⟩
      have hrest : Starts (first :: pattern) (membersText spaces closing (next :: fields)) rest ↔
          ∃ other ∈ next :: fields, found other :=
        ih fun other hother => h other (List.mem_cons_of_mem _ hother)
      rw [membersText, ← List.cons_append, starts_append, starts_append (first :: pattern) (comma :: spaces),
        iff_false_intro (not_starts_of_not_mem hgap), false_or, hrest, List.cons_append, List.cons_append,
        hfield comma _ rfl, List.exists_mem_cons_iff found field (next :: fields)]
      exact List.cons_ne_nil _ _

theorem starts_objectText (hfirst : isStop first = false) (hbrace : first ≠ openBrace)
    (hspaces : Spaces spaces) (hclosing : Spaces closing)
    (h : ∀ field ∈ fields, Finds (first :: pattern) (memberText field) (found field))
    (rest : List UInt8) : Starts (first :: pattern) (objectText spaces closing fields) rest ↔
      ∃ field ∈ fields, found field := by
  have hspace : isSpace first = false := by
    rw [isStop, Bool.or_eq_false_iff] at hfirst
    exact hfirst.2
  have hopen : first ∉ openBrace :: spaces := by
    rw [List.mem_cons, not_or]
    exact ⟨hbrace, not_mem_spaces hspace hspaces⟩
  rw [objectText, ← List.cons_append, starts_append, or_iff_right (not_starts_of_not_mem hopen),
    starts_membersText hfirst hspaces hclosing h]

end Members

/-- A key and the beginning of a value, as they are looked for. -/
structure MemberQuery (key value : List UInt8) : Prop where
  plain : quote ∉ key
  first : ∃ c others, key = c :: others ∧ c ≠ colon ∧ isStop c = false
  bare : ∀ c ∈ value, isStop c = false

namespace MemberQuery

variable {key value : List UInt8} (h : MemberQuery key value)

include h

/-- Neither the quotes of a string begin a key. -/
theorem finds_string {bytes : List UInt8} (hbytes : quote ∉ bytes) :
    Finds (memberText (key, value)) (quote :: (bytes ++ [quote])) False := by
  intro c rest hc
  obtain ⟨letter, others, hkey, -, hletter⟩ := h.first
  rw [memberText, Starts, starts_append, or_iff_right (not_starts_of_not_mem hbytes), iff_false, not_or]
  constructor
  · rw [List.cons_prefix_cons, List.append_assoc, List.singleton_append, isPrefix_separated h.plain hbytes,
      List.cons_prefix_cons]
    rintro ⟨-, -, hcolon, -⟩
    rw [← hcolon] at hc
    exact absurd hc (by decide)
  · rintro (hhead | hnone)
    · rw [List.cons_prefix_cons, hkey, List.nil_append] at hhead
      have hsame : letter = c := (List.cons_prefix_cons.mp hhead.2).1
      rw [hsame, hc] at hletter
      exact absurd hletter (by decide)
    · exact hnone

/-- The member with the key is found when the value begins so. -/
theorem finds_member {field : List UInt8 × List UInt8} (hfield : quote ∉ field.1)
    (hvalue : Finds (memberText (key, value)) field.2 False) :
    Finds (memberText (key, value)) (memberText field) (field.1 = key ∧ value <+: field.2) := by
  intro c rest hc
  have hbare : c ∉ value := by
    intro hmem
    rw [h.bare c hmem] at hc
    exact absurd hc (by decide)
  obtain ⟨letter, others, hkey, hletter, -⟩ := h.first
  have hsecond : ¬Starts (memberText (key, value)) [quote, colon] (field.2 ++ c :: rest) := by
    rintro (hhead | hhead | hnone)
    · rw [memberText, List.cons_prefix_cons, hkey] at hhead
      exact hletter (List.cons_prefix_cons.mp hhead.2).1
    · exact absurd (List.cons_prefix_cons.mp hhead).1 (by decide)
    · exact hnone
  have hsplit : memberText field = quote :: (field.1 ++ ([quote, colon] ++ field.2)) := rfl
  have hquery : memberText (key, value) = quote :: (key ++ quote :: colon :: value) := rfl
  rw [hsplit, Starts, starts_append, starts_append, hvalue c rest hc, or_false,
    iff_false_intro hsecond, or_false, hquery, or_iff_left (not_starts_of_not_mem hfield),
    List.cons_prefix_cons, List.append_assoc]
  simp only [List.cons_append, List.nil_append, true_and]
  rw [isPrefix_separated h.plain hfield, List.cons_prefix_cons, prefix_append_cons hbare]
  simp only [true_and, eq_comm]

end MemberQuery

end Json
