import RollbackLab.Error
import RollbackLab.Quotation

/-!
# The command line of a child process

Windows starts a child with one line of text, which the runtime of the child splits into
arguments again. Arguments with a space, a tab or a quotation mark are put in quotation
marks; the others are appended as they are.
-/

namespace RollbackLab

/-- How the runtime of the child reads its command line. -/
def commandQuotation : Quotation UInt16 where
  separates character := character == 0x20 || character == 0x09
  quote := 0x22
  escape := 0x5C
  quote_ne_escape := by decide
  quote_separates := rfl
  escape_separates := rfl

/-- The wide string of a UTF-8 one, empty where the conversion fails. The system call takes
the size as an `int`. -/
def utf8ToWide (multiByteToWideChar : List UInt8 → Int32 → List UInt16) (value : List UInt8) :
    List UInt16 :=
  if value = [] then [] else multiByteToWideChar value (Int32.ofNat value.length)

/-- What the loop of `quoteArgument` has written, and the backslashes it holds back. -/
structure Quoting where
  quoted : List UInt16
  backslashes : ℕ
  deriving DecidableEq

def quoteCharacter (quoting : Quoting) (character : UInt16) : Quoting :=
  if character = 0x5C then { quoting with backslashes := quoting.backslashes + 1 }
  else if character = 0x22 then
    ⟨quoting.quoted ++ List.replicate (quoting.backslashes * 2 + 1) 0x5C ++ [0x22], 0⟩
  else ⟨quoting.quoted ++ List.replicate quoting.backslashes 0x5C ++ [character], 0⟩

def quoteArgument (argument : List UInt16) : List UInt16 :=
  if argument.all fun character => character ∉ [0x20, 0x09, 0x22] then argument
  else
    let quoting := argument.foldl quoteCharacter ⟨[0x22], 0⟩
    quoting.quoted ++ List.replicate (quoting.backslashes * 2) 0x5C ++ [0x22]

section Spawn

variable (multiByteToWideChar : List UInt8 → Int32 → List UInt16)

def appendArgument (command : List UInt16) (argument : List UInt8) : Result (List UInt16) :=
  let wide := utf8ToWide multiByteToWideChar argument
  if argument ≠ [] ∧ wide = [] then
    .error { code := .invalidArgument, context := "process_argument" }
  else .ok (command ++ [0x20] ++ quoteArgument wide)

/-- The command line that `spawn` passes on. -/
def spawnCommand (executable : List UInt16) (arguments : List (List UInt8)) :
    Result (List UInt16) := do
  let command ← arguments.foldlM (appendArgument multiByteToWideChar) (quoteArgument executable)
  return command ++ [0]

end Spawn

/-- The arguments of the child: what the command line says after the executable, up to its
terminating character. -/
def receivedArguments (executable command : List UInt16) : List (List UInt16) :=
  commandQuotation.split
    ((command.drop (quoteArgument executable).length).takeWhile fun character => character ≠ 0)

theorem quoteCharacter_close (argument : List UInt16) (quoting : Quoting) :
    (argument.foldl quoteCharacter quoting).quoted ++
        List.replicate ((argument.foldl quoteCharacter quoting).backslashes * 2) 0x5C ++ [0x22] =
      quoting.quoted ++ commandQuotation.close quoting.backslashes argument := by
  induction argument generalizing quoting with
  | nil => rw [List.foldl_nil, Quotation.close, List.append_assoc]; rfl
  | cons character argument ih =>
    rw [List.foldl_cons, ih, Quotation.close, quoteCharacter]
    by_cases hbackslash : character = 0x5C
    · rw [if_pos hbackslash, if_pos (show character = commandQuotation.escape from hbackslash)]
    · rw [if_neg hbackslash, if_neg (show ¬character = commandQuotation.escape from hbackslash)]
      by_cases hquote : character = 0x22
      · rw [if_pos hquote, if_pos (show character = commandQuotation.quote from hquote)]
        simp only [List.append_assoc, List.singleton_append]
        rfl
      · rw [if_neg hquote, if_neg (show ¬character = commandQuotation.quote from hquote)]
        simp only [List.append_assoc, List.singleton_append]
        rfl

theorem quoteArgument_written (argument : List UInt16) :
    commandQuotation.Written argument (quoteArgument argument) := by
  rw [quoteArgument]
  split_ifs with hplain
  · refine Or.inl ⟨fun character hcharacter => ?_, rfl⟩
    have habsent := of_decide_eq_true (List.all_eq_true.1 hplain character hcharacter)
    simp only [List.mem_cons, List.not_mem_nil, or_false, not_or] at habsent
    obtain ⟨hspace, htab, hquote⟩ := habsent
    refine ⟨?_, hquote⟩
    simp [commandQuotation, hspace, htab]
  · exact Or.inr (quoteCharacter_close argument ⟨[0x22], 0⟩)

theorem quoteArgument_eq_nil {argument : List UInt16} :
    quoteArgument argument = [] ↔ argument = [] := by
  constructor
  · intro h
    by_contra hargument
    exact Quotation.written_ne_nil (quoteArgument_written argument) hargument h
  · rintro rfl
    rfl

theorem mem_close {escapes : ℕ} {argument : List UInt16} {character : UInt16}
    (h : character ∈ commandQuotation.close escapes argument) :
    character = 0x5C ∨ character = 0x22 ∨ character ∈ argument := by
  induction argument generalizing escapes with
  | nil =>
    rw [Quotation.close, List.mem_append, List.mem_replicate, List.mem_singleton] at h
    exact h.elim (fun h => Or.inl h.2) fun h => Or.inr (Or.inl h)
  | cons first argument ih =>
    rw [Quotation.close] at h
    split_ifs at h with hbackslash hquote
    · exact (ih h).imp_right (Or.imp_right (List.mem_cons_of_mem _))
    · rw [List.mem_append, List.mem_replicate, List.mem_cons] at h
      rcases h with h | h | h
      · exact Or.inl h.2
      · exact Or.inr (Or.inl h)
      · exact (ih h).imp_right (Or.imp_right (List.mem_cons_of_mem _))
    · rw [List.mem_append, List.mem_replicate, List.mem_cons] at h
      rcases h with h | h | h
      · exact Or.inl h.2
      · exact Or.inr (Or.inr (h ▸ List.mem_cons_self))
      · exact (ih h).imp_right (Or.imp_right (List.mem_cons_of_mem _))

/-- Quoting adds no terminating character. -/
theorem quoteArgument_ne_zero {argument : List UInt16} (hargument : 0 ∉ argument) :
    0 ∉ quoteArgument argument := by
  intro h
  rcases quoteArgument_written argument with ⟨-, htext⟩ | htext
  · exact hargument (htext ▸ h)
  · rw [htext, List.mem_cons] at h
    rcases h with h | h
    · exact absurd h (by decide)
    · rcases mem_close h with h | h | h
      · exact absurd h (by decide)
      · exact absurd h (by decide)
      · exact hargument h

section Spawn

variable {multiByteToWideChar : List UInt8 → Int32 → List UInt16}

theorem appendArgument_ok {command longer : List UInt16} {argument : List UInt8}
    (h : appendArgument multiByteToWideChar command argument = .ok longer) :
    (utf8ToWide multiByteToWideChar argument = [] → argument = []) ∧
      longer = command ++ 0x20 :: quoteArgument (utf8ToWide multiByteToWideChar argument) := by
  rw [appendArgument] at h
  split_ifs at h with hfailed
  refine ⟨fun hwide => not_ne_iff.1 fun hargument => hfailed ⟨hargument, hwide⟩, ?_⟩
  rw [← Except.ok.inj h, List.append_assoc, List.singleton_append]

theorem appendArguments_ok {command longer : List UInt16} {arguments : List (List UInt8)}
    (h : arguments.foldlM (appendArgument multiByteToWideChar) command = .ok longer) :
    (∀ argument ∈ arguments, utf8ToWide multiByteToWideChar argument = [] → argument = []) ∧
      longer = command ++ (arguments.map (utf8ToWide multiByteToWideChar)).flatMap
        fun wide => 0x20 :: quoteArgument wide := by
  induction arguments generalizing command with
  | nil =>
    rw [List.foldlM_nil] at h
    refine ⟨by simp, ?_⟩
    rw [List.map_nil, List.flatMap_nil, List.append_nil, ← Except.ok.inj h]
  | cons argument arguments ih =>
    rw [List.foldlM_cons] at h
    rcases hfirst : appendArgument multiByteToWideChar command argument with _ | next
    · rw [hfirst] at h
      cases h
    · rw [hfirst] at h
      obtain ⟨hwide, rfl⟩ := appendArgument_ok hfirst
      obtain ⟨hrest, rfl⟩ := ih h
      refine ⟨List.forall_mem_cons.2 ⟨hwide, hrest⟩, ?_⟩
      rw [List.map_cons, List.flatMap_cons, List.append_assoc]

/-- Where the child is spawned, it receives the arguments that are not empty. -/
theorem spawnCommand_received {executable command : List UInt16} {arguments : List (List UInt8)}
    (hplain : ∀ argument ∈ arguments, 0 ∉ utf8ToWide multiByteToWideChar argument)
    (hspawn : spawnCommand multiByteToWideChar executable arguments = .ok command) :
    receivedArguments executable command =
      (arguments.filter fun argument => argument ≠ []).map (utf8ToWide multiByteToWideChar) := by
  rw [spawnCommand] at hspawn
  rcases hfold : arguments.foldlM (appendArgument multiByteToWideChar) (quoteArgument executable)
    with _ | longer
  · rw [hfold] at hspawn
    cases hspawn
  · rw [hfold] at hspawn
    obtain ⟨hwide, rfl⟩ := appendArguments_ok hfold
    have hcommand := Except.ok.inj hspawn
    have hterminated : ∀ character ∈ (arguments.map (utf8ToWide multiByteToWideChar)).flatMap
        fun wide => 0x20 :: quoteArgument wide, character ≠ 0 := by
      rintro character hcharacter rfl
      obtain ⟨wide, hmem, hzero⟩ := List.mem_flatMap.1 hcharacter
      obtain ⟨argument, hargument, rfl⟩ := List.mem_map.1 hmem
      rcases List.mem_cons.1 hzero with hzero | hzero
      · exact absurd hzero (by decide)
      · exact quoteArgument_ne_zero (hplain argument hargument) hzero
    rw [receivedArguments, ← hcommand, List.append_assoc, List.drop_left,
      List.takeWhile_append_of_pos (fun character hcharacter =>
        decide_eq_true (hterminated character hcharacter)),
      List.takeWhile_cons_of_neg (by decide), List.append_nil,
      Quotation.split_written quoteArgument_written rfl, List.filter_map]
    congr 1
    refine List.filter_congr fun argument hargument => ?_
    rw [Function.comp_apply, decide_eq_decide, not_iff_not, quoteArgument_eq_nil]
    refine ⟨hwide argument hargument, ?_⟩
    rintro rfl
    rfl

/-- The child receives its arguments exactly when none of them is empty: an empty one is
appended without quotation marks. -/
theorem arguments_received {executable command : List UInt16} {arguments : List (List UInt8)}
    (hplain : ∀ argument ∈ arguments, 0 ∉ utf8ToWide multiByteToWideChar argument)
    (hspawn : spawnCommand multiByteToWideChar executable arguments = .ok command) :
    receivedArguments executable command = arguments.map (utf8ToWide multiByteToWideChar) ↔
      [] ∉ arguments := by
  rw [spawnCommand_received hplain hspawn]
  constructor
  · intro h hempty
    have hlength := congrArg List.length h
    rw [List.length_map, List.length_map, List.length_filter_eq_length_iff] at hlength
    exact absurd rfl (of_decide_eq_true (hlength [] hempty))
  · intro hnonempty
    rw [List.filter_eq_self.2]
    rintro argument hargument
    exact decide_eq_true fun h => hnonempty (h ▸ hargument)

/-- A bare argument that ends in a backslash, and a quoted one. -/
theorem arguments_received_quoted :
    receivedArguments [0x65] [0x65, 0x20, 0x61, 0x5C, 0x20, 0x22, 0x5C, 0x22, 0x20, 0x5C, 0x5C, 0x22, 0] =
        [[0x61, 0x5C], [0x22, 0x20, 0x5C]].map (utf8ToWide fun value _ => value.map UInt8.toUInt16) ↔
      [] ∉ ([[0x61, 0x5C], [0x22, 0x20, 0x5C]] : List (List UInt8)) :=
  arguments_received (by decide) (by decide)

/-- The empty argument between two others is lost. -/
theorem empty_argument_lost :
    ¬ ∀ (executable : List UInt16) (arguments : List (List UInt8)) (command : List UInt16),
      (∀ argument ∈ arguments,
        0 ∉ utf8ToWide (fun value _ => value.map UInt8.toUInt16) argument) →
      spawnCommand (fun value _ => value.map UInt8.toUInt16) executable arguments = .ok command →
      receivedArguments executable command =
        arguments.map (utf8ToWide fun value _ => value.map UInt8.toUInt16) := by
  intro h
  exact absurd (h [0x65] [[0x61], [], [0x62]] [0x65, 0x20, 0x61, 0x20, 0x20, 0x62, 0]
    (by decide) (by decide)) (by decide)

end Spawn
end RollbackLab
