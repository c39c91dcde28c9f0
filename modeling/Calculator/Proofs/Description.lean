import Calculator.Proofs.ProblemPlace

set_option autoImplicit false

namespace Calculator

def isLineBreak (c : Char) : Bool :=
  c ∈ ['\n', '\x0b', '\x0c', '\r', '\u0085', '\u2028', '\u2029']

def OneLine (text : List Char) : Prop := ∀ c ∈ text, isLineBreak c = false

instance (text : List Char) : Decidable (OneLine text) :=
  List.decidableBAll _ text

theorem oneLine_append {a b : List Char} : OneLine (a ++ b) ↔ OneLine a ∧ OneLine b :=
  List.forall_mem_append

theorem oneLine_cons {c : Char} {text : List Char} :
    OneLine (c :: text) ↔ isLineBreak c = false ∧ OneLine text :=
  List.forall_mem_cons

theorem oneLine_nil : OneLine [] := by simp [OneLine]

theorem isLineBreak_digitChar (d : Nat) : isLineBreak d.digitChar = false := by
  rcases Nat.lt_or_ge d 16 with small | large
  · revert d
    decide
  · rw [Nat.digitChar_eq_star.mpr large]
    decide

theorem oneLine_toDigits {base : Nat} (large : 1 < base) (n : Nat) :
    OneLine (Nat.toDigits base n) := by
  have digit (d : Nat) : OneLine [d.digitChar] :=
    oneLine_cons.mpr ⟨isLineBreak_digitChar d, oneLine_nil⟩
  induction n using Nat.strongRecOn with
  | ind n ih =>
      rw [Nat.toDigits_eq_if large]
      split
      next => exact digit n
      next notSmall =>
        have shorter : n / base < n := Nat.div_lt_self (by omega) large
        exact oneLine_append.mpr ⟨ih _ shorter, digit (n % base)⟩

theorem oneLine_toString (n : Nat) : OneLine (toString n).toList := by
  have digits : (toString n).toList = Nat.toDigits 10 n := by
    simp [toString, Nat.repr]
  rw [digits]
  exact oneLine_toDigits (by decide) n

theorem oneLine_of_isNumeric {run : List Char} (numeric : ∀ c ∈ run, isNumeric c) :
    OneLine run := by
  intro c member
  refine Bool.eq_false_iff.mpr fun lineBreak => ?_
  have isNumeric := numeric c member
  simp only [isLineBreak, List.mem_cons, List.not_mem_nil, or_false, decide_eq_true_eq] at lineBreak
  rcases lineBreak with rfl | rfl | rfl | rfl | rfl | rfl | rfl <;> revert isNumeric <;> decide

namespace Text

theorem isUnprintable_of_isLineBreak {c : Char} (lineBreak : isLineBreak c)
    (unescaped : escapeLetter? c = none) : isUnprintable c := by
  simp only [isLineBreak, List.mem_cons, List.not_mem_nil, or_false, decide_eq_true_eq] at lineBreak
  rcases lineBreak with rfl | rfl | rfl | rfl | rfl | rfl | rfl
  all_goals
    revert unescaped
    decide +kernel

theorem oneLine_escape {quote : Char} (plain : isLineBreak quote = false) (c : Char) :
    OneLine (escape quote c) := by
  unfold escape
  split
  next letter found =>
    have printable : isLineBreak letter = false := by
      unfold escapeLetter? at found
      split at found <;> cases found <;> decide
    exact oneLine_cons.mpr ⟨by decide, oneLine_cons.mpr ⟨printable, oneLine_nil⟩⟩
  next unescaped =>
    split
    next => exact oneLine_cons.mpr ⟨by decide, oneLine_cons.mpr ⟨plain, oneLine_nil⟩⟩
    split
    next =>
      have digits := oneLine_toDigits (show 1 < 16 by decide) c.toNat
      have opens : OneLine ['\\', 'u', '\x7b'] := by decide
      have closes : OneLine ['\x7d'] := by decide
      exact oneLine_append.mpr ⟨oneLine_append.mpr ⟨opens, digits⟩, closes⟩
    next shown =>
      refine oneLine_cons.mpr ⟨Bool.eq_false_iff.mpr fun lineBreak => shown ?_, oneLine_nil⟩
      rw [isUnprintable_of_isLineBreak lineBreak unescaped, Bool.or_true]

theorem oneLine_quotedChar (c : Char) : OneLine (quotedChar c).toList := by
  have escaped := oneLine_escape (show isLineBreak '\x27' = false by decide) c
  rw [quotedChar, quoted, String.toList_ofList, List.flatMap_singleton]
  exact oneLine_cons.mpr
    ⟨by decide, oneLine_append.mpr ⟨escaped, oneLine_cons.mpr ⟨by decide, oneLine_nil⟩⟩⟩

end Text

theorem oneLine_toList_append {a b : String} :
    OneLine (a ++ b).toList ↔ OneLine a.toList ∧ OneLine b.toList := by
  rw [String.toList_append, oneLine_append]

namespace Problem

theorem Marks.oneLine_message {text : List Char} {problem : Problem} (h : problem.Marks text) :
    OneLine problem.message.toList := by
  have place := oneLine_toString problem.position
  unfold message
  cases problem with
  | unopened position | unclosed position =>
      simp only [oneLine_toList_append]
      exact ⟨⟨by decide, place⟩, by decide⟩
  | unacceptable symbol position | misplaced symbol position =>
      have quoted := Text.oneLine_quotedChar symbol
      simp only [oneLine_toList_append]
      exact ⟨⟨⟨by decide, quoted⟩, by decide⟩, place⟩
  | malformedNumber literal position =>
      have shown := oneLine_of_isNumeric h.1.numeric
      simp only [oneLine_toList_append]
      exact ⟨⟨⟨⟨by decide, shown⟩, by decide⟩, place⟩, by decide⟩

def margin : List Char := [' ', ' ', ' ', ' ']

def caretLine (problem : Problem) (text : String) : List Char :=
  margin ++ problem.padding text ++ ['^']

theorem toList_describe (problem : Problem) (text : String) :
    (problem.describe text).toList =
      problem.message.toList ++
        '\n' :: (margin ++ text.toList ++ '\n' :: problem.caretLine text) := by
  have parts : problem.describe text =
      problem.message ++ "\n    " ++ text ++ "\n    " ++ String.ofList (problem.padding text) ++
        "^" :=
    rfl
  simp [parts, margin, caretLine]

theorem blank_of_mem_indent {problem : Problem} {text : String} {c : Char}
    (member : c ∈ margin ++ problem.padding text) : c = '\t' ∨ c = ' ' := by
  rcases List.mem_append.mp member with inMargin | inPadding
  next => exact .inr (by simpa [margin] using inMargin)
  next =>
    obtain ⟨shown, _, rfl⟩ := List.mem_map.mp inPadding
    split <;> simp

section

variable {problem : Problem} {text : String} (inside : problem.position < text.length)
include inside

theorem length_padding : (problem.padding text).length = problem.position := by
  rw [← String.length_toList] at inside
  rw [padding, List.length_map, List.length_take]
  omega

theorem getElem?_padding {i : Nat} (before : i < problem.position) :
    (problem.padding text)[i]? = some (if text.toList[i]? = some '\t' then '\t' else ' ') := by
  rw [← String.length_toList] at inside
  have bound : i < text.toList.length := by omega
  simp [padding, List.getElem?_take_of_lt before, List.getElem?_eq_getElem bound]

theorem idxOf_caretLine :
    (problem.caretLine text).idxOf '^' = margin.length + problem.position := by
  have absent : '^' ∉ margin ++ problem.padding text := by
    intro member
    rcases blank_of_mem_indent member with tab | space <;> contradiction
  rw [caretLine, List.idxOf_append, if_neg absent, List.idxOf_cons_self, Nat.zero_add,
    List.length_append, length_padding inside]

end

theorem not_mem_caretLine (problem : Problem) (text : String) :
    '\n' ∉ problem.caretLine text := by
  intro member
  rcases List.mem_append.mp member with indent | caret
  next => rcases blank_of_mem_indent indent with tab | space <;> contradiction
  next => exact absurd caret (by decide)

theorem splitOn_line {line rest : List Char} {c : Char} (unbroken : c ∉ line) :
    (line ++ c :: rest).splitOn c = line :: rest.splitOn c := by
  have parts := List.splitOnP_append_cons (p := (· == c)) line rest BEq.rfl
  rw [List.splitOn, parts]
  exact congrArg (· ++ _) (List.splitOn_eq_singleton unbroken)

theorem splitOn_describe {problem : Problem} {text : String}
    (oneLine : OneLine problem.message.toList) (unbroken : '\n' ∉ text.toList) :
    (problem.describe text).toList.splitOn '\n' =
      [problem.message.toList, margin ++ text.toList, problem.caretLine text] := by
  have first : '\n' ∉ problem.message.toList := fun member => absurd (oneLine _ member) (by decide)
  have second : '\n' ∉ margin ++ text.toList := by
    simp [margin, unbroken]
  have third := not_mem_caretLine problem text
  rw [toList_describe, splitOn_line first, splitOn_line second, List.splitOn_eq_singleton third]

structure Points (problem : Problem) (text : String) : Prop where
  inside : problem.position < text.length
  marks : problem.Marks text.toList
  oneLine : OneLine problem.message.toList
  parts : (problem.describe text).toList =
    problem.message.toList ++
      '\n' :: (margin ++ text.toList ++ '\n' :: (margin ++ problem.padding text ++ ['^']))
  width : (problem.padding text).length = problem.position
  tabs : ∀ i < problem.position,
    (problem.padding text)[i]? = some (if text.toList[i]? = some '\t' then '\t' else ' ')
  column : '\n' ∉ text.toList → ∃ shown caret : List Char,
    (problem.describe text).toList.splitOn '\n' = [problem.message.toList, shown, caret] ∧
    shown = margin ++ text.toList ∧ caret.idxOf '^' = margin.length + problem.position ∧
    shown[caret.idxOf '^']? = text.toList[problem.position]?

theorem Marks.points {problem : Problem} {text : String} (h : problem.Marks text.toList) :
    problem.Points text := by
  have inside : problem.position < text.length := by
    rw [← String.length_toList]
    exact h.position_lt
  have oneLine := h.oneLine_message
  have caretAt := idxOf_caretLine inside
  refine ⟨inside, h, oneLine, toList_describe problem text, length_padding inside,
    fun _ before => getElem?_padding inside before, fun unbroken => ?_⟩
  refine ⟨_, _, splitOn_describe oneLine unbroken, rfl, caretAt, ?_⟩
  rw [caretAt, List.getElem?_append_right (Nat.le_add_right _ _), Nat.add_sub_cancel_left]

end Problem

theorem points_of_mem_diagnose {text : String} {problem : Problem} (h : problem ∈ diagnose text) :
    problem.Points text :=
  (marks_of_mem_diagnose h).points

theorem points_of_mem_diagnose_tab :
    .misplaced '*' 3 ∈ diagnose "\t2 *" ∧ (Problem.misplaced '*' 3).Points "\t2 *" := by
  have found : .misplaced '*' 3 ∈ diagnose "\t2 *" := by decide +kernel
  exact ⟨found, points_of_mem_diagnose found⟩

end Calculator
