import Calculator.CommandLine.Run

set_option autoImplicit false

namespace Calculator.CommandLine

theorem toList_loop (bytes : ByteArray) (i : Nat) (done : List UInt8) :
    ByteArray.toList.loop bytes i done = done.reverse ++ bytes.data.toList.drop i := by
  fun_induction ByteArray.toList.loop bytes i done with
  | case1 i done inside ih =>
      have bound : i < bytes.data.toList.length := by simpa using inside
      rw [ih, List.drop_eq_getElem_cons bound]
      simp [ByteArray.get!, inside]
  | case2 i done outside =>
      have beyond : bytes.data.toList.length ≤ i := by simpa using outside
      rw [List.drop_eq_nil_of_le beyond, List.append_nil]

theorem toList_toByteArray (bytes : List UInt8) : bytes.toByteArray.toList = bytes := by
  rw [ByteArray.toList, toList_loop]
  simp

theorem toUTF8_eq (text : String) :
    text.toUTF8 = (text.toList.flatMap String.utf8EncodeChar).toByteArray := by
  rw [String.toUTF8_eq_toByteArray, ← String.utf8Encode_toList, List.utf8Encode]

theorem mem_utf8EncodeChar {c : Char} : 10 ∈ String.utf8EncodeChar c ↔ c = '\n' := by
  have code : c = '\n' ↔ c.val.toNat = 10 := by
    rw [Char.ext_iff, ← UInt32.toNat_inj]
    rfl
  have byte (n : Nat) : 10 = UInt8.ofNat n ↔ n % 256 = 10 := by
    rw [eq_comm, ← UInt8.toNat_inj, UInt8.toNat_ofNat']
    rfl
  rw [code]
  fun_cases String.utf8EncodeChar c <;>
    simp only [List.mem_cons, List.not_mem_nil, or_false, byte] <;> omega

-- Only a line feed has its byte in UTF-8.
theorem mem_toUTF8 {text : String} : 10 ∈ text.toUTF8.toList ↔ '\n' ∈ text.toList := by
  rw [toUTF8_eq, toList_toByteArray]
  simp [mem_utf8EncodeChar]

theorem fromUTF8?_eq_some_iff {bytes : List UInt8} {text : String} :
    String.fromUTF8? bytes.toByteArray = some text ↔ bytes = text.toUTF8.toList := by
  constructor
  next =>
    intro read
    unfold String.fromUTF8? at read
    split at read
    next =>
      obtain rfl := Option.some.inj read
      exact (toList_toByteArray bytes).symm
    next => contradiction
  next =>
    intro encoded
    rw [encoded, toUTF8_eq, toList_toByteArray, ← toUTF8_eq]
    exact dif_pos text.isValidUTF8

theorem takeWhile_dropWhile_eq_iff {α : Type} {p : α → Bool} {whole front rest : List α} :
    whole.takeWhile p = front ∧ whole.dropWhile p = rest ↔
      whole = front ++ rest ∧ (∀ a ∈ front, p a) ∧ ∀ a ∈ rest.head?, p a = false := by
  constructor
  next =>
    rintro ⟨rfl, rfl⟩
    have stopped := List.head?_dropWhile_not p whole
    refine ⟨List.takeWhile_append_dropWhile.symm, List.all_eq_true.mp List.all_takeWhile, ?_⟩
    intro a isHead
    rwa [Option.mem_def.mp isHead] at stopped
  next =>
    rintro ⟨rfl, passed, stopped⟩
    rw [List.takeWhile_append_of_pos passed, List.dropWhile_append_of_pos passed]
    cases rest with
    | nil => simp
    | cons a rest => simp [stopped a rfl]

theorem dropReturns_eq_iff {line text : List Char} :
    (line.reverse.dropWhile (· == '\r')).reverse = text ↔
      text.getLast? ≠ some '\r' ∧ ∃ returns, line = text ++ List.replicate returns '\r' := by
  constructor
  next =>
    intro dropped
    obtain ⟨parts, passed, stopped⟩ := takeWhile_dropWhile_eq_iff.mp
      ⟨rfl, List.reverse_eq_iff.mp dropped⟩
    rw [List.head?_reverse] at stopped
    have returns := List.eq_replicate_of_mem fun c member => eq_of_beq (passed c member)
    rw [returns, List.reverse_eq_append_iff, List.reverse_reverse, List.reverse_replicate] at parts
    exact ⟨fun last => absurd (stopped '\r' last) (by decide), _, parts⟩
  next =>
    rintro ⟨noReturn, returns, rfl⟩
    have parts : (text ++ List.replicate returns '\r').reverse =
        List.replicate returns '\r' ++ text.reverse := by simp
    have passed : ∀ c ∈ List.replicate returns '\r', (c == '\r') = true := by simp
    have stopped : ∀ c ∈ text.reverse.head?, (c == '\r') = false := by
      rintro c isLast
      rw [List.head?_reverse] at isLast
      exact beq_false_of_ne fun isReturn => noReturn (isReturn ▸ isLast)
    have split := takeWhile_dropWhile_eq_iff.mpr ⟨parts, passed, stopped⟩
    rw [split.2, List.reverse_reverse]

def FirstLine (input : ByteArray) (text : String) : Prop :=
  ∃ (returns : Nat) (rest : List UInt8),
    input.toList = (text ++ String.ofList (List.replicate returns '\r')).toUTF8.toList ++ rest ∧
    (∀ byte ∈ rest.head?, byte = 10) ∧ '\n' ∉ text.toList ∧ text.toList.getLast? ≠ some '\r'

theorem firstLine?_eq_some_iff {input : ByteArray} {text : String} :
    firstLine? input = some text ↔ FirstLine input text := by
  simp only [firstLine?, Option.bind_eq_bind, Option.bind_eq_some_iff, Option.pure_def,
    Option.some.injEq, fromUTF8?_eq_some_iff]
  constructor
  next =>
    rintro ⟨line, read, dropped⟩
    have inList := congrArg String.toList dropped
    rw [String.toList_ofList] at inList
    obtain ⟨noReturn, returns, lineParts⟩ := dropReturns_eq_iff.mp inList
    obtain ⟨parts, passed, stopped⟩ := takeWhile_dropWhile_eq_iff.mp ⟨read, rfl⟩
    have isLine : text ++ String.ofList (List.replicate returns '\r') = line :=
      String.ext (by simp [lineParts])
    rw [← isLine] at parts
    refine ⟨returns, _, parts, fun byte isHead => ?_, fun member => ?_, noReturn⟩
    next => simpa using stopped byte isHead
    next =>
      have inLine : '\n' ∈ line.toList := lineParts ▸ List.mem_append_left _ member
      exact absurd (passed 10 (mem_toUTF8.mpr inLine)) (by decide)
  next =>
    rintro ⟨returns, rest, parts, stopped, unbroken, noReturn⟩
    have passed : ∀ byte ∈ (text ++ String.ofList (List.replicate returns '\r')).toUTF8.toList,
        decide (byte ≠ 10) = true := by
      intro byte member
      refine decide_eq_true fun lineFeed => ?_
      rw [lineFeed, mem_toUTF8] at member
      simp [unbroken] at member
    have read := takeWhile_dropWhile_eq_iff.mpr ⟨parts, passed, by simpa using stopped⟩
    refine ⟨_, read.1, String.ext ?_⟩
    rw [String.toList_ofList]
    exact dropReturns_eq_iff.mpr ⟨noReturn, returns, by simp⟩

end Calculator.CommandLine
