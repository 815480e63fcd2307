namespace Instrumentation.Text

/-! White space, in the sense of the Unicode property White_Space, and text
without it at either end. -/

def isBlank (character : Char) : Bool :=
  let code := character.toNat
  (0x9 ≤ code && code ≤ 0xd) || code == 0x20 || code == 0x85 || code == 0xa0 ||
    code == 0x1680 || (0x2000 ≤ code && code ≤ 0x200a) || code == 0x2028 ||
    code == 0x2029 || code == 0x202f || code == 0x205f || code == 0x3000

def trimStart (characters : List Char) : List Char :=
  characters.dropWhile isBlank

def trimEnd : List Char → List Char
  | [] => []
  | character :: rest =>
      match trimEnd rest with
      | [] => if isBlank character then [] else [character]
      | kept => character :: kept

def trim (characters : List Char) : List Char :=
  trimEnd (trimStart characters)

theorem trimEnd_trimEnd (characters : List Char) :
    trimEnd (trimEnd characters) = trimEnd characters := by
  induction characters with
  | nil => rfl
  | cons character rest induction =>
      simp only [trimEnd]
      split
      · split <;> simp_all [trimEnd]
      · simp_all [trimEnd]

/-- Cutting the end of text that starts with a visible character keeps its start. -/
theorem trimStart_trimEnd_cons {character : Char} {rest : List Char}
    (visible : isBlank character = false) :
    trimStart (trimEnd (character :: rest)) = trimEnd (character :: rest) := by
  simp only [trimEnd]
  split <;> simp [trimStart, visible]

theorem trimStart_eq_nil_or_cons (characters : List Char) :
    trimStart characters = [] ∨ ∃ character rest,
      isBlank character = false ∧ trimStart characters = character :: rest := by
  induction characters with
  | nil => exact .inl rfl
  | cons character rest induction =>
      by_cases blank : isBlank character
      · simpa [trimStart, List.dropWhile_cons, blank] using induction
      · exact .inr ⟨character, rest, by simpa using blank,
          by simp [trimStart, blank]⟩

theorem trim_trim (characters : List Char) : trim (trim characters) = trim characters := by
  unfold trim
  rcases trimStart_eq_nil_or_cons characters with empty | ⟨character, rest, visible, starts⟩
  · rw [empty]; rfl
  · rw [starts, trimStart_trimEnd_cons visible, trimEnd_trimEnd]

end Instrumentation.Text
