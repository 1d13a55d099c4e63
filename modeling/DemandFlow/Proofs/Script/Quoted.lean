import DemandFlow.Script.Quoted
import DemandFlow.Text.Escape
import DemandFlow.Proofs.Text.Hex

/-!
Contract: quoted text is read back, whatever its characters.

Owns: what a reader of quoted text makes of the form of a single character, and of a whole text.

Main statement: `Quotation.close?_escaped`.

Does not own: other escapes that a script may hold, raw text, and single characters.
-/

namespace DemandFlow.Script.Quotation

theorem hexValue?_toDigits (number : Nat) :
    hexValue? (Nat.toDigits 16 number) = some number := by
  refine Hex.foldlM_toDigits (by decide) (fun value digit small => ?_) number
  simp [Hex.value?_digitChar ⟨digit, small⟩]

/-- No character has a code point of more than six digits. -/
theorem length_toDigits_le (char : Char) : (Nat.toDigits 16 char.toNat).length ≤ 6 := by
  have valid : char.toNat < 0xd800 ∨ 0xdfff < char.toNat ∧ char.toNat < 0x110000 := char.valid
  refine (Nat.length_toDigits_le_iff (by decide) (by decide)).mpr ?_
  omega

theorem codePoint?_toDigits (char : Char) (rest : List Char) :
    codePoint? ('\x7b' :: (Nat.toDigits 16 char.toNat ++ '\x7d' :: rest)) = some (char, rest) := by
  have inside : ∀ digit ∈ Nat.toDigits 16 char.toNat, (digit != '\x7d') = true := by
    intro digit mem
    obtain ⟨value, small, rfl⟩ := Hex.exists_of_mem_toDigits (by decide) mem
    have apart : ∀ value : Fin 16, (Nat.digitChar value != '\x7d') = true := by decide
    exact apart ⟨value, small⟩
  have digits : (Nat.toDigits 16 char.toNat ++ '\x7d' :: rest).takeWhile (· != '\x7d') =
      Nat.toDigits 16 char.toNat := by
    rw [List.takeWhile_append_of_pos inside, List.takeWhile_cons_of_neg (by simp), List.append_nil]
  have close : (Nat.toDigits 16 char.toNat ++ '\x7d' :: rest).dropWhile (· != '\x7d') =
      '\x7d' :: rest := by
    rw [List.dropWhile_append_of_pos inside, List.dropWhile_cons_of_neg (by simp)]
  have valid : 1 ≤ (Nat.toDigits 16 char.toNat).length ∧
      (Nat.toDigits 16 char.toNat).length ≤ 6 ∧ char.toNat.isValidChar :=
    ⟨Nat.length_toDigits_pos, length_toDigits_le char, char.valid⟩
  unfold codePoint?
  simp only [digits, close, hexValue?_toDigits, Option.bind_eq_bind, Option.bind_some,
    if_pos valid, Char.ofNat_toNat]

/-- The form of a character is the character itself, if that has no meaning of its own between
quotes, or else an escape that is read as the character. -/
theorem escape_cases (char : Char) :
    (Escape.char ['"', '\''] char = [char] ∧ char ≠ '"' ∧ char ≠ '\\') ∨
      ∃ tail, Escape.char ['"', '\''] char = '\\' :: tail ∧
        ∀ rest, prose.escape? (tail ++ rest) = some (char, rest) := by
  unfold Escape.char
  split
  · exact .inr ⟨['0'], rfl, fun _ => rfl⟩
  · exact .inr ⟨['t'], rfl, fun _ => rfl⟩
  · exact .inr ⟨['r'], rfl, fun _ => rfl⟩
  · exact .inr ⟨['n'], rfl, fun _ => rfl⟩
  · exact .inr ⟨['\\'], rfl, fun _ => rfl⟩
  · rename_i backslash
    split
    · rename_i quoted
      refine .inr ⟨[char], rfl, fun rest => ?_⟩
      obtain rfl | rfl : char = '"' ∨ char = '\'' := by simpa using quoted
      · rfl
      · rfl
    split
    · refine .inr ⟨'u' :: '\x7b' :: (Nat.toDigits 16 char.toNat ++ ['\x7d']), rfl, fun rest => ?_⟩
      have read := codePoint?_toDigits char rest
      rw [List.cons_append, List.cons_append, List.append_assoc]
      exact read
    · rename_i unquoted _
      refine .inl ⟨rfl, ?_, fun same => backslash same⟩
      rintro rfl
      exact unquoted (by decide)

theorem length_le_escaped (text : List Char) :
    text.length ≤ (text.flatMap (Escape.char ['"', '\''])).length := by
  induction text with
  | nil => exact le_rfl
  | cons char text inductionHypothesis =>
    have some : 1 ≤ (Escape.char ['"', '\''] char).length := by
      obtain ⟨plain, -, -⟩ | ⟨tail, escaped, -⟩ := escape_cases char
      · rw [plain]
        exact le_rfl
      · rw [escaped, List.length_cons]
        omega
    rw [List.flatMap_cons, List.length_append, List.length_cons]
    omega

theorem closeWithin_escaped (text rest : List Char) {limit : Nat} (enough : text.length < limit) :
    prose.closeWithin limit (text.flatMap (Escape.char ['"', '\'']) ++ '"' :: rest) =
      some (text, rest) := by
  induction text generalizing limit with
  | nil =>
    obtain ⟨limit, rfl⟩ := Nat.exists_eq_succ_of_ne_zero enough.ne'
    rfl
  | cons char text inductionHypothesis =>
    obtain ⟨limit, rfl⟩ := Nat.exists_eq_succ_of_ne_zero (Nat.ne_of_gt (Nat.zero_lt_of_lt enough))
    have left : text.length < limit := by simpa using enough
    have others := inductionHypothesis left
    rw [List.flatMap_cons, List.append_assoc]
    obtain ⟨plain, quote, backslash⟩ | ⟨tail, escaped, read⟩ := escape_cases char
    · rw [plain, List.singleton_append]
      simp [closeWithin, others]
    · rw [escaped, List.cons_append]
      simp [closeWithin, read, others]

/-- Text that is written between quotes is read back as it was, up to and with the closing quote. -/
theorem close?_escaped (text rest : List Char) :
    prose.close? (text.flatMap (Escape.char ['"', '\'']) ++ '"' :: rest) = some (text, rest) := by
  refine closeWithin_escaped text rest ?_
  have longer := length_le_escaped text
  rw [List.length_append, List.length_cons]
  omega

end DemandFlow.Script.Quotation
