import TreePattern.Proofs.Markup.Spelling
import TreePattern.Text.Quoted

/-!
# Quoted texts are read back in one way

Between the quotes a character stands for itself, or it is written behind a backslash by a letter or
by its code point. `Quotes` are these three ways. They begin differently, each shows where it ends,
and none begins with a quote; so a quoted text tells which text it is of, and where it ends within a
longer one.

* `Quotes.append_inj`: how a character is written tells the character and what is behind it.
* `quote_append_inj`: how a text is quoted tells the text and what is behind it.
-/

namespace TreePattern

/-! ### Digits -/

/-- The digits of base sixteen are different. -/
theorem digitChar_inj : ∀ m < 16, ∀ n < 16, Nat.digitChar m = Nat.digitChar n → m = n := by
  decide

/-- A number is told by its digits. -/
theorem eq_of_toDigits_eq {m n : Nat} (h : Nat.toDigits 16 m = Nat.toDigits 16 n) : m = n := by
  induction m using Nat.strongRecOn generalizing n with
  | ind m ih =>
    rw [Nat.toDigits_eq_if (by decide), Nat.toDigits_eq_if (n := n) (by decide)] at h
    split at h <;> rename_i hm <;> split at h <;> rename_i hn
    · exact digitChar_inj m hm n hn (List.singleton_inj.1 h)
    · have := List.append_eq_singleton_iff.1 h.symm
      simp [Nat.toDigits_ne_nil] at this
    · have := List.append_eq_singleton_iff.1 h
      simp [Nat.toDigits_ne_nil] at this
    · obtain ⟨front, last⟩ := List.append_inj' h rfl
      have high := ih (m / 16) (by omega) front
      have low := digitChar_inj (m % 16) (by omega) (n % 16) (by omega) (List.singleton_inj.1 last)
      omega

/-- A brace is no digit. -/
theorem ne_brace_of_mem_toDigits {n : Nat} {c : Char} (h : c ∈ Nat.toDigits 16 n) : c ≠ '\x7d' := by
  induction n using Nat.strongRecOn with
  | ind n ih =>
    rw [Nat.toDigits_eq_if (by decide)] at h
    split at h
    · rw [List.mem_singleton.1 h]
      exact Nat.digitChar_ne _ rfl
    · rcases List.mem_append.1 h with h | h
      · exact ih (n / 16) (by omega) h
      · rw [List.mem_singleton.1 h]
        exact Nat.digitChar_ne _ rfl

/-! ### Characters -/

/-- The character that a letter behind a backslash stands for. -/
def escaped : Char → Char
  | 't' => '\t'
  | 'n' => '\n'
  | 'r' => '\r'
  | '0' => '\x00'
  | c => c

/-- The ways to write a character between quotes. -/
inductive Quotes : Char → List Char → Prop where
  /-- As it is, but for the quote and the backslash. -/
  | plain {c : Char} (hq : c ≠ '"') (hb : c ≠ '\\') : Quotes c [c]
  /-- By a letter behind a backslash. -/
  | letter {l : Char} (hu : l ≠ 'u') : Quotes (escaped l) ['\\', l]
  /-- By its code point. -/
  | codePoint {c : Char} :
      Quotes c ('\\' :: 'u' :: '\x7b' :: Nat.toDigits 16 c.toNat ++ ['\x7d'])

/-- Characters are written in one of these ways. -/
theorem quotes_quoteChar (c : Char) : Quotes c (quoteChar c) := by
  unfold quoteChar
  split
  · rename_i h
    subst h
    exact .letter (l := '"') (by decide)
  split
  · rename_i h
    subst h
    exact .letter (l := '\\') (by decide)
  split
  · rename_i h
    subst h
    exact .letter (l := 't') (by decide)
  split
  · rename_i h
    subst h
    exact .letter (l := 'n') (by decide)
  split
  · rename_i h
    subst h
    exact .letter (l := 'r') (by decide)
  split
  · rename_i h
    subst h
    exact .letter (l := '0') (by decide)
  split
  · exact .plain ‹_› ‹_›
  · exact .codePoint

/-- No character is written beginning with a quote. -/
theorem Quotes.append_ne {c : Char} {v r s : List Char} (h : Quotes c v) : v ++ r ≠ '"' :: s := by
  cases h with
  | plain hq _ => exact fun he => hq (List.cons.inj he).1
  | letter | codePoint => exact fun he => absurd (List.cons.inj he).1 (by decide)

/-- How a character is written tells the character and what is behind it. -/
theorem Quotes.append_inj {c d : Char} {v w r s : List Char} (hv : Quotes c v) (hw : Quotes d w)
    (h : v ++ r = w ++ s) : c = d ∧ r = s := by
  cases hv with
  | plain _ hb =>
    cases hw with
    | plain => exact List.cons.inj h
    | letter | codePoint => exact absurd (List.cons.inj h).1 hb
  | letter hu =>
    cases hw with
    | plain _ hb => exact absurd (List.cons.inj h).1.symm hb
    | letter =>
      obtain ⟨rfl, behind⟩ := List.cons.inj (List.cons.inj h).2
      exact ⟨rfl, behind⟩
    | codePoint => exact absurd (List.cons.inj (List.cons.inj h).2).1 hu
  | codePoint =>
    cases hw with
    | plain _ hb => exact absurd (List.cons.inj h).1.symm hb
    | letter hu => exact absurd (List.cons.inj (List.cons.inj h).2).1.symm hu
    | codePoint =>
      simp only [List.cons_append, List.append_assoc, List.cons.injEq, true_and,
        List.nil_append] at h
      have ends : ∀ n, '\x7d' ∉ Nat.toDigits 16 n := fun n hn => ne_brace_of_mem_toDigits hn rfl
      obtain ⟨digits, behind⟩ := Token.append_cons_inj_of_not_mem (ends _) (ends _) h
      exact ⟨Char.toNat_inj.1 (eq_of_toDigits_eq digits), behind⟩

/-! ### Texts -/

/-- What is written up to the closing quote tells the characters and what is behind it. -/
theorem flatMap_quoteChar_append_inj {v w r s : List Char}
    (h : v.flatMap quoteChar ++ '"' :: r = w.flatMap quoteChar ++ '"' :: s) : v = w ∧ r = s := by
  induction v generalizing w with
  | nil =>
    cases w with
    | nil => exact ⟨rfl, (List.cons.inj h).2⟩
    | cons d w =>
      rw [List.flatMap_cons, List.append_assoc] at h
      exact absurd h.symm (quotes_quoteChar d).append_ne
  | cons c v ih =>
    cases w with
    | nil =>
      rw [List.flatMap_cons, List.append_assoc] at h
      exact absurd h (quotes_quoteChar c).append_ne
    | cons d w =>
      rw [List.flatMap_cons, List.flatMap_cons, List.append_assoc, List.append_assoc] at h
      obtain ⟨rfl, behind⟩ := (quotes_quoteChar c).append_inj (quotes_quoteChar d) h
      obtain ⟨rfl, rest⟩ := ih behind
      exact ⟨rfl, rest⟩

/-- How a text is quoted tells the text and what is behind it. -/
theorem quote_append_inj {a b : String} {r s : List Char}
    (h : (quote a).toList ++ r = (quote b).toList ++ s) : a = b ∧ r = s := by
  have body : a.toList.flatMap quoteChar ++ '"' :: r = b.toList.flatMap quoteChar ++ '"' :: s := by
    simpa [quote] using h
  obtain ⟨same, behind⟩ := flatMap_quoteChar_append_inj body
  exact ⟨String.toList_inj.1 same, behind⟩

end TreePattern
