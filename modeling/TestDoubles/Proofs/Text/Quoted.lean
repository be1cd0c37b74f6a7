import Mathlib.Tactic.SplitIfs
import TestDoubles.Text.Quoted

/-!
# Quoted texts

A quoted text can be put anywhere: all of it is printable, whatever the text is, so it stays on its line;
and it says itself where it ends, so that text and surroundings can be told apart again.

- `Text.Escapes` lists the three ways in which a character stands in a quoted text, and
  `Text.escapes_escape` says that there are no others.
- `Text.isPrintable_quoted`: nothing in a quoted text is unprintable.
- `Text.quoted_append_inj`: whatever follows it, a quoted text determines the text.
-/

namespace TestDoubles.Text

/-! ## Printable characters -/

/-- ASCII is printable from the space to the tilde: this part lies between two of the ranges. -/
theorem isPrintable_of_ascii {c : Char} (hfirst : 0x20 ≤ c.toNat) (hlast : c.toNat ≤ 0x7e) :
    isPrintable c := by
  have hranges : ∀ range ∈ unprintable.toList, range.2 < 0x20 ∨ 0x7e < range.1 := by decide +kernel
  unfold isPrintable
  rw [← Array.any_toList, Bool.not_eq_true', List.any_eq_false]
  intro range hrange hmem
  simp only [Bool.and_eq_true, decide_eq_true_eq] at hmem
  have hapart := hranges range hrange
  omega

/-! ## Hexadecimal numbers -/

/-- The digits of a number are digits; by induction on how many there are. -/
theorem mem_toDigits {c : Char} {n : Nat} (h : c ∈ Nat.toDigits 16 n) :
    ∃ digit < 16, c = Nat.digitChar digit := by
  induction n using Nat.strongRecOn with
  | ind n ih =>
    rcases Nat.lt_or_ge n 16 with hsmall | hlarge
    · rw [Nat.toDigits_of_lt_base hsmall, List.mem_singleton] at h
      exact ⟨n, hsmall, h⟩
    · rw [Nat.toDigits_of_base_le (by decide) hlarge, List.mem_append, List.mem_singleton] at h
      rcases h with hfront | hlast
      · exact ih (n / 16) (Nat.div_lt_self (by omega) (by decide)) hfront
      · exact ⟨n % 16, Nat.mod_lt n (by decide), hlast⟩

theorem digitChar_inj {n m : Nat} (hn : n < 16) (hm : m < 16)
    (h : Nat.digitChar n = Nat.digitChar m) : n = m := by
  have hdigits : ∀ n < 16, ∀ m < 16, Nat.digitChar n = Nat.digitChar m → n = m := by decide
  exact hdigits n hn m hm h

/-- A single digit is not the end of several. -/
theorem singleton_ne_toDigits {c : Char} {n : Nat} (h : 16 ≤ n) : [c] ≠ Nat.toDigits 16 n := by
  rw [Nat.toDigits_of_base_le (by decide) h]
  intro hsame
  have hlength := congrArg List.length hsame
  have hpos := List.length_pos_iff.mpr (Nat.toDigits_ne_nil (n := n / 16) (b := 16))
  simp only [List.length_append, List.length_singleton] at hlength
  omega

/-- **A number is determined by its digits**; by induction on how many there are. -/
theorem toDigits_inj {n m : Nat} (h : Nat.toDigits 16 n = Nat.toDigits 16 m) : n = m := by
  induction n using Nat.strongRecOn generalizing m with
  | ind n ih =>
    rcases Nat.lt_or_ge n 16 with hn | hn <;> rcases Nat.lt_or_ge m 16 with hm | hm
    · rw [Nat.toDigits_of_lt_base hn, Nat.toDigits_of_lt_base hm] at h
      exact digitChar_inj hn hm (List.singleton_inj.mp h)
    · rw [Nat.toDigits_of_lt_base hn] at h
      exact absurd h (singleton_ne_toDigits hm)
    · rw [Nat.toDigits_of_lt_base hm] at h
      exact absurd h.symm (singleton_ne_toDigits hn)
    · rw [Nat.toDigits_of_base_le (by decide) hn, Nat.toDigits_of_base_le (by decide) hm] at h
      obtain ⟨hfront, hlast⟩ := List.append_inj' h rfl
      have hdiv : n / 16 = m / 16 := ih (n / 16) (Nat.div_lt_self (by omega) (by decide)) hfront
      have hmod : n % 16 = m % 16 := digitChar_inj (Nat.mod_lt n (by decide))
        (Nat.mod_lt m (by decide)) (List.singleton_inj.mp hlast)
      omega

/-! ## Where a part ends -/

/-- Two words that are each followed by something that cannot belong to them are the same where both
together are. -/
theorem append_cons_inj {p : Char → Bool} {word word' : List Char} {c c' : Char}
    {rest rest' : List Char} (hword : ∀ a ∈ word, p a) (hword' : ∀ a ∈ word', p a)
    (hc : p c = false) (hc' : p c' = false) (h : word ++ c :: rest = word' ++ c' :: rest') :
    word = word' ∧ c :: rest = c' :: rest' := by
  have hsame := congrArg (List.takeWhile p) h
  rw [List.takeWhile_append_of_pos hword, List.takeWhile_append_of_pos hword',
    List.takeWhile_cons_of_neg (by simp [hc]), List.takeWhile_cons_of_neg (by simp [hc']),
    List.append_nil, List.append_nil] at hsame
  subst hsame
  exact ⟨rfl, List.append_cancel_left h⟩

/-! ## Escapes -/

/-- The characters that stand as a backslash and a character, with that one. -/
def shortEscapes : List (Char × Char) :=
  [('\x00', '0'), ('\t', 't'), ('\n', 'n'), ('\r', 'r'), ('\"', '\"'), ('\\', '\\')]

/-- How a character stands in a quoted text. -/
inductive Escapes (c : Char) : List Char → Prop where
  -- As it is.
  | plain (hprintable : isPrintable c) (hquote : c ≠ '\"') (hbackslash : c ≠ '\\') : Escapes c [c]
  | short {letter : Char} (h : (c, letter) ∈ shortEscapes) : Escapes c ['\\', letter]
  -- By its code point.
  | code : Escapes c ('\\' :: 'u' :: '\x7b' :: (Nat.toDigits 16 c.toNat ++ ['\x7d']))

theorem escapes_escape (c : Char) : Escapes c (escape c).toList := by
  unfold escape
  split_ifs with hnull htab hline hreturn hquote hbackslash hprintable
  · subst hnull
    exact .short (show ('\x00', '0') ∈ shortEscapes by decide)
  · subst htab
    exact .short (show ('\t', 't') ∈ shortEscapes by decide)
  · subst hline
    exact .short (show ('\n', 'n') ∈ shortEscapes by decide)
  · subst hreturn
    exact .short (show ('\r', 'r') ∈ shortEscapes by decide)
  · subst hquote
    exact .short (show ('\"', '\"') ∈ shortEscapes by decide)
  · subst hbackslash
    exact .short (show ('\\', '\\') ∈ shortEscapes by decide)
  · rw [Char.toString_eq_singleton, String.toList_singleton]
    exact .plain hprintable hquote hbackslash
  · have htext : ("\\u\x7b" ++ hexadecimal c.toNat ++ "\x7d").toList =
        '\\' :: 'u' :: '\x7b' :: (Nat.toDigits 16 c.toNat ++ ['\x7d']) := by
      simp [hexadecimal]
    rw [htext]
    exact .code

namespace Escapes

variable {c c' : Char} {text text' rest rest' : List Char}

/-- What comes after a backslash is printable, too. -/
theorem printable (h : Escapes c text) : ∀ a ∈ text, isPrintable a := by
  have hbackslash : isPrintable '\\' := isPrintable_of_ascii (by decide) (by decide)
  cases h with
  | plain hprintable _ _ => exact List.forall_mem_singleton.mpr hprintable
  | short h =>
    have hletters : ∀ pair ∈ shortEscapes, 0x20 ≤ pair.2.toNat ∧ pair.2.toNat ≤ 0x7e := by decide
    obtain ⟨hfirst, hlast⟩ := hletters _ h
    simp [hbackslash, isPrintable_of_ascii hfirst hlast]
  | code =>
    have hdigits : ∀ a ∈ Nat.toDigits 16 c.toNat, isPrintable a := by
      have hdigit : ∀ digit < 16,
          0x20 ≤ (Nat.digitChar digit).toNat ∧ (Nat.digitChar digit).toNat ≤ 0x7e := by decide
      intro a ha
      obtain ⟨digit, hlt, rfl⟩ := mem_toDigits ha
      exact isPrintable_of_ascii (hdigit digit hlt).1 (hdigit digit hlt).2
    have hletter : isPrintable 'u' := isPrintable_of_ascii (by decide) (by decide)
    have hopen : isPrintable '\x7b' := isPrintable_of_ascii (by decide) (by decide)
    have hclose : isPrintable '\x7d' := isPrintable_of_ascii (by decide) (by decide)
    simpa [hbackslash, hletter, hopen, or_imp, forall_and, hclose] using hdigits

/-- No character stands as a quotation mark, not even this one itself. -/
theorem append_ne_quote (h : Escapes c text) : text ++ rest ≠ '\"' :: rest' := by
  cases h with
  | plain _ hquote _ => simp [hquote]
  | short _ => simp
  | code => simp

/-- **A character in a quoted text is determined by how it stands there**, whatever follows. -/
theorem append_inj (h : Escapes c text) (h' : Escapes c' text')
    (hsame : text ++ rest = text' ++ rest') : c = c' ∧ rest = rest' := by
  have hletters : ∀ pair ∈ shortEscapes, ∀ pair' ∈ shortEscapes, pair.2 = pair'.2 →
      pair.1 = pair'.1 := by decide
  have hcode : ∀ pair ∈ shortEscapes, pair.2 ≠ 'u' := by decide
  cases h with
  | plain _ _ hbackslash =>
    cases h' with
    | plain _ _ _ => exact List.cons.inj hsame
    | short _ => exact absurd (List.cons.inj hsame).1 hbackslash
    | code => exact absurd (List.cons.inj hsame).1 hbackslash
  | short hpair =>
    cases h' with
    | plain _ _ hbackslash => exact absurd (List.cons.inj hsame).1.symm hbackslash
    | short hpair' =>
      obtain ⟨hletter, hrest⟩ := List.cons.inj (List.cons.inj hsame).2
      exact ⟨hletters _ hpair _ hpair' hletter, hrest⟩
    | code => exact absurd (List.cons.inj (List.cons.inj hsame).2).1 (hcode _ hpair)
  | code =>
    cases h' with
    | plain _ _ hbackslash => exact absurd (List.cons.inj hsame).1.symm hbackslash
    | short hpair' => exact absurd (List.cons.inj (List.cons.inj hsame).2).1.symm (hcode _ hpair')
    | code =>
      -- The digits end where there is a brace.
      have hdigit (n : Nat) : ∀ a ∈ Nat.toDigits 16 n, (a != '\x7d') = true := by
        intro a ha
        obtain ⟨digit, hlt, rfl⟩ := mem_toDigits ha
        have hdigits : ∀ digit < 16, (Nat.digitChar digit != '\x7d') = true := by decide
        exact hdigits digit hlt
      simp only [List.cons_append, List.append_assoc, List.nil_append, List.cons.injEq,
        true_and] at hsame
      obtain ⟨hcodes, hrest⟩ := append_cons_inj (hdigit _) (hdigit _) rfl rfl hsame
      exact ⟨Char.toNat_inj.mp (toDigits_inj hcodes), (List.cons.inj hrest).2⟩

end Escapes

/-! ## Quoted texts -/

/-- What stands between the quotation marks. -/
theorem toList_quoted (text : String) :
    (quoted text).toList = '\"' :: (text.toList.flatMap (fun c => (escape c).toList) ++ ['\"']) := by
  simp [quoted, String.toList_join, List.flatMap_map]

/-- **All of a quoted text is printable.** -/
theorem isPrintable_quoted (text : String) : ∀ c ∈ (quoted text).toList, isPrintable c := by
  have hquote : isPrintable '\"' := isPrintable_of_ascii (by decide) (by decide)
  rw [toList_quoted]
  intro c hc
  simp only [List.mem_cons, List.mem_append, List.mem_flatMap, List.not_mem_nil, or_false] at hc
  rcases hc with rfl | ⟨a, -, ha⟩ | rfl
  · exact hquote
  · exact (escapes_escape a).printable c ha
  · exact hquote

/-- Escaped texts end at the quotation mark; by induction on the characters. -/
theorem escaped_append_inj {chars chars' rest rest' : List Char}
    (h : chars.flatMap (fun c => (escape c).toList) ++ '\"' :: rest =
      chars'.flatMap (fun c => (escape c).toList) ++ '\"' :: rest') :
    chars = chars' ∧ rest = rest' := by
  induction chars generalizing chars' with
  | nil =>
    cases chars' with
    | nil => exact ⟨rfl, (List.cons.inj h).2⟩
    | cons c' chars' =>
      rw [List.flatMap_cons, List.append_assoc] at h
      exact absurd h.symm (escapes_escape c').append_ne_quote
  | cons c chars ih =>
    rw [List.flatMap_cons, List.append_assoc] at h
    cases chars' with
    | nil => exact absurd h (escapes_escape c).append_ne_quote
    | cons c' chars' =>
      rw [List.flatMap_cons, List.append_assoc] at h
      obtain ⟨rfl, hlater⟩ := (escapes_escape c).append_inj (escapes_escape c') h
      obtain ⟨rfl, hrest⟩ := ih hlater
      exact ⟨rfl, hrest⟩

/-- **A quoted text determines the text**, and where it ends. -/
theorem quoted_append_inj {text text' : String} {rest rest' : List Char}
    (h : (quoted text).toList ++ rest = (quoted text').toList ++ rest') :
    text = text' ∧ rest = rest' := by
  rw [toList_quoted, toList_quoted] at h
  simp only [List.cons_append, List.append_assoc, List.nil_append, List.cons.injEq, true_and] at h
  obtain ⟨htext, hrest⟩ := escaped_append_inj h
  exact ⟨String.toList_inj.mp htext, hrest⟩

end TestDoubles.Text
