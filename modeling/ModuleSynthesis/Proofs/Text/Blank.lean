import Mathlib.Data.List.Basic
import Mathlib.Data.List.Induction
import ModuleSynthesis.Text.Blank

/-!
# Trimming

* `trim_isInfix`: what is left of a text after trimming stands in it as it is.
* `trim_eq_self_iff`: trimming leaves a text alone exactly if no blank stands at either end.
* `trimStart_append`, `trimEnd_append`, `trimEnd_append_cons`: blanks around a text go, and trimming
  stops at the first character that is none.
-/

namespace ModuleSynthesis.Text

theorem trimEnd_isPrefix (text : List Char) : trimEnd text <+: text := by
  fun_induction trimEnd text with
  | case1 => exact List.prefix_rfl
  | case2 c rest h _ => exact List.nil_prefix
  | case3 c rest h _ => exact List.prefix_append [c] rest
  | case4 c rest _ ih => exact List.cons_prefix_cons.mpr ⟨rfl, ih⟩

theorem trimStart_suffix (text : List Char) : trimStart text <:+ text :=
  List.dropWhile_suffix isBlank

theorem trim_isInfix (text : List Char) : trim text <:+: text :=
  (trimEnd_isPrefix _).isInfix.trans (trimStart_suffix text).isInfix

theorem trimStart_eq_self_iff (text : List Char) :
    trimStart text = text ↔ ∀ c ∈ text.head?, isBlank c = false := by
  cases text with
  | nil => simp [trimStart]
  | cons c rest =>
    rw [trimStart, List.dropWhile_cons]
    cases hc : isBlank c with
    | false => simp [hc]
    | true =>
      have hlen := (List.dropWhile_suffix isBlank (l := rest)).length_le
      refine ⟨fun e => ?_, fun h => by simpa [hc] using h c rfl⟩
      have := congrArg List.length e
      simp only [if_true, List.length_cons] at this
      omega

theorem trimEnd_concat (text : List Char) (c : Char) :
    trimEnd (text ++ [c]) = if isBlank c then trimEnd text else text ++ [c] := by
  induction text with
  | nil => rfl
  | cons d rest ih =>
    rw [List.cons_append, trimEnd, ih, trimEnd]
    cases isBlank c with
    | true => rfl
    | false => cases rest <;> rfl

theorem trimEnd_eq_self_iff (text : List Char) :
    trimEnd text = text ↔ ∀ c ∈ text.getLast?, isBlank c = false := by
  rcases List.eq_nil_or_concat' text with rfl | ⟨init, c, rfl⟩
  · simp [trimEnd]
  · rw [trimEnd_concat]
    cases hc : isBlank c with
    | false => simp [hc]
    | true =>
      have hlen := (trimEnd_isPrefix init).length_le
      refine ⟨fun e => ?_, fun h => by simpa [hc] using h c (by simp)⟩
      have := congrArg List.length e
      simp only [if_true, List.length_append, List.length_singleton] at this
      omega

theorem trim_eq_self_iff (text : List Char) :
    trim text = text ↔
      (∀ c ∈ text.head?, isBlank c = false) ∧ ∀ c ∈ text.getLast?, isBlank c = false := by
  rw [← trimStart_eq_self_iff, ← trimEnd_eq_self_iff, trim]
  refine ⟨fun e => ?_, fun ⟨hs, he⟩ => by rw [hs, he]⟩
  have hlen := (trimEnd_isPrefix (trimStart text)).length_le
  have hs : trimStart text = text :=
    (trimStart_suffix text).eq_of_length_le (by rw [e] at hlen; exact hlen)
  exact ⟨hs, by rw [hs] at e; exact e⟩

/-! ## Blanks around a text -/

theorem trimStart_append {blanks : List Char} (h : ∀ c ∈ blanks, isBlank c) (text : List Char) :
    trimStart (blanks ++ text) = trimStart text := by
  rw [trimStart, List.dropWhile_append_of_pos h, trimStart]

theorem trimEnd_append (text : List Char) {blanks : List Char} (h : ∀ c ∈ blanks, isBlank c) :
    trimEnd (text ++ blanks) = trimEnd text := by
  induction blanks using List.reverseRecOn with
  | nil => rw [List.append_nil]
  | append_singleton blanks c ih =>
    have hc : isBlank c := h c (by simp)
    rw [← List.append_assoc, trimEnd_concat, if_pos hc, ih fun d hd => h d (by simp [hd])]

/-- Trimming does not get past a character that is no blank. -/
theorem trimEnd_append_cons (text : List Char) {c : Char} (h : isBlank c = false)
    (rest : List Char) : trimEnd (text ++ c :: rest) = text ++ c :: trimEnd rest := by
  induction text with
  | nil =>
    rw [List.nil_append, List.nil_append, trimEnd]
    cases trimEnd rest <;> simp [h]
  | cons d text ih =>
    rw [List.cons_append, trimEnd, ih]
    cases text <;> rfl

theorem trimStart_append_cons (text : List Char) {c : Char} (h : isBlank c = false)
    (rest : List Char) : trimStart (text ++ c :: rest) = trimStart text ++ c :: rest := by
  induction text with
  | nil => simp [trimStart, h]
  | cons d text ih =>
    rw [trimStart] at ih
    rw [trimStart, trimStart, List.cons_append, List.dropWhile_cons, List.dropWhile_cons, ih]
    cases isBlank d <;> rfl

theorem trim_append_cons (text : List Char) {c : Char} (h : isBlank c = false)
    (rest : List Char) : trim (text ++ c :: rest) = trimStart text ++ c :: trimEnd rest := by
  rw [trim, trimStart_append_cons text h, trimEnd_append_cons _ h]

/-! ## Characters that trimming leaves -/

theorem count_trimStart {c : Char} (h : isBlank c = false) (text : List Char) :
    (trimStart text).count c = text.count c := by
  induction text with
  | nil => rfl
  | cons d text ih =>
    rw [trimStart] at ih
    rw [trimStart, List.dropWhile_cons]
    cases hd : isBlank d with
    | false => rfl
    | true =>
      have hne : d ≠ c := fun he => by rw [he, h] at hd; cases hd
      rw [if_pos rfl, ih, List.count_cons_of_ne hne]

theorem count_trimEnd {c : Char} (h : isBlank c = false) (text : List Char) :
    (trimEnd text).count c = text.count c := by
  induction text using List.reverseRecOn with
  | nil => rfl
  | append_singleton text d ih =>
    rw [trimEnd_concat]
    cases hd : isBlank d with
    | false => rfl
    | true =>
      have hne : d ≠ c := fun he => by rw [he, h] at hd; cases hd
      rw [if_pos rfl, ih, List.count_append, List.count_singleton]
      simp [hne]

end ModuleSynthesis.Text
