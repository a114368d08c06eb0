import Mathlib.Data.List.Basic
import PaperSearch.Text.Blank

/-!
# Collapsed white space

A text is tidy when no blank stands at either end of it, every blank in it is a space, and no two
spaces stand side by side. Collapsing makes a text tidy, and tidy texts are those that it leaves
alone (`collapse_eq_self_iff`).

The words of a text are not empty and hold no blanks (`mem_words`). Such words with one space
between neighbours make a tidy text, and a tidy text is made so from its words.
-/

namespace PaperSearch.Text

/-- No blank but single spaces inside. -/
structure Tidy (s : List Char) : Prop where
  first : ∀ c ∈ s.head?, isBlank c = false
  last : ∀ c ∈ s.getLast?, isBlank c = false
  space : ∀ c ∈ s, isBlank c = true → c = ' '
  single : ¬ [' ', ' '] <:+: s

/-- A run of characters that are not blank. -/
structure IsWord (w : List Char) : Prop where
  ne_nil : w ≠ []
  not_blank : ∀ c ∈ w, isBlank c = false

theorem tidy_nil : Tidy [] := by
  constructor <;> simp

theorem IsWord.head {w : List Char} (h : IsWord w) : ∀ c ∈ w.head?, isBlank c = false :=
  fun c hc => h.not_blank c (List.mem_of_mem_head? hc)

theorem IsWord.getLast {w : List Char} (h : IsWord w) : ∀ c ∈ w.getLast?, isBlank c = false :=
  fun c hc => h.not_blank c (List.mem_of_getLast? hc)

/-! ## Words of a text -/

theorem isWord_of_mem_wordsFrom {s word : List Char} (hword : ∀ c ∈ word, isBlank c = false)
    {w : List Char} (h : w ∈ wordsFrom word s) : IsWord w := by
  have hopen : word ≠ [] → IsWord word.reverse := fun hne =>
    ⟨mt List.reverse_eq_nil_iff.mp hne, fun c hc => hword c (List.mem_reverse.mp hc)⟩
  induction s generalizing word with
  | nil =>
    rw [wordsFrom] at h
    split at h
    · cases h
    · rename_i hne
      rw [List.mem_singleton.mp h]
      exact hopen (mt List.isEmpty_iff.mpr hne)
  | cons c s ih =>
    have hnone : ∀ c ∈ ([] : List Char), isBlank c = false := List.forall_mem_nil _
    rw [wordsFrom] at h
    split at h
    · split at h
      · exact ih hnone h (fun hne => absurd rfl hne)
      · rename_i hne
        rcases List.mem_cons.mp h with rfl | h
        · exact hopen (mt List.isEmpty_iff.mpr hne)
        · exact ih hnone h (fun hne => absurd rfl hne)
    · rename_i hc
      have hword' : ∀ d ∈ c :: word, isBlank d = false :=
        List.forall_mem_cons.mpr ⟨Bool.eq_false_iff.mpr hc, hword⟩
      exact ih hword' h fun hne =>
        ⟨mt List.reverse_eq_nil_iff.mp hne, fun d hd => hword' d (List.mem_reverse.mp hd)⟩

theorem mem_words {s w : List Char} (h : w ∈ words s) : IsWord w :=
  isWord_of_mem_wordsFrom (List.forall_mem_nil _) h

/-! ## Words with spaces between them -/

theorem join_cons {separator piece : List Char} {pieces : List (List Char)} (h : pieces ≠ []) :
    join separator (piece :: pieces) = piece ++ separator ++ join separator pieces := by
  cases pieces with
  | nil => exact absurd rfl h
  | cons next pieces => rfl

/-- A word before a tidy text that is not empty, with a space between them. -/
theorem Tidy.word_append {w s : List Char} (hw : IsWord w) (hne : s ≠ []) (hs : Tidy s) :
    Tidy (w ++ ' ' :: s) where
  first := by
    rw [List.head?_append_of_ne_nil _ hw.ne_nil]
    exact hw.head
  last := by
    rw [List.getLast?_append_of_ne_nil _ (List.cons_ne_nil _ _), List.getLast?_cons_of_ne_nil hne]
    exact hs.last
  space := by
    intro c hc hblank
    rcases List.mem_append.mp hc with hc | hc
    · rw [hw.not_blank c hc] at hblank
      cases hblank
    · rcases List.mem_cons.mp hc with rfl | hc
      · rfl
      · exact hs.space c hc hblank
  single := by
    have hblank : isBlank ' ' = true := by decide
    obtain ⟨-, hword⟩ := hw
    induction w with
    | nil =>
      intro h
      rcases List.infix_cons_iff.mp h with hprefix | h
      · obtain ⟨t, rfl⟩ := (List.cons_prefix_cons.mp hprefix).2
        exact absurd (hs.first ' ' rfl) (by decide)
      · exact hs.single h
    | cons c w ih =>
      intro h
      rcases List.infix_cons_iff.mp h with hprefix | h
      · have hc := hword c List.mem_cons_self
        rw [← (List.cons_prefix_cons.mp hprefix).1, hblank] at hc
        cases hc
      · exact ih (fun d hd => hword d (List.mem_cons_of_mem c hd)) h

theorem tidy_of_isWord {w : List Char} (h : IsWord w) : Tidy w := by
  have hblank : ∀ c ∈ w, isBlank c ≠ true := fun c hc => by simp [h.not_blank c hc]
  refine ⟨h.head, h.getLast, fun c hc hb => absurd hb (hblank c hc), fun hpart => ?_⟩
  exact absurd (by decide : isBlank ' ' = true) (hblank ' ' (hpart.subset List.mem_cons_self))

theorem tidy_join : ∀ {pieces : List (List Char)}, (∀ w ∈ pieces, IsWord w) →
    Tidy (join [' '] pieces)
  | [], _ => tidy_nil
  | [w], h => tidy_of_isWord (h w List.mem_cons_self)
  | w :: next :: pieces, h => by
    have hrest := tidy_join fun v hv => h v (List.mem_cons_of_mem w hv)
    have hne : join [' '] (next :: pieces) ≠ [] := by
      have hnext := (h next (by simp)).ne_nil
      cases pieces with
      | nil => exact hnext
      | cons => simp [join, hnext]
    rw [join_cons (List.cons_ne_nil _ _), List.append_assoc]
    exact hrest.word_append (h w List.mem_cons_self) hne

/-- Collapsing makes a text tidy. -/
theorem tidy_collapse (s : List Char) : Tidy (collapse s) :=
  tidy_join fun _ => mem_words

/-! ## Tidy texts -/

/-- A text whose words have single spaces between them is made from its words. -/
theorem join_wordsFrom {word s : List Char} (hfirst : word = [] → ∀ c ∈ s.head?, isBlank c = false)
    (hlast : ∀ c ∈ s.getLast?, isBlank c = false) (hspace : ∀ c ∈ s, isBlank c = true → c = ' ')
    (hsingle : ¬ [' ', ' '] <:+: s) : join [' '] (wordsFrom word s) = word.reverse ++ s := by
  induction s generalizing word with
  | nil =>
    rw [wordsFrom, List.append_nil]
    split
    · rename_i hempty
      rw [List.isEmpty_iff.mp hempty]
      rfl
    · rfl
  | cons c s ih =>
    have hlast' : ∀ d ∈ s.getLast?, isBlank d = false := by
      intro d hd
      have hne : s ≠ [] := by
        rintro rfl
        cases hd
      exact hlast d ((List.getLast?_cons_of_ne_nil hne).trans hd)
    have hspace' : ∀ d ∈ s, isBlank d = true → d = ' ' := fun d hd =>
      hspace d (List.mem_cons_of_mem c hd)
    have hsingle' : ¬ [' ', ' '] <:+: s := fun h => hsingle (List.infix_cons_iff.mpr (.inr h))
    rw [wordsFrom]
    split
    · rename_i hc
      obtain rfl := hspace c List.mem_cons_self hc
      split
      · rename_i hempty
        exact absurd (hfirst (List.isEmpty_iff.mp hempty) ' ' rfl) (by decide)
      · -- a space inside: behind it stands another word
        have hne : s ≠ [] := by
          rintro rfl
          exact absurd (hlast ' ' rfl) (by decide)
        have hfirst' : ∀ d ∈ s.head?, isBlank d = false := by
          intro d hd
          rw [← Bool.not_eq_true]
          intro hblank
          obtain ⟨t, rfl⟩ := List.head?_eq_some_iff.mp hd
          rw [hspace' d List.mem_cons_self hblank] at hsingle
          exact hsingle ⟨[], t, rfl⟩
        have hrest : join [' '] (wordsFrom [] s) = s :=
          ih (fun _ => hfirst') hlast' hspace' hsingle'
        have hwords : wordsFrom [] s ≠ [] := by
          intro hnil
          rw [hnil] at hrest
          exact hne hrest.symm
        rw [join_cons hwords, hrest, List.append_assoc]
        rfl
    · rw [ih (fun h => absurd h (List.cons_ne_nil _ _)) hlast' hspace' hsingle',
        List.reverse_cons, List.append_assoc]
      rfl

theorem collapse_of_tidy {s : List Char} (h : Tidy s) : collapse s = s :=
  join_wordsFrom (fun _ => h.first) h.last h.space h.single

/-- **Tidy texts** are those that collapsing leaves alone. -/
theorem collapse_eq_self_iff {s : List Char} : collapse s = s ↔ Tidy s :=
  ⟨fun h => h ▸ tidy_collapse s, collapse_of_tidy⟩

end PaperSearch.Text
