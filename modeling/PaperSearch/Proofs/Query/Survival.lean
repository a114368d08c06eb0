import PaperSearch.Proofs.Query.Keyword
import PaperSearch.Proofs.Query.RoundTrip

/-!
# Which values survive

A value without brackets survives behind its field exactly when nothing in it means something to the
scan or to the decoder (`KeptWhole`). What a scan asks at each blank, whether the next word starts
something new, comes down to one question about each run of characters that stands after a blank
(`LaterRun`).

* `staysOpen_iff`: a scan keeps the value together.
* `parse_term_iff`: the value is read back.
-/

namespace PaperSearch

open Token

/-- The text has this run of characters that are not blank, in full, and a blank before it. -/
structure LaterRun (run text : List Char) : Prop where
  nonempty : run ≠ []
  unbroken : ∀ c ∈ run, Text.isBlank c = false
  stands : ∃ before blank after, text = before ++ blank :: (run ++ after) ∧
    Text.isBlank blank = true ∧ ∀ c ∈ after.head?, Text.isBlank c = true

/-- A run of characters that means something new: it has a colon, or it is a keyword. -/
def Starts (run : List Char) : Prop :=
  ':' ∈ run ∨ ∃ op : Operator, op.SpelledBy run

/-- Nothing in the text makes a scan end it or a decoder change it. -/
structure KeptWhole (v : List Char) : Prop where
  parens : '(' ∉ v ∧ ')' ∉ v
  last : ∀ c ∈ v.getLast?, Text.isBlank c = false
  runs : ∀ run, LaterRun run v → ¬ Starts run
  escapes : ¬ Text.Percent.HasEscape v

namespace Token

/-- Looking ahead at a run asks whether it starts something new. -/
theorem endsValue_run_iff {run after : List Char} (hne : run ≠ [])
    (hrun : ∀ c ∈ run, Text.isBlank c = false) (hparens : ∀ c ∈ run, isParen c = false)
    (hafter : ∀ c ∈ after.head?, Text.isBlank c = true) :
    endsValue (run ++ after) = true ↔ Starts run := by
  have hword : ∀ c ∈ run, (!Text.isBlank c && !isParen c) = true := fun c hc => by
    rw [hrun c hc, hparens c hc]
    rfl
  have hend : ∀ c ∈ after.head?, (!Text.isBlank c && !isParen c) = false := fun c hc => by
    rw [hafter c hc]
    rfl
  rw [endsValue_run hne hword hend, Bool.or_eq_true, Option.isSome_iff_exists,
    List.contains_iff_mem, Starts, or_comm]
  simp only [Operator.ofKeyword?_eq_some_iff]

/-- A text without brackets stays open when no character in it is a parenthesis or a blank at which
a value ends. -/
theorem staysOpen_iff_suffix {v : List Char} (hbracket : '[' ∉ v) :
    staysOpen false v = true ↔ ∀ c rest, c :: rest <:+ v →
      isParen c = false ∧ (Text.isBlank c = true → endsValue rest = false) := by
  induction v with
  | nil => simp [staysOpen]
  | cons d v ih =>
    obtain ⟨hd, hv⟩ := not_or.mp (mt List.mem_cons.mpr hbracket)
    have hhead : (!isParen d && !(Text.isBlank d && endsValue v)) = true ↔
        isParen d = false ∧ (Text.isBlank d = true → endsValue v = false) := by
      cases isParen d <;> cases Text.isBlank d <;> cases endsValue v <;> decide
    rw [staysOpen, if_neg (Ne.symm hd), Bool.and_eq_true, hhead, ih hv]
    constructor
    · rintro ⟨hfirst, hrest⟩ c rest hsuffix
      rcases List.suffix_cons_iff.mp hsuffix with heq | hsuffix
      · obtain ⟨rfl, rfl⟩ := List.cons.inj heq
        exact hfirst
      · exact hrest c rest hsuffix
    · intro h
      refine ⟨h d v List.suffix_rfl, fun c rest hsuffix => ?_⟩
      exact h c rest (hsuffix.trans (List.suffix_cons d v))

/-- A blank that is not at the end of the text has a run somewhere behind it. -/
theorem exists_laterRun {v : List Char} (hlast : ∀ c ∈ v.getLast?, Text.isBlank c = false)
    {c : Char} {rest : List Char} (hsuffix : c :: rest <:+ v) (hblank : Text.isBlank c = true) :
    ∃ blanks run after, rest = blanks ++ (run ++ after) ∧ LaterRun run v ∧
      (∀ d ∈ blanks, Text.isBlank d = true) ∧ ∀ d ∈ after.head?, Text.isBlank d = true := by
  induction rest generalizing c with
  | nil =>
    obtain ⟨before, rfl⟩ := hsuffix
    rw [hlast c (by simp)] at hblank
    cases hblank
  | cons d rest ih =>
    cases hd : Text.isBlank d with
    | true =>
      obtain ⟨blanks, run, after, rfl, hrun, hblanks, hafter⟩ :=
        ih ((List.suffix_cons c _).trans hsuffix) hd
      exact ⟨d :: blanks, run, after, rfl, hrun, List.forall_mem_cons.mpr ⟨hd, hblanks⟩, hafter⟩
    | false =>
      let run := (d :: rest).takeWhile fun e => !Text.isBlank e
      let after := (d :: rest).dropWhile fun e => !Text.isBlank e
      have hsplit : run ++ after = d :: rest := List.takeWhile_append_dropWhile
      have hafter : ∀ e ∈ after.head?, Text.isBlank e = true := by
        intro e he
        have hstop := List.head?_dropWhile_not (fun e => !Text.isBlank e) (d :: rest)
        rw [Option.mem_def.mp he] at hstop
        simpa using hstop
      refine ⟨[], run, after, hsplit.symm, ⟨?_, ?_, ?_⟩, List.forall_mem_nil _, hafter⟩
      · simp [run, hd]
      · intro e he
        simpa using List.all_eq_true.mp List.all_takeWhile e he
      · obtain ⟨before, rfl⟩ := hsuffix
        exact ⟨before, c, after, by rw [hsplit], hblank, hafter⟩

/-- A text without brackets stays open exactly when it has no parenthesis, does not end in a blank,
and no later run in it starts something new. -/
theorem staysOpen_iff {v : List Char} (hbracket : '[' ∉ v) :
    staysOpen false v = true ↔ ('(' ∉ v ∧ ')' ∉ v) ∧
      (∀ c ∈ v.getLast?, Text.isBlank c = false) ∧ ∀ run, LaterRun run v → ¬ Starts run := by
  rw [staysOpen_iff_suffix hbracket]
  constructor
  · intro h
    have hparens : ∀ c ∈ v, isParen c = false := by
      intro c hc
      obtain ⟨before, rest, rfl⟩ := List.append_of_mem hc
      exact (h c rest (List.suffix_append before _)).1
    refine ⟨⟨fun hmem => ?_, fun hmem => ?_⟩, fun c hc => ?_, fun run hrun hstarts => ?_⟩
    · exact absurd (hparens _ hmem) (by decide)
    · exact absurd (hparens _ hmem) (by decide)
    · obtain ⟨before, rfl⟩ := List.getLast?_eq_some_iff.mp hc
      cases hblank : Text.isBlank c with
      | false => rfl
      | true =>
        have hends := (h c [] (List.suffix_append before _)).2 hblank
        cases hends
    · obtain ⟨before, blank, after, rfl, hblank, hafter⟩ := hrun.stands
      have hends := (h blank (run ++ after) (List.suffix_append before _)).2 hblank
      have hinside : ∀ c ∈ run, isParen c = false := fun c hc => hparens c (by simp [hc])
      rw [(endsValue_run_iff hrun.nonempty hrun.unbroken hinside hafter).mpr hstarts] at hends
      cases hends
  · rintro ⟨⟨hopening, hclosing⟩, hlast, hruns⟩ c rest hsuffix
    have hparens : ∀ d ∈ v, isParen d = false := by
      intro d hd
      simp only [isParen, Bool.or_eq_false_iff, beq_eq_false_iff_ne]
      exact ⟨fun heq => hopening (heq ▸ hd), fun heq => hclosing (heq ▸ hd)⟩
    refine ⟨hparens c (hsuffix.subset List.mem_cons_self), fun hblank => ?_⟩
    obtain ⟨blanks, run, after, rfl, hrun, hblanks, hafter⟩ := exists_laterRun hlast hsuffix hblank
    have hinside : ∀ d ∈ run, isParen d = false := fun d hd =>
      hparens d (hsuffix.subset (by simp [hd]))
    rw [endsValue_blanks hblanks, ← Bool.not_eq_true,
      endsValue_run_iff hrun.nonempty hrun.unbroken hinside hafter]
    exact hruns run hrun

end Token

namespace Query

/-- **Which values survive.** A field, a colon and a value without brackets are read as the one term
with this field and this value exactly when the value has no parenthesis, does not end in a blank,
has no later run with a colon or equal to a keyword in any mixture of cases, and has no escape. -/
theorem parse_term_iff (field : Field) {v : String} (hbracket : '[' ∉ v.toList) :
    parse (String.ofList field.code ++ ":" ++ v) = .ok ⟨[.term field v]⟩ ↔ KeptWhole v.toList := by
  have htext : String.ofList field.code ++ ":" ++ v =
      String.ofList (field.code ++ ':' :: v.toList) := by
    rw [← String.toList_inj]
    simp
  rw [htext, parse_term_iff_spelled, Spelled, id_eq, staysOpen_iff hbracket,
    Text.Percent.decode?_eq_self_iff]
  constructor
  · rintro ⟨⟨hparens, hlast, hruns⟩, hescapes⟩
    exact ⟨hparens, hlast, hruns, hescapes⟩
  · intro h
    exact ⟨⟨h.parens, h.last, h.runs⟩, h.escapes⟩

/-- A colon in the first run, blanks of two kinds, a keyword that goes on, a closing bracket and a
`%` with one digit are kept; a keyword in mixed case is not. -/
theorem parse_term_iff_inner :
    let kept := "a:b \u2003 or-c] 5%2x"
    let lost := "graphs aNd"
    ('[' ∉ kept.toList ∧ parse (String.ofList Field.title.code ++ ":" ++ kept) =
      .ok ⟨[.term .title kept]⟩ ∧ KeptWhole kept.toList) ∧
    ('[' ∉ lost.toList ∧ parse (String.ofList Field.title.code ++ ":" ++ lost) ≠
      .ok ⟨[.term .title lost]⟩ ∧ ¬ KeptWhole lost.toList) := by
  have hkept : '[' ∉ "a:b \u2003 or-c] 5%2x".toList := by decide
  have hlost : '[' ∉ "graphs aNd".toList := by decide
  have hparse : parse (String.ofList Field.title.code ++ ":" ++ "a:b \u2003 or-c] 5%2x") =
      .ok ⟨[.term .title "a:b \u2003 or-c] 5%2x"]⟩ := rfl
  have hrefused : parse (String.ofList Field.title.code ++ ":" ++ "graphs aNd") =
      .ok ((empty.term .title "graphs").operator .and) := rfl
  have hother : parse (String.ofList Field.title.code ++ ":" ++ "graphs aNd") ≠
      .ok ⟨[.term .title "graphs aNd"]⟩ := by
    intro h
    have hsize := congrArg size (Except.ok.inj (hrefused.symm.trans h))
    exact absurd hsize (by decide)
  exact ⟨⟨hkept, hparse, (parse_term_iff .title hkept).mp hparse⟩,
    ⟨hlost, hother, fun h => hother ((parse_term_iff .title hlost).mpr h)⟩⟩

end Query
end PaperSearch
