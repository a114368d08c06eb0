import Mathlib.Data.List.TakeWhile
import PaperSearch.Proofs.Xml.Escape

/-!
# Places in a document

No piece of markup is looked at beyond its end (`exists_of_markup`). So every text is a part that is
read as the same events whatever follows it, then text, then the markup that cannot be read, if
there is any (`Extent`).

A text ends at a place of a document if it can be read to its end. Then `openAfter?` gives the
elements that are open there, and with them alone markup is read on behind the place
(`read_append`).
-/

namespace PaperSearch.Xml

/-! ## Markup -/

theorem closed_eq_ok_iff {cut : Option (List Char × List Char)} {missing : Fault}
    {event : List Char → Except Fault Event} {e : Event} {rest : List Char} :
    closed cut missing event = .ok (e, rest) ↔
      ∃ content, cut = some (content, rest) ∧ event content = .ok e := by
  constructor
  · intro h
    obtain ⟨content, rfl⟩ := closed_rest h
    refine ⟨content, rfl, ?_⟩
    rw [closed] at h
    split at h <;> cases h
    assumption
  · rintro ⟨content, rfl, hevent⟩
    simp only [closed, hevent]

/-- A piece that is cut off alike whatever follows is read alike. -/
theorem exists_of_closed (cut : List Char → Option (List Char × List Char)) {missing : Fault}
    {event : List Char → Except Fault Event} {s rest : List Char} {e : Event}
    (hcut : ∀ front, cut s = some (front, rest) → Text.CutsOff cut s front rest)
    (h : closed (cut s) missing event = .ok (e, rest)) :
    ∃ piece, s = piece ++ rest ∧
      ∀ more, closed (cut (piece ++ more)) missing event = .ok (e, more) := by
  obtain ⟨content, hcontent, hevent⟩ := closed_eq_ok_iff.mp h
  obtain ⟨piece, heq, hpiece⟩ := hcut content hcontent
  exact ⟨piece, heq, fun more => closed_eq_ok_iff.mpr ⟨content, hpiece more, hevent⟩⟩

/-- Markup is read alike whatever follows it. -/
theorem exists_of_markup {s rest : List Char} {event : Event} (h : markup s = .ok (event, rest)) :
    ∃ piece, s = piece ++ rest ∧ ∀ more, markup (piece ++ more) = .ok (event, more) := by
  unfold markup at h
  split at h
  · rename_i s
    obtain ⟨piece, rfl, hpiece⟩ := exists_of_closed
      (fun t => Text.cutAtMark? "]]>".toList ('[' :: t))
      (fun _ hcut => (Text.cutsOff_of_cutAtMark? (by decide) hcut).tail rfl) h
    exact ⟨'!' :: '[' :: piece, rfl, hpiece⟩
  · rename_i second s
    obtain ⟨piece, rfl, hpiece⟩ :=
      exists_of_closed _ (fun _ => Text.cutsOff_of_cutAtMark? (by decide)) h
    exact ⟨'!' :: '-' :: second :: piece, rfl, hpiece⟩
  · cases h
  · rename_i s
    obtain ⟨piece, rfl, hpiece⟩ := exists_of_closed (fun t => Text.cutBalanced? 0 ('D' :: t))
      (fun _ hcut => (Text.cutsOff_of_cutBalanced? hcut).tail rfl) h
    exact ⟨'!' :: 'D' :: piece, rfl, hpiece⟩
  · rename_i s
    obtain ⟨piece, rfl, hpiece⟩ := exists_of_closed (fun t => Text.cutBalanced? 0 ('d' :: t))
      (fun _ hcut => (Text.cutsOff_of_cutBalanced? hcut).tail rfl) h
    exact ⟨'!' :: 'd' :: piece, rfl, hpiece⟩
  · cases h
  · rename_i s
    obtain ⟨piece, rfl, hpiece⟩ := exists_of_closed
      (fun t => Text.cutAtMark? "?>".toList ('?' :: t))
      (fun _ hcut => (Text.cutsOff_of_cutAtMark? (by decide) hcut).tail rfl) h
    exact ⟨'?' :: piece, rfl, hpiece⟩
  · rename_i hbang hquestion
    cases s with
    | nil => cases h
    | cons c s =>
      have hc : c ≠ '!' ∧ c ≠ '?' := by
        refine ⟨?_, ?_⟩
        · rintro rfl
          exact hbang _ rfl
        · rintro rfl
          exact hquestion _ rfl
      obtain ⟨piece, rfl, hpiece⟩ := exists_of_closed
        (fun t => Text.cutUnquoted? none (c :: t))
        (fun _ hcut => (Text.cutsOff_of_cutUnquoted? hcut).tail rfl) h
      refine ⟨c :: piece, rfl, fun more => ?_⟩
      rw [List.cons_append, markup_eq_closed hc]
      exact hpiece more

/-- What is written is a piece of markup with this event. -/
def IsMarkup (written : List Char) (event : Event) : Prop :=
  ∃ s, written = '<' :: s ∧ ∀ more, markup (s ++ more) = .ok (event, more)

theorem IsMarkup.readFrom {written : List Char} {event : Event} (h : IsMarkup written event)
    {opened opened' : List (List Char)} (hnest : nest opened event = .ok opened')
    (rest : List Char) :
    readFrom opened (written ++ rest) = (readFrom opened' rest).after [event] := by
  obtain ⟨s, rfl, hmarkup⟩ := h
  exact readFrom_markup (hmarkup rest) hnest

theorem IsMarkup.head?_append {written : List Char} {event : Event} (h : IsMarkup written event)
    (rest : List Char) : ∀ c ∈ (written ++ rest).head?, c = '<' := by
  obtain ⟨s, rfl, -⟩ := h
  rintro c ⟨⟩
  rfl

section

variable {tag : Tag} (h : tag.Valid)

include h

theorem isMarkup_opening (hlast : tag.content.getLast? ≠ some '/') :
    IsMarkup ('<' :: (tag.content ++ ['>'])) (.opening tag) := by
  refine ⟨_, rfl, fun more => ?_⟩
  rw [List.append_assoc]
  exact markup_opening h hlast more

theorem isMarkup_closing {gap : List Char} (hgap : ∀ c ∈ gap, isSpace c = true) :
    IsMarkup ('<' :: '/' :: (tag.name ++ gap ++ ['>'])) (.closing tag.name) := by
  refine ⟨_, rfl, fun more => ?_⟩
  rw [List.cons_append, List.append_assoc]
  exact markup_closing h hgap more

end

theorem isMarkup_end {name : List Char} (h : IsName name) :
    IsMarkup ('<' :: '/' :: (name ++ ['>'])) (.closing name) := by
  have htag : (Tag.withValues name []).Valid := valid_withValues h (List.forall_mem_nil _)
  have hmarkup := isMarkup_closing htag (List.forall_mem_nil fun c => isSpace c = true)
  rwa [name_withValues h, List.append_nil] at hmarkup

/-! ## How far a text is read -/

/-- The elements that are open after events. -/
def nestAll (opened : List (List Char)) (events : List Event) : Except Fault (List (List Char)) :=
  events.foldlM nest opened

theorem nestAll_append (opened : List (List Char)) (events events' : List Event) :
    nestAll opened (events ++ events') =
      (nestAll opened events).bind fun opened => nestAll opened events' :=
  List.foldlM_append

theorem nestAll_textEvents (opened : List (List Char)) (text : List Char) :
    nestAll opened (textEvents text) = .ok opened := by
  unfold textEvents
  split <;> rfl

/-- Every text is text without markup and then markup, if there is any. -/
theorem exists_text_append (s : List Char) :
    ∃ text rest, s = text ++ rest ∧ '<' ∉ text ∧ (∀ c ∈ rest.head?, c = '<') ∧
      text = s.takeWhile (fun d => d != '<') ∧ rest = s.dropWhile fun d => d != '<' := by
  refine ⟨_, _, List.takeWhile_append_dropWhile.symm, fun hmem => ?_, fun c hc => ?_, rfl, rfl⟩
  · exact absurd (List.mem_takeWhile_imp hmem) (by decide)
  · have hhead := List.head?_dropWhile_not (fun d => d != '<') s
    rw [Option.mem_def] at hc
    simpa [hc] using hhead

/-- How far a text is read where the elements are open. -/
structure Extent (opened : List (List Char)) where
  /-- What is read alike whatever follows it. -/
  lead : List Char
  events : List Event
  /-- The elements that are open behind the lead. -/
  inner : List (List Char)
  /-- The text behind the lead. -/
  pending : List Char
  /-- The markup that cannot be read, and all behind it. -/
  broken : List Char
  noMarkup : '<' ∉ pending
  nests : nestAll opened events = .ok inner
  reads : ∀ rest, readFrom opened (lead ++ rest) = (readFrom inner rest).after events
  stuck : broken = [] ∨ ∃ rest, broken = '<' :: rest ∧ ∀ event after,
    markup rest = .ok (event, after) → ∃ fault, nest inner event = .error fault

namespace Extent

variable {opened : List (List Char)}

def whole (x : Extent opened) : List Char :=
  x.lead ++ (x.pending ++ x.broken)

/-- Where nothing has been read yet. -/
def start {pending broken : List Char} (hpending : '<' ∉ pending)
    (hbroken : broken = [] ∨ ∃ rest, broken = '<' :: rest ∧ ∀ event after,
      markup rest = .ok (event, after) → ∃ fault, nest opened event = .error fault) :
    Extent opened where
  lead := []
  events := []
  inner := opened
  pending := pending
  broken := broken
  noMarkup := hpending
  nests := rfl
  reads _ := rfl
  stuck := hbroken

/-- A piece of markup is read before what follows it. -/
def cons {event : Event} {opened' : List (List Char)} {piece : List Char}
    (hpiece : ∀ more, markup (piece ++ more) = .ok (event, more))
    (hnest : nest opened event = .ok opened') (x : Extent opened') : Extent opened where
  lead := '<' :: (piece ++ x.lead)
  events := event :: x.events
  inner := x.inner
  pending := x.pending
  broken := x.broken
  noMarkup := x.noMarkup
  nests := by
    show Except.bind (nest opened event) _ = _
    rw [hnest]
    exact x.nests
  reads more := by
    rw [List.cons_append, List.append_assoc, readFrom_markup (hpiece _) hnest, x.reads]
    rfl
  stuck := x.stuck

/-- Without a lead nothing has been read. -/
theorem inner_of_lead_eq_nil (x : Extent opened) (h : x.lead = []) : x.inner = opened := by
  have hevents : x.events = [] := by
    have hreads := x.reads []
    rw [h, List.nil_append, readFrom, readFrom] at hreads
    have heq := congrArg Reading.events hreads
    simpa [Reading.after] using heq.symm
  have hnests := x.nests
  rw [hevents] at hnests
  exact (Except.ok.inj hnests).symm

/-- Text before markup is read before it. -/
theorem exists_text (x : Extent opened) {text rest : List Char} (hx : x.whole = '<' :: rest)
    (htext : '<' ∉ text) : ∃ y : Extent opened, y.whole = text ++ '<' :: rest := by
  cases hlead : x.lead with
  | nil =>
    rw [whole, hlead, List.nil_append] at hx
    cases hpending : x.pending with
    | cons c pending =>
      rw [hpending] at hx
      have hmem : '<' ∈ x.pending := by
        rw [hpending, (List.cons.inj hx).1]
        exact List.mem_cons_self
      exact absurd hmem x.noMarkup
    | nil =>
      rw [hpending, List.nil_append] at hx
      have hstuck := x.stuck
      rw [hx, x.inner_of_lead_eq_nil hlead] at hstuck
      exact ⟨start htext hstuck, rfl⟩
  | cons c lead =>
    rw [whole, hlead] at hx
    obtain rfl : c = '<' := (List.cons.inj hx).1
    have hreads := x.reads
    rw [hlead] at hreads
    refine ⟨{ x with
      lead := text ++ '<' :: lead
      events := textEvents text ++ x.events
      nests := ?_
      reads := fun rest => ?_ }, ?_⟩
    · rw [nestAll_append, nestAll_textEvents]
      exact x.nests
    · have hmarkup : ∀ c ∈ ('<' :: lead ++ rest).head?, c = '<' := by
        rintro c ⟨⟩
        rfl
      rw [List.append_assoc, readFrom_text htext hmarkup, hreads, Reading.after_after]
    · show text ++ '<' :: lead ++ (x.pending ++ x.broken) = _
      rw [List.append_assoc, hx]

end Extent

/-- Every text is read so far. -/
theorem exists_extent (opened : List (List Char)) (s : List Char) :
    ∃ x : Extent opened, x.whole = s := by
  induction opened, s using readFrom.induct with
  | case1 opened => exact ⟨.start List.not_mem_nil (.inl rfl), rfl⟩
  | case2 opened s failure hfailed =>
    exact ⟨.start List.not_mem_nil (.inr ⟨s, rfl, fun event after hread =>
      nomatch hfailed.symm.trans hread⟩), rfl⟩
  | case3 opened s event after hread fault hnest =>
    refine ⟨.start List.not_mem_nil (.inr ⟨s, rfl, fun event' after' hread' => ?_⟩), rfl⟩
    cases hread.symm.trans hread'
    exact ⟨fault, hnest⟩
  | case4 opened s event after hread opened' hnest ih =>
    obtain ⟨x, rfl⟩ := ih
    obtain ⟨piece, rfl, hpiece⟩ := exists_of_markup hread
    refine ⟨x.cons hpiece hnest, ?_⟩
    exact congrArg ('<' :: ·) (List.append_assoc piece x.lead _)
  | case5 opened c s hc ih =>
    obtain ⟨x, hx⟩ := ih
    obtain ⟨text, rest, rfl, htext, hrest, -, hdrop⟩ := exists_text_append s
    rw [← hdrop] at hx
    have hmem : '<' ∉ c :: text := by
      rw [List.mem_cons, not_or]
      exact ⟨fun heq => hc heq.symm, htext⟩
    cases rest with
    | nil => exact ⟨.start hmem (.inl rfl), rfl⟩
    | cons d rest =>
      obtain rfl := hrest d rfl
      exact x.exists_text hx hmem

namespace Extent

variable {opened : List (List Char)} (x : Extent opened)

theorem head_broken : ∀ c ∈ x.broken.head?, c = '<' := by
  intro c hc
  rcases x.stuck with hnil | ⟨rest, heq, -⟩
  · rw [hnil] at hc
    cases hc
  · rw [heq] at hc
    cases hc
    rfl

theorem readFrom_broken : (readFrom x.inner x.broken).events = [] ∧
    ((readFrom x.inner x.broken).failure = none ↔ x.broken = []) := by
  rcases x.stuck with hnil | ⟨rest, heq, hstuck⟩
  · rw [hnil, readFrom]
    exact ⟨rfl, iff_of_true rfl rfl⟩
  · rw [heq, readFrom, if_pos rfl]
    split
    · simp
    · rename_i event after hread
      obtain ⟨fault, hfault⟩ := hstuck event after hread
      rw [hfault]
      simp

theorem readFrom_whole : readFrom opened x.whole =
    (readFrom x.inner x.broken).after (x.events ++ textEvents x.pending) := by
  rw [whole, x.reads, readFrom_text x.noMarkup x.head_broken, Reading.after_after]

theorem events_readFrom :
    (readFrom opened x.whole).events = x.events ++ textEvents x.pending := by
  rw [x.readFrom_whole, Reading.after, x.readFrom_broken.1, List.append_nil]

theorem failure_readFrom : (readFrom opened x.whole).failure = none ↔ x.broken = [] := by
  rw [x.readFrom_whole]
  exact x.readFrom_broken.2

/-- Text goes on with text. -/
theorem readFrom_append (hbroken : x.broken = []) {text rest : List Char} (htext : '<' ∉ text)
    (hrest : ∀ c ∈ rest.head?, c = '<') :
    readFrom opened (x.whole ++ (text ++ rest)) =
      (readFrom x.inner rest).after (x.events ++ textEvents (x.pending ++ text)) := by
  have hmarkup : '<' ∉ x.pending ++ text := by
    rw [List.mem_append, not_or]
    exact ⟨x.noMarkup, htext⟩
  calc readFrom opened (x.whole ++ (text ++ rest))
      = readFrom opened (x.lead ++ (x.pending ++ text ++ rest)) := by
        simp only [whole, hbroken, List.append_nil, List.append_assoc]
    _ = (readFrom x.inner (x.pending ++ text ++ rest)).after x.events := x.reads _
    _ = _ := by rw [readFrom_text hmarkup hrest, Reading.after_after]

end Extent

/-! ## Places -/

/-- The names of the elements that are open behind a text, the innermost first, if reading comes to
the end of the text. -/
def openAfter? (before : List Char) : Option (List (List Char)) :=
  match (read before).failure with
  | none => (nestAll [] (read before).events).toOption
  | some _ => none

theorem read_nil : read [] = ⟨[], none⟩ := by
  rw [read, withoutMark, readFrom]

theorem withoutMark_append {s t : List Char} (h : s ≠ [] ∨ ∀ c ∈ t.head?, c.toNat ≠ 0xFEFF) :
    withoutMark (s ++ t) = withoutMark s ++ t := by
  cases s with
  | nil =>
    rcases h with hne | hmark
    · exact absurd rfl hne
    · cases t with
      | nil => rfl
      | cons c t => exact if_neg (hmark c rfl)
  | cons c s =>
    rw [List.cons_append, withoutMark, withoutMark]
    split <;> rfl

theorem exists_mark (s : List Char) : ∃ mark, s = mark ++ withoutMark s ∧
    ∀ front rest, withoutMark s = front ++ rest → withoutMark (mark ++ front) = front := by
  cases s with
  | nil =>
    refine ⟨[], rfl, fun front rest heq => ?_⟩
    rw [(List.append_eq_nil_iff.mp heq.symm).1]
    rfl
  | cons c s =>
    by_cases hc : c.toNat = 0xFEFF
    · have hmark : ∀ t, withoutMark (c :: t) = t := fun t => by rw [withoutMark, if_pos hc]
      refine ⟨[c], ?_, fun front rest _ => hmark front⟩
      rw [hmark]
      rfl
    · have hmark : ∀ t, withoutMark (c :: t) = c :: t := fun t => by rw [withoutMark, if_neg hc]
      refine ⟨[], (hmark s).symm, fun front rest heq => ?_⟩
      cases front with
      | nil => rfl
      | cons d front =>
        rw [hmark] at heq
        obtain rfl := (List.cons.inj heq).1
        exact hmark front

theorem nestAll_readFrom (opened : List (List Char)) (s : List Char) :
    ∃ inner, nestAll opened (readFrom opened s).events = .ok inner := by
  obtain ⟨x, rfl⟩ := exists_extent opened s
  refine ⟨x.inner, ?_⟩
  rw [x.events_readFrom, nestAll_append, x.nests]
  exact nestAll_textEvents x.inner x.pending

section

variable {before : List Char} {opened : List (List Char)}

theorem openAfter?_eq_none_iff : openAfter? before = none ↔ (read before).failure ≠ none := by
  obtain ⟨inner, hinner⟩ := nestAll_readFrom [] (withoutMark before)
  rw [openAfter?, read, hinner]
  cases (readFrom [] (withoutMark before)).failure <;> simp [Except.toOption]

theorem nestAll_of_openAfter? (h : openAfter? before = some opened) :
    nestAll [] (read before).events = .ok opened := by
  obtain ⟨inner, hinner⟩ := nestAll_readFrom [] (withoutMark before)
  rw [openAfter?, read, hinner] at h
  rw [read, hinner]
  cases hfailure : (readFrom [] (withoutMark before)).failure with
  | none =>
    rw [hfailure] at h
    exact congrArg Except.ok (Option.some.inj h)
  | some failure =>
    rw [hfailure] at h
    cases h

theorem ne_nil_of_openAfter? {name : List Char} {others : List (List Char)}
    (h : openAfter? before = some (name :: others)) : before ≠ [] := by
  rintro rfl
  rw [openAfter?, read_nil] at h
  cases h

theorem openAfter?_eq_some_iff {x : Extent []} (hx : x.whole = withoutMark before) :
    openAfter? before = some opened ↔ x.broken = [] ∧ x.inner = opened := by
  have hnests : nestAll [] (read before).events = .ok x.inner := by
    rw [read, ← hx, x.events_readFrom, nestAll_append, x.nests]
    exact nestAll_textEvents x.inner x.pending
  have hfailure : (read before).failure = none ↔ x.broken = [] := by
    rw [read, ← hx]
    exact x.failure_readFrom
  rw [openAfter?, hnests, ← hfailure]
  cases (read before).failure with
  | none => simp [Except.toOption]
  | some failure => simp

end

/-- A place is wherever the text that is pending is broken off. -/
theorem exists_before {s text more : List Char} {x : Extent []} (hx : x.whole = withoutMark s)
    (hpending : x.pending = text ++ more) :
    ∃ before, s = before ++ (more ++ x.broken) ∧ openAfter? before = some x.inner := by
  have htext : '<' ∉ text := fun hmem => x.noMarkup (hpending ▸ List.mem_append_left more hmem)
  obtain ⟨mark, hs, hfront⟩ := exists_mark s
  have heq : withoutMark s = (x.lead ++ text) ++ (more ++ x.broken) := by
    rw [← hx, Extent.whole, hpending, List.append_assoc, List.append_assoc]
  let y : Extent [] := { x with
    pending := text
    broken := []
    noMarkup := htext
    stuck := .inl rfl }
  have hy : y.whole = withoutMark (mark ++ (x.lead ++ text)) := by
    rw [hfront _ _ heq]
    show x.lead ++ (text ++ []) = _
    rw [List.append_nil]
  refine ⟨mark ++ (x.lead ++ text), ?_, (openAfter?_eq_some_iff hy).mpr ⟨rfl, rfl⟩⟩
  rw [List.append_assoc, ← heq]
  exact hs

section

variable {before : List Char} {opened : List (List Char)}

/-- Behind a place text goes on with the text before it. The text before it can be broken off
anywhere, and what is left ends at a place too. -/
theorem exists_pending (h : openAfter? before = some opened) :
    ∃ events pending, '<' ∉ pending ∧ (read before).events = events ++ textEvents pending ∧
      (∀ text more, pending = text ++ more →
        ∃ front, before = front ++ more ∧ openAfter? front = some opened) ∧
      ∀ text rest, '<' ∉ text → (∀ c ∈ rest.head?, c = '<') →
        (before ≠ [] ∨ ∀ c ∈ (text ++ rest).head?, c.toNat ≠ 0xFEFF) →
          read (before ++ (text ++ rest)) =
            (readFrom opened rest).after (events ++ textEvents (pending ++ text)) := by
  obtain ⟨x, hx⟩ := exists_extent [] (withoutMark before)
  obtain ⟨hbroken, rfl⟩ := (openAfter?_eq_some_iff hx).mp h
  refine ⟨x.events, x.pending, x.noMarkup, ?_, fun text more heq => ?_,
    fun text rest htext hrest hmark => ?_⟩
  · rw [read, ← hx]
    exact x.events_readFrom
  · obtain ⟨front, hfront, hopen⟩ := exists_before hx heq
    rw [hbroken, List.append_nil] at hfront
    exact ⟨front, hfront, hopen⟩
  · rw [read, withoutMark_append hmark, ← hx]
    exact x.readFrom_append hbroken htext hrest

/-- **Behind a place markup is read as if nothing stood before it** but the tags that are open. -/
theorem read_append (h : openAfter? before = some opened) {rest : List Char}
    (hrest : ∀ c ∈ rest.head?, c = '<') :
    read (before ++ rest) = (readFrom opened rest).after (read before).events := by
  obtain ⟨events, pending, -, hevents, -, hread⟩ := exists_pending h
  have hmark : ∀ c ∈ ([] ++ rest).head?, c.toNat ≠ 0xFEFF := by
    intro c hc
    rw [hrest c hc]
    decide
  rw [hevents, ← List.append_nil pending, ← hread [] rest List.not_mem_nil hrest (.inr hmark),
    List.nil_append]

end

/-! ## Markup that is cut off -/

/-- The text ends in markup that cannot be read. -/
def EndsInMarkup (s : List Char) : Prop :=
  ∃ before inner, s = before ++ '<' :: inner ∧ (openAfter? before).isSome ∧
    ∀ event after, markup inner ≠ .ok (event, after)

/-- What begins a text that is read to its end is read to its own end unless it ends in markup. -/
theorem endsInMarkup_iff {cut rest : List Char} (h : (read (cut ++ rest)).failure = none) :
    EndsInMarkup cut ↔ openAfter? cut = none := by
  constructor
  · rintro ⟨before, inner, rfl, hopen, hmarkup⟩
    obtain ⟨opened, hopened⟩ := Option.isSome_iff_exists.mp hopen
    rw [openAfter?_eq_none_iff, read_append hopened (by rintro c ⟨⟩; rfl), readFrom, if_pos rfl]
    split
    · intro hnone
      cases hnone
    · rename_i event after hread
      exact absurd hread (hmarkup event after)
  · intro hcut
    obtain ⟨x, hx⟩ := exists_extent [] (withoutMark cut)
    rcases x.stuck with hbroken | ⟨inner, hbroken, hstuck⟩
    · cases hcut.symm.trans ((openAfter?_eq_some_iff hx).mpr ⟨hbroken, rfl⟩)
    obtain ⟨before, hbefore, hopen⟩ := exists_before hx (List.append_nil x.pending).symm
    rw [hbroken, List.nil_append] at hbefore
    refine ⟨before, inner, hbefore, by rw [hopen]; rfl, fun event after hread => ?_⟩
    -- What follows the piece of markup does not change that it may not stand there.
    obtain ⟨fault, hfault⟩ := hstuck event after hread
    obtain ⟨piece, rfl, hpiece⟩ := exists_of_markup hread
    have hwhole : cut ++ rest = before ++ '<' :: (piece ++ (after ++ rest)) := by
      rw [hbefore, List.append_assoc, List.cons_append, List.append_assoc]
    rw [hwhole, read_append hopen (by rintro c ⟨⟩; rfl), readFrom, if_pos rfl] at h
    split at h
    · cases h
    · rename_i event' after' hread'
      cases (hpiece _).symm.trans hread'
      rw [hfault] at h
      cases h

end PaperSearch.Xml
