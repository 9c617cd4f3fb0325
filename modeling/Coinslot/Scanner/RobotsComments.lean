import Coinslot.Scanner.Robots
import Mathlib.Data.List.TakeWhile

/-!
# What is not read of a robots file

Comments, blank lines, the letter case of the names of fields and the way in which lines end say nothing. A robots
file is taken apart into its lines (`RobotsText`), and an edit (`RobotsEdit`) changes nothing but these
(`Edited`).

The code finds a comment only after a blank, and a line end only at a line feed. So a line that is a comment from its
first character on counts as malformed where no colon is left in it, and a lone carriage return joins two lines into
one. The other edits leave what the file is read to say as it is (`edit_unread_iff`).
-/

namespace Coinslot

open List

/-! ## Edits -/

/-- How a line ends. -/
inductive LineEnd where
  | lf
  | cr
  | crlf
  deriving DecidableEq, Repr

def LineEnd.text : LineEnd → List Char
  | .lf => ['\n']
  | .cr => ['\r']
  | .crlf => ['\r', '\n']

abbrev LineText : Type := { text : List Char // ∀ c ∈ text, c ≠ '\n' ∧ c ≠ '\r' }

/-- A text of one line, without the character that makes a file one that is not a text. -/
abbrev CommentText : Type := { text : List Char // ∀ c ∈ text, (c ≠ '\n' ∧ c ≠ '\r') ∧ c.toNat ≠ 0 }

abbrev Blanks : Type := { blanks : List Char // ∀ c ∈ blanks, c = ' ' ∨ c = '\t' }

abbrev Gap : Type := { blanks : Blanks // blanks.1 ≠ [] }

/-- A file by its lines, each with the end between it and the next. The end of the last is not written. -/
abbrev RobotsText : Type := List (LineText × LineEnd)

namespace RobotsText

/-- The text of a file. -/
def body : RobotsText → List Char
  | [] => []
  | [line] => line.1.1
  | line :: next :: rest => line.1.1 ++ line.2.text ++ body (next :: rest)

/-- No line ends in a lone carriage return. -/
def NoCr (file : RobotsText) : Prop := ∀ line ∈ file, line.2 ≠ .cr

end RobotsText

/-- What changes nothing that a file says. -/
inductive RobotsEdit where
  /-- A line that is a comment. -/
  | comment (indent : Blanks) (text : CommentText)
  /-- A comment after a line. -/
  | trailing (gap : Gap) (text : CommentText)
  | blank (blanks : Blanks)
  /-- The letter case of the name of a field. -/
  | fieldCase
  | lineEnd (lineEnd : LineEnd)

section

variable (lowerCase : List Char → List Char)

/-- Lines that are the same up to the letter case of what stands before the first colon. -/
inductive SameLine : List Char → List Char → Prop
  | rest (text : List Char) : SameLine text text
  | letter {c c' : Char} {line line' : List Char} : lowerCase [c] = lowerCase [c'] → c ≠ ':' →
      SameLine line line' → SameLine (c :: line) (c' :: line')

/-- A file is edited at one place. Lines are added with an end of their own that is no lone carriage return. -/
inductive Edited : RobotsEdit → RobotsText → RobotsText → Prop
  | comment {before after : RobotsText} {new : LineText} {e : LineEnd} {indent : Blanks} {text : CommentText} :
      new.1 = indent.1 ++ '#' :: text.1 → e ≠ .cr →
      Edited (.comment indent text) (before ++ after) (before ++ (new, e) :: after)
  | trailing {before after : RobotsText} {line line' : LineText} {e : LineEnd} {gap : Gap} {text : CommentText} :
      line'.1 = line.1 ++ (gap.1.1 ++ '#' :: text.1) →
      Edited (.trailing gap text) (before ++ (line, e) :: after) (before ++ (line', e) :: after)
  | blank {before after : RobotsText} {new : LineText} {e : LineEnd} {blanks : Blanks} :
      new.1 = blanks.1 → e ≠ .cr →
      Edited (.blank blanks) (before ++ after) (before ++ (new, e) :: after)
  | fieldCase {before after : RobotsText} {line line' : LineText} {e : LineEnd} : SameLine lowerCase line.1 line'.1 →
      Edited .fieldCase (before ++ (line, e) :: after) (before ++ (line', e) :: after)
  | lineEnd {before after : RobotsText} {line : LineText} {e : LineEnd} (e' : LineEnd) :
      Edited (.lineEnd e') (before ++ (line, e) :: after) (before ++ (line, e') :: after)

def RobotsText.parsed (file : RobotsText) : RobotsParseResult := parseRobots lowerCase (String.ofList file.body)

/-- What the platform promises of lower case: ASCII letters are written as usual, blanks and signs are the lower
case of nothing else, and a text in lower case is an ASCII text where its characters, one by one, are. -/
structure CaseLaws : Prop where
  ascii : ∀ c : Char, c.toNat < 128 → lowerCase [c] = [c.toLower]
  uncased : ∀ c c' : Char, isBlank c = true ∨ c = ':' ∨ c = '#' ∨ c.toNat = 0 →
    lowerCase [c] = lowerCase [c'] → c = c'
  text_eq : ∀ text name : List Char, (∀ c ∈ name, c.toNat < 128) →
    (lowerCase text = name ↔ text.flatMap (fun c => lowerCase [c]) = name)

end

/-- Whether an edit is one the code does not read: a comment of one line that begins after a blank, or in which a
colon is left, and ends of lines that are no lone carriage returns. -/
def RobotsEdit.Harmless : RobotsEdit → Prop
  | .comment indent text =>
    indent.1 ≠ [] ∧ (∀ c ∈ text.1, endsLine c = false) ∨ ':' ∈ withoutComment ('#' :: text.1)
  | .trailing _ text => ∀ c ∈ text.1, endsLine c = false
  | .blank _ => True
  | .fieldCase => True
  | .lineEnd e => e ≠ .cr

theorem RobotsText.body_cons (line : LineText) (e : LineEnd) {file : RobotsText} (h : file ≠ []) :
    RobotsText.body ((line, e) :: file) = line.1 ++ e.text ++ RobotsText.body file := by
  cases file with
  | nil => exact absurd rfl h
  | cons next rest => rfl

/-! ## Blanks at the ends of texts -/

theorem isBlank_of_mem_blanks {blanks : Blanks} {c : Char} (h : c ∈ blanks.1) : isBlank c = true := by
  rcases blanks.2 c h with rfl | rfl <;> rfl

variable {text : List Char}

theorem dropWhile_append_of_all {p : Char → Bool} (h : ∀ c ∈ text, p c = true) (rest : List Char) :
    (text ++ rest).dropWhile p = rest.dropWhile p := by
  induction text with
  | nil => rfl
  | cons c text ih =>
    obtain ⟨hc, htext⟩ := forall_mem_cons.1 h
    rw [cons_append, dropWhile_cons_of_pos hc, ih htext]

def trimmedEnd (text : List Char) : List Char := (text.reverse.dropWhile isBlank).reverse

theorem trimmed_eq (text : List Char) : trimmed text = trimmedEnd (text.dropWhile isBlank) := rfl

variable {blanks : List Char}

section

variable (h : ∀ c ∈ blanks, isBlank c = true)
include h

theorem trimmedEnd_append_blanks (text : List Char) : trimmedEnd (text ++ blanks) = trimmedEnd text := by
  rw [trimmedEnd, reverse_append, dropWhile_append_of_all fun c hc => h c (mem_reverse.1 hc), trimmedEnd]

theorem trimmed_blanks : trimmed blanks = [] := by
  have hnone : blanks.dropWhile isBlank = [] := by
    have := dropWhile_append_of_all h []
    rwa [append_nil] at this
  rw [trimmed_eq, hnone]
  rfl

theorem trimmed_blanks_append (text : List Char) : trimmed (blanks ++ text) = trimmed text := by
  rw [trimmed_eq, dropWhile_append_of_all h, trimmed_eq]

theorem trimmed_append_blanks (text : List Char) : trimmed (text ++ blanks) = trimmed text := by
  rw [trimmed_eq, trimmed_eq, dropWhile_append]
  split
  · next hempty =>
    rw [List.isEmpty_iff.1 hempty]
    have := trimmed_blanks h
    rwa [trimmed_eq] at this
  · exact trimmedEnd_append_blanks h _

end

theorem trimmedEnd_cons (c : Char) (text : List Char) :
    trimmedEnd (c :: text) = if trimmedEnd text = [] ∧ isBlank c = true then [] else c :: trimmedEnd text := by
  rw [trimmedEnd, reverse_cons, dropWhile_append, trimmedEnd]
  by_cases hnone : text.reverse.dropWhile isBlank = []
  · rw [hnone]
    cases hc : isBlank c <;> simp [hc]
  · have hnot : ¬ (text.reverse.dropWhile isBlank).isEmpty = true := fun h => hnone (List.isEmpty_iff.1 h)
    rw [if_neg hnot, if_neg fun h => hnone (reverse_eq_nil_iff.1 h.1), reverse_append]
    rfl

theorem trimmed_cons {c : Char} (hc : isBlank c = false) (text : List Char) :
    trimmed (c :: text) = c :: trimmedEnd text := by
  rw [trimmed_eq, dropWhile_cons_of_neg (by rw [hc]; exact Bool.false_ne_true), trimmedEnd_cons,
    if_neg fun h => by rw [hc] at h; exact Bool.false_ne_true h.2]

theorem mem_trimmedEnd {c : Char} (hc : isBlank c = false) : ∀ {text : List Char}, c ∈ trimmedEnd text ↔ c ∈ text
  | [] => Iff.rfl
  | d :: text => by
    rw [trimmedEnd_cons, mem_cons]
    split
    · next h =>
      obtain ⟨hnone, hd⟩ := h
      rw [← @mem_trimmedEnd c hc text, hnone]
      refine iff_of_false not_mem_nil ?_
      rintro (rfl | hmem)
      · rw [hd] at hc
        cases hc
      · exact not_mem_nil hmem
    · rw [mem_cons, mem_trimmedEnd hc]

/-! ## Comments -/

theorem commentFollows_append_iff (h : ∀ c ∈ blanks, isBlank c = true) (text : List Char) :
    commentFollows (blanks ++ '#' :: text) = true ↔ ∀ c ∈ text, endsLine c = false := by
  have hsign : ('#' :: text).dropWhile isBlank = '#' :: text := dropWhile_cons_of_neg (by decide)
  unfold commentFollows
  rw [dropWhile_append_of_all h, hsign]
  simp only [all_eq_true, Bool.not_eq_true']

theorem commentFollows_append_of_not_mem {line : List Char} (h : '#' ∉ line)
    (htext : ¬ ∀ c ∈ text, endsLine c = false) : commentFollows (line ++ '#' :: text) = false := by
  induction line with
  | nil => exact Bool.eq_false_iff.2 fun hfollows => htext ((commentFollows_append_iff (by simp) text).1 hfollows)
  | cons c line ih =>
    obtain ⟨hc, hline⟩ := not_or.1 (fun hmem => h (mem_cons.2 hmem))
    cases hblank : isBlank c with
    | true =>
      have hdrop : commentFollows (c :: line ++ '#' :: text) = commentFollows (line ++ '#' :: text) := by
        unfold commentFollows
        rw [cons_append, dropWhile_cons_of_pos hblank]
      rw [hdrop, ih hline]
    | false =>
      unfold commentFollows
      rw [cons_append, dropWhile_cons_of_neg (by rw [hblank]; exact Bool.false_ne_true)]
      split
      · next heq => exact absurd (List.cons.inj heq).1.symm hc
      · rfl

theorem withoutComment_append_of_broken {line : List Char} (h : '#' ∉ line)
    (htext : ¬ ∀ c ∈ text, endsLine c = false) :
    withoutComment (line ++ '#' :: text) = line ++ withoutComment ('#' :: text) := by
  induction line with
  | nil => rfl
  | cons c line ih =>
    have hline : '#' ∉ line := fun hmem => h (mem_cons_of_mem _ hmem)
    rw [cons_append, withoutComment, commentFollows_append_of_not_mem hline htext, Bool.and_false, if_neg
      Bool.false_ne_true, ih hline, cons_append]

theorem withoutComment_sign (text : List Char) : withoutComment ('#' :: text) = '#' :: withoutComment text := by
  rw [withoutComment, show isBlank '#' = false from rfl, Bool.false_and, if_neg Bool.false_ne_true]

theorem withoutComment_blanks_append (hsome : blanks ≠ []) (h : ∀ c ∈ blanks, isBlank c = true)
    (htext : ∀ c ∈ text, endsLine c = false) : withoutComment (blanks ++ '#' :: text) = [] := by
  obtain ⟨c, blanks, rfl⟩ := exists_cons_of_ne_nil hsome
  obtain ⟨hc, hblanks⟩ := forall_mem_cons.1 h
  rw [cons_append, withoutComment, hc, (commentFollows_append_iff hblanks text).2 htext]
  rfl

theorem withoutComment_begins : ∀ line : List Char, withoutComment line <+: line
  | [] => prefix_rfl
  | c :: line => by
    rw [withoutComment]
    split
    · exact nil_prefix
    · exact cons_prefix_cons.2 ⟨rfl, withoutComment_begins line⟩

theorem commentFollows_append {line gap : List Char} (hgap : ∀ c ∈ gap, isBlank c = true ∧ endsLine c = false)
    (htext : ∀ c ∈ text, endsLine c = false) : commentFollows (line ++ (gap ++ '#' :: text)) = true ↔
      commentFollows line = true ∨ ∀ c ∈ line, isBlank c = true := by
  induction line with
  | nil =>
    refine iff_of_true ((commentFollows_append_iff (fun c hc => (hgap c hc).1) text).2 htext) (.inr ?_)
    exact fun c hc => absurd hc not_mem_nil
  | cons c line ih =>
    cases hblank : isBlank c with
    | true =>
      have hdrop : ∀ rest, commentFollows (c :: rest) = commentFollows rest := fun rest => by
        unfold commentFollows
        rw [dropWhile_cons_of_pos hblank]
      rw [cons_append, hdrop, hdrop, ih, forall_mem_cons]
      exact or_congr_right (and_iff_right hblank).symm
    | false =>
      have hall : ¬ ∀ d ∈ c :: line, isBlank d = true := fun hall => by
        rw [hall c (mem_cons_self ..)] at hblank
        cases hblank
      have hkeep : ∀ rest, (c :: rest).dropWhile isBlank = c :: rest := fun rest =>
        dropWhile_cons_of_neg (by rw [hblank]; exact Bool.false_ne_true)
      rw [or_iff_left hall]
      unfold commentFollows
      rw [cons_append, hkeep, hkeep]
      by_cases hsign : c = '#'
      · subst hsign
        simp only [all_eq_true, mem_append, mem_cons, Bool.not_eq_true']
        constructor
        · exact fun h d hd => h d (.inl hd)
        · rintro h d (hd | hd | rfl | hd)
          · exact h d hd
          · exact (hgap d hd).2
          · decide
          · exact htext d hd
      · split
        · next heq => exact absurd (List.cons.inj heq).1 hsign
        · split
          · next heq => exact absurd (List.cons.inj heq).1 hsign
          · exact Iff.rfl

theorem withoutComment_append {gap : List Char} (hsome : gap ≠ [])
    (hgap : ∀ c ∈ gap, isBlank c = true ∧ endsLine c = false) (htext : ∀ c ∈ text, endsLine c = false) :
    ∀ line : List Char, ∃ blanks : List Char, (∀ c ∈ blanks, isBlank c = true) ∧
      withoutComment line = withoutComment (line ++ (gap ++ '#' :: text)) ++ blanks
  | [] => ⟨[], fun _ hc => absurd hc not_mem_nil, by
      rw [nil_append, withoutComment_blanks_append hsome (fun c hc => (hgap c hc).1) htext]
      rfl⟩
  | c :: line => by
    obtain ⟨blanks, hblanks, heq⟩ := withoutComment_append hsome hgap htext line
    rw [cons_append]
    unfold withoutComment
    by_cases hcut : (isBlank c && commentFollows (line ++ (gap ++ '#' :: text))) = true
    · rw [if_pos hcut]
      obtain ⟨hc, hfollows⟩ := Bool.and_eq_true_iff.1 hcut
      rcases (commentFollows_append hgap htext).1 hfollows with hfollows | hall
      · rw [if_pos (Bool.and_eq_true_iff.2 ⟨hc, hfollows⟩)]
        exact ⟨[], fun _ hc => absurd hc not_mem_nil, rfl⟩
      · split
        · exact ⟨[], fun _ hc => absurd hc not_mem_nil, rfl⟩
        · refine ⟨c :: withoutComment line, forall_mem_cons.2 ⟨hc, fun d hd => ?_⟩, rfl⟩
          exact hall d ((withoutComment_begins line).subset hd)
    · have hkeep : ¬ (isBlank c && commentFollows line) = true := fun h => by
        obtain ⟨hc, hfollows⟩ := Bool.and_eq_true_iff.1 h
        exact hcut (Bool.and_eq_true_iff.2 ⟨hc, (commentFollows_append hgap htext).2 (.inl hfollows)⟩)
      rw [if_neg hcut, if_neg hkeep, heq]
      exact ⟨blanks, hblanks, rfl⟩

/-! ## The letter case of a field -/

section

variable {lowerCase : List Char → List Char} {line line' : List Char}

variable {c : Char}

variable {c' : Char}

theorem CaseLaws.same (laws : CaseLaws lowerCase) {p : Char → Bool}
    (hp : ∀ c, p c = true → isBlank c = true ∨ c = ':' ∨ c = '#' ∨ c.toNat = 0)
    (h : lowerCase [c] = lowerCase [c']) : p c = p c' := by
  cases hc : p c with
  | true => rw [← laws.uncased c c' (hp c hc) h, hc]
  | false =>
    cases hc' : p c' with
    | true => rw [laws.uncased c' c (hp c' hc') h.symm, hc] at hc'; exact hc'
    | false => rfl

theorem CaseLaws.isBlank (laws : CaseLaws lowerCase) (h : lowerCase [c] = lowerCase [c']) :
    isBlank c = isBlank c' := laws.same (fun _ hc => .inl hc) h

theorem isBlank_of_endsLine (h : endsLine c = true) : Coinslot.isBlank c = true := by
  unfold endsLine at h
  unfold Coinslot.isBlank
  rw [decide_eq_true_eq] at h ⊢
  simp only [mem_cons, not_mem_nil, or_false] at h
  rcases h with h | h | h | h <;> rw [h] <;> decide

theorem CaseLaws.endsLine (laws : CaseLaws lowerCase) (h : lowerCase [c] = lowerCase [c']) :
    endsLine c = endsLine c' := laws.same (fun _ hc => .inl (isBlank_of_endsLine hc)) h

theorem CaseLaws.sign (laws : CaseLaws lowerCase) {d : Char} (hd : d = ':' ∨ d = '#')
    (h : lowerCase [c] = lowerCase [c']) : c = d ↔ c' = d := by
  have := laws.same (p := fun c => c = d) (fun e he => .inr ((of_decide_eq_true he) ▸ hd.imp_right .inl)) h
  exact decide_eq_decide.1 this

theorem SameLine.map {p : Char → Bool}
    (hp : ∀ c c' : Char, lowerCase [c] = lowerCase [c'] → p c = p c') (h : SameLine lowerCase line line') :
    line.map p = line'.map p := by
  induction h with
  | rest => rfl
  | letter hletter _ _ ih => rw [map_cons, map_cons, hp _ _ hletter, ih]

theorem SameLine.commentFollows (laws : CaseLaws lowerCase) (h : SameLine lowerCase line line') :
    commentFollows line = commentFollows line' := by
  induction h with
  | rest => rfl
  | @letter c c' line line' hletter hc h ih =>
    cases hblank : Coinslot.isBlank c with
    | true =>
      have hblank' := laws.isBlank hletter ▸ hblank
      unfold Coinslot.commentFollows at ih ⊢
      rw [dropWhile_cons_of_pos hblank, dropWhile_cons_of_pos hblank', ih]
    | false =>
      have hblank' := laws.isBlank hletter ▸ hblank
      have hkeep : ∀ {d : Char} {rest : List Char}, Coinslot.isBlank d = false →
          (d :: rest).dropWhile Coinslot.isBlank = d :: rest := fun hd =>
        dropWhile_cons_of_neg (by rw [hd]; exact Bool.false_ne_true)
      unfold Coinslot.commentFollows
      rw [hkeep hblank, hkeep hblank']
      by_cases hsign : c = '#'
      · obtain rfl := (laws.sign (.inr rfl) hletter).1 hsign
        subst hsign
        have hends := h.map fun d d' hd => congrArg (! ·) (laws.endsLine hd)
        simpa only [all_map, Function.id_comp] using congrArg (List.all · id) hends
      · have hsign' := mt (laws.sign (.inr rfl) hletter).2 hsign
        split
        · next heq => exact absurd (List.cons.inj heq).1 hsign
        · split
          · next heq => exact absurd (List.cons.inj heq).1 hsign'
          · rfl

theorem SameLine.withoutComment (laws : CaseLaws lowerCase) (h : SameLine lowerCase line line') :
    SameLine lowerCase (withoutComment line) (withoutComment line') := by
  induction h with
  | rest => exact .rest _
  | letter hletter hc h ih =>
    unfold Coinslot.withoutComment
    rw [laws.isBlank hletter, h.commentFollows laws]
    split
    · exact .rest _
    · exact .letter hletter hc ih

theorem SameLine.trimmed (laws : CaseLaws lowerCase) (h : SameLine lowerCase line line') :
    SameLine lowerCase (trimmed line) (trimmed line') := by
  have hend : ∀ {line line' : List Char}, SameLine lowerCase line line' →
      SameLine lowerCase (trimmedEnd line) (trimmedEnd line') ∧ (trimmedEnd line = [] ↔ trimmedEnd line' = []) := by
    intro line line' h
    induction h with
    | rest => exact ⟨.rest _, Iff.rfl⟩
    | @letter c c' line line' hletter hc h ih =>
      rw [trimmedEnd_cons, trimmedEnd_cons, laws.isBlank hletter]
      by_cases hnone : trimmedEnd line = [] ∧ Coinslot.isBlank c' = true
      · rw [if_pos hnone, if_pos ⟨ih.2.1 hnone.1, hnone.2⟩]
        exact ⟨.rest _, Iff.rfl⟩
      · rw [if_neg hnone, if_neg fun h => hnone ⟨ih.2.2 h.1, h.2⟩]
        exact ⟨.letter hletter hc ih.1, iff_of_false (cons_ne_nil _ _) (cons_ne_nil _ _)⟩
  refine (hend ?_).1
  induction h with
  | rest => exact .rest _
  | letter hletter hc h ih =>
    rw [dropWhile_cons, dropWhile_cons, laws.isBlank hletter]
    split
    · exact ih
    · exact .letter hletter hc h

theorem SameLine.field (laws : CaseLaws lowerCase) (h : SameLine lowerCase line line') :
    List.Forall₂ (fun c c' => lowerCase [c] = lowerCase [c']) (line.takeWhile (· ≠ ':'))
        (line'.takeWhile (· ≠ ':')) ∧ line.dropWhile (· ≠ ':') = line'.dropWhile (· ≠ ':') := by
  induction h with
  | rest text => exact ⟨forall₂_same.2 fun _ _ => rfl, rfl⟩
  | letter hletter hc h ih =>
    have hc' := mt (laws.sign (.inl rfl) hletter).2 hc
    have hkeep : ∀ {d : Char} {rest : List Char}, d ≠ ':' →
        (d :: rest).takeWhile (· ≠ ':') = d :: rest.takeWhile (· ≠ ':') ∧
          (d :: rest).dropWhile (· ≠ ':') = rest.dropWhile (· ≠ ':') := fun hd =>
      ⟨takeWhile_cons_of_pos (decide_eq_true hd), dropWhile_cons_of_pos (decide_eq_true hd)⟩
    rw [(hkeep hc).1, (hkeep hc').1, (hkeep hc).2, (hkeep hc').2]
    exact ⟨.cons hletter ih.1, ih.2⟩

/-! ## Reading a line -/

def fieldNames : List (List Char) :=
  ["user-agent".toList, "allow".toList, "disallow".toList, "sitemap".toList, "content-signal".toList]

namespace RobotsReading

variable {r : RobotsReading}

theorem directive_congr {field field' : List Char} (h : ∀ name ∈ fieldNames, (field = name ↔ field' = name))
    (value : List Char) : r.directive lowerCase field value = r.directive lowerCase field' value := by
  simp only [fieldNames, forall_mem_cons] at h
  obtain ⟨hagent, hallow, hdisallow, hsitemap, hsignal, -⟩ := h
  simp only [directive, hagent, hallow, hdisallow, hsitemap, hsignal]

theorem directive_of_not_mem {field : List Char} (h : field ∉ fieldNames) (value : List Char) :
    r.directive lowerCase field value = r := by
  simp only [fieldNames, mem_cons, not_mem_nil, not_or, or_false] at h
  obtain ⟨hagent, hallow, hdisallow, hsitemap, hsignal⟩ := h
  rw [directive, if_neg hagent, if_neg hallow, if_neg hdisallow, if_neg hsitemap, if_neg hsignal]

theorem line_congr (h : trimmed (withoutComment line) = trimmed (withoutComment line')) :
    r.line lowerCase line = r.line lowerCase line' := by
  unfold RobotsReading.line
  rw [h]

theorem line_of_nil (h : trimmed (withoutComment line) = []) : r.line lowerCase line = r := by
  unfold RobotsReading.line
  rw [h]
  rfl

theorem drop_takeWhile (p : Char → Bool) : ∀ text : List Char,
    text.drop ((text.takeWhile p).length + 1) = (text.dropWhile p).drop 1
  | [] => rfl
  | c :: text => by
    cases hc : p c with
    | true =>
      rw [takeWhile_cons_of_pos hc, dropWhile_cons_of_pos hc, length_cons, drop_succ_cons, drop_takeWhile p text]
    | false =>
      rw [takeWhile_cons_of_neg (by rw [hc]; exact Bool.false_ne_true),
        dropWhile_cons_of_neg (by rw [hc]; exact Bool.false_ne_true)]
      rfl

theorem line_eq {kept : List Char} (h : trimmed (withoutComment line) = kept) : r.line lowerCase line =
    if kept = [] then r else if kept.takeWhile (· ≠ ':') = [] ∨ kept.dropWhile (· ≠ ':') = [] then r.malformed
    else r.directive lowerCase (lowerCase (trimmed (kept.takeWhile (· ≠ ':'))))
      (trimmed ((kept.dropWhile (· ≠ ':')).drop 1)) := by
  have hwhole : kept.takeWhile (· ≠ ':') = kept ↔ kept.dropWhile (· ≠ ':') = [] :=
    takeWhile_eq_self_iff.trans dropWhile_eq_nil_iff.symm
  unfold RobotsReading.line
  simp only [h, drop_takeWhile, hwhole]

theorem trimmed_forall₂ (laws : CaseLaws lowerCase) {text' : List Char}
    (h : List.Forall₂ (fun c c' => lowerCase [c] = lowerCase [c']) text text') :
    List.Forall₂ (fun c c' => lowerCase [c] = lowerCase [c']) (trimmed text) (trimmed text') := by
  have hdrop : ∀ {text text' : List Char}, List.Forall₂ (fun c c' => lowerCase [c] = lowerCase [c']) text text' →
      List.Forall₂ (fun c c' => lowerCase [c] = lowerCase [c']) (text.dropWhile Coinslot.isBlank)
        (text'.dropWhile Coinslot.isBlank) := by
    intro text text' h
    induction h with
    | nil => exact .nil
    | cons hletter h ih =>
      rw [dropWhile_cons, dropWhile_cons, laws.isBlank hletter]
      split
      · exact ih
      · exact .cons hletter h
  exact forall₂_reverse_iff.2 (hdrop (forall₂_reverse_iff.2 (hdrop h)))

theorem lowerCase_eq_iff (laws : CaseLaws lowerCase) {text' : List Char}
    (h : List.Forall₂ (fun c c' => lowerCase [c] = lowerCase [c']) text text') :
    ∀ name ∈ fieldNames, (lowerCase text = name ↔ lowerCase text' = name) := by
  intro name hname
  have hascii : ∀ c ∈ name, c.toNat < 128 := by
    have hall : fieldNames.all (·.all fun c => c.toNat < 128) = true := by decide +kernel
    exact fun c hc => of_decide_eq_true (all_eq_true.1 (all_eq_true.1 hall name hname) c hc)
  have hflat : text.flatMap (fun c => lowerCase [c]) = text'.flatMap (fun c => lowerCase [c]) := by
    induction h with
    | nil => rfl
    | cons hletter _ ih => rw [flatMap_cons, flatMap_cons, hletter, ih]
  rw [laws.text_eq text name hascii, laws.text_eq text' name hascii, hflat]

/-- **The letter case of the name of a field is not read.** -/
theorem line_same (laws : CaseLaws lowerCase) (h : SameLine lowerCase line line') :
    r.line lowerCase line = r.line lowerCase line' := by
  have hkept := (h.withoutComment laws).trimmed laws
  obtain ⟨hfield, hrest⟩ := hkept.field laws
  rw [line_eq rfl, line_eq rfl]
  generalize trimmed (withoutComment line) = kept at hkept hfield hrest
  generalize trimmed (withoutComment line') = kept' at hkept hfield hrest
  have hempty : kept = [] ↔ kept' = [] := by
    cases hkept with
    | rest => exact Iff.rfl
    | letter => exact iff_of_false (cons_ne_nil _ _) (cons_ne_nil _ _)
  have hnone : kept.takeWhile (· ≠ ':') = [] ↔ kept'.takeWhile (· ≠ ':') = [] := by
    rw [← length_eq_zero_iff, ← length_eq_zero_iff, hfield.length_eq]
  rw [hrest, directive_congr (lowerCase_eq_iff laws (trimmed_forall₂ laws hfield))]
  simp only [hempty, hnone]

theorem line_of_sign (laws : CaseLaws lowerCase) (h : trimmed (withoutComment line) = '#' :: text) :
    r.line lowerCase line = if ':' ∈ text then r else r.malformed := by
  have hfield : (('#' : Char) :: text).takeWhile (· ≠ ':') = '#' :: text.takeWhile (· ≠ ':') :=
    takeWhile_cons_of_pos (by decide)
  have hrest : (('#' : Char) :: text).dropWhile (· ≠ ':') = text.dropWhile (· ≠ ':') :=
    dropWhile_cons_of_pos (by decide)
  have hcolon : text.dropWhile (· ≠ ':') = [] ↔ ':' ∉ text := by
    rw [dropWhile_eq_nil_iff]
    constructor
    · exact fun hall hmem => absurd rfl (of_decide_eq_true (hall ':' hmem))
    · exact fun hmem c hc => decide_eq_true fun heq => hmem (heq ▸ hc)
  have hunknown : lowerCase (trimmed (('#' : Char) :: text.takeWhile (· ≠ ':'))) ∉ fieldNames := by
    intro hmem
    rw [trimmed_cons (by decide)] at hmem
    have hascii : ∀ c ∈ lowerCase ('#' :: trimmedEnd (text.takeWhile (· ≠ ':'))), c.toNat < 128 := by
      have hall : fieldNames.all (·.all fun c => c.toNat < 128) = true := by decide +kernel
      exact fun c hc => of_decide_eq_true (all_eq_true.1 (all_eq_true.1 hall _ hmem) c hc)
    have hflat := (laws.text_eq _ _ hascii).1 rfl
    rw [flatMap_cons, laws.ascii '#' (by decide)] at hflat
    rw [← hflat] at hmem
    have hheads : fieldNames.all (·.head? ≠ some '#') = true := by decide +kernel
    exact of_decide_eq_true (all_eq_true.1 hheads _ hmem) rfl
  rw [← hfield] at hunknown
  rw [line_eq h, if_neg (cons_ne_nil _ _), directive_of_not_mem hunknown, hfield, hrest]
  by_cases hmem : ':' ∈ text
  · rw [if_pos hmem, if_neg]
    rintro (hnil | hnot)
    · cases hnil
    · exact hcolon.1 hnot hmem
  · rw [if_neg hmem, if_pos (.inr (hcolon.2 hmem))]

/-! ## A malformed directive more -/

theorem opened_malformed : r.malformed.opened = r.opened.malformed := by
  unfold opened
  split
  · next h => rw [if_pos (show r.result.groups = [] ∨ r.seenRules = true from h)]; rfl
  · next h => rw [if_neg (show ¬ (r.result.groups = [] ∨ r.seenRules = true) from h)]

theorem directive_malformed (field value : List Char) :
    r.malformed.directive lowerCase field value = (r.directive lowerCase field value).malformed := by
  unfold directive
  split
  · rw [opened_malformed]
    split
    · rfl
    · rfl
  · split
    · split
      · next h => rw [if_pos (show r.result.groups = [] from h)]
      · next h => rw [if_neg (show ¬ r.result.groups = [] from h)]; rfl
    · split
      · split
        · next h => rw [if_pos (show r.result.groups = [] from h)]
        · next h => rw [if_neg (show ¬ r.result.groups = [] from h)]; rfl
      · split
        · split
          · next h =>
            rw [if_pos (show (isHttpText value && decide (r.result.sitemaps.length < 20)) = true from h)]
            rfl
          · next h =>
            rw [if_neg (show ¬ (isHttpText value && decide (r.result.sitemaps.length < 20)) = true from h)]
        · split
          · unfold signals
            dsimp only
            split
            · rfl
            · rfl
          · rfl

theorem line_malformed (line : List Char) : r.malformed.line lowerCase line = (r.line lowerCase line).malformed := by
  rw [line_eq rfl, line_eq rfl]
  split
  · rfl
  · split
    · rfl
    · exact directive_malformed _ _

theorem lines_malformed (lines : List (List Char)) : lines.foldl (RobotsReading.line lowerCase) r.malformed =
      (lines.foldl (RobotsReading.line lowerCase) r).malformed := by
  induction lines generalizing r with
  | nil => rfl
  | cons line lines ih => rw [foldl_cons, foldl_cons, line_malformed, ih]

theorem malformed_result_ne : r.malformed.result ≠ r.result := by
  intro h
  have := congrArg RobotsParseResult.malformedDirectives h
  exact absurd this (Nat.succ_ne_self _)

end RobotsReading

/-! ## Reading a file -/

namespace RobotsText

theorem robotsLines_append (h : '\n' ∉ line) (rest : List Char) : robotsLines (line ++ '\n' :: rest) =
      (if line.getLast? = some '\r' then line.dropLast else line) :: robotsLines rest := by
  have hne := splitOn_ne_nil '\n' rest
  unfold robotsLines
  dsimp only
  rw [splitOn_append_cons_self, splitOn_eq_singleton h, singleton_append,
    dropLast_cons_of_ne_nil hne, getLast?_cons_of_ne_nil hne]
  rfl

theorem robotsLines_body : ∀ {file : RobotsText}, file ≠ [] → file.NoCr →
    robotsLines file.body = file.map fun line => line.1.1
  | [], h, _ => absurd rfl h
  | [line], _, _ => by
    unfold robotsLines
    rw [body, splitOn_eq_singleton fun h => (line.1.2 _ h).1 rfl]
    rfl
  | (line, e) :: next :: rest, _, h => by
    obtain ⟨he, hrest⟩ := forall_mem_cons.1 h
    have hlines := robotsLines_body (cons_ne_nil next rest) hrest
    rw [body_cons line e (cons_ne_nil next rest), map_cons, ← hlines]
    have hlf : '\n' ∉ line.1 := fun hmem => (line.2 _ hmem).1 rfl
    cases e with
    | cr => exact absurd rfl he
    | lf =>
      rw [LineEnd.text, append_assoc, singleton_append, robotsLines_append hlf, if_neg]
      exact fun hlast => (line.2 _ (mem_of_getLast? hlast)).2 rfl
    | crlf =>
      have hsplit : line.1 ++ LineEnd.crlf.text ++ body (next :: rest) =
          (line.1 ++ ['\r']) ++ '\n' :: body (next :: rest) := by
        rw [LineEnd.text, append_assoc, append_assoc]
        rfl
      have hlf' : '\n' ∉ line.1 ++ ['\r'] := fun hmem => (mem_append.1 hmem).elim hlf (by decide)
      rw [hsplit, robotsLines_append hlf', if_pos getLast?_concat, dropLast_concat]

/-- Whether a line has the character that makes a file one that is not a text. -/
def hasNul (line : List Char) : Bool := line.any (·.toNat = 0)

theorem hasNul_body : ∀ file : RobotsText, hasNul file.body = file.any fun line => hasNul line.1.1
  | [] => rfl
  | [line] => by rw [body, any_cons, any_nil, Bool.or_false]
  | (line, e) :: next :: rest => by
    have he : hasNul e.text = false := by cases e <;> decide
    rw [body_cons line e (cons_ne_nil next rest), any_cons, ← hasNul_body (next :: rest), hasNul,
      any_append, any_append]
    show (hasNul line.1 || hasNul e.text || hasNul _) = _
    rw [he, Bool.or_false]

theorem parsed_eq {file : RobotsText} (h : file.NoCr) : file.parsed lowerCase =
    ((file.map fun line => line.1.1).foldl (RobotsReading.line lowerCase)
      (RobotsReading.start (file.any fun line => hasNul line.1.1))).result := by
  rw [parsed, parseRobots, String.toList_ofList, ← hasNul_body]
  cases file with
  | nil => rfl
  | cons line rest => rw [robotsLines_body (cons_ne_nil _ _) h]; rfl

end RobotsText

/-! ## What an edit leaves -/

variable {text : CommentText}

theorem comment_line (laws : CaseLaws lowerCase) {indent : Blanks}
    (hline : line = indent.1 ++ '#' :: text.1) (r : RobotsReading) :
    ((RobotsEdit.comment indent text).Harmless → r.line lowerCase line = r) ∧
      (¬ (RobotsEdit.comment indent text).Harmless → r.line lowerCase line = r.malformed) := by
  have hindent : ∀ c ∈ indent.1, isBlank c = true := fun c hc => isBlank_of_mem_blanks hc
  by_cases hwhole : indent.1 ≠ [] ∧ ∀ c ∈ text.1, endsLine c = false
  · refine ⟨fun _ => ?_, fun h => absurd (.inl hwhole) h⟩
    refine RobotsReading.line_of_nil ?_
    rw [hline, withoutComment_blanks_append hwhole.1 hindent hwhole.2]
    rfl
  · -- the comment stays in the line, and its sign comes first
    have hkept : trimmed (withoutComment line) = '#' :: trimmedEnd (withoutComment text.1) := by
      by_cases hnone : indent.1 = []
      · rw [hline, hnone, nil_append, withoutComment_sign, trimmed_cons (by decide)]
      · have hbroken : ¬ ∀ c ∈ text.1, endsLine c = false := fun h => hwhole ⟨hnone, h⟩
        have hsign : '#' ∉ indent.1 := fun hmem => (indent.2 _ hmem).elim (by decide) (by decide)
        rw [hline, withoutComment_append_of_broken hsign hbroken, trimmed_blanks_append hindent, withoutComment_sign,
          trimmed_cons (by decide)]
    have hcolon : (RobotsEdit.comment indent text).Harmless ↔ ':' ∈ trimmedEnd (withoutComment text.1) := by
      rw [mem_trimmedEnd (by decide), RobotsEdit.Harmless, or_iff_right hwhole, withoutComment_sign, mem_cons,
        or_iff_right (by decide)]
    rw [hcolon, RobotsReading.line_of_sign laws hkept]
    exact ⟨fun h => if_pos h, fun h => if_neg h⟩

theorem trailing_line {gap : Gap} (htext : ∀ c ∈ text.1, endsLine c = false)
    (hline : line' = line ++ (gap.1.1 ++ '#' :: text.1)) (r : RobotsReading) :
    r.line lowerCase line' = r.line lowerCase line := by
  have hgap : ∀ c ∈ gap.1.1, isBlank c = true ∧ endsLine c = false := by
    intro c hc
    rcases gap.1.2 c hc with rfl | rfl <;> exact ⟨rfl, rfl⟩
  obtain ⟨blanks, hblanks, heq⟩ := withoutComment_append gap.2 hgap htext line
  refine RobotsReading.line_congr ?_
  rw [hline, heq, trimmed_append_blanks hblanks]

namespace RobotsText

theorem hasNul_blanks (blanks : Blanks) : hasNul blanks.1 = false := by
  refine any_eq_false.2 fun c hc hnul => ?_
  rcases blanks.2 c hc with rfl | rfl <;> exact absurd (of_decide_eq_true hnul) (by decide)

theorem hasNul_append (line line' : List Char) : hasNul (line ++ line') = (hasNul line || hasNul line') :=
  any_append

theorem hasNul_comment (blanks : Blanks) (text : CommentText) : hasNul (blanks.1 ++ '#' :: text.1) = false := by
  rw [hasNul_append, hasNul_blanks, Bool.false_or]
  refine any_eq_false.2 fun c hc hnul => ?_
  rcases mem_cons.1 hc with rfl | hc
  · exact absurd (of_decide_eq_true hnul) (by decide)
  · exact (text.2 c hc).2 (of_decide_eq_true hnul)

theorem noCr_append_cons {before after : RobotsText} {line : LineText} {e : LineEnd} :
    NoCr (before ++ (line, e) :: after) ↔ NoCr (before ++ after) ∧ e ≠ .cr := by
  simp only [NoCr, forall_mem_append, forall_mem_cons]
  constructor
  · rintro ⟨hbefore, he, hafter⟩
    exact ⟨⟨hbefore, hafter⟩, he⟩
  · rintro ⟨⟨hbefore, hafter⟩, he⟩
    exact ⟨hbefore, he, hafter⟩

variable (lowerCase) in
theorem parsed_insert {before after : RobotsText} {new : LineText} {e : LineEnd} (h : NoCr (before ++ after))
    (he : e ≠ .cr) (hnul : hasNul new.1 = false) : ∃ r : RobotsReading, parsed lowerCase (before ++ after) =
        ((after.map fun line => line.1.1).foldl (RobotsReading.line lowerCase) r).result ∧
      parsed lowerCase (before ++ (new, e) :: after) =
        ((after.map fun line => line.1.1).foldl (RobotsReading.line lowerCase) (r.line lowerCase new.1)).result := by
  have hany : ((before ++ (new, e) :: after).any fun line => hasNul line.1.1) =
      (before ++ after).any fun line => hasNul line.1.1 := by
    rw [any_append, any_cons, hnul, Bool.false_or, any_append]
  refine ⟨(before.map fun line => line.1.1).foldl (RobotsReading.line lowerCase)
    (RobotsReading.start ((before ++ after).any fun line => hasNul line.1.1)), ?_, ?_⟩
  · rw [parsed_eq h, map_append, foldl_append]
  · rw [parsed_eq (noCr_append_cons.2 ⟨h, he⟩), hany, map_append, map_cons, foldl_append, foldl_cons]

theorem parsed_change {before after : RobotsText} {line line' : LineText} {e : LineEnd}
    (h : NoCr (before ++ (line, e) :: after)) (hnul : hasNul line'.1 = hasNul line.1)
    (hline : ∀ r : RobotsReading, r.line lowerCase line'.1 = r.line lowerCase line.1) :
    parsed lowerCase (before ++ (line', e) :: after) = parsed lowerCase (before ++ (line, e) :: after) := by
  have h' : NoCr (before ++ (line', e) :: after) := noCr_append_cons.2 (noCr_append_cons.1 h)
  rw [parsed_eq h, parsed_eq h']
  simp only [map_append, map_cons, foldl_append, foldl_cons, any_append, any_cons, hnul, hline]

end RobotsText

variable {edit : RobotsEdit} {file file' : RobotsText}

open RobotsText

/-- **A comment on a line of its own is not read exactly where it is harmless.** -/
theorem comment_unread_iff (laws : CaseLaws lowerCase) {indent : Blanks} (hfile : file.NoCr)
    (h : Edited lowerCase (.comment indent text) file file') :
    file'.parsed lowerCase = file.parsed lowerCase ↔ (RobotsEdit.comment indent text).Harmless := by
  cases h with
  | comment hnew he =>
    obtain ⟨r, hbefore, hafter⟩ := parsed_insert lowerCase hfile he (hnew ▸ hasNul_comment indent text)
    obtain ⟨hharmless, hmalformed⟩ := comment_line laws hnew r
    rw [hbefore, hafter]
    by_cases h : (RobotsEdit.comment indent text).Harmless
    · exact iff_of_true (by rw [hharmless h]) h
    · refine iff_of_false (fun hsame => ?_) h
      rw [hmalformed h, RobotsReading.lines_malformed] at hsame
      exact RobotsReading.malformed_result_ne hsame

theorem Edited.parsed (laws : CaseLaws lowerCase) (hfile : file.NoCr) (hharmless : edit.Harmless)
    (h : Edited lowerCase edit file file') : file'.NoCr ∧ file'.parsed lowerCase = file.parsed lowerCase := by
  cases h with
  | comment hnew he =>
    exact ⟨noCr_append_cons.2 ⟨hfile, he⟩, (comment_unread_iff laws hfile (.comment hnew he)).2 hharmless⟩
  | @blank before after new e blanks hnew he =>
    obtain ⟨r, hbefore, hafter⟩ := parsed_insert lowerCase hfile he (hnew ▸ hasNul_blanks blanks)
    have hnothing : trimmed (withoutComment new.1) = [] := trimmed_blanks fun c hc =>
      isBlank_of_mem_blanks (hnew ▸ (withoutComment_begins new.1).subset hc)
    exact ⟨noCr_append_cons.2 ⟨hfile, he⟩, by rw [hbefore, hafter, RobotsReading.line_of_nil hnothing]⟩
  | @trailing before after line line' e gap text hline =>
    have hnul : hasNul line'.1 = hasNul line.1 := by rw [hline, hasNul_append, hasNul_comment, Bool.or_false]
    exact ⟨noCr_append_cons.2 (noCr_append_cons.1 hfile), parsed_change hfile hnul (trailing_line hharmless hline)⟩
  | @fieldCase before after line line' e hsame =>
    have hnul : hasNul line'.1 = hasNul line.1 := by
      have hmap := hsame.map fun c c' hc =>
        laws.same (p := fun c => c.toNat = 0) (fun d hd => .inr (.inr (.inr (of_decide_eq_true hd)))) hc
      simpa only [any_map, Function.id_comp, hasNul] using congrArg (List.any · id) hmap.symm
    exact ⟨noCr_append_cons.2 (noCr_append_cons.1 hfile),
      parsed_change hfile hnul fun r => (RobotsReading.line_same laws hsame).symm⟩
  | @lineEnd before after line e e' =>
    have hfile' : NoCr (before ++ (line, e') :: after) :=
      noCr_append_cons.2 ⟨(noCr_append_cons.1 hfile).1, hharmless⟩
    refine ⟨hfile', ?_⟩
    rw [parsed_eq hfile, parsed_eq hfile']
    simp only [map_append, map_cons, any_append, any_cons]

/-! ## Edits that are read -/

def lineOf (text : List Char) (h : text.all (fun c => c ≠ '\n' ∧ c ≠ '\r') = true) : LineText :=
  ⟨text, fun c hc => of_decide_eq_true (List.all_eq_true.1 h c hc)⟩

/-- Two lines without colons are malformed; joined to one they are one malformed line. -/
def twoWords (e : LineEnd) : RobotsText := [(lineOf ['x'] (by decide), e), (lineOf ['y'] (by decide), .lf)]

theorem twoWords_read : (twoWords .cr).parsed lowerCase ≠ (twoWords .lf).parsed lowerCase := by
  intro h
  have hcr : ((twoWords .cr).parsed lowerCase).malformedDirectives = 1 := by rfl
  have hlf : ((twoWords .lf).parsed lowerCase).malformedDirectives = 2 := by rfl
  rw [h, hlf] at hcr
  cases hcr

def agentField : List Char := "User-agent".toList

theorem agentField_lower (laws : CaseLaws lowerCase) : lowerCase (trimmed agentField) = "user-agent".toList := by
  have hname : fieldNames.head? = some "user-agent".toList := rfl
  have hascii : ("user-agent".toList.all fun c => c.toNat < 128) = true := by decide +kernel
  have hascii' : (agentField.all fun c => c.toNat < 128) = true := by decide +kernel
  have htrimmed : trimmed agentField = agentField := by decide +kernel
  rw [htrimmed, laws.text_eq _ _ fun c hc => of_decide_eq_true (all_eq_true.1 hascii c hc)]
  have hletters : agentField.flatMap (fun c => lowerCase [c]) = agentField.flatMap fun c => [c.toLower] :=
    flatMap_congr fun c hc => laws.ascii c (of_decide_eq_true (all_eq_true.1 hascii' c hc))
  rw [hletters]
  decide +kernel

theorem agent_line (laws : CaseLaws lowerCase) {fatal : Bool} {value : List Char}
    (h : trimmed (withoutComment line) = agentField ++ ':' :: value) :
    ((RobotsReading.start fatal).line lowerCase line).result.malformedDirectives =
      if trimmed value = [] then 1 else 0 := by
  have hno : (agentField.all fun c => c ≠ ':') = true := by decide +kernel
  have hkeep := all_eq_true.1 hno
  have hfield : (agentField ++ ':' :: value).takeWhile (· ≠ ':') = agentField := by
    rw [takeWhile_append_of_pos hkeep, takeWhile_cons_of_neg (by decide), append_nil]
  have hrest : (agentField ++ ':' :: value).dropWhile (· ≠ ':') = ':' :: value := by
    rw [dropWhile_append_of_pos hkeep, dropWhile_cons_of_neg (by decide)]
  rw [RobotsReading.line_eq h, hfield, hrest, if_neg (append_ne_nil_of_right_ne_nil _ (cons_ne_nil _ _)),
    if_neg, agentField_lower laws, RobotsReading.directive, if_pos rfl]
  · show RobotsParseResult.malformedDirectives (RobotsReading.result (if trimmed value = [] then _ else _)) = _
    split <;> rfl
  · rintro (hnil | hnil)
    · exact absurd hnil (by decide)
    · cases hnil

theorem noCr_singleton (line : LineText) : NoCr [(line, .lf)] := fun other hother => by
  rw [mem_singleton.1 hother]
  exact LineEnd.noConfusion

theorem agentField_read (laws : CaseLaws lowerCase) {gap : Gap}
    (htext : ¬ ∀ c ∈ text.1, endsLine c = false) {line line' : LineText} (hline : line.1 = agentField ++ [':'])
    (hline' : line'.1 = agentField ++ [':'] ++ (gap.1.1 ++ '#' :: text.1)) :
    parsed lowerCase [(line', .lf)] ≠ parsed lowerCase [(line, .lf)] := by
  intro h
  have hgap : ∀ c ∈ gap.1.1, isBlank c = true := fun c hc => isBlank_of_mem_blanks hc
  have hsign : '#' ∉ agentField ++ [':'] ++ gap.1.1 := by
    intro hmem
    rcases mem_append.1 hmem with hmem | hmem
    · exact absurd hmem (by decide +kernel)
    · exact (gap.1.2 _ hmem).elim (by decide) (by decide)
  have hkept : trimmed (withoutComment line.1) = agentField ++ ':' :: [] := by
    rw [hline]
    decide +kernel
  have hend : ∀ before rest : List Char, trimmedEnd (before ++ '#' :: rest) = before ++ '#' :: trimmedEnd rest := by
    intro before rest
    induction before with
    | nil => rw [nil_append, trimmedEnd_cons, if_neg fun h => absurd h.2 (by decide)]; rfl
    | cons c before ih =>
      rw [cons_append, trimmedEnd_cons, ih, if_neg fun h =>
        absurd h.1 (append_ne_nil_of_right_ne_nil _ (cons_ne_nil _ _))]
      rfl
  have hkept' : trimmed (withoutComment line'.1) =
      agentField ++ ':' :: (gap.1.1 ++ '#' :: trimmedEnd (withoutComment text.1)) := by
    have hdrop : (agentField ++ [':'] ++ gap.1.1 ++ '#' :: withoutComment text.1).dropWhile isBlank =
        agentField ++ [':'] ++ gap.1.1 ++ '#' :: withoutComment text.1 :=
      dropWhile_cons_of_neg (by decide)
    rw [hline', ← append_assoc, withoutComment_append_of_broken hsign htext, withoutComment_sign, trimmed_eq,
      hdrop, hend, append_assoc, append_assoc]
    rfl
  have hvalue : trimmed (gap.1.1 ++ '#' :: trimmedEnd (withoutComment text.1)) ≠ [] := by
    rw [trimmed_blanks_append hgap, trimmed_cons (by decide)]
    exact cons_ne_nil _ _
  rw [parsed_eq (noCr_singleton _), parsed_eq (noCr_singleton _)] at h
  have hcount := congrArg RobotsParseResult.malformedDirectives h
  simp only [map_cons, map_nil, foldl_cons, foldl_nil] at hcount
  rw [agent_line laws hkept, agent_line laws hkept', if_neg hvalue] at hcount
  exact absurd hcount (by decide)

/-- A line with a comment at its end. -/
def commented (line : LineText) (blanks : Blanks) (text : CommentText) : LineText :=
  ⟨line.1 ++ (blanks.1 ++ '#' :: text.1), fun c hc => by
    rcases List.mem_append.1 hc with hline | hc
    · exact line.2 c hline
    rcases List.mem_append.1 hc with hblank | hc
    · rcases blanks.2 c hblank with rfl | rfl <;> decide
    · rcases List.mem_cons.1 hc with rfl | hc
      · decide
      · exact (text.2 c hc).1⟩

theorem harmless_of_unread (laws : CaseLaws lowerCase) (edit : RobotsEdit)
    (h : ∀ file file' : RobotsText, file.NoCr → Edited lowerCase edit file file' →
      file'.parsed lowerCase = file.parsed lowerCase) : edit.Harmless := by
  cases edit with
  | comment indent text =>
    have hfile : NoCr [] := fun _ hline => absurd hline not_mem_nil
    have hedited : Edited lowerCase (.comment indent text) ([] ++ [])
        ([] ++ (commented (lineOf [] rfl) indent text, .lf) :: []) := .comment rfl LineEnd.noConfusion
    exact (comment_unread_iff laws hfile hedited).1 (h _ _ hfile hedited)
  | trailing gap text =>
    by_contra hbroken
    let field : LineText := lineOf (agentField ++ [':']) (by decide +kernel)
    have hedited : Edited lowerCase (.trailing gap text) ([] ++ (field, .lf) :: [])
        ([] ++ (commented field gap.1 text, .lf) :: []) := .trailing rfl
    exact agentField_read laws hbroken rfl rfl (h _ _ (noCr_singleton field) hedited)
  | blank => exact trivial
  | fieldCase => exact trivial
  | lineEnd e =>
    rintro rfl
    have hfile : (twoWords .lf).NoCr :=
      forall_mem_cons.2 ⟨LineEnd.noConfusion, noCr_singleton (lineOf ['y'] (by decide))⟩
    have hedited : Edited lowerCase (.lineEnd .cr) ([] ++ twoWords .lf) ([] ++ twoWords .cr) := .lineEnd .cr
    exact twoWords_read (h _ _ hfile hedited)

/-- **What of an edit is not read.** In every file whose lines end in line feeds, with or without a carriage return
before: an edit leaves what the file is read to say, wherever it is made, exactly where it is harmless. A comment on a
line of its own is read in every file, or in none. Harmless edits may follow one another. -/
theorem edit_unread_iff (laws : CaseLaws lowerCase) (edit : RobotsEdit) :
    ((∀ file file' : RobotsText, file.NoCr → Edited lowerCase edit file file' →
      file'.parsed lowerCase = file.parsed lowerCase) ↔ edit.Harmless) ∧
    (∀ (indent : Blanks) (text : CommentText) (file file' : RobotsText), edit = .comment indent text → file.NoCr →
      Edited lowerCase edit file file' → (file'.parsed lowerCase = file.parsed lowerCase ↔ edit.Harmless)) ∧
    ∀ file file' : RobotsText, file.NoCr →
      Relation.ReflTransGen (fun file file' => ∃ edit : RobotsEdit, edit.Harmless ∧ Edited lowerCase edit file file')
        file file' → file'.parsed lowerCase = file.parsed lowerCase := by
  refine ⟨⟨harmless_of_unread laws edit, fun hharmless file file' hfile hedited =>
    (hedited.parsed laws hfile hharmless).2⟩, ?_, ?_⟩
  · rintro indent text file file' rfl hfile hedited
    exact comment_unread_iff laws hfile hedited
  · intro file file' hfile hruns
    -- the line ends stay as they are, so the next edit meets such a file again
    have hboth : file'.NoCr ∧ file'.parsed lowerCase = file.parsed lowerCase := by
      induction hruns with
      | refl => exact ⟨hfile, rfl⟩
      | tail _ hedit ih =>
        obtain ⟨edit, hharmless, hedited⟩ := hedit
        obtain ⟨hnoCr, hsame⟩ := hedited.parsed laws ih.1 hharmless
        exact ⟨hnoCr, hsame.trans ih.2⟩
    exact hboth.2

theorem toLower_cases (c : Char) : c.toLower = c ∨ 65 ≤ c.toNat ∧ 97 ≤ c.toLower.toNat ∧ c.toLower.toNat ≤ 122 := by
  unfold Char.toLower
  split
  · next hupper =>
    have hlow := UInt32.le_iff_toNat_le.1 hupper.1
    have hhigh := UInt32.le_iff_toNat_le.1 hupper.2
    have hval : (c.val + ('a'.val - 'A'.val)).toNat = (c.val.toNat + 32) % 2 ^ 32 := UInt32.toNat_add ..
    have hends : 'A'.val.toNat = 65 ∧ 'Z'.val.toNat = 90 := by decide
    refine .inr ⟨?_, ?_⟩
    · show 65 ≤ c.val.toNat
      omega
    · show 97 ≤ (c.val + ('a'.val - 'A'.val)).toNat ∧ (c.val + ('a'.val - 'A'.val)).toNat ≤ 122
      omega
  · exact .inl rfl

theorem eq_of_toLower_eq (hc : c.toNat < 65 ∨ 122 < c.toNat) (h : c.toLower = c'.toLower) : c = c' := by
  have hself : c.toLower = c := by
    rcases toLower_cases c with hself | ⟨hlow, hlow', hhigh⟩
    · exact hself
    · unfold Char.toLower at hlow' hhigh ⊢
      split
      · next hupper =>
        have hhigh := UInt32.le_iff_toNat_le.1 hupper.2
        have hends : 'Z'.val.toNat = 90 := by decide
        have : c.val.toNat = c.toNat := rfl
        omega
      · rfl
  rw [hself] at h
  rcases toLower_cases c' with hself' | ⟨-, hlow, hhigh⟩
  · rw [h, hself']
  · rw [← h] at hlow hhigh
    omega

theorem bounds_of_isBlank (h : isBlank c = true) : c.toNat < 65 ∨ 122 < c.toNat := by
  rw [isBlank, decide_eq_true_eq] at h
  simp only [mem_cons, not_mem_nil, or_false] at h
  omega

theorem lowered_laws : CaseLaws lowered where
  ascii _ _ := rfl
  uncased c c' hc h := by
    refine eq_of_toLower_eq ?_ (List.cons.inj h).1
    rcases hc with hblank | rfl | rfl | hzero
    · exact bounds_of_isBlank hblank
    · decide
    · decide
    · exact .inl (by omega)
  text_eq text name _ := by
    have hflat : text.flatMap (fun c => lowered [c]) = lowered text := by
      induction text with
      | nil => rfl
      | cons c text ih => rw [flatMap_cons, ih]; rfl
    rw [hflat]

/-- Two lines, of which the first ends in a line feed or in a carriage return and one. -/
def twoFields (e : LineEnd) : RobotsText :=
  [(lineOf "User-agent: *".toList (by decide +kernel), e), (lineOf "Disallow: /".toList (by decide +kernel), .lf)]

/-- A carriage return before a line feed is not read. -/
theorem crlf_unread : (twoFields .crlf).parsed lowered = (twoFields .lf).parsed lowered :=
  have hfile : (twoFields .lf).NoCr := List.forall_mem_cons.2 ⟨LineEnd.noConfusion, noCr_singleton _⟩
  have hedited : Edited lowered (.lineEnd .crlf) ([] ++ twoFields .lf) ([] ++ twoFields .crlf) := .lineEnd .crlf
  (edit_unread_iff lowered_laws (.lineEnd .crlf)).1.2 LineEnd.noConfusion _ _ hfile hedited

/-- A comment on a line of its own is counted as malformed. -/
theorem comment_is_malformed :
    Edited lowered (.comment ⟨[], fun _ hc => absurd hc List.not_mem_nil⟩
        ⟨" all of it".toList, fun c hc =>
          have hplain : (" all of it".toList.all fun c => (c ≠ '\n' ∧ c ≠ '\r') ∧ c.toNat ≠ 0) = true := by
            decide +kernel
          of_decide_eq_true (List.all_eq_true.1 hplain c hc)⟩)
      (twoFields .lf) ((lineOf "# all of it".toList (by decide +kernel), .lf) :: twoFields .lf) ∧
    (parseRobots lowered "User-agent: *\nDisallow: /").malformedDirectives = 0 ∧
    (parseRobots lowered "# all of it\nUser-agent: *\nDisallow: /").malformedDirectives = 1 := by
  refine ⟨?_, by decide +kernel, by decide +kernel⟩
  exact @Edited.comment lowered [] (twoFields .lf) _ _ _ _ rfl LineEnd.noConfusion

end

end Coinslot
