import Mathlib.Data.List.Infix

/-!
# Texts as JSON writes them

How a text is quoted in JSON: the quotation mark, the backslash and the control characters are escaped, every
other character stands for itself. What is quoted can be told from what follows it (`jsonQuoted_append`), so that
a document made of quoted texts says which they were.
-/

namespace JsonText

open List

/-- The escapes of the control characters, in their order. -/
def controlEscapes : List (List Char) :=
  ["\\u0000", "\\u0001", "\\u0002", "\\u0003", "\\u0004", "\\u0005", "\\u0006", "\\u0007", "\\b", "\\t", "\\n",
    "\\u000b", "\\f", "\\r", "\\u000e", "\\u000f", "\\u0010", "\\u0011", "\\u0012", "\\u0013", "\\u0014",
    "\\u0015", "\\u0016", "\\u0017", "\\u0018", "\\u0019", "\\u001a", "\\u001b", "\\u001c", "\\u001d", "\\u001e",
    "\\u001f"].map String.toList

/-- A character between quotation marks. -/
def escaped (c : Char) : List Char :=
  if c.toNat < 32 then controlEscapes.getD c.toNat []
  else if c = '"' then ['\\', '"']
  else if c = '\\' then ['\\', '\\']
  else [c]

def jsonQuoted (text : String) : List Char := '"' :: (text.toList.flatMap escaped ++ ['"'])

/-! ## What is quoted can be told from what follows it -/

section
variable {α : Type} {code : α → List Char} {stop : Char}

/-- A code by which no letter's word is the beginning of another's, and none begins with the stop. -/
structure Instantaneous (code : α → List Char) (stop : Char) : Prop where
  apart : ∀ a b, code a <+: code b → a = b
  starts : ∀ a, ∃ c rest, code a = c :: rest ∧ c ≠ stop

variable {r r' : List Char}

theorem prefix_or_prefix {as bs : List Char} (h : as ++ r = bs ++ r') :
    as <+: bs ∨ bs <+: as := by
  rcases append_eq_append_iff.1 h with ⟨more, hb, -⟩ | ⟨more, ha, -⟩
  · exact .inl ⟨more, hb.symm⟩
  · exact .inr ⟨more, ha.symm⟩

/-- **A message ends at its stop.** By induction on the message. -/
theorem Instantaneous.unique (h : Instantaneous code stop) {as bs : List α}
    (heq : as.flatMap code ++ stop :: r = bs.flatMap code ++ stop :: r') : as = bs ∧ r = r' := by
  induction as generalizing bs with
  | nil =>
    cases bs with
    | nil => exact ⟨rfl, (List.cons.inj heq).2⟩
    | cons b bs =>
      obtain ⟨c, rest, hc, hne⟩ := h.starts b
      rw [flatMap_nil, flatMap_cons, hc] at heq
      exact absurd (List.cons.inj heq).1.symm hne
  | cons a as ih =>
    cases bs with
    | nil =>
      obtain ⟨c, rest, hc, hne⟩ := h.starts a
      rw [flatMap_nil, flatMap_cons, hc] at heq
      exact absurd (List.cons.inj heq).1 hne
    | cons b bs =>
      rw [flatMap_cons, flatMap_cons, append_assoc, append_assoc] at heq
      have hab : a = b := by
        rcases prefix_or_prefix heq with hp | hp
        · exact h.apart a b hp
        · exact (h.apart b a hp).symm
      subst hab
      obtain ⟨rfl, hr⟩ := ih (append_cancel_left heq)
      exact ⟨rfl, hr⟩

end

/-- The words of the letters that do not stand for themselves. -/
def escapes : List (List Char) := controlEscapes ++ [['\\', '"'], ['\\', '\\']]

def escapedAs (i : Nat) : Char := if i < 32 then Char.ofNat i else if i = 32 then '"' else '\\'

theorem escapes_apart : (escapes.zipIdx.all fun e => escapes.zipIdx.all fun f =>
    !e.1.isPrefixOf f.1 || e.2 == f.2) = true := by
  decide +kernel

theorem escapes_start : (escapes.all fun e => e.head? == some '\\') = true := by decide +kernel

theorem escaped_cases (c : Char) : (∃ i, (escaped c, i) ∈ escapes.zipIdx ∧ c = escapedAs i) ∨
      (escaped c = [c] ∧ c ≠ '\\' ∧ c ≠ '"') := by
  unfold escaped
  split
  · next hlt =>
    left
    refine ⟨c.toNat, ?_, ?_⟩
    · have hlen : c.toNat < controlEscapes.length := hlt
      rw [mem_zipIdx_iff_getElem?, escapes, getElem?_append_left hlen,
        getD_eq_getElem?_getD, getElem?_eq_getElem hlen, Option.getD_some]
    · rw [escapedAs, if_pos hlt, Char.ofNat_toNat]
  · split
    · next hq => exact .inl ⟨32, by rw [mem_zipIdx_iff_getElem?]; rfl, hq⟩
    · next hq =>
      split
      · next hb => exact .inl ⟨33, by rw [mem_zipIdx_iff_getElem?]; rfl, hb⟩
      · next hb => exact .inr ⟨rfl, hb, hq⟩

theorem head_of_escape {e : List Char} {i : Nat} (h : (e, i) ∈ escapes.zipIdx) : ∃ rest, e = '\\' :: rest := by
  have hin : e ∈ escapes := by
    rw [mem_zipIdx_iff_getElem?] at h
    exact mem_of_getElem? h
  have hhead := all_eq_true.1 escapes_start e hin
  cases e with
  | nil => cases hhead
  | cons c rest => exact ⟨rest, by rw [Option.some.inj (eq_of_beq hhead)]⟩

theorem instantaneous_escaped : Instantaneous escaped '"' where
  apart a b hp := by
    rcases escaped_cases a with ⟨i, hi, ha⟩ | ⟨ha, hna, -⟩
    · rcases escaped_cases b with ⟨j, hj, hb⟩ | ⟨hb, hnb, -⟩
      · have hall := all_eq_true.1 (all_eq_true.1 escapes_apart _ hi) _ hj
        have hij : i = j := by simpa [ isPrefixOf_iff_prefix.2 hp] using hall
        rw [ha, hb, hij]
      · obtain ⟨rest, hrest⟩ := head_of_escape hi
        rw [hb, hrest, cons_prefix_cons] at hp
        exact absurd hp.1.symm hnb
    · rcases escaped_cases b with ⟨j, hj, hb⟩ | ⟨hb, -, -⟩
      · obtain ⟨rest, hrest⟩ := head_of_escape hj
        rw [ha, hrest, cons_prefix_cons] at hp
        exact absurd hp.1 hna
      · rw [ha, hb, cons_prefix_cons] at hp
        exact hp.1
  starts a := by
    rcases escaped_cases a with ⟨i, hi, -⟩ | ⟨ha, -, hq⟩
    · obtain ⟨rest, hrest⟩ := head_of_escape hi
      exact ⟨'\\', rest, hrest, by decide⟩
    · exact ⟨a, [], ha, hq⟩

/-- **What is quoted can be told from what follows it.** -/
theorem jsonQuoted_append {s t : String} {r r' : List Char}
    (h : jsonQuoted s ++ r = jsonQuoted t ++ r') : s = t ∧ r = r' := by
  unfold jsonQuoted at h
  rw [cons_append, cons_append, append_assoc, append_assoc] at h
  obtain ⟨hs, hr⟩ := instantaneous_escaped.unique (List.cons.inj h).2
  exact ⟨String.toList_inj.1 hs, hr⟩

end JsonText
