import Crafting.Proofs.FormatCode

/-!
# Codes that stay

A code stays in a text only where opening brackets before it, on its line and not yet closed, make it the end of what
they enclose. So the text between two codes can keep the second one, if it has such brackets.
-/

namespace Crafting.FormatCode

/-! ## What keeps a code -/

/-- Opening brackets and what follows them, with no line end and no closing brackets. The second of the two may be the
first of those behind. -/
structure Shadow (gap : List Char) : Prop where
  ne_nil : gap ≠ []
  opening : ['[', '['] <+: gap ++ ['[', '[']
  newline : '\n' ∉ gap
  closing : ¬[']', ']'] <:+: gap

/-- Somewhere the code has opening brackets before it on its line that no brackets have closed. -/
def Shadowed (code : Code) (text : List Char) : Prop :=
  ∃ before gap after, text = before ++ (gap ++ (code.text.toList ++ after)) ∧ Shadow gap

theorem Shadowed.append_left {code : Code} {text : List Char} (h : Shadowed code text) (front : List Char) :
    Shadowed code (front ++ text) := by
  obtain ⟨before, gap, after, rfl, hgap⟩ := h
  exact ⟨front ++ before, gap, after, by rw [List.append_assoc], hgap⟩

theorem Shadow.head?_append {gap : List Char} (h : Shadow gap) (rest : List Char) : (gap ++ rest).head? = some '[' := by
  obtain ⟨c, gap, rfl⟩ := List.exists_cons_of_ne_nil h.ne_nil
  obtain ⟨rfl, -⟩ := List.cons_prefix_cons.1 h.opening
  rfl

/-! ## Where brackets end -/

/-- Two texts that could stand in brackets are the same if both are what stands before the first closing ones. -/
theorem Enclosable.unique {body other after behind : List Char} (hbody : Enclosable body) (hother : Enclosable other)
    (h : body ++ ']' :: ']' :: after = other ++ ']' :: ']' :: behind) : body = other := by
  have hread : takeBody? (body ++ ']' :: ']' :: after) = some (body, after) := takeBody?_eq_some_iff.2 ⟨rfl, hbody⟩
  have hsame : takeBody? (body ++ ']' :: ']' :: after) = some (other, behind) := takeBody?_eq_some_iff.2 ⟨h, hother⟩
  rw [hread] at hsame
  cases hsame
  rfl

/-- Something in brackets, and a stretch that begins with an opening bracket and goes on to the first closing ones: the
stretch lies behind, or it reaches to the end of what the brackets enclose. -/
theorem behind_or_ending {body stretch tail before after : List Char} (hbody : Enclosable body)
    (hstretch : Enclosable stretch) (hhead : stretch.head? = some '[')
    (h : bracketed body ++ tail = before ++ (stretch ++ ']' :: ']' :: after)) :
    (∃ rest, tail = rest ++ (stretch ++ ']' :: ']' :: after)) ∨
      '[' :: '[' :: body = before ++ stretch := by
  obtain ⟨inner, rfl⟩ := List.head?_eq_some_iff.1 hhead
  rcases List.append_eq_append_iff.1 h with ⟨rest, -, htail⟩ | ⟨part, hpart, hrest⟩
  · exact .inl ⟨rest, htail⟩
  · have hclosed : ('[' :: '[' :: body) ++ [']', ']'] = before ++ part := hpart
    rcases List.append_eq_append_iff.1 hclosed with ⟨front, -, hend⟩ | ⟨front, hfront, rfl⟩
    · -- The stretch would begin among the closing brackets, unless it begins behind them.
      cases part with
      | nil => exact .inl ⟨[], hrest.symm⟩
      | cons c part =>
          obtain ⟨rfl, -⟩ := List.cons.inj hrest
          have hclosing : '[' ∈ [']', ']'] := hend ▸ List.mem_append_right front List.mem_cons_self
          exact absurd hclosing (by decide)
    · rw [List.append_assoc] at hrest
      have hpiece : Enclosable front := Enclosable.of_append (hfront ▸ hbody.opened)
      exact .inr (hstretch.unique hpiece hrest ▸ hfront)

theorem closing_cons_of_ne {c : Char} (hc : c ≠ ']') {text : List Char} :
    [']', ']'] <:+: c :: text ↔ [']', ']'] <:+: text := by
  rw [List.infix_cons_iff, or_iff_right]
  exact fun h => hc (List.cons_prefix_cons.1 h).1.symm

/-- Another character between two texts keeps closing brackets from arising where they meet. -/
theorem closing_append_cons {before after : List Char} {c : Char} (hc : c ≠ ']') :
    [']', ']'] <:+: before ++ c :: after ↔ [']', ']'] <:+: before ∨ [']', ']'] <:+: after := by
  induction before with
  | nil => simp [closing_cons_of_ne hc]
  | cons d before ih =>
      have hhead : [']', ']'] <+: d :: (before ++ c :: after) ↔ [']', ']'] <+: d :: before := by
        cases before with
        | nil => simp [List.cons_prefix_cons, hc.symm]
        | cons => simp [List.cons_prefix_cons]
      rw [List.cons_append, List.infix_cons_iff, hhead, ih, List.infix_cons_iff, or_assoc]

theorem Code.text_append (code : Code) (after : List Char) :
    code.text.toList ++ after = '[' :: '[' :: code.word.toList ++ ']' :: ']' :: after := by
  rw [code.toList_text, bracketed_append]

/-- Brackets before a code that are not closed before it enclose it up to its own closing ones. -/
theorem Shadow.enclosable {gap : List Char} (h : Shadow gap) (code : Code) :
    Enclosable (gap ++ '[' :: '[' :: code.word.toList) := by
  have hcode := code.enclosable.opened
  refine ⟨fun hmem => (List.mem_append.1 hmem).elim h.newline hcode.newline, fun hclosing => ?_⟩
  rw [List.append_assoc, List.cons_append, closing_append_cons (by decide)] at hclosing
  exact hclosing.elim h.closing fun hrest => hcode.closing (List.infix_cons hrest)

theorem Shadow.exists_body {gap : List Char} (h : Shadow gap) (code : Code) :
    ∃ body, gap ++ '[' :: '[' :: code.word.toList = '[' :: '[' :: body ∧ Enclosable body := by
  have hlonger : gap ++ ['[', '['] <+: gap ++ '[' :: '[' :: code.word.toList := ⟨code.word.toList, by simp⟩
  obtain ⟨body, hbody⟩ := h.opening.trans hlonger
  have henclosable : Enclosable (['[', '['] ++ body) := hbody ▸ h.enclosable code
  exact ⟨body, hbody.symm, henclosable.of_append⟩

/-- What stands in brackets and ends in opening ones and a code's word is itself no code. -/
theorem not_isWord_of_opening {body before : List Char} {code : Code} (hbefore : before ≠ [])
    (h : '[' :: '[' :: body = before ++ '[' :: '[' :: code.word.toList) : isWord body = false := by
  refine Bool.eq_false_iff.2 fun hword => ?_
  obtain ⟨other, rfl⟩ := isWord_iff.1 hword
  have hnone : ∀ c ∈ other.word.toList, c ≠ '[' := fun c hc => (other.letters c hc).1
  obtain ⟨first, before, rfl⟩ := List.exists_cons_of_ne_nil hbefore
  obtain ⟨-, hsecond⟩ := List.cons.inj h
  cases before with
  | nil => exact hnone '[' ((List.cons.inj hsecond).2 ▸ List.mem_cons_self) rfl
  | cons second before =>
      have hword := (List.cons.inj hsecond).2
      exact hnone '[' (hword ▸ List.mem_append_right before List.mem_cons_self) rfl

/-- A code that ends what brackets enclose, and is not all of it, has their opening ones before it. -/
theorem shadow_of_ending {code : Code} {body before : List Char} (hbody : Enclosable body)
    (hword : isWord body = false) (h : '[' :: '[' :: body = before ++ '[' :: '[' :: code.word.toList) :
    Shadow before := by
  have hopened := hbody.opened
  have hpart : before <+: '[' :: '[' :: body := h ▸ List.prefix_append before _
  constructor
  case ne_nil =>
    rintro rfl
    obtain rfl : body = code.word.toList := by simpa using h
    rw [isWord_iff.2 ⟨code, rfl⟩] at hword
    cases hword
  case opening =>
    have hlonger : before ++ ['[', '['] <+: '[' :: '[' :: body := h ▸ ⟨code.word.toList, by simp⟩
    exact List.prefix_of_prefix_length_le ⟨body, rfl⟩ hlonger (by simp)
  case newline => exact fun hmem => hopened.newline (hpart.subset hmem)
  case closing => exact fun hclosing => hopened.closing (hclosing.trans (hpart.trans (List.prefix_append _ _)).isInfix)

/-! ## Codes that stay -/

theorem shadowed_of_left {code : Code} {text : List Char} (h : code.text.toList <:+: strip text) :
    Shadowed code text := by
  induction text using piece_induction with
  | nil =>
      rw [strip_nil, List.infix_nil, code.toList_text] at h
      cases h
  | bracketed body after hbody ih =>
      rw [strip_bracketed hbody] at h
      cases hword : isWord body with
      | true =>
          rw [hword, if_pos rfl, List.nil_append] at h
          exact (ih h).append_left _
      | false =>
          rw [hword, if_neg Bool.false_ne_true] at h
          obtain ⟨before, behind, hsplit⟩ := h
          rw [List.append_assoc, code.text_append] at hsplit
          rcases behind_or_ending hbody code.enclosable.opened rfl hsplit.symm with ⟨rest, hrest⟩ | hopened
          · refine (ih ⟨rest, behind, ?_⟩).append_left _
            rw [List.append_assoc, code.text_append, hrest]
          · refine ⟨[], before, after, ?_, shadow_of_ending hbody hword hopened⟩
            rw [bracketed_append, hopened, code.text_append, List.nil_append, List.append_assoc]
  | character c rest hc ih =>
      rw [strip_cons hc] at h
      rcases List.infix_cons_iff.1 h with ⟨behind, hbegins⟩ | hrest
      · -- Taking codes out lets nothing in brackets begin here.
        have hnone := bracketed?_cons_strip hc
        rw [← hbegins, code.toList_text, bracketed?_eq_some_iff.2 ⟨rfl, code.enclosable⟩] at hnone
        cases hnone
      · exact (ih hrest).append_left [c]

theorem left_of_shadowed {code : Code} {text : List Char} (h : Shadowed code text) :
    code.text.toList <:+: strip text := by
  induction text using piece_induction with
  | nil =>
      obtain ⟨before, gap, after, hsplit, hgap⟩ := h
      simp [hgap.ne_nil] at hsplit
  | bracketed body after hbody ih =>
      obtain ⟨before, gap, behind, hsplit, hgap⟩ := h
      rw [code.text_append, ← List.append_assoc gap] at hsplit
      rw [strip_bracketed hbody]
      have hhead := hgap.head?_append ('[' :: '[' :: code.word.toList)
      rcases behind_or_ending hbody (hgap.enclosable code) hhead hsplit with ⟨rest, hrest⟩ | hopened
      · have hshadowed : Shadowed code after := by
          refine ⟨rest, gap, behind, ?_, hgap⟩
          rw [hrest, code.text_append, List.append_assoc]
        exact (ih hshadowed).trans (List.suffix_append _ _).isInfix
      · -- The code ends what these brackets enclose, so they enclose more than a code and stay.
        rw [← List.append_assoc] at hopened
        have hmore : before ++ gap ≠ [] := List.append_ne_nil_of_right_ne_nil before hgap.ne_nil
        rw [not_isWord_of_opening hmore hopened, if_neg Bool.false_ne_true, bracketed_append, hopened]
        refine ⟨before ++ gap, strip after, ?_⟩
        simp only [code.text_append, List.append_assoc]
  | character c rest hc ih =>
      obtain ⟨before, gap, behind, hsplit, hgap⟩ := h
      rw [strip_cons hc]
      cases before with
      | nil =>
          -- With the opening brackets here, something in brackets would begin here.
          obtain ⟨body, hopened, hbody⟩ := hgap.exists_body code
          have htext : c :: rest = bracketed body ++ behind := by
            rw [hsplit, code.text_append, List.nil_append, ← List.append_assoc, hopened, bracketed_append]
          rw [bracketed?_eq_some_iff.2 ⟨htext, hbody⟩] at hc
          cases hc
      | cons b before =>
          obtain ⟨-, hrest⟩ := List.cons.inj hsplit
          exact List.infix_cons (ih ⟨before, gap, behind, hrest, hgap⟩)

/-- A code is still there when the codes were taken out just when opening brackets before it on its line, closed nowhere
between, make it the end of what they enclose. -/
theorem code_left_iff (code : Code) (text : String) :
    code.text.toList <:+: text.withoutCodes.toList ↔ Shadowed code text.toList := by
  rw [String.withoutCodes, String.toList_ofList]
  exact ⟨shadowed_of_left, left_of_shadowed⟩

/-- Opening brackets in a name keep the reset behind it. -/
example : (paint .green "[[x").withoutCodes = "[[x[[/]]" := by
  decide +kernel

end Crafting.FormatCode
