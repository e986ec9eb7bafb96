import Crafting.FormatCode

/-!
# Texts without their codes

What double brackets enclose ends at the first closing ones, and brackets that are not closed on their line enclose
nothing. Taking a code out moves none of this: what is left has the same brackets, so taking the codes out once more
changes nothing. Between pieces without opening brackets just the codes go.
-/

namespace Crafting

namespace FormatCode

/-! ## What brackets enclose -/

/-- What can stand between double brackets: no line ends in it, and it is over at the first closing brackets. -/
structure Enclosable (body : List Char) : Prop where
  newline : '\n' ∉ body
  closing : ¬[']', ']'] <:+: body ++ [']']

theorem enclosable_cons {c : Char} {body : List Char} :
    Enclosable (c :: body) ↔ c ≠ '\n' ∧ ¬(c = ']' ∧ (body ++ [']']).head? = some ']') ∧ Enclosable body := by
  have hhead : [']', ']'] <+: c :: (body ++ [']']) ↔ c = ']' ∧ (body ++ [']']).head? = some ']' := by
    cases body <;> simp [List.cons_prefix_cons, eq_comm]
  constructor
  · rintro ⟨hnewline, hclosing⟩
    rw [List.mem_cons, not_or] at hnewline
    rw [List.cons_append, List.infix_cons_iff, hhead, not_or] at hclosing
    exact ⟨fun h => hnewline.1 h.symm, hclosing.1, hnewline.2, hclosing.2⟩
  · rintro ⟨hc, hmeet, hnewline, hclosing⟩
    refine ⟨by simp [hc.symm, hnewline], ?_⟩
    rw [List.cons_append, List.infix_cons_iff, hhead, not_or]
    exact ⟨hmeet, hclosing⟩

theorem enclosable_cons_of_ne {c : Char} (hnewline : c ≠ '\n') (hclosing : c ≠ ']') {body : List Char} :
    Enclosable (c :: body) ↔ Enclosable body := by
  simp [enclosable_cons, hnewline, hclosing]

theorem Enclosable.opened {body : List Char} (h : Enclosable body) : Enclosable ('[' :: '[' :: body) := by
  simpa [enclosable_cons_of_ne] using h

theorem Enclosable.of_append {front body : List Char} (h : Enclosable (front ++ body)) : Enclosable body := by
  refine ⟨fun hmem => h.newline (List.mem_append_right front hmem), fun hclosing => h.closing ?_⟩
  rw [List.append_assoc]
  exact hclosing.trans (List.suffix_append front _).isInfix

theorem takeBody?_cons {c : Char} {rest : List Char} (h : ¬(c = ']' ∧ rest.head? = some ']')) :
    takeBody? (c :: rest) =
      if c = '\n' then none else (takeBody? rest).map fun (body, after) => (c :: body, after) := by
  rw [takeBody?]
  rintro rest' rfl rfl
  exact h ⟨rfl, rfl⟩

/-- What is read is what stands before the first closing brackets, if no line ends before them. -/
theorem takeBody?_eq_some_iff {text body after : List Char} :
    takeBody? text = some (body, after) ↔ text = body ++ ']' :: ']' :: after ∧ Enclosable body := by
  constructor
  · intro h
    fun_induction takeBody? text generalizing body after with
    | case1 => cases h
    | case2 rest =>
        cases h
        exact ⟨rfl, by simp, by decide⟩
    | case3 => cases h
    | case4 c rest hopen hc ih =>
        obtain ⟨⟨inner, behind⟩, hinner, hpair⟩ := Option.map_eq_some_iff.1 h
        cases hpair
        obtain ⟨rfl, henclosable⟩ := ih hinner
        refine ⟨rfl, enclosable_cons.2 ⟨hc, ?_, henclosable⟩⟩
        -- The first character did not close, so it does not begin closing brackets either.
        rintro ⟨rfl, hhead⟩
        cases inner with
        | nil => exact hopen _ rfl rfl
        | cons d inner =>
            cases hhead
            exact hopen _ rfl rfl
  · rintro ⟨rfl, h⟩
    induction body with
    | nil => rfl
    | cons c body ih =>
        obtain ⟨hc, hmeet, hbody⟩ := enclosable_cons.1 h
        have hhead : (body ++ ']' :: ']' :: after).head? = (body ++ [']']).head? := by cases body <;> rfl
        rw [List.cons_append, takeBody?_cons (hhead ▸ hmeet), if_neg hc, ih hbody]
        rfl

theorem takeBody?_cons_eq_none_iff {c : Char} {rest : List Char} :
    takeBody? (c :: rest) = none ↔
      ¬(c = ']' ∧ rest.head? = some ']') ∧ (c = '\n' ∨ takeBody? rest = none) := by
  by_cases hclosing : c = ']' ∧ rest.head? = some ']'
  · obtain ⟨rfl, hhead⟩ := hclosing
    obtain ⟨after, rfl⟩ := List.head?_eq_some_iff.1 hhead
    simp [takeBody?]
  · rw [takeBody?_cons hclosing]
    by_cases hc : c = '\n' <;> simp [hc, hclosing]

/-- A text in double brackets. -/
def bracketed (body : List Char) : List Char :=
  '[' :: '[' :: (body ++ [']', ']'])

theorem bracketed_append (body after : List Char) :
    bracketed body ++ after = '[' :: '[' :: body ++ ']' :: ']' :: after := by
  simp [bracketed]

/-- What the text begins with, if that is something in double brackets, and what follows it. -/
def bracketed? : List Char → Option (List Char × List Char)
  | '[' :: '[' :: rest => takeBody? rest
  | _ => none

theorem bracketed?_eq_some_iff {text body after : List Char} :
    bracketed? text = some (body, after) ↔ text = bracketed body ++ after ∧ Enclosable body := by
  unfold bracketed?
  split
  · simp [takeBody?_eq_some_iff, bracketed]
  · rename_i hopen
    simp only [reduceCtorEq, false_iff, not_and]
    rintro rfl
    exact absurd rfl (hopen (body ++ [']', ']'] ++ after))

theorem bracketed?_of_not_opening {text : List Char} (h : ¬['[', '['] <+: text) : bracketed? text = none := by
  unfold bracketed?
  split
  · exact absurd ⟨_, rfl⟩ h
  · rfl

/-! ## Taking the codes out -/

theorem strip_nil : strip [] = [] := by
  rw [strip]

/-- Of what stands in brackets just a code goes. -/
theorem strip_bracketed {body : List Char} (h : Enclosable body) (after : List Char) :
    strip (bracketed body ++ after) = (if isWord body then [] else bracketed body) ++ strip after := by
  have htake : takeBody? (body ++ [']', ']'] ++ after) = some (body, after) :=
    takeBody?_eq_some_iff.2 ⟨by simp, h⟩
  rw [bracketed, List.cons_append, List.cons_append, strip]
  split
  · rename_i found hfound
    rw [htake] at hfound
    cases hfound
    split <;> simp
  · rename_i hnone
    rw [htake] at hnone
    cases hnone

/-- A character that does not begin something in brackets stays. -/
theorem strip_cons {c : Char} {rest : List Char} (h : bracketed? (c :: rest) = none) :
    strip (c :: rest) = c :: strip rest := by
  rw [strip.eq_def]
  split
  · rename_i heq
    cases heq
    split
    · rename_i hfound
      rw [bracketed?, hfound] at h
      cases h
    · rfl
  · rename_i heq
    cases heq
    rfl
  · rename_i heq
    cases heq

/-- A text is read piece by piece: something in brackets, or else a character that begins nothing in brackets. -/
@[elab_as_elim]
theorem piece_induction {motive : List Char → Prop} (nil : motive [])
    (bracketed : ∀ body after, Enclosable body → motive after → motive (bracketed body ++ after))
    (character : ∀ c rest, bracketed? (c :: rest) = none → motive rest → motive (c :: rest)) (text : List Char) :
    motive text := by
  induction hlength : text.length using Nat.strongRecOn generalizing text with
  | ind length ih =>
      subst hlength
      cases text with
      | nil => exact nil
      | cons c rest =>
          cases hread : bracketed? (c :: rest) with
          | none => exact character c rest hread (ih rest.length (Nat.lt_succ_self _) rest rfl)
          | some found =>
              obtain ⟨body, after⟩ := found
              obtain ⟨htext, hbody⟩ := bracketed?_eq_some_iff.1 hread
              rw [htext]
              refine bracketed body after hbody (ih after.length ?_ after rfl)
              rw [htext, FormatCode.bracketed]
              simp
              omega

/-- Where no brackets are closed on the first line, the text begins with nothing in brackets. -/
theorem bracketed?_of_unclosed {text : List Char} (h : takeBody? text = none) : bracketed? text = none := by
  unfold bracketed?
  split
  · rename_i rest
    -- Neither of the two characters closes anything, and neither ends the line.
    have hfirst : takeBody? ('[' :: rest) = none := ((takeBody?_cons_eq_none_iff.1 h).2).resolve_left (by decide)
    exact ((takeBody?_cons_eq_none_iff.1 hfirst).2).resolve_left (by decide)
  · rfl

/-- An opening bracket before something in brackets belongs to it. -/
theorem bracketed?_tail {rest : List Char} (h : bracketed? ('[' :: rest) = none) : bracketed? rest = none := by
  refine Option.eq_none_iff_forall_ne_some.2 fun ⟨body, after⟩ hfound => ?_
  obtain ⟨rfl, hbody⟩ := bracketed?_eq_some_iff.1 hfound
  have henclosed : Enclosable ('[' :: body) := (enclosable_cons_of_ne (by decide) (by decide)).2 hbody
  have hread : bracketed? ('[' :: (bracketed body ++ after)) = some ('[' :: body, after) :=
    bracketed?_eq_some_iff.2 ⟨by simp [bracketed], henclosed⟩
  rw [h] at hread
  cases hread

theorem head?_strip {text : List Char} (h : bracketed? text = none) : (strip text).head? = text.head? := by
  cases text with
  | nil => rw [strip_nil]
  | cons c rest => rw [strip_cons h, List.head?_cons, List.head?_cons]

/-- Taking codes out closes no brackets that were not closed on their line. -/
theorem takeBody?_strip {text : List Char} (h : takeBody? text = none) : takeBody? (strip text) = none := by
  induction text with
  | nil => rw [strip_nil, takeBody?]
  | cons c rest ih =>
      obtain ⟨hmeet, hrest⟩ := takeBody?_cons_eq_none_iff.1 h
      rw [strip_cons (bracketed?_of_unclosed h), takeBody?_cons_eq_none_iff]
      -- Of two closing brackets here the second would be the first character left behind, and that was there before.
      refine ⟨?_, hrest.imp_right ih⟩
      rintro ⟨rfl, hhead⟩
      have hunclosed : takeBody? rest = none := hrest.resolve_left (by decide)
      rw [head?_strip (bracketed?_of_unclosed hunclosed)] at hhead
      exact hmeet ⟨rfl, hhead⟩

/-- Taking codes out behind a character makes it begin nothing in brackets that it did not begin before. -/
theorem bracketed?_cons_strip {c : Char} {rest : List Char} (h : bracketed? (c :: rest) = none) :
    bracketed? (c :: strip rest) = none := by
  by_cases hc : c = '['
  · subst hc
    cases rest with
    | nil => rwa [strip_nil]
    | cons d rest =>
        rw [strip_cons (bracketed?_tail h)]
        by_cases hd : d = '['
        · subst hd
          exact takeBody?_strip h
        · exact bracketed?_of_not_opening (by simp [List.cons_prefix_cons, Ne.symm hd])
  · exact bracketed?_of_not_opening (by simp [List.cons_prefix_cons, Ne.symm hc])

theorem strip_strip (text : List Char) : strip (strip text) = strip text := by
  induction text using piece_induction with
  | nil => rw [strip_nil, strip_nil]
  | bracketed body after hbody ih =>
      rw [strip_bracketed hbody]
      by_cases hword : isWord body = true
      · rw [if_pos hword, List.nil_append, ih]
      · -- What stays in its brackets is read in the same brackets again.
        rw [if_neg hword, strip_bracketed hbody, if_neg hword, ih]
  | character c rest h ih => rw [strip_cons h, strip_cons (bracketed?_cons_strip h), ih]

/-! ## Codes among plain pieces -/

theorem isWord_iff {body : List Char} : isWord body = true ↔ ∃ code : Code, code.word.toList = body := by
  constructor
  · intro h
    obtain ⟨code, -, hcode⟩ := List.any_eq_true.1 h
    exact ⟨code, beq_iff_eq.1 hcode⟩
  · rintro ⟨code, rfl⟩
    cases code <;> decide

theorem Code.letters (code : Code) : ∀ c ∈ code.word.toList, c ≠ '[' ∧ c ≠ ']' ∧ c ≠ '\n' := by
  have hall : code.word.toList.all (fun c => decide (c ≠ '[' ∧ c ≠ ']' ∧ c ≠ '\n')) = true := by
    cases code <;> decide
  exact fun c hc => of_decide_eq_true (List.all_eq_true.1 hall c hc)

theorem Code.toList_text (code : Code) : code.text.toList = bracketed code.word.toList := by
  simp [Code.text, bracketed]

theorem Code.enclosable (code : Code) : Enclosable code.word.toList := by
  refine ⟨fun h => (code.letters _ h).2.2 rfl, fun h => ?_⟩
  -- There is one closing bracket where there would have to be two.
  have hnone : code.word.toList.count ']' = 0 := List.count_eq_zero.2 fun h => (code.letters _ h).2.1 rfl
  have htwo := h.sublist.count_le ']'
  rw [List.count_append, hnone] at htwo
  exact absurd htwo (by decide)

theorem strip_code (code : Code) (after : List Char) : strip (code.text.toList ++ after) = strip after := by
  rw [Code.toList_text, strip_bracketed code.enclosable, if_pos (isWord_iff.2 ⟨code, rfl⟩), List.nil_append]

/-- A piece of text that has no opening brackets and does not end in the first of two. -/
structure Plain (piece : List Char) : Prop where
  opening : ¬['[', '['] <:+: piece
  last : piece.getLast? ≠ some '['

theorem Plain.tail {c : Char} {piece : List Char} (h : Plain (c :: piece)) : Plain piece := by
  refine ⟨fun hopening => h.opening (List.infix_cons hopening), fun hlast => h.last ?_⟩
  rw [List.getLast?_cons, hlast]
  rfl

/-- The first character of a plain piece begins nothing in brackets, whatever follows the piece. -/
theorem Plain.bracketed?_append {c : Char} {piece : List Char} (h : Plain (c :: piece)) (after : List Char) :
    bracketed? (c :: (piece ++ after)) = none := by
  refine bracketed?_of_not_opening fun hopening => ?_
  obtain ⟨rfl, hsecond⟩ := List.cons_prefix_cons.1 hopening
  cases piece with
  | nil => exact h.last rfl
  | cons d piece =>
      obtain ⟨rfl, -⟩ := List.cons_prefix_cons.1 hsecond
      exact h.opening ⟨[], piece, rfl⟩

theorem Plain.strip_append {piece : List Char} (h : Plain piece) (after : List Char) :
    strip (piece ++ after) = piece ++ strip after := by
  induction piece with
  | nil => rfl
  | cons c piece ih => rw [List.cons_append, strip_cons (h.bracketed?_append after), ih h.tail, List.cons_append]

/-- Pieces of text with a code before each of them but the first. -/
def woven (first : String) (others : List (Code × String)) : String :=
  first ++ String.join (others.map fun (code, piece) => code.text ++ piece)

/-- The pieces alone. -/
def unwoven (first : String) (others : List (Code × String)) : String :=
  first ++ String.join (others.map Prod.snd)

theorem strip_pieces {others : List (Code × String)} (h : ∀ piece ∈ others, Plain piece.2.toList) :
    strip (String.join (others.map fun (code, piece) => code.text ++ piece)).toList =
      (String.join (others.map Prod.snd)).toList := by
  induction others with
  | nil => exact strip_nil
  | cons next others ih =>
      obtain ⟨code, piece⟩ := next
      obtain ⟨hpiece, hothers⟩ := List.forall_mem_cons.1 h
      simp only [List.map_cons, String.join_cons, String.toList_append, List.append_assoc]
      rw [strip_code, hpiece.strip_append, ih hothers]

/-- The codes are gone when they were taken out once. Between pieces of text that have no opening brackets and do not
end in the first of two, the codes go and nothing else. -/
theorem codes_go_once :
    (∀ text : String, text.withoutCodes.withoutCodes = text.withoutCodes) ∧
      ∀ (first : String) (others : List (Code × String)), Plain first.toList →
        (∀ piece ∈ others, Plain piece.2.toList) → (woven first others).withoutCodes = unwoven first others := by
  constructor
  · intro text
    rw [String.withoutCodes, String.withoutCodes, String.toList_ofList, strip_strip]
  · intro first others hfirst hothers
    rw [String.withoutCodes, woven, String.toList_append, hfirst.strip_append, strip_pieces hothers,
      ← String.toList_append, String.ofList_toList, unwoven]

end FormatCode

namespace Sample

open FormatCode

/-- A line of a list, and the name that it shows has brackets of its own. -/
theorem name_brackets_stay :
    Plain "1. ".toList ∧ (∀ piece ∈ [(Code.green, "Tea ]] [hot]\n"), (Code.reset, "")], Plain piece.2.toList) ∧
      "1. [[GREEN]]Tea ]] [hot]\n[[/]]".withoutCodes = "1. Tea ]] [hot]\n" := by
  have hfirst : Plain "1. ".toList := ⟨by decide +kernel, by decide +kernel⟩
  have hothers : ∀ piece ∈ [(Code.green, "Tea ]] [hot]\n"), (Code.reset, "")], Plain piece.2.toList :=
    List.forall_mem_cons.2 ⟨⟨by decide +kernel, by decide +kernel⟩,
      List.forall_mem_singleton.2 ⟨by decide +kernel, by decide +kernel⟩⟩
  have hwoven : woven "1. " [(.green, "Tea ]] [hot]\n"), (.reset, "")] = "1. [[GREEN]]Tea ]] [hot]\n[[/]]" := rfl
  have hunwoven : unwoven "1. " [(.green, "Tea ]] [hot]\n"), (.reset, "")] = "1. Tea ]] [hot]\n" := rfl
  have hgone := codes_go_once.2 _ _ hfirst hothers
  exact ⟨hfirst, hothers, (congrArg String.withoutCodes hwoven).symm.trans (hgone.trans hunwoven)⟩

end Sample

end Crafting
