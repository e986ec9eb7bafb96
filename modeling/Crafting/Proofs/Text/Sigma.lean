import Crafting.Proofs.Text.Case

/-!
# Sigmas in a text that is looked for

A text stands in another one, letter case aside. To lower both and look then is as good as to lower each letter by
itself, unless a sigma of the text that is looked for may end a word: then the other text may go on behind it, and has
the other sigma in lower case.
-/

namespace Crafting.Text

/-- A sigma of the text may end a word of a text around it: no cased letter follows it, and one may stand before it. -/
def MayEndWord (text : List Char) : Prop :=
  ∃ before c after, text = before ++ c :: after ∧ c ∈ sigmas ∧
    (before.all isCaseIgnorable = true ∨ meetsCased before.reverse = true) ∧ meetsCased after = false

/-! ## Texts in which no sigma may end a word -/

theorem eq_sigma_of_foldSigma {d : Char} (h : foldSigma d = 'σ') : d = 'σ' ∨ d = 'ς' := by
  unfold foldSigma at h
  split at h
  · rename_i hd
    exact .inr hd
  · exact .inl h

/-- What stands around the text tells of a sigma in it that it ends a word: then it may. -/
theorem mayEndWord_of_ends {text earlier later front early late back : List Char} {d : Char}
    (hsplit : lowerEach text = early ++ d :: late) (hd : foldSigma d = 'σ')
    (hearlier : (front ++ early).map foldSigma = (lowerEach earlier).map foldSigma)
    (hlater : (late ++ back).map foldSigma = (lowerEach later).map foldSigma)
    (hbefore : meetsCased earlier.reverse = true) (hafter : meetsCased later = false) : MayEndWord text := by
  obtain ⟨before, c, after, rfl, hc, rfl, rfl⟩ := lowerEach_split (eq_sigma_of_foldSigma hd) hsplit
  refine ⟨before, c, after, rfl, hc, ?_, ?_⟩
  · have hreversed : (front ++ lowerEach before).reverse.map foldSigma = (lowerEach earlier).reverse.map foldSigma := by
      rw [List.map_reverse, List.map_reverse, hearlier]
    have hmeets := meetsCased_eq_of_fold hreversed
    rw [meetsCased_reverse_lowerEach, hbefore, List.reverse_append, meetsCased_append, meetsCased_reverse_lowerEach,
      List.all_reverse, isCaseIgnorable_lowerEach, Bool.or_eq_true, Bool.and_eq_true] at hmeets
    exact hmeets.symm.imp_left And.left
  · have hmeets := meetsCased_eq_of_fold hlater
    rw [meetsCased_lowerEach, hafter, meetsCased_append, meetsCased_lowerEach, Bool.or_eq_false_iff] at hmeets
    exact hmeets.1

/-- Where a lower case of the name has the text and the two lower cases of the name differ within it, a sigma of the
text may end a word. -/
theorem mayEndWord_of_differ {text name lower front back : List Char} {j : Nat}
    (hlower : lower.map foldSigma = (lowerEach name).map foldSigma) (htext : lower = front ++ lowerEach text ++ back)
    (hj : j < (lowerEach text).length)
    (hdiffer : (lowerAfter [] name)[front.length + j]? ≠ (lowerEach name)[front.length + j]?) : MayEndWord text := by
  rcases lowerAfter_getElem? [] name (front.length + j) with hsame | ⟨earlier, later, rfl, hplace, hbefore, hafter⟩
  · exact absurd hsame hdiffer
  · obtain ⟨early, d, late, hsplit, rfl⟩ : ∃ early d late, lowerEach text = early ++ d :: late ∧ early.length = j :=
      ⟨(lowerEach text).take j, (lowerEach text)[j], (lowerEach text).drop (j + 1),
        by rw [List.getElem_cons_drop, List.take_append_drop], List.length_take_of_le (Nat.le_of_lt hj)⟩
    -- Up to the kind of sigma, what stands around it is what stands around the sigma of the name.
    have hsides : (front ++ early).map foldSigma ++ foldSigma d :: (late ++ back).map foldSigma =
        (lowerEach earlier).map foldSigma ++ 'σ' :: (lowerEach later).map foldSigma := by
      rw [htext, hsplit, lowerEach_append, lowerEach_cons, lowerLetter_sigmas.1] at hlower
      simpa [foldSigma] using hlower
    have hlength : ((front ++ early).map foldSigma).length = ((lowerEach earlier).map foldSigma).length := by
      rw [List.length_map, List.length_map, List.length_append, hplace]
    obtain ⟨hearlier, hrest⟩ := List.append_inj hsides hlength
    obtain ⟨hd, hlater⟩ := List.cons.inj hrest
    rw [List.append_nil] at hbefore
    exact mayEndWord_of_ends hsplit hd hearlier hlater hbefore hafter

/-- If no sigma of the text may end a word, either lower case of a name has it if the other one does. -/
theorem infix_carries_over {text name lower other : List Char} (hsafe : ¬MayEndWord text)
    (hlower : lower.map foldSigma = (lowerEach name).map foldSigma) (hlength : other.length = lower.length)
    (hagree : ∀ k : Nat, (lowerAfter [] name)[k]? = (lowerEach name)[k]? → other[k]? = lower[k]?)
    (h : lowerEach text <:+: lower) : lowerEach text <:+: other := by
  obtain ⟨front, back, htext⟩ := h
  refine List.infix_iff_getElem?.2 ⟨front.length, ?_, fun j hj => ?_⟩
  · rw [hlength, ← htext]
    simp only [List.length_append]
    omega
  · have hsame : (lowerAfter [] name)[front.length + j]? = (lowerEach name)[front.length + j]? :=
      Classical.byContradiction fun hdiffer => hsafe (mayEndWord_of_differ hlower htext.symm hj hdiffer)
    rw [Nat.add_comm, hagree _ hsame, ← htext, List.append_assoc, List.getElem?_append_right (Nat.le_add_right _ _),
      Nat.add_sub_cancel_left, List.getElem?_append_left hj, List.getElem?_eq_getElem hj]

theorem lowerAfter_eq_lowerEach {text : List Char} (hsafe : ¬MayEndWord text) :
    lowerAfter [] text = lowerEach text := by
  refine List.ext_getElem? fun k => ?_
  rcases lowerAfter_getElem? [] text k with hsame | ⟨earlier, later, rfl, -, hbefore, hafter⟩
  · exact hsame
  · rw [List.append_nil] at hbefore
    exact absurd ⟨earlier, 'Σ', later, rfl, List.mem_cons_self, .inr hbefore, hafter⟩ hsafe

theorem infix_lowerAfter_iff {text : List Char} (hsafe : ¬MayEndWord text) (name : List Char) :
    lowerAfter [] text <:+: lowerAfter [] name ↔ lowerEach text <:+: lowerEach name := by
  have hfold := map_fold_lowerAfter [] name
  have hlength : (lowerAfter [] name).length = (lowerEach name).length := by
    simpa using congrArg List.length hfold
  rw [lowerAfter_eq_lowerEach hsafe]
  exact ⟨infix_carries_over hsafe hfold hlength.symm fun _ h => h.symm,
    infix_carries_over hsafe rfl hlength fun _ h => h⟩

/-! ## Texts in which a sigma may end a word -/

theorem lowerBetween_congr (before : List Char) (c : Char) {after after' : List Char}
    (h : meetsCased after = meetsCased after') : lowerBetween before c after = lowerBetween before c after' := by
  rw [lowerBetween, lowerBetween, h]

/-- Of what stands before a text only this matters: whether a cased letter is met in it. -/
theorem lowerAfter_congr {before before' : List Char} (h : meetsCased before = meetsCased before') (text : List Char) :
    lowerAfter before text = lowerAfter before' text := by
  induction text generalizing before before' with
  | nil => rfl
  | cons c rest ih =>
      have hnext : meetsCased (c :: before) = meetsCased (c :: before') := by
        rw [meetsCased_cons, meetsCased_cons, h]
      rw [lowerAfter, lowerAfter, ih hnext, lowerBetween, lowerBetween, h]

theorem meetsCased_sigma {c : Char} (hc : c ∈ sigmas) (text : List Char) : meetsCased (c :: text) = true := by
  have hplain := plain_of_mem (List.mem_append_right _ hc)
  rw [meetsCased_cons, hplain.not_ignorable, hplain.isCased]
  rfl

/-- A capital sigma that ends a word is lowered like the sigma that ends words. -/
theorem lowerAfter_final {earlier before after : List Char} (hbefore : meetsCased (before.reverse ++ earlier) = true)
    (hafter : meetsCased after = false) :
    lowerAfter earlier (before ++ 'Σ' :: after) = lowerAfter earlier (before ++ 'ς' :: after) := by
  induction before generalizing earlier with
  | nil =>
      have hearlier : meetsCased earlier = true := hbefore
      have hnext : meetsCased ('Σ' :: earlier) = meetsCased ('ς' :: earlier) := by
        rw [meetsCased_sigma (by decide), meetsCased_sigma (by decide)]
      have hfinal : lowerBetween earlier 'ς' after = ['ς'] := by
        rw [lowerBetween, if_neg (by decide), lowerLetter_sigmas.2.2]
      rw [List.nil_append, List.nil_append, lowerAfter, lowerAfter, lowerAfter_congr hnext, hfinal, lowerBetween,
        if_pos rfl, hearlier, hafter]
      rfl
  | cons c rest ih =>
      rw [List.reverse_cons, List.append_assoc, List.singleton_append] at hbefore
      have hmeets : meetsCased (rest ++ 'Σ' :: after) = meetsCased (rest ++ 'ς' :: after) := by
        rw [meetsCased_append, meetsCased_append, meetsCased_sigma (by decide), meetsCased_sigma (by decide)]
      rw [List.cons_append, List.cons_append, lowerAfter, lowerAfter, ih hbefore, lowerBetween_congr _ _ hmeets]

/-- A text has no piece with one more of some letter than itself. -/
theorem not_infix_of_swap {c c' other : Char} (hother : other ≠ c) (hc : c' ≠ c) (before after : List Char) :
    ¬(before ++ c :: after <:+: other :: (before ++ c' :: after)) := by
  intro h
  have hcount := h.sublist.count_le c
  simp only [List.count_append, List.count_cons_self, List.count_cons_of_ne hother, List.count_cons_of_ne hc] at hcount
  omega

/-- If a sigma of the text may end a word, there is a name in which only one way of looking finds the text. -/
theorem exists_disagree {text : List Char} (h : MayEndWord text) :
    ∃ name, ¬(lowerAfter [] text <:+: lowerAfter [] name ↔ lowerEach text <:+: lowerEach name) := by
  obtain ⟨before, c, after, rfl, hc, hbefore, hafter⟩ := h
  -- The text behind a letter, with each of the sigmas in place of its own: two of the three names are alike in either
  -- lower case, but not the same two.
  let name (sigma : Char) : List Char := 'a' :: (before ++ sigma :: after)
  refine Classical.byContradiction fun hnone => ?_
  have hagree : ∀ sigma, lowerAfter [] (before ++ c :: after) <:+: lowerAfter [] (name sigma) ↔
      lowerEach (before ++ c :: after) <:+: lowerEach (name sigma) :=
    fun sigma => Classical.byContradiction fun hnot => hnone ⟨name sigma, hnot⟩
  have hends : meetsCased (before.reverse ++ ['a']) = true := by
    rw [meetsCased_append, List.all_reverse]
    rcases hbefore with hall | hmeets
    · rw [hall, Bool.true_and, Bool.or_eq_true]
      rw [meetsCased_cons, (plain_of_mem (by decide)).not_ignorable, (plain_of_mem (by decide)).isCased]
      exact .inr rfl
    · rw [hmeets, Bool.true_or]
  have hfinal : lowerAfter [] (name 'Σ') = lowerAfter [] (name 'ς') := by
    show lowerBetween [] 'a' _ ++ lowerAfter ['a'] _ = lowerBetween [] 'a' _ ++ lowerAfter ['a'] _
    rw [lowerAfter_final hends hafter]
    rfl
  have hplaced : ∀ sigma d, lowerLetter sigma = [d] →
      lowerEach (before ++ sigma :: after) = lowerEach before ++ d :: lowerEach after ∧
        lowerEach (name sigma) = 'a' :: (lowerEach before ++ d :: lowerEach after) := by
    intro sigma d hd
    have htext : lowerEach (before ++ sigma :: after) = lowerEach before ++ d :: lowerEach after := by
      rw [lowerEach_append, lowerEach_cons, hd, List.singleton_append]
    refine ⟨htext, ?_⟩
    rw [lowerEach_cons, htext]
    rfl
  obtain ⟨hcapital, hinner, hlast⟩ := lowerLetter_sigmas
  obtain ⟨-, hcapitalName⟩ := hplaced 'Σ' 'σ' hcapital
  obtain ⟨hlastText, hlastName⟩ := hplaced 'ς' 'ς' hlast
  by_cases hends' : c = 'ς'
  · subst hends'
    have hlowered : lowerAfter [] (before ++ 'ς' :: after) <:+: lowerAfter [] (name 'ς') := by
      rw [hagree, hlastText, hlastName]
      exact (List.suffix_cons _ _).isInfix
    rw [← hfinal, hagree, hlastText, hcapitalName] at hlowered
    exact not_infix_of_swap (by decide) (by decide) _ _ hlowered
  · have hinside : lowerLetter c = ['σ'] := by
      rcases List.mem_cons.1 hc with rfl | hlower
      · exact hcapital
      · rcases List.mem_cons.1 hlower with rfl | hlower
        · exact hinner
        · exact absurd (List.mem_singleton.1 hlower) hends'
    obtain ⟨htext, -⟩ := hplaced c 'σ' hinside
    have hlowered : lowerAfter [] (before ++ c :: after) <:+: lowerAfter [] (name 'Σ') := by
      rw [hagree, htext, hcapitalName]
      exact (List.suffix_cons _ _).isInfix
    rw [hfinal, hagree, htext, hlastName] at hlowered
    exact not_infix_of_swap (by decide) (by decide) _ _ hlowered

/-- To lower both texts is as good as to lower letter by letter, whatever the other text is, just when no sigma of the
text that is looked for may end a word. -/
theorem infix_lowerAfter_iff_lowerEach {text : List Char} :
    (∀ name, lowerAfter [] text <:+: lowerAfter [] name ↔ lowerEach text <:+: lowerEach name) ↔ ¬MayEndWord text :=
  ⟨fun hall hends => (exists_disagree hends).elim fun name hnot => hnot (hall name), infix_lowerAfter_iff⟩

end Crafting.Text
