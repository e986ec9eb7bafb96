import Crafting.Text.Case

/-!
# Lower case, letter by letter and in a word

The lower case of a letter by itself and that of the letter in a text differ for a capital sigma alone, at the end of a
word. Whether a word goes on is the same in a text and in its lower case, so it can be read off either.
-/

namespace Crafting.Text

/-! ## The tables -/

/-- What ranges have, as one number with a bit for each: two sets are compared at once. -/
def bitsOf (ranges : List (Nat × Nat)) : Nat :=
  ranges.foldr (fun range bits => (1 <<< (range.2 + 1 - range.1) - 1) <<< range.1 ||| bits) 0

/-- The ranges have all that lies between two numbers. -/
def covers (ranges : List (Nat × Nat)) (first last : Nat) : Bool :=
  bitsOf ranges &&& bitsOf [(first, last)] == bitsOf [(first, last)]

/-- The ranges have nothing that lies between two numbers. -/
def avoids (ranges : List (Nat × Nat)) (first last : Nat) : Bool :=
  bitsOf ranges &&& bitsOf [(first, last)] == 0

theorem testBit_bitsOf (ranges : List (Nat × Nat)) (c : Char) :
    (bitsOf ranges).testBit c.toNat = inRanges ranges c := by
  induction ranges with
  | nil => exact Nat.zero_testBit _
  | cons range rest ih =>
      -- The bits of a range are as many ones as it has numbers, moved up to the first of them.
      have hrange : (decide (range.1 ≤ c.toNat) && decide (c.toNat - range.1 < range.2 + 1 - range.1)) =
          (decide (range.1 ≤ c.toNat) && decide (c.toNat ≤ range.2)) := by
        rw [Bool.eq_iff_iff]
        simp only [Bool.and_eq_true, decide_eq_true_eq]
        omega
      rw [bitsOf, List.foldr_cons, ← bitsOf, Nat.testBit_or, ih, Nat.testBit_shiftLeft, Nat.one_shiftLeft,
        Nat.testBit_two_pow_sub_one, hrange]
      rfl

theorem testBit_between {first last : Nat} {c : Char} (hfirst : first ≤ c.toNat) (hlast : c.toNat ≤ last) :
    (bitsOf [(first, last)]).testBit c.toNat = true := by
  rw [testBit_bitsOf]
  simp [inRanges, hfirst, hlast]

theorem inRanges_of_covers {ranges : List (Nat × Nat)} {first last : Nat} (h : covers ranges first last = true)
    {c : Char} (hfirst : first ≤ c.toNat) (hlast : c.toNat ≤ last) : inRanges ranges c = true := by
  have hbit := testBit_between hfirst hlast
  rw [← beq_iff_eq.1 h, Nat.testBit_and, Bool.and_eq_true] at hbit
  rw [← testBit_bitsOf, hbit.1]

theorem inRanges_of_avoids {ranges : List (Nat × Nat)} {first last : Nat} (h : avoids ranges first last = true)
    {c : Char} (hfirst : first ≤ c.toNat) (hlast : c.toNat ≤ last) : inRanges ranges c = false := by
  have hnone : (bitsOf ranges &&& bitsOf [(first, last)]).testBit c.toNat = false := by
    rw [beq_iff_eq.1 h, Nat.zero_testBit]
  rwa [Nat.testBit_and, testBit_between hfirst hlast, Bool.and_true, testBit_bitsOf] at hnone

/-- What a run sends where. -/
theorem CaseRun.image?_eq_some_iff {run : CaseRun} {n m : Nat} :
    run.image? n = some m ↔
      run.first ≤ n ∧ n ≤ run.last ∧ (n - run.first) % run.stride = 0 ∧ ((n : Int) + run.shift).toNat = m := by
  simp [CaseRun.image?, and_assoc]

/-- The letters of a run are cased, be it all in one range or each in its own. -/
def CaseRun.hasCased (run : CaseRun) : Bool :=
  covers casedRanges run.first run.last ||
    (List.range (run.last + 1 - run.first)).all fun k =>
      k % run.stride != 0 || covers casedRanges (run.first + k) (run.first + k)

/-- What a run sends elsewhere has case and is not passed over, and neither is what it sends it to. -/
theorem lowerRuns_sources :
    ∀ run ∈ lowerRuns, run.hasCased = true ∧ avoids caseIgnorableRanges run.first run.last = true := by
  decide +kernel

theorem lowerRuns_images : ∀ run ∈ lowerRuns, 0 ≤ (run.first : Int) + run.shift ∧
    covers casedRanges (run.first + run.shift).toNat (run.last + run.shift).toNat = true ∧
    avoids caseIgnorableRanges (run.first + run.shift).toNat (run.last + run.shift).toNat = true ∧
    ((run.last + run.shift).toNat < 0xD800 ∨ 0xDFFF < (run.first + run.shift).toNat) ∧
    (run.last + run.shift).toNat < 0x110000 := by
  decide +kernel

/-- A letter that has case and is not passed over. -/
structure Plain (c : Char) : Prop where
  isCased : isCased c = true
  not_ignorable : isCaseIgnorable c = false

theorem CaseRun.isCased_of_hasCased {run : CaseRun} (h : run.hasCased = true) {c : Char} (hfirst : run.first ≤ c.toNat)
    (hlast : c.toNat ≤ run.last) (hstride : (c.toNat - run.first) % run.stride = 0) : isCased c = true := by
  rcases Bool.or_eq_true_iff.1 h with hcovers | heach
  · exact inRanges_of_covers hcovers hfirst hlast
  · have hk := List.all_eq_true.1 heach (c.toNat - run.first) (List.mem_range.2 (by omega))
    simp only [hstride, bne_self_eq_false, Bool.false_or, Nat.add_sub_cancel' hfirst] at hk
    exact inRanges_of_covers hk (Nat.le_refl _) (Nat.le_refl _)

/-- A run sends plain letters to plain letters. -/
theorem plain_of_image? {run : CaseRun} (hrun : run ∈ lowerRuns) {c : Char} {m : Nat}
    (h : run.image? c.toNat = some m) : Plain c ∧ Plain (Char.ofNat m) ∧ (Char.ofNat m).toNat = m := by
  obtain ⟨hfirst, hlast, hstride, rfl⟩ := CaseRun.image?_eq_some_iff.1 h
  obtain ⟨hcased, hpassed⟩ := lowerRuns_sources run hrun
  obtain ⟨hnonneg, hcovers, havoids, hscalar, hbound⟩ := lowerRuns_images run hrun
  have hlow : (run.first + run.shift).toNat ≤ ((c.toNat : Int) + run.shift).toNat := by omega
  have hhigh : ((c.toNat : Int) + run.shift).toNat ≤ (run.last + run.shift).toNat := by omega
  have hvalid : (((c.toNat : Int) + run.shift).toNat).isValidChar := by
    unfold Nat.isValidChar
    omega
  have hsame : (Char.ofNat ((c.toNat : Int) + run.shift).toNat).toNat = ((c.toNat : Int) + run.shift).toNat := by
    rw [Char.ofNat, dif_pos hvalid]
    rfl
  refine ⟨⟨CaseRun.isCased_of_hasCased hcased hfirst hlast hstride, inRanges_of_avoids hpassed hfirst hlast⟩,
    ⟨inRanges_of_covers hcovers ?_ ?_, inRanges_of_avoids havoids ?_ ?_⟩, hsame⟩ <;> rwa [hsame]

/-! ## The lower case of a letter -/

/-- The three sigmas: the capital one, and in lower case the one that ends a word beside the other. -/
def sigmas : List Char := ['Σ', 'σ', 'ς']

theorem plain_of_mem {c : Char} (h : c ∈ ['a', 'i', 'İ'] ++ sigmas) : Plain c := by
  have hall : (['a', 'i', 'İ'] ++ sigmas).all (fun c => isCased c && !isCaseIgnorable c) = true := by decide +kernel
  have hplain := List.all_eq_true.1 hall c h
  rw [Bool.and_eq_true, Bool.not_eq_true'] at hplain
  exact ⟨hplain.1, hplain.2⟩

theorem lowerLetter_sigmas : lowerLetter 'Σ' = ['σ'] ∧ lowerLetter 'σ' = ['σ'] ∧ lowerLetter 'ς' = ['ς'] := by
  decide +kernel

/-- The dot stays on the letter, as an accent of its own. -/
theorem lowerLetter_dotted : lowerLetter 'İ' = ['i', '\u0307'] :=
  rfl

theorem isCaseIgnorable_dot : isCaseIgnorable '\u0307' = true := by
  decide +kernel

/-- Only one letter has a lower case of two, and a letter that becomes another one is as plain as that. -/
theorem lowerLetter_cases (c : Char) :
    lowerLetter c = [c] ∨ c = 'İ' ∨
      ∃ run ∈ lowerRuns, ∃ m, run.image? c.toNat = some m ∧ lowerLetter c = [Char.ofNat m] := by
  by_cases hdotted : c = 'İ'
  · exact .inr (.inl hdotted)
  · have hother : c.toNat ≠ 0x130 := fun h => hdotted (by rw [← Char.ofNat_toNat c, h])
    have hlookup : lowerExpansions.lookup c.toNat = none := by
      rw [lowerExpansions, List.lookup_cons, beq_false_of_ne hother]
      rfl
    unfold lowerLetter mapLetter
    rw [hlookup]
    cases hfound : lowerRuns.findSome? (·.image? c.toNat) with
    | none => exact .inl rfl
    | some m =>
        obtain ⟨run, hrun, himage⟩ := List.exists_of_findSome?_eq_some hfound
        exact .inr (.inr ⟨run, hrun, m, himage, rfl⟩)

theorem isCaseIgnorable_lowerLetter (c : Char) : (lowerLetter c).all isCaseIgnorable = isCaseIgnorable c := by
  rcases lowerLetter_cases c with hsame | rfl | ⟨run, hrun, m, himage, hlower⟩
  · rw [hsame, List.all_cons, List.all_nil, Bool.and_true]
  · rw [lowerLetter_dotted, List.all_cons, (plain_of_mem (by decide)).not_ignorable,
      (plain_of_mem (by decide)).not_ignorable, Bool.false_and]
  · obtain ⟨hplain, hplain', -⟩ := plain_of_image? hrun himage
    rw [hlower, List.all_cons, hplain'.not_ignorable, hplain.not_ignorable, Bool.false_and]

/-! ## Whether a word goes on -/

theorem meetsCased_cons (c : Char) (text : List Char) :
    meetsCased (c :: text) = if isCaseIgnorable c then meetsCased text else isCased c := by
  unfold meetsCased
  rw [List.dropWhile_cons]
  split <;> rfl

/-- What is passed over altogether leaves the rest to tell. -/
theorem meetsCased_append (text more : List Char) :
    meetsCased (text ++ more) = (meetsCased text || text.all isCaseIgnorable && meetsCased more) := by
  induction text with
  | nil => rfl
  | cons c rest ih =>
      rw [List.cons_append, meetsCased_cons, meetsCased_cons, ih, List.all_cons]
      cases isCaseIgnorable c <;> simp

theorem meetsCased_lowerLetter (c : Char) :
    meetsCased (lowerLetter c) = meetsCased [c] ∧ meetsCased (lowerLetter c).reverse = meetsCased [c] := by
  rcases lowerLetter_cases c with hsame | rfl | ⟨run, hrun, m, himage, hlower⟩
  · rw [hsame]
    exact ⟨rfl, rfl⟩
  · have hi := plain_of_mem (show 'i' ∈ _ by decide)
    have hdotted := plain_of_mem (show 'İ' ∈ _ by decide)
    have hreverse : ['i', '\u0307'].reverse = ['\u0307', 'i'] := rfl
    rw [lowerLetter_dotted, hreverse]
    simp only [meetsCased_cons, hi.isCased, hi.not_ignorable, hdotted.isCased, hdotted.not_ignorable,
      isCaseIgnorable_dot, Bool.false_eq_true, if_true, if_false, and_self]
  · obtain ⟨hplain, hplain', -⟩ := plain_of_image? hrun himage
    rw [hlower, List.reverse_singleton, meetsCased_cons, meetsCased_cons, hplain.not_ignorable, hplain'.not_ignorable,
      hplain.isCased, hplain'.isCased]
    exact ⟨rfl, rfl⟩

/-- The lower case of a text, each letter by itself. -/
def lowerEach (text : List Char) : List Char :=
  text.flatMap lowerLetter

theorem lowerEach_cons (c : Char) (rest : List Char) : lowerEach (c :: rest) = lowerLetter c ++ lowerEach rest :=
  List.flatMap_cons

theorem lowerEach_append (text more : List Char) : lowerEach (text ++ more) = lowerEach text ++ lowerEach more :=
  List.flatMap_append

theorem infix_lowerEach {part text : List Char} (h : part <:+: text) : lowerEach part <:+: lowerEach text := by
  obtain ⟨front, back, rfl⟩ := h
  rw [lowerEach_append, lowerEach_append]
  exact List.infix_append _ _ _

theorem isCaseIgnorable_lowerEach (text : List Char) :
    (lowerEach text).all isCaseIgnorable = text.all isCaseIgnorable := by
  induction text with
  | nil => rfl
  | cons c rest ih => rw [lowerEach_cons, List.all_append, isCaseIgnorable_lowerLetter, ih, List.all_cons]

theorem meetsCased_lowerEach (text : List Char) : meetsCased (lowerEach text) = meetsCased text := by
  induction text with
  | nil => rfl
  | cons c rest ih =>
      have hsplit := meetsCased_append [c] rest
      rw [lowerEach_cons, meetsCased_append, (meetsCased_lowerLetter c).1, isCaseIgnorable_lowerLetter, ih]
      rw [List.singleton_append, List.all_cons, List.all_nil, Bool.and_true] at hsplit
      exact hsplit.symm

theorem meetsCased_reverse_lowerEach (text : List Char) :
    meetsCased (lowerEach text).reverse = meetsCased text.reverse := by
  induction text with
  | nil => rfl
  | cons c rest ih =>
      rw [lowerEach_cons, List.reverse_append, meetsCased_append, (meetsCased_lowerLetter c).2, ih, List.all_reverse,
        isCaseIgnorable_lowerEach, List.reverse_cons, meetsCased_append, List.all_reverse]

/-! ## Sigmas -/

theorem lowerRuns_sigma : ∀ run ∈ lowerRuns, ∀ m ∈ ([0x3C2, 0x3C3] : List Nat),
    run.image? ((m : Int) - run.shift).toNat = some m → ((m : Int) - run.shift).toNat = 0x3A3 := by
  decide +kernel

/-- Only a sigma becomes a sigma, and it becomes nothing else. -/
theorem mem_sigmas_of_lowerLetter {c d : Char} (hd : d = 'σ' ∨ d = 'ς') (h : d ∈ lowerLetter c) :
    c ∈ sigmas ∧ lowerLetter c = [d] := by
  rcases lowerLetter_cases c with hsame | rfl | ⟨run, hrun, m, himage, hlower⟩
  · rw [hsame, List.mem_singleton] at h
    subst h
    exact ⟨by simpa [sigmas] using .inr hd, hsame⟩
  · rw [lowerLetter_dotted] at h
    rcases hd with rfl | rfl
    · exact absurd h (by decide)
    · exact absurd h (by decide)
  · obtain ⟨-, -, hsame⟩ := plain_of_image? hrun himage
    rw [hlower, List.mem_singleton] at h
    subst h
    refine ⟨?_, hlower⟩
    have hm : m ∈ [0x3C2, 0x3C3] := by
      rw [← hsame]
      rcases hd with hd | hd
      · rw [hd]; decide
      · rw [hd]; decide
    -- A run sends one number there at most, and that is the number of the capital sigma.
    have hsource : ((m : Int) - run.shift).toNat = c.toNat := by
      have hsum := (CaseRun.image?_eq_some_iff.1 himage).2.2.2
      simp only [List.mem_cons, List.not_mem_nil, or_false] at hm
      omega
    have hcapital := lowerRuns_sigma run hrun m hm (by rw [hsource, himage])
    rw [hsource] at hcapital
    rw [← Char.ofNat_toNat c, hcapital]
    decide

/-- A letter where the sigma that ends a word counts as the other one of lower case. -/
def foldSigma (c : Char) : Char :=
  if c = 'ς' then 'σ' else c

theorem isCaseIgnorable_foldSigma (c : Char) : isCaseIgnorable (foldSigma c) = isCaseIgnorable c := by
  unfold foldSigma
  split
  · rename_i hc
    subst hc
    rw [(plain_of_mem (by decide)).not_ignorable, (plain_of_mem (by decide)).not_ignorable]
  · rfl

theorem isCased_foldSigma (c : Char) : isCased (foldSigma c) = isCased c := by
  unfold foldSigma
  split
  · rename_i hc
    subst hc
    rw [(plain_of_mem (by decide)).isCased, (plain_of_mem (by decide)).isCased]
  · rfl

theorem meetsCased_map_foldSigma (text : List Char) : meetsCased (text.map foldSigma) = meetsCased text := by
  induction text with
  | nil => rfl
  | cons c rest ih =>
      rw [List.map_cons, meetsCased_cons, meetsCased_cons, isCaseIgnorable_foldSigma, isCased_foldSigma, ih]

/-- Texts that differ in these sigmas alone have words that go on alike. -/
theorem meetsCased_eq_of_fold {text other : List Char} (h : text.map foldSigma = other.map foldSigma) :
    meetsCased text = meetsCased other := by
  rw [← meetsCased_map_foldSigma, h, meetsCased_map_foldSigma]

/-! ## The lower case of a text -/

/-- Only a capital sigma is lowered by what stands around it. -/
theorem lowerBetween_eq (before : List Char) (c : Char) (after : List Char) :
    lowerBetween before c after = lowerLetter c ∨
      c = 'Σ' ∧ meetsCased before = true ∧ meetsCased after = false ∧ lowerBetween before c after = ['ς'] := by
  unfold lowerBetween
  split
  · rename_i hsigma
    subst hsigma
    split
    · rename_i hfinal
      rw [Bool.and_eq_true, Bool.not_eq_true'] at hfinal
      exact .inr ⟨rfl, hfinal.1, hfinal.2, rfl⟩
    · exact .inl lowerLetter_sigmas.1.symm
  · exact .inl rfl

theorem map_fold_lowerAfter (before text : List Char) :
    (lowerAfter before text).map foldSigma = (lowerEach text).map foldSigma := by
  induction text generalizing before with
  | nil => rfl
  | cons c rest ih =>
      rw [lowerAfter, lowerEach_cons, List.map_append, List.map_append, ih]
      rcases lowerBetween_eq before c rest with hsame | ⟨rfl, -, -, hfinal⟩
      · rw [hsame]
      · rw [hfinal, lowerLetter_sigmas.1]
        rfl

/-- Where the two lower cases differ, the text has a capital sigma that ends a word. -/
theorem lowerAfter_getElem? (before text : List Char) (k : Nat) :
    (lowerAfter before text)[k]? = (lowerEach text)[k]? ∨
      ∃ earlier later, text = earlier ++ 'Σ' :: later ∧ (lowerEach earlier).length = k ∧
        meetsCased (earlier.reverse ++ before) = true ∧ meetsCased later = false := by
  induction text generalizing before k with
  | nil => exact .inl rfl
  | cons c rest ih =>
      have hlength : (lowerBetween before c rest).length = (lowerLetter c).length := by
        rcases lowerBetween_eq before c rest with hsame | ⟨rfl, -, -, hfinal⟩
        · rw [hsame]
        · rw [hfinal, lowerLetter_sigmas.1]
          rfl
      rw [lowerAfter, lowerEach_cons]
      -- The place is among what the first letter becomes, which is as long either way, or behind that.
      by_cases hk : k < (lowerLetter c).length
      · rw [List.getElem?_append_left (hlength ▸ hk), List.getElem?_append_left hk]
        rcases lowerBetween_eq before c rest with hsame | ⟨rfl, hbefore, hafter, -⟩
        · exact .inl (by rw [hsame])
        · rw [lowerLetter_sigmas.1, List.length_singleton] at hk
          exact .inr ⟨[], rest, rfl, (Nat.lt_one_iff.1 hk).symm, hbefore, hafter⟩
      · rw [Nat.not_lt] at hk
        rw [List.getElem?_append_right (hlength ▸ hk), List.getElem?_append_right hk, hlength]
        rcases ih (c :: before) (k - (lowerLetter c).length) with hsame | ⟨earlier, later, rfl, hplace, hbefore, hafter⟩
        · exact .inl hsame
        · refine .inr ⟨c :: earlier, later, rfl, ?_, ?_, hafter⟩
          · rw [lowerEach_cons, List.length_append]
            omega
          · rwa [List.reverse_cons, List.append_assoc, List.singleton_append]

theorem lowerLetter_ne_nil (c : Char) : lowerLetter c ≠ [] := by
  rcases lowerLetter_cases c with hsame | rfl | ⟨_, _, m, _, hlower⟩
  · exact hsame ▸ List.cons_ne_nil _ _
  · exact lowerLetter_dotted ▸ List.cons_ne_nil _ _
  · exact hlower ▸ List.cons_ne_nil _ _

theorem lowerAfter_ne_nil {text : List Char} (h : text ≠ []) (before : List Char) : lowerAfter before text ≠ [] := by
  intro hnil
  have hfold := map_fold_lowerAfter before text
  rw [hnil, List.map_nil, eq_comm, List.map_eq_nil_iff] at hfold
  obtain ⟨c, rest, rfl⟩ := List.exists_cons_of_ne_nil h
  exact List.append_ne_nil_of_left_ne_nil (lowerLetter_ne_nil c) _ hfold

theorem length_le_lowerAfter (before text : List Char) : text.length ≤ (lowerAfter before text).length := by
  induction text generalizing before with
  | nil => exact Nat.le_refl _
  | cons c rest ih =>
      have hletter : lowerBetween before c rest ≠ [] := by
        rcases lowerBetween_eq before c rest with hsame | ⟨-, -, -, hfinal⟩
        · exact hsame ▸ lowerLetter_ne_nil c
        · exact hfinal ▸ List.cons_ne_nil _ _
      have hpos := List.length_pos_iff.2 hletter
      have hrest := ih (c :: before)
      rw [lowerAfter, List.length_append, List.length_cons]
      omega

/-- A text is in lower case just when each of its letters is its own lower case. -/
theorem lowerAfter_eq_self_iff {before text : List Char} :
    lowerAfter before text = text ↔ ∀ c ∈ text, lowerLetter c = [c] := by
  induction text generalizing before with
  | nil => exact iff_of_true rfl (List.forall_mem_nil _)
  | cons c rest ih =>
      rw [lowerAfter, List.forall_mem_cons]
      rcases lowerBetween_eq before c rest with hsame | ⟨rfl, -, -, hfinal⟩
      · rw [hsame]
        constructor
        · intro h
          obtain ⟨d, more, hletter⟩ := List.exists_cons_of_ne_nil (lowerLetter_ne_nil c)
          rw [hletter] at h ⊢
          rw [List.cons_append] at h
          obtain ⟨rfl, hrest⟩ := List.cons.inj h
          -- The rest does not get shorter, so nothing is left for a second letter.
          have hlength := congrArg List.length hrest
          have hshort := length_le_lowerAfter (d :: before) rest
          rw [List.length_append] at hlength
          obtain rfl : more = [] := List.length_eq_zero_iff.1 (by omega)
          exact ⟨rfl, ih.1 hrest⟩
        · rintro ⟨hletter, hrest⟩
          rw [hletter, ih.2 hrest]
          rfl
      · -- A capital sigma is not in lower case, wherever it stands.
        rw [hfinal, lowerLetter_sigmas.1]
        refine iff_of_false (fun h => ?_) fun h => ?_
        · exact absurd (List.cons.inj h).1 (by decide)
        · exact absurd (List.cons.inj h.1).1 (by decide)

/-- A sigma in a lower case stands where a sigma stood. -/
theorem lowerEach_split {text earlier later : List Char} {d : Char} (hd : d = 'σ' ∨ d = 'ς')
    (h : lowerEach text = earlier ++ d :: later) :
    ∃ before c after, text = before ++ c :: after ∧ c ∈ sigmas ∧ earlier = lowerEach before ∧
      later = lowerEach after := by
  induction text generalizing earlier with
  | nil => exact absurd h (List.append_ne_nil_of_right_ne_nil _ (List.cons_ne_nil _ _)).symm
  | cons c rest ih =>
      have hrest : ∀ middle, earlier = lowerLetter c ++ middle → lowerEach rest = middle ++ d :: later →
          ∃ before c' after, c :: rest = before ++ c' :: after ∧ c' ∈ sigmas ∧ earlier = lowerEach before ∧
            later = lowerEach after := by
        rintro middle rfl hmiddle
        obtain ⟨before, c', after, rfl, hc', rfl, hafter⟩ := ih hmiddle
        exact ⟨c :: before, c', after, rfl, hc', (lowerEach_cons c before).symm, hafter⟩
      rw [lowerEach_cons] at h
      rcases List.append_eq_append_iff.1 h with ⟨middle, hearlier, hmiddle⟩ | ⟨middle, hletter, hmiddle⟩
      · exact hrest middle hearlier hmiddle
      · cases middle with
        | nil => exact hrest [] (by rw [hletter, List.append_nil, List.append_nil]) hmiddle.symm
        | cons d' more =>
            -- The sigma is among what the first letter becomes, so it is all of that.
            obtain ⟨rfl, hlater⟩ := List.cons.inj hmiddle
            have hmem : d ∈ lowerLetter c := hletter ▸ List.mem_append_right _ List.mem_cons_self
            obtain ⟨hc, hsingle⟩ := mem_sigmas_of_lowerLetter hd hmem
            rw [hsingle] at hletter
            cases earlier with
            | nil =>
                obtain ⟨-, rfl⟩ := List.cons.inj hletter
                exact ⟨[], c, rest, rfl, hc, rfl, hlater⟩
            | cons d'' others => exact absurd (List.cons.inj hletter).2.symm (by simp)

end Crafting.Text

theorem String.lowered_eq_self_iff {text : String} :
    text.lowered = text ↔ ∀ c ∈ text.toList, Crafting.Text.lowerLetter c = [c] := by
  rw [← toList_inj, lowered, toList_ofList]
  exact Crafting.Text.lowerAfter_eq_self_iff
