import Crafting.Proofs.Note.Refusal
import Crafting.Proofs.Note.Scan
import Crafting.Proofs.Note.Written

/-!
# When reading a note returns

Reading a note stops at a block that is refused for its cost alone. It also stops at a block to be skipped, if the note
cannot be named in the word about that, and at nothing else. Where it meets no such block, each block gives a recipe, or
else it is skipped by those who read the note and reported to its author.
-/

namespace Crafting.Note

open Text

variable {σ : Type}

/-! ## Readings one after another -/

/-- Whether reading a note of that source goes no further than this result. -/
def stops (source : Option EntityRef) : Except Refusal Recipe → Bool
  | .error (.costTooLong _) => true
  | .error (.malformed _) => !decide (Named source)
  | .ok _ => false

def fault? : Except Refusal Recipe → Option Fault
  | .error (.malformed fault) => some fault
  | .ok _ | .error (.costTooLong _) => none

/-- The number of a malformed block and its fault. -/
def malformed? (reading : Nat × Except Refusal Recipe) : Option (Nat × Fault) :=
  (fault? reading.2).map fun fault => (reading.1, fault)

/-- The word in the log on a block that is skipped. -/
def skipEntry (source : Option EntityRef) (block : Nat × Fault) : Log.Entry :=
  Log.debug logSource
    ("Skipping recipe block " ++ (toString block.1 ++ " ") ++ "of " ++ plainOwner source ++ ": " ++ block.2.message)

/-- The word to the author on a block that is skipped. -/
def problemText (block : Nat × Fault) : String :=
  "recipe block " ++ toString block.1 ++ ": " ++ block.2.message

theorem stops_eq_true_iff {source : Option EntityRef} {result : Except Refusal Recipe} :
    stops source result = true ↔ (∃ digits, result = .error (.costTooLong digits)) ∨
      ¬Named source ∧ ∃ fault, result = .error (.malformed fault) := by
  rcases result with (fault | digits) | recipe <;> simp [stops]

section

variable {source : Option EntityRef} {readings : List (Nat × Except Refusal Recipe)}

theorem named_of_stops {fault : Fault} (h : stops source (.error (.malformed fault)) = false) : Named source := by
  simpa [stops] using h

theorem skippedText_eq (hnamed : Named source) (which : String) (fault : Fault) :
    skippedText which source fault =
      .ok ("Skipping recipe block " ++ which ++ "of " ++ plainOwner source ++ ": " ++ fault.message) := by
  rw [skippedText, hnamed.owner_eq]
  rfl

theorem keepRecipes_run (h : ∀ reading ∈ readings, stops source reading.2 = false) (s : σ) :
    keepRecipes source readings s =
      ⟨.ok (readings.filterMap fun reading => reading.2.toOption), s,
        (readings.filterMap malformed?).map (skipEntry source)⟩ := by
  induction readings with
  | nil => rfl
  | cons reading rest ih =>
      have hrest := ih fun other hother => h other (List.mem_cons_of_mem _ hother)
      have hfirst := h reading List.mem_cons_self
      obtain ⟨number, (fault | digits) | recipe⟩ := reading
      · rw [keepRecipes, Act.run_bind_report (skippedText_eq (named_of_stops hfirst) _ fault), hrest]
        rfl
      · cases hfirst
      · simp only [keepRecipes, Act.run_bind, Act.run_pure, hrest, List.append_nil]
        rfl

theorem exists_keepRecipes_iff {s : σ} :
    (∃ found, (keepRecipes source readings s).value = .ok found) ↔
      ∀ reading ∈ readings, stops source reading.2 = false := by
  constructor
  · rintro ⟨found, hfound⟩
    rw [keepRecipes_value] at hfound
    induction readings generalizing found with
    | nil => exact fun _ hmem => nomatch hmem
    | cons reading rest ih =>
        obtain ⟨number, (fault | digits) | recipe⟩ := reading
        · obtain ⟨hnamed, hrest⟩ := gathered_malformed_cons.1 hfound
          exact List.forall_mem_cons.2 ⟨by simpa [stops] using hnamed, ih found hrest⟩
        · cases hfound
        · obtain ⟨others, hothers, -⟩ := gathered_ok_cons.1 hfound
          exact List.forall_mem_cons.2 ⟨rfl, ih others hothers⟩
  · intro h
    rw [keepRecipes_run h]
    exact ⟨_, rfl⟩

theorem keepProblems_eq (h : ∀ reading ∈ readings, stops none reading.2 = false) :
    keepProblems readings = .ok ((readings.filterMap malformed?).map problemText) := by
  induction readings with
  | nil => rfl
  | cons reading rest ih =>
      have hrest := ih fun other hother => h other (List.mem_cons_of_mem _ hother)
      have hfirst := h reading List.mem_cons_self
      obtain ⟨number, (fault | digits) | recipe⟩ := reading
      · rw [keepProblems, hrest]
        rfl
      · cases hfirst
      · rw [keepProblems, hrest]
        rfl

theorem exists_keepProblems_iff :
    (∃ messages, keepProblems readings = .ok messages) ↔ ∀ reading ∈ readings, stops none reading.2 = false := by
  constructor
  · rintro ⟨messages, hmessages⟩
    induction readings generalizing messages with
    | nil => exact fun _ hmem => nomatch hmem
    | cons reading rest ih =>
        obtain ⟨number, (fault | digits) | recipe⟩ := reading
        · obtain ⟨others, hothers, -⟩ := Result.map_eq_ok_iff.1 hmessages
          exact List.forall_mem_cons.2 ⟨rfl, ih others hothers⟩
        · cases hmessages
        · exact List.forall_mem_cons.2 ⟨rfl, ih messages hmessages⟩
  · exact fun h => ⟨_, keepProblems_eq h⟩

/-- The search for a first recipe returns just when it finds one before the block at which it would stop. -/
theorem exists_keepFirst_iff {s : σ} :
    (∃ found, (keepFirst source readings s).value = .ok found) ↔
      ∀ before result after, readings.map Prod.snd = before ++ result :: after → stops source result = true →
        ∃ recipe, .ok recipe ∈ before := by
  induction readings generalizing s with
  | nil => simp [keepFirst]
  | cons reading rest ih =>
      rw [List.map_cons]
      obtain ⟨number, (fault | digits) | recipe⟩ := reading
      · by_cases hnamed : Named source
        · rw [keepFirst, Act.run_bind_report (skippedText_eq hnamed _ fault), ih]
          constructor
          · rintro h (_ | ⟨first, before⟩) result after heq hstops
            · cases heq
              simp [stops, hnamed] at hstops
            · obtain ⟨recipe, hmem⟩ := h before result after (List.cons.inj heq).2 hstops
              exact ⟨recipe, List.mem_cons_of_mem _ hmem⟩
          · intro h before result after heq hstops
            obtain ⟨recipe, hmem⟩ := h (_ :: before) result after (congrArg _ heq) hstops
            exact ⟨recipe, (List.mem_cons.1 hmem).resolve_left nofun⟩
        · -- The word about the first block cannot be written, so that the search ends there.
          refine iff_of_false (fun ⟨found, hfound⟩ => ?_) fun h => ?_
          · obtain ⟨_, hreport, -⟩ := Act.bind_eq_ok_iff.1 hfound
            rw [Act.report_value, Result.map_eq_ok_iff] at hreport
            obtain ⟨_, hwords, -⟩ := hreport
            obtain ⟨_, howner, -⟩ := Result.bind_eq_ok_iff.1 hwords
            exact hnamed (named_of_owner howner)
          · obtain ⟨recipe, hmem⟩ := h [] _ _ rfl (by simpa [stops] using hnamed)
            exact nomatch hmem
      · refine iff_of_false (fun ⟨found, hfound⟩ => nomatch hfound) fun h => ?_
        obtain ⟨recipe, hmem⟩ := h [] _ _ rfl rfl
        exact nomatch hmem
      · refine iff_of_true ⟨some recipe, rfl⟩ ?_
        rintro (_ | ⟨first, before⟩) result after heq hstops
        · cases heq
          cases hstops
        · obtain ⟨rfl, -⟩ := List.cons.inj heq
          exact ⟨recipe, List.mem_cons_self⟩

theorem keepFirst_value {s : σ} {found : Option Recipe} (h : (keepFirst source readings s).value = .ok found) :
    found = (readings.filterMap fun reading => reading.2.toOption).head? := by
  induction readings generalizing s with
  | nil =>
      cases h
      rfl
  | cons reading rest ih =>
      obtain ⟨number, (fault | digits) | recipe⟩ := reading
      · obtain ⟨_, -, hrest⟩ := Act.bind_eq_ok_iff.1 h
        exact ih hrest
      · cases h
      · cases h
        rfl

end

/-! ## Notes -/

/-- The malformed blocks of a note by their numbers, each with its fault. -/
def malformedIn (note : String) : List (Nat × Fault) :=
  (readings note none).filterMap malformed?

/-- The recipes of all blocks that can be read. -/
def declaredIn (note : String) (source : Option EntityRef) : List Recipe :=
  (blocks note.toList).filterMap fun body => (readBlock body source).toOption

theorem filterMap_toOption (note : String) (source : Option EntityRef) :
    ((readings note source).filterMap fun reading => reading.2.toOption) = declaredIn note source := by
  calc
    _ = ((readings note source).map Prod.snd).filterMap Except.toOption := by rw [List.filterMap_map]; rfl
    _ = _ := by rw [readings_map_snd, List.filterMap_map]; rfl

theorem filterMap_malformed? (note : String) (source : Option EntityRef) :
    (readings note source).filterMap malformed? = malformedIn note := by
  have hfault : ∀ body, fault? (readBlock body source) = fault? (readBlock body none) := by
    intro body
    rw [readBlock_source body source]
    rcases readBlock body none with (fault | digits) | recipe <;> rfl
  simp only [malformedIn, readings, List.filterMap_map]
  refine List.filterMap_congr fun block _ => ?_
  simp only [Function.comp_apply, malformed?, hfault]

/-- Nothing comes of reading a note of that source at this block: it is in order but for a cost of too many digits, or it
is to be skipped and the note cannot be named. -/
def Blocks (source : Option EntityRef) (body : List Char) : Prop :=
  (∃ digits, CostTooLong body digits) ∨ ¬Named source ∧ ¬∃ recipe, Declares body recipe

/-- Reading never comes to a block at which it stops: the note has no such block or, where only the first recipe counts,
has a recipe before it. -/
def Unblocked (source : Option EntityRef) (note : String) : Mode → Prop
  | .every => ∀ body ∈ blocks note.toList, ¬Blocks source body
  | .first => ∀ before body after, blocks note.toList = before ++ body :: after → Blocks source body →
      ∃ other ∈ before, ∃ recipe, Declares other recipe

theorem Blocks.named {source : Option EntityRef} (h : Named source) {body : List Char} :
    Blocks source body ↔ ∃ digits, CostTooLong body digits :=
  ⟨fun hblocks => hblocks.resolve_right fun hunnamed => hunnamed.1 h, .inl⟩

theorem stops_readBlock_iff {body : List Char} {source : Option EntityRef} :
    stops source (readBlock body source) = true ↔ Blocks source body := by
  rw [stops_eq_true_iff, exists_malformed_iff, Blocks]
  simp only [readBlock_eq_costTooLong_iff]
  constructor
  · rintro (hlong | ⟨hunnamed, hnone, -⟩)
    · exact .inl hlong
    · exact .inr ⟨hunnamed, hnone⟩
  · rintro (hlong | ⟨hunnamed, hnone⟩)
    · exact .inl hlong
    · by_cases hlong : ∃ digits, CostTooLong body digits
      · exact .inl hlong
      · exact .inr ⟨hunnamed, hnone, fun digits hcost => hlong ⟨digits, hcost⟩⟩

theorem unblocked_every_iff {note : String} {source : Option EntityRef} :
    (∀ reading ∈ readings note source, stops source reading.2 = false) ↔ Unblocked source note .every := by
  have hmap : (∀ reading ∈ readings note source, stops source reading.2 = false) ↔
      ∀ result ∈ (readings note source).map Prod.snd, stops source result = false := by
    rw [List.forall_mem_map]
  rw [hmap, readings_map_snd, List.forall_mem_map]
  simp only [← Bool.not_eq_true, stops_readBlock_iff]
  exact Iff.rfl

theorem exists_recipes_iff {note : String} {source : Option EntityRef} {s : σ} :
    (∃ found, (recipes note source s).value = .ok found) ↔ Unblocked source note .every :=
  exists_keepRecipes_iff.trans unblocked_every_iff

theorem recipes_run {note : String} {source : Option EntityRef} (h : Unblocked source note .every) (s : σ) :
    recipes note source s = ⟨.ok (declaredIn note source), s, (malformedIn note).map (skipEntry source)⟩ := by
  rw [recipes, keepRecipes_run (unblocked_every_iff.2 h), filterMap_toOption, filterMap_malformed?]

theorem problems_eq {note : String} (h : Unblocked none note .every) :
    problems note = .ok ((malformedIn note).map problemText) :=
  keepProblems_eq (unblocked_every_iff.2 h)

theorem unblocked_first_iff {note : String} {source : Option EntityRef} :
    (∀ before result after, (readings note source).map Prod.snd = before ++ result :: after →
      stops source result = true → ∃ recipe, .ok recipe ∈ before) ↔ Unblocked source note .first := by
  have hread : ∀ front : List (List Char), (∃ recipe, .ok recipe ∈ front.map (readBlock · source)) ↔
      ∃ other ∈ front, ∃ recipe, Declares other recipe := by
    intro front
    simp only [List.mem_map, readBlock_eq_ok_iff]
    constructor
    · rintro ⟨recipe, other, hother, hdeclares, -⟩
      exact ⟨other, hother, recipe, hdeclares⟩
    · rintro ⟨other, hother, recipe, hdeclares⟩
      exact ⟨_, other, hother, hdeclares.withSource source, rfl⟩
  rw [readings_map_snd]
  constructor
  · intro h before body after hblocks hlong
    refine (hread before).1
      (h _ (readBlock body source) (after.map (readBlock · source)) ?_ (stops_readBlock_iff.2 hlong))
    rw [hblocks, List.map_append, List.map_cons]
  · intro h before result after hresults hstops
    obtain ⟨front, back, hblocks, rfl, hback⟩ := List.map_eq_append_iff.1 hresults
    obtain ⟨body, rest, rfl, rfl, rfl⟩ := List.map_eq_cons_iff.1 hback
    exact (hread front).2 (h front body rest hblocks (stops_readBlock_iff.1 hstops))

theorem exists_firstRecipe_iff {note : String} {source : Option EntityRef} {s : σ} :
    (∃ found, (firstRecipe note source s).value = .ok found) ↔ Unblocked source note .first :=
  exists_keepFirst_iff.trans unblocked_first_iff

theorem exists_recipesIn_iff {mode : Mode} {note : String} {source : Option EntityRef} {s : σ} :
    (∃ found, (recipesIn mode note source s).value = .ok found) ↔ Unblocked source note mode := by
  cases mode with
  | every => exact exists_recipes_iff
  | first =>
      rw [← exists_firstRecipe_iff (s := s), recipesIn]
      cases hread : (firstRecipe note source s).value with
      | ok found => exact iff_of_true ⟨found.toList, by rw [Act.run_bind_of_ok hread]; rfl⟩ ⟨found, rfl⟩
      | error failure =>
          rw [Act.run_bind_of_error hread]
          exact iff_of_false nofun nofun

theorem exists_problems_iff {note : String} : (∃ messages, problems note = .ok messages) ↔ Unblocked none note .every :=
  exists_keepProblems_iff.trans unblocked_every_iff

/-- What does not block reading all recipes does not block reading the first. -/
theorem Unblocked.of_every {note : String} {source : Option EntityRef} (h : Unblocked source note .every)
    (mode : Mode) : Unblocked source note mode := by
  cases mode with
  | every => exact h
  | first =>
      intro before body after hblocks hstops
      have hmem : body ∈ blocks note.toList := hblocks ▸ List.mem_append_right before List.mem_cons_self
      exact absurd hstops (h body hmem)

/-- A note without a source is no worse to read. -/
theorem Unblocked.unsourced {note : String} {source : Option EntityRef} (h : Unblocked source note .every) :
    Unblocked none note .every := by
  intro body hmem hstops
  exact h body hmem (.inl ((Blocks.named (by rintro _ ⟨⟩)).1 hstops))

theorem mem_malformedIn_iff {note : String} {number : Nat} {fault : Fault} :
    (number, fault) ∈ malformedIn note ↔
      ∃ body, (body, number) ∈ (blocks note.toList).zipIdx 1 ∧ readBlock body none = .error (.malformed fault) := by
  have hfault : ∀ result fault, fault? result = some fault ↔ result = .error (.malformed fault) := by
    rintro ((other | digits) | recipe) fault <;> simp [fault?]
  simp only [malformedIn, readings, List.mem_filterMap, List.mem_map, malformed?, Option.map_eq_some_iff, hfault,
    Prod.exists, Prod.mk.injEq]
  constructor
  · rintro ⟨_, _, ⟨body, _, hmem, rfl, rfl⟩, _, hread, rfl, rfl⟩
    exact ⟨body, hmem, hread⟩
  · rintro ⟨body, hmem, hread⟩
    exact ⟨number, _, ⟨body, number, hmem, rfl, rfl⟩, fault, hread, rfl, rfl⟩

/-- Where reading comes to no cost that is too long, the malformed blocks are those that declare no recipe. -/
theorem malformedIn_number_iff {note : String} (h : Unblocked none note .every) {body : List Char} {number : Nat}
    (hblock : (body, number) ∈ (blocks note.toList).zipIdx 1) :
    (∃ fault, (number, fault) ∈ malformedIn note) ↔ ¬∃ recipe, Declares body recipe := by
  have hlong : ∀ digits, ¬CostTooLong body digits := fun digits hcost =>
    h body (List.fst_mem_of_mem_zipIdx hblock) (.inl ⟨digits, hcost⟩)
  rw [← and_iff_left (a := ¬∃ recipe, Declares body recipe) hlong, ← exists_malformed_iff none]
  refine exists_congr fun fault => mem_malformedIn_iff.trans ⟨?_, fun hread => ⟨body, hblock, hread⟩⟩
  -- No two blocks have one number.
  rintro ⟨other, hother, hread⟩
  obtain rfl : other = body := by
    have hfirst := List.mem_zipIdx hother
    have hsecond := List.mem_zipIdx hblock
    exact hfirst.2.2.trans hsecond.2.2.symm
  exact hread

/-- What is written of a recipe whose cost alone cannot be written is refused for that cost. -/
theorem costTooLong_written {recipe : Recipe} (hmaterials : recipe.materials ≠ [])
    (hwritable : ∀ n ∈ { recipe with cost := 0 }.numbers, Numeral.Writable n) (h : Readable recipe)
    (hcost : ¬Numeral.Writable recipe.cost) :
    CostTooLong (writtenBody recipe) (Nat.toDigits 10 recipe.cost).length := by
  have hsome : recipe.cost ≠ 0 := by
    intro hzero
    rw [hzero] at hcost
    exact hcost Numeral.writable_zero
  have hgive : (written { recipe with cost := 0 }).Give { recipe with cost := 0 } :=
    written_give hmaterials hwritable h.kinds
  refine ⟨written recipe, (toString recipe.cost).toList, { recipe with cost := 0 }, writtenBody_fields h.description,
    if_neg hsome, ?_, ?_, Nat.lt_of_not_le hcost, hgive⟩
  · rw [toString_toList]
    exact fun c hc => Numeral.isDecimal_of_mem_toDigits hc
  · rw [toString_toList]

/-- Reading a note returns, in each mode, just when it comes to no block that is refused for its cost alone and, where the
note has a source that cannot be written, to no block that is to be skipped. Then each block that declares no recipe is
skipped with a word in the log and reported to the author, and all others are read. -/
theorem recipes_return_iff (note : String) (source : Option EntityRef) (s : σ) :
    (∀ mode, (∃ found, (recipesIn mode note source s).value = .ok found) ↔ Unblocked source note mode) ∧
    ((∃ found, (firstRecipe note source s).value = .ok found) ↔ Unblocked source note .first) ∧
    ((∃ messages, problems note = .ok messages) ↔ Unblocked none note .every) ∧
    (Unblocked source note .every →
      recipes note source s = ⟨.ok (declaredIn note source), s, (malformedIn note).map (skipEntry source)⟩) ∧
    (Unblocked none note .every →
      problems note = .ok ((malformedIn note).map problemText) ∧
      ∀ body number, (body, number) ∈ (blocks note.toList).zipIdx 1 →
        ((∃ fault, (number, fault) ∈ malformedIn note) ↔ ¬∃ recipe, Declares body recipe)) ∧
    (Unblocked source note .first → (firstRecipe note source s).value = .ok (declaredIn note source).head?) := by
  refine ⟨fun mode => exists_recipesIn_iff, exists_firstRecipe_iff, exists_problems_iff, fun h => recipes_run h s,
    fun h => ⟨problems_eq h, fun body number hblock => malformedIn_number_iff h hblock⟩, fun h => ?_⟩
  obtain ⟨found, hfound⟩ := exists_firstRecipe_iff.2 h
  rw [hfound, keepFirst_value hfound, filterMap_toOption]

end Crafting.Note

namespace Crafting.Sample

open Note Text

/-- A recipe at a cost of one digit more than a numeral may have. -/
def ransom : Recipe where
  result := ⟨.item, 2, Nat.two_pos⟩
  materials := [⟨⟨.item, 8, Nat.succ_pos 7⟩, 1, Nat.one_pos⟩]
  cost := 10 ^ Numeral.maxDigits

def ransomNote : String :=
  String.ofList (openTag ++ (writtenBody ransom ++ closeTag))

/-- Its block is nothing that can be read, and still neither skipped nor reported. -/
theorem ransom_stops :
    (∀ mode, ¬∃ found, (recipesIn mode ransomNote none ()).value = .ok found) ∧
      (¬∃ found, (firstRecipe ransomNote none ()).value = .ok found) ∧
      ¬∃ messages, problems ransomNote = .ok messages := by
  have hcost : ¬Numeral.Writable ransom.cost := fun h =>
    Nat.lt_irrefl _ ((Nat.length_toDigits_le_iff (by decide) (by decide)).1 h)
  have hplain : Plain ransom.description.toList := ⟨rfl, List.forall_mem_nil _, rfl⟩
  have hlong : CostTooLong (writtenBody ransom) (Nat.toDigits 10 ransom.cost).length :=
    costTooLong_written (List.cons_ne_nil _ _) (by decide +kernel) ⟨by decide, hplain⟩ hcost
  have hblocks : blocks ransomNote.toList = [writtenBody ransom] := by
    rw [ransomNote, String.toList_ofList]
    exact blocks_written hplain
  have hblocked : ∀ mode, ¬Unblocked none ransomNote mode := by
    rintro (_ | _) h
    · exact h (writtenBody ransom) (hblocks ▸ List.mem_singleton_self _) (.inl ⟨_, hlong⟩)
    · obtain ⟨other, hother, -⟩ := h [] (writtenBody ransom) [] hblocks (.inl ⟨_, hlong⟩)
      cases hother
  obtain ⟨hmodes, hfirst, hproblems, -⟩ := recipes_return_iff ransomNote none ()
  exact ⟨fun mode => (hmodes mode).not.2 (hblocked mode), hfirst.not.2 (hblocked .first),
    hproblems.not.2 (hblocked .every)⟩

end Crafting.Sample
