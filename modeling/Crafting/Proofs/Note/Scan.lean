import Crafting.Note.Scan
import Crafting.Proofs.Act
import Crafting.Proofs.Note.Neighbours
import Crafting.Proofs.Result

/-!
# The recipes of a note

What comes of reading a note lies with its blocks alone, one after another. So a note that is cut before an opener or
behind a closer has the recipes of its two parts: an unclosed or malformed block neither swallows nor hides another one.
-/

namespace Crafting.Note

variable {σ : Type}

/-! ## What a note is called -/

/-- The source of a note, if it has one, can be written. -/
def Named (source : Option EntityRef) : Prop :=
  ∀ ref, source = some ref → ref.Writable

instance (source : Option EntityRef) : Decidable (Named source) :=
  match source with
  | none => .isTrue fun _ h => nomatch h
  | some ref => decidable_of_iff ref.Writable ⟨fun h _ hsame => Option.some.inj hsame ▸ h, fun h => h ref rfl⟩

/-- The name in the log of a note whose source can be written. -/
def plainOwner : Option EntityRef → String
  | none => "note"
  | some source => source.plainText

theorem Named.owner_eq {source : Option EntityRef} (h : Named source) : owner source = .ok (plainOwner source) := by
  cases source with
  | none => rfl
  | some ref => exact (h ref rfl).text_eq

theorem named_of_owner {source : Option EntityRef} {words : String} (h : owner source = .ok words) : Named source := by
  rintro ref rfl
  exact (EntityRef.text_eq_ok_iff.1 h).1

/-! ## Results in a row -/

/-- The recipes among results in a row, up to a cost that is too long, or one to be skipped of a note that cannot be
named. -/
def gathered (source : Option EntityRef) : List (Except Refusal Recipe) → Except Failure (List Recipe)
  | [] => .ok []
  | .ok recipe :: rest => (gathered source rest).map (recipe :: ·)
  | .error (.malformed _) :: rest => owner source >>= fun _ => gathered source rest
  | .error (.costTooLong digits) :: _ => .error (.tooManyDigits digits)

section

variable {source : Option EntityRef}

theorem gathered_ok_cons {recipe : Recipe} {rest : List (Except Refusal Recipe)} {found : List Recipe} :
    gathered source (.ok recipe :: rest) = .ok found ↔
      ∃ others, gathered source rest = .ok others ∧ recipe :: others = found := by
  rw [gathered, Result.map_eq_ok_iff]

theorem gathered_malformed_cons {fault : Fault} {rest : List (Except Refusal Recipe)} {found : List Recipe} :
    gathered source (.error (.malformed fault) :: rest) = .ok found ↔ Named source ∧ gathered source rest = .ok found := by
  rw [gathered, Result.bind_eq_ok_iff]
  constructor
  · rintro ⟨words, hwords, hrest⟩
    exact ⟨named_of_owner hwords, hrest⟩
  · rintro ⟨hnamed, hrest⟩
    exact ⟨_, hnamed.owner_eq, hrest⟩

theorem gathered_append {front back : List (Except Refusal Recipe)} {found : List Recipe} :
    gathered source (front ++ back) = .ok found ↔
      ∃ first second, gathered source front = .ok first ∧ gathered source back = .ok second ∧
        found = first ++ second := by
  -- By induction on the front: its recipes come first, and what refuses it refuses the whole.
  induction front generalizing found with
  | nil =>
      constructor
      · exact fun h => ⟨[], found, rfl, h, rfl⟩
      · rintro ⟨first, second, ⟨⟩, h, rfl⟩
        exact h
  | cons result front ih =>
      cases result with
      | ok recipe =>
          rw [List.cons_append, gathered_ok_cons]
          constructor
          · rintro ⟨others, hothers, rfl⟩
            obtain ⟨first, second, hfirst, hsecond, rfl⟩ := ih.1 hothers
            exact ⟨recipe :: first, second, gathered_ok_cons.2 ⟨first, hfirst, rfl⟩, hsecond, rfl⟩
          · rintro ⟨first, second, hfirst, hsecond, rfl⟩
            obtain ⟨others, hothers, rfl⟩ := gathered_ok_cons.1 hfirst
            exact ⟨others ++ second, ih.2 ⟨others, second, hothers, hsecond, rfl⟩, rfl⟩
      | error refusal =>
          cases refusal with
          | malformed fault =>
              simp only [List.cons_append, gathered_malformed_cons, ih]
              constructor
              · rintro ⟨hnamed, first, second, hfirst, hsecond, rfl⟩
                exact ⟨first, second, ⟨hnamed, hfirst⟩, hsecond, rfl⟩
              · rintro ⟨first, second, ⟨hnamed, hfirst⟩, hsecond, rfl⟩
                exact ⟨hnamed, first, second, hfirst, hsecond, rfl⟩
          | costTooLong digits =>
              constructor
              · exact fun h => nomatch h
              · rintro ⟨_, _, ⟨⟩, -⟩

theorem mem_of_gathered {results : List (Except Refusal Recipe)} {found : List Recipe}
    (h : gathered source results = .ok found) {recipe : Recipe} (hmem : recipe ∈ found) : .ok recipe ∈ results := by
  induction results generalizing found with
  | nil => cases h; cases hmem
  | cons result rest ih =>
      cases result with
      | ok first =>
          obtain ⟨others, hothers, rfl⟩ := gathered_ok_cons.1 h
          rcases List.mem_cons.1 hmem with rfl | hmem
          · exact List.mem_cons_self
          · exact List.mem_cons_of_mem _ (ih hothers hmem)
      | error refusal =>
          cases refusal with
          | malformed fault => exact List.mem_cons_of_mem _ (ih (gathered_malformed_cons.1 h).2 hmem)
          | costTooLong digits => cases h

end

theorem keepRecipes_value (source : Option EntityRef) (readings : List (Nat × Except Refusal Recipe)) (s : σ) :
    (keepRecipes source readings s).value = gathered source (readings.map Prod.snd) := by
  induction readings generalizing s with
  | nil => rfl
  | cons reading rest ih =>
      obtain ⟨number, result⟩ := reading
      cases result with
      | ok recipe =>
          rw [keepRecipes, List.map_cons, gathered, ← ih s]
          cases h : (keepRecipes source rest s).value with
          | ok others => rw [Act.run_bind_of_ok h]; rfl
          | error failure => rw [Act.run_bind_of_error h]; rfl
      | error refusal =>
          cases refusal with
          | malformed fault =>
              rw [keepRecipes, List.map_cons, gathered, ← ih s, Act.run_bind, Act.report_value, Act.report_state,
                skippedText]
              cases owner source <;> rfl
          | costTooLong digits => rfl

theorem readings_map_snd (note : String) (source : Option EntityRef) :
    (readings note source).map Prod.snd = (blocks note.toList).map (readBlock · source) := by
  rw [readings, List.map_map]
  calc
    _ = (((blocks note.toList).zipIdx 1).map Prod.fst).map (readBlock · source) := by rw [List.map_map]; rfl
    _ = _ := by rw [List.zipIdx_map_fst]

/-- The blocks of a note decide its recipes, whatever number they have. -/
theorem recipes_value (note : String) (source : Option EntityRef) (s : σ) :
    (recipes note source s).value = gathered source ((blocks note.toList).map (readBlock · source)) := by
  rw [recipes, keepRecipes_value, readings_map_snd]

/-! ## Notes in two parts -/

/-- The blocks of a note are the texts between an opener and a closer that are neighbours among its tags. So a note cut
before an opener or behind a closer can be read just when both parts can, and has the recipes of the one and then those
of the other. -/
theorem blocks_of_neighbours :
    (∀ note : List Char, blocks note = ((tags note).zip (tags note).tail).filterMap (enclosed? note)) ∧
    ∀ (front back : String) (source : Option EntityRef) (s : σ),
      (beginsWith openTag back.toList = true ∨
        ∃ before closer, front.toList = before ++ closer ∧ Spells closeTag closer) →
      ∀ found, (recipes (front ++ back) source s).value = .ok found ↔
        ∃ first second, (recipes front source s).value = .ok first ∧ (recipes back source s).value = .ok second ∧
          found = first ++ second := by
  refine ⟨blocks_eq_enclosed, fun front back source s hseam found => ?_⟩
  rw [recipes_value, recipes_value, recipes_value, String.toList_append, blocks_append hseam, List.map_append]
  exact gathered_append

end Crafting.Note

namespace Crafting.Sample

open Note

/-- A note that never closes its block. -/
def unclosed : String := "<recipe>\nResult: Item 3\n(author forgot to close)\n"

def closed : String := "<RECİPE>\nResult: Item 2\nMaterial1: Item 8, 1\n</recipe>"

theorem unclosed_hides_nothing :
    beginsWith openTag closed.toList = true ∧
      (recipes (unclosed ++ closed) none ()).value =
        .ok [{ result := ⟨.item, 2, by decide⟩, materials := [⟨⟨.item, 8, by decide⟩, 1, by decide⟩] }] := by
  have hopen : beginsWith openTag closed.toList = true := by decide +kernel
  refine ⟨hopen, ((blocks_of_neighbours (σ := Unit)).2 unclosed closed none () (.inl hopen) _).2 ⟨[], _, ?_, ?_, rfl⟩⟩
  · decide +kernel
  · decide +kernel

end Crafting.Sample
